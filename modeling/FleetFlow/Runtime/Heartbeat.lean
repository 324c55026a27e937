import FleetFlow.Runtime.Rollback
import FleetFlow.Runtime.Sweep

/-!
# The heartbeat

Follows `reconcile_routes` of `application/services/world_state_reconciliation_service.py` and
`application/services/heartbeat_service.py`.
-/

namespace FleetFlow

open Program

/-- Changed entities by id, and correction events; `application/results/heartbeat_summary_result.py`.
`skippedRoutes` are the routes that the source only logs as restored. -/
structure HeartbeatSummary where
  mutatedRoutes : List Int
  mutatedPackages : List Int
  mutatedTrucksMoved : List Int
  mutatedTrucksReleased : List Int
  mutatedTrucksReconciled : List Int
  reconciliationEvents : List ReconciliationEvent
  skippedRoutes : List Int
deriving DecidableEq, Repr

/-- An object whose pending events are drained after a command. A removed entity is no longer
reachable by id, so its events are carried along. -/
inductive EventRecorder where
  | customer (customerId : Int)
  | package (packageId : Int)
  | route (routeId : Int)
  | removed (pendingEvents : List DomainEvent)
deriving DecidableEq, Repr

namespace HeartbeatSummary

/-- Collect the passes; `world_state_reconciliation_service.py:111–129`. -/
def ofPasses (passes : List (Int × Option RouteChanges)) : HeartbeatSummary :=
  let changes := passes.filterMap Prod.snd
  { mutatedRoutes := passes.filterMap fun (r, ch) ↦ if ch.any RouteChanges.routeChanged then some r
      else none
    mutatedPackages := changes.flatMap RouteChanges.packagesUpdated
    mutatedTrucksMoved := changes.flatMap fun ch ↦ ch.trucks.trucksMoved
    mutatedTrucksReleased := changes.flatMap fun ch ↦ ch.trucks.trucksReleased
    mutatedTrucksReconciled := changes.flatMap fun ch ↦ ch.trucks.trucksReconciled
    reconciliationEvents := changes.flatMap RouteChanges.events
    skippedRoutes := passes.filterMap fun (r, ch) ↦ if ch.isNone then some r else none }

variable (summary : HeartbeatSummary)

/-- Trucks to persist; `heartbeat_service.py:83–87`. -/
def changedTrucks : List Int :=
  (summary.mutatedTrucksMoved ++ summary.mutatedTrucksReleased ++
    summary.mutatedTrucksReconciled).dedup

/-- Whether there is anything to persist; `heartbeat_summary_result.py:57–66`. -/
def stateChanged : Bool :=
  !(summary.mutatedRoutes.isEmpty && summary.mutatedPackages.isEmpty &&
    summary.mutatedTrucksMoved.isEmpty && summary.mutatedTrucksReleased.isEmpty &&
    summary.mutatedTrucksReconciled.isEmpty)

/-- Recorders to drain, each once; `heartbeat_summary_result.py:68–91`. -/
def eventRecorders : List EventRecorder :=
  (summary.mutatedRoutes.map EventRecorder.route).dedup ++
    (summary.mutatedPackages.map EventRecorder.package).dedup

end HeartbeatSummary

/-- Reconcile the listed routes; `world_state_reconciliation_service.py:35–129`. -/
def Reconciler.reconcileRoutes (now : Datetime) (updateTrucks : Bool) (routeIds : List Int) :
    Action HeartbeatSummary :=
  HeartbeatSummary.ofPasses <$> Action.sweep (reconcileRoute now updateTrucks) routeIds

namespace HeartbeatService

/-- Persist what the summary lists; `heartbeat_service.py:76–91`. -/
def persist (uow : UnitOfWork) (summary : HeartbeatSummary) : Action PUnit := do
  forM summary.mutatedRoutes fun r ↦ Action.call uow (.updateRoute r)
  forM summary.mutatedPackages fun p ↦ Action.call uow (.updatePackage p)
  forM summary.changedTrucks fun t ↦ Action.call uow (.updateTruck t)
  Action.call uow .commit

/-- Put back what was captured before; `heartbeat_service.py:93–104`. -/
def restore (before : World) : Action PUnit := do
  let routes := before.routes.values
  forM routes fun route ↦
    Action.restoreRoute route.routeId route.snapshotState (eventCheckpoint route.pendingEvents)
  forM (routes.flatMap before.packagesOf) fun package ↦
    Action.restorePackage package.packageId package.snapshotState
      (some (eventCheckpoint package.pendingEvents))
  forM (routes.filterMap before.truckOf) fun truck ↦
    Action.restoreTruck truck.vehicleId truck.snapshotState

/-- Advance the world to an instant; `heartbeat_service.py:35–107`. -/
def advance (uow : UnitOfWork) (now : Datetime) : Action HeartbeatSummary := do
  let before ← get
  tryCatch (do
      let summary ← Reconciler.reconcileRoutes now true
        (before.routes.values.map DeliveryRoute.routeId)
      if summary.stateChanged then persist uow summary
      pure summary)
    fun e ↦ do
      restore before
      throw e

end HeartbeatService

/-! ### What a heartbeat does -/

namespace Reconciler

/-- What a pass over one cell leaves behind. -/
def PassOf (now : Datetime) (before : RouteCell) (changes : Option RouteChanges)
    (after : RouteCell) : Prop :=
  (∃ ch, changes = some ch ∧ RoutePass now before ch after) ∨
    changes = none ∧ after = before ∧
      ∃ t, before.truck = some t ∧ t.currentLocation = none ∧ before.route.Finished now

/-- A pass keeps the ids of its cell. -/
theorem PassOf.sameIds {now : Datetime} {before after : RouteCell}
    {changes : Option RouteChanges} (h : PassOf now before changes after) :
    before.SameIds after := by
  obtain ⟨ch, -, h⟩ | ⟨-, rfl, -⟩ := h
  · refine ⟨h.routeId, ?_, ?_⟩
    · have htruck := h.truck
      revert htruck
      cases before.truck <;> cases after.truck <;> intro htruck <;> cases htruck
      · rfl
      · next h => exact congrArg some h.same.vehicleId.symm
    · have hpackages := h.packages
      revert hpackages
      generalize before.packages = ps
      generalize after.packages = qs
      intro hpackages
      induction hpackages with
      | nil => rfl
      | cons h _ ih => rw [List.map_cons, List.map_cons, ih, h.same.packageId]
  · exact ⟨rfl, rfl, rfl⟩

/-- A world whose routes can all be passed over. -/
structure Ready (now : Datetime) (w : World) : Prop where
  linked : w.RouteLinked
  status : ∀ {r : Int} {route}, w.routes.find? r = some route → StatusReady route now
  inOrder : ∀ {r : Int} {route} {package : DeliveryPackage}, w.routes.find? r = some route →
    package ∈ w.packagesOf route →
    route.includesInOrder package.startLocation package.endLocation = true

/-- The cells of a ready world are ready. -/
theorem Ready.cellReady {now : Datetime} {w : World} (h : Ready now w) {r : Int}
    {route : DeliveryRoute} (hr : w.routes.find? r = some route) : CellReady now (w.cell route) := by
  have hid : route.routeId = r := Store.key_of_find? hr
  refine ⟨h.status hr, fun t ht ↦ ?_, fun p hp ↦ ⟨?_, h.inOrder hr hp⟩⟩
  · have ht' : route.truck.bind w.trucks.find? = some t := ht
    rw [Option.bind_eq_some_iff] at ht'
    obtain ⟨id, hroute, htruck⟩ := ht'
    obtain ⟨truck, htruck', hlink⟩ := h.linked.truck_of_route hr hroute
    rw [htruck, Option.some.injEq] at htruck'
    subst htruck'
    exact ⟨by rw [Store.key_of_find? htruck]; exact hroute, hlink.trans (congrArg some hid.symm)⟩
  · obtain ⟨hmem, hfind⟩ := World.mem_packagesOf.mp hp
    obtain ⟨package, hpackage, hlink⟩ := h.linked.package_of_route hr hmem
    rw [hfind, Option.some.injEq] at hpackage
    subst hpackage
    rw [h.linked.routeId hfind, hlink]
    rfl

/-- Passing over routes of a ready world visits each cell as it was. -/
theorem ensures_reconcileRoutes {now : Datetime} {w : World} (h : Ready now w) {ids : List Int}
    (hids : ∀ r ∈ ids, ∃ route, w.routes.find? r = some route) (hnd : ids.Nodup) :
    Ensures (reconcileRoutes now true ids) w
      (fun summary w' ↦ ∃ passes, summary = .ofPasses passes ∧ passes.map Prod.fst = ids ∧
        World.Swept (PassOf now) w passes w') (fun _ _ ↦ False) := by
  unfold reconcileRoutes
  rw [ensures_map]
  refine (World.ensures_sweep (PassOf now) h.linked (fun r route hr ↦ ?_) .nil hids
    (by simpa using hnd)).mono (fun passes w' hw ↦ ⟨passes, rfl, hw⟩) fun _ _ hf ↦ hf
  exact (ensures_reconcileRoute (h.cellReady hr)).mono
    (fun changes c hc ↦ ⟨hc, PassOf.sameIds hc⟩) fun _ _ hf ↦ hf

end Reconciler
end FleetFlow
