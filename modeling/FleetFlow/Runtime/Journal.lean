import FleetFlow.Runtime.RouteEvents

/-!
# The record of a heartbeat

The reconciler with a journal: every step also returns what it appended to the buffer of its
entity and what it reported, in the order in which the source records them. Leaving the journal
out gives the reconciler back, and replaying the journal gives the account of the world after
the heartbeat.
-/

namespace FleetFlow

open Program

/-- Whether a correction repairs the back-reference of a truck. -/
def ReconciliationEvent.isReference : ReconciliationEvent → Bool
  | .truckRouteReference _ => true
  | _ => false

/-- Events appended to a buffer. -/
def appended (before after : List DomainEvent) : List DomainEvent :=
  after.drop (eventCheckpoint before)

/-- What follows the old content has been appended. -/
@[simp] theorem appended_append (before recorded : List DomainEvent) :
    appended before (before ++ recorded) = recorded := by
  simp [appended, eventCheckpoint]

/-- Entries of one step: what it buffered, then what it reported. -/
def stepEntries (recorded : List DomainEvent) (corrections : List ReconciliationEvent) :
    List Entry :=
  recorded.map .domain ++ corrections.map .reconciliation

/-- Entries of a truck pass: the reference is repaired first, the position corrected last. -/
def truckEntries (recorded : List DomainEvent) (corrections : List ReconciliationEvent) :
    List Entry :=
  (corrections.filter ReconciliationEvent.isReference).map .reconciliation ++
    stepEntries recorded (corrections.filter fun e ↦ !e.isReference)

namespace Reconciler

/-! ### The passes with a journal -/

/-- Correct the status of the route. -/
def journalStatus (now : Datetime) : CellAction ((Bool × List ReconciliationEvent) × List Entry) :=
  Program.observed (fun result before after ↦
    stepEntries (appended before.route.pendingEvents after.route.pendingEvents) result.2)
    (reconcileStatus now)

/-- Reconcile the truck of the route. -/
def journalTruck (now : Datetime) (updateTrucks : Bool) :
    CellAction (TruckReconciliationSummary × List Entry) :=
  Program.observed (fun summary before after ↦
    truckEntries (appended before.route.pendingEvents after.route.pendingEvents) summary.events)
    (if updateTrucks then reconcileTruckForRoute now else pure {})

/-- Reconcile one package. -/
def journalPackage (route : DeliveryRoute) (times : List (LocationCode × Datetime))
    (now : Datetime) : PackageAction ((List Int × List ReconciliationEvent) × List Entry) :=
  Program.observed (fun result before after ↦
    stepEntries (appended before.pendingEvents after.pendingEvents) result.2)
    (updatePackage route times now)

/-- Reconcile all packages of the route. -/
def journalPackages (now : Datetime) :
    CellAction ((List Int × List ReconciliationEvent) × List Entry) := do
  let cell ← get
  let times ← Program.lift (stopTimes cell.route)
  let results ← Program.zoom RouteCell.packages (fun packages cell ↦ { cell with packages })
    (Program.each (journalPackage cell.route times now))
  pure (((results.map Prod.fst).flatMap Prod.fst, (results.map Prod.fst).flatMap Prod.snd),
    results.flatMap Prod.snd)

/-- The guarded body of the loop. -/
def journalBody (now : Datetime) (updateTrucks : Bool) : CellAction (RouteChanges × List Entry) := do
  let (status, e1) ← journalStatus now
  let (trucks, e2) ← journalTruck now updateTrucks
  let (packages, e3) ← journalPackages now
  pure ({
    routeChanged := status.1
    trucks
    packagesUpdated := packages.1
    events := status.2 ++ trucks.events ++ packages.2 }, e1 ++ e2 ++ e3)

/-- One pass of the loop. A restored route has lost what it recorded. -/
def journalRoute (now : Datetime) (updateTrucks : Bool) :
    CellAction (Option RouteChanges × List Entry) := do
  let before ← get
  tryCatch ((fun x ↦ (some x.1, x.2)) <$> journalBody now updateTrucks) fun _ ↦ do
    restoreCell before
    pure (none, [])

/-! ### Leaving the journal out -/

theorem erases_journalPackages (now : Datetime) :
    Erases (journalPackages now) (updatePackagesForRoute now) := by
  unfold Erases journalPackages updatePackagesForRoute
  rw [map_bind]
  apply congrArg
  funext cell
  rw [map_bind]
  apply congrArg
  funext times
  have heach : List.map Prod.fst <$> Program.each (journalPackage cell.route times now) =
      Program.each (updatePackage cell.route times now) := erases_observed.each
  rw [map_bind, ← heach, ← map_zoom, bind_map_left]
  rfl

theorem erases_journalBody (now : Datetime) (updateTrucks : Bool) :
    Erases (journalBody now updateTrucks) (reconcileBody now updateTrucks) := by
  unfold journalBody reconcileBody
  apply Erases.bind erases_observed
  rintro ⟨⟨changed, corrections⟩, entries⟩
  unfold journalTruck
  cases updateTrucks
  · apply Erases.bind erases_observed
    intro trucks
    apply (erases_journalPackages now).bind
    intro packages
    rfl
  · apply Erases.bind erases_observed
    intro trucks
    apply (erases_journalPackages now).bind
    intro packages
    rfl

theorem erases_journalRoute (now : Datetime) (updateTrucks : Bool) :
    Erases (journalRoute now updateTrucks) (reconcileRoute now updateTrucks) := by
  unfold journalRoute reconcileRoute Erases
  rw [map_bind]
  apply congrArg
  funext before
  apply Erases.tryCatch
  · rw [Erases, ← erases_journalBody now updateTrucks, ← comp_map, ← comp_map]
    rfl
  · intro e
    rw [Erases, map_bind]
    rfl

end Reconciler

/-- The transition that an entry records, if it records one. -/
def Entry.lifecycle? : Entry → Option LifecycleEvent
  | .domain event => event.lifecycle?
  | .reconciliation _ => none

/-- Entries in which every domain event records a transition. -/
def OnlyTransitions (entries : List Entry) : Prop :=
  ∀ e, Entry.domain e ∈ entries → e.lifecycle?.isSome

theorem onlyTransitions_stepEntries {recorded : List DomainEvent}
    {corrections : List ReconciliationEvent} :
    OnlyTransitions (stepEntries recorded corrections) ↔ ∀ e ∈ recorded, e.lifecycle?.isSome := by
  simp [OnlyTransitions, stepEntries]

theorem OnlyTransitions.append {entries entries' : List Entry} (h : OnlyTransitions entries)
    (h' : OnlyTransitions entries') : OnlyTransitions (entries ++ entries') := by
  intro e he
  exact (List.mem_append.mp he).elim (h e) (h' e)

/-- Corrections record no transition. -/
theorem filterMap_lifecycle_stepEntries (recorded : List DomainEvent)
    (corrections : List ReconciliationEvent) :
    (stepEntries recorded corrections).filterMap Entry.lifecycle? =
      recorded.filterMap DomainEvent.lifecycle? := by
  have hnone : (corrections.map Entry.reconciliation).filterMap Entry.lifecycle? = [] := by
    rw [List.filterMap_map, List.filterMap_eq_nil_iff]
    intro _ _
    rfl
  unfold stepEntries
  rw [List.filterMap_append, hnone, List.append_nil, List.filterMap_map]
  rfl

namespace Ledger

variable (l : Ledger)

/-- Enter the fields of several packages. -/
def putPackages (packages : List DeliveryPackage) : Ledger :=
  packages.foldl (fun l p ↦ l.putPackage p.packageId p.view) l

/-- Enter the fields of a truck, if there is one. -/
def putTruck? (truck : Option Truck) : Ledger :=
  truck.elim l fun t ↦ l.putTruck t.vehicleId t.view

@[simp] theorem packages_putTruck? (truck : Option Truck) :
    (l.putTruck? truck).packages = l.packages := by
  cases truck <;> rfl

/-- Enter the fields of a route, its truck and its packages. -/
def enterCell (c : RouteCell) : Ledger :=
  ((l.putRoute c.route.routeId c.route.view).putTruck? c.truck).putPackages c.packages

/-- What is known of a route, its truck and its packages is right. -/
structure Agrees (c : RouteCell) : Prop where
  route : l.routes c.route.routeId = some c.route.view
  truck : ∀ t, c.truck = some t → l.trucks t.vehicleId = some t.view
  packages : ∀ p ∈ c.packages, l.packages p.packageId = some p.view

/-- Entering what is known changes nothing. -/
theorem Agrees.enterCell_eq_self {l : Ledger} {c : RouteCell} (h : l.Agrees c) :
    l.enterCell c = l := by
  have htruck : l.putTruck? c.truck = l := by
    unfold putTruck?
    cases ht : c.truck with
    | none => rfl
    | some t => exact putTruck_eq_self (h.truck t ht)
  have hpackages : ∀ packages : List DeliveryPackage,
      (∀ p ∈ packages, l.packages p.packageId = some p.view) → l.putPackages packages = l := by
    intro packages hp
    induction packages with
    | nil => rfl
    | cons p rest ih =>
      unfold putPackages at ih ⊢
      rw [List.foldl_cons, putPackage_eq_self (hp p (by simp))]
      exact ih fun q hq ↦ hp q (by simp [hq])
  unfold enterCell
  rw [putRoute_eq_self h.route, htruck]
  exact hpackages c.packages h.packages

end Ledger

/-- The account of a world into which a cell is written. -/
theorem World.ledger_putCell (w : World) (c : RouteCell) :
    (w.putCell c).ledger = w.ledger.enterCell c := by
  have hpackages : ∀ (packages : List DeliveryPackage) (v : World),
      World.ledger { v with packages := v.packages.putAll packages } =
        v.ledger.putPackages packages := by
    intro packages
    induction packages with
    | nil => exact fun _ ↦ rfl
    | cons p rest ih =>
      intro v
      unfold Ledger.putPackages at ih ⊢
      rw [List.foldl_cons, ← World.ledger_putPackage]
      exact ih (v.putPackage p)
  unfold Ledger.enterCell
  rw [← World.ledger_putRoute]
  cases ht : c.truck with
  | none =>
    rw [show w.putCell c = { w.putRoute c.route with packages := w.packages.putAll c.packages } by
      simp [World.putCell, ht]]
    exact hpackages c.packages (w.putRoute c.route)
  | some t =>
    rw [Ledger.putTruck?, Option.elim_some, ← World.ledger_putTruck,
      show w.putCell c = { (w.putRoute c.route).putTruck t with
        packages := w.packages.putAll c.packages } by simp [World.putCell, ht]]
    exact hpackages c.packages ((w.putRoute c.route).putTruck t)

namespace Reconciler

/-! ### What the journal tells -/

/-- The journal of a package pass tells what the pass did. -/
structure PackageTold (route : DeliveryRoute) (now : Datetime) (before after : DeliveryPackage)
    (entries : List Entry) : Prop where
  packageId : after.packageId = before.packageId
  only : OnlyTransitions entries
  transitions : entries.filterMap Entry.lifecycle? = before.transitionsOn route now
  replay : ∀ {l : Ledger}, l.packages before.packageId = some before.view →
    l.replay entries = l.putPackage before.packageId after.view

/-- The journal of a package pass. -/
theorem ensures_journalPackage_told {route : DeliveryRoute}
    {times : List (LocationCode × Datetime)} (ht : stopTimes route = .ok times)
    {p : DeliveryPackage} (hr : p.routeId = some route.routeId)
    (hv : route.includesInOrder p.startLocation p.endLocation = true) (now : Datetime) :
    Ensures (journalPackage route times now) p (fun x q ↦ PackageTold route now p q x.2)
      (fun _ _ ↦ False) := by
  unfold journalPackage Program.observed
  simp only [ensures_bind, ensures_get, ensures_pure]
  apply (ensures_updatePackage_record ht hr hv now).mono _ fun _ _ hf ↦ hf
  intro result q hq
  obtain ⟨recorded, hevents, hown, htransitions, hreplay⟩ := hq.replay
  obtain ⟨changed, reasons, htrace, -⟩ := hq.trace
  rw [hevents, appended_append]
  exact ⟨htrace.pass.same.packageId.symm,
    onlyTransitions_stepEntries.mpr fun e he ↦ (hown e he).isSome_lifecycle,
    (filterMap_lifecycle_stepEntries recorded result.2).trans htransitions, hreplay⟩

/-- Passes over different packages add up. -/
private theorem told_of_forall {route : DeliveryRoute} {now : Datetime}
    {packages : List DeliveryPackage}
    {results : List (((List Int × List ReconciliationEvent) × List Entry) × DeliveryPackage)}
    (h : List.Forall₂ (fun p x ↦ PackageTold route now p x.2 x.1.2) packages results)
    (hnd : (packages.map DeliveryPackage.packageId).Nodup) :
    OnlyTransitions (results.flatMap fun x ↦ x.1.2) ∧
      (results.flatMap fun x ↦ x.1.2).filterMap Entry.lifecycle? =
        packages.flatMap (·.transitionsOn route now) ∧
      ∀ {l : Ledger}, (∀ p ∈ packages, l.packages p.packageId = some p.view) →
        l.replay (results.flatMap fun x ↦ x.1.2) = l.putPackages (results.map Prod.snd) := by
  induction h with
  | nil => exact ⟨by simp [OnlyTransitions], rfl, fun _ ↦ rfl⟩
  | @cons p x packages results hp _ ih =>
    rw [List.map_cons, List.nodup_cons] at hnd
    obtain ⟨honly, htransitions, hreplay⟩ := ih hnd.2
    refine ⟨hp.only.append honly, ?_, fun {l} hl ↦ ?_⟩
    · rw [List.flatMap_cons, List.filterMap_append, hp.transitions, htransitions, List.flatMap_cons]
    · rw [List.flatMap_cons, Ledger.replay_append, hp.replay (hl p (by simp)),
        hreplay fun q hq ↦ ?_]
      · rw [← hp.packageId]
        rfl
      · have hne : q.packageId ≠ p.packageId := fun heq ↦
          hnd.1 (heq ▸ List.mem_map_of_mem hq)
        simpa [Ledger.putPackage, Function.update_of_ne hne] using hl q (by simp [hq])

/-- The journal of the passes over all packages. -/
theorem ensures_journalPackages_told {c : RouteCell}
    (hid : ∀ p ∈ c.packages, p.routeId = some c.route.routeId)
    (hin : ∀ p ∈ c.packages, c.route.includesInOrder p.startLocation p.endLocation = true)
    (hnd : (c.packages.map DeliveryPackage.packageId).Nodup) (now : Datetime) :
    Ensures (journalPackages now) c
      (fun x c' ↦ c'.route = c.route ∧ c'.truck = c.truck ∧
        OnlyTransitions x.2 ∧
        x.2.filterMap Entry.lifecycle? = c.packages.flatMap (·.transitionsOn c.route now) ∧
        ∀ {l : Ledger}, (∀ p ∈ c.packages, l.packages p.packageId = some p.view) →
          l.replay x.2 = l.putPackages c'.packages) (fun _ _ ↦ False) := by
  obtain ⟨times, ht⟩ := exists_stopTimes c.route
  unfold journalPackages
  simp only [ht, ensures_bind, ensures_get, ensures_lift_ok, ensures_zoom, ensures_pure]
  apply (ensures_each (fun p x ↦ PackageTold c.route now p x.2 x.1.2) fun p hp ↦
    ensures_journalPackage_told ht (hid p hp) (hin p hp) now).mono _ fun _ _ hf ↦ hf
  rintro listed packages ⟨results, rfl, rfl, hrel⟩
  rw [List.flatMap_map]
  exact ⟨trivial, trivial, told_of_forall hrel hnd⟩

/-- The correction of a position is told by its entry. -/
private theorem PositionRecord.replay {truck truck' : Truck} {corrections : List ReconciliationEvent}
    (h : PositionRecord truck truck' corrections) {l : Ledger} {v : TruckView}
    (hl : l.trucks truck.vehicleId = some v)
    (hv : { v with
      location := truck'.currentLocation, inTransitTo := truck'.inTransitTo } = truck'.view)
    (hkept : truck'.currentLocation = truck.currentLocation →
      truck'.inTransitTo = truck.inTransitTo → v = truck'.view) :
    l.replay (corrections.map .reconciliation) = l.putTruck truck.vehicleId truck'.view := by
  rcases h.reported with ⟨rfl, hloc, htransit⟩ | ⟨e, rfl, hid, hloc, htransit⟩
  · rw [← hkept hloc htransit]
    exact (Ledger.putTruck_eq_self hl).symm
  · rw [List.map_singleton, Ledger.replay_cons, Ledger.replay_nil]
    unfold Ledger.apply Ledger.applyReconciliation
    dsimp only
    rw [hid, Ledger.editTruck_eq hl, hloc, htransit, hv]

/-- Positions are corrected after a release. -/
private theorem PositionRecord.truckEntries_eq {truck truck' : Truck}
    {corrections : List ReconciliationEvent} (h : PositionRecord truck truck' corrections)
    (recorded : List DomainEvent) : truckEntries recorded corrections =
      recorded.map .domain ++ corrections.map .reconciliation := by
  rcases h.reported with ⟨rfl, -⟩ | ⟨e, rfl, -⟩ <;> rfl

/-- The journal of the truck pass tells what the pass did. -/
theorem TruckRecord.told {now : Datetime} {c c' : RouteCell} {summary : TruckReconciliationSummary}
    (h : TruckRecord now c summary c') :
    OnlyTransitions (truckEntries (appended c.route.pendingEvents c'.route.pendingEvents)
        summary.events) ∧
      (truckEntries (appended c.route.pendingEvents c'.route.pendingEvents)
        summary.events).filterMap Entry.lifecycle? = c.route.releases c.truck now ∧
      ∀ {l : Ledger}, l.routes c.route.routeId = some c.route.view →
        (∀ t, c.truck = some t → l.trucks t.vehicleId = some t.view) →
        l.replay (truckEntries (appended c.route.pendingEvents c'.route.pendingEvents)
          summary.events) = (l.putRoute c.route.routeId c'.route.view).putTruck? c'.truck := by
  have htruck := h.step.truck
  cases ht : c.truck with
  | none =>
    obtain ⟨hevents, hroute⟩ := h.idle ht
    rw [ht] at htruck
    have hnone : c'.truck = none := by
      cases hc' : c'.truck with
      | none => rfl
      | some t => rw [hc'] at htruck; cases htruck
    have hnew : appended c.route.pendingEvents c.route.pendingEvents = [] := by
      simp [appended, eventCheckpoint]
    rw [hroute, hevents, hnew, hnone]
    exact ⟨by simp [OnlyTransitions, truckEntries, stepEntries], rfl,
      fun hl _ ↦ (Ledger.putRoute_eq_self hl).symm⟩
  | some truck =>
    obtain ⟨truck', ht', hposition, -⟩ := h.position truck ht
    have hrelease := h.release truck ht
    have hpass : TruckPass c.route now truck truck' := by
      rw [ht, ht'] at htruck
      cases htruck with
      | some h => exact h
    have hsame : truck.vehicleId = truck'.vehicleId := hpass.same.vehicleId
    have hsilent : (summary.events.map Entry.reconciliation).filterMap Entry.lifecycle? = [] := by
      rw [List.filterMap_map, List.filterMap_eq_nil_iff]
      intro _ _
      rfl
    have hreleased := h.step.released
    have hroute := h.step.route
    rw [hposition.truckEntries_eq, List.filterMap_append, hsilent, List.append_nil,
      List.filterMap_map]
    simp only [ht', Option.some.injEq, forall_eq', Ledger.putTruck?, Option.elim_some]
    by_cases hfin : c.route.Finished now
    · rw [if_pos hfin, ht] at hreleased
      rw [hreleased] at hrelease
      obtain ⟨t, eta, e, ht2, heta, he, hevents⟩ := hrelease
      obtain rfl := Option.some.inj (ht.symm.trans ht2)
      obtain ⟨eta', heta', hle⟩ := hfin
      obtain rfl := Option.some.inj (heta.symm.trans heta')
      obtain ⟨hstatus, hnone, hfrom, huntil, htransit, hlocation⟩ := hpass.released ⟨eta, heta, hle⟩
      have hview : c'.route.view = { c.route.view with truck := none } := by
        rw [if_neg (by simp [hreleased])] at hroute
        obtain ⟨events, hroute⟩ := hroute
        rw [hroute]
        rfl
      have hview' : truck'.view = ⟨.free, some c.route.endLocation, none, none, none, none⟩ := by
        simp [Truck.view, hstatus, hnone, hfrom, huntil, htransit, hlocation]
      rw [hevents, appended_append]
      refine ⟨by simp [OnlyTransitions, DomainEvent.lifecycle?], ?_, ?_⟩
      · simp [DeliveryRoute.releases, heta, hle, Entry.lifecycle?, DomainEvent.lifecycle?,
          he.truckId, he.previousRouteId, he.occurredAt]
      · intro l hl hl'
        have hstep : l.replay [.domain (.truckReleasedFromRoute e)] =
            (l.putRoute c.route.routeId c'.route.view).putTruck truck.vehicleId truck'.view := by
          simp only [Ledger.replay_cons, Ledger.replay_nil, Ledger.apply, Ledger.applyDomain,
            he.truckId, he.previousRouteId, he.newRouteId, he.newStatus, he.newLocation,
            he.newBusy.1, he.newBusy.2]
          rw [Ledger.editRoute_editTruck hl hl', hview, hview']
        rw [List.map_singleton, Ledger.replay_append, hstep,
          PositionRecord.replay hposition (Ledger.putTruck_trucks_self _ _) rfl fun _ _ ↦ rfl,
          Ledger.putTruck_putTruck, hsame]
    · rw [if_neg hfin] at hreleased
      rw [hreleased] at hrelease
      have hkept : c'.route = c.route := hrelease
      have hnew : appended c.route.pendingEvents c.route.pendingEvents = [] := by
        simp [appended, eventCheckpoint]
      obtain ⟨hstatus, hlink, hfrom, huntil⟩ := hpass.kept hfin
      rw [hkept, hnew]
      refine ⟨by simp [OnlyTransitions], ?_, ?_⟩
      · unfold DeliveryRoute.releases
        cases heta : c.route.etaFinal with
        | none => rfl
        | some eta =>
          have hlt : ¬ eta ≤ now := fun hle ↦ hfin ⟨eta, heta, hle⟩
          simp [hlt]
      · intro l hl hl'
        rw [Ledger.putRoute_eq_self hl, ← hsame]
        apply PositionRecord.replay hposition hl'
        · simp [Truck.view, hstatus, hlink, hfrom, huntil]
        · intro hloc htransit
          simp [Truck.view, hstatus, hlink, hfrom, huntil, hloc, htransit]

/-- A cell whose packages are different ones of its route. -/
structure CellLinked (c : RouteCell) : Prop where
  routeId : ∀ p ∈ c.packages, p.routeId = some c.route.routeId
  nodup : (c.packages.map DeliveryPackage.packageId).Nodup

/-- The journal of a pass tells what the pass did to the cell. -/
structure CellTold (now : Datetime) (before after : RouteCell) (entries : List Entry) : Prop where
  only : OnlyTransitions entries
  transitions : entries.filterMap Entry.lifecycle? = before.route.transitions now ++
    (before.route.releases before.truck now ++
      before.packages.flatMap (·.transitionsOn before.route now))
  replay : ∀ {l : Ledger}, l.Agrees before → l.replay entries = l.enterCell after

/-- The journal of the guarded body. -/
theorem ensures_journalBody_told {c : RouteCell} {now : Datetime} (h : CellReady now c)
    (hlinked : CellLinked c) :
    Ensures (journalBody now true) c (fun x c' ↦ CellTold now c c' x.2) (fun _ _ ↦ True) := by
  unfold journalBody journalStatus journalTruck Program.observed
  simp only [ensures_bind, ensures_get, ensures_pure, if_true]
  apply (ensures_reconcileStatus_record h.status).mono _ fun _ _ hf ↦ hf.elim
  rintro status ⟨route1, truck1, packages1⟩ h1
  obtain ⟨recorded1, hevents1, honly1, htransitions1, hreplay1⟩ := h1.recorded
  obtain ⟨events1, hroute1⟩ := h1.step.route
  have ht1 := h1.step.truck
  have hp1 := h1.step.packages
  dsimp only at hroute1 ht1 hp1 hevents1 hreplay1
  obtain rfl : events1 = recorded1 := by
    rw [hroute1] at hevents1
    exact List.append_cancel_left hevents1
  subst hroute1 ht1 hp1
  apply (ensures_reconcileTruckForRoute_record (fun t ht ↦ ?_) now).mono _ fun _ _ _ ↦ trivial
  rotate_left
  · exact ⟨(h.truck t ht).vehicleId, (h.truck t ht).routeId⟩
  rintro trucks ⟨route2, truck2, packages2⟩ h2
  obtain ⟨honly2, htransitions2, hreplay2⟩ := h2.told
  have hp2 := h2.step.packages
  have hroute2 : route2.routeId = c.route.routeId ∧ route2.plan = c.route.plan := by
    have hstep := h2.step.route
    dsimp only at hstep
    split at hstep
    · rw [hstep]
      exact ⟨rfl, rfl⟩
    · obtain ⟨events, hstep⟩ := hstep
      rw [hstep]
      exact ⟨rfl, rfl⟩
  obtain ⟨hid2, hplan2⟩ := hroute2
  dsimp only at hp2
  subst hp2
  apply (@ensures_journalPackages_told ⟨route2, truck2, c.packages⟩ (fun p hp ↦ ?_) (fun p hp ↦ ?_)
    hlinked.nodup now).mono _ fun _ _ _ ↦ trivial
  rotate_left
  · exact (hlinked.routeId p hp).trans (congrArg some hid2.symm)
  · show route2.plan.path.includesInOrder _ _ = true
    rw [hplan2]
    exact (h.packages p hp).inOrder
  rintro packages ⟨route3, truck3, packages3⟩ ⟨rfl, rfl, honly3, htransitions3, hreplay3⟩
  dsimp only at hid2 hplan2
  have hvisits : ∀ p : DeliveryPackage, p.transitionsOn route3 now = p.transitionsOn c.route now := by
    intro p
    unfold DeliveryPackage.transitionsOn
    rw [hplan2, hid2]
  simp only [hvisits] at htransitions3
  constructor
  · rw [appended_append]
    exact ((onlyTransitions_stepEntries.mpr honly1).append honly2).append honly3
  · rw [List.filterMap_append, List.filterMap_append, List.append_assoc, appended_append,
      filterMap_lifecycle_stepEntries, htransitions1, htransitions2, htransitions3]
    rfl
  · intro l hl
    rw [Ledger.replay_append, Ledger.replay_append, appended_append]
    unfold stepEntries
    rw [hreplay1 hl.route, hreplay2 (Ledger.putRoute_routes_self _ _) hl.truck,
      Ledger.putRoute_putRoute, hreplay3 fun p hp ↦ ?_]
    · unfold Ledger.enterCell
      rw [hid2]
    · exact (Ledger.packages_putTruck? _ _).symm ▸ hl.packages p hp

/-- The journal of a pass over a route: what the body tells, or nothing when the route was
restored. -/
def PassTold (now : Datetime) (before : RouteCell) (x : Option RouteChanges × List Entry)
    (after : RouteCell) : Prop :=
  PassOf now before x.1 after ∧ (x.1.isSome → CellTold now before after x.2) ∧
    (x.1 = none → x.2 = [])

/-- The journal of a pass over a ready cell. -/
theorem ensures_journalRoute_told {c : RouteCell} {now : Datetime} (h : CellReady now c)
    (hlinked : CellLinked c) :
    Ensures (journalRoute now true) c (fun x c' ↦ PassTold now c x c') (fun _ _ ↦ False) := by
  suffices htold : Ensures (journalRoute now true) c (fun x c' ↦
      (x.1.isSome → CellTold now c c' x.2) ∧ (x.1 = none → x.2 = [])) (fun _ _ ↦ True) from
    (((erases_journalRoute now true).ensures_iff.mp (ensures_reconcileRoute h)).and htold).mono
      (fun _ _ hx ↦ ⟨hx.1, hx.2⟩) fun _ _ hf ↦ hf.1
  unfold journalRoute
  simp only [ensures_bind, ensures_get, ensures_tryCatch, ensures_map, ensures_pure]
  apply (ensures_journalBody_told h hlinked).mono
  · intro x c' hx
    exact ⟨fun _ ↦ hx, fun hnone ↦ by cases hnone⟩
  · intro _ _ _
    exact ensures_trivial.mono (fun _ _ _ ↦ by simp) fun _ _ hf ↦ hf

end Reconciler
/-- The cells of linked routes are linked. -/
theorem World.RouteLinked.cellLinked {w : World} (h : w.RouteLinked) {r : Int}
    {route : DeliveryRoute} (hr : w.routes.find? r = some route) :
    Reconciler.CellLinked (w.cell route) := by
  constructor
  · intro p hp
    obtain ⟨hmem, hfind⟩ := World.mem_packagesOf.mp hp
    obtain ⟨package, hpackage, hlink⟩ := h.package_of_route hr hmem
    obtain rfl := Option.some.inj (hfind.symm.trans hpackage)
    rw [h.routeId hfind, hlink, show (w.cell route).route = route from rfl, Store.key_of_find? hr]
  · show ((w.packagesOf route).map DeliveryPackage.packageId).Nodup
    rw [h.map_packagesOf hr]
    exact h.nodup hr

/-- The account of a world is right about the cell of a stored route. -/
theorem World.agrees_cell {w : World} {r : Int} {route : DeliveryRoute}
    (hr : w.routes.find? r = some route) : w.ledger.Agrees (w.cell route) := by
  constructor
  · have hid : route.routeId = r := Store.key_of_find? hr
    exact ledger_route (hid.symm ▸ hr)
  · intro t ht
    have ht' : route.truck.bind w.trucks.find? = some t := ht
    obtain ⟨id, -, hfind⟩ := Option.bind_eq_some_iff.mp ht'
    rw [← Store.key_of_find? hfind] at hfind
    exact ledger_truck hfind
  · intro p hp
    exact ledger_package (World.mem_packagesOf.mp hp).2

/-- Entries of several passes in turn. -/
def passEntries (passes : List (Int × Option RouteChanges × List Entry)) : List Entry :=
  passes.flatMap fun pass ↦ pass.2.2

namespace Reconciler

/-- The journal of passes over several routes tells what they did to the world. -/
theorem ensures_sweep_told {now : Datetime} {w : World} (h : Ready now w) {ids : List Int}
    (hids : ∀ r ∈ ids, ∃ route, w.routes.find? r = some route) (hnd : ids.Nodup) :
    Ensures (Action.sweep (journalRoute now true) ids) w
      (fun passes w' ↦ passes.map Prod.fst = ids ∧ World.Swept (PassTold now) w passes w' ∧
        w.ledger.replay (passEntries passes) = w'.ledger) (fun _ _ ↦ False) := by
  have hprogram : ∀ r route, w.routes.find? r = some route →
      Ensures (journalRoute now true) (w.cell route)
        (fun x c ↦ PassTold now (w.cell route) x c ∧ (w.cell route).SameIds c)
        (fun _ _ ↦ False) := by
    intro r route hr
    exact (ensures_journalRoute_told (h.cellReady hr) (h.linked.cellLinked hr)).mono
      (fun _ _ hx ↦ ⟨hx, hx.1.sameIds⟩) fun _ _ hf ↦ hf
  apply (World.ensures_sweep_inv (PassTold now)
    (fun passes w' ↦ w.ledger.replay (passEntries passes) = w'.ledger) h.linked hprogram
    (fun done v r route x c hr hfresh hroute hcell htold hdone ↦ ?_) .nil rfl hids hnd).mono
    (fun passes w' hw ↦ hw) fun _ _ hf ↦ hf
  -- The pass meets its cell as the account has it so far.
  unfold passEntries at hdone ⊢
  rw [List.flatMap_append, List.flatMap_singleton, Ledger.replay_append, hdone,
    World.ledger_putCell]
  have hagrees : v.ledger.Agrees (w.cell route) := hcell ▸ World.agrees_cell hroute
  obtain ⟨hpass, hsome, hnone⟩ := htold
  rcases hpass with ⟨ch, hch, -⟩ | ⟨hch, rfl, -⟩
  · exact (hsome (by simp [hch])).replay hagrees
  · rw [hnone hch]
    exact hagrees.enterCell_eq_self.symm

end Reconciler
end FleetFlow
