import FleetFlow.Runtime.RoutePass

/-!
# Undoing a pass

Whatever a pass has written before it raises, it has kept identities, paths and shipments and
has only appended events. The handler of the pass therefore gives back the cell exactly.
-/

namespace FleetFlow

open Program

/-- What every helper keeps of a package. -/
structure DeliveryPackage.Evolves (before after : DeliveryPackage) : Prop where
  same : before.SameShipment after
  events : before.pendingEvents <+: after.pendingEvents

/-- What every helper keeps of a route. -/
structure DeliveryRoute.Evolves (before after : DeliveryRoute) : Prop where
  routeId : after.routeId = before.routeId
  path : after.plan.path = before.plan.path
  events : before.pendingEvents <+: after.pendingEvents

/-- What every helper keeps of a cell. -/
structure RouteCell.Evolves (before after : RouteCell) : Prop where
  route : before.route.Evolves after.route
  truck : Option.Rel Truck.SameVehicle before.truck after.truck
  packages : List.Forall₂ DeliveryPackage.Evolves before.packages after.packages

namespace DeliveryPackage.Evolves

theorem refl (p : DeliveryPackage) : p.Evolves p := ⟨.refl p, List.prefix_refl _⟩

theorem trans {a b c : DeliveryPackage} (h1 : a.Evolves b) (h2 : b.Evolves c) : a.Evolves c :=
  ⟨h1.same.trans h2.same, h1.events.trans h2.events⟩

end DeliveryPackage.Evolves

namespace DeliveryRoute.Evolves

theorem refl (r : DeliveryRoute) : r.Evolves r := ⟨rfl, rfl, List.prefix_refl _⟩

theorem trans {a b c : DeliveryRoute} (h1 : a.Evolves b) (h2 : b.Evolves c) : a.Evolves c :=
  ⟨h2.routeId.trans h1.routeId, h2.path.trans h1.path, h1.events.trans h2.events⟩

end DeliveryRoute.Evolves

namespace RouteCell.Evolves

private theorem rel_refl : ∀ t : Option Truck, Option.Rel Truck.SameVehicle t t
  | none => .none
  | some t => .some (.refl t)

theorem refl (c : RouteCell) : c.Evolves c :=
  ⟨.refl _, rel_refl _, List.forall₂_same.mpr fun p _ ↦ .refl p⟩

private theorem rel_trans {a b c : Option Truck} (h1 : Option.Rel Truck.SameVehicle a b)
    (h2 : Option.Rel Truck.SameVehicle b c) : Option.Rel Truck.SameVehicle a c := by
  cases h1 with
  | none => exact h2
  | some h1 =>
    cases h2 with
    | some h2 => exact .some (h1.trans h2)

private theorem forall₂_trans {a b c : List DeliveryPackage}
    (h1 : List.Forall₂ DeliveryPackage.Evolves a b)
    (h2 : List.Forall₂ DeliveryPackage.Evolves b c) :
    List.Forall₂ DeliveryPackage.Evolves a c := by
  induction h1 generalizing c with
  | nil => exact h2
  | cons h hs ih =>
    cases h2 with
    | cons h' hs' => exact .cons (h.trans h') (ih hs')

theorem trans {a b c : RouteCell} (h1 : a.Evolves b) (h2 : b.Evolves c) : a.Evolves c :=
  ⟨h1.route.trans h2.route, rel_trans h1.truck h2.truck, forall₂_trans h1.packages h2.packages⟩

/-- Changing the route of a cell. -/
theorem of_route {c : RouteCell} {route : DeliveryRoute} (h : c.route.Evolves route) :
    c.Evolves { c with route } :=
  ⟨h, (refl c).truck, (refl c).packages⟩

/-- Changing the truck of a cell. -/
theorem of_truck {c : RouteCell} {f : Truck → Truck} (h : ∀ t : Truck, t.SameVehicle (f t)) :
    c.Evolves { c with truck := c.truck.map f } := by
  refine ⟨.refl _, ?_, (refl c).packages⟩
  cases c.truck with
  | none => exact .none
  | some t => exact .some (h t)

end RouteCell.Evolves

namespace Reconciler

/-! ### Helpers on a package -/

private theorem frames_progress {p q : DeliveryPackage} {verb : String}
    {fromStatus toStatus : ItemStatus} {location : LocationCode}
    {event : PackageProgressed → DomainEvent} {t : Datetime}
    (h : p.progress verb fromStatus toStatus location event t = .ok q) : p.Evolves q := by
  unfold DeliveryPackage.progress at h
  rw [except_bind_eq_ok_iff] at h
  obtain ⟨r, -, h⟩ := h
  rw [require_bind_eq_ok_iff] at h
  obtain ⟨-, h⟩ := h
  rw [Except.ok.injEq] at h
  subst h
  exact ⟨⟨rfl, rfl, rfl, rfl, rfl⟩, List.prefix_append _ _⟩

/-- A program on a package that keeps its shipment and only appends events. -/
private abbrev KeepsPackage {α : Type} (program : PackageAction α) : Prop :=
  Frames DeliveryPackage.Evolves program

private theorem keeps_bind {α β : Type} {first : PackageAction β}
    {next : β → PackageAction α} (h1 : KeepsPackage first) (h2 : ∀ b, KeepsPackage (next b)) :
    KeepsPackage (first >>= next) :=
  Frames.bind (fun h h' ↦ h.trans h') h1 h2

private theorem keeps_pure {α : Type} (a : α) : KeepsPackage (pure a : PackageAction α) :=
  Frames.pure .refl a

/-- Reading the package and going on from it. -/
private theorem keeps_get_bind {α : Type} {next : DeliveryPackage → PackageAction α}
    (h : ∀ p, Ensures (next p) p (fun _ q ↦ p.Evolves q) (fun _ q ↦ p.Evolves q)) :
    KeepsPackage (get >>= next) :=
  fun p ↦ by simpa only [ensures_bind, ensures_get] using h p

private theorem keeps_setPackageState (status : ItemStatus) (location : LocationCode) :
    KeepsPackage (setPackageState status location) := by
  refine keeps_get_bind fun p ↦ ?_
  simp only [ensures_bind, ensures_set, ensures_pure]
  exact ⟨⟨rfl, rfl, rfl, rfl, rfl⟩, List.prefix_refl _⟩

/-- Writing a package that evolved from the one that was read. -/
private theorem keeps_set {α : Type} {p q : DeliveryPackage} (h : p.Evolves q) (a : α) :
    Ensures (do set q; pure a : PackageAction α) p
      (fun _ q ↦ p.Evolves q) (fun _ q ↦ p.Evolves q) := by
  simpa only [ensures_bind, ensures_set, ensures_pure] using h

/-- A lifecycle step, or nothing when it is refused. -/
private theorem keeps_set_progress {α : Type} {p : DeliveryPackage}
    {x : Except PyError DeliveryPackage} (h : ∀ q, x = .ok q → p.Evolves q) (a : α) :
    Ensures (do set (← lift x); pure a : PackageAction α) p
      (fun _ q ↦ p.Evolves q) (fun _ q ↦ p.Evolves q) := by
  simp only [ensures_bind, ensures_lift, ensures_set, ensures_pure]
  exact ⟨fun q hq ↦ h q hq, fun _ _ ↦ .refl p⟩

private theorem keeps_pickUpIfTodo (pickupTime : Option Datetime) :
    KeepsPackage (pickUpIfTodo pickupTime) := by
  refine keeps_get_bind fun p ↦ ?_
  split
  · exact keeps_set_progress (fun _ ↦ frames_progress) true
  · exact ensures_pure.mpr (.refl p)

private theorem keeps_deliverIfInProgress (deliveryTime : Datetime) :
    KeepsPackage (deliverIfInProgress deliveryTime) := by
  refine keeps_get_bind fun p ↦ ?_
  split
  · exact keeps_set_progress (fun _ ↦ frames_progress) true
  · exact ensures_pure.mpr (.refl p)

private theorem keeps_moveTo (location : LocationCode) : KeepsPackage (moveTo location) := by
  refine keeps_get_bind fun p ↦ ?_
  split
  · exact keeps_set (by exact ⟨⟨rfl, rfl, rfl, rfl, rfl⟩, List.prefix_refl _⟩) _
  · exact ensures_pure.mpr (.refl p)

private theorem keeps_completePackageLifecycle (pickupTime : Option Datetime)
    (deliveryTime : Datetime) : KeepsPackage (completePackageLifecycle pickupTime deliveryTime) := by
  refine keeps_get_bind fun p ↦ ?_
  split
  · exact keeps_bind (keeps_setPackageState _ _) (fun _ ↦ keeps_pure _) p
  · exact keeps_bind (keeps_pickUpIfTodo _) (fun _ ↦ keeps_bind (keeps_deliverIfInProgress _)
      fun _ ↦ keeps_bind (keeps_moveTo _) fun _ ↦ keeps_pure _) p

private theorem keeps_startTransport (pickupTime : Option Datetime) :
    KeepsPackage (startTransport pickupTime) := by
  refine keeps_get_bind fun p ↦ ?_
  split
  · exact keeps_set_progress (fun _ ↦ frames_progress) _
  · exact ensures_pure.mpr (.refl p)
  · exact keeps_set (by exact ⟨⟨rfl, rfl, rfl, rfl, rfl⟩, List.prefix_refl _⟩) _

private theorem keeps_advancePackageInProgress (pickupTime : Option Datetime)
    (location : LocationCode) : KeepsPackage (advancePackageInProgress pickupTime location) :=
  keeps_bind (keeps_startTransport _) fun _ ↦ keeps_bind (keeps_moveTo _) fun _ ↦ keeps_pure _

private theorem keeps_restorePackageBeforePickup : KeepsPackage restorePackageBeforePickup :=
  keeps_get_bind fun p ↦ keeps_setPackageState .todo p.startLocation p

private theorem keeps_setExpectedArrival (expectedArrival : Option Datetime) :
    KeepsPackage (setExpectedArrival expectedArrival) :=
  keeps_get_bind fun _ ↦ keeps_set (by exact ⟨⟨rfl, rfl, rfl, rfl, rfl⟩, List.prefix_refl _⟩) _

private theorem keeps_clearPackage (reason : PackageReconciliationReason) :
    KeepsPackage (clearPackage reason) :=
  keeps_bind keeps_restorePackageBeforePickup fun _ ↦
    keeps_bind (keeps_setExpectedArrival _) fun _ ↦ keeps_pure _

private theorem keeps_placePackage (startTime endTime : Option Datetime) (lastCity : LocationCode)
    (now : Datetime) : KeepsPackage (placePackage startTime endTime lastCity now) := by
  unfold placePackage
  split
  · exact keeps_bind keeps_restorePackageBeforePickup fun _ ↦ keeps_pure _
  · split
    · exact keeps_bind (keeps_completePackageLifecycle _ _) fun _ ↦ keeps_pure _
    · exact keeps_advancePackageInProgress _ _

private theorem keeps_schedulePackage (route : DeliveryRoute)
    (times : List (LocationCode × Datetime)) (path : List LocationCode) (now : Datetime) :
    KeepsPackage (schedulePackage route times path now) :=
  keeps_get_bind fun p ↦ keeps_bind (keeps_placePackage _ _ _ _) (fun _ ↦
    keeps_bind (Frames.lift .refl _) fun _ ↦
      keeps_bind (keeps_setExpectedArrival _) fun _ ↦ keeps_pure _) p

/-- The pass over a package keeps its shipment and only appends events. -/
theorem frames_updatePackage (route : DeliveryRoute)
    (times : List (LocationCode × Datetime)) (now : Datetime) :
    Frames DeliveryPackage.Evolves (updatePackage route times now) := by
  have hstate : KeepsPackage (updatePackageState route times now) := by
    refine keeps_get_bind fun p ↦ ?_
    split
    · exact keeps_clearPackage _ p
    · exact keeps_clearPackage _ p
    · exact keeps_schedulePackage _ _ _ _ p
  exact keeps_get_bind fun p ↦ keeps_bind hstate (fun _ ↦ keeps_bind (Frames.get .refl) fun _ ↦
    keeps_bind (Frames.lift .refl _) fun _ ↦ keeps_pure _) p

/-! ### Helpers on a cell -/

/-- A program on a cell that keeps identities, paths and shipments and only appends events. -/
private abbrev KeepsCell {α : Type} (program : CellAction α) : Prop :=
  Frames RouteCell.Evolves program

private theorem cell_bind {α β : Type} {first : CellAction β} {next : β → CellAction α}
    (h1 : KeepsCell first) (h2 : ∀ b, KeepsCell (next b)) : KeepsCell (first >>= next) :=
  Frames.bind (fun h h' ↦ h.trans h') h1 h2

private theorem cell_pure {α : Type} (a : α) : KeepsCell (pure a : CellAction α) :=
  Frames.pure .refl a

private theorem cell_throw {α : Type} (e : PyError) : KeepsCell (throw e : CellAction α) :=
  Frames.throw .refl e

private theorem cell_lift {α : Type} (x : Except PyError α) : KeepsCell (lift x : CellAction α) :=
  Frames.lift .refl x

/-- Reading the cell and going on from it. -/
private theorem cell_get_bind {α : Type} {next : RouteCell → CellAction α}
    (h : ∀ c, Ensures (next c) c (fun _ d ↦ c.Evolves d) (fun _ d ↦ c.Evolves d)) :
    KeepsCell (get >>= next) :=
  fun c ↦ by simpa only [ensures_bind, ensures_get] using h c

/-- A status step of the route, or nothing when it is refused. -/
private theorem cell_set_route {α : Type} {c : RouteCell} {x : Except PyError DeliveryRoute}
    (h : ∀ r, x = .ok r → c.route.Evolves r) (a : α) :
    Ensures (do
      let route ← lift x
      set { c with route }
      pure a : CellAction α) c (fun _ d ↦ c.Evolves d) (fun _ d ↦ c.Evolves d) := by
  simp only [ensures_bind, ensures_lift, ensures_set, ensures_pure]
  exact ⟨fun r hr ↦ .of_route (h r hr), fun _ _ ↦ .refl c⟩

private theorem evolves_markStarted {r r' : DeliveryRoute} {t : Datetime}
    (h : r.markStarted t = .ok r') : r.Evolves r' := by
  unfold DeliveryRoute.markStarted at h
  rw [require_bind_eq_ok_iff, Except.ok.injEq] at h
  obtain ⟨-, rfl⟩ := h
  exact ⟨rfl, rfl, List.prefix_append _ _⟩

private theorem evolves_markCompleted {r r' : DeliveryRoute} {t : Datetime}
    (h : r.markCompleted t = .ok r') : r.Evolves r' := by
  unfold DeliveryRoute.markCompleted at h
  rw [require_bind_eq_ok_iff] at h
  obtain ⟨-, h⟩ := h
  split at h
  · cases h
  · cases h
  · rw [Except.ok.injEq] at h
    subst h
    exact ⟨rfl, rfl, List.prefix_append _ _⟩

/-- The status step keeps identities, paths and shipments and only appends events. -/
theorem frames_reconcileStatus (now : Datetime) :
    Frames RouteCell.Evolves (reconcileStatus now) := by
  have happly : ∀ status reason, KeepsCell (applyRouteStatus status reason now) := by
    intro status reason
    refine cell_get_bind fun c ↦ ?_
    split
    · split
      · exact ensures_throw.mpr (.refl c)
      · exact cell_set_route (fun _ ↦ evolves_markStarted) _
    · split
      · exact ensures_throw.mpr (.refl c)
      · exact cell_set_route (fun _ ↦ evolves_markCompleted) _
    · split
      · exact ensures_throw.mpr (.refl c)
      · simp only [ensures_bind, ensures_set, ensures_pure]
        exact .of_route ⟨rfl, rfl, List.prefix_refl _⟩
    · split
      · exact ensures_throw.mpr (.refl c)
      · simp only [ensures_bind, ensures_set, ensures_pure]
        exact .of_route ⟨rfl, rfl, List.prefix_refl _⟩
  refine cell_get_bind fun c ↦ ?_
  dsimp only
  split
  · exact cell_bind (happly _ _) (fun _ ↦ cell_pure _) c
  · exact ensures_pure.mpr (.refl c)

private theorem keeps_modifyTruck {f : Truck → Truck} (h : ∀ t : Truck, t.SameVehicle (f t)) :
    KeepsCell (modifyTruck f) :=
  Frames.modify fun _ ↦ .of_truck h

/-- Releasing keeps the vehicle and appends one event. -/
theorem evolves_releaseTruck {r r' : DeliveryRoute} {t t' : Option Truck}
    {assigned : Option DeliveryRoute} {now occurredAt : Datetime} {force released : Bool}
    {reason : TruckReleaseReason}
    (h : r.releaseTruck t assigned now force reason occurredAt = .ok (r', t', released)) :
    r.Evolves r' ∧ Option.Rel Truck.SameVehicle t t' := by
  unfold DeliveryRoute.releaseTruck at h
  split at h
  · simp only [Except.ok.injEq, Prod.mk.injEq] at h
    obtain ⟨rfl, rfl, -⟩ := h
    exact ⟨.refl r, .none⟩
  · next truck =>
    split at h
    · cases h
    · cases h
    · split at h
      · simp only [Except.ok.injEq, Prod.mk.injEq] at h
        obtain ⟨rfl, rfl, -⟩ := h
        exact ⟨.refl r, .some (.refl truck)⟩
      · next freed hrel =>
        split at h
        · cases h
        · simp only [Except.ok.injEq, Prod.mk.injEq] at h
          obtain ⟨rfl, rfl, -⟩ := h
          refine ⟨⟨rfl, rfl, List.prefix_append _ _⟩, .some ?_⟩
          have hsame : truck.SameVehicle (freed, true).1 :=
            hrel ▸ truck.sameVehicle_release _ now force
          exact hsame

private theorem keeps_releaseFinished (now completionTime : Datetime) :
    KeepsCell (releaseFinished now completionTime) := by
  refine cell_get_bind fun c ↦ ?_
  simp only [ensures_bind, ensures_lift, ensures_set, ensures_pure]
  refine ⟨fun result h ↦ ?_, fun _ _ ↦ .refl c⟩
  obtain ⟨h1, h2⟩ := evolves_releaseTruck h
  exact ⟨h1, h2, (RouteCell.Evolves.refl c).packages⟩

private theorem keeps_positionTruck (truck : Truck) (route : DeliveryRoute)
    (position : RoutePosition) (now : Datetime) :
    KeepsCell (positionTruck truck route position now) := by
  have hmove : ∀ (f : Truck → Truck), (∀ t : Truck, t.SameVehicle (f t)) → ∀ moved : Bool,
      KeepsCell (do modifyTruck f; pure moved) :=
    fun f hf moved ↦ cell_bind (keeps_modifyTruck hf) fun _ ↦ cell_pure _
  unfold positionTruck
  split
  · refine cell_bind ?_ fun _ ↦ cell_pure _
    unfold setTruckUnscheduled
    split
    · exact cell_pure _
    · exact hmove _ (by exact fun _ ↦ ⟨rfl, rfl, rfl, rfl⟩) _
  · exact cell_bind (hmove _ (by exact fun _ ↦ ⟨rfl, rfl, rfl, rfl⟩) _) fun _ ↦ cell_pure _
  · unfold setTruckAtStop
    refine cell_bind (keeps_modifyTruck fun _ ↦ ⟨rfl, rfl, rfl, rfl⟩) fun _ ↦ ?_
    split
    · exact cell_pure _
    · split
      · exact cell_bind (cell_lift _) fun _ ↦ cell_bind (keeps_releaseFinished _ _) fun _ ↦
          cell_pure _
      · exact cell_pure _
  · exact cell_bind (hmove _ (by exact fun _ ↦ ⟨rfl, rfl, rfl, rfl⟩) _) fun _ ↦ cell_pure _
  · exact cell_bind (cell_lift _) fun _ ↦ cell_bind (keeps_releaseFinished _ _) fun _ ↦
      cell_pure _

private theorem keeps_reconcileTruckForRoute (now : Datetime) :
    KeepsCell (reconcileTruckForRoute now) := by
  refine cell_get_bind fun c ↦ ?_
  split
  · exact ensures_pure.mpr (.refl c)
  · next truck _ =>
    have hcheck : KeepsCell (checkRouteReference truck c.route now) := by
      unfold checkRouteReference
      split
      · exact cell_bind (keeps_modifyTruck fun _ ↦ ⟨rfl, rfl, rfl, rfl⟩) fun _ ↦ cell_pure _
      · split
        · exact cell_throw _
        · exact cell_pure _
    exact cell_bind hcheck (fun _ ↦ cell_bind (keeps_positionTruck _ _ _ _) fun _ ↦
      cell_bind (Frames.get .refl) fun _ ↦ cell_pure _) c

private theorem keeps_updatePackagesForRoute (now : Datetime) :
    KeepsCell (updatePackagesForRoute now) := by
  refine cell_get_bind fun c ↦ ?_
  refine cell_bind (cell_lift _) (fun times ↦ cell_bind ?_ fun _ ↦ cell_pure _) c
  exact Frames.zoom (fun c packages h ↦ ⟨.refl c.route, (RouteCell.Evolves.refl c).truck, h⟩)
    (Frames.each .refl (frames_updatePackage _ _ _))

/-- The guarded body keeps identities, paths and shipments and only appends events. -/
theorem frames_reconcileBody (now : Datetime) (updateTrucks : Bool) :
    Frames RouteCell.Evolves (reconcileBody now updateTrucks) := by
  refine cell_bind (frames_reconcileStatus now) fun _ ↦ ?_
  dsimp only
  split
  · exact cell_bind (keeps_reconcileTruckForRoute now) fun _ ↦
      cell_bind (keeps_updatePackagesForRoute now) fun _ ↦ cell_pure _
  · exact cell_bind (cell_pure _) fun _ ↦
      cell_bind (keeps_updatePackagesForRoute now) fun _ ↦ cell_pure _

/-! ### The handler -/

/-- Dropping the events after a checkpoint gives back the events of the checkpoint. -/
theorem restoreEventCheckpoint_of_prefix {before after : List DomainEvent}
    (h : before <+: after) :
    restoreEventCheckpoint after (eventCheckpoint before) = .ok before := by
  obtain ⟨events, rfl⟩ := h
  exact restoreEventCheckpoint_append before events

private theorem restorePackages {before after : List DeliveryPackage}
    (h : List.Forall₂ DeliveryPackage.Evolves before after) :
    (before.zip after).mapM (m := Except PyError) (fun (old, package) ↦ do
      let restored := package.restoreState old.snapshotState
      let pendingEvents ← restoreEventCheckpoint restored.pendingEvents
        (eventCheckpoint old.pendingEvents)
      .ok { restored with pendingEvents }) = .ok before := by
  induction h with
  | nil => rfl
  | @cons old package _ _ h hs ih =>
    have hevents : restoreEventCheckpoint (package.restoreState old.snapshotState).pendingEvents
        (eventCheckpoint old.pendingEvents) = .ok old.pendingEvents :=
      restoreEventCheckpoint_of_prefix h.events
    have hold : { package.restoreState old.snapshotState with
        pendingEvents := old.pendingEvents } = old :=
      DeliveryPackage.restoreState_eq_of_same h.same rfl
    rw [List.zip_cons_cons, List.mapM_cons, ih]
    simp only [hevents, hold, bind, Except.bind, pure, Except.pure]

/-- The handler gives back the cell the pass started from. -/
theorem ensures_restoreCell {before after : RouteCell} (h : before.Evolves after) :
    Ensures (restoreCell before) after (fun _ c ↦ c = before) (fun _ _ ↦ False) := by
  obtain ⟨route, truck, packages⟩ := before
  obtain ⟨route', truck', packages'⟩ := after
  obtain ⟨hr, ht, hp⟩ := h
  dsimp only at hr ht hp
  unfold restoreCell
  simp only [ensures_bind, ensures_get, DeliveryRoute.restoreState_eq hr.routeId hr.path,
    ensures_lift_ok, restoreEventCheckpoint_of_prefix hr.events, restorePackages hp, ensures_set]
  cases ht with
  | none => rfl
  | some ht => simp only [Truck.restoreState_eq_of_same ht]

/-- A pass over a ready cell settles it, or leaves it as it was because its truck has no location
to be released at. -/
theorem ensures_reconcileRoute {c : RouteCell} {now : Datetime} (h : CellReady now c) :
    Ensures (reconcileRoute now true) c
      (fun changes c' ↦ (∃ ch, changes = some ch ∧ RoutePass now c ch c') ∨
        changes = none ∧ c' = c ∧
          ∃ t, c.truck = some t ∧ t.currentLocation = none ∧ c.route.Finished now)
      (fun _ _ ↦ False) := by
  unfold reconcileRoute
  simp only [ensures_bind, ensures_get, ensures_tryCatch, ensures_map, ensures_pure]
  refine ((ensures_reconcileBody h).and (frames_reconcileBody now true c)).mono
    (fun ch c' hc ↦ .inl ⟨ch, rfl, hc.1⟩) (fun e c' hc ↦ ?_)
  exact (ensures_restoreCell hc.2).mono (fun _ _ heq ↦ .inr ⟨trivial, heq, hc.1⟩) fun _ _ h ↦ h

end Reconciler
end FleetFlow
