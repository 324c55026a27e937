import FleetFlow.Runtime.PassEvents

/-!
# What a pass records about a route and its truck

The events that correcting the status and moving the truck buffer on the route, the corrections
they report, and that replaying both accounts for the fields that change.
-/

namespace FleetFlow

open Program

/-- Transition of a route whose status is corrected at an instant. -/
def DeliveryRoute.transitions (route : DeliveryRoute) (now : Datetime) : List LifecycleEvent :=
  if route.status = route.statusAt now then []
  else match route.plan.schedule?, route.statusAt now with
    | some s, .inProgress => [.routeStarted route.routeId s.departureTime]
    | some s, .completed => [.routeCompleted route.routeId s.etaFinal]
    | _, _ => []

/-- Release of the truck of a route that has finished at an instant. -/
def DeliveryRoute.releases (route : DeliveryRoute) (truck : Option Truck) (now : Datetime) :
    List LifecycleEvent :=
  match truck, route.etaFinal with
  | some truck, some eta =>
    if eta ≤ now then [.truckReleased truck.vehicleId route.routeId eta] else []
  | _, _ => []

namespace Reconciler

/-! ### Route status -/

/-- What correcting the status records. -/
structure StatusRecord (now : Datetime) (before after : RouteCell) (changed : Bool)
    (corrections : List ReconciliationEvent) : Prop where
  step : StatusStep now before after changed
  silent : changed = false → corrections = []
  recorded : ∃ recorded, after.route.pendingEvents = before.route.pendingEvents ++ recorded ∧
    (∀ e ∈ recorded, e.lifecycle?.isSome) ∧
    recorded.filterMap DomainEvent.lifecycle? = before.route.transitions now ∧
    ∀ {l : Ledger}, l.routes before.route.routeId = some before.route.view →
      l.replay (recorded.map .domain ++ corrections.map .reconciliation) =
        l.putRoute before.route.routeId after.route.view

/-- A ledger after one event about the status of a known route. -/
private theorem editRoute_status {l : Ledger} {route : DeliveryRoute} {r : Int}
    (h : l.routes r = some route.view) (status : RouteStatus) (events : List DomainEvent) :
    (l.editRoute r fun v ↦ { v with status }) = l.putRoute r
      ({ route with status, pendingEvents := route.pendingEvents ++ events } : DeliveryRoute).view :=
  Ledger.editRoute_eq h _

/-- Correcting the status records the transition, or reports the correction. -/
theorem ensures_reconcileStatus_record {c : RouteCell} {now : Datetime}
    (h : StatusReady c.route now) :
    Ensures (reconcileStatus now) c
      (fun result c' ↦ StatusRecord now c c' result.1 result.2) (fun _ _ ↦ False) := by
  suffices hrecord : Ensures (reconcileStatus now) c
      (fun result c' ↦ (result.1 = false → result.2 = []) ∧
        ∃ recorded, c'.route.pendingEvents = c.route.pendingEvents ++ recorded ∧
          (∀ e ∈ recorded, e.lifecycle?.isSome) ∧
          recorded.filterMap DomainEvent.lifecycle? = c.route.transitions now ∧
          ∀ {l : Ledger}, l.routes c.route.routeId = some c.route.view →
            l.replay (recorded.map .domain ++ result.2.map .reconciliation) =
              l.putRoute c.route.routeId c'.route.view) (fun _ _ ↦ False) from
    ((ensures_reconcileStatus h).and hrecord).mono (fun _ _ hq ↦ ⟨hq.1, hq.2.1, hq.2.2⟩)
      fun _ _ hf ↦ hf.1
  have hfst := fst_computeRouteStatus c.route now
  unfold reconcileStatus
  simp only [ensures_bind, ensures_get]
  rcases hcompute : computeRouteStatus c.route now with ⟨newStatus, reason⟩
  rw [hcompute] at hfst
  dsimp only at hfst ⊢
  subst hfst
  unfold DeliveryRoute.transitions
  by_cases heq : c.route.status = c.route.statusAt now
  · rw [if_neg (not_not.mpr heq), ensures_pure, if_pos heq]
    exact ⟨fun _ ↦ rfl, [], by simp, by simp, rfl, fun hl ↦ (Ledger.putRoute_eq_self hl).symm⟩
  · rw [if_pos heq, if_neg heq]
    simp only [ensures_bind, ensures_pure]
    unfold applyRouteStatus
    simp only [ensures_bind, ensures_get]
    cases hs : c.route.plan.schedule? with
    | none =>
      have hd : c.route.departureTime = none := by
        simp [DeliveryRoute.departureTime, RoutePlan.departureTime, hs]
      have hst : c.route.statusAt now = .planned := by simp [DeliveryRoute.statusAt, hs]
      obtain rfl : some .missingDepartureTime = reason := by
        simpa [computeRouteStatus, hd, hst] using hcompute
      rw [hst]
      simp only [ensures_bind, ensures_set, ensures_pure]
      exact ⟨by simp, [], by simp, by simp, rfl, fun hl ↦ editRoute_status hl .planned []⟩
    | some s =>
      have hd : c.route.departureTime = some s.departureTime := by
        simp [DeliveryRoute.departureTime, RoutePlan.departureTime, hs]
      have heta : c.route.etaFinal = some s.etaFinal := by simp [DeliveryRoute.etaFinal, hs]
      by_cases h1 : now < s.departureTime
      · have hst : c.route.statusAt now = .scheduled := by simp [DeliveryRoute.statusAt, hs, h1]
        obtain rfl : some .beforeScheduledDeparture = reason := by
          simpa [computeRouteStatus, hd, heta, hst, h1] using hcompute
        rw [hst]
        simp only [ensures_bind, ensures_set, ensures_pure]
        exact ⟨by simp, [], by simp, by simp, rfl, fun hl ↦ editRoute_status hl .scheduled []⟩
      · by_cases h2 : s.etaFinal ≤ now
        · have hst : c.route.statusAt now = .completed := by
            simp [DeliveryRoute.statusAt, hs, h1, h2]
          have hfrom : c.route.status = .scheduled ∨ c.route.status = .inProgress := by
            rcases h with h | h | h
            · exact .inl h
            · exact absurd h heq
            · exact .inr h.1
          rw [hst]
          simp only [heta]
          unfold DeliveryRoute.markCompleted
          rw [require_bind_of_true hfrom]
          simp only [hd, heta, ensures_bind, ensures_lift_ok, ensures_set, ensures_pure]
          exact ⟨by simp, _, rfl, by simp [DomainEvent.lifecycle?], rfl,
            fun hl ↦ editRoute_status hl .completed _⟩
        · have hst : c.route.statusAt now = .inProgress := by
            simp [DeliveryRoute.statusAt, hs, h1, h2]
          have hfrom : c.route.status = .scheduled := by
            rcases h with h | h | h
            · exact h
            · exact absurd h heq
            · rw [hst] at h
              cases h.2
          rw [hst]
          simp only [hd]
          unfold DeliveryRoute.markStarted
          rw [require_bind_of_true hfrom]
          simp only [ensures_bind, ensures_lift_ok, ensures_set, ensures_pure]
          exact ⟨by simp, _, rfl, by simp [DomainEvent.lifecycle?], rfl,
            fun hl ↦ editRoute_status hl .inProgress _⟩

/-! ### Truck release -/

/-- The event of the release of a truck at the end of a route. -/
structure ReleaseOf (route : DeliveryRoute) (truckId : Int) (completionTime : Datetime)
    (event : TruckReleasedFromRoute) : Prop where
  truckId : event.truckId = truckId
  previousRouteId : event.previousRouteId = route.routeId
  newRouteId : event.newRouteId = none
  newStatus : event.newStatus = .free
  newLocation : event.newLocation = route.endLocation
  newBusy : event.newBusyFrom = none ∧ event.newBusyUntil = none
  occurredAt : event.occurredAt = completionTime

/-- A release is recorded on the route, or there was none. -/
def ReleaseRecord (before after : RouteCell) (released : Bool) : Prop :=
  if released then ∃ truck eta event, before.truck = some truck ∧
      before.route.etaFinal = some eta ∧ ReleaseOf before.route truck.vehicleId eta event ∧
      after.route.pendingEvents = before.route.pendingEvents ++ [.truckReleasedFromRoute event]
  else after.route = before.route

/-- Releasing the truck of a route records the release. -/
theorem ensures_releaseFinished_record {c : RouteCell} {now eta : Datetime}
    (heta : c.route.etaFinal = some eta) :
    Ensures (releaseFinished now eta) c
      (fun released c' ↦ ReleaseRecord c c' released ∧ (released = false → c' = c))
      (fun _ _ ↦ True) := by
  unfold releaseFinished DeliveryRoute.releaseTruck Truck.release
  simp only [ensures_bind, ensures_get]
  cases ht : c.truck with
  | none =>
    simp only [ensures_lift_ok, ensures_set, ensures_pure]
    exact ⟨rfl, fun _ ↦ by rw [← ht]⟩
  | some truck =>
    cases hl : truck.currentLocation with
    | none =>
      simp only [hl]
      apply ensures_lift_error.mpr
      exact trivial
    | some location =>
      simp only [heta, Bool.false_or, hl]
      by_cases hle : eta ≤ now
      · simp only [hle, decide_true, if_true, Truck.free, ensures_lift_ok, ensures_set,
          ensures_pure]
        exact ⟨⟨truck, eta, _, ht, heta, ⟨rfl, rfl, rfl, rfl, rfl, ⟨rfl, rfl⟩, rfl⟩, rfl⟩, by simp⟩
      · simp only [hle, decide_false, Bool.false_eq_true, if_false, ensures_lift_ok,
          ensures_set, ensures_pure]
        exact ⟨rfl, fun _ ↦ by rw [← ht]⟩

/-- The truck of the second cell stands elsewhere or drives elsewhere. -/
def Displaced (truck : Truck) (after : RouteCell) : Prop :=
  ∃ truck', after.truck = some truck' ∧
    (truck'.currentLocation ≠ truck.currentLocation ∨ truck'.inTransitTo ≠ truck.inTransitTo)

/-- Positioning the truck of a route changes the route only by a release, which it records, and
reports a move only of a truck that is displaced. -/
theorem ensures_positionTruck_record {c : RouteCell} {truck : Truck} (ht : c.truck = some truck)
    (position : RoutePosition) (now : Datetime) :
    Ensures (positionTruck truck c.route position now) c
      (fun result c' ↦ ReleaseRecord c c' result.2 ∧
        (result.1 = true → result.2 = false → Displaced truck c')) (fun _ _ ↦ True) := by
  have hdisplaced : ∀ moved : Truck → Truck, ((moved truck).currentLocation ≠ truck.currentLocation ∨
      (moved truck).inTransitTo ≠ truck.inTransitTo) →
      Displaced truck { c with truck := c.truck.map moved } :=
    fun moved h ↦ ⟨moved truck, by rw [ht, Option.map_some], h⟩
  unfold positionTruck
  cases position.kind with
  | unscheduled =>
    unfold setTruckUnscheduled
    by_cases hin : truck.inTransitTo = none
    · simp only [if_pos hin, ensures_bind, ensures_pure]
      exact ⟨rfl, by simp⟩
    · simp only [if_neg hin, modifyTruck, ensures_bind, ensures_modify, ensures_pure]
      exact ⟨rfl, fun _ _ ↦ hdisplaced _ (.inr (Ne.symm hin))⟩
  | beforeStart =>
    simp only [setTruckBeforeStart, modifyTruck, ensures_bind, ensures_modify, ensures_pure]
    refine ⟨rfl, fun hmoved _ ↦ hdisplaced _ ?_⟩
    rw [Bool.or_eq_true, decide_eq_true_eq] at hmoved
    exact hmoved.imp Ne.symm fun hsome hnone ↦ by simp [← hnone] at hsome
  | inTransit =>
    simp only [setTruckInTransit, modifyTruck, ensures_bind, ensures_modify, ensures_pure]
    refine ⟨rfl, fun hmoved _ ↦ hdisplaced _ ?_⟩
    simp only [Bool.or_eq_true, Bool.and_eq_true, decide_eq_true_eq] at hmoved
    refine hmoved.imp (fun h ↦ ?_) Ne.symm
    rw [if_pos h.1]
    exact Ne.symm h.2
  | atStop =>
    have hstop : (decide (truck.currentLocation ≠ position.stopCity) || truck.inTransitTo.isSome) =
        true → position.stopCity ≠ truck.currentLocation ∨ none ≠ truck.inTransitTo := by
      intro hmoved
      rw [Bool.or_eq_true, decide_eq_true_eq] at hmoved
      exact hmoved.imp Ne.symm fun hsome hnone ↦ by simp [← hnone] at hsome
    unfold setTruckAtStop validateRouteEtaFinal
    simp only [modifyTruck, ensures_bind, ensures_modify]
    cases heta : c.route.etaFinal with
    | none =>
      apply ensures_pure.mpr
      exact ⟨rfl, fun hmoved _ ↦ hdisplaced _ (hstop hmoved)⟩
    | some eta =>
      dsimp only
      by_cases hend : position.stopCity = some c.route.endLocation ∧ eta ≤ now
      · rw [if_pos hend]
        simp only [ensures_bind, ensures_lift_ok, ensures_pure]
        let moved : Truck → Truck := fun t ↦ { t with
          currentLocation := position.stopCity
          inTransitTo := none
          route := some c.route.routeId }
        apply (@ensures_releaseFinished_record { c with truck := c.truck.map moved } now eta
          heta).mono _ fun _ _ hf ↦ hf
        rintro released c' ⟨hc', hkept⟩
        cases released with
        | false => exact ⟨hc', fun hmoved _ ↦ hkept rfl ▸ hdisplaced moved (hstop hmoved)⟩
        | true =>
          obtain ⟨t, eta', e, ht, heta', he, hevents⟩ := hc'
          obtain ⟨t', ht', rfl⟩ := Option.map_eq_some_iff.mp ht
          exact ⟨⟨t', eta', e, ht', heta', he, hevents⟩, by simp⟩
      · rw [if_neg hend]
        apply ensures_pure.mpr
        exact ⟨rfl, fun hmoved _ ↦ hdisplaced _ (hstop hmoved)⟩
  | afterEnd =>
    unfold validateRouteEtaFinal
    cases heta : c.route.etaFinal with
    | none =>
      rw [ensures_bind]
      apply ensures_lift_error.mpr
      exact trivial
    | some eta =>
      simp only [ensures_bind, ensures_lift_ok, ensures_pure]
      exact (ensures_releaseFinished_record heta).mono (fun _ _ hc' ↦ ⟨hc'.1, by simp⟩)
        fun _ _ hf ↦ hf

/-- What the truck pass reports about the position of the truck. -/
structure PositionRecord (before after : Truck) (corrections : List ReconciliationEvent) : Prop where
  silent : after.currentLocation = before.currentLocation →
    after.inTransitTo = before.inTransitTo → corrections = []
  reported : corrections = [] ∧ after.currentLocation = before.currentLocation ∧
      after.inTransitTo = before.inTransitTo ∨
    ∃ e : TruckPositionReconciled, corrections = [.truckPosition e] ∧
      e.truckId = before.vehicleId ∧ e.newLocation = after.currentLocation ∧
      e.newInTransitTo = after.inTransitTo

/-- What the truck pass records: a release on the route, and a correction of the position. -/
structure TruckRecord (now : Datetime) (before : RouteCell) (summary : TruckReconciliationSummary)
    (after : RouteCell) : Prop where
  step : TruckStep now before summary after
  idle : before.truck = none → summary.events = [] ∧ after.route = before.route
  release : ∀ truck, before.truck = some truck →
    ReleaseRecord before after (decide (summary.trucksReleased ≠ []))
  position : ∀ truck, before.truck = some truck →
    ∃ truck', after.truck = some truck' ∧ PositionRecord truck truck' summary.events ∧
      (summary.trucksReleased = [] → truck'.currentLocation = truck.currentLocation →
        truck'.inTransitTo = truck.inTransitTo → summary.trucksMoved = [])
  reconciled : summary.trucksReconciled = []
  still : before.truck = none → summary.trucksMoved = []

/-- The truck pass over a linked truck records what it does. -/
theorem ensures_reconcileTruckForRoute_record {c : RouteCell}
    (hready : ∀ t, c.truck = some t → TruckReady c.route t) (now : Datetime) :
    Ensures (reconcileTruckForRoute now) c (TruckRecord now c)
      (fun _ _ ↦ ∃ t, c.truck = some t ∧ t.currentLocation = none ∧ c.route.Finished now) := by
  suffices hrecord : Ensures (reconcileTruckForRoute now) c (fun summary c' ↦
      ((c.truck = none → summary.events = [] ∧ c'.route = c.route) ∧
        summary.trucksReconciled = [] ∧ (c.truck = none → summary.trucksMoved = [])) ∧
        ∀ truck, c.truck = some truck →
          ReleaseRecord c c' (decide (summary.trucksReleased ≠ [])) ∧
            ∃ truck', c'.truck = some truck' ∧ PositionRecord truck truck' summary.events ∧
              (summary.trucksReleased = [] → truck'.currentLocation = truck.currentLocation →
                truck'.inTransitTo = truck.inTransitTo → summary.trucksMoved = []))
      (fun _ _ ↦ True) from
    ((ensures_reconcileTruckForRoute hready now).and hrecord).mono
      (fun _ _ ⟨h1, ⟨h2, h3, h4⟩, h5⟩ ↦
        ⟨h1, h2, fun t ht ↦ (h5 t ht).1, fun t ht ↦ (h5 t ht).2, h3, h4⟩) fun _ _ hf ↦ hf.1
  unfold reconcileTruckForRoute
  simp only [ensures_bind, ensures_get]
  cases ht : c.truck with
  | none =>
    apply ensures_pure.mpr
    exact ⟨⟨fun _ ↦ ⟨rfl, rfl⟩, rfl, fun _ ↦ rfl⟩, by simp⟩
  | some truck =>
    have hr := hready truck ht
    have hcheck : checkRouteReference truck c.route now = pure ([], []) := by
      simp [checkRouteReference, hr.routeId]
    simp only [hcheck, ensures_bind, ensures_pure, ensures_get, List.nil_append]
    apply ((ensures_positionTruck ht hr now).and
      (ensures_positionTruck_record ht (c.route.currentPosition now) now)).mono _
      fun _ _ _ ↦ trivial
    rintro ⟨moved, released⟩ c' ⟨hstep, hrecord, hdisplaced⟩
    obtain ⟨truck', ht', -⟩ := hstep.truck
    refine ⟨by simp, fun t heq ↦ ?_⟩
    obtain rfl := Option.some.inj heq
    simp only [ht', Option.bind_some]
    constructor
    · cases released <;> exact hrecord
    · refine ⟨truck', rfl, ⟨fun hl hi ↦ by simp [hl, hi], ?_⟩, fun hrel hl hi ↦ ?_⟩
      rotate_left
      · have hmoved : moved = false := by
          by_contra hmoved
          rw [Bool.not_eq_false] at hmoved
          have hno : released = false := by cases released <;> simp_all
          obtain ⟨t, ht2, hne⟩ := hdisplaced hmoved hno
          obtain rfl := Option.some.inj (ht'.symm.trans ht2)
          exact hne.elim (absurd hl) (absurd hi)
        simp [hmoved, hl, hi]
      by_cases hchanged : (decide (truck'.currentLocation ≠ truck.currentLocation) ||
          decide (truck'.inTransitTo ≠ truck.inTransitTo)) = true
      · rw [if_pos hchanged]
        exact .inr ⟨_, rfl, rfl, rfl, rfl⟩
      · rw [if_neg hchanged]
        simp only [Bool.or_eq_true, decide_eq_true_eq, not_or, not_not] at hchanged
        exact .inl ⟨rfl, hchanged.1, hchanged.2⟩

end Reconciler
end FleetFlow
