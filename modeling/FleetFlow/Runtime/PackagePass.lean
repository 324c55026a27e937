import FleetFlow.Domain.Timetable
import FleetFlow.Runtime.Reconciliation

/-!
# What the reconciler does to a package

Every branch of the package pass ends in the state that the schedule determines, from
whatever state the package was in, and a package that is not listed as updated is unchanged.
-/

namespace FleetFlow

namespace DeliveryPackage

/-- A package keeps its shipment. -/
theorem SameShipment.refl (p : DeliveryPackage) : p.SameShipment p := ⟨rfl, rfl, rfl, rfl, rfl⟩

/-- Keeping the shipment composes. -/
theorem SameShipment.trans {a b c : DeliveryPackage} (h1 : a.SameShipment b)
    (h2 : b.SameShipment c) : a.SameShipment c :=
  ⟨h1.packageId.trans h2.packageId, h1.startLocation.trans h2.startLocation,
    h1.endLocation.trans h2.endLocation, h1.weight.trans h2.weight,
    h1.customer.trans h2.customer⟩

theorem SameShipment.symm {a b : DeliveryPackage} (h : a.SameShipment b) : b.SameShipment a :=
  ⟨h.packageId.symm, h.startLocation.symm, h.endLocation.symm, h.weight.symm, h.customer.symm⟩

end DeliveryPackage

namespace RouteSchedule

variable (schedule : RouteSchedule)

/-- Arrival times in stop order. -/
def times : List (LocationCode × Datetime) :=
  schedule.stops.map fun stop ↦ (stop.location, stop.arrivalAt)

/-- Looking a city up in the list of times is looking up its arrival. -/
@[simp] theorem lookup_times (city : LocationCode) :
    schedule.times.lookup city = schedule.arrival? city := by
  unfold times arrival?
  induction schedule.stops with
  | nil => rfl
  | cons stop stops ih =>
    rw [List.map_cons, List.lookup_cons, List.find?_cons]
    by_cases h : stop.location = city
    · simp [h]
    · simp [h, beq_eq_false_iff_ne.mpr (Ne.symm h), ih]

end RouteSchedule

namespace Reconciler

open Program

/-- The known times of a scheduled route are those of its schedule. -/
theorem stopTimes_of_scheduled {route : DeliveryRoute} {s : RouteSchedule}
    (hs : route.plan.schedule? = some s) : stopTimes route = .ok s.times := by
  have hmap : ∀ stops : List ScheduledStop, (∀ stop ∈ stops, stop ∈ s.stops) →
      (stops.map ScheduledStop.location).mapM (m := Except PyError) (fun city ↦ do
        let t ← route.arrivalTimeAt city
        .ok (city, t)) = .ok (stops.map fun stop ↦ (stop.location, stop.arrivalAt)) := by
    intro stops hmem
    induction stops with
    | nil => rfl
    | cons stop stops ih =>
      obtain ⟨i, hi⟩ := List.mem_iff_getElem?.mp (hmem stop (by simp))
      have ha : route.arrivalTimeAt stop.location = .ok stop.arrivalAt :=
        DeliveryRoute.arrivalTimeAt_eq_ok_iff.mpr
          ⟨s, hs, RouteSchedule.arrival?_of_getElem? hi⟩
      rw [List.map_cons, List.mapM_cons, ha, ih fun x hx ↦ hmem x (by simp [hx])]
      rfl
  have hd : route.departureTime = some s.departureTime := by
    simp [DeliveryRoute.departureTime, RoutePlan.departureTime, hs]
  unfold stopTimes
  rw [hd]
  have hl : route.locations = s.stops.map ScheduledStop.location :=
    (RoutePlan.locations_schedule hs).symm
  rw [hl]
  exact hmap s.stops fun _ h ↦ h

/-- The loop over the cities after a reached stop ends at the stop reached last. -/
private theorem lastReachedCity_of_reached {s : RouteSchedule} {now : Datetime}
    {cities : List LocationCode} {m : Nat} {previous : ScheduledStop}
    (hprev : s.stops[m]? = some previous) (hreach : previous.arrivalAt ≤ now)
    (hcities : ∀ (k : Nat) c, cities[k]? = some c →
      ∃ stop, s.stops[m + 1 + k]? = some stop ∧ stop.location = c)
    (hahead : ∃ (k : Nat) (stop : ScheduledStop), k < cities.length ∧
      s.stops[m + 1 + k]? = some stop ∧ now < stop.arrivalAt) :
    ∃ i stop, s.LastReached now i stop ∧
      lastReachedCity s.times now previous.location cities = stop.location := by
  induction cities generalizing m previous with
  | nil =>
    obtain ⟨k, -, hk, -⟩ := hahead
    simp at hk
  | cons city rest ih =>
    obtain ⟨stop, hstop, rfl⟩ := hcities 0 city rfl
    unfold lastReachedCity
    rw [RouteSchedule.lookup_times, RouteSchedule.arrival?_of_getElem? hstop]
    dsimp only
    split
    · next hlt =>
      refine ⟨m, previous, ⟨hprev, hreach, fun later hl ↦ ?_⟩, rfl⟩
      rw [Option.some.inj (hl.symm.trans hstop)]
      exact hlt
    · next hge =>
      refine ih (m := m + 1) hstop (not_lt.mp hge) (fun k c hc ↦ ?_) ?_
      · obtain ⟨next, hn, hc'⟩ := hcities (k + 1) c (by simpa using hc)
        exact ⟨next, by rwa [show m + 1 + 1 + k = m + 1 + (k + 1) by omega], hc'⟩
      · obtain ⟨k, next, hk, hn, hlt⟩ := hahead
        cases k with
        | zero =>
          rw [Option.some.inj (hn.symm.trans hstop)] at hlt
          exact absurd hlt hge
        | succ k =>
          refine ⟨k, next, by simpa using hk, ?_, hlt⟩
          rwa [show m + 1 + 1 + k = m + 1 + (k + 1) by omega]

/-- Between pickup and drop-off the loop over the cities in between ends at the stop reached
last. -/
theorem lastReachedCity_spec {route : DeliveryRoute} {s : RouteSchedule}
    (hs : route.plan.schedule? = some s) {now : Datetime} {i j : Nat} {a b : ScheduledStop}
    (ha : s.stops[i]? = some a) (hb : s.stops[j]? = some b) (hij : i < j)
    (hle : a.arrivalAt ≤ now) (hlt : now < b.arrivalAt) :
    ∃ k stop, s.LastReached now k stop ∧
      lastReachedCity s.times now a.location ((route.locations.drop i).take (j + 1 - i)) =
        stop.location := by
  have hl : route.locations = s.stops.map ScheduledStop.location :=
    (RoutePlan.locations_schedule hs).symm
  obtain ⟨hi, -⟩ := List.getElem?_eq_some_iff.mp ha
  obtain ⟨hj, -⟩ := List.getElem?_eq_some_iff.mp hb
  have hcons : (route.locations.drop i).take (j + 1 - i) =
      a.location :: (route.locations.drop (i + 1)).take (j - i) := by
    have hla : route.locations[i]? = some a.location := DeliveryRoute.getElem?_locations hs ha
    obtain ⟨hil, hil'⟩ := List.getElem?_eq_some_iff.mp hla
    rw [List.drop_eq_getElem_cons hil, hil', show j + 1 - i = j - i + 1 by omega,
      List.take_succ_cons]
  rw [hcons]
  obtain ⟨k, stop, hk, hres⟩ : ∃ k stop, s.LastReached now k stop ∧ lastReachedCity s.times now
      a.location ((route.locations.drop (i + 1)).take (j - i)) = stop.location := by
    refine lastReachedCity_of_reached ha hle (fun k c hc ↦ ?_) ⟨j - i - 1, b, ?_, ?_, hlt⟩
    · rw [List.getElem?_take] at hc
      split at hc
      · rw [List.getElem?_drop, hl, List.getElem?_map, Option.map_eq_some_iff] at hc
        exact hc
      · cases hc
    · rw [List.length_take, List.length_drop, hl, List.length_map]
      omega
    · rwa [show i + 1 + (j - i - 1) = j by omega]
  refine ⟨k, stop, hk, ?_⟩
  rw [← hres]
  conv_lhs => unfold lastReachedCity
  rw [RouteSchedule.lookup_times, RouteSchedule.arrival?_of_getElem? ha]
  exact if_neg (not_lt.mpr hle)

/-! ### Steps on a package -/

/-- A step that brings a package to a status and a location, leaving its links alone and
reporting whether it changed anything. -/
structure PackageStep (before after : DeliveryPackage) (changed : Bool) (status : ItemStatus)
    (location : LocationCode) : Prop where
  same : before.SameShipment after
  route : after.route = before.route
  routeId : after.routeId = before.routeId
  expectedArrival : after.expectedArrival = before.expectedArrival
  status : after.status = status
  location : after.currentLocation = location
  unchanged : changed = false → after = before

/-- Setting status and location. -/
theorem ensures_setPackageState (p : DeliveryPackage) (status : ItemStatus)
    (location : LocationCode) :
    Ensures (setPackageState status location) p
      (fun changed p' ↦ PackageStep p p' changed status location) (fun _ _ ↦ False) := by
  unfold setPackageState
  simp only [ensures_bind, ensures_get, ensures_set, ensures_pure]
  by_cases hl : p.currentLocation = location
  · rw [if_neg (not_not.mpr hl)]
    refine ⟨⟨rfl, rfl, rfl, rfl, rfl⟩, rfl, rfl, rfl, rfl, hl, fun hc ↦ ?_⟩
    have hst : p.status = status := by simpa [hl] using hc
    rw [← hst]
  · rw [if_pos hl]
    refine ⟨⟨rfl, rfl, rfl, rfl, rfl⟩, rfl, rfl, rfl, rfl, rfl, fun hc ↦ ?_⟩
    simp [hl] at hc

/-- Returning a package to its pickup. -/
theorem ensures_restorePackageBeforePickup (p : DeliveryPackage) :
    Ensures restorePackageBeforePickup p
      (fun changed p' ↦ PackageStep p p' changed .todo p.startLocation) (fun _ _ ↦ False) := by
  unfold restorePackageBeforePickup
  simp only [ensures_bind, ensures_get]
  exact ensures_setPackageState p .todo p.startLocation

/-- A lifecycle step of an assigned package in the right status. -/
theorem progress_eq_ok {p : DeliveryPackage} {fromStatus : ItemStatus} (hr : p.routeId.isSome)
    (hs : p.status = fromStatus) (verb : String) (toStatus : ItemStatus)
    (location : LocationCode) (event : PackageProgressed → DomainEvent) (t : Datetime) :
    ∃ events, p.progress verb fromStatus toStatus location event t =
      .ok { p with
        status := toStatus
        storedLocation := some location
        pendingEvents := p.pendingEvents ++ events } := by
  obtain ⟨r, hr⟩ := Option.isSome_iff_exists.mp hr
  unfold DeliveryPackage.progress DeliveryPackage.requireRouteId
  simp only [hr]
  exact ⟨_, require_bind_of_true hs _ _⟩

/-- Steps of one package compose when the second one keeps the links. -/
theorem PackageStep.trans {a b c : DeliveryPackage} {changed changed' : Bool}
    {status status' : ItemStatus} {location location' : LocationCode}
    (h1 : PackageStep a b changed status location)
    (h2 : PackageStep b c changed' status' location') :
    PackageStep a c (changed || changed') status' location' := by
  refine ⟨h1.same.trans h2.same, h2.route.trans h1.route, h2.routeId.trans h1.routeId,
    h2.expectedArrival.trans h1.expectedArrival, h2.status, h2.location, fun h ↦ ?_⟩
  rw [Bool.or_eq_false_iff] at h
  exact (h2.unchanged h.2).trans (h1.unchanged h.1)

/-- A package is where it is. -/
theorem PackageStep.refl (p : DeliveryPackage) :
    PackageStep p p false p.status p.currentLocation :=
  ⟨.refl p, rfl, rfl, rfl, rfl, rfl, fun _ ↦ rfl⟩

/-- Recording an overdue pickup leaves a package that is no longer waiting. -/
theorem ensures_pickUpIfTodo (p : DeliveryPackage) (hr : p.routeId.isSome)
    {pickupTime : Option Datetime} (h : p.status ≠ .todo ∨ pickupTime.isSome) :
    Ensures (pickUpIfTodo pickupTime) p
      (fun changed q ↦ PackageStep p q changed q.status q.currentLocation ∧ q.status ≠ .todo)
      (fun _ _ ↦ False) := by
  unfold pickUpIfTodo
  simp only [ensures_bind, ensures_get]
  split
  · next t hs =>
    obtain ⟨events, hp⟩ :=
      progress_eq_ok hr hs "picked up" .inProgress p.startLocation .packagePickedUp t
    simp only [DeliveryPackage.markPickedUp, hp, ensures_bind, ensures_lift_ok, ensures_set,
      ensures_pure]
    exact ⟨⟨⟨rfl, rfl, rfl, rfl, rfl⟩, rfl, rfl, rfl, rfl, rfl, by simp⟩, by simp⟩
  · next hno =>
    rw [ensures_pure]
    refine ⟨.refl p, fun hs ↦ ?_⟩
    obtain ⟨t, rfl⟩ := Option.isSome_iff_exists.mp (h.resolve_left (not_not.mpr hs))
    exact hno t hs rfl

/-- Recording an overdue delivery leaves a package that is done. -/
theorem ensures_deliverIfInProgress (p : DeliveryPackage) (hr : p.routeId.isSome)
    (hs : p.status ≠ .todo) (t : Datetime) :
    Ensures (deliverIfInProgress t) p
      (fun changed q ↦ PackageStep p q changed .done q.currentLocation) (fun _ _ ↦ False) := by
  unfold deliverIfInProgress
  simp only [ensures_bind, ensures_get]
  cases hst : p.status with
  | todo => exact absurd hst hs
  | inProgress =>
    obtain ⟨events, hp⟩ :=
      progress_eq_ok hr hst "delivered" .done p.endLocation .packageDelivered t
    simp only [DeliveryPackage.markDelivered, hp, ensures_bind, ensures_lift_ok, ensures_set,
      ensures_pure]
    exact ⟨⟨rfl, rfl, rfl, rfl, rfl⟩, rfl, rfl, rfl, rfl, rfl, by simp⟩
  | done =>
    rw [ensures_pure, ← hst]
    exact .refl p

/-- Correcting the location. -/
theorem ensures_moveTo (p : DeliveryPackage) (location : LocationCode) :
    Ensures (moveTo location) p (fun changed q ↦ PackageStep p q changed p.status location)
      (fun _ _ ↦ False) := by
  unfold moveTo
  simp only [ensures_bind, ensures_get]
  by_cases hl : p.currentLocation = location
  · rw [if_neg (not_not.mpr hl), ensures_pure]
    exact hl ▸ PackageStep.refl p
  · rw [if_pos hl, ensures_bind, ensures_set, ensures_pure]
    exact ⟨⟨rfl, rfl, rfl, rfl, rfl⟩, rfl, rfl, rfl, rfl, rfl, by simp⟩

/-- Completing a delivery ends at the drop-off, whatever the package was doing. -/
theorem ensures_completePackageLifecycle (p : DeliveryPackage) (hr : p.routeId.isSome)
    (pickupTime : Option Datetime) (deliveryTime : Datetime) :
    Ensures (completePackageLifecycle pickupTime deliveryTime) p
      (fun result p' ↦ PackageStep p p' result.1 .done p.endLocation ∧
        .expectedArrivalRecalculated ∉ result.2) (fun _ _ ↦ False) := by
  unfold completePackageLifecycle
  simp only [ensures_bind, ensures_get]
  split
  · simp only [ensures_bind, ensures_pure]
    exact (ensures_setPackageState p .done p.endLocation).mono
      (fun _ _ h ↦ ⟨h, by simp⟩) fun _ _ h ↦ h
  · next pickupTime _ _ hno =>
    simp only [ensures_bind, ensures_pure]
    have hcase : p.status ≠ .todo ∨ pickupTime.isSome := by
      by_contra hcon
      rw [not_or, not_not, Option.not_isSome_iff_eq_none] at hcon
      exact hno hcon.1 hcon.2
    refine (ensures_pickUpIfTodo p hr hcase).mono (fun pickedUp q hq ↦ ?_) fun _ _ h ↦ h
    refine (ensures_deliverIfInProgress q (hq.1.routeId ▸ hr) hq.2 deliveryTime).mono
      (fun delivered q' hq' ↦ ?_) fun _ _ h ↦ h
    refine (ensures_moveTo q' p.endLocation).mono (fun moved q'' hq'' ↦ ?_) fun _ _ h ↦ h
    rw [hq'.status] at hq''
    refine ⟨(hq.1.trans hq').trans hq'', ?_⟩
    cases moved <;> simp

/-- Starting the transport puts the package on its way, whatever it was doing. -/
theorem ensures_startTransport (p : DeliveryPackage) (hr : p.routeId.isSome)
    (pickupTime : Option Datetime) :
    Ensures (startTransport pickupTime) p
      (fun result q ↦ PackageStep p q result.1 .inProgress q.currentLocation ∧
        (result.2 = [] ∨ result.2 = [.lifecycleStateInconsistent])) (fun _ _ ↦ False) := by
  unfold startTransport
  simp only [ensures_bind, ensures_get]
  split
  · next t hs =>
    obtain ⟨events, hp⟩ :=
      progress_eq_ok hr hs "picked up" .inProgress p.startLocation .packagePickedUp t
    simp only [DeliveryPackage.markPickedUp, hp, ensures_bind, ensures_lift_ok, ensures_set,
      ensures_pure]
    exact ⟨⟨⟨rfl, rfl, rfl, rfl, rfl⟩, rfl, rfl, rfl, rfl, rfl, by simp⟩, .inl trivial⟩
  · next hs =>
    rw [ensures_pure]
    exact ⟨hs ▸ PackageStep.refl p, .inl rfl⟩
  · simp only [ensures_bind, ensures_set, ensures_pure]
    exact ⟨⟨⟨rfl, rfl, rfl, rfl, rfl⟩, rfl, rfl, rfl, rfl, rfl, by simp⟩, .inr trivial⟩

/-- Advancing a package ends on its way at the given city, whatever the package was doing. -/
theorem ensures_advancePackageInProgress (p : DeliveryPackage) (hr : p.routeId.isSome)
    (pickupTime : Option Datetime) (location : LocationCode) :
    Ensures (advancePackageInProgress pickupTime location) p
      (fun result p' ↦ PackageStep p p' result.1 .inProgress location ∧ result.2.Nodup ∧
        .expectedArrivalRecalculated ∉ result.2) (fun _ _ ↦ False) := by
  unfold advancePackageInProgress
  simp only [ensures_bind, ensures_pure]
  refine (ensures_startTransport p hr pickupTime).mono (fun result q hq ↦ ?_) fun _ _ h ↦ h
  refine (ensures_moveTo q location).mono (fun moved q' hq' ↦ ?_) fun _ _ h ↦ h
  rw [hq.1.status] at hq'
  refine ⟨hq.1.trans hq', ?_⟩
  rcases hq.2 with h | h <;> cases moved <;> simp [h]

/-- Recomputing the arrival of a package that has just been placed. -/
theorem ensures_setExpectedArrival (p : DeliveryPackage) (expectedArrival : Option Datetime) :
    Ensures (setExpectedArrival expectedArrival) p
      (fun changed p' ↦ p' = { p with expectedArrival } ∧
        (changed = false → p.expectedArrival = expectedArrival)) (fun _ _ ↦ False) := by
  unfold setExpectedArrival
  simp only [ensures_bind, ensures_get, ensures_set, ensures_pure]
  exact ⟨trivial, fun h ↦ by simpa using h⟩

/-- What one pass does to a package: its links stay, its state is the one the route determines,
and without a reported change nothing changes. -/
structure PackagePass (route : DeliveryRoute) (now : Datetime) (before after : DeliveryPackage)
    (changed : Bool) : Prop where
  settled : after.SettledOn route now
  same : before.SameShipment after
  route : after.route = before.route
  routeId : after.routeId = before.routeId
  unchanged : changed = false → after = before

/-- A package that a schedule visits in order. -/
structure VisitedInOrder (schedule : RouteSchedule) (package : DeliveryPackage) (i j : Nat)
    (pickup delivery : ScheduledStop) : Prop where
  getElem?_pickup : schedule.stops[i]? = some pickup
  pickupLocation : pickup.location = package.startLocation
  getElem?_delivery : schedule.stops[j]? = some delivery
  deliveryLocation : delivery.location = package.endLocation
  lt : i < j

/-- A package on a route is visited by its schedule. -/
theorem exists_visitedInOrder {route : DeliveryRoute} {s : RouteSchedule}
    (hs : route.plan.schedule? = some s) {p : DeliveryPackage}
    (h : route.includesInOrder p.startLocation p.endLocation = true) :
    ∃ i j pickup delivery, VisitedInOrder s p i j pickup delivery ∧
      route.plan.path.posIndex p.startLocation = some i ∧
      route.plan.path.posIndex p.endLocation = some j := by
  obtain ⟨i, j, hi, hj, hij⟩ := RoutePath.includesInOrder_iff.mp h
  obtain ⟨t, ht⟩ := DeliveryRoute.exists_arrival hs hi
  obtain ⟨t', ht'⟩ := DeliveryRoute.exists_arrival hs hj
  exact ⟨i, j, _, _, ⟨ht, rfl, ht', rfl, hij⟩, RoutePath.posIndex_eq_some_iff.mpr hi,
    RoutePath.posIndex_eq_some_iff.mpr hj⟩

namespace VisitedInOrder

variable {schedule : RouteSchedule} {package : DeliveryPackage} {i j : Nat}
  {pickup delivery : ScheduledStop} (h : VisitedInOrder schedule package i j pickup delivery)
include h

theorem arrival_start : schedule.arrival? package.startLocation = some pickup.arrivalAt :=
  h.pickupLocation ▸ RouteSchedule.arrival?_of_getElem? h.getElem?_pickup

theorem arrival_end : schedule.arrival? package.endLocation = some delivery.arrivalAt :=
  h.deliveryLocation ▸ RouteSchedule.arrival?_of_getElem? h.getElem?_delivery

theorem arrivalAt_lt : pickup.arrivalAt < delivery.arrivalAt :=
  RouteSchedule.arrivalAt_lt h.getElem?_pickup h.getElem?_delivery h.lt

end VisitedInOrder

/-- The place of a package that a schedule visits in order, as a step. -/
structure PlacedOn (schedule : RouteSchedule) (now : Datetime) (before after : DeliveryPackage)
    (changed : Bool) (pickup delivery : Datetime) : Prop where
  todo : now < pickup → PackageStep before after changed .todo before.startLocation
  done : delivery ≤ now → PackageStep before after changed .done before.endLocation
  inProgress : pickup ≤ now → now < delivery →
    ∃ i stop, schedule.LastReached now i stop ∧
      PackageStep before after changed .inProgress stop.location

/-- The clock selects the branch that brings a package to its place. -/
theorem ensures_placePackage {route : DeliveryRoute} {s : RouteSchedule}
    (hs : route.plan.schedule? = some s) {p : DeliveryPackage} (hr : p.routeId.isSome)
    {i j : Nat} {pickup delivery : ScheduledStop} (hv : VisitedInOrder s p i j pickup delivery)
    (now : Datetime) :
    Ensures (placePackage (some pickup.arrivalAt) (some delivery.arrivalAt)
      (lastReachedCity s.times now p.startLocation
        ((route.locations.drop i).take (j + 1 - i))) now) p
      (fun result q ↦ PlacedOn s now p q result.1 pickup.arrivalAt delivery.arrivalAt ∧
        result.2.Nodup ∧ .expectedArrivalRecalculated ∉ result.2) (fun _ _ ↦ False) := by
  have hlt := hv.arrivalAt_lt
  unfold placePackage
  simp only [Option.any_some, decide_eq_true_eq]
  by_cases h1 : now < pickup.arrivalAt
  · rw [if_pos h1]
    simp only [ensures_bind, ensures_pure]
    refine (ensures_restorePackageBeforePickup p).mono (fun changed q hq ↦ ?_) fun _ _ h ↦ h
    refine ⟨⟨fun _ ↦ hq, fun h ↦ absurd (h1.trans hlt) (not_lt.mpr h),
      fun h ↦ absurd h1 (not_lt.mpr h)⟩, ?_⟩
    cases changed <;> simp
  · rw [if_neg h1]
    by_cases h2 : delivery.arrivalAt ≤ now
    · simp only [Option.filter_some, h2, decide_true, if_true, ensures_bind, ensures_pure]
      refine (ensures_completePackageLifecycle p hr _ _).mono (fun result q hq ↦ ?_) fun _ _ h ↦ h
      refine ⟨⟨fun h ↦ absurd h h1, fun _ ↦ hq.1, fun _ h ↦ absurd h (not_lt.mpr h2)⟩, ?_,
        by simpa using hq.2⟩
      cases result.2 <;> simp
    · simp only [Option.filter_some, h2, decide_false, Bool.false_eq_true, if_false]
      refine (ensures_advancePackageInProgress p hr _ _).mono (fun result q hq ↦ ?_)
        fun _ _ h ↦ h
      obtain ⟨k, stop, hk, hres⟩ := lastReachedCity_spec hs hv.getElem?_pickup
        hv.getElem?_delivery hv.lt (not_lt.mp h1) (not_le.mp h2)
      rw [hv.pickupLocation] at hres
      rw [hres] at hq
      exact ⟨⟨fun h ↦ absurd h h1, fun h ↦ absurd h h2, fun _ _ ↦ ⟨k, stop, hk, hq.1⟩⟩, hq.2⟩

/-- A package in its place is on schedule once its arrival is recomputed. -/
theorem PlacedOn.packagePass {route : DeliveryRoute} {s : RouteSchedule}
    (hs : route.plan.schedule? = some s) {p q : DeliveryPackage} {i j : Nat}
    {pickup delivery : ScheduledStop} (hv : VisitedInOrder s p i j pickup delivery)
    {now : Datetime} {changed recalculated : Bool}
    (h : PlacedOn s now p q changed pickup.arrivalAt delivery.arrivalAt)
    (hrec : recalculated = false → q.expectedArrival = some delivery.arrivalAt) :
    PackagePass route now p { q with expectedArrival := some delivery.arrivalAt }
      (changed || recalculated) := by
  obtain ⟨status, location, hq⟩ :
      ∃ status location, PackageStep p q changed status location := by
    by_cases h1 : now < pickup.arrivalAt
    · exact ⟨_, _, h.todo h1⟩
    · by_cases h2 : delivery.arrivalAt ≤ now
      · exact ⟨_, _, h.done h2⟩
      · obtain ⟨k, stop, -, hq⟩ := h.inProgress (not_lt.mp h1) (not_le.mp h2)
        exact ⟨_, _, hq⟩
  have hse : p.endLocation = q.endLocation := hq.same.endLocation
  have hss : p.startLocation = q.startLocation := hq.same.startLocation
  have hstart := hss ▸ hv.arrival_start
  have hend := hse ▸ hv.arrival_end
  refine ⟨?_, hq.same.trans ⟨rfl, rfl, rfl, rfl, rfl⟩, hq.route, hq.routeId, fun hc ↦ ?_⟩
  · unfold DeliveryPackage.SettledOn
    rw [hs]
    refine ⟨hend.symm, fun t ht hnow ↦ ?_, fun t ht hnow ↦ ?_, fun t t' ht ht' hnow hnow' ↦ ?_⟩
    · obtain rfl := Option.some.inj (hstart.symm.trans ht)
      exact ⟨(h.todo hnow).status, (h.todo hnow).location.trans hss⟩
    · obtain rfl := Option.some.inj (hend.symm.trans ht)
      exact ⟨(h.done hnow).status, (h.done hnow).location.trans hse⟩
    · obtain rfl := Option.some.inj (hstart.symm.trans ht)
      obtain rfl := Option.some.inj (hend.symm.trans ht')
      obtain ⟨k, stop, hk, hstep⟩ := h.inProgress hnow hnow'
      exact ⟨hstep.status, k, stop, hk, hstep.location⟩
  · rw [Bool.or_eq_false_iff] at hc
    have hqp := hq.unchanged hc.1
    subst hqp
    rw [← hrec hc.2]

/-- A scheduled package ends in the state of the schedule. -/
theorem ensures_schedulePackage {route : DeliveryRoute} {s : RouteSchedule}
    (hs : route.plan.schedule? = some s) {p : DeliveryPackage} (hr : p.routeId.isSome)
    {i j : Nat} {pickup delivery : ScheduledStop} (hv : VisitedInOrder s p i j pickup delivery)
    (now : Datetime) :
    Ensures (schedulePackage route s.times ((route.locations.drop i).take (j + 1 - i)) now) p
      (fun result p' ↦ PackagePass route now p p' result.1 ∧ result.2.Nodup)
      (fun _ _ ↦ False) := by
  have harr : route.arrivalTimeAt p.endLocation = .ok delivery.arrivalAt :=
    DeliveryRoute.arrivalTimeAt_eq_ok_iff.mpr ⟨s, hs, hv.arrival_end⟩
  unfold schedulePackage
  simp only [RouteSchedule.lookup_times, hv.arrival_start, hv.arrival_end, harr, ensures_bind,
    ensures_get, ensures_lift_ok, ensures_pure]
  refine (ensures_placePackage hs hr hv now).mono (fun result q hq ↦ ?_) fun _ _ h ↦ h
  refine (ensures_setExpectedArrival q (some delivery.arrivalAt)).mono ?_ fun _ _ h ↦ h
  rintro recalculated q' ⟨rfl, hrec⟩
  refine ⟨hq.1.packagePass hs hv hrec, ?_⟩
  cases recalculated with
  | false => simpa using hq.2.1
  | true =>
    rw [if_pos rfl, List.nodup_append]
    exact ⟨hq.2.1, by simp, fun a ha b hb hab ↦ hq.2.2 (by simp_all)⟩

/-- A package of an unscheduled route ends waiting at its pickup. -/
theorem ensures_clearPackage {route : DeliveryRoute} (hs : route.plan.schedule? = none)
    (p : DeliveryPackage) (reason : PackageReconciliationReason)
    (hreason : reason ≠ .expectedArrivalRecalculated) (now : Datetime) :
    Ensures (clearPackage reason) p
      (fun result p' ↦ PackagePass route now p p' result.1 ∧ result.2.Nodup)
      (fun _ _ ↦ False) := by
  unfold clearPackage
  simp only [ensures_bind, ensures_pure]
  refine (ensures_restorePackageBeforePickup p).mono (fun restored q hq ↦ ?_) fun _ _ h ↦ h
  refine (ensures_setExpectedArrival q none).mono ?_ fun _ _ h ↦ h
  rintro cleared q' ⟨rfl, hcleared⟩
  refine ⟨⟨?_, hq.same.trans ⟨rfl, rfl, rfl, rfl, rfl⟩, hq.route, hq.routeId, fun hc ↦ ?_⟩, ?_⟩
  · unfold DeliveryPackage.SettledOn
    rw [hs]
    exact ⟨hq.status, hq.location.trans hq.same.startLocation, rfl⟩
  · simp only [Bool.or_eq_false_iff] at hc
    rw [hq.unchanged hc.1] at hcleared ⊢
    rw [← hcleared hc.2]
  · cases cleared <;> cases restored <;> simp [hreason.symm]

/-- The state of a package of the route is settled. -/
theorem ensures_updatePackageState {route : DeliveryRoute}
    {times : List (LocationCode × Datetime)} (ht : stopTimes route = .ok times)
    {p : DeliveryPackage} (hr : p.routeId.isSome)
    (hv : route.includesInOrder p.startLocation p.endLocation = true) (now : Datetime) :
    Ensures (updatePackageState route times now) p
      (fun result p' ↦ PackagePass route now p p' result.1 ∧ result.2.Nodup)
      (fun _ _ ↦ False) := by
  unfold updatePackageState
  simp only [ensures_bind, ensures_get]
  cases hs : route.plan.schedule? with
  | none =>
    have hd : route.departureTime = none := by
      simp [DeliveryRoute.departureTime, RoutePlan.departureTime, hs]
    rw [hd]
    exact ensures_clearPackage hs p .routeUnscheduled (by decide) now
  | some s =>
    have hd : route.departureTime = some s.departureTime := by
      simp [DeliveryRoute.departureTime, RoutePlan.departureTime, hs]
    obtain ⟨i, j, pickup, delivery, hvisit, hi, hj⟩ := exists_visitedInOrder hs hv
    obtain rfl : s.times = times := Except.ok.inj ((stopTimes_of_scheduled hs).symm.trans ht)
    simp only [hd, packageRange, hi, hj, if_pos hvisit.lt.le]
    exact ensures_schedulePackage hs hr hvisit now

/-- Distinct reasons make an event that passes its checks. -/
theorem exists_packageEvents (route : DeliveryRoute) (times : List (LocationCode × Datetime))
    (now : Datetime) (before after : DeliveryPackage)
    {reasons : List PackageReconciliationReason} (hnd : reasons.Nodup) :
    ∃ events, packageEvents route times now before after reasons = .ok events := by
  unfold packageEvents
  dsimp only
  split
  · exact ⟨[], rfl⟩
  · next hne =>
    unfold PackageStateReconciled.check
    rw [require_bind_of_true hne, require_bind_of_true hnd]
    exact ⟨_, rfl⟩

/-- One pass settles a package of the route and lists it if it changed anything. -/
theorem ensures_updatePackage {route : DeliveryRoute} {times : List (LocationCode × Datetime)}
    (ht : stopTimes route = .ok times) {p : DeliveryPackage} (hr : p.routeId.isSome)
    (hv : route.includesInOrder p.startLocation p.endLocation = true) (now : Datetime) :
    Ensures (updatePackage route times now) p
      (fun result p' ↦ ∃ changed, PackagePass route now p p' changed ∧
        result.1 = if changed then [p.packageId] else []) (fun _ _ ↦ False) := by
  unfold updatePackage
  simp only [ensures_bind, ensures_get, ensures_pure]
  refine (ensures_updatePackageState ht hr hv now).mono (fun result q hq ↦ ?_) fun _ _ h ↦ h
  obtain ⟨events, he⟩ := exists_packageEvents route times now p q hq.2
  rw [he, ensures_lift_ok]
  exact ⟨result.1, hq.1, rfl⟩

/-- The known times of a route can always be computed. -/
theorem exists_stopTimes (route : DeliveryRoute) : ∃ times, stopTimes route = .ok times := by
  cases hs : route.plan.schedule? with
  | none =>
    have hd : route.departureTime = none := by
      simp [DeliveryRoute.departureTime, RoutePlan.departureTime, hs]
    exact ⟨[], by simp [stopTimes, hd]⟩
  | some s => exact ⟨s.times, stopTimes_of_scheduled hs⟩

/-- One package of the route, ready for a pass. -/
structure PackageReady (route : DeliveryRoute) (p : DeliveryPackage) : Prop where
  routeId : p.routeId.isSome
  inOrder : route.includesInOrder p.startLocation p.endLocation = true

/-- The pass over all packages settles each of them. -/
theorem ensures_updatePackagesForRoute (c : RouteCell)
    (hready : ∀ p ∈ c.packages, PackageReady c.route p) (now : Datetime) :
    Ensures (updatePackagesForRoute now) c
      (fun result c' ↦ c'.route = c.route ∧ c'.truck = c.truck ∧
        List.Forall₂ (fun p p' ↦ PackagePass c.route now p p' (decide (p.packageId ∈ result.1)))
          c.packages c'.packages) (fun _ _ ↦ False) := by
  obtain ⟨times, ht⟩ := exists_stopTimes c.route
  unfold updatePackagesForRoute
  simp only [ht, ensures_bind, ensures_get, ensures_lift_ok, ensures_zoom, ensures_pure]
  refine (ensures_each (fun p r ↦ ∃ changed, PackagePass c.route now p r.2 changed ∧
    r.1.1 = if changed then [p.packageId] else []) fun p hp ↦
    ensures_updatePackage ht (hready p hp).routeId (hready p hp).inOrder now).mono ?_ fun _ _ h ↦ h
  rintro listed packages ⟨results, rfl, rfl, hrel⟩
  refine ⟨trivial, trivial, ?_⟩
  rw [List.forall₂_map_right_iff]
  refine List.forall₂_iff_get.mpr ⟨hrel.length_eq, fun i hi hi' ↦ ?_⟩
  obtain ⟨changed, hpass, hlist⟩ := hrel.get hi hi'
  refine { hpass with unchanged := fun hno ↦ hpass.unchanged ?_ }
  rw [decide_eq_false_iff_not] at hno
  cases changed with
  | false => rfl
  | true =>
    refine absurd ?_ hno
    rw [List.mem_flatMap]
    refine ⟨_, List.mem_map_of_mem (List.get_mem results ⟨i, hi'⟩), ?_⟩
    rw [hlist]
    simp

end Reconciler
end FleetFlow
