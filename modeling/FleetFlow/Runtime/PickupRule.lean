import FleetFlow.Runtime.PassEvents
import FleetFlow.Runtime.Run

/-!
# The pickup rule

The assignment policy decides on position kinds and stop indices whether a pickup has passed. On
times this is: the route has departed, for a pickup at the first stop, or the arrival is over, for
a later one. What the policy accepts, the package pass of a later heartbeat can still pick up.
-/

namespace FleetFlow

open Program

/-- No package can be picked up at a city any more. -/
def RouteSchedule.PickupOver (schedule : RouteSchedule) (city : LocationCode) (now : Datetime) :
    Prop :=
  ∃ (i : Nat) (stop : ScheduledStop), schedule.stops[i]? = some stop ∧ stop.location = city ∧
    (i = 0 ∧ schedule.departureTime ≤ now ∨ 1 ≤ i ∧ stop.arrivalAt < now)

/-- The package pass of a heartbeat leaves a package of the route in transport at its pickup, and
records its pickup if it was waiting. -/
def DeliveryRoute.PicksUp (route : DeliveryRoute) (package : DeliveryPackage) (now : Datetime) :
    Prop :=
  ∃ times, Reconciler.stopTimes route = .ok times ∧
    Ensures (Reconciler.updatePackage route times now) package
      (fun _ after ↦ after.status = .inProgress ∧ after.currentLocation = package.startLocation ∧
        (package.status = .todo → ∃ recorded,
          after.pendingEvents = package.pendingEvents ++ recorded ∧
          recorded.filterMap DomainEvent.lifecycle? =
            [.packagePickedUp package.packageId route.routeId now]))
      (fun _ _ ↦ False)

namespace PackageAssignmentPolicy

variable {route : DeliveryRoute} {routePackages : List DeliveryPackage} {truck : Option Truck}
  {package : DeliveryPackage} {now : Datetime} {s : RouteSchedule}

/-- The truck constraints do not look at the pickup. -/
theorem exists_evaluateTruckConstraints (route : DeliveryRoute)
    (routePackages : List DeliveryPackage) (truck : Option Truck) (package : DeliveryPackage) :
    ∃ decision, evaluateTruckConstraints route routePackages truck package = .ok decision ∧
      ∀ message, decision ≠ .reject .pickupAlreadyPassed message := by
  unfold evaluateTruckConstraints
  cases truck with
  | none => exact ⟨.accept, rfl, fun message ↦ by simp⟩
  | some truck =>
    dsimp only
    split
    · exact ⟨_, rfl, fun message ↦ by simp⟩
    · obtain ⟨d, hd⟩ := route.exists_totalDistanceKm
      rw [hd, ok_bind]
      split
      · exact ⟨_, rfl, fun message ↦ by simp⟩
      · exact ⟨_, rfl, fun message ↦ by simp⟩

/-- On a route that visits the package in order the time of the pickup stop decides first. -/
theorem evaluate_of_schedule (hs : route.plan.schedule? = some s)
    (horder : route.includesInOrder package.startLocation package.endLocation = true)
    (routePackages : List DeliveryPackage) (truck : Option Truck) (now : Datetime) :
    (s.PickupOver package.startLocation now ∧
      evaluate route routePackages truck package now = .ok (pickupPassedError route package)) ∨
    ¬ s.PickupOver package.startLocation now ∧
      evaluate route routePackages truck package now =
        evaluateTruckConstraints route routePackages truck package := by
  obtain ⟨i, j, pickup, delivery, hv, -, -⟩ := Reconciler.exists_visitedInOrder hs horder
  have hover : s.PickupOver package.startLocation now ↔
      i = 0 ∧ s.departureTime ≤ now ∨ 1 ≤ i ∧ pickup.arrivalAt < now := by
    constructor
    · rintro ⟨k, stop, hk, hlocation, htime⟩
      obtain rfl := RouteSchedule.index_eq_of_location hk hv.getElem?_pickup
        (hlocation.trans hv.pickupLocation.symm)
      obtain rfl := Option.some.inj (hk.symm.trans hv.getElem?_pickup)
      exact htime
    · intro htime
      exact ⟨i, pickup, hv.getElem?_pickup, hv.pickupLocation, htime⟩
  have hcheck := evaluatePickupNotPassed_of_schedule hs hv.getElem?_pickup hv.pickupLocation now
  unfold evaluate
  rw [evaluatePackageRouteCompatibility_eq_accept_iff.mpr horder, hcheck, ok_bind, hover]
  by_cases htime : i = 0 ∧ s.departureTime ≤ now ∨ 1 ≤ i ∧ pickup.arrivalAt < now
  · rw [if_pos htime]
    exact .inl ⟨htime, rfl⟩
  · rw [if_neg htime]
    exact .inr ⟨htime, rfl⟩

/-- The policy always decides. -/
theorem exists_evaluate (route : DeliveryRoute) (routePackages : List DeliveryPackage)
    (truck : Option Truck) (package : DeliveryPackage) (now : Datetime) :
    ∃ decision, evaluate route routePackages truck package now = .ok decision := by
  obtain ⟨decision, hdecision, -⟩ :=
    exists_evaluateTruckConstraints route routePackages truck package
  cases hcompatible : evaluatePackageRouteCompatibility route package with
  | reject reason message => exact ⟨.reject reason message, by rw [evaluate, hcompatible]⟩
  | accept =>
    have horder := evaluatePackageRouteCompatibility_eq_accept_iff.mp hcompatible
    cases hs : route.plan.schedule? with
    | some s =>
      rcases evaluate_of_schedule hs horder routePackages truck now with ⟨-, h⟩ | ⟨-, h⟩
      · exact ⟨_, h⟩
      · exact ⟨decision, h.trans hdecision⟩
    | none =>
      have hdeparture : route.departureTime = none := by
        rw [DeliveryRoute.departureTime, RoutePlan.departureTime, hs, Option.map_none]
      refine ⟨decision, ?_⟩
      rw [evaluate, hcompatible, evaluatePickupNotPassed, hdeparture]
      exact hdecision

/-- The policy reports a passed pickup exactly when the pickup is over. -/
theorem evaluate_eq_pickupAlreadyPassed_iff (hs : route.plan.schedule? = some s)
    (horder : route.includesInOrder package.startLocation package.endLocation = true) :
    (∃ message, evaluate route routePackages truck package now =
      .ok (.reject .pickupAlreadyPassed message)) ↔ s.PickupOver package.startLocation now := by
  rcases evaluate_of_schedule hs horder routePackages truck now with
    ⟨hover, heval⟩ | ⟨hnot, heval⟩
  · exact iff_of_true ⟨_, heval⟩ hover
  · refine iff_of_false ?_ hnot
    rintro ⟨message, hreject⟩
    obtain ⟨decision, hdecision, hother⟩ :=
      exists_evaluateTruckConstraints route routePackages truck package
    rw [heval, hdecision, Except.ok.injEq] at hreject
    exact hother message hreject

/-- A pickup that is over stays over. -/
theorem pickupOver_mono {city : LocationCode} {later : Datetime} (hle : now ≤ later)
    (h : s.PickupOver city now) : s.PickupOver city later := by
  obtain ⟨i, stop, hi, hcity, htime⟩ := h
  refine ⟨i, stop, hi, hcity, ?_⟩
  rcases htime with ⟨hfirst, hdep⟩ | ⟨hlater, hlt⟩
  · exact .inl ⟨hfirst, hdep.trans hle⟩
  · exact .inr ⟨hlater, hlt.trans_le hle⟩

/-- What is accepted at an instant is accepted before. -/
theorem evaluate_eq_accept_of_le {later : Datetime} (hs : route.plan.schedule? = some s)
    (horder : route.includesInOrder package.startLocation package.endLocation = true)
    (hle : now ≤ later) (h : evaluate route routePackages truck package later = .ok .accept) :
    evaluate route routePackages truck package now = .ok .accept := by
  rcases evaluate_of_schedule hs horder routePackages truck later with
    ⟨-, heval⟩ | ⟨hnot, heval⟩
  · rw [heval] at h
    cases h
  · rcases evaluate_of_schedule hs horder routePackages truck now with
      ⟨hover, -⟩ | ⟨-, heval'⟩
    · exact absurd (pickupOver_mono hle hover) hnot
    · rw [heval', ← heval, h]

/-- A pass at the pickup instant picks up a package of the route. -/
theorem picksUp_of_visitedInOrder (hs : route.plan.schedule? = some s)
    (horder : route.includesInOrder package.startLocation package.endLocation = true)
    (hroute : package.routeId = some route.routeId) {i j : Nat} {pickup delivery : ScheduledStop}
    (hv : Reconciler.VisitedInOrder s package i j pickup delivery) :
    route.PicksUp package pickup.arrivalAt := by
  refine ⟨s.times, Reconciler.stopTimes_of_scheduled hs, ?_⟩
  refine (Reconciler.ensures_updatePackage_record (Reconciler.stopTimes_of_scheduled hs) hroute
    horder pickup.arrivalAt).mono (fun result after h ↦ ?_) fun _ _ h ↦ h
  obtain ⟨changed, reasons, ⟨hpass, -, haccounted⟩, -⟩ := h.trace
  have hsettled := hpass.settled
  rw [DeliveryPackage.SettledOn, hs] at hsettled
  have hstart : s.arrival? after.startLocation = some pickup.arrivalAt :=
    hpass.same.startLocation ▸ hv.arrival_start
  have hend : s.arrival? after.endLocation = some delivery.arrivalAt :=
    hpass.same.endLocation ▸ hv.arrival_end
  obtain ⟨hstatus, k, stop, hlast, hlocation⟩ :=
    hsettled.inProgress _ _ hstart hend le_rfl hv.arrivalAt_lt
  refine ⟨hstatus, ?_, fun htodo ↦ ?_⟩
  · -- The pickup stop itself is the last stop that has been reached.
    have hpickup : s.LastReached pickup.arrivalAt i pickup :=
      ⟨hv.getElem?_pickup, le_rfl, fun later hlater ↦
        RouteSchedule.arrivalAt_lt hv.getElem?_pickup hlater (Nat.lt_succ_self i)⟩
    rw [hlocation, hlast.stop_eq hpickup, hv.pickupLocation]
  · obtain ⟨recorded, hevents, hlifecycle, -⟩ := haccounted.recorded
    refine ⟨recorded, hevents, ?_⟩
    rw [hlifecycle, Reconciler.transitionsOn_eq hs hv, DeliveryPackage.transitions,
      if_pos ⟨htodo, le_rfl⟩, if_neg fun h ↦ absurd h.2 (not_le.mpr hv.arrivalAt_lt)]
    rfl

/-- The pickup rule of the policy is its rule on times: it reports a passed pickup exactly when
the pickup is over, a heartbeat can still pick up what it accepts, and it accepts nothing later
that it rejects now. -/
theorem pickup_rule (hs : route.plan.schedule? = some s)
    (horder : route.includesInOrder package.startLocation package.endLocation = true)
    (routePackages : List DeliveryPackage) (truck : Option Truck) (now : Datetime) :
    ((∃ message, evaluate route routePackages truck package now =
      .ok (.reject .pickupAlreadyPassed message)) ↔ s.PickupOver package.startLocation now) ∧
    (evaluate route routePackages truck package now = .ok .accept → ∃ t, now ≤ t ∧
      ∀ (route' : DeliveryRoute) (linked : DeliveryPackage), route'.plan = route.plan →
        package.SameShipment linked → linked.routeId = some route'.routeId →
        route'.PicksUp linked t) ∧
    (∀ later, now ≤ later → evaluate route routePackages truck package later = .ok .accept →
      evaluate route routePackages truck package now = .ok .accept) := by
  refine ⟨evaluate_eq_pickupAlreadyPassed_iff hs horder, fun haccept ↦ ?_,
    fun later hle h ↦ evaluate_eq_accept_of_le hs horder hle h⟩
  obtain ⟨i, j, pickup, delivery, hv, -, -⟩ := Reconciler.exists_visitedInOrder hs horder
  have harrival : route.arrivalTimeAt package.startLocation = .ok pickup.arrivalAt :=
    DeliveryRoute.arrivalTimeAt_eq_ok_iff.mpr ⟨s, hs, hv.arrival_start⟩
  refine ⟨pickup.arrivalAt, le_arrival_of_evaluatePickupNotPassed
    (evaluatePickupNotPassed_of_evaluate haccept) harrival, ?_⟩
  intro route' linked hplan hsame hroute
  have hs' : route'.plan.schedule? = some s := by
    rw [hplan, hs]
  have horder' : route'.includesInOrder linked.startLocation linked.endLocation = true := by
    rw [← hsame.startLocation, ← hsame.endLocation, DeliveryRoute.includesInOrder, hplan]
    exact horder
  refine picksUp_of_visitedInOrder hs' horder' hroute ⟨hv.getElem?_pickup, ?_,
    hv.getElem?_delivery, ?_, hv.lt⟩
  · rw [hv.pickupLocation, hsame.startLocation]
  · rw [hv.deliveryLocation, hsame.endLocation]

end PackageAssignmentPolicy

/-- The rule for the route of the scenario and its package, at the departure instant. -/
theorem Scenario.pickup_rule_steps : ∃ route s package,
    (performAll .asciiOnly (.initial Scenario.fleet) Scenario.steps).routes.find? 1 = some route ∧
    (performAll .asciiOnly (.initial Scenario.fleet) Scenario.steps).packages.find? 1 =
      some package ∧
    route.plan.schedule? = some s ∧
    route.includesInOrder package.startLocation package.endLocation = true ∧
    ((∃ message, PackageAssignmentPolicy.evaluate route [] none package (Scenario.hour 8) =
        .ok (.reject .pickupAlreadyPassed message)) ↔
      s.PickupOver package.startLocation (Scenario.hour 8)) ∧
    (PackageAssignmentPolicy.evaluate route [] none package (Scenario.hour 8) = .ok .accept →
      ∃ t, Scenario.hour 8 ≤ t ∧ ∀ (route' : DeliveryRoute) (linked : DeliveryPackage),
        route'.plan = route.plan → package.SameShipment linked →
          linked.routeId = some route'.routeId → route'.PicksUp linked t) ∧
    (∀ later, Scenario.hour 8 ≤ later →
      PackageAssignmentPolicy.evaluate route [] none package later = .ok .accept →
        PackageAssignmentPolicy.evaluate route [] none package (Scenario.hour 8) = .ok .accept) := by
  have hfound : ((performAll .asciiOnly (.initial Scenario.fleet) Scenario.steps).routes.find?
      1).any (fun route ↦ route.plan.schedule?.isSome &&
        ((performAll .asciiOnly (.initial Scenario.fleet) Scenario.steps).packages.find? 1).any
          fun package ↦ route.includesInOrder package.startLocation package.endLocation) =
        true := by decide +kernel
  obtain ⟨route, hroute, hboth⟩ := (Option.any_eq_true ..).mp hfound
  rw [Bool.and_eq_true] at hboth
  obtain ⟨s, hs⟩ := Option.isSome_iff_exists.mp hboth.1
  obtain ⟨package, hpackage, horder⟩ := (Option.any_eq_true ..).mp hboth.2
  exact ⟨route, s, package, hroute, hpackage, hs, horder,
    PackageAssignmentPolicy.pickup_rule hs horder [] none (Scenario.hour 8)⟩

end FleetFlow
