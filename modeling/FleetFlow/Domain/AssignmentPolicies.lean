import FleetFlow.Domain.RouteLoad
import FleetFlow.Domain.RoutePhases
import FleetFlow.Domain.Truck

/-!
# Assignment policies

Follows `domain/services/package_assignment_policy.py` and
`domain/services/truck_assignment_policy.py`. A route's packages and truck, and the
route a truck currently serves, are passed as the objects the references stand for.
-/

namespace FleetFlow

/-- Acceptance, or a rejection with its message; `domain/value_objects/package_assignment_decision.py`
and `domain/value_objects/truck_assignment_decision.py`. -/
inductive AssignmentDecision (reason : Type) where
  | accept
  | reject (reason : reason) (message : String)
deriving DecidableEq, Repr

/-- Enforced rejections; `domain/enums/package_assignment_rejection_reasons.py`. -/
inductive PackageAssignmentRejectionReason where
  | locationsNotOnRoute
  | locationsOutOfOrder
  | pickupAlreadyPassed
  | truckCapacityExceeded
  | truckRangeInsufficient
deriving DecidableEq, Repr

/-- Rejections of a truck; `domain/enums/truck_assignment_rejection_reasons.py`. -/
inductive TruckAssignmentRejectionReason where
  | truckRangeInsufficient
  | truckCapacityInsufficient
  | truckAtWrongLocation
  | targetRouteUnscheduled
  | currentRouteAvailabilityUnknown
  | availabilityWindowOverlap
deriving DecidableEq, Repr

namespace PackageAssignmentPolicy

/-- Decisions about a package. -/
abbrev Decision := AssignmentDecision PackageAssignmentRejectionReason

/-- A lookup in the location index of the policy. -/
def locationIndex (route : DeliveryRoute) (city : LocationCode) : Except PyError Nat :=
  match route.plan.path.posIndex city with
  | some i => .ok i
  | none => .error ⟨.keyError, city.text⟩

/-- Whether the package's path lies on the route;
`domain/services/package_assignment_policy.py:67–86`. -/
def evaluatePackageRouteCompatibility (route : DeliveryRoute) (package : DeliveryPackage) :
    Decision :=
  if package.startLocation ∉ route.locations ∨ package.endLocation ∉ route.locations then
    .reject .locationsNotOnRoute (s!"Route {route.routeId} does not include start/end of " ++
      s!"package {package.packageId} ({package.startLocation} -> {package.endLocation}).")
  else if route.includesInOrder package.startLocation package.endLocation = false then
    .reject .locationsOutOfOrder (s!"Route {route.routeId} does not pass from " ++
      s!"{package.startLocation} to {package.endLocation} in order for package {package.packageId}.")
  else .accept

/-- Rejection of a late package; `domain/services/package_assignment_policy.py:122–129`. -/
def pickupPassedError (route : DeliveryRoute) (package : DeliveryPackage) : Decision :=
  .reject .pickupAlreadyPassed (s!"Route {route.routeId} has already passed pickup location " ++
    s!"{package.startLocation} for package {package.packageId}.")

/-- Whether the pickup stop is still ahead; `domain/services/package_assignment_policy.py:88–120`. -/
def evaluatePickupNotPassed (route : DeliveryRoute) (package : DeliveryPackage) (now : Datetime) :
    Except PyError Decision :=
  match route.departureTime with
  | none => .ok .accept
  | some _ => do
    let pickupIndex ← locationIndex route package.startLocation
    let position := route.currentPosition now
    match position.kind with
    | .unscheduled | .beforeStart => .ok .accept
    | .atStop =>
      match position.stopCity with
      | none => .ok .accept
      | some stopCity => do
        let i ← locationIndex route stopCity
        .ok (if pickupIndex < i then pickupPassedError route package else .accept)
    | .inTransit =>
      match position.fromCity with
      | none => .ok .accept
      | some fromCity => do
        let i ← locationIndex route fromCity
        .ok (if pickupIndex ≤ i then pickupPassedError route package else .accept)
    | .afterEnd => .ok (pickupPassedError route package)

/-- Whether the assigned truck can carry the package too;
`domain/services/package_assignment_policy.py:131–182`. -/
def evaluateTruckConstraints [WeightArithmetic] (route : DeliveryRoute)
    (routePackages : List DeliveryPackage) (truck : Option Truck) (extraPackage : DeliveryPackage) :
    Except PyError Decision :=
  match truck with
  | none => .ok .accept
  | some truck => do
    let maxSegmentLoad := route.maximumSegmentLoad routePackages (some extraPackage)
    if (truck.capacity : Rat) < maxSegmentLoad then
      .ok (.reject .truckCapacityExceeded (s!"Truck {truck.vehicleId} capacity exceeded: " ++
        s!"segment load {maxSegmentLoad}kg > {truck.capacity}kg."))
    else
      let totalDistanceKm ← route.totalDistanceKm
      if truck.maxRange < totalDistanceKm then
        .ok (.reject .truckRangeInsufficient
          (s!"Truck {truck.vehicleId} lacks range for {totalDistanceKm} km " ++
            s!"(range: {truck.maxRange} km)."))
      else .ok .accept

/-- Evaluate a package for a route; `domain/services/package_assignment_policy.py:24–65`. -/
def evaluate [WeightArithmetic] (route : DeliveryRoute) (routePackages : List DeliveryPackage)
    (truck : Option Truck) (package : DeliveryPackage) (now : Datetime) :
    Except PyError Decision := do
  match evaluatePackageRouteCompatibility route package with
  | .reject reason message => .ok (.reject reason message)
  | .accept =>
    match ← evaluatePickupNotPassed route package now with
    | .reject reason message => .ok (.reject reason message)
    | .accept => evaluateTruckConstraints route routePackages truck package

variable {route : DeliveryRoute} {routePackages : List DeliveryPackage} {truck : Option Truck}
  {package : DeliveryPackage} {now : Datetime}

/-- A package passes the path check exactly when the route visits its pickup before its drop-off. -/
theorem evaluatePackageRouteCompatibility_eq_accept_iff :
    evaluatePackageRouteCompatibility route package = .accept ↔
      route.includesInOrder package.startLocation package.endLocation = true := by
  unfold evaluatePackageRouteCompatibility
  split
  · next h =>
    simp only [reduceCtorEq, false_iff]
    intro hio
    obtain ⟨i, j, hi, hj, -⟩ := RoutePath.includesInOrder_iff.mp hio
    exact h.elim (· (List.mem_of_getElem? hi)) (· (List.mem_of_getElem? hj))
  · split
    · next h => simp [h]
    · next h => simpa using h

/-- What an accepted package guarantees about the route and its truck. -/
theorem of_evaluate_eq_accept
    (h : evaluate route routePackages truck package now = .ok .accept) :
    route.includesInOrder package.startLocation package.endLocation = true ∧
      ∀ t ∈ truck, route.maximumSegmentLoad routePackages (some package) ≤ t.capacity ∧
        ∃ d, route.totalDistanceKm = .ok d ∧ d ≤ t.maxRange := by
  unfold evaluate at h
  split at h
  · cases h
  · next hc =>
    refine ⟨evaluatePackageRouteCompatibility_eq_accept_iff.mp hc, ?_⟩
    rw [except_bind_eq_ok_iff] at h
    obtain ⟨decision, -, h⟩ := h
    cases decision with
    | reject reason message => cases h
    | accept =>
      rintro t rfl
      unfold evaluateTruckConstraints at h
      dsimp only at h
      split at h
      · cases h
      · next hcap =>
        rw [except_bind_eq_ok_iff] at h
        obtain ⟨d, hd, h⟩ := h
        split at h
        · cases h
        · next hrange => exact ⟨not_lt.mp hcap, d, hd, not_lt.mp hrange⟩

/-- The pickup check is part of the evaluation. -/
theorem evaluatePickupNotPassed_of_evaluate
    (h : evaluate route routePackages truck package now = .ok .accept) :
    evaluatePickupNotPassed route package now = .ok .accept := by
  unfold evaluate at h
  split at h
  · cases h
  · rw [except_bind_eq_ok_iff] at h
    obtain ⟨decision, hdecision, h⟩ := h
    cases decision with
    | reject reason message => cases h
    | accept => exact hdecision

/-- The policy finds a stop of the schedule at its index. -/
private theorem locationIndex_of_stop {s : RouteSchedule} (hs : route.plan.schedule? = some s)
    {i : Nat} {stop : ScheduledStop} (hi : s.stops[i]? = some stop) :
    locationIndex route stop.location = .ok i := by
  have hpath : route.plan.path.locations[i]? = some stop.location := by
    rw [← RoutePlan.locations_schedule hs, List.getElem?_map, hi]
    rfl
  unfold locationIndex
  rw [RoutePath.posIndex_eq_some_iff.mpr hpath]

/-- The pickup check of a scheduled route looks at the time of the pickup stop only. -/
theorem evaluatePickupNotPassed_of_schedule {s : RouteSchedule}
    (hs : route.plan.schedule? = some s) {i : Nat} {pickup : ScheduledStop}
    (hi : s.stops[i]? = some pickup) (hstart : pickup.location = package.startLocation)
    (now : Datetime) :
    evaluatePickupNotPassed route package now = .ok
      (if i = 0 ∧ s.departureTime ≤ now ∨ 1 ≤ i ∧ pickup.arrivalAt < now then
        pickupPassedError route package else .accept) := by
  have hdeparture : route.departureTime = some s.departureTime := by
    rw [DeliveryRoute.departureTime, RoutePlan.departureTime, hs, Option.map_some]
  have hposition : route.currentPosition now = s.positionAt now := by
    rw [DeliveryRoute.currentPosition, hs]
  have hpickup : locationIndex route package.startLocation = .ok i :=
    hstart ▸ locationIndex_of_stop hs hi
  have hdep := RouteSchedule.departureTime_le_arrivalAt hi
  rw [evaluatePickupNotPassed, hdeparture, hpickup, hposition]
  obtain ⟨phase, hphase⟩ := RouteSchedule.exists_phase s now
  rw [RouteSchedule.positionAt_of_at hphase]
  cases phase with
  | beforeStart =>
    have hbefore : now < s.departureTime := hphase
    rw [if_neg]
    · rfl
    · rintro (⟨-, hle⟩ | ⟨-, hlt⟩)
      · exact absurd hle (not_le.mpr hbefore)
      · exact absurd (hdep.trans_lt hlt) (not_lt.mpr hbefore.le)
  | inTransit j =>
    obtain ⟨a, b, ha, hb, hfrom, hto⟩ := hphase
    have hcond : (i = 0 ∧ s.departureTime ≤ now ∨ 1 ≤ i ∧ pickup.arrivalAt < now) ↔ i ≤ j := by
      constructor
      · rintro (⟨rfl, -⟩ | ⟨-, hlt⟩)
        · exact Nat.zero_le j
        · by_contra hji
          exact absurd (hto.trans_le (RouteSchedule.arrivalAt_le hb hi (by omega)))
            (not_lt.mpr hlt.le)
      · intro hij
        have hle := RouteSchedule.arrivalAt_le hi ha hij
        rcases hfrom with hlt | ⟨rfl, hnow⟩
        · rcases Nat.eq_zero_or_pos i with rfl | hpos
          · exact .inl ⟨rfl, hdep.trans (hle.trans hlt.le)⟩
          · exact .inr ⟨hpos, hle.trans_lt hlt⟩
        · exact .inl ⟨by omega, hnow.ge⟩
    simp only [RoutePhase.position, ha, Option.map_some, locationIndex_of_stop hs ha, ok_bind,
      hcond]
  | atStop j =>
    obtain ⟨hj, a, ha, rfl⟩ := hphase
    have hcond : (i = 0 ∧ s.departureTime ≤ a.arrivalAt ∨
        1 ≤ i ∧ pickup.arrivalAt < a.arrivalAt) ↔ i < j := by
      constructor
      · rintro (⟨rfl, -⟩ | ⟨-, hlt⟩)
        · exact hj
        · by_contra hji
          exact absurd (RouteSchedule.arrivalAt_le ha hi (by omega)) (not_le.mpr hlt)
      · intro hij
        rcases Nat.eq_zero_or_pos i with rfl | hpos
        · exact .inl ⟨rfl, RouteSchedule.departureTime_le_arrivalAt ha⟩
        · exact .inr ⟨hpos, RouteSchedule.arrivalAt_lt hi ha hij⟩
    simp only [RoutePhase.position, ha, Option.map_some, locationIndex_of_stop hs ha, ok_bind,
      hcond]
  | afterEnd =>
    have hend : s.etaFinal < now := hphase
    have hlt := (RouteSchedule.arrivalAt_le_etaFinal hi).trans_lt hend
    rw [if_pos]
    · rfl
    · rcases Nat.eq_zero_or_pos i with rfl | hpos
      · exact .inl ⟨rfl, hdep.trans hlt.le⟩
      · exact .inr ⟨hpos, hlt⟩

/-- An accepted pickup is not over. -/
theorem le_arrival_of_evaluatePickupNotPassed {t : Datetime}
    (h : evaluatePickupNotPassed route package now = .ok .accept)
    (ht : route.arrivalTimeAt package.startLocation = .ok t) : now ≤ t := by
  obtain ⟨s, hs, harrival⟩ := DeliveryRoute.arrivalTimeAt_eq_ok_iff.mp ht
  obtain ⟨i, hi⟩ := RouteSchedule.arrival?_eq_some_iff.mp harrival
  rw [evaluatePickupNotPassed_of_schedule hs hi rfl, Except.ok.injEq] at h
  by_contra hlt
  rw [not_le] at hlt
  rw [if_pos] at h
  · cases h
  · rcases Nat.eq_zero_or_pos i with rfl | hpos
    · exact .inl ⟨rfl, (RouteSchedule.departureTime_le_arrivalAt hi).trans hlt.le⟩
    · exact .inr ⟨hpos, hlt⟩

end PackageAssignmentPolicy

/-- What the truck policy reads of a route or of a probe;
`domain/services/truck_assignment_policy.py:12–32`. -/
structure RouteSuitabilityView where
  totalDistanceKm : Int
  startLocation : LocationCode
  departureTime : Option Datetime
  maximumSegmentLoad : Rat
deriving DecidableEq, Repr

/-- Evaluate a truck for a route; `domain/services/truck_assignment_policy.py:38–96`.
`currentRoute` is the object that `truck.route` refers to. -/
def TruckAssignmentPolicy.evaluate (truck : Truck) (currentRoute : Option DeliveryRoute)
    (route : RouteSuitabilityView) : AssignmentDecision TruckAssignmentRejectionReason :=
  if truck.maxRange < route.totalDistanceKm then
    .reject .truckRangeInsufficient "range too short"
  else if (truck.capacity : Rat) < route.maximumSegmentLoad then
    .reject .truckCapacityInsufficient "insufficient capacity"
  else match currentRoute with
    | none =>
      if truck.currentLocation ≠ some route.startLocation then
        let location := (truck.currentLocation.map LocationCode.text).getD "None"
        .reject .truckAtWrongLocation s!"wrong location ({location} != {route.startLocation})"
      else .accept
    | some currentRoute =>
      match route.departureTime with
      | none => .reject .targetRouteUnscheduled "route not scheduled yet"
      | some departureTime =>
        match currentRoute.etaFinal with
        | none => .reject .currentRouteAvailabilityUnknown
            "truck already assigned to a route with unknown availability"
        | some currentEta =>
          if departureTime ≤ currentEta then
            .reject .availabilityWindowOverlap "truck busy in the requested time window"
          else if currentRoute.endLocation ≠ route.startLocation then
            .reject .truckAtWrongLocation
              (s!"wrong availability location ({currentRoute.endLocation} != " ++
                s!"{route.startLocation})")
          else .accept

/-- What an accepted truck guarantees. -/
theorem TruckAssignmentPolicy.of_evaluate_eq_accept {truck : Truck}
    {currentRoute : Option DeliveryRoute} {route : RouteSuitabilityView}
    (h : evaluate truck currentRoute route = .accept) :
    route.totalDistanceKm ≤ truck.maxRange ∧ route.maximumSegmentLoad ≤ truck.capacity ∧
      (currentRoute = none → truck.currentLocation = some route.startLocation) := by
  unfold evaluate at h
  split at h
  · cases h
  · next hrange =>
    split at h
    · cases h
    · next hcap =>
      refine ⟨not_lt.mp hrange, not_lt.mp hcap, ?_⟩
      rintro rfl
      dsimp only at h
      split at h
      · cases h
      · next hl => exact not_not.mp hl

end FleetFlow
