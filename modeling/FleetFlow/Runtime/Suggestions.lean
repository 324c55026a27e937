import FleetFlow.Runtime.Guarantees

/-!
# Suggested trucks

Follows `application/services/vehicle_manager.py:58–75`. The listing asks the truck policy about
the route itself, which also accepts a truck that will be free at the start of the route in time.
The assign-truck use case asks about the route as it would be scheduled, and then only links a
truck that is free. Both agree as long as no truck is suggested for a later time and a route
without a departure can still be scheduled.
-/

namespace FleetFlow

open Program

namespace VehicleManager

/-- What the truck policy sees of a stored route. -/
def suitabilityView [WeightArithmetic] (w : World) (route : DeliveryRoute) :
    Except PyError RouteSuitabilityView := do
  let totalDistanceKm ← route.totalDistanceKm
  .ok {
    totalDistanceKm
    startLocation := route.startLocation
    departureTime := route.departureTime
    maximumSegmentLoad := route.maximumSegmentLoad (w.packagesOf route) none }

/-- Trucks that can serve a route, by vehicle id; `vehicle_manager.py:58–75`. -/
def findAvailableForRoute [WeightArithmetic] (w : World) (route : DeliveryRoute) :
    Except PyError (List Truck) := do
  let view ← suitabilityView w route
  let trucks := w.trucks.values.filter fun truck ↦
    TruckAssignmentPolicy.evaluate truck (w.routeOf truck) view = .accept
  .ok (trucks.mergeSort fun a b ↦ decide (a.vehicleId ≤ b.vehicleId))

end VehicleManager

/-- The assign-truck use case succeeds for a truck and a route. -/
def World.Assignable (w : World) (truckId routeId : Int) (now : Datetime) : Prop :=
  ∃ recorders w', AssignTruckToRouteUseCase.execute .inMemory truckId routeId now w =
    .ok recorders w'

/-- The suggested trucks are exactly the fleet trucks that can be assigned. -/
def World.SuggestsAssignable (w : World) (route : DeliveryRoute) (now : Datetime) : Prop :=
  ∃ trucks, VehicleManager.findAvailableForRoute w route = .ok trucks ∧
    ∀ truck, truck ∈ trucks ↔
      truck ∈ w.trucks.values ∧ w.Assignable truck.vehicleId route.routeId now

/-- A truck that can carry the load of a route over its distance. -/
structure Truck.Carries (truck : Truck) (w : World) (route : DeliveryRoute) : Prop where
  load : route.maximumSegmentLoad (w.packagesOf route) none ≤ truck.capacity
  distance : ∃ d, route.totalDistanceKm = .ok d ∧ d ≤ truck.maxRange

/-- A route that ends where another starts, before the other departs. -/
def DeliveryRoute.LeadsTo (current route : DeliveryRoute) : Prop :=
  current.endLocation = route.startLocation ∧ ∃ eta ∈ current.etaFinal,
    ∃ departureTime ∈ route.departureTime, eta < departureTime

/-- Whether the last stop of a path is reached before the year 10000. -/
def DeliveryRoute.ReachableFrom (route : DeliveryRoute) (now : Datetime) : Prop :=
  (now.micros : Int) + RouteScheduler.journeyMicros RouteScheduler.defaultSpeedKmph
    route.startLocation route.locations.tail < maxMicros

/-- No truck is suggested for a later time, and a route without a departure for which a truck
waits can be scheduled. -/
structure World.SuggestsOnlyFree (w : World) (route : DeliveryRoute) (now : Datetime) : Prop where
  busy : ∀ truck ∈ w.trucks.values, ∀ current ∈ w.routeOf truck, truck.Carries w route →
    ¬ current.LeadsTo route
  unscheduled : route.departureTime = none → ∀ truck ∈ w.trucks.values, truck.route = none →
    truck.currentLocation = some route.startLocation → truck.Carries w route →
    route.ReachableFrom now

/-! ### What the policy decides -/

namespace TruckAssignmentPolicy

variable {truck : Truck} {view : RouteSuitabilityView}

/-- A free truck is accepted at the start of a route that it can drive. -/
theorem evaluate_none_eq_accept_iff : evaluate truck none view = .accept ↔
    view.totalDistanceKm ≤ truck.maxRange ∧ view.maximumSegmentLoad ≤ truck.capacity ∧
      truck.currentLocation = some view.startLocation := by
  constructor
  · intro h
    obtain ⟨hrange, hload, hplace⟩ := of_evaluate_eq_accept h
    exact ⟨hrange, hload, hplace rfl⟩
  · rintro ⟨hrange, hload, hplace⟩
    unfold evaluate
    rw [if_neg (not_lt.mpr hrange), if_neg (not_lt.mpr hload)]
    exact if_neg (not_not.mpr hplace)

/-- A truck under way is accepted for a route that starts where and after it arrives. -/
theorem evaluate_some_eq_accept_iff {current : DeliveryRoute} :
    evaluate truck (some current) view = .accept ↔
      view.totalDistanceKm ≤ truck.maxRange ∧ view.maximumSegmentLoad ≤ truck.capacity ∧
        current.endLocation = view.startLocation ∧ ∃ eta ∈ current.etaFinal,
          ∃ departureTime ∈ view.departureTime, eta < departureTime := by
  unfold evaluate
  by_cases hrange : truck.maxRange < view.totalDistanceKm
  · simp [hrange, not_le.mpr hrange]
  by_cases hload : (truck.capacity : Rat) < view.maximumSegmentLoad
  · simp [hrange, hload, not_le.mpr hload]
  rw [if_neg hrange, if_neg hload]
  cases hd : view.departureTime with
  | none => simp
  | some departureTime =>
    cases heta : current.etaFinal with
    | none => simp [heta]
    | some eta =>
      by_cases hoverlap : departureTime ≤ eta
      · simp [heta, hoverlap, not_lt.mpr hoverlap]
      · by_cases hplace : current.endLocation = view.startLocation
        · simp [heta, hoverlap, hplace, not_lt.mp hrange, not_lt.mp hload, not_le.mp hoverlap]
        · simp [heta, hoverlap, hplace]

end TruckAssignmentPolicy

/-- A route can be scheduled exactly when it has no schedule yet and its last stop is a date. -/
theorem DeliveryRoute.exists_schedule_iff {route : DeliveryRoute} {now : Datetime} :
    (∃ scheduled, route.schedule now now = .ok scheduled) ↔
      route.departureTime = none ∧ route.ReachableFrom now := by
  have hnone : route.departureTime = none ↔ route.plan.schedule? = none := by
    unfold DeliveryRoute.departureTime RoutePlan.departureTime
    rw [Option.map_eq_none_iff]
  rw [hnone]
  unfold ReachableFrom DeliveryRoute.startLocation DeliveryRoute.locations
  rw [← RouteScheduler.exists_build_iff]
  constructor
  · rintro ⟨scheduled, h⟩
    obtain ⟨hfresh, plan, s, hpath, hs, ht, -⟩ := schedule_eq_ok_iff.mp h
    refine ⟨hfresh, s, ?_⟩
    rw [← hpath, ← ht]
    exact plan.built s hs
  · rintro ⟨hfresh, s, hbuild⟩
    have ht := RouteScheduler.departureTime_of_build hbuild
    exact ⟨_, schedule_eq_ok_iff.mpr ⟨hfresh,
      ⟨route.plan.path, some s, by simpa using RouteScheduler.build_departureTime hbuild⟩, s, rfl,
      rfl, ht, rfl⟩⟩

/-- A truck is linked exactly when both sides are free and it has a location. -/
theorem DeliveryRoute.exists_assignTruck_iff {route : DeliveryRoute} {truck : Truck}
    {now : Datetime} : (∃ linked, route.assignTruck truck now = .ok linked) ↔
      route.truck = none ∧ truck.status = .free ∧ truck.route = none ∧
        truck.currentLocation.isSome := by
  unfold assignTruck
  simp only [require_bind_eq_ok_iff, exists_and_left, Truck.isFree, decide_eq_true_eq, and_assoc]
  cases truck.currentLocation <;> simp

/-! ### When the use case succeeds -/

/-- A run returns exactly when a condition holds. -/
def Program.ReturnsIff {ε σ α : Type} (program : Program ε σ α) (s : σ) (P : Prop) : Prop :=
  Ensures program s (fun _ _ ↦ P) (fun _ _ ↦ ¬ P)

/-- The condition for a run to return. -/
theorem Program.ReturnsIff.iff {ε σ α : Type} {program : Program ε σ α} {s : σ} {P : Prop}
    (h : program.ReturnsIff s P) : (∃ a s', program s = .ok a s') ↔ P := by
  unfold ReturnsIff at h
  rw [ensures_iff] at h
  cases hrun : program s with
  | ok a s' =>
    rw [hrun] at h
    exact iff_of_true ⟨a, s', rfl⟩ h
  | error e s' =>
    rw [hrun] at h
    refine iff_of_false ?_ h
    rintro ⟨_, _, heq⟩
    cases heq

namespace AssignTruckToRouteUseCase

variable {w : World} {route : DeliveryRoute} {truck : Truck} {now : Datetime}

/-- Scheduling where needed and linking succeed for a free truck with a location, if the route has
or gets a schedule. -/
theorem returnsIff_assignInMemory (hnone : route.truck = none) :
    (assignInMemory route truck now).ReturnsIff w
      ((truck.status = .free ∧ truck.route = none ∧ truck.currentLocation.isSome) ∧
        (route.departureTime = none → route.ReachableFrom now)) := by
  have hlink : ∀ {scheduled : DeliveryRoute} {s : World} {P : Prop}, scheduled.truck = none → P →
      Ensures (Program.lift (scheduled.assignTruck truck now)) s
        (fun _ _ ↦ (truck.status = .free ∧ truck.route = none ∧
          truck.currentLocation.isSome) ∧ P)
        (fun _ _ ↦ ¬ ((truck.status = .free ∧ truck.route = none ∧
          truck.currentLocation.isSome) ∧ P)) := by
    intro scheduled s P hsame hP
    rw [ensures_lift]
    constructor
    · intro linked hlinked
      exact ⟨(DeliveryRoute.exists_assignTruck_iff.mp ⟨linked, hlinked⟩).2, hP⟩
    · rintro e he ⟨hfree, -⟩
      obtain ⟨linked, hlinked⟩ := DeliveryRoute.exists_assignTruck_iff.mpr ⟨hsame, hfree⟩
      rw [he] at hlinked
      cases hlinked
  unfold Program.ReturnsIff assignInMemory scheduleIfNeeded
  cases hd : route.departureTime with
  | some t =>
    simp only [ensures_bind, ensures_modify, ensures_pure]
    exact hlink hnone fun hcase ↦ by cases hcase
  | none =>
    simp only [ensures_bind, ensures_modify, ensures_pure]
    rw [ensures_lift]
    constructor
    · intro scheduled hscheduled
      have hfits := (DeliveryRoute.exists_schedule_iff.mp ⟨scheduled, hscheduled⟩).2
      obtain ⟨-, plan, s, -, -, -, rfl⟩ := DeliveryRoute.schedule_eq_ok_iff.mp hscheduled
      apply hlink
      · exact hnone
      · exact fun _ ↦ hfits
    · rintro e he ⟨-, hfits⟩
      obtain ⟨scheduled, hscheduled⟩ := DeliveryRoute.exists_schedule_iff.mpr ⟨hd, hfits trivial⟩
      rw [he] at hscheduled
      cases hscheduled

end AssignTruckToRouteUseCase

/-- What a truck must carry, with the distance at hand. -/
theorem Truck.carries_iff {truck : Truck} {w : World} {route : DeliveryRoute} {d : Int}
    (hd : route.totalDistanceKm = .ok d) : truck.Carries w route ↔
      d ≤ truck.maxRange ∧ route.maximumSegmentLoad (w.packagesOf route) none ≤ truck.capacity := by
  constructor
  · rintro ⟨hload, d', hd', hle⟩
    rw [hd, Except.ok.injEq] at hd'
    exact ⟨hd' ▸ hle, hload⟩
  · rintro ⟨hle, hload⟩
    exact ⟨hload, d, hd, hle⟩

section Soundness

variable {u : UnicodeTables} {allowed : Option LocationCode → Prop} {clock : Option Datetime}
  {w : World} {route : DeliveryRoute} {truck : Truck} {now : Datetime}

/-- The use case succeeds for the free trucks that the policy accepts, if the route has or gets a
schedule. -/
theorem World.Sound.assignable_iff (h : w.Sound u allowed clock)
    (hr : w.routes.find? route.routeId = some route)
    (ht : w.trucks.find? truck.vehicleId = some truck) (hnone : route.truck = none) :
    w.Assignable truck.vehicleId route.routeId now ↔ truck.route = none ∧ truck.Carries w route ∧
      truck.currentLocation = some route.startLocation ∧
      (route.departureTime = none → route.ReachableFrom now) := by
  have hstate := (h.linked.linkState _ _ ht).onTheWay
  have hfree : truck.route = none → truck.status = .free := fun hn ↦ by
    rw [hn] at hstate
    cases hs : truck.status <;> simp_all
  have hcurrent : truck.route = none → w.routeOf truck = none := fun hn ↦ by
    rw [World.routeOf, hn]
    rfl
  obtain ⟨d, hd⟩ := route.exists_totalDistanceKm
  have hcarries := @Truck.carries_iff truck w route d hd
  have hview : AssignTruckToRouteUseCase.routeForSuitability w route now =
      .ok ⟨d, route.startLocation, some (route.departureTime.getD now),
        route.maximumSegmentLoad (w.packagesOf route) none⟩ := by
    unfold AssignTruckToRouteUseCase.routeForSuitability
    rw [hd]
    rfl
  apply Program.ReturnsIff.iff
  unfold Program.ReturnsIff AssignTruckToRouteUseCase.execute
  simp only [ensures_bind, ensures_get, hr, ht, ensures_lift_require, hview, ensures_lift_ok]
  refine ⟨fun _ ↦ ?_, fun hne ↦ absurd hnone hne⟩
  cases haccept : TruckAssignmentPolicy.evaluate truck (w.routeOf truck) _ with
  | reject reason message =>
    apply ensures_throw.mpr
    rintro ⟨hn, hc, hplace, -⟩
    rw [hcarries] at hc
    rw [hcurrent hn, TruckAssignmentPolicy.evaluate_none_eq_accept_iff.mpr ⟨hc.1, hc.2, hplace⟩]
      at haccept
    cases haccept
  | accept =>
    dsimp only
    rw [ensures_tryCatch, ensures_bind]
    apply (AssignTruckToRouteUseCase.returnsIff_assignInMemory hnone).mono
    · rintro - s' ⟨⟨-, hn, -⟩, hfits⟩
      rw [hcurrent hn] at haccept
      obtain ⟨hrange, hload, hplace⟩ :=
        TruckAssignmentPolicy.evaluate_none_eq_accept_iff.mp haccept
      simp only [Action.call_inMemory, ensures_bind, ensures_pure]
      exact ⟨hn, hcarries.mpr ⟨hrange, hload⟩, hplace, hfits⟩
    · intro e s' hp
      -- Whatever the restoring steps do, the handler raises in the end.
      have hfail : ¬ (truck.route = none ∧ truck.Carries w route ∧
          truck.currentLocation = some route.startLocation ∧
          (route.departureTime = none → route.ReachableFrom now)) := by
        rintro ⟨hn, -, hplace, hfits⟩
        exact hp ⟨⟨hfree hn, hn, by rw [hplace]; rfl⟩, hfits⟩
      simp only [ensures_bind, ensures_throw]
      apply ensures_trivial.mono _ fun _ _ _ ↦ hfail
      intro _ _ _
      exact ensures_trivial.mono (fun _ _ _ ↦ hfail) fun _ _ _ ↦ hfail

/-- What the listing accepts: free trucks at the start, and trucks whose route leads there. -/
theorem World.mem_findAvailableForRoute {trucks : List Truck}
    (h : VehicleManager.findAvailableForRoute w route = .ok trucks) :
    truck ∈ trucks ↔ truck ∈ w.trucks.values ∧ truck.Carries w route ∧
      match w.routeOf truck with
      | none => truck.currentLocation = some route.startLocation
      | some current => current.LeadsTo route := by
  obtain ⟨d, hd⟩ := route.exists_totalDistanceKm
  unfold VehicleManager.findAvailableForRoute VehicleManager.suitabilityView at h
  rw [hd] at h
  obtain rfl := Except.ok.inj h
  rw [List.mem_mergeSort, List.mem_filter, decide_eq_true_eq, Truck.carries_iff hd]
  apply and_congr_right
  intro _
  cases w.routeOf truck with
  | none => rw [TruckAssignmentPolicy.evaluate_none_eq_accept_iff, and_assoc]
  | some current =>
    rw [TruckAssignmentPolicy.evaluate_some_eq_accept_iff, and_assoc]
    rfl

end Soundness

namespace Scenario

/-- A truck on its way, and a route that leads it back on the next day. -/
def returnSteps : List (Datetime × Operation) :=
  [(hour 0, .createRoute ["SYD", "MEL"] (some (hour 8))),
    (hour 1, .createRoute ["MEL", "SYD"] (some (hour 30))),
    (hour 2, .assignTruck 1001 1 (hour 2))]

/-- The world after these steps. -/
def returnWorld : World := performAll .asciiOnly (.initial fleet) returnSteps

/-- The world after these steps is reachable. -/
theorem reachable_return : Reachable .asciiOnly fleet (some (hour 2)) returnWorld := by
  have hsorted : ([] ++ returnSteps.map Prod.fst).Pairwise (· ≤ ·) := by decide
  exact Reachable.performAll .start hsorted

/-- The route back has no truck, and the route of the truck leads to it. -/
private theorem return_facts : ∃ route truck current, returnWorld.routes.find? 2 = some route ∧
    route.truck = none ∧ returnWorld.trucks.find? 1001 = some truck ∧
    returnWorld.routeOf truck = some current ∧ truck.Carries returnWorld route ∧
    current.LeadsTo route := by
  have hfacts : ((returnWorld.routes.find? 2).any fun route ↦
      (returnWorld.trucks.find? 1001).any fun truck ↦ (returnWorld.routeOf truck).any fun current ↦
        decide (route.truck = none) && decide (current.endLocation = route.startLocation) &&
          (current.etaFinal.any fun eta ↦ route.departureTime.any fun t ↦ decide (eta < t)) &&
          decide (route.maximumSegmentLoad (returnWorld.packagesOf route) none ≤
            (truck.capacity : Rat)) &&
          (route.totalDistanceKm.toOption.any fun d ↦ decide (d ≤ truck.maxRange))) = true := by
    decide +kernel
  simp only [Option.any_eq_true, Bool.and_eq_true, decide_eq_true_eq] at hfacts
  obtain ⟨route, hr, truck, ht, current, hc, ⟨⟨⟨hnone, hplace⟩, eta, heta, t, hd, hlt⟩, hload⟩, d,
    hd', hle⟩ := hfacts
  have hdistance : route.totalDistanceKm = .ok d := by
    cases htotal : route.totalDistanceKm with
    | error e =>
      rw [htotal] at hd'
      cases hd'
    | ok d' =>
      rw [htotal] at hd'
      exact congrArg Except.ok (Option.some.inj hd')
  exact ⟨route, truck, current, hr, hnone, ht, hc, ⟨hload, d, hdistance, hle⟩, hplace, eta, heta, t,
    hd, hlt⟩

end Scenario
end FleetFlow
