import FleetFlow.Runtime.Run

/-!
# What every run of the application guarantees

References between objects agree in both directions, trucks stay within their limits, and a
heartbeat brings every object into the state that the schedules determine.
-/

namespace FleetFlow

open Program

/-- References between the objects of a world agree. -/
structure World.LinkInvariant (w : World) : Prop where
  truck_iff : ∀ {r t : Int} {route : DeliveryRoute} {truck : Truck},
    w.routes.find? r = some route → w.trucks.find? t = some truck →
    (route.truck = some t ↔ truck.route = some r)
  truck_stored : ∀ {r t : Int} {route : DeliveryRoute}, w.routes.find? r = some route →
    route.truck = some t → ∃ truck, w.trucks.find? t = some truck
  truck_route_stored : ∀ {t r : Int} {truck : Truck}, w.trucks.find? t = some truck →
    truck.route = some r → ∃ route, w.routes.find? r = some route
  onTheWay_iff : w.trucks.All fun truck ↦ truck.status = .onTheWay ↔ truck.route.isSome
  busy : ∀ {t r : Int} {truck : Truck} {route : DeliveryRoute}, w.trucks.find? t = some truck →
    truck.route = some r → w.routes.find? r = some route →
    truck.busyFrom = route.departureTime ∧ truck.busyUntil = route.etaFinal
  not_busy : w.trucks.All fun truck ↦ truck.route = none →
    truck.busyFrom = none ∧ truck.busyUntil = none
  package_iff : ∀ {r p : Int} {route : DeliveryRoute} {package : DeliveryPackage},
    w.routes.find? r = some route → w.packages.find? p = some package →
    (p ∈ route.packages ↔ package.route = some r)
  package_stored : ∀ {r p : Int} {route : DeliveryRoute}, w.routes.find? r = some route →
    p ∈ route.packages → ∃ package, w.packages.find? p = some package
  package_route_stored : ∀ {p r : Int} {package : DeliveryPackage},
    w.packages.find? p = some package → package.route = some r →
    ∃ route, w.routes.find? r = some route
  one_route : ∀ {r r' p : Int} {route route' : DeliveryRoute}, w.routes.find? r = some route →
    w.routes.find? r' = some route' → p ∈ route.packages → p ∈ route'.packages → r = r'
  nodup : w.routes.All fun route ↦ route.packages.Nodup
  unassigned : w.packages.All fun package ↦ package.route = none → package.Waiting
  owner : ∀ {p : Int} {package : DeliveryPackage}, w.packages.find? p = some package →
    ∃ customer, w.customers.find? package.customer = some customer ∧
      customer.deliveryPackages.count p = 1
  owned : ∀ {c p : Int} {customer : Customer}, w.customers.find? c = some customer →
    p ∈ customer.deliveryPackages →
    ∃ package, w.packages.find? p = some package ∧ package.customer = c

/-- A linked world satisfies the invariant. -/
theorem World.Linked.linkInvariant {w : World} (h : w.Linked) : w.LinkInvariant where
  truck_iff hr ht := by
    constructor
    · intro hlink
      obtain ⟨x, hx, hxr⟩ := h.truck_of_route hr hlink
      rw [ht, Option.some.injEq] at hx
      exact hx ▸ hxr
    · intro hlink
      obtain ⟨x, hx, hxt⟩ := h.route_of_truck ht hlink
      rw [hr, Option.some.injEq] at hx
      exact hx ▸ hxt
  truck_stored hr hlink :=
    let ⟨truck, ht, _⟩ := h.truck_of_route hr hlink
    ⟨truck, ht⟩
  truck_route_stored ht hlink :=
    let ⟨route, hr, _⟩ := h.route_of_truck ht hlink
    ⟨route, hr⟩
  onTheWay_iff _ _ ht := (h.linkState _ _ ht).onTheWay
  busy := h.window
  not_busy _ _ ht hn :=
    let ⟨h1, h2, _⟩ := (h.linkState _ _ ht).idle hn
    ⟨h1, h2⟩
  package_iff hr hp := by
    constructor
    · intro hmem
      obtain ⟨x, hx, hxr⟩ := h.package_of_route hr hmem
      rw [hp, Option.some.injEq] at hx
      exact hx ▸ hxr
    · intro hlink
      obtain ⟨x, hx, hxp⟩ := h.route_of_package hp hlink
      rw [hr, Option.some.injEq] at hx
      exact hx ▸ hxp
  package_stored hr hmem :=
    let ⟨package, hp, _⟩ := h.package_of_route hr hmem
    ⟨package, hp⟩
  package_route_stored hp hlink :=
    let ⟨route, hr, _⟩ := h.route_of_package hp hlink
    ⟨route, hr⟩
  one_route := h.eq_of_package
  nodup _ _ hr := h.nodup hr
  unassigned := h.waiting
  owner hp := by
    obtain ⟨customer, hc, hmem⟩ := h.customer_of_package hp
    exact ⟨customer, hc, List.count_eq_one_of_mem (h.nodup_customer _ _ hc) hmem⟩
  owned := h.package_of_customer

variable {u : UnicodeTables} {fleet : Fleet} {clock : Option Datetime} {w : World} {now : Datetime}

/-- References agree after every step of every run. -/
theorem Reachable.links_agree (hidle : fleet.All (Truck.Idle fun _ ↦ True))
    (h : Reachable u fleet clock w) : w.LinkInvariant :=
  (h.sound (fun _ _ ↦ trivial) hidle).linked.linkInvariant

/-- References agree while the package of the scenario is under way. -/
theorem Scenario.links_agree_steps :
    (performAll .asciiOnly (.initial Scenario.fleet) Scenario.steps).LinkInvariant :=
  Reachable.links_agree Scenario.fleet_idle_anywhere Scenario.reachable_steps

/-- A route with a truck stays within the truck's limits, on every leg and in total. -/
theorem Reachable.truck_within_limits (hidle : fleet.All (Truck.Idle fun _ ↦ True))
    (h : Reachable u fleet clock w) {r t : Int} {route : DeliveryRoute} {truck : Truck}
    (hr : w.routes.find? r = some route) (hlink : route.truck = some t)
    (ht : w.trucks.find? t = some truck) :
    (∀ k, k + 1 < route.locations.length →
      ((((w.packagesOf route).map DeliveryPackage.load).filter
        (RouteLoadCalculator.covers route.locations k)).map PackageLoad.weight).sum
          ≤ truck.capacity) ∧
      ∃ d, route.totalDistanceKm = .ok d ∧ d ≤ truck.maxRange :=
  let ⟨hload, hdistance⟩ := (h.sound (fun _ _ ↦ trivial) hidle).limits hr hlink ht
  ⟨hload, hdistance⟩

/-- The route of the scenario has its truck, and stays within the limits of it. -/
theorem Scenario.truck_within_limits_steps :
    ∃ route truck, (performAll .asciiOnly (.initial Scenario.fleet) Scenario.steps).routes.find? 1 =
        some route ∧ route.truck = some 1001 ∧
      (performAll .asciiOnly (.initial Scenario.fleet) Scenario.steps).trucks.find? 1001 =
        some truck ∧
      (∀ k, k + 1 < route.locations.length → (((((performAll .asciiOnly (.initial Scenario.fleet)
        Scenario.steps).packagesOf route).map DeliveryPackage.load).filter
        (RouteLoadCalculator.covers route.locations k)).map PackageLoad.weight).sum
          ≤ truck.capacity) ∧
      ∃ d, route.totalDistanceKm = .ok d ∧ d ≤ truck.maxRange := by
  have hr : ((performAll .asciiOnly (.initial Scenario.fleet) Scenario.steps).routes.find? 1).any
      (fun route ↦ route.truck = some 1001) = true := by decide +kernel
  have ht : ((performAll .asciiOnly (.initial Scenario.fleet) Scenario.steps).trucks.find?
      1001).isSome = true := by decide +kernel
  obtain ⟨route, hroute, hlink⟩ := (Option.any_eq_true ..).mp hr
  obtain ⟨truck, htruck⟩ := Option.isSome_iff_exists.mp ht
  rw [decide_eq_true_eq] at hlink
  exact ⟨route, truck, hroute, hlink, htruck, Reachable.truck_within_limits
    Scenario.fleet_idle_anywhere Scenario.reachable_steps hroute hlink htruck⟩

/-- A heartbeat skips no route and leaves every object in the state that the schedules determine;
the truck of a route that has finished is free at the last stop. -/
theorem Reachable.heartbeat_settles (hidle : fleet.All (Truck.Idle fun _ ↦ True))
    (h : Reachable u fleet clock w) (hnow : ∀ c ∈ clock, c ≤ now) :
    Ensures (HeartbeatService.advance .inMemory now) w
      (fun summary w' ↦ summary.skippedRoutes = [] ∧ w'.SettledAt now ∧
        ∀ {r t : Int} {route : DeliveryRoute} {truck : Truck}, w.routes.find? r = some route →
          route.Finished now → w.trucks.find? t = some truck → truck.route = some r →
          ∃ truck', w'.trucks.find? t = some truck' ∧ truck'.status = .free ∧
            truck'.route = none ∧ truck'.currentLocation = some route.endLocation ∧
            truck'.inTransitTo = none)
      (fun _ _ ↦ False) := by
  have hsound := h.sound (fun _ _ ↦ trivial) hidle
  refine (HeartbeatService.ensures_advance hsound hnow).mono (fun summary w' hw ↦ ?_)
    fun _ _ hf ↦ hf
  exact ⟨hw.skippedRoutes, hw.advanced.settled hsound.linked, hw.advanced.released⟩

/-- The heartbeat after the arrival of the scenario's route. -/
theorem Scenario.heartbeat_settles_steps :
    Ensures (HeartbeatService.advance .inMemory (Scenario.hour 20))
      (performAll .asciiOnly (.initial Scenario.fleet) Scenario.steps)
      (fun summary w' ↦ summary.skippedRoutes = [] ∧ w'.SettledAt (Scenario.hour 20))
      (fun _ _ ↦ False) :=
  (Reachable.heartbeat_settles Scenario.fleet_idle_anywhere Scenario.reachable_steps
    (by decide)).mono (fun _ _ hw ↦ ⟨hw.1, hw.2.1⟩) fun _ _ hf ↦ hf

end FleetFlow
