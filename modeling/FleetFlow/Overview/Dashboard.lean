import FleetFlow.Overview.Parity
import Mathlib.Algebra.Order.Field.Basic

/-!
# What an overview shows

The listed routes are the first of those under way, and what is listed of a route agrees with its
schedule, its packages and its truck. Right after a heartbeat nothing is late.
-/

namespace FleetFlow

open Database InMemoryFleetOverviewQuery

variable {u : UnicodeTables} {fleet : Fleet} {clock : Option Datetime} {w : World}
  {generatedAt now : Datetime} {limit : Int}

/-- The place of a truck at a position, and where it drives. -/
def ActiveRoutePosition.places : ActiveRoutePosition → LocationCode × Option LocationCode
  | inTransit fromLocation toLocation _ => (fromLocation, some toLocation)
  | atStop stopLocation _ => (stopLocation, none)

/-! ### Positions -/

namespace RouteSchedule

variable {schedule : RouteSchedule} {position : ActiveRoutePosition}

/-- The next arrival lies ahead, and only the last stop has none. -/
theorem nextEta_of_activePosition (hdep : schedule.departureTime ≤ now)
    (hend : now ≤ schedule.etaFinal)
    (h : InMemoryFleetOverviewQuery.mapActivePosition (schedule.positionAt now) = .ok position) :
    (∀ eta ∈ position.nextEta, now < eta ∧ eta ≤ schedule.etaFinal) ∧
      (position.nextEta = none ↔ now = schedule.etaFinal) := by
  rcases eq_or_lt_of_le hend with heq | hlt
  · rw [heq, positionAt_etaFinal] at h
    rw [← Except.ok.inj h]
    exact ⟨fun eta heta ↦ absurd heta (by simp [ActiveRoutePosition.nextEta]),
      fun _ ↦ heq, fun _ ↦ rfl⟩
  · obtain ⟨i, a, ha, hat⟩ | ⟨i, a, b, ha, hb, hreached, hnext⟩ := atStop_or_inTransit hdep hlt
    · rw [positionAt_atStop ha hat] at h
      rw [← Except.ok.inj h]
      obtain ⟨b, hb⟩ := (lastReached_of_atStop ha hat).exists_next hlt
      have heta : ActiveRoutePosition.nextEta (.atStop a.location
          ((schedule.stops[i + 2]?).map ScheduledStop.arrivalAt)) = some b.arrivalAt := by
        rw [ActiveRoutePosition.nextEta, hb, Option.map_some]
      rw [heta]
      refine ⟨fun eta hmem ↦ ?_, by simp, fun heq ↦ absurd hlt (heq ▸ lt_irrefl _)⟩
      rw [← Option.some.inj hmem, ← hat]
      exact ⟨arrivalAt_lt ha hb (by omega), arrivalAt_le_etaFinal hb⟩
    · rw [positionAt_inTransit ha hb hreached hnext] at h
      rw [← Except.ok.inj h]
      refine ⟨fun eta hmem ↦ ?_, by simp [ActiveRoutePosition.nextEta],
        fun heq ↦ absurd hlt (heq ▸ lt_irrefl _)⟩
      rw [← Option.some.inj hmem]
      exact ⟨hnext, arrivalAt_le_etaFinal hb⟩

/-- A truck on schedule stands or drives where the position says. -/
theorem places_of_onSchedule (hdep : schedule.departureTime ≤ now) (hlt : now < schedule.etaFinal)
    (h : InMemoryFleetOverviewQuery.mapActivePosition (schedule.positionAt now) = .ok position)
    {truck : Truck} (htruck : truck.OnSchedule schedule now) :
    truck.currentLocation = some position.places.1 ∧ truck.inTransitTo = position.places.2 := by
  obtain ⟨i, a, ha, hat⟩ | ⟨i, a, b, ha, hb, hreached, hnext⟩ := atStop_or_inTransit hdep hlt
  · rw [positionAt_atStop ha hat] at h
    rw [← Except.ok.inj h]
    exact htruck.atStop i a ha hat
  · rw [positionAt_inTransit ha hb hreached hnext] at h
    rw [← Except.ok.inj h]
    exact htruck.inTransit i a b ha hb hreached hnext

end RouteSchedule

/-! ### What is listed of a route -/

/-- What is listed of a route of a world: a route under way, with its next arrival ahead, all of
its packages and a load that its truck can carry. -/
structure World.Lists (w : World) (generatedAt : Datetime) (overview : ActiveRouteOverview)
    (route : DeliveryRoute) : Prop where
  stored : w.routes.find? overview.routeId = some route
  underWay : route.UnderWay generatedAt
  status : overview.status = route.status
  ends : overview.startLocation = route.startLocation ∧ overview.endLocation = route.endLocation
  nextEta : ∀ eta ∈ overview.position.nextEta,
    generatedAt < eta ∧ ∀ last ∈ route.etaFinal, eta ≤ last
  arrived : overview.position.nextEta = none ↔ route.etaFinal = some generatedAt
  packages : overview.assignedPackageCount = route.packages.length
  truck : overview.truck.map (fun truck ↦ (truck.truckId, truck.capacity)) =
    (w.truckOf route).map fun truck ↦ (truck.vehicleId, truck.capacity)
  utilization : ∀ percent ∈ overview.capacityUtilizationPercent, 0 ≤ percent ∧ percent ≤ 100

/-- What is shown of a route is listed of it. -/
theorem World.lists_of_shown (hl : w.RouteLinked) (hlimits : w.WithinLimits) {r : Int}
    {route : DeliveryRoute} (hr : w.routes.find? r = some route) {overview : ActiveRouteOverview}
    (h : shown? generatedAt (w.cell route) = some overview) :
    w.Lists generatedAt overview route := by
  obtain ⟨s, position, assigned, hs, hbetween, hposition, hassigned, hfields⟩ := fields_of_shown h
  have hsome : (shown? generatedAt (w.cell route)).isSome := by rw [h]; rfl
  have hroute : (w.cell route).route = route := rfl
  rw [hroute] at hs hfields
  have heta : route.etaFinal = some s.etaFinal := by
    rw [DeliveryRoute.etaFinal, hs, Option.map_some]
  obtain ⟨hnext, harrived⟩ :=
    RouteSchedule.nextEta_of_activePosition hbetween.1 hbetween.2 hposition
  have hshownTruck : overview.truck = assigned := by rw [hfields]
  have hvehicle : assigned.map (fun truck ↦ (truck.truckId, truck.capacity)) =
      (w.truckOf route).map fun truck ↦ (truck.vehicleId, truck.capacity) := by
    have hcell : (w.cell route).truck = w.truckOf route := rfl
    rw [hcell] at hassigned
    cases htruckOf : w.truckOf route with
    | none =>
      rw [htruckOf] at hassigned
      rw [← Except.ok.inj hassigned]
      rfl
    | some truck =>
      rw [htruckOf, Option.mapM_some] at hassigned
      obtain ⟨shown, hnew, hshown⟩ := except_bind_eq_ok_iff.mp hassigned
      rw [← Except.ok.inj hshown, Option.map_some, Option.map_some,
        (AssignedTruckOverview.fields_of_new hnew).1, (AssignedTruckOverview.fields_of_new hnew).2]
  exact {
    stored := by rw [hfields, Store.key_of_find? hr, hr]
    underWay := isSome_shown_iff.mp hsome
    status := by rw [hfields]
    ends := by rw [hfields]; exact ⟨rfl, rfl⟩
    nextEta := by
      intro eta hmem
      rw [hfields] at hmem
      refine ⟨(hnext eta hmem).1, fun last hlast ↦ ?_⟩
      rw [heta] at hlast
      exact Option.some.inj hlast ▸ (hnext eta hmem).2
    arrived := by
      rw [hfields, heta, Option.some.injEq]
      exact harrived.trans eq_comm
    packages := by
      rw [hfields]
      show (w.packagesOf route).length = route.packages.length
      rw [← hl.map_packagesOf hr, List.length_map]
    truck := by rw [hfields, hvehicle]
    utilization := by
      intro percent hpercent
      unfold ActiveRouteOverview.capacityUtilizationPercent at hpercent
      obtain ⟨shown, hshown, rfl⟩ := Option.map_eq_some_iff.mp hpercent
      have hload : overview.maximumSegmentLoad =
          route.maximumSegmentLoad (w.packagesOf route) none := by
        rw [hfields]
        rfl
      have hassignedShown : assigned = some shown := by rw [← hshown, hfields]
      rw [hassignedShown, Option.map_some] at hvehicle
      obtain ⟨truck, htruckOf, hpair⟩ := Option.map_eq_some_iff.mp hvehicle.symm
      obtain ⟨t, htruck, hfind⟩ := Option.bind_eq_some_iff.mp htruckOf
      have hcapacity : truck.capacity = shown.capacity := congrArg Prod.snd hpair
      have hpos : (0 : Rat) < shown.capacity := by
        rw [← hcapacity]
        exact Int.cast_pos.mpr truck.valid.2.1
      have hle : overview.maximumSegmentLoad ≤ shown.capacity := by
        rw [hload, ← hcapacity]
        apply (RouteLoadCalculator.maximumSegmentLoad_le_iff route.two_le_length_locations).mpr
        rw [Option.map_none, Option.toList_none, List.append_nil]
        exact (hlimits hr htruck hfind).load
      constructor
      · exact mul_nonneg (div_nonneg overview.nonneg hpos.le) (by norm_num)
      · calc overview.maximumSegmentLoad / shown.capacity * 100
            ≤ 1 * 100 := by
              apply mul_le_mul_of_nonneg_right _ (by norm_num)
              exact (div_le_one hpos).mpr hle
          _ = 100 := one_mul _ }

/-! ### The listed routes -/

/-- What is shown of a departed route comes from a stored route. -/
theorem Database.exists_route_of_mem_shownRoutes {shown : ActiveRouteOverview}
    (h : shown ∈ shownRoutes generatedAt w (w.departedRoutes generatedAt)) :
    ∃ route, w.routes.find? route.routeId = some route ∧
      shown? generatedAt (w.cell route) = some shown := by
  obtain ⟨route, hroute, hshown⟩ := List.mem_filterMap.mp h
  exact ⟨route, (World.mem_departedRoutes.mp hroute).1, hshown⟩

/-- A route under way is shown with the departed routes. -/
theorem Database.exists_mem_shownRoutes {route : DeliveryRoute} (htimely : route.Timely clock)
    (hr : w.routes.find? route.routeId = some route) (h : route.UnderWay generatedAt) :
    ∃ own ∈ shownRoutes generatedAt w (w.departedRoutes generatedAt),
      shown? generatedAt (w.cell route) = some own := by
  have hsome : (shown? generatedAt (w.cell route)).isSome := isSome_shown_iff.mpr h
  obtain ⟨own, hown⟩ := Option.isSome_iff_exists.mp hsome
  obtain ⟨hopen, s, hs, hle, -⟩ := h
  have hdeparted : route ∈ w.departedRoutes generatedAt :=
    World.mem_departedRoutes.mpr ⟨hr, departed_of_le htimely hopen hs hle⟩
  exact ⟨own, List.mem_filterMap.mpr ⟨route, hdeparted, hown⟩, hown⟩

variable (generatedAt) in
/-- In every run and at every time, an accepted query lists routes under way only, in the order
of their next arrivals, and leaves one out only when the limit is reached by routes before it. -/
theorem Reachable.active_routes_exact (hidle : fleet.All (Truck.Idle fun _ ↦ True))
    (h : Reachable u fleet clock w) (hlimit : 1 ≤ limit ∧ limit ≤ 100) :
    ∃ overview, getOverview generatedAt w limit = .ok overview ∧
      (overview.activeRoutes.Pairwise fun a b ↦ a.rank generatedAt < b.rank generatedAt) ∧
      (∀ shown ∈ overview.activeRoutes, ∃ route, w.Lists generatedAt shown route) ∧
      ∀ {r : Int} {route : DeliveryRoute}, w.routes.find? r = some route →
        route.UnderWay generatedAt →
        ∃ own, w.Lists generatedAt own route ∧ (own ∈ overview.activeRoutes ∨
          overview.activeRoutes.length = limit ∧
            ∀ shown ∈ overview.activeRoutes, shown.rank generatedAt < own.rank generatedAt) := by
  have hsound := h.sound (fun _ _ ↦ trivial) hidle
  have hl := hsound.linked.toRouteLinked
  obtain ⟨packages, routes, trucks, -, -, -, hoverview⟩ := exists_getOverview generatedAt
    hsound.timely (requireActiveRouteLimit_eq_ok_iff.mpr hlimit)
  have hnd : ((shownRoutes generatedAt w (w.departedRoutes generatedAt)).map
      (ActiveRouteOverview.rank generatedAt)).Nodup :=
    PostgresFleetOverviewQuery.nodup_rank_shownRoutes World.sorted_departedRoutes
  refine ⟨_, hoverview, ?_, fun shown hshown ↦ ?_, fun {r route} hr hunder ↦ ?_⟩
  · exact pairwise_nsmallest hnd
  · obtain ⟨route, hr, hshown'⟩ :=
      Database.exists_route_of_mem_shownRoutes (mem_of_mem_nsmallest hshown)
    exact ⟨route, World.lists_of_shown hl hsound.limits hr hshown'⟩
  · have hid : route.routeId = r := Store.key_of_find? hr
    obtain ⟨own, hmem, hown⟩ := Database.exists_mem_shownRoutes (hsound.timely _ _ hr)
      (hid ▸ hr) hunder
    refine ⟨own, World.lists_of_shown hl hsound.limits hr hown, ?_⟩
    rcases mem_nsmallest_or hnd hmem with hlisted | ⟨hlength, hbefore⟩
    · exact .inl hlisted
    · refine .inr ⟨?_, hbefore⟩
      dsimp only
      rw [hlength]
      omega

/-! ### The route of the scenario -/

/-- What an overview lists is taken from the traversal of the routes. -/
theorem InMemoryFleetOverviewQuery.exists_summarizeRoutes {overview : FleetOverview}
    (h : getOverview generatedAt w limit = .ok overview) :
    ∃ active, summarizeRoutes generatedAt (w.routes.values.map w.cell) =
        .ok (overview.routes, active) ∧
      overview.activeRoutes =
        nsmallest (ActiveRouteOverview.rank generatedAt) limit.toNat active := by
  simp only [getOverview, except_bind_eq_ok_iff, Except.ok.injEq] at h
  obtain ⟨-, -, _, -, ⟨routes, active⟩, hroutes, _, -, rfl⟩ := h
  exact ⟨active, hroutes, rfl⟩

namespace Scenario

/-- The traversal finds the first route under way, with its truck and load. -/
def ListsRouteOne (generatedAt : Datetime) (w : World) : Prop :=
  (summarizeRoutes generatedAt (w.routes.values.map w.cell)).toOption.map (fun listed ↦
    listed.2.map fun shown ↦ (shown.routeId, shown.truck.map AssignedTruckOverview.truckId,
      shown.maximumSegmentLoad)) = some [(1, some 1001, 1200)]

instance (generatedAt : Datetime) (w : World) : Decidable (ListsRouteOne generatedAt w) :=
  inferInstanceAs (Decidable (_ = _))

/-- Then the overview lists it. -/
theorem ListsRouteOne.listed {overview : FleetOverview} (h : ListsRouteOne generatedAt w)
    (hoverview : getOverview generatedAt w 10 = .ok overview) :
    ∃ shown, overview.activeRoutes = [shown] ∧ shown.routeId = 1 ∧
      shown.truck.map AssignedTruckOverview.truckId = some 1001 ∧
      shown.maximumSegmentLoad = 1200 := by
  obtain ⟨active, hactive, hlisted⟩ := exists_summarizeRoutes hoverview
  unfold ListsRouteOne at h
  rw [hactive] at h
  obtain ⟨shown, hshown, hfields⟩ := List.map_eq_singleton_iff.mp (Option.some.inj h)
  have hone : active = [shown] := hshown
  rw [hone] at hlisted
  unfold nsmallest at hlisted
  rw [List.mergeSort_singleton] at hlisted
  simp only [Prod.mk.injEq] at hfields
  exact ⟨shown, hlisted, hfields⟩

/-- What is listed an hour after the last step of the scenario: its route, and nothing is left
out. -/
theorem active_routes_exact_steps : ∃ overview shown route,
    getOverview (hour 13) (performAll .asciiOnly (.initial Scenario.fleet) steps) 10 = .ok overview ∧
    overview.activeRoutes = [shown] ∧ shown.routeId = 1 ∧
    shown.truck.map AssignedTruckOverview.truckId = some 1001 ∧
    shown.maximumSegmentLoad = 1200 ∧
    (performAll .asciiOnly (.initial Scenario.fleet) steps).Lists (hour 13) shown route ∧
    (overview.activeRoutes.Pairwise fun a b ↦ a.rank (hour 13) < b.rank (hour 13)) ∧
    ∀ {r : Int} {route : DeliveryRoute},
      (performAll .asciiOnly (.initial Scenario.fleet) steps).routes.find? r = some route →
      route.UnderWay (hour 13) →
      ∃ own, (performAll .asciiOnly (.initial Scenario.fleet) steps).Lists (hour 13) own route ∧
        (own ∈ overview.activeRoutes ∨ (overview.activeRoutes.length : Int) = 10 ∧
          ∀ other ∈ overview.activeRoutes, other.rank (hour 13) < own.rank (hour 13)) := by
  obtain ⟨overview, hoverview, hsorted, hlists, hcomplete⟩ :=
    Reachable.active_routes_exact (hour 13) fleet_idle_anywhere reachable_steps
      (⟨by decide, by decide⟩ : (1 : Int) ≤ 10 ∧ (10 : Int) ≤ 100)
  have hone : ListsRouteOne (hour 13) (performAll .asciiOnly (.initial Scenario.fleet) steps) := by
    decide +kernel
  obtain ⟨shown, hactive, hid, htruck, hload⟩ := hone.listed hoverview
  obtain ⟨route, hroute⟩ := hlists shown (by rw [hactive]; exact List.mem_singleton_self _)
  exact ⟨overview, shown, route, hoverview, hactive, hid, htruck, hload, hroute, hsorted,
    hcomplete⟩

end Scenario

/-! ### After a heartbeat -/

/-- A route with the status of its schedule is under way while it is in progress. -/
theorem DeliveryRoute.UnderWay.inProgress {route : DeliveryRoute}
    (hstatus : route.status = route.statusAt now) (h : route.UnderWay now) :
    route.status = .inProgress ∧
      ∃ s, route.plan.schedule? = some s ∧ s.departureTime ≤ now ∧ now < s.etaFinal := by
  obtain ⟨hopen, s, hs, hdep, -⟩ := h
  have hlt : now < s.etaFinal := by
    by_contra hnot
    exact hopen (hstatus.trans (DeliveryRoute.statusAt_eq_completed_iff.mpr
      ((DeliveryRoute.finished_iff hs).mpr (le_of_not_gt hnot))))
  refine ⟨?_, s, hs, hdep, hlt⟩
  rw [hstatus, DeliveryRoute.statusAt, hs]
  dsimp only
  rw [if_neg (not_lt_of_ge hdep), if_neg (not_le_of_gt hlt)]

namespace World.SettledAt

variable (h : w.SettledAt now)
include h

/-- The routes under way are those in progress. -/
theorem underWay_iff {r : Int} {route : DeliveryRoute} (hr : w.routes.find? r = some route) :
    route.UnderWay now ↔ route.status = .inProgress := by
  have hstatus := h.status _ _ hr
  constructor
  · intro hunder
    exact (hunder.inProgress hstatus).1
  · intro hprogress
    refine ⟨by rw [hprogress]; simp, ?_⟩
    rw [hstatus, DeliveryRoute.statusAt] at hprogress
    cases hs : route.plan.schedule? with
    | none =>
      rw [hs] at hprogress
      cases hprogress
    | some s =>
      rw [hs] at hprogress
      dsimp only at hprogress
      split at hprogress
      · cases hprogress
      · next hdep =>
        split at hprogress
        · cases hprogress
        · next hend => exact ⟨s, rfl, le_of_not_gt hdep, (lt_of_not_ge hend).le⟩

/-- No route is late. -/
theorem not_pastDue {r : Int} {route : DeliveryRoute} (hr : w.routes.find? r = some route) :
    ¬ route.PastDue now := by
  rintro ⟨hopen, eta, heta, hlate⟩
  apply hopen
  rw [h.status _ _ hr, DeliveryRoute.statusAt_eq_completed_iff]
  exact ⟨eta, heta, hlate.le⟩

/-- No package is late. -/
theorem not_late (hl : w.Linked) {p : Int} {package : DeliveryPackage}
    (hp : w.packages.find? p = some package) :
    ¬ (package.status ≠ .done ∧ ∃ t ∈ package.expectedArrival, t < now) := by
  rintro ⟨hopen, t, ht, hlate⟩
  have hwaiting : ¬ package.Waiting := by
    intro hwaiting
    rw [hwaiting.expectedArrival] at ht
    cases ht
  cases hroute : package.route with
  | none => exact hwaiting (hl.waiting _ _ hp hroute)
  | some r =>
    obtain ⟨route, hr, -⟩ := hl.route_of_package hp hroute
    have hsettled := h.package hp hroute hr
    unfold DeliveryPackage.SettledOn at hsettled
    cases hs : route.plan.schedule? with
    | none =>
      rw [hs] at hsettled
      exact hwaiting hsettled
    | some s =>
      rw [hs] at hsettled
      rw [hsettled.expectedArrival] at ht
      exact hopen (hsettled.done t ht hlate.le).1

end World.SettledAt

/-- No late package is counted. -/
theorem World.SettledAt.packages_pastDue (h : w.SettledAt now) (hl : w.Linked)
    {overview : PackageOverview}
    (hoverview : summarizePackages now w.packages.values = .ok overview) :
    overview.pastDue = 0 := by
  unfold summarizePackages at hoverview
  rw [foldl_tallyPackage] at hoverview
  rw [(PackageOverview.fields_of_new hoverview).2.2]
  dsimp only
  rw [Nat.zero_add, List.countP_eq_zero]
  intro package hpackage
  rw [decide_eq_true_eq]
  exact h.not_late hl (Store.mem_values.mp hpackage)

/-- As many routes are shown as are in progress. -/
theorem World.SettledAt.length_shownRoutes (h : w.SettledAt now)
    (htimely : w.routes.All (DeliveryRoute.Timely clock)) :
    (shownRoutes now w (w.departedRoutes now)).length = w.routeStatusCounts.inProgress := by
  rw [← shownRoutes_values htimely]
  unfold shownRoutes World.routeStatusCounts
  rw [List.length_filterMap_eq_countP]
  apply List.countP_congr
  intro route hroute
  rw [decide_eq_true_eq, isSome_shown_iff]
  exact h.underWay_iff (Store.mem_values.mp hroute)

/-- The truck of a shown route is where the overview shows the route. -/
theorem World.SettledAt.truck_of_shown (h : w.SettledAt now) (hl : w.Linked) {r : Int}
    {route : DeliveryRoute} (hr : w.routes.find? r = some route) {shown : ActiveRouteOverview}
    (hshown : shown? now (w.cell route) = some shown) (hlists : w.Lists now shown route) :
    ∀ truck ∈ shown.truck, ∃ vehicle, w.trucks.find? truck.truckId = some vehicle ∧
      vehicle.status = .onTheWay ∧ vehicle.currentLocation = some shown.position.places.1 ∧
      vehicle.inTransitTo = shown.position.places.2 := by
  intro truck htruck
  have hpair := hlists.truck
  rw [Option.mem_def.mp htruck, Option.map_some] at hpair
  obtain ⟨vehicle, hvehicle, hids⟩ := Option.map_eq_some_iff.mp hpair.symm
  obtain ⟨t, ht, hfind⟩ := Option.bind_eq_some_iff.mp hvehicle
  have hid : vehicle.vehicleId = truck.truckId := congrArg Prod.fst hids
  have hkey : vehicle.vehicleId = t := Store.key_of_find? hfind
  obtain ⟨other, hother, hroute⟩ := hl.truck_of_route hr ht
  rw [hfind, Option.some.injEq] at hother
  rw [← hother] at hroute
  obtain ⟨s, position, _, hs, hbetween, hposition, -, hfields⟩ := fields_of_shown hshown
  obtain ⟨-, s', hs', -, hlt⟩ := hlists.underWay.inProgress (h.status _ _ hr)
  have hsame : s' = s := Option.some.inj (hs'.symm.trans hs)
  have honTheWay : vehicle.status = .onTheWay :=
    (hl.linkState _ _ hfind).onTheWay.mpr (by rw [hroute]; rfl)
  have hplaces := RouteSchedule.places_of_onSchedule hbetween.1 (hsame ▸ hlt) hposition
    (h.truck hfind hroute hr hs)
  have hshownPosition : shown.position = position := by rw [hfields]
  rw [hshownPosition, ← hid, hkey]
  exact ⟨vehicle, hfind, honTheWay, hplaces⟩

/-- Right after a heartbeat of any run, an overview at the time of the heartbeat shows nothing
late, lists as many routes in progress as the limit lets it, and shows the truck of each of them
where the truck is. -/
theorem Reachable.heartbeat_overview (hidle : fleet.All (Truck.Idle fun _ ↦ True))
    (h : Reachable u fleet clock w) (hnow : ∀ c ∈ clock, c ≤ now)
    (hlimit : 1 ≤ limit ∧ limit ≤ 100) :
    Program.Ensures (HeartbeatService.advance .inMemory now) w
      (fun _ w' ↦ ∃ overview, getOverview now w' limit = .ok overview ∧
        overview.packages.pastDue = 0 ∧ overview.routes.pastDue = 0 ∧
        (overview.activeRoutes.length : Int) = min limit overview.routes.byStatus.inProgress ∧
        ∀ shown ∈ overview.activeRoutes, shown.status = .inProgress ∧
          ∀ truck ∈ shown.truck, ∃ vehicle, w'.trucks.find? truck.truckId = some vehicle ∧
            vehicle.status = .onTheWay ∧
            vehicle.currentLocation = some shown.position.places.1 ∧
            vehicle.inTransitTo = shown.position.places.2)
      (fun _ _ ↦ False) := by
  have hsound := h.sound (fun _ _ ↦ trivial) hidle
  refine (HeartbeatService.ensures_advance hsound hnow).mono (fun summary w' hw ↦ ?_)
    fun _ _ hf ↦ hf
  have hsettled := hw.advanced.settled hsound.linked
  have hsound' := hw.advanced.sound (fun _ _ ↦ trivial) hsound
  obtain ⟨packages, routes, trucks, hpackages, hroutes, -, hoverview⟩ :=
    exists_getOverview now hsound'.timely (requireActiveRouteLimit_eq_ok_iff.mpr hlimit)
  refine ⟨_, hoverview, ?_, ?_, ?_, fun shown hshown ↦ ?_⟩
  · exact hsettled.packages_pastDue hsound'.linked hpackages
  · rw [(RouteOverview.fields_of_new hroutes).2, List.countP_eq_zero]
    intro route hroute
    rw [decide_eq_true_eq]
    exact hsettled.not_pastDue (Store.mem_values.mp hroute)
  · dsimp only
    rw [length_nsmallest, hsettled.length_shownRoutes hsound'.timely,
      (RouteOverview.fields_of_new hroutes).1]
    omega
  · obtain ⟨route, hr, hshown'⟩ :=
      Database.exists_route_of_mem_shownRoutes (mem_of_mem_nsmallest hshown)
    have hlists := World.lists_of_shown hsound'.linked.toRouteLinked hsound'.limits hr hshown'
    refine ⟨?_, hsettled.truck_of_shown hsound'.linked hr hshown' hlists⟩
    rw [hlists.status]
    exact (hsettled.underWay_iff hr).mp hlists.underWay

/-- An overview right after a heartbeat of the scenario: its route is in progress, and its truck
is where the overview shows the route. -/
theorem Scenario.heartbeat_overview_steps : ∃ summary w' overview shown,
    HeartbeatService.advance .inMemory (hour 13)
      (performAll .asciiOnly (.initial Scenario.fleet) steps) = .ok summary w' ∧
    getOverview (hour 13) w' 10 = .ok overview ∧
    overview.packages.pastDue = 0 ∧ overview.routes.pastDue = 0 ∧
    (overview.activeRoutes.length : Int) = min 10 (overview.routes.byStatus.inProgress : Int) ∧
    overview.activeRoutes = [shown] ∧ shown.routeId = 1 ∧ shown.status = .inProgress ∧
    shown.maximumSegmentLoad = 1200 ∧
    shown.truck.map AssignedTruckOverview.truckId = some 1001 ∧
    ∃ vehicle, w'.trucks.find? 1001 = some vehicle ∧ vehicle.status = .onTheWay ∧
      vehicle.currentLocation = some shown.position.places.1 ∧
      vehicle.inTransitTo = shown.position.places.2 := by
  have hensures := Reachable.heartbeat_overview fleet_idle_anywhere reachable_steps
    (by decide : ∀ c ∈ some (hour 12), c ≤ hour 13)
    (⟨by decide, by decide⟩ : (1 : Int) ≤ 10 ∧ (10 : Int) ≤ 100)
  have hone : ListsRouteOne (hour 13) ((HeartbeatService.advance .inMemory (hour 13)).finalState
      (performAll .asciiOnly (.initial Scenario.fleet) steps)) := by decide +kernel
  rw [Program.ensures_iff] at hensures
  cases hrun : HeartbeatService.advance .inMemory (hour 13)
      (performAll .asciiOnly (.initial Scenario.fleet) steps) with
  | error e w' =>
    rw [hrun] at hensures
    exact hensures.elim
  | ok summary w' =>
    rw [hrun] at hensures
    obtain ⟨overview, hoverview, hpackages, hroutes, hlength, hshown⟩ := hensures
    unfold Program.finalState at hone
    rw [hrun] at hone
    obtain ⟨shown, hactive, hid, htruck, hload⟩ := hone.listed hoverview
    obtain ⟨hstatus, hplaced⟩ := hshown shown (by rw [hactive]; exact List.mem_singleton_self _)
    obtain ⟨truck, hmem, htruckId⟩ := Option.map_eq_some_iff.mp htruck
    exact ⟨summary, w', overview, shown, rfl, hoverview, hpackages, hroutes, hlength, hactive, hid,
      hstatus, hload, htruck, htruckId ▸ hplaced truck hmem⟩

end FleetFlow
