import FleetFlow.Runtime.PickupRule

/-!
# Suitable routes of a package

Follows `application/use_cases/routes/find_suitable_routes_for_package.py`. Acceptance looks at the
load of each leg, the reported free capacity at the weight of all packages of the route. Both agree
exactly when every package of the route travels on one leg of the trip.
-/

namespace FleetFlow

/-- Weight of all packages; `domain/entities/delivery_route.py:596–603`. -/
def DeliveryRoute.totalAssignedWeight (packages : List DeliveryPackage) : Rat :=
  (packages.map DeliveryPackage.weight).sum

/-- A route that a package can be assigned to;
`application/results/find_suitable_packages_for_route_result.py`. -/
structure SuitableRouteForPackage where
  routeId : Int
  startLocation : LocationCode
  endLocation : LocationCode
  eta : Option Datetime
  capacityLeft : Option Rat
  endCity : LocationCode
deriving DecidableEq

namespace FindSuitableRoutesForPackageUseCase

/-- Routes with an arrival come first, by arrival; lines 29–30. -/
def sortKeyLe (a b : SuitableRouteForPackage) : Bool :=
  match a.eta, b.eta with
  | some x, some y => decide (x ≤ y)
  | some _, none => true
  | none, some _ => false
  | none, none => true

/-- The arrival at the destination of the package; lines 100–103. -/
def etaOf (route : DeliveryRoute) (package : DeliveryPackage) :
    Except PyError (Option Datetime) :=
  match route.arrivalTimeAt package.endLocation with
  | .ok eta => .ok (some eta)
  | .error e =>
    if e.kind = .domainConflict ∨ e.kind = .domainValidation then .ok none else .error e

/-- One pass of the loop over the routes; lines 92–115. -/
def suitableRoute [WeightArithmetic] (w : World) (now : Datetime) (package : DeliveryPackage)
    (route : DeliveryRoute) : Except PyError (Option SuitableRouteForPackage) := do
  match ← route.canAcceptPackage (w.packagesOf route) (w.truckOf route) package now with
  | some _ => .ok none
  | none =>
    let eta ← etaOf route package
    .ok (some {
      routeId := route.routeId
      startLocation := route.startLocation
      endLocation := route.endLocation
      eta
      capacityLeft := (w.truckOf route).map fun truck ↦
        truck.capacity - DeliveryRoute.totalAssignedWeight (w.packagesOf route)
      endCity := package.endLocation })

/-- The routes that a package can be assigned to, looked at by id and sorted for the answer;
`application/use_cases/routes/find_suitable_routes_for_package.py:70–117`. -/
def execute [WeightArithmetic] (w : World) (now : Datetime) (packageId : Int) :
    Except PyError (List SuitableRouteForPackage) :=
  match w.packages.find? packageId with
  | none => .error ⟨.notFound, s!"Package with ID {packageId} not found."⟩
  | some package => do
    let routes := w.routes.values.mergeSort fun a b ↦ decide (a.routeId ≤ b.routeId)
    let results ← routes.mapM (suitableRoute w now package)
    .ok ((results.filterMap id).mergeSort sortKeyLe)

end FindSuitableRoutesForPackageUseCase

/-! ### The load on the way of a package -/

/-- The heaviest load that a route already carries between two of its stops. -/
def DeliveryRoute.heaviestLoadBetween (route : DeliveryRoute) (packages : List DeliveryPackage)
    (start end_ : LocationCode) : Rat :=
  let pickup := route.locations.idxOf start
  ((List.range' pickup (route.locations.idxOf end_ - pickup)).map
    (RouteLoadCalculator.legLoad route.locations
      (packages.map DeliveryPackage.load))).max?.getD 0

/-- Every package of a route travels on one leg between two of its stops. -/
def DeliveryRoute.CarriesTogether (route : DeliveryRoute) (packages : List DeliveryPackage)
    (start end_ : LocationCode) : Prop :=
  ∃ k, route.locations.idxOf start ≤ k ∧ k < route.locations.idxOf end_ ∧
    ∀ package ∈ packages, RouteLoadCalculator.covers route.locations k package.load = true

namespace RouteLoadCalculator

variable {locations : List LocationCode} {packages : List PackageLoad}

/-- A leg never carries more than all packages. -/
theorem legLoad_le_total (hw : ∀ package ∈ packages, 0 < package.weight) (k : Nat) :
    legLoad locations packages k ≤ (packages.map PackageLoad.weight).sum := by
  refine (List.filter_sublist.map PackageLoad.weight).sum_le_sum fun w hmem ↦ ?_
  obtain ⟨package, hpackage, rfl⟩ := List.mem_map.mp hmem
  exact (hw package hpackage).le

/-- A leg carries the weight of all packages exactly when all of them travel on it. -/
theorem legLoad_eq_total_iff (hw : ∀ package ∈ packages, 0 < package.weight) (k : Nat) :
    legLoad locations packages k = (packages.map PackageLoad.weight).sum ↔
      ∀ package ∈ packages, covers locations k package = true := by
  induction packages with
  | nil => simp [legLoad]
  | cons first rest ih =>
    have hrest : ∀ package ∈ rest, 0 < package.weight := fun package h ↦ hw package (by simp [h])
    have hfirst : 0 < first.weight := hw first (by simp)
    rw [List.forall_mem_cons, ← ih hrest]
    by_cases hc : covers locations k first = true
    · simp only [legLoad, List.filter_cons_of_pos hc, List.map_cons, List.sum_cons,
        add_right_inj, hc, true_and]
    · have hle : legLoad locations rest k ≤ (rest.map PackageLoad.weight).sum :=
        legLoad_le_total hrest k
      have hlt : legLoad locations (first :: rest) k < first.weight +
          (rest.map PackageLoad.weight).sum := by
        rw [legLoad, List.filter_cons_of_neg hc]
        exact lt_of_le_of_lt hle (lt_add_of_pos_left _ hfirst)
      rw [List.map_cons, List.sum_cons]
      exact iff_of_false hlt.ne fun h ↦ hc h.1

end RouteLoadCalculator

namespace DeliveryRoute

variable {route : DeliveryRoute} {packages : List DeliveryPackage}

/-- Packages have positive weights. -/
theorem weight_pos_of_mem_load {load : PackageLoad}
    (h : load ∈ packages.map DeliveryPackage.load) : 0 < load.weight := by
  obtain ⟨package, -, rfl⟩ := List.mem_map.mp h
  exact (DeliveryPackage.check_eq_ok_iff.mp package.valid).2.2.2.2.2

theorem totalAssignedWeight_eq : totalAssignedWeight packages =
    ((packages.map DeliveryPackage.load).map PackageLoad.weight).sum := by
  rw [totalAssignedWeight, List.map_map]
  rfl

/-- The heaviest load of a trip is the total weight exactly when all packages travel on one of its
legs. -/
theorem heaviestLoadBetween_eq_total_iff {start end_ : LocationCode}
    (h : route.locations.idxOf start < route.locations.idxOf end_) :
    route.heaviestLoadBetween packages start end_ = totalAssignedWeight packages ↔
      route.CarriesTogether packages start end_ := by
  have hw : ∀ load ∈ packages.map DeliveryPackage.load, 0 < load.weight :=
    fun _ hmem ↦ weight_pos_of_mem_load hmem
  have hmem : ∀ k, (∃ l ∈ List.range' (route.locations.idxOf start)
      (route.locations.idxOf end_ - route.locations.idxOf start), l = k) ↔
      route.locations.idxOf start ≤ k ∧ k < route.locations.idxOf end_ := by
    intro k
    rw [exists_eq_right, List.mem_range'_1]
    omega
  rw [totalAssignedWeight_eq, heaviestLoadBetween]
  cases hm : ((List.range' (route.locations.idxOf start)
      (route.locations.idxOf end_ - route.locations.idxOf start)).map
      (RouteLoadCalculator.legLoad route.locations (packages.map DeliveryPackage.load))).max? with
  | none =>
    rw [List.max?_eq_none_iff, List.map_eq_nil_iff, List.range'_eq_nil_iff] at hm
    omega
  | some m =>
    obtain ⟨hmax, hbound⟩ := List.max?_eq_some_iff.mp hm
    rw [Option.getD_some]
    have hcarried : (∃ k, route.locations.idxOf start ≤ k ∧ k < route.locations.idxOf end_ ∧
        RouteLoadCalculator.legLoad route.locations (packages.map DeliveryPackage.load) k =
          ((packages.map DeliveryPackage.load).map PackageLoad.weight).sum) ↔
        route.CarriesTogether packages start end_ := by
      refine exists_congr fun k ↦ and_congr_right fun _ ↦ and_congr_right fun _ ↦ ?_
      rw [RouteLoadCalculator.legLoad_eq_total_iff hw, List.forall_mem_map]
    rw [← hcarried]
    constructor
    · intro htotal
      obtain ⟨k, hk, hkm⟩ := List.mem_map.mp hmax
      obtain ⟨hstart, hend⟩ := (hmem k).mp ⟨k, hk, rfl⟩
      exact ⟨k, hstart, hend, hkm.trans htotal⟩
    · rintro ⟨k, hstart, hend, htotal⟩
      obtain ⟨l, hl, rfl⟩ := (hmem k).mpr ⟨hstart, hend⟩
      refine le_antisymm ?_ (htotal ▸ hbound _ (List.mem_map.mpr ⟨l, hl, rfl⟩))
      obtain ⟨k', -, rfl⟩ := List.mem_map.mp hmax
      exact RouteLoadCalculator.legLoad_le_total hw k'

end DeliveryRoute

/-! ### The reported capacity -/

/-- The reported free capacity of a truck is what acceptance leaves on the way of the package. -/
def SuitableRouteForPackage.ReportsFreeCapacity (result : SuitableRouteForPackage)
    (w : World) (route : DeliveryRoute) (truck : Truck) (package : DeliveryPackage) : Prop :=
  ∃ left, result.capacityLeft = some left ∧ 0 ≤ left ∧ package.weight ≤ left ∧
    left = truck.capacity - route.heaviestLoadBetween (w.packagesOf route) package.startLocation
      package.endLocation

namespace FindSuitableRoutesForPackageUseCase

variable {w : World} {now : Datetime} {package : DeliveryPackage} {route : DeliveryRoute}
  {truck : Truck} {result : SuitableRouteForPackage}

/-- A listed route is one that accepts the package. -/
theorem suitableRoute_eq_some (h : suitableRoute w now package route = .ok (some result)) :
    PackageAssignmentPolicy.evaluate route (w.packagesOf route) (w.truckOf route) package now =
      .ok .accept ∧ result.routeId = route.routeId ∧
      result.capacityLeft = (w.truckOf route).map fun truck ↦
        truck.capacity - DeliveryRoute.totalAssignedWeight (w.packagesOf route) := by
  rw [suitableRoute, except_bind_eq_ok_iff] at h
  obtain ⟨message, haccept, h⟩ := h
  rw [DeliveryRoute.canAcceptPackage, except_bind_eq_ok_iff] at haccept
  obtain ⟨decision, hdecision, haccept⟩ := haccept
  cases decision with
  | reject reason text =>
    obtain rfl := Except.ok.inj haccept
    cases h
  | accept =>
    obtain rfl := Except.ok.inj haccept
    rw [except_bind_eq_ok_iff] at h
    obtain ⟨eta, -, h⟩ := h
    obtain rfl := Option.some.inj (Except.ok.inj h)
    exact ⟨hdecision, rfl, rfl⟩

/-- Each pass of the loop returns. -/
theorem exists_suitableRoute (w : World) (now : Datetime) (package : DeliveryPackage)
    (route : DeliveryRoute) : ∃ found, suitableRoute w now package route = .ok found := by
  have heta : ∃ eta, etaOf route package = .ok eta := by
    unfold etaOf DeliveryRoute.arrivalTimeAt
    cases route.plan.schedule? with
    | none => exact ⟨none, rfl⟩
    | some s =>
      dsimp only
      cases s.arrivalTimeAt package.endLocation with
      | ok eta => exact ⟨some eta, rfl⟩
      | error e => exact ⟨none, rfl⟩
  obtain ⟨decision, hdecision⟩ := PackageAssignmentPolicy.exists_evaluate route
    (w.packagesOf route) (w.truckOf route) package now
  obtain ⟨eta, heta⟩ := heta
  rw [suitableRoute, DeliveryRoute.canAcceptPackage, hdecision]
  cases decision with
  | reject reason message => exact ⟨none, rfl⟩
  | accept =>
    simp only [ok_bind, heta]
    exact ⟨_, rfl⟩

/-- The query returns for every stored package, and lists every route that accepts it. -/
theorem exists_execute {packageId : Int} (hp : w.packages.find? packageId = some package) :
    ∃ results, execute w now packageId = .ok results ∧ ∀ r route found,
      w.routes.find? r = some route → suitableRoute w now package route = .ok (some found) →
      found ∈ results := by
  obtain ⟨founds, hfounds⟩ : ∃ founds, (w.routes.values.mergeSort fun a b ↦
      decide (a.routeId ≤ b.routeId)).mapM (suitableRoute w now package) = .ok founds :=
    exists_mapM_eq_ok fun route _ ↦ exists_suitableRoute w now package route
  refine ⟨(founds.filterMap id).mergeSort sortKeyLe, ?_, fun r route found hr hfound ↦ ?_⟩
  · rw [execute, hp]
    simp only [hfounds, ok_bind]
  · rw [List.mem_mergeSort, List.mem_filterMap]
    have hmem : route ∈ w.routes.values.mergeSort fun a b ↦ decide (a.routeId ≤ b.routeId) :=
      List.mem_mergeSort.mpr (Store.mem_values_of_find? hr)
    obtain ⟨x, hx, hsuitable⟩ := exists_mem_of_forall₂ (mapM_eq_ok_iff.mp hfounds) hmem
    obtain rfl := Except.ok.inj (hsuitable.symm.trans hfound)
    exact ⟨some found, hx, rfl⟩

/-- Every result comes from a stored route. -/
theorem exists_of_mem_execute {packageId : Int} {results : List SuitableRouteForPackage}
    (h : execute w now packageId = .ok results) (hp : w.packages.find? packageId = some package)
    (hresult : result ∈ results) : ∃ route,
      w.routes.find? result.routeId = some route ∧
        suitableRoute w now package route = .ok (some result) := by
  rw [execute, hp] at h
  simp only [except_bind_eq_ok_iff, Except.ok.injEq] at h
  obtain ⟨found, hfound, rfl⟩ := h
  rw [List.mem_mergeSort, List.mem_filterMap] at hresult
  obtain ⟨x, hx, rfl⟩ := hresult
  obtain ⟨route, hroute, hsuitable⟩ := exists_of_mapM_eq_ok hfound hx
  rw [List.mem_mergeSort, Store.mem_values] at hroute
  exact ⟨route, (suitableRoute_eq_some hsuitable).2.1 ▸ hroute, hsuitable⟩

/-- The capacity reported for an accepting route agrees with the acceptance rule exactly when all
packages of the route travel on one leg of the trip. -/
theorem reportsFreeCapacity_iff (ht : w.truckOf route = some truck)
    (h : suitableRoute w now package route = .ok (some result)) :
    result.ReportsFreeCapacity w route truck package ↔
      route.CarriesTogether (w.packagesOf route) package.startLocation package.endLocation := by
  obtain ⟨haccept, -, hcapacity⟩ := suitableRoute_eq_some h
  obtain ⟨horder, hlimits⟩ := PackageAssignmentPolicy.of_evaluate_eq_accept haccept
  obtain ⟨i, j, hi, hj, hij⟩ := RoutePath.includesInOrder_iff.mp horder
  have hnd : route.locations.Nodup := route.plan.path.nodup
  have hpickup : route.locations.idxOf package.startLocation = i := by
    obtain ⟨hlt, heq⟩ := List.getElem?_eq_some_iff.mp hi
    exact heq ▸ hnd.idxOf_getElem i hlt
  have hdrop : route.locations.idxOf package.endLocation = j := by
    obtain ⟨hlt, heq⟩ := List.getElem?_eq_some_iff.mp hj
    exact heq ▸ hnd.idxOf_getElem j hlt
  have hlt : route.locations.idxOf package.startLocation <
      route.locations.idxOf package.endLocation := by
    rw [hpickup, hdrop]
    exact hij
  rw [ht, Option.map_some] at hcapacity
  rw [← DeliveryRoute.heaviestLoadBetween_eq_total_iff hlt]
  constructor
  · rintro ⟨left, hleft, -, -, heq⟩
    rw [hcapacity, Option.some.injEq] at hleft
    exact (sub_right_injective (hleft.trans heq)).symm
  · intro htotal
    refine ⟨_, hcapacity, ?_⟩
    have hweight : 0 < package.weight :=
      (DeliveryPackage.check_eq_ok_iff.mp package.valid).2.2.2.2.2
    -- On the common leg the truck carries everything, and with the package still enough.
    have hfits : package.weight ≤
        truck.capacity - DeliveryRoute.totalAssignedWeight (w.packagesOf route) := by
      obtain ⟨k, hstart, hend, hall⟩ :=
        (DeliveryRoute.heaviestLoadBetween_eq_total_iff hlt).mp htotal
      have hload := (hlimits truck ht).1
      rw [DeliveryRoute.maximumSegmentLoad, RouteLoadCalculator.maximumSegmentLoad_le_iff
        route.two_le_length_locations] at hload
      have hj' := (List.getElem?_eq_some_iff.mp hj).1
      have hk : k + 1 < route.locations.length := by
        have : j < route.locations.length := hj'
        omega
      have hcovers : RouteLoadCalculator.covers route.locations k package.load = true :=
        (RouteLoadCalculator.covers_iff hnd).mpr ⟨i, j, hi, hj, hpickup ▸ hstart, hdrop ▸ hend⟩
      have hleg := hload k hk
      have hboth : ∀ load ∈ (w.packagesOf route).map DeliveryPackage.load ++ [package.load],
          RouteLoadCalculator.covers route.locations k load = true := by
        rw [List.forall_mem_append, List.forall_mem_map, List.forall_mem_singleton]
        exact ⟨hall, hcovers⟩
      rw [Option.map_some, Option.toList_some, RouteLoadCalculator.legLoad,
        List.filter_eq_self.mpr hboth, List.map_append, List.sum_append,
        ← DeliveryRoute.totalAssignedWeight_eq] at hleg
      have hsingle : ([package.load].map PackageLoad.weight).sum = package.weight := by
        simp [DeliveryPackage.load]
      rw [hsingle] at hleg
      linarith
    exact ⟨hweight.le.trans hfits, hfits, by rw [htotal]⟩

/-- A listed route with a truck reports the free capacity of the acceptance rule exactly when all
of its packages travel on one leg of the trip. -/
theorem free_capacity_iff {packageId : Int} {results : List SuitableRouteForPackage}
    (hp : w.packages.find? packageId = some package)
    (hrun : execute w now packageId = .ok results) (hresult : result ∈ results)
    (hr : w.routes.find? result.routeId = some route) (ht : w.truckOf route = some truck) :
    result.ReportsFreeCapacity w route truck package ↔
      route.CarriesTogether (w.packagesOf route) package.startLocation package.endLocation := by
  obtain ⟨route', hr', hsuitable⟩ := exists_of_mem_execute hrun hp hresult
  obtain rfl := Option.some.inj (hr.symm.trans hr')
  exact reportsFreeCapacity_iff ht hsuitable

end FindSuitableRoutesForPackageUseCase

/-! ### Two packages one after the other -/

namespace Scenario

/-- A package between two hubs. -/
def parcel (start end_ : String) (weight : Rat) : Operation :=
  .createPackage ⟨start, end_, .finite weight, "Ada Stone", "ada@example.com", ""⟩

/-- Each of two legs carries one heavy package, and a light one asks for the first leg. -/
def twoLegSteps : List (Datetime × Operation) :=
  [(hour 0, .createRoute ["SYD", "MEL", "ADL"] (some (hour 8))),
    (hour 1, parcel "SYD" "MEL" 30000),
    (hour 1, parcel "MEL" "ADL" 30000),
    (hour 1, parcel "SYD" "MEL" 500),
    (hour 2, .assignTruck 1001 1 (hour 2)),
    (hour 3, .assignPackages 1 [1, 2])]

/-- The world after these steps. -/
def twoLegWorld : World := performAll .asciiOnly (.initial fleet) twoLegSteps

/-- The world after these steps is reachable. -/
theorem reachable_twoLeg : Reachable .asciiOnly fleet (some (hour 3)) twoLegWorld := by
  have hsorted : ([] ++ twoLegSteps.map Prod.fst).Pairwise (· ≤ ·) := by decide
  exact Reachable.performAll .start hsorted

/-- The route is listed for the light package, with a negative free capacity. -/
private theorem twoLeg_facts : ∃ package route truck result results,
    twoLegWorld.packages.find? 3 = some package ∧ twoLegWorld.routes.find? 1 = some route ∧
    twoLegWorld.truckOf route = some truck ∧
    FindSuitableRoutesForPackageUseCase.execute twoLegWorld (hour 4) 3 = .ok results ∧
    result ∈ results ∧ result.routeId = 1 ∧ result.capacityLeft = some (-18000) := by
  have hfacts : (twoLegWorld.packages.find? 3).any (fun package ↦
      (twoLegWorld.routes.find? 1).any fun route ↦ (twoLegWorld.truckOf route).isSome &&
        (FindSuitableRoutesForPackageUseCase.suitableRoute twoLegWorld (hour 4) package
          route).toOption.join.any fun result ↦ decide (result.capacityLeft = some (-18000))) =
      true := by
    decide +kernel
  simp only [Option.any_eq_true, Bool.and_eq_true] at hfacts
  obtain ⟨package, hp, route, hr, htruck, result, hresult, hcapacity⟩ := hfacts
  obtain ⟨truck, ht⟩ := Option.isSome_iff_exists.mp htruck
  rw [Option.join_eq_some_iff, toOption_eq_some_iff] at hresult
  obtain ⟨results, hrun, hall⟩ : ∃ results,
      FindSuitableRoutesForPackageUseCase.execute twoLegWorld (hour 4) 3 = .ok results ∧
      ∀ r route found, twoLegWorld.routes.find? r = some route →
        FindSuitableRoutesForPackageUseCase.suitableRoute twoLegWorld (hour 4) package route =
          .ok (some found) → found ∈ results :=
    FindSuitableRoutesForPackageUseCase.exists_execute hp
  have hid := (FindSuitableRoutesForPackageUseCase.suitableRoute_eq_some hresult).2.1
  have hkey : route.routeId = 1 := Store.key_of_find? hr
  exact ⟨package, route, truck, result, results, hp, hr, ht, hrun, hall 1 route result hr hresult,
    hid.trans hkey, of_decide_eq_true hcapacity⟩

/-- In a reachable world a suitable route reports less free capacity than the package needs. -/
theorem not_free_capacity_twoLeg : Reachable .asciiOnly fleet (some (hour 3)) twoLegWorld ∧
    ∃ package route truck result results, twoLegWorld.packages.find? 3 = some package ∧
      twoLegWorld.routes.find? 1 = some route ∧ twoLegWorld.truckOf route = some truck ∧
      FindSuitableRoutesForPackageUseCase.execute twoLegWorld (hour 4) 3 = .ok results ∧
      result ∈ results ∧ result.routeId = 1 ∧ result.capacityLeft = some (-18000) ∧
      ¬ result.ReportsFreeCapacity twoLegWorld route truck package := by
  obtain ⟨package, route, truck, result, results, hp, hr, ht, hrun, hmem, hid, hcapacity⟩ :=
    twoLeg_facts
  refine ⟨reachable_twoLeg, package, route, truck, result, results, hp, hr, ht, hrun, hmem, hid,
    hcapacity, ?_⟩
  rintro ⟨left, hleft, hpos, -⟩
  rw [hcapacity, Option.some.injEq] at hleft
  exact absurd hpos (by rw [← hleft]; decide)

/-- The criterion, for the route of two legs and the result that lists it. -/
theorem free_capacity_iff_twoLeg : ∃ package route truck result results,
    twoLegWorld.packages.find? 3 = some package ∧ twoLegWorld.routes.find? 1 = some route ∧
    twoLegWorld.truckOf route = some truck ∧
    FindSuitableRoutesForPackageUseCase.execute twoLegWorld (hour 4) 3 = .ok results ∧
    result ∈ results ∧ result.routeId = 1 ∧
    (SuitableRouteForPackage.ReportsFreeCapacity result twoLegWorld route truck package ↔
      route.CarriesTogether (twoLegWorld.packagesOf route) package.startLocation
        package.endLocation) := by
  obtain ⟨package, route, truck, result, results, hp, hr, ht, hrun, hmem, hid, -⟩ := twoLeg_facts
  exact ⟨package, route, truck, result, results, hp, hr, ht, hrun, hmem, hid,
    FindSuitableRoutesForPackageUseCase.free_capacity_iff hp hrun hmem (hid.symm ▸ hr) ht⟩

end Scenario
end FleetFlow
