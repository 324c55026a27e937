import FleetFlow.Database.Restored
import FleetFlow.Overview.Counts
import FleetFlow.Snapshot.SegmentLoads

/-!
# Routes under way

A route is shown while it is under way. The overview of the live route and the overview that is
mapped from its rows are one.
-/

namespace FleetFlow

open Database

variable {generatedAt now : Datetime}

/-- A route that has left and has not been completed, and that is not past its final arrival. -/
def DeliveryRoute.UnderWay (generatedAt : Datetime) (route : DeliveryRoute) : Prop :=
  route.status ≠ .completed ∧
    ∃ s ∈ route.plan.schedule?, s.departureTime ≤ generatedAt ∧ generatedAt ≤ s.etaFinal

/-! ### Positions -/

namespace RouteSchedule

variable {schedule : RouteSchedule}

/-- Between departure and final arrival both mappers show the same position. -/
theorem exists_activePosition (hdep : schedule.departureTime ≤ now)
    (hend : now ≤ schedule.etaFinal) :
    ∃ position, ((schedule.positionAt now).kind = .atStop ∨
        (schedule.positionAt now).kind = .inTransit) ∧
      InMemoryFleetOverviewQuery.mapActivePosition (schedule.positionAt now) = .ok position ∧
      Database.mapActivePosition (schedule.positionAt now) = .ok (some position) := by
  rcases eq_or_lt_of_le hend with heq | hlt
  · rw [heq, positionAt_etaFinal]
    exact ⟨_, .inl rfl, rfl, rfl⟩
  · obtain ⟨i, a, ha, hat⟩ | ⟨i, a, b, ha, hb, hreached, hnext⟩ := atStop_or_inTransit hdep hlt
    · rw [positionAt_atStop ha hat]
      exact ⟨_, .inl rfl, rfl, rfl⟩
    · rw [positionAt_inTransit ha hb hreached hnext]
      exact ⟨_, .inr rfl, rfl, rfl⟩

/-- Before departure and after the final arrival no position is shown. -/
theorem no_activePosition (h : ¬ (schedule.departureTime ≤ now ∧ now ≤ schedule.etaFinal)) :
    ¬ ((schedule.positionAt now).kind = .atStop ∨ (schedule.positionAt now).kind = .inTransit) ∧
      Database.mapActivePosition (schedule.positionAt now) = .ok none := by
  by_cases hdep : schedule.departureTime ≤ now
  · rw [positionAt_afterEnd (lt_of_not_ge fun hle ↦ h ⟨hdep, hle⟩)]
    exact ⟨by simp, rfl⟩
  · rw [positionAt_beforeStart (lt_of_not_ge hdep)]
    exact ⟨by simp, rfl⟩

end RouteSchedule

/-! ### The overview of a live route -/

/-- Packages without negative weights put no negative load on a route. -/
theorem RouteLoadCalculator.zero_le_maximumSegmentLoad {locations : List LocationCode}
    {packages : List PackageLoad} (hw : ∀ package ∈ packages, 0 ≤ package.weight) :
    0 ≤ maximumSegmentLoad locations packages none := by
  rw [maximumSegmentLoad_eq]
  cases hm : ((List.range (locations.length - 1)).map
      (legLoad locations (packages ++ (none : Option PackageLoad).toList))).max? with
  | none => exact le_refl _
  | some m =>
    obtain ⟨hmem, -⟩ := List.max?_eq_some_iff.mp hm
    obtain ⟨k, -, rfl⟩ := List.mem_map.mp hmem
    rw [Option.getD_some]
    apply List.sum_nonneg
    intro weight hweight
    obtain ⟨package, hpackage, rfl⟩ := List.mem_map.mp hweight
    apply hw
    simpa using (List.mem_filter.mp hpackage).1

/-- A positive capacity makes an assigned truck. -/
theorem AssignedTruckOverview.exists_new {truckId capacity : Int} (h : 0 < capacity) :
    ∃ overview, new truckId capacity = .ok overview := by
  unfold new
  rw [dif_pos (Shared.requirePositiveInt_of_pos h)]
  exact ⟨_, rfl⟩

/-- The parts of an assigned truck. -/
theorem AssignedTruckOverview.fields_of_new {truckId capacity : Int}
    {overview : AssignedTruckOverview} (h : new truckId capacity = .ok overview) :
    overview.truckId = truckId ∧ overview.capacity = capacity := by
  unfold new at h
  split at h
  · rw [← Except.ok.inj h]
    exact ⟨rfl, rfl⟩
  · cases h

namespace InMemoryFleetOverviewQuery

/-- The overview of a route, where it is under way. -/
def shown? (generatedAt : Datetime) (cell : RouteCell) : Option ActiveRouteOverview :=
  let position := cell.route.currentPosition generatedAt
  if cell.route.status ≠ .completed ∧ (position.kind = .atStop ∨ position.kind = .inTransit) then
    (mapActiveRoute cell position).toOption
  else none

/-- A route whose position is shown has an overview. -/
theorem exists_mapActiveRoute {cell : RouteCell} {position : RoutePosition}
    {active : ActiveRoutePosition} (h : mapActivePosition position = .ok active) :
    ∃ overview, mapActiveRoute cell position = .ok overview := by
  have hload : 0 ≤ cell.route.maximumSegmentLoad cell.packages none := by
    apply RouteLoadCalculator.zero_le_maximumSegmentLoad
    intro load hmem
    obtain ⟨package, -, rfl⟩ := List.mem_map.mp hmem
    exact package.weight_pos.le
  obtain ⟨truck, htruck⟩ : ∃ overview, (cell.truck.mapM fun truck ↦
      AssignedTruckOverview.new truck.vehicleId truck.capacity) = .ok overview := by
    cases hcell : cell.truck with
    | none => exact ⟨none, rfl⟩
    | some truck =>
      obtain ⟨overview, hnew⟩ := AssignedTruckOverview.exists_new truck.valid.2.1
      refine ⟨some overview, ?_⟩
      rw [Option.mapM_some, hnew]
      rfl
  unfold mapActiveRoute
  rw [h, ok_bind, htruck, ok_bind]
  unfold ActiveRouteOverview.new
  rw [dif_pos hload]
  exact ⟨_, rfl⟩

section Shown

variable {cell : RouteCell} {s : RouteSchedule} (hs : cell.route.plan.schedule? = some s)
include hs

/-- A route that is not completed is shown from its departure to its final arrival. -/
theorem exists_shown (hopen : cell.route.status ≠ .completed)
    (hactive : s.departureTime ≤ generatedAt ∧ generatedAt ≤ s.etaFinal) :
    ∃ position overview,
      mapActivePosition (s.positionAt generatedAt) = .ok position ∧
      Database.mapActivePosition (s.positionAt generatedAt) = .ok (some position) ∧
      mapActiveRoute cell (s.positionAt generatedAt) = .ok overview ∧
      shown? generatedAt cell = some overview := by
  have hposition : cell.route.currentPosition generatedAt = s.positionAt generatedAt := by
    rw [DeliveryRoute.currentPosition, hs]
  obtain ⟨position, hkind, hlive, hrow⟩ :=
    RouteSchedule.exists_activePosition hactive.1 hactive.2
  obtain ⟨overview, hoverview⟩ : ∃ overview,
      mapActiveRoute cell (s.positionAt generatedAt) = .ok overview := exists_mapActiveRoute hlive
  refine ⟨position, overview, hlive, hrow, hoverview, ?_⟩
  unfold shown?
  dsimp only
  rw [hposition, if_pos ⟨hopen, hkind⟩]
  exact toOption_eq_some_iff.mpr hoverview

/-- A route is not shown before its departure or after its final arrival. -/
theorem shown?_eq_none
    (hinactive : ¬ (s.departureTime ≤ generatedAt ∧ generatedAt ≤ s.etaFinal)) :
    Database.mapActivePosition (s.positionAt generatedAt) = .ok none ∧
      shown? generatedAt cell = none := by
  have hposition : cell.route.currentPosition generatedAt = s.positionAt generatedAt := by
    rw [DeliveryRoute.currentPosition, hs]
  obtain ⟨hkind, hrow⟩ := RouteSchedule.no_activePosition hinactive
  refine ⟨hrow, ?_⟩
  unfold shown?
  dsimp only
  rw [hposition, if_neg fun h ↦ hkind h.2]

end Shown

variable {cell : RouteCell} {overview : ActiveRouteOverview}

/-- A route is shown exactly while it is under way. -/
theorem isSome_shown_iff :
    (shown? generatedAt cell).isSome ↔ cell.route.UnderWay generatedAt := by
  constructor
  · intro h
    obtain ⟨overview, hshown⟩ := Option.isSome_iff_exists.mp h
    have hactive : cell.route.status ≠ .completed := by
      intro hcompleted
      unfold shown? at hshown
      rw [if_neg fun hc ↦ hc.1 hcompleted] at hshown
      cases hshown
    cases hs : cell.route.plan.schedule? with
    | none =>
      have hkind : (cell.route.currentPosition generatedAt).kind = .unscheduled := by
        rw [DeliveryRoute.currentPosition, hs]
      unfold shown? at hshown
      dsimp only at hshown
      rw [hkind] at hshown
      simp at hshown
    | some s =>
      refine ⟨hactive, s, hs, ?_⟩
      by_contra hinactive
      rw [(shown?_eq_none hs hinactive).2] at hshown
      cases hshown
  · rintro ⟨hopen, s, hs, hbetween⟩
    obtain ⟨_, overview, -, -, -, hshown⟩ := exists_shown hs hopen hbetween
    rw [hshown]
    rfl

/-- The parts of the overview of a route. -/
theorem fields_of_shown (h : shown? generatedAt cell = some overview) :
    ∃ s position truck, cell.route.plan.schedule? = some s ∧
      (s.departureTime ≤ generatedAt ∧ generatedAt ≤ s.etaFinal) ∧
      mapActivePosition (s.positionAt generatedAt) = .ok position ∧
      (cell.truck.mapM fun truck ↦ AssignedTruckOverview.new truck.vehicleId truck.capacity) =
        .ok truck ∧
      overview.toActiveRouteFields = {
        routeId := cell.route.routeId
        status := cell.route.status
        startLocation := cell.route.startLocation
        endLocation := cell.route.endLocation
        position
        assignedPackageCount := cell.packages.length
        truck
        maximumSegmentLoad := cell.route.maximumSegmentLoad cell.packages none } := by
  have hsome : (shown? generatedAt cell).isSome := by rw [h]; rfl
  obtain ⟨hopen, s, hs, hbetween⟩ := isSome_shown_iff.mp hsome
  obtain ⟨position, other, hposition, -, hmap, hshown⟩ := exists_shown hs hopen hbetween
  rw [h, Option.some.injEq] at hshown
  unfold mapActiveRoute at hmap
  rw [hposition, ok_bind] at hmap
  obtain ⟨truck, htruck, hnew⟩ := except_bind_eq_ok_iff.mp hmap
  refine ⟨s, position, truck, hs, hbetween, hposition, htruck, ?_⟩
  unfold ActiveRouteOverview.new at hnew
  split at hnew
  · rw [hshown, ← Except.ok.inj hnew]
  · cases hnew

end InMemoryFleetOverviewQuery

/-! ### The overview of the rows of a route -/

/-- The rows of an active route. -/
def DeliveryRoute.activeRows (route : DeliveryRoute) (truckCapacity : Option Int) :
    List ActiveRouteJoin :=
  (stopRows route).map fun stop ↦ ⟨.ofRoute route, stop, truckCapacity⟩

/-- The rows of the packages of a route. -/
def World.activePackageRows (w : World) (route : DeliveryRoute) : List PackageRow :=
  (w.packagesOf route).map PackageRow.ofPackage

namespace Database

variable {w : World} {route : DeliveryRoute} {s : RouteSchedule} {r : Int}

/-- The stop orders of a route count from zero. -/
theorem stopOrder_stopRows :
    (stopRows route).map RouteStopRow.stopOrder =
      (List.range route.locations.length).map Int.ofNat := by
  unfold stopRows
  rw [List.map_map]
  have hindex : ((fun stop : RouteStopRow ↦ stop.stopOrder) ∘ fun stop : LocationCode × Nat ↦
      (⟨route.routeId, stop.2, stop.1⟩ : RouteStopRow)) = Int.ofNat ∘ Prod.snd := rfl
  rw [hindex, ← List.map_map, List.zipIdx_map_snd, List.range_eq_range']

/-- The locations of the stops of a route. -/
theorem locationCode_stopRows :
    (stopRows route).map RouteStopRow.locationCode = route.locations := by
  unfold stopRows
  rw [List.map_map]
  exact List.zipIdx_map_fst _ _

/-- The stops of a route are sorted by their order. -/
theorem sorted_stopRows :
    (stopRows route).Pairwise fun a b ↦ a.stopOrder < b.stopOrder := by
  have horders : ((stopRows route).map RouteStopRow.stopOrder).Pairwise (· < ·) := by
    rw [stopOrder_stopRows, List.pairwise_map]
    exact List.pairwise_lt_range.imp fun hlt ↦ Int.ofNat_lt.mpr hlt
  exact List.pairwise_map.mp horders

/-- The stops of a route come back sorted from its rows. -/
theorem orderBy_stopRows {stops : List RouteStopRow} (h : stops.Perm (stopRows route)) :
    orderBy RouteStopRow.stopOrder stops = stopRows route :=
  mergeSort_eq_of_perm h sorted_stopRows

/-- The orders of the stops of a route are contiguous. -/
theorem requireContiguous_stopRows {routeId : Int} :
    requireContiguous routeId ((stopRows route).map RouteStopRow.stopOrder) = .ok () := by
  unfold requireContiguous
  rw [require_eq_ok_iff, List.length_map, stopOrder_stopRows]
  unfold stopRows
  rw [List.length_map, List.length_zipIdx]

/-- A route with a schedule has a typed row. -/
theorem asActiveRouteRow_eq (hs : route.plan.schedule? = some s) {truck : Option Truck}
    (htruck : truck.map Truck.vehicleId = route.truck) (stop : RouteStopRow) :
    asActiveRouteRow ⟨.ofRoute route, stop, truck.map Truck.capacity⟩ = .ok {
      routeId := route.routeId
      departureTime := s.departureTime
      status := route.status
      truckVehicleId := route.truck
      truckCapacity := truck.map Truck.capacity } := by
  have hdeparture : (RouteRow.ofRoute route).departureTime = some s.departureTime := by
    simp [RouteRow.ofRoute, DeliveryRoute.departureTime, RoutePlan.departureTime, hs]
  have hvehicle : Shared.requireOptionalPositiveInt route.truck "truck_vehicle_id" =
      .ok route.truck := by
    apply Shared.requireOptionalPositiveInt_of_pos
    intro t ht
    rw [← htruck] at ht
    obtain ⟨truck, -, rfl⟩ := Option.map_eq_some_iff.mp ht
    exact truck.valid.1
  have hcapacity : Shared.requireOptionalPositiveInt (truck.map Truck.capacity) "truck_capacity" =
      .ok (truck.map Truck.capacity) := by
    apply Shared.requireOptionalPositiveInt_of_pos
    intro capacity hcapacity
    obtain ⟨truck, -, rfl⟩ := Option.map_eq_some_iff.mp hcapacity
    exact truck.valid.2.1
  unfold asActiveRouteRow
  dsimp only
  rw [hdeparture]
  unfold RouteRow.ofRoute
  dsimp only
  rw [Shared.requirePositiveInt_of_pos route.routeId_pos, ok_bind, hvehicle, ok_bind, hcapacity,
    ok_bind]

/-- A package of an active route, as its row is read. -/
def ActiveRoutePackageRow.ofPackage (routeId : Int) (package : DeliveryPackage) :
    ActiveRoutePackageRow :=
  ⟨routeId, package.packageId, package.load⟩

/-- A package of a route has a typed row. -/
theorem asActiveRoutePackageRow_eq {package : DeliveryPackage} (hpos : 0 < r)
    (hroute : package.routeId = some r) :
    asActiveRoutePackageRow (.ofPackage package) = .ok (.ofPackage r package) := by
  have hid : requireRouteId (.ofPackage package) = .ok r := by
    unfold requireRouteId PackageRow.ofPackage
    rw [hroute]
    exact Shared.requirePositiveInt_of_pos hpos
  unfold asActiveRoutePackageRow
  rw [hid, ok_bind]
  unfold PackageRow.ofPackage
  dsimp only
  rw [Shared.requirePositiveInt_of_pos package.packageId_pos, ok_bind,
    require_bind_of_true package.weight_pos]
  rfl

/-- The packages of a route pass the checks of an active route. -/
theorem checkActivePackages_eq (hl : w.RouteLinked) (honPath : w.OnPath)
    (hr : w.routes.find? r = some route) {packages : List DeliveryPackage}
    (hpackages : packages.Perm (w.packagesOf route)) :
    checkActivePackages r route.plan.path (packages.map (.ofPackage r)) = .ok () := by
  have hids : (packages.map DeliveryPackage.packageId).Nodup := by
    apply (hpackages.map _).nodup_iff.mpr
    rw [hl.map_packagesOf hr]
    exact hl.nodup hr
  unfold checkActivePackages
  rw [check_bind_eq_ok_iff, require_bind_eq_ok_iff]
  refine ⟨forM_eq_ok_iff.mpr ?_, ?_, forM_eq_ok_iff.mpr ?_⟩
  · intro row hrow
    obtain ⟨package, -, rfl⟩ := List.mem_map.mp hrow
    exact require_eq_ok_iff.mpr rfl
  · rw [List.map_map]
    exact hids
  · intro row hrow
    obtain ⟨package, hpackage, rfl⟩ := List.mem_map.mp hrow
    obtain ⟨hlisted, hfind⟩ := World.mem_packagesOf.mp (hpackages.mem_iff.mp hpackage)
    exact require_eq_ok_iff.mpr (honPath hr hlisted hfind)

/-- The rows of a route that is not completed give the overview of the live route. -/
theorem mapActiveRouteOverview_eq (hl : w.RouteLinked) (honPath : w.OnPath)
    (hr : w.routes.find? r = some route) (hs : route.plan.schedule? = some s)
    (hopen : route.status ≠ .completed) {rows : List ActiveRouteJoin}
    (hrows : rows.Perm (route.activeRows ((w.truckOf route).map Truck.capacity)))
    {packageRows : List PackageRow} (hpackages : packageRows.Perm (w.activePackageRows route)) :
    mapActiveRouteOverview generatedAt rows packageRows =
      .ok (InMemoryFleetOverviewQuery.shown? generatedAt (w.cell route)) := by
  have hid : route.routeId = r := Store.key_of_find? hr
  have htruck := hl.map_truckOf hr
  have hbuild : RouteScheduler.build route.plan.path.locations s.departureTime = .ok s :=
    route.plan.built s hs
  obtain ⟨stops, hstops, rfl⟩ := exists_perm_of_perm_map hrows
  obtain ⟨packages, hlisted, rfl⟩ := exists_perm_of_perm_map hpackages
  -- Every row of the route has the same columns of the route.
  have htyped := mapM_eq_ok_iff.mpr (List.forall₂_map_left_iff.mpr (List.forall₂_map_right_iff.mpr
    (List.forall₂_same.mpr fun stop (_ : stop ∈ stops) ↦ asActiveRouteRow_eq hs htruck stop)))
  have hread : (stops.map fun stop ↦ (⟨.ofRoute route, stop, (w.truckOf route).map Truck.capacity⟩ :
      ActiveRouteJoin)).mapM asActiveRouteStopRow = .ok stops := by
    apply mapM_map_eq_ok
    intro stop hstop
    obtain ⟨entry, -, rfl⟩ := List.mem_map.mp (hstops.mem_iff.mp hstop)
    unfold asActiveRouteStopRow
    rw [require_bind_of_true (Int.natCast_nonneg _)]
  have hloads : (packages.map PackageRow.ofPackage).mapM asActiveRoutePackageRow =
      .ok (packages.map (.ofPackage r)) := by
    rw [mapM_eq_ok_iff, List.forall₂_map_left_iff, List.forall₂_map_right_iff, List.forall₂_same]
    intro package hpackage
    obtain ⟨hmem, hfind⟩ := World.mem_packagesOf.mp (hlisted.mem_iff.mp hpackage)
    apply asActiveRoutePackageRow_eq (hid ▸ route.routeId_pos)
    rw [hl.routeId hfind]
    obtain ⟨other, hother, hroute⟩ := hl.package_of_route hr hmem
    rw [hfind, Option.some.injEq] at hother
    rw [hother, hroute]
  have hpath : RoutePath.ofLocations ((stopRows route).map RouteStopRow.locationCode) =
      .ok route.plan.path := by
    rw [locationCode_stopRows]
    exact RoutePath.ofLocations_eq_ok_iff.mpr rfl
  have hmaximum : RouteLoadCalculator.maximumSegmentLoad route.plan.path.locations
      ((packages.map (ActiveRoutePackageRow.ofPackage r)).map ActiveRoutePackageRow.load) none =
        route.maximumSegmentLoad (w.packagesOf route) none := by
    rw [List.map_map]
    exact RouteLoadCalculator.maximumSegmentLoad_perm (hlisted.map DeliveryPackage.load) none
  have hcount : (packages.map (ActiveRoutePackageRow.ofPackage r)).length =
      (w.packagesOf route).length := by
    rw [List.length_map, hlisted.length_eq]
  obtain ⟨stop, rest, hcons⟩ : ∃ stop rest, stops = stop :: rest := by
    apply List.exists_cons_of_length_pos
    have htwo : 2 ≤ route.locations.length := route.plan.path.two_le_length
    rw [hstops.length_eq]
    unfold stopRows
    rw [List.length_map, List.length_zipIdx]
    omega
  unfold mapActiveRouteOverview
  rw [htyped, ok_bind, hcons, List.map_cons]
  dsimp only
  rw [require_bind_of_true, require_bind_of_true, ← hcons, hread, ok_bind,
    orderBy_stopRows hstops, hid, requireContiguous_stopRows, ok_bind, hpath, ok_bind, hloads,
    ok_bind, checkActivePackages_eq hl honPath hr hlisted, ok_bind, hbuild, ok_bind]
  · have hcell : (w.cell route).route.plan.schedule? = some s := hs
    by_cases hactive : s.departureTime ≤ generatedAt ∧ generatedAt ≤ s.etaFinal
    · obtain ⟨position, overview, hlive, hrow, hoverview, hshown⟩ :=
        InMemoryFleetOverviewQuery.exists_shown hcell hopen hactive
      unfold InMemoryFleetOverviewQuery.mapActiveRoute World.cell at hoverview
      dsimp only at hoverview
      rw [hlive, ok_bind, hid] at hoverview
      rw [hshown, hrow, ok_bind]
      dsimp only
      rw [hmaximum, hcount]
      cases htruckOf : w.truckOf route with
      | none =>
        rw [htruckOf] at hoverview htruck
        rw [← htruck]
        exact except_bind_eq_ok_iff.mpr
          ⟨none, rfl, except_bind_eq_ok_iff.mpr ⟨overview, hoverview, rfl⟩⟩
      | some truck =>
        rw [htruckOf] at hoverview htruck
        rw [← htruck]
        obtain ⟨assigned, hassigned⟩ := AssignedTruckOverview.exists_new truck.valid.2.1
        rw [Option.mapM_some, hassigned] at hoverview
        dsimp only [Option.map_some]
        rw [hassigned]
        exact except_bind_eq_ok_iff.mpr
          ⟨some assigned, rfl, except_bind_eq_ok_iff.mpr ⟨overview, hoverview, rfl⟩⟩
    · obtain ⟨hrow, hshown⟩ :=
        InMemoryFleetOverviewQuery.shown?_eq_none hcell hactive
      rw [hshown, hrow, ok_bind]
  · rw [← htruck, Option.isNone_map, Option.isNone_map]
  · intro other hother
    obtain ⟨_, -, rfl⟩ := List.mem_map.mp hother
    rfl

end Database
end FleetFlow
