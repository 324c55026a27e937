import FleetFlow.Overview.Batches

/-!
# The loop over the candidates

The batches of the loop are the pages of the departed routes, and keeping the best overviews of
each batch keeps the best overviews of all of them.
-/

namespace FleetFlow

open Database

variable {generatedAt : Datetime} {w : World} {tables : Tables}

/-- The routes that may be under way. -/
def World.departedRoutes (w : World) (generatedAt : Datetime) : List DeliveryRoute :=
  w.routes.values.filter fun route ↦ (RouteRow.ofRoute route).Departed generatedAt

theorem World.mem_departedRoutes {route : DeliveryRoute} :
    route ∈ w.departedRoutes generatedAt ↔
      w.routes.find? route.routeId = some route ∧
        (RouteRow.ofRoute route).Departed generatedAt := by
  unfold World.departedRoutes
  rw [List.mem_filter, Store.mem_values, decide_eq_true_eq]

theorem World.sorted_departedRoutes :
    (w.departedRoutes generatedAt).Pairwise fun a b ↦ a.routeId < b.routeId := by
  have hsorted : w.routes.values.Pairwise fun a b ↦ a.routeId < b.routeId :=
    List.pairwise_map.mp Store.sorted_values
  exact hsorted.filter _

/-- A departed route has a schedule and is not completed. -/
theorem Database.RouteRow.Departed.exists_schedule {route : DeliveryRoute}
    (h : (RouteRow.ofRoute route).Departed generatedAt) :
    route.status ≠ .completed ∧ ∃ s, route.plan.schedule? = some s := by
  obtain ⟨hstatus, t, ht, -⟩ := h
  constructor
  · intro hcompleted
    rcases hstatus with h | h
    all_goals
      have hcontra : route.status = _ := h
      rw [hcompleted] at hcontra
      cases hcontra
  · have hdeparture : route.plan.schedule?.map RouteSchedule.departureTime = some t := ht
    obtain ⟨s, hs, -⟩ := Option.map_eq_some_iff.mp hdeparture
    exact ⟨s, hs⟩

namespace Database

/-- Each route has a stop. -/
theorem exists_stopRow (route : DeliveryRoute) : ∃ stop, stop ∈ stopRows route := by
  apply List.exists_mem_of_length_pos
  have htwo : 2 ≤ route.locations.length := route.plan.path.two_le_length
  unfold stopRows
  rw [List.length_map, List.length_zipIdx]
  omega

/-- The candidates after an id are a page of the departed routes. -/
theorem candidateRoutes_eq (h : tables.Holds w) {after : Int} {limit : Nat} :
    candidateRoutes generatedAt after limit tables =
      (pageAfter DeliveryRoute.routeId limit after (w.departedRoutes generatedAt)).map
        RouteRow.ofRoute := by
  have hperm : (tables.routes.filter fun row ↦ row.Departed generatedAt ∧ after < row.routeId ∧
      ∃ stop ∈ tables.routeStops, stop.routeId = row.routeId).Perm
      (((w.departedRoutes generatedAt).filter fun route ↦ after < route.routeId).map
        RouteRow.ofRoute) := by
    unfold World.departedRoutes
    rw [List.filter_filter]
    refine (h.routes.filter _).trans (List.Perm.of_eq ?_)
    rw [List.filter_map]
    congr 1
    apply List.filter_congr
    intro route hroute
    obtain ⟨stop, hstop⟩ := exists_stopRow route
    have hstored : ∃ stop ∈ tables.routeStops,
        stop.routeId = (RouteRow.ofRoute route).routeId :=
      ⟨stop, h.routeStops.mem_iff.mpr (List.mem_flatMap.mpr ⟨route, hroute, hstop⟩),
        WorldGraphLoader.routeId_of_mem_stopRows route stop hstop⟩
    simp only [Function.comp_apply, hstored, Bool.decide_and, Bool.and_comm]
    rfl
  have hsorted : (((w.departedRoutes generatedAt).filter fun route ↦ after < route.routeId).map
      RouteRow.ofRoute).Pairwise fun a b ↦ a.routeId < b.routeId := by
    rw [List.pairwise_map]
    exact World.sorted_departedRoutes.filter _
  unfold candidateRoutes orderBy pageAfter
  rw [mergeSort_eq_of_perm hperm hsorted, List.map_take]

/-! ### The rows of a page -/

/-- The row of the truck of a route. -/
theorem filter_trucks_eq (h : tables.Holds w) (hl : w.RouteLinked) {route : DeliveryRoute}
    (hr : w.routes.find? route.routeId = some route) :
    (tables.trucks.filter fun row ↦ route.truck = some row.vehicleId) =
      ((w.truckOf route).map TruckRow.ofTruck).toList := by
  unfold World.truckOf
  cases ht : route.truck with
  | none => simp
  | some t =>
    obtain ⟨truck, htruck, -⟩ := hl.truck_of_route hr ht
    have hid : truck.vehicleId = t := Store.key_of_find? htruck
    have hrow : ∀ truck : Truck, ∀ row ∈ [TruckRow.ofTruck truck],
        row.vehicleId = truck.vehicleId := by
      intro truck row hrow
      rw [List.mem_singleton.mp hrow]
      rfl
    have hown := filter_flatMap_eq TruckRow.vehicleId hrow Store.nodup_values
      (Store.mem_values_of_find? htruck)
    rw [Option.bind_some, htruck, Option.map_some, Option.toList_some]
    apply List.perm_singleton.mp
    refine (h.trucks.filter _).trans (List.Perm.of_eq ?_)
    rw [← hown, ← List.map_eq_flatMap, hid]
    apply List.filter_congr
    intro row _
    simp [eq_comm]

/-- The truck of a route is the one that its row is joined with. -/
theorem joinTruck_eq (h : tables.Holds w) (hl : w.RouteLinked) {route : DeliveryRoute}
    (hr : w.routes.find? route.routeId = some route) (stop : RouteStopRow) :
    joinTruck tables.trucks ⟨.ofRoute route, stop⟩ =
      [⟨.ofRoute route, stop, (w.truckOf route).map Truck.capacity⟩] := by
  have hfilter := filter_trucks_eq h hl hr
  unfold joinTruck
  split
  · next hnil =>
    have htruck := hfilter.symm.trans hnil
    cases htruckOf : w.truckOf route with
    | none => rfl
    | some truck =>
      rw [htruckOf] at htruck
      cases htruck
  · next row rest hcons =>
    have htruck := hfilter.symm.trans hcons
    cases htruckOf : w.truckOf route with
    | none =>
      rw [htruckOf] at htruck
      cases htruck
    | some truck =>
      rw [htruckOf, Option.map_some, Option.toList_some] at htruck
      rw [← htruck]
      rfl

/-- The statement lists the rows of a page of the departed routes. -/
theorem perm_activeRoutes (h : tables.Holds w) (hl : w.RouteLinked) {after : Int} {limit : Nat} :
    (activeRoutes generatedAt after limit tables).Perm
      ((pageAfter DeliveryRoute.routeId limit after (w.departedRoutes generatedAt)).flatMap
        fun route ↦ route.activeRows ((w.truckOf route).map Truck.capacity)) := by
  unfold activeRoutes joinStops
  refine (List.mergeSort_perm _ _).trans ?_
  rw [candidateRoutes_eq h, List.flatMap_map, List.flatMap_assoc]
  apply List.Perm.flatMap_left
  intro route hroute
  have hr : w.routes.find? route.routeId = some route := by
    have hmem := List.mem_of_mem_filter (List.mem_of_mem_take hroute)
    exact (World.mem_departedRoutes.mp hmem).1
  have hown := filter_flatMap_eq RouteStopRow.routeId WorldGraphLoader.routeId_of_mem_stopRows
    Store.nodup_values (Store.mem_values_of_find? hr)
  have hstops : (tables.routeStops.filter fun stop ↦
      stop.routeId = (RouteRow.ofRoute route).routeId).Perm (stopRows route) := by
    rw [← hown]
    exact h.routeStops.filter _
  rw [List.flatMap_map]
  have hjoin : (fun stop ↦ joinTruck tables.trucks ⟨.ofRoute route, stop⟩) = fun stop ↦
      [(⟨.ofRoute route, stop, (w.truckOf route).map Truck.capacity⟩ : ActiveRouteJoin)] := by
    funext stop
    exact joinTruck_eq h hl hr stop
  rw [hjoin, ← List.map_eq_flatMap]
  exact hstops.map _

/-- The statement lists the packages of a route. -/
theorem perm_activeRoutePackages (h : tables.Holds w) (hl : w.RouteLinked)
    {route : DeliveryRoute} (hr : w.routes.find? route.routeId = some route) {ids : List Int}
    (hmem : route.routeId ∈ ids) :
    ((activeRoutePackages ids tables).filter fun row ↦
      row.routeId.getD 0 = route.routeId).Perm (w.activePackageRows route) := by
  have hpackages : (w.packages.values.filter fun package ↦
      package.routeId = some route.routeId).Perm (w.packagesOf route) := by
    have hnd : (w.packagesOf route).Nodup := by
      apply List.Nodup.of_map DeliveryPackage.packageId
      rw [hl.map_packagesOf hr]
      exact hl.nodup hr
    have hvalues : w.packages.values.Nodup :=
      List.Nodup.of_map DeliveryPackage.packageId Store.nodup_values
    apply (List.perm_ext_iff_of_nodup (hvalues.filter _) hnd).mpr
    intro package
    rw [List.mem_filter, Store.mem_values, decide_eq_true_eq, World.mem_packagesOf]
    constructor
    · rintro ⟨hfind, hroute⟩
      rw [hl.routeId hfind] at hroute
      obtain ⟨other, hother, hlisted⟩ := hl.route_of_package hfind hroute
      rw [hr, Option.some.injEq] at hother
      exact ⟨hother ▸ hlisted, hfind⟩
    · rintro ⟨hlisted, hfind⟩
      obtain ⟨other, hother, hroute⟩ := hl.package_of_route hr hlisted
      rw [hfind, Option.some.injEq] at hother
      refine ⟨hfind, ?_⟩
      rw [hl.routeId hfind, hother, hroute]
  unfold activeRoutePackages World.activePackageRows
  refine ((List.mergeSort_perm _ _).filter _).trans ?_
  rw [List.filter_filter]
  refine (h.packages.filter _).trans ?_
  rw [List.filter_map]
  refine List.Perm.map _ (List.Perm.trans (List.Perm.of_eq ?_) hpackages)
  apply List.filter_congr
  intro package _
  show (decide (package.routeId.getD 0 = route.routeId) &&
    decide (∃ r ∈ package.routeId, r ∈ ids)) = decide (package.routeId = some route.routeId)
  cases package.routeId with
  | none => simp
  | some r =>
    by_cases hid : r = route.routeId
    · simp [hid, hmem]
    · simp [hid]

section Page

variable (generatedAt w)

/-- One page of the departed routes. -/
def departedPage (limit : Nat) (after : Int) : List DeliveryRoute :=
  pageAfter DeliveryRoute.routeId limit after (w.departedRoutes generatedAt)

variable {generatedAt w} {limit : Nat} {after : Int}

theorem mem_departedRoutes_of_mem_page {route : DeliveryRoute}
    (h : route ∈ departedPage generatedAt w limit after) :
    w.routes.find? route.routeId = some route ∧ (RouteRow.ofRoute route).Departed generatedAt :=
  World.mem_departedRoutes.mp (List.mem_of_mem_filter (List.mem_of_mem_take h))

theorem sorted_departedPage :
    (departedPage generatedAt w limit after).Pairwise fun a b ↦ a.routeId < b.routeId :=
  (World.sorted_departedRoutes.filter _).sublist (List.take_sublist _ _)

/-- The ids of the rows are those of the routes of the page. -/
theorem mem_routeIds_activeRoutes (h : tables.Holds w) (hl : w.RouteLinked) {r : Int} :
    r ∈ (activeRoutes generatedAt after limit tables).map (fun row ↦ row.route.routeId) ↔
      r ∈ (departedPage generatedAt w limit after).map DeliveryRoute.routeId := by
  rw [((perm_activeRoutes h hl).map _).mem_iff, List.map_flatMap, List.mem_flatMap, List.mem_map]
  constructor
  · rintro ⟨route, hroute, hr⟩
    obtain ⟨row, hrow, rfl⟩ := List.mem_map.mp hr
    obtain ⟨stop, -, rfl⟩ := List.mem_map.mp hrow
    exact ⟨route, hroute, rfl⟩
  · rintro ⟨route, hroute, rfl⟩
    obtain ⟨stop, hstop⟩ := exists_stopRow route
    exact ⟨route, hroute, List.mem_map.mpr ⟨_, List.mem_map_of_mem hstop, rfl⟩⟩

/-- What the statements read of a page is a batch. -/
theorem batchOf_departedPage (h : tables.Holds w) (hl : w.RouteLinked) :
    BatchOf w (departedPage generatedAt w limit after) (activeRoutes generatedAt after limit tables)
      (activeRoutePackages
        ((departedPage generatedAt w limit after).map DeliveryRoute.routeId) tables) where
  stored := fun route hroute ↦ (mem_departedRoutes_of_mem_page hroute).1
  departing := fun route hroute ↦ (mem_departedRoutes_of_mem_page hroute).2.exists_schedule
  sorted := sorted_departedPage
  ids := fun r ↦ mem_routeIds_activeRoutes h hl
  rows := by
    intro route hroute
    have hnd : ((departedPage generatedAt w limit after).map DeliveryRoute.routeId).Nodup :=
      List.pairwise_map.mpr (sorted_departedPage.imp fun hlt ↦ hlt.ne)
    have hrow : ∀ route : DeliveryRoute, ∀ row ∈ route.activeRows
        ((w.truckOf route).map Truck.capacity), row.route.routeId = route.routeId := by
      intro route row hrow
      obtain ⟨stop, -, rfl⟩ := List.mem_map.mp hrow
      rfl
    rw [← filter_flatMap_eq (fun row : ActiveRouteJoin ↦ row.route.routeId) hrow hnd hroute]
    exact (perm_activeRoutes h hl).filter _
  packageIds := by
    intro row hrow
    have hmem := (List.mergeSort_perm _ _).mem_iff.mp hrow
    obtain ⟨r, hr, hlisted⟩ := of_decide_eq_true (List.mem_filter.mp hmem).2
    exact ⟨r, hlisted, hr⟩
  packageRows := fun route hroute ↦
    perm_activeRoutePackages h hl (mem_departedRoutes_of_mem_page hroute).1
      (List.mem_map_of_mem hroute)

/-- The ids of a batch, each once and sorted. -/
theorem orderBy_routeIds (h : tables.Holds w) (hl : w.RouteLinked) :
    orderBy (fun id ↦ id) ((activeRoutes generatedAt after limit tables).map
        fun row ↦ row.route.routeId).dedup =
      (departedPage generatedAt w limit after).map DeliveryRoute.routeId := by
  have hsorted : ((departedPage generatedAt w limit after).map DeliveryRoute.routeId).Pairwise
      (· < ·) := List.pairwise_map.mpr sorted_departedPage
  apply mergeSort_eq_of_perm _ hsorted
  apply (List.perm_ext_iff_of_nodup (List.nodup_dedup _) (hsorted.imp fun hlt ↦ hlt.ne)).mpr
  intro r
  rw [List.mem_dedup, mem_routeIds_activeRoutes h hl]

end Page
end Database

/-! ### The loop -/

namespace PostgresFleetOverviewQuery

/-- One batch, which keeps the first overviews. -/
def keepBatch (generatedAt : Datetime) (w : World) (n : Nat) (selected : List ActiveRouteOverview)
    (page : List DeliveryRoute) : Except PyError (List ActiveRouteOverview) :=
  .ok (nsmallest (ActiveRouteOverview.rank generatedAt) n (selected ++
    nsmallest (ActiveRouteOverview.rank generatedAt) n (shownRoutes generatedAt w page)))

variable {limit : Int} {batchSize : Nat}

/-- The loop over the tables goes through the pages of the departed routes. -/
theorem loadActiveRouteOverviews_eq (h : tables.Holds w) (hl : w.RouteLinked) (honPath : w.OnPath)
    (hlimit : requireActiveRouteLimit limit = .ok ()) (rounds : Nat) (after : Int)
    (selected : List ActiveRouteOverview) :
    loadActiveRouteOverviews generatedAt limit batchSize tables rounds after selected =
      foldPages DeliveryRoute.routeId batchSize (keepBatch generatedAt w limit.toNat)
        (w.departedRoutes generatedAt) rounds after selected := by
  induction rounds generalizing after selected with
  | zero => rfl
  | succ rounds ih =>
    have hids : ∀ r, r ∈ (activeRoutes generatedAt after batchSize tables).map
        (fun row ↦ row.route.routeId) ↔
          r ∈ (departedPage generatedAt w batchSize after).map DeliveryRoute.routeId := fun r ↦
      mem_routeIds_activeRoutes h hl
    have hread : (activeRoutes generatedAt after batchSize tables).mapM (fun row ↦
        Shared.requirePositiveInt row.route.routeId "route_id") =
          .ok ((activeRoutes generatedAt after batchSize tables).map
            fun row ↦ row.route.routeId) := by
      rw [mapM_eq_ok_iff, List.forall₂_map_right_iff, List.forall₂_same]
      intro row hrow
      obtain ⟨route, -, hid⟩ := List.mem_map.mp ((hids _).mp (List.mem_map_of_mem hrow))
      exact Shared.requirePositiveInt_of_pos (hid ▸ route.routeId_pos)
    unfold loadActiveRouteOverviews foldPages
    cases hlast : (pageAfter DeliveryRoute.routeId batchSize after
        (w.departedRoutes generatedAt)).getLast? with
    | none =>
      have hnil : departedPage generatedAt w batchSize after = [] :=
        List.getLast?_eq_none_iff.mp hlast
      have hrows : activeRoutes generatedAt after batchSize tables = [] := by
        have hperm : (activeRoutes generatedAt after batchSize tables).Perm
            ((departedPage generatedAt w batchSize after).flatMap fun route ↦
              route.activeRows ((w.truckOf route).map Truck.capacity)) := perm_activeRoutes h hl
        rw [hnil] at hperm
        exact List.perm_nil.mp hperm
      rw [hrows]
      rfl
    | some last =>
      have hmem : last ∈ departedPage generatedAt w batchSize after := List.mem_of_getLast? hlast
      have hafter : after < last.routeId :=
        of_decide_eq_true (List.mem_filter.mp (List.mem_of_mem_take hmem)).2
      have hne : (activeRoutes generatedAt after batchSize tables).isEmpty = false := by
        rw [List.isEmpty_eq_false_iff]
        intro hnil
        have hid := (hids _).mpr (List.mem_map_of_mem hmem)
        rw [hnil] at hid
        cases hid
      have hlastId : ((departedPage generatedAt w batchSize after).map
          DeliveryRoute.routeId).getLast? = some last.routeId := by
        rw [List.getLast?_map]
        exact congrArg (Option.map DeliveryRoute.routeId) hlast
      dsimp only
      rw [hne, if_neg (by simp), hread, ok_bind, orderBy_routeIds h hl, hlastId]
      dsimp only
      rw [require_bind_of_true hafter,
        (batchOf_departedPage h hl).mapActiveRouteOverviews_eq hl honPath hlimit, ok_bind]
      unfold selectActiveRouteOverviews
      rw [hlimit, ok_bind]
      exact ih _ _

/-- The overview of a route has its id. -/
theorem routeId_of_shown {cell : RouteCell} {overview : ActiveRouteOverview}
    (h : InMemoryFleetOverviewQuery.shown? generatedAt cell = some overview) :
    overview.routeId = cell.route.routeId := by
  obtain ⟨_, _, _, -, -, -, -, hfields⟩ := InMemoryFleetOverviewQuery.fields_of_shown h
  rw [hfields]

/-- Different routes have different ranks. -/
theorem nodup_rank_shownRoutes {routes : List DeliveryRoute}
    (hsorted : routes.Pairwise fun a b ↦ a.routeId < b.routeId) :
    ((shownRoutes generatedAt w routes).map (ActiveRouteOverview.rank generatedAt)).Nodup := by
  unfold shownRoutes
  apply List.pairwise_map.mpr
  rw [List.pairwise_filterMap]
  refine hsorted.imp fun {a b} hlt x hx y hy heq ↦ ?_
  have hids : x.routeId = y.routeId := by
    unfold ActiveRouteOverview.rank at heq
    have hpairs := congrArg (fun rank ↦ (ofLex (ofLex rank).2).2) heq
    exact hpairs
  rw [routeId_of_shown hx, routeId_of_shown hy] at hids
  have hcells : a.routeId = b.routeId := hids
  omega

/-- The loop ends, and keeps the first overviews of all departed routes. -/
theorem loadActiveRouteOverviews_eq_ok (h : tables.Holds w) (hl : w.RouteLinked)
    (honPath : w.OnPath) (hlimit : requireActiveRouteLimit limit = .ok ()) (hbatch : 0 < batchSize)
    {rounds : Nat} (hrounds : (w.departedRoutes generatedAt).length < rounds) :
    loadActiveRouteOverviews generatedAt limit batchSize tables rounds 0 [] =
      .ok (some (nsmallest (ActiveRouteOverview.rank generatedAt) limit.toNat
        (shownRoutes generatedAt w (w.departedRoutes generatedAt)))) := by
  rw [loadActiveRouteOverviews_eq h hl honPath hlimit]
  -- The overviews that are kept are always the first of the routes that are done.
  have hstep : ∀ done page rest selected, w.departedRoutes generatedAt = done ++ page ++ rest →
      page ≠ [] → selected = nsmallest (ActiveRouteOverview.rank generatedAt) limit.toNat
        (shownRoutes generatedAt w done) →
      ∃ selected', keepBatch generatedAt w limit.toNat selected page = .ok selected' ∧
        selected' = nsmallest (ActiveRouteOverview.rank generatedAt) limit.toNat
          (shownRoutes generatedAt w (done ++ page)) := by
    rintro done page rest selected hsplit - rfl
    have hsorted : (done ++ page).Pairwise fun a b ↦ a.routeId < b.routeId := by
      have hall : (done ++ page ++ rest).Pairwise fun a b ↦ a.routeId < b.routeId :=
        hsplit ▸ World.sorted_departedRoutes
      exact (List.pairwise_append.mp hall).1
    have hnd : ((shownRoutes generatedAt w (done ++ page)).map
        (ActiveRouteOverview.rank generatedAt)).Nodup := nodup_rank_shownRoutes hsorted
    refine ⟨_, rfl, ?_⟩
    unfold shownRoutes at hnd ⊢
    rw [List.filterMap_append] at hnd ⊢
    exact nsmallest_append hnd
  have hinit : [] = nsmallest (ActiveRouteOverview.rank generatedAt) limit.toNat
      (shownRoutes generatedAt w []) := by
    simp [nsmallest, shownRoutes]
  obtain ⟨selected, hloop, rfl⟩ := foldPages_inv hbatch World.sorted_departedRoutes
    (fun done selected ↦ selected = nsmallest (ActiveRouteOverview.rank generatedAt) limit.toNat
      (shownRoutes generatedAt w done)) hstep (List.nil_append _).symm hrounds
    (fun route hroute ↦ absurd hroute List.not_mem_nil) (fun route _ ↦ route.routeId_pos) hinit
  exact hloop

end PostgresFleetOverviewQuery
end FleetFlow
