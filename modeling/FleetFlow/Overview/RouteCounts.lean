import FleetFlow.Overview.Listing

/-!
# Counting routes

The traversal of the live routes counts what the statement counts. The statement cannot compute
final arrivals: it returns the departed routes as candidates, in JSON, and the mapper rebuilds the
schedule of each of them.
-/

namespace FleetFlow

open Database InMemoryFleetOverviewQuery

variable {generatedAt : Datetime} {w : World} {tables : Tables}

/-- A route that is late. -/
def DeliveryRoute.PastDue (generatedAt : Datetime) (route : DeliveryRoute) : Prop :=
  route.status ≠ .completed ∧ ∃ eta ∈ route.etaFinal, eta < generatedAt

instance (route : DeliveryRoute) : Decidable (route.PastDue generatedAt) :=
  inferInstanceAs (Decidable (_ ∧ _))

/-- The routes of a world by status. -/
def World.routeStatusCounts (w : World) : RouteStatusCounts where
  planned := w.routes.values.countP fun route ↦ route.status = .planned
  scheduled := w.routes.values.countP fun route ↦ route.status = .scheduled
  inProgress := w.routes.values.countP fun route ↦ route.status = .inProgress
  completed := w.routes.values.countP fun route ↦ route.status = .completed

/-! ### The traversal -/

namespace InMemoryFleetOverviewQuery

/-- A route at a stop or in transit has an overview. -/
theorem exists_mapActiveRoute_of_kind {cell : RouteCell}
    (h : (cell.route.currentPosition generatedAt).kind = .atStop ∨
      (cell.route.currentPosition generatedAt).kind = .inTransit) :
    ∃ overview, mapActiveRoute cell (cell.route.currentPosition generatedAt) = .ok overview := by
  unfold DeliveryRoute.currentPosition at h ⊢
  cases hs : cell.route.plan.schedule? with
  | none =>
    rw [hs] at h
    simp at h
  | some s =>
    rw [hs] at h
    dsimp only at h ⊢
    by_cases hactive : s.departureTime ≤ generatedAt ∧ generatedAt ≤ s.etaFinal
    · obtain ⟨position, -, hlive, -⟩ := RouteSchedule.exists_activePosition hactive.1 hactive.2
      exact exists_mapActiveRoute hlive
    · exact absurd h (RouteSchedule.no_activePosition hactive).1

/-- What the status of a route adds to the counters. -/
theorem RouteTally.count_eq (tally : RouteTally) (status : RouteStatus) :
    tally.count status = { tally with
      planned := tally.planned + if status = .planned then 1 else 0
      scheduled := tally.scheduled + if status = .scheduled then 1 else 0
      inProgress := tally.inProgress + if status = .inProgress then 1 else 0
      completed := tally.completed + if status = .completed then 1 else 0 } := by
  cases status <;> rfl

/-- What one route adds to the counters. -/
theorem tallyRoute_eq (tally : RouteTally) (cell : RouteCell) :
    tallyRoute generatedAt tally cell = .ok {
      planned := tally.planned + if cell.route.status = .planned then 1 else 0
      scheduled := tally.scheduled + if cell.route.status = .scheduled then 1 else 0
      inProgress := tally.inProgress + if cell.route.status = .inProgress then 1 else 0
      completed := tally.completed + if cell.route.status = .completed then 1 else 0
      pastDue := tally.pastDue + if cell.route.PastDue generatedAt then 1 else 0
      activeRoutes := tally.activeRoutes ++ (shown? generatedAt cell).toList } := by
  unfold tallyRoute
  rw [RouteTally.count_eq]
  dsimp only
  by_cases hcompleted : cell.route.status = .completed
  · have hnone : shown? generatedAt cell = none := if_neg fun h ↦ h.1 hcompleted
    have hlate : ¬ cell.route.PastDue generatedAt := fun h ↦ h.1 hcompleted
    rw [if_pos hcompleted, hnone, if_neg hlate]
    simp
  · have hlate : (∃ eta ∈ cell.route.etaFinal, eta < generatedAt) ↔
        cell.route.PastDue generatedAt := (and_iff_right hcompleted).symm
    rw [if_neg hcompleted]
    simp only [hlate]
    by_cases hactive : (cell.route.currentPosition generatedAt).kind = .atStop ∨
        (cell.route.currentPosition generatedAt).kind = .inTransit
    · obtain ⟨overview, hoverview⟩ := exists_mapActiveRoute_of_kind hactive
      have hshown : shown? generatedAt cell = some overview :=
        (if_pos ⟨hcompleted, hactive⟩).trans (toOption_eq_some_iff.mpr hoverview)
      rw [if_pos hactive, hoverview, hshown, ok_bind]
      by_cases hdue : cell.route.PastDue generatedAt <;> simp [hdue]
    · have hnone : shown? generatedAt cell = none := if_neg fun h ↦ hactive h.2
      rw [if_neg hactive, hnone]
      by_cases hdue : cell.route.PastDue generatedAt <;> simp [hdue]

/-- What the traversal of routes counts and collects. -/
theorem foldlM_tallyRoute (cells : List RouteCell) (tally : RouteTally) :
    cells.foldlM (tallyRoute generatedAt) tally = .ok {
      planned := tally.planned + cells.countP fun cell ↦ cell.route.status = .planned
      scheduled := tally.scheduled + cells.countP fun cell ↦ cell.route.status = .scheduled
      inProgress := tally.inProgress + cells.countP fun cell ↦ cell.route.status = .inProgress
      completed := tally.completed + cells.countP fun cell ↦ cell.route.status = .completed
      pastDue := tally.pastDue + cells.countP fun cell ↦ cell.route.PastDue generatedAt
      activeRoutes := tally.activeRoutes ++ cells.filterMap (shown? generatedAt) } := by
  induction cells generalizing tally with
  | nil => simp [pure, Except.pure]
  | cons cell rest ih =>
    rw [List.foldlM_cons, tallyRoute_eq, ok_bind, ih]
    simp only [List.countP_cons, decide_eq_true_eq, Except.ok.injEq, RouteTally.mk.injEq,
      List.append_assoc]
    refine ⟨by omega, by omega, by omega, by omega, by omega, ?_⟩
    cases hshown : shown? generatedAt cell with
    | none => rw [List.filterMap_cons_none hshown, Option.toList_none, List.nil_append]
    | some overview =>
      rw [List.filterMap_cons_some hshown, Option.toList_some, List.singleton_append]

end InMemoryFleetOverviewQuery

/-! ### The candidates -/

namespace Database

variable {u : UnicodeTables} {route : DeliveryRoute} {s : RouteSchedule}

/-- The candidate that is read of a route. -/
def PastDueRouteCandidate.ofRoute (route : DeliveryRoute) (departureTime : Datetime) :
    PastDueRouteCandidate where
  routeId := route.routeId
  departureTime := departureTime.jsonText
  stops := (stopRows route).map fun stop ↦ ⟨stop.stopOrder, stop.locationCode.text⟩

/-- The stops of a route in its candidate. -/
theorem stopsData_eq (h : tables.Holds w) (hr : w.routes.find? route.routeId = some route) :
    stopsData tables.routeStops route.routeId = .arr ((stopRows route).map fun stop ↦ .obj [
      ("stop_order", .int stop.stopOrder), ("location_code", .str stop.locationCode.text)]) := by
  have hown := filter_flatMap_eq RouteStopRow.routeId WorldGraphLoader.routeId_of_mem_stopRows
    Store.nodup_values (Store.mem_values_of_find? hr)
  have hperm : (tables.routeStops.filter fun stop ↦ stop.routeId = route.routeId).Perm
      (stopRows route) := by
    rw [← hown]
    exact h.routeStops.filter _
  unfold stopsData
  rw [orderBy_stopRows hperm]
  split
  · next hnil =>
    obtain ⟨stop, hstop⟩ := exists_stopRow route
    rw [hnil] at hstop
    cases hstop
  · next hcons => rw [hcons]

/-- A candidate is read back from its JSON. -/
theorem asPastDueCandidate_eq (h : tables.Holds w)
    (hr : w.routes.find? route.routeId = some route) (hs : route.plan.schedule? = some s) :
    asPastDueCandidate (pastDueCandidate tables.routeStops (.ofRoute route)) =
      .ok (.ofRoute route s.departureTime) := by
  have hstops : asCandidateStops (stopsData tables.routeStops route.routeId) =
      .ok ((stopRows route).map fun stop ↦ ⟨stop.stopOrder, stop.locationCode.text⟩) := by
    rw [stopsData_eq h hr]
    unfold asCandidateStops
    dsimp only
    rw [mapM_eq_ok_iff, List.forall₂_map_left_iff, List.forall₂_map_right_iff, List.forall₂_same]
    intro stop hstop
    obtain ⟨entry, -, rfl⟩ := List.mem_map.mp hstop
    have hint : Json.requireNonNegativeInt (.int (entry.2 : Int)) "stop_order" =
        .ok (entry.2 : Int) := by
      unfold Json.requireNonNegativeInt Json.requireInt
      rw [ok_bind, require_bind_of_true (Int.natCast_nonneg _)]
    unfold asCandidateStop
    simp only [Json.item, Json.get?, List.lookup_cons, beq_self_eq_true, ok_bind, hint,
      String.reduceBEq, Json.requireStr]
  have hdeparture : (RouteRow.ofRoute route).departureTime = some s.departureTime := by
    simp [RouteRow.ofRoute, DeliveryRoute.departureTime, RoutePlan.departureTime, hs]
  have hid : Json.requirePositiveInt (.int route.routeId) "route_id" = .ok route.routeId :=
    Json.requirePositiveInt_eq_ok_iff.mpr ⟨rfl, route.routeId_pos⟩
  unfold asPastDueCandidate pastDueCandidate
  rw [hdeparture]
  simp only [Json.item, Json.get?, List.lookup_cons, beq_self_eq_true, ok_bind, String.reduceBEq,
    Json.requireStr, Option.elim_some, RouteRow.ofRoute, hid, hstops, PastDueRouteCandidate.ofRoute]

/-- The final arrival of a candidate is that of its route. -/
theorem candidateEtaFinal_eq (hs : route.plan.schedule? = some s) :
    candidateEtaFinal u (.ofRoute route s.departureTime) = .ok s.etaFinal := by
  have hsorted : ((stopRows route).map fun stop ↦
      (⟨stop.stopOrder, stop.locationCode.text⟩ : PastDueRouteStop)).Pairwise
        fun a b ↦ a.stopOrder < b.stopOrder :=
    List.pairwise_map.mpr sorted_stopRows
  have hordered := mergeSort_eq_of_perm (List.Perm.refl _) hsorted
  have hcontiguous : requireContiguous route.routeId ((stopRows route).map RouteStopRow.stopOrder) =
      .ok () := requireContiguous_stopRows
  have htime : ∀ name, parseNaiveDatetime s.departureTime.jsonText name = .ok s.departureTime := by
    intro name
    unfold parseNaiveDatetime
    rw [Datetime.fromisoformat_jsonText]
  have hpath : RoutePath.create u (route.locations.map LocationCode.text) =
      .ok route.plan.path := by
    have hcodes : (route.locations.map LocationCode.text).mapM (LocationCode.new u) =
        .ok route.locations :=
      mapM_map_eq_ok fun code hcode ↦ Map.canonical_of_mem (route.plan.path.mem_map hcode)
    unfold RoutePath.create
    rw [hcodes, ok_bind]
    exact RoutePath.ofLocations_eq_ok_iff.mpr rfl
  have hbuild : RouteScheduler.build route.plan.path.locations s.departureTime = .ok s :=
    route.plan.built s hs
  unfold candidateEtaFinal PastDueRouteCandidate.ofRoute orderBy
  dsimp only
  rw [hordered, List.map_map, List.map_map]
  have horders : (PastDueRouteStop.stopOrder ∘ fun stop : RouteStopRow ↦
      (⟨stop.stopOrder, stop.locationCode.text⟩ : PastDueRouteStop)) = RouteStopRow.stopOrder := rfl
  have hlocations : (PastDueRouteStop.locationCode ∘ fun stop : RouteStopRow ↦
      (⟨stop.stopOrder, stop.locationCode.text⟩ : PastDueRouteStop)) =
        LocationCode.text ∘ RouteStopRow.locationCode := rfl
  rw [horders, hcontiguous, ok_bind, htime, ok_bind, hlocations, ← List.map_map,
    locationCode_stopRows, hpath, ok_bind, hbuild, ok_bind]

/-- A route that is not completed is a candidate from its departure on. -/
theorem departed_of_le {clock : Option Datetime} (htimely : route.Timely clock)
    (hopen : route.status ≠ .completed) (hs : route.plan.schedule? = some s)
    (hle : s.departureTime ≤ generatedAt) : (RouteRow.ofRoute route).Departed generatedAt := by
  have hdeparture : (RouteRow.ofRoute route).departureTime = some s.departureTime := by
    simp [RouteRow.ofRoute, DeliveryRoute.departureTime, RoutePlan.departureTime, hs]
  refine ⟨?_, s.departureTime, hdeparture, hle⟩
  show route.status = .scheduled ∨ route.status = .inProgress
  cases hstatus : route.status with
  | planned =>
    rw [htimely.planned.mp hstatus] at hs
    cases hs
  | scheduled => exact .inl rfl
  | inProgress => exact .inr rfl
  | completed => exact absurd hstatus hopen

/-- The candidates are those of the departed routes. -/
theorem pastDueCandidates_eq (h : tables.Holds w) :
    (routeCounts generatedAt tables).pastDueCandidates =
      .arr (((w.departedRoutes generatedAt).map RouteRow.ofRoute).map
        (pastDueCandidate tables.routeStops)) := by
  have hperm : (tables.routes.filter fun row ↦ row.Departed generatedAt).Perm
      ((w.departedRoutes generatedAt).map RouteRow.ofRoute) := by
    refine (h.routes.filter _).trans (List.Perm.of_eq ?_)
    rw [List.filter_map]
    rfl
  have hsorted : ((w.departedRoutes generatedAt).map RouteRow.ofRoute).Pairwise
      fun a b ↦ a.routeId < b.routeId :=
    List.pairwise_map.mpr World.sorted_departedRoutes
  unfold routeCounts orderBy
  dsimp only
  rw [mergeSort_eq_of_perm hperm hsorted]

variable (u generatedAt) in
/-- The mapper finds the final arrivals of the departed routes. -/
theorem exists_candidateEtas (h : tables.Holds w) :
    ∃ candidates etas,
      asPastDueRouteCandidates (routeCounts generatedAt tables).pastDueCandidates =
        .ok candidates ∧
      candidates.mapM (candidateEtaFinal u) = .ok etas ∧
      etas.map some = (w.departedRoutes generatedAt).map DeliveryRoute.etaFinal := by
  have hroutes : ∀ routes : List DeliveryRoute, (∀ route ∈ routes,
      route ∈ w.departedRoutes generatedAt) → ∃ candidates etas,
        ((routes.map RouteRow.ofRoute).map (pastDueCandidate tables.routeStops)).mapM
          asPastDueCandidate = .ok candidates ∧
        candidates.mapM (candidateEtaFinal u) = .ok etas ∧
        etas.map some = routes.map DeliveryRoute.etaFinal := by
    intro routes hmem
    induction routes with
    | nil => exact ⟨[], [], rfl, rfl, rfl⟩
    | cons route rest ih =>
      obtain ⟨candidates, etas, hcandidates, hetas, hmap⟩ :=
        ih fun route hroute ↦ hmem route (List.mem_cons_of_mem _ hroute)
      obtain ⟨hr, hdeparted⟩ := World.mem_departedRoutes.mp (hmem route List.mem_cons_self)
      obtain ⟨-, s, hs⟩ := hdeparted.exists_schedule
      refine ⟨.ofRoute route s.departureTime :: candidates, s.etaFinal :: etas, ?_, ?_, ?_⟩
      · rw [List.map_cons, List.map_cons, List.mapM_cons, asPastDueCandidate_eq h hr hs, ok_bind,
          hcandidates]
        rfl
      · rw [List.mapM_cons, candidateEtaFinal_eq hs, ok_bind, hetas]
        rfl
      · rw [List.map_cons, List.map_cons, hmap, DeliveryRoute.etaFinal, hs, Option.map_some]
  rw [pastDueCandidates_eq h]
  exact hroutes _ fun _ hroute ↦ hroute

/-- The statement counts the routes of the world. -/
theorem mapRouteOverview_eq (h : tables.Holds w) {clock : Option Datetime}
    (htimely : w.routes.All (DeliveryRoute.Timely clock)) :
    mapRouteOverview u generatedAt (routeCounts generatedAt tables) =
      RouteOverview.new w.routeStatusCounts
        (w.routes.values.countP fun route ↦ route.PastDue generatedAt) := by
  obtain ⟨candidates, etas, hcandidates, hetas, hmap⟩ := exists_candidateEtas generatedAt u h
  have hlate : etas.countP (fun eta ↦ eta < generatedAt) =
      w.routes.values.countP fun route ↦ route.PastDue generatedAt := by
    have hsome : etas.countP (fun eta ↦ eta < generatedAt) = (etas.map some).countP
        fun eta? ↦ ∃ eta ∈ eta?, eta < generatedAt := by
      rw [List.countP_map]
      apply List.countP_congr
      intro eta _
      simp
    rw [hsome, hmap, List.countP_map]
    unfold World.departedRoutes
    rw [List.countP_filter]
    apply List.countP_congr
    intro route hroute
    have htimely' := htimely _ route (Store.mem_values.mp hroute)
    simp only [Function.comp_apply, Bool.and_eq_true, decide_eq_true_eq]
    constructor
    · rintro ⟨hlate, hdeparted⟩
      exact ⟨hdeparted.exists_schedule.1, hlate⟩
    · rintro ⟨hopen, eta, heta, hlate⟩
      obtain ⟨s, hs, rfl⟩ := Option.map_eq_some_iff.mp heta
      exact ⟨⟨_, heta, hlate⟩, departed_of_le htimely' hopen hs
        (s.departureTime_lt_etaFinal.trans hlate).le⟩
  unfold mapRouteOverview
  rw [hcandidates, ok_bind, hetas, ok_bind, hlate]
  unfold routeCounts
  dsimp only
  simp only [h.routes.countP_eq, List.countP_map]
  rfl

end Database

/-! ### The overview of the routes -/

namespace InMemoryFleetOverviewQuery

/-- A route that is shown has departed. -/
theorem departed_of_shown {route : DeliveryRoute} {clock : Option Datetime}
    (htimely : route.Timely clock) {overview : ActiveRouteOverview}
    (h : shown? generatedAt (w.cell route) = some overview) :
    (RouteRow.ofRoute route).Departed generatedAt := by
  have hsome : (shown? generatedAt (w.cell route)).isSome := by rw [h]; rfl
  obtain ⟨hopen, s, hs, hle, -⟩ := isSome_shown_iff.mp hsome
  exact departed_of_le htimely hopen hs hle

/-- All that is shown of a world is shown of its departed routes. -/
theorem shownRoutes_values {clock : Option Datetime}
    (htimely : w.routes.All (DeliveryRoute.Timely clock)) :
    shownRoutes generatedAt w w.routes.values =
      shownRoutes generatedAt w (w.departedRoutes generatedAt) := by
  unfold shownRoutes World.departedRoutes
  rw [List.filterMap_filter]
  apply List.filterMap_congr
  intro route hroute
  by_cases hdeparted : (RouteRow.ofRoute route).Departed generatedAt
  · simp [hdeparted]
  · have hnone : shown? generatedAt (w.cell route) = none := by
      cases hshown : shown? generatedAt (w.cell route) with
      | none => rfl
      | some overview =>
        exact absurd (departed_of_shown (htimely _ route (Store.mem_values.mp hroute)) hshown)
          hdeparted
    simp [hdeparted, hnone]

/-- A late route is not completed. -/
theorem countP_pastDue_le (routes : List DeliveryRoute) :
    routes.countP (fun route ↦ route.PastDue generatedAt) ≤
      routes.countP (fun route ↦ route.status = .planned) +
        routes.countP (fun route ↦ route.status = .scheduled) +
        routes.countP (fun route ↦ route.status = .inProgress) := by
  induction routes with
  | nil => simp
  | cons route rest ih =>
    simp only [List.countP_cons]
    by_cases hdue : route.PastDue generatedAt
    · have hopen := hdue.1
      cases hstatus : route.status with
      | completed => exact absurd hstatus hopen
      | _ =>
        simp [hdue]
        omega
    · simp only [hdue]
      simp only [decide_false, Bool.false_eq_true, if_false]
      omega

variable (generatedAt) in
/-- The traversal of routes makes the overview of the counts, and collects what is shown of the
departed routes. -/
theorem summarizeRoutes_eq {clock : Option Datetime}
    (htimely : w.routes.All (DeliveryRoute.Timely clock)) :
    ∃ overview, RouteOverview.new w.routeStatusCounts
      (w.routes.values.countP fun route ↦ route.PastDue generatedAt) = .ok overview ∧
      summarizeRoutes generatedAt (w.routes.values.map w.cell) =
        .ok (overview, shownRoutes generatedAt w (w.departedRoutes generatedAt)) := by
  have hstatus : ∀ status, (w.routes.values.map w.cell).countP (fun cell ↦
      cell.route.status = status) = w.routes.values.countP fun route ↦ route.status = status := by
    intro status
    rw [List.countP_map]
    rfl
  have hdue : (w.routes.values.map w.cell).countP (fun cell ↦ cell.route.PastDue generatedAt) =
      w.routes.values.countP fun route ↦ route.PastDue generatedAt := by
    rw [List.countP_map]
    rfl
  have hshown : (w.routes.values.map w.cell).filterMap (shown? generatedAt) =
      shownRoutes generatedAt w (w.departedRoutes generatedAt) := by
    rw [List.filterMap_map]
    exact shownRoutes_values htimely
  have hopen : w.routes.values.countP (fun route ↦ route.PastDue generatedAt) ≤
      w.routeStatusCounts.planned + w.routeStatusCounts.scheduled +
        w.routeStatusCounts.inProgress := countP_pastDue_le w.routes.values
  obtain ⟨overview, hnew⟩ := RouteOverview.exists_new hopen
  refine ⟨overview, hnew, ?_⟩
  unfold summarizeRoutes
  rw [foldlM_tallyRoute, ok_bind]
  dsimp only
  simp only [hstatus, hdue, hshown, Nat.zero_add, List.nil_append]
  unfold World.routeStatusCounts at hnew
  rw [hnew, ok_bind]

end InMemoryFleetOverviewQuery
end FleetFlow
