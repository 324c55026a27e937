import FleetFlow.Overview.RouteCounts
import FleetFlow.Runtime.Guarantees

/-!
# One overview of the world

The query over the tables and the query over the live entities give the same overview of a world,
in whatever order the tables list their rows and however large the batches of the candidates are.
-/

namespace FleetFlow

open Database

variable {u : UnicodeTables} {clock : Option Datetime} {w : World} {generatedAt : Datetime}
  {limit : Int}

/-- A limit from one to a hundred is accepted. -/
theorem requireActiveRouteLimit_eq_ok_iff :
    requireActiveRouteLimit limit = .ok () ↔ 1 ≤ limit ∧ limit ≤ 100 := by
  unfold requireActiveRouteLimit
  rw [except_bind_eq_ok_iff]
  simp only [Shared.requirePositiveInt_eq_ok_iff, require_eq_ok_iff]
  constructor
  · rintro ⟨_, ⟨rfl, hlow⟩, hhigh⟩
    exact ⟨hlow, hhigh⟩
  · rintro ⟨hlow, hhigh⟩
    exact ⟨limit, ⟨rfl, hlow⟩, hhigh⟩

variable (generatedAt) in
/-- A world whose routes are timely has an overview for every accepted limit, which lists the
first of the departed routes that are shown. -/
theorem InMemoryFleetOverviewQuery.exists_getOverview
    (htimely : w.routes.All (DeliveryRoute.Timely clock))
    (hlimit : requireActiveRouteLimit limit = .ok ()) :
    ∃ packages routes trucks,
      summarizePackages generatedAt w.packages.values = .ok packages ∧
      RouteOverview.new w.routeStatusCounts
        (w.routes.values.countP fun route ↦ route.PastDue generatedAt) = .ok routes ∧
      summarizeTrucks w.trucks.values = .ok trucks ∧
      getOverview generatedAt w limit = .ok {
        generatedAt, packages, routes, trucks
        activeRoutes := nsmallest (ActiveRouteOverview.rank generatedAt) limit.toNat
          (shownRoutes generatedAt w (w.departedRoutes generatedAt)) } := by
  obtain ⟨packages, hpackages⟩ := exists_summarizePackages generatedAt w.packages.values
  obtain ⟨routes, hroutes, hsummary⟩ := summarizeRoutes_eq generatedAt htimely
  obtain ⟨trucks, htrucks⟩ := exists_summarizeTrucks w.trucks.values
  refine ⟨packages, routes, trucks, hpackages, hroutes, htrucks, ?_⟩
  unfold getOverview
  rw [hlimit, ok_bind, hpackages, ok_bind, hsummary, ok_bind]
  dsimp only
  rw [htrucks, ok_bind]

/-- The query over tables that hold a world gives the overview of the world. -/
theorem PostgresFleetOverviewQuery.getOverview_eq (hl : w.RouteLinked)
    (htimely : w.routes.All (DeliveryRoute.Timely clock)) (honPath : w.OnPath)
    {tables : Tables} (htables : tables.Holds w) {batchSize rounds : Nat}
    (hbatch : 0 < batchSize) (hrounds : w.routes.values.length < rounds) :
    getOverview generatedAt limit batchSize tables u rounds =
      some <$> InMemoryFleetOverviewQuery.getOverview generatedAt w limit := by
  cases hlimit : requireActiveRouteLimit limit with
  | error e =>
    unfold getOverview InMemoryFleetOverviewQuery.getOverview
    rw [hlimit]
    rfl
  | ok =>
    obtain ⟨packages, routes, trucks, hpackages, hroutes, htrucks, hlive⟩ :=
      InMemoryFleetOverviewQuery.exists_getOverview generatedAt htimely hlimit
    have hfew : (w.departedRoutes generatedAt).length < rounds :=
      (List.length_filter_le _ _).trans_lt hrounds
    unfold getOverview
    rw [hlive, hlimit, ok_bind,
      loadActiveRouteOverviews_eq_ok htables hl honPath hlimit hbatch hfew, ok_bind]
    dsimp only
    rw [Database.mapPackageOverview_eq htables, hpackages, ok_bind,
      Database.mapRouteOverview_eq htables htimely, hroutes, ok_bind,
      Database.mapTruckOverview_eq htables, htrucks, ok_bind]
    rfl

/-- In every run, both backends answer every overview query alike: with the same overview for an
accepted limit, and with the same error for any other. -/
theorem Reachable.overviews_agree {fleet : Fleet} (hidle : fleet.All (Truck.Idle fun _ ↦ True))
    (h : Reachable u fleet clock w) {tables : Tables} (htables : tables.Holds w)
    {batchSize rounds : Nat} (hbatch : 0 < batchSize) (hrounds : w.routes.values.length < rounds) :
    PostgresFleetOverviewQuery.getOverview generatedAt limit batchSize tables u rounds =
        some <$> InMemoryFleetOverviewQuery.getOverview generatedAt w limit ∧
      ((∃ overview, InMemoryFleetOverviewQuery.getOverview generatedAt w limit = .ok overview) ↔
        1 ≤ limit ∧ limit ≤ 100) := by
  have hsound := h.sound (fun _ _ ↦ trivial) hidle
  refine ⟨PostgresFleetOverviewQuery.getOverview_eq hsound.linked.toRouteLinked hsound.timely
    hsound.onPath htables hbatch hrounds, ?_⟩
  rw [← requireActiveRouteLimit_eq_ok_iff]
  constructor
  · rintro ⟨overview, hoverview⟩
    unfold InMemoryFleetOverviewQuery.getOverview at hoverview
    exact (check_bind_eq_ok_iff.mp hoverview).1
  · intro hlimit
    obtain ⟨_, _, _, -, -, -, hlive⟩ :=
      InMemoryFleetOverviewQuery.exists_getOverview generatedAt hsound.timely hlimit
    exact ⟨_, hlive⟩

/-- Both backends show the route of the scenario on its way, the tables in batches of the source's
size. -/
theorem Scenario.overviews_agree_steps :
    ∃ overview, InMemoryFleetOverviewQuery.getOverview (Scenario.hour 13)
        (performAll .asciiOnly (.initial Scenario.fleet) Scenario.steps) 10 = .ok overview ∧
      PostgresFleetOverviewQuery.getOverview (Scenario.hour 13) 10
        PostgresFleetOverviewQuery.activeRouteCandidateBatchSize
        (.ofWorld (performAll .asciiOnly (.initial Scenario.fleet) Scenario.steps)) .asciiOnly
        ((performAll .asciiOnly (.initial Scenario.fleet)
          Scenario.steps).routes.values.length + 1) = .ok (some overview) := by
  have hagree := @Reachable.overviews_agree _ _ _ (Scenario.hour 13) 10 _
    Scenario.fleet_idle_anywhere Scenario.reachable_steps _ holds_ofWorld
    PostgresFleetOverviewQuery.activeRouteCandidateBatchSize _ (by decide) (Nat.lt_succ_self _)
  obtain ⟨overview, hoverview⟩ := hagree.2.mpr ⟨by decide, by decide⟩
  refine ⟨overview, hoverview, ?_⟩
  rw [hagree.1, hoverview]
  rfl

end FleetFlow
