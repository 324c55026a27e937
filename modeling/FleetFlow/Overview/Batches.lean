import FleetFlow.Overview.ActiveRoutes

/-!
# Batches of active routes

One batch of the loop over the candidates reads the rows of a page of the departed routes, and
maps them to the overviews of the routes of that page.
-/

namespace FleetFlow

open Database

variable {generatedAt : Datetime}

/-! ### Grouping -/

namespace Database

/-- Rows whose ids can be read are grouped by these ids. -/
theorem exists_groupRowsByRouteId {ρ : Type} {routeId : ρ → Except PyError Int} (id : ρ → Int)
    {rows : List ρ} (h : ∀ row ∈ rows, routeId row = .ok (id row)) :
    ∃ groups, groupRowsByRouteId routeId rows = .ok groups ∧
      ∀ r, groups.find? r = if r ∈ rows.map id then
        some ⟨r, rows.filter fun row ↦ id row = r⟩ else none := by
  unfold groupRowsByRouteId
  refine exists_foldlM_inv (fun done (groups : Store (RowGroup.routeId (ρ := ρ))) ↦
    ∀ r, groups.find? r = if r ∈ done.map id then
      some ⟨r, done.filter fun row ↦ id row = r⟩ else none) (fun r ↦ by simp) ?_
  rintro done row rest rfl groups hfind
  have hgrow : ∀ r, (if r ∈ (done ++ [row]).map id then
        some (⟨r, (done ++ [row]).filter fun other ↦ id other = r⟩ : RowGroup ρ) else none) =
      if id row = r then some ⟨r, (done.filter fun other ↦ id other = r) ++ [row]⟩
      else if r ∈ done.map id then some ⟨r, done.filter fun other ↦ id other = r⟩ else none := by
    intro r
    by_cases hr : id row = r
    · simp [hr]
    · simp [hr, Ne.symm hr]
  rw [h row (by simp), ok_bind, hfind]
  by_cases hmem : id row ∈ done.map id
  · rw [if_pos hmem]
    refine ⟨_, rfl, fun r ↦ ?_⟩
    rw [Store.find?_put, hgrow, hfind]
    split
    · next hr => rw [← hr]
    · rfl
  · rw [if_neg hmem]
    refine ⟨_, rfl, fun r ↦ ?_⟩
    rw [Store.find?_put, hgrow, hfind]
    split
    · next hr =>
      have hnil : done.filter (fun other ↦ id other = r) = [] := by
        rw [List.filter_eq_nil_iff]
        intro other hother
        rw [decide_eq_true_eq, ← hr]
        exact fun heq ↦ hmem (List.mem_map.mpr ⟨other, hother, heq⟩)
      rw [← hr] at hnil ⊢
      rw [hnil, List.nil_append]
    · rfl

/-- The rows of a group, none where there is no group. -/
theorem elim_group {ρ : Type} {id : ρ → Int} {rows : List ρ} {r : Int} {group : Option (RowGroup ρ)}
    (h : group = if r ∈ rows.map id then some ⟨r, rows.filter fun row ↦ id row = r⟩ else none) :
    group.elim [] RowGroup.rows = rows.filter fun row ↦ id row = r := by
  rw [h]
  split
  · rfl
  · next hmem =>
    symm
    rw [Option.elim_none, List.filter_eq_nil_iff]
    intro row hrow
    rw [decide_eq_true_eq]
    exact fun heq ↦ hmem (List.mem_map.mpr ⟨row, hrow, heq⟩)

/-! ### Mapping one batch -/

section Batch

variable {w : World} {routes : List DeliveryRoute} {limit : Int}
  {rows : List ActiveRouteJoin} {packageRows : List PackageRow}

/-- The rows of a page of routes under way, or about to be mapped. -/
structure BatchOf (w : World) (routes : List DeliveryRoute) (rows : List ActiveRouteJoin)
    (packageRows : List PackageRow) : Prop where
  stored : ∀ route ∈ routes, w.routes.find? route.routeId = some route
  departing : ∀ route ∈ routes, route.status ≠ .completed ∧ ∃ s, route.plan.schedule? = some s
  sorted : routes.Pairwise fun a b ↦ a.routeId < b.routeId
  ids : ∀ r, r ∈ rows.map (fun row ↦ row.route.routeId) ↔ r ∈ routes.map DeliveryRoute.routeId
  rows : ∀ route ∈ routes, (rows.filter fun row ↦ row.route.routeId = route.routeId).Perm
    (route.activeRows ((w.truckOf route).map Truck.capacity))
  packageIds : ∀ row ∈ packageRows, ∃ r ∈ routes.map DeliveryRoute.routeId, row.routeId = some r
  packageRows : ∀ route ∈ routes,
    (packageRows.filter fun row ↦ row.routeId.getD 0 = route.routeId).Perm
      (w.activePackageRows route)

/-- What is shown of the routes of a page. -/
def shownRoutes (generatedAt : Datetime) (w : World) (routes : List DeliveryRoute) :
    List ActiveRouteOverview :=
  routes.filterMap fun route ↦ InMemoryFleetOverviewQuery.shown? generatedAt (w.cell route)

/-- The groups of a batch are those of its routes, in the order of their ids. -/
theorem BatchOf.map_groups (h : BatchOf w routes rows packageRows)
    {groups : Store (RowGroup.routeId (ρ := ActiveRouteJoin))}
    (hfind : ∀ r, groups.find? r = if r ∈ rows.map (fun row ↦ row.route.routeId) then
      some ⟨r, rows.filter fun row ↦ row.route.routeId = r⟩ else none) :
    groups.values.map RowGroup.routeId = routes.map DeliveryRoute.routeId := by
  have hsorted : (routes.map DeliveryRoute.routeId).Pairwise (· < ·) :=
    List.pairwise_map.mpr h.sorted
  have hmem : ∀ r, r ∈ groups.values.map RowGroup.routeId ↔
      r ∈ routes.map DeliveryRoute.routeId := by
    intro r
    rw [← h.ids]
    constructor
    · intro hr
      obtain ⟨group, hgroup, rfl⟩ := List.mem_map.mp hr
      have hg := Store.mem_values.mp hgroup
      rw [hfind] at hg
      by_contra hnot
      rw [if_neg hnot] at hg
      cases hg
    · intro hr
      have hg := hfind r
      rw [if_pos hr] at hg
      exact List.mem_map.mpr ⟨_, Store.mem_values_of_find? hg, rfl⟩
  have hperm : (groups.values.map RowGroup.routeId).Perm (routes.map DeliveryRoute.routeId) :=
    (List.perm_ext_iff_of_nodup Store.nodup_values (hsorted.imp fun hlt ↦ hlt.ne)).mpr hmem
  apply hperm.eq_of_pairwise _ Store.sorted_values hsorted
  intro a b _ _ hab hba
  omega

/-- A batch is mapped to what is shown of its routes. -/
theorem BatchOf.mapActiveRouteOverviews_eq (h : BatchOf w routes rows packageRows)
    (hl : w.RouteLinked) (honPath : w.OnPath) (hlimit : requireActiveRouteLimit limit = .ok ()) :
    mapActiveRouteOverviews generatedAt limit rows packageRows =
      .ok (nsmallest (ActiveRouteOverview.rank generatedAt) limit.toNat
        (shownRoutes generatedAt w routes)) := by
  have hrouteId : ∀ row ∈ rows, Shared.requirePositiveInt row.route.routeId "route_id" =
      .ok row.route.routeId := by
    intro row hrow
    obtain ⟨route, -, hid⟩ := List.mem_map.mp ((h.ids _).mp (List.mem_map_of_mem hrow))
    exact Shared.requirePositiveInt_of_pos (hid ▸ route.routeId_pos)
  have hpackageId : ∀ row ∈ packageRows, requireRouteId row = .ok (row.routeId.getD 0) := by
    intro row hrow
    obtain ⟨r, hr, hid⟩ := h.packageIds row hrow
    obtain ⟨route, -, rfl⟩ := List.mem_map.mp hr
    unfold requireRouteId
    rw [hid]
    exact Shared.requirePositiveInt_of_pos route.routeId_pos
  obtain ⟨routeGroups, hroutes, hroute⟩ :=
    exists_groupRowsByRouteId (fun row : ActiveRouteJoin ↦ row.route.routeId) hrouteId
  obtain ⟨packageGroups, hpackages, hpackage⟩ :=
    exists_groupRowsByRouteId (fun row : PackageRow ↦ row.routeId.getD 0) hpackageId
  have hknown : packageGroups.values.filter
      (fun group ↦ (routeGroups.find? group.routeId).isNone) = [] := by
    rw [List.filter_eq_nil_iff]
    intro group hgroup
    have hg := Store.mem_values.mp hgroup
    rw [hpackage] at hg
    split at hg
    · next hmem =>
      obtain ⟨row, hrow, hid⟩ := List.mem_map.mp hmem
      obtain ⟨r, hr, hrow'⟩ := h.packageIds row hrow
      rw [hrow', Option.getD_some] at hid
      rw [hroute, if_pos ((h.ids _).mpr (hid ▸ hr))]
      simp
    · cases hg
  have hpairs : List.Forall₂
      (fun group route ↦ RowGroup.routeId group = DeliveryRoute.routeId route)
      routeGroups.values routes := by
    rw [← List.forall₂_map_right_iff, ← List.forall₂_map_left_iff, h.map_groups hroute,
      List.forall₂_eq_eq_eq]
  have hmapped : (routeGroups.values.mapM fun group ↦ mapActiveRouteOverview generatedAt group.rows
        ((packageGroups.find? group.routeId).elim [] RowGroup.rows)) =
      .ok (routes.map fun route ↦
        InMemoryFleetOverviewQuery.shown? generatedAt (w.cell route)) := by
    rw [mapM_eq_ok_iff, List.forall₂_map_right_iff, List.forall₂_iff_zip]
    refine ⟨hpairs.length_eq, fun {group route} hzip ↦ ?_⟩
    have hid := (List.forall₂_iff_zip.mp hpairs).2 hzip
    obtain ⟨hgroup, hmem⟩ := List.of_mem_zip hzip
    have hg := Store.mem_values.mp hgroup
    obtain ⟨hopen, s, hs⟩ := h.departing route hmem
    rw [elim_group (hpackage group.routeId), hid]
    rw [hroute, if_pos ((h.ids _).mpr (hid ▸ List.mem_map_of_mem hmem)), Option.some.injEq] at hg
    have hrows : group.rows = rows.filter fun row ↦ row.route.routeId = group.routeId := by
      rw [← hg]
    rw [hrows, hid]
    exact mapActiveRouteOverview_eq hl honPath (h.stored route hmem) hs hopen (h.rows route hmem)
      (h.packageRows route hmem)
  unfold mapActiveRouteOverviews
  rw [hlimit, ok_bind, hroutes, ok_bind, hpackages, ok_bind]
  dsimp only
  rw [require_bind_of_true hknown, hmapped, ok_bind]
  unfold selectActiveRouteOverviews
  rw [hlimit, ok_bind, List.filterMap_map, Function.id_comp]
  rfl

end Batch
end Database
end FleetFlow
