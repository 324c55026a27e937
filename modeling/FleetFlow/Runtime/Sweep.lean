import FleetFlow.Runtime.World

/-!
# One pass over every route

Routes that are linked consistently share no truck and no package, so a program that works on
one cell after another meets every cell as it was before the first pass.
-/

namespace FleetFlow

/-- Links between routes, trucks and packages agree in both directions. -/
structure World.RouteLinked (w : World) : Prop where
  truck_of_route : ∀ {r t : Int} {route}, w.routes.find? r = some route → route.truck = some t →
    ∃ truck, w.trucks.find? t = some truck ∧ truck.route = some r
  route_of_truck : ∀ {t r : Int} {truck}, w.trucks.find? t = some truck → truck.route = some r →
    ∃ route, w.routes.find? r = some route ∧ route.truck = some t
  package_of_route : ∀ {r p : Int} {route}, w.routes.find? r = some route → p ∈ route.packages →
    ∃ package, w.packages.find? p = some package ∧ package.route = some r
  route_of_package : ∀ {p r : Int} {package}, w.packages.find? p = some package →
    package.route = some r → ∃ route, w.routes.find? r = some route ∧ p ∈ route.packages
  nodup : ∀ {r : Int} {route}, w.routes.find? r = some route → route.packages.Nodup
  routeId : ∀ {p : Int} {package}, w.packages.find? p = some package →
    package.routeId = package.route

namespace World

variable {w : World}

/-- Two routes with one truck are one route. -/
theorem RouteLinked.eq_of_truck (h : w.RouteLinked) {r r' t : Int} {route route' : DeliveryRoute}
    (hr : w.routes.find? r = some route) (hr' : w.routes.find? r' = some route')
    (ht : route.truck = some t) (ht' : route'.truck = some t) : r = r' := by
  obtain ⟨truck, htruck, hlink⟩ := h.truck_of_route hr ht
  obtain ⟨truck', htruck', hlink'⟩ := h.truck_of_route hr' ht'
  rw [htruck, Option.some.injEq] at htruck'
  rw [← htruck', hlink, Option.some.injEq] at hlink'
  exact hlink'

/-- Two routes with one package are one route. -/
theorem RouteLinked.eq_of_package (h : w.RouteLinked) {r r' p : Int}
    {route route' : DeliveryRoute} (hr : w.routes.find? r = some route)
    (hr' : w.routes.find? r' = some route') (hp : p ∈ route.packages)
    (hp' : p ∈ route'.packages) : r = r' := by
  obtain ⟨package, hpackage, hlink⟩ := h.package_of_route hr hp
  obtain ⟨package', hpackage', hlink'⟩ := h.package_of_route hr' hp'
  rw [hpackage, Option.some.injEq] at hpackage'
  rw [← hpackage', hlink, Option.some.injEq] at hlink'
  exact hlink'

/-- A linked route lists the packages it refers to. -/
theorem RouteLinked.map_packagesOf (h : w.RouteLinked) {r : Int} {route : DeliveryRoute}
    (hr : w.routes.find? r = some route) :
    (w.packagesOf route).map DeliveryPackage.packageId = route.packages := by
  have hall : ∀ ids : List Int, (∀ p ∈ ids, p ∈ route.packages) →
      (ids.filterMap w.packages.find?).map DeliveryPackage.packageId = ids := by
    intro ids hmem
    induction ids with
    | nil => rfl
    | cons p ids ih =>
      obtain ⟨package, hp, -⟩ := h.package_of_route hr (hmem p (by simp))
      rw [List.filterMap_cons_some hp, List.map_cons, Store.key_of_find? hp,
        ih fun q hq ↦ hmem q (by simp [hq])]
  exact hall route.packages fun _ hp ↦ hp

/-- A package in the list of a route is stored. -/
theorem mem_packagesOf {route : DeliveryRoute} {package : DeliveryPackage} :
    package ∈ w.packagesOf route ↔
      package.packageId ∈ route.packages ∧ w.packages.find? package.packageId = some package := by
  unfold packagesOf
  rw [List.mem_filterMap]
  constructor
  · rintro ⟨p, hp, hfind⟩
    rw [Store.key_of_find? hfind]
    exact ⟨hp, hfind⟩
  · rintro ⟨hp, hfind⟩
    exact ⟨_, hp, hfind⟩

/-- Storing a cell as it is changes nothing. -/
theorem putCell_cell {r : Int} {route : DeliveryRoute}
    (hr : w.routes.find? r = some route) : w.putCell (w.cell route) = w := by
  have hroute : w.routes.find? route.routeId = some route := by
    rw [Store.key_of_find? hr, hr]
  have htrucks : w.trucks.putAll (w.truckOf route).toList = w.trucks := by
    refine Store.putAll_eq_self fun truck htruck ↦ ?_
    obtain ⟨t, -, hfind⟩ := Option.bind_eq_some_iff.mp (Option.mem_toList.mp htruck)
    rw [Store.key_of_find? hfind, hfind]
  have hpackages : w.packages.putAll (w.packagesOf route) = w.packages :=
    Store.putAll_eq_self fun package hpackage ↦ (mem_packagesOf.mp hpackage).2
  unfold putCell cell
  rw [Store.put_eq_self hroute, htrucks, hpackages]

end World

/-- What a program on a cell keeps so that the cell can be written back. -/
structure RouteCell.SameIds (before after : RouteCell) : Prop where
  route : after.route.routeId = before.route.routeId
  truck : after.truck.map Truck.vehicleId = before.truck.map Truck.vehicleId
  packages : after.packages.map DeliveryPackage.packageId =
    before.packages.map DeliveryPackage.packageId

namespace Action

/-- Run a program on the cell of each listed route in turn. -/
def sweep {α : Type} (program : Program PyError RouteCell α) :
    List Int → Action (List (Int × α))
  | [] => pure []
  | r :: rest => do
    let w ← get
    match w.routes.find? r with
    | none => sweep program rest
    | some route => do
      let a ← onRoute route program
      let passes ← sweep program rest
      pure ((r, a) :: passes)

end Action

/-- The world after passes over some cells: each visited cell is related to what it was, all
else is as before. -/
structure World.Swept {α : Type} (rel : RouteCell → α → RouteCell → Prop) (before : World)
    (passes : List (Int × α)) (after : World) : Prop where
  frame : after = { before with
    routes := after.routes, trucks := after.trucks, packages := after.packages }
  visited : ∀ r a, (r, a) ∈ passes → ∀ route, before.routes.find? r = some route →
    ∃ c, rel (before.cell route) a c ∧ (before.cell route).SameIds c ∧
      after.routes.find? r = some c.route ∧ route.truck.bind after.trucks.find? = c.truck ∧
      route.packages.filterMap after.packages.find? = c.packages
  route_kept : ∀ r, r ∉ passes.map Prod.fst → after.routes.find? r = before.routes.find? r
  truck_kept : ∀ t, (∀ r ∈ passes.map Prod.fst, ∀ route, before.routes.find? r = some route →
    route.truck ≠ some t) → after.trucks.find? t = before.trucks.find? t
  package_kept : ∀ p, (∀ r ∈ passes.map Prod.fst, ∀ route,
    before.routes.find? r = some route → p ∉ route.packages) →
    after.packages.find? p = before.packages.find? p

namespace World

variable {α : Type} {rel : RouteCell → α → RouteCell → Prop} {before w : World}

/-- Before the first pass nothing has changed. -/
theorem Swept.nil : Swept rel before [] before :=
  ⟨rfl, by simp, fun _ _ ↦ rfl, fun _ _ ↦ rfl, fun _ _ ↦ rfl⟩

/-- The ids of a cell of a linked route are those that the route refers to. -/
theorem RouteLinked.map_truckOf (h : before.RouteLinked) {r : Int} {route : DeliveryRoute}
    (hr : before.routes.find? r = some route) :
    (before.truckOf route).map Truck.vehicleId = route.truck := by
  unfold truckOf
  cases ht : route.truck with
  | none => rfl
  | some t =>
    obtain ⟨truck, htruck, -⟩ := h.truck_of_route hr ht
    rw [Option.bind_some, htruck, Option.map_some, Store.key_of_find? htruck]

/-- Reading back a list that was stored under distinct keys. -/
private theorem filterMap_putAll {s : Store DeliveryPackage.packageId} {xs : List DeliveryPackage}
    (hnd : (xs.map DeliveryPackage.packageId).Nodup) :
    (xs.map DeliveryPackage.packageId).filterMap (s.putAll xs).find? = xs := by
  have hall : ∀ ys : List DeliveryPackage, (∀ y ∈ ys, y ∈ xs) →
      (ys.map DeliveryPackage.packageId).filterMap (s.putAll xs).find? = ys := by
    intro ys hmem
    induction ys with
    | nil => rfl
    | cons y ys ih =>
      rw [List.map_cons, List.filterMap_cons_some (Store.find?_putAll_of_mem hnd (hmem y (by simp))),
        ih fun z hz ↦ hmem z (by simp [hz])]
  exact hall xs fun _ h ↦ h

/-- A cell that no pass has touched is still what it was. -/
theorem Swept.cell_eq {done : List (Int × α)} (hlinks : before.RouteLinked)
    (h : Swept rel before done w) {r : Int} {route : DeliveryRoute}
    (hr : before.routes.find? r = some route) (hfresh : r ∉ done.map Prod.fst) :
    w.cell route = before.cell route := by
  have htruck : w.truckOf route = before.truckOf route := by
    unfold truckOf
    cases ht : route.truck with
    | none => rfl
    | some t =>
      rw [Option.bind_some, Option.bind_some]
      refine h.truck_kept t fun r' hr' route' hroute' ht' ↦ hfresh ?_
      rwa [hlinks.eq_of_truck hr hroute' ht ht']
  have hpackages : w.packagesOf route = before.packagesOf route := by
    unfold packagesOf
    refine List.filterMap_congr fun p hp ↦ ?_
    refine h.package_kept p fun r' hr' route' hroute' hp' ↦ hfresh ?_
    rwa [hlinks.eq_of_package hr hroute' hp hp']
  unfold cell
  rw [htruck, hpackages]

/-- One more pass. -/
theorem Swept.snoc {done : List (Int × α)} (hlinks : before.RouteLinked)
    (h : Swept rel before done w) {r : Int} {route : DeliveryRoute}
    (hr : before.routes.find? r = some route) (hfresh : r ∉ done.map Prod.fst) {a : α}
    {c : RouteCell} (hrel : rel (before.cell route) a c) (hids : (before.cell route).SameIds c) :
    Swept rel before (done ++ [(r, a)]) (w.putCell c) := by
  have hid : c.route.routeId = r := hids.route.trans (Store.key_of_find? hr)
  have htruck : c.truck.map Truck.vehicleId = route.truck :=
    hids.truck.trans (hlinks.map_truckOf hr)
  have hpackages : c.packages.map DeliveryPackage.packageId = route.packages :=
    hids.packages.trans (hlinks.map_packagesOf hr)
  have hnd : (c.packages.map DeliveryPackage.packageId).Nodup := hpackages ▸ hlinks.nodup hr
  have htoList : c.truck.toList.map Truck.vehicleId = route.truck.toList := by
    rw [← htruck]
    cases c.truck <;> rfl
  have htrucks : ∀ t, route.truck ≠ some t →
      (w.putCell c).trucks.find? t = w.trucks.find? t := fun t ht ↦ by
    refine Store.find?_putAll_of_notMem ?_
    rw [htoList, Option.mem_toList]
    exact ht
  have hpacks : ∀ p, p ∉ route.packages →
      (w.putCell c).packages.find? p = w.packages.find? p := fun p hp ↦
    Store.find?_putAll_of_notMem (hpackages ▸ hp)
  refine ⟨?_, ?_, ?_, ?_, ?_⟩
  · show w.putCell c = _
    rw [h.frame]
    rfl
  · intro r' a' hmem route' hr'
    rw [List.mem_append, List.mem_singleton, Prod.mk.injEq] at hmem
    rcases hmem with hmem | ⟨rfl, rfl⟩
    · have hne : r' ≠ r := fun heq ↦ hfresh (heq ▸ List.mem_map_of_mem hmem)
      obtain ⟨c', hrel', hids', hroute', htruck', hpackages'⟩ := h.visited r' a' hmem route' hr'
      refine ⟨c', hrel', hids', ?_, ?_, ?_⟩
      · show (w.routes.put c.route).find? r' = some c'.route
        rw [Store.find?_put, hid, if_neg (Ne.symm hne), hroute']
      · rw [← htruck']
        cases ht : route'.truck with
        | none => rfl
        | some t =>
          exact htrucks t fun ht' ↦ hne (hlinks.eq_of_truck hr' hr ht ht')
      · rw [← hpackages']
        exact List.filterMap_congr fun p hp ↦
          hpacks p fun hp' ↦ hne (hlinks.eq_of_package hr' hr hp hp')
    · rw [hr, Option.some.injEq] at hr'
      subst hr'
      refine ⟨c, hrel, hids, ?_, ?_, ?_⟩
      · show (w.routes.put c.route).find? r' = some c.route
        rw [Store.find?_put, if_pos hid]
      · rw [← htruck]
        show _ = c.truck
        cases ht : c.truck with
        | none => rfl
        | some truck =>
          show (w.trucks.putAll c.truck.toList).find? truck.vehicleId = some truck
          rw [ht, Option.toList_some, Store.putAll_cons, Store.putAll_nil, Store.find?_put,
            if_pos rfl]
      · rw [← hpackages]
        exact filterMap_putAll hnd
  · intro r' hr'
    rw [List.map_append, List.mem_append, not_or] at hr'
    show (w.routes.put c.route).find? r' = _
    rw [Store.find?_put, hid, if_neg fun heq ↦ hr'.2 (by simp [heq]), h.route_kept r' hr'.1]
  · intro t ht
    simp only [List.map_append, List.mem_append] at ht
    rw [htrucks t (ht r (.inr (by simp)) route hr)]
    exact h.truck_kept t fun r' hr' ↦ ht r' (.inl hr')
  · intro p hp
    simp only [List.map_append, List.mem_append] at hp
    rw [hpacks p (hp r (.inr (by simp)) route hr)]
    exact h.package_kept p fun r' hr' ↦ hp r' (.inl hr')

/-- Passes over distinct routes of a linked world: each one meets its cell as it was, and an
invariant that every such pass keeps holds of the result. -/
theorem ensures_sweep_inv (rel : RouteCell → α → RouteCell → Prop)
    (inv : List (Int × α) → World → Prop) {program : Program PyError RouteCell α}
    (hlinks : before.RouteLinked)
    (hprogram : ∀ r route, before.routes.find? r = some route →
      Program.Ensures program (before.cell route)
        (fun a c ↦ rel (before.cell route) a c ∧ (before.cell route).SameIds c)
        (fun _ _ ↦ False))
    (hinv : ∀ done v r route a c, before.routes.find? r = some route → r ∉ done.map Prod.fst →
      v.routes.find? r = some route → v.cell route = before.cell route →
      rel (before.cell route) a c → inv done v → inv (done ++ [(r, a)]) (v.putCell c))
    {done : List (Int × α)} (h : Swept rel before done w) (hw : inv done w) {ids : List Int}
    (hids : ∀ r ∈ ids, ∃ route, before.routes.find? r = some route)
    (hnd : (done.map Prod.fst ++ ids).Nodup) :
    Program.Ensures (Action.sweep program ids) w
      (fun passes w' ↦ passes.map Prod.fst = ids ∧ Swept rel before (done ++ passes) w' ∧
        inv (done ++ passes) w') (fun _ _ ↦ False) := by
  induction ids generalizing done w with
  | nil =>
    unfold Action.sweep
    rw [Program.ensures_pure]
    exact ⟨rfl, by simpa using h, by simpa using hw⟩
  | cons r rest ih =>
    obtain ⟨route, hr⟩ := hids r (by simp)
    have hfresh : r ∉ done.map Prod.fst := fun hmem ↦
      List.disjoint_of_nodup_append hnd hmem (by simp)
    have hcell := h.cell_eq hlinks hr hfresh
    have hroute : w.routes.find? r = some route := (h.route_kept r hfresh).trans hr
    unfold Action.sweep
    simp only [Program.ensures_bind, Program.ensures_get, hroute]
    rw [Action.onRoute, Program.ensures_zoom, hcell]
    refine (hprogram r route hr).mono (fun a c hc ↦ ?_) fun _ _ hf ↦ hf
    refine (ih (h.snoc hlinks hr hfresh hc.1 hc.2)
      (hinv done w r route a c hr hfresh hroute hcell hc.1 hw)
      (fun r' hr' ↦ hids r' (by simp [hr'])) ?_).mono (fun passes w' hw' ↦ ?_) fun _ _ hf ↦ hf
    · simpa using hnd
    · rw [Program.ensures_pure]
      exact ⟨by simp [hw'.1], by simpa using hw'.2.1, by simpa using hw'.2.2⟩

/-- Passes over distinct routes of a linked world: each one meets its cell as it was. -/
theorem ensures_sweep (rel : RouteCell → α → RouteCell → Prop)
    {program : Program PyError RouteCell α} (hlinks : before.RouteLinked)
    (hprogram : ∀ r route, before.routes.find? r = some route →
      Program.Ensures program (before.cell route)
        (fun a c ↦ rel (before.cell route) a c ∧ (before.cell route).SameIds c)
        (fun _ _ ↦ False))
    {done : List (Int × α)} (h : Swept rel before done w) {ids : List Int}
    (hids : ∀ r ∈ ids, ∃ route, before.routes.find? r = some route)
    (hnd : (done.map Prod.fst ++ ids).Nodup) :
    Program.Ensures (Action.sweep program ids) w
      (fun passes w' ↦ passes.map Prod.fst = ids ∧ Swept rel before (done ++ passes) w')
      (fun _ _ ↦ False) :=
  (ensures_sweep_inv rel (fun _ _ ↦ True) hlinks hprogram (fun _ _ _ _ _ _ _ _ _ _ _ _ ↦ trivial) h
    trivial hids hnd).mono (fun _ _ hw ↦ ⟨hw.1, hw.2.1⟩) fun _ _ hf ↦ hf

end World
end FleetFlow
