import FleetFlow.Runtime.Links

/-!
# The world after a heartbeat

What the passes over all routes do to each route, truck and package, and why the world stays
sound. A route that a pass could not finish is skipped together with its truck and packages.
-/

namespace FleetFlow

open Reconciler

/-- What a pass leaves of a route. -/
structure DeliveryRoute.SettledFrom (now : Datetime) (before after : DeliveryRoute) : Prop where
  routeId : after.routeId = before.routeId
  plan : after.plan = before.plan
  packages : after.packages = before.packages
  status : after.status = before.statusAt now
  truck : after.truck = if before.Finished now then none else before.truck

namespace World

/-- A route after a heartbeat. -/
def RouteMoved (now : Datetime) (skipped : List Int) (before after : DeliveryRoute) : Prop :=
  if before.routeId ∈ skipped then after = before else before.SettledFrom now after

/-- A truck after a heartbeat. -/
structure TruckMoved (w : World) (now : Datetime) (skipped : List Int) (before after : Truck) :
    Prop where
  idle : before.route = none → after = before
  stuck : ∀ r ∈ before.route, r ∈ skipped → after = before
  passed : ∀ r ∈ before.route, ∀ route, w.routes.find? r = some route → r ∉ skipped →
    TruckPass route now before after

/-- A package after a heartbeat. -/
structure PackageMoved (w : World) (now : Datetime) (skipped : List Int)
    (before after : DeliveryPackage) : Prop where
  waiting : before.route = none → after = before
  stuck : ∀ r ∈ before.route, r ∈ skipped → after = before
  passed : ∀ r ∈ before.route, ∀ route, w.routes.find? r = some route → r ∉ skipped →
    ∃ changed, PackagePass route now before after changed

/-- The world after passes over all routes. -/
structure Advanced (now : Datetime) (skipped : List Int) (w w' : World) : Prop where
  frame : w' = { w with routes := w'.routes, trucks := w'.trucks, packages := w'.packages }
  routes : Store.Related (RouteMoved now skipped) w.routes w'.routes
  trucks : Store.Related (TruckMoved w now skipped) w.trucks w'.trucks
  packages : Store.Related (PackageMoved w now skipped) w.packages w'.packages
  stuck : ∀ r ∈ skipped, ∃ route t truck, w.routes.find? r = some route ∧
    route.truck = some t ∧ w.trucks.find? t = some truck ∧ truck.currentLocation = none ∧
    route.Finished now

variable {u : UnicodeTables} {allowed : Option LocationCode → Prop} {clock : Option Datetime}
  {w w' : World} {now : Datetime} {skipped : List Int}

/-- A route is passed over exactly once. -/
private theorem mem_skipped_iff {passes : List (Int × Option RouteChanges)}
    (hnd : (passes.map Prod.fst).Nodup) {r : Int} {changes : Option RouteChanges}
    (hmem : (r, changes) ∈ passes) :
    r ∈ (HeartbeatSummary.ofPasses passes).skippedRoutes ↔ changes = none := by
  unfold HeartbeatSummary.ofPasses
  simp only [List.mem_filterMap]
  constructor
  · rintro ⟨⟨r', changes'⟩, hmem', hr⟩
    cases changes' with
    | some ch => simp at hr
    | none =>
      simp only [Option.isNone_none, if_true, Option.some.injEq] at hr
      subst hr
      exact (Prod.mk.inj (List.inj_on_of_nodup_map hnd hmem hmem' rfl)).2
  · rintro rfl
    exact ⟨(r, none), hmem, by simp⟩

/-- The pass over one route of the world. -/
theorem visited_of_swept {passes : List (Int × Option RouteChanges)}
    (h : Swept (PassOf now) w passes w')
    (hids : (passes.map Prod.fst).Perm (w.routes.values.map DeliveryRoute.routeId)) {r : Int}
    {route : DeliveryRoute} (hr : w.routes.find? r = some route) :
    ∃ changes c, (r, changes) ∈ passes ∧ PassOf now (w.cell route) changes c ∧
      w'.routes.find? r = some c.route ∧ route.truck.bind w'.trucks.find? = c.truck ∧
      route.packages.filterMap w'.packages.find? = c.packages := by
  have hmem : r ∈ passes.map Prod.fst := by
    rw [hids.mem_iff, List.mem_map]
    exact ⟨route, Store.mem_values_of_find? hr, Store.key_of_find? hr⟩
  obtain ⟨⟨r', changes⟩, hpasses, hfst⟩ := List.mem_map.mp hmem
  obtain rfl : r' = r := hfst
  obtain ⟨c, hpass, -, hroute, htruck, hpackages⟩ := h.visited _ _ hpasses _ hr
  exact ⟨changes, c, hpasses, hpass, hroute, htruck, hpackages⟩

/-- The pass over a package of a route. -/
theorem exists_package_of_pass {route : DeliveryRoute} {changes : Option RouteChanges}
    {c : RouteCell} (hpass : PassOf now (w.cell route) changes c)
    (hpackages : route.packages.filterMap w'.packages.find? = c.packages) {p : Int}
    {package : DeliveryPackage} (hp : w.packages.find? p = some package) (hmem : p ∈ route.packages) :
    ∃ package', w'.packages.find? p = some package' ∧
      (changes = none → package' = package) ∧ ∀ ch, changes = some ch →
        PackagePass route now package package' (decide (p ∈ ch.packagesUpdated)) := by
  have hid : package.packageId = p := Store.key_of_find? hp
  have hcell : package ∈ w.packagesOf route := mem_packagesOf.mpr (hid ▸ ⟨hmem, hp⟩)
  have hfind : ∀ package' ∈ c.packages, package'.packageId = p →
      w'.packages.find? p = some package' := fun package' hmem' hid' ↦ by
    rw [← hpackages, List.mem_filterMap] at hmem'
    obtain ⟨q, -, hq⟩ := hmem'
    rw [← hid', Store.key_of_find? hq]
    exact hq
  obtain ⟨ch, rfl, hpass⟩ | ⟨rfl, rfl, -⟩ := hpass
  · obtain ⟨package', hmem', hrel⟩ := exists_mem_of_forall₂ hpass.packages hcell
    refine ⟨package', hfind _ hmem' (hrel.same.packageId ▸ hid), nofun, fun ch' hch ↦ ?_⟩
    rw [← Option.some.inj hch, ← hid]
    exact hrel
  · exact ⟨package, hfind _ hcell hid, fun _ ↦ rfl, nofun⟩

/-- The pass over the truck of a route. -/
theorem exists_truck_of_pass {route : DeliveryRoute} {changes : Option RouteChanges}
    {c : RouteCell} (hpass : PassOf now (w.cell route) changes c)
    (htruck : route.truck.bind w'.trucks.find? = c.truck) {t : Int} {truck : Truck}
    (ht : w.trucks.find? t = some truck) (hlink : route.truck = some t) :
    ∃ truck', w'.trucks.find? t = some truck' ∧ (changes = none → truck' = truck) ∧
      (changes.isSome → TruckPass route now truck truck') := by
  have hcell : (w.cell route).truck = some truck := by
    show route.truck.bind w.trucks.find? = some truck
    rw [hlink]
    exact ht
  rw [hlink, Option.bind_some] at htruck
  obtain ⟨ch, rfl, hpass⟩ | ⟨rfl, rfl, -⟩ := hpass
  · have hrel := hpass.truck
    rw [hcell] at hrel
    cases hc : c.truck with
    | none => rw [hc] at hrel; cases hrel
    | some truck' =>
      rw [hc] at hrel
      cases hrel with
      | some hrel => exact ⟨truck', htruck.trans hc, nofun, fun _ ↦ hrel⟩
  · exact ⟨truck, htruck.trans hcell, fun _ ↦ rfl, nofun⟩

/-- Passes over all routes of a linked world, in any order, advance it. -/
theorem advanced_of_swept (hl : w.RouteLinked) {passes : List (Int × Option RouteChanges)}
    (h : Swept (PassOf now) w passes w')
    (hids : (passes.map Prod.fst).Perm (w.routes.values.map DeliveryRoute.routeId)) :
    Advanced now (HeartbeatSummary.ofPasses passes).skippedRoutes w w' := by
  have hnd : (passes.map Prod.fst).Nodup := hids.nodup_iff.mpr Store.nodup_values
  have hvisit := fun {r route} ↦ @visited_of_swept _ _ _ _ h hids r route
  have hmem : ∀ r ∈ passes.map Prod.fst, ∃ route, w.routes.find? r = some route := fun r hr ↦ by
    rw [hids.mem_iff, List.mem_map] at hr
    obtain ⟨route, hroute, rfl⟩ := hr
    exact ⟨route, Store.mem_values.mp hroute⟩
  refine ⟨h.frame, Store.related_of_forward ?_ ?_, Store.related_of_forward ?_ ?_,
    Store.related_of_forward ?_ ?_, ?_⟩
  · intro r route hr
    obtain ⟨changes, c, hpasses, hpass, hroute, -, -⟩ := hvisit hr
    have hskip := mem_skipped_iff hnd hpasses
    refine ⟨c.route, hroute, ?_⟩
    unfold RouteMoved
    rw [Store.key_of_find? hr]
    obtain ⟨ch, rfl, hpass⟩ | ⟨rfl, rfl, -⟩ := hpass
    · rw [if_neg (by simp [hskip])]
      refine ⟨hpass.routeId, hpass.plan, hpass.listedPackages, hpass.status, ?_⟩
      rw [hpass.routeTruck]
      show (if (w.truckOf route).isSome ∧ route.Finished now then none else route.truck) = _
      rw [← Option.isSome_map, hl.map_truckOf hr]
      by_cases hfin : route.Finished now
      · cases route.truck <;> simp [hfin]
      · simp [hfin]
    · rw [if_pos (hskip.mpr rfl)]
      rfl
  · intro r hr
    rw [h.route_kept r fun hmem' ↦ ?_, hr]
    obtain ⟨route, hroute⟩ := hmem r hmem'
    rw [hr] at hroute
    cases hroute
  · intro t truck ht
    cases hlink : truck.route with
    | none =>
      refine ⟨truck, ?_, ⟨fun _ ↦ rfl, by simp [hlink], by simp [hlink]⟩⟩
      rw [h.truck_kept t fun r hr route hroute htr ↦ ?_, ht]
      obtain ⟨x, hx, hxr⟩ := hl.truck_of_route hroute htr
      rw [ht, Option.some.injEq] at hx
      rw [← hx, hlink] at hxr
      cases hxr
    | some r =>
      obtain ⟨route, hr, htr⟩ := hl.route_of_truck ht hlink
      obtain ⟨changes, c, hpasses, hpass, -, htruck, -⟩ := hvisit hr
      have hskip := mem_skipped_iff hnd hpasses
      obtain ⟨truck', ht', hnone, hsome⟩ := exists_truck_of_pass hpass htruck ht htr
      refine ⟨truck', ht', ⟨by simp [hlink], fun r' hr' hs ↦ ?_, fun r' hr' x hx hs ↦ ?_⟩⟩
      · obtain rfl : r = r' := Option.some.inj (hlink.symm.trans hr')
        exact hnone (hskip.mp hs)
      · obtain rfl : r = r' := Option.some.inj (hlink.symm.trans hr')
        rw [hr, Option.some.injEq] at hx
        exact hx ▸ hsome (Option.isSome_iff_ne_none.mpr fun hn ↦ hs (hskip.mpr hn))
  · intro t ht
    rw [h.truck_kept t fun r hr route hroute htr ↦ ?_, ht]
    obtain ⟨x, hx, -⟩ := hl.truck_of_route hroute htr
    rw [ht] at hx
    cases hx
  · intro p package hp
    cases hlink : package.route with
    | none =>
      refine ⟨package, ?_, ⟨fun _ ↦ rfl, by simp [hlink], by simp [hlink]⟩⟩
      rw [h.package_kept p fun r hr route hroute hmem' ↦ ?_, hp]
      obtain ⟨x, hx, hxr⟩ := hl.package_of_route hroute hmem'
      rw [hp, Option.some.injEq] at hx
      rw [← hx, hlink] at hxr
      cases hxr
    | some r =>
      obtain ⟨route, hr, hlist⟩ := hl.route_of_package hp hlink
      obtain ⟨changes, c, hpasses, hpass, -, -, hpackages⟩ := hvisit hr
      have hskip := mem_skipped_iff hnd hpasses
      obtain ⟨package', hp', hnone, hsome⟩ := exists_package_of_pass hpass hpackages hp hlist
      refine ⟨package', hp', ⟨by simp [hlink], fun r' hr' hs ↦ ?_, fun r' hr' x hx hs ↦ ?_⟩⟩
      · obtain rfl : r = r' := Option.some.inj (hlink.symm.trans hr')
        exact hnone (hskip.mp hs)
      · obtain rfl : r = r' := Option.some.inj (hlink.symm.trans hr')
        rw [hr, Option.some.injEq] at hx
        cases changes with
        | none => exact absurd (hskip.mpr rfl) hs
        | some ch => exact ⟨_, hx ▸ hsome ch rfl⟩
  · intro p hp
    rw [h.package_kept p fun r hr route hroute hmem' ↦ ?_, hp]
    obtain ⟨x, hx, -⟩ := hl.package_of_route hroute hmem'
    rw [hp] at hx
    cases hx
  · intro r hr
    unfold HeartbeatSummary.ofPasses at hr
    simp only [List.mem_filterMap] at hr
    obtain ⟨⟨r', changes⟩, hpasses, heq⟩ := hr
    cases changes with
    | some ch => simp at heq
    | none =>
      simp only [Option.isNone_none, if_true, Option.some.injEq] at heq
      subst heq
      obtain ⟨route, hroute⟩ := hmem r' (List.mem_map_of_mem hpasses)
      obtain ⟨c, hpass, -⟩ := h.visited _ _ hpasses _ hroute
      obtain ⟨ch, hch, -⟩ | ⟨-, -, truck, htruck, hloc, hfin⟩ := hpass
      · cases hch
      · have htruck' : route.truck.bind w.trucks.find? = some truck := htruck
        rw [Option.bind_eq_some_iff] at htruck'
        obtain ⟨t, ht, htr⟩ := htruck'
        exact ⟨route, t, truck, hroute, ht, htr, hloc, hfin⟩

/-! ### An advanced world is sound -/

/-- The route has finished and its pass could say so. -/
def Gone (now : Datetime) (skipped : List Int) (route : DeliveryRoute) : Prop :=
  route.routeId ∉ skipped ∧ route.Finished now

/-- A route keeps all but its status, its events and a truck that is done. -/
theorem RouteMoved.links {a b : DeliveryRoute} (h : RouteMoved now skipped a b) :
    SamePath a b ∧ b.plan = a.plan ∧ b.packages = a.packages ∧
      (Gone now skipped a → b.truck = none) ∧ (¬ Gone now skipped a → b.truck = a.truck) := by
  unfold RouteMoved at h
  unfold Gone
  split at h
  · next hs =>
    subst h
    exact ⟨⟨rfl, rfl⟩, rfl, rfl, fun hg ↦ absurd hs hg.1, fun _ ↦ rfl⟩
  · next hs =>
    refine ⟨⟨h.routeId, congrArg RoutePlan.path h.plan⟩, h.plan, h.packages, fun hg ↦ ?_,
      fun hg ↦ ?_⟩
    · rw [h.truck, if_pos hg.2]
    · rw [h.truck, if_neg fun hf ↦ hg ⟨hs, hf⟩]

/-- A truck stays the same vehicle and is released with its route only. -/
theorem TruckMoved.links {a b : Truck} (hl : w.RouteLinked)
    (h : TruckMoved w now skipped a b) {t : Int} (ht : w.trucks.find? t = some a)
    (hstate : a.LinkState) :
    a.SameVehicle b ∧ b.LinkState ∧ (a.route = none → b = a) ∧
      ∀ r route, a.route = some r → w.routes.find? r = some route →
        (Gone now skipped route → b.route = none) ∧ (¬ Gone now skipped route →
          b.route = a.route ∧ b.busyFrom = a.busyFrom ∧ b.busyUntil = a.busyUntil) := by
  unfold Gone
  cases hr : a.route with
  | none =>
    obtain rfl := h.idle hr
    exact ⟨.refl _, hstate, fun _ ↦ rfl, nofun⟩
  | some r =>
    obtain ⟨route, hroute, -⟩ := hl.route_of_truck ht hr
    have hid : route.routeId = r := Store.key_of_find? hroute
    by_cases hs : r ∈ skipped
    · obtain rfl := h.stuck r hr hs
      refine ⟨.refl _, hstate, nofun, fun r' x hr' hx ↦ ?_⟩
      obtain rfl := Option.some.inj hr'
      rw [Store.key_of_find? hx]
      exact ⟨fun hg ↦ absurd hs hg.1, fun _ ↦ ⟨hr, rfl, rfl⟩⟩
    · have hpass := h.passed r hr route hroute hs
      refine ⟨hpass.same, ?_, nofun, fun r' x hr' hx ↦ ?_⟩
      · by_cases hfin : route.Finished now
        · obtain ⟨h1, h2, h3, h4, h5, -⟩ := hpass.released hfin
          exact ⟨by simp [h1, h2], fun _ ↦ ⟨h3, h4, h5⟩⟩
        · obtain ⟨h1, h2, h3, h4⟩ := hpass.kept hfin
          refine ⟨by rw [h1, h2]; exact hstate.onTheWay, fun hn ↦ ?_⟩
          rw [h2, hr] at hn
          cases hn
      · obtain rfl := Option.some.inj hr'
        rw [hroute, Option.some.injEq] at hx
        subst hx
        refine ⟨fun hg ↦ (hpass.released hg.2).2.1, fun hg ↦ ?_⟩
        obtain ⟨-, h2, h3, h4⟩ := hpass.kept fun hfin ↦ hg ⟨hid ▸ hs, hfin⟩
        exact ⟨h2.trans hr, h3, h4⟩

/-- A package keeps its shipment and its route. -/
theorem PackageMoved.links {a b : DeliveryPackage} (hl : w.RouteLinked)
    (h : PackageMoved w now skipped a b) {p : Int} (hp : w.packages.find? p = some a) :
    a.SameShipment b ∧ b.route = a.route ∧ b.routeId = a.routeId ∧ (a.route = none → b = a) := by
  have hself : b = a → a.SameShipment b ∧ b.route = a.route ∧ b.routeId = a.routeId := by
    rintro rfl
    exact ⟨⟨rfl, rfl, rfl, rfl, rfl⟩, rfl, rfl⟩
  cases hr : a.route with
  | none =>
    have hba := h.waiting hr
    exact ⟨(hself hba).1, hba ▸ hr, (hself hba).2.2, fun _ ↦ hba⟩
  | some r =>
    by_cases hs : r ∈ skipped
    · have hba := h.stuck r hr hs
      exact ⟨(hself hba).1, hba ▸ hr, (hself hba).2.2, nofun⟩
    · obtain ⟨route, hroute, -⟩ := hl.route_of_package hp hr
      obtain ⟨_, hpass⟩ := h.passed r hr route hroute hs
      exact ⟨hpass.same, hpass.route.trans hr, hpass.routeId, nofun⟩

/-- Links stay consistent. -/
theorem Advanced.linked (h : Advanced now skipped w w') (hl : w.Linked) : w'.Linked := by
  have hcustomers : w'.customers = w.customers := by rw [h.frame]
  have hroute : ∀ {r b}, w'.routes.find? r = some b → ∃ a, w.routes.find? r = some a ∧
      RouteMoved now skipped a b := fun hb ↦ h.routes.backward hb
  have htruck : ∀ {t b}, w'.trucks.find? t = some b → ∃ a, w.trucks.find? t = some a ∧
      TruckMoved w now skipped a b := fun hb ↦ h.trucks.backward hb
  have hpackage : ∀ {p b}, w'.packages.find? p = some b → ∃ a, w.packages.find? p = some a ∧
      PackageMoved w now skipped a b := fun hb ↦ h.packages.backward hb
  have hl' := hl.toRouteLinked
  refine ⟨⟨?_, ?_, ?_, ?_, ?_, ?_⟩, ?_, ?_, ?_, ?_, ?_, ?_⟩
  · intro r t b hb ht
    obtain ⟨a, ha, hab⟩ := hroute hb
    obtain ⟨-, -, -, hgone, hkept⟩ := hab.links
    by_cases hg : Gone now skipped a
    · rw [hgone hg] at ht
      cases ht
    · obtain ⟨x, hx, hxr⟩ := hl.truck_of_route ha (hkept hg ▸ ht)
      obtain ⟨y, hy, hxy⟩ := h.trucks.forward hx
      obtain ⟨-, -, -, hroutes⟩ := hxy.links hl' hx (hl.linkState _ _ hx)
      exact ⟨y, hy, ((hroutes r a hxr ha).2 hg).1.trans hxr⟩
  · intro t r y hy hyr
    obtain ⟨x, hx, hxy⟩ := htruck hy
    obtain ⟨-, -, hidle, hroutes⟩ := hxy.links hl' hx (hl.linkState _ _ hx)
    cases hxr : x.route with
    | none =>
      rw [hidle hxr, hxr] at hyr
      cases hyr
    | some r' =>
      obtain ⟨a, ha, hat⟩ := hl.route_of_truck hx hxr
      by_cases hg : Gone now skipped a
      · rw [(hroutes r' a hxr ha).1 hg] at hyr
        cases hyr
      · rw [((hroutes r' a hxr ha).2 hg).1, hxr, Option.some.injEq] at hyr
        subst hyr
        obtain ⟨b, hb, hab⟩ := h.routes.forward ha
        exact ⟨b, hb, (hab.links.2.2.2.2 hg).trans hat⟩
  · intro r p b hb hp
    obtain ⟨a, ha, hab⟩ := hroute hb
    obtain ⟨x, hx, hxr⟩ := hl.package_of_route ha (hab.links.2.2.1 ▸ hp)
    obtain ⟨y, hy, hxy⟩ := h.packages.forward hx
    exact ⟨y, hy, (hxy.links hl' hx).2.1.trans hxr⟩
  · intro p r y hy hyr
    obtain ⟨x, hx, hxy⟩ := hpackage hy
    obtain ⟨a, ha, hap⟩ := hl.route_of_package hx ((hxy.links hl' hx).2.1 ▸ hyr)
    obtain ⟨b, hb, hab⟩ := h.routes.forward ha
    exact ⟨b, hb, hab.links.2.2.1.symm ▸ hap⟩
  · intro r b hb
    obtain ⟨a, ha, hab⟩ := hroute hb
    rw [hab.links.2.2.1]
    exact hl.nodup ha
  · intro p y hy
    obtain ⟨x, hx, hxy⟩ := hpackage hy
    obtain ⟨-, h1, h2, -⟩ := hxy.links hl' hx
    rw [h1, h2, hl.routeId hx]
  · intro t r y b hy hyr hb
    obtain ⟨x, hx, hxy⟩ := htruck hy
    obtain ⟨a, ha, hab⟩ := hroute hb
    obtain ⟨-, -, hidle, hroutes⟩ := hxy.links hl' hx (hl.linkState _ _ hx)
    cases hxr : x.route with
    | none =>
      rw [hidle hxr, hxr] at hyr
      cases hyr
    | some r' =>
      obtain ⟨a', ha', hat⟩ := hl.route_of_truck hx hxr
      by_cases hg : Gone now skipped a'
      · rw [(hroutes r' a' hxr ha').1 hg] at hyr
        cases hyr
      · obtain ⟨h1, h2, h3⟩ := (hroutes r' a' hxr ha').2 hg
        rw [h1, hxr, Option.some.injEq] at hyr
        subst hyr
        rw [h2, h3]
        unfold DeliveryRoute.departureTime DeliveryRoute.etaFinal
        rw [hab.links.2.1]
        exact hl.window hx hxr ha
  · intro p y hy
    obtain ⟨x, hx, hxy⟩ := hpackage hy
    rw [hcustomers, ← (hxy.links hl' hx).1.customer]
    exact hl.customer_of_package hx
  · intro c p customer hc hp
    rw [hcustomers] at hc
    obtain ⟨x, hx, hxc⟩ := hl.package_of_customer hc hp
    obtain ⟨y, hy, hxy⟩ := h.packages.forward hx
    exact ⟨y, hy, (hxy.links hl' hx).1.customer ▸ hxc⟩
  · rw [hcustomers]
    exact hl.nodup_customer
  · intro t y hy
    obtain ⟨x, hx, hxy⟩ := htruck hy
    exact (hxy.links hl' hx (hl.linkState _ _ hx)).2.1
  · intro p y hy hn
    obtain ⟨x, hx, hxy⟩ := hpackage hy
    obtain ⟨-, h1, -, h3⟩ := hxy.links hl' hx
    rw [h3 (h1 ▸ hn)]
    exact hl.waiting _ _ hx (h1 ▸ hn)

/-- Assigned packages stay on their routes. -/
theorem Advanced.onPath (h : Advanced now skipped w w') (hl : w.RouteLinked) (hpath : w.OnPath) :
    w'.OnPath := by
  intro r p b y hb hp hy
  obtain ⟨a, ha, hab⟩ := h.routes.backward hb
  obtain ⟨x, hx, hxy⟩ := h.packages.backward hy
  obtain ⟨hsame, -, hlist, -⟩ := hab.links
  have hship := (hxy.links hl hx).1
  rw [hsame.includesInOrder, ← hship.startLocation, ← hship.endLocation]
  exact hpath ha (hlist ▸ hp) hx

/-- Loads and distances stay within the limits. -/
theorem Advanced.withinLimits (h : Advanced now skipped w w') (hl : w.Linked)
    (hlimits : w.WithinLimits) : w'.WithinLimits := by
  intro r t b y hb ht hy
  obtain ⟨a, ha, hab⟩ := h.routes.backward hb
  obtain ⟨x, hx, hxy⟩ := h.trucks.backward hy
  obtain ⟨hsame, -, hlist, hgone, hkept⟩ := hab.links
  have hv := (hxy.links hl.toRouteLinked hx (hl.linkState _ _ hx)).1
  have hat : a.truck = some t := by
    by_cases hg : Gone now skipped a
    · rw [hgone hg] at ht
      cases ht
    · exact hkept hg ▸ ht
  rw [← hv.capacity, ← hv.maxRange]
  refine hsame.withinLimits (map_load_packagesOf hlist fun p _ ↦ ?_) (hlimits ha hat hx)
  cases hp : w.packages.find? p with
  | none =>
    cases hp' : w'.packages.find? p with
    | none => rfl
    | some q =>
      obtain ⟨q', hq', -⟩ := h.packages.backward hp'
      rw [hp] at hq'
      cases hq'
  | some q =>
    obtain ⟨q', hq', hqq⟩ := h.packages.forward hp
    have hship := (hqq.links hl.toRouteLinked hp).1
    rw [hq', Option.map_some, Option.map_some, DeliveryPackage.load, DeliveryPackage.load,
      hship.startLocation, hship.endLocation, hship.weight]

/-- Ids stay below the counters. -/
theorem Advanced.counted (h : Advanced now skipped w w') (hc : w.Counted) : w'.Counted := by
  have hframe := h.frame
  obtain ⟨c1, c2, c3, c4⟩ := hc
  have hn : w'.customers = w.customers ∧ w'.nextCustomerId = w.nextCustomerId ∧
      w'.nextPackageId = w.nextPackageId ∧ w'.nextRouteId = w.nextRouteId := by
    rw [hframe]
    exact ⟨rfl, rfl, rfl, rfl⟩
  obtain ⟨n1, n2, n3, n4⟩ := hn
  refine ⟨fun hx ↦ ?_, fun hx ↦ ?_, fun hx ↦ ?_, n2 ▸ n3 ▸ n4 ▸ c4⟩
  · rw [n2]
    exact c1 (n1 ▸ hx)
  · obtain ⟨a, ha, -⟩ := h.packages.backward hx
    rw [n3]
    exact c2 ha
  · obtain ⟨a, ha, -⟩ := h.routes.backward hx
    rw [n4]
    exact c3 ha

/-- Contacts and their indexes stay. -/
theorem Advanced.registered (h : Advanced now skipped w w') (hr : w.Registered u) :
    w'.Registered u := by
  obtain ⟨g1, g2, g3⟩ := hr
  have hframe := h.frame
  have h1 : w'.customers = w.customers := by rw [hframe]
  have h2 : w'.idByEmail = w.idByEmail := by rw [hframe]
  have h3 : w'.idByPhone = w.idByPhone := by rw [hframe]
  exact ⟨h1 ▸ g1, h1 ▸ h2 ▸ g2, h1 ▸ h3 ▸ g3⟩

end World
end FleetFlow
