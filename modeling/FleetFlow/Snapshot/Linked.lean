import FleetFlow.Runtime.Invariant
import FleetFlow.Snapshot.Rebuilt

/-!
# The linked world of a snapshot

How the linker joins the rebuilt routes with the rebuilt packages and with the candidate trucks.
Each package is linked once and each candidate truck takes at most one route, so the links of a
valid snapshot agree in both directions.
-/

namespace FleetFlow

variable {u : UnicodeTables} {fleet : Fleet}

/-- A package before and after a route links it. -/
def DeliveryRoute.Links (route : DeliveryRoute) (before after : DeliveryPackage) : Prop :=
  route.updateExpectedArrival (before.setRoute (some route.routeId)) = .ok after

/-- Linking sets the route and the expected arrival and leaves the rest. -/
theorem DeliveryRoute.Links.eq {route : DeliveryRoute} {before after : DeliveryPackage}
    (h : route.Links before after) :
    after = { before with
      route := some route.routeId
      routeId := some route.routeId
      expectedArrival := after.expectedArrival } ∧
    (route.plan.schedule? = none → after.expectedArrival = before.expectedArrival) ∧
    ∀ s, route.plan.schedule? = some s → after.expectedArrival = s.arrival? before.endLocation := by
  unfold Links updateExpectedArrival at h
  split at h
  · next hs =>
    obtain rfl := Except.ok.inj h
    exact ⟨rfl, fun _ ↦ rfl, fun s hs' ↦ absurd (hs.symm.trans hs') (by simp)⟩
  · next s hs =>
    rw [except_bind_eq_ok_iff] at h
    obtain ⟨arrival, harrival, h⟩ := h
    obtain rfl := Except.ok.inj h
    refine ⟨rfl, fun hs' ↦ absurd (hs.symm.trans hs') (by simp), fun s' hs' ↦ ?_⟩
    obtain rfl : s = s' := Option.some.inj (hs.symm.trans hs')
    exact (RouteSchedule.arrivalTimeAt_eq_ok_iff.mp harrival).symm

namespace WorldStateSnapshotLinker

/-! ### Packages -/

/-- The world after one route has been joined with its packages. -/
structure PackagesLinked (route : DeliveryRoute) (packageIds : List Int) (w w' : World) :
    Prop where
  frame : w' = { w with
    routes := w.routes.put { route with packages := packageIds }, packages := w'.packages }
  kept : ∀ p, p ∉ packageIds → w'.packages.find? p = w.packages.find? p
  linked : ∀ p ∈ packageIds, ∃ before after, w.packages.find? p = some before ∧
    w'.packages.find? p = some after ∧ route.Links before after

/-- One more package. -/
theorem PackagesLinked.step {route : DeliveryRoute} {done : List Int} {w t t' : World} {p : Int}
    (h : PackagesLinked route done w t) (hnew : p ∉ done)
    (hstep : linkPackage route.routeId t p = .ok t') :
    PackagesLinked route (done ++ [p]) w t' := by
  have hroutes : t.routes = w.routes.put { route with packages := done } := by
    rw [h.frame]
  simp only [linkPackage, except_bind_eq_ok_iff, Store.getItem_eq_ok_iff] at hstep
  obtain ⟨route', hroute', package, hpackage, ⟨route'', package'⟩, hrestore, hstep⟩ := hstep
  rw [hroutes, Store.find?_put, if_pos rfl] at hroute'
  obtain rfl := Option.some.inj hroute'
  have hid : package.packageId = p := Store.key_of_find? hpackage
  rw [DeliveryRoute.restorePackageLink, if_neg (by simpa [DeliveryRoute.hasPackage, hid] using hnew),
    except_bind_eq_ok_iff] at hrestore
  obtain ⟨linked, hlinked, hpair⟩ := hrestore
  obtain ⟨rfl, rfl⟩ := Prod.mk.inj (Except.ok.inj hpair)
  obtain rfl := Except.ok.inj hstep
  have hlinks : route.Links package linked := hlinked
  have hid' : linked.packageId = p := by
    rw [hlinks.eq.1]
    exact hid
  refine ⟨?_, ?_, ?_⟩
  · rw [h.frame, hid]
    simp only [World.putPackage]
    rw [Store.put_put]
    rfl
  · intro q hq
    rw [List.mem_append, List.mem_singleton, not_or] at hq
    rw [Store.find?_put, hid', if_neg (Ne.symm hq.2)]
    exact h.kept q hq.1
  · intro q hq
    rw [Store.find?_put, hid']
    rcases List.mem_append.mp hq with hq | hq
    · have hne : ¬ p = q := by
        rintro rfl
        exact hnew hq
      rw [if_neg hne]
      exact h.linked q hq
    · obtain rfl := List.mem_singleton.mp hq
      rw [if_pos rfl]
      exact ⟨package, linked, (h.kept q hnew).symm.trans hpackage, rfl, hlinks⟩

/-- The packages of one unlinked route. -/
theorem packagesLinked_of_foldlM {route : DeliveryRoute} {packageIds : List Int} {w w' : World}
    (hroute : w.routes.find? route.routeId = some route) (hempty : route.packages = [])
    (hnd : packageIds.Nodup) (h : packageIds.foldlM (linkPackage route.routeId) w = .ok w') :
    PackagesLinked route packageIds w w' := by
  refine foldlM_eq_ok (fun done t ↦ PackagesLinked route done w t) h ⟨?_, ?_, ?_⟩ ?_
  · have hself : { route with packages := [] } = route := by
      rw [← hempty]
    rw [hself, Store.put_eq_self hroute]
  · exact fun p _ ↦ rfl
  · intro p hp
    cases hp
  · intro done p rest hids t t' hdone hstep
    rw [hids, List.nodup_append] at hnd
    exact hdone.step (fun hmem ↦ hnd.2.2 p hmem p (by simp) rfl) hstep

/-- The world after all routes have been joined with their packages. -/
structure RoutesJoined (snapshots : List RouteSnapshot) (w w' : World) : Prop where
  frame : w' = { w with routes := w'.routes, packages := w'.packages }
  route : ∀ snapshot ∈ snapshots, ∃ route, w.routes.find? snapshot.routeId = some route ∧
    w'.routes.find? snapshot.routeId = some { route with packages := snapshot.packageIds } ∧
    ∀ p ∈ snapshot.packageIds, ∃ before after, w.packages.find? p = some before ∧
      w'.packages.find? p = some after ∧ route.Links before after
  route_kept : ∀ r, r ∉ snapshots.map RouteSnapshot.routeId →
    w'.routes.find? r = w.routes.find? r
  package_kept : ∀ p, (∀ snapshot ∈ snapshots, p ∉ snapshot.packageIds) →
    w'.packages.find? p = w.packages.find? p

theorem routesJoined_of_link {snapshots : List RouteSnapshot} {w w' : World}
    (hempty : ∀ snapshot ∈ snapshots, ∀ route, w.routes.find? snapshot.routeId = some route →
      route.packages = [])
    (hids : (snapshots.map RouteSnapshot.routeId).Nodup)
    (hlisted : ∀ snapshot ∈ snapshots, snapshot.packageIds.Nodup)
    (hapart : snapshots.Pairwise fun a b ↦ ∀ p ∈ a.packageIds, p ∉ b.packageIds)
    (h : linkPackagesToRoutes w snapshots = .ok w') : RoutesJoined snapshots w w' := by
  induction snapshots generalizing w with
  | nil =>
    rw [linkPackagesToRoutes, List.foldlM_nil] at h
    obtain rfl := Except.ok.inj h
    refine ⟨rfl, ?_, fun _ _ ↦ rfl, fun _ _ ↦ rfl⟩
    intro snapshot hmem
    cases hmem
  | cons snapshot rest ih =>
    rw [List.map_cons, List.nodup_cons] at hids
    rw [List.pairwise_cons] at hapart
    simp only [linkPackagesToRoutes, List.foldlM_cons, except_bind_eq_ok_iff,
      Store.getItem_eq_ok_iff] at h
    obtain ⟨t, ⟨route, hroute, hfirst⟩, hrest⟩ := h
    have hid : route.routeId = snapshot.routeId := Store.key_of_find? hroute
    rw [← hid] at hroute hfirst
    have hone := packagesLinked_of_foldlM hroute (hempty snapshot (by simp) route (hid ▸ hroute))
      (hlisted snapshot (by simp)) hfirst
    have hroutes : ∀ r, t.routes.find? r =
        if route.routeId = r then some { route with packages := snapshot.packageIds }
        else w.routes.find? r := by
      intro r
      rw [hone.frame, Store.find?_put]
    have hother : ∀ other ∈ rest, t.routes.find? other.routeId = w.routes.find? other.routeId := by
      intro other hmem
      rw [hroutes, if_neg]
      intro heq
      exact hids.1 (List.mem_map.mpr ⟨other, hmem, heq.symm.trans hid⟩)
    have hall := ih (fun other hmem route' hroute' ↦
        hempty other (by simp [hmem]) route' (hother other hmem ▸ hroute')) hids.2
      (fun other hmem ↦ hlisted other (by simp [hmem])) hapart.2 hrest
    refine ⟨?_, ?_, ?_, ?_⟩
    · rw [hall.frame, hone.frame]
    · intro other hmem
      rcases List.mem_cons.mp hmem with rfl | hmem
      · refine ⟨route, hid ▸ hroute, ?_, ?_⟩
        · rw [hall.route_kept _ hids.1, hroutes, if_pos hid]
        · intro p hp
          obtain ⟨before, after, hbefore, hafter, hlinks⟩ := hone.linked p hp
          refine ⟨before, after, hbefore, ?_, hlinks⟩
          rw [hall.package_kept p fun other hother ↦ hapart.1 other hother p hp, hafter]
      · obtain ⟨route', hroute', hroute'', hpackages⟩ := hall.route other hmem
        refine ⟨route', hother other hmem ▸ hroute', hroute'', ?_⟩
        intro p hp
        obtain ⟨before, after, hbefore, hafter, hlinks⟩ := hpackages p hp
        refine ⟨before, after, ?_, hafter, hlinks⟩
        rw [← hone.kept p fun hmem' ↦ hapart.1 other hmem p hmem' hp, hbefore]
    · intro r hr
      rw [List.map_cons, List.mem_cons, not_or] at hr
      rw [hall.route_kept r hr.2, hroutes, if_neg fun heq ↦ hr.1 (heq.symm.trans hid)]
    · intro p hp
      rw [hall.package_kept p fun other hother ↦ hp other (by simp [hother]),
        hone.kept p (hp snapshot (by simp))]

/-! ### Trucks -/

/-- The world after the candidate trucks have taken their routes. -/
structure TrucksJoined (fleet : Fleet) (snapshots : List RouteSnapshot) (w w' : World) :
    Prop where
  frame : w' = { w with routes := w'.routes, trucks := w'.trucks }
  route : ∀ snapshot ∈ snapshots, ∀ t ∈ snapshot.truckVehicleId, ∃ route candidate,
    w.routes.find? snapshot.routeId = some route ∧
    candidateTruck fleet w route t = .ok candidate ∧
    w'.routes.find? snapshot.routeId = some { route with truck := some t } ∧
    w'.trucks.find? t = some (candidate.assign route)
  route_kept : ∀ r, (∀ snapshot ∈ snapshots, snapshot.truckVehicleId.isSome →
    snapshot.routeId ≠ r) → w'.routes.find? r = w.routes.find? r
  truck_kept : ∀ t, t ∉ snapshots.filterMap RouteSnapshot.truckVehicleId →
    w'.trucks.find? t = w.trucks.find? t

/-- A candidate truck is the truck that was asked for. -/
theorem vehicleId_of_candidateTruck {w : World} {route : DeliveryRoute} {t : Int} {truck : Truck}
    (h : candidateTruck fleet w route t = .ok truck) : truck.vehicleId = t := by
  unfold candidateTruck at h
  split at h
  · next candidate hfind =>
    obtain rfl := Except.ok.inj h
    exact Store.key_of_find? hfind
  · simp only [except_bind_eq_ok_iff, Store.getItem_eq_ok_iff, Except.ok.injEq] at h
    obtain ⟨real, hfind, rfl⟩ := h
    have hkey : real.vehicleId = t := Store.key_of_find? hfind
    exact hkey

/-- Only the trucks found so far matter to a candidate. -/
theorem candidateTruck_congr {w w' : World} {route : DeliveryRoute} {t : Int}
    (h : w'.trucks.find? t = w.trucks.find? t) :
    candidateTruck fleet w' route t = candidateTruck fleet w route t := by
  unfold candidateTruck
  rw [h]

theorem trucksJoined_of_link {snapshots : List RouteSnapshot} {w w' : World}
    (hids : (snapshots.map RouteSnapshot.routeId).Nodup)
    (htrucks : (snapshots.filterMap RouteSnapshot.truckVehicleId).Nodup)
    (h : snapshots.foldlM (linkCandidateTruck fleet) w = .ok w') :
    TrucksJoined fleet snapshots w w' := by
  induction snapshots generalizing w with
  | nil =>
    rw [List.foldlM_nil] at h
    obtain rfl := Except.ok.inj h
    refine ⟨rfl, ?_, fun _ _ ↦ rfl, fun _ _ ↦ rfl⟩
    intro snapshot hmem
    cases hmem
  | cons snapshot rest ih =>
    rw [List.map_cons, List.nodup_cons] at hids
    rw [List.foldlM_cons, except_bind_eq_ok_iff] at h
    obtain ⟨w1, hfirst, hrest⟩ := h
    unfold linkCandidateTruck at hfirst
    cases ht : snapshot.truckVehicleId with
    | none =>
      rw [List.filterMap_cons_none ht] at htrucks
      simp only [ht, Except.ok.injEq] at hfirst
      subst hfirst
      have hall := ih hids.2 htrucks hrest
      refine ⟨hall.frame, ?_, ?_, ?_⟩
      · intro other hmem t' ht'
        rcases List.mem_cons.mp hmem with rfl | hmem
        · rw [ht] at ht'
          cases ht'
        · exact hall.route other hmem t' ht'
      · intro r hr
        exact hall.route_kept r fun other hmem ↦ hr other (by simp [hmem])
      · intro t' ht'
        rw [List.filterMap_cons_none ht] at ht'
        exact hall.truck_kept t' ht'
    | some t =>
      rw [List.filterMap_cons_some ht, List.nodup_cons] at htrucks
      simp only [ht, except_bind_eq_ok_iff, Store.getItem_eq_ok_iff, Except.ok.injEq] at hfirst
      obtain ⟨route, hroute, candidate, hcandidate, rfl⟩ := hfirst
      have hid : route.routeId = snapshot.routeId := Store.key_of_find? hroute
      have hcid : candidate.vehicleId = t := vehicleId_of_candidateTruck hcandidate
      have hvid : (candidate.assign route).vehicleId = t := hcid
      have hall := ih hids.2 htrucks.2 hrest
      have hfresh : ∀ other ∈ rest, snapshot.routeId ≠ other.routeId := by
        intro other hmem heq
        exact hids.1 (List.mem_map.mpr ⟨other, hmem, heq.symm⟩)
      refine ⟨?_, ?_, ?_, ?_⟩
      · rw [hall.frame]
      · intro other hmem t' ht'
        rcases List.mem_cons.mp hmem with rfl | hmem
        · obtain rfl : t = t' := Option.some.inj (ht.symm.trans ht')
          refine ⟨route, candidate, hroute, hcandidate, ?_, ?_⟩
          · rw [hall.route_kept _ fun x hx _ heq ↦ hfresh x hx heq.symm, Store.find?_put,
              if_pos hid]
          · rw [hall.truck_kept t htrucks.1, Store.find?_put, if_pos hvid]
        · obtain ⟨route', candidate', hroute', hcandidate', hafter, htruck⟩ :=
            hall.route other hmem t' ht'
          have hne : t ≠ t' := by
            rintro rfl
            exact htrucks.1 (List.mem_filterMap.mpr ⟨other, hmem, ht'⟩)
          refine ⟨route', candidate', ?_, ?_, hafter, htruck⟩
          · rwa [Store.find?_put, if_neg fun heq ↦ hfresh other hmem (hid.symm.trans heq)] at hroute'
          · rw [← hcandidate']
            refine (candidateTruck_congr ?_).symm
            rw [Store.find?_put, if_neg (hvid ▸ hne)]
      · intro r hr
        rw [hall.route_kept r fun other hmem ↦ hr other (by simp [hmem]), Store.find?_put, if_neg]
        intro heq
        exact hr snapshot (by simp) (by simp [ht]) (hid.symm.trans heq)
      · intro t' ht'
        rw [List.filterMap_cons_some ht, List.mem_cons, not_or] at ht'
        rw [hall.truck_kept t' ht'.2, Store.find?_put, if_neg (hvid ▸ Ne.symm ht'.1)]

end WorldStateSnapshotLinker

/-! ### The whole linked world -/

/-- A package of the linked world: linked with the route that its record names. -/
def PackageSnapshot.LinksIn (w : World) (snapshot : PackageSnapshot) (package : DeliveryPackage) :
    Prop :=
  ∃ before, snapshot.Rebuilds before ∧ (snapshot.routeId = none → package = before) ∧
    ∀ r ∈ snapshot.routeId, ∃ route, w.routes.find? r = some route ∧ route.Links before package

/-- A route of the linked world: with the packages and the truck that its record names. -/
def RouteSnapshot.Joins (u : UnicodeTables) (snapshot : RouteSnapshot) (route : DeliveryRoute) :
    Prop :=
  ∃ base, snapshot.Rebuilds u base ∧
    route = { base with packages := snapshot.packageIds, truck := snapshot.truckVehicleId }

/-- The candidate truck of a route: the clone with the state of its record, or a free clone at the
start of the route when there is no record. -/
def CandidateFor (u : UnicodeTables) (fleet : Fleet) (trucks : List TruckSnapshot)
    (route : DeliveryRoute) (t : Int) (truck : Truck) : Prop :=
  (∃ snapshot ∈ trucks, snapshot.vehicleId = t ∧
    WorldStateSnapshotLinker.buildCandidateTruck u fleet snapshot = .ok truck) ∨
  t ∉ trucks.map TruckSnapshot.vehicleId ∧ ∃ real, fleet.find? t = some real ∧
    truck = { real with
      status := .free
      currentLocation := some route.startLocation
      busyFrom := none, busyUntil := none, inTransitTo := none, route := none }

/-- The detached world after both kinds of links. -/
structure WorldSnapshotData.Linked (u : UnicodeTables) (fleet : Fleet) (data : WorldSnapshotData)
    (w : World) : Prop where
  frame : w = { WorldStateSnapshotRebuilder.assemble data.counters w.customers w.packages w.routes with
    trucks := w.trucks }
  customers : w.customers.Lists CustomerSnapshot.customerId (CustomerSnapshot.Rebuilds u data.packages)
    data.customers
  packages : w.packages.Lists PackageSnapshot.packageId (PackageSnapshot.LinksIn w) data.packages
  routes : w.routes.Lists RouteSnapshot.routeId (RouteSnapshot.Joins u) data.routes
  assigned : ∀ snapshot ∈ data.routes, ∀ t ∈ snapshot.truckVehicleId, ∃ route candidate,
    w.routes.find? snapshot.routeId = some route ∧ CandidateFor u fleet data.trucks route t candidate ∧
    w.trucks.find? t = some (candidate.assign route)
  unassigned : ∀ t, t ∉ data.routes.filterMap RouteSnapshot.truckVehicleId → ∀ truck,
    w.trucks.find? t = some truck ↔ ∃ snapshot ∈ data.trucks, snapshot.vehicleId = t ∧
      WorldStateSnapshotLinker.buildCandidateTruck u fleet snapshot = .ok truck

namespace WorldStateSnapshotLinker

theorem vehicleId_of_buildCandidateTruck {snapshot : TruckSnapshot} {truck : Truck}
    (h : buildCandidateTruck u fleet snapshot = .ok truck) :
    truck.vehicleId = snapshot.vehicleId := by
  simp only [buildCandidateTruck, except_bind_eq_ok_iff, Store.getItem_eq_ok_iff,
    Except.ok.injEq] at h
  obtain ⟨real, hreal, -, -, -, -, rfl⟩ := h
  have hkey : real.vehicleId = snapshot.vehicleId := Store.key_of_find? hreal
  exact hkey

/-- Two routes of a valid snapshot do not list the same package. -/
theorem pairwise_packageIds {data : WorldSnapshotData} {version : Int}
    (h : data.Valid u fleet version) :
    data.routes.Pairwise fun a b ↦ ∀ p ∈ a.packageIds, p ∉ b.packageIds := by
  have hids : data.routes.Pairwise fun a b ↦ a.routeId ≠ b.routeId :=
    List.pairwise_map.mp h.routeIds.nodup
  refine hids.imp_of_mem fun {a b} ha hb hne p hpa hpb ↦ hne ?_
  obtain ⟨x, hx, hxid, hxr⟩ := h.package_of_route a ha p hpa
  obtain ⟨y, hy, hyid, hyr⟩ := h.package_of_route b hb p hpb
  obtain rfl : x = y := List.inj_on_of_nodup_map h.packageIds.nodup hx hy (hxid.trans hyid.symm)
  exact Option.some.inj (hxr.symm.trans hyr)

/-- What a successful link gives for a valid snapshot. -/
theorem linked_of_link {snapshot : WorldStateSnapshot} {rebuilt w : World}
    (hvalid : snapshot.world.Valid u fleet snapshot.schemaVersion)
    (hrebuilt : snapshot.world.Rebuilt u rebuilt) (h : link u fleet snapshot rebuilt = .ok w) :
    snapshot.world.Linked u fleet w := by
  simp only [link, except_bind_eq_ok_iff, catching_eq_ok_iff] at h
  obtain ⟨w1, hpackages, trucks, htrucks, hroutes⟩ := h
  have hbase : ∀ record ∈ snapshot.world.routes, ∀ route,
      rebuilt.routes.find? record.routeId = some route → record.Rebuilds u route :=
    fun record hrecord route hroute ↦
      hrebuilt.routes.rel_of_find? hvalid.routeIds.nodup hrecord hroute
  have h1 := routesJoined_of_link (fun record hrecord route hroute ↦
      (WorldStateSnapshotRebuilder.rebuildRoute_eq_ok_iff.mp
        (hbase record hrecord route hroute)).2.2.2.2.1) hvalid.routeIds.nodup
    (fun record hrecord ↦ (hvalid.listed record hrecord).nodup) (pairwise_packageIds hvalid)
    hpackages
  have h2 := trucksJoined_of_link hvalid.routeIds.nodup hvalid.trucks_nodup hroutes
  have hcandidates : (Store.ofList trucks : Fleet).Lists TruckSnapshot.vehicleId
      (fun record truck ↦ buildCandidateTruck u fleet record = .ok truck) snapshot.world.trucks :=
    Store.lists_ofList (mapM_eq_ok_iff.mp htrucks) hvalid.truckIds.nodup
      fun _ _ hrel ↦ vehicleId_of_buildCandidateTruck hrel
  -- Every route ends with the packages and the truck of its record.
  have hjoined : ∀ record ∈ snapshot.world.routes, ∃ base, record.Rebuilds u base ∧
      rebuilt.routes.find? record.routeId = some base ∧
      w.routes.find? record.routeId = some { base with
        packages := record.packageIds, truck := record.truckVehicleId } := by
    intro record hrecord
    obtain ⟨base, hfind, hfind1, -⟩ := h1.route record hrecord
    have hrel := hbase record hrecord base hfind
    refine ⟨base, hrel, hfind, ?_⟩
    cases ht : record.truckVehicleId with
    | none =>
      rw [h2.route_kept record.routeId, hfind1]
      · rw [← (WorldStateSnapshotRebuilder.rebuildRoute_eq_ok_iff.mp hrel).2.2.2.1]
      · intro other hother hsome heq
        obtain rfl := List.inj_on_of_nodup_map hvalid.routeIds.nodup hother hrecord heq
        rw [ht] at hsome
        cases hsome
    | some t =>
      obtain ⟨route, candidate, hroute, -, hafter, -⟩ := h2.route record hrecord t ht
      obtain rfl := Option.some.inj (hfind1.symm.trans hroute)
      exact hafter
  refine ⟨?_, ?_, ?_, ?_, ?_, ?_⟩
  · rw [h2.frame, h1.frame, hrebuilt.frame]
    rfl
  · rw [h2.frame, h1.frame]
    exact hrebuilt.customers
  · have hstore : w.packages = w1.packages := by
      rw [h2.frame]
    rw [hstore]
    refine Store.lists_of_forward (fun record hrecord ↦ ?_) (fun p hp ↦ ?_)
    · obtain ⟨before, hbefore, hrel⟩ := hrebuilt.packages.forward hrecord
      cases hr : record.routeId with
      | none =>
        refine ⟨before, ?_, before, hrel, fun _ ↦ rfl, fun r hmem ↦ ?_⟩
        · rw [h1.package_kept record.packageId, hbefore]
          intro other hother hmem
          obtain ⟨record', hrecord', hid, hroute⟩ :=
            hvalid.package_of_route other hother _ hmem
          obtain rfl := List.inj_on_of_nodup_map hvalid.packageIds.nodup hrecord' hrecord hid
          rw [hr] at hroute
          cases hroute
        · rw [hr] at hmem
          cases hmem
      | some r =>
        obtain ⟨other, hother, hid, hmem, -⟩ := hvalid.route_of_package record hrecord r hr
        obtain ⟨route, hroute, -, hlinks⟩ := h1.route other hother
        obtain ⟨before', after, hbefore', hafter, hlink⟩ := hlinks _ hmem
        obtain rfl := Option.some.inj (hbefore.symm.trans hbefore')
        obtain ⟨base, -, hfind, hfinal⟩ := hjoined other hother
        obtain rfl := Option.some.inj (hroute.symm.trans hfind)
        refine ⟨after, hafter, before, hrel, fun hnone ↦ absurd (hr.symm.trans hnone) (by simp),
          fun r' hr' ↦ ?_⟩
        obtain rfl := Option.some.inj (hr.symm.trans hr')
        rw [← hid]
        exact ⟨{ route with packages := other.packageIds, truck := other.truckVehicleId }, hfinal,
          hlink⟩
    · rw [h1.package_kept p, hrebuilt.packages.find?_eq_none hp]
      intro other hother hmem
      obtain ⟨record, hrecord, hid, -⟩ := hvalid.package_of_route other hother p hmem
      exact hp (List.mem_map.mpr ⟨record, hrecord, hid⟩)
  · refine Store.lists_of_forward (fun record hrecord ↦ ?_) (fun r hr ↦ ?_)
    · obtain ⟨base, hrel, -, hfinal⟩ := hjoined record hrecord
      exact ⟨_, hfinal, base, hrel, rfl⟩
    · rw [h2.route_kept r, h1.route_kept r hr, hrebuilt.routes.find?_eq_none hr]
      rintro other hother - rfl
      exact hr (List.mem_map.mpr ⟨other, hother, rfl⟩)
  · intro record hrecord t ht
    obtain ⟨route, candidate, -, hcandidate, hfinal, htruck⟩ := h2.route record hrecord t ht
    refine ⟨_, candidate, hfinal, ?_, htruck⟩
    unfold candidateTruck at hcandidate
    split at hcandidate
    · next listed hlisted =>
      obtain rfl := Except.ok.inj hcandidate
      exact .inl (hcandidates.backward hlisted)
    · next hnone =>
      simp only [except_bind_eq_ok_iff, Store.getItem_eq_ok_iff, Except.ok.injEq] at hcandidate
      obtain ⟨real, hreal, rfl⟩ := hcandidate
      refine .inr ⟨?_, real, hreal, rfl⟩
      intro hmem
      obtain ⟨listed, hmem, hid⟩ := List.mem_map.mp hmem
      obtain ⟨candidate, hfind, -⟩ := hcandidates.forward hmem
      rw [hid] at hfind
      exact absurd (hfind.symm.trans hnone) (by simp)
  · intro t ht truck
    rw [h2.truck_kept t ht]
    constructor
    · intro htruck
      exact hcandidates.backward htruck
    · rintro ⟨record, hrecord, rfl, hbuild⟩
      obtain ⟨truck', hfind, hbuild'⟩ := hcandidates.forward hrecord
      rw [hbuild, Except.ok.injEq] at hbuild'
      rw [hbuild']
      exact hfind

end WorldStateSnapshotLinker
end FleetFlow
