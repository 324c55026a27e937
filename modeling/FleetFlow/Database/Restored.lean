import FleetFlow.Database.Parity
import FleetFlow.Database.WorldGraph

/-!
# What the loader restores

The tables that the importer leaves load into the prepared world. Links are stored once, as foreign
keys, and come back in both directions, in whatever order the rows are listed.
-/

namespace FleetFlow

open Database

/-! ### Objects without links -/

/-- A customer as its row tells it. -/
def Customer.unlinked (customer : Customer) : Customer :=
  { customer with deliveryPackages := [], pendingEvents := [] }

/-- A customer that lists its packages among some packages. -/
def Customer.listing (packages : List DeliveryPackage) (customer : Customer) : Customer :=
  { customer.unlinked with deliveryPackages := (packages.filter fun package ↦
      package.customer = customer.customerId).map DeliveryPackage.packageId }

/-- One more package to list. -/
theorem Customer.listing_append {packages : List DeliveryPackage} {package : DeliveryPackage}
    (hnew : package.packageId ∉ packages.map DeliveryPackage.packageId) (customer : Customer) :
    customer.listing (packages ++ [package]) = if package.customer = customer.customerId then
      (customer.listing packages).restorePackageLink package.packageId
    else customer.listing packages := by
  have hunlisted : package.packageId ∉ (customer.listing packages).deliveryPackages := by
    intro hin
    obtain ⟨other, hother, hid⟩ := List.mem_map.mp hin
    exact hnew (List.mem_map.mpr ⟨other, (List.mem_filter.mp hother).1, hid⟩)
  unfold Customer.restorePackageLink
  rw [if_neg hunlisted]
  unfold Customer.listing
  rw [List.filter_append]
  split
  · next howner => simp [howner]
  · next howner => simp [howner]

/-- Linking a package leaves the customer's id. -/
theorem Customer.customerId_restorePackageLink (customer : Customer) (p : Int) :
    (customer.restorePackageLink p).customerId = customer.customerId := by
  unfold Customer.restorePackageLink
  split <;> rfl

/-- A truck as its row tells it. -/
def Truck.unlinked (truck : Truck) : Truck := { truck with route := none }

/-- A package as its row tells it. -/
def DeliveryPackage.unlinked (package : DeliveryPackage) : DeliveryPackage :=
  { package with
    route := none, storedLocation := some package.currentLocation, pendingEvents := [] }

/-- A route as its rows tell it. -/
def DeliveryRoute.unlinked (route : DeliveryRoute) : DeliveryRoute :=
  { route with truck := none, packages := [], pendingEvents := [] }

/-- The rows of a route joined with its stops. -/
def DeliveryRoute.joined (route : DeliveryRoute) : List RouteStopJoin :=
  (stopRows route).map fun stop ↦ ⟨.ofRoute route, stop⟩

/-- A route that has its truck if it is one of some routes. -/
def DeliveryRoute.rejoined (routes : List Int) (route : DeliveryRoute) : DeliveryRoute :=
  { route.unlinked with truck := if route.routeId ∈ routes then route.truck else none }

/-- A truck that has its route if it is one of some routes. -/
def Truck.rejoined (routes : List Int) (truck : Truck) : Truck :=
  { truck with route := truck.route.filter fun r ↦ r ∈ routes }

/-- A package that has its route if it is one of some packages. -/
def DeliveryPackage.rejoined (packages : List Int) (package : DeliveryPackage) : DeliveryPackage :=
  { package.unlinked with
    route := if package.packageId ∈ packages then package.route else none }

/-- A route that lists its packages among some packages. -/
def DeliveryRoute.listing (packages : List DeliveryPackage) (route : DeliveryRoute) :
    DeliveryRoute :=
  { route with
    packages := (packages.filter fun package ↦ package.route = some route.routeId).map
      DeliveryPackage.packageId
    pendingEvents := [] }

/-- One more package to list. -/
theorem DeliveryRoute.listing_append {packages : List DeliveryPackage} {package : DeliveryPackage}
    (route : DeliveryRoute) : route.listing (packages ++ [package]) =
      if package.route = some route.routeId then
        { route.listing packages with
          packages := (route.listing packages).packages ++ [package.packageId] }
      else route.listing packages := by
  unfold listing
  rw [List.filter_append]
  split
  · next hon => simp [hon]
  · next hon => simp [hon]

namespace Database

variable {u : UnicodeTables}

/-- A clean customer is mapped back. -/
theorem mapCustomer_ofCustomer {customer : Customer} (h : customer.contact.Clean u) :
    mapCustomer u (.ofCustomer customer) = .ok customer.unlinked := by
  have hcontact : ContactInfo.new u (CustomerRow.ofCustomer customer).name
      (CustomerRow.ofCustomer customer).email (CustomerRow.ofCustomer customer).phone =
        .ok customer.contact := h
  unfold mapCustomer
  rw [hcontact, ok_bind]
  exact Customer.new_eq_ok_iff.mpr ⟨rfl, rfl, rfl, rfl⟩

/-- A truck is mapped back. -/
theorem mapTruck_ofTruck {truck : Truck} : mapTruck (.ofTruck truck) = .ok truck.unlinked := by
  obtain ⟨hid, hcapacity, hrange⟩ := truck.valid
  have hnew : Truck.new (ρ := Int) truck.vehicleId truck.name truck.capacity truck.maxRange =
      .ok { truck with
        status := .free, currentLocation := none, route := none, busyFrom := none
        busyUntil := none, inTransitTo := none } := by
    unfold Truck.new
    simp only [requirePositiveInt]
    rw [require_bind_of_true (by omega), require_bind_of_true (by omega),
      require_bind_of_true (by omega), dif_pos truck.valid]
  unfold mapTruck TruckRow.ofTruck
  dsimp only
  rw [hnew]
  rfl

/-- A package is mapped back. -/
theorem mapPackage_ofPackage {package : DeliveryPackage} {customer : Customer}
    (hcustomer : customer.customerId = package.customer) (hroute : ∀ r ∈ package.routeId, 0 < r) :
    mapPackage (.ofPackage package) customer = .ok package.unlinked := by
  have hnew : DeliveryPackage.new package.startLocation package.endLocation
      (.finite package.weight) package.customer package.packageId =
        .ok { package with
          route := none, routeId := none, storedLocation := some package.startLocation
          expectedArrival := none, status := .todo, pendingEvents := [] } := by
    unfold DeliveryPackage.new
    split
    · next w hw =>
      rw [package.valid, Except.ok.injEq] at hw
      subst hw
      rfl
    · next e he =>
      rw [package.valid] at he
      cases he
  unfold mapPackage PackageRow.ofPackage
  dsimp only
  rw [hcustomer, hnew, ok_bind, require_bind_of_true hroute]
  rfl

/-- The rows of a route are sorted by their order. -/
theorem sorted_joined (route : DeliveryRoute) :
    route.joined.Pairwise fun a b ↦ a.stop.stopOrder < b.stop.stopOrder := by
  have horders : (route.locations.zipIdx.map Prod.snd).Pairwise (· < ·) := by
    rw [List.zipIdx_map_snd]
    exact List.pairwise_lt_range'
  unfold DeliveryRoute.joined stopRows
  rw [List.map_map, List.pairwise_map]
  exact (List.pairwise_map.mp horders).imp fun hlt ↦ Int.ofNat_lt.mpr hlt

/-- A route is mapped back from its rows in the order of the stops. -/
theorem mapRoute_joined {route : DeliveryRoute} : mapRoute route.joined = .ok route.unlinked := by
  have hlocations : route.joined.map (fun row ↦ row.stop.locationCode) = route.locations := by
    unfold DeliveryRoute.joined stopRows
    rw [List.map_map, List.map_map]
    exact List.zipIdx_map_fst _ _
  have hrows : ∀ row ∈ route.joined, row.route = .ofRoute route := by
    intro row hrow
    obtain ⟨stop, -, rfl⟩ := List.mem_map.mp hrow
    rfl
  have hpath : RoutePath.ofLocations route.locations = .ok route.plan.path :=
    RoutePath.ofLocations_eq_ok_iff.mpr rfl
  have hnew : DeliveryRoute.new route.plan.path route.departureTime route.routeId =
      .ok { route.unlinked with
        status := if route.departureTime.isSome then .scheduled else .planned } :=
    DeliveryRoute.new_eq_ok_iff.mpr ⟨rfl, rfl, rfl, rfl, rfl, rfl, rfl⟩
  unfold mapRoute
  split
  · next hnil =>
    have htwo : 2 ≤ route.locations.length := route.plan.path.two_le_length
    rw [← hlocations, hnil] at htwo
    simp at htwo
  · next row rest hcons =>
    have hrow := hrows row (hcons ▸ List.mem_cons_self)
    rw [hlocations, hrow]
    unfold RouteRow.ofRoute
    dsimp only
    simp only [requirePositiveInt]
    have hpos := route.routeId_pos
    rw [require_bind_of_true (by omega), hpath, ok_bind, hnew]
    rfl

end Database

namespace WorldGraphLoader

/-! ### Objects of rows -/

/-- Objects come back from their rows, in whatever order these are listed. -/
theorem exists_mapByKey {ρ α : Type} {key : α → Int} {map : ρ → Except PyError α} {name : String}
    {rows : List ρ} {s : Store key} {row : α → ρ} {bare : α → α}
    (hrows : rows.Perm (s.values.map row)) (hmap : ∀ a ∈ s.values, map (row a) = .ok (bare a))
    (hkey : ∀ a, key (bare a) = key a) :
    ∃ t, mapByKey key map name rows = .ok t ∧ ∀ k, t.find? k = (s.find? k).map bare := by
  obtain ⟨xs, hperm, rfl⟩ := exists_perm_of_perm_map hrows
  have hnd : (xs.map key).Nodup := (hperm.map key).nodup_iff.mpr Store.nodup_values
  unfold mapByKey
  rw [List.foldlM_map]
  suffices hloop : ∃ t, xs.foldlM (fun (objects : Store key) a ↦ do
        let object ← map (row a)
        require (objects.find? (key object) = none)
          ⟨.valueError, s!"Duplicate {name} {key object} in persisted data."⟩
        .ok (objects.put object)) .empty = .ok t ∧
      ∀ k, t.find? k = if k ∈ xs.map key then (s.find? k).map bare else none by
    obtain ⟨t, ht, hfind⟩ := hloop
    refine ⟨t, ht, fun k ↦ ?_⟩
    rw [hfind]
    split
    · rfl
    · next hk => rw [Store.find?_eq_none_of_perm hperm hk, Option.map_none]
  refine exists_foldlM_inv (fun done (t : Store key) ↦ ∀ k, t.find? k =
    if k ∈ done.map key then (s.find? k).map bare else none) (fun k ↦ by simp) ?_
  rintro done a rest rfl t hfind
  have ha : a ∈ s.values := hperm.mem_iff.mp (by simp)
  have hnew : key a ∉ done.map key := by
    rw [List.map_append, List.map_cons, List.nodup_append] at hnd
    exact fun hmem ↦ hnd.2.2 _ hmem _ (by simp) rfl
  refine ⟨t.put (bare a), ?_, fun k ↦ ?_⟩
  · rw [hmap a ha, ok_bind, require_bind_of_true]
    rw [hkey, hfind, if_neg hnew]
  · rw [Store.find?_put, hkey, hfind, List.map_append, List.map_singleton]
    by_cases hk : key a = k
    · subst hk
      rw [if_pos rfl, if_pos (by simp), Store.mem_values.mp ha, Option.map_some]
    · rw [if_neg hk]
      have hiff : (k ∈ done.map key ++ [key a]) ↔ k ∈ done.map key := by
        simp [Ne.symm hk]
      simp only [hiff]

/-! ### Routes from joined rows -/

/-- The stops of a route belong to it. -/
theorem routeId_of_mem_stopRows (route : DeliveryRoute) :
    ∀ stop ∈ stopRows route, stop.routeId = route.routeId := by
  intro stop hstop
  obtain ⟨entry, -, rfl⟩ := List.mem_map.mp hstop
  rfl

/-- The joined rows of a route belong to it. -/
theorem route_of_mem_joined (route : DeliveryRoute) :
    ∀ row ∈ route.joined, row.route = .ofRoute route := by
  intro row hrow
  obtain ⟨stop, -, rfl⟩ := List.mem_map.mp hrow
  rfl

/-- Joining the tables joins each route with its stops. -/
theorem perm_joinStops {s : Store DeliveryRoute.routeId} {routes : List RouteRow}
    {stops : List RouteStopRow} (hroutes : routes.Perm (s.values.map RouteRow.ofRoute))
    (hstops : stops.Perm (s.values.flatMap stopRows)) :
    (joinStops routes stops).Perm (s.values.flatMap DeliveryRoute.joined) := by
  unfold joinStops
  refine (hroutes.flatMap_right _).trans ?_
  rw [List.flatMap_map]
  apply List.Perm.flatMap_left
  intro route hroute
  unfold DeliveryRoute.joined
  apply List.Perm.map
  have hown := filter_flatMap_eq RouteStopRow.routeId routeId_of_mem_stopRows Store.nodup_values
    hroute
  rw [← hown]
  exact hstops.filter _

/-- The group of a route among some rows. -/
def groupOf (s : Store DeliveryRoute.routeId) (rows : List RouteStopJoin) (r : Int) :
    Option RouteGroup :=
  let own := rows.filter fun row ↦ row.route.routeId = r
  if own = [] then none else some ⟨r, (s.find? r).bind DeliveryRoute.truck, own⟩

/-- Rows of one store of routes are grouped by route. -/
theorem exists_groups {s : Store DeliveryRoute.routeId} {rows : List RouteStopJoin}
    (hrows : ∀ row ∈ rows, ∃ route ∈ s.values, row.route = .ofRoute route) :
    ∃ groups, rows.foldlM groupRow .empty = .ok groups ∧
      ∀ r, groups.find? r = groupOf s rows r := by
  refine exists_foldlM_inv (fun done (groups : Store RouteGroup.routeId) ↦
    ∀ r, groups.find? r = groupOf s done r) (fun r ↦ by simp [groupOf]) ?_
  rintro done row rest rfl groups hfind
  obtain ⟨route, hroute, hrow⟩ := hrows row (by simp)
  have hid : row.route.routeId = route.routeId := congrArg RouteRow.routeId hrow
  have htruck : row.route.truckVehicleId =
      (s.find? row.route.routeId).bind DeliveryRoute.truck := by
    rw [hid, Store.mem_values.mp hroute, hrow]
    rfl
  -- A row adds to the group of its route and to no other.
  have hgrow : ∀ r, groupOf s (done ++ [row]) r = if row.route.routeId = r then
      some ⟨r, (s.find? r).bind DeliveryRoute.truck,
        (done.filter fun other ↦ other.route.routeId = r) ++ [row]⟩ else groupOf s done r := by
    intro r
    unfold groupOf
    dsimp only
    rw [List.filter_append]
    by_cases hr : row.route.routeId = r
    · simp [hr]
    · simp [hr]
  have hlast := hfind row.route.routeId
  unfold groupOf at hlast
  dsimp only at hlast
  unfold groupRow
  by_cases hempty : (done.filter fun other ↦ other.route.routeId = row.route.routeId) = []
  · rw [if_pos hempty] at hlast
    rw [hlast]
    refine ⟨_, rfl, fun r ↦ ?_⟩
    rw [Store.find?_put, hgrow, hfind]
    split
    · next hr =>
      rw [← hr, hempty, htruck]
      rfl
    · rfl
  · rw [if_neg hempty] at hlast
    rw [hlast]
    dsimp only
    rw [require_bind_of_true htruck.symm]
    refine ⟨_, rfl, fun r ↦ ?_⟩
    rw [Store.find?_put, hgrow, hfind]
    split
    · next hr => rw [← hr]
    · rfl

/-- The group of a route that is there has its joined rows. -/
theorem groupOf_of_some {s : Store DeliveryRoute.routeId} {rows : List RouteStopJoin}
    (hrows : rows.Perm (s.values.flatMap DeliveryRoute.joined)) {r : Int} {route : DeliveryRoute}
    (hr : s.find? r = some route) :
    ∃ own, own.Perm route.joined ∧ groupOf s rows r = some ⟨r, route.truck, own⟩ := by
  have hid : route.routeId = r := Store.key_of_find? hr
  have hjoined : (rows.filter fun row ↦ row.route.routeId = r).Perm route.joined := by
    have hown := filter_flatMap_eq (fun row : RouteStopJoin ↦ row.route.routeId)
      (fun route row hrow ↦ congrArg RouteRow.routeId (route_of_mem_joined route row hrow))
      Store.nodup_values (Store.mem_values_of_find? hr)
    have hid' : (RouteRow.ofRoute route).routeId = r := hid
    rw [hid'] at hown
    rw [← hown]
    exact hrows.filter _
  refine ⟨_, hjoined, ?_⟩
  unfold groupOf
  dsimp only
  rw [if_neg, hr]
  · rfl
  · intro hempty
    have htwo : 2 ≤ route.locations.length := route.plan.path.two_le_length
    have hlength := hjoined.length_eq
    rw [hempty] at hlength
    unfold DeliveryRoute.joined stopRows at hlength
    simp only [List.length_nil, List.length_map, List.length_zipIdx] at hlength
    omega

/-- No other group is there. -/
theorem groupOf_of_none {s : Store DeliveryRoute.routeId} {rows : List RouteStopJoin}
    (hrows : rows.Perm (s.values.flatMap DeliveryRoute.joined)) {r : Int}
    (hr : s.find? r = none) : groupOf s rows r = none := by
  unfold groupOf
  dsimp only
  rw [if_pos]
  rw [List.filter_eq_nil_iff]
  intro row hrow
  obtain ⟨route, hroute, hjoined⟩ := List.mem_flatMap.mp (hrows.mem_iff.mp hrow)
  rw [route_of_mem_joined route row hjoined, decide_eq_true_eq]
  intro hid
  have hfind := Store.mem_values.mp hroute
  have hid' : route.routeId = r := hid
  rw [hid', hr] at hfind
  cases hfind

/-- Routes come back from their joined rows, in whatever order these are listed. -/
theorem exists_mapRoutes {s : Store DeliveryRoute.routeId} {rows : List RouteStopJoin}
    (hrows : rows.Perm (s.values.flatMap DeliveryRoute.joined)) :
    ∃ routes links, mapRoutes rows = .ok (routes, links) ∧
      (∀ r, routes.find? r = (s.find? r).map DeliveryRoute.unlinked) ∧
      (links.map Prod.fst).Nodup ∧
      ∀ r t, (r, t) ∈ links ↔ ∃ route, s.find? r = some route ∧ route.truck = t := by
  have hof : ∀ row ∈ rows, ∃ route ∈ s.values, row.route = .ofRoute route := by
    intro row hrow
    obtain ⟨route, hroute, hjoined⟩ := List.mem_flatMap.mp (hrows.mem_iff.mp hrow)
    exact ⟨route, hroute, route_of_mem_joined route row hjoined⟩
  obtain ⟨groups, hgroups, hfind⟩ := exists_groups hof
  -- A group is that of a route, and its sorted rows are the joined rows of the route.
  have hgroup : ∀ group ∈ groups.values, ∃ route, s.find? group.routeId = some route ∧
      group.truckVehicleId = route.truck ∧
      mapRoute (orderBy (fun row ↦ row.stop.stopOrder) group.rows) = .ok route.unlinked := by
    intro group hmem
    have hg := Store.mem_values.mp hmem
    rw [hfind] at hg
    cases hr : s.find? group.routeId with
    | none =>
      rw [groupOf_of_none hrows hr] at hg
      cases hg
    | some route =>
      obtain ⟨own, hown, hgroupOf⟩ := groupOf_of_some hrows hr
      rw [hgroupOf, Option.some.injEq] at hg
      have htruck : group.truckVehicleId = route.truck := by rw [← hg]
      have hgrows : group.rows = own := by rw [← hg]
      refine ⟨route, rfl, htruck, ?_⟩
      unfold orderBy
      rw [hgrows, mergeSort_eq_of_perm hown (sorted_joined route), mapRoute_joined]
  obtain ⟨routes, hroutes⟩ := exists_mapM_eq_ok fun group hmem ↦ by
    obtain ⟨route, -, -, hmap⟩ := hgroup group hmem
    exact ⟨_, hmap⟩
  have hlists : (Store.ofList routes : Store DeliveryRoute.routeId).Lists RouteGroup.routeId
      (fun group mapped ↦ ∃ route, s.find? group.routeId = some route ∧
        mapped = route.unlinked) groups.values := by
    refine Store.lists_ofList ?_ Store.nodup_values ?_
    · have hforall := mapM_eq_ok_iff.mp hroutes
      rw [List.forall₂_iff_zip] at hforall ⊢
      refine ⟨hforall.1, fun {group mapped} hzip ↦ ?_⟩
      obtain ⟨route, hr, -, hmap⟩ := hgroup group (List.of_mem_zip hzip).1
      have hmapped := hforall.2 hzip
      rw [hmap] at hmapped
      exact ⟨route, hr, (Except.ok.inj hmapped).symm⟩
    · rintro group _ ⟨route, hr, rfl⟩
      have hid : route.routeId = group.routeId := Store.key_of_find? hr
      exact hid
  have hown : ∀ {r route}, s.find? r = some route → ∃ own,
      groups.find? r = some ⟨r, route.truck, own⟩ := by
    intro r route hr
    obtain ⟨own, -, hgroupOf⟩ := groupOf_of_some hrows hr
    exact ⟨own, (hfind r).trans hgroupOf⟩
  refine ⟨.ofList routes, groups.values.map fun group ↦ (group.routeId, group.truckVehicleId), ?_,
    fun r ↦ ?_, ?_, fun r t ↦ ?_⟩
  · unfold mapRoutes
    rw [hgroups, ok_bind, hroutes]
    rfl
  · cases hr : s.find? r with
    | none =>
      rw [hlists.find?_eq_none, Option.map_none]
      intro hmem
      obtain ⟨group, hgroup', rfl⟩ := List.mem_map.mp hmem
      obtain ⟨route, hroute, -⟩ := hgroup group hgroup'
      rw [hr] at hroute
      cases hroute
    | some route =>
      obtain ⟨own, hgroupOf⟩ := hown hr
      obtain ⟨mapped, hmapped, route', hr', rfl⟩ :=
        hlists.forward (Store.mem_values_of_find? hgroupOf)
      obtain rfl := Option.some.inj (hr.symm.trans hr')
      exact hmapped
  · rw [List.map_map]
    exact Store.nodup_values
  · rw [List.mem_map]
    constructor
    · rintro ⟨group, hmem, hpair⟩
      obtain ⟨hid, htruck⟩ := Prod.mk.inj hpair
      obtain ⟨route, hroute, hlink, -⟩ := hgroup group hmem
      exact ⟨route, hid ▸ hroute, hlink.symm.trans htruck⟩
    · rintro ⟨route, hr, rfl⟩
      obtain ⟨own, hgroupOf⟩ := hown hr
      exact ⟨_, Store.mem_values_of_find? hgroupOf, rfl⟩

/-! ### Packages of customers -/

/-- The graph after the rows of some packages of a world. -/
structure PackageGraph.After (w : World) (done : List DeliveryPackage) (graph : PackageGraph) :
    Prop where
  customers : ∀ c, graph.customers.find? c = (w.customers.find? c).map (Customer.listing done)
  packages : ∀ p, graph.packages.find? p = if p ∈ done.map DeliveryPackage.packageId then
    (w.packages.find? p).map DeliveryPackage.unlinked else none
  routeIds : graph.routeIds = done.map fun package ↦ (package.packageId, package.routeId)

/-- One more package, with its customer. -/
theorem PackageGraph.After.step {w : World} (hl : w.Linked) {done : List DeliveryPackage}
    {graph : PackageGraph} (h : graph.After w done) {package : DeliveryPackage}
    (hfind : w.packages.find? package.packageId = some package)
    (hpos : ∀ r ∈ package.routeId, 0 < r)
    (hnew : package.packageId ∉ done.map DeliveryPackage.packageId) :
    ∃ graph', mapPackageRow graph (.ofPackage package) = .ok graph' ∧
      graph'.After w (done ++ [package]) := by
  obtain ⟨customer, hcustomer, -⟩ := hl.customer_of_package hfind
  have hcid : customer.customerId = package.customer := Store.key_of_find? hcustomer
  have hgraph : graph.customers.find? package.customer = some (customer.listing done) := by
    rw [h.customers, hcustomer, Option.map_some]
  have hlistingId : (customer.listing done).customerId = package.customer := hcid
  have hmap : mapPackage (.ofPackage package) (customer.listing done) = .ok package.unlinked :=
    mapPackage_ofPackage hlistingId hpos
  have hnone : graph.packages.find? package.unlinked.packageId = none :=
    (h.packages _).trans (if_neg hnew)
  unfold mapPackageRow
  rw [show (PackageRow.ofPackage package).customerId = package.customer from rfl, hgraph]
  dsimp only
  rw [hmap, ok_bind, require_bind_of_true hnone]
  refine ⟨_, rfl, fun c ↦ ?_, fun p ↦ ?_, ?_⟩
  · dsimp only
    rw [Store.find?_put, Customer.customerId_restorePackageLink, h.customers]
    rw [hlistingId]
    cases hc : w.customers.find? c with
    | none =>
      rw [if_neg]
      · rfl
      · rintro rfl
        rw [hc] at hcustomer
        cases hcustomer
    | some other =>
      have hid : other.customerId = c := Store.key_of_find? hc
      rw [Option.map_some, Option.map_some, Customer.listing_append hnew, hid]
      split
      · next howner =>
        rw [howner, hc, Option.some.injEq] at hcustomer
        rw [hcustomer]
        rfl
      · rfl
  · dsimp only
    have hkey : package.unlinked.packageId = package.packageId := rfl
    rw [Store.find?_put, hkey, h.packages, List.map_append, List.map_singleton]
    by_cases hp : package.packageId = p
    · rw [if_pos hp, if_pos (by simp [hp]), ← hp, hfind, Option.map_some]
    · have hiff : (p ∈ done.map DeliveryPackage.packageId ++ [package.packageId]) ↔
          p ∈ done.map DeliveryPackage.packageId := by
        simp [Ne.symm hp]
      simp only [if_neg hp, hiff]
  · dsimp only
    rw [h.routeIds, List.map_append, List.map_singleton]
    rfl

/-- Packages come back from their rows, and their customers list them. -/
theorem exists_mapPackages {w : World} (hl : w.Linked)
    (hpos : ∀ package ∈ w.packages.values, ∀ r ∈ package.routeId, 0 < r) {rows : List PackageRow}
    (hrows : rows.Perm (w.packages.values.map PackageRow.ofPackage))
    {customers : Store Customer.customerId}
    (hcustomers : ∀ c, customers.find? c = (w.customers.find? c).map Customer.unlinked) :
    ∃ (xs : List DeliveryPackage) (graph : PackageGraph), xs.Perm w.packages.values ∧
      mapPackagesWithExistingCustomers rows customers = .ok graph ∧ graph.After w xs := by
  obtain ⟨xs, hperm, rfl⟩ := exists_perm_of_perm_map hrows
  have hnd : (xs.map DeliveryPackage.packageId).Nodup :=
    (hperm.map DeliveryPackage.packageId).nodup_iff.mpr Store.nodup_values
  refine ⟨xs, ?_⟩
  unfold mapPackagesWithExistingCustomers
  rw [List.foldlM_map]
  suffices hloop : ∃ graph, xs.foldlM (fun graph package ↦ mapPackageRow graph (.ofPackage package))
      ⟨customers, .empty, []⟩ = .ok graph ∧ graph.After w xs by
    obtain ⟨graph, hgraph, hafter⟩ := hloop
    exact ⟨graph, hperm, hgraph, hafter⟩
  refine exists_foldlM_inv (fun done (graph : PackageGraph) ↦ graph.After w done)
    ⟨hcustomers, fun p ↦ by simp, rfl⟩ ?_
  rintro done package rest rfl graph hafter
  have hmem : package ∈ w.packages.values := hperm.mem_iff.mp (by simp)
  have hnew : package.packageId ∉ done.map DeliveryPackage.packageId := by
    rw [List.map_append, List.map_cons, List.nodup_append] at hnd
    exact fun hin ↦ hnd.2.2 _ hin _ (by simp) rfl
  exact hafter.step hl (Store.mem_values.mp hmem) (hpos package hmem) hnew

/-! ### Routes and trucks -/

/-- The routes and the trucks after the links of some routes. -/
structure Rejoined (w : World) (done : List Int) (graph : Store DeliveryRoute.routeId × Fleet) :
    Prop where
  routes : ∀ r, graph.1.find? r = (w.routes.find? r).map (DeliveryRoute.rejoined done)
  trucks : ∀ t, graph.2.find? t = (w.trucks.find? t).map (Truck.rejoined done)

/-- A route without a truck has nothing to link. -/
theorem Rejoined.skip {w : World} (hl : w.RouteLinked) {done : List Int}
    {graph : Store DeliveryRoute.routeId × Fleet} (h : Rejoined w done graph) {r : Int}
    {route : DeliveryRoute} (hr : w.routes.find? r = some route) (htruck : route.truck = none) :
    Rejoined w (done ++ [r]) graph := by
  refine ⟨fun r' ↦ ?_, fun t ↦ ?_⟩
  · rw [h.routes]
    cases hr' : w.routes.find? r' with
    | none => rfl
    | some other =>
      have hid : other.routeId = r' := Store.key_of_find? hr'
      rw [Option.map_some, Option.map_some]
      unfold DeliveryRoute.rejoined
      by_cases hself : r' = r
      · rw [hself, hr, Option.some.injEq] at hr'
        rw [← hr', htruck, ite_self, ite_self]
      · simp [hid, hself]
  · rw [h.trucks]
    cases ht : w.trucks.find? t with
    | none => rfl
    | some truck =>
      rw [Option.map_some, Option.map_some]
      unfold Truck.rejoined
      cases hroute : truck.route with
      | none => rfl
      | some r' =>
        have hne : r' ≠ r := by
          rintro rfl
          obtain ⟨other, hother, hback⟩ := hl.route_of_truck ht hroute
          rw [hr, Option.some.injEq] at hother
          rw [← hother, htruck] at hback
          cases hback
        simp [Option.filter, hne]

/-- A route is linked with its truck. -/
theorem Rejoined.link {w : World} (hl : w.RouteLinked) {done : List Int}
    {graph : Store DeliveryRoute.routeId × Fleet} (h : Rejoined w done graph) {r t : Int}
    {route : DeliveryRoute} (hr : w.routes.find? r = some route) (htruck : route.truck = some t) :
    ∃ graph', linkRouteTruck graph (r, some t) = .ok graph' ∧ Rejoined w (done ++ [r]) graph' := by
  have hid : route.routeId = r := Store.key_of_find? hr
  obtain ⟨truck, ht, hback⟩ := hl.truck_of_route hr htruck
  have htid : truck.vehicleId = t := Store.key_of_find? ht
  have hroute : graph.1.find? r = some (route.rejoined done) := by
    rw [h.routes, hr, Option.map_some]
  have htruck' : graph.2.find? t = some (truck.rejoined done) := by
    rw [h.trucks, ht, Option.map_some]
  unfold linkRouteTruck
  dsimp only
  rw [hroute, htruck']
  refine ⟨_, rfl, fun r' ↦ ?_, fun t' ↦ ?_⟩
  · have hnow : { route.rejoined done with truck := some t } = route.rejoined (done ++ [r]) := by
      have hin : route.routeId ∈ done ++ [r] := by simp [hid]
      unfold DeliveryRoute.rejoined
      rw [if_pos hin, htruck]
    have hkey : (route.rejoined (done ++ [r])).routeId = r := hid
    dsimp only
    rw [hnow, Store.find?_put, hkey, h.routes]
    split
    · next hself => rw [← hself, hr, Option.map_some]
    · next hne =>
      cases hr' : w.routes.find? r' with
      | none => rfl
      | some other =>
        have hid' : other.routeId = r' := Store.key_of_find? hr'
        rw [Option.map_some, Option.map_some]
        unfold DeliveryRoute.rejoined
        simp [hid', Ne.symm hne]
  · have hnow : { truck.rejoined done with route := some (route.rejoined done).routeId } =
        truck.rejoined (done ++ [r]) := by
      have hrid : (route.rejoined done).routeId = r := hid
      unfold Truck.rejoined
      rw [hrid, hback]
      simp [Option.filter]
    have hkey : (truck.rejoined (done ++ [r])).vehicleId = t := htid
    dsimp only
    rw [hnow, Store.find?_put, hkey, h.trucks]
    split
    · next hself => rw [← hself, ht, Option.map_some]
    · next hne =>
      cases ht' : w.trucks.find? t' with
      | none => rfl
      | some other =>
        rw [Option.map_some, Option.map_some]
        unfold Truck.rejoined
        cases hroute' : other.route with
        | none => rfl
        | some r' =>
          have hother : r' ≠ r := by
            rintro rfl
            obtain ⟨route', hroute'', hlink⟩ := hl.route_of_truck ht' hroute'
            obtain rfl := Option.some.inj (hr.symm.trans hroute'')
            exact hne (Option.some.inj (htruck.symm.trans hlink))
          simp [Option.filter, hother]

/-- Routes and trucks come back with their links. -/
theorem exists_linkRouteTrucks {w : World} (hl : w.RouteLinked) {links : List (Int × Option Int)}
    (hlinks : ∀ r t, (r, t) ∈ links ↔ ∃ route, w.routes.find? r = some route ∧ route.truck = t)
    {graph : Store DeliveryRoute.routeId × Fleet} (hgraph : Rejoined w [] graph) :
    ∃ graph', linkRouteTrucks links graph = .ok graph' ∧
      (∀ r, graph'.1.find? r = (w.routes.find? r).map fun route ↦
        { route with packages := [], pendingEvents := [] }) ∧ graph'.2 = w.trucks := by
  have hloop : ∃ graph', linkRouteTrucks links graph = .ok graph' ∧
      Rejoined w (links.map Prod.fst) graph' := by
    refine exists_foldlM_inv (fun done graph ↦ Rejoined w (done.map Prod.fst) graph) hgraph ?_
    rintro done ⟨r, link⟩ rest rfl graph h
    obtain ⟨route, hr, rfl⟩ := (hlinks r link).mp (by simp)
    rw [List.map_append]
    cases htruck : route.truck with
    | none => exact ⟨graph, rfl, h.skip hl hr htruck⟩
    | some t => exact h.link hl hr htruck
  obtain ⟨graph', hok, h⟩ := hloop
  have hall : ∀ {r route}, w.routes.find? r = some route → r ∈ links.map Prod.fst := fun hr ↦
    List.mem_map.mpr ⟨_, (hlinks _ _).mpr ⟨_, hr, rfl⟩, rfl⟩
  refine ⟨graph', hok, fun r ↦ ?_, Store.ext fun t ↦ ?_⟩
  · rw [h.routes]
    cases hr : w.routes.find? r with
    | none => rfl
    | some route =>
      have hid : route.routeId = r := Store.key_of_find? hr
      rw [Option.map_some, Option.map_some]
      unfold DeliveryRoute.rejoined
      rw [if_pos (hid ▸ hall hr)]
      rfl
  · rw [h.trucks]
    cases ht : w.trucks.find? t with
    | none => rfl
    | some truck =>
      rw [Option.map_some]
      unfold Truck.rejoined
      cases hroute : truck.route with
      | none =>
        cases truck
        simp_all
      | some r =>
        obtain ⟨route, hr, -⟩ := hl.route_of_truck ht hroute
        have hin := hall hr
        cases truck
        simp_all [Option.filter]

/-! ### Routes and packages -/

/-- The routes and the packages after the links of some packages. -/
structure Reloaded (w : World) (done : List DeliveryPackage)
    (graph : Store DeliveryRoute.routeId × Store DeliveryPackage.packageId) : Prop where
  routes : ∀ r, graph.1.find? r = (w.routes.find? r).map (DeliveryRoute.listing done)
  packages : ∀ p, graph.2.find? p = (w.packages.find? p).map
    (DeliveryPackage.rejoined (done.map DeliveryPackage.packageId))

/-- One more package gets the route that its row names. -/
theorem Reloaded.step {w : World} (hl : w.RouteLinked) {done : List DeliveryPackage}
    {graph : Store DeliveryRoute.routeId × Store DeliveryPackage.packageId}
    (h : Reloaded w done graph) {package : DeliveryPackage}
    (hfind : w.packages.find? package.packageId = some package)
    (hnew : package.packageId ∉ done.map DeliveryPackage.packageId) :
    ∃ graph', linkPackageToRoute graph (package.packageId, package.routeId) = .ok graph' ∧
      Reloaded w (done ++ [package]) graph' := by
  have hrouteId : package.routeId = package.route := hl.routeId hfind
  have hpackage : graph.2.find? package.packageId =
      some (package.rejoined (done.map DeliveryPackage.packageId)) := by
    rw [h.packages, hfind, Option.map_some]
  have hother : ∀ {other : DeliveryPackage}, other.packageId ≠ package.packageId →
      other.rejoined ((done ++ [package]).map DeliveryPackage.packageId) =
        other.rejoined (done.map DeliveryPackage.packageId) := by
    intro other hne
    unfold DeliveryPackage.rejoined
    simp [hne]
  unfold linkPackageToRoute
  rw [hrouteId]
  cases hroute : package.route with
  | none =>
    refine ⟨graph, rfl, fun r ↦ ?_, fun p ↦ ?_⟩
    · rw [h.routes]
      congr 1
      funext route
      rw [DeliveryRoute.listing_append, if_neg (by simp [hroute])]
    · rw [h.packages]
      cases hp : w.packages.find? p with
      | none => rfl
      | some other =>
        have hid : other.packageId = p := Store.key_of_find? hp
        rw [Option.map_some, Option.map_some]
        by_cases hself : other.packageId = package.packageId
        · rw [← hid, hself, hfind, Option.some.injEq] at hp
          unfold DeliveryPackage.rejoined
          rw [← hp, hroute, ite_self, ite_self]
        · rw [hother hself]
  | some r =>
    obtain ⟨route, hr, -⟩ := hl.route_of_package hfind hroute
    have hid : route.routeId = r := Store.key_of_find? hr
    have hgraph : graph.1.find? r = some (route.listing done) := by
      rw [h.routes, hr, Option.map_some]
    have hunlisted : (route.listing done).hasPackage package.packageId = false := by
      unfold DeliveryRoute.hasPackage
      rw [decide_eq_false_iff_not]
      intro hin
      obtain ⟨other, hmem, hsame⟩ := List.mem_map.mp hin
      exact hnew (List.mem_map.mpr ⟨other, (List.mem_filter.mp hmem).1, hsame⟩)
    have hset : (package.rejoined (done.map DeliveryPackage.packageId)).setRoute
          (some (route.listing done).routeId) =
        package.rejoined ((done ++ [package]).map DeliveryPackage.packageId) := by
      have hin : package.packageId ∈ (done ++ [package]).map DeliveryPackage.packageId := by simp
      have hlisted : (route.listing done).routeId = r := hid
      rw [hlisted]
      unfold DeliveryPackage.setRoute DeliveryPackage.rejoined
      rw [if_pos hin, hroute, ← hrouteId.trans hroute]
      rfl
    have hlinked : restorePackageLink (route.listing done)
        (package.rejoined (done.map DeliveryPackage.packageId)) =
          (route.listing (done ++ [package]),
            package.rejoined ((done ++ [package]).map DeliveryPackage.packageId)) := by
      have hkey : (package.rejoined (done.map DeliveryPackage.packageId)).packageId =
          package.packageId := rfl
      unfold restorePackageLink
      rw [hkey, hunlisted, if_neg (by simp), hset, DeliveryRoute.listing_append,
        if_pos (by rw [hroute, hid])]
    dsimp only
    rw [hgraph]
    dsimp only
    rw [Store.getItem_eq_ok_iff.mpr hpackage, ok_bind, hlinked]
    refine ⟨_, rfl, fun r' ↦ ?_, fun p ↦ ?_⟩
    · have hkey : (route.listing (done ++ [package])).routeId = r := hid
      dsimp only
      rw [Store.find?_put, hkey, h.routes]
      split
      · next hself => rw [← hself, hr, Option.map_some]
      · next hne =>
        cases hr' : w.routes.find? r' with
        | none => rfl
        | some other =>
          have hid' : other.routeId = r' := Store.key_of_find? hr'
          rw [Option.map_some, Option.map_some, DeliveryRoute.listing_append, if_neg]
          rw [hroute, hid']
          exact fun heq ↦ hne (Option.some.inj heq)
    · have hkey : (package.rejoined ((done ++ [package]).map
          DeliveryPackage.packageId)).packageId = package.packageId := rfl
      dsimp only
      rw [Store.find?_put, hkey, h.packages]
      split
      · next hself => rw [← hself, hfind, Option.map_some]
      · next hne =>
        cases hp : w.packages.find? p with
        | none => rfl
        | some other =>
          have hid' : other.packageId = p := Store.key_of_find? hp
          rw [Option.map_some, Option.map_some, hother]
          rw [hid']
          exact Ne.symm hne

/-- Routes and packages come back with their links. -/
theorem exists_linkPackagesToRoutes {w : World} (hl : w.RouteLinked) {xs : List DeliveryPackage}
    (hperm : xs.Perm w.packages.values)
    {graph : Store DeliveryRoute.routeId × Store DeliveryPackage.packageId}
    (hgraph : Reloaded w [] graph) :
    ∃ graph', linkPackagesToRoutes
        (xs.map fun package ↦ (package.packageId, package.routeId)) graph = .ok graph' ∧
      (∀ r, graph'.1.find? r = (w.routes.find? r).map (DeliveryRoute.listing xs)) ∧
      ∀ p, graph'.2.find? p = (w.packages.find? p).map fun package ↦
        { package.unlinked with route := package.route } := by
  have hnd : (xs.map DeliveryPackage.packageId).Nodup :=
    (hperm.map DeliveryPackage.packageId).nodup_iff.mpr Store.nodup_values
  have hloop : ∃ graph', linkPackagesToRoutes
      (xs.map fun package ↦ (package.packageId, package.routeId)) graph = .ok graph' ∧
        Reloaded w xs graph' := by
    unfold linkPackagesToRoutes
    rw [List.foldlM_map]
    refine exists_foldlM_inv (fun done graph ↦ Reloaded w done graph) hgraph ?_
    rintro done package rest rfl graph h
    have hmem : package ∈ w.packages.values := hperm.mem_iff.mp (by simp)
    refine h.step hl (Store.mem_values.mp hmem) ?_
    rw [List.map_append, List.map_cons, List.nodup_append] at hnd
    exact fun hin ↦ hnd.2.2 _ hin _ (by simp) rfl
  obtain ⟨graph', hok, h⟩ := hloop
  refine ⟨graph', hok, h.routes, fun p ↦ ?_⟩
  rw [h.packages]
  cases hp : w.packages.find? p with
  | none => rfl
  | some package =>
    have hin : package.packageId ∈ xs.map DeliveryPackage.packageId :=
      List.mem_map_of_mem (hperm.mem_iff.mpr (Store.mem_values_of_find? hp))
    rw [Option.map_some, Option.map_some]
    unfold DeliveryPackage.rejoined
    rw [if_pos hin]

end WorldGraphLoader

/-! ### The whole graph -/

/-- A customer with the values that are stored. -/
structure Customer.SameStored (a b : Customer) : Prop where
  contact : b.contact = a.contact
  deliveryPackages : b.deliveryPackages.Perm a.deliveryPackages

/-- A package with the values that are stored. -/
structure DeliveryPackage.SameStored (a b : DeliveryPackage) : Prop extends a.SameShipment b where
  route : b.route = a.route
  routeId : b.routeId = a.routeId
  currentLocation : b.currentLocation = a.currentLocation
  expectedArrival : b.expectedArrival = a.expectedArrival
  status : b.status = a.status

/-- A route with the values that are stored. -/
structure DeliveryRoute.SameStored (a b : DeliveryRoute) : Prop where
  plan : b.plan = a.plan
  status : b.status = a.status
  truck : b.truck = a.truck
  packages : b.packages.Perm a.packages

/-- The loaded objects are those of a world, with the same links in both directions. -/
structure HydratedWorldGraph.Restores (w : World) (graph : HydratedWorldGraph) : Prop where
  customers : Store.Related Customer.SameStored w.customers graph.customers
  packages : Store.Related DeliveryPackage.SameStored w.packages graph.packages
  routes : Store.Related DeliveryRoute.SameStored w.routes graph.routes
  trucks : graph.trucks = w.trucks

namespace WorldGraphLoader

variable {u : UnicodeTables} {w : World} {tables : Tables} {xs : List DeliveryPackage}

/-- A customer lists its packages in some order. -/
theorem perm_listing_customer (hl : w.Linked) (hperm : xs.Perm w.packages.values) {c : Int}
    {customer : Customer} (hc : w.customers.find? c = some customer) :
    (customer.listing xs).deliveryPackages.Perm customer.deliveryPackages := by
  have hid : customer.customerId = c := Store.key_of_find? hc
  have hnd : (xs.map DeliveryPackage.packageId).Nodup :=
    (hperm.map DeliveryPackage.packageId).nodup_iff.mpr Store.nodup_values
  refine (List.perm_ext_iff_of_nodup (hnd.sublist (List.filter_sublist.map _))
    (hl.nodup_customer _ _ hc)).mpr fun p ↦ ?_
  rw [List.mem_map]
  constructor
  · rintro ⟨package, hmem, rfl⟩
    obtain ⟨hin, howner⟩ := List.mem_filter.mp hmem
    have hfind := Store.mem_values.mp (hperm.mem_iff.mp hin)
    obtain ⟨owner, hcustomer, hlisted⟩ := hl.customer_of_package hfind
    rw [of_decide_eq_true howner, hid, hc, Option.some.injEq] at hcustomer
    exact hcustomer ▸ hlisted
  · intro hp
    obtain ⟨package, hfind, howner⟩ := hl.package_of_customer hc hp
    refine ⟨package, List.mem_filter.mpr ⟨?_, decide_eq_true (howner.trans hid.symm)⟩,
      Store.key_of_find? hfind⟩
    exact hperm.mem_iff.mpr (Store.mem_values_of_find? hfind)

/-- A route lists its packages in some order. -/
theorem perm_listing_route (hl : w.RouteLinked) (hperm : xs.Perm w.packages.values) {r : Int}
    {route : DeliveryRoute} (hr : w.routes.find? r = some route) :
    (route.listing xs).packages.Perm route.packages := by
  have hid : route.routeId = r := Store.key_of_find? hr
  have hnd : (xs.map DeliveryPackage.packageId).Nodup :=
    (hperm.map DeliveryPackage.packageId).nodup_iff.mpr Store.nodup_values
  refine (List.perm_ext_iff_of_nodup (hnd.sublist (List.filter_sublist.map _))
    (hl.nodup hr)).mpr fun p ↦ ?_
  rw [List.mem_map]
  constructor
  · rintro ⟨package, hmem, rfl⟩
    obtain ⟨hin, hon⟩ := List.mem_filter.mp hmem
    have hfind := Store.mem_values.mp (hperm.mem_iff.mp hin)
    obtain ⟨owner, hroute, hlisted⟩ := hl.route_of_package hfind (of_decide_eq_true hon)
    rw [hid, hr, Option.some.injEq] at hroute
    exact hroute ▸ hlisted
  · intro hp
    obtain ⟨package, hfind, hon⟩ := hl.package_of_route hr hp
    refine ⟨package, List.mem_filter.mpr ⟨?_, decide_eq_true (hid ▸ hon)⟩,
      Store.key_of_find? hfind⟩
    exact hperm.mem_iff.mpr (Store.mem_values_of_find? hfind)

/-- Tables that hold a linked world load into it. -/
theorem exists_loadWorldGraph (hl : w.Linked)
    (hclean : w.customers.All fun customer ↦ customer.contact.Clean u)
    (htables : tables.Holds w) :
    ∃ graph, loadWorldGraph u tables = .ok graph ∧ graph.Restores w := by
  have hrl := hl.toRouteLinked
  have hpos : ∀ package ∈ w.packages.values, ∀ r ∈ package.routeId, 0 < r := by
    intro package hmem r hr
    have hfind := Store.mem_values.mp hmem
    rw [hl.routeId hfind] at hr
    obtain ⟨route, hroute, -⟩ := hl.route_of_package hfind hr
    have hid : route.routeId = r := Store.key_of_find? hroute
    exact hid ▸ route.routeId_pos
  have hcustomerRows : (listCustomers tables).Perm
      (w.customers.values.map CustomerRow.ofCustomer) :=
    (List.mergeSort_perm _ _).trans htables.customers
  have htruckRows : (listTrucks tables).Perm (w.trucks.values.map TruckRow.ofTruck) :=
    (List.mergeSort_perm _ _).trans htables.trucks
  have hrouteRows : (listRoutes tables).Perm (w.routes.values.flatMap DeliveryRoute.joined) :=
    (List.mergeSort_perm _ _).trans (perm_joinStops htables.routes htables.routeStops)
  have hpackageRows : (listPackages tables).Perm (w.packages.values.map PackageRow.ofPackage) :=
    (List.mergeSort_perm _ _).trans htables.packages
  have hmapCustomers : ∃ customers, mapCustomers u (listCustomers tables) = .ok customers ∧
      ∀ c, customers.find? c = (w.customers.find? c).map Customer.unlinked :=
    exists_mapByKey hcustomerRows (fun customer hmem ↦
      mapCustomer_ofCustomer (hclean _ customer (Store.mem_values.mp hmem))) fun _ ↦ rfl
  have hmapTrucks : ∃ trucks, mapTrucks (listTrucks tables) = .ok trucks ∧
      ∀ t, trucks.find? t = (w.trucks.find? t).map Truck.unlinked :=
    exists_mapByKey htruckRows (fun _ _ ↦ mapTruck_ofTruck) fun _ ↦ rfl
  obtain ⟨customers, hcustomers, hc⟩ := hmapCustomers
  obtain ⟨trucks, htrucks, ht⟩ := hmapTrucks
  obtain ⟨routes, links, hroutes, hr, -, hlinks⟩ := exists_mapRoutes hrouteRows
  obtain ⟨xs, packages, hperm, hpackages, hafter⟩ := exists_mapPackages hl hpos hpackageRows hc
  have hrejoined : Rejoined w [] (routes, trucks) := by
    refine ⟨hr, fun t ↦ (ht t).trans ?_⟩
    congr 1
    funext truck
    unfold Truck.unlinked Truck.rejoined
    cases truck.route <;> rfl
  obtain ⟨joined, hjoined, hjr, hjt⟩ := exists_linkRouteTrucks hrl hlinks hrejoined
  have hreloaded : Reloaded w [] (joined.1, packages.packages) := by
    refine ⟨hjr, fun p ↦ (hafter.packages p).trans ?_⟩
    split
    · rfl
    · next hp => rw [Store.find?_eq_none_of_perm hperm hp, Option.map_none]
  obtain ⟨linked, hlinked, hlr, hlp⟩ := exists_linkPackagesToRoutes hrl hperm hreloaded
  refine ⟨⟨packages.customers, linked.2, linked.1, joined.2⟩, ?_, ?_⟩
  · unfold loadWorldGraph
    rw [hcustomers, ok_bind, hroutes, ok_bind]
    dsimp only
    rw [htrucks, ok_bind, hpackages, ok_bind, hjoined, ok_bind, hafter.routeIds, hlinked]
    rfl
  · refine ⟨?_, ?_, ?_, hjt⟩
    · exact Store.related_of_map hafter.customers fun c customer hfind ↦
        ⟨rfl, perm_listing_customer hl hperm hfind⟩
    · exact Store.related_of_map hlp fun p package hfind ↦
        ⟨⟨rfl, rfl, rfl, rfl, rfl⟩, rfl, rfl, rfl, rfl, rfl⟩
    · exact Store.related_of_map hlr fun r route hfind ↦
        ⟨rfl, rfl, rfl, perm_listing_route hrl hperm hfind⟩

end WorldGraphLoader

/-! ### Importing and loading -/

/-- A column with two decimals stores a weight in hundredths as it is. -/
theorem Database.cents_eq_self {weight : Rat} (hpos : 0 < weight)
    (h : ∃ n : Int, weight = (n : Rat) / 100) : cents weight = weight := by
  obtain ⟨n, rfl⟩ := h
  have hfloor : ((n : Rat) / 100 * 100 + 1 / 2).floor = n := by
    rw [div_mul_cancel₀ _ (by norm_num)]
    have hle : n ≤ ((n : Rat) + 1 / 2).floor := Rat.le_floor_iff.mpr (by linarith)
    have hlt : ((n : Rat) + 1 / 2).floor < n + 1 := Rat.floor_lt_iff.mpr (by push_cast; linarith)
    omega
  unfold cents
  rw [if_neg (not_lt.mpr hpos.le), hfloor]

/-- The rows of other tables, listed in any order. -/
structure Database.Tables.Rearranges (tables stored : Tables) : Prop where
  customers : stored.customers.Perm tables.customers
  trucks : stored.trucks.Perm tables.trucks
  routes : stored.routes.Perm tables.routes
  routeStops : stored.routeStops.Perm tables.routeStops
  packages : stored.packages.Perm tables.packages
  counters : stored.nextCustomerId = tables.nextCustomerId ∧
    stored.nextRouteId = tables.nextRouteId ∧ stored.nextPackageId = tables.nextPackageId

/-- Rearranged tables hold the same world. -/
theorem Database.Tables.Rearranges.holds {tables stored : Tables} {w : World}
    (h : tables.Rearranges stored) (hholds : tables.Holds w) : stored.Holds w where
  customers := h.customers.trans hholds.customers
  trucks := h.trucks.trans hholds.trucks
  routes := h.routes.trans hholds.routes
  routeStops := h.routeStops.trans hholds.routeStops
  packages := h.packages.trans hholds.packages
  counters := ⟨h.counters.1.trans hholds.counters.1, h.counters.2.1.trans hholds.counters.2.1,
    h.counters.2.2.trans hholds.counters.2.2⟩

/-- The loaded objects are those of a prepared world over some fleet. -/
structure HydratedWorldGraph.RestoresPrepared (fleet : Fleet) (world : ReconciledWorld)
    (graph : HydratedWorldGraph) : Prop where
  customers : Store.Related Customer.SameStored world.customers graph.customers
  packages : Store.Related DeliveryPackage.SameStored world.packages graph.packages
  routes : Store.Related DeliveryRoute.SameStored world.routes graph.routes
  vehicles : Store.Related Truck.SameVehicle fleet graph.trucks
  bindings : ∀ binding, binding ∈ world.truckBindings ↔
    ∃ truck, graph.trucks.find? binding.vehicleId = some truck ∧
      binding = WorldStateSnapshotLinker.bindingOf truck truck.route

namespace ReconciledWorld.PreparedFrom

variable {u : UnicodeTables} {fleet : Fleet} {now : Datetime} {snapshot : WorldStateSnapshot}
  {world : ReconciledWorld} {joined prepared : World} {skipped : List Int} {tables : Tables}

/-- A prepared world that binds the whole fleet has all of its trucks. -/
theorem vehicles_of_bound
    (h : world.PreparedFrom u fleet now snapshot skipped joined prepared)
    (hbound : ∀ t, (fleet.find? t).isSome → t ∈ world.truckBindings.map TruckBinding.vehicleId) :
    Store.Related Truck.SameVehicle fleet prepared.trucks := by
  constructor
  · intro t before hbefore
    obtain ⟨binding, hmem, hid⟩ := List.mem_map.mp (hbound t (by rw [hbefore]; rfl))
    obtain ⟨truck, htruck, -⟩ := (h.bindings binding).mp hmem
    rw [hid] at htruck
    obtain ⟨real, hreal, hsame⟩ := h.sameVehicle htruck
    obtain rfl := Option.some.inj (hbefore.symm.trans hreal)
    exact ⟨truck, htruck, hsame⟩
  · exact fun htruck ↦ h.sameVehicle htruck

/-- The imported tables hold a prepared world that binds the whole fleet. -/
theorem imported_holds (h : world.PreparedFrom u fleet now snapshot skipped joined prepared)
    (hbound : ∀ t, (fleet.find? t).isSome → t ∈ world.truckBindings.map TruckBinding.vehicleId)
    (hkept : world.packages.All fun package ↦ cents package.weight = package.weight)
    (htables : tables.trucks.Perm (fleet.values.map TruckRow.ofTruck)) :
    (world.imported tables).Holds prepared := by
  have hcounters : world.counters.nextCustomerId = prepared.nextCustomerId ∧
      world.counters.nextRouteId = prepared.nextRouteId ∧
      world.counters.nextPackageId = prepared.nextPackageId := by
    rw [h.counters_eq]
    exact ⟨rfl, rfl, rfl⟩
  refine ⟨h.customers ▸ .refl _, ?_, h.routes ▸ .refl _, h.routes ▸ .refl _, ?_, hcounters⟩
  · have hrows := htables.map (PostgresWorldStateImporter.updatedTruck world.truckBindings)
    have hupdated : fleet.values.map (PostgresWorldStateImporter.updatedTruck world.truckBindings ∘
        TruckRow.ofTruck) = prepared.trucks.values.map TruckRow.ofTruck :=
      (h.vehicles_of_bound hbound).map_values fun hbefore hafter _ ↦
        h.updatedTruck_of_prepared hbefore hafter
    rw [List.map_map, hupdated] at hrows
    exact hrows
  · rw [← h.packages]
    exact ReconciledWorld.perm_packages_iff.mpr hkept

end ReconciledWorld.PreparedFrom

/-- What the importer writes of a prepared world that binds the whole fleet and fits the columns
loads into this world, in whatever order the rows are kept. -/
theorem WorldGraphLoader.loadWorldGraph_importWorld {u : UnicodeTables} {fleet : Fleet}
    {now : Datetime} {snapshot : WorldStateSnapshot} {world : ReconciledWorld} {tables : Tables}
    (hprepare : WorldStateSnapshotPreparer.prepare u fleet now snapshot supportedSchemaVersions =
      .ok world)
    (hbound : ∀ t, (fleet.find? t).isSome → t ∈ world.truckBindings.map TruckBinding.vehicleId)
    (htexts : world.customers.All fun customer ↦ customer.contact.email.length ≤ 255)
    (hweights : world.packages.All fun package ↦
      (∃ n : Int, package.weight = (n : Rat) / 100) ∧ package.weight < 1000000)
    (htables : tables.trucks.Perm (fleet.values.map TruckRow.ofTruck)) :
    ∃ tables', PostgresWorldStateImporter.importWorld world tables = .ok tables' ∧
      ∀ stored, tables'.Rearranges stored →
        ∃ graph, loadWorldGraph u stored = .ok graph ∧ graph.RestoresPrepared fleet world := by
  obtain ⟨skipped, joined, prepared, h⟩ :=
    WorldStateSnapshotPreparer.preparedFrom_of_prepare hprepare
  have hkept : world.packages.All fun package ↦ cents package.weight = package.weight :=
    fun p package hfind ↦ cents_eq_self package.weight_pos (hweights p package hfind).1
  have hfits : world.FitsColumns := by
    apply ReconciledWorld.fitsColumns_unbounded htexts
    intro p package hfind
    have hcents : cents package.weight = package.weight := hkept p package hfind
    exact ⟨hcents.symm ▸ package.weight_pos, hcents.symm ▸ (hweights p package hfind).2⟩
  have hfleet : ∀ t, (fleet.find? t).isSome → ∃ row ∈ tables.trucks, row.vehicleId = t := by
    intro t ht
    obtain ⟨truck, hfind⟩ := Option.isSome_iff_exists.mp ht
    have hid : truck.vehicleId = t := Store.key_of_find? hfind
    have hmem : TruckRow.ofTruck truck ∈ fleet.values.map TruckRow.ofTruck :=
      List.mem_map_of_mem (Store.mem_values_of_find? hfind)
    exact ⟨.ofTruck truck, htables.mem_iff.mpr hmem, hid⟩
  refine ⟨_, (PostgresWorldStateImporter.importWorld_eq_ok_iff h hfleet).mpr ⟨hfits, rfl⟩,
    fun stored hstored ↦ ?_⟩
  have hclean : prepared.customers.All fun customer ↦ customer.contact.Clean u := by
    have hcustomers : prepared.customers = joined.customers := by
      rw [h.advanced.frame]
    exact hcustomers ▸ h.linked.clean
  obtain ⟨graph, hload, hrestores⟩ := exists_loadWorldGraph h.worldLinked hclean
    (hstored.holds (h.imported_holds hbound hkept htables))
  refine ⟨graph, hload, ?_⟩
  exact {
    customers := h.customers ▸ hrestores.customers
    packages := h.packages ▸ hrestores.packages
    routes := h.routes ▸ hrestores.routes
    vehicles := hrestores.trucks ▸ h.vehicles_of_bound hbound
    bindings := hrestores.trucks ▸ h.bindings }

namespace Scenario

/-- A file with one package on a route under way. -/
def cargoFile : WorldStateSnapshot where
  schemaVersion := 2
  world := {
    counters := ⟨2, 2, 2⟩
    customers := [⟨1, "Ada Smith", "ada@example.com", "0412345678"⟩]
    packages := ((Map.locations.zip Map.locations.tail).take 1).map fun leg ↦
      ⟨1, leg.1, leg.2, mkRat 5 2, 1, some 1⟩
    routes := [{
      routeId := 1
      locations := Map.locations.take 2
      departureTime := some "2024-01-01T08:00:00"
      truckVehicleId := some 1001
      packageIds := [1] }]
    trucks := [{
      vehicleId := 1001
      status := .onTheWay
      currentLocation := Map.locations.head?
      routeId := some 1
      busyFrom := none
      busyUntil := none
      inTransitTo := none }] }

/-- The file is imported and loaded back. -/
theorem loadWorldGraph_importWorld_cargo : ∃ world tables',
    WorldStateSnapshotPreparer.prepare .asciiOnly Scenario.fleet (hour 3) cargoFile
      supportedSchemaVersions = .ok world ∧
    PostgresWorldStateImporter.importWorld world (.ofWorld (.initial Scenario.fleet)) =
      .ok tables' ∧
    ∀ stored, tables'.Rearranges stored →
      ∃ graph, WorldGraphLoader.loadWorldGraph .asciiOnly stored = .ok graph ∧
        graph.RestoresPrepared Scenario.fleet world := by
  have hbindings : (WorldStateSnapshotPreparer.prepare .asciiOnly Scenario.fleet (hour 3) cargoFile
      supportedSchemaVersions).toOption.map (fun world ↦
        world.truckBindings.map TruckBinding.vehicleId) = some [1001] := by decide +kernel
  cases hprepare : WorldStateSnapshotPreparer.prepare .asciiOnly Scenario.fleet (hour 3) cargoFile
      supportedSchemaVersions with
  | error e =>
    rw [hprepare] at hbindings
    cases hbindings
  | ok world =>
    rw [hprepare] at hbindings
    have hbound : world.truckBindings.map TruckBinding.vehicleId = [1001] :=
      Option.some.inj hbindings
    obtain ⟨skipped, joined, prepared, h⟩ :=
      WorldStateSnapshotPreparer.preparedFrom_of_prepare hprepare
    have hemails : ∀ record ∈ cargoFile.world.customers,
        (record.emailKey .asciiOnly).length ≤ 255 := by decide +kernel
    have hweights : ∀ record ∈ cargoFile.world.packages,
        (∃ n : Int, record.weight = (n : Rat) / 100) ∧ record.weight < 1000000 := by
      intro record hmem
      obtain ⟨leg, -, rfl⟩ := List.mem_map.mp hmem
      exact ⟨⟨250, by norm_num⟩, by norm_num⟩
    have hkept := (h.weight_iff (p := fun weight ↦
      (∃ n : Int, weight = (n : Rat) / 100) ∧ weight < 1000000)).mpr hweights
    have hids : ∀ truck ∈ Scenario.fleet.values, truck.vehicleId = 1001 := by decide +kernel
    have hall : ∀ t, (Scenario.fleet.find? t).isSome →
        t ∈ world.truckBindings.map TruckBinding.vehicleId := by
      intro t ht
      obtain ⟨truck, hfind⟩ := Option.isSome_iff_exists.mp ht
      have hid : truck.vehicleId = t := Store.key_of_find? hfind
      rw [hbound, ← hid, hids truck (Store.mem_values_of_find? hfind)]
      exact List.mem_singleton_self _
    have htables : (Tables.ofWorld (.initial Scenario.fleet)).trucks.Perm
        (Scenario.fleet.values.map TruckRow.ofTruck) := .refl _
    obtain ⟨tables', himport, hload⟩ := WorldGraphLoader.loadWorldGraph_importWorld hprepare hall
      (h.email_iff.mpr hemails) hkept htables
    exact ⟨world, tables', rfl, himport, hload⟩

end Scenario
end FleetFlow
