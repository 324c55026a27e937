import FleetFlow.Snapshot.Accepted
import FleetFlow.Snapshot.SegmentLoads
import FleetFlow.Runtime.Run

/-!
# The snapshot of a sound world

The builder writes every object of the world once. What the validators check between the parts of a
snapshot are the links, the paths, the limits and the registration of a sound world, so a saved
world is accepted and can be loaded at any later time.
-/

namespace FleetFlow

variable {u : UnicodeTables} {allowed : Option LocationCode → Prop} {clock : Option Datetime}
  {w : World}

/-! ### Sorted lists of records -/

section Sorted

variable {α β : Type} {key : α → Int} {transform : α → β} {id : β → Int} {s : Store key}

/-- The ids of the records are the keys of the store. -/
theorem map_sortedSnapshots_perm (hid : ∀ a, id (transform a) = key a) :
    ((sortedSnapshots key transform s.values).map id).Perm (s.values.map key) := by
  unfold sortedSnapshots
  rw [List.map_map]
  have hkey : id ∘ transform = key := funext hid
  rw [hkey]
  exact (List.mergeSort_perm _ _).map key

/-- The records of a store with positive keys have different positive ids. -/
theorem distinctIds_sortedSnapshots (hid : ∀ a, id (transform a) = key a)
    (hpos : ∀ k a, s.find? k = some a → 0 < k) :
    DistinctIds ((sortedSnapshots key transform s.values).map id) where
  pos k hk := by
    obtain ⟨a, ha, rfl⟩ := List.mem_map.mp ((map_sortedSnapshots_perm hid).mem_iff.mp hk)
    have hone := hpos _ a (Store.mem_values.mp ha)
    omega
  nodup := (map_sortedSnapshots_perm hid).nodup_iff.mpr Store.nodup_values

/-- A stored object has a record. -/
theorem mem_record {k : Int} {a : α} (h : s.find? k = some a) :
    transform a ∈ sortedSnapshots key transform s.values :=
  mem_sortedSnapshots.mpr ⟨a, Store.mem_values_of_find? h, rfl⟩

/-- A record is of a stored object. -/
theorem exists_of_mem_record {b : β} (h : b ∈ sortedSnapshots key transform s.values) :
    ∃ a, s.find? (key a) = some a ∧ transform a = b := by
  obtain ⟨a, ha, rfl⟩ := mem_sortedSnapshots.mp h
  exact ⟨a, Store.mem_values.mp ha, rfl⟩

/-- Every read value stands in the order of the list that it was read for. -/
theorem forall₂_filterMap_of_isSome {f : α → Option β} {xs : List α} (h : ∀ x ∈ xs, (f x).isSome) :
    List.Forall₂ (fun x y ↦ f x = some y) xs (xs.filterMap f) := by
  induction xs with
  | nil => exact .nil
  | cons x rest ih =>
    obtain ⟨y, hy⟩ := Option.isSome_iff_exists.mp (h x (by simp))
    rw [List.filterMap_cons_some hy]
    exact .cons hy (ih fun z hz ↦ h z (by simp [hz]))

end Sorted

/-! ### The relations between the records -/

/-- Customers have different ids. -/
theorem World.distinctIds_customers (w : World) :
    DistinctIds (w.buildSnapshot.world.customers.map CustomerSnapshot.customerId) :=
  distinctIds_sortedSnapshots (fun _ ↦ rfl) fun _ customer hfind ↦
    Store.key_of_find? hfind ▸ customer.customerId_pos

/-- Packages have different ids. -/
theorem World.distinctIds_packages (w : World) :
    DistinctIds (w.buildSnapshot.world.packages.map PackageSnapshot.packageId) :=
  distinctIds_sortedSnapshots (fun _ ↦ rfl) fun _ package hfind ↦
    Store.key_of_find? hfind ▸ package.packageId_pos

/-- Routes have different ids. -/
theorem World.distinctIds_routes (w : World) :
    DistinctIds (w.buildSnapshot.world.routes.map RouteSnapshot.routeId) :=
  distinctIds_sortedSnapshots (fun _ ↦ rfl) fun _ route hfind ↦
    Store.key_of_find? hfind ▸ route.routeId_pos

namespace World.Sound

/-- A record of a route fits the truck of the route. -/
theorem fits (h : w.Sound u allowed clock) {r t : Int} {route : DeliveryRoute}
    {truck real : Truck} (hr : w.routes.find? r = some route) (hlink : route.truck = some t)
    (ht : w.trucks.find? t = some truck) (hsame : truck.SameVehicle real) :
    (RouteSnapshot.ofRoute route).Fits w.buildSnapshot.world.packages real := by
  obtain ⟨hload, hdistance⟩ := h.limits hr hlink ht
  rw [hsame.capacity] at hload
  rw [hsame.maxRange] at hdistance
  have hperm : (RouteSnapshot.ofRoute route).packageIds.Perm route.packages :=
    List.mergeSort_perm _ _
  have hstored : ∀ p ∈ (RouteSnapshot.ofRoute route).packageIds, (w.packages.find? p).isSome := by
    intro p hp
    obtain ⟨package, hfind, -⟩ := h.linked.package_of_route hr (hperm.mem_iff.mp hp)
    exact Option.isSome_iff_exists.mpr ⟨package, hfind⟩
  refine ⟨⟨((RouteSnapshot.ofRoute route).packageIds.filterMap w.packages.find?).map
    PackageSnapshot.ofPackage, ?_, ?_⟩, ?_⟩
  · rw [List.forall₂_map_right_iff]
    refine (forall₂_filterMap_of_isSome hstored).imp fun p package hfind ↦ ?_
    have hkey : package.packageId = p := Store.key_of_find? hfind
    exact ⟨mem_record hfind, hkey⟩
  · have hloads : ((((RouteSnapshot.ofRoute route).packageIds.filterMap w.packages.find?).map
        PackageSnapshot.ofPackage).map PackageSnapshot.load).Perm
        ((w.packagesOf route).map DeliveryPackage.load) := by
      rw [List.map_map]
      exact (hperm.filterMap _).map _
    have hnd : (RouteSnapshot.ofRoute route).locations.Nodup := route.plan.path.nodup
    have hlocations : (RouteSnapshot.ofRoute route).locations = route.locations := rfl
    rw [RouteSnapshot.maxSegmentLoad_eq hnd, RouteLoadCalculator.maximumSegmentLoad_perm hloads,
      hlocations, RouteLoadCalculator.maximumSegmentLoad_le_iff route.two_le_length_locations]
    intro k hk
    simpa using hload k hk
  · rw [DeliveryRoute.totalDistanceKm_eq] at hdistance
    exact hdistance

/-- A route of a sound world carries its packages. -/
theorem carries (h : w.Sound u allowed clock) {r p : Int} {route : DeliveryRoute}
    {package : DeliveryPackage} (hr : w.routes.find? r = some route) (hmem : p ∈ route.packages)
    (hp : w.packages.find? p = some package) :
    (RouteSnapshot.ofRoute route).Carries (.ofPackage package) := by
  obtain ⟨i, j, hi, hj, hlt⟩ := RoutePath.includesInOrder_iff.mp (h.onPath hr hmem hp)
  have hidx : ∀ {i : Nat} {code : LocationCode}, route.plan.path.locations[i]? = some code →
      route.plan.path.locations.idxOf code = i := by
    intro i code hcode
    obtain ⟨hlen, rfl⟩ := List.getElem?_eq_some_iff.mp hcode
    exact route.plan.path.nodup.idxOf_getElem i hlen
  refine ⟨List.mem_of_getElem? hi, List.mem_of_getElem? hj, ?_⟩
  exact (hidx hi).trans_lt (hlt.trans_eq (hidx hj).symm)

/-- Texts that an index finds differ between the records. -/
theorem apart_of_indexes {index : Std.ExtTreeMap String Int} (field : Customer → String)
    {shown : CustomerSnapshot → String} (h : Indexes index "" field w.customers)
    (hfield : ∀ c customer, w.customers.find? c = some customer →
      shown (.ofCustomer customer) = field customer) :
    w.buildSnapshot.world.customers.Pairwise (Apart shown) := by
  have hids : w.buildSnapshot.world.customers.Pairwise fun a b ↦ a.customerId ≠ b.customerId :=
    List.pairwise_map.mp w.distinctIds_customers.nodup
  refine hids.imp_of_mem fun {a b} ha hb hne hempty heq ↦ hne ?_
  obtain ⟨x, hx, rfl⟩ := exists_of_mem_record ha
  obtain ⟨y, hy, rfl⟩ := exists_of_mem_record hb
  rw [hfield _ _ hx] at hempty heq
  rw [hfield _ _ hy] at heq
  exact h.key_unique hx hy hempty heq

/-- The snapshot of a sound world with trucks at supported places is valid over any fleet of the
same vehicles. -/
theorem valid_buildSnapshot (h : w.Sound u allowed clock)
    (hplace : ∀ place, allowed place → ∀ l ∈ place, l ∈ Map.locations) {fleet : Fleet}
    (hfleet : w.trucks.Related Truck.SameVehicle fleet) :
    w.buildSnapshot.world.Valid u fleet w.buildSnapshot.schemaVersion where
  customerIds := w.distinctIds_customers
  packageIds := w.distinctIds_packages
  routeIds := w.distinctIds_routes
  truckIds := distinctIds_sortedSnapshots (fun _ ↦ rfl) fun k truck hfind ↦
    Store.key_of_find? hfind ▸ truck.valid.1
  nextCustomerId := by
    refine ⟨h.counted.pos.1, fun record hrecord ↦ ?_⟩
    obtain ⟨customer, hfind, rfl⟩ := exists_of_mem_record hrecord
    exact h.counted.customers hfind
  nextPackageId := by
    refine ⟨h.counted.pos.2.1, fun record hrecord ↦ ?_⟩
    obtain ⟨package, hfind, rfl⟩ := exists_of_mem_record hrecord
    exact h.counted.packages hfind
  nextRouteId := by
    refine ⟨h.counted.pos.2.2, fun record hrecord ↦ ?_⟩
    obtain ⟨route, hfind, rfl⟩ := exists_of_mem_record hrecord
    exact h.counted.routes hfind
  stops := by
    intro record hrecord
    obtain ⟨route, -, rfl⟩ := exists_of_mem_record hrecord
    exact route.two_le_length_locations
  listed := by
    intro record hrecord
    obtain ⟨route, hfind, rfl⟩ := exists_of_mem_record hrecord
    have hperm : (RouteSnapshot.ofRoute route).packageIds.Perm route.packages :=
      List.mergeSort_perm _ _
    refine ⟨fun p hp ↦ ?_, hperm.nodup_iff.mpr (h.linked.nodup hfind)⟩
    obtain ⟨package, hpackage, -⟩ := h.linked.package_of_route hfind (hperm.mem_iff.mp hp)
    have hkey : package.packageId = p := Store.key_of_find? hpackage
    have hpos := package.packageId_pos
    omega
  customer_of_package := by
    intro record hrecord
    obtain ⟨package, hfind, rfl⟩ := exists_of_mem_record hrecord
    obtain ⟨customer, hcustomer, -⟩ := h.linked.customer_of_package hfind
    have hkey : customer.customerId = package.customer := Store.key_of_find? hcustomer
    exact List.mem_map.mpr ⟨_, mem_record hcustomer, hkey⟩
  route_of_package := by
    intro record hrecord r hr
    obtain ⟨package, hfind, rfl⟩ := exists_of_mem_record hrecord
    have hlink : package.route = some r := (h.linked.routeId hfind).symm.trans hr
    obtain ⟨route, hroute, hmem⟩ := h.linked.route_of_package hfind hlink
    have hid : route.routeId = r := Store.key_of_find? hroute
    exact ⟨_, mem_record hroute, hid, (List.mergeSort_perm _ _).mem_iff.mpr hmem,
      h.carries hroute hmem hfind⟩
  package_of_route := by
    intro record hrecord p hp
    obtain ⟨route, hroute, rfl⟩ := exists_of_mem_record hrecord
    obtain ⟨package, hfind, hlink⟩ := h.linked.package_of_route hroute
      ((List.mergeSort_perm _ _).mem_iff.mp hp)
    have hkey : package.packageId = p := Store.key_of_find? hfind
    exact ⟨_, mem_record hfind, hkey, (h.linked.routeId hfind).trans hlink⟩
  trucks_nodup := by
    have hids : w.buildSnapshot.world.routes.Pairwise fun a b ↦ a.routeId ≠ b.routeId :=
      List.pairwise_map.mp w.distinctIds_routes.nodup
    refine List.pairwise_filterMap.mpr (hids.imp_of_mem fun {a b} ha hb hne t ht t' ht' heq ↦ ?_)
    obtain ⟨x, hx, rfl⟩ := exists_of_mem_record ha
    obtain ⟨y, hy, rfl⟩ := exists_of_mem_record hb
    rw [← heq] at ht'
    exact hne (h.linked.eq_of_truck hx hy ht ht')
  truck_of_route := by
    intro record hrecord t ht
    obtain ⟨route, hroute, rfl⟩ := exists_of_mem_record hrecord
    have hlink : route.truck = some t := ht
    obtain ⟨truck, htruck, -⟩ := h.linked.truck_of_route hroute hlink
    obtain ⟨real, hreal, hsame⟩ := hfleet.forward htruck
    refine ⟨?_, real, hreal, h.fits hroute hlink htruck hsame⟩
    have hscheduled := (h.timely _ _ hroute).truck_scheduled (by simp [hlink])
    exact Option.isSome_map.trans hscheduled
  truckState := by
    intro record hrecord
    obtain ⟨truck, htruck, rfl⟩ := exists_of_mem_record hrecord
    have hstate := h.linked.linkState _ _ htruck
    have hlocated := h.located _ _ htruck
    obtain ⟨real, hreal, -⟩ := hfleet.forward htruck
    refine ⟨Option.isSome_iff_exists.mpr ⟨real, hreal⟩, fun hfree ↦ ?_,
      fun hway ↦ hstate.onTheWay.mp hway, hplace _ hlocated.place, hlocated.destination⟩
    have hfree' : truck.status = .free := hfree
    have hroute : truck.route = none := by
      cases hr : truck.route with
      | none => rfl
      | some r =>
        have hway := hstate.onTheWay.mpr (by simp [hr])
        rw [hfree'] at hway
        cases hway
    obtain ⟨hfrom, huntil, hdestination⟩ := hstate.idle hroute
    exact ⟨hroute, ⟨dtToStr_eq_none_iff.mpr hfrom, dtToStr_eq_none_iff.mpr huntil⟩, hdestination⟩
  route_of_truck := by
    intro record hrecord r hr
    obtain ⟨truck, htruck, rfl⟩ := exists_of_mem_record hrecord
    obtain ⟨route, hroute, hlink⟩ := h.linked.route_of_truck htruck hr
    have hid : route.routeId = r := Store.key_of_find? hroute
    exact ⟨_, mem_record hroute, hlink, hid⟩
  truck_agrees := by
    intro route' hroute' truck' htruck' hname
    obtain ⟨route, hroute, rfl⟩ := exists_of_mem_record hroute'
    obtain ⟨truck, htruck, rfl⟩ := exists_of_mem_record htruck'
    obtain ⟨other, hother, hback⟩ := h.linked.truck_of_route hroute hname
    obtain rfl := Option.some.inj (htruck.symm.trans hother)
    exact hback
  complete := by
    intro _ t real hreal
    obtain ⟨truck, htruck, -⟩ := hfleet.backward hreal
    have hkey : truck.vehicleId = t := Store.key_of_find? htruck
    exact List.mem_map.mpr ⟨_, mem_record htruck, hkey⟩
  legacy hversion := by
    cases hversion
  emails := apart_of_indexes (fun customer ↦ customer.contact.email)
    (fun _ _ ↦ h.registered.email) fun c customer hfind ↦
      (h.registered.clean c customer hfind).strip_lower_email
  phones := apart_of_indexes (fun customer ↦ customer.contact.phoneNumber)
    (fun _ _ ↦ h.registered.phone) fun c customer hfind ↦
      (h.registered.clean c customer hfind).strip_phoneNumber

end World.Sound

/-! ### The records can be read -/

/-- Every schedule lies in years of four digits. -/
def World.FourDigitYears (w : World) : Prop :=
  w.routes.All fun route ↦ ∀ s ∈ route.plan.schedule?,
    s.departureTime.FourDigitYear ∧ s.etaFinal.FourDigitYear

/-- A saved route is rebuilt over its stops with its departure cut back to the second. -/
theorem DeliveryRoute.exists_rebuilds {route : DeliveryRoute}
    (hyear : ∀ t ∈ route.departureTime, t.FourDigitYear) :
    ∃ rebuilt, (RouteSnapshot.ofRoute route).Rebuilds u rebuilt ∧
      rebuilt.departureTime = route.departureTime.map Datetime.truncate := by
  have hplan : ∃ plan : RoutePlan, plan.path = route.plan.path ∧
      plan.departureTime = route.departureTime.map Datetime.truncate := by
    cases hs : route.plan.schedule? with
    | none =>
      refine ⟨route.plan, rfl, ?_⟩
      simp [DeliveryRoute.departureTime, RoutePlan.departureTime, hs]
    | some s =>
      obtain ⟨plan, hplan⟩ := RoutePlan.exists_create_earlier hs s.departureTime.truncate_le
      obtain ⟨hpath, hdeparture⟩ := RoutePlan.create_eq_ok_iff.mp hplan
      refine ⟨plan, hpath, hdeparture.trans ?_⟩
      simp [DeliveryRoute.departureTime, RoutePlan.departureTime, hs]
  obtain ⟨plan, hpath, hdeparture⟩ := hplan
  refine ⟨{ route with
    plan := plan
    truck := none
    packages := []
    status := if plan.departureTime.isSome then .scheduled else .planned
    pendingEvents := [] }, ?_, hdeparture⟩
  refine WorldStateSnapshotRebuilder.rebuildRoute_eq_ok_iff.mpr
    ⟨?_, rfl, congrArg RoutePath.locations hpath, rfl, rfl, rfl, rfl⟩
  have hread : (RouteSnapshot.ofRoute route).departureTime = dtToStr route.departureTime := rfl
  rw [hread]
  refine Eq.trans ?_ (congrArg Except.ok hdeparture.symm)
  cases ht : route.departureTime with
  | none => rfl
  | some t => exact dtFromStr_dtToStr u (hyear t ht)

/-- The years are decided on the stored routes. -/
theorem World.fourDigitYears_of_all
    (h : (w.routes.values.all fun route ↦ route.plan.schedule?.all fun s ↦
      decide (s.departureTime.FourDigitYear ∧ s.etaFinal.FourDigitYear)) = true) :
    w.FourDigitYears := by
  intro r route hr s hs
  have hroute := List.all_eq_true.mp h route (Store.mem_values_of_find? hr)
  exact of_decide_eq_true ((Option.all_eq_true _ _).mp hroute s hs)

/-- The departure of a route has a year of four digits. -/
theorem World.FourDigitYears.departure (hyears : w.FourDigitYears) {r : Int}
    {route : DeliveryRoute} (hr : w.routes.find? r = some route) :
    ∀ t ∈ route.departureTime, t.FourDigitYear := by
  intro t ht
  obtain ⟨s, hs, rfl⟩ := Option.map_eq_some_iff.mp ht
  exact (hyears _ _ hr s hs).1

/-- The final arrival of a route has a year of four digits. -/
theorem World.FourDigitYears.eta (hyears : w.FourDigitYears) {r : Int}
    {route : DeliveryRoute} (hr : w.routes.find? r = some route) :
    ∀ t ∈ route.etaFinal, t.FourDigitYear := by
  intro t ht
  obtain ⟨s, hs, rfl⟩ := Option.map_eq_some_iff.mp ht
  exact (hyears _ _ hr s hs).2

/-- The records of a sound world are accepted by the constructors. -/
theorem World.Sound.restorable_buildSnapshot (h : w.Sound u allowed clock)
    (hyears : w.FourDigitYears) : w.buildSnapshot.world.Restorable u where
  customers record hrecord := by
    obtain ⟨customer, hfind, rfl⟩ := exists_of_mem_record hrecord
    exact ⟨customer.contact, h.registered.clean _ customer hfind⟩
  packages record hrecord := by
    obtain ⟨package, hfind, rfl⟩ := exists_of_mem_record hrecord
    exact DeliveryPackage.exists_new_of_check package.valid
  routes record hrecord := by
    obtain ⟨route, hfind, rfl⟩ := exists_of_mem_record hrecord
    obtain ⟨rebuilt, hrebuilt, -⟩ :=
      DeliveryRoute.exists_rebuilds (u := u) (hyears.departure hfind)
    exact ⟨rebuilt, hrebuilt⟩
  trucks record hrecord := by
    obtain ⟨truck, hfind, rfl⟩ := exists_of_mem_record hrecord
    have hread : ∀ {time : Option Datetime}, (∀ t ∈ time, t.FourDigitYear) →
        ∃ t, dtFromStr u (dtToStr time) = .ok t := by
      intro time hyear
      cases time with
      | none => exact ⟨none, rfl⟩
      | some t => exact ⟨_, dtFromStr_dtToStr u (hyear t rfl)⟩
    show (∃ t, dtFromStr u (dtToStr truck.busyFrom) = .ok t) ∧
      ∃ t, dtFromStr u (dtToStr truck.busyUntil) = .ok t
    cases hroute : truck.route with
    | none =>
      obtain ⟨hfrom, huntil, -⟩ := (h.linked.linkState _ _ hfind).idle hroute
      rw [hfrom, huntil]
      exact ⟨⟨none, rfl⟩, none, rfl⟩
    | some r =>
      obtain ⟨route, hr, -⟩ := h.linked.route_of_truck hfind hroute
      obtain ⟨hfrom, huntil⟩ := h.linked.window hfind hroute hr
      rw [hfrom, huntil]
      exact ⟨hread (hyears.departure hr), hread (hyears.eta hr)⟩

/-! ### A saved world can be loaded -/

/-- The places that the truck checks accept. -/
def Supported (place : Option LocationCode) : Prop := ∀ l ∈ place, l ∈ Map.locations

/-- The hubs are supported. -/
theorem supported_of_mem (l : LocationCode) (hl : l ∈ Map.locations) : Supported (some l) :=
  fun _ hl' ↦ Option.some.inj hl' ▸ hl

/-- The snapshot of a reachable world passes every check, is rebuilt and linked, and is prepared
at every instant. -/
theorem Reachable.saved_world_loads {fleet fleet' : Fleet}
    (hidle : fleet.All (Truck.Idle Supported)) (h : Reachable u fleet clock w)
    (hyears : w.FourDigitYears) (hfleet : w.trucks.Related Truck.SameVehicle fleet') :
    WorldStateSnapshotValidator.validateSnapshot u fleet' w.buildSnapshot
        supportedSchemaVersions = .ok () ∧
      (∃ rebuilt linked, WorldStateSnapshotRebuilder.rebuild u w.buildSnapshot = .ok rebuilt ∧
        WorldStateSnapshotLinker.link u fleet' w.buildSnapshot rebuilt = .ok linked) ∧
      ∀ now, ∃ world, WorldStateSnapshotPreparer.prepare u fleet' now w.buildSnapshot
        supportedSchemaVersions = .ok world := by
  have hsound := h.sound supported_of_mem hidle
  have hversion : w.buildSnapshot.schemaVersion ∈ supportedSchemaVersions :=
    List.mem_cons_of_mem _ List.mem_cons_self
  have hvalid := hsound.valid_buildSnapshot (fun _ hplace ↦ hplace) hfleet
  have hrestorable := hsound.restorable_buildSnapshot hyears
  obtain ⟨rebuilt, hrebuild⟩ := WorldStateSnapshotRebuilder.exists_rebuild hvalid hrestorable
  obtain ⟨linked, hlink⟩ := WorldStateSnapshotLinker.exists_link hvalid hrestorable
    (WorldStateSnapshotRebuilder.rebuilt_of_rebuild hvalid.customerIds.nodup
      hvalid.packageIds.nodup hvalid.routeIds.nodup hrebuild)
  refine ⟨WorldStateSnapshotValidator.validateSnapshot_eq_ok_iff.mpr ⟨hversion, hvalid⟩,
    ⟨rebuilt, linked, hrebuild, hlink⟩, fun now ↦ ?_⟩
  exact WorldStateSnapshotPreparer.exists_prepare_iff.mpr ⟨hversion, hvalid, hrestorable⟩

namespace Scenario

/-- The world of the scenario stays in years of four digits. -/
theorem fourDigitYears_steps :
    (performAll .asciiOnly (.initial Scenario.fleet) Scenario.steps).FourDigitYears :=
  World.fourDigitYears_of_all (by decide +kernel)

/-- The fleet of the scenario is idle at a supported place. -/
theorem fleet_idle_supported : Scenario.fleet.All (Truck.Idle Supported) := by
  refine fleet_idle.imp fun _ h ↦ h.imp ?_
  rintro _ ⟨l, hl, rfl⟩ l' hl'
  exact Option.some.inj hl' ▸ hl

/-- The world of the scenario, saved under way, can be loaded. -/
theorem saved_world_loads_steps :
    WorldStateSnapshotValidator.validateSnapshot .asciiOnly
        (performAll .asciiOnly (.initial Scenario.fleet) Scenario.steps).trucks
        (performAll .asciiOnly (.initial Scenario.fleet) Scenario.steps).buildSnapshot
        supportedSchemaVersions = .ok () ∧
      (∃ rebuilt linked, WorldStateSnapshotRebuilder.rebuild .asciiOnly
          (performAll .asciiOnly (.initial Scenario.fleet) Scenario.steps).buildSnapshot =
            .ok rebuilt ∧
        WorldStateSnapshotLinker.link .asciiOnly
          (performAll .asciiOnly (.initial Scenario.fleet) Scenario.steps).trucks
          (performAll .asciiOnly (.initial Scenario.fleet) Scenario.steps).buildSnapshot rebuilt =
            .ok linked) ∧
      ∀ now, ∃ world, WorldStateSnapshotPreparer.prepare .asciiOnly
        (performAll .asciiOnly (.initial Scenario.fleet) Scenario.steps).trucks now
        (performAll .asciiOnly (.initial Scenario.fleet) Scenario.steps).buildSnapshot
        supportedSchemaVersions = .ok world :=
  Reachable.saved_world_loads fleet_idle_supported reachable_steps fourDigitYears_steps
    (Store.related_refl .refl)

end Scenario
end FleetFlow
