import FleetFlow.Runtime.Settled
import FleetFlow.Snapshot.Linked

/-!
# The prepared world of a snapshot

A valid snapshot links into a world whose references agree in both directions. The pass of the
reconciler keeps that, so the prepared world is consistent, with one binding for each candidate
truck.
-/

namespace FleetFlow

variable {u : UnicodeTables} {fleet : Fleet} {version : Int} {data : WorldSnapshotData} {w : World}

/-- The snapshot lists a truck, or one of its routes names it. -/
def WorldSnapshotData.Names (data : WorldSnapshotData) (t : Int) : Prop :=
  t ∈ data.trucks.map TruckSnapshot.vehicleId ∨
    t ∈ data.routes.filterMap RouteSnapshot.truckVehicleId

/-! ### Records and objects of the linked world -/

namespace WorldSnapshotData.Linked

/-- A route of the linked world has the links of its record. -/
theorem route_record (h : data.Linked u fleet w) {r : Int} {route : DeliveryRoute}
    (hr : w.routes.find? r = some route) : ∃ record ∈ data.routes, record.routeId = r ∧
      route.packages = record.packageIds ∧ route.truck = record.truckVehicleId ∧
      route.locations = record.locations ∧
      route.status = (if route.departureTime.isSome then .scheduled else .planned) := by
  obtain ⟨record, hrecord, hid, base, hbase, rfl⟩ := h.routes.backward hr
  obtain ⟨-, -, hlocations, -, -, -, hstatus⟩ :=
    WorldStateSnapshotRebuilder.rebuildRoute_eq_ok_iff.mp hbase
  exact ⟨record, hrecord, hid, rfl, rfl, hlocations, hstatus⟩

/-- The route of a record. -/
theorem exists_route (h : data.Linked u fleet w) {record : RouteSnapshot}
    (hrecord : record ∈ data.routes) : ∃ route, w.routes.find? record.routeId = some route ∧
      route.packages = record.packageIds ∧ route.truck = record.truckVehicleId := by
  obtain ⟨route, hroute, base, hbase, rfl⟩ := h.routes.forward hrecord
  exact ⟨_, hroute, rfl, rfl⟩

/-- A package of the linked world has the references of its record. -/
theorem package_record (h : data.Linked u fleet w) {p : Int} {package : DeliveryPackage}
    (hp : w.packages.find? p = some package) : ∃ record ∈ data.packages, record.packageId = p ∧
      package.startLocation = record.start ∧ package.endLocation = record.end_ ∧
      package.weight = record.weight ∧ package.customer = record.customerId ∧
      package.route = record.routeId ∧ package.routeId = record.routeId ∧
      package.status = .todo ∧ package.storedLocation = some record.start ∧
      package.pendingEvents = [] ∧ (record.routeId = none → package.expectedArrival = none) := by
  obtain ⟨record, hrecord, hid, before, hbefore, hnone, hsome⟩ := h.packages.backward hp
  obtain ⟨-, hstart, hend, hweight, hcustomer, hroute, hrouteId, hplace, harrival, hstatus,
    hevents⟩ := DeliveryPackage.new_eq_ok hbefore
  have hw : before.weight = record.weight := (PyFloat.finite.inj hweight).symm
  refine ⟨record, hrecord, hid, ?_⟩
  cases hr : record.routeId with
  | none =>
    obtain rfl := hnone hr
    exact ⟨hstart, hend, hw, hcustomer, hroute, hrouteId, hstatus, hplace, hevents,
      fun _ ↦ harrival⟩
  | some r =>
    obtain ⟨route, hfind, hlinks⟩ := hsome r hr
    have hkey : route.routeId = r := Store.key_of_find? hfind
    rw [hlinks.eq.1]
    exact ⟨hstart, hend, hw, hcustomer, congrArg some hkey, congrArg some hkey, hstatus, hplace,
      hevents, fun h ↦ by cases h⟩

/-- The package of a record. -/
theorem exists_package (h : data.Linked u fleet w) (hvalid : data.Valid u fleet version)
    {record : PackageSnapshot} (hrecord : record ∈ data.packages) :
    ∃ package, w.packages.find? record.packageId = some package ∧
      package.startLocation = record.start ∧ package.endLocation = record.end_ ∧
      package.weight = record.weight ∧ package.customer = record.customerId ∧
      package.route = record.routeId := by
  obtain ⟨package, hp, -⟩ := h.packages.forward hrecord
  obtain ⟨other, hother, hid, hstart, hend, hw, hcustomer, hroute, -⟩ := h.package_record hp
  obtain rfl := List.inj_on_of_nodup_map hvalid.packageIds.nodup hother hrecord hid
  exact ⟨package, hp, hstart, hend, hw, hcustomer, hroute⟩

/-- The record of a truck that no route names is that of a free truck. -/
theorem free_of_unnamed (hvalid : data.Valid u fleet version) {record : TruckSnapshot}
    (hrecord : record ∈ data.trucks)
    (hunnamed : record.vehicleId ∉ data.routes.filterMap RouteSnapshot.truckVehicleId) :
    record.status = .free := by
  cases hs : record.status with
  | free => rfl
  | onTheWay =>
    -- A record under way names a route, and this route names the truck.
    have hstate := (hvalid.truckState record hrecord).2
    obtain ⟨r, hr⟩ := Option.isSome_iff_exists.mp (hstate.onTheWay hs)
    obtain ⟨other, hother, hname, -⟩ := hvalid.route_of_truck record hrecord r hr
    exact absurd (List.mem_filterMap.mpr ⟨other, hother, hname⟩) hunnamed

/-- A truck of the linked world has taken the route that names it, or is idle. -/
theorem truck_cases (h : data.Linked u fleet w) (hvalid : data.Valid u fleet version) {t : Int}
    {truck : Truck} (ht : w.trucks.find? t = some truck) :
    (∃ record ∈ data.routes, record.truckVehicleId = some t ∧ ∃ route candidate,
      w.routes.find? record.routeId = some route ∧ route.truck = some t ∧
      CandidateFor u fleet data.trucks route t candidate ∧ truck = candidate.assign route) ∨
    t ∉ data.routes.filterMap RouteSnapshot.truckVehicleId ∧ truck.status = .free ∧
      truck.route = none ∧ truck.busyFrom = none ∧ truck.busyUntil = none ∧
      truck.inTransitTo = none := by
  by_cases hmem : t ∈ data.routes.filterMap RouteSnapshot.truckVehicleId
  · obtain ⟨record, hrecord, hname⟩ := List.mem_filterMap.mp hmem
    obtain ⟨route, candidate, hroute, hcandidate, hfinal⟩ := h.assigned record hrecord t hname
    obtain ⟨route', hroute', -, htruck⟩ := h.exists_route hrecord
    obtain rfl := Option.some.inj (hroute.symm.trans hroute')
    rw [ht, Option.some.injEq] at hfinal
    exact .inl ⟨record, hrecord, hname, route, candidate, hroute, htruck.trans hname, hcandidate,
      hfinal⟩
  · obtain ⟨record, hrecord, hid, hbuild⟩ := (h.unassigned t hmem truck).mp ht
    have hstate := (hvalid.truckState record hrecord).2
    have hfree := free_of_unnamed hvalid hrecord (hid ▸ hmem)
    obtain ⟨-, ⟨hfrom, huntil⟩, hdestination⟩ := hstate.free hfree
    simp only [WorldStateSnapshotLinker.buildCandidateTruck, hfrom, huntil, dtFromStr,
      except_bind_eq_ok_iff, Except.ok.injEq] at hbuild
    obtain ⟨real, -, -, rfl, -, rfl, rfl⟩ := hbuild
    exact .inr ⟨hmem, hfree, rfl, rfl, rfl, hdestination⟩

/-- The linked world has the trucks that the snapshot lists or names. -/
theorem isSome_truck_iff (h : data.Linked u fleet w) (hvalid : data.Valid u fleet version)
    {t : Int} : (w.trucks.find? t).isSome ↔ data.Names t := by
  unfold WorldSnapshotData.Names
  by_cases hmem : t ∈ data.routes.filterMap RouteSnapshot.truckVehicleId
  · obtain ⟨record, hrecord, hname⟩ := List.mem_filterMap.mp hmem
    obtain ⟨route, candidate, -, -, hfinal⟩ := h.assigned record hrecord t hname
    simp [hfinal, hmem]
  · simp only [hmem, or_false, List.mem_map, Option.isSome_iff_exists, h.unassigned t hmem]
    constructor
    · rintro ⟨truck, record, hrecord, hid, -⟩
      exact ⟨record, hrecord, hid⟩
    · rintro ⟨record, hrecord, hid⟩
      obtain ⟨hreal, hstate⟩ := hvalid.truckState record hrecord
      obtain ⟨-, ⟨hfrom, huntil⟩, -⟩ :=
        hstate.free (free_of_unnamed hvalid hrecord (hid ▸ hmem))
      obtain ⟨real, hreal⟩ := Option.isSome_iff_exists.mp hreal
      have hbuild : ∃ truck,
          WorldStateSnapshotLinker.buildCandidateTruck u fleet record = .ok truck := by
        unfold WorldStateSnapshotLinker.buildCandidateTruck
        rw [hfrom, huntil, Store.getItem_eq_ok_iff.mpr hreal]
        exact ⟨_, rfl⟩
      obtain ⟨truck, hbuild⟩ := hbuild
      exact ⟨truck, record, hrecord, hid, hbuild⟩

/-- A truck of the linked world is a clone of the fleet truck. -/
theorem sameVehicle (h : data.Linked u fleet w) {t : Int} {truck : Truck}
    (ht : w.trucks.find? t = some truck) :
    ∃ real, fleet.find? t = some real ∧ real.SameVehicle truck := by
  have hbuild : ∀ {record : TruckSnapshot} {candidate : Truck},
      WorldStateSnapshotLinker.buildCandidateTruck u fleet record = .ok candidate →
      ∃ real, fleet.find? record.vehicleId = some real ∧ real.SameVehicle candidate := by
    intro record candidate hrecord
    simp only [WorldStateSnapshotLinker.buildCandidateTruck, except_bind_eq_ok_iff,
      Store.getItem_eq_ok_iff, Except.ok.injEq] at hrecord
    obtain ⟨real, hreal, -, -, -, -, rfl⟩ := hrecord
    exact ⟨real, hreal, rfl, rfl, rfl, rfl⟩
  by_cases hmem : t ∈ data.routes.filterMap RouteSnapshot.truckVehicleId
  · obtain ⟨record, hrecord, hname⟩ := List.mem_filterMap.mp hmem
    obtain ⟨route, candidate, -, hcandidate, hfinal⟩ := h.assigned record hrecord t hname
    rw [ht, Option.some.injEq] at hfinal
    subst hfinal
    rcases hcandidate with ⟨listed, -, rfl, hlisted⟩ | ⟨-, real, hreal, rfl⟩
    · obtain ⟨real, hreal, hsame⟩ := hbuild hlisted
      exact ⟨real, hreal, hsame.vehicleId, hsame.name, hsame.capacity, hsame.maxRange⟩
    · exact ⟨real, hreal, rfl, rfl, rfl, rfl⟩
  · obtain ⟨record, -, rfl, hlisted⟩ := (h.unassigned t hmem truck).mp ht
    exact hbuild hlisted

/-! ### The linked world is consistent -/

/-- References between routes, trucks and packages agree. -/
theorem routeLinked (h : data.Linked u fleet w) (hvalid : data.Valid u fleet version) :
    w.RouteLinked where
  truck_of_route := by
    intro r t route hr ht
    obtain ⟨record, hrecord, hid, -, htruck, -⟩ := h.route_record hr
    obtain ⟨route', candidate, hroute', -, hfinal⟩ := h.assigned record hrecord t (htruck ▸ ht)
    refine ⟨_, hfinal, ?_⟩
    have hkey : route'.routeId = record.routeId := Store.key_of_find? hroute'
    exact congrArg some (hkey.trans hid)
  route_of_truck := by
    intro t r truck ht hr
    rcases h.truck_cases hvalid ht with ⟨record, -, -, route, candidate, hroute, htruck, -, rfl⟩ |
      ⟨-, -, hnone, -⟩
    · have hkey : route.routeId = record.routeId := Store.key_of_find? hroute
      have hid : route.routeId = r := Option.some.inj hr
      exact ⟨route, hid ▸ hkey ▸ hroute, htruck⟩
    · rw [hnone] at hr
      cases hr
  package_of_route := by
    intro r p route hr hp
    obtain ⟨record, hrecord, rfl, hlisted, -⟩ := h.route_record hr
    obtain ⟨listed, hmem, rfl, hroute⟩ := hvalid.package_of_route record hrecord p (hlisted ▸ hp)
    obtain ⟨package, hfind, -, -, -, -, hlink⟩ := h.exists_package hvalid hmem
    exact ⟨package, hfind, hlink.trans hroute⟩
  route_of_package := by
    intro p r package hp hr
    obtain ⟨record, hrecord, hid, -, -, -, -, hlink, -⟩ := h.package_record hp
    obtain ⟨other, hother, rfl, hmem, -⟩ :=
      hvalid.route_of_package record hrecord r (hlink ▸ hr)
    obtain ⟨route, hroute, hlisted, -⟩ := h.exists_route hother
    exact ⟨route, hroute, hlisted ▸ hid ▸ hmem⟩
  nodup := by
    intro r route hr
    obtain ⟨record, hrecord, -, hlisted, -⟩ := h.route_record hr
    exact hlisted ▸ (hvalid.listed record hrecord).nodup
  routeId := by
    intro p package hp
    obtain ⟨record, -, -, -, -, -, -, hroute, hrouteId, -⟩ := h.package_record hp
    rw [hroute, hrouteId]

/-- All references agree. -/
theorem linked (h : data.Linked u fleet w) (hvalid : data.Valid u fleet version) : w.Linked where
  toRouteLinked := h.routeLinked hvalid
  window := by
    intro t r truck route ht hr hroute
    rcases h.truck_cases hvalid ht with
      ⟨record, -, -, route', candidate, hroute', -, -, rfl⟩ | ⟨-, -, hnone, -⟩
    · have hkey : route'.routeId = record.routeId := Store.key_of_find? hroute'
      have hid : route'.routeId = r := Option.some.inj hr
      rw [← hkey, hid, hroute] at hroute'
      obtain rfl := Option.some.inj hroute'
      exact ⟨rfl, rfl⟩
    · rw [hnone] at hr
      cases hr
  customer_of_package := by
    intro p package hp
    obtain ⟨record, hrecord, rfl, -, -, -, hcustomer, -⟩ := h.package_record hp
    obtain ⟨owner, howner, hid⟩ := List.mem_map.mp (hvalid.customer_of_package record hrecord)
    obtain ⟨customer, hfind, hrel⟩ := h.customers.forward howner
    refine ⟨customer, by rw [hcustomer, ← hid, hfind], ?_⟩
    rw [hrel.deliveryPackages, List.mem_map]
    exact ⟨record, List.mem_filter.mpr ⟨hrecord, by simp [hid]⟩, rfl⟩
  package_of_customer := by
    intro c p customer hc hp
    obtain ⟨owner, -, hid, hrel⟩ := h.customers.backward hc
    rw [hrel.deliveryPackages, List.mem_map] at hp
    obtain ⟨record, hrecord, rfl⟩ := hp
    obtain ⟨hmem, howner⟩ := List.mem_filter.mp hrecord
    obtain ⟨package, hfind, -, -, -, hcustomer, -⟩ := h.exists_package hvalid hmem
    refine ⟨package, hfind, ?_⟩
    rw [hcustomer, of_decide_eq_true howner, hid]
  nodup_customer := by
    intro c customer hc
    obtain ⟨owner, -, -, hrel⟩ := h.customers.backward hc
    rw [hrel.deliveryPackages]
    exact hvalid.packageIds.nodup.sublist (List.filter_sublist.map _)
  linkState := by
    intro t truck ht
    rcases h.truck_cases hvalid ht with
      ⟨-, -, -, route, candidate, -, -, -, rfl⟩ | ⟨-, hfree, hroute, hfrom, huntil, hdestination⟩
    · refine ⟨⟨fun _ ↦ rfl, fun _ ↦ rfl⟩, fun hnone ↦ ?_⟩
      cases hnone
    · exact ⟨by simp [hfree, hroute], fun _ ↦ ⟨hfrom, huntil, hdestination⟩⟩
  waiting := by
    intro p package hp hnone
    obtain ⟨record, -, -, hstart, -, -, -, hroute, -, hstatus, hplace, -, harrival⟩ :=
      h.package_record hp
    refine ⟨hstatus, ?_, harrival (hroute.symm.trans hnone)⟩
    rw [DeliveryPackage.currentLocation, hplace, hstart, Option.getD_some]

/-- Packages lie on their routes. -/
theorem onPath (h : data.Linked u fleet w) (hvalid : data.Valid u fleet version) : w.OnPath := by
  intro r p route package hr hmem hp
  obtain ⟨record, hrecord, rfl, hlisted, -, hlocations, -⟩ := h.route_record hr
  obtain ⟨listed, hl, rfl, hroute⟩ := hvalid.package_of_route record hrecord p (hlisted ▸ hmem)
  obtain ⟨package', hp', hstart, hend, -⟩ := h.exists_package hvalid hl
  obtain rfl := Option.some.inj (hp.symm.trans hp')
  obtain ⟨other, hother, hid, -, hcarries⟩ := hvalid.route_of_package listed hl _ hroute
  obtain rfl := List.inj_on_of_nodup_map hvalid.routeIds.nodup hother hrecord hid
  have hpath : route.plan.path.locations = other.locations := hlocations
  rw [DeliveryRoute.includesInOrder, RoutePath.includesInOrder_iff, hpath, hstart, hend]
  exact ⟨_, _, List.getElem?_idxOf hcarries.start_mem, List.getElem?_idxOf hcarries.end_mem,
    hcarries.lt⟩

/-- The loads of the packages of a route are those of the records that its record lists. -/
theorem map_load_packagesOf (h : data.Linked u fleet w) (hvalid : data.Valid u fleet version)
    {ids : List Int} {listed : List PackageSnapshot}
    (hlisted : List.Forall₂ (fun p record ↦ record ∈ data.packages ∧ record.packageId = p) ids
      listed) :
    (ids.filterMap w.packages.find?).map DeliveryPackage.load =
      listed.map PackageSnapshot.load := by
  induction hlisted with
  | nil => rfl
  | cons hrecord _ ih =>
    obtain ⟨hmem, rfl⟩ := hrecord
    obtain ⟨package, hfind, hstart, hend, hweight, -⟩ := h.exists_package hvalid hmem
    rw [List.filterMap_cons_some hfind, List.map_cons, List.map_cons, ih]
    simp only [DeliveryPackage.load, PackageSnapshot.load, hstart, hend, hweight]

/-- Routes stay within the limits of their trucks. -/
theorem withinLimits (h : data.Linked u fleet w) (hvalid : data.Valid u fleet version) :
    w.WithinLimits := by
  intro r t route truck hr ht htruck
  obtain ⟨record, hrecord, -, hlisted, hname, hlocations, -⟩ := h.route_record hr
  obtain ⟨-, real, hreal, hfits⟩ := hvalid.truck_of_route record hrecord t (hname ▸ ht)
  obtain ⟨real', hreal', hsame⟩ := h.sameVehicle htruck
  obtain rfl := Option.some.inj (hreal.symm.trans hreal')
  obtain ⟨listed, hmem, hload⟩ := hfits.load
  rw [← hsame.capacity, ← hsame.maxRange]
  constructor
  · have hnd : record.locations.Nodup := hlocations ▸ route.plan.path.nodup
    rw [RouteSnapshot.maxSegmentLoad_eq hnd, ← hlocations] at hload
    rw [RouteLoadCalculator.maximumSegmentLoad_le_iff route.two_le_length_locations] at hload
    intro k hk
    have hloads := h.map_load_packagesOf hvalid hmem
    rw [← hlisted] at hloads
    rw [World.packagesOf, hloads]
    simpa using hload k hk
  · rw [DeliveryRoute.totalDistanceKm_eq, hlocations]
    exact hfits.distance

/-- Ids stay below the counters of the snapshot. -/
theorem counted (h : data.Linked u fleet w) (hvalid : data.Valid u fleet version) :
    w.Counted := by
  rw [h.frame]
  refine ⟨?_, ?_, ?_, hvalid.nextCustomerId.1, hvalid.nextPackageId.1, hvalid.nextRouteId.1⟩
  · intro c customer hc
    obtain ⟨record, hrecord, rfl, -⟩ := h.customers.backward hc
    exact hvalid.nextCustomerId.2 record hrecord
  · intro p package hp
    obtain ⟨record, hrecord, rfl, -⟩ := h.packages.backward hp
    exact hvalid.nextPackageId.2 record hrecord
  · intro r route hr
    obtain ⟨record, hrecord, rfl, -⟩ := h.routes.backward hr
    exact hvalid.nextRouteId.2 record hrecord

/-- Contacts are clean. -/
theorem clean (h : data.Linked u fleet w) :
    w.customers.All fun customer ↦ customer.contact.Clean u := by
  intro c customer hc
  obtain ⟨owner, -, -, hrel⟩ := h.customers.backward hc
  exact ContactInfo.clean_of_new hrel.contact

/-- The reconciler can pass over every route. -/
theorem ready (h : data.Linked u fleet w) (hvalid : data.Valid u fleet version) (now : Datetime) :
    Reconciler.Ready now w := by
  refine ⟨h.routeLinked hvalid, fun {r route} hr ↦ ?_, fun {r route package} hr hp ↦ ?_⟩
  · obtain ⟨-, -, -, -, -, -, hstatus⟩ := h.route_record hr
    unfold Reconciler.StatusReady
    cases hs : route.plan.schedule? with
    | some s =>
      left
      simpa [DeliveryRoute.departureTime, RoutePlan.departureTime, hs] using hstatus
    | none =>
      right
      left
      rw [DeliveryRoute.statusAt_eq_planned_iff.mpr hs]
      simpa [DeliveryRoute.departureTime, RoutePlan.departureTime, hs] using hstatus
  · obtain ⟨hmem, hfind⟩ := World.mem_packagesOf.mp hp
    exact h.onPath hvalid hr hmem hfind

end WorldSnapshotData.Linked

/-! ### Reconciling and binding -/

/-- How a prepared world comes from a snapshot. -/
structure ReconciledWorld.PreparedFrom (u : UnicodeTables) (fleet : Fleet) (now : Datetime)
    (snapshot : WorldStateSnapshot) (world : ReconciledWorld) (skipped : List Int)
    (joined w : World) : Prop where
  valid : snapshot.world.Valid u fleet snapshot.schemaVersion
  linked : snapshot.world.Linked u fleet joined
  advanced : World.Advanced now skipped joined w
  customers : world.customers = w.customers
  packages : world.packages = w.packages
  routes : world.routes = w.routes
  counters : world.counters = snapshot.world.counters
  bindings : ∀ binding, binding ∈ world.truckBindings ↔
    ∃ truck, w.trucks.find? binding.vehicleId = some truck ∧
      binding = WorldStateSnapshotLinker.bindingOf truck truck.route
  bindings_nodup : (world.truckBindings.map TruckBinding.vehicleId).Nodup

namespace ReconciledWorld.PreparedFrom

variable {fleet : Fleet} {now : Datetime} {snapshot : WorldStateSnapshot} {world : ReconciledWorld}
  {skipped : List Int} {joined w : World}
  (h : world.PreparedFrom u fleet now snapshot skipped joined w)
include h

/-- Advancing leaves the customers as they were joined. -/
theorem customers_joined : world.customers = joined.customers := by
  rw [h.customers, h.advanced.frame]

/-- The counters are those of the world that was advanced. -/
theorem counters_eq : world.counters = w.buildCountersSnapshot := by
  rw [h.counters, h.advanced.frame, h.linked.frame]
  rfl

end ReconciledWorld.PreparedFrom

namespace WorldStateSnapshotPreparer

/-- The pass over the routes of a linked world succeeds. -/
theorem advanced_of_reconcile (h : data.Linked u fleet w) (hvalid : data.Valid u fleet version)
    (now : Datetime) :
    ∃ w' skipped, reconcile now data.routes w = .ok w' ∧ World.Advanced now skipped w w' := by
  have hids : ∀ r ∈ data.routes.map RouteSnapshot.routeId,
      ∃ route, w.routes.find? r = some route := by
    intro r hr
    obtain ⟨record, hrecord, rfl⟩ := List.mem_map.mp hr
    obtain ⟨route, hroute, -⟩ := h.exists_route hrecord
    exact ⟨route, hroute⟩
  have hpass := Reconciler.ensures_reconcileRoutes (h.ready hvalid now) hids hvalid.routeIds.nodup
  rw [Program.ensures_iff] at hpass
  unfold reconcile
  cases hrun : Reconciler.reconcileRoutes now true (data.routes.map RouteSnapshot.routeId) w with
  | error e w' =>
    rw [hrun] at hpass
    exact hpass.elim
  | ok summary w' =>
    rw [hrun] at hpass
    obtain ⟨passes, -, hfst, hswept⟩ := hpass
    refine ⟨w', _, rfl, World.advanced_of_swept (h.routeLinked hvalid) hswept ?_⟩
    rw [hfst]
    refine (List.perm_ext_iff_of_nodup hvalid.routeIds.nodup Store.nodup_values).mpr fun r ↦ ?_
    constructor
    · intro hr
      obtain ⟨route, hroute⟩ := hids r hr
      exact List.mem_map.mpr ⟨route, Store.mem_values_of_find? hroute, Store.key_of_find? hroute⟩
    · intro hr
      obtain ⟨route, hroute, rfl⟩ := List.mem_map.mp hr
      obtain ⟨record, hrecord, hid, -⟩ := h.route_record (Store.mem_values.mp hroute)
      exact List.mem_map.mpr ⟨record, hrecord, hid⟩

/-- The second loop over the bindings changes none of them. -/
theorem bindRoute_eq_self {w : World} (hl : w.RouteLinked)
    {bindings : Store TruckBinding.vehicleId} {record : RouteSnapshot}
    (hbindings : ∀ t truck, w.trucks.find? t = some truck →
      bindings.find? t = some (WorldStateSnapshotLinker.bindingOf truck truck.route))
    {bindings' : Store TruckBinding.vehicleId}
    (h : WorldStateSnapshotLinker.bindRoute w bindings record = .ok bindings') :
    bindings' = bindings := by
  unfold WorldStateSnapshotLinker.bindRoute at h
  split at h
  · exact (Except.ok.inj h).symm
  · next t ht =>
    simp only [except_bind_eq_ok_iff, Store.getItem_eq_ok_iff] at h
    obtain ⟨candidate, hcandidate, route, hroute, h⟩ := h
    have hfind := hbindings t candidate hcandidate
    by_cases hlink : route.truck = some t
    · have hid : route.routeId = record.routeId := Store.key_of_find? hroute
      obtain ⟨truck, htruck, hback⟩ := hl.truck_of_route hroute hlink
      obtain rfl := Option.some.inj (hcandidate.symm.trans htruck)
      have hkey : candidate.vehicleId = t := Store.key_of_find? hcandidate
      simp [hlink] at h
      rw [← h]
      apply Store.put_eq_self
      rw [hid, ← hback]
      have hself : (WorldStateSnapshotLinker.bindingOf candidate candidate.route).vehicleId = t :=
        hkey
      rw [hself, hfind]
    · simpa [hlink, hfind] using h.symm

/-- The bindings are the states of the candidate trucks. -/
theorem mem_buildTruckBindings {w : World} (hl : w.RouteLinked) {records : List RouteSnapshot}
    {bindings : List TruckBinding}
    (h : WorldStateSnapshotLinker.buildTruckBindings records w = .ok bindings) :
    (∀ binding, binding ∈ bindings ↔ ∃ truck, w.trucks.find? binding.vehicleId = some truck ∧
      binding = WorldStateSnapshotLinker.bindingOf truck truck.route) ∧
      (bindings.map TruckBinding.vehicleId).Nodup := by
  simp only [WorldStateSnapshotLinker.buildTruckBindings, except_bind_eq_ok_iff,
    Except.ok.injEq] at h
  obtain ⟨store, hfold, rfl⟩ := h
  let candidates : Store TruckBinding.vehicleId :=
    .ofList (w.trucks.values.map fun truck ↦ WorldStateSnapshotLinker.bindingOf truck truck.route)
  have hnd : ((w.trucks.values.map fun truck ↦
      WorldStateSnapshotLinker.bindingOf truck truck.route).map TruckBinding.vehicleId).Nodup := by
    rw [List.map_map]
    exact Store.nodup_values
  have hfind : ∀ t binding, candidates.find? t = some binding ↔
      ∃ truck, w.trucks.find? t = some truck ∧
        binding = WorldStateSnapshotLinker.bindingOf truck truck.route := by
    intro t binding
    rw [Store.find?_ofList_eq_some_iff hnd, List.mem_map]
    constructor
    · rintro ⟨⟨truck, hmem, rfl⟩, rfl⟩
      exact ⟨truck, Store.mem_values.mp hmem, rfl⟩
    · rintro ⟨truck, ht, rfl⟩
      have hkey : truck.vehicleId = t := Store.key_of_find? ht
      exact ⟨⟨truck, Store.mem_values_of_find? ht, rfl⟩, hkey⟩
  have hstore : store = candidates := by
    refine foldlM_eq_ok (fun _ bindings ↦ bindings = candidates) hfold rfl ?_
    rintro done record rest - t t' rfl hstep
    exact bindRoute_eq_self hl (fun t truck ht ↦ (hfind t _).mpr ⟨truck, ht, rfl⟩) hstep
  rw [hstore]
  exact ⟨fun binding ↦ Store.mem_values.trans (hfind _ binding), Store.nodup_values⟩

/-- What a successful preparation gives. -/
theorem preparedFrom_of_prepare {now : Datetime} {snapshot : WorldStateSnapshot}
    {supportedSchemaVersions : List Int} {world : ReconciledWorld}
    (h : prepare u fleet now snapshot supportedSchemaVersions = .ok world) :
    ∃ skipped linked w, world.PreparedFrom u fleet now snapshot skipped linked w := by
  rw [prepare, check_bind_eq_ok_iff] at h
  simp only [except_bind_eq_ok_iff, catching_eq_ok_iff, Except.ok.injEq] at h
  obtain ⟨hvalidate, rebuilt, hrebuild, linked, hlink, w, hreconcile, bindings, hbindings,
    rfl⟩ := h
  obtain ⟨-, hvalid⟩ := WorldStateSnapshotValidator.validateSnapshot_eq_ok_iff.mp hvalidate
  have hrebuilt := WorldStateSnapshotRebuilder.rebuilt_of_rebuild hvalid.customerIds.nodup
    hvalid.packageIds.nodup hvalid.routeIds.nodup hrebuild
  have hlinked := WorldStateSnapshotLinker.linked_of_link hvalid hrebuilt hlink
  obtain ⟨w', skipped, hreconcile', hadvanced⟩ := advanced_of_reconcile hlinked hvalid now
  obtain rfl := Except.ok.inj (hreconcile.symm.trans hreconcile')
  have hl := (hadvanced.linked (hlinked.linked hvalid)).toRouteLinked
  obtain ⟨hmem, hnodup⟩ := mem_buildTruckBindings hl hbindings
  exact ⟨skipped, linked, w, hvalid, hlinked, hadvanced, rfl, rfl, rfl, rfl, hmem, hnodup⟩

end WorldStateSnapshotPreparer
end FleetFlow
