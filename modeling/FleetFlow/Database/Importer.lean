import FleetFlow.Base.Rows
import FleetFlow.Database.Tables
import FleetFlow.Snapshot.Loaded
import FleetFlow.Snapshot.Places

/-!
# Importing a prepared world

Follows `adapters/driven/persistence/database/world_state_importer.py`. The importer deletes the
rows of the world before and inserts those of the prepared one. Of the trucks it updates the ones
that have a binding.
-/

namespace FleetFlow

open Database ColumnTypes

namespace Database

/-! ### The rows of the entities -/

/-- The values of a customer; `world_state_importer.py:70–80`. -/
def CustomerRow.ofCustomer (customer : Customer) : CustomerRow where
  customerId := customer.customerId
  name := customer.contact.name
  email := customer.contact.email
  phone := customer.contact.phoneNumber

/-- The values of a route; `world_state_importer.py:92–102`. -/
def RouteRow.ofRoute (route : DeliveryRoute) : RouteRow where
  routeId := route.routeId
  departureTime := route.departureTime
  status := route.status
  truckVehicleId := route.truck

/-- The stops of a route, numbered from zero; `world_state_importer.py:104–109`. -/
def stopRows (route : DeliveryRoute) : List RouteStopRow :=
  route.locations.zipIdx.map fun stop ↦ ⟨route.routeId, stop.2, stop.1⟩

/-- The values of a package; `world_state_importer.py:121–136`. -/
def PackageRow.ofPackage (package : DeliveryPackage) : PackageRow where
  packageId := package.packageId
  startLocation := package.startLocation
  endLocation := package.endLocation
  weight := package.weight
  status := package.status
  currentLocation := some package.currentLocation
  expectedArrival := package.expectedArrival
  customerId := package.customer
  routeId := package.routeId

/-- The row of a truck. -/
def TruckRow.ofTruck (truck : Truck) : TruckRow where
  vehicleId := truck.vehicleId
  name := truck.name
  capacity := truck.capacity
  maxRange := truck.maxRange
  status := truck.status
  currentLocation := truck.currentLocation
  busyFrom := truck.busyFrom
  busyUntil := truck.busyUntil
  inTransitTo := truck.inTransitTo

/-- The state that a binding gives a truck; `world_state_importer.py:148–160`. -/
def TruckStateUpdate.ofBinding (binding : TruckBinding) : TruckStateUpdate where
  status := binding.status
  currentLocation := binding.currentLocation
  busyFrom := binding.busyFrom
  busyUntil := binding.busyUntil
  inTransitTo := binding.inTransitTo

/-- The columns hold the values of a customer. -/
structure CustomerRow.Fits [ColumnTypes] (row : CustomerRow) : Prop where
  customerId : holdsInt row.customerId = true
  texts : ∀ text ∈ [row.name, row.email, row.phone], holdsText text = true
  name : row.name.length ≤ 50
  email : row.email.length ≤ 255
  phone : row.phone.length ≤ 50

end Database

/-- The columns hold the id of a route and the positions of its stops. -/
structure DeliveryRoute.FitsRows [ColumnTypes] (route : DeliveryRoute) : Prop where
  routeId : holdsInt route.routeId = true
  stopOrder : ∀ k < route.locations.length, holdsInt k = true

namespace PostgresWorldStateImporter

/-- Insert the customers; `world_state_importer.py:60–80`. -/
def insertCustomers [ColumnTypes] (customers : List Customer) (tables : Tables) :
    Except PyError Tables :=
  (customers.map CustomerRow.ofCustomer).foldlM addCustomerSnapshot tables

/-- Insert a route, then its stops; `world_state_importer.py:92–109`. -/
def insertRoute [ColumnTypes] (tables : Tables) (route : DeliveryRoute) :
    Except PyError Tables := do
  let tables ← addRouteSnapshot tables (.ofRoute route)
  (stopRows route).foldlM addStop tables

/-- Insert the routes; `world_state_importer.py:82–109`. -/
def insertRoutes [ColumnTypes] (routes : List DeliveryRoute) (tables : Tables) :
    Except PyError Tables :=
  routes.foldlM insertRoute tables

/-- Insert the packages; `world_state_importer.py:111–136`. -/
def insertPackages [ColumnTypes] (packages : List DeliveryPackage) (tables : Tables) :
    Except PyError Tables :=
  (packages.map PackageRow.ofPackage).foldlM addPackageSnapshot tables

/-- Update the trucks that have a binding; `world_state_importer.py:138–160`. -/
def updateTrucks (bindings : List TruckBinding) (tables : Tables) : Except PyError Tables :=
  bindings.foldlM
    (fun tables binding ↦ updateTruckState binding.vehicleId (.ofBinding binding) tables) tables

/-- Set the next ids to those of the snapshot; `world_state_importer.py:162–174`. -/
def resetSequences [ColumnTypes] (counters : CountersSnapshot) (tables : Tables) :
    Except PyError Tables := do
  let tables ← resetCustomerSequence counters.nextCustomerId tables
  let tables ← resetRouteSequence counters.nextRouteId tables
  resetPackageSequence counters.nextPackageId tables

/-- Replace the world in one transaction; `world_state_importer.py:23–47`. -/
def importWorld [ColumnTypes] (world : ReconciledWorld) (tables : Tables) :
    Except PyError Tables := do
  let tables ← insertCustomers world.customers.values (clearWorld tables)
  let tables ← insertRoutes world.routes.values tables
  let tables ← insertPackages world.packages.values tables
  let tables ← updateTrucks world.truckBindings tables
  let tables ← resetSequences world.counters tables
  commit tables

/-! ### What a statement adds -/

/-- A customer fits the columns and is apart from the others. -/
theorem addCustomerSnapshot_eq_ok_iff [ColumnTypes] {tables tables' : Tables} {row : CustomerRow} :
    addCustomerSnapshot tables row = .ok tables' ↔
      row.Fits ∧
      (∀ other ∈ tables.customers, other.customerId ≠ row.customerId ∧
        (row.email ≠ "" → other.email ≠ row.email) ∧
        (row.phone ≠ "" → other.phone ≠ row.phone)) ∧
      tables' = { tables with customers := tables.customers ++ [row] } := by
  have htexts : (∀ text ∈ [row.name, row.email, row.phone], holdsText text = true) ↔
      holdsText row.name = true ∧ holdsText row.email = true ∧ holdsText row.phone = true := by
    simp
  simp only [addCustomerSnapshot, checkInt, checkVarchar, check_bind_eq_ok_iff, require_eq_ok_iff,
    Except.ok.injEq]
  constructor
  · rintro ⟨hid, ⟨t1, h1⟩, ⟨t2, h2⟩, ⟨t3, h3⟩, h4, h5, h6, rfl⟩
    exact ⟨⟨hid, htexts.mpr ⟨t1, t2, t3⟩, h1, h2, h3⟩, fun other hother ↦ ⟨h4 other hother,
      fun h ↦ h5 h other hother, fun h ↦ h6 h other hother⟩, rfl⟩
  · rintro ⟨⟨hid, texts, h1, h2, h3⟩, h, rfl⟩
    obtain ⟨t1, t2, t3⟩ := htexts.mp texts
    exact ⟨hid, ⟨t1, h1⟩, ⟨t2, h2⟩, ⟨t3, h3⟩, fun other hother ↦ (h other hother).1,
      fun he other hother ↦ (h other hother).2.1 he,
      fun hp other hother ↦ (h other hother).2.2 hp, rfl⟩

/-- A stop fits its route and is apart from the others. -/
theorem addStop_eq_ok_iff [ColumnTypes] {tables tables' : Tables} {row : RouteStopRow} :
    addStop tables row = .ok tables' ↔
      (holdsInt row.stopOrder = true ∧ row.locationCode ∈ Map.locations ∧ 0 ≤ row.stopOrder ∧
        ∃ route ∈ tables.routes, route.routeId = row.routeId) ∧
      (∀ other ∈ tables.routeStops, other.routeId = row.routeId →
        other.stopOrder ≠ row.stopOrder ∧ other.locationCode ≠ row.locationCode) ∧
      tables' = { tables with routeStops := tables.routeStops ++ [row] } := by
  simp only [addStop, checkInt, checkLocationCode, require_bind_eq_ok_iff, Except.ok.injEq]
  constructor
  · rintro ⟨h0, h1, h2, h3, h4, h5, rfl⟩
    exact ⟨⟨h0, h1, h2, h3⟩, fun other hother h ↦ ⟨h4 other hother h, h5 other hother h⟩, rfl⟩
  · rintro ⟨⟨h0, h1, h2, h3⟩, h, rfl⟩
    exact ⟨h0, h1, h2, h3, fun other hother hr ↦ (h other hother hr).1,
      fun other hother hr ↦ (h other hother hr).2, rfl⟩

/-- A package fits the columns and is apart from the others. -/
theorem addPackageSnapshot_eq_ok_iff [ColumnTypes] {tables tables' : Tables}
    {row : PackageRow} :
    addPackageSnapshot tables row = .ok tables' ↔
      ((row.startLocation ∈ Map.locations ∧ row.endLocation ∈ Map.locations ∧
          row.startLocation ≠ row.endLocation ∧ ∀ l ∈ row.currentLocation, l ∈ Map.locations) ∧
        (holdsInt row.packageId = true ∧ 0 < cents row.weight ∧ cents row.weight < 1000000) ∧
        (∃ customer ∈ tables.customers, customer.customerId = row.customerId) ∧
        ∀ r ∈ row.routeId, ∃ route ∈ tables.routes, route.routeId = r) ∧
      (∀ other ∈ tables.packages, other.packageId ≠ row.packageId) ∧
      tables' = { tables with
        packages := tables.packages ++ [{ row with weight := cents row.weight }] } := by
  simp only [addPackageSnapshot, checkInt, checkLocationCode, checkDecimal,
    checkOptionalLocationCode, require_bind_eq_ok_iff, Except.ok.injEq]
  constructor
  · rintro ⟨h0, h1, h2, ⟨-, h3⟩, h4, h5, h6, h7, h8, h9, rfl⟩
    exact ⟨⟨⟨h1, h2, h6, h4⟩, ⟨h0, h5, h3⟩, h8, h9⟩, h7, rfl⟩
  · rintro ⟨⟨⟨h1, h2, h6, h4⟩, ⟨h0, h5, h3⟩, h8, h9⟩, h7, rfl⟩
    exact ⟨h0, h1, h2, ⟨by linarith, h3⟩, h4, h5, h6, h7, h8, h9, rfl⟩

/-! ### What the loops add -/

/-- Customers with different ids and contacts are inserted exactly when they fit the columns. -/
theorem insertCustomers_eq_ok_iff [ColumnTypes] {customers : List Customer}
    {tables tables' : Tables}
    (hempty : tables.customers = [])
    (hcontacts : CustomerRepository.UniqueContacts customers) :
    insertCustomers customers tables = .ok tables' ↔
      (∀ customer ∈ customers, (CustomerRow.ofCustomer customer).Fits) ∧
      tables' = { tables with customers := customers.map CustomerRow.ofCustomer } := by
  unfold insertCustomers
  rw [foldlM_insert_eq_ok_iff Tables.customers (fun rows t ↦ { t with customers := rows }) id
    (fun _ row ↦ row.Fits)
    (fun other row ↦ other.customerId ≠ row.customerId ∧
      (row.email ≠ "" → other.email ≠ row.email) ∧ (row.phone ≠ "" → other.phone ≠ row.phone))
    addCustomerSnapshot_eq_ok_iff rfl rfl rfl Iff.rfl Iff.rfl, hempty]
  simp only [List.forall_mem_map, List.not_mem_nil, false_implies, implies_true, true_and,
    List.nil_append, List.map_id]
  constructor
  · rintro ⟨hfits, -, rfl⟩
    exact ⟨hfits, rfl⟩
  · rintro ⟨hfits, rfl⟩
    refine ⟨hfits, ?_, rfl⟩
    rw [List.pairwise_map]
    have hids : customers.Pairwise fun a b ↦ a.customerId ≠ b.customerId :=
      List.pairwise_map.mp hcontacts.id
    refine ((hids.and hcontacts.email).and hcontacts.phone).imp ?_
    rintro a b ⟨⟨hid, hemail⟩, hphone⟩
    exact ⟨hid, fun hne heq ↦ hne (heq.symm.trans (hemail heq)),
      fun hne heq ↦ hne (heq.symm.trans (hphone heq))⟩

/-- The stops of a new route are inserted exactly when their positions fit the column. -/
theorem addStops_eq_ok_iff [ColumnTypes] {route : DeliveryRoute} {tables tables' : Tables}
    (hroute : ∃ row ∈ tables.routes, row.routeId = route.routeId)
    (hfresh : ∀ stop ∈ tables.routeStops, stop.routeId ≠ route.routeId) :
    (stopRows route).foldlM addStop tables = .ok tables' ↔
      (∀ k < route.locations.length, holdsInt k = true) ∧
      tables' = { tables with routeStops := tables.routeStops ++ stopRows route } := by
  rw [foldlM_insert_eq_ok_iff Tables.routeStops (fun rows t ↦ { t with routeStops := rows }) id
    (fun t row ↦ holdsInt row.stopOrder = true ∧ row.locationCode ∈ Map.locations ∧
      0 ≤ row.stopOrder ∧ ∃ route ∈ t.routes, route.routeId = row.routeId)
    (fun other row ↦ other.routeId = row.routeId →
      other.stopOrder ≠ row.stopOrder ∧ other.locationCode ≠ row.locationCode)
    addStop_eq_ok_iff rfl rfl rfl Iff.rfl Iff.rfl, List.map_id]
  have hfits : (∀ stop ∈ route.locations.zipIdx, holdsInt stop.2 = true) ↔
      ∀ k < route.locations.length, holdsInt k = true := by
    constructor
    · intro hall k hk
      exact hall (route.locations[k], k) (List.mem_zipIdx_iff_getElem?.mpr (by simp [hk]))
    · intro hall stop hstop
      exact hall stop.2 (List.snd_lt_of_mem_zipIdx hstop)
  unfold stopRows
  simp only [List.forall_mem_map]
  refine ⟨fun ⟨hall, _, _, heq⟩ ↦ ⟨hfits.mp fun stop hstop ↦ (hall stop hstop).1, heq⟩,
    fun ⟨hall, heq⟩ ↦ ⟨fun stop hstop ↦ ⟨hfits.mpr hall stop hstop, ?_, Int.natCast_nonneg _,
      hroute⟩, fun _ _ other hother hid ↦ absurd hid (hfresh other hother), ?_, heq⟩⟩
  · have hmem : stop.1 ∈ route.locations.zipIdx.map Prod.fst := List.mem_map_of_mem hstop
    rw [List.zipIdx_map_fst] at hmem
    exact route.plan.path.mem_map hmem
  · have horders : (route.locations.zipIdx.map Prod.snd).Nodup := by
      rw [List.zipIdx_map_snd]
      exact List.nodup_range'
    have hlocations : (route.locations.zipIdx.map Prod.fst).Nodup := by
      rw [List.zipIdx_map_fst]
      exact route.plan.path.nodup
    rw [List.pairwise_map]
    refine ((List.pairwise_map.mp horders).and (List.pairwise_map.mp hlocations)).imp ?_
    rintro a b ⟨horder, hlocation⟩ -
    exact ⟨fun h ↦ horder (Int.ofNat_inj.mp h), hlocation⟩

/-- A new route without a truck of another one is inserted with its stops exactly when the columns
hold it. -/
theorem insertRoute_eq_ok_iff [ColumnTypes] {route : DeliveryRoute} {tables tables' : Tables}
    (htrucks : ∀ t ∈ route.truck, ∃ row ∈ tables.trucks, row.vehicleId = t)
    (hrows : ∀ row ∈ tables.routes, row.routeId ≠ route.routeId ∧
      ∀ t ∈ route.truck, row.truckVehicleId ≠ some t)
    (hstops : ∀ stop ∈ tables.routeStops, stop.routeId ≠ route.routeId) :
    insertRoute tables route = .ok tables' ↔ route.FitsRows ∧ tables' = { tables with
      routes := tables.routes ++ [.ofRoute route]
      routeStops := tables.routeStops ++ stopRows route } := by
  have hadd {t1 : Tables} : addRouteSnapshot tables (.ofRoute route) = .ok t1 ↔
      holdsInt route.routeId = true ∧
        t1 = { tables with routes := tables.routes ++ [.ofRoute route] } := by
    simp only [addRouteSnapshot, checkInt, require_bind_eq_ok_iff, Except.ok.injEq]
    constructor
    · rintro ⟨hint, -, -, -, rfl⟩
      exact ⟨hint, rfl⟩
    · rintro ⟨hint, rfl⟩
      exact ⟨hint, fun row hrow ↦ (hrows row hrow).1, htrucks,
        fun t ht row hrow ↦ (hrows row hrow).2 t ht, rfl⟩
  have hroute : ∃ row ∈ tables.routes ++ [.ofRoute route], row.routeId = route.routeId :=
    ⟨.ofRoute route, by simp, rfl⟩
  have hadds : (stopRows route).foldlM addStop
      { tables with routes := tables.routes ++ [.ofRoute route] } = .ok tables' ↔
        (∀ k < route.locations.length, holdsInt k = true) ∧ tables' = { tables with
          routes := tables.routes ++ [.ofRoute route]
          routeStops := tables.routeStops ++ stopRows route } :=
    addStops_eq_ok_iff hroute hstops
  unfold insertRoute
  rw [except_bind_eq_ok_iff]
  constructor
  · rintro ⟨t1, ht1, hrest⟩
    obtain ⟨hint, rfl⟩ := hadd.mp ht1
    obtain ⟨horders, rfl⟩ := hadds.mp hrest
    exact ⟨⟨hint, horders⟩, rfl⟩
  · rintro ⟨hfits, rfl⟩
    exact ⟨_, hadd.mpr ⟨hfits.routeId, rfl⟩, hadds.mpr ⟨hfits.stopOrder, rfl⟩⟩

/-- Routes with different ids and trucks are inserted with their stops exactly when the columns
hold them. -/
theorem insertRoutes_eq_ok_iff [ColumnTypes] {routes : List DeliveryRoute}
    {tables tables' : Tables} (hids : (routes.map DeliveryRoute.routeId).Nodup)
    (hshared : routes.Pairwise fun a b ↦ ∀ t ∈ b.truck, a.truck ≠ some t)
    (htrucks : ∀ route ∈ routes, ∀ t ∈ route.truck, ∃ row ∈ tables.trucks, row.vehicleId = t)
    (hrows : ∀ route ∈ routes, ∀ row ∈ tables.routes, row.routeId ≠ route.routeId ∧
      ∀ t ∈ route.truck, row.truckVehicleId ≠ some t)
    (hstops : ∀ route ∈ routes, ∀ stop ∈ tables.routeStops, stop.routeId ≠ route.routeId) :
    insertRoutes routes tables = .ok tables' ↔
      (∀ route ∈ routes, route.FitsRows) ∧ tables' = { tables with
        routes := tables.routes ++ routes.map RouteRow.ofRoute
        routeStops := tables.routeStops ++ routes.flatMap stopRows } := by
  unfold insertRoutes
  induction routes generalizing tables with
  | nil =>
    simp only [List.foldlM_nil, pure, Except.pure, Except.ok.injEq, List.map_nil, List.flatMap_nil,
      List.append_nil, List.not_mem_nil, false_implies, implies_true, true_and]
    exact eq_comm
  | cons route rest ih =>
    obtain ⟨hnew, hids⟩ := List.nodup_cons.mp hids
    obtain ⟨hapart, hshared⟩ := List.pairwise_cons.mp hshared
    have hnew' : ∀ other ∈ rest, route.routeId ≠ other.routeId := fun other hother h ↦
      hnew (h ▸ List.mem_map_of_mem hother)
    have hinsert {t1 : Tables} : insertRoute tables route = .ok t1 ↔
        route.FitsRows ∧ t1 = { tables with
          routes := tables.routes ++ [.ofRoute route]
          routeStops := tables.routeStops ++ stopRows route } :=
      insertRoute_eq_ok_iff (htrucks route (by simp)) (hrows route (by simp))
        (hstops route (by simp))
    have hrest {t1 : Tables} (ht1 : t1 = { tables with
        routes := tables.routes ++ [.ofRoute route]
        routeStops := tables.routeStops ++ stopRows route }) :
        rest.foldlM insertRoute t1 = .ok tables' ↔
          (∀ other ∈ rest, other.FitsRows) ∧ tables' = { tables with
            routes := tables.routes ++ (route :: rest).map RouteRow.ofRoute
            routeStops := tables.routeStops ++ (route :: rest).flatMap stopRows } := by
      subst ht1
      rw [ih hids hshared]
      · simp
      · exact fun other hother ↦ htrucks other (by simp [hother])
      · intro other hother row hrow
        rcases List.mem_append.mp hrow with hrow | hrow
        · exact hrows other (by simp [hother]) row hrow
        · rw [List.mem_singleton.mp hrow]
          exact ⟨hnew' other hother, hapart other hother⟩
      · intro other hother stop hstop
        rcases List.mem_append.mp hstop with hstop | hstop
        · exact hstops other (by simp [hother]) stop hstop
        · obtain ⟨entry, -, rfl⟩ := List.mem_map.mp hstop
          exact hnew' other hother
    rw [List.foldlM_cons, except_bind_eq_ok_iff, List.forall_mem_cons, and_assoc]
    constructor
    · rintro ⟨t1, ht1, hothers⟩
      obtain ⟨hfits, heq⟩ := hinsert.mp ht1
      exact ⟨hfits, (hrest heq).mp hothers⟩
    · rintro ⟨hfits, hothers⟩
      exact ⟨_, hinsert.mpr ⟨hfits, rfl⟩, (hrest rfl).mpr hothers⟩

/-- The row that is stored for a package. -/
def storedPackage (package : DeliveryPackage) : PackageRow :=
  { PackageRow.ofPackage package with weight := cents package.weight }

/-- Packages of customers and routes that are there are inserted exactly when their ids and weights
fit the columns. -/
theorem insertPackages_eq_ok_iff [ColumnTypes] {packages : List DeliveryPackage}
    {tables tables' : Tables} (hempty : tables.packages = [])
    (hids : (packages.map DeliveryPackage.packageId).Nodup)
    (hplaces : ∀ package ∈ packages, package.currentLocation ∈ Map.locations)
    (hcustomers : ∀ package ∈ packages, ∃ row ∈ tables.customers,
      row.customerId = package.customer)
    (hroutes : ∀ package ∈ packages, ∀ r ∈ package.routeId, ∃ row ∈ tables.routes,
      row.routeId = r) :
    insertPackages packages tables = .ok tables' ↔
      (∀ package ∈ packages, holdsInt package.packageId = true ∧
        0 < cents package.weight ∧ cents package.weight < 1000000) ∧
      tables' = { tables with packages := packages.map storedPackage } := by
  unfold insertPackages
  rw [foldlM_insert_eq_ok_iff Tables.packages (fun rows t ↦ { t with packages := rows })
    (fun row ↦ { row with weight := cents row.weight })
    (fun t row ↦ (row.startLocation ∈ Map.locations ∧ row.endLocation ∈ Map.locations ∧
        row.startLocation ≠ row.endLocation ∧ ∀ l ∈ row.currentLocation, l ∈ Map.locations) ∧
      (holdsInt row.packageId = true ∧ 0 < cents row.weight ∧ cents row.weight < 1000000) ∧
      (∃ customer ∈ t.customers, customer.customerId = row.customerId) ∧
      ∀ r ∈ row.routeId, ∃ route ∈ t.routes, route.routeId = r)
    (fun other row ↦ other.packageId ≠ row.packageId)
    addPackageSnapshot_eq_ok_iff rfl rfl rfl Iff.rfl Iff.rfl, hempty]
  simp only [List.forall_mem_map, List.not_mem_nil, false_implies, implies_true, true_and,
    List.nil_append, List.map_map]
  constructor
  · rintro ⟨hfits, -, rfl⟩
    exact ⟨fun package hmem ↦ (hfits package hmem).2.1, rfl⟩
  · rintro ⟨hfits, rfl⟩
    refine ⟨fun package hmem ↦ ?_, ?_, rfl⟩
    · obtain ⟨-, hstart, hend, hne, -⟩ := DeliveryPackage.check_eq_ok_iff.mp package.valid
      refine ⟨⟨hstart, hend, hne, ?_⟩, hfits package hmem, hcustomers package hmem,
        hroutes package hmem⟩
      intro l hl
      exact Option.some.inj hl ▸ hplaces package hmem
    · exact List.pairwise_map.mpr (List.pairwise_map.mp hids)

/-- The rows after one binding. -/
def bindRow (rows : List TruckRow) (binding : TruckBinding) : List TruckRow :=
  rows.map fun row ↦
    if row.vehicleId = binding.vehicleId then row.setState (.ofBinding binding) else row

/-- The trucks with a binding are updated. -/
def updatedTruck (bindings : List TruckBinding) : TruckRow → TruckRow :=
  updated TruckRow.vehicleId TruckBinding.vehicleId
    (fun row binding ↦ row.setState (.ofBinding binding)) bindings

/-- Bindings of different trucks at hubs are applied. -/
theorem updateTrucks_eq_ok {bindings : List TruckBinding} {tables : Tables}
    (hnd : (bindings.map TruckBinding.vehicleId).Nodup)
    (hplaces : ∀ binding ∈ bindings, (∀ l ∈ binding.currentLocation, l ∈ Map.locations) ∧
      ∀ l ∈ binding.inTransitTo, l ∈ Map.locations) :
    updateTrucks bindings tables =
      .ok { tables with trucks := tables.trucks.map (updatedTruck bindings) } := by
  have hfold : ∀ rows, updateTrucks bindings { tables with trucks := rows } =
      .ok { tables with trucks := bindings.foldl bindRow rows } := by
    unfold updateTrucks
    clear hnd
    induction bindings with
    | nil => exact fun _ ↦ rfl
    | cons binding rest ih =>
      intro rows
      have hplace := hplaces binding (by simp)
      have hupdate : updateTruckState binding.vehicleId (.ofBinding binding)
          { tables with trucks := rows } = .ok { tables with trucks := bindRow rows binding } := by
        simp only [updateTruckState, checkOptionalLocationCode, require_bind_eq_ok_iff]
        exact ⟨hplace.1, hplace.2, rfl⟩
      rw [List.foldlM_cons, hupdate, ok_bind, List.foldl_cons]
      exact ih (fun other hother ↦ hplaces other (by simp [hother])) _
  have hmap : bindings.foldl bindRow tables.trucks =
      tables.trucks.map (updatedTruck bindings) :=
    foldl_update_eq_map TruckRow.vehicleId TruckBinding.vehicleId
      (fun row binding ↦ row.setState (.ofBinding binding)) rfl hnd
  rw [hfold tables.trucks, hmap]

end PostgresWorldStateImporter

/-! ### The whole import -/

/-- The columns hold the ids, texts and weights of a world, and the sequences its next ids. -/
structure ReconciledWorld.FitsColumns [ColumnTypes] (world : ReconciledWorld) : Prop where
  email : world.customers.All fun customer ↦ customer.contact.email.length ≤ 255
  texts : world.customers.All fun customer ↦ ∀ text ∈ [customer.contact.name,
    customer.contact.email, customer.contact.phoneNumber], holdsText text = true
  weight : world.packages.All fun package ↦
    0 < cents package.weight ∧ cents package.weight < 1000000
  customerId : world.customers.All fun customer ↦ holdsInt customer.customerId = true
  packageId : world.packages.All fun package ↦ holdsInt package.packageId = true
  route : world.routes.All DeliveryRoute.FitsRows
  counters : ∀ next ∈ [world.counters.nextCustomerId, world.counters.nextRouteId,
    world.counters.nextPackageId], holdsInt next = true

/-- Where the columns hold every integer and character, only lengths and weights matter. -/
theorem ReconciledWorld.fitsColumns_unbounded {world : ReconciledWorld}
    (hemail : world.customers.All fun customer ↦ customer.contact.email.length ≤ 255)
    (hweight : world.packages.All fun package ↦
      0 < cents package.weight ∧ cents package.weight < 1000000) : world.FitsColumns where
  email := hemail
  texts _ _ _ _ _ := List.all_eq_true.mpr fun _ _ ↦ rfl
  weight := hweight
  customerId _ _ _ := rfl
  packageId _ _ _ := rfl
  route _ _ _ := ⟨rfl, fun _ _ ↦ rfl⟩
  counters _ _ := rfl

/-- The ids of a world stay below its counters. -/
structure ReconciledWorld.Counted (world : ReconciledWorld) : Prop where
  customers : world.customers.All fun customer ↦ customer.customerId < world.counters.nextCustomerId
  routes : world.routes.All fun route ↦ route.routeId < world.counters.nextRouteId
  packages : world.packages.All fun package ↦ package.packageId < world.counters.nextPackageId
  pos : 0 < world.counters.nextCustomerId ∧ 0 < world.counters.nextRouteId ∧
    0 < world.counters.nextPackageId

/-- So do those of a prepared world. -/
theorem ReconciledWorld.PreparedFrom.counted {u : UnicodeTables} {fleet : Fleet} {now : Datetime}
    {snapshot : WorldStateSnapshot} {world : ReconciledWorld} {skipped : List Int}
    {joined prepared : World}
    (h : world.PreparedFrom u fleet now snapshot skipped joined prepared) : world.Counted := by
  have hcounted := h.advanced.counted (h.linked.counted h.valid)
  have hcounters : prepared.nextCustomerId = world.counters.nextCustomerId ∧
      prepared.nextPackageId = world.counters.nextPackageId ∧
      prepared.nextRouteId = world.counters.nextRouteId := by
    rw [h.counters_eq]
    exact ⟨rfl, rfl, rfl⟩
  constructor
  · intro c customer hfind
    have hid : customer.customerId = c := Store.key_of_find? hfind
    rw [hid, ← hcounters.1]
    exact hcounted.customers (h.customers ▸ hfind)
  · intro r route hfind
    have hid : route.routeId = r := Store.key_of_find? hfind
    rw [hid, ← hcounters.2.2]
    exact hcounted.routes (h.routes ▸ hfind)
  · intro p package hfind
    have hid : package.packageId = p := Store.key_of_find? hfind
    rw [hid, ← hcounters.2.1]
    exact hcounted.packages (h.packages ▸ hfind)
  · obtain ⟨hcustomer, hpackage, hroute⟩ := hcounted.pos
    exact ⟨hcounters.1 ▸ hcustomer, hcounters.2.2 ▸ hroute, hcounters.2.1 ▸ hpackage⟩

/-- The tables of a prepared world, with the trucks that it does not bind as they are. -/
def ReconciledWorld.imported (world : ReconciledWorld) (tables : Tables) : Tables where
  customers := world.customers.values.map CustomerRow.ofCustomer
  trucks := tables.trucks.map (PostgresWorldStateImporter.updatedTruck world.truckBindings)
  routes := world.routes.values.map RouteRow.ofRoute
  routeStops := world.routes.values.flatMap stopRows
  packages := world.packages.values.map PostgresWorldStateImporter.storedPackage
  nextCustomerId := world.counters.nextCustomerId
  nextRouteId := world.counters.nextRouteId
  nextPackageId := world.counters.nextPackageId

/-- The sequence is not set back. -/
theorem Database.max_nextAfter (ids : List Int) {next : Int} (hpos : 0 < next)
    (h : ∀ id ∈ ids, id < next) : max next (nextAfter ids) = next := by
  apply max_eq_left
  unfold nextAfter
  cases hmax : ids.max? with
  | none =>
    rw [Option.getD_none]
    omega
  | some top =>
    have hlt := h top (List.max?_mem hmax)
    rw [Option.getD_some]
    omega

/-- A contact that has been cleaned fits its columns except for the email. -/
theorem ContactInfo.Clean.fits {u : UnicodeTables} {contact : ContactInfo}
    (h : contact.Clean u) : contact.name.length ≤ 50 ∧ contact.phoneNumber.length ≤ 50 := by
  simp only [Clean, new, except_bind_eq_ok_iff, Except.ok.injEq] at h
  obtain ⟨name, hname, email, -, phone, hphone, rfl⟩ := h
  constructor
  · simp only [cleanName, require_bind_eq_ok_iff, Except.ok.injEq] at hname
    obtain ⟨-, hlong, hstrip⟩ := hname
    rw [hstrip] at hlong
    show name.length ≤ 50
    omega
  · show phone.length ≤ 50
    unfold cleanPhone at hphone
    split at hphone
    · rw [← Except.ok.inj hphone]
      decide
    · simp only [require_bind_eq_ok_iff, Except.ok.injEq] at hphone
      obtain ⟨-, hten, -, hstrip⟩ := hphone
      rw [hstrip] at hten
      omega

namespace PostgresWorldStateImporter

variable {u : UnicodeTables} {fleet : Fleet} {now : Datetime} {snapshot : WorldStateSnapshot}
  {world : ReconciledWorld} {joined prepared : World} {skipped : List Int}
  {tables tables' : Tables}

/-- The routes of a prepared world are inserted with their stops exactly when they fit. -/
private theorem insertRoutes_prepared_iff [ColumnTypes]
    (h : world.PreparedFrom u fleet now snapshot skipped joined prepared)
    (hfleet : ∀ t, (fleet.find? t).isSome → ∃ row ∈ tables.trucks, row.vehicleId = t)
    (hrows : tables.routes = []) (hstops : tables.routeStops = []) :
    insertRoutes world.routes.values tables = .ok tables' ↔
      world.routes.All DeliveryRoute.FitsRows ∧ tables' = { tables with
        routes := world.routes.values.map RouteRow.ofRoute
        routeStops := world.routes.values.flatMap stopRows } := by
  have hl := h.worldLinked
  have hroutes : ∀ route ∈ world.routes.values,
      prepared.routes.find? route.routeId = some route := fun route hmem ↦ by
    rw [← h.routes]
    exact Store.mem_values.mp hmem
  have hids : (world.routes.values.map DeliveryRoute.routeId).Nodup := Store.nodup_values
  rw [insertRoutes_eq_ok_iff hids, hrows, hstops, List.nil_append, List.nil_append]
  · refine and_congr ⟨fun hall r route hfind ↦ ?_, fun hall route hmem ↦ ?_⟩ Iff.rfl
    · exact hall route (Store.mem_values_of_find? hfind)
    · exact hall _ route (Store.mem_values.mp hmem)
  · refine (List.pairwise_map.mp hids).imp_of_mem fun {a b} ha hb hne t ht' ht ↦ hne ?_
    exact hl.toRouteLinked.eq_of_truck (hroutes a ha) (hroutes b hb) ht ht'
  · intro route hmem t ht
    obtain ⟨truck, htruck, -⟩ := hl.truck_of_route (hroutes route hmem) ht
    obtain ⟨real, hreal, -⟩ := h.sameVehicle htruck
    exact hfleet t (Option.isSome_iff_exists.mpr ⟨real, hreal⟩)
  · intro route _ row hrow
    rw [hrows] at hrow
    cases hrow
  · intro route _ stop hstop
    rw [hstops] at hstop
    cases hstop

/-- The packages of a prepared world are inserted exactly when they fit. -/
private theorem insertPackages_prepared_iff [ColumnTypes]
    (h : world.PreparedFrom u fleet now snapshot skipped joined prepared)
    (hcustomers : tables.customers = world.customers.values.map CustomerRow.ofCustomer)
    (hroutes : tables.routes = world.routes.values.map RouteRow.ofRoute)
    (hempty : tables.packages = []) :
    insertPackages world.packages.values tables = .ok tables' ↔
      (world.packages.All fun package ↦ holdsInt package.packageId = true ∧
        0 < cents package.weight ∧ cents package.weight < 1000000) ∧
      tables' = { tables with packages := world.packages.values.map storedPackage } := by
  have hl := h.worldLinked
  have hpackages : ∀ package ∈ world.packages.values,
      prepared.packages.find? package.packageId = some package := fun package hmem ↦ by
    rw [← h.packages]
    exact Store.mem_values.mp hmem
  rw [insertPackages_eq_ok_iff hempty Store.nodup_values]
  · refine and_congr ⟨fun hall p package hfind ↦ ?_, fun hall package hmem ↦ ?_⟩ Iff.rfl
    · exact hall package (Store.mem_values_of_find? hfind)
    · exact hall _ package (Store.mem_values.mp hmem)
  · exact fun package hmem ↦ h.package_supported (hpackages package hmem)
  · intro package hmem
    obtain ⟨customer, hcustomer, -⟩ := hl.customer_of_package (hpackages package hmem)
    rw [← h.customers] at hcustomer
    have hid : customer.customerId = package.customer := Store.key_of_find? hcustomer
    rw [hcustomers]
    exact ⟨_, List.mem_map_of_mem (Store.mem_values_of_find? hcustomer), hid⟩
  · intro package hmem r hr
    rw [hl.routeId (hpackages package hmem)] at hr
    obtain ⟨route, hroute, -⟩ := hl.route_of_package (hpackages package hmem) hr
    rw [← h.routes] at hroute
    have hid : route.routeId = r := Store.key_of_find? hroute
    rw [hroutes]
    exact ⟨_, List.mem_map_of_mem (Store.mem_values_of_find? hroute), hid⟩

/-- The trucks that a prepared world binds are updated. -/
private theorem updateTrucks_prepared
    (h : world.PreparedFrom u fleet now snapshot skipped joined prepared) :
    updateTrucks world.truckBindings tables =
      .ok { tables with trucks := tables.trucks.map (updatedTruck world.truckBindings) } := by
  apply updateTrucks_eq_ok h.bindings_nodup
  intro binding hmem
  obtain ⟨truck, htruck, hbinding⟩ := (h.bindings binding).mp hmem
  rw [hbinding]
  exact h.truck_supported htruck

/-- A sequence is set to the counter above every stored id exactly when it holds the counter. -/
private theorem checkSequence_eq_ok_iff [ColumnTypes] {next : Int} (hpos : 0 < next) :
    checkSequence next = .ok () ↔ holdsInt next = true := by
  unfold checkSequence
  rw [require_eq_ok_iff, and_iff_right (show 1 ≤ next by omega)]

/-- The sequences of a prepared world go to its counters exactly when they hold them. -/
private theorem resetSequences_prepared_iff [ColumnTypes]
    (h : world.PreparedFrom u fleet now snapshot skipped joined prepared)
    (hcustomers : tables.customers = world.customers.values.map CustomerRow.ofCustomer)
    (hroutes : tables.routes = world.routes.values.map RouteRow.ofRoute)
    (hpackages : tables.packages = world.packages.values.map storedPackage) :
    resetSequences world.counters tables = .ok tables' ↔
      (∀ next ∈ [world.counters.nextCustomerId, world.counters.nextRouteId,
        world.counters.nextPackageId], holdsInt next = true) ∧
      tables' = { tables with
        nextCustomerId := world.counters.nextCustomerId
        nextRouteId := world.counters.nextRouteId
        nextPackageId := world.counters.nextPackageId } := by
  have hcounted := h.counted
  obtain ⟨hcustomerPos, hroutePos, hpackagePos⟩ := hcounted.pos
  have hcustomer := max_nextAfter (tables.customers.map CustomerRow.customerId)
    hcustomerPos fun id hid ↦ by
      rw [hcustomers, List.map_map] at hid
      obtain ⟨customer, hmem, rfl⟩ := List.mem_map.mp hid
      exact hcounted.customers _ customer (Store.mem_values.mp hmem)
  have hpackage := max_nextAfter (tables.packages.map PackageRow.packageId)
    hpackagePos fun id hid ↦ by
      rw [hpackages, List.map_map] at hid
      obtain ⟨package, hmem, rfl⟩ := List.mem_map.mp hid
      exact hcounted.packages _ package (Store.mem_values.mp hmem)
  have hroute := max_nextAfter (tables.routes.map RouteRow.routeId)
    hroutePos fun id hid ↦ by
      rw [hroutes, List.map_map] at hid
      obtain ⟨route, hmem, rfl⟩ := List.mem_map.mp hid
      exact hcounted.routes _ route (Store.mem_values.mp hmem)
  simp only [resetSequences, resetCustomerSequence, resetRouteSequence, resetPackageSequence,
    bind_assoc, ok_bind, check_bind_eq_ok_iff, hcustomer, hroute, hpackage,
    checkSequence_eq_ok_iff hcustomerPos, checkSequence_eq_ok_iff hroutePos,
    checkSequence_eq_ok_iff hpackagePos, Except.ok.injEq]
  constructor
  · rintro ⟨h1, h2, h3, rfl⟩
    exact ⟨by simp [h1, h2, h3], rfl⟩
  · rintro ⟨hall, rfl⟩
    exact ⟨hall _ (by simp), hall _ (by simp), hall _ (by simp), rfl⟩

/-- Every route of a prepared world has its stops. -/
private theorem commit_prepared
    (hroutes : tables.routes = world.routes.values.map RouteRow.ofRoute)
    (hstops : tables.routeStops = world.routes.values.flatMap stopRows) :
    commit tables = .ok tables := by
  unfold commit
  rw [require_bind_of_true]
  intro row hrow
  rw [hroutes] at hrow
  obtain ⟨route, hmem, rfl⟩ := List.mem_map.mp hrow
  have hown : (stopRows route).filter (fun stop ↦ stop.routeId = (RouteRow.ofRoute route).routeId) =
      stopRows route := by
    rw [List.filter_eq_self]
    intro stop hstop
    obtain ⟨entry, -, rfl⟩ := List.mem_map.mp hstop
    exact decide_eq_true rfl
  have hsub : (stopRows route).Sublist tables.routeStops := by
    rw [hstops]
    exact List.sublist_flatten_of_mem (List.mem_map_of_mem hmem)
  have hlength : (stopRows route).length = route.locations.length := by
    unfold stopRows
    rw [List.length_map, List.length_zipIdx]
  have hle := (hsub.filter fun stop ↦ stop.routeId = (RouteRow.ofRoute route).routeId).length_le
  rw [hown, hlength] at hle
  exact route.plan.path.two_le_length.trans hle

/-- A prepared world is imported exactly when it fits the columns. -/
theorem importWorld_eq_ok_iff [ColumnTypes]
    (h : world.PreparedFrom u fleet now snapshot skipped joined prepared)
    (hfleet : ∀ t, (fleet.find? t).isSome → ∃ row ∈ tables.trucks, row.vehicleId = t) :
    importWorld world tables = .ok tables' ↔
      world.FitsColumns ∧ tables' = world.imported tables := by
  have hcontacts := h.uniqueContacts
  have hclean : world.customers.All fun customer ↦ customer.contact.Clean u :=
    h.customers_joined ▸ h.linked.clean
  have hempty : (clearWorld tables).customers = [] := rfl
  -- The tables after each of the five loops.
  let t1 : Tables := { clearWorld tables with
    customers := world.customers.values.map CustomerRow.ofCustomer }
  let t2 : Tables := { t1 with
    routes := world.routes.values.map RouteRow.ofRoute
    routeStops := world.routes.values.flatMap stopRows }
  let t3 : Tables := { t2 with packages := world.packages.values.map storedPackage }
  let t4 : Tables := { t3 with trucks := t3.trucks.map (updatedTruck world.truckBindings) }
  have hinserted {t : Tables} : insertRoutes world.routes.values t1 = .ok t ↔
      world.routes.All DeliveryRoute.FitsRows ∧ t = t2 :=
    insertRoutes_prepared_iff h hfleet rfl rfl
  have hpacked {t : Tables} : insertPackages world.packages.values t2 = .ok t ↔
      (world.packages.All fun package ↦ holdsInt package.packageId = true ∧
        0 < cents package.weight ∧ cents package.weight < 1000000) ∧ t = t3 :=
    insertPackages_prepared_iff h rfl rfl rfl
  have hupdated : updateTrucks world.truckBindings t3 = .ok t4 := updateTrucks_prepared h
  have hreset {t : Tables} : resetSequences world.counters t4 = .ok t ↔
      (∀ next ∈ [world.counters.nextCustomerId, world.counters.nextRouteId,
        world.counters.nextPackageId], holdsInt next = true) ∧ t = world.imported tables :=
    resetSequences_prepared_iff h rfl rfl rfl
  have hcommit : commit (world.imported tables) = .ok (world.imported tables) :=
    commit_prepared rfl rfl
  unfold importWorld
  rw [except_bind_eq_ok_iff]
  constructor
  · rintro ⟨t, ht, hrest⟩
    obtain ⟨hfits, rfl⟩ := (insertCustomers_eq_ok_iff hempty hcontacts).mp ht
    obtain ⟨t, ht, hrest⟩ := except_bind_eq_ok_iff.mp hrest
    obtain ⟨hroute, rfl⟩ := hinserted.mp ht
    obtain ⟨t, ht, hrest⟩ := except_bind_eq_ok_iff.mp hrest
    obtain ⟨hpackage, rfl⟩ := hpacked.mp ht
    rw [hupdated, ok_bind] at hrest
    obtain ⟨t, ht, hrest⟩ := except_bind_eq_ok_iff.mp hrest
    obtain ⟨hcounters, rfl⟩ := hreset.mp ht
    have hcustomer {c : Int} {customer : Customer} (hfind : world.customers.find? c = some customer) :
        (CustomerRow.ofCustomer customer).Fits :=
      hfits customer (Store.mem_values_of_find? hfind)
    refine ⟨⟨?_, ?_, ?_, ?_, ?_, hroute, hcounters⟩, Except.ok.inj (hrest.symm.trans hcommit)⟩
    · exact fun c customer hfind ↦ (hcustomer hfind).email
    · exact fun c customer hfind ↦ (hcustomer hfind).texts
    · exact fun p package hfind ↦ (hpackage p package hfind).2
    · exact fun c customer hfind ↦ (hcustomer hfind).customerId
    · exact fun p package hfind ↦ (hpackage p package hfind).1
  · rintro ⟨hfits, rfl⟩
    refine ⟨t1, (insertCustomers_eq_ok_iff hempty hcontacts).mpr ⟨fun customer hmem ↦ ?_, rfl⟩, ?_⟩
    · have hfind := Store.mem_values.mp hmem
      obtain ⟨hname, hphone⟩ := (hclean _ customer hfind).fits
      exact ⟨hfits.customerId _ customer hfind, hfits.texts _ customer hfind, hname,
        hfits.email _ customer hfind, hphone⟩
    · have hpackage : world.packages.All fun package ↦ holdsInt package.packageId = true ∧
          0 < cents package.weight ∧ cents package.weight < 1000000 := fun p package hfind ↦
        ⟨hfits.packageId p package hfind, hfits.weight p package hfind⟩
      rw [hinserted.mpr ⟨hfits.route, rfl⟩, ok_bind, hpacked.mpr ⟨hpackage, rfl⟩, ok_bind,
        hupdated, ok_bind, hreset.mpr ⟨hfits.counters, rfl⟩, ok_bind, hcommit]

end PostgresWorldStateImporter
end FleetFlow
