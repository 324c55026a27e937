import FleetFlow.Database.Importer

/-!
# Loading the world graph

Follows `adapters/driven/persistence/database/graph_loaders/world_graph_loader.py` with the helpers
of `shared.py` and the row mappers that they call. The rows of each table become objects, and the
links between the objects are restored from the foreign keys.
-/

namespace FleetFlow

namespace Database

/-- A row of a route joined with one of its stops. -/
structure RouteStopJoin where
  route : RouteRow
  stop : RouteStopRow

/-- `ORDER BY` an integer column. -/
def orderBy {ρ : Type} (column : ρ → Int) (rows : List ρ) : List ρ :=
  rows.mergeSort fun a b ↦ decide (column a ≤ column b)

/-- Customers by id; `sql/customers/list_all.sql`. -/
def listCustomers (tables : Tables) : List CustomerRow :=
  orderBy CustomerRow.customerId tables.customers

/-- Packages by id; `sql/packages/list_all.sql`. -/
def listPackages (tables : Tables) : List PackageRow :=
  orderBy PackageRow.packageId tables.packages

/-- Trucks by id; `sql/trucks/list_all.sql`. -/
def listTrucks (tables : Tables) : List TruckRow := orderBy TruckRow.vehicleId tables.trucks

/-- Every stop beside its route,
`FROM public.routes r JOIN public.route_stops rs ON rs.route_id = r.route_id`. -/
def joinStops (routes : List RouteRow) (stops : List RouteStopRow) : List RouteStopJoin :=
  routes.flatMap fun route ↦
    (stops.filter fun stop ↦ stop.routeId = route.routeId).map fun stop ↦ ⟨route, stop⟩

/-- Routes with their stops, by the id of the route and the order of the stop;
`sql/routes/list_all.sql`. -/
def listRoutes (tables : Tables) : List RouteStopJoin :=
  (joinStops tables.routes tables.routeStops).mergeSort fun a b ↦
    decide (a.route.routeId < b.route.routeId ∨
      a.route.routeId = b.route.routeId ∧ a.stop.stopOrder ≤ b.stop.stopOrder)

/-- The customer of a row, with no packages yet; `mappers/customer.py:18–36`. -/
def mapCustomer (u : UnicodeTables) (row : CustomerRow) : Except PyError Customer := do
  let contact ← ContactInfo.new u row.name row.email row.phone
  Customer.new contact row.customerId

/-- The truck of a row, with no route yet; `mappers/truck.py:30–58`. -/
def mapTruck (row : TruckRow) : Except PyError Truck := do
  let truck : Truck ← Truck.new row.vehicleId row.name row.capacity row.maxRange
  .ok { truck with
    status := row.status
    currentLocation := row.currentLocation
    busyFrom := row.busyFrom
    busyUntil := row.busyUntil
    inTransitTo := row.inTransitTo }

/-- `mappers/package.py:34–63`. The constructor stores the route id for partial hydration. -/
def mapPackage (row : PackageRow) (customer : Customer) : Except PyError DeliveryPackage := do
  let package ← DeliveryPackage.new row.startLocation row.endLocation (.finite row.weight)
    customer.customerId row.packageId
  require (∀ r ∈ row.routeId, 0 < r) ⟨.domainValidation, "route_id must be a positive integer."⟩
  .ok { package with
    routeId := row.routeId
    status := row.status
    storedLocation := row.currentLocation
    expectedArrival := row.expectedArrival }

/-- The route of its rows, one for each stop, with no truck and no packages yet;
`mappers/route.py:30–56`. -/
def mapRoute (rows : List RouteStopJoin) : Except PyError DeliveryRoute :=
  match rows with
  | [] => .error ⟨.valueError, "Cannot map a route without route rows."⟩
  | row :: _ => do
    requirePositiveInt row.route.routeId "route_id"
    let path ← RoutePath.ofLocations (rows.map fun row ↦ row.stop.locationCode)
    let route ← DeliveryRoute.new path row.route.departureTime row.route.routeId
    .ok { route with status := row.route.status }

end Database

open Database

/-- The loaded objects; `graph_loaders/world_graph_loader.py:40–54`. -/
structure HydratedWorldGraph where
  customers : Store Customer.customerId
  packages : Store DeliveryPackage.packageId
  routes : Store DeliveryRoute.routeId
  trucks : Fleet

namespace WorldGraphLoader

/-- Objects of rows by key, which must not repeat. -/
def mapByKey {ρ α : Type} (key : α → Int) (map : ρ → Except PyError α) (name : String)
    (rows : List ρ) : Except PyError (Store key) :=
  rows.foldlM (fun objects row ↦ do
    let object ← map row
    require (objects.find? (key object) = none)
      ⟨.valueError, s!"Duplicate {name} {key object} in persisted data."⟩
    .ok (objects.put object)) .empty

/-- The customers under their ids, which must differ; `graph_loaders/shared.py:30–54`. -/
def mapCustomers (u : UnicodeTables) (rows : List CustomerRow) :
    Except PyError (Store Customer.customerId) :=
  mapByKey Customer.customerId (mapCustomer u) "customer_id" rows

/-- The trucks under their ids, which must differ; `graph_loaders/shared.py:113–137`. -/
def mapTrucks (rows : List TruckRow) : Except PyError Fleet :=
  mapByKey (Truck.vehicleId (ρ := Int)) mapTruck "vehicle_id" rows

/-- The rows of one route and its truck. -/
structure RouteGroup where
  routeId : Int
  truckVehicleId : Option Int
  rows : List RouteStopJoin

/-- Put a row to the others of its route, whose truck must be the same;
`graph_loaders/shared.py:74–87`. -/
def groupRow (groups : Store RouteGroup.routeId) (row : RouteStopJoin) :
    Except PyError (Store RouteGroup.routeId) :=
  match groups.find? row.route.routeId with
  | none => .ok (groups.put ⟨row.route.routeId, row.route.truckVehicleId, [row]⟩)
  | some group => do
    require (group.truckVehicleId = row.route.truckVehicleId) ⟨.valueError,
      s!"Route {row.route.routeId} has inconsistent truck_vehicle_id values: " ++
        s!"{showOptionalId group.truckVehicleId} and {showOptionalId row.route.truckVehicleId}."⟩
    .ok (groups.put { group with rows := group.rows ++ [row] })

/-- The routes and the trucks that they remember; `graph_loaders/shared.py:57–94`. -/
def mapRoutes (rows : List RouteStopJoin) :
    Except PyError (Store DeliveryRoute.routeId × List (Int × Option Int)) := do
  let groups ← rows.foldlM groupRow .empty
  let routes ← groups.values.mapM fun group ↦
    mapRoute (orderBy (fun row ↦ row.stop.stopOrder) group.rows)
  .ok (.ofList routes, groups.values.map fun group ↦ (group.routeId, group.truckVehicleId))

/-- Customers with their packages, and the routes that the packages remember. -/
structure PackageGraph where
  customers : Store Customer.customerId
  packages : Store DeliveryPackage.packageId
  routeIds : List (Int × Option Int)

/-- Add the package of a row to its customer, who must be there, and remember its route;
`graph_loaders/shared.py:161–178`. -/
def mapPackageRow (graph : PackageGraph) (row : PackageRow) : Except PyError PackageGraph :=
  match graph.customers.find? row.customerId with
  | none => .error ⟨.valueError,
      s!"Package {row.packageId} references missing customer {row.customerId}."⟩
  | some customer => do
    let package ← mapPackage row customer
    require (graph.packages.find? package.packageId = none)
      ⟨.valueError, s!"Duplicate package_id {package.packageId} in persisted data."⟩
    .ok {
      customers := graph.customers.put (customer.restorePackageLink package.packageId)
      packages := graph.packages.put package
      routeIds := graph.routeIds ++ [(package.packageId, row.routeId)] }

/-- Add the packages of all rows to the customers; `graph_loaders/shared.py:140–180`. -/
def mapPackagesWithExistingCustomers (rows : List PackageRow)
    (customers : Store Customer.customerId) : Except PyError PackageGraph :=
  rows.foldlM mapPackageRow ⟨customers, .empty, []⟩

/-- Link a route and the truck that its rows name, if they name one;
`graph_loaders/shared.py:303–315` with `link_route_truck`. -/
def linkRouteTruck
    (graph : Store DeliveryRoute.routeId × Fleet) (link : Int × Option Int) :
    Except PyError (Store DeliveryRoute.routeId × Fleet) :=
  match link.2 with
  | none => .ok graph
  | some vehicleId =>
    match graph.1.find? link.1, graph.2.find? vehicleId with
    | none, _ => .error ⟨.valueError, s!"Route truck mapping references missing route {link.1}."⟩
    | some _, none => .error ⟨.valueError,
        s!"Route {link.1} references missing truck {vehicleId}."⟩
    | some route, some truck => .ok
        (graph.1.put { route with truck := some vehicleId },
          graph.2.put { truck with route := some route.routeId })

/-- Link routes and trucks, one route after the other; `graph_loaders/shared.py:285–315`. -/
def linkRouteTrucks (links : List (Int × Option Int))
    (graph : Store DeliveryRoute.routeId × Fleet) :
    Except PyError (Store DeliveryRoute.routeId × Fleet) :=
  links.foldlM linkRouteTruck graph

/-- `DeliveryRoute.restore_package_link` that keeps the stored arrival;
`domain/entities/delivery_route.py:642–656` with `refresh_expected_arrival=False`. -/
def restorePackageLink (route : DeliveryRoute) (package : DeliveryPackage) :
    DeliveryRoute × DeliveryPackage :=
  if route.hasPackage package.packageId then (route, package)
  else ({ route with packages := route.packages ++ [package.packageId] },
    package.setRoute (some route.routeId))

/-- Link a package and the route that its row names, if it names one;
`graph_loaders/shared.py:350–358`. -/
def linkPackageToRoute
    (graph : Store DeliveryRoute.routeId × Store DeliveryPackage.packageId)
    (link : Int × Option Int) :
    Except PyError (Store DeliveryRoute.routeId × Store DeliveryPackage.packageId) :=
  match link.2 with
  | none => .ok graph
  | some routeId =>
    match graph.1.find? routeId with
    | none => .error ⟨.valueError, s!"Package {link.1} references missing route {routeId}."⟩
    | some route => do
      let package ← graph.2.getItem link.1
      let linked := restorePackageLink route package
      .ok (graph.1.put linked.1, graph.2.put linked.2)

/-- Link packages and routes in the order of the rows; `graph_loaders/shared.py:332–358`. -/
def linkPackagesToRoutes (links : List (Int × Option Int))
    (graph : Store DeliveryRoute.routeId × Store DeliveryPackage.packageId) :
    Except PyError (Store DeliveryRoute.routeId × Store DeliveryPackage.packageId) :=
  links.foldlM linkPackageToRoute graph

/-- Read all tables and link what they hold; `graph_loaders/world_graph_loader.py:57–84`. -/
def loadWorldGraph (u : UnicodeTables) (tables : Tables) : Except PyError HydratedWorldGraph := do
  let customers ← mapCustomers u (listCustomers tables)
  let (routes, routeTruckIds) ← mapRoutes (listRoutes tables)
  let trucks ← mapTrucks (listTrucks tables)
  let packages ← mapPackagesWithExistingCustomers (listPackages tables) customers
  let (routes, trucks) ← linkRouteTrucks routeTruckIds (routes, trucks)
  let (routes, linked) ← linkPackagesToRoutes packages.routeIds (routes, packages.packages)
  .ok { customers := packages.customers, packages := linked, routes, trucks }

end WorldGraphLoader
end FleetFlow
