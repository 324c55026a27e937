import FleetFlow.Overview.FleetOverview
import FleetFlow.Domain.RouteLoad
import FleetFlow.Runtime.World

/-!
# The overview of the live entities

Follows `adapters/driven/persistence/memory/fleet_overview_query.py`. Each collection is traversed
once, and the routes that are under way are collected on the way.
-/

namespace FleetFlow.InMemoryFleetOverviewQuery

variable (generatedAt : Datetime)

/-- The counters of a traversal of packages. -/
structure PackageTally where
  todo : Nat := 0
  inProgress : Nat := 0
  done : Nat := 0
  unassigned : Nat := 0
  pastDue : Nat := 0

/-- Count one package; `adapters/driven/persistence/memory/fleet_overview_query.py:134–151`. -/
def tallyPackage (tally : PackageTally) (package : DeliveryPackage) : PackageTally :=
  let tally := match package.status with
    | .todo => { tally with todo := tally.todo + 1 }
    | .inProgress => { tally with inProgress := tally.inProgress + 1 }
    | .done => { tally with done := tally.done + 1 }
  let tally := if package.routeId = none then { tally with unassigned := tally.unassigned + 1 }
    else tally
  if package.status ≠ .done ∧ ∃ t ∈ package.expectedArrival, t < generatedAt then
    { tally with pastDue := tally.pastDue + 1 }
  else tally

/-- Count packages by status, and those unassigned or past due;
`adapters/driven/persistence/memory/fleet_overview_query.py:114–161`. -/
def summarizePackages (packages : List DeliveryPackage) : Except PyError PackageOverview :=
  let tally := packages.foldl (tallyPackage generatedAt) {}
  PackageOverview.new ⟨tally.todo, tally.inProgress, tally.done⟩ tally.unassigned tally.pastDue

/-- The position of a route under way; no other position is shown;
`adapters/driven/persistence/memory/fleet_overview_query.py:263–298`. -/
def mapActivePosition (position : RoutePosition) : Except PyError ActiveRoutePosition :=
  match position.kind with
  | .inTransit =>
    match position.fromCity, position.toCity, position.nextEta with
    | some fromCity, some toCity, some nextEta => .ok (.inTransit fromCity toCity nextEta)
    | _, _, _ => .error
        ⟨.runtimeError, "In-transit route position is missing segment information."⟩
  | .atStop =>
    match position.stopCity with
    | some stopCity => .ok (.atStop stopCity position.nextEta)
    | none => .error ⟨.runtimeError, "At-stop route position is missing its stop location."⟩
  | .unscheduled => .error ⟨.valueError, "Cannot map inactive route position: UNSCHEDULED"⟩
  | .beforeStart => .error ⟨.valueError, "Cannot map inactive route position: BEFORE_START"⟩
  | .afterEnd => .error ⟨.valueError, "Cannot map inactive route position: AFTER_END"⟩

/-- What is shown of a route, its truck and its packages;
`adapters/driven/persistence/memory/fleet_overview_query.py:300–329`. -/
def mapActiveRoute [WeightArithmetic] (cell : RouteCell) (position : RoutePosition) :
    Except PyError ActiveRouteOverview := do
  let position ← mapActivePosition position
  let truck ← cell.truck.mapM fun truck ↦
    AssignedTruckOverview.new truck.vehicleId truck.capacity
  ActiveRouteOverview.new {
    routeId := cell.route.routeId
    status := cell.route.status
    startLocation := cell.route.startLocation
    endLocation := cell.route.endLocation
    position
    assignedPackageCount := cell.packages.length
    truck
    maximumSegmentLoad := cell.route.maximumSegmentLoad cell.packages none }

/-- The counters of a traversal of routes, and the routes under way. -/
structure RouteTally where
  planned : Nat := 0
  scheduled : Nat := 0
  inProgress : Nat := 0
  completed : Nat := 0
  pastDue : Nat := 0
  activeRoutes : List ActiveRouteOverview := []

/-- Count the status of a route. -/
def RouteTally.count (tally : RouteTally) : RouteStatus → RouteTally
  | .planned => { tally with planned := tally.planned + 1 }
  | .scheduled => { tally with scheduled := tally.scheduled + 1 }
  | .inProgress => { tally with inProgress := tally.inProgress + 1 }
  | .completed => { tally with completed := tally.completed + 1 }

/-- Count one route, and collect it if it is to be shown;
`adapters/driven/persistence/memory/fleet_overview_query.py:191–217`. -/
def tallyRoute [WeightArithmetic] (tally : RouteTally) (cell : RouteCell) :
    Except PyError RouteTally := do
  let tally := tally.count cell.route.status
  if cell.route.status = .completed then .ok tally
  else
    let tally := if ∃ eta ∈ cell.route.etaFinal, eta < generatedAt then
        { tally with pastDue := tally.pastDue + 1 }
      else tally
    let position := cell.route.currentPosition generatedAt
    if position.kind = .atStop ∨ position.kind = .inTransit then
      let overview ← mapActiveRoute cell position
      .ok { tally with activeRoutes := tally.activeRoutes ++ [overview] }
    else .ok tally

/-- Count routes by status and those past due, and collect those to show;
`adapters/driven/persistence/memory/fleet_overview_query.py:163–229`. -/
def summarizeRoutes [WeightArithmetic] (routes : List RouteCell) :
    Except PyError (RouteOverview × List ActiveRouteOverview) := do
  let tally ← routes.foldlM (tallyRoute generatedAt) {}
  let overview ← RouteOverview.new
    ⟨tally.planned, tally.scheduled, tally.inProgress, tally.completed⟩ tally.pastDue
  .ok (overview, tally.activeRoutes)

/-- The counters of a traversal of trucks. -/
structure TruckTally where
  free : Nat := 0
  onTheWay : Nat := 0
  unknownLocation : Nat := 0

/-- Count one truck; `adapters/driven/persistence/memory/fleet_overview_query.py:245–253`. -/
def tallyTruck (tally : TruckTally) (truck : Truck) : TruckTally :=
  let tally := match truck.status with
    | .free => { tally with free := tally.free + 1 }
    | .onTheWay => { tally with onTheWay := tally.onTheWay + 1 }
  if truck.currentLocation = none then { tally with unknownLocation := tally.unknownLocation + 1 }
  else tally

/-- Count trucks by status, and those nowhere;
`adapters/driven/persistence/memory/fleet_overview_query.py:231–261`. -/
def summarizeTrucks (trucks : List Truck) : Except PyError TruckOverview :=
  let tally := trucks.foldl tallyTruck {}
  TruckOverview.new ⟨tally.free, tally.onTheWay⟩ tally.unknownLocation

/-- `adapters/driven/persistence/memory/fleet_overview_query.py:53–112`. The repositories list
their entities in the order of the ids. -/
def getOverview [WeightArithmetic] (w : World) (activeRouteLimit : Int) :
    Except PyError FleetOverview := do
  requireActiveRouteLimit activeRouteLimit
  let packages ← summarizePackages generatedAt w.packages.values
  let (routes, activeRoutes) ← summarizeRoutes generatedAt (w.routes.values.map w.cell)
  let trucks ← summarizeTrucks w.trucks.values
  .ok {
    generatedAt, packages, routes, trucks
    activeRoutes := nsmallest (ActiveRouteOverview.rank generatedAt) activeRouteLimit.toNat
      activeRoutes }

end FleetFlow.InMemoryFleetOverviewQuery
