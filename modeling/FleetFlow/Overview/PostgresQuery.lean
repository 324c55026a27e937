import FleetFlow.Base.IsoFormat
import FleetFlow.Database.WorldGraph
import FleetFlow.Domain.RouteLoad
import FleetFlow.Overview.FleetOverview

/-!
# The overview of the tables

Follows the statements under `sql/fleet_overview/`, the mappers of
`adapters/driven/persistence/database/mappers/fleet_overview.py` and the query of
`adapters/driven/persistence/database/repositories/fleet_overview_query.py`. The statements run in
one repeatable-read transaction, so they all read the same tables.
-/

namespace FleetFlow

namespace Database

/-! ### Statements -/

/-- The row of `sql/fleet_overview/package_counts.sql`. -/
structure PackageCountsRow where
  todo : Nat
  inProgress : Nat
  done : Nat
  unassigned : Nat
  pastDue : Nat

/-- Packages by status, and those unassigned or past due;
`sql/fleet_overview/package_counts.sql`. -/
def packageCounts (generatedAt : Datetime) (tables : Tables) : PackageCountsRow where
  todo := tables.packages.countP fun row ↦ row.status = .todo
  inProgress := tables.packages.countP fun row ↦ row.status = .inProgress
  done := tables.packages.countP fun row ↦ row.status = .done
  unassigned := tables.packages.countP fun row ↦ row.routeId = none
  pastDue := tables.packages.countP fun row ↦
    row.status ≠ .done ∧ ∃ t ∈ row.expectedArrival, t < generatedAt

/-- The row of `sql/fleet_overview/route_counts.sql`. -/
structure RouteCountsRow where
  planned : Nat
  scheduled : Nat
  inProgress : Nat
  completed : Nat
  pastDueCandidates : Json

/-- Routes that may be past due or under way. -/
def RouteRow.Departed (generatedAt : Datetime) (row : RouteRow) : Prop :=
  (row.status = .scheduled ∨ row.status = .inProgress) ∧ ∃ t ∈ row.departureTime, t ≤ generatedAt

instance (generatedAt : Datetime) (row : RouteRow) : Decidable (row.Departed generatedAt) :=
  inferInstanceAs (Decidable (_ ∧ _))

/-- The stops of a route in `sql/fleet_overview/route_counts.sql`, which are null where the outer
join finds none. -/
def stopsData (stops : List RouteStopRow) (routeId : Int) : Json :=
  match orderBy RouteStopRow.stopOrder (stops.filter fun stop ↦ stop.routeId = routeId) with
  | [] => .null
  | first :: rest => .arr ((first :: rest).map fun stop ↦ .obj [
      ("stop_order", .int stop.stopOrder), ("location_code", .str stop.locationCode.text)])

/-- A candidate of `sql/fleet_overview/route_counts.sql`. -/
def pastDueCandidate (stops : List RouteStopRow) (row : RouteRow) : Json :=
  .obj [
    ("route_id", .int row.routeId),
    ("departure_time", row.departureTime.elim .null fun t ↦ .str t.jsonText),
    ("stops", stopsData stops row.routeId)]

/-- Routes by status, and the departed ones with their stops as JSON;
`sql/fleet_overview/route_counts.sql`. -/
def routeCounts (generatedAt : Datetime) (tables : Tables) : RouteCountsRow where
  planned := tables.routes.countP fun row ↦ row.status = .planned
  scheduled := tables.routes.countP fun row ↦ row.status = .scheduled
  inProgress := tables.routes.countP fun row ↦ row.status = .inProgress
  completed := tables.routes.countP fun row ↦ row.status = .completed
  pastDueCandidates := .arr ((orderBy RouteRow.routeId
    (tables.routes.filter fun row ↦ row.Departed generatedAt)).map
      (pastDueCandidate tables.routeStops))

/-- The row of `sql/fleet_overview/truck_counts.sql`. -/
structure TruckCountsRow where
  free : Nat
  onTheWay : Nat
  unknownLocation : Nat

/-- Trucks by status, and those nowhere; `sql/fleet_overview/truck_counts.sql`. -/
def truckCounts (tables : Tables) : TruckCountsRow where
  free := tables.trucks.countP fun row ↦ row.status = .free
  onTheWay := tables.trucks.countP fun row ↦ row.status = .onTheWay
  unknownLocation := tables.trucks.countP fun row ↦ row.currentLocation = none

/-- The candidates of `sql/fleet_overview/active_routes.sql`. -/
def candidateRoutes (generatedAt : Datetime) (after : Int) (limit : Nat) (tables : Tables) :
    List RouteRow :=
  (orderBy RouteRow.routeId (tables.routes.filter fun row ↦
    row.Departed generatedAt ∧ after < row.routeId ∧
      ∃ stop ∈ tables.routeStops, stop.routeId = row.routeId)).take limit

/-- A row of `sql/fleet_overview/active_routes.sql`. -/
structure ActiveRouteJoin where
  route : RouteRow
  stop : RouteStopRow
  truckCapacity : Option Int

/-- A row with the capacity of the route's truck, if there is one,
`LEFT JOIN public.trucks t ON t.vehicle_id = r.truck_vehicle_id`. -/
def joinTruck (trucks : List TruckRow) (row : RouteStopJoin) : List ActiveRouteJoin :=
  match trucks.filter fun truck ↦ row.route.truckVehicleId = some truck.vehicleId with
  | [] => [⟨row.route, row.stop, none⟩]
  | truck :: rest => (truck :: rest).map fun truck ↦ ⟨row.route, row.stop, some truck.capacity⟩

/-- The next candidates after an id with their stops and trucks, by route and stop;
`sql/fleet_overview/active_routes.sql`. -/
def activeRoutes (generatedAt : Datetime) (after : Int) (limit : Nat) (tables : Tables) :
    List ActiveRouteJoin :=
  ((joinStops (candidateRoutes generatedAt after limit tables) tables.routeStops).flatMap
    (joinTruck tables.trucks)).mergeSort fun a b ↦
      decide (a.route.routeId < b.route.routeId ∨
        a.route.routeId = b.route.routeId ∧ a.stop.stopOrder ≤ b.stop.stopOrder)

/-- The packages of some routes, by route and package;
`sql/fleet_overview/active_route_packages.sql`. -/
def activeRoutePackages (routeIds : List Int) (tables : Tables) : List PackageRow :=
  (tables.packages.filter fun row ↦ ∃ r ∈ row.routeId, r ∈ routeIds).mergeSort fun a b ↦
    decide (a.routeId.getD 0 < b.routeId.getD 0 ∨
      a.routeId.getD 0 = b.routeId.getD 0 ∧ a.packageId ≤ b.packageId)

/-! ### Counts -/

/-- The counts of packages, checked; `mappers/fleet_overview.py:62–86`. -/
def mapPackageOverview (row : PackageCountsRow) : Except PyError PackageOverview :=
  PackageOverview.new ⟨row.todo, row.inProgress, row.done⟩ row.unassigned row.pastDue

/-- The counts of trucks, checked; `mappers/fleet_overview.py:281–303`. -/
def mapTruckOverview (row : TruckCountsRow) : Except PyError TruckOverview :=
  TruckOverview.new ⟨row.free, row.onTheWay⟩ row.unknownLocation

/-- A stop of a candidate; `mappers/fleet_overview.py:106–110`. -/
structure PastDueRouteStop where
  stopOrder : Int
  locationCode : String

/-- A candidate; `mappers/fleet_overview.py:113–118`. -/
structure PastDueRouteCandidate where
  routeId : Int
  departureTime : String
  stops : List PastDueRouteStop

/-- A stop of a candidate, from its object; `mappers/fleet_overview.py:235–245`. -/
def asCandidateStop (value : Json) : Except PyError PastDueRouteStop :=
  match value with
  | .obj candidate => do
    let stopOrder ← Json.item candidate "stop_order"
    let stopOrder ← Json.requireNonNegativeInt stopOrder "stop_order"
    let locationCode ← Json.item candidate "location_code"
    let locationCode ← Json.requireStr locationCode "location_code"
    .ok { stopOrder, locationCode }
  | _ => .error ⟨.typeError, "Each stop must be a JSON object."⟩

/-- The stops of a candidate, from their array; `mappers/fleet_overview.py:226–232`. -/
def asCandidateStops (value : Json) : Except PyError (List PastDueRouteStop) :=
  match value with
  | .arr candidates => candidates.mapM asCandidateStop
  | _ => .error ⟨.typeError, "Past-due candidate's stops must be a JSON array."⟩

/-- A candidate with its stops, from its object; `mappers/fleet_overview.py:212–223`. -/
def asPastDueCandidate (value : Json) : Except PyError PastDueRouteCandidate :=
  match value with
  | .obj candidate => do
    let routeId ← Json.item candidate "route_id"
    let routeId ← Json.requirePositiveInt routeId "route_id"
    let departureTime ← Json.item candidate "departure_time"
    let departureTime ← Json.requireStr departureTime "departure_time"
    let stops ← Json.item candidate "stops"
    let stops ← asCandidateStops stops
    .ok { routeId, departureTime, stops }
  | _ => .error ⟨.typeError, "Each past-due candidate must be a JSON object."⟩

/-- All candidates, from their array; `mappers/fleet_overview.py:203–209`. -/
def asPastDueRouteCandidates (value : Json) : Except PyError (List PastDueRouteCandidate) :=
  match value with
  | .arr candidates => candidates.mapM asPastDueCandidate
  | _ => .error ⟨.typeError, "past_due_candidates must be a JSON array."⟩

/-- An instant without a time zone, from its text; `mappers/fleet_overview.py:671–689`. -/
def parseNaiveDatetime (value fieldName : String) : Except PyError Datetime :=
  match fromisoformat value with
  | some (.naive t) => .ok t
  | some .aware => .error ⟨.valueError, s!"{fieldName} must be timezone-naive."⟩
  | none => .error ⟨.valueError, s!"{fieldName} must be a valid ISO 8601 datetime."⟩

/-- Stop orders that count from zero; `mappers/fleet_overview.py:259–261, 526–528`. -/
def requireContiguous (routeId : Int) (orders : List Int) : Except PyError Unit :=
  require (orders = (List.range orders.length).map Int.ofNat)
    ⟨.valueError, s!"Route {routeId} stop orders must be contiguous from zero."⟩

/-- The final arrival of a candidate; `mappers/fleet_overview.py:172–181, 248–270`. -/
def candidateEtaFinal (u : UnicodeTables) (candidate : PastDueRouteCandidate) :
    Except PyError Datetime := do
  let orderedStops := orderBy PastDueRouteStop.stopOrder candidate.stops
  requireContiguous candidate.routeId (orderedStops.map PastDueRouteStop.stopOrder)
  let departureTime ← parseNaiveDatetime candidate.departureTime
    s!"route {candidate.routeId} departure_time"
  let path ← RoutePath.create u (orderedStops.map PastDueRouteStop.locationCode)
  let schedule ← RouteScheduler.build path.locations departureTime
  .ok schedule.etaFinal

/-- The counts of routes, checked, with the candidates whose end has passed;
`mappers/fleet_overview.py:140–183`. -/
def mapRouteOverview (u : UnicodeTables) (generatedAt : Datetime) (row : RouteCountsRow) :
    Except PyError RouteOverview := do
  let candidates ← asPastDueRouteCandidates row.pastDueCandidates
  let etas ← candidates.mapM (candidateEtaFinal u)
  RouteOverview.new ⟨row.planned, row.scheduled, row.inProgress, row.completed⟩
    (etas.countP fun eta ↦ eta < generatedAt)

/-! ### Routes under way -/

/-- The columns of the route in a row of an active route; `mappers/fleet_overview.py:319–326`. -/
structure ActiveRouteRow where
  routeId : Int
  departureTime : Datetime
  status : RouteStatus
  truckVehicleId : Option Int
  truckCapacity : Option Int
deriving DecidableEq

/-- What a row says about its route, checked; `mappers/fleet_overview.py:629–643`. -/
def asActiveRouteRow (row : ActiveRouteJoin) : Except PyError ActiveRouteRow := do
  let routeId ← Shared.requirePositiveInt row.route.routeId "route_id"
  match row.route.departureTime with
  | none => .error ⟨.typeError, "departure_time: expected datetime, got NoneType"⟩
  | some departureTime => do
    let truckVehicleId ← Shared.requireOptionalPositiveInt row.route.truckVehicleId
      "truck_vehicle_id"
    let truckCapacity ← Shared.requireOptionalPositiveInt row.truckCapacity "truck_capacity"
    .ok { routeId, departureTime, status := row.route.status, truckVehicleId, truckCapacity }

/-- What a row says about its stop, checked; `mappers/fleet_overview.py:646–651`. -/
def asActiveRouteStopRow (row : ActiveRouteJoin) : Except PyError RouteStopRow := do
  require (0 ≤ row.stop.stopOrder) ⟨.valueError, "stop_order must be a non-negative integer."⟩
  .ok row.stop

/-- A package of an active route; `mappers/fleet_overview.py:336–343`. -/
structure ActiveRoutePackageRow where
  routeId : Int
  packageId : Int
  load : PackageLoad

/-- The route id of a row of a package, which the statement selects by this column. -/
def requireRouteId (row : PackageRow) : Except PyError Int :=
  match row.routeId with
  | some routeId => Shared.requirePositiveInt routeId "route_id"
  | none => .error ⟨.typeError, "route_id: expected int, got NoneType"⟩

/-- What a row says about its package, checked; `mappers/fleet_overview.py:654–668`. -/
def asActiveRoutePackageRow (row : PackageRow) : Except PyError ActiveRoutePackageRow := do
  let routeId ← requireRouteId row
  let packageId ← Shared.requirePositiveInt row.packageId "package_id"
  require (0 < row.weight) ⟨.valueError, "weight must be positive."⟩
  .ok { routeId, packageId, load := ⟨row.startLocation, row.endLocation, row.weight⟩ }

/-- The position of a route under way, and nothing for any other;
`mappers/fleet_overview.py:593–626`. -/
def mapActivePosition (position : RoutePosition) : Except PyError (Option ActiveRoutePosition) :=
  match position.kind with
  | .atStop =>
    match position.stopCity with
    | some stopCity => .ok (some (.atStop stopCity position.nextEta))
    | none => .error ⟨.runtimeError, "At-stop route position is missing its stop location."⟩
  | .inTransit =>
    match position.fromCity, position.toCity, position.nextEta with
    | some fromCity, some toCity, some nextEta => .ok (some (.inTransit fromCity toCity nextEta))
    | _, _, _ => .error
        ⟨.runtimeError, "In-transit route position is missing segment information."⟩
  | .unscheduled | .beforeStart | .afterEnd => .ok none

/-- The packages of an active route; `mappers/fleet_overview.py:532–560`. -/
def checkActivePackages (routeId : Int) (path : RoutePath)
    (packages : List ActiveRoutePackageRow) : Except PyError Unit := do
  packages.forM fun package ↦ require (package.routeId = routeId) ⟨.valueError,
    s!"Package {package.packageId} belongs to route {package.routeId}, not route {routeId}."⟩
  require (packages.map ActiveRoutePackageRow.packageId).Nodup
    ⟨.valueError, s!"Active route {routeId} contains duplicate package rows."⟩
  packages.forM fun package ↦
    require (path.includesInOrder package.load.startLocation package.load.endLocation = true)
      ⟨.valueError, s!"Package {package.packageId} does not follow active route {routeId} in " ++
        "pickup-to-delivery order."⟩

/-- What is shown of a route, from its own rows and those of its packages;
`mappers/fleet_overview.py:467–590`. -/
def mapActiveRouteOverview [WeightArithmetic] (generatedAt : Datetime)
    (routeRows : List ActiveRouteJoin) (packageRows : List PackageRow) :
    Except PyError (Option ActiveRouteOverview) := do
  let typedRouteRows ← routeRows.mapM asActiveRouteRow
  match typedRouteRows with
  | [] => .error ⟨.valueError, "Cannot map an active route without route rows."⟩
  | row :: rest => do
    require (∀ other ∈ rest, other = row)
      ⟨.valueError, s!"Active route {row.routeId} has inconsistent route metadata."⟩
    require (row.truckVehicleId.isNone = row.truckCapacity.isNone)
      ⟨.valueError, s!"Active route {row.routeId} has inconsistent truck metadata."⟩
    let stops ← routeRows.mapM asActiveRouteStopRow
    let stops := orderBy RouteStopRow.stopOrder stops
    requireContiguous row.routeId (stops.map RouteStopRow.stopOrder)
    let path ← RoutePath.ofLocations (stops.map RouteStopRow.locationCode)
    let packages ← packageRows.mapM asActiveRoutePackageRow
    checkActivePackages row.routeId path packages
    let schedule ← RouteScheduler.build path.locations row.departureTime
    match ← mapActivePosition (schedule.positionAt generatedAt) with
    | none => .ok none
    | some position => do
      let truck ← match row.truckVehicleId, row.truckCapacity with
        | some truckId, some capacity => some <$> AssignedTruckOverview.new truckId capacity
        | _, _ => .ok none
      let overview ← ActiveRouteOverview.new {
        routeId := row.routeId
        status := row.status
        startLocation := path.start
        endLocation := path.end_
        position
        assignedPackageCount := packages.length
        truck
        maximumSegmentLoad := RouteLoadCalculator.maximumSegmentLoad path.locations
          (packages.map ActiveRoutePackageRow.load) none }
      .ok (some overview)

/-- The rows of one route. -/
structure RowGroup (ρ : Type) where
  routeId : Int
  rows : List ρ

/-- Rows together with the others of their route; `mappers/fleet_overview.py:454–464`. -/
def groupRowsByRouteId {ρ : Type} (routeId : ρ → Except PyError Int) (rows : List ρ) :
    Except PyError (Store (RowGroup.routeId (ρ := ρ))) :=
  rows.foldlM (fun groups row ↦ do
    let id ← routeId row
    match groups.find? id with
    | none => .ok (groups.put ⟨id, [row]⟩)
    | some group => .ok (groups.put { group with rows := group.rows ++ [row] })) .empty

/-- The first of some routes, up to the limit; `mappers/fleet_overview.py:410–451`. -/
def selectActiveRouteOverviews (generatedAt : Datetime) (activeRouteLimit : Int)
    (activeRoutes : List ActiveRouteOverview) : Except PyError (List ActiveRouteOverview) := do
  requireActiveRouteLimit activeRouteLimit
  .ok (nsmallest (ActiveRouteOverview.rank generatedAt) activeRouteLimit.toNat activeRoutes)

/-- The routes to show of one batch, up to the limit; `mappers/fleet_overview.py:346–407`. -/
def mapActiveRouteOverviews [WeightArithmetic] (generatedAt : Datetime) (activeRouteLimit : Int)
    (routeRows : List ActiveRouteJoin) (packageRows : List PackageRow) :
    Except PyError (List ActiveRouteOverview) := do
  requireActiveRouteLimit activeRouteLimit
  let routeGroups ← groupRowsByRouteId
    (fun row ↦ Shared.requirePositiveInt row.route.routeId "route_id") routeRows
  let packageGroups ← groupRowsByRouteId requireRouteId packageRows
  let unknown := packageGroups.values.filter fun group ↦ (routeGroups.find? group.routeId).isNone
  require (unknown = []) ⟨.valueError, "Package rows reference missing active routes: " ++
    ", ".intercalate (unknown.map fun group ↦ toString group.routeId) ++ "."⟩
  let overviews ← routeGroups.values.mapM fun group ↦ mapActiveRouteOverview generatedAt group.rows
    ((packageGroups.find? group.routeId).elim [] RowGroup.rows)
  selectActiveRouteOverviews generatedAt activeRouteLimit (overviews.filterMap id)

end Database

namespace PostgresFleetOverviewQuery

open Database

variable (generatedAt : Datetime) (activeRouteLimit : Int) (batchSize : Nat) (tables : Tables)

/-- Candidates of one fetch; `repositories/fleet_overview_query.py:32`. -/
def activeRouteCandidateBatchSize : Nat := 100

/-- The loop over the batches, `rounds` times at most; `batchSize` is
`activeRouteCandidateBatchSize` in `repositories/fleet_overview_query.py:109–186`. -/
def loadActiveRouteOverviews [WeightArithmetic] : Nat → Int → List ActiveRouteOverview →
    Except PyError (Option (List ActiveRouteOverview))
  | 0, _, _ => .ok none
  | rounds + 1, afterRouteId, selected => do
    let routeRows := activeRoutes generatedAt afterRouteId batchSize tables
    if routeRows.isEmpty then .ok (some selected)
    else
      let routeIds ← routeRows.mapM fun row ↦
        Shared.requirePositiveInt row.route.routeId "route_id"
      let routeIds := orderBy (fun id ↦ id) routeIds.dedup
      match routeIds.getLast? with
      | none => .error ⟨.indexError, "list index out of range"⟩
      | some nextAfterRouteId => do
        require (afterRouteId < nextAfterRouteId)
          ⟨.database, "Active-route candidate pagination did not advance."⟩
        let packageRows := activeRoutePackages routeIds tables
        let batchOverviews ← mapActiveRouteOverviews generatedAt activeRouteLimit routeRows
          packageRows
        let selected ← selectActiveRouteOverviews generatedAt activeRouteLimit
          (selected ++ batchOverviews)
        loadActiveRouteOverviews rounds nextAfterRouteId selected

/-- `repositories/fleet_overview_query.py:39–107`, with `rounds` fetches of candidates at most. -/
def getOverview [WeightArithmetic] (u : UnicodeTables) (rounds : Nat) :
    Except PyError (Option FleetOverview) := do
  requireActiveRouteLimit activeRouteLimit
  match ← loadActiveRouteOverviews generatedAt activeRouteLimit batchSize tables rounds 0 [] with
  | none => .ok none
  | some activeRoutes => do
    let packages ← mapPackageOverview (packageCounts generatedAt tables)
    let routes ← mapRouteOverview u generatedAt (routeCounts generatedAt tables)
    let trucks ← mapTruckOverview (truckCounts tables)
    .ok (some { generatedAt, packages, routes, trucks, activeRoutes })

end PostgresFleetOverviewQuery
end FleetFlow
