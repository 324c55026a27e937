import FleetFlow.Runtime.Heartbeat
import FleetFlow.Snapshot.Validators

/-!
# Preparing a snapshot

Follows `application/services/world_state_snapshot_preparer.py` with the rebuilder and the linker
that it calls. The objects that it makes are detached from the runtime. They form a world of their
own, whose trucks are the candidate trucks and whose contact indexes stay empty.
-/

namespace FleetFlow

/-- The state that one fleet truck gets; `application/dto/truck_binding_dto.py`. -/
structure TruckBinding where
  vehicleId : Int
  route : Option Int
  status : TruckStatus
  currentLocation : Option LocationCode
  busyFrom : Option Datetime
  busyUntil : Option Datetime
  inTransitTo : Option LocationCode
deriving DecidableEq

/-- A prepared world; `application/dto/reconciled_world_dto.py`. -/
structure ReconciledWorld where
  customers : Store Customer.customerId
  packages : Store DeliveryPackage.packageId
  routes : Store DeliveryRoute.routeId
  counters : CountersSnapshot
  truckBindings : List TruckBinding

/-- Errors that some handlers report as corruptions; the others pass. -/
def catching (handlers : ErrorKind → Option (CorruptionReason × (String → String))) {α : Type} :
    Except PyError α → Except PyError α
  | .ok a => .ok a
  | .error e =>
    match handlers e.kind with
    | some (reason, describe) => .error (corruption reason (describe e.message))
    | none => .error e

variable (u : UnicodeTables)

namespace WorldStateSnapshotRebuilder

/-- A customer, with no packages yet;
`application/services/world_state_snapshot_rebuilder.py:77–97`. -/
def rebuildCustomer (snapshot : CustomerSnapshot) : Except PyError Customer := do
  let contact ← ContactInfo.new u snapshot.name snapshot.email snapshot.phone
  Customer.new contact snapshot.customerId

/-- One package and the list of its customer;
`application/services/world_state_snapshot_rebuilder.py:118–128`. -/
def rebuildPackage
    (rebuilt : Store Customer.customerId × Store DeliveryPackage.packageId)
    (snapshot : PackageSnapshot) :
    Except PyError (Store Customer.customerId × Store DeliveryPackage.packageId) := do
  let customer ← rebuilt.1.getItem snapshot.customerId
  let package ← DeliveryPackage.new snapshot.start snapshot.end_ (.finite snapshot.weight)
    customer.customerId snapshot.packageId
  .ok (rebuilt.1.put
      { customer with deliveryPackages := customer.deliveryPackages ++ [package.packageId] },
    rebuilt.2.put package)

/-- The departure is read before the constructor runs;
`application/services/world_state_snapshot_rebuilder.py:132–154`. -/
def rebuildRoute (snapshot : RouteSnapshot) : Except PyError DeliveryRoute := do
  let departureTime ← dtFromStr u snapshot.departureTime
  requirePositiveInt snapshot.routeId "route_id"
  let path ← RoutePath.ofLocations snapshot.locations
  DeliveryRoute.new path departureTime snapshot.routeId

/-- What errors of rebuilding are reported as;
`application/services/world_state_snapshot_rebuilder.py:45–52`. -/
def reportRebuild : ErrorKind → Option (CorruptionReason × (String → String))
  | .keyError => some (.invalidReferences, id)
  | .typeError | .valueError | .domainValidation => some (.invariantViolation, id)
  | _ => none

/-- The detached world of the rebuilt objects. -/
def assemble (counters : CountersSnapshot) (customers : Store Customer.customerId)
    (packages : Store DeliveryPackage.packageId) (routes : Store DeliveryRoute.routeId) : World :=
  { World.initial .empty with
    customers, packages, routes
    nextCustomerId := counters.nextCustomerId
    nextPackageId := counters.nextPackageId
    nextRouteId := counters.nextRouteId }

/-- The customers, packages and routes of a snapshot, not yet linked to routes and trucks;
`application/services/world_state_snapshot_rebuilder.py:26–59`. -/
def rebuild (snapshot : WorldStateSnapshot) : Except PyError World :=
  catching reportRebuild do
    let world := snapshot.world
    let customers ← world.customers.mapM (rebuildCustomer u)
    let (customers, packages) ← world.packages.foldlM rebuildPackage (.ofList customers, .empty)
    let routes ← world.routes.mapM (rebuildRoute u)
    .ok (assemble world.counters customers packages (.ofList routes))

end WorldStateSnapshotRebuilder

namespace WorldStateSnapshotLinker

/-- Link a route and one of its packages; `application/services/world_state_linker.py:101–107`. -/
def linkPackage (routeId : Int) (w : World) (packageId : Int) : Except PyError World := do
  let route ← w.routes.getItem routeId
  let package ← w.packages.getItem packageId
  let (route, package) ← route.restorePackageLink package
  .ok ((w.putRoute route).putPackage package)

/-- Link the routes and their packages in the order of the snapshot;
`application/services/world_state_linker.py:83–107`. -/
def linkPackagesToRoutes (w : World) (snapshots : List RouteSnapshot) : Except PyError World :=
  snapshots.foldlM (fun w snapshot ↦ do
    let _ ← w.routes.getItem snapshot.routeId
    snapshot.packageIds.foldlM (linkPackage snapshot.routeId) w) w

/-- A clone of a fleet truck with the state of its snapshot;
`application/services/world_state_linker.py:158–194`. -/
def buildCandidateTruck (fleet : Fleet) (snapshot : TruckSnapshot) : Except PyError Truck := do
  let realTruck ← fleet.getItem snapshot.vehicleId
  let busyFrom ← dtFromStr u snapshot.busyFrom
  let busyUntil ← dtFromStr u snapshot.busyUntil
  .ok { realTruck with
    status := snapshot.status
    currentLocation := snapshot.currentLocation
    busyFrom, busyUntil
    inTransitTo := snapshot.inTransitTo
    route := none }

/-- The candidate of a truck, or a free clone at the start of the route;
`application/services/world_state_linker.py:138–149`. -/
def candidateTruck (fleet : Fleet) (w : World) (route : DeliveryRoute) (vehicleId : Int) :
    Except PyError Truck :=
  match w.trucks.find? vehicleId with
  | some candidate => .ok candidate
  | none => do
    let realTruck ← fleet.getItem vehicleId
    .ok { realTruck with
      status := .free
      currentLocation := some route.startLocation
      busyFrom := none, busyUntil := none, inTransitTo := none, route := none }

/-- Link a route and a copy of its truck, if it has one;
`application/services/world_state_linker.py:132–154`. -/
def linkCandidateTruck (fleet : Fleet) (w : World) (snapshot : RouteSnapshot) :
    Except PyError World :=
  match snapshot.truckVehicleId with
  | none => .ok w
  | some vehicleId => do
    let route ← w.routes.getItem snapshot.routeId
    let candidate ← candidateTruck fleet w route vehicleId
    .ok ((w.putTruck (candidate.assign route)).putRoute { route with truck := some vehicleId })

/-- What the errors of linking packages are reported as;
`application/services/world_state_linker.py:53–58`. -/
def reportPackageLink : ErrorKind → Option (CorruptionReason × (String → String))
  | .keyError => some (.invalidReferences, fun key ↦ "Package-to-route linking failed: " ++
      s!"snapshot references missing rebuilt route or package id {key}.")
  | _ => none

/-- What the errors of linking trucks are reported as;
`application/services/world_state_linker.py:66–76`. -/
def reportTruckLink : ErrorKind → Option (CorruptionReason × (String → String))
  | .keyError => some (.invalidReferences, fun key ↦ "Truck-to-route linking failed: " ++
      s!"snapshot references missing rebuilt route or fleet truck id {key}.")
  | .typeError | .valueError => some (.invariantViolation, fun message ↦
      s!"Truck runtime state linking failed while restoring candidate trucks: {message}")
  | _ => none

/-- Link the rebuilt routes with their packages and with copies of the trucks;
`application/services/world_state_linker.py:30–81`. -/
def link (fleet : Fleet) (snapshot : WorldStateSnapshot) (rebuilt : World) :
    Except PyError World := do
  let w ← catching reportPackageLink (linkPackagesToRoutes rebuilt snapshot.world.routes)
  catching reportTruckLink do
    let candidates ← snapshot.world.trucks.mapM (buildCandidateTruck u fleet)
    snapshot.world.routes.foldlM (linkCandidateTruck fleet) { w with trucks := .ofList candidates }

/-- The binding of a candidate truck to a route. -/
def bindingOf (truck : Truck) (route : Option Int) : TruckBinding where
  vehicleId := truck.vehicleId
  route := route
  status := truck.status
  currentLocation := truck.currentLocation
  busyFrom := truck.busyFrom
  busyUntil := truck.busyUntil
  inTransitTo := truck.inTransitTo

/-- The binding that a route asks for. Its candidate truck is the one that the snapshot names;
`application/services/world_state_linker.py:232–253`. -/
def bindRoute (w : World) (bindings : Store TruckBinding.vehicleId) (snapshot : RouteSnapshot) :
    Except PyError (Store TruckBinding.vehicleId) :=
  match snapshot.truckVehicleId with
  | none => .ok bindings
  | some vehicleId => do
    let candidate ← w.trucks.getItem vehicleId
    let route ← w.routes.getItem snapshot.routeId
    let boundRoute := if route.truck = some vehicleId then some route.routeId else none
    if boundRoute = none ∧ (bindings.find? vehicleId).isSome then .ok bindings
    else .ok (bindings.put (bindingOf candidate boundRoute))

/-- The bindings by vehicle id; `application/services/world_state_linker.py:196–255`. -/
def buildTruckBindings (routeSnapshots : List RouteSnapshot) (w : World) :
    Except PyError (List TruckBinding) := do
  let candidates := w.trucks.values.map fun truck ↦ bindingOf truck truck.route
  let bindings ← routeSnapshots.foldlM (bindRoute w) (.ofList candidates)
  .ok bindings.values

end WorldStateSnapshotLinker

namespace WorldStateSnapshotPreparer

/-- What the errors of reconciling are reported as;
`application/services/world_state_snapshot_preparer.py:57–65`. -/
def reportReconciliation : ErrorKind → Option (CorruptionReason × (String → String))
  | .runtimeError => some (.invariantViolation, id)
  | _ => none

/-- What the errors of binding trucks are reported as;
`application/services/world_state_snapshot_preparer.py:67–77`. -/
def reportBindings : ErrorKind → Option (CorruptionReason × (String → String))
  | .keyError => some (.invalidReferences, id)
  | _ => none

/-- The pass of the reconciler over the rebuilt routes, in the order of the snapshot. -/
def reconcile (now : Datetime) (routes : List RouteSnapshot) (linked : World) :
    Except PyError World :=
  match Reconciler.reconcileRoutes now true (routes.map RouteSnapshot.routeId) linked with
  | .ok _ w => .ok w
  | .error e _ => .error e

/-- Validate a snapshot, rebuild and link its world, and advance it to the given time;
`application/services/world_state_snapshot_preparer.py:36–85`. -/
def prepare [WeightArithmetic] (fleet : Fleet) (now : Datetime) (snapshot : WorldStateSnapshot)
    (supportedSchemaVersions : List Int) : Except PyError ReconciledWorld := do
  WorldStateSnapshotValidator.validateSnapshot u fleet snapshot supportedSchemaVersions
  let rebuilt ← WorldStateSnapshotRebuilder.rebuild u snapshot
  let linked ← WorldStateSnapshotLinker.link u fleet snapshot rebuilt
  let w ← catching reportReconciliation (reconcile now snapshot.world.routes linked)
  let truckBindings ← catching reportBindings
    (WorldStateSnapshotLinker.buildTruckBindings snapshot.world.routes w)
  .ok {
    customers := w.customers
    packages := w.packages
    routes := w.routes
    counters := snapshot.world.counters
    truckBindings }

end WorldStateSnapshotPreparer
end FleetFlow
