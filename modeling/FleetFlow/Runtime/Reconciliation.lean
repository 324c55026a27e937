import FleetFlow.Runtime.World

/-!
# Reconciling a route with the clock

Follows `application/services/world_state_reconciliation_service.py`. Each helper works on a
`RouteCell`, so it can change exactly the route of the pass, its truck and its packages. A
helper that raises keeps what it wrote; the loop body restores the cell from the snapshots it
took.
-/

namespace FleetFlow

/-- Direct route corrections; `application/enums/route_reconciliation_reasons.py`. -/
inductive RouteReconciliationReason where
  | missingDepartureTime
  | missingExpectedCompletionTime
  | beforeScheduledDeparture
deriving DecidableEq, Repr

/-- Direct package corrections; `application/enums/package_reconciliation_reasons.py`. -/
inductive PackageReconciliationReason where
  | routeUnscheduled
  | routePathInvalid
  | beforeScheduledPickup
  | missingPickupTime
  | lifecycleStateInconsistent
  | routeProgressAdvanced
  | expectedArrivalRecalculated
deriving DecidableEq, Repr

/-! ### Reconciliation events; `application/events/reconciliation_events.py` -/

structure RouteStateReconciled where
  routeId : Int
  previousStatus : RouteStatus
  newStatus : RouteStatus
  departureTime : Option Datetime
  expectedCompletionTime : Option Datetime
  reason : RouteReconciliationReason
  occurredAt : Datetime
deriving DecidableEq, Repr

structure PackageStateReconciled where
  packageId : Int
  routeId : Option Int
  previousStatus : ItemStatus
  newStatus : ItemStatus
  previousLocation : LocationCode
  newLocation : LocationCode
  previousExpectedArrival : Option Datetime
  newExpectedArrival : Option Datetime
  scheduledPickupTime : Option Datetime
  scheduledDeliveryTime : Option Datetime
  reasons : List PackageReconciliationReason
  occurredAt : Datetime
deriving DecidableEq, Repr

structure TruckPositionReconciled where
  truckId : Int
  routeId : Option Int
  previousLocation : Option LocationCode
  newLocation : Option LocationCode
  previousInTransitTo : Option LocationCode
  newInTransitTo : Option LocationCode
  positionKind : RoutePositionKind
  occurredAt : Datetime
deriving DecidableEq, Repr

structure TruckRouteReferenceReconciled where
  truckId : Int
  previousRouteId : Option Int
  newRouteId : Int
  occurredAt : Datetime
deriving DecidableEq, Repr

/-- Events of direct corrections. -/
inductive ReconciliationEvent where
  | routeState (event : RouteStateReconciled)
  | packageState (event : PackageStateReconciled)
  | truckPosition (event : TruckPositionReconciled)
  | truckRouteReference (event : TruckRouteReferenceReconciled)
deriving DecidableEq, Repr

/-- Constructor checks; `application/events/reconciliation_events.py:66–77`. -/
def PackageStateReconciled.check (event : PackageStateReconciled) :
    Except PyError PackageStateReconciled := do
  require (event.reasons ≠ [])
    ⟨.valueError, "Package reconciliation requires at least one reason."⟩
  require event.reasons.Nodup ⟨.valueError, "Package reconciliation reasons must be unique."⟩
  .ok event

/-- Truck changes of one route; `application/results/truck_reconciliation_summary_result.py`. -/
structure TruckReconciliationSummary where
  trucksMoved : List Int := []
  trucksReleased : List Int := []
  trucksReconciled : List Int := []
  events : List ReconciliationEvent := []
deriving DecidableEq, Repr

/-- What one pass of the loop adds to the summary. -/
structure RouteChanges where
  routeChanged : Bool
  trucks : TruckReconciliationSummary
  packagesUpdated : List Int
  events : List ReconciliationEvent
deriving DecidableEq, Repr

/-- Programs over one route and the objects it refers to. -/
abbrev CellAction (α : Type) := Program PyError RouteCell α

namespace Reconciler

/-! ### Route status -/

/-- Desired status; `world_state_reconciliation_service.py:262–287`. -/
def computeRouteStatus (route : DeliveryRoute) (now : Datetime) :
    RouteStatus × Option RouteReconciliationReason :=
  match route.departureTime, route.etaFinal with
  | none, _ => (.planned, some .missingDepartureTime)
  | some _, none => (.scheduled, some .missingExpectedCompletionTime)
  | some departureTime, some etaFinal =>
    if now < departureTime then (.scheduled, some .beforeScheduledDeparture)
    else if etaFinal ≤ now then (.completed, none)
    else (.inProgress, none)

/-- Apply a status through the lifecycle; `world_state_reconciliation_service.py:289–341`. -/
def applyRouteStatus (newStatus : RouteStatus) (reason : Option RouteReconciliationReason)
    (occurredAt : Datetime) : CellAction (Option ReconciliationEvent) := do
  let cell ← get
  match newStatus with
  | .inProgress =>
    match cell.route.departureTime with
    | none => throw ⟨.runtimeError, "Started route has no departure time."⟩
    | some departureTime => do
      let route ← Program.lift (cell.route.markStarted departureTime)
      set { cell with route }
      pure none
  | .completed =>
    match cell.route.etaFinal with
    | none => throw ⟨.runtimeError, "Completed route has no completion time."⟩
    | some completionTime => do
      let route ← Program.lift (cell.route.markCompleted completionTime)
      set { cell with route }
      pure none
  | .planned | .scheduled =>
    match reason with
    | none => throw ⟨.runtimeError, "Direct route reconciliation requires a reason."⟩
    | some reason => do
      set { cell with route := { cell.route with status := newStatus } }
      pure (some (.routeState {
        routeId := cell.route.routeId
        previousStatus := cell.route.status
        newStatus
        departureTime := cell.route.departureTime
        expectedCompletionTime := cell.route.etaFinal
        reason
        occurredAt }))

/-- Compare and correct the status; `world_state_reconciliation_service.py:81–86`. -/
def reconcileStatus (now : Datetime) : CellAction (Bool × List ReconciliationEvent) := do
  let cell ← get
  let (newStatus, reason) := computeRouteStatus cell.route now
  if cell.route.status ≠ newStatus then do
    let event ← applyRouteStatus newStatus reason now
    pure (true, event.toList)
  else pure (false, [])

/-! ### Truck position -/

/-- Change the truck of the cell. -/
def modifyTruck (f : Truck → Truck) : CellAction PUnit :=
  modify fun cell ↦ { cell with truck := cell.truck.map f }

/-- Release the truck of a finished route; the two call sites at
`world_state_reconciliation_service.py:212` and `:405`. The truck has been checked to refer
to the route, so the object behind its reference is the route itself. -/
def releaseFinished (now completionTime : Datetime) : CellAction Bool := do
  let cell ← get
  let (route, truck, released) ← Program.lift (cell.route.releaseTruck cell.truck
    (some cell.route) now false .routeCompleted completionTime)
  set { cell with route, truck }
  pure released

/-- The final arrival of a completed route; `world_state_reconciliation_service.py:245–260`. -/
def validateRouteEtaFinal (route : DeliveryRoute) : Except PyError Datetime :=
  match route.etaFinal with
  | none => .error ⟨.runtimeError, "Completed route has no completion time."⟩
  | some completionTime => .ok completionTime

/-- On a route without a schedule the truck goes nowhere;
`world_state_reconciliation_service.py:343–356`. -/
def setTruckUnscheduled (truck : Truck) : CellAction Bool :=
  if truck.inTransitTo = none then pure false
  else do
    modifyTruck fun t ↦ { t with inTransitTo := none }
    pure true

/-- Before the departure the truck stands at the start;
`world_state_reconciliation_service.py:358–372`. -/
def setTruckBeforeStart (truck : Truck) (route : DeliveryRoute) : CellAction Bool := do
  let moved := decide (truck.currentLocation ≠ some route.startLocation) ||
    truck.inTransitTo.isSome
  modifyTruck fun t ↦ { t with
    currentLocation := some route.startLocation
    inTransitTo := none
    route := some route.routeId }
  pure moved

/-- At a stop the truck stands there, and at the end of its route it is released;
`world_state_reconciliation_service.py:374–412`. -/
def setTruckAtStop (truck : Truck) (route : DeliveryRoute) (position : RoutePosition)
    (now : Datetime) : CellAction (Bool × Bool) := do
  let moved := decide (truck.currentLocation ≠ position.stopCity) || truck.inTransitTo.isSome
  modifyTruck fun t ↦ { t with
    currentLocation := position.stopCity
    inTransitTo := none
    route := some route.routeId }
  match route.etaFinal with
  | none => pure (moved, false)
  | some etaFinal =>
    if position.stopCity = some route.endLocation ∧ etaFinal ≤ now then do
      let completionTime ← Program.lift (validateRouteEtaFinal route)
      let released ← releaseFinished now completionTime
      pure (moved, released)
    else pure (moved, false)

/-- Between stops the truck is where it came from and on its way to the next;
`world_state_reconciliation_service.py:414–438`. -/
def setTruckInTransit (truck : Truck) (route : DeliveryRoute) (position : RoutePosition) :
    CellAction Bool := do
  let moved := (position.fromCity.isSome && decide (truck.currentLocation ≠ position.fromCity)) ||
    decide (truck.inTransitTo ≠ position.toCity)
  modifyTruck fun t ↦ { t with
    currentLocation := if position.fromCity.isSome then position.fromCity else t.currentLocation
    inTransitTo := position.toCity
    route := some route.routeId }
  pure moved

/-- Repair a missing back-reference; `world_state_reconciliation_service.py:155–173`. -/
def checkRouteReference (truck : Truck) (route : DeliveryRoute) (now : Datetime) :
    CellAction (List Int × List ReconciliationEvent) := do
  match truck.route with
  | none => do
    modifyTruck fun t ↦ { t with route := some route.routeId }
    pure ([truck.vehicleId], [.truckRouteReference {
      truckId := truck.vehicleId
      previousRouteId := none
      newRouteId := route.routeId
      occurredAt := now }])
  | some routeId =>
    if routeId ≠ route.routeId then
      throw ⟨.runtimeError, s!"Route {route.routeId} references truck {truck.vehicleId}, " ++
        "but the truck does not reference that route."⟩
    else pure ([], [])

/-- Move the truck to the position of its route, saying whether it moved and whether it was
released; `world_state_reconciliation_service.py:185–215`. -/
def positionTruck (truck : Truck) (route : DeliveryRoute) (position : RoutePosition)
    (now : Datetime) : CellAction (Bool × Bool) := do
  match position.kind with
  | .unscheduled => do
    let moved ← setTruckUnscheduled truck
    pure (moved, false)
  | .beforeStart => do
    let moved ← setTruckBeforeStart truck route
    pure (moved, false)
  | .atStop => setTruckAtStop truck route position now
  | .inTransit => do
    let moved ← setTruckInTransit truck route position
    pure (moved, false)
  | .afterEnd => do
    let completionTime ← Program.lift (validateRouteEtaFinal route)
    let released ← releaseFinished now completionTime
    pure (false, released)

/-- Reconcile the truck of a route; `world_state_reconciliation_service.py:131–243`. -/
def reconcileTruckForRoute (now : Datetime) : CellAction TruckReconciliationSummary := do
  let cell ← get
  match cell.truck with
  | none => pure {}
  | some truck => do
    let (trucksReconciled, referenceEvents) ← checkRouteReference truck cell.route now
    let position := cell.route.currentPosition now
    let (moved, released) ← positionTruck truck cell.route position now
    let after ← get
    let afterLocation := after.truck.bind Truck.currentLocation
    let afterInTransitTo := after.truck.bind Truck.inTransitTo
    let positionChanged := decide (afterLocation ≠ truck.currentLocation) ||
      decide (afterInTransitTo ≠ truck.inTransitTo)
    pure {
      trucksMoved := if moved || positionChanged then [truck.vehicleId] else []
      trucksReleased := if released then [truck.vehicleId] else []
      trucksReconciled
      events := referenceEvents ++ if positionChanged then [.truckPosition {
        truckId := truck.vehicleId
        routeId := some cell.route.routeId
        previousLocation := truck.currentLocation
        newLocation := afterLocation
        previousInTransitTo := truck.inTransitTo
        newInTransitTo := afterInTransitTo
        positionKind := position.kind
        occurredAt := now }] else [] }

/-! ### Packages -/

/-- Known arrival times; `world_state_reconciliation_service.py:462–465`. The suppressed
`ValueError` is not a base class of the domain errors, so a failed lookup would propagate. -/
def stopTimes (route : DeliveryRoute) : Except PyError (List (LocationCode × Datetime)) :=
  match route.departureTime with
  | none => .ok []
  | some _ => route.locations.mapM fun city ↦ do
    let t ← route.arrivalTimeAt city
    .ok (city, t)

/-- The loop of `world_state_reconciliation_service.py:675–688`, over the cities from the pickup
to the delivery. -/
def lastReachedCity (times : List (LocationCode × Datetime)) (now : Datetime)
    (lastCity : LocationCode) : List LocationCode → LocationCode
  | [] => lastCity
  | city :: rest =>
    match times.lookup city with
    | none => lastCity
    | some cityTime => if now < cityTime then lastCity else lastReachedCity times now city rest

/-- Programs over one package. -/
abbrev PackageAction (α : Type) := Program PyError DeliveryPackage α

/-- Set status and location; `world_state_reconciliation_service.py:690–738`. Both
`_set_package_state` and `_restore_package_before_pickup` are this step. -/
def setPackageState (status : ItemStatus) (currentLocation : LocationCode) :
    PackageAction Bool := do
  let package ← get
  let changed := decide (package.status ≠ status) ||
    decide (package.currentLocation ≠ currentLocation)
  set { package with
    status
    storedLocation :=
      if package.currentLocation ≠ currentLocation then some currentLocation
      else package.storedLocation }
  pure changed

/-- Put a package back to its start, not yet picked up;
`world_state_reconciliation_service.py:719–738`. -/
def restorePackageBeforePickup : PackageAction Bool := do
  let package ← get
  setPackageState .todo package.startLocation

/-- Record an overdue pickup, saying whether there was one. -/
def pickUpIfTodo (pickupTime : Option Datetime) : PackageAction Bool := do
  let package ← get
  match package.status, pickupTime with
  | .todo, some pickupTime => do
    set (← Program.lift (package.markPickedUp pickupTime))
    pure true
  | _, _ => pure false

/-- Record an overdue delivery, saying whether there was one. -/
def deliverIfInProgress (deliveryTime : Datetime) : PackageAction Bool := do
  let package ← get
  match package.status with
  | .inProgress => do
    set (← Program.lift (package.markDelivered deliveryTime))
    pure true
  | _ => pure false

/-- Correct the location, saying whether it differed. -/
def moveTo (location : LocationCode) : PackageAction Bool := do
  let package ← get
  if package.currentLocation ≠ location then do
    set { package with storedLocation := some location }
    pure true
  else pure false

/-- Complete a delivery; `world_state_reconciliation_service.py:570–609`. -/
def completePackageLifecycle (pickupTime : Option Datetime) (deliveryTime : Datetime) :
    PackageAction (Bool × Option PackageReconciliationReason) := do
  let package ← get
  match package.status, pickupTime with
  | .todo, none => do
    let changed ← setPackageState .done package.endLocation
    pure (changed, some .missingPickupTime)
  | _, _ => do
    let pickedUp ← pickUpIfTodo pickupTime
    let delivered ← deliverIfInProgress deliveryTime
    let moved ← moveTo package.endLocation
    pure (pickedUp || delivered || moved, if moved then some .lifecycleStateInconsistent else none)

/-- Start the transport, saying whether that changed the status and what was corrected. -/
def startTransport (pickupTime : Option Datetime) :
    PackageAction (Bool × List PackageReconciliationReason) := do
  let package ← get
  match package.status, pickupTime with
  | .todo, some pickupTime => do
    set (← Program.lift (package.markPickedUp pickupTime))
    pure (true, [])
  | .inProgress, _ => pure (false, [])
  | _, _ => do
    set { package with status := .inProgress }
    pure (true, [.lifecycleStateInconsistent])

/-- Advance a package on its way; `world_state_reconciliation_service.py:611–646`. -/
def advancePackageInProgress (pickupTime : Option Datetime) (currentLocation : LocationCode) :
    PackageAction (Bool × List PackageReconciliationReason) := do
  let (changed, reasons) ← startTransport pickupTime
  let moved ← moveTo currentLocation
  pure (changed || moved, reasons ++ if moved then [.routeProgressAdvanced] else [])

/-- Recompute the cached arrival, saying whether it changed. -/
def setExpectedArrival (expectedArrival : Option Datetime) : PackageAction Bool := do
  let package ← get
  set { package with expectedArrival }
  pure (decide (package.expectedArrival ≠ expectedArrival))

/-- A package of a route without a schedule for it;
`world_state_reconciliation_service.py:479–502`. -/
def clearPackage (reason : PackageReconciliationReason) :
    PackageAction (Bool × List PackageReconciliationReason) := do
  let restored ← restorePackageBeforePickup
  let cleared ← setExpectedArrival none
  pure (restored || cleared,
    (if cleared then [.expectedArrivalRecalculated] else []) ++
      (if restored || cleared then [reason] else []))

/-- The branch of `world_state_reconciliation_service.py:506–535` that the clock selects. -/
def placePackage (startTime endTime : Option Datetime) (lastCity : LocationCode)
    (now : Datetime) : PackageAction (Bool × List PackageReconciliationReason) :=
  if startTime.any (now < ·) then do
    let changed ← restorePackageBeforePickup
    pure (changed, if changed then [.beforeScheduledPickup] else [])
  else
    match endTime.filter (· ≤ now) with
    | some deliveryTime => do
      let (changed, reason) ← completePackageLifecycle startTime deliveryTime
      pure (changed, reason.toList)
    | none => advancePackageInProgress startTime lastCity

/-- A package whose pickup and delivery the route visits in order;
`world_state_reconciliation_service.py:503–543`. -/
def schedulePackage (route : DeliveryRoute) (times : List (LocationCode × Datetime))
    (path : List LocationCode) (now : Datetime) :
    PackageAction (Bool × List PackageReconciliationReason) := do
  let package ← get
  let (changed, reasons) ← placePackage (times.lookup package.startLocation)
    (times.lookup package.endLocation) (lastReachedCity times now package.startLocation path) now
  let expectedArrival ← Program.lift (route.arrivalTimeAt package.endLocation)
  let recalculated ← setExpectedArrival (some expectedArrival)
  pure (changed || recalculated,
    reasons ++ if recalculated then [.expectedArrivalRecalculated] else [])

/-- Positions of pickup and drop-off, where the route has both in order;
`world_state_reconciliation_service.py:467,491`. -/
def packageRange (route : DeliveryRoute) (package : DeliveryPackage) : Option (Nat × Nat) :=
  match route.plan.path.posIndex package.startLocation,
      route.plan.path.posIndex package.endLocation with
  | some i, some j => if i ≤ j then some (i, j) else none
  | _, _ => none

/-- The three branches over the schedule; `world_state_reconciliation_service.py:479–543`. -/
def updatePackageState (route : DeliveryRoute) (times : List (LocationCode × Datetime))
    (now : Datetime) : PackageAction (Bool × List PackageReconciliationReason) := do
  let package ← get
  match route.departureTime, packageRange route package with
  | none, _ => clearPackage .routeUnscheduled
  | some _, none => clearPackage .routePathInvalid
  | some _, some (i, j) =>
    schedulePackage route times ((route.locations.drop i).take (j + 1 - i)) now

/-- The event about a package, if there are reasons for one;
`world_state_reconciliation_service.py:548–566`. -/
def packageEvents (route : DeliveryRoute) (times : List (LocationCode × Datetime))
    (now : Datetime) (before after : DeliveryPackage)
    (reasons : List PackageReconciliationReason) : Except PyError (List ReconciliationEvent) :=
  let scheduled := route.departureTime.isSome && (packageRange route before).isSome
  if reasons = [] then .ok []
  else do
    let event ← PackageStateReconciled.check {
      packageId := before.packageId
      routeId := some route.routeId
      previousStatus := before.status
      newStatus := after.status
      previousLocation := before.currentLocation
      newLocation := after.currentLocation
      previousExpectedArrival := before.expectedArrival
      newExpectedArrival := after.expectedArrival
      scheduledPickupTime := if scheduled then times.lookup before.startLocation else none
      scheduledDeliveryTime := if scheduled then times.lookup before.endLocation else none
      reasons
      occurredAt := now }
    .ok [.packageState event]

/-- One pass over a package; `world_state_reconciliation_service.py:469–568`. -/
def updatePackage (route : DeliveryRoute) (times : List (LocationCode × Datetime))
    (now : Datetime) : PackageAction (List Int × List ReconciliationEvent) := do
  let before ← get
  let (changed, reasons) ← updatePackageState route times now
  let after ← get
  let events ← Program.lift (packageEvents route times now before after reasons)
  pure (if changed then [before.packageId] else [], events)

/-- Reconcile all packages of the route; `world_state_reconciliation_service.py:440–568`. -/
def updatePackagesForRoute (now : Datetime) : CellAction (List Int × List ReconciliationEvent) := do
  let cell ← get
  let times ← Program.lift (stopTimes cell.route)
  let results ← Program.zoom RouteCell.packages (fun packages cell ↦ { cell with packages })
    (Program.each (updatePackage cell.route times now))
  pure (results.flatMap Prod.fst, results.flatMap Prod.snd)

/-! ### One route -/

/-- The guarded body of the loop; `world_state_reconciliation_service.py:80–94`. -/
def reconcileBody (now : Datetime) (updateTrucks : Bool) : CellAction RouteChanges := do
  let (routeChanged, routeEvents) ← reconcileStatus now
  let trucks ← if updateTrucks then reconcileTruckForRoute now else pure {}
  let (packagesUpdated, packageEvents) ← updatePackagesForRoute now
  pure {
    routeChanged
    trucks
    packagesUpdated
    events := routeEvents ++ trucks.events ++ packageEvents }

/-- The handler, which puts back every snapshot; `world_state_reconciliation_service.py:95–110`. -/
def restoreCell (before : RouteCell) : CellAction PUnit := do
  let cell ← get
  let route ← Program.lift (cell.route.restoreState before.route.snapshotState)
  let routeEvents ← Program.lift (restoreEventCheckpoint route.pendingEvents
    (eventCheckpoint before.route.pendingEvents))
  let packages ← Program.lift ((before.packages.zip cell.packages).mapM fun (old, package) ↦ do
    let restored := package.restoreState old.snapshotState
    let pendingEvents ← restoreEventCheckpoint restored.pendingEvents
      (eventCheckpoint old.pendingEvents)
    .ok { restored with pendingEvents })
  let truck := match before.truck, cell.truck with
    | some old, some truck => some (truck.restoreState old.snapshotState)
    | _, truck => truck
  set { route := { route with pendingEvents := routeEvents }, truck, packages : RouteCell }

/-- One pass of the loop: the changes, or nothing when the route was restored and skipped;
`world_state_reconciliation_service.py:65–120`. -/
def reconcileRoute (now : Datetime) (updateTrucks : Bool) : CellAction (Option RouteChanges) := do
  let before ← get
  tryCatch (some <$> reconcileBody now updateTrucks) fun _ ↦ do
    restoreCell before
    pure none

end Reconciler
end FleetFlow
