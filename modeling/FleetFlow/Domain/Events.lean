import FleetFlow.Base.Datetime
import FleetFlow.Domain.Locations

/-!
# Status values and domain events

Follows `domain/enums/` and `domain/events/`. The random event id and the
wall-clock recording time of `shared/event.py` are left out: no modelled function
reads them.
-/

namespace FleetFlow

/-- Package statuses; `domain/enums/item_status.py`. -/
inductive ItemStatus where
  | todo
  | inProgress
  | done
deriving DecidableEq, Repr

/-- Stored text of a package status. -/
def ItemStatus.value : ItemStatus → String
  | .todo => "To Do"
  | .inProgress => "In Progress"
  | .done => "Done"

/-- Route statuses; `domain/enums/route_status.py`. -/
inductive RouteStatus where
  | planned
  | scheduled
  | inProgress
  | completed
deriving DecidableEq, Repr

/-- Stored text of a route status. -/
def RouteStatus.value : RouteStatus → String
  | .planned => "PLANNED"
  | .scheduled => "SCHEDULED"
  | .inProgress => "IN_PROGRESS"
  | .completed => "COMPLETED"

/-- Truck statuses; `domain/enums/truck_status.py`. -/
inductive TruckStatus where
  | free
  | onTheWay
deriving DecidableEq, Repr

/-- Stored text of a truck status. -/
def TruckStatus.value : TruckStatus → String
  | .free => "Free"
  | .onTheWay => "On the way"

/-- Supported truck models; `domain/enums/truck_model.py`. -/
inductive TruckModel where
  | scania
  | man
  | actros
deriving DecidableEq, Repr

/-- Why a truck left a route; `domain/enums/truck_release_reasons.py`. -/
inductive TruckReleaseReason where
  | routeCompleted
  | routeRemoved
deriving DecidableEq, Repr

/-- Why a package left a route; `domain/enums/package_detachment_reasons.py`. -/
inductive PackageDetachmentReason where
  | packageRemoved
  | routeRemoved
deriving DecidableEq, Repr

/-! ### Events; `domain/events/` -/

structure CustomerCreated where
  customerId : Int
  occurredAt : Datetime
deriving DecidableEq, Repr

structure PackageCreated where
  packageId : Int
  customerId : Int
  startLocation : LocationCode
  endLocation : LocationCode
  weight : Rat
  initialStatus : ItemStatus
  initialLocation : LocationCode
  expectedArrival : Option Datetime
  occurredAt : Datetime
deriving DecidableEq, Repr

structure PackageRemoved where
  packageId : Int
  customerId : Int
  previousRouteId : Option Int
  previousStatus : ItemStatus
  previousLocation : LocationCode
  startLocation : LocationCode
  endLocation : LocationCode
  weight : Rat
  previousExpectedArrival : Option Datetime
  occurredAt : Datetime
deriving DecidableEq, Repr

/-- Shared shape of `PackagePickedUp` and `PackageDelivered`. -/
structure PackageProgressed where
  packageId : Int
  routeId : Int
  previousStatus : ItemStatus
  newStatus : ItemStatus
  previousLocation : LocationCode
  newLocation : LocationCode
  scheduledArrival : Option Datetime
  occurredAt : Datetime
deriving DecidableEq, Repr

structure RouteCreated where
  routeId : Int
  locations : List LocationCode
  departureTime : Option Datetime
  initialStatus : RouteStatus
  expectedCompletionTime : Option Datetime
  occurredAt : Datetime
deriving DecidableEq, Repr

structure RouteScheduled where
  routeId : Int
  previousStatus : RouteStatus
  newStatus : RouteStatus
  previousDepartureTime : Option Datetime
  newDepartureTime : Datetime
  previousExpectedCompletionTime : Option Datetime
  newExpectedCompletionTime : Datetime
  occurredAt : Datetime
deriving DecidableEq, Repr

structure RouteStarted where
  routeId : Int
  previousStatus : RouteStatus
  newStatus : RouteStatus
  occurredAt : Datetime
deriving DecidableEq, Repr

structure RouteCompleted where
  routeId : Int
  previousStatus : RouteStatus
  newStatus : RouteStatus
  departureTime : Datetime
  expectedCompletionTime : Datetime
  occurredAt : Datetime
deriving DecidableEq, Repr

structure RouteRemoved where
  routeId : Int
  previousStatus : RouteStatus
  previousLocations : List LocationCode
  previousDepartureTime : Option Datetime
  previousExpectedCompletionTime : Option Datetime
  detachedPackageIds : List Int
  releasedTruckId : Option Int
  occurredAt : Datetime
deriving DecidableEq, Repr

structure PackageAssignedToRoute where
  packageId : Int
  previousRouteId : Option Int
  newRouteId : Int
  previousExpectedArrival : Option Datetime
  newExpectedArrival : Option Datetime
  occurredAt : Datetime
deriving DecidableEq, Repr

structure PackageDetachedFromRoute where
  packageId : Int
  previousRouteId : Int
  newRouteId : Option Int
  previousStatus : ItemStatus
  newStatus : ItemStatus
  previousLocation : LocationCode
  newLocation : LocationCode
  previousExpectedArrival : Option Datetime
  newExpectedArrival : Option Datetime
  reason : PackageDetachmentReason
  occurredAt : Datetime
deriving DecidableEq, Repr

structure TruckAssignedToRoute where
  truckId : Int
  previousRouteId : Option Int
  newRouteId : Int
  previousStatus : TruckStatus
  newStatus : TruckStatus
  previousLocation : LocationCode
  newLocation : LocationCode
  previousBusyFrom : Option Datetime
  newBusyFrom : Option Datetime
  previousBusyUntil : Option Datetime
  newBusyUntil : Option Datetime
  occurredAt : Datetime
deriving DecidableEq, Repr

structure TruckReleasedFromRoute where
  truckId : Int
  previousRouteId : Int
  newRouteId : Option Int
  previousStatus : TruckStatus
  newStatus : TruckStatus
  previousLocation : LocationCode
  newLocation : LocationCode
  previousBusyFrom : Option Datetime
  newBusyFrom : Option Datetime
  previousBusyUntil : Option Datetime
  newBusyUntil : Option Datetime
  reason : TruckReleaseReason
  occurredAt : Datetime
deriving DecidableEq, Repr

/-- Events that entities record; `domain/events/`. -/
inductive DomainEvent where
  | customerCreated (event : CustomerCreated)
  | packageCreated (event : PackageCreated)
  | packageRemoved (event : PackageRemoved)
  | packagePickedUp (event : PackageProgressed)
  | packageDelivered (event : PackageProgressed)
  | routeCreated (event : RouteCreated)
  | routeScheduled (event : RouteScheduled)
  | routeStarted (event : RouteStarted)
  | routeCompleted (event : RouteCompleted)
  | routeRemoved (event : RouteRemoved)
  | packageAssignedToRoute (event : PackageAssignedToRoute)
  | packageDetachedFromRoute (event : PackageDetachedFromRoute)
  | truckAssignedToRoute (event : TruckAssignedToRoute)
  | truckReleasedFromRoute (event : TruckReleasedFromRoute)
deriving DecidableEq, Repr

/-- Position to which a recorder's pending events can be cut back;
`shared/event_recorder_mixin.py`. -/
def eventCheckpoint (pendingEvents : List DomainEvent) : Nat := pendingEvents.length

/-- Cut pending events back to a checkpoint; `shared/event_recorder_mixin.py`. -/
def restoreEventCheckpoint (pendingEvents : List DomainEvent) (checkpoint : Nat) :
    Except PyError (List DomainEvent) :=
  if checkpoint ≤ pendingEvents.length then .ok (pendingEvents.take checkpoint)
  else .error ⟨.valueError, "Invalid checkpoint value."⟩

/-- Cutting back to a checkpoint removes exactly what was recorded since. -/
theorem restoreEventCheckpoint_append (before since : List DomainEvent) :
    restoreEventCheckpoint (before ++ since) (eventCheckpoint before) = .ok before := by
  simp [restoreEventCheckpoint, eventCheckpoint]

end FleetFlow
