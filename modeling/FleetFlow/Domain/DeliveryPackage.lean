import FleetFlow.Base.Validation
import FleetFlow.Domain.Events

/-!
# Delivery packages

Follows `domain/entities/delivery_package.py`. References to the customer and the route are
their ids. A lifecycle method that raises does so before its first write, so it returns the
changed package or the error.
-/

namespace FleetFlow

namespace DeliveryPackage

/-- Location checks; `domain/entities/delivery_package.py:80–87`. -/
def validateLocations (startLocation endLocation : LocationCode) : Except PyError Unit := do
  require (startLocation ∈ Map.locations)
    ⟨.domainValidation, s!"Invalid start location: {startLocation}"⟩
  require (endLocation ∈ Map.locations)
    ⟨.domainValidation, s!"Invalid end location: {endLocation}"⟩
  require (startLocation ≠ endLocation)
    ⟨.domainValidation, "Start and end locations must be different."⟩

/-- Constructor checks, returning the normalized weight; `domain/entities/delivery_package.py:66–77`. -/
def check (packageId : Int) (startLocation endLocation : LocationCode) (weight : PyFloat) :
    Except PyError Rat := do
  requirePositiveInt packageId "package_id"
  validateLocations startLocation endLocation
  requirePositiveFiniteFloat weight "weight"

/-- Arguments pass exactly when the id and the weight are positive and the two locations are
different supported ones. -/
theorem check_eq_ok_iff {packageId : Int} {startLocation endLocation : LocationCode}
    {weight : PyFloat} {w : Rat} :
    check packageId startLocation endLocation weight = .ok w ↔
      0 < packageId ∧ startLocation ∈ Map.locations ∧ endLocation ∈ Map.locations ∧
        startLocation ≠ endLocation ∧ weight = .finite w ∧ 0 < w := by
  simp only [check, validateLocations, requirePositiveInt, bind_assoc, require_bind_eq_ok_iff,
    requirePositiveFiniteFloat_eq_ok_iff, ne_eq,
    show ((1 : Int) ≤ packageId ↔ 0 < packageId) from by omega]

end DeliveryPackage

/-- A shipment from pickup to delivery; `domain/entities/delivery_package.py:38–78`.
`storedLocation` is the attribute `_current_location`. -/
structure DeliveryPackage where
  packageId : Int
  startLocation : LocationCode
  endLocation : LocationCode
  weight : Rat
  customer : Int
  route : Option Int
  routeId : Option Int
  storedLocation : Option LocationCode
  expectedArrival : Option Datetime
  status : ItemStatus
  pendingEvents : List DomainEvent
  valid : DeliveryPackage.check packageId startLocation endLocation (.finite weight) = .ok weight
deriving DecidableEq

/-- Captured mutable package state; `domain/entities/delivery_package.py:28–35`. -/
structure DeliveryPackageStateSnapshot where
  route : Option Int
  routeId : Option Int
  status : ItemStatus
  currentLocation : Option LocationCode
  expectedArrival : Option Datetime
deriving DecidableEq, Repr

namespace DeliveryPackage

/-- Construct an unassigned package; `domain/entities/delivery_package.py:41–78`. -/
def new (startLocation endLocation : LocationCode) (weight : PyFloat) (customer packageId : Int) :
    Except PyError DeliveryPackage :=
  match h : check packageId startLocation endLocation weight with
  | .ok w => .ok {
      packageId, startLocation, endLocation, weight := w, customer
      route := none
      routeId := none
      storedLocation := some startLocation
      expectedArrival := none
      status := .todo
      pendingEvents := []
      valid := by
        obtain ⟨h1, h2, h3, h4, -, h6⟩ := check_eq_ok_iff.mp h
        exact check_eq_ok_iff.mpr ⟨h1, h2, h3, h4, rfl, h6⟩ }
  | .error e => .error e

/-- Effective location; `domain/entities/delivery_package.py:110–112`. -/
def currentLocation (package : DeliveryPackage) : LocationCode :=
  package.storedLocation.getD package.startLocation

/-- Set both halves of the route reference; `domain/entities/delivery_package.py:99–102`. -/
def setRoute (package : DeliveryPackage) (value : Option Int) : DeliveryPackage :=
  { package with route := value, routeId := value }

/-- Buffer one event; `shared/event_recorder_mixin.py`. -/
def recordEvent (package : DeliveryPackage) (event : DomainEvent) : DeliveryPackage :=
  { package with pendingEvents := package.pendingEvents ++ [event] }

/-- Construct a package and record its creation; `domain/entities/delivery_package.py:119–172`. -/
def create (startLocation endLocation : LocationCode) (weight : PyFloat)
    (customer packageId : Int) (occurredAt : Datetime) : Except PyError DeliveryPackage := do
  let package ← new startLocation endLocation weight customer packageId
  .ok (package.recordEvent (.packageCreated {
    packageId := package.packageId
    customerId := package.customer
    startLocation := package.startLocation
    endLocation := package.endLocation
    weight := package.weight
    initialStatus := package.status
    initialLocation := package.currentLocation
    expectedArrival := package.expectedArrival
    occurredAt }))

/-- The assigned route; `domain/entities/delivery_package.py:277–281`. -/
def requireRouteId (package : DeliveryPackage) : Except PyError Int :=
  match package.routeId with
  | some routeId => .ok routeId
  | none =>
    .error ⟨.businessRuleViolation, s!"Package {package.packageId} is not assigned to a route."⟩

/-- Shared shape of the pickup and the delivery: a status step with a location and one event. -/
def progress (package : DeliveryPackage) (verb : String) (fromStatus toStatus : ItemStatus)
    (newLocation : LocationCode) (event : PackageProgressed → DomainEvent)
    (occurredAt : Datetime) : Except PyError DeliveryPackage := do
  let routeId ← package.requireRouteId
  require (package.status = fromStatus) ⟨.businessRuleViolation,
    s!"Cannot mark package {package.packageId} as {verb} because its status is {package.status.value}."⟩
  .ok ({ package with status := toStatus, storedLocation := some newLocation }.recordEvent (event {
    packageId := package.packageId
    routeId
    previousStatus := package.status
    newStatus := toStatus
    previousLocation := package.currentLocation
    newLocation
    scheduledArrival := package.expectedArrival
    occurredAt }))

/-- Record the pickup; `domain/entities/delivery_package.py:174–207`. -/
def markPickedUp (package : DeliveryPackage) (occurredAt : Datetime) :
    Except PyError DeliveryPackage :=
  package.progress "picked up" .todo .inProgress package.startLocation .packagePickedUp occurredAt

/-- Record the delivery; `domain/entities/delivery_package.py:209–242`. -/
def markDelivered (package : DeliveryPackage) (occurredAt : Datetime) :
    Except PyError DeliveryPackage :=
  package.progress "delivered" .inProgress .done package.endLocation .packageDelivered occurredAt

/-- Record the removal; `domain/entities/delivery_package.py:244–275`. -/
def recordRemoval (package : DeliveryPackage) (previousRouteId : Option Int)
    (previousStatus : ItemStatus) (previousLocation : LocationCode)
    (previousExpectedArrival : Option Datetime) (occurredAt : Datetime) : DeliveryPackage :=
  package.recordEvent (.packageRemoved {
    packageId := package.packageId
    customerId := package.customer
    previousRouteId
    previousStatus
    previousLocation
    startLocation := package.startLocation
    endLocation := package.endLocation
    weight := package.weight
    previousExpectedArrival
    occurredAt })

/-- Capture the mutable state; `domain/entities/delivery_package.py:283–295`. -/
def snapshotState (package : DeliveryPackage) : DeliveryPackageStateSnapshot where
  route := package.route
  routeId := package.routeId
  status := package.status
  currentLocation := package.storedLocation
  expectedArrival := package.expectedArrival

/-- Restore a captured state; `domain/entities/delivery_package.py:297–307`. -/
def restoreState (package : DeliveryPackage) (snapshot : DeliveryPackageStateSnapshot) :
    DeliveryPackage :=
  { package with
    route := snapshot.route
    routeId := snapshot.routeId
    status := snapshot.status
    storedLocation := snapshot.currentLocation
    expectedArrival := snapshot.expectedArrival }

/-- Forget the assignment; `domain/entities/delivery_package.py:309–314`. -/
def resetAssignmentState (package : DeliveryPackage) : DeliveryPackage :=
  { package.setRoute none with
    expectedArrival := none
    status := .todo
    storedLocation := some package.startLocation }

/-! ### What a package carries -/

variable (package : DeliveryPackage)

theorem packageId_pos : 0 < package.packageId := (check_eq_ok_iff.mp package.valid).1

theorem startLocation_mem : package.startLocation ∈ Map.locations :=
  (check_eq_ok_iff.mp package.valid).2.1

theorem endLocation_mem : package.endLocation ∈ Map.locations :=
  (check_eq_ok_iff.mp package.valid).2.2.1

theorem startLocation_ne_endLocation : package.startLocation ≠ package.endLocation :=
  (check_eq_ok_iff.mp package.valid).2.2.2.1

theorem weight_pos : 0 < package.weight := (check_eq_ok_iff.mp package.valid).2.2.2.2.2

/-- The part of a package that no operation changes. -/
structure SameShipment (a b : DeliveryPackage) : Prop where
  packageId : a.packageId = b.packageId
  startLocation : a.startLocation = b.startLocation
  endLocation : a.endLocation = b.endLocation
  weight : a.weight = b.weight
  customer : a.customer = b.customer

/-- A package whose events only grew is restored by its snapshot and its checkpoint. -/
theorem restoreState_eq_of_same {a b : DeliveryPackage} (h : a.SameShipment b)
    {events : List DomainEvent} (he : events = a.pendingEvents) :
    { b.restoreState a.snapshotState with pendingEvents := events } = a := by
  subst he
  obtain ⟨h1, h2, h3, h4, h5⟩ := h
  cases a
  cases b
  simp_all [restoreState, snapshotState]

/-- A new package waits at its pickup location. -/
theorem new_eq_ok {startLocation endLocation : LocationCode} {weight : PyFloat}
    {customer packageId : Int} {p : DeliveryPackage}
    (h : new startLocation endLocation weight customer packageId = .ok p) :
    p.packageId = packageId ∧ p.startLocation = startLocation ∧ p.endLocation = endLocation ∧
      weight = .finite p.weight ∧ p.customer = customer ∧ p.route = none ∧ p.routeId = none ∧
      p.storedLocation = some startLocation ∧ p.expectedArrival = none ∧ p.status = .todo ∧
      p.pendingEvents = [] := by
  unfold new at h
  split at h
  · next w hw =>
    rw [Except.ok.injEq] at h
    subst h
    obtain ⟨-, -, -, -, hf, -⟩ := check_eq_ok_iff.mp hw
    exact ⟨rfl, rfl, rfl, hf, rfl, rfl, rfl, rfl, rfl, rfl, rfl⟩
  · cases h

/-- Construction succeeds on arguments that pass the checks. -/
theorem exists_new_of_check {startLocation endLocation : LocationCode} {weight : PyFloat}
    {customer packageId : Int} {w : Rat}
    (h : check packageId startLocation endLocation weight = .ok w) :
    ∃ p, new startLocation endLocation weight customer packageId = .ok p := by
  unfold new
  split
  · exact ⟨_, rfl⟩
  · next e he =>
    rw [he] at h
    cases h

end DeliveryPackage
end FleetFlow
