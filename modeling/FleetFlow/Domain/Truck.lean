import FleetFlow.Domain.DeliveryRoute

/-!
# Trucks

Follows `domain/entities/truck.py`. The reference to the assigned route is a parameter
type: inside one world it is the route's id, and while a world is being replaced it also
says which of the two worlds the route object belongs to.
-/

namespace FleetFlow

/-- A fleet vehicle; `domain/entities/truck.py:30–55`. -/
structure Truck (ρ : Type := Int) where
  vehicleId : Int
  name : TruckModel
  capacity : Int
  maxRange : Int
  status : TruckStatus
  currentLocation : Option LocationCode
  route : Option ρ
  busyFrom : Option Datetime
  busyUntil : Option Datetime
  inTransitTo : Option LocationCode
  valid : 0 < vehicleId ∧ 0 < capacity ∧ 0 < maxRange
deriving DecidableEq

/-- Captured mutable truck state; `domain/entities/truck.py:18–27`. -/
structure TruckStateSnapshot (ρ : Type := Int) where
  route : Option ρ
  status : TruckStatus
  currentLocation : Option LocationCode
  busyFrom : Option Datetime
  busyUntil : Option Datetime
  inTransitTo : Option LocationCode
deriving DecidableEq

namespace Truck

variable {ρ : Type}

/-- Construct a free truck without a location; `domain/entities/truck.py:33–55`. -/
def new (vehicleId : Int) (name : TruckModel) (capacity maxRange : Int) :
    Except PyError (Truck ρ) := do
  requirePositiveInt vehicleId "vehicle_id"
  requirePositiveInt capacity "capacity"
  requirePositiveInt maxRange "max_range"
  if h : 0 < vehicleId ∧ 0 < capacity ∧ 0 < maxRange then
    .ok {
      vehicleId, name, capacity, maxRange
      status := .free
      currentLocation := none
      route := none
      busyFrom := none
      busyUntil := none
      inTransitTo := none
      valid := h }
  else .error ⟨.assertionError, "The three checks passed."⟩

/-- Capture the mutable state; `domain/entities/truck.py:75–88`. -/
def snapshotState (truck : Truck ρ) : TruckStateSnapshot ρ where
  route := truck.route
  status := truck.status
  currentLocation := truck.currentLocation
  busyFrom := truck.busyFrom
  busyUntil := truck.busyUntil
  inTransitTo := truck.inTransitTo

/-- Restore a captured state; `domain/entities/truck.py:90–101`. -/
def restoreState (truck : Truck ρ) (snapshot : TruckStateSnapshot ρ) : Truck ρ :=
  { truck with
    route := snapshot.route
    status := snapshot.status
    currentLocation := snapshot.currentLocation
    busyFrom := snapshot.busyFrom
    busyUntil := snapshot.busyUntil
    inTransitTo := snapshot.inTransitTo }

/-- Whether the truck can take a route; `domain/entities/truck.py:103–109`. -/
def isFree (truck : Truck ρ) : Bool := decide (truck.status = .free)

/-- Record the assignment window; `domain/entities/truck.py:111–121`. -/
def assign (truck : Truck) (route : DeliveryRoute) : Truck :=
  { truck with
    route := some route.routeId
    status := .onTheWay
    busyFrom := route.departureTime
    busyUntil := route.etaFinal
    inTransitTo := none }

/-- Mark the truck free. -/
def free (truck : Truck ρ) : Truck ρ :=
  { truck with
    route := none
    status := .free
    inTransitTo := none
    busyFrom := none
    busyUntil := none }

/-- Finish the current route; `domain/entities/truck.py:123–156`. `assigned` is the object that
`truck.route` refers to. Returns whether a route was released. -/
def release (truck : Truck ρ) (assigned : Option DeliveryRoute) (now : Datetime) (force : Bool) :
    Truck ρ × Bool :=
  match assigned with
  | none => (truck.free, false)
  | some route =>
    let due := match route.etaFinal with
      | none => false
      | some eta => decide (eta ≤ now)
    if force || due then ({ truck with currentLocation := some route.endLocation }.free, true)
    else (truck, false)

/-- An idle truck at an allowed place. -/
structure Idle (allowed : Option LocationCode → Prop) (truck : Truck ρ) : Prop where
  status : truck.status = .free
  route : truck.route = none
  busy : truck.busyFrom = none ∧ truck.busyUntil = none
  inTransitTo : truck.inTransitTo = none
  place : allowed truck.currentLocation

/-- A weaker condition on the place. -/
theorem Idle.imp {allowed allowed' : Option LocationCode → Prop} {truck : Truck ρ}
    (h : truck.Idle allowed) (hp : ∀ place, allowed place → allowed' place) :
    truck.Idle allowed' :=
  ⟨h.status, h.route, h.busy, h.inTransitTo, hp _ h.place⟩

/-- The part of a truck that no operation changes. -/
structure SameVehicle {σ : Type} (a : Truck ρ) (b : Truck σ) : Prop where
  vehicleId : a.vehicleId = b.vehicleId
  name : a.name = b.name
  capacity : a.capacity = b.capacity
  maxRange : a.maxRange = b.maxRange

/-- A truck is the same vehicle as itself. -/
theorem SameVehicle.refl (t : Truck ρ) : t.SameVehicle t := ⟨rfl, rfl, rfl, rfl⟩

/-- Being the same vehicle composes. -/
theorem SameVehicle.trans {a b c : Truck ρ} (h1 : a.SameVehicle b) (h2 : b.SameVehicle c) :
    a.SameVehicle c :=
  ⟨h1.vehicleId.trans h2.vehicleId, h1.name.trans h2.name, h1.capacity.trans h2.capacity,
    h1.maxRange.trans h2.maxRange⟩

theorem SameVehicle.symm {a b : Truck ρ} (h : a.SameVehicle b) : b.SameVehicle a :=
  ⟨h.vehicleId.symm, h.name.symm, h.capacity.symm, h.maxRange.symm⟩

/-- Releasing a truck keeps the vehicle. -/
theorem sameVehicle_release (truck : Truck ρ) (assigned : Option DeliveryRoute) (now : Datetime)
    (force : Bool) : truck.SameVehicle (truck.release assigned now force).1 := by
  unfold release
  split
  · exact ⟨rfl, rfl, rfl, rfl⟩
  · next route =>
    dsimp only
    cases force || (match route.etaFinal with
      | none => false
      | some eta => decide (eta ≤ now)) <;> exact ⟨rfl, rfl, rfl, rfl⟩

/-- A truck is restored by its snapshot. -/
theorem restoreState_eq_of_same {a b : Truck ρ} (h : a.SameVehicle b) :
    b.restoreState a.snapshotState = a := by
  obtain ⟨h1, h2, h3, h4⟩ := h
  cases a
  cases b
  simp_all [restoreState, snapshotState]

/-- Construction succeeds exactly with the free truck of the given positive numbers. -/
theorem new_eq_ok_iff {vehicleId : Int} {name : TruckModel} {capacity maxRange : Int}
    {truck : Truck ρ} : new vehicleId name capacity maxRange = .ok truck ↔
      truck.vehicleId = vehicleId ∧ truck.name = name ∧ truck.capacity = capacity ∧
        truck.maxRange = maxRange ∧ truck.status = .free ∧ truck.currentLocation = none ∧
        truck.route = none ∧ truck.busyFrom = none ∧ truck.busyUntil = none ∧
        truck.inTransitTo = none := by
  have hv := truck.valid
  obtain ⟨id, nm, cap, range, st, loc, rt, bf, bu, tr, valid⟩ := truck
  simp only [new, requirePositiveInt, require_bind_eq_ok_iff]
  constructor
  · rintro ⟨h1, h2, h3, h⟩
    rw [dif_pos ⟨by omega, by omega, by omega⟩] at h
    simp only [Except.ok.injEq, Truck.mk.injEq] at h
    obtain ⟨rfl, rfl, rfl, rfl, rfl, rfl, rfl, rfl, rfl, rfl⟩ := h
    exact ⟨rfl, rfl, rfl, rfl, rfl, rfl, rfl, rfl, rfl, rfl⟩
  · rintro ⟨rfl, rfl, rfl, rfl, rfl, rfl, rfl, rfl, rfl, rfl⟩
    refine ⟨by omega, by omega, by omega, ?_⟩
    rw [dif_pos valid]

end Truck
end FleetFlow
