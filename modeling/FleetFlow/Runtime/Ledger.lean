import FleetFlow.Runtime.Reconciliation
import Mathlib.Logic.Function.Basic

/-!
# What the event record says

An abstract account of a world: for every id, the observable fields of the route, package or
truck behind it. Each recorded event sets the fields that its `new_*` attributes name, so a
record of events is replayed by folding over the account.
-/

namespace FleetFlow

/-- An event as it is recorded: buffered on an entity, or added to the summary of a heartbeat. -/
inductive Entry where
  | domain (event : DomainEvent)
  | reconciliation (event : ReconciliationEvent)
deriving DecidableEq, Repr

/-- Observable fields of a package. -/
structure PackageView where
  route : Option Int
  status : ItemStatus
  location : LocationCode
  expectedArrival : Option Datetime
deriving DecidableEq, Repr

/-- Observable fields of a route. -/
structure RouteView where
  status : RouteStatus
  departureTime : Option Datetime
  truck : Option Int
  packages : List Int
deriving DecidableEq, Repr

/-- Observable fields of a truck. -/
structure TruckView where
  status : TruckStatus
  location : Option LocationCode
  busyFrom : Option Datetime
  busyUntil : Option Datetime
  inTransitTo : Option LocationCode
  route : Option Int
deriving DecidableEq, Repr

/-- What is known of every route, package and truck. -/
@[ext] structure Ledger where
  packages : Int → Option PackageView
  routes : Int → Option RouteView
  trucks : Int → Option TruckView

namespace Ledger

variable (l : Ledger)

/-- Enter the fields of a package. -/
def putPackage (p : Int) (v : PackageView) : Ledger :=
  { l with packages := Function.update l.packages p (some v) }

/-- Enter the fields of a route. -/
def putRoute (r : Int) (v : RouteView) : Ledger :=
  { l with routes := Function.update l.routes r (some v) }

/-- Enter the fields of a truck. -/
def putTruck (t : Int) (v : TruckView) : Ledger :=
  { l with trucks := Function.update l.trucks t (some v) }

/-- Strike out a package. -/
def dropPackage (p : Int) : Ledger := { l with packages := Function.update l.packages p none }

/-- Strike out a route. -/
def dropRoute (r : Int) : Ledger := { l with routes := Function.update l.routes r none }

/-- Change the fields of a known package. -/
def editPackage (p : Int) (f : PackageView → PackageView) : Ledger :=
  { l with packages := Function.update l.packages p ((l.packages p).map f) }

/-- Change the fields of a known route. -/
def editRoute (r : Int) (f : RouteView → RouteView) : Ledger :=
  { l with routes := Function.update l.routes r ((l.routes r).map f) }

/-- Change the fields of a known truck. -/
def editTruck (t : Int) (f : TruckView → TruckView) : Ledger :=
  { l with trucks := Function.update l.trucks t ((l.trucks t).map f) }

/-- Replay a domain event. A release also ends the transit. -/
def applyDomain : DomainEvent → Ledger
  | .customerCreated _ => l
  | .packageCreated e => l.putPackage e.packageId
      ⟨none, e.initialStatus, e.initialLocation, e.expectedArrival⟩
  | .packageRemoved e => l.dropPackage e.packageId
  | .packagePickedUp e | .packageDelivered e => l.editPackage e.packageId fun v ↦
      { v with status := e.newStatus, location := e.newLocation }
  | .routeCreated e => l.putRoute e.routeId ⟨e.initialStatus, e.departureTime, none, []⟩
  | .routeScheduled e => l.editRoute e.routeId fun v ↦
      { v with status := e.newStatus, departureTime := some e.newDepartureTime }
  | .routeStarted e => l.editRoute e.routeId fun v ↦ { v with status := e.newStatus }
  | .routeCompleted e => l.editRoute e.routeId fun v ↦ { v with status := e.newStatus }
  | .routeRemoved e => l.dropRoute e.routeId
  | .packageAssignedToRoute e => (l.editRoute e.newRouteId fun v ↦
      { v with packages := v.packages ++ [e.packageId] }).editPackage e.packageId fun v ↦
      { v with route := some e.newRouteId, expectedArrival := e.newExpectedArrival }
  | .packageDetachedFromRoute e => (l.editRoute e.previousRouteId fun v ↦
      { v with packages := v.packages.erase e.packageId }).editPackage e.packageId fun _ ↦
      ⟨e.newRouteId, e.newStatus, e.newLocation, e.newExpectedArrival⟩
  | .truckAssignedToRoute e => (l.editRoute e.newRouteId fun v ↦
      { v with truck := some e.truckId }).editTruck e.truckId fun v ↦
      { v with
        route := some e.newRouteId
        status := e.newStatus
        location := some e.newLocation
        busyFrom := e.newBusyFrom
        busyUntil := e.newBusyUntil }
  | .truckReleasedFromRoute e => (l.editRoute e.previousRouteId fun v ↦
      { v with truck := none }).editTruck e.truckId fun _ ↦
      { route := e.newRouteId
        status := e.newStatus
        location := some e.newLocation
        busyFrom := e.newBusyFrom
        busyUntil := e.newBusyUntil
        inTransitTo := none }

/-- Replay a correction. -/
def applyReconciliation : ReconciliationEvent → Ledger
  | .routeState e => l.editRoute e.routeId fun v ↦ { v with status := e.newStatus }
  | .packageState e => l.editPackage e.packageId fun v ↦
      { v with
        status := e.newStatus
        location := e.newLocation
        expectedArrival := e.newExpectedArrival }
  | .truckPosition e => l.editTruck e.truckId fun v ↦
      { v with location := e.newLocation, inTransitTo := e.newInTransitTo }
  | .truckRouteReference e => l.editTruck e.truckId fun v ↦ { v with route := some e.newRouteId }

/-- Replay one entry. -/
def apply : Entry → Ledger
  | .domain event => l.applyDomain event
  | .reconciliation event => l.applyReconciliation event

/-- Replay a record in order. -/
def replay (entries : List Entry) : Ledger := entries.foldl apply l

@[simp] theorem replay_nil : l.replay [] = l := rfl

@[simp] theorem replay_cons (entry : Entry) (entries : List Entry) :
    l.replay (entry :: entries) = (l.apply entry).replay entries :=
  rfl

@[simp] theorem replay_append (entries entries' : List Entry) :
    l.replay (entries ++ entries') = (l.replay entries).replay entries' :=
  List.foldl_append

variable {l}

/-! ### Known entries -/

theorem editPackage_eq {p : Int} {v : PackageView} (h : l.packages p = some v)
    (f : PackageView → PackageView) : l.editPackage p f = l.putPackage p (f v) := by
  simp [editPackage, putPackage, h]

theorem editRoute_eq {r : Int} {v : RouteView} (h : l.routes r = some v)
    (f : RouteView → RouteView) : l.editRoute r f = l.putRoute r (f v) := by
  simp [editRoute, putRoute, h]

theorem editTruck_eq {t : Int} {v : TruckView} (h : l.trucks t = some v)
    (f : TruckView → TruckView) : l.editTruck t f = l.putTruck t (f v) := by
  simp [editTruck, putTruck, h]

/-- Changing a known route and a known truck. -/
theorem editRoute_editTruck {r t : Int} {v : RouteView} {v' : TruckView}
    (hr : l.routes r = some v) (ht : l.trucks t = some v') (f : RouteView → RouteView)
    (g : TruckView → TruckView) :
    (l.editRoute r f).editTruck t g = (l.putRoute r (f v)).putTruck t (g v') := by
  rw [editRoute_eq hr]
  exact @editTruck_eq (l.putRoute r (f v)) t v' ht g

/-- Changing a known route and a known package. -/
theorem editRoute_editPackage {r p : Int} {v : RouteView} {v' : PackageView}
    (hr : l.routes r = some v) (hp : l.packages p = some v') (f : RouteView → RouteView)
    (g : PackageView → PackageView) :
    (l.editRoute r f).editPackage p g = (l.putRoute r (f v)).putPackage p (g v') := by
  rw [editRoute_eq hr]
  exact @editPackage_eq (l.putRoute r (f v)) p v' hp g

@[simp] theorem packages_putRoute (r : Int) (v : RouteView) :
    (l.putRoute r v).packages = l.packages :=
  rfl

@[simp] theorem trucks_putRoute (r : Int) (v : RouteView) : (l.putRoute r v).trucks = l.trucks :=
  rfl

@[simp] theorem routes_putTruck (t : Int) (v : TruckView) : (l.putTruck t v).routes = l.routes :=
  rfl

@[simp] theorem packages_putTruck (t : Int) (v : TruckView) :
    (l.putTruck t v).packages = l.packages :=
  rfl

@[simp] theorem routes_putPackage (p : Int) (v : PackageView) :
    (l.putPackage p v).routes = l.routes :=
  rfl

@[simp] theorem trucks_putPackage (p : Int) (v : PackageView) :
    (l.putPackage p v).trucks = l.trucks :=
  rfl

@[simp] theorem putPackage_packages_self (p : Int) (v : PackageView) :
    (l.putPackage p v).packages p = some v := by
  simp [putPackage]

@[simp] theorem putRoute_routes_self (r : Int) (v : RouteView) :
    (l.putRoute r v).routes r = some v := by
  simp [putRoute]

@[simp] theorem putTruck_trucks_self (t : Int) (v : TruckView) :
    (l.putTruck t v).trucks t = some v := by
  simp [putTruck]

/-- Entering a package twice enters it once. -/
@[simp] theorem putPackage_putPackage (p : Int) (v v' : PackageView) :
    (l.putPackage p v).putPackage p v' = l.putPackage p v' := by
  simp [putPackage]

/-- Entering a route twice enters it once. -/
@[simp] theorem putRoute_putRoute (r : Int) (v v' : RouteView) :
    (l.putRoute r v).putRoute r v' = l.putRoute r v' := by
  simp [putRoute]

/-- Entering a truck twice enters it once. -/
@[simp] theorem putTruck_putTruck (t : Int) (v v' : TruckView) :
    (l.putTruck t v).putTruck t v' = l.putTruck t v' := by
  simp [putTruck]

/-- Entering what is known changes nothing. -/
theorem putPackage_eq_self {p : Int} {v : PackageView} (h : l.packages p = some v) :
    l.putPackage p v = l := by
  ext1
  · exact Function.update_eq_self_iff.mpr h.symm
  · rfl
  · rfl

/-- Entering what is known changes nothing. -/
theorem putRoute_eq_self {r : Int} {v : RouteView} (h : l.routes r = some v) :
    l.putRoute r v = l := by
  ext1
  · rfl
  · exact Function.update_eq_self_iff.mpr h.symm
  · rfl

/-- Entering what is known changes nothing. -/
theorem putTruck_eq_self {t : Int} {v : TruckView} (h : l.trucks t = some v) :
    l.putTruck t v = l := by
  ext1
  · rfl
  · rfl
  · exact Function.update_eq_self_iff.mpr h.symm

end Ledger

/-! ### The account of a world -/

/-- Observable fields. -/
def DeliveryPackage.view (package : DeliveryPackage) : PackageView :=
  ⟨package.route, package.status, package.currentLocation, package.expectedArrival⟩

/-- Observable fields. -/
def DeliveryRoute.view (route : DeliveryRoute) : RouteView :=
  ⟨route.status, route.departureTime, route.truck, route.packages⟩

/-- Observable fields. -/
def Truck.view (truck : Truck) : TruckView :=
  ⟨truck.status, truck.currentLocation, truck.busyFrom, truck.busyUntil, truck.inTransitTo,
    truck.route⟩

namespace World

/-- What can be observed of a world. -/
def ledger (w : World) : Ledger where
  packages p := (w.packages.find? p).map DeliveryPackage.view
  routes r := (w.routes.find? r).map DeliveryRoute.view
  trucks t := (w.trucks.find? t).map Truck.view

variable {w : World}

theorem ledger_package {p : Int} {package : DeliveryPackage}
    (h : w.packages.find? p = some package) : w.ledger.packages p = some package.view := by
  simp [ledger, h]

theorem ledger_route {r : Int} {route : DeliveryRoute} (h : w.routes.find? r = some route) :
    w.ledger.routes r = some route.view := by
  simp [ledger, h]

theorem ledger_truck {t : Int} {truck : Truck} (h : w.trucks.find? t = some truck) :
    w.ledger.trucks t = some truck.view := by
  simp [ledger, h]

@[simp] theorem ledger_putPackage (package : DeliveryPackage) :
    (w.putPackage package).ledger = w.ledger.putPackage package.packageId package.view := by
  ext1
  · ext1 p
    by_cases h : package.packageId = p
    · subst h
      simp [ledger, Ledger.putPackage]
    · simp [ledger, Ledger.putPackage, h, Function.update_of_ne (Ne.symm h)]
  · rfl
  · rfl

@[simp] theorem ledger_putRoute (route : DeliveryRoute) :
    (w.putRoute route).ledger = w.ledger.putRoute route.routeId route.view := by
  ext1
  · rfl
  · ext1 r
    by_cases h : route.routeId = r
    · subst h
      simp [ledger, Ledger.putRoute]
    · simp [ledger, Ledger.putRoute, h, Function.update_of_ne (Ne.symm h)]
  · rfl

@[simp] theorem ledger_putTruck (truck : Truck) :
    (w.putTruck truck).ledger = w.ledger.putTruck truck.vehicleId truck.view := by
  ext1
  · rfl
  · rfl
  · ext1 t
    by_cases h : truck.vehicleId = t
    · subst h
      simp [ledger, Ledger.putTruck]
    · simp [ledger, Ledger.putTruck, h, Function.update_of_ne (Ne.symm h)]

/-- The account covers routes, packages and trucks only. -/
theorem ledger_congr {w' : World} (hroutes : w'.routes = w.routes)
    (hpackages : w'.packages = w.packages) (htrucks : w'.trucks = w.trucks) :
    w'.ledger = w.ledger := by
  unfold ledger
  rw [hroutes, hpackages, htrucks]

end World
end FleetFlow
