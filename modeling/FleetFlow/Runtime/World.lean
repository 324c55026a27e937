import FleetFlow.Base.Program
import FleetFlow.Base.Store
import FleetFlow.Domain.Customer
import FleetFlow.Domain.RouteLinks

/-!
# The runtime world

The in-memory repositories of `adapters/driven/persistence/memory/` with the entities they
hold. An entity is reached through its id, which stands for the object reference of the
source; a change to an entity is a change of its store entry. A `RouteCell` is a route with the
objects it refers to, the part of the world that one pass of the reconciler works on.
-/

namespace FleetFlow

/-- Trucks are stored under their vehicle id. -/
abbrev Fleet := Store (Truck.vehicleId (ρ := Int))

/-- Repository contents, indexes and id counters. -/
structure World where
  customers : Store Customer.customerId
  idByEmail : Std.ExtTreeMap String Int
  idByPhone : Std.ExtTreeMap String Int
  nextCustomerId : Int
  packages : Store DeliveryPackage.packageId
  nextPackageId : Int
  routes : Store DeliveryRoute.routeId
  nextRouteId : Int
  trucks : Fleet

/-- A route with its truck and packages. -/
structure RouteCell where
  route : DeliveryRoute
  truck : Option Truck
  packages : List DeliveryPackage

/-- A repository call that a unit of work makes; `ports/output/unit_of_work.py`. -/
inductive UnitOfWorkCall where
  | updateRoute (routeId : Int)
  | updatePackage (packageId : Int)
  | updateTruck (vehicleId : Int)
  | removeRoute (routeId : Int)
  | removePackage (packageId : Int)
  | commit
deriving DecidableEq, Repr

/-- A persistence backend, by the calls on which it raises. The entities of the in-memory
repositories are the live objects, so a call that does not raise stores nothing more. -/
structure UnitOfWork where
  raises : UnitOfWorkCall → Option PyError

/-- The in-memory unit of work never raises; `adapters/driven/persistence/memory/unit_of_work.py`. -/
def UnitOfWork.inMemory : UnitOfWork := ⟨fun _ ↦ none⟩

/-- A world without customers, packages and routes, over a fleet. -/
def World.initial (trucks : Fleet) : World where
  customers := .empty
  idByEmail := ∅
  idByPhone := ∅
  nextCustomerId := 1
  packages := .empty
  nextPackageId := 1
  routes := .empty
  nextRouteId := 1
  trucks

/-- Programs over the runtime world. -/
abbrev Action (α : Type) := Program PyError World α

namespace World

variable (w : World)

/-- Store a changed or new customer. -/
abbrev putCustomer (customer : Customer) : World :=
  { w with customers := w.customers.put customer }

/-- Store a changed or new package. -/
abbrev putPackage (package : DeliveryPackage) : World :=
  { w with packages := w.packages.put package }

/-- Store a changed or new route. -/
abbrev putRoute (route : DeliveryRoute) : World := { w with routes := w.routes.put route }

/-- Store a changed truck. -/
abbrev putTruck (truck : Truck) : World := { w with trucks := w.trucks.put truck }

/-- The packages that a route lists. -/
def packagesOf (route : DeliveryRoute) : List DeliveryPackage :=
  route.packages.filterMap w.packages.find?

/-- The truck that a route refers to. -/
def truckOf (route : DeliveryRoute) : Option Truck := route.truck.bind w.trucks.find?

/-- The route that a truck refers to. -/
def routeOf (truck : Truck) : Option DeliveryRoute := truck.route.bind w.routes.find?

/-- A route with the objects it refers to. -/
def cell (route : DeliveryRoute) : RouteCell := ⟨route, w.truckOf route, w.packagesOf route⟩

/-- Store a changed cell. -/
def putCell (c : RouteCell) : World :=
  { w with
    routes := w.routes.put c.route
    trucks := w.trucks.putAll c.truck.toList
    packages := w.packages.putAll c.packages }

end World

namespace Action

/-- One persistence call. -/
def call (uow : UnitOfWork) (c : UnitOfWorkCall) : Action PUnit :=
  match uow.raises c with
  | none => pure ⟨⟩
  | some e => throw e

/-- Work on a route together with the objects it refers to. -/
def onRoute {α : Type} (route : DeliveryRoute) (program : Program PyError RouteCell α) : Action α :=
  Program.zoom (·.cell route) (fun c w ↦ w.putCell c) program

/-- Restore a route from a snapshot and an event checkpoint. -/
def restoreRoute (routeId : Int) (snapshot : RouteStateSnapshot) (checkpoint : Nat) :
    Action PUnit := do
  let w ← get
  match w.routes.find? routeId with
  | none => pure ⟨⟩
  | some route => do
    let restored ← Program.lift (route.restoreState snapshot)
    let pendingEvents ← Program.lift (restoreEventCheckpoint restored.pendingEvents checkpoint)
    modify (·.putRoute { restored with pendingEvents })

/-- Restore a package from a snapshot, and its events where a checkpoint was taken. -/
def restorePackage (packageId : Int) (snapshot : DeliveryPackageStateSnapshot)
    (checkpoint : Option Nat) : Action PUnit := do
  let w ← get
  match w.packages.find? packageId with
  | none => pure ⟨⟩
  | some package => do
    let restored := package.restoreState snapshot
    match checkpoint with
    | none => modify (·.putPackage restored)
    | some checkpoint => do
      let pendingEvents ← Program.lift (restoreEventCheckpoint restored.pendingEvents checkpoint)
      modify (·.putPackage { restored with pendingEvents })

/-- Restore a truck from a snapshot. -/
def restoreTruck (vehicleId : Int) (snapshot : TruckStateSnapshot) : Action PUnit := do
  let w ← get
  match w.trucks.find? vehicleId with
  | none => pure ⟨⟩
  | some truck => modify (·.putTruck (truck.restoreState snapshot))

end Action

/-- The in-memory backend accepts every call. -/
@[simp] theorem Action.call_inMemory (c : UnitOfWorkCall) :
    Action.call .inMemory c = pure ⟨⟩ :=
  rfl

end FleetFlow
