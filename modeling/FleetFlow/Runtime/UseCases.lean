import FleetFlow.Base.IsoText
import FleetFlow.Runtime.Heartbeat

/-!
# The operations of the application

Follows `application/use_cases/`, `application/services/customer_service.py` and the writing
half of `adapters/driven/persistence/memory/`. The authorization around an operation and its
log lines are left out. All clock readings of one operation are one instant; the instant of an
assign-truck command is part of the command.
-/

namespace FleetFlow

/-! ### Customers -/

namespace CustomerRepository

/-- Stored customer behind an index entry; `customer_repository.py:104–130`. -/
def getIndexed (w : World) (index : Std.ExtTreeMap String Int) (text : String) :
    Except PyError (Option Customer) :=
  match index[text]? with
  | none => .ok none
  | some customerId =>
    match w.customers.find? customerId with
    | some customer => .ok (some customer)
    | none => .error ⟨.keyError, s!"{customerId}"⟩

/-- Customers with a name, ignoring case; `customer_repository.py:132–145`. -/
def listByName (u : UnicodeTables) (w : World) (name : String) : List Customer :=
  w.customers.values.filter fun customer ↦
    PyStr.casefold u (PyStr.strip u customer.contact.name) = PyStr.casefold u (PyStr.strip u name)

/-- A new customer has a free id and free contacts; `customer_repository.py:56–65`. -/
def checkNew (w : World) (customer : Customer) : Except PyError Unit := do
  require (w.customers.find? customer.customerId = none)
    ⟨.valueError, s!"Customer with id {customer.customerId} already exists."⟩
  let email := customer.contact.email
  require (email = "" ∨ (w.idByEmail[email]?).all (· = customer.customerId))
    ⟨.valueError, s!"Email already in use by customer id={(w.idByEmail[email]?).getD 0}"⟩
  let phone := customer.contact.phoneNumber
  require (phone = "" ∨ (w.idByPhone[phone]?).all (· = customer.customerId))
    ⟨.valueError, s!"Phone already in use by customer id={(w.idByPhone[phone]?).getD 0}"⟩

/-- Index entry of a non-empty text. -/
def indexed (index : Std.ExtTreeMap String Int) (text : String) (customerId : Int) :
    Std.ExtTreeMap String Int :=
  if text = "" then index else index.insert text customerId

/-- Store a customer; `customer_repository.py:47–73`. -/
def add (customer : Customer) : Action PUnit := do
  let w ← get
  Program.lift (checkNew w customer)
  set { w with
    customers := w.customers.put customer
    idByEmail := indexed w.idByEmail customer.contact.email customer.customerId
    idByPhone := indexed w.idByPhone customer.contact.phoneNumber customer.customerId
    nextCustomerId := max w.nextCustomerId (customer.customerId + 1) }

/-- Create and store a customer; `customer_repository.py:34–45`. -/
def create (contact : ContactInfo) (now : Datetime) : Action Customer := do
  let w ← get
  let customer ← Program.lift (Customer.create contact w.nextCustomerId now)
  add customer
  pure customer

end CustomerRepository

namespace CustomerService

variable (u : UnicodeTables)

/-- Names compared without case and outer white space; `customer_service.py:124–125`. -/
def sameName (inputName customerName : String) : Bool :=
  PyStr.casefold u (PyStr.strip u inputName) == PyStr.casefold u (PyStr.strip u customerName)

/-- Accept a customer unless another name was given. -/
def unlessNamed (name : String) (customer : Customer) (message : String) :
    Except PyError (Option Customer) := do
  require (name = "" ∨ sameName u name customer.contact.name = true) ⟨.conflict, message⟩
  .ok (some customer)

/-- The customer of the given name that an email and a phone number name, if they name anyone;
`customer_service.py:73–102`. -/
def resolveEmailAndPhone (name : String) (byEmail byPhone : Option Customer) :
    Except PyError (Option Customer) :=
  match byEmail, byPhone with
  | some byEmail, some byPhone => do
    require (byEmail.customerId = byPhone.customerId) ⟨.conflict,
      s!"Email belongs to customer ID: {byEmail.customerId}, " ++
        s!"and phone belongs to customer ID: {byPhone.customerId}."⟩
    unlessNamed u name byEmail (s!"Provided name '{name}' does not match existing customer " ++
      s!"ID {byEmail.customerId} ('{byEmail.contact.name}').")
  | some byEmail, none => unlessNamed u name byEmail
      s!"Email already in use by customer ID {byEmail.customerId} ('{byEmail.contact.name}')."
  | none, some byPhone => unlessNamed u name byPhone
      s!"Phone already in use by customer ID {byPhone.customerId} ('{byPhone.contact.name}')."
  | none, none => .ok none

/-- The only customer of a name, if given alone and stored without contacts;
`customer_service.py:104–116`. -/
def resolveNameOnly (w : World) (name email phone : String) : Option Customer :=
  if email ≠ "" ∨ phone ≠ "" ∨ name = "" then none
  else
    let candidates := CustomerRepository.listByName u w name
    let nameOnly := candidates.filter fun customer ↦
      customer.contact.email = "" ∧ customer.contact.phoneNumber = ""
    if candidates.length = 1 ∧ nameOnly.length = 1 then nameOnly.head? else none

/-- Customer with a contact text, if the text was given. -/
def getIfGiven (w : World) (index : Std.ExtTreeMap String Int) (text : String) :
    Except PyError (Option Customer) :=
  if text = "" then .ok none else CustomerRepository.getIndexed w index text

/-- Customer that contact data belongs to; `customer_service.py:20–54`. -/
def findExistingCustomer (w : World) (name email phone : String) :
    Except PyError (Option Customer) := do
  let name := PyStr.strip u name
  let email := PyStr.lower u (PyStr.strip u email)
  let phone := String.ofList (phone.toList.filter (PyStr.isDigitChar u))
  let byEmail ← getIfGiven w w.idByEmail email
  let byPhone ← getIfGiven w w.idByPhone phone
  if email ≠ "" ∧ phone ≠ "" then resolveEmailAndPhone u name byEmail byPhone
  else
    let mismatch (customer : Customer) : String :=
      s!"Provided name {name} does not match existing customer ID {customer.customerId} " ++
        s!"('{customer.contact.name}')."
    match byEmail, byPhone with
    | some customer, _ => unlessNamed u name customer (mismatch customer)
    | none, some customer => unlessNamed u name customer (mismatch customer)
    | none, none => .ok (resolveNameOnly u w name email phone)

/-- Create a customer from raw contact data; `customer_service.py:56–71`. -/
def create (name email phone : String) (now : Datetime) : Action Customer := do
  let contact ← Program.lift (ContactInfo.new u name email phone)
  CustomerRepository.create contact now

end CustomerService

/-! ### Packages -/

namespace PackageRepository

/-- Store a package; `package_repository.py:61–76`. -/
def add (package : DeliveryPackage) : Action PUnit := do
  let w ← get
  Program.lift (require (w.packages.find? package.packageId = none)
    ⟨.valueError, s!"Package with id {package.packageId} already exists."⟩)
  set { w with
    packages := w.packages.put package
    nextPackageId := max w.nextPackageId (package.packageId + 1) }

/-- Create and store a package; `package_repository.py:33–59`. -/
def create (startLocation endLocation : LocationCode) (weight : PyFloat) (customer : Int)
    (now : Datetime) : Action DeliveryPackage := do
  let w ← get
  let package ← Program.lift
    (DeliveryPackage.create startLocation endLocation weight customer w.nextPackageId now)
  add package
  pure package

end PackageRepository

/-- Link a package with a customer; `domain/entities/customer.py:101–123`. -/
def Customer.addPackage (customerId : Int) (package : DeliveryPackage) : Action PUnit := do
  let w ← get
  match w.customers.find? customerId with
  | none => pure ⟨⟩
  | some customer =>
    if package.customer = customerId then do
      Program.lift (require (package.packageId ∉ customer.deliveryPackages)
        ⟨.domainConflict,
          s!"Package with id {package.packageId} is already assigned to this customer."⟩)
      set ((w.putPackage { package with customer := customerId }).putCustomer
        { customer with deliveryPackages := customer.deliveryPackages ++ [package.packageId] })
    else
      match w.customers.find? package.customer with
      | none => pure ⟨⟩
      | some oldCustomer => do
        let oldCustomer ← Program.lift (oldCustomer.removePackage package.packageId)
        set (((w.putCustomer oldCustomer).putPackage
          { package with customer := customerId }).putCustomer
          { customer with deliveryPackages := customer.deliveryPackages ++ [package.packageId] })

/-- Fields of a create-package command; `application/commands/packages/`. -/
structure CreatePackageCommand where
  start : String
  end_ : String
  weight : PyFloat
  name : String
  email : String
  phone : String
deriving DecidableEq, Repr

/-- The known customer, or a new one; `create_package.py:64–75`. -/
def CreatePackageUseCase.findOrCreateCustomer (u : UnicodeTables) (now : Datetime)
    (command : CreatePackageCommand) : Action Customer := do
  let existing ← Program.lift (CustomerService.findExistingCustomer u (← get) command.name
    command.email command.phone)
  match existing with
  | some customer => pure customer
  | none => CustomerService.create u command.name command.email command.phone now

/-- Create a package for a new or known customer; `create_package.py:42–93`. -/
def CreatePackageUseCase.execute (u : UnicodeTables) (now : Datetime)
    (command : CreatePackageCommand) : Action (List EventRecorder) := do
  let startCode ← Program.lift (LocationCode.new u command.start)
  let endCode ← Program.lift (LocationCode.new u command.end_)
  let customer ← findOrCreateCustomer u now command
  let package ← PackageRepository.create startCode endCode command.weight customer.customerId now
  Customer.addPackage customer.customerId package
  pure [.package package.packageId, .customer customer.customerId]

namespace RemovePackageUseCase

/-- A missing list entry is reported as a conflict; `remove_package.py:153–166`. -/
def asConflict {α : Type} (x : Except PyError α) : Except PyError α :=
  match x with
  | .ok a => .ok a
  | .error e => .error (if e.kind = .entityNotFound then ⟨.domainConflict, e.message⟩ else e)

/-- Take a package off its route, if it has one that is there; `remove_package.py:138–160`. -/
def detachFromRoute (package : DeliveryPackage) (occurredAt : Datetime) : Action PUnit := do
  let w ← get
  match package.routeId, package.route with
  | none, _ => pure ⟨⟩
  | some routeId, none => throw ⟨.domainConflict,
      s!"Package {package.packageId} is assigned to route {routeId}, but route is not hydrated."⟩
  | some _, some routeId =>
    match w.routes.find? routeId with
    | none => pure ⟨⟩
    | some route => do
      let (route, package) ← Program.lift
        (asConflict (route.detachPackage package .packageRemoved occurredAt))
      set ((w.putRoute route).putPackage package)

/-- Take a package off the list of its customer, if that one is there;
`remove_package.py:162–166`. -/
def removeFromCustomer (package : DeliveryPackage) : Action PUnit := do
  let w ← get
  match w.customers.find? package.customer with
  | none => pure ⟨⟩
  | some customer => do
    let customer ← Program.lift (asConflict (customer.removePackage package.packageId))
    modify (·.putCustomer customer)

/-- Undo a removal; `remove_package.py:110–122`. -/
def restore (before : World) (package : DeliveryPackage) : Action PUnit := do
  Action.restorePackage package.packageId package.snapshotState
    (some (eventCheckpoint package.pendingEvents))
  let w ← get
  match (package.route.bind before.routes.find?), (package.route.bind w.routes.find?),
      w.packages.find? package.packageId with
  | some oldRoute, some route, some package => do
    let (route, package) ← Program.lift (route.restorePackageLink package)
    let pendingEvents ← Program.lift (restoreEventCheckpoint route.pendingEvents
      (eventCheckpoint oldRoute.pendingEvents))
    modify fun w ↦ (w.putRoute { route with pendingEvents }).putPackage package
  | _, _, _ => pure ⟨⟩
  let w ← get
  match w.customers.find? package.customer with
  | none => pure ⟨⟩
  | some customer => modify (·.putCustomer (customer.restorePackageLink package.packageId))

/-- Remove a package; `remove_package.py:68–129`. -/
def execute (uow : UnitOfWork) (now : Datetime) (packageId : Int) :
    Action (List EventRecorder) := do
  let before ← get
  match before.packages.find? packageId with
  | none => throw ⟨.notFound, s!"Package with ID {packageId} not found."⟩
  | some package =>
    tryCatch (do
        detachFromRoute package now
        removeFromCustomer package
        let w ← get
        let removed := ((w.packages.find? packageId).getD package).recordRemoval package.routeId
          package.status package.currentLocation package.expectedArrival now
        set (w.putPackage removed)
        Action.call uow (.removePackage packageId)
        Action.call uow .commit
        modify fun w ↦ { w with packages := w.packages.remove packageId }
        pure ([.removed removed.pendingEvents, .customer package.customer] ++
          package.route.toList.map EventRecorder.route))
      fun e ↦ do
        restore before package
        throw e

end RemovePackageUseCase

/-! ### Routes -/

namespace RouteRepository

/-- Store a route; `route_repository.py:51–65`. -/
def add (route : DeliveryRoute) : Action PUnit := do
  let w ← get
  Program.lift (require (w.routes.find? route.routeId = none)
    ⟨.valueError, s!"Route with ID {route.routeId} already exists"⟩)
  set { w with
    routes := w.routes.put route
    nextRouteId := max w.nextRouteId (route.routeId + 1) }

/-- Create and store a route; `route_repository.py:33–49`. -/
def create (u : UnicodeTables) (locations : List String) (departureTime : Option Datetime)
    (now : Datetime) : Action DeliveryRoute := do
  let w ← get
  let route ← Program.lift (DeliveryRoute.create u locations departureTime w.nextRouteId now)
  add route
  pure route

end RouteRepository

/-- Create a route; `create_route.py:41–68`. -/
def CreateRouteUseCase.execute (u : UnicodeTables) (now : Datetime) (locations : List String)
    (departureTime : Option Datetime) : Action (List EventRecorder) := do
  let route ← RouteRepository.create u locations departureTime now
  pure [.route route.routeId]

namespace AssignTruckToRouteUseCase

/-- What the truck policy sees of the route; `assign_truck_to_route.py:147–157`. -/
def routeForSuitability [WeightArithmetic] (w : World) (route : DeliveryRoute) (now : Datetime) :
    Except PyError RouteSuitabilityView := do
  let totalDistanceKm ← route.totalDistanceKm
  .ok {
    totalDistanceKm
    startLocation := route.startLocation
    departureTime := some (route.departureTime.getD now)
    maximumSegmentLoad := route.maximumSegmentLoad (w.packagesOf route) none }

/-- Schedule a route without a departure; `assign_truck_to_route.py:185–186`. -/
def scheduleIfNeeded (route : DeliveryRoute) (now : Datetime) : Action DeliveryRoute :=
  match route.departureTime with
  | some _ => pure route
  | none => do
    let scheduled ← Program.lift (route.schedule now now)
    modify (·.putRoute scheduled)
    pure scheduled

/-- Schedule where needed, then link; `assign_truck_to_route.py:184–187`. -/
def assignInMemory (route : DeliveryRoute) (truck : Truck) (now : Datetime) : Action PUnit := do
  let route ← scheduleIfNeeded route now
  let (route, truck) ← Program.lift (route.assignTruck truck now)
  modify fun w ↦ (w.putRoute route).putTruck truck

/-- Assign a truck; `assign_truck_to_route.py:90–193`. -/
def execute [WeightArithmetic] (uow : UnitOfWork) (truckId routeId : Int) (now : Datetime) :
    Action (List EventRecorder) := do
  let w ← get
  match w.routes.find? routeId, w.trucks.find? truckId with
  | none, _ => throw ⟨.notFound, s!"Route with ID {routeId} not found"⟩
  | some _, none => throw ⟨.notFound, s!"Truck with ID {truckId} not found"⟩
  | some route, some truck => do
    Program.lift (require (route.truck = none) ⟨.conflict,
      s!"Route {route.routeId} already has truck {route.truck.getD 0} assigned"⟩)
    let view ← Program.lift (routeForSuitability w route now)
    match TruckAssignmentPolicy.evaluate truck (w.routeOf truck) view with
    | .reject _ reason => throw ⟨.conflict,
        s!"Truck {truck.vehicleId} is not suitable for route {route.routeId}: {reason}. " ++
          "Query suitable trucks for this route to see available options."⟩
    | .accept =>
      tryCatch (do
          assignInMemory route truck now
          Action.call uow (.updateRoute routeId)
          Action.call uow (.updateTruck truckId)
          Action.call uow .commit
          pure [.route routeId])
        fun e ↦ do
          Action.restoreRoute routeId route.snapshotState (eventCheckpoint route.pendingEvents)
          Action.restoreTruck truckId truck.snapshotState
          throw e

end AssignTruckToRouteUseCase

namespace AssignPackagesToRouteUseCase

/-- One entry of the command's result; `application/results/`. -/
structure PackageAssignmentSuccess where
  packageId : Int
  routeId : Int
  etaText : String
deriving DecidableEq, Repr

/-- One rejected package of the command's result. -/
structure PackageAssignmentError where
  packageId : Int
  message : String
deriving DecidableEq, Repr

/-- Successes and errors in the order of the command. -/
structure AssignPackagesToRouteResult where
  successes : List PackageAssignmentSuccess := []
  errors : List PackageAssignmentError := []
deriving DecidableEq, Repr

/-- The ids not seen before, in order; `assign_packages_to_route.py:130–139`. -/
def uniquePackageIds (seen : List Int) : List Int → List Int
  | [] => []
  | p :: rest =>
    if p ∈ seen then uniquePackageIds seen rest else p :: uniquePackageIds (p :: seen) rest

/-- Why a package cannot be assigned because of a route that it has;
`assign_packages_to_route.py:149–159`. -/
def assignedPackageError (package : DeliveryPackage) : Option PackageAssignmentError :=
  match package.routeId, package.route with
  | none, _ => none
  | some routeId, none => some ⟨package.packageId,
      s!"Package {package.packageId} has route_id {routeId} but route is not hydrated."⟩
  | some routeId, some _ =>
    some ⟨package.packageId, s!"Package {package.packageId} is already on route {routeId}."⟩

/-- When a route brings a package to its end, as a text; `assign_packages_to_route.py:187–195`. -/
def formatEta (route : DeliveryRoute) (package : DeliveryPackage) : String :=
  match route.departureTime with
  | none => "N/A (route unscheduled)"
  | some _ =>
    match route.arrivalTimeAt package.endLocation with
    | .ok eta => eta.toMinuteText
    | .error _ => "N/A"

/-- Assign and persist one package; `assign_packages_to_route.py:161–185`. -/
def assignPackage [WeightArithmetic] (uow : UnitOfWork) (routeId : Int)
    (package : DeliveryPackage) (now : Datetime) : Action (Option PackageAssignmentSuccess) := do
  let w ← get
  match w.routes.find? routeId with
  | none => pure none
  | some route => do
    tryCatch (do
        let (linkedRoute, linked) ← Program.lift
          (route.assignPackage (w.packagesOf route) (w.truckOf route) package now now)
        modify fun w ↦ (w.putRoute linkedRoute).putPackage linked
        Action.call uow (.updatePackage package.packageId)
        pure (some ⟨linked.packageId, routeId, formatEta linkedRoute linked⟩))
      fun e ↦
        if e.kind = .database then do
          Action.restoreRoute routeId route.snapshotState (eventCheckpoint route.pendingEvents)
          Action.restorePackage package.packageId package.snapshotState none
          throw e
        else throw e

/-- The loop of `assign_packages_to_route.py:97–111`. -/
def assignAll [WeightArithmetic] (uow : UnitOfWork) (routeId : Int) (now : Datetime) :
    AssignPackagesToRouteResult → List Int → Action AssignPackagesToRouteResult
  | result, [] => pure result
  | result, packageId :: rest => do
    let w ← get
    match w.packages.find? packageId with
    | none => assignAll uow routeId now { result with
        errors := result.errors ++ [⟨packageId, s!"Package {packageId} not found."⟩] } rest
    | some package =>
      match assignedPackageError package with
      | some error => assignAll uow routeId now { result with
          errors := result.errors ++ [error] } rest
      | none => do
        let result ← tryCatch (do
            let success ← assignPackage uow routeId package now
            pure { result with successes := result.successes ++ success.toList })
          fun e ↦
            if e.kind = .domainConflict then
              pure { result with errors := result.errors ++ [⟨packageId, e.message⟩] }
            else throw e
        assignAll uow routeId now result rest

/-- Assign packages; `assign_packages_to_route.py:77–121`. -/
def execute [WeightArithmetic] (uow : UnitOfWork) (now : Datetime) (routeId : Int)
    (packageIds : List Int) : Action (AssignPackagesToRouteResult × List EventRecorder) := do
  let w ← get
  match w.routes.find? routeId with
  | none => throw ⟨.notFound, s!"Route with ID {routeId} not found."⟩
  | some _ => do
    let result ← assignAll uow routeId now {} (uniquePackageIds [] packageIds)
    pure (result, if result.successes = [] then [] else [.route routeId])

end AssignPackagesToRouteUseCase

namespace RemoveRouteUseCase

/-- Detach every package; `remove_route.py:151–158`. -/
def detachPackages (routeId : Int) (occurredAt : Datetime) : List Int → Action PUnit
  | [] => pure ⟨⟩
  | packageId :: rest => do
    let w ← get
    match w.routes.find? routeId, w.packages.find? packageId with
    | some route, some package => do
      let (route, package) ← Program.lift
        (route.detachPackage package .routeRemoved occurredAt)
      set ((w.putRoute route).putPackage package)
      detachPackages routeId occurredAt rest
    | _, _ => detachPackages routeId occurredAt rest

/-- Release the truck; `remove_route.py:160`. -/
def releaseTruck (routeId : Int) (occurredAt : Datetime) : Action PUnit := do
  let w ← get
  match w.routes.find? routeId with
  | none => pure ⟨⟩
  | some route => do
    let truck := w.truckOf route
    let (route, truck, _) ← Program.lift (route.releaseTruck truck (truck.bind w.routeOf)
      occurredAt true .routeRemoved occurredAt)
    set { w.putRoute route with trucks := w.trucks.putAll truck.toList }

/-- Undo a removal; `remove_route.py:179–185`. -/
def restore (before : World) (route : DeliveryRoute) : Action PUnit := do
  Action.restoreRoute route.routeId route.snapshotState (eventCheckpoint route.pendingEvents)
  forM (before.packagesOf route) fun package ↦
    Action.restorePackage package.packageId package.snapshotState none
  forM (before.truckOf route).toList fun truck ↦
    Action.restoreTruck truck.vehicleId truck.snapshotState

/-- Persist a removal, which takes effect with the commit; `remove_route.py:163–177`. -/
def persistRemoval (uow : UnitOfWork) (route : DeliveryRoute) : Action PUnit := do
  forM route.packages fun p ↦ Action.call uow (.updatePackage p)
  forM route.truck.toList fun t ↦ Action.call uow (.updateTruck t)
  Action.call uow (.removeRoute route.routeId)
  Action.call uow .commit
  modify fun w ↦ { w with routes := w.routes.remove route.routeId }

/-- Remove a route; `remove_route.py:81–126`. -/
def execute (uow : UnitOfWork) (now : Datetime) (routeId : Int) : Action (List EventRecorder) := do
  let before ← get
  match before.routes.find? routeId with
  | none => throw ⟨.notFound, s!"Route with ID {routeId} not found"⟩
  | some route =>
    tryCatch (do
        detachPackages routeId now route.packages
        releaseTruck routeId now
        let w ← get
        let removed := ((w.routes.find? routeId).getD route).recordRemoval route.packages
          route.truck now
        set (w.putRoute removed)
        persistRemoval uow route
        pure [.removed removed.pendingEvents])
      fun e ↦ do
        restore before route
        throw e

end RemoveRouteUseCase
end FleetFlow
