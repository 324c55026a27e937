import FleetFlow.Domain.AssignmentPolicies

/-!
# Linking routes with trucks and packages

Follows the parts of `domain/entities/delivery_route.py` that change a route together with a
truck or a package. Each raises before its first write and returns all objects it changed.
-/

namespace FleetFlow.DeliveryRoute

variable (route : DeliveryRoute)

/-- Why a package is refused, if it is; `domain/entities/delivery_route.py:385–397`. -/
def canAcceptPackage [WeightArithmetic] (routePackages : List DeliveryPackage)
    (truck : Option Truck) (package : DeliveryPackage) (now : Datetime) :
    Except PyError (Option String) := do
  match ← PackageAssignmentPolicy.evaluate route routePackages truck package now with
  | .accept => .ok none
  | .reject _ message => .ok (some message)

/-- Refresh a cached arrival; `domain/entities/delivery_route.py:638–640`. -/
def updateExpectedArrival (package : DeliveryPackage) : Except PyError DeliveryPackage :=
  match route.plan.schedule? with
  | none => .ok package
  | some s => do
    let arrival ← s.arrivalTimeAt package.endLocation
    .ok { package with expectedArrival := some arrival }

/-- Assign a package; `domain/entities/delivery_route.py:399–433`. -/
def assignPackage [WeightArithmetic] (routePackages : List DeliveryPackage)
    (truck : Option Truck) (package : DeliveryPackage) (now occurredAt : Datetime) :
    Except PyError (DeliveryRoute × DeliveryPackage) := do
  if route.hasPackage package.packageId then .ok (route, package)
  else
    match ← route.canAcceptPackage routePackages truck package now with
    | some message => .error ⟨.domainConflict, message⟩
    | none =>
      -- The policy has placed the drop-off on the route, so the arrival lookup does not raise.
      let linked ← route.updateExpectedArrival (package.setRoute (some route.routeId))
      .ok ({ route with packages := route.packages ++ [package.packageId] }.recordEvent
        (.packageAssignedToRoute {
          packageId := package.packageId
          previousRouteId := package.route
          newRouteId := route.routeId
          previousExpectedArrival := package.expectedArrival
          newExpectedArrival := linked.expectedArrival
          occurredAt }), linked)

/-- Detach a package; `domain/entities/delivery_route.py:435–483`. -/
def detachPackage (package : DeliveryPackage) (reason : PackageDetachmentReason)
    (occurredAt : Datetime) : Except PyError (DeliveryRoute × DeliveryPackage) :=
  if package.packageId ∈ route.packages then
    match package.route with
    | none => .error ⟨.domainConflict,
        s!"Package {package.packageId} is present in route {route.routeId}'s package list but " ++
          "has no route reference."⟩
    | some previousRouteId =>
      let detached := package.resetAssignmentState
      .ok ({ route with packages := route.packages.erase package.packageId }.recordEvent
        (.packageDetachedFromRoute {
          packageId := package.packageId
          previousRouteId
          newRouteId := none
          previousStatus := package.status
          newStatus := detached.status
          previousLocation := package.currentLocation
          newLocation := detached.currentLocation
          previousExpectedArrival := package.expectedArrival
          newExpectedArrival := detached.expectedArrival
          reason
          occurredAt }), detached)
  else .error ⟨.entityNotFound,
    s!"Package with id {package.packageId} is not assigned to route {route.routeId}."⟩

/-- Assign a truck; `domain/entities/delivery_route.py:485–529`. -/
def assignTruck (truck : Truck) (occurredAt : Datetime) :
    Except PyError (DeliveryRoute × Truck) := do
  require (route.truck = none) ⟨.domainConflict,
    s!"Route {route.routeId} already has truck {route.truck.getD 0} assigned."⟩
  require (truck.isFree = true ∧ truck.route = none) ⟨.domainConflict,
    s!"Truck {truck.vehicleId} is already assigned to a route."⟩
  match truck.currentLocation with
  | none => .error ⟨.domainConflict, s!"Truck {truck.vehicleId} has no current location."⟩
  | some previousLocation =>
    let assigned := truck.assign route
    .ok ({ route with truck := some truck.vehicleId }.recordEvent (.truckAssignedToRoute {
      truckId := truck.vehicleId
      previousRouteId := none
      newRouteId := route.routeId
      previousStatus := truck.status
      newStatus := assigned.status
      previousLocation
      newLocation := previousLocation
      previousBusyFrom := truck.busyFrom
      newBusyFrom := assigned.busyFrom
      previousBusyUntil := truck.busyUntil
      newBusyUntil := assigned.busyUntil
      occurredAt }), assigned)

/-- Release the truck; `domain/entities/delivery_route.py:531–594`. `truck` is the object that
`route.truck` refers to and `assigned` the one that `truck.route` refers to. Returns whether a
truck was released. -/
def releaseTruck (truck : Option Truck) (assigned : Option DeliveryRoute) (now : Datetime)
    (force : Bool) (reason : TruckReleaseReason) (occurredAt : Datetime) :
    Except PyError (DeliveryRoute × Option Truck × Bool) :=
  match truck with
  | none => .ok (route, none, false)
  | some truck =>
    match assigned, truck.currentLocation with
    | none, _ => .error ⟨.domainConflict,
        s!"Truck {truck.vehicleId} cannot be released if not assigned to a route first."⟩
    | some _, none => .error ⟨.domainConflict,
        s!"Truck {truck.vehicleId} has no current location."⟩
    | some previousRoute, some previousLocation =>
      match truck.release assigned now force with
      | (_, false) => .ok (route, some truck, false)
      | (released, true) =>
        match released.currentLocation with
        | none => .error ⟨.runtimeError, "Released truck has no current location."⟩
        | some releaseLocation =>
          .ok ({ route with truck := none }.recordEvent (.truckReleasedFromRoute {
            truckId := truck.vehicleId
            previousRouteId := previousRoute.routeId
            newRouteId := released.route
            previousStatus := truck.status
            newStatus := released.status
            previousLocation
            newLocation := releaseLocation
            previousBusyFrom := truck.busyFrom
            newBusyFrom := released.busyFrom
            previousBusyUntil := truck.busyUntil
            newBusyUntil := released.busyUntil
            reason
            occurredAt }), some released, true)

/-- Link a package while rebuilding or rolling back; `domain/entities/delivery_route.py:642–656`. -/
def restorePackageLink (package : DeliveryPackage) :
    Except PyError (DeliveryRoute × DeliveryPackage) := do
  if route.hasPackage package.packageId then .ok (route, package)
  else
    let linked ← route.updateExpectedArrival (package.setRoute (some route.routeId))
    .ok ({ route with packages := route.packages ++ [package.packageId] }, linked)

/-! ### What a successful change leaves -/

variable {route}

/-- A linked truck was free, unlinked and located. -/
theorem assignTruck_eq_ok {truck : Truck} {t : Datetime} {route' : DeliveryRoute} {truck' : Truck}
    (h : route.assignTruck truck t = .ok (route', truck')) :
    truck.route = none ∧ truck.currentLocation.isSome ∧ truck' = truck.assign route ∧
      ∃ events, route' = { route with
        truck := some truck.vehicleId
        pendingEvents := route.pendingEvents ++ events } := by
  simp only [assignTruck, require_bind_eq_ok_iff] at h
  obtain ⟨-, ⟨-, hfree⟩, h⟩ := h
  split at h
  · cases h
  · next l hl =>
    simp only [Except.ok.injEq, Prod.mk.injEq] at h
    exact ⟨hfree, by simp [hl], h.2.symm, _, h.1.symm⟩

/-- A linked package fits the route and the truck of the route. -/
theorem assignPackage_eq_ok {routePackages : List DeliveryPackage} {truck : Option Truck}
    {package : DeliveryPackage} {now t : Datetime} {route' : DeliveryRoute}
    {package' : DeliveryPackage} (hnew : package.packageId ∉ route.packages)
    (h : route.assignPackage routePackages truck package now t = .ok (route', package')) :
    PackageAssignmentPolicy.evaluate route routePackages truck package now = .ok .accept ∧
      (∃ arrival, package' =
        { package.setRoute (some route.routeId) with expectedArrival := arrival }) ∧
      ∃ events, route' = { route with
        packages := route.packages ++ [package.packageId]
        pendingEvents := route.pendingEvents ++ events } := by
  unfold assignPackage hasPackage at h
  rw [if_neg (by simpa using hnew), except_bind_eq_ok_iff] at h
  obtain ⟨message, hmessage, h⟩ := h
  cases message with
  | some message => cases h
  | none =>
    simp only [except_bind_eq_ok_iff, Except.ok.injEq, Prod.mk.injEq] at h
    obtain ⟨linked, hlinked, rfl, rfl⟩ := h
    refine ⟨?_, ?_, _, rfl⟩
    · simp only [canAcceptPackage, except_bind_eq_ok_iff] at hmessage
      obtain ⟨decision, hdecision, hmessage⟩ := hmessage
      cases decision with
      | accept => exact hdecision
      | reject reason message => cases hmessage
    · unfold updateExpectedArrival at hlinked
      split at hlinked
      · exact ⟨package.expectedArrival, (Except.ok.inj hlinked).symm⟩
      · simp only [except_bind_eq_ok_iff, Except.ok.injEq] at hlinked
        obtain ⟨arrival, -, rfl⟩ := hlinked
        exact ⟨_, rfl⟩

/-- A listed package that refers to a route can be detached. -/
theorem detachPackage_eq_ok {package : DeliveryPackage} {r : Int}
    (hmem : package.packageId ∈ route.packages) (hroute : package.route = some r)
    (reason : PackageDetachmentReason) (t : Datetime) :
    ∃ events, route.detachPackage package reason t = .ok ({ route with
      packages := route.packages.erase package.packageId
      pendingEvents := route.pendingEvents ++ events }, package.resetAssignmentState) := by
  unfold detachPackage
  rw [if_pos hmem, hroute]
  exact ⟨_, rfl⟩

/-- A located truck that refers to a route can be released by force. -/
theorem releaseTruck_eq_ok {truck : Truck} {assigned : DeliveryRoute} {location : LocationCode}
    (hloc : truck.currentLocation = some location) (now : Datetime) (reason : TruckReleaseReason)
    (t : Datetime) :
    ∃ events, route.releaseTruck (some truck) (some assigned) now true reason t = .ok ({ route with
      truck := none
      pendingEvents := route.pendingEvents ++ events },
      some { truck with currentLocation := some assigned.endLocation }.free, true) := by
  unfold releaseTruck Truck.release
  simp only [hloc, Bool.true_or, if_true, Truck.free]
  exact ⟨_, rfl⟩

end FleetFlow.DeliveryRoute
