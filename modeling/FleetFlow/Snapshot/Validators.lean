import FleetFlow.Base.Dict
import FleetFlow.Snapshot.Snapshots

/-!
# Validation of a snapshot

Follows `application/services/world_snapshot_validator.py` and the six validators of
`application/services/validators/`. They run before anything is rebuilt and know the fleet only
through its trucks. The status of a truck snapshot is a status, so its membership test is left out.
-/

namespace FleetFlow

/-- A corruption of the persisted world. -/
def corruption (reason : CorruptionReason) (message : String) : PyError :=
  ⟨.worldStateCorruption reason, message⟩

/-- An id as Python prints it, also when it is absent. -/
def showOptionalId (id : Option Int) : String := (id.map toString).getD "None"

/-- `d[k]` of a dictionary by id. -/
def Store.getItem {α : Type} {key : α → Int} (s : Store key) (k : Int) : Except PyError α :=
  match s.find? k with
  | some a => .ok a
  | none => .error ⟨.keyError, toString k⟩

theorem Store.getItem_eq_ok_iff {α : Type} {key : α → Int} {s : Store key} {k : Int} {a : α} :
    s.getItem k = .ok a ↔ s.find? k = some a := by
  unfold getItem
  cases s.find? k <;> simp

/-- The version is supported, and only the second has trucks;
`application/services/validators/schema_validator.py:13–36`. -/
def SchemaSnapshotValidator.validate (snapshot : WorldStateSnapshot)
    (supportedSchemaVersions : List Int) : Except PyError Unit := do
  require (snapshot.schemaVersion ∈ supportedSchemaVersions)
    (corruption .unsupportedSchema s!"Unsupported schema version: {snapshot.schemaVersion}")
  require (snapshot.schemaVersion = 1 → snapshot.world.trucks = [])
    (corruption .invalidStructure "Schema v1 snapshots do not support truck runtime state.")

namespace IdentitySnapshotValidator

/-- The next ids are positive; `application/services/validators/identity_validator.py:11–36`. -/
def validateCounters (counters : CountersSnapshot) : Except PyError Unit := do
  require (1 ≤ counters.nextCustomerId)
    (corruption .invariantViolation "Invalid next_customer_id in snapshot.")
  require (1 ≤ counters.nextPackageId)
    (corruption .invariantViolation "Invalid next_package_id in snapshot.")
  require (1 ≤ counters.nextRouteId)
    (corruption .invariantViolation "Invalid next_route_id in snapshot.")

/-- Ids that occur more than once, in ascending order. -/
def duplicates (ids : List Int) : List Int :=
  (ids.filter fun id ↦ 1 < ids.count id).dedup.mergeSort fun a b ↦ decide (a ≤ b)

/-- Ids are positive and differ; `application/services/validators/identity_validator.py:71–91`. -/
def ensureUniqueIds (ids : List Int) (label : String) : Except PyError Unit := do
  forM ids fun id ↦ require (1 ≤ id)
    (corruption .invariantViolation s!"Invalid {label} id in snapshot: {id}")
  let dupes := ", ".intercalate ((duplicates ids).map toString)
  require ids.Nodup (corruption .invariantViolation s!"Duplicate {label} ids in snapshot: {dupes}")

/-- The ids of each kind and of each route's packages differ, and routes have two stops or more;
`application/services/validators/identity_validator.py:38–69`. -/
def validateIds (world : WorldSnapshotData) : Except PyError Unit := do
  ensureUniqueIds (world.customers.map CustomerSnapshot.customerId) "customer"
  ensureUniqueIds (world.packages.map PackageSnapshot.packageId) "package"
  ensureUniqueIds (world.routes.map RouteSnapshot.routeId) "route"
  forM world.routes fun route ↦ do
    require (2 ≤ route.locations.length) (corruption .invariantViolation
      s!"Route {route.routeId} must contain at least two locations.")
    ensureUniqueIds route.packageIds s!"package ids for route {route.routeId}"

/-- The next id is above those in use;
`application/services/validators/identity_validator.py:119–124`. -/
def validateNextId (label : String) (nextId : Int) (existingIds : List Int) :
    Except PyError Unit :=
  require (∀ id ∈ existingIds, id < nextId) (corruption .invariantViolation
    (s!"Invalid next_{label}_id in snapshot: {nextId} must be greater than existing " ++
      s!"{label} ids."))

/-- The next ids are above those in use;
`application/services/validators/identity_validator.py:93–117`. -/
def validateCounterBounds (world : WorldSnapshotData) : Except PyError Unit := do
  validateNextId "customer" world.counters.nextCustomerId
    (world.customers.map CustomerSnapshot.customerId)
  validateNextId "package" world.counters.nextPackageId
    (world.packages.map PackageSnapshot.packageId)
  validateNextId "route" world.counters.nextRouteId (world.routes.map RouteSnapshot.routeId)

end IdentitySnapshotValidator

namespace ReferenceSnapshotValidator

/-- The routes from one on, after the trucks that earlier ones have taken;
`application/services/validators/reference_validator.py:42–63`. -/
def checkRoutes (packageIds : List Int) (fleetById : Fleet) :
    List Int → List RouteSnapshot → Except PyError Unit
  | _, [] => .ok ()
  | assignedTruckIds, route :: rest => do
    forM route.packageIds fun packageId ↦ require (packageId ∈ packageIds)
      (corruption .invalidReferences
        s!"Route {route.routeId} references missing package {packageId}.")
    match route.truckVehicleId with
    | none => checkRoutes packageIds fleetById assignedTruckIds rest
    | some truckVehicleId => do
      require (fleetById.find? truckVehicleId).isSome (corruption .invalidReferences
        s!"Route {route.routeId} references missing truck {truckVehicleId}.")
      require (truckVehicleId ∉ assignedTruckIds) (corruption .invalidReferences
        s!"Truck {truckVehicleId} is assigned to multiple routes in snapshot.")
      checkRoutes packageIds fleetById (truckVehicleId :: assignedTruckIds) rest

/-- What is referred to is there, and no truck is on two routes;
`application/services/validators/reference_validator.py:12–63`. -/
def validateReferences (world : WorldSnapshotData) (fleetById : Fleet) :
    Except PyError Unit := do
  let customerIds := world.customers.map CustomerSnapshot.customerId
  let packageIds := world.packages.map PackageSnapshot.packageId
  let routeIds := world.routes.map RouteSnapshot.routeId
  forM world.packages fun package ↦ do
    require (package.customerId ∈ customerIds) (corruption .invalidReferences
      s!"Package {package.packageId} references missing customer {package.customerId}.")
    require (∀ routeId ∈ package.routeId, routeId ∈ routeIds) (corruption .invalidReferences
      s!"Package {package.packageId} references missing route {showOptionalId package.routeId}.")
  checkRoutes packageIds fleetById [] world.routes

/-- Packages and routes name each other;
`application/services/validators/reference_validator.py:65–94`. -/
def validateRoutePackageConsistency (world : WorldSnapshotData) : Except PyError Unit := do
  let routes : Store RouteSnapshot.routeId := .ofList world.routes
  let packages : Store PackageSnapshot.packageId := .ofList world.packages
  forM world.packages fun package ↦
    match package.routeId with
    | none => .ok ()
    | some routeId =>
      let listed := ((routes.find? routeId).map RouteSnapshot.packageIds).getD []
      require (package.packageId ∈ listed) (corruption .invalidReferences
        (s!"Package {package.packageId} points to route {routeId}, " ++
          "but the route does not include that package."))
  forM world.routes fun route ↦
    forM route.packageIds fun packageId ↦ do
      let packageRouteId := (packages.find? packageId).bind PackageSnapshot.routeId
      require (packageRouteId = some route.routeId) (corruption .invalidReferences
        (s!"Route {route.routeId} includes package {packageId}, " ++
          s!"but the package points to route {showOptionalId packageRouteId}."))

end ReferenceSnapshotValidator

namespace TruckSnapshotValidator

/-- An entry of the dictionary from assigned trucks to their routes. -/
structure RouteTruck where
  vehicleId : Int
  routeId : Int
deriving DecidableEq

/-- The assignments that the routes make. -/
def assignments (routes : List RouteSnapshot) : List RouteTruck :=
  routes.filterMap fun route ↦ route.truckVehicleId.map (⟨·, route.routeId⟩)

/-- The routes under the trucks that they name;
`application/services/validators/truck_snapshot_validator.py:28–33`. -/
def routeTrucks (routes : List RouteSnapshot) : Dict Int RouteTruck :=
  (assignments routes).foldl (fun d entry ↦ d.set entry.vehicleId entry) .empty

/-- A truck is at, and on its way to, supported locations;
`application/services/validators/truck_snapshot_validator.py:97–112`. -/
def validateTruckSnapshotLocations (truck : TruckSnapshot) : Except PyError Unit := do
  let shown (code : Option LocationCode) := (code.map LocationCode.text).getD "None"
  require (∀ code ∈ truck.currentLocation, code ∈ Map.locations) (corruption .invariantViolation
    (s!"Truck {truck.vehicleId} has unsupported current location " ++
      s!"{shown truck.currentLocation}."))
  require (∀ code ∈ truck.inTransitTo, code ∈ Map.locations) (corruption .invariantViolation
    (s!"Truck {truck.vehicleId} has unsupported transit destination " ++
      s!"{shown truck.inTransitTo}."))

/-- A free truck has no route, no window and no destination; a busy one has a route;
`application/services/validators/truck_snapshot_validator.py:114–135`. -/
def validateTruckSnapshotRuntimeState (truck : TruckSnapshot) : Except PyError Unit :=
  match truck.status with
  | .free => do
    require (truck.routeId = none) (corruption .invariantViolation
      s!"Free truck {truck.vehicleId} cannot point to route {showOptionalId truck.routeId}.")
    require (truck.busyFrom = none ∧ truck.busyUntil = none) (corruption .invariantViolation
      s!"Free truck {truck.vehicleId} cannot have a busy window.")
    require (truck.inTransitTo = none) (corruption .invariantViolation
      s!"Free truck {truck.vehicleId} cannot be in transit.")
  | .onTheWay => require truck.routeId.isSome (corruption .invariantViolation
      s!"On-the-way truck {truck.vehicleId} must point to a route.")

/-- The trucks from one on, after the ids seen before;
`application/services/validators/truck_snapshot_validator.py:35–73`. -/
def checkTrucks (fleetById : Fleet) (routeTrucks : Dict Int RouteTruck) :
    List Int → List TruckSnapshot → Except PyError Unit
  | _, [] => .ok ()
  | seenTruckIds, truck :: rest => do
    require (1 ≤ truck.vehicleId) (corruption .invariantViolation
      s!"Invalid truck id in snapshot: {truck.vehicleId}")
    require (truck.vehicleId ∉ seenTruckIds) (corruption .invariantViolation
      s!"Duplicate truck id in snapshot: {truck.vehicleId}")
    require (fleetById.find? truck.vehicleId).isSome (corruption .invalidReferences
      s!"Snapshot references missing truck {truck.vehicleId}.")
    validateTruckSnapshotLocations truck
    validateTruckSnapshotRuntimeState truck
    let expectedRouteId := (routeTrucks.get? truck.vehicleId).map RouteTruck.routeId
    require (truck.routeId.isSome → expectedRouteId = truck.routeId)
      (corruption .invalidReferences
        (s!"Truck {truck.vehicleId} points to route {showOptionalId truck.routeId}, " ++
          s!"but route assignment points to {showOptionalId expectedRouteId}."))
    checkTrucks fleetById routeTrucks (truck.vehicleId :: seenTruckIds) rest

/-- The trucks agree with the fleet, with their own status and with the routes;
`application/services/validators/truck_snapshot_validator.py:14–95`. -/
def validateTruckSnapshots (world : WorldSnapshotData) (schemaVersion : Int)
    (fleetById : Fleet) : Except PyError Unit := do
  let routeTrucks := routeTrucks world.routes
  checkTrucks fleetById routeTrucks [] world.trucks
  let missingTruckIds := (fleetById.values.map Truck.vehicleId).filter
    (· ∉ world.trucks.map TruckSnapshot.vehicleId)
  let missing := ", ".intercalate (missingTruckIds.map toString)
  require (schemaVersion = 2 → missingTruckIds = []) (corruption .invalidStructure
    s!"Schema v2 snapshot is missing truck snapshots: {missing}.")
  let trucks : Store TruckSnapshot.vehicleId := .ofList world.trucks
  forM routeTrucks.values fun entry ↦
    match trucks.find? entry.vehicleId with
    | none => .ok ()
    | some truck => require (truck.routeId = some entry.routeId) (corruption .invalidReferences
        (s!"Route {entry.routeId} assigns truck {entry.vehicleId}, " ++
          s!"but truck snapshot points to route {showOptionalId truck.routeId}."))

end TruckSnapshotValidator

/-- What a package snapshot adds to the load of a route. -/
def PackageSnapshot.load (package : PackageSnapshot) : PackageLoad :=
  ⟨package.start, package.end_, package.weight⟩

namespace CompatibilitySnapshotValidator

/-- A package starts and ends on its route, in this order;
`application/services/validators/compatibility_validator.py:16–53`. -/
def validateRoutePackageCompatibility (world : WorldSnapshotData) : Except PyError Unit := do
  let routes : Store RouteSnapshot.routeId := .ofList world.routes
  forM world.packages fun package ↦
    match package.routeId with
    | none => .ok ()
    | some routeId => do
      let route ← routes.getItem routeId
      require (package.start ∈ route.locations) (corruption .invariantViolation
        (s!"Package {package.packageId} starts at {package.start}, " ++
          s!"which is not on route {route.routeId}."))
      require (package.end_ ∈ route.locations) (corruption .invariantViolation
        (s!"Package {package.packageId} ends at {package.end_}, " ++
          s!"which is not on route {route.routeId}."))
      require (route.locations.idxOf package.start < route.locations.idxOf package.end_)
        (corruption .invariantViolation
          (s!"Package {package.packageId} has invalid location order on route " ++
            s!"{route.routeId}."))

/-- The leg loads of the listed packages, with a mapping in which the first entry stays;
`application/services/validators/compatibility_validator.py:102–116`. -/
def segmentLoads [WeightArithmetic] (route : RouteSnapshot)
    (packages : Store PackageSnapshot.packageId) : Except PyError (List Rat) :=
  route.packageIds.foldlM (fun loads packageId ↦ do
    let package ← packages.getItem packageId
    .ok (RouteLoadCalculator.addPackage route.locations.idxOf? loads package.load))
    (List.replicate (route.locations.length - 1) 0)

/-- The weight on the heaviest leg of a route;
`application/services/validators/compatibility_validator.py:100–118`. -/
def routeMaxSegmentLoad [WeightArithmetic] (route : RouteSnapshot)
    (packages : Store PackageSnapshot.packageId) : Except PyError Rat := do
  let loads ← segmentLoads route packages
  .ok (loads.max?.getD 0)

/-- Both limits of one truck; `application/services/validators/compatibility_validator.py:84–98`. -/
def checkTruckLimits [WeightArithmetic] (route : RouteSnapshot) (truck : Truck)
    (packages : Store PackageSnapshot.packageId) : Except PyError Unit := do
  let maxSegmentLoad ← routeMaxSegmentLoad route packages
  require (maxSegmentLoad ≤ truck.capacity) (corruption .invariantViolation
    (s!"Route {route.routeId} assigns truck {truck.vehicleId}, " ++
      s!"but segment load {maxSegmentLoad} exceeds capacity {truck.capacity}."))
  let totalDistance ← Map.pathDistance route.locations
  require (totalDistance ≤ truck.maxRange) (corruption .invariantViolation
    (s!"Route {route.routeId} assigns truck {truck.vehicleId}, " ++
      s!"but route distance {totalDistance} exceeds range {truck.maxRange}."))

/-- A route with a truck is scheduled and within the limits of the truck;
`application/services/validators/compatibility_validator.py:55–98`. -/
def validateTruckRouteCompatibility [WeightArithmetic] (world : WorldSnapshotData)
    (fleetById : Fleet) : Except PyError Unit := do
  let packages : Store PackageSnapshot.packageId := .ofList world.packages
  forM world.routes fun route ↦
    match route.truckVehicleId with
    | none => .ok ()
    | some truckVehicleId => do
      require route.departureTime.isSome (corruption .invariantViolation
        (s!"Route {route.routeId} assigns truck {truckVehicleId}, " ++
          "but the route has no departure time."))
      let truck ← fleetById.getItem truckVehicleId
      checkTruckLimits route truck packages

end CompatibilitySnapshotValidator

/-- The email of a customer snapshot as it is compared;
`application/services/validators/customer_validator.py:24`. -/
def CustomerSnapshot.emailKey (u : UnicodeTables) (customer : CustomerSnapshot) : String :=
  PyStr.lower u (PyStr.strip u customer.email)

/-- The phone of a customer snapshot as it is compared;
`application/services/validators/customer_validator.py:25`. -/
def CustomerSnapshot.phoneKey (u : UnicodeTables) (customer : CustomerSnapshot) : String :=
  PyStr.strip u customer.phone

namespace CustomerSnapshotValidator

/-- One contact text among those that earlier customers use. An empty text is not compared. -/
def checkUnused (u : UnicodeTables) (label shown text : String) (customerId : Int)
    (seen : List (String × Int)) : Except PyError (List (String × Int)) :=
  if text = "" then .ok seen
  else match seen.lookup text with
    | some other => .error (corruption .invariantViolation
        (s!"Duplicate customer {label} in snapshot: {PyStr.repr u shown} " ++
          s!"used by customers {other} and {customerId}."))
    | none => .ok ((text, customerId) :: seen)

/-- The customers from one on, after the emails and phones seen before;
`application/services/validators/customer_validator.py:20–45`. -/
def checkCustomers (u : UnicodeTables) : List (String × Int) → List (String × Int) →
    List CustomerSnapshot → Except PyError Unit
  | _, _, [] => .ok ()
  | seenEmails, seenPhones, customer :: rest => do
    let seenEmails ← checkUnused u "email" customer.email (customer.emailKey u)
      customer.customerId seenEmails
    let seenPhones ← checkUnused u "phone" customer.phone (customer.phoneKey u)
      customer.customerId seenPhones
    checkCustomers u seenEmails seenPhones rest

/-- No two customers have the same email or the same phone number;
`application/services/validators/customer_validator.py:11–45`. -/
def validateCustomerUniqueness (u : UnicodeTables) (customers : List CustomerSnapshot) :
    Except PyError Unit :=
  checkCustomers u [] [] customers

end CustomerSnapshotValidator

/-- All checks of a snapshot, one after the other;
`application/services/world_snapshot_validator.py:31–60`. -/
def WorldStateSnapshotValidator.validateSnapshot [WeightArithmetic] (u : UnicodeTables)
    (fleetById : Fleet) (snapshot : WorldStateSnapshot) (supportedSchemaVersions : List Int) :
    Except PyError Unit := do
  let world := snapshot.world
  SchemaSnapshotValidator.validate snapshot supportedSchemaVersions
  IdentitySnapshotValidator.validateCounters world.counters
  IdentitySnapshotValidator.validateIds world
  ReferenceSnapshotValidator.validateReferences world fleetById
  TruckSnapshotValidator.validateTruckSnapshots world snapshot.schemaVersion fleetById
  ReferenceSnapshotValidator.validateRoutePackageConsistency world
  CompatibilitySnapshotValidator.validateRoutePackageCompatibility world
  CompatibilitySnapshotValidator.validateTruckRouteCompatibility world fleetById
  CustomerSnapshotValidator.validateCustomerUniqueness u world.customers
  IdentitySnapshotValidator.validateCounterBounds world

/-! ### What the identity and reference checks establish -/

/-- Positive ids without repetition. -/
structure DistinctIds (ids : List Int) : Prop where
  pos : ∀ id ∈ ids, 1 ≤ id
  nodup : ids.Nodup

variable {world : WorldSnapshotData} {fleetById : Fleet}

namespace IdentitySnapshotValidator

theorem validateCounters_eq_ok_iff {counters : CountersSnapshot} :
    validateCounters counters = .ok () ↔
      1 ≤ counters.nextCustomerId ∧ 1 ≤ counters.nextPackageId ∧ 1 ≤ counters.nextRouteId := by
  simp only [validateCounters, require_bind_eq_ok_iff, require_eq_ok_iff]

theorem ensureUniqueIds_eq_ok_iff {ids : List Int} {label : String} :
    ensureUniqueIds ids label = .ok () ↔ DistinctIds ids := by
  simp only [ensureUniqueIds, check_bind_eq_ok_iff, forM_eq_ok_iff, require_eq_ok_iff]
  constructor
  · rintro ⟨hpos, hnodup⟩
    exact ⟨hpos, hnodup⟩
  · intro h
    exact ⟨h.pos, h.nodup⟩

theorem validateIds_eq_ok_iff :
    validateIds world = .ok () ↔
      DistinctIds (world.customers.map CustomerSnapshot.customerId) ∧
        DistinctIds (world.packages.map PackageSnapshot.packageId) ∧
        DistinctIds (world.routes.map RouteSnapshot.routeId) ∧
        ∀ route ∈ world.routes, 2 ≤ route.locations.length ∧ DistinctIds route.packageIds := by
  simp only [validateIds, check_bind_eq_ok_iff, ensureUniqueIds_eq_ok_iff, forM_eq_ok_iff,
    require_eq_ok_iff]

theorem validateNextId_eq_ok_iff {label : String} {nextId : Int} {existingIds : List Int} :
    validateNextId label nextId existingIds = .ok () ↔ ∀ id ∈ existingIds, id < nextId :=
  require_eq_ok_iff

theorem validateCounterBounds_eq_ok_iff :
    validateCounterBounds world = .ok () ↔
      (∀ id ∈ world.customers.map CustomerSnapshot.customerId,
          id < world.counters.nextCustomerId) ∧
        (∀ id ∈ world.packages.map PackageSnapshot.packageId,
          id < world.counters.nextPackageId) ∧
        ∀ id ∈ world.routes.map RouteSnapshot.routeId, id < world.counters.nextRouteId := by
  simp only [validateCounterBounds, check_bind_eq_ok_iff, validateNextId_eq_ok_iff]

end IdentitySnapshotValidator

namespace ReferenceSnapshotValidator

/-- Packages are there, trucks are in the fleet, and no truck is taken twice. -/
theorem checkRoutes_eq_ok_iff {packageIds : List Int} {assignedTruckIds : List Int}
    {routes : List RouteSnapshot} :
    checkRoutes packageIds fleetById assignedTruckIds routes = .ok () ↔
      (∀ route ∈ routes, (∀ packageId ∈ route.packageIds, packageId ∈ packageIds) ∧
          ∀ t ∈ route.truckVehicleId, (fleetById.find? t).isSome) ∧
        (routes.filterMap RouteSnapshot.truckVehicleId).Nodup ∧
        ∀ t ∈ routes.filterMap RouteSnapshot.truckVehicleId, t ∉ assignedTruckIds := by
  induction routes generalizing assignedTruckIds with
  | nil => simp [checkRoutes]
  | cons route rest ih =>
    rw [checkRoutes, check_bind_eq_ok_iff, List.forall_mem_cons]
    simp only [forM_eq_ok_iff, require_eq_ok_iff]
    cases ht : route.truckVehicleId with
    | none =>
      rw [List.filterMap_cons_none ht]
      simp only [ih, Option.mem_def, reduceCtorEq, false_implies, implies_true, and_true]
      rw [and_assoc]
    | some t =>
      rw [List.filterMap_cons_some ht, List.nodup_cons, List.forall_mem_cons]
      simp only [require_bind_eq_ok_iff, ih, Option.mem_def, Option.some.injEq, forall_eq',
        List.mem_cons, not_or]
      constructor
      · rintro ⟨hlisted, hfleet, hfree, hrest, hnodup, hseen⟩
        exact ⟨⟨⟨hlisted, hfleet⟩, hrest⟩, ⟨fun hmem ↦ (hseen t hmem).1 rfl, hnodup⟩, hfree,
          fun t' ht' ↦ (hseen t' ht').2⟩
      · rintro ⟨⟨⟨hlisted, hfleet⟩, hrest⟩, ⟨hnew, hnodup⟩, hfree, hseen⟩
        refine ⟨hlisted, hfleet, hfree, hrest, hnodup, fun t' ht' ↦ ⟨?_, hseen t' ht'⟩⟩
        rintro rfl
        exact hnew ht'

theorem validateReferences_eq_ok_iff :
    validateReferences world fleetById = .ok () ↔
      (∀ package ∈ world.packages,
          package.customerId ∈ world.customers.map CustomerSnapshot.customerId ∧
            ∀ r ∈ package.routeId, r ∈ world.routes.map RouteSnapshot.routeId) ∧
        (∀ route ∈ world.routes,
          (∀ p ∈ route.packageIds, p ∈ world.packages.map PackageSnapshot.packageId) ∧
            ∀ t ∈ route.truckVehicleId, (fleetById.find? t).isSome) ∧
        (world.routes.filterMap RouteSnapshot.truckVehicleId).Nodup := by
  simp only [validateReferences, check_bind_eq_ok_iff, forM_eq_ok_iff, require_eq_ok_iff,
    checkRoutes_eq_ok_iff, List.not_mem_nil, not_false_eq_true, implies_true, and_true]

/-- Both directions of the links between routes and packages agree. -/
theorem validateRoutePackageConsistency_eq_ok_iff
    (hroutes : (world.routes.map RouteSnapshot.routeId).Nodup)
    (hpackages : (world.packages.map PackageSnapshot.packageId).Nodup) :
    validateRoutePackageConsistency world = .ok () ↔
      (∀ package ∈ world.packages, ∀ r ∈ package.routeId,
          ∃ route ∈ world.routes, route.routeId = r ∧ package.packageId ∈ route.packageIds) ∧
        ∀ route ∈ world.routes, ∀ p ∈ route.packageIds, ∃ package ∈ world.packages,
          package.packageId = p ∧ package.routeId = some route.routeId := by
  simp only [validateRoutePackageConsistency, check_bind_eq_ok_iff, forM_eq_ok_iff,
    require_eq_ok_iff]
  refine and_congr ?_ ?_
  · refine forall₂_congr fun package _ ↦ ?_
    cases hr : package.routeId with
    | none => simp
    | some r =>
      simp only [require_eq_ok_iff, Option.mem_def, Option.some.injEq, forall_eq']
      constructor
      · intro hmem
        cases hfind : (Store.ofList world.routes : Store RouteSnapshot.routeId).find? r with
        | none => simp [hfind] at hmem
        | some route =>
          obtain ⟨hroute, hid⟩ := (Store.find?_ofList_eq_some_iff hroutes).mp hfind
          exact ⟨route, hroute, hid, by simpa [hfind] using hmem⟩
      · rintro ⟨route, hroute, hid, hmem⟩
        rw [(Store.find?_ofList_eq_some_iff hroutes).mpr ⟨hroute, hid⟩]
        exact hmem
  · refine forall₂_congr fun route _ ↦ forall₂_congr fun p _ ↦ ?_
    rw [Option.bind_eq_some_iff]
    simp only [Store.find?_ofList_eq_some_iff hpackages, and_assoc]

end ReferenceSnapshotValidator

/-! ### What the truck checks establish -/

/-- The state of a truck snapshot fits its status, at supported places. -/
structure TruckSnapshot.StateValid (truck : TruckSnapshot) : Prop where
  free : truck.status = .free → truck.routeId = none ∧
    (truck.busyFrom = none ∧ truck.busyUntil = none) ∧ truck.inTransitTo = none
  onTheWay : truck.status = .onTheWay → truck.routeId.isSome
  currentLocation : ∀ code ∈ truck.currentLocation, code ∈ Map.locations
  inTransitTo : ∀ code ∈ truck.inTransitTo, code ∈ Map.locations

namespace TruckSnapshotValidator

/-- The trucks of the assignments are those that the routes name. -/
theorem map_vehicleId_assignments (routes : List RouteSnapshot) :
    (assignments routes).map RouteTruck.vehicleId =
      routes.filterMap RouteSnapshot.truckVehicleId := by
  unfold assignments
  rw [List.map_filterMap]
  refine List.filterMap_congr fun route _ ↦ ?_
  cases route.truckVehicleId <;> rfl

theorem mem_assignments {routes : List RouteSnapshot} {entry : RouteTruck} :
    entry ∈ assignments routes ↔ ∃ route ∈ routes,
      route.truckVehicleId = some entry.vehicleId ∧ route.routeId = entry.routeId := by
  obtain ⟨t, r⟩ := entry
  simp only [assignments, List.mem_filterMap, Option.map_eq_some_iff, RouteTruck.mk.injEq]
  refine exists_congr fun route ↦ and_congr_right fun _ ↦ ?_
  constructor
  · rintro ⟨t', ht, rfl, rfl⟩
    exact ⟨ht, rfl⟩
  · rintro ⟨ht, rfl⟩
    exact ⟨t, ht, rfl, rfl⟩

variable {routes : List RouteSnapshot}

/-- The dictionary lists each assignment under its truck. -/
theorem entries_routeTrucks (h : (routes.filterMap RouteSnapshot.truckVehicleId).Nodup) :
    (routeTrucks routes).entries =
      (assignments routes).map fun entry ↦ (entry.vehicleId, entry) := by
  have hnew : ((Dict.empty : Dict Int RouteTruck).entries.map Prod.fst ++
      (assignments routes).map RouteTruck.vehicleId).Nodup := by
    rw [map_vehicleId_assignments]
    exact h
  rw [routeTrucks, Dict.entries_foldl_set hnew]
  rfl

theorem values_routeTrucks (h : (routes.filterMap RouteSnapshot.truckVehicleId).Nodup) :
    (routeTrucks routes).values = assignments routes := by
  rw [Dict.values, entries_routeTrucks h, List.map_map]
  exact List.map_id _

/-- The route that is looked up for a truck is the one that names it. -/
theorem get?_routeTrucks_eq_some_iff (h : (routes.filterMap RouteSnapshot.truckVehicleId).Nodup)
    {t r : Int} : ((routeTrucks routes).get? t).map RouteTruck.routeId = some r ↔
      ∃ route ∈ routes, route.truckVehicleId = some t ∧ route.routeId = r := by
  simp only [Option.map_eq_some_iff, Dict.get?_eq_some_iff, entries_routeTrucks h, List.mem_map]
  constructor
  · rintro ⟨entry, ⟨entry', hmem, heq⟩, rfl⟩
    obtain ⟨rfl, rfl⟩ := Prod.mk.inj heq
    exact mem_assignments.mp hmem
  · intro hroute
    exact ⟨⟨t, r⟩, ⟨⟨t, r⟩, mem_assignments.mpr hroute, rfl⟩, rfl⟩

theorem validateTruckSnapshotState_eq_ok_iff {truck : TruckSnapshot} :
    (validateTruckSnapshotLocations truck = .ok () ∧
      validateTruckSnapshotRuntimeState truck = .ok ()) ↔ truck.StateValid := by
  simp only [validateTruckSnapshotLocations, validateTruckSnapshotRuntimeState,
    require_bind_eq_ok_iff, require_eq_ok_iff]
  cases hs : truck.status with
  | free =>
    simp only [require_bind_eq_ok_iff, require_eq_ok_iff]
    constructor
    · rintro ⟨⟨hplace, hdestination⟩, hfree⟩
      exact ⟨fun _ ↦ hfree, fun h ↦ absurd (hs.symm.trans h) (by simp), hplace, hdestination⟩
    · intro h
      exact ⟨⟨h.currentLocation, h.inTransitTo⟩, h.free hs⟩
  | onTheWay =>
    simp only [require_eq_ok_iff]
    constructor
    · rintro ⟨⟨hplace, hdestination⟩, hroute⟩
      exact ⟨fun h ↦ absurd (hs.symm.trans h) (by simp), fun _ ↦ hroute, hplace, hdestination⟩
    · intro h
      exact ⟨⟨h.currentLocation, h.inTransitTo⟩, h.onTheWay hs⟩

/-- Trucks of the fleet, each listed once, in a valid state and assigned as they say. -/
theorem checkTrucks_eq_ok_iff {routeTrucks : Dict Int RouteTruck} {seenTruckIds : List Int}
    {trucks : List TruckSnapshot} :
    checkTrucks fleetById routeTrucks seenTruckIds trucks = .ok () ↔
      (∀ truck ∈ trucks, 1 ≤ truck.vehicleId ∧ (fleetById.find? truck.vehicleId).isSome ∧
          truck.StateValid ∧ ∀ r ∈ truck.routeId,
            (routeTrucks.get? truck.vehicleId).map RouteTruck.routeId = some r) ∧
        (trucks.map TruckSnapshot.vehicleId).Nodup ∧
        ∀ truck ∈ trucks, truck.vehicleId ∉ seenTruckIds := by
  induction trucks generalizing seenTruckIds with
  | nil => simp [checkTrucks]
  | cons truck rest ih =>
    have hassigned : (truck.routeId.isSome →
        (routeTrucks.get? truck.vehicleId).map RouteTruck.routeId = truck.routeId) ↔
        ∀ r ∈ truck.routeId,
          (routeTrucks.get? truck.vehicleId).map RouteTruck.routeId = some r := by
      cases truck.routeId <;> simp
    simp only [checkTrucks, check_bind_eq_ok_iff, require_eq_ok_iff, hassigned, ih,
      List.forall_mem_cons, List.map_cons, List.nodup_cons,
      ← validateTruckSnapshotState_eq_ok_iff]
    simp only [List.mem_cons, not_or]
    constructor
    · rintro ⟨hpos, hseen, hfleet, hplace, hstate, hroute, hrest, hnodup, hnew⟩
      refine ⟨⟨⟨hpos, hfleet, ⟨hplace, hstate⟩, hroute⟩, hrest⟩, ⟨?_, hnodup⟩, hseen,
        fun other hother ↦ (hnew other hother).2⟩
      intro hmem
      obtain ⟨other, hother, hid⟩ := List.mem_map.mp hmem
      exact (hnew other hother).1 hid
    · rintro ⟨⟨⟨hpos, hfleet, ⟨hplace, hstate⟩, hroute⟩, hrest⟩, ⟨hnew, hnodup⟩, hseen, hseenRest⟩
      refine ⟨hpos, hseen, hfleet, hplace, hstate, hroute, hrest, hnodup, fun other hother ↦
        ⟨fun hid ↦ hnew ?_, hseenRest other hother⟩⟩
      exact List.mem_map.mpr ⟨other, hother, hid⟩

theorem validateTruckSnapshots_eq_ok_iff {schemaVersion : Int}
    (h : (world.routes.filterMap RouteSnapshot.truckVehicleId).Nodup) :
    validateTruckSnapshots world schemaVersion fleetById = .ok () ↔
      ((∀ truck ∈ world.trucks, 1 ≤ truck.vehicleId ∧ (fleetById.find? truck.vehicleId).isSome ∧
          truck.StateValid ∧ ∀ r ∈ truck.routeId, ∃ route ∈ world.routes,
            route.truckVehicleId = some truck.vehicleId ∧ route.routeId = r) ∧
        (world.trucks.map TruckSnapshot.vehicleId).Nodup) ∧
      (schemaVersion = 2 → ∀ t truck, fleetById.find? t = some truck →
        t ∈ world.trucks.map TruckSnapshot.vehicleId) ∧
      ∀ route ∈ world.routes, ∀ truck ∈ world.trucks,
        route.truckVehicleId = some truck.vehicleId → truck.routeId = some route.routeId := by
  simp only [validateTruckSnapshots, check_bind_eq_ok_iff, require_eq_ok_iff,
    checkTrucks_eq_ok_iff, get?_routeTrucks_eq_some_iff h, List.not_mem_nil, not_false_eq_true,
    implies_true, and_true, forM_eq_ok_iff, values_routeTrucks h]
  refine and_congr_right fun htrucks ↦ and_congr ?_ ?_
  · refine imp_congr_right fun _ ↦ ?_
    simp only [List.filter_eq_nil_iff, List.mem_map, decide_not, Bool.not_eq_true',
      decide_eq_false_iff_not, not_not, forall_exists_index, and_imp, forall_apply_eq_imp_iff₂]
    constructor
    · intro hall t truck ht
      have := hall truck (Store.mem_values_of_find? ht)
      rwa [Store.key_of_find? ht] at this
    · intro hall truck htruck
      exact hall _ truck (Store.mem_values.mp htruck)
  · constructor
    · intro hall route hroute truck htruck ht
      have hentry := hall ⟨truck.vehicleId, route.routeId⟩ (mem_assignments.mpr ⟨route, hroute, ht, rfl⟩)
      have hfind : (Store.ofList world.trucks : Store TruckSnapshot.vehicleId).find?
          truck.vehicleId = some truck :=
        (Store.find?_ofList_eq_some_iff htrucks.2).mpr ⟨htruck, rfl⟩
      simpa only [hfind, require_eq_ok_iff] using hentry
    · intro hall entry hentry
      obtain ⟨route, hroute, ht, hr⟩ := mem_assignments.mp hentry
      split
      · rfl
      · next truck hfind =>
        obtain ⟨htruck, hid⟩ := (Store.find?_ofList_eq_some_iff htrucks.2).mp hfind
        rw [require_eq_ok_iff, ← hr]
        exact hall route hroute truck htruck (hid ▸ ht)

end TruckSnapshotValidator

/-! ### What the compatibility and customer checks establish -/

/-- A route visits the start of a package before its end. -/
structure RouteSnapshot.Carries (route : RouteSnapshot) (package : PackageSnapshot) : Prop where
  start_mem : package.start ∈ route.locations
  end_mem : package.end_ ∈ route.locations
  lt : route.locations.idxOf package.start < route.locations.idxOf package.end_

/-- The heaviest leg with the listed packages, as the validator computes it. -/
def RouteSnapshot.maxSegmentLoad (route : RouteSnapshot) (listed : List PackageSnapshot) : Rat :=
  (listed.foldl (fun loads package ↦
    RouteLoadCalculator.addPackage route.locations.idxOf? loads package.load)
    (List.replicate (route.locations.length - 1) 0)).max?.getD 0

/-- On distinct stops the validator finds the load that the calculator finds. -/
theorem RouteSnapshot.maxSegmentLoad_eq {route : RouteSnapshot} (hnd : route.locations.Nodup)
    (listed : List PackageSnapshot) : route.maxSegmentLoad listed =
      RouteLoadCalculator.maximumSegmentLoad route.locations
        (listed.map PackageSnapshot.load) none := by
  simp only [maxSegmentLoad, RouteLoadCalculator.maximumSegmentLoad,
    RouteLoadCalculator.idxOf?_eq_lastIndex? hnd, Option.toList_none, List.append_nil,
    List.foldl_map]

/-- The packages of a route and its length stay within the limits of a truck. -/
structure RouteSnapshot.Fits (packages : List PackageSnapshot) (route : RouteSnapshot)
    (truck : Truck) : Prop where
  load : ∃ listed : List PackageSnapshot,
    List.Forall₂ (fun p package ↦ package ∈ packages ∧ package.packageId = p)
      route.packageIds listed ∧ route.maxSegmentLoad listed ≤ truck.capacity
  distance : ∃ d, Map.pathDistance route.locations = .ok d ∧ d ≤ truck.maxRange

namespace CompatibilitySnapshotValidator

theorem validateRoutePackageCompatibility_eq_ok_iff
    (hroutes : (world.routes.map RouteSnapshot.routeId).Nodup) :
    validateRoutePackageCompatibility world = .ok () ↔
      ∀ package ∈ world.packages, ∀ r ∈ package.routeId,
        ∃ route ∈ world.routes, route.routeId = r ∧ route.Carries package := by
  simp only [validateRoutePackageCompatibility, forM_eq_ok_iff]
  refine forall₂_congr fun package _ ↦ ?_
  cases package.routeId with
  | none => simp
  | some r =>
    rw [except_bind_eq_ok_iff]
    simp only [Store.getItem_eq_ok_iff, require_bind_eq_ok_iff, require_eq_ok_iff,
      Store.find?_ofList_eq_some_iff hroutes, Option.mem_def, Option.some.injEq, forall_eq']
    refine exists_congr fun route ↦ ?_
    constructor
    · rintro ⟨⟨hmem, hid⟩, hstart, hend, hlt⟩
      exact ⟨hmem, hid, hstart, hend, hlt⟩
    · rintro ⟨hmem, hid, hstart, hend, hlt⟩
      exact ⟨⟨hmem, hid⟩, hstart, hend, hlt⟩

/-- The validator's own calculation reads every listed package. -/
theorem routeMaxSegmentLoad_eq_ok_iff {route : RouteSnapshot}
    {packages : Store PackageSnapshot.packageId} {load : Rat} :
    routeMaxSegmentLoad route packages = .ok load ↔ ∃ listed : List PackageSnapshot,
      List.Forall₂ (fun p package ↦ packages.find? p = some package) route.packageIds listed ∧
        route.maxSegmentLoad listed = load := by
  simp only [routeMaxSegmentLoad, segmentLoads, except_bind_eq_ok_iff, foldlM_read_eq_ok_iff,
    Store.getItem_eq_ok_iff, Except.ok.injEq]
  constructor
  · rintro ⟨loads, ⟨listed, hlisted, rfl⟩, rfl⟩
    exact ⟨listed, hlisted, rfl⟩
  · rintro ⟨listed, hlisted, rfl⟩
    exact ⟨_, ⟨listed, hlisted, rfl⟩, rfl⟩

theorem checkTruckLimits_eq_ok_iff {route : RouteSnapshot} {truck : Truck}
    (hpackages : (world.packages.map PackageSnapshot.packageId).Nodup) :
    checkTruckLimits route truck (.ofList world.packages) = .ok () ↔
      route.Fits world.packages truck := by
  simp only [checkTruckLimits]
  rw [except_bind_eq_ok_iff]
  simp only [require_bind_eq_ok_iff]
  simp only [except_bind_eq_ok_iff, routeMaxSegmentLoad_eq_ok_iff,
    Store.find?_ofList_eq_some_iff hpackages, require_eq_ok_iff]
  constructor
  · rintro ⟨_, ⟨listed, hlisted, rfl⟩, hload, d, hd, hle⟩
    exact ⟨⟨listed, hlisted, hload⟩, d, hd, hle⟩
  · rintro ⟨⟨listed, hlisted, hload⟩, d, hd, hle⟩
    exact ⟨_, ⟨listed, hlisted, rfl⟩, hload, d, hd, hle⟩

theorem validateTruckRouteCompatibility_eq_ok_iff
    (hpackages : (world.packages.map PackageSnapshot.packageId).Nodup) :
    validateTruckRouteCompatibility world fleetById = .ok () ↔
      ∀ route ∈ world.routes, ∀ t ∈ route.truckVehicleId, route.departureTime.isSome ∧
        ∃ truck, fleetById.find? t = some truck ∧ route.Fits world.packages truck := by
  simp only [validateTruckRouteCompatibility, forM_eq_ok_iff]
  refine forall₂_congr fun route _ ↦ ?_
  cases route.truckVehicleId with
  | none => simp
  | some t =>
    dsimp only
    rw [require_bind_eq_ok_iff, except_bind_eq_ok_iff]
    simp only [Store.getItem_eq_ok_iff, checkTruckLimits_eq_ok_iff hpackages, Option.mem_def,
      Option.some.injEq, forall_eq']

end CompatibilitySnapshotValidator

variable {u : UnicodeTables}

/-- Two customers share a text that is not empty. -/
def Apart (field : CustomerSnapshot → String) (a b : CustomerSnapshot) : Prop :=
  field a ≠ "" → field a ≠ field b

namespace CustomerSnapshotValidator

theorem checkUnused_eq_ok_iff {label shown text : String} {customerId : Int}
    {seen seen' : List (String × Int)} :
    checkUnused u label shown text customerId seen = .ok seen' ↔
      (text ≠ "" → text ∉ seen.map Prod.fst) ∧
        (if text = "" then seen else (text, customerId) :: seen) = seen' := by
  unfold checkUnused
  split
  · next h =>
    rw [Except.ok.injEq]
    exact ⟨fun heq ↦ ⟨fun hne ↦ absurd h hne, heq⟩, fun h ↦ h.2⟩
  · next h =>
    cases hlookup : seen.lookup text with
    | none =>
      have hnew : text ∉ seen.map Prod.fst := by
        intro hmem
        obtain ⟨entry, hentry, rfl⟩ := List.mem_map.mp hmem
        exact absurd (List.lookup_eq_none_iff.mp hlookup entry hentry) (by simp)
      rw [Except.ok.injEq]
      exact ⟨fun heq ↦ ⟨fun _ ↦ hnew, heq⟩, fun h ↦ h.2⟩
    | some other =>
      have hold : text ∈ seen.map Prod.fst := by
        obtain ⟨before, after, rfl, -⟩ := List.lookup_eq_some_iff.mp hlookup
        simp
      simp only [reduceCtorEq, false_iff]
      exact fun hseen ↦ hseen.1 h hold

/-- The compared texts differ from each other and from those seen before. -/
theorem checkCustomers_eq_ok_iff {seenEmails seenPhones : List (String × Int)}
    {customers : List CustomerSnapshot} :
    checkCustomers u seenEmails seenPhones customers = .ok () ↔
      (customers.Pairwise (Apart (·.emailKey u)) ∧ ∀ customer ∈ customers,
        customer.emailKey u ≠ "" → customer.emailKey u ∉ seenEmails.map Prod.fst) ∧
      customers.Pairwise (Apart (·.phoneKey u)) ∧ ∀ customer ∈ customers,
        customer.phoneKey u ≠ "" → customer.phoneKey u ∉ seenPhones.map Prod.fst := by
  -- What was seen grows by the text of the first customer, unless that one is empty.
  have hgrow : ∀ (field : CustomerSnapshot → String) (seen : List (String × Int))
      (customer : CustomerSnapshot) (rest : List CustomerSnapshot),
      ((field customer ≠ "" → field customer ∉ seen.map Prod.fst) ∧
        rest.Pairwise (Apart field) ∧ ∀ other ∈ rest, field other ≠ "" →
          field other ∉ (if field customer = "" then seen
            else (field customer, customer.customerId) :: seen).map Prod.fst) ↔
      (customer :: rest).Pairwise (Apart field) ∧ ∀ other ∈ customer :: rest,
        field other ≠ "" → field other ∉ seen.map Prod.fst := by
    intro field seen customer rest
    rw [List.pairwise_cons, List.forall_mem_cons]
    by_cases hempty : field customer = ""
    · simp [hempty, Apart]
    · simp only [Apart, hempty, if_false, List.map_cons, List.mem_cons, not_or, ne_eq,
        not_false_eq_true, true_implies]
      constructor
      · rintro ⟨hnew, hrest, hothers⟩
        refine ⟨⟨fun other hother heq ↦ ?_, hrest⟩, hnew, fun other hother hne ↦
          (hothers other hother hne).2⟩
        exact (hothers other hother (heq ▸ hempty)).1 heq.symm
      · rintro ⟨⟨hapart, hrest⟩, hnew, hothers⟩
        exact ⟨hnew, hrest, fun other hother hne ↦
          ⟨fun heq ↦ hapart other hother heq.symm, hothers other hother hne⟩⟩
  induction customers generalizing seenEmails seenPhones with
  | nil =>
    simp only [checkCustomers, List.Pairwise.nil, List.not_mem_nil, false_implies, implies_true,
      and_true]
  | cons customer rest ih =>
    rw [← hgrow (·.emailKey u), ← hgrow (·.phoneKey u), checkCustomers]
    simp only [except_bind_eq_ok_iff, checkUnused_eq_ok_iff, ih]
    constructor
    · rintro ⟨_, ⟨hemail, rfl⟩, _, ⟨hphone, rfl⟩, hemails, hphones⟩
      exact ⟨⟨hemail, hemails⟩, hphone, hphones⟩
    · rintro ⟨⟨hemail, hemails⟩, hphone, hphones⟩
      exact ⟨_, ⟨hemail, rfl⟩, _, ⟨hphone, rfl⟩, hemails, hphones⟩

theorem validateCustomerUniqueness_eq_ok_iff {customers : List CustomerSnapshot} :
    validateCustomerUniqueness u customers = .ok () ↔
      customers.Pairwise (Apart (·.emailKey u)) ∧ customers.Pairwise (Apart (·.phoneKey u)) := by
  simp [validateCustomerUniqueness, checkCustomers_eq_ok_iff]

end CustomerSnapshotValidator

/-! ### What an accepted snapshot satisfies -/

/-- The relations between the parts of a snapshot that all validators accept. -/
structure WorldSnapshotData.Valid (u : UnicodeTables) (fleetById : Fleet) (schemaVersion : Int)
    (world : WorldSnapshotData) : Prop where
  customerIds : DistinctIds (world.customers.map CustomerSnapshot.customerId)
  packageIds : DistinctIds (world.packages.map PackageSnapshot.packageId)
  routeIds : DistinctIds (world.routes.map RouteSnapshot.routeId)
  truckIds : DistinctIds (world.trucks.map TruckSnapshot.vehicleId)
  nextCustomerId : 1 ≤ world.counters.nextCustomerId ∧
    ∀ customer ∈ world.customers, customer.customerId < world.counters.nextCustomerId
  nextPackageId : 1 ≤ world.counters.nextPackageId ∧
    ∀ package ∈ world.packages, package.packageId < world.counters.nextPackageId
  nextRouteId : 1 ≤ world.counters.nextRouteId ∧
    ∀ route ∈ world.routes, route.routeId < world.counters.nextRouteId
  stops : ∀ route ∈ world.routes, 2 ≤ route.locations.length
  listed : ∀ route ∈ world.routes, DistinctIds route.packageIds
  customer_of_package : ∀ package ∈ world.packages,
    package.customerId ∈ world.customers.map CustomerSnapshot.customerId
  route_of_package : ∀ package ∈ world.packages, ∀ r ∈ package.routeId,
    ∃ route ∈ world.routes, route.routeId = r ∧ package.packageId ∈ route.packageIds ∧
      route.Carries package
  package_of_route : ∀ route ∈ world.routes, ∀ p ∈ route.packageIds,
    ∃ package ∈ world.packages, package.packageId = p ∧ package.routeId = some route.routeId
  trucks_nodup : (world.routes.filterMap RouteSnapshot.truckVehicleId).Nodup
  truck_of_route : ∀ route ∈ world.routes, ∀ t ∈ route.truckVehicleId,
    route.departureTime.isSome ∧
      ∃ truck, fleetById.find? t = some truck ∧ route.Fits world.packages truck
  truckState : ∀ truck ∈ world.trucks,
    (fleetById.find? truck.vehicleId).isSome ∧ truck.StateValid
  route_of_truck : ∀ truck ∈ world.trucks, ∀ r ∈ truck.routeId, ∃ route ∈ world.routes,
    route.truckVehicleId = some truck.vehicleId ∧ route.routeId = r
  truck_agrees : ∀ route ∈ world.routes, ∀ truck ∈ world.trucks,
    route.truckVehicleId = some truck.vehicleId → truck.routeId = some route.routeId
  complete : schemaVersion = 2 → ∀ t truck, fleetById.find? t = some truck →
    t ∈ world.trucks.map TruckSnapshot.vehicleId
  legacy : schemaVersion = 1 → world.trucks = []
  emails : world.customers.Pairwise (Apart (·.emailKey u))
  phones : world.customers.Pairwise (Apart (·.phoneKey u))

/-- The validators accept exactly the valid snapshots of a supported version. -/
theorem WorldStateSnapshotValidator.validateSnapshot_eq_ok_iff {snapshot : WorldStateSnapshot}
    {supportedSchemaVersions : List Int} :
    validateSnapshot u fleetById snapshot supportedSchemaVersions = .ok () ↔
      snapshot.schemaVersion ∈ supportedSchemaVersions ∧
        snapshot.world.Valid u fleetById snapshot.schemaVersion := by
  simp only [validateSnapshot, SchemaSnapshotValidator.validate, check_bind_eq_ok_iff,
    require_eq_ok_iff, IdentitySnapshotValidator.validateCounters_eq_ok_iff,
    IdentitySnapshotValidator.validateIds_eq_ok_iff,
    ReferenceSnapshotValidator.validateReferences_eq_ok_iff,
    CustomerSnapshotValidator.validateCustomerUniqueness_eq_ok_iff,
    IdentitySnapshotValidator.validateCounterBounds_eq_ok_iff, List.forall_mem_map]
  constructor
  · rintro ⟨⟨hversion, hlegacy⟩, ⟨hc, hp, hr⟩, ⟨hcustomers, hpackages, hroutes, hstops⟩,
      ⟨howned, hlinked, htrucks⟩, hstates, hconsistent, hcarried, hlimits, ⟨hemails, hphones⟩,
      hcbound, hpbound, hrbound⟩
    rw [TruckSnapshotValidator.validateTruckSnapshots_eq_ok_iff htrucks] at hstates
    rw [ReferenceSnapshotValidator.validateRoutePackageConsistency_eq_ok_iff hroutes.nodup
      hpackages.nodup] at hconsistent
    rw [CompatibilitySnapshotValidator.validateRoutePackageCompatibility_eq_ok_iff
      hroutes.nodup] at hcarried
    rw [CompatibilitySnapshotValidator.validateTruckRouteCompatibility_eq_ok_iff
      hpackages.nodup] at hlimits
    obtain ⟨⟨hstate, htruckIds⟩, hcomplete, hagrees⟩ := hstates
    refine ⟨hversion, {
      customerIds := hcustomers, packageIds := hpackages, routeIds := hroutes
      truckIds := ⟨List.forall_mem_map.mpr fun truck ht ↦ (hstate truck ht).1, htruckIds⟩
      nextCustomerId := ⟨hc, hcbound⟩, nextPackageId := ⟨hp, hpbound⟩
      nextRouteId := ⟨hr, hrbound⟩
      stops := fun route h ↦ (hstops route h).1, listed := fun route h ↦ (hstops route h).2
      customer_of_package := fun package h ↦ (howned package h).1
      route_of_package := ?_, package_of_route := hconsistent.2, trucks_nodup := htrucks
      truck_of_route := hlimits
      truckState := fun truck h ↦ ⟨(hstate truck h).2.1, (hstate truck h).2.2.1⟩
      route_of_truck := fun truck h ↦ (hstate truck h).2.2.2
      truck_agrees := hagrees, complete := hcomplete, legacy := hlegacy, emails := hemails
      phones := hphones }⟩
    intro package hpackage r hrmem
    obtain ⟨route, hroute, hid, hmem⟩ := hconsistent.1 package hpackage r hrmem
    obtain ⟨route', hroute', hid', hcarries⟩ := hcarried package hpackage r hrmem
    obtain rfl : route' = route :=
      List.inj_on_of_nodup_map hroutes.nodup hroute' hroute (hid'.trans hid.symm)
    exact ⟨route', hroute, hid, hmem, hcarries⟩
  · rintro ⟨hversion, h⟩
    rw [TruckSnapshotValidator.validateTruckSnapshots_eq_ok_iff h.trucks_nodup,
      ReferenceSnapshotValidator.validateRoutePackageConsistency_eq_ok_iff h.routeIds.nodup
        h.packageIds.nodup,
      CompatibilitySnapshotValidator.validateRoutePackageCompatibility_eq_ok_iff
        h.routeIds.nodup,
      CompatibilitySnapshotValidator.validateTruckRouteCompatibility_eq_ok_iff
        h.packageIds.nodup]
    refine ⟨⟨hversion, h.legacy⟩, ⟨h.nextCustomerId.1, h.nextPackageId.1, h.nextRouteId.1⟩,
      ⟨h.customerIds, h.packageIds, h.routeIds, fun route hr ↦ ⟨h.stops route hr, h.listed route hr⟩⟩,
      ⟨fun package hp ↦ ⟨h.customer_of_package package hp, ?_⟩, fun route hr ↦ ⟨?_, ?_⟩,
        h.trucks_nodup⟩,
      ⟨⟨fun truck ht ↦ ⟨List.forall_mem_map.mp h.truckIds.pos truck ht,
        (h.truckState truck ht).1, (h.truckState truck ht).2, h.route_of_truck truck ht⟩,
        h.truckIds.nodup⟩, h.complete, h.truck_agrees⟩,
      ⟨?_, h.package_of_route⟩, ?_, h.truck_of_route, ⟨h.emails, h.phones⟩,
      h.nextCustomerId.2, h.nextPackageId.2, h.nextRouteId.2⟩
    · intro r hr
      obtain ⟨route, hroute, hid, -⟩ := h.route_of_package package hp r hr
      exact List.mem_map.mpr ⟨route, hroute, hid⟩
    · intro p hp
      obtain ⟨package, hpackage, hid, -⟩ := h.package_of_route route hr p hp
      exact List.mem_map.mpr ⟨package, hpackage, hid⟩
    · intro t ht
      obtain ⟨-, truck, hfind, -⟩ := h.truck_of_route route hr t ht
      rw [hfind, Option.isSome_some]
    · intro package hpackage r hr
      obtain ⟨route, hroute, hid, hmem, -⟩ := h.route_of_package package hpackage r hr
      exact ⟨route, hroute, hid, hmem⟩
    · intro package hpackage r hr
      obtain ⟨route, hroute, hid, -, hcarries⟩ := h.route_of_package package hpackage r hr
      exact ⟨route, hroute, hid, hcarries⟩

end FleetFlow
