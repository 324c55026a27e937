import FleetFlow.Base.Shared
import FleetFlow.Snapshot.Snapshots

/-!
# The JSON form of a snapshot

Follows `adapters/driven/persistence/json/world_state_persistence.py`. Writing dumps the fields of
the records; reading checks every field by hand and reports a malformed value as a corruption.
-/

namespace FleetFlow

/-! ### Writing -/

/-- An optional value, or `null`. -/
def Json.ofOption {α : Type} (write : α → Json) : Option α → Json
  | none => .null
  | some a => write a

/-- The text of a code. -/
def LocationCode.toJson (code : LocationCode) : Json := .str code.text

def CountersSnapshot.asdict (counters : CountersSnapshot) : JsonObject :=
  [("next_customer_id", .int counters.nextCustomerId),
    ("next_package_id", .int counters.nextPackageId),
    ("next_route_id", .int counters.nextRouteId)]

def CustomerSnapshot.asdict (customer : CustomerSnapshot) : JsonObject :=
  [("customer_id", .int customer.customerId),
    ("name", .str customer.name),
    ("email", .str customer.email),
    ("phone", .str customer.phone)]

def PackageSnapshot.asdict (package : PackageSnapshot) : JsonObject :=
  [("package_id", .int package.packageId),
    ("start", package.start.toJson),
    ("end", package.end_.toJson),
    ("weight", .float (.finite package.weight)),
    ("customer_id", .int package.customerId),
    ("route_id", .ofOption .int package.routeId)]

def RouteSnapshot.asdict (route : RouteSnapshot) : JsonObject :=
  [("route_id", .int route.routeId),
    ("locations", .arr (route.locations.map LocationCode.toJson)),
    ("departure_time", .ofOption .str route.departureTime),
    ("truck_vehicle_id", .ofOption .int route.truckVehicleId),
    ("package_ids", .arr (route.packageIds.map .int))]

def TruckSnapshot.asdict (truck : TruckSnapshot) : JsonObject :=
  [("vehicle_id", .int truck.vehicleId),
    ("status", .str truck.status.value),
    ("current_location", .ofOption LocationCode.toJson truck.currentLocation),
    ("route_id", .ofOption .int truck.routeId),
    ("busy_from", .ofOption .str truck.busyFrom),
    ("busy_until", .ofOption .str truck.busyUntil),
    ("in_transit_to", .ofOption LocationCode.toJson truck.inTransitTo)]

def WorldSnapshotData.asdict (world : WorldSnapshotData) : JsonObject :=
  [("counters", .obj world.counters.asdict),
    ("customers", .arr (world.customers.map fun customer ↦ .obj customer.asdict)),
    ("packages", .arr (world.packages.map fun package ↦ .obj package.asdict)),
    ("routes", .arr (world.routes.map fun route ↦ .obj route.asdict)),
    ("trucks", .arr (world.trucks.map fun truck ↦ .obj truck.asdict))]

/-- The fields of the records, with tuples as lists;
`adapters/driven/persistence/json/world_state_persistence.py:115–117`. -/
def rawFromSnapshot (snapshot : WorldStateSnapshot) : Json := .obj
  [("schema_version", .int snapshot.schemaVersion),
    ("world", .obj snapshot.world.asdict),
    ("users", .null)]

/-! ### Reading fields -/

/-- A field of an object, null where it is missing, `raw.get(field)`. -/
def Json.field (raw : JsonObject) (name : String) : Json := (Json.get? raw name).getD .null

/-- Whether a field is present. -/
def Json.has (raw : JsonObject) (name : String) : Bool := (Json.get? raw name).isSome

def fieldInt (raw : JsonObject) (name : String) : Except PyError Int :=
  Json.requireInt (Json.field raw name) name

def fieldStr (raw : JsonObject) (name : String) : Except PyError String :=
  Json.requireStr (Json.field raw name) name

def fieldOptionalInt (raw : JsonObject) (name : String) : Except PyError (Option Int) :=
  Json.requireOptionalInt (Json.field raw name) name

def fieldOptionalStr (raw : JsonObject) (name : String) : Except PyError (Option String) :=
  Json.requireOptionalStr (Json.field raw name) name

def fieldList (raw : JsonObject) (name : String) : Except PyError (List Json) :=
  Json.requireList (Json.field raw name) name

/-- The status of a text, `TruckStatus(text)`. -/
def TruckStatus.ofText (u : UnicodeTables) (text : String) : Except PyError TruckStatus :=
  if text = TruckStatus.free.value then .ok .free
  else if text = TruckStatus.onTheWay.value then .ok .onTheWay
  else .error ⟨.valueError, s!"{PyStr.repr u text} is not a valid TruckStatus"⟩

section Readers

variable (u : UnicodeTables)

def fieldStatus (raw : JsonObject) (name : String) : Except PyError TruckStatus := do
  let text ← fieldStr raw name
  TruckStatus.ofText u text

def fieldLocation (raw : JsonObject) (name : String) : Except PyError LocationCode := do
  let text ← fieldStr raw name
  LocationCode.new u text

/-- A location, or null; `adapters/driven/persistence/json/world_state_persistence.py:310–317`. -/
def fieldOptionalLocation (raw : JsonObject) (name : String) :
    Except PyError (Option LocationCode) := do
  match ← fieldOptionalStr raw name with
  | none => .ok none
  | some text => do
    let code ← LocationCode.new u text
    .ok (some code)

/-! ### Reading records -/

/-- A customer, from its object;
`adapters/driven/persistence/json/world_state_persistence.py:226–233`. -/
def customerSnapshotFromRaw (raw : Json) : Except PyError CustomerSnapshot := do
  let data ← Json.requireMapping raw
  let customerId ← fieldInt data "customer_id"
  let name ← fieldStr data "name"
  let email ← fieldStr data "email"
  let phone ← fieldStr data "phone"
  .ok { customerId, name, email, phone }

/-- A package, from its object; its weight is checked first;
`adapters/driven/persistence/json/world_state_persistence.py:235–248`. -/
def packageSnapshotFromRaw (raw : Json) : Except PyError PackageSnapshot := do
  let data ← Json.requireMapping raw
  let weight ← Json.requirePositiveFiniteFloat (Json.field data "weight") "weight"
  let routeId ← fieldOptionalInt data "route_id"
  let packageId ← fieldInt data "package_id"
  let start ← fieldLocation u data "start"
  let end_ ← fieldLocation u data "end"
  let customerId ← fieldInt data "customer_id"
  .ok { packageId, start, end_, weight, customerId, routeId }

/-- A stop of a route. -/
def routeLocationFromRaw (item : Json) : Except PyError LocationCode := do
  let text ← Json.requireStr item "route_location"
  LocationCode.new u text

/-- A route, from its object; its lists are read first;
`adapters/driven/persistence/json/world_state_persistence.py:250–271`. -/
def routeSnapshotFromRaw (raw : Json) : Except PyError RouteSnapshot := do
  let data ← Json.requireMapping raw
  let locationsRaw ← fieldList data "locations"
  let packageIdsRaw ← fieldList data "package_ids"
  let locations ← locationsRaw.mapM (routeLocationFromRaw u)
  let packageIds ← packageIdsRaw.mapM fun item ↦ Json.requireInt item "package_id"
  let truckVehicleId ← fieldOptionalInt data "truck_vehicle_id"
  let routeId ← fieldInt data "route_id"
  let departureTime ← fieldOptionalStr data "departure_time"
  .ok { routeId, locations, departureTime, truckVehicleId, packageIds }

/-- A truck, from its object; its route is read first;
`adapters/driven/persistence/json/world_state_persistence.py:273–287`. -/
def truckSnapshotFromRaw (raw : Json) : Except PyError TruckSnapshot := do
  let data ← Json.requireMapping raw
  let routeId ← fieldOptionalInt data "route_id"
  let vehicleId ← fieldInt data "vehicle_id"
  let status ← fieldStatus u data "status"
  let currentLocation ← fieldOptionalLocation u data "current_location"
  let busyFrom ← fieldOptionalStr data "busy_from"
  let busyUntil ← fieldOptionalStr data "busy_until"
  let inTransitTo ← fieldOptionalLocation u data "in_transit_to"
  .ok { vehicleId, status, currentLocation, routeId, busyFrom, busyUntil, inTransitTo }

end Readers

/-! ### Reading a file -/

/-- A corruption with its reason. -/
def corrupt {α : Type} (reason : CorruptionReason) (message : String) : Except PyError α :=
  .error ⟨.worldStateCorruption reason, message⟩

/-- `except TypeError`, reported as a wrong structure. -/
def catchTypeError {α : Type} : Except PyError α → Except PyError α
  | .ok a => .ok a
  | .error e =>
    if e.kind = .typeError then corrupt .invalidStructure e.message else .error e

/-- `except ValueError`, reported as a violated invariant. -/
def catchValueError {α : Type} : Except PyError α → Except PyError α
  | .ok a => .ok a
  | .error e =>
    if e.kind = .valueError then corrupt .invariantViolation e.message else .error e

/-- The counters and the lists of a file. -/
structure RawSections where
  counters : JsonObject
  customers : List Json
  packages : List Json
  routes : List Json
  trucks : List Json

/-- The sections that files of schema version 1 have at the top. -/
def legacySections : List String := ["counters", "customers", "packages", "routes"]

/-- The object that holds the sections;
`adapters/driven/persistence/json/world_state_persistence.py:135–186`. -/
def worldDict (schemaVersion : Int) (raw : JsonObject) : Except PyError JsonObject :=
  match Json.field raw "world" with
  | .null => do
    require (schemaVersion = 1) ⟨.worldStateCorruption .unsupportedSchema,
      "Legacy flat world state payload is only supported for schema version 1."⟩
    require (Json.has raw "trucks" = false) ⟨.worldStateCorruption .invalidStructure,
      "Schema v1 world state payloads do not support truck snapshots."⟩
    require (legacySections.any (Json.has raw) = true) ⟨.worldStateCorruption .invalidStructure,
      "World state payload must contain 'world' or complete legacy sections."⟩
    let missing := ", ".intercalate (legacySections.filter fun name ↦ !Json.has raw name)
    require (legacySections.all (Json.has raw) = true) ⟨.worldStateCorruption .invalidStructure,
      s!"Legacy world state payload is missing required section(s): {missing}."⟩
    .ok [("counters", Json.field raw "counters"), ("customers", Json.field raw "customers"),
      ("packages", Json.field raw "packages"), ("routes", Json.field raw "routes"),
      ("trucks", .arr [])]
  | world => do
    let worldDict ← catchTypeError (Json.requireMapping world)
    require (¬ (schemaVersion = 1 ∧ Json.has worldDict "trucks" = true))
      ⟨.worldStateCorruption .invalidStructure,
        "Schema v1 world state payloads do not support truck snapshots."⟩
    require (¬ (schemaVersion = 2 ∧ Json.has worldDict "trucks" = false))
      ⟨.worldStateCorruption .invalidStructure,
        "Schema v2 world state payloads require truck snapshots."⟩
    .ok worldDict

/-- The counters and the lists of a world; a missing list of trucks is empty;
`adapters/driven/persistence/json/world_state_persistence.py:187–197`. -/
def readSections (worldDict : JsonObject) : Except PyError RawSections := do
  let counters ← Json.requireMapping (Json.field worldDict "counters")
  let customers ← fieldList worldDict "customers"
  let packages ← fieldList worldDict "packages"
  let routes ← fieldList worldDict "routes"
  let trucks ← Json.requireList ((Json.get? worldDict "trucks").getD (.arr [])) "trucks"
  .ok { counters, customers, packages, routes, trucks }

variable (u : UnicodeTables)

/-- The counters and the entities of a snapshot;
`adapters/driven/persistence/json/world_state_persistence.py:200–215`. -/
def readWorld (schemaVersion : Int) (sections : RawSections) :
    Except PyError WorldStateSnapshot := do
  let nextCustomerId ← fieldInt sections.counters "next_customer_id"
  let nextPackageId ← fieldInt sections.counters "next_package_id"
  let nextRouteId ← fieldInt sections.counters "next_route_id"
  let customers ← sections.customers.mapM customerSnapshotFromRaw
  let packages ← sections.packages.mapM (packageSnapshotFromRaw u)
  let routes ← sections.routes.mapM (routeSnapshotFromRaw u)
  let trucks ← sections.trucks.mapM (truckSnapshotFromRaw u)
  .ok {
    schemaVersion
    world := {
      counters := { nextCustomerId, nextPackageId, nextRouteId }
      customers, packages, routes, trucks } }

/-- The version of a file and its fields;
`adapters/driven/persistence/json/world_state_persistence.py:121–127`. -/
def readHeader (raw : Json) : Except PyError (JsonObject × Int) := do
  let rawDict ← Json.requireMapping raw
  let schemaVersion ← fieldInt rawDict "schema_version"
  .ok (rawDict, schemaVersion)

/-- A snapshot of a supported version, from the JSON of a file;
`adapters/driven/persistence/json/world_state_persistence.py:119–224`. -/
def snapshotFromRaw (raw : Json) : Except PyError WorldStateSnapshot := do
  let header ← catchTypeError (readHeader raw)
  require (header.2 = 1 ∨ header.2 = 2) ⟨.worldStateCorruption .unsupportedSchema,
    s!"Unsupported world state schema version: {header.2}."⟩
  let worldDict ← worldDict header.2 header.1
  let sections ← catchTypeError (readSections worldDict)
  catchValueError (catchTypeError (readWorld u header.2 sections))

end FleetFlow
