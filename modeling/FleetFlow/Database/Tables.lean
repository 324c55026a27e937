import FleetFlow.Domain.RouteLinks

/-!
# The relational schema

Follows `adapters/driven/persistence/database/schema.sql` and the statements under `sql/`. A
table is the list of its rows in the order of their insertion, and an identity column takes the
next value of its sequence. A statement that violates a constraint raises, which leaves the tables
of its transaction as they were before. Which integers and characters the columns hold is a
parameter: those of PostgreSQL, or all of them where tables are no more than lists of rows.
-/

namespace FleetFlow.Database

/-! ### Rows -/

/-- A row of `customers`; `schema.sql:57–70`. -/
structure CustomerRow where
  customerId : Int
  name : String
  email : String
  phone : String
deriving DecidableEq, Repr

/-- A row of `trucks`; `schema.sql:78–88`. -/
structure TruckRow where
  vehicleId : Int
  name : TruckModel
  capacity : Int
  maxRange : Int
  status : TruckStatus
  currentLocation : Option LocationCode
  busyFrom : Option Datetime
  busyUntil : Option Datetime
  inTransitTo : Option LocationCode
deriving DecidableEq

/-- A row of `routes`; `schema.sql:100–105`. -/
structure RouteRow where
  routeId : Int
  departureTime : Option Datetime
  status : RouteStatus
  truckVehicleId : Option Int
deriving DecidableEq

/-- A row of `route_stops`; `schema.sql:129–136`. -/
structure RouteStopRow where
  routeId : Int
  stopOrder : Int
  locationCode : LocationCode
deriving DecidableEq

/-- A row of `packages`; `schema.sql:221–233`. -/
structure PackageRow where
  packageId : Int
  startLocation : LocationCode
  endLocation : LocationCode
  weight : Rat
  status : ItemStatus
  currentLocation : Option LocationCode
  expectedArrival : Option Datetime
  customerId : Int
  routeId : Option Int
deriving DecidableEq

/-- The tables of the world and the next values of their identity columns. -/
structure Tables where
  customers : List CustomerRow
  trucks : List TruckRow
  routes : List RouteRow
  routeStops : List RouteStopRow
  packages : List PackageRow
  nextCustomerId : Int
  nextRouteId : Int
  nextPackageId : Int

/-- What a violated constraint raises; `database/errors.py:24–27`. -/
def violation (constraint : String) : PyError :=
  ⟨.database, s!"Database operation failed: {constraint}"⟩

/-! ### Column types -/

/-- The integers that an `INT` column holds, and the characters that a text column holds. -/
class ColumnTypes where
  holdsInt : Int → Bool
  holdsChar : Char → Bool

namespace ColumnTypes

/-- Columns that hold every value. -/
instance unbounded : ColumnTypes := ⟨fun _ ↦ true, fun _ ↦ true⟩

/-- The largest integer of four bytes. -/
def maxInt : Int := 2147483647

/-- The character that ends a text in C. -/
def nul : Char := Char.ofNat 0

/-- PostgreSQL has integers of four bytes, and its texts cannot contain NUL. -/
abbrev postgres : ColumnTypes :=
  ⟨fun n ↦ decide (-maxInt - 1 ≤ n ∧ n ≤ maxInt), fun c ↦ decide (c ≠ nul)⟩

/-- Every character of a text is held. -/
def holdsText [ColumnTypes] (text : String) : Bool := text.toList.all holdsChar

/-- PostgreSQL holds the texts without NUL. -/
theorem holdsText_postgres_iff {text : String} :
    @holdsText postgres text = true ↔ nul ∉ text.toList := by
  unfold holdsText
  rw [List.all_eq_true]
  constructor
  · exact fun hall hmem ↦ of_decide_eq_true (hall nul hmem) rfl
  · exact fun hnul c hc ↦ decide_eq_true fun heq ↦ hnul (heq ▸ hc)

end ColumnTypes

open ColumnTypes

/-- PostgreSQL holds what is positive and below a held integer. -/
theorem holdsInt_postgres_of_lt {n m : Int} (hpos : 0 ≤ n) (hlt : n < m) (hm : m ≤ maxInt) :
    @holdsInt postgres n = true := by
  have hmin : -maxInt - 1 ≤ 0 := by decide
  exact decide_eq_true ⟨by omega, by omega⟩

/-- An integer that the column holds, `INT`. -/
def checkInt [ColumnTypes] (n : Int) : Except PyError Unit :=
  require (holdsInt n = true) (violation "integer out of range")

/-- A text of at most `n` characters that the column holds, `VARCHAR(n)`. -/
def checkVarchar [ColumnTypes] (n : Nat) (text : String) : Except PyError Unit := do
  require (holdsText text = true)
    (violation "PostgreSQL text fields cannot contain NUL (0x00) bytes")
  require (text.length ≤ n) (violation s!"value too long for type character varying({n})")

/-- The sequence of an identity column; its values start at one. -/
def checkSequence [ColumnTypes] (next : Int) : Except PyError Unit :=
  require (1 ≤ next ∧ holdsInt next = true)
    (violation s!"setval: value {next} is out of bounds for sequence")

/-- A location of the enumeration; `location_code`; `schema.sql:10–15`. -/
def checkLocationCode (location : LocationCode) : Except PyError Unit :=
  require (location ∈ Map.locations)
    (violation s!"invalid input value for enum location_code: {location}")

/-- A location of the enumeration or null, a nullable `location_code`. -/
def checkOptionalLocationCode (location : Option LocationCode) : Except PyError Unit :=
  require (∀ l ∈ location, l ∈ Map.locations)
    (violation "invalid input value for enum location_code")

/-- The value that `DECIMAL(8, 2)` stores: the closest multiple of a hundredth, away from zero
between two of them. -/
def cents (value : Rat) : Rat :=
  if value < 0 then -(((-value * 100 + 1 / 2).floor : Int) : Rat) / 100
  else (((value * 100 + 1 / 2).floor : Int) : Rat) / 100

/-- `DECIMAL(8, 2)` has six digits before the point. -/
def checkDecimal (value : Rat) : Except PyError Unit :=
  require (-1000000 < cents value ∧ cents value < 1000000) (violation "numeric field overflow")

/-! ### Statements

A foreign key needs no check of its range: it refers to a value that an `INT` column holds. -/

/-- Insert a customer; `sql/customers/add_snapshot.sql`. -/
def addCustomerSnapshot [ColumnTypes] (tables : Tables) (row : CustomerRow) :
    Except PyError Tables := do
  checkInt row.customerId
  checkVarchar 50 row.name
  checkVarchar 255 row.email
  checkVarchar 50 row.phone
  require (∀ other ∈ tables.customers, other.customerId ≠ row.customerId)
    (violation "customers_pkey")
  require (row.email ≠ "" → ∀ other ∈ tables.customers, other.email ≠ row.email)
    (violation "idx_customers_email_non_empty")
  require (row.phone ≠ "" → ∀ other ∈ tables.customers, other.phone ≠ row.phone)
    (violation "idx_customers_phone_non_empty")
  .ok { tables with customers := tables.customers ++ [row] }

/-- Insert a route; `sql/routes/add_snapshot.sql`. -/
def addRouteSnapshot [ColumnTypes] (tables : Tables) (row : RouteRow) :
    Except PyError Tables := do
  checkInt row.routeId
  require (∀ other ∈ tables.routes, other.routeId ≠ row.routeId) (violation "routes_pkey")
  require (∀ t ∈ row.truckVehicleId, ∃ truck ∈ tables.trucks, truck.vehicleId = t)
    (violation "routes_truck_vehicle_id_fkey")
  require (∀ t ∈ row.truckVehicleId, ∀ other ∈ tables.routes, other.truckVehicleId ≠ some t)
    (violation "routes_truck_vehicle_id_key")
  .ok { tables with routes := tables.routes ++ [row] }

/-- Insert a stop of a route; `sql/routes/add_stop.sql`. -/
def addStop [ColumnTypes] (tables : Tables) (row : RouteStopRow) : Except PyError Tables := do
  checkInt row.stopOrder
  checkLocationCode row.locationCode
  require (0 ≤ row.stopOrder) (violation "route_stops_stop_order_check")
  require (∃ route ∈ tables.routes, route.routeId = row.routeId)
    (violation "route_stops_route_id_fkey")
  require (∀ other ∈ tables.routeStops, other.routeId = row.routeId →
    other.stopOrder ≠ row.stopOrder) (violation "route_stops_pkey")
  require (∀ other ∈ tables.routeStops, other.routeId = row.routeId →
    other.locationCode ≠ row.locationCode) (violation "route_stops_route_id_location_code_key")
  .ok { tables with routeStops := tables.routeStops ++ [row] }

/-- Insert a package, with its weight rounded; `sql/packages/add_snapshot.sql`. -/
def addPackageSnapshot [ColumnTypes] (tables : Tables) (row : PackageRow) :
    Except PyError Tables := do
  checkInt row.packageId
  checkLocationCode row.startLocation
  checkLocationCode row.endLocation
  checkDecimal row.weight
  checkOptionalLocationCode row.currentLocation
  require (0 < cents row.weight) (violation "packages_weight_check")
  require (row.startLocation ≠ row.endLocation) (violation "chk_package_locations")
  require (∀ other ∈ tables.packages, other.packageId ≠ row.packageId)
    (violation "packages_pkey")
  require (∃ customer ∈ tables.customers, customer.customerId = row.customerId)
    (violation "packages_customer_id_fkey")
  require (∀ r ∈ row.routeId, ∃ route ∈ tables.routes, route.routeId = r)
    (violation "packages_route_id_fkey")
  .ok { tables with packages := tables.packages ++ [{ row with weight := cents row.weight }] }

/-- What `sql/trucks/update_state.sql` sets. -/
structure TruckStateUpdate where
  status : TruckStatus
  currentLocation : Option LocationCode
  busyFrom : Option Datetime
  busyUntil : Option Datetime
  inTransitTo : Option LocationCode

/-- The row with another state. -/
def TruckRow.setState (row : TruckRow) (update : TruckStateUpdate) : TruckRow :=
  { row with
    status := update.status
    currentLocation := update.currentLocation
    busyFrom := update.busyFrom
    busyUntil := update.busyUntil
    inTransitTo := update.inTransitTo }

/-- Update the truck with an id, if there is one; `sql/trucks/update_state.sql`. -/
def updateTruckState (vehicleId : Int) (update : TruckStateUpdate) (tables : Tables) :
    Except PyError Tables := do
  checkOptionalLocationCode update.currentLocation
  checkOptionalLocationCode update.inTransitTo
  .ok { tables with trucks := tables.trucks.map fun row ↦
    if row.vehicleId = vehicleId then row.setState update else row }

/-- Delete the rows of the world; `sql/world_state/clear_world.sql`. -/
def clearWorld (tables : Tables) : Tables :=
  { tables with packages := [], routeStops := [], routes := [], customers := [] }

/-- The next id after those in use, `COALESCE(MAX(id), 0) + 1`. -/
def nextAfter (ids : List Int) : Int := ids.max?.getD 0 + 1

/-- Set the next customer id, above every stored one;
`sql/world_state/reset_customer_sequence.sql`. -/
def resetCustomerSequence [ColumnTypes] (next : Int) (tables : Tables) :
    Except PyError Tables := do
  let next := max next (nextAfter (tables.customers.map CustomerRow.customerId))
  checkSequence next
  .ok { tables with nextCustomerId := next }

/-- Set the next route id, above every stored one; `sql/world_state/reset_route_sequence.sql`. -/
def resetRouteSequence [ColumnTypes] (next : Int) (tables : Tables) : Except PyError Tables := do
  let next := max next (nextAfter (tables.routes.map RouteRow.routeId))
  checkSequence next
  .ok { tables with nextRouteId := next }

/-- Set the next package id, above every stored one;
`sql/world_state/reset_package_sequence.sql`. -/
def resetPackageSequence [ColumnTypes] (next : Int) (tables : Tables) :
    Except PyError Tables := do
  let next := max next (nextAfter (tables.packages.map PackageRow.packageId))
  checkSequence next
  .ok { tables with nextPackageId := next }

/-- The check that is deferred to the commit: a route has two stops; `schema.sql:147–214`. -/
def commit (tables : Tables) : Except PyError Tables := do
  require (∀ route ∈ tables.routes,
      2 ≤ (tables.routeStops.filter fun stop ↦ stop.routeId = route.routeId).length)
    (violation "Route must have at least two stops.")
  .ok tables

end FleetFlow.Database
