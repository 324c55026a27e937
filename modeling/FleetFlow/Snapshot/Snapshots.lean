import FleetFlow.Base.IsoText
import FleetFlow.Base.Rows
import FleetFlow.Runtime.World

/-!
# Snapshots of the world

The records of `application/dto/world_state_snapshot_dto.py` and how
`application/services/world_state_snapshot_builder.py` fills them from live entities. Times are
stored as texts of second precision, links as ids.
-/

namespace FleetFlow

/-! ### Records -/

/-- The next ids; `application/dto/world_state_snapshot_dto.py:9–15`. -/
structure CountersSnapshot where
  nextCustomerId : Int
  nextPackageId : Int
  nextRouteId : Int
deriving DecidableEq

/-- What a snapshot holds of a customer; `application/dto/world_state_snapshot_dto.py:18–25`. -/
structure CustomerSnapshot where
  customerId : Int
  name : String
  email : String
  phone : String
deriving DecidableEq

/-- The weight of a snapshot is finite; `application/dto/world_state_snapshot_dto.py:28–37`. -/
structure PackageSnapshot where
  packageId : Int
  start : LocationCode
  end_ : LocationCode
  weight : Rat
  customerId : Int
  routeId : Option Int
deriving DecidableEq

/-- What a snapshot holds of a route; `application/dto/world_state_snapshot_dto.py:40–48`. -/
structure RouteSnapshot where
  routeId : Int
  locations : List LocationCode
  departureTime : Option String
  truckVehicleId : Option Int
  packageIds : List Int
deriving DecidableEq

/-- What a snapshot holds of a truck; `application/dto/world_state_snapshot_dto.py:51–61`. -/
structure TruckSnapshot where
  vehicleId : Int
  status : TruckStatus
  currentLocation : Option LocationCode
  routeId : Option Int
  busyFrom : Option String
  busyUntil : Option String
  inTransitTo : Option LocationCode
deriving DecidableEq

/-- What a snapshot holds of a world; `application/dto/world_state_snapshot_dto.py:64–72`. -/
structure WorldSnapshotData where
  counters : CountersSnapshot
  customers : List CustomerSnapshot
  packages : List PackageSnapshot
  routes : List RouteSnapshot
  trucks : List TruckSnapshot
deriving DecidableEq

/-- Its field `users` is always `None`; `application/dto/world_state_snapshot_dto.py:75–81`. -/
structure WorldStateSnapshot where
  schemaVersion : Int
  world : WorldSnapshotData
deriving DecidableEq

/-! ### Builder -/

/-- Of a customer; `application/services/world_state_snapshot_builder.py:66–76`. -/
def CustomerSnapshot.ofCustomer (customer : Customer) : CustomerSnapshot where
  customerId := customer.customerId
  name := customer.contact.name
  email := customer.contact.email
  phone := customer.contact.phoneNumber

/-- Of a package; `application/services/world_state_snapshot_builder.py:79–91`. -/
def PackageSnapshot.ofPackage (package : DeliveryPackage) : PackageSnapshot where
  packageId := package.packageId
  start := package.startLocation
  end_ := package.endLocation
  weight := package.weight
  customerId := package.customer
  routeId := package.routeId

/-- Of a route; `application/services/world_state_snapshot_builder.py:94–105`. -/
def RouteSnapshot.ofRoute (route : DeliveryRoute) : RouteSnapshot where
  routeId := route.routeId
  locations := route.locations
  departureTime := dtToStr route.departureTime
  truckVehicleId := route.truck
  packageIds := route.packages.mergeSort fun a b ↦ decide (a ≤ b)

/-- Of a truck; `application/services/world_state_snapshot_builder.py:108–121`. -/
def TruckSnapshot.ofTruck (truck : Truck) : TruckSnapshot where
  vehicleId := truck.vehicleId
  status := truck.status
  currentLocation := truck.currentLocation
  routeId := truck.route
  busyFrom := dtToStr truck.busyFrom
  busyUntil := dtToStr truck.busyUntil
  inTransitTo := truck.inTransitTo

/-- Transformed items in the order of their keys;
`application/services/world_state_snapshot_builder.py:60–63`. -/
def sortedSnapshots {α β : Type} (key : α → Int) (transform : α → β) (items : List α) : List β :=
  (items.mergeSort fun a b ↦ decide (key a ≤ key b)).map transform

/-- The snapshot of some entities, each kind sorted by id;
`application/services/world_state_snapshot_builder.py:23–57`. -/
def buildWorldStateSnapshot (customers : List Customer) (packages : List DeliveryPackage)
    (routes : List DeliveryRoute) (trucks : List Truck) (counters : CountersSnapshot)
    (schemaVersion : Int) : WorldStateSnapshot where
  schemaVersion := schemaVersion
  world := {
    counters
    customers := sortedSnapshots Customer.customerId .ofCustomer customers
    packages := sortedSnapshots DeliveryPackage.packageId .ofPackage packages
    routes := sortedSnapshots DeliveryRoute.routeId .ofRoute routes
    trucks := sortedSnapshots Truck.vehicleId .ofTruck trucks }

/-- The version that is written; `application/services/world_state_schema.py:8`. -/
def schemaVersion : Int := 2

/-- The versions that are read; `application/services/world_state_schema.py:9`. -/
def supportedSchemaVersions : List Int := [1, 2]

/-- The next ids of the repositories; `application/services/world_state_snapshot_service.py:104–109`. -/
def World.buildCountersSnapshot (w : World) : CountersSnapshot where
  nextCustomerId := w.nextCustomerId
  nextPackageId := w.nextPackageId
  nextRouteId := w.nextRouteId

/-- The snapshot of the runtime world;
`application/services/world_state_snapshot_service.py:88–102`. -/
def World.buildSnapshot (w : World) : WorldStateSnapshot :=
  buildWorldStateSnapshot w.customers.values w.packages.values w.routes.values w.trucks.values
    w.buildCountersSnapshot schemaVersion

/-! ### What the builder lists -/

section Sorted

variable {α β : Type} {key : α → Int} {transform : α → β} {items : List α}

/-- Every item is listed, and nothing else is. -/
theorem mem_sortedSnapshots {b : β} :
    b ∈ sortedSnapshots key transform items ↔ ∃ a ∈ items, transform a = b := by
  simp [sortedSnapshots]

/-- Items whose keys ascend are listed as they come. -/
theorem sortedSnapshots_eq_map (h : (items.map key).Pairwise (· < ·)) :
    sortedSnapshots key transform items = items.map transform := by
  unfold sortedSnapshots
  rw [mergeSort_eq_of_perm (.refl _) (List.pairwise_map.mp h)]

end Sorted
end FleetFlow
