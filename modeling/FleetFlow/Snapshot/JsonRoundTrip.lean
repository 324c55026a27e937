import FleetFlow.Runtime.Run
import FleetFlow.Snapshot.JsonForm

/-!
# Reading back what was written

Each record is read back from its fields, so a snapshot of the current schema version is read back
from its file. Location codes survive because their constructor leaves them as they are.
-/

namespace FleetFlow

variable {u : UnicodeTables}

/-! ### Records -/

theorem requireOptionalInt_ofOption (value : Option Int) (fieldName : String) :
    Json.requireOptionalInt (.ofOption .int value) fieldName = .ok value := by
  cases value <;> rfl

theorem requireOptionalStr_ofOption (value : Option String) (fieldName : String) :
    Json.requireOptionalStr (.ofOption .str value) fieldName = .ok value := by
  cases value <;> rfl

theorem fieldLocation_of_field {raw : JsonObject} {name : String} {code : LocationCode}
    (hfield : Json.field raw name = code.toJson) (hcode : code.Canonical u) :
    fieldLocation u raw name = .ok code := by
  have hnew : LocationCode.new u code.text = .ok code := hcode
  rw [fieldLocation, fieldStr, hfield, LocationCode.toJson, Json.requireStr, ok_bind, hnew]

theorem fieldOptionalLocation_of_field {raw : JsonObject} {name : String}
    {code : Option LocationCode}
    (hfield : Json.field raw name = .ofOption LocationCode.toJson code)
    (hcode : ∀ c ∈ code, c.Canonical u) : fieldOptionalLocation u raw name = .ok code := by
  rw [fieldOptionalLocation, fieldOptionalStr, hfield]
  cases code with
  | none => rfl
  | some c =>
    have hnew : LocationCode.new u c.text = .ok c := hcode c rfl
    dsimp only [Json.ofOption, LocationCode.toJson, Json.requireOptionalStr]
    rw [ok_bind]
    dsimp only
    rw [hnew]
    rfl

theorem customerSnapshotFromRaw_asdict (customer : CustomerSnapshot) :
    customerSnapshotFromRaw (.obj customer.asdict) = .ok customer := rfl

/-- Codes of a package that are read back. -/
theorem packageSnapshotFromRaw_asdict {package : PackageSnapshot} (hweight : 0 < package.weight)
    (hstart : package.start.Canonical u) (hend : package.end_.Canonical u) :
    packageSnapshotFromRaw u (.obj package.asdict) = .ok package := by
  have hweightField : Json.requirePositiveFiniteFloat
      (Json.field package.asdict "weight") "weight" = .ok package.weight := by
    change (require (0 < package.weight) _ >>= fun _ ↦ .ok package.weight) = _
    rw [require_bind_of_true hweight]
  have hrouteField : fieldOptionalInt package.asdict "route_id" = .ok package.routeId :=
    requireOptionalInt_ofOption _ _
  have hid : fieldInt package.asdict "package_id" = .ok package.packageId := rfl
  have hcustomer : fieldInt package.asdict "customer_id" = .ok package.customerId := rfl
  rw [packageSnapshotFromRaw, Json.requireMapping, ok_bind, hweightField, ok_bind, hrouteField,
    ok_bind, hid, ok_bind, fieldLocation_of_field rfl hstart, ok_bind,
    fieldLocation_of_field rfl hend, ok_bind, hcustomer]
  rfl

theorem routeLocationFromRaw_toJson {code : LocationCode} (hcode : code.Canonical u) :
    routeLocationFromRaw u code.toJson = .ok code := by
  have hnew : LocationCode.new u code.text = .ok code := hcode
  rw [routeLocationFromRaw, LocationCode.toJson, Json.requireStr, ok_bind, hnew]

theorem routeSnapshotFromRaw_asdict {route : RouteSnapshot}
    (hlocations : ∀ code ∈ route.locations, code.Canonical u) :
    routeSnapshotFromRaw u (.obj route.asdict) = .ok route := by
  have hlist : fieldList route.asdict "locations" =
      .ok (route.locations.map LocationCode.toJson) := rfl
  have hstops : (route.locations.map LocationCode.toJson).mapM (routeLocationFromRaw u) =
      .ok route.locations :=
    mapM_map_eq_ok fun code hcode ↦ routeLocationFromRaw_toJson (hlocations code hcode)
  have hids : fieldList route.asdict "package_ids" = .ok (route.packageIds.map .int) := rfl
  have hpackages : (route.packageIds.map Json.int).mapM
      (fun item ↦ Json.requireInt item "package_id") = .ok route.packageIds :=
    mapM_map_eq_ok fun _ _ ↦ rfl
  have htruck : fieldOptionalInt route.asdict "truck_vehicle_id" = .ok route.truckVehicleId :=
    requireOptionalInt_ofOption _ _
  have hid : fieldInt route.asdict "route_id" = .ok route.routeId := rfl
  have hdeparture : fieldOptionalStr route.asdict "departure_time" = .ok route.departureTime :=
    requireOptionalStr_ofOption _ _
  rw [routeSnapshotFromRaw, Json.requireMapping, ok_bind, hlist, ok_bind, hids, ok_bind, hstops,
    ok_bind, hpackages, ok_bind, htruck, ok_bind, hid, ok_bind, hdeparture]
  rfl

theorem truckSnapshotFromRaw_asdict {truck : TruckSnapshot}
    (hcurrent : ∀ code ∈ truck.currentLocation, code.Canonical u)
    (htransit : ∀ code ∈ truck.inTransitTo, code.Canonical u) :
    truckSnapshotFromRaw u (.obj truck.asdict) = .ok truck := by
  have hroute : fieldOptionalInt truck.asdict "route_id" = .ok truck.routeId :=
    requireOptionalInt_ofOption _ _
  have hid : fieldInt truck.asdict "vehicle_id" = .ok truck.vehicleId := rfl
  have hstatus : fieldStatus u truck.asdict "status" = .ok truck.status := by
    have hfield : Json.field truck.asdict "status" = .str truck.status.value := rfl
    rw [fieldStatus, fieldStr, hfield, Json.requireStr, ok_bind]
    cases truck.status <;> rfl
  have hfrom : fieldOptionalStr truck.asdict "busy_from" = .ok truck.busyFrom :=
    requireOptionalStr_ofOption _ _
  have huntil : fieldOptionalStr truck.asdict "busy_until" = .ok truck.busyUntil :=
    requireOptionalStr_ofOption _ _
  rw [truckSnapshotFromRaw, Json.requireMapping, ok_bind, hroute, ok_bind, hid, ok_bind, hstatus,
    ok_bind, fieldOptionalLocation_of_field rfl hcurrent, ok_bind, hfrom, ok_bind, huntil, ok_bind,
    fieldOptionalLocation_of_field rfl htransit]
  rfl

/-! ### The file -/

/-- Snapshots whose records are read back. -/
structure WorldSnapshotData.Writable (u : UnicodeTables) (world : WorldSnapshotData) : Prop where
  weights : ∀ package ∈ world.packages, 0 < package.weight
  packages : ∀ package ∈ world.packages, package.start.Canonical u ∧ package.end_.Canonical u
  routes : ∀ route ∈ world.routes, ∀ code ∈ route.locations, code.Canonical u
  trucks : ∀ truck ∈ world.trucks, (∀ code ∈ truck.currentLocation, code.Canonical u) ∧
    ∀ code ∈ truck.inTransitTo, code.Canonical u

theorem readWorld_asdict {world : WorldSnapshotData} (h : world.Writable u) (version : Int) :
    readWorld u version ⟨world.counters.asdict,
      world.customers.map fun customer ↦ .obj customer.asdict,
      world.packages.map fun package ↦ .obj package.asdict,
      world.routes.map fun route ↦ .obj route.asdict,
      world.trucks.map fun truck ↦ .obj truck.asdict⟩ = .ok ⟨version, world⟩ := by
  have hcustomerId : fieldInt world.counters.asdict "next_customer_id" =
      .ok world.counters.nextCustomerId := rfl
  have hpackageId : fieldInt world.counters.asdict "next_package_id" =
      .ok world.counters.nextPackageId := rfl
  have hrouteId : fieldInt world.counters.asdict "next_route_id" =
      .ok world.counters.nextRouteId := rfl
  have hcustomers : (world.customers.map fun customer ↦ Json.obj customer.asdict).mapM
      customerSnapshotFromRaw = .ok world.customers :=
    mapM_map_eq_ok fun customer _ ↦ customerSnapshotFromRaw_asdict customer
  have hpackages := mapM_map_eq_ok fun package hpackage ↦
    packageSnapshotFromRaw_asdict (h.weights package hpackage) (h.packages package hpackage).1
      (h.packages package hpackage).2
  have hroutes := mapM_map_eq_ok fun route hroute ↦ routeSnapshotFromRaw_asdict (h.routes route hroute)
  have htrucks := mapM_map_eq_ok fun truck htruck ↦
    truckSnapshotFromRaw_asdict (h.trucks truck htruck).1 (h.trucks truck htruck).2
  unfold readWorld
  dsimp only
  rw [hcustomerId, ok_bind, hpackageId, ok_bind, hrouteId, ok_bind, hcustomers, ok_bind, hpackages,
    ok_bind, hroutes, ok_bind, htrucks]
  rfl

/-- A writable snapshot of the current version is read back from its raw form. -/
theorem snapshotFromRaw_rawFromSnapshot {world : WorldSnapshotData} (h : world.Writable u) :
    snapshotFromRaw u (rawFromSnapshot ⟨schemaVersion, world⟩) = .ok ⟨schemaVersion, world⟩ := by
  have hheader : readHeader (rawFromSnapshot ⟨schemaVersion, world⟩) =
      .ok ([("schema_version", .int 2), ("world", .obj world.asdict), ("users", .null)], 2) := rfl
  have hdict : worldDict 2 [("schema_version", .int 2), ("world", .obj world.asdict),
      ("users", .null)] = .ok world.asdict := rfl
  have hsections : readSections world.asdict = .ok ⟨world.counters.asdict,
      world.customers.map fun customer ↦ .obj customer.asdict,
      world.packages.map fun package ↦ .obj package.asdict,
      world.routes.map fun route ↦ .obj route.asdict,
      world.trucks.map fun truck ↦ .obj truck.asdict⟩ := rfl
  unfold snapshotFromRaw
  rw [hheader, catchTypeError, ok_bind, require_bind_of_true (.inr rfl), hdict, ok_bind, hsections,
    catchTypeError, ok_bind, readWorld_asdict h]
  rfl

/-! ### What a dump can hold -/

theorem isPlain_ofOption {α : Type} {write : α → Json} (h : ∀ a, (write a).isPlain = true)
    (value : Option α) : (Json.ofOption write value).isPlain = true := by
  cases value with
  | none => rfl
  | some a => exact h a

theorem isPlain_arr_map {α : Type} {write : α → Json} (h : ∀ a, (write a).isPlain = true)
    (items : List α) : (Json.arr (items.map write)).isPlain = true := by
  rw [Json.isPlain, Json.itemsPlain_iff]
  intro item hitem
  obtain ⟨a, -, rfl⟩ := List.mem_map.mp hitem
  exact h a

theorem isPlain_obj (fields : JsonObject) : (Json.obj fields).isPlain =
    (decide (fields.map Prod.fst).Nodup && Json.fieldsPlain fields) := rfl

/-- Everything that is written can be dumped. -/
theorem isPlain_rawFromSnapshot (snapshot : WorldStateSnapshot) :
    (rawFromSnapshot snapshot).isPlain = true := by
  have hcode : ∀ code : LocationCode, code.toJson.isPlain = true := fun _ ↦ rfl
  have hint : ∀ n : Int, (Json.int n).isPlain = true := fun _ ↦ rfl
  have hstr : ∀ text : String, (Json.str text).isPlain = true := fun _ ↦ rfl
  have hfloat : ∀ x : Rat, (Json.float (.finite x)).isPlain = true := fun _ ↦ rfl
  have hnull : Json.null.isPlain = true := rfl
  have hcustomer : ∀ customer : CustomerSnapshot,
      (Json.obj customer.asdict).isPlain = true := fun _ ↦ rfl
  have hpackage : ∀ package : PackageSnapshot, (Json.obj package.asdict).isPlain = true := by
    intro package
    simp [PackageSnapshot.asdict, isPlain_obj, Json.fieldsPlain, hcode, hint, hfloat,
      isPlain_ofOption hint]
  have hroute : ∀ route : RouteSnapshot, (Json.obj route.asdict).isPlain = true := by
    intro route
    simp [RouteSnapshot.asdict, isPlain_obj, Json.fieldsPlain, hint, isPlain_ofOption hint,
      isPlain_ofOption hstr, isPlain_arr_map hcode, isPlain_arr_map hint]
  have htruck : ∀ truck : TruckSnapshot, (Json.obj truck.asdict).isPlain = true := by
    intro truck
    simp [TruckSnapshot.asdict, isPlain_obj, Json.fieldsPlain, hint, hstr, isPlain_ofOption hint,
      isPlain_ofOption hstr, isPlain_ofOption hcode]
  simp [rawFromSnapshot, WorldSnapshotData.asdict, CountersSnapshot.asdict, isPlain_obj,
    Json.fieldsPlain, hint, hnull, isPlain_arr_map hcustomer, isPlain_arr_map hpackage,
    isPlain_arr_map hroute, isPlain_arr_map htruck]

/-! ### The round trip -/

/-- What the builder makes of entities can be written. -/
theorem writable_buildWorldStateSnapshot {customers : List Customer}
    {packages : List DeliveryPackage} {routes : List DeliveryRoute} {trucks : List Truck}
    {counters : CountersSnapshot} (version : Int)
    (htrucks : ∀ truck ∈ trucks, (∀ code ∈ truck.currentLocation, code.Canonical u) ∧
      ∀ code ∈ truck.inTransitTo, code.Canonical u) :
    (buildWorldStateSnapshot customers packages routes trucks counters version).world.Writable u where
  weights := by
    intro snapshot hsnapshot
    obtain ⟨package, -, rfl⟩ := mem_sortedSnapshots.mp hsnapshot
    exact package.weight_pos
  packages := by
    intro snapshot hsnapshot
    obtain ⟨package, -, rfl⟩ := mem_sortedSnapshots.mp hsnapshot
    exact ⟨Map.canonical_of_mem package.startLocation_mem,
      Map.canonical_of_mem package.endLocation_mem⟩
  routes := by
    intro snapshot hsnapshot
    obtain ⟨route, -, rfl⟩ := mem_sortedSnapshots.mp hsnapshot
    exact fun code hcode ↦ Map.canonical_of_mem (route.plan.path.mem_map hcode)
  trucks := by
    intro snapshot hsnapshot
    obtain ⟨truck, htruck, rfl⟩ := mem_sortedSnapshots.mp hsnapshot
    exact htrucks truck htruck

/-- A snapshot of any entities is read back from the file that it was written to. -/
theorem read_write_snapshot (hu : PyStr.UpperStable u) (reload : Json → Except PyError Json)
    (hreload : ∀ value : Json, value.isPlain = true → reload value = .ok value)
    (customers : List Customer) (packages : List DeliveryPackage) (routes : List DeliveryRoute)
    (trucks : List Truck) (counters : CountersSnapshot)
    (hcodes : ∀ truck ∈ trucks, ∀ code : LocationCode,
      truck.currentLocation = some code ∨ truck.inTransitTo = some code →
        ∃ text, LocationCode.new u text = .ok code) :
    (do snapshotFromRaw u (← reload (rawFromSnapshot
        (buildWorldStateSnapshot customers packages routes trucks counters schemaVersion)))) =
      .ok (buildWorldStateSnapshot customers packages routes trucks counters schemaVersion) := by
  have hcanonical : ∀ truck ∈ trucks, (∀ code ∈ truck.currentLocation, code.Canonical u) ∧
      ∀ code ∈ truck.inTransitTo, code.Canonical u := by
    intro truck htruck
    constructor
    · intro code hcode
      obtain ⟨text, htext⟩ := hcodes truck htruck code (.inl hcode)
      exact LocationCode.canonical_of_new hu htext
    · intro code hcode
      obtain ⟨text, htext⟩ := hcodes truck htruck code (.inr hcode)
      exact LocationCode.canonical_of_new hu htext
  rw [hreload _ (isPlain_rawFromSnapshot _), ok_bind]
  exact snapshotFromRaw_rawFromSnapshot (writable_buildWorldStateSnapshot schemaVersion hcanonical)

namespace Scenario

/-- Two trucks, one of them under way and the other without a location. -/
def shownTrucks : List Truck :=
  [{ truck with
      status := .onTheWay, route := some 1, busyFrom := some .min, busyUntil := some .min
      inTransitTo := Map.locations.getLast? },
    { truck with name := .man, currentLocation := none }]

/-- Upper case outside ASCII is left alone here. -/
theorem upperStable_asciiOnly : PyStr.UpperStable .asciiOnly where
  ne_nil c _ := by simp [UnicodeTables.asciiOnly]
  upper c hc d hd := by
    obtain rfl := List.mem_singleton.mp hd
    rw [hc]
    rfl
  isSpace c _ d hd := by
    obtain rfl := List.mem_singleton.mp hd
    rfl

/-- Both trucks are read back. -/
theorem read_write_snapshot_trucks :
    snapshotFromRaw .asciiOnly (rawFromSnapshot
        (buildWorldStateSnapshot [] [] [] shownTrucks ⟨1, 1, 1⟩ schemaVersion)) =
      .ok (buildWorldStateSnapshot [] [] [] shownTrucks ⟨1, 1, 1⟩ schemaVersion) := by
  refine read_write_snapshot upperStable_asciiOnly .ok (fun _ _ ↦ rfl) [] [] [] shownTrucks
    ⟨1, 1, 1⟩ ?_
  have hcodes : ∀ code ∈ Map.locations, ∃ text, LocationCode.new .asciiOnly text = .ok code :=
    fun code hcode ↦ ⟨code.text, Map.canonical_of_mem hcode⟩
  intro truck htruck code hcode
  apply hcodes
  simp only [shownTrucks, List.mem_cons, List.not_mem_nil, or_false] at htruck
  rcases htruck with rfl | rfl
  · rcases hcode with hcode | hcode <;> obtain rfl := Option.some.inj hcode <;> decide
  · rcases hcode with hcode | hcode <;> cases hcode

end Scenario
end FleetFlow
