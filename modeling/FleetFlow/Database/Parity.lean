import FleetFlow.Database.Importer

/-!
# The two backends import the same world

The importer leaves a truck without a binding as it is, while the in-memory replacement frees it
first. The columns of ids, texts and weights do not hold every value that a snapshot may have.
Where neither matters the two imports leave the same world.
-/

namespace FleetFlow

open Database ColumnTypes Program PostgresWorldStateImporter

-- The columns of this module are those of PostgreSQL.
attribute [local instance] ColumnTypes.postgres

/-- The tables hold exactly the entities of a world and its next ids. -/
structure Database.Tables.Holds (tables : Tables) (w : World) : Prop where
  customers : tables.customers.Perm (w.customers.values.map CustomerRow.ofCustomer)
  trucks : tables.trucks.Perm (w.trucks.values.map TruckRow.ofTruck)
  routes : tables.routes.Perm (w.routes.values.map RouteRow.ofRoute)
  routeStops : tables.routeStops.Perm (w.routes.values.flatMap stopRows)
  packages : tables.packages.Perm (w.packages.values.map PackageRow.ofPackage)
  counters : tables.nextCustomerId = w.nextCustomerId ∧ tables.nextRouteId = w.nextRouteId ∧
    tables.nextPackageId = w.nextPackageId

/-- The tables of a world. -/
def Database.Tables.ofWorld (w : World) : Tables where
  customers := w.customers.values.map CustomerRow.ofCustomer
  trucks := w.trucks.values.map TruckRow.ofTruck
  routes := w.routes.values.map RouteRow.ofRoute
  routeStops := w.routes.values.flatMap stopRows
  packages := w.packages.values.map PackageRow.ofPackage
  nextCustomerId := w.nextCustomerId
  nextRouteId := w.nextRouteId
  nextPackageId := w.nextPackageId

/-- They hold the world. -/
theorem Database.holds_ofWorld {w : World} : (Tables.ofWorld w).Holds w :=
  ⟨.refl _, .refl _, .refl _, .refl _, .refl _, rfl, rfl, rfl⟩

/-- The columns of PostgreSQL hold the values of a snapshot. Its ids are below its counters, and no
accepted email or phone number has a NUL. -/
structure WorldSnapshotData.FitsColumns (u : UnicodeTables) (data : WorldSnapshotData) : Prop where
  email : ∀ record ∈ data.customers, (record.emailKey u).length ≤ 255
  name : ∀ record ∈ data.customers, nul ∉ record.name.toList
  weight : ∀ record ∈ data.packages, cents record.weight = record.weight ∧ record.weight < 1000000
  counters : data.counters.nextCustomerId ≤ maxInt ∧ data.counters.nextRouteId ≤ maxInt ∧
    data.counters.nextPackageId ≤ maxInt

/-- What makes both backends load a snapshot alike: values that the columns hold, and something
said about every truck that was under way. -/
structure WorldSnapshotData.ImportsAlike (u : UnicodeTables) (previous : World)
    (data : WorldSnapshotData) : Prop where
  columns : data.FitsColumns u
  named : previous.trucks.All fun truck ↦ truck.status = .onTheWay → data.Names truck.vehicleId

variable {u : UnicodeTables} {now : Datetime} {snapshot : WorldStateSnapshot}
  {world : ReconciledWorld} {previous joined prepared w : World} {skipped : List Int}
  {tables tables' : Tables}

/-- The tables have a row for every truck of the fleet. -/
theorem Database.Tables.Holds.exists_truck (h : tables.Holds w) (t : Int)
    (ht : (w.trucks.find? t).isSome) : ∃ row ∈ tables.trucks, row.vehicleId = t := by
  obtain ⟨truck, hfind⟩ := Option.isSome_iff_exists.mp ht
  have hid : truck.vehicleId = t := Store.key_of_find? hfind
  have hmem : TruckRow.ofTruck truck ∈ w.trucks.values.map TruckRow.ofTruck :=
    List.mem_map_of_mem (Store.mem_values_of_find? hfind)
  exact ⟨.ofTruck truck, h.trucks.mem_iff.mpr hmem, hid⟩

/-- Freeing an idle truck changes nothing. -/
theorem Truck.free_eq_self {truck : Truck} (hstate : truck.LinkState)
    (hfree : truck.status = .free) : truck.free = truck := by
  have hroute : truck.route = none := by
    rw [Option.eq_none_iff_forall_ne_some]
    intro r hr
    have hway := hstate.onTheWay.mpr (by rw [hr]; rfl)
    rw [hfree] at hway
    cases hway
  obtain ⟨hfrom, huntil, hdestination⟩ := hstate.idle hroute
  unfold Truck.free
  rw [← hfree, ← hroute, ← hdestination, ← hfrom]
  cases truck
  simp_all

namespace ReconciledWorld.PreparedFrom

variable {fleet : Fleet} (h : world.PreparedFrom u fleet now snapshot skipped joined prepared)
include h

/-! ### Values that the columns hold -/

/-- What holds of all customers of a prepared world, by their records. -/
theorem customers_iff {p : ContactInfo → Prop} {q : CustomerSnapshot → Prop}
    (hpq : ∀ {record : CustomerSnapshot} {contact : ContactInfo},
      ContactInfo.new u record.name record.email record.phone = .ok contact →
        (p contact ↔ q record)) :
    (world.customers.All fun customer ↦ p customer.contact) ↔
      ∀ record ∈ snapshot.world.customers, q record := by
  rw [h.customers_joined]
  constructor
  · intro hall record hrecord
    obtain ⟨customer, hfind, hrel⟩ := h.linked.customers.forward hrecord
    exact (hpq hrel.contact).mp (hall _ customer hfind)
  · intro hall c customer hfind
    obtain ⟨record, hrecord, -, hrel⟩ := h.linked.customers.backward hfind
    exact (hpq hrel.contact).mpr (hall record hrecord)

/-- The customers of a prepared world have the emails of their records. -/
theorem email_iff : (world.customers.All fun customer ↦ customer.contact.email.length ≤ 255) ↔
    ∀ record ∈ snapshot.world.customers, (record.emailKey u).length ≤ 255 := by
  apply h.customers_iff (p := fun contact ↦ contact.email.length ≤ 255)
  intro record contact hnew
  rw [(ContactInfo.keys_of_new hnew).1]

/-- A customer's name contains NUL exactly when its record's does. -/
theorem name_iff : (world.customers.All fun customer ↦ nul ∉ customer.contact.name.toList) ↔
    ∀ record ∈ snapshot.world.customers, nul ∉ record.name.toList := by
  apply h.customers_iff (p := fun contact ↦ nul ∉ contact.name.toList)
  intro record contact hnew
  rw [ContactInfo.name_of_new hnew]
  exact not_congr PyStr.nul_mem_strip_iff

/-- The packages of a prepared world have the weights of their records. -/
theorem weight_iff {p : Rat → Prop} : (world.packages.All fun package ↦ p package.weight) ↔
    ∀ record ∈ snapshot.world.packages, p record.weight := by
  have hl := (h.linked.linked h.valid).toRouteLinked
  rw [h.packages]
  constructor
  · intro hall record hrecord
    obtain ⟨before, hbefore, -, -, hweight, -⟩ := h.linked.exists_package h.valid hrecord
    obtain ⟨after, hafter, hmoved⟩ := h.advanced.packages.forward hbefore
    rw [← hweight, (hmoved.links hl hbefore).1.weight]
    exact hall _ after hafter
  · intro hall k after hafter
    obtain ⟨before, hbefore, hmoved⟩ := h.advanced.packages.backward hafter
    obtain ⟨record, hrecord, -, -, -, hweight, -⟩ := h.linked.package_record hbefore
    rw [← (hmoved.links hl hbefore).1.weight, hweight]
    exact hall record hrecord

/-- A route has no more stops than there are places, so their positions fit. -/
theorem fitsRows_of_counters (hcounter : snapshot.world.counters.nextRouteId ≤ maxInt) :
    world.routes.All (@DeliveryRoute.FitsRows postgres) := by
  intro r route hfind
  have hlt := h.counted.routes r route hfind
  rw [h.counters] at hlt
  have hlength : route.locations.length ≤ Map.locations.length :=
    (List.subperm_of_subset route.plan.path.nodup fun _ hl ↦ route.plan.path.mem_map hl).length_le
  have hplaces : (Map.locations.length : Int) ≤ maxInt := by decide
  constructor
  · exact holdsInt_postgres_of_lt route.routeId_pos.le hlt hcounter
  · intro k hk
    apply holdsInt_postgres_of_lt (Int.natCast_nonneg k) _ hplaces
    omega

/-- The columns hold the values of a prepared world exactly when they hold those of the
snapshot. -/
theorem fitsColumns_iff :
    (@ReconciledWorld.FitsColumns postgres world ∧
        world.packages.All fun package ↦ cents package.weight = package.weight) ↔
      snapshot.world.FitsColumns u := by
  have hclean : world.customers.All fun customer ↦ customer.contact.Clean u :=
    h.customers_joined ▸ h.linked.clean
  have hweights := h.weight_iff (p := fun weight ↦ cents weight = weight ∧ weight < 1000000)
  constructor
  · rintro ⟨hfits, hkept⟩
    refine ⟨h.email_iff.mp hfits.email, h.name_iff.mp fun c customer hfind ↦ ?_,
      hweights.mp fun p package hfind ↦ ?_, ?_⟩
    · exact holdsText_postgres_iff.mp (hfits.texts c customer hfind _ (by simp))
    · have hcents := hkept p package hfind
      exact ⟨hcents, hcents ▸ (hfits.weight p package hfind).2⟩
    · have hbound : ∀ next ∈ [world.counters.nextCustomerId, world.counters.nextRouteId,
          world.counters.nextPackageId], next ≤ maxInt := fun next hmem ↦
        (of_decide_eq_true (hfits.counters next hmem)).2
      rw [← h.counters]
      exact ⟨hbound _ (by simp), hbound _ (by simp), hbound _ (by simp)⟩
  · intro hsnapshot
    have hkept := hweights.mpr hsnapshot.weight
    obtain ⟨hcustomer, hroute, hpackage⟩ := hsnapshot.counters
    have hcounted := h.counted
    have hpos := hcounted.pos
    rw [h.counters] at hpos
    refine ⟨⟨h.email_iff.mpr hsnapshot.email, ?_, ?_, ?_, ?_, h.fitsRows_of_counters hroute, ?_⟩,
      fun p package hfind ↦ (hkept p package hfind).1⟩
    · intro c customer hfind text hmem
      have hcontact := hclean c customer hfind
      rw [holdsText_postgres_iff]
      simp only [List.mem_cons, List.not_mem_nil, or_false] at hmem
      rcases hmem with rfl | rfl | rfl
      · exact h.name_iff.mpr hsnapshot.name c customer hfind
      · exact hcontact.nul_notMem_email
      · exact hcontact.nul_notMem_phoneNumber
    · intro p package hfind
      obtain ⟨hcents, hlt⟩ := hkept p package hfind
      rw [hcents]
      exact ⟨package.weight_pos, hlt⟩
    · intro c customer hfind
      exact holdsInt_postgres_of_lt customer.customerId_pos.le
        (h.counters ▸ hcounted.customers c customer hfind) hcustomer
    · intro p package hfind
      exact holdsInt_postgres_of_lt package.packageId_pos.le
        (h.counters ▸ hcounted.packages p package hfind) hpackage
    · intro next hmem
      have hmin : -maxInt - 1 ≤ 0 := by decide
      rw [h.counters] at hmem
      simp only [List.mem_cons, List.not_mem_nil, or_false] at hmem
      apply decide_eq_true
      rcases hmem with rfl | rfl | rfl <;> omega

/-! ### Trucks -/

/-- A prepared world has the trucks that its snapshot lists or names. -/
theorem isSome_truck_iff {t : Int} :
    (prepared.trucks.find? t).isSome ↔ snapshot.world.Names t := by
  rw [← h.linked.isSome_truck_iff h.valid]
  have hnone := h.advanced.trucks.find?_eq_none_iff (k := t)
  rw [← Option.ne_none_iff_isSome, ← Option.ne_none_iff_isSome]
  exact not_congr hnone.symm

/-- The importer gives a truck the state of its prepared truck. -/
theorem updatedTruck_of_prepared {t : Int} {before truck : Truck}
    (hbefore : fleet.find? t = some before) (ht : prepared.trucks.find? t = some truck) :
    updatedTruck world.truckBindings (.ofTruck before) = .ofTruck truck := by
  obtain ⟨real, hreal, hsame⟩ := h.sameVehicle ht
  obtain rfl := Option.some.inj (hbefore.symm.trans hreal)
  have hid : truck.vehicleId = t := Store.key_of_find? ht
  let binding := WorldStateSnapshotLinker.bindingOf truck truck.route
  have hmem : binding ∈ world.truckBindings := by
    refine (h.bindings binding).mpr ⟨truck, ?_, rfl⟩
    show prepared.trucks.find? truck.vehicleId = some truck
    rw [hid, ht]
  have hkey : binding.vehicleId = (TruckRow.ofTruck before).vehicleId := hsame.vehicleId.symm
  unfold updatedTruck
  rw [updated_of_mem _ _ _ h.bindings_nodup hmem hkey]
  unfold TruckRow.ofTruck TruckRow.setState
  rw [hsame.vehicleId, hsame.name, hsame.capacity, hsame.maxRange]
  rfl

/-- The importer leaves a truck that is not prepared. -/
theorem updatedTruck_of_unprepared {t : Int} {before : Truck}
    (hbefore : fleet.find? t = some before) (ht : prepared.trucks.find? t = none) :
    updatedTruck world.truckBindings (.ofTruck before) = .ofTruck before := by
  have hid : before.vehicleId = t := Store.key_of_find? hbefore
  apply updated_of_notMem
  intro hmem
  obtain ⟨binding, hbinding, hkey⟩ := List.mem_map.mp hmem
  obtain ⟨truck, htruck, -⟩ := (h.bindings binding).mp hbinding
  have hkey' : binding.vehicleId = t := hkey.trans hid
  rw [hkey', ht] at htruck
  cases htruck

end ReconciledWorld.PreparedFrom

/-! ### Both imports -/

/-- The rows of the packages after both imports are the same exactly when no weight is
rounded. -/
theorem ReconciledWorld.perm_packages_iff {world : ReconciledWorld} :
    (world.packages.values.map storedPackage).Perm
        (world.packages.values.map PackageRow.ofPackage) ↔
      world.packages.All fun package ↦ cents package.weight = package.weight := by
  constructor
  · intro hperm p package hfind
    have hmem := hperm.mem_iff.mp (List.mem_map_of_mem (Store.mem_values_of_find? hfind))
    obtain ⟨other, hother, hrow⟩ := List.mem_map.mp hmem
    have hid : other.packageId = package.packageId := congrArg PackageRow.packageId hrow
    have hsame : other = package :=
      List.inj_on_of_nodup_map Store.nodup_values hother (Store.mem_values_of_find? hfind) hid
    rw [hsame] at hrow
    exact (congrArg PackageRow.weight hrow).symm
  · intro hkept
    have hsame : world.packages.values.map storedPackage =
        world.packages.values.map PackageRow.ofPackage := by
      apply List.map_congr_left
      intro package hmem
      unfold storedPackage
      rw [hkept _ package (Store.mem_values.mp hmem)]
      rfl
    rw [hsame]

/-- The fleet before a load and after it. -/
theorem World.Loaded.trucks_related (hloaded : previous.Loaded prepared w)
    (hfleet : ∀ {t truck}, prepared.trucks.find? t = some truck →
      ∃ before, previous.trucks.find? t = some before) :
    Store.Related (fun before after ↦ prepared.trucks.find? before.vehicleId = some after ∨
      prepared.trucks.find? before.vehicleId = none ∧ after = before.free)
      previous.trucks w.trucks := by
  constructor
  · intro t before hbefore
    have hid : before.vehicleId = t := Store.key_of_find? hbefore
    rw [hloaded.trucks, hbefore, hid]
    cases ht : prepared.trucks.find? t with
    | none => exact ⟨before.free, rfl, .inr ⟨rfl, rfl⟩⟩
    | some truck => exact ⟨truck, rfl, .inl rfl⟩
  · intro t after hafter
    rw [hloaded.trucks] at hafter
    cases ht : prepared.trucks.find? t with
    | none =>
      rw [ht, Option.none_or, Option.map_eq_some_iff] at hafter
      obtain ⟨before, hbefore, rfl⟩ := hafter
      have hid : before.vehicleId = t := Store.key_of_find? hbefore
      exact ⟨before, hbefore, .inr ⟨hid ▸ ht, rfl⟩⟩
    | some truck =>
      rw [ht, Option.some_or] at hafter
      obtain ⟨before, hbefore⟩ := hfleet ht
      have hid : before.vehicleId = t := Store.key_of_find? hbefore
      exact ⟨before, hbefore, .inl (hid ▸ ht.trans hafter)⟩

namespace ReconciledWorld.PreparedFrom

variable (h : world.PreparedFrom u previous.trucks now snapshot skipped joined prepared)
include h

/-- The fleet after both imports is the same exactly when no truck that was under way is left
out. -/
theorem perm_trucks_iff (hstate : previous.trucks.All Truck.LinkState)
    (hloaded : previous.Loaded prepared w)
    (htables : tables.trucks.Perm (previous.trucks.values.map TruckRow.ofTruck)) :
    (tables.trucks.map (updatedTruck world.truckBindings)).Perm
        (w.trucks.values.map TruckRow.ofTruck) ↔
      previous.trucks.All fun truck ↦
        truck.status = .onTheWay → snapshot.world.Names truck.vehicleId := by
  have hrelated := hloaded.trucks_related fun ht ↦ by
    obtain ⟨before, hbefore, -⟩ := h.sameVehicle ht
    exact ⟨before, hbefore⟩
  have hrows := htables.map (updatedTruck world.truckBindings)
  rw [List.map_map] at hrows
  constructor
  · intro hperm t before hbefore hway
    have hid : before.vehicleId = t := Store.key_of_find? hbefore
    rw [← h.isSome_truck_iff]
    by_contra hnone
    rw [Option.not_isSome_iff_eq_none, hid] at hnone
    obtain ⟨after, hafter, hcases⟩ := hrelated.forward hbefore
    -- The row is as it was, but the truck is free.
    have hmem := (hrows.symm.trans hperm).mem_iff.mp
      (List.mem_map_of_mem (Store.mem_values_of_find? hbefore))
    obtain ⟨truck, htruck, hrow⟩ := List.mem_map.mp hmem
    rw [Function.comp_apply, h.updatedTruck_of_unprepared hbefore hnone] at hrow
    have htid : truck.vehicleId = t := (congrArg TruckRow.vehicleId hrow).trans hid
    have hstatus : truck.status = .onTheWay := (congrArg TruckRow.status hrow).trans hway
    have hfind := Store.mem_values.mp htruck
    rw [htid, hafter] at hfind
    obtain rfl := Option.some.inj hfind
    rw [hid, hnone] at hcases
    obtain hcase | ⟨-, rfl⟩ := hcases
    · cases hcase
    · cases hstatus
  · intro hnamed
    have hsame : previous.trucks.values.map (updatedTruck world.truckBindings ∘ TruckRow.ofTruck) =
        w.trucks.values.map TruckRow.ofTruck := by
      apply hrelated.map_values
      intro before after hbefore _ hcases
      rw [Function.comp_apply]
      rcases hcases with hprepared | ⟨hnone, rfl⟩
      · exact h.updatedTruck_of_prepared hbefore hprepared
      · rw [h.updatedTruck_of_unprepared hbefore hnone]
        cases hs : before.status with
        | free => rw [Truck.free_eq_self (hstate _ _ hbefore) hs]
        | onTheWay =>
          have hsome := h.isSome_truck_iff.mpr (hnamed _ _ hbefore hs)
          rw [hnone] at hsome
          cases hsome
    exact hsame ▸ hrows

end ReconciledWorld.PreparedFrom

/-- Both backends import a world, with the same result. -/
def ReconciledWorld.ImportedAlike (world : ReconciledWorld) (tables : Tables) (previous : World) :
    Prop :=
  ∃ tables' w, @importWorld postgres world tables = .ok tables' ∧
    InMemoryWorldStateRuntime.replaceWorldState .none world previous = .ok ⟨⟩ w ∧ tables'.Holds w

namespace ReconciledWorld.PreparedFrom

variable (h : world.PreparedFrom u previous.trucks now snapshot skipped joined prepared)
  (hp : previous.Linked) (htables : tables.Holds previous)
include h hp htables

/-- What two equal imports say about the snapshot. -/
theorem importsAlike_of_imported (halike : world.ImportedAlike tables previous) :
    snapshot.world.ImportsAlike u previous := by
  obtain ⟨tables', w, himport, hreplace, hholds⟩ := halike
  have hensures := WorldStateSnapshotService.ensures_replaceWorldState hp.toRouteLinked h
  rw [Program.ensures_iff, hreplace] at hensures
  have hloaded : previous.Loaded prepared w := hensures
  obtain ⟨hfits, rfl⟩ := (importWorld_eq_ok_iff h htables.exists_truck).mp himport
  have hpackages := hholds.packages
  rw [hloaded.packages, ← h.packages] at hpackages
  exact ⟨h.fitsColumns_iff.mp ⟨hfits, ReconciledWorld.perm_packages_iff.mp hpackages⟩,
    (h.perm_trucks_iff hp.linkState hloaded htables.trucks).mp hholds.trucks⟩

/-- The imports of a snapshot on which the backends agree. -/
theorem imported_of_importsAlike (halike : snapshot.world.ImportsAlike u previous) :
    world.ImportedAlike tables previous := by
  have hreplace := WorldStateSnapshotService.ensures_replaceWorldState hp.toRouteLinked h
  rw [Program.ensures_iff] at hreplace
  cases hrun : InMemoryWorldStateRuntime.replaceWorldState .none world previous with
  | error e w =>
    rw [hrun] at hreplace
    exact hreplace.elim
  | ok _ w =>
    rw [hrun] at hreplace
    have hloaded : previous.Loaded prepared w := hreplace
    obtain ⟨hfits, hkept⟩ := h.fitsColumns_iff.mpr halike.columns
    refine ⟨_, w, (importWorld_eq_ok_iff h htables.exists_truck).mpr ⟨hfits, rfl⟩, hrun, ?_⟩
    have hcounters : world.counters.nextCustomerId = w.nextCustomerId ∧
        world.counters.nextRouteId = w.nextRouteId ∧
        world.counters.nextPackageId = w.nextPackageId := by
      rw [hloaded.counters.1, hloaded.counters.2.1, hloaded.counters.2.2, h.counters_eq]
      exact ⟨rfl, rfl, rfl⟩
    have hcustomers : world.customers = w.customers := h.customers.trans hloaded.customers.symm
    have hroutes : world.routes = w.routes := h.routes.trans hloaded.routes.symm
    have hpackages : world.packages = w.packages := h.packages.trans hloaded.packages.symm
    refine ⟨?_, ?_, ?_, ?_, ?_, hcounters⟩
    · exact hcustomers ▸ .refl _
    · exact (h.perm_trucks_iff hp.linkState hloaded htables.trucks).mpr halike.named
    · exact hroutes ▸ .refl _
    · exact hroutes ▸ .refl _
    · rw [← hpackages]
      exact ReconciledWorld.perm_packages_iff.mpr hkept

end ReconciledWorld.PreparedFrom

namespace Scenario

/-- A file of the first version that lists nothing. -/
def emptyFile : WorldStateSnapshot where
  schemaVersion := 1
  world := { counters := ⟨1, 1, 1⟩, customers := [], packages := [], routes := [], trucks := [] }

end Scenario
end FleetFlow
