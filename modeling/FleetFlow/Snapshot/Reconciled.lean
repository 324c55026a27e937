import FleetFlow.Snapshot.Loaded

/-!
# How far a prepared world is reconciled

A prepared route, its packages and its truck are in the state that the schedule determines. The
one exception is a finished route whose truck is nowhere in the file: releasing that truck raises,
and the reconciler restores the route and goes on.
-/

namespace FleetFlow

variable {u : UnicodeTables} {fleet : Fleet} {now : Datetime} {snapshot : WorldStateSnapshot}
  {world : ReconciledWorld} {joined prepared : World} {skipped : List Int}

/-- The truck of a route has a record without a current location. -/
def WorldSnapshotData.Nowhere (data : WorldSnapshotData) (r : Int) : Prop :=
  ∃ record ∈ data.routes, record.routeId = r ∧ ∃ truck ∈ data.trucks,
    record.truckVehicleId = some truck.vehicleId ∧ truck.currentLocation = none

/-- A route of a prepared world is in the state that its schedule determines, with its packages
and with the truck that it has or has released. -/
structure ReconciledWorld.RouteReconciled (now : Datetime) (data : WorldSnapshotData)
    (world : ReconciledWorld) (r : Int) (route : DeliveryRoute) : Prop where
  status : route.status = route.statusAt now
  unfinished : route.Finished now → route.truck = none
  package : ∀ {p : Int} {package : DeliveryPackage}, world.packages.find? p = some package →
    package.route = some r → package.SettledOn route now
  truck : ∀ binding ∈ world.truckBindings, binding.route = some r → ∀ s,
    route.plan.schedule? = some s → ∃ truck : Truck,
      binding = WorldStateSnapshotLinker.bindingOf truck truck.route ∧
        truck.status = .onTheWay ∧ truck.OnSchedule s now
  released : ∀ record ∈ data.routes, record.routeId = r → ∀ t ∈ record.truckVehicleId,
    route.Finished now → ∃ binding ∈ world.truckBindings, binding.vehicleId = t ∧
      binding.status = .free ∧ binding.route = none ∧
      binding.currentLocation = some route.endLocation ∧ binding.inTransitTo = none

namespace WorldSnapshotData.Linked

variable {data : WorldSnapshotData} {version : Int}

/-- A truck of a route is nowhere only if its record says so. -/
theorem nowhere (h : data.Linked u fleet joined) (hvalid : data.Valid u fleet version) {r t : Int}
    {route : DeliveryRoute} {truck : Truck} (hr : joined.routes.find? r = some route)
    (hlink : route.truck = some t) (ht : joined.trucks.find? t = some truck)
    (hplace : truck.currentLocation = none) : data.Nowhere r := by
  have hl := h.routeLinked hvalid
  rcases h.truck_cases hvalid ht with ⟨record, hrecord, hname, route', candidate, hr', hlink',
    hcandidate, rfl⟩ | ⟨-, -, hfree, -⟩
  · have hid : r = record.routeId := hl.eq_of_truck hr hr' hlink hlink'
    have hplace' : candidate.currentLocation = none := hplace
    refine ⟨record, hrecord, hid.symm, ?_⟩
    rcases hcandidate with ⟨listed, hlisted, rfl, hbuild⟩ | ⟨-, real, -, rfl⟩
    · refine ⟨listed, hlisted, hname, ?_⟩
      simp only [WorldStateSnapshotLinker.buildCandidateTruck, except_bind_eq_ok_iff,
        Except.ok.injEq] at hbuild
      obtain ⟨real, -, from_, -, until_, -, rfl⟩ := hbuild
      exact hplace'
    · cases hplace'
  · obtain ⟨truck', ht', hroute⟩ := hl.truck_of_route hr hlink
    obtain rfl := Option.some.inj (ht.symm.trans ht')
    rw [hfree] at hroute
    cases hroute

end WorldSnapshotData.Linked

namespace ReconciledWorld.PreparedFrom

/-- A route that is skipped has finished, and its truck is nowhere. -/
theorem nowhere_of_skipped
    (h : world.PreparedFrom u fleet now snapshot skipped joined prepared) {r : Int}
    {route : DeliveryRoute} (hr : prepared.routes.find? r = some route) (hs : r ∈ skipped) :
    snapshot.world.Nowhere r ∧ route.Finished now := by
  obtain ⟨before, t, truck, hbefore, hlink, ht, hplace, hfin⟩ := h.advanced.stuck r hs
  obtain ⟨after, hafter, hmoved⟩ := h.advanced.routes.forward hbefore
  obtain rfl := Option.some.inj (hr.symm.trans hafter)
  refine ⟨h.linked.nowhere h.valid hbefore hlink ht hplace, ?_⟩
  rw [← DeliveryRoute.statusAt_eq_completed_iff] at hfin ⊢
  unfold DeliveryRoute.statusAt at hfin ⊢
  rwa [hmoved.links.2.1]

/-- A route that is not skipped is reconciled. -/
theorem routeReconciled
    (h : world.PreparedFrom u fleet now snapshot skipped joined prepared) {r : Int}
    {route : DeliveryRoute} (hr : prepared.routes.find? r = some route) (hs : r ∉ skipped) :
    world.RouteReconciled now snapshot.world r route := by
  have hjoined := h.linked.linked h.valid
  have hl := h.worldLinked
  have hsettled := h.advanced.routeSettled hjoined hr hs
  refine ⟨hsettled.status, hsettled.unfinished, fun {p package} hp hlink ↦ ?_, ?_, ?_⟩
  · exact hsettled.package (h.packages ▸ hp) hlink
  · intro binding hbinding hroute s hplan
    obtain ⟨truck, ht, rfl⟩ := (h.bindings binding).mp hbinding
    refine ⟨truck, rfl, (hl.linkState _ _ ht).onTheWay.mpr ?_, hsettled.truck ht hroute hplan⟩
    exact Option.isSome_iff_exists.mpr ⟨r, hroute⟩
  · intro record hrecord hid t ht hfin
    obtain ⟨before, candidate, hbefore, -, htruck⟩ := h.linked.assigned record hrecord t ht
    rw [hid] at hbefore
    obtain ⟨after, hafter, hmoved⟩ := h.advanced.routes.forward hbefore
    obtain rfl := Option.some.inj (hr.symm.trans hafter)
    have hkey : before.routeId = r := Store.key_of_find? hbefore
    have hend : before.endLocation = route.endLocation := by
      unfold DeliveryRoute.endLocation
      rw [hmoved.links.2.1]
    have hfinBefore : before.Finished now := by
      rw [← DeliveryRoute.statusAt_eq_completed_iff] at hfin ⊢
      unfold DeliveryRoute.statusAt at hfin ⊢
      rwa [← hmoved.links.2.1]
    obtain ⟨truck, hfind, h1, h2, h3, h4⟩ :=
      h.advanced.released_of_notMem hbefore hs hfinBefore htruck (congrArg some hkey)
    have hvehicle : truck.vehicleId = t := Store.key_of_find? hfind
    refine ⟨WorldStateSnapshotLinker.bindingOf truck truck.route, ?_, hvehicle, h1, h2,
      h3.trans (congrArg some hend), h4⟩
    refine (h.bindings _).mpr ⟨truck, ?_, rfl⟩
    rw [← hfind, ← hvehicle]
    rfl

end ReconciledWorld.PreparedFrom

/-- A prepared route is reconciled unless it has finished and its truck is nowhere in the file. -/
theorem WorldStateSnapshotPreparer.prepared_reconciled {supportedSchemaVersions : List Int}
    (h : prepare u fleet now snapshot supportedSchemaVersions = .ok world) {r : Int}
    {route : DeliveryRoute} (hr : world.routes.find? r = some route)
    (hplace : snapshot.world.Nowhere r → ¬ route.Finished now) :
    world.RouteReconciled now snapshot.world r route := by
  obtain ⟨skipped, joined, prepared, hfrom⟩ := preparedFrom_of_prepare h
  rw [hfrom.routes] at hr
  by_cases hs : r ∈ skipped
  · obtain ⟨hnowhere, hfin⟩ := hfrom.nowhere_of_skipped hr hs
    exact absurd hfin (hplace hnowhere)
  · exact hfrom.routeReconciled hr hs

namespace Scenario

/-- A computation whose result passes a test returns it. -/
theorem exists_ok_of_any {ε α : Type} {result : Except ε α} {p : α → Bool}
    (h : result.toOption.any p = true) : ∃ a, result = .ok a ∧ p a = true := by
  cases result with
  | error e => cases h
  | ok a => exact ⟨a, rfl, h⟩

/-- A finished route keeps its status and its truck when the file places the truck nowhere. -/
theorem not_prepared_reconciled_nowhere : ∃ world route,
    WorldStateSnapshotPreparer.prepare .asciiOnly Scenario.fleet (hour 20) (routeFile none)
      supportedSchemaVersions = .ok world ∧ world.routes.find? 1 = some route ∧
    ¬ world.RouteReconciled (hour 20) (routeFile none).world 1 route := by
  have hstale : (WorldStateSnapshotPreparer.prepare .asciiOnly Scenario.fleet (hour 20)
      (routeFile none) supportedSchemaVersions).toOption.any (fun world ↦
        (world.routes.find? 1).any fun route ↦ decide (route.status ≠ route.statusAt (hour 20))) =
          true := by
    decide +kernel
  obtain ⟨world, hprepare, hany⟩ := exists_ok_of_any hstale
  obtain ⟨route, hroute, hne⟩ := (Option.any_eq_true _ _).mp hany
  exact ⟨world, route, hprepare, hroute, fun h ↦ of_decide_eq_true hne h.status⟩

/-- With a place in the file the same route is finished and its truck released. -/
theorem prepared_reconciled_placed : ∃ world route,
    WorldStateSnapshotPreparer.prepare .asciiOnly Scenario.fleet (hour 20)
      (routeFile Map.locations.head?) supportedSchemaVersions = .ok world ∧
    world.routes.find? 1 = some route ∧
    world.RouteReconciled (hour 20) (routeFile Map.locations.head?).world 1 route := by
  have hplaced : (WorldStateSnapshotPreparer.prepare .asciiOnly Scenario.fleet (hour 20)
      (routeFile Map.locations.head?) supportedSchemaVersions).toOption.any
        (fun world ↦ (world.routes.find? 1).isSome) = true := by
    decide +kernel
  have hsome : (routeFile Map.locations.head?).world.trucks.all
      (fun truck ↦ truck.currentLocation.isSome) = true := by
    decide +kernel
  obtain ⟨world, hprepare, hfind⟩ := exists_ok_of_any hplaced
  obtain ⟨route, hroute⟩ := Option.isSome_iff_exists.mp hfind
  refine ⟨world, route, hprepare, hroute,
    WorldStateSnapshotPreparer.prepared_reconciled hprepare hroute ?_⟩
  rintro ⟨record, -, -, truck, htruck, -, hnone⟩
  have hlocated := List.all_eq_true.mp hsome truck htruck
  rw [hnone] at hlocated
  cases hlocated

end Scenario
end FleetFlow
