import FleetFlow.Snapshot.Prepared

/-!
# Where a prepared world has its packages and trucks

Every package and every truck that has a location is at a hub, and a truck on its way drives to
one.
-/

namespace FleetFlow

open Reconciler

variable {u : UnicodeTables} {fleet : Fleet} {now : Datetime} {snapshot : WorldStateSnapshot}
  {world : ReconciledWorld} {joined prepared : World} {skipped : List Int}

/-- A package in the state that its route determines is at a hub. -/
theorem DeliveryPackage.SettledOn.mem_locations {route : DeliveryRoute}
    {package : DeliveryPackage} (h : package.SettledOn route now)
    (hin : route.includesInOrder package.startLocation package.endLocation = true) :
    package.currentLocation ∈ Map.locations := by
  obtain ⟨-, hstart, hend, -⟩ := DeliveryPackage.check_eq_ok_iff.mp package.valid
  unfold SettledOn at h
  cases hs : route.plan.schedule? with
  | none =>
    rw [hs] at h
    rw [h.currentLocation]
    exact hstart
  | some s =>
    rw [hs] at h
    obtain ⟨i, j, pickup, delivery, hvisit, -⟩ := exists_visitedInOrder hs hin
    by_cases hpickup : now < pickup.arrivalAt
    · rw [(h.todo _ hvisit.arrival_start hpickup).2]
      exact hstart
    · by_cases hdelivery : delivery.arrivalAt ≤ now
      · rw [(h.done _ hvisit.arrival_end hdelivery).2]
        exact hend
      · obtain ⟨-, k, stop, hreached, hlocation⟩ := h.inProgress _ _ hvisit.arrival_start
          hvisit.arrival_end (not_lt.mp hpickup) (not_le.mp hdelivery)
        rw [hlocation]
        exact route.plan.path.mem_map
          (List.mem_of_getElem? (DeliveryRoute.getElem?_locations hs hreached.getElem?))

/-- A pass leaves a truck of a route at hubs. -/
theorem Reconciler.TruckPass.supported {route : DeliveryRoute} {a b : Truck}
    (h : TruckPass route now a b) (hplace : ∀ l ∈ a.currentLocation, l ∈ Map.locations) :
    (∀ l ∈ b.currentLocation, l ∈ Map.locations) ∧ ∀ l ∈ b.inTransitTo, l ∈ Map.locations := by
  by_cases hfin : route.Finished now
  · obtain ⟨-, -, -, -, htransit, hlocation⟩ := h.released hfin
    rw [hlocation, htransit]
    refine ⟨fun l hl ↦ ?_, fun _ hl ↦ by cases hl⟩
    exact Option.some.inj hl ▸ route.plan.path.mem_map (List.getLast_mem _)
  · cases hs : route.plan.schedule? with
    | none =>
      obtain ⟨hlocation, htransit⟩ := h.unscheduled hs
      rw [hlocation, htransit]
      exact ⟨hplace, fun _ hl ↦ by cases hl⟩
    | some s =>
      have hlt : now < s.etaFinal :=
        not_le.mp fun hle ↦ hfin ((DeliveryRoute.finished_iff hs).mpr hle)
      have hlocated : b.Located fun place ↦ ∀ l ∈ place, l ∈ Map.locations :=
        World.located_of_onSchedule hs (fun l hl l' hl' ↦ Option.some.inj hl' ▸ hl)
          (h.onSchedule s hs hlt) hlt
      exact ⟨hlocated.place, hlocated.destination⟩

namespace ReconciledWorld.PreparedFrom

/-- The truck of a valid record is at a hub and drives to a hub. -/
theorem supported_of_buildCandidateTruck {data : WorldSnapshotData} {version : Int}
    (hvalid : data.Valid u fleet version) {record : TruckSnapshot} (hrecord : record ∈ data.trucks)
    {truck : Truck}
    (hbuild : WorldStateSnapshotLinker.buildCandidateTruck u fleet record = .ok truck) :
    (∀ l ∈ truck.currentLocation, l ∈ Map.locations) ∧
      ∀ l ∈ truck.inTransitTo, l ∈ Map.locations := by
  have hstate := (hvalid.truckState record hrecord).2
  simp only [WorldStateSnapshotLinker.buildCandidateTruck, except_bind_eq_ok_iff,
    Except.ok.injEq] at hbuild
  obtain ⟨real, -, _, -, _, -, rfl⟩ := hbuild
  exact ⟨hstate.currentLocation, hstate.inTransitTo⟩

/-- The packages of a prepared world are at hubs. -/
theorem package_supported (h : world.PreparedFrom u fleet now snapshot skipped joined prepared)
    {p : Int} {package : DeliveryPackage} (hp : prepared.packages.find? p = some package) :
    package.currentLocation ∈ Map.locations := by
  obtain ⟨before, hbefore, hmoved⟩ := h.advanced.packages.backward hp
  have hjoined := h.linked.linked h.valid
  have hstart : before.currentLocation ∈ Map.locations := by
    obtain ⟨record, -, -, hstart, -, -, -, -, -, -, hplace, -⟩ := h.linked.package_record hbefore
    obtain ⟨-, hmem, -⟩ := DeliveryPackage.check_eq_ok_iff.mp before.valid
    unfold DeliveryPackage.currentLocation
    rw [hplace, Option.getD_some, ← hstart]
    exact hmem
  cases hn : before.route with
  | none => exact hmoved.waiting hn ▸ hstart
  | some r =>
    obtain ⟨route, hroute, hmem⟩ := hjoined.route_of_package hbefore hn
    by_cases hs : r ∈ skipped
    · exact hmoved.stuck r hn hs ▸ hstart
    · obtain ⟨_, hpass⟩ := hmoved.passed r hn route hroute hs
      have hin := h.linked.onPath h.valid hroute hmem hbefore
      rw [hpass.same.startLocation, hpass.same.endLocation] at hin
      exact hpass.settled.mem_locations hin

/-- The trucks of a prepared world are at hubs and drive to hubs. -/
theorem truck_supported (h : world.PreparedFrom u fleet now snapshot skipped joined prepared)
    {t : Int} {truck : Truck} (ht : prepared.trucks.find? t = some truck) :
    (∀ l ∈ truck.currentLocation, l ∈ Map.locations) ∧
      ∀ l ∈ truck.inTransitTo, l ∈ Map.locations := by
  obtain ⟨before, hbefore, hmoved⟩ := h.advanced.trucks.backward ht
  have hjoined := h.linked.linked h.valid
  have hplaces : (∀ l ∈ before.currentLocation, l ∈ Map.locations) ∧
      ∀ l ∈ before.inTransitTo, l ∈ Map.locations := by
    obtain ⟨_, _, _, route, candidate, -, -, hcandidate, rfl⟩ | ⟨hfree, -⟩ :=
      h.linked.truck_cases h.valid hbefore
    · refine ⟨?_, fun _ hl ↦ by cases hl⟩
      obtain ⟨record, hrecord, -, hbuild⟩ | ⟨-, real, -, rfl⟩ := hcandidate
      · exact (supported_of_buildCandidateTruck h.valid hrecord hbuild).1
      · intro l hl
        exact Option.some.inj hl ▸ route.plan.path.mem_map (List.head_mem _)
    · obtain ⟨record, hrecord, -, hbuild⟩ := (h.linked.unassigned t hfree before).mp hbefore
      exact supported_of_buildCandidateTruck h.valid hrecord hbuild
  cases hn : before.route with
  | none => exact hmoved.idle hn ▸ hplaces
  | some r =>
    obtain ⟨route, hroute, -⟩ := hjoined.route_of_truck hbefore hn
    by_cases hs : r ∈ skipped
    · exact hmoved.stuck r hn hs ▸ hplaces
    · exact (hmoved.passed r hn route hroute hs).supported hplaces.1

end ReconciledWorld.PreparedFrom
end FleetFlow
