import FleetFlow.Snapshot.Resumed
import FleetFlow.Snapshot.Places

/-!
# Runs with loads

A run of the in-memory program executes commands and heartbeats and now and then swaps in the world
of a file. The files accepted by the validators include some that no save writes: a truck on a route
may have no location, and a route with a truck a blank departure. Runs that load only operable files
stay sound, and what they save is operable.
-/

namespace FleetFlow

open Program

variable {u : UnicodeTables} {fleet : Fleet} {clock : Option Datetime} {now : Datetime}

/-- Trucks on routes have a location and a departure. The validators see only whether a departure is
given; `compatibility_validator.py:76–83`, while a blank text is read as no departure;
`serialization.py:41–43`. -/
structure WorldSnapshotData.Operable (data : WorldSnapshotData) : Prop where
  placed : ∀ record ∈ data.routes, ∀ truck ∈ data.trucks,
    record.truckVehicleId = some truck.vehicleId → truck.currentLocation.isSome
  timed : ∀ record ∈ data.routes, record.truckVehicleId.isSome → record.departureTime ≠ some ""

/-- Worlds of runs of commands, heartbeats and loads from an initial world. A load that is refused
leaves the world as it is. -/
inductive Session (u : UnicodeTables) (fleet : Fleet) : Option Datetime → World → Prop
  | start : Session u fleet none (World.initial fleet)
  | step {clock : Option Datetime} {w : World} {now : Datetime} (h : Session u fleet clock w)
      (hnow : ∀ c ∈ clock, c ≤ now) (operation : Operation) :
      Session u fleet (some now) ((operation.perform u now).finalState w)
  | load {clock : Option Datetime} {w : World} {now : Datetime} (h : Session u fleet clock w)
      (hnow : ∀ c ∈ clock, c ≤ now) (snapshot : WorldStateSnapshot)
      (hfile : snapshot.world.Operable) :
      Session u fleet (some now)
        ((WorldStateSnapshotService.applySnapshot u .none now snapshot).finalState w)

/-! ### Loads -/

namespace WorldSnapshotData.Linked

variable {data : WorldSnapshotData} {version : Int} {joined : World}

/-- A route with a truck is scheduled. -/
theorem isSome_departureTime (h : data.Linked u fleet joined) (hvalid : data.Valid u fleet version)
    (hfile : data.Operable) {r : Int} {route : DeliveryRoute}
    (hr : joined.routes.find? r = some route) (htruck : route.truck.isSome) :
    route.departureTime.isSome := by
  obtain ⟨record, hrecord, -, hjoins⟩ := h.routes.backward hr
  obtain ⟨base, hbase, rfl⟩ := hjoins
  obtain ⟨t, ht⟩ := Option.isSome_iff_exists.mp htruck
  have hgiven := (hvalid.truck_of_route record hrecord t ht).1
  have hblank := hfile.timed record hrecord htruck
  have hread := (WorldStateSnapshotRebuilder.rebuildRoute_eq_ok_iff.mp hbase).1
  show base.departureTime.isSome
  cases hd : record.departureTime with
  | none =>
    rw [hd] at hgiven
    cases hgiven
  | some text =>
    have hne : text ≠ "" := fun htext ↦ hblank (htext ▸ hd)
    rw [hd] at hread
    simp only [dtFromStr, if_neg hne] at hread
    split at hread
    · cases hread
    · rw [except_bind_eq_ok_iff] at hread
      obtain ⟨departure, -, hread⟩ := hread
      rw [← Except.ok.inj hread]
      rfl

/-- Routes are in time before anything was reconciled. -/
theorem timely (h : data.Linked u fleet joined) (hvalid : data.Valid u fleet version)
    (hfile : data.Operable) : joined.routes.All (DeliveryRoute.Timely none) := by
  intro r route hr
  obtain ⟨-, -, -, -, -, -, hstatus⟩ := h.route_record hr
  refine ⟨?_, fun hs ↦ ?_, fun hs ↦ ?_, h.isSome_departureTime hvalid hfile hr⟩
  · have hsome : route.departureTime.isSome = route.plan.schedule?.isSome := by
      simp [DeliveryRoute.departureTime, RoutePlan.departureTime]
    rw [hstatus, hsome]
    cases hs : route.plan.schedule?.isSome with
    | true => simp [Option.isSome_iff_ne_none.mp hs]
    | false => simp [Option.isNone_iff_eq_none.mp (Option.isSome_eq_false_iff.mp hs)]
  all_goals
    rw [hstatus] at hs
    split at hs <;> cases hs

/-- Trucks are at hubs, those on routes at a known one. -/
theorem located (h : data.Linked u fleet joined) (hvalid : data.Valid u fleet version)
    (hfile : data.Operable) : joined.trucks.All (Truck.Located Supported) := by
  intro t truck ht
  obtain ⟨record, hrecord, hnamed, route, candidate, -, -, hcandidate, rfl⟩ | ⟨hfree, -, hroute, -⟩ :=
    h.truck_cases hvalid ht
  · obtain ⟨state, hstate, rfl, hbuild⟩ | ⟨-, real, -, rfl⟩ := hcandidate
    · have hplaces := ReconciledWorld.PreparedFrom.supported_of_buildCandidateTruck hvalid hstate
        hbuild
      refine ⟨hplaces.1, fun _ ↦ ?_, fun _ hl ↦ by cases hl⟩
      have hplaced := hfile.placed record hrecord state hstate hnamed
      simp only [WorldStateSnapshotLinker.buildCandidateTruck, except_bind_eq_ok_iff,
        Except.ok.injEq] at hbuild
      obtain ⟨real, -, _, -, _, -, rfl⟩ := hbuild
      exact hplaced
    · exact ⟨fun l hl ↦ Option.some.inj hl ▸ route.plan.path.mem_map (List.head_mem _),
        fun _ ↦ rfl, fun _ hl ↦ by cases hl⟩
  · obtain ⟨state, hstate, -, hbuild⟩ := (h.unassigned t hfree truck).mp ht
    have hplaces := ReconciledWorld.PreparedFrom.supported_of_buildCandidateTruck hvalid hstate
      hbuild
    exact ⟨hplaces.1, fun hr ↦ by simp [hroute] at hr, hplaces.2⟩

end WorldSnapshotData.Linked

namespace World

variable {w w' : World} {skipped : List Int} (idByEmail idByPhone : Std.ExtTreeMap String Int)

/-- Links do not depend on the indexes. -/
private theorem Linked.reindex (h : w.Linked) :
    Linked { w with idByEmail := idByEmail, idByPhone := idByPhone } where
  truck_of_route := h.truck_of_route
  route_of_truck := h.route_of_truck
  package_of_route := h.package_of_route
  route_of_package := h.route_of_package
  nodup := h.nodup
  routeId := h.routeId
  window := h.window
  customer_of_package := h.customer_of_package
  package_of_customer := h.package_of_customer
  nodup_customer := h.nodup_customer
  linkState := h.linkState
  waiting := h.waiting

/-- Neither does what a sweep does. -/
private theorem Advanced.reindex (h : Advanced now skipped w w') :
    Advanced now skipped { w with idByEmail := idByEmail, idByPhone := idByPhone }
      { w' with idByEmail := idByEmail, idByPhone := idByPhone } where
  frame := by rw [h.frame]
  routes := h.routes
  trucks := h.trucks.mono fun hab ↦ ⟨hab.idle, hab.stuck, hab.passed⟩
  packages := h.packages.mono fun hab ↦ ⟨hab.waiting, hab.stuck, hab.passed⟩
  stuck := h.stuck

end World

namespace ReconciledWorld.PreparedFrom

variable {snapshot : WorldStateSnapshot} {world : ReconciledWorld} {skipped : List Int}
  {joined prepared previous w : World}

/-- A swapped-in world is sound when the world before it was. -/
theorem sound_loaded (h : world.PreparedFrom u previous.trucks now snapshot skipped joined prepared)
    (hloaded : previous.Loaded prepared w) (hfile : snapshot.world.Operable)
    (hprevious : previous.Sound u Supported clock) : w.Sound u Supported (some now) := by
  have hcustomers : w.customers = joined.customers := by
    rw [hloaded.customers, h.advanced.frame]
  -- The joined world has no indexes yet, so it is judged with those it gets in the end.
  let indexed : World := { joined with idByEmail := w.idByEmail, idByPhone := w.idByPhone }
  have hindexed : indexed.Sound u Supported none := by
    refine ⟨(h.linked.linked h.valid).reindex _ _, h.linked.timely h.valid hfile,
      h.linked.onPath h.valid, h.linked.located h.valid hfile, h.linked.withinLimits h.valid, ?_,
      h.linked.clean, ?_, ?_⟩
    · have hcounted := h.linked.counted h.valid
      exact ⟨hcounted.customers, hcounted.packages, hcounted.routes, hcounted.pos⟩
    · intro text c
      rw [← hcustomers]
      exact hloaded.indexed.email text c
    · intro text c
      rw [← hcustomers]
      exact hloaded.indexed.phone text c
  have hadvanced := h.advanced.reindex w.idByEmail w.idByPhone
  obtain rfl := hadvanced.skipped_eq_nil hindexed
  have hsound := hadvanced.sound supported_of_mem hindexed
  have hplaces : w.trucks.All (Truck.Located Supported) := by
    intro t truck ht
    rw [hloaded.trucks] at ht
    cases hprepared : prepared.trucks.find? t with
    | some candidate =>
      rw [hprepared, Option.some_or] at ht
      obtain rfl := Option.some.inj ht
      exact hsound.located t _ hprepared
    | none =>
      rw [hprepared, Option.none_or, Option.map_eq_some_iff] at ht
      obtain ⟨before, hbefore, rfl⟩ := ht
      refine ⟨(hprevious.located t before hbefore).place, fun hr ↦ ?_, fun _ hl ↦ ?_⟩
      · cases hr
      · cases hl
  have hlinked : prepared.Linked := h.worldLinked
  refine ⟨hloaded.linked hlinked, ?_, ?_, hplaces, hloaded.withinLimits hlinked.toRouteLinked
    (h.advanced.withinLimits (h.linked.linked h.valid) (h.linked.withinLimits h.valid)),
    hloaded.counted (h.advanced.counted (h.linked.counted h.valid)), ?_, ?_, ?_⟩
  · rw [hloaded.routes]
    exact hsound.timely
  · intro r p route package hr hmem hp
    rw [hloaded.routes] at hr
    rw [hloaded.packages] at hp
    exact hsound.onPath hr hmem hp
  · rw [hcustomers]
    exact h.linked.clean
  · exact fun {_ _} ↦ hloaded.indexed.email _ _
  · exact fun {_ _} ↦ hloaded.indexed.phone _ _

end ReconciledWorld.PreparedFrom

/-! ### Saves -/

namespace World

variable {w : World}

/-- What a sound world saves can be loaded as it is. -/
theorem Sound.operable_buildSnapshot (h : w.Sound u Supported clock) :
    w.buildSnapshot.world.Operable where
  placed record hrecord state hstate hnamed := by
    obtain ⟨route, hroute, rfl⟩ := exists_of_mem_record hrecord
    obtain ⟨truck, htruck, rfl⟩ := exists_of_mem_record hstate
    obtain ⟨other, hother, hback⟩ := h.linked.truck_of_route hroute hnamed
    obtain rfl := Option.some.inj (hother.symm.trans htruck)
    exact (h.located _ other hother).onRoute (by simp [hback])
  timed record hrecord hnamed := by
    obtain ⟨route, hroute, rfl⟩ := exists_of_mem_record hrecord
    obtain ⟨t, ht⟩ := Option.isSome_iff_exists.mp
      ((h.timely _ route hroute).truck_scheduled hnamed)
    show dtToStr route.departureTime ≠ some ""
    rw [ht]
    intro hblank
    have htext : IsoText.write t.fields = [] := by
      have hofList : String.ofList (IsoText.write t.fields) = "" := Option.some.inj hblank
      rw [← String.toList_ofList (l := IsoText.write t.fields), hofList]
      rfl
    simp [IsoText.write] at htext

/-- A sound world loads what it saves, and the loaded world is sound. -/
theorem Sound.reloads (h : w.Sound u Supported clock) (hyears : w.FourDigitYears) :
    Ensures (WorldStateSnapshotService.applySnapshot u .none now w.buildSnapshot) w
      (fun _ w' ↦ w'.Sound u Supported (some now)) (fun _ _ ↦ False) := by
  have hfleet : w.trucks.Related Truck.SameVehicle w.trucks :=
    Store.related_refl Truck.SameVehicle.refl
  have hprepare : ∃ world, WorldStateSnapshotPreparer.prepare u w.trucks now w.buildSnapshot
      supportedSchemaVersions = .ok world := by
    refine WorldStateSnapshotPreparer.exists_prepare_iff.mpr
      ⟨?_, h.valid_buildSnapshot (fun _ hp ↦ hp) hfleet, h.restorable_buildSnapshot hyears⟩
    exact List.mem_cons_of_mem _ (List.mem_singleton.mpr rfl)
  refine (WorldStateSnapshotService.ensures_applySnapshot h.linked.toRouteLinked).mono ?_ ?_
  · rintro _ w' ⟨world, skipped, joined, prepared, -, hprepared, hloaded⟩
    exact hprepared.sound_loaded hloaded h.operable_buildSnapshot h
  · rintro e w' ⟨-, herror⟩
    obtain ⟨world, hok⟩ := hprepare
    rw [hok] at herror
    cases herror

end World

/-! ### Runs -/

namespace Session

variable {w : World}

/-- Runs with loads stay sound. -/
theorem sound (hidle : fleet.All (Truck.Idle Supported)) (h : Session u fleet clock w) :
    w.Sound u Supported clock := by
  induction h with
  | start => exact (Reachable.start (u := u)).sound supported_of_mem hidle
  | step h hnow operation ih =>
    exact (operation.keeps_perform supported_of_mem ih hnow).finalState
  | @load clock w now h hnow snapshot hfile ih =>
    have hload : (WorldStateSnapshotService.applySnapshot u .none now snapshot).Keeps w
        (World.Sound u Supported (some now)) := by
      refine (WorldStateSnapshotService.ensures_applySnapshot ih.linked.toRouteLinked).mono ?_ ?_
      · rintro _ w' ⟨world, skipped, joined, prepared, -, hprepared, hloaded⟩
        exact hprepared.sound_loaded hloaded hfile ih
      · rintro e _ ⟨rfl, -⟩
        exact ih.later hnow
    exact hload.finalState

/-- Runs of commands and heartbeats are runs without a load. -/
theorem of_reachable (h : Reachable u fleet clock w) : Session u fleet clock w := by
  induction h with
  | start => exact .start
  | step _ hnow operation ih => exact ih.step hnow operation

/-- However commands, heartbeats and loads of operable files follow each other, the world is sound
and saves an operable file, which it also loads itself while the years have four digits, and a
heartbeat succeeds on all routes and leaves them all settled. -/
theorem stays_operable (hidle : fleet.All (Truck.Idle Supported)) (h : Session u fleet clock w)
    (hnow : ∀ c ∈ clock, c ≤ now) :
    w.Sound u Supported clock ∧ w.buildSnapshot.world.Operable ∧
      (w.FourDigitYears →
        Ensures (WorldStateSnapshotService.applySnapshot u .none now w.buildSnapshot) w
          (fun _ w' ↦ w'.Sound u Supported (some now)) (fun _ _ ↦ False)) ∧
      Ensures (HeartbeatService.advance .inMemory now) w
        (fun summary w' ↦ summary.skippedRoutes = [] ∧ w'.SettledAt now) (fun _ _ ↦ False) := by
  have hsound := h.sound hidle
  refine ⟨hsound, hsound.operable_buildSnapshot, hsound.reloads, ?_⟩
  refine (HeartbeatService.ensures_advance hsound hnow).mono ?_ fun _ _ hf ↦ hf
  intro summary w' hadvances
  exact ⟨hadvances.skippedRoutes, hadvances.advanced.settled hsound.linked⟩

end Session
namespace Scenario

theorem operable_routeFile : (routeFile Map.locations.head?).world.Operable where
  placed record hrecord truck htruck _ := by
    obtain rfl := List.mem_singleton.mp htruck
    rfl
  timed record hrecord _ := by
    obtain rfl := List.mem_singleton.mp hrecord
    decide

theorem stays_operable_loaded :
    Session .asciiOnly Scenario.fleet (some (hour 3))
        ((WorldStateSnapshotService.applySnapshot .asciiOnly .none (hour 3)
          (routeFile Map.locations.head?)).finalState boundWorld) ∧
      Ensures (HeartbeatService.advance .inMemory (hour 20))
        ((WorldStateSnapshotService.applySnapshot .asciiOnly .none (hour 3)
          (routeFile Map.locations.head?)).finalState boundWorld)
        (fun summary w' ↦ summary.skippedRoutes = [] ∧ w'.SettledAt (hour 20))
        (fun _ _ ↦ False) := by
  have hnow : ∀ c ∈ some (hour 2), c ≤ hour 3 := by decide
  have hsession := (Session.of_reachable reachable_bound).load hnow
    (routeFile Map.locations.head?) operable_routeFile
  exact ⟨hsession, (hsession.stays_operable fleet_idle_supported (by decide)).2.2.2⟩

end Scenario
end FleetFlow
