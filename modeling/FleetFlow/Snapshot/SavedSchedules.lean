import FleetFlow.Snapshot.JsonRoundTrip
import FleetFlow.Snapshot.Saved

/-!
# The schedules of a saved world

A file holds departures at second precision. The schedule that is rebuilt from it leaves at the
whole second of the saved departure, and every arrival moves with it.
-/

namespace FleetFlow

variable {u : UnicodeTables} {clock : Option Datetime} {w : World}

/-- A schedule that leaves at the whole second of another one, over the same stops, with every
arrival earlier by the same fraction of a second. -/
structure RouteSchedule.CutBack (before after : RouteSchedule) : Prop where
  departureTime : after.departureTime = before.departureTime.truncate
  length : after.stops.length = before.stops.length
  stop : ∀ {i : Nat} {a : ScheduledStop}, before.stops[i]? = some a →
    ∃ a', after.stops[i]? = some a' ∧ a'.location = a.location ∧
      a'.arrivalAt.micros + before.departureTime.micros % 1000000 = a.arrivalAt.micros

/-- A route over the stops of another one, without schedule or with the schedule cut back. -/
structure DeliveryRoute.SavedAs (before after : DeliveryRoute) : Prop where
  locations : after.locations = before.locations
  unscheduled : before.plan.schedule? = none → after.plan.schedule? = none
  scheduled : ∀ s, before.plan.schedule? = some s →
    ∃ s', after.plan.schedule? = some s' ∧ s.CutBack s'

/-- Cutting a departure back to its whole second cuts the schedule back. -/
theorem RouteScheduler.cutBack_of_build {path : RoutePath} {s s' : RouteSchedule}
    (h : build path.locations s.departureTime = .ok s)
    (h' : build path.locations s.departureTime.truncate = .ok s') : s.CutBack s' := by
  obtain ⟨earlier, hearlier, hstops⟩ := build_earlier h s.departureTime.truncate_le
  obtain rfl := Except.ok.inj (h'.symm.trans hearlier)
  refine ⟨departureTime_of_build h', ?_, fun {i a} ha ↦ ?_⟩
  · have hlength := congrArg List.length ((locations_of_build h).trans (locations_of_build h').symm)
    rw [List.length_map, List.length_map] at hlength
    exact hlength.symm
  · obtain ⟨a', ha', hlocation, harrival⟩ := hstops i a ha
    refine ⟨a', ha', hlocation, ?_⟩
    have htruncate : s.departureTime.truncate.micros =
        s.departureTime.micros / 1000000 * 1000000 := rfl
    omega

/-- A route is rebuilt with its schedule cut back. -/
theorem DeliveryRoute.savedAs_of_rebuilds {route rebuilt : DeliveryRoute}
    (hyear : ∀ t ∈ route.departureTime, t.FourDigitYear)
    (h : (RouteSnapshot.ofRoute route).Rebuilds u rebuilt) : route.SavedAs rebuilt := by
  obtain ⟨hread, -, hlocations, -⟩ := WorldStateSnapshotRebuilder.rebuildRoute_eq_ok_iff.mp h
  have hpath : rebuilt.plan.path.locations = route.plan.path.locations := hlocations
  have htext : (RouteSnapshot.ofRoute route).departureTime = dtToStr route.departureTime := rfl
  rw [htext] at hread
  refine ⟨hlocations, fun hs ↦ ?_, fun s hs ↦ ?_⟩
  · have hdeparture : route.departureTime = none := by
      simp [DeliveryRoute.departureTime, RoutePlan.departureTime, hs]
    rw [hdeparture, dtFromStr_dtToStr_none] at hread
    exact Option.map_eq_none_iff.mp (Except.ok.inj hread).symm
  · have hdeparture : route.departureTime = some s.departureTime := by
      simp [DeliveryRoute.departureTime, RoutePlan.departureTime, hs]
    rw [hdeparture, dtFromStr_dtToStr u (hyear _ hdeparture)] at hread
    obtain ⟨s', hs', htruncate⟩ := Option.map_eq_some_iff.mp (Except.ok.inj hread).symm
    have hbuilt := rebuilt.plan.built s' hs'
    rw [hpath, htruncate] at hbuilt
    exact ⟨s', hs', RouteScheduler.cutBack_of_build (route.plan.built s hs) hbuilt⟩

/-- What is written of a world with trucks at supported places is read back. -/
theorem World.read_buildSnapshot
    (hplaces : w.trucks.All fun truck ↦ Supported truck.currentLocation ∧
      Supported truck.inTransitTo) :
    snapshotFromRaw u (rawFromSnapshot w.buildSnapshot) = .ok w.buildSnapshot := by
  refine snapshotFromRaw_rawFromSnapshot (writable_buildWorldStateSnapshot schemaVersion ?_)
  intro truck htruck
  obtain ⟨hplace, hdestination⟩ := hplaces _ _ (Store.mem_values.mp htruck)
  exact ⟨fun code hcode ↦ Map.canonical_of_mem (hplace code hcode),
    fun code hcode ↦ Map.canonical_of_mem (hdestination code hcode)⟩

/-- Every route of a sound world is rebuilt with its schedule cut back. -/
theorem World.Sound.exists_rebuild_savedAs {allowed : Option LocationCode → Prop}
    (h : w.Sound u allowed clock) (hplace : ∀ place, allowed place → Supported place)
    (hyears : w.FourDigitYears) :
    ∃ rebuilt, WorldStateSnapshotRebuilder.rebuild u w.buildSnapshot = .ok rebuilt ∧
      ∀ {r : Int} {route : DeliveryRoute}, w.routes.find? r = some route →
        ∃ after, rebuilt.routes.find? r = some after ∧ route.SavedAs after := by
  have hvalid := h.valid_buildSnapshot hplace (Store.related_refl .refl)
  obtain ⟨rebuilt, hrebuild⟩ := WorldStateSnapshotRebuilder.exists_rebuild hvalid
    (h.restorable_buildSnapshot hyears)
  have hrebuilt := WorldStateSnapshotRebuilder.rebuilt_of_rebuild hvalid.customerIds.nodup
    hvalid.packageIds.nodup hvalid.routeIds.nodup hrebuild
  refine ⟨rebuilt, hrebuild, fun {r route} hr ↦ ?_⟩
  obtain ⟨after, hafter, hrel⟩ := hrebuilt.routes.forward (mem_record hr)
  have hid : route.routeId = r := Store.key_of_find? hr
  exact ⟨after, hid ▸ hafter, DeliveryRoute.savedAs_of_rebuilds (hyears.departure hr) hrel⟩

/-- A reachable world is read back from its file, and every route is rebuilt over its stops with
the schedule that leaves at the whole second of its departure. -/
theorem Reachable.schedules_cut_back {fleet : Fleet} (hidle : fleet.All (Truck.Idle Supported))
    (h : Reachable u fleet clock w) (hyears : w.FourDigitYears) :
    snapshotFromRaw u (rawFromSnapshot w.buildSnapshot) = .ok w.buildSnapshot ∧
      ∃ rebuilt, WorldStateSnapshotRebuilder.rebuild u w.buildSnapshot = .ok rebuilt ∧
        ∀ {r : Int} {route : DeliveryRoute}, w.routes.find? r = some route →
          ∃ after, rebuilt.routes.find? r = some after ∧ route.SavedAs after := by
  have hsound := h.sound supported_of_mem hidle
  refine ⟨World.read_buildSnapshot fun t truck ht ↦ ?_,
    hsound.exists_rebuild_savedAs (fun _ hplace ↦ hplace) hyears⟩
  have hlocated := hsound.located t truck ht
  exact ⟨hlocated.place, hlocated.destination⟩

namespace Scenario

/-- An instant with a fraction of a second. -/
def oddInstant : Datetime := ⟨(63839664000 + 3600) * 1000000 + 500, by unfold maxMicros; omega⟩

/-- A route without departure that is scheduled when its truck is assigned. -/
def oddSteps : List (Datetime × Operation) :=
  [(hour 0, .createRoute ["SYD", "MEL"] none), (oddInstant, .assignTruck 1001 1 oddInstant)]

/-- The world after these steps. -/
def oddWorld : World := performAll .asciiOnly (.initial Scenario.fleet) oddSteps

/-- It is reachable. -/
theorem reachable_odd : Reachable .asciiOnly Scenario.fleet (some oddInstant) oddWorld := by
  have hsorted : ([] ++ oddSteps.map Prod.fst).Pairwise (· ≤ ·) := by decide
  exact Reachable.performAll .start hsorted

/-- It stays in years of four digits. -/
theorem fourDigitYears_odd : oddWorld.FourDigitYears :=
  World.fourDigitYears_of_all (by decide +kernel)

/-- Its route leaves at another instant once it has been saved and rebuilt. -/
theorem not_schedules_kept_odd : Reachable .asciiOnly Scenario.fleet (some oddInstant) oddWorld ∧
    oddWorld.FourDigitYears ∧ ∃ route, oddWorld.routes.find? 1 = some route ∧
      ∃ rebuilt, WorldStateSnapshotRebuilder.rebuild .asciiOnly oddWorld.buildSnapshot =
          .ok rebuilt ∧
        ∃ after, rebuilt.routes.find? 1 = some after ∧
          after.departureTime ≠ route.departureTime := by
  have hodd : (oddWorld.routes.find? 1).any (fun route ↦ route.plan.schedule?.any fun s ↦
      decide (¬ s.departureTime.WholeSecond)) = true := by
    decide +kernel
  obtain ⟨route, hr, hany⟩ := (Option.any_eq_true _ _).mp hodd
  obtain ⟨s, hs, hfraction⟩ := (Option.any_eq_true _ _).mp hany
  have hsound := reachable_odd.sound supported_of_mem fleet_idle_supported
  obtain ⟨rebuilt, hrebuild, hroutes⟩ :=
    hsound.exists_rebuild_savedAs (fun _ hplace ↦ hplace) fourDigitYears_odd
  obtain ⟨after, hafter, hsaved⟩ := hroutes hr
  refine ⟨reachable_odd, fourDigitYears_odd, route, hr, rebuilt, hrebuild, after, hafter, ?_⟩
  obtain ⟨s', hs', hcut⟩ := hsaved.scheduled s hs
  unfold DeliveryRoute.departureTime RoutePlan.departureTime
  rw [hs, hs', Option.map_some, Option.map_some, hcut.departureTime]
  intro hsame
  exact of_decide_eq_true hfraction (Datetime.truncate_eq_self_iff.mp (Option.some.inj hsame))

/-- The same world through the exact statement. -/
theorem schedules_cut_back_odd :
    snapshotFromRaw .asciiOnly (rawFromSnapshot oddWorld.buildSnapshot) =
        .ok oddWorld.buildSnapshot ∧
      ∃ rebuilt, WorldStateSnapshotRebuilder.rebuild .asciiOnly oddWorld.buildSnapshot =
          .ok rebuilt ∧
        ∀ {r : Int} {route : DeliveryRoute}, oddWorld.routes.find? r = some route →
          ∃ after, rebuilt.routes.find? r = some after ∧ route.SavedAs after :=
  Reachable.schedules_cut_back fleet_idle_supported reachable_odd fourDigitYears_odd

end Scenario
end FleetFlow
