import FleetFlow.Base.Datetime
import FleetFlow.Domain.Locations

/-!
# Route schedules

Follows `domain/value_objects/route_schedule.py`. A schedule carries the checks of
its constructor, so every schedule has strictly increasing arrival times and one
segment between each pair of consecutive stops.
-/

namespace FleetFlow

/-- Route position categories; `domain/value_objects/route_schedule.py:14–21`. -/
inductive RoutePositionKind where
  | unscheduled
  | beforeStart
  | atStop
  | inTransit
  | afterEnd
deriving DecidableEq, Repr

/-- Position of a route at one instant; `domain/value_objects/route_schedule.py:25–40`. -/
structure RoutePosition where
  kind : RoutePositionKind
  fromCity : Option LocationCode := none
  toCity : Option LocationCode := none
  stopCity : Option LocationCode := none
  nextEta : Option Datetime := none
deriving DecidableEq, Repr

/-- Travel between two adjacent stops; `domain/value_objects/route_schedule.py:44–57`. -/
structure RouteSegment where
  start : LocationCode
  end_ : LocationCode
  distanceKm : Int
  duration : Timedelta
deriving DecidableEq, Repr

/-- A stop with its arrival time; `domain/value_objects/route_schedule.py:61–70`. -/
structure ScheduledStop where
  location : LocationCode
  arrivalAt : Datetime
deriving DecidableEq, Repr

namespace RouteSchedule

/-- Per-segment checks; `domain/value_objects/route_schedule.py:131–148`. The lists end together,
since the number of segments is compared with the number of stops before. -/
def checkSegments : List RouteSegment → List ScheduledStop → Except PyError Unit
  | segment :: segments, currentStop :: nextStop :: stops => do
    require (0 < segment.distanceKm)
      ⟨.domainValidation, "Route segment distance must be positive."⟩
    require (0 < segment.duration.micros)
      ⟨.domainValidation, "Route segment duration must be positive."⟩
    require (segment.start = currentStop.location)
      ⟨.domainValidation, "Segment start does not match its scheduled stop."⟩
    require (segment.end_ = nextStop.location)
      ⟨.domainValidation, "Segment end does not match its scheduled stop."⟩
    let reached ← currentStop.arrivalAt.add segment.duration
    require (reached = nextStop.arrivalAt)
      ⟨.domainValidation, "Segment duration does not match scheduled arrival times."⟩
    checkSegments segments (nextStop :: stops)
  | _, _ => .ok ()

/-- Checks of the constructor; `domain/value_objects/route_schedule.py:118–148`. -/
def check (departureTime : Datetime) (segments : List RouteSegment) (stops : List ScheduledStop) :
    Except PyError Unit := do
  require (2 ≤ stops.length)
    ⟨.domainValidation, "A route schedule must contain at least two stops."⟩
  require (segments.length = stops.length - 1)
    ⟨.domainValidation, "A route schedule must contain one segment between each pair of stops."⟩
  require (stops.head?.map ScheduledStop.arrivalAt = some departureTime)
    ⟨.domainValidation, "The first stop arrival must equal the departure time."⟩
  require (stops.map ScheduledStop.location).Nodup
    ⟨.domainValidation, "A route schedule cannot contain duplicate locations."⟩
  checkSegments segments stops

/-- What one segment has to do with the stops around it. -/
def Joins (segment : RouteSegment) (currentStop nextStop : ScheduledStop) : Prop :=
  0 < segment.distanceKm ∧ 0 < segment.duration.micros ∧
    segment.start = currentStop.location ∧ segment.end_ = nextStop.location ∧
    currentStop.arrivalAt.add segment.duration = .ok nextStop.arrivalAt

/-- A joining segment is passed in a positive time. -/
theorem Joins.lt {segment : RouteSegment} {a b : ScheduledStop} (h : Joins segment a b) :
    a.arrivalAt < b.arrivalAt :=
  Datetime.lt_of_add h.2.2.2.2 h.2.1

/-- One step of the segment checks. -/
theorem checkSegments_cons {segment : RouteSegment} {segments : List RouteSegment}
    {currentStop nextStop : ScheduledStop} {stops : List ScheduledStop} :
    checkSegments (segment :: segments) (currentStop :: nextStop :: stops) = .ok () ↔
      Joins segment currentStop nextStop ∧ checkSegments segments (nextStop :: stops) = .ok () := by
  rw [checkSegments]
  simp only [require_bind_eq_ok_iff, Joins]
  rw [except_bind_eq_ok_iff]
  simp only [require_bind_eq_ok_iff]
  constructor
  · rintro ⟨h1, h2, h3, h4, t, ht, rfl, hrest⟩
    exact ⟨⟨h1, h2, h3, h4, ht⟩, hrest⟩
  · rintro ⟨⟨h1, h2, h3, h4, h5⟩, hrest⟩
    exact ⟨h1, h2, h3, h4, _, h5, rfl, hrest⟩

/-- Segments that pass their checks join the stops at their positions. -/
theorem joins_of_checkSegments {segments : List RouteSegment} {stops : List ScheduledStop}
    (hlen : stops.length = segments.length + 1) (h : checkSegments segments stops = .ok ())
    {i : Nat} {segment : RouteSegment} (hi : segments[i]? = some segment) :
    ∃ a b, stops[i]? = some a ∧ stops[i + 1]? = some b ∧ Joins segment a b := by
  induction segments generalizing stops i with
  | nil => simp at hi
  | cons first rest ih =>
    match stops, hlen with
    | [], hlen => simp at hlen
    | [a], hlen => simp at hlen
    | a :: b :: stops, hlen =>
      obtain ⟨hj, hrest⟩ := checkSegments_cons.mp h
      cases i with
      | zero =>
        refine ⟨a, b, rfl, rfl, ?_⟩
        rw [List.getElem?_cons_zero, Option.some.injEq] at hi
        exact hi ▸ hj
      | succ i =>
        simp only [List.getElem?_cons_succ] at hi ⊢
        exact ih (by simpa using hlen) hrest hi

end RouteSchedule

/-- Immutable timing of a route; `domain/value_objects/route_schedule.py:74–99`. -/
structure RouteSchedule where
  departureTime : Datetime
  segments : List RouteSegment
  stops : List ScheduledStop
  valid : RouteSchedule.check departureTime segments stops = .ok ()
deriving DecidableEq

namespace RouteSchedule

/-- Construct a schedule, raising what its checks raise. -/
def create (departureTime : Datetime) (segments : List RouteSegment) (stops : List ScheduledStop) :
    Except PyError RouteSchedule :=
  match h : check departureTime segments stops with
  | .ok () => .ok ⟨departureTime, segments, stops, h⟩
  | .error e => .error e

/-- Construction succeeds exactly with the schedule of the given parts. -/
theorem create_eq_ok_iff {departureTime : Datetime} {segments : List RouteSegment}
    {stops : List ScheduledStop} {schedule : RouteSchedule} :
    create departureTime segments stops = .ok schedule ↔
      schedule.departureTime = departureTime ∧ schedule.segments = segments ∧
        schedule.stops = stops := by
  unfold create
  split
  · next h =>
    rw [Except.ok.injEq]
    constructor
    · rintro rfl
      exact ⟨rfl, rfl, rfl⟩
    · rintro ⟨rfl, rfl, rfl⟩
      rfl
  · next e h =>
    simp only [reduceCtorEq, false_iff]
    rintro ⟨rfl, rfl, rfl⟩
    rw [schedule.valid] at h
    cases h

variable (schedule : RouteSchedule)

/-! ### What the checks say -/

private theorem checks :
    2 ≤ schedule.stops.length ∧ schedule.segments.length = schedule.stops.length - 1 ∧
      schedule.stops.head?.map ScheduledStop.arrivalAt = some schedule.departureTime ∧
      (schedule.stops.map ScheduledStop.location).Nodup ∧
      checkSegments schedule.segments schedule.stops = .ok () := by
  have h := schedule.valid
  rw [check] at h
  simpa only [require_bind_eq_ok_iff] using h

/-- A schedule has at least two stops. -/
theorem two_le_length : 2 ≤ schedule.stops.length := schedule.checks.1

/-- A schedule has one stop more than segments. -/
theorem length_stops : schedule.stops.length = schedule.segments.length + 1 := by
  have h1 := schedule.two_le_length
  have h2 := schedule.checks.2.1
  omega

/-- A schedule has a stop. -/
theorem stops_ne_nil : schedule.stops ≠ [] := by
  have h := schedule.two_le_length
  intro h0
  simp [h0] at h

/-- The locations of a schedule are distinct. -/
theorem nodup_locations : (schedule.stops.map ScheduledStop.location).Nodup :=
  schedule.checks.2.2.2.1

variable {schedule}

/-- The first stop is reached at departure. -/
theorem arrivalAt_of_first {a : ScheduledStop} (h : schedule.stops[0]? = some a) :
    a.arrivalAt = schedule.departureTime := by
  have hh := schedule.checks.2.2.1
  rw [List.head?_eq_getElem?, h] at hh
  simpa using hh

/-- Every segment joins the two stops at its position. -/
theorem joins {i : Nat} {segment : RouteSegment} (hi : schedule.segments[i]? = some segment) :
    ∃ a b, schedule.stops[i]? = some a ∧ schedule.stops[i + 1]? = some b ∧ Joins segment a b :=
  joins_of_checkSegments schedule.length_stops schedule.checks.2.2.2.2 hi

/-- Consecutive stops have a segment between them. -/
theorem exists_segment {i : Nat} {a b : ScheduledStop} (ha : schedule.stops[i]? = some a)
    (hb : schedule.stops[i + 1]? = some b) :
    ∃ segment, schedule.segments[i]? = some segment ∧ Joins segment a b := by
  have hlen := schedule.length_stops
  have hi := (List.getElem?_eq_some_iff.mp hb).1
  have hs : i < schedule.segments.length := by omega
  obtain ⟨a', b', ha', hb', hj⟩ := joins (List.getElem?_eq_getElem hs)
  rw [ha, Option.some.injEq] at ha'
  rw [hb, Option.some.injEq] at hb'
  exact ⟨_, List.getElem?_eq_getElem hs, ha' ▸ hb' ▸ hj⟩

/-- Later stops are reached later. -/
theorem arrivalAt_lt {i j : Nat} {a b : ScheduledStop} (ha : schedule.stops[i]? = some a)
    (hb : schedule.stops[j]? = some b) (hij : i < j) : a.arrivalAt < b.arrivalAt := by
  induction j generalizing b with
  | zero => omega
  | succ j ih =>
    have hj := (List.getElem?_eq_some_iff.mp hb).1
    have hc := List.getElem?_eq_getElem (show j < schedule.stops.length by omega)
    obtain ⟨g, -, hg⟩ := exists_segment hc hb
    by_cases hlt : i < j
    · exact (ih hc hlt).trans hg.lt
    · obtain rfl : i = j := by omega
      rw [ha, Option.some.injEq] at hc
      exact hc ▸ hg.lt

/-- Stops are in order of arrival. -/
theorem arrivalAt_le {i j : Nat} {a b : ScheduledStop} (ha : schedule.stops[i]? = some a)
    (hb : schedule.stops[j]? = some b) (hij : i ≤ j) : a.arrivalAt ≤ b.arrivalAt := by
  rcases Nat.lt_or_eq_of_le hij with h | rfl
  · exact (arrivalAt_lt ha hb h).le
  · rw [ha, Option.some.injEq] at hb
    exact hb ▸ le_refl _

/-- Two stops with one location are the same stop. -/
theorem index_eq_of_location {i j : Nat} {a b : ScheduledStop} (ha : schedule.stops[i]? = some a)
    (hb : schedule.stops[j]? = some b) (h : a.location = b.location) : i = j := by
  obtain ⟨hi, rfl⟩ := List.getElem?_eq_some_iff.mp ha
  obtain ⟨hj, rfl⟩ := List.getElem?_eq_some_iff.mp hb
  have hn := schedule.nodup_locations
  rw [List.nodup_iff_injective_get] at hn
  have := @hn ⟨i, by simpa using hi⟩ ⟨j, by simpa using hj⟩ (by simpa using h)
  simpa using this

variable (schedule)

/-! ### Observations -/

/-- Final arrival time; `domain/value_objects/route_schedule.py:158–160`. -/
def etaFinal : Datetime := (schedule.stops.getLast schedule.stops_ne_nil).arrivalAt

/-- Total distance; `domain/value_objects/route_schedule.py:163–165`. -/
def totalDistanceKm : Int := (schedule.segments.map RouteSegment.distanceKm).sum

/-- The `_arrival_times` mapping of `domain/value_objects/route_schedule.py:127`. -/
def arrival? (location : LocationCode) : Option Datetime :=
  (schedule.stops.find? fun stop ↦ stop.location = location).map ScheduledStop.arrivalAt

/-- The `_stop_indices` mapping of `domain/value_objects/route_schedule.py:151–155`. -/
def stopIndex? (location : LocationCode) : Option Nat :=
  (schedule.stops.map ScheduledStop.location).idxOf? location

/-- Arrival time at a location; `domain/value_objects/route_schedule.py:167–182`. -/
def arrivalTimeAt (location : LocationCode) : Except PyError Datetime :=
  match schedule.arrival? location with
  | some t => .ok t
  | none =>
    .error ⟨.domainValidation, s!"Location {location} is not part of this schedule."⟩

variable {schedule}

/-- The mapping holds exactly the stops. -/
theorem arrival?_eq_some_iff {location : LocationCode} {t : Datetime} :
    schedule.arrival? location = some t ↔
      ∃ i : Nat, schedule.stops[i]? = some (ScheduledStop.mk location t) := by
  unfold arrival?
  rw [Option.map_eq_some_iff]
  constructor
  · rintro ⟨a, ha, rfl⟩
    obtain ⟨i, hi, rfl⟩ := List.mem_iff_getElem.mp (List.mem_of_find?_eq_some ha)
    refine ⟨i, ?_⟩
    have hl : schedule.stops[i].location = location := by
      simpa using List.find?_some ha
    rw [List.getElem?_eq_getElem hi, ← hl]
  · rintro ⟨i, hi⟩
    cases hf : schedule.stops.find? fun stop ↦ stop.location = location with
    | none =>
      have := List.find?_eq_none.mp hf _ (List.mem_of_getElem? hi)
      simp at this
    | some b =>
      obtain ⟨j, hj, hjb⟩ := List.mem_iff_getElem.mp (List.mem_of_find?_eq_some hf)
      have hl : b.location = location := by simpa using List.find?_some hf
      have hj' : schedule.stops[j]? = some b := by rw [List.getElem?_eq_getElem hj, hjb]
      obtain rfl := index_eq_of_location hi hj' hl.symm
      rw [hi, Option.some.injEq] at hj'
      exact ⟨b, rfl, by rw [← hj']⟩

/-- A stop's location is mapped to its arrival. -/
theorem arrival?_of_getElem? {i : Nat} {a : ScheduledStop} (h : schedule.stops[i]? = some a) :
    schedule.arrival? a.location = some a.arrivalAt :=
  arrival?_eq_some_iff.mpr ⟨i, h⟩

/-- A stop's location is mapped to its index. -/
theorem stopIndex?_of_getElem? {i : Nat} {a : ScheduledStop} (h : schedule.stops[i]? = some a) :
    schedule.stopIndex? a.location = some i := by
  unfold stopIndex?
  rw [List.idxOf?_eq_some_iff]
  obtain ⟨hi, rfl⟩ := List.getElem?_eq_some_iff.mp h
  refine ⟨by simpa using hi, by simp, fun j hj hc ↦ ?_⟩
  have hj' : j < schedule.stops.length := by omega
  have := index_eq_of_location (List.getElem?_eq_getElem hj') h (by simpa using hc)
  omega

/-- Arrival times succeed exactly at the stops. -/
theorem arrivalTimeAt_eq_ok_iff {location : LocationCode} {t : Datetime} :
    schedule.arrivalTimeAt location = .ok t ↔ schedule.arrival? location = some t := by
  unfold arrivalTimeAt
  cases schedule.arrival? location <;> simp

/-- The final arrival is the arrival at the last stop. -/
theorem etaFinal_of_getElem? {a : ScheduledStop}
    (h : schedule.stops[schedule.stops.length - 1]? = some a) : schedule.etaFinal = a.arrivalAt := by
  unfold etaFinal
  rw [List.getLast_eq_getElem]
  obtain ⟨-, rfl⟩ := List.getElem?_eq_some_iff.mp h
  rfl

variable (schedule)

/-- Every schedule has a first and a last stop. -/
theorem exists_ends : ∃ first last, schedule.stops[0]? = some first ∧
    schedule.stops[schedule.stops.length - 1]? = some last := by
  have h := schedule.two_le_length
  exact ⟨_, _, List.getElem?_eq_getElem (by omega), List.getElem?_eq_getElem (by omega)⟩

/-- A route departs before it finishes. -/
theorem departureTime_lt_etaFinal : schedule.departureTime < schedule.etaFinal := by
  obtain ⟨first, last, h0, hn⟩ := schedule.exists_ends
  rw [← arrivalAt_of_first h0, etaFinal_of_getElem? hn]
  exact arrivalAt_lt h0 hn (by have := schedule.two_le_length; omega)

variable {schedule}

/-- No stop is reached after the final arrival. -/
theorem arrivalAt_le_etaFinal {i : Nat} {a : ScheduledStop} (h : schedule.stops[i]? = some a) :
    a.arrivalAt ≤ schedule.etaFinal := by
  obtain ⟨first, last, -, hn⟩ := schedule.exists_ends
  rw [etaFinal_of_getElem? hn]
  have := (List.getElem?_eq_some_iff.mp h).1
  exact arrivalAt_le h hn (by omega)

/-- No stop is reached before departure. -/
theorem departureTime_le_arrivalAt {i : Nat} {a : ScheduledStop}
    (h : schedule.stops[i]? = some a) : schedule.departureTime ≤ a.arrivalAt := by
  obtain ⟨first, last, h0, -⟩ := schedule.exists_ends
  rw [← arrivalAt_of_first h0]
  exact arrivalAt_le h0 h (Nat.zero_le _)

end RouteSchedule
end FleetFlow
