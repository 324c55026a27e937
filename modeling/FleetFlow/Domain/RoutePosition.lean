import FleetFlow.Domain.RouteSchedule

/-!
# Where a scheduled route is at an instant

`RouteSchedule.positionAt` follows the segment loop of
`domain/value_objects/route_schedule.py:184–281`. Its four specification lemmas
cover every instant and speak about stop indices only.
-/

namespace FleetFlow.RouteSchedule

variable (schedule : RouteSchedule)

/-- First stop of a schedule. -/
def firstStop : ScheduledStop := schedule.stops.head schedule.stops_ne_nil

/-- Last stop of a schedule. -/
def lastStop : ScheduledStop := schedule.stops.getLast schedule.stops_ne_nil

/-- Arrival at the stop after a city; `domain/value_objects/route_schedule.py:263–268`. -/
def nextStopEta (city : LocationCode) : Option Datetime :=
  (schedule.stopIndex? city).bind fun i ↦
    (schedule.stops[i + 1]?).bind fun stop ↦ schedule.arrival? stop.location

/-- Position on one segment, if the instant falls on it;
`domain/value_objects/route_schedule.py:217–261`. Both ends of a segment are stops,
so both lookups succeed. -/
def positionOnSegment (segment : RouteSegment) (now : Datetime) (firstCity : LocationCode) :
    Option RoutePosition :=
  match schedule.arrival? segment.start, schedule.arrival? segment.end_ with
  | some startTime, some endTime =>
    if now = startTime then
      some {
        kind := if segment.start = firstCity then .inTransit else .atStop
        fromCity := some segment.start
        toCity := some segment.end_
        nextEta := some endTime }
    else if now = endTime then
      some {
        kind := .atStop
        stopCity := some segment.end_
        nextEta := schedule.nextStopEta segment.end_ }
    else if startTime < now ∧ now < endTime then
      some {
        kind := .inTransit
        fromCity := some segment.start
        toCity := some segment.end_
        nextEta := some endTime }
    else none
  | _, _ => none

/-- Position when no segment matched; `domain/value_objects/route_schedule.py:270–280`. -/
def positionAfterSegments (now firstDeparture : Datetime) : RoutePosition :=
  if schedule.lastStop.arrivalAt ≤ now then
    { kind := .afterEnd, stopCity := some schedule.lastStop.location }
  else
    { kind := .atStop
      stopCity := some schedule.firstStop.location
      nextEta := some firstDeparture }

/-- Temporal position; `domain/value_objects/route_schedule.py:184–215`. -/
def positionAt (now : Datetime) : RoutePosition :=
  let firstCity := schedule.firstStop.location
  let firstDeparture := schedule.firstStop.arrivalAt
  if now < firstDeparture then
    { kind := .beforeStart, stopCity := some firstCity, nextEta := some firstDeparture }
  else
    match schedule.segments.findSome? (schedule.positionOnSegment · now firstCity) with
    | some position => position
    | none => schedule.positionAfterSegments now firstDeparture

variable {schedule}

private theorem firstStop_of_getElem? {a : ScheduledStop} (h : schedule.stops[0]? = some a) :
    schedule.firstStop = a := by
  unfold firstStop
  rw [List.head_eq_getElem]
  exact (List.getElem?_eq_some_iff.mp h).2

/-- The first stop stands at index zero. -/
theorem getElem?_firstStop : schedule.stops[0]? = some schedule.firstStop := by
  obtain ⟨first, -, h0, -⟩ := schedule.exists_ends
  rw [h0, firstStop_of_getElem? h0]

/-- The last stop stands at the last index. -/
theorem getElem?_lastStop :
    schedule.stops[schedule.stops.length - 1]? = some schedule.lastStop := by
  unfold lastStop
  rw [List.getLast_eq_getElem]
  exact List.getElem?_eq_getElem _

/-- The first stop is reached at departure. -/
@[simp] theorem arrivalAt_firstStop : schedule.firstStop.arrivalAt = schedule.departureTime :=
  arrivalAt_of_first getElem?_firstStop

/-- The last stop is reached at the final arrival time. -/
@[simp] theorem arrivalAt_lastStop : schedule.lastStop.arrivalAt = schedule.etaFinal := rfl

private theorem nextStopEta_of_getElem? {i : Nat} {a : ScheduledStop}
    (h : schedule.stops[i]? = some a) :
    schedule.nextStopEta a.location = (schedule.stops[i + 1]?).map ScheduledStop.arrivalAt := by
  unfold nextStopEta
  rw [stopIndex?_of_getElem? h, Option.bind_some]
  cases hn : schedule.stops[i + 1]? with
  | none => rfl
  | some b => simp [arrival?_of_getElem? hn]

/-- The position on a segment, as a function of the stops it joins. -/
private theorem positionOnSegment_of_joins {i : Nat} {segment : RouteSegment}
    {a b : ScheduledStop} (hi : schedule.segments[i]? = some segment)
    (ha : schedule.stops[i]? = some a) (hb : schedule.stops[i + 1]? = some b) (now : Datetime) :
    schedule.positionOnSegment segment now schedule.firstStop.location =
      if now = a.arrivalAt then
        some {
          kind := if i = 0 then .inTransit else .atStop
          fromCity := some a.location
          toCity := some b.location
          nextEta := some b.arrivalAt }
      else if now = b.arrivalAt then
        some {
          kind := .atStop
          stopCity := some b.location
          nextEta := (schedule.stops[i + 2]?).map ScheduledStop.arrivalAt }
      else if a.arrivalAt < now ∧ now < b.arrivalAt then
        some {
          kind := .inTransit
          fromCity := some a.location
          toCity := some b.location
          nextEta := some b.arrivalAt }
      else none := by
  obtain ⟨a', b', ha', hb', -, -, hs, he, -⟩ := joins hi
  rw [ha, Option.some.injEq] at ha'
  rw [hb, Option.some.injEq] at hb'
  subst ha' hb'
  have hfirst : a.location = schedule.firstStop.location ↔ i = 0 := by
    constructor
    · exact index_eq_of_location ha getElem?_firstStop
    · rintro rfl
      rw [firstStop_of_getElem? ha]
  simp only [positionOnSegment, hs, he, arrival?_of_getElem? ha, arrival?_of_getElem? hb,
    nextStopEta_of_getElem? hb, hfirst]

/-- Segments before the one that ends at or before `now` do not match. -/
private theorem positionOnSegment_eq_none {i j : Nat} {segment : RouteSegment}
    {b : ScheduledStop} {now : Datetime} (hj : schedule.segments[j]? = some segment)
    (hb : schedule.stops[i]? = some b) (hlt : b.arrivalAt < now ∨ b.arrivalAt = now ∧ j + 1 < i)
    (hji : j < i) : schedule.positionOnSegment segment now schedule.firstStop.location = none := by
  obtain ⟨x, y, hx, hy, -⟩ := joins hj
  have hxb : x.arrivalAt < b.arrivalAt := arrivalAt_lt hx hb hji
  have hxy : x.arrivalAt < y.arrivalAt := arrivalAt_lt hx hy (by omega)
  have hyn : y.arrivalAt < now := by
    rcases hlt with h | ⟨h, h'⟩
    · exact (arrivalAt_le hy hb hji).trans_lt h
    · exact h ▸ arrivalAt_lt hy hb h'
  rw [positionOnSegment_of_joins hj hx hy, if_neg (hxy.trans hyn).ne', if_neg hyn.ne',
    if_neg fun h ↦ lt_asymm hyn h.2]

private theorem positionAt_of_segment {i : Nat} {segment : RouteSegment} {now : Datetime}
    {position : RoutePosition} (hdep : schedule.departureTime ≤ now)
    (hi : schedule.segments[i]? = some segment)
    (hp : schedule.positionOnSegment segment now schedule.firstStop.location = some position)
    (hnone : ∀ j g, j < i → schedule.segments[j]? = some g →
      schedule.positionOnSegment g now schedule.firstStop.location = none) :
    schedule.positionAt now = position := by
  have hfind : schedule.segments.findSome?
      (schedule.positionOnSegment · now schedule.firstStop.location) = some position := by
    rw [List.findSome?_eq_some_iff]
    obtain ⟨hlt, rfl⟩ := List.getElem?_eq_some_iff.mp hi
    refine ⟨schedule.segments.take i, schedule.segments[i], schedule.segments.drop (i + 1),
      by simp, hp, fun g hg ↦ ?_⟩
    obtain ⟨j, hj, rfl⟩ := List.mem_iff_getElem.mp hg
    rw [List.length_take] at hj
    rw [List.getElem_take]
    exact hnone j _ (by omega) (List.getElem?_eq_getElem (by omega))
  simp only [positionAt, arrivalAt_firstStop, not_lt.mpr hdep, if_false, hfind]

/-! ### The position at every instant -/

/-- Before departure the route waits at its first stop. -/
theorem positionAt_beforeStart {now : Datetime} (h : now < schedule.departureTime) :
    schedule.positionAt now =
      { kind := .beforeStart
        stopCity := some schedule.firstStop.location
        nextEta := some schedule.departureTime } := by
  simp only [positionAt, arrivalAt_firstStop, h, if_true]

/-- Between two arrivals, and at the departure instant, the route travels. -/
theorem positionAt_inTransit {now : Datetime} {i : Nat} {a b : ScheduledStop}
    (ha : schedule.stops[i]? = some a) (hb : schedule.stops[i + 1]? = some b)
    (h : a.arrivalAt < now ∨ a.arrivalAt = now ∧ i = 0) (hlt : now < b.arrivalAt) :
    schedule.positionAt now =
      { kind := .inTransit
        fromCity := some a.location
        toCity := some b.location
        nextEta := some b.arrivalAt } := by
  obtain ⟨g, hg, -⟩ := exists_segment ha hb
  have hle : a.arrivalAt ≤ now := h.elim le_of_lt fun h ↦ h.1.le
  refine positionAt_of_segment ((departureTime_le_arrivalAt ha).trans hle) hg ?_ ?_
  · rw [positionOnSegment_of_joins hg ha hb]
    rcases h with h | ⟨h, rfl⟩
    · rw [if_neg h.ne', if_neg hlt.ne, if_pos ⟨h, hlt⟩]
    · rw [if_pos h.symm, if_pos rfl]
  · intro j g' hj hg'
    rcases h with h | ⟨-, rfl⟩
    · exact positionOnSegment_eq_none hg' ha (.inl h) hj
    · omega

/-- At the arrival instant of a later stop the route is at that stop. -/
theorem positionAt_atStop {now : Datetime} {i : Nat} {a : ScheduledStop}
    (ha : schedule.stops[i + 1]? = some a) (h : a.arrivalAt = now) :
    schedule.positionAt now =
      { kind := .atStop
        stopCity := some a.location
        nextEta := (schedule.stops[i + 2]?).map ScheduledStop.arrivalAt } := by
  have hi := (List.getElem?_eq_some_iff.mp ha).1
  have hp := List.getElem?_eq_getElem (show i < schedule.stops.length by omega)
  obtain ⟨g, hg, -⟩ := exists_segment hp ha
  have hlt := arrivalAt_lt hp ha (by omega)
  refine positionAt_of_segment (h ▸ departureTime_le_arrivalAt ha) hg ?_ ?_
  · rw [positionOnSegment_of_joins hg hp ha, if_neg (h ▸ hlt.ne'), if_pos h.symm]
  · intro j g' hj hg'
    exact positionOnSegment_eq_none hg' ha (.inr ⟨h, by omega⟩) (by omega)

/-- After the final arrival the route has ended. -/
theorem positionAt_afterEnd {now : Datetime} (h : schedule.etaFinal < now) :
    schedule.positionAt now =
      { kind := .afterEnd, stopCity := some schedule.lastStop.location } := by
  have hdep : ¬ now < schedule.departureTime :=
    not_lt.mpr (schedule.departureTime_lt_etaFinal.trans h).le
  have hfind : schedule.segments.findSome?
      (schedule.positionOnSegment · now schedule.firstStop.location) = none := by
    rw [List.findSome?_eq_none_iff]
    intro g hg
    obtain ⟨j, hj, rfl⟩ := List.mem_iff_getElem.mp hg
    have hlen := schedule.length_stops
    refine positionOnSegment_eq_none (List.getElem?_eq_getElem hj) getElem?_lastStop (.inl ?_)
      (by omega)
    rwa [arrivalAt_lastStop]
  simp only [positionAt, arrivalAt_firstStop, hdep, if_false, hfind, positionAfterSegments,
    arrivalAt_lastStop, h.le, if_true]

/-- At the final arrival instant the route is at its last stop. -/
theorem positionAt_etaFinal :
    schedule.positionAt schedule.etaFinal =
      { kind := .atStop, stopCity := some schedule.lastStop.location } := by
  have h2 := schedule.two_le_length
  have hl := @getElem?_lastStop schedule
  rw [show schedule.stops.length - 1 = schedule.stops.length - 2 + 1 by omega] at hl
  rw [positionAt_atStop hl arrivalAt_lastStop, List.getElem?_eq_none (by omega)]
  rfl

/-- Up to the final arrival some stop is the last one reached. -/
theorem exists_last_reached {now : Datetime} (hdep : schedule.departureTime ≤ now) :
    ∃ (i : Nat) (a : ScheduledStop), schedule.stops[i]? = some a ∧ a.arrivalAt ≤ now ∧
      ∀ b, schedule.stops[i + 1]? = some b → now < b.arrivalAt := by
  by_contra hcon
  push Not at hcon
  -- Otherwise every stop is reached and has a later one, so the list of stops never ends.
  have hall : ∀ i < schedule.stops.length,
      ∃ a, schedule.stops[i]? = some a ∧ a.arrivalAt ≤ now := by
    intro i hi
    induction i with
    | zero => exact ⟨_, getElem?_firstStop, by rwa [arrivalAt_firstStop]⟩
    | succ i ih =>
      obtain ⟨a, ha, hle⟩ := ih (by omega)
      exact hcon i a ha hle
  have h2 := schedule.two_le_length
  obtain ⟨a, ha, hle⟩ := hall (schedule.stops.length - 1) (by omega)
  obtain ⟨b, hb, -⟩ := hcon _ a ha hle
  have := (List.getElem?_eq_some_iff.mp hb).1
  omega

end FleetFlow.RouteSchedule
