import FleetFlow.Domain.RouteSchedule

/-!
# Building schedules

Follows `domain/services/route_scheduler.py`. Durations depend on the path only, so
moving a departure moves every arrival by the same amount.
-/

namespace FleetFlow.RouteScheduler

/-- Speed used for every route; `domain/services/route_scheduler.py:16`. -/
def defaultSpeedKmph : Int := 87

/-- The travel loop of `domain/services/route_scheduler.py:51–65`, from the current city and time. -/
def travel (speedKmph : Int) (current : LocationCode) (currentTime : Datetime) :
    List LocationCode → Except PyError (List RouteSegment × List ScheduledStop)
  | [] => .ok ([], [])
  | next :: rest => do
    let distanceKm ← Map.getDistance current next
    let duration := Timedelta.ofHours distanceKm speedKmph
    let arrival ← currentTime.add duration
    let (segments, stops) ← travel speedKmph next arrival rest
    .ok (⟨current, next, distanceKm, duration⟩ :: segments, ⟨next, arrival⟩ :: stops)

/-- Build a schedule; `domain/services/route_scheduler.py:18–71`. -/
def build (locations : List LocationCode) (departureTime : Datetime)
    (speedKmph : Int := defaultSpeedKmph) : Except PyError RouteSchedule := do
  require (2 ≤ locations.length)
    ⟨.domainValidation, "A route schedule requires at least two locations."⟩
  require (1 ≤ speedKmph) ⟨.domainValidation, "Route speed must be a positive integer."⟩
  match locations with
  | [] => .error ⟨.indexError, "tuple index out of range"⟩
  | first :: rest =>
    let (segments, stops) ← travel speedKmph first departureTime rest
    RouteSchedule.create departureTime segments (⟨first, departureTime⟩ :: stops)

/-- One pass of the travel loop. -/
theorem travel_cons_eq_ok_iff {speedKmph : Int} {current next : LocationCode}
    {currentTime : Datetime} {rest : List LocationCode}
    {result : List RouteSegment × List ScheduledStop} :
    travel speedKmph current currentTime (next :: rest) = .ok result ↔
      ∃ distanceKm arrival segments stops, Map.getDistance current next = .ok distanceKm ∧
        currentTime.add (Timedelta.ofHours distanceKm speedKmph) = .ok arrival ∧
        travel speedKmph next arrival rest = .ok (segments, stops) ∧
        result = (⟨current, next, distanceKm, Timedelta.ofHours distanceKm speedKmph⟩ :: segments,
          ⟨next, arrival⟩ :: stops) := by
  rw [travel]
  simp only [except_bind_eq_ok_iff, Except.ok.injEq, Prod.exists]
  constructor
  · rintro ⟨d, hd, t, ht, gs, ss, hr, rfl⟩
    exact ⟨d, t, gs, ss, hd, ht, hr, rfl⟩
  · rintro ⟨d, t, gs, ss, hd, ht, hr, rfl⟩
    exact ⟨d, hd, t, ht, gs, ss, hr, rfl⟩

/-- The loop visits the given cities in order. -/
theorem locations_travel {speedKmph : Int} {current : LocationCode} {currentTime : Datetime}
    {rest : List LocationCode} {segments : List RouteSegment} {stops : List ScheduledStop}
    (h : travel speedKmph current currentTime rest = .ok (segments, stops)) :
    stops.map ScheduledStop.location = rest := by
  induction rest generalizing current currentTime segments stops with
  | nil =>
    simp only [travel, Except.ok.injEq, Prod.mk.injEq] at h
    simp [← h.2]
  | cons next rest ih =>
    obtain ⟨d, t, gs, ss, -, -, hr, he⟩ := travel_cons_eq_ok_iff.mp h
    obtain ⟨-, rfl⟩ := Prod.mk.injEq .. ▸ he
    simp [ih hr]

/-- The loop makes one segment for each stop it reaches. -/
private theorem length_travel {speedKmph : Int} {current : LocationCode} {currentTime : Datetime}
    {rest : List LocationCode} {segments : List RouteSegment} {stops : List ScheduledStop}
    (h : travel speedKmph current currentTime rest = .ok (segments, stops)) :
    segments.length = rest.length ∧ stops.length = rest.length := by
  induction rest generalizing current currentTime segments stops with
  | nil =>
    simp only [travel, Except.ok.injEq, Prod.mk.injEq] at h
    simp [← h.1, ← h.2]
  | cons next rest ih =>
    obtain ⟨d, t, gs, ss, -, -, hr, he⟩ := travel_cons_eq_ok_iff.mp h
    obtain ⟨rfl, rfl⟩ := Prod.mk.injEq .. ▸ he
    simp [ih hr]

/-- Segments of the loop pass the segment checks on distinct supported cities. -/
private theorem checkSegments_travel {speedKmph : Int} (hs : 0 < speedKmph)
    (hs' : speedKmph ≤ 3600000000) {current : LocationCode} {currentTime : Datetime}
    {rest : List LocationCode} {segments : List RouteSegment} {stops : List ScheduledStop}
    (hmem : ∀ l ∈ current :: rest, l ∈ Map.locations) (hnd : (current :: rest).Nodup)
    (h : travel speedKmph current currentTime rest = .ok (segments, stops)) :
    RouteSchedule.checkSegments segments (⟨current, currentTime⟩ :: stops) = .ok () := by
  induction rest generalizing current currentTime segments stops with
  | nil =>
    simp only [travel, Except.ok.injEq, Prod.mk.injEq] at h
    rw [← h.1, ← h.2]
    rfl
  | cons next rest ih =>
    obtain ⟨d, t, gs, ss, hd, ht, hr, he⟩ := travel_cons_eq_ok_iff.mp h
    obtain ⟨rfl, rfl⟩ := Prod.mk.injEq .. ▸ he
    have hne : current ≠ next := fun hc ↦ by simp [hc] at hnd
    obtain ⟨d', hd', hpos⟩ := Map.getDistance_of_mem (hmem current (by simp))
      (hmem next (by simp)) hne
    obtain rfl : d' = d := by
      rw [hd, Except.ok.injEq] at hd'
      exact hd'.symm
    refine RouteSchedule.checkSegments_cons.mpr
      ⟨⟨hpos, Timedelta.ofHours_pos hpos hs hs', rfl, rfl, ht⟩, ?_⟩
    exact ih (fun l hl ↦ hmem l (by simp_all)) (List.nodup_cons.mp hnd).2 hr

/-- Building over a route path succeeds exactly when the travel loop does. -/
theorem build_eq_ok_iff {path : RoutePath} {departureTime : Datetime} {schedule : RouteSchedule} :
    build path.locations departureTime = .ok schedule ↔
      schedule.departureTime = departureTime ∧
        ∃ first rest stops, path.locations = first :: rest ∧
          schedule.stops = ⟨first, departureTime⟩ :: stops ∧
          travel defaultSpeedKmph first departureTime rest = .ok (schedule.segments, stops) := by
  have hlen := path.two_le_length
  unfold build
  rw [require_bind_of_true hlen, require_bind_of_true (by decide)]
  split
  · next heq =>
    rw [heq] at hlen
    simp at hlen
  · next first rest heq =>
    simp only [except_bind_eq_ok_iff, RouteSchedule.create_eq_ok_iff, Prod.exists, heq,
      List.cons.injEq]
    constructor
    · rintro ⟨gs, ss, ht, h1, rfl, h3⟩
      exact ⟨h1, first, rest, ss, ⟨rfl, rfl⟩, h3, ht⟩
    · rintro ⟨h1, _, _, ss, ⟨rfl, rfl⟩, h3, ht⟩
      exact ⟨schedule.segments, ss, ht, h1, rfl, h3⟩

/-- What the loop makes of a route path is a schedule. -/
private theorem check_travel {path : RoutePath} {t : Datetime} {first : LocationCode}
    {rest : List LocationCode} {segments : List RouteSegment} {stops : List ScheduledStop}
    (hp : path.locations = first :: rest)
    (h : travel defaultSpeedKmph first t rest = .ok (segments, stops)) :
    RouteSchedule.check t segments (⟨first, t⟩ :: stops) = .ok () := by
  have hlen := length_travel h
  have hmem : ∀ l ∈ first :: rest, l ∈ Map.locations := fun l hl ↦ path.mem_map (hp ▸ hl)
  have hnd : (first :: rest).Nodup := hp ▸ path.nodup
  have h2 : 2 ≤ (first :: rest).length := hp ▸ path.two_le_length
  simp only [RouteSchedule.check, require_bind_eq_ok_iff]
  refine ⟨?_, ?_, rfl, ?_, checkSegments_travel (by decide) (by decide) hmem hnd h⟩
  · simpa [hlen.2] using h2
  · simp [hlen.1, hlen.2]
  · simpa [locations_travel h] using hnd

/-- A built schedule has the stops of its path. -/
theorem locations_of_build {path : RoutePath} {departureTime : Datetime} {schedule : RouteSchedule}
    (h : build path.locations departureTime = .ok schedule) :
    schedule.stops.map ScheduledStop.location = path.locations := by
  obtain ⟨-, first, rest, stops, hp, hs, ht⟩ := build_eq_ok_iff.mp h
  rw [hs, hp, List.map_cons, locations_travel ht]

/-- A built schedule departs when it was asked to. -/
theorem departureTime_of_build {path : RoutePath} {departureTime : Datetime}
    {schedule : RouteSchedule} (h : build path.locations departureTime = .ok schedule) :
    schedule.departureTime = departureTime :=
  (build_eq_ok_iff.mp h).1

/-! ### Moving a departure -/

/-- Shift every arrival of the loop by a number of microseconds. -/
private theorem travel_shift {speedKmph : Int} {current : LocationCode} {t t' : Datetime}
    {rest : List LocationCode} {segments : List RouteSegment} {stops : List ScheduledStop}
    (hs : 0 < speedKmph) (hs' : speedKmph ≤ 3600000000)
    (hmem : ∀ l ∈ current :: rest, l ∈ Map.locations) (hnd : (current :: rest).Nodup)
    (h : travel speedKmph current t rest = .ok (segments, stops)) (hle : t' ≤ t) :
    ∃ stops', travel speedKmph current t' rest = .ok (segments, stops') ∧
      stops'.map ScheduledStop.location = stops.map ScheduledStop.location ∧
      ∀ (i : Nat) (a : ScheduledStop), stops[i]? = some a → ∃ a', stops'[i]? = some a' ∧
        (a'.arrivalAt.micros : Int) = a.arrivalAt.micros - (t.micros - t'.micros) := by
  induction rest generalizing current t t' segments stops with
  | nil =>
    simp only [travel, Except.ok.injEq, Prod.mk.injEq] at h
    obtain ⟨rfl, rfl⟩ := h
    exact ⟨[], rfl, rfl, by simp⟩
  | cons next rest ih =>
    obtain ⟨d, arrival, gs, ss, hd, ht, hr, he⟩ := travel_cons_eq_ok_iff.mp h
    obtain ⟨rfl, rfl⟩ := Prod.mk.injEq .. ▸ he
    have hne : current ≠ next := fun hc ↦ by simp [hc] at hnd
    obtain ⟨d', hd', hpos⟩ := Map.getDistance_of_mem (hmem current (by simp))
      (hmem next (by simp)) hne
    obtain rfl : d' = d := by
      rw [hd, Except.ok.injEq] at hd'
      exact hd'.symm
    have hdur := Timedelta.ofHours_pos hpos hs hs'
    rw [Datetime.add_eq_ok_iff] at ht
    rw [Datetime.le_iff_micros] at hle
    have hr' := arrival.inRange
    let arrival' : Datetime :=
      ⟨((t'.micros : Int) + (Timedelta.ofHours d' speedKmph).micros).toNat, by omega⟩
    have ha' : (arrival'.micros : Int) = t'.micros + (Timedelta.ofHours d' speedKmph).micros :=
      Int.toNat_of_nonneg (by omega)
    have hearlier : arrival' ≤ arrival := Datetime.le_iff_micros.mpr (by omega)
    obtain ⟨ss', hss', hloc, harr⟩ := ih (fun l hl ↦ hmem l (by simp_all))
      (List.nodup_cons.mp hnd).2 hr hearlier
    refine ⟨⟨next, arrival'⟩ :: ss', ?_, by simp [hloc], ?_⟩
    · exact travel_cons_eq_ok_iff.mpr
        ⟨d', arrival', gs, ss', hd, Datetime.add_eq_ok_iff.mpr ha', hss', rfl⟩
    · intro i a hi
      cases i with
      | zero =>
        rw [List.getElem?_cons_zero, Option.some.injEq] at hi
        refine ⟨⟨next, arrival'⟩, rfl, ?_⟩
        rw [← hi]
        show (arrival'.micros : Int) = arrival.micros - (t.micros - t'.micros)
        omega
      | succ i =>
        rw [List.getElem?_cons_succ] at hi
        obtain ⟨a', ha1, ha2⟩ := harr i a hi
        exact ⟨a', by rwa [List.getElem?_cons_succ], by omega⟩

/-- The same path can leave at any earlier time, and then reaches every stop earlier by the same
amount. -/
theorem build_earlier {path : RoutePath} {t t' : Datetime} {schedule : RouteSchedule}
    (h : build path.locations t = .ok schedule) (hle : t' ≤ t) :
    ∃ schedule', build path.locations t' = .ok schedule' ∧
      ∀ (i : Nat) (a : ScheduledStop), schedule.stops[i]? = some a →
        ∃ a', schedule'.stops[i]? = some a' ∧ a'.location = a.location ∧
          (a'.arrivalAt.micros : Int) = a.arrivalAt.micros - (t.micros - t'.micros) := by
  obtain ⟨-, first, rest, stops, hp, hs, ht⟩ := build_eq_ok_iff.mp h
  have hmem : ∀ l ∈ first :: rest, l ∈ Map.locations := fun l hl ↦ path.mem_map (hp ▸ hl)
  have hnd : (first :: rest).Nodup := hp ▸ path.nodup
  obtain ⟨stops', ht', hloc, harr⟩ := travel_shift (by decide) (by decide) hmem hnd ht hle
  have hvalid := check_travel hp ht'
  refine ⟨⟨t', schedule.segments, ⟨first, t'⟩ :: stops', hvalid⟩,
    build_eq_ok_iff.mpr ⟨rfl, first, rest, stops', hp, rfl, ht'⟩, fun i a hi ↦ ?_⟩
  rw [hs] at hi
  cases i with
  | zero =>
    rw [List.getElem?_cons_zero, Option.some.injEq] at hi
    refine ⟨⟨first, t'⟩, rfl, by rw [← hi], ?_⟩
    rw [← hi]
    show (t'.micros : Int) = t.micros - (t.micros - t'.micros)
    omega
  | succ i =>
    rw [List.getElem?_cons_succ] at hi
    obtain ⟨a', ha1, ha2⟩ := harr i a hi
    refine ⟨a', ha1, ?_, ha2⟩
    have hl := congrArg (fun (ls : List LocationCode) ↦ ls[i]?) hloc
    simpa [ha1, hi] using hl

/-! ### When a schedule can be built -/

/-- Microseconds on the road from one city to the next. -/
def legMicros (speedKmph : Int) (current next : LocationCode) : Int :=
  match Map.getDistance current next with
  | .ok distanceKm => (Timedelta.ofHours distanceKm speedKmph).micros
  | .error _ => 0

/-- Microseconds on the road from a city through the cities that follow. -/
def journeyMicros (speedKmph : Int) (current : LocationCode) : List LocationCode → Int
  | [] => 0
  | next :: rest => legMicros speedKmph current next + journeyMicros speedKmph next rest

/-- The loop over distinct supported cities returns exactly when the last arrival is a date. -/
private theorem exists_travel_iff {speedKmph : Int} (hs : 0 < speedKmph)
    (hs' : speedKmph ≤ 3600000000) {current : LocationCode} {t : Datetime}
    {rest : List LocationCode} (hmem : ∀ l ∈ current :: rest, l ∈ Map.locations)
    (hnd : (current :: rest).Nodup) :
    0 ≤ journeyMicros speedKmph current rest ∧
      ((∃ result, travel speedKmph current t rest = .ok result) ↔
        (t.micros : Int) + journeyMicros speedKmph current rest < maxMicros) := by
  induction rest generalizing current t with
  | nil =>
    have ht := t.inRange
    unfold journeyMicros travel
    exact ⟨le_rfl, fun _ ↦ by omega, fun _ ↦ ⟨_, rfl⟩⟩
  | cons next rest ih =>
    have hne : current ≠ next := fun hc ↦ by simp [hc] at hnd
    obtain ⟨d, hd, hpos⟩ := Map.getDistance_of_mem (hmem current (by simp))
      (hmem next (by simp)) hne
    have hdur := Timedelta.ofHours_pos hpos hs hs'
    have hleg : legMicros speedKmph current next = (Timedelta.ofHours d speedKmph).micros := by
      rw [legMicros, hd]
    have hrest := fun t' ↦ @ih next t' (fun l hl ↦ hmem l (by simp_all)) (List.nodup_cons.mp hnd).2
    have hnonneg := (hrest t).1
    unfold journeyMicros
    rw [hleg]
    refine ⟨by omega, ?_, fun hlt ↦ ?_⟩
    · rintro ⟨⟨segments, stops⟩, hresult⟩
      obtain ⟨d', arrival, gs, ss, hd', harrival, htravel, -⟩ := travel_cons_eq_ok_iff.mp hresult
      rw [hd, Except.ok.injEq] at hd'
      rw [← hd', Datetime.add_eq_ok_iff] at harrival
      have hlast := (hrest arrival).2.mp ⟨_, htravel⟩
      omega
    · have ht0 : 0 ≤ (t.micros : Int) + (Timedelta.ofHours d speedKmph).micros := by omega
      let arrival : Datetime :=
        ⟨((t.micros : Int) + (Timedelta.ofHours d speedKmph).micros).toNat, by omega⟩
      have harrival : (arrival.micros : Int) = t.micros + (Timedelta.ofHours d speedKmph).micros :=
        Int.toNat_of_nonneg ht0
      obtain ⟨⟨gs, ss⟩, htravel⟩ := (hrest arrival).2.mpr (by omega)
      exact ⟨_, travel_cons_eq_ok_iff.mpr
        ⟨d, arrival, gs, ss, hd, Datetime.add_eq_ok_iff.mpr harrival, htravel, rfl⟩⟩

/-- A schedule over a route path can be built exactly when the last arrival is a date. -/
theorem exists_build_iff {path : RoutePath} {t : Datetime} :
    (∃ schedule, build path.locations t = .ok schedule) ↔
      (t.micros : Int) + journeyMicros defaultSpeedKmph path.start path.locations.tail
        < maxMicros := by
  have hp : path.locations = path.start :: path.locations.tail :=
    (List.cons_head_tail path.ne_nil).symm
  have hmem : ∀ l ∈ path.start :: path.locations.tail, l ∈ Map.locations := fun l hl ↦
    path.mem_map (hp ▸ hl)
  rw [← (exists_travel_iff (by decide) (by decide) hmem (hp ▸ path.nodup)).2]
  constructor
  · rintro ⟨schedule, h⟩
    obtain ⟨-, first, rest, stops, hp', -, ht⟩ := build_eq_ok_iff.mp h
    rw [hp, List.cons.injEq] at hp'
    rw [hp'.1, hp'.2]
    exact ⟨_, ht⟩
  · rintro ⟨⟨segments, stops⟩, ht⟩
    exact ⟨⟨t, segments, ⟨path.start, t⟩ :: stops, check_travel hp ht⟩,
      build_eq_ok_iff.mpr ⟨rfl, path.start, path.locations.tail, stops, hp, rfl, ht⟩⟩

/-- Building does not depend on how the departure was obtained. -/
theorem build_departureTime {path : RoutePath} {departureTime : Datetime}
    {schedule : RouteSchedule} (h : build path.locations departureTime = .ok schedule) :
    build path.locations schedule.departureTime = .ok schedule := by
  rw [departureTime_of_build h, h]

end FleetFlow.RouteScheduler
