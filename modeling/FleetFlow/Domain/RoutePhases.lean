import FleetFlow.Domain.RoutePosition

/-!
# The phases of a scheduled route

A schedule cuts time into phases: before departure, one for each leg, one for each later stop and
after the final arrival. `RouteSchedule.positionAt` reports the one phase of each instant, and the
phases follow each other in the order of the stops.
-/

namespace FleetFlow

/-- A leg is numbered by the stop it leaves. -/
inductive RoutePhase where
  | beforeStart
  | inTransit (i : Nat)
  | atStop (i : Nat)
  | afterEnd
deriving DecidableEq, Repr

namespace RoutePhase

variable (schedule : RouteSchedule)

/-- The instants of a phase. The departure instant belongs to the first leg, every later arrival
instant to its stop. -/
def At (now : Datetime) : RoutePhase → Prop
  | beforeStart => now < schedule.departureTime
  | inTransit i => ∃ a b, schedule.stops[i]? = some a ∧ schedule.stops[i + 1]? = some b ∧
      (a.arrivalAt < now ∨ i = 0 ∧ now = schedule.departureTime) ∧ now < b.arrivalAt
  | atStop i => 1 ≤ i ∧ ∃ a, schedule.stops[i]? = some a ∧ now = a.arrivalAt
  | afterEnd => schedule.etaFinal < now

/-- What a phase looks like from outside. -/
def position : RoutePhase → RoutePosition
  | beforeStart =>
    { kind := .beforeStart
      stopCity := some schedule.firstStop.location
      nextEta := some schedule.departureTime }
  | inTransit i =>
    { kind := .inTransit
      fromCity := (schedule.stops[i]?).map ScheduledStop.location
      toCity := (schedule.stops[i + 1]?).map ScheduledStop.location
      nextEta := (schedule.stops[i + 1]?).map ScheduledStop.arrivalAt }
  | atStop i =>
    { kind := .atStop
      stopCity := (schedule.stops[i]?).map ScheduledStop.location
      nextEta := (schedule.stops[i + 1]?).map ScheduledStop.arrivalAt }
  | afterEnd => { kind := .afterEnd, stopCity := some schedule.lastStop.location }

end RoutePhase

namespace RouteSchedule

variable (schedule : RouteSchedule)

/-- Where a city stands in the schedule, zero if nowhere. -/
def stopIndexD (city : Option LocationCode) : Nat := (city.bind schedule.stopIndex?).getD 0

/-- How far a reported position lies along the route: twice the index of a stop, and one more on
the leg after it. -/
def progress (position : RoutePosition) : Nat :=
  match position.kind with
  | .unscheduled | .beforeStart => 0
  | .inTransit => 2 * schedule.stopIndexD position.fromCity + 1
  | .atStop => 2 * schedule.stopIndexD position.stopCity
  | .afterEnd => 2 * schedule.stops.length

variable {schedule} {now : Datetime}

/-! ### Each instant has one phase -/

/-- The reported position is the one of the phase. -/
theorem positionAt_of_at {phase : RoutePhase} (h : phase.At schedule now) :
    schedule.positionAt now = phase.position schedule := by
  cases phase with
  | beforeStart => exact positionAt_beforeStart h
  | inTransit i =>
    obtain ⟨a, b, ha, hb, hfrom, hto⟩ := h
    rw [positionAt_inTransit ha hb ?_ hto]
    · simp only [RoutePhase.position, ha, hb, Option.map_some]
    · rcases hfrom with hlt | ⟨rfl, hnow⟩
      · exact .inl hlt
      · exact .inr ⟨(arrivalAt_of_first ha).trans hnow.symm, rfl⟩
  | atStop i =>
    obtain ⟨hi, a, ha, hnow⟩ := h
    obtain ⟨j, rfl⟩ : ∃ j, i = j + 1 := ⟨i - 1, by omega⟩
    rw [positionAt_atStop ha hnow.symm]
    simp only [RoutePhase.position, ha, Option.map_some]
  | afterEnd => exact positionAt_afterEnd h

/-- Every instant has a phase. -/
theorem exists_phase (schedule : RouteSchedule) (now : Datetime) :
    ∃ phase : RoutePhase, phase.At schedule now := by
  rcases lt_or_ge now schedule.departureTime with hlt | hdep
  · exact ⟨.beforeStart, hlt⟩
  obtain ⟨i, a, ha, hreached, hnext⟩ := exists_last_reached hdep
  cases hb : schedule.stops[i + 1]? with
  | some b =>
    rcases hreached.lt_or_eq with hlt | heq
    · exact ⟨.inTransit i, a, b, ha, hb, .inl hlt, hnext b hb⟩
    · rcases Nat.eq_zero_or_pos i with rfl | hpos
      · refine ⟨.inTransit 0, a, b, ha, hb, .inr ⟨rfl, ?_⟩, hnext b hb⟩
        exact heq.symm.trans (arrivalAt_of_first ha)
      · exact ⟨.atStop i, hpos, a, ha, heq.symm⟩
  | none =>
    have hlast : i = schedule.stops.length - 1 := by
      have h1 := (List.getElem?_eq_some_iff.mp ha).1
      have h2 := List.getElem?_eq_none_iff.mp hb
      omega
    have heta : schedule.etaFinal = a.arrivalAt := etaFinal_of_getElem? (hlast ▸ ha)
    rcases hreached.lt_or_eq with hlt | heq
    · have hend : schedule.etaFinal < now := heta ▸ hlt
      exact ⟨.afterEnd, hend⟩
    · refine ⟨.atStop i, ?_, a, ha, heq.symm⟩
      have := schedule.two_le_length
      omega

private theorem index_eq_of_map_location {i j : Nat} {a : ScheduledStop}
    (ha : schedule.stops[i]? = some a)
    (h : (schedule.stops[j]?).map ScheduledStop.location = some a.location) : j = i := by
  obtain ⟨b, hb, hlocation⟩ := Option.map_eq_some_iff.mp h
  exact index_eq_of_location hb ha hlocation

/-- A phase that has an instant is the only one with its position. -/
theorem eq_of_position_eq {phase other : RoutePhase} (h : phase.At schedule now)
    (heq : other.position schedule = phase.position schedule) : other = phase := by
  cases phase with
  | beforeStart => cases other <;> simp [RoutePhase.position] at heq ⊢
  | inTransit i =>
    obtain ⟨a, b, ha, hb, -⟩ := h
    cases other with
    | inTransit j =>
      simp only [RoutePhase.position, RoutePosition.mk.injEq, ha, Option.map_some] at heq
      rw [index_eq_of_map_location ha heq.2.1]
    | _ => simp [RoutePhase.position] at heq
  | atStop i =>
    obtain ⟨-, a, ha, -⟩ := h
    cases other with
    | atStop j =>
      simp only [RoutePhase.position, RoutePosition.mk.injEq, ha, Option.map_some] at heq
      rw [index_eq_of_map_location ha heq.2.2.2.1]
    | _ => simp [RoutePhase.position] at heq
  | afterEnd => cases other <;> simp [RoutePhase.position] at heq ⊢

/-- The reported position tells the phase. -/
theorem positionAt_eq_iff (phase : RoutePhase) :
    schedule.positionAt now = phase.position schedule ↔ phase.At schedule now := by
  constructor
  · intro h
    obtain ⟨actual, hactual⟩ := exists_phase schedule now
    have hsame : phase = actual :=
      eq_of_position_eq hactual (h.symm.trans (positionAt_of_at hactual))
    exact hsame ▸ hactual
  · exact positionAt_of_at

/-- Each instant has exactly one phase. -/
theorem existsUnique_phase (schedule : RouteSchedule) (now : Datetime) :
    ∃! phase : RoutePhase, phase.At schedule now := by
  obtain ⟨phase, h⟩ := exists_phase schedule now
  refine ⟨phase, h, fun other hother ↦ ?_⟩
  exact eq_of_position_eq h ((positionAt_of_at hother).symm.trans (positionAt_of_at h))

/-! ### Phases follow the stops -/

/-- The progress of a phase. -/
def phaseProgress (schedule : RouteSchedule) : RoutePhase → Nat
  | .beforeStart => 0
  | .inTransit i => 2 * i + 1
  | .atStop i => 2 * i
  | .afterEnd => 2 * schedule.stops.length

theorem stopIndexD_of_getElem? {i : Nat} {a : ScheduledStop} (h : schedule.stops[i]? = some a) :
    schedule.stopIndexD (some a.location) = i := by
  rw [stopIndexD, Option.bind_some, stopIndex?_of_getElem? h, Option.getD_some]

theorem progress_position {phase : RoutePhase} (h : phase.At schedule now) :
    schedule.progress (phase.position schedule) = schedule.phaseProgress phase := by
  cases phase with
  | beforeStart => rfl
  | inTransit i =>
    obtain ⟨a, b, ha, -⟩ := h
    simp only [RoutePhase.position, progress, phaseProgress, ha, Option.map_some,
      stopIndexD_of_getElem? ha]
  | atStop i =>
    obtain ⟨-, a, ha, -⟩ := h
    simp only [RoutePhase.position, progress, phaseProgress, ha, Option.map_some,
      stopIndexD_of_getElem? ha]
  | afterEnd => rfl

/-- Later instants have phases at least as far along the route. -/
theorem phaseProgress_mono {later : Datetime} {p q : RoutePhase} (hp : p.At schedule now)
    (hq : q.At schedule later) (hle : now ≤ later) :
    schedule.phaseProgress p ≤ schedule.phaseProgress q := by
  have hdeparted : ∀ {i : Nat} {a : ScheduledStop}, schedule.stops[i]? = some a →
      schedule.departureTime ≤ a.arrivalAt := departureTime_le_arrivalAt
  have hbound : ∀ {i : Nat} {a : ScheduledStop}, schedule.stops[i]? = some a →
      i < schedule.stops.length := fun h ↦ (List.getElem?_eq_some_iff.mp h).1
  cases p with
  | beforeStart => exact Nat.zero_le _
  | inTransit i =>
    obtain ⟨a, b, ha, hb, hfrom, -⟩ := hp
    have hreached : a.arrivalAt ≤ now := by
      rcases hfrom with hlt | ⟨rfl, rfl⟩
      · exact hlt.le
      · exact (arrivalAt_of_first ha).le
    have hdep := (hdeparted ha).trans (hreached.trans hle)
    cases q with
    | beforeStart => exact absurd hq (not_lt.mpr hdep)
    | inTransit j =>
      obtain ⟨c, d, -, hd, -, hto⟩ := hq
      have hij : i ≤ j := by
        by_contra hlt
        exact absurd (arrivalAt_le hd ha (by omega)) (not_le.mpr (hto.trans_le'
          (hreached.trans hle)))
      simpa [phaseProgress] using hij
    | atStop j =>
      obtain ⟨hj, c, hc, rfl⟩ := hq
      have hij : i < j := by
        by_contra hnot
        rcases hfrom with hlt | ⟨rfl, -⟩
        · exact absurd (arrivalAt_le hc ha (by omega)) (not_le.mpr (hlt.trans_le hle))
        · omega
      simp only [phaseProgress]
      omega
    | afterEnd =>
      have := hbound ha
      simp only [phaseProgress]
      omega
  | atStop i =>
    obtain ⟨-, a, ha, rfl⟩ := hp
    cases q with
    | beforeStart => exact absurd hq (not_lt.mpr ((hdeparted ha).trans hle))
    | inTransit j =>
      obtain ⟨c, d, -, hd, -, hto⟩ := hq
      have hij : i ≤ j := by
        by_contra hlt
        exact absurd (arrivalAt_le hd ha (by omega)) (not_le.mpr (hto.trans_le' hle))
      simp only [phaseProgress]
      omega
    | atStop j =>
      obtain ⟨-, c, hc, rfl⟩ := hq
      have hij : i ≤ j := by
        by_contra hlt
        exact absurd (arrivalAt_lt hc ha (by omega)) (not_lt.mpr hle)
      simp only [phaseProgress]
      omega
    | afterEnd =>
      have := hbound ha
      simp only [phaseProgress]
      omega
  | afterEnd =>
    have hend : schedule.etaFinal < later := lt_of_lt_of_le hp hle
    have hq' : q = .afterEnd := (existsUnique_phase schedule later).unique hq hend
    rw [hq']

/-- The reported position never moves backwards. -/
theorem progress_mono {later : Datetime} (hle : now ≤ later) :
    schedule.progress (schedule.positionAt now) ≤
      schedule.progress (schedule.positionAt later) := by
  obtain ⟨p, hp⟩ := exists_phase schedule now
  obtain ⟨q, hq⟩ := exists_phase schedule later
  rw [positionAt_of_at hp, positionAt_of_at hq, progress_position hp, progress_position hq]
  exact phaseProgress_mono hp hq hle

/-- A route that is reported at a stop is at a stop after the first one. -/
theorem exists_stop_of_atStop (h : (schedule.positionAt now).kind = .atStop) :
    ∃ i a, 1 ≤ i ∧ schedule.stops[i]? = some a ∧
      (schedule.positionAt now).stopCity = some a.location := by
  obtain ⟨phase, hphase⟩ := exists_phase schedule now
  rw [positionAt_of_at hphase] at h ⊢
  cases phase with
  | atStop i =>
    obtain ⟨hi, a, ha, -⟩ := hphase
    exact ⟨i, a, hi, ha, by simp only [RoutePhase.position, ha, Option.map_some]⟩
  | _ => cases h

/-- The reported position is exact at every instant: it is the position of a phase exactly at the
instants of the phase, there is one phase at a time, the phases follow the stops, and no route is
reported at its first stop or at no stop. -/
theorem positionAt_exact (schedule : RouteSchedule) (now : Datetime) :
    (∀ phase : RoutePhase,
      schedule.positionAt now = phase.position schedule ↔ phase.At schedule now) ∧
    (∃! phase : RoutePhase, phase.At schedule now) ∧
    (∀ later, now ≤ later → schedule.progress (schedule.positionAt now) ≤
      schedule.progress (schedule.positionAt later)) ∧
    ((schedule.positionAt now).kind = .atStop → ∃ city,
      (schedule.positionAt now).stopCity = some city ∧ city ≠ schedule.firstStop.location) := by
  refine ⟨positionAt_eq_iff, existsUnique_phase schedule now, fun _ ↦ progress_mono, fun h ↦ ?_⟩
  obtain ⟨i, a, hi, ha, hcity⟩ := exists_stop_of_atStop h
  refine ⟨a.location, hcity, fun hfirst ↦ ?_⟩
  have := index_eq_of_location ha getElem?_firstStop hfirst
  omega

end RouteSchedule
end FleetFlow
