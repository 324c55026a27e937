import FleetFlow.Domain.DeliveryPackage
import FleetFlow.Domain.DeliveryRoute
import FleetFlow.Domain.Truck

/-!
# What a schedule determines at an instant

The specification of the reconciler, stated on stops and arrival times only. Each predicate
fixes the observable state of one object, so two worlds that meet it at one instant agree.
-/

namespace FleetFlow

namespace RouteSchedule

variable (schedule : RouteSchedule)

/-- The stop at index `i` is the last one reached. -/
structure LastReached (now : Datetime) (i : Nat) (stop : ScheduledStop) : Prop where
  getElem? : schedule.stops[i]? = some stop
  reached : stop.arrivalAt ≤ now
  next : ∀ later, schedule.stops[i + 1]? = some later → now < later.arrivalAt

variable {schedule}

/-- One stop is the last one reached. -/
theorem LastReached.index_eq {now : Datetime} {i j : Nat} {a b : ScheduledStop}
    (ha : schedule.LastReached now i a) (hb : schedule.LastReached now j b) : i = j := by
  have before : ∀ {i j : Nat} {a b : ScheduledStop}, schedule.LastReached now i a →
      schedule.LastReached now j b → ¬ i < j := by
    intro i j a b ha hb hij
    have hj := (List.getElem?_eq_some_iff.mp hb.getElem?).1
    have hc := List.getElem?_eq_getElem (show i + 1 < schedule.stops.length by omega)
    exact not_lt.mpr ((arrivalAt_le hc hb.getElem? hij).trans hb.reached) (ha.next _ hc)
  have h1 := before ha hb
  have h2 := before hb ha
  omega

/-- One stop is the last one reached, so its record is determined. -/
theorem LastReached.stop_eq {now : Datetime} {i j : Nat} {a b : ScheduledStop}
    (ha : schedule.LastReached now i a) (hb : schedule.LastReached now j b) : a = b := by
  have hij := ha.index_eq hb
  subst hij
  exact Option.some.inj (ha.getElem?.symm.trans hb.getElem?)

/-- From departure on some stop is the last one reached. -/
theorem exists_lastReached {now : Datetime} (h : schedule.departureTime ≤ now) :
    ∃ i stop, schedule.LastReached now i stop := by
  obtain ⟨i, a, hi, hle, hnext⟩ := exists_last_reached h
  exact ⟨i, a, hi, hle, hnext⟩

/-- The stop reached last is the last stop only from the final arrival on. -/
theorem LastReached.exists_next {now : Datetime} {i : Nat} {a : ScheduledStop}
    (ha : schedule.LastReached now i a) (hlt : now < schedule.etaFinal) :
    ∃ b, schedule.stops[i + 1]? = some b := by
  cases hn : schedule.stops[i + 1]? with
  | some b => exact ⟨b, rfl⟩
  | none =>
    have hlast : i = schedule.stops.length - 1 := by
      have h1 := (List.getElem?_eq_some_iff.mp ha.getElem?).1
      have h2 := List.getElem?_eq_none_iff.mp hn
      omega
    have h3 := ha.getElem?
    rw [hlast] at h3
    exact absurd (etaFinal_of_getElem? h3 ▸ ha.reached) (not_le.mpr hlt)

/-- A route under way is at a later stop at its arrival instant or between two stops. -/
theorem atStop_or_inTransit {now : Datetime} (hdep : schedule.departureTime ≤ now)
    (hlt : now < schedule.etaFinal) :
    (∃ (i : Nat) (a : ScheduledStop), schedule.stops[i + 1]? = some a ∧ a.arrivalAt = now) ∨
      ∃ (i : Nat) (a b : ScheduledStop), schedule.stops[i]? = some a ∧
        schedule.stops[i + 1]? = some b ∧ (a.arrivalAt < now ∨ a.arrivalAt = now ∧ i = 0) ∧
        now < b.arrivalAt := by
  obtain ⟨i, a, ha⟩ := exists_lastReached hdep
  by_cases hat : a.arrivalAt = now ∧ i ≠ 0
  · obtain ⟨j, rfl⟩ := Nat.exists_eq_succ_of_ne_zero hat.2
    exact .inl ⟨j, a, ha.getElem?, hat.1⟩
  · obtain ⟨b, hb⟩ := ha.exists_next hlt
    refine .inr ⟨i, a, b, ha.getElem?, hb, ?_, ha.next b hb⟩
    rcases ha.reached.lt_or_eq with h | h
    · exact .inl h
    · exact .inr ⟨h, by_contra fun h0 ↦ hat ⟨h, h0⟩⟩

/-- A stop is the last one reached at its own arrival instant. -/
theorem lastReached_of_atStop {now : Datetime} {i : Nat} {a : ScheduledStop}
    (ha : schedule.stops[i]? = some a) (h : a.arrivalAt = now) : schedule.LastReached now i a :=
  ⟨ha, h.le, fun _ hl ↦ h ▸ arrivalAt_lt ha hl (Nat.lt_succ_self i)⟩

/-- A stop is the last one reached until the next one is. -/
theorem lastReached_of_inTransit {now : Datetime} {i : Nat} {a b : ScheduledStop}
    (ha : schedule.stops[i]? = some a) (hb : schedule.stops[i + 1]? = some b)
    (h : a.arrivalAt < now ∨ a.arrivalAt = now ∧ i = 0) (hlt : now < b.arrivalAt) :
    schedule.LastReached now i a :=
  ⟨ha, h.elim le_of_lt fun h ↦ h.1.le, fun later hl ↦ by rwa [Option.some.inj (hl.symm.trans hb)]⟩

end RouteSchedule

namespace DeliveryRoute

variable (route : DeliveryRoute)

/-- Status at an instant. -/
def statusAt (now : Datetime) : RouteStatus :=
  match route.plan.schedule? with
  | none => .planned
  | some s =>
    if now < s.departureTime then .scheduled
    else if s.etaFinal ≤ now then .completed
    else .inProgress

/-- The final arrival has been reached. -/
def Finished (now : Datetime) : Prop := ∃ eta, route.etaFinal = some eta ∧ eta ≤ now

instance (now : Datetime) : Decidable (route.Finished now) :=
  match h : route.etaFinal with
  | none => .isFalse fun ⟨_, he, _⟩ ↦ by rw [h] at he; cases he
  | some eta =>
    if hle : eta ≤ now then .isTrue ⟨eta, h, hle⟩
    else .isFalse fun ⟨_, he, hle'⟩ ↦ hle (Option.some.inj (h.symm.trans he) ▸ hle')

variable {route}

/-- A scheduled route is finished from its final arrival on. -/
theorem finished_iff {s : RouteSchedule} (hs : route.plan.schedule? = some s) {now : Datetime} :
    route.Finished now ↔ s.etaFinal ≤ now := by
  simp [Finished, etaFinal, hs]

/-- An unscheduled route does not finish. -/
theorem not_finished_of_unscheduled (hs : route.plan.schedule? = none) {now : Datetime} :
    ¬ route.Finished now := by
  simp [Finished, etaFinal, hs]

/-- A finished route stays finished. -/
theorem Finished.mono {now later : Datetime} (h : route.Finished now) (hle : now ≤ later) :
    route.Finished later :=
  let ⟨eta, he, hn⟩ := h
  ⟨eta, he, hn.trans hle⟩

/-- A route is completed exactly when it is finished. -/
theorem statusAt_eq_completed_iff {now : Datetime} :
    route.statusAt now = .completed ↔ route.Finished now := by
  unfold statusAt
  cases hs : route.plan.schedule? with
  | none => simp [not_finished_of_unscheduled hs]
  | some s =>
    rw [finished_iff hs]
    have hlt := s.departureTime_lt_etaFinal
    dsimp only
    split
    · next h =>
      simp only [reduceCtorEq, false_iff, not_le]
      exact h.trans hlt
    · split <;> simp_all

/-- A route is planned exactly when it has no schedule. -/
theorem statusAt_eq_planned_iff {now : Datetime} :
    route.statusAt now = .planned ↔ route.plan.schedule? = none := by
  unfold statusAt
  cases route.plan.schedule? with
  | none => simp
  | some s =>
    dsimp only
    split
    · simp
    · split <;> simp

end DeliveryRoute

/-- Position of the truck of a route that has not finished. -/
structure Truck.OnSchedule (schedule : RouteSchedule) (now : Datetime) (truck : Truck) :
    Prop where
  beforeStart : now < schedule.departureTime →
    truck.currentLocation = some schedule.firstStop.location ∧ truck.inTransitTo = none
  atStop : ∀ (i : Nat) (a : ScheduledStop), schedule.stops[i + 1]? = some a → a.arrivalAt = now →
    truck.currentLocation = some a.location ∧ truck.inTransitTo = none
  inTransit : ∀ (i : Nat) (a b : ScheduledStop), schedule.stops[i]? = some a →
    schedule.stops[i + 1]? = some b → a.arrivalAt < now ∨ a.arrivalAt = now ∧ i = 0 →
    now < b.arrivalAt →
    truck.currentLocation = some a.location ∧ truck.inTransitTo = some b.location

namespace Truck

variable {schedule : RouteSchedule} {now : Datetime} {truck : Truck}

/-- Waiting at the first stop is the position before departure. -/
theorem onSchedule_of_beforeStart (h : now < schedule.departureTime)
    (hl : truck.currentLocation = some schedule.firstStop.location)
    (ht : truck.inTransitTo = none) : truck.OnSchedule schedule now := by
  refine ⟨fun _ ↦ ⟨hl, ht⟩, fun i a ha hnow ↦ ?_, fun i a b ha _ hnow _ ↦ ?_⟩
  · exact absurd (hnow ▸ RouteSchedule.departureTime_le_arrivalAt ha) (not_le.mpr h)
  · have hle := RouteSchedule.departureTime_le_arrivalAt ha
    rcases hnow with h' | h'
    · exact absurd (hle.trans h'.le) (not_le.mpr h)
    · exact absurd (h'.1 ▸ hle) (not_le.mpr h)

/-- Standing at a later stop is the position at its arrival instant. -/
theorem onSchedule_of_atStop {i : Nat} {a : ScheduledStop}
    (ha : schedule.stops[i + 1]? = some a) (h : a.arrivalAt = now)
    (hl : truck.currentLocation = some a.location) (ht : truck.inTransitTo = none) :
    truck.OnSchedule schedule now := by
  have hi := RouteSchedule.lastReached_of_atStop ha h
  refine ⟨fun hlt ↦ ?_, fun k b hb hnow ↦ ?_, fun k b c hb hc hnow hlt ↦ ?_⟩
  · exact absurd (h ▸ RouteSchedule.departureTime_le_arrivalAt ha) (not_le.mpr hlt)
  · rw [(RouteSchedule.lastReached_of_atStop hb hnow).stop_eq hi]
    exact ⟨hl, ht⟩
  · have hk := RouteSchedule.lastReached_of_inTransit hb hc hnow hlt
    have hidx := hk.index_eq hi
    rcases hnow with hnow | hnow
    · exact absurd (hk.stop_eq hi ▸ h) hnow.ne
    · omega

/-- Having left a stop for the next one is the position between their arrival instants. -/
theorem onSchedule_of_inTransit {i : Nat} {a b : ScheduledStop}
    (ha : schedule.stops[i]? = some a) (hb : schedule.stops[i + 1]? = some b)
    (h : a.arrivalAt < now ∨ a.arrivalAt = now ∧ i = 0) (hlt : now < b.arrivalAt)
    (hl : truck.currentLocation = some a.location) (ht : truck.inTransitTo = some b.location) :
    truck.OnSchedule schedule now := by
  have hi := RouteSchedule.lastReached_of_inTransit ha hb h hlt
  refine ⟨fun hdep ↦ ?_, fun k c hc hnow ↦ ?_, fun k c d hc hd hnow hlt' ↦ ?_⟩
  · exact absurd ((RouteSchedule.departureTime_le_arrivalAt ha).trans hi.reached) (not_le.mpr hdep)
  · have hk := RouteSchedule.lastReached_of_atStop hc hnow
    have hidx := hk.index_eq hi
    rcases h with h | h
    · exact absurd (hk.stop_eq hi ▸ hnow) h.ne
    · omega
  · have hk := RouteSchedule.lastReached_of_inTransit hc hd hnow hlt'
    have hidx := hk.index_eq hi
    rw [hk.stop_eq hi]
    rw [hidx, hb, Option.some.injEq] at hd
    rw [← hd]
    exact ⟨hl, ht⟩

/-- The position of a truck under way is determined by the schedule. -/
theorem OnSchedule.position_eq {a b : Truck} (ha : a.OnSchedule schedule now)
    (hb : b.OnSchedule schedule now) (hlt : now < schedule.etaFinal) :
    a.currentLocation = b.currentLocation ∧ a.inTransitTo = b.inTransitTo := by
  by_cases hdep : now < schedule.departureTime
  · have h1 := ha.beforeStart hdep
    have h2 := hb.beforeStart hdep
    exact ⟨h1.1.trans h2.1.symm, h1.2.trans h2.2.symm⟩
  · rcases RouteSchedule.atStop_or_inTransit (not_lt.mp hdep) hlt with
      ⟨i, x, hx, hnow⟩ | ⟨i, x, y, hx, hy, hnow, hlt⟩
    · have h1 := ha.atStop i x hx hnow
      have h2 := hb.atStop i x hx hnow
      exact ⟨h1.1.trans h2.1.symm, h1.2.trans h2.2.symm⟩
    · have h1 := ha.inTransit i x y hx hy hnow hlt
      have h2 := hb.inTransit i x y hx hy hnow hlt
      exact ⟨h1.1.trans h2.1.symm, h1.2.trans h2.2.symm⟩

end Truck

namespace DeliveryPackage

variable (package : DeliveryPackage)

/-- A package that waits without an expected arrival. -/
structure Waiting : Prop where
  status : package.status = .todo
  currentLocation : package.currentLocation = package.startLocation
  expectedArrival : package.expectedArrival = none

/-- State of a package whose pickup and drop-off are stops of a schedule. -/
structure OnSchedule (schedule : RouteSchedule) (now : Datetime) : Prop where
  expectedArrival : package.expectedArrival = schedule.arrival? package.endLocation
  todo : ∀ pickup, schedule.arrival? package.startLocation = some pickup → now < pickup →
    package.status = .todo ∧ package.currentLocation = package.startLocation
  done : ∀ delivery, schedule.arrival? package.endLocation = some delivery → delivery ≤ now →
    package.status = .done ∧ package.currentLocation = package.endLocation
  inProgress : ∀ pickup delivery, schedule.arrival? package.startLocation = some pickup →
    schedule.arrival? package.endLocation = some delivery → pickup ≤ now → now < delivery →
    package.status = .inProgress ∧
      ∃ i stop, schedule.LastReached now i stop ∧ package.currentLocation = stop.location

/-- State that the schedule of a route determines for a package of the route. -/
def SettledOn (route : DeliveryRoute) (now : Datetime) : Prop :=
  match route.plan.schedule? with
  | none => package.Waiting
  | some s => package.OnSchedule s now

/-- What the clock and the assignment decide about a package. -/
def observed : ItemStatus × LocationCode × Option Datetime :=
  (package.status, package.currentLocation, package.expectedArrival)

variable {package}

/-- The state of a waiting package is determined by its pickup. -/
theorem Waiting.observed_eq {p q : DeliveryPackage} (hp : p.Waiting) (hq : q.Waiting)
    (h : p.startLocation = q.startLocation) : p.observed = q.observed := by
  simp only [observed, hp.status, hq.status, hp.currentLocation, hq.currentLocation,
    hp.expectedArrival, hq.expectedArrival, h]

/-- The state of a package on a schedule is determined by its pickup and its drop-off. -/
theorem OnSchedule.observed_eq {schedule : RouteSchedule} {now pickup delivery : Datetime}
    {p q : DeliveryPackage} (hp : p.OnSchedule schedule now) (hq : q.OnSchedule schedule now)
    (hstart : p.startLocation = q.startLocation) (hend : p.endLocation = q.endLocation)
    (hs : schedule.arrival? p.startLocation = some pickup)
    (he : schedule.arrival? p.endLocation = some delivery) :
    p.observed = q.observed := by
  have hsq := hstart ▸ hs
  have heq := hend ▸ he
  have harr : p.expectedArrival = q.expectedArrival := by
    rw [hp.expectedArrival, hq.expectedArrival, hend]
  unfold observed
  by_cases h1 : now < pickup
  · obtain ⟨a1, a2⟩ := hp.todo pickup hs h1
    obtain ⟨b1, b2⟩ := hq.todo pickup hsq h1
    rw [a1, a2, b1, b2, harr, hstart]
  · by_cases h2 : delivery ≤ now
    · obtain ⟨a1, a2⟩ := hp.done delivery he h2
      obtain ⟨b1, b2⟩ := hq.done delivery heq h2
      rw [a1, a2, b1, b2, harr, hend]
    · obtain ⟨a1, i, a, ha, a2⟩ := hp.inProgress pickup delivery hs he (not_lt.mp h1) (not_le.mp h2)
      obtain ⟨b1, j, b, hb, b2⟩ := hq.inProgress pickup delivery hsq heq (not_lt.mp h1) (not_le.mp h2)
      rw [a1, a2, b1, b2, harr, ha.stop_eq hb]

end DeliveryPackage
end FleetFlow
