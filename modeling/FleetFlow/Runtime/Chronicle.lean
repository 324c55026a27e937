import FleetFlow.Runtime.Progress

/-!
# Chronicles

The record of a run in which every entry carries the clock value of the operation that recorded
it, and commands name the clock value as their instant. What holds along a run follows from the
elementary changes and from the heartbeat; the story of one object is a list in which every moment
may follow the one before it.
-/

namespace FleetFlow

open Program

/-! ### Stories -/

section Story

variable {α : Type} {next : Option α → α → Prop}

/-- A list each element of which may follow the one before it. -/
inductive Story (next : Option α → α → Prop) : List α → Prop
  | nil : Story next []
  | snoc {xs : List α} {x : α} (h : Story next xs) (hx : next xs.getLast? x) : Story next (xs ++ [x])

/-- Every element of a story may follow what stands before it. -/
theorem Story.next_of_append {xs earlier later : List α} {x : α} (h : Story next xs)
    (hxs : xs = earlier ++ x :: later) : next earlier.getLast? x := by
  induction h generalizing earlier later with
  | nil => simp at hxs
  | @snoc ys y hys hy ih =>
    rcases List.eq_nil_or_concat later with rfl | ⟨rest, z, rfl⟩
    · obtain ⟨rfl, hlast⟩ := List.append_inj' hxs rfl
      rw [List.singleton_inj] at hlast
      exact hlast ▸ hy
    · rw [List.concat_eq_append, ← List.cons_append, ← List.append_assoc] at hxs
      exact ih (List.append_inj' hxs rfl).1

/-- The last of a list that has been continued. -/
def lastOf (last : Option α) (xs : List α) : Option α := xs.getLast?.or last

@[simp] theorem lastOf_nil (last : Option α) : lastOf last [] = last := by simp [lastOf]

@[simp] theorem lastOf_append (last : Option α) (xs : List α) (x : α) :
    lastOf last (xs ++ [x]) = some x := by
  simp [lastOf]

/-- A story goes on with elements that may follow its last one. -/
theorem Story.append {xs ys : List α} (h : Story next xs)
    (hys : ∀ earlier y later, ys = earlier ++ y :: later → next (lastOf xs.getLast? earlier) y) :
    Story next (xs ++ ys) := by
  induction ys using List.reverseRecOn with
  | nil => simpa using h
  | append_singleton ys y ih =>
    rw [← List.append_assoc]
    refine (ih fun earlier z later heq ↦ hys earlier z (later ++ [y]) (by simp [heq])).snoc ?_
    rw [List.getLast?_append]
    exact hys ys y [] rfl

/-- What a step adds to a story: elements that may follow, the last of which tells what holds. -/
structure StoryStep (next : Option α → α → Prop) (told : Option α → Prop) (last : Option α)
    (new : List α) : Prop where
  next : ∀ earlier y later, new = earlier ++ y :: later → next (lastOf last earlier) y
  told : told (lastOf last new)

section StoryStep

variable {told : Option α → Prop} {last : Option α}

/-- A step that adds nothing. -/
theorem StoryStep.silent (h : told last) : StoryStep next told last [] :=
  ⟨by simp, by simpa using h⟩

/-- A step that adds an element before others. -/
theorem StoryStep.cons {x : α} {xs : List α} (hnext : next last x)
    (h : StoryStep next told (some x) xs) : StoryStep next told last (x :: xs) := by
  have hlast : ∀ ys, lastOf last (x :: ys) = lastOf (some x) ys := by
    intro ys
    cases hys : ys.getLast? <;> simp [lastOf, List.getLast?_cons, hys]
  constructor
  · intro earlier y later heq
    cases earlier with
    | nil =>
      obtain ⟨rfl, -⟩ := List.cons.inj heq
      simpa using hnext
    | cons z rest =>
      obtain ⟨rfl, hrest⟩ := List.cons.inj heq
      rw [hlast]
      exact h.next rest y later hrest
  · rw [hlast]
    exact h.told

/-- A step that adds one element. -/
theorem StoryStep.one {x : α} (hnext : next last x) (h : told (some x)) :
    StoryStep next told last [x] :=
  .cons hnext (.silent h)

/-- A step goes on with a story. -/
theorem StoryStep.story {xs ys : List α} (h : StoryStep next told xs.getLast? ys)
    (hxs : Story next xs) : Story next (xs ++ ys) ∧ told (xs ++ ys).getLast? := by
  refine ⟨hxs.append h.next, ?_⟩
  rw [List.getLast?_append]
  exact h.told

end StoryStep
end Story

/-! ### Stamped records -/

/-- An entry with the clock value of the operation that recorded it. -/
structure Note where
  recordedAt : Datetime
  entry : Entry
deriving DecidableEq, Repr

/-- Domain events as notes of one instant. -/
def notesAt (now : Datetime) (es : List DomainEvent) : List Note :=
  es.map fun e ↦ ⟨now, .domain e⟩

section Moments

variable {μ : Type} {f : Datetime → DomainEvent → Option μ}

/-- What a selection of domain events makes of a record. -/
def moments (f : Datetime → DomainEvent → Option μ) (log : List Note) : List μ :=
  log.filterMap fun note ↦
    match note.entry with
    | .domain e => f note.recordedAt e
    | .reconciliation _ => none

@[simp] theorem moments_nil : moments f [] = [] := rfl

@[simp] theorem moments_append (log log' : List Note) :
    moments f (log ++ log') = moments f log ++ moments f log' := by
  simp [moments]

@[simp] theorem moments_notesAt (now : Datetime) (es : List DomainEvent) :
    moments f (notesAt now es) = es.filterMap (f now) := by
  unfold moments notesAt
  rw [List.filterMap_map]
  rfl

/-- A heartbeat contributes its movements. -/
theorem moments_heartbeat {now : Datetime} {g : LifecycleEvent → Option μ} {entries : List Entry}
    (h : OnlyTransitions entries) (hf : ∀ e l, e.lifecycle? = some l → f now e = g l)
    (hg : ∀ l, l.isMovement = false → g l = none) :
    moments f (entries.map (Note.mk now)) = (movements entries).filterMap g := by
  induction entries with
  | nil => rfl
  | cons entry rest ih =>
    rw [show entry :: rest = [entry] ++ rest from rfl, List.map_append, moments_append,
      movements_append, List.filterMap_append, ih fun e he ↦ h e (by simp [he])]
    apply congrArg (· ++ _)
    cases entry with
    | reconciliation event => rfl
    | domain event =>
      obtain ⟨l, hl⟩ := Option.isSome_iff_exists.mp (h event (by simp))
      have hmoments : moments f ([Entry.domain event].map (Note.mk now)) = (g l).toList := by
        unfold moments
        simp only [List.map_cons, List.map_nil, List.filterMap_cons, List.filterMap_nil, hf event l hl]
        cases g l <;> rfl
      have hmovements : movements [.domain event] = if l.isMovement then [l] else [] := by
        simp [movements, Entry.lifecycle?, hl, List.filter_cons]
      rw [hmoments, hmovements]
      cases hm : l.isMovement with
      | false => simp [hg l hm]
      | true => cases hgl : g l <;> simp [hgl]

end Moments

namespace Operation

/-- A command names the clock value as its instant. -/
def OnClock (now : Datetime) : Operation → Prop
  | assignTruck _ _ at_ => at_ = now
  | _ => True

/-- The truck assignments that an operation can make in a world. -/
def Links (w : World) (now : Datetime) : Operation → TruckAssignedToRoute → Prop
  | assignTruck _ routeId _ => AssignTruckToRouteUseCase.Links w routeId now
  | _ => fun _ ↦ False

end Operation

/-- Worlds that runs of admitted operations reach, with everything recorded so far. -/
inductive Chronicled (u : UnicodeTables) (fleet : Fleet)
    (admitted : World → Datetime → Operation → Prop) : Option Datetime → World → List Note → Prop
  | start : Chronicled u fleet admitted none (World.initial fleet) []
  | step {clock : Option Datetime} {w : World} {log : List Note} {now : Datetime}
      (h : Chronicled u fleet admitted clock w log) (hnow : ∀ c ∈ clock, c ≤ now)
      (operation : Operation) (hclock : operation.OnClock now) (hallow : admitted w now operation) :
      Chronicled u fleet admitted (some now) ((operation.perform u now).finalState w)
        (log ++ (operation.record u now w).map (Note.mk now))

variable {u : UnicodeTables} {allowed : Option LocationCode → Prop} {fleet : Fleet}
  {admitted : World → Datetime → Operation → Prop} {clock : Option Datetime} {w : World}
  {log : List Note} {now : Datetime}

/-- A chronicled world is reachable. -/
theorem Chronicled.reachable (h : Chronicled u fleet admitted clock w log) :
    Reachable u fleet clock w := by
  induction h with
  | start => exact .start
  | step _ hnow operation _ _ ih => exact ih.step hnow operation

/-- Every operation of a run is admitted. -/
def AllAdmitted (u : UnicodeTables) (admitted : World → Datetime → Operation → Prop) :
    World → List (Datetime × Operation) → Prop
  | _, [] => True
  | w, (now, operation) :: rest => operation.OnClock now ∧ admitted w now operation ∧
      AllAdmitted u admitted ((operation.perform u now).finalState w) rest

/-- The entries that a run records. -/
def chronicle (u : UnicodeTables) : World → List (Datetime × Operation) → List Note
  | _, [] => []
  | w, (now, operation) :: rest => (operation.record u now w).map (Note.mk now) ++
      chronicle u ((operation.perform u now).finalState w) rest

/-- Admitted operations at non-decreasing clock values are chronicled. -/
theorem Chronicled.performAll (h : Chronicled u fleet admitted clock w log)
    {steps : List (Datetime × Operation)}
    (hsorted : (clock.toList ++ steps.map Prod.fst).Pairwise (· ≤ ·))
    (hallow : AllAdmitted u admitted w steps) :
    Chronicled u fleet admitted ((steps.map Prod.fst).getLast?.or clock)
      (FleetFlow.performAll u w steps) (log ++ chronicle u w steps) := by
  induction steps generalizing clock w log with
  | nil => simpa [chronicle, FleetFlow.performAll] using h
  | cons step rest ih =>
    obtain ⟨now, operation⟩ := step
    have hnow : ∀ c ∈ clock, c ≤ now := by
      rintro c rfl
      exact (List.pairwise_cons.mp hsorted).1 now (by simp)
    have hrest := ih (h.step hnow operation hallow.1 hallow.2.1) (by
      rw [List.map_cons] at hsorted
      exact (List.pairwise_append.mp hsorted).2.1) hallow.2.2
    rw [List.append_assoc] at hrest
    cases rest with
    | nil => exact hrest
    | cons _ _ => simpa [FleetFlow.performAll, chronicle, List.getLast?_cons] using hrest

/-! ### One operation -/

/-- Executing a command has an effect at the clock value. -/
theorem Operation.effectsAt_execute (hmap : ∀ l ∈ Map.locations, allowed (some l))
    (h : w.Sound u allowed clock) {operation : Operation} (hne : operation ≠ .heartbeat)
    (hclock : operation.OnClock now) : (operation.execute u now).EffectsAt u allowed clock now
      (operation.Links w now) w operation.removes := by
  cases operation with
  | createPackage command => exact CreatePackageUseCase.effectsAt_execute h
  | createRoute locations departureTime => exact CreateRouteUseCase.effectsAt_execute h
  | assignTruck truckId routeId at_ =>
    obtain rfl : at_ = now := hclock
    exact AssignTruckToRouteUseCase.effectsAt_execute h
  | assignPackages routeId packageIds => exact AssignPackagesToRouteUseCase.effectsAt_execute h
  | removePackage packageId => exact RemovePackageUseCase.effectsAt_execute h
  | removeRoute routeId => exact RemoveRouteUseCase.effectsAt_execute hmap h
  | heartbeat => exact absurd rfl hne

/-- Performing a command records what its changes record, and then empties buffers. -/
theorem Operation.traced_perform (hmap : ∀ l ∈ Map.locations, allowed (some l))
    (h : w.Sound u allowed clock) {operation : Operation} (hne : operation ≠ .heartbeat)
    (hclock : operation.OnClock now) : ∃ es w1, operation.record u now w = es.map .domain ∧
      w.TracedAt u now (operation.Links w now) es w1 ∧
      w1.Drained ((operation.perform u now).finalState w) := by
  have heffects := operation.effectsAt_execute hmap h hne hclock
  rw [Action.EffectsAt, ensures_iff] at heffects
  have hrecord : operation.record u now w = operation.commandEntries u now w := by
    cases operation with
    | heartbeat => exact absurd rfl hne
    | _ => rfl
  rw [hrecord]
  have hperform : operation.perform u now =
      (operation.execute u now >>= fun recorders ↦ EventCollector.drain recorders) := rfl
  unfold commandEntries
  cases hrun : operation.execute u now w with
  | ok recorders w1 =>
    rw [hrun] at heffects
    refine ⟨_, w1, rfl, heffects.2.traced, ?_⟩
    have hdrain := EventCollector.ensures_drain_drained w1 recorders
    have hthrough : (operation.perform u now).Keeps w fun v ↦ w1.Drained v := by
      rw [hperform, Action.Keeps, ensures_bind, ensures_iff, hrun]
      exact hdrain
    exact hthrough.finalState
  | error e w1 =>
    rw [hrun] at heffects
    refine ⟨_, w1, rfl, heffects.2.traced, ?_⟩
    have hthrough : (operation.perform u now).Keeps w fun v ↦ w1.Drained v := by
      rw [hperform, Action.Keeps, ensures_bind, ensures_iff, hrun]
      exact .refl w1
    exact hthrough.finalState

/-! ### Whole runs -/

/-- What a property of a world and its record survives: the passing of time, every elementary
change of a command, the emptying of buffers and the heartbeat. -/
structure RunRule (u : UnicodeTables) (allowed : Option LocationCode → Prop)
    (links : Datetime → TruckAssignedToRoute → Prop)
    (inv : Option Datetime → World → List Note → Prop) : Prop where
  later : ∀ {clock w log now}, inv clock w log → (∀ c ∈ clock, c ≤ now) → inv (some now) w log
  update : ∀ {w w' : World} {log now focus es}, w.Punctual (some now) →
    World.Update u focus w es w' → EventsAt now (links now) es → inv (some now) w log →
    inv (some now) w' (log ++ notesAt now es)
  removal : ∀ {w w' : World} {log now gone event}, World.Removal w gone event w' →
    inv (some now) w log → inv (some now) w' (log ++ notesAt now [event])
  drained : ∀ {w w' : World} {log now}, w.Drained w' → inv (some now) w log → inv (some now) w' log
  heartbeat : ∀ {clock} {w : World} {log now}, w.Sound u allowed clock → w.Punctual clock →
    (∀ c ∈ clock, c ≤ now) → inv clock w log →
    inv (some now) (w.heartbeatAt u now) (log ++ (w.heartbeatRecord u now).map (Note.mk now))

namespace RunRule

variable {links : Datetime → TruckAssignedToRoute → Prop}
  {inv : Option Datetime → World → List Note → Prop} {es : List DomainEvent} {w' : World}

/-- Changes in a row. -/
private theorem updates (hrule : RunRule u allowed links inv) {focus : World.Focus}
    (h : World.Updates u focus w es w') (hes : EventsAt now (links now) es)
    (hpunctual : w.Punctual (some now)) (hinv : inv (some now) w log) :
    inv (some now) w' (log ++ notesAt now es) := by
  induction h with
  | refl => simpa [notesAt] using hinv
  | snoc h hstep ih =>
    obtain ⟨hes, hes'⟩ := eventsAt_append.mp hes
    have hlast := hrule.update (h.punctual hpunctual) hstep hes' (ih hes)
    rw [List.append_assoc] at hlast
    simpa [notesAt] using hlast

/-- A whole command. -/
private theorem traced (hrule : RunRule u allowed links inv) (h : World.Traced u w es w')
    (hes : EventsAt now (links now) es) (hpunctual : w.Punctual (some now))
    (hinv : inv (some now) w log) : inv (some now) w' (log ++ notesAt now es) := by
  cases h with
  | updates hupdates => exact hrule.updates hupdates hes hpunctual hinv
  | removal hupdates hdrop =>
    have hlast := hrule.removal hdrop
      (hrule.updates hupdates (eventsAt_append.mp hes).1 hpunctual hinv)
    rw [List.append_assoc] at hlast
    simpa [notesAt] using hlast

end RunRule

/-- What holds at the start and survives every change holds at every point of a run. -/
theorem Chronicled.invariant {links : Datetime → TruckAssignedToRoute → Prop}
    {inv : Option Datetime → World → List Note → Prop}
    (hidle : fleet.All (Truck.Idle fun _ ↦ True)) (hrule : RunRule u (fun _ ↦ True) links inv)
    (hlinks : ∀ {w now operation}, admitted w now operation →
      ∀ e, operation.Links w now e → links now e)
    (hstart : inv none (World.initial fleet) []) (h : Chronicled u fleet admitted clock w log) :
    inv clock w log := by
  induction h with
  | start => exact hstart
  | @step clock w log now h hnow operation hclock hallow ih =>
    have hsound := h.reachable.sound (fun _ _ ↦ trivial) hidle
    have hpunctual := h.reachable.punctual hidle
    by_cases hne : operation = .heartbeat
    · subst hne
      exact hrule.heartbeat hsound hpunctual hnow ih
    · obtain ⟨es, w1, hrecord, ⟨htraced, hes⟩, hdrained⟩ :=
        operation.traced_perform (fun _ _ ↦ trivial) hsound hne hclock
      have hadmitted : EventsAt now (links now) es := fun e he ↦
        ⟨(hes e he).1, fun assigned heq ↦ hlinks hallow _ ((hes e he).2 assigned heq)⟩
      have hcommand := hrule.traced htraced hadmitted (hpunctual.later hnow) (hrule.later ih hnow)
      rw [hrecord, List.map_map]
      exact hrule.drained hdrained hcommand

end FleetFlow
