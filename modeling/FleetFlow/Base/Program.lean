import Mathlib.Data.List.Dedup
import Mathlib.Data.List.Forall2

/-!
# Programs that keep their state when they raise

A `Program ε σ α` reads and writes a state `σ` and returns an `α` or raises an
`ε`. As in an imperative language, what was written before a raise stays written
and a handler runs in the state the raise left. `Ensures` is the weakest
precondition of a pair of postconditions, one for returning and one for raising,
and `Frames` says what every run leaves related between its two states.
-/

namespace FleetFlow

/-- A stateful computation whose state survives a raise. -/
abbrev Program (ε σ α : Type) := EStateM ε σ α

namespace Program

variable {ε σ τ α β : Type}

/-- Run a pure fallible computation inside a program. -/
def lift (x : Except ε α) : Program ε σ α := fun s ↦
  match x with
  | .ok a => .ok a s
  | .error e => .error e s

instance : MonadLift (Except ε) (EStateM ε σ) := ⟨lift⟩

/-- Run a program on one part of the state and write that part back, also after a raise. -/
def zoom (view : σ → τ) (put : τ → σ → σ) (program : Program ε τ α) : Program ε σ α := fun s ↦
  match program (view s) with
  | .ok a t => .ok a (put t s)
  | .error e t => .error e (put t s)

/-- Run a program on each element of a list in turn, up to the first raise. -/
def each (program : Program ε σ α) : Program ε (List σ) (List α)
  | [] => .ok [] []
  | s :: rest =>
    match program s with
    | .error e s' => .error e (s' :: rest)
    | .ok a s' =>
      match each program rest with
      | .error e rest' => .error e (s' :: rest')
      | .ok as rest' => .ok (a :: as) (s' :: rest')

/-- The state a run ends in, whether it returned or raised. -/
def finalState (program : Program ε σ α) (s : σ) : σ :=
  match program s with
  | .ok _ s' => s'
  | .error _ s' => s'

/-- The value of a run, or what it raised. -/
def outcome (program : Program ε σ α) (s : σ) : Except ε α :=
  match program s with
  | .ok a _ => .ok a
  | .error e _ => .error e

/-- Whether a run raises in a state with a property. -/
def raisesIn (program : Program ε σ α) (s : σ) (p : σ → Bool) : Bool :=
  match program s with
  | .ok _ _ => false
  | .error _ s' => p s'

/-- A run from `s` returns into `ok` or raises into `fail`. -/
def Ensures (program : Program ε σ α) (s : σ) (ok : α → σ → Prop) (fail : ε → σ → Prop) : Prop :=
  match program s with
  | .ok a s' => ok a s'
  | .error e s' => fail e s'

/-! ### One rule for each construct -/

variable {s : σ} {ok : α → σ → Prop} {fail : ε → σ → Prop}

/-- Returning a value changes nothing. -/
@[simp] theorem ensures_pure {a : α} : Ensures (pure a : Program ε σ α) s ok fail ↔ ok a s :=
  Iff.rfl

/-- Raising changes nothing. -/
@[simp] theorem ensures_throw {e : ε} :
    Ensures (throw e : Program ε σ α) s ok fail ↔ fail e s :=
  Iff.rfl

/-- Reading the state. -/
@[simp] theorem ensures_get {ok : σ → σ → Prop} :
    Ensures (get : Program ε σ σ) s ok fail ↔ ok s s :=
  Iff.rfl

/-- Replacing the state. -/
@[simp] theorem ensures_set {ok : PUnit → σ → Prop} {s' : σ} :
    Ensures (set s' : Program ε σ PUnit) s ok fail ↔ ok ⟨⟩ s' :=
  Iff.rfl

/-- Changing the state. -/
@[simp] theorem ensures_modify {ok : PUnit → σ → Prop} {f : σ → σ} :
    Ensures (modify f : Program ε σ PUnit) s ok fail ↔ ok ⟨⟩ (f s) :=
  Iff.rfl

/-- A pure computation leaves the state alone. -/
theorem ensures_lift {x : Except ε α} :
    Ensures (lift x : Program ε σ α) s ok fail ↔
      (∀ a, x = .ok a → ok a s) ∧ (∀ e, x = .error e → fail e s) := by
  cases x with
  | ok a => simp [Ensures, lift]
  | error e => simp [Ensures, lift]

/-- A lifted computation that returns. -/
@[simp] theorem ensures_lift_ok {a : α} :
    Ensures (lift (.ok a) : Program ε σ α) s ok fail ↔ ok a s :=
  Iff.rfl

/-- A lifted computation that raises. -/
@[simp] theorem ensures_lift_error {e : ε} :
    Ensures (lift (.error e) : Program ε σ α) s ok fail ↔ fail e s :=
  Iff.rfl

/-- The lifting that `do` blocks insert. -/
@[simp] theorem liftM_eq_lift {x : Except ε α} :
    (liftM x : Program ε σ α) = lift x :=
  rfl

/-- The lifting that `do` blocks insert, in its other form. -/
@[simp] theorem monadLift_eq_lift {x : Except ε α} :
    (MonadLift.monadLift x : EStateM ε σ α) = lift x :=
  rfl

/-- Sequencing: the second program starts where the first returned. -/
@[simp] theorem ensures_bind {first : Program ε σ β} {next : β → Program ε σ α} :
    Ensures (first >>= next) s ok fail ↔
      Ensures first s (fun b s' ↦ Ensures (next b) s' ok fail) fail := by
  simp only [Ensures, bind, EStateM.bind]
  cases first s <;> rfl

/-- Mapping the returned value. -/
@[simp] theorem ensures_map {first : Program ε σ β} {f : β → α} :
    Ensures (f <$> first) s ok fail ↔ Ensures first s (fun b s' ↦ ok (f b) s') fail := by
  simp only [Ensures, Functor.map, EStateM.map]
  cases first s <;> rfl

/-- Handling: the handler starts in the state the raise left. -/
@[simp] theorem ensures_tryCatch {body : Program ε σ α} {handler : ε → Program ε σ α} :
    Ensures (tryCatch body handler) s ok fail ↔
      Ensures body s ok (fun e s' ↦ Ensures (handler e) s' ok fail) := by
  simp only [Ensures, tryCatch, tryCatchThe, MonadExceptOf.tryCatch, EStateM.tryCatch,
    EStateM.Backtrackable.restore]
  cases body s <;> rfl

/-- Working on one part of the state. -/
@[simp] theorem ensures_zoom {view : σ → τ} {put : τ → σ → σ} {program : Program ε τ α} :
    Ensures (zoom view put program) s ok fail ↔
      Ensures program (view s) (fun a t ↦ ok a (put t s)) (fun e t ↦ fail e (put t s)) := by
  simp only [Ensures, zoom]
  cases program (view s) <;> rfl

/-- Weaker postconditions are easier to meet. -/
theorem Ensures.mono {program : Program ε σ α} {ok' : α → σ → Prop} {fail' : ε → σ → Prop}
    (h : Ensures program s ok fail) (hok : ∀ a s', ok a s' → ok' a s')
    (hfail : ∀ e s', fail e s' → fail' e s') : Ensures program s ok' fail' := by
  unfold Ensures at h ⊢
  cases hp : program s with
  | ok a s' => exact hok a s' (by simpa [hp] using h)
  | error e s' => exact hfail e s' (by simpa [hp] using h)

/-- What is ensured, read off the run. -/
theorem ensures_iff {program : Program ε σ α} : Ensures program s ok fail ↔
    match program s with
      | .ok a s' => ok a s'
      | .error e s' => fail e s' :=
  Iff.rfl

/-- What is ensured of a run that returns. -/
theorem ensures_of_eq_ok {program : Program ε σ α} {a : α} {s' : σ} (h : program s = .ok a s') :
    Ensures program s ok fail ↔ ok a s' := by
  rw [ensures_iff, h]

/-- Every run ends somewhere. -/
theorem ensures_trivial {program : Program ε σ α} :
    Ensures program s (fun _ _ ↦ True) (fun _ _ ↦ True) := by
  unfold Ensures
  cases program s <;> trivial

/-- Postconditions from two arguments hold together. -/
theorem Ensures.and {program : Program ε σ α} {ok' : α → σ → Prop} {fail' : ε → σ → Prop}
    (h : Ensures program s ok fail) (h' : Ensures program s ok' fail') :
    Ensures program s (fun a s' ↦ ok a s' ∧ ok' a s') (fun e s' ↦ fail e s' ∧ fail' e s') := by
  unfold Ensures at *
  cases hp : program s with
  | ok a s' => simp_all
  | error e s' => simp_all

/-- What a run ensures on both sides holds of the state it ends in. -/
theorem Ensures.finalState {program : Program ε σ α} {post : σ → Prop}
    (h : Ensures program s (fun _ s' ↦ post s') (fun _ s' ↦ post s')) :
    post (program.finalState s) := by
  unfold Ensures at h
  unfold Program.finalState
  cases hp : program s with
  | ok a s' => simpa [hp] using h
  | error e s' => simpa [hp] using h

/-- A run that returns, from its value and the state it ends in. -/
theorem eq_ok_of_outcome {program : Program ε σ α} {a : α} (h : program.outcome s = .ok a) :
    program s = .ok a (program.finalState s) := by
  unfold outcome at h
  unfold Program.finalState
  cases hp : program s with
  | ok b s' => simpa [hp] using h
  | error e s' => simp [hp] at h

/-- A run that raises, from what it raised and the state it ends in. -/
theorem eq_error_of_outcome {program : Program ε σ α} {e : ε} (h : program.outcome s = .error e) :
    program s = .error e (program.finalState s) := by
  unfold outcome at h
  unfold Program.finalState
  cases hp : program s with
  | ok b s' => simp [hp] at h
  | error e s' => simpa [hp] using h

/-- A run raises or it does not. -/
theorem ensures_raisesIn {program : Program ε σ α} :
    Ensures program s (fun _ _ ↦ program.raisesIn s (fun _ ↦ true) = false)
      (fun _ _ ↦ program.raisesIn s (fun _ ↦ true) = true) := by
  unfold Ensures raisesIn
  cases program s <;> rfl

/-- A run that raises in a state with a property ensures nothing that excludes such a state. -/
theorem Ensures.not_of_raisesIn {program : Program ε σ α} {p : σ → Bool}
    (hraises : program.raisesIn s p = true) (h : Ensures program s ok fail) :
    ∃ e s', fail e s' ∧ p s' = true := by
  unfold raisesIn at hraises
  unfold Ensures at h
  cases hrun : program s with
  | ok a s' => simp [hrun] at hraises
  | error e s' =>
    simp only [hrun] at h hraises
    exact ⟨e, s', h, hraises⟩

/-! ### Loops -/

/-- A loop keeps an invariant that every pass keeps. -/
theorem ensures_forM {xs : List β} {f : β → Program ε σ PUnit} {inv : σ → Prop}
    (step : ∀ x ∈ xs, ∀ s, inv s → Ensures (f x) s (fun _ s' ↦ inv s') fail) (h : inv s) :
    Ensures (forM xs f) s (fun _ s' ↦ inv s') fail := by
  induction xs generalizing s with
  | nil => simpa using h
  | cons x xs ih =>
    rw [List.forM_cons, ensures_bind]
    refine (step x (by simp) s h).mono (fun _ s' hs' ↦ ?_) (fun _ _ hf ↦ hf)
    exact ih (fun y hy ↦ step y (by simp [hy])) hs'

/-- Running on each element relates every element to its result, if no run can raise. -/
theorem ensures_each (rel : σ → α × σ → Prop) {program : Program ε σ α} {ss : List σ}
    (h : ∀ s ∈ ss, Ensures program s (fun a s' ↦ rel s (a, s')) (fun _ _ ↦ False)) :
    Ensures (each program) ss
      (fun as ss' ↦ ∃ results : List (α × σ), as = results.map Prod.fst ∧
        ss' = results.map Prod.snd ∧ List.Forall₂ rel ss results)
      (fun _ _ ↦ False) := by
  induction ss with
  | nil => exact ⟨[], rfl, rfl, .nil⟩
  | cons s ss ih =>
    have hs := h s (by simp)
    have hss := ih fun t ht ↦ h t (by simp [ht])
    unfold Ensures at hs hss ⊢
    unfold each
    cases hp : program s with
    | error e s' => simp [hp] at hs
    | ok a s' =>
      simp only [hp] at hs ⊢
      cases hr : each program ss with
      | error e ss' => simp [hr] at hss
      | ok as ss' =>
        simp only [hr] at hss ⊢
        obtain ⟨results, rfl, rfl, hrel⟩ := hss
        exact ⟨(a, s') :: results, rfl, rfl, .cons hs hrel⟩

/-! ### Frames -/

/-- Every run relates the state it starts in to the state it ends in. -/
def Frames (rel : σ → σ → Prop) (program : Program ε σ α) : Prop :=
  ∀ s, Ensures program s (fun _ s' ↦ rel s s') (fun _ s' ↦ rel s s')

variable {rel : σ → σ → Prop}

/-- A pure value frames a reflexive relation. -/
theorem Frames.pure (hr : ∀ s, rel s s) (a : α) : Frames rel (pure a : Program ε σ α) :=
  fun s ↦ hr s

/-- A raise frames a reflexive relation. -/
theorem Frames.throw (hr : ∀ s, rel s s) (e : ε) : Frames rel (throw e : Program ε σ α) :=
  fun s ↦ hr s

/-- A lifted computation frames a reflexive relation. -/
theorem Frames.lift (hr : ∀ s, rel s s) (x : Except ε α) : Frames rel (lift x : Program ε σ α) :=
  fun s ↦ ensures_lift.mpr ⟨fun _ _ ↦ hr s, fun _ _ ↦ hr s⟩

/-- A read frames a reflexive relation. -/
theorem Frames.get (hr : ∀ s, rel s s) : Frames rel (get : Program ε σ σ) :=
  fun s ↦ hr s

/-- A change frames a relation that relates every state to its changed state. -/
theorem Frames.modify {f : σ → σ} (h : ∀ s, rel s (f s)) :
    Frames rel (modify f : Program ε σ PUnit) :=
  fun s ↦ h s

/-- Sequencing frames a transitive relation. -/
theorem Frames.bind (ht : ∀ {a b c}, rel a b → rel b c → rel a c) {first : Program ε σ β}
    {next : β → Program ε σ α} (h1 : Frames rel first) (h2 : ∀ b, Frames rel (next b)) :
    Frames rel (first >>= next) := by
  intro s
  rw [ensures_bind]
  refine (h1 s).mono (fun b s1 h ↦ ?_) (fun _ _ h ↦ h)
  exact (h2 b s1).mono (fun _ _ h' ↦ ht h h') (fun _ _ h' ↦ ht h h')

/-- Working on one part of the state frames what writing that part back relates. -/
theorem Frames.zoom {part : τ → τ → Prop} {view : σ → τ} {put : τ → σ → σ}
    {program : Program ε τ α} (hput : ∀ s t, part (view s) t → rel s (put t s))
    (h : Frames part program) : Frames rel (zoom view put program) := by
  intro s
  rw [ensures_zoom]
  exact (h (view s)).mono (fun _ t ↦ hput s t) (fun _ t ↦ hput s t)

/-- Running on each element frames the relation element by element. -/
theorem Frames.each (hr : ∀ s, rel s s) {program : Program ε σ α} (h : Frames rel program) :
    Frames (List.Forall₂ rel) (each program) := by
  intro ss
  induction ss with
  | nil => exact .nil
  | cons s ss ih =>
    have hs := h s
    unfold Ensures at hs ih ⊢
    unfold Program.each
    cases hp : program s with
    | error e s' =>
      simp only [hp] at hs ⊢
      exact .cons hs (List.forall₂_same.mpr fun t _ ↦ hr t)
    | ok a s' =>
      simp only [hp] at hs ⊢
      cases hrest : Program.each program ss with
      | error e ss' => exact .cons hs (by simpa [hrest] using ih)
      | ok as ss' => exact .cons hs (by simpa [hrest] using ih)

/-! ### Observers -/

section Observers

variable {γ δ : Type}

/-- Run a program and also return what an observer sees in its result and its two states. -/
def observed (observe : α → σ → σ → γ) (program : Program ε σ α) : Program ε σ (α × γ) := do
  let before ← get
  let a ← program
  let after ← get
  pure (a, observe a before after)

/-- The first program does what the second one does and returns something in addition. -/
def Erases (program : Program ε σ (α × γ)) (erased : Program ε σ α) : Prop :=
  Prod.fst <$> program = erased

/-- Observing a program does not change it. -/
theorem erases_observed {observe : α → σ → σ → γ} {program : Program ε σ α} :
    Erases (observed observe program) program := by
  funext s
  have hget : ∀ t : σ, (get : Program ε σ σ) t = .ok t t := fun _ ↦ rfl
  simp only [observed, Functor.map, EStateM.map, bind, EStateM.bind, hget]
  cases program s <;> rfl

/-- Sequencing erases what both parts return in addition. -/
theorem Erases.bind {first : Program ε σ (α × γ)} {first' : Program ε σ α}
    {next : α × γ → Program ε σ (β × δ)} {next' : α → Program ε σ β} (h1 : Erases first first')
    (h2 : ∀ x, Erases (next x) (next' x.1)) : Erases (first >>= next) (first' >>= next') := by
  unfold Erases at h1 h2 ⊢
  rw [map_bind, ← h1, bind_map_left]
  exact congrArg _ (funext h2)

/-- What erases to a program relates to it under every postcondition. -/
theorem Erases.ensures_iff {program : Program ε σ (α × γ)} {erased : Program ε σ α} {s : σ}
    {ok : α → σ → Prop} {fail : ε → σ → Prop} (h : Erases program erased) :
    Ensures erased s ok fail ↔ Ensures program s (fun x s' ↦ ok x.1 s') fail := by
  rw [← h, ensures_map]

/-- Handling erases what body and handler return in addition. -/
theorem Erases.tryCatch {body : Program ε σ (α × γ)} {body' : Program ε σ α}
    {handler : ε → Program ε σ (α × γ)} {handler' : ε → Program ε σ α} (h1 : Erases body body')
    (h2 : ∀ e, Erases (handler e) (handler' e)) :
    Erases (tryCatch body handler) (tryCatch body' handler') := by
  unfold Erases at h1 h2 ⊢
  funext s
  rw [← h1]
  simp only [← h2, Functor.map, EStateM.map, MonadExcept.tryCatch, tryCatchThe,
    MonadExceptOf.tryCatch, EStateM.tryCatch, EStateM.Backtrackable.restore]
  cases body s <;> rfl

/-- Working on one part of the state erases what the part returns in addition. -/
theorem Erases.zoom {view : σ → τ} {put : τ → σ → σ} {program : Program ε τ (α × γ)}
    {erased : Program ε τ α} (h : Erases program erased) :
    Erases (zoom view put program) (zoom view put erased) := by
  unfold Erases at h ⊢
  funext s
  rw [← h]
  simp only [Program.zoom, Functor.map, EStateM.map]
  cases program (view s) <;> rfl

/-- Mapping the value of a program on one part of the state. -/
theorem map_zoom {view : σ → τ} {put : τ → σ → σ} {program : Program ε τ α} (f : α → β) :
    f <$> zoom view put program = zoom view put (f <$> program) := by
  funext s
  simp only [Program.zoom, Functor.map, EStateM.map]
  cases program (view s) <;> rfl

/-- Running on each element erases what the runs return in addition. -/
theorem Erases.each {program : Program ε σ (α × γ)} {erased : Program ε σ α}
    (h : Erases program erased) : List.map Prod.fst <$> each program = each erased := by
  funext ss
  induction ss with
  | nil => rfl
  | cons s ss ih =>
    have hs : (Prod.fst <$> program) s = erased s := congrFun h s
    simp only [Functor.map, EStateM.map] at hs ih ⊢
    unfold Program.each
    rw [← hs, ← ih]
    cases program s with
    | error e s' => rfl
    | ok a s' => cases Program.each program ss <;> rfl

end Observers

-- The rules are the interface: unfolding would run the program.
attribute [irreducible] Ensures

end Program
end FleetFlow
