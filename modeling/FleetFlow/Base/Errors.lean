import FleetFlow.Base.Program
import Mathlib.Tactic.Linarith
import Mathlib.Tactic.Order
import Mathlib.Data.Rat.Defs
import Mathlib.Data.List.Sort
import Mathlib.Data.List.DropRight
import Mathlib.Data.List.Nodup
import Mathlib.Data.List.Perm.Basic
import Mathlib.Algebra.Order.Ring.Rat
import Mathlib.Algebra.BigOperators.Group.List.Basic

/-!
# Exceptions and validation steps

Python exceptions as values. A modelled function that raises before it writes
anything returns `Except PyError`; one that can raise half way through returns
its state beside the error. Class names follow `domain/exceptions.py`,
`application/exceptions/` and the standard library.
-/

namespace FleetFlow

/-- Corruption categories; `application/enums/world_state_corruption_reasons.py`. -/
inductive CorruptionReason where
  | malformedJson
  | invalidStructure
  | unsupportedSchema
  | invalidReferences
  | invariantViolation
deriving DecidableEq, Repr

/-- Exception classes that the modelled code raises or catches by name. -/
inductive ErrorKind where
  | typeError
  | valueError
  | keyError
  | indexError
  | overflowError
  | assertionError
  | runtimeError
  | permissionError
  | osError
  | domainValidation
  | entityNotFound
  | businessRuleViolation
  | domainConflict
  | conflict
  | notFound
  | validation
  | authentication
  | duplicateKey
  | database
  | worldStateCorruption (reason : CorruptionReason)
  | worldStateRuntimeSwap
  | duplicateEventCodec
  | eventCodecNotFound
  | eventCodecTypeMismatch
  | eventCodecVersionMismatch
  | eventCodecContract
  | http (statusCode : Nat)
deriving DecidableEq, Repr

/-- A raised exception: its class and its message. -/
structure PyError where
  kind : ErrorKind
  message : String
deriving DecidableEq, Repr

/-- A validation step: continue when the condition holds, raise otherwise. -/
def require (condition : Prop) [Decidable condition] (error : PyError) : Except PyError Unit :=
  if condition then .ok () else .error error

/-- A validation step succeeds exactly when its condition holds. -/
@[simp] theorem require_eq_ok_iff {condition : Prop} [Decidable condition] {error : PyError} :
    require condition error = .ok () ↔ condition := by
  unfold require
  split <;> simp_all

/-- A condition that holds leaves the rest of the computation unchanged. -/
theorem require_bind_of_true {α : Type} {condition : Prop} [Decidable condition]
    (h : condition) (error : PyError) (next : Unit → Except PyError α) :
    (require condition error >>= next) = next () := by
  simp [require, h, bind, Except.bind]

/-- A computation goes on after a value. -/
theorem ok_bind {α β : Type} (a : α) (next : α → Except PyError β) :
    ((.ok a : Except PyError α) >>= next) = next a := rfl

/-- Items that are read back one by one are read back as a list. -/
theorem mapM_map_eq_ok {α β : Type} {write : α → β} {read : β → Except PyError α} {items : List α}
    (h : ∀ a ∈ items, read (write a) = .ok a) : (items.map write).mapM read = .ok items := by
  induction items with
  | nil => rfl
  | cons a rest ih =>
    rw [List.map_cons, List.mapM_cons, h a (by simp), ih fun b hb ↦ h b (by simp [hb])]
    rfl

/-- A bind succeeds exactly when its first computation does and the second one does on its value. -/
theorem except_bind_eq_ok_iff {ε α β : Type} {x : Except ε α} {f : α → Except ε β} {b : β} :
    (x >>= f) = .ok b ↔ ∃ a, x = .ok a ∧ f a = .ok b := by
  cases x with
  | error e => simp [bind, Except.bind]
  | ok a => simp [bind, Except.bind]

/-- The value of a computation, where it returns one. -/
theorem toOption_eq_some_iff {ε α : Type} {x : Except ε α} {a : α} :
    x.toOption = some a ↔ x = .ok a := by
  cases x <;> simp [Except.toOption]

/-- A check before the rest. -/
theorem check_bind_eq_ok_iff {ε α : Type} {x : Except ε Unit} {f : Unit → Except ε α} {a : α} :
    (x >>= f) = .ok a ↔ x = .ok () ∧ f () = .ok a := by
  rw [except_bind_eq_ok_iff]
  constructor
  · rintro ⟨⟨⟩, h⟩
    exact h
  · intro h
    exact ⟨(), h⟩

/-- A validation step followed by more work succeeds exactly when both do. -/
@[simp] theorem require_bind_eq_ok_iff {α : Type} {condition : Prop} [Decidable condition]
    {error : PyError} {next : Unit → Except PyError α} {a : α} :
    (require condition error >>= next) = .ok a ↔ condition ∧ next () = .ok a := by
  rw [check_bind_eq_ok_iff, require_eq_ok_iff]

/-- A loop of validation steps succeeds exactly when every step does. -/
theorem forM_eq_ok_iff {α : Type} {xs : List α} {f : α → Except PyError Unit} :
    forM xs f = .ok () ↔ ∀ x ∈ xs, f x = .ok () := by
  induction xs with
  | nil => simp [pure, Except.pure]
  | cons x xs ih =>
    rw [List.forM_cons, except_bind_eq_ok_iff, List.forall_mem_cons]
    constructor
    · rintro ⟨⟨⟩, hx, hxs⟩
      exact ⟨hx, ih.mp hxs⟩
    · rintro ⟨hx, hxs⟩
      exact ⟨⟨⟩, hx, ih.mpr hxs⟩

/-- A mapping loop succeeds exactly when every step does. -/
theorem mapM_eq_ok_iff {ε α β : Type} {f : α → Except ε β} {xs : List α} {ys : List β} :
    xs.mapM f = .ok ys ↔ List.Forall₂ (fun x y ↦ f x = .ok y) xs ys := by
  induction xs generalizing ys with
  | nil => simp [pure, Except.pure, eq_comm]
  | cons x xs ih =>
    simp only [List.mapM_cons, except_bind_eq_ok_iff, pure, Except.pure, Except.ok.injEq, ih,
      List.forall₂_cons_left_iff]
    constructor
    · rintro ⟨y, hy, rest, hrest, rfl⟩
      exact ⟨y, rest, hy, hrest, rfl⟩
    · rintro ⟨y, rest, hy, hrest, rfl⟩
      exact ⟨y, hy, rest, hrest, rfl⟩

/-- A mapping loop whose steps all succeed returns. -/
theorem exists_mapM_eq_ok {ε α β : Type} {f : α → Except ε β} {xs : List α}
    (h : ∀ x ∈ xs, ∃ y, f x = .ok y) : ∃ ys, xs.mapM f = .ok ys := by
  induction xs with
  | nil => exact ⟨[], rfl⟩
  | cons x xs ih =>
    obtain ⟨y, hy⟩ := h x (by simp)
    obtain ⟨ys, hys⟩ := ih fun z hz ↦ h z (by simp [hz])
    exact ⟨y :: ys, mapM_eq_ok_iff.mpr (.cons hy (mapM_eq_ok_iff.mp hys))⟩

/-- What each step of a successful loop preserves holds at its end, for all elements passed. -/
theorem foldlM_eq_ok {ε α σ : Type} {f : σ → α → Except ε σ} {xs : List α} {s s' : σ}
    (inv : List α → σ → Prop) (h : xs.foldlM f s = .ok s') (hinit : inv [] s)
    (hstep : ∀ done a rest, xs = done ++ a :: rest → ∀ t t', inv done t → f t a = .ok t' →
      inv (done ++ [a]) t') : inv xs s' := by
  suffices hsuffix : ∀ done rest t, xs = done ++ rest → inv done t →
      rest.foldlM f t = .ok s' → inv xs s' from hsuffix [] xs s rfl hinit h
  intro done rest t hxs hinv hrest
  induction rest generalizing done t with
  | nil =>
    rw [List.append_nil] at hxs
    rw [List.foldlM_nil] at hrest
    rw [hxs, ← Except.ok.inj hrest]
    exact hinv
  | cons a rest ih =>
    rw [List.foldlM_cons, except_bind_eq_ok_iff] at hrest
    obtain ⟨t', ht', hrest⟩ := hrest
    exact ih (done ++ [a]) t' (by simp [hxs]) (hstep done a rest hxs t t' hinv ht') hrest

/-- A loop whose steps succeed from what the steps before have established succeeds, and
establishes it for all elements. -/
theorem exists_foldlM_inv {ε α σ : Type} {f : σ → α → Except ε σ} {xs : List α} {s : σ}
    (inv : List α → σ → Prop) (hinit : inv [] s)
    (hstep : ∀ done a rest, xs = done ++ a :: rest → ∀ t, inv done t →
      ∃ t', f t a = .ok t' ∧ inv (done ++ [a]) t') :
    ∃ s', xs.foldlM f s = .ok s' ∧ inv xs s' := by
  suffices hsuffix : ∀ done rest t, xs = done ++ rest → inv done t →
      ∃ s', rest.foldlM f t = .ok s' ∧ inv xs s' from hsuffix [] xs s rfl hinit
  intro done rest t hxs hinv
  induction rest generalizing done t with
  | nil =>
    rw [List.append_nil] at hxs
    exact ⟨t, rfl, hxs ▸ hinv⟩
  | cons a rest ih =>
    obtain ⟨t', ht', hinv'⟩ := hstep done a rest hxs t hinv
    obtain ⟨s', hs', hend⟩ := ih (done ++ [a]) t' (by simp [hxs]) hinv'
    exact ⟨s', by rw [List.foldlM_cons, ht']; exact hs', hend⟩

/-- A loop succeeds when each step does from what the steps before have established. -/
theorem exists_foldlM_eq_ok {ε α σ : Type} {f : σ → α → Except ε σ} {xs : List α} {s : σ}
    (inv : List α → σ → Prop) (hinit : inv [] s)
    (hstep : ∀ done a rest, xs = done ++ a :: rest → ∀ t, inv done t →
      ∃ t', f t a = .ok t' ∧ inv (done ++ [a]) t') : ∃ s', xs.foldlM f s = .ok s' := by
  obtain ⟨s', hs', -⟩ := exists_foldlM_inv inv hinit hstep
  exact ⟨s', hs'⟩

/-- A loop that reads each element and adds what it read succeeds exactly when every read does. -/
theorem foldlM_read_eq_ok_iff {ε α β σ : Type} {read : α → Except ε β} {add : σ → β → σ}
    {xs : List α} {s s' : σ} :
    xs.foldlM (fun t a ↦ do let b ← read a; Except.ok (add t b)) s = .ok s' ↔
      ∃ ys, List.Forall₂ (fun a b ↦ read a = .ok b) xs ys ∧ ys.foldl add s = s' := by
  induction xs generalizing s with
  | nil => simp [pure, Except.pure]
  | cons x xs ih =>
    simp only [List.foldlM_cons, except_bind_eq_ok_iff, Except.ok.injEq, ih,
      List.forall₂_cons_left_iff]
    constructor
    · rintro ⟨t, ⟨b, hb, rfl⟩, ys, hys, hfold⟩
      exact ⟨b :: ys, ⟨b, ys, hb, hys, rfl⟩, hfold⟩
    · rintro ⟨_, ⟨b, ys, hb, hys, rfl⟩, hfold⟩
      exact ⟨add s b, ⟨b, hb, rfl⟩, ys, hys, hfold⟩

/-- Each result of a mapping loop comes from an element. -/
theorem exists_of_mapM_eq_ok {ε α β : Type} {f : α → Except ε β} {xs : List α} {ys : List β}
    (h : xs.mapM f = .ok ys) {y : β} (hy : y ∈ ys) : ∃ x ∈ xs, f x = .ok y := by
  have hrel := mapM_eq_ok_iff.mp h
  clear h
  induction hrel with
  | nil => cases hy
  | cons hxy _ ih =>
    rcases List.mem_cons.mp hy with rfl | hy
    · exact ⟨_, by simp, hxy⟩
    · obtain ⟨x, hx, hf⟩ := ih hy
      exact ⟨x, by simp [hx], hf⟩

/-- A validation step inside a program. -/
theorem ensures_lift_require {σ : Type} {s : σ} {condition : Prop} [Decidable condition]
    {error : PyError} {ok : Unit → σ → Prop} {fail : PyError → σ → Prop} :
    Program.Ensures (Program.lift (require condition error)) s ok fail ↔
      (condition → ok () s) ∧ (¬ condition → fail error s) := by
  unfold require
  split <;> simp_all

end FleetFlow
