import FleetFlow.Base.Json
import FleetFlow.Base.Text

/-!
# Shared runtime checks

The checks of `shared/validation.py` on values whose type is known, and the walk over a JSON object
of `shared/json_validation.py`.
-/

namespace FleetFlow

/-- A universally unique identifier. -/
abbrev Uuid := BitVec 128

namespace Shared

/-- An integer from one on; `shared/validation.py:68–85`. -/
def requirePositiveInt (value : Int) (fieldName : String) : Except PyError Int := do
  require (1 ≤ value) ⟨.valueError, s!"{fieldName} must be a positive integer."⟩
  .ok value

/-- A check of a value that may be missing. -/
def optional {α : Type} (check : α → Except PyError α) :
    Option α → Except PyError (Option α)
  | none => .ok none
  | some a => do
    let checked ← check a
    .ok (some checked)

/-- An optional integer from one on; `shared/validation.py:88–104`. -/
def requireOptionalPositiveInt (value : Option Int) (fieldName : String) :
    Except PyError (Option Int) :=
  optional (requirePositiveInt · fieldName) value

section Strings

variable (u : UnicodeTables)

/-- A stripped string that is not empty; `shared/validation.py:165–182`. -/
def requireNonEmptyStr (value : String) (fieldName : String) : Except PyError String := do
  let normalized := PyStr.strip u value
  require (normalized ≠ "") ⟨.valueError, s!"{fieldName} must be a non-empty string."⟩
  .ok normalized

/-- The same where the string is given. -/
def requireOptionalNonEmptyStr (value : Option String) (fieldName : String) :
    Except PyError (Option String) :=
  optional (requireNonEmptyStr u · fieldName) value

variable {u} {value value' : Option String} {fieldName : String}

theorem requireNonEmptyStr_eq_ok_iff {text text' : String} :
    requireNonEmptyStr u text fieldName = .ok text' ↔
      text' = PyStr.strip u text ∧ text' ≠ "" := by
  unfold requireNonEmptyStr
  rw [require_bind_eq_ok_iff, Except.ok.injEq]
  constructor
  · rintro ⟨hne, rfl⟩
    exact ⟨rfl, hne⟩
  · rintro ⟨rfl, hne⟩
    exact ⟨hne, rfl⟩

end Strings

theorem requirePositiveInt_eq_ok_iff {n n' : Int} {fieldName : String} :
    requirePositiveInt n fieldName = .ok n' ↔ n' = n ∧ 1 ≤ n := by
  unfold requirePositiveInt
  rw [require_bind_eq_ok_iff, Except.ok.injEq]
  exact and_comm.trans (and_congr_left' eq_comm)

/-- A positive integer is accepted. -/
theorem requirePositiveInt_of_pos {n : Int} {fieldName : String} (h : 0 < n) :
    requirePositiveInt n fieldName = .ok n :=
  requirePositiveInt_eq_ok_iff.mpr ⟨rfl, h⟩

/-- An absent or positive integer is accepted. -/
theorem requireOptionalPositiveInt_of_pos {value : Option Int} {fieldName : String}
    (h : ∀ n ∈ value, 0 < n) : requireOptionalPositiveInt value fieldName = .ok value := by
  cases value with
  | none => rfl
  | some n =>
    unfold requireOptionalPositiveInt optional
    dsimp only
    rw [requirePositiveInt_of_pos (h n rfl), ok_bind]

/-- An accepted integer is unchanged. -/
theorem eq_of_requireOptionalPositiveInt {value value' : Option Int} {fieldName : String}
    (h : requireOptionalPositiveInt value fieldName = .ok value') : value' = value := by
  cases value with
  | none => exact (Except.ok.inj h).symm
  | some n =>
    simp only [requireOptionalPositiveInt, optional, except_bind_eq_ok_iff, Except.ok.injEq] at h
    obtain ⟨n', hn, rfl⟩ := h
    exact congrArg some (requirePositiveInt_eq_ok_iff.mp hn).1

end Shared

/-- The fields of a JSON object. -/
abbrev JsonObject := List (String × Json)

mutual

/-- One value of a JSON object; `shared/json_validation.py:67–97`. -/
def Json.validateValue (fieldName : String) : Json → Except PyError Unit
  | .null | .bool _ | .int _ | .str _ => .ok ()
  | .float (.finite _) => .ok ()
  | .float .nonFinite => .error ⟨.typeError, s!"{fieldName}: expected finite JSON number."⟩
  | .arr items => Json.validateItems fieldName 0 items
  | .obj fields => Json.validateFields fieldName fields

/-- The items of a list, each under its index. -/
def Json.validateItems (fieldName : String) (index : Nat) : List Json → Except PyError Unit
  | [] => .ok ()
  | item :: rest => do
    Json.validateValue (s!"{fieldName}[" ++ toString index ++ "]") item
    Json.validateItems fieldName (index + 1) rest

/-- The fields of an object, each under its name. -/
def Json.validateFields (fieldName : String) : List (String × Json) → Except PyError Unit
  | [] => .ok ()
  | (key, item) :: rest => do
    Json.validateValue s!"{fieldName}.{key}" item
    Json.validateFields fieldName rest

end

/-- A JSON object of JSON values; `shared/json_validation.py:31–49`. -/
def requireJsonObject (value : JsonObject) (fieldName : String) : Except PyError JsonObject := do
  Json.validateFields fieldName value
  .ok value

theorem requireJsonObject_eq_ok_iff {value value' : JsonObject} {fieldName : String} :
    requireJsonObject value fieldName = .ok value' ↔
      value' = value ∧ Json.validateFields fieldName value = .ok () := by
  unfold requireJsonObject
  rw [except_bind_eq_ok_iff]
  constructor
  · rintro ⟨⟨⟩, hvalid, heq⟩
    exact ⟨(Except.ok.inj heq).symm, hvalid⟩
  · rintro ⟨rfl, hvalid⟩
    exact ⟨(), hvalid, rfl⟩

end FleetFlow
