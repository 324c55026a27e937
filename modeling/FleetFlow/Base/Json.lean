import FleetFlow.Base.Validation

/-!
# JSON values

The values of Python's `json` module, and the type checks of `shared/validation.py` on them.
An object lists its fields in order; a lookup takes the first field of a name.
-/

namespace FleetFlow

/-- A JSON value. -/
inductive Json where
  | null
  | bool (value : Bool)
  | int (value : Int)
  | float (value : PyFloat)
  | str (value : String)
  | arr (items : List Json)
  | obj (fields : List (String × Json))

namespace Json

/-- `type(value).__name__` of the Python value. -/
def typeName : Json → String
  | null => "NoneType"
  | bool _ => "bool"
  | int _ => "int"
  | float _ => "float"
  | str _ => "str"
  | arr _ => "list"
  | obj _ => "dict"

mutual
/-- Values that `json.dump` writes so that `json.load` reads them back: finite numbers, and objects
with one value for each key. -/
def isPlain : Json → Bool
  | null | bool _ | int _ | str _ | float (.finite _) => true
  | float .nonFinite => false
  | arr items => itemsPlain items
  | obj fields => decide (fields.map Prod.fst).Nodup && fieldsPlain fields

/-- The same for the items of a list. -/
def itemsPlain : List Json → Bool
  | [] => true
  | item :: rest => isPlain item && itemsPlain rest

/-- The same for the values of an object. -/
def fieldsPlain : List (String × Json) → Bool
  | [] => true
  | (_, value) :: rest => isPlain value && fieldsPlain rest
end

/-- A list is plain if its items are. -/
theorem itemsPlain_iff {items : List Json} :
    itemsPlain items = true ↔ ∀ item ∈ items, isPlain item = true := by
  induction items with
  | nil => simp [itemsPlain]
  | cons item rest ih => simp [itemsPlain, ih]

/-- A field of an object: `dict.get`. -/
def get? (fields : List (String × Json)) (name : String) : Option Json := fields.lookup name

/-- A required field of an object: `dict[...]`. -/
def item (fields : List (String × Json)) (name : String) : Except PyError Json :=
  match get? fields name with
  | some value => .ok value
  | none => .error ⟨.keyError, name⟩

/-- An integer that is no boolean; `shared/validation.py:29–44`. -/
def requireInt (value : Json) (fieldName : String) : Except PyError Int :=
  match value with
  | .int n => .ok n
  | other => .error ⟨.typeError, s!"{fieldName}: expected int, got {typeName other}"⟩

/-- An integer from one on; `shared/validation.py:68–85`. -/
def requirePositiveInt (value : Json) (fieldName : String) : Except PyError Int := do
  let normalized ← requireInt value fieldName
  require (1 ≤ normalized) ⟨.valueError, s!"{fieldName} must be a positive integer."⟩
  .ok normalized

/-- An integer from zero on; `shared/validation.py:107–124`. -/
def requireNonNegativeInt (value : Json) (fieldName : String) : Except PyError Int := do
  let normalized ← requireInt value fieldName
  require (0 ≤ normalized) ⟨.valueError, s!"{fieldName} must be a non-negative integer."⟩
  .ok normalized

/-- A string; `shared/validation.py:127–142`. -/
def requireStr (value : Json) (fieldName : String) : Except PyError String :=
  match value with
  | .str s => .ok s
  | other => .error ⟨.typeError, s!"{fieldName}: expected str, got {typeName other}"⟩

/-- An object; `adapters/driven/persistence/json/world_state_persistence.py:289–299`. -/
def requireMapping : Json → Except PyError (List (String × Json))
  | .obj fields => .ok fields
  | _ => .error ⟨.typeError, "expected object"⟩

/-- A list; `shared/validation.py:11–26`. -/
def requireList (value : Json) (fieldName : String) : Except PyError (List Json) :=
  match value with
  | .arr items => .ok items
  | other => .error ⟨.typeError, s!"{fieldName}: expected list, got {typeName other}"⟩

/-- An integer or nothing; `shared/validation.py:47–65`. -/
def requireOptionalInt (value : Json) (fieldName : String) : Except PyError (Option Int) :=
  match value with
  | .null => .ok none
  | .int n => .ok (some n)
  | other => .error ⟨.typeError, s!"{fieldName}: expected int or None, got {typeName other}"⟩

/-- A string or nothing; `shared/validation.py:145–162`. -/
def requireOptionalStr (value : Json) (fieldName : String) : Except PyError (Option String) :=
  match value with
  | .null => .ok none
  | .str s => .ok (some s)
  | other => .error ⟨.typeError, s!"{fieldName}: expected str or None, got {typeName other}"⟩

/-- The float of a number, or of an integer that is not too large for one;
`shared/validation.py:393–406`. -/
def requireFiniteFloat (value : Json) (fieldName : String) : Except PyError Rat :=
  match value with
  | .int n =>
    match PyFloat.ofInt? n with
    | some x => .ok x
    | none => .error ⟨.valueError, s!"{fieldName} must be finite."⟩
  | .float (.finite x) => .ok x
  | .float .nonFinite => .error ⟨.valueError, s!"{fieldName} must be finite."⟩
  | other => .error ⟨.typeError, s!"{fieldName}: expected int or float, got {typeName other}"⟩

/-- A number above zero; `shared/validation.py:431–451`. -/
def requirePositiveFiniteFloat (value : Json) (fieldName : String) : Except PyError Rat := do
  let normalized ← requireFiniteFloat value fieldName
  require (0 < normalized) ⟨.valueError, s!"{fieldName} must be positive."⟩
  .ok normalized

/-- Only integers pass. -/
theorem requireInt_eq_ok_iff {value : Json} {fieldName : String} {n : Int} :
    requireInt value fieldName = .ok n ↔ value = .int n := by
  cases value <;> simp [requireInt]

/-- Only integers from one on pass. -/
theorem requirePositiveInt_eq_ok_iff {value : Json} {fieldName : String} {n : Int} :
    requirePositiveInt value fieldName = .ok n ↔ value = .int n ∧ 1 ≤ n := by
  rw [requirePositiveInt, except_bind_eq_ok_iff]
  simp only [requireInt_eq_ok_iff, require_bind_eq_ok_iff, Except.ok.injEq]
  constructor
  · rintro ⟨m, rfl, h, rfl⟩
    exact ⟨rfl, h⟩
  · rintro ⟨rfl, h⟩
    exact ⟨n, rfl, h, rfl⟩

/-- Only integers from zero on pass. -/
theorem requireNonNegativeInt_eq_ok_iff {value : Json} {fieldName : String} {n : Int} :
    requireNonNegativeInt value fieldName = .ok n ↔ value = .int n ∧ 0 ≤ n := by
  rw [requireNonNegativeInt, except_bind_eq_ok_iff]
  simp only [requireInt_eq_ok_iff, require_bind_eq_ok_iff, Except.ok.injEq]
  constructor
  · rintro ⟨m, rfl, h, rfl⟩
    exact ⟨rfl, h⟩
  · rintro ⟨rfl, h⟩
    exact ⟨n, rfl, h, rfl⟩

end Json
end FleetFlow
