import FleetFlow.Base.Errors

/-!
# Field checks

Follows `shared/validation.py` and its domain wrappers in `domain/validation.py`. An
argument of the wrong Python type has no counterpart here, so only the range checks remain.
-/

namespace FleetFlow

/-- A Python float: an exact finite value, or one of the infinities and NaN. -/
inductive PyFloat where
  | finite (value : Rat)
  | nonFinite
deriving DecidableEq, Repr

/-- The closest multiple of a power of two, and the even one of two. -/
def PyFloat.roundEven (n shift : Nat) : Nat :=
  let quotient := n / 2 ^ shift
  let rest := 2 * (n % 2 ^ shift)
  let up := decide (2 ^ shift < rest) || (decide (rest = 2 ^ shift) && quotient % 2 == 1)
  (if up then quotient + 1 else quotient) * 2 ^ shift

/-- `float(n)`: the closest number with 53 significant bits, unless it is out of range. -/
def PyFloat.ofInt? (n : Int) : Option Rat :=
  let rounded := PyFloat.roundEven n.natAbs (Nat.log2 n.natAbs + 1 - 53)
  if rounded < 2 ^ 1024 then some (if n < 0 then -(rounded : Rat) else rounded) else none

/-- A positive integer; `domain/validation.py:11–24`. -/
def requirePositiveInt (value : Int) (fieldName : String) : Except PyError Unit :=
  require (1 ≤ value) ⟨.domainValidation, s!"{fieldName} must be a positive integer."⟩

/-- A positive finite number; `domain/validation.py:47–63`. -/
def requirePositiveFiniteFloat (value : PyFloat) (fieldName : String) : Except PyError Rat :=
  match value with
  | .nonFinite => .error ⟨.domainValidation, s!"{fieldName} must be finite."⟩
  | .finite weight => do
    require (0 < weight) ⟨.domainValidation, s!"{fieldName} must be positive."⟩
    .ok weight

/-- A positive integer passes. -/
@[simp] theorem requirePositiveInt_eq_ok_iff {value : Int} {fieldName : String} :
    requirePositiveInt value fieldName = .ok () ↔ 0 < value := by
  rw [requirePositiveInt, require_eq_ok_iff]
  omega

/-- Exactly the positive finite numbers pass. -/
theorem requirePositiveFiniteFloat_eq_ok_iff {value : PyFloat} {fieldName : String} {w : Rat} :
    requirePositiveFiniteFloat value fieldName = .ok w ↔ value = .finite w ∧ 0 < w := by
  cases value with
  | nonFinite => simp [requirePositiveFiniteFloat]
  | finite v =>
    simp only [requirePositiveFiniteFloat, require_bind_eq_ok_iff, Except.ok.injEq,
      PyFloat.finite.injEq]
    constructor
    · rintro ⟨h, rfl⟩
      exact ⟨rfl, h⟩
    · rintro ⟨rfl, h⟩
      exact ⟨h, rfl⟩

end FleetFlow
