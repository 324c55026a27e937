import FleetFlow.Base.Validation

/-!
# Sums of weights

Weights are Python floats, so a sum of weights is rounded after every addition and depends on the
order of its terms. What adds weights is therefore defined over any addition of them. Results
are about the exact one unless they name another.
-/

namespace FleetFlow

namespace PyFloat

/-- The integer closest to a number, the even one of two. -/
def roundHalfEven (x : Rat) : Int :=
  let below := x.floor
  let rest := x - below
  if rest < 1 / 2 ∨ rest = 1 / 2 ∧ below % 2 = 0 then below else below + 1

/-- The spacing of binary64 numbers at a magnitude: 53 significant bits, and never below the
smallest subnormal number. -/
def spacing (x : Rat) : Rat :=
  2 ^ ((x.num.natAbs * 2 ^ 1074 / x.den).log2 - 52) / 2 ^ 1074

/-- The binary64 number closest to an exact value. The exponent has no upper bound here: what
overflows to infinity in Python is above every capacity in both readings. -/
def nearest (x : Rat) : Rat := roundHalfEven (x / spacing x) * spacing x

/-- A sum that rounds down to one that is representable, and the well-known one that does not. -/
example : nearest (nearest (1 / 10) + nearest (2 / 10)) ≠ nearest (3 / 10) ∧
    nearest (nearest (1 / 2) + nearest (1 / 4)) = 3 / 4 := by decide +kernel

end PyFloat

/-- How two weights are added. -/
class WeightArithmetic where
  add : Rat → Rat → Rat

namespace WeightArithmetic

/-- Weights treated as exact numbers. -/
instance exact : WeightArithmetic := ⟨(· + ·)⟩

/-- The addition of Python floats, which rounds every sum. -/
abbrev binary64 : WeightArithmetic := ⟨fun a b ↦ PyFloat.nearest (a + b)⟩

end WeightArithmetic
end FleetFlow
