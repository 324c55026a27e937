import FleetFlow.Base.Errors

/-!
# Naive datetimes and durations

App-local instants at microsecond resolution, as `datetime.datetime` without a
time zone. An instant counts microseconds from 0001-01-01T00:00:00 and stays
before the year 10000, so an addition that leaves this range raises.
-/

namespace FleetFlow

/-- Number of microseconds from `datetime.min` to the end of the year 9999. -/
def maxMicros : Nat := 3652059 * 86400 * 1000000

/-- A naive `datetime.datetime`. -/
@[ext] structure Datetime where
  micros : Nat
  inRange : micros < maxMicros
deriving DecidableEq, Repr

/-- A `datetime.timedelta`, in microseconds. -/
@[ext] structure Timedelta where
  micros : Int
deriving DecidableEq, Repr

namespace Datetime

/-- The first instant of the year 1, `datetime.min`. -/
def min : Datetime := ⟨0, by decide⟩

/-- Instants are determined by their microsecond count. -/
theorem micros_injective : Function.Injective Datetime.micros :=
  fun _ _ h ↦ Datetime.ext h

/-- Instants compare as their microsecond counts. -/
instance : LinearOrder Datetime := LinearOrder.lift' Datetime.micros micros_injective

/-- Comparison of instants, as comparison of counts. -/
theorem lt_iff_micros {a b : Datetime} : a < b ↔ a.micros < b.micros := Iff.rfl

/-- Weak comparison of instants, as comparison of counts. -/
theorem le_iff_micros {a b : Datetime} : a ≤ b ↔ a.micros ≤ b.micros := Iff.rfl

/-- `datetime + timedelta`; raises `OverflowError` outside the years 1 to 9999. -/
def add (t : Datetime) (d : Timedelta) : Except PyError Datetime :=
  if h : 0 ≤ (t.micros : Int) + d.micros ∧ (t.micros : Int) + d.micros < maxMicros then
    .ok ⟨((t.micros : Int) + d.micros).toNat, by omega⟩
  else .error ⟨.overflowError, "date value out of range"⟩

/-- An addition succeeds exactly with the instant at the summed count. -/
theorem add_eq_ok_iff {t t' : Datetime} {d : Timedelta} :
    t.add d = .ok t' ↔ (t'.micros : Int) = t.micros + d.micros := by
  have hr := t'.inRange
  unfold add
  split
  · simp only [Except.ok.injEq, Datetime.ext_iff]
    omega
  · simp only [reduceCtorEq, false_iff]
    omega

/-- Adding a positive duration moves forward. -/
theorem lt_of_add {t t' : Datetime} {d : Timedelta} (h : t.add d = .ok t')
    (hd : 0 < d.micros) : t < t' := by
  rw [add_eq_ok_iff] at h
  rw [lt_iff_micros]
  omega

end Datetime

/-- `timedelta(hours=distance / speed)`, rounded half to even to whole microseconds.
The source divides in floating point. At 87 km/h an exact quotient is a multiple of
1/29 microsecond, so it is never a tie and the double error cannot move the rounding. -/
def Timedelta.ofHours (distance speed : Int) : Timedelta :=
  let total := distance * 3600000000
  let whole := total / speed
  let rest := total % speed
  if 2 * rest < speed then ⟨whole⟩
  else if speed < 2 * rest then ⟨whole + 1⟩
  else if whole % 2 = 0 then ⟨whole⟩ else ⟨whole + 1⟩

/-- Travelling a positive distance at road speed takes a positive time. -/
theorem Timedelta.ofHours_pos {distance speed : Int} (hd : 0 < distance)
    (hs : 0 < speed) (hle : speed ≤ 3600000000) : 0 < (Timedelta.ofHours distance speed).micros := by
  have hw : 0 < distance * 3600000000 / speed := by
    have h1 : 1 ≤ distance * 3600000000 / speed := (Int.le_ediv_iff_mul_le hs).mpr (by omega)
    omega
  unfold Timedelta.ofHours
  dsimp only
  split
  · exact hw
  · split
    · show 0 < _ + 1
      omega
    · split
      · exact hw
      · show 0 < _ + 1
        omega

end FleetFlow
