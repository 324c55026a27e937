import FleetFlow.Base.Datetime
import FleetFlow.Base.Text

/-!
# Calendar dates and the ISO text of an instant

`datetime.strftime` and `datetime.strptime` for the format of
`adapters/driven/persistence/json/serialization.py:5`, over the proleptic Gregorian
calendar. The text keeps whole seconds, and four-digit years are read back.
-/

namespace FleetFlow

namespace Calendar

/-- Leap years of the Gregorian calendar. -/
def isLeap (year : Nat) : Bool := year % 4 == 0 && (year % 100 != 0 || year % 400 == 0)

/-- Days from 0001-01-01 to the first of January of a year. -/
def daysBeforeYear (year : Nat) : Nat :=
  (year - 1) * 365 + (year - 1) / 4 - (year - 1) / 100 + (year - 1) / 400

/-- Length of a month. -/
def daysInMonth (leap : Bool) : Nat → Nat
  | 2 => if leap then 29 else 28
  | 4 | 6 | 9 | 11 => 30
  | _ => 31

/-- Days of a year before the first of a month. -/
def daysBeforeMonth (leap : Bool) (month : Nat) : Nat :=
  ((List.range' 1 (month - 1)).map (daysInMonth leap)).sum

/-- Year and zero-based day of the year of a day count. -/
def yearOfDays (days : Nat) : Nat × Nat :=
  let n400 := days / 146097
  let r400 := days % 146097
  let n100 := min (r400 / 36524) 3
  let r100 := r400 - n100 * 36524
  let n4 := r100 / 1461
  let r4 := r100 % 1461
  let n1 := min (r4 / 365) 3
  (n400 * 400 + n100 * 100 + n4 * 4 + n1 + 1, r4 - n1 * 365)

/-- Month and day of a zero-based day of the year, counting from a month on. -/
def monthFrom (leap : Bool) : (fuel month day : Nat) → Nat × Nat
  | 0, month, day => (month, day + 1)
  | fuel + 1, month, day =>
    if day < daysInMonth leap month then (month, day + 1)
    else monthFrom leap fuel (month + 1) (day - daysInMonth leap month)

/-- Month and day of a zero-based day of the year. -/
def monthOfDay (leap : Bool) (day : Nat) : Nat × Nat := monthFrom leap 12 1 day

/-- Days before a year, by its position in the cycles of 400, 100 and 4 years. -/
private theorem daysBeforeYear_cycles {n400 n100 n4 n1 : Nat} (h100 : n100 ≤ 3) (h4 : n4 ≤ 24)
    (h1 : n1 ≤ 3) : daysBeforeYear (n400 * 400 + n100 * 100 + n4 * 4 + n1 + 1) =
      n400 * 146097 + n100 * 36524 + n4 * 1461 + n1 * 365 := by
  unfold daysBeforeYear
  rw [Nat.add_sub_cancel]
  have e4 : (n400 * 400 + n100 * 100 + n4 * 4 + n1) / 4 = n400 * 100 + n100 * 25 + n4 := by omega
  have e100 : (n400 * 400 + n100 * 100 + n4 * 4 + n1) / 100 = n400 * 4 + n100 := by omega
  have e400 : (n400 * 400 + n100 * 100 + n4 * 4 + n1) / 400 = n400 := by omega
  rw [e4, e100, e400]
  omega

/-- Three ordinary years into a cycle of four, the year is a leap year unless it ends a century
that does not end a cycle of 400. -/
private theorem isLeap_cycles {n400 n100 n4 : Nat} (h4 : n4 ≤ 24)
    (h : n4 = 24 → n100 = 3) :
    isLeap (n400 * 400 + n100 * 100 + n4 * 4 + 3 + 1) = true := by
  have e4 : (n400 * 400 + n100 * 100 + n4 * 4 + 3 + 1) % 4 = 0 := by omega
  simp only [isLeap, e4, beq_self_eq_true, Bool.true_and, Bool.or_eq_true, bne_iff_ne, ne_eq,
    beq_iff_eq]
  by_cases hc : n4 = 24
  · right
    have := h hc
    omega
  · left
    omega

/-- A cycle is cut into parts of one length, with what is left going to the last part. -/
private theorem cut_spec (r : Nat) {part : Nat} (hpart : 0 < part) (h : r ≤ 4 * part) :
    min (r / part) 3 ≤ 3 ∧ min (r / part) 3 * part + (r - min (r / part) 3 * part) = r ∧
      r - min (r / part) 3 * part ≤ part ∧
      (r - min (r / part) 3 * part = part → min (r / part) 3 = 3) := by
  have hdiv := Nat.div_mul_le_self r part
  have hlt := Nat.lt_div_mul_add (a := r) hpart
  by_cases hq : r / part ≤ 3
  · rw [Nat.min_eq_left hq]
    omega
  · have h4 : r / part = 4 := by
      have := Nat.div_le_div_right (c := part) h
      rw [Nat.mul_div_cancel _ hpart] at this
      omega
    rw [h4, show min 4 3 = 3 from rfl]
    rw [h4] at hdiv
    omega

/-- A day 366 exists only in a leap year. -/
private theorem lt_yearLength {n400 n100 n4 n1 r1 : Nat} (h4 : n4 ≤ 24) (hr : r1 ≤ 365)
    (hlast : r1 = 365 → n1 = 3 ∧ (n4 = 24 → n100 = 3)) :
    r1 < (if isLeap (n400 * 400 + n100 * 100 + n4 * 4 + n1 + 1) then 366 else 365) := by
  by_cases h : r1 = 365
  · obtain ⟨rfl, hc⟩ := hlast h
    rw [if_pos (isLeap_cycles h4 hc)]
    omega
  · split <;> omega

/-- The pieces of the year partition the days. -/
theorem yearOfDays_spec (days : Nat) :
    daysBeforeYear (yearOfDays days).1 + (yearOfDays days).2 = days ∧
      (yearOfDays days).2 < (if isLeap (yearOfDays days).1 then 366 else 365) := by
  -- Name the quotient and the rest of each cycle, so that only linear facts remain.
  obtain ⟨n400, hn400⟩ : ∃ n, days / 146097 = n := ⟨_, rfl⟩
  obtain ⟨r400, hr400⟩ : ∃ r, days % 146097 = r := ⟨_, rfl⟩
  obtain ⟨n100, hn100⟩ : ∃ n, min (r400 / 36524) 3 = n := ⟨_, rfl⟩
  obtain ⟨r100, hr100⟩ : ∃ r, r400 - n100 * 36524 = r := ⟨_, rfl⟩
  obtain ⟨n4, hn4⟩ : ∃ n, r100 / 1461 = n := ⟨_, rfl⟩
  obtain ⟨r4, hr4⟩ : ∃ r, r100 % 1461 = r := ⟨_, rfl⟩
  obtain ⟨n1, hn1⟩ : ∃ n, min (r4 / 365) 3 = n := ⟨_, rfl⟩
  obtain ⟨r1, hr1⟩ : ∃ r, r4 - n1 * 365 = r := ⟨_, rfl⟩
  have h400 := Nat.div_add_mod' days 146097
  have b400 : days % 146097 < 146097 := Nat.mod_lt _ (by decide)
  rw [hn400, hr400] at h400
  rw [hr400] at b400
  obtain ⟨h100, e100, b100, l100⟩ := cut_spec r400 (show 0 < 36524 by decide) (by omega)
  rw [hn100] at h100 e100 b100 l100
  rw [hr100] at e100 b100 l100
  have e4 := Nat.div_add_mod' r100 1461
  have b4 : r100 % 1461 < 1461 := Nat.mod_lt _ (by decide)
  rw [hn4, hr4] at e4
  rw [hr4] at b4
  obtain ⟨h1, e1, b1, l1⟩ := cut_spec r4 (show 0 < 365 by decide) (by omega)
  rw [hn1] at h1 e1 b1 l1
  rw [hr1] at e1 b1 l1
  have h4 : n4 ≤ 24 := by omega
  simp only [yearOfDays, hn400, hr400, hn100, hr100, hn4, hr4, hn1, hr1]
  refine ⟨?_, lt_yearLength h4 b1 fun h ↦ ?_⟩
  · rw [daysBeforeYear_cycles h100 h4 h1, ← h400, ← e100, ← e4, ← e1]
    simp only [Nat.add_assoc]
  · exact ⟨l1 h, fun h24 ↦ l100 (by rw [← e4, ← e1, h24, l1 h, h])⟩

/-- The months partition the year. -/
theorem monthOfDay_spec (leap : Bool) {day : Nat} (h : day < (if leap then 366 else 365)) :
    1 ≤ (monthOfDay leap day).1 ∧ (monthOfDay leap day).1 ≤ 12 ∧
      1 ≤ (monthOfDay leap day).2 ∧
      (monthOfDay leap day).2 ≤ daysInMonth leap (monthOfDay leap day).1 ∧
      daysBeforeMonth leap (monthOfDay leap day).1 + (monthOfDay leap day).2 = day + 1 := by
  have hall : ∀ leap : Bool, ∀ day < 366, day < (if leap then 366 else 365) →
      1 ≤ (monthOfDay leap day).1 ∧ (monthOfDay leap day).1 ≤ 12 ∧
        1 ≤ (monthOfDay leap day).2 ∧
        (monthOfDay leap day).2 ≤ daysInMonth leap (monthOfDay leap day).1 ∧
        daysBeforeMonth leap (monthOfDay leap day).1 + (monthOfDay leap day).2 = day + 1 := by
    decide +kernel
  exact hall leap day (by split at h <;> omega) h

end Calendar

/-- The fields of a naive instant. -/
structure DatetimeFields where
  year : Nat
  month : Nat
  day : Nat
  hour : Nat
  minute : Nat
  second : Nat
deriving DecidableEq, Repr

namespace Datetime

open Calendar

/-- Calendar fields of an instant, without its microseconds. -/
def fields (t : Datetime) : DatetimeFields :=
  let seconds := t.micros / 1000000
  let days := seconds / 86400
  let year := (yearOfDays days).1
  let monthDay := monthOfDay (isLeap year) (yearOfDays days).2
  { year
    month := monthDay.1
    day := monthDay.2
    hour := seconds % 86400 / 3600
    minute := seconds % 3600 / 60
    second := seconds % 60 }

/-- The `datetime` constructor on calendar fields, with its range checks. -/
def ofFields (f : DatetimeFields) : Except PyError Datetime :=
  let total := (daysBeforeYear f.year + daysBeforeMonth (isLeap f.year) f.month + f.day - 1) * 86400
    + f.hour * 3600 + f.minute * 60 + f.second
  if h : 1 ≤ f.year ∧ f.year ≤ 9999 ∧ 1 ≤ f.month ∧ f.month ≤ 12 ∧ 1 ≤ f.day ∧
      f.day ≤ daysInMonth (isLeap f.year) f.month ∧ f.hour < 24 ∧ f.minute < 60 ∧ f.second < 60 ∧
      total * 1000000 < maxMicros then
    .ok ⟨total * 1000000, h.2.2.2.2.2.2.2.2.2⟩
  else .error ⟨.valueError, "day is out of range for month"⟩

/-- An instant cut back to its whole second. -/
def truncate (t : Datetime) : Datetime :=
  ⟨t.micros / 1000000 * 1000000, by have := t.inRange; omega⟩

/-- Instants that carry no microseconds. -/
def WholeSecond (t : Datetime) : Prop := t.micros % 1000000 = 0

instance (t : Datetime) : Decidable t.WholeSecond := inferInstanceAs (Decidable (_ = _))

/-- Cutting back never moves forward. -/
theorem truncate_le (t : Datetime) : t.truncate ≤ t := by
  rw [le_iff_micros]
  exact Nat.div_mul_le_self _ _

/-- Exactly the whole seconds survive cutting back. -/
theorem truncate_eq_self_iff {t : Datetime} : t.truncate = t ↔ t.WholeSecond := by
  rw [Datetime.ext_iff, WholeSecond]
  show t.micros / 1000000 * 1000000 = t.micros ↔ _
  omega

/-- The fields of an instant determine its whole second. -/
theorem ofFields_fields (t : Datetime) : ofFields t.fields = .ok t.truncate := by
  have hr := t.inRange
  have hy := yearOfDays_spec (t.micros / 1000000 / 86400)
  have hm := monthOfDay_spec _ hy.2
  have hyear : 1 ≤ (yearOfDays (t.micros / 1000000 / 86400)).1 :=
    Nat.succ_le_succ (Nat.zero_le _)
  have hyear' : (yearOfDays (t.micros / 1000000 / 86400)).1 ≤ 9999 := by
    by_contra hcon
    have h1 : daysBeforeYear 10000 ≤ daysBeforeYear (yearOfDays (t.micros / 1000000 / 86400)).1 := by
      unfold daysBeforeYear
      omega
    have h2 : daysBeforeYear 10000 = 3652059 := by decide
    unfold maxMicros at hr
    omega
  have htotal : (daysBeforeYear (yearOfDays (t.micros / 1000000 / 86400)).1 +
      daysBeforeMonth (isLeap (yearOfDays (t.micros / 1000000 / 86400)).1)
        (monthOfDay (isLeap (yearOfDays (t.micros / 1000000 / 86400)).1)
          (yearOfDays (t.micros / 1000000 / 86400)).2).1 +
      (monthOfDay (isLeap (yearOfDays (t.micros / 1000000 / 86400)).1)
        (yearOfDays (t.micros / 1000000 / 86400)).2).2 - 1) * 86400 +
      t.micros / 1000000 % 86400 / 3600 * 3600 + t.micros / 1000000 % 3600 / 60 * 60 +
      t.micros / 1000000 % 60 = t.micros / 1000000 := by
    omega
  unfold ofFields fields
  dsimp only
  rw [dif_pos]
  · simp only [htotal]
    rfl
  · rw [htotal]
    refine ⟨hyear, hyear', hm.1, hm.2.1, hm.2.2.1, hm.2.2.2.1, ?_, ?_, ?_, ?_⟩
    · omega
    · omega
    · omega
    · omega

/-- Years from 1000 on, whose text has four digits. -/
def FourDigitYear (t : Datetime) : Prop := 1000 ≤ t.fields.year

instance (t : Datetime) : Decidable t.FourDigitYear := inferInstanceAs (Decidable (_ ≤ _))

/-- Years of four digits begin on one day. -/
private theorem four_digits_iff (days : Nat) :
    1000 ≤ (yearOfDays days).1 ↔ daysBeforeYear 1000 ≤ days := by
  obtain ⟨hdays, hrest⟩ := yearOfDays_spec days
  have hstart : daysBeforeYear 1000 = 364877 := by decide
  rcases Nat.lt_trichotomy (yearOfDays days).1 999 with hlt | heq | hgt
  · have hend : daysBeforeYear (yearOfDays days).1 + 366 ≤ 364877 := by
      unfold daysBeforeYear
      omega
    split at hrest <;> omega
  · have hend : daysBeforeYear 999 = 364512 := by decide
    rw [heq] at hdays hrest ⊢
    rw [if_neg (by decide)] at hrest
    omega
  · have hle : 364877 ≤ daysBeforeYear (yearOfDays days).1 := by
      unfold daysBeforeYear
      by_cases h : (yearOfDays days).1 = 1000
      · rw [h]
      · omega
    omega

/-- Later instants have years of four digits too. -/
theorem FourDigitYear.mono {t t' : Datetime} (h : t.FourDigitYear) (hle : t ≤ t') :
    t'.FourDigitYear := by
  have hdays : t.micros / 1000000 / 86400 ≤ t'.micros / 1000000 / 86400 :=
    Nat.div_le_div_right (Nat.div_le_div_right (le_iff_micros.mp hle))
  exact (four_digits_iff _).mpr (((four_digits_iff _).mp h).trans hdays)

end Datetime
end FleetFlow
