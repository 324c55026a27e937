import FleetFlow.Base.Calendar

/-!
# The text of an instant

`dt_to_str` and `dt_from_str` of `adapters/driven/persistence/json/serialization.py:8–43`,
with the standard library's treatment of their format: `strftime` writes the year without
padding, as on Linux, and `strptime` reads a four-digit year, takes one or two digits for
every other field, lets `t` stand for `T`, and rejects any rest. Only naive instants occur.
-/

namespace FleetFlow

namespace IsoText

/-- The character of a decimal digit. -/
def digit (n : Nat) : Char := Char.ofNat (48 + n)

/-- A year as `%Y` of `strftime` writes it. -/
def year (n : Nat) : List Char :=
  if n < 10 then [digit n]
  else if n < 100 then [digit (n / 10), digit (n % 10)]
  else if n < 1000 then [digit (n / 100), digit (n / 10 % 10), digit (n % 10)]
  else [digit (n / 1000), digit (n / 100 % 10), digit (n / 10 % 10), digit (n % 10)]

/-- A two-digit field of `strftime`. -/
def two (n : Nat) : List Char := [digit (n / 10), digit (n % 10)]

/-- The text of an instant without microseconds, `strftime("%Y-%m-%dT%H:%M:%S")`. -/
def write (f : DatetimeFields) : List Char :=
  year f.year ++ '-' :: (two f.month ++ '-' :: (two f.day ++ 'T' :: (two f.hour ++
    ':' :: (two f.minute ++ ':' :: two f.second))))

variable (u : UnicodeTables)

/-- An ASCII digit, as the character classes of `strptime` name them. -/
def asciiDigit? (c : Char) : Option Nat := if c.isDigit then some (c.toNat - 48) else none

/-- The year of four digits, `%Y` of `strptime`. -/
def readYear : List Char → Option Nat
  | [a, b, c, d] => do
    let a ← PyStr.decimal? u a
    let b ← PyStr.decimal? u b
    let c ← PyStr.decimal? u c
    let d ← PyStr.decimal? u d
    some (a * 1000 + b * 100 + c * 10 + d)
  | _ => none

/-- The month of one or two digits, `%m` of `strptime`: `1[0-2]|0[1-9]|[1-9]`. -/
def readMonth : List Char → Option Nat
  | [a] => do
    let a ← asciiDigit? a
    if 1 ≤ a then some a else none
  | [a, b] => do
    let a ← asciiDigit? a
    let b ← asciiDigit? b
    if 1 ≤ a * 10 + b ∧ a * 10 + b ≤ 12 then some (a * 10 + b) else none
  | _ => none

/-- The day of one or two digits, or of a blank and a digit, `%d` of `strptime`:
`3[0-1]|[1-2]\d|0[1-9]|[1-9]| [1-9]`. -/
def readDay : List Char → Option Nat
  | [a] => do
    let a ← asciiDigit? a
    if 1 ≤ a then some a else none
  | [a, b] =>
    if a = ' ' then do
      let b ← asciiDigit? b
      if 1 ≤ b then some b else none
    else do
      let a ← asciiDigit? a
      let value ← PyStr.decimal? u b
      if a = 1 ∨ a = 2 then some (a * 10 + value)
      else do
        let b ← asciiDigit? b
        if (a = 3 ∧ b ≤ 1) ∨ (a = 0 ∧ 1 ≤ b) then some (a * 10 + b) else none
  | _ => none

/-- The hour of one or two digits, `%H` of `strptime`: `2[0-3]|[0-1]\d|\d`. -/
def readHour : List Char → Option Nat
  | [a] => PyStr.decimal? u a
  | [a, b] => do
    let a ← asciiDigit? a
    let value ← PyStr.decimal? u b
    if a = 0 ∨ a = 1 then some (a * 10 + value)
    else do
      let b ← asciiDigit? b
      if a = 2 ∧ b ≤ 3 then some (a * 10 + b) else none
  | _ => none

/-- `%M` and `%S` of `strptime`: `[0-5]\d|\d`. The leap seconds that `%S` also matches are
rejected by the `datetime` constructor. -/
def readSixty : List Char → Option Nat
  | [a] => PyStr.decimal? u a
  | [a, b] => do
    let a ← asciiDigit? a
    let b ← PyStr.decimal? u b
    if a ≤ 5 then some (a * 10 + b) else none
  | _ => none

/-- Text before and after the first separator. -/
def cut (isSeparator : Char → Bool) (cs : List Char) : Option (List Char × List Char) :=
  match cs.dropWhile (!isSeparator ·) with
  | [] => none
  | _ :: rest => some (cs.takeWhile (!isSeparator ·), rest)

/-- The fields that `strptime("%Y-%m-%dT%H:%M:%S")` matches. No digit is a separator, so the
text can be cut at the separators first. -/
def read (cs : List Char) : Option DatetimeFields := do
  let (year, cs) ← cut (· == '-') cs
  let (month, cs) ← cut (· == '-') cs
  let (day, cs) ← cut (fun c ↦ c == 'T' || c == 't') cs
  let (hour, cs) ← cut (· == ':') cs
  let (minute, second) ← cut (· == ':') cs
  some {
    year := ← readYear u year
    month := ← readMonth month
    day := ← readDay u day
    hour := ← readHour u hour
    minute := ← readSixty u minute
    second := ← readSixty u second }

/-! ### Reading back what was written -/

private theorem cut_append {p : Char → Bool} {before rest : List Char} {c : Char}
    (hbefore : ∀ b ∈ before, p b = false) (hc : p c = true) :
    cut p (before ++ c :: rest) = some (before, rest) := by
  have hd : (before ++ c :: rest).dropWhile (!p ·) = c :: rest := by
    rw [List.dropWhile_append_of_pos (fun b hb ↦ by simp [hbefore b hb])]
    simp [hc]
  have ht : (before ++ c :: rest).takeWhile (!p ·) = before := by
    rw [List.takeWhile_append_of_pos (fun b hb ↦ by simp [hbefore b hb])]
    simp [hc]
  simp only [cut, hd, ht]

private theorem digit_plain : ∀ n < 10, asciiDigit? (digit n) = some n ∧
    isAsciiChar (digit n) = true ∧ digit n ≠ ' ' ∧ digit n ≠ '-' ∧ digit n ≠ 'T' ∧
    digit n ≠ 't' ∧ digit n ≠ ':' := by
  decide

private theorem decimal?_digit {n : Nat} (h : n < 10) : PyStr.decimal? u (digit n) = some n := by
  have hd := digit_plain n h
  unfold PyStr.decimal?
  rw [if_pos hd.2.1]
  exact hd.1

/-- Written fields have no separators in them. -/
private theorem notMem_two {n : Nat} {c : Char} (hn : n < 100)
    (hc : c = '-' ∨ c = 'T' ∨ c = 't' ∨ c = ':') : c ∉ two n := by
  have h1 := digit_plain (n / 10) (by omega)
  have h2 := digit_plain (n % 10) (by omega)
  rcases hc with rfl | rfl | rfl | rfl <;>
    simp [two, h1.2.2.2.1.symm, h1.2.2.2.2.1.symm, h1.2.2.2.2.2.1.symm, h1.2.2.2.2.2.2.symm,
      h2.2.2.2.1.symm, h2.2.2.2.2.1.symm, h2.2.2.2.2.2.1.symm, h2.2.2.2.2.2.2.symm]

private theorem readYear_year {n : Nat} (h : 1000 ≤ n) (h' : n ≤ 9999) :
    readYear u (year n) = some n := by
  have hy : year n = [digit (n / 1000), digit (n / 100 % 10), digit (n / 10 % 10),
      digit (n % 10)] := by
    unfold year
    rw [if_neg (by omega), if_neg (by omega), if_neg (by omega)]
  rw [hy]
  simp only [readYear, decimal?_digit u (show n / 1000 < 10 by omega),
    decimal?_digit u (show n / 100 % 10 < 10 by omega),
    decimal?_digit u (show n / 10 % 10 < 10 by omega),
    decimal?_digit u (show n % 10 < 10 by omega), Option.bind_eq_bind, Option.bind_some,
    Option.some.injEq]
  omega

private theorem asciiDigit?_two {n : Nat} (h : n < 100) :
    asciiDigit? (digit (n / 10)) = some (n / 10) ∧ asciiDigit? (digit (n % 10)) = some (n % 10) :=
  ⟨(digit_plain _ (by omega)).1, (digit_plain _ (by omega)).1⟩

private theorem readMonth_two {n : Nat} (h : 1 ≤ n) (h' : n ≤ 12) :
    readMonth (two n) = some n := by
  have hd := asciiDigit?_two (show n < 100 by omega)
  have hn : n / 10 * 10 + n % 10 = n := by omega
  simp only [readMonth, two, hd.1, hd.2, Option.bind_eq_bind, Option.bind_some, hn]
  rw [if_pos ⟨h, h'⟩]

private theorem readDay_two {n : Nat} (h : 1 ≤ n) (h' : n ≤ 31) : readDay u (two n) = some n := by
  have hd := asciiDigit?_two (show n < 100 by omega)
  have hb := decimal?_digit u (show n % 10 < 10 by omega)
  have hne := (digit_plain (n / 10) (by omega)).2.2.1
  have hn : n / 10 * 10 + n % 10 = n := by omega
  simp only [readDay, two, hd.1, hd.2, hb, hne, if_false, Option.bind_eq_bind, Option.bind_some, hn]
  split
  · rfl
  · rw [if_pos (by omega)]

private theorem readHour_two {n : Nat} (h : n < 24) : readHour u (two n) = some n := by
  have hd := asciiDigit?_two (show n < 100 by omega)
  have hb := decimal?_digit u (show n % 10 < 10 by omega)
  have hn : n / 10 * 10 + n % 10 = n := by omega
  simp only [readHour, two, hd.1, hd.2, hb, Option.bind_eq_bind, Option.bind_some, hn]
  split
  · rfl
  · rw [if_pos (by omega)]

private theorem readSixty_two {n : Nat} (h : n < 60) : readSixty u (two n) = some n := by
  have hd := asciiDigit?_two (show n < 100 by omega)
  have hb := decimal?_digit u (show n % 10 < 10 by omega)
  have hn : n / 10 * 10 + n % 10 = n := by omega
  simp only [readSixty, two, hd.1, hb, Option.bind_eq_bind, Option.bind_some, hn]
  rw [if_pos (by omega)]

private theorem notMem_year {n : Nat} (h : n ≤ 9999) : '-' ∉ year n := by
  have hd : ∀ m < 10, '-' ≠ digit m := fun m hm ↦ (digit_plain m hm).2.2.2.1.symm
  unfold year
  split
  · simp [hd n (by omega)]
  · split
    · simp [hd (n / 10) (by omega), hd (n % 10) (by omega)]
    · split
      · simp [hd (n / 100) (by omega), hd (n / 10 % 10) (by omega), hd (n % 10) (by omega)]
      · simp [hd (n / 1000) (by omega), hd (n / 100 % 10) (by omega), hd (n / 10 % 10) (by omega),
          hd (n % 10) (by omega)]

/-- Fields in their ranges with a four-digit year are read back. -/
theorem read_write {f : DatetimeFields} (hy : 1000 ≤ f.year) (hy' : f.year ≤ 9999)
    (hm : 1 ≤ f.month) (hm' : f.month ≤ 12) (hd : 1 ≤ f.day) (hd' : f.day ≤ 31) (hh : f.hour < 24)
    (hmin : f.minute < 60) (hs : f.second < 60) : read u (write f) = some f := by
  have h1 : ∀ b ∈ year f.year, (b == '-') = false := fun b hb ↦
    beq_false_of_ne fun h ↦ notMem_year hy' (h ▸ hb)
  have h2 : ∀ b ∈ two f.month, (b == '-') = false := fun b hb ↦
    beq_false_of_ne fun h ↦ notMem_two (by omega) (.inl rfl) (h ▸ hb)
  have h3 : ∀ b ∈ two f.day, (b == 'T' || b == 't') = false := fun b hb ↦ by
    have hT : b ≠ 'T' := fun h ↦ notMem_two (by omega) (.inr (.inl rfl)) (h ▸ hb)
    have ht : b ≠ 't' := fun h ↦ notMem_two (by omega) (.inr (.inr (.inl rfl))) (h ▸ hb)
    simp [hT, ht]
  have h4 : ∀ b ∈ two f.hour, (b == ':') = false := fun b hb ↦
    beq_false_of_ne fun h ↦ notMem_two (by omega) (.inr (.inr (.inr rfl))) (h ▸ hb)
  have h5 : ∀ b ∈ two f.minute, (b == ':') = false := fun b hb ↦
    beq_false_of_ne fun h ↦ notMem_two (by omega) (.inr (.inr (.inr rfl))) (h ▸ hb)
  unfold read write
  rw [cut_append h1 (by decide)]
  simp only [Option.bind_eq_bind, Option.bind_some]
  rw [cut_append h2 (by decide)]
  simp only [Option.bind_some]
  rw [cut_append h3 (by decide)]
  simp only [Option.bind_some]
  rw [cut_append h4 (by decide)]
  simp only [Option.bind_some]
  rw [cut_append h5 (by decide)]
  simp only [Option.bind_some, readYear_year u hy hy', readMonth_two hm hm', readDay_two u hd hd',
    readHour_two u hh, readSixty_two u hmin, readSixty_two u hs]

end IsoText

/-- `strftime("%Y-%m-%d %H:%M")`, the text of an expected arrival in a command result. -/
def Datetime.toMinuteText (t : Datetime) : String :=
  let f := t.fields
  String.ofList (IsoText.year f.year ++ '-' :: (IsoText.two f.month ++ '-' :: (IsoText.two f.day ++
    ' ' :: (IsoText.two f.hour ++ ':' :: IsoText.two f.minute))))

variable (u : UnicodeTables)

/-- Text of an optional instant; `adapters/driven/persistence/json/serialization.py:8–26`. -/
def dtToStr (t : Option Datetime) : Option String :=
  t.map fun t ↦ String.ofList (IsoText.write t.fields)

/-- Instant of an optional text; `adapters/driven/persistence/json/serialization.py:29–43`. -/
def dtFromStr (s : Option String) : Except PyError (Option Datetime) :=
  match s with
  | none => .ok none
  | some s =>
    if s = "" then .ok none
    else match IsoText.read u s.toList with
      | none => .error ⟨.valueError,
          s!"time data '{s}' does not match format '%Y-%m-%dT%H:%M:%S'"⟩
      | some f => do
        let t ← Datetime.ofFields f
        .ok (some t)

namespace Datetime

open Calendar

/-- The fields of an instant are in the ranges of a date and a clock. -/
theorem fields_ranges (t : Datetime) :
    t.fields.year ≤ 9999 ∧ 1 ≤ t.fields.month ∧ t.fields.month ≤ 12 ∧ 1 ≤ t.fields.day ∧
      t.fields.day ≤ 31 ∧ t.fields.hour < 24 ∧ t.fields.minute < 60 ∧ t.fields.second < 60 := by
  have h := ofFields_fields t
  unfold ofFields at h
  dsimp only at h
  split at h
  · next hr =>
    obtain ⟨-, h2, h3, h4, h5, h6, h7, h8, h9, -⟩ := hr
    refine ⟨h2, h3, h4, h5, h6.trans ?_, h7, h8, h9⟩
    unfold daysInMonth
    split
    · split <;> decide
    all_goals decide
  · cases h

end Datetime

/-- A four-digit instant is read back at its whole second. -/
theorem dtFromStr_dtToStr {t : Datetime} (h : t.FourDigitYear) :
    dtFromStr u (dtToStr (some t)) = .ok (some t.truncate) := by
  obtain ⟨h1, h2, h3, h4, h5, h6, h7, h8⟩ := Datetime.fields_ranges t
  have hread := IsoText.read_write u h h1 h2 h3 h4 h5 h6 h7 h8
  have hne : String.ofList (IsoText.write t.fields) ≠ "" := by
    intro hc
    rw [← String.toList_inj, String.toList_ofList] at hc
    rw [hc] at hread
    cases hread
  simp only [dtToStr, Option.map_some, dtFromStr, if_neg hne, String.toList_ofList, hread,
    Datetime.ofFields_fields]
  rfl

/-- No instant is written as no text. -/
@[simp] theorem dtFromStr_dtToStr_none : dtFromStr u (dtToStr none) = .ok none := rfl

/-- An instant has a text exactly when it is there. -/
theorem dtToStr_eq_none_iff {t : Option Datetime} : dtToStr t = none ↔ t = none := by
  simp [dtToStr]

end FleetFlow
