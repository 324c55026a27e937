import FleetFlow.Base.IsoText

/-!
# ISO 8601 texts

The texts of `datetime.isoformat`, of a timestamp in a PostgreSQL JSON value, and what
`datetime.fromisoformat` makes of a text: dates of the calendar or of the week, with or without
separators, a clock after any one character, and an offset, which makes the result aware.
-/

namespace FleetFlow

namespace IsoFormat

open Calendar

/-! ### Digits -/

/-- The last `n` decimal digits of a number. -/
def digits : Nat → Nat → List Char
  | 0, _ => []
  | n + 1, value => digits n (value / 10) ++ [IsoText.digit (value % 10)]

/-- Read `n` digits from the front. -/
def readDigits : Nat → Nat → List Char → Option (Nat × List Char)
  | 0, value, cs => some (value, cs)
  | _ + 1, _, [] => none
  | n + 1, value, c :: cs => do
    let d ← IsoText.asciiDigit? c
    readDigits n (value * 10 + d) cs

private theorem asciiDigit?_digit : ∀ n < 10, IsoText.asciiDigit? (IsoText.digit n) = some n ∧
    (IsoText.digit n).isDigit = true := by
  decide

@[simp] theorem length_digits (n value : Nat) : (digits n value).length = n := by
  induction n generalizing value with
  | zero => rfl
  | succ n ih => rw [digits, List.length_append, ih, List.length_singleton]

/-- Digits are digits. -/
theorem isDigit_of_mem_digits {n value : Nat} {c : Char} (h : c ∈ digits n value) :
    c.isDigit = true := by
  induction n generalizing value with
  | zero => cases h
  | succ n ih =>
    rcases List.mem_append.mp h with hfront | hlast
    · exact ih hfront
    · rw [List.mem_singleton.mp hlast]
      exact (asciiDigit?_digit (value % 10) (Nat.mod_lt _ (by decide))).2

/-- Reading digits continues where it stopped. -/
theorem readDigits_add {m n acc value : Nat} {cs rest : List Char}
    (h : readDigits m acc cs = some (value, rest)) :
    readDigits (m + n) acc cs = readDigits n value rest := by
  induction m generalizing acc cs with
  | zero =>
    obtain ⟨rfl, rfl⟩ := Prod.mk.inj (Option.some.inj h)
    rw [Nat.zero_add]
  | succ m ih =>
    rw [Nat.succ_add]
    cases cs with
    | nil => cases h
    | cons c cs =>
      rw [readDigits] at h ⊢
      cases hd : IsoText.asciiDigit? c with
      | none =>
        rw [hd] at h
        cases h
      | some d =>
        rw [hd] at h
        exact ih h

/-- Digits are read back. -/
theorem readDigits_digits {n acc value : Nat} (h : value < 10 ^ n) (rest : List Char) :
    readDigits n acc (digits n value ++ rest) = some (acc * 10 ^ n + value, rest) := by
  induction n generalizing value rest with
  | zero =>
    have hzero : value = 0 := by simpa using h
    rw [hzero, digits, List.nil_append, readDigits, pow_zero, mul_one, add_zero]
  | succ n ih =>
    have hfront : value / 10 < 10 ^ n := by
      rw [pow_succ] at h
      omega
    have hrest := ih hfront (IsoText.digit (value % 10) :: rest)
    rw [digits, List.append_assoc, List.singleton_append, readDigits_add hrest]
    have hlast := (asciiDigit?_digit (value % 10) (Nat.mod_lt _ (by decide))).1
    have hvalue : (acc * 10 ^ n + value / 10) * 10 + value % 10 = acc * 10 ^ (n + 1) + value := by
      have hdiv := Nat.div_add_mod value 10
      rw [pow_succ, ← mul_assoc, add_mul]
      omega
    rw [readDigits, hlast]
    show readDigits 0 ((acc * 10 ^ n + value / 10) * 10 + value % 10) rest = _
    rw [hvalue, readDigits]

/-- Digits are read back from their beginning. -/
theorem readDigits_zero {n value : Nat} (h : value < 10 ^ n) (rest : List Char) :
    readDigits n 0 (digits n value ++ rest) = some (value, rest) := by
  rw [readDigits_digits h, Nat.zero_mul, Nat.zero_add]

/-- Digits are digits of the front and of the back. -/
theorem digits_add (m n value : Nat) :
    digits (m + n) value = digits m (value / 10 ^ n) ++ digits n (value % 10 ^ n) := by
  induction n generalizing value with
  | zero => simp [digits]
  | succ n ih =>
    have hfront : value / 10 / 10 ^ n = value / 10 ^ (n + 1) := by
      rw [Nat.div_div_eq_div_mul, pow_succ']
    have hback : value % 10 ^ (n + 1) / 10 = value / 10 % 10 ^ n := by
      rw [pow_succ', Nat.mod_mul_right_div_self]
    have hlast : value % 10 ^ (n + 1) % 10 = value % 10 := by
      rw [pow_succ', Nat.mod_mul_right_mod]
    rw [← Nat.add_assoc, digits, ih, hfront, digits, hback, hlast, List.append_assoc]

/-- The digits of a number that ends in zeros. -/
theorem eq_digits_of_append {ds : List Char} {zeros value n : Nat}
    (h : ds ++ List.replicate zeros '0' = digits n value) :
    ds = digits ds.length (value / 10 ^ zeros) ∧ value / 10 ^ zeros * 10 ^ zeros = value := by
  have hlength : n = ds.length + zeros := by
    rw [← length_digits n value, ← h, List.length_append, List.length_replicate]
  rw [hlength, digits_add] at h
  obtain ⟨hds, hzeros⟩ := List.append_inj h (by rw [length_digits])
  have hrest : value % 10 ^ zeros = 0 := by
    have hpos : 0 < 10 ^ zeros := Nat.pow_pos (by decide)
    have hlast := readDigits_zero (Nat.mod_lt value hpos) []
    rw [← hzeros, List.append_nil] at hlast
    have hread : ∀ k, readDigits k 0 (List.replicate k '0') = some (0, []) := by
      intro k
      induction k with
      | zero => rfl
      | succ k ih => exact ih
    rw [hread] at hlast
    exact (Prod.mk.inj (Option.some.inj hlast)).1.symm
  exact ⟨hds, Nat.div_mul_cancel (Nat.dvd_of_mod_eq_zero hrest)⟩

/-- Digits do not begin with a separator. -/
theorem head?_digits {n value : Nat} {c : Char} (hc : c.isDigit = false) (rest : List Char) :
    (digits (n + 1) value ++ rest).head? ≠ some c := by
  intro h
  cases hd : digits (n + 1) value with
  | nil =>
    have hlength := length_digits (n + 1) value
    rw [hd] at hlength
    cases hlength
  | cons d ds =>
    rw [hd] at h
    obtain rfl := Option.some.inj h
    have hdigit : d.isDigit = true := isDigit_of_mem_digits (hd ▸ List.mem_cons_self)
    rw [hc] at hdigit
    cases hdigit

/-! ### Reading -/

/-- One character that has to be there. -/
def readChar (expected : Char) : List Char → Option (List Char)
  | [] => none
  | c :: cs => if c = expected then some cs else none

/-- A separator, in a text that uses separators. -/
def readSeparator (uses : Bool) (separator : Char) (cs : List Char) : Option (List Char) :=
  if uses then readChar separator cs else some cs

/-- Where the date ends; `_find_isoformat_datetime_separator`. -/
def separatorLocation (cs : List Char) : Option Nat :=
  if cs.length = 7 then some 7
  else if cs[4]? = some '-' then
    if cs[5]? = some 'W' then
      if cs[8]? = some '-' then
        if cs.length = 9 then none
        else if (cs[10]?).any Char.isDigit then some 8 else some 10
      else some 8
    else some 10
  else if cs[4]? = some 'W' then
    let stop := 7 + ((cs.drop 7).takeWhile Char.isDigit).length
    if stop < 9 then some stop else if stop % 2 = 0 then some 7 else some 8
  else some 8

/-- Days before the Monday of the first week of a year; `_isoweek1monday`. -/
def daysBeforeWeek1 (year : Nat) : Int :=
  let firstWeekday := (daysBeforeYear year) % 7
  let monday : Int := daysBeforeYear year - firstWeekday
  if 3 < firstWeekday then monday + 7 else monday

/-- A year, month and day from a year, week and weekday; `_isoweek_to_gregorian`. -/
def ofIsoWeek (year week day : Nat) : Option (Nat × Nat × Nat) :=
  let firstWeekday := (daysBeforeYear year) % 7
  let long := firstWeekday = 3 ∨ firstWeekday = 2 ∧ isLeap year = true
  if 1 ≤ year ∧ (1 ≤ week ∧ week < 53 ∨ week = 53 ∧ long) ∧ 1 ≤ day ∧ day < 8 then
    let days := (daysBeforeWeek1 year + (week - 1) * 7 + (day - 1)).toNat
    let monthDay := monthOfDay (isLeap (yearOfDays days).1) (yearOfDays days).2
    some ((yearOfDays days).1, monthDay.1, monthDay.2)
  else none

/-- A date and nothing after it; `_parse_isoformat_date`. -/
def readDate (cs : List Char) : Option (Nat × Nat × Nat) := do
  let (year, cs) ← readDigits 4 0 cs
  let uses := cs.head? == some '-'
  let cs := if uses then cs.tail else cs
  if cs.head? = some 'W' then
    let (week, cs) ← readDigits 2 0 cs.tail
    if cs = [] then ofIsoWeek year week 1
    else
      let cs ← readSeparator uses '-' cs
      let (day, rest) ← readDigits 1 0 cs
      if rest = [] then ofIsoWeek year week day else none
  else
    let (month, cs) ← readDigits 2 0 cs
    let cs ← readSeparator uses '-' cs
    let (day, rest) ← readDigits 2 0 cs
    if rest = [] then some (year, month, day) else none

/-- Microseconds of a fraction, of which six digits count. -/
def readFraction (cs : List Char) : Option Nat := do
  let count := min cs.length 6
  let (value, rest) ← readDigits count 0 cs
  if cs ≠ [] ∧ rest.all Char.isDigit = true then some (value * 10 ^ (6 - count)) else none

/-- Hour, minute, second and microsecond. -/
structure Clock where
  hour : Nat
  minute : Nat := 0
  second : Nat := 0
  microsecond : Nat := 0

/-- A clock and nothing after it; `_parse_hh_mm_ss_ff`. -/
def readClock (cs : List Char) : Option Clock := do
  let (hour, cs) ← readDigits 2 0 cs
  if cs = [] then some { hour } else
  let uses := cs.head? == some ':'
  let cs ← readSeparator uses ':' cs
  let (minute, cs) ← readDigits 2 0 cs
  if cs = [] then some { hour, minute } else
  let cs ← readSeparator uses ':' cs
  let (second, cs) ← readDigits 2 0 cs
  if cs = [] then some { hour, minute, second } else
  if cs.head? = some '.' ∨ cs.head? = some ',' then
    let microsecond ← readFraction cs.tail
    some { hour, minute, second, microsecond }
  else none

/-- The characters that begin an offset. -/
def startsOffset (c : Char) : Bool := c == '+' || c == '-' || c == 'Z'

/-- An offset is shorter than a day. -/
def validOffset (cs : List Char) : Bool :=
  if cs = ['Z'] then true
  else match cs with
  | [] | 'Z' :: _ => false
  | _ :: offset => (readClock offset).any fun clock ↦
      clock.hour * 3600 + clock.minute * 60 + clock.second < 86400

/-- What a text stands for: an instant without an offset, or one with an offset. -/
inductive Reading where
  | naive (t : Datetime)
  | aware
deriving DecidableEq

/-- The instant of a date and a clock. -/
def instant (date : Nat × Nat × Nat) (clock : Clock) : Option Datetime := do
  let whole ← (Datetime.ofFields {
    year := date.1
    month := date.2.1
    day := date.2.2
    hour := clock.hour
    minute := clock.minute
    second := clock.second }).toOption
  (whole.add ⟨clock.microsecond⟩).toOption

end IsoFormat

open IsoFormat

/-- `datetime.fromisoformat`, with nothing where it raises a `ValueError`. -/
def fromisoformat (text : String) : Option Reading := do
  let cs := text.toList
  if cs.length < 7 then none else
  let location ← separatorLocation cs
  let date ← readDate (cs.take location)
  if cs.length ≤ location then
    let t ← instant date { hour := 0 }
    some (.naive t)
  else
    let time := cs.drop (location + 1)
    let clock ← readClock (time.takeWhile (!startsOffset ·))
    let t ← instant date clock
    let offset := time.dropWhile (!startsOffset ·)
    if offset = [] then some (.naive t) else if validOffset offset then some .aware else none

namespace Datetime

/-- Date and clock down to the second. -/
def secondText (t : Datetime) : List Char :=
  let f := t.fields
  digits 4 f.year ++ '-' :: (digits 2 f.month ++ '-' :: (digits 2 f.day ++ 'T' ::
    (digits 2 f.hour ++ ':' :: (digits 2 f.minute ++ ':' :: digits 2 f.second))))

/-- Microseconds after the whole second. -/
def microsecond (t : Datetime) : Nat := t.micros % 1000000

/-- The text of an instant, with microseconds unless there are none, `datetime.isoformat`. -/
def isoformat (t : Datetime) : String :=
  String.ofList (t.secondText ++
    if t.microsecond = 0 then [] else '.' :: digits 6 t.microsecond)

/-- The text of a timestamp in a PostgreSQL JSON value, whose fraction has no zeros at its end. -/
def jsonText (t : Datetime) : String :=
  String.ofList (t.secondText ++
    if t.microsecond = 0 then [] else '.' :: (digits 6 t.microsecond).rdropWhile (· == '0'))

end Datetime

namespace IsoFormat

/-- No digit begins an offset. -/
theorem startsOffset_of_isDigit {c : Char} (h : c.isDigit = true) : startsOffset c = false := by
  cases hoffset : startsOffset c with
  | false => rfl
  | true =>
    simp only [startsOffset, Bool.or_eq_true, beq_iff_eq] at hoffset
    rcases hoffset with (rfl | rfl) | rfl
    · exact absurd h (by decide)
    · exact absurd h (by decide)
    · exact absurd h (by decide)

/-- A date of the calendar with separators ends after ten characters. -/
theorem separatorLocation_of_dash {cs : List Char} (hlength : cs.length ≠ 7)
    (hdash : cs[4]? = some '-') (hweek : cs[5]? ≠ some 'W') : separatorLocation cs = some 10 := by
  unfold separatorLocation
  rw [if_neg hlength, if_pos hdash, if_neg hweek]

/-- A date is read back. -/
theorem readDate_digits {year month day : Nat} (hy : year < 10 ^ 4) (hm : month < 10 ^ 2)
    (hd : day < 10 ^ 2) :
    readDate (digits 4 year ++ '-' :: (digits 2 month ++ '-' :: digits 2 day)) =
      some (year, month, day) := by
  have hday := readDigits_zero hd []
  rw [List.append_nil] at hday
  have hweek : (digits 2 month ++ '-' :: digits 2 day).head? ≠ some 'W' :=
    head?_digits (by decide) _
  simp only [readDate, readDigits_zero hy, Option.bind_eq_bind, Option.bind_some, List.head?_cons,
    beq_self_eq_true, if_true, List.tail_cons, if_neg hweek, readDigits_zero hm, readSeparator,
    readChar, hday]

/-- Digits of a fraction, and zeros that are left out at their end. -/
theorem readFraction_of_append {ds : List Char} {zeros value : Nat} (hne : ds ≠ [])
    (hdigits : ds ++ List.replicate zeros '0' = digits 6 value) (hvalue : value < 10 ^ 6) :
    readFraction ds = some value := by
  obtain ⟨hds, hback⟩ := eq_digits_of_append hdigits
  have hlength : ds.length + zeros = 6 := by
    rw [← length_digits 6 value, ← hdigits, List.length_append, List.length_replicate]
  have hcount : min ds.length 6 = ds.length := by omega
  have hzeros : 6 - ds.length = zeros := by omega
  have hlt : value / 10 ^ zeros < 10 ^ ds.length := by
    rw [Nat.div_lt_iff_lt_mul (Nat.pow_pos (by decide)), ← pow_add, hlength]
    exact hvalue
  have hread := readDigits_zero hlt []
  rw [List.append_nil, ← hds] at hread
  simp only [readFraction, hcount, hread, Option.bind_eq_bind, Option.bind_some, hne, ne_eq,
    not_false_eq_true, List.all_nil, and_self, if_true, hzeros, hback]

/-- A clock is read back, with its fraction where there is one. -/
theorem readClock_digits {hour minute second microsecond : Nat} (hh : hour < 10 ^ 2)
    (hm : minute < 10 ^ 2) (hs : second < 10 ^ 2) {fraction : List Char}
    (hfraction : fraction = [] ∧ microsecond = 0 ∨
      ∃ ds, fraction = '.' :: ds ∧ readFraction ds = some microsecond) :
    readClock (digits 2 hour ++ ':' :: (digits 2 minute ++ ':' ::
      (digits 2 second ++ fraction))) = some { hour, minute, second, microsecond } := by
  have hcons : ∀ (c : Char) (cs : List Char), ¬ c :: cs = [] := by simp
  simp only [readClock, readDigits_zero hh, readDigits_zero hm, readDigits_zero hs,
    Option.bind_eq_bind, Option.bind_some, List.head?_cons, beq_self_eq_true, readSeparator,
    readChar, if_true, if_neg (hcons _ _)]
  rcases hfraction with ⟨rfl, rfl⟩ | ⟨ds, rfl, hread⟩
  · rfl
  · simp only [hcons, if_false, List.head?_cons, true_or, if_true, List.tail_cons, hread,
      Option.bind_some]

end IsoFormat

namespace Datetime

private theorem instant_fields (t : Datetime) :
    instant (t.fields.year, t.fields.month, t.fields.day)
      { hour := t.fields.hour
        minute := t.fields.minute
        second := t.fields.second
        microsecond := t.microsecond } = some t := by
  have hadd : t.truncate.add ⟨t.microsecond⟩ = .ok t := by
    have hwhole : t.truncate.micros = t.micros / 1000000 * 1000000 := rfl
    have hrest : t.microsecond = t.micros % 1000000 := rfl
    rw [add_eq_ok_iff, hwhole, hrest]
    dsimp only
    omega
  have hfields : ofFields (DatetimeFields.mk t.fields.year t.fields.month t.fields.day
      t.fields.hour t.fields.minute t.fields.second) = .ok t.truncate := ofFields_fields t
  have hwhole : (ofFields (DatetimeFields.mk t.fields.year t.fields.month t.fields.day
      t.fields.hour t.fields.minute t.fields.second)).toOption = some t.truncate := by
    rw [hfields]
    rfl
  have hinstant : (t.truncate.add ⟨t.microsecond⟩).toOption = some t := by
    rw [hadd]
    rfl
  unfold instant
  rw [hwhole, Option.bind_eq_bind, Option.bind_some]
  exact hinstant

/-- The text of an instant is read back, whichever way its fraction is written. -/
theorem fromisoformat_of_fraction (t : Datetime) {fraction : List Char}
    (hfraction : fraction = [] ∧ t.microsecond = 0 ∨
      ∃ ds, fraction = '.' :: ds ∧ readFraction ds = some t.microsecond)
    (hplain : ∀ c ∈ fraction, startsOffset c = false) :
    fromisoformat (String.ofList (t.secondText ++ fraction)) = some (.naive t) := by
  obtain ⟨hy, -, hm, -, hd, hh, hmin, hs⟩ := t.fields_ranges
  have hdate : readDate (digits 4 t.fields.year ++ '-' :: (digits 2 t.fields.month ++ '-' ::
      digits 2 t.fields.day)) = some (t.fields.year, t.fields.month, t.fields.day) :=
    readDate_digits (by omega) (by omega) (by omega)
  have hclock : readClock (digits 2 t.fields.hour ++ ':' :: (digits 2 t.fields.minute ++ ':' ::
      (digits 2 t.fields.second ++ fraction))) =
        some ⟨t.fields.hour, t.fields.minute, t.fields.second, t.microsecond⟩ :=
    readClock_digits (by omega) (by omega) (by omega) hfraction
  have htext : t.secondText ++ fraction =
      (digits 4 t.fields.year ++ '-' :: (digits 2 t.fields.month ++ '-' ::
        digits 2 t.fields.day)) ++ 'T' :: (digits 2 t.fields.hour ++ ':' ::
          (digits 2 t.fields.minute ++ ':' :: (digits 2 t.fields.second ++ fraction))) := by
    simp only [secondText, List.append_assoc, List.cons_append]
  generalize hdateText : digits 4 t.fields.year ++ '-' :: (digits 2 t.fields.month ++ '-' ::
    digits 2 t.fields.day) = date at hdate htext
  generalize hclockText : digits 2 t.fields.hour ++ ':' :: (digits 2 t.fields.minute ++ ':' ::
    (digits 2 t.fields.second ++ fraction)) = clock at hclock htext
  have hlength : date.length = 10 := by
    simp only [← hdateText, List.length_append, length_digits, List.length_cons]
  have hclockPlain : ∀ c ∈ clock, (!startsOffset c) = true := by
    intro c hc
    have hcases : c.isDigit = true ∨ c = ':' ∨ c ∈ fraction := by
      simp only [← hclockText, List.mem_append, List.mem_cons] at hc
      rcases hc with hc | hc | hc | hc | hc | hc
      · exact .inl (isDigit_of_mem_digits hc)
      · exact .inr (.inl hc)
      · exact .inl (isDigit_of_mem_digits hc)
      · exact .inr (.inl hc)
      · exact .inl (isDigit_of_mem_digits hc)
      · exact .inr (.inr hc)
    rcases hcases with hdigit | rfl | hfrac
    · rw [startsOffset_of_isDigit hdigit]
      rfl
    · rfl
    · rw [hplain c hfrac]
      rfl
  have hlocation : separatorLocation (date ++ 'T' :: clock) = some 10 := by
    apply separatorLocation_of_dash
    · rw [List.length_append, hlength, List.length_cons]
      omega
    · rw [← hdateText, List.append_assoc, List.getElem?_append_right (by simp)]
      simp
    · rw [← hdateText, List.append_assoc, List.getElem?_append_right (by simp), length_digits,
        ← List.head?_drop]
      have hweek : (digits 2 t.fields.month ++ '-' :: (digits 2 t.fields.day ++
          'T' :: clock)).head? ≠ some 'W' := head?_digits (by decide) _
      simpa using hweek
  have htake : (date ++ 'T' :: clock).take 10 = date := by
    rw [← hlength, List.take_left]
  have hdrop : (date ++ 'T' :: clock).drop (10 + 1) = clock := by
    rw [← hlength, List.drop_append, List.drop_eq_nil_of_le (Nat.le_succ _)]
    simp
  have hlong : ¬ (date ++ 'T' :: clock).length < 7 ∧ ¬ (date ++ 'T' :: clock).length ≤ 10 := by
    rw [List.length_append, hlength, List.length_cons]
    omega
  have hwhole : clock.takeWhile (!startsOffset ·) = clock :=
    List.takeWhile_eq_self_iff.mpr hclockPlain
  have hnone : clock.dropWhile (!startsOffset ·) = [] :=
    List.dropWhile_eq_nil_iff.mpr hclockPlain
  rw [fromisoformat, htext, String.toList_ofList]
  simp only [if_neg hlong.1, hlocation, Option.bind_eq_bind, Option.bind_some, htake, hdate,
    if_neg hlong.2, hdrop, hwhole, hclock, instant_fields, hnone, if_true]

/-- Digits of a fraction begin no offset. -/
private theorem startsOffset_of_mem_fraction {ds : List Char} {value : Nat}
    (hsub : ds ⊆ digits 6 value) : ∀ c ∈ '.' :: ds, startsOffset c = false := by
  intro c hc
  rcases List.mem_cons.mp hc with rfl | hc
  · rfl
  · exact startsOffset_of_isDigit (isDigit_of_mem_digits (hsub hc))

private theorem microsecond_lt (t : Datetime) : t.microsecond < 10 ^ 6 := Nat.mod_lt _ (by decide)

/-- What `isoformat` writes, `fromisoformat` reads. -/
@[simp] theorem fromisoformat_isoformat (t : Datetime) :
    fromisoformat t.isoformat = some (.naive t) := by
  unfold isoformat
  by_cases hzero : t.microsecond = 0
  · rw [if_pos hzero]
    exact t.fromisoformat_of_fraction (.inl ⟨rfl, hzero⟩) (by simp)
  · rw [if_neg hzero]
    apply t.fromisoformat_of_fraction
    · have hne : digits 6 t.microsecond ≠ [] := by
        intro hnil
        have hlength := congrArg List.length hnil
        rw [length_digits] at hlength
        cases hlength
      have hfull : digits 6 t.microsecond ++ List.replicate 0 '0' = digits 6 t.microsecond := by
        simp
      exact .inr ⟨_, rfl, readFraction_of_append hne hfull t.microsecond_lt⟩
    · exact startsOffset_of_mem_fraction (List.Subset.refl _)

/-- What PostgreSQL writes into a JSON value, `fromisoformat` reads. -/
@[simp] theorem fromisoformat_jsonText (t : Datetime) :
    fromisoformat t.jsonText = some (.naive t) := by
  unfold jsonText
  by_cases hzero : t.microsecond = 0
  · rw [if_pos hzero]
    exact t.fromisoformat_of_fraction (.inl ⟨rfl, hzero⟩) (by simp)
  · rw [if_neg hzero]
    have hsplit : (digits 6 t.microsecond).rdropWhile (· == '0') ++
        (digits 6 t.microsecond).rtakeWhile (· == '0') = digits 6 t.microsecond :=
      List.rdropWhile_append_rtakeWhile
    have hall : (digits 6 t.microsecond).rtakeWhile (· == '0') =
        List.replicate ((digits 6 t.microsecond).rtakeWhile (· == '0')).length '0' := by
      apply List.eq_replicate_of_mem
      intro c hc
      have hzeros : (c == '0') = true := List.mem_rtakeWhile_imp (p := (· == '0')) hc
      exact beq_iff_eq.mp hzeros
    rw [hall] at hsplit
    apply t.fromisoformat_of_fraction
    · refine .inr ⟨_, rfl, readFraction_of_append ?_ hsplit t.microsecond_lt⟩
      intro hnil
      rw [hnil] at hsplit
      have hback := (eq_digits_of_append hsplit).2
      have hsix : ((digits 6 t.microsecond).rtakeWhile (· == '0')).length = 6 := by
        have hlength := congrArg List.length hsplit
        rw [length_digits, List.nil_append, List.length_replicate] at hlength
        exact hlength
      rw [hsix, Nat.div_eq_of_lt t.microsecond_lt, Nat.zero_mul] at hback
      exact hzero hback.symm
    · have hprefix : (digits 6 t.microsecond).rdropWhile (· == '0') <+: digits 6 t.microsecond :=
        List.rdropWhile_prefix _ _
      exact startsOffset_of_mem_fraction hprefix.subset

end Datetime

end FleetFlow
