import FleetFlow.Base.Errors

/-!
# Python text operations

`str.strip`, `str.upper`, `str.lower`, `str.casefold`, `str.isdigit`, `str.split`, `repr` and
`int` on strings. ASCII behaviour is defined here. The Unicode character database outside
ASCII is a parameter, so results hold for every version of it. The length limit of `int` is
not modelled.
-/

namespace FleetFlow

/-- Character data of the Python runtime for characters outside ASCII. -/
structure UnicodeTables where
  upper : Char → List Char
  lower : Char → List Char
  casefold : Char → List Char
  isSpace : Char → Bool
  isDigit : Char → Bool
  decimal : Char → Option Nat
  isCased : Char → Bool
  isCaseIgnorable : Char → Bool
  isPrintable : Char → Bool

/-- Tables of a runtime that treats every character outside ASCII as a caseless letter. -/
def UnicodeTables.asciiOnly : UnicodeTables where
  upper c := [c]
  lower c := [c]
  casefold c := [c]
  isSpace _ := false
  isDigit _ := false
  decimal _ := none
  isCased _ := false
  isCaseIgnorable _ := false
  isPrintable _ := true

/-- Membership in the ASCII range. -/
def isAsciiChar (c : Char) : Bool := c.toNat < 128

/-- White space in ASCII for `str.strip`: tab to carriage return, the separators, blank. -/
def isAsciiSpace (c : Char) : Bool :=
  (9 ≤ c.toNat && c.toNat ≤ 13) || (28 ≤ c.toNat && c.toNat ≤ 32)

namespace PyStr

variable (u : UnicodeTables)

/-- White space as `str.strip` sees it. -/
def isSpace (c : Char) : Bool := if isAsciiChar c then isAsciiSpace c else u.isSpace c

/-- One character of `str.isdigit`. -/
def isDigitChar (c : Char) : Bool := if isAsciiChar c then c.isDigit else u.isDigit c

/-- The value of a decimal digit, as `\d` and `int` read it. -/
def decimal? (c : Char) : Option Nat :=
  if isAsciiChar c then (if c.isDigit then some (c.toNat - 48) else none) else u.decimal c

/-- Drop leading and trailing characters that satisfy `p`. -/
def trim (p : Char → Bool) (cs : List Char) : List Char := (cs.dropWhile p).rdropWhile p

/-- A text without white space at its ends, `str.strip`. -/
def strip (s : String) : String := String.ofList (trim (isSpace u) s.toList)

/-- A text in capital letters, `str.upper`. -/
def upper (s : String) : String :=
  String.ofList (s.toList.flatMap fun c ↦ if isAsciiChar c then [c.toUpper] else u.upper c)

/-- The Unicode property `Cased`. -/
def isCased (c : Char) : Bool :=
  if isAsciiChar c then c.isUpper || c.isLower else u.isCased c

/-- The Unicode property `Case_Ignorable`. -/
def isCaseIgnorable (c : Char) : Bool :=
  if isAsciiChar c then "'.:^\x60".toList.contains c else u.isCaseIgnorable c

/-- Whether a capital sigma between two texts ends a word. The text before it is reversed. -/
def isFinalSigma (before after : List Char) : Bool :=
  ((before.dropWhile (isCaseIgnorable u)).head?.any (isCased u)) &&
    !((after.dropWhile (isCaseIgnorable u)).head?.any (isCased u))

/-- One character of `str.lower`; a capital sigma depends on the text around it. -/
def lowerChar (before : List Char) (c : Char) (after : List Char) : List Char :=
  if c = 'Σ' then [if isFinalSigma u before after then 'ς' else 'σ']
  else if isAsciiChar c then [c.toLower] else u.lower c

/-- `str.lower` on the rest of a text whose beginning, reversed, is `before`. -/
def lowerFrom (before : List Char) : List Char → List Char
  | [] => []
  | c :: after => lowerChar u before c after ++ lowerFrom (c :: before) after

/-- A text in small letters, `str.lower`. -/
def lower (s : String) : String := String.ofList (lowerFrom u [] s.toList)

/-- A text as it is compared without regard to case, `str.casefold`. -/
def casefold (s : String) : String :=
  String.ofList (s.toList.flatMap fun c ↦ if isAsciiChar c then [c.toLower] else u.casefold c)

/-- `str.isdigit`: a non-empty string of digits. -/
def isdigit (s : String) : Bool := !s.toList.isEmpty && s.toList.all (isDigitChar u)

/-- `str.split` at a one-character separator. -/
def split (separator : Char) (s : String) : List String :=
  (s.toList.splitOn separator).map String.ofList

/-- The character of `str` literals with single quotes. -/
def singleQuote : Char := Char.ofNat 39

/-- The character of `str` literals with double quotes. -/
def doubleQuote : Char := Char.ofNat 34

/-- The shortest hexadecimal escape of `repr` for a character. -/
def escape (c : Char) : List Char :=
  let digits := Nat.toDigits 16 c.toNat
  let pad (width : Nat) := List.replicate (width - digits.length) '0' ++ digits
  if c.toNat < 256 then '\\' :: 'x' :: pad 2
  else if c.toNat < 65536 then '\\' :: 'u' :: pad 4
  else '\\' :: 'U' :: pad 8

/-- One character of `repr` between quotes. -/
def reprChar (quote c : Char) : List Char :=
  if c = quote ∨ c = '\\' then ['\\', c]
  else if c = '\t' then ['\\', 't']
  else if c = '\n' then ['\\', 'n']
  else if c = '\r' then ['\\', 'r']
  else if isAsciiChar c then (if 32 ≤ c.toNat ∧ c.toNat ≠ 127 then [c] else escape c)
  else if u.isPrintable c then [c] else escape c

/-- `repr` of a string: in single quotes, unless it holds one and no double quote. -/
def repr (s : String) : String :=
  let quote := if s.toList.contains singleQuote && !s.toList.contains doubleQuote
    then doubleQuote else singleQuote
  String.ofList (quote :: (s.toList.flatMap (reprChar u quote)) ++ [quote])

/-- White space that `int` skips: of an ASCII text only that of the C locale. -/
def isIntSpace (cs : List Char) (c : Char) : Bool :=
  if cs.all isAsciiChar then (9 ≤ c.toNat && c.toNat ≤ 13) || c = ' ' else isSpace u c

/-- The digits after the first one; an underscore can stand between two digits. -/
def digitsValue (value : Nat) : List Char → Option Nat
  | [] => some value
  | '_' :: c :: cs => (decimal? u c).bind fun d ↦ digitsValue (10 * value + d) cs
  | c :: cs => (decimal? u c).bind fun d ↦ digitsValue (10 * value + d) cs

/-- An unsigned decimal literal. -/
def natLiteral? : List Char → Option Nat
  | [] => none
  | c :: cs => (decimal? u c).bind fun d ↦ digitsValue u d cs

/-- `int` of a string. -/
def int? (s : String) : Option Int :=
  match trim (isIntSpace u s.toList) s.toList with
  | '-' :: cs => (natLiteral? u cs).map fun n ↦ -(n : Int)
  | '+' :: cs => (natLiteral? u cs).map Int.ofNat
  | cs => (natLiteral? u cs).map Int.ofNat

/-! ### Text that is clean already -/

variable {u}

/-- A text without characters to drop is trimmed already. -/
theorem trim_eq_self {p : Char → Bool} {cs : List Char} (h : ∀ c ∈ cs, p c = false) :
    trim p cs = cs := by
  have h1 : cs.dropWhile p = cs :=
    List.dropWhile_eq_self_iff.mpr fun hl ↦ by simp [h _ (List.getElem_mem hl)]
  have h2 : cs.rdropWhile p = cs :=
    List.rdropWhile_eq_self_iff.mpr fun hl ↦ by simp [h _ (List.getLast_mem hl)]
  rw [trim, h1, h2]

/-- Other characters than the dropped ones stay when a text is trimmed. -/
theorem mem_trim_iff {p : Char → Bool} {cs : List Char} {c : Char} (hc : p c = false) :
    c ∈ trim p cs ↔ c ∈ cs := by
  have hdrop : ∀ {ds : List Char}, c ∈ ds.dropWhile p ↔ c ∈ ds := by
    intro ds
    constructor
    · exact fun h ↦ (List.dropWhile_sublist p).subset h
    · intro h
      rw [← List.takeWhile_append_dropWhile (p := p) (l := ds), List.mem_append] at h
      rcases h with h | h
      · have hp := List.mem_takeWhile_imp h
        rw [hc] at hp
        cases hp
      · exact h
  unfold trim List.rdropWhile
  rw [List.mem_reverse, hdrop, List.mem_reverse, hdrop]

/-- A text contains NUL exactly when its stripped text does. -/
theorem nul_mem_strip_iff {s : String} :
    Char.ofNat 0 ∈ (strip u s).toList ↔ Char.ofNat 0 ∈ s.toList := by
  rw [strip, String.toList_ofList]
  exact mem_trim_iff rfl

private theorem trim_trim (p : Char → Bool) (cs : List Char) : trim p (trim p cs) = trim p cs := by
  have hd : ((cs.dropWhile p).rdropWhile p).dropWhile p = (cs.dropWhile p).rdropWhile p := by
    rw [List.dropWhile_eq_self_iff]
    intro hl
    have hpre := List.rdropWhile_prefix p (l := cs.dropWhile p)
    have hlen : 0 < (cs.dropWhile p).length := hl.trans_le hpre.length_le
    have h0 := (List.dropWhile_eq_self_iff.mp (List.dropWhile_idempotent p cs)) hlen
    rwa [hpre.getElem hl]
  unfold trim
  rw [hd, List.rdropWhile_idempotent]

/-- Stripping twice strips once. -/
theorem strip_strip (v : String) : strip u (strip u v) = strip u v := by
  simp only [strip, String.toList_ofList, trim_trim]

/-- Text without white space is stripped already. -/
theorem strip_eq_self {v : String} (h : ∀ c ∈ v.toList, isSpace u c = false) : strip u v = v := by
  rw [strip, trim_eq_self h, String.ofList_toList]

private theorem lowerFrom_eq_self {cs : List Char}
    (h : ∀ c ∈ cs, isAsciiChar c = true ∧ c.toLower = c) (before : List Char) :
    lowerFrom u before cs = cs := by
  induction cs generalizing before with
  | nil => rfl
  | cons c cs ih =>
    obtain ⟨hascii, hlow⟩ := h c (by simp)
    have hsigma : c ≠ 'Σ' := by
      rintro rfl
      exact absurd hascii (by decide)
    simp [lowerFrom, lowerChar, hsigma, hascii, hlow, ih fun d hd ↦ h d (by simp [hd])]

/-- ASCII text without capital letters is lowered already. -/
theorem lower_eq_self {v : String} (h : ∀ c ∈ v.toList, isAsciiChar c = true ∧ c.toLower = c) :
    lower u v = v := by
  rw [lower, lowerFrom_eq_self h, String.ofList_toList]

/-- ASCII text without small letters is raised already. -/
theorem upper_eq_self {v : String} (h : ∀ c ∈ v.toList, isAsciiChar c = true ∧ c.toUpper = c) :
    upper u v = v := by
  have : (v.toList.flatMap fun c ↦ if isAsciiChar c then [c.toUpper] else u.upper c) =
      v.toList.flatMap fun c ↦ [c] :=
    List.flatMap_congr fun c hc ↦ by simp [(h c hc).1, (h c hc).2]
  rw [upper, this, List.flatMap_singleton', String.ofList_toList]

/-! ### Text that is raised already -/

/-- What the Unicode tables keep: an upper-case form is not empty, does not change in upper case,
and is white space only for white space. -/
structure UpperStable (u : UnicodeTables) : Prop where
  ne_nil : ∀ c, isAsciiChar c = false → u.upper c ≠ []
  upper : ∀ c, isAsciiChar c = false → ∀ d ∈ u.upper c,
    (if isAsciiChar d then [d.toUpper] else u.upper d) = [d]
  isSpace : ∀ c, isAsciiChar c = false → ∀ d ∈ u.upper c, isSpace u d = isSpace u c

private theorem ascii_toUpper : ∀ n < 128, isAsciiChar (Char.ofNat n).toUpper = true ∧
    (Char.ofNat n).toUpper.toUpper = (Char.ofNat n).toUpper ∧
    isAsciiSpace (Char.ofNat n).toUpper = isAsciiSpace (Char.ofNat n) := by
  decide +kernel

/-- Every character keeps this, ASCII or not. -/
theorem upperChar_spec (hu : UpperStable u) (c : Char) :
    (if isAsciiChar c then [c.toUpper] else u.upper c) ≠ [] ∧
      ∀ d ∈ (if isAsciiChar c then [c.toUpper] else u.upper c),
        (if isAsciiChar d then [d.toUpper] else u.upper d) = [d] ∧ isSpace u d = isSpace u c := by
  by_cases hc : isAsciiChar c = true
  · have hspec := ascii_toUpper c.toNat (by simpa [isAsciiChar] using hc)
    rw [Char.ofNat_toNat] at hspec
    obtain ⟨hascii, htwice, hspace⟩ := hspec
    rw [if_pos hc]
    refine ⟨by simp, fun d hd ↦ ?_⟩
    obtain rfl := List.mem_singleton.mp hd
    rw [if_pos hascii, htwice, isSpace, isSpace, if_pos hascii, if_pos hc, hspace]
    exact ⟨rfl, rfl⟩
  · rw [if_neg hc]
    rw [Bool.not_eq_true] at hc
    exact ⟨hu.ne_nil c hc, fun d hd ↦ ⟨hu.upper c hc d hd, hu.isSpace c hc d hd⟩⟩

/-- Raising twice raises once. -/
theorem upper_upper (hu : UpperStable u) (v : String) : upper u (upper u v) = upper u v := by
  unfold upper
  congr 1
  rw [String.toList_ofList, List.flatMap_assoc]
  apply List.flatMap_congr
  intro c _
  have hsame : ∀ d ∈ (if isAsciiChar c then [c.toUpper] else u.upper c),
      (if isAsciiChar d then [d.toUpper] else u.upper d) = [d] :=
    fun d hd ↦ ((upperChar_spec hu c).2 d hd).1
  rw [List.flatMap_congr hsame, List.flatMap_singleton']

/-- A text is trimmed already if nothing is to be dropped at its ends. -/
theorem trim_of_ends {p : Char → Bool} {cs : List Char} (hhead : ∀ c ∈ cs.head?, p c = false)
    (hlast : ∀ c ∈ cs.getLast?, p c = false) : trim p cs = cs := by
  have h1 : cs.dropWhile p = cs := by
    rw [List.dropWhile_eq_self_iff]
    intro hl
    simp [hhead cs[0] (by simp [List.head?_eq_getElem?, hl])]
  have h2 : cs.rdropWhile p = cs := by
    rw [List.rdropWhile_eq_self_iff]
    intro hl
    simp [hlast (cs.getLast hl) (by simp [List.getLast?_eq_some_getLast hl])]
  rw [trim, h1, h2]

/-- The ends of a trimmed text. -/
theorem trim_ends (p : Char → Bool) (cs : List Char) :
    (∀ c ∈ (trim p cs).head?, p c = false) ∧ ∀ c ∈ (trim p cs).getLast?, p c = false := by
  constructor
  · intro c hc
    obtain ⟨rest, hrest⟩ := List.rdropWhile_prefix p (l := cs.dropWhile p)
    have hhead : (cs.dropWhile p).head? = some c := by
      rw [← hrest, List.head?_append]
      simp [trim] at hc
      simp [hc]
    have hnot := List.head?_dropWhile_not p cs
    rw [hhead] at hnot
    simpa using hnot
  · intro c hc
    have hne : trim p cs ≠ [] := by
      rintro hnil
      simp [hnil] at hc
    rw [List.getLast?_eq_some_getLast hne] at hc
    obtain rfl := Option.some.inj hc
    exact (Bool.not_eq_true _).mp (List.rdropWhile_last_not p (cs.dropWhile p) hne)

/-- The ends of a text whose characters are replaced. -/
theorem flatMap_ends {p : Char → Bool} {f : Char → List Char} {cs : List Char}
    (hf : ∀ c, f c ≠ [] ∧ ∀ d ∈ f c, p d = p c)
    (h : (∀ c ∈ cs.head?, p c = false) ∧ ∀ c ∈ cs.getLast?, p c = false) :
    (∀ d ∈ (cs.flatMap f).head?, p d = false) ∧ ∀ d ∈ (cs.flatMap f).getLast?, p d = false := by
  constructor
  · cases cs with
    | nil => simp
    | cons c rest =>
      intro d hd
      rw [List.flatMap_cons, List.head?_append_of_ne_nil _ (hf c).1] at hd
      rw [(hf c).2 d (List.mem_of_mem_head? hd)]
      exact h.1 c rfl
  · induction cs using List.reverseRecOn with
    | nil => simp
    | append_singleton rest c _ =>
      intro d hd
      rw [List.flatMap_append, List.flatMap_singleton,
        List.getLast?_append_of_ne_nil _ (hf c).1] at hd
      rw [(hf c).2 d (List.mem_of_mem_getLast? hd)]
      exact h.2 c (by simp)

/-- A text that was stripped and raised is stripped already. -/
theorem strip_upper_strip (hu : UpperStable u) (v : String) :
    strip u (upper u (strip u v)) = upper u (strip u v) := by
  unfold strip upper
  rw [String.toList_ofList, String.toList_ofList]
  have hends := flatMap_ends (fun c ↦ ⟨(upperChar_spec hu c).1,
    fun d hd ↦ ((upperChar_spec hu c).2 d hd).2⟩) (trim_ends (isSpace u) v.toList)
  rw [trim_of_ends hends.1 hends.2]

/-- The characters of one kind, when trimming another kind leaves only them. -/
theorem filter_eq_trim {p q : Char → Bool} {cs : List Char}
    (hdisjoint : ∀ c, p c = true → q c = false)
    (hall : ∀ c ∈ trim p cs, q c = true) : cs.filter q = trim p cs := by
  have hfront : (cs.takeWhile p).filter q = [] := by
    rw [List.filter_eq_nil_iff]
    intro c hc
    simp [hdisjoint c (List.mem_takeWhile_imp hc)]
  have hback : ((cs.dropWhile p).rtakeWhile p).filter q = [] := by
    rw [List.filter_eq_nil_iff]
    intro c hc
    simp [hdisjoint c (List.mem_rtakeWhile_imp hc)]
  calc cs.filter q
      = (cs.takeWhile p).filter q ++ (cs.dropWhile p).filter q := by
        rw [← List.filter_append, List.takeWhile_append_dropWhile]
    _ = (cs.dropWhile p).filter q := by rw [hfront, List.nil_append]
    _ = (trim p cs).filter q ++ ((cs.dropWhile p).rtakeWhile p).filter q := by
        rw [← List.filter_append, trim, List.rdropWhile_append_rtakeWhile]
    _ = trim p cs := by rw [hback, List.append_nil, List.filter_eq_self.mpr hall]

/-- What the Unicode tables keep: no character is both white space and a digit. -/
def DigitsVisible (u : UnicodeTables) : Prop := ∀ c, u.isSpace c = true → u.isDigit c = false

/-- No white space counts as a digit. -/
theorem DigitsVisible.isDigitChar (hu : DigitsVisible u) {c : Char} (h : isSpace u c = true) :
    isDigitChar u c = false := by
  unfold isSpace at h
  unfold PyStr.isDigitChar
  split at h
  · next hascii =>
    rw [if_pos hascii]
    have hall : ∀ n < 128, isAsciiSpace (Char.ofNat n) = true → (Char.ofNat n).isDigit = false := by
      decide +kernel
    have hc := hall c.toNat (by simpa [isAsciiChar] using hascii)
    rw [Char.ofNat_toNat] at hc
    exact hc h
  · next hascii =>
    rw [if_neg hascii]
    exact hu c h

/-- The digits of a text that strips to digits are the stripped text. -/
theorem digits_eq_strip (hu : DigitsVisible u) {v : String} (h : isdigit u (strip u v) = true) :
    String.ofList (v.toList.filter (isDigitChar u)) = strip u v := by
  unfold strip at h ⊢
  rw [isdigit, String.toList_ofList, Bool.and_eq_true, List.all_eq_true] at h
  rw [filter_eq_trim (fun c hc ↦ hu.isDigitChar hc) h.2]

/-! ### Reading a written number -/

/-- What a character of a written number is not. -/
private theorem isDigit_plain {c : Char} (h : c.isDigit = true) :
    decimal? u c = some (c.toNat - '0'.toNat) ∧ isAsciiChar c = true ∧
      c ≠ '_' ∧ c ≠ '-' ∧ c ≠ '+' ∧ ∀ cs, isIntSpace u cs c = false := by
  have hr : 48 ≤ c.toNat ∧ c.toNat ≤ 57 := by
    rw [Char.isDigit, Bool.and_eq_true, decide_eq_true_eq, decide_eq_true_eq] at h
    exact ⟨h.1, h.2⟩
  have ha : isAsciiChar c = true := by
    rw [isAsciiChar, decide_eq_true_eq]
    omega
  have hne : ∀ d : Char, (d.toNat < 48 ∨ 57 < d.toNat) → c ≠ d := by
    rintro d hd rfl
    omega
  refine ⟨?_, ha, hne _ (by decide), hne _ (by decide), hne _ (by decide), fun cs ↦ ?_⟩
  · simp [decimal?, ha, h]
  · have hblank := hne ' ' (by decide)
    unfold isIntSpace isSpace isAsciiSpace
    rw [ha]
    split
    · simp only [hblank, decide_false, Bool.or_false, Bool.and_eq_false_iff, decide_eq_false_iff_not]
      omega
    · simp only [if_true, Bool.or_eq_false_iff, Bool.and_eq_false_iff, decide_eq_false_iff_not]
      omega

private theorem digitsValue_of_isDigit {cs : List Char} (h : ∀ c ∈ cs, c.isDigit = true)
    (value : Nat) : digitsValue u value cs = some (Nat.ofDigitChars 10 cs value) := by
  induction cs generalizing value with
  | nil => rfl
  | cons c cs ih =>
    obtain ⟨hdecimal, -, hne, -⟩ := isDigit_plain (u := u) (h c (by simp))
    rw [digitsValue]
    · rw [hdecimal, Option.bind_some, ih fun d hd ↦ h d (by simp [hd]), Nat.ofDigitChars_cons]
    · rintro _ _ rfl -
      exact hne rfl

private theorem natLiteral?_toDigits (n : Nat) : natLiteral? u (Nat.toDigits 10 n) = some n := by
  have hdigits : ∀ c ∈ Nat.toDigits 10 n, c.isDigit = true := fun c hc ↦
    Nat.isDigit_of_mem_toDigits (by decide) (by decide) hc
  have hvalue := digitsValue_of_isDigit (u := u) hdigits 0
  rw [Nat.ofDigitChars_ten_toDigits] at hvalue
  cases hcs : Nat.toDigits 10 n with
  | nil => exact (Nat.toDigits_ne_nil hcs).elim
  | cons c cs =>
    rw [hcs] at hvalue hdigits
    rw [digitsValue] at hvalue
    · simpa [natLiteral?] using hvalue
    · rintro _ _ rfl -
      exact (isDigit_plain (u := u) (hdigits _ (by simp))).2.2.1 rfl

private theorem toList_toString (n : Int) : ∃ m : Nat,
    n = m ∧ (toString n).toList = Nat.toDigits 10 m ∨
      n = -m ∧ (toString n).toList = '-' :: Nat.toDigits 10 m := by
  cases n with
  | ofNat m => exact ⟨m, .inl ⟨rfl, by simp [toString, Int.repr]⟩⟩
  | negSucc m => exact ⟨m + 1, .inr ⟨rfl, by simp [toString, Int.repr]⟩⟩

private theorem isDigit_of_mem_toDigits {m : Nat} {c : Char} (h : c ∈ Nat.toDigits 10 m) :
    c.isDigit = true :=
  Nat.isDigit_of_mem_toDigits (by decide) (by decide) h

/-- The text of an integer is not blank. -/
theorem strip_toString_ne (n : Int) : strip u (toString n) ≠ "" := by
  have hplain : ∀ c, c.isDigit = true ∨ c = '-' → isSpace u c = false := by
    rintro c (hc | rfl)
    · obtain ⟨-, hascii, -, -, -, -⟩ := isDigit_plain (u := u) hc
      rw [Char.isDigit, Bool.and_eq_true, decide_eq_true_eq, decide_eq_true_eq] at hc
      have hr : 48 ≤ c.toNat ∧ c.toNat ≤ 57 := ⟨hc.1, hc.2⟩
      rw [isSpace, hascii, if_pos rfl, isAsciiSpace]
      simp only [Bool.or_eq_false_iff, Bool.and_eq_false_iff, decide_eq_false_iff_not]
      omega
    · simp [isSpace, isAsciiSpace, isAsciiChar]
  have hchars : ∀ c ∈ (toString n).toList, c.isDigit = true ∨ c = '-' := by
    intro c hc
    obtain ⟨m, ⟨-, h⟩ | ⟨-, h⟩⟩ := toList_toString n
    · rw [h] at hc
      exact .inl (isDigit_of_mem_toDigits hc)
    · rw [h, List.mem_cons] at hc
      rcases hc with rfl | hc
      · exact .inr rfl
      · exact .inl (isDigit_of_mem_toDigits hc)
  rw [strip_eq_self fun c hc ↦ hplain c (hchars c hc)]
  intro hempty
  have hnil : (toString n).toList = [] := by rw [hempty]; rfl
  obtain ⟨m, ⟨-, h⟩ | ⟨-, h⟩⟩ := toList_toString n
  · exact Nat.toDigits_ne_nil (h.symm.trans hnil)
  · exact List.cons_ne_nil _ _ (h.symm.trans hnil)

/-- `int` reads back what `str` writes for an integer. -/
theorem int?_toString (n : Int) : int? u (toString n) = some n := by
  obtain ⟨m, ⟨rfl, hlist⟩ | ⟨rfl, hlist⟩⟩ := toList_toString n
  · have htrim : trim (isIntSpace u (Nat.toDigits 10 m)) (Nat.toDigits 10 m) = Nat.toDigits 10 m :=
      trim_eq_self fun c hc ↦ (isDigit_plain (isDigit_of_mem_toDigits hc)).2.2.2.2.2 _
    rw [int?, hlist, htrim]
    split
    · next heq =>
      have hdigit : '-' ∈ Nat.toDigits 10 m := by simp [heq]
      exact absurd (isDigit_of_mem_toDigits hdigit) (by decide)
    · next heq =>
      have hdigit : '+' ∈ Nat.toDigits 10 m := by simp [heq]
      exact absurd (isDigit_of_mem_toDigits hdigit) (by decide)
    · rw [natLiteral?_toDigits]
      rfl
  · have htrim : trim (isIntSpace u ('-' :: Nat.toDigits 10 m)) ('-' :: Nat.toDigits 10 m) =
        '-' :: Nat.toDigits 10 m := by
      refine trim_eq_self fun c hc ↦ ?_
      rcases List.mem_cons.mp hc with rfl | hc
      · simp [isIntSpace, isSpace, isAsciiSpace, isAsciiChar]
      · exact (isDigit_plain (isDigit_of_mem_toDigits hc)).2.2.2.2.2 _
    rw [int?, hlist, htrim]
    simp only [natLiteral?_toDigits]
    rfl

end PyStr
end FleetFlow
