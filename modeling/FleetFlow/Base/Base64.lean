import FleetFlow.Base.Errors

/-!
# Base64 text

`base64.b64encode` and `base64.b64decode` with `validate=True`. Decoding is strict: whole
groups of four, padding only in the last one, no other characters. Bits that the last digit
before the padding leaves over are ignored.
-/

namespace FleetFlow
namespace Base64

/-- The character of a six-bit digit. -/
def digit (n : Nat) : Char :=
  if n < 26 then Char.ofNat (65 + n)
  else if n < 52 then Char.ofNat (71 + n)
  else if n < 62 then Char.ofNat (n - 4)
  else if n = 62 then '+' else '/'

/-- The six-bit digit of a character. -/
def value? (c : Char) : Option Nat :=
  if c.isUpper then some (c.toNat - 65)
  else if c.isLower then some (c.toNat - 71)
  else if c.isDigit then some (c.toNat + 4)
  else if c = '+' then some 62
  else if c = '/' then some 63
  else none

/-- Four characters for three bytes, padded at the end, `base64.b64encode`. -/
def encode : List UInt8 → List Char
  | [] => []
  | [a] => [digit (a.toNat / 4), digit (a.toNat % 4 * 16), '=', '=']
  | [a, b] => [digit (a.toNat / 4), digit (a.toNat % 4 * 16 + b.toNat / 16),
      digit (b.toNat % 16 * 4), '=']
  | a :: b :: c :: rest =>
    digit (a.toNat / 4) :: digit (a.toNat % 4 * 16 + b.toNat / 16) ::
      digit (b.toNat % 16 * 4 + c.toNat / 64) :: digit (c.toNat % 64) :: encode rest

/-- The first byte of a group, from its first two digits. -/
def firstByte (x y : Nat) : UInt8 := UInt8.ofNat (x * 4 + y / 16)

/-- The second byte of a group, from its second and third digits. -/
def secondByte (y z : Nat) : UInt8 := UInt8.ofNat (y % 16 * 16 + z / 4)

/-- The third byte of a group, from its last two digits. -/
def thirdByte (z w : Nat) : UInt8 := UInt8.ofNat (z % 4 * 64 + w)

/-- The last group of four, which can carry padding. -/
def decodeLast (a b c d : Char) : Option (List UInt8) := do
  let x ← value? a
  let y ← value? b
  if c = '=' ∧ d = '=' then return [firstByte x y]
  let z ← value? c
  if d = '=' then return [firstByte x y, secondByte y z]
  let w ← value? d
  return [firstByte x y, secondByte y z, thirdByte z w]

/-- The bytes of a text in groups of four characters, `base64.b64decode` with `validate=True`. -/
def decode : List Char → Option (List UInt8)
  | [] => some []
  | [a, b, c, d] => decodeLast a b c d
  | a :: b :: c :: d :: rest => do
    let x ← value? a
    let y ← value? b
    let z ← value? c
    let w ← value? d
    let bytes ← decode rest
    return firstByte x y :: secondByte y z :: thirdByte z w :: bytes
  | _ => none

/-! ### Decoding what was encoded -/

/-- A written digit is read back, and is no padding. -/
private theorem digit_plain : ∀ n < 64, value? (digit n) = some n ∧ digit n ≠ '=' := by
  decide +kernel

private theorem toNat_lt (a : UInt8) : a.toNat < 256 := a.toNat_lt

private theorem firstByte_digits (a : UInt8) {n : Nat} (hn : n < 16) :
    firstByte (a.toNat / 4) (a.toNat % 4 * 16 + n) = a := by
  have h : a.toNat / 4 * 4 + (a.toNat % 4 * 16 + n) / 16 = a.toNat := by omega
  rw [firstByte, h, UInt8.ofNat_toNat]

private theorem secondByte_digits (m : Nat) (b : UInt8) {n : Nat} (hn : n < 4) :
    secondByte (m * 16 + b.toNat / 16) (b.toNat % 16 * 4 + n) = b := by
  have hb := toNat_lt b
  have h : (m * 16 + b.toNat / 16) % 16 * 16 + (b.toNat % 16 * 4 + n) / 4 = b.toNat := by omega
  rw [secondByte, h, UInt8.ofNat_toNat]

private theorem thirdByte_digits (m : Nat) (c : UInt8) :
    thirdByte (m * 4 + c.toNat / 64) (c.toNat % 64) = c := by
  have hc := toNat_lt c
  have h : (m * 4 + c.toNat / 64) % 4 * 64 + c.toNat % 64 = c.toNat := by omega
  rw [thirdByte, h, UInt8.ofNat_toNat]

/-- Decoding gives back the encoded bytes. -/
theorem decode_encode (bytes : List UInt8) : decode (encode bytes) = some bytes := by
  induction bytes using encode.induct with
  | case1 => rfl
  | case2 a =>
    have ha := toNat_lt a
    have hx := (digit_plain (a.toNat / 4) (by omega)).1
    have hy := (digit_plain (a.toNat % 4 * 16) (by omega)).1
    have h1 : firstByte (a.toNat / 4) (a.toNat % 4 * 16) = a :=
      firstByte_digits a (n := 0) (by decide)
    simp [encode, decode, decodeLast, hx, hy, h1]
  | case3 a b =>
    have ha := toNat_lt a
    have hb := toNat_lt b
    have hx := (digit_plain (a.toNat / 4) (by omega)).1
    have hy := (digit_plain (a.toNat % 4 * 16 + b.toNat / 16) (by omega)).1
    obtain ⟨hz, hpad⟩ := digit_plain (b.toNat % 16 * 4) (by omega)
    have h1 := firstByte_digits a (n := b.toNat / 16) (by omega)
    have h2 : secondByte (a.toNat % 4 * 16 + b.toNat / 16) (b.toNat % 16 * 4) = b :=
      secondByte_digits _ b (n := 0) (by decide)
    simp [encode, decode, decodeLast, hx, hy, hz, hpad, h1, h2]
  | case4 a b c rest ih =>
    have ha := toNat_lt a
    have hb := toNat_lt b
    have hc := toNat_lt c
    have hx := (digit_plain (a.toNat / 4) (by omega)).1
    have hy := (digit_plain (a.toNat % 4 * 16 + b.toNat / 16) (by omega)).1
    have hz := (digit_plain (b.toNat % 16 * 4 + c.toNat / 64) (by omega)).1
    obtain ⟨hw, hpad⟩ := digit_plain (c.toNat % 64) (by omega)
    have h1 := firstByte_digits a (n := b.toNat / 16) (by omega)
    have h2 := secondByte_digits (a.toNat % 4) b (n := c.toNat / 64) (by omega)
    have h3 := thirdByte_digits (b.toNat % 16) c
    rw [encode]
    -- the last group of four is read by a branch of its own
    cases hrest : encode rest with
    | nil =>
      rw [hrest] at ih
      obtain rfl : rest = [] := by simpa [decode] using ih.symm
      simp [decode, decodeLast, hx, hy, hz, hw, hpad, h1, h2, h3]
    | cons d ds =>
      rw [hrest] at ih
      simp [decode, hx, hy, hz, hw, ih, h1, h2, h3]

/-- Encoded text consists of digits and padding. -/
private theorem mem_encode {bytes : List UInt8} {c : Char} (h : c ∈ encode bytes) :
    c = '=' ∨ ∃ n < 64, c = digit n := by
  induction bytes using encode.induct with
  | case1 => simp [encode] at h
  | case2 a =>
    have ha := toNat_lt a
    simp only [encode, List.mem_cons, List.not_mem_nil, or_false] at h
    rcases h with rfl | rfl | rfl | rfl
    · exact .inr ⟨_, by omega, rfl⟩
    · exact .inr ⟨_, by omega, rfl⟩
    · exact .inl rfl
    · exact .inl rfl
  | case3 a b =>
    have ha := toNat_lt a
    have hb := toNat_lt b
    simp only [encode, List.mem_cons, List.not_mem_nil, or_false] at h
    rcases h with rfl | rfl | rfl | rfl
    · exact .inr ⟨_, by omega, rfl⟩
    · exact .inr ⟨_, by omega, rfl⟩
    · exact .inr ⟨_, by omega, rfl⟩
    · exact .inl rfl
  | case4 a b c rest ih =>
    have ha := toNat_lt a
    have hb := toNat_lt b
    have hc := toNat_lt c
    simp only [encode, List.mem_cons] at h
    rcases h with rfl | rfl | rfl | rfl | h
    · exact .inr ⟨_, by omega, rfl⟩
    · exact .inr ⟨_, by omega, rfl⟩
    · exact .inr ⟨_, by omega, rfl⟩
    · exact .inr ⟨_, by omega, rfl⟩
    · exact ih h

/-- Encoded text holds no dollar sign. -/
theorem notMem_encode (bytes : List UInt8) : '$' ∉ encode bytes := by
  intro h
  have hdigit : ∀ n < 64, '$' ≠ digit n := by decide +kernel
  rcases mem_encode h with h | ⟨n, hn, h⟩
  · exact absurd h (by decide)
  · exact hdigit n hn h

end Base64
end FleetFlow
