import FleetFlow.Base.Shared
import FleetFlow.Base.IsoFormat

/-!
# Codecs of JSON payloads

A payload is an object with a fixed set of named fields. A value codec says how one field is
written and how it is checked and read under its name; a payload codec reads fields from left to
right. Their laws say that valid values come back from what was written, and that only valid ones
are read.
-/

namespace FleetFlow

/-! ### Values -/

/-- How a value stands in a payload. It is read with the name of its field for the messages. -/
structure ValueCodec (α : Type) where
  encode : α → Json
  decode : String → Json → Except PyError α
  Valid : α → Prop

/-- The valid values are those that come back, and JSON can hold them. -/
class ValueCodec.Lawful {α : Type} (codec : ValueCodec α) : Prop where
  decode_encode : ∀ {a : α}, codec.Valid a →
    ∀ name, codec.decode name (codec.encode a) = .ok a
  valid_of_decode : ∀ {name : String} {value : Json} {a : α},
    codec.decode name value = .ok a → codec.Valid a
  validateValue : ∀ {a : α}, codec.Valid a →
    ∀ name, Json.validateValue name (codec.encode a) = .ok ()

/-- No value is written as null. -/
class ValueCodec.NonNull {α : Type} (codec : ValueCodec α) : Prop where
  encode_ne_null : ∀ a, codec.encode a ≠ .null

/-- Members of a string enumeration and their texts. -/
structure TextEnum (α : Type) where
  className : String
  members : List α
  text : α → String
  find?_text : ∀ a, members.find? (text · == text a) = some a

namespace ValueCodec

variable {α : Type}

/-- An integer from one on; `shared/validation.py:68–85`. -/
def positiveInt : ValueCodec Int where
  encode := .int
  decode name value := value.requirePositiveInt name
  Valid n := 1 ≤ n

/-- An integer from zero on; `shared/validation.py:107–124`. -/
def nonNegativeInt : ValueCodec Int where
  encode := .int
  decode name value := value.requireNonNegativeInt name
  Valid n := 0 ≤ n

/-- A number of things, which no negative integer is. -/
def count : ValueCodec Nat where
  encode n := .int n
  decode name value := do
    let n ← value.requireNonNegativeInt name
    .ok n.toNat
  Valid _ := True

/-- A string; `shared/validation.py:127–142`. -/
def str : ValueCodec String where
  encode := .str
  decode name value := value.requireStr name
  Valid _ := True

/-- A string or null; `shared/validation.py:145–162`. -/
def optionalStr : ValueCodec (Option String) where
  encode text := (text.map Json.str).getD .null
  decode name value := value.requireOptionalStr name
  Valid _ := True

/-- A finite number above zero; `shared/validation.py:431–451`. -/
def positiveFiniteFloat : ValueCodec Rat where
  encode x := .float (.finite x)
  decode name value := value.requirePositiveFiniteFloat name
  Valid x := 0 < x

/-- Written by `datetime.isoformat`, read by `shared/json_deserialization.py:64–87`. -/
def naiveDatetime : ValueCodec Datetime where
  encode t := .str t.isoformat
  decode name value := do
    let text ← value.requireStr name
    match fromisoformat text with
    | some (.naive t) => .ok t
    | some .aware => .error ⟨.valueError, s!"{name} must be timezone-naive."⟩
    | none => .error ⟨.valueError, s!"{name}: expected ISO-formatted datetime."⟩
  Valid _ := True

/-- A member by its text; `shared/json_deserialization.py:15–36, 39–61`, with the word `kind` for
what the text is. -/
def member (u : UnicodeTables) (kind : String) (members : TextEnum α) :
    ValueCodec α where
  encode a := .str (members.text a)
  decode name value := do
    let text ← value.requireStr name
    match members.members.find? (members.text · == text) with
    | some a => .ok a
    | none => .error ⟨.valueError,
        s!"{name}: unknown {members.className} {kind} " ++ PyStr.repr u text ++ "."⟩
  Valid _ := True

/-- A value where there is one. -/
def decodeOptional (codec : ValueCodec α) (name : String) : Json → Except PyError (Option α)
  | .null => .ok none
  | value => do
    let a ← codec.decode name value
    .ok (some a)

/-- A value or null; `shared/validation.py:88–104`, `shared/json_deserialization.py:90–108`. -/
def optional (codec : ValueCodec α) : ValueCodec (Option α) where
  encode a := (a.map codec.encode).getD .null
  decode := codec.decodeOptional
  Valid a := ∀ b ∈ a, codec.Valid b

/-- Items from an index on, each under its index. -/
def decodeItems (codec : ValueCodec α) (name : String) (index : Nat) :
    List Json → Except PyError (List α)
  | [] => .ok []
  | item :: rest => do
    let a ← codec.decode (s!"{name}[" ++ toString index ++ "]") item
    let as ← decodeItems codec name (index + 1) rest
    .ok (a :: as)

/-- A list of values, for example `codecs/startup.py:95–100`. -/
def list (codec : ValueCodec α) : ValueCodec (List α) where
  encode as := .arr (as.map codec.encode)
  decode name value := do
    let items ← value.requireList name
    decodeItems codec name 0 items
  Valid as := ∀ a ∈ as, codec.Valid a

/-! #### Laws -/

instance : positiveInt.NonNull := ⟨fun _ ↦ by simp [positiveInt]⟩
instance : str.NonNull := ⟨fun _ ↦ by simp [str]⟩
instance : naiveDatetime.NonNull := ⟨fun _ ↦ by simp [naiveDatetime]⟩

instance {u : UnicodeTables} {kind : String} {members : TextEnum α} :
    (member u kind members).NonNull := ⟨fun _ ↦ by simp [member]⟩

instance : positiveInt.Lawful where
  decode_encode h _ := Json.requirePositiveInt_eq_ok_iff.mpr ⟨rfl, h⟩
  valid_of_decode h := (Json.requirePositiveInt_eq_ok_iff.mp h).2
  validateValue _ _ := by rw [positiveInt, Json.validateValue]

instance : nonNegativeInt.Lawful where
  decode_encode h _ := Json.requireNonNegativeInt_eq_ok_iff.mpr ⟨rfl, h⟩
  valid_of_decode h := (Json.requireNonNegativeInt_eq_ok_iff.mp h).2
  validateValue _ _ := by rw [nonNegativeInt, Json.validateValue]

instance : count.Lawful where
  decode_encode {n} _ name := by
    have hn : Json.requireNonNegativeInt (.int n) name = .ok n :=
      Json.requireNonNegativeInt_eq_ok_iff.mpr ⟨rfl, Int.natCast_nonneg n⟩
    dsimp only [count]
    rw [hn, ok_bind, Int.toNat_natCast]
  valid_of_decode _ := trivial
  validateValue _ _ := by rw [count, Json.validateValue]

instance : str.Lawful where
  decode_encode _ _ := rfl
  valid_of_decode _ := trivial
  validateValue _ _ := by rw [str, Json.validateValue]

instance : optionalStr.Lawful where
  decode_encode {text} _ _ := by cases text <;> rfl
  valid_of_decode _ := trivial
  validateValue {text} _ _ := by cases text <;> simp [optionalStr, Json.validateValue]

instance : positiveFiniteFloat.Lawful where
  decode_encode {x} h name := by
    have hx : Json.requireFiniteFloat (.float (.finite x)) name = .ok x := rfl
    show Json.requirePositiveFiniteFloat (.float (.finite x)) name = .ok x
    rw [Json.requirePositiveFiniteFloat, hx, ok_bind, require_bind_eq_ok_iff]
    exact ⟨h, rfl⟩
  valid_of_decode {name value x} h := by
    have hread : value.requirePositiveFiniteFloat name = .ok x := h
    rw [Json.requirePositiveFiniteFloat] at hread
    obtain ⟨y, -, hy⟩ := except_bind_eq_ok_iff.mp hread
    obtain ⟨hpos, heq⟩ := require_bind_eq_ok_iff.mp hy
    exact Except.ok.inj heq ▸ hpos
  validateValue _ _ := by rw [positiveFiniteFloat, Json.validateValue]

instance : naiveDatetime.Lawful where
  decode_encode {t} _ name := by
    dsimp only [naiveDatetime, Json.requireStr]
    rw [ok_bind, Datetime.fromisoformat_isoformat]
  valid_of_decode _ := trivial
  validateValue _ _ := by rw [naiveDatetime, Json.validateValue]

instance {u : UnicodeTables} {kind : String} {members : TextEnum α} :
    (member u kind members).Lawful where
  decode_encode {a} _ name := by
    dsimp only [member, Json.requireStr]
    rw [ok_bind, members.find?_text a]
  valid_of_decode _ := trivial
  validateValue _ _ := by rw [member, Json.validateValue]

variable {codec : ValueCodec α}

theorem decodeOptional_of_ne_null {name : String} {value : Json} (h : value ≠ .null) :
    codec.decodeOptional name value = codec.decode name value >>= fun a ↦ .ok (some a) := by
  cases value <;> first | rfl | exact absurd rfl h

instance [codec.Lawful] [codec.NonNull] : codec.optional.Lawful where
  decode_encode {a} h name := by
    cases a with
    | none => rfl
    | some b =>
      dsimp only [optional, Option.map_some, Option.getD_some]
      rw [decodeOptional_of_ne_null (NonNull.encode_ne_null b),
        Lawful.decode_encode (h b rfl) name, ok_bind]
  valid_of_decode {name value a} h := by
    by_cases hnull : value = .null
    · subst hnull
      obtain rfl := Except.ok.inj h
      exact fun _ hb ↦ by cases hb
    · have hread : codec.decodeOptional name value = .ok a := h
      rw [decodeOptional_of_ne_null hnull, except_bind_eq_ok_iff] at hread
      obtain ⟨b, hb, heq⟩ := hread
      intro b' hb'
      obtain rfl : b = b' := Option.some.inj ((Except.ok.inj heq).trans hb')
      exact Lawful.valid_of_decode hb
  validateValue {a} h name := by
    cases a with
    | none => simp [optional, Json.validateValue]
    | some b => exact Lawful.validateValue (h b rfl) name

/-- Valid items come back. -/
private theorem decodeItems_map [codec.Lawful] {as : List α} (h : ∀ a ∈ as, codec.Valid a)
    (name : String) (index : Nat) :
    codec.decodeItems name index (as.map codec.encode) = .ok as := by
  induction as generalizing index with
  | nil => rfl
  | cons a rest ih =>
    rw [List.map_cons, decodeItems, Lawful.decode_encode (h a List.mem_cons_self), ok_bind,
      ih (fun b hb ↦ h b (List.mem_cons_of_mem _ hb)), ok_bind]

/-- Only valid items are read. -/
private theorem valid_of_decodeItems [codec.Lawful] {name : String} {index : Nat}
    {items : List Json} {as : List α} (h : codec.decodeItems name index items = .ok as) :
    ∀ a ∈ as, codec.Valid a := by
  induction items generalizing index as with
  | nil =>
    obtain rfl := Except.ok.inj h
    exact fun _ ha ↦ by cases ha
  | cons item rest ih =>
    simp only [decodeItems, except_bind_eq_ok_iff, Except.ok.injEq] at h
    obtain ⟨a, ha, as', has, rfl⟩ := h
    exact List.forall_mem_cons.mpr ⟨Lawful.valid_of_decode ha, ih has⟩

/-- JSON can hold valid items. -/
private theorem validateItems_map [codec.Lawful] {as : List α} (h : ∀ a ∈ as, codec.Valid a)
    (name : String) (index : Nat) :
    Json.validateItems name index (as.map codec.encode) = .ok () := by
  induction as generalizing index with
  | nil => simp [Json.validateItems]
  | cons a rest ih =>
    rw [List.map_cons, Json.validateItems, Lawful.validateValue (h a List.mem_cons_self), ok_bind]
    exact ih (fun b hb ↦ h b (List.mem_cons_of_mem _ hb)) _

instance [codec.Lawful] : codec.list.Lawful where
  decode_encode h name := by
    dsimp only [list, Json.requireList]
    rw [ok_bind]
    exact decodeItems_map h name 0
  valid_of_decode h := by
    obtain ⟨items, -, hitems⟩ := except_bind_eq_ok_iff.mp h
    exact valid_of_decodeItems hitems
  validateValue h name := by
    rw [list, Json.validateValue]
    exact validateItems_map h name 0

end ValueCodec

/-! ### Payloads -/

/-- How a record stands in an object. -/
structure PayloadCodec (α : Type) where
  keys : List String
  encode : α → JsonObject
  decode : JsonObject → Except PyError α
  Valid : α → Prop

/-- The valid records are those that come back from an object with exactly their fields. Reading
looks at these fields only. -/
class PayloadCodec.Lawful {α : Type} (codec : PayloadCodec α) : Prop where
  map_fst_encode : ∀ a, (codec.encode a).map Prod.fst = codec.keys
  decode_congr : ∀ {fields fields' : JsonObject},
    (∀ key ∈ codec.keys, Json.get? fields key = Json.get? fields' key) →
      codec.decode fields = codec.decode fields'
  decode_encode : codec.keys.Nodup → ∀ {a : α}, codec.Valid a →
    codec.decode (codec.encode a) = .ok a
  valid_of_decode : ∀ {fields : JsonObject} {a : α}, codec.decode fields = .ok a → codec.Valid a
  validateFields : ∀ {a : α}, codec.Valid a →
    ∀ name, Json.validateFields name (codec.encode a) = .ok ()

namespace PayloadCodec

variable {α β : Type}

/-- One field. -/
def field (name : String) (codec : ValueCodec α) : PayloadCodec α where
  keys := [name]
  encode a := [(name, codec.encode a)]
  decode fields := do
    let value ← Json.item fields name
    codec.decode name value
  Valid := codec.Valid

/-- Some fields and then others. -/
def and (first : PayloadCodec α) (second : PayloadCodec β) :
    PayloadCodec (α × β) where
  keys := first.keys ++ second.keys
  encode ab := first.encode ab.1 ++ second.encode ab.2
  decode fields := do
    let a ← first.decode fields
    let b ← second.decode fields
    .ok (a, b)
  Valid ab := first.Valid ab.1 ∧ second.Valid ab.2

/-- A record built from its fields. What is built has the parts it was built from. -/
def as (codec : PayloadCodec α) (build : α → β) (parts : β → α)
    (_parts_build : ∀ a, parts (build a) = a) : PayloadCodec β where
  keys := codec.keys
  encode b := codec.encode (parts b)
  decode fields := do
    let a ← codec.decode fields
    .ok (build a)
  Valid b := build (parts b) = b ∧ codec.Valid (parts b)

/-- A record that its constructor checks. -/
def checked (codec : PayloadCodec α) (check : α → Except PyError Unit) :
    PayloadCodec α where
  keys := codec.keys
  encode := codec.encode
  decode fields := do
    let a ← codec.decode fields
    check a
    .ok a
  Valid a := codec.Valid a ∧ check a = .ok ()

/-! #### Laws -/

@[simp] theorem keys_field {name : String} {codec : ValueCodec α} :
    (field name codec).keys = [name] := rfl

@[simp] theorem keys_and {first : PayloadCodec α} {second : PayloadCodec β} :
    (first.and second).keys = first.keys ++ second.keys := rfl

@[simp] theorem keys_as {codec : PayloadCodec α} {build : α → β} {parts : β → α}
    {hparts : ∀ a, parts (build a) = a} : (codec.as build parts hparts).keys = codec.keys := rfl

@[simp] theorem keys_checked {codec : PayloadCodec α} {check : α → Except PyError Unit} :
    (codec.checked check).keys = codec.keys := rfl

/-- A key of the first object is looked up there. -/
theorem get?_append_left {fields fields' : JsonObject} {key : String}
    (h : key ∈ fields.map Prod.fst) :
    Json.get? (fields ++ fields') key = Json.get? fields key := by
  induction fields with
  | nil => cases h
  | cons entry rest ih =>
    obtain ⟨name, value⟩ := entry
    simp only [Json.get?, List.cons_append, List.lookup_cons] at ih ⊢
    by_cases hkey : key = name
    · simp [hkey]
    · rw [beq_eq_false_iff_ne.mpr hkey]
      refine ih ?_
      rw [List.map_cons, List.mem_cons] at h
      exact h.resolve_left hkey

/-- A key that the first object does not have is looked up in the second one. -/
theorem get?_append_right {fields fields' : JsonObject} {key : String}
    (h : key ∉ fields.map Prod.fst) :
    Json.get? (fields ++ fields') key = Json.get? fields' key := by
  induction fields with
  | nil => rfl
  | cons entry rest ih =>
    obtain ⟨name, value⟩ := entry
    rw [List.map_cons, List.mem_cons, not_or] at h
    simp only [Json.get?, List.cons_append, List.lookup_cons] at ih ⊢
    rw [beq_eq_false_iff_ne.mpr h.1]
    exact ih h.2

theorem validateFields_append {name : String} {fields fields' : JsonObject} :
    Json.validateFields name (fields ++ fields') = .ok () ↔
      Json.validateFields name fields = .ok () ∧ Json.validateFields name fields' = .ok () := by
  induction fields with
  | nil => simp [Json.validateFields]
  | cons entry rest ih =>
    obtain ⟨key, value⟩ := entry
    simp only [List.cons_append, Json.validateFields, check_bind_eq_ok_iff, ih, and_assoc]

instance {name : String} {codec : ValueCodec α} [codec.Lawful] : (field name codec).Lawful where
  map_fst_encode _ := rfl
  decode_congr {fields fields'} h := by
    have hget := h name (List.mem_singleton.mpr rfl)
    simp only [field, Json.item, hget]
  decode_encode _ a ha := by
    have hitem : Json.item [(name, codec.encode a)] name = .ok (codec.encode a) := by
      simp [Json.item, Json.get?]
    show (Json.item [(name, codec.encode a)] name >>= codec.decode name) = .ok a
    rw [hitem, ok_bind]
    exact ValueCodec.Lawful.decode_encode ha name
  valid_of_decode h := by
    obtain ⟨value, -, hvalue⟩ := except_bind_eq_ok_iff.mp h
    exact ValueCodec.Lawful.valid_of_decode hvalue
  validateFields h name' := by
    simp only [field, Json.validateFields, check_bind_eq_ok_iff, and_true]
    exact ValueCodec.Lawful.validateValue h _

instance {first : PayloadCodec α} {second : PayloadCodec β} [first.Lawful] [second.Lawful] :
    (first.and second).Lawful where
  map_fst_encode ab := by
    dsimp only [PayloadCodec.and]
    rw [List.map_append, Lawful.map_fst_encode, Lawful.map_fst_encode]
  decode_congr {fields fields'} h := by
    have hfirst : first.decode fields = first.decode fields' :=
      Lawful.decode_congr fun key hkey ↦ h key (List.mem_append_left _ hkey)
    have hsecond : second.decode fields = second.decode fields' :=
      Lawful.decode_congr fun key hkey ↦ h key (List.mem_append_right _ hkey)
    simp only [PayloadCodec.and, hfirst, hsecond]
  decode_encode hkeys ab hab := by
    obtain ⟨hnodup, hnodup', hapart⟩ := List.nodup_append.mp hkeys
    have hfirst : first.decode (first.encode ab.1 ++ second.encode ab.2) = .ok ab.1 := by
      rw [← Lawful.decode_encode hnodup hab.1]
      refine Lawful.decode_congr fun key hkey ↦ get?_append_left ?_
      rwa [Lawful.map_fst_encode]
    have hsecond : second.decode (first.encode ab.1 ++ second.encode ab.2) = .ok ab.2 := by
      rw [← Lawful.decode_encode hnodup' hab.2]
      refine Lawful.decode_congr fun key hkey ↦ get?_append_right ?_
      rw [Lawful.map_fst_encode]
      exact fun hmem ↦ hapart key hmem key hkey rfl
    dsimp only [PayloadCodec.and]
    rw [hfirst, ok_bind, hsecond, ok_bind]
  valid_of_decode h := by
    simp only [PayloadCodec.and, except_bind_eq_ok_iff, Except.ok.injEq] at h
    obtain ⟨a, ha, b, hb, rfl⟩ := h
    exact ⟨Lawful.valid_of_decode ha, Lawful.valid_of_decode hb⟩
  validateFields h name :=
    validateFields_append.mpr ⟨Lawful.validateFields h.1 name, Lawful.validateFields h.2 name⟩

instance {codec : PayloadCodec α} [codec.Lawful] {build : α → β} {parts : β → α}
    {hparts : ∀ a, parts (build a) = a} : (codec.as build parts hparts).Lawful where
  map_fst_encode b := Lawful.map_fst_encode (parts b)
  decode_congr {fields fields'} h := by
    have hread : codec.decode fields = codec.decode fields' := Lawful.decode_congr h
    simp only [as, hread]
  decode_encode hkeys b hb := by
    have hnodup : codec.keys.Nodup := hkeys
    have hread : codec.decode (codec.encode (parts b)) = .ok (parts b) :=
      Lawful.decode_encode hnodup hb.2
    dsimp only [as]
    rw [hread, ok_bind, hb.1]
  valid_of_decode h := by
    simp only [as, except_bind_eq_ok_iff, Except.ok.injEq] at h
    obtain ⟨a, ha, rfl⟩ := h
    refine ⟨congrArg build (hparts a), ?_⟩
    rw [hparts]
    exact Lawful.valid_of_decode ha
  validateFields h name := Lawful.validateFields h.2 name

instance {codec : PayloadCodec α} [codec.Lawful] {check : α → Except PyError Unit} :
    (codec.checked check).Lawful where
  map_fst_encode a := @Lawful.map_fst_encode _ codec _ a
  decode_congr {fields fields'} h := by
    have hread : codec.decode fields = codec.decode fields' := Lawful.decode_congr h
    simp only [checked, hread]
  decode_encode hkeys a ha := by
    have hnodup : codec.keys.Nodup := hkeys
    have hread : codec.decode (codec.encode a) = .ok a := Lawful.decode_encode hnodup ha.1
    dsimp only [checked]
    rw [hread, ok_bind, ha.2, ok_bind]
  valid_of_decode h := by
    simp only [checked, except_bind_eq_ok_iff, Except.ok.injEq] at h
    obtain ⟨a, ha, _, hcheck, rfl⟩ := h
    exact ⟨Lawful.valid_of_decode ha, hcheck⟩
  validateFields h name := Lawful.validateFields h.1 name

/-! #### Exact fields -/

/-- The texts of a set in order, as `sorted` shows them. -/
def sortedTexts (u : UnicodeTables) (texts : List String) : String :=
  "[" ++ ", ".intercalate ((texts.dedup.mergeSort fun a b ↦ decide (a ≤ b)).map (PyStr.repr u)) ++
    "]"

/-- An object has exactly the given fields; `shared/json_validation.py:9–28`. -/
def requireJsonObjectKeys (u : UnicodeTables) (value : JsonObject) (expectedKeys : List String) :
    Except PyError Unit := do
  let keys := value.map Prod.fst
  let unexpectedKeys := keys.filter (· ∉ expectedKeys)
  require (unexpectedKeys = [])
    ⟨.valueError, "Unexpected fields: " ++ sortedTexts u unexpectedKeys⟩
  let missingKeys := expectedKeys.filter (· ∉ keys)
  require (missingKeys = []) ⟨.valueError, "Missing fields: " ++ sortedTexts u missingKeys⟩

theorem requireJsonObjectKeys_eq_ok_iff {u : UnicodeTables} {value : JsonObject}
    {expectedKeys : List String} : requireJsonObjectKeys u value expectedKeys = .ok () ↔
      ∀ key, key ∈ value.map Prod.fst ↔ key ∈ expectedKeys := by
  simp only [requireJsonObjectKeys, check_bind_eq_ok_iff, require_eq_ok_iff,
    List.filter_eq_nil_iff, decide_eq_true_eq, not_not]
  constructor
  · exact fun h key ↦ ⟨h.1 key, h.2 key⟩
  · exact fun h ↦ ⟨fun key ↦ (h key).mp, fun key ↦ (h key).mpr⟩

/-- Reading an object with exactly the fields of the codec. -/
def decodeExact (u : UnicodeTables) (codec : PayloadCodec α) (fields : JsonObject) :
    Except PyError α := do
  requireJsonObjectKeys u fields codec.keys
  codec.decode fields

variable {u : UnicodeTables} {codec : PayloadCodec α}

theorem decodeExact_eq_ok_iff {fields : JsonObject} {a : α} :
    codec.decodeExact u fields = .ok a ↔
      (∀ key, key ∈ fields.map Prod.fst ↔ key ∈ codec.keys) ∧ codec.decode fields = .ok a := by
  unfold decodeExact
  rw [check_bind_eq_ok_iff, requireJsonObjectKeys_eq_ok_iff]

/-- Exactly the valid records come back from what is written. -/
theorem decodeExact_encode_iff [codec.Lawful] (hkeys : codec.keys.Nodup) {a : α} :
    codec.decodeExact u (codec.encode a) = .ok a ↔ codec.Valid a := by
  rw [decodeExact_eq_ok_iff, Lawful.map_fst_encode]
  constructor
  · exact fun h ↦ Lawful.valid_of_decode h.2
  · exact fun h ↦ ⟨fun _ ↦ Iff.rfl, Lawful.decode_encode hkeys h⟩

end PayloadCodec
end FleetFlow
