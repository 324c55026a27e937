import FleetFlow.Audit.Delivery

/-!
# Codecs of persisted events and their adapters

Follows `application/eventing/outbox/codec.py` and the adapters of
`application/eventing/outbox/registry.py`. The name and the versions that codecs and event classes
advertise may be any Python values. Payloads are immutable values, so a decoder is given the
payload itself for a copy of it.
-/

namespace FleetFlow.Outbox

/-- A Python value, as far as the checks of names and versions look at it. -/
inductive PyValue where
  | int (value : Int)
  | str (value : String)
  | other (typeName : String)
deriving DecidableEq, Repr

namespace PyValue

/-- The name of the type of a value, `type(value).__name__`. -/
def typeName : PyValue → String
  | .int _ => "int"
  | .str _ => "str"
  | .other typeName => typeName

/-- An integer that is no boolean; `shared/validation.py:29–44`. -/
def requireInt (value : PyValue) (fieldName : String) : Except PyError Int :=
  match value with
  | .int n => .ok n
  | value => .error ⟨.typeError, s!"{fieldName}: expected int, got {value.typeName}"⟩

/-- An integer from one on; `shared/validation.py:68–85`. -/
def requirePositiveInt (value : PyValue) (fieldName : String) : Except PyError Int := do
  let normalized ← value.requireInt fieldName
  Shared.requirePositiveInt normalized fieldName

/-- A string; `shared/validation.py:127–142`. -/
def requireStr (value : PyValue) (fieldName : String) : Except PyError String :=
  match value with
  | .str text => .ok text
  | value => .error ⟨.typeError, s!"{fieldName}: expected str, got {value.typeName}"⟩

/-- Exactly the integers from one on pass. -/
theorem requirePositiveInt_eq_ok_iff {value : PyValue} {fieldName : String} {n : Int} :
    value.requirePositiveInt fieldName = .ok n ↔ value = .int n ∧ 1 ≤ n := by
  unfold requirePositiveInt
  rw [except_bind_eq_ok_iff]
  cases value with
  | int m =>
    simp only [requireInt, Except.ok.injEq, exists_eq_left', int.injEq,
      Shared.requirePositiveInt_eq_ok_iff]
    constructor
    · rintro ⟨rfl, h⟩
      exact ⟨rfl, h⟩
    · rintro ⟨rfl, h⟩
      exact ⟨rfl, h⟩
  | str text => simp [requireInt]
  | other typeName => simp [requireInt]

end PyValue

section Names

variable (u : UnicodeTables)

/-- A name without surrounding white space; `application/eventing/outbox/registry.py:331–336`. -/
def requireEventType (value : PyValue) : Except PyError String := do
  let text ← value.requireStr "event_type"
  let normalized ← Shared.requireNonEmptyStr u text "event_type"
  require (normalized = text)
    ⟨.valueError, "event_type must not contain surrounding whitespace."⟩
  .ok normalized

variable {u}

/-- A name passes unchanged. -/
theorem requireEventType_eq_ok_iff {value : PyValue} {text : String} :
    requireEventType u value = .ok text ↔
      value = .str text ∧ PyStr.strip u text = text ∧ text ≠ "" := by
  unfold requireEventType
  rw [except_bind_eq_ok_iff]
  cases value with
  | int n => simp [PyValue.requireStr]
  | other typeName => simp [PyValue.requireStr]
  | str given =>
    simp only [PyValue.requireStr, Except.ok.injEq, exists_eq_left', except_bind_eq_ok_iff,
      Shared.requireNonEmptyStr_eq_ok_iff, ↓require_bind_eq_ok_iff, PyValue.str.injEq]
    constructor
    · rintro ⟨_, ⟨hstrip, hne⟩, rfl, rfl⟩
      exact ⟨rfl, hstrip.symm, hne⟩
    · rintro ⟨rfl, hstrip, hne⟩
      exact ⟨given, ⟨hstrip.symm, hne⟩, rfl, rfl⟩

end Names

/-! ### Contracts -/

/-- What the adapters read of event classes: `__name__` and `event_version`. -/
structure EventClasses (τ : Type) where
  name : τ → String
  eventVersion : τ → PyValue

/-- The version of a class, once it is known to be an integer. -/
def EventClasses.currentVersion {τ : Type} (classes : EventClasses τ) (eventClass : τ) : Int :=
  match classes.eventVersion eventClass with
  | .int n => n
  | _ => 0

/-- A reader of one payload version; `application/eventing/outbox/codec.py:11–45`. -/
structure EventPayloadDecoder (τ π : Type) where
  eventClass : τ
  eventType : PyValue
  eventVersion : PyValue
  decode : JsonObject → Uuid → Datetime → Datetime → Except PyError (Event τ π)

/-- A reader and writer of the current version; `application/eventing/outbox/codec.py:48–68`. -/
structure EventPayloadCodec (τ π : Type) extends EventPayloadDecoder τ π where
  encode : Event τ π → Except PyError JsonObject

/-- Equality of event dataclasses: the class and the instance fields. -/
structure SameEvent {τ π : Type} (a b : Event τ π) : Prop where
  type : a.type = b.type
  eventId : a.eventId = b.eventId
  occurredAt : a.occurredAt = b.occurredAt
  recordedAt : a.recordedAt = b.recordedAt
  payload : a.payload = b.payload

instance {τ π : Type} [DecidableEq τ] [DecidableEq π] (a b : Event τ π) :
    Decidable (SameEvent a b) :=
  decidable_of_iff (a.type = b.type ∧ a.eventId = b.eventId ∧ a.occurredAt = b.occurredAt ∧
      a.recordedAt = b.recordedAt ∧ a.payload = b.payload)
    ⟨fun ⟨h1, h2, h3, h4, h5⟩ ↦ ⟨h1, h2, h3, h4, h5⟩,
      fun ⟨h1, h2, h3, h4, h5⟩ ↦ ⟨h1, h2, h3, h4, h5⟩⟩

/-! ### Adapters -/

/-- A decoder under the wire identity captured at its registration;
`application/eventing/outbox/registry.py:66–105`. -/
structure DecoderAdapter (τ π : Type) where
  eventClass : τ
  decoder : EventPayloadDecoder τ π
  eventType : String
  eventVersion : Int

/-- A codec under its identity; `application/eventing/outbox/registry.py:150–169`. -/
structure CodecAdapter (τ π : Type) extends DecoderAdapter τ π where
  codec : EventPayloadCodec τ π

section Adapters

variable {τ π : Type} [DecidableEq τ] (u : UnicodeTables) (classes : EventClasses τ)

/-- Check what a reader advertises for a class, and adapt it;
`application/eventing/outbox/registry.py:73–90`. -/
def DecoderAdapter.new (eventClass : τ) (codec : EventPayloadDecoder τ π) :
    Except PyError (DecoderAdapter τ π) := do
  require (codec.eventClass = eventClass) ⟨.eventCodecTypeMismatch,
    s!"Codec for {classes.name codec.eventClass} cannot be registered as " ++
      s!"{classes.name eventClass}."⟩
  let eventType ← requireEventType u codec.eventType
  let eventVersion ← codec.eventVersion.requirePositiveInt "codec.event_version"
  let _ ← (classes.eventVersion eventClass).requirePositiveInt "event_class.event_version"
  .ok { eventClass, decoder := codec, eventType, eventVersion }

/-- Adapt a codec that writes the current version of its class;
`application/eventing/outbox/registry.py:153–169`. -/
def CodecAdapter.new (eventClass : τ) (codec : EventPayloadCodec τ π) :
    Except PyError (CodecAdapter τ π) := do
  let adapter ← DecoderAdapter.new u classes eventClass codec.toEventPayloadDecoder
  require (adapter.eventVersion = classes.currentVersion eventClass) ⟨.eventCodecVersionMismatch,
    s!"Current codec for {classes.name eventClass} must use version " ++
      s!"{classes.currentVersion eventClass}, got {adapter.eventVersion}."⟩
  .ok { adapter with codec }

/-- Check wire data and rebuild the event; `application/eventing/outbox/registry.py:107–147`. -/
def DecoderAdapter.decode (adapter : DecoderAdapter τ π) (payload : JsonObject) (eventId : Uuid)
    (occurredAt recordedAt : Datetime) : Except PyError (Event τ π) := do
  let validated ← requireJsonObject payload "payload"
  let event ← adapter.decoder.decode validated eventId occurredAt recordedAt
  require (event.type = adapter.eventClass) ⟨.eventCodecTypeMismatch,
    s!"Codec for {classes.name adapter.eventClass} decoded {classes.name event.type}."⟩
  require (event.eventId = eventId ∧ event.occurredAt = occurredAt ∧
      event.recordedAt = recordedAt)
    ⟨.eventCodecContract, s!"Decoder for {adapter.eventType} changed event metadata."⟩
  .ok event

/-- Write an event that reads back; `application/eventing/outbox/registry.py:171–208`. -/
def CodecAdapter.encode [DecidableEq π] (adapter : CodecAdapter τ π) (event : Event τ π) :
    Except PyError JsonObject := do
  require (event.type = adapter.eventClass) ⟨.eventCodecTypeMismatch,
    s!"Codec for {classes.name adapter.eventClass} cannot encode {classes.name event.type}."⟩
  require (event.eventVersion = adapter.eventVersion) ⟨.eventCodecVersionMismatch,
    s!"Event version no longer matches codec for {adapter.eventType}."⟩
  let encoded ← adapter.codec.encode event
  let payload ← requireJsonObject encoded "payload"
  let decoded ← adapter.toDecoderAdapter.decode classes payload event.eventId event.occurredAt
    event.recordedAt
  require (SameEvent decoded event) ⟨.eventCodecContract,
    s!"Codec for {adapter.eventType} does not preserve event data."⟩
  .ok payload

variable {u classes} {eventClass : τ}

/-- Exactly the decoders of the class with a name and a version become adapters. -/
theorem DecoderAdapter.new_eq_ok_iff {codec : EventPayloadDecoder τ π}
    {adapter : DecoderAdapter τ π} :
    DecoderAdapter.new u classes eventClass codec = .ok adapter ↔
      adapter.eventClass = eventClass ∧ adapter.decoder = codec ∧ codec.eventClass = eventClass ∧
        requireEventType u codec.eventType = .ok adapter.eventType ∧
        codec.eventVersion = .int adapter.eventVersion ∧ 1 ≤ adapter.eventVersion ∧
        ∃ n, classes.eventVersion eventClass = .int n ∧ 1 ≤ n := by
  unfold DecoderAdapter.new
  simp only [↓require_bind_eq_ok_iff, except_bind_eq_ok_iff,
    PyValue.requirePositiveInt_eq_ok_iff, Except.ok.injEq]
  constructor
  · rintro ⟨hclass, eventType, htype, eventVersion, ⟨hversion, hpos⟩, n, hn, rfl⟩
    exact ⟨rfl, rfl, hclass, htype, hversion, hpos, n, hn⟩
  · rintro ⟨rfl, rfl, hclass, htype, hversion, hpos, n, hn⟩
    exact ⟨hclass, _, htype, _, ⟨hversion, hpos⟩, n, hn, rfl⟩

/-- Exactly the codecs that become decoders of the current version become codecs. -/
theorem CodecAdapter.new_eq_ok_iff {codec : EventPayloadCodec τ π} {adapter : CodecAdapter τ π} :
    CodecAdapter.new u classes eventClass codec = .ok adapter ↔
      DecoderAdapter.new u classes eventClass codec.toEventPayloadDecoder =
          .ok adapter.toDecoderAdapter ∧
        adapter.eventVersion = classes.currentVersion eventClass ∧ adapter.codec = codec := by
  unfold CodecAdapter.new
  simp only [↓require_bind_eq_ok_iff, except_bind_eq_ok_iff, Except.ok.injEq]
  constructor
  · rintro ⟨decoder, hdecoder, hversion, rfl⟩
    exact ⟨hdecoder, hversion, rfl⟩
  · rintro ⟨hdecoder, hversion, rfl⟩
    exact ⟨adapter.toDecoderAdapter, hdecoder, hversion, rfl⟩

/-- What an adapter decodes is an event of its class with the given metadata. -/
theorem DecoderAdapter.decode_spec {adapter : DecoderAdapter τ π} {payload : JsonObject}
    {eventId : Uuid} {occurredAt recordedAt : Datetime} {event : Event τ π}
    (h : adapter.decode classes payload eventId occurredAt recordedAt = .ok event) :
    event.type = adapter.eventClass ∧ event.eventId = eventId ∧ event.occurredAt = occurredAt ∧
      event.recordedAt = recordedAt := by
  unfold DecoderAdapter.decode at h
  simp only [except_bind_eq_ok_iff, ↓require_bind_eq_ok_iff, Except.ok.injEq] at h
  obtain ⟨_, -, decoded, -, htype, ⟨hid, hoccurred, hrecorded⟩, rfl⟩ := h
  exact ⟨htype, hid, hoccurred, hrecorded⟩

/-- An encoded payload is a JSON object that the same adapter decodes to the event. -/
theorem CodecAdapter.decode_of_encode [DecidableEq π] {adapter : CodecAdapter τ π}
    {event : Event τ π} {payload : JsonObject} (h : adapter.encode classes event = .ok payload) :
    requireJsonObject payload "payload" = .ok payload ∧ ∃ decoded,
      adapter.toDecoderAdapter.decode classes payload event.eventId event.occurredAt
        event.recordedAt = .ok decoded ∧ SameEvent decoded event := by
  unfold CodecAdapter.encode at h
  simp only [except_bind_eq_ok_iff, ↓require_bind_eq_ok_iff, Except.ok.injEq] at h
  obtain ⟨-, -, encoded, -, checked, hvalid, decoded, hdecoded, hsame, rfl⟩ := h
  obtain ⟨rfl, -⟩ := requireJsonObject_eq_ok_iff.mp hvalid
  exact ⟨hvalid, decoded, hdecoded, hsame⟩

end Adapters
end FleetFlow.Outbox
