import FleetFlow.Outbox.Codecs

/-!
# The registry of event codecs

Follows `EventOutboxCodecRegistry` of `application/eventing/outbox/registry.py`. Two indexes hold
references to adapter objects: one finds the encoder of a class, the other a reader of a persisted
identity. After any calls they tell the same story about the calls that returned, in which the
order of these does not matter.
-/

namespace FleetFlow.Outbox

open Program

/-- An object: what it holds, and the number that tells it from every other object. -/
structure Object (α : Type) where
  handle : Nat
  value : α
deriving DecidableEq

/-- The same object under a wider type. -/
def Object.map {α β : Type} (f : α → β) (o : Object α) : Object β := ⟨o.handle, f o.value⟩

theorem Object.map_value_eq_some_iff {α : Type} {x : Option (Object α)} {a : α} :
    x.map Object.value = some a ↔ ∃ handle, x = some ⟨handle, a⟩ := by
  constructor
  · intro h
    obtain ⟨o, rfl, rfl⟩ := Option.map_eq_some_iff.mp h
    exact ⟨o.handle, rfl⟩
  · rintro ⟨handle, rfl⟩
    rfl

/-- The entry that a lookup finds, or what a missing one raises. -/
def resolve {α : Type} (entry : Option α) (message : String) : Except PyError α :=
  match entry with
  | some a => .ok a
  | none => .error ⟨.eventCodecNotFound, message⟩

theorem resolve_eq_ok_iff {α : Type} {entry : Option α} {message : String} {a : α} :
    resolve entry message = .ok a ↔ entry = some a := by
  cases entry <;> simp [resolve]

/-- Entries with the same content are found alike. -/
theorem map_resolve_congr {α : Type} {x y : Option (Object α)} {message : String}
    (h : x.map Object.value = y.map Object.value) :
    (resolve x message).map Object.value = (resolve y message).map Object.value := by
  cases x with
  | none =>
    obtain rfl := Option.map_eq_none_iff.mp h.symm
    rfl
  | some o =>
    obtain ⟨o', rfl, heq⟩ := Option.map_eq_some_iff.mp h.symm
    exact congrArg Except.ok heq.symm

/-- What is found under an identity: a reader, or an encoder that reads as well;
`application/eventing/outbox/registry.py:27–63`. -/
inductive ErasedEventPayloadDecoder (τ π : Type) where
  | decoder (adapter : DecoderAdapter τ π)
  | codec (adapter : CodecAdapter τ π)

namespace ErasedEventPayloadDecoder

variable {τ π : Type}

/-- The adapter as a reader. -/
def toDecoderAdapter : ErasedEventPayloadDecoder τ π → DecoderAdapter τ π
  | .decoder adapter => adapter
  | .codec adapter => adapter.toDecoderAdapter

/-- The persisted identity of an adapter. -/
def identity (adapter : ErasedEventPayloadDecoder τ π) : String × Int :=
  (adapter.toDecoderAdapter.eventType, adapter.toDecoderAdapter.eventVersion)

end ErasedEventPayloadDecoder

/-- `application/eventing/outbox/registry.py:211–222`; `created` numbers the adapter objects. -/
structure EventOutboxCodecRegistry (τ π : Type) where
  created : Nat
  codecsByEventClass : Dict τ (Object (CodecAdapter τ π))
  codecsByIdentity : Dict (String × Int) (Object (ErasedEventPayloadDecoder τ π))

/-- A call on the registry. -/
abbrev RegistryAction (τ π α : Type) := Program PyError (EventOutboxCodecRegistry τ π) α

/-- One registration, of a current codec or of a historical reader. -/
inductive RegistryCall (τ π : Type) where
  | register (eventClass : τ) (codec : EventPayloadCodec τ π)
  | registerDecoder (eventClass : τ) (decoder : EventPayloadDecoder τ π)

namespace EventOutboxCodecRegistry

variable {τ π : Type}

/-- A new registry; `application/eventing/outbox/registry.py:219–222`. -/
def empty : EventOutboxCodecRegistry τ π := ⟨0, .empty, .empty⟩

/-- The number of a new adapter object. -/
def allocate : RegistryAction τ π Nat := do
  let registry ← get
  set { registry with created := registry.created + 1 }
  pure registry.created

variable [DecidableEq τ] (u : UnicodeTables) (classes : EventClasses τ)

/-- What a taken identity raises. -/
def duplicateIdentity (identity : String × Int) : PyError :=
  ⟨.duplicateEventCodec, "Codec already registered for event identity " ++
    s!"({PyStr.repr u identity.1}, {identity.2})."⟩

/-- Make the current codec of a class the encoder of its events and the reader of its identity;
`application/eventing/outbox/registry.py:224–264`. -/
def register (eventClass : τ) (codec : EventPayloadCodec τ π) : RegistryAction τ π PUnit := do
  let handle ← allocate
  let erasedCodec ← Program.lift (CodecAdapter.new u classes eventClass codec)
  let identity := (erasedCodec.eventType, erasedCodec.eventVersion)
  let registry ← get
  Program.lift (require (¬ registry.codecsByEventClass.contains eventClass)
    ⟨.duplicateEventCodec, s!"Codec already registered for {classes.name eventClass}."⟩)
  Program.lift (require (¬ registry.codecsByIdentity.contains identity)
    (duplicateIdentity u identity))
  modify fun registry ↦ { registry with
    codecsByEventClass := registry.codecsByEventClass.set eventClass ⟨handle, erasedCodec⟩ }
  modify fun registry ↦ { registry with
    codecsByIdentity := registry.codecsByIdentity.set identity ⟨handle, .codec erasedCodec⟩ }

/-- Make a reader of an older version the reader of its identity;
`application/eventing/outbox/registry.py:266–293`. -/
def registerDecoder (eventClass : τ) (decoder : EventPayloadDecoder τ π) :
    RegistryAction τ π PUnit := do
  let handle ← allocate
  let adapter ← Program.lift (DecoderAdapter.new u classes eventClass decoder)
  Program.lift (require (adapter.eventVersion < classes.currentVersion eventClass)
    ⟨.eventCodecVersionMismatch, s!"Historical decoder for {classes.name eventClass} must " ++
      s!"precede version {classes.currentVersion eventClass}."⟩)
  let identity := (adapter.eventType, adapter.eventVersion)
  let registry ← get
  Program.lift (require (¬ registry.codecsByIdentity.contains identity)
    (duplicateIdentity u identity))
  modify fun registry ↦ { registry with
    codecsByIdentity := registry.codecsByIdentity.set identity ⟨handle, .decoder adapter⟩ }

/-- The codec that writes an event; `application/eventing/outbox/registry.py:295–308`. -/
def forEvent (registry : EventOutboxCodecRegistry τ π) (event : Event τ π) :
    Except PyError (Object (CodecAdapter τ π)) :=
  resolve (registry.codecsByEventClass.get? event.type)
    s!"No codec registered for event type {classes.name event.type}."

omit [DecidableEq τ] in
/-- The reader of a name and a version; `application/eventing/outbox/registry.py:310–328`. -/
def forIdentity (registry : EventOutboxCodecRegistry τ π) (eventType eventVersion : PyValue) :
    Except PyError (Object (ErasedEventPayloadDecoder τ π)) := do
  let eventType ← requireEventType u eventType
  let eventVersion ← eventVersion.requirePositiveInt "event_version"
  resolve (registry.codecsByIdentity.get? (eventType, eventVersion))
    ("No codec registered for event identity " ++ s!"({PyStr.repr u eventType}, {eventVersion}).")

/-! ### Runs -/

/-- Make one call. -/
def perform : RegistryCall τ π → RegistryAction τ π PUnit
  | .register eventClass codec => register u classes eventClass codec
  | .registerDecoder eventClass decoder => registerDecoder u classes eventClass decoder

/-- The registry after calls, whether they returned or raised. -/
def run (registry : EventOutboxCodecRegistry τ π) (calls : List (RegistryCall τ π)) :
    EventOutboxCodecRegistry τ π :=
  calls.foldl (fun registry call ↦ (perform u classes call).finalState registry) registry

/-- The calls that returned. -/
def accepted (registry : EventOutboxCodecRegistry τ π) :
    List (RegistryCall τ π) → List (RegistryCall τ π)
  | [] => []
  | call :: rest =>
    let later := accepted ((perform u classes call).finalState registry) rest
    if (perform u classes call).raisesIn registry fun _ ↦ true then later else call :: later

end EventOutboxCodecRegistry

/-! ### What a call enters -/

section Calls

variable {τ π : Type} [DecidableEq τ] (u : UnicodeTables) (classes : EventClasses τ)

/-- The adapter that a call makes, if its arguments pass. -/
def RegistryCall.adapter : RegistryCall τ π → Except PyError (ErasedEventPayloadDecoder τ π)
  | .register eventClass codec => do
    let adapter ← CodecAdapter.new u classes eventClass codec
    .ok (.codec adapter)
  | .registerDecoder eventClass decoder => do
    let adapter ← DecoderAdapter.new u classes eventClass decoder
    require (adapter.eventVersion < classes.currentVersion eventClass)
      ⟨.eventCodecVersionMismatch, s!"Historical decoder for {classes.name eventClass} must " ++
        s!"precede version {classes.currentVersion eventClass}."⟩
    .ok (.decoder adapter)

/-- An adapter with a canonical name and a version that its role allows. -/
structure ErasedEventPayloadDecoder.Admitted (adapter : ErasedEventPayloadDecoder τ π) : Prop where
  eventType : requireEventType u (.str adapter.toDecoderAdapter.eventType) =
    .ok adapter.toDecoderAdapter.eventType
  positive : 1 ≤ adapter.toDecoderAdapter.eventVersion
  current : ∀ codec, adapter = .codec codec →
    classes.eventVersion codec.eventClass = .int codec.eventVersion
  older : ∀ decoder, adapter = .decoder decoder → ∃ version,
    classes.eventVersion decoder.eventClass = .int version ∧ decoder.eventVersion < version

variable {u classes}

/-- The adapter of a current codec. -/
theorem RegistryCall.adapter_register_eq_ok_iff {eventClass : τ} {codec : EventPayloadCodec τ π}
    {adapter : ErasedEventPayloadDecoder τ π} :
    (RegistryCall.register eventClass codec).adapter u classes = .ok adapter ↔
      ∃ made, CodecAdapter.new u classes eventClass codec = .ok made ∧ .codec made = adapter := by
  unfold RegistryCall.adapter
  simp only [except_bind_eq_ok_iff, Except.ok.injEq]

/-- The adapter of a historical reader. -/
theorem RegistryCall.adapter_registerDecoder_eq_ok_iff {eventClass : τ}
    {decoder : EventPayloadDecoder τ π} {adapter : ErasedEventPayloadDecoder τ π} :
    (RegistryCall.registerDecoder eventClass decoder).adapter u classes = .ok adapter ↔
      ∃ made, DecoderAdapter.new u classes eventClass decoder = .ok made ∧
        made.eventVersion < classes.currentVersion eventClass ∧ .decoder made = adapter := by
  unfold RegistryCall.adapter
  simp only [except_bind_eq_ok_iff, ↓require_bind_eq_ok_iff, Except.ok.injEq]

/-- What a codec adapter takes from its class and its codec. -/
theorem CodecAdapter.spec_of_new {eventClass : τ} {codec : EventPayloadCodec τ π}
    {made : CodecAdapter τ π} (h : CodecAdapter.new u classes eventClass codec = .ok made) :
    made.eventClass = eventClass ∧ made.codec = codec := by
  obtain ⟨hdecoder, -, hcodec⟩ := CodecAdapter.new_eq_ok_iff.mp h
  exact ⟨(DecoderAdapter.new_eq_ok_iff.mp hdecoder).1, hcodec⟩

/-- Adapters are admitted. -/
theorem RegistryCall.admitted {call : RegistryCall τ π} {adapter : ErasedEventPayloadDecoder τ π}
    (h : call.adapter u classes = .ok adapter) : adapter.Admitted u classes := by
  cases call with
  | register eventClass codec =>
    obtain ⟨made, hnew, rfl⟩ := adapter_register_eq_ok_iff.mp h
    obtain ⟨hdecoder, hversion, -⟩ := CodecAdapter.new_eq_ok_iff.mp hnew
    obtain ⟨rfl, -, -, htype, -, hpos, n, hn, -⟩ := DecoderAdapter.new_eq_ok_iff.mp hdecoder
    obtain ⟨-, hcanonical⟩ := requireEventType_eq_ok_iff.mp htype
    refine ⟨requireEventType_eq_ok_iff.mpr ⟨rfl, hcanonical⟩, hpos, ?_, by simp⟩
    intro other hother
    obtain rfl := ErasedEventPayloadDecoder.codec.inj hother
    rw [hversion, EventClasses.currentVersion, hn]
  | registerDecoder eventClass decoder =>
    obtain ⟨made, hnew, hold, rfl⟩ := adapter_registerDecoder_eq_ok_iff.mp h
    obtain ⟨rfl, -, -, htype, -, hpos, n, hn, -⟩ := DecoderAdapter.new_eq_ok_iff.mp hnew
    obtain ⟨-, hcanonical⟩ := requireEventType_eq_ok_iff.mp htype
    refine ⟨requireEventType_eq_ok_iff.mpr ⟨rfl, hcanonical⟩, hpos, by simp, ?_⟩
    intro other hother
    obtain rfl := ErasedEventPayloadDecoder.decoder.inj hother
    rw [EventClasses.currentVersion, hn] at hold
    exact ⟨n, hn, hold⟩

end Calls

namespace EventOutboxCodecRegistry

variable {τ π : Type} [DecidableEq τ]

/-- Neither index has an entry in the place of an adapter. -/
structure Free (registry : EventOutboxCodecRegistry τ π)
    (adapter : ErasedEventPayloadDecoder τ π) : Prop where
  identity : registry.codecsByIdentity.get? adapter.identity = none
  eventClass : ∀ codec, adapter = .codec codec →
    registry.codecsByEventClass.get? codec.eventClass = none

/-- The indexes with a new adapter object. -/
def enter (registry : EventOutboxCodecRegistry τ π) (adapter : ErasedEventPayloadDecoder τ π) :
    EventOutboxCodecRegistry τ π where
  created := registry.created + 1
  codecsByEventClass :=
    match adapter with
    | .decoder _ => registry.codecsByEventClass
    | .codec codec =>
      registry.codecsByEventClass.set codec.eventClass ⟨registry.created, codec⟩
  codecsByIdentity :=
    registry.codecsByIdentity.set adapter.identity ⟨registry.created, adapter⟩

/-- The indexes after an adapter object that is dropped. -/
def skip (registry : EventOutboxCodecRegistry τ π) : EventOutboxCodecRegistry τ π :=
  { registry with created := registry.created + 1 }

variable {u : UnicodeTables} {classes : EventClasses τ} {registry : EventOutboxCodecRegistry τ π}

/-- The place of an encoder is free under its class and its identity. -/
theorem free_codec_iff {codec : CodecAdapter τ π} : registry.Free (.codec codec) ↔
    registry.codecsByEventClass.get? codec.eventClass = none ∧
      registry.codecsByIdentity.get? (codec.eventType, codec.eventVersion) = none := by
  constructor
  · intro h
    exact ⟨h.eventClass codec rfl, h.identity⟩
  · rintro ⟨hclass, hidentity⟩
    refine ⟨hidentity, fun other hother ↦ ?_⟩
    rwa [← ErasedEventPayloadDecoder.codec.inj hother]

/-- The place of a historical reader is free under its identity. -/
theorem free_decoder_iff {decoder : DecoderAdapter τ π} : registry.Free (.decoder decoder) ↔
    registry.codecsByIdentity.get? (decoder.eventType, decoder.eventVersion) = none :=
  ⟨Free.identity, fun h ↦ ⟨h, by simp⟩⟩

/-- A call returns exactly when its arguments pass and its place is free, and then enters its
adapter; a call that raises has written nothing. -/
theorem ensures_perform (call : RegistryCall τ π) :
    Ensures (perform u classes call) registry
      (fun _ after ↦ ∃ adapter, call.adapter u classes = .ok adapter ∧ registry.Free adapter ∧
        after = registry.enter adapter)
      (fun _ after ↦ (∀ adapter, call.adapter u classes = .ok adapter → ¬ registry.Free adapter) ∧
        after = registry.skip) := by
  cases call with
  | register eventClass codec =>
    unfold perform register allocate
    simp only [ensures_bind, ensures_get, ensures_set, ensures_pure,
      RegistryCall.adapter_register_eq_ok_iff]
    cases hnew : CodecAdapter.new u classes eventClass codec with
    | error e =>
      rw [ensures_lift_error]
      refine ⟨?_, rfl⟩
      rintro adapter ⟨made, hmade, -⟩
      cases hmade
    | ok made =>
      obtain ⟨rfl, -⟩ := CodecAdapter.spec_of_new hnew
      simp only [ensures_lift_ok, ensures_lift_require, ensures_modify, Except.ok.injEq,
        exists_eq_left', forall_eq', Dict.not_contains_iff, free_codec_iff]
      refine ⟨fun hclass ↦ ⟨fun hidentity ↦ ?_, fun hidentity ↦ ?_⟩, fun hclass ↦ ?_⟩
      · exact ⟨⟨hclass, hidentity⟩, rfl⟩
      · exact ⟨fun h ↦ hidentity h.2, rfl⟩
      · exact ⟨fun h ↦ hclass h.1, rfl⟩
  | registerDecoder eventClass decoder =>
    unfold perform registerDecoder allocate
    simp only [ensures_bind, ensures_get, ensures_set, ensures_pure,
      RegistryCall.adapter_registerDecoder_eq_ok_iff]
    cases hnew : DecoderAdapter.new u classes eventClass decoder with
    | error e =>
      rw [ensures_lift_error]
      refine ⟨?_, rfl⟩
      rintro adapter ⟨made, hmade, -⟩
      cases hmade
    | ok made =>
      simp only [ensures_lift_ok, ensures_lift_require, ensures_modify, Except.ok.injEq,
        exists_eq_left', Dict.not_contains_iff]
      refine ⟨fun hold ↦ ⟨fun hidentity ↦ ?_, fun hidentity ↦ ?_⟩, fun hold ↦ ?_⟩
      · exact ⟨_, ⟨hold, rfl⟩, free_decoder_iff.mpr hidentity, rfl⟩
      · refine ⟨?_, rfl⟩
        rintro adapter ⟨-, rfl⟩ hfree
        exact hidentity (free_decoder_iff.mp hfree)
      · exact ⟨fun adapter h ↦ absurd h.1 hold, rfl⟩

variable (u classes registry) in
/-- The two ways in which a call ends. -/
theorem perform_cases (call : RegistryCall τ π) :
    (∃ adapter, call.adapter u classes = .ok adapter ∧ registry.Free adapter ∧
      (perform u classes call).raisesIn registry (fun _ ↦ true) = false ∧
      (perform u classes call).finalState registry = registry.enter adapter) ∨
    (∀ adapter, call.adapter u classes = .ok adapter → ¬ registry.Free adapter) ∧
      (perform u classes call).raisesIn registry (fun _ ↦ true) = true ∧
      (perform u classes call).finalState registry = registry.skip := by
  have h : Ensures (perform u classes call) registry _ _ := ensures_perform call
  unfold raisesIn finalState
  cases hrun : perform u classes call registry with
  | ok a after =>
    obtain ⟨adapter, hadapter, hfree, rfl⟩ := (ensures_of_eq_ok hrun).mp h
    exact .inl ⟨adapter, hadapter, hfree, rfl, rfl⟩
  | error e after =>
    rw [ensures_iff, hrun] at h
    obtain ⟨hno, rfl⟩ := h
    exact .inr ⟨hno, rfl, rfl⟩

/-! ### What the indexes hold -/

/-- Two adapters that a registry can hold together. -/
structure Compatible (a b : ErasedEventPayloadDecoder τ π) : Prop where
  identity : a.identity ≠ b.identity
  eventClass : ∀ codec codec', a = .codec codec → b = .codec codec' →
    codec.eventClass ≠ codec'.eventClass

omit [DecidableEq τ] in
theorem Compatible.symm {a b : ErasedEventPayloadDecoder τ π} (h : Compatible a b) :
    Compatible b a :=
  ⟨h.identity.symm, fun codec codec' hb ha ↦ (h.eventClass codec' codec ha hb).symm⟩

/-- The indexes hold adapters that are compatible with each other, and no others. -/
structure Holds (registry : EventOutboxCodecRegistry τ π)
    (adapters : List (ErasedEventPayloadDecoder τ π)) : Prop where
  identity : ∀ i a, (∃ handle, registry.codecsByIdentity.get? i = some ⟨handle, a⟩) ↔
    a ∈ adapters ∧ a.identity = i
  eventClass : ∀ c codec, (∃ handle, registry.codecsByEventClass.get? c = some ⟨handle, codec⟩) ↔
    .codec codec ∈ adapters ∧ codec.eventClass = c
  compatible : adapters.Pairwise Compatible

/-- The indexes refer to one object for each encoder, and to different ones under different
identities. -/
structure Objects (registry : EventOutboxCodecRegistry τ π) : Prop where
  shared : ∀ {c o}, registry.codecsByEventClass.get? c = some o →
    registry.codecsByIdentity.get? (o.value.eventType, o.value.eventVersion) = some (o.map .codec)
  older : ∀ {i o}, registry.codecsByIdentity.get? i = some o → o.handle < registry.created
  distinct : ∀ {i j o o'}, registry.codecsByIdentity.get? i = some o →
    registry.codecsByIdentity.get? j = some o' → o.handle = o'.handle → i = j

theorem holds_empty : (empty : EventOutboxCodecRegistry τ π).Holds [] := by
  constructor
  · simp [empty, Dict.get?, Dict.empty]
  · simp [empty, Dict.get?, Dict.empty]
  · exact .nil

theorem objects_empty : (empty : EventOutboxCodecRegistry τ π).Objects := by
  constructor <;> simp [empty, Dict.get?, Dict.empty]

/-- A lookup by identity after an entry. -/
theorem get?_enter_identity (adapter : ErasedEventPayloadDecoder τ π) (i : String × Int) :
    (registry.enter adapter).codecsByIdentity.get? i =
      if adapter.identity = i then some ⟨registry.created, adapter⟩
      else registry.codecsByIdentity.get? i :=
  Dict.get?_set

/-- A lookup by class after an encoder is entered. -/
theorem get?_enter_eventClass (codec : CodecAdapter τ π) (c : τ) :
    (registry.enter (.codec codec)).codecsByEventClass.get? c =
      if codec.eventClass = c then some ⟨registry.created, codec⟩
      else registry.codecsByEventClass.get? c :=
  Dict.get?_set

variable {adapters : List (ErasedEventPayloadDecoder τ π)} {adapter : ErasedEventPayloadDecoder τ π}

/-- A place is free exactly when the adapter is compatible with all that are held. -/
theorem Holds.free_iff (h : registry.Holds adapters) :
    registry.Free adapter ↔ ∀ held ∈ adapters, Compatible held adapter := by
  constructor
  · intro hfree held hheld
    constructor
    · intro heq
      obtain ⟨handle, hget⟩ := (h.identity _ _).mpr ⟨hheld, heq⟩
      rw [hfree.identity] at hget
      cases hget
    · rintro codec codec' rfl hcodec' heq
      obtain ⟨handle, hget⟩ := (h.eventClass _ _).mpr ⟨hheld, heq⟩
      rw [hfree.eventClass codec' hcodec'] at hget
      cases hget
  · intro hall
    constructor
    · rw [Option.eq_none_iff_forall_ne_some]
      intro o ho
      obtain ⟨hmem, hidentity⟩ := (h.identity _ o.value).mp ⟨o.handle, ho⟩
      exact (hall _ hmem).identity hidentity
    · intro codec hcodec
      rw [Option.eq_none_iff_forall_ne_some]
      intro o ho
      obtain ⟨hmem, hclass⟩ := (h.eventClass _ o.value).mp ⟨o.handle, ho⟩
      exact (hall _ hmem).eventClass _ _ rfl hcodec hclass

/-- Entering an adapter in a free place adds it. -/
theorem Holds.enter (h : registry.Holds adapters) (hfree : registry.Free adapter) :
    (registry.enter adapter).Holds (adapters ++ [adapter]) := by
  have hcompatible := h.free_iff.mp hfree
  constructor
  · intro i a
    rw [get?_enter_identity, List.mem_append, List.mem_singleton]
    by_cases hi : adapter.identity = i
    · rw [if_pos hi]
      constructor
      · rintro ⟨handle, heq⟩
        obtain rfl : adapter = a := by simpa using congrArg (Option.map Object.value) heq
        exact ⟨.inr rfl, hi⟩
      · rintro ⟨hmem | rfl, hia⟩
        · exact absurd (hia.trans hi.symm) (hcompatible a hmem).identity
        · exact ⟨_, rfl⟩
    · rw [if_neg hi, h.identity]
      constructor
      · rintro ⟨hmem, hia⟩
        exact ⟨.inl hmem, hia⟩
      · rintro ⟨hmem | rfl, hia⟩
        · exact ⟨hmem, hia⟩
        · exact absurd hia hi
  · intro c codec
    rw [List.mem_append, List.mem_singleton]
    cases adapter with
    | decoder decoder =>
      have hne : ErasedEventPayloadDecoder.codec codec ≠ .decoder decoder := by simp
      rw [or_iff_left hne]
      exact h.eventClass c codec
    | codec made =>
      rw [get?_enter_eventClass, ErasedEventPayloadDecoder.codec.injEq]
      by_cases hc : made.eventClass = c
      · rw [if_pos hc]
        constructor
        · rintro ⟨handle, heq⟩
          obtain rfl : made = codec := by simpa using congrArg (Option.map Object.value) heq
          exact ⟨.inr rfl, hc⟩
        · rintro ⟨hmem | rfl, hcc⟩
          · exact absurd (hcc.trans hc.symm) ((hcompatible _ hmem).eventClass _ _ rfl rfl)
          · exact ⟨_, rfl⟩
      · rw [if_neg hc, h.eventClass]
        constructor
        · rintro ⟨hmem, hcc⟩
          exact ⟨.inl hmem, hcc⟩
        · rintro ⟨hmem | rfl, hcc⟩
          · exact ⟨hmem, hcc⟩
          · exact absurd hcc hc
  · rw [List.pairwise_append]
    refine ⟨h.compatible, List.pairwise_singleton _ _, fun held hheld a ha ↦ ?_⟩
    rw [List.mem_singleton.mp ha]
    exact hcompatible held hheld

/-- A dropped adapter object leaves both indexes as they were. -/
theorem Holds.skip (h : registry.Holds adapters) : registry.skip.Holds adapters :=
  ⟨h.identity, h.eventClass, h.compatible⟩

theorem Objects.skip (h : registry.Objects) : registry.skip.Objects :=
  ⟨h.shared, fun hget ↦ (h.older hget).trans (Nat.lt_succ_self _), h.distinct⟩

/-- A new adapter object in a free place keeps the references apart. -/
theorem Objects.enter (h : registry.Objects) (hfree : registry.Free adapter) :
    (registry.enter adapter).Objects := by
  have hkept : ∀ {c o}, registry.codecsByEventClass.get? c = some o →
      (registry.enter adapter).codecsByIdentity.get? (o.value.eventType, o.value.eventVersion) =
        some (o.map .codec) := by
    intro c o ho
    rw [get?_enter_identity, if_neg, h.shared ho]
    intro heq
    have hnone := hfree.identity
    rw [heq, h.shared ho] at hnone
    cases hnone
  constructor
  · intro c o ho
    cases adapter with
    | decoder decoder => exact hkept ho
    | codec made =>
      rw [get?_enter_eventClass] at ho
      split at ho
      · obtain rfl := Option.some.inj ho
        rw [get?_enter_identity]
        exact if_pos rfl
      · exact hkept ho
  · intro i o ho
    rw [get?_enter_identity] at ho
    show o.handle < registry.created + 1
    split at ho
    · obtain rfl := Option.some.inj ho
      exact Nat.lt_succ_self _
    · exact (h.older ho).trans (Nat.lt_succ_self _)
  · intro i j o o' ho ho' heq
    rw [get?_enter_identity] at ho ho'
    split at ho
    · next hi =>
      split at ho'
      · next hj => exact hi.symm.trans hj
      · obtain rfl := Option.some.inj ho
        exact absurd heq (h.older ho').ne'
    · split at ho'
      · obtain rfl := Option.some.inj ho'
        exact absurd heq (h.older ho).ne
      · exact h.distinct ho ho' heq

/-! ### Runs of calls -/

variable (u classes)

/-- The adapters that calls enter. -/
def adaptersOf (calls : List (RegistryCall τ π)) : List (ErasedEventPayloadDecoder τ π) :=
  calls.filterMap fun call ↦ (call.adapter u classes).toOption

variable {u classes}

theorem mem_adaptersOf {calls : List (RegistryCall τ π)} :
    adapter ∈ adaptersOf u classes calls ↔
      ∃ call ∈ calls, call.adapter u classes = .ok adapter := by
  simp [adaptersOf, List.mem_filterMap, toOption_eq_some_iff]

theorem run_cons (call : RegistryCall τ π) (calls : List (RegistryCall τ π)) :
    run u classes registry (call :: calls) =
      run u classes ((perform u classes call).finalState registry) calls :=
  rfl

variable (u classes) in
/-- After any calls the indexes hold the adapters of those that returned. -/
theorem Holds.run (h : registry.Holds adapters) (calls : List (RegistryCall τ π)) :
    (run u classes registry calls).Holds
        (adapters ++ adaptersOf u classes (accepted u classes registry calls)) ∧
      ∀ call ∈ accepted u classes registry calls, ∃ a, call.adapter u classes = .ok a := by
  induction calls generalizing registry adapters with
  | nil => simpa [EventOutboxCodecRegistry.run, accepted, adaptersOf] using h
  | cons call rest ih =>
    rw [run_cons, accepted]
    rcases perform_cases u classes registry call with
      ⟨a, ha, hfree, hreturns, hfinal⟩ | ⟨-, hraises, hfinal⟩
    · obtain ⟨hholds, hvalid⟩ := ih (h.enter hfree)
      rw [hreturns, hfinal, if_neg Bool.false_ne_true]
      constructor
      · simpa [adaptersOf, ha, Except.toOption, List.append_assoc] using hholds
      · rw [List.forall_mem_cons]
        exact ⟨⟨a, ha⟩, hvalid⟩
    · rw [hraises, hfinal, if_pos rfl]
      exact ih h.skip

/-- After any calls the objects are kept apart. -/
theorem Objects.run (h : registry.Objects) (calls : List (RegistryCall τ π)) :
    (run u classes registry calls).Objects := by
  induction calls generalizing registry with
  | nil => exact h
  | cons call rest ih =>
    rw [run_cons]
    rcases perform_cases u classes registry call with
      ⟨a, -, hfree, -, hfinal⟩ | ⟨-, -, hfinal⟩
    · rw [hfinal]
      exact ih (h.enter hfree)
    · rw [hfinal]
      exact ih h.skip

/-- Calls whose adapters are compatible all return. -/
theorem Holds.accepted_eq (h : registry.Holds adapters) {calls : List (RegistryCall τ π)}
    (hvalid : ∀ call ∈ calls, ∃ a, call.adapter u classes = .ok a)
    (hcompatible : (adapters ++ adaptersOf u classes calls).Pairwise Compatible) :
    accepted u classes registry calls = calls := by
  induction calls generalizing registry adapters with
  | nil => rfl
  | cons call rest ih =>
    rw [List.forall_mem_cons] at hvalid
    obtain ⟨⟨a, ha⟩, hrest⟩ := hvalid
    have hlist : adapters ++ adaptersOf u classes (call :: rest) =
        adapters ++ [a] ++ adaptersOf u classes rest := by
      simp [adaptersOf, ha, Except.toOption]
    rw [hlist] at hcompatible
    have hfree : registry.Free a := by
      rw [h.free_iff]
      intro held hheld
      have hinit := (List.pairwise_append.mp hcompatible).1
      exact (List.pairwise_append.mp hinit).2.2 held hheld a (List.mem_singleton_self a)
    rw [accepted]
    rcases perform_cases u classes registry call with
      ⟨a', ha', -, hreturns, hfinal⟩ | ⟨hno, -, -⟩
    · obtain rfl := Except.ok.inj (ha.symm.trans ha')
      rw [hreturns, hfinal, if_neg Bool.false_ne_true, ih (h.enter hfree) hrest hcompatible]
    · exact absurd hfree (hno a ha)

/-! ### Lookups -/

theorem forEvent_eq_ok_iff {event : Event τ π} {o : Object (CodecAdapter τ π)} :
    registry.forEvent classes event = .ok o ↔
      registry.codecsByEventClass.get? event.type = some o :=
  resolve_eq_ok_iff

omit [DecidableEq τ] in
theorem forIdentity_eq_ok_iff {eventType eventVersion : PyValue}
    {o : Object (ErasedEventPayloadDecoder τ π)} :
    registry.forIdentity u eventType eventVersion = .ok o ↔
      ∃ text n, requireEventType u eventType = .ok text ∧
        eventVersion.requirePositiveInt "event_version" = .ok n ∧
        registry.codecsByIdentity.get? (text, n) = some o := by
  unfold forIdentity
  simp only [except_bind_eq_ok_iff, resolve_eq_ok_iff, exists_and_left]

omit [DecidableEq τ] in
/-- An adapter that is held is found under its own name and version. -/
theorem forIdentity_of_admitted {o : Object (ErasedEventPayloadDecoder τ π)}
    (h : o.value.Admitted u classes)
    (hget : registry.codecsByIdentity.get? o.value.identity = some o) :
    registry.forIdentity u (.str o.value.toDecoderAdapter.eventType)
      (.int o.value.toDecoderAdapter.eventVersion) = .ok o :=
  forIdentity_eq_ok_iff.mpr ⟨_, _, h.eventType,
    PyValue.requirePositiveInt_eq_ok_iff.mpr ⟨rfl, h.positive⟩, hget⟩

/-- What holds of the lookups after calls of which the accepted ones returned. -/
structure Consistent (u : UnicodeTables) (classes : EventClasses τ)
    (registry : EventOutboxCodecRegistry τ π) (accepted : List (RegistryCall τ π)) : Prop where
  /-- A registered class has one encoder, which its identity finds as well. -/
  encoder : ∀ {eventClass codec}, .register eventClass codec ∈ accepted →
    ∃ o : Object (CodecAdapter τ π), o.value.eventClass = eventClass ∧ o.value.codec = codec ∧
      (∀ event, event.type = eventClass → registry.forEvent classes event = .ok o) ∧
      registry.forIdentity u (.str o.value.eventType) (classes.eventVersion eventClass) =
        .ok (o.map .codec) ∧
      ∀ eventType eventVersion o', registry.forIdentity u eventType eventVersion =
        .ok (Object.map .codec o') → o'.value.eventClass = eventClass → o' = o
  /-- Only registered classes have one. -/
  encoded : ∀ {event o}, registry.forEvent classes event = .ok o →
    ∃ codec, .register event.type codec ∈ accepted
  /-- What an identity finds is the encoder of its class or an older reader of it. -/
  reader : ∀ {eventType eventVersion o}, registry.forIdentity u eventType eventVersion = .ok o →
    (∃ codec, o.value = .codec codec ∧ ∀ event, event.type = codec.eventClass →
      registry.forEvent classes event = .ok ⟨o.handle, codec⟩) ∨
    ∃ decoder version, o.value = .decoder decoder ∧
      classes.eventVersion decoder.eventClass = .int version ∧ decoder.eventVersion < version
  /-- It was registered with that very name and version. -/
  exact : ∀ {eventType eventVersion o}, registry.forIdentity u eventType eventVersion = .ok o →
    eventType = .str o.value.toDecoderAdapter.eventType ∧
      eventVersion = .int o.value.toDecoderAdapter.eventVersion ∧
      ∃ call ∈ accepted, call.adapter u classes = .ok o.value
  /-- Every registration is found. -/
  found : ∀ {call adapter}, call ∈ accepted → call.adapter u classes = .ok adapter →
    ∃ handle, registry.forIdentity u (.str adapter.toDecoderAdapter.eventType)
      (.int adapter.toDecoderAdapter.eventVersion) = .ok ⟨handle, adapter⟩
  unshared : accepted.Pairwise fun call call' ↦ ∀ adapter adapter',
    call.adapter u classes = .ok adapter → call'.adapter u classes = .ok adapter' →
      adapter.identity ≠ adapter'.identity
  /-- Different identities find different objects. -/
  distinct : ∀ {eventType eventVersion eventType' eventVersion' o o'},
    registry.forIdentity u eventType eventVersion = .ok o →
    registry.forIdentity u eventType' eventVersion' = .ok o' → o.handle = o'.handle →
      eventType = eventType' ∧ eventVersion = eventVersion'

/-- Two registries whose lookups find adapters with the same content, or raise the same. -/
structure SameLookups (u : UnicodeTables) (classes : EventClasses τ)
    (registry registry' : EventOutboxCodecRegistry τ π) : Prop where
  forEvent : ∀ event, (registry.forEvent classes event).map Object.value =
    (registry'.forEvent classes event).map Object.value
  forIdentity : ∀ eventType eventVersion,
    (registry.forIdentity u eventType eventVersion).map Object.value =
      (registry'.forIdentity u eventType eventVersion).map Object.value

/-- A lookup by identity finds what is held under the identity of the adapter found. -/
theorem Holds.of_forIdentity (h : registry.Holds adapters) {eventType eventVersion : PyValue}
    {o : Object (ErasedEventPayloadDecoder τ π)}
    (ho : registry.forIdentity u eventType eventVersion = .ok o) :
    registry.codecsByIdentity.get? o.value.identity = some o ∧ o.value ∈ adapters ∧
      eventType = .str o.value.toDecoderAdapter.eventType ∧
      eventVersion = .int o.value.toDecoderAdapter.eventVersion := by
  obtain ⟨text, n, htype, hversion, hget⟩ := forIdentity_eq_ok_iff.mp ho
  obtain ⟨rfl, -⟩ := requireEventType_eq_ok_iff.mp htype
  obtain ⟨rfl, -⟩ := PyValue.requirePositiveInt_eq_ok_iff.mp hversion
  obtain ⟨hmem, hidentity⟩ := (h.identity _ _).mp ⟨o.handle, hget⟩
  rw [← hidentity] at hget
  obtain ⟨htext, hn⟩ := Prod.mk.inj hidentity
  exact ⟨hget, hmem, congrArg _ htext.symm, congrArg _ hn.symm⟩

/-- An encoder is one object, in whichever way it is found. -/
theorem Objects.encoder_unique (hobjects : registry.Objects) (h : registry.Holds adapters) {c : τ}
    {o o' : Object (CodecAdapter τ π)} {eventType eventVersion : PyValue}
    (ho : registry.codecsByEventClass.get? c = some o)
    (ho' : registry.forIdentity u eventType eventVersion = .ok (o'.map .codec))
    (hclass : o'.value.eventClass = c) : o' = o := by
  obtain ⟨hget, hmem, -, -⟩ := h.of_forIdentity ho'
  obtain ⟨handle, hentry⟩ := (h.eventClass c o'.value).mpr ⟨hmem, hclass⟩
  obtain rfl := Option.some.inj (ho.symm.trans hentry)
  have heq : some (Object.map ErasedEventPayloadDecoder.codec ⟨handle, o'.value⟩) =
      some (o'.map .codec) := (hobjects.shared ho).symm.trans hget
  have hhandle : handle = o'.handle := congrArg Object.handle (Option.some.inj heq)
  rw [hhandle]

/-- The adapters of calls are admitted. -/
theorem admitted_of_mem {calls : List (RegistryCall τ π)}
    (h : adapter ∈ adaptersOf u classes calls) : adapter.Admitted u classes := by
  obtain ⟨call, -, hcall⟩ := mem_adaptersOf.mp h
  exact RegistryCall.admitted hcall

section Answers

variable {calls : List (RegistryCall τ π)} (h : registry.Holds (adaptersOf u classes calls))
include h

/-- A registered class has one encoder, which its identity finds as well. -/
theorem Holds.encoder (hobjects : registry.Objects) {eventClass : τ}
    {codec : EventPayloadCodec τ π} {made : CodecAdapter τ π}
    (hcall : .register eventClass codec ∈ calls)
    (hnew : CodecAdapter.new u classes eventClass codec = .ok made) :
    ∃ handle, registry.codecsByEventClass.get? eventClass = some ⟨handle, made⟩ ∧
      registry.forIdentity u (.str made.eventType) (classes.eventVersion eventClass) =
        .ok ⟨handle, .codec made⟩ := by
  obtain ⟨rfl, -⟩ := CodecAdapter.spec_of_new hnew
  have hmem := mem_adaptersOf.mpr
    ⟨_, hcall, RegistryCall.adapter_register_eq_ok_iff.mpr ⟨made, hnew, rfl⟩⟩
  obtain ⟨handle, hget⟩ := (h.eventClass _ _).mpr ⟨hmem, rfl⟩
  refine ⟨handle, hget, ?_⟩
  have hadmitted := admitted_of_mem hmem
  rw [hadmitted.current made rfl]
  exact forIdentity_of_admitted (o := ⟨handle, .codec made⟩) hadmitted (hobjects.shared hget)

/-- Only registered classes have an encoder. -/
theorem Holds.exists_register {c : τ} {o : Object (CodecAdapter τ π)}
    (ho : registry.codecsByEventClass.get? c = some o) : ∃ codec, .register c codec ∈ calls := by
  obtain ⟨hmem, hclass⟩ := (h.eventClass _ o.value).mp ⟨o.handle, ho⟩
  obtain ⟨call, hcall, hadapter⟩ := mem_adaptersOf.mp hmem
  cases call with
  | register eventClass codec =>
    obtain ⟨made, hnew, hmade⟩ := RegistryCall.adapter_register_eq_ok_iff.mp hadapter
    rw [← hclass, ← ErasedEventPayloadDecoder.codec.inj hmade, (CodecAdapter.spec_of_new hnew).1]
    exact ⟨codec, hcall⟩
  | registerDecoder eventClass decoder =>
    obtain ⟨made, -, -, hmade⟩ := RegistryCall.adapter_registerDecoder_eq_ok_iff.mp hadapter
    cases hmade

/-- What an identity finds is the encoder of its class or an older reader of it. -/
theorem Holds.reader (hobjects : registry.Objects) {eventType eventVersion : PyValue}
    {o : Object (ErasedEventPayloadDecoder τ π)}
    (ho : registry.forIdentity u eventType eventVersion = .ok o) :
    (∃ codec, o.value = .codec codec ∧
      registry.codecsByEventClass.get? codec.eventClass = some ⟨o.handle, codec⟩) ∨
    ∃ decoder version, o.value = .decoder decoder ∧
      classes.eventVersion decoder.eventClass = .int version ∧ decoder.eventVersion < version := by
  obtain ⟨hget, hmem, -, -⟩ := h.of_forIdentity ho
  cases hvalue : o.value with
  | decoder decoder =>
    obtain ⟨version, hversion, hold⟩ := (admitted_of_mem hmem).older decoder hvalue
    exact .inr ⟨decoder, version, rfl, hversion, hold⟩
  | codec codec =>
    rw [hvalue] at hmem hget
    obtain ⟨handle, hentry⟩ := (h.eventClass _ _).mpr ⟨hmem, rfl⟩
    have heq := Option.some.inj ((hobjects.shared hentry).symm.trans hget)
    have hhandle : handle = o.handle := congrArg Object.handle heq
    exact .inl ⟨codec, rfl, hhandle ▸ hentry⟩

/-- Indexes that hold the adapters of valid calls answer consistently. -/
theorem Holds.consistent (hobjects : registry.Objects)
    (hvalid : ∀ call ∈ calls, ∃ a, call.adapter u classes = .ok a) :
    registry.Consistent u classes calls := by
  constructor
  · intro eventClass codec hcall
    obtain ⟨a, ha⟩ := hvalid _ hcall
    obtain ⟨made, hnew, -⟩ := RegistryCall.adapter_register_eq_ok_iff.mp ha
    obtain ⟨hclass, hcodec⟩ := CodecAdapter.spec_of_new hnew
    obtain ⟨handle, hget, hidentity⟩ := h.encoder hobjects hcall hnew
    refine ⟨⟨handle, made⟩, hclass, hcodec, ?_, hidentity, ?_⟩
    · intro event hevent
      rw [forEvent_eq_ok_iff, hevent, hget]
    · intro eventType eventVersion o' ho' hclass'
      exact hobjects.encoder_unique h hget ho' hclass'
  · intro event o ho
    exact h.exists_register (forEvent_eq_ok_iff.mp ho)
  · intro eventType eventVersion o ho
    apply (h.reader hobjects ho).imp_left
    rintro ⟨codec, hvalue, hget⟩
    refine ⟨codec, hvalue, fun event hevent ↦ ?_⟩
    rw [forEvent_eq_ok_iff, hevent, hget]
  · intro eventType eventVersion o ho
    obtain ⟨-, hmem, htype, hversion⟩ := h.of_forIdentity ho
    exact ⟨htype, hversion, mem_adaptersOf.mp hmem⟩
  · intro call adapter hcall hadapter
    have hmem := mem_adaptersOf.mpr ⟨call, hcall, hadapter⟩
    obtain ⟨handle, hget⟩ := (h.identity _ _).mpr ⟨hmem, rfl⟩
    exact ⟨handle, forIdentity_of_admitted (o := ⟨handle, adapter⟩) (admitted_of_mem hmem) hget⟩
  · have hpairwise := List.pairwise_filterMap.mp h.compatible
    refine hpairwise.imp fun {call call'} hcompatible a a' ha ha' ↦ ?_
    exact (hcompatible a (toOption_eq_some_iff.mpr ha) a' (toOption_eq_some_iff.mpr ha')).identity
  · intro eventType eventVersion eventType' eventVersion' o o' ho ho' hhandle
    obtain ⟨hget, -, htype, hversion⟩ := h.of_forIdentity ho
    obtain ⟨hget', -, htype', hversion'⟩ := h.of_forIdentity ho'
    obtain ⟨heqtype, heqversion⟩ := Prod.mk.inj (hobjects.distinct hget hget' hhandle)
    rw [htype, htype', hversion, hversion', heqtype, heqversion]
    exact ⟨rfl, rfl⟩

end Answers

/-- Indexes that hold the same adapters answer alike. -/
theorem Holds.sameLookups {registry' : EventOutboxCodecRegistry τ π}
    {adapters' : List (ErasedEventPayloadDecoder τ π)} (h : registry.Holds adapters)
    (h' : registry'.Holds adapters') (hsame : ∀ a, a ∈ adapters ↔ a ∈ adapters') :
    SameLookups u classes registry registry' := by
  have hclass : ∀ c, (registry.codecsByEventClass.get? c).map Object.value =
      (registry'.codecsByEventClass.get? c).map Object.value := by
    intro c
    ext codec
    rw [Object.map_value_eq_some_iff, Object.map_value_eq_some_iff, h.eventClass, h'.eventClass,
      hsame]
  have hidentity : ∀ i, (registry.codecsByIdentity.get? i).map Object.value =
      (registry'.codecsByIdentity.get? i).map Object.value := by
    intro i
    ext adapter
    rw [Object.map_value_eq_some_iff, Object.map_value_eq_some_iff, h.identity, h'.identity, hsame]
  constructor
  · intro event
    unfold forEvent
    exact map_resolve_congr (hclass event.type)
  · intro eventType eventVersion
    unfold forIdentity
    cases requireEventType u eventType with
    | error e => rfl
    | ok text =>
      cases eventVersion.requirePositiveInt "event_version" with
      | error e => rfl
      | ok n => exact map_resolve_congr (hidentity (text, n))

/-- Indexes that agree. -/
structure SameIndexes (registry registry' : EventOutboxCodecRegistry τ π) : Prop where
  codecsByEventClass : registry.codecsByEventClass = registry'.codecsByEventClass
  codecsByIdentity : registry.codecsByIdentity = registry'.codecsByIdentity

/-- After any calls the lookups are consistent with those that returned, a further call that
raises changes no index, and the calls that returned make up the same lookups in every order. -/
theorem registered_consistently (calls : List (RegistryCall τ π)) :
    Consistent u classes (run u classes .empty calls) (accepted u classes .empty calls) ∧
    (∀ call, Ensures (perform u classes call) (run u classes .empty calls) (fun _ _ ↦ True)
      (fun _ after ↦ after.SameIndexes (run u classes .empty calls))) ∧
    ∀ calls', (accepted u classes .empty calls).Perm calls' →
      accepted u classes .empty calls' = calls' ∧
      SameLookups u classes (run u classes .empty calls) (run u classes .empty calls') := by
  obtain ⟨hholds, hvalid⟩ := holds_empty.run u classes calls
  rw [List.nil_append] at hholds
  refine ⟨hholds.consistent (objects_empty.run calls) hvalid, fun call ↦ ?_, fun calls' hperm ↦ ?_⟩
  · refine (ensures_perform call).mono (fun _ _ _ ↦ trivial) ?_
    rintro e after ⟨-, rfl⟩
    exact ⟨rfl, rfl⟩
  · have hadapters := hperm.filterMap fun call ↦ (call.adapter u classes).toOption
    have hcompatible := (hadapters.pairwise_iff fun h ↦ h.symm).mp hholds.compatible
    have heq := holds_empty.accepted_eq (fun call hcall ↦ hvalid call (hperm.mem_iff.mpr hcall))
      hcompatible
    refine ⟨heq, ?_⟩
    obtain ⟨hholds', -⟩ := holds_empty.run u classes calls'
    rw [heq, List.nil_append] at hholds'
    exact hholds.sameLookups hholds' fun a ↦ hadapters.mem_iff

-- A reader of version 1 may come before the codec of version 3; a second use of its name and
-- version is refused.
example : (accepted UnicodeTables.asciiOnly ⟨fun _ ↦ "Sample", fun _ ↦ .int 3⟩
    (empty : EventOutboxCodecRegistry Bool Unit)
    [.registerDecoder true ⟨true, .str "sample", .int 1, fun _ _ _ _ ↦ .error ⟨.valueError, ""⟩⟩,
      .register true ⟨⟨true, .str "sample", .int 3, fun _ _ _ _ ↦ .error ⟨.valueError, ""⟩⟩,
        fun _ ↦ .ok []⟩,
      .registerDecoder false ⟨false, .str "sample", .int 1,
        fun _ _ _ _ ↦ .error ⟨.valueError, ""⟩⟩]).length = 2 := by
  decide +kernel

end EventOutboxCodecRegistry
end FleetFlow.Outbox
