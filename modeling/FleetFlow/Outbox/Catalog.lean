import FleetFlow.Outbox.PayloadCodecs
import FleetFlow.Outbox.Registry
import FleetFlow.Snapshot.JsonRoundTrip

/-!
# The registry of current codecs

Follows `composition/outbox_codecs.py` with the identities that the codecs of
`application/eventing/outbox/codecs/` advertise. The registry is built without an error, writes
exactly the events whose fields pass the checks of their reader, and reads back what it wrote.
-/

namespace FleetFlow.Outbox

open Program EventOutboxCodecRegistry

/-! ### Current codecs -/

/-- The classes in the order of their registration; `composition/event_catalog.py:51–93`,
`composition/outbox_codecs.py:136–180`. -/
def publishedEventTypes : List EventClass :=
  [.customerCreated, .packageCreated, .packageRemoved, .packagePickedUp, .packageDelivered,
    .routeCreated, .routeScheduled, .packageAssignedToRoute, .packageDetachedFromRoute,
    .truckAssignedToRoute, .truckReleasedFromRoute, .routeStarted, .routeCompleted, .routeRemoved,
    .userRegistered, .userRegistrationRejected, .userPasswordChanged, .userPasswordChangeRejected,
    .userPasswordReset, .userPasswordResetRejected, .userAuthenticated, .userLoginRejected,
    .userSessionEnded, .userTokensRevoked, .authorizationDenied, .fleetSeeded,
    .worldStateExported, .worldStateExportFailed, .worldStateImported, .worldStateImportFailed,
    .worldStateCorruptionDetected, .worldStateSnapshotQuarantined, .worldStateRuntimeSwapped,
    .worldStateStartupRestored, .worldStateStartupRestoreSkipped, .worldStateStartupRestoreFailed,
    .worldStateAdvanced, .routeStateReconciled, .packageStateReconciled, .truckPositionReconciled,
    .truckRouteReferenceReconciled]

/-- The name and the version that the codec of a class advertises: `event_type` and
`event_version` of `codecs/`. -/
def EventClass.identity : EventClass → String × Int
  | .customerCreated => ("customer_created", 1)
  | .packageCreated => ("package_created", 2)
  | .packageRemoved => ("package_removed", 2)
  | .packagePickedUp => ("package_picked_up", 2)
  | .packageDelivered => ("package_delivered", 2)
  | .routeCreated => ("route_created", 2)
  | .routeScheduled => ("route_scheduled", 2)
  | .packageAssignedToRoute => ("package_assigned_to_route", 2)
  | .packageDetachedFromRoute => ("package_detached_from_route", 2)
  | .truckAssignedToRoute => ("truck_assigned_to_route", 2)
  | .truckReleasedFromRoute => ("truck_released_from_route", 2)
  | .routeStarted => ("route_started", 2)
  | .routeCompleted => ("route_completed", 2)
  | .routeRemoved => ("route_removed", 2)
  | .userRegistered => ("user_registered", 1)
  | .userRegistrationRejected => ("user_registration_rejected", 1)
  | .userPasswordChanged => ("user_password_changed", 1)
  | .userPasswordChangeRejected => ("user_password_change_rejected", 1)
  | .userPasswordReset => ("user_password_reset", 1)
  | .userPasswordResetRejected => ("user_password_reset_rejected", 1)
  | .userAuthenticated => ("user_authenticated", 1)
  | .userLoginRejected => ("user_login_rejected", 1)
  | .userSessionEnded => ("user_session_ended", 1)
  | .userTokensRevoked => ("user_tokens_revoked", 1)
  | .authorizationDenied => ("authorization_denied", 2)
  | .fleetSeeded => ("fleet_seeded", 2)
  | .worldStateExported => ("world_state_exported", 1)
  | .worldStateExportFailed => ("world_state_export_failed", 1)
  | .worldStateImported => ("world_state_imported", 2)
  | .worldStateImportFailed => ("world_state_import_failed", 1)
  | .worldStateCorruptionDetected => ("world_state_corruption_detected", 1)
  | .worldStateSnapshotQuarantined => ("world_state_snapshot_quarantined", 1)
  | .worldStateRuntimeSwapped => ("world_state_runtime_swapped", 2)
  | .worldStateStartupRestored => ("world_state_startup_restored", 2)
  | .worldStateStartupRestoreSkipped => ("world_state_startup_restore_skipped", 1)
  | .worldStateStartupRestoreFailed => ("world_state_startup_restore_failed", 1)
  | .worldStateAdvanced => ("world_state_advanced", 2)
  | .routeStateReconciled => ("route_state_reconciled", 1)
  | .packageStateReconciled => ("package_state_reconciled", 1)
  | .truckPositionReconciled => ("truck_position_reconciled", 1)
  | .truckRouteReferenceReconciled => ("truck_route_reference_reconciled", 1)

/-- An event with its fields and the metadata that all events have. -/
def eventOf (fields : PublishedEvent) (eventId : Uuid) (occurredAt recordedAt : Datetime) :
    Event EventClass PublishedEvent where
  type := fields.1
  eventVersion := fields.1.eventVersion
  eventId
  occurredAt
  recordedAt
  payload := fields

section Registry

variable (u : UnicodeTables)

/-- The codec object of a class. -/
def eventPayloadCodec (eventClass : EventClass) : EventPayloadCodec EventClass PublishedEvent where
  eventClass
  eventType := .str eventClass.identity.1
  eventVersion := .int eventClass.identity.2
  decode payload eventId occurredAt recordedAt := do
    let fields ← (payloadCodec u occurredAt eventClass).decodeExact u payload
    .ok (eventOf ⟨eventClass, fields⟩ eventId occurredAt recordedAt)
  encode event :=
    .ok ((payloadCodec u event.occurredAt event.payload.1).encode event.payload.2)

/-- Register the codecs of all published classes; `composition/outbox_codecs.py:117–180`. -/
def registerEventPayloadCodecs : RegistryAction EventClass PublishedEvent PUnit :=
  forM publishedEventTypes fun eventClass ↦
    register u eventClasses eventClass (eventPayloadCodec u eventClass)

/-- A new registry with the codecs of all published classes;
`composition/outbox_codecs.py:183–204`. -/
def buildEventPayloadCodecRegistry :
    Except PyError (EventOutboxCodecRegistry EventClass PublishedEvent) :=
  match registerEventPayloadCodecs u .empty with
  | .ok _ registry => .ok registry
  | .error e _ => .error e

/-- The adapter of a class. -/
def EventClass.codecAdapter (eventClass : EventClass) : CodecAdapter EventClass PublishedEvent where
  eventClass
  decoder := (eventPayloadCodec u eventClass).toEventPayloadDecoder
  eventType := eventClass.identity.1
  eventVersion := eventClass.identity.2
  codec := eventPayloadCodec u eventClass

/-- What the checks of the reader say about an event; one that carries its time was also given
this time. -/
def Storable (occurredAt : Datetime) (fields : PublishedEvent) : Prop :=
  (payloadCodec u occurredAt fields.1).Valid fields.2

end Registry

theorem mem_publishedEventTypes (eventClass : EventClass) : eventClass ∈ publishedEventTypes := by
  cases eventClass <;> decide

/-- No two codecs advertise the same name. -/
theorem nodup_eventTypes : (publishedEventTypes.map fun c ↦ c.identity.1).Nodup := by
  decide +kernel

/-- Codecs advertise the version of their class. -/
theorem EventClass.identity_version (eventClass : EventClass) :
    eventClass.identity.2 = eventClass.eventVersion := by
  cases eventClass <;> rfl

theorem EventClass.one_le_eventVersion (eventClass : EventClass) : 1 ≤ eventClass.eventVersion := by
  cases eventClass <;> decide

section Build

variable {u : UnicodeTables}

/-- Names of codecs are words of letters, which nothing strips. -/
theorem requireEventType_identity (eventClass : EventClass) :
    requireEventType u (.str eventClass.identity.1) = .ok eventClass.identity.1 := by
  have hplain : (publishedEventTypes.all fun c ↦ c.identity.1 ≠ "" && c.identity.1.toList.all
      fun x ↦ isAsciiChar x && !isAsciiSpace x) = true := by decide +kernel
  simp only [List.all_eq_true, Bool.and_eq_true, Bool.not_eq_true', decide_eq_true_eq] at hplain
  obtain ⟨hne, hall⟩ := hplain eventClass (mem_publishedEventTypes eventClass)
  refine requireEventType_eq_ok_iff.mpr ⟨rfl, PyStr.strip_eq_self fun c hc ↦ ?_, hne⟩
  rw [PyStr.isSpace, if_pos (hall c hc).1, (hall c hc).2]

/-- The codec of a class becomes its adapter. -/
theorem codecAdapter_new (eventClass : EventClass) :
    CodecAdapter.new u eventClasses eventClass (eventPayloadCodec u eventClass) =
      .ok (eventClass.codecAdapter u) := by
  have hversion := eventClass.identity_version
  have hpos := eventClass.one_le_eventVersion
  refine CodecAdapter.new_eq_ok_iff.mpr ⟨DecoderAdapter.new_eq_ok_iff.mpr ?_, hversion, rfl⟩
  exact ⟨rfl, rfl, rfl, requireEventType_identity eventClass, rfl, hpos.trans_eq hversion.symm,
    eventClass.eventVersion, rfl, hpos⟩

theorem adapter_register (eventClass : EventClass) :
    (RegistryCall.register eventClass (eventPayloadCodec u eventClass)).adapter u eventClasses =
      .ok (.codec (eventClass.codecAdapter u)) :=
  RegistryCall.adapter_register_eq_ok_iff.mpr ⟨_, codecAdapter_new eventClass, rfl⟩

theorem codecAdapter_admitted (eventClass : EventClass) :
    (ErasedEventPayloadDecoder.codec (eventClass.codecAdapter u)).Admitted u eventClasses :=
  RegistryCall.admitted (adapter_register eventClass)

/-- Adapters of classes with different names are held together. -/
theorem codecAdapter_compatible {a b : EventClass} (h : a.identity.1 ≠ b.identity.1) :
    Compatible (.codec (a.codecAdapter u)) (.codec (b.codecAdapter u)) := by
  refine ⟨fun heq ↦ h (congrArg Prod.fst heq), ?_⟩
  rintro codec codec' hcodec hcodec' heq
  obtain rfl := ErasedEventPayloadDecoder.codec.inj hcodec
  obtain rfl := ErasedEventPayloadDecoder.codec.inj hcodec'
  exact h (congrArg (fun c : EventClass ↦ c.identity.1) heq)

/-- Registering further classes adds their adapters. -/
private theorem ensures_registerAll {registry : EventOutboxCodecRegistry EventClass PublishedEvent}
    {held classes : List EventClass}
    (h : registry.Holds (held.map fun c ↦ .codec (c.codecAdapter u)))
    (hnames : ((held ++ classes).map fun c ↦ c.identity.1).Nodup) :
    Ensures (forM classes fun c ↦ register u eventClasses c (eventPayloadCodec u c)) registry
      (fun _ after ↦ after.Holds ((held ++ classes).map fun c ↦ .codec (c.codecAdapter u)))
      (fun _ _ ↦ False) := by
  -- The registry and what it holds are general: each call moves one class over.
  induction classes generalizing registry held with
  | nil => simpa using h
  | cons c rest ih =>
    have hfree : registry.Free (.codec (c.codecAdapter u)) := by
      rw [h.free_iff]
      intro a ha
      obtain ⟨c', hc', rfl⟩ := List.mem_map.mp ha
      refine codecAdapter_compatible fun heq ↦ ?_
      rw [List.map_append, List.nodup_append] at hnames
      exact hnames.2.2 _ (List.mem_map_of_mem hc') _ (by simp) heq
    rw [List.forM_cons, ensures_bind]
    refine (ensures_perform (.register c (eventPayloadCodec u c))).mono ?_ ?_
    · rintro _ after ⟨a, ha, -, rfl⟩
      obtain rfl := Except.ok.inj ((adapter_register c).symm.trans ha)
      have hentered := h.enter hfree
      rw [List.append_cons] at hnames ⊢
      refine ih ?_ hnames
      simpa using hentered
    · rintro e after ⟨hno, -⟩
      exact hno _ (adapter_register c) hfree

/-- Each class has its adapter. -/
theorem mem_codecAdapters (eventClass : EventClass) :
    .codec (eventClass.codecAdapter u) ∈
      publishedEventTypes.map fun c ↦ ErasedEventPayloadDecoder.codec (c.codecAdapter u) :=
  List.mem_map_of_mem (mem_publishedEventTypes eventClass)

/-- The registry is built, and holds the adapters of all classes. -/
theorem buildEventPayloadCodecRegistry_eq_ok : ∃ registry,
    buildEventPayloadCodecRegistry u = .ok registry ∧
      registry.Holds (publishedEventTypes.map fun c ↦ .codec (c.codecAdapter u)) := by
  have h : Ensures (registerEventPayloadCodecs u) .empty
      (fun _ after ↦ after.Holds (publishedEventTypes.map fun c ↦ .codec (c.codecAdapter u)))
      (fun _ _ ↦ False) := by
    have hnone : (empty : EventOutboxCodecRegistry EventClass PublishedEvent).Holds
        (([] : List EventClass).map fun c ↦ .codec (c.codecAdapter u)) := holds_empty
    exact ensures_registerAll hnone nodup_eventTypes
  unfold buildEventPayloadCodecRegistry
  rw [ensures_iff] at h
  cases hrun : registerEventPayloadCodecs u .empty with
  | ok _ registry =>
    rw [hrun] at h
    exact ⟨registry, rfl, h⟩
  | error e registry =>
    rw [hrun] at h
    exact h.elim

variable {registry : EventOutboxCodecRegistry EventClass PublishedEvent}

/-- The adapter of a class, where it is held, is found by events of the class and by its
identity. -/
theorem codecAdapter_found
    {adapters : List (ErasedEventPayloadDecoder EventClass PublishedEvent)}
    (h : registry.Holds adapters) {eventClass : EventClass}
    (hmem : .codec (eventClass.codecAdapter u) ∈ adapters) :
    (∃ handle, ∀ event, event.type = eventClass →
      registry.forEvent eventClasses event = .ok ⟨handle, eventClass.codecAdapter u⟩) ∧
    ∃ handle, registry.forIdentity u (.str eventClass.identity.1) (.int eventClass.eventVersion) =
      .ok ⟨handle, .codec (eventClass.codecAdapter u)⟩ := by
  obtain ⟨handle, hclass⟩ := (h.eventClass _ _).mpr ⟨hmem, rfl⟩
  obtain ⟨handle', hidentity⟩ := (h.identity _ _).mpr ⟨hmem, rfl⟩
  refine ⟨⟨handle, fun event hevent ↦ ?_⟩, handle', ?_⟩
  · exact forEvent_eq_ok_iff.mpr (hevent ▸ hclass)
  · rw [← eventClass.identity_version]
    have hadmitted := codecAdapter_admitted (u := u) eventClass
    exact forIdentity_of_admitted (o := ⟨handle', .codec (eventClass.codecAdapter u)⟩) hadmitted
      hidentity

/-! ### Writing and reading -/

/-- What the adapter of a class reads. -/
theorem codecAdapter_decode_eq_ok_iff {eventClass : EventClass} {payload : JsonObject}
    {eventId : Uuid} {occurredAt recordedAt : Datetime}
    {event : Event EventClass PublishedEvent} :
    (eventClass.codecAdapter u).toDecoderAdapter.decode eventClasses payload eventId occurredAt
        recordedAt = .ok event ↔
      Json.validateFields "payload" payload = .ok () ∧
      ∃ fields, (payloadCodec u occurredAt eventClass).decodeExact u payload = .ok fields ∧
        event = eventOf ⟨eventClass, fields⟩ eventId occurredAt recordedAt := by
  have hread : ∀ {payload read}, (eventClass.codecAdapter u).decoder.decode payload eventId
      occurredAt recordedAt = .ok read ↔
        ∃ fields, (payloadCodec u occurredAt eventClass).decodeExact u payload = .ok fields ∧
          .ok (eventOf ⟨eventClass, fields⟩ eventId occurredAt recordedAt) = Except.ok read :=
    except_bind_eq_ok_iff
  unfold DecoderAdapter.decode
  simp only [except_bind_eq_ok_iff, ↓require_bind_eq_ok_iff, requireJsonObject_eq_ok_iff, hread,
    Except.ok.injEq]
  constructor
  · rintro ⟨_, ⟨rfl, hvalid⟩, _, ⟨fields, hfields, rfl⟩, -, -, rfl⟩
    exact ⟨hvalid, fields, hfields, rfl⟩
  · rintro ⟨hvalid, fields, hfields, rfl⟩
    exact ⟨payload, ⟨rfl, hvalid⟩, _, ⟨fields, hfields, rfl⟩, rfl, ⟨rfl, rfl, rfl⟩, rfl⟩

variable [Fact (PyStr.UpperStable u)] {fields : PublishedEvent} {eventId : Uuid}
  {occurredAt recordedAt : Datetime} {payload : JsonObject}

/-- The adapter of its class reads back a storable event. -/
theorem codecAdapter_decode_encode (h : Storable u occurredAt fields) :
    (fields.1.codecAdapter u).toDecoderAdapter.decode eventClasses
        ((payloadCodec u occurredAt fields.1).encode fields.2) eventId occurredAt recordedAt =
      .ok (eventOf fields eventId occurredAt recordedAt) :=
  codecAdapter_decode_eq_ok_iff.mpr ⟨PayloadCodec.Lawful.validateFields h _, fields.2,
    (PayloadCodec.decodeExact_encode_iff (nodup_keys fields.1)).mpr h, rfl⟩

/-- Exactly the storable events are written. -/
theorem codecAdapter_encode_eq_ok_iff :
    (fields.1.codecAdapter u).encode eventClasses (eventOf fields eventId occurredAt recordedAt) =
        .ok payload ↔
      Storable u occurredAt fields ∧
        payload = (payloadCodec u occurredAt fields.1).encode fields.2 := by
  have hwrite : (fields.1.codecAdapter u).codec.encode
      (eventOf fields eventId occurredAt recordedAt) =
        .ok ((payloadCodec u occurredAt fields.1).encode fields.2) := rfl
  have hversion : (eventOf fields eventId occurredAt recordedAt).eventVersion =
      (fields.1.codecAdapter u).eventVersion := fields.1.identity_version.symm
  unfold CodecAdapter.encode
  simp only [except_bind_eq_ok_iff, ↓require_bind_eq_ok_iff, requireJsonObject_eq_ok_iff, hwrite,
    Except.ok.injEq, exists_eq_left']
  constructor
  · rintro ⟨-, -, _, ⟨rfl, -⟩, decoded, hdecoded, hsame, rfl⟩
    obtain ⟨-, read, hread, rfl⟩ := codecAdapter_decode_eq_ok_iff.mp hdecoded
    obtain rfl : read = fields.2 := eq_of_heq (Sigma.mk.inj hsame.payload).2
    exact ⟨(PayloadCodec.decodeExact_encode_iff (nodup_keys fields.1)).mp hread, rfl⟩
  · rintro ⟨hvalid, rfl⟩
    exact ⟨rfl, hversion, _, ⟨rfl, PayloadCodec.Lawful.validateFields hvalid _⟩, _,
      codecAdapter_decode_encode hvalid, ⟨rfl, rfl, rfl, rfl, rfl⟩, rfl⟩

end Build

/-! ### The registry as a whole -/

/-- The registry is built. It writes exactly the storable events, and what it wrote under the
identity of an event it reads back as this event. -/
theorem stored_events_replay {u : UnicodeTables} (hu : PyStr.UpperStable u) :
    ∃ registry, buildEventPayloadCodecRegistry u = .ok registry ∧
      ∀ (fields : PublishedEvent) (eventId : Uuid) (occurredAt recordedAt : Datetime),
        ∃ writer reader,
          registry.forEvent eventClasses (eventOf fields eventId occurredAt recordedAt) =
            .ok writer ∧
          registry.forIdentity u (.str fields.1.identity.1) (.int fields.1.eventVersion) =
            .ok reader ∧
          ((∃ payload, writer.value.encode eventClasses
              (eventOf fields eventId occurredAt recordedAt) = .ok payload) ↔
            Storable u occurredAt fields) ∧
          ∀ payload, writer.value.encode eventClasses
              (eventOf fields eventId occurredAt recordedAt) = .ok payload →
            reader.value.toDecoderAdapter.decode eventClasses payload eventId occurredAt
              recordedAt = .ok (eventOf fields eventId occurredAt recordedAt) := by
  have := Fact.mk hu
  obtain ⟨registry, hbuild, hholds⟩ := buildEventPayloadCodecRegistry_eq_ok (u := u)
  refine ⟨registry, hbuild, fun fields eventId occurredAt recordedAt ↦ ?_⟩
  obtain ⟨⟨handle, hwriter⟩, handle', hreader⟩ :=
    codecAdapter_found hholds (mem_codecAdapters fields.1)
  refine ⟨_, _, hwriter _ rfl, hreader, ?_, ?_⟩
  · constructor
    · rintro ⟨payload, hpayload⟩
      exact (codecAdapter_encode_eq_ok_iff.mp hpayload).1
    · intro hvalid
      exact ⟨_, codecAdapter_encode_eq_ok_iff.mpr ⟨hvalid, rfl⟩⟩
  · intro payload hpayload
    obtain ⟨hvalid, rfl⟩ := codecAdapter_encode_eq_ok_iff.mp hpayload
    exact codecAdapter_decode_encode hvalid

/-- Whatever the registry reads is an event of the class that the name and the version belong to,
from a payload with exactly the fields of this class; the event can be written, and what is
written then is read as the same event. -/
theorem read_events_rewritten {u : UnicodeTables} (hu : PyStr.UpperStable u)
    {registry : EventOutboxCodecRegistry EventClass PublishedEvent}
    (hbuild : buildEventPayloadCodecRegistry u = .ok registry) {eventType eventVersion : PyValue}
    {reader : Object (ErasedEventPayloadDecoder EventClass PublishedEvent)}
    (hreader : registry.forIdentity u eventType eventVersion = .ok reader)
    {payload : JsonObject} {eventId : Uuid} {occurredAt recordedAt : Datetime}
    {event : Event EventClass PublishedEvent}
    (hread : reader.value.toDecoderAdapter.decode eventClasses payload eventId occurredAt
      recordedAt = .ok event) :
    ∃ fields, event = eventOf fields eventId occurredAt recordedAt ∧
      eventType = .str fields.1.identity.1 ∧ eventVersion = .int fields.1.eventVersion ∧
      (∀ key, key ∈ payload.map Prod.fst ↔ key ∈ (payloadCodec u occurredAt fields.1).keys) ∧
      Storable u occurredAt fields ∧
      ∃ writer rewritten, registry.forEvent eventClasses event = .ok writer ∧
        writer.value.encode eventClasses event = .ok rewritten ∧
        reader.value.toDecoderAdapter.decode eventClasses rewritten eventId occurredAt
          recordedAt = .ok event := by
  have := Fact.mk hu
  obtain ⟨built, hbuilt, hholds⟩ := buildEventPayloadCodecRegistry_eq_ok (u := u)
  obtain rfl := Except.ok.inj (hbuild.symm.trans hbuilt)
  obtain ⟨-, hmem, htype, hversion⟩ := hholds.of_forIdentity hreader
  obtain ⟨eventClass, -, heq⟩ := List.mem_map.mp hmem
  rw [← heq] at hread htype hversion ⊢
  obtain ⟨-, fields, hfields, rfl⟩ := codecAdapter_decode_eq_ok_iff.mp hread
  obtain ⟨hkeys, hdecode⟩ := PayloadCodec.decodeExact_eq_ok_iff.mp hfields
  have hvalid : Storable u occurredAt ⟨eventClass, fields⟩ :=
    PayloadCodec.Lawful.valid_of_decode hdecode
  obtain ⟨⟨handle, hwriter⟩, -⟩ := codecAdapter_found hholds (mem_codecAdapters eventClass)
  have hcurrent : eventVersion = .int eventClass.eventVersion :=
    hversion.trans (congrArg PyValue.int eventClass.identity_version)
  exact ⟨⟨eventClass, fields⟩, rfl, htype, hcurrent, hkeys, hvalid, _, _, hwriter _ rfl,
    codecAdapter_encode_eq_ok_iff.mpr ⟨hvalid, rfl⟩, codecAdapter_decode_encode hvalid⟩

/-- Whatever is registered later, the codecs of the published classes stay: only readers of older
versions are accepted, every event is written as before, and rows that the registry wrote are read
as the events they were written for. -/
theorem stored_rows_survive {u : UnicodeTables} (hu : PyStr.UpperStable u)
    {built : EventOutboxCodecRegistry EventClass PublishedEvent}
    (hbuild : buildEventPayloadCodecRegistry u = .ok built)
    (calls : List (RegistryCall EventClass PublishedEvent)) :
    (∀ call ∈ accepted u eventClasses built calls,
      ∃ eventClass decoder, call = .registerDecoder eventClass decoder) ∧
    ∀ (fields : PublishedEvent) (eventId : Uuid) (occurredAt recordedAt : Datetime)
      (writer : Object (CodecAdapter EventClass PublishedEvent)) (payload : JsonObject),
      built.forEvent eventClasses (eventOf fields eventId occurredAt recordedAt) = .ok writer →
      writer.value.encode eventClasses (eventOf fields eventId occurredAt recordedAt) =
        .ok payload →
      ∃ writer' reader,
        (run u eventClasses built calls).forEvent eventClasses
          (eventOf fields eventId occurredAt recordedAt) = .ok writer' ∧
        writer'.value.encode eventClasses (eventOf fields eventId occurredAt recordedAt) =
          .ok payload ∧
        (run u eventClasses built calls).forIdentity u (.str fields.1.identity.1)
          (.int fields.1.eventVersion) = .ok reader ∧
        reader.value.toDecoderAdapter.decode eventClasses payload eventId occurredAt recordedAt =
          .ok (eventOf fields eventId occurredAt recordedAt) := by
  have := Fact.mk hu
  obtain ⟨registry, hbuilt, hholds⟩ := buildEventPayloadCodecRegistry_eq_ok (u := u)
  obtain rfl := Except.ok.inj (hbuild.symm.trans hbuilt)
  obtain ⟨hlater, hvalid⟩ := hholds.run u eventClasses calls
  constructor
  · intro call hcall
    cases call with
    | registerDecoder eventClass decoder => exact ⟨eventClass, decoder, rfl⟩
    | register eventClass codec =>
      -- A second encoder of a class is not held beside the first one.
      obtain ⟨a, ha⟩ := hvalid _ hcall
      obtain ⟨made, hnew, rfl⟩ := RegistryCall.adapter_register_eq_ok_iff.mp ha
      have hadded : .codec made ∈ adaptersOf u eventClasses (accepted u eventClasses built calls) :=
        mem_adaptersOf.mpr ⟨_, hcall, ha⟩
      have hapart := (List.pairwise_append.mp hlater.compatible).2.2 _
        (mem_codecAdapters eventClass) _ hadded
      exact absurd (CodecAdapter.spec_of_new hnew).1.symm (hapart.eventClass _ _ rfl rfl)
  · intro fields eventId occurredAt recordedAt writer payload hwriter hpayload
    obtain ⟨⟨handle, hfound⟩, -⟩ := codecAdapter_found hholds (mem_codecAdapters fields.1)
    obtain rfl := Except.ok.inj ((hfound _ rfl).symm.trans hwriter)
    obtain ⟨⟨handle', hwriter'⟩, handle'', hreader⟩ := codecAdapter_found hlater
      (List.mem_append_left _ (mem_codecAdapters fields.1))
    obtain ⟨hvalid, rfl⟩ := codecAdapter_encode_eq_ok_iff.mp hpayload
    exact ⟨_, _, hwriter' _ rfl, hpayload, hreader, codecAdapter_decode_encode hvalid⟩

end FleetFlow.Outbox

namespace FleetFlow.Scenario

open Outbox

theorem mel_nonBlank : "MEL" ≠ "" := by decide

theorem syd_nonBlank : "SYD" ≠ "" := by decide

/-- A package that the heartbeat put back before its pickup, with no scheduled delivery. -/
def correctedPackage : PublishedEvent :=
  ⟨.packageStateReconciled,
    { packageId := 1
      routeId := some 2
      previousStatus := .inProgress
      newStatus := .todo
      previousLocation := Map.hub "MEL" mel_nonBlank
      newLocation := Map.hub "SYD" syd_nonBlank
      previousExpectedArrival := some .min
      newExpectedArrival := none
      scheduledPickupTime := some .min
      scheduledDeliveryTime := none
      reasons := [.lifecycleStateInconsistent, .beforeScheduledPickup]
      occurredAt := .min }⟩

theorem storable_correctedPackage : Storable .asciiOnly .min correctedPackage := by
  have hsyd : (Map.hub "SYD" syd_nonBlank).Canonical .asciiOnly :=
    Map.canonical_of_mem (by decide)
  have hmel : (Map.hub "MEL" mel_nonBlank).Canonical .asciiOnly :=
    Map.canonical_of_mem (by decide)
  have hroute : ValueCodec.positiveInt.optional.Valid (some 2) := fun n hn ↦ by
    obtain rfl := Option.some.inj hn
    show (1 : Int) ≤ 2
    decide
  exact ⟨⟨rfl, Int.le_refl 1, hroute, trivial, trivial, hmel, hsyd, fun _ _ ↦ trivial,
    fun _ _ ↦ trivial, fun _ _ ↦ trivial, fun _ _ ↦ trivial, fun _ _ ↦ trivial⟩, rfl⟩

/-- The event of the corrected package is stored, and read back from what is stored. -/
theorem stored_events_replay_package : ∃ registry writer reader payload,
    buildEventPayloadCodecRegistry .asciiOnly = .ok registry ∧
      registry.forEvent eventClasses (eventOf correctedPackage 0 .min .min) = .ok writer ∧
      writer.value.encode eventClasses (eventOf correctedPackage 0 .min .min) = .ok payload ∧
      registry.forIdentity .asciiOnly (.str "package_state_reconciled") (.int 1) = .ok reader ∧
      reader.value.toDecoderAdapter.decode eventClasses payload 0 .min .min =
        .ok (eventOf correctedPackage 0 .min .min) := by
  obtain ⟨registry, hbuild, hall⟩ := stored_events_replay upperStable_asciiOnly
  obtain ⟨writer, reader, hwriter, hreader, hwritten, hback⟩ := hall correctedPackage 0 .min .min
  obtain ⟨payload, hpayload⟩ := hwritten.mpr storable_correctedPackage
  exact ⟨registry, writer, reader, payload, hbuild, hwriter, hpayload, hreader,
    hback payload hpayload⟩

/-- A row of the corrected package that another writer left, with small letters and blanks. -/
def correctedPackageRow : JsonObject :=
  [("reasons", .arr [.str "lifecycle_state_inconsistent", .str "before_scheduled_pickup"]),
    ("package_id", .int 1), ("route_id", .int 2),
    ("previous_status", .str (ItemStatus.value .inProgress)),
    ("new_status", .str (ItemStatus.value .todo)),
    ("previous_location", .str " mel"), ("new_location", .str "syd "),
    ("previous_expected_arrival", .str (Datetime.isoformat .min)),
    ("new_expected_arrival", .null),
    ("scheduled_pickup_time", .str (Datetime.isoformat .min)),
    ("scheduled_delivery_time", .null)]

/-- The row is read as the corrected package. -/
theorem decode_correctedPackageRow :
    (EventClass.packageStateReconciled.codecAdapter .asciiOnly).toDecoderAdapter.decode eventClasses
      correctedPackageRow 0 .min .min = .ok (eventOf correctedPackage 0 .min .min) := by
  refine codecAdapter_decode_eq_ok_iff.mpr ⟨by decide +kernel, correctedPackage.2, ?_, rfl⟩
  decide +kernel

/-- This row is read under the name and version of its class as the event of the corrected
package; the event is written anew as another row, and this one is read as the same event. -/
theorem read_events_rewritten_package : ∃ registry reader writer rewritten,
    buildEventPayloadCodecRegistry .asciiOnly = .ok registry ∧
      registry.forIdentity .asciiOnly (.str "package_state_reconciled") (.int 1) = .ok reader ∧
      reader.value.toDecoderAdapter.decode eventClasses correctedPackageRow 0 .min .min =
        .ok (eventOf correctedPackage 0 .min .min) ∧
      (∀ key, key ∈ correctedPackageRow.map Prod.fst ↔
        key ∈ (payloadCodec .asciiOnly .min .packageStateReconciled).keys) ∧
      Storable .asciiOnly .min correctedPackage ∧
      registry.forEvent eventClasses (eventOf correctedPackage 0 .min .min) = .ok writer ∧
      writer.value.encode eventClasses (eventOf correctedPackage 0 .min .min) = .ok rewritten ∧
      reader.value.toDecoderAdapter.decode eventClasses rewritten 0 .min .min =
        .ok (eventOf correctedPackage 0 .min .min) := by
  have := Fact.mk upperStable_asciiOnly
  obtain ⟨registry, hbuild, hholds⟩ := buildEventPayloadCodecRegistry_eq_ok (u := .asciiOnly)
  obtain ⟨-, handle, hreader⟩ :=
    codecAdapter_found hholds (mem_codecAdapters .packageStateReconciled)
  obtain ⟨fields, hevent, -, -, hkeys, hstorable, writer, rewritten, hwriter, hrewritten, hback⟩ :=
    read_events_rewritten upperStable_asciiOnly hbuild hreader decode_correctedPackageRow
  obtain rfl : correctedPackage = fields := congrArg Event.payload hevent
  exact ⟨registry, _, writer, rewritten, hbuild, hreader, decode_correctedPackageRow, hkeys,
    hstorable, hwriter, hrewritten, hback⟩

/-- A customer of the first minute. -/
def firstCustomer : PublishedEvent := ⟨.customerCreated, ⟨1, .min⟩⟩

theorem storable_firstCustomer : Storable .asciiOnly .min firstCustomer :=
  ⟨rfl, Int.le_refl 1⟩

/-- A reader of an older package event, and a second codec of customers. -/
def laterCalls : List (RegistryCall EventClass PublishedEvent) :=
  [.registerDecoder .packageCreated { (eventPayloadCodec .asciiOnly .packageCreated) with
      eventVersion := .int 1 },
    .register .customerCreated (eventPayloadCodec .asciiOnly .customerCreated)]

/-- After these calls the first customer is still read from its row. -/
theorem stored_rows_survive_customer : ∃ registry writer payload reader,
    buildEventPayloadCodecRegistry .asciiOnly = .ok registry ∧
      registry.forEvent eventClasses (eventOf firstCustomer 0 .min .min) = .ok writer ∧
      writer.value.encode eventClasses (eventOf firstCustomer 0 .min .min) = .ok payload ∧
      (EventOutboxCodecRegistry.run .asciiOnly eventClasses registry laterCalls).forIdentity
        .asciiOnly (.str "customer_created") (.int 1) = .ok reader ∧
      reader.value.toDecoderAdapter.decode eventClasses payload 0 .min .min =
        .ok (eventOf firstCustomer 0 .min .min) := by
  have := Fact.mk upperStable_asciiOnly
  obtain ⟨registry, hbuild, hholds⟩ := buildEventPayloadCodecRegistry_eq_ok (u := .asciiOnly)
  obtain ⟨⟨handle, hwriter⟩, -⟩ :=
    codecAdapter_found hholds (mem_codecAdapters .customerCreated)
  have hpayload : (EventClass.customerCreated.codecAdapter .asciiOnly).encode eventClasses
      (eventOf firstCustomer 0 .min .min) = .ok [("customer_id", .int 1)] :=
    codecAdapter_encode_eq_ok_iff.mpr ⟨storable_firstCustomer, rfl⟩
  obtain ⟨-, hstored⟩ := stored_rows_survive upperStable_asciiOnly hbuild laterCalls
  obtain ⟨-, reader, -, -, hreader, hread⟩ :=
    hstored firstCustomer 0 .min .min _ _ (hwriter _ rfl) hpayload
  exact ⟨registry, _, _, reader, hbuild, hwriter _ rfl, hpayload, hreader, hread⟩

end FleetFlow.Scenario
