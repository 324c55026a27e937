import FleetFlow.Audit.Records
import FleetFlow.Base.Program

/-!
# From pending events to audit records

Follows `application/eventing/collector.py`, `adapters/driven/events/in_process_dispatcher.py`,
`application/event_handlers/audit_event_handler.py` and `composition/event_subscriptions.py`. A
collector publishes what recorders hold and clears it once all of it is published; a handler may
raise at any call, and what was audited until then stays audited.
-/

namespace FleetFlow

open Program

/-! ### Events and envelopes -/

/-- The part of an event that all classes share, over the class and the rest; `shared/event.py`. -/
structure Event (τ π : Type) where
  type : τ
  eventVersion : Int
  eventId : Uuid
  occurredAt : Datetime
  recordedAt : Datetime
  payload : π

/-- The user whose request recorded an event; `application/eventing/envelope.py:11–43`. -/
structure EventActor where
  userId : Int
  username : String

/-- What is known of the request in which events are published;
`application/eventing/context.py:11–27`. -/
structure EventContext where
  correlationId : Uuid
  source : EventSource
  actor : Option EventActor
  causationId : Option Uuid

/-- An event with the context of its publication; `application/eventing/envelope.py:46–113`. -/
structure EventEnvelope (τ π : Type) where
  event : Event τ π
  source : EventSource
  correlationId : Uuid
  actor : Option EventActor
  causationId : Option Uuid
  envelopeId : Uuid

/-- `application/eventing/current_context.py:55–67` and `application/eventing/context.py:29–43`,
with the envelope id that `uuid4` returns. -/
def envelopeEvent {τ π : Type} (context : Option EventContext) (envelopeId : Uuid)
    (event : Event τ π) : Except PyError (EventEnvelope τ π) :=
  match context with
  | none => .error ⟨.runtimeError, "No event context is bound."⟩
  | some context => .ok {
      event
      source := context.source
      correlationId := context.correlationId
      actor := context.actor
      causationId := context.causationId
      envelopeId }

/-! ### Dispatcher -/

/-- The handlers of each event type, first subscribed first, over the handler objects;
`adapters/driven/events/in_process_dispatcher.py:29–40`. -/
structure InProcessEventDispatcher (τ η : Type) where
  handlers : τ → List η

namespace InProcessEventDispatcher

variable {τ π η σ : Type} [DecidableEq τ]

/-- A dispatcher without handlers. -/
def empty : InProcessEventDispatcher τ η := ⟨fun _ ↦ []⟩

/-- Add a handler after those that a type already has;
`adapters/driven/events/in_process_dispatcher.py:42–49`. -/
def subscribe (dispatcher : InProcessEventDispatcher τ η) (eventType : τ) (handler : η) :
    InProcessEventDispatcher τ η :=
  ⟨Function.update dispatcher.handlers eventType (dispatcher.handlers eventType ++ [handler])⟩

/-- Hand an envelope to every handler of its type, in the order of subscription;
`adapters/driven/events/in_process_dispatcher.py:51–64`. -/
def publish (dispatcher : InProcessEventDispatcher τ η)
    (handle : η → EventEnvelope τ π → Program PyError σ PUnit) (envelope : EventEnvelope τ π) :
    Program PyError σ PUnit :=
  forM (dispatcher.handlers envelope.event.type) fun handler ↦ handle handler envelope

/-- Publish envelopes one after the other;
`adapters/driven/events/in_process_dispatcher.py:66–77`. -/
def publishAll (dispatcher : InProcessEventDispatcher τ η)
    (handle : η → EventEnvelope τ π → Program PyError σ PUnit)
    (envelopes : List (EventEnvelope τ π)) : Program PyError σ PUnit :=
  forM envelopes (dispatcher.publish handle)

end InProcessEventDispatcher

/-! ### Descriptors -/

/-- What an audit record says about one event; `application/models/audit_descriptor.py`. -/
structure AuditDescriptor where
  resourceType : AuditResourceType
  resourceId : Option String
  action : AuditAction
  payloadJson : JsonObject

/-- Descriptor factories for event types; `application/services/audit_mapping/mapper.py:44–63`. -/
structure AuditDescriptorMapper (τ π : Type) where
  registry : Dict τ (Event τ π → Except PyError AuditDescriptor)

namespace AuditDescriptorMapper

variable {τ π : Type} [DecidableEq τ]

/-- The types that the mapper has a function for;
`application/services/audit_mapping/mapper.py:65–68`. -/
def eventTypes (mapper : AuditDescriptorMapper τ π) : List τ :=
  mapper.registry.entries.map Prod.fst

/-- `application/services/audit_mapping/mapper.py:70–85`, given the names of the classes. -/
def map (mapper : AuditDescriptorMapper τ π) (name : τ → String) (event : Event τ π) :
    Except PyError AuditDescriptor :=
  match mapper.registry.get? event.type with
  | none => .error ⟨.valueError, "Unsupported event type: " ++ name event.type⟩
  | some factory => factory event

end AuditDescriptorMapper

/-! ### Handlers and their world -/

/-- The pending events of recorders, the log, the audit store, and how many handler calls go
through before one raises. -/
structure EventingState (ρ τ π : Type) where
  pending : ρ → List (Event τ π)
  log : List (EventEnvelope τ π)
  audit : InMemoryAuditRepository
  remaining : Option Nat

/-- The handlers that are subscribed; `composition/event_subscriptions.py:47–53`. -/
inductive Subscriber where
  | logging
  | audit
deriving DecidableEq, Repr

/-- What an attempt to drain finds: the bound context, the ids that its envelopes get, the clock
readings for the records it stores, and the handler calls that go through before one raises. -/
structure Attempt where
  context : Option EventContext
  envelopeId : Nat → Uuid
  createdAt : Uuid → Datetime
  calls : Option Nat

section Handlers

variable {ρ τ π : Type} [DecidableEq τ] (u : UnicodeTables) (name : τ → String)
  (mapper : AuditDescriptorMapper τ π) (createdAt : Uuid → Datetime)

/-- The draft that the audit handler assembles;
`application/event_handlers/audit_event_handler.py:46–62`. -/
def auditDraft (envelope : EventEnvelope τ π) (descriptor : AuditDescriptor) : AuditRecordDraft where
  eventId := envelope.event.eventId
  eventVersion := envelope.event.eventVersion
  eventType := name envelope.event.type
  occurredAt := envelope.event.occurredAt
  recordedAt := envelope.event.recordedAt
  envelopeId := envelope.envelopeId
  correlationId := envelope.correlationId
  causationId := envelope.causationId
  source := envelope.source
  actorUserId := envelope.actor.map EventActor.userId
  actorUsername := envelope.actor.map EventActor.username
  resourceType := descriptor.resourceType
  resourceId := descriptor.resourceId
  action := descriptor.action
  payloadJson := descriptor.payloadJson

/-- Map an event, check its draft and store the record;
`application/event_handlers/audit_event_handler.py:33–63`. -/
def AuditEventHandler.handle (envelope : EventEnvelope τ π) :
    Program PyError (EventingState ρ τ π) PUnit := do
  let descriptor ← lift (mapper.map name envelope.event)
  let draft ← lift (AuditRecordDraft.new u (auditDraft name envelope descriptor))
  let state ← get
  let audit ← lift (state.audit.add u draft (createdAt draft.eventId))
  set { state with audit }

/-- Log an envelope; `adapters/driven/events/structured_event_logging_handler.py:20–45`. -/
def StructuredEventLoggingHandler.handle (envelope : EventEnvelope τ π) :
    Program PyError (EventingState ρ τ π) PUnit :=
  modify fun state ↦ { state with log := state.log ++ [envelope] }

/-- A call of a subscribed handler, unless it is the one that raises. -/
def Subscriber.handle (subscriber : Subscriber) (envelope : EventEnvelope τ π) :
    Program PyError (EventingState ρ τ π) PUnit := do
  let state ← get
  require (state.remaining ≠ some 0) ⟨.runtimeError, "Handler failed."⟩
  set { state with remaining := state.remaining.map (· - 1) }
  match subscriber with
  | .logging => StructuredEventLoggingHandler.handle envelope
  | .audit => AuditEventHandler.handle u name mapper createdAt envelope

/-- Logging for every published type, then auditing for every mapped type;
`composition/event_subscriptions.py:60–86`. -/
def registerEventSubscriptions (publishedEventTypes : List τ) :
    InProcessEventDispatcher τ Subscriber :=
  let logged := publishedEventTypes.foldl (fun d eventType ↦ d.subscribe eventType .logging)
    InProcessEventDispatcher.empty
  mapper.eventTypes.foldl (fun d eventType ↦ d.subscribe eventType .audit) logged

end Handlers

/-! ### Collector -/

namespace Eventing

section Collector

variable {ρ τ π : Type} [DecidableEq ρ] [DecidableEq τ]

/-- The recorders that hold events, with these; `application/eventing/collector.py:87–112`. -/
def captureSnapshots (pending : ρ → List (Event τ π)) (seen : List ρ) :
    List ρ → Except PyError (List (ρ × List (Event τ π)))
  | [] => .ok []
  | recorder :: rest => do
    require (recorder ∉ seen)
      ⟨.valueError, "The same event recorder was supplied more than once."⟩
    let snapshots ← captureSnapshots pending (recorder :: seen) rest
    .ok (if (pending recorder).isEmpty then snapshots
      else (recorder, pending recorder) :: snapshots)

/-- Envelopes for events, from an envelope id on. -/
def envelopeAll (context : Option EventContext) (envelopeId : Nat → Uuid) (first : Nat) :
    List (Event τ π) → Except PyError (List (EventEnvelope τ π))
  | [] => .ok []
  | event :: rest => do
    let envelope ← envelopeEvent context (envelopeId first) event
    let envelopes ← envelopeAll context envelopeId (first + 1) rest
    .ok (envelope :: envelopes)

/-- A state in which a recorder holds nothing. -/
def clearEvents (state : EventingState ρ τ π) (recorder : ρ) : EventingState ρ τ π :=
  { state with pending := Function.update state.pending recorder [] }

variable (u : UnicodeTables) (name : τ → String) (mapper : AuditDescriptorMapper τ π)
  (publishedEventTypes : List τ) (recorders : List ρ)

/-- Publish what the recorders hold and clear it; `application/eventing/collector.py:60–85`. -/
def drain (attempt : Attempt) : Program PyError (EventingState ρ τ π) PUnit := do
  let state ← get
  let snapshots ← lift (captureSnapshots state.pending [] recorders)
  let events := snapshots.flatMap Prod.snd
  if events.isEmpty then pure ⟨⟩
  else do
    let envelopes ← lift (envelopeAll attempt.context attempt.envelopeId 0 events)
    (registerEventSubscriptions mapper publishedEventTypes).publishAll
      (Subscriber.handle u name mapper attempt.createdAt) envelopes
    modify fun state ↦ snapshots.foldl (fun state snapshot ↦ clearEvents state snapshot.1) state

/-- An attempt to drain. -/
def run (attempt : Attempt) : Program PyError (EventingState ρ τ π) PUnit := do
  modify fun state ↦ { state with remaining := attempt.calls }
  drain u name mapper publishedEventTypes recorders attempt

/-- States that failed attempts in a row lead to. -/
inductive Failed : EventingState ρ τ π → EventingState ρ τ π → Prop
  | refl (state : EventingState ρ τ π) : Failed state state
  | snoc {state middle last : EventingState ρ τ π} {attempt : Attempt} {error : PyError}
      (h : Failed state middle)
      (hrun : run u name mapper publishedEventTypes recorders attempt middle = .error error last) :
      Failed state last

end Collector
end Eventing

/-! ### Adding to the store -/

namespace InMemoryAuditRepository

variable {u : UnicodeTables} {repository repository' : InMemoryAuditRepository}
  {draft : AuditRecordDraft} {now : Datetime}

/-- An event that is stored is not stored again. -/
theorem add_of_holds (h : repository.holds draft.eventId = true) :
    repository.add u draft now = .ok repository := by
  unfold add
  rw [dif_pos h]

/-- An event that is not stored gets one record, under the next id. -/
theorem of_add (hnew : ¬ repository.holds draft.eventId = true)
    (h : repository.add u draft now = .ok repository') :
    ∃ record, repository'.records = repository.records ++ [record] ∧
      record.eventId = draft.eventId ∧ record.auditId = repository.nextId ∧
      repository'.nextId = repository.nextId + 1 := by
  unfold add at h
  rw [dif_neg hnew] at h
  split at h
  · cases h
  · next record hrecord =>
    obtain rfl := Except.ok.inj h
    obtain ⟨hevent, hid⟩ := AuditRecord.of_new hrecord
    refine ⟨record, ?_, hevent, hid, rfl⟩
    apply repository.keyed.values_set_of_notMem
    intro other hother heq
    exact hnew (holds_iff.mpr ⟨other, hother, heq.trans hevent⟩)

end InMemoryAuditRepository
/-! ### What has been audited -/

/-- The ids that a store does not hold, each once, in the order of their first occurrence. -/
def InMemoryAuditRepository.unseen (base : InMemoryAuditRepository) (ids : List Uuid) : List Uuid :=
  (ids.filter fun id ↦ !base.holds id).eraseDups

/-- A store that got one record for each of the first events that it did not hold. -/
structure Audited (base : InMemoryAuditRepository) (ids : List Uuid)
    (repository : InMemoryAuditRepository) : Prop where
  records : ∃ new, repository.records = base.records ++ new ∧
    new.map (fun record ↦ record.eventId) = base.unseen ids ∧
    new.map AuditRecord.auditId = (List.range new.length).map fun i : Nat ↦ base.nextId + i
  nextId : repository.nextId = base.nextId + ((base.unseen ids).length : Int)

section Audited

variable {u : UnicodeTables} {base repository repository' : InMemoryAuditRepository}
  {ids : List Uuid} {id : Uuid}

/-- Nothing audited yet. -/
theorem Audited.refl : Audited base [] base :=
  ⟨⟨[], by simp, by simp [InMemoryAuditRepository.unseen], by simp⟩,
    by simp [InMemoryAuditRepository.unseen]⟩

/-- What such a store holds. -/
theorem Audited.holds_iff (h : Audited base ids repository) :
    repository.holds id = true ↔ base.holds id = true ∨ id ∈ ids := by
  obtain ⟨new, hrecords, hevents, -⟩ := h.records
  have hnew : (∃ record ∈ new, record.eventId = id) ↔ id ∈ ids ∧ ¬ base.holds id = true := by
    rw [← List.mem_map, hevents]
    simp [InMemoryAuditRepository.unseen]
  rw [InMemoryAuditRepository.holds_iff, hrecords]
  simp only [List.mem_append, or_and_right, exists_or, hnew, ← InMemoryAuditRepository.holds_iff]
  by_cases hbase : base.holds id = true <;> simp [hbase]

/-- An event that is held already adds nothing. -/
theorem Audited.seen (h : Audited base ids repository)
    (hid : base.holds id = true ∨ id ∈ ids) : Audited base (ids ++ [id]) repository := by
  have hsame : base.unseen (ids ++ [id]) = base.unseen ids := by
    unfold InMemoryAuditRepository.unseen
    rw [List.filter_append, List.eraseDups_append]
    by_cases hbase : base.holds id = true
    · simp [hbase]
    · simp [hbase, hid.resolve_left hbase, List.removeAll]
  obtain ⟨hrecords, hnext⟩ := h
  rw [← hsame] at hrecords hnext
  exact ⟨hrecords, hnext⟩

/-- An event that is not held adds one record. -/
theorem Audited.snoc (h : Audited base ids repository) (hid : ¬ base.holds id = true ∧ id ∉ ids)
    {record : AuditRecord} (hrecords : repository'.records = repository.records ++ [record])
    (hevent : record.eventId = id) (haudit : record.auditId = repository.nextId)
    (hnext : repository'.nextId = repository.nextId + 1) :
    Audited base (ids ++ [id]) repository' := by
  have hunseen : base.unseen (ids ++ [id]) = base.unseen ids ++ [id] := by
    unfold InMemoryAuditRepository.unseen
    rw [List.filter_append, List.eraseDups_append]
    simp [hid.1, hid.2, List.removeAll, List.eraseDups_cons]
  obtain ⟨new, hnew, hevents, haudits⟩ := h.records
  have hlength : new.length = (base.unseen ids).length := by
    rw [← hevents, List.length_map]
  constructor
  · refine ⟨new ++ [record], by rw [hrecords, hnew, List.append_assoc], ?_, ?_⟩
    · rw [List.map_append, hevents, hunseen, List.map_singleton, hevent]
    · rw [List.map_append, haudits, List.length_append, List.length_singleton, List.range_succ,
        List.map_append, List.map_singleton, List.map_singleton, haudit, h.nextId, hlength]
  · rw [hnext, h.nextId, hunseen, List.length_append, List.length_singleton]
    omega

/-- Adding a draft of the next event. -/
theorem Audited.add {draft : AuditRecordDraft} {now : Datetime} (h : Audited base ids repository)
    (hadd : repository.add u draft now = .ok repository') :
    Audited base (ids ++ [draft.eventId]) repository' := by
  by_cases hold : repository.holds draft.eventId = true
  · rw [InMemoryAuditRepository.add_of_holds hold, Except.ok.injEq] at hadd
    subst hadd
    exact h.seen (h.holds_iff.mp hold)
  · obtain ⟨record, hrecords, hevent, haudit, hnext⟩ := InMemoryAuditRepository.of_add hold hadd
    rw [h.holds_iff, not_or] at hold
    exact h.snoc hold hrecords hevent haudit hnext

/-- Adding a draft of an event that was audited before changes nothing. -/
theorem Audited.add_again {draft : AuditRecordDraft} {now : Datetime}
    (h : Audited base ids repository) (hmem : draft.eventId ∈ ids)
    (hadd : repository.add u draft now = .ok repository') : repository' = repository := by
  rw [InMemoryAuditRepository.add_of_holds (h.holds_iff.mpr (.inr hmem)), Except.ok.injEq] at hadd
  exact hadd.symm

end Audited

/-! ### Attempts -/

section Attempts

variable {ρ τ π : Type} [DecidableEq τ] {u : UnicodeTables} {name : τ → String}
  {mapper : AuditDescriptorMapper τ π} {createdAt : Uuid → Datetime}
  {pending : ρ → List (Event τ π)} {base : InMemoryAuditRepository} {ids : List Uuid}
  {state : EventingState ρ τ π} {envelope : EventEnvelope τ π}

/-- Nothing is cleared, and the first events are audited. -/
structure AuditedUpTo (pending : ρ → List (Event τ π)) (base : InMemoryAuditRepository)
    (ids : List Uuid) (m : Nat) (state : EventingState ρ τ π) : Prop where
  pending : state.pending = pending
  audited : Audited base (ids.take m) state.audit

/-- The audit handler stores a record for the next event, or finds one. -/
theorem AuditedUpTo.ensures_audit {i m : Nat} (h : AuditedUpTo pending base ids m state)
    (hi : ids[i]? = some envelope.event.eventId) (him : i ≤ m) :
    Ensures (AuditEventHandler.handle u name mapper createdAt envelope) state
      (fun _ state' ↦ AuditedUpTo pending base ids (max m (i + 1)) state')
      (fun _ state' ↦ AuditedUpTo pending base ids m state') := by
  unfold AuditEventHandler.handle
  simp only [ensures_bind, ensures_get, ensures_set, ensures_lift]
  refine ⟨fun descriptor _ ↦ ⟨fun draft hdraft ↦ ⟨fun audit hadd ↦ ?_, fun _ _ ↦ h⟩,
    fun _ _ ↦ h⟩, fun _ _ ↦ h⟩
  have hevent : draft.eventId = envelope.event.eventId := AuditRecordDraft.eventId_of_new hdraft
  rw [← hevent] at hi
  obtain ⟨hlt, hget⟩ := List.getElem?_eq_some_iff.mp hi
  by_cases hnext : i = m
  · subst hnext
    have htake : ids.take (i + 1) = ids.take i ++ [draft.eventId] := by
      rw [List.take_succ_eq_append_getElem hlt, hget]
    refine ⟨h.pending, ?_⟩
    rw [show max i (i + 1) = i + 1 by omega, htake]
    exact h.audited.add hadd
  · have hmem : draft.eventId ∈ ids.take m := by
      rw [List.mem_take_iff_getElem]
      exact ⟨i, by omega, hget⟩
    rw [h.audited.add_again hmem hadd, show max m (i + 1) = m by omega]
    exact h

/-- A handler call goes on with the next event at most. -/
theorem AuditedUpTo.ensures_handle {i m : Nat} (h : AuditedUpTo pending base ids m state)
    (hi : ids[i]? = some envelope.event.eventId) (him : i ≤ m) (subscriber : Subscriber) :
    Ensures (subscriber.handle u name mapper createdAt envelope) state
      (fun _ state' ↦ AuditedUpTo pending base ids
        (if subscriber = .audit then max m (i + 1) else m) state')
      (fun _ state' ↦ AuditedUpTo pending base ids m state') := by
  unfold Subscriber.handle
  simp only [ensures_bind, ensures_get, liftM_eq_lift, ensures_lift_require, ensures_set]
  refine ⟨fun _ ↦ ?_, fun _ ↦ h⟩
  have h' : AuditedUpTo pending base ids m
      { state with remaining := state.remaining.map (· - 1) } := ⟨h.pending, h.audited⟩
  cases subscriber with
  | logging =>
    dsimp only [StructuredEventLoggingHandler.handle]
    rw [ensures_modify]
    exact ⟨h.pending, h.audited⟩
  | audit => exact h'.ensures_audit hi him

/-- The handlers of one event. -/
theorem AuditedUpTo.ensures_handlers {i : Nat} (hi : ids[i]? = some envelope.event.eventId)
    (subscribers : List Subscriber) {m : Nat} (h : AuditedUpTo pending base ids m state)
    (him : i ≤ m) :
    Ensures (forM subscribers fun subscriber ↦
        subscriber.handle u name mapper createdAt envelope) state
      (fun _ state' ↦ AuditedUpTo pending base ids
        (if .audit ∈ subscribers then max m (i + 1) else m) state')
      (fun _ state' ↦ ∃ m' ≥ m, AuditedUpTo pending base ids m' state') := by
  induction subscribers generalizing state m with
  | nil => simpa using h
  | cons subscriber rest ih =>
    rw [List.forM_cons, ensures_bind]
    apply (h.ensures_handle hi him subscriber).mono
    · intro _ state' h'
      apply (ih h' (by split <;> omega)).mono
      · intro _ state'' h''
        have hmax : (if .audit ∈ rest then
            max (if subscriber = .audit then max m (i + 1) else m) (i + 1)
            else if subscriber = .audit then max m (i + 1) else m) =
              if .audit ∈ subscriber :: rest then max m (i + 1) else m := by
          cases subscriber <;> simp
        rwa [hmax] at h''
      · rintro _ state'' ⟨m', hm', h''⟩
        exact ⟨m', by split at hm' <;> omega, h''⟩
    · exact fun _ state' h' ↦ ⟨m, le_rfl, h'⟩

/-- Publishing the events that are left to publish. -/
theorem AuditedUpTo.ensures_publishAll {dispatcher : InProcessEventDispatcher τ Subscriber}
    (envelopes : List (EventEnvelope τ π)) {i m : Nat}
    (hids : envelopes.map (fun envelope ↦ envelope.event.eventId) = ids.drop i)
    (haudit : ∀ envelope ∈ envelopes, .audit ∈ dispatcher.handlers envelope.event.type)
    (h : AuditedUpTo pending base ids m state) (him : i ≤ m) :
    Ensures (dispatcher.publishAll (Subscriber.handle u name mapper createdAt) envelopes) state
      (fun _ state' ↦ AuditedUpTo pending base ids (max m (i + envelopes.length)) state')
      (fun _ state' ↦ ∃ m' ≥ m, AuditedUpTo pending base ids m' state') := by
  unfold InProcessEventDispatcher.publishAll
  induction envelopes generalizing state i m with
  | nil => simpa [him] using h
  | cons envelope rest ih =>
    rw [List.map_cons] at hids
    have hi : ids[i]? = some envelope.event.eventId := by
      rw [← List.head?_drop, ← hids, List.head?_cons]
    have hrest : rest.map (fun envelope ↦ envelope.event.eventId) = ids.drop (i + 1) := by
      rw [← List.tail_drop, ← hids, List.tail_cons]
    rw [List.forM_cons, ensures_bind]
    apply (AuditedUpTo.ensures_handlers hi (dispatcher.handlers envelope.event.type) h him).mono
    · intro _ state' h'
      rw [if_pos (haudit envelope (by simp))] at h'
      apply (ih hrest (fun other hother ↦ haudit other (by simp [hother])) h' (by omega)).mono
      · intro _ state'' h''
        have hmax : max (max m (i + 1)) (i + 1 + rest.length) =
            max m (i + (envelope :: rest).length) := by
          rw [List.length_cons]
          omega
        rwa [hmax] at h''
      · rintro _ state'' ⟨m', hm', h''⟩
        exact ⟨m', by omega, h''⟩
    · exact fun _ state' h' ↦ h'

end Attempts

/-! ### What a collector publishes -/

section Publication

variable {ρ τ π : Type} [DecidableEq ρ] [DecidableEq τ] {u : UnicodeTables} {name : τ → String}
  {mapper : AuditDescriptorMapper τ π} {pending : ρ → List (Event τ π)}

/-- Subscribing keeps handlers. -/
theorem InProcessEventDispatcher.mem_handlers_foldl {η : Type} {types : List τ} {handler : η}
    {dispatcher : InProcessEventDispatcher τ η} {added : η} {type : τ}
    (h : handler ∈ dispatcher.handlers type ∨ type ∈ types ∧ handler = added) :
    handler ∈ (types.foldl (fun d eventType ↦ d.subscribe eventType added)
      dispatcher).handlers type := by
  induction types generalizing dispatcher with
  | nil => simpa using h
  | cons first rest ih =>
    rw [List.foldl_cons]
    apply ih
    by_cases hfirst : type = first
    · subst hfirst
      left
      rcases h with h | ⟨-, rfl⟩ <;> simp [subscribe, *]
    · rcases h with h | ⟨hmem, rfl⟩
      · exact .inl (by simpa [subscribe, Function.update_of_ne hfirst] using h)
      · exact .inr ⟨by simpa [hfirst] using hmem, rfl⟩

/-- Events of mapped types are audited. -/
theorem audit_mem_handlers {publishedEventTypes : List τ} {type : τ}
    (h : type ∈ mapper.eventTypes) :
    Subscriber.audit ∈ (registerEventSubscriptions mapper publishedEventTypes).handlers type :=
  InProcessEventDispatcher.mem_handlers_foldl (.inr ⟨h, rfl⟩)

namespace Eventing

omit [DecidableEq τ] in
/-- Snapshots of distinct recorders. -/
theorem captureSnapshots_of_nodup {seen recorders : List ρ} (h : recorders.Nodup)
    (hseen : ∀ recorder ∈ recorders, recorder ∉ seen) :
    captureSnapshots pending seen recorders =
      .ok ((recorders.filter fun recorder ↦ !(pending recorder).isEmpty).map
        fun recorder ↦ (recorder, pending recorder)) := by
  induction recorders generalizing seen with
  | nil => rfl
  | cons recorder rest ih =>
    obtain ⟨hnew, hrest⟩ := List.nodup_cons.mp h
    have hrest' : ∀ other ∈ rest, other ∉ recorder :: seen := by
      intro other hother
      rw [List.mem_cons, not_or]
      exact ⟨fun heq ↦ hnew (heq ▸ hother), hseen other (List.mem_cons_of_mem _ hother)⟩
    have hrec := ih hrest hrest'
    unfold captureSnapshots
    rw [require_bind_of_true (hseen recorder (by simp)), hrec]
    by_cases hempty : (pending recorder).isEmpty = true <;>
      simp [hempty, bind, Except.bind]

omit [DecidableEq ρ] [DecidableEq τ] in
/-- The events in the snapshots of distinct recorders. -/
theorem flatMap_snapshots (recorders : List ρ) :
    ((recorders.filter fun recorder ↦ !(pending recorder).isEmpty).map
      fun recorder ↦ (recorder, pending recorder)).flatMap Prod.snd =
        recorders.flatMap pending := by
  induction recorders with
  | nil => rfl
  | cons recorder rest ih =>
    by_cases hempty : (pending recorder).isEmpty = true
    · rw [List.filter_cons_of_neg (by simp [hempty]), ih, List.flatMap_cons,
        List.isEmpty_iff.mp hempty, List.nil_append]
    · rw [List.filter_cons_of_pos (by simp [hempty]), List.map_cons, List.flatMap_cons, ih,
        List.flatMap_cons]

omit [DecidableEq τ] in
/-- What clearing recorders leaves. -/
theorem pending_foldl_clearEvents (snapshots : List (ρ × List (Event τ π)))
    (state : EventingState ρ τ π) (recorder : ρ) :
    (snapshots.foldl (fun state snapshot ↦ clearEvents state snapshot.1) state).pending recorder =
      if recorder ∈ snapshots.map Prod.fst then [] else state.pending recorder := by
  induction snapshots generalizing state with
  | nil => simp
  | cons snapshot rest ih =>
    rw [List.foldl_cons, ih, List.map_cons]
    by_cases hrest : recorder ∈ rest.map Prod.fst
    · simp [hrest]
    · by_cases hfirst : recorder = snapshot.1
      · simp [hfirst, clearEvents]
      · simp [hrest, hfirst, clearEvents]

omit [DecidableEq τ] in
/-- Clearing recorders touches nothing else. -/
theorem audit_foldl_clearEvents (snapshots : List (ρ × List (Event τ π)))
    (state : EventingState ρ τ π) :
    (snapshots.foldl (fun state snapshot ↦ clearEvents state snapshot.1) state).audit =
      state.audit := by
  induction snapshots generalizing state with
  | nil => rfl
  | cons snapshot rest ih => rw [List.foldl_cons, ih, clearEvents]

omit [DecidableEq τ] in
/-- Envelopes hold the events they were made for, in order. -/
theorem map_event_of_envelopeAll {context : Option EventContext} {envelopeId : Nat → Uuid}
    {first : Nat} {events : List (Event τ π)} {envelopes : List (EventEnvelope τ π)}
    (h : envelopeAll context envelopeId first events = .ok envelopes) :
    envelopes.map EventEnvelope.event = events := by
  induction events generalizing first envelopes with
  | nil =>
    obtain rfl := Except.ok.inj h
    rfl
  | cons event rest ih =>
    simp only [envelopeAll, except_bind_eq_ok_iff, Except.ok.injEq] at h
    obtain ⟨envelope, henvelope, envelopes, hrest, rfl⟩ := h
    have hevent : envelope.event = event := by
      cases context with
      | none => cases henvelope
      | some context =>
        obtain rfl := Except.ok.inj henvelope
        rfl
    rw [List.map_cons, hevent, ih hrest]

/-- The ids of the events that recorders hold, in the order in which they are published. -/
def pendingIds (recorders : List ρ) (pending : ρ → List (Event τ π)) : List Uuid :=
  (recorders.flatMap pending).map fun event ↦ event.eventId

variable {publishedEventTypes : List τ} {recorders : List ρ} {base : InMemoryAuditRepository}
  {state middle : EventingState ρ τ π}

variable (u name publishedEventTypes) in
/-- An attempt audits further events of the recorders, and clears them if it audits all. -/
theorem ensures_run {m : Nat} (hnd : recorders.Nodup)
    (hmapped : ∀ recorder ∈ recorders, ∀ event ∈ pending recorder, event.type ∈ mapper.eventTypes)
    (h : AuditedUpTo pending base (pendingIds recorders pending) m state) (attempt : Attempt) :
    Ensures (run u name mapper publishedEventTypes recorders attempt) state
      (fun _ last ↦ Audited base (pendingIds recorders pending) last.audit ∧
        (∃ envelopes published, envelopes.map EventEnvelope.event = recorders.flatMap pending ∧
          (registerEventSubscriptions mapper publishedEventTypes).publishAll
            (Subscriber.handle u name mapper attempt.createdAt) envelopes
            { state with remaining := attempt.calls } = .ok ⟨⟩ published) ∧
        ∀ recorder, last.pending recorder = if recorder ∈ recorders then [] else pending recorder)
      (fun _ last ↦ ∃ m', AuditedUpTo pending base (pendingIds recorders pending) m' last) := by
  obtain ⟨hpending, haudited⟩ := h
  unfold run drain
  rw [ensures_bind, ensures_modify, ensures_bind, ensures_get]
  simp only [hpending, flatMap_snapshots, ensures_bind, ensures_lift_ok,
    captureSnapshots_of_nodup hnd (fun _ _ ↦ List.not_mem_nil)]
  split
  · next hnone =>
    -- Nobody holds an event: there is nothing to publish or to clear.
    have hnil : recorders.flatMap pending = [] := List.isEmpty_iff.mp hnone
    rw [ensures_pure]
    refine ⟨?_, ⟨[], _, hnil.symm, rfl⟩, fun recorder ↦ ?_⟩
    · simpa [pendingIds, hnil] using haudited
    · split
      · next hmem => exact List.flatMap_eq_nil_iff.mp hnil recorder hmem
      · rfl
  · rw [ensures_bind, ensures_lift]
    refine ⟨fun envelopes henvelopes ↦ ?_, fun _ _ ↦ ⟨m, rfl, haudited⟩⟩
    have hevents := map_event_of_envelopeAll henvelopes
    have hids : envelopes.map (fun envelope ↦ envelope.event.eventId) =
        (pendingIds recorders pending).drop 0 := by
      rw [List.drop_zero, pendingIds, ← hevents, List.map_map]
      rfl
    have haudit : ∀ envelope ∈ envelopes, Subscriber.audit ∈
        (registerEventSubscriptions mapper publishedEventTypes).handlers envelope.event.type := by
      intro envelope henvelope
      have hmem : envelope.event ∈ recorders.flatMap pending :=
        hevents ▸ List.mem_map_of_mem henvelope
      obtain ⟨recorder, hrecorder, hevent⟩ := List.mem_flatMap.mp hmem
      exact audit_mem_handlers (hmapped recorder hrecorder _ hevent)
    have hstart : AuditedUpTo pending base (pendingIds recorders pending) m
        { state with remaining := attempt.calls } := ⟨hpending, haudited⟩
    have hpublish : Ensures ((registerEventSubscriptions mapper publishedEventTypes).publishAll
        (Subscriber.handle u name mapper attempt.createdAt) envelopes)
        { state with remaining := attempt.calls }
        (fun _ last ↦ AuditedUpTo pending base (pendingIds recorders pending)
          (max m (0 + envelopes.length)) last)
        (fun _ last ↦ ∃ m' ≥ m,
          AuditedUpTo pending base (pendingIds recorders pending) m' last) :=
      hstart.ensures_publishAll envelopes hids haudit (Nat.zero_le m)
    rw [hpending] at hpublish
    rw [ensures_bind, ensures_iff]
    rw [ensures_iff] at hpublish
    cases hrun : (registerEventSubscriptions mapper publishedEventTypes).publishAll
        (Subscriber.handle u name mapper attempt.createdAt) envelopes
        { pending, log := state.log, audit := state.audit, remaining := attempt.calls } with
    | error error last =>
      rw [hrun] at hpublish
      obtain ⟨m', -, hlast⟩ := hpublish
      exact ⟨m', hlast⟩
    | ok _ published =>
      rw [hrun] at hpublish
      dsimp only at hpublish ⊢
      rw [ensures_modify]
      refine ⟨?_, ⟨envelopes, published, hevents, hrun⟩, fun recorder ↦ ?_⟩
      · rw [audit_foldl_clearEvents]
        have hall := hpublish.audited
        rw [List.take_of_length_le] at hall
        · exact hall
        · rw [← List.drop_zero (l := pendingIds recorders pending), ← hids, List.length_map]
          omega
      · rw [pending_foldl_clearEvents, hpublish.pending]
        by_cases hmem : recorder ∈ recorders <;> by_cases hempty : pending recorder = [] <;>
          simp [hmem, hempty]

/-- What failed attempts leave. -/
theorem Failed.auditedUpTo (hnd : recorders.Nodup)
    (hmapped : ∀ recorder ∈ recorders, ∀ event ∈ state.pending recorder,
      event.type ∈ mapper.eventTypes)
    (h : Failed u name mapper publishedEventTypes recorders state middle) :
    ∃ m, AuditedUpTo state.pending state.audit (pendingIds recorders state.pending) m middle := by
  induction h with
  | refl => exact ⟨0, rfl, .refl⟩
  | @snoc middle last attempt error _ hrun ih =>
    obtain ⟨m, hm⟩ := ih
    have hnext := ensures_run u name publishedEventTypes hnd hmapped hm attempt
    rw [ensures_iff, hrun] at hnext
    exact hnext

/-- However often publication fails first, nothing is cleared until an attempt succeeds, that
attempt clears what it published, and every event then has exactly one record. New records follow
the order in which the events were recorded. -/
theorem audited_once (hnd : recorders.Nodup)
    (hmapped : ∀ recorder ∈ recorders, ∀ event ∈ state.pending recorder,
      event.type ∈ mapper.eventTypes)
    (hfailed : Failed u name mapper publishedEventTypes recorders state middle) :
    middle.pending = state.pending ∧
    ∀ attempt last,
      run u name mapper publishedEventTypes recorders attempt middle = .ok ⟨⟩ last →
      (∃ envelopes published,
        envelopes.map EventEnvelope.event = recorders.flatMap state.pending ∧
        (registerEventSubscriptions mapper publishedEventTypes).publishAll
          (Subscriber.handle u name mapper attempt.createdAt) envelopes
          { middle with remaining := attempt.calls } = .ok ⟨⟩ published) ∧
      (∀ recorder, last.pending recorder =
        if recorder ∈ recorders then [] else state.pending recorder) ∧
      (∃ new, last.audit.records = state.audit.records ++ new ∧
        new.map (fun record ↦ record.eventId) =
          state.audit.unseen (pendingIds recorders state.pending) ∧
        new.map AuditRecord.auditId =
          (List.range new.length).map fun i : Nat ↦ state.audit.nextId + i) ∧
      ∀ recorder ∈ recorders, ∀ event ∈ state.pending recorder,
        ∃! record, record ∈ last.audit.records ∧ record.eventId = event.eventId := by
  obtain ⟨m, hm⟩ := hfailed.auditedUpTo hnd hmapped
  refine ⟨hm.pending, fun attempt last hrun ↦ ?_⟩
  have hlast := ensures_run u name publishedEventTypes hnd hmapped hm attempt
  rw [ensures_iff, hrun] at hlast
  obtain ⟨haudited, hpublished, hcleared⟩ := hlast
  refine ⟨hpublished, hcleared, haudited.records, fun recorder hrecorder event hevent ↦ ?_⟩
  have hid : event.eventId ∈ pendingIds recorders state.pending :=
    List.mem_map_of_mem (List.mem_flatMap.mpr ⟨recorder, hrecorder, hevent⟩)
  obtain ⟨record, hrecord, heq⟩ :=
    InMemoryAuditRepository.holds_iff.mp (haudited.holds_iff.mpr (.inr hid))
  refine ⟨record, ⟨hrecord, heq⟩, fun other hother ↦ ?_⟩
  exact List.inj_on_of_nodup_map last.audit.keyed.nodup_values hother.1 hrecord
    (hother.2.trans heq.symm)

end Eventing
end Publication

namespace Scenario

/-- A mapper for one event class. -/
def creationMapper : AuditDescriptorMapper PUnit PUnit where
  registry := Dict.empty.set ⟨⟩ fun event ↦ .ok {
    resourceType := .route
    resourceId := some (toString event.eventVersion)
    action := .created
    payloadJson := [] }

/-- An event of this class. -/
def creation (eventId : Uuid) : Event PUnit PUnit :=
  ⟨⟨⟩, 1, eventId, .min, .min, ⟨⟩⟩

/-- Two recorders, the second of which holds two events. -/
def busyRecorders : EventingState Bool PUnit PUnit where
  pending recorder := if recorder then [creation 2, creation 3] else [creation 1]
  log := []
  audit := .empty
  remaining := none

/-- An attempt in which this many handler calls go through. -/
def creationAttempt (calls : Option Nat) : Attempt where
  context := some ⟨10, .http, none, none⟩
  envelopeId i := 20 + BitVec.ofNat 128 i
  createdAt _ := .min
  calls := calls

/-- The attempt to drain both recorders. -/
def drainBoth (calls : Option Nat) : Program PyError (EventingState Bool PUnit PUnit) PUnit :=
  Eventing.run .asciiOnly (fun _ ↦ "RouteCreated") creationMapper [⟨⟩] [false, true]
    (creationAttempt calls)

/-- The second event is audited once although its first attempt was cut short after it. -/
theorem audited_once_retried :
    ∃! record, record ∈
        ((drainBoth none).finalState ((drainBoth (some 4)).finalState busyRecorders)).audit.records ∧
      record.eventId = (creation 2).eventId := by
  have hfirst : (drainBoth (some 4)).outcome busyRecorders =
      .error ⟨.runtimeError, "Handler failed."⟩ := by decide +kernel
  have hsecond : (drainBoth none).outcome ((drainBoth (some 4)).finalState busyRecorders) =
      .ok ⟨⟩ := by decide +kernel
  have hfailed : Eventing.Failed .asciiOnly (fun _ ↦ "RouteCreated") creationMapper [⟨⟩]
      [false, true] busyRecorders ((drainBoth (some 4)).finalState busyRecorders) :=
    .snoc (.refl _) (eq_error_of_outcome hfirst)
  have hall := Eventing.audited_once (by decide) (by decide) hfailed
  exact (hall.2 (creationAttempt none) _ (eq_ok_of_outcome hsecond)).2.2.2 true (by decide)
    (creation 2) (by simp [busyRecorders])

end Scenario
end FleetFlow
