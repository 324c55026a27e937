import FleetFlow.Base.Datetime
import FleetFlow.Base.Dict
import FleetFlow.Base.Shared

/-!
# Audit records and the in-memory audit store

Follows `application/models/audit_record.py`, `application/models/audit_log_query.py` and
`adapters/driven/persistence/memory/audit_repository.py`. Instants of events and instants of
storage are of one type; the checks that tell naive from UTC values have no counterpart.
-/

namespace FleetFlow

/-! ### Vocabulary -/

/-- What an audit record is about; `application/enums/audit_resource_types.py`. -/
inductive AuditResourceType where
  | auditLog
  | customer
  | package
  | route
  | truck
  | user
  | authorization
  | worldState
  | fleet
deriving DecidableEq, Repr

/-- What happened to the resource of a record; `application/enums/audit_actions.py`. -/
inductive AuditAction where
  | created
  | removed
  | scheduled
  | started
  | completed
  | assignedToRoute
  | detachedFromRoute
  | assignedToTruck
  | releasedTruck
  | pickedUp
  | delivered
  | reconciled
  | registered
  | registrationRejected
  | authenticated
  | loginRejected
  | passwordChanged
  | passwordChangeRejected
  | passwordReset
  | passwordResetRejected
  | sessionEnded
  | tokensRevoked
  | authorizationDenied
  | exported
  | exportFailed
  | imported
  | importFailed
  | corruptionDetected
  | snapshotQuarantined
  | runtimeSwapped
  | startupRestored
  | startupRestoreSkipped
  | startupRestoreFailed
  | advanced
  | seeded
deriving DecidableEq, Repr

/-- Where a request came from; `application/enums/event_sources.py`. -/
inductive EventSource where
  | http
  | cli
  | startup
  | heartbeat
  | system
deriving DecidableEq, Repr

/-! ### Records -/

/-- An audit record before it is stored; `application/models/audit_record.py:26–72`. -/
structure AuditRecordDraft where
  eventId : Uuid
  eventVersion : Int
  eventType : String
  occurredAt : Datetime
  recordedAt : Datetime
  envelopeId : Uuid
  correlationId : Uuid
  causationId : Option Uuid
  source : EventSource
  actorUserId : Option Int
  actorUsername : Option String
  resourceType : AuditResourceType
  resourceId : Option String
  action : AuditAction
  payloadJson : JsonObject

/-- A stored audit record; `application/models/audit_record.py:111–137`. -/
structure AuditRecord extends AuditRecordDraft where
  auditId : Int
  createdAt : Datetime

section Checks

variable (u : UnicodeTables)

/-- The checks of a draft; `application/models/audit_record.py:74–108`. -/
def AuditRecordDraft.new (draft : AuditRecordDraft) : Except PyError AuditRecordDraft := do
  let eventVersion ← Shared.requirePositiveInt draft.eventVersion "event_version"
  let eventType ← Shared.requireNonEmptyStr u draft.eventType "event_type"
  let actorUserId ← Shared.requireOptionalPositiveInt draft.actorUserId "actor_user_id"
  let actorUsername ← Shared.requireOptionalNonEmptyStr u draft.actorUsername "actor_username"
  let resourceId ← Shared.requireOptionalNonEmptyStr u draft.resourceId "resource_id"
  let payloadJson ← requireJsonObject draft.payloadJson "payload_json"
  .ok { draft with eventVersion, eventType, actorUserId, actorUsername, resourceId, payloadJson }

/-- A record of a draft, checked once more; `application/models/audit_record.py:124–137` and
`adapters/driven/persistence/memory/audit_repository.py:64–84`. -/
def AuditRecord.new (draft : AuditRecordDraft) (auditId : Int) (createdAt : Datetime) :
    Except PyError AuditRecord := do
  let checked ← AuditRecordDraft.new u draft
  let auditId ← Shared.requirePositiveInt auditId "audit_id"
  .ok { checked with auditId, createdAt }

variable {u}

/-- Checking a draft keeps the id of its event. -/
theorem AuditRecordDraft.eventId_of_new {draft draft' : AuditRecordDraft}
    (h : AuditRecordDraft.new u draft = .ok draft') : draft'.eventId = draft.eventId := by
  simp only [AuditRecordDraft.new, except_bind_eq_ok_iff, Except.ok.injEq] at h
  obtain ⟨_, -, _, -, _, -, _, -, _, -, _, -, rfl⟩ := h
  rfl

/-- What a record takes from its draft. -/
theorem AuditRecord.of_new {draft : AuditRecordDraft} {auditId : Int} {createdAt : Datetime}
    {record : AuditRecord} (h : AuditRecord.new u draft auditId createdAt = .ok record) :
    record.eventId = draft.eventId ∧ record.auditId = auditId := by
  simp only [AuditRecord.new, AuditRecordDraft.new, except_bind_eq_ok_iff, Except.ok.injEq,
    Shared.requirePositiveInt_eq_ok_iff] at h
  obtain ⟨checked, ⟨_, -, _, -, _, -, _, -, _, -, _, -, rfl⟩, _, ⟨rfl, -⟩, rfl⟩ := h
  exact ⟨rfl, rfl⟩

end Checks

/-! ### The store -/

/-- The in-memory store. Records are kept under the ids of their events, in the order of their
ids; `adapters/driven/persistence/memory/audit_repository.py:13–32`. -/
structure InMemoryAuditRepository where
  recordsByEventId : Dict Uuid AuditRecord
  nextId : Int
  keyed : recordsByEventId.Keyed fun record ↦ record.eventId
  increasing : (recordsByEventId.values.map AuditRecord.auditId).Pairwise (· < ·)
  issued : ∀ record ∈ recordsByEventId.values, record.auditId < nextId
  nextId_pos : 1 ≤ nextId

namespace InMemoryAuditRepository

/-- The records of a store, oldest id first. -/
def records (repository : InMemoryAuditRepository) : List AuditRecord :=
  repository.recordsByEventId.values

/-- A store without records. -/
def empty : InMemoryAuditRepository where
  recordsByEventId := .empty
  nextId := 1
  keyed _ h := by cases h
  increasing := List.Pairwise.nil
  issued _ h := by cases h
  nextId_pos := le_rfl

/-- A store that got one more record. -/
def push (repository : InMemoryAuditRepository) (record : AuditRecord)
    (hnew : ∀ other ∈ repository.records, other.eventId ≠ record.eventId)
    (hid : record.auditId = repository.nextId) : InMemoryAuditRepository where
  recordsByEventId := repository.recordsByEventId.set record.eventId record
  nextId := repository.nextId + 1
  keyed := repository.keyed.set
  increasing := by
    rw [repository.keyed.values_set_of_notMem hnew, List.map_append, List.pairwise_append]
    refine ⟨repository.increasing, List.pairwise_singleton _ _, ?_⟩
    intro i hi j hj
    obtain ⟨other, hother, rfl⟩ := List.mem_map.mp hi
    obtain rfl := List.mem_singleton.mp hj
    rw [hid]
    exact repository.issued other hother
  issued := by
    rw [repository.keyed.values_set_of_notMem hnew]
    intro other hother
    rcases List.mem_append.mp hother with hold | hlast
    · have := repository.issued other hold
      omega
    · obtain rfl := List.mem_singleton.mp hlast
      omega
  nextId_pos := by
    have := repository.nextId_pos
    omega

section Add

variable (u : UnicodeTables) (repository : InMemoryAuditRepository) (draft : AuditRecordDraft)
  (now : Datetime)

/-- Whether an event is stored. -/
def holds (eventId : Uuid) : Bool := repository.recordsByEventId.contains eventId

variable {repository} in
theorem holds_iff {eventId : Uuid} :
    repository.holds eventId = true ↔ ∃ record ∈ repository.records, record.eventId = eventId :=
  repository.keyed.contains_iff

/-- Store a draft unless its event is stored;
`adapters/driven/persistence/memory/audit_repository.py:34–45`. -/
def add : Except PyError InMemoryAuditRepository :=
  if hold : repository.holds draft.eventId = true then .ok repository
  else
    match hrecord : AuditRecord.new u draft repository.nextId now with
    | .error e => .error e
    | .ok record => .ok (repository.push record
        (fun other hother heq ↦ hold (holds_iff.mpr
          ⟨other, hother, heq.trans (AuditRecord.of_new hrecord).1⟩))
        (AuditRecord.of_new hrecord).2)

end Add

end InMemoryAuditRepository
end FleetFlow
