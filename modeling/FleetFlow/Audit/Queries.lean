import FleetFlow.Audit.Records
import FleetFlow.Users.Sessions
import Mathlib.Data.List.Sort

/-!
# Browsing the audit log

Follows `application/use_cases/pagination.py`, `application/use_cases/audit/view_audits.py` and the
listings of `adapters/driven/persistence/memory/audit_repository.py`. Who may not see the whole log
sees the records of its own id only, and nothing that it sees depends on other records.
-/

namespace FleetFlow

/-! ### Permissions -/

/-- What a user may be allowed to do; `domain/enums/auth.py:13–45`. -/
inductive Permission where
  | packageCreate
  | packageView
  | packageViewAll
  | packageFindRouteFor
  | packageViewUnassigned
  | packageRemove
  | routeCreate
  | routeViewInProgress
  | routeView
  | routeViewAll
  | routeFindTruckFor
  | routeAssignTruck
  | routeAssignPackage
  | routeRemove
  | truckView
  | customerView
  | adminUser
  | appSaveState
  | appLoadState
  | auditView
  | fleetOverviewView
  | authenticated
deriving DecidableEq, Repr

/-- What an employee may do, `_EMPLOYEE_PERMISSIONS`; `domain/enums/auth.py:48–68`. -/
def employeePermissions : List Permission :=
  [.packageCreate, .packageView, .packageViewAll, .packageViewUnassigned, .packageFindRouteFor,
    .packageRemove, .routeCreate, .routeView, .routeViewAll, .routeViewInProgress,
    .routeFindTruckFor, .routeAssignTruck, .routeAssignPackage, .routeRemove, .truckView,
    .customerView, .fleetOverviewView]

/-- What a manager may do: all that an employee may, and four more, `_MANAGER_PERMISSIONS`;
`domain/enums/auth.py:70–77`. -/
def managerPermissions : List Permission :=
  employeePermissions ++ [.adminUser, .appSaveState, .appLoadState, .auditView]

/-- The permissions of a role, `ROLE_PERMISSIONS`; `domain/enums/auth.py:79–82`. -/
def Role.permissions : Role → List Permission
  | .employee => employeePermissions
  | .manager => managerPermissions

/-- Whether the current user has a permission;
`application/services/authorization_service.py:45–58`. -/
def AuthorizationService.has (currentUser : Option CurrentUserPrincipal) (perm : Permission) :
    Bool :=
  match currentUser with
  | none => false
  | some user => user.role.permissions.contains perm

/-- The workflow that a denial names; `application/enums/authorization_operations.py:46`. -/
inductive AuthorizationOperation where
  | auditLogView
deriving DecidableEq, Repr

/-- The event of a denied request; `application/events/auth_events.py:104–121`. -/
structure AuthorizationDenied where
  attemptedOperation : AuthorizationOperation
  targetResourceType : AuditResourceType
  targetResourceId : Option String
  requiredPermissions : List Permission
  occurredAt : Datetime
deriving DecidableEq, Repr

/-! ### Pages -/

/-- Which page is asked for; without a limit, all items;
`application/use_cases/pagination.py:9–15`. -/
structure PageQuery where
  limit : Option Int := none
  offset : Int := 0
  includeTotal : Bool := false

/-- The items of a page, with the total if it was asked for;
`application/use_cases/pagination.py:18–31`. -/
structure PageResult (α : Type) where
  items : List α
  total : Option Nat
  limit : Option Int
  offset : Int

/-- Without a limit there is no offset; `application/use_cases/pagination.py:34–46`. -/
def validateUnpaginatedOffset (offset : Int) : Except PyError Unit :=
  require (offset = 0) ⟨.validation, "Offset cannot be used without a limit."⟩

/-- A page has a positive limit and no negative offset;
`application/use_cases/pagination.py:49–65`. -/
def validatePage (limit offset : Int) : Except PyError Unit := do
  require (1 ≤ limit) ⟨.validation, "Limit must be greater than zero."⟩
  require (0 ≤ offset) ⟨.validation, "Offset must be greater than or equal to zero."⟩

/-- List all items, or one page with or without the total;
`application/use_cases/pagination.py:68–109`. -/
def executePageQuery {α : Type} (query : PageQuery) (listAll : Unit → List α)
    (listPage : Int → Int → List α) (listPageWithTotal : Int → Int → List α × Nat) :
    Except PyError (PageResult α) :=
  match query.limit with
  | none => do
    validateUnpaginatedOffset query.offset
    .ok { items := listAll (), total := none, limit := none, offset := query.offset }
  | some limit => do
    validatePage limit query.offset
    if query.includeTotal then
      let (items, total) := listPageWithTotal limit query.offset
      .ok { items, total := some total, limit := some limit, offset := query.offset }
    else
      .ok { items := listPage limit query.offset, total := none, limit := some limit,
            offset := query.offset }

/-- The index that a slice bound stands for in a list of a length. -/
def sliceIndex (length : Nat) (bound : Int) : Nat :=
  if bound < 0 then (bound + length).toNat else min bound.toNat length

/-- The items between two indexes, negative ones counted from the end, `items[start:stop]`. -/
def slice {α : Type} (items : List α) (start stop : Int) : List α :=
  let first := sliceIndex items.length start
  (items.drop first).take (sliceIndex items.length stop - first)

theorem mem_of_mem_slice {α : Type} {items : List α} {start stop : Int} {a : α}
    (h : a ∈ slice items start stop) : a ∈ items :=
  List.mem_of_mem_drop (List.mem_of_mem_take h)

/-! ### Filters -/

/-- Conditions on records, each of them optional; `application/models/audit_log_query.py:21–57`. -/
structure AuditLogFilter where
  eventType : Option String := none
  resourceType : Option AuditResourceType := none
  resourceId : Option String := none
  action : Option AuditAction := none
  actorUserId : Option Int := none
  actorUsername : Option String := none
  source : Option EventSource := none
  occurredFrom : Option Datetime := none
  occurredTo : Option Datetime := none
  createdFrom : Option Datetime := none
  createdTo : Option Datetime := none

/-- A page of the records that satisfy a filter; `application/models/audit_log_query.py:94–109`. -/
structure AuditLogQuery where
  page : PageQuery := {}
  filters : AuditLogFilter := {}

/-- A range with both ends does not end before it starts;
`application/models/audit_validation.py:10–30`. -/
def requireOrderedOptionalDatetimeRange (start end_ : Option Datetime) (fieldName : String) :
    Except PyError Unit :=
  match start, end_ with
  | some first, some last => require (first ≤ last)
      ⟨.valueError, s!"{fieldName}_from must be before or equal to {fieldName}_to."⟩
  | _, _ => .ok ()

/-- The checks of a filter; `application/models/audit_log_query.py:59–91`. -/
def AuditLogFilter.new (u : UnicodeTables) (filters : AuditLogFilter) :
    Except PyError AuditLogFilter := do
  let eventType ← Shared.requireOptionalNonEmptyStr u filters.eventType "event_type"
  let resourceId ← Shared.requireOptionalNonEmptyStr u filters.resourceId "resource_id"
  let actorUserId ← Shared.requireOptionalPositiveInt filters.actorUserId "actor_user_id"
  let actorUsername ← Shared.requireOptionalNonEmptyStr u filters.actorUsername "actor_username"
  requireOrderedOptionalDatetimeRange filters.occurredFrom filters.occurredTo "occurred"
  requireOrderedOptionalDatetimeRange filters.createdFrom filters.createdTo "created"
  .ok { filters with eventType, resourceId, actorUserId, actorUsername }

theorem AuditLogFilter.actorUserId_of_new {u : UnicodeTables} {filters filters' : AuditLogFilter}
    (h : filters.new u = .ok filters') : filters'.actorUserId = filters.actorUserId := by
  simp only [AuditLogFilter.new, except_bind_eq_ok_iff, Except.ok.injEq] at h
  obtain ⟨_, -, _, -, id, hid, _, -, _, -, _, -, rfl⟩ := h
  exact Shared.eq_of_requireOptionalPositiveInt hid

namespace InMemoryAuditRepository

variable (repository : InMemoryAuditRepository) (filters : AuditLogFilter)

/-- Whether a record passes a filter;
`adapters/driven/persistence/memory/audit_repository.py:89–103`. -/
def matches_ (filters : AuditLogFilter) (record : AuditRecord) : Bool :=
  filters.eventType.all (record.eventType = ·) &&
  filters.resourceType.all (record.resourceType = ·) &&
  filters.resourceId.all (record.resourceId = some ·) &&
  filters.action.all (record.action = ·) &&
  filters.actorUserId.all (record.actorUserId = some ·) &&
  filters.actorUsername.all (record.actorUsername = some ·) &&
  filters.source.all (record.source = ·) &&
  filters.occurredFrom.all (· ≤ record.occurredAt) &&
  filters.occurredTo.all (record.occurredAt ≤ ·) &&
  filters.createdFrom.all (· ≤ record.createdAt) &&
  filters.createdTo.all (record.createdAt ≤ ·)

/-- The order of a listing: later events first, of one instant the later record first. -/
def listedBefore (a b : AuditRecord) : Bool :=
  b.occurredAt < a.occurredAt || (b.occurredAt = a.occurredAt && b.auditId ≤ a.auditId)

/-- The records that satisfy the filter, in the order of listings;
`adapters/driven/persistence/memory/audit_repository.py:47–51`. -/
def listAll : List AuditRecord :=
  (repository.records.filter (matches_ filters)).mergeSort listedBefore

/-- One page of these records; `adapters/driven/persistence/memory/audit_repository.py:53–55`. -/
def listPage (limit offset : Int) : List AuditRecord :=
  slice (repository.listAll filters) offset (offset + limit)

/-- One page of these records and how many there are in all;
`adapters/driven/persistence/memory/audit_repository.py:57–65`. -/
def listPageWithTotal (limit offset : Int) : List AuditRecord × Nat :=
  let records := repository.listAll filters
  (slice records offset (offset + limit), records.length)

end InMemoryAuditRepository

namespace InMemoryAuditRepository

variable {repository repository' : InMemoryAuditRepository} {filters : AuditLogFilter} {userId : Int}

/-- A record that passes a filter for an actor is one of this actor. -/
theorem actorUserId_of_matches {record : AuditRecord} (hid : filters.actorUserId = some userId)
    (h : matches_ filters record = true) : record.actorUserId = some userId := by
  simp only [matches_, hid, Option.all_some, Bool.and_eq_true, decide_eq_true_eq] at h
  exact h.1.1.1.1.1.1.2

/-- Stores that agree on the records of an actor list the same for every filter for this actor. -/
theorem listAll_eq (hid : filters.actorUserId = some userId)
    (hagree : ∀ record : AuditRecord, record.actorUserId = some userId →
      (record ∈ repository.records ↔ record ∈ repository'.records)) :
    repository.listAll filters = repository'.listAll filters := by
  have hsorted : ∀ r : InMemoryAuditRepository,
      (r.records.filter (matches_ filters)).Pairwise fun a b ↦ a.auditId < b.auditId :=
    fun r ↦ (List.pairwise_map.mp r.increasing).filter _
  have hirrefl : Std.Irrefl fun a b : AuditRecord ↦ a.auditId < b.auditId :=
    ⟨fun _ ↦ lt_irrefl _⟩
  have hantisymm : Std.Antisymm fun a b : AuditRecord ↦ a.auditId < b.auditId :=
    ⟨fun _ _ h h' ↦ absurd h h'.asymm⟩
  unfold listAll
  congr 1
  apply (hsorted repository).eq_of_mem_iff (hsorted repository')
  intro record
  rw [List.mem_filter, List.mem_filter]
  apply and_congr_left
  intro hmatch
  exact hagree record (actorUserId_of_matches hid hmatch)

/-- A listing for an actor holds records of this actor only. -/
theorem actorUserId_of_mem_listAll (hid : filters.actorUserId = some userId) {record : AuditRecord}
    (h : record ∈ repository.listAll filters) : record.actorUserId = some userId := by
  unfold listAll at h
  rw [List.mem_mergeSort, List.mem_filter] at h
  exact actorUserId_of_matches hid h.2

end InMemoryAuditRepository

/-! ### The use case -/

namespace ViewAuditLogsUseCase

variable (u : UnicodeTables) (currentUser : Option CurrentUserPrincipal)
  (repository : InMemoryAuditRepository) (now : Datetime) (query : AuditLogQuery)

/-- Run the query on the store of records; `application/use_cases/audit/view_audits.py:102–128`. -/
def executeQuery : Except PyError (PageResult AuditRecord) :=
  executePageQuery query.page (fun _ ↦ repository.listAll query.filters)
    (repository.listPage query.filters) (repository.listPageWithTotal query.filters)

/-- A denial and the error that goes with it. -/
def deny (targetResourceType : AuditResourceType) (targetResourceId : Option String)
    (message : String) : Except PyError (PageResult AuditRecord) × List AuthorizationDenied :=
  (.error ⟨.permissionError, message⟩, [{
    attemptedOperation := .auditLogView
    targetResourceType
    targetResourceId
    requiredPermissions := [.auditView]
    occurredAt := now }])

/-- Run a query for the current user, with the denials it recorded;
`application/use_cases/audit/view_audits.py:44–100`. -/
def execute : Except PyError (PageResult AuditRecord) × List AuthorizationDenied :=
  match currentUser with
  | none => deny now .auditLog none "Unauthenticated"
  | some user =>
    if AuthorizationService.has currentUser .auditView then (executeQuery repository query, [])
    else if query.filters.actorUserId.any (· ≠ user.userId) then
      deny now .user (query.filters.actorUserId.map toString)
        "Cannot view audit logs for other users"
    else if query.filters.actorUsername.any (· ≠ user.username) then
      deny now .user query.filters.actorUsername "Cannot view audit logs for other users"
    else
      (do
        let filters ← AuditLogFilter.new u { query.filters with actorUserId := some user.userId }
        executeQuery repository { query with filters }, [])

variable {u currentUser repository now query} {repository' : InMemoryAuditRepository} {userId : Int}

/-- A query for an actor takes everything from the listing for this actor. -/
theorem executeQuery_eq (hid : query.filters.actorUserId = some userId)
    (hagree : ∀ record : AuditRecord, record.actorUserId = some userId →
      (record ∈ repository.records ↔ record ∈ repository'.records)) :
    executeQuery repository query = executeQuery repository' query := by
  have hlist := InMemoryAuditRepository.listAll_eq hid hagree
  have hpage : repository.listPage query.filters = repository'.listPage query.filters := by
    funext limit offset
    unfold InMemoryAuditRepository.listPage
    rw [hlist]
  have htotal : repository.listPageWithTotal query.filters =
      repository'.listPageWithTotal query.filters := by
    funext limit offset
    unfold InMemoryAuditRepository.listPageWithTotal
    rw [hlist]
  unfold executeQuery
  rw [hlist, hpage, htotal]

/-- A query for an actor returns records of this actor only. -/
theorem actorUserId_of_executeQuery (hid : query.filters.actorUserId = some userId)
    {page : PageResult AuditRecord} (h : executeQuery repository query = .ok page) :
    ∀ record ∈ page.items, record.actorUserId = some userId := by
  unfold executeQuery executePageQuery at h
  intro record hrecord
  have hlisted : record ∈ repository.listAll query.filters → record.actorUserId = some userId :=
    InMemoryAuditRepository.actorUserId_of_mem_listAll hid
  apply hlisted
  cases hlimit : query.page.limit with
  | none =>
    rw [hlimit] at h
    simp only [except_bind_eq_ok_iff, Except.ok.injEq] at h
    obtain ⟨-, -, rfl⟩ := h
    exact hrecord
  | some limit =>
    rw [hlimit] at h
    dsimp only at h
    rw [except_bind_eq_ok_iff] at h
    obtain ⟨-, -, h⟩ := h
    split at h
    · obtain rfl := Except.ok.inj h
      exact mem_of_mem_slice hrecord
    · obtain rfl := Except.ok.inj h
      exact mem_of_mem_slice hrecord

/-- What a user without the audit permission gets from the audit log depends on the records of this
user alone, and consists of such records. -/
theorem execute_noninterference (hperm : AuthorizationService.has currentUser .auditView = false)
    (hagree : ∀ user ∈ currentUser, ∀ record : AuditRecord,
      record.actorUserId = some user.userId →
        (record ∈ repository.records ↔ record ∈ repository'.records)) :
    execute u currentUser repository now query = execute u currentUser repository' now query ∧
      ∀ page, (execute u currentUser repository now query).1 = .ok page →
        ∃ user ∈ currentUser, ∀ record ∈ page.items, record.actorUserId = some user.userId := by
  unfold execute
  cases currentUser with
  | none => exact ⟨rfl, by rintro page ⟨⟩⟩
  | some user =>
    dsimp only
    rw [hperm]
    simp only [Bool.false_eq_true, if_false]
    split
    · exact ⟨rfl, by rintro page ⟨⟩⟩
    · split
      · exact ⟨rfl, by rintro page ⟨⟩⟩
      · cases hfilters : AuditLogFilter.new u
            { query.filters with actorUserId := some user.userId } with
        | error e => exact ⟨rfl, by rintro page ⟨⟩⟩
        | ok filters =>
          have hid : filters.actorUserId = some user.userId :=
            AuditLogFilter.actorUserId_of_new hfilters
          have hsame : executeQuery repository { query with filters } =
              executeQuery repository' { query with filters } :=
            executeQuery_eq hid (hagree user rfl)
          refine ⟨congrArg (·, []) hsame, fun page hpage ↦ ⟨user, rfl, ?_⟩⟩
          have hreturned : executeQuery repository { query with filters } = .ok page := hpage
          exact actorUserId_of_executeQuery hid hreturned

end ViewAuditLogsUseCase

namespace Scenario

/-- An employee. -/
def clerk : CurrentUserPrincipal :=
  ⟨2, "clerk", "Cleo Park", "cleo@example.com", "+61 400 000 002", .employee⟩

/-- A record of an actor. -/
def recordOf (actorUserId : Int) (eventId : Uuid) (auditId : Int) : AuditRecord where
  eventId := eventId
  eventVersion := 1
  eventType := "UserAuthenticated"
  occurredAt := .min
  recordedAt := .min
  envelopeId := 8
  correlationId := 9
  causationId := none
  source := .http
  actorUserId := some actorUserId
  actorUsername := none
  resourceType := .user
  resourceId := some "1"
  action := .authenticated
  payloadJson := []
  auditId := auditId
  createdAt := .min

/-- A store with one record of the employee. -/
def ownStore : InMemoryAuditRepository := .push .empty (recordOf 2 5 1) (by rintro other ⟨⟩) rfl

/-- The same store after somebody else did something. -/
def sharedStore : InMemoryAuditRepository := .push ownStore (recordOf 1 7 2) (by decide) rfl

/-- The first page, with the number of all records. -/
def firstPage : AuditLogQuery := { page := { limit := some 10, includeTotal := true } }

/-- The first page of the employee. -/
theorem execute_firstPage : (ViewAuditLogsUseCase.execute .asciiOnly (some clerk) ownStore .min
    firstPage).1 = .ok ⟨[recordOf 2 5 1], some 1, some 10, 0⟩ := by
  have hlist : ∀ filters, InMemoryAuditRepository.matches_ filters (recordOf 2 5 1) = true →
      ownStore.listAll filters = [recordOf 2 5 1] := by
    intro filters hmatch
    show ([recordOf 2 5 1].filter _).mergeSort _ = _
    rw [List.filter_cons_of_pos hmatch, List.filter_nil, List.mergeSort_singleton]
  show ViewAuditLogsUseCase.executeQuery ownStore
    { firstPage with filters := { actorUserId := some 2 } } = _
  show executePageQuery _ _ _ (ownStore.listPageWithTotal { actorUserId := some 2 }) = _
  unfold InMemoryAuditRepository.listPageWithTotal
  rw [hlist _ (by decide)]
  rfl

/-- The first page looks the same to the employee before and after it, with the own record. -/
theorem execute_noninterference_clerk :
    ownStore.records = [recordOf 2 5 1] ∧ sharedStore.records = [recordOf 2 5 1, recordOf 1 7 2] ∧
    (ViewAuditLogsUseCase.execute .asciiOnly (some clerk) ownStore .min firstPage =
      ViewAuditLogsUseCase.execute .asciiOnly (some clerk) sharedStore .min firstPage) ∧
    ∃ page, (ViewAuditLogsUseCase.execute .asciiOnly (some clerk) ownStore .min firstPage).1 =
        .ok page ∧
      page.items = [recordOf 2 5 1] ∧
      ∃ user ∈ some clerk, ∀ record ∈ page.items, record.actorUserId = some user.userId := by
  have hagree : ∀ user ∈ some clerk, ∀ record : AuditRecord,
      record.actorUserId = some user.userId →
        (record ∈ ownStore.records ↔ record ∈ sharedStore.records) := by
    rintro user ⟨⟩ record hrecord
    have hrecords : sharedStore.records = ownStore.records ++ [recordOf 1 7 2] := rfl
    rw [hrecords, List.mem_append, List.mem_singleton]
    constructor
    · exact .inl
    · rintro (hmem | rfl)
      · exact hmem
      · cases hrecord
  obtain ⟨hsame, hactor⟩ := ViewAuditLogsUseCase.execute_noninterference (by decide) hagree
  exact ⟨rfl, rfl, hsame, _, execute_firstPage, rfl, hactor _ execute_firstPage⟩

end Scenario
end FleetFlow
