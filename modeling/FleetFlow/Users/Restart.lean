import FleetFlow.Users.Coherence

/-!
# Restarts of the JSON store

Opening a store on the file of a coherent store gives the same indexes back. A JSON store
that is reopened at any points of a run therefore answers every call as the in-memory
repository does.
-/

namespace FleetFlow

variable {u : UnicodeTables}

namespace JSONUserStore

/-! ### Reading back one record -/

private theorem parsePositive_int {n : Int} (h : 1 ≤ n) (label : String) :
    parsePositive (.int n) label = .ok n := by
  rw [parsePositive, require_bind_of_true h]

private theorem parseStringField_of_item {raw : List (String × Json)} {field text : String}
    (h : Json.item raw field = .ok (.str text)) : parseStringField u raw field = .ok text := by
  rw [parseStringField, h]
  rfl

/-- A loadable record is read back from its JSON form. -/
theorem parseRawUser_asdict {r : UserRecord} (h : r.Loadable u) :
    parseRawUser u (.obj r.asdict) = .ok r := by
  obtain ⟨role, hrole⟩ := h.role_valid
  obtain ⟨hash, hparse, hserialize⟩ := h.password_valid
  have hcontact : ContactInfo.new u r.name r.email r.phoneNumber =
      .ok ⟨r.name, r.email, r.phoneNumber⟩ := h.contact_clean
  have hkey : normalizeUsername u r.username ≠ "" := h.key_ne
  have hid : Json.item r.asdict "user_id" = .ok (.int r.userId) := rfl
  have husername : parseStringField u r.asdict "username" = .ok r.username :=
    parseStringField_of_item rfl
  have hroleField : parseStringField u r.asdict "role" = .ok r.role :=
    parseStringField_of_item rfl
  have hname : parseStringField u r.asdict "name" = .ok r.name := parseStringField_of_item rfl
  have hemail : parseStringField u r.asdict "email" = .ok r.email := parseStringField_of_item rfl
  have hphone : parseStringField u r.asdict "phone_number" = .ok r.phoneNumber :=
    parseStringField_of_item rfl
  have hpassword : parseStringField u r.asdict "password" = .ok r.password :=
    parseStringField_of_item rfl
  have hversion : (Json.get? r.asdict "token_version").getD (.int 1) = .int r.tokenVersion := rfl
  have hnormalized : normalizeRole u (.text r.role) = .ok r.role := by
    rw [hrole, normalizeRole_value]
  simp only [parseRawUser, hid, husername, hroleField, hname, hemail, hphone, hpassword, hversion,
    hnormalized, hcontact, hparse, parsePositive_int h.userId_pos,
    parsePositive_int h.tokenVersion_pos, h.username_stripped, hserialize, bind, Except.bind,
    require, hkey, ne_eq, not_false_eq_true, if_true]

/-! ### Reading back the file -/

/-- A user that is new to the loop is collected. -/
theorem loadUser_asdict {r : UserRecord} (h : r.Loadable u) {loading : Loading}
    (hkey : loading.usersByUsername.contains (r.key u) = false)
    (hid : r.userId ∉ loading.seenUserIds) :
    loadUser u loading (.obj r.asdict) = .ok (loading.add u r) := by
  have hkey' : loading.usersByUsername.contains (normalizeUsername u r.username) = false := hkey
  rw [loadUser, parseRawUser_asdict h]
  simp only [bind, Except.bind, require, hkey', hid, not_false_eq_true, if_true]

/-- Distinct loadable users are all collected, in order. -/
theorem foldlM_loadUser {records : List UserRecord} (hload : ∀ r ∈ records, r.Loadable u)
    {loading : Loading}
    (hkeys : (loading.usersByUsername.entries.map Prod.fst ++
      records.map (UserRecord.key u)).Nodup)
    (hids : (loading.seenUserIds ++ records.map UserRecord.userId).Nodup) :
    (records.map fun record ↦ Json.obj record.asdict).foldlM (loadUser u) loading =
      .ok (records.foldl (Loading.add u) loading) := by
  induction records generalizing loading with
  | nil => rfl
  | cons r records ih =>
    have hkey : r.key u ∉ loading.usersByUsername.entries.map Prod.fst := by
      intro hmem
      exact (List.nodup_append.mp hkeys).2.2 _ hmem _ (by simp) rfl
    have hid : r.userId ∉ loading.seenUserIds := by
      intro hmem
      exact (List.nodup_append.mp hids).2.2 _ hmem _ (by simp) rfl
    have hcontains : loading.usersByUsername.contains (r.key u) = false := by
      rw [Bool.eq_false_iff]
      exact fun hc ↦ hkey (Dict.contains_iff.mp hc)
    have hstep := loadUser_asdict (hload r (by simp)) hcontains hid
    rw [List.map_cons, List.foldlM_cons, hstep, List.foldl_cons]
    refine ih (fun b hb ↦ hload b (by simp [hb])) ?_ ?_
    · have hentries : (loading.add u r).usersByUsername.entries =
          loading.usersByUsername.entries ++ [(r.key u, r)] := Dict.entries_set_of_notMem hkey
      rw [hentries, List.map_append, List.append_assoc]
      exact hkeys
    · rw [Loading.add, List.cons_append]
      rw [List.map_cons] at hids
      exact List.nodup_middle.mp hids

private theorem usersByUsername_foldl (records : List UserRecord) (loading : Loading) :
    (records.foldl (Loading.add u) loading).usersByUsername =
      records.foldl (fun d r ↦ d.set (r.key u) r) loading.usersByUsername := by
  induction records generalizing loading with
  | nil => rfl
  | cons r records ih => exact ih (loading.add u r)

private theorem maxUserId_foldl_lt {records : List UserRecord} {loading : Loading} {bound : Int}
    (hmax : loading.maxUserId < bound) (h : ∀ r ∈ records, r.userId < bound) :
    (records.foldl (Loading.add u) loading).maxUserId < bound := by
  induction records generalizing loading with
  | nil => exact hmax
  | cons r records ih =>
    refine ih ?_ fun b hb ↦ h b (by simp [hb])
    exact max_lt hmax (h r (by simp))

/-- A store opened on the file of coherent indexes has those indexes. -/
theorem new_dump {s : UserIndexes} (h : s.Coherent u) (path : String) :
    new u path (some (.json (dump s))) = .ok ⟨path, s, some (.json (dump s))⟩ := by
  have hsort : s.byUsername.values.mergeSort (fun a b ↦ a.userId ≤ b.userId) =
      s.byId.values := by
    rw [h.values_eq]
    refine List.mergeSort_of_pairwise ?_
    have hsorted := List.pairwise_map.mp h.sorted
    exact hsorted.imp fun hlt ↦ decide_eq_true hlt.le
  have hkeys : (s.byId.values.map (UserRecord.key u)).Nodup := by
    rw [← h.values_eq]
    exact h.usernames.nodup_values
  have hfold : (s.byId.values.map fun record ↦ Json.obj record.asdict).foldlM (loadUser u)
      .initial = .ok (s.byId.values.foldl (Loading.add u) .initial) :=
    foldlM_loadUser h.loadable hkeys h.ids.nodup_values
  have husers : (s.byId.values.foldl (Loading.add u) .initial).usersByUsername = s.byUsername := by
    rw [usersByUsername_foldl, ← h.values_eq]
    exact h.usernames.foldl_set
  have hmax : (s.byId.values.foldl (Loading.add u) .initial).maxUserId < s.nextId :=
    maxUserId_foldl_lt h.nextId_pos h.bounded
  have hparse : parseLoadedPayload u (dump s) = .ok (s.nextId, s.byUsername) := by
    have hnext : (Json.get? [("_next_id", Json.int s.nextId),
        ("users", .arr (s.byId.values.map fun record ↦ .obj record.asdict))] "_next_id").getD
          (.int 1) = .int s.nextId := rfl
    have hlist : Json.get? [("_next_id", Json.int s.nextId),
        ("users", .arr (s.byId.values.map fun record ↦ .obj record.asdict))] "users" =
          some (.arr (s.byId.values.map fun record ↦ .obj record.asdict)) := rfl
    rw [dump, hsort, parseLoadedPayload, hnext, parsePositive_int h.nextId_pos, hlist]
    simp only [bind, Except.bind, hfold, husers]
    rw [max_eq_left (by omega)]
  have hids : s.byUsername.values.foldl (fun d user ↦ d.set user.userId user) .empty = s.byId := by
    rw [h.values_eq]
    exact h.ids.foldl_set
  simp only [new, hparse, hids]

end JSONUserStore

/-! ### Calls -/

/-- A call to a user repository. -/
inductive UserCall where
  | create (new : NewUser)
  | updatePassword (username : String) (newHash : PasswordHash)
  | incrementTokenVersionById (userId : Int)
  | incrementTokenVersionByUsername (username : String)
  | getById (userId : Int)
  | getByUsername (username : String)
  | listUsers

/-- The hash that a call passes, if it passes one, is one that `hash_password` returns. -/
def UserCall.Hashed (u : UnicodeTables) (kdf : Kdf) : UserCall → Prop
  | create new => new.passwordHash.Produced u kdf
  | updatePassword _ newHash => newHash.Produced u kdf
  | _ => True

/-- What a call returns or raises. -/
inductive UserAnswer where
  | created (record : UserRecord)
  | found (record : Option UserRecord)
  | listed (records : List UserRecord)
  | none
  | raised (error : PyError)

/-- One call to the in-memory repository. -/
def InMemoryUserRepository.perform (u : UnicodeTables) (s : InMemoryUserRepository) :
    UserCall → UserAnswer × InMemoryUserRepository
  | .create new =>
    match s.create u new with
    | .ok (record, s') => (.created record, s')
    | .error error => (.raised error, s)
  | .updatePassword username newHash =>
    match s.updatePassword u username newHash with
    | .ok s' => (.none, s')
    | .error error => (.raised error, s)
  | .incrementTokenVersionById userId =>
    (s.incrementTokenVersionById u userId).map .found id
  | .incrementTokenVersionByUsername username =>
    (InMemoryUserRepository.incrementTokenVersionByUsername u s username).map .found id
  | .getById userId => (.found (s.getById userId), s)
  | .getByUsername username => (.found (InMemoryUserRepository.getByUsername u s username), s)
  | .listUsers => (.listed s.listUsers, s)

/-- One call to the JSON store. -/
def JSONUserStore.perform (u : UnicodeTables) (s : JSONUserStore) :
    UserCall → UserAnswer × JSONUserStore
  | .create new =>
    match s.create u new with
    | .ok (record, s') => (.created record, s')
    | .error error => (.raised error, s)
  | .updatePassword username newHash =>
    match s.updatePassword u username newHash with
    | .ok s' => (.none, s')
    | .error error => (.raised error, s)
  | .incrementTokenVersionById userId =>
    (s.incrementTokenVersionById u userId).map .found id
  | .incrementTokenVersionByUsername username =>
    (s.incrementTokenVersionByUsername u username).map .found id
  | .getById userId => (.found (s.indexes.getById userId), s)
  | .getByUsername username => (.found (s.getByUsername u username), s)
  | .listUsers => (.listed s.indexes.listUsers, s)

/-- A call, or a restart: a new store on the same file. -/
inductive StoreEvent where
  | call (call : UserCall)
  | restart

/-- The calls among the events. -/
def StoreEvent.calls (events : List StoreEvent) : List UserCall :=
  events.filterMap fun
    | call c => some c
    | restart => none

/-- The in-memory repository answers calls one after another. -/
def InMemoryUserRepository.run (u : UnicodeTables) (s : InMemoryUserRepository) :
    List UserCall → List UserAnswer × InMemoryUserRepository
  | [] => ([], s)
  | call :: calls =>
    let answered := InMemoryUserRepository.perform u s call
    let rest := InMemoryUserRepository.run u answered.2 calls
    (answered.1 :: rest.1, rest.2)

/-- The JSON store answers calls one after another; a restart can fail. -/
def JSONUserStore.run (u : UnicodeTables) (s : JSONUserStore) :
    List StoreEvent → Except PyError (List UserAnswer × JSONUserStore)
  | [] => .ok ([], s)
  | .call call :: events => do
    let answered := s.perform u call
    let rest ← answered.2.run u events
    .ok (answered.1 :: rest.1, rest.2)
  | .restart :: events => do
    let s' ← JSONUserStore.new u s.path s.file
    s'.run u events

/-! ### One call -/

namespace UserIndexes

variable {kdf : Kdf} {s : UserIndexes}

/-- Advancing the token version of what a lookup found keeps the state coherent. -/
theorem incrementFound_spec (hs : s.Coherent u) {found : Option UserRecord}
    (hfound : ∀ r, found = some r → r ∈ s.byId.values) :
    (s.incrementFound u found).2.Coherent u ∧ s.Continues (s.incrementFound u found).2 := by
  cases found with
  | none => exact ⟨hs, .refl s⟩
  | some r =>
    obtain ⟨hrenews, -, hstate⟩ := renews_of_incrementTokenVersion hs (hfound r rfl) rfl
    have hcoherent := hrenews.coherent hs
    have hcontinues := hrenews.continues hs
    rw [← hstate] at hcoherent hcontinues
    exact ⟨hcoherent, hcontinues⟩

/-- Both lookups by name agree on coherent indexes: no user has an empty key. -/
theorem getByUsername_eq (hs : s.Coherent u) (username : String) :
    InMemoryUserRepository.getByUsername u s username =
      s.byUsername.get? (normalizeUsername u username) := by
  unfold InMemoryUserRepository.getByUsername
  dsimp only
  split
  · next hkey =>
    rw [hkey, eq_comm, Option.eq_none_iff_forall_ne_some]
    intro r hr
    obtain ⟨hmem, hr⟩ := hs.byUsername_eq_some_iff.mp hr
    exact (hs.loadable r hmem).key_ne hr
  · rfl

/-- Every call keeps the state coherent and continues it. -/
theorem perform_spec (hs : s.Coherent u) {call : UserCall} (hcall : call.Hashed u kdf) :
    (InMemoryUserRepository.perform u s call).2.Coherent u ∧
      s.Continues (InMemoryUserRepository.perform u s call).2 := by
  cases call with
  | create new =>
    rw [InMemoryUserRepository.perform]
    cases hcreate : s.create u new with
    | error error => exact ⟨hs, .refl s⟩
    | ok result =>
      have hcreated := created_of_create hcreate
      exact ⟨hcreated.coherent hs hcall, hcreated.continues hs⟩
  | updatePassword username newHash =>
    rw [InMemoryUserRepository.perform]
    cases hupdate : s.updatePassword u username newHash with
    | error error => exact ⟨hs, .refl s⟩
    | ok s' =>
      obtain ⟨r, -, r', hrenews, -, rfl⟩ := renews_of_updatePassword hs hcall hupdate
      exact ⟨hrenews.coherent hs, hrenews.continues hs⟩
  | incrementTokenVersionById userId =>
    rw [InMemoryUserRepository.perform, UserIndexes.incrementTokenVersionById, Prod.map_snd, id]
    exact incrementFound_spec hs fun r hr ↦ (hs.getById_eq_some_iff.mp hr).1
  | incrementTokenVersionByUsername username =>
    rw [InMemoryUserRepository.perform, InMemoryUserRepository.incrementTokenVersionByUsername,
      getByUsername_eq hs, Prod.map_snd, id]
    refine incrementFound_spec hs fun r hr ↦ ?_
    exact (hs.byUsername_eq_some_iff.mp hr).1
  | getById userId => exact ⟨hs, .refl s⟩
  | getByUsername username => exact ⟨hs, .refl s⟩
  | listUsers => exact ⟨hs, .refl s⟩

end UserIndexes

namespace JSONUserStore

variable {kdf : Kdf} {s : JSONUserStore}

/-- Advancing a found user's token version in the store does so in its indexes and saves them. -/
theorem incrementFound_eq (s : JSONUserStore) (found : Option UserRecord) :
    (s.incrementFound u found).1 = (s.indexes.incrementFound u found).1 ∧
      ((s.incrementFound u found).2 = s ∧ (s.indexes.incrementFound u found).2 = s.indexes ∨
        (s.incrementFound u found).2 = s.commit (s.indexes.incrementFound u found).2) := by
  cases found with
  | none => exact ⟨rfl, .inl ⟨rfl, rfl⟩⟩
  | some r => exact ⟨rfl, .inr rfl⟩

/-- The store answers as its indexes would in memory, and saves what they become. -/
theorem perform_eq (hs : s.indexes.Coherent u) (call : UserCall) :
    (s.perform u call).1 = (InMemoryUserRepository.perform u s.indexes call).1 ∧
      ((s.perform u call).2 = s ∧
          (InMemoryUserRepository.perform u s.indexes call).2 = s.indexes ∨
        (s.perform u call).2 =
          s.commit (InMemoryUserRepository.perform u s.indexes call).2) := by
  cases call with
  | create new =>
    rw [perform, InMemoryUserRepository.perform, JSONUserStore.create]
    cases s.indexes.create u new with
    | error error => exact ⟨rfl, .inl ⟨rfl, rfl⟩⟩
    | ok result => exact ⟨rfl, .inr rfl⟩
  | updatePassword username newHash =>
    rw [perform, InMemoryUserRepository.perform, JSONUserStore.updatePassword]
    cases s.indexes.updatePassword u username newHash with
    | error error => exact ⟨rfl, .inl ⟨rfl, rfl⟩⟩
    | ok indexes => exact ⟨rfl, .inr rfl⟩
  | incrementTokenVersionById userId =>
    obtain ⟨hanswer, hstate⟩ := incrementFound_eq (u := u) s (s.indexes.getById userId)
    rw [perform, InMemoryUserRepository.perform, JSONUserStore.incrementTokenVersionById,
      UserIndexes.incrementTokenVersionById]
    exact ⟨congrArg UserAnswer.found hanswer, hstate⟩
  | incrementTokenVersionByUsername username =>
    obtain ⟨hanswer, hstate⟩ := incrementFound_eq (u := u) s (s.getByUsername u username)
    rw [perform, InMemoryUserRepository.perform, JSONUserStore.incrementTokenVersionByUsername,
      InMemoryUserRepository.incrementTokenVersionByUsername, UserIndexes.getByUsername_eq hs]
    exact ⟨congrArg UserAnswer.found hanswer, hstate⟩
  | getById userId => exact ⟨rfl, .inl ⟨rfl, rfl⟩⟩
  | getByUsername username =>
    rw [perform, InMemoryUserRepository.perform, UserIndexes.getByUsername_eq hs]
    exact ⟨rfl, .inl ⟨rfl, rfl⟩⟩
  | listUsers => exact ⟨rfl, .inl ⟨rfl, rfl⟩⟩

/-- A store whose file holds its coherent indexes; a store without users may have no file. -/
structure Saved (u : UnicodeTables) (s : JSONUserStore) : Prop where
  coherent : s.indexes.Coherent u
  file_eq : s.file = some (.json (dump s.indexes)) ∨ s.file = none ∧ s.indexes = .empty

/-- A restart of a saved store changes nothing. -/
theorem Saved.restart (h : s.Saved u) : JSONUserStore.new u s.path s.file = .ok s := by
  obtain ⟨path, indexes, file⟩ := s
  rcases h.file_eq with hfile | ⟨hfile, hempty⟩
  · dsimp only at hfile ⊢
    rw [hfile]
    exact new_dump h.coherent path
  · dsimp only at hfile hempty ⊢
    rw [hfile, hempty]
    rfl

/-- Every call leaves a saved store whose indexes are those of the in-memory repository. -/
theorem Saved.perform (h : s.Saved u) {call : UserCall} (hcall : call.Hashed u kdf) :
    (s.perform u call).2.Saved u ∧ (s.perform u call).2.indexes =
      (InMemoryUserRepository.perform u s.indexes call).2 := by
  have hspec := (UserIndexes.perform_spec h.coherent hcall).1
  rcases (perform_eq h.coherent call).2 with ⟨hsame, hindexes⟩ | hcommit
  · rw [hsame, hindexes]
    exact ⟨h, rfl⟩
  · rw [hcommit]
    exact ⟨⟨hspec, .inl rfl⟩, rfl⟩

end JSONUserStore

/-! ### Runs with restarts -/

section Runs

variable {kdf : Kdf}

/-- Every run of the in-memory repository stays coherent and continues its start. -/
theorem UserIndexes.run_spec {calls : List UserCall} (hcalls : ∀ c ∈ calls, c.Hashed u kdf)
    {s : UserIndexes} (hs : s.Coherent u) :
    (InMemoryUserRepository.run u s calls).2.Coherent u ∧
      s.Continues (InMemoryUserRepository.run u s calls).2 := by
  induction calls generalizing s with
  | nil => exact ⟨hs, .refl s⟩
  | cons call calls ih =>
    obtain ⟨hcoherent, hcontinues⟩ := UserIndexes.perform_spec hs (hcalls call (by simp))
    obtain ⟨hrun, hrest⟩ := ih (fun c hc ↦ hcalls c (by simp [hc])) hcoherent
    exact ⟨hrun, hcontinues.trans hrest⟩

/-- A saved store answers every run, with its restarts, as the in-memory repository does. -/
theorem JSONUserStore.Saved.run {events : List StoreEvent}
    (hevents : ∀ c ∈ StoreEvent.calls events, c.Hashed u kdf) {s : JSONUserStore}
    (h : s.Saved u) : ∃ s', s'.Saved u ∧
      s'.indexes = (InMemoryUserRepository.run u s.indexes (StoreEvent.calls events)).2 ∧
      s.run u events =
        .ok ((InMemoryUserRepository.run u s.indexes (StoreEvent.calls events)).1, s') := by
  induction events generalizing s with
  | nil => exact ⟨s, h, rfl, rfl⟩
  | cons event events ih =>
    cases event with
    | call call =>
      have hcall : call.Hashed u kdf := hevents call (by simp [StoreEvent.calls])
      obtain ⟨hsaved, hindexes⟩ := h.perform hcall
      have hrest : ∀ c ∈ StoreEvent.calls events, c.Hashed u kdf := fun c hc ↦
        hevents c (List.mem_cons_of_mem call hc)
      obtain ⟨s', hs', hlast, hrun⟩ := ih hrest hsaved
      rw [hindexes] at hlast hrun
      refine ⟨s', hs', hlast, ?_⟩
      rw [JSONUserStore.run, hrun, (perform_eq h.coherent call).1]
      rfl
    | restart =>
      obtain ⟨s', hs', hlast, hrun⟩ := ih hevents h
      refine ⟨s', hs', hlast, ?_⟩
      rw [JSONUserStore.run, h.restart]
      exact hrun

/-- A store that is opened without a file and reopened at any points of a run answers every
call as an in-memory repository that never restarts. After every part of the run both indexes
hold the same records, and what follows reuses no id and takes no token version back. -/
theorem JSONUserStore.restarts_unobservable (u : UnicodeTables) (kdf : Kdf) (path : String)
    (earlier later : List StoreEvent)
    (hearlier : ∀ c ∈ StoreEvent.calls earlier, c.Hashed u kdf)
    (hlater : ∀ c ∈ StoreEvent.calls later, c.Hashed u kdf) :
    let memory := InMemoryUserRepository.run u .empty (StoreEvent.calls earlier)
    let memory' := InMemoryUserRepository.run u memory.2 (StoreEvent.calls later)
    ∃ s s', (do (← JSONUserStore.new u path none).run u earlier) = .ok (memory.1, s) ∧
      s.run u later = .ok (memory'.1, s') ∧
      s.indexes = memory.2 ∧ s'.indexes = memory'.2 ∧
      s.indexes.Coherent u ∧ s.indexes.Continues s'.indexes := by
  have hnew : JSONUserStore.Saved u ⟨path, .empty, none⟩ := ⟨.empty, .inr ⟨rfl, rfl⟩⟩
  obtain ⟨s, hsaved, hindexes, hrun⟩ := hnew.run hearlier
  obtain ⟨s', -, hindexes', hrun'⟩ := hsaved.run hlater
  have hcontinues := (UserIndexes.run_spec hlater hsaved.coherent).2
  rw [← hindexes'] at hcontinues
  refine ⟨s, s', hrun, ?_, hindexes, ?_, hsaved.coherent, hcontinues⟩
  · rw [hrun', hindexes]
  · rw [hindexes', hindexes]

end Runs

namespace Scenario

/-- A salt and a derived key of zero bytes, with the sizes of real ones. -/
def zeroSalt : Salt := ⟨List.replicate 16 0, rfl⟩

/-- Key derivation that always gives zero bytes. -/
def zeroKdf : Kdf := fun _ _ _ ↦ ⟨List.replicate 32 0, rfl⟩

/-- A user with capital letters and padding in the username. -/
def newUser : NewUser where
  username := " Ada "
  role := .text "manager"
  name := "Ada Lovelace"
  email := "Ada@Example.com"
  phoneNumber := "0412345678"
  passwordHash := .derive zeroKdf zeroSalt "Passw0rd!"

/-- A created user, a restart and a new password. -/
def userEvents : List StoreEvent := [.call (.create newUser), .restart,
  .call (.updatePassword "ADA" (.derive zeroKdf zeroSalt "N3w-Passw0rd!"))]

/-- The hash of a password that follows every rule is produced. -/
theorem produced_derive {plain : String}
    (h : (passwordRules .asciiOnly plain).all Prod.fst = true) :
    (PasswordHash.derive zeroKdf zeroSalt plain).Produced .asciiOnly zeroKdf := by
  refine ⟨zeroSalt, plain, ?_⟩
  rw [hashPassword, validatePasswordStrength, require_bind_of_true]
  rw [List.map_eq_nil_iff, List.filter_eq_nil_iff]
  intro rule hrule
  rw [List.all_eq_true.mp h rule hrule]
  exact Bool.false_ne_true

theorem userEvents_hashed :
    ∀ c ∈ StoreEvent.calls userEvents, c.Hashed .asciiOnly zeroKdf := by
  intro c hc
  simp only [userEvents, StoreEvent.calls, List.filterMap_cons, List.filterMap_nil,
    List.mem_cons, List.not_mem_nil, or_false] at hc
  rcases hc with rfl | rfl
  · exact produced_derive rfl
  · exact produced_derive rfl

/-- The restarts of the run with one user are not observed. -/
theorem restarts_unobserved :
    let memory := InMemoryUserRepository.run .asciiOnly .empty (StoreEvent.calls userEvents)
    let memory' := InMemoryUserRepository.run .asciiOnly memory.2 (StoreEvent.calls [.restart])
    ∃ s s', (do (← JSONUserStore.new .asciiOnly "users.json" none).run .asciiOnly userEvents) =
        .ok (memory.1, s) ∧
      s.run .asciiOnly [.restart] = .ok (memory'.1, s') ∧
      s.indexes = memory.2 ∧ s'.indexes = memory'.2 ∧
      s.indexes.Coherent .asciiOnly ∧ s.indexes.Continues s'.indexes :=
  JSONUserStore.restarts_unobservable .asciiOnly zeroKdf "users.json" userEvents [.restart]
    userEvents_hashed (fun c hc ↦ by cases hc)

end Scenario
end FleetFlow
