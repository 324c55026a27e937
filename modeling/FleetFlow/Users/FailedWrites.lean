import FleetFlow.Users.Restart

/-!
# Writes of the JSON store that fail

The JSON store changes its indexes and then writes them to its file. When the write raises, the
file stays as it was and the indexes keep the change, so that they differ from what a store
opened on the file would have: memory only ever runs ahead of the file.
-/

namespace FleetFlow

open Program

/-! ### The store on a disk -/

/-- What `_atomic_write` asks of the operating system, in order. -/
inductive WriteStep where
  | ensureDataDir
  | makedirs
  | mkstemp
  | dump
  | replace
  | remove
deriving DecidableEq, Repr

/-- A disk, by the steps of a write on which it raises. -/
structure Disk where
  raises : WriteStep → Option PyError

/-- What a write on the disk raises. A temporary file that cannot be removed is logged. -/
def Disk.writeError (disk : Disk) : Option PyError :=
  disk.raises .ensureDataDir <|> disk.raises .makedirs <|> disk.raises .mkstemp <|>
    disk.raises .dump <|> disk.raises .replace

/-- The file of a store and the temporary file of a write. -/
structure StoreFiles where
  file : Option FileContent
  tmp : Option FileContent

namespace JSONUserStore

/-- One step of a write. -/
def attempt (disk : Disk) (step : WriteStep) : Program PyError StoreFiles PUnit :=
  match disk.raises step with
  | none => pure ⟨⟩
  | some error => throw error

/-- Remove the temporary file if it is still there; `json/user_store.py:191–195`. -/
def removeTemporary (disk : Disk) : Program PyError StoreFiles PUnit :=
  modify fun files ↦ if disk.raises .remove = none then { files with tmp := none } else files

/-- Write and replace the file with the temporary one; `json/user_store.py:170–196`. -/
def atomicWrite (disk : Disk) (data : Json) : Program PyError StoreFiles PUnit := do
  attempt disk .ensureDataDir
  attempt disk .makedirs
  attempt disk .mkstemp
  modify fun files ↦ { files with tmp := some .malformed }
  tryCatch (do
    attempt disk .dump
    modify fun files ↦ { files with tmp := some (.json data) }
    attempt disk .replace
    modify fun files ↦ ⟨files.tmp, none⟩)
    fun error ↦ do
      removeTemporary disk
      throw error
  removeTemporary disk

/-- Write the indexes to the file; `json/user_store.py:198–211`. -/
def saveOn (disk : Disk) : Program PyError JSONUserStore PUnit := do
  let s ← get
  Program.zoom (fun s ↦ ⟨s.file, none⟩) (fun files s ↦ { s with file := files.file })
    (atomicWrite disk (dump s.indexes))

/-- Change the indexes and save them. -/
def commitOn (disk : Disk) (indexes : UserIndexes) : Program PyError JSONUserStore PUnit := do
  modify fun s ↦ { s with indexes }
  saveOn disk

variable (u : UnicodeTables) (disk : Disk)

/-- Create a user; `json/user_store.py:224–283`. -/
def createOn (new : NewUser) : Program PyError JSONUserStore UserRecord := do
  let s ← get
  let (record, indexes) ← Program.lift (s.indexes.create u new)
  commitOn disk indexes
  pure record

/-- Replace a password; `json/user_store.py:285–311`. -/
def updatePasswordOn (username : String) (newHash : PasswordHash) :
    Program PyError JSONUserStore PUnit := do
  let s ← get
  let indexes ← Program.lift (s.indexes.updatePassword u username newHash)
  commitOn disk indexes

/-- Advance the token version of a user that was looked up; `json/user_store.py:348–355`. -/
def incrementFoundOn : Option UserRecord → Program PyError JSONUserStore (Option UserRecord)
  | none => pure none
  | some user => do
    let s ← get
    let (updated, indexes) := s.indexes.incrementTokenVersion u user
    commitOn disk indexes
    pure (some updated)

/-- One call to the store. -/
def performOn : UserCall → Program PyError JSONUserStore UserAnswer
  | .create new => .created <$> createOn u disk new
  | .updatePassword username newHash => do
    updatePasswordOn u disk username newHash
    pure .none
  | .incrementTokenVersionById userId => do
    let s ← get
    .found <$> incrementFoundOn u disk (s.indexes.getById userId)
  | .incrementTokenVersionByUsername username => do
    let s ← get
    .found <$> incrementFoundOn u disk (s.getByUsername u username)
  | .getById userId => do
    let s ← get
    pure (.found (s.indexes.getById userId))
  | .getByUsername username => do
    let s ← get
    pure (.found (s.getByUsername u username))
  | .listUsers => do
    let s ← get
    pure (.listed s.indexes.listUsers)

/-- The indexes that a call saves, if it gets that far. -/
def saved? (s : JSONUserStore) : UserCall → Option UserIndexes
  | .create new => (s.indexes.create u new).toOption.map Prod.snd
  | .updatePassword username newHash => (s.indexes.updatePassword u username newHash).toOption
  | .incrementTokenVersionById userId =>
    (s.indexes.getById userId).map fun user ↦ (s.indexes.incrementTokenVersion u user).2
  | .incrementTokenVersionByUsername username =>
    (s.getByUsername u username).map fun user ↦ (s.indexes.incrementTokenVersion u user).2
  | _ => none

/-- A store that was opened on any file and has answered calls, whatever its disk did. -/
inductive Reached : JSONUserStore → Prop where
  | opened {path : String} {file : Option FileContent} {s : JSONUserStore}
      (h : JSONUserStore.new u path file = .ok s) : Reached s
  | called {s : JSONUserStore} (h : Reached s) (disk : Disk) (call : UserCall) :
      Reached ((performOn u disk call).finalState s)

/-! ### What a write does -/

variable {u disk} {data : Json} {files : StoreFiles} {s : JSONUserStore} {indexes : UserIndexes}

/-- One step raises what the disk raises on it. -/
theorem ensures_attempt {step : WriteStep} {ok : PUnit → StoreFiles → Prop}
    {fail : PyError → StoreFiles → Prop} : Ensures (attempt disk step) files ok fail ↔
      (disk.raises step = none → ok ⟨⟩ files) ∧
        ∀ e, disk.raises step = some e → fail e files := by
  unfold attempt
  cases disk.raises step <;> simp

/-- A write replaces the file, or raises and leaves the file alone. -/
theorem ensures_atomicWrite : Ensures (atomicWrite disk data) files
    (fun _ files' ↦ disk.writeError = none ∧ files'.file = some (.json data))
    (fun e files' ↦ disk.writeError = some e ∧ files'.file = files.file) := by
  unfold atomicWrite removeTemporary
  simp only [ensures_bind, ensures_attempt, ensures_modify, ensures_tryCatch, ensures_throw]
  refine ⟨fun h1 ↦ ⟨fun h2 ↦ ⟨fun h3 ↦ ⟨fun h4 ↦ ⟨fun h5 ↦ ?_, fun e h5 ↦ ?_⟩, fun e h4 ↦ ?_⟩,
    fun e h3 ↦ ?_⟩, fun e h2 ↦ ?_⟩, fun e h1 ↦ ?_⟩
  · refine ⟨by simp [Disk.writeError, h1, h2, h3, h4, h5], ?_⟩
    split <;> rfl
  · refine ⟨by simp [Disk.writeError, h1, h2, h3, h4, h5], ?_⟩
    split <;> rfl
  · refine ⟨by simp [Disk.writeError, h1, h2, h3, h4], ?_⟩
    split <;> rfl
  · exact ⟨by simp [Disk.writeError, h1, h2, h3], trivial⟩
  · exact ⟨by simp [Disk.writeError, h1, h2], trivial⟩
  · exact ⟨by simp [Disk.writeError, h1], trivial⟩

/-- The indexes change in any case, the file only when nothing is raised. -/
theorem ensures_commitOn : Ensures (commitOn disk indexes) s
    (fun _ s' ↦ disk.writeError = none ∧ s' = s.commit indexes)
    (fun e s' ↦ disk.writeError = some e ∧ s' = { s with indexes }) := by
  unfold commitOn saveOn
  simp only [ensures_bind, ensures_modify, ensures_get, ensures_zoom]
  refine ensures_atomicWrite.mono (fun _ files h ↦ ⟨h.1, ?_⟩) fun e files h ↦ ⟨h.1, ?_⟩
  · rw [h.2]
    rfl
  · rw [h.2]

/-- What a call to the store has done when it returns. -/
def Returned (u : UnicodeTables) (disk : Disk) (s : JSONUserStore) (call : UserCall)
    (s' : JSONUserStore) : Prop :=
  s.saved? u call = none ∧ s' = s ∨
    ∃ indexes, s.saved? u call = some indexes ∧ disk.writeError = none ∧ s' = s.commit indexes

/-- What a call to the store has done when it raises. -/
def Raised (u : UnicodeTables) (disk : Disk) (s : JSONUserStore) (call : UserCall) (e : PyError)
    (s' : JSONUserStore) : Prop :=
  s.saved? u call = none ∧ s' = s ∨
    ∃ indexes, s.saved? u call = some indexes ∧ disk.writeError = some e ∧ s' = { s with indexes }

/-- A call saves nothing, or it changes the indexes and the write decides about the file. -/
theorem ensures_performOn {call : UserCall} : Ensures (performOn u disk call) s
    (fun _ s' ↦ Returned u disk s call s') (fun e s' ↦ Raised u disk s call e s') := by
  have hcommit : ∀ {indexes}, s.saved? u call = some indexes → Ensures (commitOn disk indexes) s
      (fun _ s' ↦ Returned u disk s call s') (fun e s' ↦ Raised u disk s call e s') :=
    fun hsaved ↦ ensures_commitOn.mono (fun _ _ h ↦ .inr ⟨_, hsaved, h⟩)
      fun _ _ h ↦ .inr ⟨_, hsaved, h⟩
  have hfound : ∀ found : Option UserRecord, s.saved? u call =
      found.map (fun user ↦ (s.indexes.incrementTokenVersion u user).2) →
      Ensures (UserAnswer.found <$> incrementFoundOn u disk found) s
        (fun _ s' ↦ Returned u disk s call s') (fun e s' ↦ Raised u disk s call e s') := by
    intro found hsaved
    cases found with
    | none => exact ensures_map.mpr (ensures_pure.mpr (.inl ⟨hsaved, rfl⟩))
    | some user =>
      unfold incrementFoundOn
      simp only [ensures_map, ensures_bind, ensures_get, ensures_pure]
      exact hcommit hsaved
  cases call with
  | create new =>
    unfold performOn createOn
    simp only [ensures_map, ensures_bind, ensures_get, ensures_pure, ensures_lift]
    refine ⟨fun result hcreate ↦ ?_, fun e hcreate ↦ ?_⟩
    · have hsaved : s.saved? u (.create new) = some result.2 := by
        simp [saved?, hcreate, Except.toOption]
      exact hcommit hsaved
    · exact .inl ⟨by simp [saved?, hcreate, Except.toOption], rfl⟩
  | updatePassword username newHash =>
    unfold performOn updatePasswordOn
    simp only [ensures_bind, ensures_get, ensures_pure, ensures_lift]
    refine ⟨fun indexes hupdate ↦ ?_, fun e hupdate ↦ ?_⟩
    · have hsaved : s.saved? u (.updatePassword username newHash) = some indexes := by
        simp [saved?, hupdate, Except.toOption]
      exact hcommit hsaved
    · exact .inl ⟨by simp [saved?, hupdate, Except.toOption], rfl⟩
  | incrementTokenVersionById userId =>
    unfold performOn
    simp only [ensures_bind, ensures_get]
    exact hfound _ rfl
  | incrementTokenVersionByUsername username =>
    unfold performOn
    simp only [ensures_bind, ensures_get]
    exact hfound _ rfl
  | getById _ | getByUsername _ | listUsers =>
    unfold performOn
    simp only [ensures_bind, ensures_get, ensures_pure]
    exact .inl ⟨rfl, rfl⟩

end JSONUserStore

/-! ### Memory runs ahead of the file -/

namespace UserIndexes

/-- Both indexes hold the same records under their own keys, and the counter is past every id. -/
structure Consistent (u : UnicodeTables) (s : UserIndexes) : Prop where
  byUsername : ∀ k r, s.byUsername.get? k = some r →
    r.key u = k ∧ s.byId.get? r.userId = some r
  byId : ∀ i r, s.byId.get? i = some r →
    r.userId = i ∧ s.byUsername.get? (r.key u) = some r ∧ i < s.nextId

/-- No id and no token version of the first indexes is past that of the second. -/
structure Trails (s s' : UserIndexes) : Prop where
  nextId : s.nextId ≤ s'.nextId
  version : ∀ i r, s.byId.get? i = some r →
    ∃ r', s'.byId.get? i = some r' ∧ r.tokenVersion ≤ r'.tokenVersion

/-- The same counter and the same records in both indexes. -/
structure Agrees (s s' : UserIndexes) : Prop where
  nextId : s.nextId = s'.nextId
  byUsername : ∀ k, s.byUsername.get? k = s'.byUsername.get? k
  byId : ∀ i, s.byId.get? i = s'.byId.get? i

/-- Later indexes are past these: a new id was given out or a token version was advanced. -/
def OutrunBy (s s' : UserIndexes) : Prop :=
  s.nextId < s'.nextId ∨ ∃ i r r', s.byId.get? i = some r ∧ s'.byId.get? i = some r' ∧
    r.tokenVersion < r'.tokenVersion

variable {u : UnicodeTables} {s s' s'' : UserIndexes} {r r' : UserRecord}

theorem Trails.refl (s : UserIndexes) : s.Trails s := ⟨le_rfl, fun _ r h ↦ ⟨r, h, le_rfl⟩⟩

theorem Trails.trans (h : s.Trails s') (h' : s'.Trails s'') : s.Trails s'' := by
  refine ⟨h.nextId.trans h'.nextId, fun i r hr ↦ ?_⟩
  obtain ⟨r', hr', hle⟩ := h.version i r hr
  obtain ⟨r'', hr'', hle'⟩ := h'.version i r' hr'
  exact ⟨r'', hr'', hle.trans hle'⟩

/-- What trails indexes does not agree with what they become when they move on. -/
theorem Trails.not_agrees (h : s.Trails s') (houtrun : s'.OutrunBy s'') : ¬ s.Agrees s'' := by
  intro hagrees
  rcases houtrun with hnext | ⟨i, r, r', hr, hr', hlt⟩
  · have hle := h.nextId
    rw [hagrees.nextId] at hle
    omega
  · obtain ⟨r1, hr1, hle⟩ := h.version i r' ((hagrees.byId i).trans hr')
    obtain rfl := Option.some.inj (hr.symm.trans hr1)
    omega

/-- What a mutator does to consistent indexes. -/
structure MovesOn (u : UnicodeTables) (s s' : UserIndexes) : Prop where
  consistent : s'.Consistent u
  trails : s.Trails s'
  outrun : s.OutrunBy s'

namespace Consistent

theorem empty : UserIndexes.empty.Consistent u := by
  constructor
  · intro k r hr
    cases hr
  · intro i r hr
    cases hr

/-- A new record under the next id. -/
theorem add (h : s.Consistent u) (hnew : s.byUsername.get? (r.key u) = none)
    (hid : r.userId = s.nextId) :
    MovesOn u s { s.store (r.key u) r with nextId := s.nextId + 1 } := by
  have hfree : s.byId.get? r.userId = none := by
    rw [Option.eq_none_iff_forall_ne_some]
    intro r' hr'
    have hlt := (h.byId _ r' hr').2.2
    omega
  refine ⟨⟨fun k r' hr' ↦ ?_, fun i r' hr' ↦ ?_⟩, ⟨?_, fun i r' hr' ↦ ⟨r', ?_, le_rfl⟩⟩, .inl ?_⟩
  · simp only [store, Dict.get?_set] at hr' ⊢
    have hold := h.byUsername k r'
    grind
  · simp only [store, Dict.get?_set] at hr' ⊢
    have hold := h.byId i r'
    grind
  · exact Int.le_add_one le_rfl
  · simp only [store, Dict.get?_set]
    grind
  · exact Int.lt_add_one_of_le le_rfl

/-- A later version of a stored record. -/
theorem renew (h : s.Consistent u) (hr : s.byId.get? r.userId = some r)
    (hid : r'.userId = r.userId) (hkey : r'.key u = r.key u)
    (hversion : r'.tokenVersion = r.tokenVersion + 1) :
    MovesOn u s (s.store (r.key u) r') := by
  obtain ⟨-, hname, hlt⟩ := h.byId _ r hr
  refine ⟨⟨fun k r1 hr1 ↦ ?_, fun i r1 hr1 ↦ ?_⟩, ⟨le_rfl, fun i r1 hr1 ↦ ?_⟩,
    .inr ⟨r.userId, r, r', hr, ?_, by omega⟩⟩
  · simp only [store, Dict.get?_set] at hr1 ⊢
    have hold := h.byUsername k r1
    grind
  · simp only [store, Dict.get?_set] at hr1 ⊢
    have hold := h.byId i r1
    grind
  · simp only [store, Dict.get?_set]
    by_cases hi : r'.userId = i
    · obtain rfl : r = r1 := by
        rw [← hi, hid, hr] at hr1
        exact Option.some.inj hr1
      exact ⟨r', if_pos hi, by omega⟩
    · exact ⟨r1, by rw [if_neg hi, hr1], le_rfl⟩
  · simp only [store, Dict.get?_set, hid, if_true]

/-- Every successful `create` moves on. -/
theorem movesOn_create (h : s.Consistent u) {new : NewUser}
    (hcreate : s.create u new = .ok (r, s')) : MovesOn u s s' := by
  obtain ⟨-, -, habsent, hid, -, -, -, -, -, rfl⟩ := created_of_create hcreate
  refine h.add ?_ hid
  rw [Dict.get?_eq_none_iff, ← Dict.contains_iff, habsent]
  exact Bool.false_ne_true

/-- Every successful `update_password` moves on. -/
theorem movesOn_updatePassword (h : s.Consistent u) {username : String} {hash : PasswordHash}
    (hupdate : s.updatePassword u username hash = .ok s') : MovesOn u s s' := by
  unfold updatePassword at hupdate
  dsimp only at hupdate
  split at hupdate
  · cases hupdate
  · next r hr =>
    obtain ⟨hkey, hid⟩ := h.byUsername _ r hr
    rw [Except.ok.injEq] at hupdate
    rw [← hupdate, ← hkey]
    exact h.renew hid rfl rfl rfl

/-- Advancing the token version of a stored record moves on. -/
theorem movesOn_increment (h : s.Consistent u) (hr : s.byId.get? r.userId = some r) :
    MovesOn u s (s.incrementTokenVersion u r).2 :=
  h.renew hr rfl rfl rfl

end Consistent
end UserIndexes

namespace JSONUserStore

variable {u : UnicodeTables} {disk : Disk} {s : JSONUserStore} {indexes : UserIndexes}

/-- Every call that saves moves the indexes on. -/
theorem movesOn_saved? (h : s.indexes.Consistent u) {call : UserCall}
    (hsaved : s.saved? u call = some indexes) : s.indexes.MovesOn u indexes := by
  cases call with
  | create new =>
    rw [saved?, Option.map_eq_some_iff] at hsaved
    obtain ⟨⟨record, indexes'⟩, hcreate, rfl⟩ := hsaved
    rw [toOption_eq_some_iff] at hcreate
    exact h.movesOn_create hcreate
  | updatePassword username newHash =>
    rw [saved?, toOption_eq_some_iff] at hsaved
    exact h.movesOn_updatePassword hsaved
  | incrementTokenVersionById userId =>
    rw [saved?, Option.map_eq_some_iff] at hsaved
    obtain ⟨user, huser, rfl⟩ := hsaved
    have hid := (h.byId _ _ huser).1
    exact h.movesOn_increment (hid ▸ huser)
  | incrementTokenVersionByUsername username =>
    rw [saved?, Option.map_eq_some_iff] at hsaved
    obtain ⟨user, huser, rfl⟩ := hsaved
    exact h.movesOn_increment (h.byUsername _ _ huser).2
  | getById _ | getByUsername _ | listUsers => cases hsaved

/-! ### What opening a store reads -/

/-- What the loop over the saved users keeps. -/
structure Loading.Collects (u : UnicodeTables) (done : List Json) (loading : Loading) : Prop where
  keyed : loading.usersByUsername.Keyed (UserRecord.key u)
  ids : (loading.usersByUsername.values.map UserRecord.userId).Nodup
  seen : ∀ r ∈ loading.usersByUsername.values, r.userId ∈ loading.seenUserIds
  bounded : ∀ r ∈ loading.usersByUsername.values, r.userId ≤ loading.maxUserId
  max : loading.maxUserId = 0 ∨
    ∃ r ∈ loading.usersByUsername.values, r.userId = loading.maxUserId
  origin : ∀ r ∈ loading.usersByUsername.values, ∃ raw ∈ done, parseRawUser u raw = .ok r

/-- Before the first user. -/
theorem Loading.Collects.initial : Collects u [] Loading.initial := by
  have hvalues : ∀ r, r ∉ Loading.initial.usersByUsername.values := fun _ hr ↦ by cases hr
  constructor
  · intro entry hentry
    cases hentry
  · exact List.nodup_nil
  · exact fun r hr ↦ absurd hr (hvalues r)
  · exact fun r hr ↦ absurd hr (hvalues r)
  · exact .inl rfl
  · exact fun r hr ↦ absurd hr (hvalues r)

/-- One turn of the loop. -/
theorem Loading.Collects.loadUser {done : List Json} {loading loading' : Loading} {raw : Json}
    (h : Collects u done loading) (hload : JSONUserStore.loadUser u loading raw = .ok loading') :
    Collects u (done ++ [raw]) loading' := by
  rw [JSONUserStore.loadUser, except_bind_eq_ok_iff] at hload
  obtain ⟨user, huser, hload⟩ := hload
  simp only [require_bind_eq_ok_iff, Except.ok.injEq] at hload
  obtain ⟨habsent, hunseen, rfl⟩ := hload
  have hfree : ∀ r ∈ loading.usersByUsername.values, r.key u ≠ user.key u := by
    intro r hr hkey
    have hcontains := h.keyed.contains_iff.mpr ⟨r, hr, hkey⟩
    rw [show loading.usersByUsername.contains (user.key u) = false from habsent] at hcontains
    cases hcontains
  have hvalues : (loading.add u user).usersByUsername.values =
      loading.usersByUsername.values ++ [user] := h.keyed.values_set_of_notMem hfree
  have hmem : ∀ r ∈ (loading.add u user).usersByUsername.values,
      r ∈ loading.usersByUsername.values ∨ r = user := by
    intro r hr
    rwa [hvalues, List.mem_append, List.mem_singleton] at hr
  refine ⟨h.keyed.set, ?_, fun r hr ↦ ?_, fun r hr ↦ ?_, ?_, fun r hr ↦ ?_⟩
  · rw [hvalues, List.map_append, List.nodup_append]
    refine ⟨h.ids, List.nodup_singleton _, ?_⟩
    rintro i hi j hj rfl
    obtain ⟨r, hr, rfl⟩ := List.mem_map.mp hi
    rw [List.map_singleton, List.mem_singleton] at hj
    exact hunseen (hj ▸ h.seen r hr)
  · rcases hmem r hr with hr | rfl
    · exact List.mem_cons_of_mem _ (h.seen r hr)
    · exact List.mem_cons_self
  · rcases hmem r hr with hr | rfl
    · exact (h.bounded r hr).trans (le_max_left _ _)
    · exact le_max_right _ _
  · rw [hvalues]
    have hmax : (loading.add u user).maxUserId = Max.max loading.maxUserId user.userId := rfl
    rcases max_choice loading.maxUserId user.userId with hleft | hright
    · rw [hmax, hleft]
      refine h.max.imp_right ?_
      rintro ⟨r, hr, hid⟩
      exact ⟨r, by simp [hr], hid⟩
    · rw [hmax, hright]
      exact .inr ⟨user, by simp, rfl⟩
  · rcases hmem r hr with hr | rfl
    · obtain ⟨raw', hraw', hparse⟩ := h.origin r hr
      exact ⟨raw', by simp [hraw'], hparse⟩
    · exact ⟨raw, by simp, huser⟩

/-- A payload that is accepted, with what the loop over its users collects. -/
theorem exists_collects {data : Json} {nextId : Int} {users : Dict String UserRecord}
    (h : parseLoadedPayload u data = .ok (nextId, users)) :
    ∃ payload saved rawUsers loading, data = .obj payload ∧
      parsePositive ((Json.get? payload "_next_id").getD (.int 1)) "_next_id" = .ok saved ∧
      Json.get? payload "users" = some (.arr rawUsers) ∧ Loading.Collects u rawUsers loading ∧
      users = loading.usersByUsername ∧ nextId = max saved (loading.maxUserId + 1) := by
  unfold parseLoadedPayload at h
  split at h
  · next payload =>
    rw [except_bind_eq_ok_iff] at h
    obtain ⟨saved, hsaved, h⟩ := h
    split at h
    · cases h
    · next rawUsers husers =>
      rw [except_bind_eq_ok_iff] at h
      obtain ⟨loading, hloading, h⟩ := h
      rw [Except.ok.injEq, Prod.mk.injEq] at h
      refine ⟨payload, saved, rawUsers, loading, rfl, hsaved, husers, ?_, h.2.symm, h.1.symm⟩
      refine foldlM_eq_ok (Loading.Collects u) hloading ?_ fun done raw rest _ t t' ht hstep ↦ ?_
      · exact .initial
      · exact ht.loadUser hstep
    · cases h
  · cases h

/-- The collected users form consistent indexes. -/
theorem Loading.Collects.consistent {done : List Json} {loading : Loading} {nextId : Int}
    (h : Collects u done loading) (hnext : loading.maxUserId < nextId) :
    UserIndexes.Consistent u ⟨loading.usersByUsername,
      loading.usersByUsername.values.foldl (fun d user ↦ d.set user.userId user) .empty,
      nextId⟩ := by
  have hbyId : ∀ i r, (loading.usersByUsername.values.foldl
      (fun d user ↦ d.set user.userId user) Dict.empty).get? i = some r ↔
        r ∈ loading.usersByUsername.values ∧ r.userId = i := by
    intro i r
    have hids : ((Dict.empty : Dict Int UserRecord).entries.map Prod.fst ++
        loading.usersByUsername.values.map UserRecord.userId).Nodup := h.ids
    rw [Dict.get?_eq_some_iff, Dict.entries_foldl_set hids]
    simp [Dict.empty, and_comm, eq_comm]
  refine ⟨fun k r hr ↦ ?_, fun i r hr ↦ ?_⟩
  · obtain ⟨hmem, hkey⟩ := h.keyed.get?_eq_some_iff.mp hr
    exact ⟨hkey, (hbyId _ _).mpr ⟨hmem, rfl⟩⟩
  · obtain ⟨hmem, hid⟩ := (hbyId _ _).mp hr
    exact ⟨hid, h.keyed.get?_eq_some_iff.mpr ⟨hmem, rfl⟩,
      hid ▸ (h.bounded r hmem).trans_lt hnext⟩

/-- An opened store has consistent indexes, and the path and the file that it was opened on. -/
theorem consistent_new {path : String} {file : Option FileContent}
    (h : JSONUserStore.new u path file = .ok s) :
    s.indexes.Consistent u ∧ s.path = path ∧ s.file = file := by
  unfold JSONUserStore.new at h
  split at h
  · rw [Except.ok.injEq] at h
    subst h
    exact ⟨.empty, rfl, rfl⟩
  · cases h
  · next data =>
    split at h
    · cases h
    · next nextId users hparse =>
      rw [Except.ok.injEq] at h
      subst h
      obtain ⟨payload, saved, rawUsers, loading, -, -, -, hcollects, rfl, rfl⟩ :=
        exists_collects hparse
      exact ⟨hcollects.consistent (by omega), rfl, rfl⟩

/-- A counter is read back as it was saved. -/
theorem parsePositive_eq_ok_iff {n m : Int} {label : String} :
    parsePositive (.int n) label = .ok m ↔ 1 ≤ n ∧ m = n := by
  rw [parsePositive, require_bind_eq_ok_iff, Except.ok.injEq, eq_comm]

/-- A record that is read from a saved one has its id and token version. -/
theorem eq_of_parseRawUser_asdict {r r' : UserRecord}
    (h : parseRawUser u (.obj r.asdict) = .ok r') :
    r'.userId = r.userId ∧ r'.tokenVersion = r.tokenVersion := by
  have hid : Json.item r.asdict "user_id" = .ok (.int r.userId) := rfl
  have hversion : (Json.get? r.asdict "token_version").getD (.int 1) = .int r.tokenVersion := rfl
  rw [parseRawUser, hid, ok_bind, except_bind_eq_ok_iff] at h
  obtain ⟨userId, huserId, h⟩ := h
  rw [parsePositive_eq_ok_iff] at huserId
  simp only [hversion, except_bind_eq_ok_iff, Except.ok.injEq] at h
  obtain ⟨_, -, _, -, _, -, _, -, _, -, _, -, _, -, _, -, _, -, _, -, version, hparsed, rfl⟩ := h
  rw [parsePositive_eq_ok_iff] at hparsed
  exact ⟨huserId.2, hparsed.2⟩

/-- A store that is opened on saved indexes trails them. -/
theorem trails_new_dump (h : indexes.Consistent u) {path : String} {fresh : JSONUserStore}
    (hnew : JSONUserStore.new u path (some (.json (dump indexes))) = .ok fresh) :
    fresh.indexes.Trails indexes := by
  unfold JSONUserStore.new at hnew
  dsimp only at hnew
  split at hnew
  · cases hnew
  · next nextId users hparse =>
    rw [Except.ok.injEq] at hnew
    subst hnew
    obtain ⟨payload, saved, rawUsers, loading, hpayload, hsaved, husers, hcollects, rfl, rfl⟩ :=
      exists_collects hparse
    rw [dump, Json.obj.injEq] at hpayload
    subst hpayload
    obtain ⟨hpos, rfl⟩ := parsePositive_eq_ok_iff.mp hsaved
    have hraw : (.arr rawUsers : Json) = .arr
        ((indexes.byUsername.values.mergeSort fun a b ↦ a.userId ≤ b.userId).map
          fun record ↦ .obj record.asdict) := (Option.some.inj husers).symm
    rw [Json.arr.injEq] at hraw
    -- what was loaded comes from a record of the saved indexes
    have hold : ∀ r ∈ loading.usersByUsername.values, ∃ r', indexes.byId.get? r.userId = some r' ∧
        r.tokenVersion = r'.tokenVersion := by
      intro r hr
      obtain ⟨raw, hmem, hparsed⟩ := hcollects.origin r hr
      rw [hraw, List.mem_map] at hmem
      obtain ⟨r', hr', rfl⟩ := hmem
      obtain ⟨hid, hversion⟩ := eq_of_parseRawUser_asdict hparsed
      obtain ⟨⟨k, _⟩, hentry, rfl⟩ := List.mem_map.mp (List.mem_mergeSort.mp hr')
      have hstored := (h.byUsername k _ (Dict.get?_eq_some_iff.mpr hentry)).2
      exact ⟨_, hid ▸ hstored, hversion⟩
    have hmax : loading.maxUserId < indexes.nextId := by
      rcases hcollects.max with hzero | ⟨r, hr, hid⟩
      · omega
      · obtain ⟨r', hr', -⟩ := hold r hr
        have hlt := (h.byId _ _ hr').2.2
        omega
    refine ⟨max_le le_rfl (by omega), fun i r hr ↦ ?_⟩
    have hconsistent := hcollects.consistent hmax
    obtain ⟨hid, hname, -⟩ := hconsistent.byId i r hr
    obtain ⟨r', hr', hversion⟩ := hold r (Dict.mem_values_of_get? hname)
    exact ⟨r', hid ▸ hr', hversion.le⟩

/-! ### Runs -/

/-- A store that is opened on the file has the counter and the records of memory. -/
def AgreesWithFile (u : UnicodeTables) (s : JSONUserStore) : Prop :=
  ∃ fresh, JSONUserStore.new u s.path s.file = .ok fresh ∧ fresh.indexes.Agrees s.indexes

/-- Memory is consistent and no store that is opened on the file is past it. -/
structure Ahead (u : UnicodeTables) (s : JSONUserStore) : Prop where
  consistent : s.indexes.Consistent u
  trails : ∀ fresh, JSONUserStore.new u s.path s.file = .ok fresh →
    fresh.indexes.Trails s.indexes

/-- Every call keeps memory ahead. -/
theorem Ahead.performOn (h : s.Ahead u) (disk : Disk) (call : UserCall) :
    ((performOn u disk call).finalState s).Ahead u := by
  have hsame : ∀ {indexes}, s.saved? u call = some indexes →
      Ahead u { s with indexes } := fun hsaved ↦
    have hmoves := movesOn_saved? h.consistent hsaved
    ⟨hmoves.consistent, fun fresh hfresh ↦ (h.trails fresh hfresh).trans hmoves.trails⟩
  have hcommit : ∀ {indexes}, s.saved? u call = some indexes → (s.commit indexes).Ahead u :=
    fun hsaved ↦
      have hmoves := movesOn_saved? h.consistent hsaved
      ⟨hmoves.consistent, fun _ hfresh ↦ trails_new_dump hmoves.consistent hfresh⟩
  refine Ensures.finalState (ensures_performOn.mono (fun _ s' hs ↦ ?_) fun e s' hs ↦ ?_)
  · rcases hs with ⟨-, rfl⟩ | ⟨indexes, hsaved, -, rfl⟩
    · exact h
    · exact hcommit hsaved
  · rcases hs with ⟨-, rfl⟩ | ⟨indexes, hsaved, -, rfl⟩
    · exact h
    · exact hsame hsaved

/-- Memory is ahead in every run. -/
theorem Reached.ahead (h : Reached u s) : s.Ahead u := by
  induction h with
  | opened hnew =>
    obtain ⟨hconsistent, rfl, rfl⟩ := consistent_new hnew
    refine ⟨hconsistent, fun fresh hfresh ↦ ?_⟩
    rw [Except.ok.inj (hfresh.symm.trans hnew)]
    exact .refl _
  | called _ disk call ih => exact ih.performOn disk call

/-- In every run, a call whose write raises changes memory and leaves the file as it was, and
then the two do not agree. -/
theorem failed_write_disagrees (h : Reached u s) {call : UserCall} {error : PyError}
    (hsaved : s.saved? u call = some indexes) (hwrite : disk.writeError = some error) :
    performOn u disk call s = .error error { s with indexes } ∧
      ¬ AgreesWithFile u { s with indexes } := by
  constructor
  · have hraised : Ensures (performOn u disk call) s (fun _ s' ↦ Returned u disk s call s')
        (fun e s' ↦ Raised u disk s call e s') := ensures_performOn
    rw [ensures_iff] at hraised
    split at hraised
    · rcases hraised with ⟨hnone, -⟩ | ⟨_, -, hnone, -⟩
      · rw [hsaved] at hnone
        cases hnone
      · rw [hwrite] at hnone
        cases hnone
    · next e s' hrun =>
      rcases hraised with ⟨hnone, -⟩ | ⟨_, hsaved', hwrite', rfl⟩
      · rw [hsaved] at hnone
        cases hnone
      · obtain rfl := Option.some.inj (hsaved.symm.trans hsaved')
        obtain rfl := Option.some.inj (hwrite.symm.trans hwrite')
        exact hrun
  · rintro ⟨fresh, hfresh, hagrees⟩
    have hmoves := movesOn_saved? h.ahead.consistent hsaved
    exact (h.ahead.trails fresh hfresh).not_agrees hmoves.outrun hagrees

end JSONUserStore

namespace Scenario

/-- A disk that is full. -/
def fullDisk : Disk := ⟨fun step ↦
  if step = .dump then some ⟨.osError, "[Errno 28] No space left on device"⟩ else none⟩

/-- A store without a file. -/
def emptyStore : JSONUserStore := ⟨"users.json", .empty, none⟩

/-- It is what opening a store without a file gives. -/
theorem reached_emptyStore : JSONUserStore.Reached .asciiOnly emptyStore :=
  .opened (show JSONUserStore.new .asciiOnly "users.json" none = .ok emptyStore from rfl)

/-- A user that was not saved is in memory. -/
theorem failed_write_disagrees_create :
    ∃ s', JSONUserStore.performOn .asciiOnly fullDisk (.create newUser) emptyStore =
        .error ⟨.osError, "[Errno 28] No space left on device"⟩ s' ∧
      ¬ s'.AgreesWithFile .asciiOnly := by
  have hsome : (emptyStore.saved? .asciiOnly (.create newUser)).isSome = true := by
    decide +kernel
  obtain ⟨indexes, hsaved⟩ := Option.isSome_iff_exists.mp hsome
  have hwrite : fullDisk.writeError = some ⟨.osError, "[Errno 28] No space left on device"⟩ := rfl
  exact ⟨_, JSONUserStore.failed_write_disagrees reached_emptyStore hsaved hwrite⟩

/-- Creating the first user on a full disk raises, and a new store does not have the user. -/
theorem not_failed_write_agrees :
    JSONUserStore.Reached .asciiOnly emptyStore ∧
    ¬ Ensures (JSONUserStore.performOn .asciiOnly fullDisk (.create newUser)) emptyStore
      (fun _ _ ↦ True) (fun _ s' ↦ s'.AgreesWithFile .asciiOnly) := by
  refine ⟨reached_emptyStore, fun h ↦ ?_⟩
  have hraises : raisesIn (JSONUserStore.performOn .asciiOnly fullDisk (.create newUser))
      emptyStore (fun s' ↦ s'.file.isNone && decide (s'.indexes.nextId = 2)) = true := by
    decide +kernel
  obtain ⟨e, s', ⟨fresh, hfresh, hagrees⟩, hstate⟩ := h.not_of_raisesIn hraises
  rw [Bool.and_eq_true, decide_eq_true_eq, Option.isNone_iff_eq_none] at hstate
  rw [hstate.1] at hfresh
  have hempty : fresh.indexes = .empty := by
    rw [← Except.ok.inj hfresh]
  have hnext := hagrees.nextId
  rw [hempty, hstate.2] at hnext
  exact absurd hnext (by decide)

end Scenario
end FleetFlow
