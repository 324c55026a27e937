import FleetFlow.Users.Sessions

/-!
# Revocation of tokens

The log of a run of requests lists the tokens that were issued and the revocations. A token
carries the version that its user's record had when it was issued; every later revocation of
that user, and nothing else, moves the record past it.
-/

namespace FleetFlow

/-- A token that was issued: its type, the user it was issued to, and its expiry. -/
structure IssuedToken (Token : Type) where
  token : Token
  type : TokenType
  userId : Int
  expiresAt : Int

/-- What a run of requests leaves behind. -/
inductive LogEntry (Token : Type) where
  | issued (token : IssuedToken Token)
  | revoked (userId : Int)

/-- A password change, a password reset or a logout of a user. -/
def LogEntry.revokes {Token : Type} (userId : Int) : LogEntry Token → Bool
  | issued _ => false
  | revoked id => id = userId

/-- How often a log revokes the tokens of a user. -/
def revocations {Token : Type} (userId : Int) (log : List (LogEntry Token)) : Nat :=
  log.countP (LogEntry.revokes userId)

/-- The entries of a successful request. -/
def AuthReply.entries {Token : Type} (config : JWTConfig) : AuthReply Token → List (LogEntry Token)
  | registered _ => []
  | issued record mint response => [
      .issued {
        token := response.accessToken
        type := .access
        userId := record.userId
        expiresAt := getExpirationTime config .access mint.accessAt },
      .issued {
        token := response.refreshToken
        type := .refresh
        userId := record.userId
        expiresAt := getExpirationTime config .refresh mint.refreshAt }]
  | passwordChanged userId => [.revoked userId]
  | passwordReset userId => [.revoked userId]
  | tokensRevoked userId => [.revoked userId]

section Definitions

variable (u : UnicodeTables) (kdf : Kdf) {Token : Type} (jwt : Jwt Token) (config : JWTConfig)
  {σ : Type} (port : UserRepositoryPort σ)

/-- Serve timed requests one after another; a request that fails changes nothing. -/
def serve (s : σ) : List (Nat × AuthRequest Token) → List (LogEntry Token) × σ
  | [] => ([], s)
  | (now, request) :: requests =>
    match handle u kdf jwt config port s now request with
    | .error _ => serve s requests
    | .ok (reply, s') =>
      let later := serve s' requests
      (reply.entries config ++ later.1, later.2)

/-- A repository that acts on its indexes as the in-memory one does. -/
structure UserRepositoryPort.Implements (indexes : σ → UserIndexes) : Prop where
  getByUsername_eq : ∀ s username, (indexes s).Coherent u →
    port.getByUsername s username =
      (indexes s).byUsername.get? (normalizeUsername u username)
  getById_eq : ∀ s userId, port.getById s userId = (indexes s).getById userId
  create_eq : ∀ s new, (port.create s new).map (Prod.map id indexes) = (indexes s).create u new
  updatePassword_eq : ∀ s username newHash, (port.updatePassword s username newHash).map indexes =
    (indexes s).updatePassword u username newHash
  incrementTokenVersionById_eq : ∀ s userId,
    (port.incrementTokenVersionById s userId).map id indexes =
      (indexes s).incrementTokenVersionById u userId

/-- The in-memory repository as a port. -/
def memoryPort : UserRepositoryPort InMemoryUserRepository where
  getByUsername := InMemoryUserRepository.getByUsername u
  getById := UserIndexes.getById
  create := UserIndexes.create u
  updatePassword := UserIndexes.updatePassword u
  incrementTokenVersionById := UserIndexes.incrementTokenVersionById u

/-- The JSON store as a port. -/
def jsonPort : UserRepositoryPort JSONUserStore where
  getByUsername := JSONUserStore.getByUsername u
  getById s := s.indexes.getById
  create := JSONUserStore.create u
  updatePassword := JSONUserStore.updatePassword u
  incrementTokenVersionById := JSONUserStore.incrementTokenVersionById u

end Definitions

/-- The two user stores. -/
inductive UserStoreKind where
  | memory
  | json

namespace UserStoreKind

/-- The state of a user store. -/
def State : UserStoreKind → Type
  | memory => InMemoryUserRepository
  | json => JSONUserStore

/-- A user store as a port. -/
def port (u : UnicodeTables) : (kind : UserStoreKind) → UserRepositoryPort kind.State
  | memory => memoryPort u
  | json => jsonPort u

/-- The indexes of a user store. -/
def indexes : (kind : UserStoreKind) → kind.State → UserIndexes
  | memory => id
  | json => JSONUserStore.indexes

end UserStoreKind

variable {u : UnicodeTables} {kdf : Kdf} {Token : Type} {jwt : Jwt Token} {config : JWTConfig}

/-! ### Both stores implement the port -/

theorem memoryPort_implements : (memoryPort u).Implements u id where
  getByUsername_eq s username hs := by
    rw [id_eq] at hs
    simp only [memoryPort, id_eq]
    rw [UserIndexes.getByUsername_eq hs]
  getById_eq _ _ := rfl
  create_eq s new := by cases h : UserIndexes.create u s new <;> simp [memoryPort, h, Except.map]
  updatePassword_eq s username newHash := by
    cases h : UserIndexes.updatePassword u s username newHash <;> simp [memoryPort, h, Except.map]
  incrementTokenVersionById_eq s userId := by
    rw [Prod.map_id]
    rfl

theorem jsonPort_implements : (jsonPort u).Implements u JSONUserStore.indexes where
  getByUsername_eq _ _ _ := rfl
  getById_eq _ _ := rfl
  create_eq s new := by
    cases h : s.indexes.create u new with
    | error error => simp [jsonPort, JSONUserStore.create, h, Except.map, bind, Except.bind]
    | ok result =>
      simp [jsonPort, JSONUserStore.create, h, Except.map, bind, Except.bind,
        JSONUserStore.commit, JSONUserStore.save]
  updatePassword_eq s username newHash := by
    cases h : s.indexes.updatePassword u username newHash with
    | error error =>
      simp [jsonPort, JSONUserStore.updatePassword, h, Except.map, bind, Except.bind]
    | ok indexes =>
      simp [jsonPort, JSONUserStore.updatePassword, h, Except.map, bind, Except.bind,
        JSONUserStore.commit, JSONUserStore.save]
  incrementTokenVersionById_eq s userId := by
    obtain ⟨hanswer, ⟨hsame, hindexes⟩ | hcommit⟩ :=
      JSONUserStore.incrementFound_eq (u := u) s (s.indexes.getById userId)
    · refine Prod.ext hanswer ?_
      exact (congrArg JSONUserStore.indexes hsame).trans hindexes.symm
    · exact Prod.ext hanswer (congrArg JSONUserStore.indexes hcommit)

theorem UserStoreKind.implements (kind : UserStoreKind) :
    (kind.port u).Implements u kind.indexes := by
  cases kind with
  | memory => exact memoryPort_implements
  | json => exact jsonPort_implements

/-! ### Acceptance of one token -/

/-- A token that was made for a record when its version was `version`. -/
structure Minted (jwt : Jwt Token) (config : JWTConfig) (t : IssuedToken Token)
    (r : UserRecord) (version : Int) : Prop where
  userId_eq : t.userId = r.userId
  version_pos : 1 ≤ version
  token_eq : ∃ issuedAt jti, t.token = createToken jwt config issuedAt jti
      ⟨r.userId, r.username, r.role, version⟩ t.type ∧
    t.expiresAt = getExpirationTime config t.type issuedAt

theorem Minted.sameUser {t : IssuedToken Token} {r r' : UserRecord} {version : Int}
    (h : Minted jwt config t r version) (hsame : r.SameUser r') :
    Minted jwt config t r' version where
  userId_eq := h.userId_eq.trans hsame.userId_eq.symm
  version_pos := h.version_pos
  token_eq := by
    rw [hsame.userId_eq, hsame.username_eq, hsame.role_eq]
    exact h.token_eq

/-- What the principal of a record carries. -/
theorem createRuntimeUser_spec {r : UserRecord} {currentUser : CurrentUserPrincipal}
    (h : createRuntimeUser u r = .ok currentUser) :
    currentUser.userId = r.userId ∧ currentUser.username = r.username ∧
      currentUser.role.value = r.role := by
  unfold createRuntimeUser at h
  cases hcontact : ContactInfo.new u r.name r.email r.phoneNumber with
  | error error =>
    rw [hcontact] at h
    cases h
  | ok contact =>
    rw [hcontact] at h
    cases hrole : Role.ofValue? r.role with
    | none =>
      rw [hrole] at h
      cases h
    | some role =>
      rw [hrole, Except.ok.injEq] at h
      subst h
      exact ⟨rfl, rfl, Role.value_of_ofValue? hrole⟩

/-- A loadable record has a principal. -/
theorem createRuntimeUser_of_loadable {r : UserRecord} (h : r.Loadable u) :
    ∃ currentUser, createRuntimeUser u r = .ok currentUser := by
  obtain ⟨role, hrole⟩ := h.role_valid
  have hcontact : ContactInfo.new u r.name r.email r.phoneNumber =
      .ok ⟨r.name, r.email, r.phoneNumber⟩ := h.contact_clean
  have hread : Role.ofValue? r.role = some role := by rw [hrole, Role.ofValue?_value]
  unfold createRuntimeUser
  rw [hcontact, hread]
  exact ⟨_, rfl⟩

section Acceptance

variable {σ : Type} {port : UserRepositoryPort σ} {indexes : σ → UserIndexes} {s : σ}

/-- When exactly a token is accepted, and for which principal. -/
theorem principalFromToken_eq_ok_iff {now : Nat} {token : Token} {expectedType : TokenType}
    {p : AuthenticatedPrincipal} :
    principalFromToken u jwt config port s now token expectedType = .ok p ↔
      decodeToken jwt config u now token expectedType = some p.token ∧
        ∃ userId, PyStr.int? u p.token.sub = some userId ∧
          port.getById s userId = some p.record ∧ p.record.username = p.token.username ∧
          p.record.tokenVersion = p.token.tokenVersion ∧
          createRuntimeUser u p.record = .ok p.currentUser := by
  obtain ⟨record, currentUser, payload⟩ := p
  constructor
  · intro h
    unfold principalFromToken at h
    cases hdecode : decodeToken jwt config u now token expectedType with
    | none =>
      rw [hdecode] at h
      cases h
    | some payload' =>
      cases hsub : PyStr.int? u payload'.sub with
      | none =>
        simp only [hdecode, hsub] at h
        cases h
      | some userId =>
        cases hfind : port.getById s userId with
        | none =>
          simp only [hdecode, hsub, hfind] at h
          cases h
        | some record' =>
          simp only [hdecode, hsub, hfind, require_bind_eq_ok_iff] at h
          obtain ⟨husername, hversion, h⟩ := h
          cases huser : createRuntimeUser u record' with
          | error error =>
            rw [huser] at h
            cases h
          | ok currentUser' =>
            rw [huser, Except.ok.injEq, AuthenticatedPrincipal.mk.injEq] at h
            obtain ⟨rfl, rfl, rfl⟩ := h
            exact ⟨rfl, userId, hsub, hfind, husername, hversion, huser⟩
  · rintro ⟨hdecode, userId, hsub, hfind, husername, hversion, huser⟩
    dsimp only at hdecode hsub hfind husername hversion huser
    unfold principalFromToken
    simp only [hdecode, hsub, hfind]
    rw [require_bind_of_true husername, require_bind_of_true hversion, huser]

/-- An accepted token belongs to a stored user, and its principal is that user. -/
theorem principalFromToken_spec (hport : port.Implements u indexes)
    (hs : (indexes s).Coherent u) {now : Nat} {token : Token} {expectedType : TokenType}
    {p : AuthenticatedPrincipal}
    (h : principalFromToken u jwt config port s now token expectedType = .ok p) :
    p.record ∈ (indexes s).byId.values ∧ p.currentUser.userId = p.record.userId ∧
      p.currentUser.username = p.record.username ∧ p.currentUser.role.value = p.record.role := by
  obtain ⟨-, userId, -, hfind, -, -, huser⟩ := principalFromToken_eq_ok_iff.mp h
  rw [hport.getById_eq] at hfind
  exact ⟨(hs.getById_eq_some_iff.mp hfind).1, createRuntimeUser_spec huser⟩

/-- What a minted token decodes to. -/
theorem decodeToken_minted (hs : (indexes s).Coherent u) {r : UserRecord}
    (hr : r ∈ (indexes s).byId.values) {t : IssuedToken Token} {version : Int}
    (ht : Minted jwt config t r version) (now : Nat) (expectedType : TokenType) :
    ∃ payload : TokenPayload, payload.sub = toString r.userId ∧ payload.username = r.username ∧
      payload.tokenVersion = version ∧ decodeToken jwt config u now t.token expectedType =
        if expectedType = t.type ∧ (now : Int) ≤ t.expiresAt then some payload else none := by
  obtain ⟨issuedAt, jti, htoken, hexpires⟩ := ht.token_eq
  have hload := hs.loadable r hr
  obtain ⟨role, hrole⟩ := hload.role_valid
  have husername : PyStr.strip u r.username ≠ "" := by
    intro hblank
    apply hload.key_ne
    rw [UserRecord.key, normalizeUsername, hblank]
    rfl
  have hroleText : PyStr.strip u r.role ≠ "" := by
    rw [hrole, Role.strip_value]
    cases role <;> decide
  refine ⟨buildPayload config issuedAt jti ⟨r.userId, r.username, r.role, version⟩ t.type,
    rfl, rfl, rfl, ?_⟩
  rw [htoken, hexpires]
  apply decodeToken_createToken
  · exact husername
  · exact hroleText
  · exact ht.version_pos

/-- A minted token is accepted exactly as its own type, until it expires, and as long as its
version is the stored one. -/
theorem principalFromToken_minted (hport : port.Implements u indexes)
    (hs : (indexes s).Coherent u) {r : UserRecord} (hr : r ∈ (indexes s).byId.values)
    {t : IssuedToken Token} {version : Int} (ht : Minted jwt config t r version)
    (now : Nat) (expectedType : TokenType) :
    (∃ p, principalFromToken u jwt config port s now t.token expectedType = .ok p) ↔
      expectedType = t.type ∧ (now : Int) ≤ t.expiresAt ∧ r.tokenVersion = version := by
  obtain ⟨payload, hsub, husername, hversion, hdecode⟩ :=
    decodeToken_minted hs hr ht now expectedType
  have hfind : port.getById s r.userId = some r := by
    rw [hport.getById_eq]
    exact hs.getById_eq_some_iff.mpr ⟨hr, rfl⟩
  constructor
  · rintro ⟨p, hp⟩
    obtain ⟨hp, userId, hpsub, hpfind, -, hpversion, -⟩ := principalFromToken_eq_ok_iff.mp hp
    rw [hdecode] at hp
    split at hp
    · next hvalid =>
      obtain rfl : payload = p.token := Option.some.inj hp
      rw [hsub, PyStr.int?_toString] at hpsub
      obtain rfl : r.userId = userId := Option.some.inj hpsub
      obtain heq : r = p.record := Option.some.inj (hfind.symm.trans hpfind)
      rw [← heq, hversion] at hpversion
      exact ⟨hvalid.1, hvalid.2, hpversion⟩
    · cases hp
  · rintro ⟨htype, hexpires, heq⟩
    obtain ⟨currentUser, huser⟩ := createRuntimeUser_of_loadable (hs.loadable r hr)
    refine ⟨⟨r, currentUser, payload⟩, principalFromToken_eq_ok_iff.mpr ?_⟩
    rw [if_pos ⟨htype, hexpires⟩] at hdecode
    exact ⟨hdecode, r.userId, by rw [hsub, PyStr.int?_toString], hfind, husername.symm,
      heq.trans hversion.symm, huser⟩

/-- The principal of an accepted minted token is the user it was issued to. -/
theorem record_of_minted (hport : port.Implements u indexes) (hs : (indexes s).Coherent u)
    {r : UserRecord} (hr : r ∈ (indexes s).byId.values) {t : IssuedToken Token} {version : Int}
    (ht : Minted jwt config t r version) {now : Nat} {expectedType : TokenType}
    {p : AuthenticatedPrincipal}
    (h : principalFromToken u jwt config port s now t.token expectedType = .ok p) :
    p.record = r := by
  obtain ⟨payload, hsub, -, -, hdecode⟩ := decodeToken_minted hs hr ht now expectedType
  obtain ⟨hp, userId, hpsub, hpfind, -, -, -⟩ := principalFromToken_eq_ok_iff.mp h
  rw [hdecode] at hp
  split at hp
  · obtain rfl : payload = p.token := Option.some.inj hp
    rw [hsub, PyStr.int?_toString] at hpsub
    obtain rfl : r.userId = userId := Option.some.inj hpsub
    rw [hport.getById_eq] at hpfind
    obtain ⟨hmem, hid⟩ := hs.getById_eq_some_iff.mp hpfind
    exact hs.eq_of_userId hmem hr hid
  · cases hp

end Acceptance

/-! ### What one request does -/

/-- Every user is kept, and each revocation in the log advances the user's version by one. -/
def Advances {Token : Type} (log : List (LogEntry Token)) (s s' : UserIndexes) : Prop :=
  ∀ r ∈ s.byId.values, ∃ r' ∈ s'.byId.values, r.SameUser r' ∧
    r'.tokenVersion = r.tokenVersion + revocations r.userId log

section Steps

variable {s s' s'' : UserIndexes} {log log' : List (LogEntry Token)} {r r' : UserRecord}

@[simp] theorem revocations_nil (userId : Int) :
    revocations userId ([] : List (LogEntry Token)) = 0 := rfl

@[simp] theorem revocations_append (userId : Int) (log log' : List (LogEntry Token)) :
    revocations userId (log ++ log') = revocations userId log + revocations userId log' :=
  List.countP_append

/-- A log without revocations of a user counts none, and only such a log does. -/
theorem revocations_eq_zero_iff {userId : Int} :
    revocations userId log = 0 ↔ LogEntry.revoked userId ∉ log := by
  rw [revocations, List.countP_eq_zero]
  constructor
  · intro h hmem
    exact h _ hmem (decide_eq_true rfl)
  · intro h entry hentry hrevokes
    cases entry with
    | issued t => cases hrevokes
    | revoked id =>
      obtain rfl : id = userId := of_decide_eq_true hrevokes
      exact h hentry

theorem Advances.refl (h : ∀ userId, revocations userId log = 0) (s : UserIndexes) :
    Advances log s s := by
  intro r hr
  exact ⟨r, hr, .refl r, by rw [h]; simp⟩

theorem Advances.trans (h : Advances log s s') (h' : Advances log' s' s'') :
    Advances (log ++ log') s s'' := by
  intro r hr
  obtain ⟨r', hr', hsame, hversion⟩ := h r hr
  obtain ⟨r'', hr'', hsame', hversion'⟩ := h' r' hr'
  refine ⟨r'', hr'', hsame.trans hsame', ?_⟩
  rw [hversion', hversion, hsame.userId_eq, revocations_append]
  omega

/-- A new user leaves the others as they are. -/
theorem UserIndexes.Created.advances {new : NewUser} (h : UserIndexes.Created u s new r s')
    (hs : s.Coherent u) : Advances ([] : List (LogEntry Token)) s s' := by
  intro b hb
  refine ⟨b, ?_, .refl b, by simp⟩
  rw [h.values_eq hs]
  exact List.mem_append_left _ hb

/-- A renewed record advances its own user by one version. -/
theorem UserIndexes.Renews.advances (h : UserIndexes.Renews u s r r') (hs : s.Coherent u) :
    Advances [(LogEntry.revoked r.userId : LogEntry Token)] s (s.store (r'.key u) r') := by
  intro b hb
  rw [hs.values_store h.mem h.sameUser]
  by_cases hid : b.userId = r'.userId
  · have heq : b = r := hs.eq_of_userId hb h.mem (hid.trans h.sameUser.userId_eq)
    refine ⟨r', List.mem_map.mpr ⟨b, hb, if_pos hid⟩, heq ▸ h.sameUser, ?_⟩
    rw [h.tokenVersion_eq, heq, revocations, List.countP_singleton]
    simp [LogEntry.revokes]
  · refine ⟨b, List.mem_map.mpr ⟨b, hb, if_neg hid⟩, .refl b, ?_⟩
    have hne : r.userId ≠ b.userId := fun heq ↦ hid (heq.symm.trans h.sameUser.userId_eq.symm)
    rw [revocations, List.countP_singleton]
    simp [LogEntry.revokes, hne]

end Steps

/-- The state stays coherent, versions follow the log, and every token in it is minted for the
record that its user has. -/
structure Served (u : UnicodeTables) (jwt : Jwt Token) (config : JWTConfig)
    (log : List (LogEntry Token)) (s s' : UserIndexes) : Prop where
  coherent : s'.Coherent u
  advances : Advances log s s'
  minted : ∀ t, .issued t ∈ log → (∃ r ∈ s'.byId.values, Minted jwt config t r r.tokenVersion) ∧
    ∀ userId, revocations userId log = 0

section Requests

variable {σ : Type} {port : UserRepositoryPort σ} {indexes : σ → UserIndexes} {s s' : σ}

/-- New tokens for a stored record are minted for it. -/
theorem served_tokenResponse (hs : (indexes s).Coherent u) {r : UserRecord}
    (hr : r ∈ (indexes s).byId.values) {mint : Mint} {response : TokenResponse Token}
    (h : tokenResponse jwt config mint r = .ok response) :
    Served u jwt config ((AuthReply.issued r mint response).entries config)
      (indexes s) (indexes s) := by
  have hload := hs.loadable r hr
  obtain ⟨role, hrole⟩ := hload.role_valid
  have hread : Role.ofValue? r.role = some role := by rw [hrole, Role.ofValue?_value]
  unfold tokenResponse at h
  rw [hread] at h
  dsimp only at h
  rw [Except.ok.injEq] at h
  have hnone : ∀ userId,
      revocations userId ((AuthReply.issued r mint response).entries config) = 0 :=
    fun userId ↦ rfl
  refine ⟨hs, .refl hnone _, fun t ht ↦ ⟨⟨r, hr, ?_⟩, hnone⟩⟩
  have htoken : ∀ tokenType issuedAt jti, Minted jwt config {
      token := createToken jwt config issuedAt jti
        ⟨r.userId, r.username, r.role, r.tokenVersion⟩ tokenType
      type := tokenType
      userId := r.userId
      expiresAt := getExpirationTime config tokenType issuedAt } r r.tokenVersion :=
    fun tokenType issuedAt jti ↦ ⟨rfl, hload.tokenVersion_pos, issuedAt, jti, rfl, rfl⟩
  rw [← h, ← hrole] at ht
  simp only [AuthReply.entries, List.mem_cons, LogEntry.issued.injEq, List.not_mem_nil,
    or_false] at ht
  rcases ht with rfl | rfl
  · exact htoken .access mint.accessAt mint.accessJti
  · exact htoken .refresh mint.refreshAt mint.refreshJti

/-- A renewed record revokes the tokens of its user. -/
theorem served_renews (hs : (indexes s).Coherent u) {r r' : UserRecord}
    (h : UserIndexes.Renews u (indexes s) r r')
    (hstate : indexes s' = (indexes s).store (r'.key u) r') :
    Served u jwt config [(LogEntry.revoked r.userId : LogEntry Token)] (indexes s)
      (indexes s') := by
  rw [hstate]
  exact ⟨h.coherent hs, h.advances hs, fun t ht ↦ by simp at ht⟩

/-- A created user revokes nothing. -/
theorem served_registerUser (hport : port.Implements u indexes) (hs : (indexes s).Coherent u)
    {salt : Salt} {username : String} {role : Role} {name email phoneNumber password : String}
    {r : UserRecord} (h : AuthService.registerUser u kdf port s salt username role name email
      phoneNumber password = .ok (r, s')) :
    Served u jwt config ([] : List (LogEntry Token)) (indexes s) (indexes s') := by
  simp only [AuthService.registerUser, require_bind_eq_ok_iff,
    except_bind_eq_ok_iff (x := ContactInfo.new u _ _ _)] at h
  obtain ⟨-, -, contact, -, h⟩ := h
  cases hhash : hashPassword u kdf salt password with
  | error error =>
    rw [hhash] at h
    cases h
  | ok hash =>
    rw [hhash] at h
    dsimp only at h
    split at h
    · cases h
    · next result hcreate =>
      rw [Except.ok.injEq] at h
      subst h
      have hcreated := hport.create_eq s {
        username := normalizeUsername u username
        role := .text role.value
        name := contact.name
        email := contact.email
        phoneNumber := contact.phoneNumber
        passwordHash := hash }
      rw [hcreate] at hcreated
      have hspec := UserIndexes.created_of_create hcreated.symm
      exact ⟨hspec.coherent hs ⟨salt, password, hhash⟩, hspec.advances hs,
        fun t ht ↦ by cases ht⟩

/-- Setting a password renews the record that the username names. -/
theorem renews_of_setPassword (hport : port.Implements u indexes) (hs : (indexes s).Coherent u)
    {salt : Salt} {username newPassword : String} {r : UserRecord}
    (hr : port.getByUsername s username = some r)
    (h : AuthService.setPassword u kdf port s salt username newPassword = .ok s') :
    ∃ r', UserIndexes.Renews u (indexes s) r r' ∧
      indexes s' = (indexes s).store (r'.key u) r' := by
  simp only [AuthService.setPassword, require_bind_eq_ok_iff] at h
  obtain ⟨-, h⟩ := h
  cases hhash : hashPassword u kdf salt newPassword with
  | error error =>
    rw [hhash] at h
    cases h
  | ok hash =>
    rw [hhash] at h
    dsimp only at h
    split at h
    · cases h
    · next updated hupdate =>
      rw [Except.ok.injEq] at h
      subst h
      have hupdated := hport.updatePassword_eq s username hash
      rw [hupdate] at hupdated
      obtain ⟨old, hold, r', hrenews, -, hstate⟩ :=
        UserIndexes.renews_of_updatePassword hs ⟨salt, newPassword, hhash⟩ hupdated.symm
      rw [hport.getByUsername_eq s username hs, hold] at hr
      obtain rfl : old = r := Option.some.inj hr
      exact ⟨r', hrenews, hstate⟩

/-- A password change of the service revokes the tokens of the record it returns. -/
theorem served_changePassword (hport : port.Implements u indexes) (hs : (indexes s).Coherent u)
    {salt : Salt} {username oldPassword newPassword : String} {r : UserRecord}
    (h : AuthService.changePassword u kdf port s salt username oldPassword newPassword =
      .ok (r, s')) :
    Served u jwt config [(LogEntry.revoked r.userId : LogEntry Token)] (indexes s)
      (indexes s') := by
  unfold AuthService.changePassword at h
  cases hfind : port.getByUsername s username with
  | none =>
    rw [hfind] at h
    cases h
  | some record =>
    rw [hfind] at h
    dsimp only at h
    split at h
    · cases h
    · rw [require_bind_eq_ok_iff, require_bind_eq_ok_iff] at h
      obtain ⟨-, -, h⟩ := h
      simp only [except_bind_eq_ok_iff, Except.ok.injEq, Prod.mk.injEq] at h
      obtain ⟨updated, hset, rfl, rfl⟩ := h
      obtain ⟨r', hrenews, hstate⟩ := renews_of_setPassword hport hs hfind hset
      exact served_renews hs hrenews hstate

/-- A password reset of the service revokes the tokens of the record it returns. -/
theorem served_resetPassword (hport : port.Implements u indexes) (hs : (indexes s).Coherent u)
    {salt : Salt} {username newPassword : String} {r : UserRecord}
    (h : AuthService.resetPassword u kdf port s salt username newPassword = .ok (r, s')) :
    Served u jwt config [(LogEntry.revoked r.userId : LogEntry Token)] (indexes s)
      (indexes s') := by
  unfold AuthService.resetPassword at h
  cases hfind : port.getByUsername s username with
  | none =>
    rw [hfind] at h
    cases h
  | some record =>
    rw [hfind] at h
    simp only [except_bind_eq_ok_iff, Except.ok.injEq, Prod.mk.injEq] at h
    obtain ⟨updated, hset, rfl, rfl⟩ := h
    obtain ⟨r', hrenews, hstate⟩ := renews_of_setPassword hport hs hfind hset
    exact served_renews hs hrenews hstate

/-- A logout revokes the tokens of the acting user. -/
theorem served_logout (hport : port.Implements u indexes) (hs : (indexes s).Coherent u)
    {r : UserRecord} (hr : r ∈ (indexes s).byId.values) {currentUser : CurrentUserPrincipal}
    (hid : currentUser.userId = r.userId) (h : logoutUseCase u port s currentUser = .ok s') :
    Served u jwt config [(LogEntry.revoked currentUser.userId : LogEntry Token)] (indexes s)
      (indexes s') := by
  simp only [logoutUseCase, require_bind_eq_ok_iff, Except.ok.injEq] at h
  obtain ⟨-, rfl⟩ := h
  have hfind : (indexes s).getById currentUser.userId = some r :=
    hs.getById_eq_some_iff.mpr ⟨hr, hid.symm⟩
  have hincrement := hport.incrementTokenVersionById_eq s currentUser.userId
  rw [UserIndexes.incrementTokenVersionById, hfind] at hincrement
  have hstate := congrArg Prod.snd hincrement
  obtain ⟨hrenews, -, hstored⟩ := UserIndexes.renews_of_incrementTokenVersion hs hr rfl
  rw [Prod.map_snd, hid] at hstate
  rw [hid]
  exact served_renews hs hrenews (hstate.trans hstored)

/-- Verified credentials belong to a stored user. -/
theorem mem_of_authenticate (hport : port.Implements u indexes) (hs : (indexes s).Coherent u)
    {username password : String} {currentUser : CurrentUserPrincipal} {r : UserRecord}
    (h : AuthService.authenticate u kdf port s username password = .ok (currentUser, r)) :
    r ∈ (indexes s).byId.values := by
  unfold AuthService.authenticate at h
  cases hfind : port.getByUsername s username with
  | none =>
    rw [hfind] at h
    cases h
  | some record =>
    rw [hfind] at h
    dsimp only at h
    split at h
    · cases h
    · rw [require_bind_eq_ok_iff] at h
      simp only [except_bind_eq_ok_iff, Except.ok.injEq, Prod.mk.injEq] at h
      obtain ⟨-, principal, -, -, rfl⟩ := h
      rw [hport.getByUsername_eq s username hs] at hfind
      exact (hs.byUsername_eq_some_iff.mp hfind).1

/-- Every successful request is described by `Served`. -/
theorem handle_spec (hport : port.Implements u indexes) (hs : (indexes s).Coherent u) {now : Nat}
    {request : AuthRequest Token} {reply : AuthReply Token}
    (h : handle u kdf jwt config port s now request = .ok (reply, s')) :
    Served u jwt config (reply.entries config) (indexes s) (indexes s') := by
  cases request with
  | register bearer body salt =>
    simp only [handle, except_bind_eq_ok_iff, Except.ok.injEq, Prod.mk.injEq] at h
    obtain ⟨p, -, ⟨record, updated⟩, hregister, rfl, rfl⟩ := h
    simp only [registerUserUseCase, require_bind_eq_ok_iff] at hregister
    exact served_registerUser hport hs hregister.2
  | login username password mint =>
    simp only [handle] at h
    split at h
    · cases h
    · next principal record hauthenticate =>
      simp only [except_bind_eq_ok_iff, Except.ok.injEq, Prod.mk.injEq] at h
      obtain ⟨response, hresponse, rfl, rfl⟩ := h
      exact served_tokenResponse hs (mem_of_authenticate hport hs hauthenticate) hresponse
  | changePassword bearer currentPassword newPassword salt =>
    simp only [handle, except_bind_eq_ok_iff] at h
    obtain ⟨p, -, h⟩ := h
    split at h
    · cases h
    · next record updated hchange =>
      rw [Except.ok.injEq, Prod.mk.injEq] at h
      obtain ⟨rfl, rfl⟩ := h
      simp only [changePasswordUseCase, require_bind_eq_ok_iff] at hchange
      exact served_changePassword hport hs hchange.2
  | resetPassword bearer username newPassword salt =>
    simp only [handle, except_bind_eq_ok_iff, Except.ok.injEq, Prod.mk.injEq] at h
    obtain ⟨p, -, ⟨record, updated⟩, hreset, rfl, rfl⟩ := h
    simp only [resetPasswordUseCase, require_bind_eq_ok_iff] at hreset
    exact served_resetPassword hport hs hreset.2.2
  | refresh refreshToken mint =>
    simp only [handle, except_bind_eq_ok_iff] at h
    obtain ⟨p, hp, h⟩ := h
    split at h
    · cases h
    · next response hresponse =>
      rw [Except.ok.injEq, Prod.mk.injEq] at h
      obtain ⟨rfl, rfl⟩ := h
      exact served_tokenResponse hs (principalFromToken_spec hport hs hp).1 hresponse
  | logout bearer =>
    simp only [handle, except_bind_eq_ok_iff, Except.ok.injEq, Prod.mk.injEq] at h
    obtain ⟨p, hp, updated, hlogout, rfl, rfl⟩ := h
    obtain ⟨hmem, hid, -⟩ := principalFromToken_spec hport hs hp
    exact served_logout hport hs hmem hid hlogout

/-! ### Runs of requests -/

variable (kdf jwt config) in
/-- Every run keeps the state coherent and moves versions as its log says. -/
theorem serve_spec (hport : port.Implements u indexes)
    (requests : List (Nat × AuthRequest Token)) (hs : (indexes s).Coherent u) :
    (indexes (serve u kdf jwt config port s requests).2).Coherent u ∧
      Advances (serve u kdf jwt config port s requests).1 (indexes s)
        (indexes (serve u kdf jwt config port s requests).2) := by
  induction requests generalizing s with
  | nil => exact ⟨hs, .refl (fun userId ↦ rfl) _⟩
  | cons timed requests ih =>
    obtain ⟨now, request⟩ := timed
    rw [serve]
    cases hhandle : handle u kdf jwt config port s now request with
    | error error => exact ih hs
    | ok result =>
      obtain ⟨reply, s'⟩ := result
      have hserved := handle_spec hport hs hhandle
      obtain ⟨hcoherent, hadvances⟩ := ih hserved.coherent
      exact ⟨hcoherent, hserved.advances.trans hadvances⟩

/-- A token that a run issued is minted for a record of the final state, whose version is past
the token's by the number of later revocations of the user. -/
theorem serve_minted (hport : port.Implements u indexes)
    {requests : List (Nat × AuthRequest Token)} (hs : (indexes s).Coherent u)
    {earlier later : List (LogEntry Token)} {t : IssuedToken Token}
    (hlog : (serve u kdf jwt config port s requests).1 = earlier ++ .issued t :: later) :
    ∃ r ∈ (indexes (serve u kdf jwt config port s requests).2).byId.values,
      Minted jwt config t r (r.tokenVersion - revocations t.userId later) := by
  induction requests generalizing s earlier with
  | nil => simp [serve] at hlog
  | cons timed requests ih =>
    obtain ⟨now, request⟩ := timed
    rw [serve] at hlog ⊢
    cases hhandle : handle u kdf jwt config port s now request with
    | error error =>
      rw [hhandle] at hlog
      exact ih hs hlog
    | ok result =>
      obtain ⟨reply, s'⟩ := result
      rw [hhandle] at hlog
      dsimp only at hlog ⊢
      have hserved := handle_spec hport hs hhandle
      -- the token comes from this request or from a later one
      rcases List.append_eq_append_iff.mp hlog with ⟨before, -, hrest⟩ | ⟨after, hreply, hrest⟩
      · exact ih hserved.coherent hrest
      · cases after with
        | nil =>
          have hfirst : (serve u kdf jwt config port s' requests).1 =
              [] ++ .issued t :: later := hrest.symm
          exact ih hserved.coherent hfirst
        | cons entry after =>
          rw [List.cons_append] at hrest
          obtain ⟨rfl, rfl⟩ := List.cons_eq_cons.mp hrest
          have hissued : .issued t ∈ reply.entries config := by
            rw [hreply]
            simp
          obtain ⟨⟨r, hr, hmint⟩, hnone⟩ := hserved.minted t hissued
          obtain ⟨r', hr', hsame, hversion⟩ :=
            (serve_spec kdf jwt config hport requests hserved.coherent).2 r hr
          have hafter : revocations t.userId after = 0 := by
            have hzero := hnone t.userId
            rw [hreply, revocations_append] at hzero
            have htail : revocations t.userId (.issued t :: after) =
                revocations t.userId after := List.countP_cons_of_neg (by simp [LogEntry.revokes])
            omega
          refine ⟨r', hr', ?_⟩
          rw [revocations_append, hafter, hversion, hmint.userId_eq]
          have hcast : r.tokenVersion + (revocations r.userId
              (serve u kdf jwt config port s' requests).1 : Int) -
              ((0 + revocations r.userId (serve u kdf jwt config port s' requests).1 : Nat) : Int) =
                r.tokenVersion := by
            push_cast
            omega
          rw [hcast]
          exact hmint.sameUser hsame

end Requests

/-- In every run of requests against either user store, a token is accepted later exactly as
the type it was issued as, until it expires, and as long as no password change, password reset
or logout of its user followed. The accepted principal is that user, with the stored role. -/
theorem UserStoreKind.token_accepted_iff (u : UnicodeTables) (kdf : Kdf) (jwt : Jwt Token)
    (config : JWTConfig) (kind : UserStoreKind) (s : kind.State)
    (hs : (kind.indexes s).Coherent u) (requests : List (Nat × AuthRequest Token))
    (earlier later : List (LogEntry Token)) (t : IssuedToken Token)
    (hlog : (serve u kdf jwt config (kind.port u) s requests).1 =
      earlier ++ .issued t :: later) (now : Nat) (expectedType : TokenType) :
    let s' := (serve u kdf jwt config (kind.port u) s requests).2
    ((∃ p, principalFromToken u jwt config (kind.port u) s' now t.token expectedType = .ok p) ↔
      expectedType = t.type ∧ (now : Int) ≤ t.expiresAt ∧ .revoked t.userId ∉ later) ∧
    ∀ p, principalFromToken u jwt config (kind.port u) s' now t.token expectedType = .ok p →
      (kind.indexes s').getById t.userId = some p.record ∧ p.currentUser.userId = t.userId ∧
        p.currentUser.username = p.record.username ∧
        p.currentUser.role.value = p.record.role := by
  have hport := kind.implements (u := u)
  have hcoherent := (serve_spec kdf jwt config hport requests hs).1
  obtain ⟨r, hr, hmint⟩ := serve_minted hport hs hlog
  constructor
  · rw [principalFromToken_minted hport hcoherent hr hmint now expectedType,
      ← revocations_eq_zero_iff]
    have hversion : r.tokenVersion = r.tokenVersion - (revocations t.userId later : Int) ↔
        revocations t.userId later = 0 := by omega
    rw [hversion]
  · intro p hp
    have hrecord := record_of_minted hport hcoherent hr hmint hp
    obtain ⟨-, hid, husername, hrole⟩ := principalFromToken_spec hport hcoherent hp
    rw [hrecord] at hid husername hrole ⊢
    refine ⟨?_, hid.trans hmint.userId_eq.symm, husername, hrole⟩
    exact hcoherent.getById_eq_some_iff.mpr ⟨hr, hmint.userId_eq.symm⟩

namespace Scenario

/-- Tokens that show their claims, secret and algorithm. -/
def plainJwt : Jwt (Claims × String × String) where
  encode claims secret algorithm := (claims, secret, algorithm)
  decode token secret algorithm now :=
    if token.2 = (secret, algorithm) then
      match Json.get? token.1 "exp" with
      | some (.int exp) => if (now : Int) ≤ exp then some token.1 else none
      | _ => none
    else none
  decode_encode payload secret algorithm now := by
    rw [if_pos rfl]
    rfl
  encode_of_decode {token secret algorithm now claims} h := by
    split at h
    · next heq =>
      split at h
      · split at h
        · obtain rfl : token.1 = claims := Option.some.inj h
          exact Prod.ext rfl heq
        · cases h
      · cases h
    · cases h
  claims_eq_of_encode_eq h := congrArg Prod.fst h

/-- Settings with tokens of fifteen minutes and seven days. -/
def jwtConfig : JWTConfig where
  accessSecret := "access-secret-of-thirty-two-chars"
  refreshSecret := "refresh-secret-of-thirty-two-chars"
  algorithm := "HS256"
  accessTokenExpireMinutes := 15
  refreshTokenExpireDays := 7
  secrets_ne := by decide

/-- A repository with one manager. -/
def oneManager : InMemoryUserRepository :=
  (InMemoryUserRepository.run .asciiOnly .empty [.create newUser]).2

theorem coherent_oneManager : UserIndexes.Coherent .asciiOnly oneManager := by
  have hcalls : ∀ c ∈ [UserCall.create newUser], c.Hashed .asciiOnly zeroKdf := by
    intro c hc
    obtain rfl := List.mem_singleton.mp hc
    exact produced_derive rfl
  exact (UserIndexes.run_spec hcalls .empty).1

/-- The access token of a login at second 100. -/
def accessToken : IssuedToken (Claims × String × String) where
  token := createToken plainJwt jwtConfig 100 "a" ⟨1, "Ada", "MANAGER", 1⟩ .access
  type := .access
  userId := 1
  expiresAt := 1000

/-- The refresh token of the same login. -/
def refreshToken : IssuedToken (Claims × String × String) where
  token := createToken plainJwt jwtConfig 100 "b" ⟨1, "Ada", "MANAGER", 1⟩ .refresh
  type := .refresh
  userId := 1
  expiresAt := 604900

/-- A login and a logout. -/
def loginLogout : List (Nat × AuthRequest (Claims × String × String)) := [
  (100, .login "ADA" "Passw0rd!" ⟨100, "a", 100, "b"⟩),
  (200, .logout accessToken.token)]

/-- After the logout the access token is not accepted. -/
theorem accessToken_revoked :
    let s' := (serve .asciiOnly zeroKdf plainJwt jwtConfig (UserStoreKind.memory.port .asciiOnly)
      oneManager loginLogout).2
    ((∃ p, principalFromToken .asciiOnly plainJwt jwtConfig (UserStoreKind.memory.port .asciiOnly)
        s' 300 accessToken.token .access = .ok p) ↔
      TokenType.access = accessToken.type ∧ ((300 : Nat) : Int) ≤ accessToken.expiresAt ∧
        .revoked accessToken.userId ∉ ([.issued refreshToken, .revoked 1] :
          List (LogEntry (Claims × String × String)))) ∧
    ∀ p, principalFromToken .asciiOnly plainJwt jwtConfig (UserStoreKind.memory.port .asciiOnly)
        s' 300 accessToken.token .access = .ok p →
      (UserStoreKind.memory.indexes s').getById accessToken.userId = some p.record ∧
        p.currentUser.userId = accessToken.userId ∧
        p.currentUser.username = p.record.username ∧
        p.currentUser.role.value = p.record.role :=
  UserStoreKind.token_accepted_iff .asciiOnly zeroKdf plainJwt jwtConfig .memory oneManager
    coherent_oneManager loginLogout [] [.issued refreshToken, .revoked 1] accessToken rfl 300 .access

end Scenario
end FleetFlow
