import FleetFlow.Base.Base64
import FleetFlow.Domain.Customer

/-!
# Roles, usernames and password hashes

Follows `domain/enums/auth.py`, `application/services/auth_normalization.py` and
`adapters/driven/security/password_hasher.py`. Key derivation and the random salt are
parameters; a derived key has the 32 bytes of SHA-256.
-/

namespace FleetFlow

/-- Runtime roles; `domain/enums/auth.py:6–10`. -/
inductive Role where
  | employee
  | manager
deriving DecidableEq, Repr

namespace Role

/-- The persisted value of a role. -/
def value : Role → String
  | employee => "EMPLOYEE"
  | manager => "MANAGER"

/-- The role of a persisted text, `Role(value)`. -/
def ofValue? (text : String) : Option Role :=
  if text = "EMPLOYEE" then some employee
  else if text = "MANAGER" then some manager
  else none

/-- Whether a role may administer users, `Permission.ADMIN_USER in ROLE_PERMISSIONS[role]`;
`domain/enums/auth.py:48–81`. -/
def hasAdminUser : Role → Bool
  | employee => false
  | manager => true

/-- A written role is read back. -/
@[simp] theorem ofValue?_value (role : Role) : ofValue? role.value = some role := by
  cases role <;> rfl

/-- Only the value of a role is read as that role. -/
theorem value_of_ofValue? {text : String} {role : Role} (h : ofValue? text = some role) :
    role.value = text := by
  unfold ofValue? at h
  split at h
  · next ht =>
    rw [← Option.some.inj h, ht]
    rfl
  · split at h
    · next ht =>
      rw [← Option.some.inj h, ht]
      rfl
    · cases h

end Role

section Normalization

variable (u : UnicodeTables)

/-- The lookup key of a username; `application/services/auth_normalization.py:6–15`. -/
def normalizeUsername (username : String) : String := PyStr.lower u (PyStr.strip u username)

/-- A role argument: an enum member or text. -/
inductive RoleInput where
  | role (role : Role)
  | text (text : String)

/-- The persisted value of a role argument; `application/services/auth_normalization.py:18–38`. -/
def normalizeRole : RoleInput → Except PyError String
  | .role role => .ok role.value
  | .text text =>
    match Role.ofValue? (PyStr.upper u (PyStr.strip u text)) with
    | some role => .ok role.value
    | none => .error ⟨.valueError, "Invalid role: " ++ PyStr.repr u text⟩

variable {u}

/-- Stripping a username does not change its key. -/
@[simp] theorem normalizeUsername_strip (username : String) :
    normalizeUsername u (PyStr.strip u username) = normalizeUsername u username := by
  simp only [normalizeUsername, PyStr.strip_strip]

private theorem role_plain (role : Role) : ∀ c ∈ role.value.toList,
    isAsciiChar c = true ∧ isAsciiSpace c = false ∧ c.toUpper = c := by
  have hall : (role.value.toList.all fun c ↦
      isAsciiChar c && !isAsciiSpace c && decide (c.toUpper = c)) = true := by
    cases role <;> rfl
  intro c hc
  have hplain := List.all_eq_true.mp hall c hc
  simpa [and_assoc] using hplain

/-- A persisted role value is stripped already. -/
theorem Role.strip_value (role : Role) : PyStr.strip u role.value = role.value :=
  PyStr.strip_eq_self fun c hc ↦ by
    obtain ⟨hascii, hspace, -⟩ := role_plain role c hc
    rw [PyStr.isSpace, hascii, if_pos rfl, hspace]

/-- A persisted role value is normalized already. -/
theorem normalizeRole_value (role : Role) :
    normalizeRole u (.text role.value) = .ok role.value := by
  have hupper : PyStr.upper u role.value = role.value :=
    PyStr.upper_eq_self fun c hc ↦ ⟨(role_plain role c hc).1, (role_plain role c hc).2.2⟩
  simp only [normalizeRole, Role.strip_value, hupper, Role.ofValue?_value]

/-- A normalized role is the value of a role. -/
theorem exists_role_of_normalizeRole {input : RoleInput} {text : String}
    (h : normalizeRole u input = .ok text) : ∃ role : Role, text = role.value := by
  cases input with
  | role role =>
    rw [normalizeRole, Except.ok.injEq] at h
    exact ⟨role, h.symm⟩
  | text given =>
    rw [normalizeRole] at h
    cases hrole : Role.ofValue? (PyStr.upper u (PyStr.strip u given)) with
    | none =>
      rw [hrole] at h
      cases h
    | some role =>
      rw [hrole, Except.ok.injEq] at h
      exact ⟨role, h.symm⟩

end Normalization

/-! ### Password hashes -/

/-- The parts of a serialized hash; `adapters/driven/security/password_hasher.py:17–24`. -/
structure PasswordHash where
  algo : String
  iterations : Int
  saltB64 : String
  hashB64 : String
deriving DecidableEq, Repr

/-- Key derivation by PBKDF2 with SHA-256, from a password, a salt and a round count. -/
abbrev Kdf : Type := String → List UInt8 → Int → {key : List UInt8 // key.length = 32}

/-- The random salt of a new hash. -/
abbrev Salt : Type := {salt : List UInt8 // salt.length = 16}

namespace PasswordHash

/-- The iterations of new hashes and the fewest accepted, `PBKDF2_ITERATIONS`. -/
def minIterations : Int := 200000

private def invalid : PyError := ⟨.valueError, "Invalid password hash."⟩

/-- The stored text; `adapters/driven/security/password_hasher.py:26–33`. -/
def serialize (hash : PasswordHash) : String :=
  String.ofList (['$'].intercalate [("pbkdf2_" ++ hash.algo).toList,
    (toString hash.iterations).toList, hash.saltB64.toList, hash.hashB64.toList])

/-- Read a stored text; `adapters/driven/security/password_hasher.py:35–88`. -/
def parse (u : UnicodeTables) (value : String) : Except PyError PasswordHash :=
  match PyStr.split '$' value with
  | [scheme, iterationsText, saltB64, hashB64] => do
    require (scheme = "pbkdf2_sha256") invalid
    match PyStr.int? u iterationsText with
    | none => .error invalid
    | some iterations => do
      require (minIterations ≤ iterations) invalid
      match Base64.decode saltB64.toList, Base64.decode hashB64.toList with
      | some salt, some hash => do
        require (salt.length = 16 ∧ hash ≠ []) invalid
        .ok { algo := "sha256", iterations, saltB64, hashB64 }
      | _, _ => .error invalid
  | _ => .error invalid

/-- Hash of a validated password; `adapters/driven/security/password_hasher.py:103–111`. -/
def derive (kdf : Kdf) (salt : Salt) (plain : String) : PasswordHash where
  algo := "sha256"
  iterations := minIterations
  saltB64 := String.ofList (Base64.encode salt)
  hashB64 := String.ofList (Base64.encode (kdf plain salt minIterations))

end PasswordHash

/-- A rule of the password policy and the text that reports it. -/
abbrev PasswordRule : Type := Bool × String

/-- The policy; `adapters/driven/security/password_hasher.py:130–142`. -/
def passwordRules (u : UnicodeTables) (password : String) : List PasswordRule :=
  let cs := password.toList
  [(8 ≤ cs.length, "at least 8 characters"),
    (cs.any Char.isUpper, "at least one uppercase letter"),
    (cs.any Char.isLower, "at least one lowercase letter"),
    (cs.any fun c ↦ (PyStr.decimal? u c).isSome, "at least one digit"),
    (cs.any "!@#$%^&*(),.?\x22:\x7b\x7d|<>".toList.contains, "at least one special character")]

/-- Check the policy; `adapters/driven/security/password_hasher.py:126–144`. -/
def validatePasswordStrength (u : UnicodeTables) (password : String) : Except PyError Unit :=
  let errors := ((passwordRules u password).filter fun rule ↦ !rule.1).map Prod.snd
  require (errors = []) ⟨.valueError, "Password must contain: " ++ ", ".intercalate errors⟩

/-- Hash a password; `adapters/driven/security/password_hasher.py:91–111`. -/
def hashPassword (u : UnicodeTables) (kdf : Kdf) (salt : Salt) (plain : String) :
    Except PyError PasswordHash := do
  validatePasswordStrength u plain
  .ok (.derive kdf salt plain)

/-- Verify a password; `adapters/driven/security/password_hasher.py:114–123`. The hash was
parsed before, so strict decoding accepts its salt. -/
def verifyPassword (kdf : Kdf) (plain : String) (stored : PasswordHash) : Bool :=
  let salt := (Base64.decode stored.saltB64.toList).getD []
  String.ofList (Base64.encode (kdf plain salt stored.iterations)) == stored.hashB64

namespace PasswordHash

variable {u : UnicodeTables} {kdf : Kdf} {salt : Salt} {plain : String}

private theorem derive_parts : ∀ part ∈ [("pbkdf2_" ++ (derive kdf salt plain).algo).toList,
    (toString (derive kdf salt plain).iterations).toList,
    (derive kdf salt plain).saltB64.toList, (derive kdf salt plain).hashB64.toList],
    '$' ∉ part := by
  intro part hpart
  simp only [List.mem_cons, List.not_mem_nil, or_false] at hpart
  rcases hpart with rfl | rfl | rfl | rfl
  · exact (by decide : '$' ∉ ("pbkdf2_" ++ "sha256").toList)
  · exact (by decide : '$' ∉ (toString minIterations).toList)
  · rw [derive, String.toList_ofList]
    exact Base64.notMem_encode _
  · rw [derive, String.toList_ofList]
    exact Base64.notMem_encode _

/-- A derived hash is read back from its stored text. -/
theorem parse_serialize_derive : parse u (derive kdf salt plain).serialize =
    .ok (derive kdf salt plain) := by
  have hsplit : PyStr.split '$' (derive kdf salt plain).serialize =
      ["pbkdf2_sha256", toString minIterations, (derive kdf salt plain).saltB64,
        (derive kdf salt plain).hashB64] := by
    rw [PyStr.split, serialize, String.toList_ofList,
      List.splitOn_intercalate _ derive_parts (by simp)]
    simp only [List.map_cons, List.map_nil, String.ofList_toList]
    rfl
  have hsalt : Base64.decode (derive kdf salt plain).saltB64.toList = some salt.val := by
    rw [derive, String.toList_ofList, Base64.decode_encode]
  have hkey : Base64.decode (derive kdf salt plain).hashB64.toList =
      some (kdf plain salt minIterations).val := by
    rw [derive, String.toList_ofList, Base64.decode_encode]
  have hne : (kdf plain salt minIterations).val ≠ [] := by
    intro hnil
    have hlength := (kdf plain salt minIterations).property
    rw [hnil] at hlength
    cases hlength
  rw [parse, hsplit]
  simp only [PyStr.int?_toString, hsalt, hkey]
  rw [require_bind_of_true trivial, require_bind_of_true le_rfl,
    require_bind_of_true ⟨salt.property, hne⟩]
  rfl

end PasswordHash

/-- What `hash_password` returns. -/
def PasswordHash.Produced (u : UnicodeTables) (kdf : Kdf) (hash : PasswordHash) : Prop :=
  ∃ salt plain, hashPassword u kdf salt plain = .ok hash

end FleetFlow
