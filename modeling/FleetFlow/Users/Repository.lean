import FleetFlow.Base.Dict
import FleetFlow.Base.Json
import FleetFlow.Users.Identity

/-!
# User repositories

Follows `adapters/driven/persistence/memory/user_repository.py` and
`adapters/driven/persistence/json/user_store.py`. Both keep the same two indexes and the
same counter; the JSON store also writes them to its file after every change. Writing the
file succeeds and is atomic, and the file holds the JSON value that was dumped.
-/

namespace FleetFlow

/-- A persisted user; `application/models/user_record.py:6–17`. -/
structure UserRecord where
  userId : Int
  username : String
  role : String
  name : String
  email : String
  phoneNumber : String
  password : String
  tokenVersion : Int
deriving DecidableEq, Repr

/-- The indexes and the counter that a repository keeps. -/
structure UserIndexes where
  byUsername : Dict String UserRecord
  byId : Dict Int UserRecord
  nextId : Int

/-- The arguments of `create`. -/
structure NewUser where
  username : String
  role : RoleInput
  name : String
  email : String
  phoneNumber : String
  passwordHash : PasswordHash

namespace UserIndexes

variable (u : UnicodeTables)

/-- Indexes without users. -/
def empty : UserIndexes := ⟨.empty, .empty, 1⟩

/-- Write a record into both indexes. -/
def store (s : UserIndexes) (key : String) (record : UserRecord) : UserIndexes :=
  { s with byUsername := s.byUsername.set key record, byId := s.byId.set record.userId record }

/-- Create a user; `memory/user_repository.py:44–101` and `json/user_store.py:224–283`. -/
def create (s : UserIndexes) (new : NewUser) : Except PyError (UserRecord × UserIndexes) := do
  let rawUsername := PyStr.strip u new.username
  let norm := normalizeUsername u new.username
  require (norm ≠ "") ⟨.valueError, "Username is required."⟩
  require (s.byUsername.contains norm = false) ⟨.duplicateKey, "Username already exists."⟩
  let roleValue ← normalizeRole u new.role
  let contact ← ContactInfo.new u new.name new.email new.phoneNumber
  let record : UserRecord := {
    userId := s.nextId
    username := rawUsername
    role := roleValue
    name := contact.name
    email := contact.email
    phoneNumber := contact.phoneNumber
    password := new.passwordHash.serialize
    tokenVersion := 1 }
  .ok (record, { s.store norm record with nextId := s.nextId + 1 })

/-- Replace a password and advance the token version;
`memory/user_repository.py:103–128` and `json/user_store.py:285–311`. -/
def updatePassword (s : UserIndexes) (username : String) (newHash : PasswordHash) :
    Except PyError UserIndexes :=
  let norm := normalizeUsername u username
  match s.byUsername.get? norm with
  | none => .error ⟨.valueError, "User not found."⟩
  | some record =>
    .ok (s.store norm { record with
      password := newHash.serialize, tokenVersion := record.tokenVersion + 1 })

/-- All users; `memory/user_repository.py:137–139`. -/
def listUsers (s : UserIndexes) : List UserRecord := s.byId.values

/-- A user by id; `memory/user_repository.py:141–143`. -/
def getById (s : UserIndexes) (userId : Int) : Option UserRecord := s.byId.get? userId

/-- Advance a token version; `memory/user_repository.py:161–168`. -/
def incrementTokenVersion (s : UserIndexes) (user : UserRecord) : UserRecord × UserIndexes :=
  let updated := { user with tokenVersion := user.tokenVersion + 1 }
  (updated, s.store (normalizeUsername u user.username) updated)

/-- Advance the token version of a user that was looked up, if there is one. -/
def incrementFound (s : UserIndexes) : Option UserRecord → Option UserRecord × UserIndexes
  | none => (none, s)
  | some user => ((s.incrementTokenVersion u user).map some id)

/-- Advance a token version by id; `memory/user_repository.py:145–151`. -/
def incrementTokenVersionById (s : UserIndexes) (userId : Int) :
    Option UserRecord × UserIndexes :=
  s.incrementFound u (s.getById userId)

end UserIndexes

/-! ### The two repositories -/

/-- `InMemoryUserRepository`: the indexes and nothing else. -/
abbrev InMemoryUserRepository : Type := UserIndexes

namespace InMemoryUserRepository

variable (u : UnicodeTables) (s : InMemoryUserRepository)

/-- A user by name; `memory/user_repository.py:30–42`. -/
def getByUsername (username : String) : Option UserRecord :=
  let key := normalizeUsername u username
  if key = "" then none else s.byUsername.get? key

/-- Advance a token version by name; `memory/user_repository.py:153–159`. -/
def incrementTokenVersionByUsername (username : String) : Option UserRecord × UserIndexes :=
  s.incrementFound u (getByUsername u s username)

end InMemoryUserRepository

/-- What a file holds: JSON, or text that `json.load` rejects. -/
inductive FileContent where
  | json (value : Json)
  | malformed

/-- `JSONUserStore`: the indexes and the file. -/
structure JSONUserStore where
  path : String
  indexes : UserIndexes
  file : Option FileContent

/-- `asdict` of a record; `application/models/user_record.py:6–17`. -/
def UserRecord.asdict (record : UserRecord) : List (String × Json) := [
  ("user_id", .int record.userId),
  ("username", .str record.username),
  ("role", .str record.role),
  ("name", .str record.name),
  ("email", .str record.email),
  ("phone_number", .str record.phoneNumber),
  ("password", .str record.password),
  ("token_version", .int record.tokenVersion)]

namespace JSONUserStore

variable (u : UnicodeTables)

/-- The saved value; `json/user_store.py:198–211`. -/
def dump (s : UserIndexes) : Json := .obj [
  ("_next_id", .int s.nextId),
  ("users", .arr ((s.byUsername.values.mergeSort fun a b ↦ a.userId ≤ b.userId).map
    fun record ↦ .obj record.asdict))]

/-- A positive counter, with the store's own messages; `json/user_store.py:99–159`. -/
def parsePositive (value : Json) (label : String) : Except PyError Int :=
  match value with
  | .int n => do
    require (1 ≤ n) ⟨.valueError, label ++ " must be positive"⟩
    .ok n
  | other => .error ⟨.typeError, label ++ " must be int, got " ++ other.typeName⟩

/-- A string field; `json/user_store.py:161–168`. -/
def parseStringField (raw : List (String × Json)) (field : String) : Except PyError String := do
  let value ← Json.item raw field
  match value with
  | .str text => .ok text
  | other =>
    .error ⟨.typeError, PyStr.repr u field ++ " must be str, got " ++ other.typeName⟩

/-- One user; `json/user_store.py:110–148`. -/
def parseRawUser : Json → Except PyError UserRecord
  | .obj raw => do
    let userId ← parsePositive (← Json.item raw "user_id") "user_id"
    let username ← parseStringField u raw "username"
    let rawUsername := PyStr.strip u username
    require (normalizeUsername u rawUsername ≠ "") ⟨.valueError, "Username is required."⟩
    let role ← parseStringField u raw "role"
    let roleValue ← normalizeRole u (.text role)
    let name ← parseStringField u raw "name"
    let email ← parseStringField u raw "email"
    let phoneNumber ← parseStringField u raw "phone_number"
    let contact ← ContactInfo.new u name email phoneNumber
    let password ← parseStringField u raw "password"
    let passwordHash ← PasswordHash.parse u password
    let tokenVersion ←
      parsePositive ((Json.get? raw "token_version").getD (.int 1)) "'token_version'"
    .ok {
      userId
      username := rawUsername
      role := roleValue
      name := contact.name
      email := contact.email
      phoneNumber := contact.phoneNumber
      password := passwordHash.serialize
      tokenVersion }
  | _ => .error ⟨.typeError, "user record must be an object"⟩

/-- What the loop over the saved users has collected. -/
structure Loading where
  usersByUsername : Dict String UserRecord
  seenUserIds : List Int
  maxUserId : Int

/-- The loop's variables before the first user; `json/user_store.py:81–83`. -/
def Loading.initial : Loading := ⟨.empty, [], 0⟩

/-- Collect one user; `json/user_store.py:92–94`. -/
def Loading.add (loading : Loading) (user : UserRecord) : Loading where
  usersByUsername := loading.usersByUsername.set (normalizeUsername u user.username) user
  seenUserIds := user.userId :: loading.seenUserIds
  maxUserId := max loading.maxUserId user.userId

/-- One turn of the loop; `json/user_store.py:85–94`. -/
def loadUser (loading : Loading) (rawUser : Json) : Except PyError Loading := do
  let user ← parseRawUser u rawUser
  require (loading.usersByUsername.contains (normalizeUsername u user.username) = false)
    ⟨.valueError, "Duplicate username in store: " ++ PyStr.repr u user.username⟩
  require (user.userId ∉ loading.seenUserIds)
    ⟨.valueError, s!"Duplicate user_id in store: {user.userId}"⟩
  .ok (loading.add u user)

/-- The counter and the users of a saved value; `json/user_store.py:66–97`. -/
def parseLoadedPayload : Json → Except PyError (Int × Dict String UserRecord)
  | .obj payload => do
    let nextId ← parsePositive ((Json.get? payload "_next_id").getD (.int 1)) "_next_id"
    match Json.get? payload "users" with
    | none => .error ⟨.typeError, "'users' is required"⟩
    | some (.arr users) => do
      let loading ← users.foldlM (loadUser u) .initial
      .ok (max nextId (loading.maxUserId + 1), loading.usersByUsername)
    | some _ => .error ⟨.typeError, "'users' must be a list"⟩
  | _ => .error ⟨.typeError, "payload must be an object"⟩

/-- The error of a file that cannot be read; `json/user_store.py:53–57`. -/
def malformed (path : String) : PyError :=
  ⟨.valueError, "Malformed user store JSON: " ++ path⟩

/-- Errors that loading reports as a malformed file; `json/user_store.py:56`. -/
def isTranslated (error : PyError) : Bool :=
  error.kind ∈ [.domainValidation, .keyError, .typeError, .valueError]

/-- Open a store on a file; `json/user_store.py:26–61`. -/
def new (path : String) (file : Option FileContent) : Except PyError JSONUserStore :=
  match file with
  | none => .ok ⟨path, .empty, none⟩
  | some .malformed => .error (malformed path)
  | some (.json data) =>
    match parseLoadedPayload u data with
    | .error error => .error (if isTranslated error then malformed path else error)
    | .ok (nextId, usersByUsername) => .ok {
        path
        indexes := {
          byUsername := usersByUsername
          byId := usersByUsername.values.foldl (fun d user ↦ d.set user.userId user) .empty
          nextId }
        file }

/-- Write the indexes to the file; `json/user_store.py:198–211`. -/
def save (s : JSONUserStore) : JSONUserStore := { s with file := some (.json (dump s.indexes)) }

/-- Replace the indexes and write them to the file. -/
def commit (s : JSONUserStore) (indexes : UserIndexes) : JSONUserStore := { s with indexes }.save

variable (s : JSONUserStore)

/-- A user by name; `json/user_store.py:213–222`. -/
def getByUsername (username : String) : Option UserRecord :=
  s.indexes.byUsername.get? (normalizeUsername u username)

/-- Create a user; `json/user_store.py:224–283`. -/
def create (new : NewUser) : Except PyError (UserRecord × JSONUserStore) := do
  let (record, indexes) ← s.indexes.create u new
  .ok (record, s.commit indexes)

/-- Replace a password; `json/user_store.py:285–311`. -/
def updatePassword (username : String) (newHash : PasswordHash) :
    Except PyError JSONUserStore := do
  let indexes ← s.indexes.updatePassword u username newHash
  .ok (s.commit indexes)

/-- Advance the token version of a user that was looked up; `json/user_store.py:348–355`. -/
def incrementFound (found : Option UserRecord) : Option UserRecord × JSONUserStore :=
  match found with
  | none => (none, s)
  | some user =>
    let (updated, indexes) := s.indexes.incrementTokenVersion u user
    (some updated, s.commit indexes)

/-- Advance a token version by id; `json/user_store.py:332–338`. -/
def incrementTokenVersionById (userId : Int) : Option UserRecord × JSONUserStore :=
  s.incrementFound u (s.indexes.getById userId)

/-- Advance a token version by name; `json/user_store.py:340–346`. -/
def incrementTokenVersionByUsername (username : String) : Option UserRecord × JSONUserStore :=
  s.incrementFound u (s.getByUsername u username)

end JSONUserStore
end FleetFlow
