import FleetFlow.Users.Restart
import FleetFlow.Users.Tokens

/-!
# Authentication requests

Follows `application/services/auth_service.py`, the use cases under
`application/use_cases/auth/`, `adapters/driving/http/dependencies/auth.py` and
`adapters/driving/http/routers/api/auth_router.py`, over any user repository. The events of
the use cases are represented by the user that they name.
-/

namespace FleetFlow

/-- What authentication asks of a user repository; `ports/output/user_repository.py`. -/
structure UserRepositoryPort (σ : Type) where
  getByUsername : σ → String → Option UserRecord
  getById : σ → Int → Option UserRecord
  create : σ → NewUser → Except PyError (UserRecord × σ)
  updatePassword : σ → String → PasswordHash → Except PyError σ
  incrementTokenVersionById : σ → Int → Option UserRecord × σ

/-- The acting user; `application/models/current_user_principal.py:6–20`. -/
structure CurrentUserPrincipal where
  userId : Int
  username : String
  name : String
  email : String
  phoneNumber : String
  role : Role
deriving DecidableEq, Repr

/-- A request's identity and its token; `http/dependencies/auth.py:23–30`. -/
structure AuthenticatedPrincipal where
  record : UserRecord
  currentUser : CurrentUserPrincipal
  token : TokenPayload

/-- An access and a refresh token; `http/schemas/auth.py:32–45`. -/
structure TokenResponse (Token : Type) where
  accessToken : Token
  refreshToken : Token

/-- The clock values and identifiers of a new pair of tokens. -/
structure Mint where
  accessAt : Nat
  accessJti : String
  refreshAt : Nat
  refreshJti : String

/-- The body of a registration; `http/schemas/auth.py:9–29`. -/
structure Registration where
  username : String
  role : Role
  name : String
  email : Option String
  phoneNumber : Option String
  password : String

/-- A request to the authentication endpoints, with the random values it draws. -/
inductive AuthRequest (Token : Type) where
  | register (bearer : Token) (body : Registration) (salt : Salt)
  | login (username password : String) (mint : Mint)
  | changePassword (bearer : Token) (currentPassword newPassword : String) (salt : Salt)
  | resetPassword (bearer : Token) (username newPassword : String) (salt : Salt)
  | refresh (refreshToken : Token) (mint : Mint)
  | logout (bearer : Token)

/-- What a successful request did: the tokens it returns, or the user its event names. -/
inductive AuthReply (Token : Type) where
  | registered (record : UserRecord)
  | issued (record : UserRecord) (mint : Mint) (response : TokenResponse Token)
  | passwordChanged (userId : Int)
  | passwordReset (userId : Int)
  | tokensRevoked (userId : Int)

section Requests

variable (u : UnicodeTables) (kdf : Kdf) {Token : Type} (jwt : Jwt Token) (config : JWTConfig)

/-- A principal from a record; `application/services/runtime_user_factory.py:11–44`. -/
def createRuntimeUser (record : UserRecord) : Except PyError CurrentUserPrincipal :=
  match ContactInfo.new u record.name record.email record.phoneNumber with
  | .error error =>
    .error (if error.kind = .domainValidation then ⟨.validation, error.message⟩ else error)
  | .ok contact =>
    match Role.ofValue? record.role with
    | none => .error ⟨.validation, "Invalid persisted role for user " ++
        PyStr.repr u record.username ++ ": " ++ PyStr.repr u record.role⟩
    | some role => .ok {
        userId := record.userId
        username := record.username
        name := contact.name
        email := contact.email
        phoneNumber := contact.phoneNumber
        role }

/-- New tokens for a record; `http/routers/api/auth_router.py:78–105`. -/
def tokenResponse (mint : Mint) (record : UserRecord) : Except PyError (TokenResponse Token) :=
  match Role.ofValue? record.role with
  | none => .error ⟨.validation, "Invalid persisted user role."⟩
  | some role =>
    let tokenInput : TokenInput := {
      userId := record.userId
      username := record.username
      role := role.value
      tokenVersion := record.tokenVersion }
    .ok {
      accessToken := createToken jwt config mint.accessAt mint.accessJti tokenInput .access
      refreshToken := createToken jwt config mint.refreshAt mint.refreshJti tokenInput .refresh }

variable {σ : Type} (port : UserRepositoryPort σ) (s : σ)

/-- The principal of a token; `http/dependencies/auth.py:56–101`. -/
def principalFromToken (now : Nat) (token : Token) (expectedType : TokenType) :
    Except PyError AuthenticatedPrincipal :=
  match decodeToken jwt config u now token expectedType with
  | none => .error ⟨.http 401, match expectedType with
    | .refresh => "Invalid or expired refresh token."
    | .access => "Invalid or expired token."⟩
  | some payload =>
    match PyStr.int? u payload.sub with
    | none => .error ⟨.http 401, "Invalid token subject."⟩
    | some userId =>
      match port.getById s userId with
      | none => .error ⟨.http 401, "User not found."⟩
      | some record => do
        require (record.username = payload.username) ⟨.http 401, "Token user mismatch."⟩
        require (record.tokenVersion = payload.tokenVersion) ⟨.http 401, "Token revoked."⟩
        match createRuntimeUser u record with
        | .error error =>
          .error (if error.kind = .validation then ⟨.http 401, "Invalid user role"⟩ else error)
        | .ok currentUser => .ok { record, currentUser, token := payload }

/-! ### The authentication service -/

namespace AuthService

/-- Register a user; `application/services/auth_service.py:56–107`. -/
def registerUser (salt : Salt) (username : String) (role : Role)
    (name email phoneNumber password : String) : Except PyError (UserRecord × σ) := do
  let cleanUsername := normalizeUsername u username
  require (cleanUsername ≠ "") ⟨.validation, "Username is required."⟩
  require (port.getByUsername s cleanUsername = none) ⟨.conflict, "Username already exists."⟩
  let contact ← ContactInfo.new u name email phoneNumber
  match hashPassword u kdf salt password with
  | .error error => .error ⟨.validation, error.message⟩
  | .ok passwordHash =>
    match port.create s {
      username := cleanUsername
      role := .text role.value
      name := contact.name
      email := contact.email
      phoneNumber := contact.phoneNumber
      passwordHash } with
    | .error error => .error (
        if error.kind = .duplicateKey then ⟨.conflict, "Username already exists."⟩
        else if error.kind = .valueError then ⟨.validation, error.message⟩
        else error)
    | .ok result => .ok result

/-- Set a new password; `application/services/auth_service.py:109–120`. -/
def setPassword (salt : Salt) (username newPassword : String) : Except PyError σ := do
  require (8 ≤ newPassword.length) ⟨.validation, "Password must be at least 8 characters."⟩
  match hashPassword u kdf salt newPassword with
  | .error error => .error ⟨.validation, error.message⟩
  | .ok passwordHash =>
    match port.updatePassword s username passwordHash with
    | .error error =>
      .error (if error.kind = .valueError then ⟨.notFound, "User not found."⟩ else error)
    | .ok s' => .ok s'

/-- Verify credentials; `application/services/auth_service.py:143–175`. -/
def authenticate (username password : String) :
    Except PyError (CurrentUserPrincipal × UserRecord) :=
  match port.getByUsername s username with
  | none => .error ⟨.authentication, "Invalid username or password."⟩
  | some record =>
    match PasswordHash.parse u record.password with
    | .error _ => .error ⟨.validation, "Invalid persisted password hash."⟩
    | .ok stored => do
      require (verifyPassword kdf password stored = true)
        ⟨.authentication, "Invalid username or password."⟩
      let principal ← createRuntimeUser u record
      .ok (principal, record)

/-- Change a password; `application/services/auth_service.py:181–226`. -/
def changePassword (salt : Salt) (username oldPassword newPassword : String) :
    Except PyError (UserRecord × σ) :=
  match port.getByUsername s username with
  | none => .error ⟨.notFound, "User not found."⟩
  | some record =>
    match PasswordHash.parse u record.password with
    | .error _ => .error ⟨.validation, "Invalid persisted password hash."⟩
    | .ok passwordHash => do
      require (verifyPassword kdf oldPassword passwordHash = true)
        ⟨.authentication, "Old password incorrect."⟩
      require (verifyPassword kdf newPassword passwordHash = false)
        ⟨.validation, "New password must be different from the old one."⟩
      let s' ← setPassword u kdf port s salt username newPassword
      .ok (record, s')

/-- Reset a password; `application/services/auth_service.py:228–258`. -/
def resetPassword (salt : Salt) (username newPassword : String) :
    Except PyError (UserRecord × σ) :=
  match port.getByUsername s username with
  | none => .error ⟨.notFound, "User not found."⟩
  | some record => do
    let s' ← setPassword u kdf port s salt username newPassword
    .ok (record, s')

end AuthService

/-! ### The use cases -/

/-- Register as an administrator; `application/use_cases/auth/register_user.py:71–122`. -/
def registerUserUseCase (salt : Salt) (currentUser : CurrentUserPrincipal)
    (body : Registration) : Except PyError (UserRecord × σ) := do
  require (currentUser.role.hasAdminUser = true)
    ⟨.permissionError, "Missing permission: ADMIN_USER"⟩
  AuthService.registerUser u kdf port s salt body.username body.role body.name
    (body.email.getD "") (body.phoneNumber.getD "") body.password

/-- Change the own password; `application/use_cases/auth/change_password.py:50–117`. -/
def changePasswordUseCase (salt : Salt) (currentUser : CurrentUserPrincipal)
    (currentPassword newPassword : String) : Except PyError (UserRecord × σ) := do
  let normalizedUsername := normalizeUsername u currentUser.username
  require (normalizedUsername ≠ "") ⟨.validation, "Username must be a non-empty string."⟩
  AuthService.changePassword u kdf port s salt normalizedUsername currentPassword newPassword

/-- Reset a password as an administrator; `application/use_cases/auth/reset_password.py:47–103`. -/
def resetPasswordUseCase (salt : Salt) (currentUser : CurrentUserPrincipal)
    (username newPassword : String) : Except PyError (UserRecord × σ) := do
  let normalizedUsername := normalizeUsername u username
  require (currentUser.role.hasAdminUser = true)
    ⟨.permissionError, "Missing permission: ADMIN_USER"⟩
  require (normalizedUsername ≠ "") ⟨.validation, "Username must be a non-empty string."⟩
  AuthService.resetPassword u kdf port s salt normalizedUsername newPassword

/-- Revoke all tokens of the acting user; `application/use_cases/auth/logout.py:44–102`. -/
def logoutUseCase (currentUser : CurrentUserPrincipal) : Except PyError σ := do
  require (PyStr.strip u currentUser.username ≠ "")
    ⟨.permissionError, "Authenticated user has no username."⟩
  .ok (port.incrementTokenVersionById s currentUser.userId).2

/-! ### The endpoints -/

/-- Serve one request at a clock value; `http/routers/api/auth_router.py:108–290`. -/
def handle (now : Nat) : AuthRequest Token → Except PyError (AuthReply Token × σ)
  | .register bearer body salt => do
    let principal ← principalFromToken u jwt config port s now bearer .access
    let (record, s') ← registerUserUseCase u kdf port s salt principal.currentUser body
    .ok (.registered record, s')
  | .login username password mint =>
    match AuthService.authenticate u kdf port s username password with
    | .error error => .error (if error.kind = .authentication then
        ⟨.http 401, "Invalid username or password."⟩ else error)
    | .ok (_, record) => do
      let response ← tokenResponse jwt config mint record
      .ok (.issued record mint response, s)
  | .changePassword bearer currentPassword newPassword salt => do
    let principal ← principalFromToken u jwt config port s now bearer .access
    match changePasswordUseCase u kdf port s salt principal.currentUser currentPassword
        newPassword with
    | .error error =>
      .error (if error.kind = .authentication then ⟨.http 400, error.message⟩ else error)
    | .ok (record, s') => .ok (.passwordChanged record.userId, s')
  | .resetPassword bearer username newPassword salt => do
    let principal ← principalFromToken u jwt config port s now bearer .access
    let (record, s') ←
      resetPasswordUseCase u kdf port s salt principal.currentUser username newPassword
    .ok (.passwordReset record.userId, s')
  | .refresh refreshToken mint => do
    let principal ← principalFromToken u jwt config port s now refreshToken .refresh
    match tokenResponse jwt config mint principal.record with
    | .error error => .error (if error.kind = .validation then
        ⟨.http 401, "Invalid or expired refresh token."⟩ else error)
    | .ok response => .ok (.issued principal.record mint response, s)
  | .logout bearer => do
    let principal ← principalFromToken u jwt config port s now bearer .access
    let s' ← logoutUseCase u port s principal.currentUser
    .ok (.tokensRevoked principal.currentUser.userId, s')

end Requests
end FleetFlow
