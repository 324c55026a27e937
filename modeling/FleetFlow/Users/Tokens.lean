import FleetFlow.Users.Coherence

/-!
# Signed tokens

Follows `adapters/driven/security/auth_token_service.py`. The JWT library is a parameter:
signing and decoding of claim dictionaries, with what the program relies on as its laws.
Clock values are whole seconds since the epoch.
-/

namespace FleetFlow

/-- The two kinds of tokens, `TokenType`; `adapters/driven/security/auth_token_service.py:19`. -/
inductive TokenType where
  | access
  | refresh
deriving DecidableEq, Repr

namespace TokenType

/-- The literal of a token type. -/
def text : TokenType → String
  | access => "access"
  | refresh => "refresh"

/-- The kind that a payload names, `token_type in (_ACCESS, _REFRESH)`. -/
def ofJson? : Option Json → Option TokenType
  | some (.str "access") => some access
  | some (.str "refresh") => some refresh
  | _ => none

end TokenType

/-- The claims of a token; `adapters/driven/security/auth_token_service.py:31–42`. -/
structure TokenPayload where
  sub : String
  iat : Int
  exp : Int
  jti : String
  type : TokenType
  username : String
  role : String
  tokenVersion : Int
deriving DecidableEq, Repr

/-- Required fields for creating a token; `adapters/driven/security/auth_token_service.py:22–28`. -/
structure TokenInput where
  userId : Int
  username : String
  role : String
  tokenVersion : Int

/-- Settings; `adapters/driven/security/config.py:9–15`. The two secrets differ. -/
structure JWTConfig where
  accessSecret : String
  refreshSecret : String
  algorithm : String
  accessTokenExpireMinutes : Int
  refreshTokenExpireDays : Int
  secrets_ne : accessSecret ≠ refreshSecret

/-- A dictionary of claims. -/
abbrev Claims : Type := List (String × Json)

namespace TokenPayload

/-- `asdict` of a payload. -/
def asdict (payload : TokenPayload) : Claims := [
  ("sub", .str payload.sub),
  ("iat", .int payload.iat),
  ("exp", .int payload.exp),
  ("jti", .str payload.jti),
  ("type", .str payload.type.text),
  ("username", .str payload.username),
  ("role", .str payload.role),
  ("token_version", .int payload.tokenVersion)]

/-- Read claims; `adapters/driven/security/auth_token_service.py:44–82`. -/
def fromDict (u : UnicodeTables) (data : Claims) : Option TokenPayload :=
  match Json.get? data "sub", Json.get? data "iat", Json.get? data "exp", Json.get? data "jti",
    TokenType.ofJson? (Json.get? data "type"), Json.get? data "username", Json.get? data "role",
    Json.get? data "token_version" with
  | some (.str sub), some (.int iat), some (.int exp), some (.str jti), some type,
    some (.str username), some (.str role), some (.int tokenVersion) =>
    if PyStr.strip u sub = "" ∨ PyStr.strip u username = "" ∨ PyStr.strip u role = "" then none
    else if iat < 0 ∨ exp < 0 ∨ tokenVersion < 1 then none
    else some { sub, iat, exp, jti, type, username, role, tokenVersion }
  | _, _, _, _, _, _, _, _ => none

end TokenPayload

/-- The JWT library: signing claims and decoding tokens at a clock value. A token decodes with
its secret to its claims until it expires, no other token decodes with that secret, and
different claims give different tokens. -/
structure Jwt (Token : Type) where
  encode : Claims → (secret algorithm : String) → Token
  decode : Token → (secret algorithm : String) → (now : Nat) → Option Claims
  decode_encode : ∀ (payload : TokenPayload) secret algorithm now,
    decode (encode payload.asdict secret algorithm) secret algorithm now =
      if (now : Int) ≤ payload.exp then some payload.asdict else none
  encode_of_decode : ∀ {token secret algorithm now claims},
    decode token secret algorithm now = some claims → token = encode claims secret algorithm
  claims_eq_of_encode_eq : ∀ {claims claims' secret secret' algorithm},
    encode claims secret algorithm = encode claims' secret' algorithm → claims = claims'

variable {Token : Type} (jwt : Jwt Token) (config : JWTConfig)

/-- The signing secret of a type; `adapters/driven/security/auth_token_service.py:220–224`. -/
def JWTConfig.secretForTokenType : TokenType → String
  | .access => config.accessSecret
  | .refresh => config.refreshSecret

/-- The expiry of a token; `adapters/driven/security/auth_token_service.py:89–96`. -/
def getExpirationTime (tokenType : TokenType) (baseTime : Nat) : Int :=
  match tokenType with
  | .access => baseTime + config.accessTokenExpireMinutes * 60
  | .refresh => baseTime + config.refreshTokenExpireDays * 86400

/-- The payload of a new token; `adapters/driven/security/auth_token_service.py:99–113`. -/
def buildPayload (now : Nat) (jti : String) (data : TokenInput) (tokenType : TokenType) :
    TokenPayload where
  sub := toString data.userId
  iat := now
  exp := getExpirationTime config tokenType now
  jti := jti
  type := tokenType
  username := data.username
  role := data.role
  tokenVersion := data.tokenVersion

/-- Sign a new token; `adapters/driven/security/auth_token_service.py:121–167`. -/
def createToken (now : Nat) (jti : String) (data : TokenInput) (tokenType : TokenType) : Token :=
  jwt.encode (buildPayload config now jti data tokenType).asdict
    (config.secretForTokenType tokenType) config.algorithm

/-- Verify a token; `adapters/driven/security/auth_token_service.py:169–217`. -/
def decodeToken (u : UnicodeTables) (now : Nat) (token : Token) (expectedType : TokenType) :
    Option TokenPayload := do
  let rawPayload ← jwt.decode token (config.secretForTokenType expectedType) config.algorithm now
  let payload ← TokenPayload.fromDict u rawPayload
  if payload.type ≠ expectedType then none else some payload

/-! ### Reading back a created token -/

variable {u : UnicodeTables} {jwt : Jwt Token} {config : JWTConfig}

/-- What `from_dict` asks of a payload besides the types of its fields. -/
structure TokenPayload.WellFormed (u : UnicodeTables) (payload : TokenPayload) : Prop where
  sub_ne : PyStr.strip u payload.sub ≠ ""
  username_ne : PyStr.strip u payload.username ≠ ""
  role_ne : PyStr.strip u payload.role ≠ ""
  iat_nonneg : 0 ≤ payload.iat
  exp_nonneg : 0 ≤ payload.exp
  tokenVersion_pos : 1 ≤ payload.tokenVersion

namespace TokenPayload

/-- What `from_dict` makes of the claims of a payload. -/
private theorem fromDict_asdict_eq (payload : TokenPayload) :
    fromDict u payload.asdict =
      if PyStr.strip u payload.sub = "" ∨ PyStr.strip u payload.username = "" ∨
        PyStr.strip u payload.role = "" then none
      else if payload.iat < 0 ∨ payload.exp < 0 ∨ payload.tokenVersion < 1 then none
      else some payload := by
  have hsub : Json.get? payload.asdict "sub" = some (.str payload.sub) := rfl
  have hiat : Json.get? payload.asdict "iat" = some (.int payload.iat) := rfl
  have hexp : Json.get? payload.asdict "exp" = some (.int payload.exp) := rfl
  have hjti : Json.get? payload.asdict "jti" = some (.str payload.jti) := rfl
  have htype : Json.get? payload.asdict "type" = some (.str payload.type.text) := rfl
  have husername : Json.get? payload.asdict "username" = some (.str payload.username) := rfl
  have hrole : Json.get? payload.asdict "role" = some (.str payload.role) := rfl
  have hversion : Json.get? payload.asdict "token_version" = some (.int payload.tokenVersion) := rfl
  have hread : TokenType.ofJson? (some (.str payload.type.text)) = some payload.type := by
    cases payload.type <;> rfl
  simp only [fromDict, hsub, hiat, hexp, hjti, htype, husername, hrole, hversion, hread]

/-- A well-formed payload is read back from its claims. -/
theorem fromDict_asdict {payload : TokenPayload} (h : payload.WellFormed u) :
    fromDict u payload.asdict = some payload := by
  have hblank : ¬ (PyStr.strip u payload.sub = "" ∨ PyStr.strip u payload.username = "" ∨
      PyStr.strip u payload.role = "") := by
    rintro (hsub | husername | hrole)
    · exact h.sub_ne hsub
    · exact h.username_ne husername
    · exact h.role_ne hrole
  have hrange : ¬ (payload.iat < 0 ∨ payload.exp < 0 ∨ payload.tokenVersion < 1) := by
    have hiat := h.iat_nonneg
    have hexp := h.exp_nonneg
    have hversion := h.tokenVersion_pos
    omega
  rw [fromDict_asdict_eq, if_neg hblank, if_neg hrange]

/-- Whatever is read from the claims of a payload is that payload. -/
theorem eq_of_fromDict_asdict {payload payload' : TokenPayload}
    (h : fromDict u payload.asdict = some payload') : payload' = payload := by
  rw [fromDict_asdict_eq] at h
  split at h
  · cases h
  · split at h
    · cases h
    · exact (Option.some.inj h).symm

end TokenPayload

/-- A created token is accepted exactly as the type it was created as, until it expires. -/
theorem decodeToken_createToken {issuedAt : Nat} {jti : String} {data : TokenInput}
    {tokenType : TokenType} (husername : PyStr.strip u data.username ≠ "")
    (hrole : PyStr.strip u data.role ≠ "") (hversion : 1 ≤ data.tokenVersion)
    (now : Nat) (expectedType : TokenType) :
    decodeToken jwt config u now (createToken jwt config issuedAt jti data tokenType)
        expectedType =
      if expectedType = tokenType ∧ (now : Int) ≤ getExpirationTime config tokenType issuedAt then
        some (buildPayload config issuedAt jti data tokenType)
      else none := by
  have hlibrary : jwt.decode (createToken jwt config issuedAt jti data tokenType)
      (config.secretForTokenType tokenType) config.algorithm now =
        if (now : Int) ≤ getExpirationTime config tokenType issuedAt then
          some (buildPayload config issuedAt jti data tokenType).asdict else none :=
    jwt.decode_encode _ _ _ _
  by_cases htype : expectedType = tokenType
  · subst htype
    rw [decodeToken, hlibrary]
    by_cases hexp : (now : Int) ≤ getExpirationTime config expectedType issuedAt
    · have hwell : (buildPayload config issuedAt jti data expectedType).WellFormed u := {
        sub_ne := PyStr.strip_toString_ne data.userId
        username_ne := husername
        role_ne := hrole
        iat_nonneg := Int.natCast_nonneg issuedAt
        exp_nonneg := (Int.natCast_nonneg now).trans hexp
        tokenVersion_pos := hversion }
      rw [if_pos hexp, if_pos ⟨rfl, hexp⟩]
      simp only [bind, Option.bind, TokenPayload.fromDict_asdict hwell]
      exact if_neg fun hne ↦ hne rfl
    · rw [if_neg hexp, if_neg fun h ↦ hexp h.2]
      rfl
  · rw [if_neg fun h ↦ htype h.1, decodeToken]
    cases hdecode : jwt.decode (createToken jwt config issuedAt jti data tokenType)
        (config.secretForTokenType expectedType) config.algorithm now with
    | none => rfl
    | some claims =>
      -- the other secret gives the same claims, and those name the other type
      have hclaims := jwt.claims_eq_of_encode_eq (jwt.encode_of_decode hdecode)
      rw [← hclaims]
      simp only [bind, Option.bind]
      cases hread : TokenPayload.fromDict u
          (buildPayload config issuedAt jti data tokenType).asdict with
      | none => rfl
      | some payload =>
        rw [TokenPayload.eq_of_fromDict_asdict hread]
        exact if_pos fun heq ↦ htype heq.symm

end FleetFlow
