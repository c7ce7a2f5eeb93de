/-
Signed tokens as the SDK verifies them: ID tokens in its client, and access
tokens in the verifier of a service.
-/
import IdProvider.ServerSdk

namespace IdProvider

open JsonText ServiceCall

/-! ## The parts of a token -/

/-- `verify` of `node:crypto` with the key of a JWK, or the message of what it
throws. -/
abbrev VerifySignature : Type :=
  Json → List UInt8 → List UInt8 → Except String Bool

structure ParsedToken where
  signed : List UInt8
  signature : List UInt8
  kid : String
  claims : Json
  deriving DecidableEq

/-- The code and the messages of the errors about a token. -/
structure TokenErrors where
  code : String
  format : String
  unsupported : String
  signature : String
  deriving DecidableEq

def TokenErrors.fail {Value : Type} (errors : TokenErrors)
    (message : String) : Except SdkError Value :=
  .error (.sdk errors.code message false)

def TokenErrors.unknownKey {Value : Type} (errors : TokenErrors) :
    Except SdkError Value :=
  errors.fail "Signing key not found"

section Parts

variable (errors : TokenErrors)

/-- `decodeJson`, and `decodeJwtPart`. -/
def decodeJson (value : List Char) : Except SdkError Json :=
  match parse (Utf8.decode (Base64.decode value)) with
  | some json => .ok json
  | none => errors.fail "Invalid token JSON"

/-- What comes before the key is needed. -/
def parseToken (token : String) : Except SdkError ParsedToken :=
  match token.toList.splitOn '.' with
  | header :: payload :: signature :: _ =>
      if header = [] ∨ payload = [] ∨ signature = [] then
        errors.fail errors.format
      else do
        let headerJson ← decodeJson errors header
        let claims ← decodeJson errors payload
        let alg ← property headerJson "alg"
        if alg ≠ some (.str "RS256") then errors.fail errors.unsupported
        else
          match headerJson.get? "kid" with
          | some (.str kid) =>
              pure
                { signed := Utf8.encode (header ++ '.' :: payload)
                  signature := Base64.decode signature
                  kid := kid
                  claims := claims }
          | _ => errors.fail errors.unsupported
  | _ => errors.fail errors.format

/-- `keys.find((key) => key.kid === kid)`. -/
def findKey (kid : String) : List Json → Except SdkError (Option Json)
  | [] => .ok none
  | jwk :: keys => do
      let named ← property jwk "kid"
      if named = some (.str kid) then pure (some jwk) else findKey kid keys

def keysOf (jwks : Json) : Except SdkError (List Json) := do
  match ← property jwks "keys" with
  | some (.arr keys) => pure keys
  | none =>
      .error (.error
        "Cannot read properties of undefined (reading 'find')")
  | some _ => .error (.error "jwks.keys.find is not a function")

/-- The key of the token, and its signature. -/
def checkSignature (verifySignature : VerifySignature) (jwks : Json)
    (token : ParsedToken) : Except SdkError Unit := do
  let keys ← keysOf jwks
  match ← findKey token.kid keys with
  | none => errors.unknownKey
  | some jwk =>
      match verifySignature jwk token.signed token.signature with
      | .error message => .error (.error message)
      | .ok true => pure ()
      | .ok false => errors.fail errors.signature

end Parts

/-! ## Claims -/

/-- `left === right`; no two arrays or objects of JSON texts are the same. -/
def strictEquals (numbers : NumberRuntime) :
    Option Json → Option Json → Bool
  | some (.num left), some (.num right) =>
      (numbers.read left).same (numbers.read right)
  | some (.arr _), _ => false
  | some (.obj _), _ => false
  | left, right => decide (left = right)

/-- `typeof value === "number"`, with the number. -/
def numberOf (numbers : NumberRuntime) : Option Json → Option JsNumber
  | some (.num value) => some (numbers.read value)
  | _ => none

def textOf : Option Json → Option String
  | some (.str value) => some value
  | _ => none

def boolOf : Option Json → Option Bool
  | some (.bool value) => some value
  | _ => none

/-- `aud`, or an item of it, is the audience. -/
def isAudience (audience : String) : Option Json → Bool
  | some (.str value) => value == audience
  | some (.arr values) => decide (.str audience ∈ values)
  | _ => false

/-- `Math.floor(Date.now() / 1000)`. -/
def epochSeconds (now : Instant) : Int := now / 1000

structure VerifiedIdToken where
  sub : String
  email : Option String
  emailVerified : Option Bool
  claims : Json
  deriving DecidableEq

structure VerifiedServiceAccessToken where
  claims : Json
  scope : List String
  sub : Option String
  clientId : Option String
  deriving DecidableEq

/-! ## `verifyIdToken` -/

structure IdTokenInput where
  idToken : String
  nonce : Option String
  deriving DecidableEq

def idTokenErrors : TokenErrors where
  code := "oidc_invalid_token"
  format := "Invalid ID Token"
  unsupported := "Unsupported ID Token"
  signature := "Invalid ID Token signature"

/-- `audience.length > 1` of an array. -/
def severalAudiences : Option Json → Bool
  | some (.arr values) => decide (1 < values.length)
  | _ => false

def checkIdClaims (numbers : NumberRuntime) (clientId : String)
    (now : Instant) (discovery : Json) (nonce : Option String)
    (claims : Json) : Except SdkError VerifiedIdToken := do
  let iss ← property claims "iss"
  let issuer ← property discovery "issuer"
  if strictEquals numbers iss issuer = false then
    idTokenErrors.fail "Invalid issuer"
  else if isAudience clientId (claims.get? "aud") = false then
    idTokenErrors.fail "Invalid audience"
  else if severalAudiences (claims.get? "aud") = true ∧
      claims.get? "azp" ≠ some (.str clientId) then
    idTokenErrors.fail "Invalid authorized party"
  else if (numberOf numbers (claims.get? "exp")).all fun exp =>
      exp.atMost (epochSeconds now) then
    idTokenErrors.fail "ID Token is expired"
  else if (orNull nonce).any fun nonce =>
      decide (claims.get? "nonce" ≠ some (.str nonce)) then
    idTokenErrors.fail "Invalid nonce"
  else
    match claims.get? "sub" with
    | some (.str sub) =>
        pure
          { sub := sub
            email := textOf (claims.get? "email")
            emailVerified := boolOf (claims.get? "email_verified")
            claims := claims }
    | _ => idTokenErrors.fail "Missing subject"

namespace ServerSdkClient

def verifyIdToken (env : SdkEnv) (verifySignature : VerifySignature)
    (now : Instant) (input : IdTokenInput) : Sdk VerifiedIdToken := do
  let discovery ← getDiscovery env
  let token ← ofExcept (parseToken idTokenErrors input.idToken)
  let jwks ← getJwks env
  ofExcept (checkSignature idTokenErrors verifySignature jwks token)
  ofExcept (checkIdClaims env.numbers env.clientId now discovery input.nonce
    token.claims)

end ServerSdkClient

/-! ## `JwtVerifier` -/

structure JwtVerifierOptions where
  issuer : String
  audience : String
  jwksUri : Option String
  clockSkewSeconds : Int
  numbers : NumberRuntime
  fetch : List SdkRequest → SdkRequest → FetchOutcome

def accessTokenErrors : TokenErrors where
  code := "invalid_token"
  format := "Invalid access token format"
  unsupported := "Unsupported token algorithm"
  signature := "Invalid token signature"

/-- `value.split(" ")` with the items trimmed and the empty ones dropped. -/
def scopeItems (scope : String) : List String :=
  ((scope.toList.splitOn ' ').map fun item => trim (String.ofList item)).filter
    fun item => item ≠ ""

namespace JwtVerifier

variable (options : JwtVerifierOptions)

def getDiscovery : Sdk Json := cachedDiscovery options.fetch options.issuer

def getJwks : Sdk Json :=
  cachedJwks
    (match orNull options.jwksUri with
    | some jwksUri => fetchJson options.fetch ⟨.str jwksUri, none⟩
    | none => discoveredJwks options.fetch (getDiscovery options))

def validateClaims (now : Instant) (claims : Json) :
    Except SdkError Unit := do
  let iss ← property claims "iss"
  if iss ≠ some (.str options.issuer) then
    accessTokenErrors.fail "Invalid issuer"
  else if isAudience options.audience (claims.get? "aud") = false then
    accessTokenErrors.fail "Invalid audience"
  else
    match numberOf options.numbers (claims.get? "exp") with
    | none => accessTokenErrors.fail "Missing exp claim"
    | some exp =>
        if exp.atMost (epochSeconds now - options.clockSkewSeconds : Int) then
          .error (.sdk "token_expired" "Access token is expired" false)
        else if (numberOf options.numbers (claims.get? "nbf")).any
            (JsNumber.above
              (epochSeconds now + options.clockSkewSeconds : Int)) then
          accessTokenErrors.fail "Token is not active yet"
        else if (numberOf options.numbers (claims.get? "iat")).any
            (JsNumber.above
              (epochSeconds now + options.clockSkewSeconds : Int)) then
          accessTokenErrors.fail "Token issued-at is invalid"
        else pure ()

def normalizeScope (claims : Json) : List String :=
  match claims.get? "scope" with
  | some (.str scope) => scopeItems scope
  | _ =>
      match claims.get? "scp" with
      | some (.arr values) => values.filterMap fun value => textOf (some value)
      | _ => []

/-- The token, unless a required scope is missing. -/
def verifiedToken (requiredScopes : List String) (claims : Json) :
    Except SdkError VerifiedServiceAccessToken :=
  let scope := normalizeScope claims
  let missing := requiredScopes.filter fun required => required ∉ scope
  if missing ≠ [] then
    .error (.sdk "insufficient_scope"
      ("Missing required scopes: " ++ ", ".intercalate missing) false)
  else
    .ok
      { claims := claims
        scope := scope
        sub := textOf (claims.get? "sub")
        clientId := (textOf (claims.get? "client_id")).or
          (textOf (claims.get? "azp")) }

def verifyAccessToken (verifySignature : VerifySignature) (now : Instant)
    (token : String) (requiredScopes : List String) :
    Sdk VerifiedServiceAccessToken :=
  if token = "" then sdkFail "missing_token" "Access token is required"
  else do
    let parsed ← ofExcept (parseToken accessTokenErrors token)
    let jwks ← getJwks options
    ofExcept (checkSignature accessTokenErrors verifySignature jwks parsed)
    ofExcept (validateClaims options now parsed.claims)
    ofExcept (verifiedToken requiredScopes parsed.claims)

end JwtVerifier

end IdProvider
