/-
The callback of a sign-in in the SDK's client: the two documents about the
user, and the session identity that is made of them.
-/
import IdProvider.KeyTracking

namespace IdProvider

open JsonText ServiceCall

/-! ## Spreading a value -/

/-- A value that a property may have: half of a surrogate pair is no text. -/
inductive ClaimValue where
  | json (value : Json)
  | half (unit : Nat)
  deriving DecidableEq

/-- The code units of a character, each a text of its own. -/
def codeUnitValues (c : Char) : List ClaimValue :=
  if c.toNat < 0x10000 then [.json (.str (String.singleton c))]
  else
    [.half (0xD800 + (c.toNat - 0x10000) / 0x400),
      .half (0xDC00 + (c.toNat - 0x10000) % 0x400)]

def indexed (values : List ClaimValue) : List (String × ClaimValue) :=
  values.zipIdx.map fun value => (toString value.2, value.1)

/-- The properties that `...value` copies. -/
def ownProperties : Json → List (String × ClaimValue)
  | .obj fields => fields.map fun field => (field.1, .json field.2)
  | .arr items => indexed (items.map .json)
  | .str text => indexed (text.toList.flatMap codeUnitValues)
  | .null => []
  | .bool _ => []
  | .num _ => []

section Properties

variable {Value : Type}

def defineProperty (properties : List (String × Value))
    (property : String × Value) : List (String × Value) :=
  if property.1 ∈ properties.map Prod.fst then
    properties.map fun own => if own.1 = property.1 then property else own
  else properties ++ [property]

theorem lookup_cons_ite (own : String × Value)
    (properties : List (String × Value)) (name : String) :
    List.lookup name (own :: properties) =
      if name = own.1 then some own.2 else List.lookup name properties := by
  by_cases hname : name = own.1
  · rw [if_pos hname, hname]
    exact List.lookup_cons_self
  · have hkey : (name == own.1) = false := beq_false_of_ne hname
    rw [if_neg hname, List.lookup_cons, hkey]

theorem lookup_override (property : String × Value)
    (properties : List (String × Value)) (name : String) :
    List.lookup name (properties.map fun own =>
        if own.1 = property.1 then property else own) =
      if name = property.1 then
        (List.lookup name properties).map fun _ => property.2
      else List.lookup name properties := by
  induction properties with
  | nil => simp
  | cons own properties ih =>
      rw [List.map_cons, lookup_cons_ite, lookup_cons_ite, ih]
      by_cases hown : own.1 = property.1
      · simp only [hown, if_true]
        by_cases hname : name = property.1
        · simp [hname]
        · simp [hname]
      · simp only [hown, if_false]
        by_cases hname : name = own.1
        · simp [hname, hown]
        · simp [hname]

theorem lookup_defineProperty (properties : List (String × Value))
    (property : String × Value) (name : String) :
    List.lookup name (defineProperty properties property) =
      if name = property.1 then some property.2
      else List.lookup name properties := by
  rw [defineProperty]
  split
  case isTrue hmem =>
      rw [lookup_override]
      by_cases hname : name = property.1
      · obtain ⟨own, hown, hsame⟩ := List.mem_map.mp hmem
        have hfound : (List.lookup name properties).isSome = true :=
          List.lookup_isSome_iff.mpr ⟨own, hown, by simp [hname, hsame]⟩
        obtain ⟨old, hold⟩ := Option.isSome_iff_exists.mp hfound
        rw [if_pos hname, if_pos hname, hold]
        rfl
      · rw [if_neg hname, if_neg hname]
  case isFalse hnew =>
      rw [List.lookup_append, lookup_cons_ite]
      by_cases hname : name = property.1
      · have hnone : List.lookup name properties = none := by
          rw [List.lookup_eq_none_iff]
          intro own hown
          have hne : own.1 ≠ property.1 :=
            fun hsame => hnew (List.mem_map.mpr ⟨own, hown, hsame⟩)
          simpa [hname] using hne.symm
        rw [hnone, if_pos hname, if_pos hname]
        rfl
      · rw [if_neg hname, if_neg hname]
        simp

/-- The last of the new values of a property, else the old one. -/
theorem lookup_foldl_defineProperty
    (properties added : List (String × Value)) (name : String) :
    List.lookup name (added.foldl defineProperty properties) =
      (List.lookup name added.reverse).or (List.lookup name properties) := by
  induction added generalizing properties with
  | nil => rfl
  | cons property added ih =>
      rw [List.foldl_cons, ih, lookup_defineProperty, List.reverse_cons,
        List.lookup_append, Option.or_assoc, lookup_cons_ite]
      by_cases hname : name = property.1
      · simp [hname]
      · simp [hname]

end Properties

/-- `{ ...properties, ...value }`. -/
def spread (properties : List (String × ClaimValue)) (value : Json) :
    List (String × ClaimValue) :=
  (ownProperties value).foldl defineProperty properties

def propertyValue (value : Json) (name : String) : Option ClaimValue :=
  List.lookup name (ownProperties value).reverse

theorem lookup_spread (properties : List (String × ClaimValue))
    (value : Json) (name : String) :
    List.lookup name (spread properties value) =
      (propertyValue value name).or (List.lookup name properties) :=
  lookup_foldl_defineProperty properties (ownProperties value) name

/-! ## The session identity -/

structure SessionIdentity where
  userId : String
  email : Option String
  emailVerified : Option Bool
  permissions : List String
  entitlements : Json
  claims : List (String × ClaimValue)
  deriving DecidableEq

def jsonClaim (claims : List (String × ClaimValue)) (name : String) :
    Option Json :=
  match List.lookup name claims with
  | some (.json value) => some value
  | _ => none

def stringArray : Option Json → List String
  | some (.arr values) => values.filterMap fun value => textOf (some value)
  | _ => []

def recordValue : Option Json → Json
  | some (.obj fields) => .obj fields
  | _ => .obj []

/-- `{ ...idToken.claims, ...(userInfo ?? {}) }`. -/
def mergedClaims (idToken : VerifiedIdToken) (userInfo : Option Json) :
    List (String × ClaimValue) :=
  spread (spread [] idToken.claims) (userInfo.getD (.obj []))

def identityOf (userId : String) (claims : List (String × ClaimValue)) :
    SessionIdentity where
  userId := userId
  email := textOf (jsonClaim claims "email")
  emailVerified := boolOf (jsonClaim claims "email_verified")
  permissions := stringArray (jsonClaim claims "permissions")
  entitlements := recordValue (jsonClaim claims "entitlements")
  claims := claims

def toSessionIdentity (idToken : VerifiedIdToken) (userInfo : Option Json) :
    SessionIdentity :=
  identityOf idToken.sub (mergedClaims idToken userInfo)

/-! ## The calls of the callback -/

structure TokenSet where
  idToken : String
  accessToken : String
  refreshToken : Option String
  expiresIn : Number
  deriving DecidableEq

/-- The access token and the lifetime of a response that has both. -/
def accessTokenResponse (numbers : NumberRuntime) (response : Json) :
    Option (String × Number) :=
  match response.get? "access_token",
    numberOf numbers (response.get? "expires_in") with
  | some (.str accessToken), some (.finite expiresIn) =>
      if 0 < numberValue expiresIn then some (accessToken, expiresIn) else none
  | _, _ => none

def tokenSet (numbers : NumberRuntime) (response : Json) :
    Except SdkError TokenSet := do
  let idToken ← property response "id_token"
  match textOf idToken, accessTokenResponse numbers response with
  | some idToken, some (accessToken, expiresIn) =>
      pure
        { idToken := idToken
          accessToken := accessToken
          refreshToken := textOf (response.get? "refresh_token")
          expiresIn := expiresIn }
  | _, _ =>
      .error (.sdk "oidc_invalid_response"
        "OIDC token response is missing required fields" false)

/-- The client's environment; `fetchUserInfo` answers a request for the URL
with this authorization header. -/
structure CallbackEnv extends SdkEnv where
  verifySignature : VerifySignature
  fetchUserInfo : List SdkRequest → Json → String → FetchOutcome

structure CallbackInput where
  code : Option String
  state : Option String
  expectedState : String
  expectedNonce : Option String
  redirectUri : String
  codeVerifier : String
  fetchUserInfo : Bool
  deriving DecidableEq

structure CallbackResult where
  tokens : TokenSet
  idToken : VerifiedIdToken
  userInfo : Option Json
  sessionIdentity : SessionIdentity
  deriving DecidableEq

namespace ServerSdkClient

variable (env : CallbackEnv) (now : Instant) (input : CallbackInput)

def exchangeCode (code : String) : Sdk TokenSet := do
  let discovery ← getDiscovery env.toSdkEnv
  let endpoint ← ofExcept (property discovery "token_endpoint")
  let response ← requestJson env.toSdkEnv
    ⟨endpoint.getD .null,
      some
        { authorization :=
            basicAuthorization env.clientId env.clientSecret
          body :=
            [("grant_type", "authorization_code"), ("code", code),
              ("redirect_uri", input.redirectUri),
              ("code_verifier", input.codeVerifier)] }⟩
  ofExcept (tokenSet env.numbers response)

def getUserInfo (accessToken : String) : Sdk Json := do
  let discovery ← getDiscovery env.toSdkEnv
  let endpoint ← ofExcept (property discovery "userinfo_endpoint")
  if isTruthy endpoint then
    fetchJson
      (fun requests request =>
        env.fetchUserInfo requests request.url ("Bearer " ++ accessToken))
      ⟨endpoint.getD .null, none⟩
  else sdkFail "oidc_unsupported" "UserInfo is not supported"

def completeAuthorizationCodeCallback : Sdk CallbackResult :=
  match orNull input.code with
  | none =>
      sdkFail "oidc_invalid_callback"
        "Authorization callback is missing code"
  | some code =>
      if orNull input.state ≠ some input.expectedState then
        sdkFail "oidc_invalid_callback"
          "Authorization callback state mismatch"
      else do
        let tokens ← exchangeCode env input code
        let idToken ← verifyIdToken env.toSdkEnv env.verifySignature now
          ⟨tokens.idToken, orNull input.expectedNonce⟩
        if input.fetchUserInfo then
          let userInfo ← getUserInfo env tokens.accessToken
          pure
            { tokens := tokens
              idToken := idToken
              userInfo := some userInfo
              sessionIdentity :=
                toSessionIdentity idToken (some userInfo) }
        else
          pure
            { tokens := tokens
              idToken := idToken
              userInfo := none
              sessionIdentity := toSessionIdentity idToken none }

/-- The two documents of a callback that gets both. -/
structure Receives (st : SdkState) (tokens : TokenSet)
    (idToken : VerifiedIdToken) (userInfo : Json) : Prop where
  wanted : input.fetchUserInfo = true
  state : orNull input.state = some input.expectedState
  calls : ∃ code exchanged verified fetched,
    orNull input.code = some code ∧
      exchangeCode env input code st = (.ok tokens, exchanged) ∧
      verifyIdToken env.toSdkEnv env.verifySignature now
          ⟨tokens.idToken, orNull input.expectedNonce⟩ exchanged =
        (.ok idToken, verified) ∧
      getUserInfo env tokens.accessToken verified = (.ok userInfo, fetched)

end ServerSdkClient

/-! ## One subject -/

structure SessionIdentity.Same (left right : SessionIdentity) : Prop where
  userId : left.userId = right.userId
  email : left.email = right.email
  emailVerified : left.emailVerified = right.emailVerified
  permissions : left.permissions = right.permissions
  entitlements : left.entitlements = right.entitlements
  claims : ∀ name,
    List.lookup name left.claims = List.lookup name right.claims

def SameSubject (idToken : VerifiedIdToken) (userInfo : Json) : Prop :=
  userInfo.get? "sub" = some (.str idToken.sub)

/-- A response about another subject is not in the identity. -/
def OneSubject (outcome : Except SdkError CallbackResult) : Prop :=
  ∀ result userInfo, outcome = .ok result →
    result.userInfo = some userInfo →
    ¬ SameSubject result.idToken userInfo →
    result.sessionIdentity.Same (toSessionIdentity result.idToken none)

/-- Every property of the response is one of the ID token's already. -/
def AddsNothing (idToken : VerifiedIdToken) (userInfo : Json) : Prop :=
  ∀ name value, propertyValue userInfo name = some value →
    propertyValue idToken.claims name = some value

theorem lookup_mergedClaims (idToken : VerifiedIdToken)
    (userInfo : Option Json) (name : String) :
    List.lookup name (mergedClaims idToken userInfo) =
      (propertyValue (userInfo.getD (.obj [])) name).or
        (propertyValue idToken.claims name) := by
  rw [mergedClaims, lookup_spread, lookup_spread, List.lookup_nil,
    Option.or_none]

theorem lookup_mergedClaims_none (idToken : VerifiedIdToken)
    (name : String) :
    List.lookup name (mergedClaims idToken none) =
      propertyValue idToken.claims name := by
  rw [lookup_mergedClaims]
  rfl

theorem identityOf_same (userId : String)
    {left right : List (String × ClaimValue)}
    (hsame : ∀ name, List.lookup name left = List.lookup name right) :
    (identityOf userId left).Same (identityOf userId right) := by
  have hclaim : ∀ name, jsonClaim left name = jsonClaim right name := by
    intro name
    rw [jsonClaim, jsonClaim, hsame]
  constructor
  case userId => rfl
  case email => exact congrArg textOf (hclaim "email")
  case emailVerified => exact congrArg boolOf (hclaim "email_verified")
  case permissions => exact congrArg stringArray (hclaim "permissions")
  case entitlements => exact congrArg recordValue (hclaim "entitlements")
  case claims => exact hsame

theorem same_iff_addsNothing (idToken : VerifiedIdToken) (userInfo : Json) :
    (toSessionIdentity idToken (some userInfo)).Same
        (toSessionIdentity idToken none) ↔
      AddsNothing idToken userInfo := by
  constructor
  · intro hsame name value hvalue
    have hclaim : List.lookup name (mergedClaims idToken (some userInfo)) =
        List.lookup name (mergedClaims idToken none) := hsame.claims name
    rw [lookup_mergedClaims, Option.getD_some, hvalue, Option.some_or,
      lookup_mergedClaims_none] at hclaim
    exact hclaim.symm
  · intro hnothing
    apply identityOf_same
    intro name
    rw [lookup_mergedClaims, Option.getD_some, lookup_mergedClaims_none]
    cases hvalue : propertyValue userInfo name with
    | none => rfl
    | some value => exact (hnothing name value hvalue).symm

namespace ServerSdkClient

variable {env : CallbackEnv} {now : Instant} {input : CallbackInput}
  {st : SdkState}

/-- A result with a userinfo response comes from the two documents. -/
theorem completeAuthorizationCodeCallback_ok {result : CallbackResult}
    {userInfo : Json} {last : SdkState}
    (hresult : completeAuthorizationCodeCallback env now input st =
      (.ok result, last)) (huserInfo : result.userInfo = some userInfo) :
    Receives env now input st result.tokens result.idToken userInfo ∧
      result.sessionIdentity =
        toSessionIdentity result.idToken (some userInfo) := by
  rw [completeAuthorizationCodeCallback] at hresult
  cases hcode : orNull input.code with
  | none =>
      rw [hcode] at hresult
      cases hresult
  | some code =>
  rw [hcode] at hresult
  change (if orNull input.state ≠ some input.expectedState then _ else _ :
    Sdk CallbackResult) st = _ at hresult
  by_cases hstate : orNull input.state = some input.expectedState
  · rw [if_neg (not_not_intro hstate)] at hresult
    obtain ⟨tokens, exchanged, htokens, hresult⟩ := bind_ok_iff.mp hresult
    obtain ⟨idToken, verified, hverified, hresult⟩ := bind_ok_iff.mp hresult
    split at hresult
    case isFalse =>
      cases hresult
      cases huserInfo
    case isTrue hwanted =>
      obtain ⟨info, fetched, hinfo, hresult⟩ := bind_ok_iff.mp hresult
      cases hresult
      cases huserInfo
      exact ⟨⟨hwanted, hstate, code, exchanged, verified, _, hcode,
        htokens, hverified, hinfo⟩, rfl⟩
  · rw [if_pos hstate] at hresult
    cases hresult

theorem completeAuthorizationCodeCallback_of_receives {tokens : TokenSet}
    {idToken : VerifiedIdToken} {userInfo : Json}
    (hreceives : Receives env now input st tokens idToken userInfo) :
    ∃ last, completeAuthorizationCodeCallback env now input st =
      (.ok ⟨tokens, idToken, some userInfo,
        toSessionIdentity idToken (some userInfo)⟩, last) := by
  obtain ⟨code, exchanged, verified, fetched, hcode, htokens, hverified,
    hinfo⟩ := hreceives.calls
  rw [completeAuthorizationCodeCallback, hcode]
  change ∃ last, (if orNull input.state ≠ some input.expectedState then _
    else _ : Sdk CallbackResult) st = _
  rw [if_neg (not_not_intro hreceives.state), bind_ok htokens,
    bind_ok hverified, if_pos hreceives.wanted, bind_ok hinfo]
  exact ⟨fetched, rfl⟩

end ServerSdkClient

namespace CallbackWitness

def discovery : Json := .obj
  [("issuer", .str "https://id.example"),
    ("jwks_uri", .str "https://id.example/jwks"),
    ("token_endpoint", .str "https://id.example/token"),
    ("userinfo_endpoint", .str "https://id.example/me")]

def tokens : Json := .obj
  [("id_token", .str TrackingWitness.token), ("access_token", .str "access"),
    ("expires_in", .num (.ofInt 300))]

/-- The ID token is about `user-1`. -/
def userInfo : Json := .obj
  [("sub", .str "user-2"), ("email", .str "other@example.com"),
    ("permissions", .arr [.str "admin"])]

def env : CallbackEnv where
  issuer := "https://id.example"
  clientId := "app"
  clientSecret := "secret"
  numbers := .ofTexts
  fetch := fun _ request => .response 200 (.ok
    (if request.url = .str "https://id.example/token" then tokens
    else if request.url = .str "https://id.example/jwks" then
      .obj [("keys", .arr [.obj [("kid", .str KeyWitness.first.kid)]])]
    else discovery))
  newUrl := fun _ => .error (.error "Invalid URL")
  searchParamsSet := fun url _ _ => url
  verifySignature := TrackingWitness.env.verifySignature
  fetchUserInfo := fun _ _ _ => .response 200 (.ok userInfo)

def input : CallbackInput where
  code := some "code"
  state := some "state"
  expectedState := "state"
  expectedNonce := none
  redirectUri := "https://app.example/callback"
  codeVerifier := "verifier"
  fetchUserInfo := true

def idToken : VerifiedIdToken where
  sub := "user-1"
  email := none
  emailVerified := none
  claims := .obj
    [("iss", .str "https://id.example"), ("aud", .str "app"),
      ("exp", .num (.ofInt 1777208400)), ("sub", .str "user-1")]

def mixed : CallbackResult where
  tokens := ⟨TrackingWitness.token, "access", none, .ofInt 300⟩
  idToken := idToken
  userInfo := some userInfo
  sessionIdentity := toSessionIdentity idToken (some userInfo)

end CallbackWitness

end IdProvider
