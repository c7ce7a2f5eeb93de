/-
The SDK's client: what it requests and caches, and how a request fails.
-/
import IdProvider.ClientAuth
import IdProvider.JsonReading
import IdProvider.ServiceCall

namespace IdProvider

open JsonText ServiceCall

/-! ## Errors -/

/-- A `ServerSdkError`, another `Error`, or what is thrown that is none. -/
inductive SdkError where
  | sdk (code message : String) (retryable : Bool)
  | error (message : String)
  | thrown
  deriving DecidableEq

namespace SdkError

/-- `error instanceof ServerSdkError ? error.code : "unknown"`. -/
def code : SdkError → String
  | .sdk code _ _ => code
  | _ => "unknown"

/-- `error instanceof Error ? error.message : "unknown"`. -/
def message : SdkError → String
  | .sdk _ message _ => message
  | .error message => message
  | .thrown => "unknown"

end SdkError

/-! ## Values of no known type -/

/-- JavaScript's `Boolean(value)`; an absent property is `undefined`. -/
def isTruthy : Option Json → Bool
  | none => false
  | some .null => false
  | some (.bool value) => value
  | some (.num value) => decide (numberValue value ≠ 0)
  | some (.str value) => value ≠ ""
  | some (.arr _) => true
  | some (.obj _) => true

/-! ## Requests -/

structure SdkPost where
  authorization : String
  body : List (String × String)
  deriving DecidableEq

structure SdkRequest where
  url : Json
  post : Option SdkPost
  deriving DecidableEq

/-- What `fetch` comes to: a response, with the outcome of `response.json()`,
an error, or the abort by the timer. -/
inductive FetchOutcome where
  | response (status : Nat) (json : Except SdkError Json)
  | rejected (error : SdkError)
  | timedOut

/-- The fields of a client, and the requests it has made. -/
structure SdkState where
  discoveryCache : Option Json
  jwksCache : Option Json
  requests : List SdkRequest
  deriving DecidableEq

def SdkState.fresh : SdkState := ⟨none, none, []⟩

abbrev Sdk : Type → Type := Call SdkState SdkError

/-- `fetch` may answer as it likes, whatever was requested before, and
`numbers` are those of `JSON.parse`.  `newUrl` is `new URL(value).toString()`,
and `searchParamsSet` that text after `url.searchParams.set`. -/
structure SdkEnv where
  issuer : String
  clientId : String
  clientSecret : String
  numbers : NumberRuntime
  fetch : List SdkRequest → SdkRequest → FetchOutcome
  newUrl : Json → Except SdkError String
  searchParamsSet : String → String → String → String

def sdkFail {Value : Type} (code message : String) : Sdk Value :=
  fail (.sdk code message false)

/-- What does not wait for anything. -/
def ofExcept {Value : Type} (result : Except SdkError Value) : Sdk Value :=
  fun st => (result, st)

/-- The property of a value that is not `undefined`. -/
def property (value : Json) (name : String) :
    Except SdkError (Option Json) :=
  match value with
  | .null =>
      .error (.error ("Cannot read properties of null (reading '" ++ name ++
        "')"))
  | value => .ok (value.get? name)

def statusError (status : Nat) : SdkError :=
  .sdk (if status = 429 then "oidc_rate_limited" else "oidc_http_error")
    ("OIDC request failed with status " ++ toString status)
    (decide (status = 429 ∨ 500 ≤ status))

/-- The outcome of `fetch` inside `withTimeout`. -/
def FetchOutcome.read :
    FetchOutcome → Except SdkError (Except SdkError Json)
  | .response status json =>
      if 200 ≤ status ∧ status ≤ 299 then .ok json
      else .error (statusError status)
  | .rejected error => .error error
  | .timedOut => .error (.sdk "oidc_timeout" "OIDC request timed out" true)

/-! ## What both clients do -/

section Requests

variable (fetch : List SdkRequest → SdkRequest → FetchOutcome)

def sendRequest (request : SdkRequest) : Sdk (Except SdkError Json) :=
  fun st =>
    ((fetch st.requests request).read,
      { st with requests := st.requests ++ [request] })

def fetchJson (request : SdkRequest) : Sdk Json := do
  let json ← sendRequest fetch request
  ofExcept json

/-- `issuer.replace(/\/$/, "")`. -/
def withoutSlash (issuer : String) : String :=
  if issuer.toList.getLast? = some '/' then
    String.ofList issuer.toList.dropLast
  else issuer

def discoveryRequest (issuer : String) : SdkRequest :=
  ⟨.str (withoutSlash issuer ++ "/.well-known/openid-configuration"), none⟩

/-- `if (!cache) { cache = await load(); } return cache;`. -/
def cached (read : SdkState → Option Json)
    (write : Json → SdkState → SdkState) (load : Sdk Json) : Sdk Json := do
  match (← observe read).filter fun json => isTruthy (some json) with
  | some json => pure json
  | none =>
      let json ← load
      change (write json)
      pure json

def cachedDiscovery (issuer : String) : Sdk Json :=
  cached SdkState.discoveryCache
    (fun json st => { st with discoveryCache := some json })
    (fetchJson fetch (discoveryRequest issuer))

def cachedJwks (load : Sdk Json) : Sdk Json :=
  cached SdkState.jwksCache
    (fun json st => { st with jwksCache := some json }) load

/-- The keys of the URI in the discovery document. -/
def discoveredJwks (getDiscovery : Sdk Json) : Sdk Json := do
  let discovery ← getDiscovery
  let jwksUri ← ofExcept (property discovery "jwks_uri")
  fetchJson fetch ⟨jwksUri.getD .null, none⟩

end Requests

namespace ServerSdkClient

variable (env : SdkEnv)

def request : SdkRequest → Sdk (Except SdkError Json) :=
  sendRequest env.fetch

def requestJson : SdkRequest → Sdk Json := fetchJson env.fetch

def postFormVoid (url : Json) (body : List (String × String)) :
    Sdk Unit := do
  let _ ← request env
    ⟨url, some ⟨basicAuthorization env.clientId env.clientSecret, body⟩⟩

def getDiscovery : Sdk Json := cachedDiscovery env.fetch env.issuer

def getJwks : Sdk Json :=
  cachedJwks (discoveredJwks env.fetch (getDiscovery env))

structure TokenInput where
  token : String
  tokenTypeHint : Option String

def TokenInput.body (input : TokenInput) : List (String × String) :=
  match orNull input.tokenTypeHint with
  | none => [("token", input.token)]
  | some hint => [("token", input.token), ("token_type_hint", hint)]

def revokeToken (input : TokenInput) : Sdk Unit := do
  let discovery ← getDiscovery env
  let endpoint ← ofExcept (property discovery "revocation_endpoint")
  if isTruthy endpoint then
    postFormVoid env (endpoint.getD .null) input.body
  else sdkFail "oidc_unsupported" "Token revocation is not supported"

structure LogoutUrlInput where
  postLogoutRedirectUri : Option String
  idTokenHint : Option String
  state : Option String

/-- `if (value) { url.searchParams.set(name, value); }`. -/
def setParam (name : String) (value : Option String) (url : String) :
    String :=
  match orNull value with
  | none => url
  | some value => env.searchParamsSet url name value

def createLogoutUrl (input : LogoutUrlInput) : Sdk String := do
  let discovery ← getDiscovery env
  let endpoint ← ofExcept (property discovery "end_session_endpoint")
  if isTruthy endpoint then
    let url ← ofExcept (env.newUrl (endpoint.getD .null))
    pure
      (setParam env "state" input.state
        (setParam env "id_token_hint" input.idTokenHint
          (setParam env "post_logout_redirect_uri"
            input.postLogoutRedirectUri url)))
  else sdkFail "oidc_unsupported" "Logout is not supported"

end ServerSdkClient

end IdProvider
