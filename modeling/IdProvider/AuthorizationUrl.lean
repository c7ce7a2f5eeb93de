/-
The SDK's authorization request, as the provider reads it from the URL, and the
token request that proves who made it.
-/
import IdProvider.BffSession
import IdProvider.CallbackIdentity
import IdProvider.SearchParams

namespace IdProvider

open JsonText ServiceCall SearchParams

/-! ## The request -/

/-- What `randomBytes(32)` gives. -/
structure RandomDraw where
  bytes : List UInt8
  length : bytes.length = 32

def randomToken (draw : RandomDraw) : String :=
  String.ofList (BffSession.base64Url draw.bytes)

/-- The client with SHA-256; `parseUrl` is `new URL(value)`. -/
structure AuthorizationEnv extends CallbackEnv where
  sha256 : List UInt8 → List UInt8
  digest_length : ∀ message, (sha256 message).length = 32
  parseUrl : Json → Except SdkError Url

structure AuthorizationUrlInput where
  redirectUri : String
  scope : Option (List String)
  state : Option String
  nonce : Option String

structure AuthorizationDraw where
  state : RandomDraw
  nonce : RandomDraw
  codeVerifier : RandomDraw

/-- The URL is ASCII. -/
structure AuthorizationUrl where
  url : List UInt8
  state : String
  nonce : String
  codeVerifier : String
  deriving DecidableEq

namespace ServerSdkClient

variable (env : AuthorizationEnv)

def sha256Base64Url (value : String) : String :=
  String.ofList
    (BffSession.base64Url (env.sha256 (Utf8.encode value.toList)))

def authorizationParams (input : AuthorizationUrlInput)
    (state nonce codeVerifier : String) : List FormUrlencoded.Pair :=
  [textPair "client_id" env.clientId, textPair "response_type" "code",
    textPair "redirect_uri" input.redirectUri,
    textPair "scope"
      (" ".intercalate (input.scope.getD ["openid", "profile", "email"])),
    textPair "state" state, textPair "nonce" nonce,
    textPair "code_challenge" (sha256Base64Url env codeVerifier),
    textPair "code_challenge_method" "S256"]

def createAuthorizationUrl (input : AuthorizationUrlInput)
    (draw : AuthorizationDraw) : Sdk AuthorizationUrl := do
  let discovery ← getDiscovery env.toSdkEnv
  let state := input.state.getD (randomToken draw.state)
  let nonce := input.nonce.getD (randomToken draw.nonce)
  let codeVerifier := randomToken draw.codeVerifier
  let endpoint ← ofExcept (property discovery "authorization_endpoint")
  let url ← ofExcept (env.parseUrl (endpoint.getD .null))
  pure
    { url :=
        (url.withParams (authorizationParams env input state nonce
          codeVerifier)).toBytes
      state := state
      nonce := nonce
      codeVerifier := codeVerifier }

/-- The body that `postForm` sends. -/
def postedForm (post : SdkPost) : List UInt8 :=
  FormUrlencoded.serialize
    (post.body.map fun field => textPair field.1 field.2)

/-- The token request for a code. -/
def exchangeRequest (endpoint : Json) (callback : CallbackInput)
    (code : String) : SdkRequest :=
  ⟨endpoint, some
    { authorization := basicAuthorization env.clientId env.clientSecret
      body :=
        [("grant_type", "authorization_code"), ("code", code),
          ("redirect_uri", callback.redirectUri),
          ("code_verifier", callback.codeVerifier)] }⟩

/-! ## Tokens of the client -/

/-- A code verifier that servers accept. -/
structure IsCodeVerifier (text : String) : Prop where
  length : 43 ≤ text.toList.length ∧ text.toList.length ≤ 128
  unreserved : ∀ c ∈ text.toList, c.isAlphanum = true ∨ c ∈ ['-', '.', '_', '~']

theorem urlDigit_unreserved : ∀ value : Base64.Sextet,
    (Base64.urlDigit value).isAlphanum = true ∨
      Base64.urlDigit value ∈ ['-', '.', '_', '~'] := by
  decide +kernel

theorem randomToken_isCodeVerifier (draw : RandomDraw) :
    IsCodeVerifier (randomToken draw) := by
  have hlength : (Base64.url draw.bytes).length = 43 := by
    rw [Base64.url, List.length_map, Base64.length_sextets, draw.length]
  rw [randomToken, BffSession.base64Url_eq]
  refine ⟨?_, ?_⟩
  · rw [String.toList_ofList, hlength]
    decide
  · intro c hc
    rw [String.toList_ofList] at hc
    obtain ⟨value, -, rfl⟩ := List.mem_map.mp hc
    exact urlDigit_unreserved value

/-! ## What the provider reads -/

variable {env}

theorem ofExcept_ok_iff {Value : Type} {result : Except SdkError Value}
    {st after : SdkState} {value : Value} :
    ofExcept result st = (.ok value, after) ↔
      result = .ok value ∧ after = st := by
  rw [ofExcept, Prod.mk.injEq]
  exact and_congr_right fun _ => eq_comm

theorem createAuthorizationUrl_ok {input : AuthorizationUrlInput}
    {draw : AuthorizationDraw} {st after : SdkState}
    {result : AuthorizationUrl} :
    createAuthorizationUrl env input draw st = (.ok result, after) ↔
      ∃ discovery endpoint url,
        getDiscovery env.toSdkEnv st = (.ok discovery, after) ∧
          property discovery "authorization_endpoint" = .ok endpoint ∧
          env.parseUrl (endpoint.getD .null) = .ok url ∧
          result =
            { url := (url.withParams (authorizationParams env input
                (input.state.getD (randomToken draw.state))
                (input.nonce.getD (randomToken draw.nonce))
                (randomToken draw.codeVerifier))).toBytes
              state := input.state.getD (randomToken draw.state)
              nonce := input.nonce.getD (randomToken draw.nonce)
              codeVerifier := randomToken draw.codeVerifier } := by
  rw [createAuthorizationUrl]
  constructor
  · intro hresult
    obtain ⟨discovery, found, hfound, hparsed⟩ := bind_ok_iff.mp hresult
    obtain ⟨endpoint, named, hnamed, hbuilt⟩ := bind_ok_iff.mp hparsed
    obtain ⟨url, parsed, hurl, hpure⟩ := bind_ok_iff.mp hbuilt
    rw [ofExcept_ok_iff] at hnamed hurl
    cases hnamed.2
    cases hurl.2
    cases hpure
    exact ⟨discovery, endpoint, url, hfound, hnamed.1, hurl.1, rfl⟩
  · rintro ⟨discovery, endpoint, url, hfound, hendpoint, hurl, rfl⟩
    rw [bind_ok hfound, bind_ok (ofExcept_ok_iff.mpr ⟨hendpoint, rfl⟩),
      bind_ok (ofExcept_ok_iff.mpr ⟨hurl, rfl⟩)]
    rfl

theorem authorizationParams_names (input : AuthorizationUrlInput)
    (state nonce codeVerifier : String) :
    ((authorizationParams env input state nonce codeVerifier).map
      Prod.fst).Nodup := by
  have hnames : ["client_id", "response_type", "redirect_uri", "scope",
      "state", "nonce", "code_challenge", "code_challenge_method"].Nodup := by
    decide
  have hmapped := hnames.map (f := String.toList) fun _ _ hsame =>
    String.toList_injective hsame
  exact hmapped

/-- The form of a token request, as it is read. -/
theorem parse_postedForm (post : SdkPost) :
    FormUrlencoded.parse (postedForm post) =
      post.body.map fun field => textPair field.1 field.2 :=
  FormUrlencoded.parse_serialize _

theorem fetchJson_ok
    {fetch : List SdkRequest → SdkRequest → FetchOutcome}
    {request : SdkRequest} {response : Json} {st after : SdkState}
    (hresponse : fetchJson fetch request st = (.ok response, after)) :
    (fetch st.requests request).read = .ok (.ok response) ∧
      after = { st with requests := st.requests ++ [request] } := by
  obtain ⟨json, sent, hsent, hjson⟩ := bind_ok_iff.mp hresponse
  rw [sendRequest, Prod.mk.injEq] at hsent
  rw [ofExcept_ok_iff] at hjson
  exact ⟨hsent.1.trans (congrArg Except.ok hjson.1),
    hjson.2.trans hsent.2.symm⟩

/-- A code is exchanged by the last request, which goes to the endpoint of the
discovery document and carries the verifier. -/
theorem exchangeCode_ok {callback : CallbackInput} {code : String}
    {tokens : TokenSet} {st after : SdkState}
    (htokens : exchangeCode env.toCallbackEnv callback code st =
      (.ok tokens, after)) :
    ∃ discovery endpoint response, ∃ found : SdkState,
      getDiscovery env.toSdkEnv st = (.ok discovery, found) ∧
      property discovery "token_endpoint" = .ok endpoint ∧
      (env.fetch found.requests
          (exchangeRequest env (endpoint.getD .null) callback code)).read =
        .ok (.ok response) ∧
      tokenSet env.numbers response = .ok tokens ∧
      after.requests = found.requests ++
        [exchangeRequest env (endpoint.getD .null) callback code] := by
  obtain ⟨discovery, found, hfound, hnamed⟩ := bind_ok_iff.mp htokens
  obtain ⟨endpoint, named, hendpoint, hsent⟩ := bind_ok_iff.mp hnamed
  obtain ⟨response, sent, hresponse, hread⟩ := bind_ok_iff.mp hsent
  rw [ofExcept_ok_iff] at hendpoint hread
  obtain ⟨hfetch, hrequests⟩ := fetchJson_ok hresponse
  cases hread.2
  cases hendpoint.2
  refine ⟨discovery, endpoint, response, found, hfound, hendpoint.1, hfetch,
    hread.1, ?_⟩
  rw [hrequests]
  rfl

/-- What a provider reads from the authorization URL: at the address of the
endpoint each parameter of the request, once, and besides them only what the
endpoint's URL has under other names. -/
structure ReadAs (url : Url) (params : List FormUrlencoded.Pair)
    (bytes : List UInt8) : Prop where
  address : addressOf bytes = url.base
  asked : ∀ param ∈ params,
    ((FormUrlencoded.parse (queryOf bytes)).filter fun other =>
      other.1 = param.1) = [param]
  others :
    ((FormUrlencoded.parse (queryOf bytes)).filter fun other =>
      other.1 ∉ params.map Prod.fst) =
      url.searchParams.filter fun other => other.1 ∉ params.map Prod.fst

theorem readAs_withParams (url : Url) {params : List FormUrlencoded.Pair}
    (hnames : (params.map Prod.fst).Nodup) :
    ReadAs url params (url.withParams params).toBytes where
  address := addressOf_toBytes _
  asked := (parse_withParams url hnames).1
  others := (parse_withParams url hnames).2

theorem ReadAs.getText_eq {url : Url} {params : List FormUrlencoded.Pair}
    {bytes : List UInt8} (hread : ReadAs url params bytes)
    {name value : String} (hparam : textPair name value ∈ params) :
    getText name (FormUrlencoded.parse (queryOf bytes)) = some value := by
  have hfilter := hread.asked _ hparam
  rw [textPair] at hfilter
  rw [getText, get_eq, hfilter]
  simp

/-- The state and the nonce are those of the caller, if it gave them; what is
missing is drawn, and the verifier always is. -/
structure AnswersInput (input : AuthorizationUrlInput)
    (draw : AuthorizationDraw) (result : AuthorizationUrl) : Prop where
  state : result.state = input.state.getD (randomToken draw.state)
  nonce : result.nonce = input.nonce.getD (randomToken draw.nonce)
  codeVerifier : result.codeVerifier = randomToken draw.codeVerifier

/-- The discovery document, as the client reads or remembers it, names the URL
as its authorization endpoint. -/
def AuthorizationEndpoint (env : AuthorizationEnv) (st after : SdkState)
    (url : Url) : Prop :=
  ∃ discovery endpoint,
    getDiscovery env.toSdkEnv st = (.ok discovery, after) ∧
      property discovery "authorization_endpoint" = .ok endpoint ∧
      env.parseUrl (endpoint.getD .null) = .ok url

/-- The last request of the call is a form for the token endpoint of the
discovery document. -/
def SentToTokenEndpoint (env : AuthorizationEnv) (before last : SdkState)
    (post : SdkPost) : Prop :=
  ∃ discovery endpoint, ∃ found : SdkState,
    getDiscovery env.toSdkEnv before = (.ok discovery, found) ∧
      property discovery "token_endpoint" = .ok endpoint ∧
      last.requests = found.requests ++ [⟨endpoint.getD .null, some post⟩]

/-- The provider reads from the URL what the client was asked for, and a token
request with the verifier is one whose challenge stands in that URL. -/
theorem createAuthorizationUrl_read {input : AuthorizationUrlInput}
    {draw : AuthorizationDraw} {st after : SdkState}
    {result : AuthorizationUrl}
    (hresult : createAuthorizationUrl env input draw st =
      (.ok result, after)) :
    AnswersInput input draw result ∧ IsCodeVerifier result.codeVerifier ∧
      (∃ url, AuthorizationEndpoint env st after url ∧
        ReadAs url (authorizationParams env input result.state result.nonce
          result.codeVerifier) result.url) ∧
      ∀ (callback : CallbackInput) (code : String) (before last : SdkState)
          (tokens : TokenSet),
        callback.codeVerifier = result.codeVerifier →
        callback.redirectUri = input.redirectUri →
        exchangeCode env.toCallbackEnv callback code before =
          (.ok tokens, last) →
        ∃ post, SentToTokenEndpoint env before last post ∧
          let asked := FormUrlencoded.parse (queryOf result.url)
          let posted := FormUrlencoded.parse (postedForm post)
          getText "code" posted = some code ∧
            getText "redirect_uri" posted = getText "redirect_uri" asked ∧
            (getText "code_verifier" posted).map (sha256Base64Url env) =
              getText "code_challenge" asked ∧
            getText "code_challenge_method" asked = some "S256" := by
  obtain ⟨discovery, endpoint, url, hfound, hendpoint, hurl, rfl⟩ :=
    createAuthorizationUrl_ok.mp hresult
  have hread := readAs_withParams url (authorizationParams_names input
    (input.state.getD (randomToken draw.state))
    (input.nonce.getD (randomToken draw.nonce))
    (randomToken draw.codeVerifier) : ((authorizationParams env input _ _
      _).map Prod.fst).Nodup)
  have hasked : ∀ name value, textPair name value ∈ authorizationParams env
      input (input.state.getD (randomToken draw.state))
      (input.nonce.getD (randomToken draw.nonce))
      (randomToken draw.codeVerifier) →
      getText name (FormUrlencoded.parse (queryOf _)) = some value :=
    fun name value => hread.getText_eq
  refine ⟨⟨rfl, rfl, rfl⟩, randomToken_isCodeVerifier draw.codeVerifier,
    ⟨url, ⟨discovery, endpoint, hfound, hendpoint, hurl⟩, hread⟩, ?_⟩
  intro callback code before last tokens hverifier hredirect htokens
  obtain ⟨document, target, response, found, hdocument, htarget, -, -, hsent⟩ :=
    exchangeCode_ok htokens
  refine ⟨_, ⟨document, target, found, hdocument, htarget, hsent⟩, ?_⟩
  dsimp only at hverifier ⊢
  rw [parse_postedForm, getText_map, getText_map, getText_map,
    hasked "redirect_uri" input.redirectUri (by simp [authorizationParams]),
    hasked "code_challenge"
      (sha256Base64Url env (randomToken draw.codeVerifier))
      (by simp [authorizationParams]),
    hasked "code_challenge_method" "S256" (by simp [authorizationParams])]
  refine ⟨rfl, ?_, ?_, rfl⟩
  · exact congrArg some hredirect
  · exact congrArg (fun verifier => some (sha256Base64Url env verifier))
      hverifier

end ServerSdkClient

namespace AuthorizationWitness

open ServerSdkClient

def endpoint : Json := .str "https://id.example/authorize?tenant=a%26b#top"

def discovery : Json := .obj
  [("issuer", .str "https://id.example"), ("authorization_endpoint", endpoint),
    ("token_endpoint", .str "https://id.example/token")]

/-- The endpoint's URL has a parameter of its own. -/
def url : Url where
  base := Utf8.encode "https://id.example/authorize".toList
  query := Utf8.encode "tenant=a%26b".toList
  fragment := some (Utf8.encode "top".toList)
  question_not_mem := by decide +kernel
  hash_not_mem := by decide +kernel

def env : AuthorizationEnv where
  issuer := "https://id.example"
  clientId := "app"
  clientSecret := "secret"
  numbers := .ofTexts
  fetch := fun _ _ => .response 200 (.ok discovery)
  newUrl := fun _ => .error (.error "Invalid URL")
  searchParamsSet := fun url _ _ => url
  verifySignature := fun _ _ _ => .ok true
  fetchUserInfo := fun _ _ _ => .timedOut
  sha256 := fun message => (message ++ List.replicate 32 0).take 32
  digest_length := fun message => by simp
  parseUrl := fun value =>
    if value = endpoint then .ok url else .error (.error "Invalid URL")

def draw : AuthorizationDraw :=
  ⟨⟨List.replicate 32 1, rfl⟩, ⟨List.replicate 32 2, rfl⟩,
    ⟨List.replicate 32 3, rfl⟩⟩

def input : AuthorizationUrlInput :=
  ⟨"https://app.example/callback", none, some "a&b=c", none⟩

def result : AuthorizationUrl where
  url :=
    (url.withParams (authorizationParams env input "a&b=c"
      (randomToken draw.nonce) (randomToken draw.codeVerifier))).toBytes
  state := "a&b=c"
  nonce := randomToken draw.nonce
  codeVerifier := randomToken draw.codeVerifier

theorem createAuthorizationUrl_read_tenant :
    AnswersInput input draw result ∧ IsCodeVerifier result.codeVerifier ∧
      (∃ url, AuthorizationEndpoint env .fresh
          ⟨some discovery, none, [discoveryRequest env.issuer]⟩ url ∧
        ReadAs url (authorizationParams env input result.state result.nonce
          result.codeVerifier) result.url) ∧
      ∀ (callback : CallbackInput) (code : String) (before last : SdkState)
          (tokens : TokenSet),
        callback.codeVerifier = result.codeVerifier →
        callback.redirectUri = input.redirectUri →
        exchangeCode env.toCallbackEnv callback code before =
          (.ok tokens, last) →
        ∃ post, SentToTokenEndpoint env before last post ∧
          let asked := FormUrlencoded.parse (queryOf result.url)
          let posted := FormUrlencoded.parse (postedForm post)
          getText "code" posted = some code ∧
            getText "redirect_uri" posted = getText "redirect_uri" asked ∧
            (getText "code_verifier" posted).map (sha256Base64Url env) =
              getText "code_challenge" asked ∧
            getText "code_challenge_method" asked = some "S256" := by
  have hdiscovery : getDiscovery env.toSdkEnv .fresh =
      (.ok discovery, ⟨some discovery, none,
        [discoveryRequest env.issuer]⟩) := rfl
  have hurl : env.parseUrl endpoint = .ok url := by simp [env]
  exact createAuthorizationUrl_read (createAuthorizationUrl_ok.mpr
    ⟨discovery, some endpoint, url, hdiscovery, rfl, hurl, rfl⟩)

end AuthorizationWitness

end IdProvider
