/-
Signing in at the example backend through the provider, with any number of
browsers, some of which try the codes and cookies of others.
-/
import IdProvider.AuthorizationUrl
import IdProvider.BffApp

namespace IdProvider

open JsonText BffSession SearchParams ServiceCall

/-! ## The provider -/

/-- What the provider remembers of a code; PKCE is required. -/
structure CodeGrant where
  clientId : String
  redirectUri : String
  codeChallenge : String
  nonce : Option String
  account : String
  deriving DecidableEq

/-- The provider's side of the token endpoint: which of the codes a request
uses up when some are spent, the tokens for it, the refusal of a request that
uses none, and the documents. -/
structure ProviderEnv where
  redeem : List (String × CodeGrant) → List String → SdkPost →
    Option (String × CodeGrant)
  tokenResponse : CodeGrant → Json
  refusal : Json
  document : SdkRequest → FetchOutcome

structure SignInEnv where
  bff : BffEnv
  sdk : AuthorizationEnv
  provider : ProviderEnv
  callbackUrl : String
  identityJson : SessionIdentity → Json

/-- A login that was started: where it sent the browser, and its cookie. -/
structure StartedLogin where
  browser : Nat
  url : List UInt8
  pending : PendingOidcState
  deriving DecidableEq

/-- A session that a callback opened, and by which code and state. -/
structure SignIn where
  browser : Nat
  code : String
  state : String
  identity : SessionIdentity
  session : LocalSession
  deriving DecidableEq

structure SignInState where
  sdk : SdkState
  logins : List StartedLogin
  codes : List (String × CodeGrant)
  spent : List String
  signIns : List SignIn
  deriving DecidableEq

def SignInState.init : SignInState := ⟨.fresh, [], [], [], []⟩

inductive SignInAction where
  | login (browser : Nat) (draw : AuthorizationDraw) (now : Instant)
      (lost : SdkRequest → Bool)
  | authorize (code : String) (grant : CodeGrant)
  | callback (browser : Nat) (cookieHeader : Option (List Char))
      (code state : Option String) (now verifiedAt issuedAt : Instant)
      (lost : SdkRequest → Bool)

namespace SignInEnv

variable (env : SignInEnv) (st : SignInState)

def challengeOf (login : StartedLogin) : String :=
  ServerSdkClient.sha256Base64Url env.sdk login.pending.codeVerifier

/-- A token request presents the code of an entry as its grant demands. -/
structure InOrder (spent : List String) (entry : String × CodeGrant)
    (post : SdkPost) : Prop where
  code : getText "code" (FormUrlencoded.parse
    (ServerSdkClient.postedForm post)) = some entry.1
  unspent : entry.1 ∉ spent
  redirectUri : getText "redirect_uri" (FormUrlencoded.parse
    (ServerSdkClient.postedForm post)) = some entry.2.redirectUri
  codeVerifier : (getText "code_verifier" (FormUrlencoded.parse
      (ServerSdkClient.postedForm post))).map
        (ServerSdkClient.sha256Base64Url env.sdk) =
    some entry.2.codeChallenge

def redeem (post : SdkPost) : Option (String × CodeGrant) :=
  env.provider.redeem st.codes st.spent post

/-- What the backend's requests come to; the client posts to the token endpoint
alone. -/
def answer (lost : SdkRequest → Bool) (request : SdkRequest) : FetchOutcome :=
  if lost request then .timedOut
  else
    match request.post with
    | none => env.provider.document request
    | some post =>
        match env.redeem st post with
        | some entry => .response 200 (.ok (env.provider.tokenResponse entry.2))
        | none => .response 400 (.ok env.provider.refusal)

/-- The backend's client while the provider is in this state. -/
def client (lost : SdkRequest → Bool) : AuthorizationEnv :=
  { env.sdk with fetch := fun _ request => env.answer st lost request }

/-- The codes that the requests use up, also those of lost answers. -/
def redeemed (requests : List SdkRequest) : List String :=
  requests.filterMap fun request =>
    (request.post.bind (env.redeem st)).map Prod.fst

/-! ## The backend -/

/-- The requests of a call are counted from its start. -/
def recalled : SdkState := { st.sdk with requests := [] }

def loginInput : AuthorizationUrlInput :=
  ⟨env.callbackUrl, some ["openid", "profile", "email"], none, none⟩

/-- What the callback passes on of its cookie; sealed values have these fields
as texts or not at all. -/
def callbackInput (pending : Json) (code state : Option String) :
    Option CallbackInput :=
  match textOf (pending.get? "state"), textOf (pending.get? "codeVerifier")
  with
  | some expectedState, some codeVerifier =>
      some
        { code := code
          state := state
          expectedState := expectedState
          expectedNonce := textOf (pending.get? "nonce")
          redirectUri := env.callbackUrl
          codeVerifier := codeVerifier
          fetchUserInfo := true }
  | _, _ => none

/-- What a callback with the cookie of a login passes on. -/
def inputOf (login : StartedLogin) (code state : Option String) :
    CallbackInput where
  code := code
  state := state
  expectedState := login.pending.state
  expectedNonce := some login.pending.nonce
  redirectUri := env.callbackUrl
  codeVerifier := login.pending.codeVerifier
  fetchUserInfo := true

/-- What the callback passes on, if its cookie opens and is not too old. -/
def callbackOf (cookieHeader : Option (List Char))
    (code state : Option String) (now : Instant) : Option CallbackInput :=
  match unsealValue env.bff
      (cookie (parseCookies cookieHeader) oauthStateCookieName) with
  | none => none
  | some pending =>
      if pending = .null then none
      else if BffApp.olderThan env.bff (pending.get? "createdAt") now
          (5 * 60 * 1000) ≠ some false then none
      else env.callbackInput pending code state

/-- The payloads of the cookies that a browser was given. -/
def payloadsOf (browser : Nat) : List (List Char) :=
  ((st.logins.filter fun login => login.browser = browser).map
      fun login => sealPayload login.pending.toJson) ++
    (st.signIns.filter fun signIn => signIn.browser = browser).map
      fun signIn => sealPayload signIn.session.toJson

/-- A browser has no signatures but those it was given. -/
def presents (browser : Nat) (cookieHeader : Option (List Char)) : Bool :=
  match cookie (parseCookies cookieHeader) oauthStateCookieName with
  | none => true
  | some value =>
      match value.splitOn '.' with
      | payload :: signature :: _ =>
          signature != sign env.bff payload ||
            (payloadsOf st browser).contains payload
      | _ => true

/-! ## Steps -/

/-- `GET /login`. -/
def startLogin (browser : Nat) (draw : AuthorizationDraw) (now : Instant)
    (lost : SdkRequest → Bool) : SignInState :=
  match ServerSdkClient.createAuthorizationUrl (env.client st lost)
      env.loginInput draw (recalled st) with
  | (.error _, sdk) => { st with sdk := sdk }
  | (.ok auth, sdk) =>
      { st with
        sdk := sdk
        logins :=
          ⟨browser, auth.url,
              ⟨auth.state, auth.nonce, auth.codeVerifier, now⟩⟩ :: st.logins }

/-- The provider gives a code to someone who is signed in there, for whatever
request; codes are new. -/
def authorize (code : String) (grant : CodeGrant) : Option SignInState :=
  if code ∈ st.codes.map Prod.fst then none
  else some { st with codes := (code, grant) :: st.codes }

/-- The state after the client's call of a callback. -/
def called (result : Except SdkError CallbackResult × SdkState)
    (browser : Nat) (input : CallbackInput) (issuedAt : Instant) :
    SignInState :=
  let spent :=
    { st with
      sdk := result.2
      spent := env.redeemed st result.2.requests ++ st.spent }
  match result.1 with
  | .error _ => spent
  | .ok result =>
      { spent with
        signIns :=
          ⟨browser, input.code.getD "", input.state.getD "",
            result.sessionIdentity,
            BffApp.localSession env.bff
              (env.identityJson result.sessionIdentity) issuedAt⟩ ::
            st.signIns }

def step : SignInAction → Option SignInState
  | .login browser draw now lost =>
      some (env.startLogin st browser draw now lost)
  | .authorize code grant => authorize st code grant
  | .callback browser cookieHeader code state now verifiedAt issuedAt lost =>
      if env.presents st browser cookieHeader then
        match env.callbackOf cookieHeader code state now with
        | none => some st
        | some input =>
            some
              (env.called st
                (ServerSdkClient.completeAuthorizationCodeCallback
                  (env.client st lost).toCallbackEnv verifiedAt input
                  (recalled st)) browser input issuedAt)
      else none

end SignInEnv

/-! ## The client's call -/

section Calls

variable {now : Instant} {st last : SdkState}

theorem checkIdClaims_ok {numbers : NumberRuntime} {clientId : String}
    {discovery claims : Json} {nonce : Option String}
    {verified : VerifiedIdToken}
    (hok : checkIdClaims numbers clientId now discovery nonce claims =
      .ok verified) :
    claims.get? "sub" = some (.str verified.sub) ∧
      ∀ expected, orNull nonce = some expected →
        claims.get? "nonce" = some (.str expected) := by
  unfold checkIdClaims at hok
  cases hiss : property claims "iss" with
  | error error =>
      rw [hiss] at hok
      cases hok
  | ok iss =>
  cases hissuer : property discovery "issuer" with
  | error error =>
      rw [hiss, hissuer] at hok
      cases hok
  | ok issuer =>
  rw [hiss, hissuer] at hok
  change (if strictEquals numbers iss issuer = false then _ else _) = _ at hok
  split at hok
  case isTrue => cases hok
  case isFalse =>
  split at hok
  case isTrue => cases hok
  case isFalse =>
  split at hok
  case isTrue => cases hok
  case isFalse =>
  split at hok
  case isTrue => cases hok
  case isFalse =>
  split at hok
  case isTrue => cases hok
  case isFalse hnonce =>
  split at hok
  case h_2 => cases hok
  case h_1 sub hsub =>
  cases hok
  refine ⟨hsub, fun expected hexpected => ?_⟩
  rw [hexpected, Option.any_some, decide_eq_true_iff] at hnonce
  exact not_not.mp hnonce

theorem verifyIdToken_ok {env : SdkEnv} {verifySignature : VerifySignature}
    {input : IdTokenInput} {verified : VerifiedIdToken}
    (hok : ServerSdkClient.verifyIdToken env verifySignature now input st =
      (.ok verified, last)) :
    ∃ parsed, parseToken idTokenErrors input.idToken = .ok parsed ∧
      parsed.claims.get? "sub" = some (.str verified.sub) ∧
      ∀ expected, orNull input.nonce = some expected →
        parsed.claims.get? "nonce" = some (.str expected) := by
  obtain ⟨discovery, found, -, hfound⟩ := bind_ok_iff.mp hok
  obtain ⟨parsed, _, hparsed, hread⟩ := bind_ok_iff.mp hfound
  obtain ⟨jwks, loaded, -, hloaded⟩ := bind_ok_iff.mp hread
  obtain ⟨_, checked, -, hchecked⟩ := bind_ok_iff.mp hloaded
  rw [ServerSdkClient.ofExcept_ok_iff] at hparsed hchecked
  exact ⟨parsed, hparsed.1, checkIdClaims_ok hchecked.1⟩

/-! ### Requests -/

/-- What was requested stays so, and no other requests are made than these. -/
structure Sends (Allowed : SdkRequest → Prop) (before after : SdkState) :
    Prop where
  kept : before.requests ⊆ after.requests
  sent : ∀ request ∈ after.requests,
    request ∈ before.requests ∨ Allowed request

section Sends

variable {Allowed : SdkRequest → Prop}

instance : IsPreorder SdkState (Sends Allowed) where
  refl _ := ⟨List.Subset.refl _, fun _ hrequest => .inl hrequest⟩
  trans _ _ _ hfirst hsecond :=
    ⟨List.Subset.trans hfirst.kept hsecond.kept, fun request hrequest =>
      (hsecond.sent request hrequest).elim (hfirst.sent request) .inr⟩

theorem sends_of_requests {before after : SdkState}
    (hsame : after.requests = before.requests) :
    Sends Allowed before after := by
  refine ⟨?_, fun request hrequest => .inl ?_⟩
  · rw [hsame]
    exact List.Subset.refl _
  · rw [← hsame]
    exact hrequest

theorem relates_ofExcept {Value : Type} (result : Except SdkError Value) :
    Relates (Sends Allowed) (ofExcept result) := refl_of (Sends Allowed)

theorem relates_fetchJson
    (fetch : List SdkRequest → SdkRequest → FetchOutcome)
    {request : SdkRequest} (hallowed : Allowed request) :
    Relates (Sends Allowed) (fetchJson fetch request) := by
  apply Relates.bind
  · intro st
    refine ⟨List.subset_append_left _ _, fun other hother => ?_⟩
    rcases List.mem_append.mp hother with hbefore | hsent
    · exact .inl hbefore
    · rw [List.mem_singleton.mp hsent]
      exact .inr hallowed
  · exact relates_ofExcept

theorem relates_cached (read : SdkState → Option Json)
    {write : Json → SdkState → SdkState}
    (hwrite : ∀ json st, (write json st).requests = st.requests)
    {load : Sdk Json} (hload : Relates (Sends Allowed) load) :
    Relates (Sends Allowed) (cached read write load) := by
  apply Relates.bind
  · exact refl_of (Sends Allowed)
  · intro found
    split
    · exact relates_pure _
    · apply Relates.bind hload
      intro json
      apply Relates.bind
      · exact (keeps_change (hwrite json)).relates
          fun _ _ => sends_of_requests
      · exact fun _ => relates_pure _

variable (hdocuments : ∀ request, request.post = none → Allowed request)
include hdocuments

theorem relates_getDiscovery (env : SdkEnv) :
    Relates (Sends Allowed) (ServerSdkClient.getDiscovery env) := by
  apply relates_cached
  · exact fun _ _ => rfl
  · exact relates_fetchJson _ (hdocuments _ rfl)

theorem relates_getJwks (env : SdkEnv) :
    Relates (Sends Allowed) (ServerSdkClient.getJwks env) := by
  apply relates_cached
  · exact fun _ _ => rfl
  · apply Relates.bind (relates_getDiscovery hdocuments env)
    intro discovery
    apply Relates.bind (relates_ofExcept _)
    exact fun jwksUri => relates_fetchJson _ (hdocuments _ rfl)

theorem relates_verifyIdToken (env : SdkEnv)
    (verifySignature : VerifySignature) (input : IdTokenInput) :
    Relates (Sends Allowed)
      (ServerSdkClient.verifyIdToken env verifySignature now input) := by
  apply Relates.bind (relates_getDiscovery hdocuments env)
  intro discovery
  apply Relates.bind (relates_ofExcept _)
  intro parsed
  apply Relates.bind (relates_getJwks hdocuments env)
  intro jwks
  apply Relates.bind (relates_ofExcept _)
  exact fun _ => relates_ofExcept _

theorem relates_getUserInfo (env : CallbackEnv) (accessToken : String) :
    Relates (Sends Allowed)
      (ServerSdkClient.getUserInfo env accessToken) := by
  apply Relates.bind (relates_getDiscovery hdocuments env.toSdkEnv)
  intro discovery
  apply Relates.bind (relates_ofExcept _)
  intro endpoint
  apply relates_ite
  · exact relates_fetchJson _ (hdocuments _ rfl)
  · exact relates_fail _

/-- Token requests carry the verifier of the callback. -/
def CarriesVerifier (input : CallbackInput) (request : SdkRequest) : Prop :=
  ∀ post, request.post = some post →
    getText "code_verifier"
      (FormUrlencoded.parse (ServerSdkClient.postedForm post)) =
        some input.codeVerifier

end Sends

theorem relates_completeAuthorizationCodeCallback (env : CallbackEnv)
    (input : CallbackInput) :
    Relates (Sends (CarriesVerifier input))
      (ServerSdkClient.completeAuthorizationCodeCallback env now input) := by
  have hdocuments : ∀ request : SdkRequest, request.post = none →
      CarriesVerifier input request := by
    intro request hnone post hpost
    rw [hnone] at hpost
    cases hpost
  rw [ServerSdkClient.completeAuthorizationCodeCallback]
  split
  · exact relates_fail _
  · apply relates_ite
    · exact relates_fail _
    apply Relates.bind
    · apply Relates.bind (relates_getDiscovery hdocuments env.toSdkEnv)
      intro discovery
      apply Relates.bind (relates_ofExcept _)
      intro endpoint
      apply Relates.bind
      · apply relates_fetchJson
        intro post hpost
        cases hpost
        rw [ServerSdkClient.parse_postedForm, getText_map]
        rfl
      · exact fun response => relates_ofExcept _
    · intro tokens
      apply Relates.bind (relates_verifyIdToken hdocuments env.toSdkEnv _ _)
      intro idToken
      apply relates_ite
      · apply Relates.bind (relates_getUserInfo hdocuments env _)
        exact fun userInfo => relates_pure _
      · exact relates_pure _

/-- A call that ends well exchanged its code and read the subject from the ID
token. -/
theorem completeAuthorizationCodeCallback_exchanged {env : CallbackEnv}
    {input : CallbackInput} {result : CallbackResult}
    (hwanted : input.fetchUserInfo = true)
    (hresult : ServerSdkClient.completeAuthorizationCodeCallback env now input
      st = (.ok result, last)) :
    ∃ code tokens exchanged parsed, orNull input.code = some code ∧
      orNull input.state = some input.expectedState ∧
      ServerSdkClient.exchangeCode env input code st =
        (.ok tokens, exchanged) ∧
      exchanged.requests ⊆ last.requests ∧
      parseToken idTokenErrors tokens.idToken = .ok parsed ∧
      parsed.claims.get? "sub" = some (.str result.sessionIdentity.userId) ∧
      ∀ expected, orNull input.expectedNonce = some expected →
        parsed.claims.get? "nonce" = some (.str expected) := by
  rw [ServerSdkClient.completeAuthorizationCodeCallback] at hresult
  cases hcode : orNull input.code with
  | none =>
      rw [hcode] at hresult
      cases hresult
  | some code =>
  rw [hcode] at hresult
  change (if orNull input.state ≠ some input.expectedState then _ else _ :
    Sdk CallbackResult) st = _ at hresult
  by_cases hstate : orNull input.state = some input.expectedState
  · rw [if_neg (not_not_intro hstate)] at hresult
    obtain ⟨tokens, exchanged, htokens, hverify⟩ := bind_ok_iff.mp hresult
    obtain ⟨idToken, verified, hverified, hfinish⟩ := bind_ok_iff.mp hverify
    rw [if_pos hwanted] at hfinish
    obtain ⟨info, fetched, hinfo, hdone⟩ := bind_ok_iff.mp hfinish
    cases hdone
    obtain ⟨parsed, hparsed, hsub, hnonce⟩ := verifyIdToken_ok hverified
    have hdocuments : ∀ request : SdkRequest, request.post = none → True :=
      fun _ _ => trivial
    have hkept := @relates_verifyIdToken now _ hdocuments env.toSdkEnv
      env.verifySignature ⟨tokens.idToken, orNull input.expectedNonce⟩
      exchanged
    have hmore := relates_getUserInfo hdocuments env tokens.accessToken
      verified
    rw [hverified] at hkept
    rw [hinfo] at hmore
    refine ⟨code, tokens, exchanged, parsed, rfl, hstate, htokens,
      List.Subset.trans hkept.kept hmore.kept, hparsed, hsub, ?_⟩
    intro expected hexpected
    apply hnonce
    rw [hexpected, orNull_some, if_neg (orNull_eq_some hexpected).2]
  · rw [if_pos hstate] at hresult
    cases hresult

end Calls

end IdProvider
