/-
A browser that signs in at the example backend gets its session, whatever other
browsers do meanwhile.
-/
import IdProvider.BffCookies
import IdProvider.IdTokenChecks
import IdProvider.SignInSafety

namespace IdProvider

open JsonText BffSession SearchParams ServiceCall

/-! ## What the client caches -/

section Caches

variable {docs : IssuerDocuments} {env : SdkEnv} {now : Instant}

/-- Where a document arrives it is the issuer's. -/
structure IssuerDocuments.Serving (docs : IssuerDocuments)
    (fetch : List SdkRequest → SdkRequest → FetchOutcome) (issuer : String) :
    Prop where
  discovery : ∀ requests json,
    (fetch requests (discoveryRequest issuer)).read = .ok (.ok json) →
      json = .obj docs.discovery
  jwks : ∀ requests json,
    (fetch requests ⟨.str docs.jwksUri, none⟩).read = .ok (.ok json) →
      json = .obj docs.jwks

/-- The call leaves the issuer's documents in the caches. -/
def CachesWell (docs : IssuerDocuments) {Value : Type} (call : Sdk Value)
    (returns : Value → Prop) : Prop :=
  ∀ st, docs.Cached st → Ensures call (fun outcome after =>
    docs.Cached after ∧ ∀ value, outcome = .ok value → returns value) st

variable {Value Next : Type} {call : Sdk Value} {next : Value → Sdk Next}
  {returns : Value → Prop} {result : Next → Prop}

theorem CachesWell.bind (hcall : CachesWell docs call returns)
    (hnext : ∀ value, returns value → CachesWell docs (next value) result) :
    CachesWell docs (call >>= next) result := by
  intro st hst
  apply Ensures.bind (hcall st hst)
  · rintro value after ⟨hafter, hvalue⟩
    exact hnext value (hvalue value rfl) after hafter
  · rintro error after ⟨hafter, -⟩
    exact ⟨hafter, fun _ hok => by cases hok⟩

theorem cachesWell_pure {value : Value} (hvalue : returns value) :
    CachesWell docs (pure value) returns := by
  intro st hst
  refine ⟨hst, fun other hother => ?_⟩
  cases hother
  exact hvalue

theorem cachesWell_fail (error : SdkError) :
    CachesWell docs (fail error : Sdk Value) returns :=
  fun _ hst => ⟨hst, fun _ hok => by cases hok⟩

theorem cachesWell_ofExcept {outcome : Except SdkError Value}
    (houtcome : ∀ value, outcome = .ok value → returns value) :
    CachesWell docs (ofExcept outcome) returns :=
  fun _ hst => ⟨hst, houtcome⟩

theorem cachesWell_ite {condition : Prop} [Decidable condition]
    {left right : Sdk Value} (hleft : CachesWell docs left returns)
    (hright : CachesWell docs right returns) :
    CachesWell docs (if condition then left else right) returns := by
  split
  case isTrue => exact hleft
  case isFalse => exact hright

theorem cachesWell_fetchJson
    {fetch : List SdkRequest → SdkRequest → FetchOutcome}
    {request : SdkRequest} {returns : Json → Prop}
    (hfetch : ∀ requests json,
      (fetch requests request).read = .ok (.ok json) → returns json) :
    CachesWell docs (fetchJson fetch request) returns := by
  have hsend : CachesWell docs (sendRequest fetch request)
      fun outcome => ∀ json, outcome = .ok json → returns json := by
    intro st hst
    refine ⟨⟨hst.discovery, hst.jwks⟩, ?_⟩
    rintro outcome houtcome json rfl
    exact hfetch st.requests json houtcome
  exact hsend.bind fun outcome houtcome => cachesWell_ofExcept houtcome

theorem cachesWell_cached {read : SdkState → Option Json}
    {write : Json → SdkState → SdkState} {load : Sdk Json} {document : Json}
    (hread : ∀ st, docs.Cached st → read st = none ∨ read st = some document)
    (hwrite : ∀ st, docs.Cached st → docs.Cached (write document st))
    (hload : CachesWell docs load (· = document)) :
    CachesWell docs (cached read write load) (· = document) := by
  have hobserve : CachesWell docs (observe read : Sdk (Option Json))
      fun found => found = none ∨ found = some document := by
    refine fun st hst => ⟨hst, fun found hfound => ?_⟩
    cases hfound
    exact hread st hst
  refine hobserve.bind fun found hfound => ?_
  split
  case h_1 json hjson =>
    apply cachesWell_pure
    rcases hfound with rfl | rfl
    · cases hjson
    · rw [Option.filter_eq_some_iff] at hjson
      exact (Option.some.inj hjson.1).symm
  case h_2 =>
    refine hload.bind fun json hjson => ?_
    subst hjson
    have hchange : CachesWell docs (change (write json) : Sdk Unit)
        fun _ => True :=
      fun st hst => ⟨hwrite st hst, fun _ _ => trivial⟩
    exact hchange.bind fun _ _ => cachesWell_pure rfl

section Calls

variable (hserving : docs.Serving env.fetch env.issuer)
include hserving

theorem cachesWell_getDiscovery :
    CachesWell docs (ServerSdkClient.getDiscovery env)
      (· = .obj docs.discovery) := by
  apply cachesWell_cached
  · exact fun st hst => hst.discovery
  · exact fun st hst => ⟨.inr rfl, hst.jwks⟩
  · exact cachesWell_fetchJson hserving.discovery

theorem cachesWell_getJwks :
    CachesWell docs (ServerSdkClient.getJwks env) (· = .obj docs.jwks) := by
  apply cachesWell_cached
  · exact fun st hst => hst.jwks
  · exact fun st hst => ⟨hst.discovery, .inr rfl⟩
  · refine (cachesWell_getDiscovery hserving).bind ?_
    rintro discovery rfl
    rw [property_object, docs.names_jwks]
    have huri : CachesWell docs
        (ofExcept (.ok (some (Json.str docs.jwksUri))))
        (· = some (Json.str docs.jwksUri)) := by
      apply cachesWell_ofExcept
      intro value hvalue
      cases hvalue
      rfl
    refine huri.bind fun jwksUri hjwksUri => ?_
    subst hjwksUri
    exact cachesWell_fetchJson hserving.jwks

theorem cachesWell_verifyIdToken (verifySignature : VerifySignature)
    (input : IdTokenInput) :
    CachesWell docs
      (ServerSdkClient.verifyIdToken env verifySignature now input)
      fun _ => True := by
  refine (cachesWell_getDiscovery hserving).bind fun discovery _ => ?_
  refine (cachesWell_ofExcept fun _ _ => trivial).bind fun parsed _ => ?_
  refine (cachesWell_getJwks hserving).bind fun jwks _ => ?_
  refine (cachesWell_ofExcept fun _ _ => trivial).bind fun _ _ => ?_
  exact cachesWell_ofExcept fun _ _ => trivial

end Calls

theorem cachesWell_exchangeCode {env : CallbackEnv}
    (hserving : docs.Serving env.fetch env.issuer) (input : CallbackInput)
    (code : String) :
    CachesWell docs (ServerSdkClient.exchangeCode env input code)
      fun _ => True := by
  refine (cachesWell_getDiscovery hserving).bind fun discovery _ => ?_
  refine (cachesWell_ofExcept fun _ _ => trivial).bind fun _ _ => ?_
  refine (cachesWell_fetchJson fun _ _ _ => trivial).bind fun _ _ => ?_
  exact cachesWell_ofExcept fun _ _ => trivial

theorem cachesWell_completeAuthorizationCodeCallback {env : CallbackEnv}
    (hserving : docs.Serving env.fetch env.issuer) (input : CallbackInput) :
    CachesWell docs
      (ServerSdkClient.completeAuthorizationCodeCallback env now input)
      fun _ => True := by
  rw [ServerSdkClient.completeAuthorizationCodeCallback]
  split
  · exact cachesWell_fail _
  · apply cachesWell_ite
    · exact cachesWell_fail _
    have huserInfo : ∀ accessToken, CachesWell docs
        (ServerSdkClient.getUserInfo env accessToken) fun _ => True := by
      intro accessToken
      refine (cachesWell_getDiscovery hserving).bind fun discovery _ => ?_
      refine (cachesWell_ofExcept fun _ _ => trivial).bind fun _ _ => ?_
      apply cachesWell_ite
      · exact cachesWell_fetchJson fun _ _ _ => trivial
      · exact cachesWell_fail _
    refine (cachesWell_exchangeCode hserving input _).bind fun tokens _ => ?_
    refine (cachesWell_verifyIdToken hserving _ _).bind fun idToken _ => ?_
    apply cachesWell_ite
    · refine (huserInfo _).bind fun userInfo _ => ?_
      exact cachesWell_pure trivial
    · exact cachesWell_pure trivial

theorem cachesWell_createAuthorizationUrl {env : AuthorizationEnv}
    (hserving : docs.Serving env.fetch env.issuer)
    (input : AuthorizationUrlInput) (draw : AuthorizationDraw) :
    CachesWell docs (ServerSdkClient.createAuthorizationUrl env input draw)
      fun _ => True := by
  refine (cachesWell_getDiscovery hserving).bind fun discovery _ => ?_
  refine (cachesWell_ofExcept fun _ _ => trivial).bind fun _ _ => ?_
  refine (cachesWell_ofExcept fun _ _ => trivial).bind fun _ _ => ?_
  exact cachesWell_pure trivial

end Caches

/-! ## What other browsers can do -/

/-- Whose callback it is. -/
def SignInAction.callbackBrowser : SignInAction → Option Nat
  | .callback browser _ _ _ _ _ _ _ => some browser
  | _ => none

namespace SignInEnv

/-- The provider serves these documents and takes the client's codes. -/
structure Serves (env : SignInEnv) (docs : IssuerDocuments) : Prop where
  discovery : (env.provider.document
    (discoveryRequest env.sdk.issuer)).read = .ok (.ok (.obj docs.discovery))
  jwks : (env.provider.document ⟨.str docs.jwksUri, none⟩).read =
    .ok (.ok (.obj docs.jwks))
  redeems : ∀ codes spent post, ∀ entry ∈ codes,
    env.InOrder spent entry post →
    getText "grant_type" (FormUrlencoded.parse
      (ServerSdkClient.postedForm post)) = some "authorization_code" →
    post.authorization =
      basicAuthorization env.sdk.clientId env.sdk.clientSecret →
    entry.2.clientId = env.sdk.clientId →
      (env.provider.redeem codes spent post).isSome

variable {env : SignInEnv} {docs : IssuerDocuments} {st next : SignInState}
  {action : SignInAction}

theorem serving_client (hserves : env.Serves docs) (st : SignInState)
    (lost : SdkRequest → Bool) :
    docs.Serving (env.client st lost).fetch
      (env.client st lost).issuer where
  discovery := by
    intro requests json hread
    change (env.answer st lost (discoveryRequest env.sdk.issuer)).read = _
      at hread
    rw [answer] at hread
    split at hread
    case isTrue => cases hread
    case isFalse =>
      exact Except.ok.inj (Except.ok.inj
        (hread.symm.trans hserves.discovery))
  jwks := by
    intro requests json hread
    change (env.answer st lost ⟨.str docs.jwksUri, none⟩).read = _ at hread
    rw [answer] at hread
    split at hread
    case isTrue => cases hread
    case isFalse =>
      exact Except.ok.inj (Except.ok.inj (hread.symm.trans hserves.jwks))

theorem cached_step (hserves : env.Serves docs)
    (hcached : docs.Cached st.sdk) (hstep : env.step st action = some next) :
    docs.Cached next.sdk := by
  have hrecalled : docs.Cached (recalled st) :=
    ⟨hcached.discovery, hcached.jwks⟩
  cases action with
  | login browser draw now lost =>
      cases hstep
      rw [(startLogin_grows browser draw now lost).2.2.2]
      exact (cachesWell_createAuthorizationUrl
        (serving_client hserves st lost) env.loginInput draw _ hrecalled).1
  | authorize code grant =>
      obtain ⟨-, rfl⟩ := authorize_eq_some hstep
      exact hcached
  | callback browser cookieHeader code state now verifiedAt issuedAt lost =>
      rcases callback_cases hstep with rfl | ⟨login, -, -, rfl⟩
      · exact hcached
      · rw [(called_grows _ _ _ _).2.2]
        exact (cachesWell_completeAuthorizationCodeCallback
          (serving_client hserves st lost) _ _ hrecalled).1

theorem grows_step (hstep : env.step st action = some next) :
    Grows st next := by
  cases action with
  | login browser draw now lost =>
      cases hstep
      exact (startLogin_grows browser draw now lost).1
  | authorize code grant =>
      obtain ⟨-, rfl⟩ := authorize_eq_some hstep
      exact ⟨List.Subset.refl _, List.subset_cons_self _ _⟩
  | callback browser cookieHeader code state now verifiedAt issuedAt lost =>
      rcases callback_cases hstep with rfl | ⟨login, -, -, rfl⟩
      · exact Grows.refl _
      · exact (called_grows _ _ _ _).1

/-- No other browser drew the verifier of the login. -/
def Alone (env : SignInEnv) (login : StartedLogin) (st : SignInState) : Prop :=
  ∀ other ∈ st.logins, env.challengeOf other = env.challengeOf login →
    other.browser = login.browser

/-- Only a callback of its own browser uses up the code of a login: the
requests of the others carry other verifiers. -/
theorem unspent_step (hhonest : env.Honest) (hsafe : env.Safe st)
    {login : StartedLogin} (halone : env.Alone login st)
    {entry : String × CodeGrant} (hentry : entry ∈ st.codes)
    (hchallenge : entry.2.codeChallenge = env.challengeOf login)
    (hunspent : entry.1 ∉ st.spent)
    (hother : action.callbackBrowser ≠ some login.browser)
    (hstep : env.step st action = some next) : entry.1 ∉ next.spent := by
  cases action with
  | login browser draw now lost =>
      cases hstep
      rw [(startLogin_grows browser draw now lost).2.2.1]
      exact hunspent
  | authorize code grant =>
      obtain ⟨-, rfl⟩ := authorize_eq_some hstep
      exact hunspent
  | callback browser cookieHeader code state now verifiedAt issuedAt lost =>
      rcases callback_cases hstep with rfl | ⟨own, hown, hbrowser, rfl⟩
      · exact hunspent
      rw [(called_grows _ _ _ _).2.1, List.mem_append, not_or]
      refine ⟨fun hredeemed => ?_, hunspent⟩
      obtain ⟨request, hrequest, hredeem⟩ := List.mem_filterMap.mp hredeemed
      obtain ⟨taken, htaken, hcode⟩ := Option.map_eq_some_iff.mp hredeem
      obtain ⟨post, hpost, hpaid⟩ := Option.bind_eq_some_iff.mp htaken
      obtain ⟨hmem, -, -, -, hverifier⟩ := hhonest.redeems _ _ _ taken hpaid
      have hsame : taken = entry :=
        List.inj_on_of_nodup_map hsafe.distinct hmem hentry hcode
      have hsent := (relates_completeAuthorizationCodeCallback
        (env.client st lost).toCallbackEnv (env.inputOf own code state)
        (recalled st)).sent request hrequest
      have hcarries := hsent.resolve_left (List.not_mem_nil) post hpost
      rw [hcarries, hsame, hchallenge] at hverifier
      apply hother
      have howner := halone own hown (Option.some.inj hverifier)
      exact congrArg some (hbrowser.symm.trans howner)

/-! ## The callback of a browser that was asked -/

/-- The grant is for what the provider reads from the login's URL. -/
structure GrantsAsked (env : SignInEnv) (login : StartedLogin)
    (grant : CodeGrant) : Prop where
  clientId : getText "client_id"
    (FormUrlencoded.parse (queryOf login.url)) = some grant.clientId
  redirectUri : getText "redirect_uri"
    (FormUrlencoded.parse (queryOf login.url)) = some grant.redirectUri
  codeChallenge : getText "code_challenge"
    (FormUrlencoded.parse (queryOf login.url)) = some grant.codeChallenge
  nonce : getText "nonce"
    (FormUrlencoded.parse (queryOf login.url)) = grant.nonce

/-- For such a code the provider issues an ID token that is valid when it is
read, and it tells about the user. -/
structure Issues (env : SignInEnv) (docs : IssuerDocuments)
    (grant : CodeGrant) (nonce : String) (verifiedAt : Instant) : Prop where
  tokens : ∃ tokens idToken userInfo endpoint,
    tokenSet env.sdk.numbers (env.provider.tokenResponse grant) =
        .ok tokens ∧
      servedVerdict docs env.sdk.toSdkEnv env.sdk.verifySignature verifiedAt
        ⟨tokens.idToken, some nonce⟩ = .ok idToken ∧
      (Json.obj docs.discovery).get? "userinfo_endpoint" =
        some (.str endpoint) ∧ endpoint ≠ "" ∧
      ∀ requests, (env.sdk.fetchUserInfo requests (.str endpoint)
        ("Bearer " ++ tokens.accessToken)).read = .ok (.ok userInfo)

/-- No request is lost. -/
def never : SdkRequest → Bool := fun _ => false

/-- Such a grant is for the backend and its callback, and it has the login's
challenge and nonce. -/
theorem grantsAsked_iff {login : StartedLogin} (hasks : env.AsksFor login)
    {grant : CodeGrant} :
    env.GrantsAsked login grant ↔
      grant.clientId = env.sdk.clientId ∧
        grant.redirectUri = env.callbackUrl ∧
        grant.codeChallenge = env.challengeOf login ∧
        grant.nonce = some login.pending.nonce := by
  obtain ⟨url, hread⟩ := hasks
  have hasked : ∀ name value, textPair name value ∈
      ServerSdkClient.authorizationParams env.sdk env.loginInput
        login.pending.state login.pending.nonce login.pending.codeVerifier →
      getText name (FormUrlencoded.parse (queryOf login.url)) = some value :=
    fun name value => hread.getText_eq
  have hclient := hasked "client_id" env.sdk.clientId
    (by simp [ServerSdkClient.authorizationParams])
  have hredirect := hasked "redirect_uri" env.callbackUrl
    (by simp [ServerSdkClient.authorizationParams, loginInput])
  have hchallenge := hasked "code_challenge" (env.challengeOf login)
    (by simp [ServerSdkClient.authorizationParams, challengeOf])
  have hnonce := hasked "nonce" login.pending.nonce
    (by simp [ServerSdkClient.authorizationParams])
  constructor
  · rintro ⟨hclientId, hredirectUri, hcodeChallenge, hgrantNonce⟩
    rw [hclient] at hclientId
    rw [hredirect] at hredirectUri
    rw [hchallenge] at hcodeChallenge
    rw [hnonce] at hgrantNonce
    exact ⟨(Option.some.inj hclientId).symm,
      (Option.some.inj hredirectUri).symm,
      (Option.some.inj hcodeChallenge).symm, hgrantNonce.symm⟩
  · rintro ⟨hclientId, hredirectUri, hcodeChallenge, hgrantNonce⟩
    rw [← hclientId] at hclient
    rw [← hredirectUri] at hredirect
    rw [← hcodeChallenge] at hchallenge
    rw [← hgrantNonce] at hnonce
    exact ⟨hclient, hredirect, hchallenge, hnonce⟩

/-- The token request of a login's callback. -/
def postOf (env : SignInEnv) (login : StartedLogin) (code : String) :
    SdkPost where
  authorization := basicAuthorization env.sdk.clientId env.sdk.clientSecret
  body :=
    [("grant_type", "authorization_code"), ("code", code),
      ("redirect_uri", env.callbackUrl),
      ("code_verifier", login.pending.codeVerifier)]

theorem redeem_postOf (hhonest : env.Honest) (hserves : env.Serves docs)
    (hsafe : env.Safe st) {login : StartedLogin}
    (hasks : env.AsksFor login) {entry : String × CodeGrant}
    (hgrants : env.GrantsAsked login entry.2) (hentry : entry ∈ st.codes)
    (hunspent : entry.1 ∉ st.spent) :
    env.redeem st (env.postOf login entry.1) = some entry := by
  obtain ⟨hclient, hredirect, hchallenge, -⟩ :=
    (grantsAsked_iff hasks).mp hgrants
  have hform : FormUrlencoded.parse (ServerSdkClient.postedForm
      (env.postOf login entry.1)) =
        (env.postOf login entry.1).body.map fun field =>
          textPair field.1 field.2 :=
    ServerSdkClient.parse_postedForm _
  have horder : env.InOrder st.spent entry (env.postOf login entry.1) := by
    refine ⟨?_, hunspent, ?_, ?_⟩
    · rw [hform, getText_map]
      rfl
    · rw [hform, getText_map, hredirect]
      rfl
    · rw [hform, getText_map, hchallenge]
      rfl
  have hfound := hserves.redeems st.codes st.spent _ entry hentry horder
    (by rw [hform, getText_map]; rfl) rfl hclient
  obtain ⟨other, hother⟩ := Option.isSome_iff_exists.mp hfound
  obtain ⟨hmem, hcode, -⟩ := hhonest.redeems _ _ _ other hother
  rw [hform, getText_map] at hcode
  have hsame : other.1 = entry.1 := (Option.some.inj hcode).symm
  have hentryEq := List.inj_on_of_nodup_map hsafe.distinct hmem hentry hsame
  rw [← hentryEq]
  rw [← hentryEq] at hother
  exact hother

theorem served_client (hserves : env.Serves docs) (st : SignInState) :
    docs.Served (env.client st never).fetch
      (env.client st never).issuer where
  discovery := fun _ => hserves.discovery
  jwks := fun _ => hserves.jwks

section Call

variable (hserves : env.Serves docs) {login : StartedLogin} {code : String}
  {tokens : TokenSet} {start : SdkState}
include hserves

theorem exchangeCode_of_redeem (hcached : docs.Cached start)
    {entry : String × CodeGrant}
    (hredeem : env.redeem st (env.postOf login code) = some entry)
    (htokens : tokenSet env.sdk.numbers
      (env.provider.tokenResponse entry.2) = .ok tokens) :
    ∃ exchanged, ServerSdkClient.exchangeCode
      (env.client st never).toCallbackEnv
      (env.inputOf login (some code) (some login.pending.state)) code start =
        (.ok tokens, exchanged) ∧ docs.Cached exchanged := by
  obtain ⟨found, hfound, -⟩ :=
    cachedDiscovery_served (served_client hserves st) hcached
  have hdiscovery : ServerSdkClient.getDiscovery
      (env.client st never).toSdkEnv start =
        (.ok (.obj docs.discovery), found) := hfound
  have hnamed : ofExcept (property (.obj docs.discovery) "token_endpoint")
      found = (.ok ((Json.obj docs.discovery).get? "token_endpoint"), found) :=
    rfl
  have hanswer : ∀ endpoint,
      env.answer st never ⟨endpoint, some (env.postOf login code)⟩ =
        .response 200 (.ok (env.provider.tokenResponse entry.2)) := by
    intro endpoint
    rw [answer, never, if_neg Bool.false_ne_true]
    dsimp only
    rw [hredeem]
  have hread : ∀ requests endpoint, ((env.client st never).fetch requests
      ⟨endpoint, some (env.postOf login code)⟩).read =
        .ok (.ok (env.provider.tokenResponse entry.2)) :=
    fun _ endpoint => congrArg FetchOutcome.read (hanswer endpoint)
  have hexchanged : ∃ exchanged, ServerSdkClient.exchangeCode
      (env.client st never).toCallbackEnv
      (env.inputOf login (some code) (some login.pending.state)) code start =
        (.ok tokens, exchanged) :=
    ⟨_, bind_ok_iff.mpr ⟨_, found, hdiscovery, bind_ok_iff.mpr ⟨_, found,
      hnamed, bind_ok_iff.mpr ⟨_, _, fetchJson_of_read (hread _ _),
        ServerSdkClient.ofExcept_ok_iff.mpr ⟨htokens, rfl⟩⟩⟩⟩⟩
  obtain ⟨exchanged, hexchanged⟩ := hexchanged
  have hcaches := (cachesWell_exchangeCode (serving_client hserves st never)
    (env.inputOf login (some code) (some login.pending.state)) code _
    hcached).1
  rw [hexchanged] at hcaches
  exact ⟨exchanged, hexchanged, hcaches⟩

theorem verifyIdToken_of_verdict (hcached : docs.Cached start)
    {input : IdTokenInput} {verifiedAt : Instant} {idToken : VerifiedIdToken}
    (hverdict : servedVerdict docs env.sdk.toSdkEnv env.sdk.verifySignature
      verifiedAt input = .ok idToken) :
    ∃ verified, ServerSdkClient.verifyIdToken
      (env.client st never).toSdkEnv env.sdk.verifySignature verifiedAt input
      start = (.ok idToken, verified) ∧ docs.Cached verified := by
  have hrun := verifyIdToken_served env.sdk.verifySignature verifiedAt input
    (served_client hserves st) hcached
  have hcaches := (@cachesWell_verifyIdToken docs _ verifiedAt
    (serving_client hserves st never) env.sdk.verifySignature input _
    hcached).1
  exact ⟨_, Prod.ext (hrun.trans hverdict) rfl, hcaches⟩

theorem getUserInfo_of_endpoint (hcached : docs.Cached start)
    {endpoint accessToken : String} {userInfo : Json}
    (hendpoint : (Json.obj docs.discovery).get? "userinfo_endpoint" =
      some (.str endpoint)) (hnamed : endpoint ≠ "")
    (huserInfo : ∀ requests, (env.sdk.fetchUserInfo requests (.str endpoint)
      ("Bearer " ++ accessToken)).read = .ok (.ok userInfo)) :
    ∃ fetched, ServerSdkClient.getUserInfo
      (env.client st never).toCallbackEnv accessToken start =
        (.ok userInfo, fetched) := by
  obtain ⟨found, hfound, -⟩ :=
    cachedDiscovery_served (served_client hserves st) hcached
  have hdiscovery : ServerSdkClient.getDiscovery
      (env.client st never).toSdkEnv start =
        (.ok (.obj docs.discovery), found) := hfound
  have hnamedAt : ofExcept (property (.obj docs.discovery)
      "userinfo_endpoint") found = (.ok (some (.str endpoint)), found) := by
    rw [ofExcept, property_object, hendpoint]
  have htruthy : isTruthy (some (.str endpoint)) = true :=
    decide_eq_true hnamed
  rw [ServerSdkClient.getUserInfo, bind_ok hdiscovery, bind_ok hnamedAt,
    if_pos htruthy]
  exact ⟨_, fetchJson_of_read (huserInfo found.requests)⟩

/-- The client's call for a code that is in order. -/
theorem completes_of_redeem (hcached : docs.Cached st.sdk)
    (hfilled : login.pending.state ≠ "" ∧ login.pending.nonce ≠ "")
    (hcode : code ≠ "") {entry : String × CodeGrant}
    (hredeem : env.redeem st (env.postOf login code) = some entry)
    {verifiedAt : Instant}
    (hissues : env.Issues docs entry.2 login.pending.nonce verifiedAt) :
    ∃ result sdk,
      ServerSdkClient.completeAuthorizationCodeCallback
        (env.client st never).toCallbackEnv verifiedAt
        (env.inputOf login (some code) (some login.pending.state))
        (recalled st) = (.ok result, sdk) := by
  obtain ⟨tokens, idToken, userInfo, endpoint, htokens, hverdict, hendpoint,
    hnamed, huserInfo⟩ := hissues.tokens
  have hrecalled : docs.Cached (recalled st) :=
    ⟨hcached.discovery, hcached.jwks⟩
  obtain ⟨exchanged, hexchanged, hexchangedCached⟩ :=
    exchangeCode_of_redeem hserves hrecalled hredeem htokens
  obtain ⟨verified, hverified, hverifiedCached⟩ :=
    verifyIdToken_of_verdict hserves hexchangedCached hverdict
  obtain ⟨fetched, hfetched⟩ := getUserInfo_of_endpoint hserves
    hverifiedCached hendpoint hnamed huserInfo
  have hgiven : orNull (some code) = some code := by
    rw [orNull_some, if_neg hcode]
  have hstate : orNull (some login.pending.state) =
      some login.pending.state := by
    rw [orNull_some, if_neg hfilled.1]
  have hnonce : orNull (some login.pending.nonce) =
      some login.pending.nonce := by
    rw [orNull_some, if_neg hfilled.2]
  have hverifiedAgain : ServerSdkClient.verifyIdToken
      (env.client st never).toSdkEnv env.sdk.verifySignature verifiedAt
      ⟨tokens.idToken, orNull (some login.pending.nonce)⟩ exchanged =
        (.ok idToken, verified) := by
    rw [hnonce]
    exact hverified
  have hreceives : ServerSdkClient.Receives
      (env.client st never).toCallbackEnv verifiedAt
      (env.inputOf login (some code) (some login.pending.state))
      (recalled st) tokens idToken userInfo :=
    ⟨rfl, hstate, code, exchanged, verified, fetched, hgiven, hexchanged,
      hverifiedAgain, hfetched⟩
  obtain ⟨last, hlast⟩ :=
    ServerSdkClient.completeAuthorizationCodeCallback_of_receives hreceives
  exact ⟨_, last, hlast⟩

end Call

/-! ## The whole way -/

/-- The login has its code, and nobody has used it. -/
structure Waiting (env : SignInEnv) (docs : IssuerDocuments)
    (login : StartedLogin) (entry : String × CodeGrant) (st : SignInState) :
    Prop where
  safe : env.Safe st
  cached : docs.Cached st.sdk
  started : login ∈ st.logins
  asked : entry ∈ st.codes
  unspent : entry.1 ∉ st.spent

section Completion

variable {login : StartedLogin} {grant : CodeGrant}
  {cookieHeader : Option (List Char)} {code : String}
  {now verifiedAt issuedAt : Instant}

theorem waiting_step (hhonest : env.Honest) (hserves : env.Serves docs)
    (hgrants : env.GrantsAsked login grant)
    (hwaiting : env.Waiting docs login (code, grant) st)
    (halone : env.Alone login st)
    (hother : action.callbackBrowser ≠ some login.browser)
    (hstep : env.step st action = some next) :
    env.Waiting docs login (code, grant) next where
  safe := safe_step hhonest hwaiting.safe hstep
  cached := cached_step hserves hwaiting.cached hstep
  started := (grows_step hstep).logins hwaiting.started
  asked := (grows_step hstep).codes hwaiting.asked
  unspent := unspent_step hhonest hwaiting.safe halone hwaiting.asked
    ((grantsAsked_iff (hwaiting.safe.asks login hwaiting.started)).mp
      hgrants).2.2.1 hwaiting.unspent hother hstep

/-- A login is alone all the time if it is alone in the end. -/
theorem waiting_run (hhonest : env.Honest) (hserves : env.Serves docs)
    (hgrants : env.GrantsAsked login grant) {meanwhile : List SignInAction}
    (hwaiting : env.Waiting docs login (code, grant) st)
    (hrun : StepSystem.run env.step st meanwhile = some next)
    (halone : env.Alone login next)
    (hmeanwhile : ∀ action ∈ meanwhile,
      action.callbackBrowser ≠ some login.browser) :
    env.Waiting docs login (code, grant) next := by
  have hstep : ∀ state action after,
      (env.Alone login state →
          env.Waiting docs login (code, grant) state) →
        action.callbackBrowser ≠ some login.browser →
        env.step state action = some after → env.Alone login after →
          env.Waiting docs login (code, grant) after := by
    intro state action after hinv hother hnext haloneThen
    have haloneNow : env.Alone login state := fun other hlogin =>
      haloneThen other ((grows_step hnext).logins hlogin)
    exact waiting_step hhonest hserves hgrants (hinv haloneNow) haloneNow
      hother hnext
  exact StepSystem.run_preserves env.step hstep (fun _ => hwaiting)
    (StepSystem.along_of_forall env.step
      (fun action haction _ => hmeanwhile action haction) st) hrun halone

/-- What the provider gives for a login of the run is waiting for it. -/
theorem waiting_authorize (hhonest : env.Honest)
    (hserves : env.Serves docs) {before : List SignInAction}
    {start asked : SignInState}
    (hstart : StepSystem.run env.step .init before = some start)
    (hlogin : login ∈ start.logins)
    (hasked : env.step start (.authorize code grant) = some asked) :
    env.Waiting docs login (code, grant) asked := by
  have hstep : ∀ state action after,
      env.Safe state ∧ docs.Cached state.sdk →
        env.step state action = some after →
          env.Safe after ∧ docs.Cached after.sdk :=
    fun _ _ _ hinv hnext =>
      ⟨safe_step hhonest hinv.1 hnext, cached_step hserves hinv.2 hnext⟩
  have hsafe := StepSystem.run_invariant env.step hstep
    ⟨safe_init, .inl rfl, .inl rfl⟩ hstart
  obtain ⟨hnew, hcodes⟩ := authorize_eq_some hasked
  refine ⟨safe_step hhonest hsafe.1 hasked,
    cached_step hserves hsafe.2 hasked, (grows_step hasked).logins hlogin,
    ?_, ?_⟩
  · rw [hcodes]
    exact List.mem_cons_self
  · rw [hcodes]
    exact fun hspent => hnew (hsafe.1.issued code hspent)

theorem presents_sealed (hlogin : login ∈ st.logins)
    (hcookie : cookie (parseCookies cookieHeader) oauthStateCookieName =
      some (sealValue env.bff login.pending.toJson)) :
    env.presents st login.browser cookieHeader = true := by
  have hpayload : sealPayload login.pending.toJson ∈
      payloadsOf st login.browser := by
    apply List.mem_append_left
    exact List.mem_map.mpr ⟨login,
      List.mem_filter.mpr ⟨hlogin, decide_eq_true rfl⟩, rfl⟩
  unfold presents
  rw [hcookie]
  dsimp only
  rw [BffApp.split_sealed]
  dsimp only
  rw [Bool.or_eq_true, List.contains_iff_mem]
  exact .inr hpayload

theorem callbackOf_sealed
    (hcookie : cookie (parseCookies cookieHeader) oauthStateCookieName =
      some (sealValue env.bff login.pending.toJson))
    (hnow : now ≤ login.pending.createdAt + 5 * 60 * 1000)
    (code state : Option String) :
    env.callbackOf cookieHeader code state now =
      some (env.inputOf login code state) := by
  have hyoung : BffApp.olderThan env.bff
      (login.pending.toJson.get? "createdAt") now (5 * 60 * 1000) =
        some false := by
    have hcreated : login.pending.toJson.get? "createdAt" =
        some (instantJson login.pending.createdAt) := rfl
    rw [hcreated]
    change some (decide (((5 * 60 * 1000 : Int) : ℚ) <
      now - numberValue (.ofInt login.pending.createdAt))) = some false
    rw [Option.some.injEq, numberValue_ofInt, decide_eq_false_iff_not, not_lt,
      ← Int.cast_sub, Int.cast_le]
    exact Int.sub_left_le_of_le_add hnow
  unfold callbackOf
  rw [hcookie, unsealValue_of_extends env.bff (.inl rfl)]
  dsimp only
  rw [if_neg (BffApp.PendingOidcState.toJson_ne_null login.pending), hyoung,
    if_neg (fun hne => hne rfl)]
  rfl

theorem callback_completes (hhonest : env.Honest)
    (hserves : env.Serves docs) (hgrants : env.GrantsAsked login grant)
    (hwaiting : env.Waiting docs login (code, grant) st)
    (hcode : code ≠ "")
    (hcookie : cookie (parseCookies cookieHeader) oauthStateCookieName =
      some (sealValue env.bff login.pending.toJson))
    (hnow : now ≤ login.pending.createdAt + 5 * 60 * 1000)
    (hissues : env.Issues docs grant login.pending.nonce verifiedAt) :
    ∃ next signIn, env.step st (.callback login.browser cookieHeader
        (some code) (some login.pending.state) now verifiedAt issuedAt
        never) = some next ∧
      next.signIns = signIn :: st.signIns ∧
      signIn.browser = login.browser ∧ signIn.code = code := by
  have hredeem := redeem_postOf hhonest hserves hwaiting.safe
    (hwaiting.safe.asks login hwaiting.started) hgrants hwaiting.asked
    hwaiting.unspent
  obtain ⟨result, sdk, hcall⟩ := completes_of_redeem hserves hwaiting.cached
    (hwaiting.safe.filled login hwaiting.started) hcode hredeem hissues
  have hstep : env.step st (.callback login.browser cookieHeader (some code)
      (some login.pending.state) now verifiedAt issuedAt never) =
        some (env.called st (.ok result, sdk) login.browser
          (env.inputOf login (some code) (some login.pending.state))
          issuedAt) := by
    rw [step, if_pos (presents_sealed hwaiting.started hcookie),
      callbackOf_sealed hcookie hnow]
    dsimp only
    rw [hcall]
  exact ⟨_, _, hstep, rfl, rfl, rfl⟩

/-- A login for which the provider gave a code ends in a session of that
account, if its callback comes within five minutes and is answered: nothing
that other browsers do in between uses up the code. -/
theorem signIn_completes (hhonest : env.Honest)
    (hserves : env.Serves docs) {before meanwhile : List SignInAction}
    {start : SignInState}
    (hstart : StepSystem.run env.step .init before = some start)
    (hlogin : login ∈ start.logins)
    (hgrants : env.GrantsAsked login grant)
    (hrun : StepSystem.run env.step start
      (.authorize code grant :: meanwhile) = some st)
    (halone : env.Alone login st)
    (hmeanwhile : ∀ action ∈ meanwhile,
      action.callbackBrowser ≠ some login.browser)
    (hcode : code ≠ "")
    (hcookie : cookie (parseCookies cookieHeader) oauthStateCookieName =
      some (sealValue env.bff login.pending.toJson))
    (hnow : now ≤ login.pending.createdAt + 5 * 60 * 1000)
    (hissues : env.Issues docs grant login.pending.nonce verifiedAt) :
    ∃ next signIn, env.step st (.callback login.browser cookieHeader
        (some code) (some login.pending.state) now verifiedAt issuedAt
        never) = some next ∧
      next.signIns = signIn :: st.signIns ∧
      signIn.browser = login.browser ∧
      signIn.identity.userId = grant.account := by
  obtain ⟨asked, hasked, hrest⟩ := (StepSystem.run_cons env.step).mp hrun
  have hwaiting := waiting_run hhonest hserves hgrants
    (waiting_authorize hhonest hserves hstart hlogin hasked) hrest halone
    hmeanwhile
  obtain ⟨next, signIn, hnext, hsignIns, hbrowser, hsigned⟩ :=
    callback_completes hhonest hserves hgrants hwaiting hcode hcookie hnow
      hissues
  refine ⟨next, signIn, hnext, hsignIns, hbrowser, ?_⟩
  have hsafeNext := safe_step hhonest hwaiting.safe hnext
  obtain ⟨_, _, other, hother, -, -, -, -, -, haccount⟩ :=
    hsafeNext.approved signIn (hsignIns ▸ List.mem_cons_self)
  rw [hsigned] at hother
  have hsame := List.inj_on_of_nodup_map hsafeNext.distinct hother
    ((grows_step hnext).codes hwaiting.asked) rfl
  have hgrant : other = grant := congrArg Prod.snd hsame
  rw [← haccount, hgrant]

end Completion

end SignInEnv

namespace SignInWitness

open SignInEnv

def discovery : List (String × Json) :=
  [("issuer", .str "https://id.example"),
    ("authorization_endpoint", AuthorizationWitness.endpoint),
    ("token_endpoint", .str "https://id.example/token"),
    ("jwks_uri", .str "https://id.example/jwks"),
    ("userinfo_endpoint", .str "https://id.example/me")]

def docs : IssuerDocuments where
  discovery := discovery
  jwksUri := "https://id.example/jwks"
  jwks := [("keys", .arr [.obj [("kid", .str "k")]])]
  keys := [[("kid", .str "k")]]
  names_jwks := by decide
  holds_keys := by decide

/-- An ID token of `user-1`, with the nonce of the login. -/
def token : String :=
  "eyJhbGciOiJSUzI1NiIsImtpZCI6ImsifQ." ++
    "eyJpc3MiOiJodHRwczovL2lkLmV4YW1wbGUiLCJhdWQiOiJhcHAiLCJleHAiOjE3" ++
    "NzcyMDg0MDAsInN1YiI6InVzZXItMSIsIm5vbmNlIjoiQWdJQ0FnSUNBZ0lDQWdJ" ++
    "Q0FnSUNBZ0lDQWdJQ0FnSUNBZ0lDQWdJQ0FnSSJ9.cw"

def nonce : String := randomToken AuthorizationWitness.draw.nonce

/-- It takes the codes of the client `app`. -/
def redeem (codes : List (String × CodeGrant)) (spent : List String)
    (post : SdkPost) : Option (String × CodeGrant) :=
  let form := FormUrlencoded.parse (ServerSdkClient.postedForm post)
  codes.find? fun entry =>
    post.authorization = basicAuthorization "app" "secret" ∧
      entry.2.clientId = "app" ∧
      getText "grant_type" form = some "authorization_code" ∧
      getText "code" form = some entry.1 ∧ entry.1 ∉ spent ∧
      getText "redirect_uri" form = some entry.2.redirectUri ∧
      (getText "code_verifier" form).map
          (ServerSdkClient.sha256Base64Url AuthorizationWitness.env) =
        some entry.2.codeChallenge

def provider : ProviderEnv where
  redeem := redeem
  tokenResponse grant :=
    if grant.account = "user-1" ∧ grant.nonce = some nonce then
      .obj
        [("id_token", .str token), ("access_token", .str "access"),
          ("expires_in", .num (.ofInt 300))]
    else .obj []
  refusal := .obj [("error", .str "invalid_grant")]
  document request :=
    .response 200 (.ok
      (if request.url = .str "https://id.example/jwks" then .obj docs.jwks
      else .obj discovery))

def env : SignInEnv where
  bff :=
    { hmacSha256 := AuthorizationWitness.env.sha256
      digest_length := AuthorizationWitness.env.digest_length
      numbers := .ofTexts
      sessionTtlSeconds := 3600 }
  sdk :=
    { AuthorizationWitness.env with
      fetchUserInfo := fun _ _ _ =>
        .response 200 (.ok (.obj [("sub", .str "user-1")])) }
  provider := provider
  callbackUrl := "https://app.example/callback"
  identityJson identity := .obj [("userId", .str identity.userId)]

/-- The ID token is valid at the instant. -/
theorem servedVerdict_token :
    (servedVerdict docs env.sdk.toSdkEnv env.sdk.verifySignature
      1777204800000 ⟨token, some nonce⟩).map VerifiedIdToken.sub =
        .ok "user-1" := by
  decide +kernel

theorem parse_token {parsed : ParsedToken}
    (hparsed : parseToken idTokenErrors token = .ok parsed) :
    parsed.claims.get? "sub" = some (.str "user-1") ∧
      parsed.claims.get? "nonce" = some (.str nonce) := by
  have hvalid := servedVerdict_token
  cases hverdict : servedVerdict docs env.sdk.toSdkEnv
      env.sdk.verifySignature 1777204800000 ⟨token, some nonce⟩ with
  | error error =>
      rw [hverdict] at hvalid
      cases hvalid
  | ok verified =>
  rw [hverdict] at hvalid
  have hsub : verified.sub = "user-1" := Except.ok.inj hvalid
  rw [servedVerdict, verdict, hparsed] at hverdict
  change (checkSignature _ _ _ parsed >>= fun _ => _) = _ at hverdict
  cases hsignature : checkSignature idTokenErrors env.sdk.verifySignature
      (.obj docs.jwks) parsed with
  | error error =>
      rw [hsignature] at hverdict
      cases hverdict
  | ok _ =>
  rw [hsignature] at hverdict
  obtain ⟨hclaim, hnonce⟩ := checkIdClaims_ok hverdict
  rw [hsub] at hclaim
  exact ⟨hclaim, hnonce nonce rfl⟩

theorem tokenSet_response {grant : CodeGrant}
    (hgrant : grant.account = "user-1" ∧ grant.nonce = some nonce) :
    tokenSet .ofTexts (provider.tokenResponse grant) =
      .ok ⟨token, "access", none, .ofInt 300⟩ := by
  have hresponse : provider.tokenResponse grant = .obj
      [("id_token", .str token), ("access_token", .str "access"),
        ("expires_in", .num (.ofInt 300))] := if_pos hgrant
  rw [hresponse]
  decide +kernel

theorem honest : env.Honest where
  redeems := by
    intro codes spent post entry hredeem
    have hchecks := List.find?_some hredeem
    rw [decide_eq_true_iff] at hchecks
    obtain ⟨-, -, -, hcode, hspent, hredirect, hverifier⟩ := hchecks
    exact ⟨List.mem_of_find?_eq_some hredeem, hcode, hspent, hredirect,
      hverifier⟩
  about := by
    intro grant tokens parsed htokens hparsed
    change tokenSet .ofTexts (provider.tokenResponse grant) = _ at htokens
    by_cases hgrant : grant.account = "user-1" ∧ grant.nonce = some nonce
    · rw [tokenSet_response hgrant] at htokens
      cases htokens
      rw [hgrant.1, hgrant.2]
      exact parse_token hparsed
    · have hresponse : provider.tokenResponse grant = .obj [] := if_neg hgrant
      rw [hresponse] at htokens
      cases htokens

theorem serves : env.Serves docs where
  discovery := rfl
  jwks := rfl
  redeems := by
    rintro codes spent post entry hentry ⟨hcode, hspent, hredirect, hverifier⟩
      htype hauthorization hclient
    change (redeem codes spent post).isSome = true
    rw [redeem, List.find?_isSome]
    refine ⟨entry, hentry, ?_⟩
    rw [decide_eq_true_iff]
    exact ⟨hauthorization, hclient, htype, hcode, hspent, hredirect,
      hverifier⟩

theorem issues {grant : CodeGrant}
    (hgrant : grant.account = "user-1" ∧ grant.nonce = some nonce) :
    env.Issues docs grant nonce 1777204800000 where
  tokens := by
    have hvalid := servedVerdict_token
    cases hverdict : servedVerdict docs env.sdk.toSdkEnv
        env.sdk.verifySignature 1777204800000 ⟨token, some nonce⟩ with
    | error error =>
        rw [hverdict] at hvalid
        cases hvalid
    | ok idToken =>
        exact ⟨⟨token, "access", none, .ofInt 300⟩, idToken,
          .obj [("sub", .str "user-1")], "https://id.example/me",
          tokenSet_response hgrant, hverdict, by decide, by decide,
          fun _ => rfl⟩

/-! The run: `user-1` signs in while another browser, with a login and a cookie
of its own, tries the code. -/

def login : StartedLogin where
  browser := 1
  url := (AuthorizationWitness.url.withParams
    (ServerSdkClient.authorizationParams env.sdk env.loginInput
      (randomToken AuthorizationWitness.draw.state) nonce
      (randomToken AuthorizationWitness.draw.codeVerifier))).toBytes
  pending :=
    ⟨randomToken AuthorizationWitness.draw.state, nonce,
      randomToken AuthorizationWitness.draw.codeVerifier, 1000⟩

def started : SignInState :=
  { SignInState.init with
    sdk := ⟨some (.obj discovery), none, [discoveryRequest env.sdk.issuer]⟩
    logins := [login] }

/-- `user-1` follows the login's URL. -/
def grant : CodeGrant where
  clientId := "app"
  redirectUri := env.callbackUrl
  codeChallenge := env.challengeOf login
  nonce := some nonce
  account := "user-1"

def asked : SignInState := { started with codes := [("code-1", grant)] }

theorem startLogin_init :
    env.step .init (.login 1 AuthorizationWitness.draw 1000 never) =
      some started := by
  have hdiscovery : ServerSdkClient.getDiscovery
      (env.client .init never).toSdkEnv (recalled .init) =
        (.ok (.obj discovery), started.sdk) := rfl
  have hurl : AuthorizationWitness.env.parseUrl
      AuthorizationWitness.endpoint = .ok AuthorizationWitness.url := by
    simp [AuthorizationWitness.env]
  have hcall : ServerSdkClient.createAuthorizationUrl
      (env.client .init never) env.loginInput AuthorizationWitness.draw
      (recalled .init) =
        (.ok ⟨login.url, login.pending.state, login.pending.nonce,
          login.pending.codeVerifier⟩, started.sdk) :=
    ServerSdkClient.createAuthorizationUrl_ok.mpr
      ⟨.obj discovery, some AuthorizationWitness.endpoint,
        AuthorizationWitness.url, hdiscovery, rfl, hurl, rfl⟩
  change some (env.startLogin .init 1 AuthorizationWitness.draw 1000 never) = _
  rw [startLogin, hcall]
  rfl

theorem asksFor_login : env.AsksFor login :=
  ⟨AuthorizationWitness.url, ServerSdkClient.readAs_withParams _
    (ServerSdkClient.authorizationParams_names _ _ _ _)⟩

theorem grantsAsked_login : env.GrantsAsked login grant :=
  (grantsAsked_iff asksFor_login).mpr ⟨rfl, rfl, rfl, rfl⟩

def options : BffCookieOptions :=
  { secure := true, sameSite := .lax, httpOnly := true, path := none,
    maxAge := some 300 }

def cookieHeader : Option (List Char) :=
  some (headerWith [] [] (BffSession.serializeCookie oauthStateCookieName
    (sealValue env.bff login.pending.toJson) options))

theorem cookie_pending :
    cookie (parseCookies cookieHeader) oauthStateCookieName =
      some (sealValue env.bff login.pending.toJson) :=
  cookie_headerWith _ options (isToken_cookieName (.inl rfl))
    fun _ hcookie => absurd hcookie List.not_mem_nil

def otherDraw : AuthorizationDraw :=
  ⟨⟨List.replicate 32 4, rfl⟩, ⟨List.replicate 32 5, rfl⟩,
    ⟨List.replicate 32 6, rfl⟩⟩

def otherLogin : StartedLogin where
  browser := 2
  url := (AuthorizationWitness.url.withParams
    (ServerSdkClient.authorizationParams env.sdk env.loginInput
      (randomToken otherDraw.state) (randomToken otherDraw.nonce)
      (randomToken otherDraw.codeVerifier))).toBytes
  pending :=
    ⟨randomToken otherDraw.state, randomToken otherDraw.nonce,
      randomToken otherDraw.codeVerifier, 1200⟩

def otherHeader : Option (List Char) :=
  some (headerWith [] [] (BffSession.serializeCookie oauthStateCookieName
    (sealValue env.bff otherLogin.pending.toJson) options))

/-- The provider gives a code for the login, and the other browser sends it
with its own state, so that the token endpoint is asked. -/
def way : List SignInAction :=
  [.authorize "code-1" grant, .login 2 otherDraw 1200 never,
    .callback 2 otherHeader (some "code-1") (some otherLogin.pending.state)
      1500 1777204800000 1500 never]

def crossed : SignInState := StepSystem.after env.step started way

theorem way_asks :
    (StepSystem.run env.step started way).map (fun last =>
        (last.logins, last.sdk.requests.length)) =
      some ([otherLogin, login], 1) := by
  decide +kernel

theorem run_way : StepSystem.run env.step started way = some crossed := by
  apply StepSystem.run_after
  rw [← Option.isSome_map, way_asks]
  rfl

theorem alone_login : env.Alone login crossed := by
  have hlogins : crossed.logins = [otherLogin, login] := by
    have hasks := way_asks
    rw [run_way, Option.map_some, Option.some.injEq, Prod.mk.injEq] at hasks
    exact hasks.1
  intro other hother hsame
  rw [hlogins] at hother
  rcases List.mem_cons.mp hother with rfl | hlast
  · exact absurd hsame (by decide +kernel)
  · rw [List.mem_singleton.mp hlast]

theorem run_started : StepSystem.run env.step .init
    [.login 1 AuthorizationWitness.draw 1000 never] = some started :=
  (StepSystem.run_cons env.step).mpr ⟨started, startLogin_init, rfl⟩

theorem signIn_completes_user :
    ∃ next signIn, env.step crossed (.callback login.browser cookieHeader
        (some "code-1") (some login.pending.state) 2000 1777204800000 2000
        never) = some next ∧
      next.signIns = signIn :: crossed.signIns ∧
      signIn.browser = login.browser ∧ signIn.identity.userId = "user-1" := by
  refine signIn_completes honest serves run_started
    (List.mem_singleton_self _) grantsAsked_login run_way alone_login ?_
    (by decide) cookie_pending (by decide) (issues ⟨rfl, rfl⟩)
  intro action haction
  rcases List.mem_cons.mp haction with rfl | hlast
  · decide
  · rw [List.mem_singleton.mp hlast]
    decide

def actions : List SignInAction :=
  [.login 1 AuthorizationWitness.draw 1000 never,
    .authorize "code-1" grant,
    .callback login.browser cookieHeader (some "code-1")
      (some login.pending.state) 2000 1777204800000 2000 never]

/-- The session that `user-1` gets is approved. -/
theorem signIns_approved_user :
    ∃ last, StepSystem.run env.step .init actions = some last ∧
      last.signIns ≠ [] ∧
      (∀ signIn ∈ last.signIns, env.Approved last signIn) ∧
      (last.signIns.map SignIn.code).Nodup := by
  have hwaiting : env.Waiting docs login ("code-1", grant) asked :=
    waiting_authorize honest serves run_started (List.mem_singleton_self _)
      rfl
  have hnow : (2000 : Instant) ≤ login.pending.createdAt + 5 * 60 * 1000 := by
    decide
  obtain ⟨next, signIn, hnext, hsignIns, -⟩ := callback_completes
    honest serves grantsAsked_login hwaiting (by decide) cookie_pending hnow
    (issues ⟨rfl, rfl⟩)
  have hrun : StepSystem.run env.step .init actions = some next :=
    (StepSystem.run_cons env.step).mpr ⟨started, startLogin_init,
      (StepSystem.run_cons env.step).mpr ⟨asked, rfl,
        (StepSystem.run_cons env.step).mpr ⟨next, hnext, rfl⟩⟩⟩
  refine ⟨next, hrun, ?_, signIns_approved honest hrun⟩
  rw [hsignIns]
  exact List.cons_ne_nil _ _

end SignInWitness

end IdProvider
