/-
What the sessions of the example backend say about who approved them.
-/
import IdProvider.SignInProtocol

namespace IdProvider

open JsonText BffSession SearchParams ServiceCall

/-! ## What a session says -/

namespace SignInEnv

variable (env : SignInEnv)

/-- The provider takes each code once, from a request that is in order, and
its ID tokens are about the account of the code and carry the nonce of the
request. -/
structure Honest : Prop where
  redeems : ∀ codes spent post entry,
    env.provider.redeem codes spent post = some entry →
      entry ∈ codes ∧ env.InOrder spent entry post
  about : ∀ grant tokens parsed,
    tokenSet env.sdk.numbers (env.provider.tokenResponse grant) =
      .ok tokens →
    parseToken idTokenErrors tokens.idToken = .ok parsed →
      parsed.claims.get? "sub" = some (.str grant.account) ∧
        parsed.claims.get? "nonce" = grant.nonce.map .str

/-- The browser itself started a login, and the session is of the account that
got a code for the challenge and the nonce of just that login. -/
def Approved (st : SignInState) (signIn : SignIn) : Prop :=
  ∃ login ∈ st.logins, ∃ grant, (signIn.code, grant) ∈ st.codes ∧
    login.browser = signIn.browser ∧
    login.pending.state = signIn.state ∧
    grant.codeChallenge = env.challengeOf login ∧
    grant.nonce = some login.pending.nonce ∧
    grant.redirectUri = env.callbackUrl ∧
    grant.account = signIn.identity.userId

/-- The login's URL asks for what its cookie holds. -/
def AsksFor (login : StartedLogin) : Prop :=
  ∃ url, ServerSdkClient.ReadAs url
    (ServerSdkClient.authorizationParams env.sdk env.loginInput
      login.pending.state login.pending.nonce login.pending.codeVerifier)
    login.url

structure Safe (st : SignInState) : Prop where
  filled : ∀ login ∈ st.logins,
    login.pending.state ≠ "" ∧ login.pending.nonce ≠ ""
  asks : ∀ login ∈ st.logins, env.AsksFor login
  distinct : (st.codes.map Prod.fst).Nodup
  approved : ∀ signIn ∈ st.signIns, env.Approved st signIn
  spent : ∀ signIn ∈ st.signIns, signIn.code ∈ st.spent
  issued : ∀ code ∈ st.spent, code ∈ st.codes.map Prod.fst
  single : (st.signIns.map SignIn.code).Nodup

variable {env} {st : SignInState}

/-! ### One token request -/

/-- Tokens come from a code that was in order. -/
theorem redeem_of_exchanged (hhonest : env.Honest)
    {lost : SdkRequest → Bool} {input : CallbackInput} {code : String}
    {tokens : TokenSet}
    {before after : SdkState}
    (htokens : ServerSdkClient.exchangeCode
      (env.client st lost).toCallbackEnv input code before =
        (.ok tokens, after)) :
    ∃ grant, (code, grant) ∈ st.codes ∧ code ∉ st.spent ∧
      grant.redirectUri = input.redirectUri ∧
      grant.codeChallenge =
        ServerSdkClient.sha256Base64Url env.sdk input.codeVerifier ∧
      tokenSet env.sdk.numbers (env.provider.tokenResponse grant) =
        .ok tokens ∧
      code ∈ env.redeemed st after.requests := by
  obtain ⟨_, endpoint, response, found, -, -, hfetch, hresponse, hrequests⟩ :=
    ServerSdkClient.exchangeCode_ok htokens
  have hread : ((env.client st lost).fetch found.requests
      (ServerSdkClient.exchangeRequest (env.client st lost)
        (endpoint.getD .null) input code)).read = .ok (.ok response) := hfetch
  change (env.answer st lost _).read = _ at hread
  rw [answer] at hread
  split at hread
  case isTrue => cases hread
  case isFalse =>
  dsimp only [ServerSdkClient.exchangeRequest] at hread
  split at hread
  case h_2 => cases hread
  case h_1 entry hredeem =>
  cases hread
  obtain ⟨hmem, hcode, hspent, hredirect, hverifier⟩ :=
    hhonest.redeems _ _ _ entry hredeem
  rw [ServerSdkClient.parse_postedForm, getText_map]
    at hcode hredirect hverifier
  obtain ⟨issued, grant⟩ := entry
  have hissued : code = issued := Option.some.inj hcode
  subst hissued
  refine ⟨grant, hmem, hspent, (Option.some.inj hredirect).symm,
    (Option.some.inj hverifier).symm, hresponse, ?_⟩
  rw [redeemed, List.mem_filterMap, hrequests]
  refine ⟨_, List.mem_append_right _ (List.mem_singleton_self _), ?_⟩
  change ((env.redeem st _).map Prod.fst) = _
  rw [hredeem]
  rfl

theorem redeemed_subset {requests others : List SdkRequest}
    (hsubset : requests ⊆ others) :
    env.redeemed st requests ⊆ env.redeemed st others := by
  intro code hcode
  obtain ⟨request, hrequest, hredeem⟩ := List.mem_filterMap.mp hcode
  exact List.mem_filterMap.mpr ⟨request, hsubset hrequest, hredeem⟩

/-! ### One cookie -/

/-- What a browser presents opens to a cookie that it was given. -/
theorem mem_of_presents {browser : Nat} {cookieHeader : Option (List Char)}
    {json : Json} (hpresents : env.presents st browser cookieHeader = true)
    (hunseal : unsealValue env.bff
      (cookie (parseCookies cookieHeader) oauthStateCookieName) = some json) :
    (∃ login ∈ st.logins, login.browser = browser ∧
        json = login.pending.toJson) ∨
      ∃ signIn ∈ st.signIns, json = signIn.session.toJson := by
  unfold presents at hpresents
  split at hpresents
  case h_1 hnone =>
    rw [hnone] at hunseal
    cases hunseal
  case h_2 value hvalue =>
    rw [hvalue] at hunseal
    obtain ⟨payload, rest, hsplit, hparse⟩ :=
      extends_of_unsealValue env.bff hunseal
    rw [hsplit] at hpresents
    dsimp only at hpresents
    rw [Bool.or_eq_true, bne_iff_ne, List.contains_iff_mem] at hpresents
    have hpayload : payload ∈ payloadsOf st browser :=
      hpresents.resolve_left (not_not_intro rfl)
    rw [payloadsOf, List.mem_append, List.mem_map, List.mem_map] at hpayload
    rcases hpayload with ⟨login, hlogin, rfl⟩ | ⟨signIn, hsignIn, rfl⟩
    · rw [List.mem_filter, decide_eq_true_iff] at hlogin
      rw [readPayload, Option.some.injEq] at hparse
      exact .inl ⟨login, hlogin.1, hlogin.2, hparse.symm⟩
    · rw [List.mem_filter] at hsignIn
      rw [readPayload, Option.some.injEq] at hparse
      exact .inr ⟨signIn, hsignIn.1, hparse.symm⟩

/-- A callback gets as far as the client with the cookie of a login of its
browser. -/
theorem callbackOf_eq_some {browser : Nat}
    {cookieHeader : Option (List Char)} {code state : Option String}
    {now : Instant} {input : CallbackInput}
    (hpresents : env.presents st browser cookieHeader = true)
    (hinput : env.callbackOf cookieHeader code state now = some input) :
    ∃ login ∈ st.logins, login.browser = browser ∧
      input = env.inputOf login code state := by
  unfold callbackOf at hinput
  split at hinput
  case h_1 => cases hinput
  case h_2 pending hunseal =>
    split at hinput
    case isTrue => cases hinput
    case isFalse =>
    split at hinput
    case isTrue => cases hinput
    case isFalse =>
    rcases mem_of_presents hpresents hunseal with
      ⟨login, hlogin, hbrowser, rfl⟩ | ⟨signIn, -, rfl⟩
    · refine ⟨login, hlogin, hbrowser, ?_⟩
      cases hinput
      rfl
    · cases hinput

/-! ### Steps -/

/-- What a step leaves: logins and codes stay known. -/
structure Grows (before after : SignInState) : Prop where
  logins : before.logins ⊆ after.logins
  codes : before.codes ⊆ after.codes

theorem Grows.refl (st : SignInState) : Grows st st :=
  ⟨List.Subset.refl _, List.Subset.refl _⟩

theorem startLogin_grows (browser : Nat) (draw : AuthorizationDraw)
    (now : Instant) (lost : SdkRequest → Bool) :
    let next := env.startLogin st browser draw now lost
    Grows st next ∧ next.codes = st.codes ∧ next.spent = st.spent ∧
      next.sdk = (ServerSdkClient.createAuthorizationUrl (env.client st lost)
        env.loginInput draw (recalled st)).2 := by
  unfold startLogin
  split
  case h_1 sdk hcall =>
    exact ⟨⟨List.Subset.refl _, List.Subset.refl _⟩, rfl, rfl,
      (congrArg Prod.snd hcall).symm⟩
  case h_2 auth sdk hcall =>
    exact ⟨⟨List.subset_cons_self _ _, List.Subset.refl _⟩, rfl, rfl,
      (congrArg Prod.snd hcall).symm⟩

theorem authorize_eq_some {code : String} {grant : CodeGrant}
    {next : SignInState} (hstep : authorize st code grant = some next) :
    code ∉ st.codes.map Prod.fst ∧
      next = { st with codes := (code, grant) :: st.codes } := by
  unfold authorize at hstep
  split at hstep
  case isTrue => cases hstep
  case isFalse hfresh =>
    cases hstep
    exact ⟨hfresh, rfl⟩

theorem called_grows (result : Except SdkError CallbackResult × SdkState)
    (browser : Nat) (input : CallbackInput) (issuedAt : Instant) :
    let next := env.called st result browser input issuedAt
    Grows st next ∧
      next.spent = env.redeemed st result.2.requests ++ st.spent ∧
      next.sdk = result.2 := by
  rcases result with ⟨error | result, sdk⟩
  · exact ⟨⟨List.Subset.refl _, List.Subset.refl _⟩, rfl, rfl⟩
  · exact ⟨⟨List.Subset.refl _, List.Subset.refl _⟩, rfl, rfl⟩

/-- A callback does nothing, or it is one with the cookie of a login of its
browser. -/
theorem callback_cases {browser : Nat} {cookieHeader : Option (List Char)}
    {code state : Option String} {now verifiedAt issuedAt : Instant}
    {lost : SdkRequest → Bool} {next : SignInState}
    (hstep : env.step st (.callback browser cookieHeader code state now
      verifiedAt issuedAt lost) = some next) :
    next = st ∨ ∃ login ∈ st.logins, login.browser = browser ∧
      next = env.called st
        (ServerSdkClient.completeAuthorizationCodeCallback
          (env.client st lost).toCallbackEnv verifiedAt
          (env.inputOf login code state) (recalled st))
        browser (env.inputOf login code state) issuedAt := by
  rw [step] at hstep
  split at hstep
  case isFalse => cases hstep
  case isTrue hpresents =>
  split at hstep
  case h_1 =>
    cases hstep
    exact .inl rfl
  case h_2 input hinput =>
    cases hstep
    obtain ⟨login, hlogin, hbrowser, rfl⟩ :=
      callbackOf_eq_some hpresents hinput
    exact .inr ⟨login, hlogin, hbrowser, rfl⟩

theorem Approved.mono {next : SignInState} {signIn : SignIn}
    (happroved : env.Approved st signIn) (hgrows : Grows st next) :
    env.Approved next signIn := by
  obtain ⟨login, hlogin, grant, hgrant, hrest⟩ := happroved
  exact ⟨login, hgrows.logins hlogin, grant, hgrows.codes hgrant, hrest⟩

theorem randomToken_ne_empty (draw : RandomDraw) : randomToken draw ≠ "" := by
  intro hempty
  have hlength := (ServerSdkClient.randomToken_isCodeVerifier draw).length.1
  rw [hempty] at hlength
  exact absurd hlength (by decide)

theorem safe_login (hsafe : env.Safe st) (browser : Nat)
    (draw : AuthorizationDraw) (now : Instant) (lost : SdkRequest → Bool) :
    env.Safe (env.startLogin st browser draw now lost) := by
  unfold startLogin
  split
  case h_1 sdk _ =>
    exact ⟨hsafe.filled, hsafe.asks, hsafe.distinct, hsafe.approved,
      hsafe.spent, hsafe.issued, hsafe.single⟩
  case h_2 auth sdk hauth =>
    obtain ⟨_, _, url, -, -, -, rfl⟩ :=
      ServerSdkClient.createAuthorizationUrl_ok.mp hauth
    refine ⟨?_, ?_, hsafe.distinct, ?_, hsafe.spent, hsafe.issued,
      hsafe.single⟩
    · rw [List.forall_mem_cons]
      exact ⟨⟨randomToken_ne_empty draw.state,
        randomToken_ne_empty draw.nonce⟩, hsafe.filled⟩
    · rw [List.forall_mem_cons]
      exact ⟨⟨url, ServerSdkClient.readAs_withParams url
        (ServerSdkClient.authorizationParams_names _ _ _ _)⟩, hsafe.asks⟩
    · intro signIn hsignIn
      exact (hsafe.approved signIn hsignIn).mono
        ⟨List.subset_cons_self _ _, List.Subset.refl _⟩

theorem safe_authorize {code : String} {grant : CodeGrant}
    {next : SignInState} (hsafe : env.Safe st)
    (hstep : authorize st code grant = some next) : env.Safe next := by
  obtain ⟨hfresh, rfl⟩ := authorize_eq_some hstep
  refine ⟨hsafe.filled, hsafe.asks, ?_, ?_, hsafe.spent, ?_, hsafe.single⟩
  · rw [List.map_cons, List.nodup_cons]
    exact ⟨hfresh, hsafe.distinct⟩
  · intro signIn hsignIn
    exact (hsafe.approved signIn hsignIn).mono
      ⟨List.Subset.refl _, List.subset_cons_self _ _⟩
  · exact fun code hcode => List.mem_cons_of_mem _ (hsafe.issued code hcode)

/-- Codes that are used up were issued. -/
theorem issued_called (hhonest : env.Honest) (hsafe : env.Safe st)
    (requests : List SdkRequest) :
    ∀ code ∈ env.redeemed st requests ++ st.spent,
      code ∈ st.codes.map Prod.fst := by
  intro code hcode
  rcases List.mem_append.mp hcode with hredeemed | hspent
  · obtain ⟨request, -, hredeem⟩ := List.mem_filterMap.mp hredeemed
    obtain ⟨entry, hentry, rfl⟩ := Option.map_eq_some_iff.mp hredeem
    obtain ⟨post, -, hpaid⟩ := Option.bind_eq_some_iff.mp hentry
    exact List.mem_map_of_mem (hhonest.redeems _ _ _ entry hpaid).1
  · exact hsafe.issued code hspent

theorem safe_callback (hhonest : env.Honest) {browser : Nat}
    {cookieHeader : Option (List Char)} {code state : Option String}
    {now verifiedAt issuedAt : Instant} {lost : SdkRequest → Bool}
    {next : SignInState} (hsafe : env.Safe st)
    (hstep : env.step st (.callback browser cookieHeader code state now
      verifiedAt issuedAt lost) = some next) : env.Safe next := by
  rcases callback_cases hstep with rfl | ⟨login, hlogin, hbrowser, rfl⟩
  · exact hsafe
  rcases hcall : ServerSdkClient.completeAuthorizationCodeCallback
    (env.client st lost).toCallbackEnv verifiedAt _ (recalled st) with
    ⟨error | result, sdk⟩
  · exact ⟨hsafe.filled, hsafe.asks, hsafe.distinct,
      hsafe.approved, fun signIn hsignIn =>
        List.mem_append_right _ (hsafe.spent signIn hsignIn),
      issued_called hhonest hsafe _, hsafe.single⟩
  · obtain ⟨given, tokens, exchanged, parsed, hcode, hstate, htokens, hkept,
      hparsed, hsub, hnonce⟩ :=
      completeAuthorizationCodeCallback_exchanged rfl hcall
    obtain ⟨grant, hgrant, hunspent, hredirect, hchallenge, hresponse,
      hredeemed⟩ := redeem_of_exchanged hhonest htokens
    obtain ⟨hsubject, hcarried⟩ :=
      hhonest.about grant tokens parsed hresponse hparsed
    have hgiven : code = some given := (orNull_eq_some hcode).1
    subst hgiven
    have hnew : given ∈ env.redeemed st sdk.requests :=
      redeemed_subset hkept hredeemed
    refine ⟨hsafe.filled, hsafe.asks, hsafe.distinct, ?_, ?_,
      issued_called hhonest hsafe _, ?_⟩
    · change ∀ signIn ∈ _ :: st.signIns, _
      rw [List.forall_mem_cons]
      refine ⟨⟨login, hlogin, grant, hgrant, hbrowser, ?_, hchallenge, ?_,
        hredirect, ?_⟩, hsafe.approved⟩
      · have hgot : state = some login.pending.state :=
          (orNull_eq_some hstate).1
        subst hgot
        rfl
      · have hfilled : orNull (some login.pending.nonce) =
            some login.pending.nonce := by
          rw [orNull_some, if_neg (hsafe.filled login hlogin).2]
        have hexpected := hnonce login.pending.nonce hfilled
        rw [hcarried, Option.map_eq_some_iff] at hexpected
        obtain ⟨nonce, hgrantNonce, hsame⟩ := hexpected
        rw [hgrantNonce, Json.str.inj hsame]
      · rw [hsubject, Option.some.injEq] at hsub
        exact Json.str.inj hsub
    · change ∀ signIn ∈ _ :: st.signIns, _
      rw [List.forall_mem_cons]
      exact ⟨List.mem_append_left _ hnew, fun signIn hsignIn =>
        List.mem_append_right _ (hsafe.spent signIn hsignIn)⟩
    · change (given :: st.signIns.map SignIn.code).Nodup
      rw [List.nodup_cons]
      refine ⟨fun hmem => ?_, hsafe.single⟩
      obtain ⟨signIn, hsignIn, hsame⟩ := List.mem_map.mp hmem
      exact hunspent (hsame ▸ hsafe.spent signIn hsignIn)

theorem safe_step (hhonest : env.Honest) {action : SignInAction}
    {next : SignInState} (hsafe : env.Safe st)
    (hstep : env.step st action = some next) : env.Safe next := by
  cases action with
  | login browser draw now lost =>
      cases hstep
      exact safe_login hsafe browser draw now lost
  | authorize code grant => exact safe_authorize hsafe hstep
  | callback browser cookieHeader code state now verifiedAt issuedAt lost =>
      exact safe_callback hhonest hsafe hstep

theorem safe_init : env.Safe .init where
  filled := fun _ hlogin => by cases hlogin
  asks := fun _ hlogin => by cases hlogin
  distinct := List.nodup_nil
  approved := fun _ hsignIn => by cases hsignIn
  spent := fun _ hsignIn => by cases hsignIn
  issued := fun _ hcode => by cases hcode
  single := List.nodup_nil

/-- Whatever codes and cookies the browsers try: each session is of the account
that got its code for a login of the same browser, and no code opens two
sessions. -/
theorem signIns_approved (hhonest : env.Honest)
    {actions : List SignInAction} {last : SignInState}
    (hrun : StepSystem.run env.step .init actions = some last) :
    (∀ signIn ∈ last.signIns, env.Approved last signIn) ∧
      (last.signIns.map SignIn.code).Nodup := by
  have hsafe : env.Safe last :=
    StepSystem.run_invariant env.step
      (fun _ _ _ hsafe hstep => safe_step hhonest hsafe hstep) safe_init hrun
  exact ⟨hsafe.approved, hsafe.single⟩

end SignInEnv

end IdProvider
