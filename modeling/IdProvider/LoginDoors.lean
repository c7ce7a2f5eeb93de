/-
The two ways to log in: the form of an OIDC interaction and `POST /v1/login`.
-/
import IdProvider.CredentialFormats
import IdProvider.LoginLimits
import IdProvider.RateLimitKeys
import IdProvider.SteadyLogin

namespace IdProvider

open JsonText KeyedTable ServiceCall AuthService

/-! ## `loginRequestSchema` -/

/-- The fields of the body, before or after they are parsed. -/
structure LoginBody where
  email : String
  password : String
  mfaCode : Option String
  mfaFactorId : Option String
  mfaRecoveryCode : Option String
  challengeToken : Option String
  deriving DecidableEq

/-- The checks of zod, the message of its error and the runtime's lower
case. -/
structure DoorEnv extends BotEnv where
  isEmail : String → Bool
  isUuid : String → Bool
  toLowerCase : String → String
  zodMessage : LoginBody → String

def loginPasswordSchema : TextSchema where
  trims := false
  minLength := 1
  maxLength := some 128
  allowed := none

def challengeTokenSchema : TextSchema where
  trims := false
  minLength := 1
  maxLength := some 2048
  allowed := none

/-- `^\d{6}$` -/
def isTotpCode (text : String) : Bool :=
  decide (text.toList.length = 6) && text.toList.all Char.isDigit

/-- `z.string().refine(accepts)` -/
def checked (accepts : String → Bool) (text : String) : Option String :=
  if accepts text then some text else none

/-- `schema.optional()` -/
def optionalField (parse : String → Option String) :
    Option String → Option (Option String)
  | none => some none
  | some text => (parse text).map some

section Schema

variable (env : DoorEnv)

def normalizedEmail (text : String) : Option String :=
  (checked env.isEmail (trim text)).map env.toLowerCase

/-- A TOTP code and the id of its factor are provided together. -/
def loginRequestSchema (body : LoginBody) : Option LoginBody := do
  let email ← normalizedEmail env body.email
  let password ← loginPasswordSchema.parse body.password
  let mfaCode ← optionalField (checked isTotpCode) body.mfaCode
  let mfaFactorId ← optionalField (checked env.isUuid) body.mfaFactorId
  let mfaRecoveryCode ← optionalField mfaRecoveryCodeSchema.parse
    body.mfaRecoveryCode
  let challengeToken ← optionalField challengeTokenSchema.parse
    body.challengeToken
  if given mfaCode ≠ given mfaFactorId then none
  else
    some
      { email := email
        password := password
        mfaCode := mfaCode
        mfaFactorId := mfaFactorId
        mfaRecoveryCode := mfaRecoveryCode
        challengeToken := challengeToken }

end Schema

/-! ## The API -/

/-- The headers that `POST /v1/login` reads. -/
structure LoginHeaders where
  xForwardedFor : Option String
  userAgent : Option String
  xDeviceId : Option String
  deriving DecidableEq

def LoginBody.request (payload : LoginBody) (headers : LoginHeaders) :
    LoginRequest where
  email := payload.email
  password := payload.password
  mfa := ⟨payload.mfaCode, payload.mfaFactorId, payload.mfaRecoveryCode⟩
  challengeToken := payload.challengeToken
  xForwardedFor := headers.xForwardedFor
  userAgent := headers.userAgent
  xDeviceId := headers.xDeviceId

/-- `POST /v1/login` -/
def AuthRoutes.postLogin (env : DoorEnv) (body : LoginBody)
    (headers : LoginHeaders) (draw : SessionDraw) : Service LoginResult :=
  match loginRequestSchema env body with
  | none => throwApi 400 "validation_error" (env.zodMessage body)
  | some payload =>
      AuthRoutes.login env.toBotEnv (payload.request headers) draw

/-! ## The form -/

/-- What the interaction answers: it is finished, or the form is shown again
with status 401. -/
inductive InteractionOutcome where
  | finished (accountId : String) (amr : List String)
  | rendered (loginHint : String) (mfaRequired : Bool) (error : String)
  deriving DecidableEq

def InteractionForm.usesSecondFactor (form : InteractionForm) : Bool :=
  given form.mfaCode || given form.mfaRecoveryCode

/-- `POST /interaction/:uid` when the prompt is `login`.  Every error shows the
form again. -/
def postInteraction (env : LoginEnv) (form : InteractionForm)
    (draw : SessionDraw) : Service InteractionOutcome := do
  let outcome ← settle (AuthService.login env form.input draw)
  match outcome with
  | .error _ =>
      pure (.rendered (form.email.getD "") form.usesSecondFactor
        "Invalid credentials.")
  | .ok (.mfaRequired _ _) =>
      pure (.rendered (form.email.getD "") true "MFA is required.")
  | .ok (.ok userId _ _ _) =>
      pure (.finished userId
        (if form.usesSecondFactor then ["pwd", "otp"] else ["pwd"]))

/-! ## One input for both -/

inductive TypedFactor where
  | none
  | totp (code factorId : String)
  | recoveryCode (code : String)
  deriving DecidableEq

structure TypedLogin where
  email : String
  password : String
  factor : TypedFactor
  deriving DecidableEq

namespace TypedFactor

def mfaCode? : TypedFactor → Option String
  | .totp code _ => some code
  | _ => Option.none

def mfaFactorId? : TypedFactor → Option String
  | .totp _ factorId => some factorId
  | _ => Option.none

def mfaRecoveryCode? : TypedFactor → Option String
  | .recoveryCode code => some code
  | _ => Option.none

end TypedFactor

namespace TypedLogin

/-- The form has no field for the id of a factor. -/
def form (typed : TypedLogin) : InteractionForm where
  email := some typed.email
  password := some typed.password
  mfaCode := typed.factor.mfaCode?
  mfaRecoveryCode := typed.factor.mfaRecoveryCode?

def body (typed : TypedLogin) (challengeToken : Option String) :
    LoginBody where
  email := typed.email
  password := typed.password
  mfaCode := typed.factor.mfaCode?
  mfaFactorId := typed.factor.mfaFactorId?
  mfaRecoveryCode := typed.factor.mfaRecoveryCode?
  challengeToken := challengeToken

end TypedLogin

/-! ## The route while nothing fails -/

/-- No counter of the bot risk is at its limit. -/
structure RiskSpare (env : BotEnv) (now : Instant)
    (counters : String → Option RateCounter) : Prop where
  ipRisk : ∀ ipAddress, Spare now counters (ipRiskKey "login" ipAddress)
    env.botRiskLoginThresholdPerWindow env.botRiskWindowSeconds
  emailRisk : ∀ email, Spare now counters (emailRiskKey "login" email)
    env.botRiskLoginThresholdPerWindow env.botRiskWindowSeconds

/-- No rate limit is exhausted. -/
structure LimitsSpare (env : BotEnv) (now : Instant)
    (counters : String → Option RateCounter) : Prop extends
    RiskSpare env now counters, RecoverySpare env.toLoginEnv now counters where
  login : ∀ email ipAddress, Spare now counters
    (AuthRoutes.loginKey email ipAddress) env.rateLimitLoginPerMin 60

section Route

variable (env : BotEnv) (now : Instant)
  (counters : String → Option RateCounter) (request : LoginRequest)

/-- The level of a request that no counter blocks. -/
def riskLevelAt : BotRiskLevel :=
  let ipRate := spareRate now counters (ipRiskKey "login" request.ipAddress)
    env.botRiskLoginThresholdPerWindow env.botRiskWindowSeconds
  if isBlank request.botRisk.userAgent then .medium
  else
    match orNull request.botRisk.email with
    | none => ipRiskLevel env ipRate
    | some email =>
        emailRiskLevel env ipRate (spareRate now counters
          (emailRiskKey "login" email) env.botRiskLoginThresholdPerWindow
          env.botRiskWindowSeconds)

/-- A challenge that is not switched off. -/
def challengeAsked (riskLevel : BotRiskLevel) : Bool :=
  decide (env.turnstileEnabled = true ∧
    (env.turnstileEnforceLoginMode = .always ∨
      env.turnstileEnforceLoginMode = .risk ∧ riskLevel = .medium))

/-- A provider that does not answer is taken for a pass. -/
def answerPasses : Except String TurnstileResult → Bool
  | .error _ => true
  | .ok verification =>
      verification.ok && decide (verification.action = some "login") &&
        decide (trim env.turnstileExpectedHostname = "" ∨
          verification.hostname = some env.turnstileExpectedHostname)

def challengePassed : Bool :=
  match orNull request.challengeToken with
  | none => false
  | some token => answerPasses env
      (env.verifyTurnstileToken token request.ipAddress now)

def challengeMetAt (riskLevel : BotRiskLevel) : Bool :=
  !challengeAsked env riskLevel || challengePassed env now request

def challengeMet : Bool :=
  challengeMetAt env now request (riskLevelAt env now counters request)

end Route

/-! ### Counters -/

theorem loginKey_ne {counterKey email : String} {ipAddress : Option String}
    (hhead : counterKey.toList.head? ≠ some 'l') :
    counterKey ≠ AuthRoutes.loginKey email ipAddress := by
  rintro rfl
  apply hhead
  rw [AuthRoutes.loginKey, String.toList_append, String.toList_append,
    String.toList_append]
  rfl

theorem head_ipRiskKey (ipAddress : Option String) :
    (ipRiskKey "login" ipAddress).toList.head? = some 'b' := by
  rw [ipRiskKey, String.toList_append, String.toList_append,
    String.toList_append]
  rfl

theorem head_emailRiskKey (email : String) :
    (emailRiskKey "login" email).toList.head? = some 'b' := by
  rw [emailRiskKey, String.toList_append, String.toList_append,
    String.toList_append]
  rfl

theorem ipRiskKey_ne {counterKey : String} {ipAddress : Option String}
    (hhead : counterKey.toList.head? ≠ some 'b') :
    counterKey ≠ ipRiskKey "login" ipAddress := by
  rintro rfl
  exact hhead (head_ipRiskKey ipAddress)

theorem emailRiskKey_ne {counterKey email : String}
    (hhead : counterKey.toList.head? ≠ some 'b') :
    counterKey ≠ emailRiskKey "login" email := by
  rintro rfl
  exact hhead (head_emailRiskKey email)

theorem emailRiskKey_ne_ipRiskKey (email : String)
    (ipAddress : Option String) :
    emailRiskKey "login" email ≠ ipRiskKey "login" ipAddress := by
  intro heq
  have hlist := congrArg String.toList heq
  rw [emailRiskKey, ipRiskKey, String.toList_append, String.toList_append,
    String.toList_append, String.toList_append, String.toList_append,
    String.toList_append] at hlist
  cases hlist

section Steady

variable {env : BotEnv} {st : ServiceState} {now : Instant}

theorem RecoverySpare.of_counters {counters others : String → Option RateCounter}
    (hspare : RecoverySpare env.toLoginEnv now counters)
    (hsame : ∀ counterKey : String, counterKey.toList.head? = some 'm' →
      others ("rl:" ++ counterKey) = counters ("rl:" ++ counterKey)) :
    RecoverySpare env.toLoginEnv now others where
  user userId := by
    rw [Spare, hsame _ (by rw [String.toList_append]; rfl)]
    exact hspare.user userId
  address address := by
    rw [Spare, hsame _ (by rw [String.toList_append]; rfl)]
    exact hspare.address address

theorem RiskSpare.of_counters {counters others : String → Option RateCounter}
    (hspare : RiskSpare env now counters)
    (hsame : ∀ counterKey : String, counterKey.toList.head? = some 'b' →
      others ("rl:" ++ counterKey) = counters ("rl:" ++ counterKey)) :
    RiskSpare env now others where
  ipRisk ipAddress := by
    rw [Spare, hsame _ (head_ipRiskKey ipAddress)]
    exact hspare.ipRisk ipAddress
  emailRisk email := by
    rw [Spare, hsame _ (head_emailRiskKey email)]
    exact hspare.emailRisk email

variable (env now) in
theorem riskLevelAt_of_counters {counters others : String → Option RateCounter}
    (hsame : ∀ counterKey : String, counterKey.toList.head? = some 'b' →
      others ("rl:" ++ counterKey) = counters ("rl:" ++ counterKey))
    (request : LoginRequest) :
    riskLevelAt env now others request =
      riskLevelAt env now counters request := by
  simp only [riskLevelAt, spareRate, hsame _ (head_ipRiskKey _),
    hsame _ (head_emailRiskKey _)]

/-- Counting keeps the tables, the clock and the counters of other kinds. -/
theorem gives_assessBotRisk (hsteady : Steady now st)
    (hspare : RiskSpare env now st.counters) (request : LoginRequest) :
    Ensures (assessBotRiskForLogin env request.botRisk) (fun outcome after =>
      outcome = .ok (riskLevelAt env now st.counters request) ∧
      after.db = st.db ∧ after.readings = st.readings ∧
      ∀ counterKey : String, counterKey.toList.head? = some 'm' →
        after.counters ("rl:" ++ counterKey) =
          st.counters ("rl:" ++ counterKey)) st := by
  have hother : ∀ {counterKey : String}, counterKey.toList.head? = some 'm' →
      counterKey.toList.head? ≠ some 'b' := by
    intro counterKey hhead
    rw [hhead]
    decide
  apply Ensures.bind (allows_consume hsteady (hspare.ipRisk request.ipAddress))
  · rintro ipRate first ⟨hrate, hdb, hreadings, hcounters⟩
    cases hrate
    have hkept : ∀ counterKey : String, counterKey.toList.head? = some 'm' →
        first.counters ("rl:" ++ counterKey) =
          st.counters ("rl:" ++ counterKey) :=
      fun counterKey hhead => hcounters _ (ipRiskKey_ne (hother hhead))
    apply ensures_ite
    · intro hblocked
      cases hblocked
    intro _
    apply ensures_ite
    · intro hblank
      refine ⟨?_, hdb, hreadings, hkept⟩
      rw [riskLevelAt, if_pos hblank]
      rfl
    intro hblank
    unfold riskLevelAt
    rw [if_neg hblank]
    cases orNull request.botRisk.email with
    | none => exact ⟨rfl, hdb, hreadings, hkept⟩
    | some email =>
        have hemail := hspare.emailRisk email
        rw [Spare, ← hcounters _ (emailRiskKey_ne_ipRiskKey email _)]
          at hemail
        apply Ensures.bind
          (allows_consume (hsteady.of_readings hreadings) hemail)
        · rintro emailRate second ⟨hemailRate, hdb', hreadings', hcounters'⟩
          cases hemailRate
          have hsame : spareRate now first.counters (emailRiskKey "login" email)
                env.botRiskLoginThresholdPerWindow env.botRiskWindowSeconds =
              spareRate now st.counters (emailRiskKey "login" email)
                env.botRiskLoginThresholdPerWindow
                env.botRiskWindowSeconds := by
            rw [spareRate, spareRate,
              hcounters _ (emailRiskKey_ne_ipRiskKey email _)]
          rw [hsame]
          exact ⟨rfl, hdb'.trans hdb, hreadings'.trans hreadings,
            fun counterKey hhead =>
              (hcounters' _ (emailRiskKey_ne (hother hhead))).trans
                (hkept counterKey hhead)⟩
        · rintro error second ⟨herror, -⟩
          cases herror
  · rintro error first ⟨herror, -⟩
    cases herror

theorem riskLevelAt_ne_high (counters : String → Option RateCounter)
    (request : LoginRequest) : riskLevelAt env now counters request ≠ .high := by
  have hrate : ∀ ipRate : RateLimiter.RateLimit,
      ipRiskLevel env ipRate ≠ .high := by
    intro ipRate
    unfold ipRiskLevel
    split
    case isTrue => decide
    case isFalse => decide
  unfold riskLevelAt
  dsimp only
  split
  case isTrue => decide
  case isFalse =>
    split
    case h_1 => exact hrate _
    case h_2 =>
      unfold emailRiskLevel
      rw [if_neg (by exact Bool.noConfusion)]
      split
      case isTrue => decide
      case isFalse => decide

def loginChallenge (request : LoginRequest) : AuthRoutes.ChallengeInput where
  endpoint := "login"
  action := "login"
  ipAddress := request.ipAddress
  token := request.challengeToken
  failOpenOnProviderError := true

theorem judgeChallenge_steady (request : LoginRequest)
    (answer : Except String TurnstileResult) :
    Ensures (AuthRoutes.judgeChallenge env (loginChallenge request) answer)
      (fun outcome after => (outcome = .ok () ↔ answerPasses env answer = true) ∧
        after.basis = st.basis) st := by
  unfold AuthRoutes.judgeChallenge
  cases answer with
  | error error =>
      apply (gives_event _ _ _).bind
      exact fun after hsame => ⟨iff_of_true rfl rfl, hsame⟩
  | ok verification =>
      have hpasses : answerPasses env (.ok verification) = true ↔
          ¬ (verification.ok = false ∨
            decide (verification.action = some "login") = false ∨
            decide (trim env.turnstileExpectedHostname = "" ∨
              verification.hostname =
                some env.turnstileExpectedHostname) = false) := by
        rw [answerPasses, Bool.and_eq_true, Bool.and_eq_true, and_assoc,
          not_or, not_or, Bool.not_eq_false, Bool.not_eq_false,
          Bool.not_eq_false]
      rw [hpasses]
      apply ensures_ite
      · intro hbad
        apply (gives_event _ _ _).bind
        exact fun after hsame =>
          ⟨iff_of_false nofun fun hgood => hgood hbad, hsame⟩
      · exact fun hgood => ⟨iff_of_true rfl hgood, rfl⟩

theorem gives_askTurnstile (hsteady : Steady now st) (token : String)
    (ipAddress : Option String) :
    Gives (AuthRoutes.askTurnstile env token ipAddress)
      (env.verifyTurnstileToken token ipAddress now) st := by
  have hreading : Gives nextReading ⟨now, false⟩ st :=
    ⟨congrArg Except.ok (hsteady st.ticks), rfl⟩
  apply hreading.bind
  exact fun _ hsame => ⟨rfl, hsame⟩

theorem verifyChallenge_steady (hsteady : Steady now st)
    (request : LoginRequest) :
    Ensures (AuthRoutes.verifyChallengeOrThrow env (loginChallenge request))
      (fun outcome after =>
        (outcome = .ok () ↔ env.turnstileEnabled = false ∨
          challengePassed env now request = true) ∧
        after.basis = st.basis) st := by
  apply ensures_ite
  · exact fun hoff => ⟨iff_of_true rfl (.inl hoff), rfl⟩
  intro hon
  unfold challengePassed
  dsimp only [loginChallenge]
  cases orNull request.challengeToken with
  | none =>
      apply (gives_event _ _ _).bind
      intro after hsame
      refine ⟨iff_of_false nofun ?_, hsame⟩
      rintro (hoff | hpassed)
      · exact hon hoff
      · cases hpassed
  | some token =>
      apply (gives_askTurnstile hsteady token _).bind
      intro first hfirst
      apply (judgeChallenge_steady request _).imp
      rintro outcome after ⟨hpasses, hsame⟩
      rw [hpasses, or_iff_right hon]
      exact ⟨Iff.rfl, hsame.trans hfirst⟩

/-- The challenge ends the request unless it is met. -/
theorem enforceRiskLevel_steady (hsteady : Steady now st)
    (request : LoginRequest) {riskLevel : BotRiskLevel}
    (hlevel : riskLevel ≠ .high) :
    Ensures (AuthRoutes.enforceRiskLevel env request riskLevel)
      (fun outcome after =>
        (outcome = .ok () ↔ challengeMetAt env now request riskLevel = true) ∧
          after.basis = st.basis) st := by
  apply ensures_ite
  · exact fun hhigh => absurd hhigh hlevel
  intro _
  by_cases hmode : env.turnstileEnforceLoginMode = .always ∨
    env.turnstileEnforceLoginMode = .risk ∧ riskLevel = .medium
  · rw [if_pos hmode]
    apply (verifyChallenge_steady hsteady request).imp
    rintro outcome after ⟨hpasses, hsame⟩
    refine ⟨?_, hsame⟩
    rw [hpasses, challengeMetAt, Bool.or_eq_true, Bool.not_eq_true',
      challengeAsked, decide_eq_false_iff_not]
    simp only [hmode, and_true, Bool.not_eq_true]
  · rw [if_neg hmode]
    have hasked : challengeAsked env riskLevel = false :=
      decide_eq_false fun hasked => hmode hasked.2
    refine ⟨iff_of_true rfl ?_, rfl⟩
    rw [challengeMetAt, hasked]
    rfl

/-- Behind its counters and its challenge the route is the login. -/
theorem issued_route (hsteady : Steady now st)
    (hadaptive : env.adaptiveMfaEnabled = false)
    (hspare : LimitsSpare env now st.counters) (request : LoginRequest)
    (draw : SessionDraw) :
    issuedUser (AuthRoutes.login env request draw st).1 =
      if challengeMet env now st.counters request = true then
        admitted env.toLoginEnv st.db now request.input draw
      else none := by
  have hroute : Ensures (AuthRoutes.login env request draw)
      (fun outcome _ => issuedUser outcome =
        if challengeMet env now st.counters request = true then
          admitted env.toLoginEnv st.db now request.input draw
        else none) st := by
    apply Ensures.bind (allows_consume hsteady
      (hspare.login request.email request.ipAddress))
    · rintro rate first ⟨hrate, hdb, hreadings, hcounters⟩
      cases hrate
      have hlater := hsteady.of_readings hreadings
      have hkept : ∀ (head : Char) (counterKey : String), head ≠ 'l' →
          counterKey.toList.head? = some head →
            first.counters ("rl:" ++ counterKey) =
              st.counters ("rl:" ++ counterKey) := by
        intro head counterKey hne hhead
        apply hcounters _ (loginKey_ne _)
        rw [hhead]
        exact fun hsame => hne (Option.some.inj hsame)
      have hrisk := hkept 'b'
      have hlevelSame := riskLevelAt_of_counters env now
        (fun counterKey => hrisk counterKey (by decide)) request
      apply ensures_ite
      · intro hblocked
        cases hblocked
      intro _
      apply Ensures.bind (gives_assessBotRisk hlater
        (hspare.toRiskSpare.of_counters fun counterKey =>
          hrisk counterKey (by decide)) request)
      · rintro riskLevel second ⟨hlevel, hdb', hreadings', hcounters'⟩
        cases hlevel
        rw [hlevelSame]
        have hlast := hlater.of_readings hreadings'
        apply Ensures.bind (enforceRiskLevel_steady hlast request
          (riskLevelAt_ne_high st.counters request))
        · rintro _ third ⟨hmet, hsame⟩
          have hrecovery : RecoverySpare env.toLoginEnv now third.counters := by
            refine hspare.toRecoverySpare.of_counters fun counterKey hhead => ?_
            rw [basis_counters hsame, hcounters' counterKey hhead]
            exact hkept 'm' counterKey (by decide) hhead
          have hissued := issued_login (hlast.of_basis hsame) hadaptive
            hrecovery request.input draw
          rw [basis_db hsame, hdb', hdb] at hissued
          rw [challengeMet, if_pos (hmet.mp rfl)]
          exact hissued
        · rintro error third ⟨hmet, -⟩
          rw [challengeMet, if_neg fun hpassed => by cases hmet.mpr hpassed]
          rfl
      · rintro error second ⟨herror, -⟩
        cases herror
    · rintro error first ⟨herror, -⟩
      cases herror
  exact hroute

end Steady

/-! ## Whom the doors let in -/

def finishedAccount : Except Failure InteractionOutcome → Option String
  | .ok (.finished accountId _) => some accountId
  | _ => none

/-- The form finishes for the user of the session. -/
theorem finishedAccount_eq (env : LoginEnv) (form : InteractionForm)
    (draw : SessionDraw) (st : ServiceState) :
    finishedAccount (postInteraction env form draw st).1 =
      issuedUser (AuthService.login env form.input draw st).1 := by
  have hsettle : settle (AuthService.login env form.input draw) st =
      (.ok (AuthService.login env form.input draw st).1,
        (AuthService.login env form.input draw st).2) := rfl
  rw [postInteraction, bind_ok hsettle]
  cases (AuthService.login env form.input draw st).1 with
  | error error => rfl
  | ok result =>
      cases result with
      | mfaRequired userId adaptiveRisk => rfl
      | ok userId session mfaEnabled adaptiveRisk => rfl

theorem issued_postLogin {env : DoorEnv} {st : ServiceState} {now : Instant}
    (hsteady : Steady now st) (hadaptive : env.adaptiveMfaEnabled = false)
    (hspare : LimitsSpare env.toBotEnv now st.counters) (body : LoginBody)
    (headers : LoginHeaders) (draw : SessionDraw) (userId : String) :
    issuedUser (AuthRoutes.postLogin env body headers draw st).1 =
        some userId ↔
      ∃ payload, loginRequestSchema env body = some payload ∧
        challengeMet env.toBotEnv now st.counters (payload.request headers) =
          true ∧
        admitted env.toLoginEnv st.db now (payload.request headers).input
          draw = some userId := by
  unfold AuthRoutes.postLogin
  cases loginRequestSchema env body with
  | none =>
      refine iff_of_false nofun ?_
      rintro ⟨payload, hpayload, -⟩
      cases hpayload
  | some payload =>
      dsimp only
      rw [issued_route hsteady hadaptive hspare, Option.ite_none_right_eq_some]
      constructor
      · rintro ⟨hmet, hadmitted⟩
        exact ⟨payload, rfl, hmet, hadmitted⟩
      · rintro ⟨other, hother, hmet, hadmitted⟩
        cases hother
        exact ⟨hmet, hadmitted⟩

theorem admitted_eq_some {env : LoginEnv} {db : AccountDb} {now : Instant}
    {input : LoginInput} {draw : SessionDraw} {userId : String}
    (hsingle : ¬ (given input.mfa.mfaCode = true ∧
      given input.mfa.mfaRecoveryCode = true)) :
    admitted env db now input draw = some userId ↔
      ∃ user, entrant env db input.email input.password = some user ∧
        user.id = userId ∧ sessionFits env db now draw = true ∧
        (hasFactor db user.id = true →
          factorSuffices env db now user.id input.mfa = true) := by
  rw [admitted, if_neg hsingle]
  cases entrant env db input.email input.password with
  | none =>
      refine iff_of_false nofun ?_
      rintro ⟨user, huser, -⟩
      cases huser
  | some user =>
      dsimp only
      rw [Option.ite_none_right_eq_some, Option.some.injEq]
      constructor
      · rintro ⟨⟨hfactor, hfits⟩, hid⟩
        exact ⟨user, rfl, hid, hfits, hfactor⟩
      · rintro ⟨other, hother, hid, hfits, hfactor⟩
        cases hother
        exact ⟨⟨hfactor, hfits⟩, hid⟩

/-! ### Second factors -/

/-- The factor, when the id of a TOTP factor can be named. -/
def TypedFactor.answers (env : LoginEnv) (db : AccountDb) (now : Instant)
    (userId : String) : TypedFactor → Bool
  | .none => false
  | .totp code factorId => totpGood env db now userId factorId code
  | .recoveryCode code => recoveryGood env db now userId code

/-- The factor, as far as the form has fields for it. -/
def TypedFactor.answersForm (env : LoginEnv) (db : AccountDb) (now : Instant)
    (userId : String) : TypedFactor → Bool
  | .none => false
  | .totp _ _ => false
  | .recoveryCode code =>
      decide (code ≠ "") && recoveryGood env db now userId code

theorem orNull_orNull (text : Option String) :
    orNull (orNull text) = orNull text := by
  cases text with
  | none => rfl
  | some text =>
      rw [orNull_some]
      split
      case isTrue => rfl
      case isFalse hnonempty => rw [orNull_some, if_neg hnonempty]

theorem factorSuffices_form (env : LoginEnv) (db : AccountDb) (now : Instant)
    (userId : String) (typed : TypedLogin) :
    factorSuffices env db now userId typed.form.input.mfa =
      typed.factor.answersForm env db now userId := by
  unfold factorSuffices InteractionForm.input
  dsimp only
  rw [orNull_orNull, orNull_orNull]
  unfold TypedLogin.form TypedFactor.answersForm
  cases typed.factor with
  | none => rfl
  | totp code factorId =>
      dsimp only [TypedFactor.mfaCode?, TypedFactor.mfaRecoveryCode?]
      cases orNull (some code) with
      | none => rfl
      | some code => rfl
  | recoveryCode code =>
      dsimp only [TypedFactor.mfaCode?, TypedFactor.mfaRecoveryCode?]
      rw [orNull_some]
      by_cases hempty : code = ""
      · rw [if_pos hempty, decide_eq_false (not_not_intro hempty)]
        rfl
      · rw [if_neg hempty, decide_eq_true hempty, Bool.true_and]

theorem normalizeCode_trim (env : LoginEnv) (code : String) :
    MfaRecoveryService.normalizeCode env (trim code) =
      MfaRecoveryService.normalizeCode env code := by
  have hkept := filter_trim keepsCode_of_isWhitespace code
  exact congrArg (fun kept => env.toUpperCase (String.ofList kept)) hkept

theorem recoveryGood_trim (env : LoginEnv) (db : AccountDb) (now : Instant)
    (userId code : String) :
    recoveryGood env db now userId (trim code) =
      recoveryGood env db now userId code := by
  rw [recoveryGood, recoveryGood, normalizeCode_trim]

/-- What a parsed body has kept of the input. -/
structure LoginBody.Keeps (payload : LoginBody) (typed : TypedLogin) :
    Prop where
  password : payload.password = typed.password
  mfaCode : payload.mfaCode = typed.factor.mfaCode?
  mfaFactorId : payload.mfaFactorId = typed.factor.mfaFactorId?
  mfaRecoveryCode : payload.mfaRecoveryCode =
    typed.factor.mfaRecoveryCode?.map trim
  given_mfaCode : payload.mfaCode.all (· ≠ "") = true
  given_mfaRecoveryCode : payload.mfaRecoveryCode.all (· ≠ "") = true
  together : given payload.mfaCode = given payload.mfaFactorId

/-- An optional field that is parsed as `read` reads it, and never empty. -/
theorem optionalField_read (read : String → String)
    {parse : String → Option String}
    (hread : ∀ text value, parse text = some value →
      value = read text ∧ value ≠ "")
    {text value : Option String}
    (hvalue : optionalField parse text = some value) :
    value = text.map read ∧ value.all (· ≠ "") = true := by
  cases text with
  | none =>
      cases hvalue
      exact ⟨rfl, rfl⟩
  | some text =>
      rw [optionalField, Option.map_eq_some_iff] at hvalue
      obtain ⟨parsed, hparsed, rfl⟩ := hvalue
      obtain ⟨rfl, hnonempty⟩ := hread text parsed hparsed
      exact ⟨rfl, decide_eq_true hnonempty⟩

theorem checked_eq_some {accepts : String → Bool} {text value : String}
    (hvalue : checked accepts text = some value) :
    value = text ∧ accepts text = true := by
  rw [checked, Option.ite_none_right_eq_some] at hvalue
  exact ⟨(Option.some.inj hvalue.2).symm, hvalue.1⟩

theorem LoginBody.keeps {env : DoorEnv} {typed : TypedLogin}
    {challengeToken : Option String} {payload : LoginBody}
    (hparsed : loginRequestSchema env (typed.body challengeToken) =
      some payload) : payload.Keeps typed := by
  simp only [loginRequestSchema, Option.bind_eq_bind,
    Option.bind_eq_some_iff] at hparsed
  obtain ⟨email, -, password, hpassword, mfaCode, hcode, mfaFactorId, hfactor,
    mfaRecoveryCode, hrecovery, challenge, -, htogether⟩ := hparsed
  rw [Option.ite_none_left_eq_some, not_not, Option.some.injEq] at htogether
  obtain ⟨htogether, rfl⟩ := htogether
  have hpassword' := (TextSchema.parse_eq_some.mp hpassword).1
  obtain ⟨hcodeValue, hcodeGiven⟩ := optionalField_read id
    (fun text value hvalue => by
      obtain ⟨rfl, hdigits⟩ := checked_eq_some hvalue
      refine ⟨rfl, ?_⟩
      rintro rfl
      cases hdigits) hcode
  obtain ⟨hrecoveryValue, hrecoveryGiven⟩ := optionalField_read trim
    (fun text value hvalue => by
      obtain ⟨hvalue, hmin, -⟩ := TextSchema.parse_eq_some.mp hvalue
      refine ⟨hvalue.symm, ?_⟩
      rintro rfl
      exact absurd hmin (by decide)) hrecovery
  have hfactorValue : mfaFactorId = (typed.body challengeToken).mfaFactorId := by
    cases htext : (typed.body challengeToken).mfaFactorId with
    | none =>
        rw [htext] at hfactor
        exact (Option.some.inj hfactor).symm
    | some text =>
        rw [htext, optionalField, Option.map_eq_some_iff] at hfactor
        obtain ⟨value, hvalue, rfl⟩ := hfactor
        rw [(checked_eq_some hvalue).1]
  exact
    { password := hpassword'.symm
      mfaCode := hcodeValue.trans Option.map_id'
      mfaFactorId := hfactorValue
      mfaRecoveryCode := hrecoveryValue
      given_mfaCode := hcodeGiven
      given_mfaRecoveryCode := hrecoveryGiven
      together := htogether }

/-- A parsed body has one second factor at most. -/
theorem LoginBody.Keeps.single {payload : LoginBody} {typed : TypedLogin}
    (hkeeps : payload.Keeps typed) (headers : LoginHeaders) :
    ¬ (given (payload.request headers).input.mfa.mfaCode = true ∧
      given (payload.request headers).input.mfa.mfaRecoveryCode = true) := by
  rintro ⟨hcode, hrecovery⟩
  change given payload.mfaCode = true at hcode
  change given payload.mfaRecoveryCode = true at hrecovery
  rw [hkeeps.mfaCode] at hcode
  rw [hkeeps.mfaRecoveryCode] at hrecovery
  cases hfactor : typed.factor with
  | none =>
      rw [hfactor] at hcode
      cases hcode
  | totp code factorId =>
      rw [hfactor] at hrecovery
      cases hrecovery
  | recoveryCode code =>
      rw [hfactor] at hcode
      cases hcode

/-- So has a form. -/
theorem TypedLogin.form_single (typed : TypedLogin) :
    ¬ (given typed.form.input.mfa.mfaCode = true ∧
      given typed.form.input.mfa.mfaRecoveryCode = true) := by
  rintro ⟨hcode, hrecovery⟩
  unfold InteractionForm.input TypedLogin.form at hcode hrecovery
  cases hfactor : typed.factor with
  | none =>
      rw [hfactor] at hcode
      cases hcode
  | totp code factorId =>
      rw [hfactor] at hrecovery
      cases hrecovery
  | recoveryCode code =>
      rw [hfactor] at hcode
      cases hcode

theorem orNull_of_all {text : Option String}
    (hgiven : text.all (· ≠ "") = true) : orNull text = text := by
  cases text with
  | none => rfl
  | some text =>
      rw [orNull_some, if_neg (of_decide_eq_true hgiven)]

theorem factorSuffices_payload {env : LoginEnv} {db : AccountDb}
    {now : Instant} {userId : String} {typed : TypedLogin}
    {payload : LoginBody} (hkeeps : payload.Keeps typed)
    (headers : LoginHeaders) :
    factorSuffices env db now userId (payload.request headers).input.mfa =
      typed.factor.answers env db now userId := by
  obtain ⟨-, hcode, hfactorId, hrecovery, hcodeGiven, hrecoveryGiven,
    htogether⟩ := hkeeps
  have hcodeNull := orNull_of_all hcodeGiven
  have hrecoveryNull := orNull_of_all hrecoveryGiven
  have hmfa : (payload.request headers).input.mfa =
      ⟨payload.mfaCode, payload.mfaFactorId, payload.mfaRecoveryCode⟩ := rfl
  rw [hmfa, factorSuffices]
  dsimp only
  rw [hrecoveryNull, hcodeNull, hrecovery, hcode]
  cases hfactor : typed.factor with
  | none => rfl
  | recoveryCode code => exact recoveryGood_trim env db now userId code
  | totp code factorId =>
      rw [hfactor] at hcode hfactorId
      have hgiven : given (some code) = true := by
        rw [hcode] at hcodeGiven
        exact hcodeGiven
      have hid : factorId ≠ "" := by
        rw [hcode, hfactorId] at htogether
        exact of_decide_eq_true (htogether.symm.trans hgiven)
      have hsome : (TypedFactor.totp code factorId).mfaFactorId? =
          some factorId := rfl
      rw [hfactorId, hsome, orNull_some, if_neg hid]
      rfl

theorem answers_of_form {env : LoginEnv} {db : AccountDb} {now : Instant}
    {userId : String} {factor : TypedFactor}
    (hform : factor.answersForm env db now userId = true) :
    factor.answers env db now userId = true := by
  cases factor with
  | none => cases hform
  | totp code factorId => cases hform
  | recoveryCode code =>
      rw [TypedFactor.answersForm, Bool.and_eq_true] at hform
      exact hform.2

/-- But for a TOTP code the form has the fields for what the schema accepts. -/
theorem LoginBody.Keeps.answersForm {payload : LoginBody} {typed : TypedLogin}
    (hkeeps : payload.Keeps typed) {env : LoginEnv} {db : AccountDb}
    {now : Instant} {userId : String}
    (hanswers : typed.factor.answers env db now userId = true)
    (hnot : ∀ code factorId, typed.factor ≠ .totp code factorId) :
    typed.factor.answersForm env db now userId = true := by
  cases hfactor : typed.factor with
  | none =>
      rw [hfactor] at hanswers
      cases hanswers
  | totp code factorId => exact absurd hfactor (hnot code factorId)
  | recoveryCode code =>
      have hgiven := hkeeps.given_mfaRecoveryCode
      rw [hkeeps.mfaRecoveryCode, hfactor] at hgiven
      have htrimmed : trim code ≠ "" := of_decide_eq_true hgiven
      rw [hfactor] at hanswers
      rw [TypedFactor.answersForm, Bool.and_eq_true, decide_eq_true_eq]
      refine ⟨?_, hanswers⟩
      rintro rfl
      exact htrimmed rfl

/-! ### The doors agree -/

/-- The user whom the form lets in. -/
structure FormAdmits (env : DoorEnv) (st : ServiceState) (now : Instant)
    (typed : TypedLogin) (draw : SessionDraw) (user : User) : Prop where
  entrant : entrant env.toLoginEnv st.db typed.email typed.password = some user
  fits : sessionFits env.toLoginEnv st.db now draw = true
  factor : hasFactor st.db user.id = true →
    typed.factor.answersForm env.toLoginEnv st.db now user.id = true

/-- The user whom the API lets in, with what its schema makes of the body. -/
structure ApiAdmits (env : DoorEnv) (st : ServiceState) (now : Instant)
    (typed : TypedLogin) (challengeToken : Option String)
    (headers : LoginHeaders) (draw : SessionDraw) (payload : LoginBody)
    (user : User) : Prop where
  parsed : loginRequestSchema env (typed.body challengeToken) = some payload
  challenge : challengeMet env.toBotEnv now st.counters
    (payload.request headers) = true
  entrant : entrant env.toLoginEnv st.db payload.email typed.password =
    some user
  fits : sessionFits env.toLoginEnv st.db now draw = true
  factor : hasFactor st.db user.id = true →
    typed.factor.answers env.toLoginEnv st.db now user.id = true

section Doors

variable {env : DoorEnv} {st : ServiceState} {now : Instant}
  {typed : TypedLogin} {challengeToken : Option String}
  {headers : LoginHeaders} {draw : SessionDraw}

theorem finished_iff (hsteady : Steady now st)
    (hadaptive : env.adaptiveMfaEnabled = false)
    (hspare : LimitsSpare env.toBotEnv now st.counters) (userId : String) :
    finishedAccount (postInteraction env.toLoginEnv typed.form draw st).1 =
        some userId ↔
      ∃ user, FormAdmits env st now typed draw user ∧ user.id = userId := by
  rw [finishedAccount_eq, issued_login hsteady hadaptive
    hspare.toRecoverySpare, admitted_eq_some typed.form_single]
  apply exists_congr
  intro user
  rw [factorSuffices_form]
  constructor
  · rintro ⟨hentrant, hid, hfits, hfactor⟩
    exact ⟨⟨hentrant, hfits, hfactor⟩, hid⟩
  · rintro ⟨⟨hentrant, hfits, hfactor⟩, hid⟩
    exact ⟨hentrant, hid, hfits, hfactor⟩

/-- A TOTP code never finishes an interaction of a user with a factor. -/
theorem not_finished_totp (hsteady : Steady now st)
    (hadaptive : env.adaptiveMfaEnabled = false)
    (hspare : LimitsSpare env.toBotEnv now st.counters)
    {code factorId userId : String} (htotp : typed.factor = .totp code factorId)
    (hfactor : hasFactor st.db userId = true) :
    finishedAccount (postInteraction env.toLoginEnv typed.form draw st).1 ≠
      some userId := by
  intro hfinished
  obtain ⟨user, hform, rfl⟩ :=
    (finished_iff hsteady hadaptive hspare userId).mp hfinished
  have hanswers := hform.factor hfactor
  rw [htotp] at hanswers
  cases hanswers

theorem opened_iff (hsteady : Steady now st)
    (hadaptive : env.adaptiveMfaEnabled = false)
    (hspare : LimitsSpare env.toBotEnv now st.counters) (userId : String) :
    issuedUser (AuthRoutes.postLogin env (typed.body challengeToken) headers
        draw st).1 = some userId ↔
      ∃ payload user, ApiAdmits env st now typed challengeToken headers draw
        payload user ∧ user.id = userId := by
  rw [issued_postLogin hsteady hadaptive hspare]
  apply exists_congr
  intro payload
  constructor
  · rintro ⟨hparsed, hmet, hadmitted⟩
    have hkeeps := LoginBody.keeps hparsed
    rw [admitted_eq_some (hkeeps.single headers)] at hadmitted
    obtain ⟨user, hentrant, hid, hfits, hfactor⟩ := hadmitted
    rw [factorSuffices_payload hkeeps] at hfactor
    have hentrant' : entrant env.toLoginEnv st.db payload.email
        typed.password = some user := by
      rw [← hkeeps.password]
      exact hentrant
    exact ⟨user, ⟨hparsed, hmet, hentrant', hfits, hfactor⟩, hid⟩
  · rintro ⟨user, hadmits, hid⟩
    have hkeeps := LoginBody.keeps hadmits.parsed
    have hentrant := hadmits.entrant
    rw [← hkeeps.password] at hentrant
    refine ⟨hadmits.parsed, hadmits.challenge, ?_⟩
    rw [admitted_eq_some (hkeeps.single headers)]
    refine ⟨user, hentrant, hid, hadmits.fits, ?_⟩
    rw [factorSuffices_payload hkeeps]
    exact hadmits.factor

/-- What one door lets in, the other lets in as well: the user of the email as
it is typed, whose enabled factor no TOTP code has to answer. -/
structure SameReach (env : DoorEnv) (st : ServiceState) (now : Instant)
    (typed : TypedLogin) (challengeToken : Option String)
    (headers : LoginHeaders) (draw : SessionDraw) : Prop where
  form : ∀ user, FormAdmits env st now typed draw user →
    ∃ payload, loginRequestSchema env (typed.body challengeToken) =
        some payload ∧
      challengeMet env.toBotEnv now st.counters (payload.request headers) =
        true ∧
      (entrant env.toLoginEnv st.db payload.email typed.password).map
        User.id = some user.id
  api : ∀ payload user, ApiAdmits env st now typed challengeToken headers draw
      payload user →
    (entrant env.toLoginEnv st.db typed.email typed.password).map User.id =
      some user.id ∧
    (hasFactor st.db user.id = true →
      ∀ code factorId, typed.factor ≠ .totp code factorId)

/-- Both doors let in the same user, if any. -/
def DoorsAgree (env : DoorEnv) (st : ServiceState) (typed : TypedLogin)
    (challengeToken : Option String) (headers : LoginHeaders)
    (draw : SessionDraw) : Prop :=
  ∀ userId,
    finishedAccount (postInteraction env.toLoginEnv typed.form draw st).1 =
        some userId ↔
      issuedUser (AuthRoutes.postLogin env (typed.body challengeToken) headers
        draw st).1 = some userId

end Doors

/-- The doors agree on every state, whatever is typed. -/
def DoorsAlwaysAgree (env : DoorEnv) : Prop :=
  ∀ st now typed challengeToken headers draw, Steady now st →
    LimitsSpare env.toBotEnv now st.counters →
      DoorsAgree env st typed challengeToken headers draw

namespace DoorWitness

def secret : String := "GEZDGNBVGY3TQOJQGEZDGNBVGY3TQOJQ"

/-- The code of that secret in the second half of the first minute. -/
def env : DoorEnv where
  toBotEnv :=
    { BotWitness.env with
      totpCheck := fun code key now => code == "287082" && key == secret &&
        decide (30000 ≤ now) && decide (now < 60000) }
  isEmail text := text.toList.contains '@'
  isUuid text := decide (text.toList.length = 36)
  toLowerCase text := String.ofList (text.toList.map Char.toLower)
  zodMessage _ := "[]"

def user : User := ⟨"user-1", .active, none, none, none, 0⟩

def factorId : String := "5f0c6a1e-7c7d-4b57-9b53-0d3f6f6f2a10"

/-- One user, with or without an enabled factor. -/
def state (factors : List MfaFactor) (hnodup : (factors.map key).Nodup) :
    ServiceState where
  db :=
    { users := ⟨[user], by simp⟩
      userPasswords := ⟨[⟨"user-1", PasswordWitness.oldHash, 0⟩], by simp⟩
      passwordResetTokens := .empty
      userSessions := .empty
      userEmails :=
        ⟨[⟨"email-1", "user-1", "owner@example.com", true, true, 0⟩], by simp⟩
      emailVerificationTokens := .empty
      externalIdentities := .empty
      mfaFactors := ⟨factors, hnodup⟩
      mfaRecoveryCodes := .empty
      socialLoginConfig := none }
  loginAttempts := []
  counters _ := none
  securityEvents := []
  auditLogs := []
  secondFactors := []
  readings _ := ⟨59000, false⟩
  ticks := 0

def plainState : ServiceState := state [] (by simp)

def mfaState : ServiceState :=
  state [⟨factorId, "user-1", "totp", some secret, true⟩] (by simp)

def headers : LoginHeaders where
  xForwardedFor := some "203.0.113.7"
  userAgent := some "Mozilla/5.0"
  xDeviceId := none

theorem spare_none (counterKey : String) {limit : Nat} (hlimit : 1 ≤ limit)
    (windowSeconds : Nat) :
    Spare 59000 (fun _ => none) counterKey limit windowSeconds := hlimit

theorem limitsSpare : LimitsSpare env.toBotEnv 59000 fun _ => none where
  ipRisk _ := spare_none _ (by decide) _
  emailRisk _ := spare_none _ (by decide) _
  user _ := spare_none _ (by decide) _
  address _ := spare_none _ (by decide) _
  login _ _ := spare_none _ (by decide) _

def plain : TypedLogin := ⟨"owner@example.com", "correct horse", .none⟩

def payload : LoginBody :=
  ⟨"owner@example.com", "correct horse", none, none, none, none⟩

theorem parsed_plain :
    loginRequestSchema env (plain.body none) = some payload := by
  decide +kernel

theorem entrant_plain : entrant env.toLoginEnv plainState.db
    "owner@example.com" "correct horse" = some user := by
  decide +kernel

theorem sameReach_plain :
    SameReach env plainState 59000 plain none headers BotWitness.draw where
  form found hform := by
    have hfound := entrant_plain.symm.trans hform.entrant
    cases hfound
    refine ⟨payload, parsed_plain, by decide +kernel, ?_⟩
    exact congrArg (Option.map User.id) entrant_plain
  api parsed found hapi := by
    cases parsed_plain.symm.trans hapi.parsed
    cases entrant_plain.symm.trans hapi.entrant
    refine ⟨congrArg (Option.map User.id) entrant_plain, ?_⟩
    intro _ code factorId
    exact nofun

/-- The form cannot name the factor of the code. -/
def coded : TypedLogin :=
  ⟨"owner@example.com", "correct horse", .totp "287082" factorId⟩

end DoorWitness

end IdProvider
