/-
The public routes that name an email address: what their answers tell a client
without a right password about the accounts.
-/
import IdProvider.LoginDoors
import IdProvider.PairedCalls

namespace IdProvider

open JsonText KeyedTable ServiceCall AuthService

/-! ## Requests and replies -/

structure PublicEnv extends RouteEnv where
  production : Bool

/-- What `emailVerificationRequestSchema` returns, and the header. -/
structure EmailVerificationRequest where
  email : String
  xForwardedFor : Option String
  deriving DecidableEq

def EmailVerificationRequest.ipAddress (request : EmailVerificationRequest) :
    Option String :=
  getIpAddress request.xForwardedFor

/-- A request, with what the server draws for it. -/
inductive PublicRequest where
  | login (request : LoginRequest) (draw : SessionDraw)
  | passwordReset (request : PasswordResetRequest)
      (tokenDraw : VerificationRepository.TokenDraw)
  | emailVerification (request : EmailVerificationRequest)
      (tokenDraw : VerificationRepository.TokenDraw)

inductive PublicReply where
  | login (result : LoginResult)
  | accepted (token : Option String)
  deriving DecidableEq

namespace AuthRoutes

variable (env : PublicEnv)

/-- The token of a service's answer, which production leaves out. -/
def shownToken (token : Option String) : Option String :=
  if env.production then none else token

def emailVerifyKey (email : String) (ipAddress : Option String) : String :=
  "email-verify:" ++ email ++ ":" ++ ipAddress.getD "unknown"

/-- The template is read, and not used yet. -/
def readTemplate (token : Option String) : Service Unit :=
  if given token then select fun _ => () else pure ()

/-- `POST /v1/email/verify/request` -/
def requestEmailVerification (request : EmailVerificationRequest)
    (tokenDraw : VerificationRepository.TokenDraw) :
    Service (Option String) := do
  let rate ← RateLimiter.consume
    (emailVerifyKey request.email request.ipAddress)
    env.rateLimitLoginPerMin 60
  if rate.allowed = false then
    throwApi 429 "rate_limited" "Too many verification attempts"
  else
    let token ← AuthService.requestEmailVerification env.toGoogleEnv
      tokenDraw request.email
    readTemplate token
    pure (shownToken env token)

def reply : PublicRequest → Service PublicReply
  | .login request draw => do
      let result ← login env.toBotEnv request draw
      pure (.login result)
  | .passwordReset request tokenDraw => do
      let token ← requestPasswordReset env.toRouteEnv request tokenDraw
      pure (.accepted (shownToken env token))
  | .emailVerification request tokenDraw => do
      let token ← requestEmailVerification env request tokenDraw
      pure (.accepted token)

end AuthRoutes

/-- A request that comes at an instant, at which nothing fails. -/
structure Visit where
  request : PublicRequest
  now : Instant

def ServiceState.at (st : ServiceState) (now : Instant) : ServiceState :=
  { st with readings := fun _ => ⟨now, false⟩ }

def PublicEnv.serve (env : PublicEnv) (st : ServiceState) (visit : Visit) :
    Except Failure PublicReply × ServiceState :=
  AuthRoutes.reply env visit.request (st.at visit.now)

/-! ## A client without a right password -/

/-- If it is a login, its password is not that of an active user. -/
def PublicRequest.Unproved (env : PublicEnv) (db : AccountDb) :
    PublicRequest → Prop
  | .login request _ =>
      entrant env.toLoginEnv db request.email request.password = none
  | _ => True

def PublicRequest.tokenDraw? :
    PublicRequest → Option VerificationRepository.TokenDraw
  | .login _ _ => none
  | .passwordReset _ tokenDraw => some tokenDraw
  | .emailVerification _ tokenDraw => some tokenDraw

def Visit.tokenDraw? (visit : Visit) :
    Option VerificationRepository.TokenDraw :=
  visit.request.tokenDraw?

/-- No token is drawn twice, and none is in the tables. -/
structure FreshDraws (env : PublicEnv) (db : AccountDb)
    (draws : List VerificationRepository.TokenDraw) : Prop where
  ids : (draws.map VerificationRepository.TokenDraw.id).Nodup
  hashes : (draws.map fun draw => env.hashOpaqueToken draw.token).Nodup
  passwordTokens : ∀ draw ∈ draws, ∀ row ∈ db.passwordResetTokens,
    row.id ≠ draw.id ∧ row.tokenHash ≠ env.hashOpaqueToken draw.token
  emailTokens : ∀ draw ∈ draws, ∀ row ∈ db.emailVerificationTokens,
    row.id ≠ draw.id ∧ row.tokenHash ≠ env.hashOpaqueToken draw.token

/-- The accounts, and what the visits bring. -/
structure Outside (env : PublicEnv) (visits : List Visit) (db : AccountDb) :
    Prop where
  unproved : ∀ visit ∈ visits, visit.request.Unproved env db
  fresh : FreshDraws env db (visits.filterMap Visit.tokenDraw?)

/-- Two servers that are asked the same at the same instant. -/
structure Alike (now : Instant) (db otherDb : AccountDb)
    (st other : ServiceState) : Prop where
  db_eq : st.db = db
  otherDb_eq : other.db = otherDb
  counters : st.counters = other.counters
  steady : Steady now st
  otherSteady : Steady now other

/-! ## Before the accounts are read -/

section Gates

variable {env : PublicEnv} {now : Instant} {db otherDb : AccountDb}

/-- Calls that come to one outcome everywhere and leave the basis alone. -/
theorem paired_of_basis {Value : Type} {first second : Service Value}
    {outcome : Except Failure Value}
    (hfirst : ∀ st, Steady now st → st.db = db →
      Ensures first (fun result after =>
        result = outcome ∧ after.basis = st.basis) st)
    (hsecond : ∀ st, Steady now st → st.db = otherDb →
      Ensures second (fun result after =>
        result = outcome ∧ after.basis = st.basis) st) :
    Paired (Alike now db otherDb) (Alike now db otherDb) first second := by
  intro st other halike
  obtain ⟨hresult, hbasis⟩ := hfirst st halike.steady halike.db_eq
  obtain ⟨hresult', hbasis'⟩ :=
    hsecond other halike.otherSteady halike.otherDb_eq
  refine ⟨hresult.trans hresult'.symm, ?_, ?_, ?_, ?_, ?_⟩
  · exact (basis_db hbasis).trans halike.db_eq
  · exact (basis_db hbasis').trans halike.otherDb_eq
  · rw [basis_counters hbasis, basis_counters hbasis']
    exact halike.counters
  · exact halike.steady.of_basis hbasis
  · exact halike.otherSteady.of_basis hbasis'

theorem paired_gives {Value : Type} {call : Service Value} {value : Value}
    (hgives : ∀ st, Steady now st → Gives call value st) :
    Paired (Alike now db otherDb) (Alike now db otherDb) call call :=
  paired_of_basis (fun st hsteady _ => hgives st hsteady)
    fun st hsteady _ => hgives st hsteady

theorem paired_consume (key : String) (limit windowSeconds : Nat) :
    Paired (Alike now db otherDb) (Alike now db otherDb)
      (RateLimiter.consume key limit windowSeconds)
      (RateLimiter.consume key limit windowSeconds) := by
  intro st other halike
  have hruns : ∀ st, Steady now st →
      RateLimiter.consume key limit windowSeconds st =
        let counter := RateLimiter.increment (st.counters ("rl:" ++ key)) now
          windowSeconds
        (.ok (if limit < counter.count then ⟨false, 0⟩
          else ⟨true, limit - counter.count⟩),
          { st.tick 1 with
            counters := fun other =>
              if other = "rl:" ++ key then some counter
              else st.counters other }) := by
    intro st hsteady
    have hanswers : (st.readings st.ticks).fails = false := by
      rw [hsteady st.ticks]
    have hnow : (st.readings st.ticks).now = now := by rw [hsteady st.ticks]
    unfold RateLimiter.consume
    rw [external_of_answers hanswers, hnow]
    rfl
  rw [hruns st halike.steady, hruns other halike.otherSteady, halike.counters]
  refine ⟨rfl, halike.db_eq, halike.otherDb_eq, ?_, halike.steady,
    halike.otherSteady⟩
  rfl

theorem paired_event (eventType : String) (userId : Option String)
    (payload : Json) :
    Paired (Alike now db otherDb) (Alike now db otherDb)
      (AuthService.createSecurityEvent eventType userId payload)
      (AuthService.createSecurityEvent eventType userId payload) :=
  paired_gives fun _ _ => gives_event eventType userId payload

theorem paired_reject {Value : Type} (eventType : String)
    (payload : List (String × Json)) (status : Nat) (code message : String) :
    Paired (Alike now db otherDb) (Alike now db otherDb)
      (AuthRoutes.recordBotEvent eventType payload >>= fun _ =>
        (throwApi status code message : Service Value))
      (AuthRoutes.recordBotEvent eventType payload >>= fun _ =>
        (throwApi status code message : Service Value)) :=
  (paired_event _ _ _).seq fun _ => paired_fail _

theorem paired_judgeChallenge (input : AuthRoutes.ChallengeInput)
    (answer : Except String TurnstileResult) :
    Paired (Alike now db otherDb) (Alike now db otherDb)
      (AuthRoutes.judgeChallenge env.toBotEnv input answer)
      (AuthRoutes.judgeChallenge env.toBotEnv input answer) := by
  cases answer with
  | error error =>
      apply (paired_event _ _ _).seq
      intro _
      apply paired_ite
      · exact fun _ => paired_pure _
      · exact fun _ => paired_fail _
  | ok verification =>
      apply paired_ite
      · exact fun _ => paired_reject _ _ _ _ _
      · exact fun _ => paired_pure _

theorem paired_verifyChallengeOrThrow (input : AuthRoutes.ChallengeInput) :
    Paired (Alike now db otherDb) (Alike now db otherDb)
      (AuthRoutes.verifyChallengeOrThrow env.toBotEnv input)
      (AuthRoutes.verifyChallengeOrThrow env.toBotEnv input) := by
  apply paired_ite
  · exact fun _ => paired_pure _
  intro _
  cases orNull input.token with
  | none => exact paired_reject _ _ _ _ _
  | some token =>
      have hreading : Paired (Alike now db otherDb) (Alike now db otherDb)
          nextReading nextReading := by
        apply paired_gives
        exact fun st hsteady =>
          ⟨congrArg Except.ok (hsteady st.ticks), rfl⟩
      apply (hreading.seq fun _ => paired_pure _).seq
      exact fun answer => paired_judgeChallenge input answer

theorem paired_requireChallenge (action : String)
    (ipAddress token : Option String) :
    Paired (Alike now db otherDb) (Alike now db otherDb)
      (AuthRoutes.requireChallenge env.toRouteEnv action ipAddress token)
      (AuthRoutes.requireChallenge env.toRouteEnv action ipAddress token) := by
  apply paired_ite
  · exact fun _ => paired_verifyChallengeOrThrow _
  · exact fun _ => paired_pure _

theorem paired_assessBotRiskForLogin (input : BotRiskInput) :
    Paired (Alike now db otherDb) (Alike now db otherDb)
      (AuthService.assessBotRiskForLogin env.toBotEnv input)
      (AuthService.assessBotRiskForLogin env.toBotEnv input) := by
  apply (paired_consume _ _ _).seq
  intro ipRate
  apply paired_ite
  · exact fun _ => paired_pure _
  intro _
  apply paired_ite
  · exact fun _ => paired_pure _
  intro _
  cases orNull input.email with
  | none => exact paired_pure _
  | some email =>
      apply (paired_consume _ _ _).seq
      exact fun _ => paired_pure _

theorem paired_enforceRiskLevel (request : LoginRequest)
    (riskLevel : BotRiskLevel) :
    Paired (Alike now db otherDb) (Alike now db otherDb)
      (AuthRoutes.enforceRiskLevel env.toBotEnv request riskLevel)
      (AuthRoutes.enforceRiskLevel env.toBotEnv request riskLevel) := by
  apply paired_ite
  · exact fun _ => paired_reject _ _ _ _ _
  intro _
  apply paired_ite
  · exact fun _ => paired_verifyChallengeOrThrow _
  · exact fun _ => paired_pure _

/-- What a route does behind a counter of its own. -/
theorem paired_limited {Value : Type}
    {after : ServiceState → ServiceState → Prop} (key message : String) (limit : Nat) {first second : Service Value}
    (hafter : ∀ st other, Alike now db otherDb st other → after st other)
    (hcalls : Paired (Alike now db otherDb) after first second) :
    Paired (Alike now db otherDb) after
      (RateLimiter.consume key limit 60 >>= fun rate =>
        if rate.allowed = false then throwApi 429 "rate_limited" message
        else first)
      (RateLimiter.consume key limit 60 >>= fun rate =>
        if rate.allowed = false then throwApi 429 "rate_limited" message
        else second) := by
  refine (paired_consume key limit 60).bind ?_ hafter
  intro rate
  apply paired_ite
  · exact fun _ st other halike => ⟨rfl, hafter st other halike⟩
  · exact fun _ => hcalls

end Gates

/-! ## Where the accounts are read -/

section Accounts

variable {env : PublicEnv} {now : Instant} {st : ServiceState}

/-- What a login answers whose password is not right. -/
def rejection (mfa : MfaInput) : Failure :=
  if given mfa.mfaCode = true ∧ given mfa.mfaRecoveryCode = true then
    .api ⟨400, "mfa_method_conflict",
      "Use either MFA code or recovery code"⟩
  else .api ⟨401, "invalid_credentials", "Invalid email or password"⟩

theorem login_rejected (hsteady : Steady now st) (input : LoginInput)
    (draw : SessionDraw)
    (hunproved : entrant env.toLoginEnv st.db input.email input.password =
      none) :
    Ensures (AuthService.login env.toLoginEnv input draw)
      (fun outcome after => outcome = .error (rejection input.mfa) ∧
        after.basis = st.basis) st := by
  unfold rejection
  apply ensures_ite
  · intro hconflict
    rw [if_pos hconflict]
    exact ⟨rfl, rfl⟩
  intro hconflict
  rw [if_neg hconflict]
  apply (gives_select hsteady _).bind
  intro first hfirst
  unfold entrant at hunproved
  cases hfound : findWithPasswordByEmail st.db input.email with
  | none =>
      apply (gives_recordAttempt (hsteady.of_basis hfirst) _ _ _).bind
      intro second hsecond
      apply (gives_event _ _ _).bind
      exact fun third hthird =>
        ⟨rfl, hthird.trans (hsecond.trans hfirst)⟩
  | some found =>
      rw [hfound] at hunproved
      dsimp only at hunproved
      apply (gives_verifyPassword (hsteady.of_basis hfirst) _ _ _).bind
      intro second hsecond
      have hbasis := hsecond.trans hfirst
      have hlater := hsteady.of_basis hbasis
      apply ensures_ite
      · intro hvalid
        apply (gives_recordAttempt hlater _ _ _).bind
        intro third hthird
        apply ensures_ite
        · intro _
          apply (gives_event _ _ _).bind
          exact fun fourth hfourth =>
            ⟨rfl, hfourth.trans (hthird.trans hbasis)⟩
        · intro hactive
          rw [not_not] at hactive
          rw [if_pos ⟨hvalid, hactive⟩] at hunproved
          cases hunproved
      · intro _
        apply (gives_recordAttempt hlater _ _ _).bind
        intro third hthird
        apply (gives_event _ _ _).bind
        exact fun fourth hfourth =>
          ⟨rfl, hfourth.trans (hthird.trans hbasis)⟩

/-- What a request may leave in the tables: its token. -/
structure Stores (env : PublicEnv)
    (draw : VerificationRepository.TokenDraw) (before after : AccountDb) :
    Prop where
  entrants : ∀ email password, entrant env.toLoginEnv after email password =
    entrant env.toLoginEnv before email password
  passwordTokens : ∀ row ∈ after.passwordResetTokens,
    row ∈ before.passwordResetTokens ∨
      row.id = draw.id ∧ row.tokenHash = env.hashOpaqueToken draw.token
  emailTokens : ∀ row ∈ after.emailVerificationTokens,
    row ∈ before.emailVerificationTokens ∨
      row.id = draw.id ∧ row.tokenHash = env.hashOpaqueToken draw.token

theorem Stores.refl (draw : VerificationRepository.TokenDraw)
    (db : AccountDb) : Stores env draw db db :=
  ⟨fun _ _ => rfl, fun _ hrow => .inl hrow, fun _ hrow => .inl hrow⟩

variable {draw : VerificationRepository.TokenDraw}
  {draws : List VerificationRepository.TokenDraw} {db after : AccountDb}

theorem FreshDraws.of_stores (hfresh : FreshDraws env db (draw :: draws))
    (hstores : Stores env draw db after) : FreshDraws env after draws := by
  have hids := hfresh.ids
  have hhashes := hfresh.hashes
  rw [List.map_cons, List.nodup_cons, List.mem_map] at hids hhashes
  have hother : ∀ other ∈ draws, draw.id ≠ other.id ∧
      env.hashOpaqueToken draw.token ≠ env.hashOpaqueToken other.token :=
    fun other hother => ⟨fun hsame => hids.1 ⟨other, hother, hsame.symm⟩,
      fun hsame => hhashes.1 ⟨other, hother, hsame.symm⟩⟩
  refine ⟨hids.2, hhashes.2, ?_, ?_⟩
  · intro other hmem row hrow
    rcases hstores.passwordTokens row hrow with hold | ⟨hid, hhash⟩
    · exact hfresh.passwordTokens other (List.mem_cons_of_mem _ hmem) row hold
    · rw [hid, hhash]
      exact hother other hmem
  · intro other hmem row hrow
    rcases hstores.emailTokens row hrow with hold | ⟨hid, hhash⟩
    · exact hfresh.emailTokens other (List.mem_cons_of_mem _ hmem) row hold
    · rw [hid, hhash]
      exact hother other hmem

theorem insertPasswordToken_stores
    (hfresh : FreshDraws env db (draw :: draws)) {row : PasswordResetToken}
    (hid : row.id = draw.id)
    (hhash : row.tokenHash = env.hashOpaqueToken draw.token) :
    ∃ after, VerificationRepository.insertPasswordToken db row = some after ∧
      Stores env draw db after := by
  have hnew := hfresh.passwordTokens draw List.mem_cons_self
  have htaken : ¬ (db.passwordResetTokens.rows.any fun token =>
      token.tokenHash == row.tokenHash) = true := by
    rw [List.any_eq_true]
    rintro ⟨token, htoken, hsame⟩
    exact (hnew token htoken).2 ((beq_iff_eq.mp hsame).trans hhash)
  have hinsert : ∃ tokens, db.passwordResetTokens.insert? row = some tokens :=
    Table.exists_insert? fun old hold hsame =>
      (hnew old hold).1 (hsame.trans hid)
  obtain ⟨tokens, htokens⟩ := hinsert
  refine ⟨{ db with passwordResetTokens := tokens }, ?_, fun _ _ => rfl, ?_,
    fun _ hrow => .inl hrow⟩
  · rw [VerificationRepository.insertPasswordToken, if_neg htaken, htokens]
    rfl
  · intro other hother
    have hrows := (Table.insert?_eq_some htokens).2
    rw [← mem_rows, hrows, List.mem_append, List.mem_singleton] at hother
    rcases hother with hold | rfl
    · exact .inl hold
    · exact .inr ⟨hid, hhash⟩

theorem insertEmailToken_stores
    (hfresh : FreshDraws env db (draw :: draws))
    {row : EmailVerificationToken} (hid : row.id = draw.id)
    (hhash : row.tokenHash = env.hashOpaqueToken draw.token) :
    ∃ after, VerificationRepository.insertEmailToken db row = some after ∧
      Stores env draw db after := by
  have hnew := hfresh.emailTokens draw List.mem_cons_self
  have htaken : ¬ (db.emailVerificationTokens.rows.any fun token =>
      token.tokenHash == row.tokenHash) = true := by
    rw [List.any_eq_true]
    rintro ⟨token, htoken, hsame⟩
    exact (hnew token htoken).2 ((beq_iff_eq.mp hsame).trans hhash)
  have hinsert :
      ∃ tokens, db.emailVerificationTokens.insert? row = some tokens :=
    Table.exists_insert? fun old hold hsame =>
      (hnew old hold).1 (hsame.trans hid)
  obtain ⟨tokens, htokens⟩ := hinsert
  refine ⟨{ db with emailVerificationTokens := tokens }, ?_, fun _ _ => rfl,
    fun _ hrow => .inl hrow, ?_⟩
  · rw [VerificationRepository.insertEmailToken, if_neg htaken, htokens]
    rfl
  · intro other hother
    have hrows := (Table.insert?_eq_some htokens).2
    rw [← mem_rows, hrows, List.mem_append, List.mem_singleton] at hother
    rcases hother with hold | rfl
    · exact .inl hold
    · exact .inr ⟨hid, hhash⟩

/-- The request is accepted, and it leaves its token at most. -/
def Accepts (env : PublicEnv) (draw : VerificationRepository.TokenDraw)
    (now : Instant) (st : ServiceState) {Value : Type}
    (outcome : Except Failure Value) (after : ServiceState) : Prop :=
  (∃ value, outcome = .ok value) ∧ after.counters = st.counters ∧
    Steady now after ∧ Stores env draw st.db after.db

theorem Accepts.of_basis {Value : Type} {first last : ServiceState}
    {outcome : Except Failure Value} (hsame : first.basis = st.basis)
    (haccepts : Accepts env draw now first outcome last) :
    Accepts env draw now st outcome last := by
  unfold Accepts at haccepts ⊢
  rw [basis_db hsame, basis_counters hsame] at haccepts
  exact haccepts

theorem accepts_nothing {Value : Type} (hsteady : Steady now st)
    (value : Value) : Accepts env draw now st (.ok value) st :=
  ⟨⟨value, rfl⟩, rfl, hsteady, Stores.refl draw st.db⟩

theorem accepts_transaction (hsteady : Steady now st) {constraint : String}
    {write : Instant → AccountDb → Option AccountDb} {token : Option String}
    (hwrite : ∃ after, write now st.db = some after ∧
      Stores env draw st.db after) :
    Ensures (UserRepository.transaction constraint write >>= fun _ =>
        pure token) (Accepts env draw now st) st := by
  obtain ⟨after, hafter, hstores⟩ := hwrite
  have hcommits : Ensures (UserRepository.transaction constraint write)
      (fun outcome last => outcome = .ok () ∧
        Accepts env draw now st outcome last) st := by
    apply hsteady.external
    intro first hfirst
    have hrun : UserRepository.commit constraint (write now) first =
        (.ok (), first.withDb after) := by
      unfold UserRepository.commit
      rw [basis_db hfirst, hafter]
    have hsteadyFirst : Steady now first := hsteady.of_basis hfirst
    have hcounters : first.counters = st.counters := basis_counters hfirst
    unfold Ensures
    rw [hrun]
    exact ⟨rfl, ⟨(), rfl⟩, hcounters, hsteadyFirst, hstores⟩
  apply Ensures.bind hcommits
  · rintro _ last ⟨-, -, haccepted⟩
    exact ⟨⟨token, rfl⟩, haccepted⟩
  · rintro error last ⟨herror, -⟩
    cases herror

theorem requestPasswordReset_accepts (hsteady : Steady now st)
    (hfresh : FreshDraws env st.db (draw :: draws)) (email : String) :
    Ensures (AuthService.requestPasswordReset env.toGoogleEnv draw email)
      (Accepts env draw now st) st := by
  apply (gives_select hsteady _).bind
  intro first hfirst
  rw [← basis_db hfirst] at hfresh
  split
  case h_1 =>
    exact (accepts_nothing (hsteady.of_basis hfirst) _).of_basis hfirst
  case h_2 userId =>
    rw [VerificationRepository.createPasswordToken, bind_assoc]
    apply (gives_dateNow (hsteady.of_basis hfirst)).bind
    intro second hsecond
    rw [← basis_db hsecond] at hfresh
    have hbasis := hsecond.trans hfirst
    apply (accepts_transaction (hsteady.of_basis hbasis) ?_).imp
    · exact fun outcome last haccepts => haccepts.of_basis hbasis
    · exact insertPasswordToken_stores hfresh rfl rfl

theorem requestEmailVerification_accepts (hsteady : Steady now st)
    (hfresh : FreshDraws env st.db (draw :: draws)) (email : String) :
    Ensures (AuthService.requestEmailVerification env.toGoogleEnv draw email)
      (Accepts env draw now st) st := by
  apply (gives_select hsteady _).bind
  intro first hfirst
  rw [← basis_db hfirst] at hfresh
  split
  case h_1 =>
    exact (accepts_nothing (hsteady.of_basis hfirst) _).of_basis hfirst
  case h_2 userId =>
    rw [VerificationRepository.createEmailToken, bind_assoc]
    apply (gives_dateNow (hsteady.of_basis hfirst)).bind
    intro second hsecond
    rw [← basis_db hsecond] at hfresh
    have hbasis := hsecond.trans hfirst
    apply (accepts_transaction (hsteady.of_basis hbasis) ?_).imp
    · exact fun outcome last haccepts => haccepts.of_basis hbasis
    · exact insertEmailToken_stores hfresh rfl rfl

end Accounts

/-! ## Replies -/

section Replies

variable {env : PublicEnv} {visit : Visit} {visits : List Visit}
  {st other : ServiceState}

/-- Both servers have the same counters. -/
structure SameOutside (env : PublicEnv) (visits : List Visit)
    (st other : ServiceState) : Prop where
  counters : st.counters = other.counters
  outside : Outside env visits st.db
  otherOutside : Outside env visits other.db

theorem unproved_of_entrants {before after : AccountDb}
    (hentrants : ∀ email password,
      entrant env.toLoginEnv after email password =
        entrant env.toLoginEnv before email password)
    {request : PublicRequest} (hunproved : request.Unproved env before) :
    request.Unproved env after := by
  cases request with
  | login request draw => exact (hentrants _ _).trans hunproved
  | passwordReset request tokenDraw => trivial
  | emailVerification request tokenDraw => trivial

theorem Outside.of_login {db : AccountDb}
    (houtside : Outside env (visit :: visits) db)
    (hlogin : visit.tokenDraw? = none) : Outside env visits db := by
  have hfresh := houtside.fresh
  rw [List.filterMap_cons_none hlogin] at hfresh
  exact ⟨fun later hlater =>
    houtside.unproved later (List.mem_cons_of_mem _ hlater), hfresh⟩

theorem Outside.draw_fresh {db : AccountDb}
    {draw : VerificationRepository.TokenDraw}
    (houtside : Outside env (visit :: visits) db)
    (hdraw : visit.tokenDraw? = some draw) :
    FreshDraws env db (draw :: visits.filterMap Visit.tokenDraw?) := by
  have hfresh := houtside.fresh
  rw [List.filterMap_cons_some hdraw] at hfresh
  exact hfresh

theorem Outside.of_stores {before after : AccountDb}
    {draw : VerificationRepository.TokenDraw}
    (houtside : Outside env (visit :: visits) before)
    (hdraw : visit.tokenDraw? = some draw)
    (hstores : Stores env draw before after) : Outside env visits after :=
  ⟨fun later hlater => unproved_of_entrants hstores.entrants
    (houtside.unproved later (List.mem_cons_of_mem _ hlater)),
    (houtside.draw_fresh hdraw).of_stores hstores⟩

section Routes

variable {now : Instant} {db otherDb : AccountDb}
  (houtside : Outside env (visit :: visits) db)
  (houtside' : Outside env (visit :: visits) otherDb)
include houtside houtside'

theorem paired_login {request : LoginRequest} {draw : SessionDraw}
    (hvisit : visit.request = .login request draw) :
    Paired (Alike now db otherDb) (SameOutside env visits)
      (AuthRoutes.reply env visit.request)
      (AuthRoutes.reply env visit.request) := by
  have hnone : visit.tokenDraw? = none := by rw [Visit.tokenDraw?, hvisit]; rfl
  have hunproved := houtside.unproved visit List.mem_cons_self
  have hunproved' := houtside'.unproved visit List.mem_cons_self
  rw [hvisit] at hunproved hunproved' ⊢
  have hlogin : Paired (Alike now db otherDb) (Alike now db otherDb)
      (AuthService.login env.toLoginEnv request.input draw)
      (AuthService.login env.toLoginEnv request.input draw) := by
    have hrejected : ∀ accounts,
        entrant env.toLoginEnv accounts request.email request.password =
            none →
          ∀ st, Steady now st → st.db = accounts →
            Ensures (AuthService.login env.toLoginEnv request.input draw)
              (fun outcome after =>
                outcome = .error (rejection request.input.mfa) ∧
                  after.basis = st.basis) st := by
      intro accounts hnobody st hsteady hdb
      rw [← hdb] at hnobody
      exact login_rejected hsteady request.input draw hnobody
    exact paired_of_basis (hrejected db hunproved)
      (hrejected otherDb hunproved')
  have hroute : Paired (Alike now db otherDb) (Alike now db otherDb)
      (AuthRoutes.login env.toBotEnv request draw)
      (AuthRoutes.login env.toBotEnv request draw) := by
    apply paired_limited
    · exact fun _ _ halike => halike
    apply (paired_assessBotRiskForLogin _).seq
    intro riskLevel
    exact (paired_enforceRiskLevel request riskLevel).seq fun _ => hlogin
  apply (hroute.seq fun result => paired_pure (PublicReply.login result)).imp
  rintro st other ⟨rfl, rfl, hcounters, -, -⟩
  exact ⟨hcounters, houtside.of_login hnone, houtside'.of_login hnone⟩

variable {draw : VerificationRepository.TokenDraw}
  (hdraw : visit.tokenDraw? = some draw)
include hdraw

theorem sameOutside_of_alike (st other : ServiceState)
    (halike : Alike now db otherDb st other) :
    SameOutside env visits st other := by
  obtain ⟨rfl, rfl, hcounters, -, -⟩ := halike
  exact ⟨hcounters, houtside.of_stores hdraw (Stores.refl draw _),
    houtside'.of_stores hdraw (Stores.refl draw _)⟩

/-- A service call that is accepted either way, and whose token is not
shown. -/
theorem paired_accepted {call : Service (Option String)}
    {finish : Option String → Service PublicReply} {reply : PublicReply}
    (hcall : ∀ st, Steady now st →
      FreshDraws env st.db (draw :: visits.filterMap Visit.tokenDraw?) →
        Ensures call (Accepts env draw now st) st)
    (hfinish : ∀ token st, Steady now st →
      Gives (finish token) reply st) :
    Paired (Alike now db otherDb) (SameOutside env visits)
      (call >>= finish) (call >>= finish) := by
  have hside : ∀ st, Steady now st →
      FreshDraws env st.db (draw :: visits.filterMap Visit.tokenDraw?) →
        Ensures (call >>= finish) (fun outcome after =>
          outcome = .ok reply ∧ after.counters = st.counters ∧
            Stores env draw st.db after.db) st := by
    intro st hsteady hfresh
    apply (hcall st hsteady hfresh).bind
    · rintro token after ⟨-, hcounters, hsteadyAfter, hstores⟩
      apply (hfinish token after hsteadyAfter).imp
      rintro outcome last ⟨houtcome, hbasis⟩
      rw [basis_counters hbasis, basis_db hbasis]
      exact ⟨houtcome, hcounters, hstores⟩
    · rintro error after ⟨⟨value, herror⟩, -⟩
      cases herror
  intro st other halike
  obtain ⟨rfl, rfl, hcounters, hsteady, hsteady'⟩ := halike
  obtain ⟨houtcome, hafter, hstores⟩ :=
    hside st hsteady (houtside.draw_fresh hdraw)
  obtain ⟨houtcome', hafter', hstores'⟩ :=
    hside other hsteady' (houtside'.draw_fresh hdraw)
  refine ⟨houtcome.trans houtcome'.symm, ?_,
    houtside.of_stores hdraw hstores, houtside'.of_stores hdraw hstores'⟩
  rw [hafter, hafter', hcounters]

theorem paired_passwordReset (hproduction : env.production = true)
    {request : PasswordResetRequest}
    (hvisit : visit.request = .passwordReset request draw) :
    Paired (Alike now db otherDb) (SameOutside env visits)
      (AuthRoutes.reply env visit.request)
      (AuthRoutes.reply env visit.request) := by
  have hrest : ∀ st other, Alike now db otherDb st other →
      SameOutside env visits st other :=
    sameOutside_of_alike houtside houtside' hdraw
  rw [hvisit]
  simp only [AuthRoutes.reply, AuthRoutes.requestPasswordReset, bind_assoc,
    ite_bind, LoginPhase.throwApi_bind]
  apply paired_limited
  · exact hrest
  refine (paired_requireChallenge _ _ _).bind (fun _ => ?_) hrest
  apply paired_accepted houtside houtside' hdraw
  · exact fun st hsteady hfresh =>
      requestPasswordReset_accepts hsteady hfresh request.email
  · intro token st _
    rw [AuthRoutes.shownToken, if_pos hproduction]
    exact gives_pure _ st

theorem paired_emailVerification (hproduction : env.production = true)
    {request : EmailVerificationRequest}
    (hvisit : visit.request = .emailVerification request draw) :
    Paired (Alike now db otherDb) (SameOutside env visits)
      (AuthRoutes.reply env visit.request)
      (AuthRoutes.reply env visit.request) := by
  rw [hvisit]
  simp only [AuthRoutes.reply, AuthRoutes.requestEmailVerification,
    bind_assoc, ite_bind, LoginPhase.throwApi_bind]
  apply paired_limited
  · exact sameOutside_of_alike houtside houtside' hdraw
  apply paired_accepted houtside houtside' hdraw
  · exact fun st hsteady hfresh =>
      requestEmailVerification_accepts hsteady hfresh request.email
  · intro token st hsteady
    have htemplate : Gives (AuthRoutes.readTemplate token) () st := by
      apply ensures_ite
      · exact fun _ => gives_select hsteady _
      · exact fun _ => gives_pure () st
    apply htemplate.bind
    intro after hsame
    rw [AuthRoutes.shownToken, if_pos hproduction]
    exact ⟨rfl, hsame⟩

end Routes

theorem serve_related (hproduction : env.production = true)
    (hsame : SameOutside env (visit :: visits) st other) :
    (env.serve st visit).1 = (env.serve other visit).1 ∧
      SameOutside env visits (env.serve st visit).2
        (env.serve other visit).2 := by
  have halike : Alike visit.now st.db other.db (st.at visit.now)
      (other.at visit.now) :=
    ⟨rfl, rfl, hsame.counters, fun _ => rfl, fun _ => rfl⟩
  have hpaired : Paired (Alike visit.now st.db other.db)
      (SameOutside env visits) (AuthRoutes.reply env visit.request)
      (AuthRoutes.reply env visit.request) := by
    cases hrequest : visit.request with
    | login request draw =>
        rw [← hrequest]
        exact paired_login hsame.outside hsame.otherOutside hrequest
    | passwordReset request draw =>
        have hdraw : visit.tokenDraw? = some draw :=
          congrArg PublicRequest.tokenDraw? hrequest
        rw [← hrequest]
        exact paired_passwordReset hsame.outside hsame.otherOutside hdraw
          hproduction hrequest
    | emailVerification request draw =>
        have hdraw : visit.tokenDraw? = some draw :=
          congrArg PublicRequest.tokenDraw? hrequest
        rw [← hrequest]
        exact paired_emailVerification hsame.outside hsame.otherOutside hdraw
          hproduction hrequest
  exact hpaired _ _ halike

/-- In production a client that has no right password gets the same answers
from any two servers with the same counters, whatever accounts they have. -/
theorem serve_private (hproduction : env.production = true)
    (hcounters : st.counters = other.counters)
    (houtside : Outside env visits st.db)
    (houtside' : Outside env visits other.db) :
    AnsweringSystem.answers env.serve st visits =
      AnsweringSystem.answers env.serve other visits := by
  have hstep : ∀ visit visits st other,
      SameOutside env (visit :: visits) st other →
        (env.serve st visit).1 = (env.serve other visit).1 ∧
          SameOutside env visits (env.serve st visit).2
            (env.serve other visit).2 :=
    fun _ _ _ _ hsame => serve_related hproduction hsame
  exact AnsweringSystem.answers_of_related env.serve hstep
    ⟨hcounters, houtside, houtside'⟩

end Replies

namespace PrivacyWitness

def env : PublicEnv where
  toBotEnv :=
    { BotWitness.env with hashOpaqueToken := fun token => "hash:" ++ token }
  verifyIdToken _ _ _ := none
  toLowerCase text := text
  googleClientId := "google"
  rateLimitSignupPerMin := 5
  turnstileRequiredActions := ["password_reset"]
  production := true

/-- The server of `owner@example.com` without that account. -/
def vacant : ServiceState :=
  DoorWitness.plainState.withDb
    { users := .empty
      userPasswords := .empty
      passwordResetTokens := .empty
      userSessions := .empty
      userEmails := .empty
      emailVerificationTokens := .empty
      externalIdentities := .empty
      mfaFactors := .empty
      mfaRecoveryCodes := .empty
      socialLoginConfig := none }

def guess (password : String) : PublicRequest :=
  .login
    { email := "owner@example.com"
      password := password
      mfa := ⟨none, none, none⟩
      challengeToken := none
      xForwardedFor := some "203.0.113.7"
      userAgent := some "Mozilla/5.0"
      xDeviceId := none } BotWitness.draw

def visits : List Visit :=
  [⟨guess "hunter2", 59000⟩,
    ⟨.passwordReset ⟨"owner@example.com", some "token", none⟩ ⟨"1", "pr_1"⟩,
      60000⟩,
    ⟨.emailVerification ⟨"owner@example.com", none⟩ ⟨"2", "ev_2"⟩, 61000⟩,
    ⟨guess "letmein", 62000⟩]

theorem outside_visits {db : AccountDb}
    (hpasswordTokens : db.passwordResetTokens = .empty)
    (hemailTokens : db.emailVerificationTokens = .empty)
    (hguesses : ∀ password ∈ ["hunter2", "letmein"],
      entrant env.toLoginEnv db "owner@example.com" password = none) :
    Outside env visits db where
  unproved := by
    rw [List.forall_mem_cons, List.forall_mem_cons] at hguesses
    simp only [visits, List.forall_mem_cons]
    exact ⟨hguesses.1, trivial, trivial, hguesses.2.1, nofun⟩
  fresh := by
    refine ⟨by decide, by decide +kernel, fun draw _ row hrow => ?_,
      fun draw _ row hrow => ?_⟩
    · rw [hpasswordTokens] at hrow
      exact absurd hrow (Table.not_mem_empty row)
    · rw [hemailTokens] at hrow
      exact absurd hrow (Table.not_mem_empty row)

/-- Nobody learns whether `owner@example.com` has an account. -/
theorem serve_private_owner :
    AnsweringSystem.answers env.serve DoorWitness.plainState visits =
      AnsweringSystem.answers env.serve vacant visits :=
  serve_private rfl rfl
    (outside_visits rfl rfl (by decide +kernel))
    (outside_visits rfl rfl (by decide +kernel))

end PrivacyWitness

end IdProvider
