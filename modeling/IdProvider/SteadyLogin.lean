/-
The login while nothing outside fails and the clock stands still: whom it
admits is a function of the tables.
-/
import IdProvider.BotRisk

namespace IdProvider

open JsonText KeyedTable ServiceCall

/-! ## Steady states -/

/-- Every answer still to come is that of one instant. -/
def Steady (now : Instant) (st : ServiceState) : Prop :=
  ∀ tick, st.readings tick = ⟨now, false⟩

/-- What the logs and the clock leave alone. -/
def ServiceState.basis (st : ServiceState) :
    AccountDb × (String → Option RateCounter) × (Nat → Reading) :=
  (st.db, st.counters, st.readings)

section Basis

variable {st after : ServiceState}

theorem basis_db (hsame : after.basis = st.basis) : after.db = st.db :=
  congrArg Prod.fst hsame

theorem basis_counters (hsame : after.basis = st.basis) :
    after.counters = st.counters :=
  congrArg (fun basis => basis.2.1) hsame

theorem basis_readings (hsame : after.basis = st.basis) :
    after.readings = st.readings :=
  congrArg (fun basis => basis.2.2) hsame

theorem Steady.of_readings {now : Instant} (hsteady : Steady now st)
    (hsame : after.readings = st.readings) : Steady now after := by
  rw [Steady, hsame]
  exact hsteady

theorem Steady.of_basis {now : Instant} (hsteady : Steady now st)
    (hsame : after.basis = st.basis) : Steady now after :=
  hsteady.of_readings (basis_readings hsame)

end Basis

/-- The call returns this value and leaves the basis alone. -/
def Gives {Value : Type} (call : Service Value) (value : Value)
    (st : ServiceState) : Prop :=
  Ensures call (fun outcome after => outcome = .ok value ∧
    after.basis = st.basis) st

section Gives

variable {Value Next : Type} {call : Service Value} {value : Value}
  {st : ServiceState} {now : Instant}

theorem Gives.bind {next : Value → Service Next}
    {post : Except Failure Next → ServiceState → Prop}
    (hcall : Gives call value st)
    (hnext : ∀ after, after.basis = st.basis →
      Ensures (next value) post after) : Ensures (call >>= next) post st := by
  apply Ensures.bind hcall
  · rintro returned after ⟨hreturned, hsame⟩
    cases hreturned
    exact hnext after hsame
  · rintro error after ⟨herror, -⟩
    cases herror

theorem gives_pure (value : Value) (st : ServiceState) :
    Gives (pure value) value st := ⟨rfl, rfl⟩

/-- A steady outside answers. -/
theorem Steady.external {run : Instant → Service Value}
    {post : Except Failure Value → ServiceState → Prop}
    (hsteady : Steady now st)
    (hrun : ∀ after, after.basis = st.basis → Ensures (run now) post after) :
    Ensures (external run) post st := by
  have hanswers : (st.readings st.ticks).fails = false := by
    rw [hsteady st.ticks]
  have hnow : (st.readings st.ticks).now = now := by rw [hsteady st.ticks]
  unfold Ensures
  rw [external_of_answers hanswers, hnow]
  exact hrun (st.tick 1) rfl

theorem gives_select (hsteady : Steady now st) (read : AccountDb → Value) :
    Gives (select read) (read st.db) st := by
  apply hsteady.external
  intro after hsame
  refine ⟨?_, hsame⟩
  rw [← basis_db hsame]
  rfl

theorem gives_dateNow (hsteady : Steady now st) : Gives dateNow now st :=
  ⟨congrArg (fun reading => (.ok (Reading.now reading) :
    Except Failure Instant)) (hsteady st.ticks), rfl⟩

theorem gives_event (eventType : String) (userId : Option String)
    (payload : Json) :
    Gives (AuthService.createSecurityEvent eventType userId payload) () st := by
  refine ⟨rfl, ?_⟩
  have hkeeps : Keeps ServiceState.basis
      (AuditRepository.createSecurityEvent eventType userId payload) :=
    keepsView_external (fun _ => rfl) fun _ => keeps_change fun _ => rfl
  exact hkeeps st

theorem gives_recordAttempt (hsteady : Steady now st) (email : String)
    (success : Bool) (ipAddress : Option String) :
    Gives (AuthRepository.recordAttempt email success ipAddress) () st :=
  hsteady.external fun _ hsame => ⟨rfl, hsame⟩

theorem gives_verifyPassword (hsteady : Steady now st) (env : LoginEnv)
    (password storedHash : String) :
    Gives (Service.verifyPassword env password storedHash)
      (verifyPassword env.argon2Verify password storedHash) st := by
  unfold Service.verifyPassword verifyPassword
  split
  case isTrue hstarts =>
    rw [hstarts, Bool.true_and]
    exact hsteady.external fun _ hsame => ⟨rfl, hsame⟩
  case isFalse hstarts =>
    rw [Bool.eq_false_iff.mpr hstarts, Bool.false_and]
    exact gives_pure false st

end Gives

/-! ## Whom a login admits -/

/-- The second factor that a user may be asked for. -/
def hasFactor (db : AccountDb) (userId : String) : Bool :=
  decide (0 < (findActiveFactorsByUserId db userId).length)

/-- The active user whom the email names as it stands, with the password. -/
def entrant (env : LoginEnv) (db : AccountDb) (email password : String) :
    Option User :=
  match findWithPasswordByEmail db email with
  | none => none
  | some found =>
      if verifyPassword env.argon2Verify password
          found.password.passwordHash = true ∧
        found.user.status = .active then some found.user
      else none

def recoveryGood (env : LoginEnv) (db : AccountDb) (now : Instant)
    (userId code : String) : Bool :=
  let normalizedCode := MfaRecoveryService.normalizeCode env code
  match findActiveByLookupHash db
    (MfaRecoveryService.lookupHash env normalizedCode) with
  | none => false
  | some record =>
      decide (record.userId = userId) &&
        env.argon2Verify record.codeHash normalizedCode &&
          (markUsed db now record.id).2

def totpGood (env : LoginEnv) (db : AccountDb) (now : Instant)
    (userId factorId code : String) : Bool :=
  match findByFactorId db factorId with
  | none => false
  | some factor =>
      decide (factor.userId = userId) && decide (factor.type = "totp") &&
        given factor.secret && env.totpCheck code (factor.secret.getD "") now

def factorSuffices (env : LoginEnv) (db : AccountDb) (now : Instant)
    (userId : String) (mfa : AuthService.MfaInput) : Bool :=
  match orNull mfa.mfaRecoveryCode with
  | some code => recoveryGood env db now userId code
  | none =>
      match orNull mfa.mfaCode, orNull mfa.mfaFactorId with
      | some code, some factorId => totpGood env db now userId factorId code
      | _, _ => false

/-- The draw collides with no session, and its dates can be stored. -/
def sessionFits (env : LoginEnv) (db : AccountDb) (now : Instant)
    (draw : AuthService.SessionDraw) : Bool :=
  (storedDate (now + env.accessTokenTtlSeconds * 1000)).isSome &&
    (storedDate (now + env.refreshTokenTtlSeconds * 1000)).isSome &&
    db.userSessions.rows.all fun session =>
      session.id != draw.id &&
        session.accessTokenHash != env.hashOpaqueToken draw.accessToken &&
          session.refreshTokenHash != env.hashOpaqueToken draw.refreshToken

/-- The user for whom a login opens a session. -/
def admitted (env : LoginEnv) (db : AccountDb) (now : Instant)
    (input : AuthService.LoginInput) (draw : AuthService.SessionDraw) :
    Option String :=
  if given input.mfa.mfaCode = true ∧ given input.mfa.mfaRecoveryCode = true
  then none
  else
    match entrant env db input.email input.password with
    | none => none
    | some user =>
        if (hasFactor db user.id = true →
            factorSuffices env db now user.id input.mfa = true) ∧
          sessionFits env db now draw = true then some user.id
        else none

/-- The user for whom the outcome has opened a session. -/
def issuedUser : Except Failure AuthService.LoginResult → Option String
  | .ok (.ok userId _ _ _) => some userId
  | _ => none

/-! ## The parts of a login -/

section Parts

variable {env : LoginEnv} {st : ServiceState} {now : Instant}

theorem gives_hasEnabledMfa (hsteady : Steady now st) (userId : String) :
    Gives (MfaService.hasEnabledMfa userId) (hasFactor st.db userId) st :=
  (gives_select hsteady _).bind fun _ hsame => ⟨rfl, hsame⟩

/-- A proof that succeeds exactly when it is good, and that then leaves the
sessions to the rest of the login. -/
def Proves (good : Bool) (st : ServiceState) {Value : Type}
    (outcome : Except Failure Value) (after : ServiceState) : Prop :=
  if good = true then
    (∃ value, outcome = .ok value) ∧
      after.db.userSessions = st.db.userSessions ∧
      after.readings = st.readings
  else ∃ error, outcome = .error error

theorem proves_error {Value : Type} {good : Bool} (hbad : good = false)
    (error : Failure) (after : ServiceState) :
    Proves good st (.error error : Except Failure Value) after := by
  rw [Proves, if_neg (by rw [hbad]; exact Bool.false_ne_true)]
  exact ⟨error, rfl⟩

theorem proves_ok {Value : Type} {good : Bool} (hgood : good = true)
    (value : Value) {after : ServiceState}
    (hsessions : after.db.userSessions = st.db.userSessions)
    (hreadings : after.readings = st.readings) :
    Proves good st (.ok value : Except Failure Value) after := by
  rw [Proves, if_pos hgood]
  exact ⟨⟨value, rfl⟩, hsessions, hreadings⟩

theorem Proves.of_same {Value : Type} {good : Bool} {origin : ServiceState}
    {outcome : Except Failure Value} {after : ServiceState}
    (hproves : Proves good st outcome after) (hdb : st.db = origin.db)
    (hreadings : st.readings = origin.readings) :
    Proves good origin outcome after := by
  rwa [Proves, hdb, hreadings] at hproves

theorem Proves.good {Value : Type} {good : Bool} {value : Value}
    {after : ServiceState}
    (hproves : Proves good st (.ok value : Except Failure Value) after) :
    good = true ∧ after.db.userSessions = st.db.userSessions ∧
      after.readings = st.readings := by
  cases good with
  | true => exact ⟨rfl, hproves.2⟩
  | false =>
      obtain ⟨error, herror⟩ := hproves
      cases herror

theorem Proves.bad {Value : Type} {good : Bool} {error : Failure}
    {after : ServiceState}
    (hproves : Proves good st (.error error : Except Failure Value) after) :
    ¬ good = true := by
  rintro rfl
  obtain ⟨⟨value, hvalue⟩, -⟩ := hproves
  cases hvalue

/-- What the proof returns does not matter. -/
theorem Ensures.proved {Value Next : Type} {good : Bool}
    {origin : ServiceState} {call : Service Value} {value : Next}
    (hcall : Ensures call (Proves good origin) st) :
    Ensures (call >>= fun _ => pure value) (Proves good origin) st := by
  apply Ensures.bind hcall
  · intro _ after hproves
    obtain ⟨hgood, hsessions, hreadings⟩ := hproves.good
    exact proves_ok hgood value hsessions hreadings
  · intro error after hproves
    exact proves_error (Bool.eq_false_iff.mpr hproves.bad) error after

theorem proves_verifyMfa (hsteady : Steady now st)
    (userId factorId code : String) :
    Ensures (MfaService.verifyMfa env userId factorId code)
      (Proves (totpGood env st.db now userId factorId code) st) st := by
  apply (gives_select hsteady _).bind
  intro after hsame
  unfold totpGood
  cases findByFactorId st.db factorId with
  | none => exact proves_error rfl _ _
  | some factor =>
      apply ensures_ite
      · intro howner
        exact proves_error (by simp [howner]) _ _
      · intro howner
        rw [not_not] at howner
        apply ensures_ite
        · intro hkind
          apply proves_error
          rcases hkind with htype | hsecret
          · simp [htype]
          · simp [hsecret]
        · intro hkind
          rw [not_or, not_not, Bool.not_eq_false] at hkind
          have hcheck : Gives (external fun now => pure
              (env.totpCheck code (factor.secret.getD "") now))
              (env.totpCheck code (factor.secret.getD "") now) after :=
            (hsteady.of_basis hsame).external fun _ hagain => ⟨rfl, hagain⟩
          apply hcheck.bind
          intro last hlast
          have hbasis := hlast.trans hsame
          apply ensures_ite
          · intro hvalid
            refine proves_ok ?_ _ ?_ (basis_readings hbasis)
            · simp [howner, hkind.1, hkind.2, hvalid]
            · rw [← basis_db hbasis]
              rfl
          · intro hinvalid
            exact proves_error (by simp [hinvalid]) _ _

theorem markUsed_sessions (db : AccountDb) (now : Instant) (codeId : String) :
    (markUsed db now codeId).1.userSessions = db.userSessions := rfl

/-- What follows a used code is logged, whatever comes of it. -/
theorem reportUse_steady (hsteady : Steady now st) (userId : String) :
    Ensures (MfaRecoveryService.reportUse userId) (fun outcome after =>
      (∃ value, outcome = .ok value) ∧ after.basis = st.basis) st := by
  apply (gives_select hsteady _).bind
  intro first hfirst
  have hlog : ∀ (input : CreateAuditLogInput) {st : ServiceState},
      Steady now st → Gives (AuditRepository.createAuditLog input) () st :=
    fun _ _ hsteady => hsteady.external fun _ hsame => ⟨rfl, hsame⟩
  have hevent : ∀ (eventType : String) (userId : Option String)
      (payload : Json) {st : ServiceState}, Steady now st →
        Gives (AuditRepository.createSecurityEvent eventType userId payload)
          () st :=
    fun _ _ _ _ hsteady => hsteady.external fun _ hsame => ⟨rfl, hsame⟩
  apply (hlog _ (hsteady.of_basis hfirst)).bind
  intro second hsecond
  have hsecond := hsecond.trans hfirst
  apply (hevent _ _ _ (hsteady.of_basis hsecond)).bind
  intro third hthird
  have hthird := hthird.trans hsecond
  have hwarn : Gives (MfaRecoveryService.warnIfLow userId
      (countActiveByUserId st.db userId)) () third := by
    apply ensures_ite
    · intro _
      exact hevent _ _ _ (hsteady.of_basis hthird)
    · intro _
      exact gives_pure () third
  apply hwarn.bind
  intro last hlast
  exact ⟨⟨_, rfl⟩, hlast.trans hthird⟩

theorem proves_consumeCode (hsteady : Steady now st) (userId code : String) :
    Ensures (MfaRecoveryService.consumeCode env userId code)
      (Proves (recoveryGood env st.db now userId code) st) st := by
  apply (gives_select hsteady _).bind
  intro first hfirst
  unfold recoveryGood
  dsimp only
  cases findActiveByLookupHash st.db (MfaRecoveryService.lookupHash env
      (MfaRecoveryService.normalizeCode env code)) with
  | none => exact proves_error rfl _ _
  | some record =>
      have hverify : Gives (MfaRecoveryService.verifyCode env userId
          (MfaRecoveryService.normalizeCode env code) record)
          (decide (record.userId = userId) &&
            env.argon2Verify record.codeHash
              (MfaRecoveryService.normalizeCode env code)) first := by
        unfold MfaRecoveryService.verifyCode
        by_cases howner : record.userId = userId
        · rw [if_pos howner, decide_eq_true howner, Bool.true_and]
          exact (hsteady.of_basis hfirst).external fun _ hsame => ⟨rfl, hsame⟩
        · rw [if_neg howner, decide_eq_false howner, Bool.false_and]
          exact gives_pure false first
      apply hverify.bind
      intro second hsecond
      have hsecond := hsecond.trans hfirst
      apply ensures_ite
      · intro hvalid
        have hmark : Ensures (MfaRecoveryService.markUsed record.id)
            (fun outcome after =>
              outcome = .ok (markUsed st.db now record.id).2 ∧
              after.db.userSessions = st.db.userSessions ∧
              after.readings = st.readings) second := by
          apply (hsteady.of_basis hsecond).external
          intro third hthird
          have hthird := hthird.trans hsecond
          have hreadings := basis_readings hthird
          refine ⟨?_, ?_, hreadings⟩
          · rw [← basis_db hthird]
          · rw [← basis_db hthird]
            exact markUsed_sessions third.db now record.id
        apply Ensures.bind hmark
        · rintro used third ⟨hused, hsessions, hreadings⟩
          cases hused
          apply ensures_ite
          · intro hmarked
            refine (@reportUse_steady _ now ?_ userId).imp ?_
            · exact hsteady.of_readings hreadings
            · rintro outcome last ⟨⟨value, rfl⟩, hlast⟩
              refine proves_ok ?_ _ ?_ ?_
              · dsimp only
                rw [hvalid, hmarked, Bool.and_true]
              · rw [basis_db hlast]
                exact hsessions
              · rw [basis_readings hlast]
                exact hreadings
          · intro hmarked
            exact proves_error (by simp [hmarked]) _ _
        · rintro error third ⟨herror, -⟩
          cases herror
      · intro hinvalid
        rw [Bool.not_eq_true] at hinvalid
        apply proves_error
        dsimp only
        rw [hinvalid, Bool.false_and]

/-- The counter allows one more. -/
def Spare (now : Instant) (counters : String → Option RateCounter)
    (counterKey : String) (limit windowSeconds : Nat) : Prop :=
  (RateLimiter.increment (counters ("rl:" ++ counterKey)) now
    windowSeconds).count ≤ limit

/-- What `consume` returns of a counter that allows one more. -/
def spareRate (now : Instant) (counters : String → Option RateCounter)
    (counterKey : String) (limit windowSeconds : Nat) :
    RateLimiter.RateLimit :=
  ⟨true, limit - (RateLimiter.increment (counters ("rl:" ++ counterKey)) now
    windowSeconds).count⟩

theorem allows_consume (hsteady : Steady now st) {counterKey : String}
    {limit windowSeconds : Nat}
    (hspare : Spare now st.counters counterKey limit windowSeconds) :
    Ensures (RateLimiter.consume counterKey limit windowSeconds)
      (fun outcome after =>
        outcome = .ok
          (spareRate now st.counters counterKey limit windowSeconds) ∧
        after.db = st.db ∧ after.readings = st.readings ∧
        ∀ other, other ≠ counterKey →
          after.counters ("rl:" ++ other) = st.counters ("rl:" ++ other))
      st := by
  apply hsteady.external
  intro after hsame
  have hdb := basis_db hsame
  have hreadings := basis_readings hsame
  have hcounters := basis_counters hsame
  refine ⟨?_, hdb, hreadings, fun other hother => ?_⟩
  · rw [← hcounters] at hspare ⊢
    exact congrArg Except.ok (if_neg (Nat.not_lt.mpr hspare))
  · rw [← hcounters]
    apply if_neg
    intro heq
    have hlist := congrArg String.toList heq
    rw [String.toList_append, String.toList_append,
      List.append_cancel_left_eq] at hlist
    exact hother (String.toList_inj.mp hlist)

/-- No counter of recovery attempts is at its limit. -/
structure RecoverySpare (env : LoginEnv) (now : Instant)
    (counters : String → Option RateCounter) : Prop where
  user : ∀ userId, Spare now counters ("mfa-recovery:" ++ userId)
    env.rateLimitMfaRecoveryPerMin 60
  address : ∀ address, Spare now counters ("mfa-recovery-ip:" ++ address)
    env.rateLimitMfaRecoveryPerMin 60

theorem recoveryKey_ne (userId address : String) :
    "mfa-recovery-ip:" ++ address ≠ "mfa-recovery:" ++ userId := by
  intro heq
  have hlist := congrArg String.toList heq
  rw [String.toList_append, String.toList_append] at hlist
  cases hlist

/-- Enough of a second factor, as far as one is asked for. -/
theorem proves_enforceMfaForLogin (hsteady : Steady now st)
    (hspare : RecoverySpare env now st.counters) (userId : String)
    (ipAddress : Option String) (mfa : AuthService.MfaInput)
    (hfactor : hasFactor st.db userId = true) :
    Ensures (AuthService.enforceMfaForLogin env userId ipAddress mfa)
      (Proves (factorSuffices env st.db now userId mfa) st) st := by
  apply (gives_hasEnabledMfa hsteady userId).bind
  intro first hfirst
  have hagain := hsteady.of_basis hfirst
  rw [hfactor, if_pos rfl]
  unfold factorSuffices
  cases orNull mfa.mfaRecoveryCode with
  | some code =>
      have huser := hspare.user userId
      have haddress := hspare.address (ipAddress.getD "unknown")
      rw [← basis_counters hfirst] at huser haddress
      apply Ensures.bind (allows_consume hagain huser)
      · rintro rate second ⟨hrate, hdb, hreadings, hcounters⟩
        cases hrate
        have hlater := hagain.of_readings hreadings
        rw [Spare, ← hcounters _ (recoveryKey_ne userId _)] at haddress
        apply Ensures.bind (allows_consume hlater haddress)
        · rintro ipRate third ⟨hipRate, hdb', hreadings', -⟩
          cases hipRate
          have hbase : third.db = st.db :=
            hdb'.trans (hdb.trans (basis_db hfirst))
          have hclock : third.readings = st.readings :=
            hreadings'.trans (hreadings.trans (basis_readings hfirst))
          apply ensures_ite
          · rintro (hblocked | hblocked)
            · cases hblocked
            · cases hblocked
          · intro _
            apply Ensures.proved
            rw [← hbase]
            exact (proves_consumeCode (hlater.of_readings hreadings') userId
              code).imp fun _ _ hproves => hproves.of_same hbase hclock
        · rintro error third ⟨herror, -⟩
          cases herror
      · rintro error second ⟨herror, -⟩
        cases herror
  | none =>
      have hbase := basis_db hfirst
      have hmissing : Ensures (throwApi 401 "mfa_required"
          "MFA verification is required" : Service Bool)
          (Proves false st) first := proves_error rfl _ _
      cases orNull mfa.mfaCode with
      | none => exact hmissing
      | some code =>
          cases orNull mfa.mfaFactorId with
          | none => exact hmissing
          | some factorId =>
              apply Ensures.proved
              rw [← hbase]
              exact (proves_verifyMfa hagain userId factorId code).imp
                fun _ _ hproves => hproves.of_same hbase
                  (basis_readings hfirst)

end Parts

/-! ## The session -/

section Session

variable {env : LoginEnv} {st : ServiceState} {now : Instant}

theorem sessionFits_iff {db : AccountDb} {draw : AuthService.SessionDraw} :
    sessionFits env db now draw = true ↔
      (storedDate (now + env.accessTokenTtlSeconds * 1000)).isSome = true ∧
      (storedDate (now + env.refreshTokenTtlSeconds * 1000)).isSome = true ∧
      ∀ session ∈ db.userSessions.rows, session.id ≠ draw.id ∧
        session.accessTokenHash ≠ env.hashOpaqueToken draw.accessToken ∧
        session.refreshTokenHash ≠ env.hashOpaqueToken draw.refreshToken := by
  simp only [sessionFits, List.all_eq_true, Bool.and_eq_true, bne_iff_ne,
    and_assoc]

/-- A session is inserted exactly when its dates can be stored and it collides
with none. -/
theorem insertSession_ok (row : UserSession) (st : ServiceState) :
    (AuthService.insertSession row st).1 = .ok () ↔ row.storable = true ∧
      ∀ session ∈ st.db.userSessions.rows, session.id ≠ row.id ∧
        session.accessTokenHash ≠ row.accessTokenHash ∧
        session.refreshTokenHash ≠ row.refreshTokenHash := by
  unfold AuthService.insertSession
  dsimp only
  split
  case isTrue hstorable =>
    split
    case h_1 hinsert =>
      refine iff_of_false nofun fun hfits => ?_
      have hfresh : ∀ session ∈ st.db.userSessions, key session ≠ key row :=
        fun session hsession => (hfits.2 session hsession).1
      obtain ⟨after, hafter⟩ := Table.exists_insert? hfresh
      rw [hafter] at hinsert
      cases hinsert
    case h_2 userSessions hinsert =>
      have hfresh := (Table.insert?_eq_some hinsert).1
      split
      case isTrue htaken =>
        refine iff_of_false nofun fun hfits => ?_
        rw [List.any_eq_true] at htaken
        obtain ⟨session, hsession, hclash⟩ := htaken
        rw [Bool.or_eq_true, beq_iff_eq, beq_iff_eq] at hclash
        rcases hclash with haccess | hrefresh
        · exact (hfits.2 session hsession).2.1 haccess
        · exact (hfits.2 session hsession).2.2 hrefresh
      case isFalse hfree =>
        refine iff_of_true rfl ⟨hstorable, fun session hsession => ?_⟩
        rw [Bool.not_eq_true, List.any_eq_false] at hfree
        have hclash := hfree session hsession
        rw [Bool.or_eq_true, beq_iff_eq, beq_iff_eq, not_or] at hclash
        exact ⟨hfresh session hsession, hclash⟩
  case isFalse hrefused =>
    exact iff_of_false nofun fun hfits => hrefused hfits.1

/-- A login that comes this far opens a session when the draw fits. -/
theorem issued_finishLogin (hsteady : Steady now st)
    (input : AuthService.LoginInput) (draw : AuthService.SessionDraw)
    (userId : String) (sessionUserAgent : Option String) (mfaEnabled : Bool)
    (adaptiveRisk : AdaptiveRisk) :
    Ensures (AuthService.finishLogin env input draw userId sessionUserAgent
        mfaEnabled adaptiveRisk)
      (fun outcome _ => issuedUser outcome =
        if sessionFits env st.db now draw = true then some userId else none)
      st := by
  have hcreate : Ensures (AuthService.createSession env draw userId
      input.ipAddress sessionUserAgent) (fun outcome _ =>
        (∃ session, outcome = .ok session) ↔
          sessionFits env st.db now draw = true) st := by
    apply (gives_dateNow hsteady).bind
    intro first hfirst
    apply (gives_dateNow (hsteady.of_basis hfirst)).bind
    intro second hsecond
    have hsecond := hsecond.trans hfirst
    have hinsert : Ensures (external fun insertedAt =>
        AuthService.insertSession
          { id := draw.id
            userId := userId
            accessTokenHash := env.hashOpaqueToken draw.accessToken
            refreshTokenHash := env.hashOpaqueToken draw.refreshToken
            ipAddress := input.ipAddress
            userAgent := sessionUserAgent
            expiresAt := .ofInstant (now + env.accessTokenTtlSeconds * 1000)
            refreshExpiresAt :=
              .ofInstant (now + env.refreshTokenTtlSeconds * 1000)
            revokedAt := none
            lastSeenAt := insertedAt
            createdAt := insertedAt })
        (fun outcome _ => outcome = .ok () ↔
          sessionFits env st.db now draw = true) second := by
      apply (hsteady.of_basis hsecond).external
      intro third hthird
      have hdb := basis_db (hthird.trans hsecond)
      rw [← hdb, sessionFits_iff]
      refine (insertSession_ok _ third).trans ?_
      rw [UserSession.storable_iff rfl rfl, and_assoc]
    apply Ensures.bind hinsert
    · intro _ third hthird
      exact iff_of_true ⟨_, rfl⟩ (hthird.mp rfl)
    · intro error third hthird
      refine iff_of_false nofun fun hfits => ?_
      cases hthird.mpr hfits
  apply Ensures.bind hcreate
  · intro session after hsession
    have hfits := hsession.mp ⟨session, rfl⟩
    apply (gives_event _ _ _).bind
    intro last _
    change some userId = _
    rw [if_pos hfits]
  · intro error after herror
    have hfits : ¬ sessionFits env st.db now draw = true := by
      rw [← herror]
      exact nofun
    change none = _
    rw [if_neg hfits]

end Session

/-! ## The login -/

section Login

variable {env : LoginEnv} {st : ServiceState} {now : Instant}

theorem orNull_of_not_given {text : Option String}
    (hgiven : given text = false) : orNull text = none := by
  cases text with
  | none => rfl
  | some text =>
      rw [given, decide_eq_false_iff_not, not_not] at hgiven
      rw [orNull_some, if_pos hgiven]

theorem issued_rejectPassword (hsteady : Steady now st)
    (input : AuthService.LoginInput) :
    Ensures (AuthService.rejectPassword input)
      (fun outcome _ => issuedUser outcome = none) st := by
  apply (gives_recordAttempt hsteady _ _ _).bind
  intro first _
  apply (gives_event _ _ _).bind
  exact fun _ _ => rfl

theorem issued_loginActive (hsteady : Steady now st)
    (hadaptive : env.adaptiveMfaEnabled = false)
    (hspare : RecoverySpare env now st.counters)
    (input : AuthService.LoginInput) (draw : AuthService.SessionDraw)
    (userId : String) :
    Ensures (AuthService.loginActive env input draw userId)
      (fun outcome _ => issuedUser outcome =
        if (hasFactor st.db userId = true →
            factorSuffices env st.db now userId input.mfa = true) ∧
          sessionFits env st.db now draw = true then some userId
        else none) st := by
  apply (gives_hasEnabledMfa hsteady userId).bind
  intro first hfirst
  have hassess : Gives (AuthService.assessLogin env userId input.ipAddress
      (AuthService.buildSessionUserAgent input.userAgent input.deviceId))
      AdaptiveRisk.none first := by
    rw [AuthService.assessLogin, hadaptive, if_neg Bool.false_ne_true]
    exact gives_pure _ first
  apply hassess.bind
  intro second hsecond
  have hbasis := hsecond.trans hfirst
  have hlater := hsteady.of_basis hbasis
  apply ensures_ite
  · intro hhigh
    cases hhigh
  intro _
  apply ensures_ite
  · rintro ⟨hmedium, -⟩
    cases hmedium
  intro _
  apply ensures_ite
  · rintro ⟨hfactor, hcode, hrecovery⟩
    have hshort : ¬ factorSuffices env st.db now userId input.mfa = true := by
      rw [factorSuffices, orNull_of_not_given hrecovery,
        orNull_of_not_given hcode]
      exact Bool.false_ne_true
    change none = ite _ _ _
    rw [if_neg fun hboth => hshort (hboth.1 hfactor)]
  intro _
  apply ensures_ite
  · intro hfactor
    rw [← basis_db hbasis] at hfactor ⊢
    rw [← basis_counters hbasis] at hspare
    apply Ensures.bind (proves_enforceMfaForLogin hlater hspare userId
      input.ipAddress input.mfa hfactor)
    · intro _ third hproves
      obtain ⟨hgood, hsessions, hreadings⟩ := hproves.good
      apply (issued_finishLogin (hlater.of_readings hreadings) input draw
        userId _ _ _).imp
      intro outcome _ hissued
      rw [hissued, sessionFits, sessionFits, hsessions]
      simp only [hgood, implies_true, true_and]
    · intro error third hproves
      have hbad := hproves.bad
      change none = ite _ _ _
      rw [if_neg fun hboth => hbad (hboth.1 hfactor)]
  · intro hnone
    rw [← basis_db hbasis] at hnone ⊢
    apply (issued_finishLogin hlater input draw userId _ _ _).imp
    intro outcome _ hissued
    rw [hissued]
    simp only [hnone, Bool.false_eq_true, false_imp_iff, true_and]

/-- While nothing fails, a login opens a session exactly for whom the tables
admit. -/
theorem issued_login (hsteady : Steady now st)
    (hadaptive : env.adaptiveMfaEnabled = false)
    (hspare : RecoverySpare env now st.counters)
    (input : AuthService.LoginInput) (draw : AuthService.SessionDraw) :
    issuedUser (AuthService.login env input draw st).1 =
      admitted env st.db now input draw := by
  have hlogin : Ensures (AuthService.login env input draw)
      (fun outcome _ => issuedUser outcome =
        admitted env st.db now input draw) st := by
    unfold admitted
    apply ensures_ite
    · intro hconflict
      rw [if_pos hconflict]
      rfl
    · intro hconflict
      rw [if_neg hconflict]
      apply (gives_select hsteady _).bind
      intro first hfirst
      unfold entrant
      cases findWithPasswordByEmail st.db input.email with
      | none => exact issued_rejectPassword (hsteady.of_basis hfirst) input
      | some found =>
          apply (gives_verifyPassword (hsteady.of_basis hfirst) env _ _).bind
          intro second hsecond
          have hbasis := hsecond.trans hfirst
          have hlater := hsteady.of_basis hbasis
          apply ensures_ite
          · intro hvalid
            apply (gives_recordAttempt hlater _ _ _).bind
            intro third hthird
            have hthird := hthird.trans hbasis
            apply ensures_ite
            · intro hinactive
              dsimp only
              rw [if_neg fun hboth => hinactive hboth.2]
              apply (gives_event _ _ _).bind
              exact fun _ _ => rfl
            · intro hactive
              rw [not_not] at hactive
              dsimp only
              rw [if_pos ⟨hvalid, hactive⟩, ← basis_db hthird]
              apply issued_loginActive (hsteady.of_basis hthird) hadaptive
              rw [basis_counters hthird]
              exact hspare
          · intro hinvalid
            dsimp only
            rw [if_neg fun hboth => hinvalid hboth.1]
            exact issued_rejectPassword hlater input
  exact hlogin

end Login

end IdProvider
