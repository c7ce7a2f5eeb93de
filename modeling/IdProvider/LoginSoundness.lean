/-
A login inserts a session only for a user whose password, status, risk and
second factor are in order.
-/
import IdProvider.LoginService

namespace IdProvider

open KeyedTable ServiceCall

/-- What most statements of a login leave alone. -/
def ServiceState.accounts (st : ServiceState) :
    AccountDb × List LoginAttempt × List SecondFactor :=
  (st.db, st.loginAttempts, st.secondFactors)

section Accounts

variable {st after : ServiceState}

theorem accounts_db (hsame : after.accounts = st.accounts) :
    after.db = st.db :=
  congrArg Prod.fst hsame

theorem accounts_secondFactors (hsame : after.accounts = st.accounts) :
    after.secondFactors = st.secondFactors :=
  congrArg (fun accounts => accounts.2.2) hsame

end Accounts

/-! ## Statements -/

section Statements

variable {Value : Type} {st : ServiceState}

theorem keeps_nextReading : Keeps ServiceState.accounts nextReading :=
  fun _ => rfl

theorem ensures_external {run : Instant → Service Value}
    {post : Except Failure Value → ServiceState → Prop}
    (hrun : ∀ now after, after.accounts = st.accounts →
      Ensures (run now) post after)
    (hfails : ∀ after, after.accounts = st.accounts →
      post (.error .unavailable) after) : Ensures (external run) post st := by
  change Ensures (if (st.readings st.ticks).fails = true
    then fail .unavailable else run (st.readings st.ticks).now) post
    { st with ticks := st.ticks + 1 }
  apply ensures_ite
  · intro _
    exact hfails _ rfl
  · intro _
    exact hrun _ _ rfl

theorem keeps_external {run : Instant → Service Value}
    (hrun : ∀ now, Keeps ServiceState.accounts (run now)) :
    Keeps ServiceState.accounts (external run) := by
  intro st
  have hexternal : Ensures (external run)
      (fun _ after => after.accounts = st.accounts) st := by
    apply ensures_external
    · intro now after hsame
      exact (hrun now after).trans hsame
    · intro after hsame
      exact hsame
  exact hexternal

/-- A view that the clock has no part in. -/
theorem keepsView_external {View : Type} {view : ServiceState → View}
    (hticks : Keeps view nextReading) {run : Instant → Service Value}
    (hrun : ∀ now, Keeps view (run now)) : Keeps view (external run) := by
  apply hticks.bind
  intro reading
  exact keeps_ite (keeps_fail _) (hrun reading.now)

theorem returns_external {run : Instant → Service Value}
    {result : ServiceState → Value → Prop}
    (hrun : ∀ now, Returns ServiceState.accounts (run now) fun st value =>
      ∀ origin, st.accounts = origin.accounts → result origin value) :
    Returns ServiceState.accounts (external run) result := by
  intro st
  apply ensures_external
  · intro now after hsame
    refine (hrun now after).imp ?_
    rintro outcome last ⟨hlast, hresult⟩
    exact ⟨hlast.trans hsame, fun value hvalue =>
      hresult value hvalue st hsame⟩
  · intro after hsame
    exact ⟨hsame, nofun⟩

theorem returns_select (read : AccountDb → Value) :
    Returns ServiceState.accounts (select read) fun st value =>
      value = read st.db := by
  apply returns_external
  intro now st
  refine ⟨rfl, fun value hvalue origin hsame => ?_⟩
  cases hvalue
  exact congrArg read (accounts_db hsame)

/-- A library call whose value depends on the clock alone. -/
theorem returns_computed (compute : Instant → Value) :
    Returns ServiceState.accounts (external fun now => pure (compute now))
      fun _ value => ∃ now, value = compute now :=
  returns_external fun now => returns_pure fun _ _ _ => ⟨now, rfl⟩

/-! ### Readings of the clock -/

/-- A query takes one reading. -/
theorem select_spec (read : AccountDb → Value) (st : ServiceState) :
    Ensures (select read) (fun outcome after => after = st.tick 1 ∧
      ∀ value, outcome = .ok value → value = read st.db) st := by
  apply ensures_external_at
  · intro _
    refine ⟨rfl, fun value hvalue => ?_⟩
    cases hvalue
    rfl
  · exact fun _ => ⟨rfl, nofun⟩

/-- A library call that is given the reading it takes. -/
theorem computed_spec (compute : Instant → Value) (st : ServiceState) :
    Ensures (external fun now => pure (compute now))
      (fun outcome after => after = st.tick 1 ∧
        ∀ value, outcome = .ok value →
          value = compute (st.readings st.ticks).now) st := by
  apply ensures_external_at
  · intro _
    refine ⟨rfl, fun value hvalue => ?_⟩
    cases hvalue
    rfl
  · exact fun _ => ⟨rfl, nofun⟩

/-- The same clock, and no earlier. -/
def Onward (before after : ServiceState) : Prop :=
  after.readings = before.readings ∧ before.ticks ≤ after.ticks

instance : IsPreorder ServiceState Onward where
  refl _ := ⟨rfl, Nat.le_refl _⟩
  trans := by
    rintro first second third ⟨hsecond, hle⟩ ⟨hthird, hle'⟩
    exact ⟨hthird.trans hsecond, hle.trans hle'⟩

theorem onward_tick (st : ServiceState) (count : Nat) :
    Onward st (st.tick count) :=
  ⟨rfl, Nat.le_add_right _ _⟩

/-- A reading that the clock gave between the two states. -/
def ReadBetween (before after : ServiceState) (now : Instant) : Prop :=
  ∃ tick, before.ticks ≤ tick ∧ tick < after.ticks ∧
    (before.readings tick).now = now

theorem ReadBetween.mono {origin before after last : ServiceState}
    {now : Instant} (hfirst : Onward origin before)
    (hlast : Onward after last) (hread : ReadBetween before after now) :
    ReadBetween origin last now := by
  obtain ⟨tick, hbefore, hafter, hnow⟩ := hread
  rw [hfirst.1] at hnow
  exact ⟨tick, hfirst.2.trans hbefore, hafter.trans_le hlast.2, hnow⟩

theorem onward_external {run : Instant → Service Value}
    (hrun : ∀ now, Relates Onward (run now)) :
    Relates Onward (external run) := by
  have hreading : Relates Onward nextReading := fun st => onward_tick st 1
  apply hreading.bind
  intro reading
  exact relates_ite (relates_fail _) (hrun reading.now)

theorem keeps_createSecurityEvent (eventType : String)
    (userId : Option String) (payload : JsonText.Json) :
    Keeps ServiceState.accounts
      (AuditRepository.createSecurityEvent eventType userId payload) :=
  keeps_external fun _ => keeps_change fun _ => rfl

theorem keeps_createAuditLog (input : CreateAuditLogInput) :
    Keeps ServiceState.accounts (AuditRepository.createAuditLog input) :=
  keeps_external fun _ => keeps_change fun _ => rfl

theorem keeps_consume (counterKey : String) (limit windowSeconds : Nat) :
    Keeps ServiceState.accounts
      (RateLimiter.consume counterKey limit windowSeconds) := by
  apply keeps_external
  intro now
  apply (keeps_observe _).bind
  intro counter
  apply Keeps.bind
  · exact keeps_change fun _ => rfl
  · exact fun _ => keeps_pure _

theorem onward_consume (counterKey : String) (limit windowSeconds : Nat) :
    Relates Onward (RateLimiter.consume counterKey limit windowSeconds) :=
  onward_external fun _ st => refl_of Onward st

theorem onward_serviceEvent (eventType : String) (userId : Option String)
    (payload : JsonText.Json) :
    Relates Onward
      (AuthService.createSecurityEvent eventType userId payload) :=
  onward_external fun _ st => refl_of Onward st

theorem keeps_serviceEvent (eventType : String) (userId : Option String)
    (payload : JsonText.Json) :
    Keeps ServiceState.accounts
      (AuthService.createSecurityEvent eventType userId payload) :=
  keeps_attempt (keeps_createSecurityEvent eventType userId payload)

theorem recordAttempt_spec (email : String) (success : Bool)
    (ipAddress : Option String) (st : ServiceState) :
    Ensures (AuthRepository.recordAttempt email success ipAddress)
      (fun outcome after => after.db = st.db ∧
        after.secondFactors = st.secondFactors ∧
        (outcome = .ok () → after = { st.tick 1 with
          loginAttempts :=
            { email := email
              success := success
              reason := if success then "ok" else "invalid_credentials"
              ipAddress := ipAddress
              createdAt := (st.readings st.ticks).now } ::
                st.loginAttempts })) st := by
  apply ensures_external_at
  · exact fun _ => ⟨rfl, rfl, fun _ => rfl⟩
  · exact fun _ => ⟨rfl, rfl, nofun⟩

/-- A password that verifies has cost one reading. -/
theorem verifyPassword_spec (env : LoginEnv) (password storedHash : String)
    (st : ServiceState) :
    Ensures (Service.verifyPassword env password storedHash)
      (fun outcome after => after.accounts = st.accounts ∧
        ∀ value, outcome = .ok value →
          value = verifyPassword env.argon2Verify password storedHash ∧
            (value = true → after = st.tick 1)) st := by
  unfold Service.verifyPassword verifyPassword
  split
  case isTrue hstarts =>
    rw [hstarts, Bool.true_and]
    apply (computed_spec _ st).imp
    rintro outcome after ⟨rfl, hvalue⟩
    exact ⟨rfl, fun value hok => ⟨hvalue value hok, fun _ => rfl⟩⟩
  case isFalse hstarts =>
    rw [Bool.eq_false_iff.mpr hstarts, Bool.false_and]
    refine ⟨rfl, fun value hvalue => ?_⟩
    cases hvalue
    exact ⟨rfl, nofun⟩

theorem returns_verifyPassword (env : LoginEnv)
    (password storedHash : String) :
    Returns ServiceState.accounts
      (Service.verifyPassword env password storedHash) fun _ value =>
        value = verifyPassword env.argon2Verify password storedHash := by
  intro st
  apply (verifyPassword_spec env password storedHash st).imp
  rintro outcome after ⟨hsame, hvalue⟩
  exact ⟨hsame, fun value hok => (hvalue value hok).1⟩

theorem hasEnabledMfa_spec (userId : String) (st : ServiceState) :
    Ensures (MfaService.hasEnabledMfa userId)
      (fun outcome after => after = st.tick 1 ∧
        ∀ value, outcome = .ok value →
          (value = true ↔ HasEnabledFactor st.db userId)) st := by
  apply (select_spec _ st).bind
  · rintro factors after ⟨rfl, hfactors⟩
    refine ⟨rfl, fun value hvalue => ?_⟩
    cases hvalue
    rw [hfactors factors rfl, decide_eq_true_iff, List.length_pos_iff, Ne,
      findActiveFactorsByUserId_eq_nil, not_not]
  · rintro error after ⟨rfl, -⟩
    exact ⟨rfl, nofun⟩

theorem returns_hasEnabledMfa (userId : String) :
    Returns ServiceState.accounts (MfaService.hasEnabledMfa userId)
      fun st value => value = true ↔ HasEnabledFactor st.db userId := by
  intro st
  apply (hasEnabledMfa_spec userId st).imp
  rintro outcome after ⟨rfl, henabled⟩
  exact ⟨rfl, henabled⟩

/-! ### Calls that only read -/

/-- Only the clock has moved. -/
def Ticked (before after : ServiceState) : Prop :=
  ∃ count, after = { before with ticks := before.ticks + count }

instance : IsPreorder ServiceState Ticked where
  refl _ := ⟨0, rfl⟩
  trans := by
    rintro st _ _ ⟨first, rfl⟩ ⟨second, rfl⟩
    exact ⟨first + second, by rw [Nat.add_assoc]⟩

theorem Ticked.onward {before after : ServiceState}
    (hticked : Ticked before after) : Onward before after := by
  obtain ⟨count, rfl⟩ := hticked
  exact onward_tick before count

theorem keeps_of_reads {call : Service Value} (hcall : Relates Ticked call) :
    Keeps ServiceState.accounts call := by
  intro st
  obtain ⟨count, hafter⟩ := hcall st
  rw [hafter]
  rfl

theorem reads_nextReading : Relates Ticked nextReading := fun _ => ⟨1, rfl⟩

theorem reads_dateNow : Relates Ticked dateNow :=
  reads_nextReading.bind fun _ => relates_pure _

theorem reads_external {run : Instant → Service Value}
    (hrun : ∀ now, Relates Ticked (run now)) :
    Relates Ticked (external run) := by
  apply reads_nextReading.bind
  intro reading
  exact relates_ite (relates_fail _) (hrun reading.now)

theorem reads_observe (read : ServiceState → Value) :
    Relates Ticked (external fun _ => observe read) :=
  reads_external fun _ => refl_of Ticked

theorem reads_select (read : AccountDb → Value) :
    Relates Ticked (select read) :=
  reads_observe _

theorem reads_computed (compute : Instant → Value) :
    Relates Ticked (external fun now => pure (compute now)) :=
  reads_external fun _ => relates_pure _

theorem reads_verifyPassword (env : LoginEnv) (password storedHash : String) :
    Relates Ticked (Service.verifyPassword env password storedHash) :=
  relates_ite (reads_computed _) (relates_pure _)

theorem reads_hasEnabledMfa (userId : String) :
    Relates Ticked (MfaService.hasEnabledMfa userId) :=
  (reads_select _).bind fun _ => relates_pure _

/-! ### Adaptive risk -/

theorem reads_failureFindings (env : LoginEnv) (ipAddress : Option String) :
    Relates Ticked (AuthService.failureFindings env ipAddress) := by
  unfold AuthService.failureFindings
  split
  case h_1 => exact relates_pure _
  case h_2 =>
    apply reads_dateNow.bind
    intro now
    split
    case h_1 => exact relates_fail _
    case h_2 => exact (reads_observe _).bind fun _ => relates_pure _

theorem reads_deviceFindings (userId : String)
    (sessionUserAgent : Option String) :
    Relates Ticked (AuthService.deviceFindings userId sessionUserAgent) := by
  unfold AuthService.deviceFindings
  split
  case h_1 => exact relates_pure _
  case h_2 => exact (reads_select _).bind fun _ => relates_pure _

theorem reads_travelFindings (env : LoginEnv) (latestSession : UserSession)
    (ipAddress : Option String) :
    Relates Ticked
      (AuthService.travelFindings env latestSession ipAddress) := by
  unfold AuthService.travelFindings
  split
  case h_1 =>
    apply relates_ite
    · exact reads_dateNow.bind fun _ => relates_pure _
    · exact relates_pure _
  case h_2 => exact relates_pure _

theorem reads_historyFindings (env : LoginEnv) (userId : String)
    (ipAddress sessionUserAgent : Option String) :
    Relates Ticked (AuthService.historyFindings env userId ipAddress
      sessionUserAgent) := by
  apply (reads_select _).bind
  intro latestSession
  cases latestSession with
  | none => exact relates_pure _
  | some latestSession =>
      apply (reads_deviceFindings userId sessionUserAgent).bind
      intro device
      exact (reads_travelFindings env latestSession ipAddress).bind
        fun _ => relates_pure _

theorem reads_assessLogin (env : LoginEnv) (userId : String)
    (ipAddress sessionUserAgent : Option String) :
    Relates Ticked
      (AuthService.assessLogin env userId ipAddress sessionUserAgent) := by
  apply relates_ite
  · apply (reads_failureFindings env ipAddress).bind
    intro failures
    exact (reads_historyFindings env userId ipAddress sessionUserAgent).bind
      fun _ => relates_pure _
  · exact relates_pure _

end Statements

/-! ## Second factors -/

/-- One second factor was proved in the call, and how. -/
inductive SecondFactorProved (env : LoginEnv) (before after : ServiceState)
    (mfa : AuthService.MfaInput) (userId : String) : Prop where
  | totp (factor : MfaFactor) (code secret : String) (now : Instant)
      (hfactor : factor ∈ before.db.mfaFactors)
      (howner : factor.userId = userId)
      (htype : factor.type = "totp")
      (hsecret : factor.secret = some secret)
      (hcode : mfa.mfaCode = some code)
      (hfactorId : mfa.mfaFactorId.bind parseUuid = some factor.id)
      (hvalid : env.totpCheck code secret now = true)
      (hnow : ReadBetween before after now)
      (hcodes : after.db.mfaRecoveryCodes = before.db.mfaRecoveryCodes)
      (hproved : after.secondFactors =
        .totp factor.id :: before.secondFactors)
  | recoveryCode (record : MfaRecoveryCode) (code : String) (now : Instant)
      (hrecord : record ∈ before.db.mfaRecoveryCodes)
      (howner : record.userId = userId)
      (hunused : isUnused record = true)
      (hinput : mfa.mfaRecoveryCode = some code)
      (hverified : env.argon2Verify record.codeHash
        (MfaRecoveryService.normalizeCode env code) = true)
      (hcodes : after.db.mfaRecoveryCodes.rows =
        before.db.mfaRecoveryCodes.rows.map fun row =>
          if row.id = record.id then row.withUsedAt now else row)
      (hproved : after.secondFactors =
        .recoveryCode record.id :: before.secondFactors)

section SecondFactor

variable {env : LoginEnv} {userId : String}

theorem given_eq_true {text : Option String} (hgiven : given text = true) :
    ∃ value, text = some value := by
  cases text with
  | none => cases hgiven
  | some value => exact ⟨value, rfl⟩

theorem markUsed_rows {db : AccountDb} {now : Instant}
    {record : MfaRecoveryCode} (hrecord : record ∈ db.mfaRecoveryCodes)
    (hunused : isUnused record = true) :
    (markUsed db now record.id).1.mfaRecoveryCodes.rows =
      db.mfaRecoveryCodes.rows.map fun row =>
        if row.id = record.id then row.withUsedAt now else row := by
  apply List.map_congr_left
  intro row hrow
  by_cases hid : row.id = record.id
  · rw [db.mfaRecoveryCodes.eq_of_key_eq hrow hrecord hid]
    simp [hunused]
  · simp [hid]

/-- What a failed or finished proof leaves of the account tables. -/
def ProofOutcome {Value : Type} (env : LoginEnv) (mfa : AuthService.MfaInput)
    (userId : String) (before : ServiceState)
    (outcome : Except Failure Value) (after : ServiceState) : Prop :=
  after.db.userSessions = before.db.userSessions ∧
    ∀ value, outcome = .ok value →
      SecondFactorProved env before after mfa userId

theorem proofOutcome_error {Value : Type} {mfa : AuthService.MfaInput}
    {before after : ServiceState} {error : Failure}
    (hsame : after.accounts = before.accounts) :
    ProofOutcome env mfa userId before (.error error : Except Failure Value)
      after :=
  ⟨congrArg (fun db : AccountDb => db.userSessions) (accounts_db hsame),
    nofun⟩

theorem verifyMfa_spec {mfa : AuthService.MfaInput} {code factorId : String}
    (hcode : mfa.mfaCode = some code)
    (hfactorId : mfa.mfaFactorId = some factorId) (st : ServiceState) :
    Ensures (MfaService.verifyMfa env userId factorId code)
      (ProofOutcome env mfa userId st) st := by
  apply (select_spec _ st).bind
  · rintro found after ⟨rfl, hfound⟩
    cases found with
    | none => exact proofOutcome_error rfl
    | some factor =>
        obtain ⟨hfactor, hid⟩ := Table.mem_of_first? (hfound _ rfl).symm
        apply ensures_ite
        · exact fun _ => proofOutcome_error rfl
        intro howner
        apply ensures_ite
        · exact fun _ => proofOutcome_error rfl
        intro husable
        rw [not_or, not_not, Bool.not_eq_false] at husable
        obtain ⟨secret, hsecret⟩ := given_eq_true husable.2
        apply (computed_spec _ (st.tick 1)).bind
        · rintro valid last ⟨rfl, hchecked⟩
          apply ensures_ite
          · intro hvalid
            rw [hchecked valid rfl, hsecret] at hvalid
            have hparsed : mfa.mfaFactorId.bind parseUuid = some factor.id := by
              rw [hfactorId]
              exact isFactorId_iff.mp hid
            -- The check took the second reading of the call.
            have hnow : ReadBetween st ((st.tick 1).tick 1)
                (st.readings (st.ticks + 1)).now :=
              ⟨st.ticks + 1, Nat.le_succ _, Nat.lt_succ_self _, rfl⟩
            exact ⟨rfl, fun _ _ => .totp factor code secret _ hfactor
              (not_not.mp howner) husable.1 hsecret hcode hparsed hvalid hnow
              rfl rfl⟩
          · exact fun _ => proofOutcome_error rfl
        · rintro error last ⟨rfl, -⟩
          exact proofOutcome_error rfl
  · rintro error after ⟨rfl, -⟩
    exact proofOutcome_error rfl

/-! ### Recovery codes -/

theorem keeps_reportUse (owner : String) :
    Keeps ServiceState.accounts (MfaRecoveryService.reportUse owner) := by
  apply (returns_select _).keeps.bind
  intro remainingCount
  apply (keeps_createAuditLog _).bind
  intro _
  apply (keeps_createSecurityEvent _ _ _).bind
  intro _
  apply Keeps.bind
  · apply keeps_ite
    · exact keeps_createSecurityEvent _ _ _
    · exact keeps_pure _
  · exact fun _ => keeps_pure _

theorem returns_verifyCode (normalizedCode : String)
    (record : MfaRecoveryCode) :
    Returns ServiceState.accounts
      (MfaRecoveryService.verifyCode env userId normalizedCode record)
      fun _ value => value = true → record.userId = userId ∧
        env.argon2Verify record.codeHash normalizedCode = true := by
  unfold MfaRecoveryService.verifyCode
  split
  case isTrue howner =>
    apply returns_external
    intro now
    exact returns_pure fun _ _ _ hverified => ⟨howner, hverified⟩
  case isFalse => exact returns_pure fun _ => nofun

/-- Marking the code and recording the proof. -/
theorem recordUse_spec {record : MfaRecoveryCode} (st : ServiceState)
    (hrecord : record ∈ st.db.mfaRecoveryCodes)
    (hunused : isUnused record = true) :
    Ensures (MfaRecoveryService.markUsed record.id) (fun outcome after =>
      after.db.userSessions = st.db.userSessions ∧
      after.secondFactors = st.secondFactors ∧
      ∀ used, outcome = .ok used → ∃ now,
        after.db.mfaRecoveryCodes.rows =
          st.db.mfaRecoveryCodes.rows.map fun row =>
            if row.id = record.id then row.withUsedAt now else row) st := by
  apply ensures_external
  · intro now after hsame
    have hsessions : after.db.userSessions = st.db.userSessions := by
      rw [accounts_db hsame]
    have hproved := accounts_secondFactors hsame
    have hrows : (markUsed after.db now record.id).1.mfaRecoveryCodes.rows =
        st.db.mfaRecoveryCodes.rows.map fun row =>
          if row.id = record.id then row.withUsedAt now else row := by
      rw [accounts_db hsame, markUsed_rows hrecord hunused]
    exact ⟨hsessions, hproved, fun used _ => ⟨now, hrows⟩⟩
  · intro after hsame
    have hsessions : after.db.userSessions = st.db.userSessions := by
      rw [accounts_db hsame]
    exact ⟨hsessions, accounts_secondFactors hsame, nofun⟩

theorem consumeCode_spec {mfa : AuthService.MfaInput} {code : String}
    (hcode : mfa.mfaRecoveryCode = some code) (st : ServiceState) :
    Ensures (MfaRecoveryService.consumeCode env userId code)
      (ProofOutcome env mfa userId st) st := by
  apply (returns_select _).bind
  · rintro found after hsame hfound
    cases found with
    | none => exact proofOutcome_error hsame
    | some record =>
        obtain ⟨hrecord, hwhere⟩ := Table.mem_of_first? hfound.symm
        rw [Bool.and_eq_true] at hwhere
        apply (returns_verifyCode _ record).bind
        · intro isValid middle hmiddle hvalid
          have haccounts := hmiddle.trans hsame
          apply ensures_ite
          · intro hisValid
            obtain ⟨howner, hverified⟩ := hvalid hisValid
            have hstored : record ∈ middle.db.mfaRecoveryCodes := by
              rwa [accounts_db haccounts]
            have hsessions : middle.db.userSessions = st.db.userSessions := by
              rw [accounts_db haccounts]
            apply Ensures.bind (recordUse_spec middle hstored hwhere.2)
            · rintro used last ⟨hkept, hproved, hrows⟩
              obtain ⟨now, hrows⟩ := hrows used rfl
              rw [accounts_db haccounts] at hrows
              rw [accounts_secondFactors haccounts] at hproved
              apply ensures_ite
              · intro _
                apply ((keeps_reportUse userId).ensures _).imp
                rintro outcome final hfinal
                have hdb := accounts_db hfinal
                refine ⟨?_, fun _ _ => .recoveryCode record code now hrecord
                  howner hwhere.2 hcode hverified ?_ ?_⟩
                · rw [hdb]
                  exact hkept.trans hsessions
                · rw [hdb]
                  exact hrows
                · rw [accounts_secondFactors hfinal]
                  exact congrArg (List.cons _) hproved
              · intro _
                exact ⟨hkept.trans hsessions, nofun⟩
            · rintro error last ⟨hkept, -, -⟩
              exact ⟨hkept.trans hsessions, nofun⟩
          · exact fun _ => proofOutcome_error haccounts
        · exact fun error last hlast =>
            proofOutcome_error (hlast.trans hsame)
  · exact fun error after hsame => proofOutcome_error hsame

/-! ### Enforcement -/

/-- The proof counts from any earlier state with the same tables and ghost. -/
theorem SecondFactorProved.rebase {before origin after : ServiceState}
    {mfa : AuthService.MfaInput} (hdb : before.db = origin.db)
    (hghost : before.secondFactors = origin.secondFactors)
    (hclock : Onward origin before)
    (hproved : SecondFactorProved env before after mfa userId) :
    SecondFactorProved env origin after mfa userId := by
  cases hproved with
  | totp factor code secret now hfactor howner htype hsecret hcode hfactorId
      hvalid hnow hcodes hproved =>
      rw [hdb] at hfactor hcodes
      rw [hghost] at hproved
      exact .totp factor code secret now hfactor howner htype hsecret hcode
        hfactorId hvalid (hnow.mono hclock (refl_of Onward _)) hcodes hproved
  | recoveryCode record code now hrecord howner hunused hinput hverified
      hcodes hproved =>
      rw [hdb] at hrecord hcodes
      rw [hghost] at hproved
      exact .recoveryCode record code now hrecord howner hunused hinput
        hverified hcodes hproved

theorem SecondFactorProved.of_same {before origin after : ServiceState}
    {mfa : AuthService.MfaInput} (hsame : before.accounts = origin.accounts)
    (hclock : Onward origin before)
    (hproved : SecondFactorProved env before after mfa userId) :
    SecondFactorProved env origin after mfa userId :=
  hproved.rebase (accounts_db hsame) (accounts_secondFactors hsame) hclock

theorem ProofOutcome.of_same {Value : Type} {mfa : AuthService.MfaInput}
    {before origin after : ServiceState} {outcome : Except Failure Value}
    (hsame : before.accounts = origin.accounts)
    (hclock : Onward origin before)
    (hproof : ProofOutcome env mfa userId before outcome after) :
    ProofOutcome env mfa userId origin outcome after := by
  refine ⟨?_, fun value hvalue =>
    (hproof.2 value hvalue).of_same hsame hclock⟩
  rw [← accounts_db hsame]
  exact hproof.1

/-- The proof is all that is left to do. -/
theorem prove_then {Value : Type} {mfa : AuthService.MfaInput}
    {proof : Service Value} {st origin : ServiceState}
    (hsame : st.accounts = origin.accounts) (hclock : Onward origin st)
    (hproof : Ensures proof (ProofOutcome env mfa userId st) st) :
    Ensures (proof >>= fun _ => pure true)
      (ProofOutcome env mfa userId origin) st := by
  apply Ensures.bind hproof
  · intro value after hafter
    have hproved := (hafter.2 value rfl).of_same hsame hclock
    exact ⟨(hafter.of_same hsame hclock).1, fun _ _ => hproved⟩
  · intro error after hafter
    exact ⟨(hafter.of_same hsame hclock).1, nofun⟩

/-- An enforced login of a user with a factor has proved one. -/
def Enforced (env : LoginEnv) (mfa : AuthService.MfaInput) (userId : String)
    (before : ServiceState) (outcome : Except Failure Bool)
    (after : ServiceState) : Prop :=
  after.db.userSessions = before.db.userSessions ∧
    ∀ value, outcome = .ok value → HasEnabledFactor before.db userId →
      SecondFactorProved env before after mfa userId

theorem ProofOutcome.enforced {mfa : AuthService.MfaInput}
    {before after : ServiceState} {outcome : Except Failure Bool}
    (hproof : ProofOutcome env mfa userId before outcome after) :
    Enforced env mfa userId before outcome after :=
  ⟨hproof.1, fun value hvalue _ => hproof.2 value hvalue⟩

theorem enforced_error {mfa : AuthService.MfaInput}
    {before after : ServiceState} {error : Failure}
    (hsame : after.accounts = before.accounts) :
    Enforced env mfa userId before (.error error) after :=
  (proofOutcome_error hsame).enforced

theorem enforceMfaForLogin_spec (ipAddress : Option String)
    (mfa : AuthService.MfaInput) (st : ServiceState) :
    Ensures (AuthService.enforceMfaForLogin env userId ipAddress mfa)
      (Enforced env mfa userId st) st := by
  apply (hasEnabledMfa_spec userId st).bind
  · rintro mfaEnabled after ⟨rfl, henabled⟩
    have hstart := onward_tick st 1
    apply ensures_ite
    · intro _
      split
      case h_1 recoveryCode hcode =>
        apply (((keeps_consume _ _ _).ensures _).and
          ((onward_consume _ _ _).ensures _)).bind
        · rintro rate first ⟨hfirst, hfirstClock⟩
          apply (((keeps_consume _ _ _).ensures _).and
            ((onward_consume _ _ _).ensures _)).bind
          · rintro ipRate second ⟨hsecond, hsecondClock⟩
            have haccounts := hsecond.trans hfirst
            have hclock := trans_of Onward hstart
              (trans_of Onward hfirstClock hsecondClock)
            apply ensures_ite
            · exact fun _ => enforced_error haccounts
            · intro _
              have hsame : second.accounts = st.accounts := haccounts
              apply (prove_then hsame hclock (consumeCode_spec
                (orNull_eq_some hcode).1 second)).imp
              exact fun _ _ hproof => hproof.enforced
          · exact fun error second hsecond =>
              enforced_error (hsecond.1.trans hfirst)
        · exact fun error first hfirst => enforced_error hfirst.1
      case h_2 =>
        split
        case h_1 code factorId hcode hfactorId =>
          have hsame : (st.tick 1).accounts = st.accounts := rfl
          apply (prove_then hsame hstart (verifyMfa_spec
            (orNull_eq_some hcode).1 (orNull_eq_some hfactorId).1
            (st.tick 1))).imp
          exact fun _ _ hproof => hproof.enforced
        case h_2 => exact enforced_error rfl
    · intro hdisabled
      exact ⟨rfl, fun _ _ hfactor =>
        absurd ((henabled mfaEnabled rfl).mpr hfactor) hdisabled⟩
  · rintro error after ⟨rfl, -⟩
    exact enforced_error rfl

end SecondFactor

/-! ## Sessions -/

/-- One session of the user was inserted, and no other row touched. -/
def SessionInserted (before after : ServiceState)
    (userId sessionId : String) : Prop :=
  ∃ session : UserSession, session.id = sessionId ∧
    session.userId = userId ∧
    after.db.userSessions.rows = before.db.userSessions.rows ++ [session]

/-- The other tables that a login may write, and the ghost. -/
def ServiceState.proofs (st : ServiceState) :
    Table MfaRecoveryCode × List SecondFactor :=
  (st.db.mfaRecoveryCodes, st.secondFactors)

def SessionOutcome {Value : Type} (userId : String) (before : ServiceState)
    (inserted : Value → String) (outcome : Except Failure Value)
    (after : ServiceState) : Prop :=
  after.proofs = before.proofs ∧
    match outcome with
    | .ok value => SessionInserted before after userId (inserted value)
    | .error _ => after.db.userSessions = before.db.userSessions

theorem insertSession_spec (row : UserSession) (st : ServiceState) :
    Ensures (AuthService.insertSession row)
      (SessionOutcome row.userId st fun _ => row.id) st := by
  unfold Ensures AuthService.insertSession
  dsimp only
  split
  case isTrue =>
    split
    case h_1 => exact ⟨rfl, rfl⟩
    case h_2 userSessions hinsert =>
      split
      case isTrue => exact ⟨rfl, rfl⟩
      case isFalse =>
        exact ⟨rfl, row, rfl, rfl, (Table.insert?_eq_some hinsert).2⟩
  case isFalse => exact ⟨rfl, rfl⟩

theorem SessionInserted.of_same {before origin after : ServiceState}
    {userId sessionId : String} (hsame : before.accounts = origin.accounts)
    (hinserted : SessionInserted before after userId sessionId) :
    SessionInserted origin after userId sessionId := by
  rwa [SessionInserted, accounts_db hsame] at hinserted

theorem proofs_of_same {st after : ServiceState}
    (hsame : after.accounts = st.accounts) : after.proofs = st.proofs := by
  rw [ServiceState.proofs, accounts_db hsame, accounts_secondFactors hsame]
  rfl

theorem SessionOutcome.of_same {Value : Type}
    {before origin after : ServiceState}
    {userId : String} {inserted : Value → String}
    {outcome : Except Failure Value}
    (hsame : before.accounts = origin.accounts)
    (houtcome : SessionOutcome userId before inserted outcome after) :
    SessionOutcome userId origin inserted outcome after := by
  refine ⟨houtcome.1.trans (proofs_of_same hsame), ?_⟩
  cases outcome with
  | ok value => exact SessionInserted.of_same hsame houtcome.2
  | error error =>
      rw [← accounts_db hsame]
      exact houtcome.2

theorem sessionOutcome_error {Value : Type} {before after : ServiceState}
    {userId : String} {inserted : Value → String} {error : Failure}
    (hsame : after.accounts = before.accounts) :
    SessionOutcome userId before inserted (.error error) after := by
  refine ⟨proofs_of_same hsame, ?_⟩
  dsimp only
  rw [accounts_db hsame]

theorem createSession_spec (env : LoginEnv) (draw : AuthService.SessionDraw)
    (userId : String) (ipAddress userAgent : Option String)
    (st : ServiceState) :
    Ensures (AuthService.createSession env draw userId ipAddress userAgent)
      (SessionOutcome userId st AuthService.IssuedSession.sessionId) st := by
  apply (keeps_of_reads reads_dateNow).returns.bind
  · intro accessNow first hfirst _
    apply (keeps_of_reads reads_dateNow).returns.bind
    · intro refreshNow second hsecond _
      have haccounts := hsecond.trans hfirst
      have hinsert : Ensures (external fun now => AuthService.insertSession
          { id := draw.id
            userId := userId
            accessTokenHash := env.hashOpaqueToken draw.accessToken
            refreshTokenHash := env.hashOpaqueToken draw.refreshToken
            ipAddress := ipAddress
            userAgent := userAgent
            expiresAt := .ofInstant
              (accessNow + env.accessTokenTtlSeconds * 1000)
            refreshExpiresAt := .ofInstant
              (refreshNow + env.refreshTokenTtlSeconds * 1000)
            revokedAt := none
            lastSeenAt := now
            createdAt := now })
          (SessionOutcome userId st fun _ => draw.id) second := by
        apply ensures_external
        · intro now after hsame
          apply (insertSession_spec _ after).imp
          exact fun outcome last houtcome =>
            houtcome.of_same (hsame.trans haccounts)
        · exact fun after hsame => sessionOutcome_error (hsame.trans haccounts)
      apply Ensures.bind hinsert
      · exact fun _ after hafter => hafter
      · exact fun error after hafter => hafter
    · exact fun error second hsecond =>
        sessionOutcome_error (hsecond.trans hfirst)
  · exact fun error first hfirst => sessionOutcome_error hfirst

theorem onward_createSession (env : LoginEnv)
    (draw : AuthService.SessionDraw) (userId : String)
    (ipAddress userAgent : Option String) :
    Relates Onward
      (AuthService.createSession env draw userId ipAddress userAgent) := by
  have hdateNow : Relates Onward dateNow :=
    fun st => (reads_dateNow st).onward
  apply hdateNow.bind
  intro accessNow
  apply hdateNow.bind
  intro refreshNow
  have hinsert : ∀ row, Relates Onward (AuthService.insertSession row) := by
    intro row st
    unfold AuthService.insertSession
    dsimp only
    split
    case isTrue =>
      split
      case h_1 => exact refl_of Onward st
      case h_2 => split <;> exact refl_of Onward st
    case isFalse => exact refl_of Onward st
  apply (onward_external fun _ => hinsert _).bind
  exact fun _ => relates_pure _

/-! ## Logins -/

/-- The state in which a login of an active user goes on: the user's row, the
password and the attempt have cost one reading each, and the attempt is on
record. -/
def AuthService.LoginInput.recorded (input : AuthService.LoginInput)
    (before : ServiceState) : ServiceState :=
  { before.tick 3 with
    loginAttempts :=
      { email := input.email
        success := true
        reason := "ok"
        ipAddress := input.ipAddress
        createdAt := (before.readings (before.ticks + 2)).now } ::
          before.loginAttempts }

/-- The risk that the login assesses, one reading later: the user's factors
are looked up in between. -/
def AssessedRisk (env : LoginEnv) (input : AuthService.LoginInput)
    (before : ServiceState) (userId : String) (risk : AdaptiveRisk) : Prop :=
  (AuthService.assessAdaptiveRisk env userId input.ipAddress
    (AuthService.buildSessionUserAgent input.userAgent input.deviceId)
    ((input.recorded before).tick 1)).1 = .ok risk

/-- Why a login may insert a session for the user. -/
structure LoginJustified (env : LoginEnv) (input : AuthService.LoginInput)
    (before after : ServiceState) (userId : String) : Prop where
  password : ∃ found : UserWithPassword, found.Stored before.db input.email ∧
    found.user.id = userId ∧ found.user.status = .active ∧
    verifyPassword env.argon2Verify input.password
      found.password.passwordHash = true
  risk : env.adaptiveMfaEnabled = true →
    ∃ risk, AssessedRisk env input before userId risk ∧ risk.level ≠ .high ∧
      (risk.level = .medium → env.adaptiveMfaRequireForMedium = true →
        HasEnabledFactor before.db userId)
  secondFactor : HasEnabledFactor before.db userId →
    SecondFactorProved env before after input.mfa userId

/-- Only a login that answers with tokens has inserted a session. -/
def LoginSound (env : LoginEnv) (input : AuthService.LoginInput)
    (before : ServiceState)
    (outcome : Except Failure AuthService.LoginResult)
    (after : ServiceState) : Prop :=
  match outcome with
  | .ok (.ok userId session _ _) =>
      SessionInserted before after userId session.sessionId ∧
        LoginJustified env input before after userId
  | _ => after.db.userSessions = before.db.userSessions

section Login

variable {env : LoginEnv} {input : AuthService.LoginInput}
  {before st : ServiceState} {userId : String}

theorem SecondFactorProved.later {after last : ServiceState}
    {mfa : AuthService.MfaInput} (hsame : last.proofs = after.proofs)
    (hclock : Onward after last)
    (hproved : SecondFactorProved env before after mfa userId) :
    SecondFactorProved env before last mfa userId := by
  have hcodesSame : last.db.mfaRecoveryCodes = after.db.mfaRecoveryCodes :=
    congrArg Prod.fst hsame
  have hghost : last.secondFactors = after.secondFactors :=
    congrArg Prod.snd hsame
  cases hproved with
  | totp factor code secret now hfactor howner htype hsecret hcode hfactorId
      hvalid hnow hcodes hproved =>
      exact .totp factor code secret now hfactor howner htype hsecret hcode
        hfactorId hvalid (hnow.mono (refl_of Onward _) hclock)
        (hcodesSame.trans hcodes) (hghost.trans hproved)
  | recoveryCode record code now hrecord howner hunused hinput hverified
      hcodes hproved =>
      exact .recoveryCode record code now hrecord howner hunused hinput
        hverified (by rw [hcodesSame, hcodes]) (hghost.trans hproved)

theorem sessions_of_same {after : ServiceState}
    (hsame : after.accounts = st.accounts)
    (hsessions : st.db.userSessions = before.db.userSessions) :
    after.db.userSessions = before.db.userSessions := by
  rw [accounts_db hsame, hsessions]

/-- A login that only reports and throws. -/
theorem loginSound_throw {report : Service Unit} {status : Nat}
    {code message : String} (hreport : Keeps ServiceState.accounts report)
    (hsessions : st.db.userSessions = before.db.userSessions) :
    Ensures (report >>= fun _ => throwApi status code message)
      (LoginSound env input before) st := by
  apply hreport.returns.bind
  · exact fun _ after hsame _ => sessions_of_same hsame hsessions
  · exact fun _ after hsame => sessions_of_same hsame hsessions

theorem finishLogin_spec (draw : AuthService.SessionDraw)
    (sessionUserAgent : Option String) (mfaEnabled : Bool)
    (adaptiveRisk : AdaptiveRisk)
    (hsessions : st.db.userSessions = before.db.userSessions)
    (hjustified : LoginJustified env input before st userId) :
    Ensures (AuthService.finishLogin env input draw userId sessionUserAgent
      mfaEnabled adaptiveRisk) (LoginSound env input before) st := by
  apply Ensures.bind ((createSession_spec env draw userId input.ipAddress
    sessionUserAgent st).and
      ((onward_createSession env draw userId _ _).ensures st))
  · rintro session after ⟨⟨hproofs, hinserted⟩, hcreated⟩
    apply Ensures.bind
      ((ensures_attempt (keeps_createSecurityEvent _ _ _) after).and
        ((onward_serviceEvent _ _ _).ensures after))
    · rintro _ last ⟨⟨-, hlast⟩, hreported⟩
      have hlater := (proofs_of_same hlast).trans hproofs
      have hclock := trans_of Onward hcreated hreported
      refine ⟨?_, hjustified.password, hjustified.risk, fun hfactor =>
        (hjustified.secondFactor hfactor).later hlater hclock⟩
      change SessionInserted before last userId session.sessionId
      rwa [SessionInserted, accounts_db hlast, ← hsessions]
    · exact fun error last hlast => nomatch hlast.1.1
  · rintro error after ⟨⟨-, hkept⟩, -⟩
    exact hkept.trans hsessions

theorem assessLogin_spec (env : LoginEnv) (userId : String)
    (ipAddress sessionUserAgent : Option String) (st : ServiceState) :
    Ensures (AuthService.assessLogin env userId ipAddress sessionUserAgent)
      (fun outcome after => Ticked st after ∧
        ∀ risk, outcome = .ok risk → env.adaptiveMfaEnabled = true →
          (AuthService.assessAdaptiveRisk env userId ipAddress
            sessionUserAgent st).1 = .ok risk) st := by
  refine ⟨reads_assessLogin _ _ _ _ st, ?_⟩
  intro risk hrisk henabled
  rwa [AuthService.assessLogin, if_pos henabled] at hrisk

/-- What the password check and the status check leave to prove. -/
structure Cleared (env : LoginEnv) (input : AuthService.LoginInput)
    (before : ServiceState) (userId : String) (risk : AdaptiveRisk)
    (mfaEnabled : Bool) : Prop where
  mfaEnabled_iff : mfaEnabled = true ↔ HasEnabledFactor before.db userId
  assessed : env.adaptiveMfaEnabled = true →
    AssessedRisk env input before userId risk
  notHigh : risk.level ≠ .high
  medium : ¬ (risk.level = .medium ∧ mfaEnabled = false ∧
    env.adaptiveMfaRequireForMedium = true)

theorem Cleared.risk {risk : AdaptiveRisk} {mfaEnabled : Bool}
    (hcleared : Cleared env input before userId risk mfaEnabled)
    (hadaptive : env.adaptiveMfaEnabled = true) :
    ∃ risk, AssessedRisk env input before userId risk ∧ risk.level ≠ .high ∧
      (risk.level = .medium → env.adaptiveMfaRequireForMedium = true →
        HasEnabledFactor before.db userId) := by
  refine ⟨risk, hcleared.assessed hadaptive, hcleared.notHigh, ?_⟩
  intro hmedium hrequire
  rw [← hcleared.mfaEnabled_iff, ← Bool.not_eq_false]
  exact fun hdisabled => hcleared.medium ⟨hmedium, hdisabled, hrequire⟩

theorem loginActive_spec (draw : AuthService.SessionDraw)
    (found : UserWithPassword)
    (hstored : found.Stored before.db input.email)
    (hactive : found.user.status = .active)
    (hpassword : verifyPassword env.argon2Verify input.password
      found.password.passwordHash = true) :
    Ensures (AuthService.loginActive env input draw found.user.id)
      (LoginSound env input before) (input.recorded before) := by
  apply (hasEnabledMfa_spec found.user.id (input.recorded before)).bind
  · rintro mfaEnabled first ⟨rfl, henabled⟩
    have hfactor := henabled mfaEnabled rfl
    apply (assessLogin_spec env _ _ _ _).bind
    · rintro risk second ⟨⟨count, rfl⟩, hassessed⟩
      apply ensures_ite
      · exact fun _ => loginSound_throw (keeps_serviceEvent _ _ _) rfl
      intro hnotHigh
      apply ensures_ite
      · exact fun _ => loginSound_throw (keeps_serviceEvent _ _ _) rfl
      intro hmedium
      have hcleared :
          Cleared env input before found.user.id risk mfaEnabled :=
        ⟨hfactor, hassessed risk rfl, hnotHigh, hmedium⟩
      apply ensures_ite
      · exact fun _ => rfl
      intro _
      apply ensures_ite
      · intro _
        apply Ensures.bind (enforceMfaForLogin_spec _ _ _)
        · rintro proved third ⟨hsessions, hproved⟩
          apply finishLogin_spec
          · exact hsessions
          · refine ⟨⟨found, hstored, rfl, hactive, hpassword⟩,
              hcleared.risk, fun henrolled => ?_⟩
            have hstart : Onward before ((input.recorded before).tick 1) :=
              onward_tick before 4
            have hsecond := hproved proved rfl henrolled
            have hdb : (((input.recorded before).tick 1).tick count).db =
                before.db := rfl
            exact hsecond.rebase hdb rfl
              (trans_of Onward hstart (onward_tick _ count))
        · rintro error third ⟨hsessions, -⟩
          exact hsessions
      · intro hdisabled
        apply finishLogin_spec
        · rfl
        · exact ⟨⟨found, hstored, rfl, hactive, hpassword⟩, hcleared.risk,
            fun henrolled => absurd (hfactor.mpr henrolled) hdisabled⟩
    · rintro error second ⟨⟨count, rfl⟩, -⟩
      rfl
  · rintro error first ⟨rfl, -⟩
    rfl

theorem rejectPassword_spec
    (hsessions : st.db.userSessions = before.db.userSessions) :
    Ensures (AuthService.rejectPassword input) (LoginSound env input before)
      st := by
  apply Ensures.bind (recordAttempt_spec _ _ _ st)
  · rintro _ after ⟨hdb, -, -⟩
    apply loginSound_throw (keeps_serviceEvent _ _ _)
    rw [hdb, hsessions]
  · rintro error after ⟨hdb, -, -⟩
    change after.db.userSessions = before.db.userSessions
    rw [hdb, hsessions]

theorem loginUser_spec (draw : AuthService.SessionDraw)
    (found : UserWithPassword)
    (hstored : found.Stored before.db input.email)
    (hpassword : verifyPassword env.argon2Verify input.password
      found.password.passwordHash = true) :
    Ensures (AuthService.loginUser env input draw found.user)
      (LoginSound env input before) (before.tick 2) := by
  apply Ensures.bind (recordAttempt_spec _ _ _ (before.tick 2))
  · rintro _ after ⟨-, -, hafter⟩
    have hrecorded : after = input.recorded before := hafter rfl
    subst hrecorded
    apply ensures_ite
    · intro _
      exact loginSound_throw (keeps_serviceEvent _ _ _) rfl
    · intro hactive
      exact loginActive_spec draw found hstored (not_not.mp hactive)
        hpassword
  · rintro error after ⟨hdb, -, -⟩
    exact congrArg (fun db : AccountDb => db.userSessions) hdb

theorem login_sound (env : LoginEnv) (input : AuthService.LoginInput)
    (draw : AuthService.SessionDraw) (before : ServiceState) :
    Ensures (AuthService.login env input draw) (LoginSound env input before)
      before := by
  apply ensures_ite
  · exact fun _ => rfl
  intro _
  apply (select_spec _ before).bind
  · rintro found after ⟨rfl, hfound⟩
    cases found with
    | none => exact rejectPassword_spec rfl
    | some found =>
        have hstored := stored_of_findWithPasswordByEmail (hfound _ rfl).symm
        apply (verifyPassword_spec env _ _ _).bind
        · rintro isValidPassword last ⟨hlast, hchecked⟩
          obtain ⟨hvalid, hticked⟩ := hchecked isValidPassword rfl
          apply ensures_ite
          · intro hverified
            rw [hticked hverified]
            exact loginUser_spec draw found hstored (hvalid ▸ hverified)
          · exact fun _ =>
              rejectPassword_spec (sessions_of_same hlast rfl)
        · exact fun error last hlast => sessions_of_same hlast.1 rfl
  · rintro error after ⟨rfl, -⟩
    rfl

end Login

end IdProvider
