/-
What a login writes, one write at a time, and what it therefore leaves alone.
-/
import IdProvider.LoginSoundness
import Mathlib.Logic.Relation

namespace IdProvider

open KeyedTable ServiceCall

/-- One write of a login.  Its counters are those of recovery codes. -/
inductive LoginWrite : ServiceState → ServiceState → Prop where
  | read {before after : ServiceState} (hticked : Ticked before after) :
      LoginWrite before after
  | attempt (st : ServiceState) (attempt : LoginAttempt) :
      LoginWrite st { st with loginAttempts := attempt :: st.loginAttempts }
  | event (st : ServiceState) (event : SecurityEventInput) :
      LoginWrite st { st with securityEvents := event :: st.securityEvents }
  | audit (st : ServiceState) (input : CreateAuditLogInput) :
      LoginWrite st { st with auditLogs := input :: st.auditLogs }
  | count (st : ServiceState) (rest : String)
      (counter : Option RateCounter) :
      LoginWrite st
        { st with
          counters := fun other =>
            if other = "rl:" ++ ("mfa-recovery" ++ rest) then counter
            else st.counters other }
  | useCode (st : ServiceState) (now : Instant) (codeId : String) :
      LoginWrite st { st with db := (markUsed st.db now codeId).1 }
  | proveCode (st : ServiceState) (codeId : String) :
      LoginWrite st
        { st with secondFactors := .recoveryCode codeId :: st.secondFactors }
  | proveTotp (st : ServiceState) (factor : MfaFactor)
      (hstored : factor ∈ st.db.mfaFactors) :
      LoginWrite st
        { st with secondFactors := .totp factor.id :: st.secondFactors }
  | openSession (st : ServiceState) (row : UserSession)
      (userSessions : Table UserSession)
      (hinsert : st.db.userSessions.insert? row = some userSessions) :
      LoginWrite st
        { st with db := { st.db with userSessions := userSessions } }

abbrev LoginWrites : ServiceState → ServiceState → Prop :=
  Relation.ReflTransGen LoginWrite

/-! ## Each call -/

section Writes

variable {Value : Type} {env : LoginEnv}

theorem writes_of_reads {call : Service Value}
    (hcall : Relates Ticked call) : Relates LoginWrites call :=
  fun st => .single (.read (hcall st))

theorem writes_external {run : Instant → Service Value}
    (hrun : ∀ now, Relates LoginWrites (run now)) :
    Relates LoginWrites (external run) := by
  apply (writes_of_reads reads_nextReading).bind
  intro reading
  exact relates_ite (relates_fail _) (hrun reading.now)

theorem writes_recordAttempt (email : String) (success : Bool)
    (ipAddress : Option String) :
    Relates LoginWrites
      (AuthRepository.recordAttempt email success ipAddress) :=
  writes_external fun _ st => .single (.attempt st _)

theorem writes_event (eventType : String) (userId : Option String)
    (payload : JsonText.Json) :
    Relates LoginWrites
      (AuditRepository.createSecurityEvent eventType userId payload) :=
  writes_external fun _ st => .single (.event st _)

theorem writes_report (eventType : String) (userId : Option String)
    (payload : JsonText.Json) {rest : Service Value}
    (hrest : Relates LoginWrites rest) :
    Relates LoginWrites (do
      AuthService.createSecurityEvent eventType userId payload
      rest) := by
  have hreport : Relates LoginWrites
      (AuthService.createSecurityEvent eventType userId payload) :=
    writes_event eventType userId payload
  exact hreport.bind fun _ => hrest

theorem writes_consume (rest : String) (limit windowSeconds : Nat) :
    Relates LoginWrites
      (RateLimiter.consume ("mfa-recovery" ++ rest) limit windowSeconds) := by
  apply writes_external
  intro now st
  exact .single (.count st rest _)

theorem writes_reportUse (userId : String) :
    Relates LoginWrites (MfaRecoveryService.reportUse userId) := by
  apply (writes_of_reads (reads_select _)).bind
  intro remainingCount
  apply Relates.bind
  · exact writes_external fun _ st => .single (.audit st _)
  intro _
  apply (writes_event _ _ _).bind
  intro _
  apply Relates.bind
  · exact relates_ite (writes_event _ _ _) (relates_pure _)
  · exact fun _ => relates_pure _

theorem writes_consumeCode (userId code : String) :
    Relates LoginWrites
      (MfaRecoveryService.consumeCode env userId code) := by
  apply (writes_of_reads (reads_select _)).bind
  intro record
  cases record with
  | none => exact relates_fail _
  | some record =>
      apply Relates.bind
      · exact writes_of_reads
          (relates_ite (reads_computed _) (relates_pure _))
      intro isValid
      refine relates_ite ?_ (relates_fail _)
      apply Relates.bind
      · exact writes_external fun now st => .single (.useCode st now _)
      intro used
      refine relates_ite ?_ (relates_fail _)
      apply Relates.bind
      · exact fun st => .single (.proveCode st _)
      · exact fun _ => writes_reportUse userId

/-- The factor that is proved is the one that was found. -/
theorem writes_verifyMfa (userId factorId code : String) :
    Relates LoginWrites (MfaService.verifyMfa env userId factorId code) := by
  intro st
  change Ensures _ (fun _ after => LoginWrites st after) st
  apply ((returns_select _ st).and
    ((writes_of_reads (reads_select _)).ensures st)).bind
  · rintro found after ⟨⟨hsame, hresult⟩, hwrites⟩
    have hfound := hresult found rfl
    cases found with
    | none => exact hwrites
    | some factor =>
        have hstored := (Table.mem_of_first? hfound.symm).1
        apply ensures_ite
        · exact fun _ => hwrites
        intro _
        apply ensures_ite
        · exact fun _ => hwrites
        intro _
        apply ((returns_computed _ after).and
          ((writes_of_reads (reads_computed _)).ensures after)).bind
        · rintro valid last ⟨⟨hlast, -⟩, hmore⟩
          have hboth := hwrites.trans hmore
          rw [← accounts_db (hlast.trans hsame)] at hstored
          apply ensures_ite
          · exact fun _ => hboth.tail (.proveTotp last factor hstored)
          · exact fun _ => hboth
        · exact fun error last hlast => hwrites.trans hlast.2
  · exact fun error after hafter => hafter.2

theorem writes_enforceMfaForLogin (userId : String)
    (ipAddress : Option String) (mfa : AuthService.MfaInput) :
    Relates LoginWrites
      (AuthService.enforceMfaForLogin env userId ipAddress mfa) := by
  apply (writes_of_reads (reads_hasEnabledMfa userId)).bind
  intro mfaEnabled
  apply relates_ite
  · split
    case h_1 =>
      have huser := writes_consume (":" ++ userId)
        env.rateLimitMfaRecoveryPerMin 60
      have hip := writes_consume ("-ip:" ++ ipAddress.getD "unknown")
        env.rateLimitMfaRecoveryPerMin 60
      rw [← String.append_assoc] at huser hip
      apply huser.bind
      intro rate
      apply hip.bind
      intro ipRate
      refine relates_ite (relates_fail _) ?_
      exact (writes_consumeCode userId _).bind fun _ => relates_pure _
    case h_2 =>
      split
      case h_1 =>
        exact (writes_verifyMfa userId _ _).bind fun _ => relates_pure _
      case h_2 => exact relates_fail _
  · exact relates_pure _

theorem writes_insertSession (row : UserSession) :
    Relates LoginWrites (AuthService.insertSession row) := by
  intro st
  unfold AuthService.insertSession
  dsimp only
  split
  case isTrue =>
    split
    case h_1 => exact refl_of LoginWrites st
    case h_2 userSessions hinsert =>
      split
      case isTrue => exact refl_of LoginWrites st
      case isFalse => exact .single (.openSession st row userSessions hinsert)
  case isFalse => exact refl_of LoginWrites st

theorem writes_createSession (draw : AuthService.SessionDraw)
    (userId : String) (ipAddress userAgent : Option String) :
    Relates LoginWrites
      (AuthService.createSession env draw userId ipAddress userAgent) := by
  apply (writes_of_reads reads_dateNow).bind
  intro accessNow
  apply (writes_of_reads reads_dateNow).bind
  intro refreshNow
  apply Relates.bind
  · exact writes_external fun _ => writes_insertSession _
  · exact fun _ => relates_pure _

variable (input : AuthService.LoginInput) (draw : AuthService.SessionDraw)

theorem writes_finishLogin (userId : String)
    (sessionUserAgent : Option String) (mfaEnabled : Bool)
    (adaptiveRisk : AdaptiveRisk) :
    Relates LoginWrites (AuthService.finishLogin env input draw userId
      sessionUserAgent mfaEnabled adaptiveRisk) := by
  apply (writes_createSession _ _ _ _).bind
  exact fun _ => writes_report _ _ _ (relates_pure _)

theorem writes_loginActive (userId : String) :
    Relates LoginWrites (AuthService.loginActive env input draw userId) := by
  apply (writes_of_reads (reads_hasEnabledMfa userId)).bind
  intro mfaEnabled
  apply (writes_of_reads (reads_assessLogin _ _ _ _)).bind
  intro adaptiveRisk
  refine relates_ite (writes_report _ _ _ (relates_fail _)) ?_
  refine relates_ite (writes_report _ _ _ (relates_fail _)) ?_
  refine relates_ite (relates_pure _) ?_
  apply relates_ite
  · apply (writes_enforceMfaForLogin _ _ _).bind
    exact fun _ => writes_finishLogin _ _ _ _ _ _
  · exact writes_finishLogin _ _ _ _ _ _

theorem writes_rejectPassword :
    Relates LoginWrites (AuthService.rejectPassword input) := by
  apply (writes_recordAttempt _ _ _).bind
  exact fun _ => writes_report _ _ _ (relates_fail _)

theorem writes_loginUser (user : User) :
    Relates LoginWrites (AuthService.loginUser env input draw user) := by
  apply (writes_recordAttempt _ _ _).bind
  intro _
  apply relates_ite
  · exact writes_report _ _ _ (relates_fail _)
  · exact writes_loginActive input draw user.id

theorem writes_login :
    Relates LoginWrites (AuthService.login env input draw) := by
  refine relates_ite (relates_fail _) ?_
  apply (writes_of_reads (reads_select _)).bind
  intro found
  cases found with
  | none => exact writes_rejectPassword input
  | some user =>
      apply (writes_of_reads (reads_verifyPassword _ _ _)).bind
      intro isValidPassword
      apply relates_ite
      · exact writes_loginUser input draw user.user
      · exact writes_rejectPassword input

end Writes

/-! ## What stays -/

/-- What every write keeps, the call keeps. -/
theorem relates_of_writes {Value : Type} {call : Service Value}
    {rel : ServiceState → ServiceState → Prop} [IsPreorder ServiceState rel]
    (hcall : Relates LoginWrites call)
    (hrel : ∀ before after, LoginWrite before after → rel before after) :
    Relates rel call :=
  fun st => Relation.reflTransGen_le_of_le hrel st _ (hcall st)

/-- The account tables but for the sessions and the recovery codes. -/
def AccountDb.untouched (db : AccountDb) : AccountDb :=
  { db with userSessions := .empty, mfaRecoveryCodes := .empty }

/-- The other tables stay, and proofs are only added, of stored factors. -/
structure LoginFrame (before after : ServiceState) : Prop where
  tables : after.db.untouched = before.db.untouched
  secondFactors : before.secondFactors ⊆ after.secondFactors
  proved : ∀ factorId, .totp factorId ∈ after.secondFactors →
    .totp factorId ∈ before.secondFactors ∨
      ∃ factor ∈ before.db.mfaFactors, factor.id = factorId

theorem LoginFrame.mfaFactors {before after : ServiceState}
    (hframe : LoginFrame before after) :
    after.db.mfaFactors = before.db.mfaFactors := by
  have hsame := congrArg (fun db : AccountDb => db.mfaFactors) hframe.tables
  exact hsame

theorem LoginFrame.of_same {before after : ServiceState}
    (htables : after.db.untouched = before.db.untouched)
    (hsame : after.secondFactors = before.secondFactors) :
    LoginFrame before after := by
  refine ⟨htables, ?_, fun factorId hproved => .inl ?_⟩
  · rw [hsame]
    exact List.Subset.refl _
  · rwa [← hsame]

instance : IsPreorder ServiceState LoginFrame where
  refl _ := .of_same rfl rfl
  trans _ _ _ hfirst hsecond := by
    refine ⟨hsecond.tables.trans hfirst.tables,
      List.Subset.trans hfirst.secondFactors hsecond.secondFactors,
      fun factorId hproved => ?_⟩
    rcases hsecond.proved factorId hproved with hmiddle | hstored
    · exact hfirst.proved factorId hmiddle
    · rw [hfirst.mfaFactors] at hstored
      exact .inr hstored

theorem LoginFrame.prove {before after : ServiceState}
    (hframe : LoginFrame before after) {factor : MfaFactor}
    (hfactor : factor ∈ before.db.mfaFactors) :
    LoginFrame before
      { after with
        secondFactors := .totp factor.id :: after.secondFactors } := by
  refine ⟨hframe.tables, List.subset_cons_of_subset _ hframe.secondFactors,
    fun factorId hproved => ?_⟩
  rcases List.mem_cons.mp hproved with hnew | hold
  · exact .inr ⟨factor, hfactor, (SecondFactor.totp.inj hnew).symm⟩
  · exact hframe.proved factorId hold

theorem LoginWrite.frame {before after : ServiceState}
    (hwrite : LoginWrite before after) : LoginFrame before after := by
  cases hwrite with
  | read hticked =>
      obtain ⟨count, rfl⟩ := hticked
      exact .of_same rfl rfl
  | proveTotp factor hstored =>
      exact (refl_of LoginFrame before).prove hstored
  | proveCode codeId =>
      refine ⟨rfl, List.subset_cons_self _ _, fun _ hproved => .inl ?_⟩
      exact (List.mem_cons.mp hproved).resolve_left nofun
  | _ => exact .of_same rfl rfl

section Frame

variable {Value : Type} {call : Service Value}

theorem frame_of_writes (hcall : Relates LoginWrites call) :
    Relates LoginFrame call :=
  relates_of_writes hcall fun _ _ => LoginWrite.frame

theorem frame_of_accounts (hcall : Keeps ServiceState.accounts call) :
    Relates LoginFrame call :=
  hcall.relates fun _ _ hsame =>
    .of_same (congrArg AccountDb.untouched (accounts_db hsame))
      (accounts_secondFactors hsame)

theorem frame_external {run : Instant → Service Value}
    (hrun : ∀ now, Relates LoginFrame (run now)) :
    Relates LoginFrame (external run) := by
  apply (frame_of_accounts keeps_nextReading).bind
  intro reading
  exact relates_ite (relates_fail _) (hrun reading.now)

theorem frame_select (read : AccountDb → Value) :
    Relates LoginFrame (select read) :=
  frame_of_accounts (returns_select read).keeps

theorem frame_keepsTable (hcall : Relates LoginFrame call) {View : Type}
    (view : AccountDb → View)
    (hview : ∀ db : AccountDb, view db.untouched = view db) :
    Keeps (fun st : ServiceState => view st.db) call := by
  intro st
  dsimp only
  rw [← hview, (hcall st).tables, hview]

end Frame

end IdProvider
