/-
The calls that open and renew sessions, cut into the parts between which other
calls may run.
-/
import IdProvider.AccountService
import IdProvider.LoginWrites

namespace IdProvider

open KeyedTable ServiceCall AuthService

/-! ## The parts of a password login -/

namespace AuthService

/-- What a login has decided before it opens a session. -/
inductive Admission where
  | mfaRequired (adaptiveRisk : Option AdaptiveRisk)
  | admitted (mfaEnabled : Bool) (adaptiveRisk : AdaptiveRisk)

variable (env : LoginEnv) (input : LoginInput)

/-- `loginActive` up to the session. -/
def admitLogin (userId : String) : Service Admission := do
  let mfaEnabled ← MfaService.hasEnabledMfa userId
  let sessionUserAgent := buildSessionUserAgent input.userAgent input.deviceId
  let adaptiveRisk ← assessLogin env userId input.ipAddress sessionUserAgent
  if adaptiveRisk.level = .high then
    createSecurityEvent "adaptive_mfa.blocked" (some userId)
      (riskPayload input.email input.ipAddress adaptiveRisk)
    throwApi 403 "adaptive_mfa_blocked"
      "Request blocked by adaptive risk policy"
  else if adaptiveRisk.level = .medium ∧ mfaEnabled = false ∧
      env.adaptiveMfaRequireForMedium = true then
    createSecurityEvent "adaptive_mfa.enrollment_required" (some userId)
      (riskPayload input.email input.ipAddress adaptiveRisk)
    throwApi 401 "adaptive_mfa_enrollment_required"
      "MFA enrollment is required for this login"
  else if mfaEnabled = true ∧ given input.mfa.mfaCode = false ∧
      given input.mfa.mfaRecoveryCode = false then
    pure (.mfaRequired
      (if adaptiveRisk.level ≠ .low then some adaptiveRisk else none))
  else if mfaEnabled = true then
    let _ ← enforceMfaForLogin env userId input.ipAddress input.mfa
    pure (.admitted mfaEnabled adaptiveRisk)
  else pure (.admitted mfaEnabled adaptiveRisk)

end AuthService

/-- What a login does next.  `ticket` is a ghost that tells logins apart. -/
inductive LoginPhase where
  | readingHash
  | verifying (ticket : Nat) (user : Option UserWithPassword)
  | recording (ticket : Nat) (user : User)
  | admitting (ticket : Nat) (userId : String)
  | opening (ticket : Nat) (userId : String) (mfaEnabled : Bool)
      (adaptiveRisk : AdaptiveRisk)
  | done (result : LoginResult)

namespace LoginPhase

variable (env : LoginEnv) (input : LoginInput) (draw : SessionDraw)

/-- `newTicket` is taken when the hash is read. -/
def next (newTicket : Nat) : LoginPhase → Service LoginPhase
  | .readingHash =>
      if given input.mfa.mfaCode = true ∧
          given input.mfa.mfaRecoveryCode = true then
        throwApi 400 "mfa_method_conflict"
          "Use either MFA code or recovery code"
      else do
        let user ← select fun db => findWithPasswordByEmail db input.email
        pure (.verifying newTicket user)
  | .verifying _ none => do
      let result ← rejectPassword input
      pure (.done result)
  | .verifying ticket (some user) => do
      let isValidPassword ← Service.verifyPassword env input.password
        user.password.passwordHash
      if isValidPassword then pure (.recording ticket user.user)
      else do
        let result ← rejectPassword input
        pure (.done result)
  | .recording ticket user => do
      AuthRepository.recordAttempt input.email true input.ipAddress
      if user.status ≠ .active then do
        let result ← rejectInactive input user
        pure (.done result)
      else pure (.admitting ticket user.id)
  | .admitting ticket userId => do
      let admission ← admitLogin env input userId
      match admission with
      | .mfaRequired adaptiveRisk =>
          pure (.done (.mfaRequired userId adaptiveRisk))
      | .admitted mfaEnabled adaptiveRisk =>
          pure (.opening ticket userId mfaEnabled adaptiveRisk)
  | .opening _ userId mfaEnabled adaptiveRisk => do
      let result ← finishLogin env input draw userId
        (buildSessionUserAgent input.userAgent input.deviceId) mfaEnabled
        adaptiveRisk
      pure (.done result)
  | .done result => pure (.done result)

/-- What is left of the call. -/
def remaining : LoginPhase → Service LoginResult
  | .readingHash => login env input draw
  | .verifying _ none => rejectPassword input
  | .verifying _ (some user) => do
      let isValidPassword ← Service.verifyPassword env input.password
        user.password.passwordHash
      if isValidPassword then loginUser env input draw user.user
      else rejectPassword input
  | .recording _ user => loginUser env input draw user
  | .admitting _ userId => loginActive env input draw userId
  | .opening _ userId mfaEnabled adaptiveRisk =>
      finishLogin env input draw userId
        (buildSessionUserAgent input.userAgent input.deviceId) mfaEnabled
        adaptiveRisk
  | .done result => pure result

theorem throwApi_bind {Value Next : Type} (status : Nat)
    (code message : String) (rest : Value → Service Next) :
    (throwApi status code message >>= rest) = throwApi status code message :=
  rfl

/-- One part after the other, the parts make up the call. -/
theorem remaining_eq (newTicket : Nat) (phase : LoginPhase) :
    phase.remaining env input draw =
      phase.next env input draw newTicket >>= remaining env input draw := by
  cases phase with
  | readingHash =>
      rw [remaining, next, login, ite_bind, throwApi_bind, bind_assoc]
      simp only [pure_bind]
      congr 2
      funext user
      cases user with
      | none => rfl
      | some user => rfl
  | verifying ticket user =>
      cases user with
      | none => simp only [remaining, next, bind_assoc, pure_bind, bind_pure]
      | some user =>
          simp only [remaining, next, bind_assoc, pure_bind, ite_bind,
            bind_pure]
  | recording ticket user =>
      simp only [remaining, next, loginUser, bind_assoc, pure_bind, ite_bind,
        bind_pure]
  | admitting ticket userId =>
      simp only [remaining, next, loginActive, admitLogin, bind_assoc,
        pure_bind, ite_bind, throwApi_bind]
  | opening ticket userId mfaEnabled adaptiveRisk =>
      simp only [remaining, next, bind_assoc, pure_bind, bind_pure]
  | done result => simp only [remaining, next, pure_bind]

end LoginPhase

section Writes

variable (env : LoginEnv) (input : LoginInput) (draw : SessionDraw)

theorem writes_admitLogin (userId : String) :
    Relates LoginWrites (admitLogin env input userId) := by
  apply (writes_of_reads (reads_hasEnabledMfa userId)).bind
  intro mfaEnabled
  apply (writes_of_reads (reads_assessLogin _ _ _ _)).bind
  intro adaptiveRisk
  refine relates_ite (writes_report _ _ _ (relates_fail _)) ?_
  refine relates_ite (writes_report _ _ _ (relates_fail _)) ?_
  refine relates_ite (relates_pure _) ?_
  refine relates_ite ?_ (relates_pure _)
  exact (writes_enforceMfaForLogin _ _ _).bind fun _ => relates_pure _

theorem writes_loginNext (newTicket : Nat) (phase : LoginPhase) :
    Relates LoginWrites (phase.next env input draw newTicket) := by
  cases phase with
  | readingHash =>
      refine relates_ite (relates_fail _) ?_
      exact (writes_of_reads (reads_select _)).bind fun _ => relates_pure _
  | verifying ticket user =>
      rcases user with _ | user
      · exact (writes_rejectPassword input).bind fun _ => relates_pure _
      · apply (writes_of_reads (reads_verifyPassword _ _ _)).bind
        intro isValidPassword
        refine relates_ite (relates_pure _) ?_
        exact (writes_rejectPassword input).bind fun _ => relates_pure _
  | recording ticket user =>
      apply (writes_recordAttempt _ _ _).bind
      intro _
      refine relates_ite ?_ (relates_pure _)
      apply Relates.bind
      · exact writes_report _ _ _ (relates_fail _)
      · exact fun _ => relates_pure _
  | admitting ticket userId =>
      apply (writes_admitLogin env input userId).bind
      intro admission
      rcases admission with _ | _
      · exact relates_pure _
      · exact relates_pure _
  | opening ticket userId mfaEnabled adaptiveRisk =>
      exact (writes_finishLogin _ _ _ _ _ _).bind fun _ => relates_pure _
  | done result => exact relates_pure _

end Writes

end IdProvider
