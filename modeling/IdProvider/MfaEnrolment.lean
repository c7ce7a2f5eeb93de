/-
Enrolling and verifying second factors, and which factors a login asks for.
-/
import IdProvider.GoogleLinking
import IdProvider.RecoverySingleUse
import IdProvider.WebAuthn

namespace IdProvider

open JsonText KeyedTable ServiceCall

/-- `keyuri` of `otplib`, of an account and a secret. -/
structure MfaEnv extends RecoveryEnv where
  keyuri : String → String → String

/-! ## Recovery codes of a first verification -/

def MfaRecoveryCode.withRevokedAt (code : MfaRecoveryCode) (now : Instant) :
    MfaRecoveryCode :=
  { code with revokedAt := some now }

theorem MfaRecoveryCode.key_withRevokedAt (now : Instant)
    (code : MfaRecoveryCode) : key (code.withRevokedAt now) = key code := rfl

namespace MfaRecoveryService

variable (env : RecoveryEnv)

def newRow (batch : NewBatch) (code : PlainCode) (id : String) :
    MfaRecoveryCode :=
  (env.newRow batch code id).toMfaRecoveryCode

theorem key_newRow (batch : NewBatch) (code : PlainCode) (id : String) :
    key (newRow env batch code id) = id := rfl

/-- One transaction; `lookup_hash` is unique. -/
def insertBatch (batch : NewBatch) (now : Instant) (db : AccountDb) :
    Option AccountDb :=
  let revoked := db.mfaRecoveryCodes.update
    (fun code => code.userId == batch.userId && isUnused code)
    (fun code => code.withRevokedAt now) (MfaRecoveryCode.key_withRevokedAt now)
  let hashes := batch.codes.map fun code => env.lookupHash code.text
  if hashes.Nodup ∧ ∀ row ∈ revoked.rows, row.lookupHash ∉ hashes then
    some
      { db with
        mfaRecoveryCodes := revoked.insertAllFresh env.uuids
          (newRow env batch) (key_newRow env batch) batch.codes }
  else none

def createBatch (batch : NewBatch) : Service Unit :=
  UserRepository.transaction "mfa_recovery_codes_lookup_hash_key"
    (insertBatch env batch)

/-- With what `randomBytes` and `argon2.hash` draw. -/
def generateCodes (userId : String) (reason : GenerationReason)
    (draw : BatchDraw) : Service (List String) :=
  match env.newBatch userId reason draw with
  | none => fail .unavailable
  | some batch => do
      createBatch env batch
      AuditRepository.createAuditLog
        { actorUserId := some userId
          action := "mfa.recovery_codes.generated"
          resourceType := "user"
          resourceId := some userId
          payload := batch.auditPayload }
      AuditRepository.createSecurityEvent "mfa.recovery_codes.generated"
        (some userId) (.obj batch.eventPayload)
      pure (batch.codes.map PlainCode.text)

def generateCodesIfMissing (userId : String) (draw : BatchDraw) :
    Service (List String) := do
  let count ← select fun db => countActiveByUserId db userId
  if 0 < count then pure []
  else generateCodes env userId .initialMfaSetup draw

end MfaRecoveryService

/-! ## `MfaService` -/

namespace MfaService

structure Enrolled where
  factorId : String
  secret : String

/-- `MfaRepository.create`. -/
def insertFactor (userId factorId secret : String) (db : AccountDb) :
    Option AccountDb :=
  (db.mfaFactors.insert?
    { id := factorId
      userId := userId
      type := "totp"
      secret := some secret
      enabled := true }).map fun mfaFactors =>
        { db with mfaFactors := mfaFactors }

def enrollMfa (userId factorId secret : String) : Service Enrolled := do
  UserRepository.transaction "mfa_factors_pkey" fun _ =>
    insertFactor userId factorId secret
  pure ⟨factorId, secret⟩

/-- As `POST /v1/mfa/verify` calls it. -/
def verifyMfaIssuing (env : RecoveryEnv) (userId factorId code : String)
    (draw : BatchDraw) : Service Verified := do
  let verified ← verifyMfa env.toLoginEnv userId factorId code
  let recoveryCodes ←
    MfaRecoveryService.generateCodesIfMissing env userId draw
  pure ⟨verified.status, recoveryCodes⟩

end MfaService

/-! ## `AuthService` of `auth-core` -/

namespace CoreAuthService

structure Enrolled where
  factorId : String
  secret : String
  provisioningUri : String

def newFactor (userId secret : String) (id : String) : MfaFactor where
  id := id
  userId := userId
  type := "totp"
  secret := some secret
  enabled := false

theorem key_newFactor (userId secret id : String) :
    key (newFactor userId secret id) = id := rfl

def insertFactor (env : MfaEnv) (userId secret : String) : Service String :=
  external fun _ => fun st =>
    (.ok (env.uuids.draw (st.db.mfaFactors.rows.map key)),
      st.withDb
        { st.db with
          mfaFactors := st.db.mfaFactors.insertFresh env.uuids
            (newFactor userId secret) (key_newFactor userId secret) })

/-- The primary address that `getMe` finds. -/
def primaryEmail (db : AccountDb) (userId : String) : Option String :=
  ((innerJoin db.users.rows db.userEmails.rows fun user email =>
    user.id == email.userId).find? fun joined =>
      joined.1.id == userId && joined.2.isPrimary).map fun joined =>
        joined.2.email

def enrollMfa (env : MfaEnv) (userId secret : String) : Service Enrolled := do
  let factorId ← insertFactor env userId secret
  let account ← select fun db => primaryEmail db userId
  match account with
  | none => throwApi 404 "user_not_found" "User not found"
  | some email =>
      AuditRepository.createSecurityEvent "mfa.enroll_started" (some userId)
        (.obj [("factorId", .str factorId)])
      pure ⟨factorId, secret, env.keyuri email secret⟩

/-- `/^\d{6}$/`. -/
def isSixDigits (code : String) : Bool :=
  code.length == 6 && code.toList.all Char.isDigit

def isFactorOf (userId factorId : String) (factor : MfaFactor) : Bool :=
  isFactorId factorId factor && factor.userId == userId

def withEnabled (factor : MfaFactor) : MfaFactor :=
  { factor with enabled := true }

theorem key_withEnabled (factor : MfaFactor) :
    key (withEnabled factor) = key factor := rfl

def enable (userId factorId : String) (db : AccountDb) : AccountDb :=
  { db with
    mfaFactors := db.mfaFactors.update (isFactorOf userId factorId)
      withEnabled key_withEnabled }

def enableFactor (userId factorId : String) : Service Bool :=
  external fun _ => fun st =>
    (.ok (st.db.mfaFactors.rows.any (isFactorOf userId factorId)),
      st.withDb (enable userId factorId st.db))

/-- What follows a valid code. -/
def activate (userId factorId : String) (factor : MfaFactor) :
    Service Unit := do
  proveSecondFactor (.totp factor.id)
  let updated ← enableFactor userId factorId
  if updated then
    AuditRepository.createSecurityEvent "mfa.enabled" (some userId)
      (.obj [("factorId", .str factorId)])
  else throwApi 404 "mfa_factor_not_found" "MFA factor not found"

def verifyFactor (env : LoginEnv) (userId factorId code : String)
    (factor : Option MfaFactor) : Service Unit :=
  match factor with
  | none => throwApi 404 "mfa_factor_not_found" "MFA factor not found"
  | some factor =>
      if given factor.secret = false then
        throwApi 400 "invalid_mfa_factor" "MFA factor has no secret"
      else do
        let valid ← external fun now =>
          pure (env.totpCheck code (factor.secret.getD "") now)
        if valid then activate userId factorId factor
        else throwApi 400 "invalid_mfa_code" "MFA code is invalid"

def verifyMfa (env : LoginEnv) (userId factorId code : String) :
    Service Unit :=
  if isSixDigits code then do
    let factor ← select fun db =>
      db.mfaFactors.first? (isFactorOf userId factorId)
    verifyFactor env userId factorId code factor
  else throwApi 400 "invalid_mfa_code" "MFA code must be 6 digits"

end CoreAuthService

/-! ## Passkeys -/

def newPasskey (userId : String) (id : String) : MfaFactor where
  id := id
  userId := userId
  type := "webauthn"
  secret := none
  enabled := true

/-- The row of the passkey module, without the columns that logins ignore. -/
theorem toMfaFactor_newFactor (userId id : String) (name : Option String)
    (data : Json) :
    (WebAuthnService.newFactor userId name data id).toMfaFactor =
      newPasskey userId id := rfl

theorem key_newPasskey (userId id : String) :
    key (newPasskey userId id) = id := rfl

/-- The insert of `verifyRegistrationResponse`, once the library has verified
the response. -/
def registerPasskey (env : MfaEnv) (userId : String) : Service Unit :=
  UserRepository.update fun _ db =>
    { db with
      mfaFactors := db.mfaFactors.insertFresh env.uuids (newPasskey userId)
        (key_newPasskey userId) }

/-! ## The operations -/

inductive MfaAction where
  | enrollMfa (userId factorId secret : String)
  | enrollMfaCore (userId secret : String)
  | registerPasskey (userId : String)
  | verifyMfa (userId factorId code : String) (draw : BatchDraw)
  | verifyMfaCore (userId factorId code : String)
  | login (input : AuthService.LoginInput) (draw : AuthService.SessionDraw)

/-- The state after an operation, whatever its outcome. -/
def mfaStep (env : MfaEnv) (st : ServiceState) :
    MfaAction → Option ServiceState
  | .enrollMfa userId factorId secret =>
      some (MfaService.enrollMfa userId factorId secret st).2
  | .enrollMfaCore userId secret =>
      some (CoreAuthService.enrollMfa env userId secret st).2
  | .registerPasskey userId => some (registerPasskey env userId st).2
  | .verifyMfa userId factorId code draw =>
      some (MfaService.verifyMfaIssuing env.toRecoveryEnv userId factorId code
        draw st).2
  | .verifyMfaCore userId factorId code =>
      some (CoreAuthService.verifyMfa env.toLoginEnv userId factorId code st).2
  | .login input draw =>
      some (AuthService.login env.toLoginEnv input draw st).2

/-! ## The claim -/

/-- Because of this factor a login of its owner needs a second factor. -/
structure Demanded (st : ServiceState) (factor : MfaFactor) : Prop where
  stored : factor ∈ st.db.mfaFactors
  enabled : factor.enabled = true

/-- Its owner has verified a code for each factor that is demanded. -/
def DemandsVerified (st : ServiceState) : Prop :=
  ∀ factor, Demanded st factor → .totp factor.id ∈ st.secondFactors

/-- The operation does not get to insert a factor that is enabled at once. -/
def EnrolsDisabled (st : ServiceState) : MfaAction → Prop
  | .enrollMfa _ factorId _ => (st.readings st.ticks).fails = true ∨
      ∃ factor ∈ st.db.mfaFactors, factor.id = factorId
  | .registerPasskey _ => (st.readings st.ticks).fails = true
  | _ => True

/-! ## What a login demands -/

/-- What a login answers that brings no second factor. -/
def AsksIfDemanded (userId : String) (st : ServiceState)
    (outcome : Except Failure AuthService.LoginResult) (_ : ServiceState) :
    Prop :=
  ∀ result, outcome = .ok result →
    ((∃ risk, result = .mfaRequired userId risk) ↔
      ∃ factor, Demanded st factor ∧ factor.userId = userId)

theorem hasEnabledFactor_iff {st : ServiceState} {userId : String} :
    HasEnabledFactor st.db userId ↔
      ∃ factor, Demanded st factor ∧ factor.userId = userId := by
  constructor
  · rintro ⟨factor, hstored, howner, henabled⟩
    exact ⟨factor, ⟨hstored, henabled⟩, howner⟩
  · rintro ⟨factor, ⟨hstored, henabled⟩, howner⟩
    exact ⟨factor, hstored, howner, henabled⟩

theorem finishLogin_asks {env : LoginEnv} {input : AuthService.LoginInput}
    {draw : AuthService.SessionDraw} {userId : String}
    {sessionUserAgent : Option String} {mfaEnabled : Bool}
    {adaptiveRisk : AdaptiveRisk} {st start : ServiceState}
    (hfactor : ¬ HasEnabledFactor start.db userId) :
    Ensures (AuthService.finishLogin env input draw userId sessionUserAgent
      mfaEnabled adaptiveRisk) (AsksIfDemanded userId start) st := by
  have hcreate : Ensures (AuthService.createSession env draw userId
      input.ipAddress sessionUserAgent) (fun _ _ => True) st := trivial
  apply hcreate.bind
  · intro session after _
    apply Ensures.bind
      (ensures_attempt (keeps_createSecurityEvent _ _ _) after)
    · intro _ last _ result hresult
      cases hresult
      rw [← hasEnabledFactor_iff]
      exact iff_of_false nofun hfactor
    · exact fun _ _ _ => nofun
  · exact fun _ _ _ => nofun

/-- A login that brings no second factor is asked for one exactly when some
factor of the user is demanded. -/
theorem loginActive_asks {env : LoginEnv} {input : AuthService.LoginInput}
    (hcode : given input.mfa.mfaCode = false)
    (hrecovery : given input.mfa.mfaRecoveryCode = false)
    (draw : AuthService.SessionDraw) (userId : String) (st : ServiceState) :
    Ensures (AuthService.loginActive env input draw userId)
      (AsksIfDemanded userId st) st := by
  apply (returns_hasEnabledMfa userId).bind
  · intro mfaEnabled first _ henabled
    apply (keeps_of_reads (reads_assessLogin env _ _ _)).returns.bind
    · intro adaptiveRisk second _ _
      apply ensures_ite
      · exact fun _ => ensures_bind_fail fun _ _ _ => nofun
      intro _
      apply ensures_ite
      · exact fun _ => ensures_bind_fail fun _ _ _ => nofun
      intro _
      apply ensures_ite
      · rintro ⟨hmfa, -⟩ result hresult
        cases hresult
        rw [← hasEnabledFactor_iff]
        exact iff_of_true ⟨_, rfl⟩ (henabled.mp hmfa)
      intro hgiven
      have hdisabled : mfaEnabled ≠ true := fun hmfa =>
        hgiven ⟨hmfa, hcode, hrecovery⟩
      apply ensures_ite
      · exact fun hmfa => absurd hmfa hdisabled
      · exact fun _ => finishLogin_asks (mt henabled.mpr hdisabled)
    · exact fun _ _ _ _ => nofun
  · exact fun _ _ _ _ => nofun

/-! ## What the operations do -/

/-- Factors are kept, enabled only with a proof, and proofs are of stored
factors. -/
structure MfaFrame (before after : ServiceState) : Prop where
  enabled : ∀ factor, Demanded after factor →
    Demanded before factor ∨ .totp factor.id ∈ after.secondFactors
  secondFactors : before.secondFactors ⊆ after.secondFactors
  kept : ∀ factor ∈ before.db.mfaFactors,
    ∃ kept ∈ after.db.mfaFactors, kept.id = factor.id
  proved : ∀ factorId, .totp factorId ∈ after.secondFactors →
    .totp factorId ∈ before.secondFactors ∨
      ∃ factor ∈ after.db.mfaFactors, factor.id = factorId

theorem MfaFrame.of_login {before after : ServiceState}
    (hframe : LoginFrame before after) : MfaFrame before after := by
  have hfactors := hframe.mfaFactors
  refine ⟨?_, hframe.secondFactors, ?_, ?_⟩
  · rintro factor ⟨hstored, henabled⟩
    rw [hfactors] at hstored
    exact .inl ⟨hstored, henabled⟩
  · intro factor hfactor
    exact ⟨factor, by rwa [hfactors], rfl⟩
  · rw [hfactors]
    exact hframe.proved

instance : IsPreorder ServiceState MfaFrame where
  refl st := .of_login (refl_of LoginFrame st)
  trans _ _ _ hfirst hsecond := by
    refine ⟨?_, List.Subset.trans hfirst.secondFactors hsecond.secondFactors,
      ?_, ?_⟩
    · intro factor hdemanded
      rcases hsecond.enabled factor hdemanded with hmiddle | hproved
      · exact (hfirst.enabled factor hmiddle).imp_right
          fun hproved => hsecond.secondFactors hproved
      · exact .inr hproved
    · intro factor hfactor
      obtain ⟨middle, hmiddle, hsame⟩ := hfirst.kept factor hfactor
      obtain ⟨kept, hkept, hid⟩ := hsecond.kept middle hmiddle
      exact ⟨kept, hkept, hid.trans hsame⟩
    · intro factorId hproved
      rcases hsecond.proved factorId hproved with hmiddle | hstored
      · rcases hfirst.proved factorId hmiddle with hold | ⟨factor, hfactor, hid⟩
        · exact .inl hold
        · obtain ⟨kept, hkept, hsame⟩ := hsecond.kept factor hfactor
          exact .inr ⟨kept, hkept, hsame.trans hid⟩
      · exact .inr hstored

section Frame

variable {Value : Type}

theorem mfaFrame_of_login {call : Service Value}
    (hcall : Relates LoginFrame call) : Relates MfaFrame call :=
  fun st => .of_login (hcall st)

theorem frame_transaction {constraint : String}
    {write : Instant → AccountDb → Option AccountDb}
    (hwrite : ∀ now db after, write now db = some after →
      after.untouched = db.untouched) :
    Relates LoginFrame (UserRepository.transaction constraint write) := by
  apply frame_external
  intro now st
  unfold UserRepository.commit
  split
  case h_1 => exact refl_of LoginFrame st
  case h_2 db hdb => exact .of_same (hwrite now st.db db hdb) rfl

theorem frame_generateCodesIfMissing (env : RecoveryEnv) (userId : String)
    (draw : BatchDraw) :
    Relates LoginFrame
      (MfaRecoveryService.generateCodesIfMissing env userId draw) := by
  apply (frame_select _).bind
  intro count
  refine relates_ite (relates_pure _) ?_
  unfold MfaRecoveryService.generateCodes
  split
  case h_1 => exact relates_fail _
  case h_2 batch _ =>
    apply Relates.bind
    · apply frame_transaction
      intro now db after hinsert
      unfold MfaRecoveryService.insertBatch at hinsert
      dsimp only at hinsert
      split at hinsert
      case isTrue =>
        cases hinsert
        rfl
      case isFalse => cases hinsert
    · intro _
      apply (frame_of_accounts (keeps_createAuditLog _)).bind
      intro _
      apply (frame_of_accounts (keeps_createSecurityEvent _ _ _)).bind
      exact fun _ => relates_pure _

theorem frame_verifyMfaIssuing (env : RecoveryEnv)
    (userId factorId code : String) (draw : BatchDraw) :
    Relates LoginFrame
      (MfaService.verifyMfaIssuing env userId factorId code draw) := by
  apply (frame_of_writes (writes_verifyMfa _ _ _)).bind
  intro verified
  apply (frame_generateCodesIfMissing env userId draw).bind
  exact fun _ => relates_pure _

/-! ### `auth-core` -/

theorem frame_enrollMfaCore (env : MfaEnv) (userId secret : String) :
    Relates MfaFrame (CoreAuthService.enrollMfa env userId secret) := by
  have hinsert : Relates MfaFrame
      (CoreAuthService.insertFactor env userId secret) := by
    apply (mfaFrame_of_login (frame_of_accounts keeps_nextReading)).bind
    intro reading
    refine relates_ite (relates_fail _) fun st => ?_
    refine ⟨?_, List.Subset.refl _, ?_, fun _ hproved => .inl hproved⟩
    · rintro factor ⟨hstored, henabled⟩
      left
      rcases (Table.mem_insertFresh (CoreAuthService.key_newFactor userId
        secret)).mp hstored with hold | rfl
      · exact ⟨hold, henabled⟩
      · cases henabled
    · intro factor hfactor
      refine ⟨factor, ?_, rfl⟩
      exact (Table.mem_insertFresh (CoreAuthService.key_newFactor userId
        secret)).mpr (.inl hfactor)
  apply hinsert.bind
  intro factorId
  apply (mfaFrame_of_login (frame_select _)).bind
  intro account
  cases account with
  | none => exact relates_fail _
  | some email =>
      apply (mfaFrame_of_login
        (frame_of_accounts (keeps_createSecurityEvent _ _ _))).bind
      exact fun _ => relates_pure _

theorem mem_enable {db : AccountDb} {userId factorId : String}
    {factor : MfaFactor} :
    factor ∈ (CoreAuthService.enable userId factorId db).mfaFactors ↔
      ∃ old ∈ db.mfaFactors, factor =
        if CoreAuthService.isFactorOf userId factorId old then
          CoreAuthService.withEnabled old
        else old := by
  rw [CoreAuthService.enable, Table.mem_update]

theorem mfaFrame_of_same {before after : ServiceState}
    (hsame : after.accounts = before.accounts) : MfaFrame before after :=
  .of_login (.of_same (congrArg AccountDb.untouched (accounts_db hsame))
    (accounts_secondFactors hsame))

/-- The factor that the text names has been proved. -/
def NamesProved (factorId : String) (st : ServiceState) : Prop :=
  ∀ id, parseUuid factorId = some id → .totp id ∈ st.secondFactors

/-- A factor is enabled after its proof. -/
theorem enable_frame {st : ServiceState} {userId factorId : String}
    (hproved : NamesProved factorId st) :
    MfaFrame st (st.withDb (CoreAuthService.enable userId factorId st.db)) := by
  refine ⟨?_, List.Subset.refl _, ?_, fun _ hold => .inl hold⟩
  · rintro factor ⟨hstored, henabled⟩
    obtain ⟨old, hold, rfl⟩ := mem_enable.mp hstored
    by_cases hfactor : CoreAuthService.isFactorOf userId factorId old = true
    · right
      rw [if_pos hfactor]
      rw [CoreAuthService.isFactorOf, Bool.and_eq_true,
        isFactorId_iff] at hfactor
      exact hproved old.id hfactor.1
    · rw [if_neg hfactor] at henabled ⊢
      exact .inl ⟨hold, henabled⟩
  · intro factor hfactor
    refine ⟨_, mem_enable.mpr ⟨factor, hfactor, rfl⟩, ?_⟩
    split
    case isTrue => rfl
    case isFalse => rfl

theorem enableFactor_frame {st : ServiceState} {userId factorId : String}
    (hproved : NamesProved factorId st) :
    Ensures (CoreAuthService.enableFactor userId factorId)
      (fun _ after => MfaFrame st after) st := by
  apply ensures_external
  · intro now after hsame
    have hghost := accounts_secondFactors hsame
    rw [NamesProved, ← hghost] at hproved
    exact trans_of MfaFrame (mfaFrame_of_same hsame) (enable_frame hproved)
  · exact fun after hsame => mfaFrame_of_same hsame

theorem activate_frame {st : ServiceState} {userId factorId : String}
    {factor : MfaFactor} (hfactor : factor ∈ st.db.mfaFactors)
    (hid : isFactorId factorId factor = true) {last : ServiceState}
    (hsame : last.accounts = st.accounts) :
    Ensures (CoreAuthService.activate userId factorId factor)
      (fun _ after => MfaFrame st after) last := by
  have hstay : LoginFrame st last :=
    .of_same (congrArg AccountDb.untouched (accounts_db hsame))
      (accounts_secondFactors hsame)
  have hprove : Ensures (proveSecondFactor (.totp factor.id))
      (fun outcome after => outcome = .ok () ∧ MfaFrame st after ∧
        NamesProved factorId after) last := by
    refine ⟨rfl, .of_login (hstay.prove hfactor), fun id hparse => ?_⟩
    cases (isFactorId_iff.mp hid).symm.trans hparse
    exact List.mem_cons_self
  apply hprove.bind
  · rintro _ proved ⟨-, hframe, hproved⟩
    apply (enableFactor_frame hproved).bind
    · intro updated enabled henabled
      have hboth := trans_of MfaFrame hframe henabled
      apply ensures_ite
      · intro _
        apply ((keeps_createSecurityEvent _ _ _).ensures enabled).imp
        exact fun _ after hafter =>
          trans_of MfaFrame hboth (mfaFrame_of_same hafter)
      · exact fun _ => hboth
    · exact fun _ after hafter => trans_of MfaFrame hframe hafter
  · exact fun _ after hafter => hafter.2.1

theorem frame_verifyMfaCore (env : LoginEnv)
    (userId factorId code : String) :
    Relates MfaFrame (CoreAuthService.verifyMfa env userId factorId code) := by
  refine relates_ite (fun st => ?_) (relates_fail _)
  change Ensures _ (fun _ after => MfaFrame st after) st
  apply (returns_select _).bind
  · rintro found after hsame hfound
    cases found with
    | none => exact mfaFrame_of_same hsame
    | some factor =>
        obtain ⟨hfactor, hwhere⟩ := Table.mem_of_first? hfound.symm
        rw [CoreAuthService.isFactorOf, Bool.and_eq_true] at hwhere
        apply ensures_ite
        · exact fun _ => mfaFrame_of_same hsame
        intro _
        apply (returns_computed _).bind
        · intro valid last hlast _
          apply ensures_ite
          · exact fun _ =>
              activate_frame hfactor hwhere.1 (hlast.trans hsame)
          · exact fun _ => mfaFrame_of_same (hlast.trans hsame)
        · exact fun _ last hlast => mfaFrame_of_same (hlast.trans hsame)
  · exact fun _ after hsame => mfaFrame_of_same hsame

end Frame

/-! ## Every run -/

/-- Proofs are of stored factors. -/
def ProofsStored (st : ServiceState) : Prop :=
  ∀ factorId, .totp factorId ∈ st.secondFactors →
    ∃ factor ∈ st.db.mfaFactors, factor.id = factorId

theorem ProofsStored.later {before after : ServiceState}
    (hstored : ProofsStored before) (hframe : MfaFrame before after) :
    ProofsStored after := by
  intro factorId hproved
  rcases hframe.proved factorId hproved with hold | hnew
  · obtain ⟨factor, hfactor, hid⟩ := hstored factorId hold
    obtain ⟨kept, hkept, hsame⟩ := hframe.kept factor hfactor
    exact ⟨kept, hkept, hsame.trans hid⟩
  · exact hnew

theorem DemandsVerified.later {before after : ServiceState}
    (hverified : DemandsVerified before) (hframe : MfaFrame before after) :
    DemandsVerified after := by
  intro factor hdemanded
  rcases hframe.enabled factor hdemanded with hold | hproved
  · exact hframe.secondFactors (hverified factor hold)
  · exact hproved

/-- A new factor that is enabled at once. -/
structure EnabledInserted (before after : ServiceState) : Prop where
  secondFactors : after.secondFactors = before.secondFactors
  inserted : ∃ factor : MfaFactor, factor.enabled = true ∧
    (∀ old ∈ before.db.mfaFactors, old.id ≠ factor.id) ∧
    after.db.mfaFactors.rows = before.db.mfaFactors.rows ++ [factor]

section EnabledInserted

variable {before after : ServiceState}

theorem EnabledInserted.proofsStored (hinserted : EnabledInserted before after)
    (hstored : ProofsStored before) : ProofsStored after := by
  obtain ⟨factor, -, -, hrows⟩ := hinserted.inserted
  intro factorId hproved
  rw [hinserted.secondFactors] at hproved
  obtain ⟨old, hold, hid⟩ := hstored factorId hproved
  refine ⟨old, ?_, hid⟩
  rw [← mem_rows, hrows]
  exact List.mem_append_left _ hold

theorem EnabledInserted.not_demandsVerified
    (hinserted : EnabledInserted before after)
    (hstored : ProofsStored before) : ¬ DemandsVerified after := by
  obtain ⟨factor, henabled, hfresh, hrows⟩ := hinserted.inserted
  intro hverified
  have hmem : factor ∈ after.db.mfaFactors := by
    rw [← mem_rows, hrows]
    exact List.mem_append_right _ (List.mem_singleton_self factor)
  have hproved := hverified factor ⟨hmem, henabled⟩
  rw [hinserted.secondFactors] at hproved
  obtain ⟨old, hold, hid⟩ := hstored factor.id hproved
  exact hfresh old hold hid

end EnabledInserted

section Enrol

variable {st : ServiceState}

theorem accounts_tick (count : Nat) : (st.tick count).accounts = st.accounts :=
  rfl

theorem insertFactor_eq_some {userId factorId secret : String}
    {db after : AccountDb}
    (hinsert : MfaService.insertFactor userId factorId secret db = some after) :
    (∀ old ∈ db.mfaFactors, old.id ≠ factorId) ∧
      ∃ factor : MfaFactor, factor.id = factorId ∧ factor.enabled = true ∧
        after.mfaFactors.rows = db.mfaFactors.rows ++ [factor] := by
  rw [MfaService.insertFactor, Option.map_eq_some_iff] at hinsert
  obtain ⟨factors, hfactors, rfl⟩ := hinsert
  obtain ⟨hfresh, hrows⟩ := Table.insert?_eq_some hfactors
  exact ⟨hfresh, _, rfl, rfl, hrows⟩

theorem insertFactor_eq_none {userId factorId secret : String}
    {db : AccountDb}
    (hinsert : MfaService.insertFactor userId factorId secret db = none) :
    ∃ factor ∈ db.mfaFactors, factor.id = factorId := by
  by_contra hfresh
  push Not at hfresh
  rw [MfaService.insertFactor, Option.map_eq_none_iff] at hinsert
  have hnew : ∀ old ∈ db.mfaFactors, key old ≠
      key (⟨factorId, userId, "totp", some secret, true⟩ : MfaFactor) := hfresh
  obtain ⟨after, hafter⟩ := Table.exists_insert? hnew
  rw [hafter] at hinsert
  cases hinsert

theorem enrollMfa_state (userId factorId secret : String) :
    (MfaService.enrollMfa userId factorId secret st).2 =
      (UserRepository.transaction "mfa_factors_pkey" (fun _ =>
        MfaService.insertFactor userId factorId secret) st).2 := by
  unfold MfaService.enrollMfa
  rcases hinsert : UserRepository.transaction "mfa_factors_pkey" (fun _ =>
    MfaService.insertFactor userId factorId secret) st with ⟨error | _, after⟩
  · rw [bind_error hinsert]
  · rw [bind_ok hinsert]
    rfl

theorem enrollMfa_cases (userId factorId secret : String) :
    let after := (MfaService.enrollMfa userId factorId secret st).2
    (EnrolsDisabled st (.enrollMfa userId factorId secret) ∧
        MfaFrame st after) ∨
      (¬ EnrolsDisabled st (.enrollMfa userId factorId secret) ∧
        EnabledInserted st after) := by
  intro after
  change (((st.readings st.ticks).fails = true ∨
    ∃ factor ∈ st.db.mfaFactors, factor.id = factorId) ∧ _) ∨
    (¬ ((st.readings st.ticks).fails = true ∨
      ∃ factor ∈ st.db.mfaFactors, factor.id = factorId) ∧ _)
  have hstate := @enrollMfa_state st userId factorId secret
  subst after
  by_cases hfails : (st.readings st.ticks).fails = true
  · have hsame := hstate.trans (congrArg Prod.snd (external_of_fails hfails))
    rw [hsame]
    exact .inl ⟨.inl hfails, mfaFrame_of_same (accounts_tick 1)⟩
  rw [Bool.not_eq_true] at hfails
  have hcommit := hstate.trans (congrArg Prod.snd (external_of_answers hfails))
  rcases hinsert : MfaService.insertFactor userId factorId secret st.db with
    _ | db
  · rw [hcommit.trans (congrArg Prod.snd (commit_of_none hinsert))]
    exact .inl ⟨.inr (insertFactor_eq_none hinsert),
      mfaFrame_of_same (accounts_tick 1)⟩
  · rw [hcommit.trans (congrArg Prod.snd (commit_of_some hinsert))]
    obtain ⟨hfresh, factor, rfl, henabled, hrows⟩ :=
      insertFactor_eq_some hinsert
    refine .inr ⟨?_, rfl, factor, henabled, hfresh, hrows⟩
    rintro (hanswers | ⟨old, hold, hid⟩)
    · rw [hfails] at hanswers
      cases hanswers
    · exact hfresh old hold hid

theorem registerPasskey_cases (env : MfaEnv) (userId : String) :
    let after := (registerPasskey env userId st).2
    (EnrolsDisabled st (.registerPasskey userId) ∧ MfaFrame st after) ∨
      (¬ EnrolsDisabled st (.registerPasskey userId) ∧
        EnabledInserted st after) := by
  intro after
  change ((st.readings st.ticks).fails = true ∧ _) ∨
    (¬ (st.readings st.ticks).fails = true ∧ _)
  subst after
  rw [registerPasskey, UserRepository.update]
  by_cases hfails : (st.readings st.ticks).fails = true
  · rw [external_of_fails hfails]
    exact .inl ⟨hfails, mfaFrame_of_same (accounts_tick 1)⟩
  · have hanswers := Bool.not_eq_true _ ▸ hfails
    rw [external_of_answers hanswers]
    refine .inr ⟨hfails, rfl, _, rfl, ?_, rfl⟩
    exact fun old hold => Table.key_ne_draw env.uuids hold

/-- Every operation: either no factor is enabled without a proof, or one is
inserted enabled. -/
theorem mfaStep_cases (env : MfaEnv) {action : MfaAction} {next : ServiceState}
    (hstep : mfaStep env st action = some next) :
    (EnrolsDisabled st action ∧ MfaFrame st next) ∨
      (¬ EnrolsDisabled st action ∧ EnabledInserted st next) := by
  cases action with
  | enrollMfa userId factorId secret =>
      cases hstep
      exact enrollMfa_cases userId factorId secret
  | registerPasskey userId =>
      cases hstep
      exact registerPasskey_cases env userId
  | enrollMfaCore userId secret =>
      cases hstep
      exact .inl ⟨trivial, frame_enrollMfaCore env userId secret st⟩
  | verifyMfa userId factorId code draw =>
      cases hstep
      exact .inl ⟨trivial, .of_login (frame_verifyMfaIssuing env.toRecoveryEnv
        userId factorId code draw st)⟩
  | verifyMfaCore userId factorId code =>
      cases hstep
      exact .inl ⟨trivial,
        frame_verifyMfaCore env.toLoginEnv userId factorId code st⟩
  | login input draw =>
      cases hstep
      exact .inl ⟨trivial,
        .of_login (frame_of_writes (writes_login input draw) st)⟩

end Enrol

/-- In every state of a run only verified factors are demanded, exactly when
no operation inserts a factor that is enabled at once. -/
theorem demandsVerified_iff (env : MfaEnv) (init last : ServiceState)
    (actions : List MfaAction) (hfactors : init.db.mfaFactors = .empty)
    (hproofs : init.secondFactors = [])
    (hrun : StepSystem.run (mfaStep env) init actions = some last) :
    StepSystem.Throughout (mfaStep env) DemandsVerified init actions ↔
      StepSystem.Along (mfaStep env) EnrolsDisabled init actions := by
  have hstored : ProofsStored init := by
    intro factorId hproved
    rw [hproofs] at hproved
    cases hproved
  have hverified : DemandsVerified init := by
    rintro factor ⟨hfactor, -⟩
    rw [hfactors] at hfactor
    exact absurd hfactor (Table.not_mem_empty factor)
  refine StepSystem.throughout_iff (mfaStep env) ?_ ?_ hstored hverified hrun
  · intro st action next hst hstep
    rcases mfaStep_cases env hstep with ⟨-, hframe⟩ | ⟨-, hinserted⟩
    · exact hst.later hframe
    · exact hinserted.proofsStored hst
  · intro st action next hst hgood hstep
    rcases mfaStep_cases env hstep with
      ⟨hdisabled, hframe⟩ | ⟨henabled, hinserted⟩
    · exact iff_of_true (hgood.later hframe) hdisabled
    · exact iff_of_false (hinserted.not_demandsVerified hst) henabled

namespace MfaWitness

def factorId : String := "0b5f4a0e-3b59-4a3c-9f0f-6a1d0a1c9e42"

def uuids : KeySource String where
  draw used := if used = [] then factorId else KeySource.longer.draw used
  fresh used := by
    split
    case isTrue hnone =>
      rw [hnone]
      exact List.not_mem_nil
    case isFalse => exact KeySource.longer.fresh used

/-- A secret that is its own code. -/
def env : MfaEnv where
  toRecoveryEnv :=
    { RecoveryWitness.env with
      uuids := uuids
      argon2Verify := fun _ password => password == "correct horse" }
  keyuri email secret := "otpauth://totp/IdP:" ++ email ++ "?secret=" ++ secret

/-- One user with a password, and no factor. -/
def signedUp : ServiceState :=
  (StepSystem.after (AccountState.step GoogleWitness.env) GoogleWitness.init
    [GoogleWitness.signup]).service

def after (actions : List MfaAction) : ServiceState :=
  StepSystem.after (mfaStep env) signedUp actions

def login : MfaAction :=
  .login
    { email := "owner@example.com"
      password := "correct horse"
      ipAddress := some "203.0.113.7"
      userAgent := none
      mfa := ⟨none, none, none⟩
      deviceId := none }
    ⟨"session-1", GoogleWitness.accessToken, GoogleWitness.refreshToken⟩

/-- A login, then a factor is enrolled and activated, then a login. -/
def activated : List MfaAction :=
  [login, .enrollMfaCore "user-1" "492039", login,
    .verifyMfaCore "user-1" factorId "492039", login]

/-- A sufficient condition that can be evaluated. -/
def checkEnrols (_ : ServiceState) : MfaAction → Bool
  | .enrollMfa _ _ _ => false
  | .registerPasskey _ => false
  | _ => true

theorem enrolsDisabled_of_check (st : ServiceState) (action : MfaAction)
    (hcheck : checkEnrols st action = true) : EnrolsDisabled st action := by
  cases action with
  | enrollMfa userId factorId secret => cases hcheck
  | registerPasskey userId => cases hcheck
  | _ => trivial

theorem activated_demandsVerified :
    StepSystem.Throughout (mfaStep env) DemandsVerified signedUp activated ∧
      (after activated).db.mfaFactors.rows.map MfaFactor.enabled = [true] :=
  ⟨(demandsVerified_iff env signedUp (after activated) activated
    (Table.ext (by decide +kernel)) (by decide +kernel)
    (StepSystem.run_after _ (by decide +kernel))).mpr
    (StepSystem.along_of_check _ enrolsDisabled_of_check (by decide +kernel)),
    by decide +kernel⟩

/-- The enrolment is abandoned. -/
def abandoned : List MfaAction :=
  [.enrollMfa "user-1" factorId "JBSWY3DPEHPK3PXP"]

theorem not_demandsVerified :
    ¬ ∀ env init (actions : List MfaAction) last,
      init.db.mfaFactors = .empty → init.secondFactors = [] →
      StepSystem.run (mfaStep env) init actions = some last →
      DemandsVerified last := by
  intro hclaim
  have hgood := hclaim env signedUp abandoned (after abandoned)
    (Table.ext (by decide +kernel)) (by decide +kernel)
    (StepSystem.run_after _ (by decide +kernel))
  have hdemanded : Demanded (after abandoned)
      ⟨factorId, "user-1", "totp", some "JBSWY3DPEHPK3PXP", true⟩ :=
    ⟨by decide +kernel, rfl⟩
  have hproved := hgood _ hdemanded
  exact absurd hproved (by decide +kernel)

end MfaWitness

end IdProvider
