/-
Signups and Google logins side by side: what they leave of the accounts, and
when the loser of a race fails.
-/
import IdProvider.AccountCreation
import Mathlib.Data.List.Lattice

namespace IdProvider

open Interleaving JsonText KeyedTable ServiceCall AuthService

/-! ## Rows later on -/

/-- Rows are only added, and new addresses are among `keys`. -/
structure RowsLater (keys : List String) (before after : AccountDb) :
    Prop where
  users : ∀ row ∈ before.users, row ∈ after.users
  userEmails : ∀ row ∈ before.userEmails, row ∈ after.userEmails
  identities : ∀ row ∈ before.externalIdentities,
    row ∈ after.externalIdentities
  added : ∀ row ∈ after.userEmails, row ∈ before.userEmails ∨ row.email ∈ keys

/-- The tables that an account is made of. -/
def AccountDb.accountRows (db : AccountDb) :
    Table User × Table UserEmail × Table ExternalIdentity :=
  (db.users, db.userEmails, db.externalIdentities)

section Rows

variable {keys : List String} {before after : AccountDb}

theorem RowsLater.of_same (hsame : after.accountRows = before.accountRows) :
    RowsLater keys before after := by
  have husers : after.users = before.users := congrArg Prod.fst hsame
  have hemails : after.userEmails = before.userEmails :=
    congrArg (fun rows => rows.2.1) hsame
  have hidentities : after.externalIdentities = before.externalIdentities :=
    congrArg (fun rows => rows.2.2) hsame
  constructor
  · intro row hrow
    rwa [husers]
  · intro row hrow
    rwa [hemails]
  · intro row hrow
    rwa [hidentities]
  · intro row hrow
    rw [hemails] at hrow
    exact .inl hrow

theorem AccountsSound.of_same (hsound : AccountsSound before)
    (hsame : after.accountRows = before.accountRows) : AccountsSound after := by
  have husers : after.users = before.users := congrArg Prod.fst hsame
  have hemails : after.userEmails = before.userEmails :=
    congrArg (fun rows => rows.2.1) hsame
  have hidentities : after.externalIdentities = before.externalIdentities :=
    congrArg (fun rows => rows.2.2) hsame
  constructor
  · rw [hemails]
    exact hsound.email
  · rw [husers, hemails]
    exact hsound.user
  · rw [husers, hidentities]
    exact hsound.identity

end Rows

/-! ## The rows of a new account -/

section Write

variable {account : NewAccount} {now : Instant} {db after : AccountDb}

theorem insertUser_some {draw : UserRepository.UserDraw} {email : String}
    {isVerified : Bool}
    (hinsert : UserRepository.insertUser db draw email isVerified now =
      some after) :
    after.users.rows = db.users.rows ++ [UserRepository.newUser draw now] ∧
      after.userEmails.rows = db.userEmails.rows ++
        [UserRepository.newEmail draw email isVerified now] ∧
      after.externalIdentities = db.externalIdentities ∧
      ∀ row ∈ db.userEmails, row.email ≠ email := by
  rw [UserRepository.insertUser] at hinsert
  split at hinsert
  case h_2 => cases hinsert
  case h_1 users userEmails husers hemails =>
    obtain ⟨hfree, hafter⟩ := Option.ite_none_left_eq_some.mp hinsert
    cases hafter
    refine ⟨(Table.insert?_eq_some husers).2, (Table.insert?_eq_some hemails).2,
      rfl, fun row hrow hsame => ?_⟩
    exact hfree (List.any_eq_true.mpr ⟨row, hrow, beq_iff_eq.mpr hsame⟩)

/-- What the commit adds. -/
theorem write_some (hwrite : account.write now db = some after) :
    after.users.rows =
        db.users.rows ++ [UserRepository.newUser account.draw now] ∧
      after.userEmails.rows = db.userEmails.rows ++
        [UserRepository.newEmail account.draw account.email
          account.isVerified now] ∧
      after.externalIdentities = db.externalIdentities ∧
      ∀ row ∈ db.userEmails, row.email ≠ account.email := by
  rw [NewAccount.write] at hwrite
  split at hwrite
  case h_1 => exact insertUser_some hwrite
  case h_2 passwordHash _ =>
    obtain ⟨middle, hmiddle, hrest⟩ := Option.bind_eq_some_iff.mp hwrite
    obtain ⟨userPasswords, -, rfl⟩ := Option.map_eq_some_iff.mp hrest
    obtain ⟨husers, hemails, hidentities, hfree⟩ := insertUser_some hmiddle
    exact ⟨husers, hemails, hidentities, hfree⟩

/-- The new address, and its user. -/
theorem rows_write (hwrite : account.write now db = some after) :
    RowsLater [account.email] db after ∧
      (∃ row ∈ after.userEmails, row.email = account.email ∧
        row.userId = account.draw.userId) ∧
      ∃ user ∈ after.users, user.id = account.draw.userId := by
  obtain ⟨husers, hemails, hidentities, -⟩ := write_some hwrite
  have hnewEmail : UserRepository.newEmail account.draw account.email
      account.isVerified now ∈ after.userEmails := by
    rw [← mem_rows, hemails]
    exact List.mem_append_right _ (List.mem_singleton_self _)
  have hnewUser : UserRepository.newUser account.draw now ∈ after.users := by
    rw [← mem_rows, husers]
    exact List.mem_append_right _ (List.mem_singleton_self _)
  refine ⟨⟨?_, ?_, ?_, ?_⟩, ⟨_, hnewEmail, rfl, rfl⟩, ⟨_, hnewUser, rfl⟩⟩
  · intro row hrow
    rw [← mem_rows, husers]
    exact List.mem_append_left _ hrow
  · intro row hrow
    rw [← mem_rows, hemails]
    exact List.mem_append_left _ hrow
  · intro row hrow
    rwa [hidentities]
  · intro row hrow
    rw [← mem_rows, hemails, List.mem_append, List.mem_singleton] at hrow
    rcases hrow with hold | rfl
    · exact .inl hold
    · exact .inr (List.mem_singleton_self _)

theorem sound_write (hsound : AccountsSound db)
    (hwrite : account.write now db = some after) : AccountsSound after := by
  obtain ⟨husers, hemails, hidentities, hfree⟩ := write_some hwrite
  obtain ⟨hlater, ⟨newRow, hnewRow, -, hnewUserId⟩, -⟩ := rows_write hwrite
  constructor
  · intro left hleft right hright hsame
    rw [← mem_rows, hemails, List.mem_append, List.mem_singleton]
      at hleft hright
    rcases hleft with hleft | rfl
    · rcases hright with hright | rfl
      · exact hsound.email left hleft right hright hsame
      · exact absurd hsame (hfree left hleft)
    · rcases hright with hright | rfl
      · exact absurd hsame.symm (hfree right hright)
      · rfl
  · intro user huser
    rw [← mem_rows, husers, List.mem_append, List.mem_singleton] at huser
    rcases huser with hold | rfl
    · obtain ⟨row, hrow, huserId⟩ := hsound.user user hold
      exact ⟨row, hlater.userEmails row hrow, huserId⟩
    · exact ⟨newRow, hnewRow, hnewUserId⟩
  · intro row hrow
    rw [hidentities] at hrow
    obtain ⟨user, huser, hid⟩ := hsound.identity row hrow
    exact ⟨user, hlater.users user huser, hid⟩

end Write

/-! ## The statements of an insert -/

section Statement

variable {account : NewAccount} {st : ServiceState}

def ServiceState.accountRows (st : ServiceState) :
    Table User × Table UserEmail × Table ExternalIdentity :=
  st.db.accountRows

/-- What a statement that returns has done. -/
inductive InsertStep (account : NewAccount) (before after : AccountDb) :
    InsertPhase → InsertPhase → Prop where
  | user (startedAt : Instant) (hsame : after = before) :
      InsertStep account before after .insertingUser (.insertingEmail startedAt)
  | email (startedAt : Instant) (next : InsertPhase) (hsame : after = before)
      (hfree : ∀ row ∈ before.userEmails, row.email ≠ account.email)
      (hnext : next = .insertingPassword startedAt ∨
        next = .committing startedAt) :
      InsertStep account before after (.insertingEmail startedAt) next
  | password (startedAt : Instant) (hsame : after = before) :
      InsertStep account before after (.insertingPassword startedAt)
        (.committing startedAt)
  | commit (startedAt : Instant)
      (hwrite : account.write startedAt before = some after) :
      InsertStep account before after (.committing startedAt) .committed

theorem ensures_commit {constraint : String}
    {write : AccountDb → Option AccountDb}
    {post : Except Failure Unit → ServiceState → Prop}
    (hsome : ∀ db, write st.db = some db → post (.ok ()) (st.withDb db))
    (hnone : write st.db = none →
      post (.error (.uniqueViolation constraint)) st) :
    Ensures (UserRepository.commit constraint write) post st := by
  unfold Ensures
  rcases hwrite : write st.db with _ | db
  · rw [commit_of_none hwrite]
    exact hnone hwrite
  · rw [commit_of_some hwrite]
    exact hsome db hwrite

theorem ensures_unlessTaken {constraint : String} {taken : AccountDb → Bool}
    {next : InsertPhase}
    {post : Except Failure InsertPhase → ServiceState → Prop}
    (hnext : taken st.db = false → post (.ok next) st)
    (htaken : taken st.db = true →
      post (.error (.uniqueViolation constraint)) st) :
    Ensures (NewAccount.unlessTaken constraint taken next) post st := by
  unfold Ensures NewAccount.unlessTaken
  by_cases hfree : taken st.db = true
  · rw [if_pos hfree]
    exact htaken hfree
  · rw [if_neg hfree]
    rw [Bool.not_eq_true] at hfree
    exact hnext hfree

/-- The insert of an address, past the wait. -/
theorem emailStatement_spec {startedAt : Instant}
    {post : Except Failure InsertPhase → ServiceState → Prop}
    (hnext : ∀ next, next = .insertingPassword startedAt ∨
      next = .committing startedAt →
      (∀ row ∈ st.db.userEmails, row.email ≠ account.email) →
      post (.ok next) (st.tick 1))
    (hemail : (st.readings st.ticks).fails = false →
      (∃ row ∈ st.db.userEmails, row.email = account.email) →
      post (.error (.uniqueViolation "user_emails_email_key")) (st.tick 1))
    (hkey : (∀ row ∈ st.db.userEmails, row.email ≠ account.email) →
      post (.error (.uniqueViolation "user_emails_pkey")) (st.tick 1))
    (hfails : (st.readings st.ticks).fails = true →
      post (.error .unavailable) (st.tick 1)) :
    Ensures (account.statement (.insertingEmail startedAt)) post st := by
  rw [NewAccount.statement]
  refine ensures_external_at (fun hanswers => ?_) hfails
  have hphase : ∀ next : InsertPhase, next = (if account.passwordHash.isSome
      then InsertPhase.insertingPassword startedAt else .committing startedAt) →
      next = .insertingPassword startedAt ∨ next = .committing startedAt := by
    rintro next rfl
    split
    case isTrue => exact .inl rfl
    case isFalse => exact .inr rfl
  have hunique : Ensures (NewAccount.unlessTaken "user_emails_email_key"
      (fun db => db.userEmails.rows.any fun row => row.email == account.email)
      (if account.passwordHash.isSome then .insertingPassword startedAt
      else .committing startedAt)) (fun outcome after => after = st.tick 1 ∧
        ((∃ next, outcome = .ok next ∧
            (next = .insertingPassword startedAt ∨
              next = .committing startedAt) ∧
            ∀ row ∈ st.db.userEmails, row.email ≠ account.email) ∨
          outcome = .error (.uniqueViolation "user_emails_email_key") ∧
            ∃ row ∈ st.db.userEmails, row.email = account.email))
      (st.tick 1) := by
    apply ensures_unlessTaken
    · intro hfree
      rw [List.any_eq_false] at hfree
      refine ⟨rfl, .inl ⟨_, rfl, hphase _ rfl, fun row hrow hsame => ?_⟩⟩
      exact hfree row hrow (beq_iff_eq.mpr hsame)
    · intro htaken
      obtain ⟨row, hrow, hsame⟩ := List.any_eq_true.mp htaken
      exact ⟨rfl, .inr ⟨rfl, row, hrow, eq_of_beq hsame⟩⟩
  apply hunique.bind
  · rintro next after ⟨rfl, ⟨other, hother, hcases, hfree⟩ | ⟨herror, -⟩⟩
    · cases hother
      apply ensures_unlessTaken
      · exact fun _ => hnext next hcases hfree
      · exact fun _ => hkey hfree
    · cases herror
  · rintro error after ⟨rfl, ⟨other, hother, -⟩ | ⟨herror, htaken⟩⟩
    · cases hother
    · cases herror
      exact hemail hanswers htaken

theorem NewAccount.statement_spec {phase : InsertPhase}
    (hphase : phase ≠ .committed) :
    Ensures (account.statement phase) (fun outcome after =>
      (∀ error, outcome = .error error → after.db = st.db) ∧
        ∀ next, outcome = .ok next →
          InsertStep account st.db after.db phase next) st := by
  cases phase with
  | insertingUser =>
      rw [NewAccount.statement]
      apply ensures_external_at
      · intro hanswers
        apply ensures_unlessTaken
        · intro hfree
          refine ⟨nofun, fun next hnext => ?_⟩
          cases hnext
          exact .user _ rfl
        · exact fun htaken => ⟨fun _ _ => rfl, nofun⟩
      · exact fun hfails => ⟨fun _ _ => rfl, nofun⟩
  | insertingEmail startedAt =>
      apply emailStatement_spec
      · intro next hnext hfree
        refine ⟨nofun, fun other hother => ?_⟩
        cases hother
        exact .email startedAt next rfl hfree hnext
      · exact fun _ htaken => ⟨fun _ _ => rfl, nofun⟩
      · exact fun hfree => ⟨fun _ _ => rfl, nofun⟩
      · exact fun hfails => ⟨fun _ _ => rfl, nofun⟩
  | insertingPassword startedAt =>
      rw [NewAccount.statement]
      apply ensures_external_at
      · intro hanswers
        apply ensures_unlessTaken
        · intro hfree
          refine ⟨nofun, fun next hnext => ?_⟩
          cases hnext
          exact .password _ rfl
        · exact fun htaken => ⟨fun _ _ => rfl, nofun⟩
      · exact fun hfails => ⟨fun _ _ => rfl, nofun⟩
  | committing startedAt =>
      rw [NewAccount.statement]
      apply ensures_external_at
      · intro hanswers
        have hcommit : Ensures (UserRepository.commit "users_pkey"
            (account.write startedAt)) (fun outcome after =>
              (∀ error, outcome = .error error → after.db = st.db) ∧
                (outcome = .ok () →
                  account.write startedAt st.db = some after.db))
            (st.tick 1) :=
          ensures_commit (fun db hwrite => ⟨nofun, fun _ => hwrite⟩)
            fun _ => ⟨fun _ _ => rfl, nofun⟩
        apply hcommit.bind
        · rintro _ after ⟨-, hwrite⟩
          refine ⟨nofun, fun next hnext => ?_⟩
          cases hnext
          exact .commit startedAt (hwrite rfl)
        · rintro error after ⟨hsame, -⟩
          exact ⟨fun _ _ => hsame error rfl, nofun⟩
      · exact fun hfails => ⟨fun _ _ => rfl, nofun⟩
  | committed => exact absurd rfl hphase

/-! ### What statements throw -/

theorem throws_external {Value : Type} {run : Instant → Service Value}
    (hrun : ∀ now, Throws (run now) Failure.Expected) :
    Throws (external run) Failure.Expected := by
  have hreading : Throws nextReading Failure.Expected := nofun
  apply hreading.bind
  intro reading
  exact throws_ite (throws_fail trivial) (hrun reading.now)

theorem throws_select {Value : Type} (read : AccountDb → Value) :
    Throws (select read) Failure.Expected :=
  throws_external fun _ => throws_observe _

theorem throws_unlessTaken {constraint : String} {taken : AccountDb → Bool}
    {next : InsertPhase}
    (hconstraint : (Failure.uniqueViolation constraint).Expected) :
    Throws (NewAccount.unlessTaken constraint taken next) Failure.Expected := by
  intro st error herror
  rw [NewAccount.unlessTaken] at herror
  split at herror
  case isTrue =>
    cases herror
    exact hconstraint
  case isFalse => cases herror

theorem throws_commit {constraint : String}
    {write : AccountDb → Option AccountDb}
    (hconstraint : (Failure.uniqueViolation constraint).Expected) :
    Throws (UserRepository.commit constraint write) Failure.Expected := by
  intro st error herror
  rw [UserRepository.commit] at herror
  split at herror
  case h_1 =>
    cases herror
    exact hconstraint
  case h_2 => cases herror

theorem throws_statement {phase : InsertPhase}
    (hphase : ∀ startedAt, phase ≠ .insertingEmail startedAt) :
    Throws (account.statement phase) Failure.Expected := by
  cases phase with
  | insertingUser =>
      exact throws_external fun _ => throws_unlessTaken (by decide)
  | insertingEmail startedAt => exact absurd rfl (hphase startedAt)
  | insertingPassword startedAt =>
      exact throws_external fun _ => throws_unlessTaken (by decide)
  | committing startedAt =>
      apply throws_external
      intro now
      exact (throws_commit (by decide)).bind fun _ => throws_pure _
  | committed => exact throws_pure _

theorem expected_error {Value : Type} {failure : Failure}
    (hexpected : failure.Expected) :
    ∀ error, (.error failure : Except Failure Value) = .error error →
      error.Expected := by
  intro error herror
  cases herror
  exact hexpected

/-- An insert fails as it may exactly when it finds the address free. -/
theorem expected_statement_iff (account : NewAccount) (phase : InsertPhase)
    (st : ServiceState) :
    (∀ error, (account.statement phase st).1 = .error error →
        error.Expected) ↔
      ((st.readings st.ticks).fails = false → ∀ startedAt,
        phase = .insertingEmail startedAt →
          ∀ row ∈ st.db.userEmails, row.email ≠ account.email) := by
  cases phase with
  | insertingEmail startedAt =>
      have hspec : Ensures (account.statement (.insertingEmail startedAt))
          (fun outcome _ => (∀ error, outcome = .error error →
            error.Expected) ↔ ((st.readings st.ticks).fails = false →
              ∀ row ∈ st.db.userEmails, row.email ≠ account.email)) st := by
        apply emailStatement_spec
        · exact fun next _ hfree => iff_of_true nofun fun _ => hfree
        · rintro hanswers ⟨row, hrow, hsame⟩
          refine iff_of_false (fun hall => ?_) fun hfree =>
            hfree hanswers row hrow hsame
          exact (hall _ rfl).1 rfl
        · intro hfree
          exact iff_of_true (expected_error (by decide)) fun _ => hfree
        · intro hfails
          refine iff_of_true (expected_error trivial) fun hanswers => ?_
          rw [hfails] at hanswers
          cases hanswers
      refine Iff.trans hspec ⟨fun hfree hanswers _ _ => ?_, fun hall hanswers => ?_⟩
      · exact hfree hanswers
      · exact hall hanswers startedAt rfl
  | insertingUser | insertingPassword | committing | committed =>
      refine iff_of_true (throws_statement (fun startedAt hphase => ?_) st) ?_
      · cases hphase
      intro _ startedAt hphase
      cases hphase

end Statement

/-! ## What the rest of a login throws -/

section Finish

variable (env : GoogleEnv)

theorem throws_api {Value : Type} {status : Nat} {code message : String}
    (hstatus : 400 ≤ status ∧ status < 500) :
    Throws (throwApi status code message : Service Value) Failure.Expected :=
  throws_fail hstatus

theorem throws_dateNow : Throws dateNow Failure.Expected := by
  have hreading : Throws nextReading Failure.Expected := nofun
  exact hreading.bind fun _ => throws_pure _

theorem throws_event (eventType : String) (userId : Option String)
    (payload : Json) :
    Throws (AuditRepository.createSecurityEvent eventType userId payload)
      Failure.Expected :=
  throws_external fun _ => throws_change _

theorem throws_assessLogin (userId : String)
    (ipAddress sessionUserAgent : Option String) :
    Throws (assessLogin env.toLoginEnv userId ipAddress sessionUserAgent)
      Failure.Expected := by
  refine throws_ite ?_ (throws_pure _)
  have hfailures : Throws (failureFindings env.toLoginEnv ipAddress)
      Failure.Expected := by
    unfold failureFindings
    split
    case h_1 => exact throws_pure _
    case h_2 =>
      apply throws_dateNow.bind
      intro now
      split
      case h_1 => exact throws_fail (by decide)
      case h_2 =>
        exact (throws_external fun _ => throws_observe _).bind
          fun _ => throws_pure _
  apply hfailures.bind
  intro failures
  have hhistory : Throws (historyFindings env.toLoginEnv userId ipAddress
      sessionUserAgent) Failure.Expected := by
    apply (throws_select _).bind
    intro latestSession
    cases latestSession with
    | none => exact throws_pure _
    | some latestSession =>
        have hdevice : Throws (deviceFindings userId sessionUserAgent)
            Failure.Expected := by
          unfold deviceFindings
          split
          case h_1 => exact throws_pure _
          case h_2 => exact (throws_select _).bind fun _ => throws_pure _
        have htravel : Throws (travelFindings env.toLoginEnv latestSession
            ipAddress) Failure.Expected := by
          unfold travelFindings
          split
          case h_1 =>
            refine throws_ite ?_ (throws_pure _)
            exact throws_dateNow.bind fun _ => throws_pure _
          case h_2 => exact throws_pure _
        exact hdevice.bind fun _ => htravel.bind fun _ => throws_pure _
  exact hhistory.bind fun _ => throws_pure _

theorem throws_hasEnabledMfa (userId : String) :
    Throws (MfaService.hasEnabledMfa userId) Failure.Expected :=
  (throws_select _).bind fun _ => throws_pure _

theorem throws_consumeCode (userId code : String) :
    Throws (MfaRecoveryService.consumeCode env.toLoginEnv userId code)
      Failure.Expected := by
  have hinvalid : Throws (MfaRecoveryService.invalidCode :
      Service MfaRecoveryService.ConsumedCode) Failure.Expected :=
    throws_api (by decide)
  apply (throws_select _).bind
  intro record
  cases record with
  | none => exact hinvalid
  | some record =>
      have hverify : Throws (MfaRecoveryService.verifyCode env.toLoginEnv userId
          (MfaRecoveryService.normalizeCode env.toLoginEnv code) record)
          Failure.Expected :=
        throws_ite (throws_external fun _ => throws_pure _) (throws_pure _)
      apply hverify.bind
      intro isValid
      refine throws_ite ?_ hinvalid
      have hmark : Throws (MfaRecoveryService.markUsed record.id)
          Failure.Expected := throws_external fun _ => nofun
      apply hmark.bind
      intro used
      refine throws_ite ?_ hinvalid
      have hreport : Throws (MfaRecoveryService.reportUse userId)
          Failure.Expected := by
        apply (throws_select _).bind
        intro remainingCount
        have hlog : ∀ input, Throws (AuditRepository.createAuditLog input)
            Failure.Expected := fun _ => throws_external fun _ => throws_change _
        apply (hlog _).bind
        intro _
        apply (throws_event _ _ _).bind
        intro _
        have hwarn : Throws (MfaRecoveryService.warnIfLow userId remainingCount)
            Failure.Expected := throws_ite (throws_event _ _ _) (throws_pure _)
        exact hwarn.bind fun _ => throws_pure _
      have hprove : Throws (proveSecondFactor (.recoveryCode record.id))
          Failure.Expected := throws_change _
      exact hprove.bind fun _ => hreport

theorem throws_verifyMfa (userId factorId code : String) :
    Throws (MfaService.verifyMfa env.toLoginEnv userId factorId code)
      Failure.Expected := by
  apply (throws_select _).bind
  intro factor
  cases factor with
  | none => exact throws_api (by decide)
  | some factor =>
      apply throws_ite (throws_api (by decide))
      apply throws_ite (throws_api (by decide))
      apply (throws_external fun _ => throws_pure _).bind
      intro valid
      refine throws_ite ?_ (throws_api (by decide))
      exact (throws_change _).bind fun _ => throws_pure _

theorem throws_enforceMfaForLogin (userId : String)
    (ipAddress : Option String) (mfa : MfaInput) :
    Throws (enforceMfaForLogin env.toLoginEnv userId ipAddress mfa)
      Failure.Expected := by
  apply (throws_hasEnabledMfa userId).bind
  intro mfaEnabled
  refine throws_ite ?_ (throws_pure _)
  split
  case h_1 recoveryCode _ =>
    have hconsume : ∀ key limit windowSeconds, Throws
        (RateLimiter.consume key limit windowSeconds) Failure.Expected :=
      fun _ _ _ => throws_external fun _ => nofun
    apply (hconsume _ _ _).bind
    intro rate
    apply (hconsume _ _ _).bind
    intro ipRate
    apply throws_ite (throws_api (by decide))
    exact (throws_consumeCode env userId recoveryCode).bind
      fun _ => throws_pure _
  case h_2 =>
    split
    case h_1 code factorId _ _ =>
      exact (throws_verifyMfa env userId factorId code).bind
        fun _ => throws_pure _
    case h_2 => exact throws_api (by decide)

theorem throws_finishGoogleLogin (input : GoogleLoginInput)
    (draw : SessionDraw) (identity : GoogleIdentity) (userId : String)
    (sessionUserAgent : Option String) (mfaEnabled : Bool)
    (adaptiveRisk : AdaptiveRisk) :
    Throws (finishGoogleLogin env input draw identity userId sessionUserAgent
      mfaEnabled adaptiveRisk) Failure.Expected := by
  have hinsert : ∀ row, Throws (insertSession row) Failure.Expected := by
    intro row st error herror
    rw [insertSession] at herror
    dsimp only at herror
    split at herror
    case isTrue =>
      split at herror
      case h_1 =>
        cases herror
        decide
      case h_2 =>
        split at herror
        case isTrue =>
          cases herror
          decide
        case isFalse => cases herror
    case isFalse =>
      cases herror
      decide
  have hsession : Throws (AuthService.createSession env.toLoginEnv draw userId
      input.ipAddress sessionUserAgent) Failure.Expected := by
    apply throws_dateNow.bind
    intro accessNow
    apply throws_dateNow.bind
    intro refreshNow
    exact (throws_external fun _ => hinsert _).bind fun _ => throws_pure _
  apply hsession.bind
  intro session
  exact (throws_attempt _).bind fun _ => throws_pure _

theorem throws_loginGoogleUser (input : GoogleLoginInput)
    (draw : SessionDraw) (identity : GoogleIdentity) (userId : String) :
    Throws (loginGoogleUser env input draw identity userId)
      Failure.Expected := by
  apply (throws_select _).bind
  intro active
  refine throws_ite ?_ (throws_api (by decide))
  apply (throws_select _).bind
  intro hasLocalPassword
  apply (throws_assessLogin env _ _ _).bind
  intro adaptiveRisk
  apply throws_ite
  · have hblocked : Throws (throwApi 403 "adaptive_mfa_blocked"
        "Request blocked by adaptive risk policy" : Service LoginResult)
        Failure.Expected := throws_api (by decide)
    exact (throws_attempt _).bind fun _ => hblocked
  apply throws_ite
  · apply (throws_hasEnabledMfa userId).bind
    intro mfaEnabled
    apply throws_ite
    · exact throws_api (by decide)
    apply throws_ite
    · exact throws_pure _
    apply throws_ite
    · exact (throws_enforceMfaForLogin env userId _ _).bind
        fun _ => throws_finishGoogleLogin env _ _ _ _ _ _ _
    · exact throws_finishGoogleLogin env _ _ _ _ _ _ _
  · exact throws_finishGoogleLogin env _ _ _ _ _ _ _

end Finish

/-! ## Threads -/

def SignedUp (db : AccountDb) (email userId : String) : Prop :=
  ∃ row ∈ db.userEmails, row.email = email ∧ row.userId = userId

def Linked (db : AccountDb) (identity : GoogleIdentity) (userId : String) :
    Prop :=
  ∃ row ∈ db.externalIdentities, row.provider = "google" ∧
    row.providerSubject = identity.providerSubject ∧ row.userId = userId

/-- The pending rows of an insert are still possible. -/
def InsertOk (db : AccountDb) (account : NewAccount) (phase : InsertPhase) :
    Prop :=
  phase ≠ .committed ∧ ∀ email ∈ account.keys phase,
    ∀ row ∈ db.userEmails, row.email ≠ email

/-- What the steps of a call so far have made of the accounts. -/
def AccountThread.Facts (db : AccountDb) : AccountThread → Prop
  | .signup request (.inserting phase) => InsertOk db request.account phase
  | .signup request .creatingToken =>
      SignedUp db request.email request.draw.userId
  | .signup request .done => SignedUp db request.email request.draw.userId
  | .google _ draw (.inserting identity phase) =>
      InsertOk db (GooglePhase.account draw identity) phase
  | .google _ _ (.linking _ userId) => ∃ user ∈ db.users, user.id = userId
  | .google _ _ (.finishing identity userId) => Linked db identity userId
  | .google _ _ (.done identity userId) => Linked db identity userId
  | _ => True

section Later

variable {keys : List String} {before after : AccountDb}

theorem SignedUp.later {email userId : String}
    (hsigned : SignedUp before email userId)
    (hlater : RowsLater keys before after) : SignedUp after email userId := by
  obtain ⟨row, hrow, hfacts⟩ := hsigned
  exact ⟨row, hlater.userEmails row hrow, hfacts⟩

theorem Linked.later {identity : GoogleIdentity} {userId : String}
    (hlinked : Linked before identity userId)
    (hlater : RowsLater keys before after) : Linked after identity userId := by
  obtain ⟨row, hrow, hfacts⟩ := hlinked
  exact ⟨row, hlater.identities row hrow, hfacts⟩

theorem InsertOk.later {account : NewAccount} {phase : InsertPhase}
    (hok : InsertOk before account phase)
    (hlater : RowsLater keys before after)
    (hapart : keys.Disjoint (account.keys phase)) :
    InsertOk after account phase := by
  refine ⟨hok.1, fun email hemail row hrow hsame => ?_⟩
  rcases hlater.added row hrow with hold | hnew
  · exact hok.2 email hemail row hold hsame
  · rw [hsame] at hnew
    exact hapart hnew hemail

theorem AccountThread.Facts.later {thread : AccountThread}
    (hfacts : thread.Facts before) (hlater : RowsLater keys before after)
    (hapart : keys.Disjoint thread.keys) : thread.Facts after := by
  rcases thread with ⟨request, phase⟩ | ⟨input, draw, phase⟩
  · cases phase with
    | finding => trivial
    | inserting phase => exact InsertOk.later hfacts hlater hapart
    | creatingToken => exact SignedUp.later hfacts hlater
    | done => exact SignedUp.later hfacts hlater
  · cases phase with
    | readingConfig => trivial
    | verifying clientId => trivial
    | findingIdentity identity => trivial
    | findingUser identity => trivial
    | inserting identity phase => exact InsertOk.later hfacts hlater hapart
    | linking identity userId =>
        obtain ⟨user, huser, hid⟩ := hfacts
        exact ⟨user, hlater.users user huser, hid⟩
    | finishing identity userId => exact Linked.later hfacts hlater
    | done identity userId => exact Linked.later hfacts hlater

theorem CallEnd.Fine.later {result : CallEnd} (hfine : result.Fine before)
    (hlater : RowsLater keys before after) : result.Fine after := by
  cases result with
  | signedUp email userId => exact SignedUp.later hfine hlater
  | loggedIn identity userId => exact Linked.later hfine hlater
  | threw error => exact hfine

end Later

/-- What a step of a call has done to the accounts. -/
structure StepResult (thread : AccountThread) (before after : AccountDb)
    (outcome : Except Failure AccountThread) : Prop where
  later : RowsLater thread.keys before after
  sound : AccountsSound after
  facts : ∀ next, outcome = .ok next → next.Facts after
  keys : ∀ next, outcome = .ok next → ∀ email ∈ next.keys,
    email ∈ thread.keys ∨ ∃ account startedAt,
      thread.inserting = some (account, .insertingEmail startedAt) ∧
        email = account.email

section Next

variable {env : GoogleEnv} {st : ServiceState}

theorem StepResult.of_same {thread : AccountThread} {before after : AccountDb}
    {outcome : Except Failure AccountThread}
    (hsound : AccountsSound before)
    (hsame : after.accountRows = before.accountRows)
    (hnext : ∀ next, outcome = .ok next → next.Facts after ∧ next.keys = []) :
    StepResult thread before after outcome where
  later := .of_same hsame
  sound := hsound.of_same hsame
  facts next hok := (hnext next hok).1
  keys next hok email hemail := by
    rw [(hnext next hok).2] at hemail
    cases hemail

theorem StepResult.of_error {thread : AccountThread}
    {before after : AccountDb} {error : Failure}
    (hsound : AccountsSound before)
    (hsame : after.accountRows = before.accountRows) :
    StepResult thread before after (.error error) := by
  apply StepResult.of_same hsound hsame
  intro next hnext
  cases hnext

theorem StepResult.of_ok {thread next : AccountThread}
    {before after : AccountDb} (hsound : AccountsSound before)
    (hsame : after.accountRows = before.accountRows)
    (hfacts : next.Facts after) (hkeys : next.keys = []) :
    StepResult thread before after (.ok next) := by
  apply StepResult.of_same hsound hsame
  intro other hother
  cases hother
  exact ⟨hfacts, hkeys⟩

/-- A select leaves the tables alone and returns what it reads from them. -/
theorem ensures_select {Value : Type} (read : AccountDb → Value)
    (st : ServiceState) :
    Ensures (select read)
      (fun outcome after => after.db = st.db ∧
        ∀ value, outcome = .ok value → value = read st.db) st := by
  apply ensures_external_at
  · exact fun _ => ⟨rfl, fun value hvalue => (Except.ok.inj hvalue).symm⟩
  · exact fun _ => ⟨rfl, nofun⟩

/-- The transaction is open for another statement. -/
theorem InsertStep.insertOk {account : NewAccount} {before after : AccountDb}
    {phase next : InsertPhase} (hok : InsertOk before account phase)
    (hstep : InsertStep account before after phase next)
    (hnext : next ≠ .committed) : InsertOk after account next := by
  refine ⟨hnext, fun email hemail row hrow => ?_⟩
  cases hstep with
  | user startedAt hsame => cases hemail
  | email startedAt next hsame hfree hphase =>
      rw [hsame] at hrow
      have hkeys : account.keys next = [account.email] := by
        rcases hphase with rfl | rfl
        · rfl
        · rfl
      rw [hkeys, List.mem_singleton] at hemail
      rw [hemail]
      exact hfree row hrow
  | password startedAt hsame =>
      rw [hsame] at hrow
      exact hok.2 email hemail row hrow
  | commit startedAt hwrite => exact absurd rfl hnext

theorem InsertStep.later {account : NewAccount} {before after : AccountDb}
    {phase next : InsertPhase}
    (hstep : InsertStep account before after phase next) :
    RowsLater (account.keys phase) before after := by
  cases hstep with
  | user startedAt hsame =>
      rw [hsame]
      exact .of_same rfl
  | email startedAt next hsame hfree hphase =>
      rw [hsame]
      exact .of_same rfl
  | password startedAt hsame =>
      rw [hsame]
      exact .of_same rfl
  | commit startedAt hwrite => exact (rows_write hwrite).1

theorem InsertStep.sound {account : NewAccount} {before after : AccountDb}
    {phase next : InsertPhase} (hsound : AccountsSound before)
    (hstep : InsertStep account before after phase next) :
    AccountsSound after := by
  cases hstep with
  | user startedAt hsame => rwa [hsame]
  | email startedAt next hsame hfree hphase => rwa [hsame]
  | password startedAt hsame => rwa [hsame]
  | commit startedAt hwrite => exact sound_write hsound hwrite

theorem InsertStep.committed {account : NewAccount} {before after : AccountDb}
    {phase : InsertPhase}
    (hstep : InsertStep account before after phase .committed) :
    SignedUp after account.email account.draw.userId ∧
      ∃ user ∈ after.users, user.id = account.draw.userId := by
  cases hstep with
  | email startedAt next hsame hfree hphase => rcases hphase with h | h <;> cases h
  | commit startedAt hwrite => exact (rows_write hwrite).2

theorem InsertStep.keys {account : NewAccount} {before after : AccountDb}
    {phase next : InsertPhase}
    (hstep : InsertStep account before after phase next) :
    ∀ email ∈ account.keys next, email ∈ account.keys phase ∨
      ∃ startedAt, phase = .insertingEmail startedAt ∧
        email = account.email := by
  intro email hemail
  cases hstep with
  | user startedAt hsame => cases hemail
  | email startedAt next hsame hfree hphase =>
      have hkeys : account.keys next = [account.email] := by
        rcases hphase with rfl | rfl
        · rfl
        · rfl
      rw [hkeys, List.mem_singleton] at hemail
      exact .inr ⟨startedAt, rfl, hemail⟩
  | password startedAt hsame => exact .inl hemail
  | commit startedAt hwrite => cases hemail

/-- A statement of an insert, as a step of its thread. -/
theorem StepResult.of_insert {thread : AccountThread} {account : NewAccount}
    {phase : InsertPhase} {before after : AccountDb}
    (hthread : thread.inserting = some (account, phase))
    (hsound : AccountsSound before) {insertPhase : InsertPhase}
    (hstep : InsertStep account before after phase insertPhase)
    {next : AccountThread} (hfacts : next.Facts after)
    (hkeys : next.keys ⊆ account.keys insertPhase) :
    StepResult thread before after (.ok next) := by
  have hthreadKeys : thread.keys = account.keys phase := by
    rw [AccountThread.keys, hthread]
  constructor
  · rw [hthreadKeys]
    exact hstep.later
  · exact hstep.sound hsound
  · intro other hother
    cases hother
    exact hfacts
  · intro other hother email hemail
    cases hother
    rw [hthreadKeys]
    rcases hstep.keys email (hkeys hemail) with hold | ⟨startedAt, rfl, rfl⟩
    · exact .inl hold
    · exact .inr ⟨account, startedAt, hthread, rfl⟩

theorem rows_of_db {before after : AccountDb} (hsame : after = before) :
    after.accountRows = before.accountRows := by
  rw [hsame]

theorem insertEmailToken_rows {db after : AccountDb}
    {row : EmailVerificationToken}
    (hinsert : VerificationRepository.insertEmailToken db row = some after) :
    after.accountRows = db.accountRows := by
  rw [VerificationRepository.insertEmailToken] at hinsert
  obtain ⟨-, hrows⟩ := Option.ite_none_left_eq_some.mp hinsert
  obtain ⟨tokens, -, rfl⟩ := Option.map_eq_some_iff.mp hrows
  rfl

/-- The tokens are apart from the accounts. -/
theorem keeps_createEmailToken (env : AuthEnv)
    (draw : VerificationRepository.TokenDraw) (userId : String) (lifetimeMs : Int) :
    Keeps ServiceState.accountRows
      (VerificationRepository.createEmailToken env draw userId lifetimeMs) := by
  have hreading : Keeps ServiceState.accountRows nextReading := fun _ => rfl
  have hnow : Keeps ServiceState.accountRows dateNow :=
    hreading.bind fun _ => keeps_pure _
  apply hnow.bind
  intro issuedAt
  apply keepsView_external hreading
  intro now st
  rw [UserRepository.commit]
  split
  case h_1 => rfl
  case h_2 after hinsert => exact insertEmailToken_rows hinsert

theorem signup_spec {request : SignupArgs} {phase : SignupPhase}
    (hsound : AccountsSound st.db)
    (hfacts : (AccountThread.signup request phase).Facts st.db) :
    Ensures ((AccountThread.signup request phase).next env)
      (fun outcome after =>
        StepResult (.signup request phase) st.db after.db outcome) st := by
  cases phase with
  | finding =>
      have hfind : Ensures (SignupPhase.finding.next env request)
          (fun outcome after => after.db = st.db ∧
            ∀ next, outcome = .ok next → next = .inserting .insertingUser)
          st := by
        apply (ensures_select (fun db => findByEmail db request.email) st).bind
        · rintro existing after ⟨hsame, -⟩
          apply ensures_ite
          · exact fun _ => ⟨hsame, nofun⟩
          · exact fun _ => ⟨hsame, fun next hnext => (Except.ok.inj hnext).symm⟩
        · rintro error after ⟨hsame, -⟩
          exact ⟨hsame, nofun⟩
      apply hfind.bind
      · rintro next after ⟨hsame, hnext⟩
        rw [hnext next rfl]
        refine .of_ok hsound (rows_of_db hsame) ⟨nofun, ?_⟩ rfl
        exact fun email hemail => by cases hemail
      · rintro error after ⟨hsame, -⟩
        exact .of_error hsound (rows_of_db hsame)
  | inserting phase =>
      have hstatement : Ensures ((SignupPhase.inserting phase).next env request)
          (fun outcome after =>
            StepResult (.signup request (.inserting phase)) st.db after.db
              (outcome.map (AccountThread.signup request))) st := by
        apply (NewAccount.statement_spec hfacts.1).bind
        · rintro next after ⟨-, hok⟩
          have hstep := hok next rfl
          split
          case h_1 =>
            exact .of_insert rfl hsound hstep hstep.committed.1
              (List.nil_subset _)
          case h_2 hopen =>
            exact .of_insert rfl hsound hstep (hstep.insertOk hfacts hopen)
              (List.Subset.refl _)
        · rintro error after ⟨herror, -⟩
          exact .of_error hsound (rows_of_db (herror error rfl))
      apply hstatement.bind
      · exact fun next after hstep => hstep
      · exact fun error after hstep => hstep
  | creatingToken =>
      have htoken := (keeps_createEmailToken env.toAuthEnv request.tokenDraw
        request.draw.userId (24 * 60 * 60 * 1000)).ensures st
      have hcreate : Ensures (SignupPhase.creatingToken.next env request)
          (fun outcome after => after.accountRows = st.accountRows ∧
            ∀ next, outcome = .ok next → next = .done) st := by
        apply htoken.bind
        · intro _ after hsame
          exact ⟨hsame, fun next hnext => (Except.ok.inj hnext).symm⟩
        · exact fun error after hsame => ⟨hsame, nofun⟩
      apply hcreate.bind
      · rintro next after ⟨hsame, hnext⟩
        rw [hnext next rfl]
        have hlater : RowsLater [] st.db after.db := .of_same hsame
        exact .of_ok hsound hsame (SignedUp.later hfacts hlater) rfl
      · rintro error after ⟨hsame, -⟩
        exact .of_error hsound hsame
  | done => exact .of_ok hsound rfl hfacts rfl

/-! ### Google logins -/

section Link

variable {draw : GoogleLoginDraw} {identity : GoogleIdentity}
  {userId : String}

theorem insertGoogle_some {now : Instant} {db after : AccountDb}
    (hinsert : insertGoogle draw identity userId now db = some after) :
    after.users = db.users ∧ after.userEmails = db.userEmails ∧
      after.externalIdentities.rows = db.externalIdentities.rows ++
        [newIdentity draw identity userId now] := by
  rw [insertGoogle, IdentityRepository.insertIdentity] at hinsert
  obtain ⟨-, hrows⟩ := Option.ite_none_left_eq_some.mp hinsert
  obtain ⟨identities, hidentities, rfl⟩ := Option.map_eq_some_iff.mp hrows
  exact ⟨rfl, rfl, (Table.insert?_eq_some hidentities).2⟩

theorem StepResult.of_link {now : Instant} {before after : AccountDb}
    {input : GoogleLoginInput} (hsound : AccountsSound before)
    (huser : ∃ user ∈ before.users, user.id = userId)
    (hinsert : insertGoogle draw identity userId now before = some after) :
    StepResult (.google input draw (.linking identity userId)) before after
      (.ok (.google input draw (.finishing identity userId))) := by
  obtain ⟨husers, hemails, hidentities⟩ := insertGoogle_some hinsert
  have hnew : newIdentity draw identity userId now ∈
      after.externalIdentities := by
    rw [← mem_rows, hidentities]
    exact List.mem_append_right _ (List.mem_singleton_self _)
  constructor
  · constructor
    · intro row hrow
      rwa [husers]
    · intro row hrow
      rwa [hemails]
    · intro row hrow
      rw [← mem_rows, hidentities]
      exact List.mem_append_left _ hrow
    · intro row hrow
      rw [hemails] at hrow
      exact .inl hrow
  · constructor
    · rw [hemails]
      exact hsound.email
    · rw [husers, hemails]
      exact hsound.user
    · intro row hrow
      rw [husers]
      rw [← mem_rows, hidentities, List.mem_append, List.mem_singleton] at hrow
      rcases hrow with hold | rfl
      · exact hsound.identity row hold
      · exact huser
  · intro next hnext
    cases hnext
    exact ⟨_, hnew, rfl, rfl, rfl⟩
  · intro next hnext email hemail
    cases hnext
    cases hemail

theorem createGoogleIdentity_spec
    {post : Except Failure Unit → ServiceState → Prop}
    (hinsert : ∀ after, insertGoogle draw identity userId
      (st.readings st.ticks).now st.db = some after →
      post (.ok ()) ((st.tick 1).withDb after))
    (htaken : (st.readings st.ticks).fails = false →
      insertGoogle draw identity userId (st.readings st.ticks).now
        st.db = none → post (.error
        (.uniqueViolation "external_identities_provider_subject_key"))
        (st.tick 1))
    (hfails : (st.readings st.ticks).fails = true →
      post (.error .unavailable) (st.tick 1)) :
    Ensures (createGoogleIdentity draw identity userId) post st := by
  refine ensures_external_at (fun hanswers => ?_) hfails
  exact ensures_commit hinsert (htaken hanswers)

theorem linkStatement_spec
    {post : Except Failure Unit → ServiceState → Prop}
    (hinsert : ∀ now after,
      findByProvider st.db "google" identity.providerSubject = none →
      insertGoogle draw identity userId now st.db = some after →
      post (.ok ()) ((st.tick 1).withDb after))
    (hlinked : (st.readings st.ticks).fails = false →
      findByProvider st.db "google" identity.providerSubject ≠ none →
      post (.error
        (.uniqueViolation "external_identities_provider_subject_key"))
        (st.tick 1))
    (hkey : findByProvider st.db "google" identity.providerSubject = none →
      post (.error (.uniqueViolation "external_identities_pkey")) (st.tick 1))
    (hfails : (st.readings st.ticks).fails = true →
      post (.error .unavailable) (st.tick 1)) :
    Ensures (GooglePhase.linkStatement draw identity userId) post st := by
  unfold Ensures
  rw [GooglePhase.linkStatement]
  by_cases hfree : findByProvider st.db "google" identity.providerSubject = none
  · by_cases hused : (st.db.externalIdentities.rows.any fun row =>
        row.id == draw.identityId) = true
    · rw [if_pos ⟨hused, hfree⟩]
      exact ensures_external_at (fun _ => hkey hfree) hfails
    · rw [if_neg fun hboth => hused hboth.1]
      apply createGoogleIdentity_spec
      · exact fun after hafter => hinsert _ after hfree hafter
      · intro _ hnone
        obtain ⟨after, hafter, -⟩ := insertGoogle_of_fresh hfree
          fun row hrow hsame => hused (List.any_eq_true.mpr
            ⟨row, hrow, beq_iff_eq.mpr hsame⟩)
        rw [hafter] at hnone
        cases hnone
      · exact hfails
  · rw [if_neg fun hboth => hfree hboth.2]
    apply createGoogleIdentity_spec
    · intro after hafter
      rw [insertGoogle, IdentityRepository.insertIdentity] at hafter
      obtain ⟨hnone, -⟩ := Option.ite_none_left_eq_some.mp hafter
      exact absurd (Option.not_isSome_iff_eq_none.mp hnone) hfree
    · exact fun hanswers _ => hlinked hanswers hfree
    · exact hfails

end Link

/-- A phase that only looks: the accounts stay, and the next phase is in
order. -/
def Looks (input : GoogleLoginInput)
    (draw : GoogleLoginDraw) (st : ServiceState) : Except Failure GooglePhase →
      ServiceState → Prop :=
  fun outcome after => after.accountRows = st.accountRows ∧
    ∀ next, outcome = .ok next →
      (AccountThread.google input draw next).Facts st.db ∧
        (AccountThread.google input draw next).keys = []

theorem looks_spec {input : GoogleLoginInput} {draw : GoogleLoginDraw}
    {phase : GooglePhase} (hsound : AccountsSound st.db)
    (hlooks : Ensures (phase.next env input draw)
      (Looks input draw st) st) :
    Ensures ((AccountThread.google input draw phase).next env)
      (fun outcome after =>
        StepResult (.google input draw phase) st.db after.db outcome) st := by
  apply hlooks.bind
  · rintro next after ⟨hsame, hnext⟩
    obtain ⟨hfacts, hkeys⟩ := hnext next rfl
    have hlater : RowsLater [] st.db after.db := .of_same hsame
    exact .of_ok hsound hsame (hfacts.later hlater (List.disjoint_nil_left _))
      hkeys
  · rintro error after ⟨hsame, -⟩
    exact .of_error hsound hsame

section Looks

variable {input : GoogleLoginInput} {draw : GoogleLoginDraw}

theorem looks_error {error : Failure} {after : ServiceState}
    (hsame : after.db = st.db) : Looks input draw st (.error error) after :=
  ⟨rows_of_db hsame, nofun⟩

theorem looks_ok {next : GooglePhase} {after : ServiceState}
    (hsame : after.accountRows = st.accountRows)
    (hfacts : (AccountThread.google input draw next).Facts st.db)
    (hkeys : (AccountThread.google input draw next).keys = []) :
    Looks input draw st (.ok next) after := by
  refine ⟨hsame, fun other hother => ?_⟩
  cases hother
  exact ⟨hfacts, hkeys⟩

theorem looks_readingConfig :
    Ensures (GooglePhase.readingConfig.next env input draw)
      (Looks input draw st) st := by
  apply ensures_ite
  · exact fun _ => looks_error rfl
  · intro _
    apply (ensures_select getSocialLoginConfig st).bind
    · rintro socialConfig after ⟨hsame, -⟩
      apply ensures_ite
      · exact fun _ => looks_ok (rows_of_db hsame) trivial rfl
      · exact fun _ => looks_error hsame
    · rintro error after ⟨hsame, -⟩
      exact looks_error hsame

theorem looks_verifying (clientId : String) :
    Ensures ((GooglePhase.verifying clientId).next env input draw)
      (Looks input draw st) st := by
  have hverify : Ensures (verifyIdToken env clientId input.idToken)
      (fun _ after => after.db = st.db) st := rfl
  apply hverify.bind
  · intro payload after hsame
    cases identityOfPayload env payload with
    | none => exact looks_error hsame
    | some identity => exact looks_ok (rows_of_db hsame) trivial rfl
  · exact fun error after hsame => looks_error hsame

theorem looks_findingIdentity (identity : GoogleIdentity) :
    Ensures ((GooglePhase.findingIdentity identity).next env input draw)
      (Looks input draw st) st := by
  apply (ensures_select (fun db =>
    findByProvider db "google" identity.providerSubject) st).bind
  · rintro found after ⟨hsame, hfound⟩
    have hread := hfound found rfl
    cases found with
    | none => exact looks_ok (rows_of_db hsame) trivial rfl
    | some existing =>
        obtain ⟨hmem, hwhere⟩ := Table.mem_of_first? hread.symm
        rw [Bool.and_eq_true] at hwhere
        exact looks_ok (rows_of_db hsame) ⟨existing, hmem,
          eq_of_beq hwhere.1, eq_of_beq hwhere.2, rfl⟩ rfl
  · rintro error after ⟨hsame, -⟩
    exact looks_error hsame

theorem looks_findingUser (identity : GoogleIdentity) :
    Ensures ((GooglePhase.findingUser identity).next env input draw)
      (Looks input draw st) st := by
  apply (ensures_select (fun db => findByEmail db identity.email) st).bind
  · rintro found after ⟨hsame, hfound⟩
    have hread := hfound found rfl
    rcases found with _ | ⟨userEmail, user⟩
    · refine looks_ok (rows_of_db hsame) ⟨nofun, ?_⟩ rfl
      exact fun email hemail => by cases hemail
    · obtain ⟨-, huser, -⟩ := findByEmail_eq_some hread.symm
      apply ensures_ite
      · exact fun _ => looks_error hsame
      · exact fun _ => looks_ok (rows_of_db hsame) ⟨user, huser, rfl⟩ rfl
  · rintro error after ⟨hsame, -⟩
    exact looks_error hsame

theorem looks_finishing {identity : GoogleIdentity} {userId : String}
    (hlinked : Linked st.db identity userId) :
    Ensures ((GooglePhase.finishing identity userId).next env input draw)
      (Looks input draw st) st := by
  have hlogin : Ensures (loginGoogleUser env input draw.session identity userId)
      (fun _ after => after.accountRows = st.accountRows) st :=
    (frame_keepsTable (frame_loginGoogleUser env input draw.session identity
      userId) AccountDb.accountRows fun _ => rfl) st
  apply hlogin.bind
  · exact fun _ after hsame => looks_ok hsame hlinked rfl
  · exact fun error after hsame => ⟨hsame, nofun⟩

end Looks

theorem google_spec {input : GoogleLoginInput} {draw : GoogleLoginDraw}
    {phase : GooglePhase} (hsound : AccountsSound st.db)
    (hfacts : (AccountThread.google input draw phase).Facts st.db) :
    Ensures ((AccountThread.google input draw phase).next env)
      (fun outcome after =>
        StepResult (.google input draw phase) st.db after.db outcome) st := by
  cases phase with
  | readingConfig => exact looks_spec hsound looks_readingConfig
  | verifying clientId => exact looks_spec hsound (looks_verifying clientId)
  | findingIdentity identity =>
      exact looks_spec hsound (looks_findingIdentity identity)
  | findingUser identity => exact looks_spec hsound (looks_findingUser identity)
  | inserting identity phase =>
      have hstatement : Ensures
          ((GooglePhase.inserting identity phase).next env input draw)
          (fun outcome after =>
            StepResult (.google input draw (.inserting identity phase)) st.db
              after.db (outcome.map (AccountThread.google input draw))) st := by
        apply (NewAccount.statement_spec hfacts.1).bind
        · rintro next after ⟨-, hok⟩
          have hstep := hok next rfl
          split
          case h_1 =>
            exact .of_insert rfl hsound hstep hstep.committed.2
              (List.nil_subset _)
          case h_2 hopen =>
            exact .of_insert rfl hsound hstep (hstep.insertOk hfacts hopen)
              (List.Subset.refl _)
        · rintro error after ⟨herror, -⟩
          exact .of_error hsound (rows_of_db (herror error rfl))
      apply hstatement.bind
      · exact fun next after hstep => hstep
      · exact fun error after hstep => hstep
  | linking identity userId =>
      have hlink : Ensures
          ((GooglePhase.linking identity userId).next env input draw)
          (fun outcome after =>
            StepResult (.google input draw (.linking identity userId)) st.db
              after.db (outcome.map (AccountThread.google input draw))) st := by
        have hstatement : Ensures
            (GooglePhase.linkStatement draw identity userId)
            (fun outcome after =>
              StepResult (.google input draw (.linking identity userId)) st.db
                after.db (outcome.map fun _ =>
                  .google input draw (.finishing identity userId))) st := by
          apply linkStatement_spec
          · exact fun now after _ hinsert => .of_link hsound hfacts hinsert
          · exact fun _ _ => .of_error hsound rfl
          · exact fun _ => .of_error hsound rfl
          · exact fun _ => .of_error hsound rfl
        apply hstatement.bind
        · exact fun _ after hstep => hstep
        · exact fun error after hstep => hstep
      apply hlink.bind
      · exact fun next after hstep => hstep
      · exact fun error after hstep => hstep
  | finishing identity userId => exact looks_spec hsound (looks_finishing hfacts)
  | done identity userId => exact .of_ok hsound rfl hfacts rfl

/-- A step of a call keeps the accounts sound. -/
theorem AccountThread.next_spec {thread : AccountThread}
    (hsound : AccountsSound st.db) (hfacts : thread.Facts st.db) :
    Ensures (thread.next env) (fun outcome after =>
      StepResult thread st.db after.db outcome) st := by
  rcases thread with ⟨request, phase⟩ | ⟨input, draw, phase⟩
  · exact signup_spec hsound hfacts
  · exact google_spec hsound hfacts

end Next

/-! ## Which errors are expected -/

section Expected

variable {env : GoogleEnv}

theorem throws_signup {request : SignupArgs} {phase : SignupPhase}
    (hphase : ∀ insertPhase, phase ≠ .inserting insertPhase) :
    Throws (phase.next env request) Failure.Expected := by
  cases phase with
  | finding =>
      apply (throws_select _).bind
      intro existing
      exact throws_ite (throws_api (by decide)) (throws_pure _)
  | inserting insertPhase => exact absurd rfl (hphase insertPhase)
  | creatingToken =>
      have htoken : Throws (VerificationRepository.createEmailToken
          env.toAuthEnv request.tokenDraw request.draw.userId
          (24 * 60 * 60 * 1000)) Failure.Expected := by
        apply throws_dateNow.bind
        intro issuedAt
        exact throws_external fun now => throws_commit (by decide)
      exact htoken.bind fun _ => throws_pure _
  | done => exact throws_pure _

theorem throws_google {input : GoogleLoginInput} {draw : GoogleLoginDraw}
    {phase : GooglePhase}
    (hinserting : ∀ identity insertPhase,
      phase ≠ .inserting identity insertPhase)
    (hlinking : ∀ identity userId, phase ≠ .linking identity userId) :
    Throws (phase.next env input draw) Failure.Expected := by
  cases phase with
  | readingConfig =>
      apply throws_ite (throws_api (by decide))
      apply (throws_select _).bind
      intro socialConfig
      exact throws_ite (throws_pure _) (throws_api (by decide))
  | verifying clientId =>
      have hverify : Throws (verifyIdToken env clientId input.idToken)
          Failure.Expected := nofun
      apply hverify.bind
      intro payload
      cases identityOfPayload env payload with
      | none => exact throws_api (by decide)
      | some identity => exact throws_pure _
  | findingIdentity identity =>
      apply (throws_select _).bind
      intro existing
      cases existing with
      | none => exact throws_pure _
      | some existing => exact throws_pure _
  | findingUser identity =>
      apply (throws_select _).bind
      intro existing
      rcases existing with _ | ⟨userEmail, user⟩
      · exact throws_pure _
      · exact throws_ite (throws_api (by decide)) (throws_pure _)
  | inserting identity insertPhase =>
      exact absurd rfl (hinserting identity insertPhase)
  | linking identity userId => exact absurd rfl (hlinking identity userId)
  | finishing identity userId =>
      exact (throws_loginGoogleUser env input draw.session identity userId).bind
        fun _ => throws_pure _
  | done identity userId => exact throws_pure _

theorem expected_link_iff {draw : GoogleLoginDraw} {identity : GoogleIdentity}
    {userId : String} {st : ServiceState} :
    (∀ error, (GooglePhase.linkStatement draw identity userId st).1 =
        .error error → error.Expected) ↔
      ((st.readings st.ticks).fails = false →
        findByProvider st.db "google" identity.providerSubject = none) := by
  have hspec : Ensures (GooglePhase.linkStatement draw identity userId)
      (fun outcome _ => (∀ error, outcome = .error error → error.Expected) ↔
        ((st.readings st.ticks).fails = false →
          findByProvider st.db "google" identity.providerSubject = none))
      st := by
    apply linkStatement_spec
    · exact fun now after hfree _ => iff_of_true nofun fun _ => hfree
    · intro hanswers hlinked
      refine iff_of_false (fun hall => ?_) fun hfree =>
        hlinked (hfree hanswers)
      exact (hall _ rfl).2 rfl
    · intro hfree
      exact iff_of_true (expected_error (by decide)) fun _ => hfree
    · intro hfails
      refine iff_of_true (expected_error trivial) fun hanswers => ?_
      rw [hfails] at hanswers
      cases hanswers
  exact hspec

theorem insertsFree_iff (store : AccountStore) {thread : AccountThread}
    {account : NewAccount} {phase : InsertPhase}
    (hinserting : thread.inserting = some (account, phase)) :
    InsertsFree store thread () ↔
      ((store.service.readings store.service.ticks).fails = false →
        ∀ startedAt, phase = .insertingEmail startedAt →
          ∀ row ∈ store.service.db.userEmails, row.email ≠ account.email) := by
  unfold InsertsFree
  apply imp_congr_right
  intro _
  split
  case h_1 => cases hinserting
  case h_2 =>
    rw [hinserting]
    constructor
    · rintro hfree startedAt rfl
      exact hfree account startedAt rfl
    · intro hfree other startedAt hother
      obtain ⟨rfl, rfl⟩ := Prod.mk.inj (Option.some.inj hother)
      exact hfree startedAt rfl

theorem expected_signup_iff (store : AccountStore) (request : SignupArgs)
    (phase : SignupPhase) :
    (∀ error, (phase.next env request store.service).1 = .error error →
        error.Expected) ↔
      InsertsFree store (.signup request phase) () := by
  cases phase with
  | inserting insertPhase =>
      refine (throws_bind_iff (fun next => ?_) _).trans
        ((expected_statement_iff _ _ _).trans
          (insertsFree_iff store rfl).symm)
      cases next <;> exact throws_pure _
  | finding | creatingToken | done =>
      refine iff_of_true (throws_signup (fun insertPhase hphase => ?_) _) ?_
      · cases hphase
      · exact fun _ account startedAt hinserting => by cases hinserting

theorem expected_google_iff (store : AccountStore) (input : GoogleLoginInput)
    (draw : GoogleLoginDraw) (phase : GooglePhase) :
    (∀ error, (phase.next env input draw store.service).1 = .error error →
        error.Expected) ↔
      InsertsFree store (.google input draw phase) () := by
  cases phase with
  | inserting identity insertPhase =>
      refine (throws_bind_iff (fun next => ?_) _).trans
        ((expected_statement_iff _ _ _).trans
          (insertsFree_iff store rfl).symm)
      cases next <;> exact throws_pure _
  | linking identity userId =>
      exact (throws_bind_iff (fun _ => throws_pure _) _).trans
        expected_link_iff
  | readingConfig | verifying | findingIdentity | findingUser | finishing
  | done =>
      refine iff_of_true (throws_google (fun _ _ hphase => ?_)
        (fun _ _ hphase => ?_) _) ?_
      · cases hphase
      · cases hphase
      · exact fun _ account startedAt hinserting => by cases hinserting

/-- A step ends in an unclassified error exactly where an insert finds its
address, or its Google subject, taken. -/
theorem expected_next_iff (store : AccountStore) (thread : AccountThread) :
    (∀ error, (thread.next env store.service).1 = .error error →
        error.Expected) ↔ InsertsFree store thread () := by
  rcases thread with ⟨request, phase⟩ | ⟨input, draw, phase⟩
  · exact (throws_bind_iff (fun _ => throws_pure _) _).trans
      (expected_signup_iff store request phase)
  · exact (throws_bind_iff (fun _ => throws_pure _) _).trans
      (expected_google_iff store input draw phase)

end Expected

/-! ## Every interleaving -/

/-- The addresses that threads have inserted are pending, and are those of one
thread each. -/
def accountInvariant : Invariant AccountStore AccountThread where
  SharedOk store := AccountsSound store.service.db ∧
    ∀ result ∈ store.ended, result.Fine store.service.db ∨
      ∃ error, result = .threw error
  ThreadOk store thread :=
    thread.keys ⊆ store.pending ∧ thread.Facts store.service.db
  Apart left right := left.keys.Disjoint right.keys

theorem AccountThread.Facts.fine {thread : AccountThread} {db : AccountDb}
    {result : CallEnd} (hfacts : thread.Facts db)
    (hended : thread.ended = some result) : result.Fine db := by
  rcases thread with ⟨request, phase⟩ | ⟨input, draw, phase⟩
  · cases phase with
    | done =>
        cases hended
        exact hfacts
    | finding | inserting | creatingToken => cases hended
  · cases phase with
    | done identity userId =>
        cases hended
        exact hfacts
    | readingConfig | verifying | findingIdentity | findingUser | inserting
    | linking | finishing => cases hended

section Races

variable {env : GoogleEnv} {store after : AccountStore}
  {thread : AccountThread} {next : Option AccountThread}

/-- The keys of the other transactions. -/
def AccountStore.others (store : AccountStore) (thread : AccountThread) :
    List String :=
  store.pending.filter fun email => email ∉ thread.keys

theorem keys_others {other : AccountThread}
    (hother : other.keys ⊆ store.pending)
    (hapart : thread.keys.Disjoint other.keys) :
    other.keys ⊆ store.others thread := by
  intro email hemail
  refine List.mem_filter.mpr ⟨hother hemail, decide_eq_true ?_⟩
  exact fun hmover => hapart hmover hemail

/-- What an advance comes to. -/
theorem AccountStore.advance_some
    (hadvance : store.advance env thread = some (after, next)) :
    thread.waits (store.others thread) = false ∧
      after.service = (thread.next env store.service).2 ∧
      ((∃ error, (thread.next env store.service).1 = .error error ∧
          next = none ∧ after.pending = store.others thread ∧
          after.ended = store.ended ++ [CallEnd.threw error]) ∨
        ∃ following, (thread.next env store.service).1 = .ok following ∧
          ((∃ result, following.ended = some result ∧ next = none ∧
              after.pending = store.others thread ∧
              after.ended = store.ended ++ [result]) ∨
            next = some following ∧
              after.pending = following.keys ++ store.others thread ∧
              after.ended = store.ended)) := by
  unfold AccountStore.advance at hadvance
  obtain ⟨hwaits, hstep⟩ := Option.ite_none_left_eq_some.mp hadvance
  rw [Bool.not_eq_true] at hwaits
  refine ⟨hwaits, ?_⟩
  rcases hnext : thread.next env store.service with
    ⟨error | following, service⟩
  · rw [hnext] at hstep
    cases hstep
    exact ⟨rfl, .inl ⟨error, rfl, rfl, rfl, rfl⟩⟩
  · rw [hnext] at hstep
    dsimp only at hstep
    split at hstep
    case h_1 result hended =>
      cases hstep
      exact ⟨rfl, .inr ⟨following, rfl, .inl ⟨result, hended, rfl, rfl, rfl⟩⟩⟩
    case h_2 =>
      cases hstep
      exact ⟨rfl, .inr ⟨following, rfl, .inr ⟨rfl, rfl, rfl⟩⟩⟩

/-- The results so far stay, and a new one is fine if it is none of an
error. -/
theorem ended_later {results : List CallEnd} {before db : AccountDb}
    {keys : List String}
    (hended : ∀ result ∈ results, result.Fine before ∨
      ∃ error, result = .threw error)
    (hlater : RowsLater keys before db) :
    ∀ result ∈ results, result.Fine db ∨ ∃ error, result = .threw error := by
  intro result hresult
  rcases hended result hresult with hfine | herror
  · exact .inl (hfine.later hlater)
  · exact .inr herror

theorem ended_append {results : List CallEnd} {db : AccountDb}
    {last : CallEnd}
    (hended : ∀ result ∈ results, result.Fine db ∨
      ∃ error, result = .threw error)
    (hlast : last.Fine db ∨ ∃ error, last = .threw error) :
    ∀ result ∈ results ++ [last], result.Fine db ∨
      ∃ error, result = .threw error := by
  intro result hresult
  rcases List.mem_append.mp hresult with hold | hnew
  · exact hended result hold
  · rw [List.mem_singleton.mp hnew]
    exact hlast

theorem keeps_account (hshared : accountInvariant.SharedOk store)
    (hthread : accountInvariant.ThreadOk store thread)
    (hadvance : store.advance env thread = some (after, next)) :
    accountInvariant.Keeps store thread after next := by
  obtain ⟨hwaits, hservice, hcases⟩ := AccountStore.advance_some hadvance
  have hstep : StepResult thread store.service.db
      (thread.next env store.service).2.db
      (thread.next env store.service).1 :=
    AccountThread.next_spec hshared.1 hthread.2
  rw [← hservice] at hstep
  have hpending : store.others thread ⊆ after.pending := by
    rcases hcases with ⟨error, -, -, hpending, -⟩ |
      ⟨following, -, ⟨result, -, -, hpending, -⟩ | ⟨-, hpending, -⟩⟩
    · rw [hpending]
      exact List.Subset.refl _
    · rw [hpending]
      exact List.Subset.refl _
    · rw [hpending]
      exact List.subset_append_right _ _
  have hold := ended_later hshared.2 hstep.later
  constructor
  · refine ⟨hstep.sound, ?_⟩
    rcases hcases with ⟨error, -, -, -, hended⟩ |
      ⟨later, hok, ⟨result, hresult, -, -, hended⟩ | ⟨-, -, hended⟩⟩
    · rw [hended]
      exact ended_append hold (.inr ⟨error, rfl⟩)
    · rw [hended]
      exact ended_append hold (.inl ((hstep.facts later hok).fine hresult))
    · rw [hended]
      exact hold
  · intro other hother
    rcases hcases with ⟨error, -, hnone, -⟩ |
      ⟨following, hok, ⟨result, -, hnone, -⟩ | ⟨hsome, hkeys, -⟩⟩
    · cases hnone.symm.trans hother
    · cases hnone.symm.trans hother
    · cases hsome.symm.trans hother
      refine ⟨?_, hstep.facts _ hok⟩
      rw [hkeys]
      exact List.subset_append_left _ _
  · rintro other ⟨hkeys, hfacts⟩ hapart
    exact ⟨List.Subset.trans (keys_others hkeys hapart) hpending,
      hfacts.later hstep.later hapart⟩
  · intro following hfollowing other hother hapart
    have hok : (thread.next env store.service).1 = .ok following := by
      rcases hcases with ⟨error, -, hnone, -⟩ |
        ⟨later, hok, ⟨result, -, hnone, -⟩ | ⟨hsome, -⟩⟩
      · cases hnone.symm.trans hfollowing
      · cases hnone.symm.trans hfollowing
      · cases hsome.symm.trans hfollowing
        exact hok
    have hdisjoint : following.keys.Disjoint other.keys := by
      intro email hemail hin
      rcases hstep.keys following hok email hemail with
        hmover | ⟨account, startedAt, hinserting, rfl⟩
      · exact hapart hmover hin
      · -- it does not wait, so that nobody has inserted its address
        rw [AccountThread.waits, hinserting] at hwaits
        exact of_decide_eq_false hwaits (keys_others hother.1 hapart hin)
    exact ⟨hdisjoint, List.Disjoint.symm hdisjoint⟩

theorem account_inductive :
    accountInvariant.Inductive (accountProgram env) fun _ _ _ => True where
  start store call hshared := by
    have hkeys : ((accountProgram env).start call).keys = [] := by
      cases call with
      | signup request => rfl
      | loginWithGoogle input draw => rfl
    have hfacts : ((accountProgram env).start call).Facts store.service.db := by
      cases call with
      | signup request => trivial
      | loginWithGoogle input draw => trivial
    refine ⟨⟨?_, hfacts⟩, fun other => ⟨?_, ?_⟩⟩
    · rw [hkeys]
      exact List.nil_subset _
    · change List.Disjoint _ _
      rw [hkeys]
      exact List.disjoint_nil_left _
    · change List.Disjoint _ _
      rw [hkeys]
      exact List.disjoint_nil_right _
  advance store thread _ after next hshared hthread _ hadvance :=
    keeps_account hshared hthread hadvance
  abort store thread hshared hthread := by
    constructor
    · exact hshared
    · exact fun following hfollowing => by cases hfollowing
    · rintro other ⟨hkeys, hfacts⟩ hapart
      exact ⟨keys_others hkeys hapart, hfacts⟩
    · exact fun following hfollowing => by cases hfollowing
  environment store event := nomatch event

/-- A step leads on to sound accounts and fine results exactly where its
insert does. -/
theorem sound_advance_iff (hshared : accountInvariant.SharedOk store)
    (hthread : accountInvariant.ThreadOk store thread) (hsound : store.Sound)
    (hadvance : store.advance env thread = some (after, next)) :
    after.Sound ↔ InsertsFree store thread () := by
  have hexpected : (∀ error,
      (thread.next env store.service).1 = .error error → error.Expected) ↔
      InsertsFree store thread () := expected_next_iff store thread
  rw [← hexpected]
  obtain ⟨-, hservice, hcases⟩ := AccountStore.advance_some hadvance
  have hstep : StepResult thread store.service.db
      (thread.next env store.service).2.db
      (thread.next env store.service).1 :=
    AccountThread.next_spec hshared.1 hthread.2
  rw [← hservice] at hstep
  have hold : ∀ result ∈ store.ended, result.Fine after.service.db :=
    fun result hresult => (hsound.ended result hresult).later hstep.later
  rcases hcases with ⟨error, hrun, -, -, hended⟩ |
    ⟨following, hrun, hcases⟩
  · rw [hrun]
    constructor
    · intro hafter other hother
      cases hother
      refine hafter.ended (.threw error) ?_
      rw [hended]
      exact List.mem_append_right _ (List.mem_singleton_self _)
    · intro hexpected
      refine ⟨hstep.sound, fun result hresult => ?_⟩
      rw [hended, List.mem_append, List.mem_singleton] at hresult
      rcases hresult with hresult | rfl
      · exact hold result hresult
      · exact hexpected error rfl
  · rw [hrun]
    refine iff_of_true ⟨hstep.sound, ?_⟩ nofun
    rcases hcases with ⟨last, hlast, -, -, hended⟩ | ⟨-, -, hended⟩
    · intro result hresult
      rw [hended, List.mem_append, List.mem_singleton] at hresult
      rcases hresult with hresult | rfl
      · exact hold result hresult
      · exact (hstep.facts following hrun).fine hlast
    · rw [hended]
      exact hold

/-- Under every interleaving the accounts stay sound, and every call ends as
it may, exactly as long as no insert comes after the one that won. -/
theorem accountRaces_sound_iff {service : ServiceState}
    (hservice : AccountsSound service.db)
    {last : Pool AccountStore AccountThread Nat}
    {actions : List (Interleaving.Action AccountCall Unit Empty Nat)}
    (hrun : StepSystem.run (Interleaving.step (accountProgram env))
      (Pool.start ⟨service, [], []⟩) actions = some last) :
    StepSystem.Throughout (Interleaving.step (accountProgram env))
        (fun pool => pool.shared.Sound) (Pool.start ⟨service, [], []⟩)
        actions ↔
      StepSystem.Along (Interleaving.step (accountProgram env))
        (Meets InsertsFree) (Pool.start ⟨service, [], []⟩) actions := by
  refine account_inductive.throughout_iff ?_ ?_ ?_ (Invariant.holds_start ?_) ?_
    hrun
  · exact fun store thread _ after next hshared hthread hsound hadvance =>
      sound_advance_iff hshared hthread hsound hadvance
  · exact fun store thread _ _ hsound => ⟨hsound.accounts, hsound.ended⟩
  · exact fun _ event => nomatch event
  · exact ⟨hservice, nofun⟩
  · exact ⟨hservice, nofun⟩

end Races

/-! ## Two signups with one address -/

namespace AccountRaceWitness

open GoogleWitness

/-- No account yet, and nothing fails. -/
def service : ServiceState :=
  init.service

theorem accountsSound_service : AccountsSound service.db :=
  ⟨nofun, nofun, nofun⟩

def signupCall (draw : UserRepository.UserDraw)
    (tokenDraw : VerificationRepository.TokenDraw) : AccountCall :=
  .signup ⟨draw, tokenDraw, "owner@example.com",
    "$argon2id$v=19$m=65536,t=3,p=4$c2FsdA$aGFzaA"⟩

def firstSignup : AccountCall :=
  signupCall ⟨"user-1", "email-1"⟩ ⟨"token-1", verificationToken⟩

def secondSignup : AccountCall :=
  signupCall ⟨"user-2", "email-2"⟩ ⟨"token-2", accessToken⟩

abbrev Actions : Type :=
  List (Interleaving.Action AccountCall Unit Empty Nat)

/-- Statements of one call. -/
def through (id : Nat) (statements : Nat) : Actions :=
  List.replicate statements (.advance id ())

abbrev start : Pool AccountStore AccountThread Nat :=
  Pool.start ⟨service, [], []⟩

def after (actions : Actions) : Pool AccountStore AccountThread Nat :=
  StepSystem.after (Interleaving.step (accountProgram env)) start actions

/-- A Google login looks for the account while the signup inserts it, and
links it. -/
def inTurn : Actions :=
  [.spawn 0 firstSignup, .spawn 1 (.loginWithGoogle googleInput googleDraw)] ++
    through 0 2 ++ through 1 2 ++ through 0 3 ++ through 1 4 ++ through 0 1

/-- Evaluates the condition. -/
def checkFree (store : AccountStore) (thread : AccountThread) (_ : Unit) :
    Bool :=
  (match thread with
    | .google _ _ (.linking identity _) =>
        (findByProvider store.service.db "google"
          identity.providerSubject).isNone
    | _ => true) &&
    match thread.inserting with
    | some (account, .insertingEmail _) =>
        store.service.db.userEmails.rows.all fun row =>
          row.email != account.email
    | _ => true

theorem insertsFree_of_check (store : AccountStore) (thread : AccountThread)
    (input : Unit) (hcheck : checkFree store thread input = true) :
    InsertsFree store thread input := by
  intro _
  unfold checkFree at hcheck
  rw [Bool.and_eq_true] at hcheck
  obtain ⟨hlink, hinsert⟩ := hcheck
  have hfree : ∀ account startedAt,
      thread.inserting = some (account, .insertingEmail startedAt) →
        ∀ row ∈ store.service.db.userEmails, row.email ≠ account.email := by
    intro account startedAt hinserting row hrow hsame
    rw [hinserting] at hinsert
    have hother := List.all_eq_true.mp hinsert row hrow
    exact absurd hsame (bne_iff_ne.mp hother)
  rcases thread with ⟨request, phase⟩ | ⟨input, draw, phase⟩
  · exact hfree
  · cases phase with
    | linking identity userId => exact Option.isNone_iff_eq_none.mp hlink
    | readingConfig | verifying | findingIdentity | findingUser | inserting
    | finishing | done => exact hfree

theorem sound_inTurn :
    StepSystem.Throughout (Interleaving.step (accountProgram env))
      (fun pool => pool.shared.Sound) start inTurn := by
  have hrun : StepSystem.run (Interleaving.step (accountProgram env)) start
      inTurn = some (after inTurn) :=
    StepSystem.run_after _ (by decide +kernel)
  exact (accountRaces_sound_iff accountsSound_service hrun).mpr
    (StepSystem.along_of_check _ (meets_of_check insertsFree_of_check)
      (by decide +kernel))

/-- Both signups find no account before either inserts one. -/
def together : Actions :=
  [.spawn 0 firstSignup, .spawn 1 secondSignup] ++ through 0 1 ++
    through 1 1 ++ through 0 4 ++ through 1 2

theorem not_soundRaces :
    ¬ ∀ (env : GoogleEnv) (service : ServiceState),
      AccountsSound service.db → ∀ (actions : Actions)
      (last : Pool AccountStore AccountThread Nat),
      StepSystem.run (Interleaving.step (accountProgram env))
        (Pool.start ⟨service, [], []⟩) actions = some last →
      last.shared.Sound := by
  intro hclaim
  have hsound := hclaim env service accountsSound_service together
    (after together) (StepSystem.run_after _ (by decide +kernel))
  have hthrew : CallEnd.threw (.uniqueViolation "user_emails_email_key") ∈
      (after together).shared.ended := by
    have hended : (after together).shared.ended =
        [.threw (.uniqueViolation "user_emails_email_key")] := by
      rfl
    rw [hended]
    exact List.mem_singleton_self _
  exact (hsound.ended _ hthrew).1 rfl

end AccountRaceWitness

end IdProvider
