/-
From the request of a password reset to the login after it: which password the
login accepts.
-/
import IdProvider.TokenConfirmation

namespace IdProvider

open KeyedTable ServiceCall AuthService

/-- The constraint `user_emails_email_key`. -/
def EmailsUnique (db : AccountDb) : Prop :=
  (db.userEmails.rows.map UserEmail.email).Nodup

/-! ## The password check of a login -/

/-- A login reads a stored hash that its password verifies against. -/
def PassesPasswordCheck (env : LoginEnv) (st : ServiceState)
    (input : LoginInput) : Prop :=
  ∃ found, findWithPasswordByEmail st.db input.email = some found ∧
    verifyPassword env.argon2Verify input.password
      found.password.passwordHash = true

section Check

variable {env : LoginEnv} {st : ServiceState} {input : LoginInput}

theorem tick_tick (st : ServiceState) (first second : Nat) :
    (st.tick first).tick second = st.tick (first + second) := by
  simp [ServiceState.tick, Nat.add_assoc]

theorem verifyPassword_of_answers (env : LoginEnv)
    (password storedHash : String)
    (hanswers : (st.readings st.ticks).fails = false) :
    ∃ count, Service.verifyPassword env password storedHash st =
      (.ok (verifyPassword env.argon2Verify password storedHash),
        st.tick count) := by
  unfold Service.verifyPassword verifyPassword
  by_cases hprefix : startsWith storedHash argon2Prefix = true
  · rw [if_pos hprefix, hprefix, Bool.true_and]
    exact ⟨1, external_of_answers hanswers⟩
  · rw [if_neg hprefix, Bool.eq_false_of_not_eq_true hprefix]
    exact ⟨0, rfl⟩

/-- What follows the password check, when nothing fails before it. -/
theorem login_eq (draw : SessionDraw)
    (hone : ¬ (given input.mfa.mfaCode = true ∧
      given input.mfa.mfaRecoveryCode = true))
    (hanswers : Answers st 0 2) :
    (PassesPasswordCheck env st input → ∃ found count,
        findWithPasswordByEmail st.db input.email = some found ∧
          login env input draw st =
            loginUser env input draw found.user (st.tick count)) ∧
      (¬ PassesPasswordCheck env st input → ∃ count,
        login env input draw st = rejectPassword input (st.tick count)) := by
  rw [answers_succ] at hanswers
  obtain ⟨hfirst, hrest⟩ := hanswers
  have hsecond : ((st.tick 1).readings (st.tick 1).ticks).fails = false :=
    (answers_succ.mp hrest).1
  have hselect : select (fun db => findWithPasswordByEmail db input.email) st =
      (.ok (findWithPasswordByEmail st.db input.email), st.tick 1) :=
    select_of_answers hfirst
  rw [login, if_neg hone, bind_ok hselect]
  rcases hfind : findWithPasswordByEmail st.db input.email with _ | found
  · refine ⟨?_, fun _ => ⟨1, rfl⟩⟩
    rintro ⟨found, hfound, -⟩
    rw [hfind] at hfound
    cases hfound
  · obtain ⟨count, hverify⟩ := verifyPassword_of_answers env input.password
      found.password.passwordHash hsecond
    dsimp only
    rw [bind_ok hverify, tick_tick]
    constructor
    · rintro ⟨other, hother, hvalid⟩
      rw [hfind, Option.some.injEq] at hother
      rw [hother, if_pos hvalid]
      exact ⟨other, 1 + count, rfl, rfl⟩
    · intro hfails
      rw [if_neg fun hvalid => hfails ⟨found, hfind, hvalid⟩]
      exact ⟨1 + count, rfl⟩

end Check

/-! ## A completed reset -/

section Reset

variable {env : GoogleEnv} {st after : ServiceState}

/-- The token of a new row belongs to no other user. -/
theorem insertPasswordToken_some {db stored : AccountDb}
    {row : PasswordResetToken}
    (hinsert : VerificationRepository.insertPasswordToken db row =
      some stored) :
    ∃ tokens, stored = { db with passwordResetTokens := tokens } ∧
      ∀ token ∈ tokens, token.tokenHash = row.tokenHash →
        token.userId = row.userId := by
  unfold VerificationRepository.insertPasswordToken at hinsert
  split at hinsert
  case isTrue => cases hinsert
  case isFalse hfresh =>
    rw [Option.map_eq_some_iff] at hinsert
    obtain ⟨tokens, htokens, rfl⟩ := hinsert
    refine ⟨tokens, rfl, fun token htoken hhash => ?_⟩
    rw [← mem_rows, (Table.insert?_eq_some htokens).2, List.mem_append,
      List.mem_singleton] at htoken
    rcases htoken with hold | rfl
    · refine absurd (List.any_eq_true.mpr ⟨token, hold, ?_⟩) hfresh
      exact beq_iff_eq.mpr hhash
    · rfl

theorem createPasswordToken_ok {draw : VerificationRepository.TokenDraw}
    {userId : String}
    (hcreate : VerificationRepository.createPasswordToken env.toAuthEnv draw
      userId st = (.ok (), after)) :
    ∃ tokens, after.db = { st.db with passwordResetTokens := tokens } ∧
      ∀ token ∈ tokens, token.tokenHash = env.hashOpaqueToken draw.token →
        token.userId = userId := by
  have hnow : dateNow st = (.ok (st.readings st.ticks).now, st.tick 1) := rfl
  rw [VerificationRepository.createPasswordToken, bind_ok hnow] at hcreate
  by_cases hanswers :
      ((st.tick 1).readings (st.tick 1).ticks).fails = false
  · unfold UserRepository.transaction at hcreate
    rw [external_of_answers hanswers] at hcreate
    unfold UserRepository.commit at hcreate
    split at hcreate
    case h_1 => cases hcreate
    case h_2 db hinsert =>
      cases hcreate
      exact insertPasswordToken_some hinsert
  · rw [Bool.not_eq_false] at hanswers
    unfold UserRepository.transaction at hcreate
    rw [external_of_fails hanswers] at hcreate
    cases hcreate

/-- A request that issues a token stores it for the user of the address. -/
theorem requestPasswordReset_some {draw : VerificationRepository.TokenDraw}
    {email token : String}
    (hrequest : requestPasswordReset env draw email st =
      (.ok (some token), after)) :
    token = draw.token ∧ ∃ userEmail user tokens,
      findByEmail st.db email = some (userEmail, user) ∧
      after.db = { st.db with passwordResetTokens := tokens } ∧
      ∀ stored ∈ tokens, stored.tokenHash = env.hashOpaqueToken token →
        stored.userId = user.id := by
  rw [requestPasswordReset] at hrequest
  by_cases hanswers : (st.readings st.ticks).fails = false
  · have hselect : findActiveByEmail email st = (.ok _, st.tick 1) :=
      select_of_answers hanswers
    rw [bind_ok hselect] at hrequest
    rcases hfind : findByEmail st.db email with _ | ⟨userEmail, user⟩
    · rw [hfind] at hrequest
      cases hrequest
    · rw [hfind] at hrequest
      dsimp only at hrequest
      by_cases hactive : user.status = .active
      · rw [if_pos hactive] at hrequest
        rcases hcreate : VerificationRepository.createPasswordToken
            env.toAuthEnv draw user.id (st.tick 1) with ⟨error | _, stored⟩
        · have hfails := (bind_error hcreate).symm.trans hrequest
          cases hfails
        · have hdone := (bind_ok hcreate).symm.trans hrequest
          cases hdone
          obtain ⟨tokens, hdb, howner⟩ := createPasswordToken_ok hcreate
          exact ⟨rfl, userEmail, user, tokens, rfl, hdb, howner⟩
      · rw [if_neg hactive] at hrequest
        cases hrequest
  · rw [Bool.not_eq_false] at hanswers
    have hselect : findActiveByEmail email st =
        (.error .unavailable, st.tick 1) := select_of_fails hanswers
    rw [bind_error hselect] at hrequest
    cases hrequest

theorem resetPassword_ok {passwordHash userId : String}
    (hreset : resetPassword passwordHash userId st = (.ok (), after)) :
    ∃ now, after.db =
      { st.db with
        toSessionDb := updatePassword st.db.toSessionDb now userId
          passwordHash } := by
  by_cases hfirst : (st.readings st.ticks).fails = false
  · have hhash : hashPassword passwordHash st =
        (.ok passwordHash, st.tick 1) := external_of_answers hfirst
    rw [resetPassword, bind_ok hhash] at hreset
    by_cases hsecond : ((st.tick 1).readings (st.tick 1).ticks).fails = false
    · rw [UserRepository.setPasswordHash, UserRepository.update,
        external_of_answers hsecond] at hreset
      cases hreset
      exact ⟨_, rfl⟩
    · rw [Bool.not_eq_false] at hsecond
      rw [UserRepository.setPasswordHash, UserRepository.update,
        external_of_fails hsecond] at hreset
      cases hreset
  · rw [Bool.not_eq_false] at hfirst
    have hhash : hashPassword passwordHash st =
        (.error .unavailable, st.tick 1) := external_of_fails hfirst
    rw [resetPassword, bind_error hhash] at hreset
    cases hreset

theorem confirmedUser_ok {passwordHash userId : String}
    (hrest : (do
      let active ← findActiveUser userId
      if active then resetPassword passwordHash userId
      else accountNotActive : Service Unit) st = (.ok (), after)) :
    ∃ now, after.db =
      { st.db with
        toSessionDb := updatePassword st.db.toSessionDb now userId
          passwordHash } := by
  by_cases hanswers : (st.readings st.ticks).fails = false
  · rw [bind_ok (findActiveUser_of_answers hanswers)] at hrest
    split at hrest
    case isTrue =>
      obtain ⟨now, hdb⟩ := resetPassword_ok hrest
      exact ⟨now, hdb⟩
    case isFalse => cases hrest
  · rw [Bool.not_eq_false] at hanswers
    rw [bind_error (findActiveUser_of_fails hanswers)] at hrest
    cases hrest

/-- A confirmation that returns has set the password of the token's user, if
that user has one. -/
theorem confirmPasswordReset_ok {token passwordHash : String}
    (hconfirm : confirmPasswordReset env token passwordHash st =
      (.ok (), after)) :
    ∃ row ∈ st.db.passwordResetTokens, ∃ now tokens,
      row.tokenHash = env.hashOpaqueToken token ∧
      after.db =
        { st.db with
          passwordResetTokens := tokens
          userPasswords := (updatePassword st.db.toSessionDb now row.userId
            passwordHash).userPasswords } := by
  rw [confirmPasswordReset_eq, confirmWith] at hconfirm
  by_cases hanswers : (st.readings st.ticks).fails = false
  · rw [bind_ok
      ((consumePasswordToken_consuming env st token).answers hanswers)]
      at hconfirm
    rcases hfirst : st.db.passwordResetTokens.first?
        (PasswordResetToken.isConsumable (st.readings st.ticks).now
          (env.hashOpaqueToken token)) with _ | row
    · rw [hfirst] at hconfirm
      cases hconfirm
    · rw [hfirst] at hconfirm
      obtain ⟨now, hdb⟩ := confirmedUser_ok hconfirm
      obtain ⟨hrow, hmatch⟩ := Table.mem_of_first? hfirst
      simp only [PasswordResetToken.isConsumable, Bool.and_eq_true,
        beq_iff_eq] at hmatch
      exact ⟨row, hrow, now, _, hmatch.1.1, hdb⟩
  · rw [Bool.not_eq_false] at hanswers
    have hconsume : VerificationRepository.consumeValidPasswordTokenByHash
        (env.hashOpaqueToken token) st = (.error .unavailable, st.tick 1) :=
      external_of_fails hanswers
    rw [bind_error hconsume] at hconfirm
    cases hconfirm

end Reset

/-! ## The login after it -/

/-- A login with an address of the user passes the check with this password
and no other. -/
def AcceptsOnly (env : LoginEnv) (st : ServiceState)
    (userId password : String) : Prop :=
  ∀ address ∈ st.db.userEmails, address.userId = userId →
    ∀ input : LoginInput, input.email = address.email →
      (PassesPasswordCheck env st input ↔ input.password = password)

def HasPassword (db : AccountDb) (userId : String) : Prop :=
  ∃ row ∈ db.userPasswords, row.userId = userId

section Login

variable {db : AccountDb}

theorem mem_updatePassword {sessionDb : SessionDb} {now : Instant}
    {userId passwordHash : String} {row : UserPassword} :
    row ∈ (updatePassword sessionDb now userId passwordHash).userPasswords ↔
      ∃ old ∈ sessionDb.userPasswords, row =
        if old.userId == userId then
          { old with passwordHash := passwordHash, updatedAt := now }
        else old := by
  rw [updatePassword, Table.mem_update]

/-- The password row that a login reads is the one of the user of the
address. -/
theorem findWithPasswordByEmail_of_unique (hunique : EmailsUnique db)
    {address : UserEmail} {user : User} (haddress : address ∈ db.userEmails)
    (huser : user ∈ db.users) (howner : address.userId = user.id) :
    (∀ found, findWithPasswordByEmail db address.email = some found →
      found.password ∈ db.userPasswords ∧
        found.password.userId = user.id) ∧
      ((findWithPasswordByEmail db address.email).isSome = true ↔
        HasPassword db user.id) := by
  have hfound : ∀ found,
      findWithPasswordByEmail db address.email = some found →
        found.password ∈ db.userPasswords ∧
          found.password.userId = user.id := by
    intro found hfind
    have hstored := stored_of_findWithPasswordByEmail hfind
    have hsame : found.userEmail = address :=
      List.inj_on_of_nodup_map hunique hstored.userEmail haddress
        hstored.email_eq
    refine ⟨hstored.password, ?_⟩
    rw [hstored.passwordOwner, ← hstored.emailOwner, hsame, howner]
  refine ⟨hfound, ?_⟩
  rw [Option.isSome_iff_exists]
  constructor
  · rintro ⟨found, hfind⟩
    exact ⟨found.password, hfound found hfind⟩
  · rintro ⟨row, hrow, hrowUser⟩
    rw [← Option.isSome_iff_exists, findWithPasswordByEmail, Option.isSome_map,
      List.find?_isSome]
    refine ⟨((address, user), row), ?_, beq_self_eq_true _⟩
    rw [mem_innerJoin, mem_innerJoin]
    exact ⟨⟨haddress, huser, beq_iff_eq.mpr howner⟩, hrow,
      beq_iff_eq.mpr hrowUser.symm⟩

/-- After a write of the user's password, a login is checked against the new
hash, and fails where there was no row to write to. -/
theorem acceptsOnly_of_updated {env : LoginEnv} {st : ServiceState}
    {now : Instant} {passwordHash password : String} {user : User}
    {owned : UserEmail} (hunique : EmailsUnique st.db)
    (huser : user ∈ st.db.users) (howned : owned ∈ st.db.userEmails)
    (howner : owned.userId = user.id)
    (hpasswords : st.db.userPasswords =
      (updatePassword db.toSessionDb now user.id passwordHash).userPasswords)
    (hhash : ∀ other, verifyPassword env.argon2Verify other passwordHash =
      true ↔ other = password) :
    AcceptsOnly env st user.id password ↔ HasPassword db user.id := by
  have hstored : HasPassword st.db user.id ↔ HasPassword db user.id := by
    unfold HasPassword
    rw [hpasswords]
    simp only [mem_updatePassword]
    constructor
    · rintro ⟨row, ⟨old, hold, rfl⟩, hrow⟩
      refine ⟨old, hold, ?_⟩
      split at hrow <;> exact hrow
    · rintro ⟨old, hold, hrow⟩
      refine ⟨_, ⟨old, hold, rfl⟩, ?_⟩
      split <;> exact hrow
  have hnew : ∀ row ∈ st.db.userPasswords, row.userId = user.id →
      row.passwordHash = passwordHash := by
    intro row hrow hrowUser
    rw [hpasswords] at hrow
    obtain ⟨old, -, rfl⟩ := mem_updatePassword.mp hrow
    split at hrowUser
    case isTrue hmatch => rw [if_pos hmatch]
    case isFalse hmatch =>
      exact absurd (beq_iff_eq.mpr hrowUser) hmatch
  rw [← hstored]
  constructor
  · intro haccepts
    let input : LoginInput :=
      { email := owned.email
        password := password
        ipAddress := none
        userAgent := none
        mfa := ⟨none, none, none⟩
        deviceId := none }
    obtain ⟨found, hfind, -⟩ :=
      (haccepts owned howned howner input rfl).mpr rfl
    exact ⟨found.password, (findWithPasswordByEmail_of_unique hunique howned
      huser howner).1 found hfind⟩
  · intro hpassword address haddress haddressOwner input hemail
    obtain ⟨hfound, hsome⟩ := findWithPasswordByEmail_of_unique hunique
      haddress huser haddressOwner
    obtain ⟨found, hfind⟩ := Option.isSome_iff_exists.mp (hsome.mpr hpassword)
    obtain ⟨hrow, hrowUser⟩ := hfound found hfind
    unfold PassesPasswordCheck
    rw [hemail, hfind]
    constructor
    · rintro ⟨other, hother, hvalid⟩
      cases hother
      rw [hnew _ hrow hrowUser] at hvalid
      exact (hhash input.password).mp hvalid
    · intro hsame
      refine ⟨found, rfl, ?_⟩
      rw [hnew _ hrow hrowUser]
      exact (hhash input.password).mpr hsame

end Login

/-- After a token was issued for a user and confirmed with a new password, the
logins of the user accept that password and no other exactly when the user had
a password before. -/
theorem acceptsOnly_reset_iff (env : GoogleEnv)
    (st issued last : ServiceState)
    (draw : VerificationRepository.TokenDraw)
    (email token password passwordHash : String) (userEmail : UserEmail)
    (user : User) (hunique : EmailsUnique st.db)
    (hfound : findByEmail st.db email = some (userEmail, user))
    (hhash : ∀ other, verifyPassword env.argon2Verify other passwordHash =
      true ↔ other = password)
    (hrequest : requestPasswordReset env draw email st =
      (.ok (some token), issued))
    (hconfirm : confirmPasswordReset env token passwordHash issued =
      (.ok (), last)) :
    AcceptsOnly env.toLoginEnv last user.id password ↔
      HasPassword st.db user.id := by
  obtain ⟨-, other, owner, tokens, hother, hissued, howner⟩ :=
    requestPasswordReset_some hrequest
  rw [hfound, Option.some.injEq, Prod.mk.injEq] at hother
  obtain ⟨rfl, rfl⟩ := hother
  obtain ⟨row, hrow, now, later, hhashRow, hlast⟩ :=
    confirmPasswordReset_ok hconfirm
  rw [hissued] at hrow hlast
  rw [howner row hrow hhashRow] at hlast
  obtain ⟨haddress, huser, hjoin, -⟩ := findByEmail_eq_some hfound
  have hemails : last.db.userEmails = st.db.userEmails := by rw [hlast]
  have husers : last.db.users = st.db.users := by rw [hlast]
  have hpasswords : last.db.userPasswords =
      (updatePassword st.db.toSessionDb now user.id
        passwordHash).userPasswords := by rw [hlast]; rfl
  rw [← hemails] at haddress
  rw [← husers] at huser
  refine acceptsOnly_of_updated ?_ huser haddress hjoin hpasswords hhash
  rwa [EmailsUnique, hemails]

namespace ResetWitness

open ConfirmationWitness

def env : GoogleEnv :=
  { ConfirmationWitness.env with
    argon2Verify := fun hash password =>
      hash == newHash && password == "battery staple" }

def user : User := ⟨"user-1", .active, none, none, none, 0⟩

def address : UserEmail :=
  ⟨"email-1", "user-1", "owner@example.com", true, true, 0⟩

/-- An account as a Google login creates it. -/
def withoutPassword : ServiceState :=
  GoogleWitness.init.service.withDb
    { GoogleWitness.init.service.db with
      users := ⟨[user], by simp⟩
      userEmails := ⟨[address], by simp⟩ }

def withPassword : ServiceState :=
  withoutPassword.withDb
    { withoutPassword.db with
      userPasswords := ⟨[⟨"user-1", "$argon2id$v=19$m=65536,t=3,p=4$c2FsdA$aGFzaA",
        0⟩], by simp⟩ }

def draw : VerificationRepository.TokenDraw := ⟨"reset-1", resetToken⟩

def issued (st : ServiceState) : ServiceState :=
  (requestPasswordReset env draw "owner@example.com" st).2

def confirmed (st : ServiceState) : ServiceState :=
  (confirmPasswordReset env resetToken newHash (issued st)).2

theorem verifies (other : String) :
    verifyPassword env.argon2Verify other newHash = true ↔
      other = "battery staple" := by
  have hprefix : startsWith newHash argon2Prefix = true := by decide
  rw [verifyPassword, hprefix, Bool.true_and]
  change (newHash == newHash && other == "battery staple") = true ↔ _
  rw [beq_self_eq_true, Bool.true_and, beq_iff_eq]

theorem acceptsOnly_withPassword :
    AcceptsOnly env.toLoginEnv (confirmed withPassword) user.id
      "battery staple" :=
  (acceptsOnly_reset_iff env withPassword (issued withPassword)
    (confirmed withPassword) draw "owner@example.com" resetToken
    "battery staple" newHash address user (List.nodup_singleton _)
    (by rfl) verifies (by rfl) (by rfl)).mpr ⟨_, List.mem_singleton_self _, rfl⟩

/-- The reset is confirmed, and no password opens the account. -/
theorem not_acceptsOnly :
    ¬ ∀ (env : GoogleEnv) (st issued last : ServiceState) draw email token
      password passwordHash userEmail user, EmailsUnique st.db →
      findByEmail st.db email = some (userEmail, user) →
      (∀ other, verifyPassword env.argon2Verify other passwordHash = true ↔
        other = password) →
      requestPasswordReset env draw email st = (.ok (some token), issued) →
      confirmPasswordReset env token passwordHash issued = (.ok (), last) →
      AcceptsOnly env.toLoginEnv last user.id password := by
  intro hclaim
  have haccepts := hclaim env withoutPassword (issued withoutPassword)
    (confirmed withoutPassword) draw "owner@example.com" resetToken
    "battery staple" newHash address user (List.nodup_singleton _) (by rfl)
    verifies (by rfl) (by rfl)
  let input : LoginInput :=
    { email := "owner@example.com"
      password := "battery staple"
      ipAddress := none
      userAgent := none
      mfa := ⟨none, none, none⟩
      deviceId := none }
  obtain ⟨found, hfind, -⟩ :=
    (haccepts address (List.mem_singleton_self _) rfl input rfl).mpr rfl
  have hnone : (findWithPasswordByEmail (confirmed withoutPassword).db
      "owner@example.com").isNone = true := by decide +kernel
  rw [show input.email = "owner@example.com" from rfl] at hfind
  rw [hfind] at hnone
  cases hnone

end ResetWitness

end IdProvider
