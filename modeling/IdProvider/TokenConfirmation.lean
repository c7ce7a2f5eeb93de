/-
Confirming an email address or a new password with a one-time token: what a
confirmation that throws leaves behind, and what one that succeeds achieves.
-/
import IdProvider.GoogleLinking

namespace IdProvider

open KeyedTable ServiceCall AuthService

/-! ## What a confirmation is about -/

/-- The tokens, the passwords and the verified addresses. -/
def ServiceState.credentials (st : ServiceState) :
    Table EmailVerificationToken × Table PasswordResetToken ×
      Table UserPassword × Table UserEmail :=
  (st.db.emailVerificationTokens, st.db.passwordResetTokens,
    st.db.userPasswords, st.db.userEmails)

/-- A call that throws leaves the credentials as they were. -/
def AtomicAt {Value : Type} (call : Service Value) (st : ServiceState) : Prop :=
  ∀ error, (call st).1 = .error error →
    (call st).2.credentials = st.credentials

def IsActiveUser (db : AccountDb) (userId : String) : Prop :=
  ∃ user ∈ db.users, user.id = userId ∧ user.status = .active

/-- The things that the call waits for answer, from the one at `first` on. -/
def Answers (st : ServiceState) (first count : Nat) : Prop :=
  ∀ i < count, (st.readings (st.ticks + first + i)).fails = false

def EmailVerificationToken.isConsumable (now : Instant) (tokenHash : String)
    (token : EmailVerificationToken) : Bool :=
  token.tokenHash == tokenHash && token.consumedAt.isNone &&
    decide (now < token.expiresAt)

def PasswordResetToken.isConsumable (now : Instant) (tokenHash : String)
    (token : PasswordResetToken) : Bool :=
  token.tokenHash == tokenHash && token.consumedAt.isNone &&
    decide (now < token.expiresAt)

/-- The call gets to consume an email token of the user. -/
structure ConsumesEmailToken (env : GoogleEnv) (st : ServiceState)
    (token userId : String) : Prop where
  answers : (st.readings st.ticks).fails = false
  stored : ∃ row, st.db.emailVerificationTokens.first?
    (EmailVerificationToken.isConsumable (st.readings st.ticks).now
      (env.hashOpaqueToken token)) = some row ∧ row.userId = userId

structure ConsumesPasswordToken (env : GoogleEnv) (st : ServiceState)
    (token userId : String) : Prop where
  answers : (st.readings st.ticks).fails = false
  stored : ∃ row, st.db.passwordResetTokens.first?
    (PasswordResetToken.isConsumable (st.readings st.ticks).now
      (env.hashOpaqueToken token)) = some row ∧ row.userId = userId

/-! ## Confirmations in general -/

/-- Consume the token, then check its user, then do the work. -/
def confirmWith (consume : Service (Option String))
    (work : String → Service Unit) : Service Unit := do
  let consumed ← consume
  match consumed with
  | none => throwApi 400 "invalid_token" "Invalid or expired token"
  | some userId => do
      let active ← findActiveUser userId
      if active then work userId else accountNotActive

theorem confirmEmailVerification_eq (env : GoogleEnv) (token : String) :
    confirmEmailVerification env token =
      confirmWith (VerificationRepository.consumeValidEmailTokenByHash
        (env.hashOpaqueToken token)) UserRepository.setEmailVerified := rfl

/-- What is done for the user of a password token. -/
def resetPassword (passwordHash userId : String) : Service Unit := do
  let passwordHash ← hashPassword passwordHash
  UserRepository.setPasswordHash userId passwordHash

theorem confirmPasswordReset_eq (env : GoogleEnv)
    (token passwordHash : String) :
    confirmPasswordReset env token passwordHash =
      confirmWith (VerificationRepository.consumeValidPasswordTokenByHash
        (env.hashOpaqueToken token)) (resetPassword passwordHash) := rfl

section Confirm

variable {env : GoogleEnv} {st after : ServiceState} {userId : String}

theorem head?_flatMap_replicate {Row : Type} (rows : List Row)
    (count : Row → Nat) :
    (rows.flatMap fun row => List.replicate (max 1 (count row)) row).head? =
      rows.head? := by
  cases rows with
  | nil => rfl
  | cons row rows =>
      obtain ⟨rest, hrest⟩ :=
        Nat.exists_eq_add_of_le (Nat.le_max_left 1 (count row))
      rw [List.flatMap_cons, hrest, Nat.add_comm, List.replicate_succ]
      rfl

theorem findById_user (db : AccountDb) (userId : String) :
    (findById db userId).map Prod.fst =
      db.users.first? fun user => user.id == userId := by
  have hleft := leftJoin_left db.users.rows db.userEmails.rows
    (fun user email => user.id == email.userId)
    (fun user => user.id == userId) id
  rw [findById, Table.first?, ← List.head?_filter, ← List.head?_filter,
    ← List.head?_map]
  exact (congrArg List.head? hleft).trans (head?_flatMap_replicate _ _)

/-- Whether the user is active, as the confirmations read it. -/
def readsActive (db : AccountDb) (userId : String) : Bool :=
  match findById db userId with
  | none => false
  | some (user, _) => user.status == .active

theorem readsActive_iff {db : AccountDb} :
    readsActive db userId = true ↔ IsActiveUser db userId := by
  have huser := findById_user db userId
  unfold readsActive
  rcases hfind : findById db userId with _ | ⟨user, email⟩
  · rw [hfind, Option.map_none, eq_comm, Table.first?_eq_none] at huser
    refine iff_of_false Bool.false_ne_true ?_
    rintro ⟨user, hmem, hid, -⟩
    have hnone := huser user hmem
    simp [hid] at hnone
  · rw [hfind, Option.map_some, eq_comm] at huser
    obtain ⟨hmem, hid⟩ := Table.mem_of_first? huser
    dsimp only
    rw [beq_iff_eq] at hid ⊢
    constructor
    · exact fun hactive => ⟨user, hmem, hid, hactive⟩
    · rintro ⟨other, hother, hotherId, hactive⟩
      have hsame := db.users.eq_of_key_eq hmem hother (hid.trans hotherId.symm)
      exact (congrArg User.status hsame).trans hactive

theorem findActiveUser_of_answers
    (hanswers : (st.readings st.ticks).fails = false) :
    findActiveUser userId st = (.ok (readsActive st.db userId), st.tick 1) :=
  select_of_answers hanswers

theorem findActiveUser_of_fails
    (hfails : (st.readings st.ticks).fails = true) :
    findActiveUser userId st = (.error .unavailable, st.tick 1) :=
  select_of_fails hfails

/-- The work is done, or the credentials are what they were before it. -/
structure WorkSpec (work : Service Unit) (count : Nat) (st : ServiceState) :
    Prop where
  done : Answers st 0 count → (work st).1 = .ok ()
  undone : ¬ Answers st 0 count → (∃ error, (work st).1 = .error error) ∧
    (work st).2.credentials = st.credentials

theorem answers_succ {first count : Nat} :
    Answers st first (count + 1) ↔
      (st.readings (st.ticks + first)).fails = false ∧
        Answers st (first + 1) count := by
  unfold Answers
  constructor
  · intro hall
    refine ⟨hall 0 (Nat.succ_pos count), fun i hi => ?_⟩
    have hnext := hall (i + 1) (Nat.succ_lt_succ hi)
    rwa [Nat.add_comm i 1, ← Nat.add_assoc, Nat.add_assoc st.ticks] at hnext
  · rintro ⟨hfirst, hrest⟩ i hi
    rcases i with _ | i
    · exact hfirst
    · have hnext := hrest i (Nat.lt_of_succ_lt_succ hi)
      rwa [Nat.add_comm i 1, ← Nat.add_assoc, Nat.add_assoc st.ticks]

theorem answers_tick {first count steps : Nat} :
    Answers (st.tick steps) first count ↔
      Answers st (steps + first) count := by
  unfold Answers ServiceState.tick
  simp only [Nat.add_assoc]

/-- After the consumption, up to the end of the call. -/
def Completes (st : ServiceState) (count : Nat) (userId : String) : Prop :=
  IsActiveUser st.db userId ∧ Answers st 1 count

/-- What is left of a call that has consumed its token. -/
theorem confirmed_spec {work : String → Service Unit} {count : Nat}
    (hwork : ∀ st, WorkSpec (work userId) count st) (st : ServiceState) :
    let call : Service Unit := do
      let active ← findActiveUser userId
      if active then work userId else accountNotActive
    (IsActiveUser st.db userId ∧ Answers st 0 (count + 1) →
        (call st).1 = .ok ()) ∧
      (¬ (IsActiveUser st.db userId ∧ Answers st 0 (count + 1)) →
        (∃ error, (call st).1 = .error error) ∧
          (call st).2.credentials = st.credentials) := by
  intro call
  rw [answers_succ]
  by_cases hanswers : (st.readings st.ticks).fails = false
  · have hcall : call st = (if readsActive st.db userId then work userId
        else accountNotActive) (st.tick 1) :=
      bind_ok (findActiveUser_of_answers hanswers)
    have hspec := hwork (st.tick 1)
    have hlater : Answers (st.tick 1) 0 count ↔ Answers st (0 + 1) count :=
      answers_tick
    rw [hcall]
    by_cases hactive : IsActiveUser st.db userId
    · rw [if_pos (readsActive_iff.mpr hactive)]
      refine ⟨fun hall => hspec.done (hlater.mpr hall.2.2), fun hsome => ?_⟩
      apply hspec.undone
      rw [hlater]
      exact fun hall => hsome ⟨hactive, hanswers, hall⟩
    · rw [if_neg (fun hread => hactive (readsActive_iff.mp hread))]
      exact ⟨fun hall => absurd hall.1 hactive, fun _ => ⟨⟨_, rfl⟩, rfl⟩⟩
  · rw [Bool.not_eq_false] at hanswers
    have hcall : call st = (.error .unavailable, st.tick 1) :=
      bind_error (findActiveUser_of_fails hanswers)
    rw [hcall]
    refine ⟨fun hall => ?_, fun _ => ⟨⟨_, rfl⟩, rfl⟩⟩
    have hfirst : (st.readings st.ticks).fails = false := hall.2.1
    rw [hfirst] at hanswers
    cases hanswers

/-- How a consumption ends: with an error, without a token, or with a token
that is not the same any more. -/
inductive ConsumeOutcome (consume : Service (Option String))
    (st : ServiceState) : Prop where
  | fails (error : Failure)
      (hrun : consume st = (.error error, st.tick 1))
  | missing (after : ServiceState)
      (hrun : consume st = (.ok none, after))
      (hsame : after.credentials = st.credentials)
  | consumed (userId : String) (db : AccountDb)
      (hrun : consume st = (.ok (some userId), (st.tick 1).withDb db))
      (husers : db.users = st.db.users)
      (hchanged : ((st.tick 1).withDb db).credentials ≠ st.credentials)

/-- A confirmation is atomic exactly when nothing fails once the token is
consumed. -/
theorem confirmWith_atomic_iff {consume : Service (Option String)}
    {work : String → Service Unit} {count : Nat}
    (hconsume : ConsumeOutcome consume st)
    (hwork : ∀ userId st, WorkSpec (work userId) count st) :
    AtomicAt (confirmWith consume work) st ↔
      ∀ userId after, consume st = (.ok (some userId), after) →
        Completes st (count + 1) userId := by
  cases hconsume with
  | fails error hrun =>
      have hcall : confirmWith consume work st = (.error error, st.tick 1) :=
        bind_error hrun
      refine iff_of_true (fun _ _ => ?_) (fun userId after hother => ?_)
      · rw [hcall]
        rfl
      · rw [hrun] at hother
        cases hother
  | missing after hrun hsame =>
      have hcall : confirmWith consume work st =
          throwApi 400 "invalid_token" "Invalid or expired token" after :=
        bind_ok hrun
      refine iff_of_true (fun _ _ => ?_) (fun userId after hother => ?_)
      · rw [hcall]
        exact hsame
      · rw [hrun] at hother
        cases hother
  | consumed userId db hrun husers hchanged =>
      have hspec := confirmed_spec (hwork userId) ((st.tick 1).withDb db)
      have hcall : confirmWith consume work st = (do
          let active ← findActiveUser userId
          if active then work userId else accountNotActive)
          ((st.tick 1).withDb db) := bind_ok hrun
      have hcompletes : IsActiveUser ((st.tick 1).withDb db).db userId ∧
          Answers ((st.tick 1).withDb db) 0 (count + 1) ↔
            Completes st (count + 1) userId := by
        have hanswers : Answers ((st.tick 1).withDb db) 0 (count + 1) ↔
            Answers st 1 (count + 1) := answers_tick
        rw [Completes, hanswers]
        apply and_congr_left
        intro _
        unfold IsActiveUser
        change (∃ user ∈ db.users, _) ↔ _
        rw [husers]
      rw [hcompletes] at hspec
      constructor
      · intro hatomic other after hother
        rw [hrun] at hother
        cases hother
        by_contra hstopped
        obtain ⟨⟨error, herror⟩, hsame⟩ := hspec.2 hstopped
        rw [← hcall] at herror hsame
        exact hchanged (hsame.symm.trans (hatomic error herror))
      · intro hall error herror
        rw [hcall, hspec.1 (hall userId _ hrun)] at herror
        cases herror

end Confirm

/-! ## The two confirmations -/

/-- An update that changes every row it matches. -/
theorem update_eq_iff {Row Key : Type} [Keyed Row Key] {table : Table Row}
    {where_ : Row → Bool} {set : Row → Row}
    (hkey : ∀ row, key (set row) = key row)
    (hset : ∀ row, where_ row = true → set row ≠ row) :
    table.update where_ set hkey = table ↔ table.first? where_ = none := by
  constructor
  · intro hsame
    rw [Table.first?_eq_none]
    intro row hrow
    by_contra hmatch
    rw [Bool.not_eq_false] at hmatch
    exact Table.update_ne hrow hmatch (hset row hmatch) hsame
  · intro hnone
    apply Table.update_of_none
    rw [List.any_eq_false]
    intro row hrow hmatch
    rw [Table.first?_eq_none.mp hnone row hrow] at hmatch
    cases hmatch

def EmailVerificationToken.withConsumedAt (token : EmailVerificationToken)
    (now : Instant) : EmailVerificationToken :=
  { token with consumedAt := some now }

theorem EmailVerificationToken.key_withConsumedAt (now : Instant)
    (token : EmailVerificationToken) :
    key (token.withConsumedAt now) = key token := rfl

theorem EmailVerificationToken.withConsumedAt_ne {now : Instant}
    {tokenHash : String} {token : EmailVerificationToken}
    (hmatch : token.isConsumable now tokenHash = true) :
    token.withConsumedAt now ≠ token := by
  intro hsame
  have hsome := congrArg EmailVerificationToken.consumedAt hsame
  rw [EmailVerificationToken.isConsumable, ← hsome] at hmatch
  simp [EmailVerificationToken.withConsumedAt] at hmatch

def PasswordResetToken.withConsumedAt (token : PasswordResetToken)
    (now : Instant) : PasswordResetToken :=
  { token with consumedAt := some now }

theorem PasswordResetToken.key_withConsumedAt (now : Instant)
    (token : PasswordResetToken) :
    key (token.withConsumedAt now) = key token := rfl

theorem PasswordResetToken.withConsumedAt_ne {now : Instant}
    {tokenHash : String} {token : PasswordResetToken}
    (hmatch : token.isConsumable now tokenHash = true) :
    token.withConsumedAt now ≠ token := by
  intro hsame
  have hsome := congrArg PasswordResetToken.consumedAt hsame
  rw [PasswordResetToken.isConsumable, ← hsome] at hmatch
  simp [PasswordResetToken.withConsumedAt] at hmatch

/-- A consuming update fails, or returns the owner of a token that it marks. -/
structure Consuming (consume : Service (Option String)) (st : ServiceState)
    (owner : Option String) (after : ServiceState) : Prop where
  fails : (st.readings st.ticks).fails = true →
    consume st = (.error .unavailable, st.tick 1)
  answers : (st.readings st.ticks).fails = false →
    consume st = (.ok owner, after)
  same : after.credentials = st.credentials ↔ owner = none
  updated : ∃ db, after = (st.tick 1).withDb db ∧ db.users = st.db.users

section Consuming

variable {consume : Service (Option String)} {st after : ServiceState}
  {owner : Option String}

theorem Consuming.outcome (hconsume : Consuming consume st owner after) :
    ConsumeOutcome consume st := by
  obtain ⟨hfails, hanswers, hsame, db, rfl, husers⟩ := hconsume
  by_cases hanswered : (st.readings st.ticks).fails = false
  · have hrun := hanswers hanswered
    cases owner with
    | none => exact .missing _ hrun (hsame.mpr rfl)
    | some userId =>
        refine .consumed userId db hrun husers fun heq => ?_
        cases hsame.mp heq
  · rw [Bool.not_eq_false] at hanswered
    exact .fails _ (hfails hanswered)

theorem Consuming.returns_iff (hconsume : Consuming consume st owner after)
    {userId : String} :
    (∃ last, consume st = (.ok (some userId), last)) ↔
      (st.readings st.ticks).fails = false ∧ owner = some userId := by
  by_cases hanswered : (st.readings st.ticks).fails = false
  · rw [hconsume.answers hanswered, and_iff_right hanswered]
    constructor
    · rintro ⟨last, hrun⟩
      rw [Prod.mk.injEq, Except.ok.injEq] at hrun
      exact hrun.1
    · rintro rfl
      exact ⟨_, rfl⟩
  · refine iff_of_false ?_ fun hreturns => hanswered hreturns.1
    rintro ⟨last, hrun⟩
    rw [Bool.not_eq_false] at hanswered
    rw [hconsume.fails hanswered] at hrun
    cases hrun

end Consuming

section Consume

variable (env : GoogleEnv) (st : ServiceState) (token : String)

/-- The consuming update, when it answers. -/
def afterEmailToken : ServiceState :=
  let now := (st.readings st.ticks).now
  (st.tick 1).withDb
    { st.db with
      emailVerificationTokens := st.db.emailVerificationTokens.update
        (EmailVerificationToken.isConsumable now (env.hashOpaqueToken token))
        (fun token => token.withConsumedAt now)
        (EmailVerificationToken.key_withConsumedAt now) }

def afterPasswordToken : ServiceState :=
  let now := (st.readings st.ticks).now
  (st.tick 1).withDb
    { st.db with
      passwordResetTokens := st.db.passwordResetTokens.update
        (PasswordResetToken.isConsumable now (env.hashOpaqueToken token))
        (fun token => token.withConsumedAt now)
        (PasswordResetToken.key_withConsumedAt now) }

theorem afterEmailToken_credentials :
    (afterEmailToken env st token).credentials = st.credentials ↔
      st.db.emailVerificationTokens.first?
        (EmailVerificationToken.isConsumable (st.readings st.ticks).now
          (env.hashOpaqueToken token)) = none := by
  rw [← update_eq_iff
    (EmailVerificationToken.key_withConsumedAt (st.readings st.ticks).now)
    fun _ => EmailVerificationToken.withConsumedAt_ne]
  exact ⟨congrArg Prod.fst, congrArg fun tokens => (tokens, _)⟩

theorem afterPasswordToken_credentials :
    (afterPasswordToken env st token).credentials = st.credentials ↔
      st.db.passwordResetTokens.first?
        (PasswordResetToken.isConsumable (st.readings st.ticks).now
          (env.hashOpaqueToken token)) = none := by
  rw [← update_eq_iff
    (PasswordResetToken.key_withConsumedAt (st.readings st.ticks).now)
    fun _ => PasswordResetToken.withConsumedAt_ne]
  constructor
  · intro hsame
    exact congrArg Prod.fst (congrArg Prod.snd hsame)
  · exact congrArg fun tokens => (_, tokens, _)

theorem consumeEmailToken_consuming :
    Consuming (VerificationRepository.consumeValidEmailTokenByHash
      (env.hashOpaqueToken token)) st
      ((st.db.emailVerificationTokens.first?
        (EmailVerificationToken.isConsumable (st.readings st.ticks).now
          (env.hashOpaqueToken token))).map EmailVerificationToken.userId)
      (afterEmailToken env st token) where
  fails := external_of_fails
  answers := external_of_answers
  same := (afterEmailToken_credentials env st token).trans
    Option.map_eq_none_iff.symm
  updated := ⟨_, rfl, rfl⟩

theorem consumePasswordToken_consuming :
    Consuming (VerificationRepository.consumeValidPasswordTokenByHash
      (env.hashOpaqueToken token)) st
      ((st.db.passwordResetTokens.first?
        (PasswordResetToken.isConsumable (st.readings st.ticks).now
          (env.hashOpaqueToken token))).map PasswordResetToken.userId)
      (afterPasswordToken env st token) where
  fails := external_of_fails
  answers := external_of_answers
  same := (afterPasswordToken_credentials env st token).trans
    Option.map_eq_none_iff.symm
  updated := ⟨_, rfl, rfl⟩

theorem consumeEmailToken_iff {userId : String} :
    (∃ after, VerificationRepository.consumeValidEmailTokenByHash
        (env.hashOpaqueToken token) st = (.ok (some userId), after)) ↔
      ConsumesEmailToken env st token userId := by
  rw [(consumeEmailToken_consuming env st token).returns_iff,
    Option.map_eq_some_iff]
  constructor
  · rintro ⟨hanswers, hstored⟩
    exact ⟨hanswers, hstored⟩
  · rintro ⟨hanswers, hstored⟩
    exact ⟨hanswers, hstored⟩

theorem consumePasswordToken_iff {userId : String} :
    (∃ after, VerificationRepository.consumeValidPasswordTokenByHash
        (env.hashOpaqueToken token) st = (.ok (some userId), after)) ↔
      ConsumesPasswordToken env st token userId := by
  rw [(consumePasswordToken_consuming env st token).returns_iff,
    Option.map_eq_some_iff]
  constructor
  · rintro ⟨hanswers, hstored⟩
    exact ⟨hanswers, hstored⟩
  · rintro ⟨hanswers, hstored⟩
    exact ⟨hanswers, hstored⟩

end Consume

/-! ### What is done for the user -/

theorem answers_one {st : ServiceState} :
    Answers st 0 1 ↔ (st.readings st.ticks).fails = false := by
  rw [answers_succ]
  exact and_iff_left fun i hi => absurd hi (Nat.not_lt_zero i)

/-- One write, which fails or is done. -/
theorem update_spec {write : Instant → AccountDb → AccountDb}
    (st : ServiceState) : WorkSpec (UserRepository.update write) 1 st := by
  constructor
  · intro hanswers
    have hrun : UserRepository.update write st = (.ok (), (st.tick 1).withDb
        (write (st.readings st.ticks).now st.db)) :=
      external_of_answers (answers_one.mp hanswers)
    rw [hrun]
  · intro hfails
    rw [answers_one, Bool.not_eq_false] at hfails
    have hrun : UserRepository.update write st =
        (.error .unavailable, st.tick 1) := external_of_fails hfails
    rw [hrun]
    exact ⟨⟨_, rfl⟩, rfl⟩

theorem setEmailVerified_spec (userId : String) (st : ServiceState) :
    WorkSpec (UserRepository.setEmailVerified userId) 1 st :=
  update_spec st

theorem resetPassword_spec (passwordHash userId : String) (st : ServiceState) :
    WorkSpec (resetPassword passwordHash userId) 2 st := by
  have hwrite : WorkSpec (UserRepository.setPasswordHash userId passwordHash) 1
      (st.tick 1) := update_spec (st.tick 1)
  have hlater : Answers (st.tick 1) 0 1 ↔ Answers st (0 + 1) 1 := answers_tick
  by_cases hanswers : (st.readings st.ticks).fails = false
  · have hhash : hashPassword passwordHash st =
        (.ok passwordHash, st.tick 1) := external_of_answers hanswers
    have hrun : resetPassword passwordHash userId st =
        UserRepository.setPasswordHash userId passwordHash (st.tick 1) :=
      bind_ok hhash
    constructor
    · intro hall
      rw [hrun]
      exact hwrite.done (hlater.mpr (answers_succ.mp hall).2)
    · intro hfails
      rw [hrun]
      apply hwrite.undone
      rw [hlater]
      exact fun hrest => hfails (answers_succ.mpr ⟨hanswers, hrest⟩)
  · rw [Bool.not_eq_false] at hanswers
    have hhash : hashPassword passwordHash st =
        (.error .unavailable, st.tick 1) := external_of_fails hanswers
    have hrun : resetPassword passwordHash userId st =
        (.error .unavailable, st.tick 1) := bind_error hhash
    constructor
    · intro hall
      have hfirst : (st.readings st.ticks).fails = false :=
        (answers_succ.mp hall).1
      rw [hfirst] at hanswers
      cases hanswers
    · intro _
      rw [hrun]
      exact ⟨⟨_, rfl⟩, rfl⟩

/-- A confirmation that throws has changed nothing exactly when nothing can
fail any more once it consumes a token: its user is active, and the lookup, the
hashing and the write answer. -/
theorem confirmations_atomic_iff (env : GoogleEnv) (st : ServiceState)
    (token : String) :
    (∀ passwordHash : String,
      AtomicAt (confirmPasswordReset env token passwordHash) st ↔
        ∀ userId, ConsumesPasswordToken env st token userId →
          Completes st 3 userId) ∧
      (AtomicAt (confirmEmailVerification env token) st ↔
        ∀ userId, ConsumesEmailToken env st token userId →
          Completes st 2 userId) := by
  constructor
  · intro passwordHash
    rw [confirmPasswordReset_eq, confirmWith_atomic_iff
      (consumePasswordToken_consuming env st token).outcome
      (resetPassword_spec passwordHash)]
    simp only [← consumePasswordToken_iff, forall_exists_index]
  · rw [confirmEmailVerification_eq, confirmWith_atomic_iff
      (consumeEmailToken_consuming env st token).outcome setEmailVerified_spec]
    simp only [← consumeEmailToken_iff, forall_exists_index]

namespace ConfirmationWitness

def resetToken : String :=
  "pr_vI2rTZog85g-aX9g7QeT6v6t_GSmNhrojjVeP-K8k84Gt93ceqWc-GEwjyhWxZlF"

def resetHash : String :=
  "5b3a816f37963fe98067cdda7c76bcd4549d4f6260967940ec922c3307aa5065"

def env : GoogleEnv :=
  { GoogleWitness.env with
    hashOpaqueToken := fun token =>
      if token = resetToken then resetHash
      else GoogleWitness.env.hashOpaqueToken token }

/-- The user was suspended after asking for a reset. -/
def suspended : ServiceState :=
  GoogleWitness.init.service.withDb
    { GoogleWitness.init.service.db with
      users := ⟨[⟨"user-1", .suspended, none, none, none, 0⟩], by simp⟩
      passwordResetTokens :=
        ⟨[⟨"reset-1", "user-1", resetHash, 3600000, none, 0⟩], by simp⟩ }

def newHash : String := "$argon2id$v=19$m=65536,t=3,p=4$c2FsdDI$bmV3aA"

/-- The call throws, and the token is used up. -/
theorem not_atomic :
    ¬ ∀ (env : GoogleEnv) (st : ServiceState) (token passwordHash : String),
      AtomicAt (confirmPasswordReset env token passwordHash) st := by
  intro hclaim
  have hthrows : (confirmPasswordReset env resetToken newHash suspended).1 =
      .error (.api ⟨401, "unauthorized", "Account is not active"⟩) := by
    rfl
  have hsame := hclaim env suspended resetToken newHash _ hthrows
  exact absurd hsame (by decide +kernel)

end ConfirmationWitness

end IdProvider
