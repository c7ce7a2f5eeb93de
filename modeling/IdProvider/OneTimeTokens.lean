/-
Confirmations with one-time tokens, statement by statement: those of the
server, which commit one at a time, and those of `auth-core`, which run in a
transaction under READ COMMITTED.
-/
import IdProvider.Interleaving
import IdProvider.TokenConfirmation

namespace IdProvider

open Interleaving JsonText KeyedTable ServiceCall AuthService

/-! ## The two kinds of tokens -/

inductive TokenKind where
  | emailVerification
  | passwordReset
  deriving DecidableEq

/-- What both tables say of a token. -/
structure OneTimeToken where
  id : String
  userId : String
  tokenHash : String
  expiresAt : Instant
  consumedAt : Option Instant
  deriving DecidableEq

def EmailVerificationToken.oneTime (token : EmailVerificationToken) :
    OneTimeToken :=
  ⟨token.id, token.userId, token.tokenHash, token.expiresAt, token.consumedAt⟩

def PasswordResetToken.oneTime (token : PasswordResetToken) : OneTimeToken :=
  ⟨token.id, token.userId, token.tokenHash, token.expiresAt, token.consumedAt⟩

namespace OneTimeToken

def isConsumable (now : Instant) (tokenHash : String) (token : OneTimeToken) :
    Bool :=
  token.tokenHash == tokenHash && token.consumedAt.isNone &&
    decide (now < token.expiresAt)

def withConsumedAt (token : OneTimeToken) (now : Instant) : OneTimeToken :=
  { token with consumedAt := some now }

end OneTimeToken

namespace TokenKind

def tokens (kind : TokenKind) (db : AccountDb) : List OneTimeToken :=
  match kind with
  | .emailVerification =>
      db.emailVerificationTokens.rows.map EmailVerificationToken.oneTime
  | .passwordReset => db.passwordResetTokens.rows.map PasswordResetToken.oneTime

/-- An update of `consumed_at`. -/
def consumeWhere (kind : TokenKind) (where_ : OneTimeToken → Bool)
    (now : Instant) (db : AccountDb) : AccountDb :=
  match kind with
  | .emailVerification =>
      { db with
        emailVerificationTokens := db.emailVerificationTokens.update
          (fun token => where_ token.oneTime)
          (fun token => token.withConsumedAt now)
          (EmailVerificationToken.key_withConsumedAt now) }
  | .passwordReset =>
      { db with
        passwordResetTokens := db.passwordResetTokens.update
          (fun token => where_ token.oneTime)
          (fun token => token.withConsumedAt now)
          (PasswordResetToken.key_withConsumedAt now) }

end TokenKind

/-! ## Calls -/

/-- `confirmEmailVerification`, or `confirmPasswordReset` with the hash that
is made of the new password. -/
inductive ConfirmCall where
  | emailVerification (token : String)
  | passwordReset (token passwordHash : String)
  deriving DecidableEq

namespace ConfirmCall

def kind : ConfirmCall → TokenKind
  | .emailVerification _ => .emailVerification
  | .passwordReset _ _ => .passwordReset

def token : ConfirmCall → String
  | .emailVerification token => token
  | .passwordReset token _ => token

end ConfirmCall

/-- A row that a running transaction has written. -/
inductive RowLock where
  | userEmail (id : String)
  | userPassword (userId : String)
  | userSession (id : String)
  | token (kind : TokenKind) (id : String)
  deriving DecidableEq

/-! ## The server -/

def VerificationRepository.consumeValidToken (kind : TokenKind)
    (tokenHash : String) : Service (Option String) :=
  match kind with
  | .emailVerification => consumeValidEmailTokenByHash tokenHash
  | .passwordReset => consumeValidPasswordTokenByHash tokenHash

/-- `consumedAt` is what the clock showed the consuming update. -/
inductive ServerPhase where
  | consuming
  | checkingUser (userId : String) (consumedAt : Instant)
  | hashing (userId passwordHash : String) (consumedAt : Instant)
  | updatingUser (userId : String) (newPasswordHash : Option String)
      (consumedAt : Instant)
  | done (consumedAt : Instant)

namespace ServerPhase

variable (env : GoogleEnv) (call : ConfirmCall)

/-- Where the call goes on with an active user. -/
def checked (userId : String) (consumedAt : Instant) : ServerPhase :=
  match call with
  | .emailVerification _ => .updatingUser userId none consumedAt
  | .passwordReset _ passwordHash => .hashing userId passwordHash consumedAt

def updateUser (userId : String) : Option String → Service Unit
  | none => UserRepository.setEmailVerified userId
  | some passwordHash => UserRepository.setPasswordHash userId passwordHash

/-- `now` is what the clock shows the statement. -/
def next (now : Instant) : ServerPhase → Service ServerPhase
  | .consuming => do
      let consumed ← VerificationRepository.consumeValidToken call.kind
        (env.hashOpaqueToken call.token)
      match consumed with
      | none => throwApi 400 "invalid_token" "Invalid or expired token"
      | some userId => pure (.checkingUser userId now)
  | .checkingUser userId consumedAt => do
      let active ← findActiveUser userId
      if active then pure (checked call userId consumedAt)
      else accountNotActive
  | .hashing userId passwordHash consumedAt => do
      let passwordHash ← hashPassword passwordHash
      pure (.updatingUser userId (some passwordHash) consumedAt)
  | .updatingUser userId newPasswordHash consumedAt => do
      updateUser userId newPasswordHash
      pure (.done consumedAt)
  | .done consumedAt => pure (.done consumedAt)

/-- The rows that the statement updates. -/
def rows (st : ServiceState) : ServerPhase → List RowLock
  | .consuming =>
      ((call.kind.tokens st.db).filter (OneTimeToken.isConsumable
        (st.readings st.ticks).now (env.hashOpaqueToken call.token))).map
          fun token => .token call.kind token.id
  | .updatingUser userId none _ =>
      (st.db.userEmails.select fun row => row.userId == userId).map
        fun row => .userEmail row.id
  | .updatingUser userId (some _) _ => [.userPassword userId]
  | _ => []

/-- What is left of the call. -/
def remaining : ServerPhase → Service Unit
  | .consuming =>
      match call with
      | .emailVerification token => confirmEmailVerification env token
      | .passwordReset token passwordHash =>
          confirmPasswordReset env token passwordHash
  | .checkingUser userId _ => do
      let active ← findActiveUser userId
      if active then
        match call with
        | .emailVerification _ => UserRepository.setEmailVerified userId
        | .passwordReset _ passwordHash => resetPassword passwordHash userId
      else accountNotActive
  | .hashing userId passwordHash _ => resetPassword passwordHash userId
  | .updatingUser userId newPasswordHash _ => updateUser userId newPasswordHash
  | .done _ => pure ()

theorem remaining_eq (now : Instant) (phase : ServerPhase) :
    phase.remaining env call =
      phase.next env call now >>= remaining env call := by
  cases phase with
  | consuming =>
      rcases call with token | ⟨token, passwordHash⟩
      · simp only [remaining, next, confirmEmailVerification, bind_assoc]
        congr 1
        funext consumed
        rcases consumed with _ | userId
        · rfl
        · rw [pure_bind]
          rfl
      · simp only [remaining, next, confirmPasswordReset, bind_assoc]
        congr 1
        funext consumed
        rcases consumed with _ | userId
        · rfl
        · rw [pure_bind]
          rfl
  | checkingUser userId consumedAt =>
      simp only [remaining, next, bind_assoc]
      congr 1
      funext active
      rw [ite_bind]
      rcases call with token | ⟨token, passwordHash⟩
      · simp only [checked, pure_bind, remaining]
        rfl
      · simp only [checked, pure_bind, remaining]
        rfl
  | hashing userId passwordHash consumedAt =>
      simp only [remaining, next, bind_assoc, pure_bind]
      rfl
  | updatingUser userId newPasswordHash consumedAt =>
      simp only [remaining, next, bind_assoc, pure_bind, bind_pure_unit]
  | done consumedAt => simp only [remaining, next, pure_bind]

end ServerPhase

/-! ## `auth-core` -/

/-- What a statement of a transaction has done to one row. -/
inductive RowWrite where
  | verifyEmail (id : String)
  | setPassword (userId passwordHash : String) (now : Instant)
  | revokeSession (id : String) (now : Instant)
  | consumeToken (kind : TokenKind) (id : String) (now : Instant)
  | insertEvent (event : SecurityEventInput)

namespace RowWrite

def lock? : RowWrite → Option RowLock
  | .verifyEmail id => some (.userEmail id)
  | .setPassword userId _ _ => some (.userPassword userId)
  | .revokeSession id _ => some (.userSession id)
  | .consumeToken kind id _ => some (.token kind id)
  | .insertEvent _ => none

theorem verified_key (row : UserEmail) :
    key { row with isVerified := true } = key row := rfl

def apply (st : ServiceState) : RowWrite → ServiceState
  | .verifyEmail id =>
      st.withDb
        { st.db with
          userEmails := st.db.userEmails.update (fun row => row.id == id)
            (fun row => { row with isVerified := true }) verified_key }
  | .setPassword userId passwordHash now =>
      st.withDb
        { st.db with
          toSessionDb := updatePassword st.db.toSessionDb now userId
            passwordHash }
  | .revokeSession id now =>
      st.withDb
        { st.db with userSessions := revoke st.db.userSessions now id }
  | .consumeToken kind id now =>
      st.withDb (kind.consumeWhere (fun token => token.id == id) now st.db)
  | .insertEvent event =>
      { st with securityEvents := event :: st.securityEvents }

end RowWrite

/-- The columns that the transaction selects. -/
structure SelectedToken where
  id : String
  userId : String
  deriving DecidableEq

inductive CorePhase where
  | selecting
  | verifyingEmail (token : SelectedToken)
  | hashing (token : SelectedToken) (passwordHash : String)
  | settingPassword (token : SelectedToken) (passwordHash : String)
  | revokingSessions (token : SelectedToken)
  | consuming (token : SelectedToken)
  | writingEvent (token : SelectedToken) (consumedAt : Instant)
  | reporting (token : SelectedToken) (consumedAt : Instant)
  | committing (token : SelectedToken) (consumedAt : Instant)
  | done (token : SelectedToken) (consumedAt : Instant)

namespace CorePhase

variable (env : GoogleEnv) (call : ConfirmCall)

def invalidToken {Value : Type} : Service Value :=
  match call with
  | .emailVerification _ =>
      throwApi 400 "invalid_verification_token"
        "Invalid or expired verification token"
  | .passwordReset _ _ =>
      throwApi 400 "invalid_reset_token" "Invalid or expired reset token"

def selected (token : SelectedToken) : CorePhase :=
  match call with
  | .emailVerification _ => .verifyingEmail token
  | .passwordReset _ passwordHash => .hashing token passwordHash

def event (userId : String) : SecurityEventInput :=
  match call with
  | .emailVerification _ => ⟨"email.verified", some userId, .obj []⟩
  | .passwordReset _ _ =>
      ⟨"password.changed", some userId,
        .obj [("reason", .str "password_reset")]⟩

/-- A statement of the transaction sees what has committed. -/
def statement : CorePhase → Service (CorePhase × List RowWrite)
  | .selecting => do
      let token ← external fun now => observe fun st =>
        (call.kind.tokens st.db).find? (OneTimeToken.isConsumable now
          (env.hashOpaqueToken call.token))
      match token with
      | none => invalidToken call
      | some token => pure (selected call ⟨token.id, token.userId⟩, [])
  | .verifyingEmail token =>
      select fun db =>
        (.consuming token,
          (db.userEmails.select fun row =>
            row.userId == token.userId && row.isPrimary).map
              fun row => .verifyEmail row.id)
  | .hashing token passwordHash => do
      let passwordHash ← hashPassword passwordHash
      pure (.settingPassword token passwordHash, [])
  | .settingPassword token passwordHash =>
      external fun now => observe fun st =>
        (.revokingSessions token,
          (st.db.userPasswords.select fun row =>
            row.userId == token.userId).map
              fun row => .setPassword row.userId passwordHash now)
  | .revokingSessions token =>
      external fun now => observe fun st =>
        (.consuming token,
          (st.db.userSessions.select fun row =>
            row.userId == token.userId && row.revokedAt.isNone).map
              fun row => .revokeSession row.id now)
  | .consuming token =>
      external fun now => observe fun st =>
        (.writingEvent token now,
          ((call.kind.tokens st.db).filter fun row => row.id == token.id).map
            fun row => .consumeToken call.kind row.id now)
  | .writingEvent token consumedAt =>
      external fun _ =>
        pure (.reporting token consumedAt,
          [.insertEvent (event call token.userId)])
  -- `onSecurityEvent`, which may throw.
  | .reporting token consumedAt =>
      external fun _ => pure (.committing token consumedAt, [])
  | .committing token consumedAt =>
      external fun _ => pure (.done token consumedAt, [])
  | .done token consumedAt => pure (.done token consumedAt, [])

end CorePhase

/-! ## Calls side by side -/

/-- A call that has reported success. -/
structure Confirmation where
  kind : TokenKind
  token : String
  newPasswordHash : Option String
  consumedAt : Instant
  deriving DecidableEq

def ConfirmCall.confirmation (call : ConfirmCall) (consumedAt : Instant) :
    Confirmation where
  kind := call.kind
  token := call.token
  newPasswordHash :=
    match call with
    | .emailVerification _ => none
    | .passwordReset _ passwordHash => some passwordHash
  consumedAt := consumedAt

/-- `confirmed` is a ghost: the calls that have succeeded. -/
structure ConfirmStore where
  service : ServiceState
  locks : List RowLock
  confirmed : List Confirmation

/-- `writes` are those that the transaction has not committed. -/
inductive ConfirmThread where
  | server (call : ConfirmCall) (phase : ServerPhase)
  | core (call : ConfirmCall) (phase : CorePhase) (writes : List RowWrite)

/-- The service whose `confirm…` is called. -/
inductive ConfirmStart where
  | server (call : ConfirmCall)
  | core (call : ConfirmCall)

/-- What happens beside the confirmations: a new token, or any change of the
other tables. -/
inductive TokenEvent where
  | emailToken (row : EmailVerificationToken)
  | passwordToken (row : PasswordResetToken)
  | others (db : AccountDb)

def TokenEvent.apply (db : AccountDb) : TokenEvent → Option AccountDb
  | .emailToken row =>
      if row.consumedAt = none then
        VerificationRepository.insertEmailToken db row
      else none
  | .passwordToken row =>
      if row.consumedAt = none then
        VerificationRepository.insertPasswordToken db row
      else none
  | .others other =>
      some
        { other with
          emailVerificationTokens := db.emailVerificationTokens
          passwordResetTokens := db.passwordResetTokens }

/-- The locks of a transaction with these writes. -/
def heldLocks (writes : List RowWrite) : List RowLock :=
  writes.filterMap RowWrite.lock?

namespace ConfirmStore

variable (env : GoogleEnv) (store : ConfirmStore)

def release (writes : List RowWrite) : ConfirmStore :=
  { store with
    locks := store.locks.filter fun lock => lock ∉ heldLocks writes }

def withService (service : ServiceState) : ConfirmStore :=
  { store with service := service }

def commit (call : ConfirmCall) (consumedAt : Instant)
    (writes : List RowWrite) : ConfirmStore where
  service := writes.foldl RowWrite.apply store.service
  locks := (store.release writes).locks
  confirmed := store.confirmed ++ [call.confirmation consumedAt]

/-- A statement waits while somebody else has written a row of its own. -/
def busy (rows own : List RowLock) : Bool :=
  rows.any fun row => row ∈ store.locks && row ∉ own

def advanceServer (call : ConfirmCall) (phase : ServerPhase) :
    Option (ConfirmStore × Option ConfirmThread) :=
  let now := (store.service.readings store.service.ticks).now
  if store.busy (phase.rows env call store.service) [] then none
  else
    match phase.next env call now store.service with
    | (.error _, service) => some (store.withService service, none)
    | (.ok (.done consumedAt), service) =>
        some ((store.withService service).commit call consumedAt [], none)
    | (.ok next, service) =>
        some (store.withService service, some (.server call next))

def advanceCore (call : ConfirmCall) (phase : CorePhase)
    (writes : List RowWrite) : Option (ConfirmStore × Option ConfirmThread) :=
  match phase.statement env call store.service with
  | (.error _, service) =>
      some ((store.withService service).release writes, none)
  | (.ok (.done _ consumedAt, _), service) =>
      some ((store.withService service).commit call consumedAt writes, none)
  | (.ok (next, more), service) =>
      if store.busy (heldLocks more) (heldLocks writes) then none
      else
        some
          ({ store.withService service with
              locks := heldLocks more ++ store.locks },
            some (.core call next (writes ++ more)))

end ConfirmStore

/-- A call that dies is rolled back as far as it is a transaction. -/
def confirmProgram (env : GoogleEnv) :
    Program ConfirmStore ConfirmThread ConfirmStart Unit TokenEvent where
  start
    | .server call => .server call .consuming
    | .core call => .core call .selecting []
  advance store thread _ :=
    match thread with
    | .server call phase => store.advanceServer env call phase
    | .core call phase writes => store.advanceCore env call phase writes
  abort store
    | .server _ _ => store
    | .core _ _ writes => store.release writes
  environment store event :=
    (event.apply store.service.db).map fun db =>
      store.withService (store.service.withDb db)

/-! ## The claim -/

/-- `token_hash` is unique in both tables. -/
def UniqueHashes (db : AccountDb) : Prop :=
  ∀ kind : TokenKind, ∀ left ∈ kind.tokens db, ∀ right ∈ kind.tokens db,
    left.tokenHash = right.tokenHash → left = right

/-- No token has confirmed anything twice, or when it had expired. -/
structure ConfirmStore.OneTime (env : GoogleEnv) (store : ConfirmStore) :
    Prop where
  once : (store.confirmed.map fun confirmation =>
    (confirmation.kind, confirmation.token)).Nodup
  inTime : ∀ confirmation ∈ store.confirmed,
    ∃ token ∈ confirmation.kind.tokens store.service.db,
      token.tokenHash = env.hashOpaqueToken confirmation.token ∧
        confirmation.consumedAt < token.expiresAt

/-- A transaction of `auth-core` marks a token that is neither consumed nor
expired at that moment. -/
def MarksInTime (store : ConfirmStore) (thread : ConfirmThread) (_ : Unit) :
    Prop :=
  match thread with
  | .core call (.consuming token) _ =>
      ∀ row ∈ call.kind.tokens store.service.db, row.id = token.id →
        row.consumedAt = none ∧
          (store.service.readings store.service.ticks).now < row.expiresAt
  | _ => True

end IdProvider
