/-
Signups and Google logins, statement by statement: how they come to insert an
account, and what they insert beside it.
-/
import IdProvider.GoogleLinking
import IdProvider.Interleaving

namespace IdProvider

open Interleaving KeyedTable ServiceCall AuthService

/-! ## The transaction of a new account -/

/-- The rows of a new account; only a signup has a password. -/
structure NewAccount where
  draw : UserRepository.UserDraw
  email : String
  isVerified : Bool
  passwordHash : Option String

inductive InsertPhase where
  | insertingUser
  | insertingEmail (startedAt : Instant)
  | insertingPassword (startedAt : Instant)
  | committing (startedAt : Instant)
  | committed

namespace NewAccount

variable (account : NewAccount)

/-- All rows of the account, if each of them is still possible. -/
def write (now : Instant) (db : AccountDb) : Option AccountDb :=
  match account.passwordHash with
  | none =>
      UserRepository.insertUser db account.draw account.email
        account.isVerified now
  | some passwordHash =>
      (UserRepository.insertUser db account.draw account.email
        account.isVerified now).bind fun db =>
          (db.userPasswords.insert?
            ⟨account.draw.userId, passwordHash, now⟩).map
              fun userPasswords => { db with userPasswords := userPasswords }

theorem create_eq (draw : UserRepository.UserDraw)
    (email passwordHash : String) :
    UserRepository.create draw email passwordHash =
      UserRepository.transaction "user_emails_email_key"
        (write ⟨draw, email, false, some passwordHash⟩) := rfl

theorem createWithoutPassword_eq (draw : UserRepository.UserDraw)
    (email : String) (emailVerified : Bool) :
    UserRepository.createWithoutPassword draw email emailVerified =
      UserRepository.transaction "user_emails_email_key"
        (write ⟨draw, email, emailVerified, none⟩) := rfl

/-- An insert that violates a unique constraint of the committed rows. -/
def unlessTaken (constraint : String) (taken : AccountDb → Bool)
    (next : InsertPhase) : Service InsertPhase := fun st =>
  if taken st.db then (.error (.uniqueViolation constraint), st)
  else (.ok next, st)

/-- The rows become visible together, by the commit. -/
def statement : InsertPhase → Service InsertPhase
  | .insertingUser =>
      external fun now =>
        unlessTaken "users_pkey"
          (fun db => db.users.rows.any fun row =>
            row.id == account.draw.userId)
          (.insertingEmail now)
  | .insertingEmail startedAt =>
      external fun _ => do
        let next ← unlessTaken "user_emails_email_key"
          (fun db => db.userEmails.rows.any fun row =>
            row.email == account.email)
          (if account.passwordHash.isSome then .insertingPassword startedAt
          else .committing startedAt)
        unlessTaken "user_emails_pkey"
          (fun db => db.userEmails.rows.any fun row =>
            row.id == account.draw.emailId)
          next
  | .insertingPassword startedAt =>
      external fun _ =>
        unlessTaken "user_passwords_pkey"
          (fun db => db.userPasswords.rows.any fun row =>
            row.userId == account.draw.userId)
          (.committing startedAt)
  | .committing startedAt =>
      external fun _ => do
        UserRepository.commit "users_pkey" (account.write startedAt)
        pure .committed
  | .committed => pure .committed

/-- The addresses that the transaction has inserted and not committed. -/
def keys : InsertPhase → List String
  | .insertingPassword _ => [account.email]
  | .committing _ => [account.email]
  | _ => []

/-- An insert waits for a transaction that has inserted the same address. -/
def waits (pending : List String) : InsertPhase → Bool
  | .insertingEmail _ => decide (account.email ∈ pending)
  | _ => false

end NewAccount

/-! ## `signup` -/

/-- The arguments, and what is drawn and hashed on the way. -/
structure SignupArgs where
  draw : UserRepository.UserDraw
  tokenDraw : VerificationRepository.TokenDraw
  email : String
  passwordHash : String

def SignupArgs.account (request : SignupArgs) : NewAccount where
  draw := request.draw
  email := request.email
  isVerified := false
  passwordHash := some request.passwordHash

inductive SignupPhase where
  | finding
  | inserting (phase : InsertPhase)
  | creatingToken
  | done

def SignupPhase.next (env : GoogleEnv) (request : SignupArgs) :
    SignupPhase → Service SignupPhase
  | .finding => do
      let existing ← select fun db => findByEmail db request.email
      if existing.isSome then
        throwApi 409 "email_exists" "Email already registered"
      else pure (.inserting .insertingUser)
  | .inserting phase => do
      let next ← request.account.statement phase
      match next with
      | .committed => pure .creatingToken
      | next => pure (.inserting next)
  | .creatingToken => do
      VerificationRepository.createEmailToken env.toAuthEnv request.tokenDraw
        request.draw.userId (24 * 60 * 60 * 1000)
      pure .done
  | .done => pure .done

/-! ## `loginWithGoogle` -/

inductive GooglePhase where
  | readingConfig
  | verifying (clientId : String)
  | findingIdentity (identity : GoogleIdentity)
  | findingUser (identity : GoogleIdentity)
  | inserting (identity : GoogleIdentity) (phase : InsertPhase)
  | linking (identity : GoogleIdentity) (userId : String)
  | finishing (identity : GoogleIdentity) (userId : String)
  | done (identity : GoogleIdentity) (userId : String)

namespace GooglePhase

variable (env : GoogleEnv) (input : GoogleLoginInput) (draw : GoogleLoginDraw)

def account (identity : GoogleIdentity) : NewAccount where
  draw := draw.user
  email := identity.email
  isVerified := true
  passwordHash := none

/-- The insert of the identity; its key is looked at after the unique columns. -/
def linkStatement (identity : GoogleIdentity) (userId : String) :
    Service Unit := fun st =>
  if st.db.externalIdentities.rows.any (fun row => row.id == draw.identityId) ∧
      findByProvider st.db "google" identity.providerSubject = none then
    external (fun _ => fail (.uniqueViolation "external_identities_pkey")) st
  else createGoogleIdentity draw identity userId st

/-- What follows `findById` leaves the accounts alone and is one step. -/
def next : GooglePhase → Service GooglePhase
  | .readingConfig =>
      if given input.mfa.mfaCode = true ∧
          given input.mfa.mfaRecoveryCode = true then
        throwApi 400 "mfa_method_conflict"
          "Use either MFA code or recovery code"
      else do
        let socialConfig ← select getSocialLoginConfig
        if socialConfig.providerEnabled then
          pure (.verifying (googleClientId env socialConfig))
        else throwApi 403 "provider_disabled" "Google login is disabled"
  | .verifying clientId => do
      let payload ← verifyIdToken env clientId input.idToken
      match identityOfPayload env payload with
      | none => invalidGoogleToken
      | some identity => pure (.findingIdentity identity)
  | .findingIdentity identity => do
      let existingIdentity ← select fun db =>
        findByProvider db "google" identity.providerSubject
      match existingIdentity with
      | some existing => pure (.finishing identity existing.userId)
      | none => pure (.findingUser identity)
  | .findingUser identity => do
      let existingUser ← select fun db => findByEmail db identity.email
      match existingUser with
      | some (_, user) =>
          if user.status ≠ .active then invalidRequest
          else pure (.linking identity user.id)
      | none => pure (.inserting identity .insertingUser)
  | .inserting identity phase => do
      let next ← (account draw identity).statement phase
      match next with
      | .committed => pure (.linking identity draw.user.userId)
      | next => pure (.inserting identity next)
  | .linking identity userId => do
      linkStatement draw identity userId
      pure (.finishing identity userId)
  | .finishing identity userId => do
      let _ ← loginGoogleUser env input draw.session identity userId
      pure (.done identity userId)
  | .done identity userId => pure (.done identity userId)

end GooglePhase

/-! ## Calls side by side -/

/-- How a call has ended. -/
inductive CallEnd where
  | signedUp (email userId : String)
  | loggedIn (identity : GoogleIdentity) (userId : String)
  | threw (error : Failure)

inductive AccountThread where
  | signup (request : SignupArgs) (phase : SignupPhase)
  | google (input : GoogleLoginInput) (draw : GoogleLoginDraw)
      (phase : GooglePhase)

inductive AccountCall where
  | signup (request : SignupArgs)
  | loginWithGoogle (input : GoogleLoginInput) (draw : GoogleLoginDraw)

namespace AccountThread

variable (env : GoogleEnv)

def next : AccountThread → Service AccountThread
  | .signup request phase => do
      let next ← phase.next env request
      pure (.signup request next)
  | .google input draw phase => do
      let next ← phase.next env input draw
      pure (.google input draw next)

def ended : AccountThread → Option CallEnd
  | .signup request .done =>
      some (.signedUp request.email request.draw.userId)
  | .google _ _ (.done identity userId) => some (.loggedIn identity userId)
  | _ => none

/-- The insert that the thread is at, with the account it belongs to. -/
def inserting : AccountThread → Option (NewAccount × InsertPhase)
  | .signup request (.inserting phase) => some (request.account, phase)
  | .google _ draw (.inserting identity phase) =>
      some (GooglePhase.account draw identity, phase)
  | _ => none

def keys (thread : AccountThread) : List String :=
  match thread.inserting with
  | none => []
  | some (account, phase) => account.keys phase

def waits (thread : AccountThread) (pending : List String) : Bool :=
  match thread.inserting with
  | none => false
  | some (account, phase) => account.waits pending phase

end AccountThread

/-- `pending` are the addresses of all transactions that have not committed;
`ended` is a ghost. -/
structure AccountStore where
  service : ServiceState
  pending : List String
  ended : List CallEnd

def AccountStore.advance (env : GoogleEnv) (store : AccountStore)
    (thread : AccountThread) : Option (AccountStore × Option AccountThread) :=
  let others := store.pending.filter fun email => email ∉ thread.keys
  if thread.waits others then none
  else
    match thread.next env store.service with
    | (.error error, service) =>
        some (⟨service, others, store.ended ++ [.threw error]⟩, none)
    | (.ok next, service) =>
        match next.ended with
        | some result => some (⟨service, others, store.ended ++ [result]⟩, none)
        | none => some (⟨service, next.keys ++ others, store.ended⟩, some next)

/-- A call that dies takes its transaction with it. -/
def accountProgram (env : GoogleEnv) :
    Program AccountStore AccountThread AccountCall Unit Empty where
  start
    | .signup request => .signup request .finding
    | .loginWithGoogle input draw => .google input draw .readingConfig
  advance store thread _ := store.advance env thread
  abort store thread :=
    { store with
      pending := store.pending.filter fun email => email ∉ thread.keys }
  environment _ event := nomatch event

/-! ## The claim -/

/-- One account an address, an address for every user, a user for every
identity. -/
structure AccountsSound (db : AccountDb) : Prop where
  email : ∀ left ∈ db.userEmails, ∀ right ∈ db.userEmails,
    left.email = right.email → left = right
  user : ∀ user ∈ db.users, ∃ row ∈ db.userEmails, row.userId = user.id
  identity : ∀ row ∈ db.externalIdentities,
    ∃ user ∈ db.users, user.id = row.userId

/-- A client's error, or what is neither of the two unique columns: the
failures of a database that does not answer or repeats a draw. -/
def Failure.Expected : Failure → Prop
  | .api error => 400 ≤ error.status ∧ error.status < 500
  | .unavailable => True
  | .uniqueViolation constraint =>
      constraint ≠ "user_emails_email_key" ∧
        constraint ≠ "external_identities_provider_subject_key"

instance (failure : Failure) : Decidable failure.Expected :=
  match failure with
  | .api error =>
      inferInstanceAs (Decidable (400 ≤ error.status ∧ error.status < 500))
  | .unavailable => inferInstanceAs (Decidable True)
  | .uniqueViolation constraint =>
      inferInstanceAs (Decidable (constraint ≠ "user_emails_email_key" ∧
        constraint ≠ "external_identities_provider_subject_key"))

/-- The call has gone on with the account that has its address, or with the
one that has its identity; or it has failed as it may. -/
def CallEnd.Fine (db : AccountDb) : CallEnd → Prop
  | .signedUp email userId =>
      ∃ row ∈ db.userEmails, row.email = email ∧ row.userId = userId
  | .loggedIn identity userId =>
      ∃ row ∈ db.externalIdentities, row.provider = "google" ∧
        row.providerSubject = identity.providerSubject ∧ row.userId = userId
  | .threw error => error.Expected

structure AccountStore.Sound (store : AccountStore) : Prop where
  accounts : AccountsSound store.service.db
  ended : ∀ result ∈ store.ended, result.Fine store.service.db

/-- An insert, if the database answers, finds the address or the Google
subject as free as the check before it did. -/
def InsertsFree (store : AccountStore) (thread : AccountThread) (_ : Unit) :
    Prop :=
  (store.service.readings store.service.ticks).fails = false →
    match thread with
    | .google _ _ (.linking identity _) =>
        findByProvider store.service.db "google" identity.providerSubject =
          none
    | thread =>
        ∀ account startedAt,
          thread.inserting = some (account, .insertingEmail startedAt) →
            ∀ row ∈ store.service.db.userEmails, row.email ≠ account.email

end IdProvider
