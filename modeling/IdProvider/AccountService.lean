/-
Signup, verification, password and identity operations, and the login with a
Google ID token.
-/
import IdProvider.LoginService

namespace IdProvider

open JsonText KeyedTable ServiceCall

/-- The claims of an ID token that the services read. -/
structure GooglePayload where
  sub : Option String
  email : Option String
  emailVerified : Option Bool
  deriving DecidableEq

/-- `verifyIdToken audience idToken` of `google-auth-library`, at an instant;
`none` when it throws.  `toLowerCase` is the runtime's. -/
structure GoogleEnv extends LoginEnv where
  verifyIdToken : String → String → Instant → Option GooglePayload
  toLowerCase : String → String
  googleClientId : String

def ServiceState.withDb (st : ServiceState) (db : AccountDb) : ServiceState :=
  { st with db := db }

/-! ## Statements -/

namespace UserRepository

/-- What the database and `argon2.hash` draw for a new account. -/
structure UserDraw where
  userId : String
  emailId : String
  deriving DecidableEq

def newUser (draw : UserDraw) (now : Instant) : User where
  id := draw.userId
  status := .active
  deletedAt := none
  deletionRequestedAt := none
  deletionDueAt := none
  createdAt := now

def newEmail (draw : UserDraw) (email : String) (isVerified : Bool)
    (now : Instant) : UserEmail where
  id := draw.emailId
  userId := draw.userId
  email := email
  isPrimary := true
  isVerified := isVerified
  createdAt := now

/-- `user_emails` has a unique column `email`. -/
def insertUser (db : AccountDb) (draw : UserDraw) (email : String)
    (isVerified : Bool) (now : Instant) : Option AccountDb :=
  match db.users.insert? (newUser draw now),
      db.userEmails.insert? (newEmail draw email isVerified now) with
  | some users, some userEmails =>
      if db.userEmails.rows.any fun row => row.email == email then none
      else some { db with users := users, userEmails := userEmails }
  | _, _ => none

def commit (constraint : String) (write : AccountDb → Option AccountDb) :
    Service Unit := fun st =>
  match write st.db with
  | none => (.error (.uniqueViolation constraint), st)
  | some db => (.ok (), st.withDb db)

/-- A transaction on the account tables, rolled back when it fails. -/
def transaction (constraint : String)
    (write : Instant → AccountDb → Option AccountDb) : Service Unit :=
  external fun now => commit constraint (write now)

def update (write : Instant → AccountDb → AccountDb) : Service Unit :=
  external fun now => change fun st => st.withDb (write now st.db)

def create (draw : UserDraw) (email passwordHash : String) : Service Unit :=
  transaction "user_emails_email_key" fun now db =>
    (insertUser db draw email false now).bind fun db =>
      (db.userPasswords.insert? ⟨draw.userId, passwordHash, now⟩).map
        fun userPasswords => { db with userPasswords := userPasswords }

def createWithoutPassword (draw : UserDraw) (email : String)
    (emailVerified : Bool) : Service Unit :=
  transaction "user_emails_email_key" fun now db =>
    insertUser db draw email emailVerified now

def setEmailVerified (userId : String) : Service Unit :=
  update fun _ db =>
    { db with
      userEmails := db.userEmails.update (fun row => row.userId == userId)
        (fun row => { row with isVerified := true }) (fun _ => rfl) }

def setPasswordHash (userId passwordHash : String) : Service Unit :=
  update fun now db =>
    { db with
      toSessionDb := updatePassword db.toSessionDb now userId passwordHash }

end UserRepository

namespace IdentityRepository

/-- The unique columns are the provider with its subject. -/
def insertIdentity (db : AccountDb) (id userId provider providerSubject : String)
    (email : String) (now : Instant) : Option AccountDb :=
  if (findByProvider db provider providerSubject).isSome then none
  else
    (db.externalIdentities.insert?
      { id := id
        userId := userId
        provider := provider
        providerSubject := providerSubject
        email := some email
        isEmailVerified := false
        createdAt := now }).map fun externalIdentities =>
      { db with externalIdentities := externalIdentities }

def create (id userId provider providerSubject email : String) :
    Service Unit :=
  UserRepository.transaction "external_identities_provider_subject_key"
    fun now db => insertIdentity db id userId provider providerSubject email now

def delete (userId provider providerSubject : String) : Service Unit :=
  UserRepository.update fun _ db =>
    { db with
      externalIdentities := db.externalIdentities.delete fun identity =>
        identity.userId == userId && identity.provider == provider &&
          identity.providerSubject == providerSubject }

end IdentityRepository

namespace VerificationRepository

structure TokenDraw where
  id : String
  token : String
  deriving DecidableEq

/-- `token_hash` is a unique column. -/
def insertEmailToken (db : AccountDb) (row : EmailVerificationToken) :
    Option AccountDb :=
  if db.emailVerificationTokens.rows.any fun token =>
      token.tokenHash == row.tokenHash then none
  else
    (db.emailVerificationTokens.insert? row).map fun tokens =>
      { db with emailVerificationTokens := tokens }

def createEmailToken (env : AuthEnv) (draw : TokenDraw) (userId : String)
    (lifetimeMs : Int) : Service Unit := do
  let issuedAt ← dateNow
  UserRepository.transaction "email_verification_tokens_token_hash_key"
    fun now db => insertEmailToken db
      { id := draw.id
        userId := userId
        tokenHash := env.hashOpaqueToken draw.token
        expiresAt := issuedAt + lifetimeMs
        consumedAt := none
        createdAt := now }

/-- `token_hash` is a unique column. -/
def insertPasswordToken (db : AccountDb) (row : PasswordResetToken) :
    Option AccountDb :=
  if db.passwordResetTokens.rows.any fun token =>
      token.tokenHash == row.tokenHash then none
  else
    (db.passwordResetTokens.insert? row).map fun tokens =>
      { db with passwordResetTokens := tokens }

def createPasswordToken (env : AuthEnv) (draw : TokenDraw) (userId : String) :
    Service Unit := do
  let issuedAt ← dateNow
  UserRepository.transaction "password_reset_tokens_token_hash_key"
    fun now db => insertPasswordToken db
      { id := draw.id
        userId := userId
        tokenHash := env.hashOpaqueToken draw.token
        expiresAt := issuedAt + 60 * 60 * 1000
        consumedAt := none
        createdAt := now }

def consumeValidEmailTokenByHash (tokenHash : String) :
    Service (Option String) :=
  external fun now => fun st =>
    let where_ := fun token : EmailVerificationToken =>
      token.tokenHash == tokenHash && token.consumedAt.isNone &&
        decide (now < token.expiresAt)
    ((.ok ((st.db.emailVerificationTokens.first? where_).map
        EmailVerificationToken.userId)),
      { st with
        db :=
          { st.db with
            emailVerificationTokens := st.db.emailVerificationTokens.update
              where_ (fun token => { token with consumedAt := some now })
              (fun _ => rfl) } })

def consumeValidPasswordTokenByHash (tokenHash : String) :
    Service (Option String) :=
  external fun now => fun st =>
    let where_ := fun token : PasswordResetToken =>
      token.tokenHash == tokenHash && token.consumedAt.isNone &&
        decide (now < token.expiresAt)
    ((.ok ((st.db.passwordResetTokens.first? where_).map
        PasswordResetToken.userId)),
      { st with
        db :=
          { st.db with
            passwordResetTokens := st.db.passwordResetTokens.update
              where_ (fun token => { token with consumedAt := some now })
              (fun _ => rfl) } })

end VerificationRepository

/-! ## `AuthService` -/

namespace AuthService

variable (env : GoogleEnv)

def accountNotActive {Value : Type} : Service Value :=
  throwApi 401 "unauthorized" "Account is not active"

/-- `findById`, of which the callers read whether the user is active. -/
def findActiveUser (userId : String) : Service Bool :=
  select fun db =>
    match findById db userId with
    | none => false
    | some (user, _) => user.status == .active

def signup (draw : UserRepository.UserDraw)
    (tokenDraw : VerificationRepository.TokenDraw)
    (email passwordHash : String) : Service String := do
  let existing ← select fun db => findByEmail db email
  if existing.isSome then
    throwApi 409 "email_exists" "Email already registered"
  else
    UserRepository.create draw email passwordHash
    VerificationRepository.createEmailToken env.toAuthEnv tokenDraw
      draw.userId (24 * 60 * 60 * 1000)
    pure tokenDraw.token

def findActiveByEmail (email : String) : Service (Option String) :=
  select fun db =>
    match findByEmail db email with
    | none => none
    | some (_, user) => if user.status = .active then some user.id else none

def requestEmailVerification (tokenDraw : VerificationRepository.TokenDraw)
    (email : String) : Service (Option String) := do
  let user ← findActiveByEmail email
  match user with
  | none => pure none
  | some userId =>
      VerificationRepository.createEmailToken env.toAuthEnv tokenDraw userId
        (60 * 60 * 1000)
      pure (some tokenDraw.token)

def confirmEmailVerification (token : String) : Service Unit := do
  let consumed ← VerificationRepository.consumeValidEmailTokenByHash
    (env.hashOpaqueToken token)
  match consumed with
  | none => throwApi 400 "invalid_token" "Invalid or expired token"
  | some userId =>
      let active ← findActiveUser userId
      if active then UserRepository.setEmailVerified userId
      else accountNotActive

def requestPasswordReset (tokenDraw : VerificationRepository.TokenDraw)
    (email : String) : Service (Option String) := do
  let user ← findActiveByEmail email
  match user with
  | none => pure none
  | some userId =>
      VerificationRepository.createPasswordToken env.toAuthEnv tokenDraw
        userId
      pure (some tokenDraw.token)

/-- `hashPassword`, with the hash that `argon2.hash` returns. -/
def hashPassword (passwordHash : String) : Service String :=
  external fun _ => pure passwordHash

def confirmPasswordReset (token passwordHash : String) : Service Unit := do
  let consumed ← VerificationRepository.consumeValidPasswordTokenByHash
    (env.hashOpaqueToken token)
  match consumed with
  | none => throwApi 400 "invalid_token" "Invalid or expired token"
  | some userId =>
      let active ← findActiveUser userId
      if active then
        let passwordHash ← hashPassword passwordHash
        UserRepository.setPasswordHash userId passwordHash
      else accountNotActive

/-! ### Google -/

structure GoogleLoginInput where
  idToken : String
  ipAddress : Option String
  userAgent : Option String
  deviceId : Option String
  mfa : MfaInput
  deriving DecidableEq

/-- What a Google login may draw: an account, an identity and a session. -/
structure GoogleLoginDraw where
  user : UserRepository.UserDraw
  identityId : String
  session : SessionDraw
  deriving DecidableEq

/-- `socialConfig.clientId || env.GOOGLE_CLIENT_ID`. -/
def googleClientId (config : SocialLoginConfig) : String :=
  if config.clientId ≠ "" then config.clientId else env.googleClientId

structure GoogleIdentity where
  email : String
  providerSubject : String
  deriving DecidableEq

/-- The identity that a verified token names, if it is usable. -/
def identityOfPayload (payload : Option GooglePayload) :
    Option GoogleIdentity :=
  match payload with
  | none => none
  | some payload =>
      match orNull payload.sub, orNull payload.email,
          payload.emailVerified with
      | some sub, some email, some true => some ⟨env.toLowerCase email, sub⟩
      | _, _, _ => none

/-- The library's answer; what it throws is caught. -/
def verifyIdToken (clientId idToken : String) :
    Service (Option GooglePayload) := do
  let reading ← nextReading
  pure
    (if reading.fails then none
    else env.verifyIdToken clientId idToken reading.now)

def invalidGoogleToken {Value : Type} : Service Value :=
  throwApi 400 "invalid_google_token" "Invalid Google ID token"

def invalidRequest {Value : Type} : Service Value :=
  throwApi 401 "invalid_credentials" "Invalid authentication request"

def createGoogleIdentity (draw : GoogleLoginDraw) (identity : GoogleIdentity)
    (userId : String) : Service Unit :=
  IdentityRepository.create draw.identityId userId "google"
    identity.providerSubject identity.email

/-- The account of a Google identity that is not linked yet. -/
def linkGoogleUser (draw : GoogleLoginDraw) (identity : GoogleIdentity) :
    Service String := do
  let existingUser ← select fun db => findByEmail db identity.email
  match existingUser with
  | some (_, user) =>
      if user.status ≠ .active then invalidRequest
      else
        createGoogleIdentity draw identity user.id
        pure user.id
  | none =>
      UserRepository.createWithoutPassword draw.user identity.email true
      createGoogleIdentity draw identity draw.user.userId
      pure draw.user.userId

def resolveGoogleUser (draw : GoogleLoginDraw) (identity : GoogleIdentity) :
    Service String := do
  let existingIdentity ← select fun db =>
    findByProvider db "google" identity.providerSubject
  match existingIdentity with
  | some existing => pure existing.userId
  | none => linkGoogleUser draw identity

def googleRiskPayload (ipAddress : Option String) (risk : AdaptiveRisk) :
    Json :=
  .obj
    [("provider", .str "google"),
      ("ipAddress", optionalText ipAddress),
      ("score", natural risk.score),
      ("factors", risk.factorsJson)]

def finishGoogleLogin (input : GoogleLoginInput) (draw : SessionDraw)
    (identity : GoogleIdentity) (userId : String)
    (sessionUserAgent : Option String) (mfaEnabled : Bool)
    (adaptiveRisk : AdaptiveRisk) : Service LoginResult := do
  let session ← createSession env.toLoginEnv draw userId input.ipAddress
    sessionUserAgent
  createSecurityEvent "login.success" (some userId)
    (.obj
      [("provider", .str "google"),
        ("email", .str identity.email),
        ("ipAddress", optionalText input.ipAddress),
        ("mfaEnabled", .bool mfaEnabled),
        ("adaptiveRiskLevel", adaptiveRisk.level.toJson),
        ("adaptiveRiskScore", natural adaptiveRisk.score),
        ("adaptiveRiskFactors", adaptiveRisk.factorsJson)])
  pure (.ok userId session mfaEnabled adaptiveRisk)

/-- The second factor of an account that also has a password. -/
def loginWithFactor (input : GoogleLoginInput) (draw : SessionDraw)
    (identity : GoogleIdentity) (userId : String)
    (sessionUserAgent : Option String) (adaptiveRisk : AdaptiveRisk) :
    Service LoginResult := do
  let mfaEnabled ← MfaService.hasEnabledMfa userId
  if adaptiveRisk.level = .medium ∧ mfaEnabled = false ∧
      env.adaptiveMfaRequireForMedium = true then
    throwApi 401 "adaptive_mfa_enrollment_required"
      "MFA enrollment is required for this login"
  else if mfaEnabled = true ∧ given input.mfa.mfaCode = false ∧
      given input.mfa.mfaRecoveryCode = false then
    pure (.mfaRequired userId
      (if adaptiveRisk.level ≠ .low then some adaptiveRisk else none))
  else if mfaEnabled = true then
    let _ ← enforceMfaForLogin env.toLoginEnv userId input.ipAddress input.mfa
    finishGoogleLogin env input draw identity userId sessionUserAgent
      mfaEnabled adaptiveRisk
  else
    finishGoogleLogin env input draw identity userId sessionUserAgent
      mfaEnabled adaptiveRisk

def loginGoogleUser (input : GoogleLoginInput) (draw : SessionDraw)
    (identity : GoogleIdentity) (userId : String) : Service LoginResult := do
  let active ← findActiveUser userId
  if active then
    let hasLocalPassword ← select fun db =>
      (findWithPasswordById db.toSessionDb userId).isSome
    let sessionUserAgent :=
      buildSessionUserAgent input.userAgent input.deviceId
    let adaptiveRisk ← assessLogin env.toLoginEnv userId input.ipAddress
      sessionUserAgent
    if adaptiveRisk.level = .high then
      createSecurityEvent "adaptive_mfa.blocked" (some userId)
        (googleRiskPayload input.ipAddress adaptiveRisk)
      throwApi 403 "adaptive_mfa_blocked"
        "Request blocked by adaptive risk policy"
    else if hasLocalPassword then
      loginWithFactor env input draw identity userId sessionUserAgent
        adaptiveRisk
    else
      finishGoogleLogin env input draw identity userId sessionUserAgent false
        adaptiveRisk
  else invalidRequest

def loginWithGoogle (input : GoogleLoginInput) (draw : GoogleLoginDraw) :
    Service LoginResult := do
  if given input.mfa.mfaCode = true ∧
      given input.mfa.mfaRecoveryCode = true then
    throwApi 400 "mfa_method_conflict" "Use either MFA code or recovery code"
  else
    let socialConfig ← select getSocialLoginConfig
    if socialConfig.providerEnabled then
      let payload ← verifyIdToken env (googleClientId env socialConfig)
        input.idToken
      match identityOfPayload env payload with
      | none => invalidGoogleToken
      | some identity =>
          let userId ← resolveGoogleUser draw identity
          loginGoogleUser env input draw.session identity userId
    else throwApi 403 "provider_disabled" "Google login is disabled"

end AuthService

/-! ## `UserService` -/

namespace UserService

variable (env : GoogleEnv)

def verifyCurrentPassword (userId password : String) : Service Unit := do
  let user ← select fun db => findWithPasswordById db.toSessionDb userId
  match user with
  | none => throwApi 401 "invalid_password" "Current password is incorrect"
  | some (_, row) =>
      let isValidPassword ← Service.verifyPassword env.toLoginEnv password
        row.passwordHash
      if isValidPassword then pure ()
      else throwApi 401 "invalid_password" "Current password is incorrect"

def changePassword (userId currentPassword passwordHash : String) :
    Service Unit := do
  verifyCurrentPassword env userId currentPassword
  UserRepository.setPasswordHash userId passwordHash

/-- The email of an active user, if it has one. -/
def requireActiveUser (userId : String) : Service (Option String) := do
  let user ← select fun db => findById db userId
  match user with
  | none => throwApi 404 "user_not_found" "User not found"
  | some (user, userEmail) =>
      if user.status ≠ .active then AuthService.accountNotActive
      else pure (userEmail.map UserEmail.email)

def linkIdentity (userId identityId : String)
    (identity : AuthService.GoogleIdentity) : Service Unit := do
  let existing ← select fun db =>
    findByProvider db "google" identity.providerSubject
  match existing with
  | none =>
      IdentityRepository.create identityId userId "google"
        identity.providerSubject identity.email
  | some existing =>
      if existing.userId ≠ userId then
        throwApi 409 "google_identity_in_use"
          "Google identity is already linked to another account"
      else pure ()

def linkGoogleIdentity (userId idToken clientId identityId : String) :
    Service Unit := do
  let payload ← AuthService.verifyIdToken env clientId idToken
  match AuthService.identityOfPayload env payload with
  | none => AuthService.invalidGoogleToken
  | some identity =>
      let email ← requireActiveUser userId
      if (orNull email).map env.toLowerCase ≠ some identity.email then
        throwApi 400 "email_mismatch"
          "Google email must match your primary email"
      else
        linkIdentity userId identityId identity
        AuditRepository.createSecurityEvent "identity.google.linked"
          (some userId)
          (.obj
            [("providerSubject", .str identity.providerSubject),
              ("email", .str identity.email)])

/-- `POST /v1/identities/google/link`. -/
def linkRoute (userId currentPassword idToken identityId : String) :
    Service Unit := do
  verifyCurrentPassword env userId currentPassword
  let social ← select getSocialLoginConfig
  if social.providerEnabled then
    linkGoogleIdentity env userId idToken
      (AuthService.googleClientId env social) identityId
  else
    throwApi 403 "provider_disabled" "Google identity linking is disabled"

/-- `POST /v1/identities/google/unlink`. -/
def unlinkRoute (userId currentPassword providerSubject : String) :
    Service Unit := do
  verifyCurrentPassword env userId currentPassword
  IdentityRepository.delete userId "google" providerSubject
  AuditRepository.createSecurityEvent "identity.google.unlinked" (some userId)
    (.obj [("providerSubject", .str providerSubject)])

end UserService

/-! ## Running a call -/

section Run

variable {st : ServiceState}

theorem commit_of_some {constraint : String}
    {write : AccountDb → Option AccountDb} {db : AccountDb}
    (hwrite : write st.db = some db) :
    UserRepository.commit constraint write st = (.ok (), st.withDb db) := by
  unfold UserRepository.commit
  rw [hwrite]

theorem commit_of_none {constraint : String}
    {write : AccountDb → Option AccountDb} (hwrite : write st.db = none) :
    UserRepository.commit constraint write st =
      (.error (.uniqueViolation constraint), st) := by
  unfold UserRepository.commit
  rw [hwrite]

end Run

end IdProvider
