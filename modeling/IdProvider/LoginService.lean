/-
The authentication service: password logins, adaptive risk and second factors,
as calls in which every statement may fail.
-/
import IdProvider.Accounts
import IdProvider.AuditChain
import IdProvider.JsText
import IdProvider.ServiceCall

namespace IdProvider

open JsonText KeyedTable ServiceCall

/-- The settings of the login and the libraries it uses.  `hmacSha256` is
keyed with the pepper of the recovery codes. -/
structure LoginEnv extends AuthEnv where
  totpCheck : String → String → Instant → Bool
  hmacSha256 : String → String
  toUpperCase : String → String
  adaptiveMfaEnabled : Bool
  adaptiveMfaRequireForMedium : Bool
  adaptiveMfaHighRiskIps : List String
  adaptiveMfaIpFailureWindowSeconds : Nat
  adaptiveMfaIpFailureHighThreshold : Nat
  adaptiveMfaImpossibleTravelWindowMinutes : Nat
  rateLimitMfaRecoveryPerMin : Nat

/-! ## The state of a service -/

/-- What the clock shows when a call waits for something outside, and whether
that fails. -/
structure Reading where
  now : Instant
  fails : Bool

structure RateCounter where
  count : Nat
  expiresAt : Instant
  deriving DecidableEq

/-- A second factor that was proved. -/
inductive SecondFactor where
  | totp (factorId : String)
  | recoveryCode (codeId : String)
  deriving DecidableEq

/-- The tables, the logs and the counters.  `secondFactors` is a ghost;
`readings` are the answers still to come, `ticks` counts those used. -/
structure ServiceState where
  db : AccountDb
  loginAttempts : List LoginAttempt
  counters : String → Option RateCounter
  securityEvents : List SecurityEventInput
  auditLogs : List CreateAuditLogInput
  secondFactors : List SecondFactor
  readings : Nat → Reading
  ticks : Nat

inductive Failure where
  | api (error : ApiError)
  | unavailable
  | uniqueViolation (constraint : String)
  deriving DecidableEq

abbrev Service (Value : Type) := Call ServiceState Failure Value

def throwApi {Value : Type} (status : Nat) (code message : String) :
    Service Value :=
  fail (.api ⟨status, code, message⟩)

def nextReading : Service Reading := fun st =>
  (.ok (st.readings st.ticks), { st with ticks := st.ticks + 1 })

/-- `Date.now()`. -/
def dateNow : Service Instant := do
  let reading ← nextReading
  pure reading.now

/-- An operation outside the process, which may throw. -/
def external {Value : Type} (run : Instant → Service Value) :
    Service Value := do
  let reading ← nextReading
  if reading.fails then fail .unavailable else run reading.now

/-- A query on the account tables. -/
def select {Value : Type} (read : AccountDb → Value) : Service Value :=
  external fun _ => observe fun st => read st.db

def optionalText : Option String → Json
  | none => .null
  | some text => .str text

def natural (value : Nat) : Json := .num (.ofInt value)

/-! ### Running a call -/

/-- The state after a number of things waited for. -/
def ServiceState.tick (st : ServiceState) (count : Nat) : ServiceState :=
  { st with ticks := st.ticks + count }

section Run

variable {Value : Type} {st : ServiceState}

theorem external_of_answers {run : Instant → Service Value}
    (hanswers : (st.readings st.ticks).fails = false) :
    external run st = run (st.readings st.ticks).now (st.tick 1) := by
  change (if (st.readings st.ticks).fails = true then fail .unavailable
    else run (st.readings st.ticks).now) (st.tick 1) = _
  rw [hanswers]
  rfl

theorem external_of_fails {run : Instant → Service Value}
    (hfails : (st.readings st.ticks).fails = true) :
    external run st = (.error .unavailable, st.tick 1) := by
  change (if (st.readings st.ticks).fails = true then fail .unavailable
    else run (st.readings st.ticks).now) (st.tick 1) = _
  rw [if_pos hfails]
  rfl

theorem ensures_external_at {Value : Type} {run : Instant → Service Value}
    {post : Except Failure Value → ServiceState → Prop}
    (hrun : (st.readings st.ticks).fails = false →
      Ensures (run (st.readings st.ticks).now) post (st.tick 1))
    (hfails : (st.readings st.ticks).fails = true →
      post (.error .unavailable) (st.tick 1)) :
    Ensures (external run) post st := by
  unfold Ensures
  by_cases hanswers : (st.readings st.ticks).fails = false
  · rw [external_of_answers hanswers]
    exact hrun hanswers
  · rw [Bool.not_eq_false] at hanswers
    rw [external_of_fails hanswers]
    exact hfails hanswers

theorem select_of_answers {read : AccountDb → Value}
    (hanswers : (st.readings st.ticks).fails = false) :
    select read st = (.ok (read st.db), st.tick 1) :=
  external_of_answers hanswers

theorem select_of_fails {read : AccountDb → Value}
    (hfails : (st.readings st.ticks).fails = true) :
    select read st = (.error .unavailable, st.tick 1) :=
  external_of_fails hfails

end Run

/-! ## Logs and counters -/

namespace AuthRepository

def recordAttempt (email : String) (success : Bool)
    (ipAddress : Option String) : Service Unit :=
  external fun now => change fun st =>
    { st with
      loginAttempts :=
        { email := email
          success := success
          reason := if success then "ok" else "invalid_credentials"
          ipAddress := ipAddress
          createdAt := now } :: st.loginAttempts }

def countFailedAttemptsByIpSince (ipAddress : String) (since : Instant) :
    Service Nat :=
  external fun _ => observe fun st =>
    (st.loginAttempts.filter fun attempt =>
      !attempt.success && attempt.ipAddress == some ipAddress &&
        decide (since < attempt.createdAt)).length

end AuthRepository

namespace AuditRepository

def createSecurityEvent (eventType : String) (userId : Option String)
    (payload : Json) : Service Unit :=
  external fun _ => change fun st =>
    { st with
      securityEvents := ⟨eventType, userId, payload⟩ :: st.securityEvents }

def createAuditLog (input : CreateAuditLogInput) : Service Unit :=
  external fun _ => change fun st =>
    { st with auditLogs := input :: st.auditLogs }

end AuditRepository

namespace RateLimiter

structure RateLimit where
  allowed : Bool
  remaining : Nat

/-- `INCR`, and `EXPIRE` when the key is new. -/
def increment (counter : Option RateCounter) (now : Instant)
    (windowSeconds : Nat) : RateCounter :=
  match counter with
  | none => ⟨1, now + windowSeconds * 1000⟩
  | some counter =>
      if now < counter.expiresAt then ⟨counter.count + 1, counter.expiresAt⟩
      else ⟨1, now + windowSeconds * 1000⟩

def consume (key : String) (limit windowSeconds : Nat) : Service RateLimit :=
  external fun now => do
    let fullKey := "rl:" ++ key
    let counter ← observe fun st =>
      increment (st.counters fullKey) now windowSeconds
    change fun st =>
      { st with
        counters := fun other =>
          if other = fullKey then some counter else st.counters other }
    pure
      (if limit < counter.count then ⟨false, 0⟩
      else ⟨true, limit - counter.count⟩)

end RateLimiter

/-! ## Passwords and second factors -/

def Service.verifyPassword (env : LoginEnv) (password storedHash : String) :
    Service Bool :=
  if startsWith storedHash argon2Prefix then
    external fun _ => pure (env.argon2Verify storedHash password)
  else pure false

/-- The ghost of a proved second factor. -/
def proveSecondFactor (factor : SecondFactor) : Service Unit :=
  change fun st => { st with secondFactors := factor :: st.secondFactors }

namespace MfaRecoveryService

def normalizeCode (env : LoginEnv) (code : String) : String :=
  env.toUpperCase (String.ofList
    (code.toList.filter fun c => !(isWhitespace c || c == '-')))

def lookupHash (env : LoginEnv) (code : String) : String :=
  env.hmacSha256 (normalizeCode env code)

structure ConsumedCode where
  status : String
  remainingCount : Nat

def invalidCode {Value : Type} : Service Value :=
  throwApi 401 "invalid_mfa_recovery_code" "Invalid MFA recovery code"

def markUsed (codeId : String) : Service Bool :=
  external fun now => fun st =>
    let marked := IdProvider.markUsed st.db now codeId
    (.ok marked.2, { st with db := marked.1 })

def warnIfLow (userId : String) (remainingCount : Nat) : Service Unit :=
  if remainingCount ≤ 2 then
    AuditRepository.createSecurityEvent "mfa.recovery_codes.low" (some userId)
      (.obj [("remainingCount", natural remainingCount)])
  else pure ()

def reportUse (userId : String) : Service ConsumedCode := do
  let remainingCount ← select fun db => countActiveByUserId db userId
  let count := JsValue.number (.finite (.ofInt remainingCount))
  AuditRepository.createAuditLog
    { actorUserId := some userId
      action := "mfa.recovery_code.used"
      resourceType := "user"
      resourceId := some userId
      payload := [("remainingCount", count)] }
  AuditRepository.createSecurityEvent "mfa.recovery_code.used" (some userId)
    (.obj [("remainingCount", natural remainingCount)])
  warnIfLow userId remainingCount
  pure ⟨"verified", remainingCount⟩

/-- Only a code of the user is handed to `argon2.verify`. -/
def verifyCode (env : LoginEnv) (userId normalizedCode : String)
    (record : MfaRecoveryCode) : Service Bool :=
  if record.userId = userId then
    external fun _ => pure (env.argon2Verify record.codeHash normalizedCode)
  else pure false

def consumeCode (env : LoginEnv) (userId code : String) :
    Service ConsumedCode := do
  let normalizedCode := normalizeCode env code
  let record ← select fun db =>
    findActiveByLookupHash db (lookupHash env normalizedCode)
  match record with
  | none => invalidCode
  | some record =>
      let isValid ← verifyCode env userId normalizedCode record
      if isValid then
        let used ← markUsed record.id
        if used then
          proveSecondFactor (.recoveryCode record.id)
          reportUse userId
        else invalidCode
      else invalidCode

end MfaRecoveryService

namespace MfaService

structure Verified where
  status : String
  recoveryCodes : List String

def hasEnabledMfa (userId : String) : Service Bool := do
  let factors ← select fun db => findActiveFactorsByUserId db userId
  pure (decide (0 < factors.length))

/-- With `issueRecoveryCodes: false`, as every login calls it. -/
def verifyMfa (env : LoginEnv) (userId factorId code : String) :
    Service Verified := do
  let factor ← select fun db => findByFactorId db factorId
  match factor with
  | none => throwApi 401 "invalid_mfa" "Invalid MFA factor"
  | some factor =>
      if factor.userId ≠ userId then
        throwApi 401 "invalid_mfa" "Invalid MFA factor"
      else if factor.type ≠ "totp" ∨ given factor.secret = false then
        throwApi 401 "invalid_mfa" "Invalid MFA factor for TOTP verification"
      else
        let valid ← external fun now =>
          pure (env.totpCheck code (factor.secret.getD "") now)
        if valid then
          proveSecondFactor (.totp factor.id)
          pure ⟨"verified", []⟩
        else throwApi 401 "invalid_mfa" "Invalid MFA code"

end MfaService

/-! ## Adaptive risk -/

inductive RiskFactorKind where
  | newDevice
  | impossibleTravel
  | ipReputation
  deriving DecidableEq

inductive RiskLevel where
  | low
  | medium
  | high
  deriving DecidableEq

structure RiskFactor where
  factor : RiskFactorKind
  severity : RiskLevel
  details : Option Json
  deriving DecidableEq

/-- A factor and what it adds to the score. -/
structure RiskFinding where
  factor : RiskFactor
  score : Nat
  deriving DecidableEq

structure AdaptiveRisk where
  level : RiskLevel
  score : Nat
  factors : List RiskFactor
  deriving DecidableEq

def riskLevel (score : Nat) : RiskLevel :=
  if 70 ≤ score then .high else if 35 ≤ score then .medium else .low

def AdaptiveRisk.ofFindings (findings : List RiskFinding) : AdaptiveRisk :=
  let score := (findings.map RiskFinding.score).sum
  ⟨riskLevel score, score, findings.map RiskFinding.factor⟩

def AdaptiveRisk.none : AdaptiveRisk := ⟨.low, 0, []⟩

def RiskFactorKind.toJson : RiskFactorKind → Json
  | .newDevice => .str "new_device"
  | .impossibleTravel => .str "impossible_travel"
  | .ipReputation => .str "ip_reputation"

def RiskLevel.toJson : RiskLevel → Json
  | .low => .str "low"
  | .medium => .str "medium"
  | .high => .str "high"

def RiskFactor.toJson (factor : RiskFactor) : Json :=
  .obj (("factor", factor.factor.toJson) ::
    ("severity", factor.severity.toJson) ::
    match factor.details with
    | .none => []
    | some details => [("details", details)])

def AdaptiveRisk.factorsJson (risk : AdaptiveRisk) : Json :=
  .arr (risk.factors.map RiskFactor.toJson)

namespace AuthService

variable (env : LoginEnv)

def buildSessionUserAgent (userAgent deviceId : Option String) :
    Option String :=
  let normalizedUserAgent := orNull (userAgent.map trim)
  let normalizedDeviceId := orNull (deviceId.map trim)
  match normalizedDeviceId with
  | none => normalizedUserAgent
  | some deviceId =>
      some (normalizedUserAgent.getD "unknown-agent" ++ " | did:" ++ deviceId)

def isIpReputationHigh (ipAddress : Option String) : Bool :=
  match orNull ipAddress with
  | none => false
  | some ipAddress => env.adaptiveMfaHighRiskIps.contains ipAddress

def reputationFindings (ipAddress : Option String) : List RiskFinding :=
  if isIpReputationHigh env ipAddress then
    [⟨⟨.ipReputation, .high,
      some (.obj [("ipAddress", optionalText ipAddress)])⟩, 70⟩]
  else []

def failureFindings (ipAddress : Option String) :
    Service (List RiskFinding) := do
  match orNull ipAddress with
  | none => pure []
  | some ipAddress =>
      let now ← dateNow
      match storedDate
        (now - env.adaptiveMfaIpFailureWindowSeconds * 1000) with
      | none => fail .unavailable
      | some since =>
          let failedCount ←
            AuthRepository.countFailedAttemptsByIpSince ipAddress since
          pure
            (if env.adaptiveMfaIpFailureHighThreshold ≤ failedCount then
              [⟨⟨.ipReputation, .medium,
                some (.obj [("failedCount", natural failedCount)])⟩, 35⟩]
            else [])

def deviceFindings (userId : String) (sessionUserAgent : Option String) :
    Service (List RiskFinding) := do
  match orNull sessionUserAgent with
  | none => pure []
  | some userAgent =>
      let seen ← select fun db => hasSeenUserAgent db userId userAgent
      pure (if seen then [] else [⟨⟨.newDevice, .medium, none⟩, 30⟩])

def travelFindings (latestSession : UserSession) (ipAddress : Option String) :
    Service (List RiskFinding) := do
  match orNull latestSession.ipAddress, orNull ipAddress with
  | some previous, some current =>
      if previous ≠ current then
        let now ← dateNow
        let elapsedMs := now - latestSession.lastSeenAt
        let windowMs : Int :=
          env.adaptiveMfaImpossibleTravelWindowMinutes * 60 * 1000
        pure
          (if elapsedMs ≤ windowMs then
            [⟨⟨.impossibleTravel, .high,
              some (.obj
                [("previousIpAddress", .str previous),
                  ("currentIpAddress", .str current),
                  ("elapsedMs", .num (.ofInt elapsedMs))])⟩, 45⟩]
          else [])
      else pure []
  | _, _ => pure []

def historyFindings (userId : String)
    (ipAddress sessionUserAgent : Option String) :
    Service (List RiskFinding) := do
  let latestSession ← select fun db => findLatestByUserId db userId
  match latestSession with
  | none => pure []
  | some latestSession =>
      let device ← deviceFindings userId sessionUserAgent
      let travel ← travelFindings env latestSession ipAddress
      pure (device ++ travel)

def assessAdaptiveRisk (userId : String)
    (ipAddress sessionUserAgent : Option String) :
    Service AdaptiveRisk := do
  let failures ← failureFindings env ipAddress
  let history ← historyFindings env userId ipAddress sessionUserAgent
  pure (.ofFindings (reputationFindings env ipAddress ++ failures ++ history))

/-! ## Logins -/

/-- A failed insert is logged and swallowed. -/
def createSecurityEvent (eventType : String) (userId : Option String)
    (payload : Json) : Service Unit :=
  attempt (AuditRepository.createSecurityEvent eventType userId payload)

structure MfaInput where
  mfaCode : Option String
  mfaFactorId : Option String
  mfaRecoveryCode : Option String
  deriving DecidableEq

def enforceMfaForLogin (userId : String) (ipAddress : Option String)
    (mfa : MfaInput) : Service Bool := do
  let mfaEnabled ← MfaService.hasEnabledMfa userId
  if mfaEnabled then
    match orNull mfa.mfaRecoveryCode with
    | some recoveryCode =>
        let rate ← RateLimiter.consume ("mfa-recovery:" ++ userId)
          env.rateLimitMfaRecoveryPerMin 60
        let ipRate ← RateLimiter.consume
          ("mfa-recovery-ip:" ++ ipAddress.getD "unknown")
          env.rateLimitMfaRecoveryPerMin 60
        if rate.allowed = false ∨ ipRate.allowed = false then
          throwApi 429 "rate_limited" "Too many MFA recovery attempts"
        else
          let _ ← MfaRecoveryService.consumeCode env userId recoveryCode
          pure true
    | none =>
        match orNull mfa.mfaCode, orNull mfa.mfaFactorId with
        | some code, some factorId =>
            let _ ← MfaService.verifyMfa env userId factorId code
            pure true
        | _, _ => throwApi 401 "mfa_required" "MFA verification is required"
  else pure false

/-- What `createOpaqueToken` and the database draw for a session. -/
structure SessionDraw where
  id : String
  accessToken : String
  refreshToken : String
  deriving DecidableEq

structure IssuedSession where
  sessionId : String
  accessToken : String
  refreshToken : String
  accessExpiresAt : String
  refreshExpiresAt : String
  deriving DecidableEq

/-- `INSERT` into `user_sessions`, whose token hashes are unique columns.  It
is refused where a date is none that can be stored. -/
def insertSession (row : UserSession) : Service Unit := fun st =>
  let taken := st.db.userSessions.rows.any fun session =>
    session.accessTokenHash == row.accessTokenHash ||
      session.refreshTokenHash == row.refreshTokenHash
  if row.storable then
    match st.db.userSessions.insert? row with
    | none => (.error (.uniqueViolation "user_sessions_pkey"), st)
    | some userSessions =>
        if taken then
          (.error (.uniqueViolation "user_sessions_token_hash_key"), st)
        else
          (.ok (),
            { st with db := { st.db with userSessions := userSessions } })
  else (.error .unavailable, st)

def createSession (draw : SessionDraw) (userId : String)
    (ipAddress userAgent : Option String) : Service IssuedSession := do
  let accessNow ← dateNow
  let expiresAt := accessNow + env.accessTokenTtlSeconds * 1000
  let refreshNow ← dateNow
  let refreshExpiresAt := refreshNow + env.refreshTokenTtlSeconds * 1000
  external fun now => insertSession
    { id := draw.id
      userId := userId
      accessTokenHash := env.hashOpaqueToken draw.accessToken
      refreshTokenHash := env.hashOpaqueToken draw.refreshToken
      ipAddress := ipAddress
      userAgent := userAgent
      expiresAt := .ofInstant expiresAt
      refreshExpiresAt := .ofInstant refreshExpiresAt
      revokedAt := none
      lastSeenAt := now
      createdAt := now }
  pure
    { sessionId := draw.id
      accessToken := draw.accessToken
      refreshToken := draw.refreshToken
      accessExpiresAt := toISOString expiresAt
      refreshExpiresAt := toISOString refreshExpiresAt }

inductive LoginResult where
  | mfaRequired (userId : String) (adaptiveRisk : Option AdaptiveRisk)
  | ok (userId : String) (session : IssuedSession) (mfaEnabled : Bool)
      (adaptiveRisk : AdaptiveRisk)
  deriving DecidableEq

structure LoginInput where
  email : String
  password : String
  ipAddress : Option String
  userAgent : Option String
  mfa : MfaInput
  deviceId : Option String
  deriving DecidableEq

def invalidCredentials {Value : Type} : Service Value :=
  throwApi 401 "invalid_credentials" "Invalid email or password"

def rejectPassword (input : LoginInput) : Service LoginResult := do
  AuthRepository.recordAttempt input.email false input.ipAddress
  createSecurityEvent "login.failed" none
    (.obj
      [("email", .str input.email),
        ("ipAddress", optionalText input.ipAddress),
        ("reason", .str "invalid_credentials")])
  invalidCredentials

def UserStatus.toJson : UserStatus → Json
  | .active => .str "active"
  | .suspended => .str "suspended"
  | .deleted => .str "deleted"

def rejectInactive (input : LoginInput) (user : User) :
    Service LoginResult := do
  createSecurityEvent "login.failed" (some user.id)
    (.obj
      [("email", .str input.email),
        ("ipAddress", optionalText input.ipAddress),
        ("reason", .str "inactive_user"),
        ("status", UserStatus.toJson user.status)])
  invalidCredentials

def riskPayload (email : String) (ipAddress : Option String)
    (risk : AdaptiveRisk) : Json :=
  .obj
    [("email", .str email),
      ("ipAddress", optionalText ipAddress),
      ("score", natural risk.score),
      ("factors", risk.factorsJson)]

/-- The last part of a login: the session and its event. -/
def finishLogin (input : LoginInput) (draw : SessionDraw) (userId : String)
    (sessionUserAgent : Option String) (mfaEnabled : Bool)
    (adaptiveRisk : AdaptiveRisk) : Service LoginResult := do
  let session ← createSession env draw userId input.ipAddress sessionUserAgent
  createSecurityEvent "login.success" (some userId)
    (.obj
      [("email", .str input.email),
        ("ipAddress", optionalText input.ipAddress),
        ("mfaEnabled", .bool mfaEnabled),
        ("adaptiveRiskLevel", adaptiveRisk.level.toJson),
        ("adaptiveRiskScore", natural adaptiveRisk.score),
        ("adaptiveRiskFactors", adaptiveRisk.factorsJson)])
  pure (.ok userId session mfaEnabled adaptiveRisk)

def assessLogin (userId : String) (ipAddress sessionUserAgent : Option String) :
    Service AdaptiveRisk :=
  if env.adaptiveMfaEnabled then
    assessAdaptiveRisk env userId ipAddress sessionUserAgent
  else pure AdaptiveRisk.none

/-- A login whose password is right and whose user is active. -/
def loginActive (input : LoginInput) (draw : SessionDraw) (userId : String) :
    Service LoginResult := do
  let mfaEnabled ← MfaService.hasEnabledMfa userId
  let sessionUserAgent := buildSessionUserAgent input.userAgent input.deviceId
  let adaptiveRisk ← assessLogin env userId input.ipAddress sessionUserAgent
  if adaptiveRisk.level = .high then
    createSecurityEvent "adaptive_mfa.blocked" (some userId)
      (riskPayload input.email input.ipAddress adaptiveRisk)
    throwApi 403 "adaptive_mfa_blocked"
      "Request blocked by adaptive risk policy"
  else if adaptiveRisk.level = .medium ∧ mfaEnabled = false ∧
      env.adaptiveMfaRequireForMedium = true then
    createSecurityEvent "adaptive_mfa.enrollment_required" (some userId)
      (riskPayload input.email input.ipAddress adaptiveRisk)
    throwApi 401 "adaptive_mfa_enrollment_required"
      "MFA enrollment is required for this login"
  else if mfaEnabled = true ∧ given input.mfa.mfaCode = false ∧
      given input.mfa.mfaRecoveryCode = false then
    pure (.mfaRequired userId
      (if adaptiveRisk.level ≠ .low then some adaptiveRisk else none))
  else if mfaEnabled = true then
    let _ ← enforceMfaForLogin env userId input.ipAddress input.mfa
    finishLogin env input draw userId sessionUserAgent mfaEnabled adaptiveRisk
  else
    finishLogin env input draw userId sessionUserAgent mfaEnabled adaptiveRisk

def loginUser (input : LoginInput) (draw : SessionDraw) (user : User) :
    Service LoginResult := do
  AuthRepository.recordAttempt input.email true input.ipAddress
  if user.status ≠ .active then rejectInactive input user
  else loginActive env input draw user.id

def login (input : LoginInput) (draw : SessionDraw) :
    Service LoginResult := do
  if given input.mfa.mfaCode = true ∧
      given input.mfa.mfaRecoveryCode = true then
    throwApi 400 "mfa_method_conflict" "Use either MFA code or recovery code"
  else
    let user ← select fun db => findWithPasswordByEmail db input.email
    match user with
    | none => rejectPassword input
    | some user =>
        let isValidPassword ← Service.verifyPassword env
          input.password user.password.passwordHash
        if isValidPassword then loginUser env input draw user.user
        else rejectPassword input

end AuthService

end IdProvider
