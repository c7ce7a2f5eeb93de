/-
The counters and the challenge in front of the password check of a login.
-/
import IdProvider.PasswordChange

namespace IdProvider

open JsonText ServiceCall AuthService

/-! ## Bot risk -/

inductive TurnstileMode where
  | off
  | risk
  | always
  deriving DecidableEq

structure TurnstileResult where
  ok : Bool
  action : Option String
  hostname : Option String
  errorCodes : List String

/-- `mediumWatermark` is the rounded share of the threshold.
`verifyTurnstileToken` is the answer of the service to a token and an address,
or the text of the error. -/
structure BotEnv extends LoginEnv where
  rateLimitLoginPerMin : Nat
  botRiskWindowSeconds : Nat
  botRiskLoginThresholdPerWindow : Nat
  mediumWatermark : Nat
  turnstileEnabled : Bool
  turnstileEnforceLoginMode : TurnstileMode
  turnstileExpectedHostname : String
  verifyTurnstileToken : String → Option String → Instant →
    Except String TurnstileResult

def getIpAddress (headerValue : Option String) : Option String :=
  match orNull headerValue with
  | none => none
  | some headerValue =>
      let first := String.ofList
        (headerValue.toList.takeWhile fun c => c != ',')
      (orNull (some first)).map trim

inductive BotRiskLevel where
  | low
  | medium
  | high
  deriving DecidableEq

structure BotRiskInput where
  endpoint : String
  email : Option String
  ipAddress : Option String
  userAgent : Option String

namespace AuthService

def isBlank (userAgent : Option String) : Bool :=
  match orNull userAgent with
  | none => true
  | some userAgent => trim userAgent == ""

section BotRisk

variable (env : BotEnv)

def ipRiskKey (endpoint : String) (ipAddress : Option String) : String :=
  "bot-risk:" ++ endpoint ++ ":ip:" ++ ipAddress.getD "unknown"

def emailRiskKey (endpoint email : String) : String :=
  "bot-risk:" ++ endpoint ++ ":email:" ++ email

def consumeIpRisk (input : BotRiskInput) : Service RateLimiter.RateLimit :=
  RateLimiter.consume (ipRiskKey input.endpoint input.ipAddress)
    env.botRiskLoginThresholdPerWindow env.botRiskWindowSeconds

def consumeEmailRisk (endpoint email : String) :
    Service RateLimiter.RateLimit :=
  RateLimiter.consume (emailRiskKey endpoint email)
    env.botRiskLoginThresholdPerWindow env.botRiskWindowSeconds

/-- The level after the counter of the email address. -/
def emailRiskLevel (ipRate emailRate : RateLimiter.RateLimit) :
    BotRiskLevel :=
  if emailRate.allowed = false then .high
  else if emailRate.remaining ≤ env.mediumWatermark ∨
      ipRate.remaining ≤ env.mediumWatermark then .medium
  else .low

def ipRiskLevel (ipRate : RateLimiter.RateLimit) : BotRiskLevel :=
  if ipRate.remaining ≤ env.mediumWatermark then .medium else .low

def assessEmailRisk (endpoint email : String)
    (ipRate : RateLimiter.RateLimit) : Service BotRiskLevel := do
  let emailRate ← consumeEmailRisk env endpoint email
  pure (emailRiskLevel env ipRate emailRate)

def assessBotRiskForLogin (input : BotRiskInput) : Service BotRiskLevel := do
  let ipRate ← consumeIpRisk env input
  if ipRate.allowed = false then pure .high
  else if isBlank input.userAgent then pure .medium
  else
    match orNull input.email with
    | none => pure (ipRiskLevel env ipRate)
    | some email => assessEmailRisk env input.endpoint email ipRate

end BotRisk

end AuthService

/-! ## `POST /v1/login` -/

/-- What `loginRequestSchema` returns, and the headers. -/
structure LoginRequest where
  email : String
  password : String
  mfa : MfaInput
  challengeToken : Option String
  xForwardedFor : Option String
  userAgent : Option String
  xDeviceId : Option String
  deriving DecidableEq

namespace LoginRequest

def ipAddress (request : LoginRequest) : Option String :=
  getIpAddress request.xForwardedFor

def botRisk (request : LoginRequest) : BotRiskInput where
  endpoint := "login"
  email := some request.email
  ipAddress := request.ipAddress
  userAgent := orNull request.userAgent

def input (request : LoginRequest) : LoginInput where
  email := request.email
  password := request.password
  ipAddress := request.ipAddress
  userAgent := orNull request.userAgent
  mfa := request.mfa
  deviceId := orNull request.xDeviceId

end LoginRequest

namespace AuthRoutes

variable (env : BotEnv)

def recordBotEvent (eventType : String) (payload : List (String × Json)) :
    Service Unit :=
  createSecurityEvent eventType none (.obj payload)

structure ChallengeInput where
  endpoint : String
  action : String
  ipAddress : Option String
  token : Option String
  failOpenOnProviderError : Bool

def ChallengeInput.payload (input : ChallengeInput) : List (String × Json) :=
  [("endpoint", .str input.endpoint),
    ("action", .str input.action),
    ("ipAddress", optionalText input.ipAddress)]

/-- An answer of Turnstile, or its absence. -/
def judgeChallenge (input : ChallengeInput)
    (answer : Except String TurnstileResult) : Service Unit :=
  match answer with
  | .error error => do
      recordBotEvent "bot.challenge.provider_error"
        (input.payload ++ [("error", .str error)])
      if input.failOpenOnProviderError then pure ()
      else
        throwApi 503 "challenge_provider_unavailable"
          "Bot challenge verification is temporarily unavailable"
  | .ok verification =>
      let hostnameOk := decide (trim env.turnstileExpectedHostname = "" ∨
        verification.hostname = some env.turnstileExpectedHostname)
      let actionOk := decide (verification.action = some input.action)
      if verification.ok = false ∨ actionOk = false ∨ hostnameOk = false then do
        recordBotEvent "bot.challenge.invalid"
          (input.payload ++
            [("verifiedAction", optionalText verification.action),
              ("hostname", optionalText verification.hostname),
              ("errorCodes", .arr (verification.errorCodes.map .str)),
              ("actionOk", .bool actionOk),
              ("hostnameOk", .bool hostnameOk)])
        throwApi 401 "invalid_challenge" "Invalid bot challenge token"
      else pure ()

def askTurnstile (token : String) (ipAddress : Option String) :
    Service (Except String TurnstileResult) := do
  let reading ← nextReading
  pure
    (if reading.fails then .error "TypeError: fetch failed"
    else env.verifyTurnstileToken token ipAddress reading.now)

def verifyChallengeOrThrow (input : ChallengeInput) : Service Unit :=
  if env.turnstileEnabled = false then pure ()
  else
    match orNull input.token with
    | none => do
        recordBotEvent "bot.challenge.missing" input.payload
        throwApi 400 "challenge_required" "Bot challenge token is required"
    | some token => do
        let answer ← askTurnstile env token input.ipAddress
        judgeChallenge env input answer

/-- What the route does about a level. -/
def enforceRiskLevel (request : LoginRequest) (riskLevel : BotRiskLevel) :
    Service Unit :=
  if riskLevel = .high then do
    recordBotEvent "bot.risk.blocked"
      [("endpoint", .str "login"),
        ("ipAddress", optionalText request.ipAddress),
        ("email", .str request.email)]
    throwApi 403 "bot_risk_blocked" "Request blocked by bot risk policy"
  else if env.turnstileEnforceLoginMode = .always ∨
      env.turnstileEnforceLoginMode = .risk ∧ riskLevel = .medium then
    verifyChallengeOrThrow env
      { endpoint := "login"
        action := "login"
        ipAddress := request.ipAddress
        token := request.challengeToken
        failOpenOnProviderError := true }
  else pure ()

def consumeLogin (request : LoginRequest) : Service RateLimiter.RateLimit :=
  RateLimiter.consume
    ("login:" ++ request.email ++ ":" ++ request.ipAddress.getD "unknown")
    env.rateLimitLoginPerMin 60

def login (request : LoginRequest) (draw : SessionDraw) :
    Service LoginResult := do
  let rate ← consumeLogin env request
  if rate.allowed = false then
    throwApi 429 "rate_limited" "Too many login attempts"
  else
    let riskLevel ← assessBotRiskForLogin env request.botRisk
    enforceRiskLevel env request riskLevel
    AuthService.login env.toLoginEnv request.input draw

end AuthRoutes

/-! ## `POST /interaction/:uid` -/

/-- The fields of the form. -/
structure InteractionForm where
  email : Option String
  password : Option String
  mfaCode : Option String
  mfaRecoveryCode : Option String
  deriving DecidableEq

/-- What the interaction passes to `authService.login`. -/
def InteractionForm.input (form : InteractionForm) : LoginInput where
  email := form.email.getD ""
  password := form.password.getD ""
  ipAddress := none
  userAgent := none
  mfa := ⟨orNull form.mfaCode, none, orNull form.mfaRecoveryCode⟩
  deviceId := none

/-! ## The parts of a request -/

/-- What the route does next.  A ticket is a ghost of the counter of the
address. -/
inductive RoutePhase where
  | limiting
  | assessingIp
  | assessingEmail (ipRate : RateLimiter.RateLimit)
  | assessed (ticket : Option Nat) (riskLevel : BotRiskLevel)
  | admitted (ticket : Option Nat)

namespace RoutePhase

variable (env : BotEnv) (request : LoginRequest) (draw : SessionDraw)

/-- `newTicket` is taken when the counter of the address allows the request. -/
def next (newTicket : Nat) : RoutePhase → Service RoutePhase
  | .limiting => do
      let rate ← AuthRoutes.consumeLogin env request
      if rate.allowed = false then
        throwApi 429 "rate_limited" "Too many login attempts"
      else pure .assessingIp
  | .assessingIp => do
      let ipRate ← consumeIpRisk env request.botRisk
      if ipRate.allowed = false then pure (.assessed none .high)
      else if isBlank request.botRisk.userAgent then
        pure (.assessed none .medium)
      else if request.email = "" then
        pure (.assessed none (ipRiskLevel env ipRate))
      else pure (.assessingEmail ipRate)
  | .assessingEmail ipRate => do
      let emailRate ← consumeEmailRisk env "login" request.email
      pure
        (.assessed (if emailRate.allowed then some newTicket else none)
          (emailRiskLevel env ipRate emailRate))
  | .assessed ticket riskLevel => do
      AuthRoutes.enforceRiskLevel env request riskLevel
      pure (.admitted ticket)
  | .admitted ticket => pure (.admitted ticket)

/-- What is left of the route. -/
def remaining : RoutePhase → Service LoginResult
  | .limiting => AuthRoutes.login env request draw
  | .assessingIp => do
      let riskLevel ← assessBotRiskForLogin env request.botRisk
      AuthRoutes.enforceRiskLevel env request riskLevel
      AuthService.login env.toLoginEnv request.input draw
  | .assessingEmail ipRate => do
      let riskLevel ← assessEmailRisk env "login" request.email ipRate
      AuthRoutes.enforceRiskLevel env request riskLevel
      AuthService.login env.toLoginEnv request.input draw
  | .assessed _ riskLevel => do
      AuthRoutes.enforceRiskLevel env request riskLevel
      AuthService.login env.toLoginEnv request.input draw
  | .admitted _ => AuthService.login env.toLoginEnv request.input draw

/-- One part after the other, the parts make up the route. -/
theorem remaining_eq (newTicket : Nat) (phase : RoutePhase) :
    phase.remaining env request draw =
      phase.next env request newTicket >>= remaining env request draw := by
  cases phase with
  | limiting =>
      simp only [remaining, next, AuthRoutes.login, bind_assoc, ite_bind,
        pure_bind, LoginPhase.throwApi_bind]
  | assessingIp =>
      have hemail : orNull request.botRisk.email =
          if request.email = "" then none else some request.email :=
        orNull_some request.email
      simp only [remaining, next, assessBotRiskForLogin, hemail, bind_assoc,
        ite_bind, pure_bind]
      by_cases hempty : request.email = ""
      · simp only [if_pos hempty, pure_bind]
      · simp only [if_neg hempty]
        rfl
  | assessingEmail ipRate =>
      simp only [remaining, next, assessEmailRisk, bind_assoc, pure_bind]
  | assessed ticket riskLevel =>
      simp only [remaining, next, bind_assoc, pure_bind]
  | admitted ticket => simp only [remaining, next, pure_bind]

end RoutePhase

end IdProvider
