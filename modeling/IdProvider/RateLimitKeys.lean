/-
The rate-limit keys of the public routes, behind the proxy that forwards the
requests.
-/
import IdProvider.BotRisk
import Mathlib.Data.Bool.AllAny

namespace IdProvider

open JsonText ServiceCall AuthService

/-! ## The routes -/

/-- `turnstileRequiredActions` is the parsed list of the environment. -/
structure RouteEnv extends BotEnv, GoogleEnv where
  rateLimitSignupPerMin : Nat
  turnstileRequiredActions : List String

/-- What `signupRequestSchema` returns, with the hash of the password, and the
header. -/
structure SignupRequest where
  email : String
  passwordHash : String
  challengeToken : Option String
  xForwardedFor : Option String
  deriving DecidableEq

def SignupRequest.ipAddress (request : SignupRequest) : Option String :=
  getIpAddress request.xForwardedFor

/-- What `passwordResetRequestSchema` returns, and the header. -/
structure PasswordResetRequest where
  email : String
  challengeToken : Option String
  xForwardedFor : Option String
  deriving DecidableEq

def PasswordResetRequest.ipAddress (request : PasswordResetRequest) :
    Option String :=
  getIpAddress request.xForwardedFor

namespace AuthRoutes

def signupKey (ipAddress : Option String) : String :=
  "signup:" ++ ipAddress.getD "unknown"

def loginKey (email : String) (ipAddress : Option String) : String :=
  "login:" ++ email ++ ":" ++ ipAddress.getD "unknown"

def passwordResetKey (email : String) (ipAddress : Option String) : String :=
  "password-reset:" ++ email ++ ":" ++ ipAddress.getD "unknown"

theorem consumeLogin_eq (env : BotEnv) (request : LoginRequest) :
    consumeLogin env request =
      RateLimiter.consume (loginKey request.email request.ipAddress)
        env.rateLimitLoginPerMin 60 :=
  rfl

variable (env : RouteEnv)

/-- The challenge of a route that asks for one by its name. -/
def requireChallenge (action : String) (ipAddress token : Option String) :
    Service Unit :=
  if action ∈ env.turnstileRequiredActions then
    verifyChallengeOrThrow env.toBotEnv
      { endpoint := action
        action := action
        ipAddress := ipAddress
        token := token
        failOpenOnProviderError := false }
  else pure ()

/-- `POST /v1/signup` -/
def signup (request : SignupRequest) (draw : UserRepository.UserDraw)
    (tokenDraw : VerificationRepository.TokenDraw) : Service String := do
  let rate ← RateLimiter.consume (signupKey request.ipAddress)
    env.rateLimitSignupPerMin 60
  if rate.allowed = false then
    throwApi 429 "rate_limited" "Too many signup attempts"
  else
    requireChallenge env "signup" request.ipAddress request.challengeToken
    AuthService.signup env.toGoogleEnv draw tokenDraw request.email
      request.passwordHash

/-- `POST /v1/password/reset/request` -/
def requestPasswordReset (request : PasswordResetRequest)
    (tokenDraw : VerificationRepository.TokenDraw) :
    Service (Option String) := do
  let rate ← RateLimiter.consume
    (passwordResetKey request.email request.ipAddress)
    env.rateLimitLoginPerMin 60
  if rate.allowed = false then
    throwApi 429 "rate_limited" "Too many password reset attempts"
  else
    requireChallenge env "password_reset" request.ipAddress
      request.challengeToken
    AuthService.requestPasswordReset env.toGoogleEnv tokenDraw request.email

end AuthRoutes

/-! ## The proxy -/

/-- `$remote_addr` -/
structure PeerAddress where
  text : String
  nonempty : text ≠ ""
  plain : ∀ c ∈ text.toList, c ≠ ',' ∧ isWhitespace c = false

/-- `$proxy_add_x_forwarded_for`, from the header that the client sent. -/
def proxyAddXForwardedFor (sent : Option String) (peer : PeerAddress) :
    String :=
  match sent with
  | none => peer.text
  | some sent => sent ++ ", " ++ peer.text

/-- The header as the server reads it. -/
def forwardedHeader (peer : PeerAddress) (sent : Option String) :
    Option String :=
  some (proxyAddXForwardedFor sent peer)

def SignupRequest.through (request : SignupRequest) (peer : PeerAddress)
    (sent : Option String) : SignupRequest :=
  { request with xForwardedFor := forwardedHeader peer sent }

def LoginRequest.through (request : LoginRequest) (peer : PeerAddress)
    (sent : Option String) : LoginRequest :=
  { request with xForwardedFor := forwardedHeader peer sent }

def PasswordResetRequest.through (request : PasswordResetRequest)
    (peer : PeerAddress) (sent : Option String) : PasswordResetRequest :=
  { request with xForwardedFor := forwardedHeader peer sent }

/-- What stands before the first comma of a header. -/
def firstEntry (header : String) : String :=
  String.ofList (header.toList.takeWhile fun c => c != ',')

theorem getIpAddress_some (header : String) :
    getIpAddress (some header) = (orNull (some (firstEntry header))).map trim := by
  rw [getIpAddress, orNull_some]
  by_cases hempty : header = ""
  · subst hempty
    rfl
  · rw [if_neg hempty]
    rfl

theorem takeWhile_append_stop {keep : Char → Bool} {c : Char}
    (hstop : keep c = false) (text rest : List Char) :
    (text ++ c :: rest).takeWhile keep = text.takeWhile keep := by
  induction text with
  | nil => simp [hstop]
  | cons first text ih =>
      by_cases hkeep : keep first = true
      · simp [hkeep, ih]
      · simp [hkeep]

/-- The proxy adds after the comma: the first entry stays the client's. -/
theorem firstEntry_forwarded (sent : String) (peer : PeerAddress) :
    firstEntry (proxyAddXForwardedFor (some sent) peer) = firstEntry sent := by
  have htext : (sent ++ ", " ++ peer.text).toList =
      sent.toList ++ ',' :: ' ' :: peer.text.toList := by
    rw [String.toList_append, String.toList_append, List.append_assoc]
    rfl
  rw [firstEntry, proxyAddXForwardedFor, htext, takeWhile_append_stop rfl]
  rfl

theorem firstEntry_peer (peer : PeerAddress) :
    firstEntry peer.text = peer.text := by
  have hall : (peer.text.toList.takeWhile fun c => c != ',') =
      peer.text.toList := by
    rw [List.takeWhile_eq_self_iff]
    intro c hc
    simpa using (peer.plain c hc).1
  rw [firstEntry, hall, String.ofList_toList]

theorem trim_peer (peer : PeerAddress) : trim peer.text = peer.text := by
  have htrim := trim_ofList fun c hc => (peer.plain c hc).2
  rwa [String.ofList_toList] at htrim

theorem getIpAddress_peer (peer : PeerAddress) :
    getIpAddress (forwardedHeader peer none) = some peer.text := by
  rw [forwardedHeader, proxyAddXForwardedFor, getIpAddress_some,
    firstEntry_peer, orNull_some, if_neg peer.nonempty, Option.map_some,
    trim_peer]

theorem getIpAddress_sent (peer : PeerAddress) (sent : String) :
    getIpAddress (forwardedHeader peer (some sent)) =
      if firstEntry sent = "" then none else some (trim (firstEntry sent)) := by
  rw [forwardedHeader, getIpAddress_some, firstEntry_forwarded, orNull_some]
  by_cases hempty : firstEntry sent = ""
  · rw [if_pos hempty, if_pos hempty, Option.map_none]
  · rw [if_neg hempty, if_neg hempty, Option.map_some]

/-! ## Two requests -/

/-- Both headers start with one name, once the white space around it is gone;
a header that is not sent stands for the peer's own address. -/
def NamesAlike (peer : PeerAddress) :
    Option String → Option String → Prop
  | none, none => True
  | none, some sent => trim (firstEntry sent) = peer.text
  | some sent, none => trim (firstEntry sent) = peer.text
  | some sent, some sent' =>
      (firstEntry sent = "" ↔ firstEntry sent' = "") ∧
        trim (firstEntry sent) = trim (firstEntry sent')

/-- What the header of a client shows in, on the way to the limiter. -/
structure SameKeys (peer : PeerAddress) (sent sent' : Option String) :
    Prop where
  address : getIpAddress (forwardedHeader peer sent) =
    getIpAddress (forwardedHeader peer sent')
  signup : ∀ request : SignupRequest,
    AuthRoutes.signupKey (request.through peer sent).ipAddress =
      AuthRoutes.signupKey (request.through peer sent').ipAddress
  login : ∀ request : LoginRequest,
    AuthRoutes.loginKey request.email (request.through peer sent).ipAddress =
      AuthRoutes.loginKey request.email (request.through peer sent').ipAddress
  passwordReset : ∀ request : PasswordResetRequest,
    AuthRoutes.passwordResetKey request.email
        (request.through peer sent).ipAddress =
      AuthRoutes.passwordResetKey request.email
        (request.through peer sent').ipAddress

theorem SameKeys.of_address {peer : PeerAddress} {sent sent' : Option String}
    (haddress : getIpAddress (forwardedHeader peer sent) =
      getIpAddress (forwardedHeader peer sent')) :
    SameKeys peer sent sent' where
  address := haddress
  signup := fun _ => congrArg AuthRoutes.signupKey haddress
  login := fun request =>
    congrArg (AuthRoutes.loginKey request.email) haddress
  passwordReset := fun request =>
    congrArg (AuthRoutes.passwordResetKey request.email) haddress

theorem names_peer_iff (peer : PeerAddress) (sent : String) :
    getIpAddress (forwardedHeader peer (some sent)) = some peer.text ↔
      trim (firstEntry sent) = peer.text := by
  rw [getIpAddress_sent]
  by_cases hempty : firstEntry sent = ""
  · rw [if_pos hempty, hempty]
    constructor
    · exact nofun
    · intro hpeer
      exact absurd hpeer.symm peer.nonempty
  · rw [if_neg hempty, Option.some.injEq]

theorem names_alike_iff (peer : PeerAddress) (sent sent' : String) :
    getIpAddress (forwardedHeader peer (some sent)) =
        getIpAddress (forwardedHeader peer (some sent')) ↔
      NamesAlike peer (some sent) (some sent') := by
  rw [getIpAddress_sent, getIpAddress_sent, NamesAlike]
  by_cases hempty : firstEntry sent = ""
  · by_cases hempty' : firstEntry sent' = ""
    · simp [hempty, hempty']
    · simp [hempty, hempty']
  · by_cases hempty' : firstEntry sent' = ""
    · simp [hempty, hempty']
    · simp [hempty, hempty']

theorem address_eq_iff (peer : PeerAddress) (sent sent' : Option String) :
    getIpAddress (forwardedHeader peer sent) =
        getIpAddress (forwardedHeader peer sent') ↔
      NamesAlike peer sent sent' := by
  cases sent with
  | none =>
      rw [getIpAddress_peer]
      cases sent' with
      | none => rw [getIpAddress_peer, NamesAlike, eq_self]
      | some sent' => exact eq_comm.trans (names_peer_iff peer sent')
  | some sent =>
      cases sent' with
      | none =>
          rw [getIpAddress_peer]
          exact names_peer_iff peer sent
      | some sent' => exact names_alike_iff peer sent sent'

/-- The client's header stays out of the keys exactly when it names the same
address first. -/
theorem sameKeys_iff_namesAlike (peer : PeerAddress)
    (sent sent' : Option String) :
    SameKeys peer sent sent' ↔ NamesAlike peer sent sent' := by
  constructor
  · intro hsame
    exact (address_eq_iff peer sent sent').mp hsame.address
  · intro halike
    exact SameKeys.of_address ((address_eq_iff peer sent sent').mpr halike)

/-- The keys tell the addresses apart, up to the name of an absent one. -/
theorem keys_eq_iff (email : String) (ipAddress ipAddress' : Option String) :
    (AuthRoutes.signupKey ipAddress = AuthRoutes.signupKey ipAddress' ∧
      AuthRoutes.loginKey email ipAddress =
        AuthRoutes.loginKey email ipAddress' ∧
      AuthRoutes.passwordResetKey email ipAddress =
        AuthRoutes.passwordResetKey email ipAddress') ↔
      ipAddress.getD "unknown" = ipAddress'.getD "unknown" := by
  have hreset : ∀ address : Option String,
      AuthRoutes.passwordResetKey email address =
        "password-reset:" ++ email ++ ":" ++ address.getD "unknown" :=
    fun _ => rfl
  simp only [AuthRoutes.signupKey, AuthRoutes.loginKey, hreset,
    String.append_right_inj, and_self]

namespace ForwardedWitness

def peer : PeerAddress where
  text := "203.0.113.9"
  nonempty := by decide
  plain := List.all_iff_forall_prop.mp (by decide +kernel)

/-- A client behind one address takes a fresh key with every header. -/
theorem not_sameKeys :
    ¬ ∀ (peer : PeerAddress) (sent sent' : Option String),
      SameKeys peer sent sent' := by
  intro hall
  have hsame :=
    (hall peer (some "198.51.100.1") (some "198.51.100.2")).signup
      { email := "alice@example.com"
        passwordHash := "$argon2id$alice"
        challengeToken := none
        xForwardedFor := none }
  revert hsame
  decide +kernel

end ForwardedWitness

/-! ## Requests that name one address -/

section Alike

variable {peer : PeerAddress} {sent sent' : Option String}

theorem signup_alike (env : RouteEnv) (halike : NamesAlike peer sent sent')
    (request : SignupRequest) (draw : UserRepository.UserDraw)
    (tokenDraw : VerificationRepository.TokenDraw) :
    AuthRoutes.signup env (request.through peer sent) draw tokenDraw =
      AuthRoutes.signup env (request.through peer sent') draw tokenDraw := by
  have haddress : (request.through peer sent).ipAddress =
      (request.through peer sent').ipAddress :=
    (address_eq_iff peer sent sent').mpr halike
  rw [AuthRoutes.signup, AuthRoutes.signup, haddress]
  rfl

theorem login_alike (env : BotEnv) (halike : NamesAlike peer sent sent')
    (request : LoginRequest) (draw : SessionDraw) :
    AuthRoutes.login env (request.through peer sent) draw =
      AuthRoutes.login env (request.through peer sent') draw := by
  have haddress : (request.through peer sent).ipAddress =
      (request.through peer sent').ipAddress :=
    (address_eq_iff peer sent sent').mpr halike
  simp only [AuthRoutes.login, AuthRoutes.consumeLogin,
    AuthRoutes.enforceRiskLevel, LoginRequest.botRisk, LoginRequest.input,
    haddress]
  rfl

theorem requestPasswordReset_alike (env : RouteEnv)
    (halike : NamesAlike peer sent sent') (request : PasswordResetRequest)
    (tokenDraw : VerificationRepository.TokenDraw) :
    AuthRoutes.requestPasswordReset env (request.through peer sent)
        tokenDraw =
      AuthRoutes.requestPasswordReset env (request.through peer sent')
        tokenDraw := by
  have haddress : (request.through peer sent).ipAddress =
      (request.through peer sent').ipAddress :=
    (address_eq_iff peer sent sent').mpr halike
  rw [AuthRoutes.requestPasswordReset, AuthRoutes.requestPasswordReset,
    haddress]
  rfl

end Alike

end IdProvider
