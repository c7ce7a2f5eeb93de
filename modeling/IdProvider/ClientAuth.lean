/-
HTTP Basic authentication of an OAuth client: against the registry, and
against the client of the environment.
-/
import IdProvider.JsText
import IdProvider.OidcSecrets

namespace IdProvider

open KeyedTable ThrowingSearch

/-! ## Credentials -/

structure OAuthClientCredentials where
  clientId : String
  clientSecret : String
  deriving DecidableEq

def invalidClient (message : String) : ApiError :=
  ⟨401, "invalid_client", message⟩

/-- The strings as UTF-8 buffers. -/
def safeEqualString (left right : String) : Bool :=
  Utf8.encode left.toList == Utf8.encode right.toList

theorem safeEqualString_iff {left right : String} :
    safeEqualString left right = true ↔ left = right := by
  rw [safeEqualString, beq_iff_eq]
  constructor
  · intro hencode
    exact String.toList_injective (Utf8.encode_injective hencode)
  · rintro rfl
    rfl

def basicPrefix : String := "Basic "

def parseOAuthClientBasicAuth (authorization : Option String) :
    Except ApiError OAuthClientCredentials :=
  match authorization with
  | none =>
      .error (invalidClient "OAuth client authentication required")
  | some authorization =>
      if startsWith authorization basicPrefix then
        let encoded := trim
          (String.ofList (authorization.toList.drop basicPrefix.length))
        let decoded := Utf8.decode (Base64.decode encoded.toList)
        -- `indexOf` is the first colon, or -1, and `separator < 1` throws.
        match decoded.findIdx? (· == ':') with
        | some (separator + 1) =>
            .ok
              { clientId := String.ofList (decoded.take (separator + 1))
                clientSecret :=
                  String.ofList (decoded.drop (separator + 1 + 1)) }
        | _ => .error (invalidClient "Invalid client credentials format")
      else .error (invalidClient "OAuth client authentication required")

/-- The header by which a client presents its credentials. -/
def basicAuthorization (clientId clientSecret : String) : String :=
  basicPrefix ++ String.ofList
    (Base64.standard (Utf8.encode (clientId ++ ":" ++ clientSecret).toList))

/-- The header can carry this client id: it ends at the first colon. -/
def PresentableId (clientId : String) : Prop :=
  clientId ≠ "" ∧ ':' ∉ clientId.toList

theorem isWhitespace_standard (bytes : List UInt8) :
    ∀ c ∈ Base64.standard bytes, isWhitespace c = false := by
  have hdigit : ∀ value, isWhitespace (Base64.standardDigit value) = false := by
    decide +kernel
  intro c hc
  rcases List.mem_append.mp hc with hc | hc
  · obtain ⟨value, -, rfl⟩ := List.mem_map.mp hc
    exact hdigit value
  · rw [Base64.padding, List.mem_replicate] at hc
    rw [hc.2]
    rfl

theorem findIdx?_colon {clientId rest : List Char} (hcolon : ':' ∉ clientId) :
    (clientId ++ ':' :: rest).findIdx? (· == ':') = some clientId.length := by
  have hnone : clientId.findIdx? (· == ':') = none := by
    rw [List.findIdx?_eq_none_iff]
    intro c hc
    rw [beq_eq_false_iff_ne]
    rintro rfl
    exact hcolon hc
  rw [List.findIdx?_append, hnone, List.findIdx?_cons, beq_self_eq_true]
  simp

/-- The service reads back what the header carries. -/
theorem parseOAuthClientBasicAuth_basicAuthorization
    {clientId clientSecret : String} (hclientId : PresentableId clientId) :
    parseOAuthClientBasicAuth (some (basicAuthorization clientId clientSecret)) =
      .ok ⟨clientId, clientSecret⟩ := by
  obtain ⟨hne, hcolon⟩ := hclientId
  have htext : (clientId ++ ":" ++ clientSecret).toList =
      clientId.toList ++ ':' :: clientSecret.toList := by
    rw [String.toList_append, String.toList_append, List.append_assoc]
    rfl
  have hlength : clientId.toList.length ≠ 0 := by
    rw [Ne, List.length_eq_zero_iff, String.toList_eq_nil_iff]
    exact hne
  obtain ⟨length, hlength⟩ := Nat.exists_eq_succ_of_ne_zero hlength
  rw [parseOAuthClientBasicAuth]
  dsimp only
  rw [basicAuthorization, if_pos (startsWith_append _ _), String.toList_append,
    ← String.length_toList, List.drop_left, String.ofList_toList,
    trim_ofList (isWhitespace_standard _), String.toList_ofList,
    Base64.decode_standard, Utf8.decode_encode, htext, findIdx?_colon hcolon,
    hlength]
  dsimp only
  rw [Nat.succ_eq_add_one] at hlength
  rw [← hlength, List.take_left, List.drop_append,
    List.drop_eq_nil_of_le (Nat.le_succ _)]
  simp

/-! ## `OAuthClientService.authenticateClientBasic` -/

/-- Argon2, and the client of the environment. -/
structure OAuthServiceEnv extends OidcEnv where
  oauthClientId : String
  oauthClientSecret : String

structure AuthenticatedClient where
  clientPkId : Option String
  clientId : String
  status : String
  deriving DecidableEq

inductive OAuthClientError where
  | api (error : ApiError)
  | argon2
  deriving DecidableEq

def findActiveByClientId (db : OAuthClientDb) (clientId : String) :
    Option OAuthClient :=
  db.oauthClients.first? fun client =>
    client.clientId == clientId && client.status == "active"

/-- Whether a usable secret of the client verifies, `none` when a verification
throws before. -/
def verifiesSecret (env : OAuthServiceEnv) (db : OAuthClientDb)
    (now : Instant) (clientPkId clientSecret : String) : Option Bool :=
  (usableSecrets db now clientPkId).anyM fun secret =>
    env.verifyPassword clientSecret secret.secretHash

/-- The answer of the registry: a client, nobody, or an exception. -/
def findAuthenticated (env : OAuthServiceEnv) (db : OAuthClientDb)
    (now : Instant) (credentials : OAuthClientCredentials) :
    Option (Option AuthenticatedClient) :=
  match findActiveByClientId db credentials.clientId with
  | none => some none
  | some client =>
      (verifiesSecret env db now client.id credentials.clientSecret).map
        fun verified =>
          if verified then some ⟨some client.id, client.clientId, client.status⟩
          else none

/-- The credentials of the environment. -/
def isFallback (env : OAuthServiceEnv) (credentials : OAuthClientCredentials) :
    Bool :=
  safeEqualString credentials.clientId env.oauthClientId &&
    safeEqualString credentials.clientSecret env.oauthClientSecret

def authenticateClientBasic (env : OAuthServiceEnv) (db : OAuthClientDb)
    (now : Instant) (authorization : Option String) :
    Except OAuthClientError AuthenticatedClient :=
  match parseOAuthClientBasicAuth authorization with
  | .error error => .error (.api error)
  | .ok credentials =>
      match findAuthenticated env db now credentials with
      | none => .error .argon2
      | some (some client) => .ok client
      | some none =>
          if isFallback env credentials then
            .ok ⟨none, env.oauthClientId, "active"⟩
          else
            .error (.api (invalidClient "Invalid OAuth client credentials"))

/-! ## What is accepted -/

def authenticates (env : OAuthServiceEnv) (db : OAuthClientDb)
    (now : Instant) (authorization : Option String) : Bool :=
  (authenticateClientBasic env db now authorization).isOk

/-- The row is active, and the secret verifies against one of its secrets that
is neither revoked nor expired, and primary or in its grace period. -/
def RegistryAccepts (env : OAuthServiceEnv) (db : OAuthClientDb)
    (now : Instant) (client : OAuthClient) (clientSecret : String) : Prop :=
  client.status = "active" ∧
    ∃ secret ∈ db.oauthClientSecrets, secret.clientPkId = client.id ∧
      secret.revokedAt = none ∧
      (secret.expiresAt = none ∨ isLater secret.expiresAt now = true) ∧
      (secret.isPrimary = true ∨ isAfter secret.graceDate now = true) ∧
      env.verifyPassword clientSecret secret.secretHash = some true

/-- A client of the registry authenticates only as the registry says. -/
def DisableEffective (env : OAuthServiceEnv) (db : OAuthClientDb)
    (now : Instant) (authorization : Option String) : Prop :=
  ∀ credentials, parseOAuthClientBasicAuth authorization = .ok credentials →
    ∀ client ∈ db.oauthClients, client.clientId = credentials.clientId →
      authenticates env db now authorization = true →
        RegistryAccepts env db now client credentials.clientSecret

/-- Against the credentials of the environment the registry has a row, but it
is not active, or none of its usable secrets verifies. -/
def FallbackOverrides (env : OAuthServiceEnv) (db : OAuthClientDb)
    (now : Instant) (authorization : Option String) : Prop :=
  parseOAuthClientBasicAuth authorization =
      .ok ⟨env.oauthClientId, env.oauthClientSecret⟩ ∧
    ∃ client ∈ db.oauthClients, client.clientId = env.oauthClientId ∧
      (client.status ≠ "active" ∨
        ∀ secret ∈ usableSecrets db now client.id,
          env.verifyPassword env.oauthClientSecret secret.secretHash =
            some false)

theorem isFallback_iff {env : OAuthServiceEnv}
    {credentials : OAuthClientCredentials} :
    isFallback env credentials = true ↔
      credentials = ⟨env.oauthClientId, env.oauthClientSecret⟩ := by
  rw [isFallback, Bool.and_eq_true, safeEqualString_iff, safeEqualString_iff]
  cases credentials with
  | mk clientId clientSecret => rw [OAuthClientCredentials.mk.injEq]

theorem findActiveByClientId_of_mem {db : OAuthClientDb}
    {client : OAuthClient} (hclient : client ∈ db.oauthClients) :
    findActiveByClientId db client.clientId =
      if client.status = "active" then some client else none := by
  split
  case isTrue hactive =>
    apply Table.first?_of_unique hclient
    · simp [hactive]
    · intro other hother hwhere
      rw [Bool.and_eq_true, beq_iff_eq] at hwhere
      exact db.eq_of_clientId_eq hother hclient hwhere.1
  case isFalse hactive =>
    rw [findActiveByClientId, Table.first?_eq_none]
    intro other hother
    rw [Bool.and_eq_false_iff, or_iff_not_imp_left, Bool.not_eq_false,
      beq_iff_eq, beq_eq_false_iff_ne]
    intro hsame
    rwa [db.eq_of_clientId_eq hother hclient hsame]

/-- What the registry says of the credentials of a row. -/
theorem findAuthenticated_of_mem {env : OAuthServiceEnv} {db : OAuthClientDb}
    {now : Instant} {client : OAuthClient} (hclient : client ∈ db.oauthClients)
    (clientSecret : String) :
    findAuthenticated env db now ⟨client.clientId, clientSecret⟩ =
      if client.status = "active" then
        (verifiesSecret env db now client.id clientSecret).map fun verified =>
          if verified then
            some ⟨some client.id, client.clientId, client.status⟩
          else none
      else some none := by
  rw [findAuthenticated]
  dsimp only
  rw [findActiveByClientId_of_mem hclient]
  by_cases hactive : client.status = "active"
  · rw [if_pos hactive, if_pos hactive]
  · rw [if_neg hactive, if_neg hactive]

theorem registryAccepts_of_verifies {env : OAuthServiceEnv}
    {db : OAuthClientDb} {now : Instant} {client : OAuthClient}
    {clientSecret : String} (hactive : client.status = "active")
    (hverifies : verifiesSecret env db now client.id clientSecret =
      some true) : RegistryAccepts env db now client clientSecret := by
  obtain ⟨secret, hsecret, hverify⟩ := exists_of_anyM_eq_some_true hverifies
  obtain ⟨hmem, howner, hrevoked, hexpires, husable⟩ :=
    mem_usableSecrets.mp hsecret
  exact ⟨hactive, secret, hmem, howner, hrevoked, hexpires, husable, hverify⟩

/-- Where the registry accepts nobody, only the credentials of the environment
are accepted. -/
theorem fallback_of_accepted {env : OAuthServiceEnv} {db : OAuthClientDb}
    {now : Instant} {authorization : Option String}
    {credentials : OAuthClientCredentials}
    (hparse : parseOAuthClientBasicAuth authorization = .ok credentials)
    (hregistry : findAuthenticated env db now credentials = some none)
    (haccepted : authenticates env db now authorization = true) :
    isFallback env credentials = true := by
  rw [authenticates, authenticateClientBasic, hparse] at haccepted
  dsimp only at haccepted
  rw [hregistry] at haccepted
  dsimp only at haccepted
  split at haccepted
  case isTrue hfallback => exact hfallback
  case isFalse => cases haccepted

/-- A row whose credentials are accepted against the registry's rules: the
registry had answered that it knows nobody. -/
theorem registry_refuses {env : OAuthServiceEnv} {db : OAuthClientDb}
    {now : Instant} {authorization : Option String} {client : OAuthClient}
    {clientSecret : String} (hclient : client ∈ db.oauthClients)
    (haccepted : authenticates env db now authorization = true)
    (hparse : parseOAuthClientBasicAuth authorization =
      .ok ⟨client.clientId, clientSecret⟩)
    (hrefused : ¬ RegistryAccepts env db now client clientSecret) :
    findAuthenticated env db now ⟨client.clientId, clientSecret⟩ =
        some none ∧
      (client.status ≠ "active" ∨
        ∀ secret ∈ usableSecrets db now client.id,
          env.verifyPassword clientSecret secret.secretHash =
            some false) := by
  rw [findAuthenticated_of_mem hclient]
  by_cases hactive : client.status = "active"
  · rw [if_pos hactive]
    cases hverifies : verifiesSecret env db now client.id clientSecret with
    | none =>
      rw [authenticates, authenticateClientBasic, hparse] at haccepted
      dsimp only at haccepted
      rw [findAuthenticated_of_mem hclient, if_pos hactive, hverifies]
        at haccepted
      cases haccepted
    | some verified =>
      cases verified with
      | true =>
        exact absurd (registryAccepts_of_verifies hactive hverifies) hrefused
      | false => exact ⟨rfl, .inr (anyM_eq_some_false.mp hverifies)⟩
  · rw [if_neg hactive]
    exact ⟨rfl, .inl hactive⟩

/-- A registered client authenticates as the registry says, unless the
credentials of the environment override it. -/
theorem disableEffective_iff (env : OAuthServiceEnv) (db : OAuthClientDb)
    (now : Instant) (authorization : Option String) :
    DisableEffective env db now authorization ↔
      ¬ FallbackOverrides env db now authorization := by
  constructor
  · rintro heffective ⟨hparse, client, hclient, hclientId, hoverrides⟩
    have hregistry : findAuthenticated env db now
        ⟨env.oauthClientId, env.oauthClientSecret⟩ = some none := by
      rw [← hclientId, findAuthenticated_of_mem hclient]
      split
      case isTrue hactive =>
        rcases hoverrides with hinactive | hnone
        · exact absurd hactive hinactive
        · rw [verifiesSecret, anyM_eq_some_false.mpr hnone]
          rfl
      case isFalse => rfl
    have haccepted : authenticates env db now authorization = true := by
      rw [authenticates, authenticateClientBasic, hparse]
      dsimp only
      rw [hregistry]
      dsimp only
      rw [if_pos (isFallback_iff.mpr rfl)]
      rfl
    obtain ⟨hactive, secret, hmem, howner, hrevoked, hexpires, husable,
      hverify⟩ := heffective _ hparse client hclient hclientId haccepted
    rcases hoverrides with hinactive | hnone
    · exact hinactive hactive
    · have hfalse := hnone secret (mem_usableSecrets.mpr
        ⟨hmem, howner, hrevoked, hexpires, husable⟩)
      rw [hverify] at hfalse
      cases hfalse
  · intro hnever credentials hparse client hclient hclientId haccepted
    cases credentials with
    | mk clientId clientSecret =>
      dsimp only at hclientId ⊢
      subst hclientId
      by_contra hrefused
      obtain ⟨hregistry, hoverrides⟩ :=
        registry_refuses hclient haccepted hparse hrefused
      have hfallback : isFallback env ⟨client.clientId, clientSecret⟩ =
          true := fallback_of_accepted hparse hregistry haccepted
      rw [isFallback_iff] at hfallback
      obtain ⟨hclientId, hsecret⟩ :=
        OAuthClientCredentials.mk.inj hfallback
      refine hnever ⟨hparse.trans (congrArg _ hfallback), client, hclient,
        hclientId, ?_⟩
      rwa [← hsecret]

/-! ## A disabled client -/

namespace ClientAuthWitness

def secretHash : String :=
  "$argon2id$v=19$m=65536,t=3,p=4$c2FsdHNhbHRzYWx0$TnmZ1HuCnG3BPfhRoTzK3w"

/-- The default client of the environment. -/
def env : OAuthServiceEnv where
  argon2Verify storedHash password :=
    if storedHash = secretHash then
      some (decide (password = "local-client-secret"))
    else none
  compareClientSecret clientSecret actual := clientSecret == actual
  oauthClientId := "local-client"
  oauthClientSecret := "local-client-secret"

def client : OAuthClient where
  id := "client-1"
  clientId := "local-client"
  name := "Local Client"
  clientType := "confidential"
  tokenEndpointAuthMethod := "client_secret_basic"
  status := "disabled"
  accessTokenTtlSeconds := none
  refreshTokenTtlSeconds := none
  updatedAt := 1000

def secret : OAuthClientSecret where
  id := "secret-1"
  clientPkId := "client-1"
  secretHash := secretHash
  secretHint := "cret"
  isPrimary := true
  expiresAt := none
  graceUntil := none
  revokedAt := none
  createdAt := 0

def db : OAuthClientDb where
  oauthClients := ⟨[client], by simp⟩
  oauthClientSecrets := ⟨[secret], by simp⟩
  oauthClientRedirectUris := .empty
  oauthClientScopes := .empty
  clientIds := by simp

def authorization : Option String :=
  some "Basic bG9jYWwtY2xpZW50OmxvY2FsLWNsaWVudC1zZWNyZXQ="

theorem parsed : parseOAuthClientBasicAuth authorization =
    .ok ⟨"local-client", "local-client-secret"⟩ := by decide +kernel

theorem accepted : authenticates env db 2000 authorization = true := by
  decide +kernel

theorem not_disableEffective :
    ¬ ∀ env db now authorization,
      DisableEffective env db now authorization := by
  intro hclaim
  have hregistry := hclaim env db 2000 authorization _ parsed client
    (by decide) rfl accepted
  exact absurd hregistry.1 (by decide)

end ClientAuthWitness

end IdProvider
