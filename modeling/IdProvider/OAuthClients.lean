/-
The registry of OAuth clients, the secrets that its service accepts for a
client, and the same client as the OIDC provider sees it.
-/
import IdProvider.AuthCore
import IdProvider.Base64
import IdProvider.JsonRoundTrip
import IdProvider.RowOrder
import IdProvider.Schema
import IdProvider.Utf8

namespace IdProvider

open JsonText KeyedTable

/-! ## The registry -/

structure OAuthClient where
  id : String
  clientId : String
  name : String
  clientType : String
  tokenEndpointAuthMethod : String
  status : String
  accessTokenTtlSeconds : Option Int
  refreshTokenTtlSeconds : Option Int
  updatedAt : Instant
  deriving DecidableEq

instance : Keyed OAuthClient String := ⟨OAuthClient.id⟩

structure OAuthClientSecret where
  id : String
  clientPkId : String
  secretHash : String
  secretHint : String
  isPrimary : Bool
  expiresAt : Option Timestamp
  graceUntil : Option Timestamp
  revokedAt : Option Instant
  createdAt : Instant
  deriving DecidableEq

instance : Keyed OAuthClientSecret String := ⟨OAuthClientSecret.id⟩

structure OAuthClientRedirectUri where
  id : String
  clientPkId : String
  redirectUri : String
  deriving DecidableEq

instance : Keyed OAuthClientRedirectUri String := ⟨OAuthClientRedirectUri.id⟩

structure OAuthClientScope where
  id : String
  clientPkId : String
  scope : String
  deriving DecidableEq

instance : Keyed OAuthClientScope String := ⟨OAuthClientScope.id⟩

/-- `client_id` is a unique column. -/
structure OAuthClientDb where
  oauthClients : Table OAuthClient
  oauthClientSecrets : Table OAuthClientSecret
  oauthClientRedirectUris : Table OAuthClientRedirectUri
  oauthClientScopes : Table OAuthClientScope
  clientIds : (oauthClients.rows.map OAuthClient.clientId).Nodup

theorem OAuthClientDb.eq_of_clientId_eq (db : OAuthClientDb)
    {left right : OAuthClient} (hleft : left ∈ db.oauthClients)
    (hright : right ∈ db.oauthClients)
    (hclientId : left.clientId = right.clientId) : left = right :=
  List.inj_on_of_nodup_map db.clientIds hleft hright hclientId

/-- `argon2.verify(storedHash, password)`, `none` when it throws, and the
provider's own `compareClientSecret` of a client secret. -/
structure OidcEnv where
  argon2Verify : String → String → Option Bool
  compareClientSecret : String → String → Bool

/-- `none` when `argon2.verify` throws. -/
def OidcEnv.verifyPassword (env : OidcEnv) (password storedHash : String) :
    Option Bool :=
  if startsWith storedHash argon2Prefix then
    env.argon2Verify storedHash password
  else some false

/-! ## `OAuthClientService` -/

/-- `gt(column, now)`, with the microseconds of the column; a null never
is. -/
def isLater (column : Option Timestamp) (now : Instant) : Bool :=
  column.any fun timestamp => timestamp.after now

/-- A `Date` later than now. -/
def isAfter (date : Option Instant) (now : Instant) : Bool :=
  date.any fun date => decide (now < date)

def listActiveSecrets (db : OAuthClientDb) (now : Instant)
    (clientPkId : String) : List OAuthClientSecret :=
  RowOrder.descending OAuthClientSecret.createdAt
    (db.oauthClientSecrets.select fun secret =>
      secret.clientPkId == clientPkId && secret.revokedAt.isNone &&
        (secret.expiresAt.isNone || isLater secret.expiresAt now))

/-- The `Date` that the driver makes of `grace_until`. -/
def OAuthClientSecret.graceDate (secret : OAuthClientSecret) :
    Option Instant :=
  secret.graceUntil.map Timestamp.toInstant

def isSecretUsable (now : Instant) (secret : OAuthClientSecret) : Bool :=
  if secret.isPrimary then true else isAfter secret.graceDate now

/-- The secrets that `authenticateClientBasic` tries, in this order. -/
def usableSecrets (db : OAuthClientDb) (now : Instant) (clientPkId : String) :
    List OAuthClientSecret :=
  (listActiveSecrets db now clientPkId).filter (isSecretUsable now)

/-! ## `PostgresOidcProviderAdapter` -/

def oidcClientSecretHashesPrefix : String := "argon2-hashes:"

def encodeOidcClientSecretHashes (hashes : List String) : String :=
  oidcClientSecretHashesPrefix ++ String.ofList
    (Base64.url (Utf8.encode (Json.arr (hashes.map Json.str)).render))

/-- One item of the decoded array; what is no string is skipped. -/
def verifyDecoded (env : OidcEnv) (actualSecret : String) :
    Json → Option Bool
  | .str hash => env.verifyPassword actualSecret hash
  | _ => some false

/-- `none` when `JSON.parse` or a verification throws. -/
def verifyOidcClientSecretMetadata (env : OidcEnv) (actualSecret : String)
    (metadataSecret : Option String) : Option Bool :=
  match metadataSecret with
  | none => some false
  | some metadataSecret =>
      if startsWith metadataSecret oidcClientSecretHashesPrefix then
        let encoded := metadataSecret.toList.drop
          oidcClientSecretHashesPrefix.length
        match parse (Utf8.decode (Base64.decode encoded)) with
        | none => none
        | some (.arr decoded) => decoded.anyM (verifyDecoded env actualSecret)
        | some _ => some false
      else some false

structure OidcClientRegistryRecord where
  clientId : String
  name : String
  redirectUris : List String
  allowedScopes : List String
  secretHashes : List String

/-- The payload that the adapter returns for a client. -/
structure OidcClientMetadata where
  clientId : String
  clientName : String
  clientSecret : String
  clientSecretExpiresAt : Nat
  grantTypes : List String
  redirectUris : List String
  postLogoutRedirectUris : List String
  responseTypes : List String
  scope : String
  tokenEndpointAuthMethod : String
  deriving DecidableEq

def buildOidcClientMetadata (client : OidcClientRegistryRecord) :
    Option OidcClientMetadata :=
  let allowedScopes := client.allowedScopes.eraseDups
  if client.redirectUris = [] ∨ "openid" ∉ allowedScopes ∨
      client.secretHashes = [] then none
  else
    some
      { clientId := client.clientId
        clientName := client.name
        clientSecret := encodeOidcClientSecretHashes client.secretHashes
        clientSecretExpiresAt := 0
        grantTypes := ["authorization_code", "refresh_token"]
        redirectUris := client.redirectUris
        postLogoutRedirectUris := client.redirectUris
        responseTypes := ["code"]
        scope := " ".intercalate allowedScopes
        tokenEndpointAuthMethod := "client_secret_basic" }

/-- The rows that `findClient` selects. -/
def secretRows (db : OAuthClientDb) (now : Instant) (clientPkId : String) :
    List OAuthClientSecret :=
  RowOrder.descending OAuthClientSecret.createdAt
    (db.oauthClientSecrets.select fun secret =>
      secret.clientPkId == clientPkId && secret.revokedAt.isNone &&
        (secret.expiresAt.isNone || isLater secret.expiresAt now) &&
        (secret.isPrimary || isLater secret.graceUntil now))

def secretHashes (db : OAuthClientDb) (now : Instant) (clientPkId : String) :
    List String :=
  (secretRows db now clientPkId).map OAuthClientSecret.secretHash

def findClient (db : OAuthClientDb) (now : Instant) (clientId : String) :
    Option OidcClientMetadata := do
  let client ← db.oauthClients.first? fun client =>
    client.clientId == clientId && client.status == "active" &&
      client.clientType == "confidential" &&
      client.tokenEndpointAuthMethod == "client_secret_basic"
  buildOidcClientMetadata
    { clientId := client.clientId
      name := client.name
      redirectUris := (db.oauthClientRedirectUris.select fun row =>
        row.clientPkId == client.id).map OAuthClientRedirectUri.redirectUri
      allowedScopes := (db.oauthClientScopes.select fun row =>
        row.clientPkId == client.id).map OAuthClientScope.scope
      secretHashes := secretHashes db now client.id }

/-! ## `installHashedClientSecretVerifier` -/

/-- The `compareClientSecret` that is installed in the client prototype. -/
def compareClientSecret (env : OidcEnv) (clientSecret actual : String) :
    Option Bool :=
  match verifyOidcClientSecretMetadata env actual (some clientSecret) with
  | none => none
  | some true => some true
  | some false => some (env.compareClientSecret clientSecret actual)

/-- The adapter finds the client, and its comparison accepts the secret. -/
def oidcAccepts (env : OidcEnv) (db : OAuthClientDb) (now : Instant)
    (clientId actual : String) : Bool :=
  match findClient db now clientId with
  | none => false
  | some metadata =>
      compareClientSecret env metadata.clientSecret actual == some true

end IdProvider
