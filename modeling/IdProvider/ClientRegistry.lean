/-
The registry of OAuth clients under its admin calls: `createClient`,
`updateClient` and `rotateSecret` as transactions, one statement at a time.
-/
import IdProvider.ClientAuth
import IdProvider.JsDate
import IdProvider.Transactions

namespace IdProvider

open Interleaving KeyedTable Transactions

/-! ## Tables -/

/-- The row has an entry in the partial unique index of its client. -/
def OAuthClientSecret.primaryOf (clientPkId : String)
    (secret : OAuthClientSecret) : Bool :=
  secret.clientPkId == clientPkId && secret.isPrimary &&
    secret.revokedAt.isNone

theorem OAuthClientSecret.primaryOf_iff {clientPkId : String}
    {secret : OAuthClientSecret} :
    secret.primaryOf clientPkId = true ↔
      secret.clientPkId = clientPkId ∧ secret.isPrimary = true ∧
        secret.revokedAt = none := by
  simp [OAuthClientSecret.primaryOf, and_assoc]

/-- `grace_until IS NULL OR grace_until >= created_at`. -/
def graceUntilCheck (graceUntil : Option Timestamp) (createdAt : Instant) :
    Bool :=
  match graceUntil with
  | none => true
  | some graceUntil =>
      decide ((Timestamp.ofInstant createdAt).micros ≤ graceUntil.micros)

inductive OAuthClientAuditPayload where
  | status (clientId status : String)
  | graceUntil (clientId : String) (graceUntil : Option Instant)
  deriving DecidableEq

structure OAuthClientAuditLog where
  clientPkId : String
  actorUserId : String
  eventType : String
  payload : OAuthClientAuditPayload
  deriving DecidableEq

/-- The foreign keys, the unique indexes and the check of the secrets. -/
structure OAuthClientDb.Constraints (db : OAuthClientDb) : Prop where
  secretClient : ∀ secret ∈ db.oauthClientSecrets.rows,
    secret.clientPkId ∈ db.oauthClients.rows.map OAuthClient.id
  singleActivePrimary : ((db.oauthClientSecrets.rows.filter fun secret =>
    secret.primaryOf secret.clientPkId).map
      OAuthClientSecret.clientPkId).Nodup
  graceUntil : ∀ secret ∈ db.oauthClientSecrets.rows,
    graceUntilCheck secret.graceUntil secret.createdAt = true
  redirectUriClient : ∀ row ∈ db.oauthClientRedirectUris.rows,
    row.clientPkId ∈ db.oauthClients.rows.map OAuthClient.id
  clientUri : (db.oauthClientRedirectUris.rows.map fun row =>
    (row.clientPkId, row.redirectUri)).Nodup
  scopeClient : ∀ row ∈ db.oauthClientScopes.rows,
    row.clientPkId ∈ db.oauthClients.rows.map OAuthClient.id
  clientScope : (db.oauthClientScopes.rows.map fun row =>
    (row.clientPkId, row.scope)).Nodup

instance (db : OAuthClientDb) : Decidable db.Constraints :=
  decidable_of_iff
    ((∀ secret ∈ db.oauthClientSecrets.rows,
        secret.clientPkId ∈ db.oauthClients.rows.map OAuthClient.id) ∧
      ((db.oauthClientSecrets.rows.filter fun secret =>
        secret.primaryOf secret.clientPkId).map
          OAuthClientSecret.clientPkId).Nodup ∧
      (∀ secret ∈ db.oauthClientSecrets.rows,
        graceUntilCheck secret.graceUntil secret.createdAt = true) ∧
      (∀ row ∈ db.oauthClientRedirectUris.rows,
        row.clientPkId ∈ db.oauthClients.rows.map OAuthClient.id) ∧
      (db.oauthClientRedirectUris.rows.map fun row =>
        (row.clientPkId, row.redirectUri)).Nodup ∧
      (∀ row ∈ db.oauthClientScopes.rows,
        row.clientPkId ∈ db.oauthClients.rows.map OAuthClient.id) ∧
      (db.oauthClientScopes.rows.map fun row =>
        (row.clientPkId, row.scope)).Nodup)
    ⟨fun h => ⟨h.1, h.2.1, h.2.2.1, h.2.2.2.1, h.2.2.2.2.1, h.2.2.2.2.2.1,
        h.2.2.2.2.2.2⟩,
      fun h => ⟨h.secretClient, h.singleActivePrimary, h.graceUntil,
        h.redirectUriClient, h.clientUri, h.scopeClient, h.clientScope⟩⟩

/-- The five tables, as migration 0006 constrains them. -/
structure ClientRegistry extends OAuthClientDb where
  oauthClientAuditLogs : List OAuthClientAuditLog
  constraints : toOAuthClientDb.Constraints

def ClientRegistry.empty : ClientRegistry where
  oauthClients := .empty
  oauthClientSecrets := .empty
  oauthClientRedirectUris := .empty
  oauthClientScopes := .empty
  clientIds := by simp [Table.empty]
  oauthClientAuditLogs := []
  constraints := by decide

/-- What a transaction leaves, if the constraints admit it. -/
def ClientRegistry.write? (registry : ClientRegistry) (db : OAuthClientDb)
    (log : OAuthClientAuditLog) : Option ClientRegistry :=
  if hconstraints : db.Constraints then
    some
      { db with
        oauthClientAuditLogs := registry.oauthClientAuditLogs ++ [log]
        constraints := hconstraints }
  else none

theorem ClientRegistry.write?_eq_some {registry after : ClientRegistry}
    {db : OAuthClientDb} {log : OAuthClientAuditLog}
    (hwrite : registry.write? db log = some after) :
    after.toOAuthClientDb = db := by
  unfold ClientRegistry.write? at hwrite
  split at hwrite
  case isTrue =>
    cases hwrite
    rfl
  case isFalse => cases hwrite

/-- The index admits one unrevoked primary secret of a client. -/
theorem ClientRegistry.eq_of_primaryOf (registry : ClientRegistry)
    {left right : OAuthClientSecret} {clientPkId : String}
    (hleft : left ∈ registry.oauthClientSecrets)
    (hright : right ∈ registry.oauthClientSecrets)
    (hleftPrimary : left.primaryOf clientPkId = true)
    (hrightPrimary : right.primaryOf clientPkId = true) : left = right := by
  have hleftClient := (OAuthClientSecret.primaryOf_iff.mp hleftPrimary).1
  have hrightClient := (OAuthClientSecret.primaryOf_iff.mp hrightPrimary).1
  apply List.inj_on_of_nodup_map registry.constraints.singleActivePrimary
  · rw [List.mem_filter, hleftClient]
    exact ⟨hleft, hleftPrimary⟩
  · rw [List.mem_filter, hrightClient]
    exact ⟨hright, hrightPrimary⟩
  · rw [hleftClient, hrightClient]

/-! ## Inputs of the calls -/

/-- Argon2 with its salt, and `gen_random_uuid()`. -/
structure OAuthClientEnv extends OAuthServiceEnv where
  argon2Hash : String → List UInt8 → String
  uuids : KeySource String

/-- The random bytes of a call. -/
structure ClientDraw where
  secret : List UInt8
  clientId : List UInt8
  salt : List UInt8
  deriving DecidableEq

/-- A secret that a call returns, with the salt of its hash. -/
structure NewSecret where
  secret : String
  salt : List UInt8
  deriving DecidableEq

def createClientSecret (bytes : List UInt8) : String :=
  "ocs_" ++ String.ofList (Base64.url bytes)

def ClientDraw.newSecret (draw : ClientDraw) : NewSecret :=
  ⟨createClientSecret draw.secret, draw.salt⟩

/-- `hashPassword`. -/
def NewSecret.secretHash (env : OAuthClientEnv) (new : NewSecret) : String :=
  env.argon2Hash new.secret new.salt

/-- The last four characters. -/
def secretHint (secret : String) : String :=
  String.ofList (secret.toList.drop (secret.length - 4))

def hexDigits (bytes : List UInt8) : List Char :=
  bytes.flatMap fun byte =>
    [Nat.digitChar (byte.toNat / 16), Nat.digitChar (byte.toNat % 16)]

structure CreateClientInput where
  clientId : Option String
  name : String
  clientType : String
  tokenEndpointAuthMethod : String
  redirectUris : List String
  allowedScopes : List String
  accessTokenTtlSeconds : Option Int
  refreshTokenTtlSeconds : Option Int
  deriving DecidableEq

/-- What `createClient` hands to the repository. -/
structure NewClient where
  clientId : String
  name : String
  clientType : String
  tokenEndpointAuthMethod : String
  status : Option String
  accessTokenTtlSeconds : Option Int
  refreshTokenTtlSeconds : Option Int
  redirectUris : List String
  allowedScopes : List String
  issued : NewSecret
  actorUserId : String
  deriving DecidableEq

def CreateClientInput.newClient (input : CreateClientInput)
    (actorUserId : String) (draw : ClientDraw) : NewClient where
  clientId := input.clientId.getD
    ("client_" ++ String.ofList (hexDigits draw.clientId))
  name := input.name
  clientType := input.clientType
  tokenEndpointAuthMethod := input.tokenEndpointAuthMethod
  status := none
  accessTokenTtlSeconds := input.accessTokenTtlSeconds
  refreshTokenTtlSeconds := input.refreshTokenTtlSeconds
  redirectUris := input.redirectUris
  allowedScopes := input.allowedScopes
  issued := draw.newSecret
  actorUserId := actorUserId

inductive OAuthClientStatus where
  | active
  | disabled
  deriving DecidableEq

def OAuthClientStatus.text : OAuthClientStatus → String
  | .active => "active"
  | .disabled => "disabled"

/-- A field that is `undefined` is not named; a lifetime may be null. -/
structure UpdateClientInput where
  name : Option String
  status : Option OAuthClientStatus
  accessTokenTtlSeconds : Option (Option Int)
  refreshTokenTtlSeconds : Option (Option Int)
  redirectUris : Option (List String)
  allowedScopes : Option (List String)
  deriving DecidableEq

structure ClientUpdate where
  actorUserId : String
  clientId : String
  input : UpdateClientInput
  deriving DecidableEq

/-- What `rotateSecret` hands to the repository. -/
structure SecretRotation where
  actorUserId : String
  clientId : String
  gracePeriodDays : Int
  graceUntil : Option Instant
  issued : NewSecret
  deriving DecidableEq

def graceUntilOf (gracePeriodDays : Int) (now : Instant) : Option Instant :=
  if gracePeriodDays > 0 then some (now + gracePeriodDays * dayMillis)
  else none

inductive AdminCall where
  | createClient (actorUserId : String) (input : CreateClientInput)
  | updateClient (update : ClientUpdate)
  | rotateSecret (actorUserId clientId : String) (gracePeriodDays : Int)
  deriving DecidableEq

/-! ## What has committed -/

/-- The change of a committed call, with the row of the secret that it
issued. -/
inductive RegistryChange where
  | created (new : NewClient) (secretId : String)
  | updated (update : ClientUpdate)
  | rotated (rotation : SecretRotation) (secretId : String)
  deriving DecidableEq

structure CommittedCall where
  committedAt : Instant
  change : RegistryChange
  deriving DecidableEq

def CommittedCall.clientId (call : CommittedCall) : String :=
  match call.change with
  | .created new _ => new.clientId
  | .updated update => update.clientId
  | .rotated rotation _ => rotation.clientId

/-- The committed tables, and the calls that committed them, in order. -/
structure RegistryDb where
  now : Instant
  registry : ClientRegistry
  history : List CommittedCall

def RegistryDb.initial (now : Instant) : RegistryDb :=
  ⟨now, ClientRegistry.empty, []⟩

/-- One more committed call. -/
def RegistryDb.commit (db : RegistryDb) (change : RegistryChange)
    (registry : ClientRegistry) : RegistryDb :=
  { db with
    registry := registry
    history := db.history ++ [⟨db.now, change⟩] }

/-! ## Writes -/

def NewClient.row (new : NewClient) (startedAt : Instant) (id : String) :
    OAuthClient where
  id := id
  clientId := new.clientId
  name := new.name
  clientType := new.clientType
  tokenEndpointAuthMethod := new.tokenEndpointAuthMethod
  status := new.status.getD "active"
  accessTokenTtlSeconds := new.accessTokenTtlSeconds
  refreshTokenTtlSeconds := new.refreshTokenTtlSeconds
  updatedAt := startedAt

theorem NewClient.key_row (new : NewClient) (startedAt : Instant)
    (id : String) : key (new.row startedAt id) = id := rfl

def NewSecret.row (env : OAuthClientEnv) (new : NewSecret)
    (clientPkId : String) (createdAt : Instant) (id : String) :
    OAuthClientSecret where
  id := id
  clientPkId := clientPkId
  secretHash := new.secretHash env
  secretHint := secretHint new.secret
  isPrimary := true
  expiresAt := none
  graceUntil := none
  revokedAt := none
  createdAt := createdAt

theorem NewSecret.key_row (env : OAuthClientEnv) (new : NewSecret)
    (clientPkId : String) (createdAt : Instant) (id : String) :
    key (new.row env clientPkId createdAt id) = id := rfl

def insertRedirectUris (env : OAuthClientEnv) (clientPkId : String) :
    Table OAuthClientRedirectUri → List String →
      Table OAuthClientRedirectUri :=
  Table.insertAllFresh env.uuids
    (fun redirectUri id => ⟨id, clientPkId, redirectUri⟩) (fun _ _ => rfl)

def insertScopes (env : OAuthClientEnv) (clientPkId : String) :
    Table OAuthClientScope → List String → Table OAuthClientScope :=
  Table.insertAllFresh env.uuids
    (fun scope id => ⟨id, clientPkId, scope⟩) (fun _ _ => rfl)

section Writes

variable (env : OAuthClientEnv) (db : OAuthClientDb)

/-- The id of the next client. -/
def nextClientPkId : String :=
  env.uuids.draw (db.oauthClients.rows.map OAuthClient.id)

/-- The id of the next secret. -/
def nextSecretId : String :=
  env.uuids.draw (db.oauthClientSecrets.rows.map OAuthClientSecret.id)

def createdTables (new : NewClient) (startedAt : Instant)
    (hclientId : new.clientId ∉ db.oauthClients.rows.map OAuthClient.clientId) :
    OAuthClientDb where
  oauthClients := db.oauthClients.insertFresh env.uuids (new.row startedAt)
    (new.key_row startedAt)
  oauthClientSecrets := db.oauthClientSecrets.insertFresh env.uuids
    (new.issued.row env (nextClientPkId env db) startedAt)
    (new.issued.key_row env (nextClientPkId env db) startedAt)
  oauthClientRedirectUris := insertRedirectUris env (nextClientPkId env db)
    db.oauthClientRedirectUris new.redirectUris
  oauthClientScopes := insertScopes env (nextClientPkId env db)
    db.oauthClientScopes new.allowedScopes
  clientIds := by
    rw [Table.rows_insertFresh, List.map_append, List.nodup_append']
    exact ⟨db.clientIds, List.nodup_singleton _,
      List.disjoint_singleton.mpr hclientId⟩

/-- `SET` of `updateClient`: what the input does not name is written back as
it was found. -/
def ClientUpdate.set (update : ClientUpdate) (found : OAuthClient)
    (updatedAt : Instant) (client : OAuthClient) : OAuthClient :=
  { client with
    name := update.input.name.getD found.name
    status := (update.input.status.map OAuthClientStatus.text).getD
      found.status
    accessTokenTtlSeconds :=
      update.input.accessTokenTtlSeconds.getD found.accessTokenTtlSeconds
    refreshTokenTtlSeconds :=
      update.input.refreshTokenTtlSeconds.getD found.refreshTokenTtlSeconds
    updatedAt := updatedAt }

theorem ClientUpdate.key_set (update : ClientUpdate) (found : OAuthClient)
    (updatedAt : Instant) (client : OAuthClient) :
    key (update.set found updatedAt client) = key client := rfl

theorem ClientUpdate.clientId_set (update : ClientUpdate) (found : OAuthClient)
    (updatedAt : Instant) (client : OAuthClient) :
    (update.set found updatedAt client).clientId = client.clientId := rfl

/-- The statements of `updateClient`. -/
def updatedTables (update : ClientUpdate) (found : OAuthClient)
    (updatedAt : Instant) : OAuthClientDb :=
  { db with
    oauthClients := db.oauthClients.update (fun client => client.id == found.id)
      (update.set found updatedAt) (update.key_set found updatedAt)
    oauthClientRedirectUris :=
      match update.input.redirectUris with
      | none => db.oauthClientRedirectUris
      | some redirectUris => insertRedirectUris env found.id
          (db.oauthClientRedirectUris.delete fun row =>
            row.clientPkId == found.id) redirectUris
    oauthClientScopes :=
      match update.input.allowedScopes with
      | none => db.oauthClientScopes
      | some allowedScopes => insertScopes env found.id
          (db.oauthClientScopes.delete fun row =>
            row.clientPkId == found.id) allowedScopes
    clientIds := by
      rw [Table.map_update (update.clientId_set found updatedAt)]
      exact db.clientIds }

/-- `SET` of `rotateSecret` on the secret that was primary. -/
def SecretRotation.demote (rotation : SecretRotation)
    (secret : OAuthClientSecret) : OAuthClientSecret :=
  { secret with
    isPrimary := false
    graceUntil := rotation.graceUntil.map .ofInstant }

theorem SecretRotation.key_demote (rotation : SecretRotation)
    (secret : OAuthClientSecret) :
    key (rotation.demote secret) = key secret := rfl

/-- `SET` of `rotateSecret` on the client. -/
def OAuthClient.touch (touchedAt : Instant) (client : OAuthClient) :
    OAuthClient :=
  { client with updatedAt := touchedAt }

theorem OAuthClient.key_touch (touchedAt : Instant) (client : OAuthClient) :
    key (client.touch touchedAt) = key client := rfl

theorem OAuthClient.clientId_touch (touchedAt : Instant)
    (client : OAuthClient) :
    (client.touch touchedAt).clientId = client.clientId := rfl

/-- The statements of `rotateSecret`. -/
def rotatedTables (rotation : SecretRotation) (found : OAuthClient)
    (startedAt touchedAt : Instant) (demoted : List String) : OAuthClientDb :=
  { db with
    oauthClients := db.oauthClients.update (fun client => client.id == found.id)
      (OAuthClient.touch touchedAt) (OAuthClient.key_touch touchedAt)
    oauthClientSecrets :=
      (db.oauthClientSecrets.update (fun secret => decide (secret.id ∈ demoted))
        rotation.demote rotation.key_demote).insertFresh env.uuids
          (rotation.issued.row env found.id startedAt)
          (rotation.issued.key_row env found.id startedAt)
    clientIds := by
      rw [Table.map_update (OAuthClient.clientId_touch touchedAt)]
      exact db.clientIds }

end Writes

/-! ## Statements -/

/-- A unique key under insertion, and a row under an update. -/
inductive RegistryLock where
  | clientId (clientId : String)
  | client (id : String)
  | secret (id : String)
  | primary (clientPkId : String)
  deriving DecidableEq

/-- The statement that a call is about to run. -/
inductive ClientTxn where
  | call (call : AdminCall)
  | insertClient (new : NewClient)
  | insertSecret (new : NewClient) (startedAt : Instant)
  | insertRedirectUris (new : NewClient) (startedAt : Instant)
  | insertScopes (new : NewClient) (startedAt : Instant)
  | created (new : NewClient) (startedAt : Instant)
  | setColumns (update : ClientUpdate) (found : OAuthClient)
  | replaceRedirectUris (update : ClientUpdate) (found : OAuthClient)
      (updatedAt : Instant)
  | replaceScopes (update : ClientUpdate) (found : OAuthClient)
      (updatedAt : Instant)
  | updated (update : ClientUpdate) (found : OAuthClient)
      (updatedAt : Instant)
  | findClient (rotation : SecretRotation)
  | demote (rotation : SecretRotation) (found : OAuthClient)
      (startedAt : Instant)
  | demoteRows (rotation : SecretRotation) (found : OAuthClient)
      (startedAt : Instant) (rows demoted : List String)
  | insertPrimary (rotation : SecretRotation) (found : OAuthClient)
      (startedAt : Instant) (demoted : List String)
  | touchClient (rotation : SecretRotation) (found : OAuthClient)
      (startedAt : Instant) (demoted : List String)
  | rotated (rotation : SecretRotation) (found : OAuthClient)
      (startedAt touchedAt : Instant) (demoted : List String)
  deriving DecidableEq

abbrev ClientOutcome : Type := Outcome RegistryDb ClientTxn RegistryLock

def findByClientId (db : OAuthClientDb) (clientId : String) :
    Option OAuthClient :=
  db.oauthClients.first? fun client => client.clientId == clientId

theorem findByClientId_eq_some {db : OAuthClientDb} {clientId : String}
    {client : OAuthClient} (hfind : findByClientId db clientId = some client) :
    client ∈ db.oauthClients ∧ client.clientId = clientId := by
  obtain ⟨hmem, hwhere⟩ := Table.mem_of_first? hfind
  exact ⟨hmem, beq_iff_eq.mp hwhere⟩

/-- One row of the `UPDATE` that `rotateSecret` starts with. The row is read
again once nobody else holds it. -/
def demoteRow (db : RegistryDb) (busy : RegistryLock → Bool)
    (rotation : SecretRotation) (found : OAuthClient) (startedAt : Instant)
    (id : String) (rows demoted : List String) : ClientOutcome :=
  if busy (.secret id) then .wait
  else
    match db.registry.oauthClientSecrets.first? fun secret =>
        secret.id == id && secret.primaryOf found.id with
    | none => .proceed (.demoteRows rotation found startedAt rows demoted) []
    | some secret =>
        if graceUntilCheck (rotation.graceUntil.map .ofInstant)
            secret.createdAt then
          .proceed (.demoteRows rotation found startedAt rows
            (demoted ++ [id])) [.secret id]
        else .stop

/-- The new secret waits for a primary row that somebody else has updated, and
is refused beside one that stays. -/
def insertPrimarySecret (db : RegistryDb) (busy : RegistryLock → Bool)
    (rotation : SecretRotation) (found : OAuthClient) (startedAt : Instant)
    (demoted : List String) : ClientOutcome :=
  let others := db.registry.oauthClientSecrets.select fun secret =>
    secret.primaryOf found.id && decide (secret.id ∉ demoted)
  if others.any fun secret => busy (.secret secret.id) then .wait
  else if others = [] then
    .proceed (.touchClient rotation found startedAt demoted)
      [.primary found.id]
  else .stop

/-- The audit log row, and `COMMIT`. -/
def commitCreated (env : OAuthClientEnv) (db : RegistryDb) (new : NewClient)
    (startedAt : Instant) : Option RegistryDb :=
  if hclientId : new.clientId ∉
      db.registry.oauthClients.rows.map OAuthClient.clientId then
    (db.registry.write?
      (createdTables env db.registry.toOAuthClientDb new startedAt hclientId)
      { clientPkId := nextClientPkId env db.registry.toOAuthClientDb
        actorUserId := new.actorUserId
        eventType := "oauth.client.created"
        payload := .status new.clientId (new.status.getD "active") }).map
      (db.commit (.created new
        (nextSecretId env db.registry.toOAuthClientDb)))
  else none

/-- The audit log row, and `COMMIT`. -/
def commitUpdated (env : OAuthClientEnv) (db : RegistryDb)
    (update : ClientUpdate) (found : OAuthClient) (updatedAt : Instant) :
    Option RegistryDb :=
  (db.registry.write?
    (updatedTables env db.registry.toOAuthClientDb update found updatedAt)
    { clientPkId := found.id
      actorUserId := update.actorUserId
      eventType := "oauth.client.updated"
      payload := .status update.clientId
        (update.set found updatedAt found).status }).map
    (db.commit (.updated update))

/-- The audit log row, and `COMMIT`. -/
def commitRotated (env : OAuthClientEnv) (db : RegistryDb)
    (rotation : SecretRotation) (found : OAuthClient)
    (startedAt touchedAt : Instant) (demoted : List String) :
    Option RegistryDb :=
  (db.registry.write?
    (rotatedTables env db.registry.toOAuthClientDb rotation found startedAt
      touchedAt demoted)
    { clientPkId := found.id
      actorUserId := rotation.actorUserId
      eventType := "oauth.client.secret_rotated"
      payload := .graceUntil rotation.clientId rotation.graceUntil }).map
    (db.commit (.rotated rotation
      (nextSecretId env db.registry.toOAuthClientDb)))

/-- The service up to its transaction, or the query of `updateClient`. -/
def beginCall (db : RegistryDb) (draw : ClientDraw) :
    AdminCall → ClientOutcome
  | .createClient actorUserId input =>
      .proceed (.insertClient (input.newClient actorUserId draw)) []
  | .updateClient update =>
      match findByClientId db.registry.toOAuthClientDb update.clientId with
      | none => .stop
      | some found => .proceed (.setColumns update found) []
  | .rotateSecret actorUserId clientId gracePeriodDays =>
      .proceed (.findClient
        { actorUserId := actorUserId
          clientId := clientId
          gracePeriodDays := gracePeriodDays
          graceUntil := graceUntilOf gracePeriodDays db.now
          issued := draw.newSecret }) []

/-- The next statement of a call. The secret is returned once the event of the
service is recorded too, which changes none of these tables. -/
def clientStatement (env : OAuthClientEnv) (db : RegistryDb)
    (busy : RegistryLock → Bool) (txn : ClientTxn) (draw : ClientDraw) :
    ClientOutcome :=
  match txn with
  | .call call => beginCall db draw call
  | .insertClient new =>
      if (findByClientId db.registry.toOAuthClientDb new.clientId).isSome then
        .stop
      else .proceed (.insertSecret new db.now) [.clientId new.clientId]
  | .insertSecret new startedAt =>
      .proceed (.insertRedirectUris new startedAt) []
  | .insertRedirectUris new startedAt =>
      if new.redirectUris.Nodup then
        .proceed (.insertScopes new startedAt) []
      else .stop
  | .insertScopes new startedAt =>
      if new.allowedScopes.Nodup then .proceed (.created new startedAt) []
      else .stop
  | .created new startedAt =>
      .ofCommit (commitCreated env db new startedAt)
  | .setColumns update found =>
      if db.registry.oauthClients.rows.any fun client =>
          client.id == found.id then
        .proceed (.replaceRedirectUris update found db.now)
          [.client found.id]
      else .stop
  | .replaceRedirectUris update found updatedAt =>
      if (update.input.redirectUris.getD []).Nodup then
        .proceed (.replaceScopes update found updatedAt) []
      else .stop
  | .replaceScopes update found updatedAt =>
      if (update.input.allowedScopes.getD []).Nodup then
        .proceed (.updated update found updatedAt) []
      else .stop
  | .updated update found updatedAt =>
      .ofCommit (commitUpdated env db update found updatedAt)
  | .findClient rotation =>
      match findByClientId db.registry.toOAuthClientDb rotation.clientId with
      | none => .stop
      | some found => .proceed (.demote rotation found db.now) []
  | .demote rotation found startedAt =>
      .proceed (.demoteRows rotation found startedAt
        ((db.registry.oauthClientSecrets.select
          (OAuthClientSecret.primaryOf found.id)).map OAuthClientSecret.id)
        []) []
  | .demoteRows rotation found startedAt [] demoted =>
      .proceed (.insertPrimary rotation found startedAt demoted) []
  | .demoteRows rotation found startedAt (id :: rows) demoted =>
      demoteRow db busy rotation found startedAt id rows demoted
  | .insertPrimary rotation found startedAt demoted =>
      insertPrimarySecret db busy rotation found startedAt demoted
  | .touchClient rotation found startedAt demoted =>
      .proceed (.rotated rotation found startedAt db.now demoted)
        [.client found.id]
  | .rotated rotation found startedAt touchedAt demoted =>
      .ofCommit (commitRotated env db rotation found startedAt touchedAt
        demoted)

/-- Time passes. -/
def tickRegistry (db : RegistryDb) (now : Instant) : Option RegistryDb :=
  if db.now ≤ now then some { db with now := now } else none

def clientCode (env : OAuthClientEnv) :
    Code RegistryDb ClientTxn RegistryLock AdminCall ClientDraw Instant where
  start := .call
  statement := clientStatement env
  environment := tickRegistry

abbrev ClientPool : Type :=
  Pool (Store RegistryDb RegistryLock) (Thread ClientTxn RegistryLock) Nat

abbrev ClientAction : Type :=
  Interleaving.Action AdminCall ClientDraw Instant Nat

def clientProgram (env : OAuthClientEnv) :
    Program (Store RegistryDb RegistryLock) (Thread ClientTxn RegistryLock)
      AdminCall ClientDraw Instant :=
  program (clientCode env)

/-- No client has been created. -/
def ClientPool.initial (now : Instant) : ClientPool :=
  Transactions.initial (RegistryDb.initial now)

end IdProvider
