/-
What a statement of the registry can do, and what a commit leaves alone.
-/
import IdProvider.ClientRegistry

namespace IdProvider

open Interleaving KeyedTable Transactions

/-! ## One statement -/

/-- A statement that goes on, with the locks that it takes. -/
inductive Proceeds (db : RegistryDb) (draw : ClientDraw) :
    ClientTxn → ClientTxn → List RegistryLock → Prop where
  | createClient (actorUserId : String) (input : CreateClientInput) :
      Proceeds db draw (.call (.createClient actorUserId input))
        (.insertClient (input.newClient actorUserId draw)) []
  | updateClient (update : ClientUpdate) (found : OAuthClient)
      (hfound : found ∈ db.registry.oauthClients)
      (hclientId : found.clientId = update.clientId) :
      Proceeds db draw (.call (.updateClient update))
        (.setColumns update found) []
  | rotateSecret (actorUserId clientId : String) (gracePeriodDays : Int) :
      Proceeds db draw
        (.call (.rotateSecret actorUserId clientId gracePeriodDays))
        (.findClient ⟨actorUserId, clientId, gracePeriodDays,
          graceUntilOf gracePeriodDays db.now, draw.newSecret⟩) []
  | insertClient (new : NewClient) :
      Proceeds db draw (.insertClient new) (.insertSecret new db.now)
        [.clientId new.clientId]
  | insertSecret (new : NewClient) (startedAt : Instant) :
      Proceeds db draw (.insertSecret new startedAt)
        (.insertRedirectUris new startedAt) []
  | insertRedirectUris (new : NewClient) (startedAt : Instant) :
      Proceeds db draw (.insertRedirectUris new startedAt)
        (.insertScopes new startedAt) []
  | insertScopes (new : NewClient) (startedAt : Instant) :
      Proceeds db draw (.insertScopes new startedAt)
        (.created new startedAt) []
  | setColumns (update : ClientUpdate) (found : OAuthClient) :
      Proceeds db draw (.setColumns update found)
        (.replaceRedirectUris update found db.now) [.client found.id]
  | replaceRedirectUris (update : ClientUpdate) (found : OAuthClient)
      (updatedAt : Instant) :
      Proceeds db draw (.replaceRedirectUris update found updatedAt)
        (.replaceScopes update found updatedAt) []
  | replaceScopes (update : ClientUpdate) (found : OAuthClient)
      (updatedAt : Instant) :
      Proceeds db draw (.replaceScopes update found updatedAt)
        (.updated update found updatedAt) []
  | findClient (rotation : SecretRotation) (found : OAuthClient)
      (hfound : found ∈ db.registry.oauthClients)
      (hclientId : found.clientId = rotation.clientId) :
      Proceeds db draw (.findClient rotation) (.demote rotation found db.now)
        []
  | demote (rotation : SecretRotation) (found : OAuthClient)
      (startedAt : Instant) (rows : List String) :
      Proceeds db draw (.demote rotation found startedAt)
        (.demoteRows rotation found startedAt rows []) []
  | noRow (rotation : SecretRotation) (found : OAuthClient)
      (startedAt : Instant) (demoted : List String) :
      Proceeds db draw (.demoteRows rotation found startedAt [] demoted)
        (.insertPrimary rotation found startedAt demoted) []
  | skipRow (rotation : SecretRotation) (found : OAuthClient)
      (startedAt : Instant) (id : String) (rows demoted : List String) :
      Proceeds db draw
        (.demoteRows rotation found startedAt (id :: rows) demoted)
        (.demoteRows rotation found startedAt rows demoted) []
  | demoteRow (rotation : SecretRotation) (found : OAuthClient)
      (startedAt : Instant) (rows demoted : List String)
      (secret : OAuthClientSecret)
      (hsecret : secret ∈ db.registry.oauthClientSecrets)
      (hprimary : secret.primaryOf found.id = true) :
      Proceeds db draw
        (.demoteRows rotation found startedAt (secret.id :: rows) demoted)
        (.demoteRows rotation found startedAt rows (demoted ++ [secret.id]))
        [.secret secret.id]
  | insertPrimary (rotation : SecretRotation) (found : OAuthClient)
      (startedAt : Instant) (demoted : List String)
      (hothers : ∀ secret ∈ db.registry.oauthClientSecrets,
        secret.primaryOf found.id = true → secret.id ∈ demoted) :
      Proceeds db draw (.insertPrimary rotation found startedAt demoted)
        (.touchClient rotation found startedAt demoted) [.primary found.id]
  | touchClient (rotation : SecretRotation) (found : OAuthClient)
      (startedAt : Instant) (demoted : List String) :
      Proceeds db draw (.touchClient rotation found startedAt demoted)
        (.rotated rotation found startedAt db.now demoted) [.client found.id]

/-- A statement that commits. -/
inductive Commits (env : OAuthClientEnv) (db : RegistryDb) :
    ClientTxn → RegistryDb → Prop where
  | created (new : NewClient) (startedAt : Instant)
      (hclientId : new.clientId ∉
        db.registry.oauthClients.rows.map OAuthClient.clientId)
      (registry : ClientRegistry)
      (htables : registry.toOAuthClientDb = createdTables env
        db.registry.toOAuthClientDb new startedAt hclientId) :
      Commits env db (.created new startedAt)
        (db.commit (.created new (nextSecretId env db.registry.toOAuthClientDb))
          registry)
  | updated (update : ClientUpdate) (found : OAuthClient)
      (updatedAt : Instant) (registry : ClientRegistry)
      (htables : registry.toOAuthClientDb = updatedTables env
        db.registry.toOAuthClientDb update found updatedAt) :
      Commits env db (.updated update found updatedAt)
        (db.commit (.updated update) registry)
  | rotated (rotation : SecretRotation) (found : OAuthClient)
      (startedAt touchedAt : Instant) (demoted : List String)
      (registry : ClientRegistry)
      (htables : registry.toOAuthClientDb = rotatedTables env
        db.registry.toOAuthClientDb rotation found startedAt touchedAt
          demoted) :
      Commits env db (.rotated rotation found startedAt touchedAt demoted)
        (db.commit (.rotated rotation
          (nextSecretId env db.registry.toOAuthClientDb)) registry)

section Inversion

variable {env : OAuthClientEnv} {db after : RegistryDb}
  {busy : RegistryLock → Bool} {txn next : ClientTxn} {draw : ClientDraw}
  {locks : List RegistryLock}

theorem beginCall_proceed {call : AdminCall}
    (hstatement : beginCall db draw call = .proceed next locks) :
    Proceeds db draw (.call call) next locks := by
  cases call with
  | createClient actorUserId input =>
      cases hstatement
      exact .createClient actorUserId input
  | updateClient update =>
      dsimp only [beginCall] at hstatement
      split at hstatement
      case h_1 => cases hstatement
      case h_2 found hfind =>
        cases hstatement
        obtain ⟨hfound, hclientId⟩ := findByClientId_eq_some hfind
        exact .updateClient update found hfound hclientId
  | rotateSecret actorUserId clientId gracePeriodDays =>
      cases hstatement
      exact .rotateSecret actorUserId clientId gracePeriodDays

theorem demoteRow_proceed {rotation : SecretRotation} {found : OAuthClient}
    {startedAt : Instant} {id : String} {rows demoted : List String}
    (hstatement : demoteRow db busy rotation found startedAt id rows demoted =
      .proceed next locks) :
    Proceeds db draw (.demoteRows rotation found startedAt (id :: rows) demoted)
      next locks := by
  unfold demoteRow at hstatement
  split at hstatement
  case isTrue => cases hstatement
  case isFalse =>
    split at hstatement
    case h_1 =>
      cases hstatement
      exact .skipRow rotation found startedAt id rows demoted
    case h_2 secret hfirst =>
      obtain ⟨hsecret, hwhere⟩ := Table.mem_of_first? hfirst
      rw [Bool.and_eq_true, beq_iff_eq] at hwhere
      obtain ⟨rfl, hprimary⟩ := hwhere
      split at hstatement
      case isTrue =>
        cases hstatement
        exact .demoteRow rotation found startedAt rows demoted secret hsecret
          hprimary
      case isFalse => cases hstatement

theorem insertPrimarySecret_proceed {rotation : SecretRotation}
    {found : OAuthClient} {startedAt : Instant} {demoted : List String}
    (hstatement : insertPrimarySecret db busy rotation found startedAt
      demoted = .proceed next locks) :
    Proceeds db draw (.insertPrimary rotation found startedAt demoted) next
      locks := by
  unfold insertPrimarySecret at hstatement
  dsimp only at hstatement
  split at hstatement
  case isTrue => cases hstatement
  case isFalse =>
    split at hstatement
    case isFalse => cases hstatement
    case isTrue hnone =>
      cases hstatement
      refine .insertPrimary rotation found startedAt demoted ?_
      intro secret hsecret hprimary
      by_contra hdemoted
      refine List.not_mem_nil (hnone ▸ Table.mem_select.mpr ⟨hsecret, ?_⟩)
      rw [Bool.and_eq_true, decide_eq_true_iff]
      exact ⟨hprimary, hdemoted⟩

/-- What a statement that goes on has found. -/
theorem clientStatement_proceed
    (hstatement : clientStatement env db busy txn draw =
      .proceed next locks) : Proceeds db draw txn next locks := by
  cases txn with
  | call call => exact beginCall_proceed hstatement
  | insertClient new =>
      dsimp only [clientStatement] at hstatement
      split at hstatement
      case isTrue => cases hstatement
      case isFalse =>
        cases hstatement
        exact .insertClient new
  | insertSecret new startedAt =>
      cases hstatement
      exact .insertSecret new startedAt
  | insertRedirectUris new startedAt =>
      dsimp only [clientStatement] at hstatement
      split at hstatement
      case isTrue =>
        cases hstatement
        exact .insertRedirectUris new startedAt
      case isFalse => cases hstatement
  | insertScopes new startedAt =>
      dsimp only [clientStatement] at hstatement
      split at hstatement
      case isTrue =>
        cases hstatement
        exact .insertScopes new startedAt
      case isFalse => cases hstatement
  | setColumns update found =>
      dsimp only [clientStatement] at hstatement
      split at hstatement
      case isTrue =>
        cases hstatement
        exact .setColumns update found
      case isFalse => cases hstatement
  | replaceRedirectUris update found updatedAt =>
      dsimp only [clientStatement] at hstatement
      split at hstatement
      case isTrue =>
        cases hstatement
        exact .replaceRedirectUris update found updatedAt
      case isFalse => cases hstatement
  | replaceScopes update found updatedAt =>
      dsimp only [clientStatement] at hstatement
      split at hstatement
      case isTrue =>
        cases hstatement
        exact .replaceScopes update found updatedAt
      case isFalse => cases hstatement
  | findClient rotation =>
      dsimp only [clientStatement] at hstatement
      split at hstatement
      case h_1 => cases hstatement
      case h_2 found hfind =>
        cases hstatement
        obtain ⟨hfound, hclientId⟩ := findByClientId_eq_some hfind
        exact .findClient rotation found hfound hclientId
  | demote rotation found startedAt =>
      cases hstatement
      exact .demote rotation found startedAt _
  | demoteRows rotation found startedAt rows demoted =>
      cases rows with
      | nil =>
          cases hstatement
          exact .noRow rotation found startedAt demoted
      | cons id rows => exact demoteRow_proceed hstatement
  | insertPrimary rotation found startedAt demoted =>
      exact insertPrimarySecret_proceed hstatement
  | touchClient rotation found startedAt demoted =>
      cases hstatement
      exact .touchClient rotation found startedAt demoted
  | created | updated | rotated =>
      exact absurd hstatement Outcome.ofCommit_ne_proceed

theorem write?_map_eq_some {registry : ClientRegistry} {tables : OAuthClientDb}
    {log : OAuthClientAuditLog} {change : RegistryChange}
    (hcommit : (registry.write? tables log).map (db.commit change) =
      some after) :
    ∃ written : ClientRegistry, written.toOAuthClientDb = tables ∧
      after = db.commit change written := by
  rw [Option.map_eq_some_iff] at hcommit
  obtain ⟨written, hwrite, rfl⟩ := hcommit
  exact ⟨written, ClientRegistry.write?_eq_some hwrite, rfl⟩

/-- What a statement that commits has written. -/
theorem clientStatement_commit
    (hstatement : clientStatement env db busy txn draw = .commit after) :
    Commits env db txn after := by
  cases txn with
  | created new startedAt =>
      have hcommit : commitCreated env db new startedAt = some after :=
        Outcome.ofCommit_eq_commit.mp hstatement
      unfold commitCreated at hcommit
      split at hcommit
      case isTrue hclientId =>
        obtain ⟨registry, htables, rfl⟩ := write?_map_eq_some hcommit
        exact .created new startedAt hclientId registry htables
      case isFalse => cases hcommit
  | updated update found updatedAt =>
      have hcommit : commitUpdated env db update found updatedAt =
          some after := Outcome.ofCommit_eq_commit.mp hstatement
      obtain ⟨registry, htables, rfl⟩ := write?_map_eq_some hcommit
      exact .updated update found updatedAt registry htables
  | rotated rotation found startedAt touchedAt demoted =>
      have hcommit : commitRotated env db rotation found startedAt touchedAt
          demoted = some after := Outcome.ofCommit_eq_commit.mp hstatement
      obtain ⟨registry, htables, rfl⟩ := write?_map_eq_some hcommit
      exact .rotated rotation found startedAt touchedAt demoted registry
        htables
  | call call =>
      cases call with
      | createClient | rotateSecret => cases hstatement
      | updateClient update =>
          dsimp only [clientStatement, beginCall] at hstatement
          split at hstatement <;> cases hstatement
  | insertSecret | demote | touchClient => cases hstatement
  | insertClient | insertRedirectUris | insertScopes | setColumns
  | replaceRedirectUris | replaceScopes | findClient =>
      dsimp only [clientStatement] at hstatement
      split at hstatement <;> cases hstatement
  | demoteRows rotation found startedAt rows demoted =>
      cases rows with
      | nil => cases hstatement
      | cons id rows =>
          change demoteRow db busy rotation found startedAt id rows demoted =
            .commit after at hstatement
          unfold demoteRow at hstatement
          repeat' split at hstatement
          all_goals cases hstatement
  | insertPrimary rotation found startedAt demoted =>
      change insertPrimarySecret db busy rotation found startedAt demoted =
        .commit after at hstatement
      unfold insertPrimarySecret at hstatement
      dsimp only at hstatement
      repeat' split at hstatement
      all_goals cases hstatement

end Inversion

/-! ## Locks -/

/-- The row of `oauth_clients` that the transaction has updated. -/
def ClientTxn.lockedClient : ClientTxn → Option String
  | .replaceRedirectUris _ found _ => some found.id
  | .replaceScopes _ found _ => some found.id
  | .updated _ found _ => some found.id
  | .rotated _ found _ _ _ => some found.id
  | _ => none

/-- The rows of `oauth_client_secrets` that the transaction has updated. -/
def ClientTxn.demoted : ClientTxn → List String
  | .demoteRows _ _ _ _ demoted => demoted
  | .insertPrimary _ _ _ demoted => demoted
  | .touchClient _ _ _ demoted => demoted
  | .rotated _ _ _ _ demoted => demoted
  | _ => []

structure ClientTxn.LocksHeld (held : List RegistryLock) (txn : ClientTxn) :
    Prop where
  client : ∀ id, txn.lockedClient = some id → RegistryLock.client id ∈ held
  secret : ∀ id ∈ txn.demoted, RegistryLock.secret id ∈ held

/-- Where a statement locks what it adds, the locks stay held. -/
theorem ClientTxn.LocksHeld.extend {held locks : List RegistryLock}
    {txn next : ClientTxn} (hheld : txn.LocksHeld held)
    (hclient : ∀ id, next.lockedClient = some id →
      txn.lockedClient = some id ∨ RegistryLock.client id ∈ locks)
    (hsecret : ∀ id ∈ next.demoted,
      id ∈ txn.demoted ∨ RegistryLock.secret id ∈ locks) :
    next.LocksHeld (locks ++ held) := by
  constructor
  · intro id hid
    rcases hclient id hid with hold | hnew
    · exact List.mem_append_right _ (hheld.client id hold)
    · exact List.mem_append_left _ hnew
  · intro id hid
    rcases hsecret id hid with hold | hnew
    · exact List.mem_append_right _ (hheld.secret id hold)
    · exact List.mem_append_left _ hnew

theorem Proceeds.locksHeld {db : RegistryDb} {draw : ClientDraw}
    {held locks : List RegistryLock} {txn next : ClientTxn}
    (hproceeds : Proceeds db draw txn next locks)
    (hheld : txn.LocksHeld held) : next.LocksHeld (locks ++ held) := by
  cases hproceeds with
  | demoteRow rotation found startedAt rows demoted secret =>
      refine hheld.extend (fun id hid => by cases hid) fun id hid => ?_
      rcases List.mem_append.mp hid with hold | hnew
      · exact .inl hold
      · rw [List.mem_singleton.mp hnew]
        exact .inr (List.mem_singleton.mpr rfl)
  | setColumns | touchClient =>
      refine hheld.extend (fun id hid => .inr ?_) fun id hid => .inl hid
      cases hid
      exact List.mem_singleton.mpr rfl
  | createClient | updateClient | rotateSecret | insertClient | insertSecret
  | insertRedirectUris | insertScopes | findClient | demote | noRow | skipRow
  | insertPrimary | replaceRedirectUris | replaceScopes =>
      exact hheld.extend (fun id hid => .inl hid) fun id hid => .inl hid

/-! ## Rows that are written -/

section Rows

variable {env : OAuthClientEnv} {db : OAuthClientDb}

theorem mem_createdTables_clients {new : NewClient} {startedAt : Instant}
    {hclientId : new.clientId ∉ db.oauthClients.rows.map OAuthClient.clientId}
    {client : OAuthClient} :
    client ∈ (createdTables env db new startedAt hclientId).oauthClients ↔
      client ∈ db.oauthClients ∨
        client = new.row startedAt (nextClientPkId env db) :=
  Table.mem_insertFresh (new.key_row startedAt)

theorem mem_createdTables_secrets {new : NewClient} {startedAt : Instant}
    {hclientId : new.clientId ∉ db.oauthClients.rows.map OAuthClient.clientId}
    {secret : OAuthClientSecret} :
    secret ∈ (createdTables env db new startedAt hclientId).oauthClientSecrets ↔
      secret ∈ db.oauthClientSecrets ∨
        secret = new.issued.row env (nextClientPkId env db) startedAt
          (nextSecretId env db) :=
  Table.mem_insertFresh
    (new.issued.key_row env (nextClientPkId env db) startedAt)

theorem mem_updatedTables_clients {update : ClientUpdate}
    {found : OAuthClient} {updatedAt : Instant} {client : OAuthClient} :
    client ∈ (updatedTables env db update found updatedAt).oauthClients ↔
      ∃ old ∈ db.oauthClients, client =
        if old.id = found.id then update.set found updatedAt old else old := by
  rw [updatedTables]
  dsimp only
  rw [Table.mem_update]
  simp only [beq_iff_eq]

theorem mem_rotatedTables_clients {rotation : SecretRotation}
    {found : OAuthClient} {startedAt touchedAt : Instant}
    {demoted : List String} {client : OAuthClient} :
    client ∈ (rotatedTables env db rotation found startedAt touchedAt
        demoted).oauthClients ↔
      ∃ old ∈ db.oauthClients, client =
        if old.id = found.id then old.touch touchedAt else old := by
  rw [rotatedTables]
  dsimp only
  rw [Table.mem_update]
  simp only [beq_iff_eq]

theorem mem_rotatedTables_secrets {rotation : SecretRotation}
    {found : OAuthClient} {startedAt touchedAt : Instant}
    {demoted : List String} {secret : OAuthClientSecret} :
    secret ∈ (rotatedTables env db rotation found startedAt touchedAt
        demoted).oauthClientSecrets ↔
      (∃ old ∈ db.oauthClientSecrets,
        secret = if old.id ∈ demoted then rotation.demote old else old) ∨
      secret = rotation.issued.row env found.id startedAt
        (nextSecretId env db) := by
  have hkeys : (db.oauthClientSecrets.update
      (fun secret => decide (secret.id ∈ demoted)) rotation.demote
      rotation.key_demote).rows.map key = db.oauthClientSecrets.rows.map key :=
    Table.map_update rotation.key_demote
  rw [rotatedTables]
  dsimp only
  rw [Table.mem_insertFresh, hkeys, Table.mem_update]
  simp only [decide_eq_true_eq]
  rfl

theorem nextClientPkId_ne {client : OAuthClient}
    (hclient : client ∈ db.oauthClients) :
    client.id ≠ nextClientPkId env db :=
  Table.key_ne_draw env.uuids hclient

end Rows

/-! ## Rows that stay -/

/-- Rows stay, and those that are not locked stay as they are. -/
structure RegistryDb.Respects (held : List RegistryLock)
    (db after : RegistryDb) : Prop where
  now : db.now = after.now
  client : ∀ client ∈ db.registry.oauthClients,
    ∃ row ∈ after.registry.oauthClients, row.id = client.id ∧
      row.clientId = client.clientId ∧
      (RegistryLock.client client.id ∉ held → row = client)
  secret : ∀ secret ∈ db.registry.oauthClientSecrets,
    RegistryLock.secret secret.id ∉ held →
      secret ∈ after.registry.oauthClientSecrets

/-- An update of one client. -/
theorem respects_client {held : List RegistryLock} {id : String}
    (hheld : RegistryLock.client id ∈ held) {client updated : OAuthClient}
    (hid : updated.id = client.id) (hclientId : updated.clientId =
      client.clientId) :
    (if client.id = id then updated else client).id = client.id ∧
      (if client.id = id then updated else client).clientId =
        client.clientId ∧
      (RegistryLock.client client.id ∉ held →
        (if client.id = id then updated else client) = client) := by
  by_cases hsame : client.id = id
  · rw [if_pos hsame]
    exact ⟨hid, hclientId, fun hfree => absurd (hsame ▸ hheld) hfree⟩
  · rw [if_neg hsame]
    exact ⟨rfl, rfl, fun _ => rfl⟩

theorem Commits.respects {env : OAuthClientEnv} {db after : RegistryDb}
    {held : List RegistryLock} {txn : ClientTxn}
    (hcommits : Commits env db txn after) (hheld : txn.LocksHeld held) :
    db.Respects held after := by
  cases hcommits with
  | created new startedAt hclientId registry htables =>
      constructor
      · rfl
      · intro client hclient
        refine ⟨client, ?_, rfl, rfl, fun _ => rfl⟩
        change client ∈ registry.toOAuthClientDb.oauthClients
        rw [htables]
        exact mem_createdTables_clients.mpr (.inl hclient)
      · intro secret hsecret _
        change secret ∈ registry.toOAuthClientDb.oauthClientSecrets
        rw [htables]
        exact mem_createdTables_secrets.mpr (.inl hsecret)
  | updated update found updatedAt registry htables =>
      constructor
      · rfl
      · intro client hclient
        change ∃ row ∈ registry.toOAuthClientDb.oauthClients, _
        rw [htables]
        exact ⟨_, mem_updatedTables_clients.mpr ⟨client, hclient, rfl⟩,
          respects_client (hheld.client found.id rfl) rfl rfl⟩
      · intro secret hsecret _
        change secret ∈ registry.toOAuthClientDb.oauthClientSecrets
        rw [htables]
        exact hsecret
  | rotated rotation found startedAt touchedAt demoted registry htables =>
      constructor
      · rfl
      · intro client hclient
        change ∃ row ∈ registry.toOAuthClientDb.oauthClients, _
        rw [htables]
        exact ⟨_, mem_rotatedTables_clients.mpr ⟨client, hclient, rfl⟩,
          respects_client (hheld.client found.id rfl) rfl rfl⟩
      · intro secret hsecret hfree
        change secret ∈ registry.toOAuthClientDb.oauthClientSecrets
        rw [htables]
        refine mem_rotatedTables_secrets.mpr (.inl ⟨secret, hsecret, ?_⟩)
        rw [if_neg]
        exact fun hdemoted => hfree (hheld.secret secret.id hdemoted)

theorem Commits.history_ne {env : OAuthClientEnv} {db after : RegistryDb}
    {txn : ClientTxn} (hcommits : Commits env db txn after) :
    after.history ≠ db.history := by
  have hcommit : ∀ change registry,
      (db.commit change registry).history ≠ db.history := by
    intro change registry heq
    have hlength := congrArg List.length heq
    rw [RegistryDb.commit, List.length_append] at hlength
    exact Nat.succ_ne_self _ hlength
  cases hcommits with
  | created | updated | rotated => exact hcommit _ _

theorem registry_of_tick {db after : RegistryDb} {now : Instant}
    (htick : tickRegistry db now = some after) :
    after.registry = db.registry := by
  unfold tickRegistry at htick
  split at htick
  case isTrue =>
    cases htick
    rfl
  case isFalse => cases htick

/-- A client is there, under this id. -/
def RegistryDb.HasClient (db : RegistryDb) (id clientId : String) : Prop :=
  ∃ client ∈ db.registry.oauthClients,
    client.id = id ∧ client.clientId = clientId

theorem RegistryDb.HasClient.id_eq {db : RegistryDb}
    {left right clientId : String} (hleft : db.HasClient left clientId)
    (hright : db.HasClient right clientId) : left = right := by
  obtain ⟨leftClient, hleftMem, rfl, hleftId⟩ := hleft
  obtain ⟨rightClient, hrightMem, rfl, hrightId⟩ := hright
  rw [db.registry.eq_of_clientId_eq hleftMem hrightMem
    (hleftId.trans hrightId.symm)]

theorem RegistryDb.HasClient.clientId_eq {db : RegistryDb}
    {id left right : String} (hleft : db.HasClient id left)
    (hright : db.HasClient id right) : left = right := by
  obtain ⟨leftClient, hleftMem, hleftId, rfl⟩ := hleft
  obtain ⟨rightClient, hrightMem, hrightId, rfl⟩ := hright
  rw [db.registry.oauthClients.eq_of_key_eq hleftMem hrightMem
    (hleftId.trans hrightId.symm)]

theorem RegistryDb.Respects.hasClient {db after : RegistryDb}
    {held : List RegistryLock} {id clientId : String}
    (hrespects : db.Respects held after) (hclient : db.HasClient id clientId) :
    after.HasClient id clientId := by
  obtain ⟨client, hmem, rfl, rfl⟩ := hclient
  obtain ⟨row, hrow, hid, hclientId, -⟩ := hrespects.client client hmem
  exact ⟨row, hrow, hid, hclientId⟩

end IdProvider
