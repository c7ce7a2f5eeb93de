/-
Which call each field of a client comes from, when updates interleave.
-/
import IdProvider.IssuedSecrets

namespace IdProvider

open Interleaving KeyedTable Transactions

/-! ## The fields that a call names -/

section Named

variable (call : CommittedCall)

def CommittedCall.name : Option String :=
  match call.change with
  | .created new _ => some new.name
  | .updated update => update.input.name
  | .rotated _ _ => none

def CommittedCall.status : Option String :=
  match call.change with
  | .created new _ => some (new.status.getD "active")
  | .updated update => update.input.status.map OAuthClientStatus.text
  | .rotated _ _ => none

def CommittedCall.accessTokenTtlSeconds : Option (Option Int) :=
  match call.change with
  | .created new _ => some new.accessTokenTtlSeconds
  | .updated update => update.input.accessTokenTtlSeconds
  | .rotated _ _ => none

def CommittedCall.refreshTokenTtlSeconds : Option (Option Int) :=
  match call.change with
  | .created new _ => some new.refreshTokenTtlSeconds
  | .updated update => update.input.refreshTokenTtlSeconds
  | .rotated _ _ => none

def CommittedCall.redirectUris : Option (List String) :=
  match call.change with
  | .created new _ => some new.redirectUris
  | .updated update => update.input.redirectUris
  | .rotated _ _ => none

def CommittedCall.allowedScopes : Option (List String) :=
  match call.change with
  | .created new _ => some new.allowedScopes
  | .updated update => update.input.allowedScopes
  | .rotated _ _ => none

end Named

/-- What the last call for the client that names the field writes to it. -/
def lastNamed {Value : Type} (clientId : String)
    (field : CommittedCall → Option Value) (history : List CommittedCall) :
    Option Value :=
  (history.filterMap fun call =>
    if call.clientId = clientId then field call else none).getLast?

section LastNamed

variable {Value : Type} {clientId : String}
  {field : CommittedCall → Option Value} {history : List CommittedCall}
  {call : CommittedCall}

theorem lastNamed_of_named {value : Value} (hclientId : call.clientId = clientId)
    (hnamed : field call = some value) :
    lastNamed clientId field (history ++ [call]) = some value := by
  simp [lastNamed, hclientId, hnamed]

theorem lastNamed_of_unnamed
    (hunnamed : call.clientId = clientId → field call = none) :
    lastNamed clientId field (history ++ [call]) =
      lastNamed clientId field history := by
  by_cases hclientId : call.clientId = clientId
  · simp [lastNamed, hclientId, hunnamed hclientId]
  · simp [lastNamed, hclientId]

/-- A field that is written back as it was found, unless it is named. -/
theorem lastNamed_of_set {named : Option Value} {found old : Value}
    (hclientId : call.clientId = clientId) (hnamed : field call = named)
    (hold : lastNamed clientId field history = some old)
    (hfound : named = none → old = found) :
    lastNamed clientId field (history ++ [call]) =
      some (named.getD found) := by
  cases named with
  | none =>
      rw [lastNamed_of_unnamed (fun _ => hnamed), hold, hfound rfl]
      rfl
  | some value => exact lastNamed_of_named hclientId hnamed

end LastNamed

/-! ## Redirect URIs and scopes -/

/-- The values of the rows that belong to a client. -/
def ownedBy (id : String) (rows : List (String × String)) : List String :=
  (rows.filter fun row => row.1 == id).map Prod.snd

theorem ownedBy_append (id : String) (first second : List (String × String)) :
    ownedBy id (first ++ second) = ownedBy id first ++ ownedBy id second := by
  rw [ownedBy, List.filter_append, List.map_append]
  rfl

theorem ownedBy_self (id : String) (values : List String) :
    ownedBy id (values.map fun value => (id, value)) = values := by
  simp [ownedBy, List.filter_map, Function.comp_def]

theorem ownedBy_of_ne {id other : String} (hne : other ≠ id)
    (values : List String) :
    ownedBy id (values.map fun value => (other, value)) = [] := by
  simp [ownedBy, List.filter_map, Function.comp_def, hne]

/-- What is left after the rows of a client are deleted. -/
theorem ownedBy_delete {Row Key : Type} [Keyed Row Key]
    (owner value : Row → String) (table : Table Row) (id other : String) :
    ownedBy id ((table.delete fun row => owner row == other).rows.map fun row =>
        (owner row, value row)) =
      if id = other then []
      else ownedBy id (table.rows.map fun row => (owner row, value row)) := by
  simp only [ownedBy, Table.delete, List.filter_map, Function.comp_def,
    List.filter_filter, List.map_map]
  by_cases hid : id = other
  · rw [if_pos hid, hid]
    simp
  · rw [if_neg hid]
    congr 1
    apply List.filter_congr
    intro row _
    by_cases hrow : owner row = id
    · simp [hrow, hid]
    · simp [hrow]

def OAuthClientDb.redirectUrisOf (db : OAuthClientDb) (id : String) :
    List String :=
  (db.oauthClientRedirectUris.select fun row => row.clientPkId == id).map
    OAuthClientRedirectUri.redirectUri

def OAuthClientDb.allowedScopesOf (db : OAuthClientDb) (id : String) :
    List String :=
  (db.oauthClientScopes.select fun row => row.clientPkId == id).map
    OAuthClientScope.scope

theorem redirectUrisOf_eq (db : OAuthClientDb) (id : String) :
    db.redirectUrisOf id =
      ownedBy id (db.oauthClientRedirectUris.rows.map fun row =>
        (row.clientPkId, row.redirectUri)) := by
  simp [OAuthClientDb.redirectUrisOf, ownedBy, Table.select, List.filter_map,
    Function.comp_def]

theorem allowedScopesOf_eq (db : OAuthClientDb) (id : String) :
    db.allowedScopesOf id =
      ownedBy id (db.oauthClientScopes.rows.map fun row =>
        (row.clientPkId, row.scope)) := by
  simp [OAuthClientDb.allowedScopesOf, ownedBy, Table.select, List.filter_map,
    Function.comp_def]

theorem ownedBy_insertRedirectUris (env : OAuthClientEnv) (pkId id : String)
    (table : Table OAuthClientRedirectUri) (values : List String) :
    ownedBy id ((insertRedirectUris env pkId table values).rows.map fun row =>
        (row.clientPkId, row.redirectUri)) =
      ownedBy id (table.rows.map fun row =>
        (row.clientPkId, row.redirectUri)) ++
          ownedBy id (values.map fun value => (pkId, value)) := by
  rw [← ownedBy_append, insertRedirectUris]
  congr 1
  apply Table.map_insertAllFresh
  intro value id
  rfl

theorem ownedBy_insertScopes (env : OAuthClientEnv) (pkId id : String)
    (table : Table OAuthClientScope) (values : List String) :
    ownedBy id ((insertScopes env pkId table values).rows.map fun row =>
        (row.clientPkId, row.scope)) =
      ownedBy id (table.rows.map fun row => (row.clientPkId, row.scope)) ++
        ownedBy id (values.map fun value => (pkId, value)) := by
  rw [← ownedBy_append, insertScopes]
  congr 1
  apply Table.map_insertAllFresh
  intro value id
  rfl

section Lists

variable {env : OAuthClientEnv} {db : OAuthClientDb}

theorem redirectUrisOf_createdTables {new : NewClient} {startedAt : Instant}
    {hclientId : new.clientId ∉ db.oauthClients.rows.map OAuthClient.clientId}
    (id : String) :
    (createdTables env db new startedAt hclientId).redirectUrisOf id =
      db.redirectUrisOf id ++ ownedBy id
        (new.redirectUris.map fun value => (nextClientPkId env db, value)) := by
  rw [redirectUrisOf_eq, redirectUrisOf_eq, createdTables,
    ownedBy_insertRedirectUris]

theorem allowedScopesOf_createdTables {new : NewClient} {startedAt : Instant}
    {hclientId : new.clientId ∉ db.oauthClients.rows.map OAuthClient.clientId}
    (id : String) :
    (createdTables env db new startedAt hclientId).allowedScopesOf id =
      db.allowedScopesOf id ++ ownedBy id
        (new.allowedScopes.map fun value => (nextClientPkId env db, value)) := by
  rw [allowedScopesOf_eq, allowedScopesOf_eq, createdTables,
    ownedBy_insertScopes]

/-- A list that is replaced for one client. -/
theorem ownedBy_replace {id other : String} {kept : List String}
    {values : List String} :
    (if id = other then [] else kept) ++
        ownedBy id (values.map fun value => (other, value)) =
      if id = other then values else kept := by
  by_cases hid : id = other
  · rw [if_pos hid, if_pos hid, hid, ownedBy_self]
    rfl
  · rw [if_neg hid, if_neg hid, ownedBy_of_ne (Ne.symm hid), List.append_nil]

theorem redirectUrisOf_updatedTables {update : ClientUpdate}
    {found : OAuthClient} {updatedAt : Instant} (id : String) :
    (updatedTables env db update found updatedAt).redirectUrisOf id =
      if id = found.id then
        update.input.redirectUris.getD (db.redirectUrisOf id)
      else db.redirectUrisOf id := by
  rw [redirectUrisOf_eq, redirectUrisOf_eq, updatedTables]
  dsimp only
  cases update.input.redirectUris with
  | none => exact (ite_self _).symm
  | some redirectUris =>
      dsimp only
      rw [ownedBy_insertRedirectUris, ownedBy_delete, ownedBy_replace]
      rfl

theorem allowedScopesOf_updatedTables {update : ClientUpdate}
    {found : OAuthClient} {updatedAt : Instant} (id : String) :
    (updatedTables env db update found updatedAt).allowedScopesOf id =
      if id = found.id then
        update.input.allowedScopes.getD (db.allowedScopesOf id)
      else db.allowedScopesOf id := by
  rw [allowedScopesOf_eq, allowedScopesOf_eq, updatedTables]
  dsimp only
  cases update.input.allowedScopes with
  | none => exact (ite_self _).symm
  | some allowedScopes =>
      dsimp only
      rw [ownedBy_insertScopes, ownedBy_delete, ownedBy_replace]
      rfl

end Lists

/-! ## Fields that follow the history -/

/-- Each field of the client holds what the last call that named it wrote. -/
structure FollowsHistory (db : RegistryDb) (client : OAuthClient) : Prop where
  name : lastNamed client.clientId CommittedCall.name db.history =
    some client.name
  status : lastNamed client.clientId CommittedCall.status db.history =
    some client.status
  accessTokenTtlSeconds : lastNamed client.clientId
    CommittedCall.accessTokenTtlSeconds db.history =
      some client.accessTokenTtlSeconds
  refreshTokenTtlSeconds : lastNamed client.clientId
    CommittedCall.refreshTokenTtlSeconds db.history =
      some client.refreshTokenTtlSeconds
  redirectUris : lastNamed client.clientId CommittedCall.redirectUris
    db.history = some (db.registry.redirectUrisOf client.id)
  allowedScopes : lastNamed client.clientId CommittedCall.allowedScopes
    db.history = some (db.registry.allowedScopesOf client.id)

def RegistryDb.FieldsFollow (db : RegistryDb) : Prop :=
  ∀ client ∈ db.registry.oauthClients, FollowsHistory db client

/-- The columns that the update does not name are still as it found them. -/
structure ClientUpdate.Agrees (update : ClientUpdate)
    (found client : OAuthClient) : Prop where
  name : update.input.name = none → client.name = found.name
  status : update.input.status = none → client.status = found.status
  accessTokenTtlSeconds : update.input.accessTokenTtlSeconds = none →
    client.accessTokenTtlSeconds = found.accessTokenTtlSeconds
  refreshTokenTtlSeconds : update.input.refreshTokenTtlSeconds = none →
    client.refreshTokenTtlSeconds = found.refreshTokenTtlSeconds

instance (update : ClientUpdate) (found client : OAuthClient) :
    Decidable (update.Agrees found client) :=
  decidable_of_iff
    ((update.input.name = none → client.name = found.name) ∧
      (update.input.status = none → client.status = found.status) ∧
      (update.input.accessTokenTtlSeconds = none →
        client.accessTokenTtlSeconds = found.accessTokenTtlSeconds) ∧
      (update.input.refreshTokenTtlSeconds = none →
        client.refreshTokenTtlSeconds = found.refreshTokenTtlSeconds))
    ⟨fun h => ⟨h.1, h.2.1, h.2.2.1, h.2.2.2⟩,
      fun h => ⟨h.name, h.status, h.accessTokenTtlSeconds,
        h.refreshTokenTtlSeconds⟩⟩

/-- Between the query and the write of an update, nobody has changed a column
that it does not name. -/
def UpdatesUndisturbed (db : RegistryDb) (txn : ClientTxn) (_ : ClientDraw) :
    Prop :=
  match txn with
  | .setColumns update found =>
      ∀ client ∈ db.registry.oauthClients.rows, client.id = found.id →
        update.Agrees found client
  | _ => True

instance (db : RegistryDb) (txn : ClientTxn) (draw : ClientDraw) :
    Decidable (UpdatesUndisturbed db txn draw) :=
  match txn with
  | .setColumns update found => inferInstanceAs (Decidable
      (∀ client ∈ db.registry.oauthClients.rows, client.id = found.id →
        update.Agrees found client))
  | .call _ | .insertClient _ | .insertSecret _ _ | .insertRedirectUris _ _
  | .insertScopes _ _ | .created _ _ | .replaceRedirectUris _ _ _
  | .replaceScopes _ _ _ | .updated _ _ _ | .findClient _ | .demote _ _ _
  | .demoteRows _ _ _ _ _ | .insertPrimary _ _ _ _ | .touchClient _ _ _ _
  | .rotated _ _ _ _ _ => isTrue trivial

/-- The update that the transaction runs. -/
def ClientTxn.updating : ClientTxn → Option (ClientUpdate × OAuthClient)
  | .setColumns update found => some (update, found)
  | .replaceRedirectUris update found _ => some (update, found)
  | .replaceScopes update found _ => some (update, found)
  | .updated update found _ => some (update, found)
  | _ => none

/-- The update that the transaction has written. -/
def ClientTxn.written : ClientTxn → Option (ClientUpdate × OAuthClient)
  | .replaceRedirectUris update found _ => some (update, found)
  | .replaceScopes update found _ => some (update, found)
  | .updated update found _ => some (update, found)
  | _ => none

theorem ClientTxn.of_written {txn : ClientTxn} {update : ClientUpdate}
    {found : OAuthClient} (hwritten : txn.written = some (update, found)) :
    txn.updating = some (update, found) ∧ txn.lockedClient = some found.id := by
  cases txn with
  | replaceRedirectUris | replaceScopes | updated =>
      cases hwritten
      exact ⟨rfl, rfl⟩
  | call | insertClient | insertSecret | insertRedirectUris | insertScopes
  | created | setColumns | findClient | demote | demoteRows | insertPrimary
  | touchClient | rotated => cases hwritten

structure ClientTxn.FieldsOk (db : RegistryDb) (held : List RegistryLock)
    (txn : ClientTxn) : Prop where
  locks : txn.LocksHeld held
  found : ∀ update found, txn.updating = some (update, found) →
    db.HasClient found.id update.clientId
  agrees : ∀ update found, txn.written = some (update, found) →
    ∀ client ∈ db.registry.oauthClients, client.id = found.id →
      update.Agrees found client

def fieldDiscipline : Discipline RegistryDb ClientTxn RegistryLock where
  DbOk := RegistryDb.FieldsFollow
  TxnOk := ClientTxn.FieldsOk
  Respects := RegistryDb.Respects

/-- The row that an update has locked is the same after a commit of others. -/
theorem ClientTxn.FieldsOk.stable {db after : RegistryDb}
    {others held : List RegistryLock} {txn : ClientTxn}
    (hok : txn.FieldsOk db held) (hrespects : db.Respects others after)
    (hdisjoint : others.Disjoint held) : txn.FieldsOk after held where
  locks := hok.locks
  found update found hupdating := hrespects.hasClient (hok.found update found
    hupdating)
  agrees update found hwritten client hclient hid := by
    obtain ⟨hupdating, hlocked⟩ := txn.of_written hwritten
    obtain ⟨old, hold, holdId, -⟩ := hok.found update found hupdating
    obtain ⟨row, hrow, hrowId, -, hsame⟩ := hrespects.client old hold
    have hfree : RegistryLock.client old.id ∉ others := by
      rw [holdId]
      exact fun hothers => hdisjoint hothers (hok.locks.client _ hlocked)
    have hclientRow : client = row :=
      after.registry.oauthClients.eq_of_key_eq hclient hrow
        (hid.trans (hrowId.trans holdId).symm)
    rw [hclientRow, hsame hfree]
    exact hok.agrees update found hwritten old hold holdId

theorem Proceeds.fieldsOk {db : RegistryDb} {draw : ClientDraw}
    {held locks : List RegistryLock} {txn next : ClientTxn}
    (hproceeds : Proceeds db draw txn next locks)
    (hundisturbed : UpdatesUndisturbed db txn draw)
    (hok : txn.FieldsOk db held) : next.FieldsOk db (locks ++ held) := by
  have hlocks := hproceeds.locksHeld hok.locks
  cases hproceeds with
  | updateClient update found hfound hclientId =>
      constructor
      · exact hlocks
      · intro other otherFound hupdating
        cases hupdating
        exact ⟨found, hfound, rfl, hclientId⟩
      · intro other otherFound hwritten
        cases hwritten
  | setColumns update found =>
      constructor
      · exact hlocks
      · exact hok.found
      · intro other otherFound hwritten
        cases hwritten
        exact hundisturbed
  | replaceRedirectUris | replaceScopes =>
      exact ⟨hlocks, hok.found, hok.agrees⟩
  | createClient | rotateSecret | insertClient | insertSecret
  | insertRedirectUris | insertScopes | findClient | demote | noRow | skipRow
  | demoteRow | insertPrimary | touchClient =>
      constructor
      · exact hlocks
      · intro update found hupdating
        cases hupdating
      · intro update found hwritten
        cases hwritten

/-! ### Statements that commit -/

section Commit

variable {env : OAuthClientEnv} {db after : RegistryDb}

/-- A call for another client, or a rotation, leaves the fields alone. -/
theorem FollowsHistory.keep {client : OAuthClient} {change : RegistryChange}
    {registry : ClientRegistry} (hfollows : FollowsHistory db client)
    (hother : CommittedCall.clientId ⟨db.now, change⟩ = client.clientId →
      ∃ rotation secretId, change = .rotated rotation secretId)
    (hredirectUris : registry.redirectUrisOf client.id =
      db.registry.redirectUrisOf client.id)
    (hallowedScopes : registry.allowedScopesOf client.id =
      db.registry.allowedScopesOf client.id) :
    FollowsHistory (db.commit change registry) client := by
  have hkeep : ∀ {Value : Type} (field : CommittedCall → Option Value),
      (∀ rotation secretId, field ⟨db.now, .rotated rotation secretId⟩ = none) →
      lastNamed client.clientId field (db.commit change registry).history =
        lastNamed client.clientId field db.history := by
    intro Value field hrotated
    apply lastNamed_of_unnamed
    intro hclientId
    obtain ⟨rotation, secretId, rfl⟩ := hother hclientId
    exact hrotated rotation secretId
  constructor
  · rw [hkeep _ fun _ _ => rfl, hfollows.name]
  · rw [hkeep _ fun _ _ => rfl, hfollows.status]
  · rw [hkeep _ fun _ _ => rfl, hfollows.accessTokenTtlSeconds]
  · rw [hkeep _ fun _ _ => rfl, hfollows.refreshTokenTtlSeconds]
  · rw [hkeep _ fun _ _ => rfl, hfollows.redirectUris, ← hredirectUris]
    rfl
  · rw [hkeep _ fun _ _ => rfl, hfollows.allowedScopes, ← hallowedScopes]
    rfl

theorem redirectUrisOf_next (registry : ClientRegistry) :
    registry.redirectUrisOf (nextClientPkId env registry.toOAuthClientDb) =
      [] := by
  rw [OAuthClientDb.redirectUrisOf, List.map_eq_nil_iff, Table.select,
    List.filter_eq_nil_iff]
  intro row hrow hid
  obtain ⟨client, hclient, howner⟩ :=
    List.mem_map.mp (registry.constraints.redirectUriClient row hrow)
  exact nextClientPkId_ne hclient (howner.trans (beq_iff_eq.mp hid))

theorem allowedScopesOf_next (registry : ClientRegistry) :
    registry.allowedScopesOf (nextClientPkId env registry.toOAuthClientDb) =
      [] := by
  rw [OAuthClientDb.allowedScopesOf, List.map_eq_nil_iff, Table.select,
    List.filter_eq_nil_iff]
  intro row hrow hid
  obtain ⟨client, hclient, howner⟩ :=
    List.mem_map.mp (registry.constraints.scopeClient row hrow)
  exact nextClientPkId_ne hclient (howner.trans (beq_iff_eq.mp hid))

theorem RegistryDb.FieldsFollow.created (hdb : db.FieldsFollow)
    {new : NewClient} {startedAt : Instant}
    {hclientId : new.clientId ∉
      db.registry.oauthClients.rows.map OAuthClient.clientId}
    {registry : ClientRegistry}
    (htables : registry.toOAuthClientDb = createdTables env
      db.registry.toOAuthClientDb new startedAt hclientId) :
    (db.commit (.created new (nextSecretId env db.registry.toOAuthClientDb))
      registry).FieldsFollow := by
  have hredirectUris : ∀ id, registry.redirectUrisOf id =
      db.registry.redirectUrisOf id ++ ownedBy id
        (new.redirectUris.map fun value =>
          (nextClientPkId env db.registry.toOAuthClientDb, value)) := by
    intro id
    rw [htables, redirectUrisOf_createdTables]
  have hallowedScopes : ∀ id, registry.allowedScopesOf id =
      db.registry.allowedScopesOf id ++ ownedBy id
        (new.allowedScopes.map fun value =>
          (nextClientPkId env db.registry.toOAuthClientDb, value)) := by
    intro id
    rw [htables, allowedScopesOf_createdTables]
  intro client hclient
  change client ∈ registry.toOAuthClientDb.oauthClients at hclient
  rw [htables, mem_createdTables_clients] at hclient
  rcases hclient with hold | rfl
  · have hne : nextClientPkId env db.registry.toOAuthClientDb ≠ client.id :=
      (nextClientPkId_ne hold).symm
    apply (hdb client hold).keep
    · intro hsame
      exact absurd (List.mem_map.mpr ⟨client, hold, hsame.symm⟩) hclientId
    · rw [hredirectUris, ownedBy_of_ne hne, List.append_nil]
    · rw [hallowedScopes, ownedBy_of_ne hne, List.append_nil]
  · constructor
    · exact lastNamed_of_named rfl rfl
    · exact lastNamed_of_named rfl rfl
    · exact lastNamed_of_named rfl rfl
    · exact lastNamed_of_named rfl rfl
    · refine lastNamed_of_named ?_ ?_
      · rfl
      change some new.redirectUris = some (registry.redirectUrisOf
        (nextClientPkId env db.registry.toOAuthClientDb))
      rw [hredirectUris, redirectUrisOf_next, ownedBy_self, List.nil_append]
    · refine lastNamed_of_named ?_ ?_
      · rfl
      change some new.allowedScopes = some (registry.allowedScopesOf
        (nextClientPkId env db.registry.toOAuthClientDb))
      rw [hallowedScopes, allowedScopesOf_next, ownedBy_self, List.nil_append]

theorem RegistryDb.FieldsFollow.updated (hdb : db.FieldsFollow)
    {update : ClientUpdate} {found : OAuthClient} {updatedAt : Instant}
    {held : List RegistryLock}
    (hok : (ClientTxn.updated update found updatedAt).FieldsOk db held)
    {registry : ClientRegistry}
    (htables : registry.toOAuthClientDb = updatedTables env
      db.registry.toOAuthClientDb update found updatedAt) :
    (db.commit (.updated update) registry).FieldsFollow := by
  have hredirectUris : ∀ id, registry.redirectUrisOf id =
      if id = found.id then
        update.input.redirectUris.getD (db.registry.redirectUrisOf id)
      else db.registry.redirectUrisOf id := by
    intro id
    rw [htables, redirectUrisOf_updatedTables]
  have hallowedScopes : ∀ id, registry.allowedScopesOf id =
      if id = found.id then
        update.input.allowedScopes.getD (db.registry.allowedScopesOf id)
      else db.registry.allowedScopesOf id := by
    intro id
    rw [htables, allowedScopesOf_updatedTables]
  have hfound := hok.found _ _ rfl
  intro client hclient
  change client ∈ registry.toOAuthClientDb.oauthClients at hclient
  rw [htables, mem_updatedTables_clients] at hclient
  obtain ⟨old, hold, rfl⟩ := hclient
  have hfollows := hdb old hold
  by_cases hid : old.id = found.id
  · rw [if_pos hid]
    have hclientId : CommittedCall.clientId ⟨db.now, .updated update⟩ =
        old.clientId := hfound.clientId_eq ⟨old, hold, hid, rfl⟩
    have hagrees := hok.agrees _ _ rfl old hold hid
    constructor
    · exact lastNamed_of_set hclientId rfl hfollows.name hagrees.name
    · apply lastNamed_of_set hclientId rfl hfollows.status
      intro hunnamed
      exact hagrees.status (Option.map_eq_none_iff.mp hunnamed)
    · exact lastNamed_of_set hclientId rfl hfollows.accessTokenTtlSeconds
        hagrees.accessTokenTtlSeconds
    · exact lastNamed_of_set hclientId rfl hfollows.refreshTokenTtlSeconds
        hagrees.refreshTokenTtlSeconds
    · change _ = some (registry.redirectUrisOf old.id)
      rw [hredirectUris, if_pos hid]
      exact lastNamed_of_set hclientId rfl hfollows.redirectUris fun _ => rfl
    · change _ = some (registry.allowedScopesOf old.id)
      rw [hallowedScopes, if_pos hid]
      exact lastNamed_of_set hclientId rfl hfollows.allowedScopes fun _ => rfl
  · rw [if_neg hid]
    apply hfollows.keep
    · intro hsame
      have hclientId : update.clientId = old.clientId := hsame
      rw [hclientId] at hfound
      exact absurd (RegistryDb.HasClient.id_eq ⟨old, hold, rfl, rfl⟩ hfound)
        hid
    · rw [hredirectUris, if_neg hid]
    · rw [hallowedScopes, if_neg hid]

theorem FollowsHistory.touch {client : OAuthClient}
    (hfollows : FollowsHistory db client) (touchedAt : Instant) :
    FollowsHistory db (client.touch touchedAt) :=
  ⟨hfollows.name, hfollows.status, hfollows.accessTokenTtlSeconds,
    hfollows.refreshTokenTtlSeconds, hfollows.redirectUris,
    hfollows.allowedScopes⟩

theorem RegistryDb.FieldsFollow.rotated (hdb : db.FieldsFollow)
    {rotation : SecretRotation} {found : OAuthClient}
    {startedAt touchedAt : Instant} {demoted : List String}
    {registry : ClientRegistry}
    (htables : registry.toOAuthClientDb = rotatedTables env
      db.registry.toOAuthClientDb rotation found startedAt touchedAt demoted) :
    (db.commit (.rotated rotation
      (nextSecretId env db.registry.toOAuthClientDb)) registry).FieldsFollow := by
  intro client hclient
  change client ∈ registry.toOAuthClientDb.oauthClients at hclient
  rw [htables, mem_rotatedTables_clients] at hclient
  obtain ⟨old, hold, rfl⟩ := hclient
  have hkeep : FollowsHistory (db.commit (.rotated rotation
      (nextSecretId env db.registry.toOAuthClientDb)) registry) old := by
    apply (hdb old hold).keep
    · exact fun _ => ⟨rotation, _, rfl⟩
    · rw [htables]
      rfl
    · rw [htables]
      rfl
  split
  case isTrue => exact hkeep.touch touchedAt
  case isFalse => exact hkeep

theorem Commits.fieldsFollow {txn : ClientTxn} {held : List RegistryLock}
    (hcommits : Commits env db txn after) (hdb : db.FieldsFollow)
    (hok : txn.FieldsOk db held) : after.FieldsFollow := by
  cases hcommits with
  | created new startedAt hclientId registry htables =>
      exact hdb.created htables
  | updated update found updatedAt registry htables =>
      exact hdb.updated hok htables
  | rotated rotation found startedAt touchedAt demoted registry htables =>
      exact hdb.rotated htables

end Commit

/-! ### Every run -/

theorem fieldDiscipline_sound (env : OAuthClientEnv) :
    fieldDiscipline.Sound (clientCode env) UpdatesUndisturbed where
  start db call _ := by
    constructor
    · exact ⟨fun id hid => (by cases hid), fun id hid => (by cases hid)⟩
    · intro update found hupdating
      cases hupdating
    · intro update found hwritten
      cases hwritten
  proceed db busy held txn draw next locks _ hok hundisturbed hstatement :=
    (clientStatement_proceed hstatement).fieldsOk hundisturbed hok
  commit db busy held txn draw after hdb hok _ hstatement := by
    have hcommits := clientStatement_commit hstatement
    exact ⟨hcommits.fieldsFollow hdb hok, hcommits.respects hok.locks⟩
  stable db after others held txn hrespects hdisjoint hok :=
    hok.stable hrespects hdisjoint
  environment db now after hdb htick := by
    unfold clientCode tickRegistry at htick
    dsimp only at htick
    split at htick
    case isFalse => cases htick
    case isTrue =>
      cases htick
      refine ⟨fun client hclient => ?_, fun held txn hok =>
        ⟨hok.locks, hok.found, hok.agrees⟩⟩
      have hfollows := hdb client hclient
      exact ⟨hfollows.name, hfollows.status, hfollows.accessTokenTtlSeconds,
        hfollows.refreshTokenTtlSeconds, hfollows.redirectUris,
        hfollows.allowedScopes⟩

/-- Where no update is disturbed between its query and its write, each field of
each client holds what the last call that named it wrote, in every run. -/
theorem fieldsFollow_run {env : OAuthClientEnv} {now : Instant}
    {actions : List ClientAction} {pool : ClientPool}
    (hmeets : StepSystem.Along (step (clientProgram env))
      (Meets (OnStatements UpdatesUndisturbed)) (ClientPool.initial now)
      actions)
    (hrun : StepSystem.run (step (clientProgram env)) (ClientPool.initial now)
      actions = some pool) : pool.shared.db.FieldsFollow :=
  (fieldDiscipline_sound env).run
    (fun client hclient => absurd hclient (Table.not_mem_empty client)) hmeets
    hrun

/-! ## A disabled client that comes back -/

namespace RegistryWitness

def update (input : UpdateClientInput) : AdminCall :=
  .updateClient ⟨"admin-1", "bff-client", input⟩

def rename : AdminCall := update ⟨some "BFF", none, none, none, none, none⟩

def disable : AdminCall :=
  update ⟨none, some .disabled, none, none, none, none⟩

def retitle : AdminCall :=
  update ⟨some "Portal", some .disabled, none, none, none, none⟩

/-- Both updates have read the client before either writes it; the later one
names what the earlier one writes. -/
def updated : List ClientAction :=
  alone 1 (create "bff-client") 6 ++
    [.spawn 2 rename, .spawn 3 retitle, .advance 2 (draw 2),
      .advance 3 (draw 3)] ++
    List.replicate 4 (.advance 2 (draw 2)) ++
    List.replicate 4 (.advance 3 (draw 3))

theorem fieldsFollow_updated : (after updated).shared.db.FieldsFollow := by
  apply fieldsFollow_run _ (StepSystem.run_after _ (by decide +kernel))
  apply StepSystem.along_of_check _
    (meets_of_check fun store thread draw hcheck =>
      of_decide_eq_true (p := UpdatesUndisturbed store.db thread.txn draw)
        hcheck)
  decide +kernel

/-- The rename has read the client before the disable commits, and writes its
row afterwards. -/
def interleaved : List ClientAction :=
  alone 1 (create "bff-client") 6 ++
    [.spawn 2 rename, .advance 2 (draw 2)] ++ alone 3 disable 5 ++
    List.replicate 4 (.advance 2 (draw 2))

theorem not_fieldsFollow :
    ¬ ∀ env now actions pool,
      StepSystem.run (step (clientProgram env)) (ClientPool.initial now)
        actions = some pool → pool.shared.db.FieldsFollow := by
  intro hclaim
  have hfollow := hclaim env 0 interleaved (after interleaved)
    (StepSystem.run_after _ (by decide +kernel))
  have hclient : (after interleaved).shared.db.registry.oauthClients.rows.map
      (fun client => (client.clientId, client.status)) =
        [("bff-client", "active")] := by decide +kernel
  have hlast : lastNamed "bff-client" CommittedCall.status
      (after interleaved).shared.db.history = some "disabled" := by
    decide +kernel
  obtain ⟨client, hmem, hcolumns⟩ := List.mem_map.mp
    (hclient ▸ List.mem_singleton.mpr rfl :
      ("bff-client", "active") ∈
        (after interleaved).shared.db.registry.oauthClients.rows.map
          fun client => (client.clientId, client.status))
  obtain ⟨hclientId, hstatus⟩ := Prod.mk.inj hcolumns
  have hnamed := (hfollow client hmem).status
  rw [hclientId, hstatus, hlast] at hnamed
  exact absurd hnamed (by decide)

end RegistryWitness

end IdProvider
