/-
The secrets of the registry: each client has one primary secret, and a secret
that a call returned authenticates until its grace period ends, wherever the
header can carry the client's id.
-/
import IdProvider.RegistrySteps

namespace IdProvider

open Interleaving KeyedTable ThrowingSearch Transactions

/-! ## The history -/

/-- The row of the secret that the call issued, and the secret. -/
def CommittedCall.issued (call : CommittedCall) : Option (String × NewSecret) :=
  match call.change with
  | .created new secretId => some (secretId, new.issued)
  | .updated _ => none
  | .rotated rotation secretId => some (secretId, rotation.issued)

def CommittedCall.rotation (call : CommittedCall) : Option SecretRotation :=
  match call.change with
  | .created _ _ => none
  | .updated _ => none
  | .rotated rotation _ => some rotation

def CommittedCall.rotates (clientId : String) (call : CommittedCall) : Bool :=
  call.rotation.any fun rotation => rotation.clientId == clientId

/-- The grace period that the call gives to the secret it replaces. -/
def CommittedCall.graceUntil (call : CommittedCall) : Option Instant :=
  call.rotation.bind SecretRotation.graceUntil

/-- The rotation that replaced a secret, among the calls after it. -/
def replacedBy (clientId : String) (later : List CommittedCall) :
    Option CommittedCall :=
  later.find? (CommittedCall.rotates clientId)

theorem replacedBy_concat_of_some {clientId : String}
    {later : List CommittedCall} {next : CommittedCall}
    (hnext : replacedBy clientId later = some next) (call : CommittedCall) :
    replacedBy clientId (later ++ [call]) = some next := by
  rw [replacedBy, List.find?_append, ← replacedBy, hnext]
  rfl

theorem replacedBy_concat_of_none {clientId : String}
    {later : List CommittedCall}
    (hnone : replacedBy clientId later = none) (call : CommittedCall) :
    replacedBy clientId (later ++ [call]) =
      if call.rotates clientId then some call else none := by
  rw [replacedBy, List.find?_append, ← replacedBy, hnone, Option.none_or,
    List.find?_singleton]

/-- A call of a longer history is the last one, or one of before. -/
theorem split_concat {Call : Type} {history before later : List Call}
    {new call : Call} (hsplit : history ++ [new] = before ++ call :: later) :
    (later = [] ∧ before = history ∧ call = new) ∨
      ∃ rest, later = rest ++ [new] ∧ history = before ++ call :: rest := by
  rcases List.eq_nil_or_concat later with rfl | ⟨rest, last, rfl⟩
  · left
    obtain ⟨hbefore, hcall⟩ := List.append_inj' hsplit rfl
    exact ⟨rfl, hbefore.symm, (List.cons.inj hcall).1.symm⟩
  · right
    rw [List.concat_eq_append, ← List.cons_append, ← List.append_assoc]
      at hsplit
    obtain ⟨hhistory, hlast⟩ := List.append_inj' hsplit rfl
    refine ⟨rest, ?_, hhistory⟩
    rw [List.concat_eq_append, (List.cons.inj hlast).1]

/-! ## The rows of the secrets -/

/-- The row of an issued secret: primary until a rotation replaces it, which
gives it its grace period. -/
structure IssuedRow (env : OAuthClientEnv) (db : RegistryDb)
    (clientId : String) (later : List CommittedCall) (issued : String × NewSecret)
    (secret : OAuthClientSecret) : Prop where
  id : secret.id = issued.1
  secretHash : secret.secretHash = issued.2.secretHash env
  owner : db.HasClient secret.clientPkId clientId
  revokedAt : secret.revokedAt = none
  expiresAt : secret.expiresAt = none
  current : replacedBy clientId later = none → secret.isPrimary = true
  replaced : ∀ next, replacedBy clientId later = some next →
    secret.isPrimary = false ∧
      secret.graceUntil = next.graceUntil.map .ofInstant

/-- A grace period of some days, counted from a time not later than `now`. -/
def SecretRotation.GraceBounded (rotation : SecretRotation) (now : Instant) :
    Prop :=
  ∀ graceUntil, rotation.graceUntil = some graceUntil →
    0 < rotation.gracePeriodDays ∧
      graceUntil ≤ now + rotation.gracePeriodDays * dayMillis

structure RegistryDb.SecretsOk (env : OAuthClientEnv) (db : RegistryDb) :
    Prop where
  primary : ∀ client ∈ db.registry.oauthClients,
    ∃ secret ∈ db.registry.oauthClientSecrets,
      secret.primaryOf client.id = true
  issued : ∀ before call later, db.history = before ++ call :: later →
    ∀ issued, call.issued = some issued →
      ∃ secret ∈ db.registry.oauthClientSecrets,
        IssuedRow env db call.clientId later issued secret
  recorded : ∀ secret ∈ db.registry.oauthClientSecrets,
    ∃ call ∈ db.history, ∃ new, call.issued = some (secret.id, new)
  grace : ∀ call ∈ db.history, ∀ rotation, call.rotation = some rotation →
    rotation.GraceBounded call.committedAt

/-- The rotation that the transaction runs. -/
def ClientTxn.rotation : ClientTxn → Option SecretRotation
  | .findClient rotation => some rotation
  | .demote rotation _ _ => some rotation
  | .demoteRows rotation _ _ _ _ => some rotation
  | .insertPrimary rotation _ _ _ => some rotation
  | .touchClient rotation _ _ _ => some rotation
  | .rotated rotation _ _ _ _ => some rotation
  | _ => none

/-- The client whose secret the transaction rotates. -/
def ClientTxn.rotating : ClientTxn → Option (String × String)
  | .demote rotation found _ => some (found.id, rotation.clientId)
  | .demoteRows rotation found _ _ _ => some (found.id, rotation.clientId)
  | .insertPrimary rotation found _ _ => some (found.id, rotation.clientId)
  | .touchClient rotation found _ _ => some (found.id, rotation.clientId)
  | .rotated rotation found _ _ _ => some (found.id, rotation.clientId)
  | _ => none

/-- The new secret is inserted. -/
def ClientTxn.inserted : ClientTxn → Bool
  | .touchClient _ _ _ _ => true
  | .rotated _ _ _ _ _ => true
  | _ => false

structure ClientTxn.SecretsOk (db : RegistryDb) (held : List RegistryLock)
    (txn : ClientTxn) : Prop where
  locks : txn.LocksHeld held
  found : ∀ id clientId, txn.rotating = some (id, clientId) →
    db.HasClient id clientId
  demoted : ∀ clientPkId clientId, txn.rotating = some (clientPkId, clientId) →
    ∀ id ∈ txn.demoted, ∃ secret ∈ db.registry.oauthClientSecrets,
      secret.id = id ∧ secret.primaryOf clientPkId = true
  inserted : txn.inserted = true → txn.demoted ≠ []
  grace : ∀ rotation, txn.rotation = some rotation →
    rotation.GraceBounded db.now

def secretDiscipline (env : OAuthClientEnv) :
    Discipline RegistryDb ClientTxn RegistryLock where
  DbOk := RegistryDb.SecretsOk env
  TxnOk := ClientTxn.SecretsOk
  Respects := RegistryDb.Respects

/-! ### What others commit -/

theorem SecretRotation.GraceBounded.mono {rotation : SecretRotation}
    {now later : Instant} (hgrace : rotation.GraceBounded now)
    (hnow : now ≤ later) : rotation.GraceBounded later := by
  intro graceUntil hgraceUntil
  obtain ⟨hdays, hbound⟩ := hgrace graceUntil hgraceUntil
  exact ⟨hdays, hbound.trans (Int.add_le_add_right hnow _)⟩

theorem ClientTxn.SecretsOk.stable {db after : RegistryDb}
    {others held : List RegistryLock} {txn : ClientTxn}
    (hok : txn.SecretsOk db held) (hrespects : db.Respects others after)
    (hdisjoint : others.Disjoint held) : txn.SecretsOk after held where
  locks := hok.locks
  found id clientId hrotating := hrespects.hasClient (hok.found id clientId
    hrotating)
  demoted clientPkId clientId hrotating id hid := by
    obtain ⟨secret, hsecret, rfl, hprimary⟩ :=
      hok.demoted clientPkId clientId hrotating id hid
    refine ⟨secret, hrespects.secret secret hsecret ?_, rfl, hprimary⟩
    exact fun hothers => hdisjoint hothers (hok.locks.secret secret.id hid)
  inserted := hok.inserted
  grace rotation hrotation := by
    rw [← hrespects.now]
    exact hok.grace rotation hrotation

/-! ### Statements that go on -/

theorem graceBounded_begin (actorUserId clientId : String)
    (gracePeriodDays : Int) (now : Instant) (issued : NewSecret) :
    SecretRotation.GraceBounded ⟨actorUserId, clientId, gracePeriodDays,
      graceUntilOf gracePeriodDays now, issued⟩ now := by
  intro graceUntil hgraceUntil
  dsimp only [graceUntilOf] at hgraceUntil
  split at hgraceUntil
  case isTrue hdays =>
    cases hgraceUntil
    exact ⟨hdays, le_refl _⟩
  case isFalse => cases hgraceUntil

/-- A transaction that demotes nothing more. -/
theorem ClientTxn.SecretsOk.next {db : RegistryDb}
    {held locks : List RegistryLock} {txn next : ClientTxn}
    (hok : txn.SecretsOk db held) (hlocks : next.LocksHeld (locks ++ held))
    (hdemoted : next.demoted = txn.demoted)
    (hrotating : next.rotating = txn.rotating)
    (hrotation : next.rotation = txn.rotation)
    (hinserted : next.inserted = true → txn.demoted ≠ []) :
    next.SecretsOk db (locks ++ held) where
  locks := hlocks
  found id clientId hnext := hok.found id clientId (hrotating ▸ hnext)
  demoted clientPkId clientId hnext id hid :=
    hok.demoted clientPkId clientId (hrotating ▸ hnext) id (hdemoted ▸ hid)
  inserted hnext := by
    rw [hdemoted]
    exact hinserted hnext
  grace rotation hnext := hok.grace rotation (hrotation ▸ hnext)

theorem Proceeds.secretsOk {env : OAuthClientEnv} {db : RegistryDb}
    {draw : ClientDraw} {held locks : List RegistryLock}
    {txn next : ClientTxn} (hproceeds : Proceeds db draw txn next locks)
    (hdb : db.SecretsOk env) (hok : txn.SecretsOk db held) :
    next.SecretsOk db (locks ++ held) := by
  have hlocks := hproceeds.locksHeld hok.locks
  cases hproceeds with
  | createClient | updateClient | insertClient | insertSecret
  | insertRedirectUris | insertScopes | setColumns | replaceRedirectUris
  | replaceScopes | noRow | skipRow =>
      exact hok.next hlocks rfl rfl rfl (fun hinserted => by cases hinserted)
  | touchClient rotation found startedAt demoted =>
      exact hok.next hlocks rfl rfl rfl fun _ => hok.inserted rfl
  | rotateSecret actorUserId clientId gracePeriodDays =>
      constructor
      · exact hlocks
      · intro id clientId hrotating
        cases hrotating
      · intro clientPkId clientId hrotating
        cases hrotating
      · intro hinserted
        cases hinserted
      · intro rotation hrotation
        cases hrotation
        exact graceBounded_begin _ _ _ _ _
  | findClient rotation found hfound hclientId =>
      constructor
      · exact hlocks
      · intro id clientId hrotating
        cases hrotating
        exact ⟨found, hfound, rfl, hclientId⟩
      · intro clientPkId clientId _ id hid
        cases hid
      · intro hinserted
        cases hinserted
      · exact hok.grace
  | demote rotation found startedAt rows =>
      constructor
      · exact hlocks
      · exact hok.found
      · intro clientPkId clientId _ id hid
        cases hid
      · intro hinserted
        cases hinserted
      · exact hok.grace
  | demoteRow rotation found startedAt rows demoted secret hsecret hprimary =>
      constructor
      · exact hlocks
      · exact hok.found
      · intro clientPkId clientId hrotating id hid
        rcases List.mem_append.mp hid with hold | hnew
        · exact hok.demoted clientPkId clientId hrotating id hold
        · cases hrotating
          rw [List.mem_singleton] at hnew
          exact ⟨secret, hsecret, hnew.symm, hprimary⟩
      · intro hinserted
        cases hinserted
      · exact hok.grace
  | insertPrimary rotation found startedAt demoted hothers =>
      -- The primary row of the client is one that this transaction demoted.
      refine hok.next hlocks rfl rfl rfl fun _ => ?_
      obtain ⟨client, hclient, hid, -⟩ := hok.found _ _ rfl
      obtain ⟨secret, hsecret, hprimary⟩ := hdb.primary client hclient
      rw [hid] at hprimary
      exact List.ne_nil_of_mem (hothers secret hsecret hprimary)

/-! ### Statements that commit -/

section Commit

variable {env : OAuthClientEnv} {db after : RegistryDb}

/-- The row stays as it is, and the call does not replace it. -/
theorem IssuedRow.keep {clientId : String} {later : List CommittedCall}
    {issued : String × NewSecret} {secret : OAuthClientSecret}
    (hrow : IssuedRow env db clientId later issued secret)
    (hclients : ∀ id clientId, db.HasClient id clientId →
      after.HasClient id clientId) {call : CommittedCall}
    (hcall : call.rotates clientId = true →
      replacedBy clientId later ≠ none) :
    IssuedRow env after clientId (later ++ [call]) issued secret where
  id := hrow.id
  secretHash := hrow.secretHash
  owner := hclients _ _ hrow.owner
  revokedAt := hrow.revokedAt
  expiresAt := hrow.expiresAt
  current hnone := by
    cases hreplaced : replacedBy clientId later with
    | none => exact hrow.current hreplaced
    | some next =>
        rw [replacedBy_concat_of_some hreplaced] at hnone
        cases hnone
  replaced next hnext := by
    cases hreplaced : replacedBy clientId later with
    | none =>
        rw [replacedBy_concat_of_none hreplaced, if_neg] at hnext
        · cases hnext
        · exact fun hrotates => hcall hrotates hreplaced
    | some earliest =>
        rw [replacedBy_concat_of_some hreplaced] at hnext
        exact hrow.replaced next (hreplaced.trans hnext)

/-- The rotation that replaces a secret. -/
theorem IssuedRow.replace {clientId : String} {later : List CommittedCall}
    {issued : String × NewSecret} {secret : OAuthClientSecret}
    (hrow : IssuedRow env db clientId later issued secret)
    (hclients : ∀ id clientId, db.HasClient id clientId →
      after.HasClient id clientId) (hprimary : secret.isPrimary = true)
    {call : CommittedCall} {rotation : SecretRotation}
    (hcall : call.rotation = some rotation)
    (hclientId : rotation.clientId = clientId) :
    IssuedRow env after clientId (later ++ [call]) issued
      (rotation.demote secret) := by
  have hreplaced : replacedBy clientId (later ++ [call]) = some call := by
    cases hlater : replacedBy clientId later with
    | none =>
        rw [replacedBy_concat_of_none hlater, if_pos]
        rw [CommittedCall.rotates, hcall, Option.any_some, hclientId,
          beq_self_eq_true]
    | some next =>
        rw [(hrow.replaced next hlater).1] at hprimary
        cases hprimary
  constructor
  · exact hrow.id
  · exact hrow.secretHash
  · exact hclients _ _ hrow.owner
  · exact hrow.revokedAt
  · exact hrow.expiresAt
  · intro hnone
    rw [hreplaced] at hnone
    cases hnone
  · intro next hnext
    rw [hreplaced] at hnext
    cases hnext
    refine ⟨rfl, ?_⟩
    rw [CommittedCall.graceUntil, hcall]
    rfl

/-- The row that a call inserts. -/
theorem issuedRow_new {clientPkId clientId : String} {new : NewSecret}
    {secretId : String} (howner : after.HasClient clientPkId clientId)
    (createdAt : Instant) :
    IssuedRow env after clientId [] (secretId, new)
      (new.row env clientPkId createdAt secretId) where
  id := rfl
  secretHash := rfl
  owner := howner
  revokedAt := rfl
  expiresAt := rfl
  current _ := rfl
  replaced next hnext := by cases hnext

/-- Every issued secret has its row after one more call. -/
theorem issued_concat {call : CommittedCall}
    (hold : ∀ before old later, db.history = before ++ old :: later →
      ∀ issued, old.issued = some issued →
        ∃ secret ∈ after.registry.oauthClientSecrets,
          IssuedRow env after old.clientId (later ++ [call]) issued secret)
    (hnew : ∀ issued, call.issued = some issued →
      ∃ secret ∈ after.registry.oauthClientSecrets,
        IssuedRow env after call.clientId [] issued secret) :
    ∀ before old later, db.history ++ [call] = before ++ old :: later →
      ∀ issued, old.issued = some issued →
        ∃ secret ∈ after.registry.oauthClientSecrets,
          IssuedRow env after old.clientId later issued secret := by
  intro before old later hsplit issued hissued
  rcases split_concat hsplit with ⟨rfl, rfl, rfl⟩ | ⟨rest, rfl, hhistory⟩
  · exact hnew issued hissued
  · exact hold before old rest hhistory issued hissued

/-- A call of the longer history. -/
theorem forall_concat {calls : List CommittedCall} {call : CommittedCall}
    {Holds : CommittedCall → Prop} (hold : ∀ old ∈ calls, Holds old)
    (hnew : Holds call) : ∀ old ∈ calls ++ [call], Holds old := by
  intro old hmem
  rcases List.mem_append.mp hmem with hmem | hmem
  · exact hold old hmem
  · rwa [List.mem_singleton.mp hmem]

theorem RegistryDb.SecretsOk.created (hdb : db.SecretsOk env)
    {new : NewClient} {startedAt : Instant}
    {hclientId : new.clientId ∉
      db.registry.oauthClients.rows.map OAuthClient.clientId}
    {registry : ClientRegistry}
    (htables : registry.toOAuthClientDb = createdTables env
      db.registry.toOAuthClientDb new startedAt hclientId)
    (hclients : ∀ id clientId, db.HasClient id clientId →
      (db.commit (.created new
        (nextSecretId env db.registry.toOAuthClientDb)) registry).HasClient id
        clientId) :
    (db.commit (.created new (nextSecretId env db.registry.toOAuthClientDb))
      registry).SecretsOk env := by
  have hclient : ∀ client, client ∈ registry.oauthClients ↔
      client ∈ db.registry.oauthClients ∨ client = new.row startedAt
        (nextClientPkId env db.registry.toOAuthClientDb) := by
    intro client
    rw [htables]
    exact mem_createdTables_clients
  have hsecret : ∀ secret, secret ∈ registry.oauthClientSecrets ↔
      secret ∈ db.registry.oauthClientSecrets ∨ secret = new.issued.row env
        (nextClientPkId env db.registry.toOAuthClientDb) startedAt
        (nextSecretId env db.registry.toOAuthClientDb) := by
    intro secret
    rw [htables]
    exact mem_createdTables_secrets
  constructor
  · intro client hmem
    rcases (hclient client).mp hmem with hold | rfl
    · obtain ⟨secret, hstored, hprimary⟩ := hdb.primary client hold
      exact ⟨secret, (hsecret secret).mpr (.inl hstored), hprimary⟩
    · refine ⟨_, (hsecret _).mpr (.inr rfl), ?_⟩
      rw [OAuthClientSecret.primaryOf_iff]
      exact ⟨rfl, rfl, rfl⟩
  · apply issued_concat
    · intro before old later hhistory issued hissued
      obtain ⟨secret, hstored, hrow⟩ :=
        hdb.issued before old later hhistory issued hissued
      refine ⟨secret, (hsecret secret).mpr (.inl hstored),
        hrow.keep hclients ?_⟩
      intro hrotates
      cases hrotates
    · intro issued hissued
      cases hissued
      have howner : (db.commit (.created new
          (nextSecretId env db.registry.toOAuthClientDb)) registry).HasClient
          (nextClientPkId env db.registry.toOAuthClientDb) new.clientId :=
        ⟨_, (hclient _).mpr (.inr rfl), rfl, rfl⟩
      exact ⟨_, (hsecret _).mpr (.inr rfl), issuedRow_new howner startedAt⟩
  · intro secret hmem
    rcases (hsecret secret).mp hmem with hold | rfl
    · obtain ⟨call, hcall, hissued⟩ := hdb.recorded secret hold
      exact ⟨call, List.mem_append_left _ hcall, hissued⟩
    · exact ⟨_, List.mem_append_right _ (List.mem_singleton.mpr rfl),
        new.issued, rfl⟩
  · apply forall_concat hdb.grace
    intro rotation hrotation
    cases hrotation

theorem RegistryDb.SecretsOk.updated (hdb : db.SecretsOk env)
    {update : ClientUpdate} {found : OAuthClient} {updatedAt : Instant}
    {registry : ClientRegistry}
    (htables : registry.toOAuthClientDb = updatedTables env
      db.registry.toOAuthClientDb update found updatedAt)
    (hclients : ∀ id clientId, db.HasClient id clientId →
      (db.commit (.updated update) registry).HasClient id clientId) :
    (db.commit (.updated update) registry).SecretsOk env := by
  have hsecrets : registry.oauthClientSecrets =
      db.registry.oauthClientSecrets := by
    rw [htables]
    rfl
  constructor
  · intro client hmem
    change client ∈ registry.toOAuthClientDb.oauthClients at hmem
    rw [htables, mem_updatedTables_clients] at hmem
    obtain ⟨old, hold, rfl⟩ := hmem
    obtain ⟨secret, hstored, hprimary⟩ := hdb.primary old hold
    refine ⟨secret, hsecrets ▸ hstored, ?_⟩
    split
    case isTrue => exact hprimary
    case isFalse => exact hprimary
  · apply issued_concat
    · intro before old later hhistory issued hissued
      obtain ⟨secret, hstored, hrow⟩ :=
        hdb.issued before old later hhistory issued hissued
      refine ⟨secret, hsecrets ▸ hstored, hrow.keep hclients ?_⟩
      intro hrotates
      cases hrotates
    · intro issued hissued
      cases hissued
  · intro secret hmem
    obtain ⟨call, hcall, hissued⟩ := hdb.recorded secret (hsecrets ▸ hmem)
    exact ⟨call, List.mem_append_left _ hcall, hissued⟩
  · apply forall_concat hdb.grace
    intro rotation hrotation
    cases hrotation

/-- The rotation's rows: those that were primary of the client are demoted. -/
theorem mem_demoted_iff {clientPkId : String} {demoted : List String}
    (hdemoted : ∀ id ∈ demoted, ∃ secret ∈ db.registry.oauthClientSecrets,
      secret.id = id ∧ secret.primaryOf clientPkId = true)
    (hsome : demoted ≠ []) {secret : OAuthClientSecret}
    (hsecret : secret ∈ db.registry.oauthClientSecrets) :
    secret.id ∈ demoted ↔ secret.primaryOf clientPkId = true := by
  constructor
  · intro hid
    obtain ⟨row, hrow, hsame, hprimary⟩ := hdemoted secret.id hid
    rwa [← db.registry.oauthClientSecrets.eq_of_key_eq hrow hsecret hsame]
  · intro hprimary
    obtain ⟨id, hid⟩ := List.exists_mem_of_ne_nil demoted hsome
    obtain ⟨row, hrow, rfl, hrowPrimary⟩ := hdemoted id hid
    rwa [db.registry.eq_of_primaryOf hsecret hrow hprimary hrowPrimary]

/-- A rotation demotes the row if it is the primary one of the client, and
leaves it as it is otherwise. -/
theorem IssuedRow.rotated {clientId : String} {later : List CommittedCall}
    {issued : String × NewSecret} {secret : OAuthClientSecret}
    (hrow : IssuedRow env db clientId later issued secret)
    (hclients : ∀ id clientId, db.HasClient id clientId →
      after.HasClient id clientId)
    {rotation : SecretRotation} {found : OAuthClient}
    (hfound : db.HasClient found.id rotation.clientId) {demoted : List String}
    (hdemoted : secret.id ∈ demoted ↔ secret.primaryOf found.id = true)
    {call : CommittedCall} (hcall : call.rotation = some rotation) :
    IssuedRow env after clientId (later ++ [call]) issued
      (if secret.id ∈ demoted then rotation.demote secret else secret) := by
  by_cases hprimary : secret.primaryOf found.id = true
  · rw [if_pos (hdemoted.mpr hprimary)]
    rw [OAuthClientSecret.primaryOf_iff] at hprimary
    have hclientId : rotation.clientId = clientId := by
      have howner := hrow.owner
      rw [hprimary.1] at howner
      exact hfound.clientId_eq howner
    exact hrow.replace hclients hprimary.2.1 hcall hclientId
  · rw [if_neg (fun hmem => hprimary (hdemoted.mp hmem))]
    apply hrow.keep hclients
    intro hrotates hnone
    -- The secret is the primary one, so the rotation has demoted it.
    apply hprimary
    rw [OAuthClientSecret.primaryOf_iff]
    refine ⟨?_, hrow.current hnone, hrow.revokedAt⟩
    have hclientId : rotation.clientId = clientId := by
      rw [CommittedCall.rotates, hcall, Option.any_some] at hrotates
      exact beq_iff_eq.mp hrotates
    rw [hclientId] at hfound
    exact hrow.owner.id_eq hfound

theorem RegistryDb.SecretsOk.rotated (hdb : db.SecretsOk env)
    {rotation : SecretRotation} {found : OAuthClient}
    {startedAt touchedAt : Instant} {demoted : List String}
    {held : List RegistryLock}
    (hok : (ClientTxn.rotated rotation found startedAt touchedAt
      demoted).SecretsOk db held)
    {registry : ClientRegistry}
    (htables : registry.toOAuthClientDb = rotatedTables env
      db.registry.toOAuthClientDb rotation found startedAt touchedAt demoted)
    (hclients : ∀ id clientId, db.HasClient id clientId →
      (db.commit (.rotated rotation
        (nextSecretId env db.registry.toOAuthClientDb)) registry).HasClient id
        clientId) :
    (db.commit (.rotated rotation
      (nextSecretId env db.registry.toOAuthClientDb)) registry).SecretsOk
        env := by
  have hdemoted : ∀ secret ∈ db.registry.oauthClientSecrets,
      (secret.id ∈ demoted ↔ secret.primaryOf found.id = true) := by
    intro secret hsecret
    exact mem_demoted_iff (hok.demoted _ _ rfl) (hok.inserted rfl) hsecret
  have hsecret : ∀ secret, secret ∈ registry.oauthClientSecrets ↔
      (∃ old ∈ db.registry.oauthClientSecrets,
        secret = if old.id ∈ demoted then rotation.demote old else old) ∨
      secret = rotation.issued.row env found.id startedAt
        (nextSecretId env db.registry.toOAuthClientDb) := by
    intro secret
    rw [htables]
    exact mem_rotatedTables_secrets
  have hfound := hok.found _ _ rfl
  constructor
  · intro client hmem
    change client ∈ registry.toOAuthClientDb.oauthClients at hmem
    rw [htables, mem_rotatedTables_clients] at hmem
    obtain ⟨old, hold, rfl⟩ := hmem
    by_cases hid : old.id = found.id
    · refine ⟨_, (hsecret _).mpr (.inr rfl), ?_⟩
      rw [if_pos hid, OAuthClientSecret.primaryOf_iff]
      exact ⟨hid.symm, rfl, rfl⟩
    · obtain ⟨secret, hstored, hprimary⟩ := hdb.primary old hold
      rw [if_neg hid]
      refine ⟨secret, (hsecret secret).mpr (.inl ⟨secret, hstored, ?_⟩),
        hprimary⟩
      rw [if_neg]
      intro hmem
      rw [hdemoted secret hstored, OAuthClientSecret.primaryOf_iff] at hmem
      rw [OAuthClientSecret.primaryOf_iff] at hprimary
      exact hid (hprimary.1.symm.trans hmem.1)
  · apply issued_concat
    · intro before old later hhistory issued hissued
      obtain ⟨secret, hstored, hrow⟩ :=
        hdb.issued before old later hhistory issued hissued
      exact ⟨_, (hsecret _).mpr (.inl ⟨secret, hstored, rfl⟩),
        hrow.rotated hclients hfound (hdemoted secret hstored) rfl⟩
    · intro issued hissued
      cases hissued
      exact ⟨_, (hsecret _).mpr (.inr rfl),
        issuedRow_new (hclients _ _ hfound) startedAt⟩
  · intro secret hmem
    rcases (hsecret secret).mp hmem with ⟨old, hold, rfl⟩ | rfl
    · obtain ⟨call, hcall, new, hissued⟩ := hdb.recorded old hold
      refine ⟨call, List.mem_append_left _ hcall, new, ?_⟩
      split
      case isTrue => exact hissued
      case isFalse => exact hissued
    · exact ⟨_, List.mem_append_right _ (List.mem_singleton.mpr rfl),
        rotation.issued, rfl⟩
  · apply forall_concat hdb.grace
    intro other hother
    cases hother
    exact hok.grace rotation rfl

theorem Commits.secretsOk {txn : ClientTxn} {held : List RegistryLock}
    (hcommits : Commits env db txn after) (hdb : db.SecretsOk env)
    (hok : txn.SecretsOk db held) : after.SecretsOk env := by
  have hclients := fun id clientId =>
    @RegistryDb.Respects.hasClient db after held id clientId
      (hcommits.respects hok.locks)
  cases hcommits with
  | created new startedAt hclientId registry htables =>
      exact hdb.created htables hclients
  | updated update found updatedAt registry htables =>
      exact hdb.updated htables hclients
  | rotated rotation found startedAt touchedAt demoted registry htables =>
      exact hdb.rotated hok htables hclients

end Commit

/-! ### Every run -/

theorem secretDiscipline_sound (env : OAuthClientEnv) :
    (secretDiscipline env).Sound (clientCode env) fun _ _ _ => True where
  start db call _ := by
    constructor
    · exact ⟨fun id hid => (by cases hid), fun id hid => (by cases hid)⟩
    · intro id clientId hrotating
      cases hrotating
    · intro clientPkId clientId hrotating
      cases hrotating
    · intro hinserted
      cases hinserted
    · intro rotation hrotation
      cases hrotation
  proceed db busy held txn draw next locks hdb hok _ hstatement :=
    (clientStatement_proceed hstatement).secretsOk hdb hok
  commit db busy held txn draw after hdb hok _ hstatement := by
    have hcommits := clientStatement_commit hstatement
    exact ⟨hcommits.secretsOk hdb hok, hcommits.respects hok.locks⟩
  stable db after others held txn hrespects hdisjoint hok :=
    hok.stable hrespects hdisjoint
  environment db now after hdb htick := by
    unfold clientCode tickRegistry at htick
    dsimp only at htick
    split at htick
    case isFalse => cases htick
    case isTrue hnow =>
      cases htick
      refine ⟨⟨hdb.primary, ?_, hdb.recorded, hdb.grace⟩, fun held txn hok =>
        ⟨hok.locks, hok.found, hok.demoted, hok.inserted, ?_⟩⟩
      · intro before call later hhistory issued hissued
        obtain ⟨secret, hsecret, hrow⟩ :=
          hdb.issued before call later hhistory issued hissued
        exact ⟨secret, hsecret, ⟨hrow.id, hrow.secretHash, hrow.owner,
          hrow.revokedAt, hrow.expiresAt, hrow.current, hrow.replaced⟩⟩
      · intro rotation hrotation
        exact (hok.grace rotation hrotation).mono hnow

/-- The registry has no client yet. -/
theorem secretsOk_initial (env : OAuthClientEnv) (now : Instant) :
    (RegistryDb.initial now).SecretsOk env where
  primary client hclient := absurd hclient (Table.not_mem_empty client)
  issued before call later hhistory := by
    exact absurd hhistory.symm (List.append_ne_nil_of_right_ne_nil _
      (List.cons_ne_nil _ _))
  recorded secret hsecret := absurd hsecret (Table.not_mem_empty secret)
  grace call hcall := absurd hcall List.not_mem_nil

theorem secretsOk_run {env : OAuthClientEnv} {now : Instant}
    {actions : List ClientAction} {pool : ClientPool}
    (hrun : StepSystem.run (step (clientProgram env)) (ClientPool.initial now)
      actions = some pool) : pool.shared.db.SecretsOk env := by
  refine (secretDiscipline_sound env).run (secretsOk_initial env now) ?_ hrun
  apply StepSystem.along_of_forall
  intro action _ state
  cases action with
  | advance id draw => exact fun _ _ => trivial
  | spawn | abort | environment => exact trivial

end IdProvider
