/-
What the registry promises of the secrets it hands out, under every
interleaving of its calls.
-/
import IdProvider.SecretRotation

namespace IdProvider

open Interleaving KeyedTable ThrowingSearch Transactions

/-! ## Client ids -/

theorem digitChar_ne_colon : ∀ digit < 16, Nat.digitChar digit ≠ ':' := by
  decide

/-- An id that the service makes up. -/
theorem presentableId_generated (bytes : List UInt8) :
    PresentableId ("client_" ++ String.ofList (hexDigits bytes)) := by
  rw [PresentableId, Ne, ← String.toList_eq_nil_iff, String.toList_append,
    String.toList_ofList, List.mem_append]
  refine ⟨List.append_ne_nil_of_left_ne_nil (by decide) _, ?_⟩
  rintro (hstarts | hdigits)
  · exact absurd hstarts (by decide)
  · rw [String.toList_ofList] at hdigits
    obtain ⟨byte, -, hmem⟩ := List.mem_flatMap.mp hdigits
    have hbyte := byte.toNat_lt
    rw [List.mem_cons, List.mem_singleton] at hmem
    rcases hmem with heq | heq
    · exact digitChar_ne_colon _ (by omega) heq.symm
    · exact digitChar_ne_colon _ (Nat.mod_lt _ (by omega)) heq.symm

/-- The call names no id that the header cannot carry. -/
def AdminCall.Presentable : AdminCall → Prop
  | .createClient _ input =>
      ∀ clientId, input.clientId = some clientId → PresentableId clientId
  | .updateClient _ => True
  | .rotateSecret _ _ _ => True

def ClientTxn.CallPresentable (txn : ClientTxn) : Prop :=
  ∀ call, txn = .call call → call.Presentable

/-- The client that the transaction inserts. -/
def ClientTxn.newClient : ClientTxn → Option NewClient
  | .insertClient new => some new
  | .insertSecret new _ => some new
  | .insertRedirectUris new _ => some new
  | .insertScopes new _ => some new
  | .created new _ => some new
  | _ => none

def presentableDiscipline : Discipline RegistryDb ClientTxn RegistryLock where
  DbOk db := ∀ client ∈ db.registry.oauthClients,
    PresentableId client.clientId
  TxnOk _ _ txn := ∀ new, txn.newClient = some new →
    PresentableId new.clientId
  Respects _ _ _ := True

theorem Proceeds.presentable {db : RegistryDb} {draw : ClientDraw}
    {locks : List RegistryLock} {txn next : ClientTxn}
    (hproceeds : Proceeds db draw txn next locks)
    (hcall : txn.CallPresentable)
    (hok : ∀ new, txn.newClient = some new → PresentableId new.clientId) :
    ∀ new, next.newClient = some new → PresentableId new.clientId := by
  cases hproceeds with
  | createClient actorUserId input =>
      intro new hnew
      cases hnew
      change PresentableId (input.clientId.getD _)
      cases hclientId : input.clientId with
      | none => exact presentableId_generated draw.clientId
      | some clientId =>
          exact hcall _ rfl clientId hclientId
  | insertClient | insertSecret | insertRedirectUris | insertScopes => exact hok
  | updateClient | rotateSecret | setColumns | replaceRedirectUris
  | replaceScopes | findClient | demote | noRow | skipRow | demoteRow
  | insertPrimary | touchClient =>
      intro new hnew
      cases hnew

theorem Commits.presentable {env : OAuthClientEnv} {db after : RegistryDb}
    {txn : ClientTxn} (hcommits : Commits env db txn after)
    (hdb : ∀ client ∈ db.registry.oauthClients, PresentableId client.clientId)
    (hok : ∀ new, txn.newClient = some new → PresentableId new.clientId) :
    ∀ client ∈ after.registry.oauthClients, PresentableId client.clientId := by
  cases hcommits with
  | created new startedAt hclientId registry htables =>
      intro client hclient
      change client ∈ registry.toOAuthClientDb.oauthClients at hclient
      rw [htables, mem_createdTables_clients] at hclient
      rcases hclient with hold | rfl
      · exact hdb client hold
      · exact hok new rfl
  | updated update found updatedAt registry htables =>
      intro client hclient
      change client ∈ registry.toOAuthClientDb.oauthClients at hclient
      rw [htables, mem_updatedTables_clients] at hclient
      obtain ⟨old, hold, rfl⟩ := hclient
      split
      case isTrue => exact hdb old hold
      case isFalse => exact hdb old hold
  | rotated rotation found startedAt touchedAt demoted registry htables =>
      intro client hclient
      change client ∈ registry.toOAuthClientDb.oauthClients at hclient
      rw [htables, mem_rotatedTables_clients] at hclient
      obtain ⟨old, hold, rfl⟩ := hclient
      split
      case isTrue => exact hdb old hold
      case isFalse => exact hdb old hold

theorem presentableDiscipline_sound (env : OAuthClientEnv) :
    presentableDiscipline.Sound (clientCode env)
      fun _ txn _ => txn.CallPresentable where
  start db call _ new hnew := by cases hnew
  proceed db busy held txn draw next locks _ hok hcall hstatement :=
    (clientStatement_proceed hstatement).presentable hcall hok
  commit db busy held txn draw after hdb hok _ hstatement :=
    ⟨(clientStatement_commit hstatement).presentable hdb hok, trivial⟩
  stable db after others held txn _ _ hok := hok
  environment db now after hdb htick := by
    unfold clientCode tickRegistry at htick
    dsimp only at htick
    split at htick
    case isFalse => cases htick
    case isTrue =>
      cases htick
      exact ⟨hdb, fun _ _ hok => hok⟩

theorem presentable_run {env : OAuthClientEnv} {now : Instant}
    {actions : List ClientAction} {pool : ClientPool}
    (hcalls : ∀ id call, .spawn id call ∈ actions → call.Presentable)
    (hrun : StepSystem.run (step (clientProgram env)) (ClientPool.initial now)
      actions = some pool) :
    ∀ client ∈ pool.shared.db.registry.oauthClients,
      PresentableId client.clientId := by
  refine (presentableDiscipline_sound env).run
    (fun client hclient => absurd hclient (Table.not_mem_empty client)) ?_ hrun
  refine along_of_calls ?_ ?_ (fun _ _ _ hok => hok) hcalls ?_
  · intro call hcall other hother
    cases hother
    exact hcall
  · intro db busy txn draw next locks _ hstatement call hnext
    rw [hnext] at hstatement
    cases clientStatement_proceed hstatement
  · intro id thread hthread
    cases hthread

/-! ## What is promised -/

/-- What the library documents: a hash starts with its parameters, its own
password verifies against it, and no password makes it throw. -/
structure OAuthClientEnv.Argon2 (env : OAuthClientEnv) : Prop where
  startsWith : ∀ password salt,
    startsWith (env.argon2Hash password salt) argon2Prefix = true
  verifies : ∀ password salt,
    env.argon2Verify (env.argon2Hash password salt) password = some true
  answers : ∀ password salt other,
    env.argon2Verify (env.argon2Hash password salt) other ≠ none

theorem OAuthClientEnv.Argon2.verifyPassword {env : OAuthClientEnv}
    (hargon2 : env.Argon2) (new : NewSecret) (password : String) :
    env.verifyPassword password (new.secretHash env) =
      env.argon2Verify (env.argon2Hash new.secret new.salt) password := by
  rw [NewSecret.secretHash, OidcEnv.verifyPassword,
    if_pos (hargon2.startsWith new.secret new.salt)]

/-- The secret of the call is the current one, or in the grace period that the
rotation after it gave. -/
def RegistryDb.Entitles (db : RegistryDb) (call : CommittedCall)
    (later : List CommittedCall) : Prop :=
  ∀ next, replacedBy call.clientId later = some next →
    isAfter next.graceUntil db.now = true

/-- Each client has one unrevoked primary secret, what does not commit changes
no table, and a secret authenticates its active client while it is
entitled to. -/
structure SecretsSound (env : OAuthClientEnv) (pool : ClientPool) : Prop where
  onePrimary : ∀ client ∈ pool.shared.db.registry.oauthClients,
    ∃! secret, secret ∈ pool.shared.db.registry.oauthClientSecrets ∧
      secret.primaryOf client.id = true
  unchanged : ∀ action next,
    step (clientProgram env) pool action = some next →
    next.shared.db.history = pool.shared.db.history →
      next.shared.db.registry = pool.shared.db.registry
  accepted : ∀ before call later,
    pool.shared.db.history = before ++ call :: later →
    ∀ issued, call.issued = some issued →
      pool.shared.db.Entitles call later →
      ∀ client ∈ pool.shared.db.registry.oauthClients,
        client.clientId = call.clientId → client.status = "active" →
          authenticates env.toOAuthServiceEnv
            pool.shared.db.registry.toOAuthClientDb pool.shared.db.now
            (some (basicAuthorization call.clientId issued.2.secret)) = true

section Sound

variable {env : OAuthClientEnv} {db : RegistryDb}

/-- Every row holds the hash of a secret that a call issued. -/
theorem RegistryDb.SecretsOk.exists_issued (hdb : db.SecretsOk env)
    {secret : OAuthClientSecret}
    (hsecret : secret ∈ db.registry.oauthClientSecrets) :
    ∃ before call later new, db.history = before ++ call :: later ∧
      call.issued = some (secret.id, new) ∧
      IssuedRow env db call.clientId later (secret.id, new) secret := by
  obtain ⟨call, hcall, new, hissued⟩ := hdb.recorded secret hsecret
  obtain ⟨before, later, hhistory⟩ := List.append_of_mem hcall
  obtain ⟨row, hrow, hissuedRow⟩ :=
    hdb.issued before call later hhistory _ hissued
  have hsame : row = secret :=
    db.registry.oauthClientSecrets.eq_of_key_eq hrow hsecret hissuedRow.id
  rw [hsame] at hissuedRow
  exact ⟨before, call, later, new, hhistory, hissued, hissuedRow⟩

theorem IssuedRow.mem_usableSecrets {clientId : String}
    {later : List CommittedCall} {issued : String × NewSecret}
    {secret : OAuthClientSecret}
    (hrow : IssuedRow env db clientId later issued secret)
    (hsecret : secret ∈ db.registry.oauthClientSecrets)
    (hentitled : ∀ next, replacedBy clientId later = some next →
      isAfter next.graceUntil db.now = true) :
    secret ∈ usableSecrets db.registry.toOAuthClientDb db.now
      secret.clientPkId := by
  rw [IdProvider.mem_usableSecrets]
  refine ⟨hsecret, rfl, hrow.revokedAt, .inl hrow.expiresAt, ?_⟩
  cases hnext : replacedBy clientId later with
  | none => exact .inl (hrow.current hnext)
  | some next =>
      rw [OAuthClientSecret.graceDate, (hrow.replaced next hnext).2,
        Timestamp.map_toInstant_ofInstant]
      exact .inr (hentitled next hnext)

theorem verifiesSecret_of_issued (hargon2 : env.Argon2)
    (hdb : db.SecretsOk env) {clientId : String}
    {later : List CommittedCall} {issued : String × NewSecret}
    {secret : OAuthClientSecret}
    (hrow : IssuedRow env db clientId later issued secret)
    (hsecret : secret ∈ db.registry.oauthClientSecrets)
    (hentitled : ∀ next, replacedBy clientId later = some next →
      isAfter next.graceUntil db.now = true) :
    verifiesSecret env.toOAuthServiceEnv db.registry.toOAuthClientDb db.now
      secret.clientPkId issued.2.secret = some true := by
  apply anyM_eq_some_true_of_mem ?_
    (hrow.mem_usableSecrets hsecret hentitled)
  · rw [hrow.secretHash, hargon2.verifyPassword]
    exact hargon2.verifies _ _
  · intro other hother
    obtain ⟨_, _, _, new, _, _, hotherRow⟩ :=
      hdb.exists_issued (mem_usableSecrets.mp hother).1
    rw [hotherRow.secretHash, hargon2.verifyPassword]
    exact hargon2.answers _ _ _

/-- Where no call names an id that the header cannot carry, what the registry
promises holds in every run. -/
theorem secretsSound_of_presentable (hargon2 : env.Argon2) {now : Instant}
    {actions : List ClientAction} {pool : ClientPool}
    (hcalls : ∀ id call, .spawn id call ∈ actions → call.Presentable)
    (hrun : StepSystem.run (step (clientProgram env)) (ClientPool.initial now)
      actions = some pool) : SecretsSound env pool := by
  have hdb := secretsOk_run hrun
  have hpresentable := presentable_run hcalls hrun
  constructor
  · intro client hclient
    obtain ⟨secret, hsecret, hprimary⟩ := hdb.primary client hclient
    refine ⟨secret, ⟨hsecret, hprimary⟩, ?_⟩
    rintro other ⟨hother, hotherPrimary⟩
    exact pool.shared.db.registry.eq_of_primaryOf hother hsecret hotherPrimary
      hprimary
  · intro action next hstep hhistory
    rcases step_db (clientCode env) hstep with
      hsame | ⟨busy, txn, draw, hcommit⟩ | ⟨event, htick⟩
    · rw [hsame]
    · exact absurd hhistory (clientStatement_commit hcommit).history_ne
    · exact registry_of_tick htick
  · intro before call later hhistory issued hissued hentitled client hclient
      hclientId hactive
    obtain ⟨secret, hsecret, hrow⟩ :=
      hdb.issued before call later hhistory issued hissued
    have howner : secret.clientPkId = client.id :=
      hrow.owner.id_eq ⟨client, hclient, rfl, hclientId⟩
    have hverifies := verifiesSecret_of_issued hargon2 hdb hrow hsecret
      hentitled
    rw [howner] at hverifies
    rw [← hclientId]
    rw [authenticates, authenticateClientBasic,
      parseOAuthClientBasicAuth_basicAuthorization
        (hpresentable client hclient)]
    dsimp only
    rw [findAuthenticated_of_mem hclient, if_pos hactive, hverifies]
    rfl

end Sound

/-! ## Two clients -/

namespace RegistryWitness

def hashPrefix : String := "$argon2id$v=19$m=65536,t=3,p=4$"

/-- A hash that keeps its password: it throws on what is no such hash. -/
def env : OAuthClientEnv where
  argon2Hash password salt :=
    hashPrefix ++ String.ofList (Base64.url salt ++ '$' :: password.toList)
  argon2Verify storedHash password :=
    if startsWith storedHash hashPrefix then
      some (decide (((storedHash.toList.drop hashPrefix.length).dropWhile
        (· ≠ '$')) = '$' :: password.toList))
    else none
  compareClientSecret clientSecret actual := clientSecret == actual
  oauthClientId := "local-client"
  oauthClientSecret := "local-client-secret"
  uuids := .longer

theorem argon2Verify_argon2Hash (password other : String) (salt : List UInt8) :
    env.argon2Verify (env.argon2Hash password salt) other =
      some (decide (password = other)) := by
  have hdigit : ∀ value, Base64.urlDigit value ≠ '$' := by decide +kernel
  have hsalt : ∀ c ∈ Base64.url salt, decide (c ≠ '$') = true := by
    intro c hc
    obtain ⟨value, -, rfl⟩ := List.mem_map.mp hc
    exact decide_eq_true (hdigit value)
  unfold env
  dsimp only
  rw [if_pos (startsWith_append _ _), String.toList_append,
    ← String.length_toList, List.drop_left, String.toList_ofList,
    List.dropWhile_append_of_pos hsalt, List.dropWhile_cons_of_neg (by decide)]
  simp [String.toList_inj]

theorem argon2 : env.Argon2 where
  startsWith password salt := by
    rw [startsWith, List.isPrefixOf_iff_prefix]
    unfold env
    dsimp only
    rw [String.toList_append]
    exact List.IsPrefix.trans (by decide) (List.prefix_append _ _)
  verifies password salt := by
    rw [argon2Verify_argon2Hash, decide_eq_true rfl]
  answers password salt other := by
    rw [argon2Verify_argon2Hash]
    exact Option.some_ne_none _

/-- `createClient` under an id of the admin's own choice. -/
def create (clientId : String) : AdminCall :=
  .createClient "admin-1"
    { clientId := some clientId
      name := "BFF Client"
      clientType := "confidential"
      tokenEndpointAuthMethod := "client_secret_basic"
      redirectUris := ["https://app.example.com/callback"]
      allowedScopes := ["openid"]
      accessTokenTtlSeconds := none
      refreshTokenTtlSeconds := none }

def draw (byte : UInt8) : ClientDraw := ⟨[byte], [byte], [byte]⟩

/-- A call that runs to its end alone. -/
def alone (id : Nat) (call : AdminCall) (statements : Nat) :
    List ClientAction :=
  .spawn id call ::
    List.replicate statements (.advance id (draw (UInt8.ofNat id)))

def after (actions : List ClientAction) : ClientPool :=
  StepSystem.after (step (clientProgram env)) (ClientPool.initial 0) actions

def rotated : List ClientAction :=
  alone 1 (create "bff-client") 6 ++
    alone 2 (.rotateSecret "admin-1" "bff-client" 7) 8

theorem rotated_presentable : ∀ id call, .spawn id call ∈ rotated →
    call.Presentable := by
  intro id call hcall
  simp only [rotated, alone, List.mem_append, List.mem_cons,
    List.mem_replicate, Action.spawn.injEq, reduceCtorEq, and_false,
    or_false] at hcall
  rcases hcall with ⟨-, rfl⟩ | ⟨-, rfl⟩
  · intro clientId hclientId
    cases hclientId
    exact ⟨by decide, by decide⟩
  · trivial

theorem secretsSound_rotated : SecretsSound env (after rotated) :=
  secretsSound_of_presentable argon2 rotated_presentable
    (StepSystem.run_after _ (by decide +kernel))

def colon : List ClientAction := alone 1 (create "svc:eu") 6

theorem not_secretsSound :
    ¬ ∀ env now actions pool, OAuthClientEnv.Argon2 env →
      StepSystem.run (step (clientProgram env)) (ClientPool.initial now)
        actions = some pool → SecretsSound env pool := by
  intro hclaim
  have hsound := hclaim env 0 colon (after colon) argon2
    (StepSystem.run_after _ (by decide +kernel))
  have hhistory : (after colon).shared.db.history =
      [] ++ (after colon).shared.db.history.head (by decide +kernel) :: [] := by
    decide +kernel
  have haccepted := hsound.accepted _ _ _ hhistory
    ("k", ⟨"ocs_AQ", [1]⟩) (by decide +kernel)
    (by intro next hnext; cases hnext)
    { id := "k"
      clientId := "svc:eu"
      name := "BFF Client"
      clientType := "confidential"
      tokenEndpointAuthMethod := "client_secret_basic"
      status := "active"
      accessTokenTtlSeconds := none
      refreshTokenTtlSeconds := none
      updatedAt := 0 }
    (by decide +kernel) (by decide +kernel) rfl
  exact absurd haccepted (by decide +kernel)

end RegistryWitness

end IdProvider
