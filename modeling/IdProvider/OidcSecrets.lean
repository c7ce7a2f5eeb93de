/-
Which secrets the OIDC provider accepts for a client of the registry, and when
these are the secrets that the client service accepts.
-/
import IdProvider.OAuthClients
import IdProvider.ThrowingSearch

namespace IdProvider

open JsonText KeyedTable ThrowingSearch

/-! ## The two lists of secrets -/

theorem mem_usableSecrets {db : OAuthClientDb} {now : Instant}
    {clientPkId : String} {secret : OAuthClientSecret} :
    secret ∈ usableSecrets db now clientPkId ↔
      secret ∈ db.oauthClientSecrets ∧ secret.clientPkId = clientPkId ∧
        secret.revokedAt = none ∧
        (secret.expiresAt = none ∨ isLater secret.expiresAt now = true) ∧
        (secret.isPrimary = true ∨ isAfter secret.graceDate now = true) := by
  have hlist : secret ∈ listActiveSecrets db now clientPkId ↔
      secret ∈ db.oauthClientSecrets ∧ secret.clientPkId = clientPkId ∧
        secret.revokedAt = none ∧
        (secret.expiresAt = none ∨
          isLater secret.expiresAt now = true) := by
    rw [listActiveSecrets, (RowOrder.descending_perm _ _).mem_iff,
      Table.mem_select]
    simp [and_assoc]
  have husable : isSecretUsable now secret = true ↔
      secret.isPrimary = true ∨ isAfter secret.graceDate now = true := by
    unfold isSecretUsable
    cases secret.isPrimary <;> simp
  rw [usableSecrets, List.mem_filter, hlist, husable]
  simp only [and_assoc]

/-- The rows that the provider reads: those in their grace period by the
column, which has microseconds. -/
theorem mem_secretRows {db : OAuthClientDb} {now : Instant}
    {clientPkId : String} {secret : OAuthClientSecret} :
    secret ∈ secretRows db now clientPkId ↔
      secret ∈ db.oauthClientSecrets ∧ secret.clientPkId = clientPkId ∧
        secret.revokedAt = none ∧
        (secret.expiresAt = none ∨ isLater secret.expiresAt now = true) ∧
        (secret.isPrimary = true ∨
          isLater secret.graceUntil now = true) := by
  rw [secretRows, (RowOrder.descending_perm _ _).mem_iff, Table.mem_select]
  simp [and_assoc]

/-- The grace period of a rotated secret ends inside the current
millisecond. -/
def Lapsing (now : Instant) (secret : OAuthClientSecret) : Prop :=
  secret.isPrimary = false ∧
    ∃ graceUntil, secret.graceUntil = some graceUntil ∧
      graceUntil.Inside now

theorem isAfter_graceDate_iff {now : Instant} {secret : OAuthClientSecret} :
    isAfter secret.graceDate now = true ↔
      isLater secret.graceUntil now = true ∧
        ¬ ∃ graceUntil, secret.graceUntil = some graceUntil ∧
          graceUntil.Inside now := by
  rw [OAuthClientSecret.graceDate]
  cases secret.graceUntil with
  | none => simp [isAfter, isLater]
  | some graceUntil =>
      simp only [isAfter, isLater, Option.map_some, Option.any_some,
        decide_eq_true_iff, Option.some.injEq, exists_eq_left',
        Timestamp.inside_iff]
      constructor
      · intro hdate
        exact ⟨Timestamp.after_of_toInstant hdate, fun hinside =>
          hinside.2 hdate⟩
      · rintro ⟨hafter, houtside⟩
        by_contra hdate
        exact houtside ⟨hafter, hdate⟩

/-- The service lists the same rows, but drops those that lapse now. -/
theorem mem_usableSecrets_iff {db : OAuthClientDb} {now : Instant}
    {clientPkId : String} {secret : OAuthClientSecret} :
    secret ∈ usableSecrets db now clientPkId ↔
      secret ∈ secretRows db now clientPkId ∧ ¬ Lapsing now secret := by
  rw [mem_usableSecrets, mem_secretRows, isAfter_graceDate_iff, Lapsing]
  cases secret.isPrimary <;> simp [and_assoc]

/-! ## The metadata -/

theorem startsWith_append (first second : String) :
    startsWith (first ++ second) first = true := by
  rw [startsWith, String.toList_append, List.isPrefixOf_iff_prefix]
  exact List.prefix_append _ _

/-- Decoding the metadata gives the hashes that were encoded. -/
theorem parse_encoded (hashes : List String) :
    parse (Utf8.decode (Base64.decode
      ((encodeOidcClientSecretHashes hashes).toList.drop
        oidcClientSecretHashesPrefix.length))) =
      some (.arr (hashes.map .str)) := by
  rw [encodeOidcClientSecretHashes, String.toList_append,
    String.toList_ofList, ← String.length_toList, List.drop_left,
    Base64.decode_url, Utf8.decode_encode, parse_render]

theorem verifyOidcClientSecretMetadata_encode (env : OidcEnv) (actual : String)
    (hashes : List String) :
    verifyOidcClientSecretMetadata env actual
        (some (encodeOidcClientSecretHashes hashes)) =
      hashes.anyM (env.verifyPassword actual) := by
  have hstarts : startsWith (encodeOidcClientSecretHashes hashes)
      oidcClientSecretHashesPrefix = true := startsWith_append _ _
  rw [verifyOidcClientSecretMetadata]
  dsimp only
  rw [if_pos hstarts, parse_encoded]
  exact anyM_map hashes

/-- The metadata of a list of hashes admits the secrets of these hashes, in
whatever order and however often they are listed: those of the client that are
current or in their grace period. -/
theorem verifyOidcClientSecretMetadata_iff {env : OidcEnv} {actual : String}
    {hashes : List String}
    (hanswers : ∀ hash ∈ hashes, env.verifyPassword actual hash ≠ none) :
    verifyOidcClientSecretMetadata env actual
        (some (encodeOidcClientSecretHashes hashes)) ≠ none ∧
    (verifyOidcClientSecretMetadata env actual
        (some (encodeOidcClientSecretHashes hashes)) = some true ↔
      ∃ hash ∈ hashes, env.verifyPassword actual hash = some true) ∧
    (∀ others : List String, (∀ hash, hash ∈ others ↔ hash ∈ hashes) →
      verifyOidcClientSecretMetadata env actual
          (some (encodeOidcClientSecretHashes others)) =
        verifyOidcClientSecretMetadata env actual
          (some (encodeOidcClientSecretHashes hashes))) ∧
    ∀ db now clientPkId, secretHashes db now clientPkId = hashes →
      (verifyOidcClientSecretMetadata env actual
          (some (encodeOidcClientSecretHashes hashes)) = some true ↔
        ∃ secret ∈ db.oauthClientSecrets, (secret.clientPkId = clientPkId ∧
          secret.revokedAt = none ∧
          (secret.expiresAt = none ∨ isLater secret.expiresAt now = true) ∧
          (secret.isPrimary = true ∨
            isLater secret.graceUntil now = true)) ∧
          env.verifyPassword actual secret.secretHash = some true) := by
  have hiff := anyM_eq_some_true_iff hanswers
  simp only [verifyOidcClientSecretMetadata_encode]
  refine ⟨anyM_ne_none hanswers, hiff, ?_, ?_⟩
  · intro others hothers
    exact anyM_congr_mem hanswers hothers
  · intro db now clientPkId hhashes
    rw [hiff, ← hhashes, secretHashes]
    constructor
    · rintro ⟨hash, hhash, hverify⟩
      obtain ⟨secret, hsecret, rfl⟩ := List.mem_map.mp hhash
      obtain ⟨hstored, hcurrent⟩ := mem_secretRows.mp hsecret
      exact ⟨secret, hstored, hcurrent, hverify⟩
    · rintro ⟨secret, hstored, hcurrent, hverify⟩
      have hsecret : secret ∈ secretRows db now clientPkId :=
        mem_secretRows.mpr ⟨hstored, hcurrent⟩
      exact ⟨_, List.mem_map_of_mem hsecret, hverify⟩

/-! ## What the provider accepts -/

/-- A client that may authenticate with a secret at the provider. -/
structure OidcRegistered (db : OAuthClientDb) (client : OAuthClient) :
    Prop where
  stored : client ∈ db.oauthClients
  active : client.status = "active"
  confidential : client.clientType = "confidential"
  basic : client.tokenEndpointAuthMethod = "client_secret_basic"
  redirect : ∃ row ∈ db.oauthClientRedirectUris, row.clientPkId = client.id
  openid : ∃ row ∈ db.oauthClientScopes,
    row.clientPkId = client.id ∧ row.scope = "openid"

/-- The client of the provider exists unless no secret is usable. -/
theorem findClient_of_registered {db : OAuthClientDb} {client : OAuthClient}
    (now : Instant) (hclient : OidcRegistered db client) :
    (secretHashes db now client.id = [] →
      findClient db now client.clientId = none) ∧
    (secretHashes db now client.id ≠ [] →
      ∃ metadata, findClient db now client.clientId = some metadata ∧
        metadata.clientSecret =
          encodeOidcClientSecretHashes (secretHashes db now client.id)) := by
  have hfirst : (db.oauthClients.first? fun row =>
      row.clientId == client.clientId && row.status == "active" &&
        row.clientType == "confidential" &&
        row.tokenEndpointAuthMethod == "client_secret_basic") =
      some client := by
    apply Table.first?_of_unique hclient.stored
    · simp [hclient.active, hclient.confidential, hclient.basic]
    · intro row hrow hwhere
      simp only [Bool.and_eq_true, beq_iff_eq] at hwhere
      exact db.eq_of_clientId_eq hrow hclient.stored hwhere.1.1.1
  have hredirect : (db.oauthClientRedirectUris.select fun row =>
      row.clientPkId == client.id).map OAuthClientRedirectUri.redirectUri ≠
      [] := by
    obtain ⟨row, hrow, howner⟩ := hclient.redirect
    apply List.ne_nil_of_mem
    exact List.mem_map_of_mem
      (Table.mem_select.mpr ⟨hrow, beq_iff_eq.mpr howner⟩)
  have hopenid : "openid" ∈ ((db.oauthClientScopes.select fun row =>
      row.clientPkId == client.id).map OAuthClientScope.scope).eraseDups := by
    obtain ⟨row, hrow, howner, hscope⟩ := hclient.openid
    rw [List.mem_eraseDups, ← hscope]
    exact List.mem_map_of_mem
      (Table.mem_select.mpr ⟨hrow, beq_iff_eq.mpr howner⟩)
  rw [findClient, hfirst]
  constructor
  · intro hnone
    exact if_pos (Or.inr (Or.inr hnone))
  · intro hsome
    refine ⟨_, if_neg ?_, rfl⟩
    rintro (hnone | hnone | hnone)
    · exact hredirect hnone
    · exact hnone hopenid
    · exact hsome hnone

/-- What the library documents of its own comparison. -/
def OidcEnv.ComparesEqual (env : OidcEnv) : Prop :=
  ∀ clientSecret actual,
    env.compareClientSecret clientSecret actual = (clientSecret == actual)

section Accepts

variable {env : OidcEnv} {db : OAuthClientDb} {now : Instant}
  {client : OAuthClient} {actual : String}

theorem oidcAccepts_iff (hcompare : env.ComparesEqual)
    (hclient : OidcRegistered db client) :
    oidcAccepts env db now client.clientId actual = true ↔
      let hashes := secretHashes db now client.id
      hashes ≠ [] ∧
        (hashes.anyM (env.verifyPassword actual) = some true ∨
          hashes.anyM (env.verifyPassword actual) = some false ∧
            actual = encodeOidcClientSecretHashes hashes) := by
  obtain ⟨hnone, hsome⟩ := findClient_of_registered now hclient
  dsimp only
  by_cases hhashes : secretHashes db now client.id = []
  · rw [oidcAccepts, hnone hhashes]
    simp [hhashes]
  · obtain ⟨metadata, hfind, hsecret⟩ := hsome hhashes
    rw [oidcAccepts, hfind]
    dsimp only
    rw [hsecret, compareClientSecret, verifyOidcClientSecretMetadata_encode]
    cases hany : (secretHashes db now client.id).anyM
        (env.verifyPassword actual) with
    | none => simp
    | some found =>
        cases found with
        | true => simp [hhashes]
        | false =>
            have hsame : env.compareClientSecret (encodeOidcClientSecretHashes
                (secretHashes db now client.id)) actual = true ↔
                actual = encodeOidcClientSecretHashes
                  (secretHashes db now client.id) := by
              rw [hcompare, beq_iff_eq, eq_comm]
            simp [hhashes, hsame]

/-- Some secret that the client service accepts verifies the string. -/
def VerifiedByUsable (env : OidcEnv) (db : OAuthClientDb) (now : Instant)
    (client : OAuthClient) (actual : String) : Prop :=
  ∃ secret ∈ usableSecrets db now client.id,
    env.verifyPassword actual secret.secretHash = some true

theorem verifiedByUsable_iff :
    VerifiedByUsable env db now client actual ↔
      ∃ secret ∈ secretRows db now client.id, ¬ Lapsing now secret ∧
        env.verifyPassword actual secret.secretHash = some true := by
  simp only [VerifiedByUsable, mem_usableSecrets_iff, and_assoc]

/-- The string is the client secret of the metadata, and no hash in it
verifies it. -/
structure PresentsMetadata (env : OidcEnv) (hashes : List String)
    (actual : String) : Prop where
  usable : hashes ≠ []
  encoding : actual = encodeOidcClientSecretHashes hashes
  unverified : ∀ hash ∈ hashes, env.verifyPassword actual hash = some false

/-- A secret on whose hash the verification throws stands before one that
verifies the string and does not lapse now. -/
def ThrowsFirst (env : OidcEnv) (now : Instant)
    (secrets : List OAuthClientSecret) (actual : String) : Prop :=
  ∃ before thrown later, secrets = before ++ thrown :: later ∧
    ThrowsAt (fun secret : OAuthClientSecret =>
      env.verifyPassword actual secret.secretHash) before thrown ∧
    ∃ secret ∈ later, ¬ Lapsing now secret ∧
      env.verifyPassword actual secret.secretHash = some true

/-- A secret that verifies the string is found, and every secret that does
lapses now. -/
structure OnlyLapsing (env : OidcEnv) (now : Instant)
    (secrets : List OAuthClientSecret) (actual : String) : Prop where
  found : ∃ before secret later, secrets = before ++ secret :: later ∧
    (∀ other ∈ before,
      env.verifyPassword actual other.secretHash = some false) ∧
    env.verifyPassword actual secret.secretHash = some true
  lapsing : ∀ secret ∈ secrets,
    env.verifyPassword actual secret.secretHash = some true →
      Lapsing now secret

section Verdicts

variable {secrets : List OAuthClientSecret}

theorem throwsFirst_iff :
    ThrowsFirst env now secrets actual ↔
      (secrets.anyM fun secret =>
        env.verifyPassword actual secret.secretHash) = none ∧
        ∃ secret ∈ secrets, ¬ Lapsing now secret ∧
          env.verifyPassword actual secret.secretHash = some true := by
  rw [anyM_eq_none]
  constructor
  · rintro ⟨before, thrown, later, rfl, hthrows, secret, hsecret, hverify⟩
    exact ⟨⟨before, thrown, later, rfl, hthrows⟩, secret,
      List.mem_append_right _ (List.mem_cons_of_mem _ hsecret), hverify⟩
  · rintro ⟨⟨before, thrown, later, rfl, hthrows⟩, secret, hsecret, hverify⟩
    refine ⟨before, thrown, later, rfl, hthrows, secret, ?_, hverify⟩
    rw [List.mem_append, List.mem_cons] at hsecret
    rcases hsecret with hsecret | rfl | hsecret
    · have hfalse := hthrows.1 secret hsecret
      dsimp only at hfalse
      rw [hverify.2] at hfalse
      cases hfalse
    · have hthrown := hthrows.2
      dsimp only at hthrown
      rw [hverify.2] at hthrown
      cases hthrown
    · exact hsecret

theorem onlyLapsing_iff :
    OnlyLapsing env now secrets actual ↔
      (secrets.anyM fun secret =>
        env.verifyPassword actual secret.secretHash) = some true ∧
        ¬ ∃ secret ∈ secrets, ¬ Lapsing now secret ∧
          env.verifyPassword actual secret.secretHash = some true := by
  rw [anyM_eq_some_true]
  constructor
  · rintro ⟨hfound, hlapsing⟩
    refine ⟨hfound, ?_⟩
    rintro ⟨secret, hsecret, hlasting, hverify⟩
    exact hlasting (hlapsing secret hsecret hverify)
  · rintro ⟨hfound, hnone⟩
    refine ⟨hfound, fun secret hsecret hverify => ?_⟩
    by_contra hlasting
    exact hnone ⟨secret, hsecret, hlasting, hverify⟩

end Verdicts

end Accepts

/-! ## A client with one secret -/

namespace OidcWitness

def hash : String :=
  "$argon2id$v=19$m=65536,t=3,p=4$c2FsdHNhbHRzYWx0$TnmZ1HuCnG3BPfhRoTzK3w"

/-- The library on the hash above: it throws on what is no Argon2 hash. -/
def env : OidcEnv where
  argon2Verify storedHash password :=
    if storedHash = hash then some (decide (password = "client-secret"))
    else none
  compareClientSecret clientSecret actual := clientSecret == actual

def client : OAuthClient where
  id := "client-1"
  clientId := "bff-client"
  name := "BFF Client"
  clientType := "confidential"
  tokenEndpointAuthMethod := "client_secret_basic"
  status := "active"
  accessTokenTtlSeconds := none
  refreshTokenTtlSeconds := none
  updatedAt := 0

def secret : OAuthClientSecret where
  id := "secret-1"
  clientPkId := "client-1"
  secretHash := hash
  secretHint := "cret"
  isPrimary := true
  expiresAt := none
  graceUntil := none
  revokedAt := none
  createdAt := 0

def db : OAuthClientDb where
  oauthClients := ⟨[client], by simp⟩
  oauthClientSecrets := ⟨[secret], by simp⟩
  oauthClientRedirectUris :=
    ⟨[⟨"uri-1", "client-1", "https://app.example.com/callback"⟩], by simp⟩
  oauthClientScopes := ⟨[⟨"scope-1", "client-1", "openid"⟩], by simp⟩
  clientIds := by simp

theorem registered : OidcRegistered db client where
  stored := by decide
  active := rfl
  confidential := rfl
  basic := rfl
  redirect := ⟨⟨"uri-1", "client-1", "https://app.example.com/callback"⟩,
    by decide, rfl⟩
  openid := ⟨⟨"scope-1", "client-1", "openid"⟩, by decide, rfl, rfl⟩

theorem comparesEqual : env.ComparesEqual := fun _ _ => rfl

theorem secretHashes_eq : secretHashes db 1000 client.id = [hash] := by decide

theorem secretRows_eq : secretRows db 1000 client.id = [secret] := by decide

theorem not_lapsing_secret : ¬ Lapsing 1000 secret := fun hlapsing =>
  Bool.noConfusion hlapsing.1

/-- The secrets before and after a rotation, in the order of the registry. -/
def rotated : List String := ["$argon2id$v=19$new", hash, "$2b$10$legacy"]

def rotatedEnv : OidcEnv where
  argon2Verify storedHash password :=
    some (decide (storedHash = hash ∧ password = "client-secret"))
  compareClientSecret := env.compareClientSecret

theorem verifyOidcClientSecretMetadata_rotated :
    (∃ stored ∈ rotated,
        rotatedEnv.verifyPassword "client-secret" stored = some true) ∧
      verifyOidcClientSecretMetadata rotatedEnv "client-secret"
        (some (encodeOidcClientSecretHashes rotated)) = some true := by
  have hanswers : ∀ stored ∈ rotated,
      rotatedEnv.verifyPassword "client-secret" stored ≠ none := by
    decide
  have hverified : ∃ stored ∈ rotated,
      rotatedEnv.verifyPassword "client-secret" stored = some true :=
    ⟨hash, by decide, by decide⟩
  exact ⟨hverified,
    (verifyOidcClientSecretMetadata_iff hanswers).2.1.mpr hverified⟩

end OidcWitness

end IdProvider
