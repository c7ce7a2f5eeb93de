/-
How long the secrets of a client outlive its rotations.
-/
import IdProvider.IssuedSecrets

namespace IdProvider

open Interleaving KeyedTable ThrowingSearch Transactions

/-- Besides: a hash verifies no other password. -/
structure OAuthClientEnv.Argon2Distinct (env : OAuthClientEnv) : Prop
    extends env.Argon2 where
  distinguishes : ∀ password salt other,
    env.argon2Verify (env.argon2Hash password salt) other = some true →
      other = password

/-! ## Who has handed a secret out -/

def CommittedCall.HandsOut (clientId secret : String) (call : CommittedCall) :
    Prop :=
  call.clientId = clientId ∧
    ∃ secretId new, call.issued = some (secretId, new) ∧ new.secret = secret

section Accepted

variable {env : OAuthClientEnv} {db : RegistryDb}

theorem exists_of_findAuthenticated {tables : OAuthClientDb} {now : Instant}
    {credentials : OAuthClientCredentials} {found : AuthenticatedClient}
    (hfound : findAuthenticated env.toOAuthServiceEnv tables now credentials =
      some (some found)) :
    ∃ client ∈ tables.oauthClients, client.clientId = credentials.clientId ∧
      verifiesSecret env.toOAuthServiceEnv tables now client.id
        credentials.clientSecret = some true := by
  unfold findAuthenticated at hfound
  split at hfound
  case h_1 => cases hfound
  case h_2 client hactive =>
    obtain ⟨hclient, hwhere⟩ := Table.mem_of_first? hactive
    rw [Bool.and_eq_true, beq_iff_eq] at hwhere
    rw [Option.map_eq_some_iff] at hfound
    obtain ⟨verified, hverifies, heq⟩ := hfound
    cases verified with
    | false => cases heq
    | true => exact ⟨client, hclient, hwhere.1, hverifies⟩

/-- Credentials that are not those of the environment are accepted because of
a usable secret of the client. -/
theorem exists_usable_of_authenticates {tables : OAuthClientDb}
    {now : Instant} {authorization : Option String}
    {clientId secret : String}
    (hparse : parseOAuthClientBasicAuth authorization =
      .ok ⟨clientId, secret⟩)
    (hfallback : isFallback env.toOAuthServiceEnv ⟨clientId, secret⟩ = false)
    (haccepted : authenticates env.toOAuthServiceEnv tables now
      authorization = true) :
    ∃ client ∈ tables.oauthClients, client.clientId = clientId ∧
      ∃ row ∈ usableSecrets tables now client.id,
        env.verifyPassword secret row.secretHash = some true := by
  rw [authenticates, authenticateClientBasic, hparse] at haccepted
  dsimp only at haccepted
  split at haccepted
  case h_1 => cases haccepted
  case h_2 found hfound =>
    obtain ⟨client, hclient, hclientId, hverifies⟩ :=
      exists_of_findAuthenticated hfound
    exact ⟨client, hclient, hclientId,
      exists_of_anyM_eq_some_true hverifies⟩
  case h_3 =>
    rw [hfallback] at haccepted
    cases haccepted

/-- What is accepted was handed out by a call, and is the current secret or in
its grace period. -/
theorem RegistryDb.SecretsOk.handedOut (hdb : db.SecretsOk env)
    (hargon2 : env.Argon2Distinct) {authorization : Option String}
    {clientId secret : String}
    (hparse : parseOAuthClientBasicAuth authorization =
      .ok ⟨clientId, secret⟩)
    (hfallback : isFallback env.toOAuthServiceEnv ⟨clientId, secret⟩ = false)
    (haccepted : authenticates env.toOAuthServiceEnv
      db.registry.toOAuthClientDb db.now authorization = true) :
    ∃ before call later, db.history = before ++ call :: later ∧
      call.HandsOut clientId secret ∧
      ∀ next, replacedBy clientId later = some next →
        isAfter next.graceUntil db.now = true := by
  obtain ⟨client, hclient, hclientId, row, husable, hverify⟩ :=
    exists_usable_of_authenticates hparse hfallback haccepted
  obtain ⟨hrow, howner, -, -, hstate⟩ := mem_usableSecrets.mp husable
  obtain ⟨before, call, later, new, hhistory, hissued, hissuedRow⟩ :=
    hdb.exists_issued hrow
  have hcall : call.clientId = clientId :=
    hissuedRow.owner.clientId_eq ⟨client, hclient, howner.symm, hclientId⟩
  have hsecret : secret = new.secret := by
    rw [hissuedRow.secretHash, hargon2.verifyPassword] at hverify
    exact hargon2.distinguishes _ _ _ hverify
  refine ⟨before, call, later, hhistory, ⟨hcall, row.id, new, hissued,
    hsecret.symm⟩, ?_⟩
  intro next hnext
  rw [← hcall] at hnext
  obtain ⟨hprimary, hgrace⟩ := hissuedRow.replaced next hnext
  rcases hstate with hcurrent | hafter
  · rw [hprimary] at hcurrent
    cases hcurrent
  · rwa [OAuthClientSecret.graceDate, hgrace,
      Timestamp.map_toInstant_ofInstant] at hafter

end Accepted

/-! ## After a rotation -/

/-- The rotation left this secret its grace period, which has not ended. -/
def CommittedCall.Spares (now : Instant) (call : CommittedCall) : Prop :=
  ∃ rotation, call.rotation = some rotation ∧ 0 < rotation.gracePeriodDays ∧
    now < call.committedAt + rotation.gracePeriodDays * dayMillis

/-- The credentials are accepted, and not those of the environment. -/
structure AcceptedByRegistry (env : OAuthClientEnv) (db : RegistryDb)
    (clientId secret : String) : Prop where
  notFallback : isFallback env.toOAuthServiceEnv ⟨clientId, secret⟩ = false
  accepted : ∃ authorization,
    parseOAuthClientBasicAuth authorization = .ok ⟨clientId, secret⟩ ∧
      authenticates env.toOAuthServiceEnv db.registry.toOAuthClientDb db.now
        authorization = true

/-- After a rotation, what is accepted was handed out by it or later, or the
rotation that replaced it spares it still; and only the rotation itself can
spare the secret that it replaced. -/
structure GraceBounded (env : OAuthClientEnv) (db : RegistryDb) : Prop where
  accepted : ∀ before call later clientId,
    db.history = before ++ call :: later → call.rotates clientId = true →
    ∀ secret, AcceptedByRegistry env db clientId secret →
      (∃ other ∈ call :: later, other.HandsOut clientId secret) ∨
        ∃ older old between next, before = older ++ old :: between ∧
          old.HandsOut clientId secret ∧
          replacedBy clientId (between ++ [call]) = some next ∧
          next.Spares db.now
  replaced : ∀ older old between call later clientId,
    db.history = (older ++ old :: between) ++ call :: later →
    call.rotates clientId = true → replacedBy clientId between = none →
    ∀ secret, old.HandsOut clientId secret →
      (∀ other ∈ older ++ between ++ call :: later,
        ¬ other.HandsOut clientId secret) →
      AcceptedByRegistry env db clientId secret → call.Spares db.now

/-- A call in a history is found in either part of it. -/
theorem split_append {Call : Type} {first second before later : List Call}
    {call : Call} (hsplit : first ++ second = before ++ call :: later) :
    call ∈ second ∨
      ∃ between, first = before ++ call :: between ∧
        later = between ++ second := by
  rcases List.append_eq_append_iff.mp hsplit with
    ⟨rest, rfl, hsecond⟩ | ⟨rest, hfirst, hrest⟩
  · left
    rw [hsecond]
    simp
  · cases rest with
    | nil =>
        left
        rw [List.nil_append] at hrest
        rw [← hrest]
        exact List.mem_cons_self
    | cons other rest =>
        right
        rw [List.cons_append, List.cons.injEq] at hrest
        obtain ⟨rfl, rfl⟩ := hrest
        exact ⟨rest, hfirst, rfl⟩

/-- The only call of its kind stands at one place. -/
theorem split_unique {Call : Type} {Kind : Call → Prop}
    {older between older' between' : List Call} {old old' : Call}
    (hsplit : older ++ old :: between = older' ++ old' :: between')
    (holder : ∀ other ∈ older, ¬ Kind other)
    (hbetween : ∀ other ∈ between, ¬ Kind other) (hold' : Kind old') :
    between' = between := by
  induction older generalizing older' with
  | nil =>
      cases older' with
      | nil => exact (List.cons.inj hsplit).2.symm
      | cons head older' =>
          have hmem : old' ∈ between := by
            rw [(List.cons.inj hsplit).2]
            simp
          exact absurd hold' (hbetween old' hmem)
  | cons head older ih =>
      cases older' with
      | nil =>
          have hhead := (List.cons.inj hsplit).1
          exact absurd (hhead ▸ hold') (holder head List.mem_cons_self)
      | cons head' older' =>
          exact ih (List.cons.inj hsplit).2
            fun other hother => holder other (List.mem_cons_of_mem _ hother)

/-- The first rotation of the calls in between, or the one after them. -/
theorem replacedBy_append {clientId : String}
    {between later : List CommittedCall} {call : CommittedCall}
    (hrotates : call.rotates clientId = true) :
    replacedBy clientId (between ++ call :: later) =
      replacedBy clientId (between ++ [call]) := by
  rw [replacedBy, replacedBy, List.find?_append, List.find?_append,
    List.find?_cons_of_pos hrotates, List.find?_cons_of_pos hrotates]

theorem exists_replacedBy {clientId : String} {between : List CommittedCall}
    {call : CommittedCall} (hrotates : call.rotates clientId = true) :
    ∃ next, replacedBy clientId (between ++ [call]) = some next := by
  cases hnext : replacedBy clientId between with
  | none =>
      rw [replacedBy_concat_of_none hnext, if_pos hrotates]
      exact ⟨call, rfl⟩
  | some next => exact ⟨next, replacedBy_concat_of_some hnext call⟩

theorem RegistryDb.SecretsOk.spares {env : OAuthClientEnv} {db : RegistryDb}
    (hdb : db.SecretsOk env) {call : CommittedCall} (hcall : call ∈ db.history)
    (hafter : isAfter call.graceUntil db.now = true) : call.Spares db.now := by
  rw [isAfter, Option.any_eq_true] at hafter
  obtain ⟨graceUntil, hgraceUntil, hnow⟩ := hafter
  rw [CommittedCall.graceUntil, Option.bind_eq_some_iff] at hgraceUntil
  obtain ⟨rotation, hrotation, hgraceUntil⟩ := hgraceUntil
  obtain ⟨hdays, hbound⟩ :=
    hdb.grace call hcall rotation hrotation graceUntil hgraceUntil
  exact ⟨rotation, hrotation, hdays,
    lt_of_lt_of_le (of_decide_eq_true hnow) hbound⟩

/-- In every run, a rotation bounds the secret that it replaces, and each older
secret stays bounded by the rotation that replaced it. -/
theorem graceBounded_run {env : OAuthClientEnv}
    (hargon2 : env.Argon2Distinct) {now : Instant}
    {actions : List ClientAction} {pool : ClientPool}
    (hrun : StepSystem.run (step (clientProgram env)) (ClientPool.initial now)
      actions = some pool) : GraceBounded env pool.shared.db := by
  have hdb := secretsOk_run hrun
  have haccepted : ∀ before call later clientId,
      pool.shared.db.history = before ++ call :: later →
      call.rotates clientId = true →
      ∀ secret, AcceptedByRegistry env pool.shared.db clientId secret →
        (∃ other ∈ call :: later, other.HandsOut clientId secret) ∨
          ∃ older old between next, before = older ++ old :: between ∧
            old.HandsOut clientId secret ∧
            replacedBy clientId (between ++ [call]) = some next ∧
            next.Spares pool.shared.db.now := by
    intro before call later clientId hhistory hrotates secret hregistry
    obtain ⟨hfallback, authorization, hparse, hauthenticates⟩ := hregistry
    obtain ⟨older, old, rest, hsplit, hold, hentitled⟩ :=
      hdb.handedOut hargon2 hparse hfallback hauthenticates
    rcases split_append (hhistory.symm.trans hsplit) with
      hmem | ⟨between, hbefore, rfl⟩
    · exact .inl ⟨old, hmem, hold⟩
    · right
      obtain ⟨next, hnext⟩ := @exists_replacedBy clientId between call hrotates
      refine ⟨older, old, between, next, hbefore, hold, hnext, ?_⟩
      rw [← replacedBy_append hrotates] at hnext
      apply hdb.spares ?_ (hentitled next hnext)
      rw [hsplit]
      exact List.mem_append_right _ (List.mem_cons_of_mem _
        (List.mem_of_find?_eq_some hnext))
  refine ⟨haccepted, ?_⟩
  intro older old between call later clientId hhistory hrotates hnone secret _
    honly hregistry
  have hother : ∀ other, other ∈ older ∨ other ∈ between ∨
      other ∈ call :: later → ¬ other.HandsOut clientId secret := by
    intro other hmem
    apply honly
    rw [List.mem_append, List.mem_append]
    rcases hmem with hmem | hmem | hmem
    · exact .inl (.inl hmem)
    · exact .inl (.inr hmem)
    · exact .inr hmem
  rcases haccepted _ call later clientId hhistory hrotates secret hregistry with
    ⟨other, hmem, hhands⟩ |
    ⟨older', old', between', next, hsplit, hhands, hnext, hspares⟩
  · exact absurd hhands (hother other (.inr (.inr hmem)))
  · have hsame : between' = between :=
      split_unique hsplit (fun other hmem => hother other (.inl hmem))
        (fun other hmem => hother other (.inr (.inl hmem))) hhands
    rw [hsame, replacedBy_concat_of_none hnone, if_pos hrotates] at hnext
    rwa [Option.some.inj hnext]

/-! ## A longer grace period before a shorter one -/

/-- The rotation bounds every secret handed out before it, and without grace
days nothing older is accepted. -/
structure BoundsOlder (env : OAuthClientEnv) (db : RegistryDb) : Prop where
  expired : ∀ before call later rotation,
    db.history = before ++ call :: later → call.rotation = some rotation →
    call.committedAt + rotation.gracePeriodDays * dayMillis < db.now →
    ∀ old ∈ before, ∀ secret, old.HandsOut rotation.clientId secret →
      (∀ other ∈ call :: later, ¬ other.HandsOut rotation.clientId secret) →
      ∀ authorization, parseOAuthClientBasicAuth authorization =
          .ok ⟨rotation.clientId, secret⟩ →
        authenticates env.toOAuthServiceEnv db.registry.toOAuthClientDb db.now
          authorization = false
  atOnce : ∀ before call later rotation,
    db.history = before ++ call :: later → call.rotation = some rotation →
    rotation.gracePeriodDays = 0 →
    ∀ authorization secret, parseOAuthClientBasicAuth authorization =
        .ok ⟨rotation.clientId, secret⟩ →
      authenticates env.toOAuthServiceEnv db.registry.toOAuthClientDb db.now
        authorization = true →
      ∃ other ∈ call :: later, other.HandsOut rotation.clientId secret

namespace RegistryWitness

theorem argon2Distinct : env.Argon2Distinct where
  toArgon2 := argon2
  distinguishes password salt other hverify := by
    rw [argon2Verify_argon2Hash, Option.some.injEq, decide_eq_true_iff]
      at hverify
    exact hverify.symm

/-- A rotation with 30 days, one with none, and a moment later. -/
def overlapping : List ClientAction :=
  alone 1 (create "bff-client") 6 ++
    alone 2 (.rotateSecret "admin-1" "bff-client" 30) 8 ++
    alone 3 (.rotateSecret "admin-1" "bff-client" 0) 8 ++ [.environment 1]

theorem graceBounded_overlapping :
    GraceBounded env (after overlapping).shared.db :=
  graceBounded_run argon2Distinct (StepSystem.run_after _ (by decide +kernel))

def secondRotation : SecretRotation where
  actorUserId := "admin-1"
  clientId := "bff-client"
  gracePeriodDays := 0
  graceUntil := none
  issued := ⟨"ocs_Aw", [3]⟩

theorem not_boundsOlder :
    ¬ ∀ env now actions pool, OAuthClientEnv.Argon2Distinct env →
      StepSystem.run (step (clientProgram env)) (ClientPool.initial now)
        actions = some pool → BoundsOlder env pool.shared.db := by
  intro hclaim
  have hbounds := hclaim env 0 overlapping (after overlapping) argon2Distinct
    (StepSystem.run_after _ (by decide +kernel))
  have hhistory : (after overlapping).shared.db.history =
      (after overlapping).shared.db.history.take 2 ++
        ⟨0, .rotated secondRotation "kkkk"⟩ :: [] := by
    decide +kernel
  obtain ⟨other, hother, -, secretId, new, hissued, hsecret⟩ :=
    hbounds.atOnce _ _ _ secondRotation hhistory rfl rfl
      (some (basicAuthorization "bff-client" "ocs_AQ")) "ocs_AQ"
      (by decide +kernel) (by decide +kernel)
  rw [List.mem_singleton] at hother
  subst hother
  cases hissued
  exact absurd hsecret (by decide)

end RegistryWitness

end IdProvider
