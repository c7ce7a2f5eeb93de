/-
The keys that the server publishes, and what the SDK says of a token under a
set of them.
-/
import IdProvider.SigningProvider
import IdProvider.TokenVerification

namespace IdProvider

open JsonText KeyedTable ServiceCall

/-! ## The published keys -/

/-- `await this.ensureKeyExists()`, then the rows of the set. -/
def KeyStoreService.getPublicJwks (env : KeyCallEnv) :
    KeyStoreCall (List SigningKey) := do
  let _ ← KeyStoreService.ensureKeyExists env
  observe (publicKeys env.now)

/-- `publicJwkFromPem`, over the export of the public key. -/
def publicJwk (exportJwk : String → List (String × Json))
    (row : SigningKey) : Json :=
  .obj (exportJwk row.publicKeyPem ++
    [("alg", .str row.alg), ("kid", .str row.kid), ("use", .str "sig")])

def jsonWebKeySet (exportJwk : String → List (String × Json))
    (rows : List SigningKey) : Json :=
  .obj [("keys", .arr (rows.map (publicJwk exportJwk)))]

/-- The set has a key of this name. -/
def NamesKey (jwks : Json) (kid : String) : Prop :=
  ∃ keys, jwks.get? "keys" = some (.arr keys) ∧
    ∃ jwk ∈ keys, jwk.get? "kid" = some (.str kid)

/-! ## Keys keep their names -/

/-- The store has the key of this row, active or not. -/
def KnownKey (signingKeys : Table SigningKey) (row : SigningKey) : Prop :=
  ∃ stored ∈ signingKeys, stored.kid = row.kid ∧ stored.alg = row.alg ∧
    stored.publicKeyPem = row.publicKeyPem

def KeepsKeys (before after : Table SigningKey) : Prop :=
  ∀ row ∈ before, KnownKey after row

theorem KnownKey.later {before after : Table SigningKey} {row : SigningKey}
    (hknown : KnownKey before row) (hkeeps : KeepsKeys before after) :
    KnownKey after row := by
  obtain ⟨stored, hstored, hkid, halg, hpem⟩ := hknown
  obtain ⟨kept, hkept, hkid', halg', hpem'⟩ := hkeeps stored hstored
  exact ⟨kept, hkept, hkid'.trans hkid, halg'.trans halg, hpem'.trans hpem⟩

instance : IsPreorder (Table SigningKey) KeepsKeys where
  refl _ row hrow := ⟨row, hrow, rfl, rfl, rfl⟩
  trans _ _ _ hfirst hsecond row hrow := (hfirst row hrow).later hsecond

theorem deactivate_alg (call : RotateNow) (options : KeyStoreOptions)
    (now : Instant) (row : SigningKey) :
    (call.deactivate options now row).alg = row.alg ∧
      (call.deactivate options now row).publicKeyPem = row.publicKeyPem := by
  obtain ⟨reason, actorUserId⟩ := call
  cases reason with
  | scheduled => exact ⟨rfl, rfl⟩
  | manual => exact ⟨rfl, rfl⟩
  | emergency => exact ⟨rfl, rfl⟩

section Keeps

variable {env : KeyCallEnv} {options : KeyStoreOptions}

theorem keeps_ensureKeyExists :
    Relates KeepsKeys (KeyStoreService.ensureKeyExists env) := by
  intro signingKeys row hrow
  obtain ⟨hkept, -⟩ := ensures_ensureKeyExists env signingKeys
  exact ⟨row, hkept row hrow, rfl, rfl, rfl⟩

theorem keeps_rotateTransaction {call : RotateNow} {activeKid : String} :
    Relates KeepsKeys
      (KeyStoreService.rotateTransaction options env call activeKid) := by
  intro signingKeys
  rw [KeyStoreService.rotateTransaction]
  by_cases hstorable : (!call.storable options env.now) = true
  · rw [if_pos hstorable]
    exact refl_of KeepsKeys signingKeys
  rw [if_neg hstorable]
  split
  case isFalse => exact refl_of KeepsKeys signingKeys
  case isTrue =>
      cases hcommit : commitRotation options call activeKid env.now
          (env.next.nextKey call activeKid env.now) signingKeys with
      | none => exact refl_of KeepsKeys signingKeys
      | some after =>
          intro row hrow
          refine ⟨_, (mem_commitRotation hcommit _).mpr
            (.inl ⟨row, hrow, rfl⟩), ?_⟩
          split
          · exact ⟨call.deactivate_kid options env.now row,
              deactivate_alg call options env.now row⟩
          · exact ⟨rfl, rfl, rfl⟩

theorem keeps_rotateNow {call : RotateNow} :
    Relates KeepsKeys (KeyStoreService.rotateNow options env call) := by
  apply keeps_ensureKeyExists.bind
  intro active
  apply keeps_rotateTransaction.bind
  intro rotated
  cases rotated with
  | some rotated => exact relates_pure rotated
  | none =>
      apply keeps_ensureKeyExists.bind
      exact fun latest => relates_pure _

theorem keeps_rotateIfDue :
    Relates KeepsKeys (KeyStoreService.rotateIfDue options env) := by
  apply keeps_ensureKeyExists.bind
  intro active
  exact relates_ite keeps_rotateNow (relates_pure _)

theorem keeps_getPublicJwks :
    Relates KeepsKeys (KeyStoreService.getPublicJwks env) := by
  apply keeps_ensureKeyExists.bind
  exact fun active => fun signingKeys => refl_of KeepsKeys signingKeys

/-- What is published is stored. -/
theorem mem_of_getPublicJwks {signingKeys : Table SigningKey}
    {keys : List SigningKey}
    (hkeys : (KeyStoreService.getPublicJwks env signingKeys).1 = .ok keys) :
    ∀ row ∈ keys, row ∈ (KeyStoreService.getPublicJwks env signingKeys).2 := by
  rw [KeyStoreService.getPublicJwks] at hkeys ⊢
  rcases hensure : KeyStoreService.ensureKeyExists env signingKeys with
    ⟨outcome, after⟩
  cases outcome with
  | error error =>
      rw [bind_error hensure] at hkeys
      cases hkeys
  | ok active =>
      rw [bind_ok hensure] at hkeys ⊢
      cases hkeys
      exact fun row hrow => (mem_publicKeys.mp hrow).1

end Keeps

/-! ## Looking a key up -/

theorem property_publicJwk (exportJwk : String → List (String × Json))
    (row : SigningKey) :
    property (publicJwk exportJwk row) "kid" = .ok (some (.str row.kid)) := by
  simp [property, publicJwk, Json.get?]

theorem findKey_map (exportJwk : String → List (String × Json))
    (kid : String) (rows : List SigningKey) :
    findKey kid (rows.map (publicJwk exportJwk)) =
      .ok ((rows.find? fun row => decide (row.kid = kid)).map
        (publicJwk exportJwk)) := by
  induction rows with
  | nil => rfl
  | cons row rows ih =>
      have hbind : findKey kid
          (publicJwk exportJwk row :: rows.map (publicJwk exportJwk)) =
          if some (Json.str row.kid) = some (.str kid) then
            .ok (some (publicJwk exportJwk row))
          else findKey kid (rows.map (publicJwk exportJwk)) := by
        rw [findKey, property_publicJwk]
        rfl
      rw [List.map_cons, hbind, ih]
      by_cases hkid : row.kid = kid
      · simp [hkid]
      · simp [hkid]

theorem namesKey_iff (exportJwk : String → List (String × Json))
    (kid : String) (rows : List SigningKey) :
    NamesKey (jsonWebKeySet exportJwk rows) kid ↔
      ∃ row ∈ rows, row.kid = kid := by
  have hget : (jsonWebKeySet exportJwk rows).get? "keys" =
      some (.arr (rows.map (publicJwk exportJwk))) := by
    simp [jsonWebKeySet, Json.get?]
  have hkid : ∀ row, (publicJwk exportJwk row).get? "kid" =
      some (.str row.kid) := by
    intro row
    simp [publicJwk, Json.get?]
  constructor
  · rintro ⟨keys, hkeys, jwk, hjwk, hnamed⟩
    rw [hget] at hkeys
    cases hkeys
    obtain ⟨row, hrow, rfl⟩ := List.mem_map.mp hjwk
    rw [hkid] at hnamed
    cases hnamed
    exact ⟨row, hrow, rfl⟩
  · rintro ⟨row, hrow, rfl⟩
    exact ⟨_, hget, _, List.mem_map_of_mem hrow, hkid row⟩

section Signature

variable {errors : TokenErrors} {verifySignature : VerifySignature}
  {exportJwk : String → List (String × Json)} {token : ParsedToken}
  {rows : List SigningKey}

/-- What the found key says of the signature. -/
def checkWith (errors : TokenErrors) (verifySignature : VerifySignature)
    (token : ParsedToken) (jwk : Option Json) : Except SdkError Unit :=
  match jwk with
  | none => errors.unknownKey
  | some jwk =>
      match verifySignature jwk token.signed token.signature with
      | .error message => .error (.error message)
      | .ok true => .ok ()
      | .ok false => errors.fail errors.signature

theorem checkSignature_set :
    checkSignature errors verifySignature (jsonWebKeySet exportJwk rows)
        token =
      checkWith errors verifySignature token
        ((rows.find? fun row => decide (row.kid = token.kid)).map
          (publicJwk exportJwk)) := by
  have hkeys : keysOf (jsonWebKeySet exportJwk rows) =
      .ok (rows.map (publicJwk exportJwk)) := by
    simp [keysOf, property, jsonWebKeySet, Json.get?]
    rfl
  rw [checkSignature, hkeys]
  change (do
    let jwk ← findKey token.kid (rows.map (publicJwk exportJwk))
    _) = _
  rw [findKey_map]
  rfl

theorem bind_ne_unknownKey {Value Next : Type}
    {first : Except SdkError Value} {next : Value → Except SdkError Next}
    (hfirst : first ≠ errors.unknownKey)
    (hnext : ∀ value, next value ≠ errors.unknownKey) :
    (first >>= next) ≠ errors.unknownKey := by
  cases first with
  | error error =>
      intro hsame
      have herror : Except.error error =
          (errors.unknownKey : Except SdkError Next) := hsame
      exact hfirst (congrArg Except.error (Except.error.inj herror))
  | ok value => exact hnext value

theorem ite_ne_unknownKey {Value : Type} {condition : Prop}
    [Decidable condition] {left right : Except SdkError Value}
    (hleft : left ≠ errors.unknownKey) (hright : right ≠ errors.unknownKey) :
    (if condition then left else right) ≠ errors.unknownKey := by
  split
  case isTrue => exact hleft
  case isFalse => exact hright

theorem fail_ne_unknownKey {Value : Type} {message : String}
    (hmessage : message ≠ "Signing key not found") :
    (errors.fail message : Except SdkError Value) ≠ errors.unknownKey := by
  intro hsame
  have herror := Except.error.inj hsame
  injection herror with hcode htext
  exact hmessage htext

theorem checkWith_some (hsignature : errors.signature ≠ "Signing key not found")
    (jwk : Json) :
    checkWith errors verifySignature token (some jwk) ≠ errors.unknownKey := by
  rw [checkWith, TokenErrors.unknownKey, TokenErrors.fail, TokenErrors.fail]
  cases verifySignature jwk token.signed token.signature with
  | error message => simp
  | ok verified =>
      cases verified with
      | true => simp
      | false => simpa using hsignature

end Signature

/-! ## The claims of a token -/

section Claims

theorem property_ne_unknownKey (errors : TokenErrors) (value : Json)
    (name : String) : property value name ≠ errors.unknownKey := by
  cases value with
  | null => exact nofun
  | bool value => exact nofun
  | num value => exact nofun
  | str value => exact nofun
  | arr values => exact nofun
  | obj members => exact nofun

theorem checkIdClaims_ne_unknownKey (numbers : NumberRuntime)
    (clientId : String) (now : Instant)
    (discovery : Json) (nonce : Option String) (claims : Json) :
    checkIdClaims numbers clientId now discovery nonce claims ≠
      idTokenErrors.unknownKey := by
  apply bind_ne_unknownKey (property_ne_unknownKey _ _ _)
  intro iss
  apply bind_ne_unknownKey (property_ne_unknownKey _ _ _)
  intro issuer
  refine ite_ne_unknownKey (fail_ne_unknownKey (by decide)) ?_
  refine ite_ne_unknownKey (fail_ne_unknownKey (by decide)) ?_
  refine ite_ne_unknownKey (fail_ne_unknownKey (by decide)) ?_
  refine ite_ne_unknownKey (fail_ne_unknownKey (by decide)) ?_
  refine ite_ne_unknownKey (fail_ne_unknownKey (by decide)) ?_
  split
  case h_1 => exact nofun
  case h_2 => exact fail_ne_unknownKey (by decide)

theorem validateClaims_ne_unknownKey (options : JwtVerifierOptions)
    (now : Instant) (claims : Json) :
    JwtVerifier.validateClaims options now claims ≠
      accessTokenErrors.unknownKey := by
  apply bind_ne_unknownKey (property_ne_unknownKey _ _ _)
  intro iss
  refine ite_ne_unknownKey (fail_ne_unknownKey (by decide)) ?_
  refine ite_ne_unknownKey (fail_ne_unknownKey (by decide)) ?_
  split
  case h_1 => exact fail_ne_unknownKey (by decide)
  case h_2 exp hexp =>
      refine ite_ne_unknownKey ?_ ?_
      · simp [TokenErrors.unknownKey, TokenErrors.fail]
      · refine ite_ne_unknownKey (fail_ne_unknownKey (by decide)) ?_
        refine ite_ne_unknownKey (fail_ne_unknownKey (by decide)) ?_
        exact nofun

theorem verifiedToken_ne_unknownKey (requiredScopes : List String)
    (claims : Json) :
    JwtVerifier.verifiedToken requiredScopes claims ≠
      accessTokenErrors.unknownKey := by
  refine ite_ne_unknownKey ?_ nofun
  simp [TokenErrors.unknownKey, TokenErrors.fail, accessTokenErrors]

end Claims

/-! ## A verdict as a function of the keys -/

section Verdict

variable {Value : Type} (errors : TokenErrors)
  (rest : Json → Except SdkError Value) (verifySignature : VerifySignature)
  (token : Except SdkError ParsedToken)

def verdict (jwks : Json) : Except SdkError Value := do
  let parsed ← token
  checkSignature errors verifySignature jwks parsed
  rest parsed.claims

variable {errors rest verifySignature token}
  {exportJwk : String → List (String × Json)} {signingKeys : Table SigningKey}
  {rows rows' : List SigningKey}

theorem publicJwk_of_known (exportJwk : String → List (String × Json))
    {row row' : SigningKey}
    (hknown : KnownKey signingKeys row) (hknown' : KnownKey signingKeys row')
    (hkid : row.kid = row'.kid) :
    publicJwk exportJwk row = publicJwk exportJwk row' := by
  obtain ⟨stored, hstored, hkid₁, halg₁, hpem₁⟩ := hknown
  obtain ⟨stored', hstored', hkid₂, halg₂, hpem₂⟩ := hknown'
  have hsame : stored = stored' := by
    apply signingKeys.eq_of_key_eq hstored hstored'
    exact hkid₁.trans (hkid.trans hkid₂.symm)
  subst hsame
  rw [publicJwk, publicJwk, ← halg₁, ← hpem₁, halg₂, hpem₂, hkid]

theorem verdict_of_none {parsed : ParsedToken}
    (hnone : ∀ row ∈ rows, row.kid ≠ parsed.kid) :
    verdict errors rest verifySignature (.ok parsed)
      (jsonWebKeySet exportJwk rows) = errors.unknownKey := by
  have hfind : (rows.find? fun row => decide (row.kid = parsed.kid)) =
      none := by
    rw [List.find?_eq_none]
    intro row hrow
    simpa using hnone row hrow
  have hcheck : checkSignature errors verifySignature
      (jsonWebKeySet exportJwk rows) parsed = errors.unknownKey := by
    rw [checkSignature_set, hfind]
    rfl
  change (checkSignature errors verifySignature
    (jsonWebKeySet exportJwk rows) parsed >>= fun _ => rest parsed.claims) = _
  rw [hcheck]
  rfl

theorem verdict_of_some {parsed : ParsedToken} {row : SigningKey}
    (hrow : row ∈ rows) (hkid : row.kid = parsed.kid)
    (hknown : ∀ row ∈ rows, KnownKey signingKeys row) :
    verdict errors rest verifySignature (.ok parsed)
        (jsonWebKeySet exportJwk rows) =
      (checkWith errors verifySignature parsed
        (some (publicJwk exportJwk row)) >>= fun _ => rest parsed.claims) := by
  have hsome : (rows.find? fun row =>
      decide (row.kid = parsed.kid)).isSome = true := by
    rw [List.find?_isSome]
    exact ⟨row, hrow, decide_eq_true hkid⟩
  obtain ⟨found, hfound⟩ := Option.isSome_iff_exists.mp hsome
  have hjwk : publicJwk exportJwk found = publicJwk exportJwk row := by
    apply publicJwk_of_known exportJwk (hknown found (List.mem_of_find?_eq_some hfound))
      (hknown row hrow)
    have hnamed : found.kid = parsed.kid := by
      simpa using List.find?_some hfound
    exact hnamed.trans hkid.symm
  have hcheck : checkSignature errors verifySignature
      (jsonWebKeySet exportJwk rows) parsed =
        checkWith errors verifySignature parsed
          (some (publicJwk exportJwk row)) := by
    rw [checkSignature_set, hfound, Option.map_some, hjwk]
  change (checkSignature errors verifySignature
    (jsonWebKeySet exportJwk rows) parsed >>= fun _ => rest parsed.claims) = _
  rw [hcheck]

theorem checked_ne_unknownKey
    (hsignature : errors.signature ≠ "Signing key not found")
    (hrest : ∀ claims, rest claims ≠ errors.unknownKey)
    (parsed : ParsedToken) (jwk : Json) :
    (checkWith errors verifySignature parsed (some jwk) >>=
      fun _ => rest parsed.claims) ≠ errors.unknownKey :=
  bind_ne_unknownKey (checkWith_some hsignature jwk) fun _ =>
    hrest parsed.claims

/-- Two sets of stored keys lead to one verdict exactly when they agree on
having the key that the token names. -/
theorem verdict_eq_iff
    (hsignature : errors.signature ≠ "Signing key not found")
    (hrest : ∀ claims, rest claims ≠ errors.unknownKey)
    (hknown : ∀ row ∈ rows, KnownKey signingKeys row)
    (hknown' : ∀ row ∈ rows', KnownKey signingKeys row) :
    verdict errors rest verifySignature token (jsonWebKeySet exportJwk rows) =
        verdict errors rest verifySignature token
          (jsonWebKeySet exportJwk rows') ↔
      ∀ parsed, token = .ok parsed →
        ((∃ row ∈ rows, row.kid = parsed.kid) ↔
          ∃ row ∈ rows', row.kid = parsed.kid) := by
  cases token with
  | error error => exact ⟨fun _ => nofun, fun _ => rfl⟩
  | ok parsed =>
      have hgoal : (∀ other, Except.ok parsed =
          (Except.ok other : Except SdkError ParsedToken) →
          ((∃ row ∈ rows, row.kid = other.kid) ↔
            ∃ row ∈ rows', row.kid = other.kid)) ↔
          ((∃ row ∈ rows, row.kid = parsed.kid) ↔
            ∃ row ∈ rows', row.kid = parsed.kid) := by
        constructor
        · exact fun hall => hall parsed rfl
        · rintro hsame other hother
          cases hother
          exact hsame
      rw [hgoal]
      by_cases hhas : ∃ row ∈ rows, row.kid = parsed.kid
      · obtain ⟨row, hrow, hkid⟩ := hhas
        rw [verdict_of_some hrow hkid hknown]
        by_cases hhas' : ∃ row ∈ rows', row.kid = parsed.kid
        · obtain ⟨row', hrow', hkid'⟩ := hhas'
          have hjwk := publicJwk_of_known exportJwk
            (hknown row hrow) (hknown' row' hrow') (hkid.trans hkid'.symm)
          rw [verdict_of_some hrow' hkid' hknown', hjwk]
          exact iff_of_true rfl (iff_of_true ⟨row, hrow, hkid⟩
            ⟨row', hrow', hkid'⟩)
        · have hnone : ∀ row ∈ rows', row.kid ≠ parsed.kid :=
            fun row hrow hkid => hhas' ⟨row, hrow, hkid⟩
          rw [verdict_of_none hnone]
          refine iff_of_false (checked_ne_unknownKey hsignature hrest _ _) ?_
          exact fun hiff => hhas' (hiff.mp ⟨row, hrow, hkid⟩)
      · have hnone : ∀ row ∈ rows, row.kid ≠ parsed.kid :=
          fun row hrow hkid => hhas ⟨row, hrow, hkid⟩
        rw [verdict_of_none hnone]
        by_cases hhas' : ∃ row ∈ rows', row.kid = parsed.kid
        · obtain ⟨row', hrow', hkid'⟩ := hhas'
          rw [verdict_of_some hrow' hkid' hknown']
          refine iff_of_false (checked_ne_unknownKey hsignature hrest _ _).symm
            ?_
          exact fun hiff => hhas (hiff.mpr ⟨row', hrow', hkid'⟩)
        · have hnone' : ∀ row ∈ rows', row.kid ≠ parsed.kid :=
            fun row hrow hkid => hhas' ⟨row, hrow, hkid⟩
          rw [verdict_of_none hnone']
          exact iff_of_true rfl (iff_of_false hhas hhas')

end Verdict

end IdProvider
