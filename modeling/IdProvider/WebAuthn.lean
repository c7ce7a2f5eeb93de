/-
Passkeys: how a registered credential is stored, and which stored credential
an authentication hands to the library.
-/
import IdProvider.AuthCore
import IdProvider.Base64
import IdProvider.JsonReading
import IdProvider.JsText
import IdProvider.Schema
import IdProvider.ThrowingSearch
import IdProvider.Utf8

namespace IdProvider

open JsonText KeyedTable ThrowingSearch

/-- The columns of `mfa_factors` that passkeys use besides. -/
structure WebAuthnFactor extends MfaFactor where
  name : Option String
  webauthnData : Option Json
  deriving DecidableEq

instance : Keyed WebAuthnFactor String := ⟨fun factor => factor.id⟩

/-- The credential of a `registrationInfo`. -/
structure RegisteredCredential where
  id : String
  publicKey : List UInt8
  counter : Nat
  transports : Option (List String)

/-- The credential that an authentication is verified with. -/
structure WebAuthnCredential where
  id : Json
  publicKey : List UInt8
  counter : Option Json
  transports : Option Json
  deriving DecidableEq

structure AuthenticationResponse where
  id : String
  response : Json

/-- The verifications of `@simplewebauthn/server` for the site of the options:
of a response, the challenge and the credential.  `none` when it throws,
`some none` when the response is not verified. -/
structure WebAuthnEnv where
  verifyRegistration : Json → String → Option (Option RegisteredCredential)
  verifyAuthentication : AuthenticationResponse → String →
    WebAuthnCredential → Option (Option Nat)
  factorIds : KeySource String

structure WebAuthnState where
  redis : List (String × String)
  mfaFactors : Table WebAuthnFactor

inductive WebAuthnError where
  | api (error : ApiError)
  | thrown
  deriving DecidableEq

namespace WebAuthnService

inductive ChallengePurpose where
  | registration
  | authentication

def ChallengePurpose.text : ChallengePurpose → String
  | .registration => "registration"
  | .authentication => "authentication"

def getChallengeKey (userId : String) (purpose : ChallengePurpose) : String :=
  "webauthn:challenge:" ++ purpose.text ++ ":" ++ userId

/-- The challenge in Redis, if it is there and not empty. -/
def expectedChallenge (st : WebAuthnState) (userId : String)
    (purpose : ChallengePurpose) : Option String :=
  orNull (st.redis.lookup (getChallengeKey userId purpose))

def dropChallenge (redis : List (String × String)) (userId : String)
    (purpose : ChallengePurpose) : List (String × String) :=
  redis.filter fun entry => entry.1 != getChallengeKey userId purpose

def base64url (bytes : List UInt8) : String := String.ofList (Base64.url bytes)

/-! ## Registration -/

/-- The id is encoded once more, although it is a text already. -/
def webauthnData (credential : RegisteredCredential) :
    List (String × JsValue) :=
  [("credentialID", .str (base64url (Utf8.encode credential.id.toList))),
    ("credentialPublicKey", .str (base64url credential.publicKey)),
    ("counter", .number (.finite (.ofInt credential.counter))),
    ("transports", match credential.transports with
      | none => .undefined
      | some transports => .arr (transports.map JsValue.str))]

def newFactor (userId : String) (name : Option String) (data : Json)
    (id : String) : WebAuthnFactor where
  id := id
  userId := userId
  type := "webauthn"
  secret := none
  enabled := true
  name := some (name.getD "Passkey")
  webauthnData := some data

def verifyRegistrationResponse (env : WebAuthnEnv) (userId : String)
    (body : Json) (name : Option String) (st : WebAuthnState) :
    Except WebAuthnError Unit × WebAuthnState :=
  match expectedChallenge st userId .registration with
  | none =>
      (.error (.api ⟨400, "webauthn_challenge_expired",
        "Registration challenge expired or not found"⟩), st)
  | some challenge =>
      match env.verifyRegistration body challenge with
      | none => (.error .thrown, st)
      | some none =>
          (.error (.api ⟨400, "webauthn_verification_failed",
            "WebAuthn registration verification failed"⟩), st)
      | some (some credential) =>
          match storeRecord (webauthnData credential) with
          | none => (.error .thrown, st)
          | some data =>
              (.ok (),
                { redis := dropChallenge st.redis userId .registration
                  mfaFactors := st.mfaFactors.insertFresh env.factorIds
                    (newFactor userId name data) fun _ => rfl })

/-! ## Authentication -/

/-- `data.credentialID === body.id`, `none` when there is no data. -/
def hasCredentialId (bodyId : String) (factor : WebAuthnFactor) :
    Option Bool :=
  match factor.webauthnData with
  | none => none
  | some .null => none
  | some data => some (data.get? "credentialID" == some (.str bodyId))

/-- JavaScript's `Boolean(value)`. -/
def truthy : Json → Bool
  | .null => false
  | .bool value => value
  | .num value => numberValue value != 0
  | .str value => value != ""
  | .arr _ => true
  | .obj _ => true

/-- `none` when the public key is no text. -/
def storedCredential (data : Json) : Option WebAuthnCredential :=
  match data.get? "credentialID", data.get? "credentialPublicKey" with
  | some id, some (.str publicKey) =>
      some
        { id := id
          publicKey := Base64.decode publicKey.toList
          counter := data.get? "counter"
          transports := (data.get? "transports").filter truthy }
  | _, _ => none

/-- What the library is called with. -/
structure AuthenticationCall where
  factor : WebAuthnFactor
  expectedChallenge : String
  data : Json
  credential : WebAuthnCredential
  deriving DecidableEq

def enabledPasskeys (st : WebAuthnState) (userId : String) :
    List WebAuthnFactor :=
  st.mfaFactors.select fun factor =>
    factor.userId == userId && factor.type == "webauthn" && factor.enabled

def authenticationCall (userId bodyId : String) (st : WebAuthnState) :
    Except WebAuthnError AuthenticationCall :=
  match expectedChallenge st userId .authentication with
  | none =>
      .error (.api ⟨400, "webauthn_challenge_expired",
        "Authentication challenge expired or not found"⟩)
  | some challenge =>
      match (enabledPasskeys st userId).findM? (hasCredentialId bodyId) with
      | none => .error .thrown
      | some none =>
          .error (.api ⟨404, "webauthn_credential_not_found",
            "Credential not found for this user"⟩)
      | some (some factor) =>
          match factor.webauthnData with
          | none => .error .thrown
          | some data =>
              match storedCredential data with
              | none => .error .thrown
              | some credential => .ok ⟨factor, challenge, data, credential⟩

/-- `{ ...data, counter }`, stored. -/
def withCounter (data : Json) (counter : Nat) : Json :=
  match data with
  | .obj fields =>
      toJsonb (.obj (fields ++ [("counter", .num (.ofInt counter))]))
  | _ => .obj [("counter", .num (.ofInt counter))]

def verifyAuthenticationResponse (env : WebAuthnEnv) (userId : String)
    (body : AuthenticationResponse) (st : WebAuthnState) :
    Except WebAuthnError Unit × WebAuthnState :=
  match authenticationCall userId body.id st with
  | .error error => (.error error, st)
  | .ok call =>
      match env.verifyAuthentication body call.expectedChallenge
          call.credential with
      | none => (.error .thrown, st)
      | some none =>
          (.error (.api ⟨400, "webauthn_verification_failed",
            "WebAuthn authentication verification failed"⟩), st)
      | some (some newCounter) =>
          (.ok (),
            { redis := dropChallenge st.redis userId .authentication
              mfaFactors := st.mfaFactors.update
                (fun factor => factor.id == call.factor.id)
                (fun factor => { factor with
                  webauthnData := some (withCounter call.data newCounter) })
                fun _ => rfl })

/-! ## Round trip -/

/-- A credential was registered, and this row is the new one. -/
structure Registered (env : WebAuthnEnv) (userId : String) (body : Json)
    (name : Option String) (credential : RegisteredCredential)
    (before after : WebAuthnState) (factor : WebAuthnFactor) : Prop where
  verified : ∀ challenge,
    expectedChallenge before userId .registration = some challenge →
      env.verifyRegistration body challenge = some (some credential)
  done : verifyRegistrationResponse env userId body name before =
    (.ok (), after)
  stored : factor ∈ after.mfaFactors
  fresh : factor ∉ before.mfaFactors

/-- An authentication with the id of the credential finds its row and gives
the library what was registered. -/
def RoundTrips (st : WebAuthnState) (userId : String)
    (credential : RegisteredCredential) (factor : WebAuthnFactor) : Prop :=
  ∃ call, authenticationCall userId credential.id st = .ok call ∧
    call.factor = factor ∧ call.credential.id = .str credential.id ∧
    call.credential.publicKey = credential.publicKey ∧
    call.credential.counter = some (.num (.ofInt credential.counter))

/-- The rows that are listed before this one have other ids than the empty
one. -/
def FirstWithoutId (st : WebAuthnState) (userId : String)
    (factor : WebAuthnFactor) : Prop :=
  ∃ before later, enabledPasskeys st userId = before ++ factor :: later ∧
    ∀ earlier ∈ before, hasCredentialId "" earlier = some false

theorem base64url_ne {id : String} (hid : id ≠ "") :
    base64url (Utf8.encode id.toList) ≠ id := by
  intro heq
  have htext := congrArg String.toList heq
  rw [base64url, String.toList_ofList] at htext
  have hchars : id.toList ≠ [] := by
    intro hnil
    exact hid (String.toList_eq_nil_iff.mp hnil)
  have hle := Utf8.length_le_encode id.toList
  have hbytes : Utf8.encode id.toList ≠ [] := by
    intro hnil
    rw [hnil, List.length_nil, Nat.le_zero, List.length_eq_zero_iff] at hle
    exact hchars hle
  have hlt := Base64.length_lt_url hbytes
  rw [htext] at hlt
  exact absurd hlt (Nat.not_lt.mpr hle)

/-- The record that a registration stores. -/
theorem storedCredential_webauthnData {credential : RegisteredCredential}
    {data : Json} (hstore : storeRecord (webauthnData credential) = some data) :
    data.get? "credentialID" =
        some (.str (base64url (Utf8.encode credential.id.toList))) ∧
      ∃ transports, storedCredential data =
        some
          { id := .str (base64url (Utf8.encode credential.id.toList))
            publicKey := credential.publicKey
            counter := some (.num (.ofInt credential.counter))
            transports := transports } := by
  have hnodup : (JsValue.toJsonFields (webauthnData credential)).map Prod.fst
      |>.Nodup := by
    cases htransports : credential.transports with
    | none =>
        simp [webauthnData, JsValue.toJsonFields, JsValue.toJson?, htransports,
          JsValue.undefined]
    | some transports =>
        simp [webauthnData, JsValue.toJsonFields, JsValue.toJson?, htransports]
  have hget : ∀ property value,
      (property, value) ∈ JsValue.toJsonFields (webauthnData credential) →
        data.get? property = some (toJsonb value) := by
    intro property value hmem
    unfold storeRecord at hstore
    dsimp only at hstore
    split at hstore
    case isTrue => cases hstore
    case isFalse =>
      cases hstore
      exact get?_toJsonb hnodup hmem
  have hid := hget "credentialID"
    (.str (base64url (Utf8.encode credential.id.toList))) (by
      simp [webauthnData, JsValue.toJsonFields, JsValue.toJson?])
  have hkey := hget "credentialPublicKey"
    (.str (base64url credential.publicKey)) (by
      simp [webauthnData, JsValue.toJsonFields, JsValue.toJson?])
  have hcounter := hget "counter" (.num (.ofInt credential.counter)) (by
    simp [webauthnData, JsValue.toJsonFields, JsValue.toJson?,
      JsNumber.toJson])
  refine ⟨hid, (data.get? "transports").filter truthy, ?_⟩
  unfold storedCredential
  rw [hid, hkey, hcounter]
  simp only [toJsonb, base64url, String.toList_ofList, Base64.decode_url]

/-- What registration leaves behind. -/
theorem Registered.factor_eq {env : WebAuthnEnv} {userId : String}
    {body : Json} {name : Option String} {credential : RegisteredCredential}
    {before after : WebAuthnState} {factor : WebAuthnFactor}
    (hregistered : Registered env userId body name credential before after
      factor) :
    ∃ data id, storeRecord (webauthnData credential) = some data ∧
      factor = newFactor userId name data id := by
  obtain ⟨hverified, hdone, hstored, hfresh⟩ := hregistered
  unfold verifyRegistrationResponse at hdone
  split at hdone
  case h_1 => cases hdone
  case h_2 challenge hchallenge =>
    rw [hverified challenge hchallenge] at hdone
    dsimp only at hdone
    split at hdone
    case h_1 => cases hdone
    case h_2 data hdata =>
      cases hdone
      rcases List.mem_append.mp hstored with hold | hnew
      · exact absurd hold hfresh
      · exact ⟨data, _, hdata, List.mem_singleton.mp hnew⟩

theorem authenticationCall_eq_ok {userId bodyId : String} {st : WebAuthnState}
    {call : AuthenticationCall} :
    authenticationCall userId bodyId st = .ok call ↔
      expectedChallenge st userId .authentication =
          some call.expectedChallenge ∧
        (enabledPasskeys st userId).findM? (hasCredentialId bodyId) =
          some (some call.factor) ∧
        call.factor.webauthnData = some call.data ∧
        storedCredential call.data = some call.credential := by
  constructor
  · intro hcall
    unfold authenticationCall at hcall
    split at hcall
    case h_1 => cases hcall
    case h_2 challenge hchallenge =>
      split at hcall
      case h_1 => cases hcall
      case h_2 => cases hcall
      case h_3 factor hfind =>
        split at hcall
        case h_1 => cases hcall
        case h_2 data hdata =>
          split at hcall
          case h_1 => cases hcall
          case h_2 credential hcredential =>
            cases hcall
            exact ⟨hchallenge, hfind, hdata, hcredential⟩
  · rintro ⟨hchallenge, hfind, hdata, hcredential⟩
    simp only [authenticationCall, hchallenge, hfind, hdata, hcredential]

/-- The stored id is the base64url text of the id's bytes, which is the id
itself only when that is empty. -/
theorem roundTrips_iff (env : WebAuthnEnv) (userId : String) (body : Json)
    (name : Option String) (credential : RegisteredCredential)
    (before after later : WebAuthnState) (factor : WebAuthnFactor)
    (hregistered : Registered env userId body name credential before after
      factor)
    (hasked : (expectedChallenge later userId .authentication).isSome = true) :
    RoundTrips later userId credential factor ↔
      credential.id = "" ∧ FirstWithoutId later userId factor := by
  obtain ⟨data, id, hstore, hfactor⟩ := hregistered.factor_eq
  obtain ⟨hdataId, transports, hcredential⟩ :=
    storedCredential_webauthnData hstore
  obtain ⟨challenge, hchallenge⟩ := Option.isSome_iff_exists.mp hasked
  have hdata : factor.webauthnData = some data := by
    rw [hfactor]
    rfl
  have hmatch : hasCredentialId credential.id factor =
      some (base64url (Utf8.encode credential.id.toList) ==
        credential.id) := by
    unfold hasCredentialId
    rw [hdata]
    cases data with
    | null => cases hdataId
    | bool | num | str | arr => cases hdataId
    | obj fields =>
        dsimp only
        rw [hdataId]
        simp
  constructor
  · rintro ⟨call, hcall, rfl, -⟩
    obtain ⟨-, hfind, -⟩ := authenticationCall_eq_ok.mp hcall
    obtain ⟨first, rest, hlist, hfirst, hthis⟩ := findM?_eq_some_some.mp hfind
    rw [hmatch, Option.some.injEq, beq_iff_eq] at hthis
    have hid : credential.id = "" := by
      by_contra hid
      exact base64url_ne hid hthis
    rw [hid] at hfirst
    exact ⟨hid, first, rest, hlist, hfirst⟩
  · rintro ⟨hid, first, rest, hlist, hfirst⟩
    have hempty : base64url (Utf8.encode credential.id.toList) =
        credential.id := by
      rw [hid]
      rfl
    rw [hempty, beq_self_eq_true] at hmatch
    rw [hempty] at hcredential
    have hfind : (enabledPasskeys later userId).findM?
        (hasCredentialId credential.id) = some (some factor) := by
      rw [findM?_eq_some_some]
      refine ⟨first, rest, hlist, ?_, hmatch⟩
      rwa [hid]
    let stored : WebAuthnCredential :=
      { id := .str credential.id
        publicKey := credential.publicKey
        counter := some (.num (.ofInt credential.counter))
        transports := transports }
    refine ⟨⟨factor, challenge, data, stored⟩, ?_, rfl, rfl, rfl, rfl⟩
    exact authenticationCall_eq_ok.mpr ⟨hchallenge, hfind, hdata, hcredential⟩

end WebAuthnService

namespace WebAuthnWitness

open WebAuthnService

/-- A library that is shown its credential id. -/
def env : WebAuthnEnv where
  verifyRegistration body _ :=
    match body with
    | .str id => some (some ⟨id, [165, 1, 2, 3, 38], 0, none⟩)
    | _ => none
  verifyAuthentication _ _ credential :=
    if credential.publicKey = [165, 1, 2, 3, 38] then some (some 1)
    else some none
  factorIds := .longer

def credential (id : String) : RegisteredCredential :=
  ⟨id, [165, 1, 2, 3, 38], 0, none⟩

def before : WebAuthnState where
  redis :=
    [("webauthn:challenge:registration:user-1", "challenge-1"),
      ("webauthn:challenge:authentication:user-1", "challenge-2")]
  mfaFactors := .empty

def after (id : String) : WebAuthnState :=
  (verifyRegistrationResponse env "user-1" (.str id) none before).2

def data (id : String) : Json :=
  .obj
    [("counter", .num (.ofInt 0)), ("credentialID", .str id),
      ("credentialPublicKey", .str "pQECAyY")]

theorem registered {id encoded : String}
    (hrows : (after id).mfaFactors.rows =
      [newFactor "user-1" none (data encoded) "k"])
    (hdone : (verifyRegistrationResponse env "user-1" (.str id) none
      before).1 = .ok ()) :
    Registered env "user-1" (.str id) none (credential id) before (after id)
      (newFactor "user-1" none (data encoded) "k") where
  verified _ _ := rfl
  done := by rw [after, ← hdone]
  stored := by
    rw [← mem_rows, hrows]
    exact List.mem_singleton_self _
  fresh := Table.not_mem_empty _

theorem roundTrips_empty : RoundTrips (after "") "user-1" (credential "")
    (newFactor "user-1" none (data "") "k") := by
  have hrows : (after "").mfaFactors.rows =
      [newFactor "user-1" none (data "") "k"] := by decide +kernel
  refine (roundTrips_iff env "user-1" (.str "") none (credential "") before
    (after "") (after "") _ (registered hrows (by decide +kernel))
    (by decide +kernel)).mpr ⟨rfl, [], [], ?_, by simp⟩
  decide +kernel

/-- Four bytes have the id `AQIDBA`, and are looked up as such. -/
theorem not_roundTrips : ¬ ∀ env userId body name credential before after
    factor, Registered env userId body name credential before after factor →
      (expectedChallenge after userId .authentication).isSome = true →
        RoundTrips after userId credential factor := by
  intro hclaim
  have hrows : (after "AQIDBA").mfaFactors.rows =
      [newFactor "user-1" none (data "QVFJREJB") "k"] := by decide +kernel
  obtain ⟨call, hcall, -⟩ := hclaim env "user-1" (.str "AQIDBA") none
    (credential "AQIDBA") before (after "AQIDBA") _
    (registered hrows (by decide +kernel)) (by decide +kernel)
  have herror : authenticationCall "user-1" "AQIDBA" (after "AQIDBA") =
      .error (.api ⟨404, "webauthn_credential_not_found",
        "Credential not found for this user"⟩) := by
    rfl
  cases herror.symm.trans hcall

end WebAuthnWitness

end IdProvider
