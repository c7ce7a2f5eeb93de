/-
ID tokens of any shape before the SDK's client: which of them it accepts, and
what it throws at the others.
-/
import IdProvider.KeyTracking

namespace IdProvider

open JsonText ServiceCall

/-! ## Tokens -/

/-- The segments of a token that the client reads, and those behind them. -/
structure TokenSegments where
  header : List Char
  payload : List Char
  signature : List Char
  further : List (List Char)

structure TokenSegments.Of (segments : TokenSegments) (token : String) :
    Prop where
  split : token.toList.splitOn '.' =
    segments.header :: segments.payload :: segments.signature ::
      segments.further
  header : segments.header ≠ []
  payload : segments.payload ≠ []
  signature : segments.signature ≠ []

/-- The JSON of a segment. -/
def decodedSegment (segment : List Char) : Option Json :=
  parse (Utf8.decode (Base64.decode segment))

/-- A header that names RS256 and a key of the set, and under that key a valid
signature of the first two segments. -/
structure TokenSegments.Signed (segments : TokenSegments)
    (verifySignature : VerifySignature) (keys : List Json) (claims : Json) :
    Prop where
  signature : ∃ header kid jwk,
    decodedSegment segments.header = some header ∧
      header.get? "alg" = some (.str "RS256") ∧
      header.get? "kid" = some (.str kid) ∧
      (keys.find? fun jwk => decide (jwk.get? "kid" = some (.str kid))) =
        some jwk ∧
      verifySignature jwk
        (Utf8.encode (segments.header ++ '.' :: segments.payload))
        (Base64.decode segments.signature) = .ok true
  payload : decodedSegment segments.payload = some claims

/-! ## What the issuer serves -/

/-- A discovery document, and the set of keys at the URI in it. -/
structure IssuerDocuments where
  discovery : List (String × Json)
  jwksUri : String
  jwks : List (String × Json)
  keys : List (List (String × Json))
  names_jwks : (Json.obj discovery).get? "jwks_uri" = some (.str jwksUri)
  holds_keys : (Json.obj jwks).get? "keys" = some (.arr (keys.map .obj))

namespace IssuerDocuments

variable (docs : IssuerDocuments)

/-- Every request for one of the documents is answered with it. -/
structure Served (fetch : List SdkRequest → SdkRequest → FetchOutcome)
    (issuer : String) : Prop where
  discovery : ∀ requests, (fetch requests (discoveryRequest issuer)).read =
    .ok (.ok (.obj docs.discovery))
  jwks : ∀ requests, (fetch requests ⟨.str docs.jwksUri, none⟩).read =
    .ok (.ok (.obj docs.jwks))

/-- RSA keys: the signature of anything is valid under one or it is not. -/
def RsaKeys (verifySignature : VerifySignature) : Prop :=
  ∀ key ∈ docs.keys, ∀ signed signature,
    ∃ valid, verifySignature (.obj key) signed signature = .ok valid

/-- The client has these documents, or it has none yet. -/
structure Cached (st : SdkState) : Prop where
  discovery : st.discoveryCache = none ∨
    st.discoveryCache = some (.obj docs.discovery)
  jwks : st.jwksCache = none ∨ st.jwksCache = some (.obj docs.jwks)

end IssuerDocuments

/-! ## A sound and total verification -/

/-- The claims say that the token is for this client, now. -/
structure SoundClaims (env : SdkEnv) (now : Instant) (nonce : Option String)
    (claims : Json) : Prop where
  issuer : ∃ iss, claims.get? "iss" = some (.str iss) ∧
    withoutSlash iss = withoutSlash env.issuer
  audience : isAudience env.clientId (claims.get? "aud") = true
  party : severalAudiences (claims.get? "aud") = true →
    claims.get? "azp" = some (.str env.clientId)
  expiry : ∃ exp, numberOf env.numbers (claims.get? "exp") = some exp ∧
    exp.above ((now : ℚ) / 1000) = true
  nonce : ∀ expected, nonce = some expected →
    claims.get? "nonce" = some (.str expected)

/-- `error instanceof ServerSdkError`. -/
def SdkError.IsServerSdkError : SdkError → Prop
  | .sdk _ _ _ => True
  | .error _ => False
  | .thrown => False

section Outcome

variable (docs : IssuerDocuments) (env : SdkEnv)
  (verifySignature : VerifySignature) (now : Instant) (input : IdTokenInput)

/-- Claims of a token in three segments that is signed and sound, or a
`ServerSdkError`. -/
def SoundOutcome (result : Except SdkError VerifiedIdToken) : Prop :=
  match result with
  | .ok verified =>
      ∃ segments : TokenSegments, segments.Of input.idToken ∧
        segments.further = [] ∧
        segments.Signed verifySignature (docs.keys.map .obj)
          verified.claims ∧
        SoundClaims env now input.nonce verified.claims
  | .error error => error.IsServerSdkError

/-- The claims pass the checks as they are written. -/
structure PassesChecks (claims : Json) : Prop where
  issuer : strictEquals env.numbers (claims.get? "iss")
    ((Json.obj docs.discovery).get? "issuer") = true
  audience : isAudience env.clientId (claims.get? "aud") = true
  party : severalAudiences (claims.get? "aud") = true →
    claims.get? "azp" = some (.str env.clientId)
  expiry : ∃ exp, numberOf env.numbers (claims.get? "exp") = some exp ∧
    exp.atMost (epochSeconds now) = false
  nonce : ∀ expected, orNull input.nonce = some expected →
    claims.get? "nonce" = some (.str expected)
  subject : ∃ sub, claims.get? "sub" = some (.str sub)

/-- What the checks leave open: segments behind the third, an issuer in the
discovery document that is not the configured one, an expiry inside the
current second, and an expected nonce that is empty. -/
structure LeavesNothingOpen (segments : TokenSegments) (claims : Json) :
    Prop where
  further : segments.further = []
  issuer : ∃ issuer,
    (Json.obj docs.discovery).get? "issuer" = some (.str issuer) ∧
      withoutSlash issuer = withoutSlash env.issuer
  expiry : ∀ exp, numberOf env.numbers (claims.get? "exp") = some exp →
    exp.atMost (epochSeconds now) = false →
      exp.above ((now : ℚ) / 1000) = true
  nonce : input.nonce = some "" → claims.get? "nonce" = some (.str "")

/-- No `null` stands where the properties of an object are read, and of a
token that passes the checks they leave nothing open. -/
structure MeetsChecks : Prop where
  header : ∀ segments : TokenSegments, segments.Of input.idToken →
    decodedSegment segments.header = some .null →
    decodedSegment segments.payload = none
  payload : ∀ segments : TokenSegments, segments.Of input.idToken →
    ¬ segments.Signed verifySignature (docs.keys.map .obj) .null
  accepted : ∀ (segments : TokenSegments) claims,
    segments.Of input.idToken →
    segments.Signed verifySignature (docs.keys.map .obj) claims →
    PassesChecks docs env now input claims →
    LeavesNothingOpen docs env now input segments claims

end Outcome

/-! ## The documents as the client reads them -/

theorem property_of_ne_null {json : Json} {name : String}
    (hjson : json ≠ .null) : property json name = .ok (json.get? name) := by
  rw [property]
  exact hjson

theorem property_object (members : List (String × Json)) (name : String) :
    property (.obj members) name = .ok ((Json.obj members).get? name) := rfl

section Documents

variable {docs : IssuerDocuments} {issuer : String} {st : SdkState}
  {fetch : List SdkRequest → SdkRequest → FetchOutcome}

theorem cachedDiscovery_served (hserved : docs.Served fetch issuer)
    (hcached : docs.Cached st) :
    ∃ after, cachedDiscovery fetch issuer st =
        (.ok (.obj docs.discovery), after) ∧ docs.Cached after := by
  rcases hcached.discovery with hnone | hsome
  · exact ⟨_, cached_of_none hnone
      (fetchJson_of_read (hserved.discovery st.requests)),
      ⟨.inr rfl, hcached.jwks⟩⟩
  · exact ⟨st, cached_of_some hsome rfl, hcached⟩

theorem discoveredJwks_served (hserved : docs.Served fetch issuer)
    (hcached : docs.Cached st) :
    ∃ after, discoveredJwks fetch (cachedDiscovery fetch issuer) st =
      (.ok (.obj docs.jwks), after) := by
  obtain ⟨found, hfound, -⟩ := cachedDiscovery_served hserved hcached
  have huri : ofExcept (property (.obj docs.discovery) "jwks_uri") found =
      (.ok (some (.str docs.jwksUri)), found) := by
    rw [ofExcept, property_object, docs.names_jwks]
  rw [discoveredJwks, bind_ok hfound, bind_ok huri]
  exact ⟨_, fetchJson_of_read (hserved.jwks found.requests)⟩

theorem cachedJwks_served (hserved : docs.Served fetch issuer)
    (hcached : docs.Cached st) :
    ∃ after, cachedJwks
        (discoveredJwks fetch (cachedDiscovery fetch issuer)) st =
      (.ok (.obj docs.jwks), after) := by
  rcases hcached.jwks with hnone | hsome
  · obtain ⟨loaded, hload⟩ := discoveredJwks_served hserved hcached
    exact ⟨_, cached_of_none hnone hload⟩
  · exact ⟨st, cached_of_some hsome rfl⟩

end Documents

/-- `verifyIdToken` with the documents at hand. -/
def servedVerdict (docs : IssuerDocuments) (env : SdkEnv)
    (verifySignature : VerifySignature) (now : Instant)
    (input : IdTokenInput) : Except SdkError VerifiedIdToken :=
  verdict idTokenErrors
    (checkIdClaims env.numbers env.clientId now (.obj docs.discovery)
      input.nonce)
    verifySignature (parseToken idTokenErrors input.idToken) (.obj docs.jwks)

theorem verifyIdToken_served {docs : IssuerDocuments} {env : SdkEnv}
    {st : SdkState} (verifySignature : VerifySignature) (now : Instant)
    (input : IdTokenInput) (hserved : docs.Served env.fetch env.issuer)
    (hcached : docs.Cached st) :
    (ServerSdkClient.verifyIdToken env verifySignature now input st).1 =
      servedVerdict docs env verifySignature now input := by
  obtain ⟨found, hfound, hcaches⟩ := cachedDiscovery_served hserved hcached
  obtain ⟨loaded, hloaded⟩ := cachedJwks_served hserved hcaches
  rw [ServerSdkClient.verifyIdToken, servedVerdict]
  cases hparse : parseToken idTokenErrors input.idToken with
  | error error => exact congrArg Prod.fst (bind_ok hfound)
  | ok parsed =>
      refine (congrArg Prod.fst (bind_ok hfound)).trans ?_
      refine (congrArg Prod.fst (bind_ok hloaded)).trans ?_
      rw [TrackingEnv.ofExcept_bind]
      rfl

/-! ## The segments as the client reads them -/

section Segments

variable {errors : TokenErrors} {token : String} {segments : TokenSegments}

theorem TokenSegments.Of.unique {others : TokenSegments}
    (hof : segments.Of token) (hothers : others.Of token) :
    segments = others := by
  have hsplit := hof.split.symm.trans hothers.split
  cases segments
  cases others
  simp_all

/-- The checks of the header. -/
def readHeader (errors : TokenErrors) (segments : TokenSegments)
    (header claims : Json) : Except SdkError ParsedToken := do
  let alg ← property header "alg"
  if alg ≠ some (.str "RS256") then errors.fail errors.unsupported
  else
    match header.get? "kid" with
    | some (.str kid) =>
        pure
          { signed := Utf8.encode
              (segments.header ++ '.' :: segments.payload)
            signature := Base64.decode segments.signature
            kid := kid
            claims := claims }
    | _ => errors.fail errors.unsupported

theorem parseToken_of (hof : segments.Of token) :
    parseToken errors token = (do
      let header ← decodeJson errors segments.header
      let claims ← decodeJson errors segments.payload
      readHeader errors segments header claims) := by
  have hparts : ¬ (segments.header = [] ∨ segments.payload = [] ∨
      segments.signature = []) := by
    rintro (hempty | hempty | hempty)
    · exact hof.header hempty
    · exact hof.payload hempty
    · exact hof.signature hempty
  rw [parseToken, hof.split]
  exact if_neg hparts

theorem parseToken_of_none
    (hnone : ∀ segments : TokenSegments, ¬ segments.Of token) :
    parseToken errors token = errors.fail errors.format := by
  rw [parseToken]
  split
  case h_1 header payload signature further hsplit =>
      split
      case isTrue => rfl
      case isFalse hparts =>
          have hof : TokenSegments.Of
              ⟨header, payload, signature, further⟩ token :=
            ⟨hsplit, fun hempty => hparts (.inl hempty),
              fun hempty => hparts (.inr (.inl hempty)),
              fun hempty => hparts (.inr (.inr hempty))⟩
          exact absurd hof (hnone _)
  case h_2 => rfl

theorem decodeJson_of_some {segment : List Char} {json : Json}
    (hjson : decodedSegment segment = some json) :
    decodeJson errors segment = .ok json := by
  rw [decodedSegment] at hjson
  rw [decodeJson, hjson]

theorem decoded_of_ok {segment : List Char} {json : Json}
    (hok : decodeJson errors segment = .ok json) :
    decodedSegment segment = some json := by
  rw [decodedSegment]
  rw [decodeJson] at hok
  split at hok
  case h_1 decoded hdecoded => exact hdecoded.trans (by cases hok; rfl)
  case h_2 => cases hok

theorem decodeJson_of_none {segment : List Char}
    (hjson : decodedSegment segment = none) :
    decodeJson errors segment = errors.fail "Invalid token JSON" := by
  rw [decodedSegment] at hjson
  rw [decodeJson, hjson]

end Segments

/-! ## The key of a token -/

section Keys

variable {docs : IssuerDocuments} {errors : TokenErrors}
  {verifySignature : VerifySignature} {parsed : ParsedToken}

theorem findKey_objects (kid : String) (keys : List (List (String × Json))) :
    findKey kid (keys.map .obj) =
      .ok ((keys.map Json.obj).find? fun jwk =>
        decide (jwk.get? "kid" = some (.str kid))) := by
  induction keys with
  | nil => rfl
  | cons key keys ih =>
      rw [List.map_cons, findKey, property_object]
      change (if (Json.obj key).get? "kid" = some (.str kid) then
          pure (some (Json.obj key))
        else findKey kid (keys.map .obj)) = _
      by_cases hkid : (Json.obj key).get? "kid" = some (.str kid)
      · rw [if_pos hkid, List.find?_cons]
        simp [hkid]
        rfl
      · rw [if_neg hkid, ih, List.find?_cons]
        simp [hkid]

theorem checkSignature_served :
    checkSignature errors verifySignature (.obj docs.jwks) parsed =
      checkWith errors verifySignature parsed
        ((docs.keys.map Json.obj).find? fun jwk =>
          decide (jwk.get? "kid" = some (.str parsed.kid))) := by
  have hkeys : keysOf (.obj docs.jwks) = .ok (docs.keys.map .obj) := by
    rw [keysOf, property_object, docs.holds_keys]
    rfl
  rw [checkSignature, hkeys]
  change (do
    let jwk ← findKey parsed.kid (docs.keys.map .obj)
    _) = _
  rw [findKey_objects]
  rfl

theorem checkWith_ok_iff {jwk : Option Json} :
    checkWith errors verifySignature parsed jwk = .ok () ↔
      ∃ key, jwk = some key ∧
        verifySignature key parsed.signed parsed.signature = .ok true := by
  cases jwk with
  | none => simp [checkWith, TokenErrors.unknownKey, TokenErrors.fail]
  | some key =>
      cases hverify : verifySignature key parsed.signed parsed.signature with
      | error message => simp [checkWith, hverify]
      | ok valid =>
          cases valid with
          | true => simp [checkWith, hverify]
          | false => simp [checkWith, hverify, TokenErrors.fail]

end Keys

/-! ## What is thrown -/

section Thrown

variable {Value Next : Type} {errors : TokenErrors}

/-- Nothing but a `ServerSdkError` comes out. -/
def ThrowsSdkOnly (result : Except SdkError Value) : Prop :=
  ∀ error, result = .error error → error.IsServerSdkError

theorem throwsSdkOnly_ok (value : Value) : ThrowsSdkOnly (.ok value) :=
  fun _ herror => by cases herror

theorem throwsSdkOnly_fail (message : String) :
    ThrowsSdkOnly (errors.fail message : Except SdkError Value) := by
  intro error herror
  cases herror
  trivial

theorem throwsSdkOnly_bind {first : Except SdkError Value}
    {next : Value → Except SdkError Next} (hfirst : ThrowsSdkOnly first)
    (hnext : ∀ value, first = .ok value → ThrowsSdkOnly (next value)) :
    ThrowsSdkOnly (first >>= next) := by
  cases first with
  | error error =>
      intro other hother
      cases hother
      exact hfirst error rfl
  | ok value => exact hnext value rfl

theorem throwsSdkOnly_ite {condition : Prop} [Decidable condition]
    {left right : Except SdkError Value} (hleft : ThrowsSdkOnly left)
    (hright : ThrowsSdkOnly right) :
    ThrowsSdkOnly (if condition then left else right) := by
  split
  case isTrue => exact hleft
  case isFalse => exact hright

theorem throwsSdkOnly_property {json : Json} {name : String}
    (hjson : json ≠ .null) : ThrowsSdkOnly (property json name) := by
  rw [property_of_ne_null hjson]
  exact throwsSdkOnly_ok _

theorem throwsSdkOnly_decodeJson (segment : List Char) :
    ThrowsSdkOnly (decodeJson errors segment) := by
  rw [decodeJson]
  split
  case h_1 json hjson => exact throwsSdkOnly_ok json
  case h_2 => exact throwsSdkOnly_fail _

theorem throwsSdkOnly_readHeader {segments : TokenSegments}
    {header claims : Json} (hheader : header ≠ .null) :
    ThrowsSdkOnly (readHeader errors segments header claims) := by
  refine throwsSdkOnly_bind (throwsSdkOnly_property hheader) ?_
  intro alg halg
  refine throwsSdkOnly_ite (throwsSdkOnly_fail _) ?_
  split
  case h_1 kid hkid => exact throwsSdkOnly_ok _
  case h_2 => exact throwsSdkOnly_fail _

theorem throwsSdkOnly_checkSignature {docs : IssuerDocuments}
    {verifySignature : VerifySignature} (hkeys : docs.RsaKeys verifySignature)
    (parsed : ParsedToken) :
    ThrowsSdkOnly (checkSignature errors verifySignature (.obj docs.jwks)
      parsed) := by
  rw [checkSignature_served]
  cases hfound : (docs.keys.map Json.obj).find? fun jwk =>
      decide (jwk.get? "kid" = some (.str parsed.kid)) with
  | none => exact throwsSdkOnly_fail _
  | some jwk =>
      obtain ⟨key, hkey, rfl⟩ :=
        List.mem_map.mp (List.mem_of_find?_eq_some hfound)
      obtain ⟨valid, hvalid⟩ := hkeys key hkey parsed.signed parsed.signature
      rw [checkWith, hvalid]
      cases valid with
      | true => exact throwsSdkOnly_ok ()
      | false => exact throwsSdkOnly_fail _

theorem throwsSdkOnly_checkIdClaims (numbers : NumberRuntime)
    (clientId : String) (now : Instant)
    (discovery : List (String × Json)) (nonce : Option String) {claims : Json}
    (hclaims : claims ≠ .null) :
    ThrowsSdkOnly
      (checkIdClaims numbers clientId now (.obj discovery) nonce claims) := by
  refine throwsSdkOnly_bind (throwsSdkOnly_property hclaims) ?_
  intro iss hiss
  refine throwsSdkOnly_bind (throwsSdkOnly_property nofun) ?_
  intro issuer hissuer
  refine throwsSdkOnly_ite (throwsSdkOnly_fail _) ?_
  refine throwsSdkOnly_ite (throwsSdkOnly_fail _) ?_
  refine throwsSdkOnly_ite (throwsSdkOnly_fail _) ?_
  refine throwsSdkOnly_ite (throwsSdkOnly_fail _) ?_
  refine throwsSdkOnly_ite (throwsSdkOnly_fail _) ?_
  split
  case h_1 sub hsub => exact throwsSdkOnly_ok _
  case h_2 => exact throwsSdkOnly_fail _

end Thrown

/-! ## What is accepted -/

theorem strictEquals_str_left (numbers : NumberRuntime) (text : String)
    (right : Option Json) :
    strictEquals numbers (some (.str text)) right =
      decide (some (.str text) = right) := rfl

theorem strictEquals_str_right (numbers : NumberRuntime)
    (left : Option Json) (text : String) :
    strictEquals numbers left (some (.str text)) =
      decide (left = some (.str text)) := by
  cases left with
  | none => rfl
  | some left =>
      cases left with
      | null => rfl
      | bool value => rfl
      | num value => rfl
      | str value => rfl
      | arr values => simp [strictEquals]
      | obj members => simp [strictEquals]

section Accepted

variable {docs : IssuerDocuments} {env : SdkEnv} {now : Instant}
  {verifySignature : VerifySignature} {input : IdTokenInput}
  {errors : TokenErrors} {segments : TokenSegments}

theorem readHeader_ok_iff {header claims : Json} {parsed : ParsedToken} :
    readHeader errors segments header claims = .ok parsed ↔
      header.get? "alg" = some (.str "RS256") ∧
      ∃ kid, header.get? "kid" = some (.str kid) ∧
        parsed =
          { signed := Utf8.encode
              (segments.header ++ '.' :: segments.payload)
            signature := Base64.decode segments.signature
            kid := kid
            claims := claims } := by
  by_cases hnull : header = .null
  · subst hnull
    constructor
    · intro hread
      cases hread
    · rintro ⟨halg, -⟩
      cases halg
  · rw [readHeader, property_of_ne_null hnull]
    change (if header.get? "alg" ≠ some (.str "RS256") then _ else _) = _ ↔ _
    by_cases halg : header.get? "alg" = some (.str "RS256")
    · rw [if_neg (not_not_intro halg)]
      constructor
      · split
        case h_1 kid hkid =>
          intro hread
          cases hread
          exact ⟨halg, kid, hkid, rfl⟩
        case h_2 =>
          intro hread
          cases hread
      · rintro ⟨-, kid, hkid, rfl⟩
        rw [hkid]
        rfl
    · rw [if_pos halg]
      constructor
      · intro hread
        cases hread
      · rintro ⟨hsame, -⟩
        exact absurd hsame halg

/-- A token whose parts are read and whose signature is valid. -/
theorem signed_iff {header claims : Json} (hof : segments.Of input.idToken)
    (hheader : decodedSegment segments.header = some header)
    (hpayload : decodedSegment segments.payload = some claims) :
    segments.Signed verifySignature (docs.keys.map .obj) claims ↔
      ∃ parsed, parseToken errors input.idToken = .ok parsed ∧
        checkSignature errors verifySignature (.obj docs.jwks) parsed =
          .ok () := by
  rw [parseToken_of hof, decodeJson_of_some hheader,
    decodeJson_of_some hpayload]
  change _ ↔ ∃ parsed, readHeader errors segments header claims = _ ∧ _
  constructor
  · rintro ⟨⟨other, kid, jwk, hother, halg, hkid, hfound, hvalid⟩, -⟩
    cases hheader.symm.trans hother
    refine ⟨_, readHeader_ok_iff.mpr ⟨halg, kid, hkid, rfl⟩, ?_⟩
    rw [checkSignature_served]
    exact checkWith_ok_iff.mpr ⟨jwk, hfound, hvalid⟩
  · rintro ⟨parsed, hread, hcheck⟩
    obtain ⟨halg, kid, hkid, rfl⟩ := readHeader_ok_iff.mp hread
    rw [checkSignature_served] at hcheck
    obtain ⟨jwk, hfound, hvalid⟩ := checkWith_ok_iff.mp hcheck
    exact ⟨⟨header, kid, jwk, hheader, halg, hkid, hfound, hvalid⟩, hpayload⟩

theorem passesChecks_of_ok {claims : Json} {verified : VerifiedIdToken}
    (hok : checkIdClaims env.numbers env.clientId now (.obj docs.discovery)
      input.nonce claims = .ok verified) :
    PassesChecks docs env now input claims ∧ verified.claims = claims := by
  have hnull : claims ≠ .null := by
    rintro rfl
    cases hok
  rw [checkIdClaims, property_of_ne_null hnull, property_object] at hok
  change (if strictEquals env.numbers (claims.get? "iss")
    ((Json.obj docs.discovery).get? "issuer") = false then _ else _) = _ at hok
  split at hok
  case isTrue => cases hok
  case isFalse hissuer =>
  split at hok
  case isTrue => cases hok
  case isFalse haudience =>
  split at hok
  case isTrue => cases hok
  case isFalse hparty =>
  split at hok
  case isTrue => cases hok
  case isFalse hexpiry =>
  split at hok
  case isTrue => cases hok
  case isFalse hnonce =>
  split at hok
  case h_2 => cases hok
  case h_1 sub hsub =>
  cases hok
  refine ⟨⟨?_, ?_, ?_, ?_, ?_, ⟨sub, hsub⟩⟩, rfl⟩
  · exact eq_true_of_ne_false hissuer
  · exact eq_true_of_ne_false haudience
  · intro hseveral
    by_contra hazp
    exact hparty ⟨hseveral, hazp⟩
  · cases hexp : numberOf env.numbers (claims.get? "exp") with
    | none =>
        rw [hexp] at hexpiry
        exact absurd rfl hexpiry
    | some exp =>
        rw [hexp, Option.all_some] at hexpiry
        exact ⟨exp, rfl, Bool.eq_false_iff.mpr hexpiry⟩
  · intro expected hexpected
    rw [hexpected, Option.any_some, decide_eq_true_iff] at hnonce
    exact not_not.mp hnonce

theorem ok_of_passesChecks {claims : Json}
    (hpasses : PassesChecks docs env now input claims) :
    ∃ verified, checkIdClaims env.numbers env.clientId now
      (.obj docs.discovery) input.nonce claims = .ok verified := by
  have hnull : claims ≠ .null := by
    rintro rfl
    obtain ⟨sub, hsub⟩ := hpasses.subject
    cases hsub
  obtain ⟨exp, hexp, hfuture⟩ := hpasses.expiry
  obtain ⟨sub, hsub⟩ := hpasses.subject
  have hparty : ¬ (severalAudiences (claims.get? "aud") = true ∧
      claims.get? "azp" ≠ some (.str env.clientId)) :=
    fun hboth => hboth.2 (hpasses.party hboth.1)
  have hexpiry : ¬ ((numberOf env.numbers (claims.get? "exp")).all fun exp =>
      exp.atMost (epochSeconds now)) = true := by
    rw [hexp, Option.all_some]
    exact Bool.eq_false_iff.mp hfuture
  have hnonce : ¬ ((orNull input.nonce).any fun nonce =>
      decide (claims.get? "nonce" ≠ some (.str nonce))) = true := by
    cases hexpected : orNull input.nonce with
    | none => exact nofun
    | some expected =>
        rw [Option.any_some, decide_eq_true_iff]
        exact not_not_intro (hpasses.nonce expected hexpected)
  rw [checkIdClaims, property_of_ne_null hnull, property_object]
  change ∃ verified, (if strictEquals env.numbers (claims.get? "iss")
    ((Json.obj docs.discovery).get? "issuer") = false then _ else _) = _
  rw [if_neg (ne_false_of_eq_true hpasses.issuer),
    if_neg (ne_false_of_eq_true hpasses.audience), if_neg hparty,
    if_neg hexpiry, if_neg hnonce, hsub]
  exact ⟨_, rfl⟩

/-! ## The verdict on any string -/

/-- The parts of a token that is read. -/
theorem decoded_of_parseToken {parsed : ParsedToken}
    (hof : segments.Of input.idToken)
    (hparse : parseToken errors input.idToken = .ok parsed) :
    ∃ header, decodedSegment segments.header = some header ∧
      decodedSegment segments.payload = some parsed.claims := by
  rw [parseToken_of hof] at hparse
  cases hheader : decodedSegment segments.header with
  | none =>
      rw [decodeJson_of_none hheader] at hparse
      cases hparse
  | some header =>
  rw [decodeJson_of_some hheader] at hparse
  cases hpayload : decodedSegment segments.payload with
  | none =>
      rw [decodeJson_of_none hpayload] at hparse
      cases hparse
  | some claims =>
  rw [decodeJson_of_some hpayload] at hparse
  obtain ⟨-, kid, -, rfl⟩ := readHeader_ok_iff.mp hparse
  exact ⟨header, rfl, rfl⟩

theorem segments_of_parseToken {parsed : ParsedToken}
    (hparse : parseToken errors input.idToken = .ok parsed) :
    ∃ segments : TokenSegments, segments.Of input.idToken := by
  by_contra hnone
  rw [parseToken_of_none (not_exists.mp hnone)] at hparse
  cases hparse

theorem servedVerdict_of_check {parsed : ParsedToken}
    (hparse : parseToken idTokenErrors input.idToken = .ok parsed)
    (hcheck : checkSignature idTokenErrors verifySignature (.obj docs.jwks)
      parsed = .ok ()) :
    servedVerdict docs env verifySignature now input =
      checkIdClaims env.numbers env.clientId now (.obj docs.discovery)
        input.nonce
        parsed.claims := by
  rw [servedVerdict, verdict, hparse]
  change (do
    checkSignature idTokenErrors verifySignature (.obj docs.jwks) parsed
    _) = _
  rw [hcheck]
  rfl

theorem servedVerdict_of_signed {claims : Json}
    (hof : segments.Of input.idToken)
    (hsigned : segments.Signed verifySignature (docs.keys.map .obj) claims) :
    servedVerdict docs env verifySignature now input =
      checkIdClaims env.numbers env.clientId now (.obj docs.discovery)
        input.nonce
        claims := by
  obtain ⟨header, kid, jwk, hheader, hfound⟩ := hsigned.signature
  obtain ⟨parsed, hparse, hcheck⟩ :=
    (signed_iff hof hheader hsigned.payload).mp hsigned
  obtain ⟨-, -, hclaims⟩ := decoded_of_parseToken hof hparse
  rw [servedVerdict_of_check hparse hcheck,
    Option.some.inj (hclaims.symm.trans hsigned.payload)]

/-- The segments of a token whose key and signature are found good. -/
theorem signed_of_check {parsed : ParsedToken}
    (hparse : parseToken idTokenErrors input.idToken = .ok parsed)
    (hcheck : checkSignature idTokenErrors verifySignature (.obj docs.jwks)
      parsed = .ok ()) :
    ∃ segments : TokenSegments, segments.Of input.idToken ∧
      segments.Signed verifySignature (docs.keys.map .obj) parsed.claims := by
  obtain ⟨segments, hof⟩ := segments_of_parseToken hparse
  obtain ⟨header, hheader, hclaims⟩ := decoded_of_parseToken hof hparse
  exact ⟨segments, hof,
    (signed_iff hof hheader hclaims).mpr ⟨parsed, hparse, hcheck⟩⟩

theorem signed_of_ok {verified : VerifiedIdToken}
    (hok : servedVerdict docs env verifySignature now input =
      .ok verified) :
    ∃ segments : TokenSegments, segments.Of input.idToken ∧
      segments.Signed verifySignature (docs.keys.map .obj)
        verified.claims ∧
      PassesChecks docs env now input verified.claims := by
  cases hparse : parseToken idTokenErrors input.idToken with
  | error error =>
      rw [servedVerdict, hparse] at hok
      cases hok
  | ok parsed =>
  cases hcheck : checkSignature idTokenErrors verifySignature
      (.obj docs.jwks) parsed with
  | error error =>
      rw [servedVerdict, verdict, hparse] at hok
      change (do
        checkSignature idTokenErrors verifySignature (.obj docs.jwks) parsed
        _) = _ at hok
      rw [hcheck] at hok
      cases hok
  | ok checked =>
  rw [servedVerdict_of_check hparse hcheck] at hok
  obtain ⟨hpasses, hclaims⟩ := passesChecks_of_ok hok
  obtain ⟨segments, hof, hsigned⟩ := signed_of_check hparse hcheck
  rw [hclaims]
  exact ⟨segments, hof, hsigned, hpasses⟩

/-- What a `null` for a header comes to. -/
theorem servedVerdict_of_null_header {claims : Json}
    (hof : segments.Of input.idToken)
    (hheader : decodedSegment segments.header = some .null)
    (hpayload : decodedSegment segments.payload = some claims) :
    servedVerdict docs env verifySignature now input =
      .error (.error "Cannot read properties of null (reading 'alg')") := by
  rw [servedVerdict, parseToken_of hof, decodeJson_of_some hheader,
    decodeJson_of_some hpayload]
  rfl

theorem throwsSdkOnly_servedVerdict (hkeys : docs.RsaKeys verifySignature)
    (hmeets : MeetsChecks docs env verifySignature now input) :
    ThrowsSdkOnly (servedVerdict docs env verifySignature now input) := by
  have hparsed : ThrowsSdkOnly (parseToken idTokenErrors input.idToken) := by
    by_cases hof : ∃ segments : TokenSegments, segments.Of input.idToken
    · obtain ⟨segments, hof⟩ := hof
      rw [parseToken_of hof]
      refine throwsSdkOnly_bind (throwsSdkOnly_decodeJson _) ?_
      intro header hheader
      refine throwsSdkOnly_bind (throwsSdkOnly_decodeJson _) ?_
      intro claims hclaims
      apply throwsSdkOnly_readHeader
      rintro rfl
      have hnone := hmeets.header segments hof (decoded_of_ok hheader)
      rw [decoded_of_ok hclaims] at hnone
      cases hnone
    · rw [parseToken_of_none (not_exists.mp hof)]
      exact throwsSdkOnly_fail _
  refine throwsSdkOnly_bind hparsed ?_
  intro parsed hparse
  refine throwsSdkOnly_bind
    (throwsSdkOnly_checkSignature hkeys parsed) ?_
  intro checked hcheck
  apply throwsSdkOnly_checkIdClaims
  intro hnull
  obtain ⟨segments, hof, hsigned⟩ := signed_of_check hparse hcheck
  rw [hnull] at hsigned
  exact hmeets.payload segments hof hsigned

/-- What stays open when accepted claims are sound. -/
theorem leavesNothingOpen_of_sound {claims : Json}
    (hfurther : segments.further = [])
    (hsound : SoundClaims env now input.nonce claims)
    (hpasses : PassesChecks docs env now input claims) :
    LeavesNothingOpen docs env now input segments claims := by
  refine ⟨hfurther, ?_, ?_, hsound.nonce ""⟩
  · obtain ⟨iss, hiss, hsame⟩ := hsound.issuer
    have hissuer := hpasses.issuer
    rw [hiss, strictEquals_str_left, decide_eq_true_iff] at hissuer
    exact ⟨iss, hissuer.symm, hsame⟩
  · intro exp hexp _
    obtain ⟨other, hother, hfuture⟩ := hsound.expiry
    cases hexp.symm.trans hother
    exact hfuture

theorem sound_of_leavesNothingOpen {claims : Json}
    (hpasses : PassesChecks docs env now input claims)
    (hopen : LeavesNothingOpen docs env now input segments claims) :
    SoundClaims env now input.nonce claims := by
  refine ⟨?_, hpasses.audience, hpasses.party, ?_, ?_⟩
  · obtain ⟨issuer, hissuer, hsame⟩ := hopen.issuer
    have hiss := hpasses.issuer
    rw [hissuer, strictEquals_str_right, decide_eq_true_iff] at hiss
    exact ⟨issuer, hiss, hsame⟩
  · obtain ⟨exp, hexp, hlater⟩ := hpasses.expiry
    exact ⟨exp, hexp, hopen.expiry exp hexp hlater⟩
  · intro expected hexpected
    by_cases hempty : expected = ""
    · subst hempty
      exact hopen.nonce hexpected
    · apply hpasses.nonce expected
      rw [hexpected, orNull_some, if_neg hempty]

theorem soundOutcome_servedVerdict_iff
    (hkeys : docs.RsaKeys verifySignature) :
    SoundOutcome docs env verifySignature now input
        (servedVerdict docs env verifySignature now input) ↔
      MeetsChecks docs env verifySignature now input := by
  constructor
  · intro hsound
    refine ⟨?_, ?_, ?_⟩
    · intro segments hof hheader
      cases hpayload : decodedSegment segments.payload with
      | none => rfl
      | some claims =>
          rw [servedVerdict_of_null_header hof hheader hpayload] at hsound
          exact hsound.elim
    · intro segments hof hsigned
      rw [servedVerdict_of_signed hof hsigned] at hsound
      exact hsound.elim
    · intro segments claims hof hsigned hpasses
      obtain ⟨verified, hverified⟩ := ok_of_passesChecks hpasses
      rw [servedVerdict_of_signed hof hsigned, hverified] at hsound
      obtain ⟨others, hothers, hfurther, -, hclaims⟩ := hsound
      obtain ⟨-, hsame⟩ := passesChecks_of_ok hverified
      rw [hsame] at hclaims
      rw [hof.unique hothers]
      exact leavesNothingOpen_of_sound hfurther hclaims hpasses
  · intro hmeets
    cases hresult : servedVerdict docs env verifySignature now input with
    | ok verified =>
        obtain ⟨segments, hof, hsigned, hpasses⟩ := signed_of_ok hresult
        have hopen := hmeets.accepted segments verified.claims hof hsigned
          hpasses
        exact ⟨segments, hof, hopen.further, hsigned,
          sound_of_leavesNothingOpen hpasses hopen⟩
    | error error =>
        exact throwsSdkOnly_servedVerdict hkeys hmeets error hresult

end Accepted

namespace IdTokenWitness

def docs : IssuerDocuments where
  discovery := [("issuer", .str "https://id.example"),
    ("jwks_uri", .str "https://id.example/jwks")]
  jwksUri := "https://id.example/jwks"
  jwks := [("keys", .arr [.obj [("kid", .str KeyWitness.first.kid)]])]
  keys := [[("kid", .str KeyWitness.first.kid)]]
  names_jwks := by decide
  holds_keys := by decide

def env : SdkEnv where
  issuer := "https://id.example/"
  clientId := "app"
  clientSecret := "secret"
  numbers := .ofTexts
  fetch := fun _ request => .response 200 (.ok
    (if request = discoveryRequest "https://id.example/" then
      .obj docs.discovery
    else .obj docs.jwks))
  newUrl := fun _ => .error (.error "Invalid URL")
  searchParamsSet := fun url _ _ => url

/-- One signature is valid, whatever is signed. -/
def verifySignature : VerifySignature := fun _ _ signature =>
  .ok (decide (signature = Utf8.encode "first".toList))

theorem served : docs.Served env.fetch env.issuer where
  discovery := fun _ => rfl
  jwks := fun _ => rfl

theorem rsaKeys : docs.RsaKeys verifySignature :=
  fun _ _ _ signature =>
    ⟨decide (signature = Utf8.encode "first".toList), rfl⟩

theorem cached_fresh : docs.Cached .fresh := ⟨.inl rfl, .inl rfl⟩

/-- The header `null`, and the payload `{}`. -/
def nullToken : String := "bnVsbA.e30.AA"

end IdTokenWitness

end IdProvider
