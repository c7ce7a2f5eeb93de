/-
A long-lived client and verifier of the SDK beside the key store: the keys
that they cache, and the keys that the server publishes.
-/
import IdProvider.StepSystem
import IdProvider.TokenVerdicts

namespace IdProvider

open JsonText KeyedTable ServiceCall

/-! ## The server and its clients -/

/-- The provider with its discovery document, and the options of a client and
of a verifier for it. -/
structure TrackingEnv where
  keyOptions : KeyStoreOptions
  exportJwk : String → List (String × Json)
  issuer : String
  metadata : List (String × Json)
  documentIssuer : String
  jwksUri : String
  clientId : String
  clientSecret : String
  audience : String
  verifierJwksUri : Option String
  clockSkewSeconds : Int
  numbers : NumberRuntime
  verifySignature : VerifySignature
  uris_apart : Json.str jwksUri ≠ (discoveryRequest issuer).url
  verifier_uri : ∀ uri, orNull verifierJwksUri = some uri → uri = jwksUri

/-- The key store, and the fields of the client and of the verifier. -/
structure TrackingState where
  now : Instant
  signingKeys : Table SigningKey
  client : SdkState
  verifier : SdkState

/-- A draw is for the key that a call makes when it needs one. -/
inductive TrackingAction where
  | rotateIfDue (bootstrap next : KeyDraw)
  | rotateManual (actorUserId : Option String) (bootstrap next : KeyDraw)
  | rotateEmergency (actorUserId : Option String) (bootstrap next : KeyDraw)
  | tick (now : Instant)
  | verifyIdToken (input : IdTokenInput) (bootstrap : KeyDraw)
  | verifyAccessToken (token : String) (requiredScopes : List String)
      (bootstrap : KeyDraw)

namespace TrackingEnv

variable (env : TrackingEnv)

/-- The discovery document. -/
def discovery : Json :=
  .obj (env.metadata ++
    [("issuer", .str env.documentIssuer), ("jwks_uri", .str env.jwksUri)])

/-- What the server answers while it has these keys to publish. -/
def fetch (keys : List SigningKey) (_ : List SdkRequest)
    (request : SdkRequest) : FetchOutcome :=
  if request.url = (discoveryRequest env.issuer).url then
    .response 200 (.ok env.discovery)
  else if request.url = .str env.jwksUri then
    .response 200 (.ok (jsonWebKeySet env.exportJwk keys))
  else .response 404 (.error (.error "Unexpected token"))

/-- The call of a client with these fields. -/
def verifyIdToken (keys : List SigningKey) (now : Instant)
    (input : IdTokenInput) : Sdk VerifiedIdToken :=
  ServerSdkClient.verifyIdToken
    { issuer := env.issuer
      clientId := env.clientId
      clientSecret := env.clientSecret
      numbers := env.numbers
      fetch := env.fetch keys
      newUrl := fun _ => .error (.error "Invalid URL")
      searchParamsSet := fun url _ _ => url }
    env.verifySignature now input

def verifyAccessToken (keys : List SigningKey) (now : Instant)
    (token : String) (requiredScopes : List String) :
    Sdk VerifiedServiceAccessToken :=
  JwtVerifier.verifyAccessToken
    { issuer := env.issuer
      audience := env.audience
      jwksUri := env.verifierJwksUri
      clockSkewSeconds := env.clockSkewSeconds
      numbers := env.numbers
      fetch := env.fetch keys }
    env.verifySignature now token requiredScopes

end TrackingEnv

namespace TrackingState

variable (env : TrackingEnv) (state : TrackingState)

def keyEnv (bootstrap next : KeyDraw) : KeyCallEnv :=
  ⟨state.now, bootstrap, next⟩

/-- The keys that the server publishes at this moment, and its store after
publishing them. -/
def published (bootstrap : KeyDraw) :
    Except KeyStoreError (List SigningKey) × Table SigningKey :=
  KeyStoreService.getPublicJwks (state.keyEnv bootstrap bootstrap)
    state.signingKeys

/-- The store after a call that may have requested the keys. -/
def servedKeys (bootstrap : KeyDraw) (before after : SdkState) :
    Table SigningKey :=
  if ⟨.str env.jwksUri, none⟩ ∈ after.requests.drop before.requests.length then
    (state.published bootstrap).2
  else state.signingKeys

/-- No request fails: a verification takes place when the server can answer. -/
def step : TrackingAction → Option TrackingState
  | .rotateIfDue bootstrap next =>
      some
        { state with
          signingKeys := (KeyStoreService.rotateIfDue env.keyOptions
            (state.keyEnv bootstrap next) state.signingKeys).2 }
  | .rotateManual actorUserId bootstrap next =>
      some
        { state with
          signingKeys := (KeyStoreService.rotateManual env.keyOptions
            (state.keyEnv bootstrap next) actorUserId state.signingKeys).2 }
  | .rotateEmergency actorUserId bootstrap next =>
      some
        { state with
          signingKeys := (KeyStoreService.rotateEmergency env.keyOptions
            (state.keyEnv bootstrap next) actorUserId state.signingKeys).2 }
  | .tick now =>
      if state.now ≤ now then some { state with now := now } else none
  | .verifyIdToken input bootstrap =>
      match (state.published bootstrap).1 with
      | .error _ => none
      | .ok keys =>
          let after :=
            (env.verifyIdToken keys state.now input state.client).2
          some
            { state with
              client := after
              signingKeys :=
                state.servedKeys env bootstrap state.client after }
  | .verifyAccessToken token requiredScopes bootstrap =>
      match (state.published bootstrap).1 with
      | .error _ => none
      | .ok keys =>
          let after := (env.verifyAccessToken keys state.now token
            requiredScopes state.verifier).2
          some
            { state with
              verifier := after
              signingKeys :=
                state.servedKeys env bootstrap state.verifier after }

/-- A new client and a new verifier, beside any store. -/
def initial (now : Instant) (signingKeys : Table SigningKey) :
    TrackingState :=
  ⟨now, signingKeys, .fresh, .fresh⟩

end TrackingState

/-- A verification comes out as that of a client or a verifier that is new. -/
def SameVerdict (env : TrackingEnv) (state : TrackingState)
    (action : TrackingAction) : Prop :=
  match action with
  | .verifyIdToken input bootstrap =>
      ∀ keys, (state.published bootstrap).1 = .ok keys →
        (env.verifyIdToken keys state.now input state.client).1 =
          (env.verifyIdToken keys state.now input .fresh).1
  | .verifyAccessToken token requiredScopes bootstrap =>
      ∀ keys, (state.published bootstrap).1 = .ok keys →
        (env.verifyAccessToken keys state.now token requiredScopes
            state.verifier).1 =
          (env.verifyAccessToken keys state.now token requiredScopes .fresh).1
  | _ => True

/-- The cached set has the key that the token names exactly when the server
publishes that key now. -/
def CacheCurrent (cache : SdkState) (keys : List SigningKey)
    (token : Except SdkError ParsedToken) : Prop :=
  ∀ jwks parsed, cache.jwksCache = some jwks → token = .ok parsed →
    (NamesKey jwks parsed.kid ↔ ∃ row ∈ keys, row.kid = parsed.kid)

/-- What a verification may find in the cache. -/
def VerifiesCurrent (state : TrackingState) (action : TrackingAction) :
    Prop :=
  match action with
  | .verifyIdToken input bootstrap =>
      ∀ keys, (state.published bootstrap).1 = .ok keys →
        CacheCurrent state.client keys
          (parseToken idTokenErrors input.idToken)
  | .verifyAccessToken token _ bootstrap =>
      ∀ keys, (state.published bootstrap).1 = .ok keys → token ≠ "" →
        CacheCurrent state.verifier keys (parseToken accessTokenErrors token)
  | _ => True

/-! ## A verification -/

theorem fetchJson_of_read
    {fetch : List SdkRequest → SdkRequest → FetchOutcome} {st : SdkState}
    {request : SdkRequest} {json : Json}
    (hread : (fetch st.requests request).read = .ok (.ok json)) :
    fetchJson fetch request st =
      (.ok json, { st with requests := st.requests ++ [request] }) := by
  have hsend : sendRequest fetch request st =
      (.ok (.ok json), { st with requests := st.requests ++ [request] }) := by
    rw [sendRequest, hread]
  rw [fetchJson, bind_ok hsend]
  rfl

theorem cached_of_some {read : SdkState → Option Json}
    {write : Json → SdkState → SdkState} {load : Sdk Json} {st : SdkState}
    {json : Json} (hread : read st = some json)
    (htruthy : isTruthy (some json) = true) :
    cached read write load st = (.ok json, st) := by
  have hobserve : observe read st =
      ((.ok (some json), st) : Except SdkError (Option Json) × SdkState) := by
    rw [observe, hread]
  rw [cached, bind_ok hobserve, Option.filter_some, if_pos htruthy]
  rfl

theorem cached_of_none {read : SdkState → Option Json}
    {write : Json → SdkState → SdkState} {load : Sdk Json}
    {st after : SdkState} {json : Json} (hread : read st = none)
    (hload : load st = (.ok json, after)) :
    cached read write load st = (.ok json, write json after) := by
  have hobserve : observe read st =
      ((.ok none, st) : Except SdkError (Option Json) × SdkState) := by
    rw [observe, hread]
  rw [cached, bind_ok hobserve, Option.filter_none]
  exact bind_ok hload

namespace TrackingEnv

variable {env : TrackingEnv} {keys : List SigningKey}
  {signingKeys : Table SigningKey} {st after : SdkState}

def jwksRequest (env : TrackingEnv) : SdkRequest := ⟨.str env.jwksUri, none⟩

/-- What the keys cached by an instance come from. -/
structure CacheOk (env : TrackingEnv) (signingKeys : Table SigningKey)
    (cache : SdkState) : Prop where
  discovery : cache.discoveryCache = none ∨
    cache.discoveryCache = some env.discovery
  jwks : cache.jwksCache = none ∨ ∃ rows,
    cache.jwksCache = some (jsonWebKeySet env.exportJwk rows) ∧
      ∀ row ∈ rows, KnownKey signingKeys row

/-- A call of the instance: its requests, and what it caches from them. -/
structure Caches (env : TrackingEnv) (keys : List SigningKey)
    (st after : SdkState) : Prop where
  discovery : st.discoveryCache = none ∨
    st.discoveryCache = some env.discovery →
      after.discoveryCache = none ∨ after.discoveryCache = some env.discovery
  requests : ∃ sent, after.requests = st.requests ++ sent ∧
    (after.jwksCache = st.jwksCache ∨
      after.jwksCache = some (jsonWebKeySet env.exportJwk keys) ∧
        env.jwksRequest ∈ sent)

theorem fetchJson_discovery :
    fetchJson (env.fetch keys) (discoveryRequest env.issuer) st =
      (.ok env.discovery,
        { st with
          requests := st.requests ++ [discoveryRequest env.issuer] }) := by
  have hread : env.fetch keys st.requests (discoveryRequest env.issuer) =
      .response 200 (.ok env.discovery) := if_pos rfl
  apply fetchJson_of_read
  rw [hread]
  rfl

theorem fetchJson_jwks :
    fetchJson (env.fetch keys) env.jwksRequest st =
      (.ok (jsonWebKeySet env.exportJwk keys),
        { st with requests := st.requests ++ [env.jwksRequest] }) := by
  have hread : env.fetch keys st.requests env.jwksRequest =
      .response 200 (.ok (jsonWebKeySet env.exportJwk keys)) := by
    have hapart : env.jwksRequest.url ≠ (discoveryRequest env.issuer).url :=
      env.uris_apart
    rw [fetch, if_neg hapart]
    exact if_pos rfl
  apply fetchJson_of_read
  rw [hread]
  rfl

/-- The discovery document, cached or requested. -/
theorem cachedDiscovery_eq (keys : List SigningKey) (hcache : st.discoveryCache = none ∨
    st.discoveryCache = some env.discovery) :
    ∃ after, cachedDiscovery (env.fetch keys) env.issuer st =
        (.ok env.discovery, after) ∧
      after.discoveryCache = some env.discovery ∧
      after.jwksCache = st.jwksCache ∧
      ∃ sent, after.requests = st.requests ++ sent := by
  rcases hcache with hnone | hsome
  · exact ⟨_, cached_of_none hnone fetchJson_discovery, rfl, rfl, _, rfl⟩
  · exact ⟨st, cached_of_some hsome rfl, hsome, rfl, [],
      (List.append_nil _).symm⟩

theorem property_jwksUri (env : TrackingEnv) :
    property env.discovery "jwks_uri" = .ok (some (.str env.jwksUri)) := by
  simp [property, discovery, Json.get?]

theorem discoveredJwks_eq (keys : List SigningKey) (hcache : st.discoveryCache = none ∨
    st.discoveryCache = some env.discovery) :
    ∃ after, discoveredJwks (env.fetch keys)
        (cachedDiscovery (env.fetch keys) env.issuer) st =
        (.ok (jsonWebKeySet env.exportJwk keys), after) ∧
      after.discoveryCache = some env.discovery ∧
      ∃ sent, after.requests = st.requests ++ sent ∧
        env.jwksRequest ∈ sent := by
  obtain ⟨found, hfound, hdiscovery, -, sent, hsent⟩ :=
    cachedDiscovery_eq keys hcache
  have huri : ofExcept (property env.discovery "jwks_uri") found =
      (.ok (some (.str env.jwksUri)), found) := by
    rw [ofExcept, property_jwksUri]
  refine ⟨{ found with requests := found.requests ++ [env.jwksRequest] }, ?_,
    hdiscovery, sent ++ [env.jwksRequest], ?_, ?_⟩
  · rw [discoveredJwks, bind_ok hfound, bind_ok huri]
    exact fetchJson_jwks
  · rw [hsent, List.append_assoc]
  · exact List.mem_append_right sent (List.mem_singleton_self _)

/-- The cached keys, or those that are published. -/
def keysFor (env : TrackingEnv) (keys : List SigningKey) (cache : SdkState) :
    Json :=
  cache.jwksCache.getD (jsonWebKeySet env.exportJwk keys)

theorem cachedJwks_eq {load : Sdk Json} {loaded : SdkState}
    (hcache : env.CacheOk signingKeys st)
    (hload : load st = (.ok (jsonWebKeySet env.exportJwk keys), loaded))
    (hdiscovery : loaded.discoveryCache = none ∨
      loaded.discoveryCache = some env.discovery)
    (hsent : ∃ sent, loaded.requests = st.requests ++ sent ∧
      env.jwksRequest ∈ sent) :
    ∃ after, cachedJwks load st = (.ok (env.keysFor keys st), after) ∧
      env.Caches keys st after := by
  obtain ⟨sent, hrequests, hmem⟩ := hsent
  rcases hcache.jwks with hnone | ⟨rows, hsome, -⟩
  · refine ⟨{ loaded with
        jwksCache := some (jsonWebKeySet env.exportJwk keys) }, ?_,
      fun _ => hdiscovery, sent, hrequests, .inr ⟨rfl, hmem⟩⟩
    rw [keysFor, hnone]
    exact cached_of_none hnone hload
  · refine ⟨st, ?_, id, [], (List.append_nil _).symm, .inl rfl⟩
    rw [keysFor, hsome]
    exact cached_of_some hsome rfl

theorem ofExcept_bind {Value Next : Type} (first : Except SdkError Value)
    (next : Value → Except SdkError Next) :
    (ofExcept first >>= fun value => ofExcept (next value)) =
      ofExcept (first >>= next) := by
  cases first with
  | error error => rfl
  | ok value => rfl

/-- A call that has the discovery document first. -/
theorem Caches.after_found {found : SdkState}
    (hfound : found.discoveryCache = some env.discovery)
    (hjwks : found.jwksCache = st.jwksCache)
    (hsent : ∃ sent, found.requests = st.requests ++ sent)
    (hcaches : env.Caches keys found after) : env.Caches keys st after := by
  obtain ⟨sent, hsent⟩ := hsent
  obtain ⟨more, hmore, hcached⟩ := hcaches.requests
  refine ⟨fun _ => hcaches.discovery (.inr hfound), sent ++ more, ?_, ?_⟩
  · rw [hmore, hsent, List.append_assoc]
  · rcases hcached with hsame | ⟨hnew, hmem⟩
    · exact .inl (hsame.trans hjwks)
    · exact .inr ⟨hnew, List.mem_append_right sent hmem⟩

theorem verifyIdToken_eq (keys : List SigningKey) (now : Instant)
    (input : IdTokenInput) (hcache : env.CacheOk signingKeys st) :
    ∃ after, env.verifyIdToken keys now input st =
        (verdict idTokenErrors
          (checkIdClaims env.numbers env.clientId now env.discovery
            input.nonce)
          env.verifySignature (parseToken idTokenErrors input.idToken)
          (env.keysFor keys st), after) ∧
      env.Caches keys st after := by
  obtain ⟨found, hfound, hdiscovery, hjwks, hsent⟩ :=
    cachedDiscovery_eq keys hcache.discovery
  have hfoundOk : env.CacheOk signingKeys found := by
    refine ⟨.inr hdiscovery, ?_⟩
    rw [hjwks]
    exact hcache.jwks
  obtain ⟨loaded, hload, hloaded, hrequested⟩ :=
    discoveredJwks_eq keys hfoundOk.discovery
  obtain ⟨last, hlast, hcaches⟩ :=
    cachedJwks_eq hfoundOk hload (.inr hloaded) hrequested
  rw [TrackingEnv.verifyIdToken, ServerSdkClient.verifyIdToken]
  cases hparse : parseToken idTokenErrors input.idToken with
  | error error =>
      refine ⟨found, ?_, ⟨fun _ => .inr hdiscovery, ?_⟩⟩
      · exact bind_ok hfound
      · obtain ⟨sent, hsent⟩ := hsent
        exact ⟨sent, hsent, .inl hjwks⟩
  | ok parsed =>
      refine ⟨last, ?_, hcaches.after_found hdiscovery hjwks hsent⟩
      have hkeys : env.keysFor keys found = env.keysFor keys st := by
        rw [keysFor, keysFor, hjwks]
      rw [hkeys] at hlast
      refine (bind_ok hfound).trans ((bind_ok hlast).trans ?_)
      rw [ofExcept_bind]
      rfl

theorem verifierJwks_eq (keys : List SigningKey)
    (hcache : env.CacheOk signingKeys st) :
    ∃ loaded, (match orNull env.verifierJwksUri with
        | some jwksUri => fetchJson (env.fetch keys) ⟨.str jwksUri, none⟩
        | none => discoveredJwks (env.fetch keys)
            (cachedDiscovery (env.fetch keys) env.issuer)) st =
        (.ok (jsonWebKeySet env.exportJwk keys), loaded) ∧
      (loaded.discoveryCache = none ∨
        loaded.discoveryCache = some env.discovery) ∧
      ∃ sent, loaded.requests = st.requests ++ sent ∧
        env.jwksRequest ∈ sent := by
  cases huri : orNull env.verifierJwksUri with
  | none =>
      obtain ⟨loaded, hload, hdiscovery, hsent⟩ :=
        discoveredJwks_eq keys hcache.discovery
      exact ⟨loaded, hload, .inr hdiscovery, hsent⟩
  | some uri =>
      rw [env.verifier_uri uri huri]
      exact ⟨_, fetchJson_jwks, hcache.discovery, _, rfl,
        List.mem_singleton_self _⟩

/-- What the verifier asks of the claims. -/
def accessClaims (env : TrackingEnv) (now : Instant)
    (requiredScopes : List String) (claims : Json) :
    Except SdkError VerifiedServiceAccessToken := do
  JwtVerifier.validateClaims
    { issuer := env.issuer
      audience := env.audience
      jwksUri := env.verifierJwksUri
      clockSkewSeconds := env.clockSkewSeconds
      numbers := env.numbers
      fetch := env.fetch [] }
    now claims
  JwtVerifier.verifiedToken requiredScopes claims

theorem accessClaims_ne_unknownKey (env : TrackingEnv) (now : Instant)
    (requiredScopes : List String) (claims : Json) :
    env.accessClaims now requiredScopes claims ≠
      accessTokenErrors.unknownKey :=
  bind_ne_unknownKey (validateClaims_ne_unknownKey _ _ _) fun _ =>
    verifiedToken_ne_unknownKey _ _

theorem verifyAccessToken_eq (keys : List SigningKey) (now : Instant)
    {token : String} (requiredScopes : List String)
    (hcache : env.CacheOk signingKeys st)
    (htoken : token ≠ "") :
    ∃ after, env.verifyAccessToken keys now token requiredScopes st =
        (verdict accessTokenErrors (env.accessClaims now requiredScopes)
          env.verifySignature (parseToken accessTokenErrors token)
          (env.keysFor keys st), after) ∧
      env.Caches keys st after := by
  obtain ⟨loaded, hload, hloaded, hrequested⟩ :=
    verifierJwks_eq keys hcache
  obtain ⟨last, hlast, hcaches⟩ :=
    cachedJwks_eq hcache hload hloaded hrequested
  rw [TrackingEnv.verifyAccessToken, JwtVerifier.verifyAccessToken,
    if_neg htoken]
  cases hparse : parseToken accessTokenErrors token with
  | error error =>
      exact ⟨st, rfl, ⟨id, [], (List.append_nil _).symm, .inl rfl⟩⟩
  | ok parsed =>
      refine ⟨last, ?_, hcaches⟩
      refine (bind_ok hlast).trans ?_
      rw [ofExcept_bind, ofExcept_bind]
      rfl

theorem CacheOk.later {before : Table SigningKey}
    (hcache : env.CacheOk before st) (hkeeps : KeepsKeys before signingKeys) :
    env.CacheOk signingKeys st := by
  refine ⟨hcache.discovery, ?_⟩
  rcases hcache.jwks with hnone | ⟨rows, hsome, hknown⟩
  · exact .inl hnone
  · exact .inr ⟨rows, hsome, fun row hrow => (hknown row hrow).later hkeeps⟩

theorem cacheOk_fresh (signingKeys : Table SigningKey) : env.CacheOk signingKeys .fresh :=
  ⟨.inl rfl, .inl rfl⟩

end TrackingEnv

/-! ## Runs -/

namespace TrackingState

variable {env : TrackingEnv} {state next : TrackingState}
  {keys : List SigningKey} {bootstrap : KeyDraw} {cache after : SdkState}

/-- Both instances cached what the server has published. -/
structure Ok (env : TrackingEnv) (state : TrackingState) : Prop where
  client : env.CacheOk state.signingKeys state.client
  verifier : env.CacheOk state.signingKeys state.verifier

theorem Ok.later {signingKeys : Table SigningKey} {now : Instant}
    (hok : state.Ok env) (hkeeps : KeepsKeys state.signingKeys signingKeys) :
    Ok env { state with now := now, signingKeys := signingKeys } :=
  ⟨hok.client.later hkeeps, hok.verifier.later hkeeps⟩

theorem keeps_servedKeys : KeepsKeys state.signingKeys
    (state.servedKeys env bootstrap cache after) := by
  rw [servedKeys]
  split
  case isTrue => exact keeps_getPublicJwks state.signingKeys
  case isFalse => exact refl_of KeepsKeys state.signingKeys

/-- The keys of the server's answer are in the store that it leaves. -/
theorem cacheOk_served (hcache : env.CacheOk state.signingKeys cache)
    (hkeys : (state.published bootstrap).1 = .ok keys)
    (hcaches : env.Caches keys cache after) :
    env.CacheOk (state.servedKeys env bootstrap cache after) after := by
  refine ⟨hcaches.discovery hcache.discovery, ?_⟩
  obtain ⟨sent, hsent, hsame | ⟨hnew, hmem⟩⟩ := hcaches.requests
  · rw [hsame]
    exact (hcache.later keeps_servedKeys).jwks
  · refine .inr ⟨keys, hnew, fun row hrow => ?_⟩
    have hdrop : after.requests.drop cache.requests.length = sent := by
      rw [hsent, List.drop_left]
    have hserved : state.servedKeys env bootstrap cache after =
        (state.published bootstrap).2 := by
      rw [servedKeys, hdrop]
      exact if_pos hmem
    rw [hserved]
    exact ⟨row, mem_of_getPublicJwks hkeys row hrow, rfl, rfl, rfl⟩

theorem ok_initial (now : Instant) (signingKeys : Table SigningKey) :
    Ok env (.initial now signingKeys) :=
  ⟨TrackingEnv.cacheOk_fresh signingKeys,
    TrackingEnv.cacheOk_fresh signingKeys⟩

theorem Ok.step {action : TrackingAction} (hok : state.Ok env)
    (hstep : state.step env action = some next) : next.Ok env := by
  cases action with
  | rotateIfDue bootstrap draw =>
      cases hstep
      exact hok.later (keeps_rotateIfDue state.signingKeys)
  | rotateManual actorUserId bootstrap draw =>
      cases hstep
      exact hok.later (keeps_rotateNow state.signingKeys)
  | rotateEmergency actorUserId bootstrap draw =>
      cases hstep
      exact hok.later (keeps_rotateNow state.signingKeys)
  | tick now =>
      obtain ⟨-, hnext⟩ := Option.ite_none_right_eq_some.mp hstep
      cases hnext
      exact hok.later (refl_of KeepsKeys state.signingKeys)
  | verifyIdToken input bootstrap =>
      rw [TrackingState.step] at hstep
      split at hstep
      case h_1 => cases hstep
      case h_2 keys hkeys =>
          cases hstep
          obtain ⟨after, hrun, hcaches⟩ := TrackingEnv.verifyIdToken_eq
            keys state.now input hok.client
          rw [hrun]
          exact ⟨cacheOk_served hok.client hkeys hcaches,
            hok.verifier.later keeps_servedKeys⟩
  | verifyAccessToken token requiredScopes bootstrap =>
      rw [TrackingState.step] at hstep
      split at hstep
      case h_1 => cases hstep
      case h_2 keys hkeys =>
          cases hstep
          by_cases htoken : token = ""
          · have hsame : (env.verifyAccessToken keys state.now token
                requiredScopes state.verifier).2 = state.verifier := by
              rw [TrackingEnv.verifyAccessToken,
                JwtVerifier.verifyAccessToken, if_pos htoken]
              rfl
            rw [hsame]
            exact ⟨hok.client.later keeps_servedKeys,
              hok.verifier.later keeps_servedKeys⟩
          · obtain ⟨after, hrun, hcaches⟩ := TrackingEnv.verifyAccessToken_eq
              keys state.now requiredScopes hok.verifier htoken
            rw [hrun]
            exact ⟨hok.client.later keeps_servedKeys,
              cacheOk_served hok.verifier hkeys hcaches⟩

/-- A cache matters for the keys of a token only. -/
theorem verdict_keysFor_iff {Value : Type} {errors : TokenErrors}
    {rest : Json → Except SdkError Value}
    {token : Except SdkError ParsedToken}
    (hsignature : errors.signature ≠ "Signing key not found")
    (hrest : ∀ claims, rest claims ≠ errors.unknownKey)
    (hcache : env.CacheOk state.signingKeys cache)
    (hkeys : (state.published bootstrap).1 = .ok keys) :
    verdict errors rest env.verifySignature token (env.keysFor keys cache) =
        verdict errors rest env.verifySignature token
          (env.keysFor keys .fresh) ↔
      CacheCurrent cache keys token := by
  have hpublished : ∀ row ∈ keys, KnownKey (state.published bootstrap).2 row :=
    fun row hrow =>
      ⟨row, mem_of_getPublicJwks hkeys row hrow, rfl, rfl, rfl⟩
  change _ = verdict errors rest env.verifySignature token
    (jsonWebKeySet env.exportJwk keys) ↔ _
  rcases hcache.jwks with hnone | ⟨rows, hsome, hknown⟩
  · rw [TrackingEnv.keysFor, hnone]
    refine iff_of_true rfl ?_
    intro jwks parsed hjwks
    rw [hnone] at hjwks
    cases hjwks
  · have hkept : ∀ row ∈ rows, KnownKey (state.published bootstrap).2 row :=
      fun row hrow =>
        (hknown row hrow).later (keeps_getPublicJwks state.signingKeys)
    rw [TrackingEnv.keysFor, hsome, Option.getD_some,
      verdict_eq_iff hsignature hrest hkept hpublished]
    constructor
    · intro hsame jwks parsed hjwks hparsed
      rw [hsome] at hjwks
      cases hjwks
      rw [namesKey_iff]
      exact hsame parsed hparsed
    · intro hcurrent parsed hparsed
      rw [← namesKey_iff env.exportJwk]
      exact hcurrent _ parsed hsome hparsed

theorem sameVerdict_iff {action : TrackingAction} (hok : state.Ok env) :
    SameVerdict env state action ↔ VerifiesCurrent state action := by
  cases action with
  | rotateIfDue bootstrap draw => exact Iff.rfl
  | rotateManual actorUserId bootstrap draw => exact Iff.rfl
  | rotateEmergency actorUserId bootstrap draw => exact Iff.rfl
  | tick now => exact Iff.rfl
  | verifyIdToken input bootstrap =>
      apply forall_congr'
      intro keys
      apply imp_congr_right
      intro hkeys
      obtain ⟨after, hrun, -⟩ :=
        TrackingEnv.verifyIdToken_eq keys state.now input hok.client
      obtain ⟨afresh, hfresh, -⟩ :=
        TrackingEnv.verifyIdToken_eq keys state.now input
          (TrackingEnv.cacheOk_fresh state.signingKeys)
      rw [hrun, hfresh]
      exact verdict_keysFor_iff (by decide) (checkIdClaims_ne_unknownKey _ _ _ _ _)
        hok.client hkeys
  | verifyAccessToken token requiredScopes bootstrap =>
      apply forall_congr'
      intro keys
      apply imp_congr_right
      intro hkeys
      by_cases htoken : token = ""
      · refine iff_of_true ?_ (fun hne => absurd htoken hne)
        rw [TrackingEnv.verifyAccessToken, JwtVerifier.verifyAccessToken,
          if_pos htoken]
        rfl
      · obtain ⟨after, hrun, -⟩ :=
          TrackingEnv.verifyAccessToken_eq keys state.now requiredScopes
            hok.verifier htoken
        obtain ⟨afresh, hfresh, -⟩ :=
          TrackingEnv.verifyAccessToken_eq keys state.now requiredScopes
            (TrackingEnv.cacheOk_fresh state.signingKeys) htoken
        rw [hrun, hfresh]
        refine Iff.trans ?_ (forall_prop_of_true htoken).symm
        exact verdict_keysFor_iff (by decide)
          (env.accessClaims_ne_unknownKey _ _) hok.verifier hkeys

end TrackingState

namespace TrackingWitness

/-- Signatures of the first key only. -/
def env : TrackingEnv where
  keyOptions := KeyWitness.options
  exportJwk := fun pem => [("kty", .str "RSA"), ("n", .str pem)]
  issuer := "https://id.example"
  metadata := []
  documentIssuer := "https://id.example"
  jwksUri := "https://id.example/jwks"
  clientId := "app"
  clientSecret := "secret"
  audience := "api"
  verifierJwksUri := none
  clockSkewSeconds := 60
  numbers := .ofTexts
  verifySignature := fun jwk _ signature =>
    .ok (decide (jwk.get? "kid" = some (.str KeyWitness.first.kid) ∧
      signature = Utf8.encode "first".toList))
  uris_apart := by decide
  verifier_uri := nofun

def token : String :=
  "eyJhbGciOiJSUzI1NiIsImtpZCI6IjBiNGEyYTU1LTZmMGUtNGEzOC1h" ++
    "N2E1LTFjN2QxZjJmOWEwMSJ9" ++
    "." ++
    "eyJpc3MiOiJodHRwczovL2lkLmV4YW1wbGUiLCJhdWQiOiJhcHAiLCJl" ++
    "eHAiOjE3NzcyMDg0MDAsInN1YiI6InVzZXItMSJ9" ++
    ".Zmlyc3Q"

/-- The key of the token is revoked between two verifications of it. -/
def actions : List TrackingAction :=
  [.verifyIdToken ⟨token, none⟩ KeyWitness.first,
    .rotateEmergency none KeyWitness.first KeyWitness.second,
    .verifyIdToken ⟨token, none⟩ KeyWitness.first]

def revoked : TrackingState :=
  StepSystem.after (TrackingState.step env)
    (.initial 1777204800000 .empty) (actions.take 2)

def published : List SigningKey :=
  [KeyWitness.second.nextKey ⟨.emergency, none⟩ KeyWitness.first.kid
    1777204800000]

end TrackingWitness

end IdProvider
