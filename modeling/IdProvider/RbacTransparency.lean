/-
When the cache in front of the access checks cannot be noticed.
-/
import IdProvider.LookupCache
import IdProvider.Rbac

namespace IdProvider

open JsonText KeyedTable

namespace RbacService

/-! ## The two checks as one lookup -/

def Check.userId : Check → String
  | .authorization input => input.userId
  | .entitlement input => input.userId

def Check.cacheKey : Check → String
  | .authorization input => buildAuthorizationCacheKey input
  | .entitlement input => buildEntitlementCacheKey input

section Lookup

variable (runtime : NumberRuntime) (options : RbacOptions) (db : RbacDb)
  (now : Instant)

def Check.decision : Check → Option Decision
  | .authorization input => decideAuthorization options db input
  | .entitlement input => decideEntitlement runtime options db now input

theorem check_eq (cache : RbacCache) (call : Check) :
    check runtime options db now cache call =
      throughCache runtime options now cache call.userId call.cacheKey
        (call.decision runtime options db now) := by
  cases call with
  | authorization input => rfl
  | entitlement input => rfl

/-! ### Results are objects that settle after one printing -/

structure Decision.Stored (decision : Decision) : Prop where
  object : ∃ fields, decision.result = .obj fields
  settles : Settles runtime decision.result
  lifetime : 0 < decision.ttlSeconds

theorem stable_limit (json : Json) :
    JsNumber.Stable runtime (limitOf runtime (readJson runtime json)) := by
  cases json with
  | obj fields =>
      rw [readJson, limitOf, readFields_eq_map]
      cases hfind : (enumerated (fields.map fun field =>
        (field.1, readJson runtime field.2))).find? fun field =>
          field.1 == "limit" with
      | none => exact stable_infinite false
      | some field =>
          have hfield := mem_enumerated.mp (List.mem_of_find?_eq_some hfind)
          obtain ⟨source, -, rfl⟩ := List.mem_map.mp hfield
          exact stable_toNumber source.2
  | null => exact stable_infinite false
  | bool value => exact stable_infinite false
  | num text => exact stable_infinite false
  | str text => exact stable_infinite false
  | arr items => exact stable_infinite false

theorem settles_limit (json : Json) :
    Settles runtime (.number (limitOf runtime (readJson runtime json))) :=
  settles_number runtime (stable_limit runtime json)

theorem decideAuthorization_stored {input : AuthorizationInput}
    {decision : Decision}
    (hdecide : decideAuthorization options db input = some decision) :
    decision.Stored runtime := by
  rw [decideAuthorization, Option.map_eq_some_iff] at hdecide
  obtain ⟨permissions, -, rfl⟩ := hdecide
  have hsource : Settles runtime
      (if permits permissions input then .str "rbac" else .null) := by
    split
    · exact settles_str runtime _
    · exact settles_null runtime
  refine ⟨⟨_, rfl⟩, ?_, ?_⟩
  · apply SettledFields.settles
    exact .cons runtime (by decide) (settles_bool runtime _)
      (.cons runtime (by decide) (settles_str runtime _)
        (.cons runtime (by decide) hsource (settledFields_nil runtime)))
  · dsimp only
    split
    · exact options.authTtl_pos
    · exact options.negativeTtl_pos

theorem decideEntitlement_stored {input : EntitlementInput}
    {decision : Decision}
    (hdecide : decideEntitlement runtime options db now input =
      some decision) : decision.Stored runtime := by
  rw [decideEntitlement, Option.map_eq_some_iff] at hdecide
  obtain ⟨resolved, -, rfl⟩ := hdecide
  cases resolved with
  | none =>
      refine ⟨⟨_, rfl⟩, ?_, options.negativeTtl_pos⟩
      apply SettledFields.settles
      exact .cons runtime (by decide) (settles_bool runtime _)
        (.cons runtime (by decide) (settles_str runtime _)
          (settledFields_nil runtime))
  | some resolved =>
      dsimp only
      split
      · refine ⟨⟨_, rfl⟩, ?_, options.negativeTtl_pos⟩
        apply SettledFields.settles
        exact .cons runtime (by decide) (settles_bool runtime _)
          (.cons runtime (by decide) (settles_str runtime _)
            (.cons runtime (by decide) (settles_limit runtime _)
              (settledFields_nil runtime)))
      · refine ⟨⟨_, rfl⟩, ?_, options.entitlementTtl_pos⟩
        apply SettledFields.settles
        exact .cons runtime (by decide) (settles_bool runtime _)
          (.cons runtime (by decide) (settles_readJson runtime _)
            (.cons runtime (by decide) (settles_str runtime _)
              (settledFields_nil runtime)))

theorem decision_stored {call : Check} {decision : Decision}
    (hdecide : call.decision runtime options db now = some decision) :
    decision.Stored runtime := by
  cases call with
  | authorization input =>
      exact decideAuthorization_stored runtime options db hdecide
  | entitlement input =>
      exact decideEntitlement_stored runtime options db now hdecide

/-! ### The cache as a store of values -/

/-- What the cache gives back of a result. -/
def afterCache (result : JsValue) : JsValue :=
  (reread runtime result).getD .null

def Check.result (call : Check) : Option JsValue :=
  (call.decision runtime options db now).map Decision.result

theorem Decision.Stored.reread {decision : Decision}
    (hstored : decision.Stored runtime) :
    IdProvider.reread runtime decision.result =
      some (afterCache runtime decision.result) := by
  obtain ⟨json, hprint, -⟩ := hstored.settles
  rw [afterCache, reread_eq runtime hprint, Option.getD_some]

def lookupService : LookupCache.Service Check String JsValue where
  cached call := shouldUseCache options call.userId
  key := Check.cacheKey
  compute := Check.result runtime options db now
  reread := afterCache runtime
  reread_reread := by
    intro call result hresult
    rw [Check.result, Option.map_eq_some_iff] at hresult
    obtain ⟨decision, hdecide, rfl⟩ := hresult
    have hstored := decision_stored runtime options db now hdecide
    have hagain := hstored.settles.reread_reread runtime (hstored.reread runtime)
    rw [afterCache, hagain, Option.getD_some]

/-- What a lookup finds, as a value. -/
def view (cache : RbacCache) : LookupCache.Store String JsValue :=
  fun key => (cache.get runtime now key).filter truthy

theorem view_set (cache : RbacCache) (key : String) {decision : Decision}
    (hstored : decision.Stored runtime) :
    view runtime now
        (cache.set now key decision.result decision.ttlSeconds) =
      (view runtime now cache).put key
        (afterCache runtime decision.result) := by
  obtain ⟨json, hprint, -⟩ := hstored.settles
  obtain ⟨fields, hobject⟩ := hstored.object
  have hlive : now < now + decision.ttlSeconds * 1000 := by
    apply Int.lt_add_of_pos_right
    exact Int.mul_pos (Int.natCast_pos.mpr hstored.lifetime) (by decide)
  have htext : json.render ≠ [] := by
    obtain ⟨c, cs, hrender, -⟩ := Json.render_cons json
    rw [hrender]
    exact List.cons_ne_nil c cs
  have hafter : afterCache runtime decision.result =
      readJson runtime json := by
    rw [afterCache, reread_eq runtime hprint, Option.getD_some]
  have htruthy : truthy (readJson runtime json) = true := by
    rw [hobject, JsValue.toJson?, Option.some.injEq] at hprint
    rw [← hprint]
    rfl
  funext other
  by_cases hother : other = key
  · rw [hother, LookupCache.Store.put_self, hafter]
    simp only [view, RbacCache.get, RbacCache.set, hprint, if_true]
    rw [if_pos ⟨hlive, htext⟩, parse_render, Option.map_some,
      Option.filter_some, if_pos htruthy]
  · rw [LookupCache.Store.put_of_ne _ hother]
    simp only [view, RbacCache.get, RbacCache.set, hprint, if_neg hother]

theorem check_answer (cache : RbacCache) (call : Check) :
    (check runtime options db now cache call).1 =
        (LookupCache.answer (lookupService runtime options db now)
          (view runtime now cache) call).1 ∧
      view runtime now (check runtime options db now cache call).2 =
        (LookupCache.answer (lookupService runtime options db now)
          (view runtime now cache) call).2 := by
  rw [check_eq]
  by_cases hcached : shouldUseCache options call.userId = true
  · have hservice : (lookupService runtime options db now).cached call =
        true := hcached
    unfold throughCache
    rw [if_pos hcached, LookupCache.answer, if_pos hservice]
    cases hfind : (cache.get runtime now call.cacheKey).filter truthy with
    | some value =>
        have hview : view runtime now cache
            ((lookupService runtime options db now).key call) = some value :=
          hfind
        rw [hview]
        exact ⟨rfl, rfl⟩
    | none =>
        have hview : view runtime now cache
            ((lookupService runtime options db now).key call) = none := hfind
        rw [hview]
        cases hdecide : call.decision runtime options db now with
        | none =>
            have hcompute : (lookupService runtime options db now).compute
                call = none := congrArg (Option.map Decision.result) hdecide
            rw [hcompute]
            exact ⟨rfl, rfl⟩
        | some decision =>
            have hcompute : (lookupService runtime options db now).compute
                call = some decision.result :=
              congrArg (Option.map Decision.result) hdecide
            rw [hcompute]
            exact ⟨rfl, view_set runtime now cache _
              (decision_stored runtime options db now hdecide)⟩
  · have hservice : ¬ (lookupService runtime options db now).cached call =
        true := hcached
    unfold throughCache
    rw [if_neg hcached, LookupCache.answer, if_neg hservice]
    exact ⟨rfl, rfl⟩

theorem checks_eq_answers (cache : RbacCache) (calls : List Check) :
    checks runtime options db now cache calls =
      LookupCache.answers (lookupService runtime options db now)
        (view runtime now cache) calls := by
  induction calls generalizing cache with
  | nil => rfl
  | cons call calls ih =>
      obtain ⟨hanswer, hview⟩ := check_answer runtime options db now cache call
      rw [checks, LookupCache.answers, ih, hanswer, hview]

/-- With the cache disabled every call decides for itself. -/
theorem checks_of_disabled (cache : RbacCache) (calls : List Check) :
    checks runtime { options with cacheEnabled := false } db now cache calls =
      calls.map (Check.result runtime options db now) := by
  induction calls generalizing cache with
  | nil => rfl
  | cons call calls ih =>
      have hcheck : check runtime { options with cacheEnabled := false } db now
          cache call = (call.result runtime options db now, cache) := by
        cases call with
        | authorization input => rfl
        | entitlement input => rfl
      rw [checks, hcheck, ih, List.map_cons]

end Lookup

/-! ## Decisions that agree -/

/-- The later call decides what the earlier one did. -/
def AuthorizationAgrees (db : RbacDb) (earlier later : AuthorizationInput) :
    Prop :=
  ∀ permissions, RbacRepository.listPermissionKeys db earlier.userId
      earlier.organizationId earlier.groupId = some permissions →
    ∃ others, RbacRepository.listPermissionKeys db later.userId
        later.organizationId later.groupId = some others ∧
      requiredPermission later = requiredPermission earlier ∧
      permits others later = permits permissions earlier

section Agreement

variable (runtime : NumberRuntime) (db : RbacDb) (now : Instant)

/-- The limits are one finite number, or the value survives its JSON text. -/
def ResolvedAgrees (earlier later : EntitlementInput) :
    Option RbacRepository.Resolved → Option RbacRepository.Resolved → Prop
  | none, none => True
  | some first, some second =>
      let value := readJson runtime first.value
      let other := readJson runtime second.value
      if overLimit runtime earlier.quantity value then
        overLimit runtime later.quantity other = true ∧
          (∃ limit, limitOf runtime value = .finite limit) ∧
          limitOf runtime other = limitOf runtime value
      else
        overLimit runtime later.quantity other = false ∧
          reread runtime value = some other ∧ second.scope = first.scope
  | none, some _ => False
  | some _, none => False

def EntitlementAgrees (earlier later : EntitlementInput) : Prop :=
  ∀ resolved, findLimited runtime db now earlier = some resolved →
    ∃ other, findLimited runtime db now later = some other ∧
      ResolvedAgrees runtime earlier later resolved other

def Agrees : Check → Check → Prop
  | .authorization earlier, .authorization later =>
      AuthorizationAgrees db earlier later
  | .entitlement earlier, .entitlement later =>
      EntitlementAgrees runtime db now earlier later
  | _, _ => True

/-- Two calls for cached users under one key agree. -/
def KeyDetermines (options : RbacOptions) (earlier later : Check) : Prop :=
  shouldUseCache options earlier.userId = true →
    shouldUseCache options later.userId = true →
      earlier.cacheKey = later.cacheKey → Agrees runtime db now earlier later

/-! ### Results -/

theorem afterCache_obj {fields : List (String × JsValue)}
    {printed : List (String × Json)}
    (hprint : JsValue.toJsonFields fields = printed)
    (hnamed : ∀ name ∈ printed.map Prod.fst, arrayIndex? name = none) :
    afterCache runtime (.obj fields) =
      .obj (printed.map fun field => (field.1, readJson runtime field.2)) := by
  rw [List.forall_mem_map] at hnamed
  have hjson : (JsValue.obj fields).toJson? = some (.obj printed) := by
    rw [JsValue.toJson?, hprint]
  rw [afterCache, reread_eq runtime hjson, Option.getD_some, readJson,
    readFields_eq_map, enumerated_map, enumerated_of_named hnamed]

def authorizationResult (permissions : List String)
    (input : AuthorizationInput) : JsValue :=
  .obj
    [("allowed", .bool (permits permissions input)),
      ("permissionKey", .str (requiredPermission input)),
      ("source", if permits permissions input then .str "rbac" else .null)]

theorem result_authorization (options : RbacOptions)
    (input : AuthorizationInput) :
    (Check.authorization input).result runtime options db now =
      (RbacRepository.listPermissionKeys db input.userId input.organizationId
        input.groupId).map fun permissions =>
          authorizationResult permissions input :=
  Option.map_map ..

theorem afterCache_authorizationResult (permissions : List String)
    (input : AuthorizationInput) :
    afterCache runtime (authorizationResult permissions input) =
      authorizationResult permissions input := by
  unfold authorizationResult
  have hnamed : ∀ name ∈ ["allowed", "permissionKey", "source"],
      arrayIndex? name = none := by decide
  cases permits permissions input with
  | true => exact afterCache_obj runtime rfl hnamed
  | false => exact afterCache_obj runtime rfl hnamed

theorem authorizationResult_inj {permissions others : List String}
    {earlier later : AuthorizationInput} :
    authorizationResult others later = authorizationResult permissions earlier ↔
      requiredPermission later = requiredPermission earlier ∧
        permits others later = permits permissions earlier := by
  unfold authorizationResult
  constructor
  · intro heq
    simp only [JsValue.obj.injEq, List.cons.injEq, Prod.mk.injEq,
      JsValue.bool.injEq, JsValue.str.injEq, true_and] at heq
    exact ⟨heq.2.1, heq.1⟩
  · rintro ⟨hkey, hallowed⟩
    rw [hkey, hallowed]

def notEntitled : JsValue :=
  .obj [("allowed", .bool false), ("reason", .str "not_entitled")]

def limitExceeded (limit : JsNumber) : JsValue :=
  .obj
    [("allowed", .bool false),
      ("reason", .str "limit_exceeded"),
      ("limit", .number limit)]

def entitled (value : JsValue) (scope : String) : JsValue :=
  .obj
    [("allowed", .bool true),
      ("value", value),
      ("scope", .str scope)]

def entitlementResult (input : EntitlementInput) :
    Option RbacRepository.Resolved → JsValue
  | none => notEntitled
  | some resolved =>
      let value := readJson runtime resolved.value
      if overLimit runtime input.quantity value then
        limitExceeded (limitOf runtime value)
      else entitled value resolved.scope

theorem result_entitlement (options : RbacOptions) (input : EntitlementInput) :
    (Check.entitlement input).result runtime options db now =
      (findLimited runtime db now input).map
        (entitlementResult runtime input) := by
  rw [Check.result, Check.decision, decideEntitlement, Option.map_map]
  congr 1
  funext resolved
  cases resolved with
  | none => rfl
  | some resolved =>
      dsimp only [Function.comp, entitlementResult]
      split
      · rfl
      · rfl

theorem afterCache_notEntitled :
    afterCache runtime notEntitled = notEntitled :=
  afterCache_obj runtime rfl
    (show ∀ name ∈ ["allowed", "reason"], arrayIndex? name = none by decide)

theorem afterCache_limitExceeded (limit : JsNumber) :
    afterCache runtime (limitExceeded limit) =
      .obj
        [("allowed", .bool false),
          ("reason", .str "limit_exceeded"),
          ("limit", readJson runtime limit.toJson)] :=
  afterCache_obj runtime rfl
    (show ∀ name ∈ ["allowed", "reason", "limit"],
      arrayIndex? name = none by decide)

theorem afterCache_entitled (json : Json) (scope : String) :
    afterCache runtime (entitled (readJson runtime json) scope) =
      entitled (readJson runtime (reprint runtime json)) scope := by
  have hprint : JsValue.toJsonFields
      [("allowed", .bool true), ("value", readJson runtime json),
        ("scope", .str scope)] =
      [("allowed", .bool true), ("value", reprint runtime json),
        ("scope", .str scope)] := by
    simp only [JsValue.toJsonFields, JsValue.toJson?, toJson?_readJson]
  exact afterCache_obj runtime hprint
    (show ∀ name ∈ ["allowed", "value", "scope"],
      arrayIndex? name = none by decide)

/-- A limit survives the cache when it is finite. -/
theorem readJson_limit_iff (json : Json) (other : JsNumber) :
    .number other =
        readJson runtime (limitOf runtime (readJson runtime json)).toJson ↔
      (∃ limit, limitOf runtime (readJson runtime json) = .finite limit) ∧
        other = limitOf runtime (readJson runtime json) := by
  have hstable := stable_limit runtime json
  cases hlimit : limitOf runtime (readJson runtime json) with
  | finite limit =>
      simp [JsNumber.toJson, readJson, hstable limit hlimit]
  | nan => simp [JsNumber.toJson, readJson]
  | infinite negative => simp [JsNumber.toJson, readJson]

theorem resolvedAgrees_iff (earlier later : EntitlementInput)
    (resolved other : Option RbacRepository.Resolved) :
    entitlementResult runtime later other =
        afterCache runtime (entitlementResult runtime earlier resolved) ↔
      ResolvedAgrees runtime earlier later resolved other := by
  cases resolved with
  | none =>
      rw [entitlementResult, afterCache_notEntitled]
      cases other with
      | none => exact iff_of_true rfl trivial
      | some second =>
          rw [entitlementResult, ResolvedAgrees]
          split <;> simp [notEntitled, limitExceeded, entitled]
  | some first =>
      cases other with
      | none =>
          rw [ResolvedAgrees, entitlementResult, entitlementResult]
          split
          · rw [afterCache_limitExceeded]
            simp [notEntitled]
          · rw [afterCache_entitled]
            simp [notEntitled, entitled]
      | some second =>
          rw [ResolvedAgrees, entitlementResult, entitlementResult]
          by_cases hfirst : overLimit runtime earlier.quantity
              (readJson runtime first.value) = true
          · rw [if_pos hfirst, if_pos hfirst, afterCache_limitExceeded]
            by_cases hsecond : overLimit runtime later.quantity
                (readJson runtime second.value) = true
            · rw [if_pos hsecond, ← readJson_limit_iff, and_iff_right hsecond]
              simp [limitExceeded]
            · rw [if_neg hsecond]
              simp [entitled, hsecond]
          · rw [if_neg hfirst, if_neg hfirst, afterCache_entitled,
              reread_readJson, Option.some.injEq]
            by_cases hsecond : overLimit runtime later.quantity
                (readJson runtime second.value) = true
            · rw [if_pos hsecond]
              simp [limitExceeded, entitled, hsecond]
            · rw [if_neg hsecond]
              simp [entitled, hsecond, eq_comm]

/-! ### Keys -/

theorem cacheKey_ne (first : AuthorizationInput) (second : EntitlementInput) :
    buildAuthorizationCacheKey first ≠ buildEntitlementCacheKey second := by
  intro heq
  have hchars := congrArg (fun key : String => key.toList[8]?) heq
  simp [buildAuthorizationCacheKey, buildEntitlementCacheKey] at hchars

/-- Results that are made from what a lookup found, if it did not throw. -/
theorem forall_map_eq_some {Found Value : Type} {first second : Option Found}
    {make remake : Found → Value} {after : Value → Value} :
    (∀ value, first.map make = some value →
        second.map remake = some (after value)) ↔
      ∀ found, first = some found →
        ∃ other, second = some other ∧ remake other = after (make found) := by
  constructor
  · intro hall found hfirst
    have hsecond := hall (make found) (by rw [hfirst, Option.map_some])
    exact Option.map_eq_some_iff.mp hsecond
  · intro hall value hfirst
    obtain ⟨found, hfound, rfl⟩ := Option.map_eq_some_iff.mp hfirst
    exact Option.map_eq_some_iff.mpr (hall found hfound)

theorem agrees_authorization_iff (options : RbacOptions)
    (earlier later : AuthorizationInput) :
    (∀ value, (Check.authorization earlier).result runtime options db now =
        some value → (Check.authorization later).result runtime options db now =
          some (afterCache runtime value)) ↔
      AuthorizationAgrees db earlier later := by
  rw [result_authorization, result_authorization, forall_map_eq_some]
  simp only [afterCache_authorizationResult, authorizationResult_inj]
  rfl

theorem agrees_entitlement_iff (options : RbacOptions)
    (earlier later : EntitlementInput) :
    (∀ value, (Check.entitlement earlier).result runtime options db now =
        some value → (Check.entitlement later).result runtime options db now =
          some (afterCache runtime value)) ↔
      EntitlementAgrees runtime db now earlier later := by
  rw [result_entitlement, result_entitlement, forall_map_eq_some]
  simp only [resolvedAgrees_iff]
  rfl

theorem agrees_iff (options : RbacOptions) (earlier later : Check) :
    LookupCache.Agrees (lookupService runtime options db now) earlier later ↔
      KeyDetermines runtime db now options earlier later := by
  apply imp_congr_right
  intro _
  apply imp_congr_right
  intro _
  apply imp_congr_right
  intro hkey
  cases earlier with
  | authorization earlier =>
      cases later with
      | authorization later =>
          exact agrees_authorization_iff runtime db now options earlier later
      | entitlement later => exact absurd hkey (cacheKey_ne earlier later)
  | entitlement earlier =>
      cases later with
      | authorization later => exact absurd hkey.symm (cacheKey_ne later earlier)
      | entitlement later =>
          exact agrees_entitlement_iff runtime db now options earlier later

theorem checks_transparent_iff (options : RbacOptions) (calls : List Check) :
    checks runtime options db now RbacCache.empty calls =
        checks runtime { options with cacheEnabled := false } db now
          RbacCache.empty calls ↔
      calls.Pairwise (KeyDetermines runtime db now options) := by
  have hempty : view runtime now RbacCache.empty = LookupCache.Store.empty :=
    rfl
  rw [checks_of_disabled, checks_eq_answers, hempty]
  refine (LookupCache.answers_eq_iff calls).trans ?_
  apply iff_of_eq
  congr 1
  funext earlier later
  exact propext (agrees_iff runtime db now options earlier later)

end Agreement

end RbacService

/-! ## Two actions under one key -/

namespace RbacWitness

open RbacService

/-- Doubles that are given by their texts. -/
def runtime : NumberRuntime := .ofTexts

def options : RbacOptions where
  cacheEnabled := true
  cachePercent := 100
  authTtlSeconds := 30
  entitlementTtlSeconds := 60
  negativeTtlSeconds := 15
  authTtl_pos := by decide
  entitlementTtl_pos := by decide
  negativeTtl_pos := by decide

def userId : String := "a0eebc99-9c0b-4ef8-bb6d-6bb9bd380a11"

/-- The user may read documents. -/
def db : RbacDb where
  permissions := ⟨[⟨"permission-1", "document:read"⟩], by simp⟩
  rolePermissions := ⟨[⟨"role-1", "permission-1"⟩], by simp⟩
  userRoles := ⟨[⟨userId, "role-1"⟩], by simp⟩
  groups := .empty
  groupMemberships := .empty
  groupRoles := .empty
  entitlements := .empty

def reading (action : String) : Check :=
  .authorization ⟨userId, action, "document", none, none⟩

def isAllowed : Option JsValue → Bool
  | some (.obj (("allowed", .bool allowed) :: _)) => allowed
  | _ => false

/-- The denial of the first action answers for the second one. -/
theorem not_checks_transparent :
    ¬ ∀ runtime options db now calls,
      checks runtime options db now RbacCache.empty calls =
        checks runtime { options with cacheEnabled := false } db now
          RbacCache.empty calls := by
  intro hclaim
  have heq := hclaim runtime options db 0 [reading " read", reading "read"]
  have hcached : (checks runtime options db 0 RbacCache.empty
      [reading " read", reading "read"]).map isAllowed = [false, false] := by
    decide +kernel
  have huncached : (checks runtime { options with cacheEnabled := false } db 0
      RbacCache.empty [reading " read", reading "read"]).map isAllowed =
      [false, true] := by decide +kernel
  rw [heq, huncached] at hcached
  cases hcached

end RbacWitness

end IdProvider
