/-
The access checks of `@idp/auth-core`, next to those of the server: the states
in which the two reach the same decisions.
-/
import IdProvider.Entitlements

namespace IdProvider

open JsonText KeyedTable ScopedLookup

/-! ## Tables -/

/-- The queries read nothing but the id. -/
structure Organization where
  id : String
  deriving DecidableEq

instance : Keyed Organization String := ⟨Organization.id⟩

/-- The grant tables with the organizations that entitlements refer to. -/
structure AuthCoreDb extends RbacDb where
  organizations : Table Organization
  organization_stored : ∀ row ∈ entitlements, ∀ id,
    row.organizationId = some id →
      ∃ organization ∈ organizations, organization.id = id

/-! ## `AuthService` -/

namespace AuthCore

structure AuthorizationDecision where
  allowed : Bool
  permissionKey : String
  source : String

structure EntitlementDecision where
  granted : Bool
  key : String
  source : String
  value : Option JsValue
  reason : String

structure Resolved where
  value : JsValue
  scope : EntitlementScope

/-- The same queries as those of `RBACRepository`. -/
def listPermissionKeys (db : AuthCoreDb) (userId : String)
    (organizationId groupId : Option String) : Option (List String) :=
  RbacRepository.listPermissionKeys db.toRbacDb userId organizationId groupId

def permissionKey (input : AuthorizationInput) : String :=
  input.resource ++ ":" ++ input.action

/-- Empty ids are left out of the context. -/
def authorizationCheck (db : AuthCoreDb) (input : AuthorizationInput) :
    Option AuthorizationDecision :=
  (listPermissionKeys db input.userId (orNull input.organizationId)
    (orNull input.groupId)).map fun permissionKeys =>
      if permissionKeys.contains (permissionKey input) then
        ⟨true, permissionKey input, "role"⟩
      else ⟨false, permissionKey input, "none"⟩

theorem map_allowed_authorizationCheck (db : AuthCoreDb)
    (input : AuthorizationInput) :
    (authorizationCheck db input).map AuthorizationDecision.allowed =
      (listPermissionKeys db input.userId (orNull input.organizationId)
        (orNull input.groupId)).map fun permissionKeys =>
          permissionKeys.contains (permissionKey input) := by
  rw [authorizationCheck, Option.map_map]
  congr 1
  funext permissionKeys
  rw [Function.comp_apply]
  cases permissionKeys.contains (permissionKey input) with
  | true => rfl
  | false => rfl

def isEntitlementActive (now : Instant) (expiresAt : Option Timestamp) :
    Bool :=
  expiresAt.all fun expiresAt => decide (now < expiresAt.toInstant)

def normalizeEntitlementValue (value : JsValue) : JsValue :=
  RbacService.normalizeEntitlementValue value

section Resolving

variable (runtime : NumberRuntime) (db : AuthCoreDb) (now : Instant)
  (recheck : EntitlementScope → Instant) (key : String)

/-- The row of a scope is checked once more, by a clock that is read again. -/
def isStillActive (scope : EntitlementScope) (row : Entitlement) : Bool :=
  isEntitlementActive (recheck scope) row.expiresAt

def resolvedAs (scope : EntitlementScope) (row : Entitlement) : Resolved :=
  ⟨normalizeEntitlementValue (readJson runtime row.value), scope⟩

/-- The join with the organizations. -/
def organizationRows (organizationId : String) : List Entitlement :=
  ((innerJoin
    (RbacRepository.matching db.toRbacDb now key fun _ => true)
    db.organizations.rows fun row organization =>
      row.organizationId == some organization.id).filter fun joined =>
        joined.2.id == organizationId).map Prod.fst

def resolveOrganizationEntitlement (userId : String)
    (organizationId : Option String) : Option Resolved :=
  match organizationId with
  | none => none
  | some organizationId =>
      if RbacRepository.userGroups db.toRbacDb userId none
          (some organizationId) = [] then none
      else
        ((RbacRepository.newest (organizationRows db now key
          organizationId)).filter (isStillActive recheck .organization)).map
            (resolvedAs runtime .organization)

def resolveEntitlementForKey (userId : String)
    (organizationId groupId : Option String) : Option (Option Resolved) := do
  let userId ← parseUuid userId
  if hasNul key then none
  else
    match (RbacRepository.newest (RbacRepository.matching db.toRbacDb now key
        fun row => row.userId == some userId)).filter
          (isStillActive recheck .user) with
    | some row => pure (some (resolvedAs runtime .user row))
    | none => do
        let groupId ← uuidFilter groupId
        let organizationId ← uuidFilter organizationId
        let groups :=
          RbacRepository.userGroups db.toRbacDb userId groupId organizationId
        match (RbacRepository.newest (RbacRepository.matching db.toRbacDb now
            key fun row => groups.any fun group =>
              row.groupId == some group.id)).filter
                (isStillActive recheck .group) with
        | some row => pure (some (resolvedAs runtime .group row))
        | none =>
            pure (resolveOrganizationEntitlement runtime db now recheck key
              userId organizationId)

end Resolving

/-- `typeof value.max === "number" ? value.max : undefined`. -/
def quantityLimit (value : JsValue) : Option JsNumber :=
  match ownProperty? "max" value with
  | some (.number limit) => some limit
  | _ => none

/-- `quantity <= limit`. -/
def isWithin (quantity : Number) : JsNumber → Bool
  | .nan => false
  | limit => !exceeds quantity limit

/-- `typeof value.enabled === "boolean" ? value.enabled : true`. -/
def isEnabled (value : JsValue) : Bool :=
  match ownProperty? "enabled" value with
  | some (.bool enabled) => enabled
  | _ => true

def notFound (key : String) : EntitlementDecision :=
  ⟨false, key, "none", none, "not_found"⟩

/-- The decision about a resolved value. -/
def decideOn (input : EntitlementInput) (resolved : Resolved) :
    EntitlementDecision :=
  let decision (granted : Bool) (granting denying : String) :=
    (⟨granted, input.key, resolved.scope.name, some resolved.value,
      if granted then granting else denying⟩ : EntitlementDecision)
  match resolved.value with
  | .bool value => decision value "enabled" "disabled"
  | value =>
      match quantityLimit value, input.quantity with
      | some limit, some quantity =>
          decision (isWithin quantity limit) "within_limit" "limit_exceeded"
      | _, _ => decision (isEnabled value) "enabled" "disabled"

def entitlementCheck (runtime : NumberRuntime) (db : AuthCoreDb)
    (now : Instant) (recheck : EntitlementScope → Instant)
    (input : EntitlementInput) : Option EntitlementDecision :=
  (resolveEntitlementForKey runtime db now recheck input.key input.userId
    (orNull input.organizationId) (orNull input.groupId)).map fun resolved =>
      match resolved with
      | none => notFound input.key
      | some resolved => decideOn input resolved

end AuthCore

/-! ## The query of a scope -/

/-- The scopes in the order of their queries. -/
def EntitlementScope.ordered : List EntitlementScope :=
  [.user, .group, .organization]

theorem EntitlementScope.ordered_eq_append (scope : EntitlementScope) :
    ∃ after, ordered = scope.moreSpecific ++ scope :: after ∧
      scope ∉ scope.moreSpecific ∧ scope ∉ after := by
  cases scope with
  | user => exact ⟨_, rfl, by decide⟩
  | group => exact ⟨_, rfl, by decide⟩
  | organization => exact ⟨_, rfl, by decide⟩

/-- A scope stands in one place only. -/
theorem EntitlementScope.eq_moreSpecific {scope : EntitlementScope}
    {before after : List EntitlementScope}
    (hordered : ordered = before ++ scope :: after) :
    before = scope.moreSpecific := by
  obtain ⟨rest, hsplit, hbefore, hafter⟩ := scope.ordered_eq_append
  rw [hsplit] at hordered
  exact ((List.append_cons_inj_of_notMem hbefore hafter).mp hordered).1.symm

section ScopeQuery

variable (db : RbacDb) (now : Instant) (key userId : String)
  (organizationId groupId : Option String)

def userRow : Option Entitlement :=
  RbacRepository.newest (RbacRepository.matching db now key fun row =>
    row.userId == some userId)

def groupRow : Option Entitlement :=
  RbacRepository.newest (RbacRepository.matching db now key fun row =>
    (RbacRepository.userGroups db userId groupId organizationId).any
      fun group => row.groupId == some group.id)

def organizationRow : Option Entitlement :=
  RbacRepository.newest
    (RbacRepository.organizationRows db now key userId organizationId)

/-- The row that the query of a scope returns.  The query of the organization
comes after that of the groups, which has read the whole context. -/
def scopeQuery (scope : EntitlementScope) : Option (Option Entitlement) := do
  let userId ← parseUuid userId
  if hasNul key then none
  else
    match scope with
    | .user => pure (userRow db now key userId)
    | .group => do
        let groupId ← uuidFilter groupId
        let organizationId ← uuidFilter organizationId
        pure (groupRow db now key userId organizationId groupId)
    | .organization => do
        let _ ← uuidFilter groupId
        let organizationId ← uuidFilter organizationId
        pure (organizationRow db now key userId organizationId)

variable {db now key userId organizationId groupId} in
/-- Where the query of a scope returns, those before it have returned. -/
theorem scopeQuery_moreSpecific {scope : EntitlementScope}
    {found : Option Entitlement}
    (hquery : scopeQuery db now key userId organizationId groupId scope =
      some found) :
    ∀ earlier ∈ scope.moreSpecific, ∃ other,
      scopeQuery db now key userId organizationId groupId earlier =
        some other := by
  rw [scopeQuery, Option.bind_eq_bind, Option.bind_eq_some_iff] at hquery
  obtain ⟨uuid, huser, hquery⟩ := hquery
  split at hquery
  case isTrue => cases hquery
  case isFalse hnul =>
    have hfirst : ∃ other, scopeQuery db now key userId organizationId groupId
        .user = some other := by
      rw [scopeQuery, huser, Option.bind_eq_bind, Option.bind_some,
        if_neg hnul]
      exact ⟨_, rfl⟩
    cases scope with
    | user => exact nofun
    | group =>
        rintro earlier (_ | ⟨_, ⟨⟩⟩)
        exact hfirst
    | organization =>
        simp only [Option.bind_eq_bind, Option.bind_eq_some_iff] at hquery
        obtain ⟨group, hgroup, organization, horganization, -⟩ := hquery
        rintro earlier (_ | ⟨_, _ | ⟨_, ⟨⟩⟩⟩)
        · exact hfirst
        · rw [scopeQuery, huser, hgroup, horganization, Option.bind_eq_bind,
            Option.bind_some, if_neg hnul]
          exact ⟨_, rfl⟩

/-- What the queries of the three scopes come to. -/
theorem firstAccepted_scopeQuery
    (accepts : EntitlementScope → Entitlement → Bool) :
    firstAccepted (scopeQuery db now key userId organizationId groupId) accepts
        EntitlementScope.ordered =
      (parseUuid userId).bind fun userId =>
        if hasNul key then none
        else
          match (userRow db now key userId).filter (accepts .user) with
          | some row => some (some (.user, row))
          | none =>
              (uuidFilter groupId).bind fun groupId =>
                (uuidFilter organizationId).bind fun organizationId =>
                  match (groupRow db now key userId organizationId
                      groupId).filter (accepts .group) with
                  | some row => some (some (.group, row))
                  | none =>
                      some (((organizationRow db now key userId
                        organizationId).filter (accepts .organization)).map
                          (Prod.mk .organization)) := by
  simp only [EntitlementScope.ordered, firstAccepted, scopeQuery,
    Option.bind_eq_bind, Option.pure_def]
  cases parseUuid userId with
  | none => rfl
  | some uuid =>
      simp only [Option.bind_some]
      by_cases hnul : hasNul key = true
      · simp only [if_pos hnul]
        rfl
      · simp only [if_neg hnul, Option.bind_some]
        cases (userRow db now key uuid).filter (accepts .user) with
        | some row => rfl
        | none =>
            cases uuidFilter groupId with
            | none => rfl
            | some group =>
                cases uuidFilter organizationId with
                | none => rfl
                | some organization =>
                    simp only [Option.bind_some]
                    cases (groupRow db now key uuid organization
                        group).filter (accepts .group) with
                    | some row => rfl
                    | none =>
                        cases (organizationRow db now key uuid
                            organization).filter (accepts .organization) with
                        | some row => rfl
                        | none => rfl

/-- The server takes the first row that there is. -/
theorem findEntitlement_eq :
    RbacRepository.findEntitlement db now key userId organizationId groupId =
      (firstAccepted
        (scopeQuery db now key userId organizationId groupId)
        (fun _ _ => true) EntitlementScope.ordered).map
          (Option.map fun found => ⟨found.2.value, found.1.name⟩) := by
  have hall : ∀ row : Option Entitlement, row.filter (fun _ => true) = row :=
    fun row => by cases row <;> rfl
  simp only [firstAccepted_scopeQuery, RbacRepository.findEntitlement,
    Option.bind_eq_bind, hall, userRow, groupRow, organizationRow,
    RbacRepository.findOrganizationEntitlement_eq]
  cases parseUuid userId with
  | none => rfl
  | some uuid =>
      simp only [Option.bind_some]
      split
      case isTrue => rfl
      case isFalse =>
        cases RbacRepository.newest (RbacRepository.matching db now key
            fun row => row.userId == some uuid) with
        | some row => rfl
        | none =>
            cases uuidFilter groupId with
            | none => rfl
            | some group =>
                cases uuidFilter organizationId with
                | none => rfl
                | some organization =>
                    simp only [Option.bind_some]
                    cases RbacRepository.newest (RbacRepository.matching db
                        now key fun row => (RbacRepository.userGroups db uuid
                          group organization).any fun group =>
                            row.groupId == some group.id) with
                    | some row => rfl
                    | none =>
                        cases RbacRepository.newest
                          (RbacRepository.organizationRows db now key uuid
                            organization) with
                        | some row => rfl
                        | none => rfl

end ScopeQuery

theorem uuidFilter_orNull (text : Option String) :
    uuidFilter (orNull text) = uuidFilter text := by
  have htwice : orNull (orNull text) = orNull text := by
    simp only [orNull, Option.filter_filter, Bool.and_self]
  rw [uuidFilter, uuidFilter, htwice]

theorem scopeQuery_orNull (db : RbacDb) (now : Instant) (key userId : String)
    (organizationId groupId : Option String) :
    scopeQuery db now key userId (orNull organizationId) (orNull groupId) =
      scopeQuery db now key userId organizationId groupId := by
  funext scope
  simp only [scopeQuery, uuidFilter_orNull]

/-! ## The rows that `AuthService` takes -/

namespace AuthCore

section Resolving

variable (runtime : NumberRuntime) (db : AuthCoreDb) (now : Instant)
  (recheck : EntitlementScope → Instant) (key userId : String)
  (organizationId groupId : Option String)

/-- The organizations of entitlements are stored, so the join loses no row. -/
theorem organizationRows_eq (organizationId : String) :
    organizationRows db now key organizationId =
      RbacRepository.matching db.toRbacDb now key fun row =>
        row.organizationId == some organizationId := by
  have hstored : ∀ row ∈ RbacRepository.matching db.toRbacDb now key
      (fun _ => true), ∀ id, row.organizationId = some id →
        ∃ organization ∈ db.organizations, Keyed.key organization = id := by
    intro row hrow
    exact db.organization_stored row
      (RbacRepository.mem_matching.mp hrow).1.stored
  refine (innerJoin_reference hstored organizationId).trans ?_
  rw [RbacRepository.matching, RbacRepository.matching, Table.select,
    Table.select, List.filter_filter]
  congr 1
  funext row
  grind

theorem resolveOrganizationEntitlement_eq :
    resolveOrganizationEntitlement runtime db now recheck key userId
        organizationId =
      ((organizationRow db.toRbacDb now key userId organizationId).filter
        (isStillActive recheck .organization)).map
          (resolvedAs runtime .organization) := by
  unfold resolveOrganizationEntitlement organizationRow
    RbacRepository.organizationRows
  cases organizationId with
  | none => rfl
  | some organizationId =>
      dsimp only
      split
      case isTrue => rfl
      case isFalse => rw [organizationRows_eq]

/-- `AuthService` takes the first row that is active still. -/
theorem resolveEntitlementForKey_eq :
    resolveEntitlementForKey runtime db now recheck key userId organizationId
        groupId =
      (firstAccepted
        (scopeQuery db.toRbacDb now key userId organizationId groupId)
        (isStillActive recheck) EntitlementScope.ordered).map
          (Option.map fun found => resolvedAs runtime found.1 found.2) := by
  simp only [firstAccepted_scopeQuery, resolveEntitlementForKey,
    Option.bind_eq_bind, resolveOrganizationEntitlement_eq]
  cases parseUuid userId with
  | none => rfl
  | some uuid =>
      simp only [Option.bind_some]
      split
      case isTrue => rfl
      case isFalse =>
        simp only [userRow]
        cases (RbacRepository.newest (RbacRepository.matching db.toRbacDb now
            key fun row => row.userId == some uuid)).filter
              (isStillActive recheck .user) with
        | some row => rfl
        | none =>
            cases uuidFilter groupId with
            | none => rfl
            | some group =>
                cases uuidFilter organizationId with
                | none => rfl
                | some organization =>
                    simp only [Option.bind_some, groupRow]
                    cases (RbacRepository.newest (RbacRepository.matching
                        db.toRbacDb now key fun row =>
                          (RbacRepository.userGroups db.toRbacDb uuid
                            group organization).any fun group =>
                              row.groupId == some group.id)).filter
                                (isStillActive recheck .group) with
                    | some row => rfl
                    | none =>
                        cases (organizationRow db.toRbacDb now key uuid
                            organization).filter
                              (isStillActive recheck .organization) with
                        | some row => rfl
                        | none => rfl

end Resolving

theorem isEnabled_iff (value : JsValue) :
    isEnabled value = true ↔
      ∀ enabled, ownProperty? "enabled" value = some enabled →
        isFalse enabled = false := by
  rw [isEnabled]
  cases ownProperty? "enabled" value with
  | none => simp
  | some enabled =>
      cases enabled with
      | bool enabled => simp [isFalse]
      | _ => simp [isFalse]

/-- Without a quantity no limit is looked at. -/
theorem granted_decideOn {input : EntitlementInput}
    (hquantity : input.quantity = none) (resolved : Resolved) :
    (decideOn input resolved).granted =
      match resolved.value with
      | .bool value => value
      | value => isEnabled value := by
  rw [decideOn, hquantity]
  cases resolved.value with
  | bool value => rfl
  | obj fields =>
      dsimp only
      cases quantityLimit (.obj fields) with
      | none => rfl
      | some limit => rfl
  | _ => rfl

theorem grantsFeature_of_none {value : JsValue}
    (hvalue : isFalse value = false)
    (hnone : ownProperty? "enabled" value = none) : GrantsFeature value := by
  refine ⟨hvalue, ?_⟩
  intro enabled henabled
  rw [hnone] at henabled
  cases henabled

/-- Values other than `false` and disabled ones grant. -/
theorem granted_decideOn_iff (runtime : NumberRuntime)
    {input : EntitlementInput} (hquantity : input.quantity = none)
    (scope : EntitlementScope) (row : Entitlement) :
    (decideOn input (resolvedAs runtime scope row)).granted = true ↔
      GrantsFeature (readJson runtime row.value) := by
  rw [granted_decideOn hquantity, resolvedAs, GrantsFeature]
  cases readJson runtime row.value with
  | bool value =>
      simp [normalizeEntitlementValue, RbacService.normalizeEntitlementValue,
        isFalse, ownProperty?]
  | obj fields =>
      rw [and_iff_right (show isFalse (.obj fields) = false from rfl)]
      exact isEnabled_iff (.obj fields)
  | _ => exact iff_of_true rfl (grantsFeature_of_none rfl rfl)

end AuthCore

/-! ## Where the decisions agree -/

section Agreement

variable (runtime : NumberRuntime) (options : RbacOptions) (db : AuthCoreDb)
  (now : Instant) (recheck : EntitlementScope → Instant) (cache : RbacCache)

/-- Both checks throw, or both decide the same. -/
def AuthorizationsMatch (input : AuthorizationInput) : Prop :=
  (AuthCore.authorizationCheck db input).map
      AuthCore.AuthorizationDecision.allowed =
    (RbacService.authorizationCheck runtime options db.toRbacDb now cache
      input).1.map isAllowed

def EntitlementsMatch (input : EntitlementInput) : Prop :=
  (AuthCore.entitlementCheck runtime db now recheck input).map
      AuthCore.EntitlementDecision.granted =
    (RbacService.entitlementCheck runtime options db.toRbacDb now cache
      input).1.map isAllowed

/-- A user who holds a wildcard for the action holds its permission too. -/
def SpelledOut (input : AuthorizationInput) : Prop :=
  ∀ permissions,
    RbacRepository.listPermissionKeys db.toRbacDb input.userId
      input.organizationId input.groupId = some permissions →
    input.resource ++ ":all" ∈ permissions ∨ "*" ∈ permissions →
      input.resource ++ ":" ++ input.action ∈ permissions

/-- The query of the scope returns the row. -/
def SelectedRow (input : EntitlementInput) (scope : EntitlementScope)
    (row : Entitlement) : Prop :=
  scopeQuery db.toRbacDb now input.key input.userId input.organizationId
    input.groupId scope = some (some row)

/-- The first selected row that has not expired meanwhile; its value is neither
`false` nor disabled. -/
structure GrantsFirst (input : EntitlementInput) (scope : EntitlementScope)
    (row : Entitlement) : Prop where
  selected : SelectedRow db now input scope row
  active : AuthCore.isStillActive recheck scope row = true
  grants : GrantsFeature (readJson runtime row.value)
  expired : ∀ earlier ∈ scope.moreSpecific, ∀ other,
    SelectedRow db now input earlier other →
      AuthCore.isStillActive recheck earlier other = false

/-- A user for whom a row is selected has one that grants. -/
def GrantsWhereSelected (input : EntitlementInput) : Prop :=
  (∃ scope row, SelectedRow db now input scope row) →
    ∃ scope row, GrantsFirst runtime db now recheck input scope row

variable {runtime options db now recheck cache}

theorem throughCache_off (hcache : options.cacheEnabled = false)
    (userId cacheKey : String) (decision : Option RbacService.Decision) :
    (RbacService.throughCache runtime options now cache userId cacheKey
      decision).1 = decision.map RbacService.Decision.result := by
  have hoff : RbacService.shouldUseCache options userId = false := by
    rw [RbacService.shouldUseCache, if_pos hcache]
  unfold RbacService.throughCache
  rw [hoff]
  rfl

theorem authorizationsMatch_iff (hcache : options.cacheEnabled = false)
    (input : AuthorizationInput) :
    AuthorizationsMatch runtime options db now cache input ↔
      SpelledOut db input := by
  have hlist : AuthCore.listPermissionKeys db input.userId
      (orNull input.organizationId) (orNull input.groupId) =
        RbacRepository.listPermissionKeys db.toRbacDb input.userId
          input.organizationId input.groupId := by
    rw [AuthCore.listPermissionKeys, RbacRepository.listPermissionKeys,
      RbacRepository.listPermissionKeys, uuidFilter_orNull, uuidFilter_orNull]
  rw [AuthorizationsMatch, SpelledOut, AuthCore.map_allowed_authorizationCheck,
    hlist, RbacService.authorizationCheck, throughCache_off hcache]
  change _ = (authorize options db.toRbacDb input).map isAllowed ↔ _
  cases hpermissions : RbacRepository.listPermissionKeys db.toRbacDb
      input.userId input.organizationId input.groupId with
  | none =>
      rw [authorize_of_none hpermissions]
      refine iff_of_true rfl ?_
      intro permissions hlisted
      cases hlisted
  | some permissions =>
      obtain ⟨result, hresult, hallowed⟩ :=
        authorize_of_some options input hpermissions
      rw [hresult, Option.map_some, Option.map_some, hallowed,
        Option.some.injEq, Bool.eq_iff_iff, RbacService.permits,
        RbacService.requiredPermission, AuthCore.permissionKey]
      simp only [Bool.or_eq_true, List.contains_iff_mem, Option.some.injEq,
        forall_eq']
      constructor
      · intro hsame hwildcard
        exact hsame.mpr (or_assoc.mpr (Or.inr hwildcard))
      · intro hspelled
        constructor
        · exact fun hkey => Or.inl (Or.inl hkey)
        · intro hpermits
          exact (or_assoc.mp hpermits).elim id hspelled

/-- The server allows wherever a row is selected. -/
theorem exists_firstAccepted_iff {input : EntitlementInput} :
    (∃ entry, firstAccepted
      (scopeQuery db.toRbacDb now input.key input.userId input.organizationId
        input.groupId)
      (fun _ _ => true) EntitlementScope.ordered = some (some entry)) ↔
    ∃ scope row, SelectedRow db now input scope row := by
  constructor
  · rintro ⟨⟨scope, row⟩, hfirst⟩
    obtain ⟨-, -, -, -, hselected, -⟩ := firstAccepted_eq_some.mp hfirst
    exact ⟨scope, row, hselected⟩
  · rintro ⟨scope, row, hselected⟩
    obtain ⟨after, hordered, -⟩ := scope.ordered_eq_append
    rw [hordered]
    exact exists_firstAccepted (scopeQuery_moreSpecific hselected) hselected
      rfl

/-- What the lookup of `AuthService` finds. -/
theorem firstAccepted_active_iff {input : EntitlementInput}
    {scope : EntitlementScope} {row : Entitlement} :
    firstAccepted
        (scopeQuery db.toRbacDb now input.key input.userId
          input.organizationId input.groupId)
        (AuthCore.isStillActive recheck) EntitlementScope.ordered =
      some (some (scope, row)) ∧ GrantsFeature (readJson runtime row.value) ↔
    GrantsFirst runtime db now recheck input scope row := by
  rw [firstAccepted_eq_some]
  constructor
  · rintro ⟨⟨before, after, hordered, hpassed, hselected, hactive⟩, hgrants⟩
    rw [EntitlementScope.eq_moreSpecific hordered] at hpassed
    refine ⟨hselected, hactive, hgrants, ?_⟩
    intro earlier hearlier other hother
    obtain ⟨found, hfound, hnone⟩ := hpassed earlier hearlier
    rw [hother, Option.some.injEq] at hfound
    subst hfound
    rwa [Option.filter_some_eq_none, Bool.not_eq_true] at hnone
  · rintro ⟨hselected, hactive, hgrants, hexpired⟩
    obtain ⟨after, hordered, -⟩ := scope.ordered_eq_append
    refine ⟨⟨_, after, hordered, fun earlier hearlier => ?_, hselected,
      hactive⟩, hgrants⟩
    obtain ⟨found, hfound⟩ := scopeQuery_moreSpecific hselected earlier hearlier
    refine ⟨found, hfound, ?_⟩
    cases found with
    | none => rfl
    | some other =>
        rw [Option.filter_some_eq_none, Bool.not_eq_true]
        exact hexpired earlier hearlier other hfound

theorem isAllowed_entitlementCheck (hcache : options.cacheEnabled = false)
    {input : EntitlementInput} (hquantity : input.quantity = none) :
    (RbacService.entitlementCheck runtime options db.toRbacDb now cache
        input).1.map isAllowed =
      (firstAccepted (scopeQuery db.toRbacDb now input.key input.userId
        input.organizationId input.groupId) (fun _ _ => true)
          EntitlementScope.ordered).map Option.isSome := by
  have hresult : (RbacService.entitlementCheck runtime options db.toRbacDb now
      cache input).1 =
        (RbacRepository.findEntitlement db.toRbacDb now input.key input.userId
          input.organizationId input.groupId).map
            (RbacService.entitlementResult runtime input) := by
    rw [RbacService.entitlementCheck, throughCache_off hcache,
      ← findLimited_unlimited runtime db.toRbacDb now hquantity]
    exact RbacService.result_entitlement runtime db.toRbacDb now options input
  rw [hresult, findEntitlement_eq, Option.map_map, Option.map_map]
  congr 1
  funext found
  cases found with
  | none => rfl
  | some entry =>
      change isAllowed (RbacService.entitlementResult runtime input (some _)) =
        true
      rw [isAllowed_entitlementResult, hquantity]
      rfl

theorem granted_entitlementCheck {input : EntitlementInput} :
    (AuthCore.entitlementCheck runtime db now recheck input).map
        AuthCore.EntitlementDecision.granted =
      (firstAccepted (scopeQuery db.toRbacDb now input.key input.userId
        input.organizationId input.groupId) (AuthCore.isStillActive recheck)
          EntitlementScope.ordered).map (Option.any fun found =>
            (AuthCore.decideOn input
              (AuthCore.resolvedAs runtime found.1 found.2)).granted) := by
  rw [AuthCore.entitlementCheck, AuthCore.resolveEntitlementForKey_eq,
    scopeQuery_orNull, Option.map_map, Option.map_map]
  congr 1
  funext found
  cases found with
  | none => rfl
  | some entry => rfl

theorem entitlementsMatch_iff (hcache : options.cacheEnabled = false)
    {input : EntitlementInput} (hquantity : input.quantity = none) :
    EntitlementsMatch runtime options db now recheck cache input ↔
      GrantsWhereSelected runtime db now recheck input := by
  rw [EntitlementsMatch, granted_entitlementCheck, isAllowed_entitlementCheck
    hcache hquantity, any_firstAccepted_eq_iff, exists_firstAccepted_iff,
    GrantsWhereSelected]
  refine imp_congr_right fun _ => ?_
  rw [Prod.exists]
  refine exists_congr fun scope => exists_congr fun row => ?_
  rw [AuthCore.granted_decideOn_iff runtime hquantity, firstAccepted_active_iff]

variable (runtime options db now recheck cache) in
/-- Without a cache the two agree exactly where no wildcard stands in for a
permission that is not held, and where the first row that is active grants. -/
theorem decisionsAgree_iff (hcache : options.cacheEnabled = false) :
    (∀ input : AuthorizationInput,
      AuthorizationsMatch runtime options db now cache input ↔
        SpelledOut db input) ∧
    ∀ input : EntitlementInput, input.quantity = none →
      (EntitlementsMatch runtime options db now recheck cache input ↔
        GrantsWhereSelected runtime db now recheck input) := by
  constructor
  · exact fun input => authorizationsMatch_iff hcache input
  · exact fun input hquantity => entitlementsMatch_iff hcache hquantity

end Agreement

namespace AuthCoreWitness

def uncached : RbacOptions := { RbacWitness.options with cacheEnabled := false }

def userId : String := RbacWitness.userId

def entitlement (value : Json) : Entitlement where
  id := "entitlement-1"
  key := "storage"
  enabled := true
  value := value
  userId := some userId
  groupId := none
  organizationId := none
  expiresAt := none
  createdAt := ⟨0⟩

/-- A user with a permission and an entitlement. -/
def db (permission : String) (value : Json) : AuthCoreDb where
  permissions := ⟨[⟨"permission-1", permission⟩], by simp⟩
  rolePermissions := RbacWitness.db.rolePermissions
  userRoles := RbacWitness.db.userRoles
  groups := .empty
  groupMemberships := .empty
  groupRoles := .empty
  entitlements := ⟨[entitlement value], by simp⟩
  organizations := .empty
  organization_stored := by
    rintro row (_ | ⟨_, ⟨⟩⟩) id ⟨⟩

def reading : AuthorizationInput := ⟨userId, "read", "reports", none, none⟩

def storage : EntitlementInput := ⟨userId, "storage", none, none, none⟩

theorem decisionsAgree_iff_plain :
    AuthorizationsMatch .ofTexts uncached (db "reports:read" (.bool true)) 0
        .empty reading ∧
      EntitlementsMatch .ofTexts uncached (db "reports:read" (.bool true)) 0
        (fun _ => 0) .empty storage := by
  obtain ⟨hauthorization, hentitlement⟩ := decisionsAgree_iff .ofTexts uncached
    (db "reports:read" (.bool true)) 0 (fun _ => 0) .empty rfl
  constructor
  · refine (hauthorization reading).mpr fun permissions hlist _ => ?_
    have hpermissions : some permissions = some ["reports:read"] :=
      hlist.symm.trans (by decide +kernel)
    cases hpermissions
    exact List.mem_singleton_self _
  · refine (hentitlement storage rfl).mpr fun _ =>
      ⟨.user, entitlement (.bool true), ?_, rfl, ⟨rfl, nofun⟩, nofun⟩
    rw [SelectedRow]
    decide +kernel

/-- The server lets a user read reports who may do everything with them, and
use storage by an entitlement that is switched off. -/
theorem not_decisionsAgree :
    (¬ ∀ runtime options db now cache input, options.cacheEnabled = false →
      AuthorizationsMatch runtime options db now cache input) ∧
    ¬ ∀ runtime options db now recheck cache input,
      options.cacheEnabled = false → input.quantity = none →
        EntitlementsMatch runtime options db now recheck cache input := by
  constructor
  · intro hclaim
    have hmatch := hclaim .ofTexts uncached (db "reports:all" (.bool true)) 0
      .empty reading rfl
    rw [AuthorizationsMatch] at hmatch
    exact absurd hmatch (by decide +kernel)
  · intro hclaim
    have hmatch := hclaim .ofTexts uncached (db "reports:read" (.bool false)) 0
      (fun _ => 0) .empty storage rfl rfl
    rw [EntitlementsMatch] at hmatch
    exact absurd hmatch (by decide +kernel)

end AuthCoreWitness

end IdProvider
