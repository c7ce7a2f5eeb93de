/-
What entitlement values grant: the quantity check, and the snapshot of all
entitlements of a user next to the check of a single one.
-/
import IdProvider.AccessScopes

namespace IdProvider

open JsonText KeyedTable

/-! ## Values and quantities -/

/-- `value?.[name]`, own properties only. -/
def ownProperty? (name : String) : JsValue → Option JsValue
  | .obj fields => (fields.find? fun field => field.1 == name).map Prod.snd
  | _ => none

def isFalse : JsValue → Bool
  | .bool value => !value
  | _ => false

/-- The feature is neither `false` nor disabled. -/
def GrantsFeature (value : JsValue) : Prop :=
  isFalse value = false ∧
    ∀ enabled, ownProperty? "enabled" value = some enabled →
      isFalse enabled = false

/-- A limit is a number. -/
def LimitFormed (value : JsValue) : Prop :=
  ∀ limit, ownProperty? "limit" value = some limit →
    ∃ number, limit = .number number ∧ number ≠ .nan

/-- A limit is a number that the quantity does not exceed. -/
def LimitAllows (quantity : Number) (value : JsValue) : Prop :=
  ∀ limit, ownProperty? "limit" value = some limit →
    ∃ number, limit = .number number ∧ number ≠ .nan ∧
      exceeds quantity number = false

/-- Whatever the limit is, `Number(limit)` throws or is less than the
quantity. -/
def LimitRefuses (runtime : NumberRuntime) (quantity : Number)
    (value : JsValue) : Prop :=
  ∃ limit, ownProperty? "limit" value = some limit ∧
    (limit.converts = false ∨
      exceeds quantity (limit.toNumber runtime) = true)

section Quantity

variable (runtime : NumberRuntime) (options : RbacOptions) (db : RbacDb)
  (now : Instant)

/-- The check answers that the user may. -/
def isEntitled (input : EntitlementInput) : Bool :=
  (RbacService.entitlementCheck runtime options db now RbacCache.empty
    input).1.any isAllowed

/-- What the resolved value of an allowed quantity is like. -/
def QuantitySafe (input : EntitlementInput) (quantity : Number) : Prop :=
  isEntitled runtime options db now input = true →
    ∃ resolved,
      RbacRepository.findEntitlement db now input.key input.userId
        input.organizationId input.groupId = some (some resolved) ∧
      GrantsFeature (readJson runtime resolved.value) ∧
      LimitAllows quantity (readJson runtime resolved.value)

/-- The resolved value grants the feature and its limit, if any, is a number;
or the limit does not let the quantity pass. -/
def QuantityCovered (input : EntitlementInput) (quantity : Number) : Prop :=
  ∀ resolved,
    RbacRepository.findEntitlement db now input.key input.userId
      input.organizationId input.groupId = some (some resolved) →
    LimitRefuses runtime quantity (readJson runtime resolved.value) ∨
      GrantsFeature (readJson runtime resolved.value) ∧
        LimitFormed (readJson runtime resolved.value)

theorem entitlementCheck_eq (input : EntitlementInput) :
    (RbacService.entitlementCheck runtime options db now RbacCache.empty
        input).1 =
      (RbacService.findLimited runtime db now input).map
        (RbacService.entitlementResult runtime input) := by
  rw [RbacService.entitlementCheck, throughCache_empty]
  exact RbacService.result_entitlement runtime db now options input

theorem limitOf_eq (value : JsValue) :
    RbacService.limitOf runtime value =
      ((ownProperty? "limit" value).map (JsValue.toNumber runtime)).getD
        (.infinite false) := by
  cases value with
  | obj fields =>
      rw [RbacService.limitOf, ownProperty?]
      cases fields.find? fun field => field.1 == "limit" with
      | none => rfl
      | some field => rfl
  | _ => rfl

theorem limitConverts_eq (quantity : Number) (value : JsValue) :
    RbacService.limitConverts (some quantity) value =
      (ownProperty? "limit" value).all JsValue.converts := by
  cases value with
  | obj fields =>
      rw [RbacService.limitConverts, ownProperty?]
      cases fields.find? fun field => field.1 == "limit" with
      | none => rfl
      | some field => rfl
  | _ => rfl

/-- A quantity passes unless the limit throws or is below it. -/
theorem limitRefuses_iff (quantity : Number) (value : JsValue) :
    LimitRefuses runtime quantity value ↔
      ¬ (RbacService.limitConverts (some quantity) value = true ∧
        RbacService.overLimit runtime (some quantity) value = false) := by
  rw [RbacService.overLimit, Option.any_some, limitOf_eq, limitConverts_eq,
    LimitRefuses]
  cases ownProperty? "limit" value with
  | none => simp [exceeds]
  | some limit => simp [or_iff_not_imp_left]

theorem findLimited_eq_some {input : EntitlementInput}
    {resolved : Option RbacRepository.Resolved} :
    RbacService.findLimited runtime db now input = some resolved ↔
      RbacRepository.findEntitlement db now input.key input.userId
          input.organizationId input.groupId = some resolved ∧
        ∀ found, resolved = some found →
          RbacService.limitConverts input.quantity
            (readJson runtime found.value) = true := by
  rw [RbacService.findLimited, Option.filter_eq_some_iff]
  apply and_congr_right
  intro _
  cases resolved with
  | none => simp
  | some found => simp

/-- Without a quantity no limit is converted. -/
theorem findLimited_unlimited {input : EntitlementInput}
    (hquantity : input.quantity = none) :
    RbacService.findLimited runtime db now input =
      RbacRepository.findEntitlement db now input.key input.userId
        input.organizationId input.groupId := by
  apply Option.ext
  intro resolved
  rw [findLimited_eq_some, hquantity]
  exact and_iff_left fun found _ => rfl

theorem isAllowed_entitlementResult (input : EntitlementInput)
    (resolved : RbacRepository.Resolved) :
    isAllowed (RbacService.entitlementResult runtime input (some resolved)) =
      !RbacService.overLimit runtime input.quantity
        (readJson runtime resolved.value) := by
  rw [RbacService.entitlementResult]
  cases RbacService.overLimit runtime input.quantity
    (readJson runtime resolved.value) with
  | true => rfl
  | false => rfl

theorem isEntitled_iff (input : EntitlementInput) :
    isEntitled runtime options db now input = true ↔
      ∃ resolved,
        RbacRepository.findEntitlement db now input.key input.userId
          input.organizationId input.groupId = some (some resolved) ∧
        RbacService.limitConverts input.quantity
          (readJson runtime resolved.value) = true ∧
        RbacService.overLimit runtime input.quantity
          (readJson runtime resolved.value) = false := by
  rw [isEntitled, entitlementCheck_eq]
  constructor
  · intro hallowed
    cases hfound : RbacService.findLimited runtime db now input with
    | none =>
        rw [hfound] at hallowed
        cases hallowed
    | some found =>
        obtain ⟨hfind, hconverts⟩ :=
          (findLimited_eq_some runtime db now).mp hfound
        rw [hfound, Option.map_some, Option.any_some] at hallowed
        cases found with
        | none => cases hallowed
        | some resolved =>
            rw [isAllowed_entitlementResult, Bool.not_eq_true'] at hallowed
            exact ⟨resolved, hfind, hconverts resolved rfl, hallowed⟩
  · rintro ⟨resolved, hfind, hconverts, hunder⟩
    have hfound : RbacService.findLimited runtime db now input =
        some (some resolved) := by
      rw [findLimited_eq_some]
      refine ⟨hfind, fun found hsome => ?_⟩
      cases hsome
      exact hconverts
    rw [hfound, Option.map_some, Option.any_some, isAllowed_entitlementResult,
      hunder]
    rfl

/-- Allowed quantities are covered by a well-formed limit of a granted feature
exactly where the stored values are of that kind. -/
theorem quantitySafe_iff (input : EntitlementInput) (quantity : Number)
    (hquantity : input.quantity = some quantity) :
    QuantitySafe runtime options db now input quantity ↔
      QuantityCovered runtime db now input quantity := by
  rw [QuantitySafe, isEntitled_iff, hquantity]
  constructor
  · intro hsafe resolved hfind
    by_cases hrefuses :
        LimitRefuses runtime quantity (readJson runtime resolved.value)
    · exact Or.inl hrefuses
    · have hpasses := not_not.mp
        ((limitRefuses_iff runtime quantity _).not.mp hrefuses)
      obtain ⟨other, hother, hgrants, hallows⟩ :=
        hsafe ⟨resolved, hfind, hpasses⟩
      rw [hfind, Option.some.injEq, Option.some.injEq] at hother
      subst hother
      refine Or.inr ⟨hgrants, fun limit hlimit => ?_⟩
      obtain ⟨number, hnumber, hnan, -⟩ := hallows limit hlimit
      exact ⟨number, hnumber, hnan⟩
  · rintro hcovered ⟨resolved, hfind, hpasses⟩
    have hrefuses :
        ¬ LimitRefuses runtime quantity (readJson runtime resolved.value) :=
      (limitRefuses_iff runtime quantity _).not.mpr (not_not.mpr hpasses)
    rcases hcovered resolved hfind with hrefused | ⟨hgrants, hformed⟩
    · exact absurd hrefused hrefuses
    · refine ⟨resolved, hfind, hgrants, fun limit hlimit => ?_⟩
      obtain ⟨number, rfl, hnan⟩ := hformed limit hlimit
      refine ⟨number, rfl, hnan, ?_⟩
      -- a number is what `Number` makes of it
      rw [← Bool.not_eq_true]
      exact fun hexceeds => hrefuses ⟨_, hlimit, Or.inr hexceeds⟩

end Quantity

/-! ## The snapshot -/

namespace RbacRepository

def listAllActiveEntitlementKeys (db : RbacDb) (now : Instant) : List String :=
  ((db.entitlements.select (isActive now)).map Entitlement.key).eraseDups

end RbacRepository

/-- `object[name] = value` on an object literal.  The name `__proto__` sets the
prototype and makes no property. -/
def setProperty (fields : List (String × JsValue)) (name : String)
    (value : JsValue) : List (String × JsValue) :=
  if name = "__proto__" then fields
  else if fields.any fun field => field.1 == name then
    fields.map fun field => if field.1 = name then (name, value) else field
  else fields ++ [(name, value)]

structure AuthorizationSnapshot where
  permissions : List String
  entitlements : List (String × JsValue)

namespace RbacService

def normalizeEntitlementValue (value : JsValue) : JsValue :=
  match value with
  | .bool _ => value
  | .obj _ => value
  | .date _ => value
  | _ => .obj [("value", value)]

section Snapshot

variable (runtime : NumberRuntime) (db : RbacDb) (now : Instant)
  (userId : String) (organizationId groupId : Option String)

/-- The loop over the keys. -/
def collectEntitlements :
    List String → List (String × JsValue) → Option (List (String × JsValue))
  | [], entitlementMap => some entitlementMap
  | key :: keys, entitlementMap => do
      match ← RbacRepository.findEntitlement db now key userId organizationId
          groupId with
      | none => collectEntitlements keys entitlementMap
      | some resolved =>
          collectEntitlements keys
            (setProperty entitlementMap key
              (normalizeEntitlementValue (readJson runtime resolved.value)))

def getAuthorizationSnapshot : Option AuthorizationSnapshot := do
  let permissions ←
    RbacRepository.listPermissionKeys db userId organizationId groupId
  let entitlements ← collectEntitlements runtime db now userId organizationId
    groupId (RbacRepository.listAllActiveEntitlementKeys db now) []
  pure ⟨permissions, entitlements⟩

end Snapshot

end RbacService

/-! ### What the loop collects -/

theorem mem_setProperty {fields : List (String × JsValue)} {name : String}
    {value : JsValue} (hname : name ≠ "__proto__")
    (field : String × JsValue) :
    field ∈ setProperty fields name value ↔
      field ∈ fields ∧ field.1 ≠ name ∨ field = (name, value) := by
  rw [setProperty, if_neg hname]
  split
  case isTrue hany =>
    rw [List.mem_map]
    constructor
    · rintro ⟨other, hother, rfl⟩
      split
      case isTrue => exact Or.inr rfl
      case isFalse hne => exact Or.inl ⟨hother, hne⟩
    · rintro (⟨hmem, hne⟩ | rfl)
      · exact ⟨field, hmem, if_neg hne⟩
      · obtain ⟨other, hother, hsame⟩ := List.any_eq_true.mp hany
        exact ⟨other, hother, if_pos (beq_iff_eq.mp hsame)⟩
  case isFalse hnone =>
    rw [List.mem_append, List.mem_singleton]
    refine or_congr_left (iff_self_and.mpr fun hmem hsame => hnone ?_)
    rw [List.any_eq_true]
    exact ⟨field, hmem, beq_iff_eq.mpr hsame⟩

section Collected

variable (runtime : NumberRuntime) (db : RbacDb) (now : Instant)
  (userId : String) (organizationId groupId : Option String)

/-- The property holds what its name resolves to. -/
def IsResolved (field : String × JsValue) : Prop :=
  ∃ resolved,
    RbacRepository.findEntitlement db now field.1 userId organizationId
      groupId = some (some resolved) ∧
    field.2 = RbacService.normalizeEntitlementValue
      (readJson runtime resolved.value)

variable {runtime db now userId organizationId groupId}

/-- One turn of the loop adds its key if that resolves, unless it is
`__proto__`. -/
theorem collectEntitlements_cons {key : String} {keys : List String}
    {fields result : List (String × JsValue)}
    (hresolved : ∀ field ∈ fields,
      IsResolved runtime db now userId organizationId groupId field)
    (hcollect : RbacService.collectEntitlements runtime db now userId
      organizationId groupId (key :: keys) fields = some result) :
    ∃ next,
      RbacService.collectEntitlements runtime db now userId organizationId
        groupId keys next = some result ∧
      ∀ field, field ∈ next ↔
        field ∈ fields ∨ (field.1 = key ∧ field.1 ≠ "__proto__") ∧
          IsResolved runtime db now userId organizationId groupId field := by
  rw [RbacService.collectEntitlements, Option.bind_eq_bind,
    Option.bind_eq_some_iff] at hcollect
  obtain ⟨found, hfind, hcollect⟩ := hcollect
  cases found with
  | none =>
      refine ⟨fields, hcollect, fun field => (or_iff_left ?_).symm⟩
      rintro ⟨⟨hkey, -⟩, resolved, hresolve, -⟩
      rw [hkey, hfind] at hresolve
      cases hresolve
  | some resolved =>
      refine ⟨_, hcollect, fun field => ?_⟩
      by_cases hproto : key = "__proto__"
      · rw [setProperty, if_pos hproto, or_iff_left]
        rintro ⟨⟨hkey, hname⟩, -⟩
        exact hname (hkey.trans hproto)
      · rw [mem_setProperty hproto]
        constructor
        · rintro (⟨hmem, -⟩ | rfl)
          · exact Or.inl hmem
          · exact Or.inr ⟨⟨rfl, hproto⟩, resolved, hfind, rfl⟩
        · -- a property of that name has this value already
          intro hfield
          by_cases hkey : field.1 = key
          · have hvalue : IsResolved runtime db now userId organizationId
                groupId field :=
              hfield.elim (hresolved field) And.right
            obtain ⟨other, hother, hvalue⟩ := hvalue
            rw [hkey, hfind, Option.some.injEq, Option.some.injEq] at hother
            subst hother
            exact Or.inr (Prod.ext hkey hvalue)
          · exact Or.inl
              ⟨hfield.resolve_right fun hnew => hkey hnew.1.1, hkey⟩

/-- The collected properties are the keys that resolve, but for `__proto__`. -/
theorem mem_collectEntitlements {keys : List String}
    {fields result : List (String × JsValue)}
    (hresolved : ∀ field ∈ fields,
      IsResolved runtime db now userId organizationId groupId field)
    (hcollect : RbacService.collectEntitlements runtime db now userId
      organizationId groupId keys fields = some result)
    (field : String × JsValue) :
    field ∈ result ↔
      field ∈ fields ∨ (field.1 ∈ keys ∧ field.1 ≠ "__proto__") ∧
        IsResolved runtime db now userId organizationId groupId field := by
  induction keys generalizing fields with
  | nil =>
      rw [RbacService.collectEntitlements, Option.some.injEq] at hcollect
      simp [hcollect]
  | cons key keys ih =>
      obtain ⟨next, hrest, hnext⟩ :=
        collectEntitlements_cons hresolved hcollect
      have hall : ∀ field ∈ next,
          IsResolved runtime db now userId organizationId groupId field :=
        fun field hfield =>
          ((hnext field).mp hfield).elim (hresolved field) And.right
      rw [ih hall hrest, hnext, or_assoc, ← or_and_right, ← or_and_right,
        ← List.mem_cons]

/-- The loop throws only where a lookup does. -/
theorem exists_collectEntitlements {keys : List String}
    (hfound : ∀ key ∈ keys, ∃ found,
      RbacRepository.findEntitlement db now key userId organizationId groupId =
        some found)
    (fields : List (String × JsValue)) :
    ∃ result, RbacService.collectEntitlements runtime db now userId
      organizationId groupId keys fields = some result := by
  induction keys generalizing fields with
  | nil => exact ⟨fields, rfl⟩
  | cons key keys ih =>
      rw [List.forall_mem_cons] at hfound
      obtain ⟨⟨found, hfind⟩, hrest⟩ := hfound
      rw [RbacService.collectEntitlements, hfind]
      cases found with
      | none => exact ih hrest fields
      | some resolved => exact ih hrest _

end Collected

/-! ### Where the snapshot agrees with the checks -/

/-- The ids of the context are ones that the database reads. -/
def ContextReadable (organizationId groupId : Option String) : Prop :=
  (∃ filter, uuidFilter organizationId = some filter) ∧
    ∃ filter, uuidFilter groupId = some filter

namespace RbacRepository

section Readable

variable {db : RbacDb} {now : Instant} {key userId : String}
  {organizationId groupId : Option String}

theorem exists_listPermissionKeys_iff :
    (∃ permissions, listPermissionKeys db userId organizationId groupId =
      some permissions) ↔
    (∃ uuid, parseUuid userId = some uuid) ∧
      ContextReadable organizationId groupId := by
  simp only [listPermissionKeys, Option.bind_eq_bind, Option.bind_eq_some_iff,
    Option.pure_def, Option.some.injEq]
  constructor
  · rintro ⟨permissions, uuid, huser, group, hgroup, organization,
      horganization, -⟩
    exact ⟨⟨uuid, huser⟩, ⟨organization, horganization⟩, group, hgroup⟩
  · rintro ⟨⟨uuid, huser⟩, ⟨organization, horganization⟩, group, hgroup⟩
    exact ⟨_, uuid, huser, group, hgroup, organization, horganization, rfl⟩

theorem parseUuid_of_inScope {row : Entitlement} {scope : EntitlementScope}
    (hscope : InScope db userId organizationId groupId row scope) :
    ∃ uuid, parseUuid userId = some uuid := by
  cases scope with
  | user =>
      obtain ⟨owner, -, huser⟩ := hscope
      exact ⟨owner, huser⟩
  | group =>
      obtain ⟨group, ⟨-, membership, -, huser, -⟩, -⟩ := hscope
      exact ⟨membership.userId, huser⟩
  | organization =>
      obtain ⟨group, ⟨-, membership, -, huser, -⟩, -⟩ := hscope
      exact ⟨membership.userId, huser⟩

theorem exists_findEntitlement {uuid : String}
    (huser : parseUuid userId = some uuid)
    (hreadable : ContextReadable organizationId groupId)
    (hkey : hasNul key = false) :
    ∃ found, findEntitlement db now key userId organizationId groupId =
      some found := by
  obtain ⟨⟨organization, horganization⟩, group, hgroup⟩ := hreadable
  rw [findEntitlement, huser, Option.bind_eq_bind, Option.bind_some,
    if_neg (ne_true_of_eq_false hkey)]
  split
  case h_1 row hrow => exact ⟨_, rfl⟩
  case h_2 hrow =>
    rw [hgroup, horganization, Option.bind_eq_bind, Option.bind_some,
      Option.bind_some]
    dsimp only
    split
    · exact ⟨_, rfl⟩
    · exact ⟨_, rfl⟩

/-- A lookup that returns finds a row exactly where one is in scope. -/
theorem resolves_iff {found : Option Resolved}
    (hfind : findEntitlement db now key userId organizationId groupId =
      some found) :
    (∃ resolved, found = some resolved) ↔
      ∃ row scope, ActiveFor db now key row ∧
        InScope db userId organizationId groupId row scope := by
  have hscoped := isScoped_findEntitlement hfind
  cases found with
  | none =>
      constructor
      · rintro ⟨resolved, ⟨⟩⟩
      · rintro ⟨row, scope, hactive, hscope⟩
        exact absurd hscope (hscoped row hactive scope)
  | some resolved =>
      obtain ⟨scope, row, -, hfound⟩ := hscoped
      exact iff_of_true ⟨resolved, rfl⟩
        ⟨row, scope, hfound.activeFor, hfound.inScope⟩

/-- Rows of the user are found before the context is read. -/
theorem resolves_user {row : Entitlement} (hkey : hasNul key = false)
    (hactive : ActiveFor db now key row)
    (hscope : InScope db userId organizationId groupId row .user) :
    ∃ resolved, findEntitlement db now key userId organizationId groupId =
      some (some resolved) := by
  obtain ⟨owner, hown, huser⟩ := hscope
  have hrow : row ∈ matching db now key fun row => row.userId == some owner :=
    mem_matching.mpr ⟨hactive, beq_iff_eq.mpr hown⟩
  rw [findEntitlement, huser, Option.bind_eq_bind, Option.bind_some,
    if_neg (ne_true_of_eq_false hkey)]
  split
  case h_1 first hfirst => exact ⟨_, rfl⟩
  case h_2 hnone =>
    rw [newest_eq, ScopedLookup.newest_eq_none] at hnone
    rw [hnone] at hrow
    cases hrow

/-- Where the context cannot be read, only rows of the user are found. -/
theorem user_of_resolves {resolved : Resolved}
    (hunreadable : ¬ ContextReadable organizationId groupId)
    (hfind : findEntitlement db now key userId organizationId groupId =
      some (some resolved)) :
    ∃ row, ActiveFor db now key row ∧
      InScope db userId organizationId groupId row .user := by
  rw [findEntitlement, Option.bind_eq_bind, Option.bind_eq_some_iff] at hfind
  obtain ⟨uuid, huser, hfind⟩ := hfind
  split at hfind
  case isTrue => cases hfind
  case isFalse =>
    split at hfind
    case h_1 row hrow =>
      rw [newest_eq] at hrow
      obtain ⟨hactive, hown⟩ :=
        mem_matching.mp (ScopedLookup.isNewest_of_newest hrow).mem
      exact ⟨row, hactive, uuid, beq_iff_eq.mp hown, huser⟩
    case h_2 hrow =>
      simp only [Option.bind_eq_bind, Option.bind_eq_some_iff] at hfind
      obtain ⟨group, hgroup, organization, horganization, -⟩ := hfind
      exact absurd ⟨⟨organization, horganization⟩, group, hgroup⟩ hunreadable

end Readable

end RbacRepository

section Agreement

variable (runtime : NumberRuntime) (options : RbacOptions) (db : RbacDb)
  (now : Instant) (userId : String) (organizationId groupId : Option String)

/-- The snapshot has the entitlements that single checks allow, with the same
values, and the permissions that decide the authorization checks. -/
structure SnapshotAgrees : Prop where
  entitlements : ∀ key,
    (∃ snapshot, RbacService.getAuthorizationSnapshot runtime db now userId
        organizationId groupId = some snapshot ∧
      ∃ value, (key, value) ∈ snapshot.entitlements) ↔
    isEntitled runtime options db now
      ⟨userId, key, organizationId, groupId, none⟩ = true
  values : ∀ snapshot, RbacService.getAuthorizationSnapshot runtime db now
      userId organizationId groupId = some snapshot →
    ∀ key value, (key, value) ∈ snapshot.entitlements →
      ∃ checked scope,
        (RbacService.entitlementCheck runtime options db now RbacCache.empty
          ⟨userId, key, organizationId, groupId, none⟩).1 =
            some (RbacService.entitled checked scope) ∧
        value = RbacService.normalizeEntitlementValue checked
  permissions : ∀ resource action,
    isAuthorized runtime options db now
      ⟨userId, action, resource, organizationId, groupId⟩ = true ↔
    ∃ snapshot, RbacService.getAuthorizationSnapshot runtime db now userId
        organizationId groupId = some snapshot ∧
      (resource ++ ":" ++ action ∈ snapshot.permissions ∨
        resource ++ ":all" ∈ snapshot.permissions ∨
          "*" ∈ snapshot.permissions)

/-- No active row in scope has the key `__proto__`.  Where an id of the
context cannot be read, the user has no active row at all. -/
structure SnapshotCovers : Prop where
  named : ContextReadable organizationId groupId →
    ∀ row scope, ActiveFor db now "__proto__" row →
      ¬ InScope db userId organizationId groupId row scope
  readable : ¬ ContextReadable organizationId groupId →
    ∀ key row, ActiveFor db now key row →
      ¬ InScope db userId organizationId groupId row .user

variable {runtime options db now userId organizationId groupId}

theorem isEntitled_unlimited (key : String) :
    isEntitled runtime options db now
        ⟨userId, key, organizationId, groupId, none⟩ = true ↔
      ∃ resolved, RbacRepository.findEntitlement db now key userId
        organizationId groupId = some (some resolved) := by
  rw [isEntitled_iff]
  exact exists_congr fun resolved => and_iff_left ⟨rfl, rfl⟩

theorem getAuthorizationSnapshot_eq_some {snapshot : AuthorizationSnapshot}
    (hsnapshot : RbacService.getAuthorizationSnapshot runtime db now userId
      organizationId groupId = some snapshot) :
    RbacRepository.listPermissionKeys db userId organizationId groupId =
        some snapshot.permissions ∧
      ∀ field, field ∈ snapshot.entitlements ↔
        (field.1 ∈ RbacRepository.listAllActiveEntitlementKeys db now ∧
          field.1 ≠ "__proto__") ∧
        IsResolved runtime db now userId organizationId groupId field := by
  simp only [RbacService.getAuthorizationSnapshot, Option.bind_eq_bind,
    Option.bind_eq_some_iff, Option.pure_def, Option.some.injEq] at hsnapshot
  obtain ⟨permissions, hlist, entitlements, hcollect, rfl⟩ := hsnapshot
  refine ⟨hlist, fun field => ?_⟩
  rw [mem_collectEntitlements (List.forall_mem_nil _) hcollect, or_iff_right]
  exact List.not_mem_nil

/-- Keys that resolve are among the active ones. -/
theorem mem_listAllActiveEntitlementKeys {key : String}
    {resolved : RbacRepository.Resolved}
    (hfind : RbacRepository.findEntitlement db now key userId organizationId
      groupId = some (some resolved)) :
    key ∈ RbacRepository.listAllActiveEntitlementKeys db now := by
  obtain ⟨row, scope, hactive, -⟩ :=
    (RbacRepository.resolves_iff hfind).mp ⟨resolved, rfl⟩
  rw [RbacRepository.listAllActiveEntitlementKeys, List.mem_eraseDups,
    List.mem_map]
  refine ⟨row, ?_, hactive.key⟩
  rw [Table.mem_select]
  exact ⟨hactive.stored, hactive.active⟩

variable (runtime now) in
/-- The snapshot is there exactly where the permissions can be listed. -/
theorem exists_getAuthorizationSnapshot_iff
    (hnul : ∀ row ∈ db.entitlements, hasNul row.key = false) :
    (∃ snapshot, RbacService.getAuthorizationSnapshot runtime db now userId
      organizationId groupId = some snapshot) ↔
    ∃ permissions, RbacRepository.listPermissionKeys db userId organizationId
      groupId = some permissions := by
  constructor
  · rintro ⟨snapshot, hsnapshot⟩
    exact ⟨_, (getAuthorizationSnapshot_eq_some hsnapshot).1⟩
  · rintro ⟨permissions, hlist⟩
    obtain ⟨⟨uuid, huser⟩, hreadable⟩ :=
      RbacRepository.exists_listPermissionKeys_iff.mp ⟨permissions, hlist⟩
    have hfound : ∀ key ∈ RbacRepository.listAllActiveEntitlementKeys db now,
        ∃ found, RbacRepository.findEntitlement db now key userId
          organizationId groupId = some found := by
      intro key hkey
      rw [RbacRepository.listAllActiveEntitlementKeys, List.mem_eraseDups,
        List.mem_map] at hkey
      obtain ⟨row, hrow, rfl⟩ := hkey
      exact RbacRepository.exists_findEntitlement huser hreadable
        (hnul row (Table.mem_select.mp hrow).1)
    obtain ⟨entitlements, hcollect⟩ : ∃ entitlements,
        RbacService.collectEntitlements runtime db now userId organizationId
          groupId (RbacRepository.listAllActiveEntitlementKeys db now) [] =
            some entitlements := exists_collectEntitlements hfound []
    refine ⟨⟨permissions, entitlements⟩, ?_⟩
    rw [RbacService.getAuthorizationSnapshot, hlist, Option.bind_eq_bind,
      Option.bind_some, hcollect]
    rfl

/-- A key of the snapshot is one that resolves, but for `__proto__`. -/
theorem mem_snapshot_iff {snapshot : AuthorizationSnapshot}
    (hsnapshot : RbacService.getAuthorizationSnapshot runtime db now userId
      organizationId groupId = some snapshot) (key : String) :
    (∃ value, (key, value) ∈ snapshot.entitlements) ↔
      key ≠ "__proto__" ∧
        ∃ resolved, RbacRepository.findEntitlement db now key userId
          organizationId groupId = some (some resolved) := by
  have hmem := (getAuthorizationSnapshot_eq_some hsnapshot).2
  constructor
  · rintro ⟨value, hvalue⟩
    obtain ⟨⟨-, hname⟩, resolved, hfind, -⟩ := (hmem _).mp hvalue
    exact ⟨hname, resolved, hfind⟩
  · rintro ⟨hname, resolved, hfind⟩
    exact ⟨_, (hmem (key, _)).mpr
      ⟨⟨mem_listAllActiveEntitlementKeys hfind, hname⟩, resolved, hfind, rfl⟩⟩

theorem snapshot_values {snapshot : AuthorizationSnapshot}
    (hsnapshot : RbacService.getAuthorizationSnapshot runtime db now userId
      organizationId groupId = some snapshot) {key : String} {value : JsValue}
    (hvalue : (key, value) ∈ snapshot.entitlements) :
    ∃ checked scope,
      (RbacService.entitlementCheck runtime options db now RbacCache.empty
        ⟨userId, key, organizationId, groupId, none⟩).1 =
          some (RbacService.entitled checked scope) ∧
      value = RbacService.normalizeEntitlementValue checked := by
  obtain ⟨-, resolved, hfind, hnormal⟩ :=
    ((getAuthorizationSnapshot_eq_some hsnapshot).2 _).mp hvalue
  refine ⟨_, resolved.scope, ?_, hnormal⟩
  rw [entitlementCheck_eq, findLimited_unlimited, hfind]
  · rfl
  · rfl

theorem snapshot_permissions
    (hnul : ∀ row ∈ db.entitlements, hasNul row.key = false)
    (resource action : String) :
    isAuthorized runtime options db now
        ⟨userId, action, resource, organizationId, groupId⟩ = true ↔
      ∃ snapshot, RbacService.getAuthorizationSnapshot runtime db now userId
          organizationId groupId = some snapshot ∧
        (resource ++ ":" ++ action ∈ snapshot.permissions ∨
          resource ++ ":all" ∈ snapshot.permissions ∨
            "*" ∈ snapshot.permissions) := by
  have hpermits : ∀ permissions,
      RbacService.permits permissions
        ⟨userId, action, resource, organizationId, groupId⟩ = true ↔
      (resource ++ ":" ++ action ∈ permissions ∨
        resource ++ ":all" ∈ permissions ∨ "*" ∈ permissions) := by
    intro permissions
    rw [RbacService.permits, RbacService.requiredPermission, Bool.or_eq_true,
      Bool.or_eq_true, List.contains_iff_mem, List.contains_iff_mem,
      List.contains_iff_mem, or_assoc]
  rw [isAuthorized_iff]
  constructor
  · rintro ⟨permissions, hlist, hallowed⟩
    obtain ⟨snapshot, hsnapshot⟩ :=
      (exists_getAuthorizationSnapshot_iff runtime now hnul).mpr
        ⟨permissions, hlist⟩
    have hsame := (getAuthorizationSnapshot_eq_some hsnapshot).1
    rw [hlist, Option.some.injEq] at hsame
    rw [hpermits, hsame] at hallowed
    exact ⟨snapshot, hsnapshot, hallowed⟩
  · rintro ⟨snapshot, hsnapshot, hallowed⟩
    exact ⟨_, (getAuthorizationSnapshot_eq_some hsnapshot).1,
      (hpermits _).mpr hallowed⟩

/-- Snapshot and checks agree exactly where no entitlement is called
`__proto__` and no row of the user goes with a context that cannot be read. -/
theorem snapshotAgrees_iff
    (hnul : ∀ row ∈ db.entitlements, hasNul row.key = false) :
    SnapshotAgrees runtime options db now userId organizationId groupId ↔
      SnapshotCovers db now userId organizationId groupId := by
  have hkey : ∀ {key row}, ActiveFor db now key row → hasNul key = false :=
    fun {key row} hactive => hactive.key ▸ hnul row hactive.stored
  constructor
  · intro hagrees
    constructor
    · intro hreadable row scope hactive hscope
      obtain ⟨uuid, huser⟩ := RbacRepository.parseUuid_of_inScope hscope
      obtain ⟨found, hfind⟩ : ∃ found, RbacRepository.findEntitlement db now
          "__proto__" userId organizationId groupId = some found :=
        RbacRepository.exists_findEntitlement huser hreadable (hkey hactive)
      obtain ⟨resolved, rfl⟩ :=
        (RbacRepository.resolves_iff hfind).mpr ⟨row, scope, hactive, hscope⟩
      obtain ⟨snapshot, hsnapshot, hmem⟩ := (hagrees.entitlements _).mpr
        ((isEntitled_unlimited _).mpr ⟨resolved, hfind⟩)
      exact ((mem_snapshot_iff hsnapshot _).mp hmem).1 rfl
    · intro hunreadable key row hactive hscope
      obtain ⟨snapshot, hsnapshot, -⟩ := (hagrees.entitlements key).mpr
        ((isEntitled_unlimited key).mpr
          (RbacRepository.resolves_user (hkey hactive) hactive hscope))
      exact hunreadable (RbacRepository.exists_listPermissionKeys_iff.mp
        ⟨_, (getAuthorizationSnapshot_eq_some hsnapshot).1⟩).2
  · intro hcovers
    constructor
    · intro key
      rw [isEntitled_unlimited]
      constructor
      · rintro ⟨snapshot, hsnapshot, hmem⟩
        exact ((mem_snapshot_iff hsnapshot key).mp hmem).2
      · rintro ⟨resolved, hfind⟩
        by_cases hreadable : ContextReadable organizationId groupId
        · obtain ⟨row, scope, hactive, hscope⟩ :=
            (RbacRepository.resolves_iff hfind).mp ⟨resolved, rfl⟩
          have hlist : ∃ permissions, RbacRepository.listPermissionKeys db
              userId organizationId groupId = some permissions :=
            RbacRepository.exists_listPermissionKeys_iff.mpr
              ⟨RbacRepository.parseUuid_of_inScope hscope, hreadable⟩
          obtain ⟨snapshot, hsnapshot⟩ :=
            (exists_getAuthorizationSnapshot_iff runtime now hnul).mpr hlist
          refine ⟨snapshot, hsnapshot,
            (mem_snapshot_iff hsnapshot key).mpr ⟨?_, resolved, hfind⟩⟩
          rintro rfl
          exact hcovers.named hreadable row scope hactive hscope
        · obtain ⟨row, hactive, hscope⟩ :=
            RbacRepository.user_of_resolves hreadable hfind
          exact absurd hscope (hcovers.readable hreadable key row hactive)
    · exact fun snapshot hsnapshot key value hvalue =>
        snapshot_values hsnapshot hvalue
    · exact snapshot_permissions hnul

end Agreement

namespace EntitlementWitness

def userId : String := RbacWitness.userId

/-- The user has one entitlement. -/
def db (key : String) (value : Json) : RbacDb where
  permissions := .empty
  rolePermissions := .empty
  userRoles := .empty
  groups := .empty
  groupMemberships := .empty
  groupRoles := .empty
  entitlements :=
    ⟨[{ id := "entitlement-1", key, enabled := true, value,
        userId := some userId, groupId := none, organizationId := none,
        expiresAt := none, createdAt := ⟨0⟩ }], by simp⟩

def limited (limit : Json) : RbacDb := db "storage" (.obj [("limit", limit)])

def wanting (quantity : Int) : EntitlementInput :=
  ⟨userId, "storage", none, none, some (.ofInt quantity)⟩

theorem quantitySafe_ten :
    QuantitySafe .ofTexts RbacWitness.options (limited (.num (.ofInt 10))) 0
      (wanting 5) (.ofInt 5) := by
  refine (quantitySafe_iff .ofTexts RbacWitness.options _ 0
    (wanting 5) _ rfl).mpr fun resolved hfind => Or.inr ?_
  have hvalue : some (some resolved) =
      some (some ⟨.obj [("limit", .num (.ofInt 10))], "user"⟩) :=
    hfind.symm.trans (by decide +kernel)
  cases hvalue
  constructor
  · exact ⟨rfl, nofun⟩
  · rintro _ ⟨⟩
    exact ⟨_, rfl, nofun⟩

/-- `Number("ten")` is not a number, and five does not exceed it. -/
theorem not_quantitySafe :
    ¬ ∀ runtime options db now input quantity,
      input.quantity = some quantity →
        QuantitySafe runtime options db now input quantity := by
  intro hclaim
  obtain ⟨resolved, hfind, -, hallows⟩ := hclaim .ofTexts RbacWitness.options
    (limited (.str "ten")) 0 (wanting 5) (.ofInt 5) rfl (by decide +kernel)
  have hvalue : some (some resolved) =
      some (some ⟨.obj [("limit", .str "ten")], "user"⟩) :=
    hfind.symm.trans (by decide +kernel)
  cases hvalue
  obtain ⟨number, hnumber, -⟩ := hallows (.str "ten") rfl
  cases hnumber

/-- The user's own entitlement, next to those of a group and of the
organization. -/
def shared : RbacDb :=
  { AccessScopeWitness.db with
    entitlements :=
      ⟨[{ AccessScopeWitness.entitlement "own" none none 0 with
          userId := some userId },
        AccessScopeWitness.entitlement "first"
          (some AccessScopeWitness.groupId) none 1,
        AccessScopeWitness.entitlement "third" none
          (some AccessScopeWitness.organizationId) 3], by decide⟩ }

theorem key_of_shared {row : Entitlement} (hrow : row ∈ shared.entitlements) :
    row.key = "storage" := by
  rcases hrow with _ | ⟨_, _ | ⟨_, _ | ⟨_, ⟨⟩⟩⟩⟩
  · rfl
  · rfl
  · rfl

theorem snapshotAgrees_storage :
    SnapshotAgrees .ofTexts RbacWitness.options shared 0 userId
      (some AccessScopeWitness.organizationId) none := by
  have hnul : ∀ row ∈ shared.entitlements, hasNul row.key = false := by
    intro row hrow
    rw [key_of_shared hrow]
    decide
  refine (snapshotAgrees_iff hnul).mpr ⟨?_, ?_⟩
  · intro _ row scope hactive
    have hkey := (key_of_shared hactive.stored).symm.trans hactive.key
    exact absurd hkey (by decide)
  · intro hunreadable
    refine absurd ⟨⟨some AccessScopeWitness.organizationId, ?_⟩, none, rfl⟩
      hunreadable
    decide +kernel

/-- The entitlement `__proto__` is allowed, and in no snapshot. -/
theorem not_snapshotAgrees :
    ¬ ∀ runtime options db now userId organizationId groupId,
      (∀ row ∈ db.entitlements, hasNul row.key = false) →
        SnapshotAgrees runtime options db now userId organizationId
          groupId := by
  intro hclaim
  have hagrees := hclaim .ofTexts RbacWitness.options
    (db "__proto__" (.bool true)) 0 userId none none ?_
  · obtain ⟨snapshot, hsnapshot, hmem⟩ :=
      (hagrees.entitlements "__proto__").mpr (by decide +kernel)
    exact ((mem_snapshot_iff hsnapshot _).mp hmem).1 rfl
  · rintro row (_ | ⟨_, ⟨⟩⟩)
    decide

end EntitlementWitness

end IdProvider
