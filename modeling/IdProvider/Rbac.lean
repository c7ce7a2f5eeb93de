/-
Role based access control: the grant tables and their lookups, the two checks
of the service and the cache in front of them.
-/
import IdProvider.NumberConversion
import IdProvider.RowOrder
import IdProvider.Schema
import IdProvider.Uuids

namespace IdProvider

open JsonText KeyedTable

/-! ## Tables -/

structure Permission where
  id : String
  key : String
  deriving DecidableEq

instance : Keyed Permission String := ⟨Permission.id⟩

structure RolePermission where
  roleId : String
  permissionId : String
  deriving DecidableEq

instance : Keyed RolePermission (String × String) :=
  ⟨fun row => (row.roleId, row.permissionId)⟩

structure UserRole where
  userId : String
  roleId : String
  deriving DecidableEq

instance : Keyed UserRole (String × String) :=
  ⟨fun row => (row.userId, row.roleId)⟩

structure Group where
  id : String
  organizationId : String
  deriving DecidableEq

instance : Keyed Group String := ⟨Group.id⟩

structure GroupMembership where
  userId : String
  groupId : String
  deriving DecidableEq

instance : Keyed GroupMembership (String × String) :=
  ⟨fun row => (row.userId, row.groupId)⟩

structure GroupRole where
  groupId : String
  roleId : String
  deriving DecidableEq

instance : Keyed GroupRole (String × String) :=
  ⟨fun row => (row.groupId, row.roleId)⟩

structure Entitlement where
  id : String
  key : String
  enabled : Bool
  value : Json
  userId : Option String
  groupId : Option String
  organizationId : Option String
  expiresAt : Option Timestamp
  createdAt : Timestamp
  deriving DecidableEq

instance : Keyed Entitlement String := ⟨Entitlement.id⟩

structure RbacDb where
  permissions : Table Permission
  rolePermissions : Table RolePermission
  userRoles : Table UserRole
  groups : Table Group
  groupMemberships : Table GroupMembership
  groupRoles : Table GroupRole
  entitlements : Table Entitlement

/-! ## `RBACRepository`

A query throws when a parameter is no `uuid`, or is a text with a NUL. -/

namespace RbacRepository

/-- The permission keys of roles. -/
def permissionKeys (db : RbacDb) (roleIds : List String) : List String :=
  (innerJoin
    (innerJoin roleIds db.rolePermissions.rows fun roleId row =>
      roleId == row.roleId)
    db.permissions.rows fun joined permission =>
      joined.2.permissionId == permission.id).map fun joined => joined.2.key

/-- The groups of a user that pass the filters. -/
def userGroups (db : RbacDb) (userId : String)
    (groupId organizationId : Option String) : List Group :=
  ((innerJoin
    (db.groupMemberships.select fun row => row.userId == userId)
    db.groups.rows fun membership group =>
      membership.groupId == group.id).map Prod.snd).filter fun group =>
        passes groupId group.id && passes organizationId group.organizationId

def listPermissionKeys (db : RbacDb) (userId : String)
    (organizationId groupId : Option String) : Option (List String) := do
  let userId ← parseUuid userId
  let groupId ← uuidFilter groupId
  let organizationId ← uuidFilter organizationId
  let direct := permissionKeys db
    ((db.userRoles.select fun row => row.userId == userId).map UserRole.roleId)
  let grouped := permissionKeys db
    ((innerJoin (userGroups db userId groupId organizationId)
      db.groupRoles.rows fun group row => group.id == row.groupId).map
        fun joined => joined.2.roleId)
  pure (direct ++ grouped).eraseDups

/-- An entitlement with the scope in which it was found. -/
structure Resolved where
  value : Json
  scope : String
  deriving DecidableEq

def isActive (now : Instant) (row : Entitlement) : Bool :=
  row.enabled && row.expiresAt.all fun expiresAt =>
    decide ((Timestamp.ofInstant now).micros < expiresAt.micros)

/-- `ORDER BY created_at DESC LIMIT 1`. -/
def newest (rows : List Entitlement) : Option Entitlement :=
  (RowOrder.descending (fun row : Entitlement => row.createdAt.micros)
    rows).head?

section FindEntitlement

variable (db : RbacDb) (now : Instant) (key : String)

def matching (where_ : Entitlement → Bool) : List Entitlement :=
  db.entitlements.select fun row =>
    row.key == key && where_ row && isActive now row

def findOrganizationEntitlement (userId : String)
    (organizationId : Option String) : Option Resolved :=
  match organizationId with
  | none => none
  | some organizationId =>
      if userGroups db userId none (some organizationId) = [] then none
      else
        (newest (matching db now key fun row =>
          row.organizationId == some organizationId)).map fun row =>
            ⟨row.value, "organization"⟩

/-- Entitlements of the user, of the user's groups, of the organization; the
later ones are looked up only when the earlier ones find nothing. -/
def findEntitlement (userId : String) (organizationId groupId : Option String) :
    Option (Option Resolved) := do
  let userId ← parseUuid userId
  if hasNul key then none
  else
    match newest (matching db now key fun row => row.userId == some userId) with
    | some row => pure (some ⟨row.value, "user"⟩)
    | none => do
        let groupId ← uuidFilter groupId
        let organizationId ← uuidFilter organizationId
        let groups := userGroups db userId groupId organizationId
        match newest (matching db now key fun row =>
            groups.any fun group => row.groupId == some group.id) with
        | some row => pure (some ⟨row.value, "group"⟩)
        | none =>
            pure (findOrganizationEntitlement db now key userId organizationId)

end FindEntitlement

end RbacRepository

/-! ## `RedisRBACCache` -/

structure CacheEntry where
  text : List Char
  expiresAt : Instant

abbrev RbacCache := String → Option CacheEntry

def RbacCache.empty : RbacCache := fun _ => none

/-- JavaScript's `Boolean(value)`. -/
def truthy : JsValue → Bool
  | .absent _ => false
  | .null => false
  | .bool value => value
  | .number (.finite value) => decide (numberValue value ≠ 0)
  | .number .nan => false
  | .number (.infinite _) => true
  | .str value => decide (value ≠ "")
  | .date _ => true
  | .arr _ => true
  | .obj _ => true

section Cache

variable (runtime : NumberRuntime) (now : Instant) (cache : RbacCache)

/-- `none` for a miss, and for a text that does not parse: the service catches
that error. -/
def RbacCache.get (key : String) : Option JsValue :=
  match cache key with
  | none => none
  | some entry =>
      if now < entry.expiresAt ∧ entry.text ≠ [] then
        (parse entry.text).map (readJson runtime)
      else none

def RbacCache.set (key : String) (value : JsValue) (ttlSeconds : Nat) :
    RbacCache :=
  match value.toJson? with
  | none => cache
  | some json => fun other =>
      if other = key then some ⟨json.render, now + ttlSeconds * 1000⟩
      else cache other

end Cache

/-! ## `RBACService` -/

/-- The environment schema requires positive lifetimes. -/
structure RbacOptions where
  cacheEnabled : Bool
  cachePercent : Int
  authTtlSeconds : Nat
  entitlementTtlSeconds : Nat
  negativeTtlSeconds : Nat
  authTtl_pos : 0 < authTtlSeconds
  entitlementTtl_pos : 0 < entitlementTtlSeconds
  negativeTtl_pos : 0 < negativeTtlSeconds

structure AuthorizationInput where
  userId : String
  action : String
  resource : String
  organizationId : Option String
  groupId : Option String
  deriving DecidableEq

structure EntitlementInput where
  userId : String
  key : String
  organizationId : Option String
  groupId : Option String
  quantity : Option Number
  deriving DecidableEq

namespace RbacService

/-- `char.charCodeAt(0)` of a code point. -/
def firstUnit (c : Char) : Nat :=
  if c.toNat < 0x10000 then c.toNat
  else 0xD800 + (c.toNat - 0x10000) / 1024

/-- `^` works on 32 bits, and the product before it is exact. -/
def bucket (value : String) : Nat :=
  let hash := value.toList.foldl
    (fun hash c => hash * 33#32 ^^^ BitVec.ofNat 32 (firstUnit c)) 5381#32
  hash.toInt.natAbs % 100

def shouldUseCache (options : RbacOptions) (userId : String) : Bool :=
  if options.cacheEnabled = false then false
  else if options.cachePercent ≤ 0 then false
  else if 100 ≤ options.cachePercent then true
  else decide ((bucket userId : Int) < options.cachePercent)

def normalizeKeyPart (value : Option String) : String :=
  match value with
  | none => "_"
  | some value =>
      String.ofList ((trim value).toList.map fun c =>
        if c = ':' ∨ isWhitespace c = true then '_' else c)

def buildAuthorizationCacheKey (input : AuthorizationInput) : String :=
  ":".intercalate
    ["rbac", "v1", "auth",
      normalizeKeyPart (some input.userId),
      normalizeKeyPart (some input.resource),
      normalizeKeyPart (some input.action),
      normalizeKeyPart input.organizationId,
      normalizeKeyPart input.groupId]

def buildEntitlementCacheKey (input : EntitlementInput) : String :=
  ":".intercalate
    ["rbac", "v1", "ent",
      normalizeKeyPart (some input.userId),
      normalizeKeyPart (some input.key),
      normalizeKeyPart input.organizationId,
      normalizeKeyPart input.groupId,
      normalizeKeyPart (input.quantity.map fun quantity =>
        String.ofList quantity.render)]

/-- A result with the lifetime it is cached for. -/
structure Decision where
  result : JsValue
  ttlSeconds : Nat

def requiredPermission (input : AuthorizationInput) : String :=
  input.resource ++ ":" ++ input.action

def permits (permissions : List String) (input : AuthorizationInput) : Bool :=
  permissions.contains (requiredPermission input) ||
    permissions.contains (input.resource ++ ":all") ||
    permissions.contains "*"

section Checks

variable (runtime : NumberRuntime) (options : RbacOptions) (db : RbacDb)
  (now : Instant)

/-- The uncached part of `authorizationCheck`. -/
def decideAuthorization (input : AuthorizationInput) : Option Decision :=
  (RbacRepository.listPermissionKeys db input.userId input.organizationId
    input.groupId).map fun permissions =>
      let allowed := permits permissions input
      ⟨.obj
        [("allowed", .bool allowed),
          ("permissionKey", .str (requiredPermission input)),
          ("source", if allowed then .str "rbac" else .null)],
        if allowed then options.authTtlSeconds else options.negativeTtlSeconds⟩

/-- The limit that a quantity is compared with. -/
def limitOf (value : JsValue) : JsNumber :=
  match value with
  | .obj fields =>
      match fields.find? fun field => field.1 == "limit" with
      | some field => field.2.toNumber runtime
      | none => .infinite false
  | _ => .infinite false

def overLimit (quantity : Option Number) (value : JsValue) : Bool :=
  quantity.any fun quantity => exceeds quantity (limitOf runtime value)

/-- Converting the limit throws no error.  Only a quantity is compared. -/
def limitConverts (quantity : Option Number) (value : JsValue) : Bool :=
  match quantity, value with
  | some _, .obj fields =>
      (fields.find? fun field => field.1 == "limit").all fun field =>
        field.2.converts
  | _, _ => true

/-- What the decision is made on, unless the lookup or the conversion of the
limit throws. -/
def findLimited (input : EntitlementInput) :
    Option (Option RbacRepository.Resolved) :=
  (RbacRepository.findEntitlement db now input.key input.userId
    input.organizationId input.groupId).filter fun resolved =>
      resolved.all fun resolved =>
        limitConverts input.quantity (readJson runtime resolved.value)

/-- The uncached part of `entitlementCheck`. -/
def decideEntitlement (input : EntitlementInput) : Option Decision :=
  (findLimited runtime db now input).map fun resolved =>
      match resolved with
      | none =>
          ⟨.obj [("allowed", .bool false), ("reason", .str "not_entitled")],
            options.negativeTtlSeconds⟩
      | some resolved =>
          let value := readJson runtime resolved.value
          if overLimit runtime input.quantity value then
            ⟨.obj
              [("allowed", .bool false),
                ("reason", .str "limit_exceeded"),
                ("limit", .number (limitOf runtime value))],
              options.negativeTtlSeconds⟩
          else
            ⟨.obj
              [("allowed", .bool true),
                ("value", value),
                ("scope", .str resolved.scope)],
              options.entitlementTtlSeconds⟩

/-- Both checks read the cache, decide, and store what they decided. -/
def throughCache (cache : RbacCache) (userId cacheKey : String)
    (decision : Option Decision) : Option JsValue × RbacCache :=
  if shouldUseCache options userId then
    match (cache.get runtime now cacheKey).filter truthy with
    | some cached => (some cached, cache)
    | none =>
        match decision with
        | none => (none, cache)
        | some decision =>
            (some decision.result,
              cache.set now cacheKey decision.result decision.ttlSeconds)
  else (decision.map Decision.result, cache)

def authorizationCheck (cache : RbacCache) (input : AuthorizationInput) :
    Option JsValue × RbacCache :=
  throughCache runtime options now cache input.userId
    (buildAuthorizationCacheKey input) (decideAuthorization options db input)

def entitlementCheck (cache : RbacCache) (input : EntitlementInput) :
    Option JsValue × RbacCache :=
  throughCache runtime options now cache input.userId
    (buildEntitlementCacheKey input)
    (decideEntitlement runtime options db now input)

inductive Check where
  | authorization (input : AuthorizationInput)
  | entitlement (input : EntitlementInput)

def check (cache : RbacCache) : Check → Option JsValue × RbacCache
  | .authorization input =>
      authorizationCheck runtime options db now cache input
  | .entitlement input => entitlementCheck runtime options db now cache input

/-- The results of calls made one after the other. -/
def checks (cache : RbacCache) : List Check → List (Option JsValue)
  | [] => []
  | call :: calls =>
      (check runtime options db now cache call).1 ::
        checks (check runtime options db now cache call).2 calls

end Checks

end RbacService

end IdProvider
