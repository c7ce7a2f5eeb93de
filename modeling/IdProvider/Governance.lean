/-
Who has access to the administration, and the snapshot that lists them.
-/
import IdProvider.LoginService
import IdProvider.RbacTransparency
import IdProvider.RowGroups

namespace IdProvider

open JsonText KeyedTable

/-! ## `assertAdminPermission` -/

structure AdminInput where
  userId : String
  resource : String
  action : String
  path : Option String
  method : Option String
  message : Option String

/-- `value?.allowed === true`. -/
def isAllowed : JsValue → Bool
  | .obj fields =>
      (fields.find? fun field => field.1 == "allowed").any fun field =>
        match field.2 with
        | .bool value => value
        | _ => false
  | _ => false

namespace AdminInput

def check (input : AdminInput) (resource action : String) :
    AuthorizationInput where
  userId := input.userId
  action := action
  resource := resource
  organizationId := none
  groupId := none

def deniedEvent (input : AdminInput) (sodEnforced : Bool) :
    SecurityEventInput where
  eventType := "admin.access.denied"
  userId := some input.userId
  payload := .obj
    [("resource", .str input.resource),
      ("action", .str input.action),
      ("requiredPermission", .str (input.resource ++ ":" ++ input.action)),
      ("path", optionalText input.path),
      ("method", optionalText input.method),
      ("sodEnforced", .bool sodEnforced)]

def forbidden (input : AdminInput) : ApiError where
  status := 403
  code := "forbidden"
  message := input.message.getD "Insufficient admin permission"

end AdminInput

/-- `failed` when a query of the check throws. -/
inductive AdminAnswer where
  | allowed
  | failed
  | denied (event : SecurityEventInput) (error : ApiError)

def AdminInput.deny (input : AdminInput) (sodEnforced : Bool) : AdminAnswer :=
  .denied (input.deniedEvent sodEnforced) input.forbidden

def assertAdminPermission (authorizationCheck : AuthorizationInput → Option JsValue)
    (sodEnforced : Bool) (input : AdminInput) : AdminAnswer :=
  match authorizationCheck (input.check input.resource input.action) with
  | none => .failed
  | some primary =>
      if isAllowed primary then .allowed
      else if sodEnforced then input.deny sodEnforced
      else
        match authorizationCheck (input.check "admin" "manage") with
        | none => .failed
        | some legacy =>
            if isAllowed legacy then .allowed else input.deny sodEnforced

/-! ## The tables of the snapshot -/

structure Role where
  id : String
  key : String
  deriving DecidableEq

instance : Keyed Role String := ⟨Role.id⟩

/-- The grants, and what the snapshot shows besides.  Roles of users are
stored roles. -/
structure GovernanceDb extends RbacDb where
  roles : Table Role
  userEmails : Table UserEmail
  role_stored : ∀ row ∈ userRoles, ∃ role ∈ roles, role.id = row.roleId

/-- The order in which the database happens to return rows. -/
structure Arrangement (Row : Type) where
  arrange : List Row → List Row
  perm : ∀ rows, (arrange rows).Perm rows

/-! ## `listUsersWithPermissionPrefix` -/

structure AdminRow where
  userId : String
  roleKey : String
  permissionKey : String
  email : Option String
  deriving DecidableEq

structure AdminEntry where
  userId : String
  email : Option String
  roles : List String
  permissions : List String
  deriving DecidableEq

namespace AdminEntry

/-- `Set.prototype.add`. -/
def addText (texts : List String) (text : String) : List String :=
  if text ∈ texts then texts else texts ++ [text]

def add (entry : AdminEntry) (row : AdminRow) : AdminEntry where
  userId := entry.userId
  email := if given entry.email = false ∧ given row.email = true then row.email
    else entry.email
  roles := addText entry.roles row.roleKey
  permissions := addText entry.permissions row.permissionKey

def start (row : AdminRow) : AdminEntry :=
  add ⟨row.userId, row.email, [], []⟩ row

/-- The UTF-16 code units that `sort` compares. -/
def codeUnits (text : String) : List Nat :=
  text.toList.flatMap fun c =>
    if c.toNat < 0x10000 then [c.toNat]
    else [0xD800 + (c.toNat - 0x10000) / 1024,
      0xDC00 + (c.toNat - 0x10000) % 1024]

def sorted (entry : AdminEntry) : AdminEntry :=
  { entry with
    roles := RowOrder.ascending codeUnits entry.roles
    permissions := RowOrder.ascending codeUnits entry.permissions }

end AdminEntry

def byUser : RowGroups AdminRow AdminEntry String where
  rowKey := AdminRow.userId
  groupKey := AdminEntry.userId
  start := AdminEntry.start
  add := AdminEntry.add
  key_start _ := rfl
  key_add _ _ := rfl

namespace RbacRepository

/-- `LIKE` with a prefix that has no wildcards, or the key `admin:all`. -/
def isListed (permissionPrefix key : String) : Bool :=
  startsWith key permissionPrefix || key == "admin:all"

/-- The roles of users with their permissions. -/
def rolePermissionRows (db : GovernanceDb) :
    List (((UserRole × Role) × RolePermission) × Permission) :=
  innerJoin
    (innerJoin
      (innerJoin db.userRoles.rows db.roles.rows fun userRole role =>
        userRole.roleId == role.id)
      db.rolePermissions.rows fun joined row => joined.2.id == row.roleId)
    db.permissions.rows fun joined permission =>
      joined.2.permissionId == permission.id

def adminRows (db : GovernanceDb) (permissionPrefix : String) :
    List AdminRow :=
  ((leftJoin (rolePermissionRows db) db.userEmails.rows fun joined email =>
      email.userId == joined.1.1.1.userId && email.isPrimary).filter
    fun joined => isListed permissionPrefix joined.1.2.key).map fun joined =>
      { userId := joined.1.1.1.1.userId
        roleKey := joined.1.1.1.2.key
        permissionKey := joined.1.2.key
        email := joined.2.map UserEmail.email }

def listUsersWithPermissionPrefix (order : Arrangement AdminRow)
    (db : GovernanceDb) (permissionPrefix : String) (limit : Nat) :
    List AdminEntry :=
  let rows := (order.arrange (adminRows db permissionPrefix)).take (limit * 10)
  ((byUser.gather rows).take limit).map AdminEntry.sorted

end RbacRepository

namespace RbacService

def getAdminAccessSnapshot (order : Arrangement AdminRow) (db : GovernanceDb)
    (limit : Nat) : List AdminEntry :=
  RbacRepository.listUsersWithPermissionPrefix order db "admin." limit

end RbacService

/-! ## The claim -/

/-- The answer of a check that is not cached. -/
def authorize (options : RbacOptions) (db : RbacDb)
    (input : AuthorizationInput) : Option JsValue :=
  (RbacService.decideAuthorization options db input).map
    RbacService.Decision.result

/-- The user may do something in the administration. -/
def HasAdminAccess (options : RbacOptions) (db : RbacDb) (sodEnforced : Bool)
    (userId : String) : Prop :=
  ∃ input : AdminInput, input.userId = userId ∧
    startsWith input.resource "admin." = true ∧
    assertAdminPermission (authorize options db) sodEnforced input = .allowed

/-- Holding this permission alone would give access. -/
def GrantsAccess (sodEnforced : Bool) (permissionKey : String) : Prop :=
  ∃ input : AdminInput, startsWith input.resource "admin." = true ∧
    (RbacService.permits [permissionKey]
        (input.check input.resource input.action) = true ∨
      (sodEnforced = false ∧ RbacService.permits [permissionKey]
        (input.check "admin" "manage") = true))

/-- The user holds the permission, and it gives access. -/
structure HasAdminPermission (db : RbacDb) (sodEnforced : Bool)
    (userId permissionKey : String) : Prop where
  held : ∃ permissions, RbacRepository.listPermissionKeys db userId none none =
    some permissions ∧ permissionKey ∈ permissions
  grants : GrantsAccess sodEnforced permissionKey

/-- The spelling of a user id that the database stores. -/
def IsStoredId (userId : String) : Prop :=
  parseUuid userId = some userId

instance (userId : String) : Decidable (IsStoredId userId) :=
  inferInstanceAs (Decidable (_ = _))

def AtMost (limit : Nat) (holds : String → Prop) : Prop :=
  ∀ userIds : List String, userIds.Nodup →
    (∀ userId ∈ userIds, holds userId) → userIds.length ≤ limit

/-- Everybody with access is listed, with all permissions that give it. -/
def SnapshotComplete (order : Arrangement AdminRow) (options : RbacOptions)
    (db : GovernanceDb) (sodEnforced : Bool) (limit : Nat) : Prop :=
  ∀ userId, IsStoredId userId →
    HasAdminAccess options db.toRbacDb sodEnforced userId →
    ∃ entry ∈ RbacService.getAdminAccessSnapshot order db limit,
      entry.userId = userId ∧
        ∀ key, HasAdminPermission db.toRbacDb sodEnforced userId key →
          key ∈ entry.permissions

/-- The number of users with access is within the limit. -/
def AccessWithin (options : RbacOptions) (db : RbacDb) (sodEnforced : Bool)
    (limit : Nat) : Prop :=
  AtMost limit fun userId => IsStoredId userId ∧
    HasAdminAccess options db sodEnforced userId

/-- The listed permissions that users have through their own roles, once for
each role. -/
def directGrants (db : RbacDb) : List (String × String) :=
  db.userRoles.rows.flatMap fun row =>
    ((RbacRepository.permissionKeys db [row.roleId]).filter
      (RbacRepository.isListed "admin.")).map fun key => (row.userId, key)

def primaryEmails (db : GovernanceDb) (userId : String) : List UserEmail :=
  db.userEmails.rows.filter fun email =>
    email.userId == userId && email.isPrimary

/-- Grants, counted once for each primary address of the user, and at least
once. -/
def weight (db : GovernanceDb) (grants : List (String × String)) : Nat :=
  (grants.map fun grant => max 1 (primaryEmails db grant.1).length).sum

/-- All access comes from listed permissions of direct roles, which are few. -/
structure DirectAndFew (db : GovernanceDb) (sodEnforced : Bool) (limit : Nat) :
    Prop where
  direct : ∀ userId key, IsStoredId userId →
    HasAdminPermission db.toRbacDb sodEnforced userId key →
    (userId, key) ∈ directGrants db.toRbacDb
  users : AtMost limit fun userId =>
    ∃ key, (userId, key) ∈ directGrants db.toRbacDb
  rows : ∀ userId key, IsStoredId userId →
    HasAdminPermission db.toRbacDb sodEnforced userId key →
    weight db ((directGrants db.toRbacDb).filter (· ≠ (userId, key))) <
      limit * 10

/-! ## Access -/

section Access

variable {options : RbacOptions} {db : RbacDb} {sodEnforced : Bool}

/-- What a user's permissions say about a check. -/
def Permitted (db : RbacDb) (input : AuthorizationInput) : Prop :=
  ∃ permissions, RbacRepository.listPermissionKeys db input.userId
      input.organizationId input.groupId = some permissions ∧
    RbacService.permits permissions input = true

theorem authorize_of_none {input : AuthorizationInput}
    (hnone : RbacRepository.listPermissionKeys db input.userId
      input.organizationId input.groupId = none) :
    authorize options db input = none := by
  rw [authorize, RbacService.decideAuthorization, hnone]
  rfl

theorem authorize_of_some (options : RbacOptions) (input : AuthorizationInput)
    {permissions : List String}
    (hsome : RbacRepository.listPermissionKeys db input.userId
      input.organizationId input.groupId = some permissions) :
    ∃ result, authorize options db input = some result ∧
      isAllowed result = RbacService.permits permissions input := by
  rw [authorize, RbacService.decideAuthorization, hsome]
  exact ⟨_, rfl, rfl⟩

theorem assertAdminPermission_iff (input : AdminInput) :
    assertAdminPermission (authorize options db) sodEnforced input =
        .allowed ↔
      ∃ permissions,
        RbacRepository.listPermissionKeys db input.userId none none =
          some permissions ∧
        (RbacService.permits permissions
            (input.check input.resource input.action) = true ∨
          (sodEnforced = false ∧ RbacService.permits permissions
            (input.check "admin" "manage") = true)) := by
  unfold assertAdminPermission
  rcases hkeys : RbacRepository.listPermissionKeys db input.userId none none
    with _ | permissions
  · rw [authorize_of_none hkeys]
    simp
  · obtain ⟨primary, hprimary, hallowed⟩ := authorize_of_some options
      (input.check input.resource input.action) hkeys
    obtain ⟨legacy, hlegacy, hmanage⟩ := authorize_of_some options
      (input.check "admin" "manage") hkeys
    rw [hprimary, hlegacy]
    dsimp only
    rw [hallowed, hmanage]
    cases hpermits : RbacService.permits permissions
        (input.check input.resource input.action) with
    | true => simp [hpermits]
    | false =>
        cases sodEnforced with
        | false => simp [hpermits, AdminInput.deny]
        | true => simp [hpermits, AdminInput.deny]

theorem permits_iff (permissions : List String) (input : AuthorizationInput) :
    RbacService.permits permissions input = true ↔
      ∃ key ∈ permissions, RbacService.permits [key] input = true := by
  simp only [RbacService.permits, Bool.or_eq_true, List.contains_iff_mem,
    List.mem_singleton]
  grind

theorem permits_singleton (key : String) (input : AuthorizationInput) :
    RbacService.permits [key] input = true ↔
      key = input.resource ++ ":" ++ input.action ∨
        key = input.resource ++ ":all" ∨ key = "*" := by
  simp only [RbacService.permits, RbacService.requiredPermission,
    Bool.or_eq_true, List.contains_iff_mem, List.mem_singleton, or_assoc]
  grind

/-- A key of the administration names a resource and an action. -/
theorem adminKey_iff (key : String) :
    (∃ resource action, startsWith resource "admin." = true ∧
        key = resource ++ ":" ++ action) ↔
      startsWith key "admin." = true ∧ ':' ∈ key.toList := by
  constructor
  · rintro ⟨resource, action, hresource, rfl⟩
    rw [startsWith, List.isPrefixOf_iff_prefix] at hresource ⊢
    obtain ⟨rest, hrest⟩ := hresource
    constructor
    · exact ⟨rest ++ ':' :: action.toList, by simp [← hrest]⟩
    · simp
  · rintro ⟨hstart, hcolon⟩
    rw [startsWith, List.isPrefixOf_iff_prefix] at hstart
    obtain ⟨rest, hrest⟩ := hstart
    have hmem : ':' ∈ rest := by
      rw [← hrest, List.mem_append] at hcolon
      exact hcolon.resolve_left (by decide)
    obtain ⟨left, right, rfl⟩ := List.append_of_mem hmem
    refine ⟨"admin." ++ String.ofList left, String.ofList right, ?_, ?_⟩
    · rw [startsWith, List.isPrefixOf_iff_prefix]
      exact ⟨left, by simp⟩
    · rw [← String.toList_inj, ← hrest]
      simp

/-- The permissions that give access. -/
theorem grantsAccess_iff (sodEnforced : Bool) (key : String) :
    GrantsAccess sodEnforced key ↔
      key = "*" ∨ (startsWith key "admin." = true ∧ ':' ∈ key.toList) ∨
        (sodEnforced = false ∧ (key = "admin:manage" ∨ key = "admin:all")) := by
  rw [← adminKey_iff]
  constructor
  · rintro ⟨input, hresource, hgrants⟩
    rcases hgrants with hprimary | ⟨hsod, hlegacy⟩
    · rcases (permits_singleton _ _).mp hprimary with rfl | rfl | rfl
      · exact .inr (.inl ⟨_, _, hresource, rfl⟩)
      · refine .inr (.inl ⟨_, "all", hresource, ?_⟩)
        rw [String.append_assoc]
        rfl
      · exact .inl rfl
    · rcases (permits_singleton _ _).mp hlegacy with rfl | rfl | rfl
      · exact .inr (.inr ⟨hsod, .inl rfl⟩)
      · exact .inr (.inr ⟨hsod, .inr rfl⟩)
      · exact .inl rfl
  · rintro (rfl | ⟨resource, action, hresource, rfl⟩ | ⟨hsod, hkey⟩)
    · exact ⟨⟨"", "admin.", "", none, none, none⟩, by decide,
        .inl ((permits_singleton _ _).mpr (.inr (.inr rfl)))⟩
    · exact ⟨⟨"", resource, action, none, none, none⟩, hresource,
        .inl ((permits_singleton _ _).mpr (.inl rfl))⟩
    · refine ⟨⟨"", "admin.", "", none, none, none⟩, by decide, .inr ⟨hsod, ?_⟩⟩
      rw [permits_singleton]
      exact hkey.imp id .inl

/-- Access is what single permissions give. -/
theorem hasAdminAccess_iff (userId : String) :
    HasAdminAccess options db sodEnforced userId ↔
      ∃ key, HasAdminPermission db sodEnforced userId key := by
  constructor
  · rintro ⟨input, rfl, hresource, hallowed⟩
    obtain ⟨permissions, hkeys, hpermits⟩ :=
      (assertAdminPermission_iff input).mp hallowed
    rcases hpermits with hprimary | ⟨hsod, hlegacy⟩
    · obtain ⟨key, hkey, hgrants⟩ := (permits_iff _ _).mp hprimary
      exact ⟨key, ⟨permissions, hkeys, hkey⟩, input, hresource, .inl hgrants⟩
    · obtain ⟨key, hkey, hgrants⟩ := (permits_iff _ _).mp hlegacy
      exact ⟨key, ⟨permissions, hkeys, hkey⟩, input, hresource,
        .inr ⟨hsod, hgrants⟩⟩
  · rintro ⟨key, ⟨permissions, hkeys, hkey⟩, input, hresource, hgrants⟩
    refine ⟨{ input with userId := userId }, rfl, hresource,
      (assertAdminPermission_iff _).mpr ⟨permissions, hkeys, ?_⟩⟩
    exact hgrants.imp
      (fun hprimary => (permits_iff _ _).mpr ⟨key, hkey, hprimary⟩)
      (fun hlegacy => ⟨hlegacy.1, (permits_iff _ _).mpr ⟨key, hkey, hlegacy.2⟩⟩)

end Access

/-! ## The rows of the query -/

def AdminRow.grant (row : AdminRow) : String × String :=
  (row.userId, row.permissionKey)

section Rows

variable {db : GovernanceDb}

theorem roles_of_userRole {row : UserRole} (hrow : row ∈ db.userRoles) :
    ∃ role, (db.roles.rows.filter fun role => row.roleId == role.id) =
      [role] ∧ role.id = row.roleId := by
  obtain ⟨role, hrole, hid⟩ := db.role_stored row hrow
  refine ⟨role, ?_, hid⟩
  have hnodup : db.roles.rows.Nodup := db.roles.nodup.of_map _
  rw [← List.perm_singleton, List.perm_ext_iff_of_nodup
    (hnodup.filter _) (List.nodup_singleton role)]
  intro other
  rw [List.mem_filter, List.mem_singleton, beq_iff_eq]
  constructor
  · rintro ⟨hother, hsame⟩
    exact db.roles.eq_of_key_eq hother hrole (hsame.symm.trans hid.symm)
  · rintro rfl
    exact ⟨hrole, hid.symm⟩

/-- The rows of one user role. -/
theorem rolePermissionRows_grants :
    ((RbacRepository.rolePermissionRows db).filter fun joined =>
        RbacRepository.isListed "admin." joined.2.key).map
      (fun joined => (joined.1.1.1.userId, joined.2.key)) =
      directGrants db.toRbacDb := by
  have hjoin : ∀ rows : List UserRole, (∀ row ∈ rows, row ∈ db.userRoles) →
      ((innerJoin (innerJoin (innerJoin rows db.roles.rows
          fun userRole role => userRole.roleId == role.id)
          db.rolePermissions.rows fun joined row =>
            joined.2.id == row.roleId)
          db.permissions.rows fun joined permission =>
            joined.2.permissionId == permission.id).filter fun joined =>
        RbacRepository.isListed "admin." joined.2.key).map
      (fun joined => (joined.1.1.1.userId, joined.2.key)) =
      rows.flatMap fun row =>
        ((RbacRepository.permissionKeys db.toRbacDb [row.roleId]).filter
          (RbacRepository.isListed "admin.")).map fun key =>
            (row.userId, key) := by
    intro rows hrows
    induction rows with
    | nil => rfl
    | cons row rows ih =>
        rw [List.forall_mem_cons] at hrows
        obtain ⟨role, hrole, hid⟩ := roles_of_userRole hrows.1
        rw [List.flatMap_cons, ← ih hrows.2]
        simp only [innerJoin, List.flatMap_cons, List.flatMap_append,
          List.filter_append, List.map_append, hrole, List.map_singleton,
          RbacRepository.permissionKeys, List.flatMap_nil, List.append_nil,
          hid]
        congr 1
        simp [List.flatMap_map, List.filter_flatMap, List.map_flatMap,
          List.filter_map, Function.comp_def]
  exact hjoin db.userRoles.rows fun row hrow => hrow

theorem adminRows_grants :
    (RbacRepository.adminRows db "admin.").map AdminRow.grant =
      (directGrants db.toRbacDb).flatMap fun grant =>
        List.replicate (max 1 (primaryEmails db grant.1).length) grant := by
  rw [RbacRepository.adminRows, List.map_map, ← rolePermissionRows_grants,
    List.flatMap_map]
  exact leftJoin_left (RbacRepository.rolePermissionRows db)
    db.userEmails.rows
    (fun joined email =>
      email.userId == joined.1.1.1.userId && email.isPrimary)
    (fun joined => RbacRepository.isListed "admin." joined.2.key)
    fun joined => (joined.1.1.1.userId, joined.2.key)

theorem mem_adminRows {grant : String × String} :
    (∃ row ∈ RbacRepository.adminRows db "admin.", row.grant = grant) ↔
      grant ∈ directGrants db.toRbacDb := by
  rw [← List.mem_map, adminRows_grants, List.mem_flatMap]
  constructor
  · rintro ⟨other, hother, hgrant⟩
    rwa [List.eq_of_mem_replicate hgrant]
  · intro hgrant
    refine ⟨grant, hgrant, List.mem_replicate.mpr ⟨?_, rfl⟩⟩
    exact Nat.ne_of_gt (Nat.le_max_left 1 _)

/-- The rows of some grants are as many as the weight of these. -/
theorem length_adminRows (wanted : String × String → Bool) :
    ((RbacRepository.adminRows db "admin.").filter fun row =>
        wanted row.grant).length =
      weight db ((directGrants db.toRbacDb).filter wanted) := by
  have hcount : ((RbacRepository.adminRows db "admin.").filter fun row =>
        wanted row.grant).length =
      (((RbacRepository.adminRows db "admin.").map AdminRow.grant).filter
        wanted).length := by
    rw [List.filter_map, List.length_map]
    rfl
  rw [hcount, adminRows_grants]
  induction directGrants db.toRbacDb with
  | nil => rfl
  | cons grant grants ih =>
      rw [List.flatMap_cons, List.filter_append, List.length_append, ih,
        List.filter_cons]
      by_cases hwanted : wanted grant = true
      · simp [weight, hwanted]
      · simp [weight, hwanted]

end Rows

/-! ## The entries of the snapshot -/

theorem mem_addText {texts : List String} {text other : String} :
    other ∈ AdminEntry.addText texts text ↔ other ∈ texts ∨ other = text := by
  unfold AdminEntry.addText
  split
  case isTrue hmem =>
    refine ⟨.inl, fun hother => hother.elim id ?_⟩
    rintro rfl
    exact hmem
  case isFalse => rw [List.mem_append, List.mem_singleton]

theorem permissions_foldl (rows : List AdminRow) (entry : AdminEntry)
    (key : String) :
    key ∈ (rows.foldl AdminEntry.add entry).permissions ↔
      key ∈ entry.permissions ∨ ∃ row ∈ rows, row.permissionKey = key := by
  induction rows generalizing entry with
  | nil => simp
  | cons row rows ih =>
      rw [List.foldl_cons, ih, AdminEntry.add, mem_addText]
      simp only [List.mem_cons, exists_eq_or_imp, or_assoc]
      exact or_congr_right (or_congr_left eq_comm)

/-- The permissions of a group are those of the user's rows. -/
theorem permissions_gather {rows : List AdminRow} {entry : AdminEntry}
    (hentry : entry ∈ byUser.gather rows) (key : String) :
    key ∈ entry.permissions ↔
      ∃ row ∈ rows, row.grant = (entry.userId, key) := by
  obtain ⟨first, rest, hrows, hfold⟩ := byUser.eq_of_mem_gather hentry
  have hkeys : key ∈ entry.permissions ↔
      ∃ row ∈ first :: rest, row.permissionKey = key := by
    rw [hfold]
    refine (permissions_foldl rest _ key).trans ?_
    change key ∈ AdminEntry.addText [] first.permissionKey ∨ _ ↔ _
    rw [mem_addText, List.exists_mem_cons_iff]
    refine or_congr_left ?_
    simp [eq_comm]
  rw [hkeys, ← hrows]
  simp only [RowGroups.ofKey, List.mem_filter, decide_eq_true_iff, and_assoc,
    AdminRow.grant, Prod.mk.injEq]
  rfl

section Snapshot

variable {order : Arrangement AdminRow} {db : GovernanceDb} {limit : Nat}

/-- The rows that the limit of the query leaves. -/
def limitedRows (order : Arrangement AdminRow) (db : GovernanceDb)
    (limit : Nat) : List AdminRow :=
  (order.arrange (RbacRepository.adminRows db "admin.")).take (limit * 10)

theorem mem_snapshot {entry : AdminEntry} :
    entry ∈ RbacService.getAdminAccessSnapshot order db limit ↔
      ∃ group ∈ (byUser.gather (limitedRows order db limit)).take limit,
        group.sorted = entry :=
  List.mem_map

theorem mem_sorted_permissions (entry : AdminEntry) (key : String) :
    key ∈ entry.sorted.permissions ↔ key ∈ entry.permissions :=
  (RowOrder.ascending_perm AdminEntry.codeUnits _).mem_iff

theorem grant_of_limited {row : AdminRow}
    (hrow : row ∈ limitedRows order db limit) :
    row.grant ∈ directGrants db.toRbacDb := by
  rw [← mem_adminRows]
  refine ⟨row, ?_, rfl⟩
  exact (order.perm _).mem_iff.mp (List.mem_of_mem_take hrow)

/-- What the snapshot shows comes from the rows that were left. -/
theorem listed_sound {entry : AdminEntry} {key : String}
    (hentry : entry ∈ RbacService.getAdminAccessSnapshot order db limit)
    (hkey : key ∈ entry.permissions) :
    ∃ row ∈ limitedRows order db limit, row.grant = (entry.userId, key) := by
  obtain ⟨group, hgroup, rfl⟩ := mem_snapshot.mp hentry
  rw [mem_sorted_permissions] at hkey
  exact (permissions_gather (List.mem_of_mem_take hgroup) key).mp hkey

/-- Where the users fit, all rows that were left are shown. -/
theorem listed_complete {userId : String}
    (husers : AtMost limit fun userId =>
      ∃ key, (userId, key) ∈ directGrants db.toRbacDb)
    (hlisted : ∃ row ∈ limitedRows order db limit, row.userId = userId) :
    ∃ entry ∈ RbacService.getAdminAccessSnapshot order db limit,
      entry.userId = userId ∧ ∀ key,
        (∃ row ∈ limitedRows order db limit, row.grant = (userId, key)) →
        key ∈ entry.permissions := by
  have hfits : (byUser.gather (limitedRows order db limit)).length ≤ limit := by
    have hle := husers _ (byUser.nodup_keys (limitedRows order db limit)) ?_
    · rwa [List.length_map] at hle
    intro other hother
    obtain ⟨row, hrow, rfl⟩ := (byUser.mem_keys _ other).mp hother
    exact ⟨row.permissionKey, grant_of_limited hrow⟩
  obtain ⟨group, hgroup, hkey⟩ :=
    List.mem_map.mp ((byUser.mem_keys _ userId).mpr hlisted)
  refine ⟨group.sorted, mem_snapshot.mpr ⟨group, ?_, rfl⟩, hkey, ?_⟩
  · rwa [List.take_of_length_le hfits]
  · intro key hrow
    have hid : group.userId = userId := hkey
    rw [mem_sorted_permissions, permissions_gather hgroup, hid]
    exact hrow

end Snapshot

/-! ## Orders of rows -/

/-- The rows of a kind come first. -/
def Arrangement.first {Row : Type} (kind : Row → Bool) : Arrangement Row where
  arrange rows := rows.filter kind ++ rows.filter fun row => !kind row
  perm rows := List.filter_append_perm kind rows

/-- Where the other rows are fewer than the limit, a row of the kind is left. -/
theorem exists_mem_take {Row : Type} {rows : List Row} {kind : Row → Bool}
    {count : Nat} (hexists : ∃ row ∈ rows, kind row = true)
    (hothers : (rows.filter fun row => !kind row).length < count) :
    ∃ row ∈ rows.take count, kind row = true := by
  by_contra hnone
  push Not at hnone
  have hall : ((rows.take count).filter fun row => !kind row) =
      rows.take count := by
    rw [List.filter_eq_self]
    intro row hrow
    rw [Bool.eq_false_iff.mpr (hnone row hrow)]
    rfl
  have hsub := ((List.take_sublist count rows).filter
    fun row => !kind row).length_le
  rw [hall, List.length_take] at hsub
  have htake : rows.take count = rows :=
    List.take_of_length_le (by omega)
  obtain ⟨row, hrow, hkind⟩ := hexists
  rw [htake] at hnone
  exact hnone row hrow hkind

/-- Where there are enough rows of the kind, only these are left. -/
theorem take_first {Row : Type} {kind : Row → Bool} {rows : List Row}
    {count : Nat} (henough : count ≤ (rows.filter kind).length) {row : Row}
    (hrow : row ∈ ((Arrangement.first kind).arrange rows).take count) :
    kind row = true := by
  rw [Arrangement.first, List.take_append_of_le_length henough] at hrow
  exact (List.mem_filter.mp (List.mem_of_mem_take hrow)).2

/-! ## Completeness -/

section Complete

variable {options : RbacOptions} {db : GovernanceDb} {sodEnforced : Bool}
  {limit : Nat} {userId : String}

theorem snapshot_complete (hfew : DirectAndFew db sodEnforced limit)
    (order : Arrangement AdminRow) :
    SnapshotComplete order options db sodEnforced limit := by
  intro userId hstored haccess
  have hlimited : ∀ key, HasAdminPermission db.toRbacDb sodEnforced userId key →
      ∃ row ∈ limitedRows order db limit, row.grant = (userId, key) := by
    intro key hkey
    have hperm := order.perm (RbacRepository.adminRows db "admin.")
    have hothers : ((order.arrange (RbacRepository.adminRows db "admin.")).filter
        fun row => !decide (row.grant = (userId, key))).length < limit * 10 := by
      rw [(hperm.filter _).length_eq]
      refine lt_of_eq_of_lt ?_ (hfew.rows userId key hstored hkey)
      rw [← length_adminRows]
      simp
    obtain ⟨row, hrow, hgrant⟩ :=
      mem_adminRows.mpr (hfew.direct userId key hstored hkey)
    obtain ⟨left, hleft, hkind⟩ := exists_mem_take
      ⟨row, hperm.mem_iff.mpr hrow, decide_eq_true hgrant⟩ hothers
    exact ⟨left, hleft, of_decide_eq_true hkind⟩
  obtain ⟨first, hfirst⟩ := (hasAdminAccess_iff userId).mp haccess
  obtain ⟨row, hrow, hgrant⟩ := hlimited first hfirst
  obtain ⟨entry, hentry, hid, hall⟩ := listed_complete hfew.users
    ⟨row, hrow, congrArg Prod.fst hgrant⟩
  exact ⟨entry, hentry, hid, fun key hkey => hall key (hlimited key hkey)⟩

/-- A permission that the snapshot shows is a direct grant. -/
theorem direct_of_complete {order : Arrangement AdminRow}
    (hcomplete : SnapshotComplete order options db sodEnforced limit)
    (hstored : IsStoredId userId) {key : String}
    (hkey : HasAdminPermission db.toRbacDb sodEnforced userId key) :
    ∃ row ∈ limitedRows order db limit, row.grant = (userId, key) := by
  have haccess : HasAdminAccess options db.toRbacDb sodEnforced userId :=
    (hasAdminAccess_iff userId).mpr ⟨key, hkey⟩
  obtain ⟨entry, hentry, rfl, hall⟩ := hcomplete userId hstored haccess
  exact listed_sound hentry (hall key hkey)

/-- The user of an entry is one of the first. -/
theorem listed_user {order : Arrangement AdminRow} {entry : AdminEntry}
    (hentry : entry ∈ RbacService.getAdminAccessSnapshot order db limit) :
    entry.userId ∈ ((byUser.gather (limitedRows order db limit)).map
      byUser.groupKey).take limit := by
  obtain ⟨group, hgroup, rfl⟩ := mem_snapshot.mp hentry
  rw [← List.map_take]
  exact List.mem_map_of_mem (f := byUser.groupKey) hgroup

/-- Enough other users fill the snapshot when their rows come first. -/
theorem not_listed_last {userIds : List String} (hnodup : userIds.Nodup)
    (hlisted : ∀ other ∈ userIds,
      ∃ key, (other, key) ∈ directGrants db.toRbacDb)
    (hmany : limit < userIds.length) {entry : AdminEntry}
    (hentry : entry ∈ RbacService.getAdminAccessSnapshot
      (.first fun row => decide (row.userId ≠ userId)) db limit) :
    entry.userId ≠ userId := by
  have hfirst := listed_user hentry
  by_cases henough : limit * 10 ≤ ((RbacRepository.adminRows db "admin.").filter
      fun row => decide (row.userId ≠ userId)).length
  · obtain ⟨row, hrow, hid⟩ :=
      (byUser.mem_keys _ _).mp (List.mem_of_mem_take hfirst)
    have hkind := take_first henough hrow
    rw [← hid]
    exact of_decide_eq_true hkind
  · have hsplit : ∃ rest, limitedRows
        (.first fun row => decide (row.userId ≠ userId)) db limit =
        ((RbacRepository.adminRows db "admin.").filter
          fun row => decide (row.userId ≠ userId)) ++ rest := by
      rw [limitedRows, Arrangement.first, List.take_append,
        List.take_of_length_le (Nat.not_le.mp henough).le]
      exact ⟨_, rfl⟩
    obtain ⟨rest, hsplit⟩ := hsplit
    obtain ⟨more, hkeys⟩ := byUser.keys_prefix
      ((RbacRepository.adminRows db "admin.").filter
        fun row => decide (row.userId ≠ userId)) rest
    have hothers : userIds.erase userId ⊆ (byUser.gather
        ((RbacRepository.adminRows db "admin.").filter
          fun row => decide (row.userId ≠ userId))).map byUser.groupKey := by
      intro other hother
      have hne := ((hnodup.mem_erase_iff).mp hother).1
      obtain ⟨key, hkey⟩ := hlisted other (List.mem_of_mem_erase hother)
      obtain ⟨row, hrow, hgrant⟩ := mem_adminRows.mpr hkey
      have hid : row.userId = other := congrArg Prod.fst hgrant
      refine (byUser.mem_keys _ _).mpr ⟨row, List.mem_filter.mpr ⟨hrow, ?_⟩, hid⟩
      rw [hid]
      exact decide_eq_true hne
    have hlength := (List.subperm_of_subset (hnodup.erase userId)
      hothers).length_le
    have herase := List.le_length_erase (a := userId) (l := userIds)
    rw [hsplit, ← hkeys, List.take_append_of_le_length (by omega)] at hfirst
    obtain ⟨row, hrow, hid⟩ :=
      (byUser.mem_keys _ _).mp (List.mem_of_mem_take hfirst)
    rw [← hid]
    exact of_decide_eq_true (List.mem_filter.mp hrow).2

/-- The other users' rows can come first and leave no place. -/
theorem users_of_complete (hcomplete : ∀ order,
      SnapshotComplete order options db sodEnforced limit)
    (hstored : IsStoredId userId)
    (haccess : HasAdminAccess options db.toRbacDb sodEnforced userId) :
    AtMost limit fun other =>
      ∃ key, (other, key) ∈ directGrants db.toRbacDb := by
  intro userIds hnodup hlisted
  by_contra hmany
  obtain ⟨entry, hentry, hid, -⟩ := hcomplete
    (.first fun row => decide (row.userId ≠ userId)) userId hstored haccess
  exact not_listed_last hnodup hlisted (Nat.not_le.mp hmany) hentry hid

theorem rows_of_complete (hcomplete : ∀ order,
      SnapshotComplete order options db sodEnforced limit)
    (hstored : IsStoredId userId) {key : String}
    (hkey : HasAdminPermission db.toRbacDb sodEnforced userId key) :
    weight db ((directGrants db.toRbacDb).filter (· ≠ (userId, key))) <
      limit * 10 := by
  by_contra hmany
  rw [Nat.not_lt, ← length_adminRows] at hmany
  obtain ⟨row, hrow, hgrant⟩ := direct_of_complete
    (hcomplete (.first fun row => decide (row.grant ≠ (userId, key))))
    hstored hkey
  have hkind := take_first hmany hrow
  exact of_decide_eq_true hkind hgrant

end Complete

/-! ## Access through a group -/

namespace GovernanceWitness

def options : RbacOptions :=
  { RbacWitness.options with cacheEnabled := false, cachePercent := 0 }

def operator : String := "a0eebc99-9c0b-4ef8-bb6d-6bb9bd380a11"

/-- One user, who reads the audit log as a member of a group. -/
def db : GovernanceDb where
  permissions := ⟨[⟨"permission-1", "admin.audit:read"⟩], by simp⟩
  rolePermissions := RbacWitness.db.rolePermissions
  userRoles := .empty
  groups := ⟨[⟨"group-1", "organization-1"⟩], by simp⟩
  groupMemberships := ⟨[⟨operator, "group-1"⟩], by simp⟩
  groupRoles := ⟨[⟨"group-1", "role-1"⟩], by simp⟩
  entitlements := .empty
  roles := ⟨[⟨"role-1", "auditor"⟩], by simp⟩
  userEmails := .empty
  role_stored row hrow := absurd hrow (Table.not_mem_empty row)

def input : AdminInput := ⟨operator, "admin.audit", "read", none, none, none⟩

theorem operator_access (sodEnforced : Bool) :
    HasAdminAccess options db.toRbacDb sodEnforced operator := by
  refine ⟨input, rfl, by decide +kernel,
    (assertAdminPermission_iff input).mpr ⟨["admin.audit:read"], ?_, .inl ?_⟩⟩
  · decide +kernel
  · decide +kernel

theorem access_eq (sodEnforced : Bool) {userId : String}
    (hstored : IsStoredId userId)
    (haccess : HasAdminAccess options db.toRbacDb sodEnforced userId) :
    userId = operator := by
  by_contra hother
  obtain ⟨key, ⟨permissions, hkeys, hkey⟩, -⟩ :=
    (hasAdminAccess_iff userId).mp haccess
  have hne : operator ≠ userId := Ne.symm hother
  have hnone : RbacRepository.listPermissionKeys db.toRbacDb userId none none =
      some [] := by
    unfold RbacRepository.listPermissionKeys RbacRepository.userGroups
    rw [hstored]
    simp [hne, innerJoin, RbacRepository.permissionKeys, uuidFilter, orNull,
      db, Table.select, Table.empty, List.filter_cons]
  rw [hkeys] at hnone
  cases hnone
  cases hkey

theorem accessWithin (sodEnforced : Bool) :
    AccessWithin options db.toRbacDb sodEnforced 100 := by
  intro userIds hnodup haccess
  have hsubset : userIds ⊆ [operator] := by
    intro userId hmem
    obtain ⟨hstored, hadmin⟩ := haccess userId hmem
    exact List.mem_singleton.mpr (access_eq sodEnforced hstored hadmin)
  have hlength := (List.subperm_of_subset hnodup hsubset).length_le
  exact hlength.trans (by decide)

end GovernanceWitness

end IdProvider
