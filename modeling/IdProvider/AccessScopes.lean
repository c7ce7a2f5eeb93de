/-
What scopes do to access checks: a context only takes permissions away, and an
entitlement comes from the most specific scope that has an active row.
-/
import IdProvider.Governance
import IdProvider.RbacTransparency
import IdProvider.ScopedLookup

namespace IdProvider

open KeyedTable ScopedLookup

/-! ## Filters and memberships -/

/-- An optional filter leaves this id in. -/
def Selects (filter : Option String) (id : String) : Prop :=
  ∀ wanted, orNull filter = some wanted → parseUuid wanted = some id

/-- The second filter is the first one, or is there in place of none. -/
def Narrows (wide narrow : Option String) : Prop :=
  orNull wide = none ∨ narrow = wide

structure MemberOf (db : RbacDb) (userId : String) (group : Group) : Prop where
  stored : group ∈ db.groups
  joined : ∃ membership ∈ db.groupMemberships,
    parseUuid userId = some membership.userId ∧ membership.groupId = group.id

theorem passes_iff {text filter : Option String}
    (hfilter : uuidFilter text = some filter) (id : String) :
    passes filter id = true ↔ Selects text id := by
  unfold uuidFilter at hfilter
  unfold Selects
  cases htext : orNull text with
  | none =>
      rw [htext, Option.some.injEq] at hfilter
      subst hfilter
      simp [passes]
  | some wanted =>
      rw [htext, Option.map_eq_some_iff] at hfilter
      obtain ⟨uuid, huuid, rfl⟩ := hfilter
      rw [passes, Option.all_some, beq_iff_eq]
      constructor
      · rintro rfl _ ⟨⟩
        exact huuid
      · intro hselects
        have hsame := hselects wanted rfl
        rw [huuid, Option.some.injEq] at hsame
        exact hsame.symm

theorem Narrows.uuidFilter {wide narrow filter : Option String}
    (hnarrows : Narrows wide narrow)
    (hfilter : uuidFilter narrow = some filter) :
    ∃ wider, IdProvider.uuidFilter wide = some wider ∧
      ∀ id, passes filter id = true → passes wider id = true := by
  rcases hnarrows with hnone | rfl
  · refine ⟨none, ?_, fun _ _ => rfl⟩
    rw [IdProvider.uuidFilter, hnone]
  · exact ⟨filter, hfilter, fun _ hpasses => hpasses⟩

namespace RbacRepository

theorem mem_userGroups {db : RbacDb} {userId : String}
    {groupId organizationId : Option String} {group : Group} :
    group ∈ userGroups db userId groupId organizationId ↔
      (group ∈ db.groups ∧ ∃ membership ∈ db.groupMemberships,
        membership.userId = userId ∧ membership.groupId = group.id) ∧
      passes groupId group.id = true ∧
        passes organizationId group.organizationId = true := by
  rw [userGroups, List.mem_filter, List.mem_map, Bool.and_eq_true]
  apply and_congr_left
  rintro -
  constructor
  · rintro ⟨⟨membership, other⟩, hjoin, rfl⟩
    rw [mem_innerJoin, Table.mem_select, beq_iff_eq, beq_iff_eq] at hjoin
    obtain ⟨⟨hmembership, huser⟩, hgroup, hid⟩ := hjoin
    exact ⟨hgroup, membership, hmembership, huser, hid⟩
  · rintro ⟨hgroup, membership, hmembership, huser, hid⟩
    refine ⟨(membership, group), ?_, rfl⟩
    rw [mem_innerJoin, Table.mem_select, beq_iff_eq, beq_iff_eq]
    exact ⟨⟨hmembership, huser⟩, hgroup, hid⟩

/-- The groups that the queries join are those of the user that the context
selects. -/
theorem mem_userGroups_iff {db : RbacDb} {userId uuid : String}
    {groupId organizationId groupFilter organizationFilter : Option String}
    (huser : parseUuid userId = some uuid)
    (hgroup : uuidFilter groupId = some groupFilter)
    (horganization : uuidFilter organizationId = some organizationFilter)
    (group : Group) :
    group ∈ userGroups db uuid groupFilter organizationFilter ↔
      MemberOf db userId group ∧ Selects groupId group.id ∧
        Selects organizationId group.organizationId := by
  have hmember : (group ∈ db.groups ∧ ∃ membership ∈ db.groupMemberships,
      membership.userId = uuid ∧ membership.groupId = group.id) ↔
      MemberOf db userId group := by
    constructor
    · rintro ⟨hstored, membership, hmembership, rfl, hid⟩
      exact ⟨hstored, membership, hmembership, huser, hid⟩
    · rintro ⟨hstored, membership, hmembership, hown, hid⟩
      rw [huser, Option.some.injEq] at hown
      exact ⟨hstored, membership, hmembership, hown.symm, hid⟩
  rw [mem_userGroups, hmember, passes_iff hgroup, passes_iff horganization]

/-! ## Permissions -/

theorem permissionKeys_subset {db : RbacDb} {roleIds others : List String}
    (hsubset : roleIds ⊆ others) :
    permissionKeys db roleIds ⊆ permissionKeys db others := by
  intro key hkey
  obtain ⟨⟨⟨roleId, row⟩, permission⟩, hjoin, rfl⟩ := List.mem_map.mp hkey
  rw [mem_innerJoin, mem_innerJoin] at hjoin
  obtain ⟨⟨hrole, hrow, hrowRole⟩, hpermission⟩ := hjoin
  refine List.mem_map.mpr ⟨((roleId, row), permission), ?_, rfl⟩
  rw [mem_innerJoin, mem_innerJoin]
  exact ⟨⟨hsubset hrole, hrow, hrowRole⟩, hpermission⟩

theorem userGroups_subset {db : RbacDb} {userId : String}
    {groupId organizationId widerGroupId widerOrganizationId : Option String}
    (hgroup : ∀ id, passes groupId id = true → passes widerGroupId id = true)
    (horganization : ∀ id, passes organizationId id = true →
      passes widerOrganizationId id = true) :
    userGroups db userId groupId organizationId ⊆
      userGroups db userId widerGroupId widerOrganizationId := by
  intro group hmem
  rw [mem_userGroups] at hmem ⊢
  obtain ⟨hmember, hpassesGroup, hpassesOrganization⟩ := hmem
  exact ⟨hmember, hgroup _ hpassesGroup, horganization _ hpassesOrganization⟩

/-- A wider context finds what a narrower one does, and does not throw where
that one answers. -/
theorem listPermissionKeys_narrows {db : RbacDb} {userId : String}
    {organizationId groupId narrowOrganizationId narrowGroupId : Option String}
    {permissions : List String}
    (horganization : Narrows organizationId narrowOrganizationId)
    (hgroup : Narrows groupId narrowGroupId)
    (hlist : listPermissionKeys db userId narrowOrganizationId narrowGroupId =
      some permissions) :
    ∃ wider, listPermissionKeys db userId organizationId groupId =
      some wider ∧ permissions ⊆ wider := by
  simp only [listPermissionKeys, Option.bind_eq_bind, Option.bind_eq_some_iff,
    Option.pure_def, Option.some.injEq] at hlist ⊢
  obtain ⟨uuid, huser, groupFilter, hgroupFilter, organizationFilter,
    horganizationFilter, rfl⟩ := hlist
  obtain ⟨widerGroup, hwiderGroup, hgroupPasses⟩ :=
    hgroup.uuidFilter hgroupFilter
  obtain ⟨widerOrganization, hwiderOrganization, horganizationPasses⟩ :=
    horganization.uuidFilter horganizationFilter
  refine ⟨_, ⟨uuid, huser, widerGroup, hwiderGroup, widerOrganization,
    hwiderOrganization, rfl⟩, ?_⟩
  intro key hkey
  rw [List.mem_eraseDups, List.mem_append] at hkey ⊢
  refine hkey.imp_right fun hgrouped => permissionKeys_subset ?_ hgrouped
  intro roleId hrole
  obtain ⟨⟨group, row⟩, hjoin, rfl⟩ := List.mem_map.mp hrole
  refine List.mem_map.mpr ⟨(group, row), ?_, rfl⟩
  rw [mem_innerJoin] at hjoin ⊢
  exact ⟨userGroups_subset hgroupPasses horganizationPasses hjoin.1, hjoin.2⟩

end RbacRepository

/-! ## Entitlements -/

inductive EntitlementScope where
  | user
  | group
  | organization
  deriving DecidableEq

namespace EntitlementScope

def name : EntitlementScope → String
  | .user => "user"
  | .group => "group"
  | .organization => "organization"

/-- The scopes that are looked at first. -/
def moreSpecific : EntitlementScope → List EntitlementScope
  | .user => []
  | .group => [.user]
  | .organization => [.user, .group]

end EntitlementScope

/-- The rows of a scope: those of the user, of a selected group that the user
is a member of, and of the named organization if a group of the user belongs
to it. -/
def InScope (db : RbacDb) (userId : String)
    (organizationId groupId : Option String) (row : Entitlement) :
    EntitlementScope → Prop
  | .user => ∃ owner, row.userId = some owner ∧ parseUuid userId = some owner
  | .group => ∃ group, MemberOf db userId group ∧
      row.groupId = some group.id ∧ Selects groupId group.id ∧
        Selects organizationId group.organizationId
  | .organization => ∃ group, MemberOf db userId group ∧
      row.organizationId = some group.organizationId ∧
        orNull organizationId ≠ none ∧
        Selects organizationId group.organizationId

/-- An active row of the key. -/
structure ActiveFor (db : RbacDb) (now : Instant) (key : String)
    (row : Entitlement) : Prop where
  stored : row ∈ db.entitlements
  key : row.key = key
  active : RbacRepository.isActive now row = true

/-- The most recently created active row of a scope, where more specific ones
have none. -/
structure FoundIn (db : RbacDb) (now : Instant) (key userId : String)
    (organizationId groupId : Option String) (scope : EntitlementScope)
    (row : Entitlement) : Prop where
  activeFor : ActiveFor db now key row
  inScope : InScope db userId organizationId groupId row scope
  newest : ∀ other, ActiveFor db now key other →
    InScope db userId organizationId groupId other scope →
      other.createdAt.micros ≤ row.createdAt.micros
  mostSpecific : ∀ earlier ∈ scope.moreSpecific, ∀ other,
    ActiveFor db now key other →
      ¬ InScope db userId organizationId groupId other earlier

/-- What a lookup may return. -/
def IsScoped (db : RbacDb) (now : Instant) (key userId : String)
    (organizationId groupId : Option String) :
    Option RbacRepository.Resolved → Prop
  | none => ∀ row, ActiveFor db now key row →
      ∀ scope, ¬ InScope db userId organizationId groupId row scope
  | some resolved => ∃ scope row,
      resolved = ⟨row.value, scope.name⟩ ∧
        FoundIn db now key userId organizationId groupId scope row

namespace RbacRepository

section Lookup

variable {db : RbacDb} {now : Instant} {key : String}

/-- The rows that a query of one scope selects. -/
def RowsOf (db : RbacDb) (now : Instant) (key userId : String)
    (organizationId groupId : Option String) (scope : EntitlementScope)
    (rows : List Entitlement) : Prop :=
  ∀ row, row ∈ rows ↔ ActiveFor db now key row ∧
    InScope db userId organizationId groupId row scope

theorem mem_matching {where_ : Entitlement → Bool} {row : Entitlement} :
    row ∈ matching db now key where_ ↔
      ActiveFor db now key row ∧ where_ row = true := by
  rw [matching, Table.mem_select, Bool.and_eq_true, Bool.and_eq_true,
    beq_iff_eq]
  constructor
  · rintro ⟨hstored, ⟨hkey, hwhere⟩, hactive⟩
    exact ⟨⟨hstored, hkey, hactive⟩, hwhere⟩
  · rintro ⟨⟨hstored, hkey, hactive⟩, hwhere⟩
    exact ⟨hstored, ⟨hkey, hwhere⟩, hactive⟩

theorem newest_eq (rows : List Entitlement) :
    RbacRepository.newest rows =
      ScopedLookup.newest (fun row : Entitlement => row.createdAt.micros)
        rows := rfl

theorem rowsOf_user {userId uuid : String}
    {organizationId groupId : Option String}
    (huser : parseUuid userId = some uuid) :
    RowsOf db now key userId organizationId groupId .user
      (matching db now key fun row => row.userId == some uuid) := by
  intro row
  rw [mem_matching, beq_iff_eq, InScope, huser]
  simp

theorem rowsOf_group {userId uuid : String}
    {organizationId groupId groupFilter organizationFilter : Option String}
    (huser : parseUuid userId = some uuid)
    (hgroup : uuidFilter groupId = some groupFilter)
    (horganization : uuidFilter organizationId = some organizationFilter) :
    RowsOf db now key userId organizationId groupId .group
      (matching db now key fun row =>
        (userGroups db uuid groupFilter organizationFilter).any fun group =>
          row.groupId == some group.id) := by
  intro row
  rw [mem_matching, List.any_eq_true]
  apply and_congr_right
  rintro -
  simp only [mem_userGroups_iff huser hgroup horganization, beq_iff_eq,
    InScope]
  constructor
  · rintro ⟨group, ⟨hmember, hselects⟩, hrow⟩
    exact ⟨group, hmember, hrow, hselects⟩
  · rintro ⟨group, hmember, hrow, hselects⟩
    exact ⟨group, ⟨hmember, hselects⟩, hrow⟩

/-- The rows of the organization, none if no group of the user is in it. -/
def organizationRows (db : RbacDb) (now : Instant) (key userId : String)
    (organizationId : Option String) : List Entitlement :=
  match organizationId with
  | none => []
  | some organizationId =>
      if userGroups db userId none (some organizationId) = [] then []
      else
        matching db now key fun row =>
          row.organizationId == some organizationId

theorem findOrganizationEntitlement_eq (userId : String)
    (organizationId : Option String) :
    findOrganizationEntitlement db now key userId organizationId =
      (RbacRepository.newest
        (organizationRows db now key userId organizationId)).map fun row =>
          ⟨row.value, "organization"⟩ := by
  unfold findOrganizationEntitlement organizationRows
  cases organizationId with
  | none => rfl
  | some organizationId =>
      dsimp only
      split
      · rfl
      · rfl

theorem rowsOf_organization {userId uuid : String}
    {organizationId groupId organizationFilter : Option String}
    (huser : parseUuid userId = some uuid)
    (horganization : uuidFilter organizationId = some organizationFilter) :
    RowsOf db now key userId organizationId groupId .organization
      (organizationRows db now key uuid organizationFilter) := by
  intro row
  have hpasses := passes_iff horganization
  have hmembers : ∀ group, group ∈ userGroups db uuid none organizationFilter ↔ _ :=
    mem_userGroups_iff huser (show uuidFilter none = some none from rfl)
      horganization
  have hnone : organizationFilter = none ↔ orNull organizationId = none := by
    unfold uuidFilter at horganization
    cases hgiven : orNull organizationId with
    | none =>
        rw [hgiven, Option.some.injEq] at horganization
        simp [← horganization]
    | some wanted =>
        rw [hgiven, Option.map_eq_some_iff] at horganization
        obtain ⟨id, -, rfl⟩ := horganization
        simp
  cases organizationFilter with
  | none =>
      simp [organizationRows, InScope, hnone.mp rfl]
  | some wanted =>
      have hselects : ∀ id, Selects organizationId id ↔ id = wanted := by
        intro id
        rw [← hpasses, passes, Option.all_some, beq_iff_eq]
      have hgiven : orNull organizationId ≠ none := by
        intro hgiven
        cases hnone.mpr hgiven
      rw [organizationRows]
      split
      case isTrue hempty =>
        simp only [List.not_mem_nil, false_iff, not_and]
        rintro - ⟨group, hmember, -, -, hgroup⟩
        have hany : Selects none group.id := by
          intro wanted hwanted
          cases hwanted
        have hmem := (hmembers group).mpr ⟨hmember, hany, hgroup⟩
        rw [hempty] at hmem
        cases hmem
      case isFalse hgroups =>
        obtain ⟨group, hgroup⟩ := List.exists_mem_of_ne_nil _ hgroups
        obtain ⟨hmember, -, hin⟩ := (hmembers group).mp hgroup
        rw [mem_matching, beq_iff_eq]
        apply and_congr_right
        rintro -
        constructor
        · intro hrow
          refine ⟨group, hmember, ?_, hgiven, hin⟩
          rw [hrow, (hselects _).mp hin]
        · rintro ⟨other, -, hrow, -, hother⟩
          rw [hrow, (hselects _).mp hother]

/-- What the scopes hold decides what the lookup may find. -/
theorem isScoped_of_lookup {userId : String}
    {organizationId groupId : Option String}
    {userRows groupRows organizationRows : List Entitlement}
    (huser : RowsOf db now key userId organizationId groupId .user userRows)
    (hgroup : RowsOf db now key userId organizationId groupId .group groupRows)
    (horganization : RowsOf db now key userId organizationId groupId
      .organization organizationRows) :
    IsScoped db now key userId organizationId groupId
      ((lookup (fun row : Entitlement => row.createdAt.micros)
        [(EntitlementScope.user, userRows), (.group, groupRows),
          (.organization, organizationRows)]).map fun found =>
            ⟨found.2.value, found.1.name⟩) := by
  have hempty : ∀ {scope : EntitlementScope} {rows : List Entitlement},
      RowsOf db now key userId organizationId groupId scope rows → rows = [] →
        ∀ row, ActiveFor db now key row →
          ¬ InScope db userId organizationId groupId row scope := by
    rintro scope rows hrows rfl row hactive hscope
    exact List.not_mem_nil ((hrows row).mpr ⟨hactive, hscope⟩)
  have hfound : ∀ {scope : EntitlementScope} {rows : List Entitlement}
      {row : Entitlement},
      RowsOf db now key userId organizationId groupId scope rows →
      IsNewest (fun row : Entitlement => row.createdAt.micros) rows row →
      (∀ earlier ∈ scope.moreSpecific, ∀ other, ActiveFor db now key other →
        ¬ InScope db userId organizationId groupId other earlier) →
      FoundIn db now key userId organizationId groupId scope row := by
    intro scope rows row hrows hnewest hearlier
    obtain ⟨hactive, hscope⟩ := (hrows row).mp hnewest.mem
    refine ⟨hactive, hscope, fun other hother hin => ?_, hearlier⟩
    exact hnewest.le other ((hrows other).mpr ⟨hother, hin⟩)
  cases hlookup : lookup (fun row : Entitlement => row.createdAt.micros)
      [(EntitlementScope.user, userRows), (.group, groupRows),
        (.organization, organizationRows)] with
  | none =>
      rw [lookup_eq_none] at hlookup
      simp only [List.forall_mem_cons] at hlookup
      intro row hactive scope
      cases scope with
      | user => exact hempty huser hlookup.1 row hactive
      | group => exact hempty hgroup hlookup.2.1 row hactive
      | organization => exact hempty horganization hlookup.2.2.1 row hactive
  | some found =>
      obtain ⟨scope, row⟩ := found
      refine ⟨scope, row, rfl, ?_⟩
      obtain ⟨before, rows, after, hscopes, hbefore, hrow⟩ :=
        lookup_eq_some hlookup
      -- the scopes before the one that was found
      rcases before with _ | ⟨first, _ | ⟨second, _ | ⟨third, before⟩⟩⟩
      · cases hscopes
        exact hfound huser hrow nofun
      · cases hscopes
        refine hfound hgroup hrow ?_
        rintro earlier (_ | ⟨_, ⟨⟩⟩)
        exact hempty huser (hbefore _ List.mem_cons_self)
      · cases hscopes
        refine hfound horganization hrow ?_
        rintro earlier (_ | ⟨_, _ | ⟨_, ⟨⟩⟩⟩)
        · exact hempty huser (hbefore _ List.mem_cons_self)
        · exact hempty hgroup
            (hbefore _ (List.mem_cons_of_mem _ List.mem_cons_self))
      · cases before <;> cases hscopes

theorem exists_rowsOf (db : RbacDb) (now : Instant) (key userId : String)
    (organizationId groupId : Option String) (scope : EntitlementScope) :
    ∃ rows, RowsOf db now key userId organizationId groupId scope rows := by
  classical
  refine ⟨db.entitlements.select fun row => decide (ActiveFor db now key row ∧
    InScope db userId organizationId groupId row scope), fun row => ?_⟩
  rw [Table.mem_select, decide_eq_true_eq]
  exact and_iff_right_of_imp fun hrow => hrow.1.stored

/-- A lookup that returns goes through the scopes in order. -/
theorem isScoped_findEntitlement {userId : String}
    {organizationId groupId : Option String} {found : Option Resolved}
    (hfind : findEntitlement db now key userId organizationId groupId =
      some found) :
    IsScoped db now key userId organizationId groupId found := by
  rw [findEntitlement, Option.bind_eq_bind, Option.bind_eq_some_iff] at hfind
  obtain ⟨uuid, huser, hfind⟩ := hfind
  split at hfind
  case isTrue => cases hfind
  case isFalse =>
    have huserRows : RowsOf db now key userId organizationId groupId .user _ :=
      rowsOf_user huser
    rw [newest_eq] at hfind
    split at hfind
    case h_1 row hrow =>
      -- the other scopes are not looked at, nor are their filters read
      obtain ⟨groupRows, hgroupRows⟩ := exists_rowsOf db now key userId
        organizationId groupId .group
      obtain ⟨organizationRows, horganizationRows⟩ := exists_rowsOf db now key
        userId organizationId groupId .organization
      have hscoped := isScoped_of_lookup huserRows hgroupRows horganizationRows
      rw [lookup, hrow] at hscoped
      cases hfind
      exact hscoped
    case h_2 hrow =>
      simp only [Option.bind_eq_bind, Option.bind_eq_some_iff] at hfind
      obtain ⟨groupFilter, hgroup, organizationFilter, horganization, hfind⟩ :=
        hfind
      have hscoped := isScoped_of_lookup huserRows
        (rowsOf_group huser hgroup horganization)
        (rowsOf_organization huser horganization)
      rw [newest_eq] at hfind
      split at hfind
      case h_1 row hgroupRow =>
        rw [lookup, hrow] at hscoped
        dsimp only at hscoped
        rw [lookup, hgroupRow] at hscoped
        cases hfind
        exact hscoped
      case h_2 hgroupRow =>
        rw [findOrganizationEntitlement_eq, newest_eq] at hfind
        rw [lookup, hrow] at hscoped
        dsimp only at hscoped
        rw [lookup, hgroupRow] at hscoped
        dsimp only at hscoped
        rw [lookup] at hscoped
        cases hfind
        split at hscoped
        case h_1 row horganizationRow =>
          rw [horganizationRow]
          exact hscoped
        case h_2 horganizationRow =>
          rw [horganizationRow]
          exact hscoped

end Lookup

end RbacRepository

/-! ## Both checks -/

/-- The same question with a context in place of none. -/
structure AddsContext (wide narrow : AuthorizationInput) : Prop where
  userId : narrow.userId = wide.userId
  action : narrow.action = wide.action
  resource : narrow.resource = wide.resource
  organizationId : Narrows wide.organizationId narrow.organizationId
  groupId : Narrows wide.groupId narrow.groupId

section Checks

variable (runtime : NumberRuntime) (options : RbacOptions) (db : RbacDb)
  (now : Instant)

/-- Nothing is cached yet. -/
theorem throughCache_empty (userId cacheKey : String)
    (decision : Option RbacService.Decision) :
    (RbacService.throughCache runtime options now RbacCache.empty userId
      cacheKey decision).1 = decision.map RbacService.Decision.result := by
  unfold RbacService.throughCache
  split
  case isTrue =>
    cases decision with
    | none => rfl
    | some decision => rfl
  case isFalse => rfl

/-- The check answers that the user may. -/
def isAuthorized (input : AuthorizationInput) : Bool :=
  (RbacService.authorizationCheck runtime options db now RbacCache.empty
    input).1.any isAllowed

theorem isAuthorized_iff (input : AuthorizationInput) :
    isAuthorized runtime options db now input = true ↔ Permitted db input := by
  rw [isAuthorized, RbacService.authorizationCheck, throughCache_empty]
  change (authorize options db input).any isAllowed = true ↔ _
  unfold Permitted
  cases hlist : RbacRepository.listPermissionKeys db input.userId
      input.organizationId input.groupId with
  | none =>
      rw [authorize_of_none hlist]
      simp
  | some permissions =>
      obtain ⟨result, hresult, hallowed⟩ :=
        authorize_of_some options input hlist
      rw [hresult, Option.any_some, hallowed]
      simp

theorem Permitted.widen {wide narrow : AuthorizationInput}
    (hadds : AddsContext wide narrow) (hpermitted : Permitted db narrow) :
    Permitted db wide := by
  obtain ⟨permissions, hlist, hpermits⟩ := hpermitted
  rw [hadds.userId] at hlist
  obtain ⟨wider, hwider, hsubset⟩ := RbacRepository.listPermissionKeys_narrows
    hadds.organizationId hadds.groupId hlist
  obtain ⟨key, hkey, hgrants⟩ := (permits_iff permissions narrow).mp hpermits
  refine ⟨wider, hwider, (permits_iff wider wide).mpr
    ⟨key, hsubset hkey, ?_⟩⟩
  rw [permits_singleton] at hgrants ⊢
  rwa [hadds.action, hadds.resource] at hgrants

/-- A context turns no denial into an allowance, and entitlements are found in
the scopes that the user is in. -/
theorem scoping_sound :
    (∀ wide narrow : AuthorizationInput, AddsContext wide narrow →
      isAuthorized runtime options db now narrow = true →
        isAuthorized runtime options db now wide = true) ∧
    ∀ (key userId : String) (organizationId groupId : Option String)
      (found : Option RbacRepository.Resolved),
      RbacRepository.findEntitlement db now key userId organizationId groupId =
        some found →
      IsScoped db now key userId organizationId groupId found := by
  constructor
  · intro wide narrow hadds hnarrow
    rw [isAuthorized_iff] at hnarrow ⊢
    exact hnarrow.widen db hadds
  · intro key userId organizationId groupId found hfind
    exact RbacRepository.isScoped_findEntitlement hfind

end Checks

namespace AccessScopeWitness

def userId : String := "a0eebc99-9c0b-4ef8-bb6d-6bb9bd380a11"
def groupId : String := "4f8a2c1e-6b3d-4a57-9c0e-1d2f3a4b5c6d"
def organizationId : String := "9d3c5e7f-1a2b-4c3d-8e4f-5a6b7c8d9e0f"

def entitlement (id : String) (group organization : Option String)
    (micros : Int) : Entitlement where
  id := id
  key := "storage"
  enabled := true
  value := .str id
  userId := none
  groupId := group
  organizationId := organization
  expiresAt := none
  createdAt := ⟨micros⟩

/-- A group whose role lets its members read, with two entitlements; the
organization has a newer one. -/
def db : RbacDb where
  permissions := RbacWitness.db.permissions
  rolePermissions := RbacWitness.db.rolePermissions
  userRoles := .empty
  groups := ⟨[⟨groupId, organizationId⟩], by simp⟩
  groupMemberships := ⟨[⟨userId, groupId⟩], by simp⟩
  groupRoles := ⟨[⟨groupId, "role-1"⟩], by simp⟩
  entitlements :=
    ⟨[entitlement "first" (some groupId) none 1,
      entitlement "second" (some groupId) none 2,
      entitlement "third" none (some organizationId) 3], by decide⟩

def reading (group : Option String) : AuthorizationInput :=
  ⟨userId, "read", "document", none, group⟩

theorem scoping_sound_group :
    isAuthorized .ofTexts RbacWitness.options db 0 (reading none) = true ∧
      IsScoped db 0 "storage" userId (some organizationId) none
        (some ⟨.str "second", "group"⟩) := by
  obtain ⟨hwiden, hscoped⟩ :=
    scoping_sound .ofTexts RbacWitness.options db 0
  constructor
  · exact hwiden (reading none) (reading (some groupId))
      ⟨rfl, rfl, rfl, .inl rfl, .inl rfl⟩ (by decide +kernel)
  · exact hscoped _ _ _ _ _ (by decide +kernel)

end AccessScopeWitness

end IdProvider
