/-
Lookups scope by scope: the newest row of the first scope that has any, and
queries that are run one after the other until the row of one is accepted.
-/
import IdProvider.RowOrder

namespace ScopedLookup

variable {Row Rank Scope : Type} [LinearOrder Rank] (rank : Row → Rank)

/-- `ORDER BY rank DESC LIMIT 1`. -/
def newest (rows : List Row) : Option Row :=
  (RowOrder.descending rank rows).head?

/-- One of the rows, and none of them is newer. -/
structure IsNewest (rows : List Row) (row : Row) : Prop where
  mem : row ∈ rows
  le : ∀ other ∈ rows, rank other ≤ rank row

/-- The scopes in the order of their precedence, each with its rows. -/
def lookup : List (Scope × List Row) → Option (Scope × Row)
  | [] => none
  | (scope, rows) :: scopes =>
      match newest rank rows with
      | some row => some (scope, row)
      | none => lookup scopes

variable {rank}

theorem newest_eq_none {rows : List Row} :
    newest rank rows = none ↔ rows = [] := by
  rw [newest, List.head?_eq_none_iff]
  constructor
  · intro hnil
    have hperm := RowOrder.descending_perm rank rows
    rw [hnil] at hperm
    exact hperm.nil_eq.symm
  · rintro rfl
    rfl

theorem isNewest_of_newest {rows : List Row} {row : Row}
    (hnewest : newest rank rows = some row) : IsNewest rank rows row := by
  have hperm := RowOrder.descending_perm rank rows
  have hsorted := RowOrder.pairwise_descending rank rows
  obtain ⟨older, hrows⟩ := List.head?_eq_some_iff.mp hnewest
  rw [hrows] at hperm hsorted
  constructor
  · exact hperm.mem_iff.mp List.mem_cons_self
  · intro other hother
    rcases List.mem_cons.mp (hperm.mem_iff.mpr hother) with rfl | holder
    · exact le_refl _
    · exact (List.pairwise_cons.mp hsorted).1 other holder

variable {scopes : List (Scope × List Row)}

theorem lookup_eq_none :
    lookup rank scopes = none ↔ ∀ entry ∈ scopes, entry.2 = [] := by
  induction scopes with
  | nil => simp [lookup]
  | cons entry scopes ih =>
      rw [List.forall_mem_cons, ← ih, lookup]
      cases hnewest : newest rank entry.2 with
      | none => simp [newest_eq_none.mp hnewest]
      | some row =>
          have hne : entry.2 ≠ [] := by
            intro hnil
            rw [newest_eq_none.mpr hnil] at hnewest
            cases hnewest
          simp [hne]

/-- What is found is the newest row of its scope, and the scopes before it
have none. -/
theorem lookup_eq_some {scope : Scope} {row : Row}
    (hfound : lookup rank scopes = some (scope, row)) :
    ∃ before rows after, scopes = before ++ (scope, rows) :: after ∧
      (∀ entry ∈ before, entry.2 = []) ∧ IsNewest rank rows row := by
  induction scopes with
  | nil => cases hfound
  | cons entry scopes ih =>
      rw [lookup] at hfound
      cases hnewest : newest rank entry.2 with
      | none =>
          rw [hnewest] at hfound
          obtain ⟨before, rows, after, rfl, hempty, hrow⟩ := ih hfound
          refine ⟨entry :: before, rows, after, rfl, ?_, hrow⟩
          rw [List.forall_mem_cons]
          exact ⟨newest_eq_none.mp hnewest, hempty⟩
      | some newestRow =>
          rw [hnewest] at hfound
          cases hfound
          exact ⟨[], entry.2, scopes, rfl, nofun, isNewest_of_newest hnewest⟩

/-! ## Queries that may throw -/

section Accepted

variable {Row Scope : Type} (query : Scope → Option (Option Row))
  (accepts : Scope → Row → Bool)

/-- The scopes are queried in order, up to the first whose row is accepted. -/
def firstAccepted : List Scope → Option (Option (Scope × Row))
  | [] => some none
  | scope :: scopes =>
      (query scope).bind fun found =>
        match found.filter (accepts scope) with
        | some row => some (some (scope, row))
        | none => firstAccepted scopes

/-- The query returns, and with no row that is accepted. -/
def PassedOver (scope : Scope) : Prop :=
  ∃ found, query scope = some found ∧ found.filter (accepts scope) = none

variable {query accepts}

/-- The scope whose row is accepted comes after scopes that are passed over. -/
theorem firstAccepted_eq_some {scopes : List Scope} {scope : Scope}
    {row : Row} :
    firstAccepted query accepts scopes = some (some (scope, row)) ↔
      ∃ before after, scopes = before ++ scope :: after ∧
        (∀ earlier ∈ before, PassedOver query accepts earlier) ∧
          query scope = some (some row) ∧ accepts scope row = true := by
  induction scopes with
  | nil => simp [firstAccepted]
  | cons first scopes ih =>
      rw [firstAccepted, Option.bind_eq_some_iff]
      constructor
      · rintro ⟨found, hquery, hfirst⟩
        cases haccepted : found.filter (accepts first) with
        | some other =>
            rw [haccepted] at hfirst
            cases hfirst
            obtain ⟨rfl, haccepts⟩ := Option.filter_eq_some_iff.mp haccepted
            exact ⟨[], scopes, rfl, nofun, hquery, haccepts⟩
        | none =>
            rw [haccepted] at hfirst
            obtain ⟨before, after, rfl, hpassed, hrow⟩ := ih.mp hfirst
            refine ⟨first :: before, after, rfl, ?_, hrow⟩
            rw [List.forall_mem_cons]
            exact ⟨⟨found, hquery, haccepted⟩, hpassed⟩
      · rintro ⟨before, after, hscopes, hpassed, hquery, haccepts⟩
        cases before with
        | nil =>
            cases hscopes
            refine ⟨some row, hquery, ?_⟩
            rw [Option.filter_some, if_pos haccepts]
        | cons earlier before =>
            cases hscopes
            rw [List.forall_mem_cons] at hpassed
            obtain ⟨⟨found, hfound, hrejected⟩, hpassed⟩ := hpassed
            refine ⟨found, hfound, ?_⟩
            rw [hrejected]
            exact ih.mpr ⟨before, after, rfl, hpassed, hquery, haccepts⟩

/-- Something is found where a row is accepted and no query before it throws. -/
theorem exists_firstAccepted {before after : List Scope} {scope : Scope}
    {row : Row}
    (hreturns : ∀ earlier ∈ before, ∃ found, query earlier = some found)
    (hquery : query scope = some (some row))
    (haccepts : accepts scope row = true) :
    ∃ entry, firstAccepted query accepts (before ++ scope :: after) =
      some (some entry) := by
  induction before with
  | nil =>
      refine ⟨(scope, row), ?_⟩
      rw [List.nil_append, firstAccepted, hquery, Option.bind_some,
        Option.filter_some, if_pos haccepts]
  | cons first before ih =>
      rw [List.forall_mem_cons] at hreturns
      obtain ⟨⟨found, hfound⟩, hreturns⟩ := hreturns
      rw [List.cons_append, firstAccepted, hfound, Option.bind_some]
      cases found.filter (accepts first) with
      | some other => exact ⟨(first, other), rfl⟩
      | none => exact ih hreturns

/-- Without a row in any scope, it does not matter which ones are accepted. -/
theorem firstAccepted_of_all {scopes : List Scope}
    (hall : ∀ entry,
      firstAccepted query (fun _ _ => true) scopes ≠ some (some entry)) :
    firstAccepted query accepts scopes =
      firstAccepted query (fun _ _ => true) scopes := by
  induction scopes with
  | nil => rfl
  | cons first scopes ih =>
      rw [firstAccepted] at hall ⊢
      rw [firstAccepted]
      cases hquery : query first with
      | none => rfl
      | some found =>
          rw [hquery, Option.bind_some] at hall
          cases found with
          | none => exact ih hall
          | some row => exact absurd rfl (hall (first, row))

/-- A lookup that accepts only some rows, and takes only some of them for a
yes, says the same as one that takes every row for a yes: exactly if it finds
such a row wherever there is one at all. -/
theorem any_firstAccepted_eq_iff {scopes : List Scope}
    {grants : Scope × Row → Bool} :
    (firstAccepted query accepts scopes).map (Option.any grants) =
        (firstAccepted query (fun _ _ => true) scopes).map Option.isSome ↔
      ((∃ entry,
          firstAccepted query (fun _ _ => true) scopes = some (some entry)) →
        ∃ entry, firstAccepted query accepts scopes = some (some entry) ∧
          grants entry = true) := by
  by_cases hsome : ∃ entry,
      firstAccepted query (fun _ _ => true) scopes = some (some entry)
  · obtain ⟨entry, hentry⟩ := hsome
    rw [hentry, Option.map_some, Option.isSome_some, Option.map_eq_some_iff]
    constructor
    · rintro ⟨found, hfound, hany⟩ -
      cases found with
      | none => cases hany
      | some other => exact ⟨other, hfound, hany⟩
    · intro hfinds
      obtain ⟨other, hother, hgrants⟩ := hfinds ⟨entry, rfl⟩
      exact ⟨some other, hother, hgrants⟩
  · refine iff_of_true ?_ fun hentry => absurd hentry hsome
    rw [firstAccepted_of_all (not_exists.mp hsome)]
    cases hall : firstAccepted query (fun _ _ => true) scopes with
    | none => rfl
    | some found =>
        cases found with
        | none => rfl
        | some entry => exact absurd ⟨entry, hall⟩ hsome

end Accepted

end ScopedLookup
