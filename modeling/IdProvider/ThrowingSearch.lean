/-
The search of a list by a test that may throw: it stops at the first item that
passes, and at the first one on which the test throws.
-/
import Mathlib.Data.List.Basic
import Mathlib.Tactic.Common

namespace ThrowingSearch

variable {Item : Type} {verify : Item → Option Bool}

theorem anyM_cons_true {item : Item} {items : List Item}
    (hitem : verify item = some true) :
    (item :: items).anyM verify = some true := by
  simp [List.anyM, hitem]

theorem anyM_cons_none {item : Item} {items : List Item}
    (hitem : verify item = none) : (item :: items).anyM verify = none := by
  simp [List.anyM, hitem]

theorem anyM_cons_false {item : Item} {items : List Item}
    (hitem : verify item = some false) :
    (item :: items).anyM verify = items.anyM verify := by
  simp [List.anyM, hitem]

theorem anyM_map {Source : Type} {read : Source → Item}
    (sources : List Source) :
    (sources.map read).anyM verify =
      sources.anyM fun source => verify (read source) := by
  induction sources with
  | nil => rfl
  | cons source sources ih =>
      simp only [List.map_cons, List.anyM, ih]

theorem anyM_eq_some_false {items : List Item} :
    items.anyM verify = some false ↔
      ∀ item ∈ items, verify item = some false := by
  induction items with
  | nil => simp
  | cons item items ih =>
      rw [List.forall_mem_cons, ← ih]
      cases hitem : verify item with
      | none =>
          rw [anyM_cons_none hitem]
          simp
      | some found =>
          cases found with
          | false =>
              rw [anyM_cons_false hitem]
              simp
          | true =>
              rw [anyM_cons_true hitem]
              simp

/-- The search throws at an item when it has found nothing before. -/
def ThrowsAt (verify : Item → Option Bool) (before : List Item) (item : Item) :
    Prop :=
  (∀ earlier ∈ before, verify earlier = some false) ∧ verify item = none

theorem anyM_eq_none {items : List Item} :
    items.anyM verify = none ↔ ∃ before item later,
      items = before ++ item :: later ∧ ThrowsAt verify before item := by
  constructor
  · intro hany
    induction items with
    | nil => cases hany
    | cons item items ih =>
        cases hitem : verify item with
        | none => exact ⟨[], item, items, rfl, by simp, hitem⟩
        | some found =>
            cases found with
            | true =>
                rw [anyM_cons_true hitem] at hany
                cases hany
            | false =>
                rw [anyM_cons_false hitem] at hany
                obtain ⟨before, thrown, later, rfl, hbefore, hthrown⟩ := ih hany
                exact ⟨item :: before, thrown, later, rfl,
                  List.forall_mem_cons.mpr ⟨hitem, hbefore⟩, hthrown⟩
  · rintro ⟨before, item, later, rfl, hbefore, hitem⟩
    induction before with
    | nil => exact anyM_cons_none hitem
    | cons first before ih =>
        rw [List.forall_mem_cons] at hbefore
        rw [List.cons_append, anyM_cons_false hbefore.1]
        exact ih hbefore.2

/-- A search that succeeds has met no exception before. -/
theorem anyM_eq_some_true {items : List Item} :
    items.anyM verify = some true ↔ ∃ before item later,
      items = before ++ item :: later ∧
        (∀ earlier ∈ before, verify earlier = some false) ∧
        verify item = some true := by
  constructor
  · intro hany
    induction items with
    | nil => cases hany
    | cons item items ih =>
        cases hitem : verify item with
        | none =>
            rw [anyM_cons_none hitem] at hany
            cases hany
        | some found =>
            cases found with
            | true => exact ⟨[], item, items, rfl, by simp, hitem⟩
            | false =>
                rw [anyM_cons_false hitem] at hany
                obtain ⟨before, passed, later, rfl, hbefore, hpassed⟩ :=
                  ih hany
                exact ⟨item :: before, passed, later, rfl,
                  List.forall_mem_cons.mpr ⟨hitem, hbefore⟩, hpassed⟩
  · rintro ⟨before, item, later, rfl, hbefore, hitem⟩
    induction before with
    | nil => exact anyM_cons_true hitem
    | cons first before ih =>
        rw [List.forall_mem_cons] at hbefore
        rw [List.cons_append, anyM_cons_false hbefore.1]
        exact ih hbefore.2

theorem exists_of_anyM_eq_some_true {items : List Item}
    (hany : items.anyM verify = some true) :
    ∃ item ∈ items, verify item = some true := by
  obtain ⟨before, item, later, rfl, -, hitem⟩ := anyM_eq_some_true.mp hany
  exact ⟨item, by simp, hitem⟩

/-- A search that never throws finds what there is. -/
theorem anyM_eq_some_true_of_mem {items : List Item}
    (hanswers : ∀ item ∈ items, verify item ≠ none) {item : Item}
    (hitem : item ∈ items) (hfound : verify item = some true) :
    items.anyM verify = some true := by
  cases hany : items.anyM verify with
  | none =>
      obtain ⟨before, thrown, later, rfl, -, hthrown⟩ := anyM_eq_none.mp hany
      exact absurd hthrown (hanswers thrown (by simp))
  | some found =>
      cases found with
      | true => rfl
      | false =>
          rw [anyM_eq_some_false.mp hany item hitem] at hfound
          cases hfound

theorem anyM_eq_some_true_iff {items : List Item}
    (hanswers : ∀ item ∈ items, verify item ≠ none) :
    items.anyM verify = some true ↔ ∃ item ∈ items, verify item = some true := by
  constructor
  · exact exists_of_anyM_eq_some_true
  · rintro ⟨item, hitem, hfound⟩
    exact anyM_eq_some_true_of_mem hanswers hitem hfound

theorem anyM_ne_none {items : List Item}
    (hanswers : ∀ item ∈ items, verify item ≠ none) :
    items.anyM verify ≠ none := by
  intro hnone
  obtain ⟨before, thrown, later, rfl, -, hthrown⟩ := anyM_eq_none.mp hnone
  exact hanswers thrown
    (List.mem_append_right _ List.mem_cons_self) hthrown

/-- Neither the order nor the number of the items matters to a search that
never throws. -/
theorem anyM_congr_mem {items others : List Item}
    (hanswers : ∀ item ∈ items, verify item ≠ none)
    (hmem : ∀ item, item ∈ others ↔ item ∈ items) :
    others.anyM verify = items.anyM verify := by
  have hothers : ∀ item ∈ others, verify item ≠ none :=
    fun item hitem => hanswers item ((hmem item).mp hitem)
  have htrue : others.anyM verify = some true ↔
      items.anyM verify = some true := by
    rw [anyM_eq_some_true_iff hothers, anyM_eq_some_true_iff hanswers]
    simp only [hmem]
  obtain ⟨found, hfound⟩ := Option.ne_none_iff_exists'.mp (anyM_ne_none hanswers)
  obtain ⟨found', hfound'⟩ :=
    Option.ne_none_iff_exists'.mp (anyM_ne_none hothers)
  rw [hfound, hfound'] at htrue ⊢
  cases found <;> cases found' <;> simp at htrue ⊢

/-- The first item that passes, where the test throws on none before it. -/
theorem findM?_eq_some_some {items : List Item} {item : Item} :
    items.findM? verify = some (some item) ↔ ∃ before later,
      items = before ++ item :: later ∧
        (∀ earlier ∈ before, verify earlier = some false) ∧
          verify item = some true := by
  constructor
  · intro hfind
    induction items with
    | nil => cases hfind
    | cons first items ih =>
        rw [List.findM?] at hfind
        cases hfirst : verify first with
        | none => simp [hfirst] at hfind
        | some found =>
            cases found with
            | true =>
                simp only [hfirst, Option.bind_eq_bind, Option.bind_some,
                  Option.pure_def, Option.some.injEq] at hfind
                cases hfind
                exact ⟨[], items, rfl, by simp, hfirst⟩
            | false =>
                simp only [hfirst, Option.bind_eq_bind, Option.bind_some]
                  at hfind
                obtain ⟨before, later, rfl, hbefore, hitem⟩ := ih hfind
                exact ⟨first :: before, later, rfl,
                  List.forall_mem_cons.mpr ⟨hfirst, hbefore⟩, hitem⟩
  · rintro ⟨before, later, rfl, hbefore, hitem⟩
    induction before with
    | nil => simp [List.findM?, hitem]
    | cons first before ih =>
        rw [List.forall_mem_cons] at hbefore
        simp only [List.cons_append, List.findM?, hbefore.1,
          Option.bind_eq_bind, Option.bind_some]
        exact ih hbefore.2

end ThrowingSearch
