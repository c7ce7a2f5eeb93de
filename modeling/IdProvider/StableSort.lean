/-
When a stable sort takes two lists to the same list.
-/
import Mathlib.Data.List.Sort

namespace StableSort

variable {Item : Type} (le : Item → Item → Prop) [DecidableRel le]

/-- Neither of two items is strictly before the other. -/
def tied (left right : Item) : Bool :=
  decide (le left right) && decide (le right left)

theorem tied_iff {left right : Item} :
    tied le left right = true ↔ le left right ∧ le right left := by
  rw [tied, Bool.and_eq_true, decide_eq_true_eq, decide_eq_true_eq]

theorem tied_comm (left right : Item) :
    tied le left right = tied le right left := by
  rw [tied, tied, Bool.and_comm]

theorem tied_self [Std.Total le] (item : Item) :
    tied le item item = true := by
  rw [tied_iff]
  rcases Std.Total.total (r := le) item item with hle | hle
  · exact ⟨hle, hle⟩
  · exact ⟨hle, hle⟩

theorem tied_trans [IsTrans Item le] {left middle right : Item}
    (hleft : tied le left middle = true)
    (hright : tied le middle right = true) : tied le left right = true := by
  rw [tied_iff] at hleft hright ⊢
  constructor
  · exact Trans.trans hleft.1 hright.1
  · exact Trans.trans hright.2 hleft.2

/-- Sorting keeps the order of the items that are tied. -/
theorem filter_tied_insertionSort [IsTrans Item le] (item : Item)
    (items : List Item) :
    (items.insertionSort le).filter (tied le item) =
      items.filter (tied le item) := by
  have hclass : (items.filter (tied le item)).Pairwise le := by
    apply List.pairwise_of_forall_mem_list
    intro left hleft right hright
    have hitem := (List.mem_filter.mp hleft).2
    rw [tied_comm] at hitem
    exact ((tied_iff le).mp
      (tied_trans le hitem (List.mem_filter.mp hright).2)).1
  have hsublist := List.sublist_insertionSort hclass List.filter_sublist
  have hfilter := hsublist.filter (tied le item)
  rw [List.filter_filter] at hfilter
  simp only [Bool.and_self] at hfilter
  have hperm := (List.perm_insertionSort le items).filter (tied le item)
  exact (hfilter.eq_of_length hperm.length_eq.symm).symm

variable {le} in
theorem mem_of_filter_tied [Std.Total le] {left right : List Item}
    (htied : ∀ item, left.filter (tied le item) =
      right.filter (tied le item)) {item : Item} (hitem : item ∈ left) :
    item ∈ right := by
  have hclass : item ∈ left.filter (tied le item) :=
    List.mem_filter.mpr ⟨hitem, tied_self le item⟩
  rw [htied item] at hclass
  exact (List.mem_filter.mp hclass).1

/-- Sorted lists are equal when their classes of tied items are. -/
theorem eq_of_filter_tied [Std.Total le] {left right : List Item}
    (hleft : left.Pairwise le) (hright : right.Pairwise le)
    (htied : ∀ item, left.filter (tied le item) =
      right.filter (tied le item)) : left = right := by
  induction left generalizing right with
  | nil =>
      cases right with
      | nil => rfl
      | cons first rest =>
          have hnil := mem_of_filter_tied (fun item => (htied item).symm)
            (List.mem_cons_self : first ∈ first :: rest)
          exact absurd hnil List.not_mem_nil
  | cons first rest ih =>
      have hfirst := mem_of_filter_tied htied List.mem_cons_self
      cases right with
      | nil => exact absurd hfirst List.not_mem_nil
      | cons other others =>
          have hother := mem_of_filter_tied
            (fun item => (htied item).symm) List.mem_cons_self
          rw [List.pairwise_cons] at hleft hright
          have hsame : tied le first other = true := by
            rw [tied_iff]
            constructor
            · rcases List.mem_cons.mp hother with rfl | hrest
              · exact ((tied_iff le).mp (tied_self le other)).1
              · exact hleft.1 other hrest
            · rcases List.mem_cons.mp hfirst with rfl | hrest
              · exact ((tied_iff le).mp (tied_self le first)).1
              · exact hright.1 first hrest
          have hheads := htied first
          rw [List.filter_cons_of_pos (tied_self le first),
            List.filter_cons_of_pos hsame, List.cons.injEq] at hheads
          obtain ⟨rfl, -⟩ := hheads
          rw [List.cons.injEq]
          refine ⟨rfl, ih hleft.2 hright.2 fun item => ?_⟩
          have hitem := htied item
          rw [List.filter_cons, List.filter_cons] at hitem
          split at hitem
          case isTrue => exact (List.cons.inj hitem).2
          case isFalse => exact hitem

/-- A stable sort takes two lists to one list exactly when tied items come in
the same order in both. -/
theorem insertionSort_eq_iff [Std.Total le] [IsTrans Item le]
    (left right : List Item) :
    left.insertionSort le = right.insertionSort le ↔
      ∀ item, left.filter (tied le item) = right.filter (tied le item) := by
  constructor
  · intro heq item
    rw [← filter_tied_insertionSort le item left, heq,
      filter_tied_insertionSort]
  · intro htied
    apply eq_of_filter_tied le (List.pairwise_insertionSort le left)
      (List.pairwise_insertionSort le right)
    intro item
    rw [filter_tied_insertionSort, filter_tied_insertionSort]
    exact htied item

/-- Two items of a list without repetitions come in one order only. -/
theorem not_sublist_swapped {items : List Item} (hnodup : items.Nodup)
    {left right : Item} (hforth : [left, right].Sublist items) :
    ¬ [right, left].Sublist items := by
  induction items with
  | nil => cases hforth
  | cons first rest ih =>
      rw [List.nodup_cons] at hnodup
      intro hback
      cases hforth with
      | cons _ hforth =>
          cases hback with
          | cons _ hback => exact ih hnodup.2 hforth hback
          | cons_cons _ _ =>
              exact hnodup.1 (hforth.subset (by simp))
      | cons_cons _ hright =>
          cases hback with
          | cons _ hback => exact hnodup.1 (hback.subset (by simp))
          | cons_cons _ _ => exact hnodup.1 (hright.subset (by simp))

end StableSort
