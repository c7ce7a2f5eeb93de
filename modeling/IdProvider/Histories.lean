/-
Histories: the events of a run in the order in which they happened.  Events
that happened in a given order are a sublist of the history.
-/
import Mathlib.Data.List.Basic

namespace Histories

variable {Event : Type} {history : List Event}

section Record

variable (earlier : List Event) (last : Event)

/-- What the newest event of a history may complete. -/
theorem sublist_record {event : Event} :
    (earlier ++ [last]).Sublist (history ++ [event]) ↔
      (earlier ++ [last]).Sublist history ∨
        (last = event ∧ earlier.Sublist history) := by
  constructor
  · intro hsub
    obtain ⟨old, new, hsplit, hold, hnew⟩ := List.sublist_append_iff.mp hsub
    rcases List.sublist_singleton.mp hnew with rfl | rfl
    · left
      rwa [hsplit, List.append_nil]
    · right
      obtain ⟨rfl, hlast⟩ := List.append_inj' hsplit rfl
      exact ⟨List.head_eq_of_cons_eq hlast, hold⟩
  · rintro (hold | ⟨rfl, hold⟩)
    · exact hold.trans (List.sublist_append_left history [event])
    · exact hold.append (List.Sublist.refl [last])

/-- Events in an order that no newer event completes. -/
theorem sublist_of_not_mem {later : List Event} (hlast : last ∉ later)
    (hsub : (earlier ++ [last]).Sublist (history ++ later)) :
    (earlier ++ [last]).Sublist history := by
  obtain ⟨old, new, hsplit, hold, hnew⟩ := List.sublist_append_iff.mp hsub
  rcases List.eq_nil_or_concat new with rfl | ⟨before, final, rfl⟩
  · rwa [hsplit, List.append_nil]
  · rw [List.concat_eq_append, ← List.append_assoc] at hsplit
    obtain ⟨-, hfinal⟩ := List.append_inj' hsplit rfl
    rw [List.concat_eq_append] at hnew
    cases hfinal
    exact absurd (hnew.subset (List.mem_append_right before
      (List.mem_singleton_self last))) hlast

theorem mem_of_sublist (hsub : (earlier ++ [last]).Sublist history) :
    last ∈ history :=
  hsub.subset (List.mem_append_right earlier (List.mem_singleton_self last))

end Record

/-- A history only grows. -/
theorem sublist_later {earlier later : List Event} (hsub : earlier.Sublist history) :
    earlier.Sublist (history ++ later) :=
  hsub.trans (List.sublist_append_left history later)

end Histories
