/-
Lists cut into chunks of one length, and lists joined by a separator.
-/
import Mathlib.Data.List.Basic
import Mathlib.Tactic.Common

namespace TextChunks

variable {α : Type*}

/-! ## Chunks -/

theorem go_append (size : Nat) (xs : List α) (chunk : Array α)
    (chunks : Array (List α)) :
    List.toChunks.go size xs chunk chunks =
      chunks.toList ++ List.toChunks.go size xs chunk #[] := by
  induction xs generalizing chunk chunks with
  | nil => simp [List.toChunks.go]
  | cons x xs ih =>
      rw [List.toChunks.go, List.toChunks.go]
      split
      case isTrue =>
        rw [ih, ih _ (#[].push chunk.toList)]
        simp
      case isFalse => exact ih _ chunks

theorem toChunks_cons_eq_go {size : Nat} (hsize : 0 < size) (x : α)
    (xs : List α) :
    (x :: xs).toChunks size = List.toChunks.go size xs #[x] #[] := by
  cases size with
  | zero => cases hsize
  | succ size => rfl

theorem go_eq {size : Nat} (hsize : 0 < size) (xs : List α) (chunk : Array α)
    (hchunk : chunk.size ≤ size) :
    List.toChunks.go size xs chunk #[] =
      (chunk.toList ++ xs).take size ::
        ((chunk.toList ++ xs).drop size).toChunks size := by
  induction xs generalizing chunk with
  | nil =>
      rw [← Array.length_toList] at hchunk
      rw [List.append_nil, List.take_of_length_le hchunk,
        List.drop_of_length_le hchunk]
      simp [List.toChunks.go, List.toChunks]
  | cons x xs ih =>
      rw [List.toChunks.go]
      split
      case isTrue hfull =>
        rw [beq_iff_eq, ← Array.length_toList] at hfull
        have hrest : List.toChunks.go size xs ((Array.mkEmpty size).push x) #[] =
            (x :: xs).toChunks size := (toChunks_cons_eq_go hsize x xs).symm
        rw [go_append, hrest, List.take_left' hfull, List.drop_left' hfull]
        rfl
      case isFalse hroom =>
        rw [beq_iff_eq] at hroom
        rw [ih (chunk.push x) (by rw [Array.size_push]; omega),
          Array.toList_push, List.append_assoc]
        rfl

/-- The first chunk, and the chunks of what comes after it. -/
theorem toChunks_of_ne_nil {size : Nat} (hsize : 0 < size) {xs : List α}
    (hxs : xs ≠ []) :
    xs.toChunks size = xs.take size :: (xs.drop size).toChunks size := by
  cases xs with
  | nil => exact absurd rfl hxs
  | cons x xs =>
      rw [toChunks_cons_eq_go hsize, go_eq hsize xs #[x] hsize]
      rfl

/-- To the chunks of a list from those of what comes after the first one. -/
theorem chunks_induction {size : Nat} (hsize : 0 < size)
    {motive : List α → Prop} (nil : motive [])
    (step : ∀ xs, xs ≠ [] → motive (xs.drop size) → motive xs)
    (xs : List α) : motive xs := by
  by_cases hxs : xs = []
  · rw [hxs]
    exact nil
  · have hpos := List.length_pos_iff.mpr hxs
    have hless : (xs.drop size).length < xs.length := by
      rw [List.length_drop]
      omega
    exact step xs hxs (chunks_induction hsize nil step (xs.drop size))
termination_by xs.length

theorem flatten_toChunks {size : Nat} (hsize : 0 < size) (xs : List α) :
    (xs.toChunks size).flatten = xs := by
  induction xs using chunks_induction hsize with
  | nil => rw [List.toChunks, List.flatten_nil]
  | step xs hxs ih =>
      rw [toChunks_of_ne_nil hsize hxs, List.flatten_cons, ih,
        List.take_append_drop]

/-- The last chunk may be a short one. -/
theorem length_toChunks {size : Nat} (hsize : 0 < size) (xs : List α) :
    (xs.toChunks size).length = (xs.length + (size - 1)) / size := by
  induction xs using chunks_induction hsize with
  | nil =>
      rw [List.toChunks, List.length_nil, List.length_nil, Nat.zero_add,
        Nat.div_eq_of_lt (by omega)]
  | step xs hxs ih =>
      have hpos := List.length_pos_iff.mpr hxs
      rw [toChunks_of_ne_nil hsize hxs, List.length_cons, ih, List.length_drop]
      by_cases hfull : size ≤ xs.length
      · rw [← Nat.add_div_right _ hsize]
        congr 1
        omega
      · rw [Nat.sub_eq_zero_of_le (by omega), Nat.zero_add,
          Nat.div_eq_of_lt (by omega)]
        exact (Nat.div_eq_of_lt_le (by omega) (by omega)).symm

/-! ## Joined lists -/

variable {separator : α}

theorem mem_intercalate {parts : List (List α)} {x : α}
    (hmem : x ∈ [separator].intercalate parts) :
    x = separator ∨ x ∈ parts.flatten := by
  induction parts with
  | nil => cases hmem
  | cons part parts ih =>
      by_cases hlast : parts = []
      · rw [hlast, List.intercalate_singleton] at hmem
        right
        simpa [hlast] using hmem
      · rw [List.intercalate_cons_of_ne_nil hlast, List.mem_append,
          List.mem_append, List.mem_singleton] at hmem
        rw [List.flatten_cons, List.mem_append]
        rcases hmem with (hpart | hseparator) | hrest
        · exact Or.inr (Or.inl hpart)
        · exact Or.inl hseparator
        · exact (ih hrest).imp_right Or.inr

theorem length_intercalate {parts : List (List α)} (hparts : parts ≠ []) :
    ([separator].intercalate parts).length + 1 =
      parts.flatten.length + parts.length := by
  induction parts with
  | nil => exact absurd rfl hparts
  | cons part parts ih =>
      by_cases hlast : parts = []
      · simp [hlast]
      · have hrest := ih hlast
        rw [List.intercalate_cons_of_ne_nil hlast, List.length_append,
          List.length_append, List.flatten_cons, List.length_append,
          List.length_singleton, List.length_cons]
        omega

/-- Without the separators the parts are what is left. -/
theorem filter_intercalate {keeps : α → Bool} (hdropped : keeps separator = false)
    (parts : List (List α)) :
    ([separator].intercalate parts).filter keeps =
      parts.flatten.filter keeps := by
  induction parts with
  | nil => rfl
  | cons part parts ih =>
      by_cases hlast : parts = []
      · simp [hlast]
      · rw [List.intercalate_cons_of_ne_nil hlast, List.filter_append,
          List.filter_append, List.flatten_cons, List.filter_append, ih,
          List.filter_cons_of_neg (by simp [hdropped]), List.filter_nil,
          List.append_nil]

end TextChunks
