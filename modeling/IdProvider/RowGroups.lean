/-
Rows gathered into one group for each key, in the order in which the keys
first occur.
-/
import Mathlib.Data.List.Induction
import Mathlib.Data.List.Nodup

/-- How rows are gathered. -/
structure RowGroups (Row Group Key : Type) where
  rowKey : Row → Key
  groupKey : Group → Key
  start : Row → Group
  add : Group → Row → Group
  key_start : ∀ row, groupKey (start row) = rowKey row
  key_add : ∀ group row, groupKey (add group row) = groupKey group

namespace RowGroups

variable {Row Group Key : Type} [DecidableEq Key]
  (shape : RowGroups Row Group Key)

def addTo (row : Row) (group : Group) : Group :=
  if shape.groupKey group = shape.rowKey row then shape.add group row
  else group

/-- A row joins the group of its key, or starts it. -/
def insert (groups : List Group) (row : Row) : List Group :=
  if shape.rowKey row ∈ groups.map shape.groupKey then
    groups.map (shape.addTo row)
  else groups ++ [shape.start row]

def gather (rows : List Row) : List Group :=
  rows.foldl shape.insert []

/-- The rows of a key. -/
def ofKey (key : Key) (rows : List Row) : List Row :=
  rows.filter fun row => shape.rowKey row = key

theorem gather_append (rows : List Row) (row : Row) :
    shape.gather (rows ++ [row]) = shape.insert (shape.gather rows) row :=
  List.foldl_append

theorem key_addTo (row : Row) (group : Group) :
    shape.groupKey (shape.addTo row group) = shape.groupKey group := by
  unfold addTo
  split
  case isTrue => exact shape.key_add group row
  case isFalse => rfl

/-- The keys after a row. -/
theorem keys_insert (groups : List Group) (row : Row) :
    (shape.insert groups row).map shape.groupKey =
      if shape.rowKey row ∈ groups.map shape.groupKey then
        groups.map shape.groupKey
      else groups.map shape.groupKey ++ [shape.rowKey row] := by
  unfold insert
  split
  case isTrue =>
    rw [List.map_map]
    exact List.map_congr_left fun group _ => shape.key_addTo row group
  case isFalse =>
    rw [List.map_append, List.map_singleton, shape.key_start]

theorem nodup_keys (rows : List Row) :
    ((shape.gather rows).map shape.groupKey).Nodup := by
  induction rows using List.reverseRecOn with
  | nil => exact List.nodup_nil
  | append_singleton rows row ih =>
      rw [gather_append, keys_insert]
      split
      case isTrue => exact ih
      case isFalse hfresh =>
        rw [List.nodup_append']
        exact ⟨ih, List.nodup_singleton _, List.disjoint_singleton.mpr hfresh⟩

theorem mem_keys (rows : List Row) (key : Key) :
    key ∈ (shape.gather rows).map shape.groupKey ↔
      ∃ row ∈ rows, shape.rowKey row = key := by
  induction rows using List.reverseRecOn generalizing key with
  | nil => simp [gather]
  | append_singleton rows row ih =>
      have hsnoc : (∃ other ∈ rows ++ [row], shape.rowKey other = key) ↔
          (∃ other ∈ rows, shape.rowKey other = key) ∨
            key = shape.rowKey row := by
        simp [or_and_right, exists_or, eq_comm]
      rw [gather_append, keys_insert, hsnoc, ← ih]
      split
      case isTrue hold =>
        refine ⟨.inl, fun hkey => hkey.elim id ?_⟩
        rintro rfl
        exact hold
      case isFalse => rw [List.mem_append, List.mem_singleton]

/-- More rows only add keys at the end. -/
theorem keys_prefix (first second : List Row) :
    (shape.gather first).map shape.groupKey <+:
      (shape.gather (first ++ second)).map shape.groupKey := by
  induction second using List.reverseRecOn with
  | nil =>
      simp only [List.append_nil, List.prefix_refl]
  | append_singleton rows row ih =>
      rw [← List.append_assoc, gather_append, keys_insert]
      split
      case isTrue => exact ih
      case isFalse => exact ih.trans (List.prefix_append _ _)

/-- A group is made of the rows of its key, in their order. -/
theorem eq_of_mem_gather {rows : List Row} {group : Group}
    (hgroup : group ∈ shape.gather rows) :
    ∃ first rest, shape.ofKey (shape.groupKey group) rows = first :: rest ∧
      group = rest.foldl shape.add (shape.start first) := by
  induction rows using List.reverseRecOn generalizing group with
  | nil => cases hgroup
  | append_singleton rows row ih =>
      rw [gather_append, insert] at hgroup
      unfold ofKey at ih ⊢
      rw [List.filter_append]
      split at hgroup
      case isTrue =>
        obtain ⟨old, hold, rfl⟩ := List.mem_map.mp hgroup
        obtain ⟨first, rest, hrows, hfold⟩ := ih hold
        rw [key_addTo, hrows]
        by_cases hkey : shape.groupKey old = shape.rowKey row
        · refine ⟨first, rest ++ [row], ?_, ?_⟩
          · simp [hkey]
          · rw [addTo, if_pos hkey, List.foldl_append, ← hfold]
            rfl
        · refine ⟨first, rest, ?_, ?_⟩
          · simp [Ne.symm hkey]
          · rw [addTo, if_neg hkey]
            exact hfold
      case isFalse hfresh =>
        rcases List.mem_append.mp hgroup with hold | hlast
        · obtain ⟨first, rest, hrows, hfold⟩ := ih hold
          have hkey : shape.groupKey group ≠ shape.rowKey row := by
            rintro hsame
            exact hfresh (hsame ▸ List.mem_map_of_mem hold)
          refine ⟨first, rest, ?_, hfold⟩
          simp [hrows, Ne.symm hkey]
        · rw [List.mem_singleton] at hlast
          subst hlast
          refine ⟨row, [], ?_, rfl⟩
          have hnone : (rows.filter fun other =>
              shape.rowKey other = shape.rowKey row) = [] := by
            rw [List.filter_eq_nil_iff]
            intro other hother hsame
            exact hfresh ((shape.mem_keys rows _).mpr
              ⟨other, hother, of_decide_eq_true hsame⟩)
          simp [shape.key_start, hnone]

end RowGroups
