/-
A table with a primary key as a map from its keys to its rows.
-/
import IdProvider.KeyedTable
import Mathlib.Data.Set.Card

namespace KeyedTable

variable {Row Key : Type} [Keyed Row Key] [DecidableEq Key]

def Table.lookup (table : Table Row) (wanted : Key) : Option Row :=
  table.first? fun row => decide (key row = wanted)

theorem Table.lookup_eq_some {table : Table Row} {wanted : Key} {row : Row} :
    table.lookup wanted = some row ↔ row ∈ table ∧ key row = wanted := by
  constructor
  · intro hlookup
    obtain ⟨hrow, hkey⟩ := Table.mem_of_first? hlookup
    exact ⟨hrow, of_decide_eq_true hkey⟩
  · rintro ⟨hrow, hkey⟩
    apply Table.first?_of_unique hrow (decide_eq_true hkey)
    intro other hother hmatch
    apply table.eq_of_key_eq hother hrow
    rw [of_decide_eq_true hmatch, hkey]

/-- `SELECT ... WHERE key = ... AND ... LIMIT 1`. -/
theorem Table.first?_at (table : Table Row) (where_ keep : Row → Bool)
    (wanted : Key)
    (hwhere : ∀ row, where_ row = true ↔ key row = wanted ∧ keep row = true) :
    table.first? where_ = (table.lookup wanted).filter keep := by
  apply Option.ext
  intro row
  rw [Option.filter_eq_some_iff, Table.lookup_eq_some]
  constructor
  · intro hfirst
    obtain ⟨hrow, hmatch⟩ := Table.mem_of_first? hfirst
    obtain ⟨hkey, hkeep⟩ := (hwhere row).mp hmatch
    exact ⟨⟨hrow, hkey⟩, hkeep⟩
  · rintro ⟨⟨hrow, hkey⟩, hkeep⟩
    apply Table.first?_of_unique hrow ((hwhere row).mpr ⟨hkey, hkeep⟩)
    intro other hother hmatch
    apply table.eq_of_key_eq hother hrow
    rw [((hwhere other).mp hmatch).1, hkey]

theorem Table.lookup_delete {table : Table Row} {where_ : Row → Bool}
    {wanted : Key} :
    (table.delete where_).lookup wanted =
      (table.lookup wanted).filter fun row => !where_ row := by
  apply Option.ext
  intro row
  rw [Table.lookup_eq_some, Table.mem_delete, Option.filter_eq_some_iff,
    Table.lookup_eq_some, Bool.not_eq_true', and_right_comm]

theorem Table.lookup_update {table : Table Row} {where_ : Row → Bool}
    {set : Row → Row} (hkey : ∀ row, key (set row) = key row) {wanted : Key} :
    (table.update where_ set hkey).lookup wanted =
      (table.lookup wanted).map fun row =>
        if where_ row then set row else row := by
  have hsame : ∀ row, key (if where_ row then set row else row) = key row := by
    intro row
    split
    · exact hkey row
    · rfl
  apply Option.ext
  intro row
  rw [Table.lookup_eq_some, Table.mem_update, Option.map_eq_some_iff]
  constructor
  · rintro ⟨⟨old, hold, rfl⟩, hwanted⟩
    rw [hsame] at hwanted
    exact ⟨old, Table.lookup_eq_some.mpr ⟨hold, hwanted⟩, rfl⟩
  · rintro ⟨old, hlookup, rfl⟩
    obtain ⟨hold, hwanted⟩ := Table.lookup_eq_some.mp hlookup
    exact ⟨⟨old, hold, rfl⟩, (hsame old).trans hwanted⟩

theorem Table.lookup_insert? {table after : Table Row} {row : Row}
    (hinsert : table.insert? row = some after) :
    after.lookup = Function.update table.lookup (key row) (some row) := by
  obtain ⟨hfresh, hrows⟩ := Table.insert?_eq_some hinsert
  have hmem : ∀ other, other ∈ after ↔ other ∈ table ∨ other = row := by
    intro other
    rw [← mem_rows, hrows, List.mem_append, List.mem_singleton, mem_rows]
  funext wanted
  apply Option.ext
  intro other
  rw [Table.lookup_eq_some, hmem, Function.update_apply]
  by_cases hwanted : wanted = key row
  · rw [if_pos hwanted, hwanted, Option.some.injEq, eq_comm (a := row)]
    constructor
    · rintro ⟨hold | rfl, hkey⟩
      · exact absurd hkey (hfresh other hold)
      · rfl
    · rintro rfl
      exact ⟨.inr rfl, rfl⟩
  · rw [if_neg hwanted, Table.lookup_eq_some]
    constructor
    · rintro ⟨hold | rfl, hkey⟩
      · exact ⟨hold, hkey⟩
      · exact absurd hkey.symm hwanted
    · rintro ⟨hold, hkey⟩
      exact ⟨.inl hold, hkey⟩

/-- `INSERT ... ON CONFLICT (key) DO UPDATE SET` all the other columns. -/
def Table.upsert (table : Table Row) (row : Row) (set : Row → Row)
    (hkey : ∀ old, key (set old) = key old) : Table Row :=
  (table.insert? row).getD
    (table.update (fun old => decide (key old = key row)) set hkey)

theorem Table.mem_upsert {table : Table Row} {row other : Row}
    {set : Row → Row} {hkey : ∀ old, key (set old) = key old}
    (hother : other ∈ table.upsert row set hkey) :
    other ∈ table ∨ other = row ∨ ∃ old ∈ table, other = set old := by
  rw [Table.upsert] at hother
  cases hinsert : table.insert? row with
  | some after =>
      obtain ⟨-, hrows⟩ := Table.insert?_eq_some hinsert
      rw [hinsert, Option.getD_some, ← mem_rows, hrows, List.mem_append,
        List.mem_singleton, mem_rows] at hother
      rcases hother with hold | hnew
      · exact .inl hold
      · exact .inr (.inl hnew)
  | none =>
      rw [hinsert, Option.getD_none, Table.mem_update] at hother
      obtain ⟨old, hold, rfl⟩ := hother
      split
      · exact .inr (.inr ⟨old, hold, rfl⟩)
      · exact .inl hold

theorem Table.lookup_upsert (table : Table Row) (row : Row) (set : Row → Row)
    (hkey : ∀ old, key (set old) = key old)
    (hset : ∀ old, key old = key row → set old = row) :
    (table.upsert row set hkey).lookup =
      Function.update table.lookup (key row) (some row) := by
  rw [Table.upsert]
  cases hinsert : table.insert? row with
  | some after => exact Table.lookup_insert? hinsert
  | none =>
      rw [Option.getD_none]
      funext wanted
      rw [Table.lookup_update, Function.update_apply]
      by_cases hwanted : wanted = key row
      · have hstored : ∃ old ∈ table, key old = key row := by
          by_contra hnone
          push Not at hnone
          obtain ⟨after, hafter⟩ := Table.exists_insert? hnone
          rw [hafter] at hinsert
          cases hinsert
        obtain ⟨old, hold, hsame⟩ := hstored
        rw [if_pos hwanted, hwanted,
          Table.lookup_eq_some.mpr ⟨hold, hsame⟩, Option.map_some,
          if_pos (decide_eq_true hsame), hset old hsame]
      · rw [if_neg hwanted]
        cases hlookup : table.lookup wanted with
        | none => rfl
        | some old =>
            have hother : key old ≠ key row := by
              rw [(Table.lookup_eq_some.mp hlookup).2]
              exact hwanted
            rw [Option.map_some, if_neg (by simpa using hother)]

/-- As many rows as keys. -/
theorem Table.length_select (table : Table Row) (where_ : Row → Bool) :
    (table.select where_).length =
      {wanted | ∃ row, table.lookup wanted = some row ∧
        where_ row = true}.ncard := by
  have hkeys : {wanted | ∃ row, table.lookup wanted = some row ∧
      where_ row = true} = ↑((table.select where_).map key).toFinset := by
    ext wanted
    rw [Set.mem_ofPred_eq, List.coe_toFinset, Set.mem_ofPred_eq, List.mem_map]
    constructor
    · rintro ⟨row, hlookup, hwhere⟩
      obtain ⟨hrow, hkey⟩ := Table.lookup_eq_some.mp hlookup
      exact ⟨row, Table.mem_select.mpr ⟨hrow, hwhere⟩, hkey⟩
    · rintro ⟨row, hselect, hkey⟩
      obtain ⟨hrow, hwhere⟩ := Table.mem_select.mp hselect
      exact ⟨row, Table.lookup_eq_some.mpr ⟨hrow, hkey⟩, hwhere⟩
  have hnodup : ((table.select where_).map key).Nodup :=
    table.nodup.sublist (List.filter_sublist.map key)
  rw [hkeys, Set.ncard_coe_finset, List.toFinset_card_of_nodup hnodup,
    List.length_map]

end KeyedTable
