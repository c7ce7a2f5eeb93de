/-
Relational tables with a primary key.  The key constraint is carried by the
table itself, so every statement that changes a table has to preserve it.
-/
import Mathlib.Data.List.Nodup
import Mathlib.Data.List.Basic
import Mathlib.Tactic.Common

namespace KeyedTable

/-- A row type together with its primary key column. -/
class Keyed (Row : Type) (Key : outParam Type) where
  key : Row → Key

export Keyed (key)

/-- Rows in storage order; no two rows share a key. -/
structure Table (Row : Type) {Key : Type} [Keyed Row Key] where
  rows : List Row
  nodup : (rows.map key).Nodup

variable {Row Key : Type} [Keyed Row Key]

instance [DecidableEq Row] : DecidableEq (Table Row) := fun left right =>
  decidable_of_iff (left.rows = right.rows) ⟨fun heq => by
    cases left
    cases right
    simpa using heq, fun heq => by rw [heq]⟩

instance : Membership Row (Table Row) := ⟨fun table row => row ∈ table.rows⟩

instance [DecidableEq Row] (table : Table Row) (row : Row) :
    Decidable (row ∈ table) :=
  inferInstanceAs (Decidable (row ∈ table.rows))

@[simp]
theorem mem_rows {table : Table Row} {row : Row} :
    row ∈ table.rows ↔ row ∈ table := Iff.rfl

theorem Table.ext {left right : Table Row} (hrows : left.rows = right.rows) :
    left = right := by
  cases left
  cases right
  simpa using hrows

/-- The primary key determines the row. -/
theorem Table.eq_of_key_eq (table : Table Row) {left right : Row}
    (hleft : left ∈ table) (hright : right ∈ table)
    (hkey : key left = key right) : left = right :=
  List.inj_on_of_nodup_map table.nodup hleft hright hkey

def Table.empty : Table Row := ⟨[], by simp⟩

@[simp]
theorem Table.not_mem_empty (row : Row) : row ∉ (Table.empty : Table Row) := by
  simp [← mem_rows, Table.empty]

/-- `SELECT ... WHERE`. -/
def Table.select (table : Table Row) (where_ : Row → Bool) : List Row :=
  table.rows.filter where_

@[simp]
theorem Table.mem_select {table : Table Row} {where_ : Row → Bool} {row : Row} :
    row ∈ table.select where_ ↔ row ∈ table ∧ where_ row = true := by
  simp [Table.select]

/-- `SELECT ... WHERE ... LIMIT 1`. -/
def Table.first? (table : Table Row) (where_ : Row → Bool) : Option Row :=
  table.rows.find? where_

theorem Table.first?_eq_none {table : Table Row} {where_ : Row → Bool} :
    table.first? where_ = none ↔ ∀ row ∈ table, where_ row = false := by
  simp [Table.first?, List.find?_eq_none]

theorem Table.mem_of_first? {table : Table Row} {where_ : Row → Bool}
    {row : Row} (hfirst : table.first? where_ = some row) :
    row ∈ table ∧ where_ row = true :=
  ⟨List.mem_of_find?_eq_some hfirst, List.find?_some hfirst⟩

theorem Table.first?_of_unique {table : Table Row} {where_ : Row → Bool}
    {row : Row} (hrow : row ∈ table) (hwhere : where_ row = true)
    (hunique : ∀ other ∈ table, where_ other = true → other = row) :
    table.first? where_ = some row := by
  cases hfirst : table.first? where_ with
  | none =>
      rw [Table.first?_eq_none] at hfirst
      rw [hfirst row hrow] at hwhere
      cases hwhere
  | some other =>
      obtain ⟨hother, hmatch⟩ := Table.mem_of_first? hfirst
      rw [hunique other hother hmatch]

/-- `UPDATE ... SET ... WHERE`; the assignment leaves the key column alone. -/
def Table.update (table : Table Row) (where_ : Row → Bool) (set : Row → Row)
    (hkey : ∀ row, key (set row) = key row) : Table Row where
  rows := table.rows.map fun row => if where_ row then set row else row
  nodup := by
    have hsame : (key ∘ fun row => if where_ row then set row else row) =
        (key : Row → Key) := by
      funext row
      by_cases hwhere : where_ row <;> simp [hwhere, hkey]
    rw [List.map_map, hsame]
    exact table.nodup

theorem Table.mem_update {table : Table Row} {where_ : Row → Bool}
    {set : Row → Row} {hkey : ∀ row, key (set row) = key row} {row : Row} :
    row ∈ table.update where_ set hkey ↔
      ∃ old ∈ table, row = if where_ old then set old else old := by
  simp only [← mem_rows, Table.update, List.mem_map]
  constructor
  · rintro ⟨old, hold, rfl⟩
    exact ⟨old, hold, rfl⟩
  · rintro ⟨old, hold, rfl⟩
    exact ⟨old, hold, rfl⟩

/-- A row is still there after an update that leaves it as it is. -/
theorem Table.mem_update_of_mem {table : Table Row} {where_ : Row → Bool}
    (set : Row → Row) (hkey : ∀ row, key (set row) = key row) {row : Row}
    (hrow : row ∈ table) :
    row ∈ table.update where_ set hkey ↔ (where_ row = true → set row = row) := by
  rw [Table.mem_update]
  constructor
  · rintro ⟨old, hold, hafter⟩ hwhere
    by_cases hmatch : where_ old = true
    · rw [if_pos hmatch] at hafter
      have hsame : old = row := table.eq_of_key_eq hold hrow
        ((hkey old).symm.trans (congrArg key hafter.symm))
      rw [hsame] at hafter
      exact hafter.symm
    · rw [if_neg hmatch] at hafter
      rw [hafter] at hwhere
      exact absurd hwhere hmatch
  · intro hset
    refine ⟨row, hrow, ?_⟩
    split
    case isTrue hwhere => exact (hset hwhere).symm
    case isFalse => rfl

/-- An update by another condition that the same rows meet. -/
theorem Table.update_congr {table : Table Row} {first second : Row → Bool}
    {set : Row → Row} {hkey : ∀ row, key (set row) = key row}
    (hsame : ∀ row ∈ table, first row = second row) :
    table.update first set hkey = table.update second set hkey := by
  apply Table.ext
  apply List.map_congr_left
  intro row hrow
  rw [hsame row hrow]

/-- A column that the assignment leaves alone. -/
theorem Table.map_update {Column : Type} {table : Table Row}
    {where_ : Row → Bool} {set : Row → Row}
    {hkey : ∀ row, key (set row) = key row} {column : Row → Column}
    (hcolumn : ∀ row, column (set row) = column row) :
    (table.update where_ set hkey).rows.map column =
      table.rows.map column := by
  rw [Table.update, List.map_map]
  apply List.map_congr_left
  intro row _
  rw [Function.comp_apply]
  split
  case isTrue => exact hcolumn row
  case isFalse => rfl

/-- An update without a matching row changes nothing. -/
theorem Table.update_of_none {table : Table Row} {where_ : Row → Bool}
    {set : Row → Row} (hkey : ∀ row, key (set row) = key row)
    (hnone : table.rows.any where_ = false) :
    table.update where_ set hkey = table := by
  rw [List.any_eq_false] at hnone
  have hsame : ∀ row ∈ table.rows,
      (if where_ row then set row else row) = row := by
    intro row hrow
    exact if_neg (hnone row hrow)
  exact Table.ext ((List.map_congr_left hsame).trans (List.map_id _))

/-- An update that changes some row. -/
theorem Table.update_ne {table : Table Row} {where_ : Row → Bool}
    {set : Row → Row} {hkey : ∀ row, key (set row) = key row} {row : Row}
    (hrow : row ∈ table) (hwhere : where_ row = true) (hset : set row ≠ row) :
    table.update where_ set hkey ≠ table := by
  intro hsame
  have hmem : set row ∈ table.update where_ set hkey :=
    Table.mem_update.mpr ⟨row, hrow, by rw [if_pos hwhere]⟩
  rw [hsame] at hmem
  exact hset (table.eq_of_key_eq hmem hrow (hkey row))

/-- `DELETE ... WHERE`. -/
def Table.delete (table : Table Row) (where_ : Row → Bool) : Table Row where
  rows := table.rows.filter fun row => !where_ row
  nodup := table.nodup.sublist (List.filter_sublist.map key)

@[simp]
theorem Table.mem_delete {table : Table Row} {where_ : Row → Bool} {row : Row} :
    row ∈ table.delete where_ ↔ row ∈ table ∧ where_ row = false := by
  simp [← mem_rows, Table.delete]

section Keys

variable [DecidableEq Key]

theorem Table.delete_nil (table : Table Row) :
    table.delete (fun row => decide (key row ∈ ([] : List Key))) = table := by
  apply Table.ext
  simp [Table.delete]

theorem Table.delete_append (table : Table Row) (first second : List Key) :
    (table.delete fun row => decide (key row ∈ first)).delete
        (fun row => decide (key row ∈ second)) =
      table.delete fun row => decide (key row ∈ first ++ second) := by
  apply Table.ext
  simp only [Table.delete, List.filter_filter, List.mem_append]
  apply List.filter_congr
  intro row _
  by_cases hfirst : key row ∈ first <;> simp [hfirst]

theorem Table.update_nil (table : Table Row) {set : Row → Row}
    {hkey : ∀ row, key (set row) = key row} :
    table.update (fun row => decide (key row ∈ ([] : List Key))) set hkey =
      table := by
  apply Table.ext
  simp [Table.update]

theorem Table.update_append (table : Table Row) {set : Row → Row}
    {hkey : ∀ row, key (set row) = key row}
    (hset : ∀ row, set (set row) = set row) (first second : List Key) :
    (table.update (fun row => decide (key row ∈ first)) set hkey).update
        (fun row => decide (key row ∈ second)) set hkey =
      table.update (fun row => decide (key row ∈ first ++ second)) set
        hkey := by
  apply Table.ext
  simp only [Table.update, List.map_map, List.mem_append]
  apply List.map_congr_left
  intro row _
  by_cases hfirst : key row ∈ first <;>
    by_cases hsecond : key row ∈ second <;>
    simp [hfirst, hsecond, hkey, hset]

end Keys

/-- `INSERT ... VALUES`; a key that is already stored is a unique violation. -/
def Table.insert? [DecidableEq Key] (table : Table Row) (row : Row) :
    Option (Table Row) :=
  if hfresh : key row ∉ table.rows.map key then
    some
      { rows := table.rows ++ [row]
        nodup := by
          rw [List.map_append, List.nodup_append']
          refine ⟨table.nodup, by simp, ?_⟩
          simpa [List.disjoint_left] using hfresh }
  else none

theorem Table.insert?_eq_some [DecidableEq Key] {table after : Table Row}
    {row : Row} (hinsert : table.insert? row = some after) :
    (∀ old ∈ table, key old ≠ key row) ∧ after.rows = table.rows ++ [row] := by
  unfold Table.insert? at hinsert
  split at hinsert
  case isTrue hfresh =>
    cases hinsert
    refine ⟨fun old hold heq => hfresh ?_, rfl⟩
    exact List.mem_map.mpr ⟨old, hold, heq⟩
  case isFalse => cases hinsert

theorem Table.exists_insert? [DecidableEq Key] {table : Table Row} {row : Row}
    (hfresh : ∀ old ∈ table, key old ≠ key row) :
    ∃ after, table.insert? row = some after := by
  have hkey : key row ∉ table.rows.map key := by
    simp only [List.mem_map, not_exists, not_and]
    exact hfresh
  simp [Table.insert?, hkey]

/-- The row takes the place of the one with its key. -/
def Table.put [DecidableEq Key] (table : Table Row) (row : Row) : Table Row where
  rows := (table.rows.filter fun old => key old ≠ key row) ++ [row]
  nodup := by
    have hrest : ((table.rows.filter fun old => key old ≠ key row).map
        key).Nodup := table.nodup.sublist (List.filter_sublist.map key)
    rw [List.map_append, List.nodup_append']
    refine ⟨hrest, by simp, ?_⟩
    simp

theorem Table.mem_put [DecidableEq Key] {table : Table Row} {row other : Row} :
    other ∈ table.put row ↔
      (other ∈ table ∧ key other ≠ key row) ∨ other = row := by
  simp [← mem_rows, Table.put]

theorem Table.first?_put [DecidableEq Key] {table : Table Row} {row : Row}
    {where_ : Row → Bool} (hrow : where_ row = true)
    (hothers : ∀ other, where_ other = true → key other = key row) :
    (table.put row).first? where_ = some row := by
  apply Table.first?_of_unique (Table.mem_put.mpr (.inr rfl)) hrow
  intro other hother hmatch
  rcases Table.mem_put.mp hother with ⟨-, hne⟩ | hsame
  · exact absurd (hothers other hmatch) hne
  · exact hsame

theorem Table.first?_put_of_ne [DecidableEq Key] {table : Table Row}
    {row : Row} {where_ : Row → Bool} (hrow : where_ row = false)
    (hothers : ∀ other, where_ other = true → key other ≠ key row) :
    (table.put row).first? where_ = table.first? where_ := by
  simp only [Table.first?, Table.put, List.find?_append,
    List.find?_singleton, hrow, Bool.false_eq_true, if_false, Option.or_none,
    List.find?_filter]
  apply congrArg (List.find? · table.rows)
  funext other
  cases hmatch : where_ other with
  | false => simp
  | true => simpa using hothers other hmatch

/-- A key generator that never repeats a key in use. -/
structure KeySource (Key : Type) where
  draw : List Key → Key
  fresh : ∀ used, draw used ∉ used

/-- A text longer than every text in use. -/
def KeySource.longer : KeySource String where
  draw used := String.ofList ((used.map String.toList).flatten ++ ['k'])
  fresh used := by
    intro hmem
    have hsub := List.sublist_flatten_of_mem
      (List.mem_map_of_mem (f := String.toList) hmem)
    have hlength := hsub.length_le
    rw [String.toList_ofList, List.length_append] at hlength
    exact Nat.not_succ_le_self _ hlength

/-- `INSERT` of a row whose key the database generates. -/
def Table.insertFresh (table : Table Row) (source : KeySource Key)
    (row : Key → Row) (hkey : ∀ id, key (row id) = id) : Table Row where
  rows := table.rows ++ [row (source.draw (table.rows.map key))]
  nodup := by
    rw [List.map_append, List.nodup_append']
    refine ⟨table.nodup, by simp, ?_⟩
    simpa [List.disjoint_left, hkey] using
      source.fresh (table.rows.map key)

theorem Table.rows_insertFresh {table : Table Row} {source : KeySource Key}
    {row : Key → Row} {hkey : ∀ id, key (row id) = id} :
    (table.insertFresh source row hkey).rows =
      table.rows ++ [row (source.draw (table.rows.map key))] := rfl

theorem Table.mem_insertFresh {table : Table Row} {source : KeySource Key}
    {row : Key → Row} (hkey : ∀ id, key (row id) = id) {other : Row} :
    other ∈ table.insertFresh source row hkey ↔
      other ∈ table ∨ other = row (source.draw (table.rows.map key)) := by
  simp [← mem_rows, Table.rows_insertFresh]

theorem Table.key_ne_draw {table : Table Row} (source : KeySource Key)
    {row : Row} (hrow : row ∈ table) :
    key row ≠ source.draw (table.rows.map key) := by
  intro heq
  apply source.fresh (table.rows.map key)
  rw [← heq]
  exact List.mem_map_of_mem hrow

/-- `INSERT` of several rows, with generated keys. -/
def Table.insertAllFresh {Value : Type} (source : KeySource Key)
    (row : Value → Key → Row) (hkey : ∀ value id, key (row value id) = id) :
    Table Row → List Value → Table Row
  | table, [] => table
  | table, value :: values =>
      insertAllFresh source row hkey
        (table.insertFresh source (row value) (hkey value)) values

/-- The new rows follow the old ones, in order. -/
theorem Table.map_insertAllFresh {Value Column : Type}
    {source : KeySource Key} {row : Value → Key → Row}
    {hkey : ∀ value id, key (row value id) = id} {column : Row → Column}
    {given : Value → Column}
    (hcolumn : ∀ value id, column (row value id) = given value)
    (table : Table Row) (values : List Value) :
    (table.insertAllFresh source row hkey values).rows.map column =
      table.rows.map column ++ values.map given := by
  induction values generalizing table with
  | nil => simp [Table.insertAllFresh]
  | cons value values ih =>
      rw [Table.insertAllFresh, ih, Table.rows_insertFresh]
      simp [hcolumn]

/-- Where a row comes from after an insert of several. -/
theorem Table.mem_insertAllFresh {Value : Type} {source : KeySource Key}
    {row : Value → Key → Row} {hkey : ∀ value id, key (row value id) = id}
    {table : Table Row} {values : List Value} {other : Row}
    (hother : other ∈ table.insertAllFresh source row hkey values) :
    other ∈ table ∨ ∃ value ∈ values, ∃ id, other = row value id := by
  induction values generalizing table with
  | nil => exact .inl hother
  | cons value values ih =>
      rcases ih hother with hold | ⟨later, hlater, id, rfl⟩
      · rw [Table.mem_insertFresh] at hold
        rcases hold with hold | rfl
        · exact .inl hold
        · exact .inr ⟨value, List.mem_cons_self, _, rfl⟩
      · exact .inr ⟨later, List.mem_cons_of_mem value hlater, id, rfl⟩

theorem Table.mem_insertAllFresh_of_mem {Value : Type}
    {source : KeySource Key} {row : Value → Key → Row}
    {hkey : ∀ value id, key (row value id) = id} {table : Table Row}
    {values : List Value} {other : Row} (hother : other ∈ table) :
    other ∈ table.insertAllFresh source row hkey values := by
  induction values generalizing table with
  | nil => exact hother
  | cons value values ih =>
      apply ih
      rw [Table.mem_insertFresh]
      exact .inl hother

theorem Table.exists_insertAllFresh {Value : Type} {source : KeySource Key}
    {row : Value → Key → Row} {hkey : ∀ value id, key (row value id) = id}
    {table : Table Row} {values : List Value} {value : Value}
    (hvalue : value ∈ values) :
    ∃ id, row value id ∈ table.insertAllFresh source row hkey values := by
  induction values generalizing table with
  | nil => cases hvalue
  | cons head values ih =>
      rcases List.mem_cons.mp hvalue with rfl | htail
      · have hnew : row value (source.draw (table.rows.map key)) ∈
            table.insertFresh source (row value) (hkey value) := by
          rw [Table.mem_insertFresh]
          exact .inr rfl
        refine ⟨source.draw (table.rows.map key), ?_⟩
        rw [Table.insertAllFresh]
        exact Table.mem_insertAllFresh_of_mem hnew
      · exact ih htail

/-- The rows of `before` that `after` no longer stores unchanged. -/
def Table.changed [DecidableEq Row] (before after : Table Row) : List Row :=
  before.rows.filter fun row => row ∉ after

@[simp]
theorem Table.mem_changed [DecidableEq Row] {before after : Table Row}
    {row : Row} :
    row ∈ before.changed after ↔ row ∈ before ∧ row ∉ after := by
  simp [Table.changed]

theorem Table.changed_delete [DecidableEq Row] (table : Table Row)
    (where_ : Row → Bool) :
    table.changed (table.delete where_) = table.select where_ := by
  apply List.filter_congr
  intro row hrow
  cases hwhere : where_ row <;> simp_all

/-- Every row of the `where` clause changes if the assignment fixes none. -/
theorem Table.changed_update [DecidableEq Row] (table : Table Row)
    {where_ : Row → Bool} {set : Row → Row}
    (hkey : ∀ row, key (set row) = key row)
    (hset : ∀ row ∈ table, where_ row = true → set row ≠ row) :
    table.changed (table.update where_ set hkey) = table.select where_ := by
  apply List.filter_congr
  intro row hrow
  by_cases hwhere : where_ row = true
  · have hgone : row ∉ table.update where_ set hkey := by
      rw [Table.mem_update]
      rintro ⟨old, hold, heq⟩
      have hsame : old = row := by
        apply table.eq_of_key_eq hold hrow
        rw [heq]
        by_cases holdWhere : where_ old = true <;> simp [holdWhere, hkey]
      subst hsame
      rw [if_pos hwhere] at heq
      exact hset old hrow hwhere heq.symm
    simp [hwhere, hgone]
  · have hkept : row ∈ table.update where_ set hkey := by
      rw [Table.mem_update]
      exact ⟨row, hrow, by rw [if_neg hwhere]⟩
    simp [hwhere, hkept]

theorem Table.changed_self [DecidableEq Row] (table : Table Row) :
    table.changed table = [] := by
  simp [Table.changed]

/-- `INNER JOIN ... ON`. -/
def innerJoin {Left Right : Type} (lefts : List Left) (rights : List Right)
    (on_ : Left → Right → Bool) : List (Left × Right) :=
  lefts.flatMap fun left =>
    (rights.filter (on_ left)).map fun right => (left, right)

@[simp]
theorem mem_innerJoin {Left Right : Type} {lefts : List Left}
    {rights : List Right} {on_ : Left → Right → Bool} {left : Left}
    {right : Right} :
    (left, right) ∈ innerJoin lefts rights on_ ↔
      left ∈ lefts ∧ right ∈ rights ∧ on_ left right = true := by
  simp [innerJoin]

/-- `LEFT JOIN ... ON`: an unmatched left row is kept once, with no partner. -/
def leftJoin {Left Right : Type} (lefts : List Left) (rights : List Right)
    (on_ : Left → Right → Bool) : List (Left × Option Right) :=
  lefts.flatMap fun left =>
    match rights.filter (on_ left) with
    | [] => [(left, none)]
    | partners => partners.map fun right => (left, some right)

theorem leftJoin_cons {Left Right : Type} (left : Left) (lefts : List Left)
    (rights : List Right) (on_ : Left → Right → Bool) :
    leftJoin (left :: lefts) rights on_ =
      (match rights.filter (on_ left) with
        | [] => [(left, none)]
        | partners => partners.map fun right => (left, some right)) ++
        leftJoin lefts rights on_ := rfl

/-- The left rows of a left join, as often as they are matched. -/
theorem leftJoin_left {Left Right Value : Type} (lefts : List Left)
    (rights : List Right) (on_ : Left → Right → Bool) (where_ : Left → Bool)
    (read : Left → Value) :
    ((leftJoin lefts rights on_).filter fun pair => where_ pair.1).map
        (fun pair => read pair.1) =
      (lefts.filter where_).flatMap fun left =>
        List.replicate (max 1 (rights.filter (on_ left)).length)
          (read left) := by
  induction lefts with
  | nil => rfl
  | cons left lefts ih =>
      rw [leftJoin_cons, List.filter_append, List.map_append, ih, List.filter_cons]
      by_cases hwhere : where_ left = true
      · rcases hpartners : rights.filter (on_ left) with
          _ | ⟨partner, partners⟩
        · simp [hwhere, hpartners]
        · simp [hwhere, hpartners, List.filter_map, Function.comp_def,
            List.replicate_succ]
      · rcases rights.filter (on_ left) with _ | ⟨partner, partners⟩
        · simp [hwhere]
        · simp [hwhere, List.filter_map, Function.comp_def]

/-- Keeping the unmatched rows of a left join is an anti join: each surviving
left row occurs once, however many partners the others have. -/
theorem leftJoin_unmatched {Left Right : Type} (lefts : List Left)
    (rights : List Right) (on_ : Left → Right → Bool) (where_ : Left → Bool) :
    ((leftJoin lefts rights on_).filter fun pair =>
        where_ pair.1 && pair.2.isNone).map Prod.fst =
      lefts.filter fun left => where_ left && !rights.any (on_ left) := by
  induction lefts with
  | nil => rfl
  | cons left lefts ih =>
      rw [leftJoin_cons, List.filter_append, List.map_append, ih, List.filter_cons]
      cases hpartners : rights.filter (on_ left) with
      | nil =>
          have hnone : rights.any (on_ left) = false := by
            rw [List.any_eq_false]
            exact fun right hright hon =>
              List.filter_eq_nil_iff.mp hpartners right hright hon
          cases hwhere : where_ left <;> simp [hwhere, hnone]
      | cons right partners =>
          have hsome : rights.any (on_ left) = true := by
            have hmem : right ∈ rights.filter (on_ left) := by simp [hpartners]
            rw [List.mem_filter] at hmem
            exact List.any_eq_true.mpr ⟨right, hmem.1, hmem.2⟩
          simp [hsome, List.filter_map, Function.comp_def]

theorem Table.select_key [DecidableEq Key] {table : Table Row} {row : Row}
    (hrow : row ∈ table) :
    (table.select fun other => key other == key row) = [row] := by
  obtain ⟨before, after, hrows⟩ := List.append_of_mem (mem_rows.mpr hrow)
  have hnodup := table.nodup
  rw [hrows, List.map_append, List.map_cons, List.nodup_middle,
    List.nodup_cons, List.mem_append, not_or] at hnodup
  obtain ⟨⟨hbefore, hafter⟩, -⟩ := hnodup
  have hnone : ∀ rows : List Row, key row ∉ rows.map key →
      (rows.filter fun other => key other == key row) = [] := by
    intro rows hrest
    rw [List.filter_eq_nil_iff]
    intro other hother hkey
    exact hrest (List.mem_map.mpr ⟨other, hother, beq_iff_eq.mp hkey⟩)
  rw [Table.select, hrows, List.filter_append, List.filter_cons,
    hnone before hbefore, hnone after hafter]
  simp

/-- A join along a reference, with the key of the partner given, selects the
rows that refer to that key. -/
theorem innerJoin_reference [DecidableEq Key] {Left : Type}
    {lefts : List Left} {table : Table Row} {reference : Left → Option Key}
    (hstored : ∀ left ∈ lefts, ∀ wanted, reference left = some wanted →
      ∃ row ∈ table, key row = wanted) (wanted : Key) :
    ((innerJoin lefts table.rows fun left row =>
        reference left == some (key row)).filter fun joined =>
          key joined.2 == wanted).map Prod.fst =
      lefts.filter fun left => reference left == some wanted := by
  induction lefts with
  | nil => rfl
  | cons left lefts ih =>
      rw [List.forall_mem_cons] at hstored
      obtain ⟨hleft, hrest⟩ := hstored
      have hcons : innerJoin (left :: lefts) table.rows
            (fun left row => reference left == some (key row)) =
          (table.select fun row => reference left == some (key row)).map
              (fun row => (left, row)) ++
            innerJoin lefts table.rows fun left row =>
              reference left == some (key row) := rfl
      rw [hcons, List.filter_append, List.map_append, ih hrest,
        List.filter_cons]
      cases hreference : reference left with
      | none => simp [Table.select]
      | some other =>
          obtain ⟨row, hrow, rfl⟩ := hleft other hreference
          have hpartner : (table.select fun partner =>
              some (key row) == some (key partner)) = [row] := by
            rw [← Table.select_key hrow]
            congr 1
            funext partner
            rw [Bool.eq_iff_iff, beq_iff_eq, beq_iff_eq, Option.some.injEq]
            exact eq_comm
          rw [hpartner]
          by_cases hwanted : key row = wanted
          · simp [hwanted]
          · simp [hwanted]
end KeyedTable
