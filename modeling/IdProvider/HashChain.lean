/-
Hash chains: each row stores the hash of its predecessor and its own, and a
verifier walks them in order.
-/
import Mathlib.Data.List.Forall2
import Mathlib.Data.List.Induction
import Mathlib.Tactic.Common

namespace HashChain

/-- Where a row stores its two hashes, and the hash its contents demand. -/
structure Format (Row Hash : Type) where
  prev : Row → Option Hash
  entry : Row → Option Hash
  digest : Row → Hash

inductive Fault where
  | prevHash
  | entryHash
  deriving DecidableEq

variable {Row Hash : Type} [DecidableEq Hash] (format : Format Row Hash)

/-- The first row that does not fit, and what is wrong with it. -/
def walk : Option Hash → List Row → Option (Row × Fault)
  | _, [] => none
  | expected, row :: rows =>
      if format.prev row ≠ expected then some (row, .prevHash)
      else if format.entry row ≠ some (format.digest row) then
        some (row, .entryHash)
      else walk (format.entry row) rows

/-- The hash the next row has to name. -/
def tip (start : Option Hash) (rows : List Row) : Option Hash :=
  match rows.getLast? with
  | none => start
  | some row => format.entry row

/-- Every row names its predecessor's hash and stores its own. -/
inductive Linked : Option Hash → List Row → Prop
  | nil (start : Option Hash) : Linked start []
  | cons {start : Option Hash} {row : Row} {rows : List Row}
      (hprev : format.prev row = start)
      (hentry : format.entry row = some (format.digest row))
      (hrows : Linked (format.entry row) rows) : Linked start (row :: rows)

/-- The verifier finds no fault exactly in a linked chain. -/
theorem walk_eq_none (start : Option Hash) (rows : List Row) :
    walk format start rows = none ↔ Linked format start rows := by
  induction rows generalizing start with
  | nil => exact ⟨fun _ => .nil start, fun _ => rfl⟩
  | cons row rows ih =>
      simp only [walk]
      constructor
      · intro hwalk
        split at hwalk
        case isTrue => cases hwalk
        case isFalse hprev =>
          split at hwalk
          case isTrue => cases hwalk
          case isFalse hentry =>
            exact .cons (not_not.mp hprev) (not_not.mp hentry)
              ((ih _).mp hwalk)
      · intro hlinked
        cases hlinked with
        | cons hprev hentry hrows =>
            simp only [hprev, ne_eq, not_true_eq_false, if_false, hentry]
            rw [← hentry]
            exact (ih _).mpr hrows

omit [DecidableEq Hash] in
theorem tip_cons (start : Option Hash) (row : Row) (rows : List Row) :
    tip format start (row :: rows) =
      tip format (format.entry row) rows := by
  cases rows with
  | nil => rfl
  | cons next rows =>
      simp only [tip, List.getLast?_cons_cons]
      cases hlast : (next :: rows).getLast? with
      | none => simp at hlast
      | some => rfl

omit [DecidableEq Hash] in
@[simp]
theorem tip_append (start : Option Hash) (rows : List Row) (row : Row) :
    tip format start (rows ++ [row]) = format.entry row := by
  simp [tip]

omit [DecidableEq Hash] in
/-- Appending a row that names the tip and stores its own hash. -/
theorem linked_append (start : Option Hash) (rows : List Row) (row : Row) :
    Linked format start (rows ++ [row]) ↔
      Linked format start rows ∧ format.prev row = tip format start rows ∧
        format.entry row = some (format.digest row) := by
  induction rows generalizing start with
  | nil =>
      constructor
      · intro hlinked
        cases hlinked with
        | cons hprev hentry => exact ⟨.nil start, hprev, hentry⟩
      · rintro ⟨-, hprev, hentry⟩
        exact .cons hprev hentry (.nil _)
  | cons head rows ih =>
      rw [tip_cons]
      constructor
      · intro hlinked
        cases hlinked with
        | cons hprev hentry hrows =>
            obtain ⟨hrows, htip, hnew⟩ := (ih _).mp hrows
            exact ⟨.cons hprev hentry hrows, htip, hnew⟩
      · rintro ⟨hlinked, htip, hnew⟩
        cases hlinked with
        | cons hprev hentry hrows =>
            exact .cons hprev hentry ((ih _).mpr ⟨hrows, htip, hnew⟩)

/-- A row that names the expected hash and stores its own. -/
structure Fits (expected : Option Hash) (row : Row) : Prop where
  prev : format.prev row = expected
  entry : format.entry row = some (format.digest row)

omit [DecidableEq Hash] in
/-- A chain is linked when every row fits behind the rows before it. -/
theorem linked_iff_fits (start : Option Hash) (rows : List Row) :
    Linked format start rows ↔
      ∀ before row after, rows = before ++ row :: after →
        Fits format (tip format start before) row := by
  induction rows using List.reverseRecOn with
  | nil =>
      refine ⟨fun _ before row after hsplit => ?_, fun _ => .nil start⟩
      exact absurd hsplit (by simp)
  | append_singleton rows last ih =>
      rw [linked_append, ih]
      constructor
      · rintro ⟨hrows, hprev, hentry⟩ before row after hsplit
        rcases List.eq_nil_or_concat after with rfl | ⟨init, end_, rfl⟩
        · obtain ⟨rfl, hlast⟩ := List.append_inj' hsplit rfl
          cases hlast
          exact ⟨hprev, hentry⟩
        · rw [List.concat_eq_append, ← List.cons_append,
            ← List.append_assoc] at hsplit
          exact hrows before row init (List.append_inj' hsplit rfl).1
      · intro hall
        have hlast := hall rows last [] rfl
        refine ⟨fun before row after hsplit => ?_, hlast.prev, hlast.entry⟩
        apply hall before row (after ++ [last])
        rw [hsplit, List.append_assoc, List.cons_append]

omit [DecidableEq Hash] in
/-- A change that keeps the stored hashes keeps the links exactly where it
keeps the digests. -/
theorem linked_map {change : Row → Row} {start : Option Hash}
    {rows : List Row}
    (hprev : ∀ row, format.prev (change row) = format.prev row)
    (hentry : ∀ row, format.entry (change row) = format.entry row)
    (hlinked : Linked format start rows) :
    Linked format start (rows.map change) ↔
      ∀ row ∈ rows, format.digest (change row) = format.digest row := by
  induction hlinked with
  | nil start =>
      refine ⟨fun _ row hrow => ?_, fun _ => .nil start⟩
      cases hrow
  | @cons start row rows hrow hdigest _ ih =>
      rw [List.map_cons, List.forall_mem_cons, ← ih]
      constructor
      · intro hmapped
        cases hmapped with
        | cons _ hchanged hrest =>
            rw [hentry, hdigest, Option.some.injEq] at hchanged
            rw [hentry] at hrest
            exact ⟨hchanged.symm, hrest⟩
      · rintro ⟨hchanged, hrest⟩
        refine .cons ((hprev row).trans hrow) ?_ ?_
        · rw [hentry, hdigest, hchanged]
        · rwa [hentry]

omit [DecidableEq Hash] in
/-- Where digests commit to the rows, the last hash commits to the chain. -/
theorem Linked.forall₂ {Same : Row → Row → Prop} {left right : List Row}
    (hdigest : ∀ row ∈ left, ∀ other ∈ right,
      format.digest row = format.digest other →
        Same row other ∧ format.prev row = format.prev other)
    (hleft : Linked format none left) (hright : Linked format none right)
    (htip : tip format none left = tip format none right) :
    List.Forall₂ Same left right := by
  induction left using List.reverseRecOn generalizing right with
  | nil =>
      rcases List.eq_nil_or_concat right with rfl | ⟨rows, row, rfl⟩
      · exact .nil
      · rw [List.concat_eq_append, linked_append] at hright
        rw [List.concat_eq_append, tip_append, hright.2.2] at htip
        cases htip
  | append_singleton rows row ih =>
      rw [linked_append] at hleft
      obtain ⟨hrows, hprev, hentry⟩ := hleft
      rcases List.eq_nil_or_concat right with rfl | ⟨others, other, rfl⟩
      · rw [tip_append, hentry] at htip
        cases htip
      · rw [List.concat_eq_append] at hdigest hright htip ⊢
        rw [linked_append] at hright
        obtain ⟨hothers, hotherPrev, hotherEntry⟩ := hright
        rw [tip_append, tip_append, hentry, hotherEntry,
          Option.some.injEq] at htip
        obtain ⟨hsame, hprevSame⟩ := hdigest row (by simp) other (by simp) htip
        have hinit := ih (fun first hfirst second hsecond =>
          hdigest first (List.mem_append_left _ hfirst) second
            (List.mem_append_left _ hsecond)) hrows hothers
          (hprev.symm.trans (hprevSame.trans hotherPrev))
        exact List.rel_append hinit (.cons hsame .nil)

end HashChain
