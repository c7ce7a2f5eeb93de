/-
Keyset pagination: a list in descending order is fetched page by page, each
page below the cursor of the last row of the page before.
-/
import Mathlib.Data.List.Sort
import Mathlib.Order.Basic

namespace KeysetPages

structure Page (Row Cursor : Type) where
  items : List Row
  nextCursor : Option Cursor

/-- The first `limit` of the selected rows; one more tells that there is a
next page. -/
def pageOf {Row Cursor : Type} (cursorOf : Row → Cursor) (limit : Nat)
    (rows : List Row) : Page Row Cursor :=
  let hasNext := decide (limit < rows.length)
  let items := if hasNext then rows.take limit else rows
  ⟨items, if hasNext then items.getLast?.map cursorOf else none⟩

/-- Following the cursors until there is none; `none` when the fuel runs out
or a fetch fails. -/
def follow {Row Cursor : Type}
    (fetch : Option Cursor → Option (Page Row Cursor)) :
    Nat → Option Cursor → Option (List Row)
  | 0, _ => none
  | fuel + 1, cursor =>
      match fetch cursor with
      | none => none
      | some page =>
          match page.nextCursor with
          | none => some page.items
          | some next =>
              (follow fetch fuel (some next)).map fun items =>
                page.items ++ items

variable {Row Cursor Key : Type} [LinearOrder Key] (rank : Row → Key)
  (bound : Cursor → Key) (cursorOf : Row → Cursor)

def below (cursor : Option Cursor) (rows : List Row) : List Row :=
  rows.filter fun row => cursor.all fun cursor =>
    decide (rank row < bound cursor)

/-- The page that is selected with `LIMIT limit + 1`. -/
def fetchPage (limit : Nat) (rows : List Row) (cursor : Option Cursor) :
    Page Row Cursor :=
  pageOf cursorOf limit ((below rank bound cursor rows).take (limit + 1))

/-- At the end of each page the cursor of the last row admits the next one. -/
def BoundariesAdmit (limit : Nat) (rows : List Row) : Prop :=
  ∀ (i : Nat) (hi : i + 1 < rows.length), limit ∣ i + 1 →
    rank rows[i + 1] < bound (cursorOf rows[i])

variable {rank bound cursorOf} {limit : Nat} {rows : List Row}

/-! ## One page -/

theorem pageOf_last {rest : List Row} (hlast : rest.length ≤ limit) :
    pageOf cursorOf limit (rest.take (limit + 1)) = ⟨rest, none⟩ := by
  have hall : rest.take (limit + 1) = rest :=
    List.take_of_length_le (Nat.le_succ_of_le hlast)
  simp [pageOf, hall, Nat.not_lt.mpr hlast]

theorem getLast?_take {rest : List Row} {last : Nat}
    (hlast : last < rest.length) :
    (rest.take (last + 1)).getLast? = some rest[last] := by
  rw [List.getLast?_eq_getElem?, List.length_take,
    Nat.min_eq_left (Nat.succ_le_of_lt hlast), Nat.succ_sub_one,
    List.getElem?_take_of_lt (Nat.lt_succ_self last),
    List.getElem?_eq_getElem hlast]

theorem pageOf_next {rest : List Row} {last : Nat}
    (hnext : last + 1 < rest.length) :
    pageOf cursorOf (last + 1) (rest.take (last + 2)) =
      ⟨rest.take (last + 1), some (cursorOf rest[last])⟩ := by
  have hlength : last + 1 < (rest.take (last + 2)).length := by
    rw [List.length_take]
    omega
  have hitems : (rest.take (last + 2)).take (last + 1) =
      rest.take (last + 1) := by
    rw [List.take_take, Nat.min_eq_left (Nat.le_succ (last + 1))]
  simp only [pageOf, hlength, decide_true, if_true, hitems]
  rw [getLast?_take (Nat.lt_of_succ_lt hnext)]
  rfl

/-! ## The next page -/

/-- What a row's cursor admits was admitted before that row. -/
theorem below_below (hbound : ∀ row, bound (cursorOf row) ≤ rank row)
    {cursor : Option Cursor} {tail : Row}
    (htail : tail ∈ below rank bound cursor rows) :
    below rank bound (some (cursorOf tail)) rows =
      below rank bound (some (cursorOf tail))
        (below rank bound cursor rows) := by
  have hleft := (List.mem_filter.mp htail).2
  rw [below, below, below, List.filter_filter]
  apply List.filter_congr
  intro row _
  rw [Option.all_some]
  by_cases hrow : rank row < bound (cursorOf tail)
  · have hadmits : cursor.all (fun cursor =>
        decide (rank row < bound cursor)) = true := by
      cases cursor with
      | none => rfl
      | some cursor =>
          rw [Option.all_some, decide_eq_true_eq] at hleft ⊢
          exact lt_trans (lt_of_lt_of_le hrow (hbound tail)) hleft
    rw [hadmits, Bool.and_true]
  · rw [decide_eq_false hrow, Bool.false_and]

/-- A row's cursor admits none of the rows up to it. -/
theorem below_drop (hbound : ∀ row, bound (cursorOf row) ≤ rank row)
    {rest : List Row} {tail : Row} {count : Nat}
    (htake : ∀ row ∈ rest.take count, rank tail ≤ rank row) :
    below rank bound (some (cursorOf tail)) rest =
      below rank bound (some (cursorOf tail)) (rest.drop count) := by
  have hnone : below rank bound (some (cursorOf tail)) (rest.take count) =
      [] := by
    rw [below, List.filter_eq_nil_iff]
    intro row hrow hadmits
    rw [Option.all_some, decide_eq_true_eq] at hadmits
    have hle := le_trans (hbound tail) (htake row hrow)
    exact not_lt_of_ge hle hadmits
  conv_lhs => rw [← List.take_append_drop count rest]
  rw [below, List.filter_append]
  change below rank bound (some (cursorOf tail)) (rest.take count) ++ _ = _
  rw [hnone, List.nil_append, below]

theorem rank_le_of_mem_take {rest : List Row}
    (hsorted : rest.Pairwise fun left right => rank right < rank left)
    {last : Nat} (hlast : last < rest.length) :
    ∀ row ∈ rest.take (last + 1), rank rest[last] ≤ rank row := by
  intro row hrow
  obtain ⟨i, hi, rfl⟩ := List.mem_iff_getElem.mp hrow
  have hle : i ≤ last := by
    rw [List.length_take] at hi
    omega
  rw [List.getElem_take]
  rcases Nat.lt_or_eq_of_le hle with hlt | rfl
  · exact le_of_lt (List.pairwise_iff_getElem.mp hsorted i last _ hlast hlt)
  · exact le_refl _

/-- The next page starts with the next row when the cursor admits that. -/
theorem below_eq_self_iff {later : List Row}
    (hsorted : later.Pairwise fun left right => rank right < rank left)
    (hpos : 0 < later.length) (cursor : Cursor) :
    below rank bound (some cursor) later = later ↔
      rank later[0] < bound cursor := by
  rw [below, List.filter_eq_self]
  simp only [Option.all_some, decide_eq_true_eq]
  constructor
  · intro hall
    exact hall later[0] (List.getElem_mem hpos)
  · intro hfirst row hrow
    obtain ⟨i, hi, rfl⟩ := List.mem_iff_getElem.mp hrow
    rcases Nat.eq_zero_or_pos i with rfl | hi0
    · exact hfirst
    · have hlt := List.pairwise_iff_getElem.mp hsorted 0 i hpos hi hi0
      exact lt_trans hlt hfirst

/-- The boundaries of a list are the first one and those of what follows. -/
theorem boundariesAdmit_iff {rest : List Row} {last : Nat}
    (hnext : last + 1 < rest.length) :
    BoundariesAdmit rank bound cursorOf (last + 1) rest ↔
      rank rest[last + 1] < bound (cursorOf rest[last]) ∧
        BoundariesAdmit rank bound cursorOf (last + 1)
          (rest.drop (last + 1)) := by
  constructor
  · intro hadmits
    refine ⟨hadmits last hnext (Nat.dvd_refl _), fun i hi hdvd => ?_⟩
    rw [List.length_drop] at hi
    have hlater := hadmits (last + 1 + i) (by omega) (by
      rw [Nat.add_assoc]
      exact Nat.dvd_add (Nat.dvd_refl _) hdvd)
    simpa only [List.getElem_drop, Nat.add_assoc] using hlater
  · rintro ⟨hfirst, hrest⟩ i hi ⟨pages, hpages⟩
    rcases Nat.lt_or_ge last i with hlt | hge
    · obtain ⟨k, rfl⟩ : ∃ k, i = last + 1 + k :=
        ⟨i - (last + 1), by omega⟩
      have hdvd : last + 1 ∣ k + 1 := by
        have hsum : last + 1 ∣ last + 1 + (k + 1) := ⟨pages, by omega⟩
        exact (Nat.dvd_add_right (Nat.dvd_refl _)).mp hsum
      have hlater := hrest k (by rw [List.length_drop]; omega) hdvd
      simpa only [List.getElem_drop, Nat.add_assoc] using hlater
    · have hpage : last + 1 ≤ i + 1 := Nat.le_of_dvd (Nat.succ_pos i)
        ⟨pages, hpages⟩
      obtain rfl : i = last := by omega
      exact hfirst

/-! ## All pages -/

/-- Fetching ends, gives rows in order and none twice, and gives all of them
exactly when the boundaries admit their next rows. -/
theorem follow_spec (hlimit : 0 < limit)
    (hbound : ∀ row, bound (cursorOf row) ≤ rank row)
    (hsorted : rows.Pairwise fun left right => rank right < rank left)
    (fuel : Nat) (cursor : Option Cursor)
    (hfuel : (below rank bound cursor rows).length < fuel) :
    ∃ items, follow (fun cursor =>
        some (fetchPage rank bound cursorOf limit rows cursor)) fuel cursor =
          some items ∧
      items.Sublist (below rank bound cursor rows) ∧
      (items = below rank bound cursor rows ↔
        BoundariesAdmit rank bound cursorOf limit
          (below rank bound cursor rows)) := by
  obtain ⟨last, rfl⟩ : ∃ last, limit = last + 1 :=
    Nat.exists_eq_add_one_of_ne_zero (Nat.ne_of_gt hlimit)
  induction fuel generalizing cursor with
  | zero => exact absurd hfuel (Nat.not_lt_zero _)
  | succ fuel ih =>
      have hdescending : (below rank bound cursor rows).Pairwise
          fun left right => rank right < rank left :=
        hsorted.sublist List.filter_sublist
      generalize hrest : below rank bound cursor rows = rest
        at hfuel hdescending
      rw [follow, fetchPage, hrest]
      rcases Nat.lt_or_ge (last + 1) rest.length with hnext | hlast
      · have hlater := hdescending.sublist (List.drop_sublist (last + 1) rest)
        have htail : rest[last] ∈ below rank bound cursor rows := by
          simp [hrest]
        have hbelow := below_below hbound htail
        rw [hrest, below_drop hbound (rank_le_of_mem_take hdescending
          (Nat.lt_of_succ_lt hnext))] at hbelow
        have hshorter : (rest.drop (last + 1)).length < fuel := by
          rw [List.length_drop]
          omega
        have hsub : (below rank bound (some (cursorOf rest[last]))
            (rest.drop (last + 1))).Sublist (rest.drop (last + 1)) :=
          List.filter_sublist
        obtain ⟨items, hitems, hsublist, hiff⟩ :=
          ih (some (cursorOf rest[last])) (by
            rw [hbelow]
            exact Nat.lt_of_le_of_lt hsub.length_le hshorter)
        rw [hbelow] at hsublist hiff
        refine ⟨rest.take (last + 1) ++ items, ?_, ?_, ?_⟩
        · rw [pageOf_next hnext]
          dsimp only
          rw [hitems]
          rfl
        · conv_rhs => rw [← List.take_append_drop (last + 1) rest]
          exact (hsublist.trans hsub).append_left _
        · have hpos : 0 < (rest.drop (last + 1)).length := by
            rw [List.length_drop]
            omega
          have hfirst : below rank bound (some (cursorOf rest[last]))
              (rest.drop (last + 1)) = rest.drop (last + 1) ↔ _ :=
            below_eq_self_iff hlater hpos (cursorOf rest[last])
          simp only [List.getElem_drop, Nat.add_zero] at hfirst
          have hsplit : rest.take (last + 1) ++ items = rest ↔
              items = rest.drop (last + 1) := by
            conv_lhs => rhs; rw [← List.take_append_drop (last + 1) rest]
            exact List.append_right_inj _
          rw [hsplit, boundariesAdmit_iff hnext, ← hfirst]
          constructor
          · rintro rfl
            have hall := hsub.eq_of_length_le hsublist.length_le
            rw [hall] at hiff
            exact ⟨hall, hiff.mp rfl⟩
          · rintro ⟨hall, hadmits⟩
            rw [hall] at hiff
            exact hiff.mpr hadmits
      · refine ⟨rest, ?_, List.Sublist.refl rest, ?_⟩
        · rw [pageOf_last hlast]
        · refine iff_of_true rfl fun i hi hdvd => ?_
          have hpage := Nat.le_of_dvd (Nat.succ_pos i) hdvd
          omega

theorem below_none : below rank bound none rows = rows :=
  List.filter_eq_self.mpr fun _ _ => rfl

/-- From the first page on. -/
theorem follow_all (hlimit : 0 < limit)
    (hbound : ∀ row, bound (cursorOf row) ≤ rank row)
    (hsorted : rows.Pairwise fun left right => rank right < rank left)
    {fuel : Nat} (hfuel : rows.length < fuel) :
    ∃ items, follow (fun cursor =>
        some (fetchPage rank bound cursorOf limit rows cursor)) fuel none =
          some items ∧
      items.Sublist rows ∧
      (items = rows ↔ BoundariesAdmit rank bound cursorOf limit rows) := by
  have hspec := follow_spec hlimit hbound hsorted fuel none
  rw [below_none] at hspec
  exact hspec hfuel

/-! ## Fuel -/

theorem follow_mono {fetch : Option Cursor → Option (Page Row Cursor)}
    {fuel more : Nat} (hle : fuel ≤ more) {cursor : Option Cursor}
    {items : List Row} (hitems : follow fetch fuel cursor = some items) :
    follow fetch more cursor = some items := by
  induction fuel generalizing more cursor items with
  | zero => cases hitems
  | succ fuel ih =>
      obtain ⟨more, rfl⟩ : ∃ n, more = n + 1 :=
        Nat.exists_eq_add_one_of_ne_zero (by omega)
      rw [follow] at hitems ⊢
      split at hitems
      case h_1 => cases hitems
      case h_2 page hpage =>
        split at hitems
        case h_1 => exact hitems
        case h_2 next hnext =>
          obtain ⟨later, hlater, heq⟩ := Option.map_eq_some_iff.mp hitems
          rw [ih (Nat.le_of_succ_le_succ hle) hlater, ← heq]
          rfl

/-! ## Cursors as texts -/

section Encoded

variable {Token : Type} (encode : Cursor → Token)

def Page.encoded (page : Page Row Cursor) : Page Row Token :=
  ⟨page.items, page.nextCursor.map encode⟩

/-- Where every cursor survives its text, following the texts is following
the cursors. -/
theorem follow_encoded {decode : Option Token → Option (Option Cursor)}
    (hround : ∀ cursor : Option Cursor,
      decode (cursor.map encode) = some cursor)
    (fetch : Option Cursor → Page Row Cursor) (fuel : Nat)
    (cursor : Option Cursor) :
    follow (fun token =>
        (decode token).map fun cursor => (fetch cursor).encoded encode)
        fuel (cursor.map encode) =
      follow (fun cursor => some (fetch cursor)) fuel cursor := by
  induction fuel generalizing cursor with
  | zero => rfl
  | succ fuel ih =>
      rw [follow, follow, hround cursor, Option.map_some]
      dsimp only [Page.encoded]
      cases hnext : (fetch cursor).nextCursor with
      | none => rfl
      | some next =>
          have hrest := ih (some next)
          rw [Option.map_some] at hrest ⊢
          dsimp only
          rw [← hrest]
          rfl

end Encoded

end KeysetPages
