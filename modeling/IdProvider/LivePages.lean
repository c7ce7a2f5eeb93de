/-
Keyset pagination of a list that changes between the pages: no row is read
twice, and a row is read that is there all the time and that no page's cursor
hides.
-/
import IdProvider.KeysetPages

namespace KeysetPages

/-- The pages that are read, each fetched when its turn comes, and whether the
last page was reached. -/
inductive Reads {Row Cursor : Type}
    (fetch : Nat → Option Cursor → Page Row Cursor) :
    Nat → Option Cursor → List (Page Row Cursor) → Bool → Prop
  | stop (turn : Nat) (cursor : Option Cursor) :
      Reads fetch turn cursor [] false
  | last {turn : Nat} {cursor : Option Cursor}
      (hlast : (fetch turn cursor).nextCursor = none) :
      Reads fetch turn cursor [fetch turn cursor] true
  | next {turn : Nat} {cursor : Option Cursor} {following : Cursor}
      {later : List (Page Row Cursor)} {finished : Bool}
      (hnext : (fetch turn cursor).nextCursor = some following)
      (hlater : Reads fetch (turn + 1) (some following) later finished) :
      Reads fetch turn cursor (fetch turn cursor :: later) finished

def itemsOf {Row Cursor : Type} (pages : List (Page Row Cursor)) : List Row :=
  pages.flatMap Page.items

/-- The page's cursor does not admit the key, although the key comes after the
last row of the page. -/
def Hides {Row Cursor Key : Type} [LinearOrder Key] (rank : Row → Key)
    (bound : Cursor → Key) (page : Page Row Cursor) (key : Key) : Prop :=
  ∃ tail ∈ page.items.getLast?, ∃ cursor ∈ page.nextCursor,
    key < rank tail ∧ ¬ key < bound cursor

variable {Row Cursor Key : Type} [LinearOrder Key] {rank : Row → Key}
  {bound : Cursor → Key} {cursorOf : Row → Cursor} {limit : Nat}

theorem fetchPage_none {rows : List Row} {cursor : Option Cursor}
    (hlimit : 0 < limit)
    (hlast : (fetchPage rank bound cursorOf limit rows cursor).nextCursor =
      none) :
    (fetchPage rank bound cursorOf limit rows cursor).items =
      below rank bound cursor rows := by
  obtain ⟨last, rfl⟩ : ∃ last, limit = last + 1 :=
    Nat.exists_eq_add_one_of_ne_zero (Nat.ne_of_gt hlimit)
  unfold fetchPage at hlast ⊢
  rcases Nat.lt_or_ge (last + 1) (below rank bound cursor rows).length with
    hnext | hshort
  · rw [pageOf_next hnext] at hlast
    cases hlast
  · rw [pageOf_last hshort]

/-- A page with a next one ends in the row that the next one starts from. -/
theorem fetchPage_some {rows : List Row} {cursor : Option Cursor}
    {following : Cursor} (hlimit : 0 < limit)
    (hnext : (fetchPage rank bound cursorOf limit rows cursor).nextCursor =
      some following) :
    ∃ last, ∃ hlast : last < (below rank bound cursor rows).length,
      (fetchPage rank bound cursorOf limit rows cursor).items =
        (below rank bound cursor rows).take (last + 1) ∧
      (fetchPage rank bound cursorOf limit rows cursor).items.getLast? =
        some (below rank bound cursor rows)[last] ∧
      following = cursorOf (below rank bound cursor rows)[last] := by
  obtain ⟨last, rfl⟩ : ∃ last, limit = last + 1 :=
    Nat.exists_eq_add_one_of_ne_zero (Nat.ne_of_gt hlimit)
  unfold fetchPage at hnext ⊢
  rcases Nat.lt_or_ge (last + 1) (below rank bound cursor rows).length with
    hmore | hshort
  · rw [pageOf_next hmore] at hnext ⊢
    have hlast := Nat.lt_of_succ_lt hmore
    refine ⟨last, hlast, rfl, ?_, (Option.some.inj hnext).symm⟩
    dsimp only
    rw [List.take_succ_eq_append_getElem hlast, List.getLast?_concat]
  · rw [pageOf_last hshort] at hnext
    cases hnext

section Live

variable {rows : Nat → List Row} {turn : Nat} {cursor : Option Cursor}
  {pages : List (Page Row Cursor)} {finished : Bool}

theorem pairwise_below (rank : Row → Key) (bound : Cursor → Key)
    (cursor : Option Cursor) {rest : List Row}
    (hsorted : rest.Pairwise fun left right => rank right < rank left) :
    (below rank bound cursor rest).Pairwise
      fun left right => rank right < rank left :=
  hsorted.sublist List.filter_sublist

theorem admits_of_mem_below {rest : List Row} {row : Row}
    (hrow : row ∈ below rank bound cursor rest) :
    cursor.all (fun cursor => decide (rank row < bound cursor)) = true :=
  (List.mem_filter.mp hrow).2

/-- What is read descends, below the cursor that it is read from. -/
theorem reads_descends (hlimit : 0 < limit)
    (hbound : ∀ row, bound (cursorOf row) ≤ rank row)
    (hsorted : ∀ turn, (rows turn).Pairwise
      fun left right => rank right < rank left)
    (hreads : Reads (fun turn cursor =>
      fetchPage rank bound cursorOf limit (rows turn) cursor)
      turn cursor pages finished) :
    ((itemsOf pages).Pairwise fun left right => rank right < rank left) ∧
      ∀ row ∈ itemsOf pages,
        cursor.all (fun cursor => decide (rank row < bound cursor)) = true := by
  induction hreads with
  | stop => exact ⟨List.Pairwise.nil, fun row hrow =>
      absurd hrow List.not_mem_nil⟩
  | last hlast =>
      rw [itemsOf, List.flatMap_singleton, fetchPage_none hlimit hlast]
      exact ⟨pairwise_below rank bound _ (hsorted _), fun row hrow =>
        admits_of_mem_below hrow⟩
  | @next turn cursor following later finished hnext hlater ih =>
      obtain ⟨last, hlast, hitems, -, rfl⟩ := fetchPage_some hlimit hnext
      obtain ⟨hlaterSorted, hlaterBelow⟩ := ih
      have hbelow := pairwise_below rank bound cursor (hsorted turn)
      rw [itemsOf, List.flatMap_cons, hitems, ← itemsOf]
      have htail := rank_le_of_mem_take hbelow hlast
      have hafter : ∀ row ∈ itemsOf later,
          rank row < rank (below rank bound cursor (rows turn))[last] := by
        intro row hrow
        have hadmitted := hlaterBelow row hrow
        rw [Option.all_some, decide_eq_true_eq] at hadmitted
        exact lt_of_lt_of_le hadmitted (hbound _)
      constructor
      · rw [List.pairwise_append]
        refine ⟨hbelow.sublist (List.take_sublist _ _), hlaterSorted, ?_⟩
        intro left hleft right hright
        exact lt_of_lt_of_le (hafter right hright) (htail left hleft)
      · intro row hrow
        rcases List.mem_append.mp hrow with hhere | hthere
        · exact admits_of_mem_below (List.mem_of_mem_take hhere)
        · have hadmitted := admits_of_mem_below (List.getElem_mem hlast)
          cases cursor with
          | none => rfl
          | some cursor =>
              rw [Option.all_some, decide_eq_true_eq] at hadmitted ⊢
              exact lt_trans (hafter row hthere) hadmitted

theorem reads_mem (hlimit : 0 < limit)
    (hreads : Reads (fun turn cursor =>
      fetchPage rank bound cursorOf limit (rows turn) cursor)
      turn cursor pages finished) :
    ∀ page ∈ pages, ∀ row ∈ page.items, ∃ turn, row ∈ rows turn := by
  induction hreads with
  | stop => exact fun page hpage => absurd hpage List.not_mem_nil
  | @last turn cursor hlast =>
      intro page hpage row hrow
      cases List.mem_singleton.mp hpage
      rw [fetchPage_none hlimit hlast] at hrow
      exact ⟨turn, List.mem_of_mem_filter hrow⟩
  | @next turn cursor following later finished hnext hlater ih =>
      obtain ⟨last, hlast, hitems, -⟩ := fetchPage_some hlimit hnext
      intro page hpage row hrow
      rcases List.mem_cons.mp hpage with rfl | hthere
      · rw [hitems] at hrow
        exact ⟨turn, List.mem_of_mem_filter (List.mem_of_mem_take hrow)⟩
      · exact ih page hthere row hrow

/-- Every cursor is that of the last row of its page. -/
theorem reads_cursor (hlimit : 0 < limit)
    (hreads : Reads (fun turn cursor =>
      fetchPage rank bound cursorOf limit (rows turn) cursor)
      turn cursor pages finished) :
    ∀ page ∈ pages, ∀ tail ∈ page.items.getLast?,
      ∀ following ∈ page.nextCursor, following = cursorOf tail := by
  induction hreads with
  | stop => exact fun page hpage => absurd hpage List.not_mem_nil
  | last hlast =>
      intro page hpage tail _ following hfollowing
      cases List.mem_singleton.mp hpage
      rw [hlast] at hfollowing
      cases hfollowing
  | next hnext hlater ih =>
      obtain ⟨last, hlast, -, htail, rfl⟩ := fetchPage_some hlimit hnext
      intro page hpage tail hmem following hfollowing
      rcases List.mem_cons.mp hpage with rfl | hthere
      · rw [htail] at hmem
        rw [hnext] at hfollowing
        cases hmem
        cases hfollowing
        rfl
      · exact ih page hthere tail hmem following hfollowing

/-- A rank that is there at every turn is read, unless a page hides it. -/
theorem reads_complete (hlimit : 0 < limit)
    (hsorted : ∀ turn, (rows turn).Pairwise
      fun left right => rank right < rank left)
    {key : Key} (hthere : ∀ turn, ∃ row ∈ rows turn, rank row = key)
    (hreads : Reads (fun turn cursor =>
      fetchPage rank bound cursorOf limit (rows turn) cursor)
      turn cursor pages finished)
    (hfinished : finished = true)
    (hadmitted : cursor.all (fun cursor => decide (key < bound cursor)) = true)
    (hopen : ∀ page ∈ pages, ¬ Hides rank bound page key) :
    ∃ row ∈ itemsOf pages, rank row = key := by
  induction hreads with
  | stop => cases hfinished
  | @last turn cursor hlast =>
      obtain ⟨row, hrow, rfl⟩ := hthere turn
      refine ⟨row, ?_, rfl⟩
      rw [itemsOf, List.flatMap_singleton, fetchPage_none hlimit hlast]
      exact List.mem_filter.mpr ⟨hrow, hadmitted⟩
  | @next turn cursor following later finished hnext hlater ih =>
      obtain ⟨last, hlast, hitems, htail, rfl⟩ := fetchPage_some hlimit hnext
      rw [List.forall_mem_cons] at hopen
      rw [itemsOf, List.flatMap_cons, hitems, ← itemsOf]
      by_cases hbelow :
          key < rank (below rank bound cursor (rows turn))[last]
      · have hcursor : key < bound (cursorOf
            (below rank bound cursor (rows turn))[last]) := by
          by_contra hrefused
          exact hopen.1 ⟨_, htail, _, hnext, hbelow, hrefused⟩
        obtain ⟨row, hrow, hkey⟩ := ih hfinished
          (by rwa [Option.all_some, decide_eq_true_eq]) hopen.2
        exact ⟨row, List.mem_append_right _ hrow, hkey⟩
      · obtain ⟨row, hrow, rfl⟩ := hthere turn
        have hmem : row ∈ below rank bound cursor (rows turn) :=
          List.mem_filter.mpr ⟨hrow, hadmitted⟩
        refine ⟨row, List.mem_append_left _ ?_, rfl⟩
        obtain ⟨i, hi, rfl⟩ := List.mem_iff_getElem.mp hmem
        have hle : i ≤ last := by
          by_contra hgt
          exact hbelow (List.pairwise_iff_getElem.mp
            (pairwise_below rank bound cursor (hsorted turn)) last i hlast hi
            (Nat.lt_of_not_le hgt))
        exact List.mem_take_iff_getElem.mpr ⟨i, by omega, rfl⟩

end Live

end KeysetPages
