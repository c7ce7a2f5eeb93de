/-
`ORDER BY` over a key in a linear order.
-/
import Mathlib.Data.List.Sort

namespace RowOrder

variable {Row Key : Type} [LinearOrder Key] (rank : Row → Key)

/-- `ORDER BY rank ASC`. -/
def ascending (rows : List Row) : List Row :=
  rows.insertionSort fun left right => rank left ≤ rank right

/-- `ORDER BY rank DESC`. -/
def descending (rows : List Row) : List Row :=
  rows.insertionSort fun left right => rank right ≤ rank left

theorem ascending_perm (rows : List Row) :
    (ascending rank rows).Perm rows :=
  List.perm_insertionSort _ rows

theorem descending_perm (rows : List Row) :
    (descending rank rows).Perm rows :=
  List.perm_insertionSort _ rows

theorem pairwise_ascending (rows : List Row) :
    (ascending rank rows).Pairwise fun left right =>
      rank left ≤ rank right := by
  have htotal : Std.Total fun left right : Row => rank left ≤ rank right :=
    ⟨fun left right => le_total (rank left) (rank right)⟩
  have htrans : IsTrans Row fun left right => rank left ≤ rank right :=
    ⟨fun _ _ _ => le_trans⟩
  exact List.pairwise_insertionSort _ rows

theorem pairwise_descending (rows : List Row) :
    (descending rank rows).Pairwise fun left right =>
      rank right ≤ rank left := by
  have htotal : Std.Total fun left right : Row => rank right ≤ rank left :=
    ⟨fun left right => le_total (rank right) (rank left)⟩
  have htrans : IsTrans Row fun left right => rank right ≤ rank left :=
    ⟨fun _ _ _ hleft hright => le_trans hright hleft⟩
  exact List.pairwise_insertionSort _ rows

/-- A change that keeps every rank keeps the order. -/
theorem ascending_map {change : Row → Row} (rows : List Row)
    (hrank : ∀ row, rank (change row) = rank row) :
    ascending rank (rows.map change) = (ascending rank rows).map change := by
  apply Eq.symm
  apply List.map_insertionSort
  intro left _ right _
  rw [hrank, hrank]

/-- Where ranks determine rows, the two orders are mirror images. -/
theorem descending_eq_reverse {rows : List Row}
    (hrank : ∀ left ∈ rows, ∀ right ∈ rows,
      rank left = rank right → left = right) :
    descending rank rows = (ascending rank rows).reverse := by
  have hreverse := List.pairwise_reverse.mpr (pairwise_ascending rank rows)
  have hperm : (descending rank rows).Perm (ascending rank rows).reverse :=
    (descending_perm rank rows).trans
      ((List.reverse_perm _).trans (ascending_perm rank rows)).symm
  refine List.Perm.eq_of_pairwise ?_ (pairwise_descending rank rows)
    hreverse hperm
  intro left right hleft hright hle hge
  apply hrank left ((descending_perm rank rows).mem_iff.mp hleft)
  · exact (ascending_perm rank rows).mem_iff.mp (List.mem_reverse.mp hright)
  · exact le_antisymm hge hle

/-- Where ranks determine rows, the order is strict. -/
theorem pairwise_descending_lt {rows : List Row} (hnodup : rows.Nodup)
    (hrank : ∀ left ∈ rows, ∀ right ∈ rows,
      rank left = rank right → left = right) :
    (descending rank rows).Pairwise fun left right =>
      rank right < rank left := by
  have hperm := descending_perm rank rows
  have hdistinct : (descending rank rows).Nodup := hperm.nodup_iff.mpr hnodup
  have hboth := (pairwise_descending rank rows).and hdistinct
  refine hboth.imp_of_mem fun {left right} hleft hright hle => ?_
  refine lt_of_le_of_ne hle.1 fun heq => hle.2 ?_
  exact hrank left (hperm.mem_iff.mp hleft) right (hperm.mem_iff.mp hright)
    heq.symm

/-- Selecting rows and ordering them commute. -/
theorem descending_filter {rows : List Row}
    (hrank : ∀ left ∈ rows, ∀ right ∈ rows,
      rank left = rank right → left = right) (where_ : Row → Bool) :
    descending rank (rows.filter where_) =
      (descending rank rows).filter where_ := by
  have hperm : (descending rank (rows.filter where_)).Perm
      ((descending rank rows).filter where_) :=
    (descending_perm rank _).trans ((descending_perm rank rows).filter _).symm
  refine List.Perm.eq_of_pairwise ?_ (pairwise_descending rank _)
    ((pairwise_descending rank rows).sublist List.filter_sublist) hperm
  intro left right hleft hright hle hge
  have hleft' := (descending_perm rank _).mem_iff.mp hleft
  have hright' := (List.mem_filter.mp hright).1
  exact hrank left (List.mem_filter.mp hleft').1 right
    ((descending_perm rank rows).mem_iff.mp hright') (le_antisymm hge hle)

theorem orderedInsert_append_of_le {row last : Row} (rows : List Row)
    (hle : rank row ≤ rank last) :
    List.orderedInsert (fun left right => rank left ≤ rank right) row
        (rows ++ [last]) =
      List.orderedInsert (fun left right => rank left ≤ rank right) row
        rows ++ [last] := by
  induction rows with
  | nil => simp [hle]
  | cons head rows ih =>
      by_cases hhead : rank row ≤ rank head
      · simp [hhead]
      · simp only [List.cons_append, List.orderedInsert_cons, hhead, if_false,
          ih]

/-- A row ranked above all others comes last. -/
theorem ascending_append_of_le {rows : List Row} {last : Row}
    (hle : ∀ row ∈ rows, rank row ≤ rank last) :
    ascending rank (rows ++ [last]) = ascending rank rows ++ [last] := by
  induction rows with
  | nil => rfl
  | cons row rows ih =>
      have hrow := hle row List.mem_cons_self
      have hrows := ih fun other hother =>
        hle other (List.mem_cons_of_mem row hother)
      simp only [ascending, List.cons_append, List.insertionSort_cons]
        at hrows ⊢
      rw [hrows, orderedInsert_append_of_le rank _ hrow]

/-! ## The row next below -/

/-- `WHERE rank < ... ORDER BY rank DESC LIMIT 1`. -/
def predecessor (rows : List Row) (row : Row) : Option Row :=
  (descending rank (rows.filter fun other => rank other < rank row)).head?

theorem head?_descending {rows : List Row} {top : Row} (htop : top ∈ rows)
    (hrank : ∀ row ∈ rows, rank row = rank top → row = top)
    (hle : ∀ row ∈ rows, rank row ≤ rank top) :
    (descending rank rows).head? = some top := by
  have hsorted := pairwise_descending rank rows
  have hmem := (descending_perm rank rows).mem_iff.mpr htop
  cases hrows : descending rank rows with
  | nil =>
      rw [hrows] at hmem
      cases hmem
  | cons head tail =>
      have hhead : head ∈ rows := by
        apply (descending_perm rank rows).mem_iff.mp
        rw [hrows]
        exact List.mem_cons_self
      have hge : rank top ≤ rank head := by
        rw [hrows] at hsorted hmem
        rcases List.mem_cons.mp hmem with hsame | htail
        · exact le_of_eq (congrArg rank hsame)
        · exact (List.pairwise_cons.mp hsorted).1 top htail
      exact congrArg some
        (hrank head hhead (le_antisymm (hle head hhead) hge))

/-- In a convex selection, put in order, the row next below stands right
before. -/
theorem predecessor_of_split {rows : List Row} {where_ : Row → Bool}
    (hnodup : rows.Nodup)
    (hrank : ∀ left ∈ rows, ∀ right ∈ rows,
      rank left = rank right → left = right)
    (hconvex : ∀ low middle high, where_ low = true → where_ high = true →
      rank low ≤ rank middle → rank middle ≤ rank high →
      where_ middle = true)
    {before after : List Row} {below row : Row}
    (hsplit : ascending rank (rows.filter where_) =
      before ++ below :: row :: after) :
    predecessor rank rows row = some below := by
  have hperm := ascending_perm rank (rows.filter where_)
  have hsorted := pairwise_ascending rank (rows.filter where_)
  have hdistinct : (ascending rank (rows.filter where_)).Nodup :=
    hperm.nodup_iff.mpr (hnodup.filter _)
  rw [hsplit] at hperm hsorted hdistinct
  have hbelow := List.mem_filter.mp
    (hperm.mem_iff.mp (List.mem_append_right before List.mem_cons_self))
  have hrow := List.mem_filter.mp (hperm.mem_iff.mp
    (List.mem_append_right before
      (List.mem_cons_of_mem below List.mem_cons_self)))
  obtain ⟨-, htail, hbefore⟩ := List.pairwise_append.mp hsorted
  obtain ⟨hnext, hrest⟩ := List.pairwise_cons.mp htail
  have hlt : rank below < rank row := by
    refine lt_of_le_of_ne (hnext row List.mem_cons_self) fun hsame => ?_
    have heq := hrank below hbelow.1 row hrow.1 hsame
    have hapart := (List.nodup_append.mp hdistinct).2.1
    rw [heq] at hapart
    exact (List.nodup_cons.mp hapart).1 List.mem_cons_self
  apply head?_descending
  · exact List.mem_filter.mpr ⟨hbelow.1, decide_eq_true hlt⟩
  · intro other hother
    exact hrank other (List.mem_filter.mp hother).1 below hbelow.1
  · intro other hother
    obtain ⟨hmem, hbefore_row⟩ := List.mem_filter.mp hother
    have hother_lt : rank other < rank row := of_decide_eq_true hbefore_row
    by_contra hnot
    have hgt := not_le.mp hnot
    have hwhere := hconvex below other row hbelow.2 hrow.2 (le_of_lt hgt)
      (le_of_lt hother_lt)
    have hlisted := hperm.mem_iff.mpr (List.mem_filter.mpr ⟨hmem, hwhere⟩)
    rcases List.mem_append.mp hlisted with hinit | hend
    · exact not_lt_of_ge (hbefore other hinit below List.mem_cons_self) hgt
    · rcases List.mem_cons.mp hend with rfl | hend
      · exact lt_irrefl _ hgt
      · rcases List.mem_cons.mp hend with rfl | hafter
        · exact lt_irrefl _ hother_lt
        · exact not_lt_of_ge
            ((List.pairwise_cons.mp hrest).1 other hafter) hother_lt

end RowOrder
