/-
The orders in which the fields of an object come: as the runtime enumerates
them, as a `jsonb` column stores them, and sorted by a collation.
-/
import IdProvider.AuditChain
import IdProvider.StableSort

namespace IdProvider

/-! ## Array indexes -/

/-- A text of digits without a leading zero is that of its number. -/
theorem toDigits_foldl (digits : List Char) (hnil : digits ≠ [])
    (hdigits : digits.all Char.isDigit = true)
    (hzero : digits.head? = some '0' → digits = ['0']) :
    Nat.toDigits 10
      (digits.foldl (fun sum digit => sum * 10 + digit.toNat - 48) 0) =
      digits := by
  induction digits using List.reverseRecOn with
  | nil => exact absurd rfl hnil
  | append_singleton digits digit ih =>
      rw [List.all_append, Bool.and_eq_true, List.all_cons, List.all_nil,
        Bool.and_true] at hdigits
      obtain ⟨hbefore, hdigit⟩ := hdigits
      have hrange : 48 ≤ digit.toNat ∧ digit.toNat ≤ 57 := by
        simpa [Char.isDigit, UInt32.le_iff_toNat_le] using hdigit
      have hchar : Nat.digitChar (digit.toNat - 48) = digit := by
        have hall : ∀ value, value ≤ 9 → Nat.digitChar value =
            Char.ofNat (value + 48) := by decide
        rw [hall _ (by omega), Nat.sub_add_cancel hrange.1,
          Char.ofNat_toNat]
      rw [List.foldl_append, List.foldl_cons, List.foldl_nil]
      by_cases hempty : digits = []
      · subst hempty
        rw [List.foldl_nil, Nat.toDigits_of_lt_base (by omega), List.nil_append,
          Nat.zero_mul, Nat.zero_add, hchar]
      · have hhead : digits.head? ≠ some '0' := by
          intro hhead
          have hsingle := hzero (by rw [List.head?_append, hhead]; rfl)
          have hlength := congrArg List.length hsingle
          rw [List.length_append, List.length_singleton] at hlength
          exact hempty (List.length_eq_zero_iff.mp (by simpa using hlength))
        have hprefix := ih hempty hbefore fun hzero => absurd hzero hhead
        have hpositive : digits.foldl
            (fun sum digit => sum * 10 + digit.toNat - 48) 0 ≠ 0 := by
          intro hvalue
          rw [hvalue] at hprefix
          exact hhead (by rw [← hprefix]; rfl)
        have hlast : ∀ sum, sum ≠ 0 → Nat.toDigits 10
            (sum * 10 + digit.toNat - 48) = Nat.toDigits 10 sum ++ [digit] := by
          intro sum hsum
          rw [Nat.toDigits_of_base_le (by decide) (by omega)]
          have hdiv : (sum * 10 + digit.toNat - 48) / 10 = sum := by omega
          have hmod : (sum * 10 + digit.toNat - 48) % 10 =
              digit.toNat - 48 := by omega
          rw [hdiv, hmod, hchar]
        rw [hlast _ hpositive, hprefix]

theorem arrayIndex?_inj {left right : String} {index : Nat}
    (hleft : arrayIndex? left = some index)
    (hright : arrayIndex? right = some index) : left = right := by
  have hdigits : ∀ {name : String}, arrayIndex? name = some index →
      Nat.toDigits 10 index = name.toList := by
    intro name hname
    simp only [arrayIndex?] at hname
    split at hname
    case isTrue hindex =>
      cases hname
      exact toDigits_foldl _ hindex.2.1 hindex.1 hindex.2.2.1
    case isFalse => cases hname
  exact String.toList_injective
    ((hdigits hleft).symm.trans (hdigits hright))

/-! ## Enumeration -/

/-- The fields whose names are no array indexes. -/
def plainFields {Value : Type} (fields : List (String × Value)) :
    List (String × Value) :=
  fields.filter fun field => (arrayIndex? field.1).isNone

/-- The other fields, in numeric order. -/
def indexedFields {Value : Type} (fields : List (String × Value)) :
    List (String × Value) :=
  (fields.filter fun field => (arrayIndex? field.1).isSome).insertionSort
    fun left right =>
      (arrayIndex? left.1).getD 0 ≤ (arrayIndex? right.1).getD 0

theorem enumerated_eq {Value : Type} (fields : List (String × Value)) :
    enumerated fields = indexedFields fields ++ plainFields fields := rfl

theorem enumerated_perm {Value : Type} (fields : List (String × Value)) :
    (enumerated fields).Perm fields := by
  have hindexed : (indexedFields fields).Perm
      (fields.filter fun field => (arrayIndex? field.1).isSome) :=
    List.perm_insertionSort _ _
  have hplain : plainFields fields =
      fields.filter fun field => !(arrayIndex? field.1).isSome := by
    simp only [plainFields, Option.not_isSome]
  rw [enumerated_eq, hplain]
  exact (hindexed.append_right _).trans (List.filter_append_perm _ fields)

/-- Where names are distinct, numeric order leaves no choice. -/
theorem indexedFields_of_perm {Value : Type}
    {left right : List (String × Value)} (hperm : left.Perm right)
    (hnames : (left.map Prod.fst).Nodup) :
    indexedFields left = indexedFields right := by
  let before := fun left right : String × Value =>
    (arrayIndex? left.1).getD 0 ≤ (arrayIndex? right.1).getD 0
  have htotal : Std.Total before := ⟨fun _ _ => Nat.le_total _ _⟩
  have htrans : IsTrans (String × Value) before := ⟨fun _ _ _ => Nat.le_trans⟩
  have hmem : ∀ field ∈ indexedFields left, field ∈ left ∧
      (arrayIndex? field.1).isSome = true := fun field hfield =>
    List.mem_filter.mp ((List.perm_insertionSort before _).mem_iff.mp hfield)
  have hsame : (indexedFields left).Perm (indexedFields right) :=
    (List.perm_insertionSort before _).trans
      ((hperm.filter _).trans (List.perm_insertionSort before _).symm)
  refine List.Perm.eq_of_pairwise ?_ (List.pairwise_insertionSort before _)
    (List.pairwise_insertionSort before _) hsame
  intro field other hfield hother hle hge
  obtain ⟨hin, hsome⟩ := hmem field hfield
  obtain ⟨hin', hsome'⟩ := hmem other (hsame.mem_iff.mpr hother)
  obtain ⟨index, hindex⟩ := Option.isSome_iff_exists.mp hsome
  obtain ⟨index', hindex'⟩ := Option.isSome_iff_exists.mp hsome'
  simp only [before, hindex, hindex', Option.getD_some] at hle hge
  have hequal := Nat.le_antisymm hle hge
  rw [← hequal] at hindex'
  exact List.inj_on_of_nodup_map hnames hin hin' (arrayIndex?_inj hindex hindex')

/-! ## Storage -/

theorem jsonbKeyLe_iff (left right : String) :
    jsonbKeyLe left right = true ↔
      toLex (left.utf8ByteSize, left) ≤ toLex (right.utf8ByteSize, right) := by
  rw [jsonbKeyLe, Prod.Lex.toLex_le_toLex, Bool.or_eq_true, Bool.and_eq_true,
    decide_eq_true_eq, decide_eq_true_eq, decide_eq_true_eq]

theorem jsonbKeyLe_antisymm {left right : String}
    (hle : jsonbKeyLe left right = true)
    (hge : jsonbKeyLe right left = true) : left = right := by
  rw [jsonbKeyLe_iff] at hle hge
  exact congrArg (fun rank => (ofLex rank).2) (le_antisymm hle hge)

/-- The fields in the order in which a `jsonb` column gives them back. -/
def storedFields {Value : Type} (fields : List (String × Value)) :
    List (String × Value) :=
  fields.insertionSort fun left right => jsonbKeyLe left.1 right.1

theorem storedFields_perm {Value : Type} (fields : List (String × Value)) :
    (storedFields fields).Perm fields := List.perm_insertionSort _ fields

theorem pairwise_storedFields {Value : Type} (fields : List (String × Value)) :
    (storedFields fields).Pairwise fun left right =>
      jsonbKeyLe left.1 right.1 = true := by
  let before := fun left right : String × Value =>
    jsonbKeyLe left.1 right.1 = true
  have htotal : Std.Total before := ⟨fun left right => by
    simp only [before, jsonbKeyLe_iff]
    exact le_total _ _⟩
  have htrans : IsTrans (String × Value) before := ⟨fun left middle right => by
    simp only [before, jsonbKeyLe_iff]
    exact le_trans⟩
  exact List.pairwise_insertionSort before fields

theorem storedFields_map {Source Target : Type} (read : Source → Target)
    (fields : List (String × Source)) :
    storedFields (fields.map fun field => (field.1, read field.2)) =
      (storedFields fields).map fun field => (field.1, read field.2) := by
  apply Eq.symm
  apply List.map_insertionSort
  intro left _ right _
  rfl

/-! ## Names that a collation ties -/

section Ties

variable (collation : Collation)

/-- `left.localeCompare(right) === 0`. -/
def Collation.tied (left right : String) : Bool :=
  collation.le left right && collation.le right left

/-- The fields that sort together with a name. -/
def tiedFields {Value : Type} (name : String)
    (fields : List (String × Value)) : List (String × Value) :=
  fields.filter fun field => collation.tied name field.1

theorem mem_tiedFields {Value : Type} {name : String}
    {fields : List (String × Value)} {field : String × Value} :
    field ∈ tiedFields collation name fields ↔
      field ∈ fields ∧ collation.tied name field.1 = true :=
  List.mem_filter

theorem tiedFields_sublist {Value : Type} (name : String)
    (fields : List (String × Value)) :
    (tiedFields collation name fields).Sublist fields :=
  List.filter_sublist

theorem Collation.tied_comm (left right : String) :
    collation.tied left right = collation.tied right left :=
  Bool.and_comm _ _

theorem Collation.tied_trans {left middle right : String}
    (hleft : collation.tied left middle = true)
    (hright : collation.tied middle right = true) :
    collation.tied left right = true := by
  rw [tied, Bool.and_eq_true] at hleft hright ⊢
  exact ⟨collation.trans _ _ _ hleft.1 hright.1,
    collation.trans _ _ _ hright.2 hleft.2⟩

theorem Collation.tied_self (name : String) :
    collation.tied name name = true := by
  rw [tied, Bool.and_self]
  rcases collation.total name name with hle | hle
  · exact hle
  · exact hle

/-- The sort is stable. -/
theorem sortEntries_eq_iff {Value : Type} (left right : List (String × Value)) :
    sortEntries collation left = sortEntries collation right ↔
      ∀ field : String × Value, tiedFields collation field.1 left =
        tiedFields collation field.1 right := by
  let before := fun left right : String × Value =>
    collation.le left.1 right.1 = true
  have htotal : Std.Total before := ⟨fun _ _ => collation.total _ _⟩
  have htrans : IsTrans (String × Value) before :=
    ⟨fun _ _ _ => collation.trans _ _ _⟩
  have htied : ∀ field, StableSort.tied before field = fun other =>
      collation.tied field.1 other.1 := by
    intro field
    funext other
    simp only [StableSort.tied, before, Collation.tied, Bool.decide_eq_true]
  have hiff := StableSort.insertionSort_eq_iff before left right
  simp only [htied] at hiff
  exact hiff

/-- Array indexes come first in numeric order, so only the plain names can
come in two orders. -/
theorem sortEntries_enumerated_iff {Value : Type}
    {left right : List (String × Value)} (hperm : left.Perm right)
    (hnames : (left.map Prod.fst).Nodup) :
    sortEntries collation (enumerated left) =
        sortEntries collation (enumerated right) ↔
      ∀ field : String × Value,
        tiedFields collation field.1 (plainFields left) =
          tiedFields collation field.1 (plainFields right) := by
  rw [sortEntries_eq_iff]
  apply forall_congr'
  intro field
  rw [enumerated_eq, enumerated_eq, indexedFields_of_perm hperm hnames,
    tiedFields, tiedFields, List.filter_append, List.filter_append,
    List.append_cancel_left_eq, tiedFields, tiedFields]

/-- No two plain names are tied. -/
def NoTies {Value : Type} (fields : List (String × Value)) : Prop :=
  (plainFields fields).Pairwise fun left right =>
    collation.tied left.1 right.1 = false

/-- Plain names that are tied come in the order in which they are stored. -/
def TiesStored {Value : Type} (fields : List (String × Value)) : Prop :=
  (plainFields fields).Pairwise fun left right =>
    collation.tied left.1 right.1 = true → jsonbKeyLe left.1 right.1 = true

/-- One tied name before the other, in the class of the first. -/
theorem sublist_tiedFields {Value : Type} {fields : List (String × Value)}
    {left right : String × Value} (hsublist : [left, right].Sublist fields)
    (htied : collation.tied left.1 right.1 = true) :
    [left, right].Sublist (tiedFields collation left.1 fields) := by
  have hfilter := hsublist.filter fun field =>
    collation.tied left.1 field.1
  simp only [List.filter_cons, collation.tied_self, htied, List.filter_nil,
    ↓reduceIte] at hfilter
  exact hfilter

/-- Without ties a class has at most one field. -/
theorem noTies_singleton {Value : Type} {fields : List (String × Value)}
    (hties : NoTies collation fields) (name : String) :
    tiedFields collation name (plainFields fields) = [] ∨
      ∃ field, tiedFields collation name (plainFields fields) = [field] := by
  rw [NoTies] at hties
  have hpairwise := hties.sublist
    (tiedFields_sublist collation name (plainFields fields))
  cases hclass : tiedFields collation name (plainFields fields) with
  | nil => exact Or.inl rfl
  | cons first rest =>
      cases rest with
      | nil => exact Or.inr ⟨first, rfl⟩
      | cons second rest =>
          have hfirst := (mem_tiedFields collation).mp
            (hclass ▸ List.mem_cons_self)
          have hsecond := (mem_tiedFields collation).mp
            (hclass ▸ List.mem_cons_of_mem first List.mem_cons_self)
          have htied := collation.tied_trans
            ((collation.tied_comm _ _).trans hfirst.2) hsecond.2
          rw [hclass] at hpairwise
          have huntied := List.rel_of_pairwise_cons hpairwise
            List.mem_cons_self
          rw [htied] at huntied
          cases huntied

/-- A reversed list keeps its classes only if they are no larger than one. -/
theorem noTies_iff_reverse {Value : Type} {fields : List (String × Value)}
    (hnames : (fields.map Prod.fst).Nodup) :
    (∀ field : String × Value,
      tiedFields collation field.1 (plainFields fields) =
        tiedFields collation field.1 (plainFields fields.reverse)) ↔
      NoTies collation fields := by
  have hreverse : plainFields fields.reverse = (plainFields fields).reverse :=
    List.filter_reverse
  have hnodup : (plainFields fields).Nodup :=
    (List.Nodup.of_map _ hnames).sublist List.filter_sublist
  constructor
  · intro hclasses
    rw [NoTies, List.pairwise_iff_forall_sublist]
    intro left right hsublist
    rw [← Bool.not_eq_true]
    intro htied
    have hforth := sublist_tiedFields collation hsublist htied
    have hback := hforth.reverse
    rw [tiedFields, ← List.filter_reverse, ← hreverse, ← tiedFields,
      ← hclasses left] at hback
    exact StableSort.not_sublist_swapped
      (hnodup.sublist List.filter_sublist) hforth hback
  · intro hties field
    have hclass := noTies_singleton collation hties field.1
    rw [hreverse, tiedFields, tiedFields, List.filter_reverse]
    rcases hclass with hnil | ⟨other, hother⟩
    · rw [tiedFields] at hnil
      rw [hnil, List.reverse_nil]
    · rw [tiedFields] at hother
      rw [hother, List.reverse_singleton]

/-- Tied names keep their order in storage exactly when they come in it. -/
theorem tiesStored_iff {Value : Type} {fields : List (String × Value)}
    (hnames : (fields.map Prod.fst).Nodup) :
    (∀ field : String × Value,
      tiedFields collation field.1 (plainFields fields) =
        tiedFields collation field.1 (plainFields (storedFields fields))) ↔
      TiesStored collation fields := by
  have hsorted : (plainFields (storedFields fields)).Pairwise
      fun left right => jsonbKeyLe left.1 right.1 = true :=
    (pairwise_storedFields fields).sublist List.filter_sublist
  have hperm : (plainFields fields).Perm
      (plainFields (storedFields fields)) :=
    (storedFields_perm fields).symm.filter _
  constructor
  · intro hclasses
    rw [TiesStored, List.pairwise_iff_forall_sublist]
    intro left right hsublist htied
    have hforth := sublist_tiedFields collation hsublist htied
    rw [hclasses left] at hforth
    exact List.pairwise_iff_forall_sublist.mp
      (hsorted.sublist List.filter_sublist) hforth
  · intro hstored field
    have hclass : (tiedFields collation field.1
        (plainFields fields)).Pairwise
          fun left right => jsonbKeyLe left.1 right.1 = true := by
      rw [TiesStored] at hstored
      refine (hstored.sublist List.filter_sublist).imp_of_mem ?_
      intro left right hleft hright hle
      apply hle
      have hfield := (List.mem_filter.mp hleft).2
      rw [collation.tied_comm] at hfield
      exact collation.tied_trans hfield (List.mem_filter.mp hright).2
    refine List.Perm.eq_of_pairwise ?_ hclass
      (hsorted.sublist List.filter_sublist) (hperm.filter _)
    intro left right hleft hright hle hge
    have hin := List.mem_of_mem_filter (List.mem_of_mem_filter hleft)
    have hin' := (storedFields_perm fields).mem_iff.mp
      (List.mem_of_mem_filter (List.mem_of_mem_filter hright))
    exact List.inj_on_of_nodup_map hnames hin hin'
      (jsonbKeyLe_antisymm hle hge)

end Ties

end IdProvider
