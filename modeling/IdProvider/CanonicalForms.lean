/-
Which payloads hash the same once they are stored, and which values have one
canonical form.
-/
import IdProvider.AuditCommitment
import IdProvider.KeyOrder

namespace IdProvider

open JsonText KeyedTable

/-! ## Values of the runtime -/

section Proper

variable (numbers : NumberRuntime)

mutual

/-- Numbers are doubles, and objects have distinct names, which are enumerated
as the runtime does. -/
def JsValue.Proper : JsValue → Prop
  | .number value => ∀ text, value = .finite text →
      numbers.read text = .finite text
  | .arr items => JsValue.ProperItems items
  | .obj fields => (fields.map Prod.fst).Nodup ∧ enumerated fields = fields ∧
      JsValue.ProperFields fields
  | .absent _ | .null | .bool _ | .str _ | .date _ => True

def JsValue.ProperItems : List JsValue → Prop
  | [] => True
  | item :: items => JsValue.Proper item ∧ JsValue.ProperItems items

def JsValue.ProperFields : List (String × JsValue) → Prop
  | [] => True
  | (_, value) :: fields => JsValue.Proper value ∧ JsValue.ProperFields fields

end

end Proper

section Storage

variable (collation : Collation)

mutual

/-- Nothing is `undefined`, and tied names come in the order in which they are
stored. -/
def StoredAsWritten : JsValue → Prop
  | .absent _ => False
  | .arr items => StoredAsWrittenItems items
  | .obj fields => TiesStored collation fields ∧ StoredAsWrittenFields fields
  | .null | .bool _ | .number _ | .str _ | .date _ => True

def StoredAsWrittenItems : List JsValue → Prop
  | [] => True
  | item :: items => StoredAsWritten item ∧ StoredAsWrittenItems items

def StoredAsWrittenFields : List (String × JsValue) → Prop
  | [] => True
  | (_, value) :: fields => StoredAsWritten value ∧ StoredAsWrittenFields fields

end

theorem storedAsWrittenFields_iff (fields : List (String × JsValue)) :
    StoredAsWrittenFields collation fields ↔
      ∀ field ∈ fields, StoredAsWritten collation field.2 := by
  induction fields with
  | nil => simp [StoredAsWrittenFields]
  | cons field fields ih =>
      rw [StoredAsWrittenFields, ih, List.forall_mem_cons]

/-! ## Objects -/

theorem plainFields_map {Source Target : Type} (read : Source → Target)
    (fields : List (String × Source)) :
    plainFields (fields.map fun field => (field.1, read field.2)) =
      (plainFields fields).map fun field => (field.1, read field.2) :=
  List.filter_map

theorem tiesStored_map {Source Target : Type} (read : Source → Target)
    (fields : List (String × Source)) :
    TiesStored collation (fields.map fun field => (field.1, read field.2)) ↔
      TiesStored collation fields := by
  rw [TiesStored, plainFields_map, List.pairwise_map, TiesStored]

theorem map_names {Source Target : Type} (read : Source → Target)
    (fields : List (String × Source)) :
    (fields.map fun field => (field.1, read field.2)).map Prod.fst =
      fields.map Prod.fst := by
  rw [List.map_map]
  rfl

/-- Sorted entries determine the values. -/
theorem values_eq_of_sortEntries {Value : Type}
    {fields others : List (String × Value)} (kept written : Value → Json)
    (hperm : fields.Perm others) (hnames : (fields.map Prod.fst).Nodup)
    (hsorted : sortEntries collation (enumerated
        (others.map fun field => (field.1, kept field.2))) =
      sortEntries collation (enumerated
        (fields.map fun field => (field.1, written field.2)))) :
    ∀ field ∈ fields, kept field.2 = written field.2 := by
  intro field hfield
  refine eq_of_sortEntries hsorted ?_
    (mem_enumerated.mpr (List.mem_map_of_mem
      (f := fun field => (field.1, kept field.2)) (hperm.mem_iff.mp hfield)))
    (mem_enumerated.mpr (List.mem_map_of_mem
      (f := fun field => (field.1, written field.2)) hfield))
  rw [((enumerated_perm _).map Prod.fst).nodup_iff, map_names]
  exact hnames

theorem sortEntries_stored_iff {Value : Type}
    {fields : List (String × Value)} (hnames : (fields.map Prod.fst).Nodup)
    (kept written : Value → Json) :
    sortEntries collation (enumerated (storedFields
        (fields.map fun field => (field.1, kept field.2)))) =
      sortEntries collation (enumerated
        (fields.map fun field => (field.1, written field.2))) ↔
    (∀ field ∈ fields, kept field.2 = written field.2) ∧
      TiesStored collation fields := by
  have hties : sortEntries collation (enumerated (storedFields
        (fields.map fun field => (field.1, written field.2)))) =
      sortEntries collation (enumerated
        (fields.map fun field => (field.1, written field.2))) ↔
      TiesStored collation fields := by
    rw [eq_comm, sortEntries_enumerated_iff collation
      (storedFields_perm _).symm (by rwa [map_names]),
      tiesStored_iff collation (by rwa [map_names]), tiesStored_map]
  have hvalues : (∀ field ∈ fields, kept field.2 = written field.2) →
      (fields.map fun field => (field.1, kept field.2)) =
        fields.map fun field => (field.1, written field.2) :=
    fun hsame => List.map_congr_left fun field hfield =>
      congrArg (Prod.mk field.1) (hsame field hfield)
  constructor
  · intro hsorted
    have hsame : ∀ field ∈ fields, kept field.2 = written field.2 := by
      rw [storedFields_map] at hsorted
      exact values_eq_of_sortEntries collation kept written
        (storedFields_perm fields).symm hnames hsorted
    rw [hvalues hsame] at hsorted
    exact ⟨hsame, hties.mp hsorted⟩
  · rintro ⟨hsame, hstored⟩
    rw [hvalues hsame]
    exact hties.mpr hstored

/-! ## Payloads -/

section Restored

variable (numbers : NumberRuntime)

/-- The canonical form of what a `jsonb` column gives back. -/
def restoredForm (json : Json) : Json :=
  canonicalJson collation (readJson numbers (toJsonb json))

theorem restoredForm_obj {fields : List (String × Json)}
    (hnames : (fields.map Prod.fst).Nodup) :
    restoredForm collation numbers (.obj fields) =
      .obj (sortEntries collation (enumerated (storedFields (fields.map
        fun field => (field.1, restoredForm collation numbers field.2))))) := by
  have hdrop : dropOverwritten (toJsonbFields fields) =
      fields.map fun field => (field.1, toJsonb field.2) := by
    rw [toJsonbFields_eq_map]
    exact dropOverwritten_of_nodup (by rwa [map_names])
  rw [restoredForm, toJsonb, hdrop, readJson, canonicalJson,
    canonicalJsonFields_eq_map, readFields_eq_map, ← enumerated_map,
    List.map_map, ← storedFields]
  simp only [storedFields_map, List.map_map]
  rfl

theorem toJsonFields_eq_map {fields : List (String × JsValue)}
    (hkept : ∀ field ∈ fields, field.2.toJson?.isSome = true) :
    JsValue.toJsonFields fields =
      fields.map fun field => (field.1, field.2.toJson?.getD .null) := by
  induction fields with
  | nil => rfl
  | cons field fields ih =>
      rw [List.forall_mem_cons] at hkept
      obtain ⟨json, hjson⟩ := Option.isSome_iff_exists.mp hkept.1
      rw [JsValue.toJsonFields, List.map_cons, ih hkept.2, hjson]
      rfl

/-- A field that is printed was there. -/
theorem exists_of_mem_toJsonFields {fields : List (String × JsValue)}
    {printed : String × Json} (hprinted : printed ∈ JsValue.toJsonFields fields) :
    ∃ value, (printed.1, value) ∈ fields ∧
      value.toJson? = some printed.2 := by
  induction fields with
  | nil => cases hprinted
  | cons field fields ih =>
      rw [JsValue.toJsonFields] at hprinted
      split at hprinted
      case h_1 =>
        obtain ⟨value, hvalue, hprint⟩ := ih hprinted
        exact ⟨value, List.mem_cons_of_mem field hvalue, hprint⟩
      case h_2 json hjson =>
        rcases List.mem_cons.mp hprinted with rfl | hrest
        · exact ⟨field.2, List.mem_cons_self, hjson⟩
        · obtain ⟨value, hvalue, hprint⟩ := ih hrest
          exact ⟨value, List.mem_cons_of_mem field hvalue, hprint⟩

theorem toJsonFields_names_sublist (fields : List (String × JsValue)) :
    ((JsValue.toJsonFields fields).map Prod.fst).Sublist
      (fields.map Prod.fst) := by
  induction fields with
  | nil => exact List.Sublist.slnil
  | cons field fields ih =>
      rw [JsValue.toJsonFields]
      split
      case h_1 => exact ih.cons _
      case h_2 => exact ih.cons_cons _

theorem not_storedAsWritten {value : JsValue} (hprint : value.toJson? = none) :
    ¬ StoredAsWritten collation value := by
  cases value with
  | absent text => exact id
  | null | bool | number | str | date | arr | obj => cases hprint

/-- An object that loses a field has another canonical form. -/
theorem restoredForm_ne {fields : List (String × JsValue)}
    (hnames : (fields.map Prod.fst).Nodup) {field : String × JsValue}
    (hfield : field ∈ fields) (hlost : field.2.toJson? = none) :
    restoredForm collation numbers (.obj (JsValue.toJsonFields fields)) ≠
      canonicalJson collation (.obj fields) := by
  intro hsame
  rw [restoredForm_obj collation numbers
    (hnames.sublist (toJsonFields_names_sublist fields)), canonicalJson,
    canonicalJsonFields_eq_map, Json.obj.injEq] at hsame
  have hwritten : (field.1, canonicalJson collation field.2) ∈
      sortEntries collation (fields.map fun field =>
        (field.1, canonicalJson collation field.2)) :=
    (List.perm_insertionSort _ _).mem_iff.mpr
      (List.mem_map_of_mem (f := fun field =>
        (field.1, canonicalJson collation field.2)) hfield)
  rw [← hsame, sortEntries, (List.perm_insertionSort _ _).mem_iff,
    mem_enumerated, (storedFields_perm _).mem_iff, List.mem_map] at hwritten
  obtain ⟨printed, hprinted, heq⟩ := hwritten
  obtain ⟨value, hvalue, hprint⟩ := exists_of_mem_toJsonFields hprinted
  have hname : printed.1 = field.1 := congrArg Prod.fst heq
  have hother := List.inj_on_of_nodup_map hnames hvalue hfield hname
  rw [← hother] at hlost
  cases hprint.symm.trans hlost

mutual

/-- What a column gives back has the canonical form of what was written exactly
when it was stored as written. -/
theorem restoredForm_iff : ∀ value : JsValue, value.Proper numbers →
    ∀ json, value.toJson? = some json →
      (restoredForm collation numbers json = canonicalJson collation value ↔
        StoredAsWritten collation value)
  | .absent _ => fun _ _ hprint => by cases hprint
  | .null => fun _ _ hprint => by
      cases hprint
      exact iff_of_true rfl trivial
  | .bool _ => fun _ _ hprint => by
      cases hprint
      exact iff_of_true rfl trivial
  | .str _ => fun _ _ hprint => by
      cases hprint
      exact iff_of_true rfl trivial
  | .date _ => fun _ _ hprint => by
      cases hprint
      exact iff_of_true rfl trivial
  | .number value => fun hproper _ hprint => by
      cases hprint
      refine iff_of_true ?_ trivial
      cases value with
      | finite text =>
          change canonicalJson collation (.number (numbers.read text)) = _
          rw [hproper text rfl]
      | nan => rfl
      | infinite => rfl
  | .arr items => fun hproper _ hprint => by
      cases hprint
      rw [restoredForm, toJsonb, readJson, canonicalJson, canonicalJson,
        Json.arr.injEq, StoredAsWritten]
      exact restoredItems_iff items hproper
  | .obj fields => fun hproper _ hprint => by
      obtain ⟨hnames, henumerated, hfields⟩ := hproper
      cases hprint
      by_cases hkept : ∀ field ∈ fields, field.2.toJson?.isSome = true
      · have hcanonical : canonicalJson collation (.obj fields) =
            .obj (sortEntries collation (enumerated (fields.map fun field =>
              (field.1, canonicalJson collation field.2)))) := by
          rw [canonicalJson, canonicalJsonFields_eq_map, enumerated_map,
            henumerated]
        rw [restoredForm_obj collation numbers
          (hnames.sublist (toJsonFields_names_sublist fields)),
          toJsonFields_eq_map hkept, List.map_map, hcanonical,
          Json.obj.injEq, StoredAsWritten, and_comm,
          storedAsWrittenFields_iff]
        refine (sortEntries_stored_iff collation hnames
          (fun value => restoredForm collation numbers
            (value.toJson?.getD .null)) (canonicalJson collation)).trans ?_
        apply and_congr_left'
        apply forall₂_congr
        intro field hfield
        obtain ⟨json, hjson⟩ := Option.isSome_iff_exists.mp
          (hkept field hfield)
        rw [hjson, Option.getD_some]
        exact restoredForm_of_mem fields hfields field hfield json hjson
      · push Not at hkept
        obtain ⟨field, hfield, hlost⟩ := hkept
        have hnone : field.2.toJson? = none := by
          simpa using hlost
        refine iff_of_false
          (restoredForm_ne collation numbers hnames hfield hnone) ?_
        intro hstored
        exact not_storedAsWritten collation hnone
          ((storedAsWrittenFields_iff collation fields).mp hstored.2 field
            hfield)

theorem restoredItems_iff : ∀ items : List JsValue,
    JsValue.ProperItems numbers items →
      (canonicalJsonItems collation
          (readItems numbers (toJsonbItems (JsValue.toJsonItems items))) =
        canonicalJsonItems collation items ↔
        StoredAsWrittenItems collation items)
  | [] => fun _ => iff_of_true rfl trivial
  | item :: items => fun hproper => by
      have hitems := restoredItems_iff items hproper.2
      rw [JsValue.toJsonItems, toJsonbItems, readItems, canonicalJsonItems,
        canonicalJsonItems, List.cons.injEq, StoredAsWrittenItems, hitems]
      apply and_congr_left'
      cases hprint : item.toJson? with
      | none =>
          refine iff_of_false ?_ (not_storedAsWritten collation hprint)
          cases item with
          | absent text =>
              intro hsame
              cases hsame
          | null | bool | number | str | date | arr | obj => cases hprint
      | some json => exact restoredForm_iff item hproper.1 json hprint

theorem restoredForm_of_mem : ∀ fields : List (String × JsValue),
    JsValue.ProperFields numbers fields → ∀ field ∈ fields, ∀ json,
      field.2.toJson? = some json →
        (restoredForm collation numbers json =
            canonicalJson collation field.2 ↔
          StoredAsWritten collation field.2)
  | [] => fun _ _ hfield => absurd hfield List.not_mem_nil
  | (_, value) :: fields => fun hproper field hfield => by
      rcases List.mem_cons.mp hfield with rfl | hrest
      · exact restoredForm_iff value hproper.1
      · exact restoredForm_of_mem fields hproper.2 field hrest

end

end Restored

end Storage

/-! ## Canonical forms -/

section Forms

variable (collation : Collation) (numbers : NumberRuntime)

mutual

def DistinctNames : Json → Prop
  | .arr items => DistinctNamesItems items
  | .obj fields => (fields.map Prod.fst).Nodup ∧ DistinctNamesFields fields
  | .null | .bool _ | .num _ | .str _ => True

def DistinctNamesItems : List Json → Prop
  | [] => True
  | item :: items => DistinctNames item ∧ DistinctNamesItems items

def DistinctNamesFields : List (String × Json) → Prop
  | [] => True
  | (_, value) :: fields => DistinctNames value ∧ DistinctNamesFields fields

end

mutual

/-- No object has two tied names that may come in two orders. -/
def Untied : Json → Prop
  | .arr items => UntiedItems items
  | .obj fields => NoTies collation fields ∧ UntiedFields fields
  | .null | .bool _ | .num _ | .str _ => True

def UntiedItems : List Json → Prop
  | [] => True
  | item :: items => Untied item ∧ UntiedItems items

def UntiedFields : List (String × Json) → Prop
  | [] => True
  | (_, value) :: fields => Untied value ∧ UntiedFields fields

end

theorem distinctNamesFields_iff (fields : List (String × Json)) :
    DistinctNamesFields fields ↔
      ∀ field ∈ fields, DistinctNames field.2 := by
  induction fields with
  | nil => simp [DistinctNamesFields]
  | cons field fields ih =>
      rw [DistinctNamesFields, ih, List.forall_mem_cons]

theorem untiedFields_iff (fields : List (String × Json)) :
    UntiedFields collation fields ↔
      ∀ field ∈ fields, Untied collation field.2 := by
  induction fields with
  | nil => simp [UntiedFields]
  | cons field fields ih => rw [UntiedFields, ih, List.forall_mem_cons]

theorem noTies_map {Source Target : Type} (read : Source → Target)
    (fields : List (String × Source)) :
    NoTies collation (fields.map fun field => (field.1, read field.2)) ↔
      NoTies collation fields := by
  rw [NoTies, plainFields_map, List.pairwise_map, NoTies]

/-- What the canonical text of a value that was read prints. -/
def readForm (json : Json) : Json := sortKeys collation (reprint numbers json)

theorem readForm_obj (fields : List (String × Json)) :
    readForm collation numbers (.obj fields) =
      .obj (sortEntries collation (enumerated (fields.map fun field =>
        (field.1, readForm collation numbers field.2)))) := by
  rw [readForm, reprint, sortKeys, sortKeysFields_eq_map, reprintFields_eq_map,
    ← enumerated_map, List.map_map]
  rfl

theorem canonicalize_eq_iff (left right : Json) :
    canonicalize collation (readJson numbers left) =
        canonicalize collation (readJson numbers right) ↔
      readForm collation numbers left = readForm collation numbers right := by
  rw [canonicalize_eq, canonicalize_eq, render_injective.eq_iff,
    canonicalJson_readJson, canonicalJson_readJson]
  rfl

/-! ### Equal up to the order of keys -/

variable {collation numbers} in
theorem readForms_of_sameFields {lefts rights : List (String × Json)}
    (hsame : SameFields lefts rights)
    (hforms : ∀ left ∈ lefts, ∀ right ∈ rights,
      SameUpToKeyOrder left.2 right.2 →
        sortKeys collation left.2 = sortKeys collation right.2) :
    (lefts.map fun field => (field.1, sortKeys collation field.2)) =
      rights.map fun field => (field.1, sortKeys collation field.2) := by
  induction lefts generalizing rights with
  | nil =>
      cases hsame
      rfl
  | cons left lefts ih =>
      obtain ⟨other, rest, rfl, hvalue, hrest⟩ := hsame
      rw [List.map_cons, List.map_cons, hforms left List.mem_cons_self
        (left.1, other) List.mem_cons_self hvalue]
      congr 1
      apply ih hrest
      intro field hfield found hfound
      exact hforms field (List.mem_cons_of_mem left hfield) found
        (List.mem_cons_of_mem _ hfound)

theorem reprint_num (value : Number) :
    reprint numbers (.num value) = .null ∨
      ∃ number, reprint numbers (.num value) = .num number := by
  rw [reprint]
  cases numbers.read value with
  | finite number => exact Or.inr ⟨number, rfl⟩
  | nan => exact Or.inl rfl
  | infinite negative => exact Or.inl rfl

theorem reprint_eq_obj {json : Json} {fields : List (String × Json)}
    (hreprint : reprint numbers json = .obj fields) :
    ∃ source, json = .obj source ∧
      fields = enumerated (reprintFields numbers source) := by
  cases json with
  | obj source =>
      rw [reprint, Json.obj.injEq] at hreprint
      exact ⟨source, rfl, hreprint.symm⟩
  | num value =>
      rcases reprint_num numbers value with hnull | ⟨number, hnumber⟩
      · rw [hnull] at hreprint
        cases hreprint
      · rw [hnumber] at hreprint
        cases hreprint
  | null | bool | str | arr => cases hreprint

theorem reprint_eq_arr {json : Json} {items : List Json}
    (hreprint : reprint numbers json = .arr items) :
    ∃ source, json = .arr source ∧ items = reprintItems numbers source := by
  cases json with
  | arr source =>
      rw [reprint, Json.arr.injEq] at hreprint
      exact ⟨source, rfl, hreprint.symm⟩
  | num value =>
      rcases reprint_num numbers value with hnull | ⟨number, hnumber⟩
      · rw [hnull] at hreprint
        cases hreprint
      · rw [hnumber] at hreprint
        cases hreprint
  | null | bool | str | obj => cases hreprint

/-- Objects without ties whose fields match have one sorted form. -/
theorem sortEntries_of_noTies {left right : List (String × Json)}
    (hperm : left.Perm right) (hnames : (left.map Prod.fst).Nodup)
    (hties : NoTies collation left) :
    sortEntries collation (enumerated left) =
      sortEntries collation (enumerated right) := by
  rw [sortEntries_enumerated_iff collation hperm hnames]
  intro field
  have hclass : (tiedFields collation field.1 (plainFields left)).Perm
      (tiedFields collation field.1 (plainFields right)) :=
    (hperm.filter _).filter _
  rcases noTies_singleton collation hties field.1 with hnil | ⟨other, hother⟩
  · rw [hnil] at hclass ⊢
    exact hclass.nil_eq
  · rw [hother] at hclass ⊢
    exact hclass.singleton_eq

mutual

theorem readForm_of_same : ∀ left : Json, DistinctNames left →
    Untied collation left → ∀ right, DistinctNames right →
      SameUpToKeyOrder (reprint numbers left) (reprint numbers right) →
        readForm collation numbers left = readForm collation numbers right
  | .null => fun _ _ _ _ hsame => by rw [readForm, readForm, hsame]; rfl
  | .bool _ => fun _ _ _ _ hsame => by rw [readForm, readForm, hsame]; rfl
  | .str _ => fun _ _ _ _ hsame => by rw [readForm, readForm, hsame]; rfl
  | .num value => fun _ _ _ _ hsame => by
      rw [reprint] at hsame
      rw [readForm, readForm, reprint]
      cases hread : numbers.read value with
      | finite => rw [hread] at hsame; rw [hsame]; rfl
      | nan => rw [hread] at hsame; rw [hsame]; rfl
      | infinite => rw [hread] at hsame; rw [hsame]; rfl
  | .arr items => fun hnames hties right hright hsame => by
      rw [reprint] at hsame
      obtain ⟨others, hothers, hitems⟩ := hsame
      obtain ⟨source, rfl, rfl⟩ := reprint_eq_arr numbers hothers
      rw [readForm, readForm, reprint, reprint, sortKeys, sortKeys,
        readFormItems_of_same items hnames hties source hright hitems]
  | .obj fields => fun hnames hties right hright hsame => by
      rw [reprint] at hsame
      obtain ⟨others, reordered, hothers, hperm, hfields⟩ := hsame
      obtain ⟨source, rfl, rfl⟩ := reprint_eq_obj numbers hothers
      have hchildren := untiedFields_iff collation fields
      have hvalues : ∀ left ∈ enumerated (reprintFields numbers fields),
          ∀ right ∈ reordered, SameUpToKeyOrder left.2 right.2 →
            sortKeys collation left.2 = sortKeys collation right.2 := by
        intro left hleft found hfound hvalue
        rw [mem_enumerated, reprintFields_eq_map, List.mem_map] at hleft
        obtain ⟨field, hfield, rfl⟩ := hleft
        rw [hperm.mem_iff, mem_enumerated, reprintFields_eq_map,
          List.mem_map] at hfound
        obtain ⟨other, hother, rfl⟩ := hfound
        exact readForm_of_mem fields hnames.2 hties.2 field hfield other.2
          ((distinctNamesFields_iff source).mp hright.2 other hother) hvalue
      have hmap := readForms_of_sameFields hfields hvalues
      have hsorted : ∀ fields : List (String × Json),
          (enumerated (reprintFields numbers fields)).map
              (fun field => (field.1, sortKeys collation field.2)) =
            enumerated (fields.map fun field =>
              (field.1, readForm collation numbers field.2)) := by
        intro fields
        rw [reprintFields_eq_map, ← enumerated_map, List.map_map]
        rfl
      have hforms : (fields.map fun field =>
          (field.1, readForm collation numbers field.2)).Perm
          (source.map fun field =>
            (field.1, readForm collation numbers field.2)) := by
        refine (enumerated_perm _).symm.trans ?_
        rw [← hsorted fields, hmap]
        refine (hperm.map _).trans ?_
        rw [hsorted source]
        exact enumerated_perm _
      rw [readForm_obj, readForm_obj, sortEntries_of_noTies collation hforms
        (by rw [map_names]; exact hnames.1)
        ((noTies_map collation _ fields).mpr hties.1)]

theorem readFormItems_of_same : ∀ lefts : List Json,
    DistinctNamesItems lefts → UntiedItems collation lefts →
      ∀ rights, DistinctNamesItems rights →
        SameItems (reprintItems numbers lefts) (reprintItems numbers rights) →
          sortKeysItems collation (reprintItems numbers lefts) =
            sortKeysItems collation (reprintItems numbers rights)
  | [] => fun _ _ rights _ hsame => by rw [hsame]; rfl
  | left :: lefts => fun hnames hties rights hrights hsame => by
      obtain ⟨other, rest, hsplit, hvalue, hrest⟩ := hsame
      cases rights with
      | nil => cases hsplit
      | cons right rights =>
          rw [reprintItems, List.cons.injEq] at hsplit
          obtain ⟨rfl, rfl⟩ := hsplit
          rw [reprintItems, reprintItems, sortKeysItems, sortKeysItems,
            readFormItems_of_same lefts hnames.2 hties.2 rights hrights.2
              hrest]
          exact congrArg (· :: _)
            (readForm_of_same left hnames.1 hties.1 right hrights.1 hvalue)

theorem readForm_of_mem : ∀ fields : List (String × Json),
    DistinctNamesFields fields → UntiedFields collation fields →
      ∀ field ∈ fields, ∀ right, DistinctNames right →
        SameUpToKeyOrder (reprint numbers field.2) (reprint numbers right) →
          readForm collation numbers field.2 =
            readForm collation numbers right
  | [] => fun _ _ _ hfield => absurd hfield List.not_mem_nil
  | (_, value) :: fields => fun hnames hties field hfield => by
      rcases List.mem_cons.mp hfield with rfl | hrest
      · exact readForm_of_same value hnames.1 hties.1
      · exact readForm_of_mem fields hnames.2 hties.2 field hrest

end

/-! ### All orders reversed -/

mutual

/-- The same value with the fields of every object in reverse. -/
def mirrored : Json → Json
  | .null => .null
  | .bool value => .bool value
  | .num value => .num value
  | .str value => .str value
  | .arr items => .arr (mirroredItems items)
  | .obj fields => .obj (mirroredFields fields).reverse

def mirroredItems : List Json → List Json
  | [] => []
  | item :: items => mirrored item :: mirroredItems items

def mirroredFields : List (String × Json) → List (String × Json)
  | [] => []
  | (name, value) :: fields => (name, mirrored value) :: mirroredFields fields

end

theorem mirroredFields_eq_map (fields : List (String × Json)) :
    mirroredFields fields =
      fields.map fun field => (field.1, mirrored field.2) := by
  induction fields with
  | nil => rfl
  | cons field fields ih => rw [mirroredFields, ih, List.map_cons]

mutual

theorem distinctNames_mirrored : ∀ json : Json, DistinctNames json →
    DistinctNames (mirrored json)
  | .null | .bool _ | .num _ | .str _ => fun _ => trivial
  | .arr items => distinctNames_mirroredItems items
  | .obj fields => fun hnames => by
      rw [mirrored, DistinctNames, distinctNamesFields_iff,
        mirroredFields_eq_map, List.map_reverse, List.nodup_reverse, map_names]
      refine ⟨hnames.1, fun field hfield => ?_⟩
      rw [List.mem_reverse, List.mem_map] at hfield
      obtain ⟨source, hsource, rfl⟩ := hfield
      exact distinctNames_mirrored_of_mem fields hnames.2 source hsource

theorem distinctNames_mirroredItems : ∀ items : List Json,
    DistinctNamesItems items → DistinctNamesItems (mirroredItems items)
  | [] => id
  | item :: items => fun hnames =>
      ⟨distinctNames_mirrored item hnames.1,
        distinctNames_mirroredItems items hnames.2⟩

theorem distinctNames_mirrored_of_mem : ∀ fields : List (String × Json),
    DistinctNamesFields fields → ∀ field ∈ fields,
      DistinctNames (mirrored field.2)
  | [] => fun _ _ hfield => absurd hfield List.not_mem_nil
  | (_, value) :: fields => fun hnames field hfield => by
      rcases List.mem_cons.mp hfield with rfl | hrest
      · exact distinctNames_mirrored value hnames.1
      · exact distinctNames_mirrored_of_mem fields hnames.2 field hrest

end

theorem sameFields_map {Value : Type} {fields : List (String × Value)}
    (read other : Value → Json) (hsame : ∀ field ∈ fields,
      SameUpToKeyOrder (read field.2) (other field.2)) :
    SameFields (fields.map fun field => (field.1, read field.2))
      (fields.map fun field => (field.1, other field.2)) := by
  induction fields with
  | nil => rfl
  | cons field fields ih =>
      rw [List.forall_mem_cons] at hsame
      exact ⟨other field.2, _, rfl, hsame.1, ih hsame.2⟩

mutual

theorem same_mirrored : ∀ json : Json,
    SameUpToKeyOrder (reprint numbers json) (reprint numbers (mirrored json))
  | .null | .bool _ | .str _ => rfl
  | .num value => by
      rw [mirrored, reprint]
      cases numbers.read value with
      | finite => rfl
      | nan => rfl
      | infinite => rfl
  | .arr items => ⟨_, rfl, same_mirroredItems items⟩
  | .obj fields => by
      rw [mirrored, reprint, reprint, mirroredFields_eq_map,
        reprintFields_eq_map, reprintFields_eq_map, List.map_reverse,
        List.map_map]
      have hmap := enumerated_map
        (fun value => reprint numbers (mirrored value)) fields
      refine ⟨_, enumerated (fields.map fun field =>
        (field.1, reprint numbers (mirrored field.2))), rfl, ?_, ?_⟩
      · exact (enumerated_perm _).trans
          ((List.reverse_perm _).symm.trans (enumerated_perm _).symm)
      · rw [hmap, enumerated_map]
        refine sameFields_map (reprint numbers)
          (fun value => reprint numbers (mirrored value)) ?_
        intro field hfield
        exact same_mirrored_of_mem fields field (mem_enumerated.mp hfield)

theorem same_mirroredItems : ∀ items : List Json,
    SameItems (reprintItems numbers items)
      (reprintItems numbers (mirroredItems items))
  | [] => rfl
  | item :: items =>
      ⟨_, _, rfl, same_mirrored item, same_mirroredItems items⟩

theorem same_mirrored_of_mem : ∀ fields : List (String × Json),
    ∀ field ∈ fields, SameUpToKeyOrder (reprint numbers field.2)
      (reprint numbers (mirrored field.2))
  | [] => fun _ hfield => absurd hfield List.not_mem_nil
  | (_, value) :: fields => fun field hfield => by
      rcases List.mem_cons.mp hfield with rfl | hrest
      · exact same_mirrored value
      · exact same_mirrored_of_mem fields field hrest

end

/-- An object that sorts as its reverse has no ties. -/
theorem noTies_of_reversed {Value : Type} {fields : List (String × Value)}
    (hnames : (fields.map Prod.fst).Nodup) (kept written : Value → Json)
    (hsorted : sortEntries collation (enumerated
        (fields.map fun field => (field.1, kept field.2))) =
      sortEntries collation (enumerated
        (fields.reverse.map fun field => (field.1, written field.2)))) :
    (∀ field ∈ fields, kept field.2 = written field.2) ∧
      NoTies collation fields := by
  have hsame : ∀ field ∈ fields, kept field.2 = written field.2 := by
    intro field hfield
    refine values_eq_of_sortEntries collation kept written
      (List.reverse_perm fields) ?_ hsorted field
      (List.mem_reverse.mpr hfield)
    rw [List.map_reverse, List.nodup_reverse]
    exact hnames
  have hmap : (fields.map fun field => (field.1, kept field.2)) =
      fields.map fun field => (field.1, written field.2) :=
    List.map_congr_left fun field hfield =>
      congrArg (Prod.mk field.1) (hsame field hfield)
  have hnodup : ((fields.map fun field =>
      (field.1, written field.2)).map Prod.fst).Nodup := by
    rw [map_names]
    exact hnames
  rw [hmap, List.map_reverse,
    sortEntries_enumerated_iff collation (List.reverse_perm _).symm hnodup,
    noTies_iff_reverse collation hnodup, noTies_map] at hsorted
  exact ⟨hsame, hsorted⟩

mutual

/-- A value with the form of its mirror has no ties. -/
theorem untied_of_mirrored : ∀ json : Json, DistinctNames json →
    readForm collation numbers json =
      readForm collation numbers (mirrored json) → Untied collation json
  | .null | .bool _ | .num _ | .str _ => fun _ _ => trivial
  | .arr items => fun hnames hforms => by
      rw [mirrored, readForm, readForm, reprint, reprint, sortKeys, sortKeys,
        Json.arr.injEq] at hforms
      exact untiedItems_of_mirrored items hnames hforms
  | .obj fields => fun hnames hforms => by
      rw [mirrored, readForm_obj, readForm_obj, mirroredFields_eq_map,
        ← List.map_reverse, List.map_map, Json.obj.injEq] at hforms
      obtain ⟨hvalues, hties⟩ := noTies_of_reversed collation hnames.1
        (readForm collation numbers)
        (fun value => readForm collation numbers (mirrored value)) hforms
      refine ⟨hties, (untiedFields_iff collation fields).mpr ?_⟩
      intro field hfield
      exact untied_of_mem fields hnames.2 field hfield (hvalues field hfield)

theorem untiedItems_of_mirrored : ∀ items : List Json,
    DistinctNamesItems items →
      sortKeysItems collation (reprintItems numbers items) =
        sortKeysItems collation (reprintItems numbers (mirroredItems items)) →
          UntiedItems collation items
  | [] => fun _ _ => trivial
  | item :: items => fun hnames hforms => by
      rw [mirroredItems, reprintItems, reprintItems, sortKeysItems,
        sortKeysItems, List.cons.injEq] at hforms
      exact ⟨untied_of_mirrored item hnames.1 hforms.1,
        untiedItems_of_mirrored items hnames.2 hforms.2⟩

theorem untied_of_mem : ∀ fields : List (String × Json),
    DistinctNamesFields fields → ∀ field ∈ fields,
      readForm collation numbers field.2 =
        readForm collation numbers (mirrored field.2) →
          Untied collation field.2
  | [] => fun _ _ hfield => absurd hfield List.not_mem_nil
  | (_, value) :: fields => fun hnames field hfield => by
      rcases List.mem_cons.mp hfield with rfl | hrest
      · exact untied_of_mirrored value hnames.1
      · exact untied_of_mem fields hnames.2 field hrest

end

end Forms

end IdProvider
