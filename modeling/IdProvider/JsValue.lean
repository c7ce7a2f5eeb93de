/-
The values a payload can hold before it is stored, what `JSON.stringify` keeps
of them, and what a `jsonb` column gives back.
-/
import IdProvider.JsonText
import IdProvider.JsDate
import Mathlib.Data.List.Sort
import Mathlib.Data.String.Basic

namespace IdProvider

open JsonText

/-- A finite number is given by the text that `JSON.stringify` prints. -/
inductive JsNumber where
  | finite (value : Number)
  | nan
  | infinite (negative : Bool)
  deriving DecidableEq

/-- `absent` stands for `undefined`, functions and symbols, which JSON drops,
together with what `String(value)` makes of them. -/
inductive JsValue where
  | absent (text : String)
  | null
  | bool (value : Bool)
  | number (value : JsNumber)
  | str (value : String)
  | date (value : Instant)
  | arr (items : List JsValue)
  | obj (fields : List (String × JsValue))

namespace JsValue

def undefined : JsValue := .absent "undefined"

end JsValue

def JsNumber.toJson : JsNumber → Json
  | .finite value => .num value
  | .nan => .null
  | .infinite _ => .null

mutual

/-- What `JSON.stringify` prints of a value, if anything. -/
def JsValue.toJson? : JsValue → Option Json
  | .absent _ => none
  | .null => some .null
  | .bool value => some (.bool value)
  | .number value => some value.toJson
  | .str value => some (.str value)
  | .date value => some (.str (toISOString value))
  | .arr items => some (.arr (JsValue.toJsonItems items))
  | .obj fields => some (.obj (JsValue.toJsonFields fields))

def JsValue.toJsonItems : List JsValue → List Json
  | [] => []
  | item :: items => item.toJson?.getD .null :: JsValue.toJsonItems items

def JsValue.toJsonFields : List (String × JsValue) → List (String × Json)
  | [] => []
  | (name, value) :: fields =>
      match value.toJson? with
      | none => JsValue.toJsonFields fields
      | some value => (name, value) :: JsValue.toJsonFields fields

end

/-- The property names that objects enumerate first, in numeric order. -/
def arrayIndex? (name : String) : Option Nat :=
  let digits := name.toList
  let value := digits.foldl (fun sum digit => sum * 10 + digit.toNat - 48) 0
  if digits.all Char.isDigit ∧ digits ≠ [] ∧
      (digits.head? = some '0' → digits = ['0']) ∧ value < 2 ^ 32 - 1 then
    some value
  else none

def enumerated {Value : Type} (fields : List (String × Value)) :
    List (String × Value) :=
  (fields.filter fun field => (arrayIndex? field.1).isSome).insertionSort
      (fun left right =>
        (arrayIndex? left.1).getD 0 ≤ (arrayIndex? right.1).getD 0) ++
    fields.filter fun field => (arrayIndex? field.1).isNone

/-! ## The `jsonb` column -/

/-- Shorter names first, then by code point. -/
def jsonbKeyLe (left right : String) : Bool :=
  decide (left.utf8ByteSize < right.utf8ByteSize) ||
    (decide (left.utf8ByteSize = right.utf8ByteSize) && decide (left ≤ right))

/-- Of a repeated name the last field stays. -/
def dropOverwritten : List (String × Json) → List (String × Json)
  | [] => []
  | field :: fields =>
      if fields.any fun other => other.1 == field.1 then
        dropOverwritten fields
      else field :: dropOverwritten fields

mutual

def toJsonb : Json → Json
  | .arr items => .arr (toJsonbItems items)
  | .obj fields =>
      .obj ((dropOverwritten (toJsonbFields fields)).insertionSort
        fun left right => jsonbKeyLe left.1 right.1)
  | value => value

def toJsonbItems : List Json → List Json
  | [] => []
  | item :: items => toJsonb item :: toJsonbItems items

def toJsonbFields : List (String × Json) → List (String × Json)
  | [] => []
  | (name, value) :: fields =>
      (name, toJsonb value) :: toJsonbFields fields

end

def hasNul (text : String) : Bool := text.toList.any (· == Char.ofNat 0)

mutual

/-- A `jsonb` text holds no `\u0000`. -/
def mentionsNul : Json → Bool
  | .str value => hasNul value
  | .arr items => mentionsNulItems items
  | .obj fields => mentionsNulFields fields
  | _ => false

def mentionsNulItems : List Json → Bool
  | [] => false
  | item :: items => mentionsNul item || mentionsNulItems items

def mentionsNulFields : List (String × Json) → Bool
  | [] => false
  | (name, value) :: fields =>
      hasNul name || mentionsNul value || mentionsNulFields fields

end

/-- The stored form of a record, `none` if the column rejects it. -/
def storeRecord (fields : List (String × JsValue)) : Option Json :=
  let json := Json.obj (JsValue.toJsonFields fields)
  if mentionsNul json then none else some (toJsonb json)

/-! ### Reading a record back -/

theorem get?_eq_some {fields : List (String × Json)}
    (hnodup : (fields.map Prod.fst).Nodup) {name : String} {value : Json} :
    (Json.obj fields).get? name = some value ↔ (name, value) ∈ fields := by
  simp only [Json.get?, Option.map_eq_some_iff]
  constructor
  · rintro ⟨field, hfind, rfl⟩
    have hmem := List.mem_reverse.mp (List.mem_of_find?_eq_some hfind)
    have hname : field.1 = name := by simpa using List.find?_some hfind
    rwa [← hname]
  · intro hmem
    cases hfind : fields.reverse.find? fun field => field.1 = name with
    | none =>
        rw [List.find?_eq_none] at hfind
        exact absurd (decide_eq_true rfl)
          (hfind (name, value) (List.mem_reverse.mpr hmem))
    | some field =>
        have hother := List.mem_reverse.mp (List.mem_of_find?_eq_some hfind)
        have hname : field.1 = name := by simpa using List.find?_some hfind
        have hsame := List.inj_on_of_nodup_map hnodup hother hmem hname
        exact ⟨field, rfl, congrArg Prod.snd hsame⟩

theorem dropOverwritten_of_nodup {fields : List (String × Json)}
    (hnodup : (fields.map Prod.fst).Nodup) :
    dropOverwritten fields = fields := by
  induction fields with
  | nil => rfl
  | cons field fields ih =>
      rw [List.map_cons, List.nodup_cons] at hnodup
      have hnone : (fields.any fun other => other.1 == field.1) = false := by
        rw [List.any_eq_false]
        intro other hother hsame
        apply hnodup.1
        rw [← beq_iff_eq.mp hsame]
        exact List.mem_map_of_mem hother
      rw [dropOverwritten, hnone, ih hnodup.2]
      rfl

theorem toJsonbFields_eq_map (fields : List (String × Json)) :
    toJsonbFields fields =
      fields.map fun field => (field.1, toJsonb field.2) := by
  induction fields with
  | nil => rfl
  | cons field fields ih => rw [toJsonbFields, ih, List.map_cons]

/-- A stored record has the properties it was stored with. -/
theorem get?_toJsonb {fields : List (String × Json)}
    (hnodup : (fields.map Prod.fst).Nodup) {name : String} {value : Json}
    (hfield : (name, value) ∈ fields) :
    (toJsonb (.obj fields)).get? name = some (toJsonb value) := by
  have hnames : (toJsonbFields fields).map Prod.fst = fields.map Prod.fst := by
    rw [toJsonbFields_eq_map, List.map_map]
    rfl
  have hsorted := List.perm_insertionSort
    (fun left right => jsonbKeyLe left.1 right.1) (toJsonbFields fields)
  rw [toJsonb, dropOverwritten_of_nodup (by rwa [hnames])]
  rw [get?_eq_some]
  · rw [hsorted.mem_iff, toJsonbFields_eq_map]
    exact List.mem_map_of_mem (f := fun field => (field.1, toJsonb field.2))
      hfield
  · rwa [(hsorted.map Prod.fst).nodup_iff, hnames]

theorem mem_of_mem_dropOverwritten {fields : List (String × Json)}
    {field : String × Json} (hfield : field ∈ dropOverwritten fields) :
    field ∈ fields := by
  induction fields with
  | nil => exact hfield
  | cons first fields ih =>
      rw [dropOverwritten] at hfield
      split at hfield
      case isTrue => exact List.mem_cons_of_mem first (ih hfield)
      case isFalse =>
        rcases List.mem_cons.mp hfield with rfl | hrest
        · exact List.mem_cons_self
        · exact List.mem_cons_of_mem first (ih hrest)

theorem nodup_dropOverwritten (fields : List (String × Json)) :
    ((dropOverwritten fields).map Prod.fst).Nodup := by
  induction fields with
  | nil => simp [dropOverwritten]
  | cons field fields ih =>
      rw [dropOverwritten]
      split
      case isTrue => exact ih
      case isFalse hlast =>
        rw [List.map_cons, List.nodup_cons]
        refine ⟨fun hmem => hlast ?_, ih⟩
        obtain ⟨other, hother, hsame⟩ := List.mem_map.mp hmem
        rw [List.any_eq_true]
        exact ⟨other, mem_of_mem_dropOverwritten hother, beq_iff_eq.mpr hsame⟩

theorem last_mem_dropOverwritten (fields : List (String × Json))
    (field : String × Json) : field ∈ dropOverwritten (fields ++ [field]) := by
  induction fields with
  | nil => simp [dropOverwritten]
  | cons first fields ih =>
      rw [List.cons_append, dropOverwritten]
      split
      case isTrue => exact ih
      case isFalse => exact List.mem_cons_of_mem first ih

/-- The field written last is the one that is stored. -/
theorem get?_toJsonb_concat (fields : List (String × Json)) (name : String)
    (value : Json) :
    (toJsonb (.obj (fields ++ [(name, value)]))).get? name =
      some (toJsonb value) := by
  have hsorted := List.perm_insertionSort
    (fun left right => jsonbKeyLe left.1 right.1)
    (dropOverwritten (toJsonbFields (fields ++ [(name, value)])))
  rw [toJsonb, get?_eq_some]
  · rw [hsorted.mem_iff, toJsonbFields_eq_map, List.map_append]
    exact last_mem_dropOverwritten _ (name, toJsonb value)
  · rw [(hsorted.map Prod.fst).nodup_iff]
    exact nodup_dropOverwritten _

end IdProvider
