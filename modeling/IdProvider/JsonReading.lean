/-
JSON texts read into values of the runtime, whose numbers are doubles, and the
values that survive being printed and read again.
-/
import IdProvider.JsValue
import IdProvider.JsonRoundTrip
import Mathlib.Algebra.Field.Rat

namespace IdProvider

open JsonText

/-- The double nearest to a decimal text.  A double is given by its shortest
text, which reads as itself. -/
structure NumberRuntime where
  read : Number → JsNumber
  read_read : ∀ text value, read text = .finite value →
    read value = .finite value

/-- Every text is that of a double. -/
def NumberRuntime.ofTexts : NumberRuntime where
  read := .finite
  read_read := fun _ _ _ => rfl

/-- The decimal number that a text denotes. -/
def numberValue (number : Number) : ℚ :=
  let digits := number.fraction.foldl (fun sum digit => sum * 10 + digit.val)
    number.whole
  let scaled := (digits : ℚ) * 10 ^ (number.exponent.getD 0 -
    (number.fraction.length : Int))
  if number.negative then -scaled else scaled

theorem numberValue_ofInt (value : Int) :
    numberValue (.ofInt value) = value := by
  have hcast : ((value.natAbs : Nat) : ℚ) = ((value.natAbs : Int) : ℚ) := rfl
  simp only [numberValue, Number.ofInt, List.foldl_nil, Option.getD_none,
    List.length_nil, Int.natCast_zero, sub_zero, zpow_zero, mul_one,
    decide_eq_true_eq]
  rw [hcast]
  split
  · rw [← Int.cast_neg]
    congr 1
    omega
  · congr 1
    omega

/-- `value > limit`. -/
def exceeds (value : Number) : JsNumber → Bool
  | .finite limit => decide (numberValue limit < numberValue value)
  | .nan => false
  | .infinite negative => negative

/-- `value <= bound`. -/
def JsNumber.atMost (bound : ℚ) : JsNumber → Bool
  | .finite value => decide (numberValue value ≤ bound)
  | .nan => false
  | .infinite negative => negative

/-- `value > bound`. -/
def JsNumber.above (bound : ℚ) : JsNumber → Bool
  | .finite value => decide (bound < numberValue value)
  | .nan => false
  | .infinite negative => !negative

/-- `left === right`; `NaN` is not the same as itself. -/
def JsNumber.same : JsNumber → JsNumber → Bool
  | .finite left, .finite right =>
      decide (numberValue left = numberValue right)
  | .infinite left, .infinite right => left == right
  | _, _ => false

section Reading

variable (runtime : NumberRuntime)

mutual

/-- What `JSON.parse` builds, with numbers as the runtime reads them. -/
def readJson : Json → JsValue
  | .null => .null
  | .bool value => .bool value
  | .num value => .number (runtime.read value)
  | .str value => .str value
  | .arr items => .arr (readItems items)
  | .obj fields => .obj (enumerated (readFields fields))

def readItems : List Json → List JsValue
  | [] => []
  | item :: items => readJson item :: readItems items

def readFields : List (String × Json) → List (String × JsValue)
  | [] => []
  | (name, value) :: fields => (name, readJson value) :: readFields fields

end

mutual

/-- What `JSON.stringify` prints of a value that was read. -/
def reprint : Json → Json
  | .null => .null
  | .bool value => .bool value
  | .num value => (runtime.read value).toJson
  | .str value => .str value
  | .arr items => .arr (reprintItems items)
  | .obj fields => .obj (enumerated (reprintFields fields))

def reprintItems : List Json → List Json
  | [] => []
  | item :: items => reprint item :: reprintItems items

def reprintFields : List (String × Json) → List (String × Json)
  | [] => []
  | (name, value) :: fields => (name, reprint value) :: reprintFields fields

end

/-- `JSON.parse(JSON.stringify(value))`. -/
def reread (value : JsValue) : Option JsValue :=
  value.toJson?.bind fun json =>
    (parse json.render).map (readJson runtime)

end Reading

/-! ## Property order -/

theorem enumerated_map {Source Target : Type} (read : Source → Target)
    (fields : List (String × Source)) :
    enumerated (fields.map fun field => (field.1, read field.2)) =
      (enumerated fields).map fun field => (field.1, read field.2) := by
  rw [enumerated, enumerated, List.map_append, List.filter_map,
    List.filter_map]
  congr 1
  apply Eq.symm
  apply List.map_insertionSort
  intro left _ right _
  rfl

theorem enumerated_enumerated {Value : Type} (fields : List (String × Value)) :
    enumerated (enumerated fields) = enumerated fields := by
  let indexed := fun field : String × Value => (arrayIndex? field.1).isSome
  let named := fun field : String × Value => (arrayIndex? field.1).isNone
  let before := fun left right : String × Value =>
    (arrayIndex? left.1).getD 0 ≤ (arrayIndex? right.1).getD 0
  let sorted := (fields.filter indexed).insertionSort before
  have htotal : Std.Total before := ⟨fun _ _ => Nat.le_total _ _⟩
  have htrans : IsTrans (String × Value) before := ⟨fun _ _ _ => Nat.le_trans⟩
  have hindexed : ∀ field ∈ sorted, indexed field = true := by
    intro field hfield
    have hmem := (List.perm_insertionSort before _).mem_iff.mp hfield
    exact (List.mem_filter.mp hmem).2
  have hfirst : (sorted ++ fields.filter named).filter indexed = sorted := by
    rw [List.filter_append, List.filter_eq_self.mpr hindexed,
      List.filter_filter]
    have hnone : fields.filter (fun field => indexed field && named field) =
        [] := by
      rw [List.filter_eq_nil_iff]
      intro field _
      simp only [indexed, named]
      cases arrayIndex? field.1 <;> simp
    rw [hnone, List.append_nil]
  have hsecond : (sorted ++ fields.filter named).filter named =
      fields.filter named := by
    rw [List.filter_append, List.filter_filter]
    have hnone : sorted.filter named = [] := by
      rw [List.filter_eq_nil_iff]
      intro field hfield
      have hsome := hindexed field hfield
      simp only [indexed, named] at hsome ⊢
      simp [Option.isSome_iff_ne_none.mp hsome]
    rw [hnone, List.nil_append]
    simp only [Bool.and_self]
  change ((sorted ++ fields.filter named).filter indexed).insertionSort before ++
    (sorted ++ fields.filter named).filter named =
      sorted ++ fields.filter named
  rw [hfirst, hsecond,
    (List.pairwise_insertionSort before _).insertionSort_eq]

/-- Names that are no array indexes stay as they are. -/
theorem enumerated_of_named {Value : Type} {fields : List (String × Value)}
    (hnamed : ∀ field ∈ fields, arrayIndex? field.1 = none) :
    enumerated fields = fields := by
  have hindexed : (fields.filter fun field => (arrayIndex? field.1).isSome) =
      [] := by
    rw [List.filter_eq_nil_iff]
    intro field hfield
    simp [hnamed field hfield]
  have hall : (fields.filter fun field => (arrayIndex? field.1).isNone) =
      fields := by
    rw [List.filter_eq_self]
    intro field hfield
    simp [hnamed field hfield]
  rw [enumerated, hindexed, hall, List.insertionSort_nil, List.nil_append]

/-! ## Reading again -/

section Reread

variable (runtime : NumberRuntime)

theorem readFields_eq_map (fields : List (String × Json)) :
    readFields runtime fields =
      fields.map fun field => (field.1, readJson runtime field.2) := by
  induction fields with
  | nil => rfl
  | cons field fields ih => rw [readFields, ih, List.map_cons]

theorem reprintFields_eq_map (fields : List (String × Json)) :
    reprintFields runtime fields =
      fields.map fun field => (field.1, reprint runtime field.2) := by
  induction fields with
  | nil => rfl
  | cons field fields ih => rw [reprintFields, ih, List.map_cons]

theorem mem_enumerated {Value : Type} {fields : List (String × Value)}
    {field : String × Value} :
    field ∈ enumerated fields ↔ field ∈ fields := by
  rw [enumerated, List.mem_append, (List.perm_insertionSort _ _).mem_iff,
    List.mem_filter, List.mem_filter, ← and_or_left]
  apply and_iff_left
  cases arrayIndex? field.1 <;> simp

theorem toJsonFields_map {fields : List (String × Json)}
    (hfields : ∀ field ∈ fields,
      (readJson runtime field.2).toJson? = some (reprint runtime field.2)) :
    JsValue.toJsonFields
        (fields.map fun field => (field.1, readJson runtime field.2)) =
      fields.map fun field => (field.1, reprint runtime field.2) := by
  induction fields with
  | nil => rfl
  | cons field fields ih =>
      rw [List.forall_mem_cons] at hfields
      rw [List.map_cons, JsValue.toJsonFields, hfields.1, List.map_cons,
        ih hfields.2]

mutual

theorem toJson?_readJson : ∀ json : Json,
    (readJson runtime json).toJson? = some (reprint runtime json)
  | .null => rfl
  | .bool _ => rfl
  | .num _ => rfl
  | .str _ => rfl
  | .arr items => by
      rw [readJson, JsValue.toJson?, reprint, toJsonItems_readItems items]
  | .obj fields => by
      have hfields : ∀ field ∈ enumerated fields,
          (readJson runtime field.2).toJson? =
            some (reprint runtime field.2) :=
        fun field hfield => toJson?_of_mem fields field
          (mem_enumerated.mp hfield)
      rw [readJson, JsValue.toJson?, reprint, readFields_eq_map,
        enumerated_map, toJsonFields_map runtime hfields,
        reprintFields_eq_map, enumerated_map]

theorem toJsonItems_readItems : ∀ items : List Json,
    JsValue.toJsonItems (readItems runtime items) = reprintItems runtime items
  | [] => rfl
  | item :: items => by
      rw [readItems, JsValue.toJsonItems, toJson?_readJson item,
        toJsonItems_readItems items, reprintItems, Option.getD_some]

theorem toJson?_of_mem : ∀ (fields : List (String × Json)) (field),
    field ∈ fields →
      (readJson runtime field.2).toJson? = some (reprint runtime field.2)
  | (_, value) :: fields, field, hfield => by
      rcases List.mem_cons.mp hfield with rfl | hrest
      · exact toJson?_readJson value
      · exact toJson?_of_mem fields field hrest

end

theorem reprint_toJson (number : JsNumber) (text : Number)
    (hread : runtime.read text = number) :
    reprint runtime number.toJson = number.toJson := by
  cases number with
  | finite value =>
      rw [JsNumber.toJson, reprint, runtime.read_read text value hread]
      rfl
  | nan => rfl
  | infinite negative => rfl

mutual

theorem reprint_reprint : ∀ json : Json,
    reprint runtime (reprint runtime json) = reprint runtime json
  | .null => rfl
  | .bool _ => rfl
  | .num value => reprint_toJson runtime _ value rfl
  | .str _ => rfl
  | .arr items => by
      rw [reprint, reprint, reprintItems_reprintItems items]
  | .obj fields => by
      have hfields : (fields.map fun field =>
          (field.1, reprint runtime (reprint runtime field.2))) =
          fields.map fun field => (field.1, reprint runtime field.2) := by
        apply List.map_congr_left
        intro field hfield
        rw [reprint_of_mem fields field hfield]
      rw [reprint, reprint, reprintFields_eq_map, reprintFields_eq_map,
        ← enumerated_map, enumerated_enumerated, List.map_map]
      exact congrArg (fun fields => Json.obj (enumerated fields)) hfields

theorem reprintItems_reprintItems : ∀ items : List Json,
    reprintItems runtime (reprintItems runtime items) =
      reprintItems runtime items
  | [] => rfl
  | item :: items => by
      rw [reprintItems, reprintItems, reprint_reprint item,
        reprintItems_reprintItems items]

theorem reprint_of_mem : ∀ (fields : List (String × Json)) (field),
    field ∈ fields →
      reprint runtime (reprint runtime field.2) = reprint runtime field.2
  | (_, value) :: fields, field, hfield => by
      rcases List.mem_cons.mp hfield with rfl | hrest
      · exact reprint_reprint value
      · exact reprint_of_mem fields field hrest

end

/-- A value whose text prints again as it is. -/
def Settles (value : JsValue) : Prop :=
  ∃ json, value.toJson? = some json ∧ reprint runtime json = json

/-- Fields whose names are no array indexes and whose values settle. -/
def SettledFields (fields : List (String × JsValue)) : Prop :=
  ∃ printed, JsValue.toJsonFields fields = printed ∧
    ∀ field ∈ printed, arrayIndex? field.1 = none ∧
      reprint runtime field.2 = field.2

theorem settledFields_nil : SettledFields runtime [] :=
  ⟨[], rfl, fun _ hfield => by cases hfield⟩

theorem SettledFields.cons {name : String} {value : JsValue}
    {fields : List (String × JsValue)} (hname : arrayIndex? name = none)
    (hvalue : Settles runtime value) (hfields : SettledFields runtime fields) :
    SettledFields runtime ((name, value) :: fields) := by
  obtain ⟨json, hprint, hreprint⟩ := hvalue
  obtain ⟨printed, hprinted, hall⟩ := hfields
  refine ⟨(name, json) :: printed, ?_, ?_⟩
  · rw [JsValue.toJsonFields, hprint, hprinted]
  · rw [List.forall_mem_cons]
    exact ⟨⟨hname, hreprint⟩, hall⟩

theorem SettledFields.settles {fields : List (String × JsValue)}
    (hfields : SettledFields runtime fields) :
    Settles runtime (.obj fields) := by
  obtain ⟨printed, hprint, hall⟩ := hfields
  have hsame : (printed.map fun field =>
      (field.1, reprint runtime field.2)) = printed := by
    refine (List.map_congr_left fun field hfield => ?_).trans
      (List.map_id printed)
    rw [(hall field hfield).2]
    rfl
  refine ⟨.obj printed, ?_, ?_⟩
  · rw [JsValue.toJson?, hprint]
  · rw [reprint, reprintFields_eq_map, hsame,
      enumerated_of_named fun field hfield => (hall field hfield).1]

theorem settles_bool (value : Bool) : Settles runtime (.bool value) :=
  ⟨.bool value, rfl, rfl⟩

theorem settles_str (value : String) : Settles runtime (.str value) :=
  ⟨.str value, rfl, rfl⟩

theorem settles_null : Settles runtime .null := ⟨.null, rfl, rfl⟩

theorem settles_readJson (json : Json) :
    Settles runtime (readJson runtime json) :=
  ⟨_, toJson?_readJson runtime json, reprint_reprint runtime json⟩

theorem settles_number {number : JsNumber}
    (hread : ∀ value, number = .finite value →
      runtime.read value = .finite value) :
    Settles runtime (.number number) := by
  refine ⟨number.toJson, rfl, ?_⟩
  cases number with
  | finite value => exact reprint_toJson runtime _ value (hread value rfl)
  | nan => rfl
  | infinite negative => rfl

theorem reread_eq {value : JsValue} {json : Json}
    (hprint : value.toJson? = some json) :
    reread runtime value = some (readJson runtime json) := by
  rw [reread, hprint, Option.bind_some, parse_render, Option.map_some]

theorem Settles.reread_reread {value again : JsValue}
    (hsettles : Settles runtime value)
    (hagain : reread runtime value = some again) :
    reread runtime again = some again := by
  obtain ⟨json, hprint, hreprint⟩ := hsettles
  rw [reread_eq runtime hprint, Option.some.injEq] at hagain
  rw [← hagain, reread_eq runtime (toJson?_readJson runtime json), hreprint]

theorem reread_readJson (json : Json) :
    reread runtime (readJson runtime json) =
      some (readJson runtime (reprint runtime json)) :=
  reread_eq runtime (toJson?_readJson runtime json)

end Reread

end IdProvider
