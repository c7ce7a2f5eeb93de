/-
`Number(value)` of a value that `JSON.parse` returned: what the language makes
of a text, and of arrays and objects by way of their texts.
-/
import IdProvider.JsonReading
import IdProvider.JsText

namespace IdProvider

open JsonText

/-! ## Texts -/

/-- A decimal literal without its sign.  Unlike in JSON, zeros may lead, and
one side of the point may be empty. -/
def decimalOf (negative : Bool) (text : List Char) : Option Number :=
  let whole := text.takeWhile Char.isDigit
  let rest := text.dropWhile Char.isDigit
  -- JSON has no fraction without digits; here the point alone is skipped.
  let (fraction, rest) := (parseFraction rest).getD ([], rest.tail)
  if whole = [] ∧ fraction = [] then none
  else
    match parseExponent rest with
    | some (exponent, []) =>
        some ⟨negative, Nat.ofDigitChars 10 whole 0, fraction, exponent⟩
    | _ => none

/-- The base of a literal with a prefix. -/
def radixOf (head : List Char) : Option Nat :=
  if head = ['0', 'x'] ∨ head = ['0', 'X'] then some 16
  else if head = ['0', 'o'] ∨ head = ['0', 'O'] then some 8
  else if head = ['0', 'b'] ∨ head = ['0', 'B'] then some 2
  else none

/-- The digits after a prefix, of which there has to be one. -/
def digitsOf (base : Nat) (text : List Char) : Option Number :=
  match text.mapM fun c => (hexValue? c).filter fun digit => digit < base with
  | none => none
  | some [] => none
  | some digits =>
      some (.ofInt (digits.foldl (fun sum digit => sum * base + digit) 0 : Nat))

section Conversion

variable (runtime : NumberRuntime)

/-- What is no literal is `NaN`. -/
def readLiteral (literal : Option Number) : JsNumber :=
  (literal.map runtime.read).getD .nan

def numberOfUnsigned (negative : Bool) (literal : List Char) : JsNumber :=
  if literal = "Infinity".toList then .infinite negative
  else readLiteral runtime (decimalOf negative literal)

/-- A literal between white space.  Only decimal literals have a sign. -/
def numberOfLiteral (literal : List Char) : JsNumber :=
  match radixOf (literal.take 2) with
  | some base => readLiteral runtime (digitsOf base (literal.drop 2))
  | none =>
      if literal.head? = some '-' then
        numberOfUnsigned runtime true literal.tail
      else if literal.head? = some '+' then
        numberOfUnsigned runtime false literal.tail
      else numberOfUnsigned runtime false literal

/-- `Number(text)`: zero where there is nothing but white space. -/
def numberOfText (text : String) : JsNumber :=
  if trim text = "" then runtime.read (.ofInt 0)
  else numberOfLiteral runtime (trim text).toList

end Conversion

/-! ## Values -/

/-- `String(number)`. -/
def JsNumber.toText : JsNumber → String
  | .finite value => String.ofList value.render
  | .nan => "NaN"
  | .infinite negative => if negative then "-Infinity" else "Infinity"

mutual

/-- `String(value)`.  Dates, which JSON has none of, are given by the text
that they have there. -/
def JsValue.toText : JsValue → String
  | .absent text => text
  | .null => "null"
  | .bool value => if value then "true" else "false"
  | .number value => value.toText
  | .str value => value
  | .date value => toISOString value
  | .arr items => ",".intercalate (JsValue.itemTexts items)
  | .obj _ => "[object Object]"

/-- What `join` puts between the commas: nothing for `null`. -/
def JsValue.itemTexts : List JsValue → List String
  | [] => []
  | .null :: items => "" :: JsValue.itemTexts items
  | item :: items => item.toText :: JsValue.itemTexts items

end

mutual

/-- Converting an object calls its `toString`.  An object that was read from
JSON may have a property of that name, which is no function: `TypeError`. -/
def JsValue.converts : JsValue → Bool
  | .arr items => JsValue.itemsConvert items
  | .obj fields => fields.all fun field => field.1 ≠ "toString"
  | _ => true

def JsValue.itemsConvert : List JsValue → Bool
  | [] => true
  | item :: items => item.converts && JsValue.itemsConvert items

end

section Values

variable (runtime : NumberRuntime)

/-- `Number(value)`, where the value converts. -/
def JsValue.toNumber (value : JsValue) : JsNumber :=
  match value with
  | .absent _ => .nan
  | .null => runtime.read (.ofInt 0)
  | .bool value => runtime.read (.ofInt (if value then 1 else 0))
  | .number value => value
  | .str text => numberOfText runtime text
  | .date time => runtime.read (.ofInt time)
  | .arr items => numberOfText runtime (JsValue.arr items).toText
  | .obj fields => numberOfText runtime (JsValue.obj fields).toText

/-- The text of the number reads as the number. -/
def JsNumber.Stable (number : JsNumber) : Prop :=
  ∀ value, number = .finite value → runtime.read value = .finite value

variable {runtime}

theorem stable_read (text : Number) :
    JsNumber.Stable runtime (runtime.read text) :=
  runtime.read_read text

theorem stable_nan : JsNumber.Stable runtime .nan := by
  intro value hvalue
  cases hvalue

theorem stable_infinite (negative : Bool) :
    JsNumber.Stable runtime (.infinite negative) := by
  intro value hvalue
  cases hvalue

theorem stable_readLiteral (literal : Option Number) :
    JsNumber.Stable runtime (readLiteral runtime literal) := by
  cases literal with
  | none => exact stable_nan
  | some text => exact stable_read text

theorem stable_numberOfUnsigned (negative : Bool) (literal : List Char) :
    JsNumber.Stable runtime (numberOfUnsigned runtime negative literal) := by
  rw [numberOfUnsigned]
  split
  case isTrue => exact stable_infinite negative
  case isFalse => exact stable_readLiteral _

theorem stable_numberOfLiteral (literal : List Char) :
    JsNumber.Stable runtime (numberOfLiteral runtime literal) := by
  rw [numberOfLiteral]
  cases radixOf (literal.take 2) with
  | some base => exact stable_readLiteral _
  | none =>
      dsimp only
      split
      case isTrue => exact stable_numberOfUnsigned true _
      case isFalse =>
        split
        case isTrue => exact stable_numberOfUnsigned false _
        case isFalse => exact stable_numberOfUnsigned false _

theorem stable_numberOfText (text : String) :
    JsNumber.Stable runtime (numberOfText runtime text) := by
  rw [numberOfText]
  split
  case isTrue => exact stable_read _
  case isFalse => exact stable_numberOfLiteral _

/-- Whatever `Number` makes of a value that was read, its text reads as it. -/
theorem stable_toNumber (json : Json) :
    JsNumber.Stable runtime ((readJson runtime json).toNumber runtime) := by
  cases json with
  | null =>
      rw [readJson, JsValue.toNumber]
      exact stable_read _
  | bool value =>
      rw [readJson, JsValue.toNumber]
      exact stable_read _
  | num text =>
      rw [readJson, JsValue.toNumber]
      exact stable_read text
  | str text =>
      rw [readJson, JsValue.toNumber]
      exact stable_numberOfText text
  | arr items =>
      rw [readJson, JsValue.toNumber]
      exact stable_numberOfText _
  | obj fields =>
      rw [readJson, JsValue.toNumber]
      exact stable_numberOfText _

end Values

/-! ## Examples of the language -/

example : numberOfText .ofTexts " 0x1F\n" = .finite (.ofInt 31) := by
  decide +kernel

example :
    [" ", ".5e1", "1_0", "-Infinity", "+0x1", "010", "."].map
        (numberOfText .ofTexts) =
      [.finite (.ofInt 0), .finite ⟨false, 0, [5], some 1⟩, .nan,
        .infinite true, .nan, .finite (.ofInt 10), .nan] := by
  decide +kernel

end IdProvider
