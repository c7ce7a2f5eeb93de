/-
JSON values, the printer of their compact text and a parser of JSON texts,
both over character lists.
-/
import Mathlib.Data.List.Basic
import Mathlib.Tactic.Common

namespace JsonText

/-- A number as JSON writes it: sign, whole part, fraction digits, exponent. -/
structure Number where
  negative : Bool
  whole : Nat
  fraction : List (Fin 10)
  exponent : Option Int
deriving DecidableEq, Repr

def Number.ofInt (value : Int) : Number :=
  ⟨decide (value < 0), value.natAbs, [], none⟩

def Number.toInt? (number : Number) : Option Int :=
  if number.fraction = [] ∧ number.exponent = none then
    some (if number.negative then -(number.whole : Int) else number.whole)
  else none

@[simp]
theorem Number.toInt?_ofInt (value : Int) :
    (Number.ofInt value).toInt? = some value := by
  simp only [toInt?, ofInt, and_self, ↓reduceIte, decide_eq_true_eq,
    Option.some.injEq]
  split <;> omega

/-- A JSON value; the fields of an object are in enumeration order. -/
inductive Json where
  | null
  | bool (value : Bool)
  | num (value : Number)
  | str (value : String)
  | arr (items : List Json)
  | obj (fields : List (String × Json))
deriving Repr

namespace Json

mutual

def decEq : (left right : Json) → Decidable (left = right)
  | .null, .null => isTrue rfl
  | .bool left, .bool right =>
      decidable_of_iff (left = right) (by simp)
  | .num left, .num right =>
      decidable_of_iff (left = right) (by simp)
  | .str left, .str right =>
      decidable_of_iff (left = right) (by simp)
  | .arr left, .arr right =>
      @decidable_of_iff _ (left = right) (by simp) (decEqItems left right)
  | .obj left, .obj right =>
      @decidable_of_iff _ (left = right) (by simp) (decEqFields left right)
  | .null, .bool _ | .null, .num _ | .null, .str _ | .null, .arr _
  | .null, .obj _ | .bool _, .null | .bool _, .num _ | .bool _, .str _
  | .bool _, .arr _ | .bool _, .obj _ | .num _, .null | .num _, .bool _
  | .num _, .str _ | .num _, .arr _ | .num _, .obj _ | .str _, .null
  | .str _, .bool _ | .str _, .num _ | .str _, .arr _ | .str _, .obj _
  | .arr _, .null | .arr _, .bool _ | .arr _, .num _ | .arr _, .str _
  | .arr _, .obj _ | .obj _, .null | .obj _, .bool _ | .obj _, .num _
  | .obj _, .str _ | .obj _, .arr _ => isFalse (by simp)

def decEqItems : (left right : List Json) → Decidable (left = right)
  | [], [] => isTrue rfl
  | [], _ :: _ => isFalse (by simp)
  | _ :: _, [] => isFalse (by simp)
  | left :: lefts, right :: rights =>
      @decidable_of_iff _ (left = right ∧ lefts = rights) (by simp)
        (@instDecidableAnd _ _ (decEq left right) (decEqItems lefts rights))

def decEqFields : (left right : List (String × Json)) →
    Decidable (left = right)
  | [], [] => isTrue rfl
  | [], _ :: _ => isFalse (by simp)
  | _ :: _, [] => isFalse (by simp)
  | (name, left) :: lefts, (name', right) :: rights =>
      @decidable_of_iff _ (name = name' ∧ left = right ∧ lefts = rights)
        (by simp [and_assoc])
        (@instDecidableAnd _ _ _
          (@instDecidableAnd _ _ (decEq left right)
            (decEqFields lefts rights)))

end

instance : DecidableEq Json := decEq

/-- A property access; the last field of a repeated name wins. -/
def get? (name : String) : Json → Option Json
  | .obj fields =>
      ((fields.reverse.find? fun field => field.1 = name).map Prod.snd)
  | _ => none

end Json

/-! ## Printing -/

def hexDigit (value : Nat) : Char :=
  (['0', '1', '2', '3', '4', '5', '6', '7', '8', '9',
    'a', 'b', 'c', 'd', 'e', 'f'] : List Char).getD value '0'

/-- Quoting escapes the quote, the backslash and the control characters. -/
def escapeChar (c : Char) : List Char :=
  if c = '"' then ['\\', '"']
  else if c = '\\' then ['\\', '\\']
  else if c.toNat = 8 then ['\\', 'b']
  else if c.toNat = 9 then ['\\', 't']
  else if c.toNat = 10 then ['\\', 'n']
  else if c.toNat = 12 then ['\\', 'f']
  else if c.toNat = 13 then ['\\', 'r']
  else if c.toNat < 32 then
    ['\\', 'u', '0', '0', hexDigit (c.toNat / 16), hexDigit (c.toNat % 16)]
  else [c]

def quote (text : String) : List Char :=
  '"' :: (text.toList.flatMap escapeChar ++ ['"'])

def renderExponent : Option Int → List Char
  | none => []
  | some value =>
      'e' :: (if value < 0 then '-' else '+') :: Nat.toDigits 10 value.natAbs

def renderFraction : List (Fin 10) → List Char
  | [] => []
  | digits => '.' :: digits.map fun digit => digit.val.digitChar

def Number.render (number : Number) : List Char :=
  (if number.negative then ['-'] else []) ++
    (Nat.toDigits 10 number.whole ++
      (renderFraction number.fraction ++ renderExponent number.exponent))

mutual

def Json.render : Json → List Char
  | .null => ['n', 'u', 'l', 'l']
  | .bool true => ['t', 'r', 'u', 'e']
  | .bool false => ['f', 'a', 'l', 's', 'e']
  | .num value => value.render
  | .str value => quote value
  | .arr [] => ['[', ']']
  | .arr (item :: items) => '[' :: (item.render ++ Json.renderItems items)
  | .obj [] => ['{', '}']
  | .obj ((name, value) :: fields) =>
      '{' :: (quote name ++ ':' :: (value.render ++ Json.renderFields fields))

def Json.renderItems : List Json → List Char
  | [] => [']']
  | item :: items => ',' :: (item.render ++ Json.renderItems items)

def Json.renderFields : List (String × Json) → List Char
  | [] => ['}']
  | (name, value) :: fields =>
      ',' :: (quote name ++ ':' :: (value.render ++ Json.renderFields fields))

end

/-! ## Parsing -/

def isBlank (c : Char) : Bool :=
  c = ' ' || c.toNat = 9 || c.toNat = 10 || c.toNat = 13

def skipBlanks (text : List Char) : List Char := text.dropWhile isBlank

def hexValue? (c : Char) : Option Nat :=
  if c.isDigit then some (c.toNat - 48)
  else if 97 ≤ c.toNat ∧ c.toNat ≤ 102 then some (c.toNat - 87)
  else if 65 ≤ c.toNat ∧ c.toNat ≤ 70 then some (c.toNat - 55)
  else none

def hexUnit? : List Char → Option (Nat × List Char)
  | a :: b :: c :: d :: rest => do
      let a ← hexValue? a
      let b ← hexValue? b
      let c ← hexValue? c
      let d ← hexValue? d
      some (((a * 16 + b) * 16 + c) * 16 + d, rest)
  | _ => none

/-- The characters after a backslash.  A high surrogate has to be followed by
the escape of a low one: strings here are sequences of scalar values. -/
def parseEscape : List Char → Option (Char × List Char)
  | [] => none
  | c :: rest =>
      if c = '"' ∨ c = '\\' ∨ c = '/' then some (c, rest)
      else if c = 'b' then some (Char.ofNat 8, rest)
      else if c = 't' then some (Char.ofNat 9, rest)
      else if c = 'n' then some (Char.ofNat 10, rest)
      else if c = 'f' then some (Char.ofNat 12, rest)
      else if c = 'r' then some (Char.ofNat 13, rest)
      else if c = 'u' then do
        let (unit, rest) ← hexUnit? rest
        if unit < 0xD800 ∨ 0xDFFF < unit then some (Char.ofNat unit, rest)
        else if 0xDC00 ≤ unit then none
        else if rest.take 2 = ['\\', 'u'] then do
          let (low, rest) ← hexUnit? (rest.drop 2)
          if 0xDC00 ≤ low ∧ low ≤ 0xDFFF then
            some (Char.ofNat
              (0x10000 + (unit - 0xD800) * 0x400 + (low - 0xDC00)), rest)
          else none
        else none
      else none

/-- The characters of a string up to its closing quote. -/
def parseChars : Nat → List Char → Option (List Char × List Char)
  | 0, _ => none
  | _ + 1, [] => none
  | fuel + 1, c :: rest =>
      if c = '"' then some ([], rest)
      else if c = '\\' then do
        let (c, rest) ← parseEscape rest
        let (cs, rest) ← parseChars fuel rest
        some (c :: cs, rest)
      else if c.toNat < 32 then none
      else do
        let (cs, rest) ← parseChars fuel rest
        some (c :: cs, rest)

/-- A string whose opening quote has been read. -/
def parseString (rest : List Char) : Option (String × List Char) := do
  let (cs, rest) ← parseChars (rest.length + 1) rest
  some (String.ofList cs, rest)

def parseFraction : List Char → Option (List (Fin 10) × List Char)
  | [] => some ([], [])
  | c :: rest =>
      if c = '.' then
        let digits := rest.takeWhile Char.isDigit
        if digits = [] then none
        else some (digits.map fun digit => Fin.ofNat 10 (digit.toNat - 48),
          rest.dropWhile Char.isDigit)
      else some ([], c :: rest)

def parseExponent : List Char → Option (Option Int × List Char)
  | [] => some (none, [])
  | c :: rest =>
      if c = 'e' ∨ c = 'E' then
        let negative := rest.head? = some '-'
        let rest :=
          if rest.head? = some '-' ∨ rest.head? = some '+' then rest.tail
          else rest
        let digits := rest.takeWhile Char.isDigit
        if digits = [] then none
        else
          let value : Int := Nat.ofDigitChars 10 digits 0
          some (some (if negative then -value else value),
            rest.dropWhile Char.isDigit)
      else some (none, c :: rest)

def parseNumber (text : List Char) : Option (Number × List Char) := do
  let negative := text.head? = some '-'
  let text := if negative then text.tail else text
  let digits := text.takeWhile Char.isDigit
  if digits = [] ∨ (digits.head? = some '0' ∧ digits.tail ≠ []) then none
  else do
    let (fraction, rest) ← parseFraction (text.dropWhile Char.isDigit)
    let (exponent, rest) ← parseExponent rest
    some (⟨negative, Nat.ofDigitChars 10 digits 0, fraction, exponent⟩, rest)

/-- The rest of a keyword. -/
def parseKeyword (keyword : List Char) (value : Json) (text : List Char) :
    Option (Json × List Char) :=
  if text.take keyword.length = keyword then
    some (value, text.drop keyword.length)
  else none

mutual

def parseValue : Nat → List Char → Option (Json × List Char)
  | 0, _ => none
  | fuel + 1, text =>
      match skipBlanks text with
      | [] => none
      | c :: rest =>
          if c = 'n' then parseKeyword ['u', 'l', 'l'] .null rest
          else if c = 't' then parseKeyword ['r', 'u', 'e'] (.bool true) rest
          else if c = 'f' then
            parseKeyword ['a', 'l', 's', 'e'] (.bool false) rest
          else if c = '"' then do
            let (value, rest) ← parseString rest
            some (.str value, rest)
          else if c = '[' then
            if (skipBlanks rest).head? = some ']' then
              some (.arr [], (skipBlanks rest).tail)
            else do
              let (item, rest) ← parseValue fuel rest
              let (items, rest) ← parseItems fuel rest
              some (.arr (item :: items), rest)
          else if c = '{' then
            if (skipBlanks rest).head? = some '}' then
              some (.obj [], (skipBlanks rest).tail)
            else do
              let (field, rest) ← parseField fuel rest
              let (fields, rest) ← parseFields fuel rest
              some (.obj (field :: fields), rest)
          else do
            let (value, rest) ← parseNumber (c :: rest)
            some (.num value, rest)

/-- The items after the first, up to the closing bracket. -/
def parseItems : Nat → List Char → Option (List Json × List Char)
  | 0, _ => none
  | fuel + 1, text =>
      match skipBlanks text with
      | [] => none
      | c :: rest =>
          if c = ']' then some ([], rest)
          else if c = ',' then do
            let (item, rest) ← parseValue fuel rest
            let (items, rest) ← parseItems fuel rest
            some (item :: items, rest)
          else none

/-- One `name : value` pair. -/
def parseField : Nat → List Char → Option ((String × Json) × List Char)
  | 0, _ => none
  | fuel + 1, text =>
      match skipBlanks text with
      | [] => none
      | c :: rest =>
          if c = '"' then do
            let (name, rest) ← parseString rest
            if (skipBlanks rest).head? = some ':' then do
              let (value, rest) ← parseValue fuel (skipBlanks rest).tail
              some ((name, value), rest)
            else none
          else none

/-- The fields after the first, up to the closing brace. -/
def parseFields : Nat → List Char → Option (List (String × Json) × List Char)
  | 0, _ => none
  | fuel + 1, text =>
      match skipBlanks text with
      | [] => none
      | c :: rest =>
          if c = '}' then some ([], rest)
          else if c = ',' then do
            let (field, rest) ← parseField fuel rest
            let (fields, rest) ← parseFields fuel rest
            some (field :: fields, rest)
          else none

end

/-- A whole text holds one value and blanks around it. -/
def parse (text : List Char) : Option Json := do
  let (value, rest) ← parseValue (text.length + 1) text
  if skipBlanks rest = [] then some value else none

end JsonText
