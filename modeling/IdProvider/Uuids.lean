/-
The texts that PostgreSQL reads as a `uuid`, and the filters on its columns.
-/
import IdProvider.JsText

namespace IdProvider

def isHexDigit (c : Char) : Bool :=
  c.isDigit || (decide ('a' ≤ c) && decide (c ≤ 'f')) ||
    (decide ('A' ≤ c) && decide (c ≤ 'F'))

/-- The digits of the bytes still to come.  A hyphen may follow every second
byte except the last. -/
def uuidDigits : Nat → List Char → Option (List Char × List Char)
  | 0, rest => some ([], rest)
  | bytes + 1, high :: low :: rest =>
      if isHexDigit high && isHexDigit low then
        let rest :=
          if bytes % 2 = 0 ∧ 0 < bytes ∧ rest.head? = some '-' then rest.tail
          else rest
        (uuidDigits bytes rest).map fun (digits, rest) =>
          (high.toLower :: low.toLower :: digits, rest)
      else none
  | _ + 1, _ => none

def formatUuid (digits : List Char) : String :=
  String.ofList (digits.take 8 ++ '-' :: (digits.drop 8).take 4 ++
    '-' :: (digits.drop 12).take 4 ++ '-' :: (digits.drop 16).take 4 ++
      '-' :: digits.drop 20)

/-- What PostgreSQL makes of a `uuid` parameter; other texts are errors. -/
def parseUuid (text : String) : Option String :=
  match text.toList with
  | '{' :: rest =>
      match uuidDigits 16 rest with
      | some (digits, ['}']) => some (formatUuid digits)
      | _ => none
  | rest =>
      match uuidDigits 16 rest with
      | some (digits, []) => some (formatUuid digits)
      | _ => none

/-- An optional filter on a `uuid` column, left out when it is empty. -/
def uuidFilter (text : Option String) : Option (Option String) :=
  match orNull text with
  | none => some none
  | some text => (parseUuid text).map some

def passes (filter : Option String) (id : String) : Bool :=
  filter.all fun wanted => id == wanted

end IdProvider
