/-
The text fields of request schemas.
-/
import IdProvider.JsText

namespace IdProvider

/-! ## Text fields -/

def utf16Units : List Char → Nat
  | [] => 0
  | c :: text => (if c.toNat < 0x10000 then 1 else 2) + utf16Units text

/-- `text.length`, in UTF-16 code units. -/
def utf16Length (text : String) : Nat := utf16Units text.toList

/-- A chain `z.string()[.trim()].min(..).max(..).regex(/^[..]+$/)`.  A field
without a maximum or a pattern has `none` there. -/
structure TextSchema where
  trims : Bool
  minLength : Nat
  maxLength : Option Nat
  allowed : Option (Char → Bool)

def TextSchema.parse (schema : TextSchema) (text : String) : Option String :=
  let value := if schema.trims then trim text else text
  if schema.minLength ≤ utf16Length value ∧
      (schema.maxLength.all fun longest =>
        decide (utf16Length value ≤ longest)) = true ∧
      (schema.allowed.all fun allowed => value.toList.all allowed) = true then
    some value
  else none

/-- What a field accepts, and the value that it gives. -/
theorem TextSchema.parse_eq_some {schema : TextSchema} {text value : String} :
    schema.parse text = some value ↔
      (if schema.trims then trim text else text) = value ∧
        schema.minLength ≤ utf16Length value ∧
        (∀ longest, schema.maxLength = some longest →
          utf16Length value ≤ longest) ∧
        ∀ allowed, schema.allowed = some allowed →
          ∀ c ∈ value.toList, allowed c = true := by
  rw [TextSchema.parse, Option.ite_none_right_eq_some, Option.some.injEq, and_comm]
  apply and_congr_right
  rintro rfl
  simp only [Option.all_eq_true, decide_eq_true_eq, List.all_eq_true]

theorem utf16Length_of_ascii {text : String}
    (hascii : ∀ c ∈ text.toList, c.toNat < 128) :
    utf16Length text = text.toList.length := by
  unfold utf16Length
  generalize text.toList = characters at hascii
  induction characters with
  | nil => rfl
  | cons c cs ih =>
      have hc := hascii c List.mem_cons_self
      rw [utf16Units, List.length_cons, if_pos (by omega),
        ih fun other hother => hascii other (List.mem_cons_of_mem c hother),
        Nat.add_comm]

/-! ## The fields -/

def isAsciiLetter (c : Char) : Bool :=
  ('A' ≤ c && c ≤ 'Z') || ('a' ≤ c && c ≤ 'z')

/-- `[A-Za-z0-9._:-]` -/
def isClientIdChar (c : Char) : Bool :=
  isAsciiLetter c || ('0' ≤ c && c ≤ '9') || c == '.' || c == '_' ||
    c == ':' || c == '-'

/-- `oauthClientCreateSchema.clientId` -/
def oauthClientIdSchema : TextSchema where
  trims := true
  minLength := 3
  maxLength := some 128
  allowed := some isClientIdChar

/-- `[A-Za-z2-9 -]` -/
def isRecoveryCodeChar (c : Char) : Bool :=
  isAsciiLetter c || ('2' ≤ c && c ≤ '9') || c == ' ' || c == '-'

/-- `loginRequestSchema.mfaRecoveryCode` -/
def mfaRecoveryCodeSchema : TextSchema where
  trims := true
  minLength := 20
  maxLength := some 32
  allowed := some isRecoveryCodeChar

end IdProvider
