/-
JavaScript's string operations, as the services use them.
-/
import Mathlib.Tactic.Common

namespace IdProvider

/-- JavaScript's `Boolean(text)`. -/
def given (text : Option String) : Bool :=
  match text with
  | none => false
  | some text => text ≠ ""

/-- `text || null`. -/
def orNull (text : Option String) : Option String :=
  text.filter fun text => text ≠ ""

theorem orNull_some (text : String) :
    orNull (some text) = if text = "" then none else some text := by
  by_cases hempty : text = ""
  · simp [orNull, hempty]
  · simp [orNull, hempty]

theorem orNull_eq_some {text : Option String} {value : String}
    (htext : orNull text = some value) : text = some value ∧ value ≠ "" := by
  rw [orNull, Option.filter_eq_some_iff] at htext
  exact ⟨htext.1, by simpa using htext.2⟩

/-- White space and line terminators: what `\s` matches and `trim` drops. -/
def isWhitespace (c : Char) : Bool :=
  let code := c.toNat
  (9 ≤ code && code ≤ 13) || code == 0x20 || code == 0xA0 || code == 0x1680 ||
    (0x2000 ≤ code && code ≤ 0x200A) || code == 0x2028 || code == 0x2029 ||
    code == 0x202F || code == 0x205F || code == 0x3000 || code == 0xFEFF

def trim (text : String) : String :=
  String.ofList
    ((text.toList.dropWhile isWhitespace).reverse.dropWhile
      isWhitespace).reverse

theorem dropWhile_of_forall_false {drops : Char → Bool} {text : List Char}
    (hkept : ∀ c ∈ text, drops c = false) : text.dropWhile drops = text := by
  cases text with
  | nil => rfl
  | cons c text =>
      rw [List.dropWhile_cons_of_neg]
      rw [hkept c List.mem_cons_self]
      exact Bool.false_ne_true

/-- A text without white space. -/
theorem trim_ofList {text : List Char}
    (hspace : ∀ c ∈ text, isWhitespace c = false) :
    trim (String.ofList text) = String.ofList text := by
  rw [trim, String.toList_ofList, dropWhile_of_forall_false hspace,
    dropWhile_of_forall_false, List.reverse_reverse]
  intro c hc
  exact hspace c (List.mem_reverse.mp hc)

end IdProvider
