/-
Percent-encoded texts: `encodeURIComponent`, what decoding makes of its texts,
and the cookie parts that carry them.
-/
import IdProvider.BffSession
import Mathlib.Data.Bool.AllAny

namespace Utf8

/-- A byte gives a character at once, or begins one. -/
theorem push_of_nil {begun : Option Begun} {byte : Nat}
    (hnil : (push begun byte).1 = []) : (push begun byte).2 ≠ none := by
  have hlead : (lead byte).1 = [] → (lead byte).2 ≠ none := by
    unfold lead
    split
    · simp
    split
    · simp
    split
    · simp
    split
    · simp
    · simp
  cases begun with
  | none => exact hlead hnil
  | some begun =>
      simp only [push] at hnil ⊢
      split at hnil
      case isTrue hrange =>
        rw [if_pos hrange]
        split at hnil
        case isTrue => simp at hnil
        case isFalse hneeded =>
          rw [if_neg hneeded]
          simp
      case isFalse => simp at hnil

theorem decodeFrom_eq_nil {begun : Option Begun} {bytes : List UInt8}
    (hnil : decodeFrom begun bytes = []) : begun = none ∧ bytes = [] := by
  induction bytes generalizing begun with
  | nil =>
      cases begun with
      | none => exact ⟨rfl, rfl⟩
      | some begun => cases hnil
  | cons byte bytes ih =>
      rw [decodeFrom, List.append_eq_nil_iff] at hnil
      exact absurd (ih hnil.2).1 (push_of_nil hnil.1)

/-- No character's bytes go on where those of another end. -/
theorem encodeChar_append {first second : Char} {bytes : List UInt8}
    (happend : encodeChar first = encodeChar second ++ bytes) :
    first = second ∧ bytes = [] := by
  have hdecode := decodeFrom_encodeChar first []
  rw [List.append_nil, happend, decodeFrom_encodeChar] at hdecode
  obtain ⟨hchar, hrest⟩ := List.cons.inj hdecode
  exact ⟨hchar.symm, (decodeFrom_eq_nil hrest).2⟩

theorem length_encodeChar (c : Char) : (encodeChar c).length ≤ 4 := by
  unfold encodeChar
  dsimp only
  split
  · simp
  split
  · simp
  split
  · simp
  · simp

end Utf8

namespace IdProvider

open JsonText BffSession

/-! ## `encodeURIComponent` -/

/-- Letters, digits and the marks stay as they are. -/
def isUriUnescaped (c : Char) : Bool :=
  c.isAlphanum || "-_.!~*'()".toList.contains c

def upperHexDigit (value : Nat) : Char :=
  "0123456789ABCDEF".toList.getD value '0'

def escapeByte (byte : UInt8) : List Char :=
  ['%', upperHexDigit (byte.toNat / 16), upperHexDigit (byte.toNat % 16)]

def escapeUriChar (c : Char) : List Char :=
  if isUriUnescaped c then [c] else (Utf8.encodeChar c).flatMap escapeByte

def encodeURIComponent (text : List Char) : List Char :=
  text.flatMap escapeUriChar

/-! ## Decoding -/

theorem hexValue?_upperHexDigit {value : Nat} (hvalue : value < 16) :
    hexValue? (upperHexDigit value) = some value := by
  interval_cases value <;> rfl

theorem strictChar?_encodeChar (c : Char) :
    strictChar? (Utf8.encodeChar c) = some c := by
  have hdecode := Utf8.decodeFrom_encodeChar c []
  rw [List.append_nil] at hdecode
  rw [strictChar?, Utf8.decode, hdecode]
  exact if_pos rfl

theorem encodeChar_of_strictChar? {bytes : List UInt8} {c : Char}
    (hchar : strictChar? bytes = some c) : Utf8.encodeChar c = bytes := by
  unfold strictChar? at hchar
  split at hchar
  case h_1 =>
    obtain ⟨hbytes, hc⟩ := Option.ite_none_right_eq_some.mp hchar
    cases hc
    exact hbytes
  case h_2 => cases hchar

theorem uriUnits_escapeByte (byte : UInt8) (rest : List Char) :
    uriUnits (escapeByte byte ++ rest) =
      (uriUnits rest).map fun units => .inr byte :: units := by
  have hbyte := byte.toNat_lt
  have hvalue : UInt8.ofNat (byte.toNat / 16 * 16 + byte.toNat % 16) = byte := by
    rw [Nat.div_add_mod', UInt8.ofNat_toNat]
  rw [escapeByte, List.cons_append, List.cons_append, List.cons_append,
    List.nil_append, uriUnits, hexValue?_upperHexDigit (by omega),
    hexValue?_upperHexDigit (by omega)]
  dsimp only
  rw [hvalue]

theorem uriUnits_escapeBytes (bytes : List UInt8) (rest : List Char) :
    uriUnits (bytes.flatMap escapeByte ++ rest) =
      (uriUnits rest).map fun units => bytes.map .inr ++ units := by
  induction bytes with
  | nil => simp
  | cons byte bytes ih =>
      rw [List.flatMap_cons, List.append_assoc, uriUnits_escapeByte, ih,
        Option.map_map]
      rfl

theorem uriUnits_plain {c : Char} (rest : List Char) (hplain : c ≠ '%') :
    uriUnits (c :: rest) =
      (uriUnits rest).map fun units => .inl c :: units := by
  rw [uriUnits.eq_def]
  split
  case h_1 hnil => cases hnil
  case h_2 hcons =>
    obtain ⟨rfl, -⟩ := List.cons.inj hcons
    exact absurd rfl hplain
  case h_3 hcons =>
    obtain ⟨rfl, -⟩ := List.cons.inj hcons
    exact absurd rfl hplain
  case h_4 hcons =>
    cases hcons
    rfl

/-- The bytes of a character, from where they have been read. -/
theorem joinUnits_bytes {c : Char} {begun bytes : List UInt8}
    (units : List (Char ⊕ UInt8)) (hbytes : bytes ≠ [])
    (hchar : begun ++ bytes = Utf8.encodeChar c) :
    joinUnits begun (bytes.map .inr ++ units) =
      (joinUnits [] units).map fun text => c :: text := by
  induction bytes generalizing begun with
  | nil => exact absurd rfl hbytes
  | cons byte bytes ih =>
      rw [List.map_cons, List.cons_append, joinUnits]
      cases bytes with
      | nil =>
          rw [hchar, strictChar?_encodeChar]
          rfl
      | cons second bytes =>
          have hnext : (begun ++ [byte]) ++ second :: bytes =
              Utf8.encodeChar c := by
            rw [← hchar, List.append_assoc]
            rfl
          have hnone : strictChar? (begun ++ [byte]) = none := by
            cases hread : strictChar? (begun ++ [byte]) with
            | none => rfl
            | some other =>
                rw [← encodeChar_of_strictChar? hread] at hnext
                cases (Utf8.encodeChar_append hnext.symm).2
          have hshort : begun.length < 3 := by
            have hlength := Utf8.length_encodeChar c
            rw [← hchar] at hlength
            simp only [List.length_append, List.length_cons] at hlength
            omega
          rw [hnone]
          dsimp only
          rw [if_pos hshort]
          exact ih (List.cons_ne_nil _ _) hnext

theorem joinUnits_char (c : Char) (units : List (Char ⊕ UInt8)) :
    joinUnits [] ((Utf8.encodeChar c).map .inr ++ units) =
      (joinUnits [] units).map fun text => c :: text :=
  joinUnits_bytes units (Utf8.encodeChar_ne_nil c) rfl

theorem not_unescaped_percent : isUriUnescaped '%' = false := by decide

theorem decodeURIComponent_escapeUriChar (c : Char) (rest : List Char) :
    decodeURIComponent (escapeUriChar c ++ rest) =
      (decodeURIComponent rest).map fun text => c :: text := by
  unfold decodeURIComponent escapeUriChar
  by_cases hplain : isUriUnescaped c = true
  · have hne : c ≠ '%' := by
      rintro rfl
      rw [not_unescaped_percent] at hplain
      cases hplain
    rw [if_pos hplain, List.cons_append, List.nil_append,
      uriUnits_plain rest hne]
    cases uriUnits rest with
    | none => rfl
    | some units => rfl
  · rw [if_neg hplain, uriUnits_escapeBytes]
    cases uriUnits rest with
    | none => rfl
    | some units => exact joinUnits_char c units

/-- Decoding undoes encoding. -/
theorem decodeURIComponent_encodeURIComponent (text : List Char) :
    decodeURIComponent (encodeURIComponent text) = some text := by
  induction text with
  | nil => rfl
  | cons c text ih =>
      rw [encodeURIComponent, List.flatMap_cons,
        decodeURIComponent_escapeUriChar]
      rw [encodeURIComponent] at ih
      rw [ih]
      rfl

/-! ## Cookie parts -/

/-- What separates the cookies of a header, and the parts of one. -/
def isCookieDelimiter (c : Char) : Bool :=
  isWhitespace c || c == ';' || c == '='

/-- The characters of a name in an HTTP header. -/
def isTokenChar (c : Char) : Bool :=
  c.isAlphanum || "!#$%&'*+-.^_`|~".toList.contains c

def IsToken (name : List Char) : Prop :=
  name ≠ [] ∧ ∀ c ∈ name, isTokenChar c = true

theorem not_delimiter_of_alphanum {c : Char} (hc : c.isAlphanum = true) :
    isCookieDelimiter c = false := by
  have hrange : 48 ≤ c.toNat ∧ c.toNat ≤ 57 ∨ 65 ≤ c.toNat ∧ c.toNat ≤ 90 ∨
      97 ≤ c.toNat ∧ c.toNat ≤ 122 := by
    delta Char.isAlphanum Char.isAlpha Char.isUpper Char.isLower Char.isDigit
      at hc
    simp only [Bool.or_eq_true, Bool.and_eq_true, decide_eq_true_eq,
      UInt32.le_iff_toNat_le, ge_iff_le] at hc
    change (65 ≤ c.toNat ∧ c.toNat ≤ 90 ∨ 97 ≤ c.toNat ∧ c.toNat ≤ 122) ∨
      48 ≤ c.toNat ∧ c.toNat ≤ 57 at hc
    omega
  have hspace : isWhitespace c = false := by
    simp only [isWhitespace, Bool.or_eq_false_iff, Bool.and_eq_false_iff,
      decide_eq_false_iff_not, beq_eq_false_iff_ne]
    omega
  have hsemicolon : c ≠ ';' := by
    rintro rfl
    revert hrange
    decide
  have hequals : c ≠ '=' := by
    rintro rfl
    revert hrange
    decide
  simp [isCookieDelimiter, hspace, hsemicolon, hequals]

theorem not_delimiter_of_mem {marks : List Char} {c : Char}
    (hmarks : (marks.all fun c => !isCookieDelimiter c) = true)
    (hc : c.isAlphanum = true ∨ c ∈ marks) : isCookieDelimiter c = false := by
  rcases hc with halphanum | hmem
  · exact not_delimiter_of_alphanum halphanum
  · simpa using List.all_eq_true.mp hmarks c hmem

theorem IsToken.not_delimiter {name : List Char} (hname : IsToken name) :
    ∀ c ∈ name, isCookieDelimiter c = false := by
  intro c hc
  have htoken := hname.2 c hc
  rw [isTokenChar, Bool.or_eq_true, List.contains_iff_mem] at htoken
  exact not_delimiter_of_mem (by decide) htoken

theorem not_space_of_not_delimiter {text : List Char}
    (htext : ∀ c ∈ text, isCookieDelimiter c = false) :
    ∀ c ∈ text, isWhitespace c = false := by
  intro c hc
  have hdelimiter := htext c hc
  simp only [isCookieDelimiter, Bool.or_eq_false_iff] at hdelimiter
  exact hdelimiter.1.1

theorem isAlphanum_upperHexDigit {value : Nat} (hvalue : value < 16) :
    (upperHexDigit value).isAlphanum = true := by
  interval_cases value <;> rfl

/-- An encoded text holds none of the delimiters. -/
theorem not_delimiter_encodeURIComponent (text : List Char) :
    ∀ c ∈ encodeURIComponent text, isCookieDelimiter c = false := by
  intro c hc
  obtain ⟨plain, -, hescaped⟩ := List.mem_flatMap.mp hc
  unfold escapeUriChar at hescaped
  by_cases hplain : isUriUnescaped plain = true
  · rw [if_pos hplain, List.mem_singleton] at hescaped
    subst hescaped
    rw [isUriUnescaped, Bool.or_eq_true, List.contains_iff_mem] at hplain
    exact not_delimiter_of_mem (by decide) hplain
  · rw [if_neg hplain] at hescaped
    obtain ⟨byte, -, hbyte⟩ := List.mem_flatMap.mp hescaped
    have hlt := byte.toNat_lt
    rw [escapeByte, List.mem_cons, List.mem_cons, List.mem_singleton] at hbyte
    rcases hbyte with rfl | rfl | rfl
    · decide
    · exact not_delimiter_of_alphanum (isAlphanum_upperHexDigit (by omega))
    · exact not_delimiter_of_alphanum (isAlphanum_upperHexDigit (by omega))

/-- `parts.join("; ")`. -/
def joinParts (parts : List (List Char)) : List Char :=
  [';', ' '].intercalate parts

inductive SameSite where
  | strict
  | lax
  | none
  deriving DecidableEq

def SameSite.text : SameSite → String
  | .strict => "Strict"
  | .lax => "Lax"
  | .none => "None"

structure CookieOptions where
  httpOnly : Bool
  secure : Bool
  sameSite : Option SameSite
  path : Option (List Char)
  maxAge : Option ℚ

/-- `Max-Age=${Math.max(0, Math.floor(maxAge))}`. -/
def maxAgePart (maxAge : ℚ) : List Char :=
  "Max-Age=".toList ++ (toString (max 0 maxAge.floor)).toList

/-- The text of a `Set-Cookie` header. -/
def setCookieText (name value : List Char) (options : CookieOptions) :
    List Char :=
  joinParts
    ((name ++ '=' :: encodeURIComponent value) ::
      ("Path=".toList ++ options.path.getD "/".toList) ::
      ((if options.httpOnly then ["HttpOnly".toList] else []) ++
        (if options.secure then ["Secure".toList] else []) ++
        (options.sameSite.toList.map fun sameSite =>
          "SameSite=".toList ++ sameSite.text.toList) ++
        options.maxAge.toList.map maxAgePart))

/-- The part of a `Set-Cookie` header that the browser sends back. -/
def nameValuePart (setCookie : List Char) : List Char :=
  setCookie.takeWhile fun c => c ≠ ';'

theorem takeWhile_of_not_mem {text : List Char} (rest : List Char)
    (htext : ';' ∉ text) :
    (text ++ ';' :: rest).takeWhile (fun c => decide (c ≠ ';')) = text := by
  induction text with
  | nil => rfl
  | cons c text ih =>
      rw [List.mem_cons, not_or] at htext
      rw [List.cons_append, List.takeWhile_cons_of_pos, ih htext.2]
      exact decide_eq_true (Ne.symm htext.1)

theorem nameValuePart_joinParts {part : List Char} (parts : List (List Char))
    (hpart : ';' ∉ part) : nameValuePart (joinParts (part :: parts)) = part := by
  cases parts with
  | nil =>
      rw [joinParts, List.intercalate_singleton, nameValuePart,
        List.takeWhile_eq_self_iff]
      intro c hc
      exact decide_eq_true fun heq => hpart (heq ▸ hc)
  | cons second parts =>
      rw [joinParts, List.intercalate_cons_cons, List.append_assoc]
      exact takeWhile_of_not_mem _ hpart

/-- The parts of a header come back with the space that separates them. -/
theorem splitOn_joinParts {part : List Char} {parts : List (List Char)}
    (hparts : ∀ one ∈ part :: parts, ';' ∉ one) :
    (joinParts (part :: parts)).splitOn ';' =
      part :: parts.map fun part => ' ' :: part := by
  induction parts generalizing part with
  | nil =>
      rw [joinParts, List.intercalate_singleton, List.map_nil]
      exact List.splitOn_eq_singleton (hparts part List.mem_cons_self)
  | cons second parts ih =>
      rw [List.forall_mem_cons] at hparts
      have hsecond : ∀ one ∈ (' ' :: second) :: parts, ';' ∉ one := by
        rw [List.forall_mem_cons] at hparts ⊢
        refine ⟨?_, hparts.2.2⟩
        rw [List.mem_cons, not_or]
        exact ⟨by decide, hparts.2.1⟩
      have hrest : joinParts ((' ' :: second) :: parts) =
          ' ' :: joinParts (second :: parts) := by
        unfold joinParts
        cases parts with
        | nil => rfl
        | cons third parts => rw [List.intercalate_cons_cons,
            List.intercalate_cons_cons]; rfl
      rw [joinParts, List.intercalate_cons_cons, List.append_assoc]
      change (part ++ ';' :: ' ' :: joinParts (second :: parts)).splitOn ';' = _
      rw [List.splitOn_append_cons_self_of_not_mem hparts.1, ← hrest,
        ih hsecond]
      rfl

/-- A part without white space at its ends, after the space of the header. -/
theorem trimChars_of_not_space {text : List Char}
    (hspace : ∀ c ∈ text, isWhitespace c = false) :
    trimChars text = text ∧ trimChars (' ' :: text) = text := by
  have htrim : trimChars text = text := by
    rw [trimChars, dropWhile_of_forall_false hspace, dropWhile_of_forall_false,
      List.reverse_reverse]
    intro c hc
    exact hspace c (List.mem_reverse.mp hc)
  refine ⟨htrim, ?_⟩
  have hdrop : (' ' :: text).dropWhile isWhitespace =
      text.dropWhile isWhitespace :=
    List.dropWhile_cons_of_pos (by decide)
  rw [trimChars, hdrop]
  exact htrim

/-- A cookie as the browser sends it back. -/
theorem nameValuePart_setCookieText {name : List Char} (value : List Char)
    (options : CookieOptions) (hname : IsToken name) :
    nameValuePart (setCookieText name value options) =
        name ++ '=' :: encodeURIComponent value ∧
      ';' ∉ name ++ '=' :: encodeURIComponent value := by
  have hpart : ';' ∉ name ++ '=' :: encodeURIComponent value := by
    intro hmem
    rw [List.mem_append, List.mem_cons] at hmem
    rcases hmem with hmem | hmem | hmem
    · exact absurd (hname.not_delimiter _ hmem) (by decide)
    · exact absurd hmem (by decide)
    · exact absurd (not_delimiter_encodeURIComponent value _ hmem) (by decide)
  exact ⟨nameValuePart_joinParts _ hpart, hpart⟩

end IdProvider
