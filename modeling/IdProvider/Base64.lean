/-
Base64 texts of byte lists, in the padded standard alphabet and in the URL
alphabet without padding, and a decoder that reads both.
-/
import Mathlib.Data.List.Basic
import Mathlib.Tactic.Common

namespace Base64

/-- Six bits, which one character stands for. -/
abbrev Sextet := Fin 64

/-- The characters that both alphabets begin with; they stand for the sextets
below 62. -/
def letters : List Char :=
  "ABCDEFGHIJKLMNOPQRSTUVWXYZabcdefghijklmnopqrstuvwxyz0123456789".toList

/-- The standard alphabet ends with a plus and a slash. -/
def standardDigit (value : Sextet) : Char :=
  (letters ++ ['+', '/']).getD value '='

/-- The URL alphabet ends with a hyphen and an underscore, which need no
escaping in a URL. -/
def urlDigit (value : Sextet) : Char :=
  (letters ++ ['-', '_']).getD value '='

/-- The sextet of a character of either alphabet: their last two characters are
different, so a decoder can read both. -/
def sextet? (c : Char) : Option Sextet :=
  if 'A' ≤ c ∧ c ≤ 'Z' then some (.ofNat 64 (c.toNat - 65))
  else if 'a' ≤ c ∧ c ≤ 'z' then some (.ofNat 64 (c.toNat - 71))
  else if '0' ≤ c ∧ c ≤ '9' then some (.ofNat 64 (c.toNat + 4))
  else if c = '+' ∨ c = '-' then some 62
  else if c = '/' ∨ c = '_' then some 63
  else none

/-- Three bytes make four sextets; what is missing at the end is zero. -/
def sextets : List UInt8 → List Sextet
  | first :: second :: third :: bytes =>
      .ofNat 64 (first.toNat / 4) ::
        .ofNat 64 (first.toNat % 4 * 16 + second.toNat / 16) ::
        .ofNat 64 (second.toNat % 16 * 4 + third.toNat / 64) ::
        .ofNat 64 (third.toNat % 64) :: sextets bytes
  | [first, second] =>
      [.ofNat 64 (first.toNat / 4),
        .ofNat 64 (first.toNat % 4 * 16 + second.toNat / 16),
        .ofNat 64 (second.toNat % 16 * 4)]
  | [first] =>
      [.ofNat 64 (first.toNat / 4), .ofNat 64 (first.toNat % 4 * 16)]
  | [] => []

/-- The bytes of a list of sextets.  Bits that make up no whole byte at the end
are dropped, and so is a single sextet. -/
def ofSextets : List Sextet → List UInt8
  | first :: second :: third :: fourth :: sextets =>
      .ofNat (first.val * 4 + second.val / 16) ::
        .ofNat (second.val % 16 * 16 + third.val / 4) ::
        .ofNat (third.val % 4 * 64 + fourth.val) :: ofSextets sextets
  | [first, second, third] =>
      [.ofNat (first.val * 4 + second.val / 16),
        .ofNat (second.val % 16 * 16 + third.val / 4)]
  | [first, second] => [.ofNat (first.val * 4 + second.val / 16)]
  | _ => []

/-- Equals signs up to a multiple of four characters. -/
def padding (bytes : List UInt8) : List Char :=
  List.replicate ((3 - bytes.length % 3) % 3) '='

/-- The padded text in the standard alphabet. -/
def standard (bytes : List UInt8) : List Char :=
  (sextets bytes).map standardDigit ++ padding bytes

/-- The text in the URL alphabet, without padding: its length tells how many
bytes there are. -/
def url (bytes : List UInt8) : List Char := (sextets bytes).map urlDigit

/-- Padding ends the text, and characters of neither alphabet are skipped. -/
def decode (text : List Char) : List UInt8 :=
  ofSextets ((text.takeWhile (· ≠ '=')).filterMap sextet?)

/-! ## Round trip -/

/-- The digits of the standard alphabet are read as what they stand for. -/
theorem sextet?_standardDigit : ∀ value : Sextet,
    sextet? (standardDigit value) = some value := by
  decide +kernel

/-- The digits of the URL alphabet are read as what they stand for. -/
theorem sextet?_urlDigit : ∀ value : Sextet,
    sextet? (urlDigit value) = some value := by
  decide +kernel

theorem ofNat_eq {value : Nat} {byte : UInt8} (hvalue : value = byte.toNat) :
    UInt8.ofNat value = byte := by
  rw [hvalue, UInt8.ofNat_toNat]

/-- Bytes come back from their sextets, three at a time; the induction follows
the groups. -/
theorem ofSextets_sextets (bytes : List UInt8) :
    ofSextets (sextets bytes) = bytes := by
  induction bytes using sextets.induct with
  | case1 first second third bytes ih =>
      have hfirst := first.toNat_lt
      have hsecond := second.toNat_lt
      have hthird := third.toNat_lt
      rw [sextets, ofSextets, ih]
      congr 1
      · exact ofNat_eq (by simp only [Fin.val_ofNat]; omega)
      congr 1
      · exact ofNat_eq (by simp only [Fin.val_ofNat]; omega)
      congr 1
      · exact ofNat_eq (by simp only [Fin.val_ofNat]; omega)
  | case2 first second =>
      have hfirst := first.toNat_lt
      have hsecond := second.toNat_lt
      rw [sextets, ofSextets]
      congr 1
      · exact ofNat_eq (by simp only [Fin.val_ofNat]; omega)
      congr 1
      · exact ofNat_eq (by simp only [Fin.val_ofNat]; omega)
  | case3 first =>
      have hfirst := first.toNat_lt
      rw [sextets, ofSextets]
      congr 1
      · exact ofNat_eq (by simp only [Fin.val_ofNat]; omega)
  | case4 => rfl

/-- No digit is an equals sign, so the padding begins where the digits end. -/
theorem takeWhile_digits {digit : Sextet → Char}
    (hdigit : ∀ value, sextet? (digit value) = some value)
    (values : List Sextet) (count : Nat) :
    (values.map digit ++ List.replicate count '=').takeWhile (· ≠ '=') =
      values.map digit := by
  have hpad : ∀ value, digit value ≠ '=' := by
    intro value heq
    have hread := hdigit value
    rw [heq] at hread
    cases hread
  induction values with
  | nil =>
      cases count with
      | zero => rfl
      | succ count => rfl
  | cons value values ih =>
      rw [List.map_cons, List.cons_append, List.takeWhile_cons_of_pos, ih]
      simpa using hpad value

/-- Padding of any length is read back over. -/
theorem decode_padded {digit : Sextet → Char}
    (hdigit : ∀ value, sextet? (digit value) = some value)
    (bytes : List UInt8) (count : Nat) :
    decode ((sextets bytes).map digit ++ List.replicate count '=') = bytes := by
  have hsome : sextet? ∘ digit = some := funext hdigit
  rw [decode, takeWhile_digits hdigit, List.filterMap_map, hsome,
    List.filterMap_some, ofSextets_sextets]

/-- Whatever the bytes are, they come back from their padded text. -/
theorem decode_standard (bytes : List UInt8) :
    decode (standard bytes) = bytes :=
  decode_padded sextet?_standardDigit bytes _

/-- Whatever the bytes are, they come back from their URL text. -/
theorem decode_url (bytes : List UInt8) : decode (url bytes) = bytes := by
  have hdecode := decode_padded sextet?_urlDigit bytes 0
  rwa [List.replicate_zero, List.append_nil] at hdecode

/-- There are at least as many sextets as bytes. -/
theorem length_le_sextets (bytes : List UInt8) :
    bytes.length ≤ (sextets bytes).length := by
  induction bytes using sextets.induct with
  | case1 first second third bytes ih =>
      simp only [sextets, List.length_cons]
      omega
  | case2 first second => simp [sextets]
  | case3 first => simp [sextets]
  | case4 => simp [sextets]

/-- Four sextets for three bytes, rounded up: two for one byte and three for
two. -/
theorem length_sextets (bytes : List UInt8) :
    (sextets bytes).length = (bytes.length * 4 + 2) / 3 := by
  induction bytes using sextets.induct with
  | case1 first second third bytes ih =>
      simp only [sextets, List.length_cons, ih]
      omega
  | case2 first second => simp [sextets]
  | case3 first => simp [sextets]
  | case4 => simp [sextets]

/-- A text is longer than what it encodes. -/
theorem length_lt_url {bytes : List UInt8} (hbytes : bytes ≠ []) :
    bytes.length < (url bytes).length := by
  rw [url, List.length_map]
  rcases bytes with _ | ⟨first, _ | ⟨second, _ | ⟨third, bytes⟩⟩⟩
  · exact absurd rfl hbytes
  · simp [sextets]
  · simp [sextets]
  · have hrest := length_le_sextets bytes
    simp only [sextets, List.length_cons]
    omega

end Base64
