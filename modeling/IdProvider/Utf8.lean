/-
UTF-8 as runtimes read and write it: every text has bytes, and all bytes have a
text, with a replacement character for what is not well formed.
-/
import Mathlib.Data.List.Basic
import Mathlib.Tactic.Common

namespace Utf8

def encodeChar (c : Char) : List UInt8 :=
  let code := c.toNat
  if code < 0x80 then [.ofNat code]
  else if code < 0x800 then
    [.ofNat (0xC0 + code / 64), .ofNat (0x80 + code % 64)]
  else if code < 0x10000 then
    [.ofNat (0xE0 + code / 4096), .ofNat (0x80 + code / 64 % 64),
      .ofNat (0x80 + code % 64)]
  else
    [.ofNat (0xF0 + code / 262144), .ofNat (0x80 + code / 4096 % 64),
      .ofNat (0x80 + code / 64 % 64), .ofNat (0x80 + code % 64)]

def encode (text : List Char) : List UInt8 := text.flatMap encodeChar

/-! ## Decoding -/

/-- A character whose first bytes have been read: how many are still needed,
the bits so far, and the range of the next byte. -/
structure Begun where
  needed : Nat
  bits : Nat
  lower : Nat
  upper : Nat

def replacement : Char := Char.ofNat 0xFFFD

/-- The first byte of a character: what it decodes to, or what it begins. -/
def lead (byte : Nat) : List Char × Option Begun :=
  if byte < 0x80 then ([Char.ofNat byte], none)
  else if 0xC2 ≤ byte ∧ byte ≤ 0xDF then
    ([], some ⟨1, byte - 0xC0, 0x80, 0xBF⟩)
  else if 0xE0 ≤ byte ∧ byte ≤ 0xEF then
    -- neither overlong forms nor surrogates
    ([], some ⟨2, byte - 0xE0, if byte = 0xE0 then 0xA0 else 0x80,
      if byte = 0xED then 0x9F else 0xBF⟩)
  else if 0xF0 ≤ byte ∧ byte ≤ 0xF4 then
    ([], some ⟨3, byte - 0xF0, if byte = 0xF0 then 0x90 else 0x80,
      if byte = 0xF4 then 0x8F else 0xBF⟩)
  else ([replacement], none)

/-- One byte more.  A byte that does not continue the character replaces it
and is read again as a first byte. -/
def push (begun : Option Begun) (byte : Nat) : List Char × Option Begun :=
  match begun with
  | none => lead byte
  | some begun =>
      if begun.lower ≤ byte ∧ byte ≤ begun.upper then
        let bits := begun.bits * 64 + (byte - 0x80)
        if begun.needed = 1 then ([Char.ofNat bits], none)
        else ([], some ⟨begun.needed - 1, bits, 0x80, 0xBF⟩)
      else (replacement :: (lead byte).1, (lead byte).2)

def decodeFrom : Option Begun → List UInt8 → List Char
  | none, [] => []
  | some _, [] => [replacement]
  | begun, byte :: bytes =>
      (push begun byte.toNat).1 ++ decodeFrom (push begun byte.toNat).2 bytes

def decode (bytes : List UInt8) : List Char := decodeFrom none bytes

/-! ## Round trip -/

theorem decodeFrom_cons {begun next : Option Begun} {byte : Nat}
    {text : List Char} (bytes : List UInt8) (hbyte : byte < 256)
    (hpush : push begun byte = (text, next)) :
    decodeFrom begun (.ofNat byte :: bytes) = text ++ decodeFrom next bytes := by
  have hnat : (UInt8.ofNat byte).toNat = byte :=
    UInt8.toNat_ofNat_of_lt hbyte
  rw [decodeFrom, hnat, hpush]

theorem push_middle {needed lower upper byte : Nat} (bits : Nat)
    (hneeded : needed ≠ 1) (hlower : lower ≤ byte) (hupper : byte ≤ upper) :
    push (some ⟨needed, bits, lower, upper⟩) byte =
      ([], some ⟨needed - 1, bits * 64 + (byte - 0x80), 0x80, 0xBF⟩) := by
  simp only [push, if_pos (And.intro hlower hupper), if_neg hneeded]

theorem push_last {lower upper byte : Nat} (bits : Nat)
    (hlower : lower ≤ byte) (hupper : byte ≤ upper) :
    push (some ⟨1, bits, lower, upper⟩) byte =
      ([Char.ofNat (bits * 64 + (byte - 0x80))], none) := by
  simp only [push, if_pos (And.intro hlower hupper), if_true]

/-! The bytes after the first one carry six bits each. -/

section Tail

variable {code lower upper : Nat} (bytes : List UInt8)

theorem decodeFrom_one (hlower : lower ≤ 0x80 + code % 64)
    (hupper : 0x80 + code % 64 ≤ upper) :
    decodeFrom (some ⟨1, code / 64, lower, upper⟩)
        (.ofNat (0x80 + code % 64) :: bytes) =
      Char.ofNat code :: decodeFrom none bytes := by
  have hbits : code / 64 * 64 + (0x80 + code % 64 - 0x80) = code := by omega
  have hpush := push_last (code / 64) hlower hupper
  rw [hbits] at hpush
  exact decodeFrom_cons bytes (by omega) hpush

theorem decodeFrom_two (hlower : lower ≤ 0x80 + code / 64 % 64)
    (hupper : 0x80 + code / 64 % 64 ≤ upper) :
    decodeFrom (some ⟨2, code / 4096, lower, upper⟩)
        (.ofNat (0x80 + code / 64 % 64) :: .ofNat (0x80 + code % 64) ::
          bytes) =
      Char.ofNat code :: decodeFrom none bytes := by
  have hbits : code / 4096 * 64 + (0x80 + code / 64 % 64 - 0x80) =
      code / 64 := by omega
  have hpush := push_middle (code / 4096) (show 2 ≠ 1 by decide) hlower hupper
  rw [hbits] at hpush
  rw [decodeFrom_cons _ (by omega) hpush]
  exact decodeFrom_one bytes (by omega) (by omega)

theorem decodeFrom_three (hlower : lower ≤ 0x80 + code / 4096 % 64)
    (hupper : 0x80 + code / 4096 % 64 ≤ upper) :
    decodeFrom (some ⟨3, code / 262144, lower, upper⟩)
        (.ofNat (0x80 + code / 4096 % 64) ::
          .ofNat (0x80 + code / 64 % 64) :: .ofNat (0x80 + code % 64) ::
            bytes) =
      Char.ofNat code :: decodeFrom none bytes := by
  have hbits : code / 262144 * 64 + (0x80 + code / 4096 % 64 - 0x80) =
      code / 4096 := by omega
  have hpush := push_middle (code / 262144) (show 3 ≠ 1 by decide) hlower
    hupper
  rw [hbits] at hpush
  rw [decodeFrom_cons _ (by omega) hpush]
  exact decodeFrom_two bytes (by omega) (by omega)

end Tail

theorem lead_one {code : Nat} (hcode : code < 0x80) :
    push none code = ([Char.ofNat code], none) :=
  if_pos hcode

theorem lead_two {code : Nat} (hlower : 0x80 ≤ code) (hupper : code < 0x800) :
    push none (0xC0 + code / 64) =
      ([], some ⟨1, code / 64, 0x80, 0xBF⟩) := by
  simp only [push, lead]
  rw [if_neg (by omega), if_pos (by omega), Nat.add_sub_cancel_left]

theorem lead_three {code : Nat} (hcode : code < 0x10000) :
    push none (0xE0 + code / 4096) =
      ([], some ⟨2, code / 4096,
        if 0xE0 + code / 4096 = 0xE0 then 0xA0 else 0x80,
        if 0xE0 + code / 4096 = 0xED then 0x9F else 0xBF⟩) := by
  simp only [push, lead]
  rw [if_neg (by omega), if_neg (by omega), if_pos (by omega),
    Nat.add_sub_cancel_left]

theorem lead_four {code : Nat} (hcode : code < 0x110000) :
    push none (0xF0 + code / 262144) =
      ([], some ⟨3, code / 262144,
        if 0xF0 + code / 262144 = 0xF0 then 0x90 else 0x80,
        if 0xF0 + code / 262144 = 0xF4 then 0x8F else 0xBF⟩) := by
  simp only [push, lead]
  rw [if_neg (by omega), if_neg (by omega), if_neg (by omega),
    if_pos (by omega), Nat.add_sub_cancel_left]

theorem char_bounds (c : Char) :
    c.toNat < 0xD800 ∨ 0xDFFF < c.toNat ∧ c.toNat < 0x110000 :=
  c.valid

theorem decodeFrom_encodeChar (c : Char) (bytes : List UInt8) :
    decodeFrom none (encodeChar c ++ bytes) = c :: decodeFrom none bytes := by
  have hchar : Char.ofNat c.toNat = c := Char.ofNat_toNat c
  have hbounds := char_bounds c
  unfold encodeChar
  generalize c.toNat = code at hchar hbounds ⊢
  subst hchar
  dsimp only
  by_cases hone : code < 0x80
  · rw [if_pos hone]
    exact decodeFrom_cons bytes (by omega) (lead_one hone)
  rw [if_neg hone]
  by_cases htwo : code < 0x800
  · rw [if_pos htwo]
    refine (decodeFrom_cons _ (by omega)
      (lead_two (Nat.le_of_not_lt hone) htwo)).trans ?_
    exact decodeFrom_one bytes (by omega) (by omega)
  rw [if_neg htwo]
  by_cases hthree : code < 0x10000
  · rw [if_pos hthree]
    refine (decodeFrom_cons _ (by omega) (lead_three hthree)).trans ?_
    apply decodeFrom_two bytes
    · split <;> omega
    · split <;> omega
  · rw [if_neg hthree]
    refine (decodeFrom_cons _ (by omega) (lead_four (by omega))).trans ?_
    apply decodeFrom_three bytes
    · split <;> omega
    · split <;> omega

theorem decode_encode (text : List Char) : decode (encode text) = text := by
  unfold decode encode
  induction text with
  | nil => rfl
  | cons c text ih =>
      rw [List.flatMap_cons, decodeFrom_encodeChar, ih]

/-- Bytes of ASCII characters are well formed. -/
theorem encode_decode_ascii {bytes : List UInt8}
    (hbytes : ∀ byte ∈ bytes, byte.toNat < 0x80) :
    encode (decode bytes) = bytes := by
  unfold encode decode
  induction bytes with
  | nil => rfl
  | cons byte bytes ih =>
      rw [List.forall_mem_cons] at hbytes
      obtain ⟨hbyte, hrest⟩ := hbytes
      have hcode : (Char.ofNat byte.toNat).toNat = byte.toNat := by
        have hvalid : byte.toNat.isValidChar := .inl (by omega)
        rw [Char.ofNat, dif_pos hvalid]
        rfl
      have hchar : encodeChar (Char.ofNat byte.toNat) = [byte] := by
        unfold encodeChar
        rw [hcode]
        dsimp only
        rw [if_pos hbyte, UInt8.ofNat_toNat]
      rw [decodeFrom, lead_one hbyte, List.cons_append, List.nil_append,
        List.flatMap_cons, hchar, ih hrest, List.cons_append, List.nil_append]

theorem encodeChar_ne_nil (c : Char) : encodeChar c ≠ [] := by
  unfold encodeChar
  dsimp only
  split
  · exact List.cons_ne_nil _ _
  split
  · exact List.cons_ne_nil _ _
  split
  · exact List.cons_ne_nil _ _
  · exact List.cons_ne_nil _ _

/-- A character takes a byte at least. -/
theorem length_le_encode (text : List Char) :
    text.length ≤ (encode text).length := by
  induction text with
  | nil => exact Nat.le_refl _
  | cons c text ih =>
      have hpos := List.length_pos_of_ne_nil (encodeChar_ne_nil c)
      simp only [encode, List.flatMap_cons, List.length_append,
        List.length_cons] at ih ⊢
      omega

theorem encode_injective : Function.Injective encode :=
  Function.LeftInverse.injective decode_encode

end Utf8
