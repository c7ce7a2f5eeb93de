/-
`application/x-www-form-urlencoded`: what is written from a list of pairs is
read as that list.
-/
import IdProvider.Utf8

namespace FormUrlencoded

/-- A name and its value. -/
abbrev Pair : Type := List Char × List Char

/-! ## Writing -/

/-- ASCII letters and digits and `*-._`. -/
def isUnescaped (byte : UInt8) : Bool :=
  (0x30 ≤ byte && byte ≤ 0x39) || (0x41 ≤ byte && byte ≤ 0x5A) ||
    (0x61 ≤ byte && byte ≤ 0x7A) || byte == 0x2A || byte == 0x2D ||
    byte == 0x2E || byte == 0x5F

/-- Upper case letters are written. -/
def hexDigit (value : Nat) : UInt8 :=
  .ofNat (if value < 10 then 0x30 + value else 0x37 + value)

/-- A space is written as a plus; what is neither plain nor a space takes a
percent sign and two digits. -/
def escapeByte (byte : UInt8) : List UInt8 :=
  if byte = 0x20 then [0x2B]
  else if isUnescaped byte then [byte]
  else [0x25, hexDigit (byte.toNat / 16), hexDigit (byte.toNat % 16)]

/-- A name or a value: the UTF-8 bytes of the text, each escaped by itself. -/
def component (text : List Char) : List UInt8 :=
  (Utf8.encode text).flatMap escapeByte

/-- A name and a value with an equals sign between them. -/
def writePair (pair : Pair) : List UInt8 :=
  component pair.1 ++ 0x3D :: component pair.2

/-- The pairs in their order, with ampersands between them. -/
def serialize (pairs : List Pair) : List UInt8 :=
  [0x26].intercalate (pairs.map writePair)

/-! ## Reading -/

/-- Digits are read in upper and in lower case. -/
def hexValue? (byte : UInt8) : Option Nat :=
  let code := byte.toNat
  if 0x30 ≤ code ∧ code ≤ 0x39 then some (code - 0x30)
  else if 0x41 ≤ code ∧ code ≤ 0x46 then some (code - 0x37)
  else if 0x61 ≤ code ∧ code ≤ 0x66 then some (code - 0x57)
  else none

/-- A percent sign without two hexadecimal digits stays. -/
def percentDecode : List UInt8 → List UInt8
  | first :: second :: third :: bytes =>
      if first = 0x25 then
        match hexValue? second, hexValue? third with
        | some high, some low =>
            .ofNat (high * 16 + low) :: percentDecode bytes
        | _, _ => first :: percentDecode (second :: third :: bytes)
      else first :: percentDecode (second :: third :: bytes)
  | bytes => bytes

/-- A plus stands for a space; a plus that is meant is escaped. -/
def plusToSpace (byte : UInt8) : UInt8 := if byte = 0x2B then 0x20 else byte

/-- The text of a component: pluses first, then escapes, then UTF-8. -/
def readComponent (bytes : List UInt8) : List Char :=
  Utf8.decode (percentDecode (bytes.map plusToSpace))

/-- The name ends at the first `=`. -/
def readPair (bytes : List UInt8) : Option Pair :=
  if bytes.isEmpty then none
  else
    some (readComponent (bytes.takeWhile fun byte => byte ≠ 0x3D),
      readComponent ((bytes.dropWhile fun byte => byte ≠ 0x3D).drop 1))

/-- The pairs between the ampersands; what is empty between two of them is no
pair. -/
def parse (bytes : List UInt8) : List Pair :=
  (bytes.splitOn 0x26).filterMap readPair

/-! ## Round trip -/

/-- The code of a written digit. -/
theorem hexDigit_toNat {value : Nat} (hvalue : value < 16) :
    (hexDigit value).toNat = if value < 10 then 0x30 + value
      else 0x37 + value := by
  have hsize : UInt8.size = 256 := rfl
  apply UInt8.toNat_ofNat_of_lt
  split <;> omega

/-- A written digit is read as what it stands for. -/
theorem hexValue?_hexDigit {value : Nat} (hvalue : value < 16) :
    hexValue? (hexDigit value) = some value := by
  unfold hexValue?
  rw [hexDigit_toNat hvalue]
  dsimp only
  split
  case isTrue hsmall =>
    rw [if_pos (by omega), Nat.add_sub_cancel_left]
  case isFalse hlarge =>
    rw [if_neg (by omega), if_pos (by omega), Nat.add_sub_cancel_left]

/-- No digit is one of the bytes below the digits, such as the percent sign and
the ampersand. -/
theorem hexDigit_ne {value : Nat} {byte : UInt8} (hvalue : value < 16)
    (hbyte : byte.toNat < 0x30) : hexDigit value ≠ byte := by
  intro hsame
  have hcode := hexDigit_toNat hvalue
  rw [hsame] at hcode
  split at hcode <;> omega

/-- Bytes that are neither a percent sign nor a plus are read as they are. -/
theorem percentDecode_plain {byte : UInt8} (bytes : List UInt8)
    (hpercent : byte ≠ 0x25) :
    percentDecode (byte :: bytes) = byte :: percentDecode bytes := by
  match bytes with
  | [] => rfl
  | [_] => rfl
  | _ :: _ :: _ => rw [percentDecode, if_neg hpercent]

/-- An escaped byte is read as that byte. -/
theorem percentDecode_escaped (byte : UInt8) (bytes : List UInt8) :
    percentDecode (0x25 :: hexDigit (byte.toNat / 16) ::
      hexDigit (byte.toNat % 16) :: bytes) = byte :: percentDecode bytes := by
  have hbyte := byte.toNat_lt
  have hvalue :
      UInt8.ofNat (byte.toNat / 16 * 16 + byte.toNat % 16) = byte := by
    rw [Nat.div_add_mod', UInt8.ofNat_toNat]
  rw [percentDecode, if_pos rfl, hexValue?_hexDigit (by omega),
    hexValue?_hexDigit (by omega)]
  dsimp only
  rw [hvalue]

/-- A byte that is written as it is, is none of those that have a meaning. -/
theorem isUnescaped_ne {byte other : UInt8} (hbyte : isUnescaped byte = true)
    (hother : isUnescaped other = false) : byte ≠ other := by
  rintro rfl
  rw [hbyte] at hother
  cases hother

/-- However a byte is written, it is read first, and the rest after it. -/
theorem percentDecode_escapeByte (byte : UInt8) (bytes : List UInt8) :
    percentDecode ((escapeByte byte ++ bytes).map plusToSpace) =
      byte :: percentDecode (bytes.map plusToSpace) := by
  have hbyte := byte.toNat_lt
  unfold escapeByte
  split
  case isTrue hspace =>
    subst hspace
    exact percentDecode_plain _ (by decide)
  case isFalse =>
    split
    case isTrue hplain =>
      have hplus : plusToSpace byte = byte :=
        if_neg (isUnescaped_ne hplain (by decide))
      rw [List.cons_append, List.nil_append, List.map_cons, hplus]
      exact percentDecode_plain _ (isUnescaped_ne hplain (by decide))
    case isFalse =>
      have hdigit : ∀ value < 16, plusToSpace (hexDigit value) =
          hexDigit value := fun value hvalue =>
        if_neg (hexDigit_ne hvalue (by decide))
      have hpercent : plusToSpace 0x25 = 0x25 := by decide
      simp only [List.cons_append, List.nil_append, List.map_cons, hpercent]
      rw [hdigit _ (by omega), hdigit _ (by omega)]
      exact percentDecode_escaped byte _

/-- Any text comes back from its component. -/
theorem readComponent_component (text : List Char) :
    readComponent (component text) = text := by
  have hbytes : ∀ bytes : List UInt8,
      percentDecode ((bytes.flatMap escapeByte).map plusToSpace) = bytes := by
    intro bytes
    induction bytes with
    | nil => rfl
    | cons byte bytes ih =>
        rw [List.flatMap_cons, percentDecode_escapeByte, ih]
  rw [readComponent, component, hbytes, Utf8.decode_encode]

/-- Bytes that mean something between the components are escaped in them. -/
theorem not_mem_component {byte : UInt8} (text : List Char)
    (hescaped : isUnescaped byte = false) (hplus : byte ≠ 0x2B)
    (hpercent : byte ≠ 0x25) (hdigit : ∀ value < 16, byte ≠ hexDigit value) :
    byte ∉ component text := by
  intro hmem
  obtain ⟨source, -, hbyte⟩ := List.mem_flatMap.mp hmem
  have hlt := source.toNat_lt
  unfold escapeByte at hbyte
  split at hbyte
  case isTrue => exact hplus (List.mem_singleton.mp hbyte)
  case isFalse =>
    split at hbyte
    case isTrue hplain =>
      rw [List.mem_singleton] at hbyte
      exact isUnescaped_ne hplain hescaped hbyte.symm
    case isFalse =>
      simp only [List.mem_cons, List.not_mem_nil, or_false] at hbyte
      rcases hbyte with hsign | hhigh | hlow
      · exact hpercent hsign
      · exact hdigit _ (by omega) hhigh
      · exact hdigit _ (by omega) hlow

/-- A name ends at the equals sign that follows it, since it has none itself. -/
theorem equals_not_mem_component (text : List Char) :
    0x3D ∉ component text :=
  not_mem_component text (by decide) (by decide) (by decide) (by decide)

/-- A pair ends at the ampersand that follows it, since it has none itself. -/
theorem ampersand_not_mem_component (text : List Char) :
    0x26 ∉ component text :=
  not_mem_component text (by decide) (by decide) (by decide) (by decide)

/-- A component ends no query: the fragment begins at the first number sign. -/
theorem hash_not_mem_component (text : List Char) : 0x23 ∉ component text :=
  not_mem_component text (by decide) (by decide) (by decide) (by decide)

/-- A written pair is read as that pair, also where its name or value is
empty. -/
theorem readPair_writePair (pair : Pair) :
    readPair (writePair pair) = some pair := by
  have hname : ∀ byte ∈ component pair.1, decide (byte ≠ 0x3D) = true := by
    intro byte hbyte
    rw [decide_eq_true_eq]
    rintro rfl
    exact equals_not_mem_component pair.1 hbyte
  have hempty : (writePair pair).isEmpty = false := by simp [writePair]
  rw [readPair, hempty, writePair, List.takeWhile_append_of_pos hname,
    List.dropWhile_append_of_pos hname]
  simp [readComponent_component]

/-- Whatever pairs are written, the same pairs are read, in the same order. -/
theorem parse_serialize (pairs : List Pair) :
    parse (serialize pairs) = pairs := by
  cases pairs with
  | nil => rfl
  | cons pair pairs =>
      have hfree : ∀ bytes ∈ (pair :: pairs).map writePair, 0x26 ∉ bytes := by
        intro bytes hbytes
        obtain ⟨other, -, rfl⟩ := List.mem_map.mp hbytes
        rw [writePair, List.mem_append, List.mem_cons]
        rintro (hname | hequals | hvalue)
        · exact ampersand_not_mem_component other.1 hname
        · exact absurd hequals (by decide)
        · exact ampersand_not_mem_component other.2 hvalue
      rw [parse, serialize, List.splitOn_intercalate _ hfree
        (List.cons_ne_nil _ _), List.filterMap_map]
      have hread : readPair ∘ writePair = some := funext readPair_writePair
      rw [hread, List.filterMap_some]

/-! ## As a text -/

/-- Every byte is a separator or stands in one of the pairs. -/
theorem mem_serialize {byte : UInt8} {pairs : List Pair}
    (hbyte : byte ∈ serialize pairs) :
    byte = 0x26 ∨ ∃ pair ∈ pairs, byte ∈ writePair pair := by
  induction pairs with
  | nil => cases hbyte
  | cons pair pairs ih =>
      cases pairs with
      | nil =>
          rw [serialize, List.map_cons, List.map_nil,
            List.intercalate_singleton] at hbyte
          exact .inr ⟨pair, List.mem_singleton_self pair, hbyte⟩
      | cons next pairs =>
          rw [serialize, List.map_cons, List.map_cons,
            List.intercalate_cons_cons, List.mem_append, List.mem_append,
            List.mem_singleton] at hbyte
          rcases hbyte with (hfirst | hseparator) | hrest
          · exact .inr ⟨pair, List.mem_cons_self, hfirst⟩
          · exact .inl hseparator
          · rcases ih hrest with hseparator | ⟨other, hother, hmem⟩
            · exact .inl hseparator
            · exact .inr ⟨other, List.mem_cons_of_mem _ hother, hmem⟩

/-- The written pairs can be a query: there is no number sign in them. -/
theorem hash_not_mem_serialize (pairs : List Pair) :
    0x23 ∉ serialize pairs := by
  intro hmem
  rcases mem_serialize hmem with hseparator | ⟨pair, -, hpair⟩
  · exact absurd hseparator (by decide)
  · rw [writePair, List.mem_append, List.mem_cons] at hpair
    rcases hpair with hname | hequals | hvalue
    · exact hash_not_mem_component pair.1 hname
    · exact absurd hequals (by decide)
    · exact hash_not_mem_component pair.2 hvalue

/-- Whatever the byte is, what is written for it is ASCII. -/
theorem escapeByte_ascii (byte : UInt8) :
    ∀ written ∈ escapeByte byte, written.toNat < 0x80 := by
  have hlt := byte.toNat_lt
  have hdigit : ∀ value < 16, (hexDigit value).toNat < 0x80 := by
    intro value hvalue
    rw [hexDigit_toNat hvalue]
    split <;> omega
  unfold escapeByte
  split
  case isTrue =>
    intro written hwritten
    rw [List.mem_singleton] at hwritten
    subst hwritten
    decide
  split
  case isTrue hplain =>
    intro written hwritten
    rw [List.mem_singleton] at hwritten
    subst hwritten
    simp only [isUnescaped, Bool.or_eq_true, Bool.and_eq_true,
      decide_eq_true_eq, beq_iff_eq, UInt8.le_iff_toNat_le,
      ← UInt8.toNat_inj] at hplain
    have hcodes : (0x39 : UInt8).toNat = 0x39 ∧ (0x5A : UInt8).toNat = 0x5A ∧
        (0x7A : UInt8).toNat = 0x7A ∧ (0x2A : UInt8).toNat = 0x2A ∧
        (0x2D : UInt8).toNat = 0x2D ∧ (0x2E : UInt8).toNat = 0x2E ∧
        (0x5F : UInt8).toNat = 0x5F := by decide
    omega
  case isFalse =>
    intro written hwritten
    simp only [List.mem_cons, List.not_mem_nil, or_false] at hwritten
    rcases hwritten with rfl | rfl | rfl
    · decide
    · exact hdigit _ (by omega)
    · exact hdigit _ (by omega)

/-- The written pairs are ASCII, so the text of these bytes is the same in
UTF-8. -/
theorem serialize_ascii (pairs : List Pair) :
    ∀ byte ∈ serialize pairs, byte.toNat < 0x80 := by
  have hcomponent : ∀ text, ∀ byte ∈ component text, byte.toNat < 0x80 := by
    intro text byte hbyte
    obtain ⟨source, -, hsource⟩ := List.mem_flatMap.mp hbyte
    exact escapeByte_ascii source byte hsource
  have hpair : ∀ pair, ∀ byte ∈ writePair pair, byte.toNat < 0x80 := by
    intro pair byte hbyte
    rw [writePair, List.mem_append, List.mem_cons] at hbyte
    rcases hbyte with hname | rfl | hvalue
    · exact hcomponent _ byte hname
    · decide
    · exact hcomponent _ byte hvalue
  intro byte hbyte
  rcases mem_serialize hbyte with rfl | ⟨pair, -, hmem⟩
  · decide
  · exact hpair pair byte hmem

/-- The text starts as a name, with an equals sign, or not at all. -/
theorem serialize_head (pairs : List Pair) :
    (serialize pairs).head? ≠ some 0x3F := by
  cases pairs with
  | nil => nofun
  | cons pair pairs =>
      have hstart : ∃ rest, serialize (pair :: pairs) =
          component pair.1 ++ 0x3D :: rest := by
        cases pairs with
        | nil =>
            refine ⟨component pair.2, ?_⟩
            rw [serialize, List.map_cons, List.map_nil,
              List.intercalate_singleton, writePair]
        | cons next pairs =>
            refine ⟨component pair.2 ++ ([0x26] ++
              [0x26].intercalate ((next :: pairs).map writePair)), ?_⟩
            rw [serialize, List.map_cons, List.map_cons,
              List.intercalate_cons_cons, writePair]
            simp
      obtain ⟨rest, hrest⟩ := hstart
      have hmark : 0x3F ∉ component pair.1 :=
        not_mem_component _ (by decide) (by decide) (by decide) (by decide)
      rw [hrest]
      cases hname : component pair.1 with
      | nil => simp
      | cons byte bytes =>
          rw [hname, List.mem_cons, not_or] at hmark
          exact fun hhead => hmark.1 (Option.some.inj hhead).symm

end FormUrlencoded
