/-
Every printed JSON value parses back, whatever follows it, so the text of a
value determines the value.  The induction is on the value; the parser's fuel
is bounded by the number of nodes.
-/
import Mathlib.Data.List.TakeWhile
import Mathlib.Tactic.IntervalCases
import IdProvider.JsonText

namespace JsonText

theorem hexValue?_hexDigit {value : Nat} (hvalue : value < 16) :
    hexValue? (hexDigit value) = some value := by
  interval_cases value <;> rfl

/-- One step of the string parser over an escape sequence. -/
theorem parseChars_escape (letters : List Char) {rest : List Char} {c : Char}
    (fuel : Nat)
    (hescape : parseEscape (letters ++ rest) = some (c, rest)) :
    parseChars (fuel + 1) ('\\' :: letters ++ rest) =
      (parseChars fuel rest).map fun result => (c :: result.1, result.2) := by
  cases hrest : parseChars fuel rest <;>
    simp [parseChars, hescape, hrest]

/-- One step of the string parser over a character that stands for itself. -/
theorem parseChars_plain {c : Char} (fuel : Nat) (rest : List Char)
    (hquote : c ≠ '"') (hslash : c ≠ '\\') (hcontrol : ¬ c.toNat < 32) :
    parseChars (fuel + 1) (c :: rest) =
      (parseChars fuel rest).map fun result => (c :: result.1, result.2) := by
  cases hrest : parseChars fuel rest <;>
    simp [parseChars, hquote, hslash, hcontrol, hrest]

theorem parseEscape_unit {c : Char} (rest : List Char)
    (hcontrol : c.toNat < 32) :
    parseEscape (['u', '0', '0', hexDigit (c.toNat / 16),
      hexDigit (c.toNat % 16)] ++ rest) = some (c, rest) := by
  have hhigh : hexValue? (hexDigit (c.toNat / 16)) = some (c.toNat / 16) :=
    hexValue?_hexDigit (by omega)
  have hlow : hexValue? (hexDigit (c.toNat % 16)) = some (c.toNat % 16) :=
    hexValue?_hexDigit (by omega)
  have hzero : hexValue? '0' = some 0 := rfl
  have hunit : c.toNat / 16 * 16 + c.toNat % 16 = c.toNat := by omega
  have hplain : c.toNat < 0xD800 := by omega
  simp [parseEscape, hexUnit?, hhigh, hlow, hzero, hunit, hplain]

/-- Every escaped character is read back by one step of the string parser. -/
theorem parseChars_escapeChar (fuel : Nat) (c : Char) (rest : List Char) :
    parseChars (fuel + 1) (escapeChar c ++ rest) =
      (parseChars fuel rest).map fun result => (c :: result.1, result.2) := by
  have hnamed (letter : Char) (code : Nat) (hcode : c.toNat = code)
      (hescape : parseEscape (letter :: rest) = some (Char.ofNat code, rest)) :
      parseEscape ([letter] ++ rest) = some (c, rest) := by
    rw [List.singleton_append, hescape, ← hcode, Char.ofNat_toNat]
  unfold escapeChar
  split_ifs with hquote hslash h8 h9 h10 h12 h13 hcontrol
  · subst hquote
    exact parseChars_escape ['"'] fuel rfl
  · subst hslash
    exact parseChars_escape ['\\'] fuel rfl
  · exact parseChars_escape _ fuel (hnamed 'b' 8 h8 rfl)
  · exact parseChars_escape _ fuel (hnamed 't' 9 h9 rfl)
  · exact parseChars_escape _ fuel (hnamed 'n' 10 h10 rfl)
  · exact parseChars_escape _ fuel (hnamed 'f' 12 h12 rfl)
  · exact parseChars_escape _ fuel (hnamed 'r' 13 h13 rfl)
  · exact parseChars_escape _ fuel (parseEscape_unit rest hcontrol)
  · exact parseChars_plain fuel rest hquote hslash hcontrol

theorem parseChars_flatMap_escapeChar (cs rest : List Char) (fuel : Nat)
    (hfuel : cs.length < fuel) :
    parseChars fuel (cs.flatMap escapeChar ++ '"' :: rest) =
      some (cs, rest) := by
  induction cs generalizing fuel with
  | nil =>
      obtain ⟨fuel, rfl⟩ := Nat.exists_eq_add_of_lt hfuel
      simp [parseChars]
  | cons c cs ih =>
      obtain ⟨fuel, rfl⟩ : ∃ n, fuel = n + 1 :=
        Nat.exists_eq_add_one_of_ne_zero (by omega)
      rw [List.flatMap_cons, List.append_assoc, parseChars_escapeChar,
        ih fuel (by simpa using hfuel)]
      rfl

theorem length_le_length_flatMap_escapeChar (cs : List Char) :
    cs.length ≤ (cs.flatMap escapeChar).length := by
  induction cs with
  | nil => simp
  | cons c cs ih =>
      have hone : 1 ≤ (escapeChar c).length := by
        unfold escapeChar
        split_ifs <;> simp
      rw [List.flatMap_cons, List.length_append, List.length_cons]
      omega

theorem parseString_quote (text : String) (rest : List Char) :
    parseString (text.toList.flatMap escapeChar ++ '"' :: rest) =
      some (text, rest) := by
  have hlength := length_le_length_flatMap_escapeChar text.toList
  have hchars := parseChars_flatMap_escapeChar text.toList rest
    ((text.toList.flatMap escapeChar ++ '"' :: rest).length + 1)
    (by simp only [List.length_append, List.length_cons]; omega)
  rw [parseString, hchars]
  simp

/-- What follows a number must not continue it. -/
def Stops (rest : List Char) : Prop :=
  ∀ c ∈ rest.head?, c.isDigit = false ∧ c ≠ '.' ∧ c ≠ 'e' ∧ c ≠ 'E'

theorem takeWhile_digits (digits rest : List Char)
    (hdigits : ∀ c ∈ digits, c.isDigit = true)
    (hrest : ∀ c ∈ rest.head?, c.isDigit = false) :
    (digits ++ rest).takeWhile Char.isDigit = digits ∧
      (digits ++ rest).dropWhile Char.isDigit = rest := by
  have hstop : rest.takeWhile Char.isDigit = [] ∧
      rest.dropWhile Char.isDigit = rest := by
    cases rest with
    | nil => simp
    | cons c rest => simp [hrest c (by simp)]
  constructor
  · rw [List.takeWhile_append_of_pos hdigits, hstop.1, List.append_nil]
  · rw [List.dropWhile_append_of_pos hdigits, hstop.2]

theorem isDigit_of_mem_decimal (value : Nat) {c : Char}
    (hc : c ∈ Nat.toDigits 10 value) : c.isDigit = true :=
  Nat.isDigit_of_mem_toDigits (by decide) (by decide) hc

theorem isDigit_digitChar_fin (digit : Fin 10) :
    digit.val.digitChar.isDigit = true := by
  simp [Nat.isDigit_digitChar]

theorem parseExponent_render (exponent : Option Int) {rest : List Char}
    (hrest : Stops rest) :
    parseExponent (renderExponent exponent ++ rest) =
      some (exponent, rest) := by
  cases exponent with
  | none =>
      cases rest with
      | nil => rfl
      | cons c rest =>
          have hc := hrest c (by simp)
          simp [renderExponent, parseExponent, hc.2.2]
  | some value =>
      have hspan := takeWhile_digits (Nat.toDigits 10 value.natAbs) rest
        (fun c hc => isDigit_of_mem_decimal _ hc)
        (fun c hc => (hrest c hc).1)
      by_cases hneg : value < 0
      · have hvalue : -|value| = value := by rw [abs_of_neg hneg, neg_neg]
        simp [renderExponent, parseExponent, hneg, hspan, hvalue]
      · have hvalue : |value| = value := abs_of_nonneg (by omega)
        simp [renderExponent, parseExponent, hneg, hspan, hvalue]

theorem digitChar_toNat_fin (digit : Fin 10) :
    Fin.ofNat 10 (digit.val.digitChar.toNat - 48) = digit := by
  revert digit
  decide

theorem parseFraction_render (digits : List (Fin 10)) {rest : List Char}
    (hrest : ∀ c ∈ rest.head?, c.isDigit = false ∧ c ≠ '.') :
    parseFraction (renderFraction digits ++ rest) = some (digits, rest) := by
  cases digits with
  | nil =>
      cases rest with
      | nil => rfl
      | cons c rest =>
          have hc := hrest c (by simp)
          simp [renderFraction, parseFraction, hc.2]
  | cons digit digits =>
      have hspan := takeWhile_digits
        ((digit :: digits).map fun digit : Fin 10 => digit.val.digitChar) rest
        (by
          intro c hc
          obtain ⟨digit, _, rfl⟩ := List.mem_map.mp hc
          exact isDigit_digitChar_fin digit)
        (fun c hc => (hrest c hc).1)
      have hread : ((digit :: digits).map fun digit : Fin 10 =>
          digit.val.digitChar).map
            (fun c => Fin.ofNat 10 (c.toNat - 48)) = digit :: digits := by
        rw [List.map_map]
        conv_rhs => rw [← List.map_id (digit :: digits)]
        exact List.map_congr_left fun digit _ => digitChar_toNat_fin digit
      rw [renderFraction, List.cons_append, parseFraction, if_pos rfl, hspan.1,
        hspan.2]
      simp only [hread]
      rfl
      simp

theorem stops_renderExponent (exponent : Option Int) {rest : List Char}
    (hrest : Stops rest) :
    ∀ c ∈ (renderExponent exponent ++ rest).head?,
      c.isDigit = false ∧ c ≠ '.' := by
  cases exponent with
  | none => exact fun c hc => ⟨(hrest c hc).1, (hrest c hc).2.1⟩
  | some value =>
      intro c hc
      simp only [renderExponent, List.cons_append, List.head?_cons,
        Option.mem_def, Option.some.injEq] at hc
      subst hc
      decide

theorem stops_renderFraction (digits : List (Fin 10)) {rest : List Char}
    (hrest : ∀ c ∈ rest.head?, c.isDigit = false ∧ c ≠ '.') :
    ∀ c ∈ (renderFraction digits ++ rest).head?, c.isDigit = false := by
  cases digits with
  | nil => exact fun c hc => (hrest c hc).1
  | cons digit digits =>
      intro c hc
      simp only [renderFraction, List.cons_append, List.head?_cons,
        Option.mem_def, Option.some.injEq] at hc
      subst hc
      decide

/-- The decimal text of a natural number has no leading zero. -/
theorem toDigits_no_leading_zero (value : Nat) :
    ¬ ((Nat.toDigits 10 value).head? = some '0' ∧
      (Nat.toDigits 10 value).tail ≠ []) := by
  induction value using Nat.strong_induction_on with
  | h value ih =>
      by_cases hsmall : value < 10
      · rw [Nat.toDigits_of_lt_base hsmall]
        simp
      · have hpos : 0 < value / 10 := by omega
        have hne : Nat.toDigits 10 (value / 10) ≠ [] := Nat.toDigits_ne_nil
        rw [Nat.toDigits_of_base_le (by decide) (by omega)]
        rintro ⟨hhead, _⟩
        have hhead' : (Nat.toDigits 10 (value / 10)).head? = some '0' := by
          cases hdigits : Nat.toDigits 10 (value / 10) with
          | nil => exact absurd hdigits hne
          | cons c cs => simpa [hdigits] using hhead
        have hsingle : (Nat.toDigits 10 (value / 10)).tail = [] := by
          by_contra htail
          exact ih (value / 10) (by omega) ⟨hhead', htail⟩
        have hdigits : Nat.toDigits 10 (value / 10) = ['0'] := by
          cases hdigits : Nat.toDigits 10 (value / 10) with
          | nil => exact absurd hdigits hne
          | cons c cs =>
              rw [hdigits] at hhead' hsingle
              simp only [List.head?_cons, Option.some.injEq,
                List.tail_cons] at hhead' hsingle
              rw [hhead', hsingle]
        have hzero := congrArg (fun digits => Nat.ofDigitChars 10 digits 0)
          hdigits
        rw [Nat.ofDigitChars_ten_toDigits] at hzero
        simp [Nat.ofDigitChars] at hzero
        omega

theorem parseNumber_render (number : Number) {rest : List Char}
    (hrest : Stops rest) :
    parseNumber (number.render ++ rest) = some (number, rest) := by
  obtain ⟨negative, whole, fraction, exponent⟩ := number
  have hexponent := parseExponent_render exponent hrest
  have hfraction := parseFraction_render fraction
    (stops_renderExponent exponent hrest)
  have hspan := takeWhile_digits (Nat.toDigits 10 whole) _
    (fun c hc => isDigit_of_mem_decimal _ hc)
    (stops_renderFraction fraction (stops_renderExponent exponent hrest))
  have hsign : ((Nat.toDigits 10 whole) ++ (renderFraction fraction ++
      (renderExponent exponent ++ rest))).head? ≠ some '-' := by
    cases hdigits : Nat.toDigits 10 whole with
    | nil => exact absurd hdigits Nat.toDigits_ne_nil
    | cons c cs =>
        have hdigit : c.isDigit = true :=
          isDigit_of_mem_decimal whole (by simp [hdigits])
        intro hhead
        simp only [List.cons_append, List.head?_cons, Option.some.injEq] at hhead
        subst hhead
        simp at hdigit
  have hdigits : ¬ (Nat.toDigits 10 whole = [] ∨
      ((Nat.toDigits 10 whole).head? = some '0' ∧
        (Nat.toDigits 10 whole).tail ≠ [])) := by
    rintro (hnil | hzero)
    · exact Nat.toDigits_ne_nil hnil
    · exact toDigits_no_leading_zero whole hzero
  cases negative with
  | true =>
      simp only [Number.render, ↓reduceIte, List.cons_append, List.nil_append,
        List.append_assoc, parseNumber, List.head?_cons, decide_true,
        List.tail_cons, hspan.1, hspan.2, hdigits]
      simp [hfraction, hexponent]
  | false =>
      simp only [Number.render, Bool.false_eq_true, ↓reduceIte, List.nil_append,
        List.append_assoc, parseNumber, hsign, decide_false, hspan.1, hspan.2,
        hdigits]
      simp [hfraction, hexponent]

/-! The fuel a value needs is its number of nodes, which its text exceeds. -/

mutual

def Json.nodes : Json → Nat
  | .null | .bool _ | .num _ | .str _ => 1
  | .arr [] | .obj [] => 1
  | .arr (item :: items) => 1 + item.nodes + Json.nodesItems items
  | .obj ((_, value) :: fields) => 2 + value.nodes + Json.nodesFields fields

def Json.nodesItems : List Json → Nat
  | [] => 1
  | item :: items => 1 + item.nodes + Json.nodesItems items

def Json.nodesFields : List (String × Json) → Nat
  | [] => 1
  | (_, value) :: fields => 2 + value.nodes + Json.nodesFields fields

end

theorem skipBlanks_of_head {c : Char} {rest : List Char}
    (hc : isBlank c = false) : skipBlanks (c :: rest) = c :: rest := by
  simp [skipBlanks, hc]

theorem Json.nodes_pos (value : Json) : 1 ≤ value.nodes := by
  match value with
  | .null | .bool _ | .num _ | .str _ | .arr [] | .obj [] =>
      simp [Json.nodes]
  | .arr (item :: items) => simp only [Json.nodes]; omega
  | .obj ((name, value) :: fields) => simp only [Json.nodes]; omega

/-- A separator that the printer writes after an item or a field. -/
theorem stops_cons {c : Char} {rest : List Char}
    (hc : c = ',' ∨ c = ']' ∨ c = '}') : Stops (c :: rest) := by
  intro first hfirst
  simp only [List.head?_cons, Option.mem_def, Option.some.injEq] at hfirst
  subst hfirst
  rcases hc with rfl | rfl | rfl <;> decide

theorem stops_renderItems (items : List Json) (rest : List Char) :
    Stops (Json.renderItems items ++ rest) := by
  cases items with
  | nil => exact stops_cons (by simp)
  | cons item items => exact stops_cons (by simp)

theorem stops_renderFields (fields : List (String × Json)) (rest : List Char) :
    Stops (Json.renderFields fields ++ rest) := by
  cases fields with
  | nil => exact stops_cons (by simp)
  | cons field fields => exact stops_cons (by simp)

/-- The first character of a number: a minus sign or a digit. -/
theorem Number.render_cons (number : Number) : ∃ c cs,
    number.render = c :: cs ∧ (c = '-' ∨ c.isDigit = true) := by
  obtain ⟨negative, whole, fraction, exponent⟩ := number
  cases negative with
  | true => exact ⟨'-', _, rfl, Or.inl rfl⟩
  | false =>
      cases hdigits : Nat.toDigits 10 whole with
      | nil => exact absurd hdigits Nat.toDigits_ne_nil
      | cons c cs =>
          have hdigit : c.isDigit = true :=
            isDigit_of_mem_decimal whole (by simp [hdigits])
          exact ⟨c, cs ++ (renderFraction fraction ++ renderExponent exponent),
            by simp [Number.render, hdigits], Or.inr hdigit⟩

/-- A number's first character starts nothing else. -/
theorem number_head {c : Char} (hc : c = '-' ∨ c.isDigit = true) :
    isBlank c = false ∧ c ≠ 'n' ∧ c ≠ 't' ∧ c ≠ 'f' ∧ c ≠ '"' ∧ c ≠ '[' ∧
      c ≠ '{' ∧ c ≠ ']' ∧ c ≠ '}' := by
  rcases hc with rfl | hdigit
  · decide
  · refine ⟨?_, ?_, ?_, ?_, ?_, ?_, ?_, ?_, ?_⟩
    · have hlow : 48 ≤ c.toNat := (Char.isDigit_iff_toNat.mp hdigit).1
      have hspace : c ≠ ' ' := by
        rintro rfl
        simp at hdigit
      simp only [isBlank, hspace, decide_false, Bool.false_or,
        Bool.or_eq_false_iff, decide_eq_false_iff_not]
      omega
    all_goals
      rintro rfl
      simp at hdigit

/-- A printed value starts with a character that closes no container. -/
theorem Json.render_cons (value : Json) : ∃ c cs, value.render = c :: cs ∧
    isBlank c = false ∧ c ≠ ']' ∧ c ≠ '}' := by
  cases value with
  | null => exact ⟨'n', _, rfl, by decide, by decide, by decide⟩
  | bool value =>
      cases value with
      | false => exact ⟨'f', _, rfl, by decide, by decide, by decide⟩
      | true => exact ⟨'t', _, rfl, by decide, by decide, by decide⟩
  | num value =>
      obtain ⟨c, cs, hrender, hc⟩ := value.render_cons
      have hhead := number_head hc
      exact ⟨c, cs, hrender, hhead.1, hhead.2.2.2.2.2.2.2.1,
        hhead.2.2.2.2.2.2.2.2⟩
  | str value => exact ⟨'"', _, rfl, by decide, by decide, by decide⟩
  | arr items =>
      cases items with
      | nil => exact ⟨'[', _, rfl, by decide, by decide, by decide⟩
      | cons item items => exact ⟨'[', _, rfl, by decide, by decide, by decide⟩
  | obj fields =>
      cases fields with
      | nil => exact ⟨'{', _, rfl, by decide, by decide, by decide⟩
      | cons field fields =>
          exact ⟨'{', _, rfl, by decide, by decide, by decide⟩

theorem skipBlanks_render (value : Json) (rest : List Char) :
    skipBlanks (value.render ++ rest) = value.render ++ rest := by
  obtain ⟨c, cs, hrender, hblank, _⟩ := value.render_cons
  rw [hrender]
  exact skipBlanks_of_head hblank

mutual

/-- A printed value parses back, whatever follows it. -/
theorem parseValue_render (value : Json) (fuel : Nat) (rest : List Char)
    (hfuel : value.nodes ≤ fuel) (hrest : Stops rest) :
    parseValue fuel (value.render ++ rest) = some (value, rest) := by
  obtain ⟨fuel, rfl⟩ : ∃ n, fuel = n + 1 :=
    Nat.exists_eq_add_one_of_ne_zero (by have := value.nodes_pos; omega)
  rw [parseValue, skipBlanks_render]
  match value with
  | .null => simp [Json.render, parseKeyword]
  | .bool true => simp [Json.render, parseKeyword]
  | .bool false => simp [Json.render, parseKeyword]
  | .num number =>
      obtain ⟨c, cs, hrender, hc⟩ := number.render_cons
      have hnumber := parseNumber_render number hrest
      have hhead := number_head hc
      rw [hrender, List.cons_append] at hnumber
      simp [Json.render, hrender, hhead, hnumber]
  | .str text =>
      simp [Json.render, quote, parseString_quote]
  | .arr [] => simp [Json.render, skipBlanks, isBlank]
  | .arr (item :: items) =>
      simp only [Json.nodes] at hfuel
      have hitem := parseValue_render item fuel
        (Json.renderItems items ++ rest) (by omega)
        (stops_renderItems items rest)
      have hitems := parseItems_render items fuel rest (by omega)
      have hopen : (skipBlanks (item.render ++
          (Json.renderItems items ++ rest))).head? ≠ some ']' := by
        obtain ⟨c, cs, hrender, _, hclose, _⟩ := item.render_cons
        rw [skipBlanks_render, hrender]
        simpa using hclose
      simp [Json.render, hopen, hitem, hitems]
  | .obj [] => simp [Json.render, skipBlanks, isBlank]
  | .obj ((name, value) :: fields) =>
      simp only [Json.nodes] at hfuel
      have hfield := parseField_render name value fuel
        (Json.renderFields fields ++ rest) (by omega)
        (stops_renderFields fields rest)
      have hfields := parseFields_render fields fuel rest (by omega)
      have hopen : (skipBlanks (quote name ++ ':' :: (value.render ++
          (Json.renderFields fields ++ rest)))).head? ≠ some '}' := by
        simp [quote, skipBlanks, isBlank]
      simp [Json.render, hopen, hfield, hfields]
termination_by fuel

theorem parseItems_render (items : List Json) (fuel : Nat) (rest : List Char)
    (hfuel : Json.nodesItems items ≤ fuel) :
    parseItems fuel (Json.renderItems items ++ rest) = some (items, rest) := by
  match items with
  | [] =>
      obtain ⟨fuel, rfl⟩ : ∃ n, fuel = n + 1 :=
        Nat.exists_eq_add_one_of_ne_zero (by simp [Json.nodesItems] at hfuel; omega)
      simp [parseItems, Json.renderItems, skipBlanks, isBlank]
  | item :: items =>
      simp only [Json.nodesItems] at hfuel
      obtain ⟨fuel, rfl⟩ : ∃ n, fuel = n + 1 :=
        Nat.exists_eq_add_one_of_ne_zero (by omega)
      have hitem := parseValue_render item fuel
        (Json.renderItems items ++ rest) (by omega)
        (stops_renderItems items rest)
      have hitems := parseItems_render items fuel rest (by omega)
      have hcomma : skipBlanks (',' :: (item.render ++
          (Json.renderItems items ++ rest))) =
          ',' :: (item.render ++ (Json.renderItems items ++ rest)) :=
        skipBlanks_of_head rfl
      simp [parseItems, Json.renderItems, hcomma, hitem, hitems]
termination_by fuel

theorem parseField_render (name : String) (value : Json) (fuel : Nat)
    (rest : List Char) (hfuel : value.nodes + 1 ≤ fuel) (hrest : Stops rest) :
    parseField fuel (quote name ++ ':' :: (value.render ++ rest)) =
      some ((name, value), rest) := by
  obtain ⟨fuel, rfl⟩ : ∃ n, fuel = n + 1 :=
    Nat.exists_eq_add_one_of_ne_zero (by omega)
  have hvalue := parseValue_render value fuel rest (by omega) hrest
  have hname := parseString_quote name (':' :: (value.render ++ rest))
  have hquote : skipBlanks ('"' :: (name.toList.flatMap escapeChar ++
      '"' :: ':' :: (value.render ++ rest))) =
      '"' :: (name.toList.flatMap escapeChar ++
        '"' :: ':' :: (value.render ++ rest)) := skipBlanks_of_head rfl
  have hcolon : skipBlanks (':' :: (value.render ++ rest)) =
      ':' :: (value.render ++ rest) := skipBlanks_of_head rfl
  simp [parseField, quote, hquote, hname, hcolon, hvalue]
termination_by fuel

theorem parseFields_render (fields : List (String × Json)) (fuel : Nat)
    (rest : List Char) (hfuel : Json.nodesFields fields ≤ fuel) :
    parseFields fuel (Json.renderFields fields ++ rest) =
      some (fields, rest) := by
  match fields with
  | [] =>
      obtain ⟨fuel, rfl⟩ : ∃ n, fuel = n + 1 :=
        Nat.exists_eq_add_one_of_ne_zero (by simp [Json.nodesFields] at hfuel; omega)
      simp [parseFields, Json.renderFields, skipBlanks, isBlank]
  | (name, value) :: fields =>
      simp only [Json.nodesFields] at hfuel
      obtain ⟨fuel, rfl⟩ : ∃ n, fuel = n + 1 :=
        Nat.exists_eq_add_one_of_ne_zero (by omega)
      have hfield := parseField_render name value fuel
        (Json.renderFields fields ++ rest) (by omega)
        (stops_renderFields fields rest)
      have hfields := parseFields_render fields fuel rest (by omega)
      have hcomma : skipBlanks (',' :: (quote name ++ ':' :: (value.render ++
          (Json.renderFields fields ++ rest)))) =
          ',' :: (quote name ++ ':' :: (value.render ++
            (Json.renderFields fields ++ rest))) := skipBlanks_of_head rfl
      simp [parseFields, Json.renderFields, hcomma, hfield, hfields]
termination_by fuel

end

mutual

/-- Each node of a value prints at least one character. -/
theorem Json.nodes_le_length (value : Json) :
    value.nodes ≤ value.render.length := by
  match value with
  | .null => simp [Json.nodes, Json.render]
  | .bool true => simp [Json.nodes, Json.render]
  | .bool false => simp [Json.nodes, Json.render]
  | .num number =>
      obtain ⟨c, cs, hrender, _⟩ := number.render_cons
      simp [Json.nodes, Json.render, hrender]
  | .str text => simp [Json.nodes, Json.render, quote]
  | .arr [] => simp [Json.nodes, Json.render]
  | .arr (item :: items) =>
      have hitem := Json.nodes_le_length item
      have hitems := Json.nodesItems_le_length items
      simp only [Json.nodes, Json.render, List.length_cons,
        List.length_append]
      omega
  | .obj [] => simp [Json.nodes, Json.render]
  | .obj ((name, value) :: fields) =>
      have hvalue := Json.nodes_le_length value
      have hfields := Json.nodesFields_le_length fields
      simp only [Json.nodes, Json.render, quote,
        List.length_cons, List.length_append]
      omega

theorem Json.nodesItems_le_length (items : List Json) :
    Json.nodesItems items ≤ (Json.renderItems items).length := by
  match items with
  | [] => simp [Json.nodesItems, Json.renderItems]
  | item :: items =>
      have hitem := Json.nodes_le_length item
      have hitems := Json.nodesItems_le_length items
      simp only [Json.nodesItems, Json.renderItems, List.length_cons,
        List.length_append]
      omega

theorem Json.nodesFields_le_length (fields : List (String × Json)) :
    Json.nodesFields fields ≤ (Json.renderFields fields).length := by
  match fields with
  | [] => simp [Json.nodesFields, Json.renderFields]
  | (name, value) :: fields =>
      have hvalue := Json.nodes_le_length value
      have hfields := Json.nodesFields_le_length fields
      simp only [Json.nodesFields, Json.renderFields, quote, List.length_cons,
        List.length_append]
      omega

end

/-- Reading back a printed value gives the value. -/
theorem parse_render (value : Json) : parse value.render = some value := by
  have hstops : Stops [] := by simp [Stops]
  have hlength := value.nodes_le_length
  have hvalue := parseValue_render value (value.render.length + 1)
    [] (by omega) hstops
  rw [List.append_nil] at hvalue
  rw [parse, hvalue, Option.bind_eq_bind, Option.bind_some]
  exact if_pos List.dropWhile_nil

theorem render_injective : Function.Injective Json.render := by
  intro left right heq
  have hparse := parse_render left
  rw [heq, parse_render right] at hparse
  exact (Option.some.inj hparse).symm

end JsonText
