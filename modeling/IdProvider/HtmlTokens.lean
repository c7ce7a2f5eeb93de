/-
The tokens of an HTML page, for the part of the syntax that plain pages use:
the reader stops at what it does not know.  Text in which the special
characters are escaped is read as that text, wherever it stands.
-/
import Mathlib.Data.List.Basic
import Mathlib.Tactic.Common

namespace HtmlTokens

structure Tag where
  name : List Char
  attributes : List (List Char × List Char)
  deriving DecidableEq

inductive Token where
  | doctype (text : List Char)
  | startTag (tag : Tag)
  | endTag (name : List Char)
  | char (c : Char)
  deriving DecidableEq

/-- Where the reader stands; a tag is a start tag or an end tag. -/
inductive State where
  | data
  | reference (name : List Char)
  | tagOpen
  | declaration (text : List Char)
  | tagName (isEnd : Bool) (name : List Char)
  | inTag (isEnd : Bool) (tag : Tag)
  | attributeName (isEnd : Bool) (tag : Tag) (name : List Char)
  | attributeStart (isEnd : Bool) (tag : Tag) (name : List Char)
  | attributeValue (isEnd : Bool) (tag : Tag) (name value : List Char)
  | valueReference (isEnd : Bool) (tag : Tag) (name value : List Char)
      (reference : List Char)
  | afterValue (isEnd : Bool) (tag : Tag)
  | selfClosing (isEnd : Bool) (tag : Tag)
  | rawText (element : List Char)
  | rawEnd (element seen : List Char)
  deriving DecidableEq

/-! ## Reading -/

/-- The newlines of the input, before anything else. -/
def normalizeNewlines : List Char → List Char
  | '\r' :: '\n' :: text => '\n' :: normalizeNewlines text
  | '\r' :: text => '\n' :: normalizeNewlines text
  | c :: text => c :: normalizeNewlines text
  | [] => []

def isSpace (c : Char) : Bool :=
  c == ' ' || c == '\n' || c == '\t' || c == Char.ofNat 12

/-- The references that the reader knows, without the semicolon. -/
def resolve (name : List Char) : Option Char :=
  if name = ['a', 'm', 'p'] then some '&'
  else if name = ['l', 't'] then some '<'
  else if name = ['g', 't'] then some '>'
  else if name = ['q', 'u', 'o', 't'] then some '"'
  else if name = ['#', '3', '9'] then some (Char.ofNat 39)
  else none

/-- An attribute that the tag has already is dropped. -/
def Tag.add (tag : Tag) (name value : List Char) : Tag :=
  if tag.attributes.any fun other => other.1 == name then tag
  else { tag with attributes := tag.attributes ++ [(name, value)] }

/-- The text of these elements goes up to their end tag. -/
def isRaw (name : List Char) : Bool :=
  name == ['s', 't', 'y', 'l', 'e'] || name == ['t', 'i', 't', 'l', 'e']

/-- The tag is complete; scripts and text areas are not read. -/
def finish (isEnd : Bool) (tag : Tag) : Option (List Token × State) :=
  if isEnd then some ([.endTag tag.name], .data)
  else if tag.name = ['s', 'c', 'r', 'i', 'p', 't'] ∨
      tag.name = ['t', 'e', 'x', 't', 'a', 'r', 'e', 'a'] then none
  else if isRaw tag.name then some ([.startTag tag], .rawText tag.name)
  else some ([.startTag tag], .data)

/-- In an attribute a null character is replaced. -/
def valueChar (c : Char) : Char :=
  if c = Char.ofNat 0 then Char.ofNat 0xFFFD else c

def goes (state : State) : Option (List Token × State) := some ([], state)

/-- One character more, and what stands between attributes. -/
def stepInTag (isEnd : Bool) (tag : Tag) (c : Char) :
    Option (List Token × State) :=
  if isSpace c then goes (.inTag isEnd tag)
  else if c = '/' then goes (.selfClosing isEnd tag)
  else if c = '>' then finish isEnd tag
  else if c.isAlpha then goes (.attributeName isEnd tag [c.toLower])
  else none

def step : State → Char → Option (List Token × State)
  | .data, c =>
      if c = '<' then goes .tagOpen
      else if c = '&' then goes (.reference [])
      else some ([.char c], .data)
  | .reference name, c =>
      if c = ';' then (resolve name).map fun c => ([.char c], .data)
      else goes (.reference (name ++ [c]))
  | .tagOpen, c =>
      if c = '!' then goes (.declaration [])
      else if c = '/' then goes (.tagName true [])
      else if c.isAlpha then goes (.tagName false [c.toLower])
      else none
  | .declaration text, c =>
      if c = '>' then
        if (text.take 8).map Char.toLower =
            ['d', 'o', 'c', 't', 'y', 'p', 'e', ' '] then
          some ([.doctype (text.drop 8)], .data)
        else none
      else goes (.declaration (text ++ [c]))
  | .tagName isEnd name, c =>
      if c.isAlphanum then goes (.tagName isEnd (name ++ [c.toLower]))
      else if name = [] then none
      else stepInTag isEnd ⟨name, []⟩ c
  | .inTag isEnd tag, c => stepInTag isEnd tag c
  | .attributeName isEnd tag name, c =>
      if c = '=' then goes (.attributeStart isEnd tag name)
      else if c.isAlphanum || c == '-' then
        goes (.attributeName isEnd tag (name ++ [c.toLower]))
      else stepInTag isEnd (tag.add name []) c
  | .attributeStart isEnd tag name, c =>
      if c = '"' then goes (.attributeValue isEnd tag name []) else none
  | .attributeValue isEnd tag name value, c =>
      if c = '"' then goes (.afterValue isEnd (tag.add name value))
      else if c = '&' then goes (.valueReference isEnd tag name value [])
      else goes (.attributeValue isEnd tag name (value ++ [valueChar c]))
  | .valueReference isEnd tag name value reference, c =>
      if c = ';' then (resolve reference).bind fun c =>
        goes (.attributeValue isEnd tag name (value ++ [c]))
      else goes (.valueReference isEnd tag name value (reference ++ [c]))
  | .afterValue isEnd tag, c =>
      if c.isAlpha then none else stepInTag isEnd tag c
  | .selfClosing isEnd tag, c => if c = '>' then finish isEnd tag else none
  | .rawText element, c =>
      if c = '<' then goes (.rawEnd element [])
      else if c = '&' then none
      else some ([.char c], .rawText element)
  | .rawEnd element seen, c =>
      if c = '>' then
        if seen = '/' :: element then some ([.endTag element], .data)
        else none
      else goes (.rawEnd element (seen ++ [c]))

def run : State → List Char → Option (List Token × State)
  | state, [] => some ([], state)
  | state, c :: text =>
      (step state c).bind fun first =>
        (run first.2 text).map fun rest => (first.1 ++ rest.1, rest.2)

/-- The tokens of a page that ends in its text. -/
def tokenize (page : List Char) : Option (List Token) :=
  match run .data (normalizeNewlines page) with
  | some (tokens, .data) => some tokens
  | _ => none

theorem run_append {state middle last : State} {first second : List Char}
    {tokens more : List Token}
    (hfirst : run state first = some (tokens, middle))
    (hsecond : run middle second = some (more, last)) :
    run state (first ++ second) = some (tokens ++ more, last) := by
  induction first generalizing state tokens with
  | nil =>
      cases hfirst
      exact hsecond
  | cons c first ih =>
      rw [run, Option.bind_eq_some_iff] at hfirst
      obtain ⟨⟨begun, next⟩, hstep, hrest⟩ := hfirst
      rw [Option.map_eq_some_iff] at hrest
      obtain ⟨⟨rest, final⟩, hrun, hpair⟩ := hrest
      cases hpair
      rw [List.cons_append, run, hstep, Option.bind_some, ih hrun,
        Option.map_some, List.append_assoc]

/-- The text of a raw element. -/
theorem run_rawText {element chars : List Char}
    (hchars : (chars.all fun c => c != '<' && c != '&') = true) :
    run (.rawText element) chars =
      some (chars.map .char, .rawText element) := by
  induction chars with
  | nil => rfl
  | cons c chars ih =>
      rw [List.all_cons, Bool.and_eq_true, Bool.and_eq_true, bne_iff_ne,
        bne_iff_ne] at hchars
      obtain ⟨⟨hless, hamp⟩, hrest⟩ := hchars
      rw [run, step, if_neg hless, if_neg hamp, Option.bind_some, ih hrest]
      rfl

/-! ## Escaped text -/

def escapeChar (c : Char) : List Char :=
  if c = '&' then ['&', 'a', 'm', 'p', ';']
  else if c = '<' then ['&', 'l', 't', ';']
  else if c = '>' then ['&', 'g', 't', ';']
  else if c = '"' then ['&', 'q', 'u', 'o', 't', ';']
  else if c = Char.ofNat 39 then ['&', '#', '3', '9', ';']
  else [c]

def escape (text : List Char) : List Char := text.flatMap escapeChar

def text (chars : List Char) : List Token := chars.map .char

theorem run_data_escapeChar (c : Char) :
    run .data (escapeChar c) = some ([.char c], .data) := by
  unfold escapeChar
  split
  case isTrue h => subst h; decide
  split
  case isTrue h => subst h; decide
  split
  case isTrue h => subst h; decide
  split
  case isTrue h => subst h; decide
  split
  case isTrue h => subst h; decide
  case isFalse hamp hlt _ _ _ =>
    simp [run, step, hamp, hlt]

theorem run_data_escape (chars : List Char) :
    run .data (escape chars) = some (text chars, .data) := by
  induction chars with
  | nil => rfl
  | cons c chars ih =>
      exact run_append (run_data_escapeChar c) ih

theorem run_value_escapeChar (isEnd : Bool) (tag : Tag)
    (name value : List Char) (c : Char) :
    run (.attributeValue isEnd tag name value) (escapeChar c) =
      some ([], .attributeValue isEnd tag name (value ++ [valueChar c])) := by
  unfold escapeChar
  split
  case isTrue h => subst h; rfl
  split
  case isTrue h => subst h; rfl
  split
  case isTrue h => subst h; rfl
  split
  case isTrue h => subst h; rfl
  split
  case isTrue h => subst h; rfl
  case isFalse hamp _ _ hquot _ =>
    simp [run, step, goes, hamp, hquot]

theorem run_value_escape (isEnd : Bool) (tag : Tag) (name value : List Char)
    (chars : List Char) :
    run (.attributeValue isEnd tag name value) (escape chars) =
      some ([], .attributeValue isEnd tag name
        (value ++ chars.map valueChar)) := by
  induction chars generalizing value with
  | nil =>
      rw [List.map_nil, List.append_nil]
      rfl
  | cons c chars ih =>
      have hrest := ih (value ++ [valueChar c])
      rw [List.append_assoc] at hrest
      exact run_append (run_value_escapeChar isEnd tag name value c) hrest

/-- The end of a tag whose last attribute is a value. -/
theorem run_value_close {tag closed : Tag} {name value : List Char}
    {next : List Token × State} (hadd : tag.add name value = closed)
    (hfinish : finish false closed = some next) :
    run (.attributeValue false tag name value) ['"', '>'] = some next := by
  simp [run, step, stepInTag, goes, isSpace, hadd, hfinish]

theorem run_value_selfClose {tag closed : Tag} {name value : List Char}
    {next : List Token × State} (hadd : tag.add name value = closed)
    (hfinish : finish false closed = some next) :
    run (.attributeValue false tag name value) ['"', ' ', '/', '>'] =
      some next := by
  simp [run, step, stepInTag, goes, isSpace, hadd, hfinish]

/-! ## Newlines -/

theorem normalizeNewlines_cons {c : Char} (chars : List Char)
    (hc : c ≠ '\r') :
    normalizeNewlines (c :: chars) = c :: normalizeNewlines chars := by
  rw [normalizeNewlines.eq_def]
  split
  case h_1 hcons => cases hcons; exact absurd rfl hc
  case h_2 hcons => cases hcons; exact absurd rfl hc
  case h_3 hcons => cases hcons; rfl
  case h_4 hcons => cases hcons

theorem normalizeNewlines_return {chars : List Char}
    (hchars : chars.head? ≠ some '\n') :
    normalizeNewlines ('\r' :: chars) = '\n' :: normalizeNewlines chars := by
  cases chars with
  | nil => rfl
  | cons c chars =>
      rw [normalizeNewlines]
      rintro rest hcons
      cases hcons
      exact hchars rfl

/-- Before a text without carriage returns nothing changes. -/
theorem normalizeNewlines_plain {first : List Char} (hfirst : '\r' ∉ first)
    (second : List Char) :
    normalizeNewlines (first ++ second) =
      first ++ normalizeNewlines second := by
  induction first with
  | nil => rfl
  | cons c first ih =>
      rw [List.mem_cons, not_or] at hfirst
      rw [List.cons_append, normalizeNewlines_cons _ (Ne.symm hfirst.1),
        ih hfirst.2, List.cons_append]

theorem return_not_mem_escapeChar {c : Char} (hc : c ≠ '\r') :
    '\r' ∉ escapeChar c := by
  unfold escapeChar
  split
  · decide
  split
  · decide
  split
  · decide
  split
  · decide
  split
  · decide
  · rw [List.mem_singleton]
    exact Ne.symm hc

theorem head_escapeChar {c : Char} (hc : c ≠ '\n') :
    ∃ first tail, escapeChar c = first :: tail ∧ first ≠ '\n' := by
  unfold escapeChar
  split
  · exact ⟨'&', _, rfl, by decide⟩
  split
  · exact ⟨'&', _, rfl, by decide⟩
  split
  · exact ⟨'&', _, rfl, by decide⟩
  split
  · exact ⟨'&', _, rfl, by decide⟩
  split
  · exact ⟨'&', _, rfl, by decide⟩
  · exact ⟨c, [], rfl, hc⟩

theorem head?_escape_append {chars rest : List Char}
    (hchars : chars.head? ≠ some '\n') (hrest : rest.head? ≠ some '\n') :
    (escape chars ++ rest).head? ≠ some '\n' := by
  cases chars with
  | nil => exact hrest
  | cons c chars =>
      have hc : c ≠ '\n' := by
        rintro rfl
        exact hchars rfl
      obtain ⟨first, tail, hescape, hfirst⟩ := head_escapeChar hc
      rw [escape, List.flatMap_cons, hescape]
      exact fun hhead => hfirst (Option.some.inj hhead)

/-- Escaping leaves the line breaks where they are. -/
theorem normalizeNewlines_escape (chars : List Char) {rest : List Char}
    (hrest : rest.head? ≠ some '\n') :
    normalizeNewlines (escape chars ++ rest) =
      escape (normalizeNewlines chars) ++ normalizeNewlines rest := by
  induction chars using normalizeNewlines.induct with
  | case1 chars ih =>
      have hbreak : escape ('\r' :: '\n' :: chars) =
          '\r' :: '\n' :: escape chars := rfl
      rw [hbreak, List.cons_append, List.cons_append, normalizeNewlines, ih,
        normalizeNewlines]
      rfl
  | case2 chars hnext ih =>
      have hchars : chars.head? ≠ some '\n' := by
        cases chars with
        | nil => nofun
        | cons c chars =>
            rintro hhead
            cases hhead
            exact hnext chars rfl
      have hbreak : escape ('\r' :: chars) = '\r' :: escape chars := rfl
      rw [hbreak, List.cons_append, normalizeNewlines_return
        (head?_escape_append hchars hrest), ih, normalizeNewlines_return hchars]
      rfl
  | case3 c chars hbreak hreturn ih =>
      have hc : c ≠ '\r' := by
        rintro rfl
        exact hreturn rfl
      have hcons : ∀ others, escape (c :: others) =
          escapeChar c ++ escape others := fun _ => rfl
      rw [normalizeNewlines_cons chars hc, hcons, hcons, List.append_assoc,
        normalizeNewlines_plain (return_not_mem_escapeChar hc), ih,
        List.append_assoc]
  | case4 => rfl

/-! ## Templates -/

/-- A piece of a template: a text of its own, or a value that is escaped. -/
inductive Piece where
  | fixed (chars : List Char)
  | value (chars : List Char)

def Piece.render : Piece → List Char
  | .fixed chars => chars
  | .value chars => escape chars

def render (pieces : List Piece) : List Char := pieces.flatMap Piece.render

/-- The pieces' own texts do not touch a line break of a value. -/
def Fits : List Piece → Prop
  | [] => True
  | .fixed chars :: pieces => '\r' ∉ chars ∧ Fits pieces
  | .value _ :: pieces => (render pieces).head? ≠ some '\n' ∧ Fits pieces

/-- Something other than a line break comes first. -/
def beginsInLine : List Char → Bool
  | [] => false
  | c :: _ => c != '\n'

theorem fits_value {chars following : List Char} {pieces : List Piece}
    (hfollowing : beginsInLine following = true)
    (hrest : Fits (.fixed following :: pieces)) :
    Fits (.value chars :: .fixed following :: pieces) := by
  refine ⟨?_, hrest⟩
  cases following with
  | nil => cases hfollowing
  | cons c following =>
      rintro hhead
      cases hhead
      cases hfollowing

/-- How the pieces are read: the values as they are, in the text or in an
attribute. -/
def scan : State → List Piece → Option (List Token × State)
  | state, [] => some ([], state)
  | state, .fixed chars :: pieces =>
      (run state chars).bind fun first =>
        (scan first.2 pieces).map fun rest => (first.1 ++ rest.1, rest.2)
  | .data, .value chars :: pieces =>
      (scan .data pieces).map fun rest =>
        (text (normalizeNewlines chars) ++ rest.1, rest.2)
  | .attributeValue isEnd tag name value, .value chars :: pieces =>
      scan (.attributeValue isEnd tag name
        (value ++ (normalizeNewlines chars).map valueChar)) pieces
  | _, .value _ :: _ => none

section Scan

variable {state next last : State} {chars : List Char} {pieces : List Piece}
  {tokens more : List Token}

theorem scan_fixed (hrun : run state chars = some (tokens, next))
    (hrest : scan next pieces = some (more, last)) :
    scan state (.fixed chars :: pieces) = some (tokens ++ more, last) := by
  rw [scan, hrun, Option.bind_some, hrest, Option.map_some]

theorem scan_text (hrest : scan .data pieces = some (more, last)) :
    scan .data (.value chars :: pieces) =
      some (text (normalizeNewlines chars) ++ more, last) := by
  rw [scan, hrest, Option.map_some]

theorem scan_value {isEnd : Bool} {tag : Tag} {name value : List Char}
    {read : List Token × State}
    (hrest : scan (.attributeValue isEnd tag name
      (value ++ (normalizeNewlines chars).map valueChar)) pieces = some read) :
    scan (.attributeValue isEnd tag name value) (.value chars :: pieces) =
      some read := by
  rw [scan, hrest]

end Scan

/-- Values cannot get out of where they stand. -/
theorem run_render {state : State} {pieces : List Piece}
    {read : List Token × State} (hfits : Fits pieces)
    (hscan : scan state pieces = some read) :
    run state (normalizeNewlines (render pieces)) = some read := by
  induction pieces generalizing state read with
  | nil =>
      cases hscan
      rfl
  | cons piece pieces ih =>
      have hrender : render (piece :: pieces) =
          piece.render ++ render pieces := rfl
      rw [hrender]
      cases piece with
      | fixed chars =>
          obtain ⟨hchars, hrest⟩ := hfits
          rw [scan, Option.bind_eq_some_iff] at hscan
          obtain ⟨⟨first, middle⟩, hfirst, hscan⟩ := hscan
          rw [Option.map_eq_some_iff] at hscan
          obtain ⟨⟨more, last⟩, hmore, rfl⟩ := hscan
          rw [Piece.render, normalizeNewlines_plain hchars]
          exact run_append hfirst (ih hrest hmore)
      | value chars =>
          obtain ⟨hnext, hrest⟩ := hfits
          rw [Piece.render, normalizeNewlines_escape chars hnext]
          cases state with
          | data =>
              rw [scan, Option.map_eq_some_iff] at hscan
              obtain ⟨⟨more, last⟩, hmore, rfl⟩ := hscan
              exact run_append (run_data_escape _) (ih hrest hmore)
          | attributeValue isEnd tag name value =>
              rw [scan] at hscan
              exact run_append (run_value_escape isEnd tag name value _)
                (ih hrest hscan)
          | _ => cases hscan

theorem tokenize_render {pieces : List Piece} {tokens : List Token}
    (hfits : Fits pieces) (hscan : scan .data pieces = some (tokens, .data)) :
    tokenize (render pieces) = some tokens := by
  rw [tokenize, run_render hfits hscan]

end HtmlTokens
