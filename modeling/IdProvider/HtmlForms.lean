/-
What a browser sends when the first form of a page is submitted: the hidden
fields as they are in the page, the others with what was typed, after the
browser has stripped it as the type of the field says.
-/
import IdProvider.FormUrlencoded
import IdProvider.HtmlTokens
import Mathlib.Data.List.DropRight

namespace HtmlForms

open HtmlTokens

/-- Where a form is sent, and the pairs that are sent in its body, in the order
of the fields. -/
structure Submission where
  action : List Char
  entries : List FormUrlencoded.Pair

/-- The value of an attribute, the empty one where the tag has no such
attribute. -/
def valueOf (tag : Tag) (name : List Char) : List Char :=
  ((tag.attributes.find? fun pair => pair.1 == name).map Prod.snd).getD []

/-- Line breaks are sent as a return and a newline. -/
def crlf (value : List Char) : List Char :=
  (normalizeNewlines value).flatMap fun c =>
    if c = '\n' then ['\r', '\n'] else [c]

/-- Fields of one line lose their line breaks. -/
def stripNewlines (value : List Char) : List Char :=
  value.filter fun c => c != '\r' && c != '\n'

/-- White space goes at both ends only. -/
def stripSpace (value : List Char) : List Char :=
  (value.dropWhile isSpace).rdropWhile isSpace

/-- The value that a field keeps of what is put into it.  Passwords and fields
without a type lose their line breaks; an email address also loses the white
space around it. -/
def sanitized (type value : List Char) : List Char :=
  if type = ['e', 'm', 'a', 'i', 'l'] then stripSpace (stripNewlines value)
  else stripNewlines value

/-- Fields are hidden or lines of text.  A field or a button without a name
sends nothing. -/
def fieldEntry (typed : List Char → List Char) :
    Token → Option FormUrlencoded.Pair
  | .startTag tag =>
      let name := valueOf tag ['n', 'a', 'm', 'e']
      let type := valueOf tag ['t', 'y', 'p', 'e']
      if tag.name = ['i', 'n', 'p', 'u', 't'] ∧ name ≠ [] then
        if type = ['h', 'i', 'd', 'd', 'e', 'n'] then
          some (crlf name, crlf (valueOf tag ['v', 'a', 'l', 'u', 'e']))
        else some (crlf name, crlf (sanitized type (typed name)))
      else none
  | _ => none

/-- The name of the element. -/
def form : List Char := ['f', 'o', 'r', 'm']

/-- The tag that a form begins with; forms do not nest. -/
def startsForm : Token → Bool
  | .startTag tag => tag.name == form
  | _ => false

/-- The tag that a form ends with. -/
def endsForm : Token → Bool
  | .endTag name => name == form
  | _ => false

/-- What submitting the first form of a page sends, where `typed` gives what was
typed into the field of a name. -/
def submission (typed : List Char → List Char) (page : List Token) :
    Option Submission :=
  match page.dropWhile fun token => !startsForm token with
  | .startTag tag :: rest =>
      some
        { action := valueOf tag ['a', 'c', 't', 'i', 'o', 'n']
          entries := (rest.takeWhile fun token => !endsForm token).filterMap
            (fieldEntry typed) }
  | _ => none

/-! ## Reading a form off a page -/

variable (typed : List Char → List Char)

/-- No form begins in a text, whatever its characters are. -/
theorem startsForm_text (chars : List Char) :
    (text chars).any startsForm = false := by
  induction chars with
  | nil => rfl
  | cons c chars ih => exact ih

/-- A page whose first form stands between its tags sends the fields that are in
between. -/
theorem submission_page {before fields after : List Token} {tag : Tag}
    (hbefore : before.any startsForm = false) (htag : tag.name = form)
    (hfields : fields.any endsForm = false) :
    submission typed
      (before ++ .startTag tag :: (fields ++ .endTag form :: after)) =
        some
          { action := valueOf tag ['a', 'c', 't', 'i', 'o', 'n']
            entries := fields.filterMap (fieldEntry typed) } := by
  have hskip : ∀ token ∈ before, (!startsForm token) = true := by
    rw [List.any_eq_false] at hbefore
    intro token htoken
    simpa using hbefore token htoken
  have hkeep : ∀ token ∈ fields, (!endsForm token) = true := by
    rw [List.any_eq_false] at hfields
    intro token htoken
    simpa using hfields token htoken
  have hstart : (!startsForm (.startTag tag)) = false := by
    simp [startsForm, htag]
  have hend : (!endsForm (.endTag form)) = false := by decide
  have hrest : (fields ++ .endTag form :: after).takeWhile
      (fun token => !endsForm token) = fields := by
    rw [List.takeWhile_append_of_pos hkeep, List.takeWhile_cons_of_neg,
      List.append_nil]
    rw [hend]
    exact Bool.false_ne_true
  rw [submission, List.dropWhile_append_of_pos hskip,
    List.dropWhile_cons_of_neg (by rw [hstart]; exact Bool.false_ne_true)]
  dsimp only
  rw [hrest]

/-! ## Lines -/

/-- A value of one line. -/
def IsLine (value : List Char) : Prop := '\r' ∉ value ∧ '\n' ∉ value

instance (value : List Char) : Decidable (IsLine value) :=
  inferInstanceAs (Decidable (_ ∧ _))

/-- A value of one line is sent as it is: there is no line break to rewrite. -/
theorem crlf_line {value : List Char} (hvalue : IsLine value) :
    crlf value = value := by
  obtain ⟨hreturn, hnewline⟩ := hvalue
  have hplain : normalizeNewlines value = value := by
    have hsame := normalizeNewlines_plain hreturn []
    rwa [List.append_nil, normalizeNewlines, List.append_nil] at hsame
  rw [crlf, hplain]
  clear hreturn hplain
  induction value with
  | nil => rfl
  | cons c value ih =>
      rw [List.mem_cons, not_or] at hnewline
      rw [List.flatMap_cons, if_neg (Ne.symm hnewline.1), ih hnewline.2,
        List.singleton_append]

/-! ## What fields keep -/

/-- The characters that are left are those that break no line. -/
theorem mem_stripNewlines {value : List Char} {c : Char} :
    c ∈ stripNewlines value ↔ c ∈ value ∧ c ≠ '\r' ∧ c ≠ '\n' := by
  rw [stripNewlines, List.mem_filter, Bool.and_eq_true, bne_iff_ne, bne_iff_ne]

/-- Stripping adds no character. -/
theorem stripSpace_subset (value : List Char) : stripSpace value ⊆ value := by
  intro c hc
  have hshorter := List.rdropWhile_prefix isSpace (value.dropWhile isSpace)
  have hsuffix := List.dropWhile_suffix (l := value) isSpace
  exact hsuffix.subset (hshorter.subset hc)

/-- Every field is a line when it is sent. -/
theorem isLine_sanitized (type value : List Char) :
    IsLine (sanitized type value) := by
  have hstripped : ∀ c ∈ sanitized type value, c ∈ stripNewlines value := by
    intro c hc
    rw [sanitized] at hc
    split at hc
    case isTrue => exact stripSpace_subset _ hc
    case isFalse => exact hc
  exact ⟨fun hreturn =>
      (mem_stripNewlines.mp (hstripped _ hreturn)).2.1 rfl,
    fun hnewline => (mem_stripNewlines.mp (hstripped _ hnewline)).2.2 rfl⟩

/-- A line has nothing to lose. -/
theorem stripNewlines_line {value : List Char} (hvalue : IsLine value) :
    stripNewlines value = value := by
  rw [stripNewlines, List.filter_eq_self]
  intro c hc
  rw [Bool.and_eq_true, bne_iff_ne, bne_iff_ne]
  exact ⟨fun hreturn => hvalue.1 (hreturn ▸ hc),
    fun hnewline => hvalue.2 (hnewline ▸ hc)⟩

/-- No white space at either end. -/
structure IsTrimmed (value : List Char) : Prop where
  first : ∀ c ∈ value.head?, isSpace c = false
  last : ∀ c ∈ value.getLast?, isSpace c = false

/-- A value with other characters at its ends stays whole; white space within it
does not matter. -/
theorem stripSpace_trimmed {value : List Char} (htrimmed : IsTrimmed value) :
    stripSpace value = value := by
  have hdrop : value.dropWhile isSpace = value := by
    cases value with
    | nil => rfl
    | cons c value =>
        have hfirst := htrimmed.first c rfl
        rw [List.dropWhile_cons_of_neg (by rw [hfirst]; exact nofun)]
  rw [stripSpace, hdrop, List.rdropWhile_eq_self_iff]
  intro hne hspace
  have hlast := htrimmed.last _ (List.getLast?_eq_some_getLast hne)
  rw [hspace] at hlast
  cases hlast

/-- A line that stands free of white space is kept as it is. -/
theorem sanitized_eq_self {type value : List Char} (hline : IsLine value)
    (htrimmed : type = ['e', 'm', 'a', 'i', 'l'] → IsTrimmed value) :
    sanitized type value = value := by
  rw [sanitized, stripNewlines_line hline]
  split
  case isTrue hemail => exact stripSpace_trimmed (htrimmed hemail)
  case isFalse => rfl

end HtmlForms
