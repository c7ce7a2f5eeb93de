/-
The rendering of templates, and the records for which it replaces the
placeholders of every template by the values of the record.
-/
import IdProvider.Placeholders

namespace IdProvider

open Placeholders

/-! ## `String.prototype.replaceAll` with a text -/

def graveAccent : Char := Char.ofNat 0x60

def apostrophe : Char := Char.ofNat 0x27

/-- What the replacement text stands for at a match. -/
def getSubstitution (matched before after : List Char) :
    List Char → List Char
  | '$' :: c :: rest =>
      if c = '$' then '$' :: getSubstitution matched before after rest
      else if c = '&' then matched ++ getSubstitution matched before after rest
      else if c = graveAccent then
        before ++ getSubstitution matched before after rest
      else if c = apostrophe then
        after ++ getSubstitution matched before after rest
      else '$' :: getSubstitution matched before after (c :: rest)
  | c :: rest => c :: getSubstitution matched before after rest
  | [] => []

/-- `before` has been read, and `skip` more characters belong to a match. -/
def replaceFrom (pattern replacement : List Char) :
    List Char → Nat → List Char → List Char
  | _, _, [] => []
  | before, skip + 1, c :: rest =>
      replaceFrom pattern replacement (before ++ [c]) skip rest
  | before, 0, c :: rest =>
      if pattern.isPrefixOf (c :: rest) then
        getSubstitution pattern before ((c :: rest).drop pattern.length)
            replacement ++
          replaceFrom pattern replacement (before ++ [c]) (pattern.length - 1)
            rest
      else c :: replaceFrom pattern replacement (before ++ [c]) 0 rest

def replaceAllText (text pattern replacement : List Char) : List Char :=
  replaceFrom pattern replacement [] 0 text

/-- `entries` is `Object.entries(data)`. -/
def renderTemplate (template : List Char) (entries : List Entry) : List Char :=
  entries.foldl
    (fun result entry => replaceAllText result (placeholder entry.1) entry.2)
    template

/-! ## Replacement patterns -/

def isPatternMark (c : Char) : Bool :=
  c == '$' || c == '&' || c == graveAccent || c == apostrophe

/-- The text has a dollar sign before one of the marks. -/
def hasReplacementPattern : List Char → Bool
  | '$' :: c :: rest => isPatternMark c || hasReplacementPattern (c :: rest)
  | _ :: rest => hasReplacementPattern rest
  | [] => false

section Patterns

variable {matched before after : List Char}

theorem getSubstitution_plain {c : Char} (rest : List Char)
    (hplain : c ≠ '$' ∨ rest = []) :
    getSubstitution matched before after (c :: rest) =
      c :: getSubstitution matched before after rest := by
  rw [getSubstitution.eq_def]
  split
  case h_1 hcons =>
    obtain ⟨rfl, rfl⟩ := List.cons.inj hcons
    rcases hplain with hplain | hplain
    · exact absurd rfl hplain
    · cases hplain
  case h_2 hcons =>
    cases hcons
    rfl
  case h_3 hnil => cases hnil

theorem hasReplacementPattern_plain {c : Char} (rest : List Char)
    (hplain : c ≠ '$' ∨ rest = []) :
    hasReplacementPattern (c :: rest) = hasReplacementPattern rest := by
  rw [hasReplacementPattern.eq_def]
  split
  case h_1 hcons =>
    obtain ⟨rfl, rfl⟩ := List.cons.inj hcons
    rcases hplain with hplain | hplain
    · exact absurd rfl hplain
    · cases hplain
  case h_2 hcons =>
    cases hcons
    rfl
  case h_3 hnil => cases hnil

theorem getSubstitution_unmarked {c : Char} (rest : List Char)
    (hmark : isPatternMark c = false) :
    getSubstitution matched before after ('$' :: c :: rest) =
      '$' :: getSubstitution matched before after (c :: rest) := by
  simp only [isPatternMark, Bool.or_eq_false_iff, beq_eq_false_iff_ne, ne_eq]
    at hmark
  rw [getSubstitution, if_neg hmark.1.1.1, if_neg hmark.1.1.2,
    if_neg hmark.1.2, if_neg hmark.2]

/-- A text without a pattern stands for itself. -/
theorem getSubstitution_literal {text : List Char}
    (htext : hasReplacementPattern text = false) :
    getSubstitution matched before after text = text := by
  induction text with
  | nil => rfl
  | cons c text ih =>
      by_cases hplain : c ≠ '$' ∨ text = []
      · rw [hasReplacementPattern_plain text hplain] at htext
        rw [getSubstitution_plain text hplain, ih htext]
      · rw [not_or, not_not] at hplain
        obtain ⟨rfl, hne⟩ := hplain
        obtain ⟨d, rest, rfl⟩ := List.exists_cons_of_ne_nil hne
        rw [hasReplacementPattern, Bool.or_eq_false_iff] at htext
        rw [getSubstitution_unmarked rest htext.1, ih htext.2]

end Patterns

/-- There are more opening braces than before, or as many in a shorter
text. -/
def Altered (text result : List Char) : Prop :=
  text.count '{' < result.count '{' ∨
    text.count '{' = result.count '{' ∧ result.length < text.length

theorem Altered.ne {text result : List Char} (haltered : Altered text result) :
    result ≠ text := by
  rintro rfl
  rcases haltered with hmore | ⟨-, hless⟩
  · exact lt_irrefl _ hmore
  · exact lt_irrefl _ hless

theorem Altered.cons {text result : List Char} (c : Char)
    (haltered : Altered text result) : Altered (c :: text) (c :: result) := by
  rw [Altered, List.count_cons, List.count_cons, List.length_cons,
    List.length_cons]
  rcases haltered with hmore | ⟨hsame, hless⟩
  · left
    omega
  · right
    omega

/-- A pattern of which at most one character is kept. -/
theorem altered_of_dropped {c : Char} {rest kept result : List Char}
    (hc : c ≠ '{') (hkept : kept.count '{' = 0) (hlength : kept.length ≤ 1)
    (hrest : Altered rest result ∨ result = rest) :
    Altered ('$' :: c :: rest) (kept ++ result) := by
  have hdollar : '$' ≠ '{' := by decide
  rw [Altered, List.count_cons_of_ne hdollar, List.count_cons_of_ne hc,
    List.count_append, hkept, Nat.zero_add, List.length_append,
    List.length_cons, List.length_cons]
  rcases hrest with (hmore | ⟨hsame, hless⟩) | rfl
  · exact Or.inl hmore
  · exact Or.inr ⟨hsame, by omega⟩
  · exact Or.inr ⟨rfl, by omega⟩

/-- A pattern that repeats the match. -/
theorem altered_of_matched {matched rest result : List Char}
    (hmatched : 0 < matched.count '{')
    (hrest : Altered rest result ∨ result = rest) :
    Altered ('$' :: '&' :: rest) (matched ++ result) := by
  left
  rw [List.count_cons_of_ne (by decide), List.count_cons_of_ne (by decide),
    List.count_append]
  rcases hrest with (hmore | ⟨hsame, -⟩) | rfl
  · omega
  · omega
  · omega

/-- Where the match is the whole text, a replacement with a pattern does not
stand for itself. -/
theorem getSubstitution_alone {matched : List Char}
    (hmatched : 0 < matched.count '{') (text : List Char) :
    Altered text (getSubstitution matched [] [] text) ∨
      hasReplacementPattern text = false := by
  have hrest {rest : List Char}
      (ih : Altered rest (getSubstitution matched [] [] rest) ∨
        hasReplacementPattern rest = false) :
      Altered rest (getSubstitution matched [] [] rest) ∨
        getSubstitution matched [] [] rest = rest :=
    ih.imp_right getSubstitution_literal
  fun_induction getSubstitution matched [] [] text with
  | case1 rest ih =>
      left
      exact @altered_of_dropped '$' rest ['$'] _ (by decide) (by decide)
        (by decide) (hrest ih)
  | case2 rest _ ih => exact Or.inl (altered_of_matched hmatched (hrest ih))
  | case3 rest _ _ ih =>
      exact Or.inl (altered_of_dropped (by decide) rfl (by decide) (hrest ih))
  | case4 rest _ _ _ ih =>
      exact Or.inl (altered_of_dropped (by decide) rfl (by decide) (hrest ih))
  | case5 c rest hdollar hampersand hgrave hapostrophe ih =>
      apply ih.imp (Altered.cons '$')
      intro hliteral
      rw [hasReplacementPattern, hliteral, Bool.or_false]
      simp [isPatternMark, hdollar, hampersand, hgrave, hapostrophe]
  | case6 c rest hplain ih =>
      apply ih.imp (Altered.cons c)
      intro hliteral
      rw [hasReplacementPattern_plain rest, hliteral]
      by_cases hc : c = '$'
      · right
        cases rest with
        | nil => rfl
        | cons d rest => exact (hplain d rest hc rfl).elim
      · exact Or.inl hc
  | case7 => exact Or.inr rfl

/-! ## Replacing the placeholders of one key -/

theorem replaceFrom_literal {entry : Entry}
    (hliteral : hasReplacementPattern entry.2 = false)
    (before : List Char) (skip : Nat) (text : List Char) :
    replaceFrom (placeholder entry.1) entry.2 before skip text =
      substituteFrom [entry] skip text := by
  induction text generalizing before skip with
  | nil => cases skip <;> rfl
  | cons c text ih =>
      cases skip with
      | succ skip => exact ih _ skip
      | zero =>
          rw [replaceFrom, substituteFrom, entryAt, List.find?_singleton]
          by_cases hbegins : (placeholder entry.1).isPrefixOf (c :: text) = true
          · rw [if_pos hbegins, if_pos hbegins,
              getSubstitution_literal hliteral, ih]
          · rw [if_neg hbegins, if_neg hbegins, ih]

theorem replaceAllText_literal {entry : Entry}
    (hliteral : hasReplacementPattern entry.2 = false) (text : List Char) :
    replaceAllText text (placeholder entry.1) entry.2 =
      substitute [entry] text :=
  replaceFrom_literal hliteral [] 0 text

theorem replaceAllText_of_absent {pattern text : List Char}
    (replacement : List Char) (habsent : ¬ pattern <:+: text) :
    replaceAllText text pattern replacement = text := by
  have hfrom (before : List Char) :
      replaceFrom pattern replacement before 0 text = text := by
    induction text generalizing before with
    | nil => rfl
    | cons c text ih =>
        have hbegins : ¬ pattern.isPrefixOf (c :: text) = true := by
          rw [List.isPrefixOf_iff_prefix]
          exact fun hbegins => habsent hbegins.isInfix
        rw [replaceFrom, if_neg hbegins, ih fun hoccurs =>
          habsent (hoccurs.trans (List.suffix_cons c text).isInfix)]
  exact hfrom []

/-- The placeholder itself is replaced by what the value stands for. -/
theorem replaceAllText_placeholder (key value : List Char) :
    replaceAllText (placeholder key) (placeholder key) value =
      getSubstitution (placeholder key) [] [] value := by
  have hskip (before skipped : List Char) :
      replaceFrom (placeholder key) value before skipped.length skipped = [] := by
    induction skipped generalizing before with
    | nil => rfl
    | cons c skipped ih => exact ih _
  have hbegins : (placeholder key).isPrefixOf (placeholder key) = true :=
    List.isPrefixOf_iff_prefix.mpr (List.prefix_refl _)
  have hread : replaceAllText (placeholder key) (placeholder key) value =
      getSubstitution (placeholder key) []
          ((placeholder key).drop (placeholder key).length) value ++
        replaceFrom (placeholder key) value ['{']
          ('{' :: (key ++ ['}', '}'])).length
          ('{' :: (key ++ ['}', '}'])) :=
    if_pos hbegins
  rw [hread, hskip, List.drop_length, List.append_nil]

/-! ## Rendering -/

theorem renderTemplate_append (template : List Char)
    (first second : List Entry) :
    renderTemplate template (first ++ second) =
      renderTemplate (renderTemplate template first) second :=
  List.foldl_append

theorem renderTemplate_of_absent {template : List Char}
    {entries : List Entry} (hfree : Free entries template) :
    renderTemplate template entries = template := by
  induction entries with
  | nil => rfl
  | cons entry entries ih =>
      rw [Free, List.forall_mem_cons] at hfree
      rw [renderTemplate, List.foldl_cons,
        replaceAllText_of_absent entry.2 hfree.1]
      exact ih hfree.2

/-- The rendering replaces the placeholders of any template at once, in
whichever order the entries come. -/
def RendersAtOnce (data : List Entry) : Prop :=
  ∀ template entries, entries.Perm data →
    renderTemplate template entries = substitute data template

/-- No value has a replacement pattern, and none takes part in the placeholder
of another key, unless that one stands for itself. -/
structure Inert (data : List Entry) : Prop where
  literal : ∀ entry ∈ data, hasReplacementPattern entry.2 = false
  apart : ∀ entry ∈ data, ∀ other ∈ data, other.1 ≠ entry.1 →
    other.2 ≠ placeholder other.1 → ¬ Touches entry.2 (placeholder other.1)

section Rendering

variable {data : List Entry}

theorem Inert.perm {entries : List Entry} (hinert : Inert data)
    (hperm : entries.Perm data) : Inert entries where
  literal entry hentry := hinert.literal entry (hperm.mem_iff.mp hentry)
  apart entry hentry other hother :=
    hinert.apart entry (hperm.mem_iff.mp hentry) other
      (hperm.mem_iff.mp hother)

theorem key_ne_of_mem_tail {entry other : Entry} {rest : List Entry}
    (hrecord : Record (entry :: rest)) (hother : other ∈ rest) :
    other.1 ≠ entry.1 := by
  have hkeys := hrecord.keys
  rw [List.map_cons, List.nodup_cons] at hkeys
  exact fun hkey => hkeys.1 (hkey ▸ List.mem_map_of_mem hother)

/-- The first entry of an inert record may go first. -/
theorem substitute_first {entry : Entry} {rest : List Entry}
    (hrecord : Record (entry :: rest)) (hinert : Inert (entry :: rest))
    (text : List Char) :
    substitute (entry :: rest) text =
      substitute rest (substitute [entry] text) := by
  have htail : Record rest :=
    ⟨(List.nodup_cons.mp hrecord.keys).2,
      fun other hother => hrecord.braces other (List.mem_cons_of_mem _ hother)⟩
  by_cases hchanges : changes entry = true
  · have hfilter : (entry :: rest).filter changes =
        entry :: rest.filter changes :=
      List.filter_cons_of_pos hchanges
    have hfiltered := hrecord.filter changes
    rw [hfilter] at hfiltered
    rw [← substitute_changes hrecord, hfilter, substitute_cons hfiltered,
      substitute_changes htail]
    intro other hother
    obtain ⟨hmem, hother⟩ := List.mem_filter.mp hother
    exact hinert.apart entry List.mem_cons_self other
      (List.mem_cons_of_mem _ hmem) (key_ne_of_mem_tail hrecord hmem)
      (of_decide_eq_true hother)
  · have hsame : entry.2 = placeholder entry.1 := by
      simpa [changes] using hchanges
    apply substitute_cons hrecord
    intro other hother
    rw [hsame]
    exact not_touches_placeholder (hrecord.braces entry List.mem_cons_self)
      (hrecord.braces other (List.mem_cons_of_mem _ hother))
      (key_ne_of_mem_tail hrecord hother)

theorem renderTemplate_inert {entries : List Entry} (hrecord : Record entries)
    (hinert : Inert entries) (template : List Char) :
    renderTemplate template entries = substitute entries template := by
  induction entries generalizing template with
  | nil => exact (substitute_nil template).symm
  | cons entry rest ih =>
      have htail : Record rest :=
        ⟨(List.nodup_cons.mp hrecord.keys).2, fun other hother =>
          hrecord.braces other (List.mem_cons_of_mem _ hother)⟩
      have hrest : Inert rest :=
        ⟨fun other hother =>
            hinert.literal other (List.mem_cons_of_mem _ hother),
          fun first hfirst second hsecond =>
            hinert.apart first (List.mem_cons_of_mem _ hfirst) second
              (List.mem_cons_of_mem _ hsecond)⟩
      have hliteral := hinert.literal entry List.mem_cons_self
      rw [substitute_first hrecord hinert, ← ih htail hrest,
        ← replaceAllText_literal hliteral]
      rfl

/-! ### What a template shows of a record -/

/-- The template that is one placeholder shows what its value stands for. -/
theorem literal_of_rendersAtOnce (hdata : Record data)
    (hrenders : RendersAtOnce data) {entry : Entry} (hentry : entry ∈ data) :
    hasReplacementPattern entry.2 = false := by
  have hfree : Free (data.erase entry) (placeholder entry.1) := by
    intro other hother
    obtain ⟨hmem, hne⟩ := hdata.others hentry hother
    exact not_occurs_placeholder (hdata.braces entry hentry)
      (hdata.braces other hmem) hne
  have hperm : (data.erase entry ++ [entry]).Perm data :=
    (List.perm_append_singleton entry _).trans
      (List.perm_cons_erase hentry).symm
  have hrendered := hrenders (placeholder entry.1) _ hperm
  rw [renderTemplate_append, renderTemplate_of_absent hfree,
    substitute_placeholder hdata hentry] at hrendered
  have hvalue : getSubstitution (placeholder entry.1) [] [] entry.2 =
      entry.2 := by
    rw [← replaceAllText_placeholder]
    exact hrendered
  have hbrace : 0 < (placeholder entry.1).count '{' :=
    List.count_pos_iff.mpr List.mem_cons_self
  rcases getSubstitution_alone hbrace entry.2 with haltered | hliteral
  · exact absurd hvalue haltered.ne
  · exact hliteral

/-- The template in which the value of one entry completes the placeholder of
another shows what becomes of that one. -/
theorem apart_of_rendersAtOnce (hdata : Record data)
    (hrenders : RendersAtOnce data) {entry other : Entry}
    (hentry : entry ∈ data) (hother : other ∈ data)
    (hne : other.1 ≠ entry.1) (hchanges : other.2 ≠ placeholder other.1) :
    ¬ Touches entry.2 (placeholder other.1) := by
  intro htouches
  obtain ⟨before, after, hoccurs, hclear⟩ :=
    htouches.context (hdata.braces other hother)
  have hotherRest : other ∈ data.erase entry := by
    rw [List.Nodup.mem_erase_iff hdata.keys.of_map]
    exact ⟨fun heq => hne (congrArg Prod.fst heq), hother⟩
  have hperm : (((data.erase entry).erase other) ++ [entry, other]).Perm
      data := by
    refine List.perm_append_comm.trans ?_
    refine List.Perm.trans (List.Perm.swap other entry _) ?_
    refine List.Perm.trans (List.Perm.swap entry other _) ?_
    exact ((List.perm_cons_erase hotherRest).symm.cons entry).trans
      (List.perm_cons_erase hentry).symm
  have hfree : Free ((data.erase entry).erase other)
      (before ++ (placeholder entry.1 ++ after)) := by
    intro third hthird
    obtain ⟨hmem, hkey⟩ := hdata.others hentry
      (List.mem_of_mem_erase hthird)
    intro hplace
    rcases infix_append_of_cut (cut_before hdata.braces before entry.1 after)
        hmem hplace with hplace | hplace
    · exact (hclear third.1).1 hplace
    · rcases infix_append_of_cut (cut_after hdata.braces entry.1 after) hmem
          hplace with hplace | hplace
      · exact not_occurs_placeholder (hdata.braces entry hentry)
          (hdata.braces third hmem) hkey hplace
      · exact (hclear third.1).2 hplace
  have hclearAll (entries : List Entry) : substitute entries before = before ∧
      substitute entries after = after :=
    ⟨substitute_of_free fun third _ => (hclear third.1).1,
      substitute_of_free fun third _ => (hclear third.1).2⟩
  have hrendered := hrenders (before ++ (placeholder entry.1 ++ after)) _ hperm
  rw [renderTemplate_append, renderTemplate_of_absent hfree,
    substitute_around hdata hentry, (hclearAll data).1, (hclearAll data).2]
    at hrendered
  have hsame : substitute [other] (before ++ (entry.2 ++ after)) =
      before ++ (entry.2 ++ after) := by
    rw [← replaceAllText_literal
      (literal_of_rendersAtOnce hdata hrenders hother)]
    have hfirst : replaceAllText (before ++ (placeholder entry.1 ++ after))
        (placeholder entry.1) entry.2 = before ++ (entry.2 ++ after) := by
      rw [replaceAllText_literal
          (literal_of_rendersAtOnce hdata hrenders hentry),
        substitute_singleton_around (hdata.braces entry hentry),
        (hclearAll [entry]).1, (hclearAll [entry]).2]
    rw [← hfirst]
    rw [← hfirst] at hrendered
    exact hrendered
  exact hchanges
    (value_eq_of_substitute_eq (hdata.braces other hother) hoccurs hsame)

/-- Exactly the inert records replace the placeholders of every template by
their values, whatever the order of their keys. -/
theorem rendersAtOnce_iff (hdata : Record data) :
    RendersAtOnce data ↔ Inert data := by
  constructor
  · intro hrenders
    refine ⟨fun entry hentry =>
      literal_of_rendersAtOnce hdata hrenders hentry, ?_⟩
    intro entry hentry other hother hne hchanges
    exact apart_of_rendersAtOnce hdata hrenders hentry hother hne hchanges
  · intro hinert template entries hperm
    rw [renderTemplate_inert (hdata.perm hperm) (hinert.perm hperm),
      substitute_perm hdata hperm]

end Rendering

namespace TemplateWitness

/-- A greeting and a name. -/
def data : List Entry :=
  [("greeting".toList, "Hi".toList), ("name".toList, "User".toList)]

theorem record : Record data := by
  refine ⟨by decide, ?_⟩
  intro entry hentry
  have hcheck : (data.all fun entry =>
      !entry.1.contains '{' && !entry.1.contains '}') = true := by decide
  have hone := List.all_eq_true.mp hcheck entry hentry
  simpa [BraceFree] using hone

theorem inert : Inert data where
  literal := by decide
  apart := by decide

theorem rendersAtOnce_plain : RendersAtOnce data :=
  (rendersAtOnce_iff record).mpr inert

/-- The greeting has the placeholder of the name in it. -/
def nested : List Entry :=
  [("greeting".toList, "Hi {{name}}".toList), ("name".toList, "User".toList)]

theorem record_nested : Record nested :=
  ⟨record.keys, fun entry hentry => by
    simp only [nested, List.mem_cons, List.not_mem_nil, or_false] at hentry
    rcases hentry with rfl | rfl
    · exact record.braces ("greeting".toList, "Hi".toList) (by decide)
    · exact record.braces ("name".toList, "User".toList) (by decide)⟩

theorem not_rendersAtOnce :
    ¬ ∀ data template, Record data →
      renderTemplate template data = substitute data template := by
  intro hclaim
  have hrendered := hclaim nested "{{greeting}}!".toList record_nested
  revert hrendered
  decide

example : renderTemplate "{{name}}".toList
    [("name".toList, "$& $$".toList)] = "{{name}} $".toList := by
  decide

end TemplateWitness

end IdProvider
