/-
Texts with placeholders in double braces, and the replacement of all
placeholders at once.
-/
import Mathlib.Data.List.Find
import Mathlib.Data.List.Infix
import Mathlib.Data.List.Nodup
import Mathlib.Tactic.Common

namespace Placeholders

/-- A key and the text that replaces its placeholder. -/
abbrev Entry := List Char × List Char

def placeholder (key : List Char) : List Char :=
  '{' :: '{' :: (key ++ ['}', '}'])

def BraceFree (key : List Char) : Prop := '{' ∉ key ∧ '}' ∉ key

/-- The entry whose placeholder begins here. -/
def entryAt (data : List Entry) (text : List Char) : Option Entry :=
  data.find? fun entry => (placeholder entry.1).isPrefixOf text

/-- The first `skip` characters belong to a placeholder that was replaced. -/
def substituteFrom (data : List Entry) : Nat → List Char → List Char
  | _, [] => []
  | skip + 1, _ :: rest => substituteFrom data skip rest
  | 0, c :: rest =>
      match entryAt data (c :: rest) with
      | none => c :: substituteFrom data 0 rest
      | some entry =>
          entry.2 ++
            substituteFrom data ((placeholder entry.1).length - 1) rest

/-- Every placeholder of the text becomes the text of its key. -/
def substitute (data : List Entry) (text : List Char) : List Char :=
  substituteFrom data 0 text

/-! ## Placeholders do not overlap -/

theorem length_placeholder (key : List Char) :
    (placeholder key).length = key.length + 4 := by
  simp [placeholder]

theorem placeholder_ne_nil (key : List Char) : placeholder key ≠ [] :=
  List.cons_ne_nil _ _

/-- Two opening braces stand only at the beginning. -/
theorem eq_nil_of_open {key before after : List Char} (hkey : BraceFree key)
    (hopen : before ++ '{' :: '{' :: after = placeholder key) :
    before = [] := by
  rcases before with _ | ⟨first, _ | ⟨second, before⟩⟩
  · rfl
  · rw [placeholder, List.cons_append, List.nil_append, List.cons.injEq,
      List.cons.injEq] at hopen
    have hmem : '{' ∈ key ++ ['}', '}'] := hopen.2.2 ▸ List.mem_cons_self
    rw [List.mem_append] at hmem
    rcases hmem with hmem | hmem
    · exact absurd hmem hkey.1
    · exact absurd hmem (by decide)
  · rw [placeholder, List.cons_append, List.cons_append, List.cons.injEq,
      List.cons.injEq] at hopen
    have hmem : '{' ∈ key ++ ['}', '}'] := by
      rw [← hopen.2.2]
      exact List.mem_append_right _ List.mem_cons_self
    rw [List.mem_append] at hmem
    rcases hmem with hmem | hmem
    · exact absurd hmem hkey.1
    · exact absurd hmem (by decide)

/-- What stands before two closing braces is the whole key. -/
theorem eq_of_close {key other after rest : List Char} (hkey : '}' ∉ key)
    (hother : '}' ∉ other)
    (hclose : other ++ '}' :: after = key ++ '}' :: rest) :
    other = key ∧ after = rest := by
  induction other generalizing key with
  | nil =>
      cases key with
      | nil => exact ⟨rfl, (List.cons.inj hclose).2⟩
      | cons c key =>
          obtain ⟨rfl, -⟩ := List.cons.inj hclose
          exact absurd List.mem_cons_self hkey
  | cons c other ih =>
      cases key with
      | nil =>
          obtain ⟨rfl, -⟩ := List.cons.inj hclose
          exact absurd List.mem_cons_self hother
      | cons d key =>
          obtain ⟨rfl, hrest⟩ := List.cons.inj hclose
          rw [List.mem_cons, not_or] at hkey hother
          obtain ⟨rfl, hafter⟩ := ih hkey.2 hother.2 hrest
          exact ⟨rfl, hafter⟩

/-- Two closing braces stand only at the end. -/
theorem eq_nil_of_close {key before after : List Char} (hkey : BraceFree key)
    (hclose : before ++ '}' :: '}' :: after = placeholder key) :
    after = [] := by
  rcases before with _ | ⟨first, _ | ⟨second, before⟩⟩
  · simp [placeholder] at hclose
  · simp [placeholder] at hclose
  · rw [placeholder, List.cons_append, List.cons_append, List.cons.injEq,
      List.cons.injEq] at hclose
    have hrest := hclose.2.2
    clear hclose
    obtain ⟨-, hkey⟩ := hkey
    induction before generalizing key with
    | nil =>
        cases key with
        | nil => simpa using hrest
        | cons c key =>
            obtain ⟨rfl, -⟩ := List.cons.inj hrest
            exact absurd List.mem_cons_self hkey
    | cons c before ih =>
        cases key with
        | nil =>
            have hlength := congrArg List.length hrest
            simp only [List.cons_append, List.nil_append, List.length_cons,
              List.length_append, List.length_nil] at hlength
            omega
        | cons d key =>
            rw [List.mem_cons, not_or] at hkey
            exact ih (List.cons.inj hrest).2 hkey.2

/-- At one place there is the placeholder of one key only. -/
theorem key_eq_of_begins {key other rest : List Char} (hkey : BraceFree key)
    (hother : BraceFree other)
    (hbegins : placeholder other <+: placeholder key ++ rest) :
    other = key := by
  obtain ⟨after, hafter⟩ := hbegins
  simp only [placeholder, List.cons_append, List.append_assoc,
    List.cons.injEq, true_and, List.nil_append] at hafter
  exact (eq_of_close hkey.2 hother.2 hafter).1

/-! ## Cuts -/

/-- No placeholder of the data reaches over the place between two texts. -/
def Cut (data : List Entry) (first second : List Char) : Prop :=
  ∀ entry ∈ data, ∀ head tail, head ≠ [] → tail ≠ [] → head <:+ first →
    tail <+: second → head ++ tail ≠ placeholder entry.1

def BraceFreeKeys (data : List Entry) : Prop :=
  ∀ entry ∈ data, BraceFree entry.1

variable {data : List Entry}

theorem Cut.tail {c : Char} {first second : List Char}
    (hcut : Cut data (c :: first) second) : Cut data first second :=
  fun entry hentry head tail hhead htail hsuffix =>
    hcut entry hentry head tail hhead htail
      (hsuffix.trans (List.suffix_cons c first))

theorem cut_before (hdata : BraceFreeKeys data) (first key rest : List Char) :
    Cut data first (placeholder key ++ rest) := by
  rintro entry hentry head tail hhead htail - ⟨after, hafter⟩ heq
  rcases tail with _ | ⟨open₁, _ | ⟨open₂, tail⟩⟩
  · exact htail rfl
  · simp only [placeholder, List.cons_append, List.cons.injEq] at hafter
    obtain ⟨rfl, -⟩ := hafter
    have hlast := congrArg List.getLast? heq
    simp [placeholder, List.getLast?_append, List.getLast?_cons] at hlast
  · simp only [placeholder, List.cons_append, List.cons.injEq] at hafter
    obtain ⟨rfl, rfl, -⟩ := hafter
    exact hhead (eq_nil_of_open (hdata entry hentry) heq)

theorem cut_after (hdata : BraceFreeKeys data) (key rest : List Char) :
    Cut data (placeholder key) rest := by
  intro entry hentry head tail hhead htail hsuffix _ heq
  have hend : ['}', '}'] <:+ placeholder key :=
    ⟨'{' :: '{' :: key, by simp [placeholder]⟩
  rcases List.suffix_or_suffix_of_suffix hsuffix hend with
    hshort | ⟨before, rfl⟩
  · obtain ⟨c, head, rfl⟩ := List.exists_cons_of_ne_nil hhead
    obtain ⟨rfl, -⟩ := List.cons.inj heq
    exact absurd (hshort.subset List.mem_cons_self) (by decide)
  · have hclose : before ++ '}' :: '}' :: tail = placeholder entry.1 := by
      rw [← heq]
      simp
    exact htail (eq_nil_of_close (hdata entry hentry) hclose)

/-- A text in which no placeholder of the data begins. -/
def Free (data : List Entry) (text : List Char) : Prop :=
  ∀ entry ∈ data, ¬ placeholder entry.1 <:+: text

theorem entryAt_eq_some {text : List Char} {entry : Entry}
    (hentry : entryAt data text = some entry) :
    entry ∈ data ∧ placeholder entry.1 <+: text := by
  refine ⟨List.mem_of_find?_eq_some hentry, ?_⟩
  rw [entryAt] at hentry
  have hbegins := List.find?_some hentry
  rwa [List.isPrefixOf_iff_prefix] at hbegins

/-- A placeholder that begins before a cut ends before it. -/
theorem entryAt_append {c : Char} {first second : List Char}
    (hcut : Cut data (c :: first) second) :
    entryAt data (c :: first ++ second) = entryAt data (c :: first) := by
  apply List.find?_congr
  intro entry hentry
  rw [Bool.eq_iff_iff, List.isPrefixOf_iff_prefix, List.isPrefixOf_iff_prefix]
  constructor
  · intro hbegins
    rcases List.prefix_or_prefix_of_prefix hbegins
        (List.prefix_append (c :: first) second) with hshort | ⟨rest, hrest⟩
    · exact hshort
    · rw [← hrest] at hbegins ⊢
      rw [List.prefix_append_right_inj] at hbegins
      by_cases hnil : rest = []
      · subst hnil
        simp
      · exact absurd hrest
          (hcut entry hentry _ _ (List.cons_ne_nil _ _) hnil
            (List.suffix_refl _) hbegins)
  · intro hbegins
    exact hbegins.trans (List.prefix_append _ _)

theorem substituteFrom_append {first second : List Char} {skip : Nat}
    (hcut : Cut data first second) (hskip : skip ≤ first.length) :
    substituteFrom data skip (first ++ second) =
      substituteFrom data skip first ++ substitute data second := by
  induction first generalizing skip with
  | nil =>
      obtain rfl : skip = 0 := Nat.le_zero.mp hskip
      rfl
  | cons c first ih =>
      cases skip with
      | succ skip =>
          exact ih hcut.tail (Nat.le_of_succ_le_succ hskip)
      | zero =>
          rw [List.cons_append, substituteFrom, substituteFrom,
            ← List.cons_append, entryAt_append hcut]
          cases hentry : entryAt data (c :: first) with
          | none =>
              dsimp only
              rw [ih hcut.tail (Nat.zero_le _), List.cons_append]
          | some entry =>
              have hlength := (entryAt_eq_some hentry).2.length_le
              rw [List.length_cons] at hlength
              dsimp only
              rw [ih hcut.tail (by omega), List.append_assoc]

theorem substitute_append {first second : List Char}
    (hcut : Cut data first second) :
    substitute data (first ++ second) =
      substitute data first ++ substitute data second :=
  substituteFrom_append hcut (Nat.zero_le _)

theorem substituteFrom_length (skipped rest : List Char) :
    substituteFrom data skipped.length (skipped ++ rest) =
      substitute data rest := by
  induction skipped with
  | nil => rfl
  | cons c skipped ih => exact ih

/-- Data that find the same entries replace them alike. -/
theorem substituteFrom_congr {others : List Entry} {text : List Char}
    (hsame : ∀ rest, rest <:+ text → entryAt others rest = entryAt data rest)
    (skip : Nat) :
    substituteFrom others skip text = substituteFrom data skip text := by
  induction text generalizing skip with
  | nil => cases skip <;> rfl
  | cons c text ih =>
      have htail (skip : Nat) : substituteFrom others skip text =
          substituteFrom data skip text :=
        ih (fun rest hrest => hsame rest (hrest.trans (List.suffix_cons c text)))
          skip
      cases skip with
      | succ skip => exact htail skip
      | zero =>
          rw [substituteFrom, substituteFrom, hsame _ (List.suffix_refl _)]
          cases entryAt data (c :: text) with
          | none => exact congrArg (c :: ·) (htail 0)
          | some entry => exact congrArg (entry.2 ++ ·) (htail _)

theorem entryAt_nil (text : List Char) : entryAt [] text = none := rfl

theorem substitute_nil (text : List Char) : substitute [] text = text := by
  unfold substitute
  induction text with
  | nil => rfl
  | cons c text ih =>
      rw [substituteFrom, entryAt_nil]
      exact congrArg (c :: ·) ih

/-- Entries whose placeholders do not occur may be left out. -/
theorem substitute_filter {keep : Entry → Bool} {text : List Char}
    (habsent : ∀ entry ∈ data, keep entry = false →
      ¬ placeholder entry.1 <:+: text) :
    substitute (data.filter keep) text = substitute data text := by
  apply substituteFrom_congr
  intro rest hrest
  rw [entryAt, List.find?_filter]
  apply List.find?_congr
  intro entry hentry
  cases hkeep : keep entry with
  | true => simp only [true_and, Bool.decide_eq_true]
  | false =>
      have hnot : (placeholder entry.1).isPrefixOf rest = false := by
        rw [Bool.eq_false_iff, ne_eq, List.isPrefixOf_iff_prefix]
        intro hbegins
        exact habsent entry hentry hkeep
          (hbegins.isInfix.trans hrest.isInfix)
      simp [hnot]

theorem substitute_of_free {text : List Char} (hfree : Free data text) :
    substitute data text = text := by
  have hnone : data.filter (fun _ => false) = [] := by simp
  rw [← @substitute_filter _ (fun _ => false) _
    (fun entry hentry _ => hfree entry hentry), hnone, substitute_nil]

/-! ## One placeholder of a text -/

/-- The keys are distinct and hold no braces. -/
structure Record (data : List Entry) : Prop where
  keys : (data.map Prod.fst).Nodup
  braces : BraceFreeKeys data

theorem Record.filter (hdata : Record data) (keep : Entry → Bool) :
    Record (data.filter keep) where
  keys := hdata.keys.sublist (List.filter_sublist.map Prod.fst)
  braces entry hentry := hdata.braces entry (List.mem_filter.mp hentry).1

theorem Record.perm {others : List Entry} (hdata : Record data)
    (hperm : others.Perm data) : Record others where
  keys := (hperm.map Prod.fst).nodup_iff.mpr hdata.keys
  braces entry hentry := hdata.braces entry (hperm.mem_iff.mp hentry)

theorem entryAt_placeholder (hdata : Record data) {entry : Entry}
    (hentry : entry ∈ data) (rest : List Char) :
    entryAt data (placeholder entry.1 ++ rest) = some entry := by
  cases hfound : entryAt data (placeholder entry.1 ++ rest) with
  | none =>
      have hnot := List.find?_eq_none.mp hfound entry hentry
      rw [List.isPrefixOf_iff_prefix] at hnot
      exact absurd (List.prefix_append _ _) hnot
  | some other =>
      obtain ⟨hother, hbegins⟩ := entryAt_eq_some hfound
      have hkey := key_eq_of_begins (hdata.braces entry hentry)
        (hdata.braces other hother) hbegins
      rw [List.inj_on_of_nodup_map hdata.keys hother hentry hkey]

theorem substitute_placeholder (hdata : Record data) {entry : Entry}
    (hentry : entry ∈ data) : substitute data (placeholder entry.1) = entry.2 := by
  have hfound := entryAt_placeholder hdata hentry []
  rw [List.append_nil] at hfound
  have hskip := @substituteFrom_length data ('{' :: (entry.1 ++ ['}', '}'])) []
  rw [List.append_nil] at hskip
  have hlength : (placeholder entry.1).length - 1 =
      ('{' :: (entry.1 ++ ['}', '}'])).length := rfl
  rw [substitute, placeholder, substituteFrom, ← placeholder, hfound]
  dsimp only
  rw [hlength, hskip]
  exact List.append_nil _

/-- A placeholder cuts its text in two. -/
theorem substitute_around (hdata : Record data) {entry : Entry}
    (hentry : entry ∈ data) (before after : List Char) :
    substitute data (before ++ (placeholder entry.1 ++ after)) =
      substitute data before ++ (entry.2 ++ substitute data after) := by
  rw [substitute_append (cut_before hdata.braces before entry.1 after),
    substitute_append (cut_after hdata.braces entry.1 after),
    substitute_placeholder hdata hentry]

/-- Data in another order replace the same. -/
theorem substitute_perm {others : List Entry} (hdata : Record data)
    (hperm : others.Perm data) (text : List Char) :
    substitute others text = substitute data text := by
  apply substituteFrom_congr
  intro rest _
  cases hfound : entryAt data rest with
  | none =>
      rw [entryAt, List.find?_eq_none] at hfound ⊢
      exact fun entry hentry => hfound entry (hperm.mem_iff.mp hentry)
  | some entry =>
      obtain ⟨hentry, after, rfl⟩ := entryAt_eq_some hfound
      exact entryAt_placeholder (hdata.perm hperm)
        (hperm.mem_iff.mpr hentry) after

theorem infix_append_of_cut {entry : Entry} {first second : List Char}
    (hcut : Cut data first second) (hentry : entry ∈ data)
    (hoccurs : placeholder entry.1 <:+: first ++ second) :
    placeholder entry.1 <:+: first ∨ placeholder entry.1 <:+: second := by
  rcases List.infix_append_iff_ne_nil.mp hoccurs with
    hfirst | hsecond | ⟨head, tail, hhead, htail, heq, hsuffix, hbegins⟩
  · exact Or.inl hfirst
  · exact Or.inr hsecond
  · exact absurd heq.symm
      (hcut entry hentry head tail hhead htail hsuffix hbegins)

theorem Record.others {entry other : Entry} (hdata : Record data)
    (hentry : entry ∈ data) (hother : other ∈ data.erase entry) :
    other ∈ data ∧ other.1 ≠ entry.1 := by
  have hnodup : data.Nodup := hdata.keys.of_map
  obtain ⟨hne, hmem⟩ := (List.Nodup.mem_erase_iff hnodup).mp hother
  exact ⟨hmem, fun hkey =>
    hne (List.inj_on_of_nodup_map hdata.keys hmem hentry hkey)⟩

/-! ## Values between placeholders -/

/-- A value takes part in a pattern in some text around it: it holds the
pattern, ends with its beginning, begins with its end, or fits inside. -/
def Touches (value pattern : List Char) : Prop :=
  pattern <:+: value ∨
    (∃ head tail, head ≠ [] ∧ tail ≠ [] ∧ head ++ tail = pattern ∧
      (head <:+ value ∨ tail <+: value)) ∨
    ∃ head tail, head ≠ [] ∧ tail ≠ [] ∧ head ++ (value ++ tail) = pattern

/-- The parts of a pattern at each of its places. -/
theorem touches_iff {value pattern : List Char} :
    Touches value pattern ↔ pattern <:+: value ∨
      ∃ place ∈ List.range pattern.length, 0 < place ∧
        (pattern.take place <:+ value ∨ pattern.drop place <+: value ∨
          value <+: pattern.drop place ∧
            place + value.length < pattern.length) := by
  apply or_congr_right
  constructor
  · rintro (⟨head, tail, hhead, htail, rfl, hside⟩ |
      ⟨head, tail, hhead, htail, rfl⟩)
    · have hhead := List.length_pos_of_ne_nil hhead
      have htail := List.length_pos_of_ne_nil htail
      refine ⟨head.length, ?_, hhead, ?_⟩
      · rw [List.mem_range, List.length_append]
        omega
      · rw [List.take_left, List.drop_left, ← or_assoc]
        exact Or.inl hside
    · have hhead := List.length_pos_of_ne_nil hhead
      have htail := List.length_pos_of_ne_nil htail
      refine ⟨head.length, ?_, hhead, Or.inr (Or.inr ⟨?_, ?_⟩)⟩
      · simp only [List.mem_range, List.length_append]
        omega
      · rw [List.drop_left]
        exact List.prefix_append value tail
      · simp only [List.length_append]
        omega
  · rintro ⟨place, hplace, hpos, hside⟩
    rw [List.mem_range] at hplace
    have hhead : pattern.take place ≠ [] := by
      apply List.ne_nil_of_length_pos
      rw [List.length_take]
      omega
    have htail : pattern.drop place ≠ [] := by
      apply List.ne_nil_of_length_pos
      rw [List.length_drop]
      omega
    rw [← or_assoc] at hside
    rcases hside with hside | ⟨⟨tail, heq⟩, hlength⟩
    · exact Or.inl ⟨_, _, hhead, htail, List.take_append_drop place pattern,
        hside⟩
    · refine Or.inr ⟨_, tail, hhead, ?_, ?_⟩
      · rintro rfl
        have hlengths := congrArg List.length heq
        rw [List.append_nil, List.length_drop] at hlengths
        omega
      · rw [heq, List.take_append_drop]

instance (value pattern : List Char) : Decidable (Touches value pattern) :=
  decidable_of_iff _ touches_iff.symm

theorem cut_before_value {value : List Char}
    (huntouched : ∀ entry ∈ data, ¬ Touches value (placeholder entry.1))
    (before after : List Char) : Cut data before (value ++ after) := by
  intro entry hentry head tail hhead htail _ hbegins heq
  apply huntouched entry hentry
  rcases List.prefix_or_prefix_of_prefix hbegins
      (List.prefix_append value after) with hshort | ⟨rest, rfl⟩
  · exact Or.inr (Or.inl ⟨head, tail, hhead, htail, heq, Or.inr hshort⟩)
  · by_cases hrest : rest = []
    · subst hrest
      exact Or.inr (Or.inl ⟨head, _, hhead, htail, heq, Or.inr (by simp)⟩)
    · exact Or.inr (Or.inr ⟨head, rest, hhead, hrest, heq⟩)

/-- A value that touches no placeholder cuts its text in two. -/
theorem substitute_around_value {value : List Char}
    (huntouched : ∀ entry ∈ data, ¬ Touches value (placeholder entry.1))
    (before after : List Char) :
    substitute data (before ++ (value ++ after)) =
      substitute data before ++ (value ++ substitute data after) := by
  have hafter : Cut data value after :=
    fun entry hentry head tail hhead htail hsuffix _ heq =>
      huntouched entry hentry
        (Or.inr (Or.inl ⟨head, tail, hhead, htail, heq, Or.inl hsuffix⟩))
  have hfree : Free data value :=
    fun entry hentry hoccurs => huntouched entry hentry (Or.inl hoccurs)
  rw [substitute_append (cut_before_value huntouched before after),
    substitute_append hafter, substitute_of_free hfree]

theorem not_touches_placeholder {key other : List Char}
    (hkey : BraceFree key) (hother : BraceFree other) (hne : other ≠ key) :
    ¬ Touches (placeholder key) (placeholder other) := by
  have hdata : BraceFreeKeys [(other, [])] := by
    intro entry hentry
    rw [List.mem_singleton] at hentry
    rw [hentry]
    exact hother
  rintro (⟨before, after, heq⟩ | ⟨head, tail, hhead, htail, heq, hside⟩ |
    ⟨head, tail, hhead, -, heq⟩)
  · rw [List.append_assoc] at heq
    have hbefore : before = [] := eq_nil_of_open hkey heq
    subst hbefore
    refine hne (@key_eq_of_begins key other [] hkey hother ⟨after, ?_⟩)
    rw [List.append_nil]
    exact heq
  · rcases hside with hsuffix | hbegins
    · exact cut_after hdata key tail _ List.mem_cons_self head tail hhead htail
        hsuffix (List.prefix_refl _) heq
    · refine cut_before hdata head key [] _ List.mem_cons_self head tail hhead
        htail (List.suffix_refl _) ?_ heq
      rwa [List.append_nil]
  · exact hhead (eq_nil_of_open hother heq)

theorem not_occurs_placeholder {key other : List Char} (hkey : BraceFree key)
    (hother : BraceFree other) (hne : other ≠ key) :
    ¬ placeholder other <:+: placeholder key :=
  fun hoccurs => not_touches_placeholder hkey hother hne (Or.inl hoccurs)

/-- No placeholder occurs in a proper beginning of one. -/
theorem not_occurs_beginning {key other head tail : List Char}
    (hkey : BraceFree key) (htail : tail ≠ [])
    (heq : head ++ tail = placeholder key) :
    ¬ placeholder other <:+: head := by
  rintro ⟨before, after, rfl⟩
  have hclose : (before ++ '{' :: '{' :: other) ++ '}' :: '}' ::
      (after ++ tail) = placeholder key := by
    rw [← heq]
    simp [placeholder]
  exact htail (List.append_eq_nil_iff.mp (eq_nil_of_close hkey hclose)).2

theorem not_occurs_end {key other head tail : List Char}
    (hkey : BraceFree key) (hhead : head ≠ [])
    (heq : head ++ tail = placeholder key) :
    ¬ placeholder other <:+: tail := by
  rintro ⟨before, after, rfl⟩
  have hopen : (head ++ before) ++ '{' :: '{' ::
      (other ++ '}' :: '}' :: after) = placeholder key := by
    rw [← heq]
    simp [placeholder]
  exact hhead (List.append_eq_nil_iff.mp (eq_nil_of_open hkey hopen)).1

/-- A value that touches a placeholder completes one in some text, whose other
parts hold none. -/
theorem Touches.context {value key : List Char} (hkey : BraceFree key)
    (htouches : Touches value (placeholder key)) :
    ∃ before after, placeholder key <:+: before ++ (value ++ after) ∧
      ∀ other, ¬ placeholder other <:+: before ∧
        ¬ placeholder other <:+: after := by
  have hempty (other : List Char) : ¬ placeholder other <:+: [] := by
    rw [List.infix_nil]
    exact placeholder_ne_nil other
  rcases htouches with hwithin |
    ⟨head, tail, hhead, htail, heq, ⟨start, rfl⟩ | ⟨rest, rfl⟩⟩ |
    ⟨head, tail, hhead, htail, heq⟩
  · exact ⟨[], [], by simpa using hwithin, fun other => ⟨hempty other, hempty other⟩⟩
  · refine ⟨[], tail, ?_, fun other =>
      ⟨hempty other, not_occurs_end hkey hhead heq⟩⟩
    rw [List.nil_append, List.append_assoc, heq]
    exact List.infix_append_right
  · refine ⟨head, [], ?_, fun other =>
      ⟨not_occurs_beginning hkey htail heq, hempty other⟩⟩
    rw [List.append_nil, ← List.append_assoc, heq]
    exact List.infix_append_left
  · have hassoc : (head ++ value) ++ tail = placeholder key := by
      rw [← heq, List.append_assoc]
    have hmiddle : head ++ value ≠ [] := by simp [hhead]
    refine ⟨head, tail, ?_, fun other =>
      ⟨not_occurs_beginning hkey (by simp [htail]) heq,
        not_occurs_end hkey hmiddle hassoc⟩⟩
    rw [heq]

/-! ## One entry after the other -/

section Entries

variable {entry : Entry} {rest : List Entry}

theorem substitute_singleton_around (hkey : BraceFree entry.1)
    (before after : List Char) :
    substitute [entry] (before ++ (placeholder entry.1 ++ after)) =
      substitute [entry] before ++ (entry.2 ++ substitute [entry] after) := by
  have hrecord : Record [entry] := by
    refine ⟨List.nodup_singleton _, fun other hother => ?_⟩
    rw [List.mem_singleton] at hother
    rwa [hother]
  exact substitute_around hrecord List.mem_cons_self before after

theorem substitute_singleton_of_absent {text : List Char}
    (habsent : ¬ placeholder entry.1 <:+: text) :
    substitute [entry] text = text := by
  apply substitute_of_free
  intro other hother
  rw [List.mem_singleton] at hother
  rwa [hother]

theorem substitute_cons_of_absent {text : List Char}
    (habsent : ¬ placeholder entry.1 <:+: text) :
    substitute (entry :: rest) text = substitute rest text := by
  apply substituteFrom_congr
  intro suffix hsuffix
  rw [entryAt, List.find?_cons_of_neg]
  · rfl
  · rw [List.isPrefixOf_iff_prefix]
    exact fun hbegins => habsent (hbegins.isInfix.trans hsuffix.isInfix)

/-- A placeholder splits off two shorter texts. -/
theorem split_at_placeholder {key text : List Char}
    (hoccurs : placeholder key <:+: text) :
    ∃ before after, text = before ++ (placeholder key ++ after) ∧
      before.length < text.length ∧ after.length < text.length := by
  obtain ⟨before, after, rfl⟩ := hoccurs
  refine ⟨before, after, List.append_assoc .., ?_, ?_⟩
  · simp only [List.length_append, length_placeholder]
    omega
  · simp only [List.length_append, length_placeholder]
    omega

/-- The first entry may go first when its value touches none of the
placeholders that come after it. -/
theorem substitute_cons (hrecord : Record (entry :: rest))
    (huntouched : ∀ other ∈ rest, ¬ Touches entry.2 (placeholder other.1))
    (text : List Char) :
    substitute (entry :: rest) text =
      substitute rest (substitute [entry] text) := by
  by_cases hoccurs : placeholder entry.1 <:+: text
  · obtain ⟨before, after, htext, hbefore, hafter⟩ :=
      split_at_placeholder hoccurs
    have hfirst := substitute_cons hrecord huntouched before
    have hlast := substitute_cons hrecord huntouched after
    rw [htext, substitute_around hrecord List.mem_cons_self,
      substitute_singleton_around (hrecord.braces entry List.mem_cons_self),
      substitute_around_value huntouched, hfirst, hlast]
  · rw [substitute_cons_of_absent hoccurs,
      substitute_singleton_of_absent hoccurs]
termination_by text.length

/-- The entry changes its placeholder. -/
def changes (entry : Entry) : Bool :=
  decide (entry.2 ≠ placeholder entry.1)

/-- Entries that change nothing may be left out. -/
theorem substitute_changes (hdata : Record data) (text : List Char) :
    substitute (data.filter changes) text = substitute data text := by
  by_cases hoccurs : ∃ entry ∈ data, entry.2 = placeholder entry.1 ∧
      placeholder entry.1 <:+: text
  · obtain ⟨entry, hentry, hsame, hoccurs⟩ := hoccurs
    obtain ⟨before, after, htext, hbefore, hafter⟩ :=
      split_at_placeholder hoccurs
    have hfirst := substitute_changes hdata before
    have hlast := substitute_changes hdata after
    have huntouched : ∀ other ∈ data.filter changes,
        ¬ Touches (placeholder entry.1) (placeholder other.1) := by
      intro other hother
      obtain ⟨hother, hchanges⟩ := List.mem_filter.mp hother
      apply not_touches_placeholder (hdata.braces entry hentry)
        (hdata.braces other hother)
      intro hkey
      have heq := List.inj_on_of_nodup_map hdata.keys hother hentry hkey
      rw [heq] at hchanges
      exact of_decide_eq_true hchanges hsame
    rw [htext, substitute_around hdata hentry,
      substitute_around_value huntouched, hfirst, hlast, hsame]
  · apply substitute_filter
    intro entry hentry hchanges hplace
    exact hoccurs ⟨entry, hentry, by simpa [changes] using hchanges, hplace⟩
termination_by text.length

theorem length_substitute_le (hkey : BraceFree entry.1)
    (hlength : entry.2.length ≤ (placeholder entry.1).length)
    (text : List Char) : (substitute [entry] text).length ≤ text.length := by
  by_cases hoccurs : placeholder entry.1 <:+: text
  · obtain ⟨before, after, htext, hbefore, hafter⟩ :=
      split_at_placeholder hoccurs
    have hfirst := length_substitute_le hkey hlength before
    have hlast := length_substitute_le hkey hlength after
    rw [htext, substitute_singleton_around hkey]
    simp only [List.length_append]
    omega
  · rw [substitute_singleton_of_absent hoccurs]
termination_by text.length

theorem le_length_substitute (hkey : BraceFree entry.1)
    (hlength : (placeholder entry.1).length ≤ entry.2.length)
    (text : List Char) : text.length ≤ (substitute [entry] text).length := by
  by_cases hoccurs : placeholder entry.1 <:+: text
  · obtain ⟨before, after, htext, hbefore, hafter⟩ :=
      split_at_placeholder hoccurs
    have hfirst := le_length_substitute hkey hlength before
    have hlast := le_length_substitute hkey hlength after
    rw [htext, substitute_singleton_around hkey]
    simp only [List.length_append]
    omega
  · rw [substitute_singleton_of_absent hoccurs]
termination_by text.length

/-- A text with the placeholder changes unless its value is the placeholder
itself. -/
theorem value_eq_of_substitute_eq (hkey : BraceFree entry.1)
    {text : List Char} (hoccurs : placeholder entry.1 <:+: text)
    (hsame : substitute [entry] text = text) :
    entry.2 = placeholder entry.1 := by
  obtain ⟨before, after, htext, -, -⟩ := split_at_placeholder hoccurs
  rw [htext, substitute_singleton_around hkey] at hsame
  have hlengths := congrArg List.length hsame
  simp only [List.length_append] at hlengths
  have hle := length_substitute_le hkey
  have hge := le_length_substitute hkey
  rcases Nat.lt_trichotomy entry.2.length (placeholder entry.1).length with
    hlt | heq | hgt
  · have hfirst := hle hlt.le before
    have hlast := hle hlt.le after
    omega
  · have hfirst := Nat.le_antisymm (hle heq.le before) (hge heq.ge before)
    obtain ⟨-, hrest⟩ := List.append_inj hsame hfirst
    exact (List.append_inj hrest heq).1
  · have hfirst := hge hgt.le before
    have hlast := hge hgt.le after
    omega

end Entries

end Placeholders
