/-
Slots under keys that change one entry at a time, and the log of what each
entry found in its slot and left there.
-/
import Mathlib.Data.List.Basic

namespace SlotLog

variable {Slot Entry Key : Type}

section OneSlot

variable (found left : Entry → Slot)

/-- The entries take a slot from its first content to its last, each of them
finding what the one before it left. -/
def Follows : Slot → List Entry → Slot → Prop
  | start, [], last => start = last
  | start, entry :: entries, last =>
      found entry = start ∧ Follows (left entry) entries last

theorem follows_append {start last : Slot} {first second : List Entry} :
    Follows found left start (first ++ second) last ↔
      ∃ middle, Follows found left start first middle ∧
        Follows found left middle second last := by
  induction first generalizing start with
  | nil => simp [Follows]
  | cons entry entries ih =>
      simp only [List.cons_append, Follows, ih]
      constructor
      · rintro ⟨hfound, middle, hfirst, hsecond⟩
        exact ⟨middle, ⟨hfound, hfirst⟩, hsecond⟩
      · rintro ⟨middle, ⟨hfound, hfirst⟩, hsecond⟩
        exact ⟨hfound, middle, hfirst, hsecond⟩

theorem follows_concat {start last : Slot} {entries : List Entry}
    {entry : Entry} (hentries : Follows found left start entries last)
    (hfound : found entry = last) :
    Follows found left start (entries ++ [entry]) (left entry) :=
  (follows_append found left).mpr ⟨last, hentries, hfound, rfl⟩

/-- Where what an entry leaves and puts out is decided by what it finds and
asks for, so is what a list of entries puts out. -/
theorem outputs_eq {Request Output : Type} {asks : Entry → Request}
    {output : Entry → Output}
    (hdecided : ∀ one other, found one = found other → asks one = asks other →
      left one = left other ∧ output one = output other)
    {start last last' : Slot} {ones others : List Entry}
    (hones : Follows found left start ones last)
    (hothers : Follows found left start others last')
    (hasks : ones.map asks = others.map asks) :
    ones.map output = others.map output := by
  induction ones generalizing start others with
  | nil =>
      rw [List.map_nil, eq_comm, List.map_eq_nil_iff] at hasks
      subst hasks
      rfl
  | cons one ones ih =>
      cases others with
      | nil => cases hasks
      | cons other others =>
          obtain ⟨hone, hones⟩ := hones
          obtain ⟨hother, hothers⟩ := hothers
          rw [List.map_cons, List.map_cons, List.cons.injEq] at hasks
          obtain ⟨hleft, houtput⟩ :=
            hdecided one other (hone.trans hother.symm) hasks.1
          rw [hleft] at hones
          rw [List.map_cons, List.map_cons, houtput,
            ih hones hothers hasks.2]

end OneSlot

section Keyed

variable [DecidableEq Key] (found left : Entry → Slot) (keyOf : Entry → Key)

/-- The entries of a log that are about one key. -/
def on (key : Key) (log : List Entry) : List Entry :=
  log.filter fun entry => decide (keyOf entry = key)

/-- The log takes the slots from their first contents to their last. -/
def Logged (start : Key → Slot) (log : List Entry) (slots : Key → Slot) :
    Prop :=
  ∀ key, Follows found left (start key) (on keyOf key log) (slots key)

theorem logged_nil (start : Key → Slot) :
    Logged found left keyOf start [] start :=
  fun _ => rfl

theorem on_append (key : Key) (first second : List Entry) :
    on keyOf key (first ++ second) = on keyOf key first ++ on keyOf key second :=
  List.filter_append ..

theorem on_cons_self (entry : Entry) (log : List Entry) :
    on keyOf (keyOf entry) (entry :: log) =
      entry :: on keyOf (keyOf entry) log :=
  List.filter_cons_of_pos (decide_eq_true rfl)

theorem mem_on {key : Key} {entry : Entry} {log : List Entry} :
    entry ∈ on keyOf key log ↔ entry ∈ log ∧ keyOf entry = key := by
  rw [on, List.mem_filter, decide_eq_true_iff]

theorem logged_record {start slots : Key → Slot} {log : List Entry}
    {entry : Entry} (hlogged : Logged found left keyOf start log slots)
    (hfound : found entry = slots (keyOf entry)) :
    Logged found left keyOf start (log ++ [entry])
      (fun key => if key = keyOf entry then left entry else slots key) := by
  intro key
  beta_reduce
  rw [on_append]
  by_cases hkey : key = keyOf entry
  · subst hkey
    rw [if_pos rfl, on_cons_self]
    exact follows_concat found left (hlogged _) hfound
  · have hother : on keyOf key [entry] = [] :=
      List.filter_eq_nil_iff.mpr fun other hmem hentry => hkey (by
        rw [List.mem_singleton] at hmem
        rw [← of_decide_eq_true hentry, hmem])
    rw [if_neg hkey, hother]
    simpa only [List.append_nil] using hlogged key

end Keyed

end SlotLog
