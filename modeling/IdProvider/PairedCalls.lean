/-
Pairs of calls that nobody can tell apart: from related states they have the
same outcome, and they leave related states.
-/
import IdProvider.AnsweringSystem
import IdProvider.ServiceCall

namespace ServiceCall

variable {State Other Error Value Next : Type}

/-- From states related by `before` the calls have one outcome, and they leave
states related by `after`. -/
def Paired (before after : State → Other → Prop)
    (first : Call State Error Value) (second : Call Other Error Value) :
    Prop :=
  ∀ state other, before state other →
    (first state).1 = (second other).1 ∧
      after (first state).2 (second other).2

section Paired

variable {before middle after : State → Other → Prop}
  {first : Call State Error Value} {second : Call Other Error Value}

/-- Where the first parts are paired and the rests are, whatever was returned,
the whole calls are. -/
theorem Paired.bind {firstNext : Value → Call State Error Next}
    {secondNext : Value → Call Other Error Next}
    (hcall : Paired before middle first second)
    (hnext : ∀ value, Paired middle after (firstNext value)
      (secondNext value))
    (herror : ∀ state other, middle state other → after state other) :
    Paired before after (first >>= firstNext) (second >>= secondNext) := by
  intro state other hbefore
  obtain ⟨houtcome, hmiddle⟩ := hcall state other hbefore
  rcases hfirst : first state with ⟨error | value, firstAfter⟩
  · rw [hfirst] at houtcome hmiddle
    have hsecond : second other = (.error error, (second other).2) :=
      Prod.ext houtcome.symm rfl
    rw [bind_error hfirst, bind_error hsecond]
    exact ⟨rfl, herror _ _ hmiddle⟩
  · rw [hfirst] at houtcome hmiddle
    have hsecond : second other = (.ok value, (second other).2) :=
      Prod.ext houtcome.symm rfl
    rw [bind_ok hfirst, bind_ok hsecond]
    exact hnext value _ _ hmiddle

theorem Paired.seq {firstNext : Value → Call State Error Next}
    {secondNext : Value → Call Other Error Next}
    (hcall : Paired before before first second)
    (hnext : ∀ value, Paired before before (firstNext value)
      (secondNext value)) :
    Paired before before (first >>= firstNext) (second >>= secondNext) :=
  hcall.bind hnext fun _ _ hbefore => hbefore

theorem Paired.imp (hcall : Paired before middle first second)
    (himp : ∀ state other, middle state other → after state other) :
    Paired before after first second := by
  intro state other hbefore
  obtain ⟨houtcome, hmiddle⟩ := hcall state other hbefore
  exact ⟨houtcome, himp _ _ hmiddle⟩

theorem paired_pure (value : Value) :
    Paired before before (pure value : Call State Error Value)
      (pure value : Call Other Error Value) :=
  fun _ _ hbefore => ⟨rfl, hbefore⟩

theorem paired_fail (error : Error) :
    Paired before before (fail error : Call State Error Value)
      (fail error : Call Other Error Value) :=
  fun _ _ hbefore => ⟨rfl, hbefore⟩

theorem paired_ite {condition : Prop} [Decidable condition]
    {firstElse : Call State Error Value}
    {secondElse : Call Other Error Value}
    (hthen : condition → Paired before after first second)
    (helse : ¬ condition → Paired before after firstElse secondElse) :
    Paired before after (if condition then first else firstElse)
      (if condition then second else secondElse) := by
  by_cases hcondition : condition
  · rw [if_pos hcondition, if_pos hcondition]
    exact hthen hcondition
  · rw [if_neg hcondition, if_neg hcondition]
    exact helse hcondition

end Paired

end ServiceCall
