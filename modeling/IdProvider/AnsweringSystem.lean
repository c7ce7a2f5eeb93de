/-
Systems that answer every operation, and the simulation of one such system by
another.
-/
import Mathlib.Tactic.Common

namespace AnsweringSystem

variable {State Operation Answer : Type}

section Run

variable (perform : State → Operation → Answer × State)

def after : State → List Operation → State
  | state, [] => state
  | state, operation :: operations =>
      after (perform state operation).2 operations

def answers : State → List Operation → List Answer
  | _, [] => []
  | state, operation :: operations =>
      (perform state operation).1 ::
        answers (perform state operation).2 operations

/-- Every operation meets `Meets` in the state it is performed in. -/
def Along (Meets : State → Operation → Prop) :
    State → List Operation → Prop
  | _, [] => True
  | state, operation :: operations =>
      Meets state operation ∧
        Along Meets (perform state operation).2 operations

theorem after_append (state : State) (first second : List Operation) :
    after perform state (first ++ second) =
      after perform (after perform state first) second := by
  induction first generalizing state with
  | nil => rfl
  | cons operation first ih => exact ih _

theorem along_append {Meets : State → Operation → Prop} {state : State}
    {first second : List Operation} :
    Along perform Meets state (first ++ second) ↔
      Along perform Meets state first ∧
        Along perform Meets (after perform state first) second := by
  induction first generalizing state with
  | nil => simp [Along, after]
  | cons operation first ih =>
      rw [List.cons_append, Along, Along, ih, and_assoc]
      rfl

theorem after_preserves (Inv : State → Prop) {Meets : Operation → Prop}
    (hstep : ∀ state operation, Inv state → Meets operation →
      Inv (perform state operation).2)
    {state : State} {operations : List Operation} (hinv : Inv state)
    (hmeets : ∀ operation ∈ operations, Meets operation) :
    Inv (after perform state operations) := by
  induction operations generalizing state with
  | nil => exact hinv
  | cons operation operations ih =>
      rw [List.forall_mem_cons] at hmeets
      exact ih (hstep state operation hinv hmeets.1) hmeets.2

/-- An invariant that makes every operation of a kind meet a condition. -/
theorem along_of_invariant (Inv : State → Prop) {Kind : Operation → Prop}
    {Meets : State → Operation → Prop}
    (hmeets : ∀ state operation, Inv state → Kind operation →
      Meets state operation)
    (hstep : ∀ state operation, Inv state → Kind operation →
      Inv (perform state operation).2)
    {state : State} {operations : List Operation} (hinv : Inv state)
    (hkind : ∀ operation ∈ operations, Kind operation) :
    Along perform Meets state operations := by
  induction operations generalizing state with
  | nil => trivial
  | cons operation operations ih =>
      rw [List.forall_mem_cons] at hkind
      exact ⟨hmeets state operation hinv hkind.1,
        ih (hstep state operation hinv hkind.1) hkind.2⟩

/-- Two runs of the same operations that nobody can tell apart: the relation
may depend on what is still to come. -/
theorem answers_of_related {Other : Type}
    {performOther : Other → Operation → Answer × Other}
    {Related : List Operation → State → Other → Prop}
    (hstep : ∀ operation operations state other,
      Related (operation :: operations) state other →
        (perform state operation).1 = (performOther other operation).1 ∧
          Related operations (perform state operation).2
            (performOther other operation).2)
    {operations : List Operation} {state : State} {other : Other}
    (hrelated : Related operations state other) :
    answers perform state operations =
      answers performOther other operations := by
  induction operations generalizing state other with
  | nil => rfl
  | cons operation operations ih =>
      obtain ⟨hanswer, hnext⟩ :=
        hstep operation operations state other hrelated
      rw [answers, answers, hanswer, ih hnext]

end Run

section Simulation

variable {Abstract : Type} (perform : State → Operation → Answer × State)
  (spec : Abstract → Operation → Answer × Abstract) (view : State → Abstract)
  {Meets : Abstract → Operation → Prop}

/-- Where every operation answers and acts as in the abstract system, so does
a run. -/
theorem answers_eq {Inv : State → Prop}
    (hstep : ∀ state operation, Inv state → Meets (view state) operation →
      (perform state operation).1 = (spec (view state) operation).1 ∧
        view (perform state operation).2 =
          (spec (view state) operation).2 ∧
        Inv (perform state operation).2)
    {state : State} {operations : List Operation} (hinv : Inv state)
    (hmeets : Along spec Meets (view state) operations) :
    answers perform state operations =
        answers spec (view state) operations ∧
      view (after perform state operations) =
        after spec (view state) operations := by
  induction operations generalizing state with
  | nil => exact ⟨rfl, rfl⟩
  | cons operation operations ih =>
      obtain ⟨hanswer, hview, hnext⟩ := hstep state operation hinv hmeets.1
      have hrest := hmeets.2
      rw [← hview] at hrest
      obtain ⟨hanswers, hafter⟩ := ih hnext hrest
      rw [answers, answers, after, after, hanswer, hanswers, hafter, hview]
      exact ⟨rfl, rfl⟩

end Simulation

end AnsweringSystem
