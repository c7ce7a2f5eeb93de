/-
Systems that take one guarded step after another.
-/
import Mathlib.Tactic.Common

namespace StepSystem

variable {State Action : Type} (step : State → Action → Option State)

/-- The state after a list of steps, if each of them was possible. -/
def run : State → List Action → Option State
  | state, [] => some state
  | state, action :: actions =>
      (step state action).bind fun next => run next actions

theorem run_cons {state last : State} {action : Action}
    {actions : List Action} :
    run step state (action :: actions) = some last ↔
      ∃ next, step state action = some next ∧
        run step next actions = some last := by
  simp [run, Option.bind_eq_some_iff]

theorem run_append {state middle last : State} {first second : List Action}
    (hfirst : run step state first = some middle) :
    run step state (first ++ second) = some last ↔
      run step middle second = some last := by
  induction first generalizing state with
  | nil =>
      cases hfirst
      exact Iff.rfl
  | cons action first ih =>
      obtain ⟨next, hnext, hrest⟩ := (run_cons step).mp hfirst
      rw [List.cons_append, run_cons]
      constructor
      · rintro ⟨other, hother, hrun⟩
        cases hnext.symm.trans hother
        exact (ih hrest).mp hrun
      · exact fun hrun => ⟨next, hnext, (ih hrest).mpr hrun⟩

/-- The last step of a run. -/
theorem run_concat {state last : State} {action : Action}
    {actions : List Action} :
    run step state (actions ++ [action]) = some last ↔
      ∃ middle, run step state actions = some middle ∧
        step middle action = some last := by
  induction actions generalizing state with
  | nil => simp [run]
  | cons first actions ih =>
      rw [List.cons_append, run_cons]
      constructor
      · rintro ⟨next, hnext, hrun⟩
        obtain ⟨middle, hmiddle, hlast⟩ := ih.mp hrun
        exact ⟨middle, (run_cons step).mpr ⟨next, hnext, hmiddle⟩, hlast⟩
      · rintro ⟨middle, hmiddle, hlast⟩
        obtain ⟨next, hnext, hrun⟩ := (run_cons step).mp hmiddle
        exact ⟨next, hnext, ih.mpr ⟨middle, hrun, hlast⟩⟩

/-- The state after a run, the first state when the run is not possible. -/
def after (state : State) (actions : List Action) : State :=
  (run step state actions).getD state

theorem run_after {state : State} {actions : List Action}
    (hrun : (run step state actions).isSome = true) :
    run step state actions = some (after step state actions) := by
  obtain ⟨last, hlast⟩ := Option.isSome_iff_exists.mp hrun
  rw [after, hlast, Option.getD_some]

/-- Every step of the run meets `Meets` in the state it starts from. -/
def Along (Meets : State → Action → Prop) : State → List Action → Prop
  | _, [] => True
  | state, action :: actions =>
      Meets state action ∧
        ∀ next, step state action = some next → Along Meets next actions

theorem along_cons {Meets : State → Action → Prop} {state next : State}
    {action : Action} {actions : List Action} (hmeets : Meets state action)
    (hstep : step state action = some next)
    (hrest : Along step Meets next actions) :
    Along step Meets state (action :: actions) := by
  refine ⟨hmeets, fun other hother => ?_⟩
  cases hstep.symm.trans hother
  exact hrest

theorem along_of_forall {Meets : State → Action → Prop}
    {actions : List Action}
    (hmeets : ∀ action ∈ actions, ∀ state, Meets state action)
    (state : State) : Along step Meets state actions := by
  induction actions generalizing state with
  | nil => trivial
  | cons action actions ih =>
      rw [List.forall_mem_cons] at hmeets
      exact ⟨hmeets.1 state, fun next _ => ih hmeets.2 next⟩

theorem along_true (state : State) (actions : List Action) :
    Along step (fun _ _ => True) state actions :=
  along_of_forall step (fun _ _ _ => trivial) state

theorem Along.and {First Second : State → Action → Prop} {state : State}
    {actions : List Action} (hfirst : Along step First state actions)
    (hsecond : Along step Second state actions) :
    Along step (fun state action => First state action ∧ Second state action)
      state actions := by
  induction actions generalizing state with
  | nil => trivial
  | cons action actions ih =>
      exact ⟨⟨hfirst.1, hsecond.1⟩, fun next hnext =>
        ih (hfirst.2 next hnext) (hsecond.2 next hnext)⟩

theorem Along.imp {First Second : State → Action → Prop}
    (himp : ∀ state action, First state action → Second state action)
    {state : State} {actions : List Action}
    (hfirst : Along step First state actions) :
    Along step Second state actions := by
  induction actions generalizing state with
  | nil => trivial
  | cons action actions ih =>
      exact ⟨himp _ _ hfirst.1, fun next hnext => ih (hfirst.2 next hnext)⟩

/-- What the steps of a kind preserve may be used at each of them. -/
theorem Along.of_preserved {First Second : State → Action → Prop}
    (Inv : State → Prop)
    (hstep : ∀ state action next, Inv state → First state action →
      step state action = some next → Inv next)
    (himp : ∀ state action, Inv state → First state action →
      Second state action)
    {state : State} {actions : List Action} (hstart : Inv state)
    (hfirst : Along step First state actions) :
    Along step Second state actions := by
  induction actions generalizing state with
  | nil => trivial
  | cons action actions ih =>
      refine ⟨himp state action hstart hfirst.1, fun next hnext => ?_⟩
      exact ih (hstep state action next hstart hfirst.1 hnext)
        (hfirst.2 next hnext)

/-- Two conditions that agree wherever the invariant holds agree along every
run from there. -/
theorem along_iff (Inv : State → Prop)
    {First Second : State → Action → Prop}
    (hinv : ∀ state action next, Inv state → step state action = some next →
      Inv next)
    (hiff : ∀ state action, Inv state →
      (First state action ↔ Second state action))
    {state : State} {actions : List Action} (hstart : Inv state) :
    Along step First state actions ↔ Along step Second state actions := by
  induction actions generalizing state with
  | nil => exact Iff.rfl
  | cons action actions ih =>
      apply and_congr (hiff state action hstart)
      apply forall_congr'
      intro next
      apply imp_congr_right
      intro hnext
      exact ih (hinv state action next hstart hnext)

/-- Evaluates a condition along a run. -/
def checkAlong (check : State → Action → Bool) : State → List Action → Bool
  | _, [] => true
  | state, action :: actions =>
      check state action &&
        (step state action).all fun next => checkAlong check next actions

theorem along_of_check {Meets : State → Action → Prop}
    {check : State → Action → Bool}
    (hcheck : ∀ state action, check state action = true → Meets state action)
    {state : State} {actions : List Action}
    (halong : checkAlong step check state actions = true) :
    Along step Meets state actions := by
  induction actions generalizing state with
  | nil => trivial
  | cons action actions ih =>
      rw [checkAlong, Bool.and_eq_true] at halong
      refine ⟨hcheck state action halong.1, fun next hstep => ih ?_⟩
      rw [hstep] at halong
      exact halong.2

theorem along_append {Meets : State → Action → Prop} {state middle : State}
    {first second : List Action} (hfirst : Along step Meets state first)
    (hrun : run step state first = some middle)
    (hsecond : Along step Meets middle second) :
    Along step Meets state (first ++ second) := by
  induction first generalizing state with
  | nil =>
      cases hrun
      exact hsecond
  | cons action first ih =>
      obtain ⟨next, hnext, hrest⟩ := (run_cons step).mp hrun
      refine ⟨hfirst.1, ?_⟩
      intro other hother
      cases hnext.symm.trans hother
      exact ih (hfirst.2 next hnext) hrest

/-- What the rest of a run meets, from where its first part leads. -/
theorem Along.rest {Meets : State → Action → Prop} {state middle : State}
    {first second : List Action}
    (halong : Along step Meets state (first ++ second))
    (hrun : run step state first = some middle) :
    Along step Meets middle second := by
  induction first generalizing state with
  | nil =>
      cases hrun
      exact halong
  | cons action first ih =>
      obtain ⟨next, hnext, hrest⟩ := (run_cons step).mp hrun
      exact ih (halong.2 next hnext) hrest

/-- What each step of a kind preserves, a run of such steps preserves. -/
theorem run_preserves {Meets : State → Action → Prop} {Inv : State → Prop}
    (hstep : ∀ state action next, Inv state → Meets state action →
      step state action = some next → Inv next)
    {state last : State} {actions : List Action} (hinv : Inv state)
    (hmeets : Along step Meets state actions)
    (hrun : run step state actions = some last) : Inv last := by
  induction actions generalizing state with
  | nil =>
      cases hrun
      exact hinv
  | cons action actions ih =>
      obtain ⟨next, hnext, hrest⟩ := (run_cons step).mp hrun
      exact ih (hstep state action next hinv hmeets.1 hnext)
        (hmeets.2 next hnext) hrest

/-- Where each step keeps the property exactly when it meets the condition, so
does a run. -/
theorem run_iff {Meets : State → Action → Prop} {Inv : State → Prop}
    (hstep : ∀ state action next, step state action = some next →
      (Inv next ↔ Inv state ∧ Meets state action))
    {state last : State} {actions : List Action}
    (hrun : run step state actions = some last) :
    Inv last ↔ Inv state ∧ Along step Meets state actions := by
  induction actions generalizing state with
  | nil =>
      cases hrun
      exact (and_iff_left trivial).symm
  | cons action actions ih =>
      obtain ⟨next, hnext, hrest⟩ := (run_cons step).mp hrun
      rw [ih hrest, hstep state action next hnext, and_assoc]
      constructor
      · rintro ⟨hinv, hmeets, halong⟩
        refine ⟨hinv, hmeets, fun other hother => ?_⟩
        cases hnext.symm.trans hother
        exact halong
      · rintro ⟨hinv, hmeets, halong⟩
        exact ⟨hinv, hmeets, halong next hnext⟩

/-- `Holds` in every state of the run, the first and the last included. -/
def Throughout (Holds : State → Prop) : State → List Action → Prop
  | state, [] => Holds state
  | state, action :: actions =>
      Holds state ∧
        ∀ next, step state action = some next → Throughout Holds next actions

theorem Throughout.first {Holds : State → Prop} {state : State}
    {actions : List Action} (hholds : Throughout step Holds state actions) :
    Holds state := by
  cases actions with
  | nil => exact hholds
  | cons action actions => exact hholds.1

/-- Where each step out of a good state leads to a good state exactly when it
meets the condition, a run stays good exactly when all its steps meet it. -/
theorem throughout_iff {Meets : State → Action → Prop}
    {Inv Holds : State → Prop}
    (hinv : ∀ state action next, Inv state → step state action = some next →
      Inv next)
    (hstep : ∀ state action next, Inv state → Holds state →
      step state action = some next → (Holds next ↔ Meets state action))
    {state last : State} {actions : List Action} (hstart : Inv state)
    (hholds : Holds state) (hrun : run step state actions = some last) :
    Throughout step Holds state actions ↔ Along step Meets state actions := by
  induction actions generalizing state with
  | nil => exact ⟨fun _ => trivial, fun _ => hholds⟩
  | cons action actions ih =>
      obtain ⟨next, hnext, hrest⟩ := (run_cons step).mp hrun
      have hiff := hstep state action next hstart hholds hnext
      have hnextInv := hinv state action next hstart hnext
      constructor
      · rintro ⟨-, hthroughout⟩
        have hgood := hthroughout next hnext
        have hfirst := hgood.first
        exact along_cons step (hiff.mp hfirst) hnext
          ((ih hnextInv hfirst hrest).mp hgood)
      · rintro ⟨hmeets, halong⟩
        refine ⟨hholds, fun other hother => ?_⟩
        cases hnext.symm.trans hother
        exact (ih hnextInv (hiff.mpr hmeets) hrest).mpr (halong next hnext)

theorem run_invariant {Inv : State → Prop}
    (hstep : ∀ state action next, Inv state → step state action = some next →
      Inv next)
    {state last : State} {actions : List Action} (hinv : Inv state)
    (hrun : run step state actions = some last) : Inv last :=
  run_preserves step (fun state action next hstate _ hnext =>
    hstep state action next hstate hnext) hinv
    (along_true step state actions) hrun

/-- A relation between the ends of a run that single steps satisfy. -/
theorem run_relates (Inv : State → Prop) {Rel : State → State → Prop}
    (hrefl : ∀ state, Rel state state)
    (htrans : ∀ first second third, Rel first second → Rel second third →
      Rel first third)
    (hstep : ∀ state action next, Inv state → step state action = some next →
      Inv next ∧ Rel state next)
    {state last : State} {actions : List Action} (hinv : Inv state)
    (hrun : run step state actions = some last) : Rel state last := by
  induction actions generalizing state with
  | nil =>
      cases hrun
      exact hrefl _
  | cons action actions ih =>
      obtain ⟨next, hnext, hrest⟩ := (run_cons step).mp hrun
      obtain ⟨hkeep, hrel⟩ := hstep state action next hinv hnext
      exact htrans state next last hrel (ih hkeep hrest)

end StepSystem
