/-
Threads that take turns on a shared state, and proof obligations that make an
invariant hold under every interleaving: each step keeps its own thread sound
and does not disturb the others.
-/
import IdProvider.StepSystem
import Mathlib.Logic.Function.Basic

namespace Interleaving

/-- What a call starts as, one step of a thread (`none` while it is blocked,
and no next thread once it is done), what is left when it dies, and what
happens beside the threads. -/
structure Program (Shared Thread Call Input Event : Type) where
  start : Call → Thread
  advance : Shared → Thread → Input → Option (Shared × Option Thread)
  abort : Shared → Thread → Shared
  environment : Shared → Event → Option Shared

structure Pool (Shared Thread Id : Type) where
  shared : Shared
  thread : Id → Option Thread

inductive Action (Call Input Event Id : Type) where
  | spawn (id : Id) (call : Call)
  | advance (id : Id) (input : Input)
  | abort (id : Id)
  | environment (event : Event)

/-- Whose step an action is. -/
def Action.mover {Call Input Event Id : Type} :
    Action Call Input Event Id → Option Id
  | .spawn id _ => some id
  | .advance id _ => some id
  | .abort id => some id
  | .environment _ => none

variable {Shared Thread Call Input Event Id : Type} [DecidableEq Id]

/-- No thread is running yet. -/
def Pool.start (shared : Shared) : Pool Shared Thread Id :=
  ⟨shared, fun _ => none⟩

/-- One thread and the shared state are replaced. -/
def Pool.set (pool : Pool Shared Thread Id) (id : Id) (shared : Shared)
    (thread : Option Thread) : Pool Shared Thread Id :=
  ⟨shared, Function.update pool.thread id thread⟩

@[simp]
theorem Pool.set_shared (pool : Pool Shared Thread Id) (id : Id)
    (shared : Shared) (thread : Option Thread) :
    (pool.set id shared thread).shared = shared := rfl

@[simp]
theorem Pool.set_self (pool : Pool Shared Thread Id) (id : Id)
    (shared : Shared) (thread : Option Thread) :
    (pool.set id shared thread).thread id = thread := by
  simp [Pool.set]

theorem Pool.set_of_ne (pool : Pool Shared Thread Id) {id other : Id}
    (shared : Shared) (thread : Option Thread) (hother : other ≠ id) :
    (pool.set id shared thread).thread other = pool.thread other := by
  simp [Pool.set, hother]

section Step

variable (program : Program Shared Thread Call Input Event)

def step (pool : Pool Shared Thread Id) :
    Action Call Input Event Id → Option (Pool Shared Thread Id)
  | .spawn id call =>
      match pool.thread id with
      | some _ => none
      | none =>
          some (pool.set id pool.shared (some (program.start call)))
  | .advance id input =>
      match pool.thread id with
      | none => none
      | some thread =>
          (program.advance pool.shared thread input).map fun next =>
            pool.set id next.1 next.2
  | .abort id =>
      match pool.thread id with
      | none => none
      | some thread =>
          some (pool.set id (program.abort pool.shared thread) none)
  | .environment event =>
      (program.environment pool.shared event).map fun shared =>
        ⟨shared, pool.thread⟩

/-- What a step that is taken has done. -/
inductive Moves (pool : Pool Shared Thread Id) :
    Action Call Input Event Id → Pool Shared Thread Id → Prop
  | spawn (id : Id) (call : Call) (hfree : pool.thread id = none) :
      Moves pool (.spawn id call)
        (pool.set id pool.shared (some (program.start call)))
  | advance (id : Id) (input : Input) (thread : Thread) (after : Shared)
      (following : Option Thread) (hthread : pool.thread id = some thread)
      (hadvance : program.advance pool.shared thread input =
        some (after, following)) :
      Moves pool (.advance id input) (pool.set id after following)
  | abort (id : Id) (thread : Thread)
      (hthread : pool.thread id = some thread) :
      Moves pool (.abort id)
        (pool.set id (program.abort pool.shared thread) none)
  | environment (event : Event) (after : Shared)
      (hevent : program.environment pool.shared event = some after) :
      Moves pool (.environment event) ⟨after, pool.thread⟩

theorem moves_of_step {pool next : Pool Shared Thread Id}
    {action : Action Call Input Event Id}
    (hstep : step program pool action = some next) :
    Moves program pool action next := by
  cases action with
  | spawn id call =>
      dsimp only [step] at hstep
      split at hstep
      case h_1 => cases hstep
      case h_2 hfree =>
        cases hstep
        exact .spawn id call hfree
  | advance id input =>
      dsimp only [step] at hstep
      split at hstep
      case h_1 => cases hstep
      case h_2 thread hthread =>
        rw [Option.map_eq_some_iff] at hstep
        obtain ⟨⟨after, following⟩, hadvance, rfl⟩ := hstep
        exact .advance id input thread after following hthread hadvance
  | abort id =>
      dsimp only [step] at hstep
      split at hstep
      case h_1 => cases hstep
      case h_2 thread hthread =>
        cases hstep
        exact .abort id thread hthread
  | environment event =>
      dsimp only [step] at hstep
      rw [Option.map_eq_some_iff] at hstep
      obtain ⟨after, hevent, rfl⟩ := hstep
      exact .environment event after hevent

/-- Where a thread comes from. -/
theorem thread_of_step {pool next : Pool Shared Thread Id}
    {action : Action Call Input Event Id}
    (hstep : step program pool action = some next) {id : Id} {thread : Thread}
    (hthread : next.thread id = some thread) :
    (action.mover ≠ some id ∧ pool.thread id = some thread) ∨
      (∃ call, action = .spawn id call ∧ program.start call = thread) ∨
      ∃ input old, action = .advance id input ∧
        pool.thread id = some old ∧
        program.advance pool.shared old input =
          some (next.shared, some thread) := by
  have hset : ∀ (mover : Id) (shared : Shared) (following : Option Thread),
      (pool.set mover shared following).thread id = some thread →
        (some mover ≠ some id ∧ pool.thread id = some thread) ∨
          mover = id ∧ following = some thread := by
    intro mover shared following hafter
    by_cases hmover : mover = id
    · subst hmover
      rw [Pool.set_self] at hafter
      exact .inr ⟨rfl, hafter⟩
    · rw [Pool.set_of_ne _ _ _ (Ne.symm hmover)] at hafter
      exact .inl ⟨fun hsame => hmover (Option.some.inj hsame), hafter⟩
  cases moves_of_step program hstep with
  | spawn mover call =>
      rcases hset _ _ _ hthread with hold | ⟨rfl, hnew⟩
      · exact .inl hold
      · exact .inr (.inl ⟨call, rfl, Option.some.inj hnew⟩)
  | advance mover input old after following hold hadvance =>
      rcases hset _ _ _ hthread with hsame | ⟨rfl, hnew⟩
      · exact .inl hsame
      · rw [hnew] at hadvance
        exact .inr (.inr ⟨input, old, rfl, hold, hadvance⟩)
  | abort mover old hold =>
      rcases hset _ _ _ hthread with hsame | ⟨-, hnew⟩
      · exact .inl hsame
      · cases hnew
  | environment event after hevent => exact .inl ⟨nofun, hthread⟩

/-- A condition on the steps of the threads, as one on the steps of the
pool. -/
def Meets (Condition : Shared → Thread → Input → Prop)
    (pool : Pool Shared Thread Id) : Action Call Input Event Id → Prop
  | .advance id input =>
      ∀ thread, pool.thread id = some thread →
        Condition pool.shared thread input
  | _ => True

omit [DecidableEq Id] in
theorem Meets.and {First Second : Shared → Thread → Input → Prop}
    {pool : Pool Shared Thread Id} {action : Action Call Input Event Id}
    (hfirst : Meets First pool action) (hsecond : Meets Second pool action) :
    Meets (fun shared thread input =>
      First shared thread input ∧ Second shared thread input) pool action := by
  cases action with
  | advance id input =>
      exact fun thread hthread =>
        ⟨hfirst thread hthread, hsecond thread hthread⟩
  | spawn | abort | environment => trivial

/-- Where every call of the run is fine, and a fine thread goes on as one, each
step of a fine thread meets its condition. -/
theorem along_of_calls {CallOk : Call → Prop} (ThreadOk : Thread → Prop)
    {Condition : Shared → Thread → Input → Prop}
    (hstart : ∀ call, CallOk call → ThreadOk (program.start call))
    (hadvance : ∀ shared thread input after next, ThreadOk thread →
      program.advance shared thread input = some (after, some next) →
      ThreadOk next)
    (hcondition : ∀ shared thread input, ThreadOk thread →
      Condition shared thread input)
    {actions : List (Action Call Input Event Id)}
    (hcalls : ∀ id call, .spawn id call ∈ actions → CallOk call)
    {pool : Pool Shared Thread Id}
    (hpool : ∀ id thread, pool.thread id = some thread → ThreadOk thread) :
    StepSystem.Along (step program) (Meets Condition) pool actions := by
  induction actions generalizing pool with
  | nil => trivial
  | cons action actions ih =>
      constructor
      · cases action with
        | advance id input =>
            intro thread hthread
            exact hcondition _ _ _ (hpool id thread hthread)
        | spawn | abort | environment => trivial
      · intro next hstep
        apply ih
        · exact fun id call hcall => hcalls id call (List.mem_cons_of_mem _ hcall)
        · intro id thread hthread
          rcases thread_of_step program hstep hthread with
            ⟨-, hold⟩ | ⟨call, rfl, rfl⟩ | ⟨input, old, -, hold, hstep⟩
          · exact hpool id thread hold
          · exact hstart call (hcalls id call List.mem_cons_self)
          · exact hadvance _ _ _ _ _ (hpool id old hold) hstep

/-- Evaluates a condition on the steps of the threads. -/
def checkMeets (check : Shared → Thread → Input → Bool)
    (pool : Pool Shared Thread Id) : Action Call Input Event Id → Bool
  | .advance id input =>
      (pool.thread id).all fun thread => check pool.shared thread input
  | .spawn _ _ => true
  | .abort _ => true
  | .environment _ => true

omit [DecidableEq Id] in
theorem meets_of_check {Condition : Shared → Thread → Input → Prop}
    {check : Shared → Thread → Input → Bool}
    (hcheck : ∀ shared thread input, check shared thread input = true →
      Condition shared thread input)
    (pool : Pool Shared Thread Id) (action : Action Call Input Event Id)
    (hmeets : checkMeets check pool action = true) :
    Meets Condition pool action := by
  cases action with
  | advance id input =>
      intro thread hthread
      rw [checkMeets, hthread] at hmeets
      exact hcheck _ _ _ hmeets
  | spawn | abort | environment => trivial

/-- A run whose conditions are evaluated. -/
theorem along_of_decide {Condition : Shared → Thread → Input → Prop}
    [∀ shared thread input, Decidable (Condition shared thread input)]
    {pool : Pool Shared Thread Id}
    {actions : List (Action Call Input Event Id)}
    (halong : StepSystem.checkAlong (step program)
      (checkMeets fun shared thread input =>
        decide (Condition shared thread input)) pool actions = true) :
    StepSystem.Along (step program) (Meets Condition) pool actions :=
  StepSystem.along_of_check (step program)
    (meets_of_check fun _ _ _ hcheck => of_decide_eq_true hcheck) halong

end Step

/-- An invariant of the shared state, one of each thread in it, and a relation
between any two threads. -/
structure Invariant (Shared Thread : Type) where
  SharedOk : Shared → Prop
  ThreadOk : Shared → Thread → Prop
  Apart : Thread → Thread → Prop

structure Invariant.Holds (invariant : Invariant Shared Thread)
    (pool : Pool Shared Thread Id) : Prop where
  shared : invariant.SharedOk pool.shared
  thread : ∀ id thread, pool.thread id = some thread →
    invariant.ThreadOk pool.shared thread
  apart : ∀ left right leftThread rightThread, left ≠ right →
    pool.thread left = some leftThread →
    pool.thread right = some rightThread →
    invariant.Apart leftThread rightThread

omit [DecidableEq Id] in
theorem Invariant.holds_start {invariant : Invariant Shared Thread}
    {shared : Shared} (hshared : invariant.SharedOk shared) :
    invariant.Holds (Pool.start shared : Pool Shared Thread Id) where
  shared := hshared
  thread id thread hthread := by cases hthread
  apart left right leftThread rightThread _ hleft := by cases hleft

/-- A step of one thread keeps the invariant: of the shared state, of itself,
and of every other thread. -/
structure Invariant.Keeps (invariant : Invariant Shared Thread)
    (before : Shared) (mover : Thread) (after : Shared)
    (next : Option Thread) : Prop where
  shared : invariant.SharedOk after
  thread : ∀ thread, next = some thread → invariant.ThreadOk after thread
  others : ∀ other, invariant.ThreadOk before other →
    invariant.Apart mover other → invariant.ThreadOk after other
  apart : ∀ thread, next = some thread → ∀ other,
    invariant.ThreadOk before other → invariant.Apart mover other →
      invariant.Apart thread other ∧ invariant.Apart other thread

/-- The proof obligations of a program. -/
structure Invariant.Inductive (invariant : Invariant Shared Thread)
    (program : Program Shared Thread Call Input Event)
    (Condition : Shared → Thread → Input → Prop) : Prop where
  start : ∀ shared call, invariant.SharedOk shared →
    invariant.ThreadOk shared (program.start call) ∧
      ∀ other, invariant.Apart (program.start call) other ∧
        invariant.Apart other (program.start call)
  advance : ∀ shared thread input after next, invariant.SharedOk shared →
    invariant.ThreadOk shared thread → Condition shared thread input →
    program.advance shared thread input = some (after, next) →
    invariant.Keeps shared thread after next
  abort : ∀ shared thread, invariant.SharedOk shared →
    invariant.ThreadOk shared thread →
    invariant.Keeps shared thread (program.abort shared thread) none
  environment : ∀ shared event after, invariant.SharedOk shared →
    program.environment shared event = some after →
    invariant.SharedOk after ∧ ∀ thread, invariant.ThreadOk shared thread →
      invariant.ThreadOk after thread

section Run

variable {invariant : Invariant Shared Thread}
  {program : Program Shared Thread Call Input Event}
  {Condition : Shared → Thread → Input → Prop}

/-- Replacing one thread of the pool. -/
theorem Invariant.Holds.replace {pool : Pool Shared Thread Id} {id : Id}
    {mover : Thread} {after : Shared} {next : Option Thread}
    (hholds : invariant.Holds pool) (hmover : pool.thread id = some mover)
    (hkeeps : invariant.Keeps pool.shared mover after next) :
    invariant.Holds (pool.set id after next) := by
  constructor
  · exact hkeeps.shared
  · intro other thread hthread
    by_cases hother : other = id
    · subst hother
      rw [Pool.set_self] at hthread
      exact hkeeps.thread thread hthread
    · rw [Pool.set_of_ne _ _ _ hother] at hthread
      exact hkeeps.others thread (hholds.thread other thread hthread)
        (hholds.apart id other mover thread (Ne.symm hother) hmover hthread)
  · intro left right leftThread rightThread hne hleft hright
    by_cases hleftId : left = id
    · subst hleftId
      rw [Pool.set_self] at hleft
      rw [Pool.set_of_ne _ _ _ hne.symm] at hright
      exact (hkeeps.apart leftThread hleft rightThread
        (hholds.thread right rightThread hright)
        (hholds.apart left right mover rightThread hne hmover hright)).1
    · rw [Pool.set_of_ne _ _ _ hleftId] at hleft
      by_cases hrightId : right = id
      · subst hrightId
        rw [Pool.set_self] at hright
        exact (hkeeps.apart rightThread hright leftThread
          (hholds.thread left leftThread hleft)
          (hholds.apart right left mover leftThread hne.symm hmover hleft)).2
      · rw [Pool.set_of_ne _ _ _ hrightId] at hright
        exact hholds.apart left right leftThread rightThread hne hleft hright

theorem Invariant.Holds.spawn {pool : Pool Shared Thread Id} {id : Id}
    {call : Call} (hinductive : invariant.Inductive program Condition)
    (hholds : invariant.Holds pool) :
    invariant.Holds
      (pool.set id pool.shared (some (program.start call))) := by
  obtain ⟨hstart, hapart⟩ :=
    hinductive.start pool.shared call hholds.shared
  constructor
  · exact hholds.shared
  · intro other thread hthread
    by_cases hother : other = id
    · subst hother
      rw [Pool.set_self, Option.some.injEq] at hthread
      rwa [← hthread]
    · rw [Pool.set_of_ne _ _ _ hother] at hthread
      exact hholds.thread other thread hthread
  · intro left right leftThread rightThread hne hleft hright
    by_cases hleftId : left = id
    · subst hleftId
      rw [Pool.set_self, Option.some.injEq] at hleft
      rw [← hleft]
      exact (hapart rightThread).1
    · rw [Pool.set_of_ne _ _ _ hleftId] at hleft
      by_cases hrightId : right = id
      · subst hrightId
        rw [Pool.set_self, Option.some.injEq] at hright
        rw [← hright]
        exact (hapart leftThread).2
      · rw [Pool.set_of_ne _ _ _ hrightId] at hright
        exact hholds.apart left right leftThread rightThread hne hleft hright

/-- One step of any thread keeps an inductive invariant. -/
theorem Invariant.Inductive.step
    (hinductive : invariant.Inductive program Condition)
    {pool next : Pool Shared Thread Id} {action : Action Call Input Event Id}
    (hholds : invariant.Holds pool) (hmeets : Meets Condition pool action)
    (hstep : step program pool action = some next) :
    invariant.Holds next := by
  cases moves_of_step program hstep with
  | spawn id call => exact hholds.spawn hinductive
  | advance id input thread after following hthread hadvance =>
      exact hholds.replace hthread
        (hinductive.advance pool.shared thread input after following
          hholds.shared (hholds.thread id thread hthread)
          (hmeets thread hthread) hadvance)
  | abort id thread hthread =>
      exact hholds.replace hthread
        (hinductive.abort pool.shared thread hholds.shared
          (hholds.thread id thread hthread))
  | environment event after hevent =>
      obtain ⟨hshared, hthreads⟩ := hinductive.environment pool.shared event
        after hholds.shared hevent
      exact ⟨hshared, fun id thread hthread =>
        hthreads thread (hholds.thread id thread hthread), hholds.apart⟩

/-- Under every interleaving whose steps meet the condition, an inductive
invariant holds throughout. -/
theorem Invariant.Inductive.run
    (hinductive : invariant.Inductive program Condition)
    {pool last : Pool Shared Thread Id}
    {actions : List (Action Call Input Event Id)}
    (hholds : invariant.Holds pool)
    (hmeets : StepSystem.Along (Interleaving.step program) (Meets Condition)
      pool actions)
    (hrun : StepSystem.run (Interleaving.step program) pool actions =
      some last) : invariant.Holds last :=
  StepSystem.run_preserves (Interleaving.step program)
    (fun _ _ _ hstate hmeets hstep => hinductive.step hstate hmeets hstep)
    hholds hmeets hrun

/-- Where a step of a thread leads from a good state to a good one exactly
when it meets the condition, and nothing else matters, a run stays good exactly
when all steps meet it. -/
theorem Invariant.Inductive.throughout_iff {Good : Shared → Prop}
    (hinductive : invariant.Inductive program fun _ _ _ => True)
    (hadvance : ∀ shared thread input after next, invariant.SharedOk shared →
      invariant.ThreadOk shared thread → Good shared →
      program.advance shared thread input = some (after, next) →
      (Good after ↔ Condition shared thread input))
    (habort : ∀ shared thread, invariant.SharedOk shared →
      invariant.ThreadOk shared thread → Good shared →
      Good (program.abort shared thread))
    (henvironment : ∀ shared event after, invariant.SharedOk shared →
      Good shared → program.environment shared event = some after → Good after)
    {pool last : Pool Shared Thread Id}
    {actions : List (Action Call Input Event Id)}
    (hholds : invariant.Holds pool) (hgood : Good pool.shared)
    (hrun : StepSystem.run (Interleaving.step program) pool actions =
      some last) :
    StepSystem.Throughout (Interleaving.step program)
        (fun pool => Good pool.shared) pool actions ↔
      StepSystem.Along (Interleaving.step program) (Meets Condition) pool
        actions := by
  have htrue : ∀ (state : Pool Shared Thread Id)
      (action : Action Call Input Event Id),
      Meets (fun _ _ _ => True) state action := by
    intro state action
    cases action with
    | advance id input => exact fun _ _ => trivial
    | spawn | abort | environment => trivial
  refine StepSystem.throughout_iff (Interleaving.step program) ?_ ?_ hholds
    hgood hrun
  · intro state action next hstate hstep
    exact hinductive.step hstate (htrue state action) hstep
  · intro state action next hstate hstateGood hstep
    cases moves_of_step program hstep with
    | spawn id call => exact iff_of_true hstateGood trivial
    | advance id input thread after following hthread hstepped =>
        have hiff := hadvance state.shared thread input after following
          hstate.shared (hstate.thread id thread hthread) hstateGood hstepped
        rw [Pool.set_shared, hiff, Meets]
        constructor
        · intro hcondition other hother
          cases hthread.symm.trans hother
          exact hcondition
        · exact fun hmeets => hmeets thread hthread
    | abort id thread hthread =>
        exact iff_of_true (habort state.shared thread hstate.shared
          (hstate.thread id thread hthread) hstateGood) trivial
    | environment event after hevent =>
        exact iff_of_true (henvironment state.shared event after hstate.shared
          hstateGood hevent) trivial

/-- Where the shared states of an invariant are good, and only a step that
meets the condition leads to a good state, a run stays good exactly when all
its steps meet it. -/
theorem Invariant.Inductive.good_iff {Good : Shared → Prop}
    (hinductive : invariant.Inductive program Condition)
    (hgood : ∀ shared, invariant.SharedOk shared → Good shared)
    (hadvance : ∀ shared thread input after next, invariant.SharedOk shared →
      invariant.ThreadOk shared thread →
      program.advance shared thread input = some (after, next) →
      Good after → Condition shared thread input)
    {pool last : Pool Shared Thread Id}
    {actions : List (Action Call Input Event Id)}
    (hholds : invariant.Holds pool)
    (hrun : StepSystem.run (Interleaving.step program) pool actions =
      some last) :
    StepSystem.Throughout (Interleaving.step program)
        (fun pool => Good pool.shared) pool actions ↔
      StepSystem.Along (Interleaving.step program) (Meets Condition) pool
        actions := by
  induction actions generalizing pool with
  | nil => exact ⟨fun _ => trivial, fun _ => hgood _ hholds.shared⟩
  | cons action actions ih =>
      obtain ⟨next, hnext, hrest⟩ :=
        (StepSystem.run_cons (Interleaving.step program)).mp hrun
      constructor
      · rintro ⟨-, hthroughout⟩
        have hlater := hthroughout next hnext
        have hmeets : Meets Condition pool action := by
          cases moves_of_step program hnext with
          | advance id input thread after following hthread hstepped =>
              intro other hother
              cases hthread.symm.trans hother
              exact hadvance pool.shared thread input after following
                hholds.shared (hholds.thread id thread hthread) hstepped
                hlater.first
          | spawn | abort | environment => trivial
        exact StepSystem.along_cons _ hmeets hnext
          ((ih (hinductive.step hholds hmeets hnext) hrest).mp hlater)
      · rintro ⟨hmeets, halong⟩
        refine ⟨hgood _ hholds.shared, fun other hother => ?_⟩
        cases hnext.symm.trans hother
        exact (ih (hinductive.step hholds hmeets hnext) hrest).mpr
          (halong next hnext)

end Run

/-! ## What the threads still have to do -/

/-- While something is owed, some thread has yet to do it. -/
def Pool.Carries (Owed : Shared → Prop) (Carrier : Thread → Prop)
    (pool : Pool Shared Thread Id) : Prop :=
  Owed pool.shared → ∃ id thread, pool.thread id = some thread ∧
    Carrier thread

/-- What is owed after a step is up to the thread that has taken it, or was
owed before and is up to another one. -/
structure Debt (program : Program Shared Thread Call Input Event)
    (Owed : Shared → Prop) (Carrier : Thread → Prop) : Prop where
  advance : ∀ shared thread input after next,
    program.advance shared thread input = some (after, next) → Owed after →
    (∃ following, next = some following ∧ Carrier following) ∨
      Owed shared ∧ ¬ Carrier thread
  environment : ∀ shared event after,
    program.environment shared event = some after → Owed after → Owed shared

/-- What is owed after a thread has died was owed before, and not carried by
it. -/
def Program.Settles (program : Program Shared Thread Call Input Event)
    (Owed : Shared → Prop) (Carrier : Thread → Prop) : Prop :=
  ∀ shared thread, Owed (program.abort shared thread) →
    Owed shared ∧ ¬ Carrier thread

section Debts

variable {program : Program Shared Thread Call Input Event}
  {Owed : Shared → Prop} {Carrier : Thread → Prop}

/-- Replacing a thread that carries nothing. -/
theorem Pool.Carries.replace {pool : Pool Shared Thread Id} {id : Id}
    {shared : Shared} {thread : Option Thread}
    (hcarries : pool.Carries Owed Carrier) (howed : Owed pool.shared)
    (hmover : ∀ mover, pool.thread id = some mover → ¬ Carrier mover) :
    (pool.set id shared thread).Carries Owed Carrier := by
  intro _
  obtain ⟨other, carrier, hother, hcarrier⟩ := hcarries howed
  have hne : other ≠ id := by
    rintro rfl
    exact hmover carrier hother hcarrier
  refine ⟨other, carrier, ?_, hcarrier⟩
  rw [Pool.set_of_ne _ _ _ hne]
  exact hother

theorem Debt.step (hdebt : Debt program Owed Carrier)
    {pool next : Pool Shared Thread Id} {action : Action Call Input Event Id}
    (hcarries : pool.Carries Owed Carrier)
    (habort : ∀ id, action = .abort id → program.Settles Owed Carrier)
    (hstep : Interleaving.step program pool action = some next) :
    next.Carries Owed Carrier := by
  intro howed
  cases moves_of_step program hstep with
  | spawn id call hfree =>
      refine hcarries.replace howed (fun mover hmover => ?_) howed
      rw [hfree] at hmover
      cases hmover
  | advance id input thread after following hthread hadvance =>
      rcases hdebt.advance _ _ _ _ _ hadvance howed with
        ⟨carrier, rfl, hcarrier⟩ | ⟨hbefore, hmover⟩
      · exact ⟨id, carrier, Pool.set_self _ _ _ _, hcarrier⟩
      · refine hcarries.replace hbefore (fun mover hother => ?_) howed
        cases hthread.symm.trans hother
        exact hmover
  | abort id thread hthread =>
      obtain ⟨hbefore, hmover⟩ :=
        habort id rfl pool.shared thread howed
      refine hcarries.replace hbefore (fun mover hother => ?_) howed
      cases hthread.symm.trans hother
      exact hmover
  | environment event after hevent =>
      exact hcarries (hdebt.environment _ _ _ hevent howed)

/-- Where no thread dies, a run leaves nothing owed that no thread carries. -/
theorem Debt.run (hdebt : Debt program Owed Carrier)
    {pool last : Pool Shared Thread Id}
    {actions : List (Action Call Input Event Id)}
    (hcarries : pool.Carries Owed Carrier)
    (hsurvives : ∀ id, .abort id ∉ actions)
    (hrun : StepSystem.run (Interleaving.step program) pool actions =
      some last) : last.Carries Owed Carrier := by
  have halong : StepSystem.Along (Interleaving.step program)
      (fun _ action => ∀ id, action ≠ .abort id) pool actions := by
    apply StepSystem.along_of_forall
    rintro action haction _ id rfl
    exact hsurvives id haction
  exact StepSystem.run_preserves (Interleaving.step program)
    (fun _ _ _ hstate hmeets hstep => hdebt.step hstate
      (fun id haction => absurd haction (hmeets id)) hstep) hcarries halong
    hrun

/-- Where a thread that dies settles what it carries, threads may die. -/
theorem Debt.run_of_settles (hdebt : Debt program Owed Carrier)
    (hsettles : program.Settles Owed Carrier)
    {pool last : Pool Shared Thread Id}
    {actions : List (Action Call Input Event Id)}
    (hcarries : pool.Carries Owed Carrier)
    (hrun : StepSystem.run (Interleaving.step program) pool actions =
      some last) : last.Carries Owed Carrier :=
  StepSystem.run_invariant (Interleaving.step program)
    (fun _ _ _ hstate hstep => hdebt.step hstate (fun _ _ => hsettles) hstep)
    hcarries hrun

end Debts

/-- A thread that nothing blocks, and that gets closer to its end with each of
its steps while nothing blocks it, is done after some number of them. -/
theorem exists_done {program : Program Shared Thread Call Input Event}
    {Free : Shared → Thread → Prop} {rank : Thread → Nat}
    (hadvance : ∀ shared thread input, Free shared thread → ∃ after next,
      program.advance shared thread input = some (after, next) ∧
        ∀ following, next = some following →
          Free after following ∧ rank following < rank thread)
    {pool : Pool Shared Thread Id} {id : Id} {thread : Thread}
    (hthread : pool.thread id = some thread) (hfree : Free pool.shared thread)
    {inputs : List Input} (hrank : rank thread < inputs.length) :
    ∃ count last, StepSystem.run (step program) pool
        ((inputs.take count).map (Action.advance id)) = some last ∧
      last.thread id = none := by
  induction inputs generalizing pool thread with
  | nil => exact absurd hrank (Nat.not_lt_zero _)
  | cons input inputs ih =>
      obtain ⟨after, next, hnext, hlower⟩ :=
        hadvance pool.shared thread input hfree
      have hstep : step program pool (.advance id input) =
          some (pool.set id after next) := by
        simp only [step, hthread, hnext, Option.map_some]
      cases next with
      | none =>
          refine ⟨1, pool.set id after none, ?_, Pool.set_self _ _ _ _⟩
          rw [List.take_succ_cons, List.take_zero]
          exact (StepSystem.run_cons _).mpr ⟨_, hstep, rfl⟩
      | some following =>
          obtain ⟨hstillFree, hless⟩ := hlower following rfl
          have hlength : rank following < inputs.length := by
            rw [List.length_cons] at hrank
            omega
          obtain ⟨count, last, hrun, hdone⟩ :=
            ih (Pool.set_self pool id after (some following)) hstillFree hlength
          refine ⟨count + 1, last, ?_, hdone⟩
          rw [List.take_succ_cons, List.map_cons]
          exact (StepSystem.run_cons _).mpr ⟨_, hstep, hrun⟩

end Interleaving
