/-
Calls that read and change a state and may throw, with rules for what holds
when they are done.
-/
import Mathlib.Order.Defs.Unbundled
import Mathlib.Tactic.Common

namespace ServiceCall

/-- Changes of the state survive an error. -/
def Call (State Error Value : Type) : Type :=
  State → Except Error Value × State

variable {State Error Value Next : Type}

instance : Monad (Call State Error) where
  pure value := fun state => (.ok value, state)
  bind call next := fun state =>
    match call state with
    | (.ok value, after) => next value after
    | (.error error, after) => (.error error, after)

def fail (error : Error) : Call State Error Value :=
  fun state => (.error error, state)

def observe (read : State → Value) : Call State Error Value :=
  fun state => (.ok (read state), state)

def change (write : State → State) : Call State Error Unit :=
  fun state => (.ok (), write state)

instance : LawfulMonad (Call State Error) :=
  LawfulMonad.mk' (Call State Error)
    (by
      intro Value call
      funext state
      change (match call state with
        | (.ok value, after) => (.ok value, after)
        | (.error error, after) => (.error error, after)) = call state
      rcases call state with ⟨_ | _, _⟩ <;> rfl)
    (fun _ _ => rfl)
    (by
      intro Value Middle Next call next last
      funext state
      change (match (match call state with
        | (.ok value, after) => next value after
        | (.error error, after) => (.error error, after)) with
        | (.ok value, after) => last value after
        | (.error error, after) => (.error error, after)) =
        match call state with
        | (.ok value, after) => (next value >>= last) after
        | (.error error, after) => (.error error, after)
      rcases call state with ⟨_ | _, _⟩ <;> rfl)

/-- `try { await call } catch {}`. -/
def attempt (call : Call State Error Unit) : Call State Error Unit :=
  fun state => (.ok (), (call state).2)

/-- `try { ... } catch (error) { ... }`: the outcome, for the rest to go on. -/
def settle (call : Call State Error Value) :
    Call State Error (Except Error Value) :=
  fun state => (.ok (call state).1, (call state).2)

theorem bind_ok {call : Call State Error Value}
    {next : Value → Call State Error Next} {state after : State}
    {value : Value} (hcall : call state = (.ok value, after)) :
    (call >>= next) state = next value after := by
  change (match call state with
    | (.ok value, after) => next value after
    | (.error error, after) => (.error error, after)) = _
  rw [hcall]

theorem bind_error {call : Call State Error Value}
    {next : Value → Call State Error Next} {state after : State}
    {error : Error} (hcall : call state = (.error error, after)) :
    (call >>= next) state = (.error error, after) := by
  change (match call state with
    | (.ok value, after) => next value after
    | (.error error, after) => (.error error, after)) = _
  rw [hcall]

theorem bind_ok_iff {call : Call State Error Value}
    {next : Value → Call State Error Next} {state last : State}
    {value : Next} :
    (call >>= next) state = (.ok value, last) ↔
      ∃ middle after, call state = (.ok middle, after) ∧
        next middle after = (.ok value, last) := by
  rcases hcall : call state with ⟨error | middle, after⟩
  · rw [bind_error hcall]
    simp
  · rw [bind_ok hcall]
    simp

theorem ite_bind {condition : Prop} [Decidable condition]
    (left right : Call State Error Value)
    (next : Value → Call State Error Next) :
    ((if condition then left else right) >>= next) =
      if condition then left >>= next else right >>= next := by
  split
  case isTrue => rfl
  case isFalse => rfl

/-! ## Postconditions -/

/-- When the call is done, `post` holds of its outcome and the state. -/
def Ensures (call : Call State Error Value)
    (post : Except Error Value → State → Prop) (state : State) : Prop :=
  post (call state).1 (call state).2

section Ensures

variable {call : Call State Error Value} {next : Value → Call State Error Next}
  {post post' : Except Error Value → State → Prop}
  {last : Except Error Next → State → Prop} {state : State}

@[simp]
theorem ensures_pure {value : Value} :
    Ensures (pure value : Call State Error Value) post state ↔
      post (.ok value) state := Iff.rfl

@[simp]
theorem ensures_fail {error : Error} :
    Ensures (fail error : Call State Error Value) post state ↔
      post (.error error) state := Iff.rfl

@[simp]
theorem ensures_observe {read : State → Value} :
    Ensures (observe read : Call State Error Value) post state ↔
      post (.ok (read state)) state := Iff.rfl

theorem Ensures.imp (hcall : Ensures call post state)
    (himp : ∀ outcome after, post outcome after → post' outcome after) :
    Ensures call post' state :=
  himp _ _ hcall

theorem Ensures.and (hleft : Ensures call post state)
    (hright : Ensures call post' state) :
    Ensures call (fun outcome after =>
      post outcome after ∧ post' outcome after) state :=
  ⟨hleft, hright⟩

/-- What the first call ensures is what the rest starts from. -/
theorem Ensures.bind (hcall : Ensures call post state)
    (hnext : ∀ value after, post (.ok value) after →
      Ensures (next value) last after)
    (herror : ∀ error after, post (.error error) after →
      last (.error error) after) : Ensures (call >>= next) last state := by
  unfold Ensures at hcall ⊢
  change last (match call state with
    | (.ok value, after) => next value after
    | (.error error, after) => (.error error, after)).1
    (match call state with
    | (.ok value, after) => next value after
    | (.error error, after) => (.error error, after)).2
  rcases hrun : call state with ⟨outcome, after⟩
  rw [hrun] at hcall
  cases outcome with
  | ok value => exact hnext value after hcall
  | error error => exact herror error after hcall

/-- A call that ends in an error. -/
theorem ensures_bind_fail {error : Error} {last : Except Error Next → State → Prop}
    (hlast : ∀ error after, last (.error error) after) :
    Ensures (call >>= fun _ => (fail error : Call State Error Next)) last
      state := by
  have htrue : Ensures call (fun _ _ => True) state := trivial
  apply htrue.bind
  · exact fun _ after _ => hlast error after
  · exact fun error after _ => hlast error after

theorem ensures_ite {condition : Prop} [Decidable condition]
    {left right : Call State Error Value}
    (hleft : condition → Ensures left post state)
    (hright : ¬ condition → Ensures right post state) :
    Ensures (if condition then left else right) post state := by
  split
  case isTrue htrue => exact hleft htrue
  case isFalse hfalse => exact hright hfalse

end Ensures

/-! ## Frames -/

/-- The call leaves this view of the state alone, whatever its outcome. -/
def Keeps {View : Type} (view : State → View) (call : Call State Error Value) :
    Prop :=
  ∀ state, view (call state).2 = view state

section Keeps

variable {View : Type} {view : State → View} {call : Call State Error Value}
  {next : Value → Call State Error Next}

theorem keeps_pure (value : Value) :
    Keeps view (pure value : Call State Error Value) := fun _ => rfl

theorem keeps_fail (error : Error) :
    Keeps view (fail error : Call State Error Value) := fun _ => rfl

theorem keeps_observe (read : State → Value) :
    Keeps view (observe read : Call State Error Value) := fun _ => rfl

theorem keeps_change {write : State → State}
    (hwrite : ∀ state, view (write state) = view state) :
    Keeps view (change write : Call State Error Unit) := hwrite

theorem keeps_attempt {call : Call State Error Unit}
    (hcall : Keeps view call) : Keeps view (attempt call) := hcall

/-- An attempt always returns. -/
theorem ensures_attempt {call : Call State Error Unit}
    (hcall : Keeps view call) (state : State) :
    Ensures (attempt call) (fun outcome after =>
      outcome = .ok () ∧ view after = view state) state :=
  ⟨rfl, hcall state⟩

theorem Keeps.ensures (hcall : Keeps view call) (state : State) :
    Ensures call (fun _ after => view after = view state) state :=
  hcall state

/-- A view that the kept one determines is kept too. -/
theorem Keeps.comp {View' : Type} (hcall : Keeps view call)
    (read : View → View') : Keeps (fun state => read (view state)) call :=
  fun state => congrArg read (hcall state)

theorem Keeps.bind (hcall : Keeps view call)
    (hnext : ∀ value, Keeps view (next value)) :
    Keeps view (call >>= next) := by
  intro state
  have hboth : Ensures (call >>= next)
      (fun _ after => view after = view state) state := by
    apply Ensures.bind (hcall.ensures state)
    · intro value after hafter
      exact (hnext value after).trans hafter
    · intro error after hafter
      exact hafter
  exact hboth

theorem keeps_ite {condition : Prop} [Decidable condition]
    {left right : Call State Error Value} (hleft : Keeps view left)
    (hright : Keeps view right) :
    Keeps view (if condition then left else right) := by
  split
  case isTrue => exact hleft
  case isFalse => exact hright

end Keeps

/-! ## Steps of a preorder -/

/-- The call moves the state along the relation, whatever its outcome. -/
def Relates (rel : State → State → Prop) (call : Call State Error Value) :
    Prop :=
  ∀ state, rel state (call state).2

section Relates

variable {rel : State → State → Prop} [IsPreorder State rel]
  {call : Call State Error Value} {next : Value → Call State Error Next}

omit [IsPreorder State rel] in
theorem Keeps.relates {View : Type} {view : State → View}
    (hcall : Keeps view call)
    (hview : ∀ before after, view after = view before → rel before after) :
    Relates rel call :=
  fun state => hview state _ (hcall state)

omit [IsPreorder State rel] in
theorem Relates.ensures (hcall : Relates rel call) (state : State) :
    Ensures call (fun _ after => rel state after) state :=
  hcall state

theorem relates_pure (value : Value) :
    Relates rel (pure value : Call State Error Value) := refl_of rel

theorem relates_fail (error : Error) :
    Relates rel (fail error : Call State Error Value) := refl_of rel

theorem Relates.bind (hcall : Relates rel call)
    (hnext : ∀ value, Relates rel (next value)) :
    Relates rel (call >>= next) := by
  intro state
  have hboth : Ensures (call >>= next) (fun _ after => rel state after)
      state := by
    apply (hcall.ensures state).bind
    · intro value after hafter
      exact trans_of rel hafter (hnext value after)
    · exact fun error after hafter => hafter
  exact hboth

omit [IsPreorder State rel] in
theorem relates_ite {condition : Prop} [Decidable condition]
    {left right : Call State Error Value} (hleft : Relates rel left)
    (hright : Relates rel right) :
    Relates rel (if condition then left else right) := by
  split
  case isTrue => exact hleft
  case isFalse => exact hright

end Relates

/-! ## Queries -/

/-- The call leaves the view alone, and `result` holds of what it returns. -/
def Returns {View : Type} (view : State → View) (call : Call State Error Value)
    (result : State → Value → Prop) : Prop :=
  ∀ state, Ensures call (fun outcome after => view after = view state ∧
    ∀ value, outcome = .ok value → result state value) state

section Returns

variable {View : Type} {view : State → View} {call : Call State Error Value}
  {next : Value → Call State Error Next} {result : State → Value → Prop}
  {last : Except Error Next → State → Prop} {state : State}

theorem Keeps.returns (hcall : Keeps view call) :
    Returns view call fun _ _ => True :=
  fun state => ⟨hcall state, fun _ _ => trivial⟩

theorem Returns.keeps (hcall : Returns view call result) : Keeps view call :=
  fun state => (hcall state).1

theorem returns_pure {value : Value} (hvalue : ∀ state, result state value) :
    Returns view (pure value : Call State Error Value) result := by
  intro state
  refine ⟨rfl, fun other hother => ?_⟩
  cases hother
  exact hvalue state

theorem Returns.bind (hcall : Returns view call result)
    (hnext : ∀ value after, view after = view state → result state value →
      Ensures (next value) last after)
    (herror : ∀ error after, view after = view state →
      last (.error error) after) : Ensures (call >>= next) last state := by
  apply Ensures.bind (hcall state)
  · intro value after hafter
    exact hnext value after hafter.1 (hafter.2 value rfl)
  · intro error after hafter
    exact herror error after hafter.1

end Returns

/-! ## Returned values -/

/-- What the call returns, if it returns, is in `result`. -/
def Yields (call : Call State Error Value) (result : Value → Prop) : Prop :=
  ∀ state value, (call state).1 = .ok value → result value

section Yields

variable {call : Call State Error Value} {next : Value → Call State Error Next}

theorem Yields.ensures {result : Value → Prop} (hcall : Yields call result)
    (state : State) :
    Ensures call (fun outcome _ =>
      ∀ value, outcome = .ok value → result value) state :=
  hcall state

theorem yields_pure {value : Value} {result : Value → Prop}
    (hvalue : result value) :
    Yields (pure value : Call State Error Value) result := by
  intro state other hother
  cases hother
  exact hvalue

theorem yields_fail {error : Error} {result : Value → Prop} :
    Yields (fail error : Call State Error Value) result := nofun

theorem yields_ite {condition : Prop} [Decidable condition]
    {left right : Call State Error Value} {result : Value → Prop}
    (hleft : Yields left result) (hright : Yields right result) :
    Yields (if condition then left else right) result := by
  split
  case isTrue => exact hleft
  case isFalse => exact hright

theorem yields_bind {result : Next → Prop}
    (hnext : ∀ value, Yields (next value) result) :
    Yields (call >>= next) result := by
  intro state
  have htrue : Ensures call (fun _ _ => True) state := trivial
  change Ensures _ (fun outcome _ =>
    ∀ value, outcome = .ok value → result value) state
  apply htrue.bind
  · exact fun value after _ => hnext value after
  · exact fun _ _ _ => nofun

end Yields

/-! ## Thrown errors -/

/-- What the call throws, if it throws, is in `allowed`. -/
def Throws (call : Call State Error Value) (allowed : Error → Prop) : Prop :=
  ∀ state error, (call state).1 = .error error → allowed error

section Throws

variable {call : Call State Error Value} {next : Value → Call State Error Next}
  {allowed : Error → Prop}

theorem throws_pure (value : Value) :
    Throws (pure value : Call State Error Value) allowed := nofun

theorem throws_observe (read : State → Value) :
    Throws (observe read : Call State Error Value) allowed := nofun

theorem throws_change (write : State → State) :
    Throws (change write : Call State Error Unit) allowed := nofun

theorem throws_attempt (call : Call State Error Unit) :
    Throws (attempt call) allowed := nofun

theorem throws_fail {error : Error} (herror : allowed error) :
    Throws (fail error : Call State Error Value) allowed := by
  intro state other hother
  cases hother
  exact herror

theorem throws_ite {condition : Prop} [Decidable condition]
    {left right : Call State Error Value} (hleft : Throws left allowed)
    (hright : Throws right allowed) :
    Throws (if condition then left else right) allowed := by
  split
  case isTrue => exact hleft
  case isFalse => exact hright

/-- Where the rest throws as it may, the first part decides. -/
theorem throws_bind_iff (hnext : ∀ value, Throws (next value) allowed)
    (state : State) :
    (∀ error, ((call >>= next) state).1 = .error error → allowed error) ↔
      ∀ error, (call state).1 = .error error → allowed error := by
  rcases hrun : call state with ⟨thrown | value, after⟩
  · rw [bind_error hrun]
    constructor
    · intro hall error herror
      cases herror
      exact hall thrown rfl
    · intro hall error herror
      cases herror
      exact hall thrown rfl
  · rw [bind_ok hrun]
    exact iff_of_true (hnext value after) nofun

theorem Throws.bind (hcall : Throws call allowed)
    (hnext : ∀ value, Throws (next value) allowed) :
    Throws (call >>= next) allowed :=
  fun state => (throws_bind_iff hnext state).mpr (hcall state)

end Throws

/-! ## Calls in parts -/

/-- A state, and what has happened, in order. -/
structure Ledger (State Event : Type) where
  state : State
  history : List Event

section Ledger

variable {Event Phase Thread : Type}

/-- One part of a call; an error ends it. -/
def Ledger.perform (ledger : Ledger State Event)
    (part : Call State Error Phase) (events : Phase → List Event)
    (thread : Phase → Option Thread) : Ledger State Event × Option Thread :=
  match part ledger.state with
  | (.ok phase, after) => (⟨after, ledger.history ++ events phase⟩, thread phase)
  | (.error _, after) => (⟨after, ledger.history⟩, none)

/-- What a part ensures of its outcome, for the ledger after it. -/
theorem Ledger.perform_spec {ledger : Ledger State Event}
    {part : Call State Error Phase} {events : Phase → List Event}
    {thread : Phase → Option Thread}
    {post : Except Error Phase → State → Prop}
    {claim : Ledger State Event × Option Thread → Prop}
    (hpart : Ensures part post ledger.state)
    (hok : ∀ phase after, post (.ok phase) after →
      claim (⟨after, ledger.history ++ events phase⟩, thread phase))
    (herror : ∀ error after, post (.error error) after →
      claim (⟨after, ledger.history⟩, none)) :
    claim (ledger.perform part events thread) := by
  unfold Ensures at hpart
  unfold Ledger.perform
  rcases hrun : part ledger.state with ⟨error | phase, after⟩
  · rw [hrun] at hpart
    exact herror error after hpart
  · rw [hrun] at hpart
    exact hok phase after hpart

end Ledger

end ServiceCall
