/-
A service that looks up its answers in a store before it computes them, and
when nobody can tell the difference.
-/
import Mathlib.Data.List.Basic
import Mathlib.Tactic.Common

namespace LookupCache

/-- A computation that throws gives `none` and stores nothing; `reread` is
what the store gives back of a value. -/
structure Service (Call Key Value : Type) where
  cached : Call → Bool
  key : Call → Key
  compute : Call → Option Value
  reread : Value → Value
  reread_reread : ∀ call value, compute call = some value →
    reread (reread value) = reread value

abbrev Store (Key Value : Type) := Key → Option Value

variable {Call Key Value : Type} [DecidableEq Key]

def Store.empty : Store Key Value := fun _ => none

def Store.put (store : Store Key Value) (key : Key) (value : Value) :
    Store Key Value :=
  fun other => if other = key then some value else store other

variable (service : Service Call Key Value)

def answer (store : Store Key Value) (call : Call) :
    Option Value × Store Key Value :=
  if service.cached call then
    match store (service.key call) with
    | some value => (some value, store)
    | none =>
        match service.compute call with
        | none => (none, store)
        | some value =>
            (some value, store.put (service.key call) (service.reread value))
  else (service.compute call, store)

def answers (store : Store Key Value) : List Call → List (Option Value)
  | [] => []
  | call :: calls =>
      (answer service store call).1 ::
        answers (answer service store call).2 calls

/-- What a later call may find in the store is what it computes. -/
def Agrees (earlier later : Call) : Prop :=
  service.cached earlier = true → service.cached later = true →
    service.key earlier = service.key later →
      ∀ value, service.compute earlier = some value →
        service.compute later = some (service.reread value)

/-- The store holds the answer of the call, or nothing. -/
def Holds (store : Store Key Value) (call : Call) : Prop :=
  service.cached call = true → ∀ value, store (service.key call) = some value →
    service.compute call = some value

/-- Stored values read back as they are. -/
def Settled (store : Store Key Value) : Prop :=
  ∀ key value, store key = some value → service.reread value = value

variable {service} {store : Store Key Value}

theorem Store.put_self (key : Key) (value : Value) :
    store.put key value key = some value :=
  if_pos rfl

theorem Store.put_of_ne {key other : Key} (value : Value)
    (hother : other ≠ key) : store.put key value other = store other :=
  if_neg hother

theorem Settled.put (hstore : Settled service store) {call : Call}
    {value : Value} (hcompute : service.compute call = some value) :
    Settled service
      (store.put (service.key call) (service.reread value)) := by
  intro key found hfound
  by_cases hkey : key = service.key call
  · rw [hkey, Store.put_self] at hfound
    cases hfound
    exact service.reread_reread call value hcompute
  · rw [Store.put_of_ne _ hkey] at hfound
    exact hstore key found hfound

/-- After a call that stores its value the later calls have to agree with it. -/
theorem holds_put_iff {call : Call} {value : Value}
    (hcached : service.cached call = true)
    (hmiss : store (service.key call) = none)
    (hcompute : service.compute call = some value) (later : Call) :
    Holds service (store.put (service.key call) (service.reread value)) later ↔
      Holds service store later ∧ Agrees service call later := by
  by_cases hkey : service.key later = service.key call
  · have hold : Holds service store later := by
      intro _ found hfound
      rw [hkey, hmiss] at hfound
      cases hfound
    constructor
    · intro hholds
      refine ⟨hold, fun _ hlater _ found hfound => ?_⟩
      rw [hcompute, Option.some.injEq] at hfound
      rw [← hfound]
      exact hholds hlater _ (by rw [hkey, Store.put_self])
    · rintro ⟨-, hagrees⟩ hlater found hfound
      rw [hkey, Store.put_self, Option.some.injEq] at hfound
      rw [← hfound]
      exact hagrees hcached hlater hkey.symm value hcompute
  · have hsame : store.put (service.key call) (service.reread value)
        (service.key later) = store (service.key later) :=
      Store.put_of_ne _ hkey
    have hagrees : Agrees service call later :=
      fun _ _ heq => absurd heq.symm hkey
    unfold Holds
    rw [hsame]
    exact (and_iff_left hagrees).symm

omit [DecidableEq Key] in
/-- A call that finds its value agrees with whatever finds the same one. -/
theorem agrees_of_hit (hstore : Settled service store) {call later : Call}
    {value : Value} (hhit : store (service.key call) = some value)
    (hcall : service.compute call = some value)
    (hlater : Holds service store later) : Agrees service call later := by
  intro _ hcached hkey found hfound
  rw [hcall, Option.some.injEq] at hfound
  rw [← hfound, hstore _ _ hhit]
  exact hlater hcached value (by rw [← hkey, hhit])

theorem answers_eq_iff_of_settled (hstore : Settled service store)
    (calls : List Call) :
    answers service store calls = calls.map service.compute ↔
      (∀ call ∈ calls, Holds service store call) ∧
        calls.Pairwise (Agrees service) := by
  induction calls generalizing store with
  | nil => simp [answers]
  | cons call calls ih =>
      rw [answers, List.map_cons, List.cons.injEq, List.forall_mem_cons,
        List.pairwise_cons]
      by_cases hcached : service.cached call = true
      · cases hfind : store (service.key call) with
        | some value =>
            have hanswer : answer service store call = (some value, store) := by
              simp only [answer, if_pos hcached, hfind]
            have hholds : Holds service store call ↔
                some value = service.compute call := by
              constructor
              · exact fun hholds => (hholds hcached value hfind).symm
              · intro heq _ found hfound
                rw [hfind] at hfound
                rw [← heq, hfound]
            rw [hanswer, ih hstore, hholds]
            constructor
            · rintro ⟨heq, hrest, hpairs⟩
              refine ⟨⟨heq, hrest⟩, fun later hlater => ?_, hpairs⟩
              exact agrees_of_hit hstore hfind heq.symm (hrest later hlater)
            · rintro ⟨⟨heq, hrest⟩, -, hpairs⟩
              exact ⟨heq, hrest, hpairs⟩
        | none =>
            have hholds : Holds service store call := by
              intro _ found hfound
              rw [hfind] at hfound
              cases hfound
            cases hcompute : service.compute call with
            | none =>
                have hanswer : answer service store call = (none, store) := by
                  simp only [answer, if_pos hcached, hfind, hcompute]
                have hagrees : ∀ later ∈ calls, Agrees service call later := by
                  intro later _ _ _ _ value hvalue
                  rw [hcompute] at hvalue
                  cases hvalue
                rw [hanswer, ih hstore, and_iff_right hagrees]
                simp only [true_and, hholds]
            | some value =>
                have hanswer : answer service store call = (some value,
                    store.put (service.key call) (service.reread value)) := by
                  simp only [answer, if_pos hcached, hfind, hcompute]
                rw [hanswer, ih (hstore.put hcompute)]
                simp only [holds_put_iff hcached hfind hcompute, true_and,
                  hholds, forall_and, and_assoc]
      · have hanswer : answer service store call =
            (service.compute call, store) := if_neg hcached
        have hholds : Holds service store call :=
          fun htrue => absurd htrue hcached
        have hagrees : ∀ later ∈ calls, Agrees service call later :=
          fun _ _ htrue => absurd htrue hcached
        rw [hanswer, ih hstore, and_iff_right hagrees]
        simp only [true_and, hholds]

/-- From an empty store. -/
theorem answers_eq_iff (calls : List Call) :
    answers service Store.empty calls = calls.map service.compute ↔
      calls.Pairwise (Agrees service) := by
  have hsettled : Settled service Store.empty := fun _ _ hfound => by
    cases hfound
  have hholds : ∀ call ∈ calls, Holds service Store.empty call :=
    fun _ _ _ _ hfound => by cases hfound
  rw [answers_eq_iff_of_settled hsettled]
  exact and_iff_right hholds

end LookupCache
