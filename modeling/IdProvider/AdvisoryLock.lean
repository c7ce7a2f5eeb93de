/-
Advisory locks that belong to sessions: a session may take a lock again that it
holds, no other session gets it meanwhile, and a session that ends leaves none.
-/
import Mathlib.Data.List.Basic
import Mathlib.Tactic.Common

namespace AdvisoryLock

/-- The locks that are held, one entry for each time a session took one. -/
structure Locks (Key Session : Type) where
  held : List (Key × Session)
  exclusive : ∀ first ∈ held, ∀ second ∈ held, first.1 = second.1 →
    first.2 = second.2

namespace Locks

variable {Key Session : Type}

def empty : Locks Key Session := ⟨[], by simp⟩

def Holds (locks : Locks Key Session) (key : Key) (session : Session) :
    Prop :=
  (key, session) ∈ locks.held

theorem Holds.unique {locks : Locks Key Session} {key : Key}
    {session other : Session} (hsession : locks.Holds key session)
    (hother : locks.Holds key other) : session = other :=
  locks.exclusive _ hsession _ hother rfl

@[simp]
theorem not_holds_empty (key : Key) (session : Session) :
    ¬ (empty : Locks Key Session).Holds key session :=
  List.not_mem_nil

/-- Some of the locks. -/
def keep (locks : Locks Key Session) (held : List (Key × Session))
    (hheld : held ⊆ locks.held) : Locks Key Session :=
  ⟨held, fun first hfirst second hsecond =>
    locks.exclusive first (hheld hfirst) second (hheld hsecond)⟩

variable [DecidableEq Key] [DecidableEq Session]

/-- Takes the lock, unless another session holds it. -/
def tryLock (locks : Locks Key Session) (key : Key) (session : Session) :
    Option (Locks Key Session) :=
  if hfree : ∀ lock ∈ locks.held, lock.1 = key → lock.2 = session then
    some ⟨(key, session) :: locks.held, by
      rintro first hfirst second hsecond hkeys
      rcases List.mem_cons.mp hfirst with rfl | hfirst
      · rcases List.mem_cons.mp hsecond with rfl | hsecond
        · rfl
        · exact (hfree second hsecond hkeys.symm).symm
      · rcases List.mem_cons.mp hsecond with rfl | hsecond
        · exact hfree first hfirst hkeys
        · exact locks.exclusive first hfirst second hsecond hkeys⟩
  else none

/-- Gives the lock back once. -/
def unlock (locks : Locks Key Session) (key : Key) (session : Session) :
    Locks Key Session :=
  locks.keep (locks.held.erase (key, session)) List.erase_subset

/-- The session ends. -/
def close (locks : Locks Key Session) (session : Session) :
    Locks Key Session :=
  locks.keep (locks.held.filter fun lock => lock.2 ≠ session)
    (List.filter_subset_self _)

section Lemmas

variable {locks after : Locks Key Session} {key otherKey : Key}
  {session other : Session}

theorem holds_tryLock (htry : locks.tryLock key session = some after) :
    after.Holds otherKey other ↔
      otherKey = key ∧ other = session ∨ locks.Holds otherKey other := by
  unfold tryLock at htry
  split at htry
  case isTrue =>
    cases htry
    rw [Holds, List.mem_cons, Prod.mk.injEq]
    exact Iff.rfl
  case isFalse => cases htry

theorem holds_unlock_of_ne (hne : other ≠ session) :
    (locks.unlock key session).Holds otherKey other ↔
      locks.Holds otherKey other := by
  apply List.mem_erase_of_ne
  intro hlock
  exact hne (Prod.mk.inj hlock).2

omit [DecidableEq Key] in
@[simp]
theorem holds_close : (locks.close session).Holds otherKey other ↔
    locks.Holds otherKey other ∧ other ≠ session := by
  unfold close keep Holds
  rw [List.mem_filter, decide_eq_true_eq]

end Lemmas

end Locks

end AdvisoryLock
