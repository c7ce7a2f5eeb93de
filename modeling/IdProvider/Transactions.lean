/-
Transactions under READ COMMITTED: a statement sees what has committed, and
the locks it takes are held until the transaction commits or rolls back.
What each commit leaves alone outside its own locks makes an invariant of the
database hold under every interleaving.
-/
import IdProvider.Interleaving
import Mathlib.Data.List.Lattice

namespace Transactions

open Interleaving

/-- What a statement does: it waits for somebody, it ends the transaction
without a change, it goes on under more locks, or it commits. -/
inductive Outcome (Db Txn Lock : Type) where
  | wait
  | stop
  | proceed (txn : Txn) (locks : List Lock)
  | commit (db : Db)

/-- A commit that a constraint may still refuse. -/
def Outcome.ofCommit {Db Txn Lock : Type} : Option Db → Outcome Db Txn Lock
  | some db => .commit db
  | none => .stop

theorem Outcome.ofCommit_ne_proceed {Db Txn Lock : Type} {after : Option Db}
    {txn : Txn} {locks : List Lock} :
    (Outcome.ofCommit after : Outcome Db Txn Lock) ≠ .proceed txn locks := by
  cases after with
  | none => intro heq; cases heq
  | some db => intro heq; cases heq

theorem Outcome.ofCommit_eq_commit {Db Txn Lock : Type} {after : Option Db}
    {db : Db} :
    (Outcome.ofCommit after : Outcome Db Txn Lock) = .commit db ↔
      after = some db := by
  cases after with
  | none => simp [Outcome.ofCommit]
  | some other => simp [Outcome.ofCommit]

/-- What has committed, and all locks that are held. -/
structure Store (Db Lock : Type) where
  db : Db
  locks : List Lock

structure Thread (Txn Lock : Type) where
  txn : Txn
  held : List Lock

/-- The statements of the transactions; a statement is told which locks
somebody else holds. -/
structure Code (Db Txn Lock Call Input Event : Type) where
  start : Call → Txn
  statement : Db → (Lock → Bool) → Txn → Input → Outcome Db Txn Lock
  environment : Db → Event → Option Db

variable {Db Txn Lock Call Input Event Id : Type}

section Locks

variable [DecidableEq Lock]

def busy (store : Store Db Lock) (thread : Thread Txn Lock) (lock : Lock) :
    Bool :=
  decide (lock ∈ store.locks) && decide (lock ∉ thread.held)

theorem busy_eq_false {store : Store Db Lock} {thread : Thread Txn Lock}
    {lock : Lock} :
    busy store thread lock = false ↔
      (lock ∈ store.locks → lock ∈ thread.held) := by
  simp [busy]

def release (store : Store Db Lock) (thread : Thread Txn Lock) :
    Store Db Lock :=
  { store with locks := store.locks.filter fun lock => lock ∉ thread.held }

theorem mem_release {store : Store Db Lock} {thread : Thread Txn Lock}
    {lock : Lock} :
    lock ∈ (release store thread).locks ↔
      lock ∈ store.locks ∧ lock ∉ thread.held := by
  simp [release]

def advance (code : Code Db Txn Lock Call Input Event)
    (store : Store Db Lock) (thread : Thread Txn Lock) (input : Input) :
    Option (Store Db Lock × Option (Thread Txn Lock)) :=
  match code.statement store.db (busy store thread) thread.txn input with
  | .wait => none
  | .stop => some (release store thread, none)
  | .proceed txn locks =>
      if locks.any (busy store thread) then none
      else
        some ({ store with locks := locks ++ store.locks },
          some ⟨txn, locks ++ thread.held⟩)
  | .commit db => some ({ release store thread with db := db }, none)

/-- What a statement that does not wait has done. -/
theorem advance_outcome {code : Code Db Txn Lock Call Input Event}
    {store after : Store Db Lock} {thread : Thread Txn Lock} {input : Input}
    {next : Option (Thread Txn Lock)}
    (hadvance : advance code store thread input = some (after, next)) :
    (code.statement store.db (busy store thread) thread.txn input = .stop ∧
      after = release store thread ∧ next = none) ∨
    (∃ txn locks, code.statement store.db (busy store thread) thread.txn
        input = .proceed txn locks ∧
      (∀ lock ∈ locks, lock ∈ store.locks → lock ∈ thread.held) ∧
      after = { store with locks := locks ++ store.locks } ∧
      next = some ⟨txn, locks ++ thread.held⟩) ∨
    ∃ db, code.statement store.db (busy store thread) thread.txn input =
        .commit db ∧
      after = { release store thread with db := db } ∧ next = none := by
  unfold advance at hadvance
  cases hstatement : code.statement store.db (busy store thread) thread.txn
      input with
  | wait =>
      rw [hstatement] at hadvance
      cases hadvance
  | stop =>
      rw [hstatement] at hadvance
      cases hadvance
      exact .inl ⟨rfl, rfl, rfl⟩
  | commit db =>
      rw [hstatement] at hadvance
      cases hadvance
      exact .inr (.inr ⟨db, rfl, rfl, rfl⟩)
  | proceed txn locks =>
      rw [hstatement] at hadvance
      dsimp only at hadvance
      split at hadvance
      case isTrue => cases hadvance
      case isFalse hfree =>
        cases hadvance
        refine .inr (.inl ⟨txn, locks, rfl, ?_, rfl, rfl⟩)
        intro lock hlock
        rw [← busy_eq_false, Bool.eq_false_iff]
        exact fun hbusy => hfree (List.any_eq_true.mpr ⟨lock, hlock, hbusy⟩)

/-- A transaction that has not ended yet. -/
theorem advance_eq_some_some {code : Code Db Txn Lock Call Input Event}
    {store after : Store Db Lock} {thread next : Thread Txn Lock}
    {input : Input}
    (hadvance : advance code store thread input = some (after, some next)) :
    ∃ busy locks, code.statement store.db busy thread.txn input =
      .proceed next.txn locks := by
  rcases advance_outcome hadvance with
    ⟨-, -, hnext⟩ | ⟨txn, locks, hproceed, -, -, hnext⟩ | ⟨db, -, -, hnext⟩
  · cases hnext
  · cases hnext
    exact ⟨_, locks, hproceed⟩
  · cases hnext

/-- Transactions as threads; one that dies is rolled back. -/
def program (code : Code Db Txn Lock Call Input Event) :
    Program (Store Db Lock) (Thread Txn Lock) Call Input Event where
  start call := ⟨code.start call, []⟩
  advance := advance code
  abort := release
  environment store event :=
    (code.environment store.db event).map fun db => { store with db := db }

end Locks

/-! ## Invariants -/

/-- An invariant of the database, one of a transaction and its locks in it,
and what a commit under some locks leaves alone. -/
structure Discipline (Db Txn Lock : Type) where
  DbOk : Db → Prop
  TxnOk : Db → List Lock → Txn → Prop
  Respects : List Lock → Db → Db → Prop

/-- The proof obligations of the statements. -/
structure Discipline.Sound (discipline : Discipline Db Txn Lock)
    (code : Code Db Txn Lock Call Input Event)
    (Condition : Db → Txn → Input → Prop) : Prop where
  start : ∀ db call, discipline.DbOk db →
    discipline.TxnOk db [] (code.start call)
  proceed : ∀ db busy held txn input next locks, discipline.DbOk db →
    discipline.TxnOk db held txn → Condition db txn input →
    code.statement db busy txn input = .proceed next locks →
    discipline.TxnOk db (locks ++ held) next
  commit : ∀ db busy held txn input after, discipline.DbOk db →
    discipline.TxnOk db held txn → Condition db txn input →
    code.statement db busy txn input = .commit after →
    discipline.DbOk after ∧ discipline.Respects held db after
  stable : ∀ db after others held txn, discipline.Respects others db after →
    others.Disjoint held → discipline.TxnOk db held txn →
    discipline.TxnOk after held txn
  environment : ∀ db event after, discipline.DbOk db →
    code.environment db event = some after →
    discipline.DbOk after ∧ ∀ held txn, discipline.TxnOk db held txn →
      discipline.TxnOk after held txn

/-- Locks are registered, and no two transactions hold the same one. -/
def Discipline.invariant (discipline : Discipline Db Txn Lock) :
    Invariant (Store Db Lock) (Thread Txn Lock) where
  SharedOk store := discipline.DbOk store.db
  ThreadOk store thread :=
    thread.held ⊆ store.locks ∧
      discipline.TxnOk store.db thread.held thread.txn
  Apart left right := left.held.Disjoint right.held

/-- A condition on statements, as one on steps of a thread. -/
def OnStatements (Condition : Db → Txn → Input → Prop) (store : Store Db Lock)
    (thread : Thread Txn Lock) (input : Input) : Prop :=
  Condition store.db thread.txn input

section Rules

variable [DecidableEq Lock] {discipline : Discipline Db Txn Lock}
  {code : Code Db Txn Lock Call Input Event}
  {Condition : Db → Txn → Input → Prop}

/-- What others hold is still registered after a release. -/
theorem subset_release {store : Store Db Lock} {mover other : Thread Txn Lock}
    (hheld : other.held ⊆ store.locks) (hapart : mover.held.Disjoint other.held) :
    other.held ⊆ (release store mover).locks := by
  intro lock hlock
  rw [mem_release]
  exact ⟨hheld hlock, fun hmover => hapart hmover hlock⟩

/-- The end of a transaction, with or without a commit. -/
theorem Discipline.Sound.keeps_end (hsound : discipline.Sound code Condition)
    {store : Store Db Lock} {mover : Thread Txn Lock} {after : Db}
    (hafter : discipline.DbOk after)
    (hrespects : after = store.db ∨
      discipline.Respects mover.held store.db after) :
    discipline.invariant.Keeps store mover
      { release store mover with db := after } none where
  shared := hafter
  thread thread hthread := by cases hthread
  others other hother hapart := by
    refine ⟨subset_release hother.1 hapart, ?_⟩
    rcases hrespects with rfl | hrespects
    · exact hother.2
    · exact hsound.stable _ _ _ _ _ hrespects hapart hother.2
  apart thread hthread := by cases hthread

/-- The statements of a sound discipline keep its invariant, whichever
transaction comes next. -/
theorem Discipline.Sound.inductive
    (hsound : discipline.Sound code Condition) :
    discipline.invariant.Inductive (program code) (OnStatements Condition) where
  start store call hstore := by
    refine ⟨⟨List.nil_subset _, hsound.start store.db call hstore⟩, ?_⟩
    intro other
    exact ⟨List.disjoint_nil_left _, List.disjoint_nil_right _⟩
  advance store thread input after next hstore hthread hcondition hadvance := by
    change advance code store thread input = some (after, next) at hadvance
    rcases advance_outcome hadvance with
      ⟨-, rfl, rfl⟩ | ⟨txn, locks, hproceed, hfree, rfl, rfl⟩ |
      ⟨db, hcommit, rfl, rfl⟩
    · exact hsound.keeps_end hstore (.inl rfl)
    · constructor
      · exact hstore
      · intro thread' hthread'
        cases hthread'
        constructor
        · exact List.append_subset.mpr ⟨List.subset_append_left _ _,
            List.Subset.trans hthread.1 (List.subset_append_right _ _)⟩
        · exact hsound.proceed store.db _ thread.held _ _ txn locks hstore
            hthread.2 hcondition hproceed
      · intro other hother hapart
        exact ⟨List.Subset.trans hother.1 (List.subset_append_right _ _),
          hother.2⟩
      · intro thread' hthread' other hother hapart
        cases hthread'
        have hdisjoint : (locks ++ thread.held).Disjoint other.held := by
          intro lock hlock hlockOther
          rcases List.mem_append.mp hlock with hlock | hlock
          · exact hapart (hfree lock hlock (hother.1 hlockOther)) hlockOther
          · exact hapart hlock hlockOther
        exact ⟨hdisjoint, List.Disjoint.symm hdisjoint⟩
    · obtain ⟨hdb, hrespects⟩ := hsound.commit store.db _ thread.held _ _ db
        hstore hthread.2 hcondition hcommit
      exact hsound.keeps_end hdb (.inr hrespects)
  abort store thread hstore hthread :=
    hsound.keeps_end hstore (.inl rfl)
  environment store event after hstore henvironment := by
    change (code.environment store.db event).map _ = some after at henvironment
    rw [Option.map_eq_some_iff] at henvironment
    obtain ⟨db, hdb, rfl⟩ := henvironment
    obtain ⟨hok, hthreads⟩ := hsound.environment store.db event db hstore hdb
    exact ⟨hok, fun thread hthread =>
      ⟨hthread.1, hthreads thread.held thread.txn hthread.2⟩⟩

end Rules

/-! ## Runs -/

section Runs

variable [DecidableEq Lock] [DecidableEq Id]

/-- No transaction is running yet. -/
def initial (db : Db) : Pool (Store Db Lock) (Thread Txn Lock) Id :=
  Pool.start ⟨db, []⟩

/-- The invariant of a sound discipline holds along every interleaving whose
statements meet the condition. -/
theorem Discipline.Sound.run {discipline : Discipline Db Txn Lock}
    {code : Code Db Txn Lock Call Input Event}
    {Condition : Db → Txn → Input → Prop}
    (hsound : discipline.Sound code Condition) {db : Db}
    (hdb : discipline.DbOk db)
    {last : Pool (Store Db Lock) (Thread Txn Lock) Id}
    {actions : List (Action Call Input Event Id)}
    (hmeets : StepSystem.Along (step (program code))
      (Meets (OnStatements Condition)) (initial db) actions)
    (hrun : StepSystem.run (step (program code)) (initial db) actions =
      some last) : discipline.DbOk last.shared.db := by
  have hstart : discipline.invariant.Holds
      (initial db : Pool (Store Db Lock) (Thread Txn Lock) Id) := by
    apply Invariant.holds_start
    exact hdb
  exact (hsound.inductive.run hstart hmeets hrun).shared

/-- Where every call is fine, and a fine transaction goes on as one, each
statement of a fine transaction meets its condition along any run. -/
theorem along_of_calls {code : Code Db Txn Lock Call Input Event}
    {CallOk : Call → Prop} {TxnOk : Txn → Prop}
    {Condition : Db → Txn → Input → Prop}
    (hstart : ∀ call, CallOk call → TxnOk (code.start call))
    (hproceed : ∀ db busy txn input next locks, TxnOk txn →
      code.statement db busy txn input = .proceed next locks → TxnOk next)
    (hcondition : ∀ db txn input, TxnOk txn → Condition db txn input)
    {actions : List (Action Call Input Event Id)}
    (hcalls : ∀ id call, .spawn id call ∈ actions → CallOk call)
    {pool : Pool (Store Db Lock) (Thread Txn Lock) Id}
    (hpool : ∀ id thread, pool.thread id = some thread → TxnOk thread.txn) :
    StepSystem.Along (step (program code)) (Meets (OnStatements Condition))
      pool actions := by
  apply Interleaving.along_of_calls (program code)
    (fun thread => TxnOk thread.txn) hstart _ _ hcalls hpool
  · intro store thread input after next hthread hadvance
    obtain ⟨busy, locks, hstatement⟩ := advance_eq_some_some hadvance
    exact hproceed _ _ _ _ _ _ hthread hstatement
  · exact fun store thread input hthread => hcondition _ _ _ hthread

/-- The database changes by a commit, or by the environment. -/
theorem step_db (code : Code Db Txn Lock Call Input Event)
    {pool next : Pool (Store Db Lock) (Thread Txn Lock) Id}
    {action : Action Call Input Event Id}
    (hstep : step (program code) pool action = some next) :
    next.shared.db = pool.shared.db ∨
      (∃ busy txn input, code.statement pool.shared.db busy txn input =
        .commit next.shared.db) ∨
      ∃ event, code.environment pool.shared.db event = some next.shared.db := by
  cases moves_of_step (program code) hstep with
  | spawn id call => exact .inl rfl
  | advance id input thread after following _ hadvance =>
      rcases advance_outcome hadvance with
        ⟨-, rfl, rfl⟩ | ⟨txn, locks, -, -, rfl, rfl⟩ | ⟨db, hcommit, rfl, rfl⟩
      · exact .inl rfl
      · exact .inl rfl
      · exact .inr (.inl ⟨_, _, _, hcommit⟩)
  | abort id thread => exact .inl rfl
  | environment event after henvironment =>
      change (code.environment pool.shared.db event).map _ = some after
        at henvironment
      rw [Option.map_eq_some_iff] at henvironment
      obtain ⟨db, hdb, rfl⟩ := henvironment
      exact .inr (.inr ⟨event, hdb⟩)

end Runs

end Transactions
