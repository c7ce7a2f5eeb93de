/-
The processes that run a scheduled job behind an advisory lock: what they do to
the database is what the job does when it runs once after another.
-/
import IdProvider.AdvisoryLock
import IdProvider.Interleaving

namespace IdProvider

open AdvisoryLock Interleaving

/-! ## The work of a job -/

/-- Where a statement leaves the work of a job. -/
inductive JobProgress (Work Summary : Type) where
  | goes (work : Work)
  | returns (summary : Summary)
  | throws

/-- The function that a process runs once it has the lock, one statement after
another. -/
structure Job (Db Work Input Summary : Type) where
  begin : Bool → Work
  statement : Db → Work → Input → Db × JobProgress Work Summary

section Alone

variable {Db Work Input Summary : Type}

/-- The work after some of its statements, nothing happening besides. -/
def Job.alone (job : Job Db Work Input Summary) :
    Db → Work → List Input → Option (Db × JobProgress Work Summary)
  | db, work, [] => some (db, .goes work)
  | db, work, input :: inputs =>
      match job.statement db work input with
      | (next, .goes work) => job.alone next work inputs
      | done => if inputs.isEmpty then some done else none

/-- Runs of the job, one after another: what those print that return, and the
others have made some of their statements. -/
inductive Serial (job : Job Db Work Input Summary) (first : Db) :
    List Summary → Db → Prop
  | start : Serial job first [] first
  | returned {printed : List Summary} {db next : Db} (dryRun : Bool)
      (inputs : List Input) (summary : Summary)
      (hbefore : Serial job first printed db)
      (halone : job.alone db (job.begin dryRun) inputs =
        some (next, .returns summary)) :
      Serial job first (printed ++ [summary]) next
  | cut {printed : List Summary} {db next : Db} (dryRun : Bool)
      (inputs : List Input) (progress : JobProgress Work Summary)
      (hbefore : Serial job first printed db)
      (halone : job.alone db (job.begin dryRun) inputs =
        some (next, progress)) :
      Serial job first printed next

/-- The statements from where another one has left the work. -/
def Job.resume (job : Job Db Work Input Summary)
    (done : Db × JobProgress Work Summary) (inputs : List Input) :
    Option (Db × JobProgress Work Summary) :=
  match done.2 with
  | .goes work => job.alone done.1 work inputs
  | _ => if inputs.isEmpty then some done else none

theorem Job.alone_cons (job : Job Db Work Input Summary) (db : Db)
    (work : Work) (input : Input) (inputs : List Input) :
    job.alone db work (input :: inputs) =
      job.resume (job.statement db work input) inputs := by
  rw [Job.alone, Job.resume]
  rcases job.statement db work input with ⟨next, work | summary | _⟩
  · rfl
  · rfl
  · rfl

/-- One statement more. -/
theorem Job.alone_append {job : Job Db Work Input Summary} {db next : Db}
    {work following : Work} {inputs : List Input}
    (halone : job.alone db work inputs = some (next, .goes following))
    (input : Input) :
    job.alone db work (inputs ++ [input]) =
      some (job.statement next following input) := by
  induction inputs generalizing db work with
  | nil =>
      cases halone
      rw [List.nil_append, Job.alone]
      split
      case h_1 after work' hstatement => rw [hstatement, Job.alone]
      case h_2 => rfl
  | cons first inputs ih =>
      rw [Job.alone] at halone
      rw [List.cons_append, Job.alone]
      split at halone
      case h_1 after work' hstatement => exact ih halone
      case h_2 hdone =>
        split at halone
        case isTrue => exact absurd (Option.some.inj halone) (hdone _ _)
        case isFalse => cases halone

end Alone

/-! ## `bootstrap` -/

/-- The database, its connections, and what the processes have printed. -/
structure JobStore (Db Summary : Type) where
  db : Db
  locks : Locks Int Nat
  connected : List Nat
  nextSession : Nat
  printed : List Summary

/-- The settings of the process and its arguments. -/
structure JobCall where
  enabled : Bool
  dryRun : Bool

inductive JobProcess (Work Summary : Type) where
  | starting (call : JobCall)
  | locking (dryRun : Bool) (session : Nat)
  | working (session : Nat) (work : Work)
  | printing (session : Nat) (summary : Summary)
  | unlocking (session : Nat)
  | ending (session : Nat)

/-- What a step meets: the connection of the lock is lost, or else whether the
call of `bootstrap` fails and what the job's own statement reads. -/
inductive JobInput (Input : Type) where
  | loses
  | acts (fails : Bool) (input : Input)

section Bootstrap

variable {Db Work Input Summary : Type}

namespace JobStore

variable (store : JobStore Db Summary)

def connect : JobStore Db Summary :=
  { store with
    connected := store.nextSession :: store.connected
    nextSession := store.nextSession + 1 }

/-- The connection is closed, by either side. -/
def close (session : Nat) : JobStore Db Summary :=
  { store with
    locks := store.locks.close session
    connected := store.connected.erase session }

def lose : Option Nat → JobStore Db Summary
  | none => store
  | some session => store.close session

end JobStore

namespace JobProcess

/-- The connection that the process holds. -/
def session? : JobProcess Work Summary → Option Nat
  | .starting _ => none
  | .locking _ session => some session
  | .working session _ => some session
  | .printing session _ => some session
  | .unlocking session => some session
  | .ending session => some session

/-- The process has come past the lock and not yet to `finally`. -/
def isInside : JobProcess Work Summary → Bool
  | .working _ _ => true
  | .printing _ _ => true
  | _ => false

end JobProcess

variable (job : Job Db Work Input Summary) (lockKey : Int)

/-- One step of `bootstrap`; a process that is done has ended its pool. -/
def advanceProcess (store : JobStore Db Summary) :
    JobProcess Work Summary → JobInput Input →
      JobStore Db Summary × Option (JobProcess Work Summary)
  | .starting call, .acts fails _ =>
      if call.enabled && !fails then
        (store.connect, some (.locking call.dryRun store.nextSession))
      else (store, none)
  | .locking dryRun session, .acts fails _ =>
      if session ∈ store.connected ∧ fails = false then
        match store.locks.tryLock lockKey session with
        | some locks =>
            ({ store with locks := locks },
              some (.working session (job.begin dryRun)))
        -- `process.exit(0)`: nothing of `finally`
        | none => (store.close session, none)
      else (store, some (.unlocking session))
  | .working session work, .acts _ input =>
      match job.statement store.db work input with
      | (db, .goes work) =>
          ({ store with db := db }, some (.working session work))
      | (db, .returns summary) =>
          ({ store with db := db }, some (.printing session summary))
      | (db, .throws) => ({ store with db := db }, some (.unlocking session))
  | .printing session summary, .acts _ _ =>
      ({ store with printed := store.printed ++ [summary] },
        some (.unlocking session))
  | .unlocking session, .acts fails _ =>
      if session ∈ store.connected ∧ fails = false then
        ({ store with locks := store.locks.unlock lockKey session },
          some (.ending session))
      else (store, some (.ending session))
  | .ending session, .acts _ _ => (store.close session, none)
  | process, .loses => (store.lose process.session?, some process)

/-- A process that dies loses its connection. -/
def abortProcess (store : JobStore Db Summary)
    (process : JobProcess Work Summary) : JobStore Db Summary :=
  store.lose process.session?

abbrev JobProgram (Db Work Input Summary : Type) : Type :=
  Program (JobStore Db Summary) (JobProcess Work Summary) JobCall
    (JobInput Input) Empty

def jobProgram : JobProgram Db Work Input Summary where
  start := .starting
  advance store process input :=
    some (advanceProcess job lockKey store process input)
  abort := abortProcess
  environment _ event := event.elim

/-- The connection that holds the lock stays open while the job works. -/
def KeepsConnection (_store : JobStore Db Summary)
    (process : JobProcess Work Summary) : JobInput Input → Prop
  | .loses => process.isInside = false
  | .acts _ _ => True

instance (store : JobStore Db Summary) (process : JobProcess Work Summary)
    (input : JobInput Input) :
    Decidable (KeepsConnection store process input) :=
  match input with
  | .loses => inferInstanceAs (Decidable (process.isInside = false))
  | .acts _ _ => isTrue trivial

/-! ## One step -/

/-- What a process can do. -/
inductive ProcessStep (store : JobStore Db Summary) :
    JobProcess Work Summary → JobStore Db Summary →
      Option (JobProcess Work Summary) → Prop
  | connects (call : JobCall) :
      ProcessStep store (.starting call) store.connect
        (some (.locking call.dryRun store.nextSession))
  | moves (process : JobProcess Work Summary)
      (next : Option (JobProcess Work Summary))
      (hdone : next = none → process.session? = none)
      (hgoes : ∀ following, next = some following →
        following.session? = process.session? ∧
          following.isInside = false) :
      ProcessStep store process store next
  | locks (dryRun : Bool) (session : Nat) (locks : Locks Int Nat)
      (htry : store.locks.tryLock lockKey session = some locks) :
      ProcessStep store (.locking dryRun session) { store with locks := locks }
        (some (.working session (job.begin dryRun)))
  | works (session : Nat) (work : Work) (input : Input) (db : Db)
      (progress : JobProgress Work Summary)
      (following : JobProcess Work Summary)
      (hstatement : job.statement store.db work input = (db, progress))
      (hfollowing : following = match progress with
        | .goes work => .working session work
        | .returns summary => .printing session summary
        | .throws => .unlocking session) :
      ProcessStep store (.working session work) { store with db := db }
        (some following)
  | prints (session : Nat) (summary : Summary) :
      ProcessStep store (.printing session summary)
        { store with printed := store.printed ++ [summary] }
        (some (.unlocking session))
  | unlocks (session : Nat) :
      ProcessStep store (.unlocking session)
        { store with locks := store.locks.unlock lockKey session }
        (some (.ending session))
  | closes (process : JobProcess Work Summary)
      (next : Option (JobProcess Work Summary))
      (hnext : ∀ following, next = some following →
        following = process ∧ process.isInside = false) :
      ProcessStep store process (store.lose process.session?) next

section Step

variable {job lockKey} {store after : JobStore Db Summary}
  {process other : JobProcess Work Summary}
  {next : Option (JobProcess Work Summary)} {input : JobInput Input}
  {session : Nat}

theorem processStep_advance (hkeeps : KeepsConnection store process input)
    (hadvance : advanceProcess job lockKey store process input =
      (after, next)) :
    ProcessStep job lockKey store process after next := by
  cases input with
  | loses =>
      have hlose : advanceProcess job lockKey store process .loses =
          (store.lose process.session?, some process) := by
        cases process <;> rfl
      cases hlose.symm.trans hadvance
      refine .closes process _ fun following hfollowing => ?_
      exact ⟨(Option.some.inj hfollowing).symm, hkeeps⟩
  | acts fails input =>
      cases process with
      | starting call =>
          dsimp only [advanceProcess] at hadvance
          split at hadvance
          case isTrue =>
            cases hadvance
            exact .connects call
          case isFalse =>
            cases hadvance
            exact .moves _ _ (fun _ => rfl) nofun
      | locking dryRun session =>
          dsimp only [advanceProcess] at hadvance
          split at hadvance
          case isTrue =>
            split at hadvance
            case h_1 locks htry =>
              cases hadvance
              exact .locks dryRun session locks htry
            case h_2 =>
              cases hadvance
              exact .closes (.locking dryRun session) none nofun
          case isFalse =>
            cases hadvance
            refine .moves _ _ nofun fun following hfollowing => ?_
            cases hfollowing
            exact ⟨rfl, rfl⟩
      | working session work =>
          dsimp only [advanceProcess] at hadvance
          split at hadvance
          case h_1 db work' hstatement =>
            cases hadvance
            exact .works session work input db _ _ hstatement rfl
          case h_2 db summary hstatement =>
            cases hadvance
            exact .works session work input db _ _ hstatement rfl
          case h_3 db hstatement =>
            cases hadvance
            exact .works session work input db _ _ hstatement rfl
      | printing session summary =>
          cases hadvance
          exact .prints session summary
      | unlocking session =>
          dsimp only [advanceProcess] at hadvance
          split at hadvance
          case isTrue =>
            cases hadvance
            exact .unlocks session
          case isFalse =>
            cases hadvance
            refine .moves _ _ nofun fun following hfollowing => ?_
            cases hfollowing
            exact ⟨rfl, rfl⟩
      | ending session =>
          cases hadvance
          exact .closes (.ending session) none nofun

/-- What a step leaves to the other sessions: their locks, and the database
and the output unless the process itself holds the lock. -/
structure LeavesOthers (store : JobStore Db Summary)
    (process : JobProcess Work Summary) (after : JobStore Db Summary) :
    Prop where
  nextSession : store.nextSession ≤ after.nextSession
  holds : ∀ key session, process.session? ≠ some session →
    (after.locks.Holds key session ↔ store.locks.Holds key session)
  same : process.isInside = false →
    after.db = store.db ∧ after.printed = store.printed

theorem leavesOthers_lose (store : JobStore Db Summary)
    (process : JobProcess Work Summary) :
    LeavesOthers store process (store.lose process.session?) := by
  cases hsession : process.session? with
  | none => exact ⟨Nat.le_refl _, fun _ _ _ => Iff.rfl, fun _ => ⟨rfl, rfl⟩⟩
  | some session =>
      refine ⟨Nat.le_refl _, fun key other hother => ?_, fun _ => ⟨rfl, rfl⟩⟩
      rw [hsession, ne_eq, Option.some.injEq] at hother
      simp only [JobStore.lose, JobStore.close, Locks.holds_close,
        and_iff_left_iff_imp]
      exact fun _ => Ne.symm hother

theorem ProcessStep.leavesOthers
    (hstep : ProcessStep job lockKey store process after next) :
    LeavesOthers store process after := by
  cases hstep with
  | connects call =>
      exact ⟨Nat.le_succ _, fun _ _ _ => Iff.rfl, fun _ => ⟨rfl, rfl⟩⟩
  | moves =>
      exact ⟨Nat.le_refl _, fun _ _ _ => Iff.rfl, fun _ => ⟨rfl, rfl⟩⟩
  | locks dryRun session locks htry =>
      refine ⟨Nat.le_refl _, fun key other hother => ?_, fun _ => ⟨rfl, rfl⟩⟩
      rw [Locks.holds_tryLock htry, or_iff_right_iff_imp]
      rintro ⟨-, rfl⟩
      exact absurd rfl hother
  | works => exact ⟨Nat.le_refl _, fun _ _ _ => Iff.rfl, nofun⟩
  | prints => exact ⟨Nat.le_refl _, fun _ _ _ => Iff.rfl, nofun⟩
  | unlocks session =>
      refine ⟨Nat.le_refl _, fun key other hother => ?_, fun _ => ⟨rfl, rfl⟩⟩
      apply Locks.holds_unlock_of_ne
      rintro rfl
      exact hother rfl
  | closes => exact leavesOthers_lose store process

/-- Where the sessions go on: the lock of a process that is done is gone. -/
theorem ProcessStep.holder
    (hstep : ProcessStep job lockKey store process after next) {key : Int}
    (hholds : after.locks.Holds key session) :
    (∃ following, next = some following ∧
        following.session? = some session) ∨
      store.locks.Holds key session ∧ process.session? ≠ some session := by
  by_cases hmover : process.session? = some session
  · refine .inl ?_
    cases hstep with
    | connects => cases hmover
    | moves _ _ hdone hgoes =>
        cases next with
        | none => rw [hdone rfl] at hmover; cases hmover
        | some following => exact ⟨_, rfl, (hgoes _ rfl).1.trans hmover⟩
    | locks => exact ⟨_, rfl, hmover⟩
    | works _ _ _ _ progress _ _ hfollowing =>
        subst hfollowing
        exact ⟨_, rfl, by cases progress <;> exact hmover⟩
    | prints => exact ⟨_, rfl, hmover⟩
    | unlocks => exact ⟨_, rfl, hmover⟩
    | closes =>
        rw [hmover] at hholds
        exact absurd rfl (Locks.holds_close.mp hholds).2
  · exact .inr ⟨(hstep.leavesOthers.holds key session hmover).mp hholds,
      hmover⟩

end Step

/-! ## The invariant -/

/-- What holds of a process that has come past the lock. -/
def InsideOk (first : Db) (store : JobStore Db Summary) (session : Nat)
    (progress : JobProgress Work Summary) : Prop :=
  store.locks.Holds lockKey session ∧ ∃ dryRun inputs db,
    Serial job first store.printed db ∧
      job.alone db (job.begin dryRun) inputs = some (store.db, progress)

def jobInvariant (first : Db) :
    Invariant (JobStore Db Summary) (JobProcess Work Summary) where
  SharedOk store := Serial job first store.printed store.db
  ThreadOk store process :=
    (∀ session, process.session? = some session →
      session < store.nextSession) ∧
    match process with
    | .working session work =>
        InsideOk job lockKey first store session (.goes work)
    | .printing session summary =>
        InsideOk job lockKey first store session (.returns summary)
    | _ => True
  Apart left right := ∀ session, left.session? = some session →
    right.session? ≠ some session

section Keeps

variable {job lockKey} {first : Db} {store after : JobStore Db Summary}
  {process other : JobProcess Work Summary}
  {next : Option (JobProcess Work Summary)}

/-- A process that is inside holds the lock. -/
theorem holds_of_isInside
    (hprocess : (jobInvariant job lockKey first).ThreadOk store process)
    (hinside : process.isInside = true) :
    ∃ session, process.session? = some session ∧
      store.locks.Holds lockKey session := by
  cases process with
  | working session work => exact ⟨session, rfl, hprocess.2.1⟩
  | printing session summary => exact ⟨session, rfl, hprocess.2.1⟩
  | starting | locking | unlocking | ending => cases hinside

theorem InsideOk.leaves {session : Nat} {progress : JobProgress Work Summary}
    (hinside : InsideOk job lockKey first store session progress)
    (hprocess : (jobInvariant job lockKey first).ThreadOk store process)
    (hother : process.session? ≠ some session)
    (hleaves : LeavesOthers store process after) :
    InsideOk job lockKey first after session progress := by
  obtain ⟨hholds, hrun⟩ := hinside
  refine ⟨(hleaves.holds lockKey session hother).mpr hholds, ?_⟩
  have houtside : process.isInside = false := by
    rw [← Bool.not_eq_true]
    intro hmover
    obtain ⟨holder, hholder, hmoverHolds⟩ := holds_of_isInside hprocess hmover
    rw [hmoverHolds.unique hholds] at hholder
    exact hother hholder
  obtain ⟨hdb, hprinted⟩ := hleaves.same houtside
  rwa [hdb, hprinted]

theorem threadOk_leaves
    (hprocess : (jobInvariant job lockKey first).ThreadOk store process)
    (hother : (jobInvariant job lockKey first).ThreadOk store other)
    (hapart : (jobInvariant job lockKey first).Apart process other)
    (hleaves : LeavesOthers store process after) :
    (jobInvariant job lockKey first).ThreadOk after other := by
  have hsession : ∀ session, other.session? = some session →
      process.session? ≠ some session :=
    fun session hsession hmover => hapart session hmover hsession
  obtain ⟨hfresh, hprogress⟩ := hother
  refine ⟨fun session hsession =>
    Nat.lt_of_lt_of_le (hfresh session hsession) hleaves.nextSession, ?_⟩
  cases other with
  | working session work =>
      exact hprogress.leaves hprocess (hsession session rfl) hleaves
  | printing session summary =>
      exact hprogress.leaves hprocess (hsession session rfl) hleaves
  | starting | locking | unlocking | ending => trivial

theorem sharedOk_step
    (hshared : (jobInvariant job lockKey first).SharedOk store)
    (hprocess : (jobInvariant job lockKey first).ThreadOk store process)
    (hstep : ProcessStep job lockKey store process after next) :
    (jobInvariant job lockKey first).SharedOk after := by
  cases hstep with
  | works session work input db progress _ hstatement =>
      obtain ⟨-, -, dryRun, inputs, db₀, hbefore, halone⟩ := hprocess
      have hlonger := Job.alone_append halone input
      rw [hstatement] at hlonger
      exact .cut dryRun _ progress hbefore hlonger
  | prints session summary =>
      obtain ⟨-, -, dryRun, inputs, db₀, hbefore, halone⟩ := hprocess
      exact .returned dryRun inputs summary hbefore halone
  | closes =>
      cases hsession : process.session? with
      | none => exact hshared
      | some session => exact hshared
  | connects | moves | locks | unlocks => exact hshared

theorem threadOk_step {following : JobProcess Work Summary}
    (hshared : (jobInvariant job lockKey first).SharedOk store)
    (hprocess : (jobInvariant job lockKey first).ThreadOk store process)
    (hstep : ProcessStep job lockKey store process after (some following)) :
    (jobInvariant job lockKey first).ThreadOk after following := by
  obtain ⟨hfresh, hprogress⟩ := hprocess
  cases hstep with
  | connects call =>
      refine ⟨fun session hsession => ?_, trivial⟩
      cases hsession
      exact Nat.lt_succ_self _
  | moves _ _ _ hgoes =>
      obtain ⟨hsession, houtside⟩ := hgoes following rfl
      refine ⟨fun session hfollowing => hfresh session
        (hsession.symm.trans hfollowing), ?_⟩
      cases following with
      | working | printing => cases houtside
      | starting | locking | unlocking | ending => trivial
  | locks dryRun session locks htry =>
      refine ⟨hfresh, (Locks.holds_tryLock htry).mpr (.inl ⟨rfl, rfl⟩), ?_⟩
      exact ⟨dryRun, [], store.db, hshared, rfl⟩
  | works session work input db progress _ hstatement hfollowing =>
      obtain ⟨hholds, dryRun, inputs, db₀, hbefore, halone⟩ := hprogress
      have hlonger := Job.alone_append halone input
      rw [hstatement] at hlonger
      have hinside : InsideOk job lockKey first { store with db := db } session
          progress := ⟨hholds, dryRun, _, db₀, hbefore, hlonger⟩
      subst hfollowing
      cases progress with
      | goes work => exact ⟨hfresh, hinside⟩
      | returns summary => exact ⟨hfresh, hinside⟩
      | throws => exact ⟨hfresh, trivial⟩
  | prints session summary => exact ⟨hfresh, trivial⟩
  | unlocks session => exact ⟨hfresh, trivial⟩
  | closes _ _ hnext =>
      obtain ⟨rfl, houtside⟩ := hnext following rfl
      refine ⟨fun session hsession => Nat.lt_of_lt_of_le
        (hfresh session hsession)
        (leavesOthers_lose store following).nextSession, ?_⟩
      cases following with
      | working | printing => cases houtside
      | starting | locking | unlocking | ending => trivial

/-- The session of a process stays its own; a new one is nobody's. -/
theorem session_step {following : JobProcess Work Summary} {session : Nat}
    (hstep : ProcessStep job lockKey store process after (some following))
    (hsession : following.session? = some session) :
    process.session? = some session ∨ session = store.nextSession := by
  cases hstep with
  | connects => exact .inr (Option.some.inj hsession).symm
  | moves _ _ _ hgoes =>
      exact .inl ((hgoes following rfl).1.symm.trans hsession)
  | works _ _ _ _ progress _ _ hfollowing =>
      subst hfollowing
      cases progress <;> exact .inl hsession
  | closes _ _ hnext =>
      obtain ⟨rfl, -⟩ := hnext following rfl
      exact .inl hsession
  | locks | prints | unlocks => exact .inl hsession

theorem ProcessStep.keeps
    (hshared : (jobInvariant job lockKey first).SharedOk store)
    (hprocess : (jobInvariant job lockKey first).ThreadOk store process)
    (hstep : ProcessStep job lockKey store process after next) :
    (jobInvariant job lockKey first).Keeps store process after next where
  shared := sharedOk_step hshared hprocess hstep
  thread following hfollowing := by
    subst hfollowing
    exact threadOk_step hshared hprocess hstep
  others other hother hapart :=
    threadOk_leaves hprocess hother hapart hstep.leavesOthers
  apart following hfollowing other hother hapart := by
    subst hfollowing
    have hne : ∀ session, following.session? = some session →
        other.session? ≠ some session := by
      intro session hsession hotherSession
      rcases session_step hstep hsession with hmover | rfl
      · exact hapart session hmover hotherSession
      · exact absurd (hother.1 _ hotherSession) (Nat.lt_irrefl _)
    exact ⟨hne, fun session hotherSession hsession =>
      hne session hsession hotherSession⟩

variable (job lockKey first)

theorem jobInvariant_inductive :
    (jobInvariant job lockKey first).Inductive (jobProgram job lockKey)
      KeepsConnection where
  start store call _ := by
    refine ⟨⟨nofun, trivial⟩, fun other => ⟨nofun, ?_⟩⟩
    intro session _ hsession
    cases hsession
  advance store process input after next hshared hprocess hkeeps hadvance :=
    (processStep_advance hkeeps (Option.some.inj hadvance)).keeps hshared
      hprocess
  abort store process hshared hprocess :=
    ProcessStep.keeps hshared hprocess (.closes process none nofun)
  environment _ event := event.elim

end Keeps

/-! ## Runs -/

/-- No connection has been made yet. -/
def JobStore.fresh (db : Db) : JobStore Db Summary where
  db := db
  locks := .empty
  connected := []
  nextSession := 0
  printed := []

abbrev JobPool (Db Work Summary : Type) : Type :=
  Pool (JobStore Db Summary) (JobProcess Work Summary) Nat

abbrev JobAction (Input : Type) : Type :=
  Action JobCall (JobInput Input) Empty Nat

/-- Every lock belongs to a process that is running. -/
def Accountable (pool : JobPool Db Work Summary) : Prop :=
  ∀ key session, pool.shared.locks.Holds key session →
    ∃ id process, pool.thread id = some process ∧
      process.session? = some session

section Runs

variable {job lockKey} {pool next last : JobPool Db Work Summary}
  {actions : List (JobAction Input)}

theorem Accountable.set {id : Nat} {process : JobProcess Work Summary}
    {after : JobStore Db Summary} {following : Option (JobProcess Work Summary)}
    (haccountable : Accountable pool) (hprocess : pool.thread id = some process)
    (hstep : ProcessStep job lockKey pool.shared process after following) :
    Accountable (pool.set id after following) := by
  intro key session hholds
  rcases hstep.holder hholds with ⟨mover, rfl, hsession⟩ | ⟨hbefore, hmover⟩
  · exact ⟨id, mover, Pool.set_self _ _ _ _, hsession⟩
  · obtain ⟨other, holder, hother, hsession⟩ := haccountable key session hbefore
    have hne : other ≠ id := by
      rintro rfl
      cases hprocess.symm.trans hother
      exact hmover hsession
    refine ⟨other, holder, ?_, hsession⟩
    rw [Pool.set_of_ne _ _ _ hne]
    exact hother

theorem accountable_step {action : JobAction Input}
    (haccountable : Accountable pool)
    (hmeets : Meets KeepsConnection pool action)
    (hstep : step (jobProgram job lockKey) pool action = some next) :
    Accountable next := by
  cases moves_of_step _ hstep with
  | spawn id call hfree =>
      intro key session hholds
      obtain ⟨other, holder, hother, hsession⟩ :=
        haccountable key session hholds
      have hne : other ≠ id := by
        rintro rfl
        rw [hfree] at hother
        cases hother
      refine ⟨other, holder, ?_, hsession⟩
      rw [Pool.set_of_ne _ _ _ hne]
      exact hother
  | advance id input process after following hprocess hadvance =>
      exact haccountable.set hprocess (processStep_advance
        (hmeets process hprocess) (Option.some.inj hadvance))
  | abort id process hprocess =>
      have hcloses : ProcessStep job lockKey pool.shared process _ none :=
        .closes process none nofun
      exact haccountable.set hprocess hcloses
  | environment event => exact event.elim

/-- What a run of processes comes to. -/
structure SerialJobs (job : Job Db Work Input Summary) (first : Db)
    (last : JobPool Db Work Summary) : Prop where
  exclusive : ∀ left right leftProcess rightProcess,
    last.thread left = some leftProcess →
    last.thread right = some rightProcess →
    leftProcess.isInside = true → rightProcess.isInside = true → left = right
  serial : Serial job first last.shared.printed last.shared.db
  accountable : Accountable last

theorem serialJobs_of_run {first : Db}
    (hkeeps : StepSystem.Along (step (jobProgram job lockKey))
      (Meets KeepsConnection) (Pool.start (.fresh first)) actions)
    (hrun : StepSystem.run (step (jobProgram job lockKey))
      (Pool.start (.fresh first)) actions = some last) :
    SerialJobs job first last := by
  have hholds : (jobInvariant job lockKey first).Holds last := by
    refine (jobInvariant_inductive job lockKey first).run
      (Invariant.holds_start ?_) hkeeps hrun
    exact Serial.start
  constructor
  · intro left right leftProcess rightProcess hleft hright hleftInside
      hrightInside
    by_contra hne
    obtain ⟨session, hsession, hleftHolds⟩ := holds_of_isInside
      (hholds.thread left leftProcess hleft) hleftInside
    obtain ⟨other, hother, hrightHolds⟩ := holds_of_isInside
      (hholds.thread right rightProcess hright) hrightInside
    have happart := hholds.apart left right _ _ hne hleft hright
    rw [hleftHolds.unique hrightHolds] at hsession
    exact happart other hsession hother
  · exact hholds.shared
  · refine StepSystem.run_preserves (step (jobProgram job lockKey))
      (fun _ _ _ haccountable hmeets hstep =>
        accountable_step haccountable hmeets hstep) ?_ hkeeps hrun
    exact fun key session hnone =>
      absurd hnone (Locks.not_holds_empty key session)

end Runs

end Bootstrap

end IdProvider
