/-
The processes of the account deletion job: however their steps interleave and
wherever they die, the database is what whole runs of the job make of it one
after another, and its dry run tells what the next run does.
-/
import IdProvider.DeletionJob
import IdProvider.ScheduledJob

namespace IdProvider

open Interleaving JsonText KeyedTable

/-! ## `runAccountDeletionJob` -/

structure DryRunSummary where
  processed : Nat
  wouldDelete : Nat
  deferredLegalHold : Nat
  deriving DecidableEq

inductive DeletionJobSummary where
  | finalized (summary : FinalizeSummary)
  | dryRun (summary : DryRunSummary)
  deriving DecidableEq

/-- What a statement meets: whether it fails, the clock, and a generated id. -/
structure DeletionInput where
  fails : Bool
  now : Instant
  id : String

/-- The next statement, the user it is about, and the users after it. -/
inductive DeletionWork where
  | finding (dryRun : Bool)
  | counting (userId : String) (rest : List String) (summary : DryRunSummary)
  | checking (userId : String) (rest : List String)
      (summary : FinalizeSummary)
  | deferring (userId : String) (rest : List String)
      (summary : FinalizeSummary)
  | deleting (userId : String) (rest : List String)
      (summary : FinalizeSummary)
  | logging (userId : String) (rest : List String)
      (summary : FinalizeSummary)

abbrev DeletionProgress : Type :=
  JobProgress DeletionWork DeletionJobSummary

def nextCount (summary : DryRunSummary) : List String → DeletionProgress
  | [] => .returns (.dryRun summary)
  | userId :: rest => .goes (.counting userId rest summary)

/-- The loop goes on with the next user, or is over. -/
def goOn (summary : FinalizeSummary) : List String → DeletionProgress
  | [] => .returns (.finalized summary)
  | userId :: rest =>
      .goes (.checking userId rest
        { summary with processed := summary.processed + 1 })

/-- The calls of a turn when its statements meet these inputs. -/
def turnCalls (hold delete log : DeletionInput) : FinalizeCalls where
  holdFails := hold.fails
  holdNow := hold.now
  deleteFails := delete.fails
  logFails := log.fails
  logNow := log.now
  logId := log.id

section Job

variable (env : AuditEnv) (batchChunkSize : Nat)

def deletionStatement (db : DeletionDb) :
    DeletionWork → DeletionInput → DeletionDb × DeletionProgress
  | .finding dryRun, input =>
      if input.fails then (db, .throws)
      else
        let usersToDelete := findDueDeletions input.now batchChunkSize db
        if dryRun then
          (db, nextCount ⟨usersToDelete.length, 0, 0⟩ usersToDelete)
        else (db, goOn ⟨0, 0, 0, 0⟩ usersToDelete)
  | .counting userId rest summary, input =>
      if input.fails then (db, .throws)
      else if hasActiveLegalHold input.now userId db then
        (db, nextCount
          { summary with deferredLegalHold := summary.deferredLegalHold + 1 }
          rest)
      else
        (db, nextCount { summary with wouldDelete := summary.wouldDelete + 1 }
          rest)
  | .checking userId rest summary, input =>
      if input.fails then (db, goOn summary.fail rest)
      else if hasActiveLegalHold input.now userId db then
        (db, .goes (.deferring userId rest
          { summary with deferredLegalHold := summary.deferredLegalHold + 1 }))
      else (db, .goes (.deleting userId rest summary))
  | .deferring userId rest summary, input =>
      match createDeletionLog env (turnCalls input input input)
        "account.deletion.deferred_legal_hold" userId
        [("reason", .str "Active legal hold")] db with
      | some logged => (logged, goOn summary rest)
      | none => (db, goOn summary.fail rest)
  | .deleting userId rest summary, input =>
      if input.fails then (db, goOn summary.fail rest)
      else
        (physicallyDeleteUser userId db, .goes (.logging userId rest
          { summary with deleted := summary.deleted + 1 }))
  | .logging userId rest summary, input =>
      match createDeletionLog env (turnCalls input input input)
        "account.deletion.finalized" userId [] db with
      | some logged => (logged, goOn summary rest)
      | none => (db, goOn summary.fail rest)

def deletionJob :
    Job DeletionDb DeletionWork DeletionInput DeletionJobSummary where
  begin := .finding
  statement := deletionStatement env batchChunkSize

end Job

/-! ## Whole runs -/

section Runs

variable (env : AuditEnv) (batchChunkSize : Nat)

def countDueDeletion (holdNow : String → Instant) (db : DeletionDb)
    (summary : DryRunSummary) (userId : String) : DryRunSummary :=
  if hasActiveLegalHold (holdNow userId) userId db then
    { summary with deferredLegalHold := summary.deferredLegalHold + 1 }
  else { summary with wouldDelete := summary.wouldDelete + 1 }

/-- The dry run as a whole; `holdNow` is the clock at each user's lookup. -/
def dryRunDueDeletions (now : Instant) (holdNow : String → Instant)
    (db : DeletionDb) : DryRunSummary :=
  let usersToDelete := findDueDeletions now batchChunkSize db
  usersToDelete.foldl (countDueDeletion holdNow db)
    ⟨usersToDelete.length, 0, 0⟩

/-- Some turns of the loop. -/
def finalizeTurns (calls : String → FinalizeCalls) (userIds : List String)
    (done : DeletionDb × FinalizeSummary) : DeletionDb × FinalizeSummary :=
  userIds.foldl (fun done userId =>
    finalizeDeletion env (calls userId) userId done.1 done.2) done

/-- Runs of the job, one after another, with what they print.  One that does
not come to its end has taken some of its turns. -/
inductive DeletionRuns (first : DeletionDb) :
    List DeletionJobSummary → DeletionDb → Prop
  | start : DeletionRuns first [] first
  | finalized {printed : List DeletionJobSummary} {db : DeletionDb}
      (now : Instant) (calls : String → FinalizeCalls)
      (hbefore : DeletionRuns first printed db) :
      DeletionRuns first
        (printed ++ [.finalized
          (finalizeDueDeletions env batchChunkSize now calls db).2])
        (finalizeDueDeletions env batchChunkSize now calls db).1
  | dryRun {printed : List DeletionJobSummary} {db : DeletionDb}
      (now : Instant) (holdNow : String → Instant)
      (hbefore : DeletionRuns first printed db) :
      DeletionRuns first
        (printed ++
          [.dryRun (dryRunDueDeletions batchChunkSize now holdNow db)])
        db
  | cut {printed : List DeletionJobSummary} {db : DeletionDb} (now : Instant)
      (calls : String → FinalizeCalls) (count : Nat)
      (hbefore : DeletionRuns first printed db) :
      DeletionRuns first printed
        (finalizeTurns env calls
          ((findDueDeletions now batchChunkSize db).take count)
          (db, ⟨0, 0, 0, 0⟩)).1

end Runs

/-! ## A process alone -/

section Alone

variable {env : AuditEnv} {db : DeletionDb} {userId : String}
  {userIds : List String} {summary : FinalizeSummary}
  {inputs : List DeletionInput} {result : DeletionDb × DeletionProgress}

/-- The loop after a turn. -/
def afterTurnOf (done : DeletionDb × FinalizeSummary)
    (userIds : List String) : DeletionDb × DeletionProgress :=
  (done.1, goOn done.2 userIds)

theorem turn_fails {hold : DeletionInput} (hfails : hold.fails = true) :
    (db, goOn { summary with processed := summary.processed + 1 }.fail
      userIds) =
      afterTurnOf (finalizeDeletion env (turnCalls hold hold hold) userId db
        summary) userIds := by
  have hholdFails : (turnCalls hold hold hold).holdFails = true := hfails
  rw [finalizeDeletion, hholdFails]
  rfl

/-- The turn of a user that is held ends with the log entry. -/
theorem turn_deferring (batchChunkSize : Nat) {hold : DeletionInput}
    (log : DeletionInput) (hfails : hold.fails = false)
    (hheld : hasActiveLegalHold hold.now userId db = true) :
    deletionStatement env batchChunkSize db
        (.deferring userId userIds
          { summary with
            processed := summary.processed + 1
            deferredLegalHold := summary.deferredLegalHold + 1 }) log =
      afterTurnOf (finalizeDeletion env (turnCalls hold log log) userId db
        summary) userIds := by
  have hholdFails : (turnCalls hold log log).holdFails = false := hfails
  have hholds : hasActiveLegalHold (turnCalls hold log log).holdNow userId
      db = true := hheld
  have hlog : createDeletionLog env (turnCalls hold log log)
      "account.deletion.deferred_legal_hold" userId
      [("reason", .str "Active legal hold")] db =
      createDeletionLog env (turnCalls log log log)
        "account.deletion.deferred_legal_hold" userId
        [("reason", .str "Active legal hold")] db := rfl
  simp only [finalizeDeletion, deletionStatement, hholdFails, hholds, hlog,
    Bool.false_eq_true, ↓reduceIte]
  cases createDeletionLog env (turnCalls log log log)
    "account.deletion.deferred_legal_hold" userId
    [("reason", .str "Active legal hold")] db with
  | some logged => rfl
  | none => rfl

section NotHeld

variable (batchChunkSize : Nat) {hold delete : DeletionInput}
  (hfails : hold.fails = false)
  (hfree : hasActiveLegalHold hold.now userId db = false)

include hfails hfree

theorem turn_delete_fails (hdelete : delete.fails = true) :
    (db, goOn { summary with processed := summary.processed + 1 }.fail
      userIds) =
      afterTurnOf (finalizeDeletion env (turnCalls hold delete delete) userId
        db summary) userIds := by
  have hholdFails : (turnCalls hold delete delete).holdFails = false := hfails
  have hholds : hasActiveLegalHold (turnCalls hold delete delete).holdNow
      userId db = false := hfree
  have hdeleteFails : (turnCalls hold delete delete).deleteFails = true :=
    hdelete
  simp only [finalizeDeletion, hholdFails, hholds, hdeleteFails,
    Bool.false_eq_true, ↓reduceIte]
  rfl

/-- The turn of a user that is deleted ends with the log entry. -/
theorem turn_logging (hdelete : delete.fails = false) (log : DeletionInput) :
    deletionStatement env batchChunkSize (physicallyDeleteUser userId db)
        (.logging userId userIds
          { summary with
            processed := summary.processed + 1
            deleted := summary.deleted + 1 }) log =
      afterTurnOf (finalizeDeletion env (turnCalls hold delete log) userId db
        summary) userIds := by
  have hholdFails : (turnCalls hold delete log).holdFails = false := hfails
  have hholds : hasActiveLegalHold (turnCalls hold delete log).holdNow userId
      db = false := hfree
  have hdeleteFails : (turnCalls hold delete log).deleteFails = false :=
    hdelete
  have hlog : createDeletionLog env (turnCalls hold delete log)
      "account.deletion.finalized" userId [] (physicallyDeleteUser userId db) =
      createDeletionLog env (turnCalls log log log)
        "account.deletion.finalized" userId []
        (physicallyDeleteUser userId db) := rfl
  simp only [finalizeDeletion, deletionStatement, hholdFails, hholds,
    hdeleteFails, hlog, Bool.false_eq_true, ↓reduceIte]
  cases createDeletionLog env (turnCalls log log log)
    "account.deletion.finalized" userId []
    (physicallyDeleteUser userId db) with
  | some logged => rfl
  | none => rfl

/-- A turn that has deleted its user and not logged it is one whose log entry
has failed. -/
theorem turn_deleted (env : AuditEnv) (summary : FinalizeSummary)
    (hdelete : delete.fails = false) :
    ∃ calls, (finalizeDeletion env calls userId db summary).1 =
      physicallyDeleteUser userId db := by
  refine ⟨{ turnCalls hold delete delete with logFails := true }, ?_⟩
  have hholdFails : (turnCalls hold delete delete).holdFails = false := hfails
  have hholds : hasActiveLegalHold (turnCalls hold delete delete).holdNow
      userId db = false := hfree
  have hdeleteFails : (turnCalls hold delete delete).deleteFails = false :=
    hdelete
  simp only [finalizeDeletion, hholdFails, hholds, hdeleteFails,
    createDeletionLog, Bool.false_eq_true, ↓reduceIte]

end NotHeld

/-- The statements of a turn: it is over, or it has come to the middle and has
changed nothing yet or what a turn would. -/
theorem alone_checking {batchChunkSize : Nat}
    (halone : (deletionJob env batchChunkSize).alone db
      (.checking userId userIds
        { summary with processed := summary.processed + 1 }) inputs =
      some result) :
    (∃ calls rest, (deletionJob env batchChunkSize).resume
      (afterTurnOf (finalizeDeletion env calls userId db summary) userIds)
        rest = some result) ∨
    (∃ work, result.2 = .goes work) ∧
      (result.1 = db ∨
        ∃ calls,
          result.1 = (finalizeDeletion env calls userId db summary).1) := by
  cases inputs with
  | nil =>
      cases halone
      exact .inr ⟨⟨_, rfl⟩, .inl rfl⟩
  | cons hold inputs =>
      rw [Job.alone_cons] at halone
      dsimp only [deletionJob, deletionStatement] at halone
      split at halone
      case isTrue hfails =>
        rw [turn_fails hfails] at halone
        exact .inl ⟨_, inputs, halone⟩
      case isFalse hfails =>
        rw [Bool.not_eq_true] at hfails
        split at halone
        case isTrue hheld =>
          cases inputs with
          | nil =>
              cases halone
              exact .inr ⟨⟨_, rfl⟩, .inl rfl⟩
          | cons log inputs =>
              refine .inl ⟨turnCalls hold log log, inputs, ?_⟩
              rw [← turn_deferring batchChunkSize log hfails hheld]
              exact (Job.alone_cons _ _ _ _ _).symm.trans halone
        case isFalse hfree =>
          rw [Bool.not_eq_true] at hfree
          cases inputs with
          | nil =>
              cases halone
              exact .inr ⟨⟨_, rfl⟩, .inl rfl⟩
          | cons delete inputs =>
              have hrest := (Job.alone_cons _ _ _ _ _).symm.trans halone
              dsimp only [deletionStatement] at hrest
              split at hrest
              case isTrue hdelete =>
                rw [turn_delete_fails hfails hfree hdelete] at hrest
                exact .inl ⟨_, inputs, hrest⟩
              case isFalse hdelete =>
                rw [Bool.not_eq_true] at hdelete
                cases inputs with
                | nil =>
                    cases hrest
                    refine .inr ⟨⟨_, rfl⟩, .inr ?_⟩
                    obtain ⟨calls, hdeleted⟩ :=
                      turn_deleted hfails hfree env summary hdelete
                    exact ⟨calls, hdeleted.symm⟩
                | cons log inputs =>
                    refine .inl ⟨turnCalls hold delete log, inputs, ?_⟩
                    rw [← turn_logging batchChunkSize hfails hfree hdelete log]
                    exact (Job.alone_cons _ _ _ _ _).symm.trans hrest

theorem finalizeTurns_congr {calls others : String → FinalizeCalls}
    (hsame : ∀ userId ∈ userIds, calls userId = others userId)
    (done : DeletionDb × FinalizeSummary) :
    finalizeTurns env calls userIds done =
      finalizeTurns env others userIds done := by
  induction userIds generalizing done with
  | nil => rfl
  | cons userId userIds ih =>
      rw [List.forall_mem_cons] at hsame
      rw [finalizeTurns, List.foldl_cons, hsame.1]
      exact ih hsame.2 _

/-- What the loop has come to: it has taken some of its turns, and returns
when it has taken all of them. -/
def LoopReaches (env : AuditEnv) (userIds : List String)
    (done : DeletionDb × FinalizeSummary)
    (result : DeletionDb × DeletionProgress) : Prop :=
  ∃ calls count,
    result.1 = (finalizeTurns env calls (userIds.take count) done).1 ∧
      ∀ summary, result.2 = .returns summary →
        result.1 = (finalizeTurns env calls userIds done).1 ∧
          summary = .finalized (finalizeTurns env calls userIds done).2

/-- A turn whose calls are known, before the others. -/
theorem LoopReaches.cons {calls : FinalizeCalls} (hfresh : userId ∉ userIds)
    (hrest : LoopReaches env userIds
      (finalizeDeletion env calls userId db summary) result) :
    LoopReaches env (userId :: userIds) (db, summary) result := by
  obtain ⟨others, count, hdb, hreturns⟩ := hrest
  have hothers : ∀ id ∈ userIds,
      Function.update others userId calls id = others id := by
    intro id hid
    apply Function.update_of_ne
    rintro rfl
    exact hfresh hid
  have hsome : ∀ id ∈ userIds.take count,
      Function.update others userId calls id = others id :=
    fun id hid => hothers id (List.mem_of_mem_take hid)
  refine ⟨Function.update others userId calls, count + 1, ?_, ?_⟩
  · rw [List.take_succ_cons, finalizeTurns, List.foldl_cons,
      Function.update_self]
    exact hdb.trans (congrArg Prod.fst (finalizeTurns_congr hsome _)).symm
  · intro answer hanswer
    rw [finalizeTurns, List.foldl_cons, Function.update_self]
    have hdone := hreturns answer hanswer
    rw [← finalizeTurns_congr hothers] at hdone
    exact hdone

theorem loopReaches {batchChunkSize : Nat} (hnodup : userIds.Nodup)
    (hresume : (deletionJob env batchChunkSize).resume
      (afterTurnOf (db, summary) userIds) inputs = some result) :
    LoopReaches env userIds (db, summary) result := by
  induction userIds generalizing db summary inputs with
  | nil =>
      dsimp only [Job.resume, afterTurnOf, goOn] at hresume
      split at hresume
      case isTrue =>
        cases hresume
        refine ⟨fun _ => ⟨false, 0, false, false, 0, ""⟩, 0, rfl, ?_⟩
        intro summary hsummary
        cases hsummary
        exact ⟨rfl, rfl⟩
      case isFalse => cases hresume
  | cons userId userIds ih =>
      rw [List.nodup_cons] at hnodup
      rcases alone_checking hresume with
        ⟨calls, rest, hrest⟩ | ⟨⟨work, hgoes⟩, hmiddle⟩
      · exact (ih hnodup.2 hrest).cons hnodup.1
      · have hnone : ∀ summary, result.2 ≠ .returns summary := by
          rw [hgoes]
          nofun
        rcases hmiddle with hdb | ⟨calls, hdb⟩
        · exact ⟨fun _ => ⟨false, 0, false, false, 0, ""⟩, 0, hdb,
            fun summary hsummary => absurd hsummary (hnone summary)⟩
        · exact ⟨fun _ => calls, 1, hdb,
            fun summary hsummary => absurd hsummary (hnone summary)⟩

/-- The dry run counts the users that its lookups find held, and the others. -/
theorem foldl_countDueDeletion_eq (holdNow : String → Instant)
    (db : DeletionDb) (userIds : List String) (count : DryRunSummary) :
    let held := fun id => hasActiveLegalHold (holdNow id) id db
    userIds.foldl (countDueDeletion holdNow db) count =
      { processed := count.processed
        wouldDelete := count.wouldDelete + userIds.countP fun id => !held id
        deferredLegalHold :=
          count.deferredLegalHold + userIds.countP held } := by
  intro held
  induction userIds generalizing count with
  | nil => rfl
  | cons userId userIds ih =>
      rw [List.foldl_cons, ih, countDueDeletion]
      cases hheld : held userId with
      | true =>
          rw [if_pos hheld, List.countP_cons_of_pos hheld,
            List.countP_cons_of_neg (by rw [hheld]; exact nofun)]
          simp only [DryRunSummary.mk.injEq, true_and]
          omega
      | false =>
          have hfree : ¬ held userId = true := by
            rw [hheld]
            exact nofun
          rw [if_neg hfree, List.countP_cons_of_pos (by rw [hheld]; rfl),
            List.countP_cons_of_neg hfree]
          simp only [DryRunSummary.mk.injEq, true_and, and_true]
          omega

/-- Neither the order of the users counts nor when their holds are looked up,
as long as the lookups find the same. -/
theorem foldl_countDueDeletion_congr {other : DeletionDb}
    {holdNow otherNow : String → Instant} {otherIds : List String}
    (hperm : userIds.Perm otherIds)
    (hheld : ∀ id ∈ userIds, hasActiveLegalHold (holdNow id) id db =
      hasActiveLegalHold (otherNow id) id other)
    (count : DryRunSummary) :
    userIds.foldl (countDueDeletion holdNow db) count =
      otherIds.foldl (countDueDeletion otherNow other) count := by
  rw [foldl_countDueDeletion_eq, foldl_countDueDeletion_eq,
    DryRunSummary.mk.injEq, ← hperm.countP_eq, ← hperm.countP_eq]
  refine ⟨rfl, congrArg _ (List.countP_congr ?_),
    congrArg _ (List.countP_congr ?_)⟩
  · intro id hid
    dsimp only
    rw [hheld id hid]
  · intro id hid
    rw [hheld id hid]

/-- The dry run reads, and returns when it has counted everyone. -/
theorem countReaches {batchChunkSize : Nat} (hnodup : userIds.Nodup)
    {count : DryRunSummary}
    (hresume : (deletionJob env batchChunkSize).resume
      (db, nextCount count userIds) inputs = some result) :
    result.1 = db ∧ ∀ answer, result.2 = .returns answer → ∃ holdNow,
      answer = .dryRun (userIds.foldl (countDueDeletion holdNow db) count) := by
  induction userIds generalizing count inputs with
  | nil =>
      dsimp only [Job.resume, nextCount] at hresume
      split at hresume
      case isTrue =>
        cases hresume
        refine ⟨rfl, fun answer hanswer => ⟨fun _ => 0, ?_⟩⟩
        cases hanswer
        rfl
      case isFalse => cases hresume
  | cons userId userIds ih =>
      rw [List.nodup_cons] at hnodup
      obtain ⟨hfresh, hnodup⟩ := hnodup
      dsimp only [Job.resume, nextCount] at hresume
      cases inputs with
      | nil =>
          cases hresume
          exact ⟨rfl, nofun⟩
      | cons input inputs =>
          rw [Job.alone_cons] at hresume
          dsimp only [deletionJob, deletionStatement] at hresume
          split at hresume
          case isTrue =>
            dsimp only [Job.resume] at hresume
            split at hresume
            case isTrue =>
              cases hresume
              exact ⟨rfl, nofun⟩
            case isFalse => cases hresume
          case isFalse =>
            have hrest : (deletionJob env batchChunkSize).resume
                (db, nextCount (countDueDeletion (fun _ => input.now) db count
                  userId) userIds) inputs = some result := by
              rw [countDueDeletion]
              split
              case isTrue hheld => rwa [if_pos hheld] at hresume
              case isFalse hfree => rwa [if_neg hfree] at hresume
            obtain ⟨hdb, hreturns⟩ := ih hnodup hrest
            refine ⟨hdb, fun answer hanswer => ?_⟩
            obtain ⟨holdNow, rfl⟩ := hreturns answer hanswer
            have hothers : ∀ id ∈ userIds,
                Function.update holdNow userId input.now id = holdNow id := by
              intro id hid
              apply Function.update_of_ne
              rintro rfl
              exact hfresh hid
            refine ⟨Function.update holdNow userId input.now, ?_⟩
            have hlookups : ∀ id ∈ userIds, hasActiveLegalHold
                (Function.update holdNow userId input.now id) id db =
                  hasActiveLegalHold (holdNow id) id db :=
              fun id hid => by rw [hothers id hid]
            rw [List.foldl_cons,
              foldl_countDueDeletion_congr (List.Perm.refl userIds) hlookups]
            rw [countDueDeletion, countDueDeletion, Function.update_self]

/-- What a process has done of the job, in whole turns. -/
theorem DeletionRuns.alone {batchChunkSize : Nat} {first : DeletionDb}
    {printed : List DeletionJobSummary} {dryRun : Bool}
    (hbefore : DeletionRuns env batchChunkSize first printed db)
    (halone : (deletionJob env batchChunkSize).alone db (.finding dryRun)
      inputs = some result) :
    DeletionRuns env batchChunkSize first printed result.1 ∧
      ∀ answer, result.2 = .returns answer →
        DeletionRuns env batchChunkSize first (printed ++ [answer])
          result.1 := by
  cases inputs with
  | nil =>
      cases halone
      exact ⟨hbefore, nofun⟩
  | cons input inputs =>
      rw [Job.alone_cons] at halone
      dsimp only [deletionJob, deletionStatement] at halone
      have hnodup := @nodup_findDueDeletions input.now db batchChunkSize
      split at halone
      case isTrue =>
        dsimp only [Job.resume] at halone
        split at halone
        case isTrue =>
          cases halone
          exact ⟨hbefore, nofun⟩
        case isFalse => cases halone
      case isFalse =>
        cases dryRun with
        | true =>
            obtain ⟨hdb, hreturns⟩ := countReaches hnodup halone
            rw [hdb]
            refine ⟨hbefore, fun answer hanswer => ?_⟩
            obtain ⟨holdNow, rfl⟩ := hreturns answer hanswer
            exact hbefore.dryRun input.now holdNow
        | false =>
            obtain ⟨calls, count, hdb, hreturns⟩ := loopReaches hnodup halone
            rw [hdb]
            refine ⟨hbefore.cut input.now calls count, fun answer hanswer => ?_⟩
            obtain ⟨hall, rfl⟩ := hreturns answer hanswer
            rw [← hdb, hall]
            exact hbefore.finalized input.now calls

theorem deletionRuns_of_serial {batchChunkSize : Nat} {first : DeletionDb}
    {printed : List DeletionJobSummary}
    (hserial : Serial (deletionJob env batchChunkSize) first printed db) :
    DeletionRuns env batchChunkSize first printed db := by
  induction hserial with
  | start => exact .start
  | returned dryRun inputs summary _ halone hbefore =>
      exact (hbefore.alone halone).2 summary rfl
  | cut dryRun inputs progress _ halone hbefore =>
      exact (hbefore.alone halone).1

end Alone

/-! ## Runs of processes -/

section Processes

variable {env : AuditEnv} {batchChunkSize : Nat}

abbrev DeletionPool : Type :=
  JobPool DeletionDb DeletionWork DeletionJobSummary

/-- What a run of processes comes to: there is one in the job at most, no lock
is left behind, and the database and the output are those of whole runs. -/
structure SerialDeletions (env : AuditEnv) (batchChunkSize : Nat)
    (first : DeletionDb) (last : DeletionPool) : Prop where
  exclusive : ∀ left right leftProcess rightProcess,
    last.thread left = some leftProcess →
    last.thread right = some rightProcess →
    leftProcess.isInside = true → rightProcess.isInside = true → left = right
  accountable : Accountable last
  runs : DeletionRuns env batchChunkSize first last.shared.printed
    last.shared.db

/-- Whatever interleaves and whoever dies, as long as the connection of the lock
stays open while its process is in the job. -/
theorem deletionProcesses_serial {lockKey : Int} {first : DeletionDb}
    {actions : List (JobAction DeletionInput)} {last : DeletionPool}
    (hkeeps : StepSystem.Along
      (step (jobProgram (deletionJob env batchChunkSize) lockKey))
      (Meets KeepsConnection) (Pool.start (.fresh first)) actions)
    (hrun : StepSystem.run
      (step (jobProgram (deletionJob env batchChunkSize) lockKey))
      (Pool.start (.fresh first)) actions = some last) :
    SerialDeletions env batchChunkSize first last := by
  have hserial := serialJobs_of_run hkeeps hrun
  exact ⟨hserial.exclusive, hserial.accountable,
    deletionRuns_of_serial hserial.serial⟩

end Processes

namespace DeletionProcessesWitness

open DeletionJobWitness

def reads (now : Instant) : JobInput DeletionInput :=
  .acts false ⟨false, now, "entry of " ++ toString now⟩

/-- The first process dies after its delete; the second one is turned away, the
third one finishes the work. -/
def actions : List (JobAction DeletionInput) :=
  [.spawn 0 ⟨true, false⟩, .spawn 1 ⟨true, true⟩, .advance 0 (reads now),
    .advance 0 (reads now), .advance 1 (reads now), .advance 0 (reads now),
    .advance 1 (reads now), .advance 0 (reads now), .advance 0 (reads now),
    .advance 0 (reads now), .advance 0 (reads now), .abort 0,
    .spawn 2 ⟨true, false⟩] ++
    (List.range 7).map fun count => .advance 2 (reads (now + count))

def program : JobProgram DeletionDb DeletionWork DeletionInput
    DeletionJobSummary :=
  jobProgram (deletionJob env 2) 91000102

def last : DeletionPool :=
  StepSystem.after (step program) (Pool.start (.fresh db)) actions

theorem deletionProcesses_serial_crash :
    SerialDeletions env 2 db last ∧
      last.shared.printed = [.finalized ⟨1, 0, 1, 0⟩] ∧
      last.shared.db.users.rows.map User.id = ["held"] :=
  ⟨deletionProcesses_serial (along_of_decide program (by decide +kernel))
      (StepSystem.run_after _ (by decide +kernel)),
    by decide +kernel, by decide +kernel⟩

end DeletionProcessesWitness

/-! ## What the loop counts -/

section Prediction

variable {env : AuditEnv} {calls : String → FinalizeCalls}
  {db first : DeletionDb} {userId : String} {userIds : List String}

theorem length_physicallyDeleteUser (hstored : db.hasUser userId = true) :
    (physicallyDeleteUser userId db).users.rows.length + 1 =
      db.users.rows.length := by
  have hone : (db.users.rows.filter fun user => user.id == userId).length =
      1 := by
    obtain ⟨user, huser, hid⟩ := List.any_eq_true.mp hstored
    have hmem : userId ∈ db.users.rows.map User.id :=
      List.mem_map.mpr ⟨user, huser, beq_iff_eq.mp hid⟩
    have hcount := List.count_eq_one_of_mem db.users.nodup hmem
    rwa [List.count_eq_countP, List.countP_map,
      List.countP_eq_length_filter] at hcount
  have hall := db.users.rows.length_eq_length_filter_add fun user =>
    user.id == userId
  rw [hone, Nat.add_comm] at hall
  exact hall.symm

/-- What the dry run has counted so far, and what the loop has. -/
structure Agrees (first db : DeletionDb) (count : DryRunSummary)
    (summary : FinalizeSummary) : Prop where
  deleted : summary.deleted = count.wouldDelete
  deferred : summary.deferredLegalHold = count.deferredLegalHold
  rows : db.users.rows.length + summary.deleted = first.users.rows.length

theorem Agrees.turn {count : DryRunSummary} {summary : FinalizeSummary}
    (herrorless : Errorless calls) (hstored : db.hasUser userId = true)
    (hholds : hasActiveLegalHold (calls userId).holdNow userId db =
      hasActiveLegalHold (calls userId).holdNow userId first)
    (hagrees : Agrees first db count summary) :
    let done := finalizeDeletion env (calls userId) userId db summary
    Agrees first done.1
      (countDueDeletion (fun id => (calls id).holdNow) first count userId)
      done.2 := by
  obtain ⟨hdeleted, hdeferred, hrows⟩ := hagrees
  obtain ⟨hholdFails, hdeleteFails⟩ := herrorless userId
  have hframe := (finalizeDeletion_frame env (calls userId) userId db
    summary).1
  unfold FinalizeCalls.deletes at hframe
  rw [hholds, hholdFails, hdeleteFails] at hframe
  dsimp only
  cases hheld : hasActiveLegalHold (calls userId).holdNow userId first with
  | true =>
      rw [hheld] at hholds hframe
      have hcounts : (finalizeDeletion env (calls userId) userId db
            summary).2.deleted = summary.deleted ∧
          (finalizeDeletion env (calls userId) userId db
            summary).2.deferredLegalHold = summary.deferredLegalHold + 1 := by
        simp only [finalizeDeletion, hholdFails, hholds, Bool.false_eq_true,
          ↓reduceIte]
        split
        · exact ⟨rfl, rfl⟩
        · exact ⟨rfl, rfl⟩
      rw [countDueDeletion, if_pos hheld]
      refine ⟨hcounts.1.trans hdeleted, ?_, ?_⟩
      · rw [hcounts.2, hdeferred]
      · rw [hframe, hcounts.1]
        exact hrows
  | false =>
      rw [hheld] at hholds hframe
      have hcounts : (finalizeDeletion env (calls userId) userId db
            summary).2.deleted = summary.deleted + 1 ∧
          (finalizeDeletion env (calls userId) userId db
            summary).2.deferredLegalHold = summary.deferredLegalHold := by
        simp only [finalizeDeletion, hholdFails, hdeleteFails, hholds,
          Bool.false_eq_true, ↓reduceIte]
        split
        · exact ⟨rfl, rfl⟩
        · exact ⟨rfl, rfl⟩
      have hshorter := length_physicallyDeleteUser hstored
      rw [countDueDeletion, if_neg (by rw [hheld]; exact Bool.false_ne_true)]
      refine ⟨?_, hcounts.2.trans hdeferred, ?_⟩
      · rw [hcounts.1, hdeleted]
      · rw [hframe, hcounts.1]
        simp only [Bool.not_false, Bool.and_self, ↓reduceIte]
        omega

/-- The turns of others leave a user's holds and row alone. -/
theorem Agrees.turns {count : DryRunSummary} {summary : FinalizeSummary}
    (herrorless : Errorless calls) (hnodup : userIds.Nodup)
    (hstored : ∀ userId ∈ userIds, db.hasUser userId = true)
    (hholds : ∀ userId ∈ userIds, ∀ now, hasActiveLegalHold now userId db =
      hasActiveLegalHold now userId first)
    (hagrees : Agrees first db count summary) :
    let done := finalizeTurns env calls userIds (db, summary)
    Agrees first done.1 (userIds.foldl
      (countDueDeletion (fun id => (calls id).holdNow) first) count)
      done.2 := by
  induction userIds generalizing db count summary with
  | nil => exact hagrees
  | cons userId userIds ih =>
      rw [List.nodup_cons] at hnodup
      rw [List.forall_mem_cons] at hstored hholds
      have hothers : ∀ id ∈ userIds, userId ≠ id := by
        rintro id hid rfl
        exact hnodup.1 hid
      have hstoredNext : ∀ id ∈ userIds, (finalizeDeletion env (calls userId)
          userId db summary).1.hasUser id = true := by
        intro id hid
        rw [hasUser_finalizeDeletion, hstored.2 id hid,
          beq_eq_false_iff_ne.mpr (hothers id hid)]
        rfl
      have hholdsNext : ∀ id ∈ userIds, ∀ now, hasActiveLegalHold now id
          (finalizeDeletion env (calls userId) userId db summary).1 =
            hasActiveLegalHold now id first := by
        intro id hid now
        have hframe := (finalizeDeletion_frame env (calls userId) userId db
          summary).2
        rw [← hholds.2 id hid now, hasActiveLegalHold, hframe]
        split
        case isTrue =>
          exact hasActiveLegalHold_physicallyDeleteUser now db (hothers id hid)
        case isFalse => rfl
      exact ih hnodup.2 hstoredNext hholdsNext
        (hagrees.turn herrorless hstored.1 (hholds.1 _))

end Prediction

/-! ## What the dry run tells -/

section Result

variable {env : AuditEnv} {batchChunkSize : Nat}

theorem processed_finalizeTurns (calls : String → FinalizeCalls)
    (userIds : List String) (done : DeletionDb × FinalizeSummary) :
    (finalizeTurns env calls userIds done).2.processed =
      done.2.processed + userIds.length := by
  induction userIds generalizing done with
  | nil => rfl
  | cons userId userIds ih =>
      have hone : (turnSummary env (calls userId) userId done.1).processed =
          1 := by
        unfold turnSummary finalizeDeletion
        split
        · rfl
        split
        · dsimp only
          split
          · rfl
          · rfl
        split
        · rfl
        · dsimp only
          split
          · rfl
          · rfl
      have hrest := ih (afterTurn env (calls userId) userId done.1,
        done.2.add (turnSummary env (calls userId) userId done.1))
      rw [finalizeTurns, List.foldl_cons, finalizeDeletion_eq, List.length_cons]
      refine hrest.trans ?_
      simp only [FinalizeSummary.add, hone]
      omega

/-- The pages of two queries have the same users, if the same users are due at
both and they all fit one page or come in one order. -/
theorem findDueDeletions_perm {dryNow now : Instant} {db other : DeletionDb}
    (hreordered : Reordered db other)
    (hdue : ∀ user ∈ db.users, isDue dryNow user = isDue now user)
    (hpage : (dueUsers dryNow db).length ≤ batchChunkSize ∨
      other.users = db.users) :
    (findDueDeletions dryNow batchChunkSize db).Perm
      (findDueDeletions now batchChunkSize other) := by
  have hsame : dueUsers dryNow db = dueUsers now db :=
    List.filter_congr hdue
  rcases hpage with hfit | horder
  · have hperm : (dueUsers dryNow db).Perm (dueUsers now other) := by
      rw [hsame]
      exact (hreordered.users.filter _).symm
    have hfit' := hfit
    rw [hperm.length_eq] at hfit'
    rw [findDueDeletions, findDueDeletions, List.take_of_length_le hfit,
      List.take_of_length_le hfit']
    exact hperm.map User.id
  · rw [findDueDeletions, findDueDeletions, hsame, dueUsers, dueUsers, horder]

/-- The dry run tells what the run on the same rows counts and how many users
go, each with its own readings of the clock and its own order of the rows: if
nobody becomes due and no hold begins or ends between the readings, the due
users fit one page or come in one order, and no lookup and no delete of the
run fails. -/
theorem dryRun_predicts {dryNow now : Instant} {holdNow : String → Instant}
    {calls : String → FinalizeCalls} {db other : DeletionDb}
    (hreordered : Reordered db other)
    (hdue : ∀ user ∈ db.users, isDue dryNow user = isDue now user)
    (hheld : ∀ userId ∈ findDueDeletions dryNow batchChunkSize db,
      hasActiveLegalHold (holdNow userId) userId db =
        hasActiveLegalHold (calls userId).holdNow userId db)
    (hpage : (dueUsers dryNow db).length ≤ batchChunkSize ∨
      other.users = db.users)
    (herrorless : Errorless calls) :
    let predicted := dryRunDueDeletions batchChunkSize dryNow holdNow db
    let done := finalizeDueDeletions env batchChunkSize now calls other
    done.2.processed = predicted.processed ∧
      done.2.deleted = predicted.wouldDelete ∧
      done.2.deferredLegalHold = predicted.deferredLegalHold ∧
      done.1.users.rows.length + predicted.wouldDelete =
        other.users.rows.length := by
  intro predicted done
  have hperm := findDueDeletions_perm hreordered hdue hpage
  have hlookups : ∀ userId ∈ findDueDeletions dryNow batchChunkSize db,
      hasActiveLegalHold (holdNow userId) userId db =
        hasActiveLegalHold (calls userId).holdNow userId other := by
    intro userId hmem
    rw [hheld userId hmem, hasActiveLegalHold, hasActiveLegalHold,
      hreordered.legalHolds]
  have hpredicted : predicted = (findDueDeletions now batchChunkSize
      other).foldl (countDueDeletion (fun id => (calls id).holdNow) other)
        ⟨(findDueDeletions now batchChunkSize other).length, 0, 0⟩ := by
    rw [← hperm.length_eq]
    exact foldl_countDueDeletion_congr hperm hlookups _
  have hstored : ∀ userId ∈ findDueDeletions now batchChunkSize other,
      other.hasUser userId = true := by
    intro userId hmem
    obtain ⟨user, huser, hid, -⟩ := mem_findDueDeletions hmem
    exact List.any_eq_true.mpr ⟨user, mem_rows.mpr huser, beq_iff_eq.mpr hid⟩
  have hstart : Agrees other other
      ⟨(findDueDeletions now batchChunkSize other).length, 0, 0⟩
      ⟨0, 0, 0, 0⟩ := ⟨rfl, rfl, rfl⟩
  have hagrees : Agrees other done.1 predicted done.2 := by
    rw [hpredicted]
    exact hstart.turns herrorless (nodup_findDueDeletions batchChunkSize)
      hstored fun _ _ _ => rfl
  refine ⟨?_, hagrees.deleted, hagrees.deferred, ?_⟩
  · rw [hpredicted, foldl_countDueDeletion_eq]
    exact (processed_finalizeTurns calls _ _).trans (Nat.zero_add _)
  · rw [← hagrees.deleted]
    exact hagrees.rows

end Result

namespace DryRunWitness

open DeletionJobWitness

/-- An hour before the run. -/
def dryNow : Instant := now + 1000

def runNow : Instant := now + 3601000

/-- The rows of the example in the other order. -/
def reversed : DeletionDb :=
  { db with users := ⟨[user "waiting", user "held"], by decide⟩ }

def lateCalls (userId : String) : FinalizeCalls :=
  { calls false userId with holdNow := runNow, logNow := runNow }

theorem reordered_reversed : Reordered db reversed :=
  ⟨List.Perm.swap _ _ _, rfl, rfl⟩

/-- An hour later and with the rows in another order. -/
theorem dryRun_predicts_held :
    dryRunDueDeletions 2 dryNow (fun _ => dryNow) db = ⟨2, 1, 1⟩ ∧
      (finalizeDueDeletions env 2 runNow lateCalls reversed).2.deleted = 1 := by
  have hlookups : ∀ userId ∈ findDueDeletions dryNow 2 db,
      hasActiveLegalHold dryNow userId db =
        hasActiveLegalHold (lateCalls userId).holdNow userId db := by
    decide +kernel
  have hdue : ∀ user ∈ db.users.rows,
      isDue dryNow user = isDue runNow user := by
    decide +kernel
  obtain ⟨-, hdeleted, -, -⟩ := @dryRun_predicts env 2 dryNow runNow
    (fun _ => dryNow) lateCalls db reversed reordered_reversed hdue hlookups
    (.inl (by decide)) fun _ => ⟨rfl, rfl⟩
  exact ⟨by decide +kernel, hdeleted.trans (by decide +kernel)⟩

end DryRunWitness

end IdProvider
