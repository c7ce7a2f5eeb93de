/-
The account deletion job, with what the foreign keys do when a user goes, and
what that leaves of the audit chain.
-/
import IdProvider.AuditCommitment
import IdProvider.DataRetention

namespace IdProvider

open JsonText KeyedTable

structure DeletionDb where
  users : Table User
  legalHolds : Table LegalHold
  auditLogs : Table AuditLog
  deriving DecidableEq

/-- The rows that `findDueDeletions` selects from. -/
def dueUsers (now : Instant) (db : DeletionDb) : List User :=
  db.users.select fun user =>
    user.status == .deleted &&
      user.deletionDueAt.any fun due => decide (due ≤ now)

def findDueDeletions (now : Instant) (limit : Nat) (db : DeletionDb) :
    List String :=
  ((dueUsers now db).take limit).map User.id

/-- `hasActiveLegalHold` when its `new Date()` reads `now`. -/
def hasActiveLegalHold (now : Instant) (userId : String) (db : DeletionDb) :
    Bool :=
  heldBy now db.legalHolds (some userId)

/-- `ON DELETE SET NULL` of the column `actor_user_id`. -/
def AuditLog.detach (gone : String → Bool) (row : AuditLog) : AuditLog :=
  if row.actorUserId.any gone then { row with actorUserId := none } else row

/-- The deleted row takes its legal holds along, and its audit log rows lose
their actor. -/
def physicallyDeleteUser (userId : String) (db : DeletionDb) : DeletionDb :=
  let deleted := db.users.select fun user => user.id == userId
  let gone := fun id => deleted.any fun user => user.id == id
  { users := db.users.delete fun user => user.id == userId
    legalHolds := db.legalHolds.delete fun hold => gone hold.userId
    auditLogs := db.auditLogs.update (fun row => row.actorUserId.any gone)
      (fun row => { row with actorUserId := none }) fun _ => rfl }

/-! ## The job -/

/-- What the calls about one user meet: whether each of them fails, and what
the clock and the id generator return. -/
structure FinalizeCalls where
  holdFails : Bool
  holdNow : Instant
  deleteFails : Bool
  logFails : Bool
  logNow : Instant
  logId : String

structure FinalizeSummary where
  processed : Nat
  deleted : Nat
  deferredLegalHold : Nat
  failed : Nat
  deriving DecidableEq

/-- `createAuditLog` about the user, `none` when it throws. -/
def createDeletionLog (env : AuditEnv) (calls : FinalizeCalls)
    (action userId : String) (payload : List (String × JsValue))
    (db : DeletionDb) : Option DeletionDb :=
  if calls.logFails then none
  else
    (createAuditLog env calls.logNow calls.logId
      { actorUserId := none
        action := action
        resourceType := "user"
        resourceId := some userId
        payload := payload } db.auditLogs).map fun auditLogs =>
      { db with auditLogs := auditLogs }

def FinalizeSummary.fail (summary : FinalizeSummary) : FinalizeSummary :=
  { summary with failed := summary.failed + 1 }

/-- One turn of the loop; what throws is counted, and the loop goes on. -/
def finalizeDeletion (env : AuditEnv) (calls : FinalizeCalls)
    (userId : String) (db : DeletionDb) (summary : FinalizeSummary) :
    DeletionDb × FinalizeSummary :=
  let summary := { summary with processed := summary.processed + 1 }
  if calls.holdFails then (db, summary.fail)
  else if hasActiveLegalHold calls.holdNow userId db then
    let summary :=
      { summary with deferredLegalHold := summary.deferredLegalHold + 1 }
    match createDeletionLog env calls "account.deletion.deferred_legal_hold"
      userId [("reason", .str "Active legal hold")] db with
    | some logged => (logged, summary)
    | none => (db, summary.fail)
  else if calls.deleteFails then (db, summary.fail)
  else
    let deleted := physicallyDeleteUser userId db
    let summary := { summary with deleted := summary.deleted + 1 }
    match createDeletionLog env calls "account.deletion.finalized" userId []
      deleted with
    | some logged => (logged, summary)
    | none => (deleted, summary.fail)

def finalizeDueDeletions (env : AuditEnv) (batchChunkSize : Nat)
    (now : Instant) (calls : String → FinalizeCalls) (db : DeletionDb) :
    DeletionDb × FinalizeSummary :=
  (findDueDeletions now batchChunkSize db).foldl
    (fun done userId =>
      finalizeDeletion env (calls userId) userId done.1 done.2)
    (db, ⟨0, 0, 0, 0⟩)

inductive Deletion where
  | physicallyDeleteUser (userId : String)
  | finalizeDueDeletions (now : Instant) (calls : String → FinalizeCalls)

def afterDeletion (env : AuditEnv) (batchChunkSize : Nat) (db : DeletionDb) :
    Deletion → DeletionDb
  | .physicallyDeleteUser userId => physicallyDeleteUser userId db
  | .finalizeDueDeletions now calls =>
      (finalizeDueDeletions env batchChunkSize now calls db).1

def runDeletions (env : AuditEnv) (batchChunkSize : Nat) (db : DeletionDb)
    (deletions : List Deletion) : DeletionDb :=
  deletions.foldl (afterDeletion env batchChunkSize) db

/-! ## What a deletion leaves of the chain -/

def DeletionDb.hasUser (db : DeletionDb) (userId : String) : Bool :=
  db.users.rows.any fun user => user.id == userId

/-- The users that are stored before but not after. -/
def deletedUser (before after : DeletionDb) (userId : String) : Bool :=
  before.hasUser userId && !after.hasUser userId

@[simp]
theorem deletedUser_self (db : DeletionDb) (userId : String) :
    deletedUser db db userId = false := by
  simp [deletedUser]

theorem AuditLog.detach_of_none {gone : String → Bool} {row : AuditLog}
    (hactor : row.actorUserId.any gone = false) : row.detach gone = row := by
  rw [AuditLog.detach, hactor]
  rfl

theorem map_detach_nobody (rows : List AuditLog) :
    rows.map (AuditLog.detach fun _ => false) = rows := by
  have hsame : ∀ row ∈ rows, row.detach (fun _ => false) = row := by
    intro row _
    apply AuditLog.detach_of_none
    simp
  exact (List.map_congr_left hsame).trans (List.map_id _)

theorem AuditLog.detach_detach (first second : String → Bool)
    (row : AuditLog) :
    (row.detach first).detach second =
      row.detach fun id => first id || second id := by
  unfold AuditLog.detach
  cases hactor : row.actorUserId with
  | none => simp [hactor]
  | some actor =>
      cases hfirst : first actor with
      | true => simp [hfirst]
      | false => simp [hfirst, hactor]

section Fields

variable (gone : String → Bool) (row : AuditLog)

@[simp]
theorem AuditLog.detach_rank : (row.detach gone).rank = row.rank := by
  unfold AuditLog.detach
  split <;> rfl

@[simp]
theorem AuditLog.detach_chained : (row.detach gone).chained = row.chained := by
  unfold AuditLog.detach
  split <;> rfl

@[simp]
theorem AuditLog.detach_prevHash :
    (row.detach gone).prevHash = row.prevHash := by
  unfold AuditLog.detach
  split <;> rfl

@[simp]
theorem AuditLog.detach_entryHash :
    (row.detach gone).entryHash = row.entryHash := by
  unfold AuditLog.detach
  split <;> rfl

end Fields

/-- Users only go, and of the chain only the actors that went. -/
structure Detaches (before after : DeletionDb) : Prop where
  hasUser : ∀ userId, after.hasUser userId = true →
    before.hasUser userId = true
  rows : chainRows after.auditLogs = (chainRows before.auditLogs).map
    (AuditLog.detach (deletedUser before after))

theorem Detaches.refl (db : DeletionDb) : Detaches db db := by
  refine ⟨fun _ huser => huser, ?_⟩
  have hnobody : deletedUser db db = fun _ => false := by
    funext userId
    exact deletedUser_self db userId
  rw [hnobody, map_detach_nobody]

theorem Detaches.trans {first second third : DeletionDb}
    (hfirst : Detaches first second) (hsecond : Detaches second third) :
    Detaches first third := by
  refine ⟨fun userId huser =>
    hfirst.hasUser userId (hsecond.hasUser userId huser), ?_⟩
  rw [hsecond.rows, hfirst.rows, List.map_map]
  apply List.map_congr_left
  intro row _
  rw [Function.comp_apply, AuditLog.detach_detach]
  congr 1
  funext userId
  have hthird := hsecond.hasUser userId
  have hmiddle := hfirst.hasUser userId
  unfold deletedUser
  revert hthird hmiddle
  cases first.hasUser userId <;> cases second.hasUser userId <;>
    cases third.hasUser userId <;> simp

theorem detaches_of_users {before after : DeletionDb}
    (husers : after.users = before.users)
    (hrows : chainRows after.auditLogs = chainRows before.auditLogs) :
    Detaches before after := by
  have hsame : after.hasUser = before.hasUser := by
    funext userId
    rw [DeletionDb.hasUser, husers, DeletionDb.hasUser]
  have hnobody : deletedUser before after = fun _ => false := by
    funext userId
    rw [deletedUser, hsame, Bool.and_not_self]
  refine ⟨fun userId huser => by rwa [hsame] at huser, ?_⟩
  rw [hnobody, map_detach_nobody, hrows]

theorem deletedUser_physicallyDeleteUser (userId : String) (db : DeletionDb)
    (id : String) :
    deletedUser db (physicallyDeleteUser userId db) id =
      (db.users.select fun user => user.id == userId).any fun user =>
        user.id == id := by
  rw [Bool.eq_iff_iff]
  simp only [deletedUser, DeletionDb.hasUser, physicallyDeleteUser,
    Table.delete, Table.select, Bool.and_eq_true, Bool.not_eq_true',
    List.any_eq_true, List.any_eq_false, List.mem_filter, beq_iff_eq]
  constructor
  · rintro ⟨⟨user, huser, hid⟩, hgone⟩
    refine ⟨user, ⟨huser, ?_⟩, hid⟩
    by_contra hother
    exact hgone user ⟨huser, by simpa using hother⟩ hid
  · rintro ⟨user, ⟨huser, huserId⟩, hid⟩
    refine ⟨⟨user, huser, hid⟩, ?_⟩
    rintro other ⟨_, hother⟩ hotherId
    rw [hotherId, ← hid, huserId] at hother
    simp at hother

theorem detaches_physicallyDeleteUser (userId : String) (db : DeletionDb) :
    Detaches db (physicallyDeleteUser userId db) := by
  constructor
  · intro id hid
    simp only [DeletionDb.hasUser, physicallyDeleteUser, Table.delete,
      List.any_eq_true, List.mem_filter] at hid ⊢
    obtain ⟨user, ⟨huser, -⟩, huserId⟩ := hid
    exact ⟨user, huser, huserId⟩
  · have hgone : deletedUser db (physicallyDeleteUser userId db) = fun id =>
        (db.users.select fun user => user.id == userId).any fun user =>
          user.id == id :=
      funext (deletedUser_physicallyDeleteUser userId db)
    have hrows : (physicallyDeleteUser userId db).auditLogs.rows =
        db.auditLogs.rows.map (AuditLog.detach fun id =>
          (db.users.select fun user => user.id == userId).any fun user =>
            user.id == id) := rfl
    rw [hgone, chainRows, chainRows,
      ← RowOrder.ascending_map _ _ (AuditLog.detach_rank _), Table.select,
      Table.select, hrows, List.filter_map]
    congr 3
    funext row
    exact AuditLog.detach_chained _ row

theorem detaches_createDeletionLog {env : AuditEnv} {calls : FinalizeCalls}
    {action userId : String} {payload : List (String × JsValue)}
    {db after : DeletionDb} (haction : shouldUseHashChain action = false)
    (hlog : createDeletionLog env calls action userId payload db =
      some after) : Detaches db after := by
  unfold createDeletionLog at hlog
  split at hlog
  case isTrue => cases hlog
  case isFalse =>
    rw [Option.map_eq_some_iff] at hlog
    obtain ⟨auditLogs, hcreate, rfl⟩ := hlog
    obtain ⟨row, hrows, hchained⟩ := @createAuditLog_unchained env
      db.auditLogs auditLogs ⟨calls.logNow, calls.logId, _⟩ hcreate haction
    exact detaches_of_users rfl (chainRows_of_unchained hrows hchained)

/-- A turn of the loop deletes the user at most; its log entries stay off the
chain. -/
theorem detaches_finalizeDeletion (env : AuditEnv) (calls : FinalizeCalls)
    (userId : String) (db : DeletionDb) (summary : FinalizeSummary) :
    Detaches db (finalizeDeletion env calls userId db summary).1 := by
  unfold finalizeDeletion
  split
  case isTrue => exact Detaches.refl db
  case isFalse =>
    split
    case isTrue =>
      split
      case h_1 logged hlog =>
        exact detaches_createDeletionLog (by decide) hlog
      case h_2 => exact Detaches.refl db
    case isFalse =>
      split
      case isTrue => exact Detaches.refl db
      case isFalse =>
        have hdeleted := detaches_physicallyDeleteUser userId db
        dsimp only
        split
        case h_1 logged hlog =>
          exact hdeleted.trans (detaches_createDeletionLog (by decide) hlog)
        case h_2 => exact hdeleted

theorem detaches_finalizeDueDeletions (env : AuditEnv) (batchChunkSize : Nat)
    (now : Instant) (calls : String → FinalizeCalls) (db : DeletionDb) :
    Detaches db
      (finalizeDueDeletions env batchChunkSize now calls db).1 := by
  have hfold : ∀ (userIds : List String) (done : DeletionDb × FinalizeSummary),
      Detaches done.1 (userIds.foldl (fun done userId =>
        finalizeDeletion env (calls userId) userId done.1 done.2) done).1 := by
    intro userIds
    induction userIds with
    | nil => exact fun done => Detaches.refl done.1
    | cons userId userIds ih =>
        intro done
        exact (detaches_finalizeDeletion env (calls userId) userId done.1
          done.2).trans (ih _)
  exact hfold (findDueDeletions now batchChunkSize db) (db, ⟨0, 0, 0, 0⟩)

theorem detaches_runDeletions (env : AuditEnv) (batchChunkSize : Nat)
    (db : DeletionDb) (deletions : List Deletion) :
    Detaches db (runDeletions env batchChunkSize db deletions) := by
  induction deletions generalizing db with
  | nil => exact Detaches.refl db
  | cons deletion deletions ih =>
      have hfirst : Detaches db
          (afterDeletion env batchChunkSize db deletion) := by
        cases deletion with
        | physicallyDeleteUser userId =>
            exact detaches_physicallyDeleteUser userId db
        | finalizeDueDeletions now calls =>
            exact detaches_finalizeDueDeletions env batchChunkSize now calls db
      exact hfirst.trans (ih _)

/-! ## Whom the job deletes -/

/-- The turn of the loop gets past the hold and the delete. -/
def FinalizeCalls.deletes (calls : FinalizeCalls) (userId : String)
    (db : DeletionDb) : Bool :=
  !calls.holdFails && !hasActiveLegalHold calls.holdNow userId db &&
    !calls.deleteFails

theorem createDeletionLog_frame {env : AuditEnv} {calls : FinalizeCalls}
    {action userId : String} {payload : List (String × JsValue)}
    {db after : DeletionDb}
    (hlog : createDeletionLog env calls action userId payload db =
      some after) :
    after.users = db.users ∧ after.legalHolds = db.legalHolds := by
  unfold createDeletionLog at hlog
  split at hlog
  case isTrue => cases hlog
  case isFalse =>
    rw [Option.map_eq_some_iff] at hlog
    obtain ⟨auditLogs, -, rfl⟩ := hlog
    exact ⟨rfl, rfl⟩

/-- Beside the log, a turn of the loop deletes its user or does nothing. -/
theorem finalizeDeletion_frame (env : AuditEnv) (calls : FinalizeCalls)
    (userId : String) (db : DeletionDb) (summary : FinalizeSummary) :
    let after := (finalizeDeletion env calls userId db summary).1
    let kept := if calls.deletes userId db then physicallyDeleteUser userId db
      else db
    after.users = kept.users ∧ after.legalHolds = kept.legalHolds := by
  unfold finalizeDeletion FinalizeCalls.deletes
  cases hfails : calls.holdFails with
  | true => exact ⟨rfl, rfl⟩
  | false =>
      cases hhold : hasActiveLegalHold calls.holdNow userId db with
      | true =>
          simp only [Bool.false_eq_true, ↓reduceIte, Bool.not_true,
            Bool.and_false, Bool.false_and]
          split
          case h_1 logged hlog => exact createDeletionLog_frame hlog
          case h_2 => exact ⟨rfl, rfl⟩
      | false =>
          cases hdelete : calls.deleteFails with
          | true => exact ⟨rfl, rfl⟩
          | false =>
              simp only [Bool.false_eq_true, ↓reduceIte, Bool.not_false,
                Bool.and_self]
              split
              case h_1 logged hlog => exact createDeletionLog_frame hlog
              case h_2 => exact ⟨rfl, rfl⟩

theorem hasUser_physicallyDeleteUser (userId : String) (db : DeletionDb)
    (id : String) :
    (physicallyDeleteUser userId db).hasUser id =
      (db.hasUser id && !(userId == id)) := by
  rw [Bool.eq_iff_iff]
  simp only [DeletionDb.hasUser, physicallyDeleteUser, Table.delete,
    List.any_eq_true, List.mem_filter, Bool.and_eq_true, Bool.not_eq_true',
    beq_iff_eq, beq_eq_false_iff_ne]
  constructor
  · rintro ⟨user, ⟨huser, hother⟩, rfl⟩
    exact ⟨⟨user, huser, rfl⟩, hother.symm⟩
  · rintro ⟨⟨user, huser, rfl⟩, hother⟩
    exact ⟨user, ⟨huser, hother.symm⟩, rfl⟩

theorem hasActiveLegalHold_physicallyDeleteUser {userId id : String}
    (now : Instant) (db : DeletionDb) (hother : userId ≠ id) :
    hasActiveLegalHold now id (physicallyDeleteUser userId db) =
      hasActiveLegalHold now id db := by
  rw [Bool.eq_iff_iff]
  simp only [hasActiveLegalHold, heldBy, holds, physicallyDeleteUser,
    Table.delete, Table.select, List.any_eq_true, List.mem_filter,
    Bool.and_eq_true, Bool.not_eq_true', List.any_eq_false, beq_iff_eq,
    Option.some.injEq]
  constructor
  · rintro ⟨hold, ⟨hhold, -⟩, hactive⟩
    exact ⟨hold, hhold, hactive⟩
  · rintro ⟨hold, hhold, howner, hactive⟩
    refine ⟨hold, ⟨hhold, ?_⟩, howner, hactive⟩
    rintro user ⟨-, huserId⟩ hsame
    exact hother (huserId.symm.trans (hsame.trans howner.symm))

/-- A turn of the loop takes away its own user, and no other. -/
theorem hasUser_finalizeDeletion (env : AuditEnv) (calls : FinalizeCalls)
    (userId : String) (db : DeletionDb) (summary : FinalizeSummary)
    (id : String) :
    (finalizeDeletion env calls userId db summary).1.hasUser id =
      (db.hasUser id && !(userId == id && calls.deletes userId db)) := by
  have husers := (finalizeDeletion_frame env calls userId db summary).1
  have hsame : (finalizeDeletion env calls userId db summary).1.hasUser id =
      (if calls.deletes userId db then physicallyDeleteUser userId db
        else db).hasUser id := by
    rw [DeletionDb.hasUser, husers, DeletionDb.hasUser]
  rw [hsame]
  split
  case isTrue hdeletes =>
    rw [hasUser_physicallyDeleteUser, hdeletes, Bool.and_true]
  case isFalse hdeletes =>
    rw [Bool.eq_false_iff.mpr hdeletes, Bool.and_false, Bool.not_false,
      Bool.and_true]

/-- What a later turn deletes does not depend on a turn for another user, or on
one that deletes nothing. -/
theorem deletes_finalizeDeletion (env : AuditEnv) {calls : FinalizeCalls}
    {userId id : String} {db : DeletionDb}
    (hother : userId = id → calls.deletes userId db = false)
    (summary : FinalizeSummary) (later : FinalizeCalls) :
    later.deletes id (finalizeDeletion env calls userId db summary).1 =
      later.deletes id db := by
  have hholds := (finalizeDeletion_frame env calls userId db summary).2
  rw [FinalizeCalls.deletes, FinalizeCalls.deletes, hasActiveLegalHold,
    hasActiveLegalHold, hholds]
  split
  case isTrue hdeletes =>
    have hne : userId ≠ id := by
      intro hid
      rw [hother hid] at hdeletes
      cases hdeletes
    have hkept := hasActiveLegalHold_physicallyDeleteUser later.holdNow db hne
    rw [hasActiveLegalHold, hasActiveLegalHold] at hkept
    rw [hkept]
  case isFalse => rfl

/-- The users the loop deletes are those its calls let through, seen from the
state it starts in. -/
theorem hasUser_finalizeDeletions (env : AuditEnv)
    (calls : String → FinalizeCalls) (userIds : List String)
    (done : DeletionDb × FinalizeSummary) (id : String) :
    (userIds.foldl (fun done userId =>
        finalizeDeletion env (calls userId) userId done.1 done.2) done).1.hasUser
      id = (done.1.hasUser id &&
        !(decide (id ∈ userIds) && (calls id).deletes id done.1)) := by
  induction userIds generalizing done with
  | nil => simp
  | cons userId userIds ih =>
      rw [List.foldl_cons, ih, hasUser_finalizeDeletion]
      by_cases hid : userId = id
      · subst hid
        cases hdeletes : (calls userId).deletes userId done.1 with
        | true => simp
        | false =>
            rw [deletes_finalizeDeletion env (fun _ => hdeletes), hdeletes]
            simp
      · have hmem : id ∈ userId :: userIds ↔ id ∈ userIds := by
          rw [List.mem_cons, or_iff_right (Ne.symm hid)]
        rw [deletes_finalizeDeletion env (fun hsame => absurd hsame hid),
          beq_eq_false_iff_ne.mpr hid, Bool.false_and, Bool.not_false,
          Bool.and_true, decide_eq_decide.mpr hmem]

theorem deletedUser_finalizeDueDeletions (env : AuditEnv)
    (batchChunkSize : Nat) (now : Instant) (calls : String → FinalizeCalls)
    (db : DeletionDb) (userId : String) :
    deletedUser db (finalizeDueDeletions env batchChunkSize now calls db).1
        userId = true ↔
      userId ∈ findDueDeletions now batchChunkSize db ∧
        (calls userId).deletes userId db = true := by
  have hdue : userId ∈ findDueDeletions now batchChunkSize db →
      db.hasUser userId = true := by
    intro hmem
    obtain ⟨user, huser, rfl⟩ := List.mem_map.mp hmem
    have hrow := (Table.mem_select.mp (List.mem_of_mem_take huser)).1
    rw [DeletionDb.hasUser, List.any_eq_true]
    exact ⟨user, mem_rows.mpr hrow, beq_self_eq_true user.id⟩
  rw [deletedUser, finalizeDueDeletions, hasUser_finalizeDeletions]
  cases hstored : db.hasUser userId with
  | false =>
      rw [hstored] at hdue
      have hnot : userId ∉ findDueDeletions now batchChunkSize db :=
        fun hmem => Bool.false_ne_true (hdue hmem)
      simp [hnot]
  | true => simp

/-! ## The verdict -/

/-- No chained row has an actor that goes. -/
def SparesActors (before after : DeletionDb) : Prop :=
  ∀ row ∈ chainRows before.auditLogs, ∀ actor,
    row.actorUserId = some actor → deletedUser before after actor = false

theorem sparesActors_iff {before after : DeletionDb} :
    SparesActors before after ↔ ∀ row ∈ chainRows before.auditLogs,
      row.actorUserId.any (deletedUser before after) = false := by
  constructor
  · intro hspares row hrow
    cases hactor : row.actorUserId with
    | none => rfl
    | some actor => exact hspares row hrow actor hactor
  · intro hspares row hrow actor hactor
    have hany := hspares row hrow
    rwa [hactor] at hany

theorem chainRows_of_spares {before after : DeletionDb}
    (hdetaches : Detaches before after) (hspares : SparesActors before after) :
    chainRows after.auditLogs = chainRows before.auditLogs := by
  rw [sparesActors_iff] at hspares
  have hsame : ∀ row ∈ chainRows before.auditLogs,
      row.detach (deletedUser before after) = row :=
    fun row hrow => AuditLog.detach_of_none (hspares row hrow)
  rw [hdetaches.rows]
  exact (List.map_congr_left hsame).trans (List.map_id _)

/-- A row keeps its digest exactly where it keeps its actor. -/
theorem digest_detach {env : AuditEnv} {gone : String → Bool} {row : AuditLog}
    (hcollision :
      env.sha256Hex (entryText env row) =
          env.sha256Hex (entryText env (row.detach gone)) →
        entryText env row = entryText env (row.detach gone)) :
    (chainFormat env).digest (row.detach gone) = (chainFormat env).digest row ↔
      row.actorUserId.any gone = false := by
  constructor
  · intro hdigest
    have hsame := sameReadEntry_of_entryText (hcollision hdigest.symm)
    have hactor := hsame.actorUserId
    rw [Bool.eq_false_iff]
    intro hany
    rw [AuditLog.detach, if_pos hany] at hactor
    rw [hactor] at hany
    cases hany
  · intro hnone
    rw [AuditLog.detach_of_none hnone]

/-- A chain that verified still does exactly when no deleted user is the actor
of one of its rows. -/
theorem linked_after_iff {env : AuditEnv} {before after : DeletionDb}
    (hdetaches : Detaches before after)
    (hcollision : CollisionFree env (chainRows before.auditLogs)
      (chainRows after.auditLogs))
    (hlinked : HashChain.Linked (chainFormat env) none
      (chainRows before.auditLogs)) :
    HashChain.Linked (chainFormat env) none (chainRows after.auditLogs) ↔
      SparesActors before after := by
  rw [hdetaches.rows] at hcollision ⊢
  rw [HashChain.linked_map _ (AuditLog.detach_prevHash _)
    (AuditLog.detach_entryHash _) hlinked, sparesActors_iff]
  have hdigest : ∀ row ∈ chainRows before.auditLogs,
      ((chainFormat env).digest
          (row.detach (deletedUser before after)) =
            (chainFormat env).digest row ↔
        row.actorUserId.any (deletedUser before after) = false) := by
    intro row hrow
    apply digest_detach
    exact hcollision row hrow _ (List.mem_map_of_mem hrow)
  exact forall₂_congr hdigest

/-- Deletions that spare the actors of the chain leave the verdict alone; of a
chain that verified, no others do. -/
theorem verdict_after_deletions (env : AuditEnv) (batchChunkSize : Nat)
    (db : DeletionDb) (deletions : List Deletion) (after : DeletionDb)
    (hafter : after = runDeletions env batchChunkSize db deletions)
    (hcollision : CollisionFree env (chainRows db.auditLogs)
      (chainRows after.auditLogs)) :
    (SparesActors db after →
      (verifyIntegrityRange env none none after.auditLogs).ok =
        (verifyIntegrityRange env none none db.auditLogs).ok) ∧
    ((verifyIntegrityRange env none none db.auditLogs).ok = true →
      ((verifyIntegrityRange env none none after.auditLogs).ok = true ↔
        SparesActors db after)) := by
  have hdetaches : Detaches db after := by
    rw [hafter]
    exact detaches_runDeletions env batchChunkSize db deletions
  constructor
  · intro hspares
    rw [Bool.eq_iff_iff, verifyIntegrityRange_ok, verifyIntegrityRange_ok,
      chainRows_of_spares hdetaches hspares]
  · intro hok
    rw [verifyIntegrityRange_ok] at hok ⊢
    exact linked_after_iff hdetaches hcollision hok

namespace DeletionWitness

def userId : String := "7a0c6c0e-9d0f-4c57-8f0e-2a1f0d8e4b11"

/-- The text of the one entry, with its actor or without. -/
def text (actor : String) : String :=
  "\x7b\"action\":\"admin.audit.export.create\",\"actorUserId\":" ++ actor ++
    ",\"createdAt\":\"2026-04-26T12:00:00.000Z\"," ++
    "\"id\":\"c1f4a6de-52b0-4c33-9d3f-6a7be0a1d501\"," ++
    "\"payload\":\x7b\x7d,\"prevHash\":null," ++
    "\"resourceId\":null,\"resourceType\":\"audit_export\"\x7d"

def attributed : String :=
  text "\"7a0c6c0e-9d0f-4c57-8f0e-2a1f0d8e4b11\""

def detached : String := text "null"

def hash : String :=
  "1d930cafbfa48a6e20432a4da61c170c494328c51bfd052226ff8c46ef4fd272"

/-- SHA-256 on the two texts. -/
def env : AuditEnv where
  collation := .codePoint
  numbers := CommitmentWitness.numbers
  sha256Hex source :=
    if source = attributed then hash
    else if source = detached then
      "ff584d61da33a2039dc5fe19ca723837d34247b4e3612190dca3b1618a556df5"
    else ""

def row (actorUserId : Option String) : AuditLog where
  id := "c1f4a6de-52b0-4c33-9d3f-6a7be0a1d501"
  actorUserId := actorUserId
  action := "admin.audit.export.create"
  resourceType := "audit_export"
  resourceId := none
  payload := .obj []
  prevHash := none
  entryHash := some hash
  integrityVersion := integrityVersionChained
  createdAt := ⟨1777204800000000⟩

/-- The actor of the entry is due. -/
def db : DeletionDb where
  users :=
    ⟨[{ id := userId
        status := .deleted
        deletedAt := some 1777204800000
        deletionRequestedAt := some 1777204800000
        deletionDueAt := some 1779796800000
        createdAt := 1775001600000 }], by simp⟩
  legalHolds := .empty
  auditLogs := ⟨[row (some userId)], by simp⟩

def calls (_ : String) : FinalizeCalls where
  holdFails := false
  holdNow := 1779796800000
  deleteFails := false
  logFails := false
  logNow := 1779796800000
  logId := "5d2f0f64-7b0e-4f0f-9a53-0c7be0f3a902"

/-- The job runs when the user is due. -/
def after : DeletionDb :=
  runDeletions env 500 db [.finalizeDueDeletions 1779796800000 calls]

theorem chainRows_db : chainRows db.auditLogs = [row (some userId)] := rfl

theorem chainRows_after : chainRows after.auditLogs = [row none] := by
  decide +kernel

theorem entryText_attributed :
    entryText env (row (some userId)) = attributed := by
  decide +kernel

theorem entryText_detached : entryText env (row none) = detached := by
  decide +kernel

theorem detached_ne_attributed : detached ≠ attributed := by
  intro heq
  have hsame : SameReadEntry env (row none) (row (some userId)) := by
    apply sameReadEntry_of_entryText
    rw [entryText_detached, entryText_attributed, heq]
  cases hsame.actorUserId

theorem sha256Hex_attributed : env.sha256Hex attributed = hash := by
  simp only [env, ↓reduceIte]

theorem sha256Hex_detached : env.sha256Hex detached ≠ hash := by
  simp only [env, if_neg detached_ne_attributed, ↓reduceIte]
  decide +kernel

theorem verifies :
    (verifyIntegrityRange env none none db.auditLogs).ok = true := by
  rw [verifyIntegrityRange_ok, chainRows_db]
  apply HashChain.Linked.cons
  · rfl
  · rw [digest_eq, entryText_attributed, sha256Hex_attributed]
    rfl
  · exact .nil _

theorem collisionFree :
    CollisionFree env (chainRows db.auditLogs) (chainRows after.auditLogs) := by
  rw [chainRows_db, chainRows_after]
  intro left hleft right hright hhash
  cases List.mem_singleton.mp hleft
  cases List.mem_singleton.mp hright
  rw [entryText_attributed, entryText_detached, sha256Hex_attributed] at hhash
  exact absurd hhash.symm sha256Hex_detached

theorem verdict_after_deletions_visit :
    (SparesActors db after →
      (verifyIntegrityRange env none none after.auditLogs).ok =
        (verifyIntegrityRange env none none db.auditLogs).ok) ∧
    ((verifyIntegrityRange env none none db.auditLogs).ok = true →
      ((verifyIntegrityRange env none none after.auditLogs).ok = true ↔
        SparesActors db after)) :=
  verdict_after_deletions env 500 db [.finalizeDueDeletions 1779796800000 calls]
    after rfl collisionFree

theorem not_verdict_kept :
    ¬ ∀ (env : AuditEnv) (batchChunkSize : Nat) (db : DeletionDb)
      (deletions : List Deletion),
      (verifyIntegrityRange env none none db.auditLogs).ok = true →
      (verifyIntegrityRange env none none
        (runDeletions env batchChunkSize db deletions).auditLogs).ok =
          true := by
  intro hkept
  have hok := hkept env 500 db [.finalizeDueDeletions 1779796800000 calls]
    verifies
  change (verifyIntegrityRange env none none after.auditLogs).ok = true at hok
  rw [verifyIntegrityRange_ok, chainRows_after] at hok
  cases hok with
  | cons _ hdigest _ =>
      rw [digest_eq, entryText_detached] at hdigest
      exact sha256Hex_detached (Option.some.inj hdigest).symm

end DeletionWitness

end IdProvider
