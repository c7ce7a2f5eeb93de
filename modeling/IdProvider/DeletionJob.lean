/-
What the account deletion job counts, and whom its runs reach.
-/
import IdProvider.AccountDeletion

namespace IdProvider

open JsonText KeyedTable

/-! ## The summary -/

namespace FinalizeSummary

def empty : FinalizeSummary := ⟨0, 0, 0, 0⟩

def add (first second : FinalizeSummary) : FinalizeSummary where
  processed := first.processed + second.processed
  deleted := first.deleted + second.deleted
  deferredLegalHold := first.deferredLegalHold + second.deferredLegalHold
  failed := first.failed + second.failed

/-- One user, in exactly one of the counters. -/
def CountsOne (summary : FinalizeSummary) : Prop :=
  summary.processed = 1 ∧
    summary.deleted + summary.deferredLegalHold + summary.failed = 1

theorem add_assoc (first second third : FinalizeSummary) :
    (first.add second).add third = first.add (second.add third) := by
  simp [add, Nat.add_assoc]

end FinalizeSummary

section Turns

variable (env : AuditEnv)

/-- What one turn of the loop adds to the summary. -/
def turnSummary (calls : FinalizeCalls) (userId : String) (db : DeletionDb) :
    FinalizeSummary :=
  (finalizeDeletion env calls userId db .empty).2

def afterTurn (calls : FinalizeCalls) (userId : String) (db : DeletionDb) :
    DeletionDb :=
  (finalizeDeletion env calls userId db .empty).1

/-- The turns of the loop: each user with the state that its turn starts in. -/
def turns (calls : String → FinalizeCalls) :
    List String → DeletionDb → List (String × DeletionDb)
  | [], _ => []
  | userId :: userIds, db =>
      (userId, db) :: turns calls userIds (afterTurn env (calls userId) userId db)

/-- If the turn comes to its audit entry, the entry is written. -/
def AuditWritten (calls : FinalizeCalls) (userId : String) (db : DeletionDb) :
    Prop :=
  calls.holdFails = false →
    if hasActiveLegalHold calls.holdNow userId db then
      ∃ logged, createDeletionLog env calls
        "account.deletion.deferred_legal_hold" userId
        [("reason", .str "Active legal hold")] db = some logged
    else
      calls.deleteFails = false →
        ∃ logged, createDeletionLog env calls "account.deletion.finalized"
          userId [] (physicallyDeleteUser userId db) = some logged

/-- The counters are bumped, never read. -/
theorem finalizeDeletion_eq (calls : FinalizeCalls) (userId : String)
    (db : DeletionDb) (summary : FinalizeSummary) :
    finalizeDeletion env calls userId db summary =
      (afterTurn env calls userId db,
        summary.add (turnSummary env calls userId db)) := by
  unfold afterTurn turnSummary finalizeDeletion
  split
  case isTrue => rfl
  case isFalse =>
    split
    case isTrue =>
      dsimp only
      split
      · rfl
      · rfl
    case isFalse =>
      split
      case isTrue => rfl
      case isFalse =>
        dsimp only
        split
        · rfl
        · rfl

/-- A turn counts its user once unless its audit entry fails: then the user is
counted as failed besides. -/
theorem countsOne_turnSummary_iff (calls : FinalizeCalls) (userId : String)
    (db : DeletionDb) :
    (turnSummary env calls userId db).CountsOne ↔
      AuditWritten env calls userId db := by
  unfold turnSummary finalizeDeletion AuditWritten
  cases hfails : calls.holdFails with
  | true => simp [FinalizeSummary.CountsOne, FinalizeSummary.fail,
      FinalizeSummary.empty]
  | false =>
      cases hhold : hasActiveLegalHold calls.holdNow userId db with
      | true =>
          cases hlog : createDeletionLog env calls
            "account.deletion.deferred_legal_hold" userId
            [("reason", .str "Active legal hold")] db with
          | some logged =>
              simp [FinalizeSummary.CountsOne, FinalizeSummary.empty]
          | none =>
              simp [FinalizeSummary.CountsOne, FinalizeSummary.fail,
                FinalizeSummary.empty]
      | false =>
          cases hdelete : calls.deleteFails with
          | true => simp [FinalizeSummary.CountsOne, FinalizeSummary.fail,
              FinalizeSummary.empty]
          | false =>
              cases hlog : createDeletionLog env calls
                "account.deletion.finalized" userId []
                (physicallyDeleteUser userId db) with
              | some logged =>
                  simp [hlog, FinalizeSummary.CountsOne, FinalizeSummary.empty]
              | none =>
                  simp [hlog, FinalizeSummary.CountsOne, FinalizeSummary.fail,
                    FinalizeSummary.empty]

/-- A turn counts a deletion exactly where it gets past the delete. -/
theorem deleted_turnSummary (calls : FinalizeCalls) (userId : String)
    (db : DeletionDb) :
    (turnSummary env calls userId db).deleted =
      if calls.deletes userId db then 1 else 0 := by
  unfold turnSummary finalizeDeletion FinalizeCalls.deletes
  cases hfails : calls.holdFails with
  | true => rfl
  | false =>
      cases hhold : hasActiveLegalHold calls.holdNow userId db with
      | true =>
          simp only [Bool.false_eq_true, ↓reduceIte, Bool.not_true,
            Bool.and_false, Bool.false_and]
          split
          · rfl
          · rfl
      | false =>
          cases hdelete : calls.deleteFails with
          | true => rfl
          | false =>
              simp only [Bool.false_eq_true, ↓reduceIte, Bool.not_false,
                Bool.and_self]
              split
              · rfl
              · rfl

/-- The summary is the sum of what the turns add. -/
theorem summary_eq (calls : String → FinalizeCalls) (userIds : List String)
    (done : DeletionDb × FinalizeSummary) :
    (userIds.foldl (fun done userId =>
        finalizeDeletion env (calls userId) userId done.1 done.2) done).2 =
      (turns env calls userIds done.1).foldl
        (fun summary turn =>
          summary.add (turnSummary env (calls turn.1) turn.1 turn.2)) done.2 := by
  induction userIds generalizing done with
  | nil => rfl
  | cons userId userIds ih =>
      rw [List.foldl_cons, ih, finalizeDeletion_eq, turns, List.foldl_cons]

/-- Turns that count one user each make up a sum in which every user is
counted once. -/
theorem total_of_countsOne {calls : String → FinalizeCalls}
    {counted : List (String × DeletionDb)}
    (hone : ∀ turn ∈ counted,
      (turnSummary env (calls turn.1) turn.1 turn.2).CountsOne)
    {summary : FinalizeSummary}
    (htotal : summary.processed =
      summary.deleted + summary.deferredLegalHold + summary.failed) :
    let sum := counted.foldl (fun summary turn =>
      summary.add (turnSummary env (calls turn.1) turn.1 turn.2)) summary
    sum.processed = sum.deleted + sum.deferredLegalHold + sum.failed := by
  induction counted generalizing summary with
  | nil => exact htotal
  | cons turn counted ih =>
      rw [List.forall_mem_cons] at hone
      obtain ⟨⟨hprocessed, hcounts⟩, hrest⟩ := hone
      refine ih hrest ?_
      simp only [FinalizeSummary.add]
      omega

/-- At the end of the loop the users are gone whose turns counted them as
deleted. -/
theorem gone_iff {calls : String → FinalizeCalls} {userIds : List String}
    (hnodup : userIds.Nodup) (db : DeletionDb) (summary : FinalizeSummary)
    (hstored : ∀ userId ∈ userIds, db.hasUser userId = true) :
    ∀ turn ∈ turns env calls userIds db,
      ((turnSummary env (calls turn.1) turn.1 turn.2).deleted = 1 ↔
        (userIds.foldl (fun done userId =>
          finalizeDeletion env (calls userId) userId done.1 done.2)
            (db, summary)).1.hasUser turn.1 = false) := by
  induction userIds generalizing db summary with
  | nil => exact fun _ hturn => absurd hturn List.not_mem_nil
  | cons userId userIds ih =>
      rw [List.nodup_cons] at hnodup
      rw [List.forall_mem_cons] at hstored
      obtain ⟨hfirst, hothers⟩ := hstored
      have hnext : ∀ id, (afterTurn env (calls userId) userId db).hasUser id =
          _ := hasUser_finalizeDeletion env (calls userId) userId db .empty
      rw [turns, List.forall_mem_cons, List.foldl_cons, finalizeDeletion_eq]
      constructor
      · -- the turns of others leave this user alone
        rw [hasUser_finalizeDeletions, deleted_turnSummary]
        dsimp only
        rw [hnext, hfirst, beq_self_eq_true]
        cases (calls userId).deletes userId db with
        | true => simp
        | false => simp [hnodup.1]
      · refine ih hnodup.2 _ _ fun other hother => ?_
        have hne : (userId == other) = false := by
          rw [beq_eq_false_iff_ne]
          rintro rfl
          exact hnodup.1 hother
        rw [hnext, hothers other hother, hne]
        rfl

end Turns

section Accounting

variable (env : AuditEnv) (batchChunkSize : Nat) (now : Instant)
  (calls : String → FinalizeCalls) (db : DeletionDb)

/-- The turns of a run of the job. -/
def jobTurns : List (String × DeletionDb) :=
  turns env calls (findDueDeletions now batchChunkSize db) db

/-- The totals add up, every user is in exactly one of them, and the users
counted as deleted are those whose row is gone when the job ends. -/
structure Accounted : Prop where
  total :
    let summary := (finalizeDueDeletions env batchChunkSize now calls db).2
    summary.processed =
      summary.deleted + summary.deferredLegalHold + summary.failed
  single : ∀ turn ∈ jobTurns env batchChunkSize now calls db,
    (turnSummary env (calls turn.1) turn.1 turn.2).CountsOne
  gone : ∀ turn ∈ jobTurns env batchChunkSize now calls db,
    (turnSummary env (calls turn.1) turn.1 turn.2).deleted = 1 ↔
      (finalizeDueDeletions env batchChunkSize now calls db).1.hasUser
        turn.1 = false

variable {now db}

theorem mem_findDueDeletions {batchChunkSize : Nat} {userId : String}
    (hdue : userId ∈ findDueDeletions now batchChunkSize db) :
    ∃ user ∈ db.users, user.id = userId ∧ user.status = .deleted ∧
      ∃ due, user.deletionDueAt = some due ∧ due ≤ now := by
  obtain ⟨user, huser, rfl⟩ := List.mem_map.mp hdue
  obtain ⟨hstored, hwhere⟩ := Table.mem_select.mp (List.mem_of_mem_take huser)
  rw [Bool.and_eq_true, beq_iff_eq, Option.any_eq_true] at hwhere
  obtain ⟨hstatus, due, hdue, hpast⟩ := hwhere
  exact ⟨user, hstored, rfl, hstatus, due, hdue, of_decide_eq_true hpast⟩

theorem nodup_findDueDeletions (batchChunkSize : Nat) :
    (findDueDeletions now batchChunkSize db).Nodup := by
  have hsublist : (findDueDeletions now batchChunkSize db).Sublist
      (db.users.rows.map User.id) :=
    ((List.take_sublist _ _).trans List.filter_sublist).map User.id
  exact hsublist.nodup db.users.nodup

variable (now db)

/-- The accounting is right exactly where every audit entry that the loop
comes to is written. -/
theorem accounted_iff :
    Accounted env batchChunkSize now calls db ↔
      ∀ turn ∈ jobTurns env batchChunkSize now calls db,
        AuditWritten env (calls turn.1) turn.1 turn.2 := by
  constructor
  · intro haccounted turn hturn
    rw [← countsOne_turnSummary_iff]
    exact haccounted.single turn hturn
  · intro hwritten
    have hone : ∀ turn ∈ jobTurns env batchChunkSize now calls db,
        (turnSummary env (calls turn.1) turn.1 turn.2).CountsOne :=
      fun turn hturn =>
        (countsOne_turnSummary_iff env _ _ _).mpr (hwritten turn hturn)
    constructor
    · rw [finalizeDueDeletions, summary_eq]
      exact total_of_countsOne env hone rfl
    · exact hone
    · refine gone_iff env (nodup_findDueDeletions _) db _ ?_
      intro userId hdue
      obtain ⟨user, huser, hid, -⟩ := mem_findDueDeletions hdue
      rw [DeletionDb.hasUser, List.any_eq_true]
      exact ⟨user, mem_rows.mpr huser, beq_iff_eq.mpr hid⟩

end Accounting

/-! ## Whom the runs reach -/

def isDue (now : Instant) (user : User) : Bool :=
  user.status == .deleted &&
    user.deletionDueAt.any fun due => decide (due ≤ now)

/-- The user has an active hold when its turn looks for one. -/
def isHeld (calls : String → FinalizeCalls) (db : DeletionDb) (user : User) :
    Bool :=
  hasActiveLegalHold (calls user.id).holdNow user.id db

/-- The users that are due and held. -/
def heldDue (now : Instant) (calls : String → FinalizeCalls)
    (db : DeletionDb) : List User :=
  db.users.select fun user => isDue now user && isHeld calls db user

/-- The lookups and the deletes of a run all answer. -/
def Errorless (calls : String → FinalizeCalls) : Prop :=
  ∀ userId, (calls userId).holdFails = false ∧
    (calls userId).deleteFails = false

/-- The query for due users has no order: the rows may come in any. -/
structure Reordered (db other : DeletionDb) : Prop where
  users : other.users.rows.Perm db.users.rows
  legalHolds : other.legalHolds = db.legalHolds
  auditLogs : other.auditLogs = db.auditLogs

/-- A page longer than the list of blocked items has another item. -/
theorem exists_free_mem_take {Item : Type} {items : List Item}
    {blocked : Item → Bool} {size : Nat}
    (hroom : (items.filter blocked).length < size)
    {item : Item} (hitem : item ∈ items) (hfree : blocked item = false) :
    ∃ other ∈ items.take size, blocked other = false := by
  by_contra hnone
  push Not at hnone
  have hpage : ∀ other ∈ items.take size, blocked other = true := by
    intro other hother
    rw [← Bool.not_eq_false]
    exact hnone other hother
  have hsublist := (List.take_sublist size items).filter blocked
  rw [List.filter_eq_self.mpr hpage] at hsublist
  have hlength := hsublist.length_le
  rw [List.length_take] at hlength
  have hall : items.take size = items :=
    List.take_of_length_le (by omega)
  rw [hall] at hpage
  exact absurd (hpage item hitem) (by rw [hfree]; exact Bool.false_ne_true)

section Runs

variable (env : AuditEnv) (batchChunkSize : Nat) (now : Instant)
  (calls : String → FinalizeCalls)

/-- Only users go that are marked as deleted and due. -/
def Safe (db : DeletionDb) : Prop :=
  ∀ userId, deletedUser db
      (finalizeDueDeletions env batchChunkSize now calls db).1 userId = true →
    ∃ user ∈ db.users, user.id = userId ∧ user.status = .deleted ∧
      ∃ due, user.deletionDueAt = some due ∧ due ≤ now

/-- While a user is due and not held, a run deletes one that is. -/
def Progresses (db : DeletionDb) : Prop :=
  (∃ user ∈ db.users, isDue now user = true ∧ isHeld calls db user = false) →
    ∃ user ∈ db.users, isDue now user = true ∧ isHeld calls db user = false ∧
      deletedUser db (finalizeDueDeletions env batchChunkSize now calls db).1
        user.id = true

/-- The held users do not fill a page, if another one is due. -/
def HeldFit (db : DeletionDb) : Prop :=
  (∃ user ∈ db.users, isDue now user = true ∧ isHeld calls db user = false) →
    (heldDue now calls db).length < batchChunkSize

variable {now calls}

theorem safe_finalizeDueDeletions (db : DeletionDb) :
    Safe env batchChunkSize now calls db := by
  intro userId hdeleted
  rw [deletedUser_finalizeDueDeletions] at hdeleted
  exact mem_findDueDeletions hdeleted.1

theorem Errorless.deletes (herrorless : Errorless calls) (db : DeletionDb)
    (user : User) :
    (calls user.id).deletes user.id db = !isHeld calls db user := by
  obtain ⟨hhold, hdelete⟩ := herrorless user.id
  rw [FinalizeCalls.deletes, hhold, hdelete, isHeld]
  simp

/-- The users that a run without errors deletes: those of the page that are
not held. -/
theorem deletedUser_errorless (herrorless : Errorless calls) (db : DeletionDb)
    {user : User} (huser : user ∈ db.users) :
    deletedUser db (finalizeDueDeletions env batchChunkSize now calls db).1
        user.id = true ↔
      user ∈ (db.users.select (isDue now)).take batchChunkSize ∧
        isHeld calls db user = false := by
  rw [deletedUser_finalizeDueDeletions, herrorless.deletes,
    Bool.not_eq_true']
  apply and_congr_left
  rintro -
  constructor
  · intro hmem
    obtain ⟨other, hother, hid⟩ := List.mem_map.mp hmem
    have hstored := (Table.mem_select.mp (List.mem_of_mem_take hother)).1
    rwa [← db.users.eq_of_key_eq hstored huser hid]
  · intro hmem
    exact List.mem_map_of_mem hmem

/-- With fewer held users than a page has room for, the page has another
one. -/
theorem progresses_of_fit (herrorless : Errorless calls) {db : DeletionDb}
    (hfit : HeldFit batchChunkSize now calls db) :
    Progresses env batchChunkSize now calls db := by
  rintro ⟨user, huser, hdue, hheld⟩
  have hroom := hfit ⟨user, huser, hdue, hheld⟩
  have hheldDue : (db.users.select (isDue now)).filter (isHeld calls db) =
      heldDue now calls db := by
    rw [Table.select, List.filter_filter]
    exact List.filter_congr fun other _ => Bool.and_comm _ _
  rw [← hheldDue] at hroom
  obtain ⟨other, hpage, hfree⟩ := exists_free_mem_take hroom
    (Table.mem_select.mpr ⟨huser, hdue⟩) hheld
  obtain ⟨hstored, hotherDue⟩ :=
    Table.mem_select.mp (List.mem_of_mem_take hpage)
  refine ⟨other, hstored, hotherDue, hfree, ?_⟩
  rw [deletedUser_errorless env batchChunkSize herrorless db hstored]
  exact ⟨hpage, hfree⟩

/-- The rows in the order in which the held users come first. -/
def heldFirst (now : Instant) (calls : String → FinalizeCalls)
    (db : DeletionDb) : DeletionDb where
  users :=
    ⟨heldDue now calls db ++
        db.users.select fun user => !(isDue now user && isHeld calls db user),
      ((List.filter_append_perm _ _).map _).nodup_iff.mpr db.users.nodup⟩
  legalHolds := db.legalHolds
  auditLogs := db.auditLogs

variable (now calls) in
theorem reordered_heldFirst (db : DeletionDb) :
    Reordered db (heldFirst now calls db) :=
  ⟨List.filter_append_perm _ _, rfl, rfl⟩

theorem Reordered.refl (db : DeletionDb) : Reordered db db :=
  ⟨List.Perm.refl _, rfl, rfl⟩

theorem Reordered.mem_users {db other : DeletionDb}
    (hreordered : Reordered db other) {user : User} :
    user ∈ other.users ↔ user ∈ db.users := by
  rw [← mem_rows, ← mem_rows]
  exact hreordered.users.mem_iff

theorem Reordered.isHeld {db other : DeletionDb}
    (hreordered : Reordered db other) (user : User) :
    IdProvider.isHeld calls other user = IdProvider.isHeld calls db user := by
  unfold IdProvider.isHeld hasActiveLegalHold
  rw [hreordered.legalHolds]

theorem Reordered.heldFit {db other : DeletionDb}
    (hreordered : Reordered db other)
    (hfit : HeldFit batchChunkSize now calls db) :
    HeldFit batchChunkSize now calls other := by
  rintro ⟨user, huser, hdue, hheld⟩
  have hroom := hfit
    ⟨user, hreordered.mem_users.mp huser, hdue, hreordered.isHeld user ▸ hheld⟩
  have hlength := (hreordered.users.filter fun user =>
    isDue now user && IdProvider.isHeld calls db user).length_eq
  have hsame : (fun user => isDue now user &&
      IdProvider.isHeld calls other user) = fun user =>
        isDue now user && IdProvider.isHeld calls db user := by
    funext user
    rw [hreordered.isHeld]
  rw [heldDue, Table.select, hsame, hlength]
  exact hroom

/-- Runs make progress whatever the order of the rows exactly where the held
users do not fill a page. -/
theorem progresses_iff (herrorless : Errorless calls) (db : DeletionDb) :
    (∀ other, Reordered db other →
        Progresses env batchChunkSize now calls other) ↔
      HeldFit batchChunkSize now calls db := by
  constructor
  · rintro hprogresses ⟨user, huser, hdue, hheld⟩
    have hreordered := reordered_heldFirst now calls db
    by_contra hfull
    obtain ⟨other, hother, hotherDue, hfree, hdeleted⟩ :=
      hprogresses _ hreordered ⟨user, hreordered.mem_users.mpr huser, hdue,
        (hreordered.isHeld user).trans hheld⟩
    rw [deletedUser_errorless env batchChunkSize herrorless _ hother] at hdeleted
    -- the page is full of held users
    have hpage : other ∈ (heldDue now calls db).take batchChunkSize := by
      have hmem := hdeleted.1
      have hheldDue : ∀ user ∈ heldDue now calls db,
          isDue now user = true := fun user hmem =>
        (Bool.and_eq_true_iff.mp (Table.mem_select.mp hmem).2).1
      rw [Table.select, heldFirst, List.filter_append,
        List.filter_eq_self.mpr hheldDue,
        List.take_append_of_le_length (Nat.not_lt.mp hfull)] at hmem
      exact hmem
    have hblocked := (Table.mem_select.mp (List.mem_of_mem_take hpage)).2
    rw [Bool.and_eq_true, ← hreordered.isHeld, hfree] at hblocked
    cases hblocked.2
  · intro hfit other hreordered
    exact progresses_of_fit env batchChunkSize herrorless
      (hreordered.heldFit batchChunkSize hfit)

/-! ### Repeated runs -/

/-- Runs without errors, the rows in any order each time.  While it is there,
the user is due and not held, and held users do not fill a page. -/
inductive RepeatedRuns (userId : String) (first : DeletionDb) :
    Nat → DeletionDb → Prop
  | start : RepeatedRuns userId first 0 first
  | run {runs : Nat} {db other : DeletionDb} {now : Instant}
      {calls : String → FinalizeCalls} :
      RepeatedRuns userId first runs db → Reordered db other →
      Errorless calls → HeldFit batchChunkSize now calls db →
      (∀ user ∈ db.users, user.id = userId →
        isDue now user = true ∧ isHeld calls db user = false) →
      RepeatedRuns userId first (runs + 1)
        (finalizeDueDeletions env batchChunkSize now calls other).1

theorem users_sublist (now : Instant) (calls : String → FinalizeCalls)
    (db : DeletionDb) :
    (finalizeDueDeletions env batchChunkSize now calls
      db).1.users.rows.Sublist db.users.rows := by
  have hfold : ∀ (userIds : List String) (done : DeletionDb × FinalizeSummary),
      (userIds.foldl (fun done userId =>
        finalizeDeletion env (calls userId) userId done.1 done.2)
          done).1.users.rows.Sublist done.1.users.rows := by
    intro userIds
    induction userIds with
    | nil => exact fun done => List.Sublist.refl _
    | cons userId userIds ih =>
        intro done
        refine (ih _).trans ?_
        obtain ⟨husers, -⟩ := finalizeDeletion_frame env (calls userId) userId
          done.1 done.2
        rw [husers]
        split
        case isTrue => exact List.filter_sublist
        case isFalse => exact List.Sublist.refl _
  exact hfold _ (db, ⟨0, 0, 0, 0⟩)

theorem length_lt_of_deleted {now : Instant} {calls : String → FinalizeCalls}
    {db : DeletionDb} {userId : String}
    (hdeleted : deletedUser db
      (finalizeDueDeletions env batchChunkSize now calls db).1 userId = true) :
    (finalizeDueDeletions env batchChunkSize now calls
      db).1.users.rows.length < db.users.rows.length := by
  have hsublist := users_sublist env batchChunkSize now calls db
  by_contra hlength
  have hsame := hsublist.eq_of_length_le (Nat.not_lt.mp hlength)
  rw [deletedUser, DeletionDb.hasUser, DeletionDb.hasUser, hsame,
    Bool.and_not_self] at hdeleted
  cases hdeleted

theorem Reordered.hasUser {db other : DeletionDb}
    (hreordered : Reordered db other) (userId : String) :
    other.hasUser userId = db.hasUser userId := by
  unfold DeletionDb.hasUser
  rw [Bool.eq_iff_iff, List.any_eq_true, List.any_eq_true]
  simp only [hreordered.users.mem_iff]

/-- Each run that leaves the user deletes another one. -/
theorem RepeatedRuns.length_le {userId : String} {first after : DeletionDb}
    {runs : Nat}
    (hruns : RepeatedRuns env batchChunkSize userId first runs after)
    (huser : after.hasUser userId = true) :
    after.users.rows.length + runs ≤ first.users.rows.length := by
  induction hruns with
  | start => exact Nat.le_refl _
  | @run runs db other now calls _ hreordered herrorless hfit hwaits ih =>
      have hother := (detaches_finalizeDueDeletions env batchChunkSize now calls
        other).hasUser userId huser
      have hbefore := hother
      rw [hreordered.hasUser, DeletionDb.hasUser, List.any_eq_true] at hbefore
      obtain ⟨user, hmem, hid⟩ := hbefore
      obtain ⟨hdue, hheld⟩ := hwaits user hmem (beq_iff_eq.mp hid)
      obtain ⟨gone, -, -, -, hdeleted⟩ :=
        progresses_of_fit env batchChunkSize herrorless
          (hreordered.heldFit batchChunkSize hfit)
          ⟨user, hreordered.mem_users.mpr hmem, hdue,
            (hreordered.isHeld user).trans hheld⟩
      have hless := length_lt_of_deleted env batchChunkSize hdeleted
      have hsame := hreordered.users.length_eq
      have hrest := ih (hreordered.hasUser userId ▸ hother)
      omega

/-- The job deletes only who is marked and due; it makes progress exactly where
held users do not fill a page, and then repeated runs reach everybody who
waits. -/
theorem deletionJob_reaches (now : Instant) (calls : String → FinalizeCalls)
    (db : DeletionDb) :
    Safe env batchChunkSize now calls db ∧
    (Errorless calls →
      ((∀ other, Reordered db other →
          Progresses env batchChunkSize now calls other) ↔
        HeldFit batchChunkSize now calls db)) ∧
    ∀ userId runs after,
      RepeatedRuns env batchChunkSize userId db runs after →
        db.users.rows.length ≤ runs → after.hasUser userId = false := by
  refine ⟨safe_finalizeDueDeletions env batchChunkSize db,
    fun herrorless => progresses_iff env batchChunkSize herrorless db, ?_⟩
  intro userId runs after hruns hmany
  rw [← Bool.not_eq_true]
  intro huser
  have hlength := hruns.length_le env batchChunkSize huser
  have hpos : 0 < after.users.rows.length := by
    rw [DeletionDb.hasUser, List.any_eq_true] at huser
    obtain ⟨user, hmem, -⟩ := huser
    exact List.length_pos_of_mem hmem
  omega

end Runs

namespace DeletionJobWitness

def env : AuditEnv := DeletionWitness.env

def now : Instant := 1779796800000

def user (id : String) : User where
  id := id
  status := .deleted
  deletedAt := some 1777204800000
  deletionRequestedAt := some 1777204800000
  deletionDueAt := some now
  createdAt := 1775001600000

/-- Two users are due, the first one is held. -/
def db : DeletionDb where
  users := ⟨[user "held", user "waiting"], by decide⟩
  legalHolds := ⟨[⟨"hold-1", "held", "litigation", none, now⟩], by simp⟩
  auditLogs := .empty

def calls (logFails : Bool) (userId : String) : FinalizeCalls where
  holdFails := false
  holdNow := now
  deleteFails := false
  logFails := logFails
  logNow := now
  logId := "entry of " ++ userId

/-- Both users are counted as failed besides when the entries fail. -/
theorem not_accounted :
    ¬ ∀ env batchChunkSize now calls db,
      Accounted env batchChunkSize now calls db := by
  intro hclaim
  have htotal := (hclaim env 2 now (calls true) db).total
  have hsummary : (finalizeDueDeletions env 2 now (calls true) db).2 =
      ⟨2, 1, 1, 2⟩ := by decide +kernel
  rw [hsummary] at htotal
  cases htotal

theorem errorless (logFails : Bool) : Errorless (calls logFails) :=
  fun _ => ⟨rfl, rfl⟩

def afterRun (db : DeletionDb) : DeletionDb :=
  (finalizeDueDeletions env 2 now (calls false) db).1

theorem waits : ∀ user ∈ db.users, user.id = "waiting" →
    isDue now user = true ∧ isHeld (calls false) db user = false := by
  rintro user (_ | ⟨_, _ | ⟨_, ⟨⟩⟩⟩) hid
  · exact absurd hid (by decide)
  · exact ⟨rfl, rfl⟩

theorem repeatedRuns :
    RepeatedRuns env 2 "waiting" db 2 (afterRun (afterRun db)) := by
  have hfirst : RepeatedRuns env 2 "waiting" db 1 (afterRun db) := by
    refine .run .start (.refl db) (errorless false) ?_ waits
    exact fun _ => by decide +kernel
  refine .run hfirst (.refl _) (errorless false) ?_ ?_
  · exact fun _ => by decide +kernel
  · have hgone : (afterRun db).users.rows.map User.id = ["held"] := by
      decide +kernel
    intro user huser hid
    have hmem := List.mem_map_of_mem (f := User.id) (mem_rows.mpr huser)
    rw [hgone, List.mem_singleton, hid] at hmem
    exact absurd hmem (by decide)

theorem deletionJob_reaches_waiting :
    (∀ other, Reordered db other →
        Progresses env 2 now (calls false) other) ∧
      (afterRun (afterRun db)).hasUser "waiting" = false := by
  obtain ⟨-, hprogress, hreaches⟩ :=
    deletionJob_reaches env 2 now (calls false) db
  constructor
  · exact (hprogress (errorless false)).mpr fun _ => by decide +kernel
  · exact hreaches "waiting" 2 _ repeatedRuns (by decide)

/-- A page of one user, taken by the one that is held. -/
theorem not_progresses :
    ¬ ∀ env batchChunkSize now calls db, 1 ≤ batchChunkSize →
      Errorless calls → Progresses env batchChunkSize now calls db := by
  intro hclaim
  obtain ⟨other, hother, -, -, hdeleted⟩ :=
    hclaim env 1 now (calls false) db (by decide) (errorless false)
      ⟨user "waiting", List.mem_cons_of_mem _ List.mem_cons_self, rfl, rfl⟩
  have hkept : ∀ user ∈ db.users.rows, deletedUser db
      (finalizeDueDeletions env 1 now (calls false) db).1 user.id = false := by
    decide +kernel
  rw [hkept other (mem_rows.mpr hother)] at hdeleted
  cases hdeleted

end DeletionJobWitness

end IdProvider
