/-
Legal holds beside the retention and deletion jobs: which rows a statement
changes although somebody they are about is on hold by then.
-/
import IdProvider.AccountDeletion
import IdProvider.DataRetentionCounts
import IdProvider.Interleaving

namespace IdProvider

open ChunkDrain Interleaving JsonText KeyedTable

/-! ## The database -/

/-- A row of one of the other tables with a cascading reference to `users`. -/
structure DependentRow where
  table : String
  id : String
  userId : String
  deriving DecidableEq

instance : Keyed DependentRow (String × String) :=
  ⟨fun row => (row.table, row.id)⟩

structure HoldStore where
  clock : Instant
  users : Table User
  dependents : Table DependentRow
  tables : RetentionDb

/-- What the deletion job reads and writes by itself. -/
def HoldStore.deletionDb (store : HoldStore) : DeletionDb where
  users := store.users
  legalHolds := store.tables.legalHolds
  auditLogs := store.tables.auditLogs

/-- The user with the id, if there is one. -/
def goneUser (users : Table User) (userId id : String) : Bool :=
  (users.select fun user => user.id == userId).any fun user => user.id == id

/-- `DELETE FROM users`, with all that the foreign keys do. -/
def HoldStore.deleteUser (store : HoldStore) (userId : String) : HoldStore :=
  { store with
    users := (physicallyDeleteUser userId store.deletionDb).users
    dependents := store.dependents.delete fun row =>
      goneUser store.users userId row.userId
    tables :=
      { userSessions := store.tables.userSessions.delete fun row =>
          goneUser store.users userId row.userId
        securityEvents := store.tables.securityEvents.update
          (fun row => row.userId.any (goneUser store.users userId))
          (fun row => { row with userId := none }) fun _ => rfl
        auditLogs := (physicallyDeleteUser userId store.deletionDb).auditLogs
        legalHolds :=
          (physicallyDeleteUser userId store.deletionDb).legalHolds } }

/-! ## The phases of the retention job -/

namespace RetentionPhase

def next : RetentionPhase → Option RetentionPhase
  | .sessionsAnonymized => some .securityEventsAnonymized
  | .securityEventsAnonymized => some .auditLogsAnonymized
  | .auditLogsAnonymized => some .sessionsDeleted
  | .sessionsDeleted => some .securityEventsDeleted
  | .securityEventsDeleted => some .auditLogsDeleted
  | .auditLogsDeleted => none

variable (env : RetentionEnv) (now : Instant)

def matchingIds (db : RetentionDb) : RetentionPhase → List String
  | .sessionsAnonymized =>
      (IdProvider.sessionsAnonymized env now).matchingIds now db
  | .securityEventsAnonymized =>
      (IdProvider.securityEventsAnonymized env now).matchingIds now db
  | .auditLogsAnonymized =>
      (IdProvider.auditLogsAnonymized env now).matchingIds now db
  | .sessionsDeleted =>
      (IdProvider.sessionsDeleted env now).matchingIds now db
  | .securityEventsDeleted =>
      (IdProvider.securityEventsDeleted env now).matchingIds now db
  | .auditLogsDeleted =>
      (IdProvider.auditLogsDeleted env now).matchingIds now db

def processIds (db : RetentionDb) (ids : List String) :
    RetentionPhase → RetentionDb
  | .sessionsAnonymized =>
      (IdProvider.sessionsAnonymized env now).processIds db ids
  | .securityEventsAnonymized =>
      (IdProvider.securityEventsAnonymized env now).processIds db ids
  | .auditLogsAnonymized =>
      (IdProvider.auditLogsAnonymized env now).processIds db ids
  | .sessionsDeleted =>
      (IdProvider.sessionsDeleted env now).processIds db ids
  | .securityEventsDeleted =>
      (IdProvider.securityEventsDeleted env now).processIds db ids
  | .auditLogsDeleted =>
      (IdProvider.auditLogsDeleted env now).processIds db ids

/-- The counter of the phase goes up. -/
def count (counts : RetentionCounts) (rows : Nat) :
    RetentionPhase → RetentionCounts
  | .sessionsAnonymized =>
      { counts with
        sessions.anonymized := counts.sessions.anonymized + rows }
  | .securityEventsAnonymized =>
      { counts with
        securityEvents.anonymized := counts.securityEvents.anonymized + rows }
  | .auditLogsAnonymized =>
      { counts with
        auditLogs.anonymized := counts.auditLogs.anonymized + rows }
  | .sessionsDeleted =>
      { counts with sessions.deleted := counts.sessions.deleted + rows }
  | .securityEventsDeleted =>
      { counts with
        securityEvents.deleted := counts.securityEvents.deleted + rows }
  | .auditLogsDeleted =>
      { counts with auditLogs.deleted := counts.auditLogs.deleted + rows }

end RetentionPhase

/-! ## The jobs, statement by statement -/

inductive HoldCall where
  | runDataRetentionJob (dryRun : Bool) (now : Option Instant)
  | finalizeDueDeletions (now : Option Instant)

/-- The variables of a retention job. -/
structure RetentionJob where
  dryRun : Bool
  now : Instant
  counts : RetentionCounts

/-- What a statement that looks for active holds has read.  No later statement
looks at it again. -/
structure HoldCheck where
  now : Instant
  legalHolds : Table LegalHold

inductive HoldThread where
  | starting (call : HoldCall)
  | selecting (job : RetentionJob) (phase : RetentionPhase)
  | applying (job : RetentionJob) (phase : RetentionPhase)
      (ids : List String) (check : HoldCheck)
  | reporting (job : RetentionJob)
  | listing (now : Instant)
  | checking (userId : String) (rest : List String)
  | deleting (userId : String) (rest : List String) (check : HoldCheck)
  | logging (action userId : String) (payload : List (String × JsValue))
      (rest : List String)

/-- What a statement meets: whether it fails, the orders of the scans, the
clock and the ids of the database, and the id of an audit entry. -/
structure HoldInput where
  fails : Bool
  host : RetentionHost
  dueScan : ScanOrder String
  logId : String

inductive HoldEvent where
  | place (hold : LegalHold)
  | release (id : String)
  | tick (now : Instant)

section Jobs

variable (env : RetentionEnv) (auditEnv : AuditEnv)

def followingPhase (job : RetentionJob) (phase : RetentionPhase) :
    HoldThread :=
  match phase.next with
  | some next => .selecting job next
  | none => .reporting job

/-- The turn of the next user. -/
def nextTurn : List String → Option HoldThread
  | [] => none
  | userId :: rest => some (.checking userId rest)

/-- A statement of the retention job that fails ends it; in the deletion job
the turn of the user is over. -/
def advanceJob (store : HoldStore) (thread : HoldThread) (input : HoldInput) :
    HoldStore × Option HoldThread :=
  match thread with
  | .starting (.runDataRetentionJob dryRun now) =>
      (store, some (.selecting
        ⟨dryRun, now.getD store.clock, ⟨⟨0, 0⟩, ⟨0, 0⟩, ⟨0, 0⟩⟩⟩
        .sessionsAnonymized))
  | .starting (.finalizeDueDeletions now) =>
      (store, some (.listing (now.getD store.clock)))
  | .selecting job phase =>
      if input.fails then (store, none)
      else if job.dryRun then
        (store, some (followingPhase
          { job with
            counts := phase.count job.counts
              (phase.matchingIds env job.now store.tables).length }
          phase))
      else
        match ((input.host.scan phase).pick 0
          (phase.matchingIds env job.now store.tables)).take
            env.batchChunkSize with
        | [] => (store, some (followingPhase job phase))
        | id :: ids =>
            (store, some (.applying job phase (id :: ids)
              ⟨job.now, store.tables.legalHolds⟩))
  | .applying job phase ids _ =>
      if input.fails then (store, none)
      else
        ({ store with
            tables := phase.processIds env job.now store.tables ids },
          some (.selecting
            { job with counts := phase.count job.counts ids.length } phase))
  | .reporting job =>
      if job.dryRun || input.fails then (store, none)
      else
        ({ store with
            tables.auditLogs := store.tables.auditLogs.insertFresh
              input.host.uuids
              (retentionAuditLog input.host job.now ⟨job.dryRun, job.counts⟩)
              fun _ => rfl },
          none)
  | .listing now =>
      if input.fails then (store, none)
      else
        (store, nextTurn
          ((input.dueScan.pick 0
            ((dueUsers now store.deletionDb).map User.id)).take
              env.batchChunkSize))
  | .checking userId rest =>
      if input.fails then (store, nextTurn rest)
      else if hasActiveLegalHold store.clock userId store.deletionDb then
        (store, some (.logging "account.deletion.deferred_legal_hold" userId
          [("reason", .str "Active legal hold")] rest))
      else
        (store, some (.deleting userId rest
          ⟨store.clock, store.tables.legalHolds⟩))
  | .deleting userId rest _ =>
      if input.fails then (store, nextTurn rest)
      else
        (store.deleteUser userId,
          some (.logging "account.deletion.finalized" userId [] rest))
  | .logging action userId payload rest =>
      match createDeletionLog auditEnv
        ⟨false, store.clock, false, input.fails, store.clock, input.logId⟩
        action userId payload store.deletionDb with
      | some logged =>
          ({ store with tables.auditLogs := logged.auditLogs }, nextTurn rest)
      | none => (store, nextTurn rest)

/-- A hold is placed on a user that exists; the clock does not go back. -/
def afterHoldEvent (store : HoldStore) : HoldEvent → Option HoldStore
  | .place hold =>
      if store.users.rows.any fun user => user.id == hold.userId then
        (store.tables.legalHolds.insert? hold).map fun legalHolds =>
          { store with tables.legalHolds := legalHolds }
      else none
  | .release id =>
      some
        { store with
          tables.legalHolds := store.tables.legalHolds.delete fun hold =>
            hold.id == id }
  | .tick now =>
      if store.clock ≤ now then some { store with clock := now } else none

def holdProgram :
    Program HoldStore HoldThread HoldCall HoldInput HoldEvent where
  start := .starting
  advance store thread input :=
    some (advanceJob env auditEnv store thread input)
  abort store _ := store
  environment := afterHoldEvent

end Jobs

abbrev HoldPool : Type := Pool HoldStore HoldThread Nat

abbrev HoldAction : Type :=
  Interleaving.Action HoldCall HoldInput HoldEvent Nat

/-! ## Rows about users on hold -/

def HoldStore.onHold (store : HoldStore) (userId : Option String) : Bool :=
  heldBy store.clock store.tables.legalHolds userId

/-- The user that an audit entry is about. -/
def AuditLog.subject (row : AuditLog) : Option String :=
  row.resourceId.filter fun _ => row.resourceType == "user"

/-- Every row about a user who is on hold stays as it is. -/
structure HeldRowsKept (before after : HoldStore) : Prop where
  users : ∀ user ∈ before.users, before.onHold (some user.id) = true →
    user ∈ after.users
  dependents : ∀ row ∈ before.dependents,
    before.onHold (some row.userId) = true → row ∈ after.dependents
  userSessions : ∀ row ∈ before.tables.userSessions,
    before.onHold (some row.userId) = true → row ∈ after.tables.userSessions
  securityEvents : ∀ row ∈ before.tables.securityEvents,
    before.onHold row.userId = true → row ∈ after.tables.securityEvents
  auditLogs : ∀ row ∈ before.tables.auditLogs,
    before.onHold row.actorUserId = true ∨ before.onHold row.subject = true →
    row ∈ after.tables.auditLogs

/-- The step keeps them. -/
def KeepsHeldRows (env : RetentionEnv) (auditEnv : AuditEnv) (pool : HoldPool)
    (action : HoldAction) : Prop :=
  ∀ next, step (holdProgram env auditEnv) pool action = some next →
    HeldRowsKept pool.shared next.shared

/-! ## Holds that a check has missed -/

/-- A hold that is active now has not counted for the check: it has been placed
since, or was not active at the check's time. -/
def HoldStore.Missed (store : HoldStore) (check : HoldCheck)
    (userId : Option String) : Prop :=
  ∃ hold ∈ store.tables.legalHolds, holds store.clock userId hold = true ∧
    (hold ∈ check.legalHolds → activeLegalHold check.now hold = false)

/-- No owner of a listed row is on a hold that the check has missed, and no
listed audit entry is about a user on hold. -/
def RetentionPhase.Spares (store : HoldStore) (ids : List String)
    (check : HoldCheck) : RetentionPhase → Prop
  | .sessionsAnonymized => ∀ row ∈ store.tables.userSessions, row.id ∈ ids →
      (row.ipAddress.isSome || row.userAgent.isSome) = true →
      ¬ store.Missed check (some row.userId)
  | .sessionsDeleted => ∀ row ∈ store.tables.userSessions, row.id ∈ ids →
      ¬ store.Missed check (some row.userId)
  | .securityEventsAnonymized | .securityEventsDeleted =>
      ∀ row ∈ store.tables.securityEvents, row.id ∈ ids →
        ¬ store.Missed check row.userId
  | .auditLogsAnonymized | .auditLogsDeleted =>
      ∀ row ∈ store.tables.auditLogs, row.id ∈ ids →
        ¬ store.Missed check row.actorUserId ∧
          store.onHold row.subject = false

/-- No hold on the user has been missed, and no audit entry of the user is
about another one on hold. -/
def DeletionSpares (store : HoldStore) (userId : String) (check : HoldCheck) :
    Prop :=
  (∃ user ∈ store.users, user.id = userId) →
    ¬ store.Missed check (some userId) ∧
    ∀ row ∈ store.tables.auditLogs, row.actorUserId = some userId →
      store.onHold row.subject = false

def MissesNoHold (store : HoldStore) (thread : HoldThread)
    (input : HoldInput) : Prop :=
  match thread with
  | .applying _ phase ids check =>
      input.fails = false → phase.Spares store ids check
  | .deleting userId _ check =>
      input.fails = false → DeletionSpares store userId check
  | _ => True

/-! ## Tables -/

section Rows

variable {Row : Type} [Keyed Row String] {owner : Row → Option String}
  {before after : Table Row} {ids : List String}

/-- Where a row has an owner, the row with its key had it before. -/
def OwnersKept (owner : Row → Option String) (before after : Table Row) :
    Prop :=
  ∀ row ∈ after, owner row = none ∨
    ∃ old ∈ before, key old = key row ∧ owner old = owner row

theorem ownersKept_refl (owner : Row → Option String) (table : Table Row) :
    OwnersKept owner table table :=
  fun row hrow => .inr ⟨row, hrow, rfl, rfl⟩

theorem ownersKept_delete (owner : Row → Option String) (table : Table Row)
    (where_ : Row → Bool) : OwnersKept owner table (table.delete where_) :=
  fun row hrow => .inr ⟨row, (Table.mem_delete.mp hrow).1, rfl, rfl⟩

theorem ownersKept_update (owner : Row → Option String) {table : Table Row}
    {where_ : Row → Bool} (set : Row → Row)
    (hkey : ∀ row, key (set row) = key row)
    (hset : ∀ row, owner (set row) = owner row ∨ owner (set row) = none) :
    OwnersKept owner table (table.update where_ set hkey) := by
  intro row hrow
  obtain ⟨old, hold, rfl⟩ := Table.mem_update.mp hrow
  split
  case isTrue =>
    rcases hset old with hsame | hnone
    · exact .inr ⟨old, hold, (hkey old).symm, hsame.symm⟩
    · exact .inl hnone
  case isFalse => exact .inr ⟨old, hold, rfl, rfl⟩

theorem ownersKept_append {row : Row}
    (hrows : after.rows = before.rows ++ [row]) (hrow : owner row = none) :
    OwnersKept owner before after := by
  intro other hother
  rw [← mem_rows, hrows, List.mem_append, List.mem_singleton] at hother
  rcases hother with hold | rfl
  · exact .inr ⟨other, hold, rfl, rfl⟩
  · exact .inl hrow

/-- No owner of a listed row was on hold for the check. -/
def CheckedRows (owner : Row → Option String) (table : Table Row)
    (ids : List String) (check : HoldCheck) : Prop :=
  ∀ row ∈ table, key row ∈ ids →
    heldBy check.now check.legalHolds (owner row) = false

theorem CheckedRows.stay {check : HoldCheck}
    (hchecked : CheckedRows owner before ids check)
    (hkept : OwnersKept owner before after) :
    CheckedRows owner after ids check := by
  intro row hrow hid
  rcases hkept row hrow with hnone | ⟨old, hold, hkey, howner⟩
  · rw [hnone, heldBy_none]
  · rw [← howner]
    exact hchecked old hold (hkey ▸ hid)

/-- What is selected is checked. -/
theorem checkedRows_matchingIds (statement : RetentionStatement Row)
    (now : Instant) (db : RetentionDb)
    (hids : ∀ id ∈ ids, id ∈ statement.matchingIds now db) :
    CheckedRows statement.owner (statement.table.get db) ids
      ⟨now, db.legalHolds⟩ := by
  intro row hrow hid
  have hmatching := hids _ hid
  rw [RetentionStatement.matchingIds, statement.matching_eq, List.mem_map]
    at hmatching
  obtain ⟨other, hother, hkey⟩ := hmatching
  obtain ⟨hmem, hwants⟩ := Table.mem_select.mp hother
  rw [(statement.table.get db).eq_of_key_eq hmem hrow hkey,
    RetentionStatement.wants, Bool.and_eq_true, Bool.not_eq_true'] at hwants
  exact hwants.2

theorem kept_delete_iff (table : Table Row) (ids : List String)
    (Held : Row → Prop) :
    (∀ row ∈ table, Held row →
        row ∈ table.delete fun row => decide (key row ∈ ids)) ↔
      ∀ row ∈ table, key row ∈ ids → ¬ Held row := by
  constructor
  · intro hkept row hrow hid hheld
    have hafter := (Table.mem_delete.mp (hkept row hrow hheld)).2
    exact of_decide_eq_false hafter hid
  · intro hspared row hrow hheld
    refine Table.mem_delete.mpr ⟨hrow, decide_eq_false fun hid => ?_⟩
    exact hspared row hrow hid hheld

theorem kept_update_iff (table : Table Row) (ids : List String)
    {set : Row → Row} {hkey : ∀ row, key (set row) = key row}
    (Held : Row → Prop) :
    (∀ row ∈ table, Held row →
        row ∈ table.update (fun row => decide (key row ∈ ids)) set hkey) ↔
      ∀ row ∈ table, key row ∈ ids → set row ≠ row → ¬ Held row := by
  constructor
  · intro hkept row hrow hid hchanged hheld
    have hsame := (Table.mem_update_of_mem set hkey hrow).mp
      (hkept row hrow hheld)
    exact hchanged (hsame (decide_eq_true hid))
  · intro hspared row hrow hheld
    rw [Table.mem_update_of_mem set hkey hrow]
    intro hid
    by_contra hchanged
    exact hspared row hrow (of_decide_eq_true hid) hchanged hheld

end Rows

/-! ## What a step changes -/

theorem HeldRowsKept.refl (store : HoldStore) : HeldRowsKept store store where
  users _ huser _ := huser
  dependents _ hrow _ := hrow
  userSessions _ hrow _ := hrow
  securityEvents _ hrow _ := hrow
  auditLogs _ hrow _ := hrow

section Kept

variable (store : HoldStore)

theorem heldRowsKept_userSessions (table : Table UserSession) :
    HeldRowsKept store
        { store with tables := userSessionsTable.set store.tables table } ↔
      ∀ row ∈ store.tables.userSessions,
        store.onHold (some row.userId) = true → row ∈ table :=
  ⟨fun hkept => hkept.userSessions, fun hrows =>
    { HeldRowsKept.refl store with userSessions := hrows }⟩

theorem heldRowsKept_securityEvents (table : Table SecurityEvent) :
    HeldRowsKept store
        { store with tables := securityEventsTable.set store.tables table } ↔
      ∀ row ∈ store.tables.securityEvents,
        store.onHold row.userId = true → row ∈ table :=
  ⟨fun hkept => hkept.securityEvents, fun hrows =>
    { HeldRowsKept.refl store with securityEvents := hrows }⟩

theorem heldRowsKept_auditLogs (table : Table AuditLog) :
    HeldRowsKept store
        { store with tables := auditLogsTable.set store.tables table } ↔
      ∀ row ∈ store.tables.auditLogs,
        store.onHold row.actorUserId = true ∨
          store.onHold row.subject = true → row ∈ table :=
  ⟨fun hkept => hkept.auditLogs, fun hrows =>
    { HeldRowsKept.refl store with auditLogs := hrows }⟩

variable {store} {check : HoldCheck} {userId : Option String}

/-- Who was not on hold for the check is on hold now only by a hold that it has
missed. -/
theorem missed_iff
    (hchecked : heldBy check.now check.legalHolds userId = false) :
    store.Missed check userId ↔ store.onHold userId = true := by
  rw [HoldStore.onHold, heldBy, List.any_eq_true]
  constructor
  · rintro ⟨hold, hmem, hholds, -⟩
    exact ⟨hold, hmem, hholds⟩
  · rintro ⟨hold, hmem, hholds⟩
    refine ⟨hold, hmem, hholds, fun hseen => ?_⟩
    have hunheld := List.any_eq_false.mp hchecked hold hseen
    rw [holds, Bool.and_eq_true] at hholds
    rw [holds, hholds.1, Bool.true_and, Bool.not_eq_true] at hunheld
    exact hunheld

/-- A check that is not ahead of the clock has missed what was placed since. -/
theorem missed_iff_placed (hclock : check.now ≤ store.clock) :
    store.Missed check userId ↔ ∃ hold ∈ store.tables.legalHolds,
      hold ∉ check.legalHolds ∧ holds store.clock userId hold = true := by
  constructor
  · rintro ⟨hold, hmem, hholds, hinactive⟩
    refine ⟨hold, hmem, fun hseen => ?_, hholds⟩
    have hactive := (Bool.and_eq_true_iff.mp hholds).2
    have hbefore := hinactive hseen
    unfold activeLegalHold at hactive hbefore
    cases hexpires : hold.expiresAt with
    | none =>
        rw [hexpires] at hbefore
        cases hbefore
    | some expiresAt =>
        rw [hexpires] at hactive hbefore
        have hlater := of_decide_eq_true hactive
        exact of_decide_eq_false hbefore (Int.lt_of_le_of_lt hclock hlater)
  · rintro ⟨hold, hmem, hplaced, hholds⟩
    exact ⟨hold, hmem, hholds, fun hseen => absurd hseen hplaced⟩

theorem onHold_none : store.onHold none = false :=
  heldBy_none store.clock store.tables.legalHolds

/-- A row that somebody on hold owns is not one without an owner. -/
theorem ne_of_owner_none {Row : Type} (owner : Row → Option String)
    {row other : Row} (hother : owner other = none)
    (hheld : store.onHold (owner row) = true) : other ≠ row := by
  intro hsame
  rw [← hsame, hother, onHold_none] at hheld
  cases hheld

theorem anonymized_session_ne_iff (row : UserSession) :
    { row with ipAddress := none, userAgent := none } ≠ row ↔
      (row.ipAddress.isSome || row.userAgent.isSome) = true := by
  rcases row with ⟨_, _, _, _, ipAddress, userAgent⟩
  cases ipAddress with
  | some ipAddress => simp
  | none =>
      cases userAgent with
      | some userAgent => simp
      | none => simp

/-- Where every row on hold changes, the change is nothing to ask for. -/
theorem changed_imp_iff {Changed Held : Prop} (hchanged : Held → Changed) :
    (Changed → ¬ Held) ↔ ¬ Held :=
  ⟨fun hspared hheld => hspared (hchanged hheld) hheld,
    fun hspared _ => hspared⟩

end Kept

namespace RetentionPhase

/-- The listed rows of the phase are checked. -/
def Checked (tables : RetentionDb) (ids : List String) (check : HoldCheck) :
    RetentionPhase → Prop
  | .sessionsAnonymized | .sessionsDeleted =>
      CheckedRows (fun row => some row.userId) tables.userSessions ids check
  | .securityEventsAnonymized | .securityEventsDeleted =>
      CheckedRows SecurityEvent.userId tables.securityEvents ids check
  | .auditLogsAnonymized | .auditLogsDeleted =>
      CheckedRows AuditLog.actorUserId tables.auditLogs ids check

variable (env : RetentionEnv) (now : Instant)

theorem checked_of_matching {tables : RetentionDb} {ids : List String}
    (phase : RetentionPhase)
    (hids : ∀ id ∈ ids, id ∈ phase.matchingIds env now tables) :
    phase.Checked tables ids ⟨now, tables.legalHolds⟩ := by
  cases phase with
  | sessionsAnonymized =>
      exact checkedRows_matchingIds
        (IdProvider.sessionsAnonymized env now) now tables hids
  | securityEventsAnonymized =>
      exact checkedRows_matchingIds
        (IdProvider.securityEventsAnonymized env now) now tables hids
  | auditLogsAnonymized =>
      exact checkedRows_matchingIds
        (IdProvider.auditLogsAnonymized env now) now tables hids
  | sessionsDeleted =>
      exact checkedRows_matchingIds
        (IdProvider.sessionsDeleted env now) now tables hids
  | securityEventsDeleted =>
      exact checkedRows_matchingIds
        (IdProvider.securityEventsDeleted env now) now tables hids
  | auditLogsDeleted =>
      exact checkedRows_matchingIds
        (IdProvider.auditLogsDeleted env now) now tables hids

/-- A statement that is applied keeps the rows of users on hold exactly when no
hold has been missed. -/
theorem heldRowsKept_processIds_iff {store : HoldStore} {ids : List String}
    {check : HoldCheck} (phase : RetentionPhase)
    (hchecked : phase.Checked store.tables ids check) :
    HeldRowsKept store
        { store with
          tables := phase.processIds env now store.tables ids } ↔
      phase.Spares store ids check := by
  cases phase with
  | sessionsAnonymized =>
      refine (heldRowsKept_userSessions store _).trans
        ((kept_update_iff _ ids _).trans ?_)
      refine forall₃_congr fun row hrow hid => ?_
      rw [missed_iff (hchecked row hrow hid)]
      exact imp_congr_left (anonymized_session_ne_iff row)
  | sessionsDeleted =>
      refine (heldRowsKept_userSessions store _).trans
        ((kept_delete_iff _ ids _).trans ?_)
      refine forall₃_congr fun row hrow hid => ?_
      rw [missed_iff (hchecked row hrow hid)]
  | securityEventsAnonymized =>
      refine (heldRowsKept_securityEvents store _).trans
        ((kept_update_iff _ ids _).trans ?_)
      refine forall₃_congr fun row hrow hid => ?_
      rw [missed_iff (hchecked row hrow hid)]
      apply changed_imp_iff
      exact ne_of_owner_none SecurityEvent.userId rfl
  | securityEventsDeleted =>
      refine (heldRowsKept_securityEvents store _).trans
        ((kept_delete_iff _ ids _).trans ?_)
      refine forall₃_congr fun row hrow hid => ?_
      rw [missed_iff (hchecked row hrow hid)]
  | auditLogsAnonymized =>
      refine (heldRowsKept_auditLogs store _).trans
        ((kept_update_iff _ ids _).trans ?_)
      refine forall₃_congr fun row hrow hid => ?_
      rw [missed_iff (hchecked row hrow hid), ← Bool.not_eq_true, ← not_or]
      apply changed_imp_iff
      rintro (hactor | hsubject)
      · exact ne_of_owner_none AuditLog.actorUserId rfl hactor
      · exact ne_of_owner_none AuditLog.subject rfl hsubject
  | auditLogsDeleted =>
      refine (heldRowsKept_auditLogs store _).trans
        ((kept_delete_iff _ ids _).trans ?_)
      refine forall₃_congr fun row hrow hid => ?_
      rw [missed_iff (hchecked row hrow hid), ← Bool.not_eq_true, ← not_or]

end RetentionPhase

section Deletion

variable {store : HoldStore} {userId : String} {check : HoldCheck}

theorem goneUser_iff {users : Table User} {id : String} :
    goneUser users userId id = true ↔
      id = userId ∧ ∃ user ∈ users, user.id = userId := by
  simp only [goneUser, List.any_eq_true, Table.mem_select, beq_iff_eq]
  constructor
  · rintro ⟨user, ⟨huser, hid⟩, hsame⟩
    exact ⟨hsame.symm.trans hid, user, huser, hid⟩
  · rintro ⟨rfl, user, huser, hid⟩
    exact ⟨user, ⟨huser, hid⟩, hid⟩

theorem any_goneUser_iff {users : Table User} {owner : Option String} :
    owner.any (goneUser users userId) = true ↔
      owner = some userId ∧ ∃ user ∈ users, user.id = userId := by
  rw [Option.any_eq_true]
  constructor
  · rintro ⟨id, rfl, hgone⟩
    obtain ⟨rfl, hexists⟩ := goneUser_iff.mp hgone
    exact ⟨rfl, hexists⟩
  · rintro ⟨rfl, hexists⟩
    exact ⟨userId, rfl, goneUser_iff.mpr ⟨rfl, hexists⟩⟩

theorem mem_securityEvents_deleteUser {row : SecurityEvent}
    (hrow : row ∈ store.tables.securityEvents) :
    row ∈ (store.deleteUser userId).tables.securityEvents ↔
      ¬ (row.userId = some userId ∧
        ∃ user ∈ store.users, user.id = userId) := by
  refine (Table.mem_update_of_mem (fun row => { row with userId := none })
    (fun _ => rfl) hrow).trans ?_
  rw [any_goneUser_iff]
  constructor
  · intro hsame hgone
    have hnone := congrArg SecurityEvent.userId (hsame hgone)
    rw [hgone.1] at hnone
    cases hnone
  · exact fun hstays hgone => absurd hgone hstays

theorem mem_auditLogs_deleteUser {row : AuditLog}
    (hrow : row ∈ store.tables.auditLogs) :
    row ∈ (store.deleteUser userId).tables.auditLogs ↔
      ¬ (row.actorUserId = some userId ∧
        ∃ user ∈ store.users, user.id = userId) := by
  refine (Table.mem_update_of_mem (fun row => { row with actorUserId := none })
    (fun _ => rfl) hrow).trans ?_
  change (row.actorUserId.any (goneUser store.users userId) = true → _) ↔ _
  rw [any_goneUser_iff]
  constructor
  · intro hsame hgone
    have hnone := congrArg AuditLog.actorUserId (hsame hgone)
    rw [hgone.1] at hnone
    cases hnone
  · exact fun hstays hgone => absurd hgone hstays

/-- A user who is not on hold is none who is. -/
theorem ne_of_onHold {owner : Option String}
    (hfree : store.onHold (some userId) = false)
    (hheld : store.onHold owner = true) : owner ≠ some userId := by
  rintro rfl
  rw [hfree] at hheld
  cases hheld

theorem goneUser_of_onHold {users : Table User} {id : String}
    (hfree : store.onHold (some userId) = false)
    (hheld : store.onHold (some id) = true) :
    goneUser users userId id = false := by
  rw [Bool.eq_false_iff]
  intro hgone
  exact ne_of_onHold hfree hheld (congrArg some (goneUser_iff.mp hgone).1)

/-- The rows of users on hold outlive a user who is not, unless an audit entry
of the user is about one of them. -/
theorem heldRowsKept_deleteUser
    (hfree : store.onHold (some userId) = false)
    (haudit : ∀ row ∈ store.tables.auditLogs,
      row.actorUserId = some userId → store.onHold row.subject = false) :
    HeldRowsKept store (store.deleteUser userId) where
  users user huser hheld := by
    have hother : user.id ≠ userId :=
      fun hsame => ne_of_onHold hfree hheld (congrArg some hsame)
    exact Table.mem_delete.mpr ⟨huser, beq_eq_false_iff_ne.mpr hother⟩
  dependents row hrow hheld :=
    Table.mem_delete.mpr ⟨hrow, goneUser_of_onHold hfree hheld⟩
  userSessions row hrow hheld :=
    Table.mem_delete.mpr ⟨hrow, goneUser_of_onHold hfree hheld⟩
  securityEvents row hrow hheld :=
    (mem_securityEvents_deleteUser hrow).mpr fun hgone =>
      ne_of_onHold hfree hheld hgone.1
  auditLogs row hrow hheld := by
    rw [mem_auditLogs_deleteUser hrow]
    rintro ⟨hactor, -⟩
    rcases hheld with hheld | hheld
    · exact ne_of_onHold hfree hheld hactor
    · rw [haudit row hrow hactor] at hheld
      cases hheld

theorem heldRowsKept_deleteUser_of_missing
    (hmissing : ¬ ∃ user ∈ store.users, user.id = userId) :
    HeldRowsKept store (store.deleteUser userId) where
  users user huser _ := by
    refine Table.mem_delete.mpr ⟨huser, beq_eq_false_iff_ne.mpr ?_⟩
    exact fun hsame => hmissing ⟨user, huser, hsame⟩
  dependents row hrow _ := by
    refine Table.mem_delete.mpr ⟨hrow, Bool.eq_false_iff.mpr fun hgone => ?_⟩
    exact hmissing (goneUser_iff.mp hgone).2
  userSessions row hrow _ := by
    refine Table.mem_delete.mpr ⟨hrow, Bool.eq_false_iff.mpr fun hgone => ?_⟩
    exact hmissing (goneUser_iff.mp hgone).2
  securityEvents row hrow _ :=
    (mem_securityEvents_deleteUser hrow).mpr fun hgone => hmissing hgone.2
  auditLogs row hrow _ :=
    (mem_auditLogs_deleteUser hrow).mpr fun hgone => hmissing hgone.2

theorem heldRowsKept_deleteUser_iff
    (hchecked : heldBy check.now check.legalHolds (some userId) = false) :
    HeldRowsKept store (store.deleteUser userId) ↔
      DeletionSpares store userId check := by
  rw [DeletionSpares, missed_iff hchecked, Bool.not_eq_true]
  constructor
  · rintro hkept ⟨user, huser, hid⟩
    constructor
    · rw [← hid, ← Bool.not_eq_true]
      intro hheld
      have hafter := (Table.mem_delete.mp (hkept.users user huser hheld)).2
      exact beq_eq_false_iff_ne.mp hafter hid
    · intro row hrow hactor
      rw [← Bool.not_eq_true]
      intro hheld
      exact (mem_auditLogs_deleteUser hrow).mp
        (hkept.auditLogs row hrow (.inr hheld)) ⟨hactor, user, huser, hid⟩
  · intro hspares
    by_cases hexists : ∃ user ∈ store.users, user.id = userId
    · obtain ⟨hfree, haudit⟩ := hspares hexists
      exact heldRowsKept_deleteUser hfree haudit
    · exact heldRowsKept_deleteUser_of_missing hexists

end Deletion

/-! ## The jobs keep what their checks have seen -/

/-- Owners stay, in all tables that a check looks at. -/
structure OwnersStay (before after : RetentionDb) : Prop where
  userSessions : OwnersKept (fun row : UserSession => some row.userId)
    before.userSessions after.userSessions
  securityEvents : OwnersKept SecurityEvent.userId before.securityEvents
    after.securityEvents
  auditLogs : OwnersKept AuditLog.actorUserId before.auditLogs
    after.auditLogs

theorem OwnersStay.refl (tables : RetentionDb) : OwnersStay tables tables where
  userSessions := ownersKept_refl _ _
  securityEvents := ownersKept_refl _ _
  auditLogs := ownersKept_refl _ _

theorem RetentionPhase.Checked.stay {before after : RetentionDb}
    {ids : List String} {check : HoldCheck} {phase : RetentionPhase}
    (hchecked : phase.Checked before ids check)
    (hstay : OwnersStay before after) : phase.Checked after ids check := by
  cases phase with
  | sessionsAnonymized | sessionsDeleted =>
      exact CheckedRows.stay hchecked hstay.userSessions
  | securityEventsAnonymized | securityEventsDeleted =>
      exact CheckedRows.stay hchecked hstay.securityEvents
  | auditLogsAnonymized | auditLogsDeleted =>
      exact CheckedRows.stay hchecked hstay.auditLogs

theorem ownersStay_processIds (env : RetentionEnv) (now : Instant)
    (tables : RetentionDb) (ids : List String) (phase : RetentionPhase) :
    OwnersStay tables (phase.processIds env now tables ids) := by
  have hrefl := OwnersStay.refl tables
  cases phase with
  | sessionsAnonymized =>
      exact { hrefl with
        userSessions := ownersKept_update _
          (fun row : UserSession =>
            { row with ipAddress := none, userAgent := none })
          (fun _ => rfl) fun _ => .inl rfl }
  | securityEventsAnonymized =>
      exact { hrefl with
        securityEvents := ownersKept_update SecurityEvent.userId
          (fun row => { row with userId := none, payload := .obj [] })
          (fun _ => rfl) fun _ => .inr rfl }
  | auditLogsAnonymized =>
      exact { hrefl with
        auditLogs := ownersKept_update AuditLog.actorUserId
          (fun row =>
            { row with
              actorUserId := none, resourceId := none, payload := .obj [] })
          (fun _ => rfl) fun _ => .inr rfl }
  | sessionsDeleted =>
      exact { hrefl with userSessions := ownersKept_delete _ _ _ }
  | securityEventsDeleted =>
      exact { hrefl with securityEvents := ownersKept_delete _ _ _ }
  | auditLogsDeleted =>
      exact { hrefl with auditLogs := ownersKept_delete _ _ _ }

theorem ownersStay_deleteUser (store : HoldStore) (userId : String) :
    OwnersStay store.tables (store.deleteUser userId).tables where
  userSessions := ownersKept_delete _ _ _
  securityEvents := ownersKept_update SecurityEvent.userId
    (fun row => { row with userId := none }) (fun _ => rfl) fun _ => .inr rfl
  auditLogs := ownersKept_update AuditLog.actorUserId
    (fun row => { row with actorUserId := none }) (fun _ => rfl)
    fun _ => .inr rfl

/-- An entry of a job is added, with nobody as its actor. -/
structure AddsEntry (before after : HoldStore) : Prop where
  tables : ∃ auditLogs row,
    auditLogs.rows = before.tables.auditLogs.rows ++ [row] ∧
      row.actorUserId = none ∧
      after = { before with tables.auditLogs := auditLogs }

theorem AddsEntry.kept {before after : HoldStore}
    (hadds : AddsEntry before after) : HeldRowsKept before after := by
  obtain ⟨auditLogs, row, hrows, -, rfl⟩ := hadds.tables
  refine { HeldRowsKept.refl before with auditLogs := fun other hother _ => ?_ }
  change other ∈ auditLogs.rows
  rw [hrows]
  exact List.mem_append_left _ hother

theorem AddsEntry.ownersStay {before after : HoldStore}
    (hadds : AddsEntry before after) :
    OwnersStay before.tables after.tables := by
  obtain ⟨auditLogs, row, hrows, hnone, rfl⟩ := hadds.tables
  exact { OwnersStay.refl before.tables with
    auditLogs := ownersKept_append hrows hnone }

theorem addsEntry_log {auditEnv : AuditEnv} {calls : FinalizeCalls}
    {action userId : String} {payload : List (String × JsValue)}
    {store : HoldStore} {logged : DeletionDb}
    (hlog : createDeletionLog auditEnv calls action userId payload
      store.deletionDb = some logged) :
    AddsEntry store { store with tables.auditLogs := logged.auditLogs } := by
  unfold createDeletionLog at hlog
  split at hlog
  case isTrue => cases hlog
  case isFalse =>
    rw [Option.map_eq_some_iff] at hlog
    obtain ⟨auditLogs, hcreate, rfl⟩ := hlog
    obtain ⟨row, hrows, hactor⟩ := createAuditLog_added hcreate
    exact ⟨auditLogs, row, hrows, hactor, rfl⟩

def HoldThread.Checked (tables : RetentionDb) : HoldThread → Prop
  | .applying _ phase ids check => phase.Checked tables ids check
  | .deleting userId _ check =>
      heldBy check.now check.legalHolds (some userId) = false
  | _ => True

theorem HoldThread.Checked.stay {before after : RetentionDb}
    {thread : HoldThread} (hchecked : thread.Checked before)
    (hstay : OwnersStay before after) : thread.Checked after := by
  cases thread with
  | applying job phase ids check =>
      exact RetentionPhase.Checked.stay hchecked hstay
  | deleting userId rest check => exact hchecked
  | starting | selecting | reporting | listing | checking | logging => trivial

/-- What a statement of a job does, whichever it is. -/
structure JobStep (store : HoldStore) (thread : HoldThread)
    (input : HoldInput) (result : HoldStore × Option HoldThread) : Prop where
  owners : OwnersStay store.tables result.1.tables
  checked : ∀ next, result.2 = some next → next.Checked result.1.tables
  kept_iff : HeldRowsKept store result.1 ↔ MissesNoHold store thread input

section Steps

variable {store : HoldStore} {thread : HoldThread} {input : HoldInput}

theorem jobStep_same {next : Option HoldThread}
    (hchecked : ∀ following, next = some following →
      following.Checked store.tables)
    (hmisses : MissesNoHold store thread input) :
    JobStep store thread input (store, next) where
  owners := OwnersStay.refl store.tables
  checked := hchecked
  kept_iff := iff_of_true (HeldRowsKept.refl store) hmisses

theorem jobStep_end (hmisses : MissesNoHold store thread input) :
    JobStep store thread input (store, none) :=
  jobStep_same (fun _ hnext => by cases hnext) hmisses

theorem checked_nextTurn (rest : List String) :
    ∀ next, nextTurn rest = some next → next.Checked store.tables := by
  intro next hnext
  cases rest with
  | nil => cases hnext
  | cons userId rest =>
      cases hnext
      trivial

theorem checked_followingPhase (job : RetentionJob) (phase : RetentionPhase) :
    ∀ next, some (followingPhase job phase) = some next →
      next.Checked store.tables := by
  intro next hnext
  cases hnext
  unfold followingPhase
  split
  case h_1 => trivial
  case h_2 => trivial

theorem jobStep_log {after : HoldStore} {next : Option HoldThread}
    (hadds : AddsEntry store after)
    (hchecked : ∀ following, next = some following →
      following.Checked store.tables)
    (hmisses : MissesNoHold store thread input) :
    JobStep store thread input (after, next) where
  owners := hadds.ownersStay
  checked following hnext := (hchecked following hnext).stay hadds.ownersStay
  kept_iff := iff_of_true hadds.kept hmisses

variable (env : RetentionEnv) (auditEnv : AuditEnv)

/-- A select changes nothing, and the rows it lists were on no hold. -/
theorem jobStep_selecting (job : RetentionJob) (phase : RetentionPhase) :
    JobStep store (.selecting job phase) input
      (advanceJob env auditEnv store (.selecting job phase) input) := by
  rw [advanceJob]
  split
  case isTrue => exact jobStep_end trivial
  case isFalse =>
    split
    case isTrue =>
      exact jobStep_same (checked_followingPhase _ phase) trivial
    case isFalse =>
      split
      case h_1 =>
        exact jobStep_same (checked_followingPhase job phase) trivial
      case h_2 id ids hselected =>
        refine jobStep_same (fun next hnext => ?_) trivial
        cases hnext
        apply phase.checked_of_matching env job.now
        intro other hother
        rw [← hselected] at hother
        exact ((input.host.scan phase).perm 0 _).mem_iff.mp
          (List.mem_of_mem_take hother)

theorem jobStep_applying (job : RetentionJob) (phase : RetentionPhase)
    (ids : List String) (check : HoldCheck)
    (hchecked : phase.Checked store.tables ids check) :
    JobStep store (.applying job phase ids check) input
      (advanceJob env auditEnv store (.applying job phase ids check)
        input) := by
  rw [advanceJob]
  split
  case isTrue hfails =>
    refine jobStep_end fun hok => ?_
    rw [hok] at hfails
    cases hfails
  case isFalse hok =>
    constructor
    · exact ownersStay_processIds env job.now store.tables ids phase
    · intro next hnext
      cases hnext
      trivial
    · refine (phase.heldRowsKept_processIds_iff env job.now hchecked).trans ?_
      exact ⟨fun hspares _ => hspares,
        fun hmisses => hmisses (Bool.eq_false_iff.mpr hok)⟩

/-- The check of a user passes on what it has read of the holds. -/
theorem jobStep_checking (userId : String) (rest : List String) :
    JobStep store (.checking userId rest) input
      (advanceJob env auditEnv store (.checking userId rest) input) := by
  rw [advanceJob]
  split
  case isTrue => exact jobStep_same (checked_nextTurn rest) trivial
  case isFalse =>
    split
    case isTrue =>
      refine jobStep_same (fun next hnext => ?_) trivial
      cases hnext
      trivial
    case isFalse hfree =>
      refine jobStep_same (fun next hnext => ?_) trivial
      cases hnext
      exact Bool.eq_false_iff.mpr hfree

theorem jobStep_deleting (userId : String) (rest : List String)
    (check : HoldCheck)
    (hchecked : (HoldThread.deleting userId rest check).Checked
      store.tables) :
    JobStep store (.deleting userId rest check) input
      (advanceJob env auditEnv store (.deleting userId rest check)
        input) := by
  rw [advanceJob]
  split
  case isTrue hfails =>
    refine jobStep_same (checked_nextTurn rest) fun hok => ?_
    rw [hok] at hfails
    cases hfails
  case isFalse hok =>
    constructor
    · exact ownersStay_deleteUser store userId
    · intro next hnext
      cases hnext
      trivial
    · refine (heldRowsKept_deleteUser_iff hchecked).trans ?_
      exact ⟨fun hspares _ => hspares,
        fun hmisses => hmisses (Bool.eq_false_iff.mpr hok)⟩

/-- Every statement of the two jobs. -/
theorem jobStep_advance (hchecked : thread.Checked store.tables) :
    JobStep store thread input
      (advanceJob env auditEnv store thread input) := by
  cases thread with
  | starting call =>
      cases call with
      | runDataRetentionJob dryRun now =>
          refine jobStep_same (fun next hnext => ?_) trivial
          cases hnext
          trivial
      | finalizeDueDeletions now =>
          refine jobStep_same (fun next hnext => ?_) trivial
          cases hnext
          trivial
  | selecting job phase => exact jobStep_selecting env auditEnv job phase
  | applying job phase ids check =>
      exact jobStep_applying env auditEnv job phase ids check hchecked
  | reporting job =>
      rw [advanceJob]
      split
      case isTrue => exact jobStep_end trivial
      case isFalse =>
        refine jobStep_log ?_ (fun next hnext => by cases hnext) trivial
        exact ⟨_, _, Table.rows_insertFresh, rfl, rfl⟩
  | listing now =>
      rw [advanceJob]
      split
      case isTrue => exact jobStep_end trivial
      case isFalse => exact jobStep_same (checked_nextTurn _) trivial
  | checking userId rest => exact jobStep_checking env auditEnv userId rest
  | deleting userId rest check =>
      exact jobStep_deleting env auditEnv userId rest check hchecked
  | logging action userId payload rest =>
      rw [advanceJob]
      split
      case h_1 logged hlog =>
        exact jobStep_log (addsEntry_log hlog) (checked_nextTurn rest) trivial
      case h_2 => exact jobStep_same (checked_nextTurn rest) trivial

end Steps

/-- Placing and releasing holds changes no row, nor does time. -/
theorem afterHoldEvent_same {store after : HoldStore} {event : HoldEvent}
    (hevent : afterHoldEvent store event = some after) :
    ∃ clock legalHolds, after =
      { store with
        clock := clock
        tables := { store.tables with legalHolds := legalHolds } } := by
  cases event with
  | place hold =>
      rw [afterHoldEvent] at hevent
      split at hevent
      case isTrue =>
        rw [Option.map_eq_some_iff] at hevent
        obtain ⟨legalHolds, -, rfl⟩ := hevent
        exact ⟨store.clock, legalHolds, rfl⟩
      case isFalse => cases hevent
  | release id =>
      cases hevent
      exact ⟨store.clock, _, rfl⟩
  | tick now =>
      rw [afterHoldEvent] at hevent
      split at hevent
      case isTrue =>
        cases hevent
        exact ⟨now, store.tables.legalHolds, rfl⟩
      case isFalse => cases hevent

def holdInvariant : Invariant HoldStore HoldThread where
  SharedOk _ := True
  ThreadOk store thread := thread.Checked store.tables
  Apart _ _ := True

theorem holdInvariant_inductive (env : RetentionEnv) (auditEnv : AuditEnv) :
    holdInvariant.Inductive (holdProgram env auditEnv) fun _ _ _ => True where
  start store call hstore := ⟨trivial, fun _ => ⟨trivial, trivial⟩⟩
  advance store thread input after next hstore hchecked _ hadvance := by
    have hstep : JobStep store thread input
        (advanceJob env auditEnv store thread input) :=
      jobStep_advance env auditEnv hchecked
    rw [Option.some.inj hadvance] at hstep
    exact
      { shared := trivial
        thread := hstep.checked
        others := fun other hother _ => hother.stay hstep.owners
        apart := fun _ _ _ _ _ => ⟨trivial, trivial⟩ }
  abort store thread hstore hchecked :=
    { shared := trivial
      thread := fun _ hnext => by cases hnext
      others := fun _ hother _ => hother
      apart := fun _ hnext => by cases hnext }
  environment store event after hstore hevent := by
    obtain ⟨clock, legalHolds, rfl⟩ := afterHoldEvent_same hevent
    refine ⟨trivial, fun thread hchecked => ?_⟩
    exact HoldThread.Checked.stay hchecked
      ⟨ownersKept_refl _ _, ownersKept_refl _ _, ownersKept_refl _ _⟩

theorem meets_true (pool : HoldPool) (action : HoldAction) :
    Meets (fun _ _ _ => True) pool action := by
  cases action with
  | advance id input => exact fun _ _ => trivial
  | spawn | abort | environment => trivial

theorem keepsHeldRows_iff {env : RetentionEnv} {auditEnv : AuditEnv}
    {pool : HoldPool} {action : HoldAction}
    (hholds : holdInvariant.Holds pool) :
    KeepsHeldRows env auditEnv pool action ↔
      Meets MissesNoHold pool action := by
  constructor
  · intro hkeeps
    cases action with
    | advance id input =>
        intro thread hthread
        have hstep : JobStep pool.shared thread input
            (advanceJob env auditEnv pool.shared thread input) :=
          jobStep_advance env auditEnv (hholds.thread id thread hthread)
        apply hstep.kept_iff.mp
        apply hkeeps (pool.set id
          (advanceJob env auditEnv pool.shared thread input).1
          (advanceJob env auditEnv pool.shared thread input).2)
        dsimp only [step]
        rw [hthread]
        rfl
    | spawn | abort | environment => trivial
  · intro hmeets next hnext
    cases moves_of_step (holdProgram env auditEnv) hnext with
    | spawn id call => exact HeldRowsKept.refl pool.shared
    | advance id input thread after following hthread hadvance =>
        have hstep : JobStep pool.shared thread input
            (advanceJob env auditEnv pool.shared thread input) :=
          jobStep_advance env auditEnv (hholds.thread id thread hthread)
        rw [Option.some.inj hadvance] at hstep
        exact hstep.kept_iff.mpr (hmeets thread hthread)
    | abort id thread => exact HeldRowsKept.refl pool.shared
    | environment event after hevent =>
        obtain ⟨clock, legalHolds, rfl⟩ := afterHoldEvent_same hevent
        exact { HeldRowsKept.refl pool.shared with }

/-- From any state of the tables, in a run of retention and deletion jobs in
which holds come and go, the rows about users on hold are kept exactly when no
statement is applied to a row whose owner is on a hold that the check before
it has missed, nor to an audit entry about a user on hold. -/
theorem keepsHeldRows_along_iff (env : RetentionEnv) (auditEnv : AuditEnv)
    (store : HoldStore) (actions : List HoldAction) :
    StepSystem.Along (step (holdProgram env auditEnv))
        (KeepsHeldRows env auditEnv) (Pool.start store) actions ↔
      StepSystem.Along (step (holdProgram env auditEnv))
        (Meets MissesNoHold) (Pool.start store) actions := by
  have hinductive := holdInvariant_inductive env auditEnv
  refine StepSystem.along_iff _ holdInvariant.Holds ?_ ?_
    (Invariant.holds_start trivial)
  · intro pool action next hholds hstep
    exact hinductive.step hholds (meets_true pool action) hstep
  · exact fun pool action hholds => keepsHeldRows_iff hholds

namespace LegalHoldWitness

def auditEnv : AuditEnv where
  collation := .codePoint
  numbers := .ofTexts
  sha256Hex text := text

def user (id : String) : User where
  id := id
  status := .active
  deletedAt := none
  deletionRequestedAt := none
  deletionDueAt := none
  createdAt := 0

/-- What an administrator once did to a user, who is on hold now. -/
def entry : AuditLog where
  id := "log"
  actorUserId := some "admin"
  action := "user.suspended"
  resourceType := "user"
  resourceId := some "user"
  payload := .obj []
  prevHash := none
  entryHash := none
  integrityVersion := 0
  createdAt := .ofInstant 0

def hold : LegalHold where
  id := "hold"
  userId := "user"
  reason := "litigation"
  expiresAt := none
  createdAt := 1700000000000

def store : HoldStore where
  clock := 1777204800000
  users := ⟨[user "admin", user "user"], by decide⟩
  dependents := .empty
  tables :=
    { userSessions := .empty
      securityEvents := .empty
      auditLogs := ⟨[entry], by decide⟩
      legalHolds := ⟨[hold], by decide⟩ }

def input : HoldInput where
  fails := false
  host :=
    { scan := fun _ => .storage
      uuids := .longer
      clock := .ofInstant 1777204800000 }
  dueScan := .storage
  logId := "entry"

/-- The job is about to anonymize the entry. -/
def selected : List HoldAction :=
  [.spawn 0 (.runDataRetentionJob false none), .advance 0 input,
    .advance 0 input, .advance 0 input, .advance 0 input]

def program : Program HoldStore HoldThread HoldCall HoldInput HoldEvent :=
  holdProgram .default auditEnv

def pool : HoldPool :=
  StepSystem.after (step program) (Pool.start store) selected

theorem not_keepsHeldRows :
    ¬ ∀ (env : RetentionEnv) (auditEnv : AuditEnv) (store : HoldStore)
      (actions : List HoldAction),
      StepSystem.Along (step (holdProgram env auditEnv))
        (KeepsHeldRows env auditEnv) (Pool.start store) actions := by
  intro hclaim
  have halong := hclaim .default auditEnv store
    (selected ++ [.advance 0 input])
  have hrun : StepSystem.run (step program) (Pool.start store) selected =
      some pool := StepSystem.run_after _ (by decide)
  have hkeeps := (halong.rest _ hrun).1
  have hkept := hkeeps (StepSystem.after (step program) pool
    [.advance 0 input]) (by rfl)
  have hentry := hkept.auditLogs entry (by decide) (.inr (by decide))
  exact absurd hentry (by decide)

end LegalHoldWitness

end IdProvider
