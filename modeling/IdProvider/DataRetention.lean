/-
The data retention job: six select / apply loops over sessions, security
events and audit logs, each skipping the users under an active legal hold.
-/
import IdProvider.ChunkDrain
import IdProvider.Schema

namespace IdProvider

open JsonText KeyedTable ChunkDrain

/-- The retention settings, with the checks of the environment schema. -/
structure RetentionEnv where
  sessionAnonymizeDays : Nat
  sessionDeleteDays : Nat
  securityEventAnonymizeDays : Nat
  securityEventDeleteDays : Nat
  auditLogAnonymizeDays : Nat
  auditLogDeleteDays : Nat
  batchChunkSize : Nat
  session_days : sessionAnonymizeDays ≤ sessionDeleteDays
  securityEvent_days : securityEventAnonymizeDays ≤ securityEventDeleteDays
  auditLog_days : auditLogAnonymizeDays ≤ auditLogDeleteDays
  chunk_pos : 1 ≤ batchChunkSize

def RetentionEnv.default : RetentionEnv where
  sessionAnonymizeDays := 30
  sessionDeleteDays := 90
  securityEventAnonymizeDays := 90
  securityEventDeleteDays := 365
  auditLogAnonymizeDays := 365
  auditLogDeleteDays := 2555
  batchChunkSize := 500
  session_days := by decide
  securityEvent_days := by decide
  auditLog_days := by decide
  chunk_pos := by decide

structure RetentionDb where
  userSessions : Table UserSession
  securityEvents : Table SecurityEvent
  auditLogs : Table AuditLog
  legalHolds : Table LegalHold
  deriving DecidableEq

structure RetentionCount where
  anonymized : Nat
  deleted : Nat
  deriving DecidableEq

structure RetentionCounts where
  auditLogs : RetentionCount
  securityEvents : RetentionCount
  sessions : RetentionCount
  deriving DecidableEq

structure DataRetentionRunSummary where
  dryRun : Bool
  counts : RetentionCounts
  deriving DecidableEq

/-- The `Date` that many days before, an Invalid Date out of the range. -/
def subtractDays (base : Instant) (days : Nat) : Option Instant :=
  newDate (base - days * dayMillis)

/-- The date as the database reads it; none for a date that is refused. -/
def cutoff (now : Instant) (days : Nat) : Option Instant :=
  dateParameter (subtractDays now days)

/-- `lt(column, subtractDays(now, days))`.  A refused statement has no rows. -/
def pastDays (now : Instant) (days : Nat) (column : Timestamp) : Bool :=
  (cutoff now days).any column.before

theorem cutoff_eq_some {now date : Instant} {days : Nat}
    (hcutoff : cutoff now days = some date) :
    date = now - days * dayMillis := by
  rw [cutoff, dateParameter_eq_some, subtractDays, newDate] at hcutoff
  split at hcutoff
  case isTrue => exact (Option.some.inj hcutoff.1).symm
  case isFalse => cases hcutoff.1

theorem cutoff_anti {fewer more : Nat} {now earlier later : Instant}
    (hdays : fewer ≤ more) (hmore : cutoff now more = some earlier)
    (hfewer : cutoff now fewer = some later) : earlier ≤ later := by
  have hcast : (fewer : Int) * dayMillis ≤ more * dayMillis :=
    Int.mul_le_mul_of_nonneg_right (Int.ofNat_le.mpr hdays) (by decide)
  rw [cutoff_eq_some hmore, cutoff_eq_some hfewer]
  exact Int.sub_le_sub_left hcast now

/-- What is past more days is past fewer, where the database reads both
dates. -/
theorem pastDays_mono {fewer more : Nat} {now : Instant} {column : Timestamp}
    (hdays : fewer ≤ more) (hread : (cutoff now fewer).isSome = true)
    (hpast : pastDays now more column = true) :
    pastDays now fewer column = true := by
  obtain ⟨earlier, hmore, hbefore⟩ := Option.any_eq_true _ _ |>.mp hpast
  obtain ⟨later, hfewer⟩ := Option.isSome_iff_exists.mp hread
  rw [pastDays, hfewer]
  exact Timestamp.before_mono (cutoff_anti hdays hmore hfewer) hbefore

/-- `buildActiveLegalHoldPredicate`. -/
def activeLegalHold (now : Instant) (hold : LegalHold) : Bool :=
  match hold.expiresAt with
  | none => true
  | some expiresAt => decide (now < expiresAt)

/-- The join condition; a null owner equals no user id. -/
def holds (now : Instant) (owner : Option String) (hold : LegalHold) : Bool :=
  owner == some hold.userId && activeLegalHold now hold

def heldBy (now : Instant) (legalHolds : Table LegalHold)
    (owner : Option String) : Bool :=
  legalHolds.rows.any (holds now owner)

@[simp]
theorem heldBy_none (now : Instant) (legalHolds : Table LegalHold) :
    heldBy now legalHolds none = false := by
  simp [heldBy, holds]

/-- A table of the database as the statements address it. -/
structure RetentionTable (Row : Type) [Keyed Row String] where
  get : RetentionDb → Table Row
  set : RetentionDb → Table Row → RetentionDb
  get_set : ∀ db table, get (set db table) = table
  set_get : ∀ db, set db (get db) = db
  set_set : ∀ db first second, set (set db first) second = set db second
  legalHolds_set : ∀ db table, (set db table).legalHolds = db.legalHolds

def userSessionsTable : RetentionTable UserSession where
  get := RetentionDb.userSessions
  set db table := { db with userSessions := table }
  get_set _ _ := rfl
  set_get _ := rfl
  set_set _ _ _ := rfl
  legalHolds_set _ _ := rfl

def securityEventsTable : RetentionTable SecurityEvent where
  get := RetentionDb.securityEvents
  set db table := { db with securityEvents := table }
  get_set _ _ := rfl
  set_get _ := rfl
  set_set _ _ _ := rfl
  legalHolds_set _ _ := rfl

def auditLogsTable : RetentionTable AuditLog where
  get := RetentionDb.auditLogs
  set db table := { db with auditLogs := table }
  get_set _ _ := rfl
  set_get _ := rfl
  set_set _ _ _ := rfl
  legalHolds_set _ _ := rfl

/-- The parameters of one statement: the wire protocol counts them in 16
bits. -/
def maxBindParameters : Nat := 65535

/-- The greatest `bigint`, the type of a limit: `2 ^ 63 - 1`. -/
def maxBigint : Nat := 9223372036854775807

/-- What one `processIdsInChunks` call works on: its table, the column joined
with the legal holds, the days of its date, the rest of the `where` clause, and
the statement with its parameters other than the ids. -/
structure RetentionStatement (Row : Type) [Keyed Row String] where
  table : RetentionTable Row
  owner : Row → Option String
  days : Nat
  due : Row → Bool
  parameters : Nat
  processIds : RetentionDb → List String → RetentionDb

section Statement

variable {Row : Type} [Keyed Row String]

/-- `db.update(table).set(...).where(inArray(table.id, ids))`; each column that
is set takes a parameter, a null as well. -/
def RetentionStatement.anonymizing (table : RetentionTable Row)
    (owner : Row → Option String) (days : Nat) (due : Row → Bool)
    (columns : Nat) (set : Row → Row)
    (hkey : ∀ row, key (set row) = key row) : RetentionStatement Row where
  table := table
  owner := owner
  days := days
  due := due
  parameters := columns
  processIds db ids := table.set db
    ((table.get db).update (fun row => decide (key row ∈ ids)) set hkey)

/-- `db.delete(table).where(inArray(table.id, ids))`. -/
def RetentionStatement.deleting (table : RetentionTable Row)
    (owner : Row → Option String) (days : Nat) (due : Row → Bool) :
    RetentionStatement Row where
  table := table
  owner := owner
  days := days
  due := due
  parameters := 0
  processIds db ids := table.set db
    ((table.get db).delete fun row => decide (key row ∈ ids))

variable (statement : RetentionStatement Row) (now : Instant)

def RetentionStatement.matching (db : RetentionDb) : List Row :=
  ((leftJoin (statement.table.get db).rows db.legalHolds.rows
      fun row hold => holds now (statement.owner row) hold).filter
    fun joined => statement.due joined.1 && joined.2.isNone).map Prod.fst

def RetentionStatement.matchingIds (db : RetentionDb) : List String :=
  (statement.matching now db).map key

/-- The database reads both dates of the select, that of the statement and
that of the legal holds. -/
def RetentionStatement.readable : Bool :=
  (cutoff now statement.days).isSome && (dateParameter (some now)).isSome

/-- `none` for a select that is refused: for a date, or for its limit. -/
def RetentionStatement.selectIds (scan : ScanOrder String) (chunkSize : Nat)
    (round : Nat) (db : RetentionDb) : Option (List String) :=
  if statement.readable now && decide (chunkSize ≤ maxBigint) then
    some ((scan.pick round (statement.matchingIds now db)).take chunkSize)
  else none

/-- The ids that a statement has parameters for. -/
def RetentionStatement.room : Nat := maxBindParameters - statement.parameters

/-- `none` for a statement with too many parameters. -/
def RetentionStatement.applyIds (db : RetentionDb) (ids : List String) :
    Option (RetentionDb × Nat) :=
  if ids.length ≤ statement.room then
    some (statement.processIds db ids, ids.length)
  else none

def RetentionStatement.countAll (db : RetentionDb) : Nat :=
  (statement.matching now db).length

/-- The dry run only counts.  There is no result if a statement is refused,
and the job rejects, or if the fuel runs out. -/
def processIdsInChunks (dryRun : Bool) (scan : ScanOrder String)
    (chunkSize fuel : Nat) (db : RetentionDb) : Option (RetentionDb × Nat) :=
  if dryRun then
    if statement.readable now then some (db, statement.countAll now db)
    else none
  else
    drain (statement.selectIds now scan chunkSize) statement.applyIds fuel 0 0
      db

end Statement

section Statements

variable (env : RetentionEnv) (now : Instant)

def sessionsAnonymized : RetentionStatement UserSession :=
  .anonymizing userSessionsTable (fun row => some row.userId)
    env.sessionAnonymizeDays
    (fun row =>
      pastDays now env.sessionAnonymizeDays row.refreshExpiresAt &&
      (row.ipAddress.isSome || row.userAgent.isSome))
    2 (fun row => { row with ipAddress := none, userAgent := none })
    (fun _ => rfl)

def securityEventsAnonymized : RetentionStatement SecurityEvent :=
  .anonymizing securityEventsTable (fun row => row.userId)
    env.securityEventAnonymizeDays
    (fun row => pastDays now env.securityEventAnonymizeDays row.createdAt)
    2 (fun row => { row with userId := none, payload := .obj [] })
    (fun _ => rfl)

def auditLogsAnonymized : RetentionStatement AuditLog :=
  .anonymizing auditLogsTable (fun row => row.actorUserId)
    env.auditLogAnonymizeDays
    (fun row => pastDays now env.auditLogAnonymizeDays row.createdAt)
    3 (fun row =>
      { row with actorUserId := none, resourceId := none, payload := .obj [] })
    (fun _ => rfl)

def sessionsDeleted : RetentionStatement UserSession :=
  .deleting userSessionsTable (fun row => some row.userId)
    env.sessionDeleteDays
    (fun row => pastDays now env.sessionDeleteDays row.refreshExpiresAt)

def securityEventsDeleted : RetentionStatement SecurityEvent :=
  .deleting securityEventsTable (fun row => row.userId)
    env.securityEventDeleteDays
    (fun row => pastDays now env.securityEventDeleteDays row.createdAt)

def auditLogsDeleted : RetentionStatement AuditLog :=
  .deleting auditLogsTable (fun row => row.actorUserId)
    env.auditLogDeleteDays
    (fun row => pastDays now env.auditLogDeleteDays row.createdAt)

end Statements

/-- The six calls, in the order of the job. -/
inductive RetentionPhase where
  | sessionsAnonymized
  | securityEventsAnonymized
  | auditLogsAnonymized
  | sessionsDeleted
  | securityEventsDeleted
  | auditLogsDeleted
  deriving DecidableEq

/-- What the job takes from the database server. -/
structure RetentionHost where
  scan : RetentionPhase → ScanOrder String
  uuids : KeySource String
  clock : Timestamp

/-- The databases between the six calls, the last one, and the summary. -/
structure RetentionRun where
  sessionsAnonymized : RetentionDb
  securityEventsAnonymized : RetentionDb
  auditLogsAnonymized : RetentionDb
  sessionsDeleted : RetentionDb
  securityEventsDeleted : RetentionDb
  auditLogsDeleted : RetentionDb
  final : RetentionDb
  summary : DataRetentionRunSummary
  deriving DecidableEq

def RetentionCount.toJson (count : RetentionCount) : Json :=
  .obj [("anonymized", .num (Number.ofInt count.anonymized)),
    ("deleted", .num (Number.ofInt count.deleted))]

def DataRetentionRunSummary.toJson (summary : DataRetentionRunSummary) :
    Json :=
  .obj [("dryRun", .bool summary.dryRun),
    ("auditLogs", summary.counts.auditLogs.toJson),
    ("securityEvents", summary.counts.securityEvents.toJson),
    ("sessions", summary.counts.sessions.toJson)]

def retentionAuditLog (host : RetentionHost) (now : Instant)
    (summary : DataRetentionRunSummary) (id : String) : AuditLog where
  id := id
  actorUserId := none
  action := "system.retention.execute"
  resourceType := "retention_job"
  resourceId := none
  payload := .obj
    [("executedAt", .str (toISOString now)), ("summary", summary.toJson)]
  prevHash := none
  entryHash := none
  integrityVersion := 0
  createdAt := host.clock

def runDataRetentionJob (env : RetentionEnv) (host : RetentionHost)
    (dryRun : Bool) (now : Instant) (fuel : Nat) (db : RetentionDb) :
    Option RetentionRun := do
  let chunkSize := env.batchChunkSize
  let (db₁, sessionCount) ← processIdsInChunks (sessionsAnonymized env now)
    now dryRun (host.scan .sessionsAnonymized) chunkSize fuel db
  let (db₂, eventCount) ← processIdsInChunks (securityEventsAnonymized env now)
    now dryRun (host.scan .securityEventsAnonymized) chunkSize fuel db₁
  let (db₃, logCount) ← processIdsInChunks (auditLogsAnonymized env now)
    now dryRun (host.scan .auditLogsAnonymized) chunkSize fuel db₂
  let (db₄, sessionDeleted) ← processIdsInChunks (sessionsDeleted env now)
    now dryRun (host.scan .sessionsDeleted) chunkSize fuel db₃
  let (db₅, eventDeleted) ← processIdsInChunks (securityEventsDeleted env now)
    now dryRun (host.scan .securityEventsDeleted) chunkSize fuel db₄
  let (db₆, logDeleted) ← processIdsInChunks (auditLogsDeleted env now)
    now dryRun (host.scan .auditLogsDeleted) chunkSize fuel db₅
  let summary : DataRetentionRunSummary :=
    { dryRun := dryRun
      counts :=
        { auditLogs := ⟨logCount, logDeleted⟩
          securityEvents := ⟨eventCount, eventDeleted⟩
          sessions := ⟨sessionCount, sessionDeleted⟩ } }
  let final := if dryRun then db₆
    else
      { db₆ with
        auditLogs := db₆.auditLogs.insertFresh host.uuids
          (retentionAuditLog host now summary) (fun _ => rfl) }
  return ⟨db₁, db₂, db₃, db₄, db₅, db₆, final, summary⟩

end IdProvider
