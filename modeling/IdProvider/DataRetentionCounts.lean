/-
When the data retention job ends, and what its counters then say.
-/
import IdProvider.DataRetention

namespace IdProvider

open JsonText KeyedTable ChunkDrain

section Matching

variable {Row : Type} [Keyed Row String]
variable (statement : RetentionStatement Row) (now : Instant)

def RetentionStatement.wants (db : RetentionDb) (row : Row) : Bool :=
  statement.due row && !heldBy now db.legalHolds (statement.owner row)

theorem RetentionStatement.matching_eq (db : RetentionDb) :
    statement.matching now db =
      (statement.table.get db).select (statement.wants now db) :=
  leftJoin_unmatched _ _ _ _

theorem RetentionStatement.wants_set (db : RetentionDb) (table : Table Row) :
    statement.wants now (statement.table.set db table) =
      statement.wants now db := by
  funext row
  simp only [RetentionStatement.wants, statement.table.legalHolds_set]

theorem RetentionStatement.matchingIds_set (db : RetentionDb)
    (table : Table Row) :
    statement.matchingIds now (statement.table.set db table) =
      (table.rows.filter (statement.wants now db)).map key := by
  rw [RetentionStatement.matchingIds, statement.matching_eq,
    statement.wants_set, statement.table.get_set, Table.select]

theorem RetentionStatement.matchingIds_congr {before after : RetentionDb}
    (htable : statement.table.get after = statement.table.get before)
    (hholds : after.legalHolds = before.legalHolds) :
    statement.matchingIds now after = statement.matchingIds now before := by
  simp only [RetentionStatement.matchingIds, RetentionStatement.matching,
    htable, hholds]

theorem RetentionStatement.matchingIds_eq_nil {db : RetentionDb} :
    statement.matchingIds now db = [] ↔
      ∀ row ∈ statement.table.get db, statement.wants now db row = false := by
  rw [RetentionStatement.matchingIds, statement.matching_eq,
    List.map_eq_nil_iff, Table.select, List.filter_eq_nil_iff]
  simp

theorem RetentionStatement.matchingIds_nodup (db : RetentionDb) :
    (statement.matchingIds now db).Nodup := by
  rw [RetentionStatement.matchingIds, statement.matching_eq]
  exact (statement.table.get db).nodup.sublist (List.filter_sublist.map key)

theorem RetentionStatement.countAll_eq (db : RetentionDb) :
    statement.countAll now db = (statement.matchingIds now db).length := by
  simp [RetentionStatement.countAll, RetentionStatement.matchingIds]

theorem RetentionStatement.countAll_of_nil {db : RetentionDb}
    (hnil : statement.matchingIds now db = []) :
    statement.countAll now db = 0 := by
  rw [statement.countAll_eq, hnil, List.length_nil]

theorem RetentionStatement.countAll_eq_select (db : RetentionDb) :
    statement.countAll now db =
      ((statement.table.get db).select (statement.wants now db)).length := by
  rw [RetentionStatement.countAll, statement.matching_eq]

/-- A statement that is not refused has done its work. -/
theorem applyIds_eq_some {statement : RetentionStatement Row}
    {db after : RetentionDb} {ids : List String} {count : Nat}
    (happly : statement.applyIds db ids = some (after, count)) :
    after = statement.processIds db ids := by
  rw [RetentionStatement.applyIds] at happly
  split at happly
  case isTrue => exact (congrArg Prod.fst (Option.some.inj happly)).symm
  case isFalse => cases happly

/-- Rows picked by id are the matching rows. -/
theorem RetentionStatement.select_mem_ids {db : RetentionDb}
    {ids : List String} (hids : ids.Perm (statement.matchingIds now db)) :
    (statement.table.get db).select (fun row => decide (key row ∈ ids)) =
      statement.matching now db := by
  rw [statement.matching_eq]
  apply List.filter_congr
  intro row hrow
  have hmem : key row ∈ ids ↔ statement.wants now db row = true := by
    rw [hids.mem_iff, RetentionStatement.matchingIds, statement.matching_eq,
      List.mem_map]
    constructor
    · rintro ⟨other, hother, hkey⟩
      rw [Table.mem_select] at hother
      rw [← (statement.table.get db).eq_of_key_eq hother.1 hrow hkey]
      exact hother.2
    · intro hwants
      exact ⟨row, Table.mem_select.mpr ⟨hrow, hwants⟩, rfl⟩
  rw [Bool.eq_iff_iff]
  simpa using hmem

end Matching

section Loops

variable {Row : Type} [Keyed Row String] (table : RetentionTable Row)
variable (owner : Row → Option String) (days : Nat) (due : Row → Bool)
variable (now : Instant)

def deletingSweep : Sweep RetentionDb String where
  pending := (RetentionStatement.deleting table owner days due).matchingIds now
  touch := (RetentionStatement.deleting table owner days due).processIds
  nodup := RetentionStatement.matchingIds_nodup _ now
  pending_touch db ids := by
    refine (RetentionStatement.matchingIds_set _ now db _).trans ?_
    rw [RetentionStatement.matchingIds, RetentionStatement.matching_eq,
      Table.select, List.filter_map, List.filter_filter, Table.delete,
      List.filter_filter]
    congr 1
    apply List.filter_congr
    intro row _
    simp [Bool.and_comm]
  touch_nil db := by
    simp only [RetentionStatement.deleting, Table.delete_nil, table.set_get]
  touch_append db first second := by
    simp only [RetentionStatement.deleting, table.get_set, table.set_set,
      Table.delete_append]

variable (columns : Nat) (set : Row → Row)
variable (hkey : ∀ row, key (set row) = key row)

/-- An update that makes its rows stop matching. -/
def anonymizingSweep (hdue : ∀ row, due (set row) = false)
    (hset : ∀ row, set (set row) = set row) : Sweep RetentionDb String where
  pending :=
    (RetentionStatement.anonymizing table owner days due columns set
      hkey).matchingIds now
  touch :=
    (RetentionStatement.anonymizing table owner days due columns set
      hkey).processIds
  nodup := RetentionStatement.matchingIds_nodup _ now
  pending_touch db ids := by
    refine (RetentionStatement.matchingIds_set _ now db _).trans ?_
    rw [RetentionStatement.matchingIds, RetentionStatement.matching_eq,
      Table.select, List.filter_map, List.filter_filter, Table.update,
      List.filter_map, List.map_map]
    have hkeys : (key ∘ fun row =>
        if decide (key row ∈ ids) = true then set row else row) =
        (key : Row → String) := by
      funext row
      by_cases hmem : key row ∈ ids <;> simp [hmem, hkey]
    rw [hkeys]
    congr 1
    apply List.filter_congr
    intro row _
    by_cases hmem : key row ∈ ids <;>
      simp [hmem, hdue, RetentionStatement.wants,
        RetentionStatement.anonymizing]
  touch_nil db := by
    simp only [RetentionStatement.anonymizing, Table.update_nil,
      table.set_get]
  touch_append db first second := by
    simp only [RetentionStatement.anonymizing, table.get_set, table.set_set,
      Table.update_append _ hset]

/-- An update that leaves its rows matching and releases them from any hold
keeps the loop going until a statement is refused, if ever. -/
theorem anonymizing_diverges (hdue : ∀ row, due (set row) = due row)
    (howner : ∀ row, owner (set row) = none)
    (scan : ScanOrder String) {chunkSize : Nat} (hchunk : 1 ≤ chunkSize)
    (fuel : Nat) {db : RetentionDb}
    (hmatching : RetentionStatement.matchingIds
      (.anonymizing table owner days due columns set hkey) now db ≠ []) :
    processIdsInChunks (.anonymizing table owner days due columns set hkey)
      now false scan chunkSize fuel db = none := by
  apply drain_diverges fun db => RetentionStatement.matchingIds
    (.anonymizing table owner days due columns set hkey) now db ≠ []
  · intro round db hdb hselect
    rw [RetentionStatement.selectIds] at hselect
    split at hselect
    case isTrue =>
      exact hdb ((scan.take_pick_eq_nil hchunk).mp (Option.some.inj hselect))
    case isFalse => cases hselect
  · intro db ids after count hdb happly hnil
    obtain rfl := applyIds_eq_some happly
    apply hdb
    rw [RetentionStatement.matchingIds_eq_nil] at hnil ⊢
    intro row hrow
    have hafter := hnil
      (if decide (key row ∈ ids) = true then set row else row)
    simp only [RetentionStatement.anonymizing, table.get_set,
      RetentionStatement.wants, table.legalHolds_set] at hafter ⊢
    have hmem := hafter (Table.mem_update.mpr ⟨row, hrow, rfl⟩)
    by_cases hids : key row ∈ ids
    · simp only [hids, decide_true, if_true, hdue, howner, heldBy_none,
        Bool.not_false, Bool.and_true] at hmem
      simp [hmem]
    · simpa [hids] using hmem
  · exact hmatching

end Loops

section Runs

variable {Row : Type} [Keyed Row String]
variable (statement : RetentionStatement Row) (now : Instant)

/-- What no statement of the loop writes, the loop leaves alone. -/
theorem processIdsInChunks_frame {Part : Type} (part : RetentionDb → Part)
    (hpart : ∀ db ids, part (statement.processIds db ids) = part db)
    {dryRun : Bool} {scan : ScanOrder String} {chunkSize fuel : Nat}
    {db : RetentionDb} {result : RetentionDb × Nat}
    (hrun : processIdsInChunks statement now dryRun scan chunkSize fuel db =
      some result) :
    part result.1 = part db := by
  cases dryRun with
  | true =>
      rw [processIdsInChunks, if_pos rfl] at hrun
      split at hrun
      case isTrue =>
          cases hrun
          rfl
      case isFalse => cases hrun
  | false =>
      apply drain_invariant (fun state => part state = part db) _ rfl hrun
      intro state ids after count hstate happly
      rw [applyIds_eq_some happly, hpart, hstate]

/-- A call that ends has had its selects accepted. -/
theorem readable_of_processIdsInChunks {dryRun : Bool}
    {scan : ScanOrder String} {chunkSize fuel : Nat} {db : RetentionDb}
    {result : RetentionDb × Nat}
    (hrun : processIdsInChunks statement now dryRun scan chunkSize fuel db =
      some result) :
    statement.readable now = true ∧
      (dryRun = false → chunkSize ≤ maxBigint) := by
  cases dryRun with
  | true =>
      rw [processIdsInChunks, if_pos rfl] at hrun
      split at hrun
      case isTrue hreadable => exact ⟨hreadable, nofun⟩
      case isFalse => cases hrun
  | false =>
      by_cases haccepted : statement.readable now = true ∧
          chunkSize ≤ maxBigint
      · exact ⟨haccepted.1, fun _ => haccepted.2⟩
      · rw [processIdsInChunks, if_neg Bool.false_ne_true,
          drain_of_select_eq_none] at hrun
        · cases hrun
        · apply if_neg
          simpa [not_and] using haccepted

variable {statement now}

theorem processIdsInChunks_dry (hreadable : statement.readable now = true)
    {scan : ScanOrder String} {chunkSize fuel : Nat} {db : RetentionDb} :
    processIdsInChunks statement now true scan chunkSize fuel db =
      some (db, statement.countAll now db) :=
  if_pos hreadable

/-- The selects that are not refused. -/
theorem selectIds_of_readable (hreadable : statement.readable now = true)
    {chunkSize : Nat} (hlimit : chunkSize ≤ maxBigint)
    (scan : ScanOrder String) (round : Nat) (db : RetentionDb) :
    statement.selectIds now scan chunkSize round db =
      some ((scan.pick round (statement.matchingIds now db)).take
        chunkSize) := by
  apply if_pos
  rw [hreadable, Bool.true_and, decide_eq_true_iff]
  exact hlimit

theorem processIdsInChunks_nothing (hreadable : statement.readable now = true)
    {scan : ScanOrder String} {chunkSize : Nat} (hchunk : 1 ≤ chunkSize)
    (hlimit : chunkSize ≤ maxBigint) (fuel : Nat) {db : RetentionDb}
    (hnothing : statement.matchingIds now db = []) :
    processIdsInChunks statement now false scan chunkSize (fuel + 1) db =
      some (db, 0) := by
  apply drain_of_select_eq_nil
  rw [selectIds_of_readable hreadable hlimit]
  exact congrArg some ((scan.take_pick_eq_nil hchunk).mpr hnothing)

section Sweeps

variable (sweep : Sweep RetentionDb String)
variable (hpending : sweep.pending = statement.matchingIds now)
variable (htouch : sweep.touch = statement.processIds)

include hpending htouch

/-- The loop of a statement that is a sweep. -/
theorem processIdsInChunks_eq_drain
    (hreadable : statement.readable now = true) (scan : ScanOrder String)
    {chunkSize : Nat} (hlimit : chunkSize ≤ maxBigint) (fuel : Nat)
    (db : RetentionDb) :
    processIdsInChunks statement now false scan chunkSize fuel db =
      drain (fun round state => some (sweep.select scan chunkSize round state))
        (sweep.apply statement.room) fuel 0 0 db := by
  have hselect : statement.selectIds now scan chunkSize =
      fun round state => some (sweep.select scan chunkSize round state) := by
    funext round state
    rw [selectIds_of_readable hreadable hlimit, Sweep.select, hpending]
  have happly : statement.applyIds = sweep.apply statement.room := by
    funext state ids
    rw [RetentionStatement.applyIds, Sweep.apply, htouch]
  rw [processIdsInChunks, if_neg Bool.false_ne_true, hselect, happly]

/-- A loop whose statement is a sweep runs it once over all matching rows. -/
theorem processIdsInChunks_sweep (hreadable : statement.readable now = true)
    (scan : ScanOrder String) {chunkSize fuel : Nat} (hchunk : 1 ≤ chunkSize)
    (hlimit : chunkSize ≤ maxBigint) {db : RetentionDb}
    (hroom : min chunkSize (statement.countAll now db) ≤ statement.room)
    (hfuel : statement.countAll now db < fuel) :
    ∃ ids, ids.Perm (statement.matchingIds now db) ∧
      processIdsInChunks statement now false scan chunkSize fuel db =
        some (statement.processIds db ids, statement.countAll now db) := by
  rw [statement.countAll_eq, ← hpending] at hroom
  obtain ⟨ids, hids, hdrain⟩ := sweep.drain_eq scan hchunk 0 0 db hroom
  rw [hpending, Nat.zero_add, ← statement.countAll_eq, htouch] at hdrain
  refine ⟨ids, by rwa [hpending] at hids, ?_⟩
  rw [processIdsInChunks_eq_drain sweep hpending htouch hreadable scan hlimit]
  exact drain_mono hfuel hdrain

/-- A loop that ends has had room for its first chunk. -/
theorem room_of_processIdsInChunks {scan : ScanOrder String}
    {chunkSize fuel : Nat} {db : RetentionDb} {result : RetentionDb × Nat}
    (hrun : processIdsInChunks statement now false scan chunkSize fuel db =
      some result) :
    min chunkSize (statement.countAll now db) ≤ statement.room := by
  obtain ⟨hreadable, hlimit⟩ := readable_of_processIdsInChunks _ _ hrun
  by_contra hroom
  rw [Nat.not_le, statement.countAll_eq, ← hpending] at hroom
  rw [processIdsInChunks_eq_drain sweep hpending htouch hreadable scan
    (hlimit rfl), sweep.drain_eq_none scan fuel 0 0 hroom] at hrun
  cases hrun

end Sweeps

end Runs

section Changed

variable {Row : Type} [Keyed Row String]
variable (table : RetentionTable Row) (owner : Row → Option String)
variable (days : Nat) (due : Row → Bool) (now : Instant)

theorem deleting_get (db : RetentionDb) (ids : List String) :
    table.get
        ((RetentionStatement.deleting table owner days due).processIds db ids) =
      (table.get db).delete fun row => decide (key row ∈ ids) :=
  table.get_set _ _

theorem deleting_changed [DecidableEq Row] {db : RetentionDb}
    {ids : List String} (hids : ids.Perm
      (RetentionStatement.matchingIds (.deleting table owner days due) now
        db)) :
    ((table.get db).changed (table.get
        ((RetentionStatement.deleting table owner days due).processIds db
          ids))).length =
      RetentionStatement.countAll (.deleting table owner days due) now db := by
  rw [deleting_get, Table.changed_delete, RetentionStatement.countAll,
    ← RetentionStatement.select_mem_ids _ now hids]
  rfl

variable (columns : Nat) (set : Row → Row)
variable (hkey : ∀ row, key (set row) = key row)

theorem anonymizing_get (db : RetentionDb) (ids : List String) :
    table.get ((RetentionStatement.anonymizing table owner days due
        columns set hkey).processIds db ids) =
      (table.get db).update (fun row => decide (key row ∈ ids)) set hkey :=
  table.get_set _ _

theorem anonymizing_changed [DecidableEq Row]
    (hset : ∀ row, due row = true → set row ≠ row)
    {db : RetentionDb} {ids : List String}
    (hids : ids.Perm (RetentionStatement.matchingIds
      (.anonymizing table owner days due columns set hkey) now db)) :
    ((table.get db).changed (table.get
        ((RetentionStatement.anonymizing table owner days due columns set
          hkey).processIds db ids))).length =
      RetentionStatement.countAll
        (.anonymizing table owner days due columns set hkey) now db := by
  have hselect := RetentionStatement.select_mem_ids _ now hids
  have hdue : ∀ row ∈ table.get db, decide (key row ∈ ids) = true →
      set row ≠ row := by
    intro row hrow hmem
    apply hset
    have hmatching : row ∈ RetentionStatement.matching
        (.anonymizing table owner days due columns set hkey) now db := by
      rw [← hselect]
      exact Table.mem_select.mpr ⟨hrow, hmem⟩
    rw [RetentionStatement.matching_eq, Table.mem_select,
      RetentionStatement.wants, Bool.and_eq_true] at hmatching
    exact hmatching.2.1
  rw [anonymizing_get, Table.changed_update _ hkey hdue,
    RetentionStatement.countAll, ← hselect]
  rfl

/-- An update of other columns leaves the count of a later statement on the
same table alone. -/
theorem countAll_anonymizing (laterDays : Nat) (later : Row → Bool)
    (howner : ∀ row, owner (set row) = owner row)
    (hlater : ∀ row, later (set row) = later row)
    (db : RetentionDb) (ids : List String) :
    RetentionStatement.countAll (.deleting table owner laterDays later) now
        ((RetentionStatement.anonymizing table owner days due columns set
          hkey).processIds db ids) =
      RetentionStatement.countAll (.deleting table owner laterDays later) now
        db := by
  rw [RetentionStatement.countAll_eq, RetentionStatement.countAll_eq]
  have hset := RetentionStatement.matchingIds_set
    (.deleting table owner laterDays later) now db
    ((table.get db).update (fun row => decide (key row ∈ ids)) set hkey)
  rw [RetentionStatement.anonymizing]
  refine (congrArg List.length hset).trans ?_
  rw [RetentionStatement.matchingIds, RetentionStatement.matching_eq,
    List.length_map, List.length_map, Table.select, Table.update,
    List.filter_map, List.length_map]
  congr 1
  apply List.filter_congr
  intro row _
  by_cases hmem : key row ∈ ids <;>
    simp [hmem, RetentionStatement.wants, RetentionStatement.deleting, howner,
      hlater]

end Changed

/-- The rows each of the six calls changed. -/
def RetentionRun.changed (run : RetentionRun) (db : RetentionDb) :
    RetentionCounts where
  sessions :=
    ⟨(db.userSessions.changed run.sessionsAnonymized.userSessions).length,
      (run.auditLogsAnonymized.userSessions.changed
        run.sessionsDeleted.userSessions).length⟩
  securityEvents :=
    ⟨(run.sessionsAnonymized.securityEvents.changed
        run.securityEventsAnonymized.securityEvents).length,
      (run.sessionsDeleted.securityEvents.changed
        run.securityEventsDeleted.securityEvents).length⟩
  auditLogs :=
    ⟨(run.securityEventsAnonymized.auditLogs.changed
        run.auditLogsAnonymized.auditLogs).length,
      (run.securityEventsDeleted.auditLogs.changed
        run.auditLogsDeleted.auditLogs).length⟩

/-- The job ends, and its counters are the rows it changed and the counters
of a dry run. -/
def RetentionContract (env : RetentionEnv) (host : RetentionHost)
    (now : Instant) (db : RetentionDb) : Prop :=
  ∃ fuel run dry,
    runDataRetentionJob env host false now fuel db = some run ∧
    runDataRetentionJob env host true now fuel db = some dry ∧
    run.summary.counts = run.changed db ∧
    run.summary.counts = dry.summary.counts

/-- Every security event and audit log past its anonymization age belongs to
a user under an active legal hold. -/
structure NothingToAnonymize (env : RetentionEnv) (now : Instant)
    (db : RetentionDb) : Prop where
  securityEvents : ∀ event ∈ db.securityEvents,
    pastDays now env.securityEventAnonymizeDays event.createdAt = true →
      heldBy now db.legalHolds event.userId = true
  auditLogs : ∀ log ∈ db.auditLogs,
    pastDays now env.auditLogAnonymizeDays log.createdAt = true →
      heldBy now db.legalHolds log.actorUserId = true

def RetentionEnv.days (env : RetentionEnv) : List Nat :=
  [env.sessionAnonymizeDays, env.securityEventAnonymizeDays,
    env.auditLogAnonymizeDays, env.sessionDeleteDays,
    env.securityEventDeleteDays, env.auditLogDeleteDays]

/-- What the configuration, the time and the sessions must be like for the
database to take the statements: it reads every date, the chunk size is a
limit, and the first chunks of the two session loops leave room for their
other parameters. -/
structure StatementsAccepted (env : RetentionEnv) (now : Instant)
    (db : RetentionDb) : Prop where
  reads_now : (dateParameter (some now)).isSome = true
  reads_days : ∀ days ∈ env.days, (cutoff now days).isSome = true
  takes_limit : env.batchChunkSize ≤ maxBigint
  room_anonymized :
    min env.batchChunkSize (db.userSessions.select
        ((sessionsAnonymized env now).wants now db)).length ≤
      maxBindParameters - 2
  room_deleted :
    min env.batchChunkSize (db.userSessions.select
        ((sessionsDeleted env now).wants now db)).length ≤
      maxBindParameters

section Job

variable (env : RetentionEnv) (host : RetentionHost) (now : Instant)
variable (db : RetentionDb)

theorem nothingToAnonymize_iff :
    NothingToAnonymize env now db ↔
      (securityEventsAnonymized env now).matchingIds now db = [] ∧
        (auditLogsAnonymized env now).matchingIds now db = [] := by
  rw [RetentionStatement.matchingIds_eq_nil,
    RetentionStatement.matchingIds_eq_nil]
  constructor
  · intro hnothing
    constructor
    · intro event hevent
      have hheld := hnothing.securityEvents event hevent
      simpa [RetentionStatement.wants, securityEventsAnonymized,
        RetentionStatement.anonymizing] using hheld
    · intro log hlog
      have hheld := hnothing.auditLogs log hlog
      simpa [RetentionStatement.wants, auditLogsAnonymized,
        RetentionStatement.anonymizing] using hheld
  · rintro ⟨hevents, hlogs⟩
    constructor
    · intro event hevent
      have hwants := hevents event hevent
      simpa [RetentionStatement.wants, securityEventsAnonymized,
        RetentionStatement.anonymizing] using hwants
    · intro log hlog
      have hwants := hlogs log hlog
      simpa [RetentionStatement.wants, auditLogsAnonymized,
        RetentionStatement.anonymizing] using hwants

/-- A row old enough to delete is old enough to anonymize. -/
theorem deleted_matchingIds_eq_nil
    (hevents : (cutoff now env.securityEventAnonymizeDays).isSome = true)
    (hlogs : (cutoff now env.auditLogAnonymizeDays).isSome = true)
    (hnothing : NothingToAnonymize env now db) :
    (securityEventsDeleted env now).matchingIds now db = [] ∧
      (auditLogsDeleted env now).matchingIds now db = [] := by
  rw [RetentionStatement.matchingIds_eq_nil,
    RetentionStatement.matchingIds_eq_nil]
  constructor
  · intro event hevent
    have hheld := hnothing.securityEvents event hevent
    simp only [RetentionStatement.wants, securityEventsDeleted,
      RetentionStatement.deleting, Bool.and_eq_false_iff, Bool.not_eq_false']
    by_cases hdue : pastDays now env.securityEventDeleteDays
        event.createdAt = true
    · exact Or.inr
        (hheld (pastDays_mono env.securityEvent_days hevents hdue))
    · exact Or.inl (Bool.eq_false_iff.mpr hdue)
  · intro log hlog
    have hheld := hnothing.auditLogs log hlog
    simp only [RetentionStatement.wants, auditLogsDeleted,
      RetentionStatement.deleting, Bool.and_eq_false_iff, Bool.not_eq_false']
    by_cases hdue : pastDays now env.auditLogDeleteDays log.createdAt = true
    · exact Or.inr (hheld (pastDays_mono env.auditLog_days hlogs hdue))
    · exact Or.inl (Bool.eq_false_iff.mpr hdue)

theorem key_withoutClient (row : UserSession) :
    key { row with ipAddress := none, userAgent := none } = key row := rfl

/-- The update nulls the two columns its selection asks for. -/
def sessionsAnonymizedSweep : Sweep RetentionDb String :=
  anonymizingSweep userSessionsTable (sessionsAnonymized env now).owner
    env.sessionAnonymizeDays (sessionsAnonymized env now).due now 2
    (fun row => { row with ipAddress := none, userAgent := none })
    key_withoutClient
    (fun row => by simp [sessionsAnonymized, RetentionStatement.anonymizing])
    (fun _ => rfl)

def sessionsDeletedSweep : Sweep RetentionDb String :=
  deletingSweep userSessionsTable (sessionsDeleted env now).owner
    env.sessionDeleteDays (sessionsDeleted env now).due now

theorem sessionsAnonymized_run
    (hreadable : (sessionsAnonymized env now).readable now = true)
    (hlimit : env.batchChunkSize ≤ maxBigint) (scan : ScanOrder String)
    (hroom : min env.batchChunkSize
      ((sessionsAnonymized env now).countAll now db) ≤ maxBindParameters - 2)
    {fuel : Nat} (hfuel : (sessionsAnonymized env now).countAll now db < fuel) :
    ∃ ids, ids.Perm ((sessionsAnonymized env now).matchingIds now db) ∧
      processIdsInChunks (sessionsAnonymized env now) now false scan
          env.batchChunkSize fuel db =
        some ((sessionsAnonymized env now).processIds db ids,
          (sessionsAnonymized env now).countAll now db) :=
  processIdsInChunks_sweep (sessionsAnonymizedSweep env now) rfl rfl hreadable
    scan env.chunk_pos hlimit hroom hfuel

theorem sessionsDeleted_run
    (hreadable : (sessionsDeleted env now).readable now = true)
    (hlimit : env.batchChunkSize ≤ maxBigint) (scan : ScanOrder String)
    (hroom : min env.batchChunkSize
      ((sessionsDeleted env now).countAll now db) ≤ maxBindParameters)
    {fuel : Nat} (hfuel : (sessionsDeleted env now).countAll now db < fuel) :
    ∃ ids, ids.Perm ((sessionsDeleted env now).matchingIds now db) ∧
      processIdsInChunks (sessionsDeleted env now) now false scan
          env.batchChunkSize fuel db =
        some ((sessionsDeleted env now).processIds db ids,
          (sessionsDeleted env now).countAll now db) :=
  processIdsInChunks_sweep (sessionsDeletedSweep env now) rfl rfl hreadable
    scan env.chunk_pos hlimit hroom hfuel

theorem sessionsAnonymized_changed {ids : List String}
    (hids : ids.Perm ((sessionsAnonymized env now).matchingIds now db)) :
    (db.userSessions.changed
        ((sessionsAnonymized env now).processIds db ids).userSessions).length =
      (sessionsAnonymized env now).countAll now db := by
  apply anonymizing_changed userSessionsTable _ _ _ now _ _ _ _ hids
  intro row hdue heq
  have hip := congrArg UserSession.ipAddress heq
  have hagent := congrArg UserSession.userAgent heq
  simp [← hip, ← hagent] at hdue

theorem sessionsDeleted_changed {ids : List String}
    (hids : ids.Perm ((sessionsDeleted env now).matchingIds now db)) :
    (db.userSessions.changed
        ((sessionsDeleted env now).processIds db ids).userSessions).length =
      (sessionsDeleted env now).countAll now db :=
  deleting_changed userSessionsTable _ _ _ now hids

theorem sessionsDeleted_countAll (ids : List String) :
    (sessionsDeleted env now).countAll now
        ((sessionsAnonymized env now).processIds db ids) =
      (sessionsDeleted env now).countAll now db :=
  countAll_anonymizing userSessionsTable (sessionsAnonymized env now).owner
    env.sessionAnonymizeDays (sessionsAnonymized env now).due now 2
    (fun row => { row with ipAddress := none, userAgent := none })
    (fun _ => rfl) env.sessionDeleteDays (sessionsDeleted env now).due
    (fun _ => rfl) (fun _ => rfl) db ids

/-- The six calls compose. -/
theorem runDataRetentionJob_of_phases {dryRun : Bool} {fuel : Nat}
    {db₁ db₂ db₃ db₄ db₅ db₆ : RetentionDb} {n₁ n₂ n₃ n₄ n₅ n₆ : Nat}
    (hrun₁ : processIdsInChunks (sessionsAnonymized env now) now dryRun
      (host.scan .sessionsAnonymized) env.batchChunkSize fuel db =
        some (db₁, n₁))
    (hrun₂ : processIdsInChunks (securityEventsAnonymized env now) now dryRun
      (host.scan .securityEventsAnonymized) env.batchChunkSize fuel db₁ =
        some (db₂, n₂))
    (hrun₃ : processIdsInChunks (auditLogsAnonymized env now) now dryRun
      (host.scan .auditLogsAnonymized) env.batchChunkSize fuel db₂ =
        some (db₃, n₃))
    (hrun₄ : processIdsInChunks (sessionsDeleted env now) now dryRun
      (host.scan .sessionsDeleted) env.batchChunkSize fuel db₃ =
        some (db₄, n₄))
    (hrun₅ : processIdsInChunks (securityEventsDeleted env now) now dryRun
      (host.scan .securityEventsDeleted) env.batchChunkSize fuel db₄ =
        some (db₅, n₅))
    (hrun₆ : processIdsInChunks (auditLogsDeleted env now) now dryRun
      (host.scan .auditLogsDeleted) env.batchChunkSize fuel db₅ =
        some (db₆, n₆)) :
    ∃ final, runDataRetentionJob env host dryRun now fuel db =
      some ⟨db₁, db₂, db₃, db₄, db₅, db₆, final,
        ⟨dryRun, ⟨⟨n₃, n₆⟩, ⟨n₂, n₅⟩, ⟨n₁, n₄⟩⟩⟩⟩ := by
  simp [runDataRetentionJob, hrun₁, hrun₂, hrun₃, hrun₄, hrun₅, hrun₆]

/-- The database reads the dates of all six statements. -/
structure AllReadable : Prop where
  sessionsAnonymized : (sessionsAnonymized env now).readable now = true
  securityEventsAnonymized :
    (securityEventsAnonymized env now).readable now = true
  auditLogsAnonymized : (auditLogsAnonymized env now).readable now = true
  sessionsDeleted : (sessionsDeleted env now).readable now = true
  securityEventsDeleted : (securityEventsDeleted env now).readable now = true
  auditLogsDeleted : (auditLogsDeleted env now).readable now = true

theorem allReadable_iff :
    AllReadable env now ↔
      (dateParameter (some now)).isSome = true ∧
        ∀ days ∈ env.days, (cutoff now days).isSome = true := by
  simp only [RetentionEnv.days, List.forall_mem_cons]
  constructor
  · rintro ⟨h₁, h₂, h₃, h₄, h₅, h₆⟩
    simp only [RetentionStatement.readable, Bool.and_eq_true]
      at h₁ h₂ h₃ h₄ h₅ h₆
    exact ⟨h₁.2, h₁.1, h₂.1, h₃.1, h₄.1, h₅.1, h₆.1, nofun⟩
  · rintro ⟨hnow, h₁, h₂, h₃, h₄, h₅, h₆, -⟩
    exact
      { sessionsAnonymized := Bool.and_eq_true_iff.mpr ⟨h₁, hnow⟩
        securityEventsAnonymized := Bool.and_eq_true_iff.mpr ⟨h₂, hnow⟩
        auditLogsAnonymized := Bool.and_eq_true_iff.mpr ⟨h₃, hnow⟩
        sessionsDeleted := Bool.and_eq_true_iff.mpr ⟨h₄, hnow⟩
        securityEventsDeleted := Bool.and_eq_true_iff.mpr ⟨h₅, hnow⟩
        auditLogsDeleted := Bool.and_eq_true_iff.mpr ⟨h₆, hnow⟩ }

/-- A dry run counts in one query per call. -/
theorem runDataRetentionJob_dry (hreadable : AllReadable env now)
    (fuel : Nat) :
    ∃ dry, runDataRetentionJob env host true now fuel db = some dry ∧
      dry.summary.counts =
        ⟨⟨(auditLogsAnonymized env now).countAll now db,
            (auditLogsDeleted env now).countAll now db⟩,
          ⟨(securityEventsAnonymized env now).countAll now db,
            (securityEventsDeleted env now).countAll now db⟩,
          ⟨(sessionsAnonymized env now).countAll now db,
            (sessionsDeleted env now).countAll now db⟩⟩ := by
  obtain ⟨final, hdry⟩ := runDataRetentionJob_of_phases env host now db
    (processIdsInChunks_dry hreadable.sessionsAnonymized)
    (processIdsInChunks_dry hreadable.securityEventsAnonymized)
    (processIdsInChunks_dry hreadable.auditLogsAnonymized)
    (processIdsInChunks_dry hreadable.sessionsDeleted)
    (processIdsInChunks_dry hreadable.securityEventsDeleted)
    (processIdsInChunks_dry hreadable.auditLogsDeleted)
  exact ⟨_, hdry, rfl⟩

/-- With nothing to anonymize only the session loops have work to do. -/
theorem retentionContract_of_nothing (haccepted : StatementsAccepted env now db)
    (hnothing : NothingToAnonymize env now db) :
    RetentionContract env host now db := by
  let sessions := (sessionsAnonymized env now).countAll now db
  let expired := (sessionsDeleted env now).countAll now db
  let fuel := sessions + expired
  have hchunk := env.chunk_pos
  have hlimit := haccepted.takes_limit
  have hdays := haccepted.reads_days
  have hreadable : AllReadable env now :=
    (allReadable_iff env now).mpr ⟨haccepted.reads_now, hdays⟩
  obtain ⟨hevents, hlogs⟩ := (nothingToAnonymize_iff env now db).mp hnothing
  obtain ⟨holdEvents, holdLogs⟩ := deleted_matchingIds_eq_nil env now db
    (hdays _ (by simp [RetentionEnv.days]))
    (hdays _ (by simp [RetentionEnv.days])) hnothing
  have hfuel₁ : sessions < fuel + 1 := by omega
  have hsessions := (sessionsAnonymized env now).countAll_eq_select now db
  have hroom₁ : min env.batchChunkSize
      ((sessionsAnonymized env now).countAll now db) ≤
        maxBindParameters - 2 :=
    hsessions ▸ haccepted.room_anonymized
  obtain ⟨ids, hids, hrun₁⟩ := sessionsAnonymized_run env now db
    hreadable.sessionsAnonymized hlimit (host.scan .sessionsAnonymized) hroom₁
    hfuel₁
  let db₁ := (sessionsAnonymized env now).processIds db ids
  have hexpired : (sessionsDeleted env now).countAll now db₁ = expired :=
    sessionsDeleted_countAll env now db ids
  have hfuel₂ : (sessionsDeleted env now).countAll now db₁ < fuel + 1 := by
    omega
  have hroom₂ : min env.batchChunkSize
      ((sessionsDeleted env now).countAll now db₁) ≤ maxBindParameters :=
    (hexpired.trans ((sessionsDeleted env now).countAll_eq_select now db)) ▸
      haccepted.room_deleted
  obtain ⟨gone, hgone, hrun₄⟩ := sessionsDeleted_run env now db₁
    hreadable.sessionsDeleted hlimit (host.scan .sessionsDeleted) hroom₂
    hfuel₂
  obtain ⟨final, hrun⟩ := runDataRetentionJob_of_phases env host now db hrun₁
    (processIdsInChunks_nothing hreadable.securityEventsAnonymized hchunk
      hlimit fuel hevents)
    (processIdsInChunks_nothing hreadable.auditLogsAnonymized hchunk hlimit
      fuel hlogs) hrun₄
    (processIdsInChunks_nothing hreadable.securityEventsDeleted hchunk hlimit
      fuel holdEvents)
    (processIdsInChunks_nothing hreadable.auditLogsDeleted hchunk hlimit fuel
      holdLogs)
  obtain ⟨dry, hdry, hcounts⟩ :=
    runDataRetentionJob_dry env host now db hreadable (fuel + 1)
  have hchanged := sessionsAnonymized_changed env now db hids
  have hdeleted := sessionsDeleted_changed env now db₁ hgone
  refine ⟨fuel + 1, _, dry, hrun, hdry, ?_, ?_⟩
  · simp only [RetentionRun.changed, RetentionCounts.mk.injEq,
      RetentionCount.mk.injEq]
    refine ⟨⟨?_, ?_⟩, ⟨?_, ?_⟩, hchanged.symm, hdeleted.symm⟩ <;>
      exact (congrArg List.length (Table.changed_self _)).symm
  · rw [hcounts]
    simp only [RetentionCounts.mk.injEq, RetentionCount.mk.injEq]
    refine ⟨⟨?_, ?_⟩, ⟨?_, ?_⟩, trivial, hexpired⟩
    · exact (RetentionStatement.countAll_of_nil _ now hlogs).symm
    · exact (RetentionStatement.countAll_of_nil _ now holdLogs).symm
    · exact (RetentionStatement.countAll_of_nil _ now hevents).symm
    · exact (RetentionStatement.countAll_of_nil _ now holdEvents).symm

theorem securityEventsAnonymized_diverges (scan : ScanOrder String)
    (fuel : Nat)
    (hpending : (securityEventsAnonymized env now).matchingIds now db ≠ []) :
    processIdsInChunks (securityEventsAnonymized env now) now false scan
      env.batchChunkSize fuel db = none :=
  anonymizing_diverges securityEventsTable (fun row => row.userId)
    env.securityEventAnonymizeDays (securityEventsAnonymized env now).due now
    2 (fun row => { row with userId := none, payload := .obj [] })
    (fun _ => rfl) (fun _ => rfl) (fun _ => rfl) scan env.chunk_pos fuel
    hpending

theorem auditLogsAnonymized_diverges (scan : ScanOrder String) (fuel : Nat)
    (hpending : (auditLogsAnonymized env now).matchingIds now db ≠ []) :
    processIdsInChunks (auditLogsAnonymized env now) now false scan
      env.batchChunkSize fuel db = none :=
  anonymizing_diverges auditLogsTable (fun row => row.actorUserId)
    env.auditLogAnonymizeDays (auditLogsAnonymized env now).due now
    3 (fun row =>
      { row with actorUserId := none, resourceId := none, payload := .obj [] })
    (fun _ => rfl) (fun _ => rfl) (fun _ => rfl) scan env.chunk_pos fuel
    hpending

/-- The calls that a job which ends has got through. -/
theorem phases_of_run {dryRun : Bool} {fuel : Nat} {run : RetentionRun}
    (hrun : runDataRetentionJob env host dryRun now fuel db = some run) :
    ∃ r₁ r₂ r₃ r₄ r₅ r₆,
      processIdsInChunks (sessionsAnonymized env now) now dryRun
        (host.scan .sessionsAnonymized) env.batchChunkSize fuel db =
          some r₁ ∧
      processIdsInChunks (securityEventsAnonymized env now) now dryRun
        (host.scan .securityEventsAnonymized) env.batchChunkSize fuel r₁.1 =
          some r₂ ∧
      processIdsInChunks (auditLogsAnonymized env now) now dryRun
        (host.scan .auditLogsAnonymized) env.batchChunkSize fuel r₂.1 =
          some r₃ ∧
      processIdsInChunks (sessionsDeleted env now) now dryRun
        (host.scan .sessionsDeleted) env.batchChunkSize fuel r₃.1 =
          some r₄ ∧
      processIdsInChunks (securityEventsDeleted env now) now dryRun
        (host.scan .securityEventsDeleted) env.batchChunkSize fuel r₄.1 =
          some r₅ ∧
      processIdsInChunks (auditLogsDeleted env now) now dryRun
        (host.scan .auditLogsDeleted) env.batchChunkSize fuel r₅.1 =
          some r₆ := by
  simp only [runDataRetentionJob, Option.bind_eq_bind,
    Option.bind_eq_some_iff] at hrun
  obtain ⟨r₁, hrun₁, r₂, hrun₂, r₃, hrun₃, r₄, hrun₄, r₅, hrun₅, r₆, hrun₆,
    -⟩ := hrun
  exact ⟨r₁, r₂, r₃, r₄, r₅, r₆, hrun₁, hrun₂, hrun₃, hrun₄, hrun₅, hrun₆⟩

/-- A job that ends got through its second and third loops, which only end
when they have nothing to do. -/
theorem nothingToAnonymize_of_run {fuel : Nat} {run : RetentionRun}
    (hrun : runDataRetentionJob env host false now fuel db = some run) :
    NothingToAnonymize env now db := by
  obtain ⟨first, second, third, _, _, _, hrun₁, hrun₂, hrun₃, -⟩ :=
    phases_of_run env host now db hrun
  have hevents₁ := processIdsInChunks_frame _ now RetentionDb.securityEvents
    (fun _ _ => rfl) hrun₁
  have hlogs₁ := processIdsInChunks_frame _ now RetentionDb.auditLogs
    (fun _ _ => rfl) hrun₁
  have hholds₁ := processIdsInChunks_frame _ now RetentionDb.legalHolds
    (fun _ _ => rfl) hrun₁
  have hlogs₂ := processIdsInChunks_frame _ now RetentionDb.auditLogs
    (fun _ _ => rfl) hrun₂
  have hholds₂ := processIdsInChunks_frame _ now RetentionDb.legalHolds
    (fun _ _ => rfl) hrun₂
  rw [nothingToAnonymize_iff]
  constructor
  · rw [← RetentionStatement.matchingIds_congr _ now hevents₁ hholds₁]
    by_contra hpending
    have hdiverges := securityEventsAnonymized_diverges env now first.1
      (host.scan .securityEventsAnonymized) fuel hpending
    exact absurd (hrun₂.symm.trans hdiverges) (by simp)
  · rw [← RetentionStatement.matchingIds_congr _ now
      (hlogs₂.trans hlogs₁) (hholds₂.trans hholds₁)]
    by_contra hpending
    have hdiverges := auditLogsAnonymized_diverges env now second.1
      (host.scan .auditLogsAnonymized) fuel hpending
    exact absurd (hrun₃.symm.trans hdiverges) (by simp)

/-- A job that ends has had no statement refused. -/
theorem statementsAccepted_of_run {fuel : Nat} {run : RetentionRun}
    (hrun : runDataRetentionJob env host false now fuel db = some run) :
    StatementsAccepted env now db := by
  obtain ⟨first, second, third, fourth, fifth, sixth, hrun₁, hrun₂, hrun₃,
    hrun₄, hrun₅, hrun₆⟩ := phases_of_run env host now db hrun
  obtain ⟨hread₁, hlimit⟩ := readable_of_processIdsInChunks _ now hrun₁
  have hreadable : AllReadable env now :=
    ⟨hread₁, (readable_of_processIdsInChunks _ now hrun₂).1,
      (readable_of_processIdsInChunks _ now hrun₃).1,
      (readable_of_processIdsInChunks _ now hrun₄).1,
      (readable_of_processIdsInChunks _ now hrun₅).1,
      (readable_of_processIdsInChunks _ now hrun₆).1⟩
  obtain ⟨hnow, hdays⟩ := (allReadable_iff env now).mp hreadable
  have hroom₁ := room_of_processIdsInChunks (sessionsAnonymizedSweep env now)
    rfl rfl hrun₁
  have hroom₄ := room_of_processIdsInChunks (sessionsDeletedSweep env now)
    rfl rfl hrun₄
  -- The first three loops leave the rows of the fourth matching.
  let expired := (sessionsDeleted env now).countAll now
  have hfirst : expired first.1 = expired db :=
    processIdsInChunks_frame _ now expired
      (sessionsDeleted_countAll env now) hrun₁
  have hsecond : expired second.1 = expired first.1 :=
    processIdsInChunks_frame _ now expired (fun _ _ => rfl) hrun₂
  have hthird : expired third.1 = expired second.1 :=
    processIdsInChunks_frame _ now expired (fun _ _ => rfl) hrun₃
  have hexpired : expired third.1 = expired db :=
    hthird.trans (hsecond.trans hfirst)
  refine ⟨hnow, hdays, hlimit rfl, ?_, ?_⟩
  · rwa [RetentionStatement.countAll_eq_select] at hroom₁
  · change min env.batchChunkSize (expired third.1) ≤ _ at hroom₄
    have hselect := (sessionsDeleted env now).countAll_eq_select now db
    rwa [hexpired.trans hselect] at hroom₄

end Job

/-- The job ends as it should exactly when the database takes its statements
and there is nothing to anonymize but sessions. -/
theorem retentionContract_iff (env : RetentionEnv) (host : RetentionHost)
    (now : Instant) (db : RetentionDb) :
    RetentionContract env host now db ↔
      StatementsAccepted env now db ∧ NothingToAnonymize env now db := by
  constructor
  · rintro ⟨fuel, run, dry, hrun, -⟩
    exact ⟨statementsAccepted_of_run env host now db hrun,
      nothingToAnonymize_of_run env host now db hrun⟩
  · rintro ⟨haccepted, hnothing⟩
    exact retentionContract_of_nothing env host now db haccepted hnothing

namespace RetentionWitness

def host : RetentionHost where
  scan _ := ScanOrder.storage
  uuids := KeySource.longer
  clock := .ofInstant (91 * dayMillis)

def loginEvent : SecurityEvent where
  id := "event-1"
  userId := some "user-1"
  eventType := "login.success"
  payload := .obj []
  createdAt := .ofInstant 0

def db : RetentionDb where
  userSessions := .empty
  securityEvents := ⟨[loginEvent], by decide⟩
  auditLogs := .empty
  legalHolds := .empty

/-- Ninety-one days after its only event, the job loops forever. -/
theorem not_retentionContract :
    ¬ RetentionContract .default host (91 * dayMillis) db := by
  rintro ⟨fuel, run, dry, hrun, -⟩
  have hnothing := nothingToAnonymize_of_run _ _ _ _ hrun
  have hheld := hnothing.securityEvents loginEvent (by decide) (by decide)
  exact absurd hheld (by decide)

end RetentionWitness

end IdProvider
