/-
The export of audit logs and security events: how many pages it collects, and
when it says that records are missing.
-/
import IdProvider.AuditPages
import Mathlib.Data.List.Perm.Subperm

namespace IdProvider

open JsonText KeyedTable KeysetPages

/-! ## Records -/

def exportPageSize : Nat := 200

def exportMaxRecords : Nat := 10000

inductive AuditExportKind where
  | auditLogs
  | securityEvents
  | both
  deriving DecidableEq

namespace AuditExportKind

def hasAuditLogs : AuditExportKind → Bool
  | .auditLogs => true
  | .securityEvents => false
  | .both => true

def hasSecurityEvents : AuditExportKind → Bool
  | .auditLogs => false
  | .securityEvents => true
  | .both => true

end AuditExportKind

structure CreateAuditExportInput where
  from_ : Option Instant
  to_ : Option Instant
  kind : AuditExportKind

/-- A record, with the fields that are only printed apart. -/
structure ExportRecord where
  kind : String
  id : String
  createdAt : Instant
  fields : List (String × JsValue)

def auditLogRecord (numbers : NumberRuntime) (row : AuditLog) :
    ExportRecord where
  kind := "audit_log"
  id := row.id
  createdAt := row.createdAt.toInstant
  fields :=
    [("actorUserId", nullable row.actorUserId),
      ("action", .str row.action),
      ("resourceType", .str row.resourceType),
      ("resourceId", nullable row.resourceId),
      ("payload", readJson numbers row.payload),
      ("prevHash", nullable row.prevHash),
      ("entryHash", nullable row.entryHash),
      ("integrityVersion",
        .number (.finite (.ofInt row.integrityVersion)))]

def securityEventRecord (numbers : NumberRuntime) (row : SecurityEvent) :
    ExportRecord where
  kind := "security_event"
  id := row.id
  createdAt := row.createdAt.toInstant
  fields :=
    [("userId", nullable row.userId),
      ("eventType", .str row.eventType),
      ("payload", readJson numbers row.payload)]

def toJsonLine (record : ExportRecord) : String :=
  String.ofList (Json.obj (JsValue.toJsonFields
    (("kind", .str record.kind) :: ("id", .str record.id) ::
      ("createdAt", .str (toISOString record.createdAt)) ::
        record.fields))).render ++ "\n"

/-! ## `AuditExportService` -/

section Collect

variable {Row : Type} (list : Option AuditCursor → Page Row AuditCursor)
  (record : Row → ExportRecord)

/-- The loop over the pages of one source. -/
def collectRecords (cursor : Option AuditCursor)
    (records : List ExportRecord) : List ExportRecord :=
  if records.length < exportMaxRecords then
    let page := list cursor
    match page.nextCursor with
    | none => records ++ page.items.map record
    | some next =>
        if page.items = [] then records ++ page.items.map record
        else collectRecords (some next) (records ++ page.items.map record)
  else records
termination_by exportMaxRecords - records.length
decreasing_by
  have hpos : 0 < (list cursor).items.length := by
    rw [List.length_pos_iff]
    assumption
  rw [List.length_append, List.length_map]
  omega

end Collect

def auditLogsPage (input : CreateAuditExportInput) : ListAuditLogsInput where
  from_ := input.from_
  to_ := input.to_
  actorUserId := none
  action := none
  resourceType := none
  resourceId := none
  limit := .finite (.ofInt exportPageSize)

def securityEventsPage (input : CreateAuditExportInput) :
    ListSecurityEventsInput where
  from_ := input.from_
  to_ := input.to_
  userId := none
  eventType := none
  limit := .finite (.ofInt exportPageSize)

section Export

variable (env : AuditEnv) (auditLogs : Table AuditLog)
  (securityEvents : Table SecurityEvent) (input : CreateAuditExportInput)

def collectAuditLogs : List ExportRecord :=
  collectRecords (listAuditLogs auditLogs (auditLogsPage input))
    (auditLogRecord env.numbers) none []

def collectSecurityEvents : List ExportRecord :=
  collectRecords (listSecurityEvents securityEvents (securityEventsPage input))
    (securityEventRecord env.numbers) none []

/-- The comparison of `records.sort` is not positive. -/
def recordLe (collation : Collation) (left right : ExportRecord) : Bool :=
  let leftAt := toISOString left.createdAt
  let rightAt := toISOString right.createdAt
  if leftAt ≠ rightAt then collation.le leftAt rightAt
  else collation.le left.id right.id

def exportRecords : List ExportRecord :=
  ((if input.kind.hasAuditLogs then collectAuditLogs env auditLogs input
    else []) ++
    if input.kind.hasSecurityEvents then
      collectSecurityEvents env securityEvents input
    else []).insertionSort fun left right => recordLe env.collation left right

structure AuditExport where
  exportId : String
  status : String
  recordCount : Nat
  sha256 : String
  generatedAt : String
  format : String
  data : String
  truncated : Bool

/-- `createExport` with its draw of `randomUUID()` and its clock. -/
def createExport (exportId : String) (now : Instant) : AuditExport :=
  let records := exportRecords env auditLogs securityEvents input
  let jsonl := String.join (records.map toJsonLine)
  { exportId := exportId
    status := "completed"
    recordCount := records.length
    sha256 := env.sha256Hex jsonl
    generatedAt := toISOString now
    format := "jsonl"
    data := jsonl
    truncated := decide (exportMaxRecords ≤ records.length) }

end Export

/-! ## One source -/

theorem pageOf_length {Row Cursor : Type} (cursorOf : Row → Cursor)
    (limit : Nat) (rows : List Row) :
    (pageOf cursorOf limit rows).items.length ≤ limit ∧
      ((pageOf cursorOf limit rows).nextCursor ≠ none →
        (pageOf cursorOf limit rows).items.length = limit) := by
  unfold pageOf
  by_cases hnext : limit < rows.length
  · simp [hnext, Nat.le_of_lt hnext]
  · simp [hnext, Nat.not_lt.mp hnext]

/-- The pages of a listing together give each matching row once. -/
def PagesComplete {Row : Type}
    (list : Option AuditCursor → Page Row AuditCursor) (matching : List Row) :
    Prop :=
  ∃ fuel items, follow (fun cursor => some (list cursor)) fuel none =
      some items ∧ items.Perm matching

/-- The loop follows the cursors of the same listings that the requests
follow as texts. -/
theorem pagesComplete_of_lossless {Row : Type} {runtime : DateRuntime}
    {createdAt : Row → Timestamp} {id : Row → String}
    {list : Option AuditCursor → Page Row AuditCursor} {matching : List Row}
    (hlossless : PagesLossless runtime createdAt id list matching) :
    PagesComplete list matching := by
  obtain ⟨fuel, items, hfollow, hperm, -⟩ := hlossless
  rw [follow_requestPage] at hfollow
  exact ⟨fuel, items, hfollow, hperm⟩

/-- Rows of whole milliseconds are told apart by the cursors. -/
theorem nextRowsAdmitted_of_whole {Row : Type} {createdAt : Row → Timestamp}
    {id : Row → String} {matching : List Row}
    (hids : (matching.map id).Nodup)
    (hwhole : ∀ row ∈ matching,
      createdAt row = .ofInstant (createdAt row).toInstant)
    (limit : JsNumber) :
    NextRowsAdmitted createdAt id limit matching := by
  have hsorted := RowOrder.pairwise_descending_lt
    (listingRank createdAt id) (List.Nodup.of_map id hids)
    (listingRank_injOn hids)
  have hperm := RowOrder.descending_perm (listingRank createdAt id) matching
  intro i hi _
  have hrow := hwhole _ (hperm.mem_iff.mp
    (List.getElem_mem (Nat.lt_of_succ_lt hi)))
  have hlt := List.pairwise_iff_getElem.mp hsorted i (i + 1)
    (Nat.lt_of_succ_lt hi) hi (Nat.lt_succ_self i)
  rw [AuditCursor.rank, toCursor, ← hrow]
  exact hlt

section Source

variable {Row : Type} {list : Option AuditCursor → Page Row AuditCursor}
  {record : Row → ExportRecord} {limit : Nat}

/-- Pages of a size that divides the maximum are collected up to the
maximum. -/
theorem collectRecords_eq (hlimit : 0 < limit)
    (hdivides : limit ∣ exportMaxRecords)
    (hpages : ∀ cursor, (list cursor).items.length ≤ limit ∧
      ((list cursor).nextCursor ≠ none →
        (list cursor).items.length = limit))
    {fuel : Nat} {cursor : Option AuditCursor} {items : List Row}
    (hfollow : follow (fun cursor => some (list cursor)) fuel cursor =
      some items)
    {records : List ExportRecord} (hwhole : limit ∣ records.length)
    (hroom : records.length ≤ exportMaxRecords) :
    collectRecords list record cursor records =
      records ++
        (items.take (exportMaxRecords - records.length)).map record := by
  induction fuel generalizing cursor items records with
  | zero => cases hfollow
  | succ fuel ih =>
      obtain ⟨hshort, hfull⟩ := hpages cursor
      rw [collectRecords]
      rw [follow] at hfollow
      dsimp only at hfollow
      by_cases hmore : records.length < exportMaxRecords
      · rw [if_pos hmore]
        have hpageRoom : limit ≤ exportMaxRecords - records.length :=
          Nat.le_of_dvd (Nat.sub_pos_of_lt hmore)
            (Nat.dvd_sub hdivides hwhole)
        dsimp only
        cases hnext : (list cursor).nextCursor with
        | none =>
            rw [hnext, Option.some.injEq] at hfollow
            subst hfollow
            rw [List.take_of_length_le (Nat.le_trans hshort hpageRoom)]
        | some next =>
            rw [hnext] at hfollow
            obtain ⟨later, hlater, rfl⟩ := Option.map_eq_some_iff.mp hfollow
            have hlength := hfull (by rw [hnext]; exact Option.some_ne_none _)
            have hne : (list cursor).items ≠ [] := by
              rw [← List.length_pos_iff, hlength]
              exact hlimit
            have hcollected :
                (records ++ (list cursor).items.map record).length =
                  records.length + limit := by
              rw [List.length_append, List.length_map, hlength]
            have hfirst : (list cursor).items.take
                (exportMaxRecords - records.length) = (list cursor).items :=
              List.take_of_length_le (hlength ▸ hpageRoom)
            dsimp only
            rw [if_neg hne, ih hlater
              (by rw [hcollected]; exact Nat.dvd_add hwhole (Nat.dvd_refl _))
              (by rw [hcollected]; omega), hcollected, List.append_assoc,
              ← List.map_append, List.take_append, hfirst, hlength,
              Nat.sub_sub]
      · have hlength : records.length = exportMaxRecords :=
          Nat.le_antisymm hroom (Nat.not_lt.mp hmore)
        rw [if_neg hmore, hlength, Nat.sub_self, List.take_zero, List.map_nil,
          List.append_nil]

/-- What is collected of one source: its rows, or as many as the maximum. -/
def Collected (record : Row → ExportRecord) (matching : List Row)
    (records : List ExportRecord) : Prop :=
  ∃ items : List Row, items.Perm matching ∧
    records = (items.take exportMaxRecords).map record

theorem collected_of_complete (hlimit : 0 < limit)
    (hdivides : limit ∣ exportMaxRecords)
    (hpages : ∀ cursor, (list cursor).items.length ≤ limit ∧
      ((list cursor).nextCursor ≠ none →
        (list cursor).items.length = limit))
    {matching : List Row} (hcomplete : PagesComplete list matching) :
    Collected record matching (collectRecords list record none []) := by
  obtain ⟨fuel, items, hfollow, hperm⟩ := hcomplete
  refine ⟨items, hperm, ?_⟩
  rw [collectRecords_eq hlimit hdivides hpages hfollow
    (show limit ∣ ([] : List ExportRecord).length from Nat.dvd_zero limit)
    (Nat.zero_le _)]
  rfl

theorem collected_nil : Collected record [] [] :=
  ⟨[], List.Perm.refl [], rfl⟩

namespace Collected

variable {matching : List Row} {records : List ExportRecord}

theorem length (hcollected : Collected record matching records) :
    records.length = min exportMaxRecords matching.length := by
  obtain ⟨items, hperm, rfl⟩ := hcollected
  rw [List.length_map, List.length_take, hperm.length_eq]

theorem subperm (hcollected : Collected record matching records) :
    records.Subperm (matching.map record) := by
  obtain ⟨items, hperm, rfl⟩ := hcollected
  exact ((List.take_sublist _ _).map record).subperm.trans
    (hperm.map record).subperm

/-- A row is missing where there are more than the maximum. -/
theorem missing_iff (hcollected : Collected record matching records)
    (hnodup : (matching.map record).Nodup) :
    (∃ other ∈ matching.map record, other ∉ records) ↔
      exportMaxRecords < matching.length := by
  obtain ⟨items, hperm, rfl⟩ := hcollected
  have hall := hperm.map record
  constructor
  · rintro ⟨other, hother, hmissing⟩
    by_contra hfew
    rw [List.take_of_length_le
      (by rw [hperm.length_eq]; exact Nat.not_lt.mp hfew)] at hmissing
    exact hmissing (hall.mem_iff.mpr hother)
  · intro hmany
    rw [← hperm.length_eq] at hmany
    refine ⟨record items[exportMaxRecords], ?_, ?_⟩
    · exact hall.mem_iff.mp (List.mem_map_of_mem (List.getElem_mem hmany))
    · have hsplit := hall.nodup_iff.mpr hnodup
      rw [← List.take_append_drop exportMaxRecords items, List.map_append,
        List.nodup_append] at hsplit
      have hdrop : items[exportMaxRecords] ∈ items.drop exportMaxRecords := by
        rw [List.drop_eq_getElem_cons hmany]
        exact List.mem_cons_self
      exact fun hmem => hsplit.2.2 _ hmem _ (List.mem_map_of_mem hdrop) rfl

end Collected

end Source

/-! ## The export -/

section Sources

variable (env : AuditEnv) (auditLogs : Table AuditLog)
  (securityEvents : Table SecurityEvent) (input : CreateAuditExportInput)

def matchingAuditLogs : List AuditLog :=
  if input.kind.hasAuditLogs then
    auditLogs.select (auditLogsPage input).matching
  else []

def matchingSecurityEvents : List SecurityEvent :=
  if input.kind.hasSecurityEvents then
    securityEvents.select (securityEventsPage input).matching
  else []

/-- The records of all matching rows of the kind. -/
def matchingRecords : List ExportRecord :=
  (matchingAuditLogs auditLogs input).map (auditLogRecord env.numbers) ++
    (matchingSecurityEvents securityEvents input).map
      (securityEventRecord env.numbers)

/-- The collation tells the texts of two times apart: they differ in a digit
or a sign. -/
def SeparatesTimes (collation : Collation) : Prop :=
  ∀ left right : Instant,
    collation.le (toISOString left) (toISOString right) = true →
    collation.le (toISOString right) (toISOString left) = true →
      toISOString left = toISOString right

/-- The export is sorted and without duplicates, holds matching records only,
and says that it is truncated exactly when one of them is missing. -/
structure ExportComplete (exportId : String) (now : Instant) : Prop where
  sorted : (exportRecords env auditLogs securityEvents input).Pairwise
    fun left right => recordLe env.collation left right = true
  nodup : (exportRecords env auditLogs securityEvents input).Nodup
  matching : ∀ record ∈ exportRecords env auditLogs securityEvents input,
    record ∈ matchingRecords env auditLogs securityEvents input
  truncated :
    (createExport env auditLogs securityEvents input exportId now).truncated =
        true ↔
      ∃ record ∈ matchingRecords env auditLogs securityEvents input,
        record ∉ exportRecords env auditLogs securityEvents input

variable {env auditLogs securityEvents input}

theorem pairwise_recordLe {collation : Collation}
    (hseparates : SeparatesTimes collation) (records : List ExportRecord) :
    (records.insertionSort fun left right =>
        recordLe collation left right).Pairwise
      fun left right => recordLe collation left right = true := by
  have htotal : Std.Total fun left right : ExportRecord =>
      recordLe collation left right = true := by
    constructor
    intro left right
    unfold recordLe
    dsimp only
    by_cases hsame : toISOString left.createdAt = toISOString right.createdAt
    · rw [if_neg (not_not_intro hsame), if_neg (not_not_intro hsame.symm)]
      exact collation.total _ _
    · rw [if_pos hsame, if_pos (Ne.symm hsame)]
      exact collation.total _ _
  have htrans : IsTrans ExportRecord fun left right =>
      recordLe collation left right = true := by
    constructor
    intro left middle right hleft hright
    unfold recordLe at hleft hright ⊢
    dsimp only at hleft hright ⊢
    split at hleft
    case isTrue hfirst =>
      split at hright
      case isTrue hsecond =>
        have htimes := collation.trans _ _ _ hleft hright
        rw [if_pos]
        · exact htimes
        · -- back at the first time the middle one would be that too
          intro hsame
          rw [← hsame] at hright
          exact hfirst (hseparates _ _ hleft hright)
      case isFalse hsecond =>
        rw [not_not] at hsecond
        rw [← hsecond, if_pos hfirst]
        exact hleft
    case isFalse hfirst =>
      rw [not_not] at hfirst
      rw [hfirst]
      split at hright
      case isTrue hsecond =>
        rw [if_pos hsecond]
        exact hright
      case isFalse hsecond =>
        rw [if_neg hsecond]
        exact collation.trans _ _ _ hleft hright
  exact List.pairwise_insertionSort _ records

theorem toPageLimit_exportPageSize :
    toPageLimit (.finite (.ofInt exportPageSize)) = exportPageSize := by
  rw [toPageLimit, numberValue_ofInt, Int.floor_intCast]
  rfl

theorem listRows_pages {Row : Type} (createdAt : Row → Timestamp)
    (id : Row → String) (matching : Row → Bool) (rows : List Row)
    (cursor : Option AuditCursor) :
    let page := listRows createdAt id matching
      (.finite (.ofInt exportPageSize)) cursor rows
    page.items.length ≤ exportPageSize ∧
      (page.nextCursor ≠ none → page.items.length = exportPageSize) := by
  dsimp only
  rw [listRows, toPageLimit_exportPageSize]
  exact pageOf_length _ _ _

theorem collected_auditLogs
    (hpages : input.kind.hasAuditLogs = true →
      PagesComplete (listAuditLogs auditLogs (auditLogsPage input))
        (auditLogs.select (auditLogsPage input).matching)) :
    Collected (auditLogRecord env.numbers)
      (matchingAuditLogs auditLogs input)
      (if input.kind.hasAuditLogs then collectAuditLogs env auditLogs input
        else []) := by
  rw [matchingAuditLogs]
  split
  case isTrue hkind =>
    exact collected_of_complete (by decide) (by decide)
      (listRows_pages _ _ _ _) (hpages hkind)
  case isFalse => exact collected_nil

theorem collected_securityEvents
    (hpages : input.kind.hasSecurityEvents = true →
      PagesComplete
        (listSecurityEvents securityEvents (securityEventsPage input))
        (securityEvents.select (securityEventsPage input).matching)) :
    Collected (securityEventRecord env.numbers)
      (matchingSecurityEvents securityEvents input)
      (if input.kind.hasSecurityEvents then
        collectSecurityEvents env securityEvents input
      else []) := by
  rw [matchingSecurityEvents]
  split
  case isTrue hkind =>
    exact collected_of_complete (by decide) (by decide)
      (listRows_pages _ _ _ _) (hpages hkind)
  case isFalse => exact collected_nil

variable (env auditLogs securityEvents input)

theorem nodup_auditLogRecords :
    ((matchingAuditLogs auditLogs input).map
      (auditLogRecord env.numbers)).Nodup := by
  apply List.Nodup.of_map ExportRecord.id
  rw [List.map_map]
  change ((matchingAuditLogs auditLogs input).map AuditLog.id).Nodup
  rw [matchingAuditLogs]
  split
  case isTrue =>
    exact (List.filter_sublist.map AuditLog.id).nodup auditLogs.nodup
  case isFalse => exact List.nodup_nil

theorem nodup_securityEventRecords :
    ((matchingSecurityEvents securityEvents input).map
      (securityEventRecord env.numbers)).Nodup := by
  apply List.Nodup.of_map ExportRecord.id
  rw [List.map_map]
  change ((matchingSecurityEvents securityEvents input).map
    SecurityEvent.id).Nodup
  rw [matchingSecurityEvents]
  split
  case isTrue =>
    exact (List.filter_sublist.map SecurityEvent.id).nodup securityEvents.nodup
  case isFalse => exact List.nodup_nil

/-- The kind tells the records of the two sources apart. -/
theorem disjoint_records :
    List.Disjoint
      ((matchingAuditLogs auditLogs input).map (auditLogRecord env.numbers))
      ((matchingSecurityEvents securityEvents input).map
        (securityEventRecord env.numbers)) := by
  intro record hlog hevent
  obtain ⟨row, -, rfl⟩ := List.mem_map.mp hlog
  obtain ⟨event, -, hsame⟩ := List.mem_map.mp hevent
  have hkind : "security_event" = "audit_log" :=
    congrArg ExportRecord.kind hsame
  exact absurd hkind (by decide)

theorem nodup_matchingRecords :
    (matchingRecords env auditLogs securityEvents input).Nodup :=
  List.nodup_append'.mpr ⟨nodup_auditLogRecords env auditLogs input,
    nodup_securityEventRecords env securityEvents input,
    disjoint_records env auditLogs securityEvents input⟩

variable {env auditLogs securityEvents input}

/-- Two sources, each collected: something is missing where something is
missing of one of them. -/
theorem missing_append_iff {first second : List ExportRecord}
    {firstFound secondFound : List ExportRecord}
    (hfirst : firstFound ⊆ first) (hsecond : secondFound ⊆ second)
    (hdisjoint : List.Disjoint first second) :
    (∃ record ∈ first ++ second, record ∉ firstFound ++ secondFound) ↔
      (∃ record ∈ first, record ∉ firstFound) ∨
        ∃ record ∈ second, record ∉ secondFound := by
  constructor
  · rintro ⟨record, hrecord, hmissing⟩
    rw [List.mem_append, not_or] at hmissing
    rcases List.mem_append.mp hrecord with hrecord | hrecord
    · exact Or.inl ⟨record, hrecord, hmissing.1⟩
    · exact Or.inr ⟨record, hrecord, hmissing.2⟩
  · rintro (⟨record, hrecord, hmissing⟩ | ⟨record, hrecord, hmissing⟩)
    · refine ⟨record, List.mem_append_left _ hrecord, ?_⟩
      rw [List.mem_append, not_or]
      exact ⟨hmissing, fun hother => hdisjoint hrecord (hsecond hother)⟩
    · refine ⟨record, List.mem_append_right _ hrecord, ?_⟩
      rw [List.mem_append, not_or]
      exact ⟨fun hother => hdisjoint (hfirst hother) hrecord, hmissing⟩

theorem exportRecords_perm :
    (exportRecords env auditLogs securityEvents input).Perm
      ((if input.kind.hasAuditLogs then collectAuditLogs env auditLogs input
        else []) ++
        if input.kind.hasSecurityEvents then
          collectSecurityEvents env securityEvents input
        else []) :=
  List.perm_insertionSort _ _

/-- The export says that it is truncated from the maximum on, and something is
missing where one source has more. -/
theorem truncated_iff
    (hauditLogs : input.kind.hasAuditLogs = true →
      PagesComplete (listAuditLogs auditLogs (auditLogsPage input))
        (auditLogs.select (auditLogsPage input).matching))
    (hsecurityEvents : input.kind.hasSecurityEvents = true →
      PagesComplete
        (listSecurityEvents securityEvents (securityEventsPage input))
        (securityEvents.select (securityEventsPage input).matching))
    (exportId : String) (now : Instant) :
    ((createExport env auditLogs securityEvents input exportId now).truncated =
        true ↔
      exportMaxRecords ≤
        min exportMaxRecords (matchingAuditLogs auditLogs input).length +
          min exportMaxRecords
            (matchingSecurityEvents securityEvents input).length) ∧
    ((∃ record ∈ matchingRecords env auditLogs securityEvents input,
        record ∉ exportRecords env auditLogs securityEvents input) ↔
      exportMaxRecords < (matchingAuditLogs auditLogs input).length ∨
        exportMaxRecords <
          (matchingSecurityEvents securityEvents input).length) := by
  have hperm := @exportRecords_perm env auditLogs securityEvents input
  have hlogs := @collected_auditLogs env auditLogs input hauditLogs
  have hevents := @collected_securityEvents env securityEvents input
    hsecurityEvents
  constructor
  · rw [createExport]
    dsimp only
    rw [decide_eq_true_eq, hperm.length_eq, List.length_append, hlogs.length,
      hevents.length]
  · rw [← hlogs.missing_iff (nodup_auditLogRecords env auditLogs input),
      ← hevents.missing_iff (nodup_securityEventRecords env securityEvents
        input),
      ← missing_append_iff hlogs.subperm.subset hevents.subperm.subset
        (disjoint_records env auditLogs securityEvents input)]
    simp only [hperm.mem_iff, matchingRecords]

/-- The export is complete exactly where one source has more rows than the
maximum, or all of them together have fewer. -/
theorem exportComplete_iff (hseparates : SeparatesTimes env.collation)
    (hauditLogs : input.kind.hasAuditLogs = true →
      PagesComplete (listAuditLogs auditLogs (auditLogsPage input))
        (auditLogs.select (auditLogsPage input).matching))
    (hsecurityEvents : input.kind.hasSecurityEvents = true →
      PagesComplete
        (listSecurityEvents securityEvents (securityEventsPage input))
        (securityEvents.select (securityEventsPage input).matching))
    (exportId : String) (now : Instant) :
    ExportComplete env auditLogs securityEvents input exportId now ↔
      exportMaxRecords < (matchingAuditLogs auditLogs input).length ∨
      exportMaxRecords <
        (matchingSecurityEvents securityEvents input).length ∨
      (matchingAuditLogs auditLogs input).length +
          (matchingSecurityEvents securityEvents input).length <
        exportMaxRecords := by
  obtain ⟨htruncated, hmissing⟩ := @truncated_iff env auditLogs securityEvents
    input hauditLogs hsecurityEvents exportId now
  have hperm := @exportRecords_perm env auditLogs securityEvents input
  have hlogs := @collected_auditLogs env auditLogs input hauditLogs
  have hevents := @collected_securityEvents env securityEvents input
    hsecurityEvents
  have hsubperm : (exportRecords env auditLogs securityEvents input).Subperm
      (matchingRecords env auditLogs securityEvents input) :=
    hperm.subperm.trans
      (List.Subperm.append hlogs.subperm hevents.subperm)
  constructor
  · intro hcomplete
    have hagrees := hcomplete.truncated
    rw [htruncated, hmissing] at hagrees
    omega
  · intro hcounts
    constructor
    · exact pairwise_recordLe hseparates _
    · obtain ⟨found, hfound, hsublist⟩ := hsubperm
      rw [← hfound.nodup_iff]
      exact hsublist.nodup (nodup_matchingRecords env auditLogs securityEvents
        input)
    · exact fun record hrecord => hsubperm.subset hrecord
    · rw [htruncated, hmissing]
      omega

end Sources

namespace AuditExportWitness

def env : AuditEnv := ⟨.codePoint, .ofTexts, fun text => text⟩

/-- Ids of different lengths, one event a millisecond. -/
def event (number : Nat) : SecurityEvent where
  id := String.ofList (List.replicate number 'x')
  userId := none
  eventType := "login.success"
  payload := .obj []
  createdAt := .ofInstant number

theorem length_id_event (number : Nat) : (event number).id.length = number := by
  rw [event, ← String.length_toList, String.toList_ofList,
    List.length_replicate]

def events (count : Nat) : Table SecurityEvent where
  rows := (List.range count).map event
  nodup := by
    apply List.Nodup.of_map String.length
    rw [List.map_map, List.map_map]
    have hlengths : (List.range count).map
        ((String.length ∘ key) ∘ event) = List.range count :=
      (List.map_congr_left fun number _ => length_id_event number).trans
        (List.map_id _)
    rw [hlengths]
    exact List.nodup_range

def input : CreateAuditExportInput := ⟨none, none, .securityEvents⟩

theorem select_events (count : Nat) :
    (events count).select (securityEventsPage input).matching =
      (List.range count).map event :=
  List.filter_eq_self.mpr fun _ _ => rfl

theorem separatesTimes : SeparatesTimes env.collation := by
  have hle : ∀ left right, env.collation.le left right = true →
      left ≤ right := by
    intro left right hleft
    simpa only [env, Collation.codePoint, decide_eq_true_eq] using hleft
  intro left right hleft hright
  exact le_antisymm (hle _ _ hleft) (hle _ _ hright)

theorem pagesComplete (count : Nat) :
    PagesComplete (listSecurityEvents (events count) (securityEventsPage input))
      ((events count).select (securityEventsPage input).matching) := by
  have hadmitted : NextRowsAdmitted SecurityEvent.createdAt SecurityEvent.id
      (securityEventsPage input).limit
      ((events count).select (securityEventsPage input).matching) := by
    apply nextRowsAdmitted_of_whole
    · exact (List.filter_sublist.map SecurityEvent.id).nodup
        (events count).nodup
    · intro row hrow
      rw [select_events] at hrow
      obtain ⟨number, -, rfl⟩ := List.mem_map.mp hrow
      exact congrArg Timestamp.ofInstant
        (Timestamp.toInstant_ofInstant number).symm
  exact pagesComplete_of_lossless ((pagesLossless_listRows .iso
    (events count).nodup (securityEventsPage input).matching _).mpr hadmitted)

theorem noAuditLogs (hkind : input.kind.hasAuditLogs = true) :
    PagesComplete (listAuditLogs .empty (auditLogsPage input))
      (Table.empty.select (auditLogsPage input).matching) :=
  Bool.noConfusion hkind

theorem length_events (count : Nat) :
    (matchingSecurityEvents (events count) input).length = count := by
  have hselect : matchingSecurityEvents (events count) input =
      (List.range count).map event := select_events count
  rw [hselect, List.length_map, List.length_range]

theorem exportComplete_three :
    ExportComplete env .empty (events 3) input "export-1" 0 := by
  refine (exportComplete_iff separatesTimes
    noAuditLogs (fun _ => pagesComplete 3) "export-1" 0).mpr ?_
  rw [length_events]
  exact Or.inr (Or.inr (by decide))

/-- Ten thousand events, all of them exported. -/
theorem not_exportComplete :
    ¬ ∀ (env : AuditEnv) auditLogs securityEvents input exportId now,
      SeparatesTimes env.collation →
      (input.kind.hasAuditLogs = true →
        PagesComplete (listAuditLogs auditLogs (auditLogsPage input))
          (auditLogs.select (auditLogsPage input).matching)) →
      (input.kind.hasSecurityEvents = true →
        PagesComplete
          (listSecurityEvents securityEvents (securityEventsPage input))
          (securityEvents.select (securityEventsPage input).matching)) →
      ExportComplete env auditLogs securityEvents input exportId now := by
  intro hclaim
  have hcomplete := hclaim env .empty (events exportMaxRecords) input
    "export-1" 0 separatesTimes noAuditLogs (fun _ => pagesComplete _)
  obtain ⟨htruncated, hmissing⟩ := @truncated_iff env .empty
    (events exportMaxRecords) input noAuditLogs (fun _ => pagesComplete _)
    "export-1" 0
  have hnone : (matchingAuditLogs Table.empty input).length = 0 := rfl
  have hagrees := hcomplete.truncated
  rw [htruncated, hmissing, hnone, length_events] at hagrees
  omega

end AuditExportWitness

end IdProvider
