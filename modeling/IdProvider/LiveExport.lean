/-
The export while others write: every page is a query of its own, and the
tables change between the pages.
-/
import IdProvider.AuditExport
import IdProvider.LivePages

namespace IdProvider

open KeyedTable KeysetPages

/-! ## The loops -/

section Collect

variable {Row : Type} (list : Nat → Option AuditCursor → Page Row AuditCursor)
  (record : Row → ExportRecord)

/-- The loop over the pages of one source; `turn` counts its queries. -/
def collectRecordsLive (turn : Nat) (cursor : Option AuditCursor)
    (records : List ExportRecord) : List ExportRecord :=
  if records.length < exportMaxRecords then
    let page := list turn cursor
    match page.nextCursor with
    | none => records ++ page.items.map record
    | some next =>
        if page.items = [] then records ++ page.items.map record
        else
          collectRecordsLive (turn + 1) (some next)
            (records ++ page.items.map record)
  else records
termination_by exportMaxRecords - records.length
decreasing_by
  have hpos : 0 < (list turn cursor).items.length := by
    rw [List.length_pos_iff]
    assumption
  rw [List.length_append, List.length_map]
  omega

/-- Where nothing is written meanwhile, it is the loop over one table. -/
theorem collectRecordsLive_const
    (list : Option AuditCursor → Page Row AuditCursor) (turn : Nat)
    (cursor : Option AuditCursor) (records : List ExportRecord) :
    collectRecordsLive (fun _ => list) record turn cursor records =
      collectRecords list record cursor records := by
  induction turn, cursor, records using
      collectRecordsLive.induct (fun _ => list) record with
  | case1 turn cursor records hroom page hnext =>
      rw [collectRecordsLive, collectRecords, if_pos hroom, if_pos hroom]
      simp only [page] at hnext
      simp only [hnext]
  | case2 turn cursor records hroom page next hnext hempty =>
      rw [collectRecordsLive, collectRecords, if_pos hroom, if_pos hroom]
      simp only [page] at hnext hempty
      simp only [hnext, if_pos hempty]
  | case3 turn cursor records hroom page next hnext hitems ih =>
      rw [collectRecordsLive, collectRecords, if_pos hroom, if_pos hroom]
      simp only [page] at hnext hitems ih
      simp only [hnext, if_neg hitems]
      exact ih
  | case4 turn cursor records hfull =>
      rw [collectRecordsLive, collectRecords, if_neg hfull, if_neg hfull]

/-- The pages that the loop has asked for, from its `count`-th record on. -/
def pagesLive (turn : Nat) (cursor : Option AuditCursor) (count : Nat) :
    List (Page Row AuditCursor) :=
  if count < exportMaxRecords then
    let page := list turn cursor
    match page.nextCursor with
    | none => [page]
    | some next =>
        if page.items = [] then [page]
        else
          page :: pagesLive (turn + 1) (some next) (count + page.items.length)
  else []
termination_by exportMaxRecords - count
decreasing_by
  have hpos : 0 < (list turn cursor).items.length := by
    rw [List.length_pos_iff]
    assumption
  omega

/-- The loop collects the rows of its pages. -/
theorem collectRecordsLive_eq (turn : Nat) (cursor : Option AuditCursor)
    (records : List ExportRecord) :
    collectRecordsLive list record turn cursor records =
      records ++
        (itemsOf (pagesLive list turn cursor records.length)).map record := by
  induction turn, cursor, records using
      collectRecordsLive.induct list record with
  | case1 turn cursor records hroom page hnext =>
      rw [collectRecordsLive, pagesLive, if_pos hroom, if_pos hroom]
      simp only [page] at hnext
      simp only [hnext]
      rw [itemsOf, List.flatMap_singleton]
  | case2 turn cursor records hroom page next hnext hempty =>
      rw [collectRecordsLive, pagesLive, if_pos hroom, if_pos hroom]
      simp only [page] at hnext hempty
      simp only [hnext, if_pos hempty]
      rw [itemsOf, List.flatMap_singleton]
  | case3 turn cursor records hroom page next hnext hitems ih =>
      rw [collectRecordsLive, pagesLive, if_pos hroom, if_pos hroom]
      simp only [page] at hnext hitems ih
      simp only [hnext, if_neg hitems]
      rw [ih, List.length_append, List.length_map, itemsOf, itemsOf,
        List.flatMap_cons, List.map_append, List.append_assoc]
  | case4 turn cursor records hfull =>
      rw [collectRecordsLive, pagesLive, if_neg hfull, if_neg hfull, itemsOf,
        List.flatMap_nil, List.map_nil, List.append_nil]

/-- The pages are read to the last one unless there is no room left. -/
theorem pagesLive_reads
    (hpages : ∀ turn cursor, (list turn cursor).nextCursor ≠ none →
      (list turn cursor).items ≠ [])
    (turn : Nat) (cursor : Option AuditCursor) (count : Nat) :
    ∃ finished, Reads list turn cursor (pagesLive list turn cursor count)
        finished ∧
      (finished = false → exportMaxRecords ≤
        count + (itemsOf (pagesLive list turn cursor count)).length) := by
  induction turn, cursor, count using pagesLive.induct list with
  | case1 turn cursor count hroom page hnext =>
      simp only [page] at hnext
      have hpages : pagesLive list turn cursor count = [list turn cursor] := by
        rw [pagesLive, if_pos hroom]
        simp only [hnext]
      rw [hpages]
      exact ⟨true, .last hnext, nofun⟩
  | case2 turn cursor count hroom page next hnext hempty =>
      simp only [page] at hnext hempty
      have hmore : (list turn cursor).nextCursor ≠ none := by
        rw [hnext]
        exact Option.some_ne_none next
      exact absurd hempty (hpages turn cursor hmore)
  | case3 turn cursor count hroom page next hnext hitems ih =>
      simp only [page] at hnext hitems ih
      obtain ⟨finished, hreads, hfull⟩ := ih
      have hpages : pagesLive list turn cursor count = list turn cursor ::
          pagesLive list (turn + 1) (some next)
            (count + (list turn cursor).items.length) := by
        rw [pagesLive, if_pos hroom]
        simp only [hnext, if_neg hitems]
      rw [hpages]
      refine ⟨finished, .next hnext hreads, fun hstopped => ?_⟩
      rw [itemsOf, List.flatMap_cons, List.length_append, ← Nat.add_assoc]
      exact hfull hstopped
  | case4 turn cursor count hfull =>
      have hpages : pagesLive list turn cursor count = [] := by
        rw [pagesLive, if_neg hfull]
      rw [hpages]
      exact ⟨false, .stop turn cursor, fun _ => Nat.not_lt.mp hfull⟩

end Collect

section Export

variable (env : AuditEnv) (auditLogs : Nat → Table AuditLog)
  (securityEvents : Nat → Table SecurityEvent) (input : CreateAuditExportInput)

/-- The queries of the loop over the audit logs, each on the table that it
finds. -/
def auditLogQueries : Nat → Option AuditCursor → Page AuditLog AuditCursor :=
  fun turn => listAuditLogs (auditLogs turn) (auditLogsPage input)

def securityEventQueries :
    Nat → Option AuditCursor → Page SecurityEvent AuditCursor :=
  fun turn => listSecurityEvents (securityEvents turn)
    (securityEventsPage input)

/-- The tables are those that the queries of each loop find. -/
def collectAuditLogsLive : List ExportRecord :=
  collectRecordsLive (auditLogQueries auditLogs input)
    (auditLogRecord env.numbers) 0 none []

def collectSecurityEventsLive : List ExportRecord :=
  collectRecordsLive (securityEventQueries securityEvents input)
    (securityEventRecord env.numbers) 0 none []

def exportRecordsLive : List ExportRecord :=
  ((if input.kind.hasAuditLogs then collectAuditLogsLive env auditLogs input
    else []) ++
    if input.kind.hasSecurityEvents then
      collectSecurityEventsLive env securityEvents input
    else []).insertionSort fun left right => recordLe env.collation left right

/-- `truncated` of such an export. -/
def isTruncatedLive : Bool :=
  decide (exportMaxRecords ≤
    (exportRecordsLive env auditLogs securityEvents input).length)

theorem exportRecordsLive_const (auditLogs : Table AuditLog)
    (securityEvents : Table SecurityEvent) :
    exportRecordsLive env (fun _ => auditLogs) (fun _ => securityEvents)
      input = exportRecords env auditLogs securityEvents input := by
  rw [exportRecordsLive, exportRecords, collectAuditLogsLive,
    collectSecurityEventsLive]
  unfold auditLogQueries securityEventQueries
  rw [collectRecordsLive_const, collectRecordsLive_const]
  rfl

end Export

/-! ## One source -/

section Source

variable {Row : Type} (createdAt : Row → Timestamp) (id : Row → String)
  (rows : Nat → List Row)

/-- A row that is written again keeps its time. -/
def KeepsTimes : Prop :=
  ∀ first second, ∀ left ∈ rows first, ∀ right ∈ rows second,
    id left = id right → createdAt left = createdAt right

variable (kind : String) (matching : Row → Bool)
  (record : Row → ExportRecord)

/-- No row is exported twice, those that are were there, and an export that is
not truncated has every row that was there all the time and that none of its
pages hides. -/
structure ExportedLive (pages : List (Page Row AuditCursor))
    (records : List ExportRecord) (truncated : Bool) : Prop where
  once : ((records.filter fun other => other.kind = kind).map
    ExportRecord.id).Nodup
  found : ∀ other ∈ records, other.kind = kind →
    ∃ turn, ∃ row ∈ rows turn, matching row = true ∧ other = record row
  complete : truncated = false → ∀ row ∈ rows 0,
    (∀ turn, ∃ other ∈ rows turn, id other = id row ∧ matching other = true) →
    (∀ page ∈ pages, ¬ Hides (listingRank createdAt id) AuditCursor.rank page
      (listingRank createdAt id row)) →
    ∃ other ∈ records, other.kind = kind ∧ other.id = id row

variable {createdAt id rows kind matching record}

variable (createdAt id rows matching) in
/-- The query of one turn, as a keyset page of the sorted rows. -/
def livePage (turn : Nat) (cursor : Option AuditCursor) :
    Page Row AuditCursor :=
  fetchPage (listingRank createdAt id) AuditCursor.rank
    (toCursor createdAt id) (toPageLimit (.finite (.ofInt exportPageSize)))
    (RowOrder.descending (listingRank createdAt id)
      ((rows turn).filter matching)) cursor

theorem listRows_live (hids : ∀ turn, ((rows turn).map id).Nodup) :
    (fun turn cursor => listRows createdAt id matching
      (.finite (.ofInt exportPageSize)) cursor (rows turn)) =
      livePage createdAt id rows matching :=
  funext fun turn => funext fun cursor =>
    listRows_eq (hids turn) matching _ cursor

theorem exportPageLimit_pos :
    0 < toPageLimit (.finite (.ofInt exportPageSize)) :=
  toPageLimit_pos _

theorem mem_descending_matching {turn : Nat} {row : Row} :
    row ∈ RowOrder.descending (listingRank createdAt id)
        ((rows turn).filter matching) ↔
      row ∈ rows turn ∧ matching row = true := by
  rw [(RowOrder.descending_perm _ _).mem_iff, List.mem_filter]

theorem descending_matching_sorted
    (hids : ∀ turn, ((rows turn).map id).Nodup) (turn : Nat) :
    (RowOrder.descending (listingRank createdAt id)
      ((rows turn).filter matching)).Pairwise fun left right =>
        listingRank createdAt id right < listingRank createdAt id left := by
  have hmatching : (((rows turn).filter matching).map id).Nodup :=
    (List.filter_sublist.map id).nodup (hids turn)
  exact RowOrder.pairwise_descending_lt _ (List.Nodup.of_map id hmatching)
    (listingRank_injOn hmatching)

/-! ### The rows that were read -/

section Pages

variable {pages : List (Page Row AuditCursor)} {finished : Bool}
  (hreads : Reads (livePage createdAt id rows matching) 0 none pages finished)

include hreads

theorem livePages_found :
    ∀ row ∈ itemsOf pages, ∃ turn, row ∈ rows turn ∧ matching row = true := by
  intro row hrow
  obtain ⟨page, hpage, hitem⟩ := List.mem_flatMap.mp hrow
  obtain ⟨turn, hturn⟩ :=
    reads_mem exportPageLimit_pos hreads page hpage row hitem
  exact ⟨turn, mem_descending_matching.mp hturn⟩

/-- The ranks descend, and a row that is read again would have its own. -/
theorem livePages_once (hids : ∀ turn, ((rows turn).map id).Nodup)
    (htimes : KeepsTimes createdAt id rows) :
    ((itemsOf pages).map id).Nodup := by
  have hbound : ∀ row, (toCursor createdAt id row).rank ≤
      listingRank createdAt id row := fun row => AuditCursor.rank_le _ _
  rw [List.Nodup, List.pairwise_map]
  refine (reads_descends exportPageLimit_pos hbound
    (descending_matching_sorted hids) hreads).1.imp_of_mem ?_
  intro left right hleft hright hlt hsame
  obtain ⟨first, hleftRow, -⟩ := livePages_found hreads left hleft
  obtain ⟨second, hrightRow, -⟩ := livePages_found hreads right hright
  have hcreated := htimes first second left hleftRow right hrightRow hsame
  rw [listingRank, listingRank, hsame, hcreated] at hlt
  exact lt_irrefl _ hlt

/-- A row that is there at every turn is on a page, unless one hides it. -/
theorem livePages_complete (hids : ∀ turn, ((rows turn).map id).Nodup)
    (htimes : KeepsTimes createdAt id rows) (hfinished : finished = true)
    {row : Row} (hrow : row ∈ rows 0)
    (hthere : ∀ turn, ∃ other ∈ rows turn,
      id other = id row ∧ matching other = true)
    (hopen : ∀ page ∈ pages, ¬ Hides (listingRank createdAt id)
      AuditCursor.rank page (listingRank createdAt id row)) :
    ∃ other ∈ itemsOf pages, id other = id row := by
  have hrank : ∀ turn, ∃ other ∈ RowOrder.descending
      (listingRank createdAt id) ((rows turn).filter matching),
      listingRank createdAt id other = listingRank createdAt id row := by
    intro turn
    obtain ⟨other, hother, hsame, hmatching⟩ := hthere turn
    refine ⟨other, mem_descending_matching.mpr ⟨hother, hmatching⟩, ?_⟩
    rw [listingRank, listingRank, hsame,
      htimes turn 0 other hother row hrow hsame]
  obtain ⟨other, hother, hsame⟩ :=
    reads_complete exportPageLimit_pos (descending_matching_sorted hids) hrank
      hreads hfinished rfl hopen
  exact ⟨other, hother, congrArg (fun rank => (ofLex rank).2) hsame⟩

end Pages

/-! ### The loop over one source -/

/-- A page with a next one is not empty. -/
theorem listRows_ne_nil (turn : Nat) (cursor : Option AuditCursor)
    (hnext : (listRows createdAt id matching
      (.finite (.ofInt exportPageSize)) cursor (rows turn)).nextCursor ≠
        none) :
    (listRows createdAt id matching (.finite (.ofInt exportPageSize)) cursor
      (rows turn)).items ≠ [] := by
  intro hempty
  have hlength := (listRows_pages createdAt id matching (rows turn)
    cursor).2 hnext
  rw [hempty, List.length_nil] at hlength
  exact absurd hlength (by decide)

/-- Where every time is one of whole milliseconds, no page hides a row. -/
theorem not_hides_of_whole (hids : ∀ turn, ((rows turn).map id).Nodup)
    (hwhole : ∀ turn, ∀ row ∈ rows turn,
      createdAt row = .ofInstant (createdAt row).toInstant) (count : Nat)
    (key : Int ×ₗ String) :
    ∀ page ∈ pagesLive (fun turn cursor => listRows createdAt id matching
        (.finite (.ofInt exportPageSize)) cursor (rows turn)) 0 none count,
      ¬ Hides (listingRank createdAt id) AuditCursor.rank page key := by
  rintro page hpage ⟨tail, htail, following, hfollowing, hlt, hrefused⟩
  obtain ⟨finished, hreads, -⟩ :=
    pagesLive_reads (fun turn cursor => listRows createdAt id matching
        (.finite (.ofInt exportPageSize)) cursor (rows turn))
      listRows_ne_nil 0 none count
  rw [listRows_live hids] at hreads hpage
  have hlimit := exportPageLimit_pos
  obtain ⟨turn, hturn⟩ := reads_mem hlimit hreads page hpage tail
    (List.mem_of_getLast? htail)
  have htime := hwhole turn tail (mem_descending_matching.mp hturn).1
  rw [reads_cursor hlimit hreads page hpage tail htail following hfollowing,
    AuditCursor.rank, toCursor, ← htime] at hrefused
  exact hrefused hlt

/-- The loop over one source. -/
theorem collected_live (hids : ∀ turn, ((rows turn).map id).Nodup)
    (htimes : KeepsTimes createdAt id rows)
    (hkind : ∀ row, (record row).kind = kind)
    (hid : ∀ row, (record row).id = id row) :
    let queries := fun turn cursor =>
      listRows createdAt id matching (.finite (.ofInt exportPageSize)) cursor
        (rows turn)
    let records := collectRecordsLive queries record 0 none []
    (∀ other ∈ records, other.kind = kind) ∧
      ∀ truncated, (truncated = false → records.length < exportMaxRecords) →
        ExportedLive createdAt id rows kind matching record
          (pagesLive queries 0 none 0) records truncated := by
  intro queries records
  obtain ⟨finished, hreads, hfull⟩ :=
    pagesLive_reads queries listRows_ne_nil 0 none 0
  have hrecords : records =
      (itemsOf (pagesLive queries 0 none 0)).map record :=
    collectRecordsLive_eq queries record 0 none []
  generalize pagesLive queries 0 none 0 = pages at hreads hfull hrecords ⊢
  have hpages : Reads (livePage createdAt id rows matching) 0 none pages
      finished := by
    rwa [← listRows_live hids]
  have hall : ∀ other ∈ records, other.kind = kind := by
    intro other hother
    rw [hrecords] at hother
    obtain ⟨row, -, rfl⟩ := List.mem_map.mp hother
    exact hkind row
  refine ⟨hall, fun truncated hroom => ⟨?_, ?_, ?_⟩⟩
  · have hfilter : (records.filter fun other => other.kind = kind) =
        records :=
      List.filter_eq_self.mpr fun other hother =>
        decide_eq_true (hall other hother)
    have hids' : ExportRecord.id ∘ record = id := funext hid
    rw [hfilter, hrecords, List.map_map, hids']
    exact livePages_once hpages hids htimes
  · intro other hother _
    rw [hrecords] at hother
    obtain ⟨row, hrow, rfl⟩ := List.mem_map.mp hother
    obtain ⟨turn, hturn, hmatching⟩ := livePages_found hpages row hrow
    exact ⟨turn, row, hturn, hmatching, rfl⟩
  · intro htruncated row hrow hthere hopen
    have hfinished : finished = true := by
      by_contra hstopped
      have hmany := hfull (Bool.eq_false_iff.mpr hstopped)
      have hlength := congrArg List.length hrecords
      rw [List.length_map] at hlength
      rw [Nat.zero_add, ← hlength] at hmany
      exact not_lt_of_ge hmany (hroom htruncated)
    obtain ⟨other, hother, hsame⟩ := livePages_complete hpages hids htimes
      hfinished hrow hthere hopen
    refine ⟨record other, ?_, hkind other, (hid other).trans hsame⟩
    rw [hrecords]
    exact List.mem_map_of_mem hother

/-- A source in the export of several ones. -/
theorem ExportedLive.within {pages : List (Page Row AuditCursor)}
    {records others all : List ExportRecord} {truncated : Bool}
    (hsource : ExportedLive createdAt id rows kind matching record pages
      records truncated)
    (hall : all.Perm (records ++ others))
    (hothers : ∀ other ∈ others, other.kind ≠ kind) :
    ExportedLive createdAt id rows kind matching record pages all
      truncated where
  once := by
    have hnone : (others.filter fun other => other.kind = kind) = [] := by
      rw [List.filter_eq_nil_iff]
      intro other hother hkind
      exact hothers other hother (of_decide_eq_true hkind)
    have hfilter := hall.filter fun other => other.kind = kind
    rw [List.filter_append, hnone, List.append_nil] at hfilter
    exact (hfilter.map ExportRecord.id).nodup_iff.mpr hsource.once
  found other hother hkind := by
    rcases List.mem_append.mp (hall.mem_iff.mp hother) with hmem | hmem
    · exact hsource.found other hmem hkind
    · exact absurd hkind (hothers other hmem)
  complete htruncated row hrow hthere hopen := by
    obtain ⟨other, hother, hkind⟩ :=
      hsource.complete htruncated row hrow hthere hopen
    exact ⟨other, hall.mem_iff.mpr (List.mem_append_left _ hother), hkind⟩

end Source

/-! ## The export -/

/-- Whatever is written or deleted between the pages, no entry is exported
twice, and an export that is not truncated has the entries that were there,
but for those that the cursor of one of its own pages hides. -/
theorem createExport_live (env : AuditEnv) (auditLogs : Nat → Table AuditLog)
    (securityEvents : Nat → Table SecurityEvent)
    (input : CreateAuditExportInput)
    (hlogs : KeepsTimes AuditLog.createdAt AuditLog.id
      fun turn => (auditLogs turn).rows)
    (hevents : KeepsTimes SecurityEvent.createdAt SecurityEvent.id
      fun turn => (securityEvents turn).rows) :
    (input.kind.hasAuditLogs = true →
      ExportedLive AuditLog.createdAt AuditLog.id
        (fun turn => (auditLogs turn).rows) "audit_log"
        (auditLogsPage input).matching (auditLogRecord env.numbers)
        (pagesLive (auditLogQueries auditLogs input) 0 none 0)
        (exportRecordsLive env auditLogs securityEvents input)
        (isTruncatedLive env auditLogs securityEvents input)) ∧
    (input.kind.hasSecurityEvents = true →
      ExportedLive SecurityEvent.createdAt SecurityEvent.id
        (fun turn => (securityEvents turn).rows) "security_event"
        (securityEventsPage input).matching
        (securityEventRecord env.numbers)
        (pagesLive (securityEventQueries securityEvents input) 0 none 0)
        (exportRecordsLive env auditLogs securityEvents input)
        (isTruncatedLive env auditLogs securityEvents input)) := by
  let logs := if input.kind.hasAuditLogs then
    collectAuditLogsLive env auditLogs input else []
  let events := if input.kind.hasSecurityEvents then
    collectSecurityEventsLive env securityEvents input else []
  have hperm : (exportRecordsLive env auditLogs securityEvents input).Perm
      (logs ++ events) := List.perm_insertionSort _ _
  obtain ⟨hlogKinds, hlogSource⟩ := @collected_live AuditLog
    AuditLog.createdAt AuditLog.id (fun turn => (auditLogs turn).rows)
    "audit_log" (auditLogsPage input).matching (auditLogRecord env.numbers)
    (fun turn => (auditLogs turn).nodup) hlogs (fun _ => rfl) (fun _ => rfl)
  obtain ⟨heventKinds, heventSource⟩ := @collected_live SecurityEvent
    SecurityEvent.createdAt SecurityEvent.id
    (fun turn => (securityEvents turn).rows) "security_event"
    (securityEventsPage input).matching (securityEventRecord env.numbers)
    (fun turn => (securityEvents turn).nodup) hevents (fun _ => rfl)
    (fun _ => rfl)
  have hlogsKind : ∀ other ∈ logs, other.kind = "audit_log" := by
    intro other hother
    simp only [logs] at hother
    split at hother
    · exact hlogKinds other hother
    · exact absurd hother List.not_mem_nil
  have heventsKind : ∀ other ∈ events, other.kind = "security_event" := by
    intro other hother
    simp only [events] at hother
    split at hother
    · exact heventKinds other hother
    · exact absurd hother List.not_mem_nil
  have hroom : isTruncatedLive env auditLogs securityEvents input = false →
      logs.length + events.length < exportMaxRecords := by
    intro htruncated
    rw [isTruncatedLive, decide_eq_false_iff_not, hperm.length_eq,
      List.length_append] at htruncated
    exact Nat.not_le.mp htruncated
  have hkinds : "audit_log" ≠ "security_event" := by decide
  constructor
  · intro hasLogs
    have hsame : logs = collectAuditLogsLive env auditLogs input :=
      if_pos hasLogs
    refine ExportedLive.within ?_ hperm ?_
    · rw [hsame] at hroom ⊢
      exact hlogSource _ fun htruncated =>
        Nat.lt_of_le_of_lt (Nat.le_add_right _ _) (hroom htruncated)
    · intro other hother hkind
      exact hkinds (hkind.symm.trans (heventsKind other hother))
  · intro hasEvents
    have hsame : events = collectSecurityEventsLive env securityEvents input :=
      if_pos hasEvents
    refine ExportedLive.within ?_ (hperm.trans List.perm_append_comm) ?_
    · rw [hsame] at hroom ⊢
      exact heventSource _ fun htruncated =>
        Nat.lt_of_le_of_lt (Nat.le_add_left _ _) (hroom htruncated)
    · intro other hother hkind
      exact hkinds ((hlogsKind other hother).symm.trans hkind)

namespace LiveExportWitness

open AuditExportWitness

/-- An event more at every query. -/
def growing (turn : Nat) : Table SecurityEvent := events (turn + 3)

theorem keepsTimes_growing :
    KeepsTimes SecurityEvent.createdAt SecurityEvent.id
      fun turn => (growing turn).rows := by
  intro first second left hleft right hright hsame
  obtain ⟨leftNumber, -, rfl⟩ := List.mem_map.mp hleft
  obtain ⟨rightNumber, -, rfl⟩ := List.mem_map.mp hright
  have hlength := congrArg String.length hsame
  rw [length_id_event, length_id_event] at hlength
  rw [hlength]

/-- All events fit the first page. -/
theorem firstPage_growing :
    listSecurityEvents (growing 0) (securityEventsPage input) none =
      ⟨RowOrder.descending
        (listingRank SecurityEvent.createdAt SecurityEvent.id)
        ((List.range 3).map event), none⟩ := by
  have hselect : (growing 0).rows.filter (securityEventsPage input).matching =
      (List.range 3).map event := select_events 3
  have hids : ((growing 0).rows.map SecurityEvent.id).Nodup :=
    (growing 0).nodup
  rw [listSecurityEvents, listRows_eq hids, fetchPage, below_none, hselect]
  apply pageOf_last
  rw [(RowOrder.descending_perm _ _).length_eq, List.length_map,
    List.length_range, securityEventsPage, toPageLimit_exportPageSize]
  decide

theorem collected_growing :
    (collectSecurityEventsLive env growing input).length = 3 := by
  rw [collectSecurityEventsLive, collectRecordsLive, if_pos (by decide)]
  simp only [securityEventQueries, firstPage_growing]
  rw [List.nil_append, List.length_map,
    (RowOrder.descending_perm _ _).length_eq, List.length_map,
    List.length_range]

theorem isTruncatedLive_growing :
    isTruncatedLive env (fun _ => .empty) growing input = false := by
  have hlength : (exportRecordsLive env (fun _ => .empty) growing
      input).length = 3 := by
    rw [exportRecordsLive, List.length_insertionSort]
    exact collected_growing
  rw [isTruncatedLive, hlength]
  decide

theorem createExport_live_growing :
    ∃ other ∈ exportRecordsLive env (fun _ => .empty) growing input,
      other.kind = "security_event" ∧ other.id = (event 2).id := by
  obtain ⟨-, hsource⟩ := createExport_live env (fun _ => .empty) growing input
    (fun _ _ left hleft => absurd hleft (Table.not_mem_empty left))
    keepsTimes_growing
  refine (hsource rfl).complete isTruncatedLive_growing (event 2)
    (List.mem_map_of_mem (by decide)) ?_
    (not_hides_of_whole (fun turn => (growing turn).nodup) ?_ 0 _)
  · intro turn
    have hmem : event 2 ∈ (growing turn).rows :=
      List.mem_map_of_mem (List.mem_range.mpr (by omega))
    exact ⟨event 2, hmem, rfl, rfl⟩
  · intro turn row hrow
    obtain ⟨number, -, rfl⟩ := List.mem_map.mp hrow
    exact congrArg Timestamp.ofInstant
      (Timestamp.toInstant_ofInstant number).symm

end LiveExportWitness

end IdProvider
