/-
The verification of contiguous ranges of the audit chain, against that of the
whole chain.
-/
import IdProvider.AuditCompleteness

namespace IdProvider

open JsonText KeyedTable

/-! ## Ranges -/

/-- From one instant to the next, and from the last one on. -/
def rangesFrom (from_ : Option Instant) :
    List Instant → List (Option Instant × Option Instant)
  | [] => [(from_, none)]
  | to_ :: instants => (from_, some to_) :: rangesFrom (some to_) instants

/-- `{to: t1}`, `{from: t1, to: t2}` and so on to `{from: tn}`. -/
def contiguousRanges (instants : List Instant) :
    List (Option Instant × Option Instant) :=
  rangesFrom none instants

/-- The timestamps are whole milliseconds, as `createAuditLog` writes them. -/
def WholeMillis (table : Table AuditLog) : Prop :=
  ∀ row ∈ table, row.chained = true →
    ∃ instant, row.createdAt = .ofInstant instant

theorem exists_range (row : AuditLog) (instants : List Instant)
    {from_ : Option Instant} (hfrom : inRange from_ none row = true) :
    ∃ range ∈ rangesFrom from_ instants,
      inRange range.1 range.2 row = true := by
  induction instants generalizing from_ with
  | nil => exact ⟨_, List.mem_singleton_self _, hfrom⟩
  | cons to_ instants ih =>
      by_cases hto : row.createdAt.micros ≤ (Timestamp.ofInstant to_).micros
      · refine ⟨_, List.mem_cons_self, ?_⟩
        simp only [inRange, Bool.and_eq_true] at hfrom ⊢
        exact ⟨hfrom.1, decide_eq_true hto⟩
      · have hlater : inRange (some to_) none row = true := by
          simp only [inRange, Bool.and_eq_true]
          exact ⟨decide_eq_true (le_of_lt (not_le.mp hto)), rfl⟩
        obtain ⟨range, hrange, hrow⟩ := ih hlater
        exact ⟨range, List.mem_cons_of_mem _ hrange, hrow⟩

/-- Rows between two rows of a range are in the range. -/
theorem inRange_convex {from_ to_ : Option Instant}
    {low middle high : AuditLog} (hlow : inRange from_ to_ low = true)
    (hhigh : inRange from_ to_ high = true) (hle : low.rank ≤ middle.rank)
    (hle' : middle.rank ≤ high.rank) :
    inRange from_ to_ middle = true := by
  have hmicros : low.createdAt.micros ≤ middle.createdAt.micros :=
    Prod.Lex.monotone_fst _ _ hle
  have hmicros' : middle.createdAt.micros ≤ high.createdAt.micros :=
    Prod.Lex.monotone_fst _ _ hle'
  simp only [inRange, Bool.and_eq_true, Option.all_eq_true] at hlow hhigh ⊢
  constructor
  · intro instant hinstant
    exact decide_eq_true
      (le_trans (of_decide_eq_true (hlow.1 instant hinstant)) hmicros)
  · intro instant hinstant
    exact decide_eq_true
      (le_trans hmicros' (of_decide_eq_true (hhigh.2 instant hinstant)))

/-! ## A row and its predecessor -/

/-- The hash that a row has to name, from the whole table. -/
def precedingHash (table : Table AuditLog) (row : AuditLog) :
    Option String :=
  (RowOrder.predecessor AuditLog.rank (table.select AuditLog.chained)
    row).bind AuditLog.entryHash

theorem nodup_chained (table : Table AuditLog) :
    (table.select AuditLog.chained).Nodup :=
  (List.Nodup.of_map key table.nodup).filter _

/-- The query for the predecessor of the first row of a range. -/
theorem previous_eq_predecessor {table : Table AuditLog} {first : AuditLog}
    {instant : Instant} (hcreated : first.createdAt = .ofInstant instant) :
    (RowOrder.descending AuditLog.rank (table.select fun row =>
        row.chained && isBefore row.createdAt row.id
          ⟨first.createdAt.toInstant, first.id⟩)).head? =
      RowOrder.predecessor AuditLog.rank (table.select AuditLog.chained)
        first := by
  have hrank : AuditCursor.rank ⟨first.createdAt.toInstant, first.id⟩ =
      first.rank := by
    rw [AuditCursor.rank, AuditLog.rank, hcreated,
      Timestamp.toInstant_ofInstant]
  rw [RowOrder.predecessor, Table.select, Table.select, List.filter_filter]
  congr 2
  apply List.filter_congr
  intro row hrow
  rw [isBefore_eq, hrank, Bool.and_comm]
  rfl

theorem select_range (table : Table AuditLog)
    (from_ to_ : Option Instant) :
    (table.select fun row => row.chained && inRange from_ to_ row) =
      (table.select AuditLog.chained).filter (inRange from_ to_) := by
  rw [Table.select, Table.select, List.filter_filter]
  apply List.filter_congr
  intro row hrow
  exact Bool.and_comm _ _

/-- In a range, what the rows before a row leave is the hash of its
predecessor in the table. -/
theorem tip_eq_precedingHash (env : AuditEnv) {table : Table AuditLog}
    {from_ to_ : Option Instant} {before after : List AuditLog}
    {first row : AuditLog}
    (hsplit : RowOrder.ascending AuditLog.rank
      (table.select fun row => row.chained && inRange from_ to_ row) =
        before ++ row :: after)
    (hfirst : (before ++ row :: after).head? = some first) :
    HashChain.tip (chainFormat env) (precedingHash table first) before =
      precedingHash table row := by
  rcases List.eq_nil_or_concat before with rfl | ⟨init, below, rfl⟩
  · cases hfirst
    rfl
  · rw [List.concat_eq_append, HashChain.tip_append]
    rw [select_range, List.concat_eq_append, List.append_assoc] at hsplit
    have hbelow := RowOrder.predecessor_of_split AuditLog.rank
      (nodup_chained table) (rank_injOn table)
      (fun _ _ _ hlow hhigh hle hle' =>
        inRange_convex hlow hhigh hle hle') hsplit
    rw [precedingHash, hbelow]
    rfl

/-! ## A range -/

/-- A range is accepted when each of its rows fits behind its predecessor in
the table. -/
theorem verifyIntegrityRange_ok_iff (env : AuditEnv)
    {table : Table AuditLog} (hmillis : WholeMillis table)
    (from_ to_ : Option Instant) :
    (verifyIntegrityRange env from_ to_ table).ok = true ↔
      ∀ row ∈ table, row.chained = true → inRange from_ to_ row = true →
        HashChain.Fits (chainFormat env) (precedingHash table row) row := by
  have hmem : ∀ row, row ∈ RowOrder.ascending AuditLog.rank
      (table.select fun row => row.chained && inRange from_ to_ row) ↔
        row ∈ table ∧ row.chained = true ∧ inRange from_ to_ row = true := by
    intro row
    rw [(RowOrder.ascending_perm _ _).mem_iff, Table.mem_select,
      Bool.and_eq_true]
  cases hrows : RowOrder.ascending AuditLog.rank
      (table.select fun row => row.chained && inRange from_ to_ row) with
  | nil =>
      have hok : (verifyIntegrityRange env from_ to_ table).ok = true := by
        simp only [verifyIntegrityRange, hrows]
      refine ⟨fun _ row hrow hchained hin => ?_, fun _ => hok⟩
      have hlisted := (hmem row).mpr ⟨hrow, hchained, hin⟩
      rw [hrows] at hlisted
      cases hlisted
  | cons first rest =>
      obtain ⟨hfirst, hchained, -⟩ := (hmem first).mp (by
        rw [hrows]
        exact List.mem_cons_self)
      obtain ⟨instant, hcreated⟩ := hmillis first hfirst hchained
      have hok : (verifyIntegrityRange env from_ to_ table).ok = true ↔
          HashChain.walk (chainFormat env) (precedingHash table first)
            (first :: rest) = none := by
        simp only [verifyIntegrityRange, hrows]
        rw [previous_eq_predecessor hcreated, ← precedingHash]
        cases HashChain.walk (chainFormat env) (precedingHash table first)
            (first :: rest) with
        | none => simp
        | some fault => simp
      rw [hok, HashChain.walk_eq_none, HashChain.linked_iff_fits]
      constructor
      · intro hfits row hrow hchained hin
        have hlisted := (hmem row).mpr ⟨hrow, hchained, hin⟩
        obtain ⟨before, after, hsplit⟩ := List.append_of_mem hlisted
        have hhead : (before ++ row :: after).head? = some first := by
          rw [← hsplit, hrows]
          rfl
        rw [← tip_eq_precedingHash env hsplit hhead]
        exact hfits before row after (hrows.symm.trans hsplit)
      · intro hfits before row after hsplit
        have hlisted := (hmem row).mp (by
          rw [hrows, hsplit]
          exact List.mem_append_right before List.mem_cons_self)
        have hhead : (before ++ row :: after).head? = some first := by
          rw [← hsplit]
          rfl
        rw [tip_eq_precedingHash env (hrows.trans hsplit) hhead]
        exact hfits row hlisted.1 hlisted.2.1 hlisted.2.2

/-- Contiguous ranges accept exactly the chains that the whole range does. -/
theorem verifyIntegrityRange_contiguous (env : AuditEnv)
    (table : Table AuditLog) (hmillis : WholeMillis table)
    (instants : List Instant) :
    (verifyIntegrityRange env none none table).ok = true ↔
      ∀ range ∈ contiguousRanges instants,
        (verifyIntegrityRange env range.1 range.2 table).ok = true := by
  rw [verifyIntegrityRange_ok_iff env hmillis]
  constructor
  · intro hfits range hrange
    rw [verifyIntegrityRange_ok_iff env hmillis]
    intro row hrow hchained hin
    exact hfits row hrow hchained rfl
  · intro hranges row hrow hchained hin
    obtain ⟨range, hrange, hrowIn⟩ := exists_range row instants hin
    exact (verifyIntegrityRange_ok_iff env hmillis range.1 range.2).mp
      (hranges range hrange) row hrow hchained hrowIn

namespace AuditRangesWitness

/-- One digest for every text. -/
def env : AuditEnv where
  collation := .codePoint
  numbers := .ofTexts
  sha256Hex _ := "digest"

def row (id : String) (instant : Instant) (prevHash : Option String) :
    AuditLog where
  id := id
  actorUserId := none
  action := "admin.audit.export.create"
  resourceType := "audit_export"
  resourceId := none
  payload := .obj []
  prevHash := prevHash
  entryHash := some "digest"
  integrityVersion := integrityVersionChained
  createdAt := .ofInstant instant

/-- Two chained rows of one day. -/
def table : Table AuditLog where
  rows := [row "2b90d7e1" 1777204860000 (some "digest"),
    row "c1f4a6de" 1777204800000 none]
  nodup := by decide

theorem wholeMillis : WholeMillis table := by
  intro row hrow hchained
  rcases List.mem_cons.mp hrow with rfl | hrow
  · exact ⟨_, rfl⟩
  · rcases List.mem_cons.mp hrow with rfl | hrow
    · exact ⟨_, rfl⟩
    · cases hrow

/-- Cut at the first row, between the rows and behind them. -/
theorem verifyIntegrityRange_days :
    (verifyIntegrityRange env none none table).checked = 2 ∧
      ∀ range ∈ contiguousRanges
          [1777204800000, 1777204830000, 1777291200000],
        (verifyIntegrityRange env range.1 range.2 table).ok = true := by
  have hwhole : (verifyIntegrityRange env none none table).ok = true := by
    decide +kernel
  exact ⟨by decide +kernel,
    (verifyIntegrityRange_contiguous env table wholeMillis
      [1777204800000, 1777204830000, 1777291200000]).mp hwhole⟩

end AuditRangesWitness

end IdProvider
