/-
Calls of `createAuditLog` in transactions of their own or of their callers,
interleaved at every statement.  The advisory lock of the chain makes the
committed rows those of the committed calls one after the other.
-/
import IdProvider.AuditCompleteness
import IdProvider.Transactions

namespace IdProvider

open KeyedTable Transactions

/-! ## One call -/

section Calls

variable (env : AuditEnv)

/-- The row that a call inserts after `prevHash`. -/
def AuditCall.row? (call : AuditCall) (prevHash : Option String) :
    Option AuditLog := do
  let payload ← storeRecord call.input.payload
  let row : AuditLog :=
    { id := call.id
      actorUserId := call.input.actorUserId
      action := call.input.action
      resourceType := call.input.resourceType
      resourceId := call.input.resourceId
      payload := payload
      prevHash := none
      entryHash := none
      integrityVersion := integrityVersionNone
      createdAt := .ofInstant call.now }
  if shouldUseHashChain call.input.action then
    some
      { row with
        prevHash := prevHash
        entryHash := some (buildEntryHash env
          { id := call.id
            createdAt := call.now
            actorUserId := call.input.actorUserId
            action := call.input.action
            resourceType := call.input.resourceType
            resourceId := call.input.resourceId
            payload := .obj call.input.payload
            prevHash := prevHash })
        integrityVersion := integrityVersionChained }
  else some row

/-- The calls one after the other, each of them accepted. -/
def replay (table : Table AuditLog) (calls : List AuditCall) :
    Option (Table AuditLog) :=
  calls.foldlM
    (fun table call => createAuditLog env call.now call.id call.input table)
    table

variable {env}

theorem createAuditLog_eq (call : AuditCall) (table : Table AuditLog) :
    createAuditLog env call.now call.id call.input table =
      (call.row? env (latestEntryHash table)).bind (insertAuditLog table) := by
  unfold createAuditLog AuditCall.row?
  cases storeRecord call.input.payload with
  | none => rfl
  | some payload =>
      simp only [Option.bind_eq_bind, Option.bind_some]
      split
      case isTrue => rfl
      case isFalse => rfl

/-- An unchained row does not depend on what was read. -/
theorem AuditCall.row?_unchained {call : AuditCall}
    (haction : shouldUseHashChain call.input.action = false)
    (left right : Option String) :
    call.row? env left = call.row? env right := by
  simp only [AuditCall.row?, haction, Bool.false_eq_true, if_false]

theorem AuditCall.row?_spec {call : AuditCall} {prevHash : Option String}
    {row : AuditLog} (hrow : call.row? env prevHash = some row) :
    row.id = call.id ∧
      (row.chained = true → shouldUseHashChain call.input.action = true) := by
  unfold AuditCall.row? at hrow
  rw [Option.bind_eq_bind, Option.bind_eq_some_iff] at hrow
  obtain ⟨payload, -, hrow⟩ := hrow
  split at hrow
  case isTrue haction =>
    cases hrow
    exact ⟨rfl, fun _ => haction⟩
  case isFalse =>
    cases hrow
    have hunchained : ¬ (false = true) := Bool.false_ne_true
    exact ⟨rfl, fun hchained => absurd hchained hunchained⟩

theorem insertAuditLog_eq_some {table after : Table AuditLog} {row : AuditLog}
    (hinsert : insertAuditLog table row = some after) :
    row.fitsColumns = true ∧ (∀ old ∈ table, old.id ≠ row.id) ∧
      after.rows = table.rows ++ [row] := by
  unfold insertAuditLog at hinsert
  split at hinsert
  case isTrue hfits =>
    obtain ⟨hfresh, hrows⟩ := Table.insert?_eq_some hinsert
    exact ⟨hfits, hfresh, hrows⟩
  case isFalse => cases hinsert

theorem replay_append (table : Table AuditLog) (calls more : List AuditCall) :
    replay env table (calls ++ more) =
      (replay env table calls).bind fun view => replay env view more := by
  rw [replay, List.foldlM_append]
  rfl

theorem replay_singleton (table : Table AuditLog) (call : AuditCall) :
    replay env table [call] =
      createAuditLog env call.now call.id call.input table := by
  rw [replay, List.foldlM_cons]
  cases createAuditLog env call.now call.id call.input table with
  | none => rfl
  | some after => rfl

theorem replay_cons_eq_some {table view : Table AuditLog} {call : AuditCall}
    {calls : List AuditCall}
    (hreplay : replay env table (call :: calls) = some view) :
    ∃ next row, call.row? env (latestEntryHash table) = some row ∧
      insertAuditLog table row = some next ∧
      replay env next calls = some view := by
  rw [← List.singleton_append, replay_append, replay_singleton,
    createAuditLog_eq, Option.bind_eq_some_iff] at hreplay
  obtain ⟨next, hcreate, hreplay⟩ := hreplay
  obtain ⟨row, hrow, hinsert⟩ := Option.bind_eq_some_iff.mp hcreate
  exact ⟨next, row, hrow, hinsert, hreplay⟩

theorem replay_cons {table next : Table AuditLog} {call : AuditCall}
    {calls : List AuditCall} {row : AuditLog}
    (hrow : call.row? env (latestEntryHash table) = some row)
    (hinsert : insertAuditLog table row = some next) :
    replay env table (call :: calls) = replay env next calls := by
  rw [← List.singleton_append, replay_append, replay_singleton,
    createAuditLog_eq, hrow, Option.bind_some, hinsert, Option.bind_some]

/-- Calls write the same rows beside the rows of others, when those have other
ids and leave the chain alone that the calls go on with. -/
theorem replay_besides {calls : List AuditCall}
    {table after view : Table AuditLog}
    (hothers : ∀ row ∈ after, row ∈ table ∨ row.id ∉ calls.map AuditCall.id)
    (hchain : (∃ call ∈ calls, shouldUseHashChain call.input.action = true) →
      after.select AuditLog.chained = table.select AuditLog.chained)
    (hreplay : replay env table calls = some view) :
    ∃ written later, view.rows = table.rows ++ written ∧
      replay env after calls = some later ∧
      later.rows = after.rows ++ written := by
  induction calls generalizing table after with
  | nil =>
      cases hreplay
      exact ⟨[], after, (List.append_nil _).symm, rfl,
        (List.append_nil _).symm⟩
  | cons call calls ih =>
      obtain ⟨next, row, hrow, hinsert, hrest⟩ := replay_cons_eq_some hreplay
      obtain ⟨hfits, hfresh, hrows⟩ := insertAuditLog_eq_some hinsert
      obtain ⟨hid, -⟩ := AuditCall.row?_spec hrow
      have hsame : call.row? env (latestEntryHash after) = some row := by
        rw [← hrow]
        by_cases haction : shouldUseHashChain call.input.action = true
        · have hselect := hchain ⟨call, List.mem_cons_self, haction⟩
          unfold latestEntryHash
          rw [hselect]
        · exact AuditCall.row?_unchained (Bool.eq_false_iff.mpr haction) _ _
      have hfree : ∀ old ∈ after, old.id ≠ row.id := by
        intro old hold
        rcases hothers old hold with hmem | hid'
        · exact hfresh old hmem
        · intro hsameId
          exact hid' (by rw [hsameId, hid]; exact List.mem_cons_self)
      obtain ⟨following, hfollowing⟩ : ∃ following,
          insertAuditLog after row = some following := by
        rw [insertAuditLog, if_pos hfits]
        exact Table.exists_insert? hfree
      have hfollowingRows := insertAuditLog_rows hfollowing
      have hothers' : ∀ other ∈ following,
          other ∈ next ∨ other.id ∉ calls.map AuditCall.id := by
        intro other hother
        rw [← mem_rows, hfollowingRows, List.mem_append, mem_rows] at hother
        rw [← mem_rows, hrows, List.mem_append, mem_rows]
        rcases hother with hold | hnew
        · rcases hothers other hold with hmem | hid'
          · exact .inl (.inl hmem)
          · exact .inr fun hmem => hid' (List.mem_cons_of_mem _ hmem)
        · exact .inl (.inr hnew)
      have hchain' : (∃ call ∈ calls,
          shouldUseHashChain call.input.action = true) →
          following.select AuditLog.chained = next.select AuditLog.chained := by
        rintro ⟨other, hother, haction⟩
        have hselect := hchain ⟨other, List.mem_cons_of_mem _ hother, haction⟩
        unfold Table.select at hselect ⊢
        rw [hfollowingRows, hrows, List.filter_append, List.filter_append,
          hselect]
      obtain ⟨written, later, hview, hlater, hlaterRows⟩ :=
        ih hothers' hchain' hrest
      refine ⟨row :: written, later, ?_, ?_, ?_⟩
      · rw [hview, hrows, List.append_assoc, List.singleton_append]
      · rw [replay_cons hsame hfollowing, hlater]
      · rw [hlaterRows, hfollowingRows, List.append_assoc,
          List.singleton_append]

theorem runCalls_of_replay {table view : Table AuditLog}
    {calls : List AuditCall} (hreplay : replay env table calls = some view) :
    runCalls env table calls = view := by
  induction calls generalizing table with
  | nil => exact Option.some.inj hreplay
  | cons call calls ih =>
      obtain ⟨next, row, hrow, hinsert, hrest⟩ := replay_cons_eq_some hreplay
      have hcall : afterCall env table call = next := by
        rw [afterCall, createAuditLog_eq, hrow, Option.bind_some, hinsert,
          Option.getD_some]
      rw [runCalls, List.foldl_cons, hcall]
      exact ih hrest

end Calls

/-! ## Transactions -/

structure AuditDb where
  auditLogs : Table AuditLog
  committed : List (List AuditCall)

/-- The lock of `lockAuditChain`, and that of a row whose id is not committed
yet. -/
inductive AuditLock where
  | chain
  | row (id : String)
deriving DecidableEq

/-- Where a call is between its awaits. -/
inductive AuditPhase where
  | next
  | locked
  | selected (prevHash : Option String)

/-- What is left of a transaction, the calls that it has made, and the rows
that they have inserted. -/
structure AuditTxn where
  calls : List CreateAuditLogInput
  phase : AuditPhase
  done : List AuditCall
  written : List AuditLog

/-- What `new Date()` and `randomUUID()` return to a statement, unless it
fails. -/
structure AuditInput where
  now : Instant
  id : String
  fails : Bool

namespace AuditTxn

/-- What the statements of a transaction see: what has committed, and its own
rows. -/
def view (txn : AuditTxn) (auditLogs : Table AuditLog) :
    Option (Table AuditLog) :=
  txn.written.foldlM (fun table row => table.insert? row) auditLogs

/-- The insertion of a row, that of another transaction with its id awaited. -/
def insert (env : AuditEnv) (auditLogs : Table AuditLog) (txn : AuditTxn)
    (call : AuditCall) (calls : List CreateAuditLogInput)
    (prevHash : Option String) : Outcome AuditDb AuditTxn AuditLock :=
  match call.row? env prevHash, txn.view auditLogs with
  | some row, some view =>
      match insertAuditLog view row with
      | some _ =>
          .proceed
            { calls := calls
              phase := .next
              done := txn.done ++ [call]
              written := txn.written ++ [row] } [.row call.id]
      | none => .stop
  | _, _ => .stop

def statement (env : AuditEnv) (db : AuditDb) (txn : AuditTxn)
    (input : AuditInput) : Outcome AuditDb AuditTxn AuditLock :=
  if input.fails then .stop
  else
    match txn.calls with
    | [] =>
        .ofCommit ((txn.view db.auditLogs).map fun auditLogs =>
          { auditLogs := auditLogs, committed := db.committed ++ [txn.done] })
    | call :: calls =>
        match txn.phase with
        | .next =>
            if shouldUseHashChain call.action then
              .proceed { txn with phase := .locked } [.chain]
            else
              insert env db.auditLogs txn ⟨input.now, input.id, call⟩ calls none
        | .locked =>
            match txn.view db.auditLogs with
            | some view =>
                .proceed
                  { txn with phase := .selected (latestEntryHash view) } []
            | none => .stop
        | .selected prevHash =>
            insert env db.auditLogs txn ⟨input.now, input.id, call⟩ calls
              prevHash

def code (env : AuditEnv) :
    Code AuditDb AuditTxn AuditLock (List CreateAuditLogInput) AuditInput
      Empty where
  start calls := ⟨calls, .next, [], []⟩
  statement db _ := statement env db
  environment _ _ := none

end AuditTxn

abbrev AuditPool :=
  Interleaving.Pool (Store AuditDb AuditLock) (Thread AuditTxn AuditLock) Nat

abbrev AuditAction :=
  Interleaving.Action (List CreateAuditLogInput) AuditInput Empty Nat

/-- The committed rows are those of whole transactions one after the other,
and they verify when each of the calls came in order. -/
structure SerialAudit (env : AuditEnv) (table : Table AuditLog)
    (actions : List AuditAction) (db : AuditDb) : Prop where
  whole : ∀ calls ∈ db.committed, ∃ id,
    .spawn id (calls.map AuditCall.input) ∈ actions
  replayed : replay env table db.committed.flatten = some db.auditLogs
  verifies : (verifyIntegrityRange env none none table).ok = true →
    RunsInOrder env table db.committed.flatten →
    (verifyIntegrityRange env none none db.auditLogs).ok = true

/-! ## What a transaction knows -/

section Views

variable {env : AuditEnv}

theorem AuditTxn.view_eq {txn : AuditTxn} {auditLogs view : Table AuditLog}
    (hrows : view.rows = auditLogs.rows ++ txn.written) :
    txn.view auditLogs = some view := by
  have hinserts : ∀ (written : List AuditLog) (table : Table AuditLog),
      view.rows = table.rows ++ written →
      written.foldlM (fun table row => table.insert? row) table =
        some view := by
    intro written
    induction written with
    | nil =>
        intro table hview
        rw [List.append_nil] at hview
        rw [List.foldlM_nil, Table.ext hview]
        rfl
    | cons row written ih =>
        intro table hview
        have hfresh : ∀ old ∈ table, old.id ≠ row.id := by
          have hnodup := view.nodup
          rw [hview, List.map_append, List.nodup_append'] at hnodup
          intro old hold hid
          exact hnodup.2.2 (List.mem_map_of_mem hold)
            (List.mem_map.mpr ⟨row, List.mem_cons_self, hid.symm⟩)
        obtain ⟨next, hnext⟩ := Table.exists_insert? hfresh
        rw [List.foldlM_cons, hnext]
        apply ih next
        rw [(Table.insert?_eq_some hnext).2, hview, List.append_assoc,
          List.singleton_append]
  exact hinserts txn.written auditLogs hrows

/-- All calls of a transaction. -/
def AuditTxn.asked (txn : AuditTxn) : List CreateAuditLogInput :=
  txn.done.map AuditCall.input ++ txn.calls

theorem AuditTxn.asked_insert {auditLogs : Table AuditLog}
    {txn next : AuditTxn} {call : AuditCall}
    {calls : List CreateAuditLogInput} {prevHash : Option String}
    {locks : List AuditLock} (hcalls : txn.calls = call.input :: calls)
    (hinsert : AuditTxn.insert env auditLogs txn call calls prevHash =
      .proceed next locks) : next.asked = txn.asked := by
  unfold AuditTxn.insert at hinsert
  split at hinsert
  · split at hinsert
    · cases hinsert
      rw [AuditTxn.asked, AuditTxn.asked, hcalls, List.map_append,
        List.append_assoc]
      rfl
    · cases hinsert
  · cases hinsert

theorem AuditTxn.asked_proceed {db : AuditDb} {txn next : AuditTxn}
    {input : AuditInput} {locks : List AuditLock}
    (hproceed : AuditTxn.statement env db txn input = .proceed next locks) :
    next.asked = txn.asked := by
  unfold AuditTxn.statement at hproceed
  split at hproceed
  case isTrue => cases hproceed
  split at hproceed
  case h_1 => exact absurd hproceed Outcome.ofCommit_ne_proceed
  case h_2 call calls hcalls =>
    split at hproceed
    case h_1 =>
      split at hproceed
      case isTrue =>
        cases hproceed
        rfl
      case isFalse => exact AuditTxn.asked_insert hcalls hproceed
    case h_2 =>
      split at hproceed
      case h_1 =>
        cases hproceed
        rfl
      case h_2 => cases hproceed
    case h_3 => exact AuditTxn.asked_insert hcalls hproceed

/-- A transaction is in the chain from the lock on. -/
def AuditTxn.InChain (txn : AuditTxn) : Prop :=
  txn.phase ≠ .next ∨
    ∃ call ∈ txn.done, shouldUseHashChain call.input.action = true

/-- What a transaction sees is what its calls make of the committed rows, and
it holds the locks for that to stay so. -/
structure AuditTxn.Sees (env : AuditEnv) (auditLogs : Table AuditLog)
    (held : List AuditLock) (txn : AuditTxn) (view : Table AuditLog) :
    Prop where
  rows : view.rows = auditLogs.rows ++ txn.written
  replayed : replay env auditLogs txn.done = some view
  ids : ∀ call ∈ txn.done, .row call.id ∈ held
  writes : ∀ row ∈ txn.written, .row row.id ∈ held ∧
    (row.chained = true → .chain ∈ held)
  chain : txn.InChain → .chain ∈ held
  selected : ∀ prevHash, txn.phase = .selected prevHash →
    prevHash = latestEntryHash view

/-- What a commit under some locks adds. -/
def AuditTxn.Adds (held : List AuditLock) (db after : AuditDb) : Prop :=
  ∃ written, after.auditLogs.rows = db.auditLogs.rows ++ written ∧
    ∀ row ∈ written, .row row.id ∈ held ∧ (row.chained = true → .chain ∈ held)

theorem AuditTxn.Sees.insert {auditLogs view : Table AuditLog}
    {held locks : List AuditLock} {txn next : AuditTxn} {call : AuditCall}
    {calls : List CreateAuditLogInput} {prevHash : Option String}
    (hsees : txn.Sees env auditLogs held view)
    (hchain : shouldUseHashChain call.input.action = true →
      .chain ∈ held ∧ prevHash = latestEntryHash view)
    (hinsert : AuditTxn.insert env auditLogs txn call calls prevHash =
      .proceed next locks) :
    ∃ after, next.Sees env auditLogs (locks ++ held) after := by
  unfold AuditTxn.insert at hinsert
  rw [AuditTxn.view_eq hsees.rows] at hinsert
  cases hrow : call.row? env prevHash with
  | none =>
      rw [hrow] at hinsert
      cases hinsert
  | some row =>
      rw [hrow] at hinsert
      dsimp only at hinsert
      cases hafter : insertAuditLog view row with
      | none =>
          rw [hafter] at hinsert
          cases hinsert
      | some after =>
          rw [hafter] at hinsert
          cases hinsert
          obtain ⟨hid, hchained⟩ := AuditCall.row?_spec hrow
          have hread : call.row? env (latestEntryHash view) = some row := by
            rw [← hrow]
            by_cases haction : shouldUseHashChain call.input.action = true
            · rw [(hchain haction).2]
            · exact AuditCall.row?_unchained (Bool.eq_false_iff.mpr haction) _ _
          refine ⟨after, ?_, ?_, ?_, ?_, ?_, ?_⟩
          · rw [insertAuditLog_rows hafter, hsees.rows, List.append_assoc]
          · rw [replay_append, hsees.replayed, Option.bind_some,
              replay_singleton, createAuditLog_eq, hread, Option.bind_some,
              hafter]
          · intro other hother
            rcases List.mem_append.mp hother with hold | hnew
            · exact List.mem_cons_of_mem _ (hsees.ids other hold)
            · rw [List.mem_singleton.mp hnew]
              exact List.mem_cons_self
          · intro other hother
            rcases List.mem_append.mp hother with hold | hnew
            · obtain ⟨hlock, hchainLock⟩ := hsees.writes other hold
              exact ⟨List.mem_cons_of_mem _ hlock,
                fun hother => List.mem_cons_of_mem _ (hchainLock hother)⟩
            · rw [List.mem_singleton.mp hnew, hid]
              exact ⟨List.mem_cons_self, fun hother =>
                List.mem_cons_of_mem _ (hchain (hchained hother)).1⟩
          · rintro (hphase | ⟨other, hother, haction⟩)
            · exact absurd rfl hphase
            · apply List.mem_cons_of_mem
              rcases List.mem_append.mp hother with hold | hnew
              · exact hsees.chain (.inr ⟨other, hold, haction⟩)
              · rw [List.mem_singleton.mp hnew] at haction
                exact (hchain haction).1
          · intro other hphase
            cases hphase

/-- Under its locks a transaction sees the same of itself beside the rows that
others commit. -/
theorem AuditTxn.Sees.stable {db after : AuditDb} {others held : List AuditLock}
    {txn : AuditTxn} {view : Table AuditLog}
    (hsees : txn.Sees env db.auditLogs held view)
    (hadds : AuditTxn.Adds others db after) (hapart : others.Disjoint held) :
    ∃ later, txn.Sees env after.auditLogs held later := by
  obtain ⟨added, hadded, hlocks⟩ := hadds
  have hothers : ∀ row ∈ after.auditLogs, row ∈ db.auditLogs ∨
      row.id ∉ txn.done.map AuditCall.id := by
    intro row hrow
    rw [← mem_rows, hadded, List.mem_append, mem_rows] at hrow
    rcases hrow with hold | hnew
    · exact .inl hold
    · right
      intro hid
      obtain ⟨call, hcall, hcallId⟩ := List.mem_map.mp hid
      have hheld := hsees.ids call hcall
      rw [hcallId] at hheld
      exact hapart (hlocks row hnew).1 hheld
  have hselect : AuditLock.chain ∈ held →
      after.auditLogs.select AuditLog.chained =
        db.auditLogs.select AuditLog.chained := by
    intro hchain
    have hnone : added.filter AuditLog.chained = [] := by
      rw [List.filter_eq_nil_iff]
      intro row hrow hchained
      exact hapart ((hlocks row hrow).2 hchained) hchain
    rw [Table.select, hadded, List.filter_append, hnone, List.append_nil]
    rfl
  obtain ⟨written, later, hview, hlater, hrows⟩ := replay_besides hothers
    (fun hcalls => hselect (hsees.chain (.inr hcalls))) hsees.replayed
  have hwritten : written = txn.written := by
    rw [hsees.rows] at hview
    exact (List.append_cancel_left hview).symm
  rw [hwritten] at hrows
  refine ⟨later, hrows, hlater, hsees.ids, hsees.writes, hsees.chain, ?_⟩
  intro prevHash hphase
  have hinChain : txn.InChain := .inl (by rw [hphase]; exact nofun)
  have hsame : later.select AuditLog.chained =
      view.select AuditLog.chained := by
    have hcommitted := hselect (hsees.chain hinChain)
    unfold Table.select at hcommitted ⊢
    rw [hrows, hsees.rows, List.filter_append, List.filter_append, hcommitted]
  rw [hsees.selected prevHash hphase, latestEntryHash, latestEntryHash, hsame]

end Views

/-! ## Runs -/

section Runs

variable (env : AuditEnv) (table : Table AuditLog)
  (Asked : List CreateAuditLogInput → Prop)

def auditDiscipline : Discipline AuditDb AuditTxn AuditLock where
  DbOk db := (∀ calls ∈ db.committed, Asked (calls.map AuditCall.input)) ∧
    replay env table db.committed.flatten = some db.auditLogs
  TxnOk db held txn := ∃ view, txn.Sees env db.auditLogs held view
  Respects held db after := AuditTxn.Adds held db after

variable {env table Asked}

theorem AuditTxn.Sees.proceed {db : AuditDb} {held locks : List AuditLock}
    {txn next : AuditTxn} {input : AuditInput} {view : Table AuditLog}
    (hsees : txn.Sees env db.auditLogs held view)
    (hproceed : AuditTxn.statement env db txn input = .proceed next locks) :
    ∃ after, next.Sees env db.auditLogs (locks ++ held) after := by
  unfold AuditTxn.statement at hproceed
  split at hproceed
  case isTrue => cases hproceed
  split at hproceed
  case h_1 => exact absurd hproceed Outcome.ofCommit_ne_proceed
  case h_2 call calls hcalls =>
    split at hproceed
    case h_1 hphase =>
      split at hproceed
      case isTrue haction =>
        cases hproceed
        refine ⟨view, hsees.rows, hsees.replayed, ?_, ?_, ?_, ?_⟩
        · exact fun call hcall => List.mem_cons_of_mem _ (hsees.ids call hcall)
        · intro row hrow
          have hlock := (hsees.writes row hrow).1
          exact ⟨List.mem_cons_of_mem _ hlock, fun _ => List.mem_cons_self⟩
        · exact fun _ => List.mem_cons_self
        · exact nofun
      case isFalse haction =>
        exact hsees.insert (fun hchained => absurd hchained haction) hproceed
    case h_2 hphase =>
      rw [AuditTxn.view_eq hsees.rows] at hproceed
      cases hproceed
      refine ⟨view, hsees.rows, hsees.replayed, hsees.ids, hsees.writes,
        fun _ => hsees.chain (.inl ?_), ?_⟩
      · rw [hphase]
        exact nofun
      · intro prevHash hselected
        cases hselected
        rfl
    case h_3 prevHash hphase =>
      refine hsees.insert (fun _ => ⟨hsees.chain (.inl ?_), ?_⟩) hproceed
      · rw [hphase]
        exact nofun
      · exact hsees.selected prevHash hphase

theorem AuditTxn.Sees.commit {db after : AuditDb} {held : List AuditLock}
    {txn : AuditTxn} {input : AuditInput} {view : Table AuditLog}
    (hsees : txn.Sees env db.auditLogs held view)
    (hcommit : AuditTxn.statement env db txn input = .commit after) :
    txn.calls = [] ∧ after = ⟨view, db.committed ++ [txn.done]⟩ := by
  unfold AuditTxn.statement at hcommit
  split at hcommit
  case isTrue => cases hcommit
  split at hcommit
  case h_1 hcalls =>
    rw [AuditTxn.view_eq hsees.rows, Option.map_some,
      Outcome.ofCommit_eq_commit] at hcommit
    exact ⟨hcalls, (Option.some.inj hcommit).symm⟩
  case h_2 call calls hcalls =>
    have hinsert : ∀ call calls prevHash, AuditTxn.insert env db.auditLogs txn
        call calls prevHash ≠ .commit after := by
      intro call calls prevHash hinsert
      unfold AuditTxn.insert at hinsert
      split at hinsert
      · split at hinsert <;> cases hinsert
      · cases hinsert
    split at hcommit
    case h_1 =>
      split at hcommit
      case isTrue => cases hcommit
      case isFalse => exact absurd hcommit (hinsert _ _ _)
    case h_2 =>
      split at hcommit <;> cases hcommit
    case h_3 => exact absurd hcommit (hinsert _ _ _)

theorem auditDiscipline_sound :
    (auditDiscipline env table Asked).Sound (AuditTxn.code env)
      (fun _ txn _ => Asked txn.asked) where
  start db call hdb := by
    refine ⟨db.auditLogs, (List.append_nil _).symm, rfl, ?_, ?_, ?_, ?_⟩
    · exact fun call hcall => absurd hcall List.not_mem_nil
    · exact fun row hrow => absurd hrow List.not_mem_nil
    · rintro (hphase | ⟨call, hcall, -⟩)
      · exact absurd rfl hphase
      · exact absurd hcall List.not_mem_nil
    · exact nofun
  proceed db busy held txn input next locks hdb htxn hcondition hproceed := by
    obtain ⟨view, hsees⟩ := htxn
    exact hsees.proceed hproceed
  commit db busy held txn input after hdb htxn hasked hcommit := by
    obtain ⟨view, hsees⟩ := htxn
    obtain ⟨hcalls, rfl⟩ := hsees.commit hcommit
    obtain ⟨hwhole, hreplayed⟩ := hdb
    refine ⟨⟨?_, ?_⟩, txn.written, hsees.rows, hsees.writes⟩
    · intro calls hcommitted
      rcases List.mem_append.mp hcommitted with hold | hnew
      · exact hwhole calls hold
      · rw [AuditTxn.asked, hcalls, List.append_nil] at hasked
        rw [List.mem_singleton.mp hnew]
        exact hasked
    · change replay env table (db.committed ++ [txn.done]).flatten = some view
      rw [List.flatten_append, List.flatten_singleton, replay_append,
        hreplayed, Option.bind_some, hsees.replayed]
  stable db after others held txn hadds hapart htxn := by
    obtain ⟨view, hsees⟩ := htxn
    exact hsees.stable hadds hapart
  environment db event after hdb henvironment := by cases henvironment

end Runs

namespace AuditTransactionsWitness

open AuditWitness

/-- What a statement is given for a call. -/
def drawn (call : AuditCall) : AuditInput := ⟨call.now, call.id, false⟩

/-- The second transaction begins before the first has the lock. -/
def actions : List AuditAction :=
  [.spawn 0 [firstCall.input], .spawn 1 [laterCall.input],
    .advance 0 (drawn firstCall), .advance 0 (drawn firstCall),
    .advance 0 (drawn firstCall), .advance 0 (drawn firstCall),
    .advance 1 (drawn laterCall), .advance 1 (drawn laterCall),
    .advance 1 (drawn laterCall), .advance 1 (drawn laterCall)]

def last : AuditPool :=
  StepSystem.after (Interleaving.step (program (AuditTxn.code env)))
    (initial ⟨.empty, []⟩) actions

theorem committed_last :
    last.shared.db.committed = [[firstCall], [laterCall]] := rfl

end AuditTransactionsWitness

end IdProvider
