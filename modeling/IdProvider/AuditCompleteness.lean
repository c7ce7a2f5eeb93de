/-
Which sequences of audit log calls leave a chain that verifies.
-/
import IdProvider.AuditChain

namespace IdProvider

open JsonText KeyedTable

/-- The chained rows in the order of the verifier. -/
def chainRows (table : Table AuditLog) : List AuditLog :=
  RowOrder.ascending AuditLog.rank (table.select AuditLog.chained)

theorem mem_chainRows {table : Table AuditLog} {row : AuditLog} :
    row ∈ chainRows table ↔ row ∈ table ∧ row.chained = true := by
  rw [chainRows, (RowOrder.ascending_perm _ _).mem_iff, Table.mem_select]

theorem rank_injOn (table : Table AuditLog) :
    ∀ left ∈ table.select AuditLog.chained,
      ∀ right ∈ table.select AuditLog.chained,
        left.rank = right.rank → left = right := by
  intro left hleft right hright hrank
  apply table.eq_of_key_eq (Table.mem_select.mp hleft).1
    (Table.mem_select.mp hright).1
  exact congrArg (fun rank => (ofLex rank).2) hrank

/-- The writer's predecessor is the verifier's last row. -/
theorem latestEntryHash_eq_tip (env : AuditEnv) (table : Table AuditLog) :
    latestEntryHash table =
      HashChain.tip (chainFormat env) none (chainRows table) := by
  rw [latestEntryHash, RowOrder.descending_eq_reverse _ (rank_injOn table),
    List.head?_reverse, ← chainRows, HashChain.tip]
  cases (chainRows table).getLast? with
  | none => rfl
  | some row => rfl

/-- Nothing precedes the first chained row of the table. -/
theorem previous_eq_none {table : Table AuditLog} {first : AuditLog}
    {rest : List AuditLog} (hrows : chainRows table = first :: rest) :
    (table.select fun row => row.chained && isBefore row.createdAt row.id
      ⟨first.createdAt.toInstant, first.id⟩) = [] := by
  have hsorted := RowOrder.pairwise_ascending AuditLog.rank
    (table.select AuditLog.chained)
  rw [← chainRows, hrows, List.pairwise_cons] at hsorted
  rw [Table.select, List.filter_eq_nil_iff]
  intro row hrow hbefore
  rw [Bool.and_eq_true, isBefore_eq, decide_eq_true_eq] at hbefore
  have hlt : row.rank < first.rank :=
    lt_of_lt_of_le hbefore.2 (AuditCursor.rank_le _ _)
  have hmem : row ∈ chainRows table := mem_chainRows.mpr ⟨hrow, hbefore.1⟩
  rw [hrows, List.mem_cons] at hmem
  rcases hmem with hfirst | hrest
  · rw [hfirst] at hlt
    exact lt_irrefl _ hlt
  · exact not_lt_of_ge (hsorted.1 row hrest) hlt

/-- An unbounded verification accepts exactly the linked chains. -/
theorem verifyIntegrityRange_ok (env : AuditEnv) (table : Table AuditLog) :
    (verifyIntegrityRange env none none table).ok = true ↔
      HashChain.Linked (chainFormat env) none (chainRows table) := by
  rw [← HashChain.walk_eq_none]
  have hall : (table.select fun row => row.chained && inRange none none row) =
      table.select AuditLog.chained := by
    simp [inRange]
  simp only [verifyIntegrityRange, hall]
  rw [← chainRows]
  cases hrows : chainRows table with
  | nil => simp [HashChain.walk]
  | cons first rest =>
      dsimp only
      rw [previous_eq_none hrows]
      simp only [RowOrder.descending, List.insertionSort_nil, List.head?_nil,
        Option.bind_none]
      cases HashChain.walk (chainFormat env) none (first :: rest) with
      | none => simp
      | some fault => simp

theorem insertAuditLog_rows {table after : Table AuditLog} {row : AuditLog}
    (hinsert : insertAuditLog table row = some after) :
    after.rows = table.rows ++ [row] := by
  unfold insertAuditLog at hinsert
  split at hinsert
  case isTrue => exact (Table.insert?_eq_some hinsert).2
  case isFalse => cases hinsert

/-- One row is added, with the actor of the call. -/
theorem createAuditLog_added {env : AuditEnv} {now : Instant} {id : String}
    {input : CreateAuditLogInput} {table after : Table AuditLog}
    (hcreate : createAuditLog env now id input table = some after) :
    ∃ row : AuditLog, after.rows = table.rows ++ [row] ∧
      row.actorUserId = input.actorUserId := by
  rw [createAuditLog, Option.bind_eq_bind, Option.bind_eq_some_iff] at hcreate
  obtain ⟨payload, -, hinsert⟩ := hcreate
  split at hinsert
  case isTrue => exact ⟨_, insertAuditLog_rows hinsert, rfl⟩
  case isFalse => exact ⟨_, insertAuditLog_rows hinsert, rfl⟩

theorem chainRows_of_unchained {table after : Table AuditLog} {row : AuditLog}
    (hrows : after.rows = table.rows ++ [row])
    (hchained : row.chained = false) : chainRows after = chainRows table := by
  simp [chainRows, Table.select, hrows, hchained]

theorem chainRows_of_chained {table after : Table AuditLog} {row : AuditLog}
    (hrows : after.rows = table.rows ++ [row]) (hchained : row.chained = true)
    (hlast : ∀ old ∈ table, old.chained = true → old.rank < row.rank) :
    chainRows after = chainRows table ++ [row] := by
  have hselect : after.select AuditLog.chained =
      table.select AuditLog.chained ++ [row] := by
    simp [Table.select, hrows, hchained]
  rw [chainRows, hselect, RowOrder.ascending_append_of_le, chainRows]
  intro old hold
  rw [Table.mem_select] at hold
  exact le_of_lt (hlast old hold.1 hold.2)

/-! ## Runs -/

/-- A call together with what its clock and its id generator return. -/
structure AuditCall where
  now : Instant
  id : String
  input : CreateAuditLogInput

/-- A rejected call leaves the table as it was. -/
def afterCall (env : AuditEnv) (table : Table AuditLog) (call : AuditCall) :
    Table AuditLog :=
  (createAuditLog env call.now call.id call.input table).getD table

def runCalls (env : AuditEnv) (table : Table AuditLog)
    (calls : List AuditCall) : Table AuditLog :=
  calls.foldl (afterCall env) table

/-- Any sequence of calls with fresh ids and a clock that never goes back
keeps the chain verifying. -/
def AuditChainComplete (env : AuditEnv) : Prop :=
  ∀ (table : Table AuditLog) (calls : List AuditCall),
    (verifyIntegrityRange env none none table).ok = true →
    (calls.map AuditCall.id).Nodup →
    (∀ call ∈ calls, ∀ row ∈ table, row.id ≠ call.id) →
    (calls.map AuditCall.now).Pairwise (· ≤ ·) →
    (∀ call ∈ calls, ∀ row ∈ table,
      row.createdAt.micros ≤ (Timestamp.ofInstant call.now).micros) →
    (verifyIntegrityRange env none none (runCalls env table calls)).ok = true

/-- The canonical text of the payload read back is that of the payload
written. -/
def SurvivesStorage (env : AuditEnv) (payload : List (String × JsValue)) :
    Prop :=
  ∀ stored, storeRecord payload = some stored →
    canonicalize env.collation (readJson env.numbers stored) =
      canonicalize env.collation (.obj payload)

/-- A chained call sorts after every chained row, and its payload survives. -/
def AppendsInOrder (env : AuditEnv) (table : Table AuditLog)
    (call : AuditCall) : Prop :=
  shouldUseHashChain call.input.action = true →
    (∀ row ∈ table, row.chained = true →
      row.rank < toLex ((Timestamp.ofInstant call.now).micros, call.id)) ∧
    SurvivesStorage env call.input.payload

def RunsInOrder (env : AuditEnv) : Table AuditLog → List AuditCall → Prop
  | _, [] => True
  | table, call :: calls =>
      AppendsInOrder env table call ∧
        RunsInOrder env (afterCall env table call) calls

/-- The entry hash sees a payload through its canonical text. -/
theorem buildEntryHash_payload (env : AuditEnv) (input : EntryHashInput)
    {payload : JsValue}
    (hpayload : canonicalize env.collation payload =
      canonicalize env.collation input.payload) :
    buildEntryHash env { input with payload := payload } =
      buildEntryHash env input := by
  simp only [buildEntryHash, EntryHashInput.toJsValue, canonicalize,
    canonicalizeFields, hpayload]

/-- What a chained call writes, and what the verifier makes of it. -/
theorem createAuditLog_chained {env : AuditEnv} {table after : Table AuditLog}
    {call : AuditCall}
    (hcreate : createAuditLog env call.now call.id call.input table =
      some after)
    (haction : shouldUseHashChain call.input.action = true) :
    ∃ row : AuditLog, after.rows = table.rows ++ [row] ∧
      row.chained = true ∧
      row.rank = toLex ((Timestamp.ofInstant call.now).micros, call.id) ∧
      row.prevHash = latestEntryHash table ∧
      row.entryHash.isSome = true ∧
      (SurvivesStorage env call.input.payload →
        row.entryHash = some (buildEntryHash env (row.hashInput env))) := by
  simp only [createAuditLog, haction, if_true, Option.bind_eq_bind,
    Option.bind_eq_some_iff] at hcreate
  obtain ⟨stored, hstored, hinsert⟩ := hcreate
  refine ⟨_, insertAuditLog_rows hinsert, rfl, rfl, rfl, rfl, ?_⟩
  intro hsurvives
  have hpayload := hsurvives stored hstored
  have hhash := buildEntryHash_payload env
    { id := call.id
      createdAt := call.now
      actorUserId := call.input.actorUserId
      action := call.input.action
      resourceType := call.input.resourceType
      resourceId := call.input.resourceId
      payload := .obj call.input.payload
      prevHash := latestEntryHash table } hpayload
  simp only [AuditLog.hashInput, Timestamp.toInstant_ofInstant]
  exact congrArg some hhash.symm

theorem createAuditLog_unchained {env : AuditEnv}
    {table after : Table AuditLog} {call : AuditCall}
    (hcreate : createAuditLog env call.now call.id call.input table =
      some after)
    (haction : shouldUseHashChain call.input.action = false) :
    ∃ row : AuditLog, after.rows = table.rows ++ [row] ∧
      row.chained = false := by
  simp only [createAuditLog, haction, Bool.false_eq_true, if_false,
    Option.bind_eq_bind, Option.bind_eq_some_iff] at hcreate
  obtain ⟨stored, -, hinsert⟩ := hcreate
  exact ⟨_, insertAuditLog_rows hinsert, rfl⟩

/-- One call in order keeps the chain linked. -/
theorem linked_afterCall {env : AuditEnv} {table : Table AuditLog}
    {call : AuditCall}
    (hlinked : HashChain.Linked (chainFormat env) none (chainRows table))
    (horder : AppendsInOrder env table call) :
    HashChain.Linked (chainFormat env) none
      (chainRows (afterCall env table call)) := by
  unfold afterCall
  cases hcreate : createAuditLog env call.now call.id call.input table with
  | none => exact hlinked
  | some after =>
      rw [Option.getD_some]
      by_cases haction : shouldUseHashChain call.input.action = true
      · obtain ⟨hlast, hsurvives⟩ := horder haction
        obtain ⟨row, hrows, hchained, hrank, hprev, -, hentry⟩ :=
          createAuditLog_chained hcreate haction
        rw [chainRows_of_chained hrows hchained (by rwa [hrank]),
          HashChain.linked_append]
        exact ⟨hlinked, hprev.trans (latestEntryHash_eq_tip env table),
          hentry hsurvives⟩
      · obtain ⟨row, hrows, hchained⟩ :=
          createAuditLog_unchained hcreate (Bool.eq_false_iff.mpr haction)
        rw [chainRows_of_unchained hrows hchained]
        exact hlinked

theorem linked_runCalls {env : AuditEnv} {table : Table AuditLog}
    {calls : List AuditCall}
    (hlinked : HashChain.Linked (chainFormat env) none (chainRows table))
    (horder : RunsInOrder env table calls) :
    HashChain.Linked (chainFormat env) none
      (chainRows (runCalls env table calls)) := by
  induction calls generalizing table with
  | nil => exact hlinked
  | cons call calls ih =>
      obtain ⟨hcall, hcalls⟩ := horder
      exact ih (linked_afterCall hlinked hcall) hcalls

/-- What the database asks of a call. -/
structure AuditCall.Accepted (call : AuditCall) (table : Table AuditLog) :
    Prop where
  stored : (storeRecord call.input.payload).isSome = true
  action : call.input.action.length ≤ 128
  resourceType : call.input.resourceType.length ≤ 64
  resourceId : call.input.resourceId.all (·.length ≤ 128) = true
  fresh : ∀ row ∈ table, row.id ≠ call.id

theorem exists_createAuditLog (env : AuditEnv) {table : Table AuditLog}
    {call : AuditCall} (haccepted : call.Accepted table) :
    ∃ after, createAuditLog env call.now call.id call.input table =
      some after := by
  obtain ⟨stored, hstored⟩ := Option.isSome_iff_exists.mp haccepted.stored
  have hfits : ∀ row : AuditLog, row.action = call.input.action →
      row.resourceType = call.input.resourceType →
      row.resourceId = call.input.resourceId → row.id = call.id →
      ∃ after, insertAuditLog table row = some after := by
    intro row haction htype hresource hid
    have hcolumns : row.fitsColumns = true := by
      simp only [AuditLog.fitsColumns, haction, htype, hresource,
        Bool.and_eq_true, decide_eq_true_eq]
      exact ⟨⟨haccepted.action, haccepted.resourceType⟩,
        haccepted.resourceId⟩
    rw [insertAuditLog, if_pos hcolumns]
    apply Table.exists_insert?
    intro old hold
    change old.id ≠ row.id
    rw [hid]
    exact haccepted.fresh old hold
  simp only [createAuditLog, hstored, Option.bind_eq_bind, Option.bind_some]
  by_cases haction : shouldUseHashChain call.input.action = true
  · rw [if_pos haction]
    exact hfits _ rfl rfl rfl rfl
  · rw [if_neg haction]
    exact hfits _ rfl rfl rfl rfl

/-- A chained row that sorts before the whole chain breaks it: it names a
predecessor, and the verifier meets none. -/
theorem not_linked_of_below {env : AuditEnv} {table after : Table AuditLog}
    {row : AuditLog} {hash : String}
    (hrows : after.rows = table.rows ++ [row]) (hchained : row.chained = true)
    (hprev : row.prevHash = some hash)
    (hbelow : ∀ old ∈ table, old.chained = true → row.rank < old.rank) :
    ¬ HashChain.Linked (chainFormat env) none (chainRows after) := by
  have hmem : ∀ other, other ∈ chainRows after ↔
      (other ∈ table ∨ other = row) ∧ other.chained = true := by
    intro other
    rw [mem_chainRows, ← mem_rows, hrows, List.mem_append, List.mem_singleton,
      mem_rows]
  have hrow : row ∈ chainRows after := (hmem row).mpr ⟨Or.inr rfl, hchained⟩
  have hsorted := RowOrder.pairwise_ascending AuditLog.rank
    (after.select AuditLog.chained)
  rw [← chainRows] at hsorted
  intro hlinked
  cases hfirst : chainRows after with
  | nil =>
      rw [hfirst] at hrow
      exact absurd hrow List.not_mem_nil
  | cons first rest =>
      rw [hfirst] at hlinked hrow hsorted
      obtain ⟨hold, holdChained⟩ := (hmem first).mp (by simp [hfirst])
      cases hlinked with
      | cons hnone =>
          rcases hold with hold | rfl
          · have hlt := hbelow first hold holdChained
            rcases List.mem_cons.mp hrow with rfl | hrest
            · exact lt_irrefl _ hlt
            · have hle := (List.pairwise_cons.mp hsorted).1 row hrest
              exact not_lt_of_ge hle hlt
          · change first.prevHash = none at hnone
            exact absurd (hprev.symm.trans hnone) (by simp)

namespace AuditWitness

def exportCall (now : Instant) (id : String) : AuditCall where
  now := now
  id := id
  input :=
    { actorUserId := none
      action := "admin.audit.export.create"
      resourceType := "audit_export"
      resourceId := none
      payload := [("kind", .str "all")] }

def firstCall : AuditCall :=
  exportCall 0 "c1f4a6de-52b0-4c33-9d3f-6a7be0a1d501"

/-- In the same millisecond, with a smaller id. -/
def secondCall : AuditCall :=
  exportCall 0 "2b90d7e1-0f6c-4e02-8a44-91c35d6e7f12"

def sameMillisecond : List AuditCall := [firstCall, secondCall]

theorem sameMillisecond_broken (env : AuditEnv) :
    ¬ HashChain.Linked (chainFormat env) none
      (chainRows (runCalls env .empty sameMillisecond)) := by
  have hfirst : firstCall.Accepted .empty :=
    ⟨by decide, by decide, by decide, by decide, by simp⟩
  obtain ⟨table, htable⟩ := exists_createAuditLog env hfirst
  obtain ⟨row, hrows, hchained, hrank, -, hsome, -⟩ :=
    createAuditLog_chained htable (by decide)
  have honly : ∀ old ∈ table, old = row := by
    intro old hold
    rw [← mem_rows, hrows] at hold
    simpa [Table.empty] using hold
  have hid : row.id = firstCall.id :=
    congrArg (fun rank => (ofLex rank).2) hrank
  have hsecond : secondCall.Accepted table := by
    refine ⟨by decide, by decide, by decide, by decide, ?_⟩
    intro old hold
    rw [honly old hold, hid]
    decide
  obtain ⟨after, hafter⟩ := exists_createAuditLog env hsecond
  obtain ⟨next, hnext, hnextChained, hnextRank, hprev, -, -⟩ :=
    createAuditLog_chained hafter (by decide)
  have hlatest : latestEntryHash table = row.entryHash := by
    rw [latestEntryHash_eq_tip env,
      chainRows_of_chained hrows hchained (by simp), HashChain.tip_append]
    rfl
  obtain ⟨hash, hhash⟩ := Option.isSome_iff_exists.mp hsome
  have hrun : runCalls env .empty sameMillisecond = after := by
    simp [runCalls, sameMillisecond, afterCall, htable, hafter]
  rw [hrun]
  apply not_linked_of_below hnext hnextChained
    (hprev.trans (hlatest.trans hhash))
  intro old hold _
  rw [honly old hold, hnextRank, hrank]
  decide

/-- A millisecond later the smaller id does no harm. -/
def laterCall : AuditCall :=
  exportCall 1 "2b90d7e1-0f6c-4e02-8a44-91c35d6e7f12"

/-- SHA-256 on the two texts that the two calls hash. -/
def env : AuditEnv where
  collation := .codePoint
  numbers := .ofTexts
  sha256Hex source :=
    if source.length < 250 then
      "9d0dddffcfdd7143ccd8ae476d84bc6223c8407a9165f0c73ac441c2847f5fb2"
    else
      "84f20f1f2c965464369cebd5ff8a54f73ea6abb3287fb185e82236b945bface2"

theorem survives (now : Instant) (id : String) :
    SurvivesStorage env (exportCall now id).input.payload := by
  intro stored hstored
  have hstore : storeRecord [("kind", .str "all")] =
      some (.obj [("kind", .str "all")]) := by decide
  rw [Option.some.inj (hstored.symm.trans hstore)]
  rfl

theorem runsInOrder : RunsInOrder env .empty [firstCall, laterCall] := by
  refine ⟨fun _ => ⟨by simp, survives _ _⟩, fun _ => ⟨?_, survives _ _⟩,
    trivial⟩
  intro row hrow _
  unfold afterCall at hrow
  cases hcreate : createAuditLog env firstCall.now firstCall.id firstCall.input
      .empty with
  | none => simp [hcreate] at hrow
  | some after =>
      obtain ⟨first, hrows, -, hrank, -⟩ :=
        createAuditLog_chained hcreate (by decide)
      rw [hcreate, Option.getD_some, ← mem_rows, hrows] at hrow
      have hfirst : row = first := by simpa [Table.empty] using hrow
      rw [hfirst, hrank]
      decide

end AuditWitness

end IdProvider
