/-
The unused recovery codes of a user belong to one batch, as long as no batch
is stored behind the back of the statement that revokes the older ones.
-/
import IdProvider.RecoverySingleUse

namespace IdProvider

open Interleaving KeyedTable

/-- All codes of a user that could still be consumed are of one batch. -/
def OneActiveBatch (store : RecoveryStore) : Prop :=
  ∀ left ∈ store.mfaRecoveryCodes.rows,
    ∀ right ∈ store.mfaRecoveryCodes.rows, left.userId = right.userId →
      left.isUnused = true → right.isUnused = true →
        left.batchId = right.batchId

instance (store : RecoveryStore) : Decidable (OneActiveBatch store) :=
  inferInstanceAs (Decidable (∀ left ∈ store.mfaRecoveryCodes.rows,
    ∀ right ∈ store.mfaRecoveryCodes.rows, left.userId = right.userId →
      left.isUnused = true → right.isUnused = true →
        left.batchId = right.batchId))

/-- When a batch is inserted, every unused code of its user is of a batch that
was there when its own revocation took its snapshot. -/
def RevokesEarlier (env : RecoveryEnv) (store : RecoveryStore) :
    RecoveryThread → RecoveryInput → Prop
  | .inserting batch _ _ _ seen, _ =>
      store.lookupHashesFree
        (batch.codes.map fun code => env.lookupHash code.text) = true →
      ∀ row ∈ store.mfaRecoveryCodes.rows, row.userId = batch.userId →
        row.isUnused = true → row.batchId ∈ seen
  | .countingActive _, _ | .regenerating _, _ | .generating _ _ _, _
  | .revoking _ _ _ _, _ | .auditing _ _, _ | .reporting _ _, _
  | .lookingUp _ _, _ | .marking _ _ _, _ | .countingLeft _, _
  | .auditingUse _ _, _ | .reportingUse _ _, _ | .warning _ _, _ => True

instance (env : RecoveryEnv) (store : RecoveryStore)
    (thread : RecoveryThread) (input : RecoveryInput) :
    Decidable (RevokesEarlier env store thread input) :=
  match thread with
  | .inserting batch _ _ _ seen => inferInstanceAs (Decidable
      (store.lookupHashesFree
        (batch.codes.map fun code => env.lookupHash code.text) = true →
      ∀ row ∈ store.mfaRecoveryCodes.rows, row.userId = batch.userId →
        row.isUnused = true → row.batchId ∈ seen))
  | .countingActive _ | .regenerating _ | .generating _ _ _
  | .revoking _ _ _ _ | .auditing _ _ | .reporting _ _ | .lookingUp _ _
  | .marking _ _ _ | .countingLeft _ | .auditingUse _ _
  | .reportingUse _ _ | .warning _ _ => .isTrue trivial

/-! ## Snapshots -/

/-- The rows that a revocation saw, and their batches. -/
structure Snapped (codes : Table RecoveryCodeRow) (batch : NewBatch)
    (ids seen : List String) : Prop where
  codes_ne : batch.codes ≠ []
  covers : ∀ row ∈ codes, row.userId = batch.userId → row.batchId ∈ seen →
    row.isUnused = true → row.id ∈ ids
  known : ∀ row ∈ codes, row.id ∈ ids → row.batchId ∈ seen
  stored : ∀ batchId ∈ seen, ∃ row ∈ codes, row.batchId = batchId
  present : ∀ id ∈ ids, ∃ row ∈ codes, row.id = id

/-- New rows are of a new batch. -/
def NewlyBatched (before : Table RecoveryCodeRow) (row : RecoveryCodeRow) :
    Prop :=
  ∀ old ∈ before, old.batchId ≠ row.batchId

def RecoveryThread.Snaps (store : RecoveryStore) : RecoveryThread → Prop
  | .revoking batch _ active seen =>
      Snapped store.mfaRecoveryCodes batch active seen
  | .inserting batch _ revoked _ seen =>
      Snapped store.mfaRecoveryCodes batch revoked seen
  | .countingActive _ | .regenerating _ | .generating _ _ _ | .auditing _ _
  | .reporting _ _ | .lookingUp _ _ | .marking _ _ _ | .countingLeft _
  | .auditingUse _ _ | .reportingUse _ _ | .warning _ _ => True

section Steps

variable {env : RecoveryEnv} {before after : RecoveryStore}
  {next : Option RecoveryThread} {codes codes' : Table RecoveryCodeRow}

theorem Succeeds.mono {New New' : RecoveryCodeRow → Prop}
    (hsucceeds : Succeeds New codes codes') (hnew : ∀ row, New row → New' row) :
    Succeeds New' codes codes' :=
  ⟨hsucceeds.kept, fun row hrow => (hsucceeds.origin row hrow).imp_right
    (hnew row)⟩

/-- What others insert is of no batch in the snapshot. -/
theorem Snapped.later {batch : NewBatch} {ids seen : List String}
    (hsnapped : Snapped codes batch ids seen)
    (hsucceeds : Succeeds (NewlyBatched codes) codes codes') :
    Snapped codes' batch ids seen := by
  have hold : ∀ row ∈ codes', row.batchId ∈ seen →
      ∃ old ∈ codes, old.Later row := by
    intro row hrow hseen
    rcases hsucceeds.origin row hrow with hfrom | hnew
    · exact hfrom
    · obtain ⟨old, hold, hbatch⟩ := hsnapped.stored row.batchId hseen
      exact absurd hbatch (hnew old hold)
  constructor
  · exact hsnapped.codes_ne
  · intro row hrow howner hseen hunused
    obtain ⟨old, holdMem, hsame⟩ := hold row hrow hseen
    rw [hsame.id]
    apply hsnapped.covers old holdMem
    · rw [← hsame.userId, howner]
    · rw [← hsame.batchId]
      exact hseen
    · exact hsame.unused hunused
  · intro row hrow hid
    obtain ⟨old, holdMem, holdId⟩ := hsnapped.present row.id hid
    obtain ⟨same, hsameMem, hsame⟩ := hsucceeds.kept old holdMem
    have heq : same = row :=
      codes'.eq_of_key_eq hsameMem hrow (hsame.id.trans holdId)
    rw [← heq, hsame.batchId]
    apply hsnapped.known old holdMem
    rw [holdId]
    exact hid
  · intro batchId hseen
    obtain ⟨old, holdMem, hbatch⟩ := hsnapped.stored batchId hseen
    obtain ⟨same, hsameMem, hsame⟩ := hsucceeds.kept old holdMem
    exact ⟨same, hsameMem, hsame.batchId.trans hbatch⟩
  · intro id hid
    obtain ⟨old, holdMem, holdId⟩ := hsnapped.present id hid
    obtain ⟨same, hsameMem, hsame⟩ := hsucceeds.kept old holdMem
    exact ⟨same, hsameMem, hsame.id.trans holdId⟩

theorem RecoveryThread.Snaps.later {thread : RecoveryThread}
    (hthread : thread.Snaps before)
    (hsucceeds : Succeeds (NewlyBatched before.mfaRecoveryCodes)
      before.mfaRecoveryCodes after.mfaRecoveryCodes) :
    thread.Snaps after := by
  cases thread with
  | revoking batch ticket active seen => exact Snapped.later hthread hsucceeds
  | inserting batch ticket revoked revokedAt seen =>
      exact Snapped.later hthread hsucceeds
  | countingActive | regenerating | generating | auditing | reporting
  | lookingUp | marking | countingLeft | auditingUse | reportingUse
  | warning => trivial

/-! ## Steps -/

theorem length_generatePlainCodes {draws : List CodeDraw}
    {codes : List PlainCode}
    (hcodes : draws.mapM env.generatePlainCode = some codes) :
    codes.length = draws.length := by
  induction draws generalizing codes with
  | nil =>
      cases hcodes
      rfl
  | cons draw draws ih =>
      rw [List.mapM_cons, Option.bind_eq_bind, Option.bind_eq_some_iff]
        at hcodes
      obtain ⟨code, -, hrest⟩ := hcodes
      rw [Option.bind_eq_bind, Option.bind_eq_some_iff] at hrest
      obtain ⟨rest, hrest, heq⟩ := hrest
      cases heq
      rw [List.length_cons, List.length_cons, ih hrest]

/-- At least one code is configured. -/
theorem newBatch_codes {userId : String} {reason : GenerationReason}
    {draw : BatchDraw} {batch : NewBatch}
    (hbatch : env.newBatch userId reason draw = some batch) :
    batch.userId = userId ∧ batch.codes ≠ [] := by
  unfold RecoveryEnv.newBatch at hbatch
  split at hbatch
  case isFalse => cases hbatch
  case isTrue hcount =>
    rw [Option.map_eq_some_iff] at hbatch
    obtain ⟨codes, hcodes, rfl⟩ := hbatch
    have hlength := length_generatePlainCodes hcodes
    have hpos := env.count_pos
    refine ⟨rfl, ?_⟩
    rintro rfl
    rw [List.length_nil] at hlength
    omega

/-- The snapshot of the revocation. -/
theorem snapped_begin {batch : NewBatch} (hcodes : batch.codes ≠ []) :
    Snapped before.mfaRecoveryCodes batch
      ((before.activeOf batch.userId).map fun row => row.id)
      (before.batchesOf batch.userId) := by
  constructor
  · exact hcodes
  · intro row hrow howner _ hunused
    refine List.mem_map.mpr ⟨row, ?_, rfl⟩
    rw [RecoveryStore.activeOf, Table.mem_select]
    exact ⟨hrow, by simp [RecoveryCodeRow.isActiveOf, howner, hunused]⟩
  · intro row hrow hid
    obtain ⟨active, hactive, hsame⟩ := List.mem_map.mp hid
    rw [RecoveryStore.activeOf, Table.mem_select] at hactive
    obtain ⟨hmem, hwhere⟩ := hactive
    have heq : active = row :=
      before.mfaRecoveryCodes.eq_of_key_eq hmem hrow hsame
    rw [RecoveryCodeRow.isActiveOf, heq, Bool.and_eq_true] at hwhere
    refine List.mem_map.mpr ⟨row, ?_, rfl⟩
    rw [Table.mem_select]
    exact ⟨hrow, hwhere.1⟩
  · intro batchId hseen
    obtain ⟨row, hrow, hbatch⟩ := List.mem_map.mp hseen
    rw [Table.mem_select] at hrow
    exact ⟨row, hrow.1, hbatch⟩
  · intro id hid
    obtain ⟨active, hactive, hsame⟩ := List.mem_map.mp hid
    rw [RecoveryStore.activeOf, Table.mem_select] at hactive
    exact ⟨active, hactive.1, hsame⟩

/-- Of the rows in the snapshot, those that are still unused. -/
theorem Snapped.stillUnused {batch : NewBatch} {ids seen : List String}
    (hsnapped : Snapped before.mfaRecoveryCodes batch ids seen) :
    Snapped before.mfaRecoveryCodes batch (before.stillUnused ids) seen where
  codes_ne := hsnapped.codes_ne
  covers row hrow howner hseen hunused := by
    rw [RecoveryStore.stillUnused, List.mem_filter, List.any_eq_true]
    exact ⟨hsnapped.covers row hrow howner hseen hunused, row, hrow,
      by simp [hunused]⟩
  known row hrow hid :=
    hsnapped.known row hrow (List.mem_of_mem_filter hid)
  stored := hsnapped.stored
  present id hid := hsnapped.present id (List.mem_of_mem_filter hid)

/-- The codes after a batch was inserted. -/
structure Inserted (env : RecoveryEnv) (before after : RecoveryStore)
    (batch : NewBatch) (revoked : List String) (revokedAt : Instant) :
    Prop where
  fresh : ∀ old ∈ before.mfaRecoveryCodes, old.batchId ≠ batch.batchId
  free : before.lookupHashesFree
    (batch.codes.map fun code => env.lookupHash code.text) = true
  codes : after.mfaRecoveryCodes =
    (before.revoked revoked revokedAt).insertAllFresh env.uuids
      (env.newRow batch) (env.key_newRow batch) batch.codes

theorem insertBatch_cases {batch : NewBatch} {ticket : Option Nat}
    {revoked : List String} {revokedAt : Instant}
    (hstep : insertBatch env before batch ticket revoked revokedAt =
      some (after, next)) :
    Inserted env before after batch revoked revokedAt ∧
        next = some (.auditing batch ticket) ∨
      before.lookupHashesFree
          (batch.codes.map fun code => env.lookupHash code.text) = false ∧
        after.mfaRecoveryCodes = before.mfaRecoveryCodes ∧ next = none := by
  unfold insertBatch at hstep
  split at hstep
  case isTrue => cases hstep
  case isFalse hfresh =>
    split at hstep
    case isTrue hfree =>
      cases hstep
      refine .inl ⟨⟨?_, hfree, rfl⟩, rfl⟩
      intro old hold heq
      exact hfresh (List.any_eq_true.mpr ⟨old, hold, by simp [heq]⟩)
    case isFalse hfree =>
      cases hstep
      exact .inr ⟨Bool.eq_false_iff.mpr hfree, rfl, rfl⟩

theorem Inserted.succeeds {batch : NewBatch} {revoked : List String}
    {revokedAt : Instant}
    (hinserted : Inserted env before after batch revoked revokedAt) :
    Succeeds (NewlyBatched before.mfaRecoveryCodes) before.mfaRecoveryCodes
      after.mfaRecoveryCodes := by
  have hrevoked : Succeeds (fun _ => False) before.mfaRecoveryCodes
      (before.revoked revoked revokedAt) :=
    succeeds_update (RecoveryStore.key_withRevokedAt revokedAt)
      (later_withRevokedAt revokedAt)
  rw [hinserted.codes]
  constructor
  · intro row hrow
    obtain ⟨same, hmem, hsame⟩ := hrevoked.kept row hrow
    exact ⟨same, Table.mem_insertAllFresh_of_mem hmem, hsame⟩
  · intro row hrow
    rcases Table.mem_insertAllFresh hrow with hold | ⟨code, -, id, rfl⟩
    · exact (hrevoked.origin row hold).imp_right fun hnew => hnew.elim
    · exact .inr hinserted.fresh

theorem markCode_succeeds {userId value codeId : String} {now : Instant}
    (hstep : markCode before userId value codeId now = some (after, next)) :
    Succeeds (fun _ => False) before.mfaRecoveryCodes
      after.mfaRecoveryCodes := by
  unfold markCode at hstep
  dsimp only at hstep
  split at hstep
  case isTrue => cases hstep
  case isFalse =>
    split at hstep
    case isTrue =>
      cases hstep
      exact succeeds_update (RecoveryStore.key_withUsedAt now)
        (later_withUsedAt now)
    case isFalse =>
      cases hstep
      exact .refl _

/-- Each step but an insert leaves the codes as they are, or uses one. -/
theorem advanceRecovery_succeeds {thread : RecoveryThread}
    {input : RecoveryInput}
    (hadvance : advanceRecovery env before thread input = some (after, next)) :
    (∃ batch ticket revoked revokedAt seen,
      thread = .inserting batch ticket revoked revokedAt seen ∧
        insertBatch env before batch ticket revoked revokedAt =
          some (after, next)) ∨
    (∀ batch ticket revoked revokedAt seen,
      thread ≠ .inserting batch ticket revoked revokedAt seen) ∧
      Succeeds (fun _ => False) before.mfaRecoveryCodes
        after.mfaRecoveryCodes := by
  cases thread with
  | inserting batch ticket revoked revokedAt seen =>
      exact .inl ⟨batch, ticket, revoked, revokedAt, seen, rfl, hadvance⟩
  | marking userId value codeId =>
      exact .inr ⟨nofun, markCode_succeeds hadvance⟩
  | countingActive userId =>
      dsimp only [advanceRecovery] at hadvance
      split at hadvance <;> cases hadvance <;> exact .inr ⟨nofun, .refl _⟩
  | reportingUse userId remainingCount =>
      dsimp only [advanceRecovery] at hadvance
      split at hadvance <;> cases hadvance <;> exact .inr ⟨nofun, .refl _⟩
  | generating userId reason ticket =>
      dsimp only [advanceRecovery, beginBatch] at hadvance
      rw [Option.map_eq_some_iff] at hadvance
      obtain ⟨batch, -, heq⟩ := hadvance
      cases heq
      exact .inr ⟨nofun, .refl _⟩
  | revoking batch ticket active seen =>
      dsimp only [advanceRecovery, revokeActive] at hadvance
      split at hadvance
      case isTrue => cases hadvance
      case isFalse =>
        cases hadvance
        exact .inr ⟨nofun, .refl _⟩
  | reporting batch ticket =>
      cases hadvance
      cases ticket <;> exact .inr ⟨nofun, .refl _⟩
  | lookingUp userId code =>
      have heq : lookUpCode env before userId code = (after, next) :=
        Option.some.inj hadvance
      unfold lookUpCode at heq
      dsimp only at heq
      split at heq
      case h_1 =>
        cases heq
        exact .inr ⟨nofun, .refl _⟩
      case h_2 =>
        split at heq <;> cases heq <;> exact .inr ⟨nofun, .refl _⟩
  | regenerating | auditing | countingLeft | auditingUse | warning =>
      cases hadvance
      exact .inr ⟨nofun, .refl _⟩

/-- A call goes on with the snapshot that it took. -/
theorem snaps_next {thread following : RecoveryThread}
    {input : RecoveryInput} (hthread : thread.Snaps before)
    (hadvance : advanceRecovery env before thread input =
      some (after, some following)) : following.Snaps after := by
  cases thread with
  | inserting batch ticket revoked revokedAt seen =>
      rcases insertBatch_cases hadvance with ⟨-, hnext⟩ | ⟨-, -, hnext⟩
      · cases hnext
        trivial
      · cases hnext
  | marking userId value codeId =>
      dsimp only [advanceRecovery, markCode] at hadvance
      split at hadvance
      case isTrue => cases hadvance
      case isFalse =>
        split at hadvance <;> cases hadvance
        trivial
  | countingActive userId =>
      dsimp only [advanceRecovery] at hadvance
      split at hadvance <;> cases hadvance
      trivial
  | reportingUse userId remainingCount =>
      dsimp only [advanceRecovery] at hadvance
      split at hadvance <;> cases hadvance
      trivial
  | generating userId reason ticket =>
      dsimp only [advanceRecovery, beginBatch] at hadvance
      rw [Option.map_eq_some_iff] at hadvance
      obtain ⟨batch, hbatch, heq⟩ := hadvance
      obtain ⟨rfl, hcodes⟩ := newBatch_codes hbatch
      cases heq
      exact snapped_begin hcodes
  | revoking batch ticket active seen =>
      dsimp only [advanceRecovery, revokeActive] at hadvance
      split at hadvance
      case isTrue => cases hadvance
      case isFalse =>
        cases hadvance
        exact Snapped.stillUnused hthread
  | lookingUp userId code =>
      have heq : lookUpCode env before userId code =
          (after, some following) := Option.some.inj hadvance
      unfold lookUpCode at heq
      dsimp only at heq
      split at heq
      case h_1 => cases heq
      case h_2 =>
        split at heq <;> cases heq
        trivial
  | regenerating | auditing | countingLeft | auditingUse =>
      cases hadvance
      trivial
  | reporting | warning => cases hadvance

theorem advanceRecovery_newlyBatched {thread : RecoveryThread}
    {input : RecoveryInput}
    (hadvance : advanceRecovery env before thread input = some (after, next)) :
    Succeeds (NewlyBatched before.mfaRecoveryCodes) before.mfaRecoveryCodes
      after.mfaRecoveryCodes := by
  rcases advanceRecovery_succeeds hadvance with
    ⟨batch, ticket, revoked, revokedAt, seen, rfl, hinsert⟩ | ⟨-, hsame⟩
  · rcases insertBatch_cases hinsert with ⟨hinserted, -⟩ | ⟨-, hcodes, -⟩
    · exact hinserted.succeeds
    · rw [hcodes]
      exact (Succeeds.refl _).mono fun _ hnew => hnew.elim
  · exact hsame.mono fun _ hnew => hnew.elim

end Steps

def snapshotInvariant : Invariant RecoveryStore RecoveryThread where
  SharedOk _ := True
  ThreadOk store thread := thread.Snaps store
  Apart _ _ := True

theorem snapshotInvariant_inductive (env : RecoveryEnv) :
    snapshotInvariant.Inductive (recoveryProgram env) fun _ _ _ => True where
  start store call _ := by
    refine ⟨?_, fun _ => ⟨trivial, trivial⟩⟩
    cases call <;> trivial
  advance store thread input after next _ hthread _ hadvance := by
    have hsucceeds := advanceRecovery_newlyBatched hadvance
    constructor
    · trivial
    · rintro following rfl
      exact snaps_next hthread hadvance
    · exact fun other hother _ => hother.later hsucceeds
    · exact fun _ _ _ _ _ => ⟨trivial, trivial⟩
  abort store thread _ hthread := by
    have hcodes : (abortRecovery store thread).mfaRecoveryCodes =
        store.mfaRecoveryCodes := by
      cases thread <;> rfl
    constructor
    · trivial
    · exact nofun
    · intro other hother _
      refine hother.later ?_
      change Succeeds _ _ (abortRecovery store thread).mfaRecoveryCodes
      rw [hcodes]
      exact (Succeeds.refl _).mono fun _ hnew => hnew.elim
    · exact fun _ hnext => nomatch hnext
  environment store event := event.elim

/-! ## One active batch -/

section OneActiveBatch

variable {env : RecoveryEnv} {before after : RecoveryStore}

theorem OneActiveBatch.later (hone : OneActiveBatch before)
    (hsucceeds : Succeeds (fun _ => False) before.mfaRecoveryCodes
      after.mfaRecoveryCodes) : OneActiveBatch after := by
  have hold : ∀ row ∈ after.mfaRecoveryCodes.rows, row.isUnused = true →
      ∃ old ∈ before.mfaRecoveryCodes.rows, old.isUnused = true ∧
        old.Later row := by
    intro row hrow hunused
    rcases hsucceeds.origin row hrow with ⟨old, hmem, hsame⟩ | hnew
    · exact ⟨old, hmem, hsame.unused hunused, hsame⟩
    · exact hnew.elim
  intro left hleft right hright howner hleftUnused hrightUnused
  obtain ⟨first, hfirst, hfirstUnused, hfirstSame⟩ := hold left hleft hleftUnused
  obtain ⟨second, hsecond, hsecondUnused, hsecondSame⟩ :=
    hold right hright hrightUnused
  rw [hfirstSame.batchId, hsecondSame.batchId]
  apply hone first hfirst second hsecond _ hfirstUnused hsecondUnused
  rw [← hfirstSame.userId, ← hsecondSame.userId, howner]

/-- The unused rows after an insert: untouched ones and new ones. -/
theorem Inserted.origin {batch : NewBatch} {revoked : List String}
    {revokedAt : Instant} {row : RecoveryCodeRow}
    (hinserted : Inserted env before after batch revoked revokedAt)
    (hrow : row ∈ after.mfaRecoveryCodes) (hunused : row.isUnused = true) :
    (row ∈ before.mfaRecoveryCodes ∧ row.id ∉ revoked) ∨
      ∃ code id, row = env.newRow batch code id := by
  rw [hinserted.codes] at hrow
  rcases Table.mem_insertAllFresh hrow with hold | ⟨code, -, id, rfl⟩
  · obtain ⟨old, hmem, rfl⟩ := Table.mem_update.mp hold
    by_cases hid : old.id ∈ revoked
    · rw [if_pos (decide_eq_true hid), isUnused_withRevokedAt] at hunused
      cases hunused
    · rw [if_neg (by simpa using hid)]
      exact .inl ⟨hmem, hid⟩
  · exact .inr ⟨code, id, rfl⟩

/-- A batch is the only active one afterwards exactly when its revocation saw
all the others. -/
theorem Inserted.oneActive_iff {batch : NewBatch}
    {revoked seen : List String} {revokedAt : Instant}
    (hinserted : Inserted env before after batch revoked revokedAt)
    (hsnapped : Snapped before.mfaRecoveryCodes batch revoked seen)
    (hone : OneActiveBatch before) :
    OneActiveBatch after ↔
      ∀ row ∈ before.mfaRecoveryCodes.rows, row.userId = batch.userId →
        row.isUnused = true → row.batchId ∈ seen := by
  constructor
  · intro hafter row hrow howner hunused
    by_contra hseen
    have hid : row.id ∉ revoked :=
      fun hid => hseen (hsnapped.known row hrow hid)
    have hkept : row ∈ after.mfaRecoveryCodes := by
      have hmem : (if row.id ∈ revoked then
          RecoveryStore.withRevokedAt revokedAt row else row) ∈
            before.revoked revoked revokedAt := mem_revoked hrow
      rw [if_neg hid] at hmem
      rw [hinserted.codes]
      exact Table.mem_insertAllFresh_of_mem hmem
    obtain ⟨code, hcode⟩ := List.exists_mem_of_ne_nil _ hsnapped.codes_ne
    have hnew : ∃ id, env.newRow batch code id ∈ after.mfaRecoveryCodes := by
      rw [hinserted.codes]
      exact Table.exists_insertAllFresh hcode
    obtain ⟨id, hnew⟩ := hnew
    exact hinserted.fresh row hrow
      (hafter row hkept _ hnew howner hunused rfl)
  · intro hall left hleft right hright howner hleftUnused hrightUnused
    have hgone : ∀ row ∈ before.mfaRecoveryCodes, row.id ∉ revoked →
        row.isUnused = true → row.userId ≠ batch.userId := by
      intro row hrow hid hunused hsame
      exact hid (hsnapped.covers row hrow hsame (hall row hrow hsame hunused)
        hunused)
    rcases hinserted.origin hleft hleftUnused with
      ⟨hleftOld, hleftId⟩ | ⟨leftCode, leftId, rfl⟩
    · rcases hinserted.origin hright hrightUnused with
        ⟨hrightOld, -⟩ | ⟨rightCode, rightId, rfl⟩
      · exact hone left hleftOld right hrightOld howner hleftUnused
          hrightUnused
      · exact absurd howner (hgone left hleftOld hleftId hleftUnused)
    · rcases hinserted.origin hright hrightUnused with
        ⟨hrightOld, hrightId⟩ | ⟨rightCode, rightId, rfl⟩
      · exact absurd howner.symm
          (hgone right hrightOld hrightId hrightUnused)
      · rfl

end OneActiveBatch

/-- The unused codes of each user stay those of one batch exactly as long as
no batch is inserted while unused codes are there that its revocation has not
seen. -/
theorem oneActiveBatch_iff (env : RecoveryEnv) (actions : List RecoveryAction)
    (pool : RecoveryPool)
    (hrun : StepSystem.run (step (recoveryProgram env)) RecoveryPool.initial
      actions = some pool) :
    StepSystem.Throughout (step (recoveryProgram env))
        (fun pool => OneActiveBatch pool.shared) RecoveryPool.initial actions ↔
      StepSystem.Along (step (recoveryProgram env)) (Meets (RevokesEarlier env))
        RecoveryPool.initial actions := by
  refine (snapshotInvariant_inductive env).throughout_iff ?_ ?_ ?_
    (Invariant.holds_start trivial) (by decide) hrun
  · intro store thread input after next _ hthread hone hadvance
    rcases advanceRecovery_succeeds hadvance with
      ⟨batch, ticket, revoked, revokedAt, seen, rfl, hinsert⟩ | ⟨hother, hsame⟩
    · rcases insertBatch_cases hinsert with ⟨hinserted, -⟩ | ⟨hfree, hcodes, -⟩
      · rw [hinserted.oneActive_iff hthread hone, RevokesEarlier]
        exact ⟨fun hall _ => hall, fun hall => hall hinserted.free⟩
      · refine iff_of_true ?_ ?_
        · rwa [OneActiveBatch, hcodes]
        · rw [RevokesEarlier, hfree]
          exact nofun
    · refine iff_of_true (hone.later hsame) ?_
      cases thread with
      | inserting batch ticket revoked revokedAt seen =>
          exact absurd rfl (hother batch ticket revoked revokedAt seen)
      | countingActive | regenerating | generating | revoking | auditing
      | reporting | lookingUp | marking | countingLeft | auditingUse
      | reportingUse | warning => trivial
  · intro store thread _ _ hone
    cases thread <;> exact hone
  · exact fun store event => event.elim

/-! ## Two generations at once -/

namespace RecoveryWitness

theorem oneActiveBatch_regenerated :
    StepSystem.Throughout (step (recoveryProgram env))
      (fun pool => OneActiveBatch pool.shared) RecoveryPool.initial
      regenerated :=
  (oneActiveBatch_iff env regenerated (after regenerated)
    (StepSystem.run_after _ (by decide +kernel))).mpr
    (along_of_decide _ (by decide +kernel))

/-- Both revocations take their snapshots before either batch is there. -/
def overlapping : List RecoveryAction :=
  let advance := fun id draw =>
    (.advance id ⟨0, draw⟩ : RecoveryAction)
  [.spawn 1 (.generateCodes "user-1" .initialMfaSetup),
    .spawn 2 (.regenerateCodes "user-1"),
    advance 2 (draw "" 0),
    advance 1 (draw "batch-1" 0), advance 2 (draw "batch-2" 1),
    advance 1 (draw "" 0), advance 2 (draw "" 0),
    advance 1 (draw "" 0), advance 2 (draw "" 0)]

theorem not_oneActiveBatch :
    ¬ ∀ env actions pool, StepSystem.run (step (recoveryProgram env))
        RecoveryPool.initial actions = some pool →
      OneActiveBatch pool.shared := by
  intro hclaim
  have hone := hclaim env overlapping (after overlapping)
    (StepSystem.run_after _ (by decide +kernel))
  exact absurd hone (by decide +kernel)

end RecoveryWitness

end IdProvider
