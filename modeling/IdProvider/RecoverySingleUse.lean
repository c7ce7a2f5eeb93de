/-
Recovery codes are single use: in every interleaving a code is consumed at
most once, by the user it was generated for, and not after a regeneration
that began when its batch was there.
-/
import IdProvider.RecoveryCodes

namespace IdProvider

open Histories Interleaving KeyedTable

/-- `argon2.verify` accepts only what was hashed. -/
def RecoveryEnv.Argon2Sound (env : RecoveryEnv) : Prop :=
  ∀ password salt attempt,
    env.argon2Verify (env.argon2Hash password salt) attempt = true →
      attempt = password

/-- What the history of a run must not show, and what it must. -/
structure SingleUse (history : List RecoveryEvent) : Prop where
  once : ∀ userId other value,
    ¬ [.consumed userId value, .consumed other value].Sublist history
  owner : ∀ userId value, .consumed userId value ∈ history →
    ∃ batchId values, value ∈ values ∧
      [.created userId batchId values,
        .consumed userId value].Sublist history
  superseded : ∀ ticket userId batchId values other value,
    [.created userId batchId values, .regenerationStarted ticket userId,
      .regenerationCompleted ticket userId,
      .consumed other value].Sublist history → value ∉ values

/-! ## What a statement can do to the rows -/

/-- A row, and the same row later: it was used or revoked at most. -/
structure RecoveryCodeRow.Later (row later : RecoveryCodeRow) : Prop where
  id : later.id = row.id
  userId : later.userId = row.userId
  batchId : later.batchId = row.batchId
  lookupHash : later.lookupHash = row.lookupHash
  codeHash : later.codeHash = row.codeHash
  unused : later.isUnused = true → row.isUnused = true

theorem RecoveryCodeRow.Later.refl (row : RecoveryCodeRow) : row.Later row :=
  ⟨rfl, rfl, rfl, rfl, rfl, fun hunused => hunused⟩

/-- Every row of one table is in the other one, and the rest is new. -/
structure Succeeds (New : RecoveryCodeRow → Prop)
    (before after : Table RecoveryCodeRow) : Prop where
  kept : ∀ row ∈ before, ∃ later ∈ after, row.Later later
  origin : ∀ later ∈ after, (∃ row ∈ before, row.Later later) ∨ New later

theorem Succeeds.refl (codes : Table RecoveryCodeRow) :
    Succeeds (fun _ => False) codes codes :=
  ⟨fun row hrow => ⟨row, hrow, .refl row⟩,
    fun later hlater => .inl ⟨later, hlater, .refl later⟩⟩

theorem succeeds_update {codes : Table RecoveryCodeRow}
    {where_ : RecoveryCodeRow → Bool} {set : RecoveryCodeRow → RecoveryCodeRow}
    (hkey : ∀ row, key (set row) = key row)
    (hset : ∀ row : RecoveryCodeRow, row.Later (set row)) :
    Succeeds (fun _ => False) codes (codes.update where_ set hkey) := by
  have hlater : ∀ row : RecoveryCodeRow,
      row.Later (if where_ row then set row else row) := by
    intro row
    split
    case isTrue => exact hset row
    case isFalse => exact .refl row
  constructor
  · intro row hrow
    exact ⟨_, Table.mem_update.mpr ⟨row, hrow, rfl⟩, hlater row⟩
  · intro later hafter
    obtain ⟨row, hrow, rfl⟩ := Table.mem_update.mp hafter
    exact .inl ⟨row, hrow, hlater row⟩

theorem later_withRevokedAt (now : Instant) (row : RecoveryCodeRow) :
    row.Later (RecoveryStore.withRevokedAt now row) :=
  ⟨rfl, rfl, rfl, rfl, rfl, fun hunused => by
    simp [RecoveryCodeRow.isUnused, isUnused,
      RecoveryStore.withRevokedAt] at hunused⟩

theorem later_withUsedAt (now : Instant) (row : RecoveryCodeRow) :
    row.Later (RecoveryStore.withUsedAt now row) :=
  ⟨rfl, rfl, rfl, rfl, rfl, fun hunused => by
    simp [RecoveryCodeRow.isUnused, isUnused,
      RecoveryStore.withUsedAt] at hunused⟩

theorem isUnused_withRevokedAt (now : Instant) (row : RecoveryCodeRow) :
    (RecoveryStore.withRevokedAt now row).isUnused = false := by
  simp [RecoveryCodeRow.isUnused, isUnused, RecoveryStore.withRevokedAt]

theorem isUnused_withUsedAt (now : Instant) (row : RecoveryCodeRow) :
    (RecoveryStore.withUsedAt now row).isUnused = false := by
  simp [RecoveryCodeRow.isUnused, isUnused, RecoveryStore.withUsedAt]

/-! ## The invariant of the database -/

/-- The unique column. -/
def RecoveryCodeRow.foundBy (row : RecoveryCodeRow) : String := row.lookupHash

def lookupHashes (codes : Table RecoveryCodeRow) : List String :=
  codes.rows.map RecoveryCodeRow.foundBy

/-- The row belongs to a batch that was created, as one of its values. -/
def IssuedCode (env : RecoveryEnv) (history : List RecoveryEvent)
    (row : RecoveryCodeRow) : Prop :=
  ∃ values value salt, .created row.userId row.batchId values ∈ history ∧
    value ∈ values ∧ row.lookupHash = env.hmacSha256 value ∧
    row.codeHash = env.argon2Hash value salt

/-- What was stored before the regeneration began is in `ids`, or dead. -/
def Covered (env : RecoveryEnv) (codes : Table RecoveryCodeRow)
    (history : List RecoveryEvent) (ids : List String) (ticket : Nat)
    (userId : String) : Prop :=
  ∀ batchId values, [.created userId batchId values,
      .regenerationStarted ticket userId].Sublist history →
    ∀ value ∈ values, ∀ row ∈ codes,
      row.lookupHash = env.hmacSha256 value → row.isUnused = true →
        row.id ∈ ids

structure CodesOk (env : RecoveryEnv) (codes : Table RecoveryCodeRow)
    (history : List RecoveryEvent) : Prop extends SingleUse history where
  unique : (lookupHashes codes).Nodup
  issued : ∀ row ∈ codes, IssuedCode env history row
  stored : ∀ userId batchId values, .created userId batchId values ∈ history →
    ∀ value ∈ values, ∃ row ∈ codes, row.userId = userId ∧
      row.lookupHash = env.hmacSha256 value
  tickets : ∀ ticket userId, .regenerationStarted ticket userId ∈ history →
    ticket < history.length
  spent : ∀ userId value, .consumed userId value ∈ history →
    ∃ row ∈ codes, row.lookupHash = env.lookupHash value ∧
      row.isUnused = false
  ended : ∀ ticket userId batchId values,
    [.created userId batchId values, .regenerationStarted ticket userId,
      .regenerationCompleted ticket userId].Sublist history →
    ∀ value ∈ values, ∀ row ∈ codes,
      row.lookupHash = env.hmacSha256 value → row.isUnused = false

section CodesOk

variable {env : RecoveryEnv} {codes after : Table RecoveryCodeRow}
  {history : List RecoveryEvent}

theorem eq_of_lookupHash (hunique : (lookupHashes codes).Nodup)
    {left right : RecoveryCodeRow} (hleft : left ∈ codes)
    (hright : right ∈ codes) (hhash : left.lookupHash = right.lookupHash) :
    left = right :=
  List.inj_on_of_nodup_map hunique hleft hright hhash

theorem IssuedCode.later {row later : RecoveryCodeRow}
    {events : List RecoveryEvent} (hissued : IssuedCode env history row)
    (hlater : row.Later later) :
    IssuedCode env (history ++ events) later := by
  obtain ⟨values, value, salt, hcreated, hvalue, hhash, hcode⟩ := hissued
  refine ⟨values, value, salt, ?_, hvalue, ?_, ?_⟩
  · rw [hlater.userId, hlater.batchId]
    exact List.mem_append_left events hcreated
  · rw [hlater.lookupHash, hhash]
  · rw [hlater.codeHash, hcode]

/-- Using or revoking rows leaves the history true. -/
theorem CodesOk.succeeds (hok : CodesOk env codes history)
    (hsucceeds : Succeeds (fun _ => False) codes after)
    (hunique : (lookupHashes after).Nodup) : CodesOk env after history where
  toSingleUse := hok.toSingleUse
  unique := hunique
  issued later hlater := by
    rcases hsucceeds.origin later hlater with ⟨row, hrow, hsame⟩ | hnew
    · have hissued : IssuedCode env (history ++ []) later :=
        (hok.issued row hrow).later hsame
      rwa [List.append_nil] at hissued
    · exact hnew.elim
  stored userId batchId values hcreated value hvalue := by
    obtain ⟨row, hrow, howner, hhash⟩ :=
      hok.stored userId batchId values hcreated value hvalue
    obtain ⟨later, hlater, hsame⟩ := hsucceeds.kept row hrow
    exact ⟨later, hlater, hsame.userId.trans howner,
      hsame.lookupHash.trans hhash⟩
  tickets := hok.tickets
  spent userId value hconsumed := by
    obtain ⟨row, hrow, hhash, hspent⟩ := hok.spent userId value hconsumed
    obtain ⟨later, hlater, hsame⟩ := hsucceeds.kept row hrow
    refine ⟨later, hlater, hsame.lookupHash.trans hhash, ?_⟩
    rw [Bool.eq_false_iff]
    intro hunused
    rw [hsame.unused hunused] at hspent
    cases hspent
  ended ticket userId batchId values hevents value hvalue later hlater
      hhash := by
    rcases hsucceeds.origin later hlater with ⟨row, hrow, hsame⟩ | hnew
    · have hspent := hok.ended ticket userId batchId values hevents value
        hvalue row hrow (hsame.lookupHash.symm.trans hhash)
      rw [Bool.eq_false_iff]
      intro hunused
      rw [hsame.unused hunused] at hspent
      cases hspent
    · exact hnew.elim

/-- An event that consumes no code. -/
theorem SingleUse.record {event : RecoveryEvent} (huse : SingleUse history)
    (hevent : ∀ userId value, .consumed userId value ≠ event) :
    SingleUse (history ++ [event]) where
  once userId other value hsub :=
    huse.once userId other value (sublist_of_not_mem [_] _
      (by simpa using hevent other value) hsub)
  owner userId value hconsumed := by
    have hbefore : RecoveryEvent.consumed userId value ∈ history := by
      simpa [hevent userId value] using hconsumed
    obtain ⟨batchId, values, hvalue, hsub⟩ := huse.owner userId value hbefore
    exact ⟨batchId, values, hvalue, sublist_later hsub⟩
  superseded ticket userId batchId values other value hsub :=
    huse.superseded ticket userId batchId values other value
      (sublist_of_not_mem [_, _, _] _ (by simpa using hevent other value) hsub)

/-- An event that stores and consumes no code.  A regeneration that starts is
numbered, and one is complete when nothing from before it is left. -/
theorem CodesOk.record {event : RecoveryEvent} (hok : CodesOk env codes history)
    (hcreated : ∀ userId batchId values,
      .created userId batchId values ≠ event)
    (hconsumed : ∀ userId value, .consumed userId value ≠ event)
    (hstarted : ∀ ticket userId,
      .regenerationStarted ticket userId = event → ticket ≤ history.length)
    (hcompleted : ∀ ticket userId,
      .regenerationCompleted ticket userId = event →
        Covered env codes history [] ticket userId) :
    CodesOk env codes (history ++ [event]) where
  toSingleUse := hok.toSingleUse.record hconsumed
  unique := hok.unique
  issued row hrow := (hok.issued row hrow).later (.refl row)
  stored userId batchId values hstored :=
    hok.stored userId batchId values
      (by simpa [hcreated userId batchId values] using hstored)
  tickets ticket userId hticket := by
    rw [List.length_append, List.length_singleton, Nat.lt_succ_iff]
    rcases List.mem_append.mp hticket with hold | hnew
    · exact (hok.tickets ticket userId hold).le
    · exact hstarted ticket userId (List.mem_singleton.mp hnew)
  spent userId value hspent :=
    hok.spent userId value (by simpa [hconsumed userId value] using hspent)
  ended ticket userId batchId values hevents value hvalue row hrow hhash := by
    rcases (sublist_record [_, _] _).mp hevents with hold | ⟨hlast, hbefore⟩
    · exact hok.ended ticket userId batchId values hold value hvalue row hrow
        hhash
    · rw [Bool.eq_false_iff]
      intro hunused
      cases hcompleted ticket userId hlast batchId values hbefore value hvalue
        row hrow hhash hunused

/-- An answer says nothing about the codes. -/
theorem CodesOk.answer (hok : CodesOk env codes history)
    (answer : RecoveryAnswer) :
    CodesOk env codes (history ++ [.answered answer]) := by
  apply hok.record
  · exact fun _ _ _ heq => by cases heq
  · exact fun _ _ heq => by cases heq
  · exact fun _ _ heq => by cases heq
  · exact fun _ _ heq => by cases heq

theorem CodesOk.started (hok : CodesOk env codes history) (userId : String) :
    CodesOk env codes
      (history ++ [.regenerationStarted history.length userId]) := by
  apply hok.record
  · exact fun _ _ _ heq => by cases heq
  · exact fun _ _ heq => by cases heq
  · intro ticket other heq
    cases heq
    exact le_rfl
  · exact fun _ _ heq => by cases heq

theorem CodesOk.completed {ticket : Nat} {userId : String}
    (hok : CodesOk env codes history)
    (hcovered : Covered env codes history [] ticket userId) :
    CodesOk env codes
      (history ++ [.regenerationCompleted ticket userId]) := by
  apply hok.record
  · exact fun _ _ _ heq => by cases heq
  · exact fun _ _ heq => by cases heq
  · exact fun _ _ heq => by cases heq
  · intro other owner heq
    cases heq
    exact hcovered

/-- The code that a call is about to mark as used. -/
def VerifiedCode (env : RecoveryEnv) (codes : Table RecoveryCodeRow)
    (userId value codeId : String) : Prop :=
  ∃ row ∈ codes, row.id = codeId ∧ row.userId = userId ∧
    row.lookupHash = env.lookupHash value ∧
    env.argon2Verify row.codeHash value = true

theorem lookupHashes_update {where_ : RecoveryCodeRow → Bool}
    {set : RecoveryCodeRow → RecoveryCodeRow}
    {hkey : ∀ row, key (set row) = key row}
    (hset : ∀ row : RecoveryCodeRow, row.Later (set row)) :
    lookupHashes (codes.update where_ set hkey) = lookupHashes codes :=
  Table.map_update fun row => (hset row).lookupHash

/-- A used row keeps the invariant, before the history says so. -/
theorem CodesOk.update {where_ : RecoveryCodeRow → Bool}
    {set : RecoveryCodeRow → RecoveryCodeRow}
    {hkey : ∀ row, key (set row) = key row} (hok : CodesOk env codes history)
    (hset : ∀ row : RecoveryCodeRow, row.Later (set row)) :
    CodesOk env (codes.update where_ set hkey) history :=
  hok.succeeds (succeeds_update hkey hset) (by
    rw [lookupHashes_update hset]
    exact hok.unique)

/-- The one row that a verified code belongs to holds that very value. -/
theorem VerifiedCode.issued {userId value codeId : String}
    (hargon2 : env.Argon2Sound) (hok : CodesOk env codes history)
    (hverified : VerifiedCode env codes userId value codeId) :
    ∃ row ∈ codes, row.id = codeId ∧
      row.lookupHash = env.lookupHash value ∧
      row.lookupHash = env.hmacSha256 value ∧
      ∃ batchId values, .created userId batchId values ∈ history ∧
        value ∈ values := by
  obtain ⟨row, hrow, hid, rfl, hhash, hverify⟩ := hverified
  obtain ⟨values, stored, salt, hcreated, hvalue, hstored, hcode⟩ :=
    hok.issued row hrow
  rw [hcode] at hverify
  cases hargon2 stored salt value hverify
  exact ⟨row, hrow, hid, hhash, hstored, row.batchId, values, hcreated, hvalue⟩

/-- Marking an unused row makes its code a consumed one. -/
theorem CodesOk.consumed {userId value codeId : String} {now : Instant}
    (hargon2 : env.Argon2Sound) (hok : CodesOk env codes history)
    (hverified : VerifiedCode env codes userId value codeId)
    (hunused : ∃ row ∈ codes, row.id = codeId ∧ row.isUnused = true) :
    CodesOk env
      (codes.update (fun row => row.id == codeId && row.isUnused)
        (RecoveryStore.withUsedAt now) (RecoveryStore.key_withUsedAt now))
      (history ++ [.consumed userId value]) := by
  obtain ⟨row, hrow, hid, hhash, hstored, batchId, values, hcreated, hvalue⟩ :=
    hverified.issued hargon2 hok
  have hrowUnused : row.isUnused = true := by
    obtain ⟨other, hother, hotherId, hotherUnused⟩ := hunused
    rwa [codes.eq_of_key_eq hrow hother (hid.trans hotherId.symm)]
  have hupdated : CodesOk env
      (codes.update (fun row => row.id == codeId && row.isUnused)
        (RecoveryStore.withUsedAt now) (RecoveryStore.key_withUsedAt now))
      history := hok.update (later_withUsedAt now)
  constructor
  · constructor
    · intro first second spent hsub
      rcases (sublist_record [_] _).mp hsub with hold | ⟨hlast, hbefore⟩
      · exact hok.once first second spent hold
      · cases hlast
        obtain ⟨other, hother, hotherHash, hspent⟩ :=
          hok.spent first value (List.singleton_sublist.mp hbefore)
        rw [eq_of_lookupHash hok.unique hother hrow
          (hotherHash.trans hhash.symm), hrowUnused] at hspent
        cases hspent
    · intro owner spent hconsumed
      rcases List.mem_append.mp hconsumed with hold | hnew
      · obtain ⟨batch, codes, hcode, hsub⟩ := hok.owner owner spent hold
        exact ⟨batch, codes, hcode, sublist_later hsub⟩
      · cases List.mem_singleton.mp hnew
        refine ⟨batchId, values, hvalue, (sublist_record [_] _).mpr ?_⟩
        exact .inr ⟨rfl, List.singleton_sublist.mpr hcreated⟩
    · intro ticket owner batch codes other spent hsub hspent
      rcases (sublist_record [_, _, _] _).mp hsub with hold | ⟨hlast, hbefore⟩
      · exact hok.superseded ticket owner batch codes other spent hold hspent
      · cases hlast
        rw [hok.ended ticket owner batch codes hbefore value hspent row hrow
          hstored] at hrowUnused
        cases hrowUnused
  · exact hupdated.unique
  · intro later hlater
    exact (hupdated.issued later hlater).later (.refl later)
  · intro owner batch codes hbatch
    exact hupdated.stored owner batch codes (by simpa using hbatch)
  · intro ticket owner hstarted
    have hlt := hok.tickets ticket owner (by simpa using hstarted)
    rw [List.length_append]
    exact Nat.lt_add_right 1 hlt
  · intro owner spent hconsumed
    rcases List.mem_append.mp hconsumed with hold | hnew
    · exact hupdated.spent owner spent hold
    · cases List.mem_singleton.mp hnew
      refine ⟨RecoveryStore.withUsedAt now row, ?_, hhash,
        isUnused_withUsedAt now row⟩
      rw [Table.mem_update]
      exact ⟨row, hrow, by simp [hid, hrowUnused]⟩
  · intro ticket owner batch codes hevents
    exact hupdated.ended ticket owner batch codes
      (sublist_of_not_mem [_, _] _ (by simp) hevents)

theorem lookupHashes_insert {source : KeySource String} {batch : NewBatch} :
    lookupHashes (codes.insertAllFresh source (env.newRow batch)
        (env.key_newRow batch) batch.codes) =
      lookupHashes codes ++
        batch.codes.map fun code => env.lookupHash code.text := by
  have hcolumn : ∀ code id, (env.newRow batch code id).foundBy =
      env.lookupHash code.text := fun _ _ => rfl
  exact Table.map_insertAllFresh hcolumn codes batch.codes

/-- A batch whose hashes are free. -/
theorem CodesOk.created {source : KeySource String} {batch : NewBatch}
    (hok : CodesOk env codes history)
    (hnodup : (batch.codes.map fun code => env.lookupHash code.text).Nodup)
    (hfree : ∀ row ∈ codes, row.lookupHash ∉
      batch.codes.map fun code => env.lookupHash code.text) :
    CodesOk env
      (codes.insertAllFresh source (env.newRow batch) (env.key_newRow batch)
        batch.codes)
      (history ++
        [.created batch.userId batch.batchId (env.values batch)]) := by
  have hunique : (lookupHashes (codes.insertAllFresh source (env.newRow batch)
      (env.key_newRow batch) batch.codes)).Nodup := by
    rw [lookupHashes_insert, List.nodup_append']
    refine ⟨hok.unique, hnodup, ?_⟩
    intro hash hold hnew
    obtain ⟨row, hrow, rfl⟩ := List.mem_map.mp hold
    exact hfree row hrow hnew
  have hkept : ∀ row ∈ codes, row ∈ codes.insertAllFresh source
      (env.newRow batch) (env.key_newRow batch) batch.codes :=
    fun row hrow => Table.mem_insertAllFresh_of_mem hrow
  constructor
  · exact hok.toSingleUse.record fun _ _ => nofun
  · exact hunique
  · intro row hrow
    rcases Table.mem_insertAllFresh hrow with hold | ⟨code, hcode, id, rfl⟩
    · exact (hok.issued row hold).later (.refl row)
    · exact ⟨env.values batch, env.normalizeCode code.text, code.salt,
        List.mem_append_right history (List.mem_singleton_self _),
        List.mem_map.mpr ⟨code, hcode, rfl⟩, rfl, rfl⟩
  · intro userId batchId values hcreated value hvalue
    rcases List.mem_append.mp hcreated with hold | hnew
    · obtain ⟨row, hrow, howner, hhash⟩ :=
        hok.stored userId batchId values hold value hvalue
      exact ⟨row, hkept row hrow, howner, hhash⟩
    · cases List.mem_singleton.mp hnew
      obtain ⟨code, hcode, rfl⟩ := List.mem_map.mp hvalue
      have hrow : ∃ id, env.newRow batch code id ∈ codes.insertAllFresh source
          (env.newRow batch) (env.key_newRow batch) batch.codes :=
        Table.exists_insertAllFresh hcode
      obtain ⟨id, hrow⟩ := hrow
      exact ⟨_, hrow, rfl, rfl⟩
  · intro ticket userId hstarted
    have hlt := hok.tickets ticket userId (by simpa using hstarted)
    rw [List.length_append]
    exact Nat.lt_add_right 1 hlt
  · intro userId value hconsumed
    obtain ⟨row, hrow, hhash, hspent⟩ :=
      hok.spent userId value (by simpa using hconsumed)
    exact ⟨row, hkept row hrow, hhash, hspent⟩
  · intro ticket userId batchId values hevents value hvalue row hrow hhash
    have hbefore := sublist_of_not_mem [_, _] _ (by simp) hevents
    obtain ⟨old, hold, -, holdHash⟩ := hok.stored userId batchId values
      (hbefore.subset List.mem_cons_self) value hvalue
    rw [eq_of_lookupHash hunique hrow (hkept old hold)
      (hhash.trans holdHash.symm)]
    exact hok.ended ticket userId batchId values hbefore value hvalue old hold
      holdHash

end CodesOk

/-! ## The invariant of the calls -/

/-- The database after some statements of any calls. -/
structure Evolves (before after : RecoveryStore) : Prop where
  kept : ∀ row ∈ before.mfaRecoveryCodes, ∃ later ∈ after.mfaRecoveryCodes,
    row.Later later
  history : ∃ events, after.history = before.history ++ events ∧
    ∀ ticket userId, .regenerationStarted ticket userId ∈ events →
      before.history.length ≤ ticket

def RecoveryStore.Ok (env : RecoveryEnv) (store : RecoveryStore) : Prop :=
  CodesOk env store.mfaRecoveryCodes store.history

/-- Where a regeneration stands: `ids` are the rows it has yet to revoke. -/
def Regenerates (env : RecoveryEnv) (store : RecoveryStore)
    (ticket : Option Nat) (userId : String) (ids : List String) : Prop :=
  ∀ number, ticket = some number →
    .regenerationStarted number userId ∈ store.history ∧
      Covered env store.mfaRecoveryCodes store.history ids number userId

def RecoveryThread.Ok (env : RecoveryEnv) (store : RecoveryStore) :
    RecoveryThread → Prop
  | .generating userId _ ticket => ∀ number, ticket = some number →
      .regenerationStarted number userId ∈ store.history
  | .revoking batch ticket active _ =>
      Regenerates env store ticket batch.userId active
  | .inserting batch ticket revoked _ _ =>
      Regenerates env store ticket batch.userId revoked
  | .auditing batch ticket => Regenerates env store ticket batch.userId []
  | .reporting batch ticket => Regenerates env store ticket batch.userId []
  | .marking userId value codeId =>
      VerifiedCode env store.mfaRecoveryCodes userId value codeId
  | .countingActive _ | .regenerating _ | .lookingUp _ _ | .countingLeft _
  | .auditingUse _ _ | .reportingUse _ _ | .warning _ _ => True

section Calls

variable {env : RecoveryEnv} {before after : RecoveryStore}

theorem Evolves.of_same (events : List RecoveryEvent)
    (hcodes : after.mfaRecoveryCodes = before.mfaRecoveryCodes)
    (hhistory : after.history = before.history ++ events)
    (hstarted : ∀ ticket userId, .regenerationStarted ticket userId ∈ events →
      before.history.length ≤ ticket) : Evolves before after := by
  refine ⟨fun row hrow => ⟨row, ?_, .refl row⟩, events, hhistory, hstarted⟩
  rwa [hcodes]

theorem Evolves.refl (store : RecoveryStore) : Evolves store store :=
  .of_same [] rfl (List.append_nil store.history).symm (by simp)

theorem Evolves.answer {answer : RecoveryAnswer} {store : RecoveryStore}
    (hcodes : store.mfaRecoveryCodes = before.mfaRecoveryCodes)
    (hhistory : store.history = before.history) :
    Evolves before (store.answer answer) :=
  .of_same [.answered answer] hcodes (by rw [← hhistory]; rfl) (by simp)

/-- A later batch has other hashes, so what was covered stays so. -/
theorem Covered.later {ids : List String} {ticket : Nat} {userId : String}
    (hbefore : before.Ok env) (hafter : after.Ok env)
    (hevolves : Evolves before after)
    (hstarted : .regenerationStarted ticket userId ∈ before.history)
    (hcovered : Covered env before.mfaRecoveryCodes before.history ids ticket
      userId) :
    Covered env after.mfaRecoveryCodes after.history ids ticket userId := by
  intro batchId values hevents value hvalue later hlater hhash hunused
  obtain ⟨events, hhistory, hnew⟩ := hevolves.history
  rw [hhistory] at hevents
  have hold := sublist_of_not_mem [_] _ (fun hmem =>
    absurd (hnew ticket userId hmem)
      (Nat.not_le.mpr (hbefore.tickets ticket userId hstarted))) hevents
  obtain ⟨row, hrow, -, hrowHash⟩ := hbefore.stored userId batchId values
    (hold.subset List.mem_cons_self) value hvalue
  obtain ⟨same, hsame, hrowLater⟩ := hevolves.kept row hrow
  have heq : same = later := eq_of_lookupHash hafter.unique hsame hlater
    ((hrowLater.lookupHash.trans hrowHash).trans hhash.symm)
  subst heq
  rw [hrowLater.id]
  exact hcovered batchId values hold value hvalue row hrow hrowHash
    (hrowLater.unused hunused)

theorem Evolves.mem_history (hevolves : Evolves before after)
    {event : RecoveryEvent} (hevent : event ∈ before.history) :
    event ∈ after.history := by
  obtain ⟨events, hhistory, -⟩ := hevolves.history
  rw [hhistory]
  exact List.mem_append_left events hevent

theorem Regenerates.later {ticket : Option Nat} {userId : String}
    {ids : List String} (hbefore : before.Ok env) (hafter : after.Ok env)
    (hevolves : Evolves before after)
    (hregenerates : Regenerates env before ticket userId ids) :
    Regenerates env after ticket userId ids := by
  intro number hticket
  obtain ⟨hstarted, hcovered⟩ := hregenerates number hticket
  exact ⟨hevolves.mem_history hstarted,
    hcovered.later hbefore hafter hevolves hstarted⟩

/-- What others do leaves a call where it was. -/
theorem RecoveryThread.Ok.later {thread : RecoveryThread}
    (hbefore : before.Ok env) (hafter : after.Ok env)
    (hevolves : Evolves before after) (hthread : thread.Ok env before) :
    thread.Ok env after := by
  cases thread with
  | generating userId reason ticket =>
      exact fun number hticket =>
        hevolves.mem_history (hthread number hticket)
  | revoking | inserting | auditing | reporting =>
      exact Regenerates.later hbefore hafter hevolves hthread
  | marking userId value codeId =>
      obtain ⟨row, hrow, hid, howner, hhash, hverify⟩ := hthread
      obtain ⟨later, hlater, hsame⟩ := hevolves.kept row hrow
      refine ⟨later, hlater, hsame.id.trans hid, hsame.userId.trans howner,
        hsame.lookupHash.trans hhash, ?_⟩
      rwa [hsame.codeHash]
  | countingActive | regenerating | lookingUp | countingLeft | auditingUse
  | reportingUse | warning => trivial

def recoveryInvariant (env : RecoveryEnv) :
    Invariant RecoveryStore RecoveryThread where
  SharedOk store := store.Ok env
  ThreadOk store thread := thread.Ok env store
  Apart _ _ := True

theorem keeps_recovery {thread : RecoveryThread}
    {next : Option RecoveryThread} (hbefore : before.Ok env)
    (hafter : after.Ok env) (hevolves : Evolves before after)
    (hnext : ∀ following, next = some following → following.Ok env after) :
    (recoveryInvariant env).Keeps before thread after next where
  shared := hafter
  thread := hnext
  others _ hother _ := hother.later hbefore hafter hevolves
  apart _ _ _ _ _ := ⟨trivial, trivial⟩

/-! ### Statements -/

variable {next : Option RecoveryThread} {userId : String}
  {ticket : Option Nat} {batch : NewBatch}

theorem keeps_answer {thread : RecoveryThread} {answer : RecoveryAnswer}
    {store : RecoveryStore} (hbefore : before.Ok env)
    (hcodes : store.mfaRecoveryCodes = before.mfaRecoveryCodes)
    (hhistory : store.history = before.history) :
    (recoveryInvariant env).Keeps before thread (store.answer answer) none := by
  refine keeps_recovery hbefore ?_ (.answer hcodes hhistory) nofun
  have hanswered := CodesOk.answer hbefore answer
  rw [← hcodes, ← hhistory] at hanswered
  exact hanswered

/-- A statement that changes neither the codes nor the history. -/
theorem keeps_quiet {thread following : RecoveryThread}
    {store : RecoveryStore} (hbefore : before.Ok env)
    (hcodes : store.mfaRecoveryCodes = before.mfaRecoveryCodes)
    (hhistory : store.history = before.history)
    (hfollowing : following.Ok env before) :
    (recoveryInvariant env).Keeps before thread store (some following) := by
  have hevolves : Evolves before store :=
    .of_same [] hcodes (by rw [hhistory, List.append_nil]) (by simp)
  have hafter : store.Ok env := by
    rw [RecoveryStore.Ok, hcodes, hhistory]
    exact hbefore
  refine keeps_recovery hbefore hafter hevolves ?_
  rintro _ ⟨⟩
  exact hfollowing.later hbefore hafter hevolves

theorem keeps_beginBatch {reason : GenerationReason} {draw : BatchDraw}
    (hbefore : before.Ok env)
    (hthread : (RecoveryThread.generating userId reason ticket).Ok env before)
    (hstep : beginBatch env before userId reason ticket draw =
      some (after, next)) :
    (recoveryInvariant env).Keeps before (.generating userId reason ticket)
      after next := by
  rw [beginBatch, Option.map_eq_some_iff] at hstep
  obtain ⟨batch, hbatch, heq⟩ := hstep
  cases heq
  have howner : batch.userId = userId := by
    unfold RecoveryEnv.newBatch at hbatch
    split at hbatch
    case isTrue =>
      rw [Option.map_eq_some_iff] at hbatch
      obtain ⟨codes, -, rfl⟩ := hbatch
      rfl
    case isFalse => cases hbatch
  apply keeps_quiet hbefore rfl rfl
  intro number hticket
  rw [howner]
  refine ⟨hthread number hticket, ?_⟩
  intro batchId values hevents value hvalue row hrow hhash hunused
  obtain ⟨stored, hstored, hstoredOwner, hstoredHash⟩ := hbefore.stored userId
    batchId values (hevents.subset List.mem_cons_self) value hvalue
  have heq := eq_of_lookupHash hbefore.unique hrow hstored
    (hhash.trans hstoredHash.symm)
  rw [← heq] at hstoredOwner
  refine List.mem_map.mpr ⟨row, ?_, rfl⟩
  rw [RecoveryStore.activeOf, Table.mem_select]
  exact ⟨hrow, by simp [RecoveryCodeRow.isActiveOf, hstoredOwner, hunused]⟩

theorem keeps_revokeActive {active seen : List String} {now : Instant}
    (hbefore : before.Ok env)
    (hthread : (RecoveryThread.revoking batch ticket active seen).Ok env
      before)
    (hstep : revokeActive before batch ticket active seen now =
      some (after, next)) :
    (recoveryInvariant env).Keeps before
      (.revoking batch ticket active seen) after next := by
  unfold revokeActive at hstep
  dsimp only at hstep
  split at hstep
  case isTrue => cases hstep
  case isFalse =>
    cases hstep
    refine keeps_quiet hbefore ?_ ?_ ?_
    · rfl
    · rfl
    intro number hticket
    obtain ⟨hstarted, hcovered⟩ := hthread number hticket
    refine ⟨hstarted, ?_⟩
    intro batchId values hevents value hvalue row hrow hhash hunused
    refine List.mem_filter.mpr ⟨hcovered batchId values hevents value hvalue
      row hrow hhash hunused, ?_⟩
    rw [List.any_eq_true]
    exact ⟨row, hrow, by simp [hunused]⟩

/-- A row after the revocation. -/
theorem mem_revoked {store : RecoveryStore} {ids : List String}
    {now : Instant} {row : RecoveryCodeRow}
    (hrow : row ∈ store.mfaRecoveryCodes) :
    (if row.id ∈ ids then RecoveryStore.withRevokedAt now row else row) ∈
      store.revoked ids now := by
  rw [RecoveryStore.revoked, Table.mem_update]
  exact ⟨row, hrow, by simp⟩

/-- Once the rows are revoked, nothing from before the regeneration is
left. -/
theorem Regenerates.revoked {ids : List String} {now : Instant}
    (hbefore : before.Ok env) (hafter : after.Ok env)
    (hevolves : Evolves before after)
    (hkept : ∀ row ∈ before.mfaRecoveryCodes,
      (if row.id ∈ ids then RecoveryStore.withRevokedAt now row else row) ∈
        after.mfaRecoveryCodes)
    (hregenerates : Regenerates env before ticket userId ids) :
    Regenerates env after ticket userId [] := by
  intro number hticket
  have hlater := hregenerates.later hbefore hafter hevolves number hticket
  refine ⟨hlater.1, ?_⟩
  intro batchId values hevents value hvalue later hrow hhash hunused
  obtain ⟨hstarted, hcovered⟩ := hregenerates number hticket
  obtain ⟨events, hhistory, hnew⟩ := hevolves.history
  rw [hhistory] at hevents
  have hold := sublist_of_not_mem [_] _ (fun hmem =>
    absurd (hnew number userId hmem)
      (Nat.not_le.mpr (hbefore.tickets number userId hstarted))) hevents
  obtain ⟨row, hstored, -, hrowHash⟩ := hbefore.stored userId batchId values
    (hold.subset List.mem_cons_self) value hvalue
  have hsame := hkept row hstored
  by_cases hid : row.id ∈ ids
  · rw [if_pos hid] at hsame
    rw [eq_of_lookupHash hafter.unique hrow hsame
      (hhash.trans hrowHash.symm), isUnused_withRevokedAt] at hunused
    cases hunused
  · rw [if_neg hid] at hsame
    rw [eq_of_lookupHash hafter.unique hrow hsame
      (hhash.trans hrowHash.symm)] at hunused
    exact absurd (hcovered batchId values hold value hvalue row hstored
      hrowHash hunused) hid

theorem keeps_insertBatch {revoked seen : List String} {revokedAt : Instant}
    (hbefore : before.Ok env)
    (hthread : (RecoveryThread.inserting batch ticket revoked revokedAt
      seen).Ok env before)
    (hstep : insertBatch env before batch ticket revoked revokedAt =
      some (after, next)) :
    (recoveryInvariant env).Keeps before
      (.inserting batch ticket revoked revokedAt seen) after next := by
  unfold insertBatch at hstep
  split at hstep
  case isTrue => cases hstep
  case isFalse =>
    split at hstep
    case isFalse =>
      cases hstep
      exact keeps_answer hbefore rfl rfl
    case isTrue hfree =>
      rw [Option.some.injEq, Prod.mk.injEq] at hstep
      obtain ⟨hstore, rfl⟩ := hstep
      rw [RecoveryStore.lookupHashesFree, Bool.and_eq_true,
        decide_eq_true_eq, List.all_eq_true] at hfree
      obtain ⟨hnodup, hfree⟩ := hfree
      have hrevoked : CodesOk env (before.revoked revoked revokedAt)
          before.history := CodesOk.update hbefore (later_withRevokedAt _)
      have hkept : ∀ row ∈ before.mfaRecoveryCodes,
          (if row.id ∈ revoked then RecoveryStore.withRevokedAt revokedAt row
            else row) ∈ after.mfaRecoveryCodes := by
        intro row hrow
        rw [← hstore]
        exact Table.mem_insertAllFresh_of_mem (mem_revoked hrow)
      have hafter : after.Ok env := by
        rw [← hstore]
        refine hrevoked.created hnodup ?_
        intro row hrow
        obtain ⟨old, hold, rfl⟩ := Table.mem_update.mp hrow
        have hfresh := of_decide_eq_true (hfree old hold)
        split
        case isTrue => exact hfresh
        case isFalse => exact hfresh
      have hevolves : Evolves before after := by
        refine ⟨fun row hrow => ⟨_, hkept row hrow, ?_⟩,
          [.created batch.userId batch.batchId (env.values batch)], ?_,
          by simp⟩
        · split
          case isTrue => exact later_withRevokedAt revokedAt row
          case isFalse => exact .refl row
        · rw [← hstore]
          rfl
      refine keeps_recovery hbefore hafter hevolves ?_
      rintro _ ⟨⟩
      exact Regenerates.revoked hbefore hafter hevolves hkept hthread

theorem keeps_finishBatch
    (hbefore : before.Ok env)
    (hthread : (RecoveryThread.reporting batch ticket).Ok env before) :
    (recoveryInvariant env).Keeps before (.reporting batch ticket)
      (finishBatch before batch ticket) none := by
  cases ticket with
  | none => exact keeps_answer hbefore rfl rfl
  | some number =>
      obtain ⟨-, hcovered⟩ := hthread number rfl
      refine keeps_recovery hbefore ?_ ?_ nofun
      · exact (CodesOk.completed hbefore hcovered).answer _
      · refine .of_same [.regenerationCompleted number batch.userId,
          .answered (.generated (some batch.batchId)
            (batch.codes.map PlainCode.text))] rfl ?_ ?_
        · simp [finishBatch, RecoveryStore.answer, RecoveryStore.record,
            RecoveryStore.createSecurityEvent]
        · simp

theorem keeps_lookUpCode {code : String} (hbefore : before.Ok env) :
    (recoveryInvariant env).Keeps before (.lookingUp userId code)
      (lookUpCode env before userId code).1
      (lookUpCode env before userId code).2 := by
  unfold lookUpCode
  dsimp only
  split
  case h_1 => exact keeps_answer hbefore rfl rfl
  case h_2 row hfind =>
    obtain ⟨hrow, hwhere⟩ := Table.mem_of_first? hfind
    rw [Bool.and_eq_true, beq_iff_eq] at hwhere
    split
    case isTrue hverify =>
      refine keeps_quiet hbefore ?_ ?_ ?_
      · rfl
      · rfl
      · exact ⟨row, hrow, rfl, hverify.1, hwhere.1, hverify.2⟩
    case isFalse => exact keeps_answer hbefore rfl rfl

theorem keeps_markCode {value codeId : String} {now : Instant}
    (hargon2 : env.Argon2Sound) (hbefore : before.Ok env)
    (hthread : (RecoveryThread.marking userId value codeId).Ok env before)
    (hstep : markCode before userId value codeId now = some (after, next)) :
    (recoveryInvariant env).Keeps before (.marking userId value codeId) after
      next := by
  unfold markCode at hstep
  dsimp only at hstep
  split at hstep
  case isTrue => cases hstep
  case isFalse =>
    split at hstep
    case isFalse =>
      cases hstep
      exact keeps_answer hbefore rfl rfl
    case isTrue hany =>
      cases hstep
      obtain ⟨row, hrow, hwhere⟩ := List.any_eq_true.mp hany
      rw [Bool.and_eq_true, beq_iff_eq] at hwhere
      refine keeps_recovery hbefore ?_ ?_ ?_
      · exact CodesOk.consumed hargon2 hbefore hthread ⟨row, hrow, hwhere⟩
      · exact ⟨(succeeds_update (RecoveryStore.key_withUsedAt now)
          (later_withUsedAt now)).kept, [.consumed userId value], rfl,
          by simp⟩
      · rintro _ ⟨⟩
        trivial

theorem recoveryInvariant_inductive (hargon2 : env.Argon2Sound) :
    (recoveryInvariant env).Inductive (recoveryProgram env)
      fun _ _ _ => True where
  start store call hstore := by
    refine ⟨?_, fun other => ⟨trivial, trivial⟩⟩
    cases call with
    | generateCodes userId reason => exact nofun
    | generateCodesIfMissing | regenerateCodes | consumeCode => trivial
  advance store thread input after next hstore hthread _ hadvance := by
    change advanceRecovery env store thread input = some (after, next)
      at hadvance
    cases thread with
    | countingActive userId =>
        dsimp only [advanceRecovery] at hadvance
        split at hadvance
        case isTrue =>
          cases hadvance
          exact keeps_answer hstore rfl rfl
        case isFalse =>
          cases hadvance
          exact keeps_quiet hstore rfl rfl nofun
    | regenerating userId =>
        cases hadvance
        refine keeps_recovery hstore (CodesOk.started hstore userId) ?_ ?_
        · exact .of_same [.regenerationStarted store.history.length userId]
            rfl rfl (by simp)
        · rintro _ ⟨⟩ number ⟨⟩
          exact List.mem_append_right _ (List.mem_singleton_self _)
    | generating userId reason ticket =>
        exact keeps_beginBatch hstore hthread hadvance
    | revoking batch ticket active seen =>
        exact keeps_revokeActive hstore hthread hadvance
    | inserting batch ticket revoked revokedAt seen =>
        exact keeps_insertBatch hstore hthread hadvance
    | auditing batch ticket =>
        cases hadvance
        exact keeps_quiet hstore rfl rfl hthread
    | reporting batch ticket =>
        cases hadvance
        exact keeps_finishBatch hstore hthread
    | lookingUp userId code =>
        have heq : lookUpCode env store userId code = (after, next) :=
          Option.some.inj hadvance
        have hlook : (recoveryInvariant env).Keeps store (.lookingUp userId code)
            (lookUpCode env store userId code).1
            (lookUpCode env store userId code).2 := keeps_lookUpCode hstore
        rwa [heq] at hlook
    | marking userId value codeId =>
        exact keeps_markCode hargon2 hstore hthread hadvance
    | countingLeft | auditingUse =>
        cases hadvance
        exact keeps_quiet hstore rfl rfl trivial
    | reportingUse userId remainingCount =>
        dsimp only [advanceRecovery] at hadvance
        split at hadvance
        case isTrue =>
          cases hadvance
          exact keeps_quiet hstore rfl rfl trivial
        case isFalse =>
          cases hadvance
          exact keeps_answer hstore rfl rfl
    | warning userId remainingCount =>
        cases hadvance
        exact keeps_answer hstore rfl rfl
  abort store thread hstore hthread := by
    change (recoveryInvariant env).Keeps store thread
      (abortRecovery store thread) none
    cases thread with
    | inserting batch ticket revoked revokedAt seen =>
        have hevolves : Evolves store (store.unlock revoked) :=
          .of_same [] rfl (List.append_nil store.history).symm (by simp)
        exact keeps_recovery hstore hstore hevolves nofun
    | _ => exact keeps_recovery hstore hstore (.refl store) nofun
  environment store event := event.elim

theorem codesOk_empty : CodesOk env .empty [] where
  once userId other value hsub := by cases hsub
  owner userId value hconsumed := by cases hconsumed
  superseded ticket userId batchId values other value hsub := by cases hsub
  unique := List.nodup_nil
  issued row hrow := absurd hrow (Table.not_mem_empty row)
  stored userId batchId values hcreated := by cases hcreated
  tickets ticket userId hstarted := by cases hstarted
  spent userId value hconsumed := by cases hconsumed
  ended ticket userId batchId values hevents := by cases hevents

end Calls

/-- In every interleaving of the calls of any users, recovery codes are single
use. -/
theorem recoveryCodes_singleUse (env : RecoveryEnv)
    (hargon2 : env.Argon2Sound) (actions : List RecoveryAction)
    (pool : RecoveryPool)
    (hrun : StepSystem.run (step (recoveryProgram env)) RecoveryPool.initial
      actions = some pool) : SingleUse pool.shared.history := by
  have hstart : (recoveryInvariant env).Holds RecoveryPool.initial :=
    Invariant.holds_start codesOk_empty
  have hmeets : StepSystem.Along (step (recoveryProgram env))
      (Meets fun _ _ _ => True) RecoveryPool.initial actions := by
    apply StepSystem.along_of_forall
    intro action _ pool
    cases action with
    | advance id input => exact fun _ _ => trivial
    | spawn | abort | environment => trivial
  exact ((recoveryInvariant_inductive hargon2).run hstart hmeets
    hrun).shared.toSingleUse

/-! ## A regeneration -/

namespace RecoveryWitness

def hashPrefix : String := "$argon2id$v=19$m=65536,t=3,p=4$"

/-- A hash that keeps its password. -/
def env : RecoveryEnv where
  argon2Verify storedHash password := decide (storedHash = hashPrefix ++ password)
  hashOpaqueToken token := "sha256:" ++ token
  accessTokenTtlSeconds := 900
  refreshTokenTtlSeconds := 2592000
  accountDeletionGraceDays := 30
  totpCheck code secret _ := code == secret
  hmacSha256 text := "hmac:" ++ text
  toUpperCase text := String.ofList (text.toList.map Char.toUpper)
  adaptiveMfaEnabled := false
  adaptiveMfaRequireForMedium := false
  adaptiveMfaHighRiskIps := []
  adaptiveMfaIpFailureWindowSeconds := 900
  adaptiveMfaIpFailureHighThreshold := 20
  adaptiveMfaImpossibleTravelWindowMinutes := 60
  rateLimitMfaRecoveryPerMin := 5
  argon2Hash password _ := hashPrefix ++ password
  mfaRecoveryCodeCount := 1
  mfaRecoveryCodeLength := 20
  uuids := .longer
  count_pos := by decide
  length_min := by decide

theorem argon2Sound : env.Argon2Sound := by
  intro password salt attempt hverify
  have heq : hashPrefix ++ password = hashPrefix ++ attempt :=
    of_decide_eq_true hverify
  have htext := congrArg String.toList heq
  rw [String.toList_append, String.toList_append, List.append_cancel_left_eq,
    String.toList_inj] at htext
  exact htext.symm

/-- The code of twenty times one byte. -/
def draw (batchId : String) (byte : UInt8) : BatchDraw :=
  ⟨batchId, [⟨List.replicate 20 byte, [byte]⟩]⟩

/-- A call that runs to its end alone. -/
def alone (id : Nat) (call : RecoveryCall) (draw : BatchDraw)
    (statements : Nat) : List RecoveryAction :=
  .spawn id call :: List.replicate statements (.advance id ⟨id, draw⟩)

def after (actions : List RecoveryAction) : RecoveryPool :=
  StepSystem.after (step (recoveryProgram env)) RecoveryPool.initial actions

/-- Two batches, and a code of each presented by their user. -/
def regenerated : List RecoveryAction :=
  alone 1 (.generateCodes "user-1" .initialMfaSetup) (draw "batch-1" 0) 5 ++
    alone 2 (.regenerateCodes "user-1") (draw "batch-2" 1) 6 ++
    alone 3 (.consumeCode "user-1" "aaaaa-aaaaa-aaaaa-aaaaa") (draw "" 0) 1 ++
    alone 4 (.consumeCode "user-1" "bbbbb-bbbbb-bbbbb-bbbbb") (draw "" 0) 6

/-- Only the newer code is taken. -/
theorem singleUse_regenerated :
    SingleUse (after regenerated).shared.history ∧
      (after regenerated).shared.history.getLast? =
        some (.answered (.verified 0)) ∧
      .consumed "user-1" "BBBBBBBBBBBBBBBBBBBB" ∈
        (after regenerated).shared.history :=
  ⟨recoveryCodes_singleUse env argon2Sound regenerated (after regenerated)
    (StepSystem.run_after _ (by decide +kernel)), by decide +kernel,
    by decide +kernel⟩

end RecoveryWitness

end IdProvider
