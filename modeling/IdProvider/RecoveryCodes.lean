/-
The recovery codes of second factors under concurrent calls: generating,
regenerating and consuming codes, one database statement at a time.
-/
import IdProvider.Histories
import IdProvider.Interleaving
import IdProvider.LoginService

namespace IdProvider

open Interleaving JsonText KeyedTable

/-! ## Rows and codes -/

/-- The columns of `mfa_recovery_codes` that a batch fills besides. -/
structure RecoveryCodeRow extends MfaRecoveryCode where
  batchId : String
  lastChars : String
  deriving DecidableEq

instance : Keyed RecoveryCodeRow String := ⟨fun row => row.id⟩

def RecoveryCodeRow.isUnused (row : RecoveryCodeRow) : Bool :=
  IdProvider.isUnused row.toMfaRecoveryCode

def RecoveryCodeRow.isActiveOf (userId : String) (row : RecoveryCodeRow) :
    Bool :=
  row.userId == userId && row.isUnused

/-- Argon2 with its salt, the settings of the codes, and
`gen_random_uuid()`. -/
structure RecoveryEnv extends LoginEnv where
  argon2Hash : String → List UInt8 → String
  mfaRecoveryCodeCount : Nat
  mfaRecoveryCodeLength : Nat
  uuids : KeySource String
  count_pos : 1 ≤ mfaRecoveryCodeCount
  length_min : 20 ≤ mfaRecoveryCodeLength

def recoveryAlphabet : List Char := "ABCDEFGHJKLMNPQRSTUVWXYZ23456789".toList

/-- The loop of `generatePlainCode` on the bytes it draws: those above the
last multiple of the alphabet are skipped.  `none` when it wants more. -/
def drawCharacters : Nat → List UInt8 → Option (List Char)
  | 0, _ => some []
  | _ + 1, [] => none
  | length + 1, byte :: bytes =>
      if recoveryAlphabet.length * 7 ≤ byte.toNat then
        drawCharacters (length + 1) bytes
      else
        (drawCharacters length bytes).map fun raw =>
          recoveryAlphabet.getD (byte.toNat % recoveryAlphabet.length) 'A' ::
            raw

/-- `raw.match(/.{1,5}/g)?.join("-")`. -/
def groupCharacters (raw : List Char) : String :=
  "-".intercalate ((raw.toChunks 5).map String.ofList)

/-- The random bytes of one code, and the salt of its hash. -/
structure CodeDraw where
  bytes : List UInt8
  salt : List UInt8
  deriving DecidableEq

structure BatchDraw where
  batchId : String
  codes : List CodeDraw
  deriving DecidableEq

/-- A code as the user is shown it. -/
structure PlainCode where
  text : String
  salt : List UInt8
  deriving DecidableEq

inductive GenerationReason where
  | initialMfaSetup
  | regenerated
  deriving DecidableEq

def GenerationReason.text : GenerationReason → String
  | .initialMfaSetup => "initial_mfa_setup"
  | .regenerated => "regenerated"

/-- What `generateCodes` has drawn. -/
structure NewBatch where
  userId : String
  reason : GenerationReason
  batchId : String
  codes : List PlainCode
  deriving DecidableEq

namespace RecoveryEnv

variable (env : RecoveryEnv)

def normalizeCode (code : String) : String :=
  MfaRecoveryService.normalizeCode env.toLoginEnv code

def lookupHash (code : String) : String :=
  MfaRecoveryService.lookupHash env.toLoginEnv code

def generatePlainCode (draw : CodeDraw) : Option PlainCode :=
  (drawCharacters env.mfaRecoveryCodeLength draw.bytes).map fun raw =>
    ⟨groupCharacters raw, draw.salt⟩

/-- The part of `generateCodes` before its first statement. -/
def newBatch (userId : String) (reason : GenerationReason)
    (draw : BatchDraw) : Option NewBatch :=
  if draw.codes.length = env.mfaRecoveryCodeCount then
    (draw.codes.mapM env.generatePlainCode).map fun codes =>
      ⟨userId, reason, draw.batchId, codes⟩
  else none

/-- The row of `createBatch` for one of the codes. -/
def newRow (batch : NewBatch) (code : PlainCode) (id : String) :
    RecoveryCodeRow where
  id := id
  userId := batch.userId
  lookupHash := env.lookupHash code.text
  codeHash := env.argon2Hash (env.normalizeCode code.text) code.salt
  usedAt := none
  revokedAt := none
  batchId := batch.batchId
  lastChars := String.ofList
    ((env.normalizeCode code.text).toList.drop
      ((env.normalizeCode code.text).length - 8))

theorem key_newRow (batch : NewBatch) (code : PlainCode) (id : String) :
    key (env.newRow batch code id) = id := rfl

/-- The codes of a batch, as `consumeCode` compares them. -/
def values (batch : NewBatch) : List String :=
  batch.codes.map fun code => env.normalizeCode code.text

end RecoveryEnv

/-! ## The database and the calls -/

inductive RecoveryAnswer where
  | generated (batchId : Option String) (recoveryCodes : List String)
  | verified (remainingCount : Nat)
  | failed (failure : Failure)
  deriving DecidableEq

/-- What the history of a run says about codes; values are normalized. -/
inductive RecoveryEvent where
  | created (userId batchId : String) (values : List String)
  | regenerationStarted (ticket : Nat) (userId : String)
  | regenerationCompleted (ticket : Nat) (userId : String)
  | consumed (userId value : String)
  | answered (answer : RecoveryAnswer)
  deriving DecidableEq

/-- The tables, the rows that open transactions have locked, and a ghost: what
has happened, in order. -/
structure RecoveryStore where
  mfaRecoveryCodes : Table RecoveryCodeRow
  auditLogs : List CreateAuditLogInput
  securityEvents : List SecurityEventInput
  locks : List String
  history : List RecoveryEvent

def RecoveryStore.empty : RecoveryStore where
  mfaRecoveryCodes := .empty
  auditLogs := []
  securityEvents := []
  locks := []
  history := []

inductive RecoveryCall where
  | generateCodes (userId : String) (reason : GenerationReason)
  | generateCodesIfMissing (userId : String)
  | regenerateCodes (userId : String)
  | consumeCode (userId code : String)

/-- What a call does next.  `ticket` tells regenerations apart in the history,
`seen` lists the batches that were stored when the snapshot was taken: both
are ghosts. -/
inductive RecoveryThread where
  | countingActive (userId : String)
  | regenerating (userId : String)
  | generating (userId : String) (reason : GenerationReason)
      (ticket : Option Nat)
  | revoking (batch : NewBatch) (ticket : Option Nat) (active seen : List String)
  | inserting (batch : NewBatch) (ticket : Option Nat)
      (revoked : List String) (revokedAt : Instant) (seen : List String)
  | auditing (batch : NewBatch) (ticket : Option Nat)
  | reporting (batch : NewBatch) (ticket : Option Nat)
  | lookingUp (userId code : String)
  | marking (userId value codeId : String)
  | countingLeft (userId : String)
  | auditingUse (userId : String) (remainingCount : Nat)
  | reportingUse (userId : String) (remainingCount : Nat)
  | warning (userId : String) (remainingCount : Nat)

structure RecoveryInput where
  now : Instant
  draw : BatchDraw

namespace RecoveryStore

variable (store : RecoveryStore)

def record (event : RecoveryEvent) : RecoveryStore :=
  { store with history := store.history ++ [event] }

def answer (answer : RecoveryAnswer) : RecoveryStore :=
  store.record (.answered answer)

def createSecurityEvent (eventType userId : String)
    (payload : List (String × Json)) : RecoveryStore :=
  { store with
    securityEvents := store.securityEvents ++
      [⟨eventType, some userId, .obj payload⟩] }

def createAuditLog (action userId : String)
    (payload : List (String × JsValue)) : RecoveryStore :=
  { store with
    auditLogs := store.auditLogs ++
      [{ actorUserId := some userId
         action := action
         resourceType := "user"
         resourceId := some userId
         payload := payload }] }

def activeOf (userId : String) : List RecoveryCodeRow :=
  store.mfaRecoveryCodes.select fun row => row.isActiveOf userId

def batchesOf (userId : String) : List String :=
  (store.mfaRecoveryCodes.select fun row => row.userId == userId).map
    RecoveryCodeRow.batchId

/-- Of these rows, the ones that the `where` clause still wants. -/
def stillUnused (ids : List String) : List String :=
  ids.filter fun id =>
    store.mfaRecoveryCodes.rows.any fun row => row.id == id && row.isUnused

def lock (ids : List String) : RecoveryStore :=
  { store with locks := ids ++ store.locks }

def unlock (ids : List String) : RecoveryStore :=
  { store with locks := store.locks.filter fun id => id ∉ ids }

def withRevokedAt (now : Instant) (row : RecoveryCodeRow) : RecoveryCodeRow :=
  { row with revokedAt := some now }

theorem key_withRevokedAt (now : Instant) (row : RecoveryCodeRow) :
    key (withRevokedAt now row) = key row := rfl

def withUsedAt (now : Instant) (row : RecoveryCodeRow) : RecoveryCodeRow :=
  { row with usedAt := some now }

theorem key_withUsedAt (now : Instant) (row : RecoveryCodeRow) :
    key (withUsedAt now row) = key row := rfl

def revoked (ids : List String) (now : Instant) : Table RecoveryCodeRow :=
  store.mfaRecoveryCodes.update (fun row => decide (row.id ∈ ids))
    (withRevokedAt now) (key_withRevokedAt now)

/-- `lookup_hash` is unique. -/
def lookupHashesFree (hashes : List String) : Bool :=
  decide hashes.Nodup &&
    store.mfaRecoveryCodes.rows.all fun row => row.lookupHash ∉ hashes

end RecoveryStore

/-! ## Statements -/

section Advance

variable (env : RecoveryEnv)

def countPayload (remainingCount : Nat) : List (String × Json) :=
  [("remainingCount", natural remainingCount)]

def jsNatural (value : Nat) : JsValue := .number (.finite (.ofInt value))

def NewBatch.auditPayload (batch : NewBatch) : List (String × JsValue) :=
  [("batchId", .str batch.batchId), ("count", jsNatural batch.codes.length),
    ("reason", .str batch.reason.text)]

def NewBatch.eventPayload (batch : NewBatch) : List (String × Json) :=
  [("batchId", .str batch.batchId), ("count", natural batch.codes.length),
    ("reason", .str batch.reason.text)]

def invalidRecoveryCode : RecoveryAnswer :=
  .failed (.api ⟨401, "invalid_mfa_recovery_code",
    "Invalid MFA recovery code"⟩)

/-- `revokeActiveByUserId` takes the snapshot of its statement. -/
def beginBatch (store : RecoveryStore) (userId : String)
    (reason : GenerationReason) (ticket : Option Nat) (draw : BatchDraw) :
    Option (RecoveryStore × Option RecoveryThread) :=
  (env.newBatch userId reason draw).map fun batch =>
    (store, some (.revoking batch ticket
      ((store.activeOf userId).map fun row => row.id) (store.batchesOf userId)))

/-- It locks the rows it saw and still wants, when nobody else has them. -/
def revokeActive (store : RecoveryStore) (batch : NewBatch)
    (ticket : Option Nat) (active seen : List String) (now : Instant) :
    Option (RecoveryStore × Option RecoveryThread) :=
  let wanted := store.stillUnused active
  if wanted.any fun id => decide (id ∈ store.locks) then none
  else some (store.lock wanted, some (.inserting batch ticket wanted now seen))

/-- The insert and the commit.  Random batch ids are never ones that are
stored already. -/
def insertBatch (store : RecoveryStore) (batch : NewBatch)
    (ticket : Option Nat) (revoked : List String) (revokedAt : Instant) :
    Option (RecoveryStore × Option RecoveryThread) :=
  if store.mfaRecoveryCodes.rows.any fun row => row.batchId == batch.batchId
    then none
  else if store.lookupHashesFree
      (batch.codes.map fun code => env.lookupHash code.text) then
    some
      ((({ store with
          mfaRecoveryCodes := (store.revoked revoked revokedAt).insertAllFresh
            env.uuids (env.newRow batch) (env.key_newRow batch)
            batch.codes }).unlock revoked).record
          (.created batch.userId batch.batchId (env.values batch)),
        some (.auditing batch ticket))
  else
    some ((store.unlock revoked).answer
      (.failed (.uniqueViolation "mfa_recovery_codes_lookup_hash_key")), none)

def finishBatch (store : RecoveryStore) (batch : NewBatch)
    (ticket : Option Nat) : RecoveryStore :=
  let reported := store.createSecurityEvent "mfa.recovery_codes.generated"
    batch.userId batch.eventPayload
  let completed := match ticket with
    | none => reported
    | some ticket =>
        reported.record (.regenerationCompleted ticket batch.userId)
  completed.answer (.generated (some batch.batchId)
    (batch.codes.map PlainCode.text))

def findActiveCode (store : RecoveryStore) (hash : String) :
    Option RecoveryCodeRow :=
  store.mfaRecoveryCodes.first? fun row =>
    row.lookupHash == hash && row.isUnused

/-- The lookup and the verification of `consumeCode`. -/
def lookUpCode (store : RecoveryStore) (userId code : String) :
    RecoveryStore × Option RecoveryThread :=
  let value := env.normalizeCode code
  match findActiveCode store (env.lookupHash value) with
  | none => (store.answer invalidRecoveryCode, none)
  | some row =>
      if row.userId = userId ∧ env.argon2Verify row.codeHash value = true then
        (store, some (.marking userId value row.id))
      else (store.answer invalidRecoveryCode, none)

/-- `markUsed` waits for whoever has locked the row. -/
def markCode (store : RecoveryStore) (userId value codeId : String)
    (now : Instant) : Option (RecoveryStore × Option RecoveryThread) :=
  if codeId ∈ store.locks then none
  else
    let where_ := fun row : RecoveryCodeRow => row.id == codeId && row.isUnused
    if store.mfaRecoveryCodes.rows.any where_ then
      some
        (({ store with
            mfaRecoveryCodes := store.mfaRecoveryCodes.update where_
              (RecoveryStore.withUsedAt now)
              (RecoveryStore.key_withUsedAt now) }).record
            (.consumed userId value),
          some (.countingLeft userId))
    else some (store.answer invalidRecoveryCode, none)

def advanceRecovery (store : RecoveryStore) (thread : RecoveryThread)
    (input : RecoveryInput) : Option (RecoveryStore × Option RecoveryThread) :=
  match thread with
  | .countingActive userId =>
      if 0 < (store.activeOf userId).length then
        some (store.answer (.generated none []), none)
      else some (store, some (.generating userId .initialMfaSetup none))
  | .regenerating userId =>
      let ticket := store.history.length
      some
        ((store.createSecurityEvent "mfa.recovery_codes.revoked" userId
            [("reason", .str "regenerated")]).record
            (.regenerationStarted ticket userId),
          some (.generating userId .regenerated (some ticket)))
  | .generating userId reason ticket =>
      beginBatch env store userId reason ticket input.draw
  | .revoking batch ticket active seen =>
      revokeActive store batch ticket active seen input.now
  | .inserting batch ticket revoked revokedAt _ =>
      insertBatch env store batch ticket revoked revokedAt
  | .auditing batch ticket =>
      some
        (store.createAuditLog "mfa.recovery_codes.generated" batch.userId
            batch.auditPayload,
          some (.reporting batch ticket))
  | .reporting batch ticket => some (finishBatch store batch ticket, none)
  | .lookingUp userId code => some (lookUpCode env store userId code)
  | .marking userId value codeId =>
      markCode store userId value codeId input.now
  | .countingLeft userId =>
      some (store,
        some (.auditingUse userId (store.activeOf userId).length))
  | .auditingUse userId remainingCount =>
      some
        (store.createAuditLog "mfa.recovery_code.used" userId
            [("remainingCount", jsNatural remainingCount)],
          some (.reportingUse userId remainingCount))
  | .reportingUse userId remainingCount =>
      let reported := store.createSecurityEvent "mfa.recovery_code.used" userId
        (countPayload remainingCount)
      if remainingCount ≤ 2 then
        some (reported, some (.warning userId remainingCount))
      else some (reported.answer (.verified remainingCount), none)
  | .warning userId remainingCount =>
      some
        ((store.createSecurityEvent "mfa.recovery_codes.low" userId
            (countPayload remainingCount)).answer (.verified remainingCount),
          none)

def startRecovery : RecoveryCall → RecoveryThread
  | .generateCodes userId reason => .generating userId reason none
  | .generateCodesIfMissing userId => .countingActive userId
  | .regenerateCodes userId => .regenerating userId
  | .consumeCode userId code => .lookingUp userId code

/-- A call that dies is rolled back. -/
def abortRecovery (store : RecoveryStore) : RecoveryThread → RecoveryStore
  | .inserting _ _ revoked _ _ => store.unlock revoked
  | _ => store

def recoveryProgram :
    Program RecoveryStore RecoveryThread RecoveryCall RecoveryInput Empty where
  start := startRecovery
  advance := advanceRecovery env
  abort := abortRecovery
  environment _ event := event.elim

end Advance

abbrev RecoveryPool := Pool RecoveryStore RecoveryThread Nat

abbrev RecoveryAction := Interleaving.Action RecoveryCall RecoveryInput Empty Nat

/-- No code was ever generated. -/
def RecoveryPool.initial : RecoveryPool := Pool.start RecoveryStore.empty

end IdProvider
