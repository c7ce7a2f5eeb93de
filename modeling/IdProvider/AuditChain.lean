/-
The audit repository: canonical texts, entry hashes, chained inserts and the
verification of a range of the chain.
-/
import IdProvider.HashChain
import IdProvider.JsonReading
import IdProvider.RowOrder
import IdProvider.Schema
import Mathlib.Data.Prod.Lex

namespace IdProvider

open JsonText KeyedTable

/-- `left.localeCompare(right) <= 0`. -/
structure Collation where
  le : String → String → Bool
  total : ∀ left right, le left right = true ∨ le right left = true
  trans : ∀ left middle right, le left middle = true →
    le middle right = true → le left right = true

def Collation.codePoint : Collation where
  le left right := decide (left ≤ right)
  total left right := by simpa using le_total left right
  trans left middle right := by simpa using le_trans

/-- The collation and the numbers of the runtime, and its SHA-256 in
hexadecimal. -/
structure AuditEnv where
  collation : Collation
  numbers : NumberRuntime
  sha256Hex : String → String

/-! ## Canonical texts -/

def joinComma : List (List Char) → List Char
  | [] => []
  | [item] => item
  | item :: items => item ++ ',' :: joinComma items

def sortEntries {Value : Type} (collation : Collation)
    (entries : List (String × Value)) : List (String × Value) :=
  entries.insertionSort fun left right => collation.le left.1 right.1

def canonicalizeNumber : JsNumber → List Char
  | .finite value => value.render
  | .nan => Json.null.render
  | .infinite _ => Json.null.render

section Canonicalize

variable (collation : Collation)

mutual

def canonicalize : JsValue → List Char
  | .null => Json.null.render
  | .str value => quote value
  | .number value => canonicalizeNumber value
  | .bool value => (Json.bool value).render
  | .date value => quote (toISOString value)
  | .arr items => '[' :: (joinComma (canonicalizeItems items) ++ [']'])
  | .obj fields =>
      '{' :: (joinComma
        ((sortEntries collation (canonicalizeFields fields)).map fun entry =>
          quote entry.1 ++ ':' :: entry.2) ++ ['}'])
  | .absent text => quote text

def canonicalizeItems : List JsValue → List (List Char)
  | [] => []
  | item :: items => canonicalize item :: canonicalizeItems items

/-- Sorting looks at the names only, so it may follow the recursion. -/
def canonicalizeFields : List (String × JsValue) →
    List (String × List Char)
  | [] => []
  | (name, value) :: fields =>
      (name, canonicalize value) :: canonicalizeFields fields

end

end Canonicalize

/-! ## Entry hashes -/

structure EntryHashInput where
  id : String
  createdAt : Instant
  actorUserId : Option String
  action : String
  resourceType : String
  resourceId : Option String
  payload : JsValue
  prevHash : Option String

def nullable : Option String → JsValue
  | none => .null
  | some value => .str value

def EntryHashInput.toJsValue (input : EntryHashInput) : JsValue :=
  .obj
    [("id", .str input.id),
      ("createdAt", .str (toISOString input.createdAt)),
      ("actorUserId", nullable input.actorUserId),
      ("action", .str input.action),
      ("resourceType", .str input.resourceType),
      ("resourceId", nullable input.resourceId),
      ("payload", input.payload),
      ("prevHash", nullable input.prevHash)]

def buildEntryHash (env : AuditEnv) (input : EntryHashInput) : String :=
  env.sha256Hex (String.ofList (canonicalize env.collation input.toJsValue))

/-! ## Appending -/

def integrityVersionNone : Nat := 0

def integrityVersionChained : Nat := 1

def shouldUseHashChain (action : String) : Bool :=
  "admin.".toList.isPrefixOf action.toList

structure CreateAuditLogInput where
  actorUserId : Option String
  action : String
  resourceType : String
  resourceId : Option String
  payload : List (String × JsValue)

def AuditLog.chained (row : AuditLog) : Bool :=
  row.integrityVersion == integrityVersionChained

def rowRank (createdAt : Timestamp) (id : String) : Int ×ₗ String :=
  toLex (createdAt.micros, id)

/-- The sort key of both queries, ascending or descending. -/
def AuditLog.rank (row : AuditLog) : Int ×ₗ String :=
  rowRank row.createdAt row.id

def latestEntryHash (table : Table AuditLog) : Option String :=
  (RowOrder.descending AuditLog.rank (table.select AuditLog.chained)).head?.bind
    AuditLog.entryHash

/-- The widths of the `varchar` columns. -/
def AuditLog.fitsColumns (row : AuditLog) : Bool :=
  decide (row.action.length ≤ 128) && decide (row.resourceType.length ≤ 64) &&
    row.resourceId.all fun resourceId => decide (resourceId.length ≤ 128)

def insertAuditLog (table : Table AuditLog) (row : AuditLog) :
    Option (Table AuditLog) :=
  if row.fitsColumns then table.insert? row else none

/-- `createAuditLog` when `new Date()` reads `now` and `randomUUID()` draws
`id`; `none` when the database rejects the row. -/
def createAuditLog (env : AuditEnv) (now : Instant) (id : String)
    (input : CreateAuditLogInput) (table : Table AuditLog) :
    Option (Table AuditLog) := do
  let payload ← storeRecord input.payload
  if shouldUseHashChain input.action then
    let prevHash := latestEntryHash table
    insertAuditLog table
      { id := id
        actorUserId := input.actorUserId
        action := input.action
        resourceType := input.resourceType
        resourceId := input.resourceId
        payload := payload
        prevHash := prevHash
        entryHash := some (buildEntryHash env
          { id := id
            createdAt := now
            actorUserId := input.actorUserId
            action := input.action
            resourceType := input.resourceType
            resourceId := input.resourceId
            payload := .obj input.payload
            prevHash := prevHash })
        integrityVersion := integrityVersionChained
        createdAt := .ofInstant now }
  else
    insertAuditLog table
      { id := id
        actorUserId := input.actorUserId
        action := input.action
        resourceType := input.resourceType
        resourceId := input.resourceId
        payload := payload
        prevHash := none
        entryHash := none
        integrityVersion := integrityVersionNone
        createdAt := .ofInstant now }

/-! ## Cursors -/

structure AuditCursor where
  createdAt : Instant
  id : String
  deriving DecidableEq

/-- `createdAt < cursor.createdAt`, or the same and a smaller id. -/
def isBefore (createdAt : Timestamp) (id : String) (cursor : AuditCursor) :
    Bool :=
  createdAt.before cursor.createdAt ||
    (decide (createdAt = .ofInstant cursor.createdAt) &&
      decide (id < cursor.id))

def AuditCursor.rank (cursor : AuditCursor) : Int ×ₗ String :=
  rowRank (.ofInstant cursor.createdAt) cursor.id

theorem isBefore_eq (createdAt : Timestamp) (id : String)
    (cursor : AuditCursor) :
    isBefore createdAt id cursor =
      decide (rowRank createdAt id < cursor.rank) := by
  have hmicros : createdAt = .ofInstant cursor.createdAt ↔
      createdAt.micros = (Timestamp.ofInstant cursor.createdAt).micros :=
    ⟨congrArg Timestamp.micros, fun heq => by
      cases createdAt
      exact congrArg Timestamp.mk heq⟩
  rw [isBefore, Timestamp.before, AuditCursor.rank, rowRank, rowRank,
    ← Bool.decide_and, ← Bool.decide_or]
  apply decide_eq_decide.mpr
  rw [Prod.Lex.toLex_lt_toLex, hmicros]

/-- A cursor keeps the milliseconds only. -/
theorem AuditCursor.rank_le (createdAt : Timestamp) (id : String) :
    AuditCursor.rank ⟨createdAt.toInstant, id⟩ ≤ rowRank createdAt id := by
  rw [AuditCursor.rank, rowRank, rowRank, Prod.Lex.toLex_le_toLex]
  have hle : createdAt.toInstant * 1000 ≤ createdAt.micros :=
    Int.ediv_mul_le createdAt.micros (by decide)
  rcases lt_or_eq_of_le hle with hlt | heq
  · exact Or.inl hlt
  · exact Or.inr ⟨heq, le_refl id⟩

/-! ## Verifying -/

structure IntegrityReport where
  ok : Bool
  checked : Nat
  firstId : Option String
  lastId : Option String
  brokenAt : Option String
  reason : Option String
  deriving DecidableEq

def AuditLog.hashInput (env : AuditEnv) (row : AuditLog) :
    EntryHashInput where
  id := row.id
  createdAt := row.createdAt.toInstant
  actorUserId := row.actorUserId
  action := row.action
  resourceType := row.resourceType
  resourceId := row.resourceId
  payload := readJson env.numbers row.payload
  prevHash := row.prevHash

def chainFormat (env : AuditEnv) : HashChain.Format AuditLog String where
  prev := AuditLog.prevHash
  entry := AuditLog.entryHash
  digest row := buildEntryHash env (row.hashInput env)

def faultReason : HashChain.Fault → String
  | .prevHash => "prev_hash_mismatch"
  | .entryHash => "entry_hash_mismatch"

def inRange (from_ to_ : Option Instant) (row : AuditLog) : Bool :=
  from_.all (fun from_ =>
    decide ((Timestamp.ofInstant from_).micros ≤ row.createdAt.micros)) &&
  to_.all fun to_ =>
    decide (row.createdAt.micros ≤ (Timestamp.ofInstant to_).micros)

def verifyIntegrityRange (env : AuditEnv) (from_ to_ : Option Instant)
    (table : Table AuditLog) : IntegrityReport :=
  let rows := RowOrder.ascending AuditLog.rank
    (table.select fun row => row.chained && inRange from_ to_ row)
  match rows with
  | [] => ⟨true, 0, none, none, none, none⟩
  | first :: rest =>
      let last := rest.getLastD first
      let previous := (RowOrder.descending AuditLog.rank
        (table.select fun row =>
          row.chained && isBefore row.createdAt row.id
            ⟨first.createdAt.toInstant, first.id⟩)).head?
      let expectedPrevHash := previous.bind AuditLog.entryHash
      match HashChain.walk (chainFormat env) expectedPrevHash rows with
      | some (row, fault) =>
          ⟨false, rows.length, some first.id, some last.id, some row.id,
            some (faultReason fault)⟩
      | none =>
          ⟨true, rows.length, some first.id, some last.id, none, none⟩

end IdProvider
