/-
The statements of the key store: the current signing key, a bootstrap key, a
rotation, and the keys that are published.
-/
import IdProvider.RowOrder
import IdProvider.Schema
import Mathlib.Data.Prod.Lex

namespace IdProvider

open KeyedTable

/-- The reasons of `rotateNow`. -/
inductive RotateReason where
  | scheduled
  | manual
  | emergency
  deriving DecidableEq

inductive RotationReason where
  | bootstrap
  | rotate (reason : RotateReason)
  deriving DecidableEq

structure SigningKey where
  kid : String
  alg : String
  privateKeyPem : String
  publicKeyPem : String
  isActive : Bool
  rotatedFromKid : Option String
  rotationReason : Option RotationReason
  rotatedBy : Option String
  createdAt : Instant
  expiresAt : Option Instant
  revokedAt : Option Instant
  deriving DecidableEq

instance : Keyed SigningKey String := ⟨SigningKey.kid⟩

structure KeyStoreOptions where
  rotationIntervalHours : Nat
  gracePeriodHours : Nat
  deriving DecidableEq

def hourMillis : Int := 60 * 60 * 1000

/-- The `Date` that many hours after an instant, `none` when it is invalid. -/
def nowPlusHours (now : Instant) (hours : Nat) : Option Instant :=
  newDate (now + hours * hourMillis)

/-- What `randomUUID` and `createRsaKeyPair` return. -/
structure KeyDraw where
  kid : String
  privateKeyPem : String
  publicKeyPem : String
  deriving DecidableEq

/-- The `where` clause of `getCurrentActiveKey`. -/
def SigningKey.current (signingKey : SigningKey) : Bool :=
  signingKey.isActive && signingKey.expiresAt.isNone &&
    signingKey.revokedAt.isNone

def getCurrentActiveKey (signingKeys : Table SigningKey) :
    Option SigningKey :=
  (RowOrder.descending SigningKey.createdAt
    (signingKeys.select SigningKey.current)).head?

def KeyDraw.bootstrapKey (draw : KeyDraw) (now : Instant) : SigningKey where
  kid := draw.kid
  alg := "RS256"
  privateKeyPem := draw.privateKeyPem
  publicKeyPem := draw.publicKeyPem
  isActive := true
  rotatedFromKid := none
  rotationReason := some .bootstrap
  rotatedBy := none
  createdAt := now
  expiresAt := none
  revokedAt := none

/-- `reason` and `actorUserId` of a call of `rotateNow`. -/
structure RotateNow where
  reason : RotateReason
  actorUserId : Option String
  deriving DecidableEq

def KeyDraw.nextKey (draw : KeyDraw) (call : RotateNow) (activeKid : String)
    (now : Instant) : SigningKey where
  kid := draw.kid
  alg := "RS256"
  privateKeyPem := draw.privateKeyPem
  publicKeyPem := draw.publicKeyPem
  isActive := true
  rotatedFromKid := some activeKid
  rotationReason := some (.rotate call.reason)
  rotatedBy := call.actorUserId
  createdAt := now
  expiresAt := none
  revokedAt := none

/-- `deactivateSet`. -/
def RotateNow.deactivate (call : RotateNow) (options : KeyStoreOptions)
    (now : Instant) (signingKey : SigningKey) : SigningKey :=
  match call.reason with
  | .emergency =>
      { signingKey with
        isActive := false
        expiresAt := some now
        revokedAt := some now
        rotationReason := some (.rotate call.reason)
        rotatedBy := call.actorUserId }
  | _ =>
      { signingKey with
        isActive := false
        expiresAt := nowPlusHours now options.gracePeriodHours
        rotationReason := some (.rotate call.reason)
        rotatedBy := call.actorUserId }

/-- The rotation's update is not refused for its dates, however long the
configured period of grace. -/
def RotateNow.storable (call : RotateNow) (options : KeyStoreOptions)
    (now : Instant) : Bool :=
  match call.reason with
  | .emergency => true
  | _ => (dateParameter (nowPlusHours now options.gracePeriodHours)).isSome

/-- The `where` clause of the rotation's update. -/
def SigningKey.rotatable (activeKid : String) (signingKey : SigningKey) :
    Bool :=
  signingKey.kid == activeKid && signingKey.isActive &&
    signingKey.revokedAt.isNone

/-- `rotateIfDue` goes on unless `Date.now() < dueAt.getTime()`, which is false
of an Invalid Date. -/
def rotationDue (options : KeyStoreOptions) (now : Instant)
    (active : SigningKey) : Bool :=
  (nowPlusHours active.createdAt options.rotationIntervalHours).all
    fun dueAt => decide (dueAt ≤ now)

/-- The `where` clause of `getPublicJwks`. -/
def SigningKey.published (now : Instant) (signingKey : SigningKey) : Bool :=
  signingKey.revokedAt.isNone &&
    (signingKey.isActive ||
      signingKey.expiresAt.any fun expiresAt => decide (now < expiresAt))

/-- The rows that `getPublicJwks` turns into keys, active ones first. -/
def publicKeys (now : Instant) (signingKeys : Table SigningKey) :
    List SigningKey :=
  RowOrder.ascending
    (fun signingKey => toLex (!signingKey.isActive, signingKey.createdAt))
    (signingKeys.select (SigningKey.published now))

/-! ## What the statements find -/

theorem mem_publicKeys {now : Instant} {signingKeys : Table SigningKey}
    {signingKey : SigningKey} :
    signingKey ∈ publicKeys now signingKeys ↔
      signingKey ∈ signingKeys ∧ signingKey.published now = true := by
  rw [publicKeys, (RowOrder.ascending_perm _ _).mem_iff, Table.mem_select]

theorem getCurrentActiveKey_eq_none {signingKeys : Table SigningKey} :
    getCurrentActiveKey signingKeys = none ↔
      ∀ signingKey ∈ signingKeys, signingKey.current = false := by
  have hperm := RowOrder.descending_perm SigningKey.createdAt
    (signingKeys.select SigningKey.current)
  rw [getCurrentActiveKey, List.head?_eq_none_iff, ← List.length_eq_zero_iff,
    hperm.length_eq, List.length_eq_zero_iff, Table.select,
    List.filter_eq_nil_iff]
  simp only [mem_rows, Bool.not_eq_true]

theorem mem_of_getCurrentActiveKey {signingKeys : Table SigningKey}
    {active : SigningKey}
    (hactive : getCurrentActiveKey signingKeys = some active) :
    active ∈ signingKeys ∧ active.current = true := by
  have hmem := List.mem_of_head? hactive
  rwa [(RowOrder.descending_perm _ _).mem_iff, Table.mem_select] at hmem

theorem SigningKey.current_iff {signingKey : SigningKey} :
    signingKey.current = true ↔ signingKey.isActive = true ∧
      signingKey.expiresAt = none ∧ signingKey.revokedAt = none := by
  simp [SigningKey.current, and_assoc]

theorem SigningKey.rotatable_iff {activeKid : String}
    {signingKey : SigningKey} :
    signingKey.rotatable activeKid = true ↔ signingKey.kid = activeKid ∧
      signingKey.isActive = true ∧ signingKey.revokedAt = none := by
  simp [SigningKey.rotatable, and_assoc]

theorem SigningKey.published_of_current {now : Instant}
    {signingKey : SigningKey} (hcurrent : signingKey.current = true) :
    signingKey.published now = true := by
  obtain ⟨hactive, -, hrevoked⟩ := SigningKey.current_iff.mp hcurrent
  simp [SigningKey.published, hactive, hrevoked]

/-- Of a key that is not active, publication ends for good. -/
theorem SigningKey.published_anti {now later : Instant}
    {signingKey : SigningKey} (hlater : now ≤ later)
    (hpublished : signingKey.published now = false) :
    signingKey.published later = false := by
  rw [Bool.eq_false_iff] at hpublished ⊢
  intro hstill
  apply hpublished
  simp only [SigningKey.published, Bool.and_eq_true, Bool.or_eq_true,
    Option.any_eq_true, decide_eq_true_eq] at hstill ⊢
  refine ⟨hstill.1, ?_⟩
  rcases hstill.2 with hactive | ⟨expiresAt, hexpires, hlt⟩
  · exact Or.inl hactive
  · exact Or.inr ⟨expiresAt, hexpires, lt_of_le_of_lt hlater hlt⟩

@[simp]
theorem KeyDraw.bootstrapKey_current (draw : KeyDraw) (now : Instant) :
    (draw.bootstrapKey now).current = true := rfl

@[simp]
theorem KeyDraw.nextKey_current (draw : KeyDraw) (call : RotateNow)
    (activeKid : String) (now : Instant) :
    (draw.nextKey call activeKid now).current = true := rfl

@[simp]
theorem RotateNow.deactivate_kid (call : RotateNow) (options : KeyStoreOptions)
    (now : Instant) (signingKey : SigningKey) :
    (call.deactivate options now signingKey).kid = signingKey.kid := by
  unfold RotateNow.deactivate
  split <;> rfl

@[simp]
theorem RotateNow.deactivate_isActive (call : RotateNow)
    (options : KeyStoreOptions) (now : Instant) (signingKey : SigningKey) :
    (call.deactivate options now signingKey).isActive = false := by
  unfold RotateNow.deactivate
  split <;> rfl

/-- An emergency takes the key out of the published ones. -/
theorem RotateNow.deactivate_published {call : RotateNow}
    (hreason : call.reason = .emergency) (options : KeyStoreOptions)
    (startedAt now : Instant) (signingKey : SigningKey) :
    (call.deactivate options startedAt signingKey).published now = false := by
  simp [RotateNow.deactivate, hreason, SigningKey.published]

end IdProvider
