/-
Profile updates side by side: which unique keys they can violate, and what
becomes of the call then.
-/
import IdProvider.AuditChain
import IdProvider.AuthCore
import IdProvider.JsText
import IdProvider.Transactions

namespace IdProvider

open Interleaving JsonText KeyedTable Transactions

/-! ## Profiles -/

structure UserProfile where
  userId : String
  displayName : Option String
  givenName : Option String
  familyName : Option String
  preferredUsername : Option String
  locale : Option String
  zoneinfo : Option String
  updatedAt : Instant
  deriving DecidableEq

instance : Keyed UserProfile String := ⟨UserProfile.userId⟩

structure UserProfilePatch where
  displayName : Option String
  givenName : Option String
  familyName : Option String
  preferredUsername : Option String
  locale : Option String
  zoneinfo : Option String
  deriving DecidableEq

/-- `Object.keys(patch)`. -/
def UserProfilePatch.changedFields (patch : UserProfilePatch) :
    List String :=
  [("displayName", patch.displayName), ("givenName", patch.givenName),
    ("familyName", patch.familyName),
    ("preferredUsername", patch.preferredUsername),
    ("locale", patch.locale), ("zoneinfo", patch.zoneinfo)].filterMap
    fun field => field.2.map fun _ => field.1

/-- The row after an update; what the patch leaves out stays. -/
def UserProfile.patched (row : UserProfile) (patch : UserProfilePatch)
    (now : Instant) : UserProfile where
  userId := row.userId
  displayName := patch.displayName.or row.displayName
  givenName := patch.givenName.or row.givenName
  familyName := patch.familyName.or row.familyName
  preferredUsername := patch.preferredUsername.or row.preferredUsername
  locale := patch.locale.or row.locale
  zoneinfo := patch.zoneinfo.or row.zoneinfo
  updatedAt := now

/-- The row of an insert. -/
def UserProfilePatch.row (patch : UserProfilePatch) (userId : String)
    (now : Instant) : UserProfile where
  userId := userId
  displayName := patch.displayName
  givenName := patch.givenName
  familyName := patch.familyName
  preferredUsername := patch.preferredUsername
  locale := patch.locale
  zoneinfo := patch.zoneinfo
  updatedAt := now

structure ProfileTables where
  users : Table User
  userProfiles : Table UserProfile
  auditLogs : List CreateAuditLogInput

/-! ## Errors -/

/-- An error of the database, with its SQLSTATE. -/
structure PgError where
  code : String
  deriving DecidableEq

/-- How a call of `updateProfile` fails. -/
inductive UpdateFailure where
  | api (error : ApiError)
  | database (error : PgError)
  deriving DecidableEq

/-- `lower` of the database, and whether the error that the query builder
throws has the `code` of the database's error. -/
structure ProfileEnv where
  lower : String → String
  keepsCode : Bool

def uniqueViolation : PgError := ⟨"23505"⟩

/-- The answer to any statement of a transaction in which one has failed. -/
def inFailedTransaction : PgError := ⟨"25P02"⟩

def preferredUsernameTaken : ApiError :=
  ⟨409, "preferred_username_taken", "Preferred username is already taken"⟩

section Failures

variable (env : ProfileEnv)

def isUniqueViolation (error : PgError) : Bool :=
  env.keepsCode && error.code == "23505"

/-- The `catch` of `updateProfile`. -/
def updateFailure (error : PgError) : UpdateFailure :=
  if isUniqueViolation env error then .api preferredUsernameTaken
  else .database error

/-- The `catch` behind the INSERT of `upsert`, inside the transaction that the
INSERT has aborted: the UPDATE in it is refused. -/
def insertFailure (error : PgError) : UpdateFailure :=
  if isUniqueViolation env error then updateFailure env inFailedTransaction
  else updateFailure env error

end Failures

/-! ## Unique keys -/

/-- The row of a profile, and an entry of the index on `lower(...)`. -/
inductive ProfileLock where
  | profile (userId : String)
  | name (lowered : String)
  deriving DecidableEq

inductive ProfileConflict where
  | ownRow
  | name
  deriving DecidableEq

section Keys

variable (env : ProfileEnv) (profiles : Table UserProfile)

/-- Another user has the name. -/
def nameTaken (userId name : String) : Bool :=
  profiles.rows.any fun row =>
    row.userId != userId &&
      row.preferredUsername.any fun other =>
        env.lower other == env.lower name

/-- The name that the patch sets is taken. -/
def setsTakenName (userId : String) (patch : UserProfilePatch) : Bool :=
  patch.preferredUsername.any (nameTaken env profiles userId)

def ownRow? (userId : String) : Option UserProfile :=
  profiles.first? fun row => row.userId == userId

/-- The key that an INSERT violates. -/
def insertConflict (userId : String) (patch : UserProfilePatch) :
    Option ProfileConflict :=
  if setsTakenName env profiles userId patch then some .name
  else (ownRow? profiles userId).map fun _ => .ownRow

/-- The locks of a statement that writes the profile: the old name is free for
others only when the transaction is over. -/
def profileLocks (userId : String) (patch : UserProfilePatch) :
    List ProfileLock :=
  .profile userId ::
    (patch.preferredUsername.toList ++
      ((ownRow? profiles userId).bind UserProfile.preferredUsername).toList).map
      fun name => .name (env.lower name)

end Keys

/-! ## The calls, statement by statement -/

structure ProfileCall where
  userId : String
  patch : UserProfilePatch
  deriving DecidableEq

/-- `row` is what the transaction has written. -/
inductive ProfileTxn where
  | requiring (call : ProfileCall)
  | checking (call : ProfileCall) (name : String)
  | updating (call : ProfileCall)
  | inserting (call : ProfileCall)
  | auditing (call : ProfileCall) (row : UserProfile)
  | committing (call : ProfileCall) (row : UserProfile)

structure ProfileInput where
  now : Instant
  fails : Bool

/-- A statement waits, fails for a reason of its own, leads to the next one
under more locks, or is the last one of the call. -/
inductive ProfileStep where
  | wait
  | fails
  | next (txn : ProfileTxn) (locks : List ProfileLock)
  | refused (call : ProfileCall) (conflict : Option ProfileConflict)
      (failure : UpdateFailure)
  | committed (call : ProfileCall) (row : UserProfile)

/-- A call that has ended, the key that it violated, and the tables before and
after its last step. -/
structure FinishedUpdate where
  call : ProfileCall
  conflict : Option ProfileConflict
  result : Except UpdateFailure Unit
  before : ProfileTables
  after : ProfileTables

structure ProfileDb where
  tables : ProfileTables
  finished : List FinishedUpdate

def profileAudit (call : ProfileCall) : CreateAuditLogInput where
  actorUserId := some call.userId
  action := "user.profile.updated"
  resourceType := "user"
  resourceId := some call.userId
  payload :=
    [("changedFields", .arr (call.patch.changedFields.map .str))]

def ProfileTables.commit (tables : ProfileTables) (call : ProfileCall)
    (row : UserProfile) : ProfileTables :=
  { tables with
    userProfiles := tables.userProfiles.put row
    auditLogs := tables.auditLogs ++ [profileAudit call] }

namespace ProfileUpdate

variable (env : ProfileEnv)

/-- Behind `requireActiveUser`; an empty name is not checked. -/
def required (call : ProfileCall) : ProfileTxn :=
  match orNull call.patch.preferredUsername with
  | some name => .checking call name
  | none => .updating call

/-- What follows the commit, the cache and `getMe`, writes nothing. -/
def answered (tables : ProfileTables) (busy : ProfileLock → Bool)
    (now : Instant) : ProfileTxn → ProfileStep
  | .requiring call =>
      match tables.users.first? fun user => user.id == call.userId with
      | none =>
          .refused call none
            (.api ⟨404, "user_not_found", "User not found"⟩)
      | some user =>
          if user.status ≠ .active then
            .refused call none
              (.api ⟨401, "unauthorized", "Account is not active"⟩)
          else .next (required call) []
  | .checking call name =>
      if nameTaken env tables.userProfiles call.userId name then
        .refused call (some .name) (.api preferredUsernameTaken)
      else .next (.updating call) []
  | .updating call =>
      match ownRow? tables.userProfiles call.userId with
      | none => .next (.inserting call) []
      | some row =>
          if (profileLocks env tables.userProfiles call.userId
              call.patch).any busy then .wait
          else if setsTakenName env tables.userProfiles call.userId
              call.patch then
            .refused call (some .name) (updateFailure env uniqueViolation)
          else
            .next (.auditing call (row.patched call.patch now))
              (profileLocks env tables.userProfiles call.userId call.patch)
  | .inserting call =>
      if (profileLocks env tables.userProfiles call.userId
          call.patch).any busy then .wait
      else
        match insertConflict env tables.userProfiles call.userId call.patch
        with
        | some conflict =>
            .refused call (some conflict) (insertFailure env uniqueViolation)
        | none =>
            .next (.auditing call (call.patch.row call.userId now))
              (profileLocks env tables.userProfiles call.userId call.patch)
  | .auditing call row => .next (.committing call row) []
  | .committing call row => .committed call row

def statement (db : ProfileDb) (busy : ProfileLock → Bool)
    (txn : ProfileTxn) (input : ProfileInput) : ProfileStep :=
  if input.fails then .fails
  else answered env db.tables busy input.now txn

/-- The record of a call that ends with the step. -/
def record (tables : ProfileTables) : ProfileStep → List FinishedUpdate
  | .refused call conflict failure =>
      [⟨call, conflict, .error failure, tables, tables⟩]
  | .committed call row =>
      [⟨call, none, .ok (), tables, tables.commit call row⟩]
  | _ => []

/-- A call that is refused is rolled back: only the record of it is new. -/
def outcome (db : ProfileDb) (step : ProfileStep) :
    Outcome ProfileDb ProfileTxn ProfileLock :=
  match step with
  | .wait => .wait
  | .fails => .stop
  | .next txn locks => .proceed txn locks
  | .refused _ _ _ =>
      .commit ⟨db.tables, db.finished ++ record db.tables step⟩
  | .committed call row =>
      .commit ⟨db.tables.commit call row,
        db.finished ++ record db.tables step⟩

/-- Only calls of `updateProfile` run. -/
def code : Code ProfileDb ProfileTxn ProfileLock ProfileCall ProfileInput
    Empty where
  start := .requiring
  statement db busy txn input := outcome db (statement env db busy txn input)
  environment _ _ := none

end ProfileUpdate

abbrev ProfilePool : Type :=
  Pool (Store ProfileDb ProfileLock) (Thread ProfileTxn ProfileLock) Nat

abbrev ProfileAction : Type :=
  Interleaving.Action ProfileCall ProfileInput Empty Nat

def ProfilePool.initial (tables : ProfileTables) : ProfilePool :=
  Transactions.initial ⟨tables, []⟩

/-! ## Conflicts that are handled -/

/-- The account of the call is active. -/
def FinishedUpdate.Active (finished : FinishedUpdate) : Prop :=
  ∃ user ∈ finished.before.users,
    user.id = finished.call.userId ∧ user.status = .active

/-- A taken name is answered with a 409 and changes nothing, a first write
beside another one of the same user succeeds, one row is left, and no conflict
comes out as an error of the database. -/
structure FinishedUpdate.Handled (env : ProfileEnv)
    (finished : FinishedUpdate) : Prop where
  taken : finished.Active →
    setsTakenName env finished.before.userProfiles finished.call.userId
      finished.call.patch = true →
    (∃ error, finished.result = .error (.api error) ∧ error.status = 409) ∧
      finished.after = finished.before
  firstWrite : finished.conflict = some .ownRow → finished.result = .ok ()
  saved : finished.result = .ok () →
    ∃! row, row ∈ finished.after.userProfiles ∧
      row.userId = finished.call.userId
  classified : finished.conflict ≠ none →
    ∀ error, finished.result ≠ .error (.database error)

/-- All calls that have ended. -/
def UpdatesHandled (env : ProfileEnv)
    (store : Store ProfileDb ProfileLock) : Prop :=
  ∀ finished ∈ store.db.finished, finished.Handled env

/-- An INSERT violates no unique key; nor does an UPDATE, where the error that
is thrown has no `code`. -/
def Unviolated (env : ProfileEnv) (tables : ProfileTables) :
    ProfileTxn → Prop
  | .updating call =>
      env.keepsCode = false →
        (ownRow? tables.userProfiles call.userId).isSome = true →
          setsTakenName env tables.userProfiles call.userId call.patch = false
  | .inserting call =>
      insertConflict env tables.userProfiles call.userId call.patch = none
  | _ => True

instance (env : ProfileEnv) (tables : ProfileTables) :
    (txn : ProfileTxn) → Decidable (Unviolated env tables txn)
  | .updating _ => inferInstanceAs (Decidable (_ → _ → _ = _))
  | .inserting _ => inferInstanceAs (Decidable (_ = _))
  | .requiring _ => .isTrue trivial
  | .checking _ _ => .isTrue trivial
  | .auditing _ _ => .isTrue trivial
  | .committing _ _ => .isTrue trivial

def ViolatesNone (env : ProfileEnv) (db : ProfileDb) (txn : ProfileTxn)
    (input : ProfileInput) : Prop :=
  input.fails = false → Unviolated env db.tables txn

instance (env : ProfileEnv) (store : Store ProfileDb ProfileLock)
    (thread : Thread ProfileTxn ProfileLock) (input : ProfileInput) :
    Decidable (OnStatements (ViolatesNone env) store thread input) :=
  inferInstanceAs (Decidable (_ → Unviolated _ _ _))

/-! ## What a statement can come to -/

namespace ProfileUpdate

section Effects

variable (env : ProfileEnv) (tables : ProfileTables) (now : Instant)

inductive Effect : ProfileTxn → ProfileStep → Prop
  | waits (txn : ProfileTxn) : Effect txn .wait
  | inactive (call : ProfileCall) (error : ApiError)
      (hinactive : ∀ user ∈ tables.users, user.id = call.userId →
        user.status ≠ .active) :
      Effect (.requiring call) (.refused call none (.api error))
  | active (call : ProfileCall) :
      Effect (.requiring call) (.next (required call) [])
  | taken (call : ProfileCall) (name : String) :
      Effect (.checking call name)
        (.refused call (some .name) (.api preferredUsernameTaken))
  | free (call : ProfileCall) (name : String) :
      Effect (.checking call name) (.next (.updating call) [])
  | noRow (call : ProfileCall)
      (hnone : ownRow? tables.userProfiles call.userId = none) :
      Effect (.updating call) (.next (.inserting call) [])
  | updateConflict (call : ProfileCall) (row : UserProfile)
      (hrow : ownRow? tables.userProfiles call.userId = some row)
      (htaken : setsTakenName env tables.userProfiles call.userId
        call.patch = true) :
      Effect (.updating call) (.refused call (some .name)
        (updateFailure env uniqueViolation))
  | updated (call : ProfileCall) (row : UserProfile)
      (hrow : ownRow? tables.userProfiles call.userId = some row)
      (hfree : setsTakenName env tables.userProfiles call.userId
        call.patch = false) :
      Effect (.updating call) (.next
        (.auditing call (row.patched call.patch now))
        (profileLocks env tables.userProfiles call.userId call.patch))
  | insertConflict (call : ProfileCall) (conflict : ProfileConflict)
      (hconflict : IdProvider.insertConflict env tables.userProfiles
        call.userId call.patch = some conflict) :
      Effect (.inserting call) (.refused call (some conflict)
        (insertFailure env uniqueViolation))
  | inserted (call : ProfileCall)
      (hnone : IdProvider.insertConflict env tables.userProfiles
        call.userId call.patch = none) :
      Effect (.inserting call) (.next
        (.auditing call (call.patch.row call.userId now))
        (profileLocks env tables.userProfiles call.userId call.patch))
  | audited (call : ProfileCall) (row : UserProfile) :
      Effect (.auditing call row) (.next (.committing call row) [])
  | committed (call : ProfileCall) (row : UserProfile) :
      Effect (.committing call row) (.committed call row)

variable {env tables now}

theorem effect_answered (busy : ProfileLock → Bool) (txn : ProfileTxn) :
    Effect env tables now txn (answered env tables busy now txn) := by
  cases txn with
  | requiring call =>
      rw [answered]
      split
      case h_1 hnone =>
        apply Effect.inactive
        intro user huser hid hactive
        have hmiss := Table.first?_eq_none.mp hnone user huser
        rw [hid, beq_self_eq_true] at hmiss
        cases hmiss
      case h_2 user hfound =>
        split
        case isTrue hstatus =>
          apply Effect.inactive
          intro other hother hid
          obtain ⟨huser, hmatch⟩ := Table.mem_of_first? hfound
          have hsame : other = user :=
            tables.users.eq_of_key_eq hother huser
              (hid.trans (beq_iff_eq.mp hmatch).symm)
          rw [hsame]
          exact hstatus
        case isFalse => exact .active call
  | checking call name =>
      rw [answered]
      split
      case isTrue => exact .taken call name
      case isFalse => exact .free call name
  | updating call =>
      rw [answered]
      split
      case h_1 hnone => exact .noRow call hnone
      case h_2 row hrow =>
        split
        case isTrue => exact .waits _
        case isFalse =>
          split
          case isTrue htaken => exact .updateConflict call row hrow htaken
          case isFalse hfree =>
            exact .updated call row hrow (Bool.eq_false_iff.mpr hfree)
  | inserting call =>
      rw [answered]
      split
      case isTrue => exact .waits _
      case isFalse =>
        split
        case h_1 conflict hconflict =>
          exact .insertConflict call conflict hconflict
        case h_2 hnone => exact .inserted call hnone
  | auditing call row => exact .audited call row
  | committing call row => exact .committed call row

end Effects

/-- What the write of a transaction that is about to commit may rely on: its
names are locked, and nobody has the one that it sets. -/
structure Pending (env : ProfileEnv) (tables : ProfileTables)
    (held : List ProfileLock) (call : ProfileCall) (row : UserProfile) :
    Prop where
  userId : row.userId = call.userId
  set : ∀ name, call.patch.preferredUsername = some name →
    row.preferredUsername = some name
  locked : ∀ name, row.preferredUsername = some name →
    .name (env.lower name) ∈ held
  free : setsTakenName env tables.userProfiles call.userId call.patch = false

/-- The `Pending` of a transaction that has written. -/
def Written (env : ProfileEnv) (tables : ProfileTables)
    (held : List ProfileLock) : ProfileTxn → Prop
  | .auditing call row => Pending env tables held call row
  | .committing call row => Pending env tables held call row
  | _ => True

section Pending

variable {env : ProfileEnv} {tables after : ProfileTables}
  {held : List ProfileLock} {call : ProfileCall} {now : Instant}

theorem mem_profileLocks_of_patch {name : String}
    (hname : call.patch.preferredUsername = some name) :
    .name (env.lower name) ∈
      profileLocks env tables.userProfiles call.userId call.patch := by
  simp [profileLocks, hname]

theorem mem_profileLocks_of_row {row : UserProfile} {name : String}
    (hrow : ownRow? tables.userProfiles call.userId = some row)
    (hname : row.preferredUsername = some name) :
    .name (env.lower name) ∈
      profileLocks env tables.userProfiles call.userId call.patch := by
  simp [profileLocks, hrow, hname]

theorem pending_patched {row : UserProfile}
    (hrow : ownRow? tables.userProfiles call.userId = some row)
    (hfree : setsTakenName env tables.userProfiles call.userId
      call.patch = false) :
    Pending env tables
      (profileLocks env tables.userProfiles call.userId call.patch ++ held)
      call (row.patched call.patch now) where
  userId := beq_iff_eq.mp (Table.mem_of_first? hrow).2
  set _ hname := by
    rw [UserProfile.patched, hname, Option.some_or]
  locked _ hname := by
    apply List.mem_append_left
    rcases Option.or_eq_some_iff.mp hname with hpatch | ⟨-, hold⟩
    · exact mem_profileLocks_of_patch hpatch
    · exact mem_profileLocks_of_row hrow hold
  free := hfree

theorem pending_row
    (hfree : setsTakenName env tables.userProfiles call.userId
      call.patch = false) :
    Pending env tables
      (profileLocks env tables.userProfiles call.userId call.patch ++ held)
      call (call.patch.row call.userId now) where
  userId := rfl
  set _ hname := hname
  locked _ hname :=
    List.mem_append_left _ (mem_profileLocks_of_patch hname)
  free := hfree

theorem setsTakenName_of_insertConflict
    (hnone : insertConflict env tables.userProfiles call.userId
      call.patch = none) :
    setsTakenName env tables.userProfiles call.userId call.patch = false := by
  unfold insertConflict at hnone
  split at hnone
  case isTrue => cases hnone
  case isFalse hfree => exact Bool.eq_false_iff.mpr hfree

theorem setsTakenName_eq_true {userId : String} {patch : UserProfilePatch}
    {profiles : Table UserProfile} :
    setsTakenName env profiles userId patch = true ↔
      ∃ name, patch.preferredUsername = some name ∧
        ∃ row ∈ profiles, row.userId ≠ userId ∧
          ∃ other, row.preferredUsername = some other ∧
            env.lower other = env.lower name := by
  simp [setsTakenName, nameTaken, Option.any_eq_true]

/-- A row that a commit brings has only names that it holds the locks of. -/
def Respects (env : ProfileEnv) (others : List ProfileLock)
    (before after : ProfileTables) : Prop :=
  ∀ row ∈ after.userProfiles, row ∈ before.userProfiles ∨
    ∀ name, row.preferredUsername = some name →
      .name (env.lower name) ∈ others

theorem Pending.respects {row : UserProfile}
    (hpending : Pending env tables held call row) :
    Respects env held tables (tables.commit call row) := by
  intro other hother
  rcases Table.mem_put.mp hother with ⟨hold, -⟩ | rfl
  · exact .inl hold
  · exact .inr hpending.locked

/-- A name under lock is not taken by what others commit. -/
theorem Pending.stable {others : List ProfileLock} {row : UserProfile}
    (hpending : Pending env tables held call row)
    (hrespects : Respects env others tables after)
    (hapart : others.Disjoint held) :
    Pending env after held call row := by
  refine { hpending with free := Bool.eq_false_iff.mpr fun htaken => ?_ }
  obtain ⟨name, hname, other, hother, hne, taken, htaken, hsame⟩ :=
    setsTakenName_eq_true.mp htaken
  have hlocked : .name (env.lower name) ∈ held :=
    hpending.locked name (hpending.set name hname)
  rcases hrespects other hother with hold | hnew
  · have hbefore := setsTakenName_eq_true.mpr
      ⟨name, hname, other, hold, hne, taken, htaken, hsame⟩
    rw [hpending.free] at hbefore
    cases hbefore
  · have hothers := hnew taken htaken
    rw [hsame] at hothers
    exact hapart hothers hlocked

end Pending

def discipline (env : ProfileEnv) :
    Discipline ProfileDb ProfileTxn ProfileLock where
  DbOk _ := True
  TxnOk db held txn := Written env db.tables held txn
  Respects others before after := Respects env others before.tables after.tables

section Sound

variable {env : ProfileEnv} {db after : ProfileDb}
  {busy : ProfileLock → Bool} {held locks : List ProfileLock}
  {txn next : ProfileTxn} {input : ProfileInput}

/-- What goes on, goes on as an answered statement says. -/
theorem effect_of_proceed
    (hproceed : (code env).statement db busy txn input =
      .proceed next locks) :
    Effect env db.tables input.now txn (.next next locks) := by
  have heffect : Effect env db.tables input.now txn _ :=
    effect_answered busy txn
  change outcome db (statement env db busy txn input) = _ at hproceed
  unfold statement at hproceed
  split at hproceed
  case isTrue => cases hproceed
  case isFalse =>
    cases hanswered : answered env db.tables busy input.now txn with
    | next =>
        rw [hanswered] at hproceed heffect
        cases hproceed
        exact heffect
    | wait | fails | refused | committed =>
        rw [hanswered] at hproceed
        cases hproceed

/-- What commits is the record of a refusal, or the write. -/
theorem effect_of_commit
    (hcommit : (code env).statement db busy txn input = .commit after) :
    after.tables = db.tables ∨ ∃ call row,
      Effect env db.tables input.now txn (.committed call row) ∧
        after.tables = db.tables.commit call row := by
  have heffect : Effect env db.tables input.now txn _ :=
    effect_answered busy txn
  change outcome db (statement env db busy txn input) = _ at hcommit
  unfold statement at hcommit
  split at hcommit
  case isTrue => cases hcommit
  case isFalse =>
    cases hanswered : answered env db.tables busy input.now txn with
    | committed call row =>
        rw [hanswered] at hcommit heffect
        cases hcommit
        exact .inr ⟨call, row, heffect, rfl⟩
    | refused =>
        rw [hanswered] at hcommit
        cases hcommit
        exact .inl rfl
    | wait | fails | next =>
        rw [hanswered] at hcommit
        cases hcommit

theorem written_of_proceed (hwritten : Written env db.tables held txn)
    (hproceed : (code env).statement db busy txn input =
      .proceed next locks) :
    Written env db.tables (locks ++ held) next := by
  cases effect_of_proceed hproceed with
  | active call =>
      unfold required
      split
      case h_1 => trivial
      case h_2 => trivial
  | free call name => trivial
  | noRow call hnone => trivial
  | updated call row hrow hfree => exact pending_patched hrow hfree
  | inserted call hnone =>
      exact pending_row (setsTakenName_of_insertConflict hnone)
  | audited call row => exact hwritten

end Sound

/-- Every statement keeps what it and the others have written pending. -/
theorem discipline_sound (env : ProfileEnv) :
    (discipline env).Sound (code env) fun _ _ _ => True where
  start db call hdb := trivial
  proceed db busy held txn input next locks hdb hwritten _ hproceed :=
    written_of_proceed hwritten hproceed
  commit db busy held txn input after hdb hwritten _ hcommit := by
    refine ⟨trivial, ?_⟩
    rcases effect_of_commit hcommit with hsame | ⟨call, row, heffect, hafter⟩
    · intro other hother
      rw [hsame] at hother
      exact .inl hother
    · cases heffect with
      | committed =>
          have hpending : Pending env db.tables held call row := hwritten
          change Respects env held db.tables after.tables
          rw [hafter]
          exact hpending.respects
  stable db after others held txn hrespects hapart hwritten := by
    cases txn with
    | auditing call row | committing call row =>
        exact Pending.stable hwritten hrespects hapart
    | requiring | checking | updating | inserting => trivial
  environment db event after hdb henvironment := by cases henvironment

/-! ## When a call that ends is handled -/

section Ended

variable {env : ProfileEnv} {tables : ProfileTables} {call : ProfileCall}

/-- A refusal that comes out as an error of the service. -/
theorem handled_api {conflict : Option ProfileConflict} {error : ApiError}
    (hconflict : conflict ≠ some .ownRow)
    (htaken : FinishedUpdate.Active
        ⟨call, conflict, .error (.api error), tables, tables⟩ →
      setsTakenName env tables.userProfiles call.userId call.patch = true →
      error.status = 409) :
    FinishedUpdate.Handled env
      ⟨call, conflict, .error (.api error), tables, tables⟩ where
  taken hactive hset := ⟨⟨error, rfl, htaken hactive hset⟩, rfl⟩
  firstWrite hown := absurd hown hconflict
  saved hok := by cases hok
  classified _ other hother := by cases hother

theorem not_handled_database {conflict : ProfileConflict} {error : PgError}
    {after : ProfileTables} :
    ¬ FinishedUpdate.Handled env
      ⟨call, some conflict, .error (.database error), tables, after⟩ := by
  intro hhandled
  exact hhandled.classified (Option.some_ne_none conflict) error rfl

theorem handled_committed {held : List ProfileLock} {row : UserProfile}
    (hpending : Pending env tables held call row) :
    FinishedUpdate.Handled env
      ⟨call, none, .ok (), tables, tables.commit call row⟩ where
  taken _ hset := by
    rw [hpending.free] at hset
    cases hset
  firstWrite hown := by cases hown
  saved _ := by
    refine ⟨row, ⟨Table.mem_put.mpr (.inr rfl), hpending.userId⟩, ?_⟩
    rintro other ⟨hother, hid⟩
    exact (tables.commit call row).userProfiles.eq_of_key_eq hother
      (Table.mem_put.mpr (.inr rfl)) (hid.trans hpending.userId.symm)
  classified hconflict := absurd rfl hconflict

/-- No UPDATE is left that could save a call whose INSERT has failed. -/
theorem insertFailure_eq_database :
    ∃ error, insertFailure env uniqueViolation = .database error := by
  cases hkeeps : env.keepsCode with
  | false =>
      refine ⟨uniqueViolation, ?_⟩
      simp [insertFailure, updateFailure, isUniqueViolation, hkeeps]
  | true =>
      refine ⟨inFailedTransaction, ?_⟩
      simp [insertFailure, updateFailure, isUniqueViolation, hkeeps,
        uniqueViolation, inFailedTransaction]

theorem updateFailure_of_keepsCode (hkeeps : env.keepsCode = true) :
    updateFailure env uniqueViolation = .api preferredUsernameTaken := by
  simp [updateFailure, isUniqueViolation, hkeeps, uniqueViolation]

theorem updateFailure_of_not_keepsCode (hkeeps : env.keepsCode = false) :
    updateFailure env uniqueViolation = .database uniqueViolation := by
  simp [updateFailure, isUniqueViolation, hkeeps]

theorem handled_record_iff {held : List ProfileLock} {now : Instant}
    {txn : ProfileTxn} {step : ProfileStep}
    (hwritten : Written env tables held txn)
    (heffect : Effect env tables now txn step) (hwait : step ≠ .wait) :
    (∀ finished ∈ record tables step, finished.Handled env) ↔
      Unviolated env tables txn := by
  cases heffect with
  | waits => exact absurd rfl hwait
  | inactive call error hinactive =>
      rw [record, List.forall_mem_singleton]
      refine iff_of_true (handled_api (by simp) ?_) trivial
      rintro ⟨user, huser, hid, hactive⟩ -
      exact absurd hactive (hinactive user huser hid)
  | taken call name =>
      rw [record, List.forall_mem_singleton]
      exact iff_of_true (handled_api (by simp) fun _ _ => rfl) trivial
  | active | free | audited => exact iff_of_true (by simp [record]) trivial
  | noRow call hnone =>
      refine iff_of_true (by simp [record]) ?_
      intro _ hsome
      rw [hnone] at hsome
      cases hsome
  | updateConflict call row hrow htaken =>
      rw [record, List.forall_mem_singleton]
      cases hkeeps : env.keepsCode with
      | false =>
          rw [updateFailure_of_not_keepsCode hkeeps]
          refine iff_of_false not_handled_database ?_
          intro hunviolated
          have hfree := hunviolated hkeeps (by rw [hrow]; rfl)
          rw [htaken] at hfree
          cases hfree
      | true =>
          rw [updateFailure_of_keepsCode hkeeps]
          refine iff_of_true (handled_api (by simp) fun _ _ => rfl) ?_
          intro hlost
          rw [hkeeps] at hlost
          cases hlost
  | updated call row hrow hfree =>
      exact iff_of_true (by simp [record]) fun _ _ => hfree
  | insertConflict call conflict hconflict =>
      rw [record, List.forall_mem_singleton]
      obtain ⟨error, herror⟩ : ∃ error,
          insertFailure env uniqueViolation = .database error :=
        insertFailure_eq_database
      rw [herror]
      refine iff_of_false not_handled_database ?_
      intro hnone
      rw [Unviolated, hconflict] at hnone
      cases hnone
  | inserted call hnone => exact iff_of_true (by simp [record]) hnone
  | committed call row =>
      rw [record, List.forall_mem_singleton]
      exact iff_of_true (handled_committed hwritten) trivial

end Ended

/-! ## Runs -/

/-- What an advance adds to the calls that have ended. -/
theorem finished_of_advance {env : ProfileEnv}
    {store after : Store ProfileDb ProfileLock}
    {thread : Thread ProfileTxn ProfileLock} {input : ProfileInput}
    {following : Option (Thread ProfileTxn ProfileLock)}
    (hadvance : advance (code env) store thread input =
      some (after, following)) :
    statement env store.db (busy store thread) thread.txn input ≠ .wait ∧
      after.db.finished = store.db.finished ++ record store.db.tables
        (statement env store.db (busy store thread) thread.txn input) := by
  have houtcome : (code env).statement store.db (busy store thread)
      thread.txn input = outcome store.db
        (statement env store.db (busy store thread) thread.txn input) := rfl
  have hcases := advance_outcome hadvance
  rw [houtcome] at hcases
  cases hstep : statement env store.db (busy store thread) thread.txn
      input with
  | wait => simp [hstep, outcome] at hcases
  | fails | next =>
      rw [hstep] at hcases
      refine ⟨ProfileStep.noConfusion, ?_⟩
      rcases hcases with
        ⟨-, rfl, -⟩ | ⟨txn, locks, -, -, rfl, -⟩ | ⟨db, hcommit, -⟩
      · exact (List.append_nil _).symm
      · exact (List.append_nil _).symm
      · cases hcommit
  | refused | committed =>
      rw [hstep] at hcases
      refine ⟨ProfileStep.noConfusion, ?_⟩
      rcases hcases with
        ⟨hstop, -⟩ | ⟨txn, locks, hproceed, -⟩ | ⟨db, hcommit, rfl, -⟩
      · cases hstop
      · cases hproceed
      · cases hcommit
        rfl

/-- A step out of a state with all ended calls handled leads to one exactly
when it violates no key. -/
theorem updatesHandled_advance_iff {env : ProfileEnv}
    {store after : Store ProfileDb ProfileLock}
    {thread : Thread ProfileTxn ProfileLock} {input : ProfileInput}
    {following : Option (Thread ProfileTxn ProfileLock)}
    (hwritten : Written env store.db.tables thread.held thread.txn)
    (hhandled : UpdatesHandled env store)
    (hadvance : advance (code env) store thread input =
      some (after, following)) :
    UpdatesHandled env after ↔
      OnStatements (ViolatesNone env) store thread input := by
  obtain ⟨hwait, hfinished⟩ := finished_of_advance hadvance
  have hrest : UpdatesHandled env after ↔
      ∀ finished ∈ record store.db.tables
        (statement env store.db (busy store thread) thread.txn input),
        finished.Handled env := by
    rw [UpdatesHandled, hfinished, List.forall_mem_append]
    exact and_iff_right hhandled
  rw [hrest, OnStatements, ViolatesNone]
  cases hfails : input.fails with
  | true =>
      rw [statement, if_pos hfails]
      refine iff_of_true (List.forall_mem_nil _) fun hok => ?_
      cases hok
  | false =>
      rw [statement, if_neg (Bool.eq_false_iff.mp hfails)] at hwait ⊢
      rw [forall_prop_of_true rfl]
      exact handled_record_iff hwritten
        (effect_answered (busy store thread) thread.txn) hwait

end ProfileUpdate

/-- From any state of the tables, an interleaving of `updateProfile` calls
handles all conflicts exactly when no first profile row is inserted under a
key that is taken by then, and no UPDATE finds its name taken where the error
that is thrown has lost its code. -/
theorem updatesHandled_iff (env : ProfileEnv) (tables : ProfileTables)
    {actions : List ProfileAction} {last : ProfilePool}
    (hrun : StepSystem.run (step (program (ProfileUpdate.code env)))
      (ProfilePool.initial tables) actions = some last) :
    StepSystem.Throughout (step (program (ProfileUpdate.code env)))
        (fun pool => UpdatesHandled env pool.shared)
        (ProfilePool.initial tables) actions ↔
      StepSystem.Along (step (program (ProfileUpdate.code env)))
        (Meets (OnStatements (ViolatesNone env)))
        (ProfilePool.initial tables) actions := by
  have hinductive := (ProfileUpdate.discipline_sound env).inductive
  refine hinductive.throughout_iff ?_ ?_ ?_ (Invariant.holds_start trivial) ?_
    hrun
  · intro store thread input after following _ hthread hhandled hadvance
    exact ProfileUpdate.updatesHandled_advance_iff hthread.2 hhandled hadvance
  · exact fun store thread _ _ hhandled => hhandled
  · intro store event after _ _ henvironment
    cases henvironment
  · intro finished hfinished
    cases hfinished

namespace ProfileWitness

def env (keepsCode : Bool) : ProfileEnv where
  lower text := String.ofList (text.toList.map Char.toLower)
  keepsCode := keepsCode

def user (id : String) : User where
  id := id
  status := .active
  deletedAt := none
  deletionRequestedAt := none
  deletionDueAt := none
  createdAt := 1777204800000

/-- Two active users, neither with a profile. -/
def tables : ProfileTables where
  users := ⟨[user "ann", user "bob"], by decide⟩
  userProfiles := .empty
  auditLogs := []

def naming (userId name : String) : ProfileCall where
  userId := userId
  patch := ⟨none, none, none, some name, none, none⟩

def localising (userId locale : String) : ProfileCall where
  userId := userId
  patch := ⟨none, none, none, none, some locale, none⟩

/-- Statements of one call, none of which fails by itself. -/
def statements (id count : Nat) : List ProfileAction :=
  List.replicate count (.advance id ⟨1777204860000, false⟩)

/-- One user takes a name; the other one wants it, then sets a locale. -/
def sequence : List ProfileAction :=
  .spawn 0 (naming "ann" "Rose") :: statements 0 6 ++
    .spawn 1 (naming "bob" "rose") :: statements 1 2 ++
    .spawn 1 (localising "bob" "de") :: statements 1 5

theorem updatesHandled_sequence :
    StepSystem.Throughout (step (program (ProfileUpdate.code (env true))))
      (fun pool => UpdatesHandled (env true) pool.shared)
      (ProfilePool.initial tables) sequence :=
  (updatesHandled_iff (env true) tables
    (StepSystem.run_after _ (by decide))).mpr
    (along_of_decide _ (by decide))

/-- Two first writes of one user: both find no row, and one is committed
before the other one inserts. -/
def race : List ProfileAction :=
  [.spawn 0 (localising "ann" "de"), .spawn 1 (localising "ann" "fr")] ++
    statements 0 2 ++ statements 1 2 ++ statements 0 3 ++ statements 1 1

def raced (keepsCode : Bool) : ProfilePool :=
  StepSystem.after (step (program (ProfileUpdate.code (env keepsCode))))
    (ProfilePool.initial tables) race

theorem run_race (keepsCode : Bool) :
    StepSystem.run (step (program (ProfileUpdate.code (env keepsCode))))
      (ProfilePool.initial tables) race = some (raced keepsCode) := by
  cases keepsCode with
  | false => exact StepSystem.run_after _ (by decide)
  | true => exact StepSystem.run_after _ (by decide)

/-- Some first write of the race has failed. -/
theorem raced_fails (keepsCode : Bool) :
    ((raced keepsCode).shared.db.finished.any fun finished =>
      decide (finished.conflict = some .ownRow ∧
        finished.result ≠ .ok ())) = true := by
  cases keepsCode with
  | false => decide
  | true => decide

theorem not_updatesHandled_raced (keepsCode : Bool) :
    ¬ UpdatesHandled (env keepsCode) (raced keepsCode).shared := by
  intro hhandled
  obtain ⟨finished, hfinished, hfails⟩ :=
    List.any_eq_true.mp (raced_fails keepsCode)
  have hboth := of_decide_eq_true hfails
  exact hboth.2 ((hhandled finished hfinished).firstWrite hboth.1)

/-- Whether or not the error that is thrown keeps its code. -/
theorem not_updatesHandled :
    (¬ ∀ (tables : ProfileTables) (actions : List ProfileAction)
      (last : ProfilePool),
      StepSystem.run (step (program (ProfileUpdate.code (env true))))
        (ProfilePool.initial tables) actions = some last →
      UpdatesHandled (env true) last.shared) ∧
    ¬ ∀ (tables : ProfileTables) (actions : List ProfileAction)
      (last : ProfilePool),
      StepSystem.run (step (program (ProfileUpdate.code (env false))))
        (ProfilePool.initial tables) actions = some last →
      UpdatesHandled (env false) last.shared := by
  constructor
  · intro hclaim
    exact not_updatesHandled_raced true (hclaim tables race _ (run_race true))
  · intro hclaim
    exact not_updatesHandled_raced false
      (hclaim tables race _ (run_race false))

end ProfileWitness

end IdProvider
