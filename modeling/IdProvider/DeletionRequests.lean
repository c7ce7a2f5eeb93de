/-
Account deletion requests side by side, with logins and refreshes between their
steps: one of them deletes the user, and the others report its date.
-/
import IdProvider.AuditChain
import IdProvider.CredentialChange
import IdProvider.DataRetention
import IdProvider.Interleaving

namespace IdProvider

open Interleaving JsonText KeyedTable

/-! ## The calls -/

/-- How a call of `requestDeletion` throws. -/
inductive DeletionFailure where
  | api (error : ApiError)
  | other
  deriving DecidableEq

structure DeletionAnswer where
  status : String
  deletionDueAt : String
  alreadyDeleted : Bool
  deriving DecidableEq

/-- The tables as committed, the sessions that the transaction of a request has
written besides the user's row, the calls to the audit repository, and two
ghosts: how many requests have passed the reauthentication with a date that can
be stored, and how the finished ones ended. -/
structure RequestStore where
  db : SessionDb
  locked : Option (List String)
  legalHolds : Table LegalHold
  auditLogs : List CreateAuditLogInput
  securityEvents : List SecurityEventInput
  passed : Nat
  ended : List (Except DeletionFailure DeletionAnswer)

/-- What comes of `mfaService.verifyMfa`: the `ok` of its result, an API error,
or any other error. -/
inductive MfaOutcome where
  | result (ok : Bool)
  | apiError (error : ApiError)
  | otherError

/-- What a step meets: the clock, wherever it is read, the second factor,
whether a login passes its own checks, and what a new session is made of. -/
structure RequestInput where
  now : Instant
  nextNow : Instant
  databaseNow : Instant
  mfa : MfaOutcome
  passes : Bool
  sessionId : String
  accessToken : String
  refreshToken : String
  ipAddress : Option String
  userAgent : Option String

inductive RequestCall where
  | requestDeletion (reauth : DeletionReauth)
  | login (userId : String)
  | refresh (refreshToken : String)

/-- What the lookup of a refresh comes to. -/
inductive RefreshLookup where
  | tokenNotFound
  | accountNotActive
  | found (sessionId userId : String)
  deriving DecidableEq

/-- What a call has yet to do; a request is in one of the first ten places.
It is in a transaction from the `UPDATE` of the user's row (`marking`) to the
`COMMIT`, with an `UPDATE` of the sessions between them. -/
inductive RequestThread where
  | findingUser (reauth : DeletionReauth)
  | checkingPassword (reauth : DeletionReauth)
  | checkingMfa (reauth : DeletionReauth)
  | findingHold (reauth : DeletionReauth)
  | marking (reauth : DeletionReauth) (now deletionDueAt : Instant)
      (hasLegalHold : Bool)
  | revokingSessions (reauth : DeletionReauth) (now deletionDueAt : Instant)
      (hasLegalHold : Bool)
  | committing (reauth : DeletionReauth) (now deletionDueAt : Instant)
      (hasLegalHold : Bool) (sessionIds : List String)
  | logging (reauth : DeletionReauth) (deletionDueAt : Instant)
      (hasLegalHold : Bool)
  | reporting (deletionDueAt : Instant)
  | findingSchedule
  | checkingLogin (userId : String)
  | creatingSession (userId : String)
  | findingSession (refreshToken : String)
  | rotating (refreshToken sessionId userId : String)
  | revoking (sessionId userId : String)
  | reportingReuse (event : SecurityEventInput)

def RequestCall.start : RequestCall → RequestThread
  | .requestDeletion reauth => .findingUser reauth
  | .login userId => .checkingLogin userId
  | .refresh refreshToken => .findingSession refreshToken

/-! ## Reauthentication -/

def userNotActive : DeletionFailure :=
  .api (unauthorized "User not found or not active")

def reauthRequired (message : String) : DeletionFailure :=
  .api ⟨400, "reauth_required", message⟩

def invalidReauth (message : String) : DeletionFailure :=
  .api ⟨401, "invalid_reauth", message⟩

namespace DeletionReauth

variable (reauth : DeletionReauth)

def hasPassword : Bool := given reauth.currentPassword

def hasMfaCode : Bool := given reauth.mfaCode

def hasMfaFactorId : Bool := given reauth.mfaFactorId

/-- Why the payload is refused, if it is. -/
def refusal : Option DeletionFailure :=
  if !reauth.hasPassword && !reauth.hasMfaCode && !reauth.hasMfaFactorId then
    some (reauthRequired "Password or MFA reauthentication is required")
  else if reauth.hasMfaCode != reauth.hasMfaFactorId then
    some (reauthRequired "mfaCode and mfaFactorId must be provided together")
  else none

def method : String :=
  if reauth.hasPassword && reauth.hasMfaCode then "password+mfa"
  else if reauth.hasPassword then "password"
  else "mfa"

end DeletionReauth

/-- Why the second factor is refused, if it is; only what is not an API error
of the client's is thrown on. -/
def MfaOutcome.refusal : MfaOutcome → Option DeletionFailure
  | .result ok => if ok then none else some (invalidReauth "Invalid MFA code")
  | .apiError error =>
      if 500 ≤ error.status then some (.api error)
      else some (invalidReauth "Invalid MFA code")
  | .otherError => some .other

def passwordMatches (env : AuthEnv) (db : SessionDb)
    (userId password : String) : Bool :=
  match findWithPasswordById db userId with
  | none => false
  | some (_, row) => verifyPassword env.argon2Verify password row.passwordHash

/-! ## The steps -/

/-- The audit entry of the request that deletes the user. -/
def deletionEntry (userId : String) (reauth : DeletionReauth)
    (deletionDueAt : Instant) (hasLegalHold : Bool) : CreateAuditLogInput where
  actorUserId := some userId
  action := "account.deletion.requested"
  resourceType := "user"
  resourceId := some userId
  payload :=
    [("deletionDueAt", .str (toISOString deletionDueAt)),
      ("legalHoldActive", .bool hasLegalHold),
      ("reauthMethod", .str reauth.method)]

def deletionEvent (userId : String) : SecurityEventInput :=
  ⟨"account.deletion.requested", some userId,
    .obj [("status", .str "scheduled")]⟩

def scheduledAnswer (deletionDueAt : Instant) (alreadyDeleted : Bool) :
    DeletionAnswer :=
  ⟨"scheduled", toISOString deletionDueAt, alreadyDeleted⟩

def User.withDeletion (user : User) (now deletionDueAt : Instant) : User :=
  { user with
    status := .deleted
    deletedAt := some now
    deletionRequestedAt := some now
    deletionDueAt := some deletionDueAt }

theorem User.key_withDeletion (now deletionDueAt : Instant) (user : User) :
    key (user.withDeletion now deletionDueAt) = key user := rfl

/-- What the `COMMIT` makes visible: the user's row, and the sessions that the
second `UPDATE` has found. -/
def commitDeletion (db : SessionDb) (now : Instant) (userId : String)
    (deletionDueAt : Instant) (sessionIds : List String) : SessionDb :=
  { db with
    users := db.users.update (isActiveUser userId)
      (fun user => user.withDeletion now deletionDueAt)
      (User.key_withDeletion now deletionDueAt)
    userSessions := revokeWhere db.userSessions now fun session =>
      sessionIds.contains session.id }

def refreshLookup (env : AuthEnv) (db : SessionDb) (now : Instant)
    (refreshToken : String) : RefreshLookup :=
  match findByRefreshTokenHash db now (env.hashOpaqueToken refreshToken) with
  | none => .tokenNotFound
  | some (session, user) =>
      if user.status ≠ .active then .accountNotActive
      else .found session.id session.userId

namespace RequestStore

variable (store : RequestStore)

def sessions : Table UserSession := store.db.userSessions

def withSessions (sessions : Table UserSession) : RequestStore :=
  { store with db := { store.db with userSessions := sessions } }

def withLocked (locked : Option (List String)) : RequestStore :=
  { store with locked := locked }

/-- The transaction of a deletion ends. -/
def commit (now : Instant) (userId : String) (deletionDueAt : Instant)
    (sessionIds : List String) : RequestStore :=
  { store with
    db := commitDeletion store.db now userId deletionDueAt sessionIds
    locked := none }

def isLocked (sessionId : String) : Bool :=
  store.locked.any fun sessionIds => sessionIds.contains sessionId

/-- The sessions that an `UPDATE` by user finds. -/
def sessionIdsOf (userId : String) : List String :=
  (store.sessions.select fun session => session.userId == userId).map
    UserSession.id

def finish (result : Except DeletionFailure DeletionAnswer) : RequestStore :=
  { store with ended := store.ended ++ [result] }

def pass : RequestStore := { store with passed := store.passed + 1 }

def createSecurityEvent (event : SecurityEventInput) : RequestStore :=
  { store with securityEvents := store.securityEvents ++ [event] }

def createAuditLog (entry : CreateAuditLogInput) : RequestStore :=
  { store with auditLogs := store.auditLogs ++ [entry] }

/-- The request throws. -/
def throws (failure : DeletionFailure) : RequestStore × Option RequestThread :=
  (store.finish (.error failure), none)

end RequestStore

section Program

variable (env : AuthEnv)

def requestedSession (input : RequestInput) (userId : String) :
    UserSession where
  id := input.sessionId
  userId := userId
  accessTokenHash := env.hashOpaqueToken input.accessToken
  refreshTokenHash := env.hashOpaqueToken input.refreshToken
  ipAddress := input.ipAddress
  userAgent := input.userAgent
  expiresAt := .ofInstant (input.now + env.accessTokenTtlSeconds * 1000)
  refreshExpiresAt :=
    .ofInstant (input.nextNow + env.refreshTokenTtlSeconds * 1000)
  revokedAt := none
  lastSeenAt := input.databaseNow
  createdAt := input.databaseNow

def requestedTokens (input : RequestInput) : TokenPair where
  accessTokenHash := env.hashOpaqueToken input.accessToken
  refreshTokenHash := env.hashOpaqueToken input.refreshToken
  expiresAt := input.now + env.accessTokenTtlSeconds * 1000
  refreshExpiresAt := input.nextNow + env.refreshTokenTtlSeconds * 1000

/-- Each step is one statement and what is computed up to the next one; all
requests are about the same user. -/
def advanceRequest (userId : String) (store : RequestStore)
    (thread : RequestThread) (input : RequestInput) :
    RequestStore × Option RequestThread :=
  match thread with
  | .findingUser reauth =>
      match store.db.users.first? fun user => user.id == userId with
      | none => store.throws userNotActive
      | some user =>
          match user.status with
          | .suspended => store.throws userNotActive
          | .deleted => (store, some .findingSchedule)
          | .active =>
              match reauth.refusal with
              | some failure => store.throws failure
              | none =>
                  if reauth.hasPassword then
                    (store, some (.checkingPassword reauth))
                  else (store, some (.checkingMfa reauth))
  | .checkingPassword reauth =>
      if passwordMatches env store.db userId
          (reauth.currentPassword.getD "") then
        if reauth.hasMfaCode && reauth.hasMfaFactorId then
          (store, some (.checkingMfa reauth))
        else (store, some (.findingHold reauth))
      else store.throws (invalidReauth "Invalid password")
  | .checkingMfa reauth =>
      match input.mfa.refusal with
      | some failure => store.throws failure
      | none => (store, some (.findingHold reauth))
  | .findingHold reauth =>
      match env.deletionDueAt input.now with
      | none => store.throws .other
      | some deletionDueAt =>
          (store.pass, some (.marking reauth input.now deletionDueAt
            (heldBy input.nextNow store.legalHolds (some userId))))
  | .marking reauth now deletionDueAt hasLegalHold =>
      if store.db.users.rows.any (isActiveUser userId) then
        (store.withLocked (some []),
          some (.revokingSessions reauth now deletionDueAt hasLegalHold))
      else (store, some .findingSchedule)
  | .revokingSessions reauth now deletionDueAt hasLegalHold =>
      (store.withLocked (some (store.sessionIdsOf userId)),
        some (.committing reauth now deletionDueAt hasLegalHold
          (store.sessionIdsOf userId)))
  | .committing reauth now deletionDueAt hasLegalHold sessionIds =>
      (store.commit now userId deletionDueAt sessionIds,
        some (.logging reauth deletionDueAt hasLegalHold))
  | .logging reauth deletionDueAt hasLegalHold =>
      (store.createAuditLog
        (deletionEntry userId reauth deletionDueAt hasLegalHold),
        some (.reporting deletionDueAt))
  | .reporting deletionDueAt =>
      ((store.createSecurityEvent (deletionEvent userId)).finish
        (.ok (scheduledAnswer deletionDueAt false)), none)
  | .findingSchedule =>
      match findDeletionSchedule store.db userId with
      | some (some deletionDueAt) =>
          (store.finish (.ok (scheduledAnswer deletionDueAt true)), none)
      | _ => store.throws userNotActive
  | .checkingLogin owner =>
      match store.db.users.first? fun user => user.id == owner with
      | none => (store, none)
      | some user =>
          if user.status = .active ∧ input.passes = true then
            (store, some (.creatingSession owner))
          else (store, none)
  | .creatingSession owner =>
      let row := requestedSession env input owner
      match (store.sessions.insert? row).filter fun _ => row.storable with
      | none => (store, none)
      | some sessions => (store.withSessions sessions, none)
  | .findingSession refreshToken =>
      match refreshLookup env store.db input.now refreshToken with
      | .tokenNotFound =>
          (store, some (.reportingReuse ⟨"refresh_token.reuse_detected", none,
            .obj [("reason", .str "token_not_found")]⟩))
      | .accountNotActive => (store, none)
      | .found sessionId owner =>
          (store, some (.rotating refreshToken sessionId owner))
  | .rotating refreshToken sessionId owner =>
      let rotation := rotateTokens store.sessions input.databaseNow sessionId
        (env.hashOpaqueToken refreshToken) (requestedTokens env input)
      if !(requestedTokens env input).storable then (store, none)
      else if rotation.2 then (store.withSessions rotation.1, none)
      else (store, some (.revoking sessionId owner))
  | .revoking sessionId owner =>
      (store.withSessions (revoke store.sessions input.now sessionId),
        some (.reportingReuse ⟨"refresh_token.reuse_detected", some owner,
          .obj [("sessionId", .str sessionId)]⟩))
  | .reportingReuse event => (store.createSecurityEvent event, none)

/-- The next statement writes a row that a transaction has written and not yet
committed.  A new session of the user does not wait: its foreign key locks the
user's row in a mode that an `UPDATE` of other columns allows. -/
def waits (store : RequestStore) : RequestThread → Bool
  | .marking _ _ _ _ => store.locked.isSome
  | .rotating refreshToken sessionId _ =>
      store.isLocked sessionId && store.sessions.rows.any
        (canRotate sessionId (env.hashOpaqueToken refreshToken))
  | .revoking sessionId _ => store.isLocked sessionId
  | _ => false

/-- The request is in its transaction. -/
def RequestThread.holdsRow : RequestThread → Bool
  | .revokingSessions _ _ _ _ => true
  | .committing _ _ _ _ _ => true
  | _ => false

/-- A call that dies leaves what it has committed. -/
def requestProgram (userId : String) :
    Program RequestStore RequestThread RequestCall RequestInput Empty where
  start := RequestCall.start
  advance store thread input :=
    if waits env store thread then none
    else some (advanceRequest env userId store thread input)
  abort store thread :=
    if thread.holdsRow then store.withLocked none else store
  environment _ _ := none

end Program

abbrev RequestPool : Type := Pool RequestStore RequestThread Nat

abbrev RequestAction : Type :=
  Interleaving.Action RequestCall RequestInput Empty Nat

/-! ## The claim -/

def IsActive (userId : String) (db : SessionDb) : Prop :=
  ∃ user ∈ db.users, user.id = userId ∧ user.status = .active

def IsDeleted (userId : String) (db : SessionDb) : Prop :=
  ∃ user ∈ db.users, user.id = userId ∧ user.status = .deleted

def IsScheduled (userId : String) (deletionDueAt : Instant) (db : SessionDb) :
    Prop :=
  ∃ user ∈ db.users, user.id = userId ∧ user.status = .deleted ∧
    user.deletionDueAt = some deletionDueAt

/-- The answer of the request that has deleted the user. -/
def isFirst : Except DeletionFailure DeletionAnswer → Bool
  | .ok answer => !answer.alreadyDeleted
  | .error _ => false

def RequestStore.firsts (store : RequestStore) : Nat :=
  store.ended.countP isFirst

namespace RequestThread

/-- A request that may delete the user. -/
def mayMark : RequestThread → Bool
  | .marking _ _ _ _ => true
  | thread => thread.holdsRow

/-- The request that has deleted the user. -/
def hasMarked : RequestThread → Bool
  | .logging _ _ _ => true
  | .reporting _ => true
  | _ => false

def isRequest : RequestThread → Bool
  | .findingUser _ => true
  | .checkingPassword _ => true
  | .checkingMfa _ => true
  | .findingHold _ => true
  | .findingSchedule => true
  | thread => thread.mayMark || thread.hasMarked

/-- How many steps are left after the next one, at most. -/
@[simp]
def rank : RequestThread → Nat
  | .findingUser _ => 8
  | .checkingPassword _ => 7
  | .checkingMfa _ => 6
  | .findingHold _ => 5
  | .marking _ _ _ _ => 4
  | .revokingSessions _ _ _ _ => 3
  | .committing _ _ _ _ _ => 2
  | .logging _ _ _ => 1
  | .reporting _ => 0
  | .findingSchedule => 0
  | .checkingLogin _ => 1
  | .creatingSession _ => 0
  | .findingSession _ => 3
  | .rotating _ _ _ => 2
  | .revoking _ _ => 1
  | .reportingReuse _ => 0

end RequestThread

/-- No token of the user is good for anything, whenever it is looked up. -/
structure TokensRefused (env : AuthEnv) (userId : String) (db : SessionDb) :
    Prop where
  authenticate : ∀ now token sessionId,
    authenticateAccessToken env db now token ≠ .ok (userId, sessionId)
  introspect : ∀ now token sessionId exp,
    introspectToken env db now token ≠ .active userId sessionId exp
  refresh : ∀ now token sessionId,
    refreshLookup env db now token ≠ .found sessionId userId

section Claim

variable (env : AuthEnv) (userId : String)

/-- The user is active, and no request has been made. -/
structure RequestStore.Begins (start : RequestStore) : Prop where
  active : IsActive userId start.db
  locked : start.locked = none
  passed : start.passed = 0
  ended : start.ended = []

/-- Every request of the run has come to its end. -/
structure AllReturned (actions : List RequestAction) (last : RequestPool) :
    Prop where
  survive : ∀ id, .abort id ∉ actions
  returned : ∀ id thread, last.thread id = some thread →
    thread.isRequest = false

/-- The last step that the request has taken is its `UPDATE` of the sessions,
and those that the user had then are done with. -/
def SessionsUpdated (start : RequestStore) (actions : List RequestAction)
    (id : Nat) (deletionDueAt : Instant) (Done : String → Prop) : Prop :=
  ∃ first input second, ∃ before : RequestPool, ∃ reauth now hasLegalHold,
    actions = first ++ .advance id input :: second ∧
    (∀ action ∈ second, action.mover ≠ some id) ∧
    StepSystem.run (step (requestProgram env userId)) (Pool.start start)
      first = some before ∧
    before.thread id =
      some (.revokingSessions reauth now deletionDueAt hasLegalHold) ∧
    ∀ session ∈ before.shared.sessions, session.userId = userId →
      Done session.id

/-- What holds after the run of the actions, whatever was interleaved.  Once a
request has passed the reauthentication, with a date that can be stored, one
and only one of them deletes the user; the row of the user stays until then,
and its date from then on.  The step after the `UPDATE` of the sessions is the
`COMMIT`: what it revokes are the sessions of before that `UPDATE`. -/
structure AtomicDeletion (start : RequestStore) (actions : List RequestAction)
    (last : RequestPool) : Prop where
  once : AllReturned actions last → 0 < last.shared.passed →
    last.shared.firsts = 1 ∧
    ∃ deletionDueAt, IsScheduled userId deletionDueAt last.shared.db ∧
      ∃ reauth hasLegalHold, last.shared.auditLogs = start.auditLogs ++
        [deletionEntry userId reauth deletionDueAt hasLegalHold]
  row : ∀ user ∈ last.shared.db.users, user.id = userId →
    user ∈ start.db.users ∨
      user.status = .deleted ∧ user.deletionDueAt.isSome = true
  scheduled : ∀ first second pool deletionDueAt, actions = first ++ second →
    StepSystem.run (step (requestProgram env userId)) (Pool.start start)
      first = some pool →
    IsScheduled userId deletionDueAt pool.shared.db →
    IsScheduled userId deletionDueAt last.shared.db
  answers : ∀ answer, .ok answer ∈ last.shared.ended →
    ∃ deletionDueAt, IsScheduled userId deletionDueAt last.shared.db ∧
      answer = scheduledAnswer deletionDueAt answer.alreadyDeleted
  revoked : IsDeleted userId last.shared.db →
    ∃ deletionDueAt, IsScheduled userId deletionDueAt last.shared.db ∧
    ∃ first id input second, actions = first ++ .advance id input :: second ∧
      SessionsUpdated env userId start first id deletionDueAt
        fun sessionId => ∃ row ∈ last.shared.sessions, row.id = sessionId ∧
          row.revokedAt.isSome = true
  refused : IsDeleted userId last.shared.db →
    TokensRefused env userId last.shared.db
  returns : ∀ id thread (inputs : List RequestInput),
    last.thread id = some thread →
    (∀ other holder, last.thread other = some holder →
      holder.holdsRow = true → other = id) →
    9 ≤ inputs.length →
    ∃ count pool, StepSystem.run (step (requestProgram env userId)) last
        ((inputs.take count).map (Action.advance id)) = some pool ∧
      pool.thread id = none

end Claim

/-! ## The user -/

section Users

variable {userId : String} {db after : SessionDb} {now deletionDueAt : Instant}

theorem status_of_isDeleted (hdeleted : IsDeleted userId db) {user : User}
    (huser : user ∈ db.users) (hid : user.id = userId) :
    user.status = .deleted := by
  obtain ⟨other, hother, hotherId, hstatus⟩ := hdeleted
  rwa [db.users.eq_of_key_eq huser hother (hid.trans hotherId.symm)]

theorem not_isActive (hdeleted : IsDeleted userId db) :
    ¬ IsActive userId db := by
  rintro ⟨user, huser, hid, hactive⟩
  rw [status_of_isDeleted hdeleted huser hid] at hactive
  cases hactive

theorem IsScheduled.isDeleted
    (hscheduled : IsScheduled userId deletionDueAt db) :
    IsDeleted userId db := by
  obtain ⟨user, huser, hid, hstatus, -⟩ := hscheduled
  exact ⟨user, huser, hid, hstatus⟩

theorem first?_user {user : User} (huser : user ∈ db.users)
    (hid : user.id = userId) :
    (db.users.first? fun user => user.id == userId) = some user := by
  refine Table.first?_of_unique huser (by simpa using hid) ?_
  intro other hother hmatch
  exact db.users.eq_of_key_eq hother huser
    ((beq_iff_eq.mp hmatch).trans hid.symm)

theorem findDeletionSchedule_of_isScheduled
    (hscheduled : IsScheduled userId deletionDueAt db) :
    findDeletionSchedule db userId = some (some deletionDueAt) := by
  obtain ⟨user, huser, hid, -, hdue⟩ := hscheduled
  rw [findDeletionSchedule, first?_user huser hid, Option.map_some, hdue]

theorem any_isActiveUser :
    db.users.rows.any (isActiveUser userId) = true ↔ IsActive userId db := by
  rw [List.any_eq_true]
  simp only [isActiveUser, Bool.and_eq_true, beq_iff_eq]
  exact Iff.rfl

/-- A commit leaves an active user deleted. -/
theorem isScheduled_of_commit (hactive : IsActive userId db) (now : Instant)
    (deletionDueAt : Instant) (sessionIds : List String) :
    IsScheduled userId deletionDueAt
      (commitDeletion db now userId deletionDueAt sessionIds) := by
  obtain ⟨user, huser, hid, hactive⟩ := hactive
  have hmatch : isActiveUser userId user = true := by
    simp [isActiveUser, hid, hactive]
  refine ⟨user.withDeletion now deletionDueAt, ?_, hid, rfl, rfl⟩
  rw [commitDeletion, Table.mem_update]
  exact ⟨user, huser, by rw [if_pos hmatch]⟩

theorem not_isActive_commit (now deletionDueAt : Instant)
    (sessionIds : List String) :
    ¬ IsActive userId
      (commitDeletion db now userId deletionDueAt sessionIds) := by
  rintro ⟨user, huser, hid, hactive⟩
  rw [commitDeletion, Table.mem_update] at huser
  obtain ⟨old, hold, rfl⟩ := huser
  by_cases hmatch : isActiveUser userId old = true
  · rw [if_pos hmatch] at hactive
    cases hactive
  · rw [if_neg hmatch] at hid hactive
    simp [isActiveUser, hid, hactive] at hmatch

/-- Statements that nothing comes between are `markAsDeleted` in one step. -/
theorem markAsDeleted_eq_commit (hactive : IsActive userId db)
    (now deletionDueAt : Instant) :
    markAsDeleted db now userId deletionDueAt =
      some (commitDeletion db now userId deletionDueAt
        ((db.userSessions.select fun session => session.userId == userId).map
          UserSession.id)) := by
  rw [markAsDeleted, if_pos (any_isActiveUser.mpr hactive), commitDeletion]
  refine congrArg some (congrArg (fun sessions =>
    ({ db with
        users := db.users.update (isActiveUser userId) _ _
        userSessions := sessions } : SessionDb)) ?_)
  apply Table.update_congr
  intro row hrow
  rw [Bool.eq_iff_iff, beq_iff_eq, List.contains_iff_mem, List.mem_map]
  constructor
  · exact fun howner => ⟨row, Table.mem_select.mpr
      ⟨hrow, beq_iff_eq.mpr howner⟩, rfl⟩
  · rintro ⟨other, hother, hid⟩
    obtain ⟨hstored, howner⟩ := Table.mem_select.mp hother
    rw [db.userSessions.eq_of_key_eq hrow hstored hid.symm]
    exact beq_iff_eq.mp howner

/-- Whoever holds a session of a deleted user, its user is not active. -/
theorem not_active_of_findSession (hdeleted : IsDeleted userId db)
    {where_ : UserSession → Bool} {session : UserSession} {user : User}
    (hfind : findSession db where_ = some (session, user))
    (howner : session.userId = userId) : user.status ≠ .active := by
  obtain ⟨-, huser, hjoin, -⟩ := findSession_eq_some hfind
  rw [status_of_isDeleted hdeleted huser (hjoin.symm.trans howner)]
  decide

theorem tokensRefused (env : AuthEnv) (hdeleted : IsDeleted userId db) :
    TokensRefused env userId db where
  authenticate now token sessionId hcheck := by
    unfold authenticateAccessToken at hcheck
    split at hcheck
    case h_1 => cases hcheck
    case h_2 session user hfind =>
      split at hcheck
      case isTrue => cases hcheck
      case isFalse =>
        split at hcheck
        case isTrue => cases hcheck
        case isFalse hactive =>
          cases hcheck
          exact hactive (not_active_of_findSession hdeleted hfind rfl)
  introspect now token sessionId exp hcheck := by
    unfold introspectToken at hcheck
    split at hcheck
    case h_1 => cases hcheck
    case h_2 session user hfind =>
      split at hcheck
      case isFalse => cases hcheck
      case isTrue hlive =>
        simp only [Bool.and_eq_true, beq_iff_eq] at hlive
        cases hcheck
        exact not_active_of_findSession hdeleted hfind rfl hlive.2
  refresh now token sessionId hlookup := by
    unfold refreshLookup at hlookup
    split at hlookup
    case h_1 => cases hlookup
    case h_2 session user hfind =>
      split at hlookup
      case isTrue => cases hlookup
      case isFalse hactive =>
        cases hlookup
        exact hactive (not_active_of_findSession hdeleted hfind rfl)

end Users

/-! ## What a step does -/

/-- Every session is still there, and revoked if it was. -/
def SessionsKept (before after : Table UserSession) : Prop :=
  ∀ row ∈ before, ∃ later ∈ after, later.id = row.id ∧
    (row.revokedAt.isSome = true → later.revokedAt.isSome = true)

theorem sessionsKept_refl (sessions : Table UserSession) :
    SessionsKept sessions sessions :=
  fun row hrow => ⟨row, hrow, rfl, fun hrevoked => hrevoked⟩

theorem sessionsKept_update {sessions : Table UserSession}
    {where_ : UserSession → Bool} {set : UserSession → UserSession}
    (hkey : ∀ row, key (set row) = key row)
    (hset : ∀ row : UserSession, row.revokedAt.isSome = true →
      (set row).revokedAt.isSome = true) :
    SessionsKept sessions (sessions.update where_ set hkey) := by
  intro row hrow
  refine ⟨_, Table.mem_update.mpr ⟨row, hrow, rfl⟩, ?_⟩
  split
  case isTrue => exact ⟨hkey row, hset row⟩
  case isFalse => exact ⟨rfl, fun hrevoked => hrevoked⟩

theorem sessionsKept_revokeWhere (sessions : Table UserSession)
    (now : Instant) (where_ : UserSession → Bool) :
    SessionsKept sessions (revokeWhere sessions now where_) :=
  sessionsKept_update _ fun _ _ => rfl

/-- A step beside the deletion of the user. -/
structure Beside (store after : RequestStore) : Prop where
  users : after.db.users = store.db.users
  locked : after.locked = store.locked
  sessions : SessionsKept store.sessions after.sessions
  auditLogs : after.auditLogs = store.auditLogs
  passed : after.passed = store.passed
  ended : after.ended = store.ended

theorem Beside.refl (store : RequestStore) : Beside store store :=
  ⟨rfl, rfl, sessionsKept_refl _, rfl, rfl, rfl⟩

theorem beside_withSessions {store : RequestStore}
    {sessions : Table UserSession}
    (hkept : SessionsKept store.sessions sessions) :
    Beside store (store.withSessions sessions) :=
  ⟨rfl, rfl, hkept, rfl, rfl, rfl⟩

/-- The thread neither may delete the user nor has deleted it. -/
def RequestThread.isBeside (thread : RequestThread) : Bool :=
  !thread.mayMark && !thread.hasMarked

namespace RequestThread

variable {thread : RequestThread}

theorem not_mayMark (hbeside : thread.isBeside = true) :
    ¬ thread.mayMark = true := by
  intro hmark
  rw [isBeside, hmark] at hbeside
  cases hbeside

theorem not_hasMarked (hbeside : thread.isBeside = true) :
    ¬ thread.hasMarked = true := by
  intro hmarked
  rw [isBeside, hmarked, Bool.not_true, Bool.and_false] at hbeside
  cases hbeside

theorem mayMark_of_holdsRow (hholds : thread.holdsRow = true) :
    thread.mayMark = true := by
  cases thread <;> first | rfl | cases hholds

theorem not_holdsRow (hbeside : thread.isBeside = true) :
    thread.holdsRow = false :=
  Bool.eq_false_iff.mpr fun hholds =>
    not_mayMark hbeside (mayMark_of_holdsRow hholds)

end RequestThread

/-- What a step of a call comes to. -/
inductive RequestStep (userId : String) (store : RequestStore) :
    RequestThread → RequestStore → Option RequestThread → Prop
  | beside (thread : RequestThread) (after : RequestStore)
      (next : Option RequestThread) (hthread : thread.isBeside = true)
      (hafter : Beside store after)
      (hnext : ∀ following, next = some following →
        following.isBeside = true ∧ following.rank < thread.rank)
      (hdeleted : next = some .findingSchedule → IsDeleted userId store.db) :
      RequestStep userId store thread after next
  | throws (thread : RequestThread) (failure : DeletionFailure)
      (hthread : thread.isBeside = true) :
      RequestStep userId store thread (store.finish (.error failure)) none
  | passes (reauth : DeletionReauth) (now deletionDueAt : Instant)
      (hasLegalHold : Bool) :
      RequestStep userId store (.findingHold reauth) store.pass
        (some (.marking reauth now deletionDueAt hasLegalHold))
  | locks (reauth : DeletionReauth) (now deletionDueAt : Instant)
      (hasLegalHold : Bool) (hfree : store.locked = none)
      (hactive : IsActive userId store.db) :
      RequestStep userId store
        (.marking reauth now deletionDueAt hasLegalHold)
        (store.withLocked (some []))
        (some (.revokingSessions reauth now deletionDueAt hasLegalHold))
  | misses (reauth : DeletionReauth) (now deletionDueAt : Instant)
      (hasLegalHold : Bool) (hactive : ¬ IsActive userId store.db) :
      RequestStep userId store
        (.marking reauth now deletionDueAt hasLegalHold) store
        (some .findingSchedule)
  | updates (reauth : DeletionReauth) (now deletionDueAt : Instant)
      (hasLegalHold : Bool) :
      RequestStep userId store
        (.revokingSessions reauth now deletionDueAt hasLegalHold)
        (store.withLocked (some (store.sessionIdsOf userId)))
        (some (.committing reauth now deletionDueAt hasLegalHold
          (store.sessionIdsOf userId)))
  | commits (reauth : DeletionReauth) (now deletionDueAt : Instant)
      (hasLegalHold : Bool) (sessionIds : List String) :
      RequestStep userId store
        (.committing reauth now deletionDueAt hasLegalHold sessionIds)
        (store.commit now userId deletionDueAt sessionIds)
        (some (.logging reauth deletionDueAt hasLegalHold))
  | logs (reauth : DeletionReauth) (deletionDueAt : Instant)
      (hasLegalHold : Bool) :
      RequestStep userId store (.logging reauth deletionDueAt hasLegalHold)
        (store.createAuditLog
          (deletionEntry userId reauth deletionDueAt hasLegalHold))
        (some (.reporting deletionDueAt))
  | answersFirst (deletionDueAt : Instant) :
      RequestStep userId store (.reporting deletionDueAt)
        ((store.createSecurityEvent (deletionEvent userId)).finish
          (.ok (scheduledAnswer deletionDueAt false))) none
  | answersAgain (deletionDueAt : Instant)
      (hfind : findDeletionSchedule store.db userId =
        some (some deletionDueAt)) :
      RequestStep userId store .findingSchedule
        (store.finish (.ok (scheduledAnswer deletionDueAt true))) none

section Steps

variable {userId : String} {store : RequestStore} {thread : RequestThread}

theorem requestStep_ends {after : RequestStore}
    (hthread : thread.isBeside = true) (hafter : Beside store after) :
    RequestStep userId store thread after none :=
  .beside _ _ _ hthread hafter (fun _ hnext => by cases hnext)
    (fun hnext => by cases hnext)

theorem requestStep_goes {after : RequestStore} {next : RequestThread}
    (hthread : thread.isBeside = true) (hafter : Beside store after)
    (hnext : next.isBeside = true) (hrank : next.rank < thread.rank)
    (hschedule : next ≠ .findingSchedule) :
    RequestStep userId store thread after (some next) := by
  refine .beside _ _ _ hthread hafter (fun following hfollowing => ?_)
    (fun hfollowing => ?_)
  · cases hfollowing
    exact ⟨hnext, hrank⟩
  · exact absurd (Option.some.inj hfollowing) hschedule

/-- The request has found the user deleted. -/
theorem requestStep_again (hthread : thread.isBeside = true)
    (hrank : 0 < thread.rank) (hdeleted : IsDeleted userId store.db) :
    RequestStep userId store thread store (some .findingSchedule) := by
  refine .beside _ _ _ hthread (.refl store) (fun following hfollowing => ?_)
    fun _ => hdeleted
  cases hfollowing
  exact ⟨rfl, hrank⟩

section Calls

variable (env : AuthEnv) (userId : String) (store : RequestStore)
  (input : RequestInput)

theorem requestStep_findingUser (reauth : DeletionReauth) :
    RequestStep userId store (.findingUser reauth)
      (advanceRequest env userId store (.findingUser reauth) input).1
      (advanceRequest env userId store (.findingUser reauth) input).2 := by
  unfold advanceRequest
  dsimp only
  split
  case h_1 => exact .throws _ _ rfl
  case h_2 user hfirst =>
    split
    case h_1 => exact .throws _ _ rfl
    case h_2 hstatus =>
      obtain ⟨huser, hid⟩ := Table.mem_of_first? hfirst
      exact requestStep_again rfl (by simp)
        ⟨user, huser, beq_iff_eq.mp hid, hstatus⟩
    case h_3 =>
      split
      case h_1 failure => exact .throws _ _ rfl
      case h_2 =>
        split
        case isTrue =>
          exact requestStep_goes rfl (.refl store) rfl (by simp) nofun
        case isFalse =>
          exact requestStep_goes rfl (.refl store) rfl (by simp) nofun

theorem requestStep_checkingPassword (reauth : DeletionReauth) :
    RequestStep userId store (.checkingPassword reauth)
      (advanceRequest env userId store (.checkingPassword reauth) input).1
      (advanceRequest env userId store (.checkingPassword reauth) input).2 := by
  unfold advanceRequest
  dsimp only
  split
  case isTrue =>
    split
    case isTrue =>
      exact requestStep_goes rfl (.refl store) rfl (by simp) nofun
    case isFalse =>
      exact requestStep_goes rfl (.refl store) rfl (by simp) nofun
  case isFalse => exact .throws _ _ rfl

theorem requestStep_findingHold (reauth : DeletionReauth) :
    RequestStep userId store (.findingHold reauth)
      (advanceRequest env userId store (.findingHold reauth) input).1
      (advanceRequest env userId store (.findingHold reauth) input).2 := by
  unfold advanceRequest
  dsimp only
  split
  case h_1 => exact .throws _ _ rfl
  case h_2 deletionDueAt hdue => exact .passes reauth _ deletionDueAt _

theorem requestStep_marking (reauth : DeletionReauth)
    (now deletionDueAt : Instant) (hasLegalHold : Bool)
    (hfree : store.locked = none) :
    RequestStep userId store (.marking reauth now deletionDueAt hasLegalHold)
      (advanceRequest env userId store
        (.marking reauth now deletionDueAt hasLegalHold) input).1
      (advanceRequest env userId store
        (.marking reauth now deletionDueAt hasLegalHold) input).2 := by
  unfold advanceRequest
  dsimp only
  split
  case isTrue hany =>
    exact .locks reauth now deletionDueAt _ hfree (any_isActiveUser.mp hany)
  case isFalse hany =>
    exact .misses reauth now deletionDueAt _
      (fun hactive => hany (any_isActiveUser.mpr hactive))

theorem requestStep_checkingLogin (owner : String) :
    RequestStep userId store (.checkingLogin owner)
      (advanceRequest env userId store (.checkingLogin owner) input).1
      (advanceRequest env userId store (.checkingLogin owner) input).2 := by
  unfold advanceRequest
  dsimp only
  split
  case h_1 => exact requestStep_ends rfl (.refl store)
  case h_2 user hfirst =>
    split
    case isTrue =>
      exact requestStep_goes rfl (.refl store) rfl (by simp) nofun
    case isFalse => exact requestStep_ends rfl (.refl store)

theorem requestStep_creatingSession (owner : String) :
    RequestStep userId store (.creatingSession owner)
      (advanceRequest env userId store (.creatingSession owner) input).1
      (advanceRequest env userId store (.creatingSession owner) input).2 := by
  unfold advanceRequest
  dsimp only
  split
  case h_1 => exact requestStep_ends rfl (.refl store)
  case h_2 sessions hfilter =>
    have hinsert := (Option.filter_eq_some_iff.mp hfilter).1
    refine requestStep_ends rfl (beside_withSessions fun row hrow => ?_)
    refine ⟨row, ?_, rfl, fun hrevoked => hrevoked⟩
    change row ∈ sessions.rows
    rw [(Table.insert?_eq_some hinsert).2]
    exact List.mem_append_left _ hrow

theorem requestStep_rotating (refreshToken sessionId owner : String) :
    RequestStep userId store (.rotating refreshToken sessionId owner)
      (advanceRequest env userId store
        (.rotating refreshToken sessionId owner) input).1
      (advanceRequest env userId store
        (.rotating refreshToken sessionId owner) input).2 := by
  unfold advanceRequest
  dsimp only
  split
  case isTrue => exact requestStep_ends rfl (.refl store)
  case isFalse =>
    split
    case isTrue =>
      refine requestStep_ends rfl (beside_withSessions ?_)
      exact sessionsKept_update (UserSession.key_withTokens _ _)
        fun _ hrevoked => hrevoked
    case isFalse =>
      exact requestStep_goes rfl (.refl store) rfl (by simp) nofun

end Calls

theorem requestStep_advance (env : AuthEnv) {input : RequestInput}
    (hwaits : waits env store thread = false) :
    RequestStep userId store thread
      (advanceRequest env userId store thread input).1
      (advanceRequest env userId store thread input).2 := by
  cases thread with
  | findingUser reauth => exact requestStep_findingUser ..
  | checkingPassword reauth => exact requestStep_checkingPassword ..
  | checkingMfa reauth =>
      unfold advanceRequest
      dsimp only
      split
      case h_1 failure => exact .throws _ _ rfl
      case h_2 => exact requestStep_goes rfl (.refl store) rfl (by simp) nofun
  | findingHold reauth => exact requestStep_findingHold ..
  | marking reauth now deletionDueAt hasLegalHold =>
      exact requestStep_marking _ _ _ _ _ _ _ _
        (Option.isNone_iff_eq_none.mp (Option.isSome_eq_false_iff.mp hwaits))
  | revokingSessions reauth now deletionDueAt hasLegalHold =>
      exact .updates reauth now deletionDueAt hasLegalHold
  | committing reauth now deletionDueAt hasLegalHold sessionIds =>
      exact .commits reauth now deletionDueAt hasLegalHold sessionIds
  | logging reauth deletionDueAt hasLegalHold =>
      exact .logs reauth deletionDueAt hasLegalHold
  | reporting deletionDueAt => exact .answersFirst deletionDueAt
  | findingSchedule =>
      unfold advanceRequest
      dsimp only
      split
      case h_1 deletionDueAt hfind => exact .answersAgain deletionDueAt hfind
      case h_2 => exact .throws _ _ rfl
  | checkingLogin owner => exact requestStep_checkingLogin ..
  | creatingSession owner => exact requestStep_creatingSession ..
  | findingSession refreshToken =>
      unfold advanceRequest
      dsimp only
      split
      case h_1 => exact requestStep_goes rfl (.refl store) rfl (by simp) nofun
      case h_2 => exact requestStep_ends rfl (.refl store)
      case h_3 => exact requestStep_goes rfl (.refl store) rfl (by simp) nofun
  | rotating refreshToken sessionId owner => exact requestStep_rotating ..
  | revoking sessionId owner =>
      exact requestStep_goes rfl
        (beside_withSessions (sessionsKept_revokeWhere _ _ _)) rfl (by simp)
        nofun
  | reportingReuse event =>
      exact requestStep_ends rfl
        ⟨rfl, rfl, sessionsKept_refl _, rfl, rfl, rfl⟩

theorem requestStep_of_advance {env : AuthEnv} {input : RequestInput}
    {after : RequestStore} {next : Option RequestThread}
    (hadvance : (requestProgram env userId).advance store thread input =
      some (after, next)) : RequestStep userId store thread after next := by
  dsimp only [requestProgram] at hadvance
  split at hadvance
  case isTrue => cases hadvance
  case isFalse hwaits =>
    have hstep : RequestStep userId store thread
        (advanceRequest env userId store thread input).1
        (advanceRequest env userId store thread input).2 :=
      requestStep_advance env (Bool.eq_false_iff.mpr hwaits)
    rwa [Option.some.inj hadvance] at hstep

/-- Every step of a call brings it closer to its end. -/
theorem RequestStep.rank_lt {after : RequestStore} {next : RequestThread}
    (hstep : RequestStep userId store thread after (some next)) :
    next.rank < thread.rank := by
  cases hstep with
  | beside _ _ _ _ _ hlower => exact (hlower next rfl).2
  | passes | locks | misses | updates | commits | logs => simp

end Steps

/-! ## What later steps leave alone -/

/-- The date of a deletion and the sessions stay. -/
structure Follows (userId : String) (before after : RequestStore) : Prop where
  scheduled : ∀ deletionDueAt, IsScheduled userId deletionDueAt before.db →
    IsScheduled userId deletionDueAt after.db
  sessions : SessionsKept before.sessions after.sessions

theorem follows_of_db (userId : String) {before after : RequestStore}
    (hdb : after.db = before.db) : Follows userId before after := by
  constructor
  · intro deletionDueAt hscheduled
    rwa [hdb]
  · rw [RequestStore.sessions, RequestStore.sessions, hdb]
    exact sessionsKept_refl _

theorem Follows.trans {userId : String} {first second third : RequestStore}
    (hfirst : Follows userId first second)
    (hsecond : Follows userId second third) : Follows userId first third := by
  refine ⟨fun dueAt hdue =>
      hsecond.scheduled dueAt (hfirst.scheduled dueAt hdue),
    fun row hrow => ?_⟩
  obtain ⟨middle, hmiddle, hid, hrevoked⟩ := hfirst.sessions row hrow
  obtain ⟨later, hlater, hlaterId, hlaterRevoked⟩ :=
    hsecond.sessions middle hmiddle
  exact ⟨later, hlater, hlaterId.trans hid,
    fun hset => hlaterRevoked (hrevoked hset)⟩

section Follow

variable {env : AuthEnv} {userId : String} {store after : RequestStore}
  {thread : RequestThread} {next : Option RequestThread}

/-- The row of a deleted user is not among those that a commit writes. -/
theorem IsScheduled.commit {db : SessionDb} {due : Instant}
    (hscheduled : IsScheduled userId due db) (now deletionDueAt : Instant)
    (sessionIds : List String) :
    IsScheduled userId due
      (commitDeletion db now userId deletionDueAt sessionIds) := by
  obtain ⟨user, huser, hid, hstatus, hdue⟩ := hscheduled
  have hmatch : ¬ isActiveUser userId user = true := by
    simp [isActiveUser, hstatus]
  refine ⟨user, ?_, hid, hstatus, hdue⟩
  rw [commitDeletion, Table.mem_update]
  exact ⟨user, huser, by rw [if_neg hmatch]⟩

theorem RequestStep.follows
    (hstep : RequestStep userId store thread after next) :
    Follows userId store after := by
  cases hstep with
  | beside _ _ _ hthread hafter =>
      refine ⟨fun deletionDueAt hscheduled => ?_, hafter.sessions⟩
      rwa [IsScheduled, hafter.users]
  | commits reauth now deletionDueAt hasLegalHold sessionIds =>
      exact ⟨fun _ hscheduled => hscheduled.commit now deletionDueAt sessionIds,
        sessionsKept_revokeWhere _ _ _⟩
  | passes | throws | locks | misses | updates | logs | answersFirst
    | answersAgain => exact follows_of_db userId rfl

theorem requestProgram_abort_db (env : AuthEnv) (userId : String)
    (store : RequestStore) (thread : RequestThread) :
    ((requestProgram env userId).abort store thread).db = store.db := by
  dsimp only [requestProgram]
  split <;> rfl

theorem follows_of_step {pool last : RequestPool} {action : RequestAction}
    (hstep : step (requestProgram env userId) pool action = some last) :
    Follows userId pool.shared last.shared := by
  cases moves_of_step _ hstep with
  | spawn => exact follows_of_db userId rfl
  | advance id input thread after following hthread hadvance =>
      exact (requestStep_of_advance hadvance).follows
  | abort id thread =>
      exact follows_of_db userId
        (requestProgram_abort_db env userId pool.shared thread)
  | environment event => exact event.elim

theorem follows_of_run {pool last : RequestPool}
    {actions : List RequestAction}
    (hrun : StepSystem.run (step (requestProgram env userId)) pool actions =
      some last) : Follows userId pool.shared last.shared :=
  StepSystem.run_relates (step (requestProgram env userId)) (fun _ => True)
    (fun _ => follows_of_db userId rfl)
    (fun _ _ _ hfirst hsecond => hfirst.trans hsecond)
    (fun _ _ _ _ hnext => ⟨trivial, follows_of_step hnext⟩) trivial hrun

end Follow

end IdProvider
