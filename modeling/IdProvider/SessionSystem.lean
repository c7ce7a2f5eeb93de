/-
The server's session handling as a system of concurrent calls.  Every action
is one database statement of one call, or the clock.
-/
import IdProvider.JsText
import IdProvider.Sessions
import IdProvider.StepSystem

namespace IdProvider

open JsonText KeyedTable

/-- The reauthentication of an account deletion request. -/
structure DeletionReauth where
  currentPassword : Option String
  mfaCode : Option String
  mfaFactorId : Option String
  deriving DecidableEq

/-- A successful rotation and the token that was its input. -/
structure Rotation where
  token : String
  sessionId : String
  deriving DecidableEq

/-- What a refresh call finds when it is presented. -/
structure Snapshot where
  now : Instant
  sessions : Table UserSession
  rotations : List Rotation

/-- A refresh call whose lookup found a session; `presented` is a ghost. -/
structure RefreshCall where
  token : String
  sessionId : String
  userId : String
  presented : Snapshot

/-- What a call still has to do.  `begun` is a ghost: the session ids at the
start of the operation. -/
inductive Process where
  | refreshFound (call : RefreshCall)
  | refreshLost (call : RefreshCall)
  | changeStarted (userId currentPassword : String) (begun : List String)
  | changeVerified (userId : String) (begun : List String)
  | changeWritten (userId : String) (begun : List String)
  | resetStarted (token : String) (begun : List String)
  | resetConsumed (userId : String) (begun : List String)
  | resetChecked (userId : String) (begun : List String)
  | deletionStarted (userId : String) (reauth : DeletionReauth)
      (begun : List String)
  | deletionActive (userId : String) (reauth : DeletionReauth)
      (begun : List String)
  | deletionReauthed (userId : String) (begun : List String)
  | deletionDeleted (userId : String) (begun : List String)

/-- A password or deletion call that has not found its user deleted. -/
def Process.isCredential : Process → Bool
  | .refreshFound _ => false
  | .refreshLost _ => false
  | .deletionDeleted _ _ => false
  | _ => true

structure Running where
  pid : Nat
  process : Process

instance : Keyed Running Nat := ⟨Running.pid⟩

/-- A token hash, and the session it was generated for. -/
structure Issued where
  hash : String
  sessionId : String
  deriving DecidableEq

inductive RefreshOutcome where
  | rotated
  | tokenNotFound
  | accountNotActive
  | reuseDetected
  deriving DecidableEq

/-- A refresh call after its last step: what it was presented to, the sessions
it left, and the rotations of other calls before its own last step. -/
structure FinishedRefresh where
  token : String
  outcome : RefreshOutcome
  lookup : Option String
  presented : Snapshot
  left : Table UserSession
  superseding : List Rotation

/-- The database and the calls in flight.  The last four fields are ghosts;
`ended` lists the sessions that a completed credential change was to end. -/
structure SessionState where
  now : Instant
  db : SessionDb
  processes : Table Running
  securityEvents : List SecurityEventInput
  issued : List Issued
  rotations : List Rotation
  finished : List FinishedRefresh
  ended : List String

inductive Action where
  | tick (now : Instant)
  | createSession (id userId accessToken refreshToken : String)
      (ipAddress userAgent : Option String)
  | createPasswordToken (id userId token : String)
  | refreshFind (pid : Nat) (token : String)
  | refreshRotate (pid : Nat) (accessToken refreshToken : String)
  | refreshRevoke (pid : Nat)
  | revoke (sessionId : String)
  | revokeAllByUserId (userId : String)
  | updateLastSeen (sessionId : String)
  | changeBegin (pid : Nat) (userId currentPassword : String)
  | changeVerify (pid : Nat)
  | changeWrite (pid : Nat) (passwordHash : String)
  | changeRevokeAll (pid : Nat)
  | resetBegin (pid : Nat) (token : String)
  | resetConsume (pid : Nat)
  | resetFindUser (pid : Nat)
  | resetWrite (pid : Nat) (passwordHash : String)
  | deletionBegin (pid : Nat) (userId : String) (reauth : DeletionReauth)
  | deletionFindUser (pid : Nat)
  | deletionReauth (pid : Nat) (mfaVerified : Bool)
  | deletionMark (pid : Nat)
  | deletionFindSchedule (pid : Nat)

namespace SessionState

variable (st : SessionState)

def sessions : Table UserSession := st.db.userSessions

def withSessions (sessions : Table UserSession) : SessionState :=
  { st with db := { st.db with userSessions := sessions } }

def process? (pid : Nat) : Option Process :=
  (st.processes.first? fun running => running.pid == pid).map Running.process

def start (pid : Nat) (process : Process) : Option SessionState :=
  (st.processes.insert? ⟨pid, process⟩).map fun processes =>
    { st with processes := processes }

def become (pid : Nat) (process : Process) : SessionState :=
  { st with
    processes := st.processes.update (fun running => running.pid == pid)
      (fun running => { running with process := process }) (fun _ => rfl) }

def exit (pid : Nat) : SessionState :=
  { st with
    processes := st.processes.delete fun running => running.pid == pid }

def snapshot : Snapshot := ⟨st.now, st.sessions, st.rotations⟩

def sessionIds : List String := st.sessions.rows.map UserSession.id

def withIssued (issued : List Issued) : SessionState :=
  { st with issued := issued ++ st.issued }

def report (eventType : String) (userId : Option String) (payload : Json) :
    SessionState :=
  { st with
    securityEvents := ⟨eventType, userId, payload⟩ :: st.securityEvents }

def addRotation (rotation : Rotation) : SessionState :=
  { st with rotations := rotation :: st.rotations }

def addFinished (call : FinishedRefresh) : SessionState :=
  { st with finished := call :: st.finished }

def addEnded (sessionIds : List String) : SessionState :=
  { st with ended := sessionIds ++ st.ended }

/-- A completed credential change: the user's sessions among `begun` were to
end. -/
def complete (pid : Nat) (userId : String) (begun : List String) :
    SessionState :=
  (st.exit pid).addEnded ((st.sessions.select fun session =>
    session.userId == userId && decide (session.id ∈ begun)).map
      UserSession.id)

end SessionState

section Step

variable (env : AuthEnv) (st : SessionState)

/-- Random tokens never hash to a value seen before. -/
def freshTokens (accessToken refreshToken : String) : Bool :=
  let access := env.hashOpaqueToken accessToken
  let refresh := env.hashOpaqueToken refreshToken
  decide (access ∉ st.issued.map Issued.hash) &&
    decide (refresh ∉ st.issued.map Issued.hash) && decide (access ≠ refresh)

def issue (sessionId accessToken refreshToken : String) : List Issued :=
  [⟨env.hashOpaqueToken accessToken, sessionId⟩,
    ⟨env.hashOpaqueToken refreshToken, sessionId⟩]

def tokenPair (accessToken refreshToken : String) : TokenPair where
  accessTokenHash := env.hashOpaqueToken accessToken
  refreshTokenHash := env.hashOpaqueToken refreshToken
  expiresAt := st.now + env.accessTokenTtlSeconds * 1000
  refreshExpiresAt := st.now + env.refreshTokenTtlSeconds * 1000

def newSession (id userId accessToken refreshToken : String)
    (ipAddress userAgent : Option String) : UserSession where
  id := id
  userId := userId
  accessTokenHash := env.hashOpaqueToken accessToken
  refreshTokenHash := env.hashOpaqueToken refreshToken
  ipAddress := ipAddress
  userAgent := userAgent
  expiresAt := .ofInstant (st.now + env.accessTokenTtlSeconds * 1000)
  refreshExpiresAt := .ofInstant (st.now + env.refreshTokenTtlSeconds * 1000)
  revokedAt := none
  lastSeenAt := st.now
  createdAt := st.now

def createSession (id userId accessToken refreshToken : String)
    (ipAddress userAgent : Option String) : Option SessionState :=
  let row := newSession env st id userId accessToken refreshToken ipAddress
    userAgent
  if freshTokens env st accessToken refreshToken &&
      st.db.users.rows.any (fun user => user.id == userId) && row.storable then
    (st.sessions.insert? row).map fun sessions =>
      (st.withSessions sessions).withIssued
        (issue env id accessToken refreshToken)
  else none

def createPasswordToken (id userId token : String) : Option SessionState :=
  (st.db.passwordResetTokens.insert?
    { id := id
      userId := userId
      tokenHash := env.hashOpaqueToken token
      expiresAt := st.now + 60 * 60 * 1000
      consumedAt := none
      createdAt := st.now }).map fun tokens =>
    { st with db := { st.db with passwordResetTokens := tokens } }

/-! ### `AuthService.refresh` -/

def finishedAtLookup (token : String) (outcome : RefreshOutcome)
    (lookup : Option String) : FinishedRefresh where
  token := token
  outcome := outcome
  lookup := lookup
  presented := st.snapshot
  left := st.sessions
  superseding := st.rotations

def finishedCall (call : RefreshCall) (outcome : RefreshOutcome)
    (left : Table UserSession) : FinishedRefresh where
  token := call.token
  outcome := outcome
  lookup := some call.sessionId
  presented := call.presented
  left := left
  superseding := st.rotations

def refreshFind (pid : Nat) (token : String) : Option SessionState :=
  match findByRefreshTokenHash st.db st.now (env.hashOpaqueToken token) with
  | none =>
      some ((st.report "refresh_token.reuse_detected" none
        (.obj [("reason", .str "token_not_found")])).addFinished
          (finishedAtLookup st token .tokenNotFound none))
  | some (session, user) =>
      if user.status ≠ .active then
        some (st.addFinished
          (finishedAtLookup st token .accountNotActive (some session.id)))
      else
        st.start pid
          (.refreshFound ⟨token, session.id, session.userId, st.snapshot⟩)

def refreshRotate (pid : Nat) (accessToken refreshToken : String) :
    Option SessionState :=
  match st.process? pid with
  | some (.refreshFound call) =>
      if !(tokenPair env st accessToken refreshToken).storable then
        some (st.exit pid)
      else if freshTokens env st accessToken refreshToken then
        let rotation := rotateTokens st.sessions st.now call.sessionId
          (env.hashOpaqueToken call.token)
          (tokenPair env st accessToken refreshToken)
        let next := (st.withSessions rotation.1).withIssued
          (issue env call.sessionId accessToken refreshToken)
        if rotation.2 then
          some (((next.exit pid).addRotation
            ⟨call.token, call.sessionId⟩).addFinished
              (finishedCall st call .rotated rotation.1))
        else some (next.become pid (.refreshLost call))
      else none
  | _ => none

def refreshRevoke (pid : Nat) : Option SessionState :=
  match st.process? pid with
  | some (.refreshLost call) =>
      let sessions := revoke st.sessions st.now call.sessionId
      some ((((st.withSessions sessions).exit pid).report
        "refresh_token.reuse_detected" (some call.userId)
        (.obj [("sessionId", .str call.sessionId)])).addFinished
          (finishedCall st call .reuseDetected sessions))
  | _ => none

/-! ### `POST /v1/password/change` -/

def verifyPasswordById (userId password : String) : Bool :=
  match findWithPasswordById st.db userId with
  | none => false
  | some (_, row) => verifyPassword env.argon2Verify password row.passwordHash

/-- A wrong current password ends the call with `invalid_password`. -/
def changeVerify (pid : Nat) : Option SessionState :=
  match st.process? pid with
  | some (.changeStarted userId currentPassword begun) =>
      if verifyPasswordById env st userId currentPassword then
        some (st.become pid (.changeVerified userId begun))
      else some (st.exit pid)
  | _ => none

def changeWrite (pid : Nat) (passwordHash : String) : Option SessionState :=
  match st.process? pid with
  | some (.changeVerified userId begun) =>
      some (SessionState.become
        { st with db := updatePassword st.db st.now userId passwordHash } pid
        (.changeWritten userId begun))
  | _ => none

def changeRevokeAll (pid : Nat) : Option SessionState :=
  match st.process? pid with
  | some (.changeWritten userId begun) =>
      some ((st.withSessions
        (revokeAllByUserId st.sessions st.now userId)).complete pid userId
          begun)
  | _ => none

/-! ### `AuthService.confirmPasswordReset` -/

def isConsumable (now : Instant) (tokenHash : String)
    (token : PasswordResetToken) : Bool :=
  token.tokenHash == tokenHash && token.consumedAt.isNone &&
    decide (now < token.expiresAt)

def resetConsume (pid : Nat) : Option SessionState :=
  match st.process? pid with
  | some (.resetStarted token begun) =>
      let where_ := isConsumable st.now (env.hashOpaqueToken token)
      match st.db.passwordResetTokens.first? where_ with
      | none => some (st.exit pid)
      | some row =>
          some (SessionState.become
            { st with
              db :=
                { st.db with
                  passwordResetTokens := st.db.passwordResetTokens.update
                    where_
                    (fun token => { token with consumedAt := some st.now })
                    (fun _ => rfl) } } pid
            (.resetConsumed row.userId begun))
  | _ => none

def resetFindUser (pid : Nat) : Option SessionState :=
  match st.process? pid with
  | some (.resetConsumed userId begun) =>
      match st.db.users.first? fun user => user.id == userId with
      | none => some (st.exit pid)
      | some user =>
          if user.status ≠ .active then some (st.exit pid)
          else some (st.become pid (.resetChecked userId begun))
  | _ => none

def resetWrite (pid : Nat) (passwordHash : String) : Option SessionState :=
  match st.process? pid with
  | some (.resetChecked userId begun) =>
      some (SessionState.complete
        { st with db := updatePassword st.db st.now userId passwordHash } pid
        userId begun)
  | _ => none

/-! ### `AccountDeletionService.requestDeletion` -/

/-- A user that is already deleted is answered with its schedule. -/
def deletionFindUser (pid : Nat) : Option SessionState :=
  match st.process? pid with
  | some (.deletionStarted userId reauth begun) =>
      match st.db.users.first? fun user => user.id == userId with
      | none => some (st.exit pid)
      | some user =>
          match user.status with
          | .suspended => some (st.exit pid)
          | .deleted => some (st.become pid (.deletionDeleted userId begun))
          | .active =>
              some (st.become pid (.deletionActive userId reauth begun))
  | _ => none

/-- The verdict of `mfaService.verifyMfa` is an input. -/
def deletionReauth (pid : Nat) (mfaVerified : Bool) : Option SessionState :=
  match st.process? pid with
  | some (.deletionActive userId reauth begun) =>
      let hasPassword := given reauth.currentPassword
      let hasMfaCode := given reauth.mfaCode
      let hasMfaFactorId := given reauth.mfaFactorId
      if !hasPassword && !hasMfaCode && !hasMfaFactorId then
        some (st.exit pid)
      else if hasMfaCode != hasMfaFactorId then some (st.exit pid)
      else if hasPassword && !verifyPasswordById env st userId
          (reauth.currentPassword.getD "") then some (st.exit pid)
      else if hasMfaCode && !mfaVerified then some (st.exit pid)
      else some (st.become pid (.deletionReauthed userId begun))
  | _ => none

def deletionMark (pid : Nat) : Option SessionState :=
  match st.process? pid with
  | some (.deletionReauthed userId begun) =>
      match env.deletionDueAt st.now with
      | none => some (st.exit pid)
      | some deletionDueAt =>
          match markAsDeleted st.db st.now userId deletionDueAt with
          | some db => some (SessionState.complete { st with db := db } pid
              userId begun)
          | none => some (st.become pid (.deletionDeleted userId begun))
  | _ => none

def findDeletionSchedule (db : SessionDb) (userId : String) :
    Option (Option Instant) :=
  (db.users.first? fun user => user.id == userId).map User.deletionDueAt

def deletionFindSchedule (pid : Nat) : Option SessionState :=
  match st.process? pid with
  | some (.deletionDeleted userId begun) =>
      match findDeletionSchedule st.db userId with
      | some (some _) => some (st.complete pid userId begun)
      | _ => some (st.exit pid)
  | _ => none

end Step

def SessionState.step (env : AuthEnv) (st : SessionState) :
    Action → Option SessionState
  | .tick now => if st.now ≤ now then some { st with now := now } else none
  | .createSession id userId accessToken refreshToken ipAddress userAgent =>
      createSession env st id userId accessToken refreshToken ipAddress
        userAgent
  | .createPasswordToken id userId token =>
      createPasswordToken env st id userId token
  | .refreshFind pid token => refreshFind env st pid token
  | .refreshRotate pid accessToken refreshToken =>
      refreshRotate env st pid accessToken refreshToken
  | .refreshRevoke pid => refreshRevoke st pid
  | .revoke sessionId =>
      some (st.withSessions (revoke st.sessions st.now sessionId))
  | .revokeAllByUserId userId =>
      some (st.withSessions (revokeAllByUserId st.sessions st.now userId))
  | .updateLastSeen sessionId =>
      some (st.withSessions (updateLastSeen st.sessions st.now sessionId))
  | .changeBegin pid userId currentPassword =>
      st.start pid (.changeStarted userId currentPassword st.sessionIds)
  | .changeVerify pid => changeVerify env st pid
  | .changeWrite pid passwordHash => changeWrite st pid passwordHash
  | .changeRevokeAll pid => changeRevokeAll st pid
  | .resetBegin pid token => st.start pid (.resetStarted token st.sessionIds)
  | .resetConsume pid => resetConsume env st pid
  | .resetFindUser pid => resetFindUser st pid
  | .resetWrite pid passwordHash => resetWrite st pid passwordHash
  | .deletionBegin pid userId reauth =>
      st.start pid (.deletionStarted userId reauth st.sessionIds)
  | .deletionFindUser pid => deletionFindUser st pid
  | .deletionReauth pid mfaVerified => deletionReauth env st pid mfaVerified
  | .deletionMark pid => deletionMark env st pid
  | .deletionFindSchedule pid => deletionFindSchedule st pid

/-- A server that has issued no session yet. -/
structure Initial (st : SessionState) : Prop where
  sessions : st.sessions.rows = []
  processes : st.processes.rows = []
  issued : st.issued = []
  rotations : st.rotations = []
  finished : st.finished = []
  ended : st.ended = []

def Reachable (env : AuthEnv) (st : SessionState) : Prop :=
  ∃ init actions, Initial init ∧
    StepSystem.run (SessionState.step env) init actions = some st

end IdProvider
