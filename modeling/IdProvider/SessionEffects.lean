/-
What a step of the session system can do to the sessions, the issued tokens
and the rotations.
-/
import IdProvider.SessionSystem

namespace IdProvider

open KeyedTable

/-- The new row carries the tokens of the old one, and is revoked if that
was. -/
structure Tightens (old new : UserSession) : Prop where
  id : new.id = old.id
  userId : new.userId = old.userId
  accessTokenHash : new.accessTokenHash = old.accessTokenHash
  refreshTokenHash : new.refreshTokenHash = old.refreshTokenHash
  expiresAt : new.expiresAt = old.expiresAt
  refreshExpiresAt : new.refreshExpiresAt = old.refreshExpiresAt
  revokedAt : old.revokedAt.isSome = true → new.revokedAt.isSome = true

theorem Tightens.refl (row : UserSession) : Tightens row row :=
  ⟨rfl, rfl, rfl, rfl, rfl, rfl, fun h => h⟩

theorem Tightens.trans {first second third : UserSession}
    (hfirst : Tightens first second) (hsecond : Tightens second third) :
    Tightens first third :=
  ⟨hsecond.id.trans hfirst.id, hsecond.userId.trans hfirst.userId,
    hsecond.accessTokenHash.trans hfirst.accessTokenHash,
    hsecond.refreshTokenHash.trans hfirst.refreshTokenHash,
    hsecond.expiresAt.trans hfirst.expiresAt,
    hsecond.refreshExpiresAt.trans hfirst.refreshExpiresAt,
    fun h => hsecond.revokedAt (hfirst.revokedAt h)⟩

/-- An update that leaves the tokens alone and takes back no revocation. -/
structure Tightened (before after : Table UserSession) : Prop where
  rows : ∃ set : UserSession → UserSession,
    (∀ row, Tightens row (set row)) ∧ after.rows = before.rows.map set

theorem Tightened.refl (sessions : Table UserSession) :
    Tightened sessions sessions :=
  ⟨id, Tightens.refl, by simp⟩

theorem tightened_update {sessions : Table UserSession}
    {where_ : UserSession → Bool} {set : UserSession → UserSession}
    {hkey : ∀ row, key (set row) = key row}
    (hset : ∀ row, Tightens row (set row)) :
    Tightened sessions (sessions.update where_ set hkey) := by
  refine ⟨fun row => if where_ row then set row else row, ?_, rfl⟩
  intro row
  dsimp only
  by_cases hwhere : where_ row = true
  · rw [if_pos hwhere]
    exact hset row
  · rw [if_neg hwhere]
    exact Tightens.refl row

theorem tightened_revokeWhere (sessions : Table UserSession) (now : Instant)
    (where_ : UserSession → Bool) :
    Tightened sessions (revokeWhere sessions now where_) :=
  tightened_update fun _ => ⟨rfl, rfl, rfl, rfl, rfl, rfl, fun _ => rfl⟩

theorem tightened_updateLastSeen (sessions : Table UserSession)
    (now : Instant) (sessionId : String) :
    Tightened sessions (updateLastSeen sessions now sessionId) :=
  tightened_update fun _ => ⟨rfl, rfl, rfl, rfl, rfl, rfl, fun h => h⟩

theorem Tightened.mem_after {before after : Table UserSession}
    (htight : Tightened before after) {new : UserSession}
    (hnew : new ∈ after) : ∃ old ∈ before, Tightens old new := by
  obtain ⟨set, hset, hrows⟩ := htight.rows
  rw [← mem_rows, hrows, List.mem_map] at hnew
  obtain ⟨old, hold, rfl⟩ := hnew
  exact ⟨old, hold, hset old⟩

theorem Tightened.mem_before {before after : Table UserSession}
    (htight : Tightened before after) {old : UserSession}
    (hold : old ∈ before) : ∃ new ∈ after, Tightens old new := by
  obtain ⟨set, hset, hrows⟩ := htight.rows
  refine ⟨set old, ?_, hset old⟩
  rw [← mem_rows, hrows]
  exact List.mem_map_of_mem hold

section Effect

variable (env : AuthEnv) (st : SessionState) (action : Action)

/-- No user of that id is active. -/
def InactiveUser (db : SessionDb) (userId : String) : Prop :=
  ∀ user ∈ db.users, user.id = userId → user.status ≠ .active

/-- Everything a step can do. -/
inductive StepEffect : SessionState → Prop where
  | tick (now : Instant) (hle : st.now ≤ now) :
      StepEffect { st with now := now }
  | written (db : SessionDb)
      (hsessions : Tightened st.sessions db.userSessions)
      (husers : db.users = st.db.users) : StepEffect { st with db := db }
  | created (id userId accessToken refreshToken : String)
      (ipAddress userAgent : Option String) (sessions : Table UserSession)
      (hfresh : freshTokens env st accessToken refreshToken = true)
      (hid : ∀ row ∈ st.sessions, row.id ≠ id)
      (hrows : sessions.rows = st.sessions.rows ++
        [newSession env st id userId accessToken refreshToken ipAddress
          userAgent]) :
      StepEffect ((st.withSessions sessions).withIssued
        (issue env id accessToken refreshToken))
  | missed (token : String)
      (hfind : findByRefreshTokenHash st.db st.now
        (env.hashOpaqueToken token) = none) :
      StepEffect ((st.report "refresh_token.reuse_detected" none
        (.obj [("reason", .str "token_not_found")])).addFinished
          (finishedAtLookup st token .tokenNotFound none))
  | inactive (token : String) (session : UserSession) (user : User)
      (hfind : findByRefreshTokenHash st.db st.now
        (env.hashOpaqueToken token) = some (session, user)) :
      StepEffect (st.addFinished
        (finishedAtLookup st token .accountNotActive (some session.id)))
  | found (pid : Nat) (token : String) (session : UserSession) (user : User)
      (processes : Table Running)
      (hfind : findByRefreshTokenHash st.db st.now
        (env.hashOpaqueToken token) = some (session, user))
      (hactive : user.status = .active)
      (hrows : processes.rows = st.processes.rows ++ [⟨pid, .refreshFound
        ⟨token, session.id, session.userId, st.snapshot⟩⟩]) :
      StepEffect { st with processes := processes }
  | rotated (pid : Nat) (call : RefreshCall)
      (accessToken refreshToken : String) (sessions : Table UserSession)
      (hcall : st.process? pid = some (.refreshFound call))
      (hfresh : freshTokens env st accessToken refreshToken = true)
      (hcan : ∃ row ∈ st.sessions, canRotate call.sessionId
        (env.hashOpaqueToken call.token) row = true)
      (hsessions : sessions = (rotateTokens st.sessions st.now call.sessionId
        (env.hashOpaqueToken call.token)
        (tokenPair env st accessToken refreshToken)).1) :
      StepEffect (((((st.withSessions sessions).withIssued
        (issue env call.sessionId accessToken refreshToken)).exit
          pid).addRotation ⟨call.token, call.sessionId⟩).addFinished
            (finishedCall st call .rotated sessions))
  | lost (pid : Nat) (call : RefreshCall) (accessToken refreshToken : String)
      (hcall : st.process? pid = some (.refreshFound call))
      (hfresh : freshTokens env st accessToken refreshToken = true) :
      StepEffect ((st.withIssued
        (issue env call.sessionId accessToken refreshToken)).become pid
          (.refreshLost call))
  | reused (pid : Nat) (call : RefreshCall) (sessions : Table UserSession)
      (hcall : st.process? pid = some (.refreshLost call))
      (hsessions : sessions = revoke st.sessions st.now call.sessionId) :
      StepEffect ((((st.withSessions sessions).exit pid).report
        "refresh_token.reuse_detected" (some call.userId)
        (.obj [("sessionId", .str call.sessionId)])).addFinished
          (finishedCall st call .reuseDetected sessions))
  | begun (pid : Nat) (process : Process) (processes : Table Running)
      (hprocess : process.isCredential = true)
      (hrows : processes.rows = st.processes.rows ++ [⟨pid, process⟩]) :
      StepEffect { st with processes := processes }
  | moved (db : SessionDb) (pid : Nat) (process : Process)
      (hsessions : db.userSessions = st.db.userSessions)
      (husers : db.users = st.db.users)
      (hprocess : process.isCredential = true) :
      StepEffect (SessionState.become { st with db := db } pid process)
  | sawDeleted (pid : Nat) (userId : String) (begun : List String)
      (hinactive : InactiveUser st.db userId) :
      StepEffect (st.become pid (.deletionDeleted userId begun))
  | stopped (pid : Nat) : StepEffect (st.exit pid)
  | changed (pid : Nat) (userId : String) (begun : List String) :
      StepEffect ((st.withSessions
        (revokeAllByUserId st.sessions st.now userId)).complete pid userId
          begun)
  | reset (pid : Nat) (userId passwordHash : String) (begun : List String)
      (hcall : st.process? pid = some (.resetChecked userId begun))
      (haction : action = .resetWrite pid passwordHash) :
      StepEffect (SessionState.complete
        { st with db := updatePassword st.db st.now userId passwordHash } pid
        userId begun)
  | marked (pid : Nat) (userId : String) (begun : List String)
      (deletionDueAt : Instant) (db : SessionDb)
      (hmark : markAsDeleted st.db st.now userId deletionDueAt = some db) :
      StepEffect (SessionState.complete { st with db := db } pid userId begun)
  | scheduled (pid : Nat) (userId : String) (begun : List String)
      (hcall : st.process? pid = some (.deletionDeleted userId begun)) :
      StepEffect (st.complete pid userId begun)

variable {env st action} {next : SessionState}

theorem StepEffect.sameDb (pid : Nat) (process : Process)
    (hprocess : process.isCredential = true) :
    StepEffect env st action (st.become pid process) :=
  .moved st.db pid process rfl rfl hprocess

theorem start_effect {pid : Nat} {process : Process}
    (hprocess : process.isCredential = true)
    (hstart : st.start pid process = some next) :
    StepEffect env st action next := by
  rw [SessionState.start, Option.map_eq_some_iff] at hstart
  obtain ⟨processes, hinsert, rfl⟩ := hstart
  exact .begun pid process processes hprocess
    (Table.insert?_eq_some hinsert).2

theorem createSession_effect {id userId accessToken refreshToken : String}
    {ipAddress userAgent : Option String}
    (hcreate : createSession env st id userId accessToken refreshToken
      ipAddress userAgent = some next) : StepEffect env st action next := by
  unfold createSession at hcreate
  dsimp only at hcreate
  split at hcreate
  case isTrue hguard =>
    rw [Bool.and_eq_true, Bool.and_eq_true] at hguard
    rw [Option.map_eq_some_iff] at hcreate
    obtain ⟨sessions, hinsert, rfl⟩ := hcreate
    obtain ⟨hid, hrows⟩ := Table.insert?_eq_some hinsert
    exact .created id userId accessToken refreshToken ipAddress userAgent
      sessions hguard.1.1 hid hrows
  case isFalse => cases hcreate

theorem createPasswordToken_effect {id userId token : String}
    (hcreate : createPasswordToken env st id userId token = some next) :
    StepEffect env st action next := by
  rw [createPasswordToken, Option.map_eq_some_iff] at hcreate
  obtain ⟨tokens, -, rfl⟩ := hcreate
  exact .written _ (Tightened.refl _) rfl

theorem refreshFind_effect {pid : Nat} {token : String}
    (hfind : refreshFind env st pid token = some next) :
    StepEffect env st action next := by
  unfold refreshFind at hfind
  split at hfind
  case h_1 hnone =>
    cases hfind
    exact .missed token hnone
  case h_2 session user hsome =>
    split at hfind
    case isTrue =>
      cases hfind
      exact .inactive token session user hsome
    case isFalse hactive =>
      rw [SessionState.start, Option.map_eq_some_iff] at hfind
      obtain ⟨processes, hinsert, rfl⟩ := hfind
      exact .found pid token session user processes hsome
        (not_not.mp hactive) (Table.insert?_eq_some hinsert).2

theorem refreshRotate_effect {pid : Nat} {accessToken refreshToken : String}
    (hrotate : refreshRotate env st pid accessToken refreshToken = some next) :
    StepEffect env st action next := by
  unfold refreshRotate at hrotate
  split at hrotate
  case h_1 call hcall =>
    split at hrotate
    case isTrue =>
      cases hrotate
      exact .stopped pid
    case isFalse =>
      split at hrotate
      case isTrue hfresh =>
        dsimp only at hrotate
        split at hrotate
        case isTrue hany =>
          cases hrotate
          exact .rotated pid call accessToken refreshToken _ hcall hfresh
            (List.any_eq_true.mp hany) rfl
        case isFalse hnone =>
          rw [rotateTokens_of_lost (Bool.eq_false_iff.mpr hnone)] at hrotate
          cases hrotate
          exact .lost pid call accessToken refreshToken hcall hfresh
      case isFalse => cases hrotate
  case h_2 => cases hrotate

theorem refreshRevoke_effect {pid : Nat}
    (hrevoke : refreshRevoke st pid = some next) :
    StepEffect env st action next := by
  unfold refreshRevoke at hrevoke
  split at hrevoke
  case h_1 call hcall =>
    cases hrevoke
    exact .reused pid call _ hcall rfl
  case h_2 => cases hrevoke

theorem changeVerify_effect {pid : Nat}
    (hverify : changeVerify env st pid = some next) :
    StepEffect env st action next := by
  unfold changeVerify at hverify
  split at hverify
  case h_1 userId password begun hcall =>
    split at hverify <;> cases hverify
    · exact .sameDb pid (.changeVerified userId begun) rfl
    · exact .stopped pid
  case h_2 => cases hverify

theorem changeWrite_effect {pid : Nat} {passwordHash : String}
    (hwrite : changeWrite st pid passwordHash = some next) :
    StepEffect env st action next := by
  unfold changeWrite at hwrite
  split at hwrite <;> cases hwrite
  exact .moved _ pid _ rfl rfl rfl

theorem changeRevokeAll_effect {pid : Nat}
    (hrevoke : changeRevokeAll st pid = some next) :
    StepEffect env st action next := by
  unfold changeRevokeAll at hrevoke
  split at hrevoke <;> cases hrevoke
  exact .changed pid _ _

theorem resetConsume_effect {pid : Nat}
    (hconsume : resetConsume env st pid = some next) :
    StepEffect env st action next := by
  unfold resetConsume at hconsume
  split at hconsume
  case h_1 =>
    dsimp only at hconsume
    split at hconsume <;> cases hconsume
    · exact .stopped pid
    · exact .moved _ pid _ rfl rfl rfl
  case h_2 => cases hconsume

theorem resetFindUser_effect {pid : Nat}
    (hfind : resetFindUser st pid = some next) :
    StepEffect env st action next := by
  unfold resetFindUser at hfind
  split at hfind
  case h_1 userId begun hcall =>
    split at hfind
    case h_1 =>
      cases hfind
      exact .stopped pid
    case h_2 =>
      split at hfind <;> cases hfind
      · exact .stopped pid
      · exact .sameDb pid (.resetChecked userId begun) rfl
  case h_2 => cases hfind

theorem resetWrite_effect {pid : Nat} {passwordHash : String}
    (hwrite : resetWrite st pid passwordHash = some next) :
    StepEffect env st (.resetWrite pid passwordHash) next := by
  unfold resetWrite at hwrite
  split at hwrite
  case h_1 userId begun hcall =>
    cases hwrite
    exact .reset pid userId passwordHash begun hcall rfl
  case h_2 => cases hwrite

theorem inactiveUser_of_first {user : User} {userId : String}
    (hfirst : (st.db.users.first? fun user => user.id == userId) = some user)
    (hstatus : user.status ≠ .active) : InactiveUser st.db userId := by
  obtain ⟨hmem, hid⟩ := Table.mem_of_first? hfirst
  intro other hother hsame
  rw [st.db.users.eq_of_key_eq hother hmem
    (hsame.trans (beq_iff_eq.mp hid).symm)]
  exact hstatus

theorem deletionFindUser_effect {pid : Nat}
    (hfind : deletionFindUser st pid = some next) :
    StepEffect env st action next := by
  unfold deletionFindUser at hfind
  split at hfind
  case h_1 userId reauth begun hcall =>
    split at hfind
    case h_1 =>
      cases hfind
      exact .stopped pid
    case h_2 user hfirst =>
      split at hfind
      case h_1 =>
        cases hfind
        exact .stopped pid
      case h_2 hdeleted =>
        cases hfind
        exact .sawDeleted pid userId begun
          (inactiveUser_of_first hfirst (by simp [hdeleted]))
      case h_3 =>
        cases hfind
        exact .sameDb pid (.deletionActive userId reauth begun) rfl
  case h_2 => cases hfind

theorem deletionReauth_effect {pid : Nat} {mfaVerified : Bool}
    (hreauth : deletionReauth env st pid mfaVerified = some next) :
    StepEffect env st action next := by
  unfold deletionReauth at hreauth
  split at hreauth
  case h_1 userId reauth begun hcall =>
    dsimp only at hreauth
    repeat' split at hreauth
    all_goals cases hreauth
    -- Four refusals, then the one way on.
    · exact .stopped pid
    · exact .stopped pid
    · exact .stopped pid
    · exact .stopped pid
    · exact .sameDb pid (.deletionReauthed userId begun) rfl
  case h_2 => cases hreauth

theorem inactiveUser_of_markAsDeleted {now : Instant} {userId : String}
    {deletionDueAt : Instant}
    (hmark : markAsDeleted st.db now userId deletionDueAt = none) :
    InactiveUser st.db userId := by
  unfold markAsDeleted at hmark
  split at hmark
  case isTrue => cases hmark
  case isFalse hnone =>
    intro user huser hid hactive
    apply hnone
    rw [List.any_eq_true]
    exact ⟨user, huser, by simp [isActiveUser, hid, hactive]⟩

theorem deletionMark_effect {pid : Nat}
    (hmark : deletionMark env st pid = some next) :
    StepEffect env st action next := by
  unfold deletionMark at hmark
  split at hmark
  case h_1 userId begun hcall =>
    split at hmark
    case h_1 =>
      cases hmark
      exact .stopped pid
    case h_2 deletionDueAt hdue =>
      split at hmark
      case h_1 db hdb =>
        cases hmark
        exact .marked pid userId begun deletionDueAt db hdb
      case h_2 hnone =>
        cases hmark
        exact .sawDeleted pid userId begun
          (inactiveUser_of_markAsDeleted hnone)
  case h_2 => cases hmark

theorem deletionFindSchedule_effect {pid : Nat}
    (hfind : deletionFindSchedule st pid = some next) :
    StepEffect env st action next := by
  unfold deletionFindSchedule at hfind
  split at hfind
  case h_1 userId begun hcall =>
    split at hfind <;> cases hfind
    · exact .scheduled pid userId begun hcall
    · exact .stopped pid
  case h_2 => cases hfind

theorem step_effect
    (hstep : st.step env action = some next) :
    StepEffect env st action next := by
  cases action with
  | tick now =>
      simp only [SessionState.step] at hstep
      split at hstep
      case isTrue hle =>
        cases hstep
        exact .tick now hle
      case isFalse => cases hstep
  | createSession => exact createSession_effect hstep
  | createPasswordToken => exact createPasswordToken_effect hstep
  | refreshFind => exact refreshFind_effect hstep
  | refreshRotate => exact refreshRotate_effect hstep
  | refreshRevoke => exact refreshRevoke_effect hstep
  | revoke =>
      cases hstep
      exact .written _ (tightened_revokeWhere _ _ _) rfl
  | revokeAllByUserId =>
      cases hstep
      exact .written _ (tightened_revokeWhere _ _ _) rfl
  | updateLastSeen =>
      cases hstep
      exact .written _ (tightened_updateLastSeen _ _ _) rfl
  | changeBegin => exact start_effect rfl hstep
  | changeVerify => exact changeVerify_effect hstep
  | changeWrite => exact changeWrite_effect hstep
  | changeRevokeAll => exact changeRevokeAll_effect hstep
  | resetBegin => exact start_effect rfl hstep
  | resetConsume => exact resetConsume_effect hstep
  | resetFindUser => exact resetFindUser_effect hstep
  | resetWrite => exact resetWrite_effect hstep
  | deletionBegin => exact start_effect rfl hstep
  | deletionFindUser => exact deletionFindUser_effect hstep
  | deletionReauth => exact deletionReauth_effect hstep
  | deletionMark => exact deletionMark_effect hstep
  | deletionFindSchedule => exact deletionFindSchedule_effect hstep

end Effect

theorem mem_of_process? {st : SessionState} {pid : Nat} {process : Process}
    (hprocess : st.process? pid = some process) :
    ∃ running ∈ st.processes, running.process = process := by
  rw [SessionState.process?, Option.map_eq_some_iff] at hprocess
  obtain ⟨running, hfirst, rfl⟩ := hprocess
  exact ⟨running, (Table.mem_of_first? hfirst).1, rfl⟩

/-- A refresh call between its lookup and its rotation. -/
def SessionState.InFlight (st : SessionState) (call : RefreshCall) : Prop :=
  ∃ running ∈ st.processes, running.process = .refreshFound call

section Change

variable (env : AuthEnv) (st next : SessionState)

/-- The four things a step can do to sessions, issued tokens and rotations. -/
inductive SessionChange : Prop where
  | tightened (hsessions : Tightened st.sessions next.sessions)
      (hissued : next.issued = st.issued)
      (hrotations : next.rotations = st.rotations)
  | created (id userId accessToken refreshToken : String)
      (ipAddress userAgent : Option String)
      (hfresh : freshTokens env st accessToken refreshToken = true)
      (hrows : next.sessions.rows = st.sessions.rows ++
        [newSession env st id userId accessToken refreshToken ipAddress
          userAgent])
      (hissued : next.issued =
        issue env id accessToken refreshToken ++ st.issued)
      (hrotations : next.rotations = st.rotations)
  | rotated (call : RefreshCall) (accessToken refreshToken : String)
      (hcall : st.InFlight call)
      (hfresh : freshTokens env st accessToken refreshToken = true)
      (hcan : ∃ row ∈ st.sessions, canRotate call.sessionId
        (env.hashOpaqueToken call.token) row = true)
      (hsessions : next.sessions = (rotateTokens st.sessions st.now
        call.sessionId (env.hashOpaqueToken call.token)
        (tokenPair env st accessToken refreshToken)).1)
      (hissued : next.issued =
        issue env call.sessionId accessToken refreshToken ++ st.issued)
      (hrotations : next.rotations =
        ⟨call.token, call.sessionId⟩ :: st.rotations)
  | lost (call : RefreshCall) (accessToken refreshToken : String)
      (hfresh : freshTokens env st accessToken refreshToken = true)
      (hsessions : next.sessions = st.sessions)
      (hissued : next.issued =
        issue env call.sessionId accessToken refreshToken ++ st.issued)
      (hrotations : next.rotations = st.rotations)

variable {env st next}

theorem SessionChange.kept (hsessions : next.sessions = st.sessions)
    (hissued : next.issued = st.issued)
    (hrotations : next.rotations = st.rotations) :
    SessionChange env st next :=
  .tightened (hsessions ▸ Tightened.refl st.sessions) hissued hrotations

theorem markAsDeleted_sessions {db after : SessionDb} {now : Instant}
    {userId : String} {deletionDueAt : Instant}
    (hmark : markAsDeleted db now userId deletionDueAt = some after) :
    after.userSessions = revokeWhere db.userSessions now
      fun session => session.userId == userId := by
  unfold markAsDeleted at hmark
  split at hmark <;> cases hmark
  rfl

theorem StepEffect.sessionChange {action : Action}
    (heffect : StepEffect env st action next) :
    SessionChange env st next := by
  cases heffect with
  | written db hsessions => exact .tightened hsessions rfl rfl
  | created id userId accessToken refreshToken ipAddress userAgent sessions
      hfresh hid hrows =>
      exact .created id userId accessToken refreshToken ipAddress userAgent
        hfresh hrows rfl rfl
  | rotated pid call accessToken refreshToken sessions hcall hfresh hcan
      hsessions =>
      exact .rotated call accessToken refreshToken (mem_of_process? hcall)
        hfresh hcan hsessions rfl rfl
  | lost pid call accessToken refreshToken hcall hfresh =>
      exact .lost call accessToken refreshToken hfresh rfl rfl rfl
  | reused pid call sessions hcall hsessions =>
      subst hsessions
      exact .tightened (tightened_revokeWhere _ _ _) rfl rfl
  | moved db pid process hsessions => exact .kept hsessions rfl rfl
  | changed => exact .tightened (tightened_revokeWhere _ _ _) rfl rfl
  | marked pid userId begun deletionDueAt db hmark =>
      refine .tightened ?_ rfl rfl
      change Tightened st.db.userSessions db.userSessions
      rw [markAsDeleted_sessions hmark]
      exact tightened_revokeWhere _ _ _
  | tick => exact .kept rfl rfl rfl
  | missed => exact .kept rfl rfl rfl
  | inactive => exact .kept rfl rfl rfl
  | found => exact .kept rfl rfl rfl
  | begun => exact .kept rfl rfl rfl
  | sawDeleted => exact .kept rfl rfl rfl
  | stopped => exact .kept rfl rfl rfl
  | reset => exact .kept rfl rfl rfl
  | scheduled => exact .kept rfl rfl rfl

theorem step_change {action : Action}
    (hstep : st.step env action = some next) : SessionChange env st next :=
  (step_effect hstep).sessionChange

end Change

section Processes

variable (env : AuthEnv) (st : SessionState)

/-- How a call comes to what it has to do next. -/
inductive Arrival : Process → Prop where
  | found (token : String) (session : UserSession) (user : User)
      (hfind : findByRefreshTokenHash st.db st.now
        (env.hashOpaqueToken token) = some (session, user))
      (hactive : user.status = .active) :
      Arrival (.refreshFound
        ⟨token, session.id, session.userId, st.snapshot⟩)
  | lost (call : RefreshCall)
      (hcall : st.InFlight call) :
      Arrival (.refreshLost call)
  | sawDeleted (userId : String) (begun : List String)
      (hinactive : InactiveUser st.db userId) :
      Arrival (.deletionDeleted userId begun)
  | credential (process : Process)
      (hprocess : process.isCredential = true) : Arrival process

variable {env st} {next : SessionState}

/-- The process is one of before, or `Arrival` says where it comes from. -/
def Arrived (env : AuthEnv) (st : SessionState) (running : Running) : Prop :=
  running ∈ st.processes ∨ Arrival env st running.process

theorem arrived_append {processes : Table Running} {pid : Nat}
    {process : Process} (harrival : Arrival env st process)
    (hrows : processes.rows = st.processes.rows ++ [⟨pid, process⟩]) :
    ∀ running ∈ processes, Arrived env st running := by
  intro running hrunning
  rw [← mem_rows, hrows, List.mem_append, List.mem_singleton] at hrunning
  rcases hrunning with hold | rfl
  · exact Or.inl hold
  · exact Or.inr harrival

theorem arrived_become {other : SessionState} {pid : Nat} {process : Process}
    (harrival : Arrival env st process)
    (hsame : other.processes = st.processes) :
    ∀ running ∈ (other.become pid process).processes,
      Arrived env st running := by
  intro running hrunning
  rw [SessionState.become, Table.mem_update, hsame] at hrunning
  obtain ⟨old, hold, rfl⟩ := hrunning
  by_cases hpid : (old.pid == pid) = true
  · rw [if_pos hpid]
    exact Or.inr harrival
  · rw [if_neg hpid]
    exact Or.inl hold

theorem arrived_exit {other : SessionState} (pid : Nat)
    (hsame : other.processes = st.processes) :
    ∀ running ∈ (other.exit pid).processes, Arrived env st running := by
  intro running hrunning
  rw [SessionState.exit, Table.mem_delete, hsame] at hrunning
  exact Or.inl hrunning.1

theorem StepEffect.arrived {action : Action}
    (heffect : StepEffect env st action next) :
    ∀ running ∈ next.processes, Arrived env st running := by
  cases heffect with
  | found pid token session user processes hfind hactive hrows =>
      exact arrived_append (.found token session user hfind hactive) hrows
  | begun pid process processes hprocess hrows =>
      exact arrived_append (.credential process hprocess) hrows
  | lost pid call accessToken refreshToken hcall hfresh =>
      exact arrived_become (.lost call (mem_of_process? hcall)) rfl
  | moved db pid process hsessions husers hprocess =>
      exact arrived_become (.credential process hprocess) rfl
  | sawDeleted pid userId begun hinactive =>
      exact arrived_become (.sawDeleted userId begun hinactive) rfl
  | rotated pid => exact arrived_exit pid rfl
  | reused pid => exact arrived_exit pid rfl
  | stopped pid => exact arrived_exit pid rfl
  | changed pid => exact arrived_exit pid rfl
  | reset pid => exact arrived_exit pid rfl
  | marked pid => exact arrived_exit pid rfl
  | scheduled pid => exact arrived_exit pid rfl
  | tick => exact fun running hrunning => Or.inl hrunning
  | written => exact fun running hrunning => Or.inl hrunning
  | created => exact fun running hrunning => Or.inl hrunning
  | missed => exact fun running hrunning => Or.inl hrunning
  | inactive => exact fun running hrunning => Or.inl hrunning

end Processes

end IdProvider
