/-
`refresh` of `auth-core`, statement by statement, in the transaction that its
own rejections roll back.
-/
import IdProvider.Sessions
import IdProvider.Transactions

namespace IdProvider

open Interleaving JsonText KeyedTable Transactions

/-! ## The transaction -/

structure CoreRefreshDb where
  userSessions : Table UserSession
  securityEvents : Table SecurityEvent

/-- What a statement has written and nobody else sees yet. -/
inductive CoreRefreshWrite where
  | rotateTokens (sessionId : String) (now : Instant) (pair : TokenPair)
  | revokeSession (sessionId : String) (now : Instant)
  | insertEvent (event : SecurityEvent)

def CoreRefreshDb.write (db : CoreRefreshDb) :
    CoreRefreshWrite → CoreRefreshDb
  | .rotateTokens sessionId now pair =>
      { db with
        userSessions := db.userSessions.update
          (fun session => session.id == sessionId)
          (fun session => session.withTokens now pair)
          (UserSession.key_withTokens now pair) }
  | .revokeSession sessionId now =>
      { db with userSessions := revoke db.userSessions now sessionId }
  | .insertEvent event =>
      { db with
        securityEvents :=
          (db.securityEvents.insert? event).getD db.securityEvents }

/-- A rejection for reuse: what is thrown, and what was written before. -/
structure ReuseRejection where
  error : ApiError
  sessionId : Option String
  event : SecurityEvent
  writes : List CoreRefreshWrite

/-- A rejection whose event is still to be written. -/
structure ReuseReport where
  error : ApiError
  sessionId : Option String
  event : SecurityEventInput
  writes : List CoreRefreshWrite

inductive CoreRefreshTxn where
  | selecting (refreshToken : String)
  | updating (tokenHash sessionId userId : String)
  | revoking (sessionId userId : String)
  | reporting (report : ReuseReport)
  | throwing (rejection : ReuseRejection)
  | returning (sessionId : String) (now : Instant) (pair : TokenPair)

/-- What the clock and the generators give a statement, and whether it fails:
for the database, or for the authorization snapshot or the callback for
security events behind it. -/
structure CoreRefreshInput where
  now : Instant
  accessToken : String
  refreshToken : String
  eventId : String
  eventCreatedAt : Timestamp
  fails : Bool

/-- `runInTransaction`, when its handler is done: nothing of what was done
through `tx` is left once it throws. -/
def runInTransaction (db : CoreRefreshDb)
    (result : Except ApiError (List CoreRefreshWrite)) :
    Outcome CoreRefreshDb CoreRefreshTxn String :=
  match result with
  | .ok writes => .commit (writes.foldl CoreRefreshDb.write db)
  | .error _ => .stop

/-! ## Its statements -/

namespace CoreRefresh

variable (env : AuthEnv)

def isRefreshable (now : Instant) (tokenHash : String)
    (session : UserSession) : Bool :=
  session.refreshTokenHash == tokenHash && session.revokedAt.isNone &&
    session.refreshExpiresAt.after now

def holdsToken (sessionId tokenHash : String) (session : UserSession) :
    Bool :=
  session.id == sessionId && session.refreshTokenHash == tokenHash

def tokenPair (input : CoreRefreshInput) : TokenPair where
  accessTokenHash := env.hashOpaqueToken input.accessToken
  refreshTokenHash := env.hashOpaqueToken input.refreshToken
  expiresAt := input.now + env.accessTokenTtlSeconds * 1000
  refreshExpiresAt := input.now + env.refreshTokenTtlSeconds * 1000

/-- The unique keys of the other sessions. -/
def isTaken (sessionId : String) (pair : TokenPair)
    (session : UserSession) : Bool :=
  session.id != sessionId &&
    (session.accessTokenHash == pair.accessTokenHash ||
      session.refreshTokenHash == pair.refreshTokenHash)

def missed (tokenHash : String) : ReuseReport where
  error := ⟨401, "invalid_refresh_token", "Invalid refresh token"⟩
  sessionId := none
  event :=
    { eventType := "refresh_token.reuse_detected"
      userId := none
      payload := .obj [("refreshTokenHash", .str tokenHash)] }
  writes := []

def lost (sessionId userId : String) (now : Instant) : ReuseReport where
  error := ⟨401, "invalid_refresh_token", "Refresh token reuse detected"⟩
  sessionId := some sessionId
  event :=
    { eventType := "refresh_token.reuse_detected"
      userId := some userId
      payload := .obj [("sessionId", .str sessionId)] }
  writes := [.revokeSession sessionId now]

def eventRow (input : CoreRefreshInput) (event : SecurityEventInput) :
    SecurityEvent where
  id := input.eventId
  userId := event.userId
  eventType := event.eventType
  payload := event.payload
  createdAt := input.eventCreatedAt

def rejection (input : CoreRefreshInput) (report : ReuseReport) :
    ReuseRejection where
  error := report.error
  sessionId := report.sessionId
  event := eventRow input report.event
  writes := report.writes ++ [.insertEvent (eventRow input report.event)]

/-- The statement that comes next, when it does not fail.  An update locks its
row until the transaction is over. -/
def answered (db : CoreRefreshDb) (input : CoreRefreshInput) :
    CoreRefreshTxn → Outcome CoreRefreshDb CoreRefreshTxn String
  | .selecting refreshToken =>
      match db.userSessions.first? (isRefreshable input.now
          (env.hashOpaqueToken refreshToken)) with
      | none =>
          .proceed (.reporting (missed (env.hashOpaqueToken refreshToken))) []
      | some session =>
          .proceed (.updating (env.hashOpaqueToken refreshToken) session.id
            session.userId) []
  | .updating tokenHash sessionId userId =>
      if !(tokenPair env input).storable then .stop
      else if db.userSessions.rows.any (holdsToken sessionId tokenHash) then
        if db.userSessions.rows.any
            (isTaken sessionId (tokenPair env input)) then .stop
        else
          .proceed (.returning sessionId input.now (tokenPair env input))
            [sessionId]
      else .proceed (.revoking sessionId userId) []
  | .revoking sessionId userId =>
      .proceed (.reporting (lost sessionId userId input.now)) [sessionId]
  | .reporting report =>
      if (db.securityEvents.insert?
          (eventRow input report.event)).isSome then
        .proceed (.throwing (rejection input report)) []
      else .stop
  | .throwing rejection => runInTransaction db (.error rejection.error)
  | .returning sessionId now pair =>
      runInTransaction db (.ok [.rotateTokens sessionId now pair])

def statement (db : CoreRefreshDb) (_ : String → Bool)
    (txn : CoreRefreshTxn) (input : CoreRefreshInput) :
    Outcome CoreRefreshDb CoreRefreshTxn String :=
  match txn with
  | .throwing rejection => answered env db input (.throwing rejection)
  | txn => if input.fails then .stop else answered env db input txn

/-- A call is its refresh token; only calls of `refresh` run. -/
def code : Code CoreRefreshDb CoreRefreshTxn String String CoreRefreshInput
    Empty where
  start := .selecting
  statement := statement env
  environment _ _ := none

end CoreRefresh

abbrev CoreRefreshPool : Type :=
  Pool (Store CoreRefreshDb String) (Thread CoreRefreshTxn String) Nat

abbrev CoreRefreshAction : Type :=
  Interleaving.Action String CoreRefreshInput Empty Nat

/-! ## What the statements do -/

namespace CoreRefresh

section Effects

variable (env : AuthEnv) (db : CoreRefreshDb) (input : CoreRefreshInput)

/-- Everything that a statement can come to. -/
inductive Effect : CoreRefreshTxn →
    Outcome CoreRefreshDb CoreRefreshTxn String → Prop
  | stopped (txn : CoreRefreshTxn) : Effect txn .stop
  | missed (refreshToken : String)
      (hnone : db.userSessions.first? (isRefreshable input.now
        (env.hashOpaqueToken refreshToken)) = none) :
      Effect (.selecting refreshToken)
        (.proceed (.reporting
          (CoreRefresh.missed (env.hashOpaqueToken refreshToken))) [])
  | found (refreshToken : String) (session : UserSession)
      (hfound : db.userSessions.first? (isRefreshable input.now
        (env.hashOpaqueToken refreshToken)) = some session) :
      Effect (.selecting refreshToken)
        (.proceed (.updating (env.hashOpaqueToken refreshToken) session.id
          session.userId) [])
  | updated (tokenHash sessionId userId : String)
      (hheld : db.userSessions.rows.any (holdsToken sessionId tokenHash) =
        true) :
      Effect (.updating tokenHash sessionId userId)
        (.proceed (.returning sessionId input.now (tokenPair env input))
          [sessionId])
  | lost (tokenHash sessionId userId : String)
      (hlost : db.userSessions.rows.any (holdsToken sessionId tokenHash) =
        false) :
      Effect (.updating tokenHash sessionId userId)
        (.proceed (.revoking sessionId userId) [])
  | revoked (sessionId userId : String) :
      Effect (.revoking sessionId userId)
        (.proceed (.reporting
          (CoreRefresh.lost sessionId userId input.now)) [sessionId])
  | reported (report : ReuseReport)
      (hfresh : ∀ row ∈ db.securityEvents, row.id ≠ input.eventId) :
      Effect (.reporting report)
        (.proceed (.throwing (rejection input report)) [])
  | returned (sessionId : String) (now : Instant) (pair : TokenPair) :
      Effect (.returning sessionId now pair)
        (.commit (db.write (.rotateTokens sessionId now pair)))

variable {env db input}

theorem effect_answered (txn : CoreRefreshTxn) :
    Effect env db input txn (answered env db input txn) := by
  cases txn with
  | selecting refreshToken =>
      rw [answered]
      split
      case h_1 hnone => exact .missed refreshToken hnone
      case h_2 session hfound => exact .found refreshToken session hfound
  | updating tokenHash sessionId userId =>
      rw [answered]
      split
      case isTrue => exact .stopped _
      case isFalse =>
        split
        case isTrue hheld =>
          split
          case isTrue => exact .stopped _
          case isFalse => exact .updated tokenHash sessionId userId hheld
        case isFalse hlost =>
          exact .lost tokenHash sessionId userId (Bool.eq_false_iff.mpr hlost)
  | revoking sessionId userId => exact .revoked sessionId userId
  | reporting report =>
      rw [answered]
      split
      case isTrue hinserted =>
        obtain ⟨after, hafter⟩ := Option.isSome_iff_exists.mp hinserted
        exact .reported report (Table.insert?_eq_some hafter).1
      case isFalse => exact .stopped _
  | throwing rejection => exact .stopped _
  | returning sessionId now pair => exact .returned sessionId now pair

theorem effect_statement (busy : String → Bool) (txn : CoreRefreshTxn) :
    Effect env db input txn (statement env db busy txn input) := by
  unfold statement
  split
  case h_1 rejection => exact .stopped _
  case h_2 =>
    split
    case isTrue => exact .stopped txn
    case isFalse => exact effect_answered txn

end Effects

variable {env : AuthEnv} {db after : CoreRefreshDb} (busy : String → Bool)
  {txn : CoreRefreshTxn} {input : CoreRefreshInput} {locks : List String}

/-- Only a rotation commits, and it writes no event. -/
theorem events_of_commit
    (hcommit : statement env db busy txn input = .commit after) :
    after.securityEvents = db.securityEvents := by
  have heffect : Effect env db input txn _ := effect_statement busy txn
  rw [hcommit] at heffect
  cases heffect with
  | returned sessionId now pair => rfl

/-- The event of a rejection is not one of the committed ones. -/
theorem event_of_throwing {rejection : ReuseRejection}
    (hproceed : statement env db busy txn input =
      .proceed (.throwing rejection) locks) :
    rejection.event ∉ db.securityEvents := by
  have heffect : Effect env db input txn _ := effect_statement busy txn
  rw [hproceed] at heffect
  cases heffect with
  | reported report hfresh => exact fun hmem => hfresh _ hmem rfl

/-- The statement finds a live session with the token, or still finds the
token, unless it fails. -/
def Hits (env : AuthEnv) (db : CoreRefreshDb) (txn : CoreRefreshTxn)
    (input : CoreRefreshInput) : Prop :=
  match txn with
  | .selecting refreshToken =>
      ∃ session, db.userSessions.first? (isRefreshable input.now
        (env.hashOpaqueToken refreshToken)) = some session
  | .updating tokenHash sessionId _ =>
      db.userSessions.rows.any (holdsToken sessionId tokenHash) = true
  | _ => True

/-- The transaction is on the way to new tokens. -/
def Refreshing : CoreRefreshTxn → Prop
  | .selecting _ => True
  | .updating _ _ _ => True
  | .returning _ _ _ => True
  | _ => False

theorem refreshing_of_proceed {next : CoreRefreshTxn}
    (hrefreshing : Refreshing txn) (hhits : Hits env db txn input)
    (hproceed : statement env db busy txn input = .proceed next locks) :
    Refreshing next := by
  have heffect : Effect env db input txn _ := effect_statement busy txn
  rw [hproceed] at heffect
  cases heffect with
  | missed refreshToken hnone =>
      obtain ⟨session, hfound⟩ := hhits
      rw [hnone] at hfound
      cases hfound
  | found refreshToken session hfound => trivial
  | updated tokenHash sessionId userId hheld => trivial
  | lost tokenHash sessionId userId hlost =>
      rw [Hits, hlost] at hhits
      cases hhits
  | revoked sessionId userId => exact hrefreshing.elim
  | reported report hfresh => exact hrefreshing.elim

end CoreRefresh

/-! ## Rejected calls -/

/-- What stands of a rejection: its event, and the session revoked. -/
structure ReuseRejection.Stands (rejection : ReuseRejection)
    (db : CoreRefreshDb) : Prop where
  event : rejection.event ∈ db.securityEvents
  session : ∀ sessionId, rejection.sessionId = some sessionId →
    ∃ row ∈ db.userSessions, row.id = sessionId ∧
      row.revokedAt.isSome = true

section Rejected

variable (env : AuthEnv) (pool : CoreRefreshPool)
  (action : CoreRefreshAction)

/-- The step is the `throw` of a rejection. -/
def RejectsNow (rejection : ReuseRejection) : Prop :=
  ∃ id input thread, action = .advance id input ∧
    pool.thread id = some thread ∧ thread.txn = .throwing rejection

/-- Where a call is rejected for reuse, what it did about that is committed
afterwards. -/
def ReuseDurable : Prop :=
  ∀ rejection next, RejectsNow pool action rejection →
    step (program (CoreRefresh.code env)) pool action = some next →
    rejection.Stands next.shared.db

/-- No call has come to a rejection for reuse. -/
def NotRejected : Prop :=
  ∀ rejection, ¬ RejectsNow pool action rejection

end Rejected

section Runs

variable {env : AuthEnv} {pool next : CoreRefreshPool}
  {action : CoreRefreshAction}

/-- The events that rejections are about to report are not committed. -/
def EventsPending (pool : CoreRefreshPool) : Prop :=
  ∀ id thread rejection, pool.thread id = some thread →
    thread.txn = .throwing rejection →
    rejection.event ∉ pool.shared.db.securityEvents

/-- No step of `refresh` changes the committed events. -/
theorem events_of_step
    (hstep : step (program (CoreRefresh.code env)) pool action =
      some next) :
    next.shared.db.securityEvents = pool.shared.db.securityEvents := by
  rcases step_db (CoreRefresh.code env) hstep with
    hsame | ⟨busy, txn, input, hcommit⟩ | ⟨event, henvironment⟩
  · rw [hsame]
  · exact CoreRefresh.events_of_commit busy hcommit
  · cases henvironment

theorem EventsPending.step (hpending : EventsPending pool)
    (hstep : step (program (CoreRefresh.code env)) pool action =
      some next) : EventsPending next := by
  intro id thread rejection hthread hthrowing
  rw [events_of_step hstep]
  rcases thread_of_step _ hstep hthread with
    ⟨-, hold⟩ | ⟨call, -, hstart⟩ | ⟨input, old, -, hold, hadvance⟩
  · exact hpending id thread rejection hold hthrowing
  · rw [← hstart] at hthrowing
    cases hthrowing
  · obtain ⟨busy, locks, hproceed⟩ := advance_eq_some_some hadvance
    rw [hthrowing] at hproceed
    exact CoreRefresh.event_of_throwing busy hproceed

/-- The throw of a rejection leaves the committed tables as they were. -/
theorem step_of_rejects {rejection : ReuseRejection}
    (hrejects : RejectsNow pool action rejection) :
    ∃ next, step (program (CoreRefresh.code env)) pool action = some next ∧
      next.shared.db = pool.shared.db := by
  obtain ⟨id, input, thread, rfl, hthread, hthrowing⟩ := hrejects
  have hadvance : advance (CoreRefresh.code env) pool.shared thread input =
      some (release pool.shared thread, none) := by
    rw [advance, hthrowing]
    rfl
  refine ⟨pool.set id (release pool.shared thread) none, ?_, rfl⟩
  dsimp only [Interleaving.step]
  rw [hthread]
  change (advance (CoreRefresh.code env) pool.shared thread input).map _ = _
  rw [hadvance]
  rfl

theorem reuseDurable_iff (hpending : EventsPending pool) :
    ReuseDurable env pool action ↔ NotRejected pool action := by
  constructor
  · intro hdurable rejection hrejects
    have hthrow : ∃ next, step (program (CoreRefresh.code env)) pool action =
        some next ∧ next.shared.db = pool.shared.db :=
      step_of_rejects hrejects
    obtain ⟨next, hstep, hsame⟩ := hthrow
    have hstands := hdurable rejection next hrejects hstep
    rw [hsame] at hstands
    obtain ⟨id, input, thread, -, hthread, hthrowing⟩ := hrejects
    exact hpending id thread rejection hthread hthrowing hstands.event
  · intro hnone rejection next hrejects
    exact absurd hrejects (hnone rejection)

def refreshDiscipline : Discipline CoreRefreshDb CoreRefreshTxn String where
  DbOk _ := True
  TxnOk _ _ txn := CoreRefresh.Refreshing txn
  Respects _ _ _ := True

theorem refreshDiscipline_sound (env : AuthEnv) :
    refreshDiscipline.Sound (CoreRefresh.code env)
      (CoreRefresh.Hits env) where
  start db call hdb := trivial
  proceed db busy held txn input next locks hdb hrefreshing hhits hproceed :=
    CoreRefresh.refreshing_of_proceed busy hrefreshing hhits hproceed
  commit db busy held txn input after hdb hrefreshing hhits hcommit :=
    ⟨trivial, trivial⟩
  stable db after others held txn hrespects hapart hrefreshing := hrefreshing
  environment db event after hdb henvironment := by cases henvironment

/-- Where every call finds its token current, none is rejected for reuse. -/
theorem notRejected_of_hits (db : CoreRefreshDb)
    {actions : List CoreRefreshAction}
    (hhits : StepSystem.Along (step (program (CoreRefresh.code env)))
      (Meets (OnStatements (CoreRefresh.Hits env))) (initial db) actions) :
    StepSystem.Along (step (program (CoreRefresh.code env))) NotRejected
      (initial db) actions := by
  have hinductive := (refreshDiscipline_sound env).inductive
  refine hhits.of_preserved _ refreshDiscipline.invariant.Holds
    (fun _ _ _ hholds hmeets hstep => hinductive.step hholds hmeets hstep)
    ?_ (Invariant.holds_start trivial)
  intro pool action hholds hmeets rejection hrejects
  obtain ⟨id, input, thread, -, hthread, hthrowing⟩ := hrejects
  have hrefreshing : CoreRefresh.Refreshing thread.txn :=
    (hholds.thread id thread hthread).2
  rw [hthrowing] at hrefreshing
  exact hrefreshing

end Runs

/-- From any state of the tables, the reactions to reuse of an interleaving of
`refresh` calls are durable exactly when none of the calls is rejected for
reuse. -/
theorem reuseDurable_along_iff (env : AuthEnv) (db : CoreRefreshDb)
    (actions : List CoreRefreshAction) :
    StepSystem.Along (step (program (CoreRefresh.code env)))
        (ReuseDurable env) (initial db) actions ↔
      StepSystem.Along (step (program (CoreRefresh.code env)))
        NotRejected (initial db) actions := by
  apply StepSystem.along_iff _ EventsPending
  · exact fun pool action next hpending hstep => hpending.step hstep
  · exact fun pool action hpending => reuseDurable_iff hpending
  · intro id thread rejection hthread
    cases hthread

namespace CoreRefreshWitness

def env : AuthEnv where
  argon2Verify := fun _ _ => false
  hashOpaqueToken := fun token => token
  accessTokenTtlSeconds := 900
  refreshTokenTtlSeconds := 2592000
  accountDeletionGraceDays := 30

def session : UserSession where
  id := "session"
  userId := "user"
  accessTokenHash := "at_1"
  refreshTokenHash := "rt_1"
  ipAddress := none
  userAgent := none
  expiresAt := .ofInstant 1777205700000
  refreshExpiresAt := .ofInstant 1779796800000
  revokedAt := none
  lastSeenAt := 1777204800000
  createdAt := 1777204800000

def db : CoreRefreshDb where
  userSessions := ⟨[session], by decide⟩
  securityEvents := .empty

/-- The tokens of a call. -/
def input (suffix : String) : CoreRefreshInput where
  now := 1777204860000
  accessToken := "at_" ++ suffix
  refreshToken := "rt_" ++ suffix
  eventId := "event"
  eventCreatedAt := .ofInstant 1777204860000
  fails := false

/-- Two calls with one token; the second loses. -/
def race : List CoreRefreshAction :=
  [.spawn 0 "rt_1", .spawn 1 "rt_1", .advance 0 (input "2"),
    .advance 1 (input "3"), .advance 0 (input "2"), .advance 0 (input "2"),
    .advance 1 (input "3"), .advance 1 (input "3"), .advance 1 (input "3")]

def reused : ReuseRejection :=
  CoreRefresh.rejection (input "3")
    (CoreRefresh.lost "session" "user" 1777204860000)

def lostPool : CoreRefreshPool :=
  StepSystem.after (step (program (CoreRefresh.code env))) (initial db) race

theorem lostPool_rejects :
    RejectsNow lostPool (.advance 1 (input "3")) reused :=
  ⟨1, input "3", ⟨.throwing reused, ["session"]⟩, rfl, rfl, rfl⟩

theorem not_reuseDurable :
    ¬ ∀ (env : AuthEnv) (db : CoreRefreshDb)
      (actions : List CoreRefreshAction),
      StepSystem.Along (step (program (CoreRefresh.code env)))
        (ReuseDurable env) (initial db) actions := by
  intro hclaim
  have halong := hclaim env db (race ++ [.advance 1 (input "3")])
  have hrun : StepSystem.run (step (program (CoreRefresh.code env)))
      (initial db) race = some lostPool := StepSystem.run_after _ rfl
  have hdurable := (halong.rest _ hrun).1
  obtain ⟨next, hstep, hsame⟩ :
      ∃ next, step (program (CoreRefresh.code env)) lostPool
        (.advance 1 (input "3")) = some next ∧
        next.shared.db = lostPool.shared.db :=
    step_of_rejects lostPool_rejects
  have hstands := (hdurable reused next lostPool_rejects hstep).event
  rw [hsame] at hstands
  exact absurd hstands (Table.not_mem_empty reused.event)

end CoreRefreshWitness

end IdProvider
