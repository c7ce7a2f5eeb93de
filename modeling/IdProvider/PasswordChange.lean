/-
Logins beside password changes, one part of a call at a time: which sessions
opened with a replaced password are left.
-/
import IdProvider.GoogleLinking
import IdProvider.Histories
import IdProvider.Interleaving
import IdProvider.LoginParts

namespace IdProvider

open Interleaving KeyedTable ServiceCall AuthService

/-! ## The parts of a password change -/

/-- `POST /v1/password/change`, with the hash that `hashPassword` draws. -/
structure ChangeRequest where
  userId : String
  currentPassword : String
  passwordHash : String

inductive ChangePhase where
  | readingHash
  | verifying (password : Option UserPassword)
  | writing
  | revoking (ticket : Nat)
  | done

/-- The route: `changePassword`, then `revokeAllSessions`. -/
def changeRoute (env : GoogleEnv) (request : ChangeRequest) : Service Unit := do
  UserService.changePassword env request.userId request.currentPassword
    request.passwordHash
  AccountState.revokeAllByUserId request.userId

namespace ChangePhase

variable (env : GoogleEnv) (request : ChangeRequest)

def invalidPassword {Value : Type} : Service Value :=
  throwApi 401 "invalid_password" "Current password is incorrect"

/-- `newTicket` is taken when the new hash is written. -/
def next (newTicket : Nat) : ChangePhase → Service ChangePhase
  | .readingHash => do
      let user ← select fun db =>
        findWithPasswordById db.toSessionDb request.userId
      pure (.verifying (user.map Prod.snd))
  | .verifying none => invalidPassword
  | .verifying (some password) => do
      let isValidPassword ← Service.verifyPassword env.toLoginEnv
        request.currentPassword password.passwordHash
      if isValidPassword then pure .writing else invalidPassword
  | .writing => do
      UserRepository.setPasswordHash request.userId request.passwordHash
      pure (.revoking newTicket)
  | .revoking _ => do
      AccountState.revokeAllByUserId request.userId
      pure .done
  | .done => pure .done

/-- What is left of the call. -/
def remaining : ChangePhase → Service Unit
  | .readingHash => changeRoute env request
  | .verifying none => invalidPassword
  | .verifying (some password) => do
      let isValidPassword ← Service.verifyPassword env.toLoginEnv
        request.currentPassword password.passwordHash
      if isValidPassword then do
        UserRepository.setPasswordHash request.userId request.passwordHash
        AccountState.revokeAllByUserId request.userId
      else invalidPassword
  | .writing => do
      UserRepository.setPasswordHash request.userId request.passwordHash
      AccountState.revokeAllByUserId request.userId
  | .revoking _ => AccountState.revokeAllByUserId request.userId
  | .done => pure ()

theorem remaining_eq (newTicket : Nat) (phase : ChangePhase) :
    phase.remaining env request =
      phase.next env request newTicket >>= remaining env request := by
  cases phase with
  | readingHash =>
      simp only [remaining, next, changeRoute, UserService.changePassword,
        UserService.verifyCurrentPassword, bind_assoc, pure_bind]
      congr 1
      funext user
      rcases user with _ | ⟨user, password⟩
      · rfl
      · simp only [Option.map_some, bind_assoc, ite_bind, pure_bind]
        rfl
  | verifying password =>
      rcases password with _ | password
      · rfl
      · simp only [remaining, next, bind_assoc, ite_bind, pure_bind]
        rfl
  | writing => simp only [remaining, next, bind_assoc, pure_bind]
  | revoking ticket =>
      simp only [remaining, next, bind_assoc, pure_bind, bind_pure_unit]
  | done => rfl

end ChangePhase

/-! ## Logins and changes side by side -/

/-- What the history of a run says about passwords and sessions. -/
inductive PasswordEvent where
  | hashRead (login : Nat) (userId : String)
  | opened (login : Nat) (userId sessionId : String)
  | written (change : Nat) (userId : String)
  | completed (change : Nat) (userId : String)
  deriving DecidableEq

/-- `history` is a ghost: what has happened, in order. -/
structure PasswordStore where
  service : ServiceState
  history : List PasswordEvent

inductive PasswordCall where
  | login (input : LoginInput) (draw : SessionDraw)
  | change (request : ChangeRequest)

inductive PasswordThread where
  | login (input : LoginInput) (draw : SessionDraw) (phase : LoginPhase)
  | change (request : ChangeRequest) (phase : ChangePhase)

/-- What other requests do to sessions meanwhile. -/
inductive SessionEvent where
  | revoke (now : Instant) (sessionId : String)
  | rotateTokens (now : Instant) (sessionId currentRefreshTokenHash : String)
      (input : TokenPair)
  | updateLastSeen (now : Instant) (sessionId : String)

def SessionEvent.apply (sessions : Table UserSession) :
    SessionEvent → Table UserSession
  | .revoke now sessionId => IdProvider.revoke sessions now sessionId
  | .rotateTokens now sessionId currentRefreshTokenHash input =>
      (IdProvider.rotateTokens sessions now sessionId currentRefreshTokenHash
        input).1
  | .updateLastSeen now sessionId =>
      IdProvider.updateLastSeen sessions now sessionId

def ServiceState.sessions (st : ServiceState) : Table UserSession :=
  st.db.userSessions

def ServiceState.withSessions (st : ServiceState)
    (sessions : Table UserSession) : ServiceState :=
  st.withDb { st.db with userSessions := sessions }

/-- What a step of a login adds to the history. -/
def LoginPhase.events : LoginPhase → LoginPhase → List PasswordEvent
  | .readingHash, .verifying ticket (some user) =>
      [.hashRead ticket user.user.id]
  | .opening ticket userId _ _, .done (.ok _ session _ _) =>
      [.opened ticket userId session.sessionId]
  | _, _ => []

def LoginPhase.thread (input : LoginInput) (draw : SessionDraw) :
    LoginPhase → Option PasswordThread
  | .done _ => none
  | phase => some (.login input draw phase)

def ChangePhase.events (request : ChangeRequest) :
    ChangePhase → ChangePhase → List PasswordEvent
  | .writing, .revoking ticket => [.written ticket request.userId]
  | .revoking ticket, .done => [.completed ticket request.userId]
  | _, _ => []

def ChangePhase.thread (request : ChangeRequest) :
    ChangePhase → Option PasswordThread
  | .done => none
  | phase => some (.change request phase)

namespace PasswordStore

/-- One part of a call; an error ends it. -/
def perform {Phase : Type} (store : PasswordStore) (part : Service Phase)
    (events : Phase → List PasswordEvent)
    (thread : Phase → Option PasswordThread) :
    PasswordStore × Option PasswordThread :=
  match part store.service with
  | (.ok phase, service) =>
      (⟨service, store.history ++ events phase⟩, thread phase)
  | (.error _, service) => (⟨service, store.history⟩, none)

def advance (env : GoogleEnv) (store : PasswordStore) :
    PasswordThread → PasswordStore × Option PasswordThread
  | .login input draw phase =>
      store.perform
        (phase.next env.toLoginEnv input draw store.history.length)
        phase.events (LoginPhase.thread input draw)
  | .change request phase =>
      store.perform (phase.next env request store.history.length)
        (phase.events request) (ChangePhase.thread request)

end PasswordStore

def passwordProgram (env : GoogleEnv) :
    Program PasswordStore PasswordThread PasswordCall Unit SessionEvent where
  start
    | .login input draw => .login input draw .readingHash
    | .change request => .change request .readingHash
  advance store thread _ := some (store.advance env thread)
  abort store _ := store
  environment store event :=
    some
      { store with
        service := store.service.withSessions
          (event.apply store.service.db.userSessions) }

/-! ## The claim -/

/-- The login has read a hash that the change has replaced since. -/
def ReadBefore (history : List PasswordEvent) (login change : Nat)
    (userId : String) : Prop :=
  ([PasswordEvent.hashRead login userId] ++
    [PasswordEvent.written change userId]).Sublist history

instance (history : List PasswordEvent) (login change : Nat)
    (userId : String) : Decidable (ReadBefore history login change userId) :=
  inferInstanceAs (Decidable (List.Sublist _ history))

/-- No session is left that was opened by verifying a password which a
completed change has replaced. -/
def PasswordStore.NoSessionSurvives (store : PasswordStore) : Prop :=
  ∀ login change userId sessionId,
    ReadBefore store.history login change userId →
    .opened login userId sessionId ∈ store.history →
    .completed change userId ∈ store.history →
    ∀ session ∈ store.service.sessions, session.id = sessionId →
      session.revokedAt.isSome = true

/-- The insert of a session succeeds. -/
structure CanOpen (env : LoginEnv) (draw : SessionDraw) (st : ServiceState) :
    Prop where
  answers : (st.readings (st.ticks + 2)).fails = false
  expires : (storedDate ((st.readings st.ticks).now +
    env.accessTokenTtlSeconds * 1000)).isSome = true
  refreshExpires : (storedDate ((st.readings (st.ticks + 1)).now +
    env.refreshTokenTtlSeconds * 1000)).isSome = true
  fresh : ∀ session ∈ st.db.userSessions, session.id ≠ draw.id ∧
    session.accessTokenHash ≠ env.hashOpaqueToken draw.accessToken ∧
    session.refreshTokenHash ≠ env.hashOpaqueToken draw.refreshToken

/-- A login inserts its session before any change that has written since the
hash was read is through. -/
def OpensInTime (env : GoogleEnv) (store : PasswordStore) :
    PasswordThread → Unit → Prop
  | .login _ draw (.opening ticket userId _ _), _ =>
      CanOpen env.toLoginEnv draw store.service →
        ∀ change, ReadBefore store.history ticket change userId →
          .completed change userId ∉ store.history
  | _, _ => True

/-! ## Frames -/

section Frames

variable {Value : Type}

theorem keepsSessions {call : Service Value}
    (hcall : Keeps ServiceState.accounts call) :
    Keeps ServiceState.sessions call :=
  hcall.comp fun accounts => accounts.1.userSessions

theorem keepsSessions_recordAttempt (email : String) (success : Bool)
    (ipAddress : Option String) :
    Keeps ServiceState.sessions
      (AuthRepository.recordAttempt email success ipAddress) :=
  fun st => congrArg (fun db : AccountDb => db.userSessions)
    (recordAttempt_spec email success ipAddress st).1

theorem keepsSessions_rejectPassword (input : LoginInput) :
    Keeps ServiceState.sessions (rejectPassword input) := by
  apply (keepsSessions_recordAttempt _ _ _).bind
  intro _
  apply (keepsSessions (keeps_serviceEvent _ _ _)).bind
  exact fun _ => keeps_fail _

theorem keepsSessions_rejectInactive (input : LoginInput) (user : User) :
    Keeps ServiceState.sessions (rejectInactive input user) :=
  (keepsSessions (keeps_serviceEvent _ _ _)).bind fun _ => keeps_fail _

theorem keepsSessions_enforceMfa (env : LoginEnv) (userId : String)
    (ipAddress : Option String) (mfa : MfaInput) :
    Keeps ServiceState.sessions
      (enforceMfaForLogin env userId ipAddress mfa) :=
  fun st => (enforceMfaForLogin_spec ipAddress mfa st).1

theorem keepsSessions_admitLogin (env : LoginEnv) (input : LoginInput)
    (userId : String) :
    Keeps ServiceState.sessions (admitLogin env input userId) := by
  have hstop : ∀ eventType payload status code message,
      Keeps ServiceState.sessions (do
        createSecurityEvent eventType (some userId) payload
        (throwApi status code message : Service Admission)) :=
    fun _ _ _ _ _ =>
      (keepsSessions (keeps_serviceEvent _ _ _)).bind fun _ => keeps_fail _
  apply (keepsSessions (returns_hasEnabledMfa userId).keeps).bind
  intro mfaEnabled
  apply (keepsSessions (keeps_of_reads (reads_assessLogin _ _ _ _))).bind
  intro adaptiveRisk
  apply keeps_ite
  · exact hstop _ _ _ _ _
  apply keeps_ite
  · exact hstop _ _ _ _ _
  apply keeps_ite
  · exact keeps_pure _
  apply keeps_ite
  · exact (keepsSessions_enforceMfa _ _ _ _).bind fun _ => keeps_pure _
  · exact keeps_pure _

/-- Up to the insert a login leaves the sessions alone. -/
theorem keepsSessions_login (env : LoginEnv) (input : LoginInput)
    (draw : SessionDraw) (newTicket : Nat) (phase : LoginPhase)
    (hphase : ∀ ticket userId mfaEnabled adaptiveRisk,
      phase ≠ .opening ticket userId mfaEnabled adaptiveRisk) :
    Keeps ServiceState.sessions (phase.next env input draw newTicket) := by
  cases phase with
  | readingHash =>
      apply keeps_ite
      · exact keeps_fail _
      · exact (keepsSessions (returns_select _).keeps).bind
          fun _ => keeps_pure _
  | verifying ticket user =>
      cases user with
      | none =>
          exact (keepsSessions_rejectPassword input).bind fun _ => keeps_pure _
      | some user =>
          apply (keepsSessions (returns_verifyPassword _ _ _).keeps).bind
          intro isValidPassword
          apply keeps_ite
          · exact keeps_pure _
          · exact (keepsSessions_rejectPassword input).bind
              fun _ => keeps_pure _
  | recording ticket user =>
      apply (keepsSessions_recordAttempt _ _ _).bind
      intro _
      apply keeps_ite
      · exact (keepsSessions_rejectInactive input user).bind
          fun _ => keeps_pure _
      · exact keeps_pure _
  | admitting ticket userId =>
      apply (keepsSessions_admitLogin env input userId).bind
      intro admission
      cases admission with
      | mfaRequired => exact keeps_pure _
      | admitted => exact keeps_pure _
  | opening ticket userId mfaEnabled adaptiveRisk =>
      exact absurd rfl (hphase _ _ _ _)
  | done result => exact keeps_pure _

/-- Up to the revocation a change leaves the sessions alone. -/
theorem keepsSessions_change (env : GoogleEnv) (request : ChangeRequest)
    (newTicket : Nat) (phase : ChangePhase)
    (hphase : ∀ ticket, phase ≠ .revoking ticket) :
    Keeps ServiceState.sessions (phase.next env request newTicket) := by
  cases phase with
  | readingHash =>
      exact (keepsSessions (returns_select _).keeps).bind fun _ => keeps_pure _
  | verifying password =>
      cases password with
      | none => exact keeps_fail _
      | some password =>
          apply (keepsSessions (returns_verifyPassword _ _ _).keeps).bind
          intro isValidPassword
          apply keeps_ite
          · exact keeps_pure _
          · exact keeps_fail _
  | writing =>
      have hwrite : Keeps ServiceState.sessions
          (UserRepository.setPasswordHash request.userId
            request.passwordHash) :=
        keepsView_external (fun _ => rfl) fun _ => fun _ => rfl
      exact hwrite.bind fun _ => keeps_pure _
  | revoking ticket => exact absurd rfl (hphase _)
  | done => exact keeps_pure _

end Frames

/-! ## Sessions -/

section Sessions

variable {env : LoginEnv} {draw : SessionDraw} {st : ServiceState}

/-- One unrevoked session of the user was inserted. -/
structure SessionOpened (before after : Table UserSession)
    (userId sessionId : String) : Prop where
  fresh : ∀ session ∈ before, session.id ≠ sessionId
  rows : ∃ session : UserSession, session.id = sessionId ∧
    session.userId = userId ∧ session.revokedAt = none ∧
    after.rows = before.rows ++ [session]

theorem insertSession_of_fresh (st : ServiceState) (row : UserSession)
    (hstorable : row.storable = true)
    (hfresh : ∀ session ∈ st.db.userSessions, session.id ≠ row.id ∧
      session.accessTokenHash ≠ row.accessTokenHash ∧
      session.refreshTokenHash ≠ row.refreshTokenHash) :
    ∃ sessions, insertSession row st = (.ok (), st.withSessions sessions) ∧
      sessions.rows = st.db.userSessions.rows ++ [row] := by
  have hkeys : ∀ old ∈ st.db.userSessions, key old ≠ key row :=
    fun old hold => (hfresh old hold).1
  obtain ⟨sessions, hinsert⟩ := Table.exists_insert? hkeys
  have hfree : (st.db.userSessions.rows.any fun session =>
      session.accessTokenHash == row.accessTokenHash ||
        session.refreshTokenHash == row.refreshTokenHash) = false := by
    rw [List.any_eq_false]
    intro session hsession
    obtain ⟨-, haccess, hrefresh⟩ := hfresh session hsession
    simp [haccess, hrefresh]
  refine ⟨sessions, ?_, (Table.insert?_eq_some hinsert).2⟩
  unfold insertSession
  rw [if_pos hstorable, hinsert, hfree]
  rfl

theorem insertSession_of_stale (st : ServiceState) (row : UserSession)
    (hstale : ¬ (row.storable = true ∧
      ∀ session ∈ st.db.userSessions, session.id ≠ row.id ∧
        session.accessTokenHash ≠ row.accessTokenHash ∧
        session.refreshTokenHash ≠ row.refreshTokenHash)) :
    ∃ error, insertSession row st = (.error error, st) := by
  unfold insertSession
  dsimp only
  split
  case isTrue hstorable =>
    split
    case h_1 => exact ⟨_, rfl⟩
    case h_2 sessions hinsert =>
      split
      case isTrue => exact ⟨_, rfl⟩
      case isFalse hfree =>
        rw [Bool.not_eq_true, List.any_eq_false] at hfree
        refine absurd ⟨hstorable, fun session hsession => ?_⟩ hstale
        have hhashes := hfree session hsession
        simp only [Bool.or_eq_true, beq_iff_eq, not_or] at hhashes
        exact ⟨(Table.insert?_eq_some hinsert).1 session hsession, hhashes⟩
  case isFalse => exact ⟨_, rfl⟩

section CreateSession

variable (env draw st) (userId : String) (ipAddress userAgent : Option String)

/-- The row that `createSession` inserts, given what the clock shows. -/
def openedSession : UserSession where
  id := draw.id
  userId := userId
  accessTokenHash := env.hashOpaqueToken draw.accessToken
  refreshTokenHash := env.hashOpaqueToken draw.refreshToken
  ipAddress := ipAddress
  userAgent := userAgent
  expiresAt := .ofInstant
    ((st.readings st.ticks).now + env.accessTokenTtlSeconds * 1000)
  refreshExpiresAt := .ofInstant
    ((st.readings (st.ticks + 1)).now + env.refreshTokenTtlSeconds * 1000)
  revokedAt := none
  lastSeenAt := (st.readings (st.ticks + 2)).now
  createdAt := (st.readings (st.ticks + 2)).now

def issuedSession : IssuedSession where
  sessionId := draw.id
  accessToken := draw.accessToken
  refreshToken := draw.refreshToken
  accessExpiresAt := toISOString
    ((st.readings st.ticks).now + env.accessTokenTtlSeconds * 1000)
  refreshExpiresAt := toISOString
    ((st.readings (st.ticks + 1)).now + env.refreshTokenTtlSeconds * 1000)

theorem createSession_eq :
    AuthService.createSession env draw userId ipAddress userAgent st =
      (external (fun now => insertSession
        { openedSession env draw st userId ipAddress userAgent with
          lastSeenAt := now
          createdAt := now }) >>= fun _ =>
        pure (issuedSession env draw st)) (st.tick 2) := rfl

end CreateSession

/-- `createSession` when its insert succeeds. -/
theorem createSession_of_canOpen (hopen : CanOpen env draw st)
    (userId : String) (ipAddress userAgent : Option String) :
    ∃ sessions,
      AuthService.createSession env draw userId ipAddress userAgent st =
        (.ok (issuedSession env draw st), (st.tick 3).withSessions sessions) ∧
      SessionOpened st.db.userSessions sessions userId draw.id := by
  have hanswers : ((st.tick 2).readings (st.tick 2).ticks).fails = false :=
    hopen.answers
  obtain ⟨sessions, hinsert, hrows⟩ := insertSession_of_fresh (st.tick 3)
    (openedSession env draw st userId ipAddress userAgent)
    ((UserSession.storable_iff rfl rfl).mpr
      ⟨hopen.expires, hopen.refreshExpires⟩) hopen.fresh
  refine ⟨sessions, ?_, fun session hsession =>
    (hopen.fresh session hsession).1, _, rfl, rfl, rfl, hrows⟩
  rw [createSession_eq]
  exact bind_ok ((external_of_answers hanswers).trans hinsert)

theorem createSession_of_not_canOpen (hopen : ¬ CanOpen env draw st)
    (userId : String) (ipAddress userAgent : Option String) :
    ∃ error, AuthService.createSession env draw userId ipAddress userAgent st =
      (.error error, st.tick 3) := by
  rw [createSession_eq]
  by_cases hfails : ((st.tick 2).readings (st.tick 2).ticks).fails = true
  · exact ⟨_, bind_error (external_of_fails hfails)⟩
  · rw [Bool.not_eq_true] at hfails
    obtain ⟨error, hinsert⟩ := insertSession_of_stale (st.tick 3)
      (openedSession env draw st userId ipAddress userAgent) (by
        rintro ⟨hstorable, hfresh⟩
        obtain ⟨hexpires, hrefresh⟩ :=
          (UserSession.storable_iff rfl rfl).mp hstorable
        exact hopen ⟨hfails, hexpires, hrefresh, hfresh⟩)
    exact ⟨error, bind_error ((external_of_answers hfails).trans hinsert)⟩

end Sessions

/-- The last part of a login, when the insert succeeds. -/
theorem finishLogin_of_canOpen {env : LoginEnv} {draw : SessionDraw}
    {st : ServiceState} (hopen : CanOpen env draw st) (input : LoginInput)
    (userId : String) (userAgent : Option String) (mfaEnabled : Bool)
    (adaptiveRisk : AdaptiveRisk) :
    ∃ after, finishLogin env input draw userId userAgent mfaEnabled
        adaptiveRisk st =
        (.ok (.ok userId (issuedSession env draw st) mfaEnabled adaptiveRisk),
          after) ∧
      SessionOpened st.sessions after.sessions userId draw.id := by
  obtain ⟨sessions, hcreate, hopened⟩ :=
    createSession_of_canOpen hopen userId input.ipAddress userAgent
  let event := createSecurityEvent "login.success" (some userId)
    (.obj
      [("email", .str input.email),
        ("ipAddress", optionalText input.ipAddress),
        ("mfaEnabled", .bool mfaEnabled),
        ("adaptiveRiskLevel", adaptiveRisk.level.toJson),
        ("adaptiveRiskScore", natural adaptiveRisk.score),
        ("adaptiveRiskFactors", adaptiveRisk.factorsJson)])
  have hkept : (event ((st.tick 3).withSessions sessions)).2.sessions =
      sessions :=
    keepsSessions (keeps_serviceEvent _ _ _) _
  refine ⟨(event ((st.tick 3).withSessions sessions)).2, ?_, ?_⟩
  · exact bind_ok hcreate
  · rw [hkept]
    exact hopened

theorem finishLogin_of_not_canOpen {env : LoginEnv} {draw : SessionDraw}
    {st : ServiceState} (hopen : ¬ CanOpen env draw st) (input : LoginInput)
    (userId : String) (userAgent : Option String) (mfaEnabled : Bool)
    (adaptiveRisk : AdaptiveRisk) :
    ∃ error, finishLogin env input draw userId userAgent mfaEnabled
      adaptiveRisk st = (.error error, st.tick 3) := by
  obtain ⟨error, hcreate⟩ :=
    createSession_of_not_canOpen hopen userId input.ipAddress userAgent
  exact ⟨error, bind_error hcreate⟩

/-! ### Revoking -/

/-- The sessions stay what they are, and none is revived. -/
def Aged (before after : Table UserSession) : Prop :=
  ∃ age : UserSession → UserSession, after.rows = before.rows.map age ∧
    ∀ session, (age session).id = session.id ∧
      (age session).userId = session.userId ∧
      (session.revokedAt.isSome = true →
        (age session).revokedAt.isSome = true)

section Aged

variable {before after : Table UserSession}

theorem aged_of_eq (hsame : after = before) : Aged before after :=
  ⟨id, by rw [hsame, List.map_id], fun _ => ⟨rfl, rfl, id⟩⟩

theorem aged_update (sessions : Table UserSession)
    {where_ : UserSession → Bool} {set : UserSession → UserSession}
    (hkey : ∀ row, key (set row) = key row)
    (hset : ∀ session, (set session).id = session.id ∧
      (set session).userId = session.userId ∧
      (session.revokedAt.isSome = true →
        (set session).revokedAt.isSome = true)) :
    Aged sessions (sessions.update where_ set hkey) := by
  refine ⟨fun session => if where_ session then set session else session, rfl,
    fun session => ?_⟩
  dsimp only
  split
  case isTrue => exact hset session
  case isFalse => exact ⟨rfl, rfl, id⟩

theorem aged_event (sessions : Table UserSession) (event : SessionEvent) :
    Aged sessions (event.apply sessions) := by
  cases event with
  | revoke now sessionId =>
      exact aged_update sessions (UserSession.key_withRevokedAt now)
        fun _ => ⟨rfl, rfl, fun _ => rfl⟩
  | rotateTokens now sessionId currentRefreshTokenHash input =>
      exact aged_update sessions (UserSession.key_withTokens now input)
        fun _ => ⟨rfl, rfl, id⟩
  | updateLastSeen now sessionId =>
      apply aged_update sessions
      · exact fun _ => rfl
      · exact fun _ => ⟨rfl, rfl, id⟩

theorem Aged.mem_after (haged : Aged before after) {session : UserSession}
    (hsession : session ∈ after) :
    ∃ old ∈ before, session.id = old.id ∧ session.userId = old.userId ∧
      (old.revokedAt.isSome = true → session.revokedAt.isSome = true) := by
  obtain ⟨age, hrows, hage⟩ := haged
  rw [← mem_rows, hrows, List.mem_map] at hsession
  obtain ⟨old, hold, rfl⟩ := hsession
  exact ⟨old, hold, hage old⟩

theorem Aged.mem_before (haged : Aged before after) {old : UserSession}
    (hold : old ∈ before) :
    ∃ session ∈ after, session.id = old.id ∧ session.userId = old.userId := by
  obtain ⟨age, hrows, hage⟩ := haged
  refine ⟨age old, ?_, (hage old).1, (hage old).2.1⟩
  rw [← mem_rows, hrows]
  exact List.mem_map_of_mem hold

end Aged

theorem revokeAllByUserId_eq (userId : String) :
    AccountState.revokeAllByUserId userId = external fun now =>
      change fun st => st.withSessions
        (revokeAllByUserId st.db.userSessions now userId) := rfl

theorem revokeAllByUserId_error {st after : ServiceState} {userId : String}
    {error : Failure}
    (hrevoke : AccountState.revokeAllByUserId userId st =
      (.error error, after)) : after.sessions = st.sessions := by
  rw [revokeAllByUserId_eq] at hrevoke
  by_cases hfails : (st.readings st.ticks).fails = true
  · rw [external_of_fails hfails] at hrevoke
    cases hrevoke
    rfl
  · rw [Bool.not_eq_true] at hfails
    rw [external_of_answers hfails] at hrevoke
    cases hrevoke

/-- `revokeAllByUserId` when it succeeds. -/
theorem revokeAllByUserId_spec {st after : ServiceState} {userId : String}
    (hrevoke : AccountState.revokeAllByUserId userId st = (.ok (), after)) :
    Aged st.sessions after.sessions ∧
      ∀ session ∈ after.sessions, session.userId = userId →
        session.revokedAt.isSome = true := by
  rw [revokeAllByUserId_eq] at hrevoke
  by_cases hfails : (st.readings st.ticks).fails = true
  · rw [external_of_fails hfails] at hrevoke
    cases hrevoke
  · rw [Bool.not_eq_true] at hfails
    rw [external_of_answers hfails] at hrevoke
    cases hrevoke
    constructor
    · exact aged_update _ (UserSession.key_withRevokedAt _)
        fun _ => ⟨rfl, rfl, fun _ => rfl⟩
    · intro session hsession howner
      apply revoked_of_revokeWhere hsession
      intro old _ hsame
      rw [hsame, howner]
      cases old.revokedAt <;> simp

/-! ## What a step does -/

/-- Everything a part of a call can do to the sessions and the history. -/
inductive PasswordEffect (env : GoogleEnv) (store : PasswordStore)
    (thread : PasswordThread) :
    List PasswordEvent → ServiceState → Option PasswordThread → Prop where
  | quiet (service : ServiceState) (next : Option PasswordThread)
      (hsessions : service.sessions = store.service.sessions)
      (hopen : OpensInTime env store thread ())
      (hnext : ∀ request ticket,
        next ≠ some (.change request (.revoking ticket))) :
      PasswordEffect env store thread [] service next
  | read (ticket : Nat) (userId : String) (service : ServiceState)
      (next : Option PasswordThread)
      (hsessions : service.sessions = store.service.sessions)
      (hopen : OpensInTime env store thread ())
      (hnext : ∀ request ticket,
        next ≠ some (.change request (.revoking ticket))) :
      PasswordEffect env store thread [.hashRead ticket userId] service next
  | opened (input : LoginInput) (draw : SessionDraw) (ticket : Nat)
      (userId : String) (mfaEnabled : Bool) (adaptiveRisk : AdaptiveRisk)
      (service : ServiceState)
      (hthread : thread =
        .login input draw (.opening ticket userId mfaEnabled adaptiveRisk))
      (hcan : CanOpen env.toLoginEnv draw store.service)
      (hopened : SessionOpened store.service.sessions service.sessions userId
        draw.id) :
      PasswordEffect env store thread [.opened ticket userId draw.id] service
        none
  | written (request : ChangeRequest) (service : ServiceState)
      (hthread : thread = .change request .writing)
      (hsessions : service.sessions = store.service.sessions) :
      PasswordEffect env store thread
        [.written store.history.length request.userId] service
        (some (.change request (.revoking store.history.length)))
  | completed (request : ChangeRequest) (ticket : Nat) (service : ServiceState)
      (hthread : thread = .change request (.revoking ticket))
      (haged : Aged store.service.sessions service.sessions)
      (hrevoked : ∀ session ∈ service.sessions,
        session.userId = request.userId → session.revokedAt.isSome = true) :
      PasswordEffect env store thread [.completed ticket request.userId]
        service none

section Advance

variable {env : GoogleEnv} {store : PasswordStore}

/-- What a step led to, as an effect on the store. -/
def HasEffect (env : GoogleEnv) (store : PasswordStore)
    (thread : PasswordThread)
    (result : PasswordStore × Option PasswordThread) : Prop :=
  ∃ events service, result.1 = ⟨service, store.history ++ events⟩ ∧
    PasswordEffect env store thread events service result.2

theorem PasswordStore.perform_ok {Phase : Type} {part : Service Phase}
    {events : Phase → List PasswordEvent}
    {thread : Phase → Option PasswordThread} {phase : Phase}
    {service : ServiceState}
    (hpart : part store.service = (.ok phase, service)) :
    store.perform part events thread =
      (⟨service, store.history ++ events phase⟩, thread phase) := by
  rw [perform, hpart]

theorem PasswordStore.perform_error {Phase : Type} {part : Service Phase}
    {events : Phase → List PasswordEvent}
    {thread : Phase → Option PasswordThread} {error : Failure}
    {service : ServiceState}
    (hpart : part store.service = (.error error, service)) :
    store.perform part events thread = (⟨service, store.history⟩, none) := by
  rw [perform, hpart]

theorem hasEffect_quiet {thread : PasswordThread} {service : ServiceState}
    {next : Option PasswordThread}
    (hsessions : service.sessions = store.service.sessions)
    (hopen : OpensInTime env store thread ())
    (hnext : ∀ request ticket,
      next ≠ some (.change request (.revoking ticket))) :
    HasEffect env store thread (⟨service, store.history⟩, next) :=
  ⟨[], service, by rw [List.append_nil],
    .quiet service next hsessions hopen hnext⟩

theorem LoginPhase.thread_ne (input : LoginInput) (draw : SessionDraw)
    (phase : LoginPhase) (request : ChangeRequest) (ticket : Nat) :
    phase.thread input draw ≠ some (.change request (.revoking ticket)) := by
  cases phase <;> exact nofun

theorem LoginPhase.events_cases (before after : LoginPhase)
    (hbefore : ∀ ticket userId mfaEnabled adaptiveRisk,
      before ≠ .opening ticket userId mfaEnabled adaptiveRisk) :
    before.events after = [] ∨
      ∃ ticket userId, before.events after = [.hashRead ticket userId] := by
  unfold LoginPhase.events
  split
  case h_1 => exact .inr ⟨_, _, rfl⟩
  case h_2 => exact absurd rfl (hbefore _ _ _ _)
  case h_3 => exact .inl rfl

/-- A login before its last part. -/
theorem login_effect (input : LoginInput) (draw : SessionDraw)
    (phase : LoginPhase)
    (hphase : ∀ ticket userId mfaEnabled adaptiveRisk,
      phase ≠ .opening ticket userId mfaEnabled adaptiveRisk) :
    HasEffect env store (.login input draw phase)
      (store.advance env (.login input draw phase)) := by
  have hopen : OpensInTime env store (.login input draw phase) () := by
    cases phase with
    | opening => exact absurd rfl (hphase _ _ _ _)
    | _ => trivial
  have hkept := keepsSessions_login env.toLoginEnv input draw
    store.history.length phase hphase store.service
  dsimp only [PasswordStore.advance]
  rcases hpart : phase.next env.toLoginEnv input draw store.history.length
    store.service with ⟨error | following, service⟩
  · rw [PasswordStore.perform_error hpart]
    rw [hpart] at hkept
    exact hasEffect_quiet hkept hopen nofun
  · rw [PasswordStore.perform_ok hpart]
    rw [hpart] at hkept
    have hnext := LoginPhase.thread_ne input draw following
    refine ⟨phase.events following, service, rfl, ?_⟩
    rcases LoginPhase.events_cases phase following hphase with
      hevents | ⟨ticket, userId, hevents⟩
    · rw [hevents]
      exact .quiet service _ hkept hopen hnext
    · rw [hevents]
      exact .read ticket userId service _ hkept hopen hnext

/-- The last part of a login. -/
theorem opening_effect (input : LoginInput) (draw : SessionDraw)
    (ticket : Nat) (userId : String) (mfaEnabled : Bool)
    (adaptiveRisk : AdaptiveRisk) :
    HasEffect env store
      (.login input draw (.opening ticket userId mfaEnabled adaptiveRisk))
      (store.advance env
        (.login input draw
          (.opening ticket userId mfaEnabled adaptiveRisk))) := by
  dsimp only [PasswordStore.advance]
  by_cases hcan : CanOpen env.toLoginEnv draw store.service
  · obtain ⟨service, hfinish, hopened⟩ := finishLogin_of_canOpen hcan input
      userId (buildSessionUserAgent input.userAgent input.deviceId) mfaEnabled
      adaptiveRisk
    have hpart : (LoginPhase.opening ticket userId mfaEnabled
        adaptiveRisk).next env.toLoginEnv input draw store.history.length
          store.service = _ := bind_ok hfinish
    rw [PasswordStore.perform_ok hpart]
    exact ⟨_, service, rfl, .opened input draw ticket userId mfaEnabled
      adaptiveRisk service rfl hcan hopened⟩
  · obtain ⟨error, hfinish⟩ := finishLogin_of_not_canOpen hcan input
      userId (buildSessionUserAgent input.userAgent input.deviceId) mfaEnabled
      adaptiveRisk
    have hpart : (LoginPhase.opening ticket userId mfaEnabled
        adaptiveRisk).next env.toLoginEnv input draw store.history.length
          store.service = _ := bind_error hfinish
    rw [PasswordStore.perform_error hpart]
    exact hasEffect_quiet rfl (fun hopen => absurd hopen hcan) nofun

/-- A change before it writes. -/
theorem changeQuiet_effect (request : ChangeRequest) (phase : ChangePhase)
    (hphase : ∀ ticket, phase ≠ .revoking ticket) (hwriting : phase ≠ .writing)
    (hnext : ∀ following service,
      phase.next env request store.history.length store.service =
        (.ok following, service) → ∀ ticket, following ≠ .revoking ticket) :
    HasEffect env store (.change request phase)
      (store.advance env (.change request phase)) := by
  have hkept := keepsSessions_change env request store.history.length phase
    hphase store.service
  dsimp only [PasswordStore.advance]
  rcases hpart : phase.next env request store.history.length store.service with
    ⟨error | following, service⟩
  · rw [PasswordStore.perform_error hpart]
    rw [hpart] at hkept
    exact hasEffect_quiet hkept trivial nofun
  · rw [PasswordStore.perform_ok hpart]
    rw [hpart] at hkept
    have hevents : phase.events request following = [] := by
      unfold ChangePhase.events
      split
      case h_1 => exact absurd rfl hwriting
      case h_2 => exact absurd rfl (hphase _)
      case h_3 => rfl
    have hthread : ∀ other ticket,
        following.thread request ≠ some (.change other (.revoking ticket)) := by
      intro other ticket hsome
      have hticket := hnext following service hpart
      cases following with
      | revoking => exact hticket _ rfl
      | done => cases hsome
      | _ => cases hsome
    refine ⟨phase.events request following, service, rfl, ?_⟩
    rw [hevents]
    exact .quiet service _ hkept trivial hthread

theorem change_effect (request : ChangeRequest) (phase : ChangePhase) :
    HasEffect env store (.change request phase)
      (store.advance env (.change request phase)) := by
  cases phase with
  | readingHash =>
      apply changeQuiet_effect request .readingHash nofun nofun
      intro following service hpart
      rcases hread : select (fun db =>
        findWithPasswordById db.toSessionDb request.userId) store.service with
        ⟨error | user, after⟩
      · have herror := (bind_error hread).symm.trans hpart
        cases herror
      · have hok := (bind_ok hread).symm.trans hpart
        cases hok
        exact nofun
  | verifying password =>
      apply changeQuiet_effect request (.verifying password) nofun nofun
      intro following service hpart
      cases password with
      | none => cases hpart
      | some password =>
          rcases hverify : Service.verifyPassword env.toLoginEnv
            request.currentPassword password.passwordHash store.service with
            ⟨error | isValidPassword, after⟩
          · have herror := (bind_error hverify).symm.trans hpart
            cases herror
          · have hok := (bind_ok hverify).symm.trans hpart
            cases isValidPassword with
            | true =>
                cases hok
                exact nofun
            | false => cases hok
  | writing =>
      have hkept := keepsSessions_change env request store.history.length
        .writing nofun store.service
      dsimp only [PasswordStore.advance]
      rcases hwrite : UserRepository.setPasswordHash request.userId
        request.passwordHash store.service with ⟨error | _, service⟩
      · have hpart : ChangePhase.writing.next env request store.history.length
            store.service = _ := bind_error hwrite
        rw [PasswordStore.perform_error hpart]
        rw [hpart] at hkept
        exact hasEffect_quiet hkept trivial nofun
      · have hpart : ChangePhase.writing.next env request store.history.length
            store.service = _ := bind_ok hwrite
        rw [PasswordStore.perform_ok hpart]
        rw [hpart] at hkept
        exact ⟨_, service, rfl, .written request service rfl hkept⟩
  | revoking ticket =>
      dsimp only [PasswordStore.advance]
      rcases hrevoke : AccountState.revokeAllByUserId request.userId
        store.service with ⟨error | _, service⟩
      · have hpart : (ChangePhase.revoking ticket).next env request
            store.history.length store.service = _ := bind_error hrevoke
        rw [PasswordStore.perform_error hpart]
        exact hasEffect_quiet (revokeAllByUserId_error hrevoke) trivial nofun
      · have hpart : (ChangePhase.revoking ticket).next env request
            store.history.length store.service = _ := bind_ok hrevoke
        obtain ⟨haged, hrevoked⟩ := revokeAllByUserId_spec hrevoke
        rw [PasswordStore.perform_ok hpart]
        exact ⟨_, service, rfl,
          .completed request ticket service rfl haged hrevoked⟩
  | done =>
      apply changeQuiet_effect request .done nofun nofun
      intro following service hpart
      cases hpart
      exact nofun

theorem advance_effect (thread : PasswordThread) :
    HasEffect env store thread (store.advance env thread) := by
  cases thread with
  | change request phase => exact change_effect request phase
  | login input draw phase =>
      cases phase with
      | opening ticket userId mfaEnabled adaptiveRisk =>
          exact opening_effect input draw ticket userId mfaEnabled adaptiveRisk
      | _ => exact login_effect input draw _ nofun

end Advance

/-! ## Every interleaving -/

/-- Sessions of the history are stored, and tickets are older than it. -/
structure PasswordStore.Recorded (store : PasswordStore) : Prop where
  opened : ∀ login userId sessionId,
    .opened login userId sessionId ∈ store.history →
      ∃ session ∈ store.service.sessions,
        session.id = sessionId ∧ session.userId = userId
  completed : ∀ change userId, .completed change userId ∈ store.history →
    change < store.history.length

def TicketTaken (store : PasswordStore) : PasswordThread → Prop
  | .change _ (.revoking ticket) => ticket < store.history.length
  | _ => True

def passwordInvariant : Invariant PasswordStore PasswordThread where
  SharedOk := PasswordStore.Recorded
  ThreadOk := TicketTaken
  Apart _ _ := True

section Invariant

variable {env : GoogleEnv} {store : PasswordStore} {service : ServiceState}

theorem TicketTaken.later {thread : PasswordThread}
    (htaken : TicketTaken store thread) (events : List PasswordEvent) :
    TicketTaken ⟨service, store.history ++ events⟩ thread := by
  unfold TicketTaken at htaken ⊢
  split
  case h_1 =>
    rw [List.length_append]
    exact Nat.lt_add_right _ htaken
  case h_2 => trivial

theorem ticketTaken_of_ne {thread : PasswordThread}
    (hthread : ∀ request ticket, thread ≠ .change request (.revoking ticket)) :
    TicketTaken store thread := by
  unfold TicketTaken
  split
  case h_1 => exact absurd rfl (hthread _ _)
  case h_2 => trivial

/-- The sessions age, and the history records nothing or something else. -/
theorem PasswordStore.Recorded.later (hok : store.Recorded)
    (haged : Aged store.service.sessions service.sessions)
    {events : List PasswordEvent}
    (hopened : ∀ login userId sessionId,
      .opened login userId sessionId ∉ events)
    (hcompleted : ∀ change userId, .completed change userId ∈ events →
      change < store.history.length) :
    PasswordStore.Recorded ⟨service, store.history ++ events⟩ := by
  constructor
  · intro login userId sessionId hevent
    rcases List.mem_append.mp hevent with hold | hnew
    · obtain ⟨session, hsession, hid, howner⟩ :=
        hok.opened login userId sessionId hold
      obtain ⟨kept, hkept, hsameId, hsameOwner⟩ := haged.mem_before hsession
      exact ⟨kept, hkept, hsameId.trans hid, hsameOwner.trans howner⟩
    · exact absurd hnew (hopened login userId sessionId)
  · intro change userId hevent
    rw [List.length_append]
    rcases List.mem_append.mp hevent with hold | hnew
    · exact Nat.lt_add_right _ (hok.completed change userId hold)
    · exact Nat.lt_add_right _ (hcompleted change userId hnew)

theorem PasswordStore.Recorded.opens (hok : store.Recorded) {ticket : Nat}
    {userId sessionId : String}
    (hopened : SessionOpened store.service.sessions service.sessions userId
      sessionId) :
    PasswordStore.Recorded
      ⟨service, store.history ++ [.opened ticket userId sessionId]⟩ := by
  obtain ⟨session, hid, howner, -, hrows⟩ := hopened.rows
  constructor
  · intro login other otherId hevent
    rcases List.mem_append.mp hevent with hold | hnew
    · obtain ⟨kept, hkept, hsame⟩ := hok.opened login other otherId hold
      refine ⟨kept, ?_, hsame⟩
      rw [← mem_rows, hrows]
      exact List.mem_append_left _ hkept
    · cases List.mem_singleton.mp hnew
      refine ⟨session, ?_, hid, howner⟩
      rw [← mem_rows, hrows]
      exact List.mem_append_right _ (List.mem_singleton_self session)
  · intro change other hevent
    rw [List.length_append]
    rcases List.mem_append.mp hevent with hold | hnew
    · exact Nat.lt_add_right _ (hok.completed change other hold)
    · cases List.mem_singleton.mp hnew

/-! ### The surviving sessions -/

/-- No session that the newest event lets survive. -/
theorem PasswordStore.NoSessionSurvives.later
    (hgood : store.NoSessionSurvives)
    (haged : Aged store.service.sessions service.sessions)
    {events : List PasswordEvent}
    (hread : ∀ login change userId,
      .completed change userId ∈ store.history ++ events →
      ReadBefore (store.history ++ events) login change userId →
        ReadBefore store.history login change userId ∧
          .completed change userId ∈ store.history)
    (hopened : ∀ login userId sessionId,
      .opened login userId sessionId ∉ events) :
    PasswordStore.NoSessionSurvives ⟨service, store.history ++ events⟩ := by
  intro login change userId sessionId hbefore hsessionOpened hcompleted session
    hsession hid
  obtain ⟨hearlier, hdone⟩ := hread login change userId hcompleted hbefore
  have hearlierOpened : .opened login userId sessionId ∈ store.history :=
    (List.mem_append.mp hsessionOpened).resolve_right (hopened _ _ _)
  obtain ⟨old, hold, hsameId, -, hrevoked⟩ := haged.mem_after hsession
  exact hrevoked (hgood login change userId sessionId hearlier hearlierOpened
    hdone old hold (hsameId.symm.trans hid))

theorem PasswordStore.NoSessionSurvives.aged
    (hgood : store.NoSessionSurvives)
    (haged : Aged store.service.sessions service.sessions) :
    PasswordStore.NoSessionSurvives ⟨service, store.history⟩ := by
  have hlater : PasswordStore.NoSessionSurvives
      ⟨service, store.history ++ []⟩ := by
    apply hgood.later haged
    · intro login change userId hcompleted hbefore
      rw [List.append_nil] at hcompleted hbefore
      exact ⟨hbefore, hcompleted⟩
    · exact fun _ _ _ => List.not_mem_nil
  rwa [List.append_nil] at hlater

theorem readBefore_record {history : List PasswordEvent}
    {event : PasswordEvent} {login change : Nat} {userId : String} :
    ReadBefore (history ++ [event]) login change userId ↔
      ReadBefore history login change userId ∨
        (.written change userId = event ∧
          .hashRead login userId ∈ history) := by
  rw [ReadBefore, Histories.sublist_record, List.singleton_sublist]
  rfl

theorem noSessionSurvives_read (hgood : store.NoSessionSurvives)
    (hsessions : service.sessions = store.service.sessions) (ticket : Nat)
    (userId : String) :
    PasswordStore.NoSessionSurvives
      ⟨service, store.history ++ [.hashRead ticket userId]⟩ := by
  apply hgood.later (aged_of_eq hsessions)
  · intro login change other hcompleted hbefore
    refine ⟨(readBefore_record.mp hbefore).resolve_right nofun, ?_⟩
    exact (List.mem_append.mp hcompleted).resolve_right (by simp)
  · simp

theorem noSessionSurvives_written (hok : store.Recorded)
    (hgood : store.NoSessionSurvives)
    (hsessions : service.sessions = store.service.sessions) (userId : String) :
    PasswordStore.NoSessionSurvives
      ⟨service, store.history ++
        [.written store.history.length userId]⟩ := by
  apply hgood.later (aged_of_eq hsessions)
  · intro login change other hcompleted hbefore
    have hdone : .completed change other ∈ store.history :=
      (List.mem_append.mp hcompleted).resolve_right (by simp)
    refine ⟨(readBefore_record.mp hbefore).resolve_right ?_, hdone⟩
    -- a change that is through has an older ticket
    rintro ⟨hnew, -⟩
    cases hnew
    exact absurd (hok.completed _ _ hdone) (Nat.lt_irrefl _)
  · simp

theorem noSessionSurvives_completed (hok : store.Recorded)
    (hgood : store.NoSessionSurvives) {ticket : Nat} {userId : String}
    (haged : Aged store.service.sessions service.sessions)
    (hrevoked : ∀ session ∈ service.sessions, session.userId = userId →
      session.revokedAt.isSome = true) :
    PasswordStore.NoSessionSurvives
      ⟨service, store.history ++ [.completed ticket userId]⟩ := by
  intro login change other sessionId hbefore hopened hcompleted session
    hsession hid
  have hearlier := (readBefore_record.mp hbefore).resolve_right nofun
  have hearlierOpened : .opened login other sessionId ∈ store.history :=
    (List.mem_append.mp hopened).resolve_right (by simp)
  obtain ⟨old, hold, hsameId, hsameOwner, hkept⟩ := haged.mem_after hsession
  rcases List.mem_append.mp hcompleted with hdone | hnew
  · exact hkept (hgood login change other sessionId hearlier hearlierOpened
      hdone old hold (hsameId.symm.trans hid))
  · -- the session of that id is the user's, so it has just been revoked
    obtain ⟨stored, hstored, hstoredId, howner⟩ :=
      hok.opened login other sessionId hearlierOpened
    cases List.mem_singleton.mp hnew
    cases store.service.sessions.eq_of_key_eq hstored hold
      (hstoredId.trans (hid.symm.trans hsameId))
    exact hrevoked session hsession (hsameOwner.trans howner)

/-- A session just opened survives exactly the changes that are through. -/
theorem noSessionSurvives_opened (hok : store.Recorded)
    (hgood : store.NoSessionSurvives) {ticket : Nat}
    {userId sessionId : String}
    (hopened : SessionOpened store.service.sessions service.sessions userId
      sessionId) :
    PasswordStore.NoSessionSurvives
        ⟨service, store.history ++ [.opened ticket userId sessionId]⟩ ↔
      ∀ change, ReadBefore store.history ticket change userId →
        .completed change userId ∉ store.history := by
  obtain ⟨session, hid, howner, hunrevoked, hrows⟩ := hopened.rows
  have hstored : session ∈ service.sessions := by
    rw [← mem_rows, hrows]
    exact List.mem_append_right _ (List.mem_singleton_self session)
  constructor
  · intro hnext change hbefore hdone
    have hsome := hnext ticket change userId sessionId
      (readBefore_record.mpr (.inl hbefore))
      (List.mem_append_right _ (List.mem_singleton_self _))
      (List.mem_append_left _ hdone) session hstored hid
    rw [hunrevoked] at hsome
    cases hsome
  · intro hlive login change other otherId hbefore hevent hdone row hrow hrowId
    have hearlier := (readBefore_record.mp hbefore).resolve_right nofun
    have hthrough : .completed change other ∈ store.history :=
      (List.mem_append.mp hdone).resolve_right (by simp)
    rcases List.mem_append.mp hevent with hold | hnew
    · -- the new row has another id than every session opened before
      obtain ⟨kept, hkept, hkeptId, -⟩ := hok.opened login other otherId hold
      have hrowOf : row ∈ store.service.sessions.rows ++ [session] := by
        rwa [← hrows]
      rcases List.mem_append.mp hrowOf with holdRow | hnewRow
      · exact hgood login change other otherId hearlier hold hthrough row
          holdRow hrowId
      · cases List.mem_singleton.mp hnewRow
        exact absurd (hkeptId.trans (hrowId.symm.trans hid))
          (hopened.fresh kept hkept)
    · cases List.mem_singleton.mp hnew
      exact absurd hthrough (hlive change hearlier)

theorem PasswordEffect.recorded {thread : PasswordThread}
    {events : List PasswordEvent} {next : Option PasswordThread}
    (heffect : PasswordEffect env store thread events service next)
    (hok : store.Recorded) (htaken : TicketTaken store thread) :
    PasswordStore.Recorded ⟨service, store.history ++ events⟩ := by
  cases heffect with
  | quiet _ _ hsessions =>
      exact hok.later (aged_of_eq hsessions) (by simp) (by simp)
  | read ticket userId _ _ hsessions =>
      exact hok.later (aged_of_eq hsessions) (by simp) (by simp)
  | opened input draw ticket userId mfaEnabled adaptiveRisk _ hthread hcan
      hopened => exact hok.opens hopened
  | written request _ hthread hsessions =>
      exact hok.later (aged_of_eq hsessions) (by simp) (by simp)
  | completed request ticket _ hthread haged =>
      rw [hthread] at htaken
      refine hok.later haged (by simp) fun change userId hevent => ?_
      cases List.mem_singleton.mp hevent
      exact htaken

theorem PasswordEffect.ticketTaken {thread following : PasswordThread}
    {events : List PasswordEvent}
    (heffect : PasswordEffect env store thread events service
      (some following)) :
    TicketTaken ⟨service, store.history ++ events⟩ following := by
  cases heffect with
  | quiet _ _ hsessions hopen hnext =>
      exact ticketTaken_of_ne fun request ticket hsame =>
        hnext request ticket (congrArg some hsame)
  | read ticket userId _ _ hsessions hopen hnext =>
      exact ticketTaken_of_ne fun request ticket hsame =>
        hnext request ticket (congrArg some hsame)
  | written request _ hthread hsessions =>
      change store.history.length < (store.history ++ _).length
      rw [List.length_append]
      exact Nat.lt_succ_self _

theorem PasswordStore.Recorded.aged (hok : store.Recorded)
    (haged : Aged store.service.sessions service.sessions) :
    PasswordStore.Recorded ⟨service, store.history⟩ := by
  have hlater : PasswordStore.Recorded ⟨service, store.history ++ []⟩ :=
    hok.later haged (by simp) (by simp)
  rwa [List.append_nil] at hlater

theorem passwordInvariant_keeps {thread : PasswordThread}
    {after : PasswordStore} {next : Option PasswordThread}
    (hok : store.Recorded) (htaken : TicketTaken store thread)
    (hadvance : store.advance env thread = (after, next)) :
    passwordInvariant.Keeps store thread after next := by
  obtain ⟨events, service, rfl, heffect⟩ : HasEffect env store thread
      (after, next) := by
    rw [← hadvance]
    exact advance_effect thread
  constructor
  · exact heffect.recorded hok htaken
  · rintro following rfl
    exact heffect.ticketTaken
  · exact fun other hother _ => TicketTaken.later hother events
  · exact fun _ _ _ _ _ => ⟨trivial, trivial⟩

theorem passwordInvariant_inductive (env : GoogleEnv) :
    passwordInvariant.Inductive (passwordProgram env)
      fun _ _ _ => True where
  start store call _ := by
    refine ⟨?_, fun _ => ⟨trivial, trivial⟩⟩
    cases call with
    | login => trivial
    | change => trivial
  advance store thread _ after next hok htaken _ hadvance :=
    passwordInvariant_keeps hok htaken (Option.some.inj hadvance)
  abort store thread hok _ := by
    refine ⟨hok, ?_, fun _ hother _ => hother, ?_⟩
    · intro following hsome
      cases hsome
    · intro following hsome
      cases hsome
  environment store event after hok hevent := by
    obtain rfl := Option.some.inj hevent
    exact ⟨PasswordStore.Recorded.aged hok
      (aged_event store.service.db.userSessions event),
      fun _ hthread => hthread⟩

/-- One part of a call lets no session survive exactly when it opens in
time. -/
theorem noSessionSurvives_advance {env : GoogleEnv}
    {store after : PasswordStore}
    {thread : PasswordThread} {next : Option PasswordThread}
    (hok : store.Recorded) (hgood : store.NoSessionSurvives)
    (hadvance : store.advance env thread = (after, next)) :
    after.NoSessionSurvives ↔ OpensInTime env store thread () := by
  obtain ⟨events, service, rfl, heffect⟩ : HasEffect env store thread
      (after, next) := by
    rw [← hadvance]
    exact advance_effect thread
  cases heffect with
  | quiet service next hsessions hopen =>
      rw [List.append_nil]
      exact iff_of_true (hgood.aged (aged_of_eq hsessions)) hopen
  | read ticket userId service next hsessions hopen =>
      exact iff_of_true (noSessionSurvives_read hgood hsessions ticket userId)
        hopen
  | opened input draw ticket userId mfaEnabled adaptiveRisk service hthread
      hcan hopened =>
      subst hthread
      rw [noSessionSurvives_opened hok hgood hopened]
      exact ⟨fun hlive _ => hlive, fun hopen => hopen hcan⟩
  | written request service hthread hsessions =>
      subst hthread
      exact iff_of_true (noSessionSurvives_written hok hgood hsessions
        request.userId) trivial
  | completed request ticket service hthread haged hrevoked =>
      subst hthread
      exact iff_of_true (noSessionSurvives_completed hok hgood haged hrevoked)
        trivial

end Invariant

/-- Logins and password changes in any order, from any tables. -/
def PasswordStore.start (service : ServiceState) : PasswordStore :=
  ⟨service, []⟩

/-- In every state of a run no session survives a password change, exactly
when no login that has read the old hash inserts its session after the change
is through. -/
theorem noSessionSurvives_iff (env : GoogleEnv) {Id : Type} [DecidableEq Id]
    (service : ServiceState)
    (actions : List (Interleaving.Action PasswordCall Unit SessionEvent Id))
    (last : Pool PasswordStore PasswordThread Id)
    (hrun : StepSystem.run (Interleaving.step (passwordProgram env))
      (Pool.start (.start service)) actions = some last) :
    StepSystem.Throughout (Interleaving.step (passwordProgram env))
        (fun pool => pool.shared.NoSessionSurvives)
        (Pool.start (.start service)) actions ↔
      StepSystem.Along (Interleaving.step (passwordProgram env))
        (Meets (OpensInTime env)) (Pool.start (.start service)) actions := by
  have hgoodStart : PasswordStore.NoSessionSurvives (.start service) := nofun
  refine (passwordInvariant_inductive env).throughout_iff ?_ ?_ ?_
    (Invariant.holds_start ⟨nofun, nofun⟩) hgoodStart hrun
  · intro store thread input after next hok _ hgood hadvance
    exact noSessionSurvives_advance hok hgood (Option.some.inj hadvance)
  · intro store thread _ _ hgood
    exact hgood
  · intro store event after _ hgood hevent
    cases hevent
    exact hgood.aged (aged_event store.service.db.userSessions event)

/-! ## A login overtaken by a change -/

namespace PasswordWitness

def oldHash : String := "$argon2id$v=19$m=65536,t=3,p=4$c2FsdA$aGFzaA"

def newHash : String := "$argon2id$v=19$m=65536,t=3,p=4$c2FsdDI$bmV3aA"

def env : GoogleEnv :=
  { GoogleWitness.env with
    argon2Verify := fun hash password =>
      hash == oldHash && password == "correct horse" ||
        hash == newHash && password == "battery staple" }

/-- The user has signed up with the old password. -/
def signedUp : ServiceState :=
  (StepSystem.after (AccountState.step env) GoogleWitness.init
    [GoogleWitness.signup]).service

def loginCall : PasswordCall :=
  .login
    { email := "owner@example.com"
      password := "correct horse"
      ipAddress := some "203.0.113.7"
      userAgent := none
      mfa := ⟨none, none, none⟩
      deviceId := none }
    ⟨"session-1", GoogleWitness.accessToken, GoogleWitness.refreshToken⟩

def changeCall : PasswordCall :=
  .change ⟨"user-1", "correct horse", newHash⟩

abbrev PasswordAction : Type :=
  Interleaving.Action PasswordCall Unit SessionEvent Nat

def advance (id : Nat) : PasswordAction := .advance id ()

abbrev start : Pool PasswordStore PasswordThread Nat :=
  Pool.start (.start signedUp)

def after (actions : List PasswordAction) :
    Pool PasswordStore PasswordThread Nat :=
  StepSystem.after (Interleaving.step (passwordProgram env)) start actions

/-- The login is through before the change writes. -/
def ordered : List PasswordAction :=
  [.spawn 1 loginCall, .spawn 2 changeCall, advance 1, advance 2, advance 1,
    advance 1, advance 1, advance 1, advance 2, advance 2, advance 2]

/-- A sufficient condition that can be evaluated. -/
def checkOpens (store : PasswordStore) (_ : PasswordThread) (_ : Unit) :
    Bool :=
  store.history.all fun event =>
    match event with
    | .completed _ _ => false
    | _ => true

theorem opensInTime_of_check (store : PasswordStore) (thread : PasswordThread)
    (input : Unit) (hcheck : checkOpens store thread input = true) :
    OpensInTime env store thread input := by
  have hnone : ∀ change userId, .completed change userId ∉ store.history := by
    intro change userId hmem
    have hfalse := List.all_eq_true.mp hcheck _ hmem
    cases hfalse
  unfold OpensInTime
  split
  case h_1 => exact fun _ change _ => hnone change _
  case h_2 => trivial

theorem ordered_noSessionSurvives :
    StepSystem.Throughout (Interleaving.step (passwordProgram env))
      (fun pool => pool.shared.NoSessionSurvives) start ordered :=
  (noSessionSurvives_iff env signedUp ordered (after ordered)
    (StepSystem.run_after _ (by decide +kernel))).mpr
    (StepSystem.along_of_check _ (meets_of_check opensInTime_of_check)
      (by decide +kernel))

/-- The change runs between the login's verification and its insert. -/
def overtaken : List PasswordAction :=
  [.spawn 1 loginCall, .spawn 2 changeCall, advance 1, advance 1, advance 2,
    advance 2, advance 2, advance 2, advance 1, advance 1, advance 1]

theorem not_noSessionSurvives :
    ¬ ∀ env service (actions : List PasswordAction) last,
      StepSystem.run (Interleaving.step (passwordProgram env))
        (Pool.start (.start service)) actions = some last →
      last.shared.NoSessionSurvives := by
  intro hclaim
  have hgood := hclaim env signedUp overtaken (after overtaken)
    (StepSystem.run_after _ (by decide +kernel))
  have hrevoked : ∀ session ∈ (after overtaken).shared.service.sessions.rows,
      session.id = "session-1" → session.revokedAt.isSome = true :=
    hgood 0 1 "user-1" "session-1" (by decide +kernel) (by decide +kernel)
      (by decide +kernel)
  exact absurd hrevoked (by decide +kernel)

end PasswordWitness

end IdProvider
