/-
The session repository and the token checks of the authentication service,
one definition for each database statement or pure decision.
-/
import IdProvider.AuthCore
import IdProvider.Schema

namespace IdProvider

open KeyedTable

/-- The tables that the session repository and the checks of tokens and
passwords read and write. -/
structure SessionDb where
  users : Table User
  userPasswords : Table UserPassword
  passwordResetTokens : Table PasswordResetToken
  userSessions : Table UserSession

/-! ## Lookups -/

/-- A session with its user, the join of the three token lookups. -/
def findSession (db : SessionDb) (where_ : UserSession → Bool) :
    Option (UserSession × User) :=
  (innerJoin db.userSessions.rows db.users.rows fun session user =>
    session.userId == user.id).find? fun joined => where_ joined.1

/-- What a lookup returns is a stored session that its condition picks, with the
user it belongs to. -/
theorem findSession_eq_some {db : SessionDb} {where_ : UserSession → Bool}
    {session : UserSession} {user : User}
    (hfind : findSession db where_ = some (session, user)) :
    session ∈ db.userSessions ∧ user ∈ db.users ∧
      session.userId = user.id ∧ where_ session = true := by
  have hmem := List.mem_of_find?_eq_some hfind
  rw [mem_innerJoin] at hmem
  refine ⟨hmem.1, hmem.2.1, by simpa using hmem.2.2, ?_⟩
  simpa using List.find?_some hfind

/-- A lookup finds nothing exactly when its condition picks no session that has
a user: the join drops sessions without one. -/
theorem findSession_eq_none {db : SessionDb} {where_ : UserSession → Bool} :
    findSession db where_ = none ↔
      ∀ session ∈ db.userSessions, ∀ user ∈ db.users,
        session.userId = user.id → where_ session = false := by
  simp only [findSession, List.find?_eq_none, Prod.forall, mem_innerJoin,
    beq_iff_eq, mem_rows, Bool.not_eq_true]
  constructor
  · intro hnone session hsession user huser howner
    exact hnone session user ⟨hsession, huser, howner⟩
  · rintro hnone session user ⟨hsession, huser, howner⟩
    exact hnone session hsession user huser howner

/-- The lookup of a request: the database compares the expiry, to the
microsecond, and leaves out revoked sessions. -/
def findByAccessTokenHash (db : SessionDb) (now : Instant) (hash : String) :
    Option (UserSession × User) :=
  findSession db fun session =>
    session.accessTokenHash == hash && session.revokedAt.isNone &&
      session.expiresAt.after now

/-- The lookup of an introspection, which judges the row that it finds
itself. -/
def findByAccessTokenHashAny (db : SessionDb) (hash : String) :
    Option (UserSession × User) :=
  findSession db fun session => session.accessTokenHash == hash

/-- The lookup of a refresh.  A token that was rotated away has its hash
nowhere, so that it is not found here. -/
def findByRefreshTokenHash (db : SessionDb) (now : Instant) (hash : String) :
    Option (UserSession × User) :=
  findSession db fun session =>
    session.refreshTokenHash == hash && session.revokedAt.isNone &&
      session.refreshExpiresAt.after now

/-! ## Updates -/

/-- The hashes of a new pair of tokens, and when each of them expires. -/
structure TokenPair where
  accessTokenHash : String
  refreshTokenHash : String
  expiresAt : Instant
  refreshExpiresAt : Instant

/-- The statement that inserts the row is not refused for its dates. -/
def UserSession.storable (row : UserSession) : Bool :=
  (storedDate row.expiresAt.toInstant).isSome &&
    (storedDate row.refreshExpiresAt.toInstant).isSome

theorem UserSession.storable_iff {row : UserSession}
    {expiresAt refreshExpiresAt : Instant}
    (hexpires : row.expiresAt = .ofInstant expiresAt)
    (hrefresh : row.refreshExpiresAt = .ofInstant refreshExpiresAt) :
    row.storable = true ↔ (storedDate expiresAt).isSome = true ∧
      (storedDate refreshExpiresAt).isSome = true := by
  rw [UserSession.storable, hexpires, hrefresh, Timestamp.toInstant_ofInstant,
    Timestamp.toInstant_ofInstant, Bool.and_eq_true]

/-- The statement that sets the columns is not refused for its dates. -/
def TokenPair.storable (input : TokenPair) : Bool :=
  (storedDate input.expiresAt).isSome &&
    (storedDate input.refreshExpiresAt).isSome

/-- The condition of the rotating update: compare and set on the hash of the
refresh token, for a session that is not revoked. -/
def canRotate (sessionId currentRefreshTokenHash : String)
    (session : UserSession) : Bool :=
  session.id == sessionId &&
    session.refreshTokenHash == currentRefreshTokenHash &&
    session.revokedAt.isNone

/-- The columns that a rotation sets; the tokens before are kept nowhere. -/
def UserSession.withTokens (session : UserSession) (now : Instant)
    (input : TokenPair) : UserSession :=
  { session with
    accessTokenHash := input.accessTokenHash
    refreshTokenHash := input.refreshTokenHash
    expiresAt := .ofInstant input.expiresAt
    refreshExpiresAt := .ofInstant input.refreshExpiresAt
    lastSeenAt := now }

theorem UserSession.key_withTokens (now : Instant) (input : TokenPair)
    (session : UserSession) :
    key (session.withTokens now input) = key session := rfl

/-- The update, and whether it returned a row. -/
def rotateTokens (sessions : Table UserSession) (now : Instant)
    (sessionId currentRefreshTokenHash : String) (input : TokenPair) :
    Table UserSession × Bool :=
  let where_ := canRotate sessionId currentRefreshTokenHash
  (sessions.update where_ (fun session => session.withTokens now input)
      (UserSession.key_withTokens now input),
    sessions.rows.any where_)

/-- What the condition of a rotation says about a row. -/
theorem canRotate_iff {sessionId currentRefreshTokenHash : String}
    {session : UserSession} :
    canRotate sessionId currentRefreshTokenHash session = true ↔
      session.id = sessionId ∧
        session.refreshTokenHash = currentRefreshTokenHash ∧
        session.revokedAt = none := by
  simp [canRotate, and_assoc]

/-- After a rotation there are the rows it matched, with the new tokens, and the
others as they were. -/
theorem mem_rotateTokens {sessions : Table UserSession} {now : Instant}
    {sessionId currentRefreshTokenHash : String} {input : TokenPair}
    {row : UserSession} :
    row ∈ (rotateTokens sessions now sessionId currentRefreshTokenHash
        input).1 ↔
      (∃ old ∈ sessions,
        canRotate sessionId currentRefreshTokenHash old = true ∧
          row = old.withTokens now input) ∨
      (row ∈ sessions ∧
        canRotate sessionId currentRefreshTokenHash row = false) := by
  rw [rotateTokens, Table.mem_update]
  constructor
  · rintro ⟨old, hold, rfl⟩
    by_cases hcan : canRotate sessionId currentRefreshTokenHash old = true
    · rw [if_pos hcan]
      exact Or.inl ⟨old, hold, hcan, rfl⟩
    · rw [if_neg hcan]
      exact Or.inr ⟨hold, Bool.eq_false_iff.mpr hcan⟩
  · rintro (⟨old, hold, hcan, rfl⟩ | ⟨hrow, hcan⟩)
    · exact ⟨old, hold, by rw [if_pos hcan]⟩
    · exact ⟨row, hrow, by rw [hcan]; rfl⟩

/-- A rotation that returns no row has changed none. -/
theorem rotateTokens_of_lost {sessions : Table UserSession} {now : Instant}
    {sessionId currentRefreshTokenHash : String} {input : TokenPair}
    (hlost : (rotateTokens sessions now sessionId currentRefreshTokenHash
      input).2 = false) :
    (rotateTokens sessions now sessionId currentRefreshTokenHash input).1 =
      sessions :=
  Table.update_of_none (UserSession.key_withTokens now input) hlost

/-- A revocation keeps the tokens of the row; it only stamps it. -/
def UserSession.withRevokedAt (session : UserSession) (now : Instant) :
    UserSession :=
  { session with revokedAt := some now }

theorem UserSession.key_withRevokedAt (now : Instant)
    (session : UserSession) :
    key (session.withRevokedAt now) = key session := rfl

/-- The update that all revocations have in common. -/
def revokeWhere (sessions : Table UserSession) (now : Instant)
    (where_ : UserSession → Bool) : Table UserSession :=
  sessions.update where_ (fun session => session.withRevokedAt now)
    (UserSession.key_withRevokedAt now)

/-- Where the condition picks every row of a user that is not yet revoked, no
row of the user is left unrevoked. -/
theorem revoked_of_revokeWhere {sessions : Table UserSession} {now : Instant}
    {where_ : UserSession → Bool} {row : UserSession}
    (hrow : row ∈ revokeWhere sessions now where_)
    (hwhere : ∀ old ∈ sessions, old.userId = row.userId →
      where_ old = true ∨ old.revokedAt.isSome = true) :
    row.revokedAt.isSome = true := by
  rw [revokeWhere, Table.mem_update] at hrow
  obtain ⟨old, hold, rfl⟩ := hrow
  by_cases hmatch : where_ old = true
  · rw [if_pos hmatch]
    rfl
  · rw [if_neg hmatch] at hwhere ⊢
    exact (hwhere old hold rfl).resolve_left hmatch

/-- A logout.  It stamps the session again if it was revoked before. -/
def revoke (sessions : Table UserSession) (now : Instant)
    (sessionId : String) : Table UserSession :=
  revokeWhere sessions now fun session => session.id == sessionId

/-- Every session of the user that is not revoked yet. -/
def revokeAllByUserId (sessions : Table UserSession) (now : Instant)
    (userId : String) : Table UserSession :=
  revokeWhere sessions now fun session =>
    session.userId == userId && session.revokedAt.isNone

/-- What a request that was let through leaves behind. -/
def updateLastSeen (sessions : Table UserSession) (now : Instant)
    (sessionId : String) : Table UserSession :=
  sessions.update (fun session => session.id == sessionId)
    (fun session => { session with lastSeenAt := now }) (fun _ => rfl)

/-- When a deletion that is requested now is due, where the date can be
stored. -/
def AuthEnv.deletionDueAt (env : AuthEnv) (now : Instant) : Option Instant :=
  storedDate (now + env.accountDeletionGraceDays * dayMillis)

/-- The condition of the update that deletes a user: it misses users that are
locked or deleted. -/
def isActiveUser (userId : String) (user : User) : Bool :=
  user.id == userId && user.status == .active

/-- One transaction; `none` when the user was not active any more. -/
def markAsDeleted (db : SessionDb) (now : Instant) (userId : String)
    (deletionDueAt : Instant) : Option SessionDb :=
  if db.users.rows.any (isActiveUser userId) then
    some
      { db with
        users := db.users.update (isActiveUser userId)
          (fun user =>
            { user with
              status := .deleted
              deletedAt := some now
              deletionRequestedAt := some now
              deletionDueAt := some deletionDueAt })
          (fun _ => rfl)
        userSessions := revokeWhere db.userSessions now fun session =>
          session.userId == userId }
  else none

/-! ## Passwords -/

/-- A user with the stored hash; users without a password of their own are not
found by the join. -/
def findWithPasswordById (db : SessionDb) (userId : String) :
    Option (User × UserPassword) :=
  (innerJoin db.users.rows db.userPasswords.rows fun user password =>
    user.id == password.userId).find? fun joined => joined.1.id == userId

/-- The update of the stored hash, which inserts no row where there is none. -/
def updatePassword (db : SessionDb) (now : Instant)
    (userId passwordHash : String) : SessionDb :=
  { db with
    userPasswords := db.userPasswords.update
      (fun password => password.userId == userId)
      (fun password =>
        { password with passwordHash := passwordHash, updatedAt := now })
      (fun _ => rfl) }

/-! ## Checks -/

/-- The error of every check that fails. -/
def unauthorized (message : String) : ApiError := ⟨401, "unauthorized", message⟩

/-- The check of a request.  It looks at the expiry once more, on the `Date`
that the driver made of the column. -/
def authenticateAccessToken (env : AuthEnv) (db : SessionDb) (now : Instant)
    (accessToken : String) : Except ApiError (String × String) :=
  match findByAccessTokenHash db now (env.hashOpaqueToken accessToken) with
  | none => .error (unauthorized "Invalid or expired access token")
  | some (session, user) =>
      if session.expiresAt.toInstant < now then
        .error (unauthorized "Invalid or expired access token")
      else if user.status ≠ .active then
        .error (unauthorized "Account is not active")
      else .ok (session.userId, session.id)

/-- The answer to a resource server; it gives no reason for an inactive
token. -/
inductive Introspection where
  | inactive
  | active (sub sid : String) (exp : Int)
  deriving DecidableEq

/-- The introspection of a token: active for a session that is not revoked and
not expired, of an active user. -/
def introspectToken (env : AuthEnv) (db : SessionDb) (now : Instant)
    (token : String) : Introspection :=
  match findByAccessTokenHashAny db (env.hashOpaqueToken token) with
  | none => .inactive
  | some (session, user) =>
      if session.revokedAt.isNone &&
          decide (now < session.expiresAt.toInstant) &&
          user.status == .active then
        .active session.userId session.id (session.expiresAt.toInstant / 1000)
      else .inactive

end IdProvider
