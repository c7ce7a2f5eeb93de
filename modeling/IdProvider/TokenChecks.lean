/-
The two checks of an access token, the rows that decide both, and the only
row on which they differ.
-/
import IdProvider.Sessions

namespace IdProvider

open KeyedTable

/-- The constraint `user_sessions_access_token_hash_key`. -/
def AccessHashesUnique (db : SessionDb) : Prop :=
  (db.userSessions.rows.map UserSession.accessTokenHash).Nodup

/-- The token opens the session as long as it has not expired. -/
structure Opens (env : AuthEnv) (db : SessionDb) (token : String)
    (session : UserSession) : Prop where
  stored : session ∈ db.userSessions
  hash : session.accessTokenHash = env.hashOpaqueToken token
  unrevoked : session.revokedAt = none
  owner : ∃ user ∈ db.users, session.userId = user.id ∧ user.status = .active

section Checks

variable {env : AuthEnv} {db : SessionDb} {now : Instant} {token : String}

/-- A condition that one session meets finds it, with its user. -/
theorem findSession_of_unique {where_ : UserSession → Bool}
    {session : UserSession} {user : User} (hsession : session ∈ db.userSessions)
    (huser : user ∈ db.users) (howner : session.userId = user.id)
    (hwhere : where_ session = true)
    (hunique : ∀ other ∈ db.userSessions, where_ other = true →
      other = session) :
    findSession db where_ = some (session, user) := by
  rcases hfind : findSession db where_ with _ | ⟨other, found⟩
  · rw [findSession_eq_none] at hfind
    rw [hfind session hsession user huser howner] at hwhere
    cases hwhere
  · obtain ⟨hother, hfound, hjoin, hmatch⟩ := findSession_eq_some hfind
    obtain rfl := hunique other hother hmatch
    rw [db.users.eq_of_key_eq hfound huser (hjoin.symm.trans howner)]

theorem eq_of_hash (hunique : AccessHashesUnique db)
    {session other : UserSession} (hsession : session ∈ db.userSessions)
    (hother : other ∈ db.userSessions)
    (hhash : other.accessTokenHash = session.accessTokenHash) :
    other = session :=
  List.inj_on_of_nodup_map hunique hother hsession hhash

/-- The server asks the database whether the session is still to expire. -/
theorem authenticateAccessToken_eq_ok_iff (hunique : AccessHashesUnique db)
    {userId sessionId : String} :
    authenticateAccessToken env db now token = .ok (userId, sessionId) ↔
      ∃ session, Opens env db token session ∧
        session.expiresAt.after now = true ∧
        session.userId = userId ∧ session.id = sessionId := by
  constructor
  · intro hcheck
    unfold authenticateAccessToken at hcheck
    split at hcheck
    case h_1 => cases hcheck
    case h_2 session user hfind =>
      obtain ⟨hsession, huser, howner, hwhere⟩ := findSession_eq_some hfind
      simp only [Bool.and_eq_true, beq_iff_eq,
        Option.isNone_iff_eq_none] at hwhere
      obtain ⟨⟨hhash, hunrevoked⟩, hunexpired⟩ := hwhere
      split at hcheck
      case isTrue => cases hcheck
      case isFalse =>
        split at hcheck
        case isTrue => cases hcheck
        case isFalse hactive =>
          cases hcheck
          exact ⟨session, ⟨hsession, hhash, hunrevoked, user, huser, howner,
            not_not.mp hactive⟩, hunexpired, rfl, rfl⟩
  · rintro ⟨session, hopens, hunexpired, rfl, rfl⟩
    obtain ⟨hsession, hhash, hunrevoked, user, huser, howner, hactive⟩ :=
      hopens
    have hfind : findByAccessTokenHash db now (env.hashOpaqueToken token) =
        some (session, user) := by
      apply findSession_of_unique hsession huser howner
      · simp [hhash, hunrevoked, hunexpired]
      · intro other hother hmatch
        simp only [Bool.and_eq_true, beq_iff_eq] at hmatch
        exact eq_of_hash hunique hsession hother
          (hmatch.1.1.trans hhash.symm)
    have hdate : ¬ session.expiresAt.toInstant < now :=
      Int.not_lt.mpr (Timestamp.le_toInstant_of_after hunexpired)
    rw [authenticateAccessToken, hfind]
    simp [hactive, hdate]

/-- Introspection compares the `Date` that it has read. -/
theorem introspectToken_eq_active_iff (hunique : AccessHashesUnique db)
    {sub sid : String} {exp : Int} :
    introspectToken env db now token = .active sub sid exp ↔
      ∃ session, Opens env db token session ∧
        now < session.expiresAt.toInstant ∧ session.userId = sub ∧
        session.id = sid ∧ session.expiresAt.toInstant / 1000 = exp := by
  constructor
  · intro hcheck
    unfold introspectToken at hcheck
    split at hcheck
    case h_1 => cases hcheck
    case h_2 session user hfind =>
      obtain ⟨hsession, huser, howner, hhash⟩ := findSession_eq_some hfind
      split at hcheck
      case isFalse => cases hcheck
      case isTrue hlive =>
        simp only [Bool.and_eq_true, beq_iff_eq, Option.isNone_iff_eq_none,
          decide_eq_true_iff] at hlive
        obtain ⟨⟨hunrevoked, hunexpired⟩, hactive⟩ := hlive
        cases hcheck
        exact ⟨session, ⟨hsession, beq_iff_eq.mp hhash, hunrevoked, user,
          huser, howner, hactive⟩, hunexpired, rfl, rfl, rfl⟩
  · rintro ⟨session, hopens, hunexpired, rfl, rfl, rfl⟩
    obtain ⟨hsession, hhash, hunrevoked, user, huser, howner, hactive⟩ :=
      hopens
    have hfind : findByAccessTokenHashAny db (env.hashOpaqueToken token) =
        some (session, user) := by
      apply findSession_of_unique hsession huser howner
      · exact beq_iff_eq.mpr hhash
      · intro other hother hmatch
        exact eq_of_hash hunique hsession hother
          ((beq_iff_eq.mp hmatch).trans hhash.symm)
    rw [introspectToken, hfind]
    simp [hunrevoked, hunexpired, hactive]

end Checks

/-- Introspection reports a token as active exactly when the server itself
accepts it, for the same user and session, and as inactive exactly when the
server rejects it. -/
structure ChecksAgree (env : AuthEnv) (db : SessionDb) (now : Instant)
    (token : String) : Prop where
  accepts : ∀ userId sessionId,
    (∃ exp, introspectToken env db now token =
        .active userId sessionId exp) ↔
      authenticateAccessToken env db now token = .ok (userId, sessionId)
  rejects : introspectToken env db now token = .inactive ↔
    ∃ error, authenticateAccessToken env db now token = .error error

/-- The second half of the agreement follows from the first. -/
theorem checksAgree_of_accepts {env : AuthEnv} {db : SessionDb}
    {now : Instant} {token : String}
    (haccepts : ∀ userId sessionId,
      (∃ exp, introspectToken env db now token =
          .active userId sessionId exp) ↔
        authenticateAccessToken env db now token =
          .ok (userId, sessionId)) :
    ChecksAgree env db now token := by
  refine ⟨haccepts, ?_⟩
  rcases hcheck : authenticateAccessToken env db now token with
    error | ⟨userId, sessionId⟩
  · refine iff_of_true ?_ ⟨error, rfl⟩
    rcases hreport : introspectToken env db now token with
      _ | ⟨sub, sid, exp⟩
    · rfl
    · rw [(haccepts sub sid).mp ⟨exp, hreport⟩] at hcheck
      cases hcheck
  · obtain ⟨exp, hreport⟩ := (haccepts userId sessionId).mpr hcheck
    rw [hreport]
    refine iff_of_false nofun ?_
    rintro ⟨error, herror⟩
    cases herror

namespace TokenWitness

def env : AuthEnv where
  argon2Verify _ _ := false
  hashOpaqueToken token := token
  accessTokenTtlSeconds := 900
  refreshTokenTtlSeconds := 604800
  accountDeletionGraceDays := 30

def user : User where
  id := "user-1"
  status := .active
  deletedAt := none
  deletionRequestedAt := none
  deletionDueAt := none
  createdAt := 0

/-- It expires half a millisecond after a full second. -/
def session : UserSession where
  id := "session-1"
  userId := "user-1"
  accessTokenHash := "at_1"
  refreshTokenHash := "rt_1"
  ipAddress := none
  userAgent := none
  expiresAt := ⟨900000500⟩
  refreshExpiresAt := .ofInstant 604800000
  revokedAt := none
  lastSeenAt := 0
  createdAt := 0

def db : SessionDb where
  users := ⟨[user], by simp⟩
  userPasswords := .empty
  passwordResetTokens := .empty
  userSessions := ⟨[session], by simp⟩

theorem hashesUnique : AccessHashesUnique db := List.nodup_singleton _

end TokenWitness

end IdProvider
