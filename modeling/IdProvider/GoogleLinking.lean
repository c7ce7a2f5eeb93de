/-
The account operations as a system, and which accounts a Google login may link
or open a session on.
-/
import IdProvider.AccountService
import IdProvider.LoginWrites
import IdProvider.StepSystem

namespace IdProvider

open KeyedTable ServiceCall AuthService

/-! ## The system -/

/-- A Google login: the tables around it, and the identity of its token. -/
structure GoogleCall where
  before : AccountDb
  after : AccountDb
  identity : Option GoogleIdentity

/-- `googleLogins` is a ghost. -/
structure AccountState where
  service : ServiceState
  googleLogins : List GoogleCall

inductive AccountAction where
  | signup (draw : UserRepository.UserDraw)
      (tokenDraw : VerificationRepository.TokenDraw)
      (email passwordHash : String)
  | requestEmailVerification (tokenDraw : VerificationRepository.TokenDraw)
      (email : String)
  | confirmEmailVerification (token : String)
  | login (input : LoginInput) (draw : SessionDraw)
  | loginWithGoogle (input : GoogleLoginInput) (draw : GoogleLoginDraw)
  | requestPasswordReset (tokenDraw : VerificationRepository.TokenDraw)
      (email : String)
  | confirmPasswordReset (token passwordHash : String)
  | changePassword (userId currentPassword passwordHash : String)
  | linkGoogle (userId currentPassword idToken identityId : String)
  | unlinkGoogle (userId currentPassword providerSubject : String)
  | markAsDeleted (userId : String)
  | revokeAllByUserId (userId : String)

/-- The identity of the token when the library reads it, the second thing that
a Google login waits for. -/
def presentedIdentity (env : GoogleEnv) (input : GoogleLoginInput)
    (st : ServiceState) : Option GoogleIdentity :=
  let reading := st.readings (st.ticks + 1)
  identityOfPayload env
    (if reading.fails then none
    else env.verifyIdToken (googleClientId env (getSocialLoginConfig st.db))
      input.idToken reading.now)

namespace AccountState

variable (env : GoogleEnv) (st : AccountState)

/-- The state after a call, whatever its outcome. -/
def after {Value : Type} (call : Service Value) : AccountState :=
  { st with service := (call st.service).2 }

def afterGoogle (input : GoogleLoginInput) (draw : GoogleLoginDraw) :
    AccountState :=
  let service := (loginWithGoogle env input draw st.service).2
  { service := service
    googleLogins :=
      ⟨st.service.db, service.db, presentedIdentity env input st.service⟩ ::
        st.googleLogins }

def markAsDeleted (userId : String) : Service Unit :=
  UserRepository.update fun now db =>
    match (env.deletionDueAt now).bind
        (IdProvider.markAsDeleted db.toSessionDb now userId) with
    | none => db
    | some sessionDb => { db with toSessionDb := sessionDb }

def revokeAllByUserId (userId : String) : Service Unit :=
  UserRepository.update fun now db =>
    { db with
      userSessions := IdProvider.revokeAllByUserId db.userSessions now userId }

def step : AccountAction → Option AccountState
  | .signup draw tokenDraw email passwordHash =>
      some (st.after (signup env draw tokenDraw email passwordHash))
  | .requestEmailVerification tokenDraw email =>
      some (st.after (requestEmailVerification env tokenDraw email))
  | .confirmEmailVerification token =>
      some (st.after (confirmEmailVerification env token))
  | .login input draw => some (st.after (login env.toLoginEnv input draw))
  | .loginWithGoogle input draw => some (st.afterGoogle env input draw)
  | .requestPasswordReset tokenDraw email =>
      some (st.after (requestPasswordReset env tokenDraw email))
  | .confirmPasswordReset token passwordHash =>
      some (st.after (confirmPasswordReset env token passwordHash))
  | .changePassword userId currentPassword passwordHash =>
      some (st.after (UserService.changePassword env userId currentPassword
        passwordHash))
  | .linkGoogle userId currentPassword idToken identityId =>
      some (st.after (UserService.linkRoute env userId currentPassword idToken
        identityId))
  | .unlinkGoogle userId currentPassword providerSubject =>
      some (st.after (UserService.unlinkRoute env userId currentPassword
        providerSubject))
  | .markAsDeleted userId => some (st.after (markAsDeleted env userId))
  | .revokeAllByUserId userId => some (st.after (revokeAllByUserId userId))

end AccountState

/-! ## The claim -/

/-- The account that a Google login finds by the email of its token. -/
structure FoundByEmail (db : AccountDb) (identity : GoogleIdentity)
    (userEmail : UserEmail) (user : User) : Prop where
  unlinked : findByProvider db "google" identity.providerSubject = none
  found : findByEmail db identity.email = some (userEmail, user)

namespace GoogleCall

/-- An identity was attached to the account. -/
def Attached (call : GoogleCall) (userId : String) : Prop :=
  ∃ row ∈ call.after.externalIdentities,
    row ∉ call.before.externalIdentities ∧ row.userId = userId

/-- A session was opened on the account. -/
def Opened (call : GoogleCall) (userId : String) : Prop :=
  ∃ session ∈ call.after.userSessions,
    session ∉ call.before.userSessions ∧ session.userId = userId

/-- Of the accounts found by email only verified ones are touched. -/
def Safe (call : GoogleCall) : Prop :=
  ∀ identity userEmail user, call.identity = some identity →
    FoundByEmail call.before identity userEmail user →
      call.Attached user.id ∨ call.Opened user.id →
        userEmail.isVerified = true

end GoogleCall

def GoogleLoginsSafe (st : AccountState) : Prop :=
  ∀ call ∈ st.googleLogins, call.Safe

/-! ## What a Google login links -/

/-- The call finds the account by email, and nothing stops it before it
attaches the identity. -/
structure LinksByEmail (env : GoogleEnv) (st : ServiceState)
    (input : GoogleLoginInput) (draw : GoogleLoginDraw)
    (identity : GoogleIdentity) (userEmail : UserEmail) (user : User) :
    Prop where
  oneMethod : ¬ (given input.mfa.mfaCode = true ∧
    given input.mfa.mfaRecoveryCode = true)
  answers : ∀ i < 5, (st.readings (st.ticks + i)).fails = false
  enabled : (getSocialLoginConfig st.db).providerEnabled = true
  presented : presentedIdentity env input st = some identity
  found : FoundByEmail st.db identity userEmail user
  active : user.status = .active
  fresh : ∀ row ∈ st.db.externalIdentities, row.id ≠ draw.identityId

/-- The accounts that the step links by email are verified. -/
def LinksVerified (env : GoogleEnv) (st : AccountState) :
    AccountAction → Prop
  | .loginWithGoogle input draw => ∀ identity userEmail user,
      LinksByEmail env st.service input draw identity userEmail user →
        userEmail.isVerified = true
  | _ => True

section Links

variable {env : GoogleEnv} {st : ServiceState} {input : GoogleLoginInput}
  {draw : GoogleLoginDraw} {identity : GoogleIdentity}
  {userEmail : UserEmail} {user : User}

/-- Up to the token, the call is the same for every identity. -/
theorem loginWithGoogle_presented
    (hone : ¬ (given input.mfa.mfaCode = true ∧
      given input.mfa.mfaRecoveryCode = true))
    (hanswers : (st.readings st.ticks).fails = false)
    (henabled : (getSocialLoginConfig st.db).providerEnabled = true)
    (hpresented : presentedIdentity env input st = some identity) :
    loginWithGoogle env input draw st =
      (resolveGoogleUser draw identity >>=
        loginGoogleUser env input draw.session identity) (st.tick 2) := by
  have htoken : verifyIdToken env
      (googleClientId env (getSocialLoginConfig st.db)) input.idToken
      (st.tick 1) =
      (.ok (if (st.readings (st.ticks + 1)).fails then none
        else env.verifyIdToken
          (googleClientId env (getSocialLoginConfig st.db)) input.idToken
          (st.readings (st.ticks + 1)).now), st.tick 2) := rfl
  rw [loginWithGoogle, if_neg hone, bind_ok (select_of_answers hanswers),
    if_pos henabled, bind_ok htoken]
  unfold presentedIdentity at hpresented
  dsimp only at hpresented ⊢
  rw [hpresented]

def newIdentity (draw : GoogleLoginDraw) (identity : GoogleIdentity)
    (userId : String) (now : Instant) : ExternalIdentity where
  id := draw.identityId
  userId := userId
  provider := "google"
  providerSubject := identity.providerSubject
  email := some identity.email
  isEmailVerified := false
  createdAt := now

/-- The insert of an identity, as the Google login makes it. -/
def insertGoogle (draw : GoogleLoginDraw) (identity : GoogleIdentity)
    (userId : String) (now : Instant) (db : AccountDb) : Option AccountDb :=
  IdentityRepository.insertIdentity db draw.identityId userId "google"
    identity.providerSubject identity.email now

theorem insertGoogle_of_fresh {db : AccountDb} {userId : String}
    {now : Instant}
    (hunlinked : findByProvider db "google" identity.providerSubject = none)
    (hfresh : ∀ row ∈ db.externalIdentities, row.id ≠ draw.identityId) :
    ∃ after, insertGoogle draw identity userId now db = some after ∧
      after.externalIdentities.rows = db.externalIdentities.rows ++
        [newIdentity draw identity userId now] := by
  have hexists : ∃ identities, db.externalIdentities.insert?
      (newIdentity draw identity userId now) = some identities :=
    Table.exists_insert? hfresh
  obtain ⟨identities, hinsert⟩ := hexists
  refine ⟨{ db with externalIdentities := identities }, ?_,
    (Table.insert?_eq_some hinsert).2⟩
  rw [insertGoogle, IdentityRepository.insertIdentity, hunlinked]
  exact congrArg (Option.map _) hinsert

theorem insertGoogle_of_stale {db : AccountDb} {userId : String}
    {now : Instant}
    (hstale : ¬ ∀ row ∈ db.externalIdentities, row.id ≠ draw.identityId) :
    insertGoogle draw identity userId now db = none := by
  rw [Option.eq_none_iff_forall_ne_some]
  intro after hinsert
  rw [insertGoogle, IdentityRepository.insertIdentity] at hinsert
  split at hinsert
  case isTrue => cases hinsert
  case isFalse =>
    rw [Option.map_eq_some_iff] at hinsert
    obtain ⟨identities, hidentities, -⟩ := hinsert
    exact hstale (Table.insert?_eq_some hidentities).1

theorem createGoogleIdentity_of_some {userId : String} {db : AccountDb}
    (hanswers : (st.readings st.ticks).fails = false)
    (hinsert : insertGoogle draw identity userId
      (st.readings st.ticks).now st.db = some db) :
    createGoogleIdentity draw identity userId st =
      (.ok (), (st.tick 1).withDb db) := by
  unfold createGoogleIdentity IdentityRepository.create
    UserRepository.transaction
  rw [external_of_answers hanswers]
  exact commit_of_some hinsert

theorem createGoogleIdentity_of_fails {userId : String}
    (hfails : (st.readings st.ticks).fails = true) :
    createGoogleIdentity draw identity userId st =
      (.error .unavailable, st.tick 1) := by
  unfold createGoogleIdentity IdentityRepository.create
    UserRepository.transaction
  exact external_of_fails hfails

theorem createGoogleIdentity_of_none {userId : String}
    (hanswers : (st.readings st.ticks).fails = false)
    (hinsert : insertGoogle draw identity userId
      (st.readings st.ticks).now st.db = none) :
    ∃ error, createGoogleIdentity draw identity userId st =
      (.error error, st.tick 1) := by
  unfold createGoogleIdentity IdentityRepository.create
    UserRepository.transaction
  rw [external_of_answers hanswers]
  exact ⟨_, commit_of_none hinsert⟩

/-- A link by email, once the token has been read. -/
theorem resolveGoogleUser_of_links
    (hanswers : ∀ i < 3, (st.readings (st.ticks + i)).fails = false)
    (hfound : FoundByEmail st.db identity userEmail user)
    (hactive : user.status = .active)
    (hfresh : ∀ row ∈ st.db.externalIdentities, row.id ≠ draw.identityId) :
    ∃ db, resolveGoogleUser draw identity st =
        (.ok user.id, (st.tick 3).withDb db) ∧
      db.externalIdentities.rows = st.db.externalIdentities.rows ++
        [newIdentity draw identity user.id
          (st.readings (st.ticks + 2)).now] := by
  obtain ⟨db, hinsert, hrows⟩ :=
    insertGoogle_of_fresh hfound.unlinked hfresh
  refine ⟨db, ?_, hrows⟩
  have hcreate : createGoogleIdentity draw identity user.id (st.tick 2) =
      (.ok (), (st.tick 3).withDb db) :=
    createGoogleIdentity_of_some (hanswers 2 (by decide)) hinsert
  have hemail : findByEmail (st.tick 1).db identity.email =
      some (userEmail, user) := hfound.found
  rw [resolveGoogleUser, bind_ok (select_of_answers (hanswers 0 (by decide))),
    hfound.unlinked]
  dsimp only
  rw [linkGoogleUser, bind_ok (select_of_answers (hanswers 1 (by decide))),
    hemail]
  dsimp only
  rw [if_neg (not_not.mpr hactive)]
  exact bind_ok hcreate

theorem answers_three (hfirst : (st.readings st.ticks).fails = false)
    (hsecond : (st.readings (st.ticks + 1)).fails = false)
    (hthird : (st.readings (st.ticks + 2)).fails = false) :
    ∀ i < 3, (st.readings (st.ticks + i)).fails = false
  | 0, _ => hfirst
  | 1, _ => hsecond
  | 2, _ => hthird

/-- Where one of the conditions fails the call ends with the tables as they
were. -/
theorem resolveGoogleUser_of_stopped
    (hfound : FoundByEmail st.db identity userEmail user)
    (hstopped : ¬ ((∀ i < 3, (st.readings (st.ticks + i)).fails = false) ∧
      user.status = .active ∧
      ∀ row ∈ st.db.externalIdentities, row.id ≠ draw.identityId)) :
    ∃ error after, resolveGoogleUser draw identity st =
      (.error error, after) ∧ after.db = st.db := by
  have hemail : findByEmail (st.tick 1).db identity.email =
      some (userEmail, user) := hfound.found
  by_cases hfirst : (st.readings st.ticks).fails = true
  · exact ⟨_, _, bind_error (select_of_fails hfirst), rfl⟩
  rw [Bool.not_eq_true] at hfirst
  rw [resolveGoogleUser, bind_ok (select_of_answers hfirst), hfound.unlinked]
  dsimp only
  by_cases hsecond : (st.readings (st.ticks + 1)).fails = true
  · exact ⟨_, _, bind_error (select_of_fails hsecond), rfl⟩
  rw [Bool.not_eq_true] at hsecond
  rw [linkGoogleUser, bind_ok (select_of_answers hsecond), hemail]
  dsimp only
  by_cases hactive : user.status = .active
  · rw [if_neg (not_not.mpr hactive)]
    by_cases hthird : (st.readings (st.ticks + 2)).fails = true
    · have hcreate : createGoogleIdentity draw identity user.id (st.tick 2) =
          (.error .unavailable, st.tick 3) :=
        createGoogleIdentity_of_fails hthird
      exact ⟨_, _, bind_error hcreate, rfl⟩
    rw [Bool.not_eq_true] at hthird
    have hstale : ¬ ∀ row ∈ st.db.externalIdentities,
        row.id ≠ draw.identityId := by
      intro hfresh
      exact hstopped ⟨answers_three hfirst hsecond hthird, hactive, hfresh⟩
    have hcreate : ∃ error, createGoogleIdentity draw identity user.id
        (st.tick 2) = (.error error, st.tick 3) :=
      createGoogleIdentity_of_none hthird (insertGoogle_of_stale hstale)
    obtain ⟨error, hcreate⟩ := hcreate
    exact ⟨error, _, bind_error hcreate, rfl⟩
  · rw [if_pos hactive]
    exact ⟨_, _, rfl, rfl⟩

theorem loginWithGoogle_of_links
    (hlinks : LinksByEmail env st input draw identity userEmail user) :
    ∃ db now, loginWithGoogle env input draw st =
        loginGoogleUser env input draw.session identity user.id
          ((st.tick 5).withDb db) ∧
      db.externalIdentities.rows = st.db.externalIdentities.rows ++
        [newIdentity draw identity user.id now] := by
  have hanswers := hlinks.answers
  have hrest : ∀ i < 3,
      ((st.tick 2).readings ((st.tick 2).ticks + i)).fails = false := by
    intro i hi
    have hshift : (st.tick 2).ticks + i = st.ticks + (2 + i) :=
      Nat.add_assoc st.ticks 2 i
    rw [hshift]
    exact hanswers (2 + i) (by omega)
  obtain ⟨db, hresolve, hrows⟩ := resolveGoogleUser_of_links hrest
    hlinks.found hlinks.active hlinks.fresh
  refine ⟨db, _, ?_, hrows⟩
  rw [loginWithGoogle_presented hlinks.oneMethod
    (hanswers 0 (by decide)) hlinks.enabled hlinks.presented]
  exact bind_ok hresolve

/-- A token that was read was read without a failure. -/
theorem presented_answers
    (hpresented : presentedIdentity env input st = some identity) :
    (st.readings (st.ticks + 1)).fails = false := by
  unfold presentedIdentity at hpresented
  by_contra hfails
  rw [Bool.not_eq_false] at hfails
  simp [hfails, identityOfPayload] at hpresented

theorem answers_five (hfirst : (st.readings st.ticks).fails = false)
    (hsecond : (st.readings (st.ticks + 1)).fails = false)
    (hrest : ∀ i < 3, (st.readings (st.ticks + 2 + i)).fails = false) :
    ∀ i < 5, (st.readings (st.ticks + i)).fails = false
  | 0, _ => hfirst
  | 1, _ => hsecond
  | 2, _ => hrest 0 (by decide)
  | 3, _ => hrest 1 (by decide)
  | 4, _ => hrest 2 (by decide)

theorem loginWithGoogle_of_stopped
    (hpresented : presentedIdentity env input st = some identity)
    (hfound : FoundByEmail st.db identity userEmail user)
    (hstopped : ¬ LinksByEmail env st input draw identity userEmail user) :
    (loginWithGoogle env input draw st).2.db = st.db := by
  by_cases hone : given input.mfa.mfaCode = true ∧
      given input.mfa.mfaRecoveryCode = true
  · rw [loginWithGoogle, if_pos hone]
    rfl
  by_cases hfirst : (st.readings st.ticks).fails = true
  · rw [loginWithGoogle, if_neg hone, bind_error (select_of_fails hfirst)]
    rfl
  rw [Bool.not_eq_true] at hfirst
  by_cases henabled : (getSocialLoginConfig st.db).providerEnabled = true
  · rw [loginWithGoogle_presented hone hfirst henabled hpresented]
    have hfoundLater : FoundByEmail (st.tick 2).db identity userEmail user :=
      hfound
    have hresolve : ∃ error after, resolveGoogleUser draw identity
        (st.tick 2) = (.error error, after) ∧
          after.db = (st.tick 2).db := by
      apply resolveGoogleUser_of_stopped hfoundLater
      rintro ⟨hrest, hactive, hfresh⟩
      exact hstopped ⟨hone, answers_five hfirst
        (presented_answers hpresented) hrest, henabled, hpresented, hfound,
        hactive, hfresh⟩
    obtain ⟨error, after, hresolve, hafter⟩ := hresolve
    rw [bind_error hresolve]
    exact hafter
  · rw [loginWithGoogle, if_neg hone, bind_ok (select_of_answers hfirst),
      if_neg henabled]
    rfl

end Links

/-! ### After the link no identity changes -/

def ServiceState.identities (st : ServiceState) : Table ExternalIdentity :=
  st.db.externalIdentities

section Frame

theorem frame_finishGoogleLogin (env : GoogleEnv) (input : GoogleLoginInput)
    (draw : SessionDraw) (identity : GoogleIdentity) (userId : String)
    (sessionUserAgent : Option String) (mfaEnabled : Bool)
    (adaptiveRisk : AdaptiveRisk) :
    Relates LoginFrame (finishGoogleLogin env input draw identity userId
      sessionUserAgent mfaEnabled adaptiveRisk) := by
  apply (frame_of_writes (writes_createSession _ _ _ _)).bind
  intro session
  exact (frame_of_accounts (keeps_serviceEvent _ _ _)).bind
    fun _ => relates_pure _

/-- Once the user is known, no account changes. -/
theorem frame_loginGoogleUser (env : GoogleEnv) (input : GoogleLoginInput)
    (draw : SessionDraw) (identity : GoogleIdentity) (userId : String) :
    Relates LoginFrame (loginGoogleUser env input draw identity userId) := by
  apply (frame_select _).bind
  intro active
  refine relates_ite ?_ (relates_fail _)
  apply (frame_select _).bind
  intro hasLocalPassword
  apply (frame_of_accounts (keeps_of_reads (reads_assessLogin _ _ _ _))).bind
  intro adaptiveRisk
  apply relates_ite
  · exact (frame_of_accounts (keeps_serviceEvent _ _ _)).bind
      fun _ => relates_fail _
  apply relates_ite
  · apply (frame_of_accounts (returns_hasEnabledMfa userId).keeps).bind
    intro mfaEnabled
    refine relates_ite (relates_fail _) (relates_ite (relates_pure _) ?_)
    apply relates_ite
    · exact (frame_of_writes (writes_enforceMfaForLogin _ _ _)).bind
        fun _ => frame_finishGoogleLogin _ _ _ _ _ _ _ _
    · exact frame_finishGoogleLogin _ _ _ _ _ _ _ _
  · exact frame_finishGoogleLogin _ _ _ _ _ _ _ _

theorem keepsIdentities_loginGoogleUser (env : GoogleEnv)
    (input : GoogleLoginInput) (draw : SessionDraw)
    (identity : GoogleIdentity) (userId : String) :
    Keeps ServiceState.identities
      (loginGoogleUser env input draw identity userId) :=
  frame_keepsTable (frame_loginGoogleUser env input draw identity userId)
    (fun db => db.externalIdentities) fun _ => rfl

end Frame

/-! ## Every run -/

section System

variable {env : GoogleEnv} {st : AccountState} {input : GoogleLoginInput}
  {draw : GoogleLoginDraw}

/-- The record of a Google login in this state. -/
def AccountState.googleCall (env : GoogleEnv) (st : AccountState)
    (input : GoogleLoginInput) (draw : GoogleLoginDraw) : GoogleCall where
  before := st.service.db
  after := (loginWithGoogle env input draw st.service).2.db
  identity := presentedIdentity env input st.service

theorem attached_of_links {identity : GoogleIdentity} {userEmail : UserEmail}
    {user : User} (hlinks : LinksByEmail env st.service input draw identity
      userEmail user) :
    (st.googleCall env input draw).Attached user.id := by
  obtain ⟨db, now, hrun, hrows⟩ := loginWithGoogle_of_links hlinks
  refine ⟨newIdentity draw identity user.id now, ?_, ?_, rfl⟩
  · change _ ∈ (loginWithGoogle env input draw st.service).2.identities
    rw [hrun, keepsIdentities_loginGoogleUser env input draw.session identity
      user.id]
    change _ ∈ db.externalIdentities.rows
    rw [hrows]
    exact List.mem_append_right _ (List.mem_singleton_self _)
  · exact fun hold => hlinks.fresh _ hold rfl

theorem safe_iff : (st.googleCall env input draw).Safe ↔
    LinksVerified env st (.loginWithGoogle input draw) := by
  constructor
  · intro hsafe identity userEmail user hlinks
    exact hsafe identity userEmail user hlinks.presented hlinks.found
      (Or.inl (attached_of_links hlinks))
  · intro hverified identity userEmail user hpresented hfound htouched
    by_cases hlinks : LinksByEmail env st.service input draw identity
        userEmail user
    · exact hverified identity userEmail user hlinks
    · have hdb : (st.googleCall env input draw).after = st.service.db :=
        loginWithGoogle_of_stopped hpresented hfound hlinks
      rcases htouched with ⟨row, hrow, hnew, -⟩ | ⟨row, hrow, hnew, -⟩
      · rw [hdb] at hrow
        exact absurd hrow hnew
      · rw [hdb] at hrow
        exact absurd hrow hnew

theorem googleLoginsSafe_step {action : AccountAction} {next : AccountState}
    (hstep : st.step env action = some next) :
    GoogleLoginsSafe next ↔ GoogleLoginsSafe st ∧
      LinksVerified env st action := by
  cases action with
  | loginWithGoogle input draw =>
      cases hstep
      rw [← safe_iff, and_comm]
      exact List.forall_mem_cons
  | _ =>
      cases hstep
      exact (and_iff_left trivial).symm

end System

theorem googleLoginsSafe_iff (env : GoogleEnv) (init last : AccountState)
    (actions : List AccountAction) (hinit : init.googleLogins = [])
    (hrun : StepSystem.run (AccountState.step env) init actions =
      some last) :
    GoogleLoginsSafe last ↔
      StepSystem.Along (AccountState.step env) (LinksVerified env) init
        actions := by
  have hsafe : GoogleLoginsSafe init := by
    intro call hcall
    rw [hinit] at hcall
    cases hcall
  rw [StepSystem.run_iff (AccountState.step env)
    (fun _ _ _ hstep => googleLoginsSafe_step hstep) hrun]
  exact and_iff_right hsafe

/-! ## Signups before the owner's Google login -/

namespace GoogleWitness

def verificationToken : String :=
  "ev_UvImZaYMEtKJGF2VDuiBNgkWb2sRPReNbA_TkB_yOaGglfIPk5VlDPk4C47bIkpr"

def accessToken : String :=
  "at_c92P2-zHd3OC2pYwL82DeaGdyy8Yck0kF4nP47GiCpj7ZfZzp72dpiifA9SHEA8J"

def refreshToken : String :=
  "rt_MOE9mQfHdlNwl9cyhDujS38BqRV1p0do_43-7tcVtUFQwjqDSQcRkMQbZhvYSmIR"

/-- SHA-256 on the three tokens. -/
def sha256 : List (String × String) :=
  [ (verificationToken,
      "d2ca8af3ecaaffbc782d79ac3cc9608c60cce5011e410d2f1b696913d5741f71"),
    (accessToken,
      "6b3036bd9a09bf00ff305f5b1f70e0130a3c9f839fa40fb65ee84e4a5a924d07"),
    (refreshToken,
      "d145d1fb8b5d2f55294cc7834dbb86d183a67eb5fdac486395c10dbefb8ed23b") ]

def clientId : String := "1022-idp.apps.googleusercontent.com"

/-- A token of Google for the owner of the address, valid for an hour. -/
def ownerToken : String := "eyJhbGciOiJSUzI1NiJ9.b3duZXI.c2lnbmF0dXJl"

def ownerPayload : GooglePayload where
  sub := some "110169484474386276334"
  email := some "Owner@example.com"
  emailVerified := some true

def env : GoogleEnv where
  argon2Verify _ _ := false
  hashOpaqueToken token :=
    ((sha256.find? fun entry => entry.1 == token).map Prod.snd).getD ""
  accessTokenTtlSeconds := 900
  refreshTokenTtlSeconds := 2592000
  accountDeletionGraceDays := 30
  totpCheck _ _ _ := false
  hmacSha256 _ := ""
  toUpperCase text := String.ofList (text.toList.map Char.toUpper)
  adaptiveMfaEnabled := true
  adaptiveMfaRequireForMedium := true
  adaptiveMfaHighRiskIps := []
  adaptiveMfaIpFailureWindowSeconds := 900
  adaptiveMfaIpFailureHighThreshold := 20
  adaptiveMfaImpossibleTravelWindowMinutes := 60
  rateLimitMfaRecoveryPerMin := 5
  verifyIdToken audience idToken now :=
    if audience = clientId ∧ idToken = ownerToken ∧ now < 3600000 then
      some ownerPayload
    else none
  toLowerCase text := String.ofList (text.toList.map Char.toLower)
  googleClientId := clientId

/-- No account yet, and nothing fails. -/
def init : AccountState where
  service :=
    { db :=
        { users := .empty
          userPasswords := .empty
          passwordResetTokens := .empty
          userSessions := .empty
          userEmails := .empty
          emailVerificationTokens := .empty
          externalIdentities := .empty
          mfaFactors := .empty
          mfaRecoveryCodes := .empty
          socialLoginConfig := none }
      loginAttempts := []
      counters := fun _ => none
      securityEvents := []
      auditLogs := []
      secondFactors := []
      readings := fun tick => ⟨1000 * tick, false⟩
      ticks := 0 }
  googleLogins := []

def signup : AccountAction :=
  .signup ⟨"user-1", "email-1"⟩ ⟨"token-1", verificationToken⟩
    "owner@example.com" "$argon2id$v=19$m=65536,t=3,p=4$c2FsdA$aGFzaA"

def googleInput : GoogleLoginInput where
  idToken := ownerToken
  ipAddress := some "203.0.113.7"
  userAgent := none
  deviceId := none
  mfa := ⟨none, none, none⟩

def googleDraw : GoogleLoginDraw where
  user := ⟨"user-2", "email-2"⟩
  identityId := "identity-1"
  session := ⟨"session-1", accessToken, refreshToken⟩

def googleLogin : AccountAction := .loginWithGoogle googleInput googleDraw

/-- The owner signs up and confirms the address before using Google. -/
def confirmed : List AccountAction :=
  [signup, .confirmEmailVerification verificationToken, googleLogin]

def afterConfirmed : AccountState :=
  StepSystem.after (AccountState.step env) init confirmed

def beforeLogin : AccountState :=
  StepSystem.after (AccountState.step env) init
    [signup, .confirmEmailVerification verificationToken]

theorem confirmed_meets :
    StepSystem.Along (AccountState.step env) (LinksVerified env) init
      confirmed := by
  refine ⟨trivial, ?_⟩
  rintro _ ⟨⟩
  refine ⟨trivial, ?_⟩
  rintro _ ⟨⟩
  refine ⟨?_, fun _ _ => trivial⟩
  intro identity userEmail user hlinks
  have hall : ∀ row ∈ beforeLogin.service.db.userEmails.rows,
      row.isVerified = true := by decide
  exact hall userEmail (findByEmail_eq_some hlinks.found.found).1

theorem googleLoginsSafe_confirmed :
    afterConfirmed.service.db.externalIdentities.rows.map
        ExternalIdentity.userId = ["user-1"] ∧
      GoogleLoginsSafe afterConfirmed :=
  ⟨by decide, (googleLoginsSafe_iff env init afterConfirmed confirmed rfl
    (StepSystem.run_after _ (by decide))).mpr confirmed_meets⟩

/-- Somebody else signs up with the address, and the owner uses Google. -/
def preRegistered : List AccountAction := [signup, googleLogin]

def afterPreRegistered : AccountState :=
  StepSystem.after (AccountState.step env) init preRegistered

def ownerCall : GoogleCall :=
  (StepSystem.after (AccountState.step env) init [signup]).googleCall env
    googleInput googleDraw

def ownerIdentity : GoogleIdentity :=
  ⟨"owner@example.com", "110169484474386276334"⟩

def attacker : User :=
  UserRepository.newUser ⟨"user-1", "email-1"⟩ 1000

def attackerEmail : UserEmail :=
  UserRepository.newEmail ⟨"user-1", "email-1"⟩ "owner@example.com" false 1000

theorem not_googleLoginsSafe :
    ¬ ∀ actions last,
      StepSystem.run (AccountState.step env) init actions = some last →
        GoogleLoginsSafe last := by
  intro hclaim
  have hsafe : GoogleLoginsSafe afterPreRegistered :=
    hclaim preRegistered afterPreRegistered
      (StepSystem.run_after _ (by decide))
  have hcall : ownerCall ∈ afterPreRegistered.googleLogins :=
    List.mem_singleton_self _
  have hfound : FoundByEmail ownerCall.before ownerIdentity attackerEmail
      attacker := ⟨by decide, by decide⟩
  have hattached : ownerCall.Attached "user-1" :=
    ⟨⟨"identity-1", "user-1", "google", ownerIdentity.providerSubject,
      some ownerIdentity.email, false, 8000⟩, by decide, by decide, rfl⟩
  have hverified := hsafe ownerCall hcall ownerIdentity attackerEmail attacker
    rfl hfound (Or.inl hattached)
  cases hverified

end GoogleWitness

end IdProvider
