/-
Refresh tokens rotate at most once, and a revoked session stays dead, under
any interleaving of the session system.
-/
import IdProvider.SessionEffects

namespace IdProvider

open KeyedTable

section Issue

variable {env : AuthEnv} {st : SessionState} {accessToken refreshToken : String}

/-- Two fresh tokens have hashes that no token had before, and not the same
one. -/
theorem freshTokens_iff :
    freshTokens env st accessToken refreshToken = true ↔
      env.hashOpaqueToken accessToken ∉ st.issued.map Issued.hash ∧
      env.hashOpaqueToken refreshToken ∉ st.issued.map Issued.hash ∧
      env.hashOpaqueToken accessToken ≠ env.hashOpaqueToken refreshToken := by
  simp [freshTokens, and_assoc]

/-- Issuing fresh tokens keeps the hashes of all issued tokens apart. -/
theorem issue_nodup (sessionId : String)
    (hfresh : freshTokens env st accessToken refreshToken = true)
    (hnodup : (st.issued.map Issued.hash).Nodup) :
    ((issue env sessionId accessToken refreshToken ++ st.issued).map
      Issued.hash).Nodup := by
  obtain ⟨haccess, hrefresh, hne⟩ := freshTokens_iff.mp hfresh
  simp only [issue, List.cons_append, List.nil_append, List.map_cons,
    List.nodup_cons, List.mem_cons, not_or]
  exact ⟨⟨hne, haccess⟩, hrefresh, hnodup⟩

/-- A fresh refresh token has none of the hashes that were issued. -/
theorem ne_of_issued {hash sessionId : String}
    (hfresh : freshTokens env st accessToken refreshToken = true)
    (hissued : (⟨hash, sessionId⟩ : Issued) ∈ st.issued) :
    env.hashOpaqueToken refreshToken ≠ hash := by
  rintro rfl
  exact (freshTokens_iff.mp hfresh).2.1 (List.mem_map_of_mem hissued)

end Issue

/-- Every stored or used token hash was generated once, for one session, and
the input of a rotation is stored nowhere any more. -/
structure Provenance (env : AuthEnv) (st : SessionState) : Prop where
  issued_nodup : (st.issued.map Issued.hash).Nodup
  access : ∀ row ∈ st.sessions,
    (⟨row.accessTokenHash, row.id⟩ : Issued) ∈ st.issued
  refresh : ∀ row ∈ st.sessions,
    (⟨row.refreshTokenHash, row.id⟩ : Issued) ∈ st.issued
  rotated : ∀ rotation ∈ st.rotations,
    (⟨env.hashOpaqueToken rotation.token, rotation.sessionId⟩ : Issued) ∈
      st.issued
  spent : ∀ rotation ∈ st.rotations, ∀ row ∈ st.sessions,
    row.refreshTokenHash ≠ env.hashOpaqueToken rotation.token
  rotations_nodup : (st.rotations.map Rotation.token).Nodup

namespace Provenance

variable {env : AuthEnv} {st next : SessionState}

/-- A hash was issued for one session. -/
theorem owner_unique (hprov : Provenance env st) {hash left right : String}
    (hleft : (⟨hash, left⟩ : Issued) ∈ st.issued)
    (hright : (⟨hash, right⟩ : Issued) ∈ st.issued) : left = right := by
  have hsame := List.inj_on_of_nodup_map hprov.issued_nodup hleft hright rfl
  exact congrArg Issued.sessionId hsame

/-- Nothing has been issued or rotated in the beginning. -/
theorem initial (hinit : Initial st) : Provenance env st where
  issued_nodup := by simp [hinit.issued]
  access := by simp [← mem_rows, hinit.sessions]
  refresh := by simp [← mem_rows, hinit.sessions]
  rotated := by simp [hinit.rotations]
  spent := by simp [hinit.rotations]
  rotations_nodup := by simp [hinit.rotations]

/-- Steps that only revoke or mark rows, such as a logout: each row keeps its
tokens. -/
theorem tightened (hprov : Provenance env st)
    (hsessions : Tightened st.sessions next.sessions)
    (hissued : next.issued = st.issued)
    (hrotations : next.rotations = st.rotations) : Provenance env next := by
  refine ⟨hissued ▸ hprov.issued_nodup, ?_, ?_, ?_, ?_, ?_⟩
  · intro row hrow
    obtain ⟨old, hold, htight⟩ := hsessions.mem_after hrow
    rw [hissued, htight.accessTokenHash, htight.id]
    exact hprov.access old hold
  · intro row hrow
    obtain ⟨old, hold, htight⟩ := hsessions.mem_after hrow
    rw [hissued, htight.refreshTokenHash, htight.id]
    exact hprov.refresh old hold
  · rw [hissued, hrotations]
    exact hprov.rotated
  · intro rotation hrotation row hrow
    obtain ⟨old, hold, htight⟩ := hsessions.mem_after hrow
    rw [hrotations] at hrotation
    rw [htight.refreshTokenHash]
    exact hprov.spent rotation hrotation old hold
  · rw [hrotations]
    exact hprov.rotations_nodup

/-- A login: the one new row carries the two hashes that are new. -/
theorem created (hprov : Provenance env st)
    {id userId accessToken refreshToken : String}
    {ipAddress userAgent : Option String}
    (hfresh : freshTokens env st accessToken refreshToken = true)
    (hrows : next.sessions.rows = st.sessions.rows ++
      [newSession env st id userId accessToken refreshToken ipAddress
        userAgent])
    (hissued : next.issued =
      issue env id accessToken refreshToken ++ st.issued)
    (hrotations : next.rotations = st.rotations) : Provenance env next := by
  have hmem : ∀ row ∈ next.sessions, row ∈ st.sessions ∨
      row = newSession env st id userId accessToken refreshToken ipAddress
        userAgent := by
    intro row hrow
    rw [← mem_rows, hrows, List.mem_append, List.mem_singleton] at hrow
    exact hrow
  have hgrow : ∀ entry ∈ st.issued, entry ∈ next.issued := by
    intro entry hentry
    rw [hissued]
    exact List.mem_append_right _ hentry
  refine ⟨?_, ?_, ?_, ?_, ?_, ?_⟩
  · rw [hissued]
    exact issue_nodup id hfresh hprov.issued_nodup
  · intro row hrow
    rcases hmem row hrow with hold | rfl
    · exact hgrow _ (hprov.access row hold)
    · simp [hissued, issue, newSession]
  · intro row hrow
    rcases hmem row hrow with hold | rfl
    · exact hgrow _ (hprov.refresh row hold)
    · simp [hissued, issue, newSession]
  · rw [hrotations]
    exact fun rotation hrotation =>
      hgrow _ (hprov.rotated rotation hrotation)
  · intro rotation hrotation row hrow
    rw [hrotations] at hrotation
    rcases hmem row hrow with hold | rfl
    · exact hprov.spent rotation hrotation row hold
    · exact ne_of_issued hfresh (hprov.rotated rotation hrotation)
  · rw [hrotations]
    exact hprov.rotations_nodup

/-- A refresh that loses its compare and set has drawn tokens which are then
stored nowhere. -/
theorem lost (hprov : Provenance env st)
    {sessionId accessToken refreshToken : String}
    (hfresh : freshTokens env st accessToken refreshToken = true)
    (hsessions : next.sessions = st.sessions)
    (hissued : next.issued =
      issue env sessionId accessToken refreshToken ++ st.issued)
    (hrotations : next.rotations = st.rotations) : Provenance env next := by
  have hgrow : ∀ entry ∈ st.issued, entry ∈ next.issued := by
    intro entry hentry
    rw [hissued]
    exact List.mem_append_right _ hentry
  refine ⟨?_, ?_, ?_, ?_, ?_, ?_⟩
  · rw [hissued]
    exact issue_nodup sessionId hfresh hprov.issued_nodup
  · rw [hsessions]
    exact fun row hrow => hgrow _ (hprov.access row hrow)
  · rw [hsessions]
    exact fun row hrow => hgrow _ (hprov.refresh row hrow)
  · rw [hrotations]
    exact fun rotation hrotation =>
      hgrow _ (hprov.rotated rotation hrotation)
  · rw [hrotations, hsessions]
    exact hprov.spent
  · rw [hrotations]
    exact hprov.rotations_nodup

/-- The rotated row is the only one that carries the input's hash. -/
theorem canRotate_of_hash (hprov : Provenance env st)
    {sessionId hash : String}
    (hcan : ∃ row ∈ st.sessions, canRotate sessionId hash row = true)
    {row : UserSession} (hrow : row ∈ st.sessions)
    (hhash : row.refreshTokenHash = hash) :
    canRotate sessionId hash row = true := by
  obtain ⟨current, hcurrent, hrotate⟩ := hcan
  obtain ⟨hid, hcurrentHash, -⟩ := canRotate_iff.mp hrotate
  have hissued := hprov.refresh current hcurrent
  have hrowIssued := hprov.refresh row hrow
  rw [hcurrentHash] at hissued
  rw [hhash] at hrowIssued
  have hsame : row = current :=
    st.sessions.eq_of_key_eq hrow hcurrent
      (hprov.owner_unique hrowIssued hissued)
  rw [hsame]
  exact hrotate

/-- A rotation: the hash of its input was in one row only, and that row has the
new one now, so it is stored nowhere any more. -/
theorem after_rotation (hprov : Provenance env st) {call : RefreshCall}
    {accessToken refreshToken : String}
    (hfresh : freshTokens env st accessToken refreshToken = true)
    (hcan : ∃ row ∈ st.sessions, canRotate call.sessionId
      (env.hashOpaqueToken call.token) row = true)
    (hsessions : next.sessions = (rotateTokens st.sessions st.now
      call.sessionId (env.hashOpaqueToken call.token)
      (tokenPair env st accessToken refreshToken)).1)
    (hissued : next.issued =
      issue env call.sessionId accessToken refreshToken ++ st.issued)
    (hrotations : next.rotations =
      ⟨call.token, call.sessionId⟩ :: st.rotations) :
    Provenance env next := by
  have hgrow : ∀ entry ∈ st.issued, entry ∈ next.issued := by
    intro entry hentry
    rw [hissued]
    exact List.mem_append_right _ hentry
  have hinput : (⟨env.hashOpaqueToken call.token, call.sessionId⟩ : Issued) ∈
      st.issued := by
    obtain ⟨row, hrow, hrotate⟩ := hcan
    obtain ⟨hid, hhash, -⟩ := canRotate_iff.mp hrotate
    have hrowIssued := hprov.refresh row hrow
    rwa [hhash, hid] at hrowIssued
  refine ⟨?_, ?_, ?_, ?_, ?_, ?_⟩
  · rw [hissued]
    exact issue_nodup call.sessionId hfresh hprov.issued_nodup
  · intro row hrow
    rw [hsessions, mem_rotateTokens] at hrow
    rcases hrow with ⟨old, hold, hrotate, rfl⟩ | ⟨hrow, -⟩
    · rw [hissued, ← (canRotate_iff.mp hrotate).1]
      simp [issue, UserSession.withTokens, tokenPair]
    · exact hgrow _ (hprov.access row hrow)
  · intro row hrow
    rw [hsessions, mem_rotateTokens] at hrow
    rcases hrow with ⟨old, hold, hrotate, rfl⟩ | ⟨hrow, -⟩
    · rw [hissued, ← (canRotate_iff.mp hrotate).1]
      simp [issue, UserSession.withTokens, tokenPair]
    · exact hgrow _ (hprov.refresh row hrow)
  · intro rotation hrotation
    rw [hrotations, List.mem_cons] at hrotation
    rcases hrotation with rfl | hold
    · exact hgrow _ hinput
    · exact hgrow _ (hprov.rotated rotation hold)
  · intro rotation hrotation row hrow
    rw [hrotations, List.mem_cons] at hrotation
    rw [hsessions, mem_rotateTokens] at hrow
    rcases hrow with ⟨old, hold, hrotate, rfl⟩ | ⟨hrow, hstays⟩
    · rcases hrotation with rfl | hrotation
      · exact ne_of_issued hfresh hinput
      · exact ne_of_issued hfresh (hprov.rotated rotation hrotation)
    · rcases hrotation with rfl | hrotation
      · intro hhash
        rw [hprov.canRotate_of_hash hcan hrow hhash] at hstays
        cases hstays
      · exact hprov.spent rotation hrotation row hrow
  · rw [hrotations, List.map_cons, List.nodup_cons]
    refine ⟨?_, hprov.rotations_nodup⟩
    intro hmem
    obtain ⟨rotation, hrotation, htoken⟩ := List.mem_map.mp hmem
    obtain ⟨row, hrow, hrotate⟩ := hcan
    apply hprov.spent rotation hrotation row hrow
    rw [htoken]
    exact (canRotate_iff.mp hrotate).2.1

/-- One case for each kind of change that a step can make. -/
theorem step {action : Action} (hprov : Provenance env st)
    (hstep : st.step env action = some next) : Provenance env next := by
  cases step_change hstep with
  | tightened hsessions hissued hrotations =>
      exact hprov.tightened hsessions hissued hrotations
  | created id userId accessToken refreshToken ipAddress userAgent hfresh
      hrows hissued hrotations =>
      exact hprov.created hfresh hrows hissued hrotations
  | rotated call accessToken refreshToken hcall hfresh hcan hsessions
      hissued hrotations =>
      exact hprov.after_rotation hfresh hcan hsessions hissued hrotations
  | lost call accessToken refreshToken hfresh hsessions hissued
      hrotations =>
      exact hprov.lost hfresh hsessions hissued hrotations

/-- Every reachable state keeps track of its tokens so. -/
theorem reachable (hreach : Reachable env st) : Provenance env st := by
  obtain ⟨init, actions, hinit, hrun⟩ := hreach
  exact StepSystem.run_invariant (SessionState.step env)
    (fun _ _ _ hprov hstep => hprov.step hstep) (initial hinit) hrun

end Provenance

/-! ## Revocation is final -/

/-- There is a row of the session, and it is revoked. -/
def Revoked (sessions : Table UserSession) (sessionId : String) : Prop :=
  ∃ row ∈ sessions, row.id = sessionId ∧ row.revokedAt.isSome = true

/-- What happened to the rotations of one session. -/
def SessionState.rotationsOf (st : SessionState) (sessionId : String) :
    List Rotation :=
  st.rotations.filter fun rotation => rotation.sessionId == sessionId

/-- Between two states every revoked row keeps its tokens and its revocation,
and no rotation of its session takes effect. -/
def KeepsRevoked (st next : SessionState) : Prop :=
  ∀ row ∈ st.sessions, row.revokedAt.isSome = true →
    (∃ new ∈ next.sessions, Tightens row new) ∧
      next.rotationsOf row.id = st.rotationsOf row.id

theorem KeepsRevoked.refl (st : SessionState) : KeepsRevoked st st :=
  fun row hrow _ => ⟨⟨row, hrow, Tightens.refl row⟩, rfl⟩

theorem KeepsRevoked.trans {first second third : SessionState}
    (hfirst : KeepsRevoked first second)
    (hsecond : KeepsRevoked second third) : KeepsRevoked first third := by
  intro row hrow hrevoked
  obtain ⟨⟨middle, hmiddle, htight⟩, hrotations⟩ := hfirst row hrow hrevoked
  obtain ⟨⟨last, hlast, htight'⟩, hrotations'⟩ :=
    hsecond middle hmiddle (htight.revokedAt hrevoked)
  rw [htight.id] at hrotations'
  exact ⟨⟨last, hlast, htight.trans htight'⟩, hrotations'.trans hrotations⟩

/-- No step gives a revoked row new tokens or lifts its revocation: a rotation
asks for a row that is not revoked. -/
theorem keepsRevoked_step {env : AuthEnv} {st next : SessionState}
    {action : Action} (hstep : st.step env action = some next) :
    KeepsRevoked st next := by
  intro row hrow hrevoked
  cases step_change hstep with
  | tightened hsessions hissued hrotations =>
      exact ⟨hsessions.mem_before hrow,
        by rw [SessionState.rotationsOf, hrotations]; rfl⟩
  | created id userId accessToken refreshToken ipAddress userAgent hfresh
      hrows hissued hrotations =>
      refine ⟨⟨row, ?_, Tightens.refl row⟩,
        by rw [SessionState.rotationsOf, hrotations]; rfl⟩
      rw [← mem_rows, hrows]
      exact List.mem_append_left _ hrow
  | rotated call accessToken refreshToken hcall hfresh hcan hsessions
      hissued hrotations =>
      obtain ⟨current, hcurrent, hrotate⟩ := hcan
      obtain ⟨hid, hhash, hnone⟩ := canRotate_iff.mp hrotate
      have hne : row.id ≠ call.sessionId := by
        intro hsame
        have heq := st.sessions.eq_of_key_eq hrow hcurrent
          (hsame.trans hid.symm)
        rw [heq, hnone] at hrevoked
        cases hrevoked
      constructor
      · refine ⟨row, ?_, Tightens.refl row⟩
        rw [hsessions, mem_rotateTokens]
        refine Or.inr ⟨hrow, Bool.eq_false_iff.mpr ?_⟩
        exact fun hcan => hne (canRotate_iff.mp hcan).1
      · simp [SessionState.rotationsOf, hrotations, hne.symm]
  | lost call accessToken refreshToken hfresh hsessions hissued
      hrotations =>
      refine ⟨⟨row, ?_, Tightens.refl row⟩,
        by rw [SessionState.rotationsOf, hrotations]; rfl⟩
      rw [hsessions]
      exact hrow

/-- What one step keeps of revoked sessions, every run keeps. -/
theorem keepsRevoked_run {env : AuthEnv} {st later : SessionState}
    {actions : List Action}
    (hrun : StepSystem.run (SessionState.step env) st actions = some later) :
    KeepsRevoked st later :=
  StepSystem.run_relates (SessionState.step env) (fun _ => True)
    KeepsRevoked.refl (fun _ _ _ => KeepsRevoked.trans)
    (fun _ _ _ _ hstep => ⟨trivial, keepsRevoked_step hstep⟩) trivial hrun

/-! ## Lookups -/

/-- The token was issued for the session, whether its hash is still stored or
not. -/
def IssuedFor (env : AuthEnv) (st : SessionState) (token sessionId : String) :
    Prop :=
  (⟨env.hashOpaqueToken token, sessionId⟩ : Issued) ∈ st.issued

section Lookup

variable {env : AuthEnv} {st : SessionState} {token sessionId : String}

/-- A row that carries the hash of one of the session's tokens is its row. -/
theorem revoked_of_issued (hprov : Provenance env st)
    (hrevoked : Revoked st.sessions sessionId) {row : UserSession}
    (hrow : row ∈ st.sessions)
    (hissued : (⟨env.hashOpaqueToken token, row.id⟩ : Issued) ∈ st.issued)
    (htoken : IssuedFor env st token sessionId) :
    row.revokedAt.isNone = false := by
  obtain ⟨revoked, hmem, hid, hsome⟩ := hrevoked
  have howner : row.id = revoked.id :=
    (hprov.owner_unique hissued htoken).trans hid.symm
  rw [st.sessions.eq_of_key_eq hrow hmem howner]
  simpa using hsome

/-- No access token of a revoked session is found, whatever happened to its row
since. -/
theorem findByAccessTokenHash_of_revoked (hprov : Provenance env st)
    (hrevoked : Revoked st.sessions sessionId)
    (htoken : IssuedFor env st token sessionId) :
    findByAccessTokenHash st.db st.now (env.hashOpaqueToken token) = none := by
  rw [findByAccessTokenHash, findSession_eq_none]
  intro row hrow user _ _
  by_cases hhash : row.accessTokenHash = env.hashOpaqueToken token
  · have hissued := hprov.access row hrow
    rw [hhash] at hissued
    simp [revoked_of_issued hprov hrevoked hrow hissued htoken]
  · simp [hhash]

/-- No refresh token of a revoked session is found, the last one included. -/
theorem findByRefreshTokenHash_of_revoked (hprov : Provenance env st)
    (hrevoked : Revoked st.sessions sessionId)
    (htoken : IssuedFor env st token sessionId) :
    findByRefreshTokenHash st.db st.now (env.hashOpaqueToken token) =
      none := by
  rw [findByRefreshTokenHash, findSession_eq_none]
  intro row hrow user _ _
  by_cases hhash : row.refreshTokenHash = env.hashOpaqueToken token
  · have hissued := hprov.refresh row hrow
    rw [hhash] at hissued
    simp [revoked_of_issued hprov hrevoked hrow hissued htoken]
  · simp [hhash]

/-- An introspection finds the row of a revoked session, and reports it as
inactive. -/
theorem introspectToken_of_revoked (hprov : Provenance env st)
    (hrevoked : Revoked st.sessions sessionId)
    (htoken : IssuedFor env st token sessionId) :
    introspectToken env st.db st.now token = .inactive := by
  unfold introspectToken
  split
  case h_1 => rfl
  case h_2 row user hfind =>
    obtain ⟨hrow, -, -, hhash⟩ := findSession_eq_some hfind
    have hissued := hprov.access row hrow
    rw [beq_iff_eq.mp hhash] at hissued
    simp [revoked_of_issued hprov hrevoked hrow hissued htoken]

end Lookup

/-- How a session that is revoked in `st` stands in `later`. -/
structure StaysRevoked (env : AuthEnv) (st later : SessionState)
    (sessionId : String) : Prop where
  revoked : Revoked later.sessions sessionId
  tokens : ∀ row ∈ st.sessions, row.id = sessionId →
    ∃ new ∈ later.sessions, Tightens row new
  rotations : later.rotationsOf sessionId = st.rotationsOf sessionId
  authenticate : ∀ token, IssuedFor env later token sessionId →
    authenticateAccessToken env later.db later.now token =
      .error (unauthorized "Invalid or expired access token")
  introspect : ∀ token, IssuedFor env later token sessionId →
    introspectToken env later.db later.now token = .inactive
  refresh : ∀ token pid next, IssuedFor env later token sessionId →
    refreshFind env later pid token = some next →
    next.processes = later.processes ∧
      next.finished = finishedAtLookup later token .tokenNotFound none ::
        later.finished

/-- A session that is revoked at some point of a run is dead in every later
state: its row, its rotations and the answers to its tokens. -/
theorem staysRevoked {env : AuthEnv} {st later : SessionState}
    {actions : List Action} {sessionId : String} (hprov : Provenance env later)
    (hrun : StepSystem.run (SessionState.step env) st actions = some later)
    (hrevoked : Revoked st.sessions sessionId) :
    StaysRevoked env st later sessionId := by
  obtain ⟨row, hrow, rfl, hsome⟩ := hrevoked
  obtain ⟨⟨new, hnew, htight⟩, hrotations⟩ :=
    keepsRevoked_run hrun row hrow hsome
  have hlater : Revoked later.sessions row.id :=
    ⟨new, hnew, htight.id, htight.revokedAt hsome⟩
  refine ⟨hlater, ?_, hrotations, ?_, ?_, ?_⟩
  · intro other hother hid
    rw [st.sessions.eq_of_key_eq hother hrow hid]
    exact ⟨new, hnew, htight⟩
  · intro token htoken
    rw [authenticateAccessToken,
      findByAccessTokenHash_of_revoked hprov hlater htoken]
  · intro token htoken
    exact introspectToken_of_revoked hprov hlater htoken
  · intro token pid next htoken hfind
    rw [refreshFind, findByRefreshTokenHash_of_revoked hprov hlater htoken]
      at hfind
    cases hfind
    exact ⟨rfl, rfl⟩

/-- Under every interleaving of lookups, rotations and revocations, no refresh
token is rotated twice, and a revoked session stays dead: none of its tokens is
accepted, reported as active or exchanged any more. -/
theorem refresh_safety (env : AuthEnv) (st later : SessionState)
    (actions : List Action) (hreach : Reachable env st)
    (hrun : StepSystem.run (SessionState.step env) st actions = some later) :
    (later.rotations.map Rotation.token).Nodup ∧
      ∀ sessionId, Revoked st.sessions sessionId →
        StaysRevoked env st later sessionId := by
  have hlater : Provenance env later :=
    StepSystem.run_invariant (SessionState.step env)
      (fun _ _ _ hprov hstep => hprov.step hstep)
      (Provenance.reachable hreach) hrun
  exact ⟨hlater.rotations_nodup,
    fun sessionId hrevoked => staysRevoked hlater hrun hrevoked⟩

/-! ## A run with a revocation between lookup and rotation -/

namespace SessionWitness

def accessToken : String :=
  "at_pU3KGCUwux1tEyze1iN7LtkeP3IfyxlxF0SU1kk8nVw0YL4xIB5p_tqg7ui5mX9c"

def refreshToken : String :=
  "rt_fCmZ_a_lkyU81lSvTfrXFCegrrP-6SMvivIhH57kkcWxC-y1Vjv8Hm-TQn7LyP4p"

def nextAccessToken : String :=
  "at_VeXNjkbcjtS3wnZNKlpNdncG-F2GkAJK1r2jQBvpyMvMyTX2zR9hImrhUziuGjQA"

def nextRefreshToken : String :=
  "rt_TTO6DSRqwEyBsbryPjv57vX3nytJNK-H9VILablLDZguhbtVtnKocmN6zXRm_LYO"

def lastAccessToken : String :=
  "at_Do_xhGOw5LK6KXA0dPBkrGj3APWwKz3GZvRb3qosyu3NK1FXQQ5N7krys09DCgc0"

def lastRefreshToken : String :=
  "rt_R95jbA6AbJV7poTWQx-16tdCTQnhXQJMWEjyPR-m9zYdf2GNFTLnDiDipmaN5_R-"

def resetToken : String :=
  "pr_QMUGVmIJpd3MZRmtlpa-SMXyQv-xpv2jySJFM2vV2Rse7DaZhyvWLwZmo89GSeOu"

/-- SHA-256 on the tokens of the runs below. -/
def sha256 : List (String × String) :=
  [ (accessToken,
      "e006d0c59dab3ab143fc706805480b84cae6165d88c3e5cada9af946f39e0a2f"),
    (refreshToken,
      "3b7775b837cd8132735bec887bfb747f23467ab2021294ae9acba30dec11b4a8"),
    (nextAccessToken,
      "389d1a7f7e63dfd71dd3f112659175e774f946accadaa739b343f2ac75520904"),
    (nextRefreshToken,
      "45ba4788fc609baf2fb3e1871f3d58bea553f247f4b6fc0d514b5a068dc71765"),
    (lastAccessToken,
      "123098be391fc4a1f528aad8300450ed64221356f568591fbcc94094ee423fff"),
    (lastRefreshToken,
      "4c97c287e083dabc46373a3d727bdf12771047130dd6138729eb944136697a3d"),
    (resetToken,
      "795681f03171fae573e2646ededdb25d8dce0411aa853e90e954432ab6430ecf") ]

def env : AuthEnv where
  argon2Verify _ _ := false
  hashOpaqueToken token :=
    ((sha256.find? fun entry => entry.1 == token).map Prod.snd).getD ""
  accessTokenTtlSeconds := 900
  refreshTokenTtlSeconds := 2592000
  accountDeletionGraceDays := 30

def user : User where
  id := "user-1"
  status := .active
  deletedAt := none
  deletionRequestedAt := none
  deletionDueAt := none
  createdAt := 0

def init : SessionState where
  now := 0
  db :=
    { users := ⟨[user], by simp⟩
      userPasswords := .empty
      passwordResetTokens := .empty
      userSessions := .empty }
  processes := .empty
  securityEvents := []
  issued := []
  rotations := []
  finished := []
  ended := []

theorem initial : Initial init := ⟨rfl, rfl, rfl, rfl, rfl, rfl⟩

/-- A login, a refresh, and the lookup of a second refresh. -/
def toLookup : List Action :=
  [ .createSession "session-1" "user-1" accessToken refreshToken none none,
    .refreshFind 1 refreshToken,
    .refreshRotate 1 nextAccessToken nextRefreshToken,
    .refreshFind 2 nextRefreshToken ]

def logout : List Action := toLookup ++ [.revoke "session-1"]

/-- The second refresh goes on after the logout: it rotates nothing, and takes
itself for a replay. -/
def afterLogout : List Action :=
  [ .refreshRotate 2 lastAccessToken lastRefreshToken,
    .refreshRevoke 2 ]

def loggedOut : SessionState :=
  StepSystem.after (SessionState.step env) init logout

theorem loggedOut_reachable : Reachable env loggedOut :=
  ⟨init, logout, initial, StepSystem.run_after _ (by decide)⟩

def afterwards : SessionState :=
  StepSystem.after (SessionState.step env) loggedOut afterLogout

/-- The logout falls between the lookup and the rotation of a refresh. -/
theorem refresh_safety_logout :
    (afterwards.rotations.map Rotation.token).Nodup ∧
      StaysRevoked env loggedOut afterwards "session-1" := by
  have hsafe := refresh_safety env loggedOut afterwards afterLogout
    loggedOut_reachable (StepSystem.run_after _ (by decide))
  refine ⟨hsafe.1, hsafe.2 "session-1" ?_⟩
  have hany : loggedOut.sessions.rows.any (fun row =>
      row.id == "session-1" && row.revokedAt.isSome) = true := by decide
  simpa [Revoked] using hany

end SessionWitness

end IdProvider
