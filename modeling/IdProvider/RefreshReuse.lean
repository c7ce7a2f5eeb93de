/-
What a replayed refresh token does to its session, under any interleaving of
the session system.
-/
import IdProvider.RefreshSafety

namespace IdProvider

open KeyedTable

/-! ## The claim about a finished call -/

/-- The session is neither revoked nor expired when the call is presented. -/
def Live (presented : Snapshot) (sessionId : String) : Prop :=
  ∃ row ∈ presented.sessions, row.id = sessionId ∧ row.revokedAt = none ∧
    row.refreshExpiresAt.after presented.now = true

/-- The rotation consumed the token that the call presented. -/
def Supersedes (rotation : Rotation) (call : FinishedRefresh) : Prop :=
  rotation.token = call.token ∧ Live call.presented rotation.sessionId

/-- Every replay was rejected and left its session revoked. -/
def ReplaysRevoke (st : SessionState) : Prop :=
  ∀ call ∈ st.finished, ∀ rotation ∈ call.superseding,
    Supersedes rotation call →
      call.outcome ≠ .rotated ∧ Revoked call.left rotation.sessionId

/-- Every replay was presented before the rotation it races with. -/
def ReplaysRace (st : SessionState) : Prop :=
  ∀ call ∈ st.finished, ∀ rotation ∈ call.superseding,
    Supersedes rotation call → rotation ∉ call.presented.rotations

section Decidable

variable (presented : Snapshot) (sessions : Table UserSession)
  (sessionId : String) (rotation : Rotation) (call : FinishedRefresh)
  (st : SessionState)

instance : Decidable (Live presented sessionId) :=
  inferInstanceAs (Decidable (∃ row ∈ presented.sessions.rows,
    row.id = sessionId ∧ row.revokedAt = none ∧
      row.refreshExpiresAt.after presented.now = true))

instance : Decidable (Revoked sessions sessionId) :=
  inferInstanceAs (Decidable (∃ row ∈ sessions.rows,
    row.id = sessionId ∧ row.revokedAt.isSome = true))

instance : Decidable (Supersedes rotation call) :=
  inferInstanceAs (Decidable (_ ∧ _))

instance : Decidable (ReplaysRevoke st) :=
  inferInstanceAs (Decidable (∀ call ∈ st.finished,
    ∀ rotation ∈ call.superseding, Supersedes rotation call →
      call.outcome ≠ .rotated ∧ Revoked call.left rotation.sessionId))

instance : Decidable (ReplaysRace st) :=
  inferInstanceAs (Decidable (∀ call ∈ st.finished,
    ∀ rotation ∈ call.superseding, Supersedes rotation call →
      rotation ∉ call.presented.rotations))

end Decidable

/-! ## What is known of a call -/

def Process.refreshCall? : Process → Option RefreshCall
  | .refreshFound call => some call
  | .refreshLost call => some call
  | _ => none

theorem Process.refreshCall?_of_credential {process : Process}
    (hprocess : process.isCredential = true) :
    process.refreshCall? = none := by
  cases process <;> first | rfl | cases hprocess

/-- A call in flight was presented before any rotation of its token. -/
structure CallTrace (env : AuthEnv) (st : SessionState) (call : RefreshCall) :
    Prop where
  issued : IssuedFor env st call.token call.sessionId
  unspent : ∀ rotation ∈ call.presented.rotations,
    rotation.token ≠ call.token

/-- A finished call either missed, and then changed nothing, or was presented
before any rotation of its token, and then lost or won the rotation. -/
inductive FinishedTrace (call : FinishedRefresh) : Prop where
  | missed (hleft : call.left = call.presented.sessions)
      (hsame : call.superseding = call.presented.rotations)
  | presented
      (hunspent : ∀ rotation ∈ call.presented.rotations,
        rotation.token ≠ call.token)
      (hsuperseded : ∀ rotation ∈ call.superseding,
        rotation.token = call.token → call.outcome ≠ .rotated ∧
          Revoked call.left rotation.sessionId)

structure RefreshTrace (env : AuthEnv) (st : SessionState) : Prop where
  provenance : Provenance env st
  stored : ∀ entry ∈ st.issued, ∃ row ∈ st.sessions, row.id = entry.sessionId
  calls : ∀ running ∈ st.processes, ∀ call,
    running.process.refreshCall? = some call → CallTrace env st call
  finished : ∀ call ∈ st.finished, FinishedTrace call

namespace RefreshTrace

variable {env : AuthEnv} {st next : SessionState} {action : Action}

theorem initial (hinit : Initial st) : RefreshTrace env st where
  provenance := Provenance.initial hinit
  stored := by simp [hinit.issued]
  calls := by simp [← mem_rows, hinit.processes]
  finished := by simp [hinit.finished]

theorem callOf (htrace : RefreshTrace env st) {pid : Nat} {process : Process}
    {call : RefreshCall} (hprocess : st.process? pid = some process)
    (hcall : process.refreshCall? = some call) : CallTrace env st call := by
  obtain ⟨running, hrunning, rfl⟩ := mem_of_process? hprocess
  exact htrace.calls running hrunning call hcall

/-! ### Issued tokens and rows -/

theorem issued_mono (heffect : StepEffect env st action next) :
    ∀ entry ∈ st.issued, entry ∈ next.issued := by
  intro entry hentry
  cases heffect.sessionChange with
  | tightened hsessions hissued => rwa [hissued]
  | created id userId accessToken refreshToken ipAddress userAgent hfresh
      hrows hissued =>
      rw [hissued]
      exact List.mem_append_right _ hentry
  | rotated call accessToken refreshToken hcall hfresh hcan hsessions
      hissued =>
      rw [hissued]
      exact List.mem_append_right _ hentry
  | lost call accessToken refreshToken hfresh hsessions hissued =>
      rw [hissued]
      exact List.mem_append_right _ hentry

theorem row_kept (heffect : StepEffect env st action next) {sessionId : String}
    (hrow : ∃ row ∈ st.sessions, row.id = sessionId) :
    ∃ row ∈ next.sessions, row.id = sessionId := by
  obtain ⟨row, hrow, rfl⟩ := hrow
  cases heffect.sessionChange with
  | tightened hsessions =>
      obtain ⟨new, hnew, htight⟩ := hsessions.mem_before hrow
      exact ⟨new, hnew, htight.id⟩
  | created id userId accessToken refreshToken ipAddress userAgent hfresh
      hrows =>
      refine ⟨row, ?_, rfl⟩
      rw [← mem_rows, hrows]
      exact List.mem_append_left _ hrow
  | rotated call accessToken refreshToken hcall hfresh hcan hsessions =>
      by_cases hcurrent : canRotate call.sessionId
          (env.hashOpaqueToken call.token) row = true
      · refine ⟨row.withTokens st.now
          (tokenPair env st accessToken refreshToken), ?_, rfl⟩
        rw [hsessions, mem_rotateTokens]
        exact Or.inl ⟨row, hrow, hcurrent, rfl⟩
      · refine ⟨row, ?_, rfl⟩
        rw [hsessions, mem_rotateTokens]
        exact Or.inr ⟨hrow, Bool.eq_false_iff.mpr hcurrent⟩
  | lost call accessToken refreshToken hfresh hsessions =>
      rw [hsessions]
      exact ⟨row, hrow, rfl⟩

theorem stored_issue {sessionId accessToken refreshToken : String}
    (hstored : ∀ entry ∈ st.issued,
      ∃ row ∈ next.sessions, row.id = entry.sessionId)
    (hrow : ∃ row ∈ next.sessions, row.id = sessionId)
    (hissued : next.issued =
      issue env sessionId accessToken refreshToken ++ st.issued) :
    ∀ entry ∈ next.issued,
      ∃ row ∈ next.sessions, row.id = entry.sessionId := by
  intro entry hentry
  rw [hissued, List.mem_append] at hentry
  rcases hentry with hnew | hold
  · simp only [issue, List.mem_cons, List.not_mem_nil, or_false] at hnew
    rcases hnew with rfl | rfl
    · exact hrow
    · exact hrow
  · exact hstored entry hold

theorem stored_step (htrace : RefreshTrace env st)
    (heffect : StepEffect env st action next) :
    ∀ entry ∈ next.issued,
      ∃ row ∈ next.sessions, row.id = entry.sessionId := by
  have hstored : ∀ entry ∈ st.issued,
      ∃ row ∈ next.sessions, row.id = entry.sessionId :=
    fun entry hentry => row_kept heffect (htrace.stored entry hentry)
  cases heffect with
  | created id userId accessToken refreshToken ipAddress userAgent sessions
      hfresh hid hrows =>
      refine stored_issue hstored ⟨newSession env st id userId accessToken
        refreshToken ipAddress userAgent, ?_, rfl⟩ rfl
      change _ ∈ sessions.rows
      rw [hrows]
      exact List.mem_append_right _ (List.mem_singleton_self _)
  | rotated pid call accessToken refreshToken sessions hcall =>
      exact stored_issue hstored
        (hstored _ (htrace.callOf hcall rfl).issued) rfl
  | lost pid call accessToken refreshToken hcall =>
      exact stored_issue hstored
        (hstored _ (htrace.callOf hcall rfl).issued) rfl
  | tick => exact hstored
  | written => exact hstored
  | missed => exact hstored
  | inactive => exact hstored
  | found => exact hstored
  | reused => exact hstored
  | begun => exact hstored
  | moved => exact hstored
  | sawDeleted => exact hstored
  | stopped => exact hstored
  | changed => exact hstored
  | reset => exact hstored
  | marked => exact hstored
  | scheduled => exact hstored

/-! ### Calls in flight -/

/-- A token that still finds a session has not been rotated. -/
theorem unspent_of_find (htrace : RefreshTrace env st) {token : String}
    {session : UserSession} {user : User}
    (hfind : findByRefreshTokenHash st.db st.now
      (env.hashOpaqueToken token) = some (session, user)) :
    ∀ rotation ∈ st.rotations, rotation.token ≠ token := by
  intro rotation hrotation htoken
  obtain ⟨hsession, -, -, hwhere⟩ := findSession_eq_some hfind
  rw [Bool.and_eq_true, Bool.and_eq_true, beq_iff_eq] at hwhere
  apply htrace.provenance.spent rotation hrotation session hsession
  rw [htoken]
  exact hwhere.1.1

theorem issued_of_find (htrace : RefreshTrace env st) {token : String}
    {session : UserSession} {user : User}
    (hfind : findByRefreshTokenHash st.db st.now
      (env.hashOpaqueToken token) = some (session, user)) :
    IssuedFor env st token session.id := by
  obtain ⟨hsession, -, -, hwhere⟩ := findSession_eq_some hfind
  rw [Bool.and_eq_true, Bool.and_eq_true, beq_iff_eq] at hwhere
  have hissued := htrace.provenance.refresh session hsession
  rwa [hwhere.1.1] at hissued

theorem calls_step (htrace : RefreshTrace env st)
    (heffect : StepEffect env st action next) :
    ∀ running ∈ next.processes, ∀ call,
      running.process.refreshCall? = some call → CallTrace env next call := by
  intro running hrunning call hcall
  have hkeep : CallTrace env st call → CallTrace env next call :=
    fun hold => ⟨issued_mono heffect _ hold.issued, hold.unspent⟩
  apply hkeep
  rcases heffect.arrived running hrunning with hold | harrival
  · exact htrace.calls running hold call hcall
  · obtain ⟨pid, process⟩ := running
    cases harrival with
    | found token session user hfind hactive =>
        cases hcall
        exact ⟨htrace.issued_of_find hfind, htrace.unspent_of_find hfind⟩
    | lost lostCall hfound =>
        cases hcall
        obtain ⟨running, hrunning, hprocess⟩ := hfound
        exact htrace.calls running hrunning call (by rw [hprocess]; rfl)
    | sawDeleted => cases hcall
    | credential _ hprocess =>
        rw [Process.refreshCall?_of_credential hprocess] at hcall
        cases hcall

/-! ### Finished calls -/

theorem revoked_revoke {sessions : Table UserSession} {sessionId : String}
    (now : Instant) (hrow : ∃ row ∈ sessions, row.id = sessionId) :
    Revoked (revoke sessions now sessionId) sessionId := by
  obtain ⟨row, hrow, hid⟩ := hrow
  refine ⟨row.withRevokedAt now, ?_, hid, rfl⟩
  rw [revoke, revokeWhere, Table.mem_update]
  refine ⟨row, hrow, ?_⟩
  rw [if_pos (beq_iff_eq.mpr hid)]

/-- The rotation that made a call lose belongs to the call's session. -/
theorem sessionId_of_rotation (htrace : RefreshTrace env st)
    {call : RefreshCall} (hcall : CallTrace env st call)
    {rotation : Rotation} (hrotation : rotation ∈ st.rotations)
    (htoken : rotation.token = call.token) :
    rotation.sessionId = call.sessionId := by
  have hissued := htrace.provenance.rotated rotation hrotation
  rw [htoken] at hissued
  exact htrace.provenance.owner_unique hissued hcall.issued

theorem finished_step (htrace : RefreshTrace env st)
    (heffect : StepEffect env st action next) :
    ∀ call ∈ next.finished, FinishedTrace call := by
  cases heffect with
  | missed token hfind =>
      exact List.forall_mem_cons.mpr ⟨.missed rfl rfl, htrace.finished⟩
  | inactive token session user hfind =>
      have hunspent := htrace.unspent_of_find hfind
      refine List.forall_mem_cons.mpr
        ⟨.presented hunspent ?_, htrace.finished⟩
      intro rotation hrotation htoken
      exact absurd htoken (hunspent rotation hrotation)
  | rotated pid call accessToken refreshToken sessions hcall hfresh hcan =>
      have htraceCall := htrace.callOf hcall rfl
      refine List.forall_mem_cons.mpr
        ⟨.presented htraceCall.unspent ?_, htrace.finished⟩
      -- The row that rotates still carries the hash of the token.
      intro rotation hrotation htoken
      obtain ⟨row, hrow, hrotate⟩ := hcan
      refine absurd ?_
        (htrace.provenance.spent rotation hrotation row hrow)
      rw [htoken]
      exact (canRotate_iff.mp hrotate).2.1
  | reused pid call sessions hcall hsessions =>
      have htraceCall := htrace.callOf hcall rfl
      refine List.forall_mem_cons.mpr
        ⟨.presented htraceCall.unspent ?_, htrace.finished⟩
      intro rotation hrotation htoken
      refine ⟨nofun, ?_⟩
      rw [htrace.sessionId_of_rotation htraceCall hrotation htoken]
      subst hsessions
      exact revoked_revoke st.now (htrace.stored _ htraceCall.issued)
  | tick => exact htrace.finished
  | written => exact htrace.finished
  | created => exact htrace.finished
  | found => exact htrace.finished
  | lost => exact htrace.finished
  | begun => exact htrace.finished
  | moved => exact htrace.finished
  | sawDeleted => exact htrace.finished
  | stopped => exact htrace.finished
  | changed => exact htrace.finished
  | reset => exact htrace.finished
  | marked => exact htrace.finished
  | scheduled => exact htrace.finished

theorem step (htrace : RefreshTrace env st)
    (hstep : st.step env action = some next) : RefreshTrace env next :=
  ⟨htrace.provenance.step hstep, htrace.stored_step (step_effect hstep),
    htrace.calls_step (step_effect hstep),
    htrace.finished_step (step_effect hstep)⟩

theorem reachable (hreach : Reachable env st) : RefreshTrace env st := by
  obtain ⟨init, actions, hinit, hrun⟩ := hreach
  exact StepSystem.run_invariant (SessionState.step env)
    (fun _ _ _ htrace hstep => htrace.step hstep) (initial hinit) hrun

end RefreshTrace

/-! ## Replays -/

theorem not_revoked_of_live
    {presented : Snapshot} {sessionId : String}
    (hlive : Live presented sessionId) :
    ¬ Revoked presented.sessions sessionId := by
  rintro ⟨revoked, hrevoked, hid, hsome⟩
  obtain ⟨row, hrow, hsame, hnone, -⟩ := hlive
  rw [presented.sessions.eq_of_key_eq hrevoked hrow (hid.trans hsame.symm),
    hnone] at hsome
  cases hsome

/-- A replay is rejected with its session revoked exactly when it raced. -/
theorem FinishedTrace.replay_iff {call : FinishedRefresh}
    (htrace : FinishedTrace call) {rotation : Rotation}
    (hmem : rotation ∈ call.superseding)
    (hsupersedes : Supersedes rotation call) :
    (call.outcome ≠ .rotated ∧ Revoked call.left rotation.sessionId) ↔
      rotation ∉ call.presented.rotations := by
  obtain ⟨htoken, hlive⟩ := hsupersedes
  cases htrace with
  | missed hleft hsame =>
      constructor
      · rintro ⟨-, hrevoked⟩
        rw [hleft] at hrevoked
        exact absurd hrevoked (not_revoked_of_live hlive)
      · intro hrace
        rw [hsame] at hmem
        exact absurd hmem hrace
  | presented hunspent hlost =>
      constructor
      · intro _ hpresented
        exact hunspent rotation hpresented htoken
      · intro _
        exact hlost rotation hmem htoken

theorem replaysRevoke_iff (env : AuthEnv) (st : SessionState)
    (hreach : Reachable env st) : ReplaysRevoke st ↔ ReplaysRace st := by
  have htrace := RefreshTrace.reachable hreach
  constructor
  · intro hreplays call hcall rotation hmem hsupersedes
    exact ((htrace.finished call hcall).replay_iff hmem hsupersedes).mp
      (hreplays call hcall rotation hmem hsupersedes)
  · intro hrace call hcall rotation hmem hsupersedes
    exact ((htrace.finished call hcall).replay_iff hmem hsupersedes).mpr
      (hrace call hcall rotation hmem hsupersedes)

/-! ## A race and a late replay -/

namespace SessionWitness

/-- Two refreshes of one token, both looked up before either rotates. -/
def race : List Action :=
  [ .createSession "session-1" "user-1" accessToken refreshToken none none,
    .refreshFind 1 refreshToken,
    .refreshFind 2 refreshToken,
    .refreshRotate 1 nextAccessToken nextRefreshToken,
    .refreshRotate 2 lastAccessToken lastRefreshToken,
    .refreshRevoke 2 ]

def raced : SessionState :=
  StepSystem.after (SessionState.step env) init race

theorem raced_reachable : Reachable env raced :=
  ⟨init, race, initial, StepSystem.run_after _ (by decide)⟩

theorem replaysRevoke_raced :
    (∃ call ∈ raced.finished, ∃ rotation ∈ call.superseding,
      Supersedes rotation call) ∧ ReplaysRevoke raced :=
  ⟨by decide, (replaysRevoke_iff env raced raced_reachable).mpr (by decide)⟩

/-- The same token once more, after its rotation. -/
def lateReplay : List Action :=
  [ .createSession "session-1" "user-1" accessToken refreshToken none none,
    .refreshFind 1 refreshToken,
    .refreshRotate 1 nextAccessToken nextRefreshToken,
    .refreshFind 2 refreshToken ]

def replayed : SessionState :=
  StepSystem.after (SessionState.step env) init lateReplay

theorem not_replaysRevoke :
    ¬ ∀ env st, Reachable env st → ReplaysRevoke st := by
  intro hclaim
  have hreach : Reachable env replayed :=
    ⟨init, lateReplay, initial, StepSystem.run_after _ (by decide)⟩
  have hfails : ¬ ReplaysRevoke replayed := by decide
  exact hfails (hclaim env replayed hreach)

end SessionWitness

end IdProvider
