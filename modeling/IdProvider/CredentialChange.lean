/-
What a completed credential change does to the sessions from before it, in
every run of the session system.
-/
import IdProvider.RefreshReuse

namespace IdProvider

open KeyedTable

/-! ## Acceptance -/

/-- Some step or token check in this state accepts the session. -/
inductive Accepted (env : AuthEnv) (st : SessionState) (sessionId : String) :
    Prop where
  | authenticate (accessToken userId : String)
      (hcheck : authenticateAccessToken env st.db st.now accessToken =
        .ok (userId, sessionId))
  | introspect (token sub : String) (exp : Int)
      (hcheck : introspectToken env st.db st.now token =
        .active sub sessionId exp)
  | refresh (pid : Nat) (accessToken refreshToken token : String)
      (next : SessionState)
      (hstep : st.step env (.refreshRotate pid accessToken refreshToken) =
        some next)
      (hrotated : next.rotations = ⟨token, sessionId⟩ :: st.rotations)

/-- No session that a completed credential change was to end is accepted. -/
def CredentialChangesEnd (env : AuthEnv) (st : SessionState) : Prop :=
  ∀ sessionId ∈ st.ended, ¬ Accepted env st sessionId

/-! ## Sessions that nothing can accept -/

/-- No refresh call in flight can rotate the row. -/
def Unclaimed (env : AuthEnv) (st : SessionState) (row : UserSession) : Prop :=
  ∀ call, st.InFlight call → call.sessionId = row.id →
    env.hashOpaqueToken call.token ≠ row.refreshTokenHash

def Expired (now : Instant) (row : UserSession) : Prop :=
  row.expiresAt.after now = false ∧ row.refreshExpiresAt.after now = false

/-- Revoked, or out of reach of every lookup and of the calls in flight. -/
inductive DeadRow (env : AuthEnv) (st : SessionState) (row : UserSession) :
    Prop where
  | revoked (hrevoked : row.revokedAt.isSome = true)
  | expired (hunclaimed : Unclaimed env st row)
      (hexpired : Expired st.now row)
  | inactive (hunclaimed : Unclaimed env st row)
      (hinactive : InactiveUser st.db row.userId)

def Dead (env : AuthEnv) (st : SessionState) (sessionId : String) : Prop :=
  ∃ row ∈ st.sessions, row.id = sessionId ∧ DeadRow env st row

section Dead

variable {env : AuthEnv} {st next : SessionState} {action : Action}
  {sessionId : String}

/-- A lookup whose result is used finds no dead row. -/
theorem not_dead_of_lookup {row : UserSession} {user : User}
    (hrow : row ∈ st.sessions) (huser : user ∈ st.db.users)
    (howner : row.userId = user.id) (hactive : user.status = .active)
    (hnone : row.revokedAt = none) (hlive : ¬ Expired st.now row) :
    ¬ Dead env st row.id := by
  rintro ⟨dead, hdead, hid, hdeadRow⟩
  rw [st.sessions.eq_of_key_eq hdead hrow hid] at hdeadRow
  cases hdeadRow with
  | revoked hrevoked =>
      rw [hnone] at hrevoked
      cases hrevoked
  | expired hunclaimed hexpired => exact hlive hexpired
  | inactive hunclaimed hinactive =>
      exact hinactive user huser howner.symm hactive

theorem not_dead_of_rotate {call : RefreshCall}
    (hcall : st.InFlight call)
    (hcan : ∃ row ∈ st.sessions, canRotate call.sessionId
      (env.hashOpaqueToken call.token) row = true) :
    ¬ Dead env st call.sessionId := by
  obtain ⟨row, hrow, hrotate⟩ := hcan
  obtain ⟨hid, hhash, hnone⟩ := canRotate_iff.mp hrotate
  rintro ⟨dead, hdead, hdeadId, hdeadRow⟩
  rw [st.sessions.eq_of_key_eq hdead hrow (hdeadId.trans hid.symm)]
    at hdeadRow
  cases hdeadRow with
  | revoked hrevoked =>
      rw [hnone] at hrevoked
      cases hrevoked
  | expired hunclaimed => exact hunclaimed call hcall hid.symm hhash.symm
  | inactive hunclaimed => exact hunclaimed call hcall hid.symm hhash.symm

theorem rotations_step (hchange : SessionChange env st next) :
    next.rotations = st.rotations ∨ ∃ call, st.InFlight call ∧
      (∃ row ∈ st.sessions, canRotate call.sessionId
        (env.hashOpaqueToken call.token) row = true) ∧
      next.rotations = ⟨call.token, call.sessionId⟩ :: st.rotations := by
  cases hchange with
  | tightened hsessions hissued hrotations => exact Or.inl hrotations
  | created id userId accessToken refreshToken ipAddress userAgent hfresh
      hrows hissued hrotations => exact Or.inl hrotations
  | rotated call accessToken refreshToken hcall hfresh hcan hsessions hissued
      hrotations => exact Or.inr ⟨call, hcall, hcan, hrotations⟩
  | lost call accessToken refreshToken hfresh hsessions hissued hrotations =>
      exact Or.inl hrotations

theorem not_accepted_of_dead (hdead : Dead env st sessionId) :
    ¬ Accepted env st sessionId := by
  intro haccepted
  cases haccepted with
  | authenticate accessToken userId hcheck =>
      unfold authenticateAccessToken at hcheck
      split at hcheck
      case h_1 => cases hcheck
      case h_2 row user hfind =>
        obtain ⟨hrow, huser, howner, hwhere⟩ := findSession_eq_some hfind
        simp only [Bool.and_eq_true, Option.isNone_iff_eq_none] at hwhere
        split at hcheck
        case isTrue => cases hcheck
        case isFalse =>
          split at hcheck
          case isTrue => cases hcheck
          case isFalse hactive =>
            cases hcheck
            refine not_dead_of_lookup hrow huser howner
              (not_not.mp hactive) hwhere.1.2 ?_ hdead
            intro hexpired
            rw [hexpired.1] at hwhere
            cases hwhere.2
  | introspect token sub exp hcheck =>
      unfold introspectToken at hcheck
      split at hcheck
      case h_1 => cases hcheck
      case h_2 row user hfind =>
        obtain ⟨hrow, huser, howner, -⟩ := findSession_eq_some hfind
        split at hcheck
        case isTrue hwhere =>
          simp only [Bool.and_eq_true, Option.isNone_iff_eq_none,
            decide_eq_true_eq, beq_iff_eq] at hwhere
          cases hcheck
          refine not_dead_of_lookup hrow huser howner hwhere.2 hwhere.1.1 ?_
            hdead
          intro hexpired
          have hafter := Timestamp.after_of_toInstant hwhere.1.2
          rw [hexpired.1] at hafter
          cases hafter
        case isFalse => cases hcheck
  | refresh pid accessToken refreshToken token next hstep hrotated =>
      rcases rotations_step (step_change hstep) with
        hsame | ⟨call, hcall, hcan, hrotations⟩
      · rw [hsame] at hrotated
        exact List.cons_ne_self _ _ hrotated.symm
      · rw [hrotations] at hrotated
        cases hrotated
        exact not_dead_of_rotate hcall hcan hdead

/-! ### Every step keeps a dead session dead -/

theorem inFlight_step (heffect : StepEffect env st action next)
    {call : RefreshCall} (hcall : next.InFlight call) :
    st.InFlight call ∨ ∃ session user,
      findByRefreshTokenHash st.db st.now (env.hashOpaqueToken call.token) =
        some (session, user) ∧ user.status = .active ∧
      session.id = call.sessionId := by
  obtain ⟨running, hrunning, hprocess⟩ := hcall
  rcases heffect.arrived running hrunning with hold | harrival
  · exact Or.inl ⟨running, hold, hprocess⟩
  · rw [hprocess] at harrival
    cases harrival with
    | found token session user hfind hactive =>
        exact Or.inr ⟨session, user, hfind, hactive, rfl⟩
    | credential _ hcredential => cases hcredential

theorem inactiveUser_of_mark {db after : SessionDb} {now : Instant}
    {userId other : String} {deletionDueAt : Instant}
    (hmark : markAsDeleted db now userId deletionDueAt = some after)
    (hinactive : InactiveUser db other) : InactiveUser after other := by
  unfold markAsDeleted at hmark
  split at hmark <;> cases hmark
  intro user huser hid
  rw [Table.mem_update] at huser
  obtain ⟨old, hold, rfl⟩ := huser
  split at hid
  case isTrue hmarked =>
    rw [if_pos hmarked]
    nofun
  case isFalse hkept =>
    rw [if_neg hkept]
    exact hinactive old hold hid

theorem inactiveUser_step (heffect : StepEffect env st action next)
    {userId : String} (hinactive : InactiveUser st.db userId) :
    InactiveUser next.db userId := by
  cases heffect with
  | written db hsessions husers => rwa [InactiveUser, husers]
  | moved db pid process hsessions husers =>
      change InactiveUser db userId
      rwa [InactiveUser, husers]
  | marked pid other begun deletionDueAt db hmark =>
      exact inactiveUser_of_mark hmark hinactive
  | _ => exact hinactive

theorem now_step (heffect : StepEffect env st action next) :
    st.now ≤ next.now := by
  cases heffect with
  | tick now hle => exact hle
  | _ => exact Int.le_refl _

/-- A row keeps its tokens, or a call in flight rotates it. -/
theorem row_step (hchange : SessionChange env st next) {row : UserSession}
    (hrow : row ∈ st.sessions) :
    (∃ new ∈ next.sessions, Tightens row new) ∨ ∃ call, st.InFlight call ∧
      canRotate call.sessionId (env.hashOpaqueToken call.token) row =
        true := by
  cases hchange with
  | tightened hsessions => exact Or.inl (hsessions.mem_before hrow)
  | created id userId accessToken refreshToken ipAddress userAgent hfresh
      hrows =>
      refine Or.inl ⟨row, ?_, Tightens.refl row⟩
      rw [← mem_rows, hrows]
      exact List.mem_append_left _ hrow
  | rotated call accessToken refreshToken hcall hfresh hcan hsessions =>
      by_cases hrotate : canRotate call.sessionId
          (env.hashOpaqueToken call.token) row = true
      · exact Or.inr ⟨call, hcall, hrotate⟩
      · refine Or.inl ⟨row, ?_, Tightens.refl row⟩
        rw [hsessions, mem_rotateTokens]
        exact Or.inr ⟨hrow, Bool.eq_false_iff.mpr hrotate⟩
  | lost call accessToken refreshToken hfresh hsessions =>
      refine Or.inl ⟨row, ?_, Tightens.refl row⟩
      rw [hsessions]
      exact hrow

theorem unclaimed_step (heffect : StepEffect env st action next)
    {row new : UserSession} (hdead : Dead env st row.id)
    (hunclaimed : Unclaimed env st row) (htight : Tightens row new) :
    Unclaimed env next new := by
  intro call hcall hid
  rw [htight.id] at hid
  rw [htight.refreshTokenHash]
  rcases inFlight_step heffect hcall with
    hold | ⟨session, user, hfind, hactive, hsession⟩
  · exact hunclaimed call hold hid
  · -- A dead session is found by no lookup.
    obtain ⟨hmem, huser, howner, hwhere⟩ := findSession_eq_some hfind
    simp only [Bool.and_eq_true, Option.isNone_iff_eq_none] at hwhere
    rw [← hid, ← hsession] at hdead
    refine absurd hdead (not_dead_of_lookup hmem huser howner hactive
      hwhere.1.2 ?_)
    intro hexpired
    rw [hexpired.2] at hwhere
    cases hwhere.2

theorem Dead.step (hdead : Dead env st sessionId)
    (heffect : StepEffect env st action next) : Dead env next sessionId := by
  obtain ⟨row, hrow, rfl, hdeadRow⟩ := id hdead
  rcases row_step heffect.sessionChange hrow with
    ⟨new, hnew, htight⟩ | ⟨call, hcall, hrotate⟩
  · refine ⟨new, hnew, htight.id, ?_⟩
    cases hdeadRow with
    | revoked hrevoked => exact .revoked (htight.revokedAt hrevoked)
    | expired hunclaimed hexpired =>
        refine .expired (unclaimed_step heffect hdead hunclaimed htight) ?_
        rw [Expired, htight.expiresAt, htight.refreshExpiresAt]
        have hnow := now_step heffect
        exact ⟨Timestamp.after_eq_false_of_le hnow hexpired.1,
          Timestamp.after_eq_false_of_le hnow hexpired.2⟩
    | inactive hunclaimed hinactive =>
        refine .inactive (unclaimed_step heffect hdead hunclaimed htight) ?_
        rw [htight.userId]
        exact inactiveUser_step heffect hinactive
  · rw [(canRotate_iff.mp hrotate).1] at hdead
    exact absurd hdead (not_dead_of_rotate hcall ⟨row, hrow, hrotate⟩)

/-! ### Where sessions and their owners come from -/

/-- A row of the next state under the id of a row of before, if any. -/
theorem row_origin (hchange : SessionChange env st next)
    {row old : UserSession} (hrow : row ∈ next.sessions)
    (hold : old ∈ st.sessions) (hid : old.id = row.id) :
    old.userId = row.userId ∧
      (old.revokedAt.isSome = true → row.revokedAt.isSome = true) := by
  have hsame : ∀ other ∈ st.sessions, other.id = row.id → other = old :=
    fun other hother hother_id =>
      st.sessions.eq_of_key_eq hother hold (hother_id.trans hid.symm)
  cases hchange with
  | tightened hsessions =>
      obtain ⟨origin, horigin, htight⟩ := hsessions.mem_after hrow
      rw [← hsame origin horigin htight.id.symm]
      exact ⟨htight.userId.symm, htight.revokedAt⟩
  | created id userId accessToken refreshToken ipAddress userAgent hfresh
      hrows =>
      have hkept : old ∈ next.sessions := by
        rw [← mem_rows, hrows]
        exact List.mem_append_left _ hold
      rw [next.sessions.eq_of_key_eq hkept hrow hid]
      exact ⟨rfl, fun hrevoked => hrevoked⟩
  | rotated call accessToken refreshToken hcall hfresh hcan hsessions =>
      rw [hsessions, mem_rotateTokens] at hrow
      rcases hrow with ⟨origin, horigin, hrotate, rfl⟩ | ⟨hrow, -⟩
      · rw [← hsame origin horigin rfl]
        exact ⟨rfl, fun hrevoked => hrevoked⟩
      · rw [← hsame row hrow rfl]
        exact ⟨rfl, fun hrevoked => hrevoked⟩
  | lost call accessToken refreshToken hfresh hsessions =>
      rw [hsessions] at hrow
      rw [← hsame row hrow rfl]
      exact ⟨rfl, fun hrevoked => hrevoked⟩

theorem revoked_of_mark {db after : SessionDb} {now : Instant}
    {userId : String} {deletionDueAt : Instant}
    (hmark : markAsDeleted db now userId deletionDueAt = some after)
    {row : UserSession} (hrow : row ∈ after.userSessions)
    (howner : row.userId = userId) : row.revokedAt.isSome = true := by
  rw [markAsDeleted_sessions hmark] at hrow
  apply revoked_of_revokeWhere hrow
  intro old _ hsame
  exact Or.inl (beq_iff_eq.mpr (hsame.trans howner))

/-- A deletion leaves the other users as they are. -/
theorem user_of_mark {db after : SessionDb} {now : Instant}
    {userId : String} {deletionDueAt : Instant}
    (hmark : markAsDeleted db now userId deletionDueAt = some after)
    {user : User} (huser : user ∈ db.users) (hid : user.id ≠ userId) :
    user ∈ after.users := by
  have hother : ¬ isActiveUser userId user = true := by
    simp [isActiveUser, hid]
  unfold markAsDeleted at hmark
  split at hmark <;> cases hmark
  rw [Table.mem_update]
  exact ⟨user, huser, by rw [if_neg hother]⟩

/-- A user that stops being active loses its sessions in the same step. -/
theorem becomes_inactive (heffect : StepEffect env st action next)
    {userId : String} (hinactive : InactiveUser next.db userId) :
    InactiveUser st.db userId ∨ ∀ row ∈ next.sessions,
      row.userId = userId → row.revokedAt.isSome = true := by
  cases heffect with
  | written db hsessions husers =>
      rw [InactiveUser, husers] at hinactive
      exact Or.inl hinactive
  | moved db pid process hsessions husers =>
      change ∀ user ∈ db.users, _ at hinactive
      rw [husers] at hinactive
      exact Or.inl hinactive
  | marked pid other begun deletionDueAt db hmark =>
      by_cases hsame : userId = other
      · exact Or.inr fun row hrow howner =>
          revoked_of_mark hmark hrow (howner.trans hsame)
      · refine Or.inl ?_
        intro user huser hid
        refine hinactive user (user_of_mark hmark huser ?_) hid
        exact fun hother => hsame (hid.symm.trans hother)
  | _ => exact Or.inl hinactive

end Dead

/-! ## Every run -/

/-- A reset writes the password only when the user's sessions are dead. -/
def ResetsEnd (env : AuthEnv) (st : SessionState) : Action → Prop
  | .resetWrite pid _ => ∀ userId begun,
      st.process? pid = some (.resetChecked userId begun) →
        ∀ row ∈ st.sessions, row.userId = userId → row.id ∈ begun →
          Dead env st row.id
  | _ => True

structure CredentialTrace (env : AuthEnv) (st : SessionState) : Prop where
  refresh : RefreshTrace env st
  deleted : ∀ running ∈ st.processes, ∀ userId begun,
    running.process = .deletionDeleted userId begun →
      InactiveUser st.db userId
  claimed : ∀ call, st.InFlight call → ∀ row ∈ st.sessions,
    row.id = call.sessionId → InactiveUser st.db row.userId →
      row.revokedAt.isSome = true
  ended : ∀ sessionId ∈ st.ended, Dead env st sessionId

namespace CredentialTrace

variable {env : AuthEnv} {st next : SessionState} {action : Action}

theorem initial (hinit : Initial st) : CredentialTrace env st where
  refresh := RefreshTrace.initial hinit
  deleted := by simp [← mem_rows, hinit.processes]
  claimed := by simp [SessionState.InFlight, ← mem_rows, hinit.processes]
  ended := by simp [hinit.ended]

theorem deleted_step (htrace : CredentialTrace env st)
    (heffect : StepEffect env st action next) :
    ∀ running ∈ next.processes, ∀ userId begun,
      running.process = .deletionDeleted userId begun →
        InactiveUser next.db userId := by
  intro running hrunning userId begun hprocess
  apply inactiveUser_step heffect
  rcases heffect.arrived running hrunning with hold | harrival
  · exact htrace.deleted running hold userId begun hprocess
  · rw [hprocess] at harrival
    cases harrival with
    | sawDeleted _ _ hinactive => exact hinactive
    | credential _ hcredential => cases hcredential

theorem claimed_step (htrace : CredentialTrace env st)
    (heffect : StepEffect env st action next) :
    ∀ call, next.InFlight call → ∀ row ∈ next.sessions,
      row.id = call.sessionId → InactiveUser next.db row.userId →
        row.revokedAt.isSome = true := by
  intro call hcall row hrow hid hinactive
  rcases becomes_inactive heffect hinactive with hbefore | hrevoked
  · rcases inFlight_step heffect hcall with
      hold | ⟨session, user, hfind, hactive, hsession⟩
    · obtain ⟨running, hrunning, hprocess⟩ := hold
      have htraceCall := htrace.refresh.calls running hrunning call
        (by rw [hprocess]; rfl)
      obtain ⟨old, hmem, holdId⟩ := htrace.refresh.stored _ htraceCall.issued
      obtain ⟨howner, hkeep⟩ := row_origin heffect.sessionChange hrow hmem
        (holdId.trans hid.symm)
      apply hkeep
      rw [← howner] at hbefore
      exact htrace.claimed call ⟨running, hrunning, hprocess⟩ old hmem holdId
        hbefore
    · -- A session that was just found has an active owner.
      obtain ⟨hmem, huser, howner, -⟩ := findSession_eq_some hfind
      obtain ⟨hsame, -⟩ := row_origin heffect.sessionChange hrow hmem
        (hsession.trans hid.symm)
      rw [← hsame, howner] at hbefore
      exact absurd hactive (hbefore user huser rfl)
  · exact hrevoked row hrow rfl

theorem ended_complete {other : SessionState} {pid : Nat} {userId : String}
    {begun : List String} (hold : ∀ sessionId ∈ other.ended,
      Dead env next sessionId)
    (hnew : ∀ row ∈ other.sessions, row.userId = userId → row.id ∈ begun →
      Dead env next row.id) :
    ∀ sessionId ∈ (other.complete pid userId begun).ended,
      Dead env next sessionId := by
  intro sessionId hended
  change sessionId ∈ _ ++ _ at hended
  rw [List.mem_append, List.mem_map] at hended
  rcases hended with ⟨row, hselect, rfl⟩ | hended
  · rw [Table.mem_select, Bool.and_eq_true, beq_iff_eq, decide_eq_true_eq]
      at hselect
    exact hnew row hselect.1 hselect.2.1 hselect.2.2
  · exact hold sessionId hended

/-- Once the user is deleted every session of it is dead. -/
theorem dead_of_deleted (htrace : CredentialTrace env st) {userId : String}
    (hinactive : InactiveUser st.db userId) {row : UserSession}
    (hrow : row ∈ st.sessions) (howner : row.userId = userId) :
    Dead env st row.id := by
  refine ⟨row, hrow, rfl, ?_⟩
  rw [← howner] at hinactive
  by_cases hrevoked : row.revokedAt.isSome = true
  · exact .revoked hrevoked
  · refine .inactive ?_ hinactive
    intro call hcall hid
    exact absurd (htrace.claimed call hcall row hrow hid.symm hinactive)
      hrevoked

theorem ended_step (htrace : CredentialTrace env st)
    (heffect : StepEffect env st action next)
    (hmeets : ResetsEnd env st action) :
    ∀ sessionId ∈ next.ended, Dead env next sessionId := by
  have hstep : ∀ sessionId, Dead env st sessionId → Dead env next sessionId :=
    fun sessionId hdead => hdead.step heffect
  have hold : ∀ sessionId ∈ st.ended, Dead env next sessionId :=
    fun sessionId hended => hstep sessionId (htrace.ended sessionId hended)
  cases heffect with
  | changed pid userId begun =>
      refine ended_complete hold ?_
      intro row hrow howner _
      refine ⟨row, hrow, rfl, .revoked (revoked_of_revokeWhere hrow ?_)⟩
      intro old _ hsame
      by_cases hrevoked : old.revokedAt.isSome = true
      · exact Or.inr hrevoked
      · left
        simpa [hsame.trans howner] using hrevoked
  | reset pid userId passwordHash begun hcall haction =>
      refine ended_complete hold ?_
      intro row hrow howner hbegun
      rw [haction] at hmeets
      exact hstep row.id (hmeets userId begun hcall row hrow howner hbegun)
  | marked pid userId begun deletionDueAt db hmark =>
      refine ended_complete hold ?_
      intro row hrow howner _
      exact ⟨row, hrow, rfl, .revoked (revoked_of_mark hmark hrow howner)⟩
  | scheduled pid userId begun hcall =>
      refine ended_complete hold ?_
      intro row hrow howner _
      obtain ⟨running, hrunning, hprocess⟩ := mem_of_process? hcall
      have hinactive :=
        htrace.deleted running hrunning userId begun hprocess
      exact hstep row.id (htrace.dead_of_deleted hinactive hrow howner)
  | _ => exact hold

theorem step (htrace : CredentialTrace env st)
    (hmeets : ResetsEnd env st action)
    (hstep : st.step env action = some next) : CredentialTrace env next where
  refresh := htrace.refresh.step hstep
  deleted := htrace.deleted_step (step_effect hstep)
  claimed := htrace.claimed_step (step_effect hstep)
  ended := htrace.ended_step (step_effect hstep) hmeets

end CredentialTrace

namespace SessionWitness

def toReset : List Action :=
  [ .resetBegin 1 resetToken,
    .resetConsume 1,
    .resetFindUser 1 ]

def login : List Action :=
  [ .createSession "session-1" "user-1" accessToken refreshToken none none,
    .createPasswordToken "reset-1" "user-1" resetToken ]

/-- The user ends all sessions and then resets the password. -/
def endedFirst : List Action :=
  login ++ .revokeAllByUserId "user-1" :: toReset

def checkedEnded : SessionState :=
  StepSystem.after (SessionState.step env) init endedFirst

def resetAll : List Action := endedFirst ++ [.resetWrite 1 "argon2id"]

def resetEnded : SessionState :=
  StepSystem.after (SessionState.step env) init resetAll

theorem resetAll_meets :
    StepSystem.Along (SessionState.step env) (ResetsEnd env) init
      resetAll := by
  refine StepSystem.along_append _
    (StepSystem.along_of_forall _ (fun action haction st => ?_) init)
    (StepSystem.run_after _ (by decide) :
      _ = some (StepSystem.after _ _ endedFirst)) ?_
  · simp only [endedFirst, login, toReset, List.cons_append, List.nil_append,
      List.mem_cons, List.not_mem_nil, or_false] at haction
    rcases haction with rfl | rfl | rfl | rfl | rfl | rfl <;> trivial
  · refine ⟨?_, fun _ _ => trivial⟩
    intro userId begun _ row hrow _ _
    have hall : ∀ row ∈ checkedEnded.sessions.rows,
        row.revokedAt.isSome = true := by decide
    exact ⟨row, hrow, rfl, .revoked (hall row hrow)⟩

/-- A password reset while a session of the user is live. -/
def resetLive : List Action :=
  login ++ toReset ++ [.resetWrite 1 "argon2id"]

def resetKept : SessionState :=
  StepSystem.after (SessionState.step env) init resetLive

end SessionWitness

end IdProvider
