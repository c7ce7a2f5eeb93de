/-
The logout of the SDK: revocations, the local session, and the logout URL.
-/
import IdProvider.ServerSdk

namespace IdProvider

open JsonText ServiceCall

/-! ## `logout` -/

inductive LogoutMode where
  | local
  | global
  deriving DecidableEq

/-- The client, and the rest of the program that uses it. -/
abbrev Site (World : Type) : Type := SdkState × World

/-- The hook works on the rest of the program, and may use the client as
well. -/
structure LogoutInput (World : Type) where
  mode : LogoutMode
  refreshToken : Option String
  accessToken : Option String
  idTokenHint : Option String
  postLogoutRedirectUri : Option String
  state : Option String
  clearLocalSession : Call (Site World) SdkError Unit

structure LogoutResult where
  localSessionCleared : Bool
  refreshTokenRevoked : Bool
  accessTokenRevoked : Bool
  logoutUrl : Option String
  warnings : List String
  deriving DecidableEq

inductive LogoutStep where
  | revokingRefreshToken
  | revokingAccessToken
  | clearing
  | creatingUrl
  deriving DecidableEq

/-- The steps as they begin and end; an end has the URL or the error. -/
inductive LogoutEvent where
  | began (step : LogoutStep)
  | ended (step : LogoutStep) (result : Except SdkError (Option String))
  deriving DecidableEq

/-- `warnings` is the array of the call, and `events` its ghost. -/
structure LogoutState (World : Type) extends SdkState where
  world : World
  warnings : List String
  events : List LogoutEvent

abbrev Logout (World : Type) : Type → Type :=
  Call (LogoutState World) SdkError

section Calls

variable {World : Type}

def LogoutState.site (st : LogoutState World) : Site World :=
  (st.toSdkState, st.world)

/-- Nothing has happened yet. -/
def LogoutState.start (site : Site World) : LogoutState World :=
  ⟨site.1, site.2, [], []⟩

/-- A method of the client leaves the rest of the program alone. -/
def ofClient {Value : Type} (call : Sdk Value) :
    Call (Site World) SdkError Value :=
  fun site =>
    let done := call site.1
    (done.1, (done.2, site.2))

def LogoutStep.warning (step : LogoutStep) (error : SdkError) : String :=
  match step with
  | .revokingRefreshToken => "refresh_token_revoke_failed:" ++ error.code
  | .revokingAccessToken => "access_token_revoke_failed:" ++ error.code
  | .clearing => "local_session_clear_failed:" ++ error.message
  | .creatingUrl => "global_logout_url_failed:" ++ error.code

namespace ServerSdkClient

/-- A call inside of `logout`. -/
def during {Value : Type} (call : Call (Site World) SdkError Value) :
    Logout World Value := fun st =>
  let done := call st.site
  (done.1, { st with toSdkState := done.2.1, world := done.2.2 })

def record (event : LogoutEvent) : Logout World Unit :=
  change fun st => { st with events := st.events ++ [event] }

def warn (step : LogoutStep) (error : SdkError) : Logout World Unit :=
  change fun st => { st with warnings := st.warnings ++ [step.warning error] }

/-- A step inside of `try`, with the warning of `catch`. -/
def tryStep {Value : Type} (step : LogoutStep)
    (text : Value → Option String) (call : Call (Site World) SdkError Value) :
    Logout World (Except SdkError Value) := do
  record (.began step)
  match ← settle (during call) with
  | .ok value =>
      record (.ended step (.ok (text value)))
      pure (.ok value)
  | .error error =>
      record (.ended step (.error error))
      warn step error
      pure (.error error)

variable (env : SdkEnv)

/-- Whether the token was revoked. -/
def tryRevoke (step : LogoutStep) (tokenTypeHint : String)
    (token : Option String) : Logout World Bool :=
  match orNull token with
  | none => pure false
  | some token => do
      let revoked ← tryStep step (fun _ => none)
        (ofClient (revokeToken env ⟨token, some tokenTypeHint⟩))
      pure revoked.isOk

def logoutUrlInput (input : LogoutInput World) : LogoutUrlInput where
  postLogoutRedirectUri := orNull input.postLogoutRedirectUri
  idTokenHint := orNull input.idTokenHint
  state := orNull input.state

def tryCreateUrl (input : LogoutInput World) :
    Logout World (Option String) :=
  if input.mode = .global then do
    let url ← tryStep .creatingUrl some
      (ofClient (createLogoutUrl env (logoutUrlInput input)))
    pure url.toOption
  else pure none

def logout (input : LogoutInput World) : Logout World LogoutResult := do
  let refreshTokenRevoked ←
    tryRevoke env .revokingRefreshToken "refresh_token" input.refreshToken
  let accessTokenRevoked ←
    tryRevoke env .revokingAccessToken "access_token" input.accessToken
  match ← tryStep .clearing (fun _ => none) input.clearLocalSession with
  | .error error => fail error
  | .ok _ =>
      let logoutUrl ← tryCreateUrl env input
      -- The result holds the array itself.
      let warnings ← observe LogoutState.warnings
      pure
        { localSessionCleared := true
          refreshTokenRevoked := refreshTokenRevoked
          accessTokenRevoked := accessTokenRevoked
          logoutUrl := logoutUrl
          warnings := warnings }

end ServerSdkClient

end Calls

/-! ## The steps of a call -/

namespace LogoutEvent

def step : LogoutEvent → LogoutStep
  | .began step => step
  | .ended step _ => step

/-- The warning about a step that failed. -/
def warning? : LogoutEvent → Option String
  | .ended step (.error error) => some (step.warning error)
  | _ => none

end LogoutEvent

def LogoutStep.events (step : LogoutStep)
    (result : Except SdkError (Option String)) : List LogoutEvent :=
  [.began step, .ended step result]

/-- The step was made once, or not at all. -/
def Attempts (step : LogoutStep) (attempted : Prop)
    (part : List LogoutEvent) : Prop :=
  (attempted ∧ ∃ result, part = step.events result) ∨
    (¬ attempted ∧ part = [])

section Steps

variable {World : Type}

open ServerSdkClient

/-- What a call returns, as the text in the end of its step. -/
def returning {Value : Type} (text : Value → Option String)
    (call : Call (Site World) SdkError Value) :
    Call (Site World) SdkError (Option String) :=
  fun site => ((call site).1.map text, (call site).2)

/-- The call that each step is about. -/
def LogoutStep.call (env : SdkEnv) (input : LogoutInput World) :
    LogoutStep → Call (Site World) SdkError (Option String)
  | .revokingRefreshToken => returning (fun _ => none)
      (ofClient (revokeToken env
        ⟨input.refreshToken.getD "", some "refresh_token"⟩))
  | .revokingAccessToken => returning (fun _ => none)
      (ofClient (revokeToken env
        ⟨input.accessToken.getD "", some "access_token"⟩))
  | .clearing => returning (fun _ => none) input.clearLocalSession
  | .creatingUrl => returning some
      (ofClient (createLogoutUrl env (logoutUrlInput input)))

/-- The calls behind the events: each step has run its call once, on what the
steps before it have left, and ended with what the call returned or threw.
Nothing else has changed the client or the rest of the program. -/
inductive Ran (env : SdkEnv) (input : LogoutInput World) :
    Site World → List LogoutEvent → Site World → Prop
  | nil (site : Site World) : Ran env input site [] site
  | step (step : LogoutStep) {site last : Site World}
      {rest : List LogoutEvent}
      (hrest : Ran env input (step.call env input site).2 rest last) :
      Ran env input site (step.events (step.call env input site).1 ++ rest)
        last

theorem Ran.append {env : SdkEnv} {input : LogoutInput World}
    {site middle last : Site World} {first second : List LogoutEvent}
    (hfirst : Ran env input site first middle)
    (hsecond : Ran env input middle second last) :
    Ran env input site (first ++ second) last := by
  induction hfirst with
  | nil site => exact hsecond
  | step step _ ih =>
      rw [List.append_assoc]
      exact .step step (ih hsecond)

/-- The events of a part of the call, the calls behind them, and the warnings
about them. -/
structure Adds (env : SdkEnv) (input : LogoutInput World)
    (part : List LogoutEvent) (st after : LogoutState World) : Prop where
  events : after.events = st.events ++ part
  warnings : after.warnings = st.warnings ++ part.filterMap LogoutEvent.warning?
  ran : Ran env input st.site part after.site

variable {env : SdkEnv} {input : LogoutInput World}

theorem Adds.trans {first second : List LogoutEvent}
    {st middle after : LogoutState World}
    (hfirst : Adds env input first st middle)
    (hsecond : Adds env input second middle after) :
    Adds env input (first ++ second) st after where
  events := by rw [hsecond.events, hfirst.events, List.append_assoc]
  warnings := by
    rw [hsecond.warnings, hfirst.warnings, List.append_assoc,
      List.filterMap_append]
  ran := hfirst.ran.append hsecond.ran

theorem adds_nil (st : LogoutState World) : Adds env input [] st st :=
  ⟨(List.append_nil _).symm, (List.append_nil _).symm, .nil st.site⟩

/-- A step inside of `try` runs the call it is about. -/
theorem tryStep_spec {Value : Type} (step : LogoutStep)
    (text : Value → Option String) (call : Call (Site World) SdkError Value)
    (hstep : step.call env input = returning text call)
    (st : LogoutState World) :
    ∃ result after, tryStep step text call st = (.ok result, after) ∧
      Adds env input (step.events (result.map text)) st after := by
  obtain ⟨state, world, warnings, events⟩ := st
  rcases hcall : call (state, world) with ⟨result, done⟩
  have hsettle : settle (during call)
      ⟨state, world, warnings, events ++ [LogoutEvent.began step]⟩ =
        (.ok result,
          ⟨done.1, done.2, warnings,
            events ++ [LogoutEvent.began step]⟩) := by
    simp only [settle, during, LogoutState.site, hcall]
  have hbegan : record (.began step) ⟨state, world, warnings, events⟩ =
      (.ok (), ⟨state, world, warnings,
        events ++ [LogoutEvent.began step]⟩) := rfl
  have hran : Ran env input (state, world) (step.events (result.map text))
      (done.1, done.2) := by
    have hreturned : step.call env input (state, world) =
        (result.map text, done) := by
      rw [hstep, returning, hcall]
    have hrun := Ran.step step
      (.nil (step.call env input (state, world)).2)
    rwa [hreturned, List.append_nil] at hrun
  rw [tryStep, bind_ok hbegan, bind_ok hsettle]
  cases result with
  | ok value =>
      refine ⟨.ok value, _, rfl, ?_, ?_, hran⟩
      · exact List.append_assoc _ _ _
      · exact (List.append_nil _).symm
  | error error =>
      refine ⟨.error error, _, rfl, ?_, ?_, hran⟩
      · exact List.append_assoc _ _ _
      · rfl

/-- `revoked` is what the end of the step says. -/
theorem tryRevoke_spec (step : LogoutStep) (tokenTypeHint : String)
    (token : Option String)
    (hstep : step.call env input = returning (fun _ => none)
      (ofClient (revokeToken env ⟨token.getD "", some tokenTypeHint⟩)))
    (st : LogoutState World) :
    ∃ part revoked after,
      tryRevoke env step tokenTypeHint token st = (.ok revoked, after) ∧
      Adds env input part st after ∧
      Attempts step ((orNull token).isSome = true) part ∧
      (revoked = true ↔ part = step.events (.ok none)) := by
  rw [tryRevoke]
  cases htoken : orNull token with
  | none =>
      refine ⟨[], false, st, rfl, adds_nil st, .inr ⟨nofun, rfl⟩, ?_⟩
      constructor
      · exact nofun
      · exact nofun
  | some text =>
      obtain ⟨hsome, -⟩ := orNull_eq_some htoken
      rw [hsome, Option.getD_some] at hstep
      obtain ⟨result, after, hrun, hadds⟩ := tryStep_spec step (fun _ => none)
        (ofClient (revokeToken env ⟨text, some tokenTypeHint⟩)) hstep st
      refine ⟨_, result.isOk, after, bind_ok hrun, hadds, .inl ⟨rfl, _, rfl⟩,
        ?_⟩
      cases result with
      | ok value => exact ⟨fun _ => rfl, fun _ => rfl⟩
      | error error =>
          constructor
          · exact nofun
          · exact nofun

theorem tryCreateUrl_spec (env : SdkEnv) (input : LogoutInput World)
    (st : LogoutState World) :
    ∃ part logoutUrl after,
      tryCreateUrl env input st = (.ok logoutUrl, after) ∧
      Adds env input part st after ∧
      Attempts .creatingUrl (input.mode = .global) part ∧
      ∀ url, logoutUrl = some url ↔
        part = LogoutStep.creatingUrl.events (.ok (some url)) := by
  rw [tryCreateUrl]
  by_cases hmode : input.mode = .global
  · rw [if_pos hmode]
    obtain ⟨result, after, hrun, hadds⟩ := tryStep_spec .creatingUrl some
      (ofClient (createLogoutUrl env (logoutUrlInput input))) rfl st
    refine ⟨_, result.toOption, after, bind_ok hrun, hadds,
      .inl ⟨hmode, _, rfl⟩, ?_⟩
    intro url
    cases result with
    | ok value => simp [LogoutStep.events, Except.toOption, Except.map]
    | error error => simp [LogoutStep.events, Except.toOption, Except.map]
  · rw [if_neg hmode]
    refine ⟨[], none, st, rfl, adds_nil st, .inr ⟨hmode, rfl⟩, ?_⟩
    intro url
    simp [LogoutStep.events]

/-- The calls of `logout`, with the part of the events that each adds. -/
structure LogoutParts (env : SdkEnv) (input : LogoutInput World)
    (site : Site World) (outcome : Except SdkError LogoutResult)
    (after : LogoutState World) where
  ran : Ran env input site after.events after.site
  refresh : List LogoutEvent
  access : List LogoutEvent
  cleared : Except SdkError (Option String)
  url : List LogoutEvent
  events : after.events =
    refresh ++ (access ++ (LogoutStep.clearing.events cleared ++ url))
  warnings : after.warnings = after.events.filterMap LogoutEvent.warning?
  refreshAttempts : Attempts .revokingRefreshToken
    ((orNull input.refreshToken).isSome = true) refresh
  accessAttempts : Attempts .revokingAccessToken
    ((orNull input.accessToken).isSome = true) access
  urlAttempts : Attempts .creatingUrl
    (cleared.isOk = true ∧ input.mode = .global) url
  returned : ∀ result, outcome = .ok result →
    cleared = .ok none ∧ result.localSessionCleared = true ∧
      (result.refreshTokenRevoked = true ↔
        refresh = LogoutStep.revokingRefreshToken.events (.ok none)) ∧
      (result.accessTokenRevoked = true ↔
        access = LogoutStep.revokingAccessToken.events (.ok none)) ∧
      (∀ text, result.logoutUrl = some text ↔
        url = LogoutStep.creatingUrl.events (.ok (some text))) ∧
      result.warnings = after.warnings
  rejected : ∀ error, outcome = .error error ↔ cleared = .error error

theorem logout_parts (env : SdkEnv) (input : LogoutInput World)
    (site : Site World) :
    Nonempty (LogoutParts env input site
      (logout env input (.start site)).1
      (logout env input (.start site)).2) := by
  obtain ⟨refresh, refreshRevoked, afterRefresh, hrefresh, haddsRefresh,
    hattemptsRefresh, hrefreshRevoked⟩ := @tryRevoke_spec World env input
      .revokingRefreshToken "refresh_token" input.refreshToken rfl
      (.start site)
  obtain ⟨access, accessRevoked, afterAccess, haccess, haddsAccess,
    hattemptsAccess, haccessRevoked⟩ := @tryRevoke_spec World env input
      .revokingAccessToken "access_token" input.accessToken rfl afterRefresh
  obtain ⟨cleared, afterClear, hclear, haddsClear⟩ :=
    @tryStep_spec World env input Unit .clearing (fun _ => none)
      input.clearLocalSession rfl afterAccess
  have hadds := haddsRefresh.trans (haddsAccess.trans haddsClear)
  rw [logout, bind_ok hrefresh, bind_ok haccess, bind_ok hclear]
  cases cleared with
  | error error =>
      refine ⟨⟨?_, refresh, access, .error error, [], ?_, ?_,
        hattemptsRefresh, hattemptsAccess, .inr ⟨nofun, rfl⟩, nofun, ?_⟩⟩
      · exact hadds.events.symm ▸ hadds.ran
      · rw [List.append_nil]
        exact hadds.events
      · exact hadds.warnings.trans
          (congrArg (List.filterMap LogoutEvent.warning?) hadds.events.symm)
      · intro other
        constructor
        · rintro hother
          cases hother
          rfl
        · intro hother
          cases hother
          rfl
  | ok value =>
      obtain ⟨url, logoutUrl, after, hurl, haddsUrl, hattemptsUrl, hlogoutUrl⟩ :=
        tryCreateUrl_spec env input afterClear
      have hall := haddsRefresh.trans (haddsAccess.trans
        (haddsClear.trans haddsUrl))
      dsimp only
      rw [bind_ok hurl]
      refine ⟨⟨?_, refresh, access, .ok none, url, hall.events, ?_,
        hattemptsRefresh, hattemptsAccess, ?_, ?_, ?_⟩⟩
      · exact hall.events.symm ▸ hall.ran
      · exact hall.warnings.trans
          (congrArg (List.filterMap LogoutEvent.warning?) hall.events.symm)
      · rcases hattemptsUrl with ⟨hmode, hpart⟩ | ⟨hmode, hpart⟩
        · exact .inl ⟨⟨rfl, hmode⟩, hpart⟩
        · exact .inr ⟨fun hglobal => hmode hglobal.2, hpart⟩
      · rintro result hresult
        cases hresult
        exact ⟨rfl, rfl, hrefreshRevoked, haccessRevoked, hlogoutUrl, rfl⟩
      · intro other
        constructor
        · exact nofun
        · exact nofun

end Steps

/-! ## The protocol -/

/-- The place of the step in a call. -/
def LogoutStep.index : LogoutStep → Nat
  | .revokingRefreshToken => 0
  | .revokingAccessToken => 1
  | .clearing => 2
  | .creatingUrl => 3

/-- What a call of `logout` keeps to.  Its events stand for calls that have
run, in their order; from them follow the result, the warnings and the
error. -/
structure LogoutProtocol {World : Type} (env : SdkEnv)
    (input : LogoutInput World) (site : Site World)
    (outcome : Except SdkError LogoutResult) (after : LogoutState World) :
    Prop where
  ran : Ran env input site after.events after.site
  once : ∀ step,
    (after.events.filter fun event => decide (event.step = step)) = [] ∨
      ∃ result, (after.events.filter fun event =>
        decide (event.step = step)) = step.events result
  ordered : (after.events.map fun event => event.step.index).Pairwise (· ≤ ·)
  attempted : ∀ step, .began step ∈ after.events ↔
    match step with
    | .revokingRefreshToken => (orNull input.refreshToken).isSome = true
    | .revokingAccessToken => (orNull input.accessToken).isSome = true
    | .clearing => True
    | .creatingUrl => outcome.isOk = true ∧ input.mode = .global
  clearedOnce : after.events.count (.began .clearing) = 1
  revokedBefore : ∀ before rest,
    after.events = before ++ .began .clearing :: rest →
      ∀ event ∈ rest, event.step ≠ .revokingRefreshToken ∧
        event.step ≠ .revokingAccessToken
  warned : after.warnings = after.events.filterMap LogoutEvent.warning?
  returned : ∀ result, outcome = .ok result →
    (result.localSessionCleared = true ↔
      .ended .clearing (.ok none) ∈ after.events) ∧
    (result.refreshTokenRevoked = true ↔
      .ended .revokingRefreshToken (.ok none) ∈ after.events) ∧
    (result.accessTokenRevoked = true ↔
      .ended .revokingAccessToken (.ok none) ∈ after.events) ∧
    (∀ url, result.logoutUrl = some url ↔
      .ended .creatingUrl (.ok (some url)) ∈ after.events) ∧
    result.warnings = after.warnings
  urlOnlyGlobal : ∀ result, outcome = .ok result →
    result.logoutUrl.isSome = true → input.mode = .global
  rejected : ∀ error, outcome = .error error ↔
    .ended .clearing (.error error) ∈ after.events

theorem Attempts.mem {step : LogoutStep} {attempted : Prop}
    {part : List LogoutEvent} (hattempts : Attempts step attempted part)
    {event : LogoutEvent} (hevent : event ∈ part) : event.step = step := by
  rcases hattempts with ⟨-, result, rfl⟩ | ⟨-, rfl⟩
  · rw [LogoutStep.events, List.mem_pair] at hevent
    rcases hevent with rfl | rfl
    · rfl
    · rfl
  · cases hevent

/-- The events of one step among those of a part. -/
theorem Attempts.filter {step other : LogoutStep} {attempted : Prop}
    {part : List LogoutEvent} (hattempts : Attempts step attempted part) :
    (part.filter fun event => decide (event.step = other)) =
      if step = other then part else [] := by
  split
  case isTrue hsame =>
      rw [List.filter_eq_self]
      intro event hevent
      exact decide_eq_true ((hattempts.mem hevent).trans hsame)
  case isFalse hother =>
      rw [List.filter_eq_nil_iff]
      intro event hevent
      rw [hattempts.mem hevent]
      simpa using hother

theorem Attempts.nil_or_events {step : LogoutStep} {attempted : Prop}
    {part : List LogoutEvent} (hattempts : Attempts step attempted part) :
    part = [] ∨ ∃ result, part = step.events result := by
  rcases hattempts with ⟨-, hpart⟩ | ⟨-, hpart⟩
  · exact .inr hpart
  · exact .inl hpart

theorem Attempts.map_index {step : LogoutStep} {attempted : Prop}
    {part : List LogoutEvent} (hattempts : Attempts step attempted part) :
    ∃ length, (part.map fun event => event.step.index) =
      List.replicate length step.index := by
  refine ⟨part.length, List.eq_replicate_iff.mpr ⟨List.length_map _, ?_⟩⟩
  intro index hindex
  obtain ⟨event, hevent, rfl⟩ := List.mem_map.mp hindex
  rw [hattempts.mem hevent]

theorem Attempts.began_iff {step : LogoutStep} {attempted : Prop}
    {part : List LogoutEvent} (hattempts : Attempts step attempted part) :
    .began step ∈ part ↔ attempted := by
  rcases hattempts with ⟨hattempted, result, rfl⟩ | ⟨hattempted, rfl⟩
  · simp [LogoutStep.events, hattempted]
  · simp [hattempted]

theorem Attempts.ended_iff {step : LogoutStep} {attempted : Prop}
    {part : List LogoutEvent} (hattempts : Attempts step attempted part)
    (result : Except SdkError (Option String)) :
    .ended step result ∈ part ↔ part = step.events result := by
  rcases hattempts with ⟨-, ended, rfl⟩ | ⟨-, rfl⟩
  · simp [LogoutStep.events, eq_comm]
  · simp [LogoutStep.events]

namespace LogoutParts

variable {World : Type} {env : SdkEnv} {input : LogoutInput World}
  {site : Site World} {outcome : Except SdkError LogoutResult}
  {after : LogoutState World}

/-- The events about each step are those of its part. -/
theorem mem_iff (parts : LogoutParts env input site outcome after)
    (event : LogoutEvent) :
    event ∈ after.events ↔
      match event.step with
      | .revokingRefreshToken => event ∈ parts.refresh
      | .revokingAccessToken => event ∈ parts.access
      | .clearing => event ∈ LogoutStep.clearing.events parts.cleared
      | .creatingUrl => event ∈ parts.url := by
  have hclearing : ∀ event ∈ LogoutStep.clearing.events parts.cleared,
      event.step = .clearing := by
    intro event hevent
    rw [LogoutStep.events, List.mem_pair] at hevent
    rcases hevent with rfl | rfl
    · rfl
    · rfl
  have hrefresh := fun hmem : event ∈ parts.refresh =>
    parts.refreshAttempts.mem hmem
  have haccess := fun hmem : event ∈ parts.access =>
    parts.accessAttempts.mem hmem
  have hurl := fun hmem : event ∈ parts.url => parts.urlAttempts.mem hmem
  rw [parts.events, List.mem_append, List.mem_append, List.mem_append]
  have hclear := hclearing event
  generalize event.step = step at hrefresh haccess hurl hclear
  cases step with
  | revokingRefreshToken => grind
  | revokingAccessToken => grind
  | clearing => grind
  | creatingUrl => grind

theorem once (parts : LogoutParts env input site outcome after) (step : LogoutStep) :
    (after.events.filter fun event => decide (event.step = step)) = [] ∨
      ∃ result, (after.events.filter fun event =>
        decide (event.step = step)) = step.events result := by
  have hclear : Attempts .clearing True
      (LogoutStep.clearing.events parts.cleared) :=
    .inl ⟨trivial, parts.cleared, rfl⟩
  rw [parts.events, List.filter_append, List.filter_append,
    List.filter_append, parts.refreshAttempts.filter, hclear.filter,
    parts.accessAttempts.filter, parts.urlAttempts.filter]
  cases step with
  | revokingRefreshToken =>
      simpa using parts.refreshAttempts.nil_or_events
  | revokingAccessToken => simpa using parts.accessAttempts.nil_or_events
  | clearing => exact .inr ⟨parts.cleared, by simp⟩
  | creatingUrl => simpa using parts.urlAttempts.nil_or_events

theorem ordered (parts : LogoutParts env input site outcome after) :
    (after.events.map fun event => event.step.index).Pairwise (· ≤ ·) := by
  have hclear : Attempts .clearing True
      (LogoutStep.clearing.events parts.cleared) :=
    .inl ⟨trivial, parts.cleared, rfl⟩
  rw [parts.events, List.map_append, List.map_append, List.map_append]
  obtain ⟨refresh, hrefresh⟩ := parts.refreshAttempts.map_index
  obtain ⟨access, haccess⟩ := parts.accessAttempts.map_index
  obtain ⟨cleared, hcleared⟩ := hclear.map_index
  obtain ⟨url, hurl⟩ := parts.urlAttempts.map_index
  rw [hrefresh, haccess, hcleared, hurl]
  simp only [List.pairwise_append, List.pairwise_replicate, List.mem_append,
    List.mem_replicate, LogoutStep.index]
  grind

theorem ended_iff (parts : LogoutParts env input site outcome after)
    (result : Except SdkError (Option String)) :
    (.ended .revokingRefreshToken result ∈ after.events ↔
      parts.refresh = LogoutStep.revokingRefreshToken.events result) ∧
    (.ended .revokingAccessToken result ∈ after.events ↔
      parts.access = LogoutStep.revokingAccessToken.events result) ∧
    (.ended .clearing result ∈ after.events ↔ parts.cleared = result) ∧
    (.ended .creatingUrl result ∈ after.events ↔
      parts.url = LogoutStep.creatingUrl.events result) := by
  refine ⟨?_, ?_, ?_, ?_⟩
  · exact (parts.mem_iff _).trans (parts.refreshAttempts.ended_iff result)
  · exact (parts.mem_iff _).trans (parts.accessAttempts.ended_iff result)
  · refine (parts.mem_iff _).trans ?_
    simp [LogoutEvent.step, LogoutStep.events, eq_comm]
  · exact (parts.mem_iff _).trans (parts.urlAttempts.ended_iff result)

theorem isOk_iff (parts : LogoutParts env input site outcome after) :
    outcome.isOk = true ↔ parts.cleared.isOk = true := by
  have hcases : (∃ result, outcome = .ok result) ∨
      ∃ error, outcome = .error error := by
    cases outcome with
    | ok result => exact .inl ⟨result, rfl⟩
    | error error => exact .inr ⟨error, rfl⟩
  rcases hcases with ⟨result, houtcome⟩ | ⟨error, houtcome⟩
  · have hcleared := (parts.returned result houtcome).1
    simp [houtcome, hcleared, Except.isOk, Except.toBool]
  · have hcleared := (parts.rejected error).mp houtcome
    simp [houtcome, hcleared, Except.isOk, Except.toBool]

theorem attempted (parts : LogoutParts env input site outcome after)
    (step : LogoutStep) :
    .began step ∈ after.events ↔
      match step with
      | .revokingRefreshToken => (orNull input.refreshToken).isSome = true
      | .revokingAccessToken => (orNull input.accessToken).isSome = true
      | .clearing => True
      | .creatingUrl => outcome.isOk = true ∧ input.mode = .global := by
  rw [parts.mem_iff]
  cases step with
  | revokingRefreshToken => exact parts.refreshAttempts.began_iff
  | revokingAccessToken => exact parts.accessAttempts.began_iff
  | clearing => simp [LogoutEvent.step, LogoutStep.events]
  | creatingUrl =>
      rw [parts.isOk_iff]
      exact parts.urlAttempts.began_iff

theorem protocol (parts : LogoutParts env input site outcome after) :
    LogoutProtocol env input site outcome after where
  ran := parts.ran
  once := parts.once
  ordered := parts.ordered
  attempted := parts.attempted
  clearedOnce := by
    rcases parts.once .clearing with hnone | ⟨result, hevents⟩
    · have hbegan := (parts.attempted .clearing).mpr trivial
      rw [List.filter_eq_nil_iff] at hnone
      exact absurd (decide_eq_true rfl) (hnone _ hbegan)
    · have hcount : (after.events.filter fun event =>
          decide (event.step = .clearing)).count (.began .clearing) =
            after.events.count (.began .clearing) :=
        List.count_filter (decide_eq_true rfl)
      rw [← hcount, hevents]
      rfl
  revokedBefore := by
    intro before rest hsplit event hevent
    have hordered := parts.ordered
    rw [hsplit, List.map_append, List.map_cons, List.pairwise_append,
      List.pairwise_cons] at hordered
    have hindex := hordered.2.1.1 _ (List.mem_map_of_mem hevent)
    generalize event.step = step at hindex
    cases step with
    | revokingRefreshToken => exact absurd hindex (by decide)
    | revokingAccessToken => exact absurd hindex (by decide)
    | clearing => exact ⟨nofun, nofun⟩
    | creatingUrl => exact ⟨nofun, nofun⟩
  warned := parts.warnings
  returned := by
    intro result hresult
    obtain ⟨hcleared, hlocal, hrefresh, haccess, hurl, hwarnings⟩ :=
      parts.returned result hresult
    refine ⟨?_, ?_, ?_, ?_, hwarnings⟩
    · rw [hlocal, (parts.ended_iff _).2.2.1, hcleared]
      exact ⟨fun _ => rfl, fun _ => rfl⟩
    · exact hrefresh.trans (parts.ended_iff _).1.symm
    · exact haccess.trans (parts.ended_iff _).2.1.symm
    · exact fun url => (hurl url).trans (parts.ended_iff _).2.2.2.symm
  urlOnlyGlobal := by
    intro result hresult hsome
    obtain ⟨-, -, -, -, hurl, -⟩ := parts.returned result hresult
    obtain ⟨url, hlogoutUrl⟩ := Option.isSome_iff_exists.mp hsome
    have hpart := (hurl url).mp hlogoutUrl
    rcases parts.urlAttempts with ⟨hattempted, -⟩ | ⟨-, hnone⟩
    · exact hattempted.2
    · rw [hnone] at hpart
      cases hpart
  rejected := by
    intro error
    exact (parts.rejected error).trans (parts.ended_iff _).2.2.1.symm

end LogoutParts

/-- Whatever the client, the program around it and the hook do, a call of
`logout` runs the hook once, after the revocations, and reports what has become
of each call. -/
theorem logout_protocol {World : Type} (env : SdkEnv)
    (input : LogoutInput World) (site : Site World) :
    LogoutProtocol env input site
      (ServerSdkClient.logout env input (.start site)).1
      (ServerSdkClient.logout env input (.start site)).2 := by
  obtain ⟨parts⟩ := logout_parts env input site
  exact parts.protocol

namespace LogoutWitness

/-- A provider whose revocation endpoint fails. -/
def env : SdkEnv where
  issuer := "https://login.example.com/"
  clientId := "client"
  clientSecret := "secret"
  numbers := .ofTexts
  fetch _ request :=
    if request.url =
        .str "https://login.example.com/.well-known/openid-configuration" then
      .response 200 (.ok
        (.obj [("revocation_endpoint",
          .str "https://login.example.com/revoke")]))
    else .response 503 (.error (.error "Unexpected token"))
  newUrl _ := .error (.error "Invalid URL")
  searchParamsSet url _ _ := url

/-- The hook counts its calls. -/
def input : LogoutInput Nat where
  mode := .global
  refreshToken := some "refresh-token"
  accessToken := none
  idTokenHint := none
  postLogoutRedirectUri := none
  state := none
  clearLocalSession := change fun site => (site.1, site.2 + 1)

example : (ServerSdkClient.logout env input (.start (.fresh, 0))).1 =
    .ok
      { localSessionCleared := true
        refreshTokenRevoked := false
        accessTokenRevoked := false
        logoutUrl := none
        warnings := ["refresh_token_revoke_failed:oidc_http_error",
          "global_logout_url_failed:oidc_unsupported"] } ∧
    (ServerSdkClient.logout env input (.start (.fresh, 0))).2.world = 1 := by
  decide +kernel

end LogoutWitness

end IdProvider
