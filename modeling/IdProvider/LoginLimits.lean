/-
How many logins of one email address get past its counter to the password
check, whatever other requests run beside them.
-/
import IdProvider.BotRisk
import IdProvider.Interleaving
import IdProvider.LoginWrites
import Mathlib.Data.List.Perm.Subperm

namespace IdProvider

open Interleaving KeyedTable ServiceCall AuthService

/-! ## Requests side by side -/

/-- What the history of a run says about the logins of an address.  A login
reaches the password check with the ticket of the counter, if it has one. -/
inductive AttemptEvent where
  | counted (email : String)
  | reached (email : String) (ticket : Option Nat)
  deriving DecidableEq

abbrev LoginStore : Type := Ledger ServiceState AttemptEvent

inductive LoginCall where
  | route (request : LoginRequest) (draw : SessionDraw)
  | interaction (form : InteractionForm) (draw : SessionDraw)

inductive LoginThread where
  | route (request : LoginRequest) (draw : SessionDraw) (phase : RoutePhase)
  | login (ticket : Option Nat) (input : LoginInput) (draw : SessionDraw)
      (phase : LoginPhase)

def RoutePhase.attempts (request : LoginRequest) :
    RoutePhase → RoutePhase → List AttemptEvent
  | .assessingEmail _, .assessed (some _) _ => [.counted request.email]
  | _, _ => []

def RoutePhase.thread (request : LoginRequest) (draw : SessionDraw) :
    RoutePhase → Option LoginThread
  | .admitted ticket => some (.login ticket request.input draw .readingHash)
  | phase => some (.route request draw phase)

def LoginPhase.attempts (ticket : Option Nat) (input : LoginInput) :
    LoginPhase → LoginPhase → List AttemptEvent
  | .readingHash, .verifying _ (some _) => [.reached input.email ticket]
  | _, _ => []

def LoginPhase.loginThread (ticket : Option Nat) (input : LoginInput)
    (draw : SessionDraw) : LoginPhase → Option LoginThread
  | .done _ => none
  | phase => some (.login ticket input draw phase)

def advanceLogin (env : BotEnv) (store : LoginStore) :
    LoginThread → LoginStore × Option LoginThread
  | .route request draw phase =>
      store.perform
        (phase.next env request
          (store.history.count (.counted request.email)))
        (phase.attempts request) (RoutePhase.thread request draw)
  | .login ticket input draw phase =>
      store.perform (phase.next env.toLoginEnv input draw 0)
        (phase.attempts ticket input) (LoginPhase.loginThread ticket input draw)

/-- The counter of an address. -/
def emailCounter (email : String) (st : ServiceState) : Option RateCounter :=
  st.counters ("rl:" ++ emailRiskKey "login" email)

/-- What other requests do meanwhile; none has this counter. -/
structure OtherRequest where
  apply : ServiceState → ServiceState
  emailCounter : ∀ email st,
    emailCounter email (apply st) = emailCounter email st

def loginProgram (env : BotEnv) :
    Program LoginStore LoginThread LoginCall Unit OtherRequest where
  start
    | .route request draw => .route request draw .limiting
    | .interaction form draw => .login none form.input draw .readingHash
  advance store thread _ := some (advanceLogin env store thread)
  abort store _ := store
  environment store event :=
    some { store with state := event.apply store.state }

abbrev LoginPool : Type := Pool LoginStore LoginThread Nat

abbrev LoginAction : Type :=
  Interleaving.Action LoginCall Unit OtherRequest Nat

def LoginPool.start (service : ServiceState) : LoginPool :=
  Pool.start ⟨service, []⟩

/-! ## The claim -/

/-- The tickets with which logins of the address reached the password check. -/
def reachedWith (email : String) (history : List AttemptEvent) :
    List (Option Nat) :=
  history.filterMap fun event =>
    match event with
    | .counted _ => none
    | .reached other ticket => if other = email then some ticket else none

/-- At most the threshold of logins of the address have reached it. -/
def AttemptsBounded (env : BotEnv) (email : String) (store : LoginStore) :
    Prop :=
  (reachedWith email store.history).length ≤
    env.botRiskLoginThresholdPerWindow

/-- The counter of the address does not run when its requests start. -/
def NoLiveCounter (email : String) (start : Instant) (st : ServiceState) :
    Prop :=
  ∀ counter, emailCounter email st = some counter →
    counter.expiresAt ≤ start

/-- Requests of the address consume its counter within the window. -/
def InWindow (env : BotEnv) (email : String) (start : Instant)
    (store : LoginStore) : LoginThread → Unit → Prop
  | .route request _ (.assessingEmail _), _ => request.email = email →
      start ≤ (store.state.readings store.state.ticks).now ∧
        (store.state.readings store.state.ticks).now <
          start + env.botRiskWindowSeconds * 1000
  | _, _ => True

/-- The login finds a password to check. -/
structure FindsPassword (input : LoginInput) (st : ServiceState) : Prop where
  one : ¬ (given input.mfa.mfaCode = true ∧
    given input.mfa.mfaRecoveryCode = true)
  answers : (st.readings st.ticks).fails = false
  found : (findWithPasswordByEmail st.db input.email).isSome = true

/-- No login of the address finds a password to check that has not consumed
the counter of the address. -/
def OnlyCounted (email : String) (store : LoginStore) :
    LoginThread → Unit → Prop
  | .login none input _ .readingHash, _ => input.email = email →
      ¬ FindsPassword input store.state
  | _, _ => True

/-! ## Frames -/

section Frames

variable {Value : Type} {env : BotEnv}

def SameCounter (email : String) (before after : ServiceState) : Prop :=
  emailCounter email after = emailCounter email before

instance (email : String) : IsPreorder ServiceState (SameCounter email) where
  refl _ := rfl
  trans _ _ _ hfirst hsecond := hsecond.trans hfirst

theorem ne_emailRiskKey {text email : String}
    (htext : ∀ rest, text.toList ≠ "bot-risk:login:email:".toList ++ rest) :
    "rl:" ++ emailRiskKey "login" email ≠ "rl:" ++ text := by
  intro heq
  apply htext email.toList
  have hlist := congrArg String.toList heq
  rw [String.toList_append, String.toList_append, List.append_cancel_left_eq]
    at hlist
  rw [← hlist, emailRiskKey, ← String.toList_append]
  rfl

theorem emailRiskKey_inj {email other : String}
    (hkey : "rl:" ++ emailRiskKey "login" email =
      "rl:" ++ emailRiskKey "login" other) : email = other := by
  have hlist := congrArg String.toList hkey
  simp only [emailRiskKey, String.toList_append,
    List.append_cancel_left_eq] at hlist
  exact String.toList_inj.mp hlist

theorem LoginWrite.sameCounter {before after : ServiceState} (email : String)
    (hwrite : LoginWrite before after) : SameCounter email before after := by
  cases hwrite with
  | read hticked =>
      obtain ⟨count, rfl⟩ := hticked
      rfl
  | count rest counter =>
      have hkey : "rl:" ++ emailRiskKey "login" email ≠
          "rl:" ++ ("mfa-recovery" ++ rest) := by
        apply ne_emailRiskKey
        intro other hother
        rw [String.toList_append] at hother
        cases hother
      exact if_neg (t := counter) hkey
  | _ => rfl

theorem sameCounter_of_writes {call : Service Value} (email : String)
    (hcall : Relates LoginWrites call) : Relates (SameCounter email) call :=
  relates_of_writes hcall fun _ _ => LoginWrite.sameCounter email

/-- One increment, or none when Redis fails. -/
theorem consume_spec (counterKey : String) (limit windowSeconds : Nat)
    (st : ServiceState) :
    Ensures (RateLimiter.consume counterKey limit windowSeconds)
      (fun outcome after =>
        (∃ error, outcome = .error error ∧ after.counters = st.counters) ∨
          ∃ counter, counter = RateLimiter.increment
              (st.counters ("rl:" ++ counterKey))
              (st.readings st.ticks).now windowSeconds ∧
            outcome = .ok (if limit < counter.count then ⟨false, 0⟩
              else ⟨true, limit - counter.count⟩) ∧
            after.counters = fun other =>
              if other = "rl:" ++ counterKey then some counter
              else st.counters other) st := by
  by_cases hfails : (st.readings st.ticks).fails = true
  · unfold Ensures RateLimiter.consume
    rw [external_of_fails hfails]
    exact .inl ⟨_, rfl, rfl⟩
  · rw [Bool.not_eq_true] at hfails
    unfold Ensures RateLimiter.consume
    rw [external_of_answers hfails]
    exact .inr ⟨_, rfl, rfl, rfl⟩

theorem sameCounter_consume {email counterKey : String}
    (hkey : "rl:" ++ emailRiskKey "login" email ≠ "rl:" ++ counterKey)
    (limit windowSeconds : Nat) :
    Relates (SameCounter email)
      (RateLimiter.consume counterKey limit windowSeconds) := by
  intro st
  unfold SameCounter emailCounter
  rcases consume_spec counterKey limit windowSeconds st with
    ⟨error, -, hcounters⟩ | ⟨counter, -, -, hcounters⟩
  · rw [hcounters]
  · rw [hcounters]
    exact if_neg hkey

/-! ### The parts of a route -/

theorem writes_enforceRiskLevel (request : LoginRequest)
    (riskLevel : BotRiskLevel) :
    Relates LoginWrites (AuthRoutes.enforceRiskLevel env request riskLevel) := by
  apply relates_ite
  · exact writes_report _ _ _ (relates_fail _)
  refine relates_ite ?_ (relates_pure _)
  refine relates_ite (relates_pure _) ?_
  split
  case h_1 => exact writes_report _ _ _ (relates_fail _)
  case h_2 =>
    apply Relates.bind
    · exact writes_of_reads (reads_nextReading.bind fun _ => relates_pure _)
    intro answer
    cases answer with
    | error error =>
        apply writes_report
        exact relates_ite (relates_pure _) (relates_fail _)
    | ok verification =>
        refine relates_ite ?_ (relates_pure _)
        exact writes_report _ _ _ (relates_fail _)

theorem sameCounter_limiting (request : LoginRequest) (email : String)
    (newTicket : Nat) :
    Relates (SameCounter email)
      (RoutePhase.limiting.next env request newTicket) := by
  apply Relates.bind
  · apply sameCounter_consume
    apply ne_emailRiskKey
    intro rest hrest
    simp only [String.toList_append] at hrest
    cases hrest
  · exact fun _ => relates_ite (relates_fail _) (relates_pure _)

theorem sameCounter_assessingIp (request : LoginRequest) (email : String)
    (newTicket : Nat) :
    Relates (SameCounter email)
      (RoutePhase.assessingIp.next env request newTicket) := by
  apply Relates.bind
  · apply sameCounter_consume
    apply ne_emailRiskKey
    intro rest hrest
    simp only [ipRiskKey, LoginRequest.botRisk, String.toList_append] at hrest
    cases hrest
  · intro ipRate
    refine relates_ite (relates_pure _) ?_
    refine relates_ite (relates_pure _) ?_
    exact relates_ite (relates_pure _) (relates_pure _)

/-! ### The parts of a login -/

variable (env) (input : LoginInput) (draw : SessionDraw)

/-- No part leads back to the first one. -/
theorem loginNext_ne (newTicket : Nat) (phase : LoginPhase) :
    Yields (phase.next env.toLoginEnv input draw newTicket)
      fun next => next ≠ .readingHash := by
  cases phase with
  | readingHash =>
      exact yields_ite yields_fail (yields_bind fun _ => yields_pure nofun)
  | verifying ticket user =>
      rcases user with _ | user
      · exact yields_bind fun _ => yields_pure nofun
      · apply yields_bind
        intro isValidPassword
        refine yields_ite (yields_pure nofun) ?_
        exact yields_bind fun _ => yields_pure nofun
  | recording ticket user =>
      apply yields_bind
      intro _
      refine yields_ite ?_ (yields_pure nofun)
      exact yields_bind fun _ => yields_pure nofun
  | admitting ticket userId =>
      apply yields_bind
      intro admission
      rcases admission with _ | _
      · exact yields_pure nofun
      · exact yields_pure nofun
  | opening ticket userId mfaEnabled adaptiveRisk =>
      exact yields_bind fun _ => yields_pure nofun
  | done result => exact yields_pure nofun

/-- The first part finds a password to check, or nobody. -/
theorem readingHash_spec (newTicket : Nat) (st : ServiceState) :
    Ensures (LoginPhase.readingHash.next env.toLoginEnv input draw newTicket)
      (fun outcome _ => ∀ next, outcome = .ok next →
        ∃ user, next = .verifying newTicket user ∧
          (user.isSome = true → FindsPassword input st)) st := by
  apply ensures_ite
  · intro _ next hnext
    cases hnext
  intro hone
  by_cases hfails : (st.readings st.ticks).fails = true
  · unfold Ensures
    rw [bind_error (select_of_fails hfails)]
    intro next hnext
    cases hnext
  · rw [Bool.not_eq_true] at hfails
    unfold Ensures
    rw [bind_ok (select_of_answers hfails)]
    intro next hnext
    cases hnext
    exact ⟨_, rfl, fun hfound => ⟨hone, hfails, hfound⟩⟩

end Frames

/-! ## What a step does -/

/-- The ticket with which the thread is to reach the password check. -/
def RoutePhase.ticket : RoutePhase → Option Nat
  | .assessed ticket _ => ticket
  | .admitted ticket => ticket
  | _ => none

def LoginThread.ticket (email : String) : LoginThread → Option Nat
  | .route request _ phase =>
      if request.email = email then phase.ticket else none
  | .login ticket input _ .readingHash =>
      if input.email = email then ticket else none
  | .login _ _ _ _ => none

theorem ticket_login {ticket : Option Nat} {input : LoginInput}
    {draw : SessionDraw} {phase : LoginPhase} (email : String)
    (hphase : phase ≠ .readingHash) :
    (LoginThread.login ticket input draw phase).ticket email = none := by
  cases phase with
  | readingHash => exact absurd rfl hphase
  | _ => rfl

theorem ticket_thread {request : LoginRequest} {draw : SessionDraw}
    {phase : RoutePhase} {thread : LoginThread}
    (hthread : phase.thread request draw = some thread) (email : String) :
    thread.ticket email =
      if request.email = email then phase.ticket else none := by
  cases phase with
  | _ =>
      cases hthread
      rfl

theorem ticket_loginThread {ticket : Option Nat} {input : LoginInput}
    {draw : SessionDraw} {phase : LoginPhase} {thread : LoginThread}
    (hthread : phase.loginThread ticket input draw = some thread)
    (email : String) (hphase : phase ≠ .readingHash) :
    thread.ticket email = none := by
  cases phase with
  | done result => cases hthread
  | _ =>
      cases hthread
      exact ticket_login email hphase

section Steps

variable {env : BotEnv} {email : String} {store : LoginStore}

/-- Nothing changes that the counter of the address is about. -/
structure Quiet (email : String) (store : LoginStore)
    (ticket : Option Nat) (result : LoginStore × Option LoginThread) :
    Prop where
  counter : SameCounter email store.state result.1.state
  counted : result.1.history.count (.counted email) =
    store.history.count (.counted email)
  reached : reachedWith email result.1.history =
    reachedWith email store.history
  ticket : ∀ next, result.2 = some next →
    next.ticket email = none ∨ next.ticket email = ticket

/-- The counter of the address is incremented. -/
structure Consumed (env : BotEnv) (email : String) (store : LoginStore)
    (counter : RateCounter) (result : LoginStore × Option LoginThread) :
    Prop where
  increment : counter = RateLimiter.increment
    (emailCounter email store.state)
    (store.state.readings store.state.ticks).now env.botRiskWindowSeconds
  stored : emailCounter email result.1.state = some counter
  reached : reachedWith email result.1.history =
    reachedWith email store.history
  outcome : (counter.count ≤ env.botRiskLoginThresholdPerWindow ∧
      result.1.history.count (.counted email) =
        store.history.count (.counted email) + 1 ∧
      ∀ next, result.2 = some next → next.ticket email =
        some (store.history.count (.counted email))) ∨
    (result.1.history.count (.counted email) =
        store.history.count (.counted email) ∧
      ∀ next, result.2 = some next → next.ticket email = none)

/-- A login of the address reaches the password check. -/
structure Reached (email : String) (store : LoginStore)
    (ticket : Option Nat) (result : LoginStore × Option LoginThread) :
    Prop where
  counter : SameCounter email store.state result.1.state
  counted : result.1.history.count (.counted email) =
    store.history.count (.counted email)
  reached : reachedWith email result.1.history =
    reachedWith email store.history ++ [ticket]
  ticket : ∀ next, result.2 = some next → next.ticket email = none

theorem quiet_error {ticket : Option Nat} {after : ServiceState}
    (hcounter : SameCounter email store.state after) :
    Quiet email store ticket (⟨after, store.history⟩, none) where
  counter := hcounter
  counted := rfl
  reached := rfl
  ticket _ hnext := by cases hnext

theorem Quiet.of_none {ticket : Option Nat}
    {result : LoginStore × Option LoginThread}
    (hquiet : Quiet email store none result) :
    Quiet email store ticket result :=
  { hquiet with
    ticket := fun next hnext => .inl (or_self_iff.mp (hquiet.ticket next hnext)) }

theorem route_quiet {request : LoginRequest} {draw : SessionDraw}
    {phase : RoutePhase} {part : Service RoutePhase}
    (hcounter : Relates (SameCounter email) part)
    (hticket : Yields part fun next =>
      next.ticket = none ∨ next.ticket = phase.ticket)
    (hevents : ∀ next, phase.attempts request next = []) :
    Quiet email store ((LoginThread.route request draw phase).ticket email)
      (store.perform part (phase.attempts request)
        (RoutePhase.thread request draw)) := by
  apply Ledger.perform_spec
    ((hcounter.ensures store.state).and (hticket.ensures store.state))
  · rintro next after ⟨hsame, hyields⟩
    rw [hevents, List.append_nil]
    refine ⟨hsame, rfl, rfl, fun thread hthread => ?_⟩
    rw [ticket_thread hthread, LoginThread.ticket]
    by_cases hemail : request.email = email
    · rw [if_pos hemail, if_pos hemail]
      exact hyields next rfl
    · exact .inl (if_neg hemail)
  · exact fun error after hafter => quiet_error hafter.1

theorem ticket_limiting (request : LoginRequest) (newTicket : Nat) :
    Yields (RoutePhase.limiting.next env request newTicket)
      fun next => next.ticket = none :=
  yields_bind fun _ => yields_ite yields_fail (yields_pure rfl)

theorem ticket_assessingIp (request : LoginRequest) (newTicket : Nat) :
    Yields (RoutePhase.assessingIp.next env request newTicket)
      fun next => next.ticket = none := by
  apply yields_bind
  intro ipRate
  refine yields_ite (yields_pure rfl) ?_
  refine yields_ite (yields_pure rfl) ?_
  exact yields_ite (yields_pure rfl) (yields_pure rfl)

theorem reachedWith_append (email : String) (left right : List AttemptEvent) :
    reachedWith email (left ++ right) =
      reachedWith email left ++ reachedWith email right :=
  List.filterMap_append

theorem reachedWith_counted {request : LoginRequest} {phase next : RoutePhase}
    (email : String) : reachedWith email (phase.attempts request next) = [] := by
  unfold RoutePhase.attempts
  split
  case h_1 => rfl
  case h_2 => rfl

theorem not_mem_attempts {request : LoginRequest} {phase next : RoutePhase}
    (hemail : request.email ≠ email) :
    .counted email ∉ phase.attempts request next := by
  unfold RoutePhase.attempts
  split
  case h_1 =>
    intro hmem
    cases List.mem_singleton.mp hmem
    exact hemail rfl
  case h_2 => exact List.not_mem_nil

theorem count_attempts {ticket : Option Nat} {input : LoginInput}
    {phase next : LoginPhase} (email : String) :
    (phase.attempts ticket input next).count (.counted email) = 0 := by
  unfold LoginPhase.attempts
  split
  case h_1 => rfl
  case h_2 => rfl

theorem reachedWith_attempts {ticket : Option Nat} {input : LoginInput}
    {phase next : LoginPhase}
    (hphase : phase = .readingHash → input.email ≠ email) :
    reachedWith email (phase.attempts ticket input next) = [] := by
  unfold LoginPhase.attempts
  split
  case h_1 => simp [reachedWith, hphase rfl]
  case h_2 => rfl

theorem assessingEmail_spec (request : LoginRequest)
    (ipRate : RateLimiter.RateLimit) (newTicket : Nat) (st : ServiceState) :
    Ensures ((RoutePhase.assessingEmail ipRate).next env request newTicket)
      (fun outcome after =>
        (∃ error, outcome = .error error ∧
          SameCounter request.email st after) ∨
        ∃ counter riskLevel, counter = RateLimiter.increment
            (emailCounter request.email st) (st.readings st.ticks).now
            env.botRiskWindowSeconds ∧
          emailCounter request.email after = some counter ∧
          outcome = .ok (.assessed
            (if env.botRiskLoginThresholdPerWindow < counter.count then none
            else some newTicket) riskLevel)) st := by
  apply Ensures.bind (consume_spec _ _ _ st)
  · rintro emailRate after (⟨error, hok, -⟩ | ⟨counter, hcounter, hok, hall⟩)
    · cases hok
    · right
      refine ⟨counter, emailRiskLevel env ipRate emailRate, hcounter, ?_, ?_⟩
      · exact (congrFun hall _).trans (if_pos rfl)
      · cases hok
        by_cases hlimit : env.botRiskLoginThresholdPerWindow < counter.count
        · simp only [if_pos hlimit]
          rfl
        · simp only [if_neg hlimit]
          rfl
  · rintro error after (⟨_, -, hsame⟩ | ⟨counter, -, hok, -⟩)
    · refine .inl ⟨error, rfl, ?_⟩
      unfold SameCounter emailCounter
      rw [hsame]
    · cases hok

/-- The counter is incremented, or left alone. -/
def Counts (env : BotEnv) (email : String) (store : LoginStore)
    (result : LoginStore × Option LoginThread) : Prop :=
  Quiet email store none result ∨
    ∃ counter, Consumed env email store counter result

/-- The part of a route that consumes the counter of its address. -/
theorem route_counts (env : BotEnv) (store : LoginStore)
    (request : LoginRequest) (draw : SessionDraw) (ipRate : RateLimiter.RateLimit) :
    Counts env request.email store (advanceLogin env store
      (.route request draw (.assessingEmail ipRate))) := by
  apply Ledger.perform_spec (assessingEmail_spec request ipRate _ store.state)
  · rintro next after
      (⟨error, hok, -⟩ | ⟨counter, riskLevel, hincrement, hstored, hok⟩)
    · cases hok
    right
    refine ⟨counter, hincrement, hstored, ?_, ?_⟩
    · rw [reachedWith_append, reachedWith_counted, List.append_nil]
    by_cases hlimit : env.botRiskLoginThresholdPerWindow < counter.count
    · rw [if_pos hlimit] at hok
      cases hok
      refine .inr ⟨congrArg _ (List.append_nil _), fun thread hthread => ?_⟩
      have hnext : RoutePhase.thread request draw (.assessed none riskLevel) =
          some thread := hthread
      exact (ticket_thread hnext _).trans (if_pos rfl)
    · rw [if_neg hlimit] at hok
      cases hok
      refine .inl ⟨Nat.not_lt.mp hlimit, ?_, fun thread hthread => ?_⟩
      · exact List.count_append.trans
          (congrArg _ (List.count_singleton_self))
      · have hnext : RoutePhase.thread request draw
            (.assessed (some (store.history.count (.counted request.email)))
              riskLevel) = some thread := hthread
        exact (ticket_thread hnext _).trans (if_pos rfl)
  · rintro error after (⟨_, -, hsame⟩ | ⟨counter, _, -, -, hok⟩)
    · exact .inl (quiet_error hsame)
    · cases hok

/-- A route of another address. -/
theorem route_quiet_of_ne {request : LoginRequest} {draw : SessionDraw}
    {ipRate : RateLimiter.RateLimit} (hemail : request.email ≠ email) :
    Quiet email store
      ((LoginThread.route request draw (.assessingEmail ipRate)).ticket email)
      (advanceLogin env store
        (.route request draw (.assessingEmail ipRate))) := by
  have hcounter : Relates (SameCounter email)
      ((RoutePhase.assessingEmail ipRate).next env request
        (store.history.count (.counted request.email))) := by
    apply Relates.bind
    · apply sameCounter_consume
      exact fun hkey => hemail (emailRiskKey_inj hkey).symm
    · exact fun _ => relates_pure _
  apply Ledger.perform_spec (hcounter.ensures store.state)
  · intro next after hsame
    refine ⟨hsame, ?_, ?_, fun thread hthread => .inl ?_⟩
    · dsimp only
      rw [List.count_append,
        List.count_eq_zero_of_not_mem (not_mem_attempts hemail), Nat.add_zero]
    · rw [reachedWith_append, reachedWith_counted, List.append_nil]
    · exact (ticket_thread hthread email).trans (if_neg hemail)
  · exact fun error after hafter => quiet_error hafter

/-- A login after its first part, or of another address. -/
theorem login_quiet {ticket : Option Nat} {input : LoginInput}
    {draw : SessionDraw} {phase : LoginPhase}
    (hphase : phase = .readingHash → input.email ≠ email) :
    Quiet email store
      ((LoginThread.login ticket input draw phase).ticket email)
      (advanceLogin env store (.login ticket input draw phase)) := by
  have hcounter := sameCounter_of_writes email
    (writes_loginNext env.toLoginEnv input draw 0 phase)
  apply Ledger.perform_spec ((hcounter.ensures store.state).and
    ((loginNext_ne env input draw 0 phase).ensures store.state))
  · rintro next after ⟨hsame, hnext⟩
    refine ⟨hsame, ?_, ?_, fun thread hthread => .inl ?_⟩
    · dsimp only
      rw [List.count_append, count_attempts, Nat.add_zero]
    · rw [reachedWith_append, reachedWith_attempts hphase, List.append_nil]
    · exact ticket_loginThread hthread email (hnext next rfl)
  · exact fun error after hafter => quiet_error hafter.1

/-- The first part of a login of the address. -/
def Checks (store : LoginStore) (ticket : Option Nat) (input : LoginInput)
    (result : LoginStore × Option LoginThread) : Prop :=
  Quiet input.email store none result ∨
    (FindsPassword input store.state ∧
      Reached input.email store ticket result)

theorem login_checks (env : BotEnv) (store : LoginStore)
    (ticket : Option Nat) (input : LoginInput) (draw : SessionDraw) :
    Checks store ticket input (advanceLogin env store
      (.login ticket input draw .readingHash)) := by
  have hcounter := sameCounter_of_writes input.email
    (writes_loginNext env.toLoginEnv input draw 0 .readingHash)
  apply Ledger.perform_spec ((hcounter.ensures store.state).and
    (readingHash_spec env input draw 0 store.state))
  · rintro next after ⟨hsame, hnext⟩
    obtain ⟨user, rfl, hfinds⟩ := hnext next rfl
    have hticket : ∀ thread,
        (LoginPhase.verifying 0 user).loginThread ticket input draw =
          some thread → thread.ticket input.email = none :=
      fun thread hthread => ticket_loginThread hthread _ nofun
    rcases user with _ | user
    · refine .inl ⟨hsame, congrArg _ (List.append_nil _),
        congrArg _ (List.append_nil _), fun thread hthread => .inl ?_⟩
      exact hticket thread hthread
    · refine .inr ⟨hfinds rfl, hsame, ?_, ?_, hticket⟩
      · dsimp only
        rw [List.count_append, count_attempts, Nat.add_zero]
      · rw [reachedWith_append]
        simp [reachedWith, LoginPhase.attempts]
  · exact fun error after hafter => .inl (quiet_error hafter.1)

theorem advance_cases (env : BotEnv) (email : String) (store : LoginStore)
    (thread : LoginThread) :
    let result := advanceLogin env store thread
    Quiet email store (thread.ticket email) result ∨
      (∃ request draw ipRate counter,
        thread = .route request draw (.assessingEmail ipRate) ∧
          request.email = email ∧
          Consumed env email store counter result) ∨
      ∃ ticket input draw, thread = .login ticket input draw .readingHash ∧
        input.email = email ∧ FindsPassword input store.state ∧
        Reached email store ticket result := by
  intro result
  cases thread with
  | route request draw phase =>
      cases phase with
      | limiting =>
          refine .inl (route_quiet (sameCounter_limiting request email _)
            ?_ fun _ => rfl)
          exact fun st next hnext => .inl (ticket_limiting request _ st next hnext)
      | assessingIp =>
          refine .inl (route_quiet (sameCounter_assessingIp request email _)
            ?_ fun _ => rfl)
          exact fun st next hnext =>
            .inl (ticket_assessingIp request _ st next hnext)
      | assessingEmail ipRate =>
          by_cases hemail : request.email = email
          · subst hemail
            rcases route_counts env store request draw ipRate with
              hquiet | ⟨counter, hconsumed⟩
            · exact .inl hquiet.of_none
            · exact .inr (.inl ⟨request, draw, ipRate, counter, rfl, rfl,
                hconsumed⟩)
          · exact .inl (route_quiet_of_ne hemail)
      | assessed ticket riskLevel =>
          left
          apply route_quiet
          · apply Relates.bind
            · exact sameCounter_of_writes email
                (writes_enforceRiskLevel request riskLevel)
            · exact fun _ => relates_pure _
          · exact yields_bind fun _ => yields_pure (.inr rfl)
          · exact fun _ => rfl
      | admitted ticket =>
          exact .inl (route_quiet (relates_pure _) (yields_pure (.inr rfl))
            fun _ => rfl)
  | login ticket input draw phase =>
      by_cases hphase : phase = .readingHash → input.email ≠ email
      · exact .inl (login_quiet hphase)
      · rw [Classical.not_imp, not_not] at hphase
        obtain ⟨rfl, rfl⟩ := hphase
        rcases login_checks env store ticket input draw with
          hquiet | ⟨hfinds, hreached⟩
        · exact .inl hquiet.of_none
        · exact .inr (.inr ⟨ticket, input, draw, rfl, rfl, hfinds, hreached⟩)

end Steps

/-! ## Every run -/

/-- The counter of the address counts the logins that it has allowed, and runs
until the window is over. -/
def CounterRuns (env : BotEnv) (email : String) (start : Instant)
    (store : LoginStore) : Prop :=
  (store.history.count (.counted email) = 0 ∧
      NoLiveCounter email start store.state) ∨
    ∃ counter, emailCounter email store.state = some counter ∧
      start + env.botRiskWindowSeconds * 1000 ≤ counter.expiresAt ∧
      store.history.count (.counted email) ≤ counter.count

/-- Tickets are of allowed logins, and used once. -/
structure LimitsOk (env : BotEnv) (email : String) (start : Instant)
    (store : LoginStore) : Prop where
  counter : CounterRuns env email start store
  bound : store.history.count (.counted email) ≤
    env.botRiskLoginThresholdPerWindow
  tickets : ∀ ticket ∈ reachedWith email store.history,
    ∃ number < store.history.count (.counted email), ticket = some number
  once : (reachedWith email store.history).Nodup

/-- A ticket that can still be used. -/
structure TicketOk (email : String) (store : LoginStore) (number : Nat) :
    Prop where
  issued : number < store.history.count (.counted email)
  unused : some number ∉ reachedWith email store.history

theorem LimitsOk.bounded {env : BotEnv} {email : String} {start : Instant}
    {store : LoginStore} (hok : LimitsOk env email start store) :
    AttemptsBounded env email store := by
  have hsubset : reachedWith email store.history ⊆
      (List.range (store.history.count (.counted email))).map some := by
    intro ticket hticket
    obtain ⟨number, hlt, rfl⟩ := hok.tickets ticket hticket
    exact List.mem_map_of_mem (List.mem_range.mpr hlt)
  have hlength := (List.subperm_of_subset hok.once hsubset).length_le
  rw [List.length_map, List.length_range] at hlength
  exact hlength.trans hok.bound

def limitsInvariant (env : BotEnv) (email : String) (start : Instant) :
    Invariant LoginStore LoginThread where
  SharedOk := LimitsOk env email start
  ThreadOk store thread := ∀ number, thread.ticket email = some number →
    TicketOk email store number
  Apart left right := ∀ number, left.ticket email = some number →
    right.ticket email ≠ some number

section Invariant

variable {env : BotEnv} {email : String} {start : Instant}
  {store : LoginStore} {thread : LoginThread}
  {result : LoginStore × Option LoginThread}

theorem keeps_quietStep (hstore : LimitsOk env email start store)
    (hthread : (limitsInvariant env email start).ThreadOk store thread)
    (hquiet : Quiet email store (thread.ticket email) result) :
    (limitsInvariant env email start).Keeps store thread result.1 result.2 := by
  obtain ⟨hcounter, hcounted, hreached, hticket⟩ := hquiet
  have hlater : ∀ number, TicketOk email store number →
      TicketOk email result.1 number := by
    rintro number ⟨hissued, hunused⟩
    exact ⟨by rwa [hcounted], by rwa [hreached]⟩
  have hnext : ∀ next number, result.2 = some next →
      next.ticket email = some number → thread.ticket email = some number := by
    intro next number hresult hnumber
    rcases hticket next hresult with hnone | hsame
    · rw [hnone] at hnumber
      cases hnumber
    · rwa [← hsame]
  constructor
  · refine ⟨?_, ?_, ?_, ?_⟩
    · unfold CounterRuns NoLiveCounter
      rw [hcounted, hcounter]
      exact hstore.counter
    · rw [hcounted]
      exact hstore.bound
    · rw [hcounted, hreached]
      exact hstore.tickets
    · rw [hreached]
      exact hstore.once
  · intro next hresult number hnumber
    exact hlater number (hthread number (hnext next number hresult hnumber))
  · intro other hother _ number hnumber
    exact hlater number (hother number hnumber)
  · intro next hresult other _ hapart
    constructor
    · intro number hnumber
      exact hapart number (hnext next number hresult hnumber)
    · intro number hother hnumber
      exact hapart number (hnext next number hresult hnumber) hother

/-- The counter after an increment within the window. -/
theorem counterRuns_increment (hcounter : CounterRuns env email start store)
    {now : Instant} (hstart : start ≤ now)
    (hend : now < start + env.botRiskWindowSeconds * 1000) :
    let counter := RateLimiter.increment (emailCounter email store.state) now
      env.botRiskWindowSeconds
    start + env.botRiskWindowSeconds * 1000 ≤ counter.expiresAt ∧
      store.history.count (.counted email) + 1 ≤ counter.count := by
  have hnew : start + env.botRiskWindowSeconds * 1000 ≤
      now + env.botRiskWindowSeconds * 1000 := Int.add_le_add_right hstart _
  rcases hcounter with ⟨hnone, hdead⟩ | ⟨counter, hstored, hexpires, hcount⟩
  · rw [hnone]
    rcases hstored : emailCounter email store.state with _ | counter
    · exact ⟨hnew, le_rfl⟩
    · have hexpired : ¬ now < counter.expiresAt :=
        not_lt.mpr ((hdead counter hstored).trans hstart)
      dsimp only [RateLimiter.increment]
      rw [if_neg hexpired]
      exact ⟨hnew, le_rfl⟩
  · rw [hstored]
    dsimp only [RateLimiter.increment]
    rw [if_pos (lt_of_lt_of_le hend hexpires)]
    exact ⟨hexpires, Nat.succ_le_succ hcount⟩

theorem keeps_consumed {counter : RateCounter}
    (hstore : LimitsOk env email start store)
    (hstart : start ≤ (store.state.readings store.state.ticks).now)
    (hend : (store.state.readings store.state.ticks).now <
      start + env.botRiskWindowSeconds * 1000)
    (hconsumed : Consumed env email store counter result) :
    (limitsInvariant env email start).Keeps store thread result.1 result.2 := by
  obtain ⟨hincrement, hstored, hreached, houtcome⟩ := hconsumed
  have hruns := counterRuns_increment hstore.counter hstart hend
  dsimp only at hruns
  rw [← hincrement] at hruns
  obtain ⟨hexpires, hcount⟩ := hruns
  have hmono : store.history.count (.counted email) ≤
      result.1.history.count (.counted email) := by
    rcases houtcome with ⟨-, hcounted, -⟩ | ⟨hcounted, -⟩
    · rw [hcounted]
      exact Nat.le_succ _
    · rw [hcounted]
  have hlater : ∀ number, TicketOk email store number →
      TicketOk email result.1 number := by
    rintro number ⟨hissued, hunused⟩
    exact ⟨hissued.trans_le hmono, by rwa [hreached]⟩
  have hnext : ∀ next number, result.2 = some next →
      next.ticket email = some number →
      number = store.history.count (.counted email) ∧
        result.1.history.count (.counted email) =
          store.history.count (.counted email) + 1 := by
    intro next number hresult hnumber
    rcases houtcome with ⟨-, hcounted, hissued⟩ | ⟨-, hnone⟩
    · rw [hissued next hresult] at hnumber
      exact ⟨(Option.some.inj hnumber).symm, hcounted⟩
    · rw [hnone next hresult] at hnumber
      cases hnumber
  constructor
  · refine ⟨.inr ⟨counter, hstored, hexpires, ?_⟩, ?_, ?_, ?_⟩
    · rcases houtcome with ⟨-, hcounted, -⟩ | ⟨hcounted, -⟩
      · rwa [hcounted]
      · rw [hcounted]
        exact (Nat.le_succ _).trans hcount
    · rcases houtcome with ⟨hlimit, hcounted, -⟩ | ⟨hcounted, -⟩
      · rw [hcounted]
        exact hcount.trans hlimit
      · rw [hcounted]
        exact hstore.bound
    · rw [hreached]
      intro ticket hmem
      obtain ⟨number, hlt, hsome⟩ := hstore.tickets ticket hmem
      exact ⟨number, hlt.trans_le hmono, hsome⟩
    · rw [hreached]
      exact hstore.once
  · intro next hresult number hnumber
    obtain ⟨rfl, hcounted⟩ := hnext next number hresult hnumber
    refine ⟨?_, ?_⟩
    · rw [hcounted]
      exact Nat.lt_succ_self _
    · rw [hreached]
      intro hmem
      obtain ⟨number, hlt, hsome⟩ := hstore.tickets _ hmem
      cases hsome
      exact lt_irrefl _ hlt
  · intro other hother _ number hnumber
    exact hlater number (hother number hnumber)
  · intro next hresult other hother _
    have hfresh : ∀ number, next.ticket email = some number →
        other.ticket email ≠ some number := by
      intro number hnumber hsame
      obtain ⟨rfl, -⟩ := hnext next number hresult hnumber
      exact lt_irrefl _ (hother _ hsame).issued
    exact ⟨hfresh, fun number hsame hnumber => hfresh number hnumber hsame⟩

/-- A counted login uses up its ticket. -/
theorem keeps_reached {number : Nat} (hstore : LimitsOk env email start store)
    (hthread : (limitsInvariant env email start).ThreadOk store thread)
    (hticket : thread.ticket email = some number)
    (hreach : Reached email store (some number) result) :
    (limitsInvariant env email start).Keeps store thread result.1 result.2 := by
  obtain ⟨hcounter, hcounted, hreached, hnone⟩ := hreach
  obtain ⟨hissued, hunused⟩ := hthread number hticket
  constructor
  · refine ⟨?_, ?_, ?_, ?_⟩
    · unfold CounterRuns NoLiveCounter
      rw [hcounted, hcounter]
      exact hstore.counter
    · rw [hcounted]
      exact hstore.bound
    · rw [hcounted, hreached]
      intro ticket hmem
      rcases List.mem_append.mp hmem with hold | hnew
      · exact hstore.tickets ticket hold
      · exact ⟨number, hissued, List.mem_singleton.mp hnew⟩
    · rw [hreached]
      exact List.nodup_append.mpr
        ⟨hstore.once, List.nodup_singleton _, by
          rintro ticket hmem other hother rfl
          rw [List.mem_singleton.mp hother] at hmem
          exact hunused hmem⟩
  · intro next hresult other hother
    rw [hnone next hresult] at hother
    cases hother
  · intro other hother hapart taken htaken
    obtain ⟨hlt, hfresh⟩ := hother taken htaken
    refine ⟨by rwa [hcounted], ?_⟩
    rw [hreached]
    intro hmem
    rcases List.mem_append.mp hmem with hold | hnew
    · exact hfresh hold
    · cases List.mem_singleton.mp hnew
      exact hapart number hticket htaken
  · intro next hresult other _ _
    constructor
    · intro taken htaken
      rw [hnone next hresult] at htaken
      cases htaken
    · intro taken _ htaken
      rw [hnone next hresult] at htaken
      cases htaken

theorem limitsInvariant_inductive :
    (limitsInvariant env email start).Inductive (loginProgram env)
      (fun store thread input => InWindow env email start store thread input ∧
        OnlyCounted email store thread input) where
  start store call hstore := by
    have hnone : ((loginProgram env).start call).ticket email = none := by
      cases call with
      | route request draw => exact ite_self none
      | interaction form draw => exact ite_self none
    refine ⟨?_, fun other => ⟨?_, ?_⟩⟩
    · intro number hnumber
      rw [hnone] at hnumber
      cases hnumber
    · intro number hnumber
      rw [hnone] at hnumber
      cases hnumber
    · intro number _ hnumber
      rw [hnone] at hnumber
      cases hnumber
  advance store thread input after next hstore hthread hmeets hadvance := by
    have hresult : advanceLogin env store thread = (after, next) :=
      Option.some.inj hadvance
    have hcases := advance_cases env email store thread
    dsimp only at hcases
    rw [hresult] at hcases
    obtain ⟨hwindow, hcounted⟩ := hmeets
    rcases hcases with hquiet |
      ⟨request, draw, ipRate, counter, rfl, hemail, hconsumed⟩ |
      ⟨ticket, login, draw, rfl, hemail, hfinds, hreached⟩
    · exact keeps_quietStep hstore hthread hquiet
    · obtain ⟨hstart, hend⟩ := hwindow hemail
      exact keeps_consumed hstore hstart hend hconsumed
    · rcases ticket with _ | number
      · exact absurd hfinds (hcounted hemail)
      · exact keeps_reached hstore hthread (if_pos hemail) hreached
  abort store thread hstore hthread := by
    refine ⟨hstore, fun next hnext => ?_, fun other hother _ => hother,
      fun next hnext => ?_⟩
    · cases hnext
    · cases hnext
  environment store event after hstore hafter := by
    cases hafter
    have hsame := event.emailCounter email store.state
    refine ⟨⟨?_, hstore.bound, hstore.tickets, hstore.once⟩,
      fun thread hthread number hnumber => ?_⟩
    · unfold CounterRuns NoLiveCounter
      rw [hsame]
      exact hstore.counter
    · exact ⟨(hthread number hnumber).issued, (hthread number hnumber).unused⟩

end Invariant

/-- Where the window of an address starts without a running counter, and no
login of the address skips the counter, at most the threshold of them reach the
password check. -/
theorem attemptsBounded_of_onlyCounted (env : BotEnv) (service : ServiceState)
    (email : String) (start : Instant) (actions : List LoginAction)
    (last : LoginPool) (hstart : NoLiveCounter email start service)
    (hwindow : StepSystem.Along (Interleaving.step (loginProgram env))
      (Meets (InWindow env email start)) (LoginPool.start service) actions)
    (hcounted : StepSystem.Along (Interleaving.step (loginProgram env))
      (Meets (OnlyCounted email)) (LoginPool.start service) actions)
    (hrun : StepSystem.run (Interleaving.step (loginProgram env))
      (LoginPool.start service) actions = some last) :
    AttemptsBounded env email last.shared := by
  have hok : LimitsOk env email start ⟨service, []⟩ :=
    { counter := .inl ⟨rfl, hstart⟩
      bound := Nat.zero_le _
      tickets := by
        intro ticket hticket
        cases hticket
      once := List.nodup_nil }
  have hmeets := (hwindow.and _ hcounted).imp _ fun _ _ hboth =>
    hboth.1.and hboth.2
  exact (limitsInvariant_inductive.run (Invariant.holds_start hok) hmeets
    hrun).shared.bounded

namespace BotWitness

/-- The default settings, and Turnstile disabled. -/
def env : BotEnv where
  toLoginEnv := { PasswordWitness.env.toLoginEnv with
    adaptiveMfaEnabled := false }
  rateLimitLoginPerMin := 20
  botRiskWindowSeconds := 600
  botRiskLoginThresholdPerWindow := 20
  mediumWatermark := 4
  turnstileEnabled := false
  turnstileEnforceLoginMode := .risk
  turnstileExpectedHostname := ""
  verifyTurnstileToken _ _ _ := .error "TypeError: fetch failed"

def draw : SessionDraw :=
  ⟨"session-1", GoogleWitness.accessToken, GoogleWitness.refreshToken⟩

def email : String := "owner@example.com"

/-- A guess from a browser. -/
def request : LoginRequest where
  email := email
  password := "hunter2"
  mfa := ⟨none, none, none⟩
  challengeToken := none
  xForwardedFor := some "203.0.113.7, 10.0.0.2"
  userAgent := some "Mozilla/5.0"
  xDeviceId := none

def form : InteractionForm := ⟨some email, some "hunter2", none, none⟩

def start : LoginPool := LoginPool.start PasswordWitness.signedUp

def after (actions : List LoginAction) : LoginPool :=
  StepSystem.after (Interleaving.step (loginProgram env)) start actions

/-- A request up to the password check, and its answer. -/
def attempt (call : LoginCall) (steps id : Nat) : List LoginAction :=
  .spawn id call :: List.replicate steps (.advance id ())

/-- Two guesses through the route. -/
def guesses : List LoginAction :=
  attempt (.route request draw) 6 1 ++ attempt (.route request draw) 6 2

def checkInWindow (store : LoginStore) (thread : LoginThread) (_ : Unit) :
    Bool :=
  match thread with
  | .route _ _ (.assessingEmail _) =>
      let now := (store.state.readings store.state.ticks).now
      decide (0 ≤ now) && decide (now < 600000)
  | _ => true

theorem inWindow_of_check (store : LoginStore) (thread : LoginThread)
    (input : Unit) (hcheck : checkInWindow store thread input = true) :
    InWindow env email 0 store thread input := by
  unfold InWindow
  split
  case h_1 =>
    rw [checkInWindow, Bool.and_eq_true, decide_eq_true_iff,
      decide_eq_true_iff] at hcheck
    exact fun _ => hcheck
  case h_2 => trivial

def checkCounted (_ : LoginStore) (thread : LoginThread) (_ : Unit) : Bool :=
  match thread with
  | .login none _ _ .readingHash => false
  | _ => true

theorem onlyCounted_of_check (store : LoginStore) (thread : LoginThread)
    (input : Unit) (hcheck : checkCounted store thread input = true) :
    OnlyCounted email store thread input := by
  unfold OnlyCounted
  split
  case h_1 => cases hcheck
  case h_2 => trivial

theorem noLiveCounter :
    NoLiveCounter email 0 PasswordWitness.signedUp := by
  intro counter hcounter
  cases hcounter

theorem guesses_attemptsBounded :
    (reachedWith email (after guesses).shared.history).length = 2 ∧
      AttemptsBounded env email (after guesses).shared :=
  ⟨by decide +kernel, attemptsBounded_of_onlyCounted env
    PasswordWitness.signedUp email 0 guesses (after guesses) noLiveCounter
    (StepSystem.along_of_check _ (meets_of_check inWindow_of_check)
      (by decide +kernel))
    (StepSystem.along_of_check _ (meets_of_check onlyCounted_of_check)
      (by decide +kernel))
    (StepSystem.run_after _ (by decide +kernel))⟩

/-- Twenty-one guesses through the interaction. -/
def interactions : List LoginAction :=
  (List.range 21).flatMap (attempt (.interaction form draw) 1)

theorem not_attemptsBounded :
    ¬ ∀ (env : BotEnv) service email start (actions : List LoginAction) last,
      env.turnstileEnabled = false → NoLiveCounter email start service →
      StepSystem.Along (Interleaving.step (loginProgram env))
        (Meets (InWindow env email start)) (LoginPool.start service) actions →
      StepSystem.run (Interleaving.step (loginProgram env))
        (LoginPool.start service) actions = some last →
      AttemptsBounded env email last.shared := by
  intro hclaim
  have hbounded : (reachedWith email
      (after interactions).shared.history).length ≤ 20 :=
    hclaim env PasswordWitness.signedUp email 0 interactions
      (after interactions) rfl noLiveCounter
      (StepSystem.along_of_check _ (meets_of_check inWindow_of_check)
        (by decide +kernel))
      (StepSystem.run_after _ (by decide +kernel))
  exact absurd hbounded (by decide +kernel)

end BotWitness

end IdProvider
