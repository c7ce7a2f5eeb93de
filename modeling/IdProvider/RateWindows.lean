/-
The rate limiter under concurrent calls while time passes: what the calls of
one window of a key return.
-/
import IdProvider.LoginLimits
import IdProvider.SlotLog
import IdProvider.StepSystem

namespace IdProvider

open JsonText ServiceCall StepSystem SlotLog

/-! ## A call of the limiter -/

namespace RateLimiter

def fullKey (key : String) : String := "rl:" ++ key

/-- What a call makes of the number that the script returns. -/
def answer (limit count : Nat) : RateLimit :=
  if limit < count then ⟨false, 0⟩ else ⟨true, limit - count⟩

/-- A call of the service is one increment of its counter, read as an
answer. -/
theorem consume_eq {st : ServiceState} (key : String)
    (limit windowSeconds : Nat)
    (hanswers : (st.readings st.ticks).fails = false) :
    let counter := increment (st.counters (fullKey key))
      (st.readings st.ticks).now windowSeconds
    consume key limit windowSeconds st =
      (.ok (answer limit counter.count),
        { st with
          ticks := st.ticks + 1
          counters := fun other =>
            if other = fullKey key then some counter else st.counters other }) := by
  unfold consume
  rw [external_of_answers hanswers]
  rfl

/-- Redis has no counter, or the one it had has expired. -/
def absent (counter : Option RateCounter) (now : Instant) : Bool :=
  counter.all fun counter => decide (counter.expiresAt ≤ now)

theorem increment_of_absent {counter : Option RateCounter} {now : Instant}
    (windowSeconds : Nat) (habsent : absent counter now = true) :
    increment counter now windowSeconds = ⟨1, now + windowSeconds * 1000⟩ := by
  cases counter with
  | none => rfl
  | some counter =>
      have hexpired : counter.expiresAt ≤ now := of_decide_eq_true habsent
      exact if_neg (not_lt.mpr hexpired)

theorem increment_of_live {counter : RateCounter} {now : Instant}
    (windowSeconds : Nat) (hlive : now < counter.expiresAt) :
    increment (some counter) now windowSeconds =
      ⟨counter.count + 1, counter.expiresAt⟩ :=
  if_pos hlive

end RateLimiter

/-! ## Calls side by side -/

structure ConsumeCall where
  key : String
  limit : Nat
  windowSeconds : Nat
  deriving DecidableEq

inductive ConsumePhase where
  | idle
  | sent (call : ConsumeCall)
  | replied (call : ConsumeCall) (count : Nat)
  | done (result : RateLimiter.RateLimit)

/-- One run of the script: for whom, when, and what was stored under the key
until then. -/
structure Execution where
  caller : Nat
  call : ConsumeCall
  now : Instant
  found : Option RateCounter

namespace Execution

variable (execution : Execution)

def key : String := RateLimiter.fullKey execution.call.key

def counter : RateCounter :=
  RateLimiter.increment execution.found execution.now
    execution.call.windowSeconds

def left : Option RateCounter := some execution.counter

def result : RateLimiter.RateLimit :=
  RateLimiter.answer execution.call.limit execution.counter.count

def opens : Bool := RateLimiter.absent execution.found execution.now

/-- The end of the window that the execution opens. -/
def deadline : Instant :=
  execution.now + execution.call.windowSeconds * 1000

def request : ConsumeCall × Instant := (execution.call, execution.now)

end Execution

/-- `executed` is the ghost history of the script. -/
structure LimiterState where
  now : Instant
  counters : String → Option RateCounter
  phases : Nat → ConsumePhase
  executed : List Execution

inductive LimiterAction where
  | wait (milliseconds : Nat)
  | send (caller : Nat) (call : ConsumeCall)
  | eval (caller : Nat)
  | answer (caller : Nat)

namespace LimiterState

def withPhase (st : LimiterState) (caller : Nat) (phase : ConsumePhase) :
    LimiterState :=
  { st with
    phases := fun other => if other = caller then phase else st.phases other }

def execution (st : LimiterState) (caller : Nat) (call : ConsumeCall) :
    Execution :=
  ⟨caller, call, st.now, st.counters (RateLimiter.fullKey call.key)⟩

/-- `INCR`, and `EXPIRE` when the key is new, as one command. -/
def script (st : LimiterState) (execution : Execution) : LimiterState :=
  { st with
    counters := fun key =>
      if key = execution.key then execution.left else st.counters key
    executed := st.executed ++ [execution] }

def step (st : LimiterState) : LimiterAction → Option LimiterState
  | .wait milliseconds => some { st with now := st.now + milliseconds }
  | .send caller call =>
      match st.phases caller with
      | .idle => some (st.withPhase caller (.sent call))
      | _ => none
  | .eval caller =>
      match st.phases caller with
      | .sent call =>
          let execution := st.execution caller call
          some ((st.script execution).withPhase caller
            (.replied call execution.counter.count))
      | _ => none
  | .answer caller =>
      match st.phases caller with
      | .replied call count =>
          some (st.withPhase caller (.done (RateLimiter.answer call.limit count)))
      | _ => none

/-- No call has been made yet; there may be counters from before. -/
structure Fresh (st : LimiterState) : Prop where
  idle : ∀ caller, st.phases caller = .idle
  nothing : st.executed = []

/-- The executions of the calls on one key, in the order in which they ran. -/
def on (st : LimiterState) (key : String) : List Execution :=
  SlotLog.on Execution.key (RateLimiter.fullKey key) st.executed

end LimiterState

/-! ## What a run keeps -/

/-- What the executions so far say of a call in each of its phases. -/
def ConsumePhase.Recorded (executed : List Execution) (caller : Nat) :
    ConsumePhase → Prop
  | .idle | .sent _ => ∀ execution ∈ executed, execution.caller ≠ caller
  | .replied call count =>
      ∃ execution ∈ executed, execution.caller = caller ∧
        execution.call = call ∧ execution.counter.count = count
  | .done result =>
      ∃ execution ∈ executed, execution.caller = caller ∧
        execution.result = result

structure LimiterSound (start : String → Option RateCounter)
    (st : LimiterState) : Prop where
  logged : SlotLog.Logged Execution.found Execution.left Execution.key start
    st.executed st.counters
  sorted : st.executed.Pairwise fun one other => one.now ≤ other.now
  past : ∀ execution ∈ st.executed, execution.now ≤ st.now
  callers : (st.executed.map Execution.caller).Nodup
  phases : ∀ caller, (st.phases caller).Recorded st.executed caller

section Runs

variable {start : String → Option RateCounter} {st next last : LimiterState}

theorem LimiterState.Fresh.sound (hfresh : st.Fresh) :
    LimiterSound st.counters st := by
  obtain ⟨hidle, hnothing⟩ := hfresh
  constructor
  · rw [hnothing]
    exact logged_nil Execution.found Execution.left Execution.key st.counters
  · rw [hnothing]
    exact List.Pairwise.nil
  · simp [hnothing]
  · simp [hnothing]
  · intro caller
    rw [hidle caller, hnothing]
    exact fun _ hmem => nomatch hmem

/-- A phase says nothing new when only another caller's execution was
added. -/
theorem ConsumePhase.Recorded.record {executed : List Execution}
    {caller : Nat} {phase : ConsumePhase} {execution : Execution}
    (hrecorded : phase.Recorded executed caller)
    (hother : execution.caller ≠ caller) :
    phase.Recorded (executed ++ [execution]) caller := by
  have hnone (h : ∀ one ∈ executed, one.caller ≠ caller) :
      ∀ one ∈ executed ++ [execution], one.caller ≠ caller := by
    intro one hmem
    rw [List.mem_append, List.mem_singleton] at hmem
    rcases hmem with hmem | rfl
    · exact h one hmem
    · exact hother
  cases phase with
  | idle => exact hnone hrecorded
  | sent call => exact hnone hrecorded
  | replied call count =>
      obtain ⟨one, hmem, hone⟩ := hrecorded
      exact ⟨one, List.mem_append_left _ hmem, hone⟩
  | done result =>
      obtain ⟨one, hmem, hone⟩ := hrecorded
      exact ⟨one, List.mem_append_left _ hmem, hone⟩

theorem LimiterSound.withPhase {caller : Nat} {phase : ConsumePhase}
    (hsound : LimiterSound start st)
    (hphase : phase.Recorded st.executed caller) :
    LimiterSound start (st.withPhase caller phase) where
  logged := hsound.logged
  sorted := hsound.sorted
  past := hsound.past
  callers := hsound.callers
  phases := by
    intro other
    by_cases hother : other = caller
    · subst hother
      simpa [LimiterState.withPhase] using hphase
    · simpa [LimiterState.withPhase, hother] using hsound.phases other

theorem LimiterSound.eval {caller : Nat} {call : ConsumeCall}
    (hsound : LimiterSound start st) (hsent : st.phases caller = .sent call) :
    LimiterSound start
      ((st.script (st.execution caller call)).withPhase caller
        (.replied call (st.execution caller call).counter.count)) := by
  have hnew : ∀ execution ∈ st.executed, execution.caller ≠ caller := by
    have hrecorded := hsound.phases caller
    rwa [hsent] at hrecorded
  constructor
  case logged =>
    exact logged_record Execution.found Execution.left Execution.key
      hsound.logged rfl
  case sorted =>
    refine List.pairwise_append.mpr
      ⟨hsound.sorted, List.pairwise_singleton _ _, ?_⟩
    intro one hone other hother
    rw [List.mem_singleton] at hother
    subst hother
    exact hsound.past one hone
  case past =>
    intro execution hmem
    rcases List.mem_append.mp hmem with hmem | hmem
    · exact hsound.past execution hmem
    · rw [List.mem_singleton] at hmem
      subst hmem
      exact le_rfl
  case callers =>
    change ((st.executed ++ [_]).map Execution.caller).Nodup
    rw [List.map_append, List.nodup_append]
    refine ⟨hsound.callers, List.nodup_singleton _, ?_⟩
    intro one hone other hother
    obtain ⟨execution, hmem, rfl⟩ := List.mem_map.mp hone
    rw [List.map_singleton, List.mem_singleton] at hother
    subst hother
    exact hnew execution hmem
  case phases =>
    intro other
    by_cases hother : other = caller
    · subst hother
      simp only [LimiterState.withPhase, if_true]
      exact ⟨st.execution other call,
        List.mem_append_right _ (List.mem_singleton_self _), rfl, rfl, rfl⟩
    · simp only [LimiterState.withPhase, if_neg hother]
      exact (hsound.phases other).record fun heq => hother heq.symm

theorem LimiterSound.step {action : LimiterAction}
    (hsound : LimiterSound start st) (hstep : st.step action = some next) :
    LimiterSound start next := by
  cases action with
  | wait milliseconds =>
      cases hstep
      exact { hsound with
        past := fun execution hmem =>
          (hsound.past execution hmem).trans
            (Int.le_add_of_nonneg_right (Int.natCast_nonneg _)) }
  | send caller call =>
      cases hphase : st.phases caller with
      | idle =>
          simp only [LimiterState.step, hphase, Option.some.injEq] at hstep
          subst hstep
          have hrecorded := hsound.phases caller
          rw [hphase] at hrecorded
          exact hsound.withPhase hrecorded
      | _ => simp [LimiterState.step, hphase] at hstep
  | eval caller =>
      cases hphase : st.phases caller with
      | sent call =>
          simp only [LimiterState.step, hphase, Option.some.injEq] at hstep
          subst hstep
          exact hsound.eval hphase
      | _ => simp [LimiterState.step, hphase] at hstep
  | answer caller =>
      cases hphase : st.phases caller with
      | replied call count =>
          simp only [LimiterState.step, hphase, Option.some.injEq] at hstep
          subst hstep
          have hrecorded := hsound.phases caller
          rw [hphase] at hrecorded
          obtain ⟨execution, hmem, hcaller, rfl, rfl⟩ := hrecorded
          exact hsound.withPhase ⟨execution, hmem, hcaller, rfl⟩
      | _ => simp [LimiterState.step, hphase] at hstep

theorem limiterSound_run {actions : List LimiterAction}
    (hfresh : st.Fresh) (hrun : run LimiterState.step st actions = some last) :
    LimiterSound st.counters last :=
  run_invariant LimiterState.step (fun _ _ _ hsound hstep => hsound.step hstep)
    hfresh.sound hrun

/-! ## Windows -/

/-- The executions of the window that `opening` opens, `rest` being all
executions after it. -/
def Execution.window (opening : Execution) (rest : List Execution) :
    List Execution :=
  opening :: rest.filter fun execution =>
    decide (execution.key = opening.key ∧ execution.now < opening.deadline)

/-- The first calls up to the limit are allowed and count down, all others
are rejected. -/
def outcomes (limit calls : Nat) : List RateLimiter.RateLimit :=
  (List.range calls).map fun earlier =>
    if earlier < limit then ⟨true, limit - 1 - earlier⟩ else ⟨false, 0⟩

theorem answer_eq (limit earlier : Nat) :
    RateLimiter.answer limit (earlier + 1) =
      if earlier < limit then ⟨true, limit - 1 - earlier⟩ else ⟨false, 0⟩ := by
  unfold RateLimiter.answer
  by_cases hlimit : earlier < limit
  · rw [if_neg (by omega), if_pos hlimit, Nat.sub_sub, Nat.add_comm 1]
  · rw [if_pos (by omega), if_neg hlimit]

theorem allowed_outcomes (limit calls : Nat) :
    ((outcomes limit calls).filter RateLimiter.RateLimit.allowed).length =
      min calls limit := by
  induction calls with
  | zero => simp [outcomes]
  | succ calls ih =>
      have hlast : outcomes limit (calls + 1) = outcomes limit calls ++
          [if calls < limit then ⟨true, limit - 1 - calls⟩ else ⟨false, 0⟩] := by
        simp [outcomes, List.range_succ]
      rw [hlast, List.filter_append, List.length_append, ih]
      by_cases hlimit : calls < limit
      · simp only [if_pos hlimit, List.filter_cons_of_pos, List.filter_nil,
          List.length_singleton]
        omega
      · simp only [if_neg hlimit, List.filter_cons_of_neg, List.filter_nil,
          Bool.false_eq_true, not_false_eq_true, List.length_nil]
        omega

/-- Executions that find the counter of a window before its deadline count it
up and leave its deadline alone. -/
theorem follows_live {count : Nat} {deadline : Instant}
    {left : Option RateCounter} {executions : List Execution}
    (hfollows : SlotLog.Follows Execution.found Execution.left
      (some ⟨count, deadline⟩) executions left)
    (hearly : ∀ execution ∈ executions, execution.now < deadline) :
    left = some ⟨count + executions.length, deadline⟩ ∧
      executions.map Execution.counter =
        (List.range executions.length).map
          (fun earlier => ⟨count + 1 + earlier, deadline⟩) ∧
      ∀ execution ∈ executions, execution.opens = false := by
  induction executions generalizing count with
  | nil => exact ⟨hfollows.symm, rfl, fun _ hmem => nomatch hmem⟩
  | cons execution executions ih =>
      obtain ⟨hfound, hrest⟩ := hfollows
      rw [List.forall_mem_cons] at hearly
      have hcounter : execution.counter = ⟨count + 1, deadline⟩ := by
        rw [Execution.counter, hfound]
        exact RateLimiter.increment_of_live _ hearly.1
      rw [Execution.left, hcounter] at hrest
      obtain ⟨hleft, hcounters, hjoined⟩ := ih hrest hearly.2
      refine ⟨?_, ?_, ?_⟩
      · rw [hleft, List.length_cons, Nat.add_assoc,
          Nat.add_comm 1]
      · rw [List.map_cons, hcounters, hcounter, List.length_cons,
          List.range_succ_eq_map, List.map_cons, List.map_map]
        congr 1
        apply List.map_congr_left
        intro earlier _
        simp only [Function.comp_apply, RateCounter.mk.injEq, and_true]
        omega
      · rw [List.forall_mem_cons]
        refine ⟨?_, hjoined⟩
        rw [Execution.opens, hfound]
        exact decide_eq_false (not_le.mpr hearly.1)

/-- In the order of time the executions before a deadline come first. -/
theorem early_first (deadline : Instant) {executions : List Execution}
    (hsorted : executions.Pairwise fun one other => one.now ≤ other.now) :
    ∃ late, executions =
      executions.filter (fun one => decide (one.now < deadline)) ++ late := by
  induction executions with
  | nil => exact ⟨[], rfl⟩
  | cons execution executions ih =>
      obtain ⟨hfirst, hrest⟩ := List.pairwise_cons.mp hsorted
      by_cases hearly : execution.now < deadline
      · obtain ⟨late, hlate⟩ := ih hrest
        refine ⟨late, ?_⟩
        simp only [List.filter_cons, hearly, decide_true, if_true,
          List.cons_append, ← hlate]
      · refine ⟨execution :: executions, ?_⟩
        have hnone : (execution :: executions).filter
            (fun one => decide (one.now < deadline)) = [] := by
          rw [List.filter_eq_nil_iff, List.forall_mem_cons]
          constructor
          · simpa using hearly
          · intro one hone
            have hlate := (not_lt.mp hearly).trans (hfirst one hone)
            simpa using hlate
        simp only [hnone, List.nil_append]

/-- What the calls of a window return, and what they do to its deadline. -/
structure WindowExact (opening : Execution) (rest : List Execution) :
    Prop where
  results : ∀ limit,
    (∀ execution ∈ opening.window rest, execution.call.limit = limit) →
    (opening.window rest).map Execution.result =
      outcomes limit (opening.window rest).length
  allowed : ∀ limit,
    (∀ execution ∈ opening.window rest, execution.call.limit = limit) →
    (((opening.window rest).map Execution.result).filter
      RateLimiter.RateLimit.allowed).length =
        min (opening.window rest).length limit
  kept : ∀ execution ∈ opening.window rest,
    execution.counter.expiresAt = opening.deadline
  joined : ∀ execution ∈ rest, execution.key = opening.key →
    execution.now < opening.deadline → execution.opens = false
  reopened : ∀ between first later, rest = between ++ first :: later →
    first.key = opening.key → opening.deadline ≤ first.now →
    (∀ execution ∈ between, execution.key = opening.key →
      execution.now < opening.deadline) →
    first.opens = true

section Window

variable {opening : Execution} {rest : List Execution}
  {left : Option RateCounter}

theorem opening_counter (hopens : opening.opens = true) :
    opening.counter = ⟨1, opening.deadline⟩ :=
  RateLimiter.increment_of_absent _ hopens

theorem window_tail (opening : Execution) (rest : List Execution) :
    rest.filter (fun execution => decide
        (execution.key = opening.key ∧ execution.now < opening.deadline)) =
      (SlotLog.on Execution.key opening.key rest).filter
        (fun execution => decide (execution.now < opening.deadline)) := by
  rw [SlotLog.on, List.filter_filter]
  apply List.filter_congr
  intro execution _
  simp [Bool.and_comm]

theorem sorted_on {executions : List Execution} (key : String)
    (hsorted : executions.Pairwise fun one other => one.now ≤ other.now) :
    (SlotLog.on Execution.key key executions).Pairwise
      fun one other => one.now ≤ other.now :=
  hsorted.sublist List.filter_sublist

/-- The counters that the calls of a window count up. -/
theorem window_counters (hopens : opening.opens = true)
    (hfollows : SlotLog.Follows Execution.found Execution.left opening.left
      (SlotLog.on Execution.key opening.key rest) left)
    (hsorted : rest.Pairwise fun one other => one.now ≤ other.now) :
    (opening.window rest).map Execution.counter =
        (List.range (opening.window rest).length).map
          (fun earlier => ⟨earlier + 1, opening.deadline⟩) ∧
      ∀ execution ∈ rest, execution.key = opening.key →
        execution.now < opening.deadline → execution.opens = false := by
  obtain ⟨late, hlate⟩ := early_first opening.deadline
    (sorted_on opening.key hsorted)
  rw [hlate, follows_append] at hfollows
  obtain ⟨middle, hearly, -⟩ := hfollows
  rw [Execution.left, opening_counter hopens] at hearly
  obtain ⟨-, hcounters, hjoined⟩ := follows_live hearly fun execution hmem =>
    of_decide_eq_true (List.mem_filter.mp hmem).2
  refine ⟨?_, ?_⟩
  · rw [Execution.window, window_tail, List.map_cons, hcounters,
      opening_counter hopens, List.length_cons, List.range_succ_eq_map,
      List.map_cons, List.map_map]
    congr 1
    apply List.map_congr_left
    intro earlier _
    simp only [Function.comp_apply, RateCounter.mk.injEq, and_true]
    omega
  · intro execution hmem hkey hnow
    exact hjoined execution (List.mem_filter.mpr
      ⟨(mem_on Execution.key).mpr ⟨hmem, hkey⟩, decide_eq_true hnow⟩)

theorem window_results (hcounters : (opening.window rest).map
      Execution.counter =
        (List.range (opening.window rest).length).map
          (fun earlier => ⟨earlier + 1, opening.deadline⟩))
    {limit : Nat} (hlimit : ∀ execution ∈ opening.window rest,
      execution.call.limit = limit) :
    (opening.window rest).map Execution.result =
      outcomes limit (opening.window rest).length := by
  calc (opening.window rest).map Execution.result
      = (opening.window rest).map
          (fun execution => RateLimiter.answer limit
            execution.counter.count) := by
        apply List.map_congr_left
        intro execution hmem
        rw [Execution.result, hlimit execution hmem]
    _ = ((opening.window rest).map Execution.counter).map
          (fun counter => RateLimiter.answer limit counter.count) := by
        rw [List.map_map]
        rfl
    _ = outcomes limit (opening.window rest).length := by
        rw [hcounters, List.map_map, outcomes]
        apply List.map_congr_left
        intro earlier _
        exact answer_eq limit earlier

theorem reopened_of_follows (hopens : opening.opens = true)
    {between later : List Execution} {first : Execution}
    (hfollows : SlotLog.Follows Execution.found Execution.left opening.left
      (SlotLog.on Execution.key opening.key (between ++ first :: later)) left)
    (hkey : first.key = opening.key) (hlate : opening.deadline ≤ first.now)
    (hbetween : ∀ execution ∈ between, execution.key = opening.key →
      execution.now < opening.deadline) :
    first.opens = true := by
  rw [on_append, follows_append, ← hkey, on_cons_self, hkey] at hfollows
  obtain ⟨middle, hearly, hfirst, -⟩ := hfollows
  rw [Execution.left, opening_counter hopens] at hearly
  obtain ⟨hmiddle, -, -⟩ := follows_live hearly fun execution hmem => by
    obtain ⟨hmem, hkey⟩ := (mem_on Execution.key).mp hmem
    exact hbetween execution hmem hkey
  rw [Execution.opens, hfirst, hmiddle]
  exact decide_eq_true hlate

theorem windowExact_of_follows (hopens : opening.opens = true)
    (hfollows : SlotLog.Follows Execution.found Execution.left opening.left
      (SlotLog.on Execution.key opening.key rest) left)
    (hsorted : rest.Pairwise fun one other => one.now ≤ other.now) :
    WindowExact opening rest := by
  obtain ⟨hcounters, hjoined⟩ := window_counters hopens hfollows hsorted
  constructor
  case results => exact fun _ => window_results hcounters
  case allowed =>
    intro limit hlimit
    rw [window_results hcounters hlimit, allowed_outcomes]
  case kept =>
    intro execution hmem
    have hcounter := List.mem_map_of_mem (f := Execution.counter) hmem
    rw [hcounters] at hcounter
    obtain ⟨earlier, -, hearlier⟩ := List.mem_map.mp hcounter
    rw [← hearlier]
  case joined => exact hjoined
  case reopened =>
    rintro between first later rfl hkey hlate hbetween
    exact reopened_of_follows hopens hfollows hkey hlate hbetween

end Window

theorem LimiterSound.windowExact {before rest : List Execution}
    {opening : Execution} (hsound : LimiterSound start st)
    (hexecuted : st.executed = before ++ opening :: rest)
    (hopens : opening.opens = true) : WindowExact opening rest := by
  have hlogged := hsound.logged opening.key
  rw [hexecuted, on_append, follows_append, on_cons_self] at hlogged
  obtain ⟨middle, -, -, hfollows⟩ := hlogged
  have hsorted := hsound.sorted
  rw [hexecuted, List.pairwise_append] at hsorted
  exact windowExact_of_follows hopens hfollows
    (List.pairwise_cons.mp hsorted.2.1).2

theorem execution_decided (one other : Execution)
    (hfound : one.found = other.found)
    (hrequest : one.request = other.request) :
    one.left = other.left ∧ one.result = other.result := by
  obtain ⟨hcall, hnow⟩ := Prod.mk.inj hrequest
  simp only [Execution.left, Execution.result, Execution.counter, hfound, hcall,
    hnow, and_self]

/-- In every window the calls up to the limit are allowed, in the order in
which they ran, whatever runs on other keys. -/
theorem consume_exact {actions : List LimiterAction} (hfresh : st.Fresh)
    (hrun : run LimiterState.step st actions = some last) :
    (∀ before opening rest, last.executed = before ++ opening :: rest →
      opening.opens = true → WindowExact opening rest) ∧
    (last.executed.map Execution.caller).Nodup ∧
    (∀ caller result, last.phases caller = .done result →
      ∃ execution ∈ last.executed, execution.caller = caller ∧
        execution.result = result) ∧
    ∀ (key : String) (st' last' : LimiterState)
      (actions' : List LimiterAction), st'.Fresh →
      run LimiterState.step st' actions' = some last' →
      st'.counters (RateLimiter.fullKey key) =
        st.counters (RateLimiter.fullKey key) →
      (last'.on key).map Execution.request =
        (last.on key).map Execution.request →
      (last'.on key).map Execution.result =
        (last.on key).map Execution.result := by
  have hsound := limiterSound_run hfresh hrun
  refine ⟨fun _ _ _ => hsound.windowExact, hsound.callers, ?_, ?_⟩
  · intro caller result hdone
    have hrecorded := hsound.phases caller
    rwa [hdone] at hrecorded
  · intro key st' last' actions' hfresh' hrun' hstart hrequests
    have hlogged' := (limiterSound_run hfresh' hrun').logged
      (RateLimiter.fullKey key)
    rw [hstart] at hlogged'
    exact outputs_eq Execution.found Execution.left execution_decided hlogged'
      (hsound.logged (RateLimiter.fullKey key)) hrequests

end Runs

namespace RateWindowsWitness

/-- A counter of an earlier window is still stored. -/
def start : LimiterState :=
  { now := 60000
    counters := fun key =>
      if key = "rl:login:a" then some ⟨7, 60000⟩ else none
    phases := fun _ => .idle
    executed := [] }

def login (key : String) : ConsumeCall := ⟨key, 2, 60⟩

/-- Three logins of one key in a window, one of another key among them, and
one more when the window is over. -/
def actions : List LimiterAction :=
  [.send 0 (login "login:a"), .send 1 (login "login:a"),
    .send 2 (login "login:b"), .eval 1, .wait 59999, .eval 2, .eval 0,
    .send 3 (login "login:a"), .eval 3, .answer 0, .answer 3, .wait 1,
    .send 4 (login "login:a"), .eval 4, .answer 4]

def last : LimiterState := after LimiterState.step start actions

theorem fresh_start : start.Fresh := ⟨fun _ => rfl, rfl⟩

theorem run_last : run LimiterState.step start actions = some last :=
  run_after LimiterState.step rfl

theorem consume_exact_logins :
    (last.on "login:a").map Execution.result =
        [⟨true, 1⟩, ⟨true, 0⟩, ⟨false, 0⟩, ⟨true, 1⟩] ∧
      ∀ before opening rest, last.executed = before ++ opening :: rest →
        opening.opens = true → WindowExact opening rest :=
  ⟨rfl, (consume_exact fresh_start run_last).1⟩

end RateWindowsWitness

end IdProvider
