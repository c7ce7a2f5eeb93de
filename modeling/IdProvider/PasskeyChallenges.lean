/-
Passkey authentications under concurrent calls: asking for a challenge and
answering it, one statement at a time.
-/
import IdProvider.Histories
import IdProvider.Interleaving
import IdProvider.WebAuthn

namespace IdProvider

open Interleaving JsonText KeyedTable ThrowingSearch WebAuthnService

namespace WebAuthnService

/-! ## The parts of an authentication -/

/-- What a verification finds, given the challenge that it has read. -/
def selectCredential (userId bodyId challenge : String) (st : WebAuthnState) :
    Except WebAuthnError AuthenticationCall :=
  match (enabledPasskeys st userId).findM? (hasCredentialId bodyId) with
  | none => .error .thrown
  | some none =>
      .error (.api ⟨404, "webauthn_credential_not_found",
        "Credential not found for this user"⟩)
  | some (some factor) =>
      match factor.webauthnData with
      | none => .error .thrown
      | some data =>
          match storedCredential data with
          | none => .error .thrown
          | some credential => .ok ⟨factor, challenge, data, credential⟩

def setChallenge (redis : List (String × String)) (userId : String)
    (purpose : ChallengePurpose) (challenge : String) :
    List (String × String) :=
  (getChallengeKey userId purpose, challenge) ::
    dropChallenge redis userId purpose

/-- With the challenge that the library draws. -/
def generateAuthenticationOptions (userId challenge : String)
    (st : WebAuthnState) : WebAuthnState :=
  { st with
    redis := setChallenge st.redis userId .authentication challenge }

theorem key_withData (data : Option Json) (factor : WebAuthnFactor) :
    key { factor with webauthnData := data } = key factor := rfl

def writeCounter (call : AuthenticationCall) (newCounter : Nat)
    (st : WebAuthnState) : WebAuthnState :=
  { st with
    mfaFactors := st.mfaFactors.update
      (fun factor => factor.id == call.factor.id)
      (fun factor =>
        { factor with
          webauthnData := some (withCounter call.data newCounter) })
      (key_withData _) }

def deleteChallenge (userId : String) (st : WebAuthnState) : WebAuthnState :=
  { st with redis := dropChallenge st.redis userId .authentication }

end WebAuthnService

/-! ## Calls side by side -/

/-- What the history of a run says about challenges and counters. -/
inductive PasskeyEvent where
  | issued (userId challenge : String)
  | challengeRead (ticket : Nat) (userId challenge : String)
  | factorRead (ticket : Nat) (factorId : String)
  | counted (factorId : String) (counter : Nat)
  | succeeded (userId challenge : String)
  deriving DecidableEq

/-- `history` is a ghost: what has happened, in order. -/
structure PasskeyStore where
  state : WebAuthnState
  history : List PasskeyEvent

inductive PasskeyCall where
  | generateAuthenticationOptions (userId : String)
  | verifyAuthenticationResponse (userId : String)
      (body : AuthenticationResponse)

/-- What a call does next.  `ticket` is a ghost that tells calls apart. -/
inductive PasskeyThread where
  | generating (userId : String)
  | readingChallenge (userId : String) (body : AuthenticationResponse)
  | readingFactor (ticket : Nat) (userId : String)
      (body : AuthenticationResponse) (challenge : String)
  | verifying (ticket : Nat) (userId : String) (body : AuthenticationResponse)
      (call : AuthenticationCall)
  | writing (ticket : Nat) (userId : String) (call : AuthenticationCall)
      (newCounter : Nat)
  | deleting (ticket : Nat) (userId challenge : String)

/-- A challenge expires in Redis. -/
inductive PasskeyExpiry where
  | expire (userId : String)

namespace PasskeyStore

def record (store : PasskeyStore) (state : WebAuthnState)
    (event : PasskeyEvent) : PasskeyStore :=
  ⟨state, store.history ++ [event]⟩

def isIssued (store : PasskeyStore) (challenge : String) : Bool :=
  store.history.any fun event =>
    match event with
    | .issued _ other => other == challenge
    | _ => false

/-- `challenge` is what the library draws for a new challenge: never one that
it has drawn before. -/
def advance (env : WebAuthnEnv) (store : PasskeyStore) (challenge : String) :
    PasskeyThread → Option (PasskeyStore × Option PasskeyThread)
  | .generating userId =>
      if store.isIssued challenge then none
      else
        some (store.record
          (generateAuthenticationOptions userId challenge store.state)
          (.issued userId challenge), none)
  | .readingChallenge userId body =>
      match expectedChallenge store.state userId .authentication with
      | none => some (store, none)
      | some challenge =>
          some (store.record store.state
              (.challengeRead store.history.length userId challenge),
            some (.readingFactor store.history.length userId body challenge))
  | .readingFactor ticket userId body challenge =>
      match selectCredential userId body.id challenge store.state with
      | .error _ => some (store, none)
      | .ok call =>
          some (store.record store.state (.factorRead ticket call.factor.id),
            some (.verifying ticket userId body call))
  | .verifying ticket userId body call =>
      match env.verifyAuthentication body call.expectedChallenge
          call.credential with
      | some (some newCounter) =>
          some (store, some (.writing ticket userId call newCounter))
      | _ => some (store, none)
  | .writing ticket userId call newCounter =>
      some (store.record (writeCounter call newCounter store.state)
          (.counted call.factor.id newCounter),
        some (.deleting ticket userId call.expectedChallenge))
  | .deleting _ userId challenge =>
      some (store.record (deleteChallenge userId store.state)
        (.succeeded userId challenge), none)

/-- A call on its own, for a number of statements. -/
def finish (env : WebAuthnEnv) (store : PasskeyStore) (challenge : String) :
    Nat → PasskeyThread → PasskeyStore
  | 0, _ => store
  | fuel + 1, thread =>
      match store.advance env challenge thread with
      | none => store
      | some (after, none) => after
      | some (after, some following) =>
          after.finish env challenge fuel following

end PasskeyStore

def passkeyProgram (env : WebAuthnEnv) :
    Program PasskeyStore PasskeyThread PasskeyCall String PasskeyExpiry where
  start
    | .generateAuthenticationOptions userId => .generating userId
    | .verifyAuthenticationResponse userId body =>
        .readingChallenge userId body
  advance store thread challenge := store.advance env challenge thread
  abort store _ := store
  environment store
    | .expire userId =>
        some { store with state := deleteChallenge userId store.state }

theorem authenticationCall_eq (userId bodyId : String) (st : WebAuthnState) :
    authenticationCall userId bodyId st =
      match expectedChallenge st userId .authentication with
      | none =>
          .error (.api ⟨400, "webauthn_challenge_expired",
            "Authentication challenge expired or not found"⟩)
      | some challenge => selectCredential userId bodyId challenge st := rfl

theorem selectCredential_eq_ok {userId bodyId challenge : String}
    {st : WebAuthnState} {call : AuthenticationCall}
    (hselect : selectCredential userId bodyId challenge st = .ok call) :
    call.expectedChallenge = challenge ∧ call.factor ∈ st.mfaFactors ∧
      call.factor.webauthnData = some call.data ∧
      storedCredential call.data = some call.credential := by
  unfold selectCredential at hselect
  split at hselect
  case h_1 => cases hselect
  case h_2 => cases hselect
  case h_3 factor hfind =>
    split at hselect
    case h_1 => cases hselect
    case h_2 data hdata =>
      split at hselect
      case h_1 => cases hselect
      case h_2 credential hcredential =>
        cases hselect
        obtain ⟨before, later, hlist, -⟩ := findM?_eq_some_some.mp hfind
        have hmem : factor ∈ enabledPasskeys st userId := by
          rw [hlist]
          exact List.mem_append_right before List.mem_cons_self
        exact ⟨rfl, (Table.mem_select.mp hmem).1, hdata, hcredential⟩

/-- On its own a verification does what the whole function does. -/
theorem finish_verify (env : WebAuthnEnv) (store : PasskeyStore)
    (drawn userId : String) (body : AuthenticationResponse) :
    (store.finish env drawn 5 (.readingChallenge userId body)).state =
      (verifyAuthenticationResponse env userId body store.state).2 := by
  unfold verifyAuthenticationResponse
  rw [authenticationCall_eq]
  rcases hread : expectedChallenge store.state userId .authentication with
    _ | challenge
  · simp only [PasskeyStore.finish, PasskeyStore.advance, hread]
  rcases hselect : selectCredential userId body.id challenge store.state with
    error | call
  · simp only [PasskeyStore.finish, PasskeyStore.advance, hread,
      PasskeyStore.record, hselect]
  obtain ⟨hexpected, -⟩ := selectCredential_eq_ok hselect
  rcases hverify : env.verifyAuthentication body call.expectedChallenge
    call.credential with _ | _ | newCounter
  all_goals
    simp only [PasskeyStore.finish, PasskeyStore.advance, hread,
      PasskeyStore.record, hselect, hverify]
  rfl

/-! ## The claim -/

/-- The signature counter of a credential, where it is one. -/
def counterOf : Option Json → Option Nat
  | some (.num counter) => counter.toInt?.bind Int.toNat?
  | _ => none

def storedCounter (factor : WebAuthnFactor) : Option Nat :=
  factor.webauthnData.bind fun data => counterOf (data.get? "counter")

/-- A verified response has a counter above the one passed in, or both are
zero. -/
def CountsUp (env : WebAuthnEnv) : Prop :=
  ∀ body challenge credential counter newCounter,
    env.verifyAuthentication body challenge credential =
      some (some newCounter) →
    counterOf credential.counter = some counter →
      counter < newCounter ∨ counter = 0 ∧ newCounter = 0

/-- Every challenge has led to at most one successful verification. -/
def SucceedsOnce (store : PasskeyStore) : Prop :=
  ∀ userId challenge,
    store.history.count (.succeeded userId challenge) ≤ 1

/-- No stored counter is below a value that it had before. -/
def NeverDecreased (store : PasskeyStore) : Prop :=
  ∀ factor ∈ store.state.mfaFactors, ∀ counter,
    .counted factor.id counter ∈ store.history →
      ∃ stored, storedCounter factor = some stored ∧ counter ≤ stored

structure PasskeysSafe (store : PasskeyStore) : Prop where
  once : SucceedsOnce store
  counters : NeverDecreased store

/-- No challenge is stored yet; the history starts with the counters of the
stored factors. -/
def PasskeyStore.start (mfaFactors : Table WebAuthnFactor) : PasskeyStore where
  state := ⟨[], mfaFactors⟩
  history := mfaFactors.rows.filterMap fun factor =>
    (storedCounter factor).map (.counted factor.id)

/-- Another verification of the challenge has succeeded since this one read
it. -/
def Overtaken (history : List PasskeyEvent) (ticket : Nat)
    (userId challenge : String) : Prop :=
  ([PasskeyEvent.challengeRead ticket userId challenge] ++
    [PasskeyEvent.succeeded userId challenge]).Sublist history

/-- Another verification has written a counter of the factor since this one
read it. -/
def CountedSince (history : List PasskeyEvent) (ticket : Nat)
    (factorId : String) (counter : Nat) : Prop :=
  ([PasskeyEvent.factorRead ticket factorId] ++
    [PasskeyEvent.counted factorId counter]).Sublist history

/-- While a verification is under way, no other one succeeds with its
challenge or writes a higher counter to its factor. -/
def Undisturbed (store : PasskeyStore) : PasskeyThread → String → Prop
  | .writing ticket _ call newCounter, _ => ∀ counter,
      CountedSince store.history ticket call.factor.id counter →
        counter ≤ newCounter
  | .deleting ticket userId challenge, _ =>
      ¬ Overtaken store.history ticket userId challenge
  | _, _ => True

/-! ## Counters -/

@[simp]
theorem counterOf_ofInt (counter : Nat) :
    counterOf (some (.num (.ofInt counter))) = some counter := by
  simp only [counterOf, Number.toInt?_ofInt, Option.bind_some]
  rfl

theorem counterOf_withCounter (data : Json) (counter : Nat) :
    counterOf ((withCounter data counter).get? "counter") = some counter := by
  unfold withCounter
  split
  case h_1 fields =>
    rw [get?_toJsonb_concat, toJsonb]
    · exact counterOf_ofInt counter
    all_goals exact nofun
  case h_2 => simp [Json.get?]

/-- What the library is given is the stored counter. -/
theorem counterOf_credential {data : Json} {credential : WebAuthnCredential}
    (hcredential : storedCredential data = some credential) :
    counterOf credential.counter = counterOf (data.get? "counter") := by
  unfold storedCredential at hcredential
  split at hcredential
  case h_1 =>
    cases hcredential
    rfl
  case h_2 => cases hcredential

/-! ## Stored challenges -/

theorem lookup_filter {Value : Type} (entries : List (String × Value))
    (dropped name : String) :
    (entries.filter fun entry => entry.1 != dropped).lookup name =
      if name = dropped then none else entries.lookup name := by
  induction entries with
  | nil => simp
  | cons entry entries ih =>
      rcases entry with ⟨first, value⟩
      by_cases hfirst : first = dropped
      · subst hfirst
        rw [List.filter_cons_of_neg (by simp), ih, List.lookup_cons]
        by_cases hname : name = first
        · rw [if_pos hname, if_pos hname]
        · rw [if_neg hname, if_neg hname, beq_false_of_ne hname]
      · rw [List.filter_cons_of_pos (by simpa using hfirst), List.lookup_cons,
          List.lookup_cons, ih]
        by_cases hname : name = first
        · subst hname
          rw [beq_self_eq_true]
          exact (if_neg hfirst).symm
        · rw [beq_false_of_ne hname]

theorem append_left_cancel {start left right : String}
    (hsame : start ++ left = start ++ right) : left = right := by
  have htexts := congrArg String.toList hsame
  rw [String.toList_append, String.toList_append] at htexts
  exact String.toList_injective (List.append_cancel_left htexts)

theorem getChallengeKey_inj {left right : String} {purpose : ChallengePurpose} :
    getChallengeKey left purpose = getChallengeKey right purpose ↔
      left = right := by
  constructor
  · intro hsame
    unfold getChallengeKey at hsame
    exact append_left_cancel hsame
  · intro hsame
    rw [hsame]

theorem expectedChallenge_delete (st : WebAuthnState) (userId other : String) :
    expectedChallenge (deleteChallenge userId st) other .authentication =
      if other = userId then none
      else expectedChallenge st other .authentication := by
  unfold expectedChallenge deleteChallenge dropChallenge
  simp only [lookup_filter, getChallengeKey_inj]
  split
  case isTrue => rfl
  case isFalse => rfl

theorem expectedChallenge_generate (st : WebAuthnState)
    (userId challenge other : String) :
    expectedChallenge (generateAuthenticationOptions userId challenge st) other
        .authentication =
      if other = userId then orNull (some challenge)
      else expectedChallenge st other .authentication := by
  have hdeleted := expectedChallenge_delete st userId other
  unfold expectedChallenge deleteChallenge at hdeleted
  unfold expectedChallenge generateAuthenticationOptions setChallenge
  rw [List.lookup_cons]
  by_cases hother : other = userId
  · rw [if_pos hother, hother, beq_self_eq_true]
  · rw [if_neg hother] at hdeleted ⊢
    rw [beq_false_of_ne fun hsame => hother (getChallengeKey_inj.mp hsame)]
    exact hdeleted

/-! ## The invariant -/

section Invariant

variable {env : WebAuthnEnv} {store : PasskeyStore}

/-- A stored challenge has been issued and has not been used. -/
structure PasskeyStore.Ok (store : PasskeyStore) : Prop
    extends PasskeysSafe store where
  pending : ∀ userId challenge,
    expectedChallenge store.state userId .authentication = some challenge →
      .issued userId challenge ∈ store.history ∧
        .succeeded userId challenge ∉ store.history
  issued : ∀ userId challenge, .succeeded userId challenge ∈ store.history →
    .issued userId challenge ∈ store.history

/-- The verification holds a challenge that was unused when it was read. -/
structure HoldsChallenge (store : PasskeyStore) (ticket : Nat)
    (userId challenge : String) : Prop where
  read : .challengeRead ticket userId challenge ∈ store.history
  issued : .issued userId challenge ∈ store.history
  overtaken : .succeeded userId challenge ∈ store.history →
    Overtaken store.history ticket userId challenge

/-- Counters written before the factor was read are bounded. -/
structure HoldsFactor (store : PasskeyStore) (ticket : Nat)
    (factorId : String) (bound : Nat → Prop) : Prop where
  stored : ∃ factor ∈ store.state.mfaFactors, factor.id = factorId
  read : .factorRead ticket factorId ∈ store.history
  counted : ∀ counter, .counted factorId counter ∈ store.history →
    bound counter ∨ CountedSince store.history ticket factorId counter

def AtMostRead (call : AuthenticationCall) (counter : Nat) : Prop :=
  ∃ stored, counterOf call.credential.counter = some stored ∧ counter ≤ stored

def PasskeyThreadOk (store : PasskeyStore) : PasskeyThread → Prop
  | .readingFactor ticket userId _ challenge =>
      HoldsChallenge store ticket userId challenge
  | .verifying ticket userId _ call =>
      HoldsChallenge store ticket userId call.expectedChallenge ∧
        HoldsFactor store ticket call.factor.id (AtMostRead call)
  | .writing ticket userId call newCounter =>
      HoldsChallenge store ticket userId call.expectedChallenge ∧
        HoldsFactor store ticket call.factor.id (· ≤ newCounter)
  | .deleting ticket userId challenge =>
      HoldsChallenge store ticket userId challenge
  | _ => True

def passkeyInvariant : Invariant PasskeyStore PasskeyThread where
  SharedOk := PasskeyStore.Ok
  ThreadOk := PasskeyThreadOk
  Apart _ _ := True

/-! ### What later events leave true -/

/-- Every factor is still there. -/
def KeepsFactors (before after : WebAuthnState) : Prop :=
  ∀ factor ∈ before.mfaFactors, ∃ kept ∈ after.mfaFactors, kept.id = factor.id

theorem keepsFactors_of_eq {before after : WebAuthnState}
    (hsame : after.mfaFactors = before.mfaFactors) :
    KeepsFactors before after := by
  intro factor hfactor
  exact ⟨factor, by rwa [hsame], rfl⟩

theorem mem_writeCounter {call : AuthenticationCall} {newCounter : Nat}
    {st : WebAuthnState} {factor : WebAuthnFactor} :
    factor ∈ (writeCounter call newCounter st).mfaFactors ↔
      (∃ old ∈ st.mfaFactors, old.id = call.factor.id ∧ factor =
        { old with
          webauthnData := some (withCounter call.data newCounter) }) ∨
      (factor ∈ st.mfaFactors ∧ factor.id ≠ call.factor.id) := by
  rw [writeCounter, Table.mem_update]
  constructor
  · rintro ⟨old, hold, rfl⟩
    by_cases hid : old.id = call.factor.id
    · rw [if_pos (beq_iff_eq.mpr hid)]
      exact .inl ⟨old, hold, hid, rfl⟩
    · rw [if_neg fun hsame => hid (beq_iff_eq.mp hsame)]
      exact .inr ⟨hold, hid⟩
  · rintro (⟨old, hold, hid, rfl⟩ | ⟨hfactor, hid⟩)
    · exact ⟨old, hold, by rw [if_pos (beq_iff_eq.mpr hid)]⟩
    · exact ⟨factor, hfactor,
        by rw [if_neg fun hsame => hid (beq_iff_eq.mp hsame)]⟩

theorem mem_writeCounter_of_mem {call : AuthenticationCall}
    (newCounter : Nat) {st : WebAuthnState} {factor : WebAuthnFactor}
    (hfactor : factor ∈ st.mfaFactors) (hid : factor.id = call.factor.id) :
    { factor with
      webauthnData := some (withCounter call.data newCounter) } ∈
        (writeCounter call newCounter st).mfaFactors :=
  mem_writeCounter.mpr (.inl ⟨factor, hfactor, hid, rfl⟩)

theorem keepsFactors_write (call : AuthenticationCall) (newCounter : Nat)
    (st : WebAuthnState) : KeepsFactors st (writeCounter call newCounter st) := by
  intro factor hfactor
  by_cases hid : factor.id = call.factor.id
  · exact ⟨_, mem_writeCounter_of_mem newCounter hfactor hid, rfl⟩
  · exact ⟨factor, mem_writeCounter.mpr (.inr ⟨hfactor, hid⟩), rfl⟩

theorem HoldsChallenge.later {ticket : Nat} {userId challenge : String}
    (hholds : HoldsChallenge store ticket userId challenge)
    (state : WebAuthnState) (event : PasskeyEvent) :
    HoldsChallenge (store.record state event) ticket userId challenge := by
  refine ⟨List.mem_append_left _ hholds.read,
    List.mem_append_left _ hholds.issued, fun hsucceeded => ?_⟩
  apply (Histories.sublist_record [PasskeyEvent.challengeRead ticket userId
    challenge] (.succeeded userId challenge)).mpr
  rcases List.mem_append.mp hsucceeded with hold | hnew
  · exact .inl (hholds.overtaken hold)
  · exact .inr ⟨List.mem_singleton.mp hnew,
      List.singleton_sublist.mpr hholds.read⟩

theorem HoldsFactor.later {ticket : Nat} {factorId : String}
    {bound : Nat → Prop} (hholds : HoldsFactor store ticket factorId bound)
    {state : WebAuthnState} (hkeeps : KeepsFactors store.state state)
    (event : PasskeyEvent) :
    HoldsFactor (store.record state event) ticket factorId bound := by
  obtain ⟨factor, hfactor, hid⟩ := hholds.stored
  obtain ⟨kept, hkept, hsame⟩ := hkeeps factor hfactor
  refine ⟨⟨kept, hkept, hsame.trans hid⟩, List.mem_append_left _ hholds.read,
    fun counter hcounted => ?_⟩
  rcases List.mem_append.mp hcounted with hold | hnew
  · rcases hholds.counted counter hold with hbound | hsince
    · exact .inl hbound
    · exact .inr (Histories.sublist_later hsince)
  · right
    apply (Histories.sublist_record [PasskeyEvent.factorRead ticket factorId]
      (.counted factorId counter)).mpr
    exact .inr ⟨List.mem_singleton.mp hnew,
      List.singleton_sublist.mpr hholds.read⟩

theorem PasskeyThreadOk.later {thread : PasskeyThread}
    (hthread : PasskeyThreadOk store thread) {state : WebAuthnState}
    (hkeeps : KeepsFactors store.state state) (event : PasskeyEvent) :
    PasskeyThreadOk (store.record state event) thread := by
  cases thread with
  | generating | readingChallenge => trivial
  | readingFactor => exact HoldsChallenge.later hthread state event
  | verifying =>
      exact ⟨hthread.1.later state event, hthread.2.later hkeeps event⟩
  | writing =>
      exact ⟨hthread.1.later state event, hthread.2.later hkeeps event⟩
  | deleting => exact HoldsChallenge.later hthread state event

/-- A change of Redis alone. -/
theorem PasskeyThreadOk.expired {thread : PasskeyThread}
    (hthread : PasskeyThreadOk store thread) (userId : String) :
    PasskeyThreadOk
      { store with state := deleteChallenge userId store.state } thread := by
  cases thread with
  | generating | readingChallenge => trivial
  | readingFactor => exact ⟨hthread.read, hthread.issued, hthread.overtaken⟩
  | verifying =>
      exact ⟨⟨hthread.1.read, hthread.1.issued, hthread.1.overtaken⟩,
        ⟨hthread.2.stored, hthread.2.read, hthread.2.counted⟩⟩
  | writing =>
      exact ⟨⟨hthread.1.read, hthread.1.issued, hthread.1.overtaken⟩,
        ⟨hthread.2.stored, hthread.2.read, hthread.2.counted⟩⟩
  | deleting => exact ⟨hthread.read, hthread.issued, hthread.overtaken⟩

/-! ### What a step keeps -/

/-- Nothing succeeds and nothing is counted. -/
theorem PasskeyStore.Ok.record (hok : store.Ok) {state : WebAuthnState}
    {event : PasskeyEvent}
    (hfactors : state.mfaFactors = store.state.mfaFactors)
    (hsucceeded : ∀ userId challenge, event ≠ .succeeded userId challenge)
    (hcounted : ∀ factorId counter, event ≠ .counted factorId counter)
    (hpending : ∀ userId challenge,
      expectedChallenge state userId .authentication = some challenge →
        .issued userId challenge ∈ store.history ++ [event] ∧
          .succeeded userId challenge ∉ store.history) :
    (store.record state event).Ok := by
  have hnot : ∀ userId challenge,
      .succeeded userId challenge ∈ store.history ++ [event] →
        .succeeded userId challenge ∈ store.history := by
    intro userId challenge hmem
    refine (List.mem_append.mp hmem).resolve_right fun hnew => ?_
    exact hsucceeded _ _ (List.mem_singleton.mp hnew).symm
  constructor
  · constructor
    · intro userId challenge
      have hcount : [event].count (.succeeded userId challenge) = 0 :=
        List.count_eq_zero.mpr fun hnew =>
          hsucceeded _ _ (List.mem_singleton.mp hnew).symm
      change (store.history ++ [event]).count _ ≤ 1
      rw [List.count_append, hcount]
      exact hok.once userId challenge
    · intro factor hfactor counter hmem
      change factor ∈ state.mfaFactors at hfactor
      rw [hfactors] at hfactor
      refine hok.counters factor hfactor counter ?_
      refine (List.mem_append.mp hmem).resolve_right fun hnew => ?_
      exact hcounted _ _ (List.mem_singleton.mp hnew).symm
  · intro userId challenge hexpected
    obtain ⟨hissued, hunused⟩ := hpending userId challenge hexpected
    exact ⟨hissued, fun hmem => hunused (hnot userId challenge hmem)⟩
  · intro userId challenge hmem
    exact List.mem_append_left _
      (hok.issued userId challenge (hnot userId challenge hmem))

theorem not_mem_of_isIssued {challenge : String}
    (hfresh : store.isIssued challenge = false) (userId : String) :
    .issued userId challenge ∉ store.history := by
  intro hmem
  have hnot := List.any_eq_false.mp hfresh _ hmem
  exact hnot (beq_self_eq_true challenge)

theorem ok_generate (hok : store.Ok) {userId challenge : String}
    (hfresh : store.isIssued challenge = false) :
    (store.record (generateAuthenticationOptions userId challenge store.state)
      (.issued userId challenge)).Ok := by
  refine hok.record rfl (fun _ _ => nofun) (fun _ _ => nofun) ?_
  intro other expected hexpected
  rw [expectedChallenge_generate] at hexpected
  split at hexpected
  case isTrue hsame =>
    obtain ⟨hdrawn, -⟩ := orNull_eq_some hexpected
    cases hdrawn
    subst hsame
    exact ⟨List.mem_append_right _ (List.mem_singleton_self _),
      fun hmem => not_mem_of_isIssued hfresh _ (hok.issued _ _ hmem)⟩
  case isFalse =>
    obtain ⟨hissued, hunused⟩ := hok.pending other expected hexpected
    exact ⟨List.mem_append_left _ hissued, hunused⟩

theorem ok_read (hok : store.Ok) {event : PasskeyEvent}
    (hsucceeded : ∀ userId challenge, event ≠ .succeeded userId challenge)
    (hcounted : ∀ factorId counter, event ≠ .counted factorId counter) :
    (store.record store.state event).Ok := by
  apply hok.record rfl hsucceeded hcounted
  intro userId challenge hexpected
  obtain ⟨hissued, hunused⟩ := hok.pending userId challenge hexpected
  exact ⟨List.mem_append_left _ hissued, hunused⟩

theorem ok_expire (hok : store.Ok) (userId : String) :
    PasskeyStore.Ok
      { store with state := deleteChallenge userId store.state } := by
  refine ⟨⟨hok.once, hok.counters⟩, fun other challenge hexpected => ?_,
    hok.issued⟩
  dsimp only at hexpected
  rw [expectedChallenge_delete] at hexpected
  split at hexpected
  case isTrue => cases hexpected
  case isFalse => exact hok.pending other challenge hexpected

/-- A factor of the row that is written. -/
theorem storedCounter_write {call : AuthenticationCall} {newCounter : Nat}
    (factor : WebAuthnFactor) :
    storedCounter
      { factor with
        webauthnData := some (withCounter call.data newCounter) } =
      some newCounter :=
  counterOf_withCounter call.data newCounter

theorem ok_write (hok : store.Ok) {call : AuthenticationCall}
    {newCounter : Nat}
    (hbound : ∀ counter, .counted call.factor.id counter ∈ store.history →
      counter ≤ newCounter) :
    (store.record (writeCounter call newCounter store.state)
      (.counted call.factor.id newCounter)).Ok := by
  have hkept : ∀ userId challenge,
      .succeeded userId challenge ∈ store.history ++
          [PasskeyEvent.counted call.factor.id newCounter] ↔
        .succeeded userId challenge ∈ store.history := by simp
  constructor
  · constructor
    · intro userId challenge
      have hcount : [PasskeyEvent.counted call.factor.id newCounter].count
          (.succeeded userId challenge) = 0 :=
        List.count_eq_zero.mpr (by simp)
      change (store.history ++ _).count _ ≤ 1
      rw [List.count_append, hcount]
      exact hok.once userId challenge
    · intro factor hfactor counter hcounted
      rcases mem_writeCounter.mp hfactor with
        ⟨old, hold, hid, rfl⟩ | ⟨hfactor, hid⟩
      · refine ⟨newCounter, storedCounter_write old, ?_⟩
        rcases List.mem_append.mp hcounted with hearlier | hnew
        · dsimp only at hearlier
          rw [hid] at hearlier
          exact hbound counter hearlier
        · exact Nat.le_of_eq
            (PasskeyEvent.counted.inj (List.mem_singleton.mp hnew)).2
      · rcases List.mem_append.mp hcounted with hearlier | hnew
        · exact hok.counters factor hfactor counter hearlier
        · exact absurd
            (PasskeyEvent.counted.inj (List.mem_singleton.mp hnew)).1 hid
  · intro userId challenge hexpected
    obtain ⟨hissued, hunused⟩ := hok.pending userId challenge hexpected
    exact ⟨List.mem_append_left _ hissued,
      fun hmem => hunused ((hkept _ _).mp hmem)⟩
  · intro userId challenge hmem
    exact List.mem_append_left _
      (hok.issued userId challenge ((hkept _ _).mp hmem))

theorem ok_delete (hok : store.Ok) {userId challenge : String}
    (hissued : .issued userId challenge ∈ store.history)
    (hunused : .succeeded userId challenge ∉ store.history) :
    (store.record (deleteChallenge userId store.state)
      (.succeeded userId challenge)).Ok := by
  constructor
  · constructor
    · intro other used
      change (store.history ++ _).count _ ≤ 1
      rw [List.count_append, List.count_singleton]
      split
      case isTrue hsame =>
        rw [← beq_iff_eq.mp hsame, List.count_eq_zero.mpr hunused]
      case isFalse => exact hok.once other used
    · intro factor hfactor counter hcounted
      refine hok.counters factor hfactor counter ?_
      exact (List.mem_append.mp hcounted).resolve_right (by simp)
  · intro other expected hexpected
    change expectedChallenge (deleteChallenge userId store.state) other
      .authentication = some expected at hexpected
    rw [expectedChallenge_delete] at hexpected
    split at hexpected
    case isTrue => cases hexpected
    case isFalse hother =>
      obtain ⟨hold, hfree⟩ := hok.pending other expected hexpected
      refine ⟨List.mem_append_left _ hold, fun hmem => ?_⟩
      rcases List.mem_append.mp hmem with hearlier | hnew
      · exact hfree hearlier
      · cases List.mem_singleton.mp hnew
        exact hother rfl
  · intro other used hmem
    rcases List.mem_append.mp hmem with hearlier | hnew
    · exact List.mem_append_left _ (hok.issued other used hearlier)
    · cases List.mem_singleton.mp hnew
      exact List.mem_append_left _ hissued

/-! ### One statement -/

theorem holdsChallenge_read (hok : store.Ok) {userId challenge : String}
    (hexpected : expectedChallenge store.state userId .authentication =
      some challenge) :
    HoldsChallenge
      (store.record store.state
        (.challengeRead store.history.length userId challenge))
      store.history.length userId challenge := by
  obtain ⟨hissued, hunused⟩ := hok.pending userId challenge hexpected
  refine ⟨List.mem_append_right _ (List.mem_singleton_self _),
    List.mem_append_left _ hissued, fun hmem => ?_⟩
  exact absurd ((List.mem_append.mp hmem).resolve_right (by simp)) hunused

theorem holdsFactor_read (hok : store.Ok)
    {userId bodyId challenge : String} {call : AuthenticationCall}
    (hselect : selectCredential userId bodyId challenge store.state = .ok call)
    (ticket : Nat) :
    HoldsFactor
      (store.record store.state (.factorRead ticket call.factor.id)) ticket
      call.factor.id (AtMostRead call) := by
  obtain ⟨-, hfactor, hdata, hcredential⟩ := selectCredential_eq_ok hselect
  refine ⟨⟨call.factor, hfactor, rfl⟩,
    List.mem_append_right _ (List.mem_singleton_self _), fun counter hmem => ?_⟩
  have hearlier : .counted call.factor.id counter ∈ store.history :=
    (List.mem_append.mp hmem).resolve_right (by simp)
  obtain ⟨stored, hstored, hle⟩ :=
    hok.counters call.factor hfactor counter hearlier
  left
  refine ⟨stored, ?_, hle⟩
  rw [counterOf_credential hcredential, ← hstored, storedCounter, hdata]
  rfl

/-- What the library verifies is above all that was written before. -/
theorem HoldsFactor.verified (hcounts : CountsUp env)
    {body : AuthenticationResponse} {call : AuthenticationCall}
    {ticket newCounter : Nat}
    (hholds : HoldsFactor store ticket call.factor.id (AtMostRead call))
    (hverify : env.verifyAuthentication body call.expectedChallenge
      call.credential = some (some newCounter)) :
    HoldsFactor store ticket call.factor.id (· ≤ newCounter) := by
  refine ⟨hholds.stored, hholds.read, fun counter hmem => ?_⟩
  refine (hholds.counted counter hmem).imp_left ?_
  rintro ⟨stored, hstored, hle⟩
  have hup := hcounts body call.expectedChallenge call.credential stored
    newCounter hverify hstored
  omega

theorem HoldsFactor.bound {call : AuthenticationCall} {ticket newCounter : Nat}
    (hholds : HoldsFactor store ticket call.factor.id (· ≤ newCounter))
    (hundisturbed : ∀ counter,
      CountedSince store.history ticket call.factor.id counter →
        counter ≤ newCounter) (counter : Nat)
    (hmem : .counted call.factor.id counter ∈ store.history) :
    counter ≤ newCounter :=
  (hholds.counted counter hmem).elim id (hundisturbed counter)

/-- A thread that only reads, or is done. -/
theorem passkeyKeeps_of_ok {thread : PasskeyThread} {after : PasskeyStore}
    {next : Option PasskeyThread} (hok : after.Ok)
    (hnext : ∀ following, next = some following →
      PasskeyThreadOk after following)
    (hothers : ∀ other, PasskeyThreadOk store other →
      PasskeyThreadOk after other) :
    passkeyInvariant.Keeps store thread after next :=
  ⟨hok, hnext, fun other hother _ => hothers other hother,
    fun _ _ _ _ _ => ⟨trivial, trivial⟩⟩

theorem passkeyInvariant_keeps (hcounts : CountsUp env) {challenge : String}
    {thread : PasskeyThread} {after : PasskeyStore}
    {next : Option PasskeyThread} (hok : store.Ok)
    (hthread : PasskeyThreadOk store thread)
    (hundisturbed : Undisturbed store thread challenge)
    (hadvance : store.advance env challenge thread = some (after, next)) :
    passkeyInvariant.Keeps store thread after next := by
  cases thread with
  | generating userId =>
      dsimp only [PasskeyStore.advance] at hadvance
      split at hadvance
      case isTrue => cases hadvance
      case isFalse hfresh =>
        cases hadvance
        refine passkeyKeeps_of_ok
          (ok_generate hok (Bool.eq_false_iff.mpr hfresh)) nofun ?_
        intro other hother
        apply hother.later
        exact keepsFactors_of_eq rfl
  | readingChallenge userId body =>
      dsimp only [PasskeyStore.advance] at hadvance
      split at hadvance
      case h_1 =>
        cases hadvance
        exact passkeyKeeps_of_ok hok nofun fun _ hother => hother
      case h_2 expected hexpected =>
        cases hadvance
        refine passkeyKeeps_of_ok
          (ok_read hok (fun _ _ => nofun) (fun _ _ => nofun)) ?_ ?_
        · rintro following hfollowing
          cases hfollowing
          exact holdsChallenge_read hok hexpected
        · exact fun other hother => hother.later (keepsFactors_of_eq rfl) _
  | readingFactor ticket userId body expected =>
      dsimp only [PasskeyStore.advance] at hadvance
      split at hadvance
      case h_1 =>
        cases hadvance
        exact passkeyKeeps_of_ok hok nofun fun _ hother => hother
      case h_2 call hselect =>
        cases hadvance
        refine passkeyKeeps_of_ok
          (ok_read hok (fun _ _ => nofun) (fun _ _ => nofun)) ?_ ?_
        · rintro following hfollowing
          cases hfollowing
          refine ⟨?_, holdsFactor_read hok hselect ticket⟩
          rw [(selectCredential_eq_ok hselect).1]
          exact HoldsChallenge.later hthread _ _
        · exact fun other hother => hother.later (keepsFactors_of_eq rfl) _
  | verifying ticket userId body call =>
      dsimp only [PasskeyStore.advance] at hadvance
      split at hadvance
      case h_1 newCounter hverify =>
        cases hadvance
        refine passkeyKeeps_of_ok hok ?_ fun _ hother => hother
        rintro following hfollowing
        cases hfollowing
        exact ⟨hthread.1, hthread.2.verified hcounts hverify⟩
      case h_2 =>
        cases hadvance
        exact passkeyKeeps_of_ok hok nofun fun _ hother => hother
  | writing ticket userId call newCounter =>
      cases hadvance
      refine passkeyKeeps_of_ok
        (ok_write hok (hthread.2.bound hundisturbed)) ?_ ?_
      · rintro following hfollowing
        cases hfollowing
        exact HoldsChallenge.later hthread.1 _ _
      · exact fun other hother =>
          hother.later (keepsFactors_write call newCounter store.state) _
  | deleting ticket userId expected =>
      cases hadvance
      refine passkeyKeeps_of_ok (ok_delete hok hthread.issued fun hused =>
        hundisturbed (hthread.overtaken hused)) nofun ?_
      intro other hother
      apply hother.later
      exact keepsFactors_of_eq rfl

theorem passkeyInvariant_inductive (hcounts : CountsUp env) :
    passkeyInvariant.Inductive (passkeyProgram env) Undisturbed where
  start store call _ := by
    refine ⟨?_, fun _ => ⟨trivial, trivial⟩⟩
    cases call with
    | generateAuthenticationOptions => trivial
    | verifyAuthenticationResponse => trivial
  advance store thread challenge after next hok hthread hundisturbed
      hadvance :=
    passkeyInvariant_keeps hcounts hok hthread hundisturbed hadvance
  abort store thread hok _ :=
    passkeyKeeps_of_ok hok (fun _ hnone => by cases hnone)
      fun _ hother => hother
  environment store event after hok hevent := by
    cases event with
    | expire userId =>
        obtain rfl := Option.some.inj hevent
        exact ⟨ok_expire hok userId, fun _ hthread => hthread.expired userId⟩

/-- Only an undisturbed step leads to a safe store. -/
theorem undisturbed_of_safe {challenge : String} {thread : PasskeyThread}
    {after : PasskeyStore} {next : Option PasskeyThread}
    (hthread : PasskeyThreadOk store thread)
    (hadvance : store.advance env challenge thread = some (after, next))
    (hsafe : PasskeysSafe after) : Undisturbed store thread challenge := by
  cases thread with
  | writing ticket userId call newCounter =>
      cases hadvance
      intro counter hsince
      obtain ⟨factor, hfactor, hid⟩ := hthread.2.stored
      have hwritten := mem_writeCounter_of_mem newCounter hfactor hid
      have hcounted : .counted factor.id counter ∈ store.history := by
        rw [hid]
        exact Histories.mem_of_sublist _ _ hsince
      obtain ⟨stored, hstored, hle⟩ := hsafe.counters _ hwritten counter
        (List.mem_append_left _ hcounted)
      cases hstored.symm.trans (storedCounter_write factor)
      exact hle
  | deleting ticket userId expected =>
      cases hadvance
      intro hovertaken
      have hused := Histories.mem_of_sublist _ _ hovertaken
      have honce := hsafe.once userId expected
      change (store.history ++ [_]).count _ ≤ 1 at honce
      rw [List.count_append, List.count_singleton_self] at honce
      have hcount := List.count_pos_iff.mpr hused
      omega
  | generating | readingChallenge | readingFactor | verifying => trivial

end Invariant

theorem ok_start (mfaFactors : Table WebAuthnFactor) :
    (PasskeyStore.start mfaFactors).Ok := by
  have hcounted : ∀ event ∈ (PasskeyStore.start mfaFactors).history,
      ∃ factor ∈ mfaFactors.rows, ∃ counter,
        storedCounter factor = some counter ∧
          event = .counted factor.id counter := by
    intro event hevent
    obtain ⟨factor, hfactor, hsome⟩ := List.mem_filterMap.mp hevent
    obtain ⟨counter, hcounter, rfl⟩ := Option.map_eq_some_iff.mp hsome
    exact ⟨factor, hfactor, counter, hcounter, rfl⟩
  have hunused : ∀ userId challenge,
      .succeeded userId challenge ∉ (PasskeyStore.start mfaFactors).history := by
    intro userId challenge hmem
    obtain ⟨_, _, _, _, hevent⟩ := hcounted _ hmem
    cases hevent
  constructor
  · constructor
    · intro userId challenge
      rw [List.count_eq_zero.mpr (hunused userId challenge)]
      exact Nat.zero_le 1
    · intro factor hfactor counter hmem
      obtain ⟨other, hother, stored, hstored, hevent⟩ := hcounted _ hmem
      obtain ⟨hid, rfl⟩ := PasskeyEvent.counted.inj hevent
      cases mfaFactors.eq_of_key_eq hfactor hother hid
      exact ⟨counter, hstored, Nat.le_refl counter⟩
  · exact fun userId challenge => nofun
  · exact fun userId challenge hmem => absurd hmem (hunused userId challenge)

/-- In every state of a run each challenge has succeeded at most once and no
counter has decreased, exactly when no verification is disturbed by another
one. -/
theorem passkeysSafe_iff (env : WebAuthnEnv) {Id : Type} [DecidableEq Id]
    (hcounts : CountsUp env) (mfaFactors : Table WebAuthnFactor)
    (actions : List
      (Interleaving.Action PasskeyCall String PasskeyExpiry Id))
    (last : Pool PasskeyStore PasskeyThread Id)
    (hrun : StepSystem.run (Interleaving.step (passkeyProgram env))
      (Pool.start (.start mfaFactors)) actions = some last) :
    StepSystem.Throughout (Interleaving.step (passkeyProgram env))
        (fun pool => PasskeysSafe pool.shared)
        (Pool.start (.start mfaFactors)) actions ↔
      StepSystem.Along (Interleaving.step (passkeyProgram env))
        (Meets Undisturbed) (Pool.start (.start mfaFactors)) actions := by
  refine (passkeyInvariant_inductive hcounts).good_iff
    (fun _ hok => PasskeyStore.Ok.toPasskeysSafe hok) ?_
    (Invariant.holds_start (ok_start mfaFactors)) hrun
  intro store thread challenge after next _ hthread hadvance hsafe
  exact undisturbed_of_safe hthread hadvance hsafe

/-! ## Two verifications at once -/

namespace PasskeyWitness

/-- A library that finds the challenge and the counter in the response. -/
def env : WebAuthnEnv where
  verifyRegistration _ _ := none
  verifyAuthentication body challenge credential :=
    match body.response.get? "challenge",
      counterOf (body.response.get? "counter"),
      counterOf credential.counter with
    | some (.str signed), some newCounter, some counter =>
        if signed = challenge ∧
            (counter < newCounter ∨ counter = 0 ∧ newCounter = 0) then
          some (some newCounter)
        else none
    | _, _, _ => none
  factorIds := .longer

theorem env_countsUp : CountsUp env := by
  intro body challenge credential counter newCounter hverify hcounter
  dsimp only [env] at hverify
  rw [hcounter] at hverify
  split at hverify
  case h_1 hsome =>
    split at hverify
    case isTrue hsigned =>
      cases hverify
      cases hsome
      exact hsigned.2
    case isFalse => cases hverify
  case h_2 => cases hverify

def mfaFactors : Table WebAuthnFactor where
  rows :=
    [newFactor "user-1" none
      (.obj
        [("counter", .num (.ofInt 4)), ("credentialID", .str "QVFJREJB"),
          ("credentialPublicKey", .str "pQECAyY")]) "factor-1"]
  nodup := by decide

def body (challenge : String) (counter : Nat) : AuthenticationResponse where
  id := "QVFJREJB"
  response :=
    .obj [("challenge", .str challenge), ("counter", .num (.ofInt counter))]

abbrev PasskeyAction : Type :=
  Interleaving.Action PasskeyCall String PasskeyExpiry Nat

def verify (id : Nat) (challenge : String) (counter : Nat) : PasskeyAction :=
  .spawn id (.verifyAuthenticationResponse "user-1" (body challenge counter))

def generate (id : Nat) (challenge : String) : List PasskeyAction :=
  [.spawn id (.generateAuthenticationOptions "user-1"), .advance id challenge]

def advance (id : Nat) : PasskeyAction := .advance id ""

abbrev start : Pool PasskeyStore PasskeyThread Nat :=
  Pool.start (.start mfaFactors)

def after (actions : List PasskeyAction) :
    Pool PasskeyStore PasskeyThread Nat :=
  StepSystem.after (Interleaving.step (passkeyProgram env)) start actions

/-- One verification after the other, each with a challenge of its own. -/
def ordered : List PasskeyAction :=
  generate 1 "challenge-1" ++ [verify 1 "challenge-1" 5] ++
    List.replicate 5 (advance 1) ++ generate 2 "challenge-2" ++
    [verify 2 "challenge-2" 6] ++ List.replicate 5 (advance 2)

/-- A sufficient condition that can be evaluated. -/
def checkUndisturbed (store : PasskeyStore) : PasskeyThread → String → Bool
  | .writing _ _ _ newCounter, _ => store.history.all fun event =>
      match event with
      | .counted _ counter => decide (counter ≤ newCounter)
      | _ => true
  | .deleting _ userId challenge, _ =>
      !store.history.contains (.succeeded userId challenge)
  | _, _ => true

theorem undisturbed_of_check (store : PasskeyStore) (thread : PasskeyThread)
    (challenge : String)
    (hcheck : checkUndisturbed store thread challenge = true) :
    Undisturbed store thread challenge := by
  cases thread with
  | writing ticket userId call newCounter =>
      intro counter hsince
      have hmem := Histories.mem_of_sublist _ _ hsince
      exact of_decide_eq_true (List.all_eq_true.mp hcheck _ hmem)
  | deleting ticket userId expected =>
      intro hovertaken
      have hmem := Histories.mem_of_sublist _ _ hovertaken
      rw [checkUndisturbed, Bool.not_eq_true', ← Bool.not_eq_true,
        List.contains_iff_mem] at hcheck
      exact hcheck hmem
  | generating | readingChallenge | readingFactor | verifying => trivial

theorem ordered_passkeysSafe :
    StepSystem.Throughout (Interleaving.step (passkeyProgram env))
      (fun pool => PasskeysSafe pool.shared) start ordered :=
  (passkeysSafe_iff env env_countsUp mfaFactors ordered (after ordered)
    (StepSystem.run_after _ (by decide +kernel))).mpr
    (StepSystem.along_of_check _ (meets_of_check undisturbed_of_check)
      (by decide +kernel))

/-- Two responses to one challenge; the later counter is written first. -/
def overlapping : List PasskeyAction :=
  generate 1 "challenge-1" ++
    [verify 1 "challenge-1" 5, verify 2 "challenge-1" 6, advance 1, advance 2,
      advance 1, advance 2, advance 1, advance 2, advance 2, advance 1,
      advance 1, advance 2]

theorem not_passkeysSafe :
    (¬ ∀ env mfaFactors (actions : List PasskeyAction) last, CountsUp env →
      StepSystem.run (Interleaving.step (passkeyProgram env))
        (Pool.start (.start mfaFactors)) actions = some last →
      SucceedsOnce last.shared) ∧
    ¬ ∀ env mfaFactors (actions : List PasskeyAction) last, CountsUp env →
      StepSystem.run (Interleaving.step (passkeyProgram env))
        (Pool.start (.start mfaFactors)) actions = some last →
      NeverDecreased last.shared := by
  have hrun : StepSystem.run (Interleaving.step (passkeyProgram env)) start
      overlapping = some (after overlapping) :=
    StepSystem.run_after _ (by decide +kernel)
  constructor
  · intro hclaim
    have honce := hclaim env mfaFactors overlapping (after overlapping)
      env_countsUp hrun "user-1" "challenge-1"
    exact absurd honce (by decide +kernel)
  · intro hclaim
    have hcounters := hclaim env mfaFactors overlapping (after overlapping)
      env_countsUp hrun
    have hstored : ∀ factor ∈ (after overlapping).shared.state.mfaFactors.rows,
        (storedCounter factor).any (6 ≤ ·) = true := by
      intro factor hfactor
      have hid : ∀ row ∈ (after overlapping).shared.state.mfaFactors.rows,
          row.id = "factor-1" := by decide +kernel
      obtain ⟨stored, hstored, hle⟩ := hcounters factor hfactor 6 (by
        rw [hid factor hfactor]
        decide +kernel)
      rw [hstored]
      exact decide_eq_true hle
    exact absurd hstored (by decide +kernel)

end PasskeyWitness

end IdProvider
