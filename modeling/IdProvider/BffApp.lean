/-
The routes of the example backend, and which cookies give a session.
-/
import IdProvider.BffSession
import IdProvider.JsDate
import IdProvider.StepSystem

namespace IdProvider

open JsonText BffSession

structure PendingOidcState where
  state : String
  nonce : String
  codeVerifier : String
  createdAt : Instant
  deriving DecidableEq

def instantJson (instant : Instant) : Json := .num (.ofInt instant)

def PendingOidcState.toJson (pending : PendingOidcState) : Json :=
  .obj
    [("state", .str pending.state),
      ("nonce", .str pending.nonce),
      ("codeVerifier", .str pending.codeVerifier),
      ("createdAt", instantJson pending.createdAt)]

structure LocalSession where
  identity : Json
  createdAt : Instant
  expiresAt : Instant
  deriving DecidableEq

def LocalSession.toJson (session : LocalSession) : Json :=
  .obj
    [("identity", session.identity),
      ("createdAt", instantJson session.createdAt),
      ("expiresAt", instantJson session.expiresAt)]

structure AuthorizationUrlResult where
  state : String
  nonce : String
  codeVerifier : String

namespace BffApp

variable (env : BffEnv)

/-- The number that a comparison makes of a property, unless that throws.
Instants are exact. -/
def numberOf : Option Json → Option JsNumber
  | none => some .nan
  | some (.num value) => some (.finite value)
  | some property =>
      let value := readJson env.numbers property
      if value.converts then some (value.toNumber env.numbers) else none

/-- `property <= now`. -/
def atMost (property : Option Json) (now : Instant) : Option Bool :=
  (numberOf env property).map (JsNumber.atMost now)

/-- `now - property > age`. -/
def olderThan (property : Option Json) (now age : Int) : Option Bool :=
  (numberOf env property).map fun
    | .finite value => decide ((age : ℚ) < now - numberValue value)
    | .nan => false
    | .infinite negative => negative

/-- `none` when it throws. -/
def getSession (cookieHeader : Option (List Char)) (now : Instant) :
    Option (Option Json) :=
  match cookie (parseCookies cookieHeader) sessionCookieName with
  | none => some none
  | some [] => some none
  | some sealed =>
      match unsealValue env (some sealed) with
      | none => none
      | some session =>
          if session = .null then none
          else
            (atMost env (session.get? "expiresAt") now).map fun expired =>
              if expired then none else some session

def localSession (identity : Json) (now : Instant) : LocalSession where
  identity := identity
  createdAt := now
  expiresAt := now + env.sessionTtlSeconds * 1000

/-- The session of a callback that completes.  `identity` is what the token
endpoint and the user info of the provider answer, if nothing fails. -/
def completeCallback (cookieHeader : Option (List Char))
    (code state : Option String) (identity : Option Json)
    (now issuedAt : Instant) : Option LocalSession :=
  match unsealValue env
      (cookie (parseCookies cookieHeader) oauthStateCookieName) with
  | none => none
  | some pending =>
      if pending = .null then none
      else if olderThan env (pending.get? "createdAt") now (5 * 60 * 1000) ≠
          some false then none
      else if given code = false ∨ given state = false ∨
          state.map Json.str ≠ pending.get? "state" then none
      else identity.map fun identity => localSession env identity issuedAt

/-! ## The system -/

/-- A call of `getSession` that gave a session: the value of its cookie, and
the sessions that were issued before. -/
structure SessionRead where
  value : List Char
  now : Instant
  session : Json
  issued : List LocalSession
  deriving DecidableEq

/-- What the backend has sealed; `reads` is a ghost. -/
structure BffState where
  pendings : List PendingOidcState
  sessions : List LocalSession
  reads : List SessionRead
  deriving DecidableEq

inductive BffAction where
  | login (auth : AuthorizationUrlResult) (now : Instant)
  | callback (cookieHeader : Option (List Char)) (code state : Option String)
      (identity : Option Json) (now issuedAt : Instant)
  | readSession (cookieHeader : Option (List Char)) (now : Instant)

namespace BffState

variable (st : BffState)

def payloads : List (List Char) :=
  st.pendings.map (fun pending => sealPayload pending.toJson) ++
    st.sessions.map fun session => sealPayload session.toJson

/-- Without the secret a client has no signatures but those of the sealed
values. -/
def unforged (value : List Char) : Bool :=
  match value.splitOn '.' with
  | payload :: signature :: _ =>
      decide (signature = sign env payload → payload ∈ st.payloads)
  | _ => true

def step : BffAction → Option BffState
  | .login auth now =>
      some
        { st with
          pendings :=
            ⟨auth.state, auth.nonce, auth.codeVerifier, now⟩ :: st.pendings }
  | .callback cookieHeader code state identity now issuedAt =>
      match completeCallback env cookieHeader code state identity now
          issuedAt with
      | none => some st
      | some session => some { st with sessions := session :: st.sessions }
  | .readSession cookieHeader now =>
      match cookie (parseCookies cookieHeader) sessionCookieName with
      | none => some st
      | some value =>
          if st.unforged env value then
            match getSession env cookieHeader now with
            | some (some session) =>
                some
                  { st with
                    reads := ⟨value, now, session, st.sessions⟩ :: st.reads }
            | _ => some st
          else none

end BffState

/-- The cookie is one of the issued ones, and it has not expired. -/
def SessionRead.Sound (read : SessionRead) : Prop :=
  ∃ session ∈ read.issued, read.value = sealValue env session.toJson ∧
    read.session = session.toJson ∧ read.now < session.expiresAt

def SessionReadsSound (st : BffState) : Prop :=
  ∀ read ∈ st.reads, read.Sound env

/-- The cookie is neither a sealed login state, alone or with a suffix, nor
a live session with a suffix. -/
def Genuine (st : BffState) : BffAction → Prop
  | .readSession cookieHeader now => ∀ value,
      cookie (parseCookies cookieHeader) sessionCookieName = some value →
        (∀ pending ∈ st.pendings,
          ¬ Extends value (sealValue env pending.toJson)) ∧
        ∀ session ∈ st.sessions, now < session.expiresAt → ∀ suffix,
          value ≠ sealValue env session.toJson ++ '.' :: suffix
  | _ => True

/-! ## One read -/

section Read

variable {env : BffEnv}

theorem expiresAt_session (session : LocalSession) :
    session.toJson.get? "expiresAt" =
      some (instantJson session.expiresAt) := rfl

theorem expiresAt_pending (pending : PendingOidcState) :
    pending.toJson.get? "expiresAt" = none := rfl

theorem toJson_ne (pending : PendingOidcState) (session : LocalSession) :
    pending.toJson ≠ session.toJson := by
  intro heq
  have hexpires := congrArg (Json.get? "expiresAt") heq
  rw [expiresAt_pending, expiresAt_session] at hexpires
  cases hexpires

theorem atMost_session (session : LocalSession) (now : Instant) :
    atMost env (session.toJson.get? "expiresAt") now = some false ↔
      now < session.expiresAt := by
  rw [expiresAt_session]
  change some (decide
    (numberValue (.ofInt session.expiresAt) ≤ (now : ℚ))) = some false ↔ _
  rw [Option.some.injEq, numberValue_ofInt, decide_eq_false_iff_not, not_le,
    Int.cast_lt]

theorem LocalSession.toJson_ne_null (session : LocalSession) :
    session.toJson ≠ .null := by
  intro heq
  cases heq

theorem PendingOidcState.toJson_ne_null (pending : PendingOidcState) :
    pending.toJson ≠ .null := by
  intro heq
  cases heq

variable {cookieHeader : Option (List Char)} {now : Instant}
  {value : List Char}

/-- What the checks of `getSession` let through. -/
theorem getSession_eq_some {json : Json}
    (hcookie : cookie (parseCookies cookieHeader) sessionCookieName =
      some value) :
    getSession env cookieHeader now = some (some json) ↔
      value ≠ [] ∧ unsealValue env (some value) = some json ∧
        json ≠ .null ∧
          atMost env (json.get? "expiresAt") now = some false := by
  unfold getSession
  rw [hcookie]
  cases value with
  | nil => simp
  | cons c cs =>
      dsimp only
      cases hunseal : unsealValue env (some (c :: cs)) with
      | none => simp
      | some opened =>
          dsimp only
          by_cases hnull : opened = .null
          · rw [if_pos hnull]
            simp only [reduceCtorEq, false_iff, Option.some.injEq]
            rintro ⟨-, hopened, hjson, -⟩
            exact hjson (hopened ▸ hnull)
          · rw [if_neg hnull]
            constructor
            · intro hget
              obtain ⟨expired, hexpired, hsome⟩ :=
                Option.map_eq_some_iff.mp hget
              cases expired with
              | true => cases hsome
              | false =>
                  cases hsome
                  exact ⟨List.cons_ne_nil c cs, rfl, hnull, hexpired⟩
            · rintro ⟨-, hopened, -, hlive⟩
              cases hopened
              rw [hlive]
              rfl

/-! ### The parts of a sealed value -/

theorem split_sealed (json : Json) :
    (sealValue env json).splitOn '.' =
      [sealPayload json, sign env (sealPayload json)] :=
  splitOn_dot (dot_not_mem_sealPayload json) (dot_not_mem_sign env _)

theorem split_suffix (json : Json) (suffix : List Char) :
    (sealValue env json ++ '.' :: suffix).splitOn '.' =
      sealPayload json :: sign env (sealPayload json) ::
        suffix.splitOn '.' :=
  splitOn_dot_suffix (dot_not_mem_sealPayload json) (dot_not_mem_sign env _)
    suffix

/-- A sealed value is no other one with a suffix. -/
theorem sealed_ne_suffix (json other : Json) (suffix : List Char) :
    sealValue env json ≠ sealValue env other ++ '.' :: suffix := by
  intro heq
  have hsplit := congrArg (List.splitOn '.') heq
  rw [split_sealed, split_suffix] at hsplit
  simp only [List.cons.injEq] at hsplit
  exact List.splitOn_ne_nil '.' suffix hsplit.2.2.symm

theorem ne_nil_of_extends {json : Json}
    (hextends : Extends value (sealValue env json)) : value ≠ [] := by
  rintro rfl
  have hunseal := unsealValue_of_extends env hextends
  cases hunseal

theorem extends_inj {json other : Json}
    (hjson : Extends value (sealValue env json))
    (hother : Extends value (sealValue env other)) : json = other := by
  have hfirst := unsealValue_of_extends env hjson
  have hsecond := unsealValue_of_extends env hother
  rw [hfirst, Option.some.injEq] at hsecond
  exact hsecond

/-! ### Sound reads are those of genuine cookies -/

variable {st : BffState}

/-- What a client presents without forging opens only to sealed values. -/
theorem exists_sealed_of_unforged {json : Json}
    (hunforged : st.unforged env value = true)
    (hunseal : unsealValue env (some value) = some json) :
    (∃ pending ∈ st.pendings, Extends value (sealValue env pending.toJson) ∧
        json = pending.toJson) ∨
      ∃ session ∈ st.sessions, Extends value (sealValue env session.toJson) ∧
        json = session.toJson := by
  obtain ⟨payload, rest, hsplit, hparse⟩ := extends_of_unsealValue env hunseal
  have hextends := extends_of_splitOn hsplit
  unfold BffState.unforged at hunforged
  rw [hsplit] at hunforged
  have hpayload : payload ∈ st.payloads := of_decide_eq_true hunforged rfl
  rw [BffState.payloads, List.mem_append, List.mem_map, List.mem_map]
    at hpayload
  rcases hpayload with ⟨pending, hpending, rfl⟩ | ⟨session, hsession, rfl⟩
  · left
    rw [readPayload, Option.some.injEq] at hparse
    exact ⟨pending, hpending, hextends, hparse.symm⟩
  · right
    rw [readPayload, Option.some.injEq] at hparse
    exact ⟨session, hsession, hextends, hparse.symm⟩

theorem genuine_sealed (session : LocalSession)
    (hcookie : cookie (parseCookies cookieHeader) sessionCookieName =
      some (sealValue env session.toJson)) :
    Genuine env st (.readSession cookieHeader now) := by
  intro value hvalue
  cases hcookie.symm.trans hvalue
  refine ⟨fun pending _ hextends => ?_, fun other _ _ suffix heq => ?_⟩
  · exact toJson_ne pending session (extends_inj hextends (Or.inl rfl))
  · exact sealed_ne_suffix _ _ suffix heq

theorem read_sound_iff {json : Json}
    (hcookie : cookie (parseCookies cookieHeader) sessionCookieName =
      some value)
    (hunforged : st.unforged env value = true)
    (hget : getSession env cookieHeader now = some (some json)) :
    SessionRead.Sound env ⟨value, now, json, st.sessions⟩ ↔
      Genuine env st (.readSession cookieHeader now) := by
  obtain ⟨-, hunseal, -, hlive⟩ := (getSession_eq_some hcookie).mp hget
  constructor
  · rintro ⟨session, -, hvalue, -, -⟩
    exact genuine_sealed session (hcookie.trans (congrArg some hvalue))
  · intro hgenuine
    obtain ⟨hpendings, hsessions⟩ := hgenuine value hcookie
    rcases exists_sealed_of_unforged hunforged hunseal with
      ⟨pending, hpending, hextends, -⟩ | ⟨session, hsession, hextends, hjson⟩
    · exact absurd hextends (hpendings pending hpending)
    · rw [hjson, atMost_session] at hlive
      rcases hextends with hvalue | ⟨suffix, hvalue⟩
      · exact ⟨session, hsession, hvalue, hjson, hlive⟩
      · exact absurd hvalue (hsessions session hsession hlive suffix)

/-- A call without a session had a genuine cookie. -/
theorem genuine_of_getSession
    (hnone : ∀ json, getSession env cookieHeader now ≠ some (some json)) :
    Genuine env st (.readSession cookieHeader now) := by
  intro value hcookie
  refine ⟨fun pending _ hextends => ?_, fun session _ hnow suffix heq => ?_⟩
  · apply hnone pending.toJson
    rw [getSession_eq_some hcookie]
    exact ⟨ne_nil_of_extends hextends, unsealValue_of_extends env hextends,
      PendingOidcState.toJson_ne_null pending, rfl⟩
  · have hextends : Extends value (sealValue env session.toJson) :=
      Or.inr ⟨suffix, heq⟩
    apply hnone session.toJson
    rw [getSession_eq_some hcookie]
    exact ⟨ne_nil_of_extends hextends, unsealValue_of_extends env hextends,
      LocalSession.toJson_ne_null session,
      (atMost_session session now).mpr hnow⟩

theorem sessionReadsSound_step {next : BffState} {action : BffAction}
    (hstep : st.step env action = some next) :
    SessionReadsSound env next ↔
      SessionReadsSound env st ∧ Genuine env st action := by
  cases action with
  | login auth now =>
      cases hstep
      exact (and_iff_left trivial).symm
  | callback cookieHeader code state identity now issuedAt =>
      have hreads : next.reads = st.reads := by
        dsimp only [BffState.step] at hstep
        split at hstep
        · cases hstep
          rfl
        · cases hstep
          rfl
      unfold SessionReadsSound
      rw [hreads]
      exact (and_iff_left trivial).symm
  | readSession cookieHeader now =>
      dsimp only [BffState.step] at hstep
      split at hstep
      case h_1 hcookie =>
        cases hstep
        apply (and_iff_left _).symm
        intro value hvalue
        rw [hcookie] at hvalue
        cases hvalue
      case h_2 value hcookie =>
        split at hstep
        case isFalse => cases hstep
        case isTrue hunforged =>
          split at hstep
          case h_1 json hget =>
            cases hstep
            rw [← read_sound_iff hcookie hunforged hget, and_comm]
            exact List.forall_mem_cons
          case h_2 hnone =>
            cases hstep
            exact (and_iff_left (genuine_of_getSession hnone)).symm

end Read

/-! ## Every run -/

theorem sessionReadsSound_iff (env : BffEnv) (init last : BffState)
    (actions : List BffAction) (hinit : init.reads = [])
    (hrun : StepSystem.run (BffState.step env) init actions = some last) :
    SessionReadsSound env last ↔
      StepSystem.Along (BffState.step env) (Genuine env) init actions := by
  have hsound : SessionReadsSound env init := by
    intro read hread
    rw [hinit] at hread
    cases hread
  rw [StepSystem.run_iff (BffState.step env)
    (fun _ _ _ hstep => sessionReadsSound_step hstep) hrun]
  exact and_iff_right hsound

end BffApp

namespace BffWitness

open BffApp

def pendingPayload : List Char :=
  ("eyJzdGF0ZSI6InN0YXRlLTEiLCJub25jZSI6Im5vbmNlLTEiLCJjb2RlVmVyaWZpZXIiOi" ++
    "J2ZXJpZmllci0xIiwiY3JlYXRlZEF0IjoxMDAwfQ").toList

def sessionPayload : List Char :=
  ("eyJpZGVudGl0eSI6eyJ1c2VySWQiOiJ1c2VyLTEifSwiY3JlYXRlZEF0IjoyMDAwLCJleH" ++
    "BpcmVzQXQiOjM2MDIwMDB9").toList

/-- The digests of the two payloads under `example-bff-session-secret`. -/
def digest (message : List UInt8) : List UInt8 :=
  if message = Utf8.encode pendingPayload then
    [17, 237, 222, 193, 67, 110, 78, 159, 96, 188, 252, 19, 114, 183, 177, 85,
      94, 105, 162, 123, 247, 17, 5, 147, 12, 135, 220, 113, 145, 11, 206, 88]
  else if message = Utf8.encode sessionPayload then
    [128, 254, 89, 18, 88, 165, 197, 220, 135, 55, 70, 178, 141, 88, 227, 134,
      113, 216, 151, 112, 66, 209, 175, 7, 218, 5, 115, 172, 79, 180, 22, 29]
  else List.replicate 32 0

def env : BffEnv where
  hmacSha256 := digest
  digest_length message := by
    unfold digest
    split
    · rfl
    · split
      · rfl
      · rfl
  numbers := .ofTexts
  sessionTtlSeconds := 3600

def pending : PendingOidcState := ⟨"state-1", "nonce-1", "verifier-1", 1000⟩

def session : LocalSession :=
  localSession env (.obj [("userId", .str "user-1")]) 2000

def sealedPending : List Char :=
  sealValue env pending.toJson

def sealedSession : List Char :=
  sealValue env session.toJson

def init : BffState := ⟨[], [], []⟩

/-- The browser comes back with the cookie of its login. -/
def visit (value : List Char) : List BffAction :=
  [.login ⟨"state-1", "nonce-1", "verifier-1"⟩ 1000,
    .callback (some (oauthStateCookieName ++ '=' :: sealedPending))
      (some "code-1") (some "state-1") (some (.obj [("userId", .str "user-1")]))
      1500 2000,
    .readSession (some (sessionCookieName ++ '=' :: value)) 3000]

set_option maxRecDepth 4000 in
theorem run_session : StepSystem.run (BffState.step env) init
    (visit sealedSession) =
      some ⟨[pending], [session],
        [⟨sealedSession, 3000, session.toJson, [session]⟩]⟩ := by
  decide +kernel

set_option maxRecDepth 4000 in
theorem run_pending : StepSystem.run (BffState.step env) init
    (visit sealedPending) =
      some ⟨[pending], [session],
        [⟨sealedPending, 3000, pending.toJson, [session]⟩]⟩ := by
  decide +kernel

set_option maxRecDepth 4000 in
theorem cookie_session : cookie (parseCookies
    (some (sessionCookieName ++ '=' :: sealedSession))) sessionCookieName =
      some sealedSession := by
  decide +kernel

theorem sessionReadsSound_visit : SessionReadsSound env
    ⟨[pending], [session],
      [⟨sealedSession, 3000, session.toJson, [session]⟩]⟩ := by
  refine (sessionReadsSound_iff env init _ _ rfl run_session).mpr ?_
  refine ⟨trivial, fun _ _ => ⟨trivial, fun _ _ => ⟨?_, fun _ _ => trivial⟩⟩⟩
  exact genuine_sealed session cookie_session

/-- The cookie of a login that has not been completed. -/
theorem not_sessionReadsSound : ¬ ∀ env init last actions,
    init.reads = [] →
      StepSystem.run (BffState.step env) init actions = some last →
        SessionReadsSound env last := by
  intro hclaim
  obtain ⟨issued, -, -, hjson, -⟩ := hclaim env init _ _ rfl run_pending _
    List.mem_cons_self
  exact toJson_ne pending issued hjson

end BffWitness

end IdProvider
