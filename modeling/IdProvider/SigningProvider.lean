/-
The key store called from server starts and rotations, and the key that each
running provider was started with.
-/
import IdProvider.KeyRotation
import IdProvider.ServiceCall

namespace IdProvider

open KeyedTable ServiceCall

/-! ## The key store -/

inductive KeyStoreError where
  | invalidDate
  | uniqueViolation
  | failedToCreateSigningKey
  deriving DecidableEq

abbrev KeyStoreCall : Type → Type :=
  Call (Table SigningKey) KeyStoreError

/-- The clock, and the keys that a call makes when it needs them. -/
structure KeyCallEnv where
  now : Instant
  bootstrap : KeyDraw
  next : KeyDraw
  deriving DecidableEq

def insertKey (row : SigningKey) : KeyStoreCall Unit := fun signingKeys =>
  match signingKeys.insert? row with
  | some after => (.ok (), after)
  | none => (.error .uniqueViolation, signingKeys)

namespace KeyStoreService

def ensureKeyExists (env : KeyCallEnv) : KeyStoreCall SigningKey := do
  match ← observe getCurrentActiveKey with
  | some current => pure current
  | none =>
      insertKey (env.bootstrap.bootstrapKey env.now)
      match ← observe getCurrentActiveKey with
      | some created => pure created
      | none => fail .failedToCreateSigningKey

/-- The transaction of `rotateNow`. -/
def rotateTransaction (options : KeyStoreOptions) (env : KeyCallEnv)
    (call : RotateNow) (activeKid : String) :
    KeyStoreCall (Option KeyResult) := fun signingKeys =>
  if !call.storable options env.now then (.error .invalidDate, signingKeys)
  else if signingKeys.rows.any (SigningKey.rotatable activeKid) then
    match commitRotation options call activeKid env.now
      (env.next.nextKey call activeKid env.now) signingKeys with
    | some after =>
        (.ok (some (.rotated env.next.kid activeKid call.reason)), after)
    | none => (.error .uniqueViolation, signingKeys)
  else (.ok none, signingKeys)

def rotateNow (options : KeyStoreOptions) (env : KeyCallEnv)
    (call : RotateNow) : KeyStoreCall KeyResult := do
  let active ← ensureKeyExists env
  match ← rotateTransaction options env call active.kid with
  | some rotated => pure rotated
  | none =>
      let latest ← ensureKeyExists env
      pure (.notRotated latest.kid call.reason)

def rotateIfDue (options : KeyStoreOptions) (env : KeyCallEnv) :
    KeyStoreCall KeyResult := do
  let active ← ensureKeyExists env
  if rotationDue options env.now active then
    rotateNow options env ⟨.scheduled, none⟩
  else pure (.notRotated active.kid .scheduled)

def rotateManual (options : KeyStoreOptions) (env : KeyCallEnv)
    (actorUserId : Option String) : KeyStoreCall KeyResult :=
  rotateNow options env ⟨.manual, actorUserId⟩

def rotateEmergency (options : KeyStoreOptions) (env : KeyCallEnv)
    (actorUserId : Option String) : KeyStoreCall KeyResult :=
  rotateNow options env ⟨.emergency, actorUserId⟩

/-- The row whose private key becomes the only key of the set. -/
def getActivePrivateJwks (env : KeyCallEnv) : KeyStoreCall SigningKey :=
  ensureKeyExists env

end KeyStoreService

/-! ## Servers -/

/-- A server is down, has run `rotateIfDue`, or serves with the key its
provider was constructed with. -/
inductive OidcServer where
  | down
  | booting
  | serving (jwks : SigningKey)
  deriving DecidableEq

/-- The servers, the store, and the keys that emergency rotations revoked. -/
structure SigningState where
  now : Instant
  signingKeys : Table SigningKey
  server : Nat → OidcServer
  revoked : List String

inductive SigningAction where
  | start (id : Nat) (bootstrap next : KeyDraw)
  | listen (id : Nat) (bootstrap : KeyDraw)
  | stop (id : Nat)
  | rotateManual (actorUserId : Option String) (bootstrap next : KeyDraw)
  | rotateEmergency (actorUserId : Option String) (bootstrap next : KeyDraw)
  | tick (now : Instant)

def SigningState.env (state : SigningState) (bootstrap next : KeyDraw) :
    KeyCallEnv :=
  ⟨state.now, bootstrap, next⟩

def SigningState.put (state : SigningState) (id : Nat) (server : OidcServer)
    (signingKeys : Table SigningKey) : SigningState :=
  { state with
    signingKeys := signingKeys
    server := Function.update state.server id server }

def SigningState.step (options : KeyStoreOptions) (state : SigningState) :
    SigningAction → Option SigningState
  | .start id bootstrap next =>
      match state.server id with
      | .down =>
          match KeyStoreService.rotateIfDue options (state.env bootstrap next)
            state.signingKeys with
          | (.ok _, signingKeys) => some (state.put id .booting signingKeys)
          | (.error _, signingKeys) => some (state.put id .down signingKeys)
      | _ => none
  | .listen id bootstrap =>
      match state.server id with
      | .booting =>
          match KeyStoreService.getActivePrivateJwks
            (state.env bootstrap bootstrap) state.signingKeys with
          | (.ok active, signingKeys) =>
              some (state.put id (.serving active) signingKeys)
          | (.error _, signingKeys) => some (state.put id .down signingKeys)
      | _ => none
  | .stop id => some (state.put id .down state.signingKeys)
  | .rotateManual actorUserId bootstrap next =>
      some
        { state with
          signingKeys := (KeyStoreService.rotateManual options
            (state.env bootstrap next) actorUserId state.signingKeys).2 }
  | .rotateEmergency actorUserId bootstrap next =>
      match KeyStoreService.rotateEmergency options (state.env bootstrap next)
        actorUserId state.signingKeys with
      | (.ok (.rotated _ previousKid _), signingKeys) =>
          some
            { state with
              signingKeys := signingKeys
              revoked := state.revoked ++ [previousKid] }
      | (_, signingKeys) => some { state with signingKeys := signingKeys }
  | .tick now =>
      if state.now ≤ now then some { state with now := now } else none

/-- Whatever the store holds, no server runs yet. -/
def SigningState.initial (now : Instant) (signingKeys : Table SigningKey) :
    SigningState :=
  ⟨now, signingKeys, fun _ => .down, []⟩

/-! ## Providers sign with the active key -/

/-- Each provider signs with a key that is active and published, and with none
that was revoked. -/
structure FollowsStore (state : SigningState) : Prop where
  active : ∀ id jwks, state.server id = .serving jwks →
    ∃ row ∈ state.signingKeys, row.kid = jwks.kid ∧ row.current = true
  published : ∀ id jwks, state.server id = .serving jwks →
    ∃ row ∈ publicKeys state.now state.signingKeys, row.kid = jwks.kid
  revoked : ∀ id jwks, state.server id = .serving jwks →
    jwks.kid ∉ state.revoked

/-- The key that a rotation takes out of use. -/
def rotatedKey (options : KeyStoreOptions) (env : KeyCallEnv)
    (call : RotateNow) (signingKeys : Table SigningKey) :
    Option SigningKey :=
  if !call.storable options env.now ||
      signingKeys.rows.any fun row => row.kid == env.next.kid then none
  else getCurrentActiveKey signingKeys

def SigningState.rotated (options : KeyStoreOptions) (state : SigningState) :
    SigningAction → Option SigningKey
  | .start _ bootstrap next =>
      (rotatedKey options (state.env bootstrap next) ⟨.scheduled, none⟩
        state.signingKeys).filter (rotationDue options state.now)
  | .rotateManual actorUserId bootstrap next =>
      rotatedKey options (state.env bootstrap next) ⟨.manual, actorUserId⟩
        state.signingKeys
  | .rotateEmergency actorUserId bootstrap next =>
      rotatedKey options (state.env bootstrap next) ⟨.emergency, actorUserId⟩
        state.signingKeys
  | .listen _ _ => none
  | .stop _ => none
  | .tick _ => none

/-- No provider is running with the key that the step rotates. -/
def RotatesUnheld (options : KeyStoreOptions) (state : SigningState)
    (action : SigningAction) : Prop :=
  ∀ old, state.rotated options action = some old →
    ∀ id jwks, state.server id = .serving jwks → jwks.kid ≠ old.kid

/-! ### The calls -/

section Calls

variable {options : KeyStoreOptions} {env : KeyCallEnv} {call : RotateNow}
  {signingKeys after : Table SigningKey} {old : SigningKey}

theorem ensureKeyExists_of_some
    (hold : getCurrentActiveKey signingKeys = some old) :
    KeyStoreService.ensureKeyExists env signingKeys =
      (.ok old, signingKeys) := by
  unfold KeyStoreService.ensureKeyExists
  have hread : observe getCurrentActiveKey signingKeys =
      ((.ok (some old), signingKeys) :
        Except KeyStoreError (Option SigningKey) × Table SigningKey) := by
    rw [observe, hold]
  rw [bind_ok hread]
  rfl

theorem ensures_insertKey (row : SigningKey)
    (signingKeys : Table SigningKey) :
    Ensures (insertKey row) (fun _ after => ∀ old ∈ signingKeys, old ∈ after)
      signingKeys := by
  unfold Ensures insertKey
  cases hinsert : signingKeys.insert? row with
  | none => exact fun _ hold => hold
  | some after => exact fun old hold => (mem_insert? hinsert old).mpr (Or.inl hold)

/-- No row goes, and the key that is returned is active. -/
theorem ensures_ensureKeyExists (env : KeyCallEnv)
    (signingKeys : Table SigningKey) :
    Ensures (KeyStoreService.ensureKeyExists env) (fun outcome after =>
      (∀ row ∈ signingKeys, row ∈ after) ∧
        ∀ active, outcome = .ok active →
          active ∈ after ∧ active.current = true) signingKeys := by
  unfold KeyStoreService.ensureKeyExists
  have hread : ∀ signingKeys, Ensures
      (observe getCurrentActiveKey : KeyStoreCall (Option SigningKey))
      (fun outcome after => outcome = .ok (getCurrentActiveKey signingKeys) ∧
        after = signingKeys) signingKeys := fun _ => ⟨rfl, rfl⟩
  apply (hread signingKeys).bind
  · rintro value before ⟨hvalue, rfl⟩
    cases hvalue
    cases hcurrent : getCurrentActiveKey before with
    | some current =>
        refine ⟨fun _ hrow => hrow, fun active hactive => ?_⟩
        cases hactive
        exact mem_of_getCurrentActiveKey hcurrent
    | none =>
        apply (ensures_insertKey _ before).bind
        · intro _ inserted hkept
          apply (hread inserted).bind
          · rintro value after ⟨hvalue, rfl⟩
            cases hvalue
            cases hcreated : getCurrentActiveKey after with
            | some created =>
                refine ⟨hkept, fun active hactive => ?_⟩
                cases hactive
                exact mem_of_getCurrentActiveKey hcreated
            | none => exact ⟨hkept, fun _ hactive => by cases hactive⟩
          · rintro error after ⟨herror, -⟩
            cases herror
        · exact fun error after hkept =>
            ⟨hkept, fun _ hactive => by cases hactive⟩
  · rintro error after ⟨herror, -⟩
    cases herror

theorem rotatable_of_getCurrentActiveKey
    (hold : getCurrentActiveKey signingKeys = some old) :
    signingKeys.rows.any (SigningKey.rotatable old.kid) = true := by
  obtain ⟨hmem, hcurrent⟩ := mem_of_getCurrentActiveKey hold
  obtain ⟨hactive, -, hrevoked⟩ := SigningKey.current_iff.mp hcurrent
  rw [List.any_eq_true]
  exact ⟨old, mem_rows.mpr hmem,
    SigningKey.rotatable_iff.mpr ⟨rfl, hactive, hrevoked⟩⟩

/-- A rotation whose date cannot be stored changes nothing. -/
theorem rotateNow_of_not_storable
    (hold : getCurrentActiveKey signingKeys = some old)
    (hstorable : call.storable options env.now = false) :
    KeyStoreService.rotateNow options env call signingKeys =
      (.error .invalidDate, signingKeys) := by
  have htransaction : KeyStoreService.rotateTransaction options env call
      old.kid signingKeys = (.error .invalidDate, signingKeys) := by
    unfold KeyStoreService.rotateTransaction
    rw [hstorable]
    rfl
  unfold KeyStoreService.rotateNow
  rw [bind_ok (ensureKeyExists_of_some hold), bind_error htransaction]

/-- With a key active, a rotation is its transaction. -/
theorem rotateNow_of_some
    (hold : getCurrentActiveKey signingKeys = some old)
    (hstorable : call.storable options env.now = true) :
    KeyStoreService.rotateNow options env call signingKeys =
      match commitRotation options call old.kid env.now
        (env.next.nextKey call old.kid env.now) signingKeys with
      | some after =>
          (.ok (.rotated env.next.kid old.kid call.reason), after)
      | none => (.error .uniqueViolation, signingKeys) := by
  unfold KeyStoreService.rotateNow
  rw [bind_ok (ensureKeyExists_of_some hold)]
  have htransaction : KeyStoreService.rotateTransaction options env call
      old.kid signingKeys = match commitRotation options call old.kid env.now
        (env.next.nextKey call old.kid env.now) signingKeys with
      | some after =>
          (.ok (some (.rotated env.next.kid old.kid call.reason)), after)
      | none => (.error .uniqueViolation, signingKeys) := by
    unfold KeyStoreService.rotateTransaction
    rw [hstorable]
    exact if_pos (rotatable_of_getCurrentActiveKey hold)
  cases hcommit : commitRotation options call old.kid env.now
      (env.next.nextKey call old.kid env.now) signingKeys with
  | some after =>
      rw [hcommit] at htransaction
      rw [bind_ok htransaction]
      rfl
  | none =>
      rw [hcommit] at htransaction
      rw [bind_error htransaction]

theorem commitRotation_eq_none {activeKid : String} {startedAt : Instant}
    {next : SigningKey} :
    commitRotation options call activeKid startedAt next signingKeys = none ↔
      (signingKeys.rows.any fun row => row.kid == next.kid) = true := by
  have hkids : (signingKeys.update
      (fun row => row.kid == activeKid) (call.deactivate options startedAt)
      (call.deactivate_kid options startedAt)).rows.map SigningKey.kid =
        signingKeys.rows.map SigningKey.kid := by
    rw [Table.update, List.map_map]
    apply List.map_congr_left
    intro row _
    rw [Function.comp_apply]
    split
    case isTrue => exact call.deactivate_kid options startedAt row
    case isFalse => rfl
  have hmem : (signingKeys.rows.any fun row => row.kid == next.kid) = true ↔
      next.kid ∈ signingKeys.rows.map SigningKey.kid := by
    simp only [List.any_eq_true, List.mem_map, beq_iff_eq]
  rw [hmem, ← hkids, commitRotation, Table.insert?]
  split
  case isTrue hfresh =>
    refine ⟨fun hnone => ?_, fun hused => absurd hused hfresh⟩
    cases hnone
  case isFalse hused => exact ⟨fun _ => not_not.mp hused, fun _ => rfl⟩

/-! ### Withdrawn keys -/

/-- The key is stored, and not active any more. -/
def Withdrawn (signingKeys : Table SigningKey) (kid : String) : Prop :=
  ∃ row ∈ signingKeys, row.kid = kid ∧ row.current = false

theorem Withdrawn.mono {kid : String} (hwithdrawn : Withdrawn signingKeys kid)
    (hkept : ∀ row ∈ signingKeys, row ∈ after) : Withdrawn after kid := by
  obtain ⟨row, hrow, hkid, hcurrent⟩ := hwithdrawn
  exact ⟨row, hkept row hrow, hkid, hcurrent⟩

theorem deactivate_current (startedAt : Instant) (row : SigningKey) :
    (call.deactivate options startedAt row).current = false := by
  rw [SigningKey.current, RotateNow.deactivate_isActive]
  rfl

theorem withdrawn_commitRotation {activeKid : String} {startedAt : Instant}
    {next : SigningKey} (hcommit : commitRotation options call activeKid
      startedAt next signingKeys = some after) :
    (∀ kid, Withdrawn signingKeys kid → Withdrawn after kid) ∧
      ∀ row ∈ signingKeys, row.kid = activeKid →
        Withdrawn after activeKid := by
  have hchanged : ∀ row ∈ signingKeys, row.kid = activeKid →
      Withdrawn after activeKid := by
    intro row hrow hkid
    refine ⟨call.deactivate options startedAt row, ?_, ?_,
      deactivate_current startedAt row⟩
    · refine (mem_commitRotation hcommit _).mpr (Or.inl ⟨row, hrow, ?_⟩)
      rw [if_pos (by simpa using hkid)]
    · rw [RotateNow.deactivate_kid, hkid]
  refine ⟨?_, hchanged⟩
  rintro kid ⟨row, hrow, hkid, hcurrent⟩
  by_cases hsame : row.kid = activeKid
  · rw [← hkid, hsame]
    exact hchanged row hrow hsame
  · exact ⟨row, mem_commitRotation_of_ne hcommit hrow hsame, hkid, hcurrent⟩

/-- What a call leaves of the withdrawn keys, and of the key it rotated. -/
def Withdraws (before : Table SigningKey)
    (outcome : Except KeyStoreError KeyResult) (after : Table SigningKey) :
    Prop :=
  (∀ kid, Withdrawn before kid → Withdrawn after kid) ∧
    ∀ next previous reason, outcome = .ok (.rotated next previous reason) →
      Withdrawn after previous

theorem withdraws_rotateTransaction (activeKid : String)
    (signingKeys : Table SigningKey) :
    Ensures (KeyStoreService.rotateTransaction options env call activeKid)
      (fun outcome after =>
        (∀ kid, Withdrawn signingKeys kid → Withdrawn after kid) ∧
          ∀ next previous reason,
            outcome = .ok (some (.rotated next previous reason)) →
              Withdrawn after previous) signingKeys := by
  have hkeeps : ∀ error : KeyStoreError,
      (∀ kid, Withdrawn signingKeys kid → Withdrawn signingKeys kid) ∧
        ∀ next previous reason,
          (.error error : Except KeyStoreError (Option KeyResult)) =
            .ok (some (.rotated next previous reason)) →
              Withdrawn signingKeys previous := by
    refine fun error => ⟨fun _ hkid => hkid, fun _ _ _ hresult => ?_⟩
    cases hresult
  unfold Ensures KeyStoreService.rotateTransaction
  by_cases hstorable : (!call.storable options env.now) = true
  · rw [if_pos hstorable]
    exact hkeeps .invalidDate
  rw [if_neg hstorable]
  split
  case isTrue hmatch =>
    obtain ⟨row, hrow, hrotatable⟩ := List.any_eq_true.mp hmatch
    have hkid := (SigningKey.rotatable_iff.mp hrotatable).1
    cases hcommit : commitRotation options call activeKid env.now
        (env.next.nextKey call activeKid env.now) signingKeys with
    | some after =>
        obtain ⟨hkept, hchanged⟩ := withdrawn_commitRotation hcommit
        refine ⟨hkept, fun next previous reason hresult => ?_⟩
        cases hresult
        exact hchanged row (mem_rows.mp hrow) hkid
    | none => exact hkeeps .uniqueViolation
  case isFalse =>
    refine ⟨fun _ hkid => hkid, fun _ _ _ hresult => ?_⟩
    cases hresult

theorem withdraws_rotateNow (signingKeys : Table SigningKey) :
    Ensures (KeyStoreService.rotateNow options env call)
      (Withdraws signingKeys) signingKeys := by
  unfold KeyStoreService.rotateNow
  apply (ensures_ensureKeyExists env signingKeys).bind
  · rintro active ensured ⟨hkept, -⟩
    apply (withdraws_rotateTransaction active.kid ensured).bind
    · rintro result rotated ⟨hrotated, hresult⟩
      have hstill : ∀ kid, Withdrawn signingKeys kid → Withdrawn rotated kid :=
        fun kid hkid => hrotated kid (hkid.mono hkept)
      cases result with
      | some result =>
          refine ⟨hstill, fun next previous reason hsame => ?_⟩
          cases hsame
          exact hresult next previous reason rfl
      | none =>
          apply (ensures_ensureKeyExists env rotated).bind
          · rintro latest after ⟨hafter, -⟩
            refine ⟨fun kid hkid => (hstill kid hkid).mono hafter, ?_⟩
            intro _ _ _ hsame
            cases hsame
          · rintro error after ⟨hafter, -⟩
            refine ⟨fun kid hkid => (hstill kid hkid).mono hafter, ?_⟩
            intro _ _ _ hsame
            cases hsame
    · rintro error after ⟨hafter, -⟩
      refine ⟨fun kid hkid => hafter kid (hkid.mono hkept), ?_⟩
      intro _ _ _ hsame
      cases hsame
  · rintro error after ⟨hkept, -⟩
    refine ⟨fun kid hkid => hkid.mono hkept, ?_⟩
    intro _ _ _ hsame
    cases hsame

theorem withdraws_rotateIfDue (signingKeys : Table SigningKey) :
    Ensures (KeyStoreService.rotateIfDue options env)
      (Withdraws signingKeys) signingKeys := by
  unfold KeyStoreService.rotateIfDue
  apply (ensures_ensureKeyExists env signingKeys).bind
  · rintro active ensured ⟨hkept, -⟩
    apply ensures_ite
    · intro _
      apply (withdraws_rotateNow ensured).imp
      rintro outcome after ⟨hafter, hresult⟩
      exact ⟨fun kid hkid => hafter kid (hkid.mono hkept), hresult⟩
    · intro _
      refine ⟨fun kid hkid => hkid.mono hkept, ?_⟩
      intro _ _ _ hsame
      cases hsame
  · rintro error after ⟨hkept, -⟩
    refine ⟨fun kid hkid => hkid.mono hkept, ?_⟩
    intro _ _ _ hsame
    cases hsame

end Calls

/-! ### Steps -/

/-- The keys of completed emergency rotations stay out of use. -/
def RevokedWithdrawn (state : SigningState) : Prop :=
  ∀ kid ∈ state.revoked, Withdrawn state.signingKeys kid

/-- An active key is published. -/
theorem FollowsStore.of_active {state : SigningState}
    (hactive : ∀ id jwks, state.server id = .serving jwks →
      ∃ row ∈ state.signingKeys, row.kid = jwks.kid ∧ row.current = true)
    (hrevoked : ∀ id jwks, state.server id = .serving jwks →
      jwks.kid ∉ state.revoked) : FollowsStore state := by
  refine ⟨hactive, fun id jwks hserver => ?_, hrevoked⟩
  obtain ⟨row, hrow, hkid, hcurrent⟩ := hactive id jwks hserver
  exact ⟨row, mem_publicKeys.mpr
    ⟨hrow, SigningKey.published_of_current hcurrent⟩, hkid⟩

section Follows

variable {options : KeyStoreOptions} {state next : SigningState}

/-- Without an active key, no provider that follows the store is running. -/
theorem FollowsStore.none_serving (hfollows : FollowsStore state)
    (hnone : getCurrentActiveKey state.signingKeys = none) (id : Nat)
    (jwks : SigningKey) : state.server id ≠ .serving jwks := by
  intro hserver
  obtain ⟨row, hrow, -, hcurrent⟩ := hfollows.active id jwks hserver
  rw [getCurrentActiveKey_eq_none.mp hnone row hrow] at hcurrent
  cases hcurrent

theorem FollowsStore.of_none_serving
    (hnone : ∀ id jwks, next.server id ≠ .serving jwks) :
    FollowsStore next :=
  FollowsStore.of_active
    (fun id jwks hserver => absurd hserver (hnone id jwks))
    (fun id jwks hserver => absurd hserver (hnone id jwks))

/-- Where no row changes, what serves goes on to follow the store. -/
theorem FollowsStore.of_kept (hfollows : FollowsStore state)
    (hserving : ∀ id jwks, next.server id = .serving jwks →
      state.server id = .serving jwks)
    (hkept : ∀ row ∈ state.signingKeys, row ∈ next.signingKeys)
    (hrevoked : next.revoked = state.revoked) : FollowsStore next := by
  apply FollowsStore.of_active
  · intro id jwks hserver
    obtain ⟨row, hrow, hkid, hcurrent⟩ :=
      hfollows.active id jwks (hserving id jwks hserver)
    exact ⟨row, hkept row hrow, hkid, hcurrent⟩
  · intro id jwks hserver
    rw [hrevoked]
    exact hfollows.revoked id jwks (hserving id jwks hserver)

/-- After a rotation, providers follow the store exactly when none of them
holds the rotated key. -/
theorem followsStore_commit {call : RotateNow} {activeKid : String}
    {startedAt : Instant} {new : SigningKey} (hfollows : FollowsStore state)
    (hserving : ∀ id jwks, next.server id = .serving jwks ↔
      state.server id = .serving jwks)
    (hcommit : commitRotation options call activeKid startedAt new
      state.signingKeys = some next.signingKeys)
    (hstored : ∃ row ∈ state.signingKeys, row.kid = activeKid)
    (hrevoked : ∀ kid ∈ next.revoked, kid ∈ state.revoked ∨ kid = activeKid) :
    FollowsStore next ↔ ∀ id jwks, state.server id = .serving jwks →
      jwks.kid ≠ activeKid := by
  constructor
  · intro hnext id jwks hserver hkid
    obtain ⟨row, hrow, hrowKid, hcurrent⟩ :=
      hnext.active id jwks ((hserving id jwks).mpr hserver)
    rcases (mem_commitRotation hcommit row).mp hrow with ⟨old, -, rfl⟩ | rfl
    · split at hcurrent
      case isTrue =>
        rw [deactivate_current] at hcurrent
        cases hcurrent
      case isFalse hne =>
        rw [if_neg hne] at hrowKid
        rw [hrowKid, hkid] at hne
        simp at hne
    · obtain ⟨old, hold, holdKid⟩ := hstored
      obtain ⟨hfresh, -⟩ := Table.insert?_eq_some hcommit
      have hchanged := hfresh (call.deactivate options startedAt old)
        (Table.mem_update.mpr ⟨old, hold, by rw [if_pos (by simpa using holdKid)]⟩)
      apply hchanged
      change (call.deactivate options startedAt old).kid = row.kid
      rw [RotateNow.deactivate_kid, holdKid, hrowKid, hkid]
  · intro hunheld
    apply FollowsStore.of_active
    · intro id jwks hserver
      rw [hserving] at hserver
      obtain ⟨row, hrow, hkid, hcurrent⟩ := hfollows.active id jwks hserver
      refine ⟨row, ?_, hkid, hcurrent⟩
      apply mem_commitRotation_of_ne hcommit hrow
      rw [hkid]
      exact hunheld id jwks hserver
    · intro id jwks hserver hmem
      rw [hserving] at hserver
      rcases hrevoked jwks.kid hmem with hold | hkid
      · exact hfollows.revoked id jwks hserver hold
      · exact hunheld id jwks hserver hkid

theorem rotatedKey_of_not_storable {env : KeyCallEnv} {call : RotateNow}
    (hstorable : call.storable options env.now = false)
    (signingKeys : Table SigningKey) :
    rotatedKey options env call signingKeys = none := by
  unfold rotatedKey
  rw [hstorable]
  rfl

theorem rotatedKey_of_storable {env : KeyCallEnv} {call : RotateNow}
    (hstorable : call.storable options env.now = true)
    (signingKeys : Table SigningKey) (activeKid : String)
    (startedAt : Instant) :
    rotatedKey options env call signingKeys =
      match commitRotation options call activeKid startedAt
        (env.next.nextKey call activeKid startedAt) signingKeys with
      | some _ => getCurrentActiveKey signingKeys
      | none => none := by
  unfold rotatedKey
  rw [hstorable, Bool.not_true, Bool.false_or]
  cases hcommit : commitRotation options call activeKid startedAt
      (env.next.nextKey call activeKid startedAt) signingKeys with
  | none => exact if_pos (commitRotation_eq_none.mp hcommit)
  | some after =>
      apply if_neg
      intro hused
      have hnone := (@commitRotation_eq_none options call signingKeys
        activeKid startedAt (env.next.nextKey call activeKid startedAt)).mpr
          hused
      rw [hcommit] at hnone
      cases hnone

/-- Without an active key no provider runs, and none is left behind. -/
theorem followsStore_idle {rotated : Option SigningKey}
    (hfollows : FollowsStore state)
    (hserving : ∀ id jwks, next.server id = .serving jwks ↔
      state.server id = .serving jwks)
    (hactive : getCurrentActiveKey state.signingKeys = none) :
    FollowsStore next ↔ ∀ old, rotated = some old →
      ∀ id jwks, state.server id = .serving jwks → jwks.kid ≠ old.kid := by
  have hidle := hfollows.none_serving hactive
  constructor
  · intro _ _ _ id jwks hserver
    exact absurd hserver (hidle id jwks)
  · intro _
    apply FollowsStore.of_none_serving
    intro id jwks hserver
    exact hidle id jwks ((hserving id jwks).mp hserver)

/-- A rotation that fails takes no key out of use. -/
theorem followsStore_failed {env : KeyCallEnv} {call : RotateNow}
    {error : KeyStoreError} (hfollows : FollowsStore state)
    (hserving : ∀ id jwks, next.server id = .serving jwks ↔
      state.server id = .serving jwks)
    (hkeys : next.signingKeys =
      (KeyStoreService.rotateNow options env call state.signingKeys).2)
    (hrevoked : ∀ kid ∈ next.revoked, kid ∈ state.revoked ∨
      ∃ new reason, (KeyStoreService.rotateNow options env call
        state.signingKeys).1 = .ok (.rotated new kid reason))
    (hfailed : KeyStoreService.rotateNow options env call state.signingKeys =
      (.error error, state.signingKeys)) :
    FollowsStore next := by
  rw [hfailed] at hkeys hrevoked
  apply FollowsStore.of_active
  · intro id jwks hserver
    rw [hkeys]
    exact hfollows.active id jwks ((hserving id jwks).mp hserver)
  · intro id jwks hserver hmem
    rcases hrevoked jwks.kid hmem with hold | ⟨_, _, hresult⟩
    · exact hfollows.revoked id jwks ((hserving id jwks).mp hserver) hold
    · cases hresult

/-- A call of `rotateNow`, whatever becomes of it. -/
theorem followsStore_rotateNow (env : KeyCallEnv) (call : RotateNow)
    (hfollows : FollowsStore state)
    (hserving : ∀ id jwks, next.server id = .serving jwks ↔
      state.server id = .serving jwks)
    (hkeys : next.signingKeys =
      (KeyStoreService.rotateNow options env call state.signingKeys).2)
    (hrevoked : ∀ kid ∈ next.revoked, kid ∈ state.revoked ∨
      ∃ new reason, (KeyStoreService.rotateNow options env call
        state.signingKeys).1 = .ok (.rotated new kid reason)) :
    FollowsStore next ↔ ∀ old,
      rotatedKey options env call state.signingKeys = some old →
        ∀ id jwks, state.server id = .serving jwks → jwks.kid ≠ old.kid := by
  have hfailure : ∀ error,
      KeyStoreService.rotateNow options env call state.signingKeys =
        (.error error, state.signingKeys) →
      rotatedKey options env call state.signingKeys = none →
        (FollowsStore next ↔ ∀ old,
          rotatedKey options env call state.signingKeys = some old →
            ∀ id jwks, state.server id = .serving jwks →
              jwks.kid ≠ old.kid) := by
    intro error hfailed hnone
    rw [hnone]
    constructor
    · intro _ _ hrotated
      cases hrotated
    · intro _
      exact followsStore_failed hfollows hserving hkeys hrevoked hfailed
  cases hactive : getCurrentActiveKey state.signingKeys with
  | none =>
      exact followsStore_idle hfollows hserving hactive
  | some old =>
      by_cases hstorable : call.storable options env.now = true
      case neg =>
        rw [Bool.not_eq_true] at hstorable
        exact hfailure .invalidDate
          (rotateNow_of_not_storable hactive hstorable)
          (rotatedKey_of_not_storable hstorable _)
      have hrotation := @rotateNow_of_some options env call _ _ hactive
        hstorable
      have hrotated := rotatedKey_of_storable hstorable state.signingKeys
        old.kid env.now
      cases hcommit : commitRotation options call old.kid env.now
          (env.next.nextKey call old.kid env.now) state.signingKeys with
      | none =>
          rw [hcommit] at hrotation hrotated
          exact hfailure .uniqueViolation hrotation hrotated
      | some after =>
          rw [hcommit] at hrotation hrotated
          dsimp only at hrotation hrotated
          rw [hrotation] at hkeys hrevoked
          dsimp only at hkeys hrevoked
          rw [hrotated, hactive]
          have hiff := followsStore_commit hfollows hserving
            (hkeys ▸ hcommit)
            ⟨old, (mem_of_getCurrentActiveKey hactive).1, rfl⟩ (by
              intro kid hkid
              rcases hrevoked kid hkid with hold | ⟨_, _, hresult⟩
              · exact Or.inl hold
              · cases hresult
                exact Or.inr rfl)
          rw [hiff]
          constructor
          · intro hunheld other hother
            cases hother
            exact hunheld
          · intro hunheld
            exact hunheld old rfl

theorem put_serving {id : Nat} {server : OidcServer}
    {signingKeys : Table SigningKey}
    (hserver : ∀ jwks, server ≠ .serving jwks)
    (hbefore : ∀ jwks, state.server id ≠ .serving jwks) (other : Nat)
    (jwks : SigningKey) :
    (state.put id server signingKeys).server other = .serving jwks ↔
      state.server other = .serving jwks := by
  change Function.update state.server id server other = _ ↔ _
  by_cases hother : other = id
  · rw [hother, Function.update_self]
    exact ⟨fun hserving => absurd hserving (hserver jwks),
      fun hserving => absurd hserving (hbefore jwks)⟩
  · rw [Function.update_of_ne hother]

theorem rotateIfDue_of_some {env : KeyCallEnv} {old : SigningKey}
    {signingKeys : Table SigningKey}
    (hold : getCurrentActiveKey signingKeys = some old) :
    KeyStoreService.rotateIfDue options env signingKeys =
      if rotationDue options env.now old then
        KeyStoreService.rotateNow options env ⟨.scheduled, none⟩ signingKeys
      else (.ok (.notRotated old.kid .scheduled), signingKeys) := by
  unfold KeyStoreService.rotateIfDue
  rw [bind_ok (ensureKeyExists_of_some hold)]
  split
  case isTrue => rfl
  case isFalse => rfl

theorem rotatedKey_eq_some {env : KeyCallEnv} {call : RotateNow}
    {signingKeys : Table SigningKey} {old : SigningKey}
    (hrotated : rotatedKey options env call signingKeys = some old) :
    getCurrentActiveKey signingKeys = some old := by
  unfold rotatedKey at hrotated
  split at hrotated
  case isTrue => cases hrotated
  case isFalse => exact hrotated

/-- A server start rotates the key it finds due. -/
theorem followsStore_start (env : KeyCallEnv) (hfollows : FollowsStore state)
    (hserving : ∀ id jwks, next.server id = .serving jwks ↔
      state.server id = .serving jwks)
    (hkeys : next.signingKeys =
      (KeyStoreService.rotateIfDue options env state.signingKeys).2)
    (hrevoked : next.revoked = state.revoked) :
    FollowsStore next ↔ ∀ old,
      (rotatedKey options env ⟨.scheduled, none⟩ state.signingKeys).filter
          (rotationDue options env.now) = some old →
        ∀ id jwks, state.server id = .serving jwks → jwks.kid ≠ old.kid := by
  cases hactive : getCurrentActiveKey state.signingKeys with
  | none =>
      exact followsStore_idle hfollows hserving hactive
  | some old =>
      rw [rotateIfDue_of_some hactive] at hkeys
      split at hkeys
      case isTrue hdue =>
        rw [followsStore_rotateNow env _ hfollows hserving hkeys
          (fun kid hkid => Or.inl (by rwa [← hrevoked]))]
        have hall : (rotatedKey options env ⟨.scheduled, none⟩
            state.signingKeys).filter (rotationDue options env.now) =
              rotatedKey options env ⟨.scheduled, none⟩
                state.signingKeys := by
          cases hrotated : rotatedKey options env ⟨.scheduled, none⟩
              state.signingKeys with
          | none => rfl
          | some other =>
              have hsame := rotatedKey_eq_some hrotated
              rw [hactive, Option.some.injEq] at hsame
              rw [← hsame, Option.filter_some_pos hdue]
        rw [hall]
      case isFalse hdue =>
        constructor
        · intro _ other hother
          rw [Option.filter_eq_some_iff] at hother
          have hsame := rotatedKey_eq_some hother.1
          rw [hactive, Option.some.injEq] at hsame
          rw [← hsame] at hother
          exact absurd hother.2 hdue
        · intro _
          apply hfollows.of_kept (fun id jwks => (hserving id jwks).mp)
          · intro row hrow
            rwa [hkeys]
          · exact hrevoked

/-- A new provider holds a key that is active and was not revoked. -/
theorem followsStore_listen {id : Nat} {active : SigningKey}
    {signingKeys : Table SigningKey} (hwithdrawn : RevokedWithdrawn state)
    (hfollows : FollowsStore state)
    (hkept : ∀ row ∈ state.signingKeys, row ∈ signingKeys)
    (hactive : active ∈ signingKeys) (hcurrent : active.current = true) :
    FollowsStore (state.put id (.serving active) signingKeys) := by
  have hserver : ∀ other jwks,
      (state.put id (.serving active) signingKeys).server other =
        .serving jwks → jwks = active ∨ state.server other = .serving jwks := by
    intro other jwks hserving
    change Function.update state.server id (.serving active) other = _
      at hserving
    by_cases hother : other = id
    · rw [hother, Function.update_self] at hserving
      cases hserving
      exact Or.inl rfl
    · rw [Function.update_of_ne hother] at hserving
      exact Or.inr hserving
  apply FollowsStore.of_active
  · intro other jwks hserving
    rcases hserver other jwks hserving with rfl | hbefore
    · exact ⟨jwks, hactive, rfl, hcurrent⟩
    · obtain ⟨row, hrow, hkid, hrowCurrent⟩ :=
        hfollows.active other jwks hbefore
      exact ⟨row, hkept row hrow, hkid, hrowCurrent⟩
  · intro other jwks hserving hmem
    rcases hserver other jwks hserving with rfl | hbefore
    · obtain ⟨row, hrow, hkid, hrowCurrent⟩ := hwithdrawn jwks.kid hmem
      have hsame : row = jwks :=
        signingKeys.eq_of_key_eq (hkept row hrow) hactive hkid
      rw [hsame, hcurrent] at hrowCurrent
      cases hrowCurrent
    · exact hfollows.revoked other jwks hbefore hmem

theorem not_serving {id : Nat} {server : OidcServer}
    (hserver : state.server id = server)
    (hne : ∀ jwks, server ≠ .serving jwks) (jwks : SigningKey) :
    state.server id ≠ .serving jwks := by
  rw [hserver]
  exact hne jwks

theorem followsStore_step_start {id : Nat} {bootstrap draw : KeyDraw}
    (hfollows : FollowsStore state)
    (hstep : state.step options (.start id bootstrap draw) = some next) :
    FollowsStore next ↔
      RotatesUnheld options state (.start id bootstrap draw) := by
  dsimp only [SigningState.step] at hstep
  split at hstep
  case h_1 hdown =>
    have hbefore := not_serving hdown fun _ hserving => by cases hserving
    split at hstep
    case h_1 signingKeys hresult =>
      cases hstep
      exact followsStore_start (state.env bootstrap draw) hfollows
        (put_serving (fun _ hserving => by cases hserving) hbefore)
        (congrArg Prod.snd hresult).symm rfl
    case h_2 signingKeys hresult =>
      cases hstep
      exact followsStore_start (state.env bootstrap draw) hfollows
        (put_serving (fun _ hserving => by cases hserving) hbefore)
        (congrArg Prod.snd hresult).symm rfl
  case h_2 => cases hstep

theorem followsStore_step_listen {id : Nat} {bootstrap : KeyDraw}
    (hwithdrawn : RevokedWithdrawn state) (hfollows : FollowsStore state)
    (hstep : state.step options (.listen id bootstrap) = some next) :
    FollowsStore next := by
  dsimp only [SigningState.step] at hstep
  split at hstep
  case h_1 hbooting =>
    have hbefore := not_serving hbooting fun _ hserving => by cases hserving
    have hensures := ensures_ensureKeyExists
      (state.env bootstrap bootstrap) state.signingKeys
    unfold Ensures at hensures
    split at hstep
    case h_1 active signingKeys hresult =>
      cases hstep
      rw [KeyStoreService.getActivePrivateJwks] at hresult
      rw [hresult] at hensures
      obtain ⟨hactive, hcurrent⟩ := hensures.2 active rfl
      exact followsStore_listen hwithdrawn hfollows hensures.1 hactive
        hcurrent
    case h_2 signingKeys hresult =>
      cases hstep
      rw [KeyStoreService.getActivePrivateJwks] at hresult
      rw [hresult] at hensures
      exact hfollows.of_kept (fun other jwks =>
        (put_serving (fun _ hserving => by cases hserving) hbefore other
          jwks).mp) hensures.1 rfl
  case h_2 => cases hstep

theorem followsStore_step_stop {id : Nat} (hfollows : FollowsStore state) :
    FollowsStore (state.put id .down state.signingKeys) := by
  apply hfollows.of_kept
  · intro other jwks hserving
    change Function.update state.server id .down other = _ at hserving
    by_cases hother : other = id
    · rw [hother, Function.update_self] at hserving
      cases hserving
    · rwa [Function.update_of_ne hother] at hserving
  · exact fun _ hrow => hrow
  · rfl

/-- The revoked key is the one that the rotation found. -/
theorem followsStore_step_rotateEmergency {actorUserId : Option String}
    {bootstrap draw : KeyDraw} (hfollows : FollowsStore state)
    (hstep : state.step options
      (.rotateEmergency actorUserId bootstrap draw) = some next) :
    FollowsStore next ↔ RotatesUnheld options state
      (.rotateEmergency actorUserId bootstrap draw) := by
  dsimp only [SigningState.step] at hstep
  split at hstep
  case h_1 new previousKid reason signingKeys hresult =>
    cases hstep
    refine followsStore_rotateNow (state.env bootstrap draw)
      ⟨.emergency, actorUserId⟩ hfollows (fun _ _ => Iff.rfl)
      (congrArg Prod.snd hresult).symm fun kid hkid => ?_
    rcases List.mem_append.mp hkid with hold | hnew
    · exact Or.inl hold
    · cases List.mem_singleton.mp hnew
      exact Or.inr ⟨new, reason, congrArg Prod.fst hresult⟩
  case h_2 result signingKeys hother hresult =>
    cases hstep
    exact followsStore_rotateNow (state.env bootstrap draw)
      ⟨.emergency, actorUserId⟩ hfollows (fun _ _ => Iff.rfl)
      (congrArg Prod.snd hresult).symm (fun _ => Or.inl)

/-- Each step leads on to providers that follow the store exactly when no
provider is running with the key it rotates. -/
theorem followsStore_step {action : SigningAction}
    (hwithdrawn : RevokedWithdrawn state) (hfollows : FollowsStore state)
    (hstep : state.step options action = some next) :
    FollowsStore next ↔ RotatesUnheld options state action := by
  have hnever : (∀ old, state.rotated options action ≠ some old) →
      FollowsStore next →
        (FollowsStore next ↔ RotatesUnheld options state action) :=
    fun hnone hnext =>
      ⟨fun _ old hold => absurd hold (hnone old), fun _ => hnext⟩
  cases action with
  | start id bootstrap draw => exact followsStore_step_start hfollows hstep
  | listen id bootstrap =>
      apply hnever (fun _ hold => by cases hold)
      exact followsStore_step_listen hwithdrawn hfollows hstep
  | stop id =>
      apply hnever (fun _ hold => by cases hold)
      cases hstep
      exact followsStore_step_stop hfollows
  | rotateManual actorUserId bootstrap draw =>
      cases hstep
      exact followsStore_rotateNow (state.env bootstrap draw) _ hfollows
        (fun _ _ => Iff.rfl) rfl (fun _ => Or.inl)
  | rotateEmergency actorUserId bootstrap draw =>
      exact followsStore_step_rotateEmergency hfollows hstep
  | tick now =>
      apply hnever (fun _ hold => by cases hold)
      dsimp only [SigningState.step] at hstep
      split at hstep
      case isTrue =>
        cases hstep
        exact hfollows.of_kept (fun _ _ => id) (fun _ hrow => hrow) rfl
      case isFalse => cases hstep

end Follows

/-- No step brings a withdrawn key back. -/
theorem revokedWithdrawn_step {options : KeyStoreOptions}
    {state next : SigningState} {action : SigningAction}
    (hwithdrawn : RevokedWithdrawn state)
    (hstep : state.step options action = some next) :
    RevokedWithdrawn next := by
  cases action with
  | start id bootstrap draw =>
      dsimp only [SigningState.step] at hstep
      split at hstep
      case h_1 =>
        have hensures := @withdraws_rotateIfDue options
          (state.env bootstrap draw) state.signingKeys
        unfold Ensures at hensures
        split at hstep
        case h_1 signingKeys hresult =>
          cases hstep
          rw [hresult] at hensures
          exact fun kid hkid => hensures.1 kid (hwithdrawn kid hkid)
        case h_2 signingKeys hresult =>
          cases hstep
          rw [hresult] at hensures
          exact fun kid hkid => hensures.1 kid (hwithdrawn kid hkid)
      case h_2 => cases hstep
  | listen id bootstrap =>
      dsimp only [SigningState.step] at hstep
      split at hstep
      case h_1 =>
        have hensures := ensures_ensureKeyExists
          (state.env bootstrap bootstrap) state.signingKeys
        unfold Ensures at hensures
        split at hstep
        case h_1 active signingKeys hresult =>
          cases hstep
          rw [KeyStoreService.getActivePrivateJwks] at hresult
          rw [hresult] at hensures
          exact fun kid hkid => (hwithdrawn kid hkid).mono hensures.1
        case h_2 signingKeys hresult =>
          cases hstep
          rw [KeyStoreService.getActivePrivateJwks] at hresult
          rw [hresult] at hensures
          exact fun kid hkid => (hwithdrawn kid hkid).mono hensures.1
      case h_2 => cases hstep
  | stop id =>
      cases hstep
      exact hwithdrawn
  | rotateManual actorUserId bootstrap draw =>
      cases hstep
      intro kid hkid
      exact (@withdraws_rotateNow options (state.env bootstrap draw)
        ⟨.manual, actorUserId⟩ state.signingKeys).1 kid (hwithdrawn kid hkid)
  | rotateEmergency actorUserId bootstrap draw =>
      have hensures := @withdraws_rotateNow options
        (state.env bootstrap draw) ⟨.emergency, actorUserId⟩ state.signingKeys
      unfold Ensures at hensures
      dsimp only [SigningState.step] at hstep
      split at hstep
      case h_1 new previousKid reason signingKeys hresult =>
        cases hstep
        rw [KeyStoreService.rotateEmergency] at hresult
        rw [hresult] at hensures
        intro kid hkid
        rcases List.mem_append.mp hkid with hold | hnew
        · exact hensures.1 kid (hwithdrawn kid hold)
        · cases List.mem_singleton.mp hnew
          exact hensures.2 new previousKid reason rfl
      case h_2 result signingKeys hother hresult =>
        cases hstep
        rw [KeyStoreService.rotateEmergency] at hresult
        rw [hresult] at hensures
        exact fun kid hkid => hensures.1 kid (hwithdrawn kid hkid)
  | tick now =>
      dsimp only [SigningState.step] at hstep
      split at hstep
      case isTrue =>
        cases hstep
        exact hwithdrawn
      case isFalse => cases hstep

namespace ProviderWitness

/-- A server is stopped for the rotation and started again. -/
def restarted : List SigningAction :=
  [.start 0 KeyWitness.first KeyWitness.second, .listen 0 KeyWitness.first,
    .stop 0, .rotateEmergency none KeyWitness.first KeyWitness.second,
    .start 0 KeyWitness.first KeyWitness.second, .listen 0 KeyWitness.first]

def init : SigningState := .initial 1777204800000 .empty

/-- Only the first server is started and stopped. -/
def onFirst : SigningAction → Bool
  | .start id _ _ => id == 0
  | .listen id _ => id == 0
  | .stop id => id == 0
  | _ => true

def unheldByFirst (state : SigningState) (action : SigningAction) : Bool :=
  onFirst action &&
    (state.rotated KeyWitness.options action).all fun old =>
      match state.server 0 with
      | .serving jwks => jwks.kid ≠ old.kid
      | _ => true

theorem server_step {state next : SigningState} {action : SigningAction}
    {other : Nat} (hfirst : onFirst action = true) (hother : other ≠ 0)
    (hstep : state.step KeyWitness.options action = some next) :
    next.server other = state.server other := by
  have hput : ∀ id server signingKeys, (id == 0) = true →
      (state.put id server signingKeys).server other = state.server other := by
    intro id server signingKeys hid
    exact Function.update_of_ne (beq_iff_eq.mp hid ▸ hother) _ _
  cases action with
  | start id bootstrap draw =>
      rw [SigningState.step] at hstep
      split at hstep
      · split at hstep
        · cases hstep
          exact hput id _ _ hfirst
        · cases hstep
          exact hput id _ _ hfirst
      · cases hstep
  | listen id bootstrap =>
      rw [SigningState.step] at hstep
      split at hstep
      · split at hstep
        · cases hstep
          exact hput id _ _ hfirst
        · cases hstep
          exact hput id _ _ hfirst
      · cases hstep
  | stop id =>
      cases hstep
      exact hput id _ _ hfirst
  | rotateManual actorUserId bootstrap draw =>
      cases hstep
      rfl
  | rotateEmergency actorUserId bootstrap draw =>
      rw [SigningState.step] at hstep
      split at hstep
      · cases hstep
        rfl
      · cases hstep
        rfl
  | tick now =>
      rw [SigningState.step] at hstep
      split at hstep
      · cases hstep
        rfl
      · cases hstep

theorem rotatesUnheld_restarted :
    StepSystem.Along (SigningState.step KeyWitness.options)
      (RotatesUnheld KeyWitness.options) init restarted := by
  have hcheck : StepSystem.Along (SigningState.step KeyWitness.options)
      (fun state action => unheldByFirst state action = true) init
      restarted :=
    StepSystem.along_of_check _ (fun _ _ hcheck => hcheck) (by decide +kernel)
  refine hcheck.of_preserved _
    (fun state => ∀ other, other ≠ 0 → state.server other = .down) ?_ ?_ ?_
  · intro state action next hdown hunheld hstep other hother
    rw [unheldByFirst, Bool.and_eq_true] at hunheld
    rw [server_step hunheld.1 hother hstep]
    exact hdown other hother
  · intro state action hdown hunheld old hold id jwks hserving
    rw [unheldByFirst, Bool.and_eq_true, hold, Option.all_some] at hunheld
    by_cases hid : id = 0
    · subst hid
      rw [hserving] at hunheld
      exact of_decide_eq_true hunheld.2
    · rw [hdown id hid] at hserving
      cases hserving
  · exact fun other _ => rfl

/-- The keys are rotated while the server runs. -/
def running : List SigningAction :=
  [.start 0 KeyWitness.first KeyWitness.second, .listen 0 KeyWitness.first,
    .rotateEmergency none KeyWitness.first KeyWitness.second]

def afterRotation : SigningState :=
  StepSystem.after (SigningState.step KeyWitness.options) init running

end ProviderWitness

end IdProvider
