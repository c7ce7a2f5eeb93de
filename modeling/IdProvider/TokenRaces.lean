/-
Confirmations side by side: which of them can use one token twice.
-/
import IdProvider.OneTimeTokens
import Mathlib.Data.List.Lattice

namespace IdProvider

open Interleaving JsonText KeyedTable ServiceCall AuthService

/-! ## Tokens later on -/

/-- A row of a token table at some later moment. -/
structure OneTimeToken.Later (token later : OneTimeToken) : Prop where
  id : later.id = token.id
  tokenHash : later.tokenHash = token.tokenHash
  expiresAt : later.expiresAt = token.expiresAt
  consumed : token.consumedAt.isSome = true → later.consumedAt.isSome = true

theorem OneTimeToken.Later.refl (token : OneTimeToken) : token.Later token :=
  ⟨rfl, rfl, rfl, fun hconsumed => hconsumed⟩

theorem OneTimeToken.Later.trans {first second third : OneTimeToken}
    (hfirst : first.Later second) (hsecond : second.Later third) :
    first.Later third where
  id := hsecond.id.trans hfirst.id
  tokenHash := hsecond.tokenHash.trans hfirst.tokenHash
  expiresAt := hsecond.expiresAt.trans hfirst.expiresAt
  consumed hconsumed := hsecond.consumed (hfirst.consumed hconsumed)

theorem OneTimeToken.later_withConsumedAt (token : OneTimeToken)
    (now : Instant) : token.Later (token.withConsumedAt now) :=
  ⟨rfl, rfl, rfl, fun _ => rfl⟩

/-- A change of the token tables that leaves alone what is not in `rows`. -/
structure TokensLater (rows : List RowLock) (before after : AccountDb) :
    Prop where
  row : ∀ kind : TokenKind, ∀ token ∈ kind.tokens before,
    ∃ later ∈ kind.tokens after, token.Later later ∧
      (.token kind token.id ∉ rows → later = token)
  unique : UniqueHashes before → UniqueHashes after

namespace TokensLater

variable {rows more : List RowLock} {first second third : AccountDb}

theorem of_tokens (htokens : ∀ kind : TokenKind,
    kind.tokens second = kind.tokens first) :
    TokensLater rows first second := by
  constructor
  · intro kind token htoken
    rw [← htokens] at htoken
    exact ⟨token, htoken, .refl token, fun _ => rfl⟩
  · intro hunique kind
    rw [htokens]
    exact hunique kind

theorem refl (db : AccountDb) : TokensLater rows db db :=
  of_tokens fun _ => rfl

theorem trans (hfirst : TokensLater rows first second)
    (hsecond : TokensLater rows second third) :
    TokensLater rows first third := by
  constructor
  · intro kind token htoken
    obtain ⟨middle, hmiddle, hlater, hsame⟩ := hfirst.row kind token htoken
    obtain ⟨last, hlast, hlater', hsame'⟩ := hsecond.row kind middle hmiddle
    refine ⟨last, hlast, hlater.trans hlater', fun hfree => ?_⟩
    have hmiddleFree : RowLock.token kind middle.id ∉ rows := by
      rwa [hlater.id]
    exact (hsame' hmiddleFree).trans (hsame hfree)
  · exact fun hunique => hsecond.unique (hfirst.unique hunique)

theorem mono (hlater : TokensLater rows first second)
    (hrows : rows ⊆ more) : TokensLater more first second := by
  refine ⟨fun kind token htoken => ?_, hlater.unique⟩
  obtain ⟨later, hmem, hrow, hsame⟩ := hlater.row kind token htoken
  exact ⟨later, hmem, hrow, fun hfree => hsame fun hin => hfree (hrows hin)⟩

end TokensLater

namespace TokenKind

theorem tokens_consumeWhere (kind other : TokenKind)
    (where_ : OneTimeToken → Bool) (now : Instant) (db : AccountDb) :
    other.tokens (kind.consumeWhere where_ now db) =
      if kind = other then
        (other.tokens db).map fun token =>
          if where_ token then token.withConsumedAt now else token
      else other.tokens db := by
  cases kind with
  | emailVerification =>
      cases other with
      | emailVerification =>
          simp only [tokens, consumeWhere, Table.update, List.map_map, if_true]
          apply List.map_congr_left
          intro token htoken
          simp only [Function.comp_apply]
          split
          case isTrue => rfl
          case isFalse => rfl
      | passwordReset => rfl
  | passwordReset =>
      cases other with
      | emailVerification => rfl
      | passwordReset =>
          simp only [tokens, consumeWhere, Table.update, List.map_map, if_true]
          apply List.map_congr_left
          intro token htoken
          simp only [Function.comp_apply]
          split
          case isTrue => rfl
          case isFalse => rfl

variable {kind : TokenKind} {where_ : OneTimeToken → Bool} {now : Instant}
  {db : AccountDb}

theorem mem_tokens_consumeWhere {token : OneTimeToken}
    (htoken : token ∈ kind.tokens db) (hmatch : where_ token = true) :
    token.withConsumedAt now ∈
      kind.tokens (kind.consumeWhere where_ now db) := by
  rw [tokens_consumeWhere, if_pos rfl]
  have hmem := List.mem_map_of_mem (f := fun token =>
    if where_ token then OneTimeToken.withConsumedAt token now else token) htoken
  rwa [if_pos hmatch] at hmem

theorem later_consumeWhere {rows : List RowLock}
    (hrows : ∀ token ∈ kind.tokens db, where_ token = true →
      .token kind token.id ∈ rows) :
    TokensLater rows db (kind.consumeWhere where_ now db) := by
  have hlater : ∀ token : OneTimeToken, token.Later
      (if where_ token then token.withConsumedAt now else token) := by
    intro token
    split
    case isTrue => exact token.later_withConsumedAt now
    case isFalse => exact .refl token
  constructor
  · intro other token htoken
    rw [tokens_consumeWhere]
    by_cases hkind : kind = other
    · subst hkind
      rw [if_pos rfl]
      refine ⟨_, List.mem_map_of_mem htoken, hlater token, fun hfree => ?_⟩
      exact if_neg fun hmatch => hfree (hrows token htoken hmatch)
    · rw [if_neg hkind]
      exact ⟨token, htoken, .refl token, fun _ => rfl⟩
  · intro hunique other left hleft right hright hsame
    rw [tokens_consumeWhere] at hleft hright
    by_cases hkind : kind = other
    · subst hkind
      rw [if_pos rfl, List.mem_map] at hleft hright
      obtain ⟨left, hleft, rfl⟩ := hleft
      obtain ⟨right, hright, rfl⟩ := hright
      rw [(hlater left).tokenHash, (hlater right).tokenHash] at hsame
      rw [hunique kind left hleft right hright hsame]
    · rw [if_neg hkind] at hleft hright
      exact hunique other left hleft right hright hsame

end TokenKind

/-! ## What statements do to tokens -/

def ServiceState.tokenTables (st : ServiceState) :
    Table EmailVerificationToken × Table PasswordResetToken :=
  (st.db.emailVerificationTokens, st.db.passwordResetTokens)

theorem TokensLater.of_tables {rows : List RowLock} {st after : ServiceState}
    (hsame : after.tokenTables = st.tokenTables) :
    TokensLater rows st.db after.db := by
  apply TokensLater.of_tokens
  intro kind
  cases kind with
  | emailVerification =>
      exact congrArg (fun tables : Table EmailVerificationToken ×
        Table PasswordResetToken =>
          tables.1.rows.map EmailVerificationToken.oneTime) hsame
  | passwordReset =>
      exact congrArg (fun tables : Table EmailVerificationToken ×
        Table PasswordResetToken =>
          tables.2.rows.map PasswordResetToken.oneTime) hsame

namespace RowWrite

theorem later_apply (write : RowWrite) (st : ServiceState) :
    TokensLater (heldLocks [write]) st.db (write.apply st).db := by
  cases write with
  | verifyEmail id => exact .of_tables rfl
  | setPassword userId passwordHash now => exact .of_tables rfl
  | revokeSession id now => exact .of_tables rfl
  | insertEvent event => exact .refl _
  | consumeToken kind id now =>
      have hrows : ∀ token ∈ kind.tokens st.db, (token.id == id) = true →
          RowLock.token kind token.id ∈ [RowLock.token kind id] := by
        intro token _ hmatch
        rw [eq_of_beq hmatch]
        exact List.mem_singleton_self _
      exact TokenKind.later_consumeWhere hrows

theorem later_applyAll (writes : List RowWrite) (st : ServiceState) :
    TokensLater (heldLocks writes) st.db
      (writes.foldl RowWrite.apply st).db := by
  induction writes generalizing st with
  | nil => exact .refl _
  | cons write writes ih =>
      have hfirst : heldLocks [write] ⊆ heldLocks (write :: writes) :=
        (List.Sublist.filterMap lock?
          (List.sublist_append_left [write] writes)).subset
      have hrest : heldLocks writes ⊆ heldLocks (write :: writes) :=
        (List.Sublist.filterMap lock? (List.sublist_cons_self write writes)).subset
      exact ((later_apply write st).mono hfirst).trans
        ((ih (write.apply st)).mono hrest)

/-- A token that the transaction marks is consumed when it has committed. -/
theorem consumed_applyAll {kind : TokenKind} {now : Instant}
    {token : OneTimeToken} {writes : List RowWrite} {st : ServiceState}
    (hwrite : .consumeToken kind token.id now ∈ writes)
    (htoken : token ∈ kind.tokens st.db) :
    ∃ later ∈ kind.tokens (writes.foldl RowWrite.apply st).db,
      token.Later later ∧ later.consumedAt.isSome = true := by
  induction writes generalizing st token with
  | nil => cases hwrite
  | cons write writes ih =>
      rcases List.mem_cons.mp hwrite with hhead | htail
      · have hmarked : token.withConsumedAt now ∈
            kind.tokens (write.apply st).db := by
          rw [← hhead]
          exact TokenKind.mem_tokens_consumeWhere htoken (beq_self_eq_true _)
        obtain ⟨later, hlater, hrow, -⟩ :=
          (later_applyAll writes (write.apply st)).row kind _ hmarked
        exact ⟨later, hlater, (token.later_withConsumedAt now).trans hrow,
          hrow.consumed rfl⟩
      · obtain ⟨middle, hmiddle, hrow, -⟩ :=
          (later_apply write st).row kind token htoken
        rw [← hrow.id] at htail
        obtain ⟨later, hlater, hrow', hconsumed⟩ := ih htail hmiddle
        exact ⟨later, hlater, hrow.trans hrow', hconsumed⟩

end RowWrite

section Consume

variable (kind : TokenKind) (tokenHash : String) {st : ServiceState}

theorem consumeValidToken_of_answers
    (hanswers : (st.readings st.ticks).fails = false) :
    VerificationRepository.consumeValidToken kind tokenHash st =
      (.ok (((kind.tokens st.db).find? (OneTimeToken.isConsumable
          (st.readings st.ticks).now tokenHash)).map OneTimeToken.userId),
        (st.tick 1).withDb (kind.consumeWhere (OneTimeToken.isConsumable
          (st.readings st.ticks).now tokenHash)
          (st.readings st.ticks).now st.db)) := by
  cases kind with
  | emailVerification =>
      have hfind : ((TokenKind.emailVerification.tokens st.db).find?
          (OneTimeToken.isConsumable (st.readings st.ticks).now tokenHash)).map
            OneTimeToken.userId =
          (st.db.emailVerificationTokens.first? (EmailVerificationToken.isConsumable
            (st.readings st.ticks).now tokenHash)).map
              EmailVerificationToken.userId := by
        rw [TokenKind.tokens, List.find?_map, Option.map_map]
        rfl
      rw [hfind]
      change VerificationRepository.consumeValidEmailTokenByHash tokenHash st = _
      exact external_of_answers hanswers
  | passwordReset =>
      have hfind : ((TokenKind.passwordReset.tokens st.db).find?
          (OneTimeToken.isConsumable (st.readings st.ticks).now tokenHash)).map
            OneTimeToken.userId =
          (st.db.passwordResetTokens.first? (PasswordResetToken.isConsumable
            (st.readings st.ticks).now tokenHash)).map
              PasswordResetToken.userId := by
        rw [TokenKind.tokens, List.find?_map, Option.map_map]
        rfl
      rw [hfind]
      change VerificationRepository.consumeValidPasswordTokenByHash tokenHash st = _
      exact external_of_answers hanswers

theorem consumeValidToken_of_fails
    (hfails : (st.readings st.ticks).fails = true) :
    VerificationRepository.consumeValidToken kind tokenHash st =
      (.error .unavailable, st.tick 1) := by
  cases kind with
  | emailVerification =>
      change VerificationRepository.consumeValidEmailTokenByHash tokenHash st = _
      exact external_of_fails hfails
  | passwordReset =>
      change VerificationRepository.consumeValidPasswordTokenByHash tokenHash st = _
      exact external_of_fails hfails

end Consume

/-! ## The invariant -/

/-- The token has been used, and in time. -/
def Spent (db : AccountDb) (kind : TokenKind) (tokenHash : String)
    (consumedAt : Instant) : Prop :=
  ∃ row ∈ kind.tokens db, row.tokenHash = tokenHash ∧
    row.consumedAt.isSome = true ∧ consumedAt < row.expiresAt

def Selected (db : AccountDb) (kind : TokenKind) (tokenHash : String)
    (token : SelectedToken) : Prop :=
  ∃ row ∈ kind.tokens db, row.id = token.id ∧ row.tokenHash = tokenHash

/-- The transaction has marked a token that is still unused. -/
def Marked (db : AccountDb) (kind : TokenKind) (tokenHash : String)
    (consumedAt : Instant) (writes : List RowWrite) : Prop :=
  ∃ row ∈ kind.tokens db, row.tokenHash = tokenHash ∧
    row.consumedAt = none ∧ consumedAt < row.expiresAt ∧
      ∃ now, .consumeToken kind row.id now ∈ writes

/-- When the server consumed the token of the call. -/
def ServerPhase.claimed : ServerPhase → Option Instant
  | .consuming => none
  | .checkingUser _ consumedAt => some consumedAt
  | .hashing _ _ consumedAt => some consumedAt
  | .updatingUser _ _ consumedAt => some consumedAt
  | .done consumedAt => some consumedAt

/-- The selected token that is not marked yet. -/
def CorePhase.token : CorePhase → Option SelectedToken
  | .verifyingEmail token => some token
  | .hashing token _ => some token
  | .settingPassword token _ => some token
  | .revokingSessions token => some token
  | .consuming token => some token
  | _ => none

def CorePhase.marked : CorePhase → Option Instant
  | .writingEvent _ consumedAt => some consumedAt
  | .reporting _ consumedAt => some consumedAt
  | .committing _ consumedAt => some consumedAt
  | .done _ consumedAt => some consumedAt
  | _ => none

namespace ConfirmThread

def held : ConfirmThread → List RowLock
  | .server _ _ => []
  | .core _ _ writes => heldLocks writes

variable (env : GoogleEnv)

/-- A call of the server that has consumed a token of this hash. -/
def Claims (kind : TokenKind) (tokenHash : String) : ConfirmThread → Prop
  | .server call phase => phase.claimed.isSome = true ∧ call.kind = kind ∧
      env.hashOpaqueToken call.token = tokenHash
  | .core _ _ _ => False

structure Ok (store : ConfirmStore) (thread : ConfirmThread) : Prop where
  held : thread.held ⊆ store.locks
  server : ∀ call phase, thread = .server call phase →
    ∀ consumedAt, phase.claimed = some consumedAt →
      Spent store.service.db call.kind (env.hashOpaqueToken call.token)
        consumedAt
  unused : ∀ confirmation ∈ store.confirmed, ¬ thread.Claims env
    confirmation.kind (env.hashOpaqueToken confirmation.token)
  selected : ∀ call phase writes, thread = .core call phase writes →
    ∀ token, phase.token = some token → Selected store.service.db call.kind
      (env.hashOpaqueToken call.token) token
  marked : ∀ call phase writes, thread = .core call phase writes →
    ∀ consumedAt, phase.marked = some consumedAt →
      Marked store.service.db call.kind (env.hashOpaqueToken call.token)
        consumedAt writes

end ConfirmThread

structure ConfirmStore.Ok (env : GoogleEnv) (store : ConfirmStore) :
    Prop where
  unique : UniqueHashes store.service.db
  once : (store.confirmed.map fun confirmation => (confirmation.kind,
    env.hashOpaqueToken confirmation.token)).Nodup
  spent : ∀ confirmation ∈ store.confirmed, Spent store.service.db
    confirmation.kind (env.hashOpaqueToken confirmation.token)
    confirmation.consumedAt

/-- No row is written by two calls, and no token consumed by two. -/
def confirmInvariant (env : GoogleEnv) :
    Invariant ConfirmStore ConfirmThread where
  SharedOk store := store.Ok env
  ThreadOk store thread := thread.Ok env store
  Apart left right := left.held.Disjoint right.held ∧
    ∀ kind tokenHash, left.Claims env kind tokenHash →
      ¬ right.Claims env kind tokenHash

/-! ## What later changes leave -/

section Later

variable {env : GoogleEnv} {rows : List RowLock} {before after : AccountDb}
  {kind : TokenKind} {tokenHash : String} {consumedAt : Instant}

theorem Spent.later (hspent : Spent before kind tokenHash consumedAt)
    (hlater : TokensLater rows before after) :
    Spent after kind tokenHash consumedAt := by
  obtain ⟨row, hrow, hhash, hconsumed, htime⟩ := hspent
  obtain ⟨later, hmem, hfollows, -⟩ := hlater.row kind row hrow
  refine ⟨later, hmem, hfollows.tokenHash.trans hhash,
    hfollows.consumed hconsumed, ?_⟩
  rwa [hfollows.expiresAt]

theorem Selected.later {token : SelectedToken}
    (hselected : Selected before kind tokenHash token)
    (hlater : TokensLater rows before after) :
    Selected after kind tokenHash token := by
  obtain ⟨row, hrow, hid, hhash⟩ := hselected
  obtain ⟨later, hmem, hfollows, -⟩ := hlater.row kind row hrow
  exact ⟨later, hmem, hfollows.id.trans hid, hfollows.tokenHash.trans hhash⟩

theorem mem_heldLocks {writes : List RowWrite} {id : String} {now : Instant}
    (hwrite : .consumeToken kind id now ∈ writes) :
    .token kind id ∈ heldLocks writes :=
  List.mem_filterMap.mpr ⟨_, hwrite, rfl⟩

theorem Marked.later {writes : List RowWrite}
    (hmarked : Marked before kind tokenHash consumedAt writes)
    (hlater : TokensLater rows before after)
    (hfree : ∀ lock ∈ heldLocks writes, lock ∉ rows) :
    Marked after kind tokenHash consumedAt writes := by
  obtain ⟨row, hrow, hhash, hnone, htime, now, hwrite⟩ := hmarked
  obtain ⟨later, hmem, -, hsame⟩ := hlater.row kind row hrow
  rw [hsame (hfree _ (mem_heldLocks hwrite))] at hmem
  exact ⟨row, hmem, hhash, hnone, htime, now, hwrite⟩

/-- What another call's step leaves of a thread. -/
theorem ConfirmThread.Ok.later {store next : ConfirmStore}
    {thread : ConfirmThread} (hok : thread.Ok env store)
    (hlater : TokensLater rows store.service.db next.service.db)
    (hheld : thread.held ⊆ next.locks)
    (hfree : ∀ lock ∈ thread.held, lock ∉ rows)
    (hconfirmed : ∀ confirmation ∈ next.confirmed,
      confirmation ∈ store.confirmed ∨ ¬ thread.Claims env confirmation.kind
        (env.hashOpaqueToken confirmation.token)) :
    thread.Ok env next := by
  constructor
  · exact hheld
  · intro call phase hthread consumedAt hclaimed
    exact (hok.server call phase hthread consumedAt hclaimed).later hlater
  · intro confirmation hmem
    rcases hconfirmed confirmation hmem with hold | hunclaimed
    · exact hok.unused confirmation hold
    · exact hunclaimed
  · intro call phase writes hthread token htoken
    exact (hok.selected call phase writes hthread token htoken).later hlater
  · intro call phase writes hthread consumedAt hmarked
    subst hthread
    exact (hok.marked call phase writes rfl consumedAt hmarked).later hlater
      hfree

theorem ConfirmStore.Ok.later {store next : ConfirmStore}
    (hok : store.Ok env)
    (hlater : TokensLater rows store.service.db next.service.db)
    (hconfirmed : next.confirmed = store.confirmed) : next.Ok env := by
  constructor
  · exact hlater.unique hok.unique
  · rw [hconfirmed]
    exact hok.once
  · intro confirmation hmem
    rw [hconfirmed] at hmem
    exact (hok.spent confirmation hmem).later hlater

/-- One more call has succeeded. -/
theorem ConfirmStore.Ok.confirm {store next : ConfirmStore}
    {call : ConfirmCall} (hok : store.Ok env)
    (hlater : TokensLater rows store.service.db next.service.db)
    (hconfirmed : next.confirmed =
      store.confirmed ++ [call.confirmation consumedAt])
    (hspent : Spent next.service.db call.kind
      (env.hashOpaqueToken call.token) consumedAt)
    (hnew : ∀ confirmation ∈ store.confirmed,
      ¬ (confirmation.kind = call.kind ∧
        env.hashOpaqueToken confirmation.token =
          env.hashOpaqueToken call.token)) : next.Ok env := by
  constructor
  · exact hlater.unique hok.unique
  · rw [hconfirmed, List.map_append, List.nodup_append]
    refine ⟨hok.once, List.nodup_singleton _, ?_⟩
    intro left hleft right hright hsame
    obtain ⟨confirmation, hmem, rfl⟩ := List.mem_map.mp hleft
    rw [List.map_singleton, List.mem_singleton] at hright
    rw [hright, Prod.mk.injEq] at hsame
    exact hnew confirmation hmem hsame
  · intro confirmation hmem
    rw [hconfirmed, List.mem_append, List.mem_singleton] at hmem
    rcases hmem with hold | rfl
    · exact (hok.spent confirmation hold).later hlater
    · exact hspent

/-- A step of one call keeps the invariant: the rows it writes are its own or
nobody's, and what it comes to claim nobody else claims. -/
theorem keeps_of_later {store next : ConfirmStore} {mover : ConfirmThread}
    {thread : Option ConfirmThread} (hok : next.Ok env)
    (hlater : TokensLater rows store.service.db next.service.db)
    (hrows : ∀ row ∈ rows, row ∈ mover.held ∨ row ∉ store.locks)
    (hlocks : ∀ lock ∈ store.locks, lock ∈ mover.held ∨ lock ∈ next.locks)
    (hconfirmed : ∀ confirmation ∈ next.confirmed,
      confirmation ∈ store.confirmed ∨
        ∀ other : ConfirmThread, other.Ok env store →
          (confirmInvariant env).Apart mover other →
          ¬ other.Claims env confirmation.kind
            (env.hashOpaqueToken confirmation.token))
    (hthread : ∀ following, thread = some following →
      following.Ok env next ∧
        (∀ lock ∈ following.held, lock ∈ mover.held ∨ lock ∉ store.locks) ∧
        ∀ kind tokenHash, following.Claims env kind tokenHash →
          ∀ other : ConfirmThread, other.Ok env store →
            (confirmInvariant env).Apart mover other →
            ¬ other.Claims env kind tokenHash) :
    (confirmInvariant env).Keeps store mover next thread := by
  constructor
  · exact hok
  · exact fun following hfollowing => (hthread following hfollowing).1
  · intro other hother hapart
    apply ConfirmThread.Ok.later hother hlater
    · intro lock hlock
      rcases hlocks lock (hother.held hlock) with hmover | hnext
      · exact absurd hlock (hapart.1 hmover)
      · exact hnext
    · intro lock hlock hin
      rcases hrows lock hin with hmover | hunlocked
      · exact hapart.1 hmover hlock
      · exact hunlocked (hother.held hlock)
    · intro confirmation hmem
      rcases hconfirmed confirmation hmem with hold | hunclaimed
      · exact .inl hold
      · exact .inr (hunclaimed other hother hapart)
  · intro following hfollowing other hother hapart
    obtain ⟨-, hheld, hclaims⟩ := hthread following hfollowing
    have hdisjoint : following.held.Disjoint other.held := by
      intro lock hlock hin
      rcases hheld lock hlock with hmover | hunlocked
      · exact hapart.1 hmover hin
      · exact hunlocked (hother.held hin)
    refine ⟨⟨hdisjoint, ?_⟩, ⟨List.Disjoint.symm hdisjoint, ?_⟩⟩
    · intro kind tokenHash hclaimed
      exact hclaims kind tokenHash hclaimed other hother hapart
    · intro kind tokenHash hotherClaims hclaimed
      exact hclaims kind tokenHash hclaimed other hother hapart hotherClaims

end Later

/-! ## Steps of the server -/

section Server

variable {env : GoogleEnv} {call : ConfirmCall} {phase : ServerPhase}
  {store after : ConfirmStore} {thread : Option ConfirmThread}

/-- What follows the consumption leaves the tokens alone. -/
theorem ServerPhase.keepsTokens_next (env : GoogleEnv) (call : ConfirmCall)
    (now : Instant) {consumedAt : Instant}
    (hclaimed : phase.claimed = some consumedAt) :
    Keeps ServiceState.tokenTables (phase.next env call now) := by
  have hselect : ∀ {Value : Type} (read : AccountDb → Value),
      Keeps ServiceState.tokenTables (select read) :=
    fun read => keepsView_external (fun _ => rfl) fun _ => fun _ => rfl
  cases phase with
  | consuming => cases hclaimed
  | checkingUser userId consumedAt =>
      apply (hselect _).bind
      intro active
      exact keeps_ite (keeps_pure _) (keeps_fail _)
  | hashing userId passwordHash consumedAt =>
      have hhash : Keeps ServiceState.tokenTables (hashPassword passwordHash) :=
        keepsView_external (fun _ => rfl) fun _ => keeps_pure _
      exact hhash.bind fun _ => keeps_pure _
  | updatingUser userId newPasswordHash consumedAt =>
      have hupdate : Keeps ServiceState.tokenTables
          (updateUser userId newPasswordHash) := by
        cases newPasswordHash with
        | none => exact keepsView_external (fun _ => rfl) fun _ => fun _ => rfl
        | some passwordHash =>
            exact keepsView_external (fun _ => rfl) fun _ => fun _ => rfl
      exact hupdate.bind fun _ => keeps_pure _
  | done consumedAt => exact keeps_pure _

theorem ServerPhase.claimed_next (env : GoogleEnv) (call : ConfirmCall)
    (now : Instant) {consumedAt : Instant}
    (hclaimed : phase.claimed = some consumedAt) :
    Yields (phase.next env call now)
      fun next => next.claimed = some consumedAt := by
  cases phase with
  | consuming => cases hclaimed
  | checkingUser userId at_ =>
      have hchecked : (checked call userId at_).claimed = some consumedAt := by
        cases call with
        | emailVerification token => exact hclaimed
        | passwordReset token passwordHash => exact hclaimed
      apply yields_bind
      intro active
      exact yields_ite (yields_pure hchecked) yields_fail
  | hashing userId passwordHash at_ =>
      exact yields_bind fun _ => yields_pure hclaimed
  | updatingUser userId newPasswordHash at_ =>
      exact yields_bind fun _ => yields_pure hclaimed
  | done at_ => exact yields_pure hclaimed

theorem busy_eq_false {rows own : List RowLock}
    (hbusy : store.busy rows own = false) :
    ∀ row ∈ rows, row ∈ own ∨ row ∉ store.locks := by
  intro row hrow
  rw [ConfirmStore.busy, List.any_eq_false] at hbusy
  have hfree := hbusy row hrow
  by_cases hown : row ∈ own
  · exact .inl hown
  · refine .inr fun hlocked => hfree ?_
    simp [hlocked, hown]

theorem server_ok {next : ServerPhase} {consumedAt : Instant}
    (hclaimed : next.claimed = some consumedAt)
    (hspent : Spent store.service.db call.kind
      (env.hashOpaqueToken call.token) consumedAt)
    (hunused : ∀ confirmation ∈ store.confirmed,
      ¬ (call.kind = confirmation.kind ∧ env.hashOpaqueToken call.token =
        env.hashOpaqueToken confirmation.token)) :
    (ConfirmThread.server call next).Ok env store := by
  constructor
  · exact List.nil_subset _
  · intro other phase hthread at_ hat
    cases hthread
    cases hclaimed.symm.trans hat
    exact hspent
  · intro confirmation hmem hclaims
    exact hunused confirmation hmem hclaims.2
  · intro other phase writes hthread
    cases hthread
  · intro other phase writes hthread
    cases hthread

/-- A step that ends a call without success. -/
theorem keeps_unconfirmed {mover : ConfirmThread} {rows : List RowLock}
    (hok : store.Ok env)
    (hlater : TokensLater rows store.service.db after.service.db)
    (hrows : ∀ row ∈ rows, row ∈ mover.held ∨ row ∉ store.locks)
    (hlocks : ∀ lock ∈ store.locks, lock ∈ mover.held ∨ lock ∈ after.locks)
    (hconfirmed : after.confirmed = store.confirmed) :
    (confirmInvariant env).Keeps store mover after none := by
  apply keeps_of_later (hok.later hlater hconfirmed) hlater hrows hlocks
  · intro confirmation hmem
    rw [hconfirmed] at hmem
    exact .inl hmem
  · exact nofun

/-- The server goes on with a token that it has consumed. -/
theorem keeps_claimed (after : ConfirmStore) {consumedAt : Instant}
    (hok : store.Ok env)
    (hthread : (ConfirmThread.server call phase).Ok env store)
    (hclaimed : phase.claimed = some consumedAt) {next : ServerPhase}
    (hnext : next.claimed = some consumedAt)
    (hlater : TokensLater [] store.service.db after.service.db)
    (hlocks : after.locks = store.locks) :
    (after.confirmed = store.confirmed →
      (confirmInvariant env).Keeps store (.server call phase) after
        (some (.server call next))) ∧
      (after.confirmed = store.confirmed ++ [call.confirmation consumedAt] →
        (confirmInvariant env).Keeps store (.server call phase) after none) := by
  have hspent := (hthread.server call phase rfl consumedAt hclaimed).later hlater
  have hclaims : (ConfirmThread.server call phase).Claims env call.kind
      (env.hashOpaqueToken call.token) := by
    refine ⟨?_, rfl, rfl⟩
    rw [hclaimed]
    rfl
  have hunused : ∀ confirmation ∈ store.confirmed,
      ¬ (call.kind = confirmation.kind ∧ env.hashOpaqueToken call.token =
        env.hashOpaqueToken confirmation.token) :=
    fun confirmation hmem hsame =>
      hthread.unused confirmation hmem ⟨hclaims.1, hsame⟩
  have hkept : ∀ lock ∈ store.locks,
      lock ∈ (ConfirmThread.server call phase).held ∨ lock ∈ after.locks := by
    intro lock hlock
    rw [hlocks]
    exact .inr hlock
  constructor
  · intro hconfirmed
    apply keeps_of_later (hok.later hlater hconfirmed) hlater nofun hkept
    · intro confirmation hmem
      rw [hconfirmed] at hmem
      exact .inl hmem
    · rintro following hfollowing
      cases hfollowing
      refine ⟨server_ok hnext hspent ?_, nofun, ?_⟩
      · rwa [hconfirmed]
      · rintro kind tokenHash ⟨-, rfl, rfl⟩ other - hapart
        exact hapart.2 _ _ hclaims
  · intro hconfirmed
    have hnextOk : after.Ok env := hok.confirm hlater hconfirmed hspent
      fun confirmation hmem hsame =>
        hunused confirmation hmem ⟨hsame.1.symm, hsame.2.symm⟩
    apply keeps_of_later hnextOk hlater nofun hkept
    · intro confirmation hmem
      rw [hconfirmed, List.mem_append, List.mem_singleton] at hmem
      rcases hmem with hold | rfl
      · exact .inl hold
      · exact .inr fun other _ hapart => hapart.2 _ _ hclaims
    · exact nofun

/-- The rows of the consuming update are those of its result. -/
theorem later_consuming (env : GoogleEnv) (call : ConfirmCall)
    (st : ServiceState) :
    TokensLater (ServerPhase.consuming.rows env call st) st.db
      (call.kind.consumeWhere (OneTimeToken.isConsumable
        (st.readings st.ticks).now (env.hashOpaqueToken call.token))
        (st.readings st.ticks).now st.db) := by
  apply TokenKind.later_consumeWhere
  intro token htoken hmatch
  exact List.mem_map_of_mem (List.mem_filter.mpr ⟨htoken, hmatch⟩)

/-- The consumption fails, or it consumes one token. -/
theorem next_consuming (env : GoogleEnv) (call : ConfirmCall)
    (st : ServiceState) :
    (∃ error after, ServerPhase.consuming.next env call
        (st.readings st.ticks).now st = (.error error, after) ∧
      TokensLater (ServerPhase.consuming.rows env call st) st.db after.db) ∨
      ∃ userId, ∃ row ∈ call.kind.tokens st.db,
        row.isConsumable (st.readings st.ticks).now
          (env.hashOpaqueToken call.token) = true ∧
        ServerPhase.consuming.next env call (st.readings st.ticks).now st =
          (.ok (.checkingUser userId (st.readings st.ticks).now),
            (st.tick 1).withDb
              (call.kind.consumeWhere (OneTimeToken.isConsumable
                (st.readings st.ticks).now (env.hashOpaqueToken call.token))
                (st.readings st.ticks).now st.db)) := by
  by_cases hanswers : (st.readings st.ticks).fails = false
  · have hconsume := consumeValidToken_of_answers call.kind
      (env.hashOpaqueToken call.token) hanswers
    rcases hfind : (call.kind.tokens st.db).find? (OneTimeToken.isConsumable
        (st.readings st.ticks).now (env.hashOpaqueToken call.token)) with
      _ | row
    · rw [hfind] at hconsume
      exact .inl ⟨_, _, bind_ok hconsume, later_consuming env call st⟩
    · rw [hfind] at hconsume
      exact .inr ⟨row.userId, row, List.mem_of_find?_eq_some hfind,
        List.find?_some hfind, bind_ok hconsume⟩
  · rw [Bool.not_eq_false] at hanswers
    have hconsume := consumeValidToken_of_fails call.kind
      (env.hashOpaqueToken call.token) hanswers
    exact .inl ⟨_, _, bind_error hconsume, .refl _⟩

theorem isConsumable_iff {now : Instant} {tokenHash : String}
    {token : OneTimeToken} :
    token.isConsumable now tokenHash = true ↔
      token.tokenHash = tokenHash ∧ token.consumedAt = none ∧
        now < token.expiresAt := by
  simp [OneTimeToken.isConsumable, and_assoc]

/-- An unused token has confirmed nothing. -/
theorem not_spent_of_unused {kind : TokenKind} {tokenHash : String}
    {consumedAt : Instant} {row : OneTimeToken} (hok : store.Ok env)
    (hrow : row ∈ kind.tokens store.service.db)
    (hhash : row.tokenHash = tokenHash) (hnone : row.consumedAt = none) :
    ¬ Spent store.service.db kind tokenHash consumedAt := by
  rintro ⟨other, hother, hsame, hconsumed, -⟩
  cases hok.unique kind row hrow other hother (hhash.trans hsame.symm)
  rw [hnone] at hconsumed
  cases hconsumed

theorem not_claims_of_unused {kind : TokenKind} {tokenHash : String}
    {row : OneTimeToken} {other : ConfirmThread} (hok : store.Ok env)
    (hother : other.Ok env store)
    (hrow : row ∈ kind.tokens store.service.db)
    (hhash : row.tokenHash = tokenHash) (hnone : row.consumedAt = none) :
    ¬ other.Claims env kind tokenHash := by
  intro hclaims
  rcases other with ⟨call, phase⟩ | ⟨call, phase, writes⟩
  · obtain ⟨hclaimed, rfl, rfl⟩ := hclaims
    obtain ⟨consumedAt, hconsumedAt⟩ := Option.isSome_iff_exists.mp hclaimed
    exact not_spent_of_unused hok hrow hhash hnone
      (hother.server call phase rfl consumedAt hconsumedAt)
  · exact hclaims

theorem keeps_consuming (hok : store.Ok env)
    (hadvance : store.advanceServer env call .consuming =
      some (after, thread)) :
    (confirmInvariant env).Keeps store (.server call .consuming) after
      thread := by
  rw [ConfirmStore.advanceServer] at hadvance
  split at hadvance
  case isTrue => cases hadvance
  case isFalse hbusy =>
    have hrows : ∀ row ∈ ServerPhase.consuming.rows env call store.service,
        row ∈ (ConfirmThread.server call .consuming).held ∨
          row ∉ store.locks :=
      busy_eq_false (Bool.eq_false_iff.mpr hbusy)
    rcases next_consuming env call store.service with
      ⟨error, service, hrun, hlater⟩ | ⟨userId, row, hrow, hmatch, hrun⟩
    · rw [hrun] at hadvance
      cases hadvance
      exact keeps_unconfirmed hok hlater hrows (fun lock hlock => .inr hlock) rfl
    · rw [hrun] at hadvance
      cases hadvance
      have hlater := later_consuming env call store.service
      obtain ⟨hhash, hnone, htime⟩ := isConsumable_iff.mp hmatch
      have hnextOk : ConfirmStore.Ok env (store.withService
          ((store.service.tick 1).withDb
            (call.kind.consumeWhere (OneTimeToken.isConsumable
              (store.service.readings store.service.ticks).now
              (env.hashOpaqueToken call.token))
              (store.service.readings store.service.ticks).now
              store.service.db))) := hok.later hlater rfl
      refine keeps_of_later hnextOk hlater hrows (fun lock hlock => .inr hlock)
        (fun confirmation hmem => .inl hmem) ?_
      intro following hfollowing
      cases hfollowing
      refine ⟨server_ok rfl ?_ ?_, nofun, ?_⟩
      · exact ⟨_, TokenKind.mem_tokens_consumeWhere hrow hmatch, hhash, rfl,
          htime⟩
      · intro confirmation hmem hsame
        have hspent := hok.spent confirmation hmem
        rw [← hsame.1, ← hsame.2] at hspent
        exact not_spent_of_unused hok hrow hhash hnone hspent
      · rintro kind tokenHash ⟨-, rfl, rfl⟩ other hother -
        exact not_claims_of_unused hok hother hrow hhash hnone

theorem keeps_advanceServer (hok : store.Ok env)
    (hthread : (ConfirmThread.server call phase).Ok env store)
    (hadvance : store.advanceServer env call phase = some (after, thread)) :
    (confirmInvariant env).Keeps store (.server call phase) after thread := by
  rcases hclaimed : phase.claimed with _ | consumedAt
  · have hconsuming : phase = .consuming := by
      cases phase with
      | consuming => rfl
      | _ => cases hclaimed
    subst hconsuming
    exact keeps_consuming hok hadvance
  · rw [ConfirmStore.advanceServer] at hadvance
    split at hadvance
    case isTrue => cases hadvance
    case isFalse =>
      have htables := ServerPhase.keepsTokens_next env call
        (store.service.readings store.service.ticks).now hclaimed store.service
      have hyields := ServerPhase.claimed_next env call
        (store.service.readings store.service.ticks).now hclaimed store.service
      rcases hrun : phase.next env call
          (store.service.readings store.service.ticks).now store.service with
        ⟨error | next, service⟩
      · rw [hrun] at hadvance htables
        cases hadvance
        have hlater : TokensLater [] store.service.db service.db :=
          .of_tables htables
        exact keeps_unconfirmed hok hlater nofun (fun lock hlock => .inr hlock)
          rfl
      · rw [hrun] at hadvance htables hyields
        have hnext := hyields next rfl
        have hlater : TokensLater [] store.service.db service.db :=
          .of_tables htables
        cases next with
        | done doneAt =>
            cases hadvance
            cases hnext
            have hlocks : ((store.withService service).commit call consumedAt
                []).locks = store.locks :=
              List.filter_eq_self.mpr fun lock _ => rfl
            exact (keeps_claimed _ hok hthread hclaimed hclaimed hlater
              hlocks).2 rfl
        | consuming => cases hnext
        | checkingUser userId at_ =>
            cases hadvance
            exact (keeps_claimed (store.withService service) hok hthread hclaimed
              hnext hlater rfl).1 rfl
        | hashing userId passwordHash at_ =>
            cases hadvance
            exact (keeps_claimed (store.withService service) hok hthread hclaimed
              hnext hlater rfl).1 rfl
        | updatingUser userId newPasswordHash at_ =>
            cases hadvance
            exact (keeps_claimed (store.withService service) hok hthread hclaimed
              hnext hlater rfl).1 rfl

end Server

/-! ## Steps of `auth-core` -/

section Core

variable {env : GoogleEnv} {call : ConfirmCall} {phase next : CorePhase}
  {writes more : List RowWrite} {store after : ConfirmStore}
  {thread : Option ConfirmThread}

/-- What a statement comes to: it selects the token, it marks it, or it works
beside it. -/
inductive CoreStep (env : GoogleEnv) (call : ConfirmCall) (st : ServiceState)
    (phase next : CorePhase) (more : List RowWrite) : Prop where
  | selects (row : OneTimeToken) (hrow : row ∈ call.kind.tokens st.db)
      (hhash : row.tokenHash = env.hashOpaqueToken call.token)
      (htoken : next.token = some ⟨row.id, row.userId⟩)
      (hmarked : next.marked = none)
  | marks (token : SelectedToken) (hphase : phase = .consuming token)
      (hnext : next = .writingEvent token (st.readings st.ticks).now)
      (hmore : ∀ row ∈ call.kind.tokens st.db, row.id = token.id →
        .consumeToken call.kind row.id (st.readings st.ticks).now ∈ more)
  | works (htoken : ∀ token, next.token = some token →
        phase.token = some token)
      (hmarked : next.marked = phase.marked)

theorem ensures_read {Value : Type} {run : Instant → Service Value}
    {post : Except Failure Value → ServiceState → Prop} {st : ServiceState}
    (hrun : Ensures (run (st.readings st.ticks).now) post (st.tick 1))
    (hfails : post (.error .unavailable) (st.tick 1)) :
    Ensures (external run) post st :=
  ensures_external_at (fun _ => hrun) fun _ => hfails

/-- The selected row is one of the stored ones, with the hash of the call. -/
theorem CorePhase.selecting_spec (env : GoogleEnv) (call : ConfirmCall)
    (st : ServiceState) :
    Ensures (CorePhase.selecting.statement env call) (fun outcome after =>
      after.db = st.db ∧ ∀ next more, outcome = .ok (next, more) →
        CoreStep env call st .selecting next more) st := by
  have hread : Ensures (external fun now => observe fun st =>
      (call.kind.tokens st.db).find? (OneTimeToken.isConsumable now
        (env.hashOpaqueToken call.token))) (fun outcome after =>
      after.db = st.db ∧ ∀ token, outcome = .ok (some token) →
        token ∈ call.kind.tokens st.db ∧
          token.tokenHash = env.hashOpaqueToken call.token) st := by
    refine ensures_read ⟨rfl, fun token htoken => ?_⟩ ⟨rfl, nofun⟩
    have hfind := Except.ok.inj htoken
    exact ⟨List.mem_of_find?_eq_some hfind,
      (isConsumable_iff.mp (List.find?_some hfind)).1⟩
  apply hread.bind
  · rintro (_ | row) after ⟨hsame, hrow⟩
    · cases call with
      | emailVerification token => exact ⟨hsame, nofun⟩
      | passwordReset token passwordHash => exact ⟨hsame, nofun⟩
    · obtain ⟨hmem, hhash⟩ := hrow row rfl
      refine ⟨hsame, fun next more hnext => ?_⟩
      cases hnext
      cases call with
      | emailVerification token => exact .selects row hmem hhash rfl rfl
      | passwordReset token passwordHash =>
          exact .selects row hmem hhash rfl rfl
  · rintro error after ⟨hsame, -⟩
    exact ⟨hsame, nofun⟩

/-- A statement that reads, and goes on with the same token. -/
theorem ensures_works {env : GoogleEnv} {call : ConfirmCall}
    {phase next : CorePhase} {st : ServiceState}
    {run : Instant → Service (CorePhase × List RowWrite)}
    (hrun : ∀ now, ∃ more, run now (st.tick 1) =
      (.ok (next, more), st.tick 1))
    (htoken : ∀ token, next.token = some token → phase.token = some token)
    (hmarked : next.marked = phase.marked) :
    Ensures (external run) (fun outcome after =>
      after.db = st.db ∧ ∀ next more, outcome = .ok (next, more) →
        CoreStep env call st phase next more) st := by
  apply ensures_read
  · obtain ⟨more, hmore⟩ := hrun (st.readings st.ticks).now
    rw [Ensures, hmore]
    refine ⟨rfl, fun other writes hother => ?_⟩
    cases hother
    exact .works htoken hmarked
  · exact ⟨rfl, nofun⟩

theorem CorePhase.statement_spec (env : GoogleEnv) (call : ConfirmCall)
    (phase : CorePhase) (st : ServiceState) :
    Ensures (phase.statement env call) (fun outcome after =>
      after.db = st.db ∧ ∀ next more, outcome = .ok (next, more) →
        CoreStep env call st phase next more) st := by
  cases phase with
  | selecting => exact CorePhase.selecting_spec env call st
  | verifyingEmail token =>
      rw [CorePhase.statement, select]
      exact ensures_works (fun _ => ⟨_, rfl⟩) (fun _ htoken => htoken) rfl
  | hashing token passwordHash =>
      have hhash : Ensures (hashPassword passwordHash)
          (fun _ after => after.db = st.db) st := ensures_read rfl rfl
      apply hhash.bind
      · intro newHash after hsame
        refine ⟨hsame, fun next more hnext => ?_⟩
        cases hnext
        exact .works (fun _ htoken => htoken) rfl
      · exact fun error after hsame => ⟨hsame, nofun⟩
  | settingPassword token passwordHash =>
      rw [CorePhase.statement]
      exact ensures_works (fun _ => ⟨_, rfl⟩) (fun _ htoken => htoken) rfl
  | revokingSessions token =>
      rw [CorePhase.statement]
      exact ensures_works (fun _ => ⟨_, rfl⟩) (fun _ htoken => htoken) rfl
  | consuming token =>
      rw [CorePhase.statement]
      apply ensures_read
      · refine ⟨rfl, fun next more hnext => ?_⟩
        cases hnext
        refine .marks token rfl rfl fun row hrow hid => ?_
        exact List.mem_map_of_mem
          (List.mem_filter.mpr ⟨hrow, beq_iff_eq.mpr hid⟩)
      · exact ⟨rfl, nofun⟩
  | writingEvent token consumedAt =>
      rw [CorePhase.statement]
      exact ensures_works (fun _ => ⟨_, rfl⟩) nofun rfl
  | reporting token consumedAt =>
      rw [CorePhase.statement]
      exact ensures_works (fun _ => ⟨_, rfl⟩) nofun rfl
  | committing token consumedAt =>
      rw [CorePhase.statement]
      exact ensures_works (fun _ => ⟨_, rfl⟩) nofun rfl
  | done token consumedAt =>
      refine ⟨rfl, fun next more hnext => ?_⟩
      cases hnext
      exact .works nofun rfl

theorem core_ok {next : CorePhase} (hheld : heldLocks writes ⊆ store.locks)
    (hselected : ∀ token, next.token = some token →
      Selected store.service.db call.kind (env.hashOpaqueToken call.token)
        token)
    (hmarked : ∀ consumedAt, next.marked = some consumedAt →
      Marked store.service.db call.kind (env.hashOpaqueToken call.token)
        consumedAt writes) :
    (ConfirmThread.core call next writes).Ok env store := by
  constructor
  · exact hheld
  · intro other phase hthread
    cases hthread
  · exact fun confirmation hmem hclaims => hclaims
  · intro other phase more hthread
    cases hthread
    exact hselected
  · intro other phase more hthread
    cases hthread
    exact hmarked

theorem Marked.append {db : AccountDb} {kind : TokenKind} {tokenHash : String}
    {consumedAt : Instant} (hmarked : Marked db kind tokenHash consumedAt writes) :
    Marked db kind tokenHash consumedAt (writes ++ more) := by
  obtain ⟨row, hrow, hhash, hnone, htime, now, hwrite⟩ := hmarked
  exact ⟨row, hrow, hhash, hnone, htime, now, List.mem_append_left more hwrite⟩

theorem heldLocks_append (writes more : List RowWrite) :
    heldLocks (writes ++ more) = heldLocks writes ++ heldLocks more :=
  List.filterMap_append

/-- The thread after a statement, in a store with the same tokens. -/
theorem CoreStep.ok (hthread : (ConfirmThread.core call phase writes).Ok env
      store)
    (hstep : CoreStep env call store.service phase next more)
    (hmeets : MarksInTime store (.core call phase writes) ())
    (hdb : after.service.db = store.service.db)
    (hheld : heldLocks (writes ++ more) ⊆ after.locks) :
    (ConfirmThread.core call next (writes ++ more)).Ok env after := by
  have hselected := hthread.selected call phase writes rfl
  have hmarked := hthread.marked call phase writes rfl
  rw [← hdb] at hselected hmarked
  cases hstep with
  | selects row hrow hhash htoken hnone =>
      apply core_ok hheld
      · intro token hsome
        rw [htoken] at hsome
        cases hsome
        rw [← hdb] at hrow
        exact ⟨row, hrow, rfl, hhash⟩
      · intro consumedAt hsome
        rw [hnone] at hsome
        cases hsome
  | marks token hphase hnext hmore =>
      subst hphase hnext
      apply core_ok hheld
      · intro token hsome
        cases hsome
      · intro consumedAt hsome
        cases hsome
        obtain ⟨row, hrow, hid, hhash⟩ := hselected token rfl
        rw [hdb] at hrow
        obtain ⟨hunused, htime⟩ := hmeets row hrow hid
        have hwrite := List.mem_append_right writes (hmore row hrow hid)
        rw [← hdb] at hrow
        exact ⟨row, hrow, hhash, hunused, htime, _, hwrite⟩
  | works htoken hsame =>
      apply core_ok hheld
      · exact fun token hsome => hselected token (htoken token hsome)
      · intro consumedAt hsome
        rw [hsame] at hsome
        exact (hmarked consumedAt hsome).append

theorem mem_release {lock : RowLock} :
    lock ∈ (store.release writes).locks ↔
      lock ∈ store.locks ∧ lock ∉ heldLocks writes := by
  simp [ConfirmStore.release]

/-- A transaction that ends gives up its own locks only. -/
theorem kept_release {phase : CorePhase} :
    ∀ lock ∈ store.locks, lock ∈ (ConfirmThread.core call phase writes).held ∨
      lock ∈ (store.release writes).locks := by
  intro lock hlock
  by_cases hheld : lock ∈ heldLocks writes
  · exact .inl hheld
  · exact .inr (mem_release.mpr ⟨hlock, hheld⟩)

theorem keeps_commit_token {consumedAt : Instant} {service : ServiceState}
    (hok : store.Ok env)
    (hthread : (ConfirmThread.core call phase writes).Ok env store)
    (hmarked : phase.marked = some consumedAt)
    (hdb : service.db = store.service.db) :
    (confirmInvariant env).Keeps store (.core call phase writes)
      ((store.withService service).commit call consumedAt writes) none := by
  obtain ⟨row, hrow, hhash, hnone, htime, now, hwrite⟩ :=
    hthread.marked call phase writes rfl consumedAt hmarked
  have hlater := RowWrite.later_applyAll writes service
  rw [hdb] at hlater
  have hrowAfter := hrow
  rw [← hdb] at hrowAfter
  obtain ⟨later, hmem, hfollows, hconsumed⟩ :=
    RowWrite.consumed_applyAll hwrite hrowAfter
  have hspent : Spent (writes.foldl RowWrite.apply service).db call.kind
      (env.hashOpaqueToken call.token) consumedAt := by
    refine ⟨later, hmem, hfollows.tokenHash.trans hhash, hconsumed, ?_⟩
    rwa [hfollows.expiresAt]
  have hnew : ∀ confirmation ∈ store.confirmed,
      ¬ (confirmation.kind = call.kind ∧
        env.hashOpaqueToken confirmation.token =
          env.hashOpaqueToken call.token) := by
    intro confirmation hold hsame
    have hspent := hok.spent confirmation hold
    rw [hsame.1, hsame.2] at hspent
    exact not_spent_of_unused hok hrow hhash hnone hspent
  have hnext : ConfirmStore.Ok env
      ((store.withService service).commit call consumedAt writes) :=
    hok.confirm hlater rfl hspent hnew
  have hrows : ∀ row ∈ heldLocks writes,
      row ∈ (ConfirmThread.core call phase writes).held ∨ row ∉ store.locks :=
    fun row hin => .inl hin
  apply keeps_of_later hnext hlater hrows kept_release
  · intro confirmation hin
    rcases List.mem_append.mp hin with hold | hlast
    · exact .inl hold
    · rw [List.mem_singleton] at hlast
      subst hlast
      refine .inr fun other hother _ => ?_
      exact not_claims_of_unused hok hother hrow hhash hnone
  · exact nofun

theorem keeps_advanceCore (hok : store.Ok env)
    (hthread : (ConfirmThread.core call phase writes).Ok env store)
    (hmeets : MarksInTime store (.core call phase writes) ())
    (hadvance : store.advanceCore env call phase writes =
      some (after, thread)) :
    (confirmInvariant env).Keeps store (.core call phase writes) after
      thread := by
  have hspec := phase.statement_spec env call store.service
  unfold Ensures at hspec
  rw [ConfirmStore.advanceCore] at hadvance
  split at hadvance
  case h_1 error service hrun =>
    rw [hrun] at hspec
    cases hadvance
    have hlater : TokensLater [] store.service.db service.db := by
      rw [hspec.1]
      exact .refl _
    exact keeps_unconfirmed hok hlater nofun kept_release rfl
  case h_2 token consumedAt more service hrun =>
    rw [hrun] at hspec
    cases hadvance
    have hmarked : phase.marked = some consumedAt := by
      cases hspec.2 _ _ rfl with
      | selects row hrow hhash htoken hmarked => cases hmarked
      | marks token hphase hnext => cases hnext
      | works htoken hmarked => exact hmarked.symm
    exact keeps_commit_token hok hthread hmarked hspec.1
  case h_3 next more service hunfinished hrun =>
    rw [hrun] at hspec
    split at hadvance
    case isTrue => cases hadvance
    case isFalse hbusy =>
      cases hadvance
      have hfree := busy_eq_false (Bool.eq_false_iff.mpr hbusy)
      have hlater : TokensLater [] store.service.db service.db := by
        rw [hspec.1]
        exact .refl _
      have hnextOk : ConfirmStore.Ok env
          { store.withService service with
            locks := heldLocks more ++ store.locks } := hok.later hlater rfl
      refine keeps_of_later hnextOk hlater nofun
        (fun lock hlock => .inr (List.mem_append_right _ hlock))
        (fun confirmation hmem => .inl hmem) ?_
      intro following hfollowing
      cases hfollowing
      refine ⟨(hspec.2 next more rfl).ok hthread hmeets hspec.1 ?_, ?_, nofun⟩
      · intro lock hlock
        rw [heldLocks_append, List.mem_append] at hlock
        rcases hlock with hold | hnew
        · exact List.mem_append_right _ (hthread.held hold)
        · exact List.mem_append_left _ hnew
      · intro lock hlock
        change lock ∈ heldLocks (writes ++ more) at hlock
        rw [heldLocks_append, List.mem_append] at hlock
        rcases hlock with hold | hnew
        · exact .inl hold
        · exact hfree lock hnew

end Core

/-! ## Runs -/

section Runs

variable {env : GoogleEnv} {db after : AccountDb}

/-- A new token, of a hash that no token of its kind has. -/
theorem later_insert (kind : TokenKind) (new : OneTimeToken)
    (htokens : kind.tokens after = kind.tokens db ++ [new])
    (hothers : ∀ other : TokenKind, other ≠ kind →
      other.tokens after = other.tokens db)
    (hnew : ∀ token ∈ kind.tokens db, token.tokenHash ≠ new.tokenHash) :
    TokensLater [] db after := by
  constructor
  · intro other token htoken
    refine ⟨token, ?_, .refl token, fun _ => rfl⟩
    by_cases hkind : other = kind
    · subst hkind
      rw [htokens]
      exact List.mem_append_left _ htoken
    · rwa [hothers other hkind]
  · intro hunique other left hleft right hright hsame
    by_cases hkind : other = kind
    · subst hkind
      rw [htokens, List.mem_append, List.mem_singleton] at hleft hright
      rcases hleft with hleft | rfl
      · rcases hright with hright | rfl
        · exact hunique other left hleft right hright hsame
        · exact absurd hsame (hnew left hleft)
      · rcases hright with hright | rfl
        · exact absurd hsame.symm (hnew right hright)
        · rfl
    · rw [hothers other hkind] at hleft hright
      exact hunique other left hleft right hright hsame

theorem later_insertEmailToken {row : EmailVerificationToken}
    (hinsert : VerificationRepository.insertEmailToken db row = some after) :
    TokensLater [] db after := by
  obtain ⟨hfree, hinsert⟩ := Option.ite_none_left_eq_some.mp hinsert
  obtain ⟨tokens, htokens, rfl⟩ := Option.map_eq_some_iff.mp hinsert
  have hrows := (Table.insert?_eq_some htokens).2
  apply later_insert .emailVerification row.oneTime
  · rw [TokenKind.tokens, hrows, List.map_append]
    rfl
  · intro other hother
    cases other with
    | emailVerification => exact absurd rfl hother
    | passwordReset => rfl
  · intro token htoken hsame
    obtain ⟨other, hother, rfl⟩ := List.mem_map.mp htoken
    exact hfree (List.any_eq_true.mpr ⟨other, hother, beq_iff_eq.mpr hsame⟩)

theorem later_insertPasswordToken {row : PasswordResetToken}
    (hinsert : VerificationRepository.insertPasswordToken db row =
      some after) : TokensLater [] db after := by
  obtain ⟨hfree, hinsert⟩ := Option.ite_none_left_eq_some.mp hinsert
  obtain ⟨tokens, htokens, rfl⟩ := Option.map_eq_some_iff.mp hinsert
  have hrows := (Table.insert?_eq_some htokens).2
  apply later_insert .passwordReset row.oneTime
  · rw [TokenKind.tokens, hrows, List.map_append]
    rfl
  · intro other hother
    cases other with
    | emailVerification => rfl
    | passwordReset => exact absurd rfl hother
  · intro token htoken hsame
    obtain ⟨other, hother, rfl⟩ := List.mem_map.mp htoken
    exact hfree (List.any_eq_true.mpr ⟨other, hother, beq_iff_eq.mpr hsame⟩)

theorem TokenEvent.later {event : TokenEvent}
    (hevent : event.apply db = some after) : TokensLater [] db after := by
  cases event with
  | emailToken row =>
      exact later_insertEmailToken (Option.ite_none_right_eq_some.mp hevent).2
  | passwordToken row =>
      exact later_insertPasswordToken
        (Option.ite_none_right_eq_some.mp hevent).2
  | others other =>
      cases hevent
      refine .of_tokens fun kind => ?_
      cases kind with
      | emailVerification => rfl
      | passwordReset => rfl

theorem confirmInvariant_inductive (env : GoogleEnv) :
    (confirmInvariant env).Inductive (confirmProgram env) MarksInTime where
  start store call hok := by
    cases call with
    | server call =>
        have hunclaimed : ∀ kind tokenHash, ¬ (ConfirmThread.server call
            .consuming).Claims env kind tokenHash :=
          fun kind tokenHash hclaims => Bool.false_ne_true hclaims.1
        refine ⟨⟨List.nil_subset _, ?_, fun _ _ => hunclaimed _ _, ?_, ?_⟩, ?_⟩
        · intro other phase hthread consumedAt hclaimed
          cases hthread
          cases hclaimed
        · intro other phase writes hthread
          cases hthread
        · intro other phase writes hthread
          cases hthread
        · intro other
          exact ⟨⟨List.disjoint_nil_left _, fun kind tokenHash hclaims =>
              absurd hclaims (hunclaimed kind tokenHash)⟩,
            ⟨List.disjoint_nil_right _, fun kind tokenHash _ =>
              hunclaimed kind tokenHash⟩⟩
    | core call =>
        refine ⟨core_ok (List.nil_subset _) nofun nofun, fun other => ?_⟩
        exact ⟨⟨List.disjoint_nil_left _, fun _ _ => nofun⟩,
          ⟨List.disjoint_nil_right _, fun _ _ _ => nofun⟩⟩
  advance store thread input next following hok hthread hmeets hadvance := by
    cases thread with
    | server call phase => exact keeps_advanceServer hok hthread hadvance
    | core call phase writes =>
        exact keeps_advanceCore hok hthread hmeets hadvance
  abort store thread hok hthread := by
    have hlater : TokensLater [] store.service.db store.service.db := .refl _
    cases thread with
    | server call phase =>
        exact keeps_unconfirmed hok hlater nofun
          (fun lock hlock => .inr hlock) rfl
    | core call phase writes =>
        exact keeps_unconfirmed hok hlater nofun kept_release rfl
  environment store event next hok hevent := by
    obtain ⟨db, hdb, rfl⟩ := Option.map_eq_some_iff.mp hevent
    have hlater := event.later hdb
    refine ⟨hok.later hlater rfl, fun thread hthread => ?_⟩
    exact hthread.later hlater hthread.held (fun lock _ => List.not_mem_nil)
      fun confirmation hmem => .inl hmem

/-- No call is running, and none has succeeded. -/
def ConfirmStore.initial (service : ServiceState) : ConfirmStore :=
  ⟨service, [], []⟩

theorem ConfirmStore.Ok.oneTime {store : ConfirmStore} (hok : store.Ok env) :
    store.OneTime env := by
  constructor
  · have hmap : (store.confirmed.map fun confirmation => (confirmation.kind,
        env.hashOpaqueToken confirmation.token)) =
        (store.confirmed.map fun confirmation =>
          (confirmation.kind, confirmation.token)).map
            fun token => (token.1, env.hashOpaqueToken token.2) := by
      rw [List.map_map]
      rfl
    have honce := hok.once
    rw [hmap] at honce
    exact honce.of_map _
  · intro confirmation hmem
    obtain ⟨row, hrow, hhash, -, htime⟩ := hok.spent confirmation hmem
    exact ⟨row, hrow, hhash, htime⟩

/-- However the statements of confirmations interleave, every token confirms
at most once and in time, as long as each transaction of `auth-core` marks a
token that is unused and not expired at that moment. -/
theorem confirmations_oneTime {Id : Type} [DecidableEq Id] (env : GoogleEnv)
    (service : ServiceState) (hunique : UniqueHashes service.db)
    (actions : List (Interleaving.Action ConfirmStart Unit TokenEvent Id))
    (last : Pool ConfirmStore ConfirmThread Id)
    (hmeets : StepSystem.Along (Interleaving.step (confirmProgram env))
      (Meets MarksInTime) (Pool.start (.initial service)) actions)
    (hrun : StepSystem.run (Interleaving.step (confirmProgram env))
      (Pool.start (.initial service)) actions = some last) :
    last.shared.OneTime env := by
  have hinitial : ConfirmStore.Ok env (.initial service) :=
    ⟨hunique, List.nodup_nil, nofun⟩
  have hholds := (confirmInvariant_inductive env).run
    (Invariant.holds_start hinitial) hmeets hrun
  exact hholds.shared.oneTime

/-- Calls of the server alone need no condition. -/
theorem server_confirmations_oneTime {Id : Type} [DecidableEq Id]
    (env : GoogleEnv) (service : ServiceState)
    (hunique : UniqueHashes service.db)
    (actions : List (Interleaving.Action ConfirmStart Unit TokenEvent Id))
    (hserver : ∀ id call, .spawn id call ∈ actions → ∃ confirm,
      call = ConfirmStart.server confirm)
    (last : Pool ConfirmStore ConfirmThread Id)
    (hrun : StepSystem.run (Interleaving.step (confirmProgram env))
      (Pool.start (.initial service)) actions = some last) :
    last.shared.OneTime env := by
  let IsServer : ConfirmThread → Prop := fun thread =>
    ∃ call phase, thread = .server call phase
  have hmeets : StepSystem.Along (Interleaving.step (confirmProgram env))
      (Meets MarksInTime)
      (Pool.start (.initial service) : Pool ConfirmStore ConfirmThread Id)
      actions := by
    apply along_of_calls (confirmProgram env) IsServer _ _ _ hserver
      (fun id thread hthread => by cases hthread)
    · rintro call ⟨confirm, rfl⟩
      exact ⟨confirm, .consuming, rfl⟩
    · rintro store thread input after next ⟨call, phase, rfl⟩ hadvance
      change store.advanceServer env call phase = some (after, some next)
        at hadvance
      rw [ConfirmStore.advanceServer] at hadvance
      split at hadvance
      case isTrue => cases hadvance
      case isFalse =>
        split at hadvance
        case h_1 => cases hadvance
        case h_2 => cases hadvance
        case h_3 next service _ _ =>
          cases hadvance
          exact ⟨call, next, rfl⟩
    · rintro store thread input ⟨call, phase, rfl⟩
      trivial
  have hinitial : ConfirmStore.Ok env (.initial service) :=
    ⟨hunique, List.nodup_nil, nofun⟩
  exact ((confirmInvariant_inductive env).run
    (Invariant.holds_start hinitial) hmeets hrun).shared.oneTime

end Runs

instance (store : ConfirmStore) (thread : ConfirmThread) (input : Unit) :
    Decidable (MarksInTime store thread input) := by
  unfold MarksInTime
  split <;> infer_instance

namespace TokenRaceWitness

open ConfirmationWitness

/-- An active user has asked for a reset. -/
def service : ServiceState :=
  GoogleWitness.init.service.withDb
    { GoogleWitness.init.service.db with
      users := ⟨[⟨"user-1", .active, none, none, none, 0⟩], by simp⟩
      userPasswords := ⟨[⟨"user-1", "$argon2id$old", 0⟩], by simp⟩
      passwordResetTokens := suspended.db.passwordResetTokens }

theorem uniqueHashes_service : UniqueHashes service.db := by
  intro kind
  cases kind with
  | emailVerification => decide
  | passwordReset => decide

def firstHash : String := "$argon2id$v=19$m=65536,t=3,p=4$c2FsdDI$bmV3aA"

def secondHash : String := "$argon2id$v=19$m=65536,t=3,p=4$c2FsdDM$b3RoZXI"

abbrev Actions : Type :=
  List (Interleaving.Action ConfirmStart Unit TokenEvent Nat)

/-- All statements of one call. -/
def through (id : Nat) (statements : Nat) : Actions :=
  List.replicate statements (.advance id ())

/-- A call of the server comes after one of `auth-core`. -/
def inTurn : Actions :=
  [.spawn 0 (.core (.passwordReset resetToken firstHash))] ++ through 0 8 ++
    [.spawn 1 (.server (.passwordReset resetToken secondHash)), .advance 1 ()]

theorem oneTime_inTurn :
    (StepSystem.after (Interleaving.step (confirmProgram env))
      (Pool.start (.initial service)) inTurn).shared.OneTime env :=
  confirmations_oneTime env service uniqueHashes_service inTurn _
    (along_of_decide _ (by decide +kernel))
    (StepSystem.run_after _ (by decide +kernel))

/-- Two calls of `auth-core` select the token before either has marked it. -/
def together : Actions :=
  [.spawn 0 (.core (.passwordReset resetToken firstHash)),
    .spawn 1 (.core (.passwordReset resetToken secondHash)), .advance 0 (),
    .advance 1 ()] ++ through 0 7 ++ through 1 7

def afterBoth : Pool ConfirmStore ConfirmThread Nat :=
  StepSystem.after (Interleaving.step (confirmProgram env))
    (Pool.start (.initial service)) together

theorem not_oneTime :
    ¬ ∀ (env : GoogleEnv) (service : ServiceState),
      UniqueHashes service.db → ∀ (actions : Actions)
      (last : Pool ConfirmStore ConfirmThread Nat),
      StepSystem.run (Interleaving.step (confirmProgram env))
        (Pool.start (.initial service)) actions = some last →
      last.shared.OneTime env := by
  intro hclaim
  have honce := (hclaim env service uniqueHashes_service together afterBoth
    (StepSystem.run_after _ (by decide +kernel))).once
  have hboth : afterBoth.shared.confirmed =
      [⟨.passwordReset, resetToken, some firstHash, 5000⟩,
        ⟨.passwordReset, resetToken, some secondHash, 12000⟩] := by
    decide +kernel
  rw [hboth] at honce
  exact absurd honce (by decide +kernel)

end TokenRaceWitness

end IdProvider
