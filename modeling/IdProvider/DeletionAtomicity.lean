/-
At any time one deletion request at most has deleted the user and not answered
yet; so what the requests of a run come to does not depend on the order of
their steps.
-/
import IdProvider.DeletionRequests

namespace IdProvider

open Interleaving JsonText KeyedTable

/-! ## The invariant -/

section Invariant

variable (userId : String) (start : RequestStore)

/-- The audit entry of the request that has set the date. -/
def Logged (deletionDueAt : Instant) (store : RequestStore) : Prop :=
  ∃ reauth hasLegalHold, store.auditLogs = start.auditLogs ++
    [deletionEntry userId reauth deletionDueAt hasLegalHold]

/-- No request has deleted the user yet. -/
structure Unmarked (store : RequestStore) : Prop where
  active : IsActive userId store.db
  row : ∀ user ∈ store.db.users, user.id = userId → user ∈ start.db.users
  auditLogs : store.auditLogs = start.auditLogs
  answers : ∀ answer, .ok answer ∉ store.ended

/-- A request has deleted the user, and may still have to log or answer it. -/
structure MarkedOnce (deletionDueAt : Instant) (store : RequestStore) :
    Prop where
  scheduled : IsScheduled userId deletionDueAt store.db
  answers : ∀ answer, .ok answer ∈ store.ended →
    answer = scheduledAnswer deletionDueAt answer.alreadyDeleted
  first : store.auditLogs = start.auditLogs ∧ store.firsts = 0 ∨
    Logged userId start deletionDueAt store ∧ store.firsts ≤ 1

/-- The request that has written the user's row, until it has answered. -/
def RequestThread.deletes (thread : RequestThread) : Bool :=
  thread.holdsRow || thread.hasMarked

def requestInvariant : Invariant RequestStore RequestThread where
  SharedOk store := Unmarked userId start store ∨
    ∃ deletionDueAt, MarkedOnce userId start deletionDueAt store
  ThreadOk store thread :=
    match thread with
    | .revokingSessions _ _ _ _ =>
        IsActive userId store.db ∧ store.locked.isSome = true
    | .committing _ _ _ _ _ =>
        IsActive userId store.db ∧ store.locked.isSome = true
    | .logging _ deletionDueAt _ =>
        IsScheduled userId deletionDueAt store.db ∧
          store.auditLogs = start.auditLogs ∧ store.firsts = 0
    | .reporting deletionDueAt =>
        IsScheduled userId deletionDueAt store.db ∧
          Logged userId start deletionDueAt store ∧ store.firsts = 0
    | .findingSchedule => IsDeleted userId store.db
    | _ => True
  Apart left right := left.deletes = true → right.deletes = false

/-- All that the invariant says about the tables. -/
structure SameProgress (before after : RequestStore) : Prop where
  users : after.db.users = before.db.users
  auditLogs : after.auditLogs = before.auditLogs
  firsts : after.firsts = before.firsts

end Invariant

section Progress

variable {userId : String} {start store after : RequestStore}
  {thread : RequestThread} {next : Option RequestThread}
  {deletionDueAt : Instant}

theorem IsScheduled.unique {other : Instant} {db : SessionDb}
    (hscheduled : IsScheduled userId deletionDueAt db)
    (hother : IsScheduled userId other db) : deletionDueAt = other := by
  have hfound := findDeletionSchedule_of_isScheduled hscheduled
  rw [findDeletionSchedule_of_isScheduled hother] at hfound
  exact (Option.some.inj (Option.some.inj hfound)).symm

@[simp]
theorem firsts_finish (store : RequestStore)
    (result : Except DeletionFailure DeletionAnswer) :
    (store.finish result).firsts =
      store.firsts + if isFirst result then 1 else 0 := by
  rw [RequestStore.firsts, RequestStore.finish, List.countP_append,
    List.countP_singleton, RequestStore.firsts]

theorem mem_ended_finish {result : Except DeletionFailure DeletionAnswer}
    {answer : DeletionAnswer}
    (hanswer : .ok answer ∈ (store.finish result).ended) :
    .ok answer ∈ store.ended ∨ .ok answer = result := by
  rcases List.mem_append.mp hanswer with hbefore | hlast
  · exact .inl hbefore
  · exact .inr (List.mem_singleton.mp hlast)

theorem Unmarked.same (hunmarked : Unmarked userId start store)
    (hsame : SameProgress store after)
    (hended : ∀ answer, .ok answer ∈ after.ended → .ok answer ∈ store.ended) :
    Unmarked userId start after where
  active := by
    rw [IsActive, hsame.users]
    exact hunmarked.active
  row user huser := by
    rw [hsame.users] at huser
    exact hunmarked.row user huser
  auditLogs := hsame.auditLogs.trans hunmarked.auditLogs
  answers answer hanswer := hunmarked.answers answer (hended answer hanswer)

theorem MarkedOnce.same (hmarked : MarkedOnce userId start deletionDueAt store)
    (hsame : SameProgress store after)
    (hanswers : ∀ answer, .ok answer ∈ after.ended →
      .ok answer ∈ store.ended ∨
        answer = scheduledAnswer deletionDueAt answer.alreadyDeleted) :
    MarkedOnce userId start deletionDueAt after where
  scheduled := by
    rw [IsScheduled, hsame.users]
    exact hmarked.scheduled
  answers answer hanswer := by
    rcases hanswers answer hanswer with hbefore | hnew
    · exact hmarked.answers answer hbefore
    · exact hnew
  first := by
    rw [Logged, hsame.auditLogs, hsame.firsts]
    exact hmarked.first

/-- Nothing is answered that was not before. -/
theorem sharedOk_same
    (hshared : (requestInvariant userId start).SharedOk store)
    (hsame : SameProgress store after)
    (hended : ∀ answer, .ok answer ∈ after.ended → .ok answer ∈ store.ended) :
    (requestInvariant userId start).SharedOk after := by
  rcases hshared with hunmarked | ⟨deletionDueAt, hmarked⟩
  · exact .inl (hunmarked.same hsame hended)
  · exact .inr ⟨deletionDueAt, hmarked.same hsame fun answer hanswer =>
      .inl (hended answer hanswer)⟩

theorem sharedOk_withLocked
    (hshared : (requestInvariant userId start).SharedOk store)
    (locked : Option (List String)) :
    (requestInvariant userId start).SharedOk (store.withLocked locked) :=
  sharedOk_same hshared ⟨rfl, rfl, rfl⟩ fun _ hanswer => hanswer

theorem unmarked_of_isActive
    (hshared : (requestInvariant userId start).SharedOk store)
    (hactive : IsActive userId store.db) : Unmarked userId start store := by
  rcases hshared with hunmarked | ⟨deletionDueAt, hmarked⟩
  · exact hunmarked
  · exact absurd hactive (not_isActive hmarked.scheduled.isDeleted)

theorem marked_of_isDeleted
    (hshared : (requestInvariant userId start).SharedOk store)
    (hdeleted : IsDeleted userId store.db) :
    ∃ deletionDueAt, MarkedOnce userId start deletionDueAt store := by
  rcases hshared with hunmarked | hmarked
  · exact absurd hunmarked.active (not_isActive hdeleted)
  · exact hmarked

theorem isDeleted_of_not_isActive
    (hshared : (requestInvariant userId start).SharedOk store)
    (hactive : ¬ IsActive userId store.db) : IsDeleted userId store.db := by
  rcases hshared with hunmarked | ⟨deletionDueAt, hmarked⟩
  · exact absurd hunmarked.active hactive
  · exact hmarked.scheduled.isDeleted

theorem marked_of_isScheduled
    (hshared : (requestInvariant userId start).SharedOk store)
    (hscheduled : IsScheduled userId deletionDueAt store.db) :
    MarkedOnce userId start deletionDueAt store := by
  obtain ⟨other, hmarked⟩ := marked_of_isDeleted hshared hscheduled.isDeleted
  rwa [hscheduled.unique hmarked.scheduled]

theorem threadOk_same
    (hthread : (requestInvariant userId start).ThreadOk store thread)
    (hsame : SameProgress store after) (hlocked : after.locked = store.locked) :
    (requestInvariant userId start).ThreadOk after thread := by
  cases thread with
  | revokingSessions | committing =>
      dsimp only [requestInvariant] at hthread ⊢
      rw [IsActive, hsame.users, hlocked]
      exact hthread
  | logging reauth deletionDueAt hasLegalHold =>
      dsimp only [requestInvariant] at hthread ⊢
      rw [IsScheduled, hsame.users, hsame.auditLogs, hsame.firsts]
      exact hthread
  | reporting deletionDueAt =>
      dsimp only [requestInvariant] at hthread ⊢
      rw [IsScheduled, Logged, hsame.users, hsame.auditLogs, hsame.firsts]
      exact hthread
  | findingSchedule =>
      dsimp only [requestInvariant] at hthread ⊢
      rw [IsDeleted, hsame.users]
      exact hthread
  | findingUser | checkingPassword | checkingMfa | findingHold | marking
    | checkingLogin | creatingSession | findingSession | rotating | revoking
    | reportingReuse => trivial

/-- A call that does not delete the user looks at the users only. -/
theorem threadOk_of_users
    (hthread : (requestInvariant userId start).ThreadOk store thread)
    (hdeletes : thread.deletes = false)
    (husers : after.db.users = store.db.users) :
    (requestInvariant userId start).ThreadOk after thread := by
  cases thread with
  | revokingSessions | committing | logging | reporting => cases hdeletes
  | findingSchedule =>
      dsimp only [requestInvariant] at hthread ⊢
      rw [IsDeleted, husers]
      exact hthread
  | findingUser | checkingPassword | checkingMfa | findingHold | marking
    | checkingLogin | creatingSession | findingSession | rotating | revoking
    | reportingReuse => trivial

/-- While the user is active no call knows of a deletion. -/
theorem threadOk_of_isActive
    (hthread : (requestInvariant userId start).ThreadOk store thread)
    (hactive : IsActive userId store.db) (hdeletes : thread.deletes = false)
    (after : RequestStore) :
    (requestInvariant userId start).ThreadOk after thread := by
  cases thread with
  | revokingSessions | committing | logging | reporting => cases hdeletes
  | findingSchedule => exact absurd hactive (not_isActive hthread)
  | findingUser | checkingPassword | checkingMfa | findingHold | marking
    | checkingLogin | creatingSession | findingSession | rotating | revoking
    | reportingReuse => trivial

/-- While the row of an active user is free, nobody deletes the user. -/
theorem not_deletes_of_free
    (hthread : (requestInvariant userId start).ThreadOk store thread)
    (hfree : store.locked = none) (hactive : IsActive userId store.db) :
    thread.deletes = false := by
  cases thread with
  | revokingSessions | committing =>
      have hlocked := hthread.2
      rw [hfree] at hlocked
      cases hlocked
  | logging | reporting =>
      exact absurd hactive (not_isActive hthread.1.isDeleted)
  | findingUser | checkingPassword | checkingMfa | findingHold | marking
    | findingSchedule | checkingLogin | creatingSession | findingSession
    | rotating | revoking | reportingReuse => rfl

theorem apart_symm {left right : RequestThread}
    (happart : (requestInvariant userId start).Apart left right) :
    (requestInvariant userId start).Apart right left := by
  intro hright
  rw [Bool.eq_false_iff]
  intro hleft
  rw [happart hleft] at hright
  cases hright

/-! ### The steps -/

/-- A step that changes nothing that the calls in flight rely on. -/
theorem keeps_same (hsame : SameProgress store after)
    (hlocked : after.locked = store.locked)
    (hshared : (requestInvariant userId start).SharedOk after)
    (hnext : ∀ following, next = some following →
      following.deletes = false ∧
        (requestInvariant userId start).ThreadOk after following) :
    (requestInvariant userId start).Keeps store thread after next where
  shared := hshared
  thread following hfollowing := (hnext following hfollowing).2
  others other hother _ := threadOk_same hother hsame hlocked
  apart following hfollowing other _ _ := by
    have happart : (requestInvariant userId start).Apart following other := by
      intro hdeletes
      rw [(hnext following hfollowing).1] at hdeletes
      cases hdeletes
    exact ⟨happart, apart_symm happart⟩

/-- A step after which nobody else deletes the user. -/
theorem keeps_alone
    (hshared : (requestInvariant userId start).SharedOk after)
    (hnext : ∀ following, next = some following →
      (requestInvariant userId start).ThreadOk after following)
    (hothers : ∀ other, (requestInvariant userId start).ThreadOk store other →
      (requestInvariant userId start).Apart thread other →
      other.deletes = false ∧
        (requestInvariant userId start).ThreadOk after other) :
    (requestInvariant userId start).Keeps store thread after next where
  shared := hshared
  thread := hnext
  others other hother happart := (hothers other hother happart).2
  apart following _ other hother happart := by
    have halone : (requestInvariant userId start).Apart following other :=
      fun _ => (hothers other hother happart).1
    exact ⟨halone, apart_symm halone⟩

/-- A step of the request that deletes the user. -/
theorem keeps_deleting (hdeletes : thread.deletes = true)
    (husers : after.db.users = store.db.users)
    (hshared : (requestInvariant userId start).SharedOk after)
    (hnext : ∀ following, next = some following →
      (requestInvariant userId start).ThreadOk after following) :
    (requestInvariant userId start).Keeps store thread after next :=
  keeps_alone hshared hnext fun _ hother happart =>
    ⟨happart hdeletes, threadOk_of_users hother (happart hdeletes) husers⟩

theorem Beside.sameProgress (hbeside : Beside store after) :
    SameProgress store after where
  users := hbeside.users
  auditLogs := hbeside.auditLogs
  firsts := by rw [RequestStore.firsts, hbeside.ended, RequestStore.firsts]

theorem threadOk_of_isBeside (hbeside : thread.isBeside = true)
    (hdeleted : thread = .findingSchedule → IsDeleted userId store.db) :
    thread.deletes = false ∧
      (requestInvariant userId start).ThreadOk store thread := by
  cases thread with
  | marking | revokingSessions | committing | logging | reporting =>
      cases hbeside
  | findingSchedule => exact ⟨rfl, hdeleted rfl⟩
  | findingUser | checkingPassword | checkingMfa | findingHold
    | checkingLogin | creatingSession | findingSession | rotating | revoking
    | reportingReuse => exact ⟨rfl, trivial⟩

theorem keeps_beside (hafter : Beside store after)
    (hnext : ∀ following, next = some following → following.isBeside = true)
    (hdeleted : next = some .findingSchedule → IsDeleted userId store.db)
    (hshared : (requestInvariant userId start).SharedOk store) :
    (requestInvariant userId start).Keeps store thread after next := by
  have hsame := hafter.sameProgress
  apply keeps_same hsame hafter.locked
  · apply sharedOk_same hshared hsame
    intro answer hanswer
    rwa [hafter.ended] at hanswer
  · rintro following rfl
    refine threadOk_of_isBeside (hnext following rfl) ?_
    rintro rfl
    rw [IsDeleted, hafter.users]
    exact hdeleted rfl

theorem keeps_throws (failure : DeletionFailure)
    (hshared : (requestInvariant userId start).SharedOk store) :
    (requestInvariant userId start).Keeps store thread
      (store.finish (.error failure)) none := by
  have hsame : SameProgress store (store.finish (.error failure)) :=
    ⟨rfl, rfl, firsts_finish store _⟩
  apply keeps_same hsame rfl
  · apply sharedOk_same hshared hsame
    intro answer hanswer
    rcases mem_ended_finish hanswer with hbefore | hlast
    · exact hbefore
    · cases hlast
  · exact fun following hnext => by cases hnext

/-- The commit finds the row of the user as it was at the start. -/
theorem Unmarked.commit (hunmarked : Unmarked userId start store)
    (now deletionDueAt : Instant) (sessionIds : List String) :
    MarkedOnce userId start deletionDueAt
        (store.commit now userId deletionDueAt sessionIds) ∧
      store.firsts = 0 := by
  have hfirsts : store.firsts = 0 := by
    apply List.countP_eq_zero.mpr
    rintro (failure | answer) hresult
    · exact Bool.false_ne_true
    · exact absurd hresult (hunmarked.answers answer)
  refine ⟨⟨?_, ?_, ?_⟩, hfirsts⟩
  · exact isScheduled_of_commit hunmarked.active now deletionDueAt sessionIds
  · exact fun answer hanswer => absurd hanswer (hunmarked.answers answer)
  · exact .inl ⟨hunmarked.auditLogs, hfirsts⟩

theorem keeps_commitDeletion {reauth : DeletionReauth} {now : Instant}
    {hasLegalHold : Bool} {sessionIds : List String}
    (hdeletes : thread.deletes = true) (hactive : IsActive userId store.db)
    (hshared : (requestInvariant userId start).SharedOk store) :
    (requestInvariant userId start).Keeps store thread
      (store.commit now userId deletionDueAt sessionIds)
      (some (.logging reauth deletionDueAt hasLegalHold)) := by
  have hunmarked := unmarked_of_isActive hshared hactive
  obtain ⟨hmarked, hfirsts⟩ := hunmarked.commit now deletionDueAt sessionIds
  refine keeps_alone (.inr ⟨deletionDueAt, hmarked⟩) ?_ ?_
  · intro following hnext
    cases hnext
    exact ⟨hmarked.scheduled, hunmarked.auditLogs, hfirsts⟩
  · intro other hother happart
    exact ⟨happart hdeletes,
      threadOk_of_isActive hother hactive (happart hdeletes) _⟩

theorem keeps_logs {reauth : DeletionReauth} {hasLegalHold : Bool}
    (hshared : (requestInvariant userId start).SharedOk store)
    (hthread : (requestInvariant userId start).ThreadOk store
      (.logging reauth deletionDueAt hasLegalHold)) :
    (requestInvariant userId start).Keeps store
      (.logging reauth deletionDueAt hasLegalHold)
      (store.createAuditLog
        (deletionEntry userId reauth deletionDueAt hasLegalHold))
      (some (.reporting deletionDueAt)) := by
  obtain ⟨hscheduled, hlogs, hfirsts⟩ := hthread
  have hmarked := marked_of_isScheduled hshared hscheduled
  have hlogged : Logged userId start deletionDueAt
      (store.createAuditLog
        (deletionEntry userId reauth deletionDueAt hasLegalHold)) :=
    ⟨reauth, hasLegalHold, by rw [RequestStore.createAuditLog, hlogs]⟩
  refine keeps_deleting rfl rfl ?_ ?_
  · exact .inr ⟨deletionDueAt, hscheduled, hmarked.answers,
      .inr ⟨hlogged, hfirsts.trans_le (Nat.zero_le 1)⟩⟩
  · intro following hnext
    cases hnext
    exact ⟨hscheduled, hlogged, hfirsts⟩

theorem keeps_answersFirst
    (hshared : (requestInvariant userId start).SharedOk store)
    (hthread : (requestInvariant userId start).ThreadOk store
      (.reporting deletionDueAt)) :
    (requestInvariant userId start).Keeps store (.reporting deletionDueAt)
      ((store.createSecurityEvent (deletionEvent userId)).finish
        (.ok (scheduledAnswer deletionDueAt false))) none := by
  obtain ⟨hscheduled, hlogged, hfirsts⟩ := hthread
  have hmarked := marked_of_isScheduled hshared hscheduled
  refine keeps_deleting rfl rfl ?_ ?_
  · refine .inr ⟨deletionDueAt, hscheduled, fun answer hanswer => ?_,
      .inr ⟨hlogged, ?_⟩⟩
    · rcases mem_ended_finish hanswer with hbefore | hlast
      · exact hmarked.answers answer hbefore
      · cases hlast
        rfl
    · rw [firsts_finish]
      change store.firsts + 1 ≤ 1
      rw [hfirsts]
  · exact fun following hnext => by cases hnext

theorem keeps_answersAgain
    (hfind : findDeletionSchedule store.db userId = some (some deletionDueAt))
    (hshared : (requestInvariant userId start).SharedOk store)
    (hdeleted : IsDeleted userId store.db) :
    (requestInvariant userId start).Keeps store thread
      (store.finish (.ok (scheduledAnswer deletionDueAt true))) none := by
  obtain ⟨other, hmarked⟩ := marked_of_isDeleted hshared hdeleted
  have hsame : SameProgress store
      (store.finish (.ok (scheduledAnswer deletionDueAt true))) :=
    ⟨rfl, rfl, firsts_finish store _⟩
  apply keeps_same hsame rfl
  · refine .inr ⟨other, hmarked.same hsame fun answer hanswer => ?_⟩
    rcases mem_ended_finish hanswer with hbefore | hlast
    · exact .inl hbefore
    · rw [findDeletionSchedule_of_isScheduled hmarked.scheduled] at hfind
      cases hfind
      cases hlast
      exact .inr rfl
  · exact fun following hnext => by cases hnext

/-- Every step of a call keeps the invariant. -/
theorem RequestStep.keeps (hstep : RequestStep userId store thread after next)
    (hshared : (requestInvariant userId start).SharedOk store)
    (hthread : (requestInvariant userId start).ThreadOk store thread) :
    (requestInvariant userId start).Keeps store thread after next := by
  cases hstep with
  | beside _ _ _ _ hafter hnext hdeleted =>
      exact keeps_beside hafter (fun following hfollowing =>
        (hnext following hfollowing).1) hdeleted hshared
  | passes reauth now deletionDueAt hasLegalHold =>
      have hsame : SameProgress store store.pass := ⟨rfl, rfl, rfl⟩
      apply keeps_same hsame rfl
      · exact sharedOk_same hshared hsame fun _ hanswer => hanswer
      · rintro following hnext
        cases hnext
        exact ⟨rfl, trivial⟩
  | throws _ failure => exact keeps_throws failure hshared
  | locks reauth now deletionDueAt hasLegalHold hfree hactive =>
      refine keeps_alone (sharedOk_withLocked hshared _) ?_
        fun other hother _ => ?_
      · intro following hnext
        cases hnext
        exact ⟨hactive, rfl⟩
      · have hdeletes := not_deletes_of_free hother hfree hactive
        exact ⟨hdeletes, threadOk_of_users hother hdeletes rfl⟩
  | misses reauth now deletionDueAt hasLegalHold hactive =>
      refine keeps_same ⟨rfl, rfl, rfl⟩ rfl hshared fun following hnext => ?_
      cases hnext
      exact ⟨rfl, isDeleted_of_not_isActive hshared hactive⟩
  | updates reauth now deletionDueAt hasLegalHold =>
      refine keeps_deleting rfl rfl (sharedOk_withLocked hshared _)
        fun following hnext => ?_
      cases hnext
      exact ⟨hthread.1, rfl⟩
  | commits reauth now deletionDueAt hasLegalHold sessionIds =>
      exact keeps_commitDeletion rfl hthread.1 hshared
  | logs reauth deletionDueAt hasLegalHold => exact keeps_logs hshared hthread
  | answersFirst deletionDueAt => exact keeps_answersFirst hshared hthread
  | answersAgain deletionDueAt hfind =>
      exact keeps_answersAgain hfind hshared hthread

/-- A request that dies in its transaction leaves the row as it was. -/
theorem keeps_abort (env : AuthEnv)
    (hshared : (requestInvariant userId start).SharedOk store) :
    (requestInvariant userId start).Keeps store thread
      ((requestProgram env userId).abort store thread) none := by
  dsimp only [requestProgram]
  split
  case isTrue hholds =>
    have hdeletes : thread.deletes = true := by
      rw [RequestThread.deletes, hholds, Bool.true_or]
    exact keeps_deleting hdeletes rfl (sharedOk_withLocked hshared _)
      fun _ hnext => by cases hnext
  case isFalse =>
    exact keeps_same ⟨rfl, rfl, rfl⟩ rfl hshared fun _ hnext => by cases hnext

end Progress

theorem requestInvariant_inductive (env : AuthEnv) (userId : String)
    (start : RequestStore) :
    (requestInvariant userId start).Inductive (requestProgram env userId)
      fun _ _ _ => True where
  start store call hstore := by
    have hfree : call.start.deletes = false := by
      cases call <;> rfl
    refine ⟨by cases call <;> trivial, fun other => ?_⟩
    have happart :
        (requestInvariant userId start).Apart call.start other := by
      intro hdeletes
      rw [hfree] at hdeletes
      cases hdeletes
    exact ⟨happart, apart_symm happart⟩
  advance store thread input after next hstore hthread _ hadvance :=
    (requestStep_of_advance hadvance).keeps hstore hthread
  abort store thread hstore _ := keeps_abort env hstore
  environment store event := event.elim

theorem requestMeets (pool : RequestPool) (action : RequestAction) :
    Meets (fun _ _ _ => True) pool action := by
  cases action with
  | advance id input => exact fun _ _ => trivial
  | spawn | abort | environment => trivial

/-! ## What the calls in flight still have to do -/

section Debts

variable (env : AuthEnv) (userId : String)

/-- While the user is active, a request that has passed may yet delete it. -/
def MarkOwed (store : RequestStore) : Prop :=
  0 < store.passed ∧ IsActive userId store.db

/-- The request that has deleted the user may yet answer it. -/
def AnswerOwed (store : RequestStore) : Prop :=
  IsDeleted userId store.db ∧ store.firsts = 0

theorem mark_debt :
    Debt (requestProgram env userId) (MarkOwed userId)
      fun thread => thread.mayMark = true where
  advance store thread input after next hadvance howed := by
    obtain ⟨hpassed, hactive⟩ := howed
    cases requestStep_of_advance hadvance with
    | beside _ _ _ hbeside hafter =>
        rw [hafter.passed] at hpassed
        rw [IsActive, hafter.users] at hactive
        exact .inr ⟨⟨hpassed, hactive⟩, RequestThread.not_mayMark hbeside⟩
    | throws _ failure hbeside =>
        exact .inr ⟨⟨hpassed, hactive⟩, RequestThread.not_mayMark hbeside⟩
    | passes | locks | updates => exact .inl ⟨_, rfl, rfl⟩
    | misses reauth now deletionDueAt hasLegalHold hinactive =>
        exact absurd hactive hinactive
    | commits => exact absurd hactive (not_isActive_commit _ _ _)
    | logs => exact .inr ⟨⟨hpassed, hactive⟩, Bool.false_ne_true⟩
    | answersFirst => exact .inr ⟨⟨hpassed, hactive⟩, Bool.false_ne_true⟩
    | answersAgain => exact .inr ⟨⟨hpassed, hactive⟩, Bool.false_ne_true⟩
  environment store event := event.elim

theorem answer_debt :
    Debt (requestProgram env userId) (AnswerOwed userId)
      fun thread => thread.hasMarked = true where
  advance store thread input after next hadvance howed := by
    obtain ⟨hdeleted, hfirsts⟩ := howed
    cases requestStep_of_advance hadvance with
    | beside _ _ _ hbeside hafter =>
        rw [hafter.sameProgress.firsts] at hfirsts
        rw [IsDeleted, hafter.users] at hdeleted
        exact .inr ⟨⟨hdeleted, hfirsts⟩, RequestThread.not_hasMarked hbeside⟩
    | throws _ failure hbeside =>
        rw [firsts_finish] at hfirsts
        exact .inr ⟨⟨hdeleted, hfirsts⟩, RequestThread.not_hasMarked hbeside⟩
    | passes | locks | misses | updates =>
        exact .inr ⟨⟨hdeleted, hfirsts⟩, Bool.false_ne_true⟩
    | commits | logs => exact .inl ⟨_, rfl, rfl⟩
    | answersFirst =>
        rw [firsts_finish] at hfirsts
        cases hfirsts
    | answersAgain =>
        rw [firsts_finish] at hfirsts
        exact .inr ⟨⟨hdeleted, hfirsts⟩, Bool.false_ne_true⟩
  environment store event := event.elim

/-- Locked rows are up to the request in its transaction. -/
theorem lock_debt :
    Debt (requestProgram env userId) (fun store => store.locked.isSome = true)
      fun thread => thread.holdsRow = true where
  advance store thread input after next hadvance howed := by
    cases requestStep_of_advance hadvance with
    | beside _ _ _ hbeside hafter =>
        rw [hafter.locked] at howed
        exact .inr ⟨howed, Bool.eq_false_iff.mp
          (RequestThread.not_holdsRow hbeside)⟩
    | throws _ _ hbeside =>
        exact .inr ⟨howed, Bool.eq_false_iff.mp
          (RequestThread.not_holdsRow hbeside)⟩
    | locks | updates => exact .inl ⟨_, rfl, rfl⟩
    | commits => cases howed
    | passes | misses | logs | answersFirst | answersAgain =>
        exact .inr ⟨howed, Bool.false_ne_true⟩
  environment store event := event.elim

theorem lock_settles :
    (requestProgram env userId).Settles
      (fun store => store.locked.isSome = true)
      fun thread => thread.holdsRow = true := by
  intro store thread howed
  dsimp only [requestProgram] at howed
  split at howed
  case isTrue => cases howed
  case isFalse hholds => exact ⟨howed, hholds⟩

end Debts

/-! ## Which sessions are revoked -/

section Trace

variable {env : AuthEnv} {userId : String} {start : RequestStore}
  {actions : List RequestAction} {pool next : RequestPool}
  {action : RequestAction} {deletionDueAt : Instant}

theorem SessionsUpdated.imp {id : Nat} {Done Later : String → Prop}
    (hupdated : SessionsUpdated env userId start actions id deletionDueAt Done)
    (hlater : ∀ sessionId, Done sessionId → Later sessionId) :
    SessionsUpdated env userId start actions id deletionDueAt Later := by
  obtain ⟨first, input, second, before, reauth, now, hasLegalHold, hactions,
    hsecond, hrun, hthread, hdone⟩ := hupdated
  exact ⟨first, input, second, before, reauth, now, hasLegalHold, hactions,
    hsecond, hrun, hthread, fun session hsession howner =>
      hlater session.id (hdone session hsession howner)⟩

theorem SessionsUpdated.concat {id : Nat} {Done : String → Prop}
    (hupdated : SessionsUpdated env userId start actions id deletionDueAt Done)
    (hmover : action.mover ≠ some id) :
    SessionsUpdated env userId start (actions ++ [action]) id deletionDueAt
      Done := by
  obtain ⟨first, input, second, before, reauth, now, hasLegalHold, rfl,
    hsecond, hrest⟩ := hupdated
  refine ⟨first, input, second ++ [action], before, reauth, now,
    hasLegalHold, ?_, ?_, hrest⟩
  · rw [List.append_assoc, List.cons_append]
  · intro other hother
    rcases List.mem_append.mp hother with hbefore | hlast
    · exact hsecond other hbefore
    · rwa [List.mem_singleton.mp hlast]

/-- What the actions up to here say about the sessions: a request about to
commit has found them all, and once the user is deleted they are revoked. -/
structure Traced (env : AuthEnv) (userId : String) (start : RequestStore)
    (actions : List RequestAction) (pool : RequestPool) : Prop where
  committing : ∀ id reauth now deletionDueAt hasLegalHold sessionIds,
    pool.thread id = some
      (.committing reauth now deletionDueAt hasLegalHold sessionIds) →
    SessionsUpdated env userId start actions id deletionDueAt
      fun sessionId => sessionId ∈ sessionIds ∧
        ∃ row ∈ pool.shared.sessions, row.id = sessionId
  deleted : IsDeleted userId pool.shared.db →
    ∃ deletionDueAt, IsScheduled userId deletionDueAt pool.shared.db ∧
    ∃ first id input second, actions = first ++ .advance id input :: second ∧
      SessionsUpdated env userId start first id deletionDueAt
        fun sessionId => ∃ row ∈ pool.shared.sessions, row.id = sessionId ∧
          row.revokedAt.isSome = true

/-- Only the second `UPDATE` leads to the commit. -/
theorem updates_of_committing {store after : RequestStore}
    {thread : RequestThread} {reauth : DeletionReauth}
    {now deletionDueAt : Instant} {hasLegalHold : Bool}
    {sessionIds : List String}
    (hstep : RequestStep userId store thread after
      (some (.committing reauth now deletionDueAt hasLegalHold sessionIds))) :
    thread = .revokingSessions reauth now deletionDueAt hasLegalHold ∧
      sessionIds = store.sessionIdsOf userId := by
  cases hstep with
  | beside _ _ _ _ _ hnext => cases (hnext _ rfl).1
  | updates => exact ⟨rfl, rfl⟩

theorem mem_sessionIdsOf {store : RequestStore} {session : UserSession}
    (hsession : session ∈ store.sessions) (howner : session.userId = userId) :
    session.id ∈ store.sessionIdsOf userId :=
  List.mem_map.mpr ⟨session,
    Table.mem_select.mpr ⟨hsession, beq_iff_eq.mpr howner⟩, rfl⟩

theorem Traced.committing_step (htraced : Traced env userId start actions pool)
    (hrun : StepSystem.run (step (requestProgram env userId))
      (Pool.start start) actions = some pool)
    (hstep : step (requestProgram env userId) pool action = some next)
    {id : Nat} {reauth : DeletionReauth} {now : Instant} {hasLegalHold : Bool}
    {sessionIds : List String}
    (hthread : next.thread id = some
      (.committing reauth now deletionDueAt hasLegalHold sessionIds)) :
    SessionsUpdated env userId start (actions ++ [action]) id deletionDueAt
      fun sessionId => sessionId ∈ sessionIds ∧
        ∃ row ∈ next.shared.sessions, row.id = sessionId := by
  have hkept := (follows_of_step hstep).sessions
  rcases thread_of_step _ hstep hthread with
    ⟨hmover, hold⟩ | ⟨call, -, hstart⟩ | ⟨input, old, rfl, hold, hadvance⟩
  · refine ((htraced.committing _ _ _ _ _ _ hold).concat hmover).imp ?_
    rintro _ ⟨hmem, row, hrow, rfl⟩
    obtain ⟨later, hlater, hid, -⟩ := hkept row hrow
    exact ⟨hmem, later, hlater, hid⟩
  · cases call <;> cases hstart
  · obtain ⟨rfl, rfl⟩ :=
      updates_of_committing (requestStep_of_advance hadvance)
    refine ⟨actions, input, [], pool, reauth, now, hasLegalHold, rfl, nofun,
      hrun, hold, fun session hsession howner => ?_⟩
    obtain ⟨later, hlater, hid, -⟩ := hkept session hsession
    exact ⟨mem_sessionIdsOf hsession howner, later, hlater, hid⟩

/-- The step that deletes the user is the commit of a request. -/
theorem commits_of_deleted
    (hstep : step (requestProgram env userId) pool action = some next)
    (hbefore : ¬ IsDeleted userId pool.shared.db)
    (hdeleted : IsDeleted userId next.shared.db) :
    ∃ id input reauth now deletionDueAt hasLegalHold sessionIds,
      action = .advance id input ∧ pool.thread id = some
        (.committing reauth now deletionDueAt hasLegalHold sessionIds) ∧
      next.shared =
        pool.shared.commit now userId deletionDueAt sessionIds := by
  have hchanged : next.shared.db.users ≠ pool.shared.db.users := by
    intro husers
    apply hbefore
    rwa [IsDeleted, ← husers]
  cases moves_of_step _ hstep with
  | spawn => exact absurd rfl hchanged
  | advance id input thread after following hthread hadvance =>
      cases requestStep_of_advance hadvance with
      | beside _ _ _ _ hafter => exact absurd hafter.users hchanged
      | commits reauth now deletionDueAt hasLegalHold sessionIds =>
          exact ⟨id, input, reauth, now, deletionDueAt, hasLegalHold,
            sessionIds, rfl, hthread, rfl⟩
      | passes | throws | locks | misses | updates | logs
        | answersFirst | answersAgain => exact absurd rfl hchanged
  | abort id thread =>
      have hdb := requestProgram_abort_db env userId pool.shared thread
      exact absurd (congrArg SessionDb.users hdb) hchanged
  | environment event => exact event.elim

theorem revoked_of_commit {store : RequestStore} {now : Instant}
    {sessionIds : List String} {row : UserSession}
    (hrow : row ∈ store.sessions) (hmem : row.id ∈ sessionIds) :
    row.withRevokedAt now ∈
      (store.commit now userId deletionDueAt sessionIds).sessions := by
  change _ ∈ revokeWhere store.sessions now _
  rw [revokeWhere, Table.mem_update]
  exact ⟨row, hrow, by rw [if_pos (List.contains_iff_mem.mpr hmem)]⟩

theorem Traced.deleted_step (htraced : Traced env userId start actions pool)
    (hinvariant : (requestInvariant userId start).Holds pool)
    (hstep : step (requestProgram env userId) pool action = some next)
    (hdeleted : IsDeleted userId next.shared.db) :
    ∃ deletionDueAt, IsScheduled userId deletionDueAt next.shared.db ∧
    ∃ first id input second,
      actions ++ [action] = first ++ .advance id input :: second ∧
      SessionsUpdated env userId start first id deletionDueAt
        fun sessionId => ∃ row ∈ next.shared.sessions, row.id = sessionId ∧
          row.revokedAt.isSome = true := by
  by_cases hbefore : IsDeleted userId pool.shared.db
  · have hfollows := follows_of_step hstep
    obtain ⟨deletionDueAt, hscheduled, first, id, input, second, rfl,
      hupdated⟩ := htraced.deleted hbefore
    refine ⟨deletionDueAt, hfollows.scheduled _ hscheduled, first, id, input,
      second ++ [action], by rw [List.append_assoc, List.cons_append],
      hupdated.imp ?_⟩
    rintro _ ⟨row, hrow, rfl, hrevoked⟩
    obtain ⟨later, hlater, hid, hkept⟩ := hfollows.sessions row hrow
    exact ⟨later, hlater, hid, hkept hrevoked⟩
  · obtain ⟨id, input, reauth, now, deletionDueAt, hasLegalHold, sessionIds,
      rfl, hthread, hnext⟩ := commits_of_deleted hstep hbefore hdeleted
    have hactive : IsActive userId pool.shared.db :=
      (hinvariant.thread id _ hthread).1
    rw [hnext]
    refine ⟨deletionDueAt, isScheduled_of_commit hactive _ _ _, actions, id,
      input, [], rfl, (htraced.committing _ _ _ _ _ _ hthread).imp ?_⟩
    rintro _ ⟨hmem, row, hrow, rfl⟩
    exact ⟨_, revoked_of_commit hrow hmem, rfl, rfl⟩

end Trace

/-! ## The result -/

section Blocking

variable (env : AuthEnv) (userId : String)

/-- No other request is in its transaction. -/
def Unblocked (store : RequestStore) (thread : RequestThread) : Prop :=
  store.locked = none ∨ thread.holdsRow = true

theorem not_waits {store : RequestStore} {thread : RequestThread}
    (hunblocked : Unblocked store thread) :
    waits env store thread = false := by
  cases thread with
  | marking | rotating | revoking =>
      rcases hunblocked with hfree | hholds
      · simp [waits, RequestStore.isLocked, hfree]
      · cases hholds
  | findingUser | checkingPassword | checkingMfa | findingHold
    | revokingSessions | committing | logging | reporting | findingSchedule
    | checkingLogin | creatingSession | findingSession | reportingReuse => rfl

theorem RequestStep.unblocked {store after : RequestStore}
    {thread following : RequestThread}
    (hstep : RequestStep userId store thread after (some following))
    (hunblocked : Unblocked store thread) : Unblocked after following := by
  cases hstep with
  | beside _ _ _ hbeside hafter =>
      rcases hunblocked with hfree | hholds
      · exact .inl (hafter.locked.trans hfree)
      · rw [RequestThread.not_holdsRow hbeside] at hholds
        cases hholds
  | locks | updates => exact .inr rfl
  | commits => exact .inl rfl
  | passes | misses | logs =>
      rcases hunblocked with hfree | hholds
      · exact .inl hfree
      · cases hholds

theorem advance_of_unblocked (store : RequestStore) (thread : RequestThread)
    (input : RequestInput) (hunblocked : Unblocked store thread) :
    ∃ after next,
      (requestProgram env userId).advance store thread input =
        some (after, next) ∧
      ∀ following, next = some following →
        Unblocked after following ∧ following.rank < thread.rank := by
  have hwaits := not_waits env hunblocked
  have hadvance : (requestProgram env userId).advance store thread input =
      some (advanceRequest env userId store thread input) :=
    if_neg (Bool.eq_false_iff.mp hwaits)
  refine ⟨_, _, hadvance, fun following hnext => ?_⟩
  have hstep := requestStep_of_advance hadvance
  rw [hnext] at hstep
  exact ⟨hstep.unblocked userId hunblocked, hstep.rank_lt⟩

end Blocking

section Result

variable {env : AuthEnv} {userId : String} {start : RequestStore}
  {actions : List RequestAction} {last : RequestPool}

theorem RequestStore.Begins.holds (hbegins : start.Begins userId) :
    (requestInvariant userId start).Holds (Pool.start start : RequestPool) :=
  Invariant.holds_start (.inl
    { active := hbegins.active
      row := fun _ huser _ => huser
      auditLogs := rfl
      answers := fun _ hanswer => by
        rw [hbegins.ended] at hanswer
        cases hanswer })

theorem requestInvariant_of_run (hbegins : start.Begins userId)
    (hrun : StepSystem.run (step (requestProgram env userId))
      (Pool.start start) actions = some last) :
    (requestInvariant userId start).Holds last :=
  (requestInvariant_inductive env userId start).run hbegins.holds
    (StepSystem.along_of_forall _ (fun action _ pool =>
      requestMeets pool action) _) hrun

theorem traced_of_run (hbegins : start.Begins userId)
    (hrun : StepSystem.run (step (requestProgram env userId))
      (Pool.start start) actions = some last) :
    Traced env userId start actions last := by
  induction actions using List.reverseRecOn generalizing last with
  | nil =>
      cases hrun
      refine ⟨fun id _ _ _ _ _ hthread => ?_, fun hdeleted => ?_⟩
      · cases hthread
      · exact absurd hbegins.active (not_isActive hdeleted)
  | append_singleton actions action ih =>
      obtain ⟨pool, hpool, hstep⟩ := (StepSystem.run_concat _).mp hrun
      have htraced := ih hpool
      have hinvariant := requestInvariant_of_run hbegins hpool
      exact ⟨fun id _ _ _ _ _ hthread =>
          htraced.committing_step hpool hstep hthread,
        htraced.deleted_step hinvariant hstep⟩

/-- Where every request in its transaction is this one, nobody is in its
way. -/
theorem unblocked_of_alone (hbegins : start.Begins userId)
    (hrun : StepSystem.run (step (requestProgram env userId))
      (Pool.start start) actions = some last) {id : Nat}
    {thread : RequestThread} (hthread : last.thread id = some thread)
    (halone : ∀ other holder, last.thread other = some holder →
      holder.holdsRow = true → other = id) :
    Unblocked last.shared thread := by
  have hstart : (Pool.start start : RequestPool).Carries
      (fun store => store.locked.isSome = true)
      fun thread => thread.holdsRow = true := by
    intro hlocked
    rw [Pool.start, hbegins.locked] at hlocked
    cases hlocked
  have hcarries := (lock_debt env userId).run_of_settles
    (lock_settles env userId) hstart hrun
  cases hlocked : last.shared.locked with
  | none => exact .inl hlocked
  | some sessionIds =>
      obtain ⟨other, holder, hother, hholds⟩ :=
        hcarries (Option.isSome_of_eq_some hlocked)
      cases halone other holder hother hholds
      cases hthread.symm.trans hother
      exact .inr hholds

/-- Where all requests have returned and one has passed, one has deleted the
user and answered. -/
theorem first_of_allReturned (hbegins : start.Begins userId)
    (hrun : StepSystem.run (step (requestProgram env userId))
      (Pool.start start) actions = some last)
    (hreturned : AllReturned actions last) (hpassed : 0 < last.shared.passed) :
    ∃ deletionDueAt, MarkedOnce userId start deletionDueAt last.shared ∧
      last.shared.firsts ≠ 0 := by
  have hinvariant := requestInvariant_of_run hbegins hrun
  have hmark : last.Carries (MarkOwed userId) fun thread =>
      thread.mayMark = true := by
    refine (mark_debt env userId).run ?_ hreturned.survive hrun
    intro howed
    rw [MarkOwed, Pool.start, hbegins.passed] at howed
    exact absurd howed.1 (Nat.lt_irrefl 0)
  have hanswer : last.Carries (AnswerOwed userId) fun thread =>
      thread.hasMarked = true := by
    refine (answer_debt env userId).run ?_ hreturned.survive hrun
    intro howed
    exact absurd hbegins.active (not_isActive howed.1)
  have hinactive : ¬ IsActive userId last.shared.db := by
    intro hactive
    obtain ⟨id, thread, hthread, hmayMark⟩ := hmark ⟨hpassed, hactive⟩
    have hrequest := hreturned.returned id thread hthread
    cases thread <;> cases hmayMark <;> cases hrequest
  have hdeleted := isDeleted_of_not_isActive hinvariant.shared hinactive
  obtain ⟨deletionDueAt, hmarked⟩ :=
    marked_of_isDeleted hinvariant.shared hdeleted
  refine ⟨deletionDueAt, hmarked, fun hfirsts => ?_⟩
  obtain ⟨id, thread, hthread, hhasMarked⟩ := hanswer ⟨hdeleted, hfirsts⟩
  have hrequest := hreturned.returned id thread hthread
  cases thread <;> cases hhasMarked <;> cases hrequest

/-- Deletion requests for an active user, logins and refreshes, in any order of
their steps. -/
theorem requestDeletion_atomic (hbegins : start.Begins userId)
    (hrun : StepSystem.run (step (requestProgram env userId))
      (Pool.start start) actions = some last) :
    AtomicDeletion env userId start actions last where
  once hreturned hpassed := by
    obtain ⟨deletionDueAt, hmarked, hfirsts⟩ :=
      first_of_allReturned hbegins hrun hreturned hpassed
    rcases hmarked.first with ⟨-, hzero⟩ | ⟨hlogged, hone⟩
    · exact absurd hzero hfirsts
    · exact ⟨le_antisymm hone (Nat.one_le_iff_ne_zero.mpr hfirsts),
        deletionDueAt, hmarked.scheduled, hlogged⟩
  row user huser hid := by
    have hinvariant := requestInvariant_of_run hbegins hrun
    rcases hinvariant.shared with hunmarked | ⟨deletionDueAt, hmarked⟩
    · exact .inl (hunmarked.row user huser hid)
    · obtain ⟨other, hother, hotherId, hstatus, hdue⟩ := hmarked.scheduled
      cases last.shared.db.users.eq_of_key_eq huser hother
        (hid.trans hotherId.symm)
      exact .inr ⟨hstatus, by rw [hdue]; rfl⟩
  scheduled first second pool deletionDueAt hactions hfirst hscheduled := by
    rw [hactions, StepSystem.run_append _ hfirst] at hrun
    exact (follows_of_run hrun).scheduled deletionDueAt hscheduled
  answers answer hanswer := by
    have hinvariant := requestInvariant_of_run hbegins hrun
    rcases hinvariant.shared with hunmarked | ⟨deletionDueAt, hmarked⟩
    · exact absurd hanswer (hunmarked.answers answer)
    · exact ⟨deletionDueAt, hmarked.scheduled, hmarked.answers answer hanswer⟩
  revoked := (traced_of_run hbegins hrun).deleted
  refused hdeleted := tokensRefused env hdeleted
  returns id thread inputs hthread halone hinputs := by
    have hrank : thread.rank < inputs.length := by
      refine lt_of_lt_of_le ?_ hinputs
      cases thread <;> simp
    exact exists_done (advance_of_unblocked env userId) hthread
      (unblocked_of_alone hbegins hrun hthread halone) hrank

end Result

namespace DeletionRace

def userId : String := "user"

def env : AuthEnv where
  argon2Verify storedHash password := storedHash == "$argon2" ++ password
  hashOpaqueToken token := token
  accessTokenTtlSeconds := 900
  refreshTokenTtlSeconds := 86400
  accountDeletionGraceDays := 30

def start : RequestStore where
  db :=
    { users :=
        ⟨[{ id := userId
            status := .active
            deletedAt := none
            deletionRequestedAt := none
            deletionDueAt := none
            createdAt := 0 }], by simp⟩
      userPasswords :=
        ⟨[{ userId := userId
            passwordHash := "$argon2secret"
            updatedAt := 0 }], by simp⟩
      passwordResetTokens := .empty
      userSessions :=
        ⟨[{ id := "old session"
            userId := userId
            accessTokenHash := "old access"
            refreshTokenHash := "old refresh"
            ipAddress := none
            userAgent := none
            expiresAt := .ofInstant 900000
            refreshExpiresAt := .ofInstant 86400000
            revokedAt := none
            lastSeenAt := 0
            createdAt := 0 }], by simp⟩ }
  locked := none
  legalHolds := .empty
  auditLogs := []
  securityEvents := []
  passed := 0
  ended := []

def reauth : DeletionReauth := ⟨some "secret", none, none⟩

def input (now : Instant) : RequestInput where
  now := now
  nextNow := now
  databaseNow := now
  mfa := .otherError
  passes := true
  sessionId := "session"
  accessToken := "access"
  refreshToken := "refresh"
  ipAddress := none
  userAgent := none

/-- Two requests pass the reauthentication.  The session of a login is inserted
between the second `UPDATE` of the one and its `COMMIT`, which the other waits
for. -/
def actions : List RequestAction :=
  [.spawn 0 (.requestDeletion reauth), .spawn 1 (.requestDeletion reauth),
    .spawn 2 (.login userId), .advance 0 (input 1), .advance 1 (input 2),
    .advance 2 (input 3), .advance 0 (input 4), .advance 1 (input 5),
    .advance 0 (input 6), .advance 1 (input 7), .advance 1 (input 8),
    .advance 1 (input 9), .advance 2 (input 10), .advance 1 (input 11),
    .advance 0 (input 12), .advance 1 (input 13), .advance 0 (input 14),
    .advance 1 (input 15)]

def last : RequestPool :=
  StepSystem.after (step (requestProgram env userId)) (Pool.start start)
    actions

theorem begins : start.Begins userId where
  active := ⟨_, List.mem_cons_self, rfl, rfl⟩
  locked := rfl
  passed := rfl
  ended := rfl

theorem requestDeletion_atomic_race :
    AtomicDeletion env userId start actions last ∧
      last.shared.ended =
        [.ok (scheduledAnswer (7 + 30 * dayMillis) true),
          .ok (scheduledAnswer (7 + 30 * dayMillis) false)] ∧
      last.shared.sessions.rows.map
          (fun session => (session.id, session.revokedAt.isSome)) =
        [("old session", true), ("session", false)] :=
  ⟨requestDeletion_atomic begins (StepSystem.run_after _ (by decide)),
    by decide, by decide⟩

end DeletionRace

end IdProvider
