/-
Access checks beside changes of grants: the cache, the database and the
invalidation take turns, one Redis command at a time.
-/
import IdProvider.AuthCore
import IdProvider.Interleaving
import IdProvider.RbacTransparency

namespace IdProvider

open Interleaving KeyedTable RbacService

/-! ## The cache in Redis -/

/-- A stored key.  `birth` and `origin` are ghosts: since when the key has been
there without a break, and how many changes the decision knew of. -/
structure CacheRow where
  key : String
  entry : CacheEntry
  birth : Nat
  origin : Nat

instance : Keyed CacheRow String := ⟨CacheRow.key⟩

def CacheRow.isLive (row : CacheRow) (now : Instant) : Bool :=
  decide (now < row.entry.expiresAt)

def CacheRow.named (row : CacheRow) (prefix_ : String) : Bool :=
  startsWith row.key prefix_

/-- What the checks and the invalidations leave behind, in order.  Changes are
numbered. -/
inductive CacheEvent where
  | scanned (change : Nat) (prefix_ : String)
  | invalidated (change : Nat) (userId : String)
  | served (userId : String) (floor origin : Nat)
  deriving DecidableEq

structure RbacStore where
  db : RbacDb
  cache : Table CacheRow
  clock : Instant
  changes : Nat
  births : Nat
  history : List CacheEvent

namespace RbacStore

def row? (store : RbacStore) (key : String) : Option CacheRow :=
  store.cache.first? fun row => row.key == key

def entries (store : RbacStore) : RbacCache := fun key =>
  (store.row? key).map CacheRow.entry

def note (store : RbacStore) (event : CacheEvent) : RbacStore :=
  { store with history := store.history ++ [event] }

/-- A key that is there keeps its birth. -/
def birthOf (store : RbacStore) (key : String) : Nat :=
  match (store.row? key).filter fun row => row.isLive store.clock with
  | some row => row.birth
  | none => store.births

/-- `SET key text EX ttl`. -/
def set (store : RbacStore) (key : String) (decision : Decision)
    (origin : Nat) : RbacStore :=
  match decision.result.toJson? with
  | none => store
  | some json =>
      { store with
        cache := store.cache.put
          { key := key
            entry := ⟨json.render,
              store.clock + decision.ttlSeconds * 1000⟩
            birth := store.birthOf key
            origin := origin }
        births := store.births + 1 }

def del (store : RbacStore) (keys : List String) : RbacStore :=
  { store with cache := store.cache.delete fun row => row.key ∈ keys }

/-- The keys that a `SCAN` that starts now has to return. -/
def owed (store : RbacStore) (prefix_ : String) : List (String × Nat) :=
  (store.cache.select fun row =>
    row.isLive store.clock && row.named prefix_).map fun row =>
      (row.key, row.birth)

/-- The key has been there all the time. -/
def stays (store : RbacStore) (key : String × Nat) : Bool :=
  store.cache.rows.any fun row =>
    row.key == key.1 && row.birth == key.2 && row.isLive store.clock

end RbacStore

/-! ## The calls -/

/-- A change of the grants of one user, followed by `invalidateUserCache`.  The
user id comes from the database. -/
structure GrantChange where
  userId : String
  apply : RbacDb → RbacDb
  parse_userId : parseUuid userId = some userId

namespace GrantChange

def authPrefix (userId : String) : String :=
  ":".intercalate ["rbac", "v1", "auth", normalizeKeyPart (some userId)]

def entPrefix (userId : String) : String :=
  ":".intercalate ["rbac", "v1", "ent", normalizeKeyPart (some userId)]

/-- A user id has no wildcard, so as patterns they end in the only one. -/
def prefixes (userId : String) : List String :=
  [authPrefix userId, entPrefix userId]

end GrantChange

inductive RbacCall where
  | check (call : Check)
  | change (change : GrantChange)

/-- What a call does next.  `floor` is a ghost: the last change of the user
that was invalidated when the check started. -/
inductive RbacThread where
  | starting (call : Check)
  | getting (call : Check) (floor : Nat)
  | reading (call : Check)
  | storing (call : Check) (decision : Decision) (origin : Nat)
  | changing (change : GrantChange)
  | scanning (change : Nat) (userId prefix_ : String) (rest : List String)
      (owed : Option (List (String × Nat)))
  | deleting (change : Nat) (userId prefix_ : String) (rest : List String)
      (owed : List (String × Nat)) (keys : List String) (finished : Bool)

/-- Whether the command or query throws, and what a `SCAN` returns: keys, and
whether the cursor is `0`. -/
structure RedisInput where
  fails : Bool
  keys : List String
  finished : Bool

inductive RbacEvent where
  | tick (milliseconds : Nat)
  | evict (key : String)

def CacheEvent.floor (userId : String) : CacheEvent → Nat
  | .invalidated change owner =>
      if parseUuid userId = some owner then change else 0
  | .scanned _ _ => 0
  | .served _ _ _ => 0

/-- The last change of the user whose invalidation is through. -/
def floorOf (userId : String) : List CacheEvent → Nat
  | [] => 0
  | event :: history => max (event.floor userId) (floorOf userId history)

section Program

variable (runtime : NumberRuntime) (options : RbacOptions)

/-- `cache.get`, with the ghost of what it finds. -/
def RbacStore.get (store : RbacStore) (key : String) : Option Nat :=
  match (store.entries.get runtime store.clock key).filter truthy with
  | none => none
  | some _ => (store.row? key).map CacheRow.origin

/-- After a prefix comes the next one, or the end of the call. -/
def nextPrefix (store : RbacStore) (change : Nat) (userId : String) :
    List String → RbacStore × Option RbacThread
  | [] => (store.note (.invalidated change userId), none)
  | prefix_ :: rest =>
      (store, some (.scanning change userId prefix_ rest none))

/-- After a `SCAN` and its `DEL`. -/
def nextScan (store : RbacStore) (change : Nat) (userId prefix_ : String)
    (rest : List String) (owed : List (String × Nat)) (finished : Bool) :
    RbacStore × Option RbacThread :=
  if finished then nextPrefix store change userId rest
  else (store, some (.scanning change userId prefix_ rest (some owed)))

/-- The first `SCAN` of a prefix is noted. -/
def RbacStore.opened (store : RbacStore) (change : Nat) (prefix_ : String) :
    Option (List (String × Nat)) → RbacStore
  | none => store.note (.scanned change prefix_)
  | some _ => store

def advanceCheck (store : RbacStore) (input : RedisInput) :
    RbacThread → Option (RbacStore × Option RbacThread)
  | .starting call =>
      if shouldUseCache options call.userId then
        some (store, some (.getting call (floorOf call.userId store.history)))
      else some (store, some (.reading call))
  | .getting call floor =>
      if input.fails then some (store, some (.reading call))
      else
        match store.get runtime call.cacheKey with
        | some origin =>
            some (store.note (.served call.userId floor origin), none)
        | none => some (store, some (.reading call))
  | .reading call =>
      if input.fails then some (store, none)
      else
        match call.decision runtime options store.db store.clock with
        | none => some (store, none)
        | some decision =>
            if shouldUseCache options call.userId then
              some (store, some (.storing call decision store.changes))
            else some (store, none)
  | .storing call decision origin =>
      if input.fails then some (store, none)
      else some (store.set call.cacheKey decision origin, none)
  | .changing change =>
      if input.fails then some (store, none)
      else
        let store := { store with
          db := change.apply store.db
          changes := store.changes + 1 }
        some (nextPrefix store store.changes change.userId
          (GrantChange.prefixes change.userId))
  | .scanning change userId prefix_ rest owed =>
      -- An error ends `invalidateUserCache` without a trace.
      if input.fails then
        some (store.note (.invalidated change userId), none)
      else
        let due := (owed.getD (store.owed prefix_)).filter fun key =>
          key.1 ∉ input.keys
        -- A finished `SCAN` has returned every key that stayed.
        if input.finished = true ∧ due.any store.stays = true ∨
            input.keys.any (fun key => !startsWith key prefix_) = true then
          none
        else
          let store := store.opened change prefix_ owed
          if input.keys = [] then
            some (nextScan store change userId prefix_ rest due input.finished)
          else
            some (store, some (.deleting change userId prefix_ rest due
              input.keys input.finished))
  | .deleting change userId prefix_ rest owed keys finished =>
      if input.fails then
        some (store.note (.invalidated change userId), none)
      else
        some (nextScan (store.del keys) change userId prefix_ rest owed
          finished)

def rbacProgram :
    Program RbacStore RbacThread RbacCall RedisInput RbacEvent where
  start
    | .check call => .starting call
    | .change change => .changing change
  advance store thread input := advanceCheck runtime options store input thread
  abort store _ := store
  environment store event :=
    match event with
    | .tick milliseconds =>
        some { store with clock := store.clock + milliseconds }
    | .evict key => some (store.del [key])

end Program

/-! ## A check that is left alone -/

section Alone

variable (runtime : NumberRuntime) (options : RbacOptions) (store : RbacStore)

theorem entries_set (key : String) (decision : Decision) (origin : Nat) :
    (store.set key decision origin).entries =
      store.entries.set store.clock key decision.result
        decision.ttlSeconds := by
  unfold RbacStore.set RbacCache.set
  cases hjson : decision.result.toJson? with
  | none => rfl
  | some json =>
      funext other
      simp only [RbacStore.entries, RbacStore.row?]
      generalize store.birthOf key = birth
      by_cases hother : other = key
      · rw [if_pos hother, Table.first?_put (by simp [hother]), Option.map_some]
        intro row hrow
        exact (eq_of_beq hrow).trans hother
      · rw [if_neg hother, Table.first?_put_of_ne (by simp [Ne.symm hother])]
        intro row hrow heq
        exact hother ((eq_of_beq hrow).symm.trans heq)

theorem get_isSome (key : String) :
    (store.get runtime key).isSome =
      ((store.entries.get runtime store.clock key).filter truthy).isSome := by
  unfold RbacStore.get
  split
  case h_1 hmiss => rw [hmiss]; rfl
  case h_2 value hvalue =>
    rw [hvalue, Option.isSome_map]
    cases hrow : store.row? key with
    | some row => rfl
    | none =>
        have hentry : store.entries key = none := by
          rw [RbacStore.entries, hrow, Option.map_none]
        rw [RbacCache.get, hentry] at hvalue
        cases hvalue

/-- The call up to its end, with a Redis and a database that work. -/
def alone : Nat → RbacStore → RbacThread → RbacStore
  | 0, store, _ => store
  | steps + 1, store, thread =>
      match advanceCheck runtime options store ⟨false, [], true⟩ thread with
      | some (after, some next) => alone steps after next
      | some (after, none) => after
      | none => store

/-- It leaves the cache as `check` does. -/
theorem alone_entries (call : Check) :
    (alone runtime options 4 store (.starting call)).entries =
      (check runtime options store.db store.clock store.entries call).2 := by
  have hget := get_isSome runtime store call.cacheKey
  rw [check_eq]
  unfold throughCache
  by_cases hcached : shouldUseCache options call.userId = true
  · rw [if_pos hcached]
    cases hfound : (store.entries.get runtime store.clock call.cacheKey).filter
        truthy with
    | some value =>
        rw [hfound] at hget
        obtain ⟨origin, horigin⟩ := Option.isSome_iff_exists.mp hget
        simp [alone, advanceCheck, hcached, horigin, RbacStore.note]
        rfl
    | none =>
        rw [hfound, Option.isSome_none, Option.isSome_eq_false_iff,
          Option.isNone_iff_eq_none] at hget
        cases hdecide : call.decision runtime options store.db store.clock with
        | none => simp [alone, advanceCheck, hcached, hget, hdecide]
        | some decision =>
            simp [alone, advanceCheck, hcached, hget, hdecide, entries_set]
  · rw [if_neg hcached]
    cases hdecide : call.decision runtime options store.db store.clock with
    | none => simp [alone, advanceCheck, hcached, hdecide]
    | some decision => simp [alone, advanceCheck, hcached, hdecide]

end Alone

/-! ## The claim -/

/-- No check is answered from the cache by a decision that is older than a
change whose invalidation was through when the check started. -/
def NoStaleAnswer (store : RbacStore) : Prop :=
  ∀ userId floor origin, .served userId floor origin ∈ store.history →
    floor ≤ origin

/-- The scan for the key has begun, of a change that the decision has not
seen. -/
def CacheEvent.overtakes (key : String) (origin : Nat) : CacheEvent → Bool
  | .scanned change prefix_ =>
      startsWith key prefix_ && decide (origin < change)
  | _ => false

/-- The id is written as the database writes it, or is none. -/
def Spelled (userId : String) : Prop :=
  ∀ owner ∈ parseUuid userId, owner = userId

/-- The user id of a check is spelled as in the database, a decision reaches
the cache before any later change is scanned for, and no command of an
invalidation fails. -/
def InTime (store : RbacStore) : RbacThread → RedisInput → Prop
  | .starting call, _ => Spelled call.userId
  | .storing call _ origin, input => input.fails = false →
      store.history.any (CacheEvent.overtakes call.cacheKey origin) = false
  | .scanning _ _ _ _ _, input => input.fails = false
  | .deleting _ _ _ _ _ _ _, input => input.fails = false
  | .getting _ _, _ => True
  | .reading _, _ => True
  | .changing _, _ => True

/-! ## What a step leaves behind -/

/-- The row knows of every change that has been scanned for. -/
def CacheRow.Current (row : CacheRow) (history : List CacheEvent) : Prop :=
  ∀ change prefix_, .scanned change prefix_ ∈ history →
    row.named prefix_ = true → change ≤ row.origin

/-- What is in the cache was there before, or knows of every change that has
been scanned for. -/
structure Advances (store after : RbacStore) : Prop where
  history : ∀ event ∈ store.history, event ∈ after.history
  rows : ∀ row ∈ after.cache, row.isLive after.clock = true →
    row.Current store.history ∨
      ∃ old ∈ store.cache, old.isLive store.clock = true ∧ old.key = row.key ∧
        old.birth = row.birth ∧ old.origin = row.origin

/-- The rows with the prefix know of the change, apart from some. -/
structure Leaves (store : RbacStore) (change : Nat) (prefix_ : String)
    (Left : String → Nat → Prop) : Prop where
  scanned : .scanned change prefix_ ∈ store.history
  rows : ∀ row ∈ store.cache, row.isLive store.clock = true →
    row.named prefix_ = true → change ≤ row.origin ∨ Left row.key row.birth

def Swept (store : RbacStore) (change : Nat) (prefix_ : String) : Prop :=
  Leaves store change prefix_ fun _ _ => False

/-- All prefixes of the user are through, up to the ones that are left. -/
def SweptBefore (store : RbacStore) (change : Nat) (userId : String)
    (rest : List String) : Prop :=
  ∃ done, GrantChange.prefixes userId = done ++ rest ∧
    ∀ prefix_ ∈ done, Swept store change prefix_

section Frame

variable {store after : RbacStore} {change : Nat} {prefix_ userId : String}
  {rest : List String} {Left Fewer : String → Nat → Prop}

theorem advances_of_subset
    (hhistory : ∀ event ∈ store.history, event ∈ after.history)
    (hcache : ∀ row ∈ after.cache, row ∈ store.cache)
    (hclock : store.clock ≤ after.clock) : Advances store after where
  history := hhistory
  rows row hrow hlive := by
    refine .inr ⟨row, hcache row hrow, ?_, rfl, rfl, rfl⟩
    rw [CacheRow.isLive, decide_eq_true_iff] at hlive ⊢
    exact hclock.trans_lt hlive

theorem advances_refl (store : RbacStore) : Advances store store :=
  advances_of_subset (fun _ => id) (fun _ => id) le_rfl

theorem advances_note (store : RbacStore) (event : CacheEvent) :
    Advances store (store.note event) :=
  advances_of_subset (fun _ => List.mem_append_left _) (fun _ => id) le_rfl

theorem advances_del (store : RbacStore) (keys : List String) :
    Advances store (store.del keys) :=
  advances_of_subset (fun _ => id)
    (fun _ hrow => (Table.mem_delete.mp hrow).1) le_rfl

theorem advances_set (store : RbacStore) {key : String} (decision : Decision)
    {origin : Nat}
    (hintime : store.history.any (CacheEvent.overtakes key origin) = false) :
    Advances store (store.set key decision origin) := by
  unfold RbacStore.set
  split
  case h_1 => exact advances_refl store
  case h_2 =>
    refine ⟨fun _ => id, fun row hrow hlive => ?_⟩
    rcases Table.mem_put.mp hrow with ⟨hold, -⟩ | rfl
    · exact .inr ⟨row, hold, hlive, rfl, rfl, rfl⟩
    · refine .inl fun change prefix_ hscanned hnamed => ?_
      have hseen := List.any_eq_false.mp hintime _ hscanned
      simp only [CacheEvent.overtakes, Bool.and_eq_true, decide_eq_true_iff,
        not_and, not_lt] at hseen
      exact hseen hnamed

theorem Advances.trans {last : RbacStore} (hfirst : Advances store after)
    (hsecond : Advances after last) : Advances store last where
  history event hevent := hsecond.history event (hfirst.history event hevent)
  rows row hrow hlive := by
    rcases hsecond.rows row hrow hlive with
      hcurrent | ⟨middle, hmiddle, hmiddleLive, hkey, hbirth, horigin⟩
    · exact .inl fun change prefix_ hscanned =>
        hcurrent change prefix_ (hfirst.history _ hscanned)
    · rcases hfirst.rows middle hmiddle hmiddleLive with
        hcurrent | ⟨old, hold, holdLive, holdKey, holdBirth, holdOrigin⟩
      · refine .inl fun change prefix_ hscanned hnamed => ?_
        rw [← horigin]
        refine hcurrent change prefix_ hscanned ?_
        rwa [CacheRow.named, hkey]
      · exact .inr ⟨old, hold, holdLive, holdKey.trans hkey,
          holdBirth.trans hbirth, holdOrigin.trans horigin⟩

theorem Leaves.advance (hleaves : Leaves store change prefix_ Left)
    (hadvances : Advances store after) : Leaves after change prefix_ Left where
  scanned := hadvances.history _ hleaves.scanned
  rows row hrow hlive hnamed := by
    rcases hadvances.rows row hrow hlive with
      hcurrent | ⟨old, hold, holdLive, hkey, hbirth, horigin⟩
    · exact .inl (hcurrent change prefix_ hleaves.scanned hnamed)
    · rw [← hkey, ← hbirth, ← horigin]
      refine hleaves.rows old hold holdLive ?_
      rwa [CacheRow.named, hkey]

theorem Leaves.imp (hleaves : Leaves store change prefix_ Left)
    (himp : ∀ row ∈ store.cache, row.isLive store.clock = true →
      Left row.key row.birth → Fewer row.key row.birth) :
    Leaves store change prefix_ Fewer where
  scanned := hleaves.scanned
  rows row hrow hlive hnamed :=
    (hleaves.rows row hrow hlive hnamed).imp_right (himp row hrow hlive)

theorem SweptBefore.advance (hbefore : SweptBefore store change userId rest)
    (hadvances : Advances store after) :
    SweptBefore after change userId rest := by
  obtain ⟨done, hprefixes, hdone⟩ := hbefore
  exact ⟨done, hprefixes, fun prefix_ hmem =>
    (hdone prefix_ hmem).advance hadvances⟩

theorem SweptBefore.next
    (hbefore : SweptBefore store change userId (prefix_ :: rest))
    (hswept : Swept store change prefix_) :
    SweptBefore store change userId rest := by
  obtain ⟨done, hprefixes, hdone⟩ := hbefore
  refine ⟨done ++ [prefix_], by simpa using hprefixes, ?_⟩
  intro other hmem
  rcases List.mem_append.mp hmem with hold | hnew
  · exact hdone other hold
  · rw [List.mem_singleton.mp hnew]
    exact hswept

end Frame

/-! ## The invariant -/

structure RbacOk (store : RbacStore) : Prop where
  fresh : NoStaleAnswer store
  swept : ∀ change userId, .invalidated change userId ∈ store.history →
    ∀ prefix_ ∈ GrantChange.prefixes userId, Swept store change prefix_

/-- What a thread has seen to so far. -/
def ThreadOk (store : RbacStore) : RbacThread → Prop
  | .getting call floor =>
      floor = 0 ∨ .invalidated floor call.userId ∈ store.history
  | .scanning change userId prefix_ rest owed =>
      SweptBefore store change userId (prefix_ :: rest) ∧
        ∀ keys, owed = some keys →
          Leaves store change prefix_ fun key birth => (key, birth) ∈ keys
  | .deleting change userId prefix_ rest owed keys finished =>
      SweptBefore store change userId (prefix_ :: rest) ∧
        Leaves store change prefix_ fun key birth =>
          key ∈ keys ∨ finished = false ∧ (key, birth) ∈ owed
  | .starting _ => True
  | .reading _ => True
  | .storing _ _ _ => True
  | .changing _ => True

/-- What a step does to the store and to its own thread. -/
structure StepOk (store : RbacStore) (result : RbacStore × Option RbacThread) :
    Prop where
  advances : Advances store result.1
  ok : RbacOk result.1
  thread : ∀ thread, result.2 = some thread → ThreadOk result.1 thread

section Steps

variable {store after : RbacStore}

theorem ThreadOk.advance {thread : RbacThread} (hthread : ThreadOk store thread)
    (hadvances : Advances store after) : ThreadOk after thread := by
  cases thread with
  | getting call floor => exact hthread.imp_right (hadvances.history _)
  | scanning change userId prefix_ rest owed =>
      exact ⟨hthread.1.advance hadvances, fun keys hkeys =>
        (hthread.2 keys hkeys).advance hadvances⟩
  | deleting change userId prefix_ rest owed keys finished =>
      exact ⟨hthread.1.advance hadvances, hthread.2.advance hadvances⟩
  | starting | reading | storing | changing => trivial

/-- A step that adds no answer and ends no invalidation. -/
theorem RbacOk.advance (hstore : RbacOk store) (hadvances : Advances store after)
    (hserved : ∀ userId floor origin,
      .served userId floor origin ∈ after.history →
        .served userId floor origin ∈ store.history)
    (hinvalidated : ∀ change userId,
      .invalidated change userId ∈ after.history →
        .invalidated change userId ∈ store.history) : RbacOk after where
  fresh userId floor origin hmem :=
    hstore.fresh userId floor origin (hserved userId floor origin hmem)
  swept change userId hmem prefix_ hprefix :=
    (hstore.swept change userId (hinvalidated change userId hmem) prefix_
      hprefix).advance hadvances

theorem RbacOk.advance_same (hstore : RbacOk store)
    (hadvances : Advances store after)
    (hhistory : after.history = store.history) : RbacOk after := by
  apply hstore.advance hadvances
  · intro userId floor origin hmem
    rwa [← hhistory]
  · intro change userId hmem
    rwa [← hhistory]

@[simp]
theorem opened_cache (store : RbacStore) (change : Nat) (prefix_ : String)
    (owed : Option (List (String × Nat))) :
    (store.opened change prefix_ owed).cache = store.cache := by
  cases owed <;> rfl

@[simp]
theorem opened_clock (store : RbacStore) (change : Nat) (prefix_ : String)
    (owed : Option (List (String × Nat))) :
    (store.opened change prefix_ owed).clock = store.clock := by
  cases owed <;> rfl

theorem opened_advances (store : RbacStore) (change : Nat) (prefix_ : String)
    (owed : Option (List (String × Nat))) :
    Advances store (store.opened change prefix_ owed) := by
  cases owed with
  | none => exact advances_note store _
  | some keys => exact advances_refl store

theorem RbacOk.opened (hstore : RbacOk store) (change : Nat) (prefix_ : String)
    (owed : Option (List (String × Nat))) :
    RbacOk (store.opened change prefix_ owed) := by
  apply hstore.advance (opened_advances store change prefix_ owed)
  · cases owed <;> simp [RbacStore.opened, RbacStore.note]
  · cases owed <;> simp [RbacStore.opened, RbacStore.note]

/-- The first `SCAN` owes every key that is there. -/
theorem opened_leaves {change : Nat} {prefix_ : String}
    {owed : Option (List (String × Nat))}
    (howed : ∀ keys, owed = some keys →
      Leaves store change prefix_ fun key birth => (key, birth) ∈ keys) :
    Leaves (store.opened change prefix_ owed) change prefix_
      fun key birth => (key, birth) ∈ owed.getD (store.owed prefix_) := by
  cases owed with
  | some keys => exact howed keys rfl
  | none =>
      constructor
      · exact List.mem_append_right _ (List.mem_singleton.mpr rfl)
      · intro row hrow hlive hnamed
        refine .inr (List.mem_map.mpr ⟨row, ?_, rfl⟩)
        exact Table.mem_select.mpr
          ⟨hrow, Bool.and_eq_true_iff.mpr ⟨hlive, hnamed⟩⟩

/-- The last prefix ends the invalidation. -/
theorem nextPrefix_ok {change : Nat} {userId : String} {rest : List String}
    (hstore : RbacOk store)
    (hbefore : SweptBefore store change userId rest) :
    StepOk store (nextPrefix store change userId rest) := by
  cases rest with
  | nil =>
      have hadvances := advances_note store (.invalidated change userId)
      refine ⟨hadvances, ⟨?_, ?_⟩, fun thread hthread => ?_⟩
      · intro owner floor origin hmem
        rcases List.mem_append.mp hmem with hold | hnew
        · exact hstore.fresh owner floor origin hold
        · simp at hnew
      · intro number owner hmem prefix_ hprefix
        rcases List.mem_append.mp hmem with hold | hnew
        · exact (hstore.swept number owner hold prefix_ hprefix).advance
            hadvances
        · cases List.mem_singleton.mp hnew
          obtain ⟨done, hprefixes, hdone⟩ := hbefore
          rw [hprefixes, List.append_nil] at hprefix
          exact (hdone prefix_ hprefix).advance hadvances
      · cases hthread
  | cons prefix_ rest =>
      refine ⟨advances_refl store, hstore, fun thread hthread => ?_⟩
      cases hthread
      refine ⟨hbefore, fun keys hkeys => ?_⟩
      cases hkeys

theorem nextScan_ok {change : Nat} {userId prefix_ : String}
    {rest : List String} {owed : List (String × Nat)} {finished : Bool}
    (hstore : RbacOk store)
    (hbefore : SweptBefore store change userId (prefix_ :: rest))
    (hleaves : Leaves store change prefix_ fun key birth =>
      finished = false ∧ (key, birth) ∈ owed) :
    StepOk store
      (nextScan store change userId prefix_ rest owed finished) := by
  unfold nextScan
  split
  case isTrue hfinished =>
    apply nextPrefix_ok hstore
    apply hbefore.next
    apply hleaves.imp
    rintro row - - ⟨hopen, -⟩
    rw [hfinished] at hopen
    cases hopen
  case isFalse =>
    refine ⟨advances_refl store, hstore, fun thread hthread => ?_⟩
    cases hthread
    refine ⟨hbefore, fun keys hkeys => ?_⟩
    cases hkeys
    exact hleaves.imp fun _ _ _ hleft => hleft.2

theorem StepOk.behind {middle : RbacStore}
    {result : RbacStore × Option RbacThread} (hstep : StepOk middle result)
    (hadvances : Advances store middle) : StepOk store result :=
  ⟨hadvances.trans hstep.advances, hstep.ok, hstep.thread⟩

theorem floorOf_cases (userId : String) (history : List CacheEvent) :
    floorOf userId history = 0 ∨ ∃ owner, parseUuid userId = some owner ∧
      .invalidated (floorOf userId history) owner ∈ history := by
  induction history with
  | nil => exact .inl rfl
  | cons event history ih =>
      rw [floorOf]
      rcases le_total (floorOf userId history) (event.floor userId) with
        hold | hnew
      · rw [max_eq_left hold]
        cases event with
        | scanned change prefix_ => exact .inl rfl
        | served owner floor origin => exact .inl rfl
        | invalidated change owner =>
            by_cases howner : parseUuid userId = some owner
            · refine .inr ⟨owner, howner, ?_⟩
              rw [CacheEvent.floor, if_pos howner]
              exact List.mem_cons_self
            · exact .inl (if_neg howner)
      · rw [max_eq_right hnew]
        refine ih.imp_right ?_
        rintro ⟨owner, howner, hmem⟩
        exact ⟨owner, howner, List.mem_cons_of_mem _ hmem⟩

theorem cacheKey_named (call : Check) :
    ∃ prefix_ ∈ GrantChange.prefixes call.userId,
      startsWith call.cacheKey prefix_ = true := by
  cases call with
  | authorization input =>
      refine ⟨_, List.mem_cons_self, ?_⟩
      rw [startsWith, List.isPrefixOf_iff_prefix]
      simp [GrantChange.authPrefix, Check.cacheKey, Check.userId,
        buildAuthorizationCacheKey]
  | entitlement input =>
      refine ⟨_, List.mem_cons_of_mem _ List.mem_cons_self, ?_⟩
      rw [startsWith, List.isPrefixOf_iff_prefix]
      simp [GrantChange.entPrefix, Check.cacheKey, Check.userId,
        buildEntitlementCacheKey]

end Steps

def rbacInvariant : Invariant RbacStore RbacThread where
  SharedOk := RbacOk
  ThreadOk := ThreadOk
  Apart _ _ := True

section Program

variable {runtime : NumberRuntime} {options : RbacOptions}
  {store : RbacStore} {input : RedisInput}
  {result : RbacStore × Option RbacThread}

/-- A hit is a live row under the key. -/
theorem row_of_get {key : String} {origin : Nat}
    (hget : store.get runtime key = some origin) :
    ∃ row ∈ store.cache, row.isLive store.clock = true ∧ row.key = key ∧
      row.origin = origin := by
  unfold RbacStore.get at hget
  split at hget
  case h_1 => cases hget
  case h_2 value hvalue =>
    obtain ⟨row, hrow, rfl⟩ := Option.map_eq_some_iff.mp hget
    obtain ⟨hmem, hkey⟩ := Table.mem_of_first? hrow
    refine ⟨row, hmem, ?_, eq_of_beq hkey, rfl⟩
    have hentry : store.entries key = some row.entry := by
      rw [RbacStore.entries, hrow, Option.map_some]
    rw [RbacCache.get, hentry] at hvalue
    dsimp only at hvalue
    split at hvalue
    case isTrue hlive => exact decide_eq_true hlive.1
    case isFalse => simp at hvalue

/-- What is answered from the cache knows of every invalidated change. -/
theorem le_of_get {call : Check} {floor origin : Nat} (hstore : RbacOk store)
    (hfloor : floor = 0 ∨ .invalidated floor call.userId ∈ store.history)
    (hget : store.get runtime call.cacheKey = some origin) :
    floor ≤ origin := by
  rcases hfloor with rfl | hmem
  · exact Nat.zero_le origin
  · obtain ⟨row, hrow, hlive, hkey, rfl⟩ := row_of_get hget
    obtain ⟨prefix_, hprefix, hnamed⟩ := cacheKey_named call
    have hrows := (hstore.swept floor call.userId hmem prefix_ hprefix).rows
    rcases hrows row hrow hlive (by rwa [CacheRow.named, hkey]) with
      hle | hleft
    · exact hle
    · exact hleft.elim

theorem scan_ok {change : Nat} {userId prefix_ : String} {rest : List String}
    {owed : Option (List (String × Nat))} (hstore : RbacOk store)
    (hthread : ThreadOk store (.scanning change userId prefix_ rest owed))
    (hworks : input.fails = false)
    (hadvance : advanceCheck runtime options store input
      (.scanning change userId prefix_ rest owed) = some result) :
    StepOk store result := by
  obtain ⟨hbefore, howed⟩ := hthread
  simp only [advanceCheck, hworks, Bool.false_eq_true, if_false] at hadvance
  split at hadvance
  case isTrue => cases hadvance
  case isFalse hscan =>
    push Not at hscan
    obtain ⟨hfinished, -⟩ := hscan
    have hadvances := opened_advances store change prefix_ owed
    have hopened := hstore.opened change prefix_ owed
    have hbefore := hbefore.advance hadvances
    have hdue : Leaves (store.opened change prefix_ owed) change prefix_
        fun key birth => key ∈ input.keys ∨ input.finished = false ∧ (key, birth) ∈
          (owed.getD (store.owed prefix_)).filter fun key =>
            key.1 ∉ input.keys := by
      apply (opened_leaves howed).imp
      intro row hrow hlive hleft
      by_cases hkey : row.key ∈ input.keys
      · exact .inl hkey
      · have hmem : (row.key, row.birth) ∈
            (owed.getD (store.owed prefix_)).filter fun key =>
              key.1 ∉ input.keys :=
          List.mem_filter.mpr ⟨hleft, decide_eq_true hkey⟩
        refine .inr ⟨?_, hmem⟩
        by_contra hopen
        rw [opened_cache] at hrow
        rw [opened_clock] at hlive
        refine hfinished (Bool.eq_true_of_not_eq_false hopen)
          (List.any_eq_true.mpr ⟨_, hmem, ?_⟩)
        refine List.any_eq_true.mpr ⟨row, hrow, ?_⟩
        simp [hlive]
    split at hadvance
    case isTrue hempty =>
      cases hadvance
      refine (nextScan_ok hopened hbefore (hdue.imp ?_)).behind hadvances
      intro row _ _ hleft
      rcases hleft with hkey | hleft
      · rw [hempty] at hkey
        cases hkey
      · exact hleft
    case isFalse =>
      cases hadvance
      refine ⟨hadvances, hopened, fun thread hthread => ?_⟩
      cases hthread
      exact ⟨hbefore, hdue⟩

theorem delete_ok {change : Nat} {userId prefix_ : String}
    {rest : List String} {owed : List (String × Nat)} {keys : List String}
    {finished : Bool} (hstore : RbacOk store)
    (hthread : ThreadOk store
      (.deleting change userId prefix_ rest owed keys finished)) :
    StepOk store
      (nextScan (store.del keys) change userId prefix_ rest owed finished) := by
  obtain ⟨hbefore, hleaves⟩ := hthread
  have hadvances := advances_del store keys
  refine (nextScan_ok (hstore.advance_same hadvances rfl)
    (hbefore.advance hadvances) ?_).behind hadvances
  apply (hleaves.advance hadvances).imp
  intro row hrow _ hleft
  have hkept := (Table.mem_delete.mp hrow).2
  rcases hleft with hkey | hleft
  · exact absurd hkey (of_decide_eq_false hkept)
  · exact hleft

/-- A step that only goes on. -/
theorem stepOk_idle (hstore : RbacOk store) {next : Option RbacThread}
    (hnext : ∀ thread, next = some thread → ThreadOk store thread) :
    StepOk store (store, next) :=
  ⟨advances_refl store, hstore, hnext⟩

theorem stepOk_ended (hstore : RbacOk store) : StepOk store (store, none) :=
  stepOk_idle hstore fun thread hnext => by cases hnext

theorem start_ok {call : Check} (hstore : RbacOk store)
    (hspelled : Spelled call.userId)
    (hadvance : advanceCheck runtime options store input (.starting call) =
      some result) : StepOk store result := by
  simp only [advanceCheck] at hadvance
  split at hadvance
  · cases hadvance
    refine stepOk_idle hstore fun thread hnext => ?_
    cases hnext
    refine (floorOf_cases call.userId store.history).imp_right ?_
    rintro ⟨owner, howner, hmem⟩
    rwa [hspelled owner howner] at hmem
  · cases hadvance
    exact stepOk_idle hstore fun thread hnext => by cases hnext; trivial

/-- What the cache serves is no older than the last invalidation that the call
has seen. -/
theorem get_ok {call : Check} {floor : Nat} (hstore : RbacOk store)
    (hthread : ThreadOk store (.getting call floor))
    (hadvance : advanceCheck runtime options store input
      (.getting call floor) = some result) : StepOk store result := by
  have hmiss : StepOk store (store, some (.reading call)) :=
    stepOk_idle hstore fun thread hnext => by cases hnext; trivial
  simp only [advanceCheck] at hadvance
  split at hadvance
  · cases hadvance
    exact hmiss
  · split at hadvance
    case h_1 origin hget =>
      cases hadvance
      have hadvances :=
        advances_note store (.served call.userId floor origin)
      refine ⟨hadvances, ⟨?_, ?_⟩, fun thread hnext => by cases hnext⟩
      · intro owner known found hmem
        rcases List.mem_append.mp hmem with hold | hnew
        · exact hstore.fresh owner known found hold
        · cases List.mem_singleton.mp hnew
          exact le_of_get hstore hthread hget
      · intro change owner hmem prefix_ hprefix
        rcases List.mem_append.mp hmem with hold | hnew
        · exact (hstore.swept change owner hold prefix_ hprefix).advance
            hadvances
        · simp at hnew
    case h_2 =>
      cases hadvance
      exact hmiss

theorem read_ok {call : Check} (hstore : RbacOk store)
    (hadvance : advanceCheck runtime options store input (.reading call) =
      some result) : StepOk store result := by
  simp only [advanceCheck] at hadvance
  split at hadvance
  · cases hadvance
    exact stepOk_ended hstore
  · split at hadvance
    · cases hadvance
      exact stepOk_ended hstore
    · split at hadvance
      · cases hadvance
        exact stepOk_idle hstore fun thread hnext => by cases hnext; trivial
      · cases hadvance
        exact stepOk_ended hstore

theorem set_ok {call : Check} {decision : Decision} {origin : Nat}
    (hstore : RbacOk store)
    (hintime : InTime store (.storing call decision origin) input)
    (hadvance : advanceCheck runtime options store input
      (.storing call decision origin) = some result) : StepOk store result := by
  simp only [advanceCheck] at hadvance
  split at hadvance
  · cases hadvance
    exact stepOk_ended hstore
  case isFalse hworks =>
    cases hadvance
    have hadvances := advances_set store decision
      (hintime (Bool.eq_false_of_not_eq_true hworks))
    refine ⟨hadvances, hstore.advance_same hadvances ?_,
      fun thread hnext => by cases hnext⟩
    unfold RbacStore.set
    split
    · rfl
    · rfl

theorem change_ok {change : GrantChange} (hstore : RbacOk store)
    (hadvance : advanceCheck runtime options store input (.changing change) =
      some result) : StepOk store result := by
  simp only [advanceCheck] at hadvance
  split at hadvance
  · cases hadvance
    exact stepOk_ended hstore
  · cases hadvance
    have hadvances : Advances store { store with
        db := change.apply store.db
        changes := store.changes + 1 } :=
      advances_of_subset (fun _ => id) (fun _ => id) le_rfl
    refine (nextPrefix_ok (hstore.advance_same hadvances rfl) ?_).behind
      hadvances
    exact ⟨[], rfl, fun prefix_ hmem => by cases hmem⟩

/-- One step of a call. -/
theorem advance_ok {thread : RbacThread} (hstore : RbacOk store)
    (hthread : ThreadOk store thread) (hintime : InTime store thread input)
    (hadvance : advanceCheck runtime options store input thread =
      some result) : StepOk store result := by
  cases thread with
  | starting call => exact start_ok hstore hintime hadvance
  | getting call floor => exact get_ok hstore hthread hadvance
  | reading call => exact read_ok hstore hadvance
  | storing call decision origin => exact set_ok hstore hintime hadvance
  | changing change => exact change_ok hstore hadvance
  | scanning change userId prefix_ rest owed =>
      exact scan_ok hstore hthread hintime hadvance
  | deleting change userId prefix_ rest owed keys finished =>
      have hworks : input.fails = false := hintime
      simp only [advanceCheck, hworks, Bool.false_eq_true, if_false] at hadvance
      cases hadvance
      exact delete_ok hstore hthread

theorem rbacInvariant_inductive :
    rbacInvariant.Inductive (rbacProgram runtime options) InTime where
  start store call hstore := by
    refine ⟨?_, fun other => ⟨trivial, trivial⟩⟩
    cases call with
    | check call => trivial
    | change change => trivial
  advance store thread input after next hstore hthread hintime hadvance := by
    have hstep := advance_ok hstore hthread hintime hadvance
    exact ⟨hstep.ok, hstep.thread,
      fun other hother _ => hother.advance hstep.advances,
      fun thread hnext other hother _ => ⟨trivial, trivial⟩⟩
  abort store thread hstore hthread := by
    refine ⟨hstore, fun next hnext => ?_, fun other hother _ => hother,
      fun next hnext => ?_⟩
    · cases hnext
    · cases hnext
  environment store event after hstore hafter := by
    cases event with
    | tick milliseconds =>
        cases hafter
        have hadvances : Advances store
            { store with clock := store.clock + milliseconds } :=
          advances_of_subset (fun _ => id) (fun _ => id)
            (Int.le_add_of_nonneg_right (Int.natCast_nonneg milliseconds))
        exact ⟨hstore.advance_same hadvances rfl,
          fun thread hthread => hthread.advance hadvances⟩
    | evict key =>
        cases hafter
        have hadvances := advances_del store [key]
        exact ⟨hstore.advance_same hadvances rfl,
          fun thread hthread => hthread.advance hadvances⟩

end Program

/-! ## Runs -/

/-- An empty cache in front of the database. -/
def RbacStore.start (db : RbacDb) (now : Instant) : RbacStore where
  db := db
  cache := .empty
  clock := now
  changes := 0
  births := 0
  history := []

abbrev RbacAction := Interleaving.Action RbacCall RedisInput RbacEvent Nat
abbrev RbacPool := Pool RbacStore RbacThread Nat

/-- Where decisions are stored in time and every command of an invalidation
works, no check is answered by a decision that an earlier invalidation was to
remove. -/
theorem noStaleAnswer_of_inTime (runtime : NumberRuntime)
    (options : RbacOptions) (db : RbacDb) (now : Instant)
    (actions : List RbacAction) (last : RbacPool)
    (hintime : StepSystem.Along
      (Interleaving.step (rbacProgram runtime options)) (Meets InTime)
      (Pool.start (RbacStore.start db now)) actions)
    (hrun : StepSystem.run (Interleaving.step (rbacProgram runtime options))
      (Pool.start (RbacStore.start db now)) actions = some last) :
    NoStaleAnswer last.shared := by
  have hok : RbacOk (RbacStore.start db now) := by
    constructor
    · intro userId floor origin hmem
      cases hmem
    · intro change userId hmem
      cases hmem
  exact (rbacInvariant_inductive.run (Invariant.holds_start hok) hintime
    hrun).shared.fresh

namespace RbacWitness

def works (keys : List String) : RedisInput := ⟨false, keys, true⟩

def isReading : Check := reading "read"

/-- The user loses the role. -/
def revocation : GrantChange where
  userId := userId
  apply db := { db with userRoles := .empty }
  parse_userId := by decide +kernel

def advances (id : Nat) (inputs : List RedisInput) : List RbacAction :=
  inputs.map (.advance id)

/-- Asks the cache in vain, and reads the database. -/
def missing (id : Nat) : List RbacAction :=
  .spawn id (.check isReading) :: advances id (List.replicate 3 (works []))

def storing (id : Nat) : List RbacAction := [.advance id (works [])]

/-- The change, and a scan for each prefix; the first one finds the keys. -/
def revoking (id : Nat) (keys : List String) : List RbacAction :=
  .spawn id (.change revocation) ::
    advances id (works [] :: works keys :: keys.map (fun _ => works []) ++
      [works []])

def asking (id : Nat) : List RbacAction :=
  .spawn id (.check isReading) :: advances id (List.replicate 2 (works []))

def startPool : RbacPool := Pool.start (RbacStore.start db 0)

def afterActions (actions : List RbacAction) : RbacPool :=
  StepSystem.after (Interleaving.step (rbacProgram runtime options)) startPool
    actions

instance (store : RbacStore) (thread : RbacThread) (input : RedisInput) :
    Decidable (InTime store thread input) := by
  unfold InTime Spelled
  split <;> infer_instance

/-- A decision is stored, removed and made again. -/
def inTurn : List RbacAction :=
  missing 1 ++ storing 1 ++ revoking 2 [isReading.cacheKey] ++ missing 3 ++
    storing 3 ++ asking 4

theorem inTurn_noStaleAnswer :
    .served userId 1 1 ∈ (afterActions inTurn).shared.history ∧
      NoStaleAnswer (afterActions inTurn).shared :=
  ⟨by decide +kernel, noStaleAnswer_of_inTime runtime options db 0 inTurn
    (afterActions inTurn) (along_of_decide _ (by decide +kernel))
    (StepSystem.run_after _ (by decide +kernel))⟩

/-- A decision of before the change is stored after the scans. -/
def overtaken : List RbacAction :=
  missing 1 ++ revoking 2 [] ++ storing 1 ++ asking 3

theorem not_noStaleAnswer :
    ¬ ∀ runtime options db now (actions : List RbacAction) last,
      StepSystem.run (Interleaving.step (rbacProgram runtime options))
        (Pool.start (RbacStore.start db now)) actions = some last →
      NoStaleAnswer last.shared := by
  intro hclaim
  have hserved : .served userId 1 0 ∈ (afterActions overtaken).shared.history := by
    decide +kernel
  have hfresh := hclaim runtime options db 0 overtaken (afterActions overtaken)
    (StepSystem.run_after _ (by decide +kernel)) userId 1 0 hserved
  exact absurd hfresh (by decide)

end RbacWitness

end IdProvider
