/-
A loop that selects a chunk of ids and applies a statement to them until the
selection is empty.  Without an order clause the selection may list the
pending ids in any order, and in another one each round.
-/
import Mathlib.Data.List.Nodup
import Mathlib.Data.List.Perm.Basic
import Mathlib.Tactic.Common

namespace ChunkDrain

/-- The order in which each round's scan meets the rows. -/
structure ScanOrder (Id : Type) where
  pick : Nat → List Id → List Id
  perm : ∀ round ids, (pick round ids).Perm ids

def ScanOrder.storage {Id : Type} : ScanOrder Id :=
  ⟨fun _ ids => ids, fun _ ids => List.Perm.refl ids⟩

/-- A chunk of a scan is empty only when the scan is. -/
theorem ScanOrder.take_pick_eq_nil {Id : Type} (scan : ScanOrder Id)
    {chunk round : Nat} {ids : List Id} (hchunk : 1 ≤ chunk) :
    (scan.pick round ids).take chunk = [] ↔ ids = [] := by
  have hzero : chunk ≠ 0 := Nat.one_le_iff_ne_zero.mp hchunk
  rw [List.take_eq_nil_iff, or_iff_right hzero]
  constructor
  · intro hpick
    have hperm := scan.perm round ids
    rw [hpick] at hperm
    exact List.nil_perm.mp hperm
  · intro hids
    have hperm := scan.perm round ids
    rw [hids] at hperm ⊢
    exact List.perm_nil.mp hperm

variable {State Id : Type}

/-- `while (true) { ids = select(); if empty break; total += apply(ids) }`.
Either statement may be refused, which ends the loop without a result; there
is none either when the fuel runs out before the selection is empty. -/
def drain (select : Nat → State → Option (List Id))
    (apply : State → List Id → Option (State × Nat)) :
    Nat → Nat → Nat → State → Option (State × Nat)
  | 0, _, _, _ => none
  | fuel + 1, round, total, state =>
      match select round state with
      | none => none
      | some [] => some (state, total)
      | some ids =>
          match apply state ids with
          | none => none
          | some (after, count) =>
              drain select apply fuel (round + 1) (total + count) after

section Rounds

variable {select : Nat → State → Option (List Id)}
variable {apply : State → List Id → Option (State × Nat)}
variable {round total : Nat} {state : State}

/-- One round of the loop. -/
theorem drain_succ (fuel : Nat) :
    drain select apply (fuel + 1) round total state =
      match select round state with
      | none => none
      | some [] => some (state, total)
      | some ids =>
          match apply state ids with
          | none => none
          | some (after, count) =>
              drain select apply fuel (round + 1) (total + count) after := rfl

theorem drain_of_select_eq_none (fuel : Nat)
    (hselect : select round state = none) :
    drain select apply fuel round total state = none := by
  cases fuel with
  | zero => rfl
  | succ fuel => rw [drain_succ, hselect]

theorem drain_of_select_eq_nil (fuel : Nat)
    (hselect : select round state = some []) :
    drain select apply (fuel + 1) round total state = some (state, total) := by
  rw [drain_succ, hselect]

theorem drain_of_apply_eq_none (fuel : Nat) {ids : List Id}
    (hselect : select round state = some ids) (hne : ids ≠ [])
    (happly : apply state ids = none) :
    drain select apply fuel round total state = none := by
  cases fuel with
  | zero => rfl
  | succ fuel =>
      cases ids with
      | nil => exact absurd rfl hne
      | cons id ids =>
          rw [drain_succ, hselect]
          dsimp only
          rw [happly]

theorem drain_of_apply_eq_some (fuel : Nat) {ids : List Id} {after : State}
    {count : Nat} (hselect : select round state = some ids) (hne : ids ≠ [])
    (happly : apply state ids = some (after, count)) :
    drain select apply (fuel + 1) round total state =
      drain select apply fuel (round + 1) (total + count) after := by
  cases ids with
  | nil => exact absurd rfl hne
  | cons id ids =>
      rw [drain_succ, hselect]
      dsimp only
      rw [happly]

/-- The ways in which a round of a loop with a result has gone. -/
theorem drain_cases {fuel : Nat} {result : State × Nat}
    (hresult : drain select apply (fuel + 1) round total state =
      some result) :
    select round state = some [] ∧ result = (state, total) ∨
      ∃ ids after count, select round state = some ids ∧ ids ≠ [] ∧
        apply state ids = some (after, count) ∧
        drain select apply fuel (round + 1) (total + count) after =
          some result := by
  cases hselect : select round state with
  | none =>
      rw [drain_of_select_eq_none _ hselect] at hresult
      cases hresult
  | some ids =>
      by_cases hne : ids = []
      · subst hne
        rw [drain_of_select_eq_nil _ hselect] at hresult
        exact .inl ⟨rfl, (Option.some.inj hresult).symm⟩
      · cases happly : apply state ids with
        | none =>
            rw [drain_of_apply_eq_none _ hselect hne happly] at hresult
            cases hresult
        | some next =>
            obtain ⟨after, count⟩ := next
            rw [drain_of_apply_eq_some _ hselect hne happly] at hresult
            exact .inr ⟨ids, after, count, rfl, hne, happly, hresult⟩

/-- More fuel does not change a result. -/
theorem drain_mono {fuel more : Nat} (hle : fuel ≤ more)
    {result : State × Nat}
    (hresult : drain select apply fuel round total state = some result) :
    drain select apply more round total state = some result := by
  induction fuel generalizing more round total state with
  | zero => cases hresult
  | succ fuel ih =>
      obtain ⟨more, rfl⟩ : ∃ n, more = n + 1 :=
        Nat.exists_eq_add_one_of_ne_zero (by omega)
      rcases drain_cases hresult with ⟨hselect, rfl⟩ |
        ⟨ids, after, count, hselect, hne, happly, hrest⟩
      · exact drain_of_select_eq_nil more hselect
      · rw [drain_of_apply_eq_some more hselect hne happly]
        exact ih (by omega) hrest

/-- What every application preserves, the loop preserves. -/
theorem drain_invariant (Inv : State → Prop)
    (happly : ∀ state ids after count, Inv state →
      apply state ids = some (after, count) → Inv after)
    {fuel : Nat} {result : State × Nat} (hstate : Inv state)
    (hresult : drain select apply fuel round total state = some result) :
    Inv result.1 := by
  induction fuel generalizing round total state with
  | zero => cases hresult
  | succ fuel ih =>
      rcases drain_cases hresult with ⟨-, rfl⟩ |
        ⟨ids, after, count, -, -, hstep, hrest⟩
      · exact hstate
      · exact ih (happly state ids after count hstate hstep) hrest

/-- If the statement keeps the selection inhabited, the loop never ends. -/
theorem drain_diverges (Inv : State → Prop)
    (hselect : ∀ round state, Inv state → select round state ≠ some [])
    (happly : ∀ state ids after count, Inv state →
      apply state ids = some (after, count) → Inv after)
    (fuel : Nat) (hstate : Inv state) :
    drain select apply fuel round total state = none := by
  induction fuel generalizing round total state with
  | zero => rfl
  | succ fuel ih =>
      by_contra hsome
      obtain ⟨result, hresult⟩ := Option.ne_none_iff_exists'.mp hsome
      rcases drain_cases hresult with ⟨hnil, -⟩ |
        ⟨ids, after, count, -, -, hstep, hrest⟩
      · exact hselect round state hstate hnil
      · rw [ih (happly state ids after count hstate hstep)] at hrest
        cases hrest

end Rounds

/-- A statement that takes exactly the ids it is given off the pending list. -/
structure Sweep (State Id : Type) [DecidableEq Id] where
  pending : State → List Id
  touch : State → List Id → State
  nodup : ∀ state, (pending state).Nodup
  pending_touch : ∀ state ids,
    pending (touch state ids) = (pending state).filter (· ∉ ids)
  touch_nil : ∀ state, touch state [] = state
  touch_append : ∀ state first second,
    touch (touch state first) second = touch state (first ++ second)

variable [DecidableEq Id]

def Sweep.select (sweep : Sweep State Id) (scan : ScanOrder Id) (chunk : Nat)
    (round : Nat) (state : State) : List Id :=
  (scan.pick round (sweep.pending state)).take chunk

/-- A statement takes at most `room` ids. -/
def Sweep.apply (sweep : Sweep State Id) (room : Nat) (state : State)
    (ids : List Id) : Option (State × Nat) :=
  if ids.length ≤ room then some (sweep.touch state ids, ids.length) else none

theorem Sweep.select_eq_nil (sweep : Sweep State Id) (scan : ScanOrder Id)
    {chunk round : Nat} {state : State} (hchunk : 1 ≤ chunk) :
    sweep.select scan chunk round state = [] ↔ sweep.pending state = [] :=
  scan.take_pick_eq_nil hchunk

theorem Sweep.length_select (sweep : Sweep State Id) (scan : ScanOrder Id)
    (chunk round : Nat) (state : State) :
    (sweep.select scan chunk round state).length =
      min chunk (sweep.pending state).length := by
  rw [Sweep.select, List.length_take, (scan.perm _ _).length_eq]

theorem Sweep.select_sublist_perm (sweep : Sweep State Id)
    (scan : ScanOrder Id) (chunk round : Nat) (state : State) :
    ∃ rest, (sweep.select scan chunk round state ++ rest).Perm
      (sweep.pending state) := by
  refine ⟨(scan.pick round (sweep.pending state)).drop chunk, ?_⟩
  rw [Sweep.select, List.take_append_drop]
  exact scan.perm round (sweep.pending state)

/-- The ids a chunk leaves pending. -/
theorem filter_not_mem_of_perm_append {ids rest pending : List Id}
    (hperm : (ids ++ rest).Perm pending) (hnodup : pending.Nodup) :
    (ids ++ pending.filter (· ∉ ids)).Perm pending := by
  have hsplit : (ids ++ rest).Nodup := hperm.nodup_iff.mpr hnodup
  have hdisjoint : ∀ id ∈ rest, id ∉ ids := by
    intro id hrest hids
    exact (List.nodup_append.mp hsplit).2.2 id hids id hrest rfl
  have hrest : ((ids ++ rest).filter (· ∉ ids)) = rest := by
    rw [List.filter_append]
    have hnone : ids.filter (· ∉ ids) = [] := by
      rw [List.filter_eq_nil_iff]
      simp
    have hall : rest.filter (· ∉ ids) = rest := by
      rw [List.filter_eq_self]
      intro id hid
      simpa using hdisjoint id hid
    rw [hnone, hall, List.nil_append]
  have hfilter : (pending.filter (· ∉ ids)).Perm rest := by
    rw [← hrest]
    exact (hperm.filter _).symm
  exact (hfilter.append_left ids).trans hperm

/-- The loop ends after it has touched every pending id exactly once, and its
total is their number, if the first chunk fits into a statement: no later one
is longer. -/
theorem Sweep.drain_eq (sweep : Sweep State Id) (scan : ScanOrder Id)
    {chunk room : Nat} (hchunk : 1 ≤ chunk) (round total : Nat)
    (state : State)
    (hroom : min chunk (sweep.pending state).length ≤ room) :
    ∃ ids, ids.Perm (sweep.pending state) ∧
      drain (fun round state => some (sweep.select scan chunk round state))
          (sweep.apply room) ((sweep.pending state).length + 1) round total
          state =
        some (sweep.touch state ids, total + (sweep.pending state).length) := by
  -- Each round shortens the pending list, so its length is the measure.
  induction hlength : (sweep.pending state).length using
      Nat.strongRecOn generalizing round total state with
  | ind length ih =>
      by_cases hnil : sweep.pending state = []
      · have hselect : sweep.select scan chunk round state = [] :=
          (sweep.select_eq_nil scan hchunk).mpr hnil
        refine ⟨[], by rw [hnil], ?_⟩
        rw [drain_of_select_eq_nil _ (congrArg some hselect),
          sweep.touch_nil, ← hlength, hnil, List.length_nil, Nat.add_zero]
      · have hselect : sweep.select scan chunk round state ≠ [] :=
          fun h => hnil ((sweep.select_eq_nil scan hchunk).mp h)
        obtain ⟨rest, hrest⟩ :=
          sweep.select_sublist_perm scan chunk round state
        have hsplit :=
          filter_not_mem_of_perm_append hrest (sweep.nodup state)
        rw [← sweep.pending_touch] at hsplit
        have hpos : 0 < (sweep.select scan chunk round state).length :=
          List.length_pos_iff.mpr hselect
        have hsum := hsplit.length_eq
        rw [List.length_append, hlength] at hsum
        have happly : sweep.apply room state
            (sweep.select scan chunk round state) =
            some (sweep.touch state (sweep.select scan chunk round state),
              (sweep.select scan chunk round state).length) := by
          apply if_pos
          rwa [sweep.length_select]
        obtain ⟨ids, hids, hdrain⟩ := ih _ (by omega) (round + 1)
          (total + (sweep.select scan chunk round state).length)
          (sweep.touch state (sweep.select scan chunk round state))
          (by omega) rfl
        refine ⟨sweep.select scan chunk round state ++ ids, ?_, ?_⟩
        · exact (hids.append_left _).trans hsplit
        · rw [drain_of_apply_eq_some _ rfl hselect happly]
          rw [sweep.touch_append] at hdrain
          have hfuel : (sweep.pending (sweep.touch state
              (sweep.select scan chunk round state))).length + 1 ≤ length := by
            omega
          rw [drain_mono hfuel hdrain]
          congr 2
          omega

/-- A first chunk that does not fit is refused. -/
theorem Sweep.drain_eq_none (sweep : Sweep State Id) (scan : ScanOrder Id)
    {chunk room : Nat} (fuel round total : Nat) {state : State}
    (hroom : room < min chunk (sweep.pending state).length) :
    drain (fun round state => some (sweep.select scan chunk round state))
      (sweep.apply room) fuel round total state = none := by
  have hlength := sweep.length_select scan chunk round state
  apply drain_of_apply_eq_none fuel rfl
  · intro hnil
    rw [hnil, List.length_nil] at hlength
    omega
  · apply if_neg
    omega

end ChunkDrain
