import Xnestjs.Program.SharedLock
import Xnestjs.Model.Run
import Mathlib.Data.List.Perm.Basic

/-!
# Calls on the shared lock, interleaved

Any number of callers call `acquire()`, `tryAcquire()` and `release()` without waiting for
each other. A call runs up to its `await` and joins the calls in flight; the underlying
operation of a call in flight settles at any later moment, in any order, and the call runs
on from there. Beside the pool of the code two things are recorded that the properties are
about: the grants not yet released, and whether the underlying lock is held, that is
whether an acquisition of it has completed and no release of it been issued since.
-/

set_option autoImplicit false

namespace Xnestjs.Program.SharedLock

open Xnestjs.Model

variable {ε : Type}

abbrev Tag := ℕ × Call

/-- The counter with the calls in flight, the callers granted who have not called `release`
since (one entry for each grant), and whether the underlying lock is held. -/
structure Concurrent (ε : Type) where
  pool : Pool ℤ LockOp Bool ε Bool Tag
  granted : List ℕ
  held : Bool

/-- `_refCount` -/
abbrev Concurrent.refCount (s : Concurrent ε) : ℤ := s.pool.shared

/-- The lock object as `sharedLock` leaves it. -/
def freshConcurrent : Concurrent ε := ⟨⟨0, []⟩, [], false⟩

/-- A caller makes a call, or the underlying operation of the `i`-th call in flight
settles. -/
inductive CallEvent (ε : Type) where
  | acquire (caller : ℕ)
  | tryAcquire (caller : ℕ)
  | release (caller : ℕ)
  | settle (i : ℕ) (outcome : Except ε Bool)

def succeeded : LockOp → Except ε Bool → Bool
  | .acquire, .ok _ => true
  | .tryAcquire, .ok taken => taken
  | _, _ => false

/-- What a segment shows: an issued release of the underlying lock ends its being held, a
call that returns a hold adds a grant. -/
def Concurrent.observe (s : Concurrent ε) : Observation LockOp ε Bool Tag → Concurrent ε
  | .issued _ .release => { s with held := false }
  | .issued _ _ => s
  | .returned tag (.ok true) => { s with granted := tag.1 :: s.granted }
  | .returned _ _ => s

def Concurrent.call (s : Concurrent ε) (caller : ℕ) (c : Call) : Concurrent ε :=
  let (pool, seen) := s.pool.start (caller, c) c.body
  { s with pool := pool }.observe seen

/-- One step: a new call, or the settling of an operation. The hold of a caller ends when it
calls `release`. -/
def callStep (s : Concurrent ε) : CallEvent ε → Option (Concurrent ε)
  | .acquire c => some (s.call c .acquire)
  | .tryAcquire c => some (s.call c .tryAcquire)
  | .release c => some ({ s with granted := s.granted.erase c }.call c (.release false))
  | .settle i outcome =>
    (s.pool.settle i outcome).map fun (op, pool, seen) =>
      { s with pool := pool, held := s.held || succeeded op outcome }.observe seen

/-! ## What each step does

The calls in flight wait in one of three places, so the code after every `await` is known
from the operation alone (`WellFormed`), and one lemma says what a settling operation
does. -/

/-- How a call that waits for an operation goes on. -/
def resumeOf : LockOp → Except ε Bool → Body ε Bool
  | .acquire => afterAcquire
  | .tryAcquire => afterTryAcquire
  | .release => afterRelease

/-- Every call in flight is one of the three suspensions of the code. -/
def WellFormed (s : Concurrent ε) : Prop :=
  ∀ task ∈ s.pool.inFlight, task.resume = resumeOf task.op

/-- The counter after the operation of a call in flight settles: only a refused attempt and
a rejected release write it. -/
def settledCount (op : LockOp) (outcome : Except ε Bool) (refCount : ℤ) : ℤ :=
  match op, outcome with
  | .tryAcquire, .ok false => -1
  | .release, .error _ => refCount - 1
  | _, _ => refCount

/-- How the state changes when `acquire()` is called. -/
theorem callStep_acquire (s : Concurrent ε) (c : ℕ) :
    callStep s (.acquire c) = some (if s.refCount ≤ 0 then
        { s with pool := ⟨1, s.pool.inFlight ++ [⟨(c, .acquire), .acquire, afterAcquire⟩]⟩ }
      else { s with
        pool := ⟨s.refCount + 1, s.pool.inFlight⟩, granted := c :: s.granted }) := by
  simp only [callStep, Concurrent.call, Pool.start, advance_acquire]
  split_ifs <;> rfl

/-- How the state changes when `tryAcquire()` is called. -/
theorem callStep_tryAcquire (s : Concurrent ε) (c : ℕ) :
    callStep s (.tryAcquire c) = some (if s.refCount ≤ 0 then
        { s with
          pool := ⟨1, s.pool.inFlight ++ [⟨(c, .tryAcquire), .tryAcquire, afterTryAcquire⟩]⟩ }
      else { s with
        pool := ⟨s.refCount + 1, s.pool.inFlight⟩, granted := c :: s.granted }) := by
  simp only [callStep, Concurrent.call, Pool.start, advance_tryAcquire]
  split_ifs <;> rfl

/-- How the state changes when `release()` is called. -/
theorem callStep_release (s : Concurrent ε) (c : ℕ) :
    callStep s (.release c) = some (if s.refCount ≤ 0 then
        { s with granted := s.granted.erase c }
      else if s.refCount = 1 then
        ⟨⟨-1, s.pool.inFlight ++ [⟨(c, .release false), .release, afterRelease⟩]⟩,
          s.granted.erase c, false⟩
      else { s with
        pool := ⟨s.refCount - 1, s.pool.inFlight⟩, granted := s.granted.erase c }) := by
  simp only [callStep, Concurrent.call, Pool.start, advance_release, Bool.false_eq_true,
    false_or]
  split_ifs <;> rfl

/-- The code after an `await` never awaits again: it leaves `settledCount` behind and
returns a hold exactly when the operation took the lock. -/
theorem advance_resumeOf (op : LockOp) (outcome : Except ε Bool) (r : ℤ) :
    ∃ result, (resumeOf op outcome).advance r =
        (settledCount op outcome r, .finished result) ∧
      (result = .ok true ↔ succeeded op outcome = true) := by
  cases op with
  | acquire => cases outcome <;> exact ⟨_, rfl, by simp [succeeded, Except.map]⟩
  | tryAcquire =>
    rcases outcome with e | b
    · exact ⟨_, rfl, by simp [succeeded]⟩
    · cases b <;> exact ⟨_, rfl, by simp [succeeded]⟩
  | release => cases outcome <;> exact ⟨_, rfl, by simp [succeeded]⟩

/-- How the state changes when an operation settles. -/
theorem callStep_settle {s : Concurrent ε} (hwf : WellFormed s) {i : ℕ}
    {task : Task ℤ LockOp Bool ε Bool Tag} (htask : s.pool.inFlight[i]? = some task)
    (outcome : Except ε Bool) :
    callStep s (.settle i outcome) = some
      ⟨⟨settledCount task.op outcome s.refCount, s.pool.inFlight.eraseIdx i⟩,
        if succeeded task.op outcome then task.tag.1 :: s.granted else s.granted,
        s.held || succeeded task.op outcome⟩ := by
  obtain ⟨result, hadv, hresult⟩ := advance_resumeOf task.op outcome s.refCount
  have hresume := hwf task (List.mem_of_getElem? htask)
  simp only [callStep, Pool.settle, htask, Option.map_some, hresume, hadv,
    Pool.place_finished]
  by_cases hs : succeeded task.op outcome = true
  · rw [hresult.mpr hs]
    simp [Concurrent.observe, hs]
  · have hne : result ≠ .ok true := fun h => hs (hresult.mp h)
    simp only [hs]
    cases result with
    | error e => rfl
    | ok b =>
      cases b with
      | true => exact absurd rfl hne
      | false => rfl

/-- Nothing settles that is not in flight. -/
theorem callStep_settle_none {s : Concurrent ε} {i : ℕ} (h : s.pool.inFlight[i]? = none)
    (outcome : Except ε Bool) : callStep s (.settle i outcome) = none := by
  simp [callStep, Pool.settle, h]

/-- A call that joins the calls in flight at one of its own suspensions keeps them so. -/
theorem WellFormed.joined {s : Concurrent ε} (h : WellFormed s)
    {task : Task ℤ LockOp Bool ε Bool Tag} (htask : task.resume = resumeOf task.op) :
    ∀ u ∈ s.pool.inFlight ++ [task], u.resume = resumeOf u.op := by
  intro u hu
  rcases List.mem_append.mp hu with hu | hu
  · exact h u hu
  · rw [List.mem_singleton.mp hu]
    exact htask

/-- A step leaves the calls in flight as calls of the three methods. -/
theorem wellFormed_step (s : Concurrent ε) (e : CallEvent ε) (t : Concurrent ε)
    (h : WellFormed s) (hst : callStep s e = some t) : WellFormed t := by
  cases e with
  | acquire c =>
    rw [callStep_acquire] at hst
    cases hst
    split_ifs
    · exact h.joined rfl
    · exact h
  | tryAcquire c =>
    rw [callStep_tryAcquire] at hst
    cases hst
    split_ifs
    · exact h.joined rfl
    · exact h
  | release c =>
    rw [callStep_release] at hst
    cases hst
    split_ifs
    · exact h
    · exact h.joined rfl
    · exact h
  | settle i outcome =>
    cases htask : s.pool.inFlight[i]? with
    | none => simp [callStep_settle_none htask] at hst
    | some task =>
      rw [callStep_settle h htask] at hst
      cases hst
      intro u hu
      exact h u (List.mem_of_mem_eraseIdx hu)

/-- At the start nothing is in flight. -/
theorem wellFormed_fresh : WellFormed (freshConcurrent : Concurrent ε) :=
  fun _ h => absurd h List.not_mem_nil

/-! ## Counting the acquisitions in flight -/

/-- How many of the calls wait for an acquisition of the underlying lock. -/
def waiting (l : List (Task ℤ LockOp Bool ε Bool Tag)) : ℕ :=
  l.countP fun task => task.op ≠ .release

abbrev acquisitions (s : Concurrent ε) : ℕ := waiting s.pool.inFlight

/-- A call that joins waits for an acquisition, unless it is a release. -/
theorem waiting_joined (l : List (Task ℤ LockOp Bool ε Bool Tag))
    (task : Task ℤ LockOp Bool ε Bool Tag) :
    waiting (l ++ [task]) = waiting l + if task.op = .release then 0 else 1 := by
  unfold waiting
  rw [List.countP_append, List.countP_singleton]
  by_cases h : task.op = .release <;> simp [h]

/-- And no longer when that has settled. -/
theorem waiting_settled {l : List (Task ℤ LockOp Bool ε Bool Tag)} {i : ℕ}
    {task : Task ℤ LockOp Bool ε Bool Tag} (h : l[i]? = some task) :
    waiting l = waiting (l.eraseIdx i) + if task.op = .release then 0 else 1 := by
  obtain ⟨hlt, rfl⟩ := List.getElem?_eq_some_iff.mp h
  unfold waiting
  rw [← (List.getElem_cons_eraseIdx_perm hlt).countP_eq, List.countP_cons]
  by_cases h : l[i].op = .release <;> simp [h]

end Xnestjs.Program.SharedLock
