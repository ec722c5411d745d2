import Xnestjs.Program.SharedLock

/-!
# Calls on the shared lock, one after the other

A sequential run makes its calls one at a time and awaits each before the next. The
underlying lock answers through `answer`: how the `n`-th operation asked of it settles.
`AwaitedCall` records what one call of the run did.
-/

set_option autoImplicit false

namespace Xnestjs.Program.SharedLock

open Xnestjs.Model

variable {ε : Type}

/-- The counter and the operations asked of the underlying lock so far. -/
abbrev LockWorld (ε : Type) := Async.World ℤ LockOp Bool ε

/-- What one awaited call did: the operations it asked for with their outcomes, its own
result (whether it granted a hold), and the counter it left. -/
structure AwaitedCall (ε : Type) where
  call : Call
  asked : List (LockOp × Except ε Bool)
  result : Except ε Bool
  refCount : ℤ

def AwaitedCall.granted (a : AwaitedCall ε) : Bool :=
  match a.result with
  | .ok granted => granted
  | .error _ => false

/-- `sharedLock` defines `_refCount` as 0. SOURCE: shared-lock.ts:62-67 -/
def freshLock : LockWorld ε := ⟨0, []⟩

def awaitCall (answer : ℕ → LockOp → Except ε Bool) (w : LockWorld ε) (c : Call) :
    LockWorld ε × AwaitedCall ε :=
  let (w', result) := c.body.exec answer w
  (w', ⟨c, w'.asked.drop w.asked.length, result, w'.state⟩)

/-- Make the calls in order, each awaited before the next. -/
def awaitCalls (answer : ℕ → LockOp → Except ε Bool) :
    LockWorld ε → List Call → LockWorld ε × List (AwaitedCall ε)
  | w, [] => (w, [])
  | w, c :: cs =>
    let (w', a) := awaitCall answer w c
    let (w'', as) := awaitCalls answer w' cs
    (w'', a :: as)

def succeed : ℕ → LockOp → Except Empty Bool := fun _ _ => .ok true

/-- A run has one record for each call, in order. -/
theorem awaitCalls_calls (answer : ℕ → LockOp → Except ε Bool) (w : LockWorld ε)
    (calls : List Call) : (awaitCalls answer w calls).2.map AwaitedCall.call = calls := by
  induction calls generalizing w with
  | nil => rfl
  | cons c cs ih => exact congrArg (c :: ·) (ih (awaitCall answer w c).1)

/-! ## One awaited call -/

/-- The counter that a `tryAcquire()` from "free" leaves, by how the attempt settles. -/
def attemptCount : Except ε Bool → ℤ
  | .ok true => 1
  | .ok false => -1
  | .error _ => 1

/-- The counter that a `release()` to "free" leaves, by how the release settles. -/
def freedCount : Except ε Bool → ℤ
  | .ok _ => -1
  | .error _ => -2

/-- An awaited `acquire()` asks the underlying lock when the count is at most 0. -/
theorem exec_acquire (answer : ℕ → LockOp → Except ε Bool) (w : LockWorld ε) :
    Call.acquire.body.exec answer w =
      if w.state ≤ 0 then
        (⟨1, w.asked ++ [(.acquire, answer w.asked.length .acquire)]⟩,
          (answer w.asked.length .acquire).map fun _ => true)
      else (⟨w.state + 1, w.asked⟩, .ok true) := by
  rw [Async.exec_eq_advance, advance_acquire]
  split_ifs <;> rfl

/-- So does an awaited `tryAcquire()`, which counts by how the attempt settles. -/
theorem exec_tryAcquire (answer : ℕ → LockOp → Except ε Bool) (w : LockWorld ε) :
    Call.tryAcquire.body.exec answer w =
      if w.state ≤ 0 then
        (⟨attemptCount (answer w.asked.length .tryAcquire),
          w.asked ++ [(.tryAcquire, answer w.asked.length .tryAcquire)]⟩,
          answer w.asked.length .tryAcquire)
      else (⟨w.state + 1, w.asked⟩, .ok true) := by
  rw [Async.exec_eq_advance, advance_tryAcquire]
  split_ifs with h
  · simp only
    rcases answer w.asked.length .tryAcquire with e | b
    · rfl
    · cases b <;> rfl
  · rfl

/-- An awaited `release(force)` asks for the release of the last hold, or of all by force. -/
theorem exec_release (answer : ℕ → LockOp → Except ε Bool) (w : LockWorld ε) (force : Bool) :
    (Call.release force).body.exec answer w =
      if w.state ≤ 0 then (w, .ok false)
      else if force ∨ w.state = 1 then
        (⟨freedCount (answer w.asked.length .release),
          w.asked ++ [(.release, answer w.asked.length .release)]⟩, .ok false)
      else (⟨w.state - 1, w.asked⟩, .ok false) := by
  rw [Async.exec_eq_advance, advance_release]
  split_ifs with h hf
  · rfl
  · simp only
    cases answer w.asked.length .release <;> rfl
  · rfl

/-- The record of a call has what the call adds to the log. -/
theorem awaitCall_asked (answer : ℕ → LockOp → Except ε Bool) (w : LockWorld ε) (c : Call) :
    (awaitCall answer w c).1.asked = w.asked ++ (awaitCall answer w c).2.asked := by
  cases c with
  | acquire =>
    simp only [awaitCall, exec_acquire]
    split_ifs <;> simp
  | tryAcquire =>
    simp only [awaitCall, exec_tryAcquire]
    split_ifs <;> simp
  | release force =>
    simp only [awaitCall, exec_release]
    split_ifs <;> simp

end Xnestjs.Program.SharedLock
