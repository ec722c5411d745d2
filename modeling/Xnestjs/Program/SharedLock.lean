import Xnestjs.Model.Async
import Mathlib.Data.Int.Notation
import Mathlib.Tactic.SplitIfs

/-!
# The object that `sharedLock` builds

`sharedLock(lock)` wraps a lock of the redis-semaphore package into an object
`_sharedLock` that counts its holders in `_refCount` and asks the underlying lock only
when the count leaves or reaches "free". This file is the object: its three methods, each
one an `async` body over the shared counter. The counter is the only state that calls
share, so it is the state of the bodies.

`acquire` and `tryAcquire` take an optional callback in the source. The form with a
callback is a separate body here (`acquireWith`, `tryAcquireWith`): it calls the plain form
and releases in a `finally`.
-/

set_option autoImplicit false

namespace Xnestjs.Program.SharedLock

open Xnestjs.Model

/-- The operations of the underlying lock that the object awaits. `acquire` and `release`
resolve without a value, `tryAcquire` with whether the lock was taken; the value of the
first two is never read. -/
inductive LockOp where
  | acquire
  | tryAcquire
  | release
  deriving DecidableEq, Repr

/-- A method body: its state is `_refCount`, its rejections have type `ε`. -/
abbrev Body (ε α : Type) := Async ℤ LockOp Bool ε α

variable {ε α : Type}

/-- `acquire()`. SOURCE: shared-lock.ts:20-25 -/
def acquire : Body ε Unit := do
  let refCount ← Async.get
  if refCount ≤ 0 then
    Async.set 1
    let _ ← Async.perform .acquire
    return
  Async.set (refCount + 1)

/-- `tryAcquire()`. A refusal leaves `-1`. SOURCE: shared-lock.ts:37-44 -/
def tryAcquire : Body ε Bool := do
  let refCount ← Async.get
  if refCount ≤ 0 then
    Async.set 1
    if ← Async.perform .tryAcquire then return true
    Async.set (-1)
    return false
  Async.set (refCount + 1)
  return true

/-- `release(force)`. The counter is overwritten before the underlying release is awaited,
and a rejection of it falls through to the decrement. SOURCE: shared-lock.ts:46-58 -/
def release (force : Bool) : Body ε Unit := do
  let refCount ← Async.get
  if refCount ≤ 0 then return
  if force ∨ refCount = 1 then
    Async.set (-1)
    match ← Async.attempt .release with
    | .ok _ => return
    | .error _ => pure ()
  let refCount ← Async.get
  Async.set (refCount - 1)

/-- `acquire(callback)`. SOURCE: shared-lock.ts:12-19 -/
def acquireWith (callback : Body ε α) : Body ε α := do
  acquire
  Async.tryFinally callback (release false)

/-- `tryAcquire(callback)`; `none` is the `false` of a refused attempt.
SOURCE: shared-lock.ts:29-36 -/
def tryAcquireWith (callback : Body ε α) : Body ε (Option α) := do
  if !(← tryAcquire) then return none
  Async.tryFinally (some <$> callback) (release false)

/-- The plain calls a caller can make on the object. -/
inductive Call where
  | acquire
  | tryAcquire
  | release (force : Bool)
  deriving DecidableEq, Repr

/-- The body of a call; the result tells whether the call granted a hold. -/
def Call.body : Call → Body ε Bool
  | .acquire => do SharedLock.acquire; return true
  | .tryAcquire => SharedLock.tryAcquire
  | .release force => do SharedLock.release force; return false

/-- The operation of the underlying lock that belongs to a call. -/
def opOf : Call → LockOp
  | .acquire => .acquire
  | .tryAcquire => .tryAcquire
  | .release _ => .release

/-! ## One segment of each call

What a call does before its first `await`, and how it goes on when the operation it waits
for settles. Every later proof reads the bodies through these lemmas. -/

/-- How an `acquire()` that waits for the underlying lock goes on. -/
def afterAcquire (r : Except ε Bool) : Body ε Bool := .done (r.map fun _ => true)

/-- How a `tryAcquire()` that waits for the underlying lock goes on. -/
def afterTryAcquire : Except ε Bool → Body ε Bool
  | .ok true => .done (.ok true)
  | .ok false => .write (-1) (.done (.ok false))
  | .error e => .done (.error e)

/-- How a `release()` that waits for the underlying lock goes on. -/
def afterRelease : Except ε Bool → Body ε Bool
  | .ok _ => .done (.ok false)
  | .error _ => .read fun refCount => .write (refCount - 1) (.done (.ok false))

/-- The first segment of `acquire()`. -/
theorem advance_acquire (r : ℤ) :
    (Call.acquire.body : Body ε Bool).advance r =
      if r ≤ 0 then (1, .suspended .acquire afterAcquire) else (r + 1, .finished (.ok true)) := by
  unfold Call.body SharedLock.acquire
  split_ifs with h
  · simp [h]
    funext x
    cases x <;> rfl
  · simp [h]

/-- The first segment of `tryAcquire()`. -/
theorem advance_tryAcquire (r : ℤ) :
    (Call.tryAcquire.body : Body ε Bool).advance r =
      if r ≤ 0 then (1, .suspended .tryAcquire afterTryAcquire)
      else (r + 1, .finished (.ok true)) := by
  unfold Call.body tryAcquire
  split_ifs with h
  · simp [h]
    funext x
    rcases x with e | b
    · rfl
    · cases b <;> rfl
  · simp [h]

/-- The first segment of `release(force)`. -/
theorem advance_release (force : Bool) (r : ℤ) :
    ((Call.release force).body : Body ε Bool).advance r =
      if r ≤ 0 then (r, .finished (.ok false))
      else if force ∨ r = 1 then (-1, .suspended .release afterRelease)
      else (r - 1, .finished (.ok false)) := by
  unfold Call.body release
  split_ifs with h hf
  · simp [h]
  · simp [h, hf]
    funext x
    cases x <;> rfl
  · simp [h, hf]

end Xnestjs.Program.SharedLock
