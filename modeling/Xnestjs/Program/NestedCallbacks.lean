import Xnestjs.Program.AwaitedCalls

/-!
# Callback forms of the shared lock

`acquire(callback)` and `tryAcquire(callback)` bracket a callback between the plain call and
a release. A callback may use the lock again, so the callers of these forms are programs:
`Nested` is a finite program of callback calls, each made after the previous one has
settled, whose callbacks are such programs themselves and end with a value or an exception.
`Entry` is any one of the calls, for runs that mix the forms.
-/

set_option autoImplicit false

namespace Xnestjs.Program.SharedLock

open Xnestjs.Model

variable {ε α : Type}

/-- A program of nested callback calls. What follows a call may depend on how it settled. -/
inductive Nested (ε α : Type) : Type where
  | finish (outcome : Except ε α)
  | acquire (callback : Nested ε α) (next : Except ε α → Nested ε α)
  | tryAcquire (callback : Nested ε α) (next : Except ε (Option α) → Nested ε α)

def Nested.body : Nested ε α → Body ε α
  | .finish outcome => .done outcome
  | .acquire callback next => (acquireWith callback.body).settled fun r => (next r).body
  | .tryAcquire callback next => (tryAcquireWith callback.body).settled fun r => (next r).body

/-- The methods of the object as a caller writes them, with or without a callback. -/
inductive Entry (ε α : Type) : Type where
  | acquire (callback : Option (Body ε α))
  | tryAcquire (callback : Option (Body ε α))
  | release (force : Bool)

/-- What a call resolves with. -/
inductive Reply (α : Type) : Type where
  | undefined
  | granted (answer : Bool)
  | returned (value : α)
  deriving DecidableEq, Repr

def Entry.body : Entry ε α → Body ε (Reply α)
  | .acquire none => do SharedLock.acquire; return .undefined
  | .acquire (some callback) => do return .returned (← acquireWith callback)
  | .tryAcquire none => do return .granted (← SharedLock.tryAcquire)
  | .tryAcquire (some callback) => do
    match ← tryAcquireWith callback with
    | none => return .granted false
    | some value => return .returned value
  | .release force => do SharedLock.release force; return .undefined

/-- The counter and the log after a sequential history of calls, each of them awaited. -/
def afterEntries (answer : ℕ → LockOp → Except ε Bool) :
    LockWorld ε → List (Entry ε α) → LockWorld ε
  | w, [] => w
  | w, c :: cs => afterEntries answer (c.body.exec answer w).1 cs

/-! ## The plain calls inside a callback form -/

/-- The plain `acquire()`, awaited. -/
theorem exec_plain_acquire (answer : ℕ → LockOp → Except ε Bool) (w : LockWorld ε) :
    acquire.exec answer w =
      if w.state ≤ 0 then
        (⟨1, w.asked ++ [(.acquire, answer w.asked.length .acquire)]⟩,
          (answer w.asked.length .acquire).map fun _ => ())
      else (⟨w.state + 1, w.asked⟩, .ok ()) := by
  rw [Async.exec_eq_advance]
  unfold acquire
  split_ifs with h
  · simp only [Async.bind_eq, Async.bind_get, Async.advance_read, h, if_true, Async.bind_set,
      Async.advance_write, Async.bind_perform, Async.advance_await]
    cases answer w.asked.length .acquire <;> rfl
  · simp only [Async.bind_eq, Async.bind_get, Async.advance_read, h, if_false,
      Async.advance_set]

/-- The plain `tryAcquire()`, awaited. -/
theorem exec_plain_tryAcquire (answer : ℕ → LockOp → Except ε Bool) (w : LockWorld ε) :
    tryAcquire.exec answer w =
      if w.state ≤ 0 then
        (⟨attemptCount (answer w.asked.length .tryAcquire),
          w.asked ++ [(.tryAcquire, answer w.asked.length .tryAcquire)]⟩,
          answer w.asked.length .tryAcquire)
      else (⟨w.state + 1, w.asked⟩, .ok true) :=
  exec_tryAcquire answer w

/-- A release never rejects, however the underlying one settles. -/
theorem exec_plain_release (answer : ℕ → LockOp → Except ε Bool) (w : LockWorld ε)
    (force : Bool) :
    (release force).exec answer w =
      if w.state ≤ 0 then (w, .ok ())
      else if force ∨ w.state = 1 then
        (⟨freedCount (answer w.asked.length .release),
          w.asked ++ [(.release, answer w.asked.length .release)]⟩, .ok ())
      else (⟨w.state - 1, w.asked⟩, .ok ()) := by
  rw [Async.exec_eq_advance]
  unfold release
  split_ifs with h hf
  · simp [h]
  · simp only [Async.bind_eq, Async.bind_get, Async.advance_read, h, if_false, hf, if_true,
      Async.bind_set, Async.advance_write, Async.bind_attempt, Async.advance_await]
    cases answer w.asked.length .release <;> rfl
  · simp [h, hf]

/-- A release resolves. -/
theorem exec_release_ok (answer : ℕ → LockOp → Except ε Bool) (w : LockWorld ε)
    (force : Bool) : ((release force).exec answer w).2 = .ok () := by
  rw [exec_plain_release]
  split_ifs <;> rfl

/-- The bracket around a callback, once the lock is granted. -/
theorem exec_bracket (answer : ℕ → LockOp → Except ε Bool) (callback : Body ε α)
    (w : LockWorld ε) :
    (callback.tryFinally (release false)).exec answer w =
      (((release false).exec answer (callback.exec answer w).1).1,
        (callback.exec answer w).2) := by
  have hok := exec_release_ok answer (callback.exec answer w).1 false
  rw [Async.exec_tryFinally]
  generalize (release false).exec answer (callback.exec answer w).1 = settled at hok ⊢
  obtain ⟨w', r⟩ := settled
  cases hok
  rfl

/-- `acquire(callback)` is the bracket after a granted `acquire()`, and rejects as that does. -/
theorem exec_acquireWith (answer : ℕ → LockOp → Except ε Bool) (callback : Body ε α)
    (w : LockWorld ε) :
    (acquireWith callback).exec answer w = match acquire.exec answer w with
      | (w', .ok _) => (callback.tryFinally (release false)).exec answer w'
      | (w', .error e) => (w', .error e) := by
  refine (Async.exec_bind answer acquire
    (fun _ => callback.tryFinally (release false)) w).trans ?_
  rcases acquire.exec answer w with ⟨w', e | u⟩ <;> rfl

/-- `tryAcquire(callback)` is the bracket after a granted attempt, and nothing after a refused one.
-/
theorem exec_tryAcquireWith (answer : ℕ → LockOp → Except ε Bool) (callback : Body ε α)
    (w : LockWorld ε) :
    (tryAcquireWith callback).exec answer w = match tryAcquire.exec answer w with
      | (w', .ok true) => ((some <$> callback).tryFinally (release false)).exec answer w'
      | (w', .ok false) => (w', .ok none)
      | (w', .error e) => (w', .error e) := by
  refine (Async.exec_bind answer tryAcquire _ w).trans ?_
  rcases tryAcquire.exec answer w with ⟨w', e | b⟩
  · rfl
  · cases b <;> rfl

/-- Wrapping the value that a callback returns changes nothing else about it. -/
theorem exec_some_map (answer : ℕ → LockOp → Except ε Bool) (callback : Body ε α)
    (w : LockWorld ε) :
    (some <$> callback).exec answer w =
      ((callback.exec answer w).1, (callback.exec answer w).2.map some) := by
  refine (Async.exec_bind answer callback (fun a => .done (.ok (some a))) w).trans ?_
  rcases callback.exec answer w with ⟨w', e | a⟩ <;> rfl

/-- It passes through the same states. -/
theorem passed_some_map (answer : ℕ → LockOp → Except ε Bool) (callback : Body ε α)
    (w : LockWorld ε) : (some <$> callback).passed answer w = callback.passed answer w := by
  refine (Async.passed_bind answer callback (fun a => .done (.ok (some a))) w).trans ?_
  rcases callback.exec answer w with ⟨w', e | a⟩ <;> simp [Async.passed]

end Xnestjs.Program.SharedLock
