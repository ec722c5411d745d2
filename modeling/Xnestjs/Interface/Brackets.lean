import Xnestjs.Interface.HoldCounter
import Xnestjs.Program.NestedCallbacks

/-!
# What a callback form of the shared lock promises

A bracket takes the lock, runs its callback once, gives the hold back and ends as the
callback ended. `Bracketed` says so of one call, in terms of everything the call passes
through; `Disciplined` says it of every call that a nested program makes, at any depth. What the
program does beside its calls is nothing: `runCalls` says what it comes to, call by call.
-/

set_option autoImplicit false

namespace Xnestjs.Interface

open Xnestjs.Model Xnestjs.Program.SharedLock

variable {ε α β γ : Type}

/-- The underlying lock has been acquired and not released since. -/
def LockHeld (w : LockWorld ε) : Prop :=
  (w.asked.filterMap lockEvent).getLast? = some true

/-- The lock is granted in `w`, the callback runs once from there with the lock held
throughout, one release follows, and the call ends with the outcome of the callback and the
count it found. -/
structure Bracketed (answer : ℕ → LockOp → Except ε Bool) (grant : Body ε γ)
    (callback : Body ε α) (ending : Except ε α → Except ε β) (call : Body ε β)
    (w : LockWorld ε) : Prop where
  runs_once : call.passed answer w =
    grant.passed answer w ++ callback.passed answer (grant.exec answer w).1 ++
      (release false).passed answer (callback.exec answer (grant.exec answer w).1).1
  held : ∀ v ∈ callback.during answer (grant.exec answer w).1, 1 ≤ v.state ∧ LockHeld v
  outcome : (call.exec answer w).2 =
    ending (callback.exec answer (grant.exec answer w).1).2
  restores : max (call.exec answer w).1.state 0 = max w.state 0

/-- The attempt is refused: the call does what the attempt does and nothing else, resolves
with `false` and leaves the count as it was. -/
structure Refused (answer : ℕ → LockOp → Except ε Bool) (call : Body ε (Option α))
    (w : LockWorld ε) : Prop where
  only_asks : call.passed answer w = tryAcquire.passed answer w
  ends : call.exec answer w = ((tryAcquire.exec answer w).1, .ok none)
  restores : max (call.exec answer w).1.state 0 = max w.state 0

/-- Every callback call that the program makes from `w` keeps its promise: an `acquire` is
granted, a `tryAcquire` is granted or refused, and the callbacks of granted calls are
disciplined themselves. -/
def Disciplined (answer : ℕ → LockOp → Except ε Bool) : Nested ε α → LockWorld ε → Prop
  | .finish _, _ => True
  | .acquire callback next, w =>
    ((acquire.exec answer w).2 = .ok () ∧
      Bracketed answer acquire callback.body id (acquireWith callback.body) w ∧
      Disciplined answer callback (acquire.exec answer w).1) ∧
    Disciplined answer (next ((acquireWith callback.body).exec answer w).2)
      ((acquireWith callback.body).exec answer w).1
  | .tryAcquire callback next, w =>
    ((tryAcquire.exec answer w).2 = .ok true ∧
        Bracketed answer tryAcquire callback.body (Except.map some)
          (tryAcquireWith callback.body) w ∧
        Disciplined answer callback (tryAcquire.exec answer w).1 ∨
      (tryAcquire.exec answer w).2 = .ok false ∧
        Refused answer (tryAcquireWith callback.body) w) ∧
    Disciplined answer (next ((tryAcquireWith callback.body).exec answer w).2)
      ((tryAcquireWith callback.body).exec answer w).1

/-- What a program comes to: the states that it passes through, the one that it leaves and its
outcome. -/
structure ProgramRun (ε α : Type) where
  passed : List (LockWorld ε)
  leaves : LockWorld ε
  outcome : Except ε α

/-- The calls that a program makes from `w`, one after the other, up to the `finish` that is
reached. -/
def runCalls (answer : ℕ → LockOp → Except ε Bool) : Nested ε α → LockWorld ε → ProgramRun ε α
  | .finish outcome, w => ⟨[], w, outcome⟩
  | .acquire callback next, w =>
    let call := acquireWith callback.body
    let rest := runCalls answer (next (call.exec answer w).2) (call.exec answer w).1
    { rest with passed := call.passed answer w ++ rest.passed }
  | .tryAcquire callback next, w =>
    let call := tryAcquireWith callback.body
    let rest := runCalls answer (next (call.exec answer w).2) (call.exec answer w).1
    { rest with passed := call.passed answer w ++ rest.passed }

/-- The program passes through its calls and nothing else, and ends as its last `finish` says. -/
structure RunsItsCalls (answer : ℕ → LockOp → Except ε Bool) (p : Nested ε α)
    (w : LockWorld ε) : Prop where
  passes : p.body.passed answer w = (runCalls answer p w).passed
  ends : p.body.exec answer w = ((runCalls answer p w).leaves, (runCalls answer p w).outcome)

end Xnestjs.Interface
