import Xnestjs.Program.AwaitedCalls
import Mathlib.Data.List.Chain

/-!
# What the shared lock is for: a plain counter of holds

A lock shared inside one process is meant to behave like a number `n` of holds over an
underlying lock that is taken when the first hold is granted and given back when the last
one goes. This file states that purpose without the code: how `n` moves with each call
(`holdsAfter`), when the underlying lock may be asked for anything (`edgeOps`), and what
the underlying lock should see of a whole run (`Alternates`). `Refines` puts the first two
along a run of awaited calls.
-/

set_option autoImplicit false

namespace Xnestjs.Interface

open Xnestjs.Program.SharedLock

variable {ε : Type}

/-- The number of holds after a call: a granted acquisition adds one, a refused attempt
none, a release takes one away unless there is none, a forced release takes all. -/
def holdsAfter (n : ℕ) (granted : Bool) : Call → ℕ
  | .acquire => if granted then n + 1 else n
  | .tryAcquire => if granted then n + 1 else n
  | .release false => n - 1
  | .release true => 0

/-- What a call that moves the count from `n` to `n'` may ask of the underlying lock: its
own acquisition on the step from 0 to 1, the release on a step to 0, the attempt that was
refused at 0, and nothing else. -/
def edgeOps (n n' : ℕ) (c : Call) : List LockOp :=
  if n = 0 ∧ n' = 1 then [opOf c]
  else if 1 ≤ n ∧ n' = 0 then [.release]
  else if n = 0 ∧ c = .tryAcquire then [.tryAcquire]
  else []

/-- The calls follow the counter from `n`: after each of them `max(_refCount, 0)` is the
count, and the underlying lock was asked at the edges only. -/
def Refines : ℕ → List (AwaitedCall ε) → Prop
  | _, [] => True
  | n, a :: as =>
    max a.refCount 0 = holdsAfter n a.granted a.call ∧
    a.asked.map Prod.fst = edgeOps n (holdsAfter n a.granted a.call) a.call ∧
    Refines (holdsAfter n a.granted a.call) as

def holdsAtEnd : ℕ → List (AwaitedCall ε) → ℕ
  | n, [] => n
  | n, a :: as => holdsAtEnd (holdsAfter n a.granted a.call) as

/-- What counts in the order of the underlying operations: a successful acquisition is
`true`, a release call is `false`, a refused or rejected acquisition is nothing. -/
def lockEvent : LockOp × Except ε Bool → Option Bool
  | (.acquire, .ok _) => some true
  | (.tryAcquire, .ok true) => some true
  | (.release, _) => some false
  | _ => none

/-- Successful acquisitions and release calls take turns, an acquisition first, and the
last of them is an acquisition exactly when there are holds. -/
structure Alternates (events : List Bool) (n : ℕ) : Prop where
  chain : events.IsChain (· ≠ ·)
  starts : events.head? ≠ some false
  ends : events.getLast? = some true ↔ 0 < n

/-- Before anything is asked there are no holds. -/
theorem alternates_nil : Alternates [] 0 := ⟨.nil, by simp, by simp⟩

/-- An acquisition comes while there are no holds. -/
theorem Alternates.acquire {events : List Bool} {n : ℕ} (h : Alternates events 0)
    (hn : 0 < n) : Alternates (events ++ [true]) n := by
  have hlast : events.getLast? ≠ some true := fun hl => absurd (h.ends.mp hl) (lt_irrefl 0)
  refine ⟨?_, ?_, by simp [hn]⟩
  · refine h.chain.append (.singleton _) ?_
    intro x hx y hy hxy
    simp only [List.head?_cons, Option.mem_some_iff] at hy
    exact hlast (by rw [hx, hxy, hy])
  · cases events with
    | nil => simp
    | cons e es => simpa using h.starts

/-- A release comes while there are some. -/
theorem Alternates.release {events : List Bool} {n : ℕ} (h : Alternates events n)
    (hn : 0 < n) : Alternates (events ++ [false]) 0 := by
  have hlast := h.ends.mpr hn
  refine ⟨?_, ?_, by simp⟩
  · refine h.chain.append (.singleton _) ?_
    intro x hx y hy hxy
    simp only [List.head?_cons, Option.mem_some_iff] at hy
    rw [Option.mem_def, hlast, Option.some.injEq] at hx
    rw [← hx, ← hy] at hxy
    exact absurd hxy (by decide)
  · cases events with
    | nil => simp at hlast
    | cons e es => simpa using h.starts

/-- Between the two the number of holds may change. -/
theorem Alternates.between {events : List Bool} {n n' : ℕ} (h : Alternates events n)
    (hn : 0 < n ↔ 0 < n') : Alternates events n' :=
  ⟨h.chain, h.starts, h.ends.trans hn⟩

/-- `n` holds are outstanding, and the underlying lock has been asked accordingly. -/
structure Holding (w : LockWorld ε) (n : ℕ) : Prop where
  count : max w.state 0 = n
  log : Alternates (w.asked.filterMap lockEvent) n

end Xnestjs.Interface
