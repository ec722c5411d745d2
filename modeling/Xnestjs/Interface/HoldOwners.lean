import Xnestjs.Interface.HoldCounter
import Xnestjs.Model.Run

/-!
# Who holds the shared lock when releases can be forced

`_refCount` is an anonymous number. To say whose hold a release ends, a run is watched from
outside: `active` are the callers granted since the last forced release who have not called
`release` yet, `revoked` the callers whose hold an earlier forced release took while they
still had their own `release` to make. The code sees none of this; `ownerStep` makes the
calls of the code and keeps these two lists beside it. Every call is awaited and the
underlying operations succeed, so rejections have the type `Empty`.
-/

set_option autoImplicit false

namespace Xnestjs.Interface

open Xnestjs.Model Xnestjs.Program.SharedLock

/-- A caller taking the lock, a caller making the one `release` its hold calls for, and a
forced release. -/
inductive OwnerEvent where
  | acquire (caller : ℕ)
  | release (caller : ℕ)
  | force
  deriving DecidableEq, Repr

/-- The lock, the callers holding it since the last forced release, and the callers whose
hold was revoked before they released. -/
structure OwnedLock where
  lock : LockWorld Empty
  active : List ℕ
  revoked : List ℕ

def freshOwned : OwnedLock := ⟨freshLock, [], []⟩

/-- One awaited call. A caller acquires when it has no release left to make, and releases
when it has one. -/
def ownerStep (s : OwnedLock) : OwnerEvent → Option OwnedLock
  | .acquire c =>
    if c ∈ s.active ∨ c ∈ s.revoked then none
    else
      let (lock, call) := awaitCall succeed s.lock .acquire
      some { s with lock := lock, active := if call.granted then c :: s.active else s.active }
  | .release c =>
    if c ∈ s.active then
      some { s with
        lock := (awaitCall succeed s.lock (.release false)).1, active := s.active.erase c }
    else if c ∈ s.revoked then
      some { s with
        lock := (awaitCall succeed s.lock (.release false)).1, revoked := s.revoked.erase c }
    else none
  | .force =>
    some ⟨(awaitCall succeed s.lock (.release true)).1, [], s.revoked ++ s.active⟩

def UnderlyingHeld (w : LockWorld Empty) : Prop :=
  (w.asked.filterMap lockEvent).getLast? = some true

instance (w : LockWorld Empty) : Decidable (UnderlyingHeld w) :=
  inferInstanceAs (Decidable ((w.asked.filterMap lockEvent).getLast? = some true))

/-- Every hold granted since the last forced release has its reference, and the underlying
lock is not released while there is such a hold. -/
def Backed (s : OwnedLock) : Prop :=
  (s.active.length : ℤ) ≤ max s.lock.state 0 ∧ (s.active ≠ [] → UnderlyingHeld s.lock)

instance (s : OwnedLock) : Decidable (Backed s) :=
  inferInstanceAs (Decidable (_ ∧ _))

/-- A release made by a revoked caller comes while no newer hold is outstanding. -/
def LateReleaseIdle (s : OwnedLock) : OwnerEvent → Prop
  | .release c => c ∈ s.revoked → s.active = []
  | _ => True

end Xnestjs.Interface
