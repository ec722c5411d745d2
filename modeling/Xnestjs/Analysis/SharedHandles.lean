import Xnestjs.Program.RedisClient
import Xnestjs.Model.Run

/-!
# The handles a `RedisClient` gives out

`sharedLock` returns the lock it was given and not the counting object it built around it.
The lock has no `refCount`, so the registry never sees a handle in use: whatever is held,
an `obtain` of the same kind and key creates another lock, and every acquisition goes to
the underlying lock.
-/

set_option autoImplicit false

namespace Xnestjs.Analysis

open Xnestjs.Model Xnestjs.Program.SharedLock Xnestjs.Program.RedisClient

/-- What a user of one client does: obtain a lock, or make an awaited call on a handle. -/
inductive ClientEvent where
  | obtainMutex (key : String)
  | obtainSemaphore (key : String) (limit : ℕ)
  | acquire (handle : ℕ)
  | tryAcquire (handle : ℕ)
  | release (handle : ℕ)
  deriving DecidableEq, Repr

/-- The client, and for each handle its grants minus its releases. -/
structure HandleRun where
  client : Client Handle
  holds : ℕ → ℤ

def freshHandleRun : HandleRun := ⟨.fresh, fun _ => 0⟩

/-- A call on a handle, whose object is replaced by what the call makes of it. -/
def HandleRun.call (s : HandleRun) (h : ℕ) (c : Call) (taken : ℤ) : Option HandleRun :=
  s.client.heap[h]?.map fun o =>
    { client := { s.client with heap := s.client.heap.set h (o.invoke c).1 }
      holds := Function.update s.holds h
        (s.holds h + (if (o.invoke c).2.2 then 1 else 0) - taken) }

/-- One step of a run on a client; the underlying operations succeed. -/
def clientStep (s : HandleRun) : ClientEvent → Option HandleRun
  | .obtainMutex key => some { s with client := (obtainMutex sharedLockApi s.client key).2 }
  | .obtainSemaphore key limit =>
    some { s with client := (obtainSemaphore sharedLockApi s.client key limit).2 }
  | .acquire h => s.call h .acquire 0
  | .tryAcquire h => s.call h .tryAcquire 0
  | .release h => s.call h (.release false) 1

/-- Obtain a lock of the kind and key of another one, with any limit. -/
def obtainAgain {L : Type} (api : LockApi L) (c : Client L) (lock : RedisLock) (limit : ℕ) :
    Except String ℕ × Client L :=
  match lock.cls with
  | .mutex => obtainMutex api c lock.key
  | .semaphore => obtainSemaphore api c lock.key limit

/-- A handle works as the shared, re-entrant lock it is declared to be: its `refCount` is
the number of its holds, obtaining its kind and key again gives it back, and a further
acquisition of it is granted without the underlying lock. -/
def SharesHolds (s : HandleRun) (h : ℕ) (o : Handle) : Prop :=
  o.refCount = some (s.holds h) ∧
  (∀ limit, (obtainAgain sharedLockApi s.client o.lock limit).1 = .ok h) ∧
  (o.invoke .acquire).2 = ([], true)

/-- Every object that the client gave out is a lock of redis-semaphore. -/
def AllPlain (c : Client Handle) : Prop := ∀ o ∈ c.heap, ∃ lock, o = .plain lock

/-- INTERNAL: an `obtain` gives out what `sharedLock` returns. SOURCE: shared-lock.ts:68 -/
theorem AllPlain.obtain {c : Client Handle} (hc : AllPlain c) (kind : String)
    (lock : RedisLock) : AllPlain (obtain sharedLockApi c kind lock).2 := by
  intro o ho
  rcases obtain_cases sharedLockApi c kind lock with
    ⟨h, l, -, -, -, heq⟩ | ⟨h, l, -, -, -, heq⟩ | ⟨-, heq⟩
  · rw [heq] at ho
    exact hc o ho
  · rw [heq] at ho
    exact hc o ho
  · rw [heq] at ho
    rcases List.mem_append.mp ho with ho | ho
    · exact hc o ho
    · have hnew : o = .plain lock := List.mem_singleton.mp ho
      exact ⟨lock, hnew⟩

/-- INTERNAL: a call on a plain lock leaves it a plain lock. -/
theorem AllPlain.call {s t : HandleRun} (hs : AllPlain s.client) {h : ℕ} {c : Call} {taken : ℤ}
    (hcall : s.call h c taken = some t) : AllPlain t.client := by
  intro o ho
  obtain ⟨old, hold, rfl⟩ := Option.map_eq_some_iff.mp hcall
  rcases List.mem_or_eq_of_mem_set ho with ho | rfl
  · exact hs o ho
  · obtain ⟨lock, rfl⟩ := hs old (List.mem_of_getElem? hold)
    exact ⟨lock, rfl⟩

/-- INTERNAL: a step adds no lock with a counter. SOURCE: redis-client.ts:40-52,
shared-lock.ts:61-69 -/
theorem allPlain_step (s : HandleRun) (e : ClientEvent) (t : HandleRun)
    (hs : AllPlain s.client) (hst : clientStep s e = some t) : AllPlain t.client := by
  cases e with
  | obtainMutex key =>
    cases hst
    exact hs.obtain _ _
  | obtainSemaphore key limit =>
    cases hst
    exact hs.obtain _ _
  | acquire h => exact hs.call hst
  | tryAcquire h => exact hs.call hst
  | release h => exact hs.call hst

/-- INTERNAL: in every run all handles are locks of redis-semaphore. -/
theorem plain_of_run {es : List ClientEvent} {s : HandleRun}
    (hrun : runFrom clientStep freshHandleRun es = some s) : AllPlain s.client := by
  have hfresh : AllPlain freshHandleRun.client := fun o ho => absurd ho List.not_mem_nil
  exact invariant_of_run (I := fun s => AllPlain s.client) allPlain_step hfresh hrun

/-- INTERNAL: an `obtain` always creates a lock, the registered one is never in use.
SOURCE: redis-client.ts:40-52 -/
theorem obtain_creates {c : Client Handle} (hplain : AllPlain c)
    (kind : String) (lock : RedisLock) :
    obtain sharedLockApi c kind lock = (.ok c.heap.length, ⟨c.heap ++ [.plain lock],
      Function.update c.locks lock.key (some c.heap.length)⟩) := by
  apply obtain_created
  intro h o hentry
  obtain ⟨h', -, hheap⟩ := Option.bind_eq_some_iff.mp hentry
  obtain ⟨o', ho', heq⟩ := Option.map_eq_some_iff.mp hheap
  cases heq
  obtain ⟨l, rfl⟩ := hplain o (List.mem_of_getElem? ho')
  rfl

/-- **A handle is never shared.** In every run of obtains and awaited calls on one client,
for every handle given out, held or not: its `refCount` is not the number of its holds,
obtaining its kind and key again gives another handle, and acquiring that one, like
acquiring the handle itself, asks the underlying lock for another acquisition.
SOURCE: shared-lock.ts:4-69, redis-client.ts:40-72 -/
theorem handle_never_shared (es : List ClientEvent) {s : HandleRun}
    (hrun : runFrom clientStep freshHandleRun es = some s) {h : ℕ} {o : Handle}
    (ho : s.client.heap[h]? = some o) :
    ¬ SharesHolds s h o ∧ o.refCount ≠ some (s.holds h) ∧
    (o.invoke .acquire).2.1 = [.acquire] ∧
    ∀ limit, ∃ h' o', (obtainAgain sharedLockApi s.client o.lock limit).1 = .ok h' ∧ h' ≠ h ∧
      (obtainAgain sharedLockApi s.client o.lock limit).2.heap[h']? = some o' ∧
      (o'.invoke .acquire).2.1 = [.acquire] := by
  have hplain := plain_of_run hrun
  obtain ⟨lock, rfl⟩ := hplain o (List.mem_of_getElem? ho)
  have hcount : (Handle.plain lock).refCount ≠ some (s.holds h) := by simp [Handle.refCount]
  have hlt : h < s.client.heap.length := (List.getElem?_eq_some_iff.mp ho).1
  refine ⟨fun hshares => hcount hshares.1, hcount, rfl, fun limit => ?_⟩
  obtain ⟨kind, new, hagain⟩ : ∃ kind new, obtainAgain sharedLockApi s.client lock limit =
      obtain sharedLockApi s.client kind new := by
    unfold obtainAgain
    cases lock.cls
    · exact ⟨_, _, rfl⟩
    · exact ⟨_, _, rfl⟩
  refine ⟨s.client.heap.length, .plain new, ?_, by omega, ?_, rfl⟩
  · rw [show (Handle.plain lock).lock = lock from rfl, hagain, obtain_creates hplain]
  · rw [show (Handle.plain lock).lock = lock from rfl, hagain, obtain_creates hplain]
    simp

/-- A mutex that is obtained and acquired. -/
theorem handle_never_shared_mutex :
    let s : HandleRun := ⟨⟨[.plain ⟨.mutex, "k", none⟩], Function.update (fun _ => none) "k"
      (some 0)⟩, Function.update (fun _ => 0) 0 1⟩
    ¬ SharesHolds s 0 (.plain ⟨.mutex, "k", none⟩) :=
  (handle_never_shared [.obtainMutex "k", .acquire 0] rfl rfl).1

/-- The acquired mutex of the key "k" is held once, reads no `refCount`, and a second
`obtainMutex` gives another handle. -/
theorem acquired_mutex_not_shared :
    ∃ s o, runFrom clientStep freshHandleRun [.obtainMutex "k", .acquire 0] = some s ∧
      s.client.heap[0]? = some o ∧ s.holds 0 = 1 ∧ ¬ SharesHolds s 0 o ∧
      (obtainMutex sharedLockApi s.client "k").1.toOption = some 1 := by
  refine ⟨_, _, rfl, rfl, rfl, ?_, rfl⟩
  rintro ⟨hcount, -⟩
  exact absurd hcount (by decide)

end Xnestjs.Analysis
