import Xnestjs.Program.NestedCallbacks

/-!
# Acquisitions that the underlying lock rejects

`acquire` and `tryAcquire` raise the counter to 1 before they await the underlying lock.
The refused attempt takes the counter down again, the rejected one leaves it: from then on
every caller is granted at once, although nobody holds the underlying lock. The counter is
read off in each of the four entry points, from any state that a history of calls leaves.
-/

set_option autoImplicit false

namespace Xnestjs.Analysis

open Xnestjs.Model Xnestjs.Program.SharedLock

variable {ε α : Type}

/-- What the call may have to ask of the underlying lock. -/
def asksFor : Entry ε α → Option LockOp
  | .acquire _ => some .acquire
  | .tryAcquire _ => some .tryAcquire
  | .release _ => none

/-- The same call without its callback. -/
def withoutCallback : Entry ε α → Entry ε α
  | .acquire _ => .acquire none
  | .tryAcquire _ => .tryAcquire none
  | .release force => .release force

/-- The call finds the lock free, asks the underlying lock for `op`, and is rejected. -/
def Rejected (answer : ℕ → LockOp → Except ε Bool) (w : LockWorld ε) (c : Entry ε α)
    (op : LockOp) (e : ε) : Prop :=
  asksFor c = some op ∧ w.state ≤ 0 ∧ answer w.asked.length op = .error e

/-- The first thing that `c` does in `w` is to ask the underlying lock for `op`. -/
def AsksUnderlying (answer : ℕ → LockOp → Except ε Bool) (w : LockWorld ε) (c : Entry ε α)
    (op : LockOp) : Prop :=
  ∃ more, (c.body.exec answer w).1.asked = w.asked ++ (op, answer w.asked.length op) :: more

/-- A rejected acquisition leaves no trace: the call rejects with the same error, does
nothing with its callback, leaves the count as it was, and whoever comes next asks the
underlying lock again. -/
structure LeavesNoTrace (answer : ℕ → LockOp → Except ε Bool) (w : LockWorld ε)
    (c : Entry ε α) (e : ε) : Prop where
  rejects : (c.body.exec answer w).2 = .error e
  callback_not_run : c.body.passed answer w = (withoutCallback c).body.passed answer w
  count_kept : max (c.body.exec answer w).1.state 0 = max w.state 0
  asks_again : ∀ (next : Entry ε α) (op : LockOp), asksFor next = some op →
    AsksUnderlying answer (c.body.exec answer w).1 next op

section

variable {answer : ℕ → LockOp → Except ε Bool} {w : LockWorld ε}

/-- INTERNAL: the plain call rejects with the count at 1. SOURCE: shared-lock.ts:20-23 -/
theorem acquire_rejected {e : ε} (hfree : w.state ≤ 0)
    (hrejected : answer w.asked.length .acquire = .error e) :
    acquire.exec answer w = (⟨1, w.asked ++ [(.acquire, .error e)]⟩, .error e) := by
  rw [exec_plain_acquire, if_pos hfree, hrejected]
  rfl

/-- INTERNAL: the plain attempt rejects with the count at 1. SOURCE: shared-lock.ts:37-39 -/
theorem tryAcquire_rejected {e : ε} (hfree : w.state ≤ 0)
    (hrejected : answer w.asked.length .tryAcquire = .error e) :
    tryAcquire.exec answer w = (⟨1, w.asked ++ [(.tryAcquire, .error e)]⟩, .error e) := by
  rw [exec_plain_tryAcquire, if_pos hfree, hrejected]
  rfl

/-- INTERNAL: a rejection of the plain call goes through whatever is done with its outcome, and
nothing of that runs. -/
theorem rejected_through {γ δ β : Type} {plain : Body ε γ} {v : LockWorld ε} {e : ε}
    (hplain : plain.exec answer w = (v, .error e)) (f : γ → Body ε δ) (g : δ → Body ε β) :
    ((plain.bind f).bind g).exec answer w = (v, .error e) ∧
      ((plain.bind f).bind g).passed answer w = plain.passed answer w := by
  have hbind : (plain.bind f).exec answer w = (v, .error e) :=
    Async.exec_bind_error answer hplain f
  constructor
  · exact Async.exec_bind_error answer hbind g
  · calc ((plain.bind f).bind g).passed answer w
        = (plain.bind f).passed answer w := Async.passed_bind_error answer hbind g
      _ = plain.passed answer w := Async.passed_bind_error answer hplain f

/-- INTERNAL: **each of the four entry points**, when the underlying lock rejects: it
rejects with that error, runs no callback, and leaves the count at 1.
SOURCE: shared-lock.ts:11-45 -/
theorem rejected_outcome {c : Entry ε α} {op : LockOp} {e : ε}
    (h : Rejected answer w c op e) :
    c.body.exec answer w = (⟨1, w.asked ++ [(op, .error e)]⟩, .error e) ∧
      c.body.passed answer w = (withoutCallback c).body.passed answer w := by
  obtain ⟨hop, hfree, hrejected⟩ := h
  cases c with
  | acquire callback =>
    cases hop
    have hplain := acquire_rejected hfree hrejected
    cases callback with
    | none => exact ⟨Async.exec_bind_error answer hplain _, rfl⟩
    | some callback =>
      obtain ⟨hexec, hpassed⟩ := rejected_through hplain
        (fun _ => callback.tryFinally (release false)) fun a => .done (.ok (Reply.returned a))
      exact ⟨hexec, hpassed.trans (Async.passed_bind_error answer hplain _).symm⟩
  | tryAcquire callback =>
    cases hop
    have hplain := tryAcquire_rejected hfree hrejected
    cases callback with
    | none => exact ⟨Async.exec_bind_error answer hplain _, rfl⟩
    | some callback =>
      obtain ⟨hexec, hpassed⟩ := rejected_through hplain _ _
      exact ⟨hexec, hpassed.trans (Async.passed_bind_error answer hplain _).symm⟩
  | release force => cases hop

/-- INTERNAL: with a count of 1 a plain call is granted without the underlying lock.
SOURCE: shared-lock.ts:25,42-43 -/
theorem granted_at_one (hone : w.state = 1) :
    (Entry.acquire none : Entry ε α).body.exec answer w = (⟨2, w.asked⟩, .ok .undefined) ∧
      (Entry.tryAcquire none : Entry ε α).body.exec answer w =
        (⟨2, w.asked⟩, .ok (.granted true)) := by
  have hheld : ¬ w.state ≤ 0 := by omega
  constructor
  · refine (Async.exec_bind answer acquire _ w).trans ?_
    rw [exec_plain_acquire, if_neg hheld, hone]
    rfl
  · refine (Async.exec_bind answer tryAcquire _ w).trans ?_
    rw [exec_plain_tryAcquire, if_neg hheld, hone]
    rfl

end

/-- **A rejected acquisition always leaves a trace.** After every history of calls, when the
underlying lock rejects what one of the four entry points asks of it, the call rejects with
that error and runs no callback, but the count has gone from 0 to 1, and the next plain
`acquire` or `tryAcquire` is granted without the underlying lock.
SOURCE: shared-lock.ts:11-45 -/
theorem rejection_leaves_trace (answer : ℕ → LockOp → Except ε Bool)
    (history : List (Entry ε α)) (c : Entry ε α) (op : LockOp) (e : ε)
    (h : Rejected answer (afterEntries answer freshLock history) c op e) :
    let w := afterEntries answer freshLock history
    ¬ LeavesNoTrace answer w c e ∧
      ((c.body.exec answer w).2 = .error e ∧
        c.body.passed answer w = (withoutCallback c).body.passed answer w ∧
        max w.state 0 = 0 ∧ (c.body.exec answer w).1.state = 1 ∧
        ∀ next ∈ [Entry.acquire none, Entry.tryAcquire none], ∃ reply,
          next.body.exec answer (c.body.exec answer w).1 =
            (⟨2, (c.body.exec answer w).1.asked⟩, .ok (reply : Reply α))) := by
  intro w
  obtain ⟨hexec, hpassed⟩ := rejected_outcome h
  have hzero : max w.state 0 = 0 := by
    have hfree : w.state ≤ 0 := h.2.1
    omega
  have hone : (c.body.exec answer w).1.state = 1 := by rw [hexec]
  refine ⟨?_, by rw [hexec], hpassed, hzero, hone, ?_⟩
  · intro hnone
    have hkept := hnone.count_kept
    rw [hone, hzero] at hkept
    exact absurd hkept (by decide)
  · intro next hnext
    rcases List.mem_cons.mp hnext with rfl | hnext
    · exact ⟨_, (granted_at_one hone).1⟩
    · rw [List.mem_singleton.mp hnext]
      exact ⟨_, (granted_at_one hone).2⟩

/-- The second acquisition of a lock times out, after the first was released. -/
theorem rejection_leaves_trace_second :
    let answer : ℕ → LockOp → Except String Bool := fun i _ =>
      if i < 2 then .ok true else .error "timeout"
    let history : List (Entry String ℕ) := [.acquire none, .release false]
    let c : Entry String ℕ := .tryAcquire (some (.done (.ok 5)))
    let w := afterEntries answer freshLock history
    ¬ LeavesNoTrace answer w c "timeout" ∧
      ((c.body.exec answer w).2 = .error "timeout" ∧
        c.body.passed answer w = (withoutCallback c).body.passed answer w ∧
        max w.state 0 = 0 ∧ (c.body.exec answer w).1.state = 1 ∧
        ∀ next ∈ [Entry.acquire none, Entry.tryAcquire none], ∃ reply,
          next.body.exec answer (c.body.exec answer w).1 =
            (⟨2, (c.body.exec answer w).1.asked⟩, .ok (reply : Reply ℕ))) :=
  rejection_leaves_trace _ [.acquire none, .release false] _ .tryAcquire _
    ⟨rfl, by decide, rfl⟩

/-- A fresh lock whose first acquisition times out counts a holder all the same, and the next
`tryAcquire` is granted although the underlying lock has only been asked once. -/
theorem timed_out_acquire_counted :
    let answer : ℕ → LockOp → Except String Bool := fun _ _ => .error "timeout"
    let c : Entry String ℕ := .acquire none
    let w : LockWorld String := freshLock
    Rejected answer w c .acquire "timeout" ∧ ¬ LeavesNoTrace answer w c "timeout" ∧
      (Entry.tryAcquire none : Entry String ℕ).body.exec answer (c.body.exec answer w).1 =
        (⟨2, [(.acquire, .error "timeout")]⟩, .ok (.granted true)) := by
  intro answer c w
  refine ⟨⟨rfl, by decide, rfl⟩, ?_, rfl⟩
  intro h
  exact absurd h.count_kept (by decide)

end Xnestjs.Analysis
