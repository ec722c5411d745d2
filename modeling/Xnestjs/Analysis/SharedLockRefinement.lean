import Xnestjs.Interface.HoldCounter

/-!
# Awaited calls on the shared lock follow the hold counter

The code has several values of `_refCount` for "free" (0 at the start, -1 after a refusal
or a release, -2 after a release that rejected), so the simulation relation is not
equality of counters but `max(_refCount, 0) = n`. `awaitCall_refines` is one call under that
relation, one case per kind of call; `awaitCalls_refine` is the run.
-/

set_option autoImplicit false

namespace Xnestjs.Analysis

open Xnestjs.Model Xnestjs.Program.SharedLock Xnestjs.Interface

variable {ε : Type}

section

variable (answer : ℕ → LockOp → Except ε Bool)

/-- What one call does to the log of the underlying lock, in terms of the counter. -/
def EdgeEvents (n n' : ℕ) (events : List Bool) : Prop :=
  (n = 0 ∧ 0 < n' ∧ events = [true]) ∨ (0 < n ∧ n' = 0 ∧ events = [false]) ∨
    ((0 < n ↔ 0 < n') ∧ events = [])

/-- INTERNAL: the log keeps alternating when a call adds what its edge allows. -/
theorem Alternates.append_edge {events more : List Bool} {n n' : ℕ}
    (h : Alternates events n) (hmore : EdgeEvents n n' more) :
    Alternates (events ++ more) n' := by
  rcases hmore with ⟨rfl, hn', rfl⟩ | ⟨hn, rfl, rfl⟩ | ⟨hiff, rfl⟩
  · exact h.acquire hn'
  · exact h.release hn
  · simpa using h.between hiff

/-- INTERNAL: one `acquire()`, whose underlying acquisition does not reject.
SOURCE: shared-lock.ts:20-25 -/
theorem acquire_refines (hacquire : ∀ i e, answer i .acquire ≠ .error e) (w : LockWorld ε)
    (n : ℕ) (hn : max w.state 0 = n) :
    let a := (awaitCall answer w .acquire).2
    max a.refCount 0 = (n + 1 : ℕ) ∧ a.granted = true ∧
      a.asked.map Prod.fst = (if n = 0 then [.acquire] else []) ∧
      a.asked.filterMap lockEvent = (if n = 0 then [true] else []) := by
  simp only [awaitCall, exec_acquire]
  obtain ⟨b, hb⟩ : ∃ b, answer w.asked.length .acquire = .ok b := by
    cases h : answer w.asked.length .acquire with
    | ok b => exact ⟨b, rfl⟩
    | error e => exact absurd h (hacquire _ e)
  by_cases hfree : w.state ≤ 0
  · have h0 : n = 0 := by omega
    simp only [if_pos hfree, h0, hb]
    refine ⟨by omega, ?_, ?_, ?_⟩ <;> simp [AwaitedCall.granted, Except.map, lockEvent]
  · have h0 : n ≠ 0 := by omega
    simp only [if_neg hfree, if_neg h0]
    refine ⟨by omega, ?_, ?_, ?_⟩ <;> simp [AwaitedCall.granted]

/-- INTERNAL: one `tryAcquire()`, whose underlying attempt is granted or refused.
SOURCE: shared-lock.ts:37-44 -/
theorem tryAcquire_refines (htry : ∀ i e, answer i .tryAcquire ≠ .error e) (w : LockWorld ε)
    (n : ℕ) (hn : max w.state 0 = n) :
    let a := (awaitCall answer w .tryAcquire).2
    max a.refCount 0 = (if a.granted then n + 1 else n : ℕ) ∧ (0 < n → a.granted = true) ∧
      a.asked.map Prod.fst = (if n = 0 then [.tryAcquire] else []) ∧
      a.asked.filterMap lockEvent = (if n = 0 ∧ a.granted then [true] else []) := by
  simp only [awaitCall, exec_tryAcquire]
  obtain ⟨b, hb⟩ : ∃ b, answer w.asked.length .tryAcquire = .ok b := by
    cases h : answer w.asked.length .tryAcquire with
    | ok b => exact ⟨b, rfl⟩
    | error e => exact absurd h (htry _ e)
  by_cases hfree : w.state ≤ 0
  · have h0 : n = 0 := by omega
    simp only [if_pos hfree, h0, hb]
    cases b with
    | true =>
      refine ⟨?_, ?_⟩
      · show max (1 : ℤ) 0 = 1
        omega
      · simp [AwaitedCall.granted, lockEvent]
    | false =>
      refine ⟨?_, ?_⟩
      · show max (-1 : ℤ) 0 = 0
        omega
      · simp [AwaitedCall.granted, lockEvent]
  · have h0 : n ≠ 0 := by omega
    have hcount : max (w.state + 1) 0 = (n + 1 : ℕ) := by omega
    simp only [if_neg hfree, if_neg h0, AwaitedCall.granted, if_true]
    refine ⟨hcount, ?_, ?_, ?_⟩ <;> simp [h0]

/-- INTERNAL: one `release(force)`, however the underlying release settles. The counter of
"free" afterwards is -1 or -2. SOURCE: shared-lock.ts:46-58 -/
theorem release_refines (w : LockWorld ε) (n : ℕ) (hn : max w.state 0 = n) (force : Bool) :
    let a := (awaitCall answer w (.release force)).2
    let n' := if force then 0 else n - 1
    max a.refCount 0 = (n' : ℕ) ∧
      a.asked.map Prod.fst = (if 0 < n ∧ n' = 0 then [.release] else []) ∧
      a.asked.filterMap lockEvent = (if 0 < n ∧ n' = 0 then [false] else []) := by
  simp only [awaitCall, exec_release]
  by_cases hfree : w.state ≤ 0
  · have h0 : n = 0 := by omega
    have hcount : max w.state 0 = ((if force then 0 else n - 1 : ℕ) : ℤ) := by
      split_ifs <;> omega
    simp only [if_pos hfree]
    refine ⟨hcount, ?_, ?_⟩ <;> simp [h0]
  · have hpos : 0 < n := by omega
    by_cases hlast : force ∨ w.state = 1
    · have hn' : (if force then 0 else n - 1) = 0 := by
        rcases hlast with hf | h1
        · simp [hf]
        · split_ifs <;> omega
      simp only [if_neg hfree, if_pos hlast, hn', hpos]
      cases answer w.asked.length .release with
      | ok b =>
        refine ⟨?_, ?_⟩
        · show max (-1 : ℤ) 0 = 0
          omega
        · simp [lockEvent]
      | error e =>
        refine ⟨?_, ?_⟩
        · show max (-2 : ℤ) 0 = 0
          omega
        · simp [lockEvent]
    · have hf : ¬ force = true := (not_or.mp hlast).1
      have hn' : n - 1 ≠ 0 := by omega
      have hcount : max (w.state - 1) 0 = ((n - 1 : ℕ) : ℤ) := by omega
      simp only [if_neg hfree, if_neg hlast, if_neg hf]
      refine ⟨hcount, ?_, ?_⟩ <;> simp [hn']

/-- INTERNAL: **one awaited call** follows the hold counter.
SOURCE: shared-lock.ts:11-58 -/
theorem awaitCall_refines (hacquire : ∀ i e, answer i .acquire ≠ .error e)
    (htry : ∀ i e, answer i .tryAcquire ≠ .error e) (w : LockWorld ε) (n : ℕ)
    (hn : max w.state 0 = n) (c : Call) :
    let a := (awaitCall answer w c).2
    max a.refCount 0 = holdsAfter n a.granted c ∧
      a.asked.map Prod.fst = edgeOps n (holdsAfter n a.granted c) c ∧
      EdgeEvents n (holdsAfter n a.granted c) (a.asked.filterMap lockEvent) := by
  cases c with
  | acquire =>
    obtain ⟨hcount, hgranted, hasked, hevents⟩ := acquire_refines answer hacquire w n hn
    simp only [holdsAfter, hgranted, if_true]
    refine ⟨hcount, ?_, ?_⟩
    · rw [hasked]
      unfold edgeOps opOf
      by_cases h0 : n = 0 <;> simp [h0]
    · rw [hevents]
      unfold EdgeEvents
      by_cases h0 : n = 0
      · simp [h0]
      · simp [h0]
        omega
  | tryAcquire =>
    obtain ⟨hcount, hgranted, hasked, hevents⟩ := tryAcquire_refines answer htry w n hn
    simp only [holdsAfter]
    refine ⟨hcount, ?_, ?_⟩
    · rw [hasked]
      unfold edgeOps opOf
      by_cases h0 : n = 0
      · cases (awaitCall answer w .tryAcquire).2.granted <;> simp [h0]
      · simp [h0, hgranted (Nat.pos_of_ne_zero h0)]
    · rw [hevents]
      unfold EdgeEvents
      by_cases h0 : n = 0
      · cases (awaitCall answer w .tryAcquire).2.granted <;> simp [h0]
      · simp [h0, hgranted (Nat.pos_of_ne_zero h0)]
        omega
  | release force =>
    obtain ⟨hcount, hasked, hevents⟩ := release_refines answer w n hn force
    have hafter : ∀ b, holdsAfter n b (.release force) = if force then 0 else n - 1 := by
      intro b
      cases force <;> rfl
    simp only [hafter]
    refine ⟨hcount, ?_, ?_⟩
    · rw [hasked]
      unfold edgeOps opOf
      by_cases h0 : n = 0
      · cases force <;> simp [h0]
      · simp [h0, Nat.pos_of_ne_zero h0, Nat.one_le_iff_ne_zero]
    · rw [hevents]
      unfold EdgeEvents
      split_ifs <;> simp <;> omega

/-- INTERNAL: an awaited `acquire()` is granted. SOURCE: shared-lock.ts:20-25 -/
theorem awaitCalls_acquire_granted (hacquire : ∀ i e, answer i .acquire ≠ .error e)
    (calls : List Call) (w : LockWorld ε) :
    ∀ a ∈ (awaitCalls answer w calls).2, a.call = .acquire → a.granted = true := by
  induction calls generalizing w with
  | nil => exact fun _ ha => absurd ha List.not_mem_nil
  | cons c cs ih =>
    intro a ha hcall
    rcases List.mem_cons.mp ha with rfl | ha
    · obtain rfl : c = .acquire := hcall
      exact (acquire_refines answer hacquire w (max w.state 0).toNat (by omega)).2.1
    · exact ih _ a ha hcall

/-- INTERNAL: **a run of awaited calls** follows the hold counter, and its underlying
operations alternate. The induction is on the calls; the state between two of them is
tied to the counter by `max(_refCount, 0) = n`. SOURCE: shared-lock.ts:6-67 -/
theorem awaitCalls_refine (hacquire : ∀ i e, answer i .acquire ≠ .error e)
    (htry : ∀ i e, answer i .tryAcquire ≠ .error e) (calls : List Call) {w : LockWorld ε}
    {n : ℕ} (h : Holding w n) :
    let run := awaitCalls answer w calls
    Refines n run.2 ∧ Holding run.1 (holdsAtEnd n run.2) := by
  induction calls generalizing w n with
  | nil => exact ⟨trivial, h⟩
  | cons c cs ih =>
    obtain ⟨hcount, hasked, hevents⟩ := awaitCall_refines answer hacquire htry w n h.count c
    have hlog : Alternates ((awaitCall answer w c).1.asked.filterMap lockEvent)
        (holdsAfter n (awaitCall answer w c).2.granted c) := by
      rw [awaitCall_asked, List.filterMap_append]
      exact Alternates.append_edge h.log hevents
    obtain ⟨hrefines, hend⟩ := ih (show Holding (awaitCall answer w c).1 _ from ⟨hcount, hlog⟩)
    exact ⟨⟨hcount, hasked, hrefines⟩, hend⟩

end

/-- **The shared lock refines the hold counter.** Over every run of awaited calls whose
underlying acquisitions do not reject: each call has its record, in order, and every
`acquire()` is granted; `max(_refCount, 0)` is the number of holds after each call and at the
end, the underlying lock is asked at the edges of the count only, and successful
acquisitions and release calls of the underlying lock alternate, ending in an acquisition
exactly when there are holds. SOURCE: shared-lock.ts:6-67 -/
theorem sharedLock_refines_holdCounter (answer : ℕ → LockOp → Except ε Bool)
    (hacquire : ∀ i e, answer i .acquire ≠ .error e)
    (htry : ∀ i e, answer i .tryAcquire ≠ .error e) (calls : List Call) :
    let run := awaitCalls answer freshLock calls
    run.2.map AwaitedCall.call = calls ∧
      (∀ a ∈ run.2, a.call = .acquire → a.granted = true) ∧
      Refines 0 run.2 ∧ max run.1.state 0 = holdsAtEnd 0 run.2 ∧
      Alternates (run.1.asked.filterMap lockEvent) (holdsAtEnd 0 run.2) := by
  obtain ⟨hrefines, hends⟩ :=
    awaitCalls_refine answer hacquire htry calls
      (show Holding freshLock 0 from ⟨rfl, alternates_nil⟩)
  exact ⟨awaitCalls_calls answer freshLock calls,
    awaitCalls_acquire_granted answer hacquire calls freshLock, hrefines, hends.count, hends.log⟩

/-- A lock whose release rejects, taken twice and released by force: nothing is held at the
end. -/
theorem sharedLock_refines_holdCounter_forced :
    let answer : ℕ → LockOp → Except String Bool := fun _ op =>
      if op = .release then .error "timeout" else .ok true
    let run := awaitCalls answer freshLock [.acquire, .tryAcquire, .release true]
    (∀ a ∈ run.2, a.call = .acquire → a.granted = true) ∧ Refines 0 run.2 ∧
      max run.1.state 0 = 0 ∧ Alternates (run.1.asked.filterMap lockEvent) 0 := by
  intro answer run
  obtain ⟨-, hgranted, hrefines, hcount, hlog⟩ := sharedLock_refines_holdCounter answer
    (fun _ _ => by simp [answer]) (fun _ _ => by simp [answer])
    [.acquire, .tryAcquire, .release true]
  exact ⟨hgranted, hrefines, hcount, hlog⟩

end Xnestjs.Analysis
