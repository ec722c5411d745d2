import Xnestjs.Program.ConcurrentCalls

/-!
# A granted caller and the underlying lock

`acquire` raises the counter before it awaits the underlying lock, and every later call
that finds the counter positive is granted at once. So a second caller can be granted while
the first acquisition is still in flight. This file says in which interleavings that does
not happen.

* In general (`safe_iff_counts_when_held`): those in which every call that takes the
  counting branch finds the underlying lock held, and every release that takes the last
  reference is made by the only granted caller.
* When the underlying operations succeed and only granted callers release
  (`safe_iff_no_overlap`): those in which no acquisition is started while one is in flight.
  The second condition is then a consequence: `Phase` is the invariant that carries it.
-/

set_option autoImplicit false

namespace Xnestjs.Analysis

open Xnestjs.Model Xnestjs.Program.SharedLock

variable {ε : Type}

/-- No caller has a grant it has not released while the underlying lock is not held. -/
def GrantsHeld (s : Concurrent ε) : Prop := s.granted ≠ [] → s.held = true

/-- An acquisition that finds the counter positive finds the underlying lock held, and a
release that finds it at 1 is made by the only granted caller. -/
def CountsWhenHeld (s : Concurrent ε) : CallEvent ε → Prop
  | .acquire _ => 0 < s.refCount → s.held = true
  | .tryAcquire _ => 0 < s.refCount → s.held = true
  | .release c => s.refCount = 1 → s.granted.erase c = []
  | .settle _ _ => True

/-- Only granted callers release, and no underlying operation rejects. -/
def OperationsSucceed (s : Concurrent ε) : CallEvent ε → Prop
  | .release c => c ∈ s.granted
  | .settle _ outcome => outcome.isOk = true
  | _ => True

/-- No acquisition is started while an underlying acquisition is in flight. -/
def NoOverlap (s : Concurrent ε) : CallEvent ε → Prop
  | .acquire _ => acquisitions s = 0
  | .tryAcquire _ => acquisitions s = 0
  | _ => True

instance OperationsSucceed.decidable :
    ∀ (s : Concurrent ε) (e : CallEvent ε), Decidable (OperationsSucceed s e)
  | s, .release c => inferInstanceAs (Decidable (c ∈ s.granted))
  | _, .settle _ outcome => inferInstanceAs (Decidable (outcome.isOk = true))
  | _, .acquire _ => isTrue trivial
  | _, .tryAcquire _ => isTrue trivial

/-! ## Any interleaving -/

/-- INTERNAL: a step that keeps to the condition keeps every grant held.
SOURCE: shared-lock.ts:20-25, 37-58 -/
theorem grantsHeld_step (s : Concurrent ε) (e : CallEvent ε) (t : Concurrent ε)
    (h : WellFormed s ∧ GrantsHeld s) (hC : CountsWhenHeld s e)
    (hst : callStep s e = some t) : WellFormed t ∧ GrantsHeld t := by
  refine ⟨wellFormed_step s e t h.1 hst, ?_⟩
  obtain ⟨hwf, hheld⟩ := h
  cases e with
  | acquire c =>
    rw [callStep_acquire] at hst
    cases hst
    split_ifs with hfree
    · exact hheld
    · exact fun _ => hC (by omega)
  | tryAcquire c =>
    rw [callStep_tryAcquire] at hst
    cases hst
    split_ifs with hfree
    · exact hheld
    · exact fun _ => hC (by omega)
  | release c =>
    have herase : s.granted.erase c ≠ [] → s.held = true := by
      intro hne
      apply hheld
      rintro hnil
      simp [hnil] at hne
    rw [callStep_release] at hst
    cases hst
    split_ifs with hfree hlast
    · exact herase
    · exact fun hne => absurd (hC hlast) hne
    · exact herase
  | settle i outcome =>
    cases htask : s.pool.inFlight[i]? with
    | none => simp [callStep_settle_none htask] at hst
    | some task =>
      rw [callStep_settle hwf htask] at hst
      cases hst
      intro hne
      by_cases hs : succeeded task.op outcome = true
      · simp [hs]
      · simp only [hs] at hne ⊢
        simpa using hheld (by simpa using hne)

/-- INTERNAL: a step outside the condition leaves a grant without the underlying lock. -/
theorem not_grantsHeld_of_bad_step (s : Concurrent ε) (e : CallEvent ε) (t : Concurrent ε)
    (hC : ¬ CountsWhenHeld s e) (hst : callStep s e = some t) : ¬ GrantsHeld t := by
  intro hsafe
  cases e with
  | acquire c =>
    simp only [CountsWhenHeld, Classical.not_imp] at hC
    rw [callStep_acquire, if_neg (by omega)] at hst
    cases hst
    exact hC.2 (hsafe (by simp))
  | tryAcquire c =>
    simp only [CountsWhenHeld, Classical.not_imp] at hC
    rw [callStep_tryAcquire, if_neg (by omega)] at hst
    cases hst
    exact hC.2 (hsafe (by simp))
  | release c =>
    simp only [CountsWhenHeld, Classical.not_imp] at hC
    rw [callStep_release, if_neg (by omega), if_pos hC.1] at hst
    cases hst
    exact absurd (hsafe hC.2) (by simp)
  | settle i outcome => exact hC trivial

/-- INTERNAL: every interleaving, whatever the operations do and whoever releases. -/
theorem safe_iff_counts_when_held (es : List (CallEvent ε)) :
    Throughout callStep GrantsHeld freshConcurrent es ↔
      EachStep callStep CountsWhenHeld freshConcurrent es :=
  throughout_iff_eachStep grantsHeld_step (fun _ h => h.2)
    (fun s e t _ => not_grantsHeld_of_bad_step s e t)
    ⟨wellFormed_fresh, fun h => absurd rfl h⟩

/-! ## Interleavings whose operations succeed -/

/-- Where the lock is when no two acquisitions overlap: free, being acquired by one call
with nobody granted, or held by as many grants as `_refCount` says. Releases may be in
flight in each of them. -/
inductive Phase (s : Concurrent ε) : Prop
  | free (hflight : acquisitions s = 0) (hgranted : s.granted = []) (hcount : s.refCount ≤ 0)
      (hheld : s.held = false)
  | acquiring (hflight : acquisitions s = 1) (hgranted : s.granted = []) (hcount : s.refCount = 1)
      (hheld : s.held = false)
  | held (hflight : acquisitions s = 0) (hgranted : s.granted ≠ [])
      (hcount : s.refCount = s.granted.length) (hheld : s.held = true)

/-- INTERNAL: in each phase every grant is held. -/
theorem Phase.grantsHeld {s : Concurrent ε} (h : Phase s) : GrantsHeld s := by
  intro hne
  cases h with
  | free _ hgranted => exact absurd hgranted hne
  | acquiring _ hgranted => exact absurd hgranted hne
  | held _ _ _ hheld => exact hheld

/-- INTERNAL: a granted caller that takes one more reference keeps the lock held. -/
theorem Phase.counted {s : Concurrent ε} (h : Phase s) (hflight : acquisitions s = 0)
    (hpos : ¬ s.refCount ≤ 0) (c : ℕ) :
    Phase { s with pool := ⟨s.refCount + 1, s.pool.inFlight⟩, granted := c :: s.granted } := by
  cases h with
  | free _ _ hcount => exact absurd hcount hpos
  | acquiring hone => omega
  | held _ _ hcount hheld =>
    refine .held hflight (by simp) ?_ hheld
    simp only [List.length_cons, Concurrent.refCount] at hcount ⊢
    omega

/-- INTERNAL: an acquisition started from "free" is the only one in flight. -/
theorem Phase.started {s : Concurrent ε} (h : Phase s) (hflight : acquisitions s = 0)
    (hfree : s.refCount ≤ 0) (task : Task ℤ LockOp Bool ε Bool Tag)
    (hop : task.op ≠ .release) : Phase { s with pool := ⟨1, s.pool.inFlight ++ [task]⟩ } := by
  have hone : acquisitions { s with pool := ⟨1, s.pool.inFlight ++ [task]⟩ } = 1 := by
    simp only [acquisitions] at hflight ⊢
    rw [waiting_joined, hflight, if_neg hop]
  cases h with
  | free _ hgranted _ hheld => exact .acquiring hone hgranted rfl hheld
  | acquiring hone' => omega
  | held _ hgranted hcount =>
    have := List.length_pos_iff.mpr hgranted
    omega

/-- INTERNAL: a granted caller gives its reference back, and the underlying lock with it
when it is the last. SOURCE: shared-lock.ts:46-58 -/
theorem Phase.released {s t : Concurrent ε} (h : Phase s) {c : ℕ} (hc : c ∈ s.granted)
    (hst : callStep s (.release c) = some t) : Phase t := by
  have hlen : (s.granted.erase c).length = s.granted.length - 1 := List.length_erase_of_mem hc
  have hpos : 0 < s.granted.length := List.length_pos_of_mem hc
  cases h with
  | free _ hgranted => simp [hgranted] at hc
  | acquiring _ hgranted => simp [hgranted] at hc
  | held hflight hgranted hcount hheld =>
    rw [callStep_release, if_neg (by omega)] at hst
    by_cases hlast : s.refCount = 1
    · rw [if_pos hlast] at hst
      cases hst
      have hnil : s.granted.erase c = [] := by
        apply List.eq_nil_of_length_eq_zero
        simp only [Concurrent.refCount] at hcount hlast
        omega
      refine .free ?_ hnil (show (-1 : ℤ) ≤ 0 by decide) rfl
      simp only [acquisitions] at hflight ⊢
      rw [waiting_joined, hflight]
      rfl
    · rw [if_neg hlast] at hst
      cases hst
      simp only [Concurrent.refCount] at hcount hlast
      refine .held hflight (List.ne_nil_of_length_pos ?_) ?_ hheld
      · simp only
        omega
      · simp only [Concurrent.refCount]
        omega

/-- INTERNAL: an operation that does not reject settles. A release changes nothing more; an
acquisition is the one in flight, and takes the lock or frees the counter. -/
theorem Phase.settled {s t : Concurrent ε} (hwf : WellFormed s) (h : Phase s) {i : ℕ} {b : Bool}
    (hst : callStep s (.settle i (.ok b)) = some t) : Phase t := by
  cases htask : s.pool.inFlight[i]? with
  | none => simp [callStep_settle_none htask] at hst
  | some task =>
    rw [callStep_settle hwf htask] at hst
    cases hst
    have hflight := waiting_settled htask
    by_cases hop : task.op = .release
    · rw [if_pos hop, Nat.add_zero] at hflight
      simp only [hop, settledCount, succeeded, Bool.or_false, Bool.false_eq_true, if_false]
      cases h with
      | free h0 hgranted hcount hheld =>
        exact .free (hflight.symm.trans h0) hgranted hcount hheld
      | acquiring h1 hgranted hcount hheld =>
        exact .acquiring (hflight.symm.trans h1) hgranted hcount hheld
      | held h0 hgranted hcount hheld =>
        exact .held (hflight.symm.trans h0) hgranted hcount hheld
    · rw [if_neg hop] at hflight
      cases h with
      | free h0 =>
        simp only [acquisitions] at h0
        omega
      | held h0 =>
        simp only [acquisitions] at h0
        omega
      | acquiring h1 hgranted hcount hheld =>
        simp only [acquisitions] at h1
        have h0 : waiting (s.pool.inFlight.eraseIdx i) = 0 := by omega
        cases hcase : task.op with
        | release => exact absurd hcase hop
        | acquire =>
          refine .held h0 (by simp [succeeded]) ?_ (by simp [succeeded])
          simpa [succeeded, settledCount, hgranted] using hcount
        | tryAcquire =>
          cases b with
          | true =>
            refine .held h0 (by simp [succeeded]) ?_ (by simp [succeeded])
            simpa [succeeded, settledCount, hgranted] using hcount
          | false =>
            refine .free h0 ?_ (show (-1 : ℤ) ≤ 0 by decide) ?_
            · simpa [succeeded] using hgranted
            · simpa [succeeded] using hheld

/-- INTERNAL: the phases are kept while no two acquisitions overlap. -/
theorem phase_step (s : Concurrent ε) (e : CallEvent ε) (t : Concurrent ε)
    (h : WellFormed s ∧ Phase s) (hD : OperationsSucceed s e) (hC : NoOverlap s e)
    (hst : callStep s e = some t) : WellFormed t ∧ Phase t := by
  refine ⟨wellFormed_step s e t h.1 hst, ?_⟩
  obtain ⟨hwf, hphase⟩ := h
  cases e with
  | acquire c =>
    rw [callStep_acquire] at hst
    cases hst
    split_ifs with hfree
    · exact hphase.started hC hfree _ (by simp)
    · exact hphase.counted hC hfree c
  | tryAcquire c =>
    rw [callStep_tryAcquire] at hst
    cases hst
    split_ifs with hfree
    · exact hphase.started hC hfree _ (by simp)
    · exact hphase.counted hC hfree c
  | release c => exact hphase.released hD hst
  | settle i outcome =>
    cases outcome with
    | error e => simp [OperationsSucceed, Except.isOk, Except.toBool] at hD
    | ok b => exact hphase.settled hwf hst

/-- INTERNAL: a call that overlaps an acquisition is granted before the lock is held. -/
theorem not_grantsHeld_of_overlap (s : Concurrent ε) (e : CallEvent ε) (t : Concurrent ε)
    (h : Phase s) (hC : ¬ NoOverlap s e) (hst : callStep s e = some t) : ¬ GrantsHeld t := by
  refine not_grantsHeld_of_bad_step s e t (fun hcounts => ?_) hst
  have hbranch : acquisitions s ≠ 0 → 0 < s.refCount ∧ s.held = false := by
    intro hne
    cases h with
    | free h0 => exact absurd h0 hne
    | held h0 => exact absurd h0 hne
    | acquiring _ _ hcount hheld => exact ⟨by omega, hheld⟩
  cases e with
  | acquire c =>
    obtain ⟨hpos, hnot⟩ := hbranch hC
    exact absurd (hcounts hpos) (by simp [hnot])
  | tryAcquire c =>
    obtain ⟨hpos, hnot⟩ := hbranch hC
    exact absurd (hcounts hpos) (by simp [hnot])
  | release c => exact hC trivial
  | settle i outcome => exact hC trivial

/-- INTERNAL: the interleavings whose operations succeed. -/
theorem safe_iff_no_overlap (es : List (CallEvent ε))
    (hD : EachStep callStep OperationsSucceed freshConcurrent es) :
    Throughout callStep GrantsHeld freshConcurrent es ↔
      EachStep callStep NoOverlap freshConcurrent es :=
  throughout_iff_eachStep_of phase_step (fun _ h => h.2.grantsHeld)
    (fun s e t h _ => not_grantsHeld_of_overlap s e t h.2)
    ⟨wellFormed_fresh, .free rfl rfl (by simp [freshConcurrent]) rfl⟩ hD

/-- **When a granted caller holds the underlying lock.** In an interleaving of any calls,
every grant not yet released has the underlying lock, in every state, exactly when each
acquisition that finds `_refCount > 0` finds the underlying lock held and each release that
finds `_refCount = 1` is made by the only granted caller. When the underlying operations
succeed and only granted callers release, that is exactly when no acquisition is started
while an underlying acquisition is in flight. SOURCE: shared-lock.ts:11-58 -/
theorem granted_callers_hold_iff (es : List (CallEvent ε)) :
    (Throughout callStep GrantsHeld freshConcurrent es ↔
      EachStep callStep CountsWhenHeld freshConcurrent es) ∧
    (EachStep callStep OperationsSucceed freshConcurrent es →
      (Throughout callStep GrantsHeld freshConcurrent es ↔
        EachStep callStep NoOverlap freshConcurrent es)) :=
  ⟨safe_iff_counts_when_held es, safe_iff_no_overlap es⟩

/-- Two callers one after the other, each releasing. -/
theorem granted_callers_hold_iff_in_turn :
    let es : List (CallEvent Empty) := [.acquire 0, .settle 0 (.ok true), .acquire 1,
      .release 0, .release 1, .settle 0 (.ok true)]
    Throughout callStep GrantsHeld freshConcurrent es ↔
      EachStep callStep NoOverlap freshConcurrent es :=
  (granted_callers_hold_iff _).2 (by decide)

/-- Caller 1 is granted while the acquisition of caller 0, which later succeeds, is still in
flight. -/
theorem granted_before_acquired :
    ¬ Throughout callStep GrantsHeld (freshConcurrent : Concurrent Empty)
      [.acquire 0, .acquire 1, .settle 0 (.ok true)] := by
  intro h
  have hsecond : GrantsHeld (ε := Empty) ⟨⟨2, [⟨(0, .acquire), .acquire, afterAcquire⟩]⟩,
      [1], false⟩ := (h.2 _ rfl).2 _ rfl |>.head
  exact absurd (hsecond (by simp)) (by simp)

end Xnestjs.Analysis
