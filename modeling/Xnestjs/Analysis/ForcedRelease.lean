import Xnestjs.Interface.HoldOwners
import Xnestjs.Analysis.SharedLockRefinement

/-!
# Late releases after a forced release

A release of a revoked caller is one more anonymous decrement. It does nothing while the
lock is free, and it takes a reference away from a newer hold otherwise. So the runs in
which the newer holds are safe are the runs in which every late release comes while there
is none.
-/

set_option autoImplicit false

namespace Xnestjs.Analysis

open Xnestjs.Model Xnestjs.Program.SharedLock Xnestjs.Interface

/-- The counter is the number of newer holds, the underlying lock is held with them, and
nobody is both active and revoked. -/
structure CountsActive (s : OwnedLock) : Prop where
  count : max s.lock.state 0 = s.active.length
  log : Alternates (s.lock.asked.filterMap lockEvent) s.active.length
  disjoint : ∀ c ∈ s.revoked, c ∉ s.active

/-- INTERNAL: when the counter is the number of newer holds, each of them is backed. -/
theorem CountsActive.backed {s : OwnedLock} (h : CountsActive s) : Backed s := by
  have hcount := h.count
  refine ⟨by omega, fun hne => ?_⟩
  exact h.log.ends.mpr (List.length_pos_iff.mpr hne)

/-- INTERNAL: one more call on the lock keeps its log alternating with the new count. -/
theorem log_after_call (w : LockWorld Empty) (n : ℕ) (hn : max w.state 0 = n)
    (hlog : Alternates (w.asked.filterMap lockEvent) n) (c : Call) :
    let next := awaitCall succeed w c
    max next.1.state 0 = holdsAfter n next.2.granted c ∧
      Alternates (next.1.asked.filterMap lockEvent) (holdsAfter n next.2.granted c) := by
  obtain ⟨hcount, -, hevents⟩ := awaitCall_refines succeed
    (fun _ e => e.elim) (fun _ e => e.elim) w n hn c
  refine ⟨hcount, ?_⟩
  rw [awaitCall_asked, List.filterMap_append]
  exact Alternates.append_edge hlog hevents

/-- INTERNAL: an awaited `acquire()` is granted when the underlying lock does not reject. -/
theorem acquire_granted (w : LockWorld Empty) (n : ℕ) (hn : max w.state 0 = n) :
    (awaitCall succeed w .acquire).2.granted = true :=
  (acquire_refines succeed (fun _ e => e.elim) w n hn).2.1

/-- INTERNAL: a call made in time keeps the counter equal to the number of newer holds.
SOURCE: shared-lock.ts:20-25, 46-58 -/
theorem countsActive_step (s : OwnedLock) (e : OwnerEvent) (t : OwnedLock)
    (h : CountsActive s) (hC : LateReleaseIdle s e) (hst : ownerStep s e = some t) :
    CountsActive t := by
  cases e with
  | acquire c =>
    obtain ⟨hcount, hlog⟩ := log_after_call s.lock _ h.count h.log .acquire
    have hgranted := acquire_granted s.lock _ h.count
    simp only [ownerStep] at hst
    split_ifs at hst with hc
    cases hst
    simp only [hgranted, if_true, holdsAfter] at hcount hlog ⊢
    refine ⟨hcount, hlog, fun d hd hd' => ?_⟩
    rcases List.mem_cons.mp hd' with rfl | hd'
    · exact hc (Or.inr hd)
    · exact h.disjoint d hd hd'
  | release c =>
    obtain ⟨hcount, hlog⟩ := log_after_call s.lock _ h.count h.log (.release false)
    simp only [holdsAfter] at hcount hlog
    simp only [ownerStep] at hst
    split_ifs at hst with hactive hrevoked
    · cases hst
      have hlen : (s.active.erase c).length = s.active.length - 1 :=
        List.length_erase_of_mem hactive
      refine ⟨by rw [hlen]; exact hcount, by rw [hlen]; exact hlog, fun d hd hd' => ?_⟩
      exact h.disjoint d hd (List.mem_of_mem_erase hd')
    · cases hst
      -- a late release in time finds the lock free
      have hidle : s.active = [] := hC hrevoked
      refine ⟨?_, ?_, fun d hd => h.disjoint d (List.mem_of_mem_erase hd)⟩
      · simpa [hidle] using hcount
      · simpa [hidle] using hlog
  | force =>
    obtain ⟨hcount, hlog⟩ := log_after_call s.lock _ h.count h.log (.release true)
    cases hst
    exact ⟨hcount, hlog, fun _ _ => List.not_mem_nil⟩

/-- INTERNAL: a late release while a newer hold is outstanding takes its reference. -/
theorem late_release_steals (s : OwnedLock) (e : OwnerEvent) (t : OwnedLock)
    (h : CountsActive s) (hC : ¬ LateReleaseIdle s e) (hst : ownerStep s e = some t) :
    ¬ Backed t := by
  cases e with
  | acquire c => exact absurd trivial hC
  | force => exact absurd trivial hC
  | release c =>
    have hrevoked : c ∈ s.revoked := by
      by_contra hne
      exact hC fun hr => absurd hr hne
    have hactive : s.active ≠ [] := fun hnil => hC fun _ => hnil
    obtain ⟨hcount, -⟩ := log_after_call s.lock _ h.count h.log (.release false)
    simp only [ownerStep, h.disjoint c hrevoked, hrevoked, if_false, if_true] at hst
    cases hst
    rintro ⟨hback, -⟩
    have hpos := List.length_pos_iff.mpr hactive
    simp only [holdsAfter] at hcount
    rw [hcount] at hback
    have : s.active.length ≤ s.active.length - 1 := by exact_mod_cast hback
    omega

/-- INTERNAL: at the start nobody holds anything. -/
theorem countsActive_fresh : CountsActive freshOwned :=
  ⟨rfl, alternates_nil, fun _ h => absurd h List.not_mem_nil⟩

/-- **Newer holds are safe exactly when late releases come in time.** In a run of awaited
`acquire`, `release` and `release(true)` calls, every hold granted since the last forced
release keeps its reference and the underlying lock throughout, if and only if no revoked
caller makes its release while such a hold is outstanding.
SOURCE: shared-lock.ts:11-26, 46-58 -/
theorem newer_holds_backed_iff (es : List OwnerEvent) :
    Throughout ownerStep Backed freshOwned es ↔
      EachStep ownerStep LateReleaseIdle freshOwned es :=
  throughout_iff_eachStep countsActive_step (fun _ => CountsActive.backed)
    late_release_steals countsActive_fresh

/-- Caller 0 is revoked, caller 1 takes the lock, and the late release of caller 0 gives the
underlying lock back under caller 1. -/
theorem late_release_frees_newer_hold :
    ¬ Throughout ownerStep Backed freshOwned
      [.acquire 0, .force, .acquire 1, .release 0] := by
  intro h
  have hend : runFrom ownerStep freshOwned [.acquire 0, .force, .acquire 1, .release 0] =
      some ⟨⟨-1, [(.acquire, .ok true), (.release, .ok true), (.acquire, .ok true),
        (.release, .ok true)]⟩, [1], []⟩ := rfl
  have hbacked := h.final hend
  exact absurd hbacked (by decide)

end Xnestjs.Analysis
