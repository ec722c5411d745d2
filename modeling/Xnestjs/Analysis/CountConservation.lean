import Xnestjs.Program.ConcurrentCalls

/-!
# The counter and the grants not yet released

While calls are in flight the counter stands for the grants not yet released together with
the acquisitions in flight: `max(_refCount, 0) = granted + acquiring` (`CountsFlight`). Two
continuations write the counter after an `await` without looking at it: a refused
`tryAcquire` writes -1, a rejected `release` decrements. They keep the equation exactly when
nobody else was counted in the meantime (`WritesAlone`). When they do not, the count stays
wrong: once the calls in flight have settled, it shows in a state at rest (`drain`).
-/

set_option autoImplicit false

namespace Xnestjs.Analysis

open Xnestjs.Model Xnestjs.Program.SharedLock

variable {ε : Type}

/-- With no call in flight, `max(_refCount, 0)` is the number of grants not yet released. -/
def CountsAtRest (s : Concurrent ε) : Prop :=
  s.pool.inFlight = [] → max s.refCount 0 = s.granted.length

def opAt (s : Concurrent ε) (i : ℕ) : Option LockOp := s.pool.inFlight[i]?.map Task.op

def refused : Except ε Bool → Bool
  | .ok taken => !taken
  | .error _ => false

/-- A grant is released at most once, and no underlying acquisition rejects. -/
def ReleasesOnce (s : Concurrent ε) : CallEvent ε → Prop
  | .release c => c ∈ s.granted
  | .settle i outcome => opAt s i ≠ some .release → outcome.isOk = true
  | _ => True

/-- A refused attempt finds the counter where it left it, at 1, and a rejected release finds
it free. -/
def WritesAlone (s : Concurrent ε) : CallEvent ε → Prop
  | .settle i outcome =>
    (opAt s i = some .tryAcquire → refused outcome = true → s.refCount = 1) ∧
    (opAt s i = some .release → outcome.isOk = false → s.refCount ≤ 0)
  | _ => True

/-- The calls in flight settle one after the other, every operation with success. -/
def settleAll : ℕ → List (CallEvent ε)
  | 0 => []
  | n + 1 => .settle 0 (.ok true) :: settleAll n

/-- Once the calls in flight have settled with success, the counter is right. -/
def RightOnceSettled (s : Concurrent ε) : Prop :=
  ∀ t, runFrom callStep s (settleAll s.pool.inFlight.length) = some t → CountsAtRest t

instance ReleasesOnce.decidable :
    ∀ (s : Concurrent ε) (e : CallEvent ε), Decidable (ReleasesOnce s e)
  | s, .release c => inferInstanceAs (Decidable (c ∈ s.granted))
  | s, .settle i outcome =>
    inferInstanceAs (Decidable (opAt s i ≠ some .release → outcome.isOk = true))
  | _, .acquire _ => isTrue trivial
  | _, .tryAcquire _ => isTrue trivial

/-- The counter stands for the grants not yet released and the acquisitions in flight. -/
def CountsFlight (s : Concurrent ε) : Prop :=
  max s.refCount 0 = s.granted.length + acquisitions s

/-- INTERNAL: an acquisition adds one to both sides, as a grant or as a call in flight.
SOURCE: shared-lock.ts:20-25, 37-44 -/
theorem CountsFlight.acquired {s : Concurrent ε} (h : CountsFlight s) (c : ℕ)
    (task : Task ℤ LockOp Bool ε Bool Tag) (hop : task.op ≠ .release) :
    CountsFlight (if s.refCount ≤ 0 then
        { s with pool := ⟨1, s.pool.inFlight ++ [task]⟩ }
      else { s with pool := ⟨s.refCount + 1, s.pool.inFlight⟩, granted := c :: s.granted }) := by
  unfold CountsFlight at h ⊢
  split_ifs with hfree
  · simp only [acquisitions, Concurrent.refCount] at h hfree ⊢
    rw [waiting_joined, if_neg hop]
    omega
  · simp only [acquisitions, Concurrent.refCount, List.length_cons] at h hfree ⊢
    omega

/-- INTERNAL: a grant that is released leaves both sides. SOURCE: shared-lock.ts:46-58 -/
theorem CountsFlight.released {s t : Concurrent ε} (h : CountsFlight s) {c : ℕ}
    (hc : c ∈ s.granted) (hst : callStep s (.release c) = some t) : CountsFlight t := by
  have hlen : (s.granted.erase c).length = s.granted.length - 1 := List.length_erase_of_mem hc
  have hpos : 0 < s.granted.length := List.length_pos_of_mem hc
  unfold CountsFlight at h ⊢
  simp only [acquisitions, Concurrent.refCount] at h ⊢
  rw [callStep_release] at hst
  cases hst
  split_ifs with hfree hlast
  · simp only [Concurrent.refCount] at hfree ⊢
    omega
  · simp only [Concurrent.refCount] at hlast ⊢
    rw [waiting_joined]
    simp only [if_true, hlen]
    omega
  · simp only [Concurrent.refCount] at hfree hlast ⊢
    omega

/-- INTERNAL: what a settling operation does to the two sides. -/
theorem settle_sides {s t : Concurrent ε} (hwf : WellFormed s) {i : ℕ}
    {outcome : Except ε Bool} (hst : callStep s (.settle i outcome) = some t) :
    ∃ op, opAt s i = some op ∧ t.refCount = settledCount op outcome s.refCount ∧
      t.granted.length + acquisitions t + (if op = .release then 0 else 1) =
        s.granted.length + acquisitions s + (if succeeded op outcome then 1 else 0) := by
  cases htask : s.pool.inFlight[i]? with
  | none => simp [callStep_settle_none htask] at hst
  | some task =>
    rw [callStep_settle hwf htask] at hst
    cases hst
    refine ⟨task.op, by simp [opAt, htask], rfl, ?_⟩
    have hflight := waiting_settled htask
    simp only [acquisitions] at hflight ⊢
    cases succeeded task.op outcome <;> simp <;> omega

/-- INTERNAL: **a settling operation** keeps the equation exactly when it writes the counter
alone. Three of the five ways to settle write nothing. SOURCE: shared-lock.ts:39-41, 49-57 -/
theorem countsFlight_settle_iff {s t : Concurrent ε} (hwf : WellFormed s)
    (hcount : CountsFlight s) {i : ℕ} {outcome : Except ε Bool}
    (hD : ReleasesOnce s (.settle i outcome))
    (hst : callStep s (.settle i outcome) = some t) :
    CountsFlight t ↔ WritesAlone s (.settle i outcome) := by
  obtain ⟨op, hop, hcounter, hsides⟩ := settle_sides hwf hst
  simp only [ReleasesOnce, hop] at hD
  simp only [WritesAlone, hop]
  unfold CountsFlight at hcount ⊢
  rw [hcounter]
  cases op with
  | acquire =>
    cases outcome with
    | error e => simp [Except.isOk, Except.toBool] at hD
    | ok b =>
      have hsame : t.granted.length + acquisitions t = s.granted.length + acquisitions s := by
        simpa [succeeded] using hsides
      simp only [settledCount, reduceCtorEq, Option.some.injEq, false_implies, and_self, iff_true]
      omega
  | tryAcquire =>
    cases outcome with
    | error e => simp [Except.isOk, Except.toBool] at hD
    | ok b =>
      cases b with
      | true =>
        have hsame : t.granted.length + acquisitions t = s.granted.length + acquisitions s := by
          simpa [succeeded] using hsides
        simp only [settledCount, refused, Bool.not_true, Bool.false_eq_true, IsEmpty.forall_iff,
          imp_self, Option.some.injEq, reduceCtorEq, and_self, iff_true]
        omega
      | false =>
        -- the refusal overwrites the counter, which must have held nothing but this attempt
        have hone : t.granted.length + acquisitions t + 1 =
            s.granted.length + acquisitions s := by
          simpa [succeeded] using hsides
        simp only [settledCount, refused, Bool.not_false, forall_const, Option.some.injEq,
          reduceCtorEq, IsEmpty.forall_iff, and_true]
        omega
  | release =>
    have hsame : t.granted.length + acquisitions t = s.granted.length + acquisitions s := by
      simpa [succeeded] using hsides
    cases outcome with
    | ok b =>
      simp only [settledCount, Except.isOk, Except.toBool, Option.some.injEq, reduceCtorEq,
        IsEmpty.forall_iff, Bool.true_eq_false, imp_self, and_self, iff_true]
      omega
    | error e =>
      -- the decrement of a rejected release must have found the counter still free
      simp only [settledCount, Except.isOk, Except.toBool, Option.some.injEq, reduceCtorEq,
        IsEmpty.forall_iff, forall_const, true_and]
      omega

/-- INTERNAL: **one step** keeps the equation when it writes the counter alone. -/
theorem countsFlight_step (s : Concurrent ε) (e : CallEvent ε) (t : Concurrent ε)
    (h : WellFormed s ∧ CountsFlight s) (hD : ReleasesOnce s e) (hC : WritesAlone s e)
    (hst : callStep s e = some t) : WellFormed t ∧ CountsFlight t := by
  refine ⟨wellFormed_step s e t h.1 hst, ?_⟩
  obtain ⟨hwf, hcount⟩ := h
  cases e with
  | acquire c =>
    rw [callStep_acquire] at hst
    cases hst
    exact hcount.acquired c _ (by simp)
  | tryAcquire c =>
    rw [callStep_tryAcquire] at hst
    cases hst
    exact hcount.acquired c _ (by simp)
  | release c => exact hcount.released hD hst
  | settle i outcome => exact (countsFlight_settle_iff hwf hcount hD hst).mpr hC

/-- INTERNAL: **the calls in flight settle with success**: the counter stays, and every
acquisition in flight becomes a grant. The induction is on the calls in flight. -/
theorem drain (n : ℕ) (s : Concurrent ε) (hwf : WellFormed s)
    (hn : s.pool.inFlight.length = n) :
    ∃ t, runFrom callStep s (settleAll n) = some t ∧ t.pool.inFlight = [] ∧
      t.refCount = s.refCount ∧ t.granted.length = s.granted.length + acquisitions s := by
  induction n generalizing s with
  | zero =>
    have hnil : s.pool.inFlight = [] := List.eq_nil_of_length_eq_zero hn
    exact ⟨s, rfl, hnil, rfl, by simp [acquisitions, hnil, waiting]⟩
  | succ n ih =>
    have hlt : 0 < s.pool.inFlight.length := by omega
    obtain ⟨next, hst, hlen⟩ : ∃ next, callStep s (.settle 0 (.ok true)) = some next ∧
        next.pool.inFlight.length = n := by
      refine ⟨_, callStep_settle hwf (List.getElem?_eq_getElem hlt) (.ok true), ?_⟩
      simp only [List.length_eraseIdx_of_lt hlt]
      omega
    obtain ⟨op, -, hcounter', hsides⟩ := settle_sides hwf hst
    obtain ⟨t, hrun, hrest, hcounter, hgranted⟩ := ih next (wellFormed_step s _ _ hwf hst) hlen
    refine ⟨t, ?_, hrest, ?_, ?_⟩
    · rw [settleAll, runFrom_cons, hst]
      exact hrun
    · rw [hcounter, hcounter']
      cases op <;> rfl
    · rw [hgranted]
      cases op <;> simp [succeeded] at hsides <;> omega

/-- INTERNAL: the count is right once the calls in flight have settled exactly when the
equation holds now. -/
theorem rightOnceSettled_iff {s : Concurrent ε} (hwf : WellFormed s) :
    RightOnceSettled s ↔ CountsFlight s := by
  obtain ⟨u, hrun, hrest, hcounter, hgranted⟩ := drain _ s hwf rfl
  have hsides : max u.refCount 0 = u.granted.length ↔ CountsFlight s := by
    rw [hcounter, hgranted]
    unfold CountsFlight
    push_cast
    exact Iff.rfl
  constructor
  · intro hright
    exact hsides.mp (hright u hrun hrest)
  · intro hcount t ht _
    rw [hrun] at ht
    cases ht
    exact hsides.mpr hcount

/-- INTERNAL: a write that was not alone loses a hold, and the loss shows at rest. -/
theorem not_rightOnceSettled_of_bad_write (s : Concurrent ε) (e : CallEvent ε)
    (t : Concurrent ε) (h : WellFormed s ∧ CountsFlight s) (hD : ReleasesOnce s e)
    (hC : ¬ WritesAlone s e) (hst : callStep s e = some t) : ¬ RightOnceSettled t := by
  intro hright
  have hcounts : CountsFlight t :=
    (rightOnceSettled_iff (wellFormed_step s e t h.1 hst)).mp hright
  cases e with
  | acquire c => exact hC trivial
  | tryAcquire c => exact hC trivial
  | release c => exact hC trivial
  | settle i outcome =>
    apply hC
    exact (countsFlight_settle_iff h.1 h.2 hD hst).mp hcounts

/-- **When no hold is lost or counted twice.** In an interleaving of `acquire()`,
`tryAcquire()` and non-forced `release()` calls where grants are released at most once and
underlying acquisitions do not reject: if every refused attempt settles at `_refCount = 1`
and every rejected release at `_refCount ≤ 0`, then `max(_refCount, 0)` is the number of
grants not yet released in every state at rest. And the condition leaves nothing out: a run
meets it exactly when in each of its states the counter comes out right once the calls in
flight settle with success. SOURCE: shared-lock.ts:11-58 -/
theorem counter_conserved (es : List (CallEvent ε))
    (hD : EachStep callStep ReleasesOnce freshConcurrent es) :
    (EachStep callStep WritesAlone freshConcurrent es →
      Throughout callStep CountsAtRest freshConcurrent es) ∧
    (Throughout callStep RightOnceSettled freshConcurrent es ↔
      EachStep callStep WritesAlone freshConcurrent es) := by
  have hexact := throughout_iff_eachStep_of countsFlight_step
    (fun s h => (rightOnceSettled_iff h.1).mpr h.2)
    not_rightOnceSettled_of_bad_write
    ⟨wellFormed_fresh, by simp [CountsFlight, freshConcurrent, waiting]⟩ hD
  refine ⟨fun hC => (hexact.mpr hC).mono fun s hs hrest => ?_, hexact⟩
  exact hs s (by simp [hrest, settleAll]) hrest

/-- A refused attempt, then a release that rejects, neither overlapping another call. -/
theorem counter_conserved_in_turn :
    let es : List (CallEvent String) := [.tryAcquire 0, .settle 0 (.ok false), .acquire 0,
      .settle 0 (.ok true), .release 0, .settle 0 (.error "timeout")]
    Throughout callStep RightOnceSettled freshConcurrent es ↔
      EachStep callStep WritesAlone freshConcurrent es :=
  (counter_conserved _ (by decide)).2

/-- The attempt of caller 0 is refused after caller 1 was granted on top of it: the counter
says "free" while caller 1 holds. And the release of caller 0 rejects after caller 1 started
a new acquisition: the counter says "free" once caller 1 is granted. -/
theorem refusal_and_rejection_lose_holds :
    ¬ Throughout callStep CountsAtRest (freshConcurrent : Concurrent String)
      [.tryAcquire 0, .acquire 1, .settle 0 (.ok false)] ∧
    ¬ Throughout callStep CountsAtRest (freshConcurrent : Concurrent String)
      [.acquire 0, .settle 0 (.ok true), .release 0, .acquire 1,
        .settle 0 (.error "timeout"), .settle 0 (.ok true)] := by
  constructor
  · intro h
    have hend : runFrom callStep (freshConcurrent : Concurrent String)
        [.tryAcquire 0, .acquire 1, .settle 0 (.ok false)] = some ⟨⟨-1, []⟩, [1], false⟩ := rfl
    exact absurd (h.final hend rfl) (by decide)
  · intro h
    have hend : runFrom callStep (freshConcurrent : Concurrent String)
        [.acquire 0, .settle 0 (.ok true), .release 0, .acquire 1,
          .settle 0 (.error "timeout"), .settle 0 (.ok true)] =
        some ⟨⟨0, []⟩, [1], true⟩ := rfl
    exact absurd (h.final hend rfl) (by decide)

end Xnestjs.Analysis
