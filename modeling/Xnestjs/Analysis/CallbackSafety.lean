import Xnestjs.Analysis.CountConservation
import Xnestjs.Analysis.GrantSafety
import Xnestjs.Program.CallbackCalls

/-!
# Callbacks and the underlying lock

A callback form releases exactly once, after its callback, so that an interleaving of forms is one
of plain calls in which only granted callers release. What is known of those carries over: which
interleavings run every callback under the underlying lock and free the lock in the end, and which
keep the count.
-/

set_option autoImplicit false

namespace Xnestjs.Analysis

open Xnestjs.Model Xnestjs.Program.SharedLock

variable {ε : Type}

/-- A callback runs only while the underlying lock is held. -/
def CallbacksHeld (s : Forms ε) : Prop :=
  ∀ task ∈ s.pool.inFlight, task.op = .callback → s.held = true

/-- The form waits for an acquisition of the underlying lock. -/
def Acquiring (task : FormTask ε) : Bool :=
  task.op = .lock .acquire ∨ task.op = .lock .tryAcquire

/-- No form is called while one waits for an acquisition. -/
def CalledAlone (s : Forms ε) : FormEvent ε → Prop
  | .acquire _ => ∀ task ∈ s.pool.inFlight, Acquiring task = false
  | .tryAcquire _ => ∀ task ∈ s.pool.inFlight, Acquiring task = false
  | .settle _ _ => True

def formOpAt (s : Forms ε) (i : ℕ) : Option FormOp := s.pool.inFlight[i]?.map Task.op

/-- No operation of the underlying lock rejects; callbacks may. -/
def LockResolves (s : Forms ε) : FormEvent ε → Prop
  | .settle i outcome => formOpAt s i ≠ some .callback → outcome.isOk = true
  | _ => True

/-- Acquisitions of the underlying lock do not reject; releases and callbacks may. -/
def AcquisitionsResolve (s : Forms ε) : FormEvent ε → Prop
  | .settle i outcome =>
    formOpAt s i = some (.lock .acquire) ∨ formOpAt s i = some (.lock .tryAcquire) →
      outcome.isOk = true
  | _ => True

/-- A refused attempt finds the counter at 1, and a rejected release finds it free. -/
def SettlesAlone (s : Forms ε) : FormEvent ε → Prop
  | .settle i outcome =>
    (formOpAt s i = some (.lock .tryAcquire) → refused outcome = true → s.refCount = 1) ∧
    (formOpAt s i = some (.lock .release) → outcome.isOk = false → s.refCount ≤ 0)
  | _ => True

/-- The counter stands for the callbacks that run and the acquisitions in flight. -/
def CountsForms (s : Forms ε) : Prop :=
  max s.refCount 0 =
    (s.pool.inFlight.countP fun task => task.op = .callback || Acquiring task : ℕ)

/-- At rest the counter is free and the underlying lock is not held. -/
def FreeAtRest (s : Forms ε) : Prop :=
  s.pool.inFlight = [] → s.refCount ≤ 0 ∧ s.held = false

instance LockResolves.decidable :
    ∀ (s : Forms ε) (e : FormEvent ε), Decidable (LockResolves s e)
  | s, .settle i outcome =>
    inferInstanceAs (Decidable (formOpAt s i ≠ some .callback → outcome.isOk = true))
  | _, .acquire _ => isTrue trivial
  | _, .tryAcquire _ => isTrue trivial

instance AcquisitionsResolve.decidable :
    ∀ (s : Forms ε) (e : FormEvent ε), Decidable (AcquisitionsResolve s e)
  | s, .settle i outcome => inferInstanceAs (Decidable (
      formOpAt s i = some (.lock .acquire) ∨ formOpAt s i = some (.lock .tryAcquire) →
        outcome.isOk = true))
  | _, .acquire _ => isTrue trivial
  | _, .tryAcquire _ => isTrue trivial

instance CalledAlone.decidable :
    ∀ (s : Forms ε) (e : FormEvent ε), Decidable (CalledAlone s e)
  | s, .acquire _ =>
    inferInstanceAs (Decidable (∀ task ∈ s.pool.inFlight, Acquiring task = false))
  | s, .tryAcquire _ =>
    inferInstanceAs (Decidable (∀ task ∈ s.pool.inFlight, Acquiring task = false))
  | _, .settle _ _ => isTrue trivial

instance SettlesAlone.decidable :
    ∀ (s : Forms ε) (e : FormEvent ε), Decidable (SettlesAlone s e)
  | s, .settle i outcome => inferInstanceAs (Decidable (
      (formOpAt s i = some (.lock .tryAcquire) → refused outcome = true → s.refCount = 1) ∧
        (formOpAt s i = some (.lock .release) → outcome.isOk = false → s.refCount ≤ 0)))
  | _, .acquire _ => isTrue trivial
  | _, .tryAcquire _ => isTrue trivial

/-! ## The plain calls of a state -/

/-- What meets one of two conditions that exclude each other is counted under one of them. -/
theorem countP_or_of_disjoint {α : Type} {p q : α → Bool} {l : List α}
    (h : ∀ a, p a = true → q a = false) :
    (l.countP fun a => p a || q a) = l.countP p + l.countP q := by
  induction l with
  | nil => rfl
  | cons a l ih =>
    simp only [List.countP_cons, ih]
    cases hp : p a with
    | false =>
      simp only [Bool.false_or, Bool.false_eq_true, if_false]
      omega
    | true =>
      have := h a hp
      simp [this]
      omega

/-- INTERNAL: the callers in their callbacks are those whose callback is in flight. -/
theorem running_length {s : Forms ε} (h : FormsWellFormed s) :
    s.running.length = s.pool.inFlight.countP fun task => task.op = .callback := by
  rw [h.running.length_eq, List.length_filterMap_eq_countP]
  refine List.countP_congr fun task _ => ?_
  unfold runningCaller
  cases task.op <;> simp

/-- INTERNAL: the acquisitions are the same without the callbacks. -/
theorem acquisitions_plain (s : Forms ε) :
    acquisitions s.plain = s.pool.inFlight.countP Acquiring := by
  simp only [acquisitions, waiting, Forms.plain, List.countP_filterMap]
  refine List.countP_congr fun task _ => ?_
  unfold plainTask Acquiring
  cases task.op with
  | callback => simp
  | lock op => cases op <;> simp

/-- INTERNAL: callbacks run with the lock held as plain calls are granted with it.
SOURCE: shared-lock.ts:11-45 -/
theorem grantsHeld_plain_iff {s : Forms ε} (h : FormsWellFormed s) :
    GrantsHeld s.plain ↔ CallbacksHeld s := by
  have hrunning : s.running ≠ [] ↔ ∃ task ∈ s.pool.inFlight, task.op = .callback := by
    rw [← List.length_pos_iff, running_length h, List.countP_pos_iff]
    simp
  constructor
  · intro hheld task htask hop
    exact hheld (hrunning.mpr ⟨task, htask, hop⟩)
  · intro hheld hne
    obtain ⟨task, htask, hop⟩ := hrunning.mp hne
    exact hheld task htask hop

/-- INTERNAL: both sides count the running callbacks and the acquisitions in flight. -/
theorem countsFlight_plain_iff {s : Forms ε} (h : FormsWellFormed s) :
    CountsFlight s.plain ↔ CountsForms s := by
  have hsum : (s.pool.inFlight.countP fun task => task.op = .callback || Acquiring task) =
      s.running.length + acquisitions s.plain := by
    rw [running_length h, acquisitions_plain]
    refine countP_or_of_disjoint fun task hop => ?_
    simp [Acquiring, of_decide_eq_true hop]
  unfold CountsFlight CountsForms
  rw [hsum]
  push_cast
  exact Iff.rfl

/-- INTERNAL: so is the condition that forms are called alone. -/
theorem noOverlap_plain_iff (s : Forms ε) (e : FormEvent ε) :
    NoOverlap s.plain (plainEvent s e) ↔ CalledAlone s e := by
  have halone : acquisitions s.plain = 0 ↔ ∀ task ∈ s.pool.inFlight, Acquiring task = false := by
    rw [acquisitions_plain, List.countP_eq_zero]
    simp
  cases e with
  | acquire c => exact halone
  | tryAcquire c => exact halone
  | settle i outcome =>
    cases htask : s.pool.inFlight[i]? with
    | none => simp only [plainEvent, htask, NoOverlap, CalledAlone]
    | some task =>
      cases hop : task.op <;> simp only [plainEvent, htask, hop, NoOverlap, CalledAlone]

/-- INTERNAL: what settles is a callback or an operation of the underlying lock. -/
theorem settle_cases {s t : Forms ε} {i : ℕ} {outcome : Except ε Bool}
    (hst : formStep s (.settle i outcome) = some t) :
    ∃ task, s.pool.inFlight[i]? = some task ∧
      ((task.op = .callback ∧ plainEvent s (.settle i outcome) = .release task.tag) ∨
      ∃ op k, task.op = .lock op ∧ plainEvent s (.settle i outcome) = .settle k outcome ∧
        opAt s.plain k = some op) := by
  cases htask : s.pool.inFlight[i]? with
  | none => simp [formStep_settle_none htask] at hst
  | some task =>
    refine ⟨task, rfl, ?_⟩
    cases hop : task.op with
    | callback => exact Or.inl ⟨rfl, by simp only [plainEvent, htask, hop]⟩
    | lock op =>
      refine Or.inr ⟨op, ((s.pool.inFlight.take i).filterMap plainTask).length, rfl,
        by simp only [plainEvent, htask, hop], ?_⟩
      obtain ⟨plain, hplain, hplainOp⟩ : ∃ plain, plainTask task = some plain ∧
          plain.op = op := by
        unfold plainTask
        rw [hop]
        cases op <;> exact ⟨_, rfl, rfl⟩
      rw [opAt, show s.plain.pool.inFlight[_]? = some plain from
        getElem?_filterMap_of_some htask hplain, Option.map_some, hplainOp]

/-- INTERNAL: and that the operations of the lock do not reject. -/
theorem operationsSucceed_plain {s : Forms ε} (h : FormsWellFormed s) {e : FormEvent ε}
    {t : Forms ε} (hst : formStep s e = some t) (hD : LockResolves s e) :
    OperationsSucceed s.plain (plainEvent s e) := by
  cases e with
  | acquire c => trivial
  | tryAcquire c => trivial
  | settle i outcome =>
    obtain ⟨task, htask, ⟨hop, hevent⟩ | ⟨op, k, hop, hevent, -⟩⟩ := settle_cases hst
    · rw [hevent]
      exact h.mem_running htask hop
    · rw [hevent]
      exact hD (by simp [formOpAt, htask, hop])

/-- INTERNAL: a form releases once, so that plain calls release what was granted. -/
theorem releasesOnce_plain {s : Forms ε} (h : FormsWellFormed s) {e : FormEvent ε}
    {t : Forms ε} (hst : formStep s e = some t) (hD : AcquisitionsResolve s e) :
    ReleasesOnce s.plain (plainEvent s e) := by
  cases e with
  | acquire c => trivial
  | tryAcquire c => trivial
  | settle i outcome =>
    obtain ⟨task, htask, ⟨hop, hevent⟩ | ⟨op, k, hop, hevent, hk⟩⟩ := settle_cases hst
    · rw [hevent]
      exact h.mem_running htask hop
    · rw [hevent]
      intro hne
      rw [hk] at hne
      apply hD
      rw [formOpAt, htask, Option.map_some, hop]
      cases op with
      | acquire => exact Or.inl rfl
      | tryAcquire => exact Or.inr rfl
      | release => exact absurd rfl hne

/-- INTERNAL: the writes that count wrong are the same without the callbacks. -/
theorem writesAlone_plain_iff {s : Forms ε} {e : FormEvent ε} {t : Forms ε}
    (hst : formStep s e = some t) : WritesAlone s.plain (plainEvent s e) ↔ SettlesAlone s e := by
  cases e with
  | acquire c => exact Iff.rfl
  | tryAcquire c => exact Iff.rfl
  | settle i outcome =>
    obtain ⟨task, htask, ⟨hop, hevent⟩ | ⟨op, k, hop, hevent, hk⟩⟩ := settle_cases hst
    · rw [hevent]
      simp [WritesAlone, SettlesAlone, formOpAt, htask, hop]
    · rw [hevent]
      simp only [WritesAlone, SettlesAlone, hk, formOpAt, htask, Option.map_some, hop,
        Option.some.injEq, FormOp.lock.injEq]
      exact Iff.rfl

/-! ## Safety -/

/-- INTERNAL: a form called alone keeps the phases of the plain calls. -/
theorem formPhase_step (s : Forms ε) (e : FormEvent ε) (t : Forms ε)
    (h : FormsWellFormed s ∧ Phase s.plain) (hD : LockResolves s e) (hC : CalledAlone s e)
    (hst : formStep s e = some t) : FormsWellFormed t ∧ Phase t.plain := by
  obtain ⟨hwf, hphase⟩ := h
  refine ⟨formsWellFormed_step s e t hwf hst, ?_⟩
  have hplain : callStep s.plain (plainEvent s e) = some t.plain := plain_step s e t hwf hst
  have hsucceed := operationsSucceed_plain hwf hst hD
  have halone := (noOverlap_plain_iff s e).mpr hC
  exact (phase_step _ _ _ ⟨wellFormed_plain s, hphase⟩ hsucceed halone hplain).2

/-- INTERNAL: in each phase a state at rest is free. -/
theorem freeAtRest_of_phase {s : Forms ε} (hwf : FormsWellFormed s) (h : Phase s.plain) :
    FreeAtRest s := by
  intro hrest
  have hrunning : s.running = [] := by
    have hperm := hwf.running
    rw [hrest] at hperm
    exact hperm.eq_nil
  have hnone : acquisitions s.plain = 0 := by rw [acquisitions_plain, hrest, List.countP_nil]
  cases h with
  | free _ _ hcount hheld => exact ⟨hcount, hheld⟩
  | acquiring hone => omega
  | held _ hgranted => exact absurd hrunning hgranted

/-- **When every callback runs under the underlying lock.** In an interleaving of
`acquire(callback)` and `tryAcquire(callback)` calls whose callbacks settle in any way and at any
moment, while no operation of the underlying lock rejects: every callback runs with the underlying
lock held exactly when no form is called while another waits for an acquisition. And then every
state at rest has the counter free and the underlying lock released, rejected callbacks or not.
SOURCE: shared-lock.ts:11-58 -/
theorem callbacks_held_iff (es : List (FormEvent ε))
    (hD : EachStep formStep LockResolves freshForms es) :
    (Throughout formStep CallbacksHeld freshForms es ↔
      EachStep formStep CalledAlone freshForms es) ∧
    (EachStep formStep CalledAlone freshForms es →
      Throughout formStep FreeAtRest freshForms es) := by
  have hstart : FormsWellFormed (freshForms : Forms ε) ∧ Phase (freshForms : Forms ε).plain :=
    ⟨formsWellFormed_fresh, .free rfl rfl (show (0 : ℤ) ≤ 0 by decide) rfl⟩
  constructor
  · refine throughout_iff_eachStep_of formPhase_step ?_ ?_ hstart hD
    · exact fun s h => (grantsHeld_plain_iff h.1).mp h.2.grantsHeld
    · intro s e t h _ hC hst hsafe
      have hplain : callStep s.plain (plainEvent s e) = some t.plain := plain_step s e t h.1 hst
      have hheld := (grantsHeld_plain_iff (formsWellFormed_step s e t h.1 hst)).mpr hsafe
      refine not_grantsHeld_of_overlap _ _ _ h.2 (fun halone => hC ?_) hplain hheld
      exact (noOverlap_plain_iff s e).mp halone
  · intro hC
    have hboth : EachStep formStep (fun s e => LockResolves s e ∧ CalledAlone s e) freshForms es :=
      hD.and hC
    have hphases := throughout_of_eachStep (I := fun s => FormsWellFormed s ∧ Phase s.plain)
      (fun s e t h hDC => formPhase_step s e t h hDC.1 hDC.2) hstart hboth
    exact hphases.mono fun s h => freeAtRest_of_phase h.1 h.2

/-- Caller 1 is counted on top of caller 0, whose callback rejects: both callbacks run under the
underlying lock, and it is released in the end. -/
theorem callbacks_held_iff_in_turn :
    let es : List (FormEvent String) := [.acquire 0, .settle 0 (.ok true), .acquire 1,
      .settle 0 (.error "callback"), .settle 0 (.ok false), .settle 0 (.ok true)]
    Throughout formStep CallbacksHeld freshForms es ∧
      Throughout formStep FreeAtRest freshForms es := by
  intro es
  obtain ⟨hheld, hrest⟩ := callbacks_held_iff es (by decide)
  have halone : EachStep formStep CalledAlone freshForms es := by decide
  exact ⟨hheld.mpr halone, hrest halone⟩

/-! ## Conservation -/

/-- INTERNAL: a step that writes the counter alone keeps the equation. -/
theorem countsForms_step (s : Forms ε) (e : FormEvent ε) (t : Forms ε)
    (h : FormsWellFormed s ∧ CountsForms s) (hD : AcquisitionsResolve s e)
    (hC : SettlesAlone s e) (hst : formStep s e = some t) :
    FormsWellFormed t ∧ CountsForms t := by
  obtain ⟨hwf, hcount⟩ := h
  have hwf' := formsWellFormed_step s e t hwf hst
  have hplain : callStep s.plain (plainEvent s e) = some t.plain := plain_step s e t hwf hst
  have honce := releasesOnce_plain hwf hst hD
  have halone := (writesAlone_plain_iff hst).mpr hC
  have hflight := (countsFlight_plain_iff hwf).mpr hcount
  have hflight' := (countsFlight_step _ _ _ ⟨wellFormed_plain s, hflight⟩ honce halone hplain).2
  exact ⟨hwf', (countsFlight_plain_iff hwf').mp hflight'⟩

/-- INTERNAL: a write that was not alone breaks it at once. -/
theorem not_countsForms_of_bad_write (s : Forms ε) (e : FormEvent ε) (t : Forms ε)
    (h : FormsWellFormed s ∧ CountsForms s) (hD : AcquisitionsResolve s e)
    (hC : ¬ SettlesAlone s e) (hst : formStep s e = some t) : ¬ CountsForms t := by
  intro hcounts
  obtain ⟨hwf, hcount⟩ := h
  have hplain : callStep s.plain (plainEvent s e) = some t.plain := plain_step s e t hwf hst
  have hflight := (countsFlight_plain_iff hwf).mpr hcount
  have hflight' := (countsFlight_plain_iff (formsWellFormed_step s e t hwf hst)).mpr hcounts
  have honce := releasesOnce_plain hwf hst hD
  apply hC
  apply (writesAlone_plain_iff hst).mp
  cases hevent : plainEvent s e with
  | acquire c => trivial
  | tryAcquire c => trivial
  | release c => trivial
  | settle k outcome =>
    rw [hevent] at hplain honce
    exact (countsFlight_settle_iff (wellFormed_plain s) hflight honce hplain).mp hflight'

/-- **What the counter counts.** In an interleaving of `acquire(callback)` and
`tryAcquire(callback)` calls in which acquisitions of the underlying lock do not reject, while its
releases and the callbacks may: `max(_refCount, 0)` is the number of callbacks that run and of
acquisitions in flight, in every state, exactly when each refused attempt settles at
`_refCount = 1` and each rejected release at `_refCount ≤ 0`. SOURCE: shared-lock.ts:11-58 -/
theorem forms_counted_iff (es : List (FormEvent ε))
    (hD : EachStep formStep AcquisitionsResolve freshForms es) :
    Throughout formStep CountsForms freshForms es ↔
      EachStep formStep SettlesAlone freshForms es :=
  throughout_iff_eachStep_of countsForms_step (fun _ h => h.2) not_countsForms_of_bad_write
    ⟨formsWellFormed_fresh, rfl⟩ hD

/-- A refused attempt, then a form whose callback and release reject: each is counted while it is
there. -/
theorem forms_counted_iff_in_turn :
    let es : List (FormEvent String) := [.tryAcquire 0, .settle 0 (.ok false), .acquire 0,
      .settle 0 (.ok true), .settle 0 (.error "callback"), .settle 0 (.error "timeout")]
    Throughout formStep CountsForms freshForms es := by
  intro es
  have halone : EachStep formStep SettlesAlone freshForms es := by decide
  exact (forms_counted_iff es (by decide)).mpr halone

end Xnestjs.Analysis
