import Xnestjs.Analysis.CallbackSafety
import Xnestjs.Model.Interleaving

/-!
# Critical sections under several shared locks

Several shared locks for the same key, in one process or in several, are each over a lock of their
own, and these locks exclude each other: none of them is acquired while one of them is held. The
callbacks of one shared lock may run together. Those of two never do, in any interleaving, when
no form of either is called while one of it waits for an acquisition. And no weaker condition on a
shared lock will do: with a form that is called then, its callback runs while that of another shared
lock does, in some interleaving, even if all others keep to the condition.
-/

set_option autoImplicit false

namespace Xnestjs.Analysis

open Xnestjs.Model Xnestjs.Program.SharedLock

variable {ι ε : Type}

/-- An acquisition of the underlying lock completes. -/
def takesLock (s : Forms ε) : FormEvent ε → Bool
  | .settle i outcome =>
    match formOpAt s i with
    | some (.lock op) => succeeded op outcome
    | _ => false
  | _ => false

/-- The underlying locks exclude each other: an acquisition completes only while none of them is
held. Locks that are lost while they are held are left out. -/
def GrantedAlone (s : ι → Forms ε) (e : ι × FormEvent ε) : Prop :=
  takesLock (s e.1) e.2 = true → ∀ q, (s q).held = false

/-- Callbacks of one shared lock at most run. -/
def SectionsExclude (s : ι → Forms ε) : Prop :=
  ∀ p q, (s p).running ≠ [] → (s q).running ≠ [] → p = q

/-- The operations of the underlying lock do not reject, and no form is called while another waits
for an acquisition. -/
def KeepsToCondition (s : Forms ε) (e : FormEvent ε) : Prop := LockResolves s e ∧ CalledAlone s e

/-- Where a shared lock is while it is kept to the condition. -/
def FormPhase (s : Forms ε) : Prop := FormsWellFormed s ∧ Phase s.plain

/-- INTERNAL: a fresh lock is free. -/
theorem formPhase_fresh : FormPhase (freshForms : Forms ε) :=
  ⟨formsWellFormed_fresh, .free rfl rfl (show (0 : ℤ) ≤ 0 by decide) rfl⟩

/-! ## One shared lock -/

/-- INTERNAL: the underlying lock comes to be held by an acquisition that completes.
SOURCE: shared-lock.ts:11-58 -/
theorem held_of_step {s t : Forms ε} {e : FormEvent ε} (h : FormsWellFormed s)
    (hst : formStep s e = some t) (hheld : t.held = true) :
    s.held = true ∨ takesLock s e = true := by
  cases e with
  | acquire c =>
    rw [formStep_acquire] at hst
    cases hst
    split_ifs at hheld <;> exact Or.inl hheld
  | tryAcquire c =>
    rw [formStep_tryAcquire] at hst
    cases hst
    split_ifs at hheld <;> exact Or.inl hheld
  | settle i outcome =>
    obtain ⟨task, htask, hsettled⟩ := settlement_of_step h.suspended hst
    cases hsettled with
    | callback hop =>
      split_ifs at hheld
      · exact Or.inl hheld
      · exact Or.inl hheld
    | acquired op hop hrelease =>
      have htakes : takesLock s (.settle i outcome) = succeeded op outcome := by
        simp [takesLock, formOpAt, htask, hop]
      rw [htakes]
      exact Bool.or_eq_true_iff.mp hheld
    | released hop => exact Or.inl hheld

/-- INTERNAL: while an acquisition is in flight, the underlying lock is not held, and the counter
is 1. -/
theorem FormPhase.acquiring {s : Forms ε} (h : FormPhase s) {task : FormTask ε}
    (htask : task ∈ s.pool.inFlight) (hacquiring : Acquiring task = true) :
    s.held = false ∧ s.refCount = 1 := by
  have hpos : 0 < acquisitions s.plain := by
    rw [acquisitions_plain]
    exact List.countP_pos_iff.mpr ⟨task, htask, hacquiring⟩
  cases h.2 with
  | free hnone => omega
  | acquiring _ _ hcount hheld => exact ⟨hheld, hcount⟩
  | held hnone => omega

/-- INTERNAL: so an acquisition completes while the lock is not held. -/
theorem FormPhase.not_held_of_takesLock {s : Forms ε} (h : FormPhase s) {e : FormEvent ε}
    (htakes : takesLock s e = true) : s.held = false := by
  cases e with
  | acquire c => cases htakes
  | tryAcquire c => cases htakes
  | settle i outcome =>
    cases htask : s.pool.inFlight[i]? with
    | none => simp [takesLock, formOpAt, htask] at htakes
    | some task =>
      refine (h.acquiring (List.mem_of_getElem? htask) ?_).1
      cases hop : task.op with
      | callback => simp [takesLock, formOpAt, htask, hop] at htakes
      | lock op =>
        have hsucceeded : succeeded op outcome = true := by
          simpa [takesLock, formOpAt, htask, hop] using htakes
        cases op with
        | acquire => simp [Acquiring, hop]
        | tryAcquire => simp [Acquiring, hop]
        | release => cases hsucceeded

/-- INTERNAL: **a form that overtakes an acquisition** has its callback run at once, without the
underlying lock. SOURCE: shared-lock.ts:20-25, 37-44 -/
theorem FormPhase.overtaking {s t : Forms ε} (h : FormPhase s) {e : FormEvent ε}
    (hC : ¬ CalledAlone s e) (hst : formStep s e = some t) :
    s.held = false ∧ takesLock s e = false ∧ t.running ≠ [] := by
  have hacquiring : (¬ ∀ task ∈ s.pool.inFlight, Acquiring task = false) →
      s.held = false ∧ s.refCount = 1 := by
    intro hnot
    simp only [not_forall, Bool.not_eq_false] at hnot
    obtain ⟨task, htask, hone⟩ := hnot
    exact h.acquiring htask hone
  cases e with
  | acquire c =>
    obtain ⟨hheld, hcount⟩ := hacquiring hC
    rw [formStep_acquire, if_neg (by omega)] at hst
    cases hst
    exact ⟨hheld, rfl, List.cons_ne_nil _ _⟩
  | tryAcquire c =>
    obtain ⟨hheld, hcount⟩ := hacquiring hC
    rw [formStep_tryAcquire, if_neg (by omega)] at hst
    cases hst
    exact ⟨hheld, rfl, List.cons_ne_nil _ _⟩
  | settle i outcome => exact absurd trivial hC

/-- INTERNAL: callbacks run under the underlying lock. -/
theorem FormPhase.held_of_running {s : Forms ε} (h : FormPhase s) (hrunning : s.running ≠ []) :
    s.held = true := h.2.grantsHeld hrunning

/-! ## All of them -/

/-- Every shared lock is in its phase, and the underlying lock of one at most is held. -/
structure ExclusiveInv (s : ι → Forms ε) : Prop where
  phase : ∀ p, FormPhase (s p)
  one : ∀ p q, (s p).held = true → (s q).held = true → p = q

/-- INTERNAL: fresh locks exclude each other. -/
theorem exclusiveInv_fresh : ExclusiveInv fun _ : ι => (freshForms : Forms ε) :=
  ⟨fun _ => formPhase_fresh, fun _ _ hp _ => by cases hp⟩

section

variable [DecidableEq ι]

/-- A step of one of the shared locks. -/
abbrev locksStep : (ι → Forms ε) → ι × FormEvent ε → Option (ι → Forms ε) :=
  interleavedStep formStep

/-- INTERNAL: a step that keeps to the condition keeps the exclusion. -/
theorem exclusiveInv_step (s : ι → Forms ε) (e : ι × FormEvent ε) (t : ι → Forms ε)
    (h : ExclusiveInv s) (hC : KeepsToCondition (s e.1) e.2 ∧ GrantedAlone s e)
    (hst : locksStep s e = some t) : ExclusiveInv t := by
  obtain ⟨i, e⟩ := e
  obtain ⟨⟨hresolves, halone⟩, hgranted⟩ := hC
  obtain ⟨u, hu, rfl⟩ := interleavedStep_eq_some_iff.mp hst
  have hphase : FormPhase u := formPhase_step (s i) e u (h.phase i) hresolves halone hu
  -- who else holds, held before, so that the acquisition of `i` was not now
  have hothers : ∀ q, u.held = true → (s q).held = true → i = q := by
    intro q hheld hq
    rcases held_of_step (h.phase i).1 hu hheld with hbefore | htakes
    · exact h.one i q hbefore hq
    · rw [hgranted htakes q] at hq
      cases hq
  constructor
  · intro p
    by_cases hp : p = i
    · subst hp
      rwa [Function.update_self]
    · rw [Function.update_of_ne hp]
      exact h.phase p
  · intro p q hp hq
    by_cases hpi : p = i
    · by_cases hqi : q = i
      · rw [hpi, hqi]
      · rw [hpi, Function.update_self] at hp
        rw [Function.update_of_ne hqi] at hq
        exact hpi.trans (hothers q hp hq)
    · rw [Function.update_of_ne hpi] at hp
      by_cases hqi : q = i
      · rw [hqi, Function.update_self] at hq
        exact ((hothers p hq hp).symm).trans hqi.symm
      · rw [Function.update_of_ne hqi] at hq
        exact h.one p q hp hq

/-- INTERNAL: **sections of different locks exclude each other** when all keep to the condition. -/
theorem sectionsExclude_of_keepsToCondition {tr : List (ι × FormEvent ε)}
    (hgranted : EachStep locksStep GrantedAlone (fun _ => freshForms) tr)
    (hkeep : ∀ r, EachStep formStep KeepsToCondition freshForms (eventsOf r tr)) :
    Throughout locksStep SectionsExclude (fun _ => freshForms) tr := by
  have hsteps : EachStep locksStep (fun s e => KeepsToCondition (s e.1) e.2)
      (fun _ => freshForms) tr := eachStep_interleaved (C := fun _ => KeepsToCondition) hkeep
  have hinv := throughout_of_eachStep exclusiveInv_step exclusiveInv_fresh (hsteps.and hgranted)
  refine hinv.mono fun s h p q hp hq => ?_
  exact h.one p q ((h.phase p).held_of_running hp) ((h.phase q).held_of_running hq)

/-- INTERNAL: a shared lock alone acquires its lock while none is held. -/
theorem grantedAlone_of_alone (p : ι) {es : List (FormEvent ε)}
    (h : EachStep formStep KeepsToCondition freshForms es) :
    EachStep locksStep GrantedAlone (fun _ => freshForms) (es.map fun e => (p, e)) := by
  have hphase : EachStep formStep
      (fun u e => GrantedAlone (Function.update (fun _ => freshForms) p u) (p, e))
      freshForms es := by
    refine EachStep.of_invariant (I := FormPhase) ?_ formPhase_fresh h
    intro u e v hu hC huv
    refine ⟨formPhase_step u e v hu hC.1 hC.2 huv, fun htakes q => ?_⟩
    simp only [Function.update_self] at htakes
    by_cases hq : q = p
    · rw [hq, Function.update_self]
      exact hu.not_held_of_takesLock htakes
    · rw [Function.update_of_ne hq]
      rfl
  have halone := eachStep_alone p hphase
  rwa [Function.update_eq_self] at halone

/-- A shared lock whose caller 0 runs its callback. -/
def insideForms : Forms ε := ⟨⟨1, [⟨0, .callback, afterCallback⟩]⟩, [0], true⟩

/-- INTERNAL: a new shared lock acquires its lock, while none is held. -/
theorem other_acquires {q : ι} {s : ι → Forms ε} (hq : s q = freshForms)
    (hfree : ∀ r, (s r).held = false) :
    runFrom locksStep s [(q, .acquire 0), (q, .settle 0 (.ok true))] =
        some (Function.update s q insideForms) ∧
      EachStep locksStep GrantedAlone s [(q, .acquire 0), (q, .settle 0 (.ok true))] := by
  let waiting : Forms ε := ⟨⟨1, [⟨0, .lock .acquire, afterAcquireForm⟩]⟩, [], false⟩
  have hcall : locksStep s (q, .acquire 0) = some (Function.update s q waiting) := by
    refine interleavedStep_eq_some_iff.mpr ⟨waiting, ?_, rfl⟩
    simp only [hq]
    rw [formStep_acquire]
    rfl
  have hgrant : locksStep (Function.update s q waiting) (q, .settle 0 (.ok true)) =
      some (Function.update s q insideForms) := by
    refine interleavedStep_eq_some_iff.mpr ⟨insideForms, ?_, ?_⟩
    · rw [Function.update_self]
      rfl
    · rw [Function.update_idem]
  constructor
  · rw [runFrom_cons, hcall, Option.bind_some, runFrom_cons, hgrant]
    rfl
  · intro s₁ hs₁
    cases hcall.symm.trans hs₁
    refine ⟨fun hnone => absurd hnone Bool.false_ne_true, fun s₂ hs₂ => ⟨fun _ r => ?_, trivial⟩⟩
    by_cases hr : r = q
    · rw [hr, Function.update_self]
    · rw [Function.update_of_ne hr]
      exact hfree r

/-- INTERNAL: **a form that overtakes an acquisition** meets a form of another shared lock whose
acquisition has completed in between. -/
theorem sections_overlap {p q : ι} (hpq : p ≠ q) {before : List (FormEvent ε)} {e : FormEvent ε}
    {s t : Forms ε} (hbefore : EachStep formStep KeepsToCondition freshForms before)
    (hrun : runFrom formStep freshForms before = some s) (hC : ¬ CalledAlone s e)
    (hst : formStep s e = some t) :
    let tr := before.map (fun e => (p, e)) ++
      ([(q, .acquire 0), (q, .settle 0 (.ok true))] ++ [(p, e)])
    EachStep locksStep GrantedAlone (fun _ => freshForms) tr ∧
      ∃ u, runFrom locksStep (fun _ => freshForms) tr = some u ∧ ¬ SectionsExclude u := by
  have hphase : FormPhase s := by
    refine Throughout.final ?_ hrun
    exact throughout_of_eachStep (fun s e t h hC => formPhase_step s e t h hC.1 hC.2)
      formPhase_fresh hbefore
  obtain ⟨hheld, htakes, hrunning⟩ := hphase.overtaking hC hst
  -- the state after the forms of `p`
  let s₀ : ι → Forms ε := Function.update (fun _ => freshForms) p s
  have hfirst : runFrom locksStep (fun _ => freshForms) (before.map fun e => (p, e)) = some s₀ :=
    runFrom_alone p hrun
  have hfree : ∀ r, (s₀ r).held = false := by
    intro r
    by_cases hr : r = p
    · rw [hr]
      simp only [s₀, Function.update_self]
      exact hheld
    · simp only [s₀, Function.update_of_ne hr]
      rfl
  have hq : s₀ q = freshForms := Function.update_of_ne (Ne.symm hpq) _ _
  obtain ⟨hother, hgranted⟩ := other_acquires hq hfree
  have hp : Function.update s₀ q insideForms p = s := by
    rw [Function.update_of_ne hpq]
    exact Function.update_self _ _ _
  have hovertake : locksStep (Function.update s₀ q insideForms) (p, e) =
      some (Function.update (Function.update s₀ q insideForms) p t) :=
    interleavedStep_eq_some_iff.mpr ⟨t, by rw [hp]; exact hst, rfl⟩
  have hlast : EachStep locksStep GrantedAlone (Function.update s₀ q insideForms) [(p, e)] := by
    refine fun s₁ _ => ⟨fun h => ?_, trivial⟩
    rw [hp, htakes] at h
    cases h
  refine ⟨?_, Function.update (Function.update s₀ q insideForms) p t, ?_, fun hexclude => hpq ?_⟩
  · apply (eachStep_append hfirst _).mpr
    exact ⟨grantedAlone_of_alone p hbefore, (eachStep_append hother _).mpr ⟨hgranted, hlast⟩⟩
  · rw [runFrom_append, hfirst, Option.bind_some, runFrom_append, hother, Option.bind_some,
      runFrom_cons, hovertake]
    rfl
  · apply hexclude p q
    · rw [Function.update_self]
      exact hrunning
    · rw [Function.update_of_ne (Ne.symm hpq), Function.update_self]
      exact List.cons_ne_nil _ _

/-- **When the sections of a shared lock are safe.** The forms `es` of a shared lock, or some of the
first of them, are interleaved with those of any number of other shared locks, which keep to the
condition, over locks that exclude each other; none of its lock operations rejects. Callbacks of
two shared locks never run at once, in any such interleaving, exactly when no form in `es` is called
while another one waits for an acquisition. SOURCE: shared-lock.ts:11-58 -/
theorem sections_exclude_iff {p q : ι} (hpq : p ≠ q) (es : List (FormEvent ε))
    (hD : EachStep formStep LockResolves freshForms es) :
    (∀ tr : List (ι × FormEvent ε), eventsOf p tr <+: es →
      (∀ r, r ≠ p → EachStep formStep KeepsToCondition freshForms (eventsOf r tr)) →
      EachStep locksStep GrantedAlone (fun _ => freshForms) tr →
      Throughout locksStep SectionsExclude (fun _ => freshForms) tr) ↔
    EachStep formStep CalledAlone freshForms es := by
  constructor
  · intro hall
    by_contra hout
    obtain ⟨before, e, after, s, t, rfl, hrun, hbefore, hst, hC⟩ := exists_first_outside hout
    have hkeep : EachStep formStep KeepsToCondition freshForms before := hD.of_append.and hbefore
    obtain ⟨hgranted, u, hu, hoverlap⟩ := sections_overlap hpq hkeep hrun hC hst
    refine hoverlap ((hall _ ?_ ?_ hgranted).final hu)
    · rw [eventsOf_append, eventsOf_alone, List.cons_append, List.singleton_append,
        eventsOf_cons_of_ne (Ne.symm hpq), eventsOf_cons_of_ne (Ne.symm hpq), eventsOf_cons_self,
        eventsOf_nil]
      exact ⟨after, by simp⟩
    · intro r hr
      rw [eventsOf_append, eventsOf_other (Ne.symm hr), List.nil_append, List.cons_append,
        List.singleton_append]
      by_cases hrq : r = q
      · subst hrq
        rw [eventsOf_cons_self, eventsOf_cons_self, eventsOf_cons_of_ne (Ne.symm hr), eventsOf_nil]
        intro s₁ hs₁
        cases hs₁
        refine ⟨⟨trivial, fun task htask => absurd htask List.not_mem_nil⟩, fun s₂ hs₂ => ?_⟩
        exact ⟨⟨fun _ => rfl, trivial⟩, trivial⟩
      · rw [eventsOf_cons_of_ne (Ne.symm hrq), eventsOf_cons_of_ne (Ne.symm hrq),
          eventsOf_cons_of_ne (Ne.symm hr), eventsOf_nil]
        trivial
  · intro halone tr hprefix hothers hgranted
    refine sectionsExclude_of_keepsToCondition hgranted fun r => ?_
    by_cases hr : r = p
    · obtain ⟨after, rfl⟩ := hprefix
      subst hr
      exact hD.of_append.and halone.of_append
    · exact hothers r hr

/-- Two forms of a shared lock, the second one counted on top of the first: no callback of another
shared lock runs beside theirs. -/
theorem sections_exclude_iff_in_turn :
    let es : List (FormEvent String) := [.acquire 0, .settle 0 (.ok true), .acquire 1,
      .settle 0 (.error "callback"), .settle 0 (.ok false), .settle 0 (.ok true)]
    ∀ tr : List (Bool × FormEvent String), eventsOf true tr <+: es →
      (∀ r, r ≠ true → EachStep formStep KeepsToCondition freshForms (eventsOf r tr)) →
      EachStep locksStep GrantedAlone (fun _ => freshForms) tr →
      Throughout locksStep SectionsExclude (fun _ => freshForms) tr := by
  intro es
  have halone : EachStep formStep CalledAlone freshForms es := by decide
  exact (sections_exclude_iff (show true ≠ false by decide) es (by decide)).mpr halone

end

end Xnestjs.Analysis
