import Mathlib.Data.List.Basic

/-!
# Runs of a labelled step function

A system is a partial step function `step : σ → ε → Option σ`: `none` means that the
event cannot happen in that state. A run is the list of its events. Two things are said
about a run here:

* `Throughout step P s es`: `P` holds in every state the run `es` from `s` reaches, the
  first one included;
* `EachStep step C s es`: every step the run takes meets `C`, a condition on the state
  before the step and on the event.

`throughout_of_eachStep` is the induction that every safety proof of this development
goes through, and `throughout_iff_eachStep` its exact form: when a step outside `C`
breaks `P` at once, the runs that keep `P` are the runs whose steps all meet `C`.
-/

set_option autoImplicit false

namespace Xnestjs.Model

variable {σ ε : Type}

/-- The state a run ends in, `none` when one of its events cannot happen. -/
def runFrom (step : σ → ε → Option σ) : σ → List ε → Option σ
  | s, [] => some s
  | s, e :: es => (step s e).bind fun t => runFrom step t es

/-- `P` holds in every state that the run reaches. -/
def Throughout (step : σ → ε → Option σ) (P : σ → Prop) : σ → List ε → Prop
  | s, [] => P s
  | s, e :: es => P s ∧ ∀ t, step s e = some t → Throughout step P t es

/-- Every step that the run takes meets `C`. -/
def EachStep (step : σ → ε → Option σ) (C : σ → ε → Prop) : σ → List ε → Prop
  | _, [] => True
  | s, e :: es => ∀ t, step s e = some t → C s e ∧ EachStep step C t es

variable {step : σ → ε → Option σ} {P Q I : σ → Prop} {C D : σ → ε → Prop}

/-- An empty run stays where it is. -/
@[simp] theorem runFrom_nil (s : σ) : runFrom step s [] = some s := rfl

/-- A run makes its first step and runs on from there. -/
@[simp] theorem runFrom_cons (s : σ) (e : ε) (es : List ε) :
    runFrom step s (e :: es) = (step s e).bind fun t => runFrom step t es := rfl

/-- A run goes through its parts one after the other. -/
theorem runFrom_append (s : σ) (es es' : List ε) :
    runFrom step s (es ++ es') = (runFrom step s es).bind fun t => runFrom step t es' := by
  induction es generalizing s with
  | nil => rfl
  | cons e es ih =>
    rw [List.cons_append, runFrom_cons, runFrom_cons]
    cases step s e with
    | none => rfl
    | some t => exact ih t

/-- What holds throughout a run holds at its start. -/
theorem Throughout.head {s : σ} {es : List ε} (h : Throughout step P s es) : P s := by
  cases es with
  | nil => exact h
  | cons e es => exact h.1

/-- And at its end. -/
theorem Throughout.final {s t : σ} {es : List ε} (h : Throughout step P s es)
    (hrun : runFrom step s es = some t) : P t := by
  induction es generalizing s with
  | nil =>
    cases hrun
    exact h
  | cons e es ih =>
    obtain ⟨u, hu, hrest⟩ := Option.bind_eq_some_iff.mp hrun
    exact ih (h.2 u hu) hrest

/-- What follows from it holds throughout as well. -/
theorem Throughout.mono {s : σ} {es : List ε} (h : Throughout step P s es)
    (hPQ : ∀ s, P s → Q s) : Throughout step Q s es := by
  induction es generalizing s with
  | nil => exact hPQ s h
  | cons e es ih => exact ⟨hPQ s h.1, fun t ht => ih (h.2 t ht)⟩

/-- **The invariant rule.** An invariant of the first state that every step meeting `C`
keeps holds throughout a run whose steps all meet `C`. -/
theorem throughout_of_eachStep {s : σ} {es : List ε}
    (hstep : ∀ s e t, I s → C s e → step s e = some t → I t)
    (h0 : I s) (hC : EachStep step C s es) : Throughout step I s es := by
  induction es generalizing s with
  | nil => exact h0
  | cons e es ih =>
    refine ⟨h0, fun t ht => ?_⟩
    obtain ⟨hCe, hrest⟩ := hC t ht
    exact ih (hstep s e t h0 hCe ht) hrest

/-- **The exact rule on a domain.** Let the invariant give `P`, and let a step of the
domain `D` outside `C` lead from a state of the invariant out of `P`. Of the runs in `D`,
those that keep `P` are those whose steps all meet `C`. -/
theorem throughout_iff_eachStep_of {s : σ} {es : List ε}
    (hstep : ∀ s e t, I s → D s e → C s e → step s e = some t → I t)
    (hP : ∀ s, I s → P s)
    (hbad : ∀ s e t, I s → D s e → ¬ C s e → step s e = some t → ¬ P t)
    (h0 : I s) (hD : EachStep step D s es) :
    Throughout step P s es ↔ EachStep step C s es := by
  induction es generalizing s with
  | nil => exact ⟨fun _ => trivial, fun _ => hP s h0⟩
  | cons e es ih =>
    constructor
    · intro h t ht
      have hCe : C s e := by
        by_contra hne
        exact hbad s e t h0 (hD t ht).1 hne ht (h.2 t ht).head
      have hI := hstep s e t h0 (hD t ht).1 hCe ht
      exact ⟨hCe, (ih hI (hD t ht).2).mp (h.2 t ht)⟩
    · intro h
      refine ⟨hP s h0, fun t ht => ?_⟩
      have hI := hstep s e t h0 (hD t ht).1 (h t ht).1 ht
      exact (ih hI (hD t ht).2).mpr (h t ht).2

/-- Every step is a step. -/
theorem eachStep_true (s : σ) (es : List ε) : EachStep step (fun _ _ => True) s es := by
  induction es generalizing s with
  | nil => trivial
  | cons e es ih => exact fun t _ => ⟨trivial, ih t⟩

/-- Two conditions on the steps are one. -/
theorem EachStep.and {s : σ} {es : List ε} (hC : EachStep step C s es)
    (hD : EachStep step D s es) : EachStep step (fun s e => C s e ∧ D s e) s es := by
  induction es generalizing s with
  | nil => trivial
  | cons e es ih =>
    intro t ht
    obtain ⟨hCe, hCrest⟩ := hC t ht
    obtain ⟨hDe, hDrest⟩ := hD t ht
    exact ⟨⟨hCe, hDe⟩, ih hCrest hDrest⟩

/-- What an invariant gives of each step. -/
theorem EachStep.of_invariant {s : σ} {es : List ε}
    (hstep : ∀ s e t, I s → C s e → step s e = some t → I t ∧ D s e)
    (h0 : I s) (hC : EachStep step C s es) : EachStep step D s es := by
  induction es generalizing s with
  | nil => trivial
  | cons e es ih =>
    intro t ht
    obtain ⟨hCe, hrest⟩ := hC t ht
    obtain ⟨hI, hDe⟩ := hstep s e t h0 hCe ht
    exact ⟨hDe, ih hI hrest⟩

/-- The steps of a run that goes on are those of its beginning and then those of the rest. -/
theorem eachStep_append {s t : σ} {es : List ε} (hrun : runFrom step s es = some t)
    (es' : List ε) :
    EachStep step C s (es ++ es') ↔ EachStep step C s es ∧ EachStep step C t es' := by
  induction es generalizing s with
  | nil =>
    cases hrun
    exact (and_iff_right trivial).symm
  | cons e es ih =>
    obtain ⟨u, hu, hrest⟩ := Option.bind_eq_some_iff.mp hrun
    constructor
    · intro h
      obtain ⟨hCe, htail⟩ := h u hu
      obtain ⟨hfirst, hlast⟩ := (ih hrest).mp htail
      refine ⟨fun v hv => ?_, hlast⟩
      cases hu.symm.trans hv
      exact ⟨hCe, hfirst⟩
    · rintro ⟨hfirst, hlast⟩ v hv
      cases hu.symm.trans hv
      obtain ⟨hCe, htail⟩ := hfirst u hu
      exact ⟨hCe, (ih hrest).mpr ⟨htail, hlast⟩⟩

/-- A condition on the steps holds of the first part of a run. -/
theorem EachStep.of_append {s : σ} {es es' : List ε} (hC : EachStep step C s (es ++ es')) :
    EachStep step C s es := by
  induction es generalizing s with
  | nil => trivial
  | cons e es ih => exact fun t ht => ⟨(hC t ht).1, ih (hC t ht).2⟩

/-- A run with a step outside `C` has a first one. -/
theorem exists_first_outside {s : σ} {es : List ε} (h : ¬ EachStep step C s es) :
    ∃ before e after t u, es = before ++ e :: after ∧ runFrom step s before = some t ∧
      EachStep step C s before ∧ step t e = some u ∧ ¬ C t e := by
  induction es generalizing s with
  | nil => exact absurd trivial h
  | cons e es ih =>
    obtain ⟨t, ht, hfails⟩ : ∃ t, step s e = some t ∧ ¬ (C s e ∧ EachStep step C t es) := by
      by_contra hall
      exact h fun t ht => by_contra fun hfails => hall ⟨t, ht, hfails⟩
    by_cases hCe : C s e
    · obtain ⟨before, e', after, u, v, rfl, hrun, hbefore, hstep, hout⟩ :=
        ih fun hrest => hfails ⟨hCe, hrest⟩
      refine ⟨e :: before, e', after, u, v, rfl, ?_, fun t' ht' => ?_, hstep, hout⟩
      · rw [runFrom_cons, ht]
        exact hrun
      · cases ht.symm.trans ht'
        exact ⟨hCe, hbefore⟩
    · exact ⟨[], e, es, s, t, rfl, rfl, trivial, ht, hCe⟩

/-- **The exact rule.** When the invariant gives `P`, and a step outside `C` from a state
of the invariant leads out of `P`, the runs that keep `P` are those whose steps meet `C`. -/
theorem throughout_iff_eachStep {s : σ} {es : List ε}
    (hstep : ∀ s e t, I s → C s e → step s e = some t → I t)
    (hP : ∀ s, I s → P s)
    (hbad : ∀ s e t, I s → ¬ C s e → step s e = some t → ¬ P t)
    (h0 : I s) : Throughout step P s es ↔ EachStep step C s es :=
  throughout_iff_eachStep_of (fun s e t hI _ => hstep s e t hI) hP
    (fun s e t hI _ => hbad s e t hI) h0 (eachStep_true s es)

/-- An invariant kept by every step holds of every state a run reaches. -/
theorem invariant_of_run {s t : σ} {es : List ε}
    (hstep : ∀ s e t, I s → step s e = some t → I t)
    (h0 : I s) (hrun : runFrom step s es = some t) : I t := by
  have hthroughout : Throughout step I s es := by
    apply throughout_of_eachStep _ h0 (eachStep_true s es)
    intro s e t hI _
    exact hstep s e t hI
  exact hthroughout.final hrun

/-! ## Bounds on the steps of a run -/

/-- The number of steps of the run that are of a kind. -/
def countSteps (step : σ → ε → Option σ) (A : σ → ε → Bool) : σ → List ε → ℕ
  | _, [] => 0
  | s, e :: es =>
    (if A s e then 1 else 0) + match step s e with
      | none => 0
      | some t => countSteps step A t es

/-- **The weighed bound.** When each step of one kind uses up some of a weight, and only steps of
another kind add to it, at most `n` each, a run has at most `n` of the first for each of the
second. -/
theorem countSteps_add_weight_le {weight : σ → ℕ} {n : ℕ} {A B : σ → ε → Bool}
    (hstep : ∀ s e t, I s → step s e = some t → I t)
    (hweight : ∀ s e t, I s → step s e = some t →
      weight t + (if A s e then 1 else 0) ≤ weight s + if B s e then n else 0)
    {s t : σ} {es : List ε} (h0 : I s) (hrun : runFrom step s es = some t) :
    countSteps step A s es + weight t ≤ weight s + n * countSteps step B s es := by
  induction es generalizing s with
  | nil =>
    cases hrun
    simp [countSteps]
  | cons e es ih =>
    obtain ⟨u, hu, hrest⟩ := Option.bind_eq_some_iff.mp hrun
    have hfirst := hweight s e u h0 hu
    have hbound := ih (hstep s e u h0 hu) hrest
    simp only [countSteps, hu, Nat.mul_add]
    by_cases hadds : B s e = true
    · simp only [hadds, if_true, Nat.mul_one] at hfirst ⊢
      omega
    · simp only [hadds, Bool.false_eq_true, if_false, Nat.mul_zero] at hfirst ⊢
      omega

instance EachStep.decidable [∀ s e, Decidable (C s e)] :
    ∀ (s : σ) (es : List ε), Decidable (EachStep step C s es)
  | _, [] => isTrue trivial
  | s, e :: es =>
    match h : step s e with
    | none => isTrue fun t ht => by simp [h] at ht
    | some t =>
      have := EachStep.decidable t es
      decidable_of_iff (C s e ∧ EachStep step C t es)
        ⟨fun hC u hu => by rw [h] at hu; cases hu; exact hC, fun hC => hC t h⟩

end Xnestjs.Model
