import Xnestjs.Model.Run
import Mathlib.Logic.Function.Basic

/-!
# Components that step one at a time

A system of components of one kind, each with a state of its own: an event belongs to one
component, which takes the step, and the others stay as they are. A run of the system is a run of
each of its components, by the events that are its own, and what holds of each step of these runs
holds of each step of the system.
-/

set_option autoImplicit false

namespace Xnestjs.Model

variable {ι σ ε : Type} [DecidableEq ι] (step : σ → ε → Option σ)

/-- A step of the system is a step of one component. -/
def interleavedStep (s : ι → σ) (e : ι × ε) : Option (ι → σ) :=
  (step (s e.1) e.2).map (Function.update s e.1)

/-- The events of a component, in their order. -/
def eventsOf (i : ι) (tr : List (ι × ε)) : List ε :=
  tr.filterMap fun e => if e.1 = i then some e.2 else none

/-- An empty run has no events of anybody. -/
@[simp] theorem eventsOf_nil (i : ι) : eventsOf i ([] : List (ι × ε)) = [] := rfl

/-- An event of a component is the first of its events. -/
@[simp] theorem eventsOf_cons_self (i : ι) (e : ε) (tr : List (ι × ε)) :
    eventsOf i ((i, e) :: tr) = e :: eventsOf i tr := by
  simp [eventsOf]

/-- An event of another component is none of its events. -/
theorem eventsOf_cons_of_ne {i j : ι} (h : j ≠ i) (e : ε) (tr : List (ι × ε)) :
    eventsOf i ((j, e) :: tr) = eventsOf i tr := by
  simp [eventsOf, h]

/-- The events of a component in a run are those of its parts. -/
theorem eventsOf_append (i : ι) (tr tr' : List (ι × ε)) :
    eventsOf i (tr ++ tr') = eventsOf i tr ++ eventsOf i tr' :=
  List.filterMap_append

/-- The run of a component alone is made of its own events. -/
theorem eventsOf_alone (i : ι) (es : List ε) : eventsOf i (es.map fun e => (i, e)) = es := by
  induction es with
  | nil => rfl
  | cons e es ih => rw [List.map_cons, eventsOf_cons_self, ih]

/-- And has none of another. -/
theorem eventsOf_other {i j : ι} (h : i ≠ j) (es : List ε) :
    eventsOf j (es.map fun e => (i, e)) = [] := by
  induction es with
  | nil => rfl
  | cons e es ih => rw [List.map_cons, eventsOf_cons_of_ne h, ih]

variable {step} {s t : ι → σ}

/-- A step of the whole is a step of one component, and changes no other. -/
theorem interleavedStep_eq_some_iff {e : ι × ε} :
    interleavedStep step s e = some t ↔
      ∃ u, step (s e.1) e.2 = some u ∧ t = Function.update s e.1 u := by
  rw [interleavedStep, Option.map_eq_some_iff]
  exact exists_congr fun u => and_congr_right fun _ => eq_comm

/-- **The component rule.** When each component meets its condition at each step of its own events,
the system meets at each step the condition of the component that steps. -/
theorem eachStep_interleaved {C : ι → σ → ε → Prop} {tr : List (ι × ε)}
    (h : ∀ i, EachStep step (C i) (s i) (eventsOf i tr)) :
    EachStep (interleavedStep step) (fun s e => C e.1 (s e.1) e.2) s tr := by
  induction tr generalizing s with
  | nil => trivial
  | cons e tr ih =>
    obtain ⟨i, e⟩ := e
    intro t ht
    obtain ⟨u, hu, rfl⟩ := interleavedStep_eq_some_iff.mp ht
    have hown := h i
    rw [eventsOf_cons_self] at hown
    obtain ⟨hCe, hrest⟩ := hown u hu
    refine ⟨hCe, ih fun j => ?_⟩
    by_cases hji : j = i
    · subst hji
      rw [Function.update_self]
      exact hrest
    · rw [Function.update_of_ne hji]
      have hother := h j
      rwa [eventsOf_cons_of_ne (Ne.symm hji)] at hother

/-- A component alone takes the steps of its run. -/
theorem runFrom_alone (i : ι) {es : List ε} {u : σ} (h : runFrom step (s i) es = some u) :
    runFrom (interleavedStep step) s (es.map fun e => (i, e)) = some (Function.update s i u) := by
  induction es generalizing s with
  | nil =>
    cases h
    rw [Function.update_eq_self]
    rfl
  | cons e es ih =>
    obtain ⟨v, hv, hrest⟩ := Option.bind_eq_some_iff.mp h
    have hnext : interleavedStep step s (i, e) = some (Function.update s i v) :=
      interleavedStep_eq_some_iff.mpr ⟨v, hv, rfl⟩
    rw [List.map_cons, runFrom_cons, hnext, Option.bind_some]
    rw [ih (s := Function.update s i v) (by rw [Function.update_self]; exact hrest),
      Function.update_idem]

/-- And meets a condition of the system as its own, the others being as they are. -/
theorem eachStep_alone {C : (ι → σ) → ι × ε → Prop} (i : ι) {es : List ε} {u : σ}
    (h : EachStep step (fun u e => C (Function.update s i u) (i, e)) u es) :
    EachStep (interleavedStep step) C (Function.update s i u) (es.map fun e => (i, e)) := by
  induction es generalizing u with
  | nil => trivial
  | cons e es ih =>
    rw [List.map_cons]
    intro t ht
    obtain ⟨v, hv, rfl⟩ := interleavedStep_eq_some_iff.mp ht
    rw [Function.update_self] at hv
    obtain ⟨hCe, hrest⟩ := h v hv
    rw [Function.update_idem]
    exact ⟨hCe, ih hrest⟩

end Xnestjs.Model
