import Xnestjs.Model.Assignments
import Mathlib.Logic.Function.Basic

/-!
# Defaults for the fields of an object

Defaults take the place of what is nullish, field by field. Two maps of defaults, one after the
other, are one map in which the first takes precedence, so that filling in twice is filling in
once. A sequence of assignments `o.k = o.k ?? fallback` is such a map.
-/

set_option autoImplicit false

namespace Xnestjs.Model

variable {K : Type}

/-- Defaults for some of the fields. -/
abbrev Defaults (K : Type) := K → Option Value

namespace Defaults

def none : Defaults K := fun _ => Option.none

/-- `o.k ?? d.k` for the fields that have a default. -/
def fill (d : Defaults K) (o : K → Value) : K → Value := fun k =>
  match d k with
  | some w => (o k).coalesce w
  | Option.none => o k

/-- The defaults of `d`, and after them those of `e`. -/
def orElse (d e : Defaults K) : Defaults K := fun k =>
  match d k, e k with
  | some v, some w => some (v.coalesce w)
  | some v, Option.none => some v
  | Option.none, w => w

/-- A key with a default has its value, or else the default. -/
theorem fill_of_some {d : Defaults K} {k : K} {w : Value} (h : d k = some w) (o : K → Value) :
    d.fill o k = (o k).coalesce w := by
  simp only [fill, h]

/-- A key without a default keeps its value. -/
theorem fill_of_none {d : Defaults K} {k : K} (h : d k = Option.none) (o : K → Value) :
    d.fill o k = o k := by
  simp only [fill, h]

/-- **Filling in twice** is filling in from both, the first before the second. -/
theorem fill_fill (d e : Defaults K) (o : K → Value) :
    e.fill (d.fill o) = (d.orElse e).fill o := by
  funext k
  cases hd : d k with
  | none =>
    cases he : e k with
    | none => simp only [fill, orElse, hd, he]
    | some w => simp only [fill, orElse, hd, he]
  | some v =>
    cases he : e k with
    | none => simp only [fill, orElse, hd, he]
    | some w =>
      simp only [fill, orElse, hd, he]
      exact Value.coalesce_assoc (o k) v w

/-- Defaults add nothing to themselves. -/
theorem orElse_self (d : Defaults K) : d.orElse d = d := by
  funext k
  cases hd : d k with
  | none => simp only [orElse, hd]
  | some v => simp only [orElse, hd, Value.coalesce_self]

/-- The same defaults a second time change nothing. -/
theorem fill_idem (d : Defaults K) (o : K → Value) : d.fill (d.fill o) = d.fill o := by
  rw [fill_fill, orElse_self]

variable [DecidableEq K]

/-- The default of one field. -/
def single (k : K) (w : Value) : Defaults K := fun k' => if k' = k then some w else Option.none

/-- The default of a single key is one defaulting assignment. -/
theorem fill_single (k : K) (w : Value) (o : K → Value) :
    (single k w).fill o = Function.update o k ((o k).coalesce w) := by
  funext k'
  by_cases h : k' = k
  · subst h
    simp [fill, single]
  · simp [fill, single, h]

/-- The fallbacks of assignments, those of the earlier ones first. -/
def ofAssignments : List (Assignment K) → Defaults K
  | [] => none
  | a :: as => (single a.target a.fallback).orElse (ofAssignments as)

/-- **Assignments of own fields** fill in their fallbacks. -/
theorem fill_ofAssignments {as : List (Assignment K)} (hown : ∀ a ∈ as, a.source = a.target)
    (o : K → Value) : (ofAssignments as).fill o = runAssignments as o := by
  induction as generalizing o with
  | nil => rfl
  | cons a as ih =>
    have hrest : ∀ b ∈ as, b.source = b.target := fun b hb => hown b (List.mem_cons_of_mem a hb)
    have hfirst : (single a.target a.fallback).fill o = a.run o := by
      funext k
      rw [fill_single, Function.update_apply]
      unfold Assignment.run
      rw [hown a List.mem_cons_self]
    calc (ofAssignments (a :: as)).fill o
        = (ofAssignments as).fill ((single a.target a.fallback).fill o) :=
          (fill_fill _ _ o).symm
      _ = runAssignments as (a.run o) := by rw [hfirst, ih hrest]

end Defaults

section

variable [DecidableEq K] (h : VarHelpers) (env : Env) (pre : String)

/-- The variables behind lines of own fields, as defaults. -/
def envDefaults (ls : List (EnvLine K)) : Defaults K :=
  .ofAssignments (ls.map (EnvLine.assignment h env pre))

/-- Lines that assign settings from themselves fill in what the variables give. -/
theorem fill_envDefaults {ls : List (EnvLine K)} (hown : ∀ l ∈ ls, l.source = l.target)
    (o : K → Value) : (envDefaults h env pre ls).fill o = runEnvLines h env pre ls o := by
  refine Defaults.fill_ofAssignments ?_ o
  intro a ha
  obtain ⟨l, hl, rfl⟩ := List.mem_map.mp ha
  exact hown l hl

/-- Lines of own fields, run a second time, change nothing. -/
theorem runEnvLines_idem {ls : List (EnvLine K)} (hown : ∀ l ∈ ls, l.source = l.target)
    (o : K → Value) :
    runEnvLines h env pre ls (runEnvLines h env pre ls o) = runEnvLines h env pre ls o := by
  rw [← fill_envDefaults h env pre hown, ← fill_envDefaults h env pre hown]
  exact Defaults.fill_idem _ o

end

end Xnestjs.Model
