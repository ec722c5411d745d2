import Xnestjs.Model.ModuleGraph
import Mathlib.Data.List.Permutation
import Mathlib.Logic.Relation

/-!
# Instances of providers

A provider definition may be listed by several modules of a graph. The container makes an
instance in each of them, one after the other, and injects into a module the instance of the
module that a token comes from: itself when it provides the token, else a module it imports,
else a global one.
-/

set_option autoImplicit false

namespace Xnestjs.Model

section

variable {C T ι : Type} (G : ι → ModuleFields C T ι)

/-- What the first module exports under the token is provided in the second one. -/
inductive ExportedFrom : ι → T → ι → Prop
  | own {m : ι} {t : T} : Export.token t ∈ (G m).exports → Provides G m t → ExportedFrom m t m
  | reexport {m n k : ι} {c : C} {t : T} : Export.moduleOf c ∈ (G m).exports →
      n ∈ (G m).imports → (G n).moduleClass = c → ExportedFrom n t k → ExportedFrom m t k

/-- What is injected into the first module under the token is the instance of the second. -/
inductive InjectedFrom : ι → T → ι → Prop
  | own {m : ι} {t : T} : Provides G m t → InjectedFrom m t m
  | imported {m n k : ι} {t : T} : ¬ Provides G m t → n ∈ (G m).imports →
      ExportedFrom G n t k → InjectedFrom m t k
  | global {m g k : ι} {t : T} : ¬ Provides G m t → (∀ n ∈ (G m).imports, ¬ Exports G n t) →
      (G g).global = true → ExportedFrom G g t k → InjectedFrom m t k

/-- The token is visible in the first module as the second one provides it. -/
def VisibleFrom (m : ι) (t : T) (k : ι) : Prop :=
  (k = m ∧ Provides G m t) ∨ (∃ n ∈ (G m).imports, ExportedFrom G n t k) ∨
    ∃ g, (G g).global = true ∧ ExportedFrom G g t k

variable {G}

/-- What is exported is provided somewhere. The induction is on the exports of exports. -/
theorem exports_iff_exportedFrom (m : ι) (t : T) : Exports G m t ↔ ∃ k, ExportedFrom G m t k := by
  constructor
  · intro h
    induction h with
    | own hmem hprovides => exact ⟨_, .own hmem hprovides⟩
    | reexport hmem himport hclass _ ih =>
      obtain ⟨k, hk⟩ := ih
      exact ⟨k, .reexport hmem himport hclass hk⟩
  · rintro ⟨k, hk⟩
    induction hk with
    | own hmem hprovides => exact .own hmem hprovides
    | reexport hmem himport hclass _ ih => exact .reexport hmem himport hclass ih

/-- What is visible is visible from somewhere. -/
theorem visible_iff_visibleFrom (m : ι) (t : T) : Visible G m t ↔ ∃ k, VisibleFrom G m t k := by
  simp only [Visible, GloballyVisible, VisibleFrom, exports_iff_exportedFrom]
  constructor
  · rintro (hown | ⟨n, hn, k, hk⟩ | ⟨g, hg, k, hk⟩)
    · exact ⟨m, Or.inl ⟨rfl, hown⟩⟩
    · exact ⟨k, Or.inr (Or.inl ⟨n, hn, hk⟩)⟩
    · exact ⟨k, Or.inr (Or.inr ⟨g, hg, hk⟩)⟩
  · rintro ⟨k, ⟨-, hown⟩ | ⟨n, hn, hk⟩ | ⟨g, hg, hk⟩⟩
    · exact Or.inl hown
    · exact Or.inr (Or.inl ⟨n, hn, k, hk⟩)
    · exact Or.inr (Or.inr ⟨g, hg, k, hk⟩)

/-- A token that is described as provided and exported is exported as the module provides it. -/
theorem Realizes.exportedFrom_own {U : Type} {place : U → ι} {x : ι}
    {f : ModuleFields C T (DynamicModule C T U)} (h : Realizes G place x (.dynamic f)) {t : T}
    (hexport : .token t ∈ f.exports) (hprovider : ∃ p ∈ f.providers, p.token = t) :
    ExportedFrom G x t x := by
  apply ExportedFrom.own
  · rw [h.fields.2.2.2.2]
    exact hexport
  · exact (h.provides_iff t).mpr hprovider

/-- A module has its own instance of what it provides. -/
theorem injectedFrom_iff_of_provides {m k : ι} {t : T} (h : Provides G m t) :
    InjectedFrom G m t k ↔ k = m := by
  constructor
  · intro hfrom
    cases hfrom with
    | own => rfl
    | imported hnot => exact absurd h hnot
    | global hnot => exact absurd h hnot
  · rintro rfl
    exact .own h

/-- A module that exports tokens only exports its own instances. -/
theorem exportedFrom_own {n k : ι} {t : T} (htokens : ∀ c, Export.moduleOf c ∉ (G n).exports)
    (h : ExportedFrom G n t k) : k = n := by
  cases h with
  | own => rfl
  | reexport hmem => exact absurd hmem (htokens _)

/-- Without an own provider, the instance of the one imported module that exports the token is
injected. -/
theorem injectedFrom_iff_of_import {m n k : ι} {t : T} (hnot : ¬ Provides G m t)
    (himports : (G m).imports = [n]) (htokens : ∀ c, Export.moduleOf c ∉ (G n).exports)
    (hexport : Export.token t ∈ (G n).exports) (hprovides : Provides G n t) :
    InjectedFrom G m t k ↔ k = n := by
  constructor
  · intro hfrom
    cases hfrom with
    | own hown => exact absurd hown hnot
    | imported _ hmem hexported =>
      rw [himports] at hmem
      obtain rfl := List.mem_singleton.mp hmem
      exact exportedFrom_own htokens hexported
    | global _ hnone =>
      have hmem : n ∈ (G m).imports := by simp [himports]
      exact absurd (.own hexport hprovides) (hnone n hmem)
  · rintro rfl
    have hmem : k ∈ (G m).imports := by simp [himports]
    exact .imported hnot hmem (.own hexport hprovides)

end

/-! ## What an instance is made from -/

section

variable {C T ι : Type} (G : ι → ModuleFields C T ι)

/-- The instance of a token in a module is made from that of another token. -/
def MadeFrom (a b : ι × T) : Prop :=
  ∃ p ∈ (G a.1).providers, p.token = a.2 ∧ b.2 ∈ p.inject ∧ InjectedFrom G a.1 b.2 b.1

/-- All that an instance is made from, itself included. -/
def DependsOn : ι × T → ι × T → Prop := Relation.ReflTransGen (MadeFrom G)

variable {G}

/-- **Modules that keep to themselves.** When what is injected into the providers of some modules
comes from these modules, except for the given tokens, so does all that their instances are made
from, up to the instances of given tokens. -/
theorem dependsOn_of_closed (own : ι → Prop) (given : ι → T → Prop)
    (hclosed : ∀ m, own m → ∀ p ∈ (G m).providers, ∀ t ∈ p.inject,
      given m t ∨ ∀ k, InjectedFrom G m t k → own k)
    {a b : ι × T} (ha : own a.1) (h : DependsOn G a b) :
    own b.1 ∨ ∃ m c, own m ∧ given m c.2 ∧ InjectedFrom G m c.2 c.1 ∧ DependsOn G c b := by
  induction h using Relation.ReflTransGen.head_induction_on with
  | refl => exact Or.inl ha
  | @head a c hmade hrest ih =>
    obtain ⟨p, hp, -, hinject, hfrom⟩ := hmade
    rcases hclosed a.1 ha p hp c.2 hinject with hgiven | hown
    · exact Or.inr ⟨a.1, c, ha, hgiven, hfrom, hrest⟩
    · exact ih (hown c.1 hfrom)

end

/-! ## Instantiation -/

section

variable {ι β : Type}

/-- An order in which the modules that list a definition make their instances: each of them
once. -/
structure InstantiationOrder (lists : ι → Prop) where
  modules : List ι
  nodup : modules.Nodup
  mem_iff : ∀ m, m ∈ modules ↔ lists m

/-- The instances, when the calls of the factory give what they give. -/
def instances (modules : List ι) (calls : ℕ → β) : List (ι × β) :=
  modules.mapIdx fun i m => (m, calls i)

/-- There is one instance for each module. -/
theorem length_instances (modules : List ι) (calls : ℕ → β) :
    (instances modules calls).length = modules.length := List.length_mapIdx

/-- Two modules are instantiated in one order or the other. -/
theorem InstantiationOrder.eq_pair {lists : ι → Prop} (order : InstantiationOrder lists)
    {y z : ι} (hyz : y ≠ z) (hlists : ∀ m, lists m ↔ m = y ∨ m = z) :
    order.modules = [y, z] ∨ order.modules = [z, y] := by
  have hnodup : [y, z].Nodup := by simp [hyz]
  have hperm : order.modules.Perm [y, z] := by
    apply (List.perm_ext_iff_of_nodup order.nodup hnodup).mpr
    intro m
    rw [order.mem_iff, hlists]
    simp
  exact List.perm_pair.mp hperm

/-- Of two instances one is made by the first call and the other by the second, so that they
are the same when both calls give the same. -/
theorem same_instance_iff {y z : ι} {order : List ι} (hyz : y ≠ z)
    (horder : order = [y, z] ∨ order = [z, y]) (calls : ℕ → β) :
    (∃ v, (y, v) ∈ instances order calls ∧ (z, v) ∈ instances order calls) ↔
      calls 0 = calls 1 := by
  rcases horder with rfl | rfl
  · simp [instances, hyz, hyz.symm]
  · simp [instances, hyz, eq_comm]

end

end Xnestjs.Model
