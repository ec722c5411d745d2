import Mathlib.Data.List.Forall2

/-!
# Module graphs of a dependency-injection container

A module provides tokens, imports modules and exports tokens or whole imported modules. A
token is visible in a module when the module provides it, when a module it imports exports
it, or when a global module does. A dynamic module is a description of such a module whose
imports are descriptions again, or modules of the application known by name; a node of a
graph realizes it when it has the described fields and its imports realize the described
imports.
-/

set_option autoImplicit false

namespace Xnestjs.Model

/-- What is injected under `token`, and the tokens it is made from. -/
structure Provider (T : Type) where
  token : T
  inject : List T
  deriving DecidableEq

/-- An export is a token, or every export of an imported module of a class. -/
inductive Export (C T : Type) where
  | token (t : T)
  | moduleOf (c : C)
  deriving DecidableEq

/-- A module, with imports of type `I`. -/
structure ModuleFields (C T I : Type) where
  moduleClass : C
  global : Bool
  imports : List I
  providers : List (Provider T)
  exports : List (Export C T)

/-- A module that the application names, or a description of one. -/
inductive DynamicModule (C T U : Type) where
  | named (u : U)
  | dynamic (fields : ModuleFields C T (DynamicModule C T U))

section

variable {C T U ι : Type} (G : ι → ModuleFields C T ι)

/-- A module provides a token when it lists a provider of it. Which one is kept, of several, and
whether it can be made, is a matter of its own (`Xnestjs.Model.Gives`). -/
def Provides (m : ι) (t : T) : Prop := ∃ p ∈ (G m).providers, p.token = t

/-- A module exports what it provides and names, and what a module it imports and names
exports. -/
inductive Exports : ι → T → Prop
  | own {m : ι} {t : T} : Export.token t ∈ (G m).exports → Provides G m t → Exports m t
  | reexport {m n : ι} {c : C} {t : T} : Export.moduleOf c ∈ (G m).exports →
      n ∈ (G m).imports → (G n).moduleClass = c → Exports n t → Exports m t

def GloballyVisible (t : T) : Prop := ∃ g, (G g).global = true ∧ Exports G g t

def Visible (m : ι) (t : T) : Prop :=
  Provides G m t ∨ (∃ n ∈ (G m).imports, Exports G n t) ∨ GloballyVisible G t

/-- `place` says which nodes the named modules are. -/
inductive Realizes (place : U → ι) : ι → DynamicModule C T U → Prop
  | named (u : U) : Realizes place (place u) (.named u)
  | dynamic {x : ι} {f : ModuleFields C T (DynamicModule C T U)} :
      (G x).moduleClass = f.moduleClass → (G x).global = f.global →
      List.Forall₂ (Realizes place) (G x).imports f.imports →
      (G x).providers = f.providers → (G x).exports = f.exports →
      Realizes place x (.dynamic f)

variable {G} {place : U → ι}

/-- A module that realizes fields has these fields, up to its imports. -/
theorem Realizes.fields {x : ι} {f : ModuleFields C T (DynamicModule C T U)}
    (h : Realizes G place x (.dynamic f)) :
    (G x).moduleClass = f.moduleClass ∧ (G x).global = f.global ∧
      List.Forall₂ (Realizes G place) (G x).imports f.imports ∧
      (G x).providers = f.providers ∧ (G x).exports = f.exports := by
  cases h with
  | dynamic hclass hglobal himports hproviders hexports =>
    exact ⟨hclass, hglobal, himports, hproviders, hexports⟩

/-- A module that realizes a name is the one at its place. -/
theorem Realizes.of_named {x : ι} {u : U}
    (h : Realizes G place x (.named u : DynamicModule C T U)) : x = place u := by
  cases h
  rfl

/-- It provides what its providers are registered under. -/
theorem Realizes.provides_iff {x : ι} {f : ModuleFields C T (DynamicModule C T U)}
    (h : Realizes G place x (.dynamic f)) (t : T) :
    Provides G x t ↔ ∃ p ∈ f.providers, p.token = t := by
  unfold Provides
  rw [h.fields.2.2.2.1]

/-- The one import of a module that is described with one import. -/
theorem Realizes.only_import {x : ι} {f : ModuleFields C T (DynamicModule C T U)}
    {d : DynamicModule C T U} (h : Realizes G place x (.dynamic f)) (hd : f.imports = [d]) :
    ∃ y, (G x).imports = [y] ∧ Realizes G place y d := by
  have himports := h.fields.2.2.1
  rw [hd] at himports
  obtain ⟨y, ys, hy, hys, heq⟩ := List.forall₂_cons_right_iff.mp himports
  rw [List.forall₂_nil_right_iff.mp hys] at heq
  exact ⟨y, heq, hy⟩

/-- Modules that realize names are those at their places. -/
theorem eq_places_of_realizes {us : List U} {xs : List ι}
    (h : List.Forall₂ (Realizes G place) xs (us.map (.named : U → DynamicModule C T U))) :
    xs = us.map place := by
  induction us generalizing xs with
  | nil => exact List.forall₂_nil_right_iff.mp h
  | cons u us ih =>
    obtain ⟨y, ys, hy, hys, rfl⟩ := List.forall₂_cons_right_iff.mp h
    rw [hy.of_named, ih hys]
    rfl

/-- Imports that are all named are the places of the names. -/
theorem Realizes.named_imports {x : ι} {f : ModuleFields C T (DynamicModule C T U)}
    (h : Realizes G place x (.dynamic f)) {us : List U} (hus : f.imports = us.map .named) :
    (G x).imports = us.map place := by
  have himports := h.fields.2.2.1
  rw [hus] at himports
  exact eq_places_of_realizes himports

/-- A module that is described without imports sees its own tokens and the global ones. -/
theorem Realizes.visible_iff_of_no_imports {x : ι} {f : ModuleFields C T (DynamicModule C T U)}
    (h : Realizes G place x (.dynamic f)) (hf : f.imports = []) (t : T) :
    Visible G x t ↔ t ∈ f.providers.map (·.token) ∨ GloballyVisible G t := by
  have himports : (G x).imports = [] := by
    have himports := h.fields.2.2.1
    rw [hf] at himports
    exact List.forall₂_nil_right_iff.mp himports
  unfold Visible
  rw [himports, h.provides_iff, List.mem_map]
  simp

/-- A module whose description exports nothing exports nothing. -/
theorem not_exports_of_nil {m : ι} (h : (G m).exports = []) (t : T) : ¬ Exports G m t := by
  rintro (⟨hmem, -⟩ | ⟨hmem, -, -, -⟩)
  · rw [h] at hmem
    cases hmem
  · rw [h] at hmem
    cases hmem

end

/-! ## The parts of a dynamic module -/

section

variable {C T U ι : Type} (G : ι → ModuleFields C T ι)

/-- Below the node `x` that realizes a description, the node of each description inside it. -/
inductive PartOf : ι → DynamicModule C T U → ι → ModuleFields C T (DynamicModule C T U) → Prop
  | here (x : ι) (f : ModuleFields C T (DynamicModule C T U)) : PartOf x (.dynamic f) x f
  | inside {x y z : ι} {f g : ModuleFields C T (DynamicModule C T U)} {d : DynamicModule C T U}
      {i : ℕ} : (G x).imports[i]? = some y → f.imports[i]? = some d → PartOf y d z g →
      PartOf x (.dynamic f) z g

variable {G}

/-- A description whose imports are all named has no other part. -/
theorem partOf_iff_of_named {x z : ι} {f g : ModuleFields C T (DynamicModule C T U)}
    (h : ∀ d ∈ f.imports, ∃ u, d = .named u) :
    PartOf G x (.dynamic f) z g ↔ z = x ∧ g = f := by
  constructor
  · intro hpart
    cases hpart with
    | here => exact ⟨rfl, rfl⟩
    | inside _ hd hinside =>
      obtain ⟨u, rfl⟩ := h _ (List.mem_of_getElem? hd)
      cases hinside
  · rintro ⟨rfl, rfl⟩
    exact .here z g

/-- The parts of a description with one import are itself and the parts of the import. -/
theorem partOf_iff_of_only_import {x y z : ι} {f g : ModuleFields C T (DynamicModule C T U)}
    {d : DynamicModule C T U} (hx : (G x).imports = [y]) (hf : f.imports = [d]) :
    PartOf G x (.dynamic f) z g ↔ (z = x ∧ g = f) ∨ PartOf G y d z g := by
  constructor
  · intro hpart
    cases hpart with
    | here => exact .inl ⟨rfl, rfl⟩
    | inside hy hd hinside =>
      rw [hx, List.getElem?_singleton] at hy
      rw [hf, List.getElem?_singleton] at hd
      split at hy
      · rw [if_pos ‹_›] at hd
        cases hy
        cases hd
        exact .inr hinside
      · cases hy
  · rintro (⟨rfl, rfl⟩ | hpart)
    · exact .here z g
    · apply PartOf.inside (i := 0) _ _ hpart
      · rw [hx]
        rfl
      · rw [hf]
        rfl

end

/-! ## The graph of a dynamic module by itself -/

section

variable {C T U : Type} [DecidableEq T]

/-- The exports leave no way to the token. -/
def hides (t : T) (exports : List (Export C T)) : Bool :=
  exports.all fun e => match e with
    | .token t' => t' != t
    | .moduleOf _ => false

/-- Every description is its own node, named modules are empty, and one module imports the
root. Of the descriptions that are global only some are so here. -/
def selfGraph (c : C) (keepsGlobal : ModuleFields C T (DynamicModule C T U) → Bool)
    (root : DynamicModule C T U) :
    Option (DynamicModule C T U) → ModuleFields C T (Option (DynamicModule C T U))
  | none => ⟨c, false, [some root], [], []⟩
  | some (.named _) => ⟨c, false, [], [], []⟩
  | some (.dynamic f) =>
    ⟨f.moduleClass, f.global && keepsGlobal f, f.imports.map some, f.providers, f.exports⟩

variable (c : C) (keepsGlobal : ModuleFields C T (DynamicModule C T U) → Bool)
variable (root : DynamicModule C T U)

omit [DecidableEq T] in
/-- A named module realizes its name. -/
theorem realizes_self_named (u : U) :
    Realizes (selfGraph c keepsGlobal root) (fun u => some (.named u)) (some (.named u))
      (.named u) :=
  .named u

omit [DecidableEq T] in
/-- A description realizes itself when its imports do, and it is as global as it says. -/
theorem realizes_self {f : ModuleFields C T (DynamicModule C T U)}
    (hglobal : f.global = true → keepsGlobal f = true)
    (himports : ∀ d ∈ f.imports,
      Realizes (selfGraph c keepsGlobal root) (fun u => some (.named u)) (some d) d) :
    Realizes (selfGraph c keepsGlobal root) (fun u => some (.named u)) (some (.dynamic f))
      (.dynamic f) := by
  refine .dynamic rfl ?_ ?_ rfl rfl
  · show (f.global && keepsGlobal f) = f.global
    cases hf : f.global with
    | true => simpa using hglobal hf
    | false => rfl
  · show List.Forall₂ _ (f.imports.map some) f.imports
    rw [List.forall₂_map_left_iff]
    exact List.forall₂_same.mpr himports

/-- A module whose exports leave no way to the token does not export it. -/
theorem not_exports_of_hides {ι : Type} {G : ι → ModuleFields C T ι} {t : T} {m : ι}
    (h : hides t (G m).exports = true) : ¬ Exports G m t := by
  have hall := List.all_eq_true.mp h
  rintro (⟨hmem, -⟩ | ⟨hmem, -, -, -⟩)
  · simpa using hall _ hmem
  · simpa using hall _ hmem

/-- In the graph of a root that exports nothing, when only descriptions that hide the token are
global, the importing module does not see the token. -/
theorem not_visible_selfGraph (t : T) {f : ModuleFields C T (DynamicModule C T U)}
    (hf : f.exports = []) :
    ¬ Visible (selfGraph c (fun f => hides t f.exports) (.dynamic f)) none t := by
  rintro (⟨p, hp, -⟩ | ⟨n, hn, hexports⟩ | ⟨g, hg, hexports⟩)
  · cases hp
  · rw [List.mem_singleton.mp hn] at hexports
    exact not_exports_of_nil hf t hexports
  · cases g with
    | none => cases hg
    | some d =>
      cases d with
      | named u => cases hg
      | dynamic f' =>
        have hhides : hides t f'.exports = true := (Bool.and_eq_true_iff.mp hg).2
        exact not_exports_of_hides hhides hexports

end

end Xnestjs.Model
