import Xnestjs.Model.ModuleGraph

/-!
# What a token gives in one module

A module lists bindings of tokens: to a value, to a factory with the tokens that it is called with,
or to another token. Of several bindings of one token the last one is kept. A token gives a value
when the recipes that are kept lead to it; tokens that wait for each other in a circle give nothing.
What a module does not bind itself is not its own matter: a factory is taken to get it.
-/

set_option autoImplicit false

namespace Xnestjs.Model

/-- How a binding comes to what it gives. -/
inductive Recipe (T V : Type) where
  | useValue (v : V)
  | useFactory (v : V) (inject : List T)
  | useExisting (t : T)
  deriving DecidableEq

/-- The tokens that a recipe waits for. -/
def Recipe.inject {T V : Type} : Recipe T V → List T
  | .useValue _ => []
  | .useFactory _ inject => inject
  | .useExisting t => [t]

/-- A token with the recipe that a module lists for it. -/
structure Binding (T V : Type) where
  token : T
  recipe : Recipe T V
  deriving DecidableEq

/-- The provider of a binding, without what it gives. -/
def Binding.provider {T V : Type} (b : Binding T V) : Provider T := ⟨b.token, b.recipe.inject⟩

section

variable {T V : Type} [DecidableEq T]

/-- The recipe that is kept for a token: of several, the last one. -/
def kept : List (Binding T V) → T → Option (Recipe T V)
  | [], _ => none
  | b :: bs, t => (kept bs t).or (if b.token = t then some b.recipe else none)

/-- What is kept is listed. -/
theorem mem_of_kept {bs : List (Binding T V)} {t : T} {r : Recipe T V} (h : kept bs t = some r) :
    ⟨t, r⟩ ∈ bs := by
  induction bs with
  | nil => cases h
  | cons b bs ih =>
    rw [kept, Option.or_eq_some_iff] at h
    rcases h with h | ⟨-, h⟩
    · exact List.mem_cons_of_mem b (ih h)
    · split_ifs at h with htoken
      obtain rfl := Option.some.inj h
      rw [← htoken]
      exact List.mem_cons_self

/-- What the kept recipes lead to from a token. Of the tokens that a factory is called with, those
that are bound here have to give something. -/
inductive Gives (bs : List (Binding T V)) : T → V → Prop
  | value {t : T} {v : V} : kept bs t = some (.useValue v) → Gives bs t v
  | factory {t : T} {v : V} {inject : List T} (made : T → V) :
      kept bs t = some (.useFactory v inject) →
      (∀ t' ∈ inject, (kept bs t').isSome → Gives bs t' (made t')) → Gives bs t v
  | existing {t t' : T} {v : V} : kept bs t = some (.useExisting t') → Gives bs t' v →
      Gives bs t v

variable {bs : List (Binding T V)} {t t' : T} {v w : V} {inject : List T}

/-- A token that is bound to a value gives that value. -/
theorem gives_iff_of_value (h : kept bs t = some (.useValue v)) : Gives bs t w ↔ w = v := by
  constructor
  · intro hgives
    cases hgives with
    | value h' => cases h.symm.trans h'; rfl
    | factory _ h' => cases h.symm.trans h'
    | existing h' => cases h.symm.trans h'
  · rintro rfl
    exact .value h

/-- A token that is bound to a factory gives what the factory makes, when what it is called with
is given. -/
theorem gives_iff_of_factory (h : kept bs t = some (.useFactory v inject)) :
    Gives bs t w ↔ w = v ∧ ∀ t' ∈ inject, (kept bs t').isSome → ∃ u, Gives bs t' u := by
  constructor
  · intro hgives
    cases hgives with
    | value h' => cases h.symm.trans h'
    | factory made h' hinject =>
      cases h.symm.trans h'
      exact ⟨rfl, fun t' ht' hbound => ⟨made t', hinject t' ht' hbound⟩⟩
    | existing h' => cases h.symm.trans h'
  · rintro ⟨rfl, hinject⟩
    classical
    let made : T → V := fun t' => if hu : ∃ u, Gives bs t' u then hu.choose else w
    refine .factory made h fun t' ht' hbound => ?_
    have hu := hinject t' ht' hbound
    simp only [made, dif_pos hu]
    exact hu.choose_spec

/-- A token that is bound to another one gives what the other one gives. -/
theorem gives_iff_of_existing (h : kept bs t = some (.useExisting t')) :
    Gives bs t w ↔ Gives bs t' w := by
  constructor
  · intro hgives
    cases hgives with
    | value h' => cases h.symm.trans h'
    | factory _ h' => cases h.symm.trans h'
    | existing h' hgives => cases h.symm.trans h'; exact hgives
  · exact .existing h

/-- **Tokens that wait for each other** give nothing. The induction is on what would be given. -/
theorem not_gives_of_waiting (waits : T → Prop)
    (hwaits : ∀ t, waits t → ∃ r, kept bs t = some r ∧ ∃ t' ∈ r.inject, waits t')
    (ht : waits t) : ¬ Gives bs t v := by
  intro hgives
  induction hgives with
  | value h =>
    obtain ⟨r, hr, t', ht', -⟩ := hwaits _ ht
    cases h.symm.trans hr
    cases ht'
  | factory made h _ ih =>
    obtain ⟨r, hr, t', ht', hnext⟩ := hwaits _ ht
    cases h.symm.trans hr
    obtain ⟨r', hr', -⟩ := hwaits t' hnext
    exact ih t' ht' (by rw [hr']; rfl) hnext
  | existing h _ ih =>
    obtain ⟨r, hr, t', ht', hnext⟩ := hwaits _ ht
    cases h.symm.trans hr
    rw [List.mem_singleton.mp ht'] at hnext
    exact ih hnext

end

end Xnestjs.Model
