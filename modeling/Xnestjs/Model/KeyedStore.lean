import Mathlib.Logic.Function.Basic
import Mathlib.Data.List.Basic

/-!
# Writes to a store that may fail

A store holds at most one value under each key, and a write sets or removes the value of one key.
A write that is acknowledged has been made. One that fails has been made or not: the answer may
have been lost on its way. What a key holds after a sequence of writes is therefore what it held
before or what one of the writes left there, as long as no later write to that key was
acknowledged.
-/

set_option autoImplicit false

namespace Xnestjs.Model

variable {K V : Type} [DecidableEq K]

/-- A write of one key, of which `none` removes the value. -/
structure StoreWrite (K V : Type) where
  key : K
  value : Option V
  acknowledged : Bool

/-- What one write may make of the store. -/
def Written (m : K → Option V) (w : StoreWrite K V) (m' : K → Option V) : Prop :=
  m' = Function.update m w.key w.value ∨ (w.acknowledged = false ∧ m' = m)

/-- What a sequence of writes may make of it. -/
inductive WriteHistory : (K → Option V) → List (StoreWrite K V) → (K → Option V) → Prop where
  | nil (m : K → Option V) : WriteHistory m [] m
  | cons {m m' m'' : K → Option V} {w : StoreWrite K V} {ws : List (StoreWrite K V)}
      (first : Written m w m') (rest : WriteHistory m' ws m'') : WriteHistory m (w :: ws) m''

/-- No write to the key is acknowledged. -/
def Unacknowledged (ws : List (StoreWrite K V)) (k : K) : Prop :=
  ∀ w ∈ ws, w.key = k → w.acknowledged = false

/-- Where the value `v` of the key may come from: from before the writes, or from one of them,
with no acknowledged write to the key after it. -/
def ComesFrom (m : K → Option V) (ws : List (StoreWrite K V)) (k : K) (v : Option V) : Prop :=
  (v = m k ∧ Unacknowledged ws k) ∨
    ∃ before w after, ws = before ++ w :: after ∧ w.key = k ∧ w.value = v ∧ Unacknowledged after k

omit [DecidableEq K] in
/-- A write to another key, or one that is not acknowledged, leaves a history unacknowledged. -/
theorem unacknowledged_cons {w : StoreWrite K V} {ws : List (StoreWrite K V)} {k : K}
    (hw : w.key = k → w.acknowledged = false) (hws : Unacknowledged ws k) :
    Unacknowledged (w :: ws) k := by
  intro x hx
  rcases List.mem_cons.mp hx with rfl | hx
  · exact hw
  · exact hws x hx

/-- A write leaves the other keys alone. -/
theorem Written.kept {m m' : K → Option V} {w : StoreWrite K V} (h : Written m w m') {k : K}
    (hk : w.key ≠ k) : m' k = m k := by
  rcases h with rfl | ⟨-, rfl⟩
  · exact Function.update_of_ne (Ne.symm hk) _ _
  · rfl

/-- An acknowledged write has been made. -/
theorem Written.made {m m' : K → Option V} {w : StoreWrite K V} (h : Written m w m')
    (hack : w.acknowledged = true) : m' w.key = w.value := by
  rcases h with rfl | ⟨hfailed, -⟩
  · exact Function.update_self _ _ _
  · rw [hack] at hfailed
    cases hfailed

/-- **A history** leaves in a key a value that comes from it. -/
theorem WriteHistory.comesFrom {m m' : K → Option V} {ws : List (StoreWrite K V)}
    (h : WriteHistory m ws m') (k : K) : ComesFrom m ws k (m' k) := by
  induction h with
  | nil m => exact Or.inl ⟨rfl, fun w hw => absurd hw List.not_mem_nil⟩
  | @cons m m' m'' w ws first rest ih =>
    rcases ih with ⟨hv, hlater⟩ | ⟨before, x, after, rfl, hx, hv, hafter⟩
    · by_cases hk : w.key = k
      · rcases first with rfl | ⟨hfailed, rfl⟩
        · refine Or.inr ⟨[], w, ws, rfl, hk, ?_, hlater⟩
          rw [hv, ← hk, Function.update_self]
        · exact Or.inl ⟨hv, unacknowledged_cons (fun _ => hfailed) hlater⟩
      · exact Or.inl ⟨hv.trans (first.kept hk),
          unacknowledged_cons (fun heq => absurd heq hk) hlater⟩
    · exact Or.inr ⟨w :: before, x, after, rfl, hx, hv, hafter⟩

end Xnestjs.Model
