import Mathlib.Data.List.Basic

/-!
# Objects in the order of their creation

The objects that a component creates are kept as a list in the order of their creation, and
an object is known by its place in that list. Creating one appends it, and changing one
leaves the others as they are.
-/

set_option autoImplicit false

namespace Xnestjs.Model

variable {α : Type}

/-- After a creation the objects are the old ones and the new one. -/
theorem getElem?_concat_eq_some_iff {l : List α} {a b : α} {i : ℕ} :
    (l ++ [a])[i]? = some b ↔ l[i]? = some b ∨ i = l.length ∧ b = a := by
  by_cases hlt : i < l.length
  · rw [List.getElem?_append_left hlt]
    refine ⟨Or.inl, ?_⟩
    rintro (h | ⟨rfl, -⟩)
    · exact h
    · exact absurd hlt (Nat.lt_irrefl _)
  · have hnone : l[i]? = none := List.getElem?_eq_none (Nat.le_of_not_lt hlt)
    rw [List.getElem?_append_right (Nat.le_of_not_lt hlt), hnone]
    by_cases hi : i = l.length
    · subst hi
      simp [eq_comm]
    · have hone : ([a] : List α)[i - l.length]? = none := List.getElem?_eq_none (by simp; omega)
      simp [hone, hi]

/-- A change of the object created last. -/
theorem modify_concat_last (l : List α) (a : α) (f : α → α) :
    (l ++ [a]).modify l.length f = l ++ [f a] := by
  induction l with
  | nil => rfl
  | cons b l ih =>
    show b :: (l ++ [a]).modify l.length f = b :: (l ++ [f a])
    rw [ih]

/-- After a change of one object the others are as they were. -/
theorem getElem?_modify_eq_some_iff {l : List α} {f : α → α} {b : α} {i j : ℕ} :
    (l.modify i f)[j]? = some b ↔ ∃ a, l[j]? = some a ∧ b = if i = j then f a else a := by
  rw [List.getElem?_modify]
  cases l[j]? with
  | none => simp
  | some a => by_cases h : i = j <;> simp [h, eq_comm]

/-- After an object is replaced, what is found is the new one in its place, or another one. -/
theorem getElem?_set_cases {l : List α} {a b c : α} {i j : ℕ} (ha : l[i]? = some a)
    (h : (l.set i b)[j]? = some c) : j = i ∧ c = b ∨ j ≠ i ∧ l[j]? = some c := by
  by_cases hj : j = i
  · subst hj
    rw [List.getElem?_set_self (List.getElem?_eq_some_iff.mp ha).1] at h
    exact Or.inl ⟨rfl, (Option.some.inj h).symm⟩
  · rw [List.getElem?_set_ne (Ne.symm hj)] at h
    exact Or.inr ⟨hj, h⟩

end Xnestjs.Model
