import Mathlib.Data.List.Basic

/-!
# Numbers handed out under keys

An allocator answers requests under keys with numbers: a request is answered with the number that
its key was answered with last, or with the next number that nobody has been given. So a number
belongs to one key, and the numbers of a key only go up: once a key has been answered with another
number, the earlier one does not come back.
-/

set_option autoImplicit false

namespace Xnestjs.Model

variable {K : Type} [DecidableEq K]

/-- The numbers that a key was answered with, in order. -/
def numbersOf (k : K) (answers : List (K × ℕ)) : List ℕ :=
  (answers.filter fun a => a.1 = k).map Prod.snd

def lastNumber (k : K) (answers : List (K × ℕ)) : Option ℕ := (numbersOf k answers).getLast?

/-- The answers that an allocator may have given, and how many numbers are in use. -/
inductive Allocation : List (K × ℕ) → ℕ → Prop where
  | nil : Allocation [] 0
  | again {answers : List (K × ℕ)} {n h : ℕ} {k : K} :
      Allocation answers n → lastNumber k answers = some h → Allocation (answers ++ [(k, h)]) n
  | fresh {answers : List (K × ℕ)} {n : ℕ} {k : K} :
      Allocation answers n → Allocation (answers ++ [(k, n)]) (n + 1)

/-- The numbers of a key are those that it was answered with. -/
theorem mem_numbersOf {k : K} {answers : List (K × ℕ)} {h : ℕ} :
    h ∈ numbersOf k answers ↔ (k, h) ∈ answers := by
  unfold numbersOf
  rw [List.mem_map]
  constructor
  · rintro ⟨⟨k', h'⟩, ha, rfl⟩
    obtain ⟨hmem, hk⟩ := List.mem_filter.mp ha
    rw [← of_decide_eq_true hk]
    exact hmem
  · intro hmem
    exact ⟨(k, h), List.mem_filter.mpr ⟨hmem, decide_eq_true rfl⟩, rfl⟩

/-- An answer is the last number of its key. -/
theorem numbersOf_answered_self (k : K) (answers : List (K × ℕ)) (h : ℕ) :
    numbersOf k (answers ++ [(k, h)]) = numbersOf k answers ++ [h] := by
  simp [numbersOf]

/-- An answer leaves the numbers of other keys alone. -/
theorem numbersOf_answered_other {k k' : K} (hk : k' ≠ k) (answers : List (K × ℕ)) (h : ℕ) :
    numbersOf k (answers ++ [(k', h)]) = numbersOf k answers := by
  simp [numbersOf, hk]

/-- The last number of a key changes with its own answers only. -/
theorem lastNumber_answered (k k' : K) (answers : List (K × ℕ)) (h : ℕ) :
    lastNumber k (answers ++ [(k', h)]) = if k = k' then some h else lastNumber k answers := by
  unfold lastNumber
  by_cases hk : k = k'
  · subst hk
    rw [numbersOf_answered_self, if_pos rfl, List.getLast?_concat]
  · rw [numbersOf_answered_other (Ne.symm hk), if_neg hk]

/-- The last number of a key is one that it was answered with. -/
theorem mem_of_lastNumber {k : K} {answers : List (K × ℕ)} {h : ℕ}
    (hlast : lastNumber k answers = some h) : (k, h) ∈ answers :=
  mem_numbersOf.mp (List.mem_of_getLast? hlast)

namespace Allocation

variable {answers : List (K × ℕ)} {n : ℕ}

/-- The numbers in use are the answers. -/
theorem lt_iff (h : Allocation answers n) (i : ℕ) : i < n ↔ ∃ k, (k, i) ∈ answers := by
  induction h with
  | nil => simp
  | @again answers n j k _ hlast ih =>
    rw [ih]
    constructor
    · rintro ⟨k', hk'⟩
      exact ⟨k', List.mem_append_left _ hk'⟩
    · rintro ⟨k', hk'⟩
      rcases List.mem_append.mp hk' with hk' | hk'
      · exact ⟨k', hk'⟩
      · cases List.mem_singleton.mp hk'
        exact ⟨k, mem_of_lastNumber hlast⟩
  | @fresh answers n k _ ih =>
    rw [Nat.lt_succ_iff_lt_or_eq, ih]
    constructor
    · rintro (⟨k', hk'⟩ | rfl)
      · exact ⟨k', List.mem_append_left _ hk'⟩
      · exact ⟨k, List.mem_append_right _ (List.mem_singleton_self _)⟩
    · rintro ⟨k', hk'⟩
      rcases List.mem_append.mp hk' with hk' | hk'
      · exact Or.inl ⟨k', hk'⟩
      · cases List.mem_singleton.mp hk'
        exact Or.inr rfl

/-- A number is of one key. -/
theorem key_unique (h : Allocation answers n) {k k' : K} {i : ℕ} (hk : (k, i) ∈ answers)
    (hk' : (k', i) ∈ answers) : k = k' := by
  induction h generalizing k k' with
  | nil => exact absurd hk List.not_mem_nil
  | @again answers n j l _ hlast ih =>
    have hown : ∀ k, (k, i) ∈ answers ++ [(l, j)] → (k, i) ∈ answers := by
      intro k hmem
      rcases List.mem_append.mp hmem with hmem | hmem
      · exact hmem
      · cases List.mem_singleton.mp hmem
        exact mem_of_lastNumber hlast
    exact ih (hown k hk) (hown k' hk')
  | @fresh answers n l halloc ih =>
    have hnew : ∀ k, (k, n) ∉ answers := by
      intro k hmem
      exact absurd ((halloc.lt_iff n).mpr ⟨k, hmem⟩) (Nat.lt_irrefl n)
    rcases List.mem_append.mp hk with hold | hlast
    · rcases List.mem_append.mp hk' with hold' | hlast'
      · exact ih hold hold'
      · cases List.mem_singleton.mp hlast'
        exact absurd hold (hnew k)
    · cases List.mem_singleton.mp hlast
      rcases List.mem_append.mp hk' with hold' | hlast'
      · exact absurd hold' (hnew k')
      · cases List.mem_singleton.mp hlast'
        rfl

/-- **The numbers of a key** only go up. -/
theorem pairwise_le (h : Allocation answers n) (k : K) :
    (numbersOf k answers).Pairwise (· ≤ ·) := by
  induction h with
  | nil => exact List.Pairwise.nil
  | @again answers n j l _ hlast ih =>
    by_cases hl : l = k
    · subst hl
      obtain ⟨before, hbefore⟩ := List.getLast?_eq_some_iff.mp hlast
      rw [numbersOf_answered_self, List.pairwise_append]
      refine ⟨ih, List.pairwise_singleton _ _, fun i hi i' hi' => ?_⟩
      rw [List.mem_singleton.mp hi']
      rw [hbefore] at ih hi
      rcases List.mem_append.mp hi with hi | hi
      · exact (List.pairwise_append.mp ih).2.2 i hi j (List.mem_singleton_self j)
      · exact Nat.le_of_eq (List.mem_singleton.mp hi)
    · rw [numbersOf_answered_other hl]
      exact ih
  | @fresh answers n l halloc ih =>
    by_cases hl : l = k
    · subst hl
      rw [numbersOf_answered_self, List.pairwise_append]
      refine ⟨ih, List.pairwise_singleton _ _, fun i hi i' hi' => ?_⟩
      rw [List.mem_singleton.mp hi']
      exact Nat.le_of_lt ((halloc.lt_iff i).mpr ⟨l, mem_numbersOf.mp hi⟩)
    · rw [numbersOf_answered_other hl]
      exact ih

end Allocation

end Xnestjs.Model
