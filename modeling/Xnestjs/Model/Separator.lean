import Mathlib.Data.List.Basic

/-!
# Splitting a text at separators

A text is split at the matches of a pattern, found from left to right and each as long as the
pattern makes it. A pattern is given by the length of its match at the beginning of a text,
0 for none, and is taken never to match the empty text. `splitCommas` is the splitting at
commas with the white space around them.
-/

set_option autoImplicit false

namespace Xnestjs.Model

section

variable {α : Type} (sep : List α → ℕ)

/-- Split the rest of a text: `acc` is the part read so far, and the next `skip` characters
belong to a separator. -/
def splitFrom : ℕ → List α → List α → List (List α)
  | _, acc, [] => [acc]
  | skip + 1, acc, _ :: s => splitFrom skip acc s
  | 0, acc, c :: s =>
    match sep (c :: s) with
    | 0 => splitFrom 0 (acc ++ [c]) s
    | n + 1 => acc :: splitFrom n [] s

/-- There is always a first part, and it starts with what was read so far. -/
theorem splitFrom_head (skip : ℕ) (acc s : List α) :
    ∃ part parts, splitFrom sep skip acc s = (acc ++ part) :: parts := by
  induction s generalizing skip acc with
  | nil => exact ⟨[], [], by cases skip <;> simp [splitFrom]⟩
  | cons c s ih =>
    cases skip with
    | succ skip => exact ih skip acc
    | zero =>
      simp only [splitFrom]
      cases sep (c :: s) with
      | zero =>
        obtain ⟨part, parts, h⟩ := ih 0 (acc ++ [c])
        exact ⟨c :: part, parts, by simp [h]⟩
      | succ n => exact ⟨[], splitFrom sep n [] s, by simp⟩

/-- The pieces of a text that is not empty are not one empty piece. -/
theorem splitFrom_ne_empty (c : α) (s : List α) : splitFrom sep 0 [] (c :: s) ≠ [[]] := by
  simp only [splitFrom]
  cases sep (c :: s) with
  | zero =>
    obtain ⟨part, parts, h⟩ := splitFrom_head sep 0 [c] s
    simp [h]
  | succ n =>
    obtain ⟨part, parts, h⟩ := splitFrom_head sep n [] s
    simp [h]

end

/-- The white space of regular expressions, `\s`. -/
def isWhite (c : Char) : Bool :=
  c.toNat ∈ [0x09, 0x0A, 0x0B, 0x0C, 0x0D, 0x20, 0xA0, 0x1680, 0x2028, 0x2029, 0x202F, 0x205F,
    0x3000, 0xFEFF] || (0x2000 ≤ c.toNat && c.toNat ≤ 0x200A)

/-- The length of the match of `/\s*,\s*/` at the beginning of a text. -/
def commaLength (s : List Char) : ℕ :=
  let before := (s.takeWhile isWhite).length
  match s.drop before with
  | ',' :: s => before + 1 + (s.takeWhile isWhite).length
  | _ => 0

/-- `s.split(/\s*,\s*/)` -/
def splitCommas (s : String) : List String :=
  (splitFrom commaLength 0 [] s.toList).map String.ofList

example : splitCommas "a:1 ,\tb c:2," = ["a:1", "b c:2", ""] := by decide

/-- There is always a part. -/
theorem splitCommas_ne_nil (s : String) : splitCommas s ≠ [] := by
  obtain ⟨part, parts, h⟩ := splitFrom_head commaLength 0 [] s.toList
  simp [splitCommas, h]

/-- Only the empty text is split into one empty part. -/
theorem splitCommas_eq_empty_iff (s : String) : splitCommas s = [""] ↔ s = "" := by
  constructor
  · intro h
    have hparts : splitFrom commaLength 0 [] s.toList = [[]] := by
      have hmap : (splitFrom commaLength 0 [] s.toList).map String.ofList =
          [[]].map String.ofList := h
      exact (List.map_injective_iff.mpr fun a b hab => String.ofList_injective hab) hmap
    cases hs : s.toList with
    | nil => exact String.toList_eq_nil_iff.mp hs
    | cons c cs =>
      rw [hs] at hparts
      exact absurd hparts (splitFrom_ne_empty commaLength c cs)
  · rintro rfl
    decide

end Xnestjs.Model
