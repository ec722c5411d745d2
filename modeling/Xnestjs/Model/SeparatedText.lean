import Xnestjs.Model.Separator
import Mathlib.Data.List.TakeWhile

/-!
# Lists written as one text

A list of texts is written as one, with a comma and white space around it between two
neighbours. When the texts are not empty, have no comma and neither begin nor end in white
space, splitting gives the list back: no match of the separator begins inside a text, and each
match takes exactly the comma and the white space around it.
-/

set_option autoImplicit false

namespace Xnestjs.Model

/-! ## Splitting in general -/

section

variable {α : Type} {sep : List α → ℕ}

/-- Where no separator begins, the characters are read as they are. -/
theorem splitFrom_plain {part : List α} (rest acc : List α)
    (h : ∀ c s, c :: s <:+ part → sep (c :: s ++ rest) = 0) :
    splitFrom sep 0 acc (part ++ rest) = splitFrom sep 0 (acc ++ part) rest := by
  induction part generalizing acc with
  | nil => simp
  | cons c s ih =>
    have hnone : sep (c :: (s ++ rest)) = 0 := h c s (List.suffix_refl _)
    have hrest := ih (acc ++ [c]) fun d t ht => h d t (ht.trans (List.suffix_cons c s))
    simp only [List.cons_append, splitFrom, hnone, hrest, List.append_assoc, List.nil_append]

/-- The rest of a separator is skipped. -/
theorem splitFrom_skip (skipped rest acc : List α) :
    splitFrom sep skipped.length acc (skipped ++ rest) = splitFrom sep 0 acc rest := by
  induction skipped with
  | nil => rfl
  | cons c s ih => exact ih

/-- A separator ends a part. -/
theorem splitFrom_separator {separator : List α} (rest acc : List α) (hne : separator ≠ [])
    (h : sep (separator ++ rest) = separator.length) :
    splitFrom sep 0 acc (separator ++ rest) = acc :: splitFrom sep 0 [] rest := by
  cases separator with
  | nil => exact absurd rfl hne
  | cons c s =>
    have hlength : sep (c :: (s ++ rest)) = s.length + 1 := h
    simp only [List.cons_append, splitFrom, hlength]
    rw [splitFrom_skip]

end

/-! ## Commas with white space -/

/-- A text that can stand between two commas: what splitting leaves whole. -/
structure ListItem where
  text : String
  nonempty : text ≠ ""
  no_comma : ',' ∉ text.toList
  head_plain : ∀ c, text.toList.head? = some c → isWhite c = false
  last_plain : ∀ c, text.toList.getLast? = some c → isWhite c = false

/-- White space before and after a comma. -/
structure CommaPadding where
  before : List Char
  after : List Char
  before_white : ∀ c ∈ before, isWhite c = true
  after_white : ∀ c ∈ after, isWhite c = true

/-- The comma with its white space. -/
def CommaPadding.separator (p : CommaPadding) : List Char := p.before ++ ',' :: p.after

/-- The items as one text, with a separator before each but the first. -/
def joinItems (first : ListItem) (rest : List (CommaPadding × ListItem)) : String :=
  String.ofList (first.text.toList ++ rest.flatMap fun r => r.1.separator ++ r.2.text.toList)

/-- The texts of the items, in order. -/
def itemTexts (first : ListItem) (rest : List (CommaPadding × ListItem)) : List String :=
  first.text :: rest.map fun r => r.2.text

/-- An item has characters. -/
theorem ListItem.toList_ne_nil (item : ListItem) : item.text.toList ≠ [] :=
  fun h => item.nonempty (String.toList_eq_nil_iff.mp h)

/-- What comes after the longest prefix is what is left of it. -/
theorem drop_length_takeWhile {α : Type} (p : α → Bool) (s : List α) :
    s.drop (s.takeWhile p).length = s.dropWhile p := by
  have hsplit : s.takeWhile p ++ s.dropWhile p = s := List.takeWhile_append_dropWhile
  calc s.drop (s.takeWhile p).length
      = (s.takeWhile p ++ s.dropWhile p).drop (s.takeWhile p).length := by rw [hsplit]
    _ = s.dropWhile p := List.drop_left

/-- Without a comma there is no separator. -/
theorem commaLength_of_no_comma {s : List Char} (hcomma : ',' ∉ s) : commaLength s = 0 := by
  unfold commaLength
  simp only [drop_length_takeWhile]
  cases hs : s.dropWhile isWhite with
  | nil => rfl
  | cons c rest =>
    have hc : c ≠ ',' := by
      rintro rfl
      have hmem : ',' ∈ s.dropWhile isWhite := by simp [hs]
      exact hcomma ((List.dropWhile_sublist isWhite).subset hmem)
    simp [hc]

/-- A text without a comma is split into itself. -/
theorem splitCommas_of_no_comma {s : String} (hcomma : ',' ∉ s.toList) :
    splitCommas s = [s] := by
  have hplain : ∀ c t, c :: t <:+ s.toList → commaLength (c :: t ++ []) = 0 := by
    intro c t hsuffix
    rw [List.append_nil]
    apply commaLength_of_no_comma
    exact fun hmem => hcomma (hsuffix.subset hmem)
  have hsplit := splitFrom_plain [] [] hplain
  rw [List.append_nil, List.nil_append] at hsplit
  unfold splitCommas
  rw [hsplit]
  exact congrArg (fun t => [t]) String.ofList_toList

/-- No separator begins in a text that has no comma and does not end in white space. -/
theorem commaLength_plain {part : List Char} (rest : List Char) (hne : part ≠ [])
    (hcomma : ',' ∉ part) (hlast : ∀ c, part.getLast? = some c → isWhite c = false) :
    commaLength (part ++ rest) = 0 := by
  unfold commaLength
  simp only [drop_length_takeWhile]
  cases hs : part.dropWhile isWhite with
  | nil =>
    have hwhite := List.dropWhile_eq_nil_iff.mp hs _ (List.getLast_mem hne)
    rw [hlast _ (List.getLast?_eq_getLast_of_ne_nil hne)] at hwhite
    cases hwhite
  | cons c s =>
    have hc : c ≠ ',' := by
      rintro rfl
      have hmem : ',' ∈ part.dropWhile isWhite := by simp [hs]
      exact hcomma ((List.dropWhile_sublist isWhite).subset hmem)
    have hdrop : (part ++ rest).dropWhile isWhite = c :: (s ++ rest) := by
      rw [List.dropWhile_append, hs]
      rfl
    rw [hdrop]
    simp [hc]

/-- A separator takes the comma and all the white space around it. -/
theorem commaLength_separator (p : CommaPadding) {rest : List Char}
    (hhead : ∀ c, rest.head? = some c → isWhite c = false) :
    commaLength (p.separator ++ rest) = p.separator.length := by
  have hrest : rest.takeWhile isWhite = [] := by
    cases rest with
    | nil => rfl
    | cons c s => exact List.takeWhile_cons_of_neg (by rw [hhead c rfl]; decide)
  have hafter : (p.after ++ rest).takeWhile isWhite = p.after := by
    rw [List.takeWhile_append_of_pos p.after_white, hrest, List.append_nil]
  have hbefore : (p.separator ++ rest).takeWhile isWhite = p.before := by
    rw [CommaPadding.separator, List.append_assoc,
      List.takeWhile_append_of_pos p.before_white]
    rw [List.cons_append, List.takeWhile_cons_of_neg (by decide), List.append_nil]
  have hdrop : (p.separator ++ rest).drop p.before.length = ',' :: (p.after ++ rest) := by
    rw [CommaPadding.separator, List.append_assoc, List.drop_left]
    rfl
  unfold commaLength
  simp only [hbefore, hdrop, hafter]
  rw [CommaPadding.separator, List.length_append, List.length_cons]
  omega

/-- INTERNAL: splitting reads an item to its end. -/
theorem splitFrom_item (item : ListItem) (rest : List Char) :
    splitFrom commaLength 0 [] (item.text.toList ++ rest) =
      splitFrom commaLength 0 item.text.toList rest := by
  rw [splitFrom_plain rest []]
  · rfl
  · intro c s hsuffix
    obtain ⟨front, hfront⟩ := hsuffix
    apply commaLength_plain _ (List.cons_ne_nil c s)
    · intro hmem
      apply item.no_comma
      rw [← hfront]
      exact List.mem_append_right _ hmem
    · intro d hd
      apply item.last_plain
      rw [← hfront, List.getLast?_append_of_ne_nil _ (List.cons_ne_nil c s)]
      exact hd

/-- INTERNAL: **the characters of joined items** are split into the items. The induction is on
the items after the first. -/
theorem splitFrom_join (first : ListItem) (rest : List (CommaPadding × ListItem)) :
    splitFrom commaLength 0 []
        (first.text.toList ++ rest.flatMap fun r => r.1.separator ++ r.2.text.toList) =
      first.text.toList :: rest.map fun r => r.2.text.toList := by
  induction rest generalizing first with
  | nil =>
    rw [splitFrom_item, List.flatMap_nil]
    rfl
  | cons r rest ih =>
    have hhead : ∀ c, (r.2.text.toList ++ rest.flatMap fun r =>
        r.1.separator ++ r.2.text.toList).head? = some c → isWhite c = false := by
      intro c hc
      rw [List.head?_append_of_ne_nil _ r.2.toList_ne_nil] at hc
      exact r.2.head_plain c hc
    have hne : r.1.separator ≠ [] := by simp [CommaPadding.separator]
    rw [splitFrom_item, List.flatMap_cons, List.append_assoc,
      splitFrom_separator _ _ hne (commaLength_separator r.1 hhead), ih r.2]
    rfl

/-- **Joined items** are split into the items, in order. -/
theorem splitCommas_joinItems (first : ListItem) (rest : List (CommaPadding × ListItem)) :
    splitCommas (joinItems first rest) = itemTexts first rest := by
  unfold splitCommas joinItems itemTexts
  rw [String.toList_ofList, splitFrom_join, List.map_cons, List.map_map, String.ofList_toList]
  apply congrArg (List.cons first.text)
  apply List.map_congr_left
  intro r _
  exact String.ofList_toList

/-- Joined items are not the empty text. -/
theorem joinItems_ne_empty (first : ListItem) (rest : List (CommaPadding × ListItem)) :
    joinItems first rest ≠ "" := by
  intro h
  have hsplit := splitCommas_joinItems first rest
  rw [h, show splitCommas "" = [""] from rfl] at hsplit
  exact first.nonempty (List.cons.inj hsplit).1.symm

end Xnestjs.Model
