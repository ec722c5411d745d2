import Mathlib.Data.List.Nodup
import Mathlib.Tactic.SplitIfs

/-!
# Records of string keys

A plain object used as a dictionary: its own keys in the order in which they were first set,
each of them once. Setting a key that is there keeps its place. Keys that are array indices
would come first in the order of a JavaScript engine; nothing here is about such keys.
-/

set_option autoImplicit false

namespace Xnestjs.Model

variable {V : Type}

def entryLookup : List (String × V) → String → Option V
  | [], _ => none
  | e :: es, k => if e.1 = k then some e.2 else entryLookup es k

/-- The entries with one key set: in its place when it is there, at the end otherwise. -/
def entrySet : List (String × V) → String → V → List (String × V)
  | [], k, v => [(k, v)]
  | e :: es, k, v => if e.1 = k then (k, v) :: es else e :: entrySet es k v

/-- A key has a value when it is among the keys. -/
theorem entryLookup_isSome (es : List (String × V)) (k : String) :
    (entryLookup es k).isSome = true ↔ k ∈ es.map Prod.fst := by
  induction es with
  | nil => simp [entryLookup]
  | cons e es ih =>
    by_cases h : e.1 = k
    · simp [entryLookup, h]
    · simp [entryLookup, h, ih, Ne.symm h]

/-- A key that is set has the value. -/
theorem entryLookup_set_self (es : List (String × V)) (k : String) (v : V) :
    entryLookup (entrySet es k v) k = some v := by
  induction es with
  | nil => simp [entrySet, entryLookup]
  | cons e es ih =>
    by_cases h : e.1 = k
    · simp [entrySet, entryLookup, h]
    · simp [entrySet, entryLookup, h, ih]

/-- Setting a key leaves the others alone. -/
theorem entryLookup_set_other (es : List (String × V)) {k k' : String} (v : V)
    (hk : k' ≠ k) : entryLookup (entrySet es k v) k' = entryLookup es k' := by
  induction es with
  | nil => simp [entrySet, entryLookup, Ne.symm hk]
  | cons e es ih =>
    by_cases h : e.1 = k
    · have h' : e.1 ≠ k' := fun he => hk (he.symm.trans h)
      simp [entrySet, entryLookup, h, Ne.symm hk]
    · simp [entrySet, entryLookup, h, ih]

/-- So does taking its entry out. -/
theorem entryLookup_filter_other (es : List (String × V)) {k k' : String} (hk : k' ≠ k) :
    entryLookup (es.filter (fun e => e.1 ≠ k)) k' = entryLookup es k' := by
  induction es with
  | nil => rfl
  | cons e es ih =>
    by_cases h : e.1 = k
    · have h' : ¬ e.1 = k' := fun he => hk (he.symm.trans h)
      rw [List.filter_cons_of_neg (by simpa using h), ih]
      simp only [entryLookup, h', if_false]
    · rw [List.filter_cons_of_pos (by simpa using h)]
      simp only [entryLookup, ih]

/-- A key that is set keeps its place, or comes last. -/
theorem keys_entrySet (es : List (String × V)) (k : String) (v : V) :
    (entrySet es k v).map Prod.fst =
      if k ∈ es.map Prod.fst then es.map Prod.fst else es.map Prod.fst ++ [k] := by
  induction es with
  | nil => rfl
  | cons e es ih =>
    by_cases h : e.1 = k
    · simp [entrySet, h]
    · have hk : k ∈ (e :: es).map Prod.fst ↔ k ∈ es.map Prod.fst := by
        simp [Ne.symm h]
      simp only [entrySet, h, if_false, List.map_cons, ih] at hk ⊢
      by_cases hmem : k ∈ es.map Prod.fst
      · simp [hmem, hk]
      · simp [hmem, Ne.symm h]

/-- A record: entries in order, no key twice. -/
structure Record (V : Type) where
  entries : List (String × V)
  nodup : (entries.map Prod.fst).Nodup

namespace Record

/-- `{}` -/
def empty : Record V := ⟨[], List.nodup_nil⟩

/-- `Object.keys(r)` -/
def keys (r : Record V) : List String := r.entries.map Prod.fst

def lookup (r : Record V) (k : String) : Option V := entryLookup r.entries k

/-- `r[k] = v` -/
def set (r : Record V) (k : String) (v : V) : Record V :=
  ⟨entrySet r.entries k v, by
    rw [keys_entrySet]
    by_cases hk : k ∈ r.entries.map Prod.fst
    · rw [if_pos hk]
      exact r.nodup
    · rw [if_neg hk]
      rw [← List.concat_eq_append]
      exact List.Nodup.concat hk r.nodup⟩

/-- `delete r[k]` -/
def delete (r : Record V) (k : String) : Record V :=
  ⟨r.entries.filter (fun e => e.1 ≠ k), r.nodup.sublist (List.filter_sublist.map Prod.fst)⟩

/-- A key has a value when it is among the keys. -/
theorem lookup_isSome (r : Record V) (k : String) :
    (r.lookup k).isSome = true ↔ k ∈ r.keys := entryLookup_isSome r.entries k

/-- The empty record has no values. -/
@[simp] theorem lookup_empty (k : String) : (empty : Record V).lookup k = none := rfl

/-- A key that is set has the value. -/
@[simp] theorem lookup_set_self (r : Record V) (k : String) (v : V) :
    (r.set k v).lookup k = some v := entryLookup_set_self r.entries k v

/-- Setting a key leaves the others alone. -/
theorem lookup_set_other (r : Record V) {k k' : String} (v : V) (hk : k' ≠ k) :
    (r.set k v).lookup k' = r.lookup k' := entryLookup_set_other r.entries v hk

/-- So does deleting it. -/
theorem lookup_delete_other (r : Record V) {k k' : String} (hk : k' ≠ k) :
    (r.delete k).lookup k' = r.lookup k' := entryLookup_filter_other r.entries hk

/-- What is not a key has no value. -/
theorem lookup_of_not_mem (r : Record V) {k : String} (hk : k ∉ r.keys) :
    r.lookup k = none := by
  have hnot : ¬ (r.lookup k).isSome = true := fun h => hk ((r.lookup_isSome k).mp h)
  simpa using hnot

/-- And what has no value is not a key. -/
theorem lookup_eq_none_iff (r : Record V) (k : String) : r.lookup k = none ↔ k ∉ r.keys := by
  refine ⟨fun h hk => ?_, r.lookup_of_not_mem⟩
  have hsome := (r.lookup_isSome k).mpr hk
  rw [h] at hsome
  exact absurd hsome Bool.false_ne_true

/-- The value of a key is that of its one entry. -/
theorem lookup_eq_some_iff (r : Record V) (k : String) (v : V) :
    r.lookup k = some v ↔ (k, v) ∈ r.entries := by
  have hentries : ∀ es : List (String × V), (es.map Prod.fst).Nodup →
      (entryLookup es k = some v ↔ (k, v) ∈ es) := by
    intro es hnodup
    induction es with
    | nil => simp [entryLookup]
    | cons e es ih =>
      obtain ⟨hnot, hrest⟩ := List.nodup_cons.mp hnodup
      rw [entryLookup, List.mem_cons, ← ih hrest]
      split_ifs with hk
      · subst hk
        have hnone : entryLookup es e.1 ≠ some v := by
          intro hsome
          exact hnot ((entryLookup_isSome es e.1).mp (by rw [hsome]; rfl))
        simp [hnone, Prod.ext_iff, eq_comm]
      · have hne : (k, v) ≠ e := fun heq => hk (heq ▸ rfl)
        simp [hne]
  exact hentries r.entries r.nodup

/-- A key that is set keeps its place, or comes last. -/
theorem keys_set (r : Record V) (k : String) (v : V) :
    (r.set k v).keys = if k ∈ r.keys then r.keys else r.keys ++ [k] :=
  keys_entrySet r.entries k v

/-- A key that is deleted leaves the others in their places. -/
theorem keys_delete (r : Record V) (k : String) :
    (r.delete k).keys = r.keys.filter (· ≠ k) := by
  unfold keys delete
  rw [List.filter_map]
  rfl

/-! ## Object spread -/

/-- `{ ...r, ...other }` -/
def spread (r other : Record V) : Record V :=
  other.entries.foldl (fun s e => s.set e.1 e.2) r

/-- `{ ...r₁, ...r₂, … }` -/
def spreadAll (rs : List (Record V)) : Record V := rs.foldl spread empty

/-- A record after a key was set, looked up anywhere. -/
theorem lookup_set (r : Record V) (k k' : String) (v : V) :
    (r.set k v).lookup k' = if k = k' then some v else r.lookup k' := by
  split_ifs with h
  · rw [← h, lookup_set_self]
  · exact r.lookup_set_other v (Ne.symm h)

/-- INTERNAL: the induction is on the entries that are set. -/
theorem lookup_foldl_set {es : List (String × V)} (hes : (es.map Prod.fst).Nodup) (r : Record V)
    (k : String) :
    (es.foldl (fun s e => s.set e.1 e.2) r).lookup k = (entryLookup es k).or (r.lookup k) := by
  induction es generalizing r with
  | nil => rfl
  | cons e es ih =>
    obtain ⟨hnot, hrest⟩ := List.nodup_cons.mp hes
    rw [List.foldl_cons, ih hrest, lookup_set]
    by_cases h : e.1 = k
    · have hnone : entryLookup es k = none := by
        have hkeys : ¬ (entryLookup es k).isSome = true := by
          rw [entryLookup_isSome, ← h]
          exact hnot
        simpa using hkeys
      simp [entryLookup, h, hnone]
    · simp [entryLookup, h]

/-- A key of the second record takes precedence. -/
theorem lookup_spread (r other : Record V) (k : String) :
    (r.spread other).lookup k = (other.lookup k).or (r.lookup k) :=
  lookup_foldl_set other.nodup r k

/-- INTERNAL: the induction is on the records that are spread. -/
theorem mem_of_lookup_foldl_spread {rs : List (Record V)} {r : Record V} {k : String} {v : V}
    (h : (rs.foldl spread r).lookup k = some v) :
    r.lookup k = some v ∨ ∃ other ∈ rs, other.lookup k = some v := by
  induction rs generalizing r with
  | nil => exact Or.inl h
  | cons other rs ih =>
    rcases ih h with hspread | ⟨s, hs, hv⟩
    · rw [lookup_spread, Option.or_eq_some_iff] at hspread
      rcases hspread with hother | ⟨-, hr⟩
      · exact Or.inr ⟨other, List.mem_cons_self, hother⟩
      · exact Or.inl hr
    · exact Or.inr ⟨s, List.mem_cons_of_mem other hs, hv⟩

/-- What a merged record has under a key, one of the records has there. -/
theorem mem_of_lookup_spreadAll {rs : List (Record V)} {k : String} {v : V}
    (h : (spreadAll rs).lookup k = some v) : ∃ r ∈ rs, r.lookup k = some v := by
  rcases mem_of_lookup_foldl_spread h with hempty | hsome
  · cases hempty
  · exact hsome

end Record

/-- `s.toLowerCase()`, for the letters A to Z; other characters are kept. Compared with a
name whose letters are a to j and l to z, it gives the answer of the full Unicode mapping:
the Kelvin sign, which goes to k, is the only other character that goes to such a letter. -/
def toLowerCase (s : String) : String := String.ofList (s.toList.map Char.toLower)

/-- A letter in lower case stays as it is. -/
theorem toLower_toLower (c : Char) : c.toLower.toLower = c.toLower := by
  unfold Char.toLower
  split_ifs with hupper hagain
  · exfalso
    have hlow : 65 ≤ c.toNat := hupper.1
    have hhigh : c.toNat ≤ 90 := hupper.2
    have hstill : (c.val + ('a'.val - 'A'.val)).toNat ≤ 90 := hagain.2
    rw [UInt32.toNat_add] at hstill
    simp at hstill
    omega
  · rfl
  · rfl

/-- A text in lower case stays as it is. -/
theorem toLowerCase_toLowerCase (s : String) : toLowerCase (toLowerCase s) = toLowerCase s := by
  unfold toLowerCase
  rw [String.toList_ofList, List.map_map]
  congr 2
  funext c
  exact toLower_toLower c

end Xnestjs.Model
