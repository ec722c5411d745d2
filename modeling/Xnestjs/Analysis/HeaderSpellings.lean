import Xnestjs.Program.S3StorageConnection

/-!
# How often a header is spelled in the written metadata

Header names are the same for the store in any letter case, so a request should have one key
for each header. `updateMetadata` makes room for a header with `removeKey`, which deletes the
first key that spells it, and then sets the title-case key. What it makes of the list of all
spellings of a header is therefore: drop the first, then add the title-case one unless it is
among the others.
-/

set_option autoImplicit false

namespace Xnestjs.Analysis

open Xnestjs.Model Xnestjs.Program.S3StorageConnection

/-- The keys that spell a header, in any letter case, in the order of the record. -/
def spellings (md : FileMetadata) (header : String) : List String :=
  md.keys.filter (fun k => toLowerCase k = toLowerCase header)

/-- The title-case name of the header of an option. -/
def headerName : HeaderField → String
  | .originalName => "Content-Name"
  | .contentType => "Content-Type"
  | .contentLanguage => "Content-Language"
  | .contentEncoding => "Content-Encoding"

def optionOf (o : PutObjectOptions) : HeaderField → Value
  | .originalName => o.originalName
  | .contentType => o.contentType
  | .contentLanguage => o.contentLanguage
  | .contentEncoding => o.contentEncoding

/-- INTERNAL: no spelling is counted twice. -/
theorem nodup_spellings (md : FileMetadata) (header : String) : (spellings md header).Nodup := by
  have hkeys : md.keys.Nodup := md.nodup
  exact hkeys.filter _

/-- INTERNAL: the spellings of a header are the keys that are its name but for the case. -/
theorem mem_spellings {md : FileMetadata} {header k : String} :
    k ∈ spellings md header ↔ k ∈ md.keys ∧ toLowerCase k = toLowerCase header := by
  unfold spellings
  rw [List.mem_filter, decide_eq_true_eq]

/-- INTERNAL: a key that is deleted is one spelling less. -/
theorem spellings_delete (md : FileMetadata) (header k : String) :
    spellings (md.delete k) header = (spellings md header).filter (· ≠ k) := by
  unfold spellings
  rw [Record.keys_delete, List.filter_filter, List.filter_filter]
  apply List.filter_congr
  intro x _
  exact Bool.and_comm _ _

/-! ## One block of the writer -/

/-- INTERNAL: `removeKey` drops the first spelling of its header.
SOURCE: s3-storage-connection.ts:128-132 -/
theorem spellings_removeKey_self (md : FileMetadata) {key : String}
    (hkey : toLowerCase key ≠ "") :
    spellings (removeKey md key) key = (spellings md key).tail := by
  have hfirst : md.keys.find? (fun x => toLowerCase x = toLowerCase key) =
      (spellings md key).head? := List.head?_filter.symm
  unfold removeKey
  rw [hfirst]
  cases hs : spellings md key with
  | nil => exact hs
  | cons k rest =>
    have hk : toLowerCase k = toLowerCase key := by
      have hmem : k ∈ spellings md key := by
        rw [hs]
        exact List.mem_cons_self
      exact (mem_spellings.mp hmem).2
    have hne : k ≠ "" := by
      rintro rfl
      exact hkey (hk.symm.trans rfl)
    have hnodup : (k :: rest).Nodup := hs ▸ nodup_spellings md key
    have hrest : k ∉ rest := (List.nodup_cons.mp hnodup).1
    simp only [List.head?_cons, List.tail_cons]
    rw [if_pos hne, spellings_delete, hs, List.filter_cons_of_neg (by simp)]
    apply List.filter_eq_self.mpr
    intro x hx
    have hxk : x ≠ k := fun h => hrest (h ▸ hx)
    simpa using hxk

/-- INTERNAL: and no spelling of another one. -/
theorem spellings_removeKey_other (md : FileMetadata) {key header : String}
    (hother : toLowerCase header ≠ toLowerCase key) :
    spellings (removeKey md key) header = spellings md header := by
  unfold removeKey
  cases hfind : md.keys.find? (fun x => toLowerCase x = toLowerCase key) with
  | none => rfl
  | some k =>
    have hk : toLowerCase k = toLowerCase key := by simpa using List.find?_some hfind
    simp only
    split_ifs
    · rw [spellings_delete]
      apply List.filter_eq_self.mpr
      intro x hx
      have hx' : toLowerCase x = toLowerCase header := (mem_spellings.mp hx).2
      have hxk : x ≠ k := fun h => hother (hx'.symm.trans ((congrArg toLowerCase h).trans hk))
      simpa using hxk
    · rfl

/-- INTERNAL: setting a header adds its own spelling, if it is not there. -/
theorem spellings_set_self (md : FileMetadata) (header : String) (v : Value) :
    spellings (md.set header v) header =
      if header ∈ spellings md header then spellings md header
      else spellings md header ++ [header] := by
  have hmem : header ∈ spellings md header ↔ header ∈ md.keys := by simp [mem_spellings]
  unfold spellings at hmem ⊢
  rw [Record.keys_set]
  by_cases hkeys : header ∈ md.keys
  · rw [if_pos hkeys, if_pos (hmem.mpr hkeys)]
  · rw [if_neg hkeys, if_neg (fun h => hkeys (hmem.mp h)), List.filter_append]
    simp

/-- INTERNAL: setting another header adds none. -/
theorem spellings_set_other (md : FileMetadata) {header k : String} (v : Value)
    (hother : toLowerCase header ≠ toLowerCase k) :
    spellings (md.set k v) header = spellings md header := by
  unfold spellings
  rw [Record.keys_set]
  split_ifs
  · rfl
  · rw [List.filter_append]
    simp [Ne.symm hother]

/-- The spellings that one block of the writer leaves of its header, from the spellings that it
finds. -/
def respelled (header : String) (found : List String) : List String :=
  if header ∈ found.tail then found.tail else found.tail ++ [header]

/-- INTERNAL: **one block** of the writer, when its option is set.
SOURCE: s3-storage-connection.ts:109-112 -/
theorem spellings_writeHeader_self (guard value : Value) {key header : String}
    (md : FileMetadata) (hguard : guard.truthy = true) (hkey : toLowerCase key ≠ "")
    (hsame : toLowerCase header = toLowerCase key) :
    spellings (writeHeader guard value key header md) header =
      respelled header (spellings md header) := by
  have hspell : ∀ md : FileMetadata, spellings md header = spellings md key := by
    intro md
    unfold spellings
    rw [hsame]
  unfold writeHeader respelled
  rw [if_pos hguard, spellings_set_self, hspell, spellings_removeKey_self md hkey, ← hspell]

/-- INTERNAL: a block leaves the spellings of the other headers alone. -/
theorem spellings_writeHeader_other (guard value : Value) {key header other : String}
    (md : FileMetadata) (hkey : toLowerCase other ≠ toLowerCase key)
    (hheader : toLowerCase other ≠ toLowerCase header) :
    spellings (writeHeader guard value key header md) other = spellings md other := by
  unfold writeHeader
  split_ifs
  · rw [spellings_set_other _ _ hheader, spellings_removeKey_other _ hkey]
  · rfl

/-! ## The whole writer -/

/-- INTERNAL: every header whose option is set is respelled from the user metadata; the blocks
of the other headers do not come in. SOURCE: s3-storage-connection.ts:106-126 -/
theorem spellings_updateMetadata (md : Option FileMetadata) (o : PutObjectOptions) :
    ∃ md', updateMetadata md (some o) = some md' ∧ ∀ f, (optionOf o f).truthy = true →
      spellings md' (headerName f) =
        respelled (headerName f) (spellings (md.getD .empty) (headerName f)) := by
  refine ⟨_, rfl, ?_⟩
  intro f hset
  cases f with
  | originalName =>
    have hguard : o.originalName.truthy = true := hset
    simp only [headerName]
    rw [spellings_writeHeader_self _ _ _ hguard (by decide) (by decide)]
    simp (disch := simp [toLowerCase_headers]) only [spellings_writeHeader_other]
  | contentType =>
    have hguard : o.contentType.truthy = true := hset
    simp (disch := simp [toLowerCase_headers]) only [headerName, spellings_writeHeader_other]
    exact spellings_writeHeader_self _ _ _ hguard (by decide) (by decide)
  | contentLanguage =>
    have hguard : o.contentLanguage.truthy = true := hset
    simp (disch := simp [toLowerCase_headers]) only [headerName, spellings_writeHeader_other]
    rw [spellings_writeHeader_self _ _ _ hguard (by decide) (by decide)]
    simp (disch := simp [toLowerCase_headers]) only [spellings_writeHeader_other]
  | contentEncoding =>
    have hguard : o.contentEncoding.truthy = true := hset
    simp (disch := simp [toLowerCase_headers]) only [headerName, spellings_writeHeader_other]
    rw [spellings_writeHeader_self _ _ _ hguard (by decide) (by decide)]
    simp (disch := simp [toLowerCase_headers]) only [spellings_writeHeader_other]

/-- INTERNAL: one spelling is left, the title-case one, exactly when after the first there was
no other. -/
theorem respelled_eq_singleton_iff {header : String} {found : List String}
    (hnodup : found.Nodup) :
    respelled header found = [header] ↔ ∀ k ∈ found.tail, k = header := by
  have hrest : found.tail.Nodup := hnodup.sublist (List.tail_sublist found)
  unfold respelled
  split_ifs with hmem
  · constructor
    · intro h k hk
      rw [h] at hk
      exact List.mem_singleton.mp hk
    · intro h
      cases hs : found.tail with
      | nil => simp [hs] at hmem
      | cons x xs =>
        rw [hs] at h hrest
        have hx : x = header := h x List.mem_cons_self
        have hxs : xs = [] := by
          apply List.eq_nil_iff_forall_not_mem.mpr
          intro y hy
          have hyx : y = x := (h y (List.mem_cons_of_mem x hy)).trans hx.symm
          exact (List.nodup_cons.mp hrest).1 (hyx ▸ hy)
        rw [hx, hxs]
  · constructor
    · intro h k hk
      have hnil : found.tail = [] := by simpa using h
      rw [hnil] at hk
      exact absurd hk List.not_mem_nil
    · intro h
      have hnil : found.tail = [] := by
        apply List.eq_nil_iff_forall_not_mem.mpr
        intro k hk
        exact hmem (h k hk ▸ hk)
      rw [hnil]
      rfl

/-- **One key for each header.** In the metadata that `updateMetadata` makes of any user
metadata, every header whose option is set has exactly one spelling, the title-case one, exactly
when the user metadata has, after the first spelling of such a header, no other than the
title-case one. SOURCE: s3-storage-connection.ts:106-132 -/
theorem one_spelling_iff (md : Option FileMetadata) (o : PutObjectOptions) :
    ∃ md', updateMetadata md (some o) = some md' ∧
      ((∀ f, (optionOf o f).truthy = true → spellings md' (headerName f) = [headerName f]) ↔
        ∀ f, (optionOf o f).truthy = true →
          ∀ k ∈ (spellings (md.getD .empty) (headerName f)).tail, k = headerName f) := by
  obtain ⟨md', hmd', hspell⟩ := spellings_updateMetadata md o
  refine ⟨md', hmd', ?_⟩
  have hone : ∀ f, (optionOf o f).truthy = true →
      (spellings md' (headerName f) = [headerName f] ↔
        ∀ k ∈ (spellings (md.getD .empty) (headerName f)).tail, k = headerName f) := by
    intro f hset
    rw [hspell f hset]
    exact respelled_eq_singleton_iff (nodup_spellings _ _)
  exact forall_congr' fun f => imp_congr_right fun hset => hone f hset

/-- Two spellings of the content type in the user metadata: one of them stays beside the one
that is written. -/
theorem second_spelling_stays :
    let md : FileMetadata :=
      ⟨[("content-type", .str "a/b"), ("CONTENT-TYPE", .str "c/d")], by decide⟩
    let o : PutObjectOptions :=
      ⟨.undefined, .str "text/plain", .undefined, .undefined, some md⟩
    ∃ md', updateMetadata o.metadata (some o) = some md' ∧
      spellings md' "Content-Type" = ["CONTENT-TYPE", "Content-Type"] ∧
      getKey md' "CONTENT-TYPE" = .str "c/d" ∧ getKey md' "Content-Type" = .str "text/plain" := by
  refine ⟨_, rfl, ?_, ?_, ?_⟩
  · decide
  · decide
  · decide

end Xnestjs.Analysis
