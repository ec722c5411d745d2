import Xnestjs.Analysis.HeaderSpellings
import Xnestjs.Analysis.ObjectHeaders
import Mathlib.Logic.Basic

/-!
# Reading headers in other letter case

The store gives header names back as it received them, and they mean the same in any letter
case. `getObjectInfo` removes headers in any case but looks them up in title case only. This
file compares its results on two metadata records that differ in the case of their keys.
-/

set_option autoImplicit false

namespace Xnestjs.Analysis

open Xnestjs.Model Xnestjs.Program.S3StorageConnection

/-- No name is spelled in two ways. -/
def OneSpelling (md : FileMetadata) : Prop :=
  ∀ k ∈ md.keys, ∀ k' ∈ md.keys, toLowerCase k = toLowerCase k' → k = k'

/-- The same names with the same values, but for the letter case of the names. -/
def SameUpToCase (md md' : FileMetadata) : Prop :=
  ∀ name v, (∃ k, toLowerCase k = name ∧ md.lookup k = some v) ↔
    ∃ k, toLowerCase k = name ∧ md'.lookup k = some v

/-- The same four header fields, and the same metadata up to case. -/
structure SameInfo (inf inf' : ObjectInfo) : Prop where
  fields : ∀ f, inf.field f = inf'.field f
  metadata : ∃ md md', inf.metadata = some md ∧ inf'.metadata = some md' ∧ SameUpToCase md md'

/-- A header is found: it has a value that is not empty under its title-case name. -/
def found (md : FileMetadata) (f : HeaderField) : Bool := (getKey md (headerName f)).truthy

/-! ## What is left of the metadata -/

/-- INTERNAL: fewer names have no more spellings. -/
theorem OneSpelling.mono {md md' : FileMetadata} (h : OneSpelling md)
    (hkeys : ∀ k ∈ md'.keys, k ∈ md.keys) : OneSpelling md' :=
  fun k hk k' hk' hcase => h k (hkeys k hk) k' (hkeys k' hk') hcase

/-- INTERNAL: with one spelling of each name, `removeKey` removes the name.
SOURCE: s3-storage-connection.ts:128-132 -/
theorem OneSpelling.lookup_removeKey {md : FileMetadata} (h : OneSpelling md) {key : String}
    (hkey : toLowerCase key ≠ "") (k : String) :
    (removeKey md key).lookup k =
      if toLowerCase k = toLowerCase key then none else md.lookup k := by
  unfold removeKey
  cases hfind : md.keys.find? (fun x => toLowerCase x = toLowerCase key) with
  | none =>
    have hnot : ∀ x ∈ md.keys, toLowerCase x ≠ toLowerCase key := by
      simpa using List.find?_eq_none.mp hfind
    split_ifs with hk
    · exact md.lookup_of_not_mem fun hmem => hnot k hmem hk
    · rfl
  | some x =>
    have hx : toLowerCase x = toLowerCase key := by simpa using List.find?_some hfind
    have hxmem : x ∈ md.keys := List.mem_of_find?_eq_some hfind
    have hne : x ≠ "" := by
      rintro rfl
      exact hkey (hx.symm.trans rfl)
    simp only
    rw [if_pos hne]
    split_ifs with hk
    · rw [Record.lookup_eq_none_iff, Record.keys_delete, List.mem_filter]
      rintro ⟨hmem, hkx⟩
      have heq : k = x := h k hmem x hxmem (hk.trans hx.symm)
      simp [heq] at hkx
    · have hkx : k ≠ x := fun heq => hk (heq ▸ hx)
      exact md.lookup_delete_other hkx

/-- INTERNAL: a removal adds no spelling. SOURCE: s3-storage-connection.ts:128-132 -/
theorem OneSpelling.removeKey {md : FileMetadata} (h : OneSpelling md) (key : String) :
    OneSpelling (removeKey md key) := by
  apply h.mono
  intro k hk
  unfold Xnestjs.Program.S3StorageConnection.removeKey at hk
  cases hfind : md.keys.find? (fun x => toLowerCase x = toLowerCase key) with
  | none =>
    rw [hfind] at hk
    exact hk
  | some x =>
    rw [hfind] at hk
    simp only at hk
    split_ifs at hk
    · rw [Record.keys_delete] at hk
      exact List.mem_of_mem_filter hk
    · exact hk

/-- INTERNAL: neither does a block of the reader. SOURCE: s3-storage-connection.ts:60-63 -/
theorem OneSpelling.readHeader {s : ObjectInfo × FileMetadata} (h : OneSpelling s.2)
    (header key : String) (f : HeaderField) : OneSpelling (readHeader header key f s).2 := by
  unfold Xnestjs.Program.S3StorageConnection.readHeader
  split_ifs
  · exact h.removeKey key
  · exact h

/-- INTERNAL: **one block** of the reader removes its name when it finds the header.
SOURCE: s3-storage-connection.ts:60-63 -/
theorem OneSpelling.lookup_readHeader {s : ObjectInfo × FileMetadata} (h : OneSpelling s.2)
    (header : String) {key : String} (f : HeaderField) (hkey : toLowerCase key ≠ "")
    (k : String) :
    (Xnestjs.Program.S3StorageConnection.readHeader header key f s).2.lookup k =
      if (getKey s.2 header).truthy = true ∧ toLowerCase k = toLowerCase key then none
      else s.2.lookup k := by
  unfold Xnestjs.Program.S3StorageConnection.readHeader
  by_cases hfound : (getKey s.2 header).truthy = true
  · rw [if_pos hfound]
    simp only [hfound, true_and]
    exact h.lookup_removeKey hkey k
  · rw [if_neg hfound, if_neg fun hboth => hfound hboth.1]

def headerFields : List HeaderField :=
  [.originalName, .contentEncoding, .contentLanguage, .contentType]

/-- The names that `getObjectInfo` takes out of the metadata. -/
def removed (md : FileMetadata) (name : String) : Bool :=
  name = "content-length" || name = "last-modified" ||
    headerFields.any fun f => found md f && name = toLowerCase (headerName f)

/-- INTERNAL: the name of a header is taken out exactly when the header is found. -/
theorem removed_headerName (md : FileMetadata) (f : HeaderField) :
    removed md (toLowerCase (headerName f)) = found md f := by
  have hne : ∀ f, toLowerCase (headerName f) ≠ "content-length" ∧
      toLowerCase (headerName f) ≠ "last-modified" := by
    intro f
    cases f <;> decide
  have hinj : ∀ f g, toLowerCase (headerName f) = toLowerCase (headerName g) → f = g := by
    intro f g
    cases f <;> cases g <;> decide
  unfold removed
  simp only [hne f, decide_false, Bool.false_or]
  apply Bool.eq_iff_iff.mpr
  rw [List.any_eq_true]
  constructor
  · rintro ⟨g, -, hg⟩
    rw [Bool.and_eq_true, decide_eq_true_eq] at hg
    rw [hinj f g hg.2]
    exact hg.1
  · intro hf
    refine ⟨f, ?_, ?_⟩
    · cases f <;> decide
    · simp [hf]

/-- INTERNAL: **the whole reader** keeps the value of every key whose name it does not take
out. SOURCE: s3-storage-connection.ts:56-76 -/
theorem lookup_readHeaders {md : FileMetadata} (h : OneSpelling md) (inf : ObjectInfo)
    (k : String) :
    (readHeaders (inf, removeKey (removeKey md "content-length") "last-modified")).2.lookup k =
      if removed md (toLowerCase k) then none else md.lookup k := by
  have h₀ := (h.removeKey "content-length").removeKey "last-modified"
  have hkey : ∀ f, getKey (removeKey (removeKey md "content-length") "last-modified")
      (headerName f) = getKey md (headerName f) := by
    intro f
    cases f <;> simp (disch := simp [toLowerCase_headers]) only [headerName, getKey_removeKey]
  unfold readHeaders
  generalize hs : removeKey (removeKey md "content-length") "last-modified" = md₀ at h₀ hkey
  have h₁ : OneSpelling (readHeader "Content-Type" "content-type" .contentLanguage
    (inf, md₀)).2 := OneSpelling.readHeader h₀ _ _ _
  have h₂ := h₁.readHeader "Content-Language" "content-language" .contentLanguage
  have h₃ := h₂.readHeader "Content-Encoding" "content-encoding" .contentEncoding
  rw [h₃.lookup_readHeader _ _ (by decide), h₂.lookup_readHeader _ _ (by decide),
    h₁.lookup_readHeader _ _ (by decide), OneSpelling.lookup_readHeader h₀ _ _ (by decide)]
  simp (disch := simp [toLowerCase_headers]) only [getKey_readHeader]
  have hlookup : md₀.lookup k = if toLowerCase k = "last-modified" then none
      else if toLowerCase k = "content-length" then none else md.lookup k := by
    rw [← hs, (h.removeKey "content-length").lookup_removeKey (by decide),
      h.lookup_removeKey (by decide)]
    rfl
  have hname : getKey md₀ "Content-Name" = getKey md "Content-Name" := hkey .originalName
  have hencoding : getKey md₀ "Content-Encoding" = getKey md "Content-Encoding" :=
    hkey .contentEncoding
  have hlanguage : getKey md₀ "Content-Language" = getKey md "Content-Language" :=
    hkey .contentLanguage
  have htype : getKey md₀ "Content-Type" = getKey md "Content-Type" := hkey .contentType
  rw [hlookup, hname, hencoding, hlanguage, htype]
  simp only [← ite_or]
  apply if_congr _ rfl rfl
  unfold removed found headerFields
  simp only [List.any_cons, List.any_nil, Bool.or_false, Bool.or_eq_true, Bool.and_eq_true,
    decide_eq_true_eq]
  have hcase : toLowerCase "Content-Name" = toLowerCase "content-name" ∧
      toLowerCase "Content-Encoding" = toLowerCase "content-encoding" ∧
      toLowerCase "Content-Language" = toLowerCase "content-language" ∧
      toLowerCase "Content-Type" = toLowerCase "content-type" := by simp [toLowerCase_headers]
  simp only [headerName, hcase, or_assoc, or_comm, or_left_comm]

/-- A stat with this metadata gives this info. -/
def InfoOf (md : FileMetadata) (inf : ObjectInfo) : Prop :=
  ∃ (statObject : String → String → Except String BucketItemStat) (bucketName objectName : String)
    (stat : BucketItemStat), statObject bucketName objectName = .ok stat ∧
      stat.metaData = some md ∧ getObjectInfo statObject bucketName objectName = .ok inf

/-- INTERNAL: the metadata of the info. -/
theorem InfoOf.metadata {md : FileMetadata} {inf : ObjectInfo} (h : InfoOf md inf)
    (hone : OneSpelling md) :
    ∃ left, inf.metadata = some left ∧ ∀ k, left.lookup k =
      if removed md (toLowerCase k) then none else md.lookup k := by
  obtain ⟨statObject, bucketName, objectName, stat, hstat, hmd, hinf⟩ := h
  simp only [getObjectInfo, hstat, hmd, Except.ok.injEq] at hinf
  subst hinf
  exact ⟨_, rfl, fun k => lookup_readHeaders hone _ k⟩

/-- The value that the reader takes for a header. -/
def headerValue (md : FileMetadata) (f : HeaderField) : Value :=
  if found md f then getKey md (headerName f) else .undefined

/-- INTERNAL: the header fields of the info, by the values found. -/
theorem InfoOf.fields {md : FileMetadata} {inf : ObjectInfo} (h : InfoOf md inf) :
    inf.contentType = .undefined ∧
      inf.contentLanguage = (if found md .contentLanguage then headerValue md .contentLanguage
        else headerValue md .contentType) ∧
      inf.contentEncoding = headerValue md .contentEncoding ∧
      inf.originalName = headerValue md .originalName := by
  obtain ⟨statObject, bucketName, objectName, stat, hstat, hmd, hinf⟩ := h
  obtain ⟨inf', hinf', htype, hlanguage, hencoding, hname⟩ := info_of_stat hstat hmd
  have heq : inf' = inf := Except.ok.inj (hinf'.symm.trans hinf)
  subst heq
  refine ⟨htype, ?_, hencoding, hname⟩
  rw [hlanguage]
  unfold headerValue found headerName
  split_ifs <;> rfl

/-! ## Two spellings of one record -/

/-- INTERNAL: letter case is compared both ways. -/
theorem SameUpToCase.symm {md md' : FileMetadata} (h : SameUpToCase md md') :
    SameUpToCase md' md := fun name v => (h name v).symm

/-- INTERNAL: a header that is found has its entry in the other record too. -/
theorem SameUpToCase.entry_of_found {md md' : FileMetadata} (h : SameUpToCase md md')
    {f : HeaderField} (hf : found md f = true) :
    md.lookup (headerName f) = some (getKey md (headerName f)) ∧
      ∃ k, toLowerCase k = toLowerCase (headerName f) ∧
        md'.lookup k = some (getKey md (headerName f)) := by
  have hentry : md.lookup (headerName f) = some (getKey md (headerName f)) := by
    unfold found at hf
    unfold getKey at hf ⊢
    cases hl : md.lookup (headerName f) with
    | none => simp [hl] at hf
    | some v => rfl
  exact ⟨hentry, (h _ _).mp ⟨_, rfl, hentry⟩⟩

/-- INTERNAL: a header that both records have in title case has one value. -/
theorem SameUpToCase.headerValue_eq {md md' : FileMetadata} (h : SameUpToCase md md')
    (hone' : OneSpelling md') {f : HeaderField} (hf : found md f = found md' f) :
    headerValue md f = headerValue md' f := by
  unfold headerValue
  rw [← hf]
  split_ifs with hfound
  · obtain ⟨-, k, hk, hlookup⟩ := h.entry_of_found hfound
    have hfound' : found md' f = true := hf ▸ hfound
    obtain ⟨hentry', -⟩ := h.symm.entry_of_found hfound'
    have hmem : ∀ {k v}, md'.lookup k = some v → k ∈ md'.keys := by
      intro k v hkv
      exact (md'.lookup_isSome k).mp (by rw [hkv]; rfl)
    have heq : k = headerName f := hone' k (hmem hlookup) _ (hmem hentry') hk
    rw [heq, hentry'] at hlookup
    exact (Option.some.inj hlookup).symm
  · rfl

/-- INTERNAL: what is left under a name is what was there, unless the name is taken out. -/
theorem left_iff {md left : FileMetadata}
    (hleft : ∀ k, left.lookup k = if removed md (toLowerCase k) then none else md.lookup k)
    (name : String) (v : Value) :
    (∃ k, toLowerCase k = name ∧ left.lookup k = some v) ↔
      removed md name = false ∧ ∃ k, toLowerCase k = name ∧ md.lookup k = some v := by
  constructor
  · rintro ⟨k, rfl, hk⟩
    rw [hleft] at hk
    split_ifs at hk with hremoved
    exact ⟨by simpa using hremoved, k, rfl, hk⟩
  · rintro ⟨hremoved, k, rfl, hk⟩
    refine ⟨k, rfl, ?_⟩
    rw [hleft, hremoved]
    exact hk

/-- INTERNAL: the same metadata is left only when every header found in one record is found in
the other. -/
theorem found_of_same_left {md md' left left' : FileMetadata} (h : SameUpToCase md md')
    (hleft : ∀ k, left.lookup k = if removed md (toLowerCase k) then none else md.lookup k)
    (hleft' : ∀ k, left'.lookup k = if removed md' (toLowerCase k) then none else md'.lookup k)
    (hsame : SameUpToCase left left') {f : HeaderField} (hf : found md f = true) :
    found md' f = true := by
  by_contra hnot
  rw [Bool.not_eq_true] at hnot
  obtain ⟨-, k, hk, hlookup⟩ := h.entry_of_found hf
  -- the other record keeps the header under its own spelling, this one does not
  have hkept : ∃ k, toLowerCase k = toLowerCase (headerName f) ∧
      left'.lookup k = some (getKey md (headerName f)) := by
    apply (left_iff hleft' _ _).mpr
    exact ⟨(removed_headerName md' f).trans hnot, k, hk, hlookup⟩
  have hkept' := (hsame _ _).mpr hkept
  have hremoved := ((left_iff hleft _ _).mp hkept').1
  rw [removed_headerName, hf] at hremoved
  exact absurd hremoved (by decide)

/-- **Headers in other letter case.** For two metadata records that have the same names with
the same values but for the case of the names, each name in one spelling: `getObjectInfo` gives
the same header fields for both and leaves the same metadata up to case exactly when each of the
four headers is found under its title-case name in both or in neither.
SOURCE: s3-storage-connection.ts:45-78, 128-132 -/
theorem info_same_iff {md md' : FileMetadata} (hone : OneSpelling md) (hone' : OneSpelling md')
    (h : SameUpToCase md md') {inf inf' : ObjectInfo} (hinf : InfoOf md inf)
    (hinf' : InfoOf md' inf') :
    SameInfo inf inf' ↔ ∀ f, found md f = found md' f := by
  obtain ⟨left, hmd, hleft⟩ := hinf.metadata hone
  obtain ⟨left', hmd', hleft'⟩ := hinf'.metadata hone'
  constructor
  · rintro ⟨-, m, m', hm, hm', hsame⟩
    rw [hmd] at hm
    rw [hmd'] at hm'
    cases hm
    cases hm'
    intro f
    apply Bool.eq_iff_iff.mpr
    constructor
    · exact found_of_same_left h hleft hleft' hsame
    · exact found_of_same_left h.symm hleft' hleft hsame.symm
  · intro hfound
    have hvalue : ∀ f, headerValue md f = headerValue md' f :=
      fun f => h.headerValue_eq hone' (hfound f)
    have hremoved : removed md = removed md' := by
      funext name
      unfold removed
      simp only [hfound]
    obtain ⟨htype, hlanguage, hencoding, hname⟩ := hinf.fields
    obtain ⟨htype', hlanguage', hencoding', hname'⟩ := hinf'.fields
    constructor
    · intro f
      cases f with
      | originalName => exact hname.trans ((hvalue _).trans hname'.symm)
      | contentType => exact htype.trans htype'.symm
      | contentLanguage =>
        show inf.contentLanguage = inf'.contentLanguage
        rw [hlanguage, hlanguage', hfound, hvalue, hvalue]
      | contentEncoding => exact hencoding.trans ((hvalue _).trans hencoding'.symm)
    · refine ⟨left, left', hmd, hmd', fun name v => ?_⟩
      rw [left_iff hleft, left_iff hleft', hremoved, h name v]

/-! ## Two spellings of an object -/

/-- Records that have the same entries in order, but for the letter case of the names. -/
theorem sameUpToCase_of_entries {md md' : FileMetadata}
    (h : md.entries.map (fun e => (toLowerCase e.1, e.2)) =
      md'.entries.map fun e => (toLowerCase e.1, e.2)) : SameUpToCase md md' := by
  have hentry : ∀ (m : FileMetadata) name v,
      (∃ k, toLowerCase k = name ∧ m.lookup k = some v) ↔
        (name, v) ∈ m.entries.map fun e => (toLowerCase e.1, e.2) := by
    intro m name v
    rw [List.mem_map]
    constructor
    · rintro ⟨k, rfl, hk⟩
      exact ⟨(k, v), (m.lookup_eq_some_iff k v).mp hk, rfl⟩
    · rintro ⟨⟨k, v'⟩, hmem, heq⟩
      obtain ⟨rfl, rfl⟩ := Prod.mk.inj heq
      exact ⟨k, rfl, (m.lookup_eq_some_iff k v').mpr hmem⟩
  intro name v
  rw [hentry, hentry, h]

/-- Any metadata is that of some object. -/
theorem infoOf_exists (md : FileMetadata) : ∃ inf, InfoOf md inf :=
  ⟨_, fun _ _ => .ok ⟨1, "e", 0, some md⟩, "b", "a", _, rfl, rfl, rfl⟩

/-- A header in title case beside user metadata in two spellings: the language is read from
both. -/
theorem info_same_of_owner :
    let md : FileMetadata :=
      ⟨[("Content-Language", .str "de"), ("Owner", .str "x")], by decide⟩
    let md' : FileMetadata :=
      ⟨[("Content-Language", .str "de"), ("owner", .str "x")], by decide⟩
    ∃ inf inf', InfoOf md inf ∧ InfoOf md' inf' ∧ inf.contentLanguage = .str "de" ∧
      SameInfo inf inf' := by
  intro md md'
  obtain ⟨inf, hinf⟩ := infoOf_exists md
  obtain ⟨inf', hinf'⟩ := infoOf_exists md'
  have hone : OneSpelling md := by
    unfold OneSpelling
    decide
  have hone' : OneSpelling md' := by
    unfold OneSpelling
    decide
  have hsame : SameUpToCase md md' := sameUpToCase_of_entries (by decide)
  have hfound : ∀ f, found md f = found md' f := by
    intro f
    cases f <;> decide
  refine ⟨inf, inf', hinf, hinf', ?_, (info_same_iff hone hone' hsame hinf hinf').mpr hfound⟩
  rw [hinf.fields.2.1]
  decide

/-- The language of an object is read from a title-case header, and not from the lower-case
one. -/
theorem lower_case_language_lost :
    ∃ md md' inf inf', OneSpelling md ∧ OneSpelling md' ∧ SameUpToCase md md' ∧ InfoOf md inf ∧
      InfoOf md' inf' ∧ inf.contentLanguage = .str "de" ∧ inf'.contentLanguage = .undefined ∧
      ¬ SameInfo inf inf' := by
  refine ⟨⟨[("Content-Language", .str "de")], by decide⟩, ⟨[("content-language", .str "de")],
    by decide⟩, _, _, ?_, ?_, sameUpToCase_of_entries (by decide),
    ⟨fun _ _ => .ok ⟨1, "e", 0, _⟩, "b", "a", _, rfl, rfl, rfl⟩,
    ⟨fun _ _ => .ok ⟨1, "e", 0, _⟩, "b", "a", _, rfl, rfl, rfl⟩, rfl, rfl, ?_⟩
  · unfold OneSpelling
    decide
  · unfold OneSpelling
    decide
  intro h
  exact absurd (h.fields .contentLanguage) (by decide)

end Xnestjs.Analysis
