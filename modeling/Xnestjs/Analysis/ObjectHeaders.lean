import Xnestjs.Program.S3StorageConnection

/-!
# Headers of an object, written and read back

`putObject` and `getObjectInfo` are two tables of the same four headers. They differ in two
places: the writer puts `contentLanguage` under `Content-Encoding`, and the reader gives
`Content-Type` out as `contentLanguage`.
-/

set_option autoImplicit false

namespace Xnestjs.Analysis

open Xnestjs.Model Xnestjs.Program.S3StorageConnection

/-- A header option as callers give it: absent, or a text that is not empty. -/
def HeaderOption (v : Value) : Prop := v = .undefined ∨ ∃ s, s ≠ "" ∧ v = .str s

def headerNames : List String :=
  ["content-type", "content-language", "content-encoding", "content-length", "last-modified",
    "content-name"]

/-- Options whose headers are absent or texts, with user metadata that has no key spelled, in
any letter case, like a header. -/
structure PlainOptions (o : PutObjectOptions) : Prop where
  contentType : HeaderOption o.contentType
  contentLanguage : HeaderOption o.contentLanguage
  contentEncoding : HeaderOption o.contentEncoding
  originalName : HeaderOption o.originalName
  metadata : ∀ md, o.metadata = some md → ∀ k ∈ md.keys, toLowerCase k ∉ headerNames

/-- INTERNAL: a header option passes a guard as itself. -/
theorem HeaderOption.guarded {v : Value} (h : HeaderOption v) :
    (if v.truthy then v else .undefined) = v := by
  rcases h with rfl | ⟨s, hs, rfl⟩
  · rfl
  · simp [Value.truthy, hs]

/-- INTERNAL: a header option passes for true exactly when it is given. -/
theorem HeaderOption.truthy_iff {v : Value} (h : HeaderOption v) :
    v.truthy = true ↔ v ≠ .undefined := by
  rcases h with rfl | ⟨s, hs, rfl⟩
  · simp [Value.truthy]
  · simp [Value.truthy, hs]

/-- INTERNAL: user metadata says nothing about the headers. -/
theorem PlainOptions.getKey_metadata {o : PutObjectOptions} (h : PlainOptions o) {k : String}
    (hk : toLowerCase k ∈ headerNames) : getKey (o.metadata.getD .empty) k = .undefined := by
  cases hm : o.metadata with
  | none => rfl
  | some md =>
    have hnot : k ∉ md.keys := fun hmem => h.metadata md hm k hmem hk
    simp [getKey, md.lookup_of_not_mem hnot]

/-- INTERNAL: **the writer.** Each header is written when its option is given, the encoding
with the language as its value. SOURCE: s3-storage-connection.ts:106-126 -/
theorem written_headers (o : PutObjectOptions) :
    ∃ md, updateMetadata o.metadata (some o) = some md ∧
      getKey md "Content-Type" = (if o.contentType.truthy then o.contentType
        else getKey (o.metadata.getD .empty) "Content-Type") ∧
      getKey md "Content-Language" = (if o.contentLanguage.truthy then o.contentLanguage
        else getKey (o.metadata.getD .empty) "Content-Language") ∧
      getKey md "Content-Encoding" = (if o.contentEncoding.truthy then o.contentLanguage
        else getKey (o.metadata.getD .empty) "Content-Encoding") ∧
      getKey md "Content-Name" = (if o.originalName.truthy then o.originalName
        else getKey (o.metadata.getD .empty) "Content-Name") := by
  refine ⟨_, rfl, ?_, ?_, ?_, ?_⟩ <;>
    simp (disch := simp [toLowerCase_headers]) only [getKey_writeHeader_other,
      getKey_writeHeader_self]

/-- INTERNAL: **the reader.** No header becomes `contentType`, and `Content-Type` becomes
the language when there is no `Content-Language`. SOURCE: s3-storage-connection.ts:60-75 -/
theorem read_headers (inf : ObjectInfo) (md : FileMetadata) :
    (readHeaders (inf, md)).1.field .contentType = inf.contentType ∧
      (readHeaders (inf, md)).1.field .contentLanguage =
        (if (getKey md "Content-Language").truthy then getKey md "Content-Language"
        else if (getKey md "Content-Type").truthy then getKey md "Content-Type"
        else inf.contentLanguage) ∧
      (readHeaders (inf, md)).1.field .contentEncoding =
        (if (getKey md "Content-Encoding").truthy then getKey md "Content-Encoding"
        else inf.contentEncoding) ∧
      (readHeaders (inf, md)).1.field .originalName =
        (if (getKey md "Content-Name").truthy then getKey md "Content-Name"
        else inf.originalName) := by
  simp only [readHeaders]
  refine ⟨?_, ?_, ?_, ?_⟩
  · rw [readHeader_other _ _ _ (by decide), readHeader_other _ _ _ (by decide),
      readHeader_other _ _ _ (by decide), readHeader_other _ _ _ (by decide)]
    rfl
  · rw [readHeader_other _ _ _ (by decide), readHeader_other _ _ _ (by decide),
      readHeader_self, readHeader_self, getKey_readHeader _ _ (by decide)]
    rfl
  · rw [readHeader_other _ _ _ (by decide), readHeader_self,
      readHeader_other _ _ _ (by decide), readHeader_other _ _ _ (by decide),
      getKey_readHeader _ _ (by decide), getKey_readHeader _ _ (by decide)]
    rfl
  · rw [readHeader_self, readHeader_other _ _ _ (by decide),
      readHeader_other _ _ _ (by decide), readHeader_other _ _ _ (by decide),
      getKey_readHeader _ _ (by decide), getKey_readHeader _ _ (by decide),
      getKey_readHeader _ _ (by decide)]
    rfl

/-- INTERNAL: the info of an object whose metadata is `md`: the headers are read after the
two removals, which leave them alone. SOURCE: s3-storage-connection.ts:45-78 -/
theorem info_of_stat {statObject : String → String → Except String BucketItemStat}
    {bucketName objectName : String} {stat : BucketItemStat} {md : FileMetadata}
    (hstat : statObject bucketName objectName = .ok stat) (hmd : stat.metaData = some md) :
    ∃ inf, getObjectInfo statObject bucketName objectName = .ok inf ∧
      inf.contentType = .undefined ∧
      inf.contentLanguage = (if (getKey md "Content-Language").truthy
        then getKey md "Content-Language"
        else if (getKey md "Content-Type").truthy then getKey md "Content-Type"
        else .undefined) ∧
      inf.contentEncoding = (if (getKey md "Content-Encoding").truthy
        then getKey md "Content-Encoding" else .undefined) ∧
      inf.originalName = (if (getKey md "Content-Name").truthy
        then getKey md "Content-Name" else .undefined) := by
  have hread := read_headers ⟨.undefined, .undefined, .undefined, .undefined, stat.size,
    stat.etag, stat.lastModified, some md⟩
    (removeKey (removeKey md "content-length") "last-modified")
  simp (disch := simp [toLowerCase_headers]) only [getKey_removeKey] at hread
  simp only [getObjectInfo, hstat, hmd]
  exact ⟨_, rfl, hread⟩

/-- **Headers written and read back.** For options with plain headers and user metadata, and
a store that returns the metadata it was given: all four headers come back as they were set
exactly when `contentType` was not set and `contentEncoding` was not set or equals
`contentLanguage`. SOURCE: s3-storage-connection.ts:26-78, 106-132 -/
theorem headers_round_trip_iff (bucketName objectName : String) (source : Source)
    {o : PutObjectOptions} (ho : PlainOptions o)
    {statObject : String → String → Except String BucketItemStat} {stat : BucketItemStat}
    (hstat : statObject bucketName objectName = .ok stat)
    (hstore : stat.metaData = (putObject bucketName objectName source (some o)).metaData) :
    ∃ inf, getObjectInfo statObject bucketName objectName = .ok inf ∧
      ((inf.contentType = o.contentType ∧ inf.contentLanguage = o.contentLanguage ∧
          inf.contentEncoding = o.contentEncoding ∧ inf.originalName = o.originalName) ↔
        o.contentType = .undefined ∧
          (o.contentEncoding = .undefined ∨ o.contentEncoding = o.contentLanguage)) := by
  obtain ⟨md, hmd, htype, hlanguage, hencoding, hname⟩ := written_headers o
  have hstored : stat.metaData = some md := hstore.trans hmd
  obtain ⟨inf, hinf, itype, ilanguage, iencoding, iname⟩ := info_of_stat hstat hstored
  rw [ho.getKey_metadata (by decide), ho.contentType.guarded] at htype
  rw [ho.getKey_metadata (by decide), ho.contentLanguage.guarded] at hlanguage
  rw [ho.getKey_metadata (by decide)] at hencoding
  rw [ho.getKey_metadata (by decide), ho.originalName.guarded] at hname
  rw [hname, ho.originalName.guarded] at iname
  have hread : inf.contentEncoding =
      if o.contentEncoding = .undefined then .undefined else o.contentLanguage := by
    rw [iencoding, hencoding]
    by_cases hset : o.contentEncoding = .undefined
    · simp [hset, Value.truthy]
    · simp only [ho.contentEncoding.truthy_iff.mpr hset, hset, if_true, if_false]
      exact ho.contentLanguage.guarded
  refine ⟨inf, hinf, ?_⟩
  constructor
  · rintro ⟨hct, -, hce, -⟩
    refine ⟨hct.symm.trans itype, ?_⟩
    by_cases hset : o.contentEncoding = .undefined
    · exact Or.inl hset
    · rw [hread, if_neg hset] at hce
      exact Or.inr hce.symm
  · rintro ⟨hct, hce⟩
    refine ⟨itype.trans hct.symm, ?_, ?_, iname⟩
    · rw [ilanguage, hlanguage, htype, hct]
      exact ho.contentLanguage.guarded
    · rw [hread]
      by_cases hset : o.contentEncoding = .undefined
      · rw [if_pos hset, hset]
      · rw [if_neg hset]
        exact (hce.resolve_left hset).symm

def germanFile : PutObjectOptions :=
  ⟨.str "a.txt", .undefined, .str "de", .undefined, some ⟨[("owner", .str "x")], by decide⟩⟩

/-- The headers of this file come back. -/
theorem headers_round_trip_german :
    let stat : BucketItemStat :=
      ⟨1, "e", 0, (putObject "b" "a" (.data 0) (some germanFile)).metaData⟩
    ∃ inf, getObjectInfo (fun _ _ => .ok stat) "b" "a" = .ok inf ∧
      ((inf.contentType = germanFile.contentType ∧
          inf.contentLanguage = germanFile.contentLanguage ∧
          inf.contentEncoding = germanFile.contentEncoding ∧
          inf.originalName = germanFile.originalName) ↔
        germanFile.contentType = .undefined ∧ (germanFile.contentEncoding = .undefined ∨
          germanFile.contentEncoding = germanFile.contentLanguage)) := by
  have hplain : PlainOptions germanFile := by
    refine ⟨Or.inl rfl, Or.inr ⟨"de", by decide, rfl⟩, Or.inl rfl,
      Or.inr ⟨"a.txt", by decide, rfl⟩, ?_⟩
    rintro md ⟨⟩ k hk
    rw [List.mem_singleton.mp hk]
    decide
  intro stat
  have hstat : (fun _ _ => .ok stat : String → String → Except String BucketItemStat) "b" "a" =
      .ok stat := rfl
  have hstore : stat.metaData = (putObject "b" "a" (.data 0) (some germanFile)).metaData := rfl
  exact headers_round_trip_iff "b" "a" (.data 0) hplain hstat hstore

/-- The content type of a text comes back as its language, and the encoding of a compressed
text is lost. -/
theorem content_type_comes_back_as_language :
    let o : PutObjectOptions :=
      ⟨.undefined, .str "text/plain", .undefined, .str "gzip", none⟩
    let stat : BucketItemStat := ⟨1, "e", 0, (putObject "b" "a" (.data 0) (some o)).metaData⟩
    PlainOptions o ∧ ∃ inf, getObjectInfo (fun _ _ => .ok stat) "b" "a" = .ok inf ∧
      inf.contentType = .undefined ∧ inf.contentLanguage = .str "text/plain" ∧
      inf.contentEncoding = .undefined ∧ inf.contentType ≠ o.contentType := by
  refine ⟨⟨Or.inr ⟨"text/plain", by decide, rfl⟩, Or.inl rfl, Or.inr ⟨"gzip", by decide, rfl⟩,
    Or.inl rfl, fun md h => nomatch h⟩, ?_⟩
  refine ⟨_, rfl, rfl, rfl, rfl, ?_⟩
  decide

end Xnestjs.Analysis
