import Xnestjs.Analysis.ObjectHeaders
import Xnestjs.Program.MetadataObjects

/-!
# What happens to user metadata

Up to ten keys are deleted on the way of an object into the store and back, each found by a
scan that ignores letter case. All of them are spellings of the six headers, so a key of the
user goes both ways with its value, none appears, and the object of the caller stays as it is,
since the writer works on a copy.
-/

set_option autoImplicit false

namespace Xnestjs.Analysis

open Xnestjs.Model Xnestjs.Program.S3StorageConnection

/-- The keys that spell no header have in `md'` what they have in `md`: the same values, and
no key more or less. -/
def SameUserKeys (md md' : FileMetadata) : Prop :=
  ∀ k, toLowerCase k ∉ headerNames → md'.lookup k = md.lookup k

/-- INTERNAL: a key of the user is spelled like no header. -/
theorem user_key_ne {k key : String} (hk : toLowerCase k ∉ headerNames)
    (hkey : toLowerCase key ∈ headerNames) : toLowerCase k ≠ toLowerCase key :=
  fun h => hk (h ▸ hkey)

/-- INTERNAL: metadata has its own keys. -/
theorem SameUserKeys.refl (md : FileMetadata) : SameUserKeys md md := fun _ _ => rfl

/-- INTERNAL: a removed header is no key of the user. SOURCE: s3-storage-connection.ts:128-132 -/
theorem SameUserKeys.removeKey {md md' : FileMetadata} (h : SameUserKeys md md') {key : String}
    (hkey : toLowerCase key ∈ headerNames) : SameUserKeys md (removeKey md' key) := by
  intro k hk
  rw [lookup_removeKey md' (user_key_ne hk hkey)]
  exact h k hk

/-- INTERNAL: one block of the writer. SOURCE: s3-storage-connection.ts:109-112 -/
theorem SameUserKeys.writeHeader {md md' : FileMetadata} (h : SameUserKeys md md')
    {guard value : Value} {key header : String} (hkey : toLowerCase key ∈ headerNames)
    (hheader : toLowerCase header ∈ headerNames) :
    SameUserKeys md (writeHeader guard value key header md') := by
  intro k hk
  have hne : k ≠ header := fun h => user_key_ne hk hheader (congrArg toLowerCase h)
  rw [lookup_writeHeader_other guard value md' (user_key_ne hk hkey) hne]
  exact h k hk

/-- INTERNAL: one block of the reader. SOURCE: s3-storage-connection.ts:60-63 -/
theorem SameUserKeys.readHeader {md : FileMetadata} {s : ObjectInfo × FileMetadata}
    (h : SameUserKeys md s.2) {f : HeaderField} {header key : String}
    (hkey : toLowerCase key ∈ headerNames) : SameUserKeys md (readHeader header key f s).2 := by
  intro k hk
  rw [lookup_readHeader f s (user_key_ne hk hkey)]
  exact h k hk

/-- INTERNAL: **the writer** keeps the keys of the user.
SOURCE: s3-storage-connection.ts:106-126 -/
theorem updateMetadata_sameUserKeys {md : Option FileMetadata} {o : PutObjectOptions}
    {md' : FileMetadata} (h : updateMetadata md (some o) = some md') :
    SameUserKeys (md.getD .empty) md' := by
  obtain rfl := Option.some.inj h
  apply SameUserKeys.writeHeader
  · apply SameUserKeys.writeHeader
    · apply SameUserKeys.writeHeader
      · apply SameUserKeys.writeHeader (SameUserKeys.refl _)
        · decide
        · decide
      · decide
      · decide
    · decide
    · decide
  · decide
  · decide

/-- INTERNAL: the reader leaves the keys of the user alone.
SOURCE: s3-storage-connection.ts:60-75 -/
theorem SameUserKeys.readHeaders {md : FileMetadata} {s : ObjectInfo × FileMetadata}
    (h : SameUserKeys md s.2) : SameUserKeys md (readHeaders s).2 := by
  apply SameUserKeys.readHeader
  · apply SameUserKeys.readHeader
    · apply SameUserKeys.readHeader
      · apply h.readHeader
        decide
      · decide
    · decide
  · decide

/-- INTERNAL: **the reader** keeps the keys of the user. SOURCE: s3-storage-connection.ts:45-78 -/
theorem getObjectInfo_sameUserKeys {statObject : String → String → Except String BucketItemStat}
    {bucketName objectName : String} {stat : BucketItemStat} {md md' : FileMetadata}
    (hstat : statObject bucketName objectName = .ok stat) (hmd : stat.metaData = some md')
    (h : SameUserKeys md md') :
    ∃ inf read, getObjectInfo statObject bucketName objectName = .ok inf ∧
      inf.metadata = some read ∧ SameUserKeys md read := by
  have hlength : SameUserKeys md (removeKey md' "content-length") := h.removeKey (by decide)
  have hmodified : SameUserKeys md
      (removeKey (removeKey md' "content-length") "last-modified") := hlength.removeKey (by decide)
  simp only [getObjectInfo, hstat, hmd]
  exact ⟨_, _, rfl, rfl, SameUserKeys.readHeaders hmodified⟩

/-- **User metadata is kept.** `putObject` changes no metadata object that there is, the one of
the caller among them, and sends an object of its own. A key that spells no header is in the
metadata that is sent exactly as it is in the metadata of the caller, and when the store gives
the sent metadata back, it is so in the info of the object as well.
SOURCE: s3-storage-connection.ts:26-78, 106-132 -/
theorem user_metadata_kept (heap : List FileMetadata) (bucketName objectName : String)
    (source : Source) (o : PutObjectOptionsAt heap.length)
    {statObject : String → String → Except String BucketItemStat} {stat : BucketItemStat}
    (hstat : statObject bucketName objectName = .ok stat)
    (hstore : stat.metaData = (putObjectAt heap bucketName objectName source (some o)).2.sent
      (putObjectAt heap bucketName objectName source (some o)).1) :
    (∀ i < heap.length,
      (putObjectAt heap bucketName objectName source (some o)).1[i]? = heap[i]?) ∧
    (∀ i, o.metadata = some i →
      (putObjectAt heap bucketName objectName source (some o)).2.metaData ≠ some i.val) ∧
    ∃ md inf md',
      (putObjectAt heap bucketName objectName source (some o)).2.sent
        (putObjectAt heap bucketName objectName source (some o)).1 = some md ∧
      getObjectInfo statObject bucketName objectName = .ok inf ∧ inf.metadata = some md' ∧
      SameUserKeys ((o.metadata.map heap.get).getD .empty) md ∧
      SameUserKeys ((o.metadata.map heap.get).getD .empty) md' := by
  obtain ⟨md, hmd, hput⟩ := putObjectAt_eq heap bucketName objectName source o
  rw [hput] at hstore ⊢
  have hsent : (PutRequestAt.mk bucketName objectName source (some heap.length)).sent
      (heap ++ [md]) = some md := by simp [PutRequestAt.sent]
  have hwritten : SameUserKeys ((o.metadata.map heap.get).getD .empty) md :=
    updateMetadata_sameUserKeys hmd
  obtain ⟨inf, md', hinf, hmd', hread⟩ :=
    getObjectInfo_sameUserKeys hstat (hstore.trans hsent) hwritten
  refine ⟨?_, ?_, md, inf, md', hsent, hinf, hmd', hwritten, hread⟩
  · intro i hi
    exact List.getElem?_append_left hi
  · intro i _ heq
    have hlt : i.val < heap.length := i.isLt
    have hplace : heap.length = i.val := Option.some.inj heq
    omega

/-- A file with two keys of its own, one of which begins like a header. -/
theorem user_metadata_kept_owner :
    let heap : List FileMetadata :=
      [⟨[("owner", .str "x"), ("CONTENT-type", .str "a/b"), ("content-types", .num 1)],
        by decide⟩]
    let o : PutObjectOptionsAt heap.length :=
      ⟨.str "a.txt", .str "text/plain", .undefined, .undefined, some 0⟩
    let put := putObjectAt heap "b" "a" (.data 0) (some o)
    let stat : BucketItemStat := ⟨1, "e", 0, put.2.sent put.1⟩
    (∀ i < heap.length, put.1[i]? = heap[i]?) ∧
      (∀ i, o.metadata = some i → put.2.metaData ≠ some i.val) ∧
      ∃ md inf md', put.2.sent put.1 = some md ∧
        getObjectInfo (fun _ _ => .ok stat) "b" "a" = .ok inf ∧ inf.metadata = some md' ∧
        SameUserKeys ((o.metadata.map heap.get).getD .empty) md ∧
        SameUserKeys ((o.metadata.map heap.get).getD .empty) md' := by
  intro heap o put stat
  have hstat : (fun _ _ => .ok stat : String → String → Except String BucketItemStat) "b" "a" =
      .ok stat := rfl
  exact user_metadata_kept heap "b" "a" (.data 0) o hstat rfl

end Xnestjs.Analysis
