import Xnestjs.Analysis.BucketObjects

/-!
# Copies of an object

The info of an object has all the fields of the options of a `putObject`, so that an object is
copied by reading its info and putting the content with it. Whatever is copied from there, and
from the copies, with any calls in between: what the store carries of the metadata of the original
is found in the info of each copy. The headers come along under their names in lower case, since
they are metadata of the copy like any other; as headers they are read of none.
-/

set_option autoImplicit false

namespace Xnestjs.Analysis

open Xnestjs.Model Xnestjs.Program Xnestjs.Program.S3StorageConnection

/-- An info, taken as options. SOURCE: storage/types.ts:44-61 -/
def optionsOfInfo (inf : ObjectInfo) : PutObjectOptions :=
  ⟨inf.originalName, inf.contentType, inf.contentLanguage, inf.contentEncoding, inf.metadata⟩

section

variable {σ C : Type}

/-- An object in a state of the store that is a copy, made of the given info, or a copy of such a
copy, and so on: the info of the object before is read, any calls come in between, and what is put
with the info is the next one. Calls about other objects may come as long as an object has not been
read. -/
inductive CopyOf (client : MinioClient σ C) (inf : ObjectInfo) : σ → String × String → Prop where
  | first {t u : σ} {b : String × String} {source : Source}
      (hput : StorageBucket.putObject ⟨client, b.1⟩ t b.2 source (some (optionsOfInfo inf)) =
        (.ok (), u)) : CopyOf client inf u b
  | next {t u : σ} {a b : String × String} {inf' : ObjectInfo} {source : Source}
      (copy : CopyOf client inf t a)
      (hread : StorageBucket.getObjectInfo ⟨client, a.1⟩ t a.2 = .ok inf') (cs : List BucketCall)
      (hput : StorageBucket.putObject ⟨client, b.1⟩ (BucketCall.performAll client t cs).2 b.2
        source (some (optionsOfInfo inf')) = (.ok (), u)) : CopyOf client inf u b
  | other {t : σ} {a : String × String} (copy : CopyOf client inf t a) (c : BucketCall)
      (hc : c.object ≠ a) : CopyOf client inf (c.perform client t).2 a

/-- The metadata has what the store carries of `left`, and otherwise names of the store. -/
structure KeepsEntries (carries : String → Value → Prop) (own : String → Prop)
    (left md : FileMetadata) : Prop where
  names : ∀ k ∈ md.keys, toLowerCase k = k ∧ k ∉ takenOut
  entries : ∀ k v, left.lookup k = some v → carries k v → md.lookup k = some v
  source : ∀ k ∈ md.keys, own k ∨ k ∈ left.keys

/-- The object is there, and its metadata keeps that of the original. -/
def IsKept (objects : σ → String × String → Option (StoredObject C))
    (carries : String → Value → Prop) (own : String → Prop) (left : FileMetadata) (t : σ)
    (a : String × String) : Prop :=
  ∃ o sent, objects t a = some o ∧ o.metaData = some sent ∧ KeepsEntries carries own left sent

variable {client : MinioClient σ C} {read : Source → C}
  {objects : σ → String × String → Option (StoredObject C)}
  {carries : String → Value → Prop} {own : String → Prop} {left : FileMetadata}

/-- INTERNAL: what is read of metadata in lower case keeps it. -/
theorem KeepsEntries.of_read {sent : FileMetadata} (h : KeepsEntries carries own left sent)
    {inf : ObjectInfo} (hread : ReadFrom carries own sent inf) :
    ∃ left', inf.metadata = some left' ∧ KeepsEntries carries own left left' := by
  obtain ⟨-, left', hleft', htaken, hback⟩ := hread
  refine ⟨left', hleft', fun k hk => ⟨hback.lower k hk, htaken k hk⟩, fun k v hk hcarries => ?_,
    fun k hk => ?_⟩
  · have hsent := h.entries k v hk hcarries
    have hmem : k ∈ sent.keys := (sent.lookup_isSome k).mp (by rw [hsent]; rfl)
    obtain ⟨hlower, hname⟩ := h.names k hmem
    have hlookup := hback.carried k v hsent ⟨hcarries, by rwa [hlower]⟩ fun k' hk' hcase => by
      rw [← (h.names k' hk').1, hcase, hlower]
    rwa [hlower] at hlookup
  · rcases hback.source k hk with hown | ⟨k', hk', hlower⟩
    · exact Or.inl hown
    · rw [(h.names k' hk').1] at hlower
      subst hlower
      exact h.source k' hk'

/-- INTERNAL: an info without fields is put with its metadata as it is.
SOURCE: s3-storage-connection.ts:26-43, 106-126 -/
theorem put_of_info {inf : ObjectInfo} (hfield : ∀ f, inf.field f = .undefined)
    (hmd : inf.metadata = some left) (bucketName objectName : String) (source : Source) :
    (S3StorageConnection.putObject bucketName objectName source
      (some (optionsOfInfo inf))).metaData = some left := by
  have hname : inf.originalName = .undefined := hfield .originalName
  have htype : inf.contentType = .undefined := hfield .contentType
  have hlanguage : inf.contentLanguage = .undefined := hfield .contentLanguage
  have hencoding : inf.contentEncoding = .undefined := hfield .contentEncoding
  simp [S3StorageConnection.putObject, optionsOfInfo, updateMetadata, writeHeader, hname, htype,
    hlanguage, hencoding, hmd]

/-- INTERNAL: **one copy** in the store. SOURCE: storage-bucket.ts:15-34 -/
theorem isKept_of_put (h : ObjectStore client read objects carries own) {md : FileMetadata}
    (hkeeps : KeepsEntries carries own left md) {inf : ObjectInfo}
    (hfield : ∀ f, inf.field f = .undefined) (hmd : inf.metadata = some md) {t u : σ}
    {b : String × String} {source : Source}
    (hput : StorageBucket.putObject ⟨client, b.1⟩ t b.2 source (some (optionsOfInfo inf)) =
      (.ok (), u)) :
    IsKept objects carries own left u b := by
  have hmade := (h.put t (S3StorageConnection.putObject b.1 b.2 source
    (some (optionsOfInfo inf)))).made (by
      show Except.isOk (StorageBucket.putObject ⟨client, b.1⟩ t b.2 source
        (some (optionsOfInfo inf))).1 = true
      rw [hput]
      rfl)
  have hstate : (client.putObject t (S3StorageConnection.putObject b.1 b.2 source
      (some (optionsOfInfo inf)))).2 = u := congrArg Prod.snd hput
  rw [hstate] at hmade
  exact ⟨_, md, hmade, put_of_info hfield hmd b.1 b.2 source, hkeeps⟩

/-- INTERNAL: the info of an object that is kept. SOURCE: s3-storage-connection.ts:45-78 -/
theorem IsKept.of_read (h : ObjectStore client read objects carries own) {t : σ}
    {a : String × String} (hkept : IsKept objects carries own left t a) {inf : ObjectInfo}
    (hread : StorageBucket.getObjectInfo ⟨client, a.1⟩ t a.2 = .ok inf) :
    (∀ f, inf.field f = .undefined) ∧
      ∃ left', inf.metadata = some left' ∧ KeepsEntries carries own left left' := by
  obtain ⟨o, sent, ho, hsent, hkeeps⟩ := hkept
  obtain ⟨o', ho', hfrom⟩ := (h.readsAs t a.1 a.2).info inf hread
  cases ho.symm.trans ho'
  rw [hsent, Option.getD_some] at hfrom
  exact ⟨hfrom.field, hkeeps.of_read hfrom⟩

/-- INTERNAL: **any copy** keeps the metadata of the original. The induction is on the copies.
SOURCE: storage-bucket.ts:15-34, s3-storage-connection.ts:26-82 -/
theorem CopyOf.isKept (h : ObjectStore client read objects carries own) {inf : ObjectInfo}
    (hfield : ∀ f, inf.field f = .undefined) (hmd : inf.metadata = some left)
    (hleft : KeepsEntries carries own left left) {t : σ} {a : String × String}
    (hcopy : CopyOf client inf t a) : IsKept objects carries own left t a := by
  induction hcopy with
  | first hput => exact isKept_of_put h hleft hfield hmd hput
  | next copy hread cs hput ih =>
    obtain ⟨hfield', left', hmd', hkeeps⟩ := ih.of_read h hread
    exact isKept_of_put h hkeeps hfield' hmd' hput
  | @other t a copy c hc ih =>
    obtain ⟨o, sent, ho, hsent, hkeeps⟩ := ih
    exact ⟨o, sent, ((h.perform t c).kept hc).trans ho, hsent, hkeeps⟩

/-- **Copies of an object.** The info of an object is put as options, the info of what was put is
put again, and so on, with any other calls in between. However often: the info of a copy has no
field filled; it has every entry of the original's metadata that the store carries, under its name;
and it has no other names but those of the original and those of the store.
SOURCE: s3-storage-connection.ts:26-82, 106-132, storage-bucket.ts:15-34 -/
theorem copies_keep_entries (h : ObjectStore client read objects carries own) {s : σ}
    {b : String × String} {inf : ObjectInfo}
    (hinf : StorageBucket.getObjectInfo ⟨client, b.1⟩ s b.2 = .ok inf) {t : σ}
    {a : String × String} (hcopy : CopyOf client inf t a) {inf' : ObjectInfo}
    (hinf' : StorageBucket.getObjectInfo ⟨client, a.1⟩ t a.2 = .ok inf') :
    (∀ f, inf'.field f = .undefined) ∧
      ∃ left left', inf.metadata = some left ∧ inf'.metadata = some left' ∧
        (∀ k v, left.lookup k = some v → carries k v → left'.lookup k = some v) ∧
        ∀ k ∈ left'.keys, own k ∨ k ∈ left.keys := by
  obtain ⟨o, -, hfield, left, hmd, htaken, hback⟩ := (h.readsAs s b.1 b.2).info inf hinf
  have hleft : KeepsEntries carries own left left :=
    ⟨fun k hk => ⟨hback.lower k hk, htaken k hk⟩, fun k v hk _ => hk, fun k hk => Or.inr hk⟩
  obtain ⟨hfield', left', hmd', hkeeps⟩ := (hcopy.isKept h hfield hmd hleft).of_read h hinf'
  exact ⟨hfield', left, left', hmd, hmd', hkeeps.entries, hkeeps.source⟩

end

/-- A text of somebody, copied once: its owner and its type are read of the copy, the type among
the metadata. -/
theorem owned_file_copied :
    let s := (BucketCall.performAll memoryClient (fun _ => none)
      [.putObject "b" "a" (.data 0) (some ownedFile)]).2
    ∃ inf t inf', StorageBucket.getObjectInfo ⟨memoryClient, "b"⟩ s "a" = .ok inf ∧
      StorageBucket.putObject ⟨memoryClient, "b"⟩ s "c" (.data 0) (some (optionsOfInfo inf)) =
        (.ok (), t) ∧
      StorageBucket.getObjectInfo ⟨memoryClient, "b"⟩ t "c" = .ok inf' ∧
      inf'.contentType = .undefined ∧ ∃ left', inf'.metadata = some left' ∧
        left'.lookup "owner" = some (.str "x") ∧
        left'.lookup "content-type" = some (.str "text/plain") := by
  intro s
  obtain ⟨inf, left, hinf, hmd, howner, htype⟩ : ∃ inf left,
      StorageBucket.getObjectInfo ⟨memoryClient, "b"⟩ s "a" = .ok inf ∧
      inf.metadata = some left ∧ left.lookup "owner" = some (.str "x") ∧
      left.lookup "content-type" = some (.str "text/plain") := ⟨_, _, rfl, rfl, rfl, rfl⟩
  obtain ⟨t, hput⟩ : ∃ t, StorageBucket.putObject ⟨memoryClient, "b"⟩ s "c" (.data 0)
      (some (optionsOfInfo inf)) = (.ok (), t) := ⟨_, rfl⟩
  obtain ⟨inf', hinf'⟩ : ∃ inf',
      StorageBucket.getObjectInfo ⟨memoryClient, "b"⟩ t "c" = .ok inf' := by
    obtain rfl := congrArg Prod.snd hput
    exact ⟨_, rfl⟩
  have hcopy : CopyOf memoryClient inf t ("b", "c") := .first (b := ("b", "c")) hput
  obtain ⟨hfield, left₀, left', hmd₀, hmd', hentries, -⟩ :=
    copies_keep_entries memoryClient_objectStore (b := ("b", "a")) hinf hcopy hinf'
  cases hmd.symm.trans hmd₀
  exact ⟨inf, t, inf', hinf, hput, hinf', hfield .contentType, left', hmd',
    hentries _ _ howner ⟨_, rfl⟩, hentries _ _ htype ⟨_, rfl⟩⟩

end Xnestjs.Analysis
