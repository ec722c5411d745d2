import Xnestjs.Program.S3StorageConnection
import Xnestjs.Model.Heap

/-!
# The metadata objects of `putObject`

`updateMetadata` copies the metadata object of the caller and writes to the copy. Here the
objects have an identity: they are listed in the order of their creation, the options refer to
one of them by its place, and a write goes to the object at a place. What the writes make of the
copy is what `updateMetadata` makes of its value.
-/

set_option autoImplicit false

namespace Xnestjs.Program.S3StorageConnection

open Xnestjs.Model

/-- The options of a caller when there are `n` metadata objects. -/
structure PutObjectOptionsAt (n : ℕ) where
  originalName : Value
  contentType : Value
  contentLanguage : Value
  contentEncoding : Value
  metadata : Option (Fin n)

/-- A request with the place of its metadata object. -/
structure PutRequestAt where
  bucketName : String
  objectName : String
  source : Source
  metaData : Option ℕ
  deriving DecidableEq, Repr

/-- The metadata that a request sends, among the objects that there are. -/
def PutRequestAt.sent (r : PutRequestAt) (heap : List FileMetadata) : Option FileMetadata :=
  r.metaData.bind fun i => heap[i]?

/-- The options as a value. -/
def PutObjectOptionsAt.read (heap : List FileMetadata) (o : PutObjectOptionsAt heap.length) :
    PutObjectOptions :=
  ⟨o.originalName, o.contentType, o.contentLanguage, o.contentEncoding, o.metadata.map heap.get⟩

/-- SOURCE: s3-storage-connection.ts:128-132 -/
def removeKeyAt (i : ℕ) (key : String) (heap : List FileMetadata) : List FileMetadata :=
  heap.modify i fun obj => removeKey obj key

/-- `obj[header] = value` of the object at a place. -/
def setKeyAt (i : ℕ) (header : String) (value : Value) (heap : List FileMetadata) :
    List FileMetadata :=
  heap.modify i fun obj => obj.set header value

/-- One block of `updateMetadata` on the object at a place. -/
def writeHeaderAt (guard value : Value) (key header : String) (i : ℕ)
    (heap : List FileMetadata) : List FileMetadata :=
  if guard.truthy then setKeyAt i header value (removeKeyAt i key heap) else heap

/-- `updateMetadata(meta, options)`: the objects afterwards, and the place of the result.
SOURCE: s3-storage-connection.ts:106-126 -/
def updateMetadataAt (heap : List FileMetadata) (md : Option (Fin heap.length))
    (options : Option (PutObjectOptionsAt heap.length)) : List FileMetadata × Option ℕ :=
  match options with
  | none => (heap, md.map Fin.val)
  | some o =>
    let newMeta := heap.length
    let heap := heap ++ [(md.map heap.get).getD .empty]
    let heap := writeHeaderAt o.contentType o.contentType "content-type" "Content-Type"
      newMeta heap
    let heap := writeHeaderAt o.contentLanguage o.contentLanguage "content-language"
      "Content-Language" newMeta heap
    let heap := writeHeaderAt o.contentEncoding o.contentLanguage "content-encoding"
      "Content-Encoding" newMeta heap
    let heap := writeHeaderAt o.originalName o.originalName "content-name" "Content-Name"
      newMeta heap
    (heap, some newMeta)

/-- `putObject(bucketName, objectName, source, options)`.
SOURCE: s3-storage-connection.ts:26-43 -/
def putObjectAt (heap : List FileMetadata) (bucketName objectName : String) (source : Source)
    (options : Option (PutObjectOptionsAt heap.length)) : List FileMetadata × PutRequestAt :=
  let (heap, md) := match options with
    | some o => updateMetadataAt heap o.metadata (some o)
    | none => (heap ++ [.empty], some heap.length)
  (heap, ⟨bucketName, objectName, source, md⟩)

/-! ## The writes reach the copy only -/

/-- A block of the writer changes the object that it is given, and no other. -/
theorem writeHeaderAt_concat (guard value : Value) (key header : String)
    (heap : List FileMetadata) (md : FileMetadata) :
    writeHeaderAt guard value key header heap.length (heap ++ [md]) =
      heap ++ [writeHeader guard value key header md] := by
  unfold writeHeaderAt writeHeader setKeyAt removeKeyAt
  split_ifs
  · rw [modify_concat_last, modify_concat_last]
  · rfl

/-- **`putObject` works on a copy**: it adds one object, with the metadata that it makes as a
value, and sends that one. -/
theorem putObjectAt_eq (heap : List FileMetadata) (bucketName objectName : String)
    (source : Source) (o : PutObjectOptionsAt heap.length) :
    ∃ md, updateMetadata (o.read heap).metadata (some (o.read heap)) = some md ∧
      putObjectAt heap bucketName objectName source (some o) =
        (heap ++ [md], ⟨bucketName, objectName, source, some heap.length⟩) := by
  refine ⟨_, rfl, ?_⟩
  simp only [putObjectAt, updateMetadataAt, writeHeaderAt_concat]
  rfl

end Xnestjs.Program.S3StorageConnection
