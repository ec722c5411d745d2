import Xnestjs.Model.Record
import Mathlib.Data.Int.Notation
import Xnestjs.Model.Value

/-!
# Object metadata in `S3StorageConnection`

`putObject` writes four options of the caller into the metadata of the object as headers
(`updateMetadata`), and `getObjectInfo` reads them back from the metadata that the store
returns and takes them out of it. The object store is the parameter `statObject`; what
`putObject` does is the request that it makes.
-/

set_option autoImplicit false

namespace Xnestjs.Program.S3StorageConnection

open Xnestjs.Model

abbrev FileMetadata := Record Value

/-- `md[k]`, `undefined` when the key is not there. -/
def getKey (md : FileMetadata) (k : String) : Value := (md.lookup k).getD .undefined

structure PutObjectOptions where
  originalName : Value
  contentType : Value
  contentLanguage : Value
  contentEncoding : Value
  metadata : Option FileMetadata

structure ObjectInfo where
  originalName : Value
  contentType : Value
  contentLanguage : Value
  contentEncoding : Value
  size : ℕ
  etag : String
  lastModified : ℤ
  metadata : Option FileMetadata

/-- What `statObject` of the store returns. -/
structure BucketItemStat where
  size : ℕ
  etag : String
  lastModified : ℤ
  metaData : Option FileMetadata

/-- The object to put: the path of a file, or data known by its identity. -/
inductive Source where
  | path (file : String)
  | data (id : ℕ)
  deriving DecidableEq, Repr

/-- A request to put an object, `fPutObject` for a file and `putObject` for data. -/
structure PutRequest where
  bucketName : String
  objectName : String
  source : Source
  metaData : Option FileMetadata

/-- `removeKey(obj, key)`: delete the first key that is `key` but for letter case.
SOURCE: s3-storage-connection.ts:128-132 -/
def removeKey (obj : FileMetadata) (key : String) : FileMetadata :=
  match obj.keys.find? (fun x => toLowerCase x = toLowerCase key) with
  | some k => if k ≠ "" then obj.delete k else obj
  | none => obj

/-- One block of `updateMetadata`: when the option `guard` is set, remove the header and write
`value` under its name. -/
def writeHeader (guard value : Value) (key header : String) (md : FileMetadata) :
    FileMetadata :=
  if guard.truthy then (removeKey md key).set header value else md

/-- `updateMetadata(meta, options)`. The block of `contentEncoding` writes
`contentLanguage`. SOURCE: s3-storage-connection.ts:106-126 -/
def updateMetadata (md : Option FileMetadata) (options : Option PutObjectOptions) :
    Option FileMetadata :=
  match options with
  | none => md
  | some o =>
    let newMeta := md.getD .empty
    let newMeta := writeHeader o.contentType o.contentType "content-type" "Content-Type" newMeta
    let newMeta := writeHeader o.contentLanguage o.contentLanguage "content-language"
      "Content-Language" newMeta
    let newMeta := writeHeader o.contentEncoding o.contentLanguage "content-encoding"
      "Content-Encoding" newMeta
    let newMeta := writeHeader o.originalName o.originalName "content-name" "Content-Name" newMeta
    some newMeta

/-- `putObject(bucketName, objectName, source, options)`.
SOURCE: s3-storage-connection.ts:26-43 -/
def putObject (bucketName objectName : String) (source : Source)
    (options : Option PutObjectOptions) : PutRequest :=
  let md := match options with
    | some o => updateMetadata o.metadata (some o)
    | none => some .empty
  ⟨bucketName, objectName, source, md⟩

inductive HeaderField where
  | originalName
  | contentType
  | contentLanguage
  | contentEncoding
  deriving DecidableEq, Repr

def ObjectInfo.field (inf : ObjectInfo) : HeaderField → Value
  | .originalName => inf.originalName
  | .contentType => inf.contentType
  | .contentLanguage => inf.contentLanguage
  | .contentEncoding => inf.contentEncoding

def ObjectInfo.assign (inf : ObjectInfo) (v : Value) : HeaderField → ObjectInfo
  | .originalName => { inf with originalName := v }
  | .contentType => { inf with contentType := v }
  | .contentLanguage => { inf with contentLanguage := v }
  | .contentEncoding => { inf with contentEncoding := v }

/-- One block of `getObjectInfo`: a header that is there goes to a field of the info and is
removed. -/
def readHeader (header key : String) (f : HeaderField) (s : ObjectInfo × FileMetadata) :
    ObjectInfo × FileMetadata :=
  if (getKey s.2 header).truthy then (s.1.assign (getKey s.2 header) f, removeKey s.2 key)
  else s

/-- The four blocks of `getObjectInfo`. The block of `Content-Type` assigns
`contentLanguage`. SOURCE: s3-storage-connection.ts:60-75 -/
def readHeaders (s : ObjectInfo × FileMetadata) : ObjectInfo × FileMetadata :=
  let s := readHeader "Content-Type" "content-type" .contentLanguage s
  let s := readHeader "Content-Language" "content-language" .contentLanguage s
  let s := readHeader "Content-Encoding" "content-encoding" .contentEncoding s
  readHeader "Content-Name" "content-name" .originalName s

/-- `getObjectInfo(bucketName, objectName)`. SOURCE: s3-storage-connection.ts:45-78 -/
def getObjectInfo (statObject : String → String → Except String BucketItemStat)
    (bucketName objectName : String) : Except String ObjectInfo :=
  match statObject bucketName objectName with
  | .error e => .error e
  | .ok o =>
    let inf : ObjectInfo := ⟨.undefined, .undefined, .undefined, .undefined, o.size, o.etag,
      o.lastModified, o.metaData⟩
    match inf.metadata with
    | none => .ok inf
    | some md =>
      let md := removeKey md "content-length"
      let md := removeKey md "last-modified"
      let s := readHeaders (inf, md)
      .ok { s.1 with metadata := some s.2 }

/-! ## What the blocks leave alone -/

/-- The names of the headers in lower case. Two of them are then told apart as they stand. -/
theorem toLowerCase_headers :
    toLowerCase "Content-Type" = "content-type" ∧
      toLowerCase "Content-Language" = "content-language" ∧
      toLowerCase "Content-Encoding" = "content-encoding" ∧
      toLowerCase "Content-Name" = "content-name" ∧
      toLowerCase "content-type" = "content-type" ∧
      toLowerCase "content-language" = "content-language" ∧
      toLowerCase "content-encoding" = "content-encoding" ∧
      toLowerCase "content-name" = "content-name" ∧
      toLowerCase "content-length" = "content-length" ∧
      toLowerCase "last-modified" = "last-modified" := by
  decide +kernel

/-- A removal touches no other name. -/
theorem lookup_removeKey (md : FileMetadata) {k key : String}
    (hk : toLowerCase k ≠ toLowerCase key) : (removeKey md key).lookup k = md.lookup k := by
  unfold removeKey
  cases hfind : md.keys.find? (fun x => toLowerCase x = toLowerCase key) with
  | none => rfl
  | some x =>
    have hx : toLowerCase x = toLowerCase key := by simpa using List.find?_some hfind
    have hne : k ≠ x := fun h => hk (h ▸ hx)
    simp only
    split_ifs
    · exact md.lookup_delete_other hne
    · rfl

/-- A block of the writer touches no other name. -/
theorem lookup_writeHeader_other (guard value : Value) {k key header : String}
    (md : FileMetadata) (hkey : toLowerCase k ≠ toLowerCase key) (hk : k ≠ header) :
    (writeHeader guard value key header md).lookup k = md.lookup k := by
  unfold writeHeader
  split_ifs
  · rw [Record.lookup_set_other _ _ hk, lookup_removeKey md hkey]
  · rfl

/-- Nor does a block of the reader. -/
theorem lookup_readHeader (f : HeaderField) {k header key : String}
    (s : ObjectInfo × FileMetadata) (hk : toLowerCase k ≠ toLowerCase key) :
    (readHeader header key f s).2.lookup k = s.2.lookup k := by
  unfold readHeader
  split_ifs
  · exact lookup_removeKey s.2 hk
  · rfl

/-- A removal changes the value of no other name. -/
theorem getKey_removeKey (md : FileMetadata) {k key : String}
    (hk : toLowerCase k ≠ toLowerCase key) : getKey (removeKey md key) k = getKey md k := by
  unfold getKey
  rw [lookup_removeKey md hk]

/-- Nor does a block of the writer. -/
theorem getKey_writeHeader_other (guard value : Value) {k key header : String}
    (md : FileMetadata) (hkey : toLowerCase k ≠ toLowerCase key) (hk : k ≠ header) :
    getKey (writeHeader guard value key header md) k = getKey md k := by
  unfold getKey
  rw [lookup_writeHeader_other guard value md hkey hk]

/-- A header is written when the option is truthy. -/
theorem getKey_writeHeader_self (guard value : Value) (key header : String)
    (md : FileMetadata) :
    getKey (writeHeader guard value key header md) header =
      if guard.truthy then value else getKey md header := by
  unfold writeHeader
  split_ifs
  · simp [getKey]
  · rfl

/-- A block of the reader changes the value of no other name. -/
theorem getKey_readHeader (f : HeaderField) {k header key : String}
    (s : ObjectInfo × FileMetadata) (hk : toLowerCase k ≠ toLowerCase key) :
    getKey (readHeader header key f s).2 k = getKey s.2 k := by
  unfold getKey
  rw [lookup_readHeader f s hk]

/-- A field is read from its header when that is truthy. -/
theorem readHeader_self (header key : String) (f : HeaderField)
    (s : ObjectInfo × FileMetadata) :
    (readHeader header key f s).1.field f =
      if (getKey s.2 header).truthy then getKey s.2 header else s.1.field f := by
  unfold readHeader
  split_ifs
  · cases f <;> rfl
  · rfl

/-- No other field is touched. -/
theorem readHeader_other (header key : String) {f g : HeaderField}
    (s : ObjectInfo × FileMetadata) (hg : g ≠ f) :
    (readHeader header key f s).1.field g = s.1.field g := by
  unfold readHeader
  split_ifs
  · cases f <;> cases g <;> first | rfl | exact absurd rfl hg
  · rfl

end Xnestjs.Program.S3StorageConnection
