import Xnestjs.Program.S3StorageConnection

/-!
# `StorageBucket` over `S3StorageConnection`

A bucket hands each call on to its connection, with its own name put first, and the connection
hands it on to the client of the object store. The client is a parameter: a state, and what each
of its calls returns and makes of the state. File transfer is the content that is transferred.
-/

set_option autoImplicit false

namespace Xnestjs.Program

open Xnestjs.Model

/-- The calls of `Minio.Client` over states `σ` and contents `C` of objects. -/
structure MinioClient (σ C : Type) where
  putObject : σ → S3StorageConnection.PutRequest → Except String Unit × σ
  statObject : σ → String → String → Except String S3StorageConnection.BucketItemStat
  removeObject : σ → String → String → Except String Unit × σ
  getObject : σ → String → String → Except String C
  presignedGetObject : σ → String → String → Value → Except String String

/-- `getBucket(bucketName)` of a connection. SOURCE: storage-connection.ts:14-16 -/
structure StorageBucket (σ C : Type) where
  connection : MinioClient σ C
  bucketName : String

section

variable {σ C : Type}

namespace S3StorageConnection

variable (client : MinioClient σ C) (s : σ) (bucketName objectName : String)

/-- SOURCE: s3-storage-connection.ts:80-82 -/
def removeObject : Except String Unit × σ := client.removeObject s bucketName objectName

/-- The content that is written to the file. SOURCE: s3-storage-connection.ts:84-90 -/
def getFile (filePath : String) : Except String (String × C) :=
  (client.getObject s bucketName objectName).map fun content => (filePath, content)

/-- SOURCE: s3-storage-connection.ts:92-94 -/
def getObject : Except String C := client.getObject s bucketName objectName

/-- `expires` is the option `options?.expires`. SOURCE: s3-storage-connection.ts:96-103 -/
def presignedGetObject (expires : Value) : Except String String :=
  client.presignedGetObject s bucketName objectName (expires.orElse (.num (5 * 60 * 60)))

end S3StorageConnection

namespace StorageBucket

variable (b : StorageBucket σ C) (s : σ) (objectName : String)

/-- SOURCE: storage-bucket.ts:15-26, s3-storage-connection.ts:26-43 -/
def putObject (source : S3StorageConnection.Source)
    (options : Option S3StorageConnection.PutObjectOptions) : Except String Unit × σ :=
  b.connection.putObject s (S3StorageConnection.putObject b.bucketName objectName source options)

/-- SOURCE: storage-bucket.ts:28-30 -/
def getObjectInfo : Except String S3StorageConnection.ObjectInfo :=
  S3StorageConnection.getObjectInfo (b.connection.statObject s) b.bucketName objectName

/-- SOURCE: storage-bucket.ts:32-34 -/
def removeObject : Except String Unit × σ :=
  S3StorageConnection.removeObject b.connection s b.bucketName objectName

/-- SOURCE: storage-bucket.ts:36-38 -/
def getFile (filePath : String) : Except String (String × C) :=
  S3StorageConnection.getFile b.connection s b.bucketName objectName filePath

/-- SOURCE: storage-bucket.ts:40-42 -/
def getObject : Except String C :=
  S3StorageConnection.getObject b.connection s b.bucketName objectName

/-- SOURCE: storage-bucket.ts:44-53 -/
def presignedGetObject (expires : Value) : Except String String :=
  S3StorageConnection.presignedGetObject b.connection s b.bucketName objectName expires

end StorageBucket

/-- A call of a bucket that changes the store. -/
inductive BucketCall where
  | putObject (bucketName objectName : String) (source : S3StorageConnection.Source)
      (options : Option S3StorageConnection.PutObjectOptions)
  | removeObject (bucketName objectName : String)

namespace BucketCall

/-- The object that the call is about. -/
def object : BucketCall → String × String
  | putObject bucketName objectName _ _ => (bucketName, objectName)
  | removeObject bucketName objectName => (bucketName, objectName)

def perform (client : MinioClient σ C) (s : σ) : BucketCall → Except String Unit × σ
  | putObject bucketName objectName source options =>
    StorageBucket.putObject ⟨client, bucketName⟩ s objectName source options
  | removeObject bucketName objectName =>
    StorageBucket.removeObject ⟨client, bucketName⟩ s objectName

/-- Awaited calls, one after the other: each with its outcome, and the state in the end. -/
def performAll (client : MinioClient σ C) : σ → List BucketCall →
    List (BucketCall × Except String Unit) × σ
  | s, [] => ([], s)
  | s, c :: cs =>
    let (outcome, t) := c.perform client s
    let (history, u) := performAll client t cs
    ((c, outcome) :: history, u)

end BucketCall

end

end Xnestjs.Program
