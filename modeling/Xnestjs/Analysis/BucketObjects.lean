import Xnestjs.Analysis.MetadataFrame
import Xnestjs.Model.KeyedStore
import Xnestjs.Program.StorageBucket

/-!
# What a bucket reads back

Calls through any buckets of one connection, one after the other, any of which may be rejected,
are writes to a store of objects by bucket and name. What a bucket reads of an object afterwards
is of one write: the last one to this object that was resolved, or a rejected one after it.

A store of this kind sends metadata as headers, whose names come back in lower case. The reader
looks for names in title case, so it fills no field of the info; the headers stay among the
metadata, with the keys of the user.
-/

set_option autoImplicit false

namespace Xnestjs.Analysis

open Xnestjs.Model Xnestjs.Program Xnestjs.Program.S3StorageConnection

/-- An object in the store. -/
structure StoredObject (C : Type) where
  content : C
  metaData : Option FileMetadata

section

variable {σ C : Type}

/-- What a store gives back of the metadata that it was sent: every name in lower case, an entry
that it carries as it was when it is the only one of its name, and nothing else but names of its
own. -/
structure GivenBack (carries : String → Value → Prop) (own : String → Prop)
    (sent returned : FileMetadata) : Prop where
  lower : ∀ k ∈ returned.keys, toLowerCase k = k
  carried : ∀ k v, sent.lookup k = some v → carries k v →
    (∀ k' ∈ sent.keys, toLowerCase k' = toLowerCase k → k' = k) →
    returned.lookup (toLowerCase k) = some v
  source : ∀ k ∈ returned.keys, own k ∨ ∃ k' ∈ sent.keys, toLowerCase k' = k

/-- What a client is relied on for. `read` is the content of a source, and `objects` are the
objects in a state of the store. A call that resolves has been made, a rejected one has been
made or not; and what is read of an object is the content that it was put with, and the metadata
as the store gives it back. -/
structure ObjectStore (client : MinioClient σ C) (read : Source → C)
    (objects : σ → String × String → Option (StoredObject C))
    (carries : String → Value → Prop) (own : String → Prop) : Prop where
  put : ∀ s r, Written (objects s)
    ⟨(r.bucketName, r.objectName), some ⟨read r.source, r.metaData⟩,
      (client.putObject s r).1.isOk⟩
    (objects (client.putObject s r).2)
  remove : ∀ s bucketName objectName, Written (objects s)
    ⟨(bucketName, objectName), none, (client.removeObject s bucketName objectName).1.isOk⟩
    (objects (client.removeObject s bucketName objectName).2)
  stat : ∀ {s bucketName objectName stat},
    client.statObject s bucketName objectName = .ok stat →
    ∃ o returned, objects s (bucketName, objectName) = some o ∧ stat.metaData = some returned ∧
      GivenBack carries own (o.metaData.getD .empty) returned
  get : ∀ {s bucketName objectName content},
    client.getObject s bucketName objectName = .ok content →
    ∃ o, objects s (bucketName, objectName) = some o ∧ content = o.content

/-- The options of a `putObject`, of which there may be none, have this metadata. -/
def userMetadata (options : Option PutObjectOptions) : FileMetadata :=
  (options.bind PutObjectOptions.metadata).getD .empty

/-- A call as a write. -/
def writeOf (read : Source → C) (c : BucketCall × Except String Unit) :
    StoreWrite (String × String) (StoredObject C) where
  key := c.1.object
  value :=
    match c.1 with
    | .putObject bucketName objectName source options =>
      some ⟨read source,
        (S3StorageConnection.putObject bucketName objectName source options).metaData⟩
    | .removeObject _ _ => none
  acknowledged := c.2.isOk

variable {client : MinioClient σ C} {read : Source → C}
  {objects : σ → String × String → Option (StoredObject C)}
  {carries : String → Value → Prop} {own : String → Prop}

/-- INTERNAL: one call is its write. -/
theorem ObjectStore.perform (h : ObjectStore client read objects carries own) (s : σ)
    (c : BucketCall) :
    Written (objects s) (writeOf read (c, (c.perform client s).1))
      (objects (c.perform client s).2) := by
  cases c with
  | putObject bucketName objectName source options =>
    exact h.put s (S3StorageConnection.putObject bucketName objectName source options)
  | removeObject bucketName objectName => exact h.remove s bucketName objectName

/-- INTERNAL: **a run** of calls is a history of their writes. -/
theorem ObjectStore.performAll (h : ObjectStore client read objects carries own) (s : σ)
    (cs : List BucketCall) :
    WriteHistory (objects s) ((BucketCall.performAll client s cs).1.map (writeOf read))
      (objects (BucketCall.performAll client s cs).2) := by
  induction cs generalizing s with
  | nil => exact .nil _
  | cons c cs ih => exact .cons (h.perform s c) (ih _)

/-! ## Reading -/

/-- The names that the reader takes out. SOURCE: s3-storage-connection.ts:58-59 -/
def takenOut : List String := ["content-length", "last-modified"]

/-- The info of an object that was put with the metadata `sent`: no field is filled, and its
metadata is what the store gives back, but for the length and the date. -/
structure ReadFrom (carries : String → Value → Prop) (own : String → Prop) (sent : FileMetadata)
    (inf : ObjectInfo) : Prop where
  field : ∀ f, inf.field f = .undefined
  metadata : ∃ left, inf.metadata = some left ∧ (∀ k ∈ left.keys, k ∉ takenOut) ∧
    GivenBack (fun k v => carries k v ∧ toLowerCase k ∉ takenOut) own sent left

/-- Whatever the bucket reads of the object is of `v`; nothing is read when there is none. -/
structure ReadsAs (carries : String → Value → Prop) (own : String → Prop) (b : StorageBucket σ C)
    (s : σ) (objectName : String) (v : Option (StoredObject C)) : Prop where
  info : ∀ inf, b.getObjectInfo s objectName = .ok inf →
    ∃ o, v = some o ∧ ReadFrom carries own (o.metaData.getD .empty) inf
  content : ∀ content, b.getObject s objectName = .ok content →
    ∃ o, v = some o ∧ content = o.content
  file : ∀ filePath written, b.getFile s objectName filePath = .ok written →
    ∃ o, v = some o ∧ written = (filePath, o.content)

/-- INTERNAL: a header in title case is not found among names in lower case.
SOURCE: s3-storage-connection.ts:60-75 -/
theorem readHeaders_of_lower {md : FileMetadata} (h : ∀ k ∈ md.keys, toLowerCase k = k)
    (inf : ObjectInfo) : readHeaders (inf, md) = (inf, md) := by
  have habsent : ∀ k, toLowerCase k ≠ k → getKey md k = .undefined := by
    intro k hk
    unfold getKey
    rw [md.lookup_of_not_mem fun hmem => hk (h k hmem)]
    rfl
  have hskipped : ∀ header key f, toLowerCase header ≠ header →
      readHeader header key f (inf, md) = (inf, md) := by
    intro header key f hheader
    simp [readHeader, habsent header hheader]
  simp (disch := decide) only [readHeaders, hskipped]

/-- INTERNAL: a removal leaves keys that were there. SOURCE: s3-storage-connection.ts:128-132 -/
theorem mem_keys_of_removeKey {md : FileMetadata} {key k : String}
    (h : k ∈ (removeKey md key).keys) : k ∈ md.keys := by
  unfold removeKey at h
  split at h
  · split_ifs at h
    · rw [Record.keys_delete] at h
      exact List.mem_of_mem_filter h
    · exact h
  · exact h

/-- INTERNAL: and takes out the key itself, when names are in lower case.
SOURCE: s3-storage-connection.ts:128-132 -/
theorem ne_of_mem_removeKey {md : FileMetadata} (h : ∀ k ∈ md.keys, toLowerCase k = k)
    {key k : String} (hkey : toLowerCase key = key) (hne : key ≠ "")
    (hk : k ∈ (removeKey md key).keys) : k ≠ key := by
  rintro rfl
  unfold removeKey at hk
  cases hfind : md.keys.find? (fun x => toLowerCase x = toLowerCase k) with
  | none =>
    rw [hfind] at hk
    have hnone := List.find?_eq_none.mp hfind k hk
    simp at hnone
  | some x =>
    have hlower : toLowerCase x = toLowerCase k := by simpa using List.find?_some hfind
    have hx : x = k := by rw [← h x (List.mem_of_find?_eq_some hfind), hlower, hkey]
    subst hx
    simp [hfind, hne, Record.keys_delete] at hk

/-- INTERNAL: a removal takes one name out of what is given back.
SOURCE: s3-storage-connection.ts:128-132 -/
theorem GivenBack.removeKey {sent returned : FileMetadata}
    (h : GivenBack carries own sent returned) (key : String) :
    GivenBack (fun k v => carries k v ∧ toLowerCase k ≠ toLowerCase key) own sent
      (removeKey returned key) := by
  refine ⟨fun k hk => h.lower k (mem_keys_of_removeKey hk), ?_,
    fun k hk => h.source k (mem_keys_of_removeKey hk)⟩
  rintro k v hk ⟨hcarries, hkey⟩ hone
  have hlookup := h.carried k v hk hcarries hone
  have hlower := h.lower (toLowerCase k) ((returned.lookup_isSome _).mp (by rw [hlookup]; rfl))
  rw [lookup_removeKey returned (by rwa [hlower])]
  exact hlookup

/-- INTERNAL: the info comes from a stat. SOURCE: s3-storage-connection.ts:45-78 -/
theorem readFrom_of_stat {statObject : String → String → Except String BucketItemStat}
    {bucketName objectName : String} {stat : BucketItemStat} {sent returned : FileMetadata}
    {inf : ObjectInfo} (hstat : statObject bucketName objectName = .ok stat)
    (hmd : stat.metaData = some returned) (hback : GivenBack carries own sent returned)
    (hinf : S3StorageConnection.getObjectInfo statObject bucketName objectName = .ok inf) :
    ReadFrom carries own sent inf := by
  have hfirst := hback.removeKey "content-length"
  have hleft := hfirst.removeKey "last-modified"
  simp only [S3StorageConnection.getObjectInfo, hstat, hmd,
    readHeaders_of_lower hleft.lower] at hinf
  cases hinf
  refine ⟨fun f => by cases f <;> rfl, _, rfl, fun k hk => ?_, hleft.lower, ?_, hleft.source⟩
  · have hlength : k ≠ "content-length" :=
      ne_of_mem_removeKey hback.lower (by decide) (by decide) (mem_keys_of_removeKey hk)
    have hmodified : k ≠ "last-modified" :=
      ne_of_mem_removeKey hfirst.lower (by decide) (by decide) hk
    simp [takenOut, hlength, hmodified]
  · rintro k v hk ⟨hcarries, hkey⟩ hone
    simp only [takenOut, List.mem_cons, List.not_mem_nil, or_false, not_or] at hkey
    exact hleft.carried k v hk ⟨⟨hcarries, hkey.1⟩, hkey.2⟩ hone

/-- INTERNAL: **what a bucket reads** is of the object in the store. -/
theorem ObjectStore.readsAs (h : ObjectStore client read objects carries own) (s : σ)
    (bucketName objectName : String) :
    ReadsAs carries own ⟨client, bucketName⟩ s objectName (objects s (bucketName, objectName)) := by
  refine ⟨fun inf hinf => ?_, fun content hcontent => h.get hcontent, ?_⟩
  · cases hstat : client.statObject s bucketName objectName with
    | error e =>
      unfold StorageBucket.getObjectInfo S3StorageConnection.getObjectInfo at hinf
      simp [hstat] at hinf
    | ok stat =>
      obtain ⟨o, returned, ho, hmeta, hback⟩ := h.stat hstat
      exact ⟨o, ho, readFrom_of_stat hstat hmeta hback hinf⟩
  · intro filePath written hfile
    unfold StorageBucket.getFile S3StorageConnection.getFile at hfile
    cases hget : client.getObject s bucketName objectName with
    | error e => simp [hget, Except.map] at hfile
    | ok content =>
      obtain ⟨o, ho, rfl⟩ := h.get hget
      simp only [hget, Except.map, Except.ok.injEq] at hfile
      exact ⟨o, ho, hfile.symm⟩

/-- INTERNAL: a put sends metadata with the keys of the user.
SOURCE: s3-storage-connection.ts:26-43, 106-126 -/
theorem putObject_metaData (bucketName objectName : String) (source : Source)
    (options : Option PutObjectOptions) :
    ∃ md, (S3StorageConnection.putObject bucketName objectName source options).metaData =
      some md ∧ SameUserKeys (userMetadata options) md := by
  cases options with
  | none => exact ⟨.empty, rfl, SameUserKeys.refl _⟩
  | some o => exact ⟨_, rfl, updateMetadata_sameUserKeys rfl⟩

/-- Every one of the calls about the object was rejected. -/
def AllRejected (history : List (BucketCall × Except String Unit)) (object : String × String) :
    Prop :=
  ∀ c ∈ history, c.1.object = object → ∃ e, c.2 = .error e

/-- INTERNAL: calls whose writes are not acknowledged were rejected.
SOURCE: storage-bucket.ts:9-54 -/
theorem allRejected_of_unacknowledged {history : List (BucketCall × Except String Unit)}
    {object : String × String}
    (h : Unacknowledged (history.map (writeOf read)) object) : AllRejected history object := by
  intro c hc hobject
  have hfailed := h (writeOf read c) (List.mem_map_of_mem hc) hobject
  obtain ⟨call, outcome⟩ := c
  cases outcome with
  | error e => exact ⟨e, rfl⟩
  | ok u => cases hfailed

/-- **What a bucket reads back.** After any run of calls through buckets of one connection,
whatever is read of an object is of one `putObject`, or nothing after one `removeObject`, such that
all later calls about this object were rejected, or it is of the object that was there before,
when all calls about it were rejected. The metadata that was put has the keys of the user. Of it
the info has what the store gives back, the headers among them, and no field is filled.
SOURCE: storage-bucket.ts:9-54, s3-storage-connection.ts:26-94 -/
theorem bucket_reads_back (h : ObjectStore client read objects carries own) (s : σ)
    (cs : List BucketCall) (bucketName objectName : String) :
    (∃ before source options outcome after md,
      (BucketCall.performAll client s cs).1 =
        before ++ (.putObject bucketName objectName source options, outcome) :: after ∧
      AllRejected after (bucketName, objectName) ∧
      (S3StorageConnection.putObject bucketName objectName source options).metaData = some md ∧
      SameUserKeys (userMetadata options) md ∧
      ReadsAs carries own ⟨client, bucketName⟩ (BucketCall.performAll client s cs).2 objectName
        (some ⟨read source, some md⟩)) ∨
    (∃ before outcome after,
      (BucketCall.performAll client s cs).1 =
        before ++ (.removeObject bucketName objectName, outcome) :: after ∧
      AllRejected after (bucketName, objectName) ∧
      ReadsAs carries own ⟨client, bucketName⟩ (BucketCall.performAll client s cs).2 objectName
        none) ∨
    AllRejected (BucketCall.performAll client s cs).1 (bucketName, objectName) ∧
      ReadsAs carries own ⟨client, bucketName⟩ (BucketCall.performAll client s cs).2 objectName
        (objects s (bucketName, objectName)) := by
  have hreads := h.readsAs (BucketCall.performAll client s cs).2 bucketName objectName
  rcases (h.performAll s cs).comesFrom (bucketName, objectName) with
    ⟨hv, hrejected⟩ | ⟨before, w, after, hsplit, hkey, hv, hrejected⟩
  · rw [hv] at hreads
    exact Or.inr (Or.inr ⟨allRejected_of_unacknowledged hrejected, hreads⟩)
  · obtain ⟨before', rest, hhistory, -, hrest⟩ := List.map_eq_append_iff.mp hsplit
    obtain ⟨⟨call, outcome⟩, after', rfl, rfl, rfl⟩ := List.map_eq_cons_iff.mp hrest
    have hafter := allRejected_of_unacknowledged hrejected
    rw [← hv] at hreads
    cases call with
    | putObject bucketName' objectName' source options =>
      obtain ⟨rfl, rfl⟩ := Prod.mk.inj hkey
      obtain ⟨md, hmd, hkeys⟩ := putObject_metaData bucketName' objectName' source options
      refine Or.inl ⟨before', source, options, outcome, after', md, hhistory, hafter, hmd, hkeys,
        ?_⟩
      simpa only [writeOf, hmd] using hreads
    | removeObject bucketName' objectName' =>
      obtain ⟨rfl, rfl⟩ := Prod.mk.inj hkey
      exact Or.inr (Or.inl ⟨before', outcome, after', hhistory, hafter, hreads⟩)

end

/-! ## A store in memory -/

/-- Objects in memory, whose content is the source they are put from. -/
abbrev MemoryObjects := String × String → Option (StoredObject Source)

/-- The entries that are texts, under names in lower case. -/
def loweredTexts (md : FileMetadata) : FileMetadata :=
  (md.entries.filterMap fun e => match e.2 with
    | .str s => some (toLowerCase e.1, .str s)
    | _ => none).foldl (fun r e => r.set e.1 e.2) .empty

def memoryClient : MinioClient MemoryObjects Source where
  putObject s r := (.ok (), Function.update s (r.bucketName, r.objectName)
    (some ⟨r.source, r.metaData⟩))
  statObject s bucketName objectName :=
    match s (bucketName, objectName) with
    | some o => .ok ⟨0, "", 0, some (loweredTexts (o.metaData.getD .empty))⟩
    | none => .error "Not Found"
  removeObject s bucketName objectName :=
    (.ok (), Function.update s (bucketName, objectName) none)
  getObject s bucketName objectName :=
    match s (bucketName, objectName) with
    | some o => .ok o.content
    | none => .error "The specified key does not exist."
  presignedGetObject _ bucketName objectName _ := .ok (bucketName ++ "/" ++ objectName)

section

variable {es : List (String × Value)} {r : FileMetadata} {k : String}

/-- A key that is set to one value only has that value in the end. -/
theorem lookup_foldl_set_of_one {v : Value} (hone : ∀ e ∈ es, e.1 = k → e.2 = v)
    (hset : (∃ e ∈ es, e.1 = k) ∨ r.lookup k = some v) :
    (es.foldl (fun r e => r.set e.1 e.2) r).lookup k = some v := by
  induction es generalizing r with
  | nil => exact hset.resolve_left fun ⟨e, he, _⟩ => absurd he List.not_mem_nil
  | cons e es ih =>
    refine ih (fun e' he' => hone e' (List.mem_cons_of_mem e he')) ?_
    by_cases hk : e.1 = k
    · right
      rw [Record.lookup_set, if_pos hk, hone e List.mem_cons_self hk]
    · rw [Record.lookup_set, if_neg hk]
      refine hset.imp_left ?_
      rintro ⟨e', he', hk'⟩
      rcases List.mem_cons.mp he' with rfl | he'
      · exact absurd hk' hk
      · exact ⟨e', he', hk'⟩

/-- A key that is there in the end was set, or there before. -/
theorem mem_keys_foldl_set (h : k ∈ (es.foldl (fun r e => r.set e.1 e.2) r).keys) :
    k ∈ r.keys ∨ ∃ e ∈ es, e.1 = k := by
  induction es generalizing r with
  | nil => exact Or.inl h
  | cons e es ih =>
    rcases ih h with hr | ⟨e', he', hk⟩
    · rw [Record.keys_set] at hr
      split_ifs at hr
      · exact Or.inl hr
      · rcases List.mem_append.mp hr with hr | hr
        · exact Or.inl hr
        · exact Or.inr ⟨e, List.mem_cons_self, (List.mem_singleton.mp hr).symm⟩
    · exact Or.inr ⟨e', List.mem_cons_of_mem e he', hk⟩

end

/-- The texts among the metadata come back in lower case, and nothing else does. -/
theorem givenBack_loweredTexts (sent : FileMetadata) :
    GivenBack (fun _ v => ∃ s, v = .str s) (fun _ => False) sent (loweredTexts sent) := by
  have hentry : ∀ k ∈ (loweredTexts sent).keys, ∃ k' ∈ sent.keys, toLowerCase k' = k := by
    intro k hk
    rcases mem_keys_foldl_set hk with hk | ⟨e, he, rfl⟩
    · cases hk
    · obtain ⟨e', he', hlowered⟩ := List.mem_filterMap.mp he
      split at hlowered
      · cases hlowered
        exact ⟨e'.1, List.mem_map_of_mem he', rfl⟩
      · cases hlowered
  refine ⟨?_, ?_, fun k hk => Or.inr (hentry k hk)⟩
  · intro k hk
    obtain ⟨k', -, rfl⟩ := hentry k hk
    exact toLowerCase_toLowerCase k'
  · rintro k _ hk ⟨s, rfl⟩ hone
    rw [Record.lookup_eq_some_iff] at hk
    apply lookup_foldl_set_of_one
    · intro e he hname
      obtain ⟨e', he', hlowered⟩ := List.mem_filterMap.mp he
      split at hlowered
      · rename_i s' hvalue
        cases hlowered
        have hsame : e'.1 = k := hone e'.1 (List.mem_map_of_mem he') hname
        have hlookup : (k, Value.str s') ∈ sent.entries := by rwa [← hsame, ← hvalue]
        rw [← Record.lookup_eq_some_iff] at hk hlookup
        exact Option.some.inj (hlookup.symm.trans hk)
      · cases hlowered
    · exact Or.inl ⟨_, List.mem_filterMap.mpr ⟨_, hk, rfl⟩, rfl⟩

/-- INTERNAL: the client in memory is one of an object store. -/
theorem memoryClient_objectStore :
    ObjectStore memoryClient id id (fun _ v => ∃ s, v = .str s) (fun _ => False) := by
  constructor
  · exact fun s r => Or.inl rfl
  · exact fun s bucketName objectName => Or.inl rfl
  · intro s bucketName objectName stat hstat
    simp only [memoryClient] at hstat
    cases ho : s (bucketName, objectName) with
    | none => simp [ho] at hstat
    | some o =>
      simp only [ho, Except.ok.injEq] at hstat
      exact ⟨o, _, ho, hstat ▸ rfl, givenBack_loweredTexts _⟩
  · intro s bucketName objectName content hget
    simp only [memoryClient] at hget
    cases ho : s (bucketName, objectName) with
    | none => simp [ho] at hget
    | some o =>
      simp only [ho, Except.ok.injEq] at hget
      exact ⟨o, ho, hget.symm⟩

/-- A text of somebody. -/
def ownedFile : PutObjectOptions :=
  ⟨.undefined, .str "text/plain", .undefined, .undefined,
    some ⟨[("Owner", .str "x")], by decide⟩⟩

/-- A file that is put twice, with another one removed in between: what is read is of the second
time, and its owner is found in lower case. -/
theorem second_put_read_back :
    let cs : List BucketCall :=
      [.putObject "b" "a" (.data 0) none, .removeObject "b" "c",
        .putObject "b" "a" (.data 1) (some ownedFile)]
    let s := (BucketCall.performAll memoryClient (fun _ => none) cs).2
    (∀ content, StorageBucket.getObject ⟨memoryClient, "b"⟩ s "a" = .ok content →
      content = .data 1) ∧
    ∀ inf, StorageBucket.getObjectInfo ⟨memoryClient, "b"⟩ s "a" = .ok inf →
      inf.contentType = .undefined ∧ ∃ left, inf.metadata = some left ∧
        left.lookup "owner" = some (.str "x") := by
  intro cs s
  have hdone : (BucketCall.performAll memoryClient (fun _ => none) cs).1 =
      [(.putObject "b" "a" (.data 0) none, .ok ()), (.removeObject "b" "c", .ok ()),
        (.putObject "b" "a" (.data 1) (some ownedFile), .ok ())] := rfl
  have hput : ∃ source options md, source = .data 1 ∧ options = some ownedFile ∧
      (S3StorageConnection.putObject "b" "a" source options).metaData = some md ∧
      SameUserKeys (userMetadata options) md ∧
      ReadsAs (fun _ v => ∃ s, v = .str s) (fun _ => False) ⟨memoryClient, "b"⟩ s "a"
        (some ⟨source, some md⟩) := by
    rcases bucket_reads_back memoryClient_objectStore (fun _ => none) cs "b" "a" with
      ⟨before, source, options, outcome, after, md, hrun, hafter, hmd, hkeys, hreads⟩ |
      ⟨before, outcome, after, hrun, -⟩ | ⟨hall, -⟩
    · rw [hdone] at hrun
      -- after the first put comes another one that was not rejected
      rcases before with _ | ⟨c, _ | ⟨c', _ | ⟨c'', rest⟩⟩⟩
      · obtain ⟨-, rfl⟩ := List.cons_eq_cons.mp hrun
        obtain ⟨e, he⟩ := hafter _ (List.mem_cons_of_mem _ List.mem_cons_self) rfl
        cases he
      · simp at hrun
      · simp only [List.cons_append, List.nil_append, List.cons.injEq, Prod.mk.injEq,
          BucketCall.putObject.injEq, true_and] at hrun
        obtain ⟨-, -, ⟨⟨rfl, rfl⟩, -⟩, -⟩ := hrun
        exact ⟨_, _, md, rfl, rfl, hmd, hkeys, hreads⟩
      · simp at hrun
    · rw [hdone] at hrun
      have hmem : (BucketCall.removeObject "b" "a", outcome) ∈
          before ++ (BucketCall.removeObject "b" "a", outcome) :: after := by simp
      rw [← hrun] at hmem
      simp at hmem
    · obtain ⟨e, he⟩ := hall _ (by rw [hdone]; exact List.mem_cons_self) rfl
      cases he
  obtain ⟨_, _, md, rfl, rfl, hmd, hkeys, hreads⟩ := hput
  refine ⟨fun content hcontent => ?_, fun inf hinf => ?_⟩
  · obtain ⟨o, ho, rfl⟩ := hreads.content content hcontent
    cases ho
    rfl
  · obtain ⟨o, ho, hfield, left, hleft, -, hback⟩ := hreads.info inf hinf
    cases ho
    refine ⟨hfield .contentType, left, hleft, ?_⟩
    have howner : md.lookup "Owner" = some (.str "x") := hkeys "Owner" (by decide)
    exact hback.carried "Owner" _ howner ⟨⟨"x", rfl⟩, by decide⟩ (by
      cases hmd
      decide)

end Xnestjs.Analysis
