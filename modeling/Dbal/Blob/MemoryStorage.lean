/-
# The blob store in memory

`src/blob/memory`: the blobs stand in a `std::map` under their keys.
-/

import Std.Data.TreeMap
import Dbal.Blob.FilesystemStorage

namespace Dbal
namespace Blob

/-- `BlobData`. -/
structure BlobData where
  data : List UInt8
  contentType : String
  etag : String
  lastModified : Int
  metadata : List (String × String)

/-- `make_blob_metadata`. -/
def makeBlobMetadata (key : String) (blob : BlobData) : BlobMetadata where
  key := key
  size := blob.data.length
  contentType := blob.contentType
  etag := blob.etag
  lastModified := blob.lastModified
  customMetadata := blob.metadata

/-- The loop of `memory_list`. -/
def memoryPage (options : ListOptions) :
    List (String × BlobData) → List BlobMetadata → BlobListResult
  | [], items => { items := items }
  | (key, blob) :: blobs, items =>
      if hasPrefix options.keyPrefix key then
        if options.maxKeys ≤ items.length then
          { items := items, nextToken := some key, isTruncated := true }
        else memoryPage options blobs (items ++ [makeBlobMetadata key blob])
      else memoryPage options blobs items

/-- `memory_list`; it does not read the token. -/
def memoryList (store : Std.TreeMap String BlobData) (options : ListOptions) : BlobListResult :=
  memoryPage options store.toList []

/-! ### The other operations -/

/-- The map of `MemoryStorage`. -/
abbrev MemoryStore := Std.TreeMap String BlobData

/-- `memory_upload`. -/
def memoryUpload (hash : List UInt8 → UInt64) (now : Int) (key : String) (data : List UInt8)
    (options : UploadOptions) (store : MemoryStore) : Result BlobMetadata × MemoryStore :=
  if !options.overwrite ∧ store[key]?.isSome then
    (.error (.conflict ("Blob already exists: " ++ key)), store)
  else
    let blob : BlobData := {
      data := data
      contentType := options.contentType.getD "application/octet-stream"
      etag := generateEtag hash data
      lastModified := now
      metadata := options.metadata }
    (.ok (makeBlobMetadata key blob), store.insert key blob)

/-- `memory_download`; it reads a range as the store on the file system does. -/
def memoryDownload (key : String) (options : DownloadOptions) (store : MemoryStore) :
    Result (List UInt8) :=
  match store[key]? with
  | none => .error (.notFound ("Blob not found: " ++ key))
  | some blob => readRange blob.data options

/-- `memory_delete`. -/
def memoryDelete (key : String) (store : MemoryStore) : Result Bool × MemoryStore :=
  match store[key]? with
  | none => (.error (.notFound ("Blob not found: " ++ key)), store)
  | some _ => (.ok true, store.erase key)

/-- `memory_get_metadata`. -/
def memoryGetMetadata (key : String) (store : MemoryStore) : Result BlobMetadata :=
  match store[key]? with
  | none => .error (.notFound ("Blob not found: " ++ key))
  | some blob => .ok (makeBlobMetadata key blob)

/-- `memory_copy`. -/
def memoryCopy (now : Int) (sourceKey destKey : String) (store : MemoryStore) :
    Result BlobMetadata × MemoryStore :=
  match store[sourceKey]? with
  | none => (.error (.notFound ("Source blob not found: " ++ sourceKey)), store)
  | some blob =>
      let copied := { blob with lastModified := now }
      (.ok (makeBlobMetadata destKey copied), store.insert destKey copied)

/-- `memory_total_size`. -/
def memoryTotalSize (store : MemoryStore) : Nat :=
  store.toList.foldl (fun total entry => total + entry.2.data.length) 0

/-- `memory_object_count`. -/
def memoryObjectCount (store : MemoryStore) : Nat := store.size

end Blob
end Dbal
