/-
# The blob store on the file system

`src/blob/filesystem`: a blob is a regular file, its key the text of the file's path below the root
directory.  An upload writes a temporary file beside it and renames that; a listing leaves the
temporary files out.
-/

import Mathlib.Data.String.Basic
import Dbal.Blob.BlobStorage
import Dbal.Blob.FileSystem

namespace Dbal
namespace Blob

/-! ### Keys and paths -/

/-- The text occurs in the other one. -/
def occursIn (part text : List Char) : Bool := text.tails.any part.isPrefixOf

/-- `is_key_safe`; what is left then resolves below the root, where there are no links. -/
def isKeySafe (key : String) : Bool :=
  key ≠ "" && !occursIn ['.', '.'] key.toList && key.toList.head? ≠ some '/'

/-- `parent_path`, of a text below the root. -/
def parentPath (key : String) : String :=
  String.ofList ((key.toList.reverse.dropWhile (· ≠ '/')).dropWhile (· = '/')).reverse

/-- `path += ".tmp"`. -/
def tempPath (key : String) : String := key ++ ".tmp"

/-- A file name that is longer than `.tmp` and ends with it. -/
def isTempName (name : Name) : Bool :=
  4 < name.chars.length && ".tmp".toList.isSuffixOf name.chars

/-- The listing leaves the file out. -/
def isTemp (path : Path) : Bool := path.getLast?.any isTempName

/-! ### Operations -/

def invalidKey (key : String) : Error := .validationError ("Invalid blob key: " ++ key)

/-- `fs_upload`. -/
def fsUpload (hash : List UInt8 → UInt64) (now : Int) (key : String) (data : List UInt8)
    (options : UploadOptions) (fs : FileSystem) : Result BlobMetadata × FileSystem :=
  if !isKeySafe key then (.error (invalidKey key), fs)
  else if !options.overwrite && fs.existsAt (resolve key) then
    (.error (.conflict ("Blob already exists: " ++ key)), fs)
  else
    match fs.createDirectories (resolve (parentPath key)) with
    | .error what =>
        (.error (.internal ("Failed to create directories for: " ++ key ++ " (" ++ what ++ ")")), fs)
    | .ok created =>
        match created.write (resolve (tempPath key)) ⟨data, now⟩ with
        | none =>
            (.error (.internal ("Failed to open file for writing: " ++ tempPath key)), created)
        | some written =>
            match written.rename (resolve (tempPath key)) (resolve key) with
            | .error what =>
                (.error (.internal ("Failed to finalize blob: " ++ key ++ " (" ++ what ++ ")")),
                  written.erase (resolve (tempPath key)).path)
            | .ok renamed =>
                (.ok { key := key
                       size := data.length
                       contentType := options.contentType.getD (guessContentType key)
                       etag := generateEtag hash data
                       lastModified := now
                       customMetadata := options.metadata }, renamed)

/-- `fs_copy`. -/
def fsCopy (hash : List UInt8 → UInt64) (now : Int) (sourceKey destKey : String)
    (fs : FileSystem) : Result BlobMetadata × FileSystem :=
  if !isKeySafe sourceKey then
    (.error (.validationError ("Invalid source key: " ++ sourceKey)), fs)
  else if !isKeySafe destKey then
    (.error (.validationError ("Invalid destination key: " ++ destKey)), fs)
  else if !fs.existsAt (resolve sourceKey) then
    (.error (.notFound ("Source blob not found: " ++ sourceKey)), fs)
  else if (fs.fileAt (resolve sourceKey)).isNone then
    (.error (.validationError ("Source key refers to a directory: " ++ sourceKey)), fs)
  else
    match fs.createDirectories (resolve (parentPath destKey)) with
    | .error what =>
        (.error (.internal
          ("Failed to create directories for: " ++ destKey ++ " (" ++ what ++ ")")), fs)
    | .ok created =>
        match created.copyFile (resolve sourceKey) (resolve destKey) now with
        | .error what =>
            (.error (.internal
              ("Failed to copy blob: " ++ sourceKey ++ " -> " ++ destKey ++ " (" ++ what ++ ")")),
              created)
        | .ok copied =>
            match copied.fileAt (resolve destKey) with
            | none => (.error (.internal ("Failed to read copied file size: " ++ destKey)), copied)
            | some file =>
                (.ok { key := destKey
                       size := file.bytes.length
                       contentType := guessContentType destKey
                       etag := generateEtag hash file.bytes
                       lastModified := now }, copied)

/-- The bytes that a download asks for. -/
def readRange (data : List UInt8) (options : DownloadOptions) : Result (List UInt8) :=
  if options.offset.isSome || options.length.isSome then
    let offset := options.offset.getD 0
    if data.length ≤ offset then .error (.validationError "Offset exceeds blob size")
    else
      let length := options.length.getD (data.length - offset)
      .ok ((data.drop offset).take (min length (data.length - offset)))
  else .ok data

/-- `fs_download`. -/
def fsDownload (key : String) (options : DownloadOptions) (fs : FileSystem) :
    Result (List UInt8) :=
  if !isKeySafe key then .error (invalidKey key)
  else if !fs.existsAt (resolve key) then .error (.notFound ("Blob not found: " ++ key))
  else
    match fs.fileAt (resolve key) with
    | none => .error (.validationError ("Key refers to a directory, not a blob: " ++ key))
    | some file => readRange file.bytes options

/-- The loop of `fs_delete` over the empty directories above the file. -/
def removeEmptyParents : Nat → String → FileSystem → FileSystem
  | 0, _, fs => fs
  | fuel + 1, parent, fs =>
      if parent ≠ "" && fs.isEmpty (resolve parent).path then
        match fs.remove (resolve parent) with
        | .error _ => fs
        | .ok removed => removeEmptyParents fuel (parentPath parent) removed
      else fs

/-- `fs_delete`. -/
def fsDelete (key : String) (fs : FileSystem) : Result Bool × FileSystem :=
  if !isKeySafe key then (.error (invalidKey key), fs)
  else if !fs.existsAt (resolve key) then (.error (.notFound ("Blob not found: " ++ key)), fs)
  else
    match fs.remove (resolve key) with
    | .error what =>
        (.error (.internal ("Failed to delete blob: " ++ key ++ " (" ++ what ++ ")")), fs)
    | .ok removed => (.ok true, removeEmptyParents key.length (parentPath key) removed)

/-- The keys that `fs_list` collects, sorted. -/
def matchingKeys (keyPrefix : Option String) (fs : FileSystem) : List String :=
  (((fs.files.keys.filter fun path => !isTemp path).map keyOf).filter (hasPrefix keyPrefix)).mergeSort

/-- What `fs_list` tells of a blob. -/
def listedBlob (key : String) (file : File) : BlobMetadata where
  key := key
  size := file.bytes.length
  contentType := guessContentType key
  etag := ""
  lastModified := file.lastWrite

/-- The loop of `fs_list` over the matching keys. -/
def fsPage (fs : FileSystem) (continuation : String) (maxKeys : Nat) :
    List String → Bool → List BlobMetadata → BlobListResult
  | [], _, items => { items := items }
  | key :: keys, pastToken, items =>
      if !pastToken && !decide (continuation < key) then
        fsPage fs continuation maxKeys keys pastToken items
      else if maxKeys ≤ items.length then
        { items := items, nextToken := some key, isTruncated := true }
      else
        match fs.fileAt (resolve key) with
        | none => fsPage fs continuation maxKeys keys true items
        | some file => fsPage fs continuation maxKeys keys true (items ++ [listedBlob key file])

/-- `fs_list`. -/
def fsList (options : ListOptions) (fs : FileSystem) : BlobListResult :=
  let continuation := options.continuationToken.getD ""
  fsPage fs continuation options.maxKeys (matchingKeys options.keyPrefix fs)
    (continuation = "") []

end Blob
end Dbal
