/-
# Blob storage

`include/dbal/storage/blob_storage.hpp` and what the two local stores share: the options and the
metadata of a blob, the content type that a key suggests and the ETag of its bytes.

`std::hash` is a parameter, and so is the clock.
-/

import Dbal.Core.Error
import Dbal.Store.Paging

namespace Dbal
namespace Blob

/-- `BlobMetadata`. -/
structure BlobMetadata where
  key : String
  size : Nat
  contentType : String
  etag : String
  lastModified : Int
  customMetadata : List (String × String) := []
  deriving DecidableEq, Repr

/-- `BlobListResult`. -/
structure BlobListResult where
  items : List BlobMetadata := []
  nextToken : Option String := none
  isTruncated : Bool := false
  deriving DecidableEq, Repr

/-- `UploadOptions`. -/
structure UploadOptions where
  contentType : Option String := none
  metadata : List (String × String) := []
  overwrite : Bool := true

/-- `DownloadOptions`. -/
structure DownloadOptions where
  offset : Option Nat := none
  length : Option Nat := none

/-- `ListOptions`. -/
structure ListOptions where
  keyPrefix : Option String := none
  continuationToken : Option String := none
  maxKeys : Nat := 1000

/-- The page that a listing makes, for a client that goes on with `next_token` while the result is
truncated. -/
def BlobListResult.page (result : BlobListResult) : List BlobMetadata × Option (Option String) :=
  (result.items, if result.isTruncated then some result.nextToken else none)

/-- The extensions that `guess_content_type` knows. -/
def extensionMap : List (String × String) :=
  [(".txt", "text/plain"), (".html", "text/html"), (".htm", "text/html"), (".css", "text/css"),
   (".csv", "text/csv"), (".xml", "text/xml"), (".md", "text/markdown"),
   (".json", "application/json"), (".js", "application/javascript"),
   (".mjs", "application/javascript"), (".pdf", "application/pdf"), (".zip", "application/zip"),
   (".gz", "application/gzip"), (".tar", "application/x-tar"), (".wasm", "application/wasm"),
   (".yaml", "application/x-yaml"), (".yml", "application/x-yaml"), (".toml", "application/toml"),
   (".bin", "application/octet-stream"),
   (".png", "image/png"), (".jpg", "image/jpeg"), (".jpeg", "image/jpeg"), (".gif", "image/gif"),
   (".svg", "image/svg+xml"), (".webp", "image/webp"), (".ico", "image/x-icon"),
   (".bmp", "image/bmp"), (".tiff", "image/tiff"), (".tif", "image/tiff"),
   (".mp3", "audio/mpeg"), (".wav", "audio/wav"), (".ogg", "audio/ogg"), (".flac", "audio/flac"),
   (".aac", "audio/aac"), (".m4a", "audio/mp4"),
   (".mp4", "video/mp4"), (".webm", "video/webm"), (".avi", "video/x-msvideo"),
   (".mov", "video/quicktime"), (".mkv", "video/x-matroska"),
   (".woff", "font/woff"), (".woff2", "font/woff2"), (".ttf", "font/ttf"), (".otf", "font/otf"),
   (".7z", "application/x-7z-compressed"), (".bz2", "application/x-bzip2"),
   (".xz", "application/x-xz"), (".rar", "application/vnd.rar")]

/-- `guess_content_type`: the text from the last dot on decides. -/
def guessContentType (key : String) : String :=
  match key.toList.reverse.span (· ≠ '.') with
  | (_, []) => "application/octet-stream"
  | (ext, dot :: _) =>
      (extensionMap.lookup (toLower (String.ofList (dot :: ext.reverse)))).getD
        "application/octet-stream"

/-- `generate_etag`: the hash in sixteen hexadecimal digits, in quotes. -/
def generateEtag (hash : List UInt8 → UInt64) (data : List UInt8) : String :=
  "\"" ++ String.ofList (List.leftpad 16 '0' (Nat.toDigits 16 (hash data).toNat)) ++ "\""

/-- `key.find(prefix) == 0`, or no prefix at all. -/
def hasPrefix (keyPrefix : Option String) (key : String) : Bool :=
  (keyPrefix.getD "").toList.isPrefixOf key.toList

end Blob
end Dbal
