/-
# The routes of the blobs

`src/daemon/handlers/blob_route_handler.cpp` over the store in memory, which the daemon takes unless it
is told otherwise: one store for all tenants, with the tenant and the package in front of every key.

The requests of one tenant and package are answered as if nobody else used the store
(`blob_scopes_apart`).  `_stats` is left out of this: it counts the blobs of all.
-/

import Dbal.Blob.BlobListing
import Dbal.Blob.S3List
import Dbal.Codec.Search
import Dbal.Json
import Dbal.Store.Noninterference
import Dbal.Store.UniqueIndex

namespace Dbal
namespace Blob

/-! ### Requests and answers -/

/-- A segment of a route. -/
structure Segment where
  text : String
  no_slash : '/' ∉ text.toList
  deriving DecidableEq

/-- A tenant and a package. -/
structure Scope where
  tenant : Segment
  package : Segment
  deriving DecidableEq

/-- The methods of the routes of a single blob. -/
inductive BlobMethod where
  | put | get | delete | head | options
  deriving DecidableEq, Repr

/-- The headers that an upload reads, empty where there are none. -/
structure UploadHeaders where
  contentType : String := ""
  overwrite : String := ""
  metadata : String := ""

/-- A request to one of the routes, with its parameters. -/
inductive BlobRoute where
  | list (keyPrefix continuationToken maxKeys : Option String)
  | stats
  | withKey (method : BlobMethod) (key : String) (headers : UploadHeaders) (body : List UInt8)
  | action (key action : String) (body : String)

structure BlobRequest where
  scope : Scope
  route : BlobRoute
  /-- What the clock shows. -/
  now : Int

/-- What a request is answered with. -/
inductive BlobResponse where
  | json (status : Nat) (body : Json)
  | blob (contentType : String) (data : List UInt8)
  | head (contentType : String) (headers : List (String × String))
  | status (status : Nat)
  deriving Repr

/-- What the handlers take from their libraries. -/
structure BlobLibraries where
  hash : List UInt8 → UInt64
  /-- `%Y-%m-%dT%H:%M:%SZ`. -/
  isoTime : Int → String
  /-- `%a, %d %b %Y %H:%M:%S GMT`. -/
  httpDate : Int → String
  parse : String → Option Json
  formatReal : Int → Int → String
  writeString : Json → String

/-! ### Keys and errors -/

/-- What stands in front of the keys of a scope. -/
def Scope.keyPrefix (scope : Scope) : String := scope.tenant.text ++ "/" ++ scope.package.text ++ "/"

/-- `buildStorageKey`. -/
def buildStorageKey (scope : Scope) (key : String) : String := scope.keyPrefix ++ key

/-- `stripKeyPrefix`. -/
def stripKeyPrefix (scope : Scope) (storageKey : String) : String :=
  if scope.keyPrefix.length < storageKey.length ∧
      scope.keyPrefix.toList.isPrefixOf storageKey.toList then
    String.ofList (storageKey.toList.drop scope.keyPrefix.length)
  else storageKey

/-- `errorToHttpStatus`. -/
def errorToHttpStatus : ErrorCode → Nat
  | .notFound => 404
  | .conflict => 409
  | .unauthorized => 401
  | .forbidden => 403
  | .validationError => 422
  | .rateLimitExceeded => 429
  | .capabilityNotSupported => 501
  | .timeout => 504
  | .databaseError => 503
  | _ => 500

/-- The code that an error is told by. -/
def errorText : ErrorCode → String
  | .notFound => "NOT_FOUND"
  | .conflict => "CONFLICT"
  | .unauthorized => "UNAUTHORIZED"
  | .forbidden => "FORBIDDEN"
  | .validationError => "VALIDATION_ERROR"
  | .rateLimitExceeded => "RATE_LIMITED"
  | .capabilityNotSupported => "NOT_SUPPORTED"
  | .timeout => "TIMEOUT"
  | .databaseError => "DATABASE_ERROR"
  | _ => "INTERNAL_ERROR"

/-- `sendBlobError`. -/
def sendBlobError (code message : String) (status : Nat) : BlobResponse :=
  .json status (.obj [("error", .obj [("code", .str code), ("message", .str message)])])

/-- `sendBlobError`, of an error. -/
def sendError (e : Error) : BlobResponse :=
  sendBlobError (errorText e.code) e.message (errorToHttpStatus e.code)

/-- What an exception comes to. -/
def internalError : BlobResponse := sendBlobError "INTERNAL_ERROR" "Internal server error" 500

section Handlers

variable (libraries : BlobLibraries)

/-- The members of a map of texts. -/
def textMembers (texts : List (String × String)) : Json :=
  .obj (texts.map fun entry => (entry.1, .str entry.2))

/-- `metadataToJson`. -/
def metadataToJson (scope : Scope) (blob : BlobMetadata) : Json :=
  let json := Json.obj [("key", .str (stripKeyPrefix scope blob.key)), ("size", .uint blob.size),
    ("contentType", .str blob.contentType), ("etag", .str blob.etag),
    ("lastModified", .str (libraries.isoTime blob.lastModified))]
  if blob.customMetadata ≠ [] then json.set "customMetadata" (textMembers blob.customMetadata)
  else json

/-! ### The handlers -/

/-- The options of a listing, with the prefix of the scope. -/
def scopedOptions (scope : Scope) (keyPrefix continuationToken maxKeys : Option String) :
    ListOptions where
  keyPrefix := some (scope.keyPrefix ++ keyPrefix.getD "")
  continuationToken := continuationToken
  maxKeys := ((maxKeys.map String.toList).bind S3.stoull).getD 1000

/-- `handleBlobList`. -/
def handleBlobList (scope : Scope) (options : ListOptions) (store : MemoryStore) : BlobResponse :=
  let result := memoryList store options
  .json 200 (.obj [("items", .arr (result.items.map (metadataToJson libraries scope))),
    ("isTruncated", .bool result.isTruncated),
    ("nextToken", (result.nextToken.map Json.str).getD .null)])

/-- `handleBlobStats`. -/
def handleBlobStats (store : MemoryStore) : BlobResponse :=
  .json 200 (.obj [("totalSize", .uint (memoryTotalSize store)),
    ("totalSizeBytes", .uint (memoryTotalSize store)),
    ("objectCount", .uint (memoryObjectCount store)), ("count", .uint (memoryObjectCount store))])

/-- The custom metadata of an upload; a header that is no JSON is passed over. -/
def customMetadata (header : String) : Except JsonError (List (String × String)) :=
  match if header = "" then none else libraries.parse header with
  | none | some .null => .ok []
  | some (.obj members) =>
      (Json.obj members).fields.toList.mapM fun member =>
        (member.2.asString libraries.formatReal).map fun text => (member.1, text)
  | some _ => .error .logicError

/-- The options of an upload. -/
def uploadOptions (headers : UploadHeaders) (metadata : List (String × String)) : UploadOptions where
  contentType := some (if headers.contentType ≠ "" then headers.contentType
    else "application/octet-stream")
  metadata := metadata
  overwrite := headers.overwrite = "" ∨ headers.overwrite = "true" ∨ headers.overwrite = "1"

/-- `handleUpload`. -/
def handleUpload (scope : Scope) (now : Int) (key : String) (headers : UploadHeaders)
    (body : List UInt8) (store : MemoryStore) : BlobResponse × MemoryStore :=
  match customMetadata libraries headers.metadata with
  | .error _ => (internalError, store)
  | .ok metadata =>
      let stored := memoryUpload libraries.hash now (buildStorageKey scope key) body
        (uploadOptions headers metadata) store
      match stored.1 with
      | .error e => (sendError e, stored.2)
      | .ok blob => (.json 201 (metadataToJson libraries scope blob), stored.2)

/-- `handleDownload`. -/
def handleDownload (scope : Scope) (key : String) (store : MemoryStore) : BlobResponse :=
  let contentType :=
    match memoryGetMetadata (buildStorageKey scope key) store with
    | .ok blob => blob.contentType
    | .error _ => "application/octet-stream"
  match memoryDownload (buildStorageKey scope key) {} store with
  | .error e => sendError e
  | .ok data => .blob contentType data

/-- `handleDelete`. -/
def handleDelete (scope : Scope) (key : String) (store : MemoryStore) :
    BlobResponse × MemoryStore :=
  let deleted := memoryDelete (buildStorageKey scope key) store
  match deleted.1 with
  | .error e => (sendError e, deleted.2)
  | .ok _ => (.json 200 (.obj [("success", .bool true), ("deleted", .bool true)]), deleted.2)

/-- `handleHead`. -/
def handleHead (scope : Scope) (key : String) (store : MemoryStore) : BlobResponse :=
  match memoryGetMetadata (buildStorageKey scope key) store with
  | .error e => .status (errorToHttpStatus e.code)
  | .ok blob =>
      .head blob.contentType ([("Content-Length", toString blob.size), ("ETag", blob.etag),
        ("Last-Modified", libraries.httpDate blob.lastModified)] ++
        if blob.customMetadata ≠ [] then
          [("X-Blob-Metadata", libraries.writeString (textMembers blob.customMetadata))]
        else [])

/-- `handlePresign`: the store in memory presigns with an empty text. -/
def handlePresign : BlobResponse :=
  .json 200 (.obj [("url", .str ""), ("presignedUrl", .str "")])

/-- The `destKey` of a copy, or how the request is refused. -/
def destKey (body : String) : Except BlobResponse String :=
  match libraries.parse body with
  | none => .error (sendBlobError "VALIDATION_ERROR" "Invalid JSON body" 422)
  | some json =>
      match json.isMember "destKey", json.find? "destKey" with
      | .error _, _ => .error internalError
      | .ok true, some (.str key) =>
          if key = "" then
            .error (sendBlobError "VALIDATION_ERROR" "destKey must not be empty" 422)
          else .ok key
      | .ok _, _ =>
          .error (sendBlobError "VALIDATION_ERROR" "Missing required field: destKey" 422)

/-- `handleCopy`. -/
def handleCopy (scope : Scope) (now : Int) (key body : String) (store : MemoryStore) :
    BlobResponse × MemoryStore :=
  match destKey libraries body with
  | .error response => (response, store)
  | .ok dest =>
      let copied := memoryCopy now (buildStorageKey scope key) (buildStorageKey scope dest) store
      match copied.1 with
      | .error e => (sendError e, copied.2)
      | .ok blob => (.json 200 (metadataToJson libraries scope blob), copied.2)

/-- `handleBlobWithKey`. -/
def handleBlobWithKey (scope : Scope) (now : Int) (method : BlobMethod) (key : String)
    (headers : UploadHeaders) (body : List UInt8) (store : MemoryStore) :
    BlobResponse × MemoryStore :=
  match method with
  | .put => handleUpload libraries scope now key headers body store
  | .get => (handleDownload scope key store, store)
  | .delete => handleDelete scope key store
  | .head => (handleHead libraries scope key store, store)
  | .options => (sendBlobError "METHOD_NOT_ALLOWED" "Method not allowed" 405, store)

/-- `handleBlobAction`. -/
def handleBlobAction (scope : Scope) (now : Int) (key action body : String) (store : MemoryStore) :
    BlobResponse × MemoryStore :=
  if action = "presign" then (handlePresign, store)
  else if action = "copy" then handleCopy libraries scope now key body store
  else (sendBlobError "NOT_FOUND" ("Unknown blob action: " ++ action) 404, store)

/-- The handler of a request. -/
def handleBlob (request : BlobRequest) (store : MemoryStore) : BlobResponse × MemoryStore :=
  match request.route with
  | .list keyPrefix continuationToken maxKeys =>
      (handleBlobList libraries request.scope
        (scopedOptions request.scope keyPrefix continuationToken maxKeys) store, store)
  | .stats => (handleBlobStats store, store)
  | .withKey method key headers body =>
      handleBlobWithKey libraries request.scope request.now method key headers body store
  | .action key action body =>
      handleBlobAction libraries request.scope request.now key action body store

end Handlers

/-! ### Keys of a scope -/

/-- The key is one of the scope's. -/
def Scope.Holds (scope : Scope) (key : String) : Prop := scope.keyPrefix.toList <+: key.toList

theorem holds_buildStorageKey (scope : Scope) (key : String) :
    scope.Holds (buildStorageKey scope key) := by
  rw [Scope.Holds, buildStorageKey, String.toList_append]
  exact List.prefix_append _ _

/-- **No key belongs to two scopes.** -/
theorem eq_of_holds {scope scope' : Scope} {key : String}
    (h : scope.Holds (buildStorageKey scope' key)) : scope = scope' := by
  obtain ⟨rest, hrest⟩ := h
  simp only [buildStorageKey, Scope.keyPrefix, String.toList_append, List.append_assoc] at hrest
  obtain ⟨htenant, hbehind⟩ :=
    Codec.append_cons_inj scope.tenant.no_slash scope'.tenant.no_slash hrest
  obtain ⟨hpackage, -⟩ :=
    Codec.append_cons_inj scope.package.no_slash scope'.package.no_slash hbehind
  obtain ⟨⟨tenant, _⟩, ⟨package, _⟩⟩ := scope
  obtain ⟨⟨tenant', _⟩, ⟨package', _⟩⟩ := scope'
  obtain rfl := String.toList_inj.1 htenant
  obtain rfl := String.toList_inj.1 hpackage
  rfl

/-! ### Stores that are the same to a scope -/

/-- Two stores hold the same under a scope. -/
def SameUnder (scope : Scope) (store store' : MemoryStore) : Prop :=
  ∀ key, scope.Holds key → store[key]? = store'[key]?

section SameUnder

variable {scope : Scope} {store store' : MemoryStore} {key : String}

theorem SameUnder.insert (h : SameUnder scope store store') (key : String) (blob : BlobData) :
    SameUnder scope (store.insert key blob) (store'.insert key blob) := by
  intro key' hkey'
  rw [getElem?_insert_eq, getElem?_insert_eq, h key' hkey']

theorem SameUnder.erase (h : SameUnder scope store store') (key : String) :
    SameUnder scope (store.erase key) (store'.erase key) := by
  intro key' hkey'
  rw [getElem?_erase_eq, getElem?_erase_eq, h key' hkey']

theorem SameUnder.insert_other (h : SameUnder scope store store') (hkey : ¬ scope.Holds key)
    (blob : BlobData) : SameUnder scope (store.insert key blob) store' := by
  intro key' hkey'
  have hne : key ≠ key' := fun heq => hkey (heq ▸ hkey')
  rw [getElem?_insert_eq, if_neg hne, h key' hkey']

theorem SameUnder.erase_other (h : SameUnder scope store store') (hkey : ¬ scope.Holds key) :
    SameUnder scope (store.erase key) store' := by
  intro key' hkey'
  have hne : key ≠ key' := fun heq => hkey (heq ▸ hkey')
  rw [getElem?_erase_eq, if_neg hne, h key' hkey']

/-- The blobs that a listing of the scope goes by. -/
theorem SameUnder.matching (h : SameUnder scope store store') (more : String) :
    store.toList.filter (fun blob => hasPrefix (some (scope.keyPrefix ++ more)) blob.1) =
      store'.toList.filter fun blob => hasPrefix (some (scope.keyPrefix ++ more)) blob.1 := by
  rw [← Std.TreeMap.toList_filter (f := fun key _ => hasPrefix (some (scope.keyPrefix ++ more)) key),
    ← Std.TreeMap.toList_filter (f := fun key _ => hasPrefix (some (scope.keyPrefix ++ more)) key)]
  refine Std.TreeMap.Equiv.toList_eq (Std.TreeMap.Equiv.of_forall_constGet?_eq fun key => ?_)
  rw [Std.TreeMap.getElem?_filter', Std.TreeMap.getElem?_filter']
  by_cases hmore : hasPrefix (some (scope.keyPrefix ++ more)) key = true
  · have hholds : scope.Holds key := by
      rw [hasPrefix, Option.getD_some, List.isPrefixOf_iff_prefix, String.toList_append] at hmore
      exact (List.prefix_append _ _).trans hmore
    rw [h key hholds]
  · simp [hmore]

/-! ### The operations -/

theorem SameUnder.upload (h : SameUnder scope store store') (hkey : scope.Holds key)
    (hash : List UInt8 → UInt64) (now : Int) (data : List UInt8) (options : UploadOptions) :
    (memoryUpload hash now key data options store).1 =
        (memoryUpload hash now key data options store').1 ∧
      SameUnder scope (memoryUpload hash now key data options store).2
        (memoryUpload hash now key data options store').2 := by
  unfold memoryUpload
  rw [h key hkey]
  split_ifs
  · exact ⟨rfl, h⟩
  · exact ⟨rfl, h.insert key _⟩

theorem SameUnder.upload_other (h : SameUnder scope store store') (hkey : ¬ scope.Holds key)
    (hash : List UInt8 → UInt64) (now : Int) (data : List UInt8) (options : UploadOptions) :
    SameUnder scope (memoryUpload hash now key data options store).2 store' := by
  unfold memoryUpload
  split_ifs
  · exact h
  · exact h.insert_other hkey _

theorem SameUnder.delete (h : SameUnder scope store store') (hkey : scope.Holds key) :
    (memoryDelete key store).1 = (memoryDelete key store').1 ∧
      SameUnder scope (memoryDelete key store).2 (memoryDelete key store').2 := by
  unfold memoryDelete
  rw [h key hkey]
  split
  · exact ⟨rfl, h⟩
  · exact ⟨rfl, h.erase key⟩

theorem SameUnder.delete_other (h : SameUnder scope store store') (hkey : ¬ scope.Holds key) :
    SameUnder scope (memoryDelete key store).2 store' := by
  unfold memoryDelete
  split
  · exact h
  · exact h.erase_other hkey

theorem SameUnder.copy (h : SameUnder scope store store') (hkey : scope.Holds key) (now : Int)
    (dest : String) :
    (memoryCopy now key dest store).1 = (memoryCopy now key dest store').1 ∧
      SameUnder scope (memoryCopy now key dest store).2 (memoryCopy now key dest store').2 := by
  unfold memoryCopy
  rw [h key hkey]
  split
  · exact ⟨rfl, h⟩
  · exact ⟨rfl, h.insert dest _⟩

theorem SameUnder.copy_other (h : SameUnder scope store store') {dest : String}
    (hdest : ¬ scope.Holds dest) (now : Int) :
    SameUnder scope (memoryCopy now key dest store).2 store' := by
  unfold memoryCopy
  split
  · exact h
  · exact h.insert_other hdest _

theorem SameUnder.getMetadata (h : SameUnder scope store store') (hkey : scope.Holds key) :
    memoryGetMetadata key store = memoryGetMetadata key store' := by
  rw [memoryGetMetadata, memoryGetMetadata, h key hkey]

theorem SameUnder.download (h : SameUnder scope store store') (hkey : scope.Holds key)
    (options : DownloadOptions) :
    memoryDownload key options store = memoryDownload key options store' := by
  rw [memoryDownload, memoryDownload, h key hkey]

theorem SameUnder.list (h : SameUnder scope store store')
    (keyPrefix continuationToken maxKeys : Option String) :
    memoryList store (scopedOptions scope keyPrefix continuationToken maxKeys) =
      memoryList store' (scopedOptions scope keyPrefix continuationToken maxKeys) := by
  rw [memoryList_eq, memoryList_eq, scopedOptions, h.matching (keyPrefix.getD "")]

end SameUnder

/-! ### The requests of a scope -/

section Requests

variable {libraries : BlobLibraries} {scope : Scope} {store store' : MemoryStore}

def BlobRoute.isStats : BlobRoute → Bool
  | stats => true
  | _ => false

/-- A request of the scope that is not for the statistics. -/
def BlobRequest.isOwn (scope : Scope) (request : BlobRequest) : Bool :=
  request.scope = scope ∧ request.route.isStats = false

theorem SameUnder.handleUpload (h : SameUnder scope store store') (now : Int) (key : String)
    (headers : UploadHeaders) (body : List UInt8) :
    (Blob.handleUpload libraries scope now key headers body store).1 =
        (Blob.handleUpload libraries scope now key headers body store').1 ∧
      SameUnder scope (Blob.handleUpload libraries scope now key headers body store).2
        (Blob.handleUpload libraries scope now key headers body store').2 := by
  unfold Blob.handleUpload
  rcases customMetadata libraries headers.metadata with e | metadata
  · exact ⟨rfl, h⟩
  obtain ⟨hanswer, hstate⟩ := h.upload (holds_buildStorageKey scope key) libraries.hash now body
    (uploadOptions headers metadata)
  dsimp only
  rw [hanswer]
  split
  · exact ⟨rfl, hstate⟩
  · exact ⟨rfl, hstate⟩

theorem SameUnder.handleDownload (h : SameUnder scope store store') (key : String) :
    Blob.handleDownload scope key store = Blob.handleDownload scope key store' := by
  unfold Blob.handleDownload
  rw [h.getMetadata (holds_buildStorageKey scope key),
    h.download (holds_buildStorageKey scope key)]

theorem SameUnder.handleDelete (h : SameUnder scope store store') (key : String) :
    (Blob.handleDelete scope key store).1 = (Blob.handleDelete scope key store').1 ∧
      SameUnder scope (Blob.handleDelete scope key store).2
        (Blob.handleDelete scope key store').2 := by
  unfold Blob.handleDelete
  obtain ⟨hanswer, hstate⟩ := h.delete (holds_buildStorageKey scope key)
  dsimp only
  rw [hanswer]
  split
  · exact ⟨rfl, hstate⟩
  · exact ⟨rfl, hstate⟩

theorem SameUnder.handleCopy (h : SameUnder scope store store') (now : Int) (key body : String) :
    (Blob.handleCopy libraries scope now key body store).1 =
        (Blob.handleCopy libraries scope now key body store').1 ∧
      SameUnder scope (Blob.handleCopy libraries scope now key body store).2
        (Blob.handleCopy libraries scope now key body store').2 := by
  unfold Blob.handleCopy
  rcases destKey libraries body with response | dest
  · exact ⟨rfl, h⟩
  obtain ⟨hanswer, hstate⟩ := h.copy (holds_buildStorageKey scope key) now
    (buildStorageKey scope dest)
  dsimp only
  rw [hanswer]
  split
  · exact ⟨rfl, hstate⟩
  · exact ⟨rfl, hstate⟩

/-- A request of the scope goes by what the store holds under the scope. -/
theorem handleBlob_own {request : BlobRequest} (hown : request.isOwn scope = true)
    (h : SameUnder scope store store') :
    (handleBlob libraries request store).1 = (handleBlob libraries request store').1 ∧
      SameUnder scope (handleBlob libraries request store).2
        (handleBlob libraries request store').2 := by
  obtain ⟨requested, route, now⟩ := request
  obtain ⟨hscope, hroute⟩ := of_decide_eq_true hown
  obtain rfl : requested = scope := hscope
  unfold handleBlob
  cases route with
  | list keyPrefix continuationToken maxKeys =>
      dsimp only
      rw [handleBlobList, handleBlobList, h.list keyPrefix continuationToken maxKeys]
      exact ⟨rfl, h⟩
  | stats => cases hroute
  | withKey method key headers body =>
      cases method with
      | put => exact h.handleUpload now key headers body
      | get => exact ⟨h.handleDownload key, h⟩
      | delete => exact h.handleDelete key
      | head =>
          refine ⟨?_, h⟩
          show handleHead libraries requested key store = handleHead libraries requested key store'
          rw [handleHead, handleHead, h.getMetadata (holds_buildStorageKey requested key)]
      | options => exact ⟨rfl, h⟩
  | action key action body =>
      dsimp only
      unfold handleBlobAction
      split_ifs
      · exact ⟨rfl, h⟩
      · exact h.handleCopy now key body
      · exact ⟨rfl, h⟩

/-- What another request does is the same to the scope. -/
theorem handleBlob_other {request : BlobRequest} (hother : request.isOwn scope = false)
    (h : SameUnder scope store store') :
    SameUnder scope (handleBlob libraries request store).2 store' := by
  obtain ⟨requested, route, now⟩ := request
  have hnot := of_decide_eq_false hother
  have hkey (key : String) (hroute : route.isStats = false) :
      ¬ scope.Holds (buildStorageKey requested key) := fun hholds =>
    hnot ⟨(eq_of_holds hholds).symm, hroute⟩
  unfold handleBlob
  cases route with
  | list => exact h
  | stats => exact h
  | withKey method key headers body =>
      have hholds := hkey key rfl
      cases method with
      | put =>
          show SameUnder scope (Blob.handleUpload libraries requested now key headers body store).2 store'
          unfold Blob.handleUpload
          rcases customMetadata libraries headers.metadata with e | metadata
          · exact h
          · dsimp only
            split <;> exact h.upload_other hholds _ _ _ _
      | delete =>
          show SameUnder scope (Blob.handleDelete requested key store).2 store'
          unfold Blob.handleDelete
          dsimp only
          split <;> exact h.delete_other hholds
      | get | head | options => exact h
  | action key action body =>
      dsimp only
      unfold handleBlobAction
      split_ifs
      · exact h
      · unfold Blob.handleCopy
        rcases destKey libraries body with response | dest
        · exact h
        · dsimp only
          split <;> exact h.copy_other (hkey dest rfl) now
      · exact h

/-- **A scope has the store to itself.**  In every run from every store, its requests are answered as if
no others came and the store held nothing but its blobs. -/
theorem blob_scopes_apart (libraries : BlobLibraries) (scope : Scope) (requests : List BlobRequest)
    (store : MemoryStore) :
    ownAnswers (handleBlob libraries) (BlobRequest.isOwn scope) requests store =
      answersTo (handleBlob libraries) (requests.filter (BlobRequest.isOwn scope))
        (store.filter fun key _ => scope.keyPrefix.toList.isPrefixOf key.toList) := by
  have hunnoticed :
      Unnoticed (handleBlob libraries) (BlobRequest.isOwn scope) (SameUnder scope) := {
    others := handleBlob_other
    answer := fun hown h => (handleBlob_own hown h).1
    step := fun hown h => (handleBlob_own hown h).2 }
  refine hunnoticed.ownAnswers_eq (fun key hkey => ?_) requests
  rw [Std.TreeMap.getElem?_filter']
  cases store[key]? with
  | none => rfl
  | some blob => exact (if_pos (List.isPrefixOf_iff_prefix.2 hkey)).symm

end Requests

end Blob
end Dbal
