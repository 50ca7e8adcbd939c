/-
# The seed loader

`SeedLoaderAction` of `src/daemon/actions/seed_loader_action.cpp`: the documents of a seed
file are created record by record through the client.  Where a record of a bootstrap
document is already there, it is brought back to the seed, unless its fingerprint says
that the seed has not changed since it was applied.

The client is an adapter over a store `σ`, and the clock a list of readings that never
ends.  The hash and nlohmann's `dump` are parameters.
-/

import Dbal.Adapters.Adapter

namespace Dbal
namespace Daemon

/-- `SeedResult`. -/
structure SeedResult where
  entity : String := ""
  inserted : Nat := 0
  updated : Nat := 0
  skipped : Nat := 0
  failed : Nat := 0
  errors : List String := []
  deriving DecidableEq, Repr

/-- The metadata of a seed document. -/
structure SeedMetadata where
  skipIfExists : Bool := false
  bootstrap : Bool := false
  useCurrentTimestamp : Bool := false
  timestampField : String := ""
  deriving DecidableEq, Repr

/-- A store, the readings of the clock to come, and the counts of a document. -/
structure Seeding (σ : Type) where
  store : σ
  clock : Nat → Int
  result : SeedResult := {}

/-- `SeedLoaderAction`, with its client. -/
structure SeedLoaderAction (σ : Type) where
  client : Adapter σ
  dump : Json → String
  sha256Hex : String → String

namespace SeedLoaderAction

variable {σ : Type} (L : SeedLoaderAction σ)

/-- What seeding does: it may throw, and changes the store and the counts. -/
abbrev Step (σ α : Type) : Type := Act Thrown (Seeding σ) α

/-- A call of the client. -/
def call {α : Type} (act : Act Thrown σ α) : Step σ α := fun s =>
  ((act s.store).1, { s with store := (act s.store).2 })

/-- `nowMs`. -/
def nowMs : Step σ Int := fun s => (.ok (s.clock 0), { s with clock := fun n => s.clock (n + 1) })

/-- Change the counts. -/
def count (f : SeedResult → SeedResult) : Step σ Unit := fun s =>
  (.ok (), { s with result := f s.result })

def inserted (r : SeedResult) : SeedResult := { r with inserted := r.inserted + 1 }

def updated (r : SeedResult) : SeedResult := { r with updated := r.updated + 1 }

def skipped (r : SeedResult) : SeedResult := { r with skipped := r.skipped + 1 }

def failed (error : String) (r : SeedResult) : SeedResult :=
  { r with failed := r.failed + 1, errors := r.errors ++ [error] }

/-! ### Fingerprints -/

/-- `fingerprintOf`. -/
def fingerprintOf (record : Json) : String := L.sha256Hex (L.dump record)

/-- The entity of the fingerprints. -/
def fingerprints : String := "SeedFingerprint"

/-- The id of the fingerprint of a record. -/
def trackingId (entityName recordId : String) : String := entityName ++ ":" ++ recordId

/-- `bootstrapNeedsReconcile`. -/
def bootstrapNeedsReconcile (entityName recordId currentFingerprint : String) : Step σ Bool := do
  match ← call (L.client.read fingerprints (trackingId entityName recordId)) with
  | .error _ => return true
  | .ok existing =>
      let stored ← Act.ofExcept ((existing.valueString "fingerprint" "").mapError .json)
      return stored ≠ currentFingerprint

/-- `recordBootstrapFingerprint`. -/
def recordBootstrapFingerprint (entityName recordId fingerprint : String) : Step σ Unit := do
  let appliedAt ← nowMs
  let trackingRecord := Json.obj [("id", .str (trackingId entityName recordId)),
    ("entity", .str entityName), ("recordId", .str recordId), ("fingerprint", .str fingerprint),
    ("appliedAt", .int appliedAt)]
  match ← call (L.client.create fingerprints trackingRecord) with
  | .ok _ => return
  | .error e =>
      if e.code = .conflict then
        let appliedAt ← nowMs
        let _ ← call (L.client.update fingerprints (trackingId entityName recordId)
          (.obj [("fingerprint", .str fingerprint), ("appliedAt", .int appliedAt)]))

/-! ### Records -/

/-- The timestamps that every record may have. -/
def commonTsFields : List String :=
  ["createdAt", "updatedAt", "publishedAt", "installedAt", "timestamp", "lastSyncAt"]

/-- A number that equals zero. -/
def isZero : Json → Bool
  | .int i => i = 0
  | .uint n => n = 0
  | .real mantissa _ => mantissa = 0
  | _ => false

/-- A timestamp of zero becomes the current time. -/
def stamp (now : Int) (record : Json) (field : String) : Json :=
  if (record.find? field).any isZero then record.set field (.int now) else record

/-- The timestamps of a record, as `applyCurrentTimestamps` sets them. -/
def stamped (timestampField : String) (now : Int) (record : Json) : Json :=
  (timestampField :: commonTsFields).foldl (stamp now) record

/-- `applyCurrentTimestamps`: without a field of its own it does nothing. -/
def applyCurrentTimestamps (record : Json) (timestampField : String) : Step σ Json :=
  if timestampField = "" then pure record
  else do
    let now ← nowMs
    return stamped timestampField now record

/-- The id under which a record of a bootstrap document is tracked. -/
def bootstrapId (bootstrap : Bool) (record : Json) : Option String :=
  match bootstrap, record.find? "id" with
  | true, some (.str id) => some id
  | _, _ => none

/-- `id_str`. -/
def idStr (record : Json) : String :=
  match record.find? "id" with
  | some id => L.dump id
  | none => "unknown"

/-- A record that is there already. -/
def reconcile (entityName : String) (metadata : SeedMetadata) (record : Json) : Step σ Unit := do
  match bootstrapId metadata.bootstrap record with
  | none => count skipped
  | some recordId =>
      if ← L.bootstrapNeedsReconcile entityName recordId (L.fingerprintOf record) then
        match ← call (L.client.update entityName recordId record) with
        | .ok _ =>
            count updated
            L.recordBootstrapFingerprint entityName recordId (L.fingerprintOf record)
        | .error e =>
            count (failed ("Failed to reconcile bootstrap " ++ entityName ++ " id=" ++
              L.idStr record ++ ": " ++ e.message))
      else count skipped

/-- A record with its timestamps set. -/
def createRecord (entityName : String) (metadata : SeedMetadata) (record : Json) : Step σ Unit := do
  match ← call (L.client.create entityName record) with
  | .ok _ =>
      count inserted
      match bootstrapId metadata.bootstrap record with
      | some recordId =>
          L.recordBootstrapFingerprint entityName recordId (L.fingerprintOf record)
      | none => return
  | .error e =>
      if e.code = .conflict then L.reconcile entityName metadata record
      else
        count (failed ("Failed to create " ++ entityName ++ " id=" ++ L.idStr record ++ ": " ++
          e.message))

/-- The body of the loop over the records. -/
def seedRecord (entityName : String) (metadata : SeedMetadata) (recordNode : Json) : Step σ Unit := do
  let record ←
    if metadata.useCurrentTimestamp then applyCurrentTimestamps recordNode metadata.timestampField
    else pure recordNode
  L.createRecord entityName metadata record

/-- The same between `try` and `catch`. -/
def trySeedRecord (entityName : String) (metadata : SeedMetadata) (recordNode : Json)
    (s : Seeding σ) : Seeding σ :=
  match L.seedRecord entityName metadata recordNode s with
  | (.ok _, s) => s
  | (.error e, s) =>
      { s with result := failed ("Exception processing record: " ++ e.what) s.result }

/-- The loop over the records. -/
def seedRecords (entityName : String) (metadata : SeedMetadata) (records : List Json)
    (s : Seeding σ) : Seeding σ :=
  records.foldl (fun s record => L.trySeedRecord entityName metadata record s) s

/-! ### Documents -/

/-- The name of a document: `entity`, then `displayName`, then `name`. -/
def documentName (doc : Json) : Except JsonError (Option String) :=
  ((doc.find? "entity").or ((doc.find? "displayName").or (doc.find? "name"))).mapM Json.getString

/-- The metadata of a document. -/
def metadataOf (doc : Json) : Except JsonError SeedMetadata := do
  match doc.find? "metadata" with
  | none => return {}
  | some metadata =>
      let skipIfExists ← metadata.valueBool "skipIfExists" false
      let bootstrap ← metadata.valueBool "bootstrap" false
      let useCurrentTimestamp ← metadata.valueBool "useCurrentTimestamp" false
      let timestampField ← metadata.valueString "timestampField" ""
      return { skipIfExists, bootstrap, useCurrentTimestamp, timestampField }

/-- `size()`. -/
def size : Json → Nat
  | .null => 0
  | .arr elements => elements.length
  | .obj members => (Json.obj members).fields.size
  | _ => 1

/-- There are records, and nobody asked to seed them again. -/
def alreadySeeded (entityName : String) (metadata : SeedMetadata) (force : Bool) : Step σ Bool := do
  if metadata.skipIfExists && !force && !metadata.bootstrap then
    match ← call (L.client.list entityName { limit := 1 }) with
    | .ok found => return found.items ≠ []
    | .error _ => return false
  else return false

/-- One document; one without a name has no result. -/
def loadDocument (force : Bool) (doc : Json) : Step σ (Option SeedResult) := do
  match ← Act.ofExcept ((documentName doc).mapError .json) with
  | none => return none
  | some entityName =>
      count fun _ => { entity := entityName }
      let metadata ← Act.ofExcept ((metadataOf doc).mapError .json)
      if ← L.alreadySeeded entityName metadata force then
        return some { entity := entityName, skipped := ((doc.find? "records").map size).getD 0 }
      else
        match doc.find? "records" with
        | some (.arr records) => fun s =>
            let s := L.seedRecords entityName metadata records s
            (.ok (some s.result), s)
        | _ => return some { entity := entityName }

/-- The documents of a file; what is thrown between the records ends it. -/
def loadDocuments (force : Bool) (fileName : String) :
    List Json → Seeding σ → List SeedResult × Seeding σ
  | [], s => ([], s)
  | doc :: docs, s =>
      if doc.isObject then
        match L.loadDocument force doc s with
        | (.error e, s) =>
            ([{ entity := fileName, failed := 1, errors := ["Error: " ++ e.what] }], s)
        | (.ok result, s) =>
            let (results, s) := loadDocuments force fileName docs s
            (result.toList ++ results, s)
      else loadDocuments force fileName docs s

/-- `loadSeedFile` on a file that was read. -/
def loadSeedFile (force : Bool) (fileName : String) (root : Json) (clock : Nat → Int)
    (store : σ) : List SeedResult × σ :=
  let docs := match root with
    | .arr docs => docs
    | .obj members => [.obj members]
    | _ => []
  let (results, s) := L.loadDocuments force fileName docs { store, clock }
  (results, s.store)

end SeedLoaderAction
end Daemon
end Dbal
