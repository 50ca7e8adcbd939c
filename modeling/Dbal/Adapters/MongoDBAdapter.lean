/-
# The MongoDB adapter

`src/adapters/mongodb/mongodb_adapter.cpp`, with its result parser and its bulk operations.  The
driver and the documents that it works on are a parameter, and so is what it makes of JSON.
-/

import Dbal.Core.CompensatingTransaction

namespace Dbal
namespace Adapters

open Dbal.Core

/-- What the driver throws: an error of BSON, or another one. -/
inductive DriverError where
  | bson (what : String)
  | other (what : String)

/-- The driver's operations on the collections of a database; a document is found by its `_id`, an
object id.  An answer is empty where the server does not acknowledge what it was sent. -/
structure MongoDriver (κ : Type) where
  insertOne : String → Json → κ → Except DriverError (Option (Option String)) × κ
  findOne : String → String → κ → Option Json
  findOneAndUpdate : String → String → Json → κ → Except DriverError (Option Json) × κ
  deleteOne : String → String → κ → Except DriverError (Option Nat) × κ
  insertMany : String → List Json → κ → Except DriverError (Option Nat) × κ
  updateMany : String → Json → Json → κ → Except DriverError (Option Nat) × κ
  deleteMany : String → Json → κ → Except DriverError (Option Nat) × κ
  upsert : String → Json → Json → Json → κ → Except DriverError (Option Json) × κ

/-- The text of an object id: 24 hexadecimal digits. -/
def isObjectId (id : String) : Bool :=
  id.length = 24 && id.toList.all fun c =>
    c.isDigit || ('a' ≤ c && c ≤ 'f') || ('A' ≤ c && c ≤ 'F')

/-- The error that a `catch` makes of it. -/
def DriverError.caught : DriverError → Error
  | .bson what => .internal ("MongoDB error: " ++ what)
  | .other what => .internal what

namespace MongoDBAdapter

variable {κ : Type} (D : MongoDriver κ)

/-- What `stringToObjectId` throws. -/
def invalidId (id : String) : Error := .validationError ("Invalid ObjectId format: " ++ id)

def notFound (id : String) : Error := .notFound ("Document not found with id: " ++ id)

/-- The error that is made of a JSON error. -/
def jsonError (e : JsonError) : Error := .internal (Thrown.json e).what

/-- `read`. -/
def read (entityName id : String) (k : κ) : Result Json :=
  if isObjectId id then
    match D.findOne entityName id k with
    | none => .error (notFound id)
    | some document => .ok document
  else .error (invalidId id)

/-- `parseInsertResult`. -/
def parseInsertResult (insertedId : Option String) (originalData : Json) : Except JsonError Json :=
  match insertedId with
  | some oid => originalData.assign "_id" (.str oid)
  | none => .ok originalData

/-- The created record is noted under its own `id`, or under none. -/
def noteCreated (entityName : String) (created : Json) (s : Tracked κ) :
    Result Json × Tracked κ :=
  if s.isRecording then
    match Tracked.deletedId created with
    | .error e => (.error (jsonError e), s)
    | .ok id => (.ok created, s.recordCreate entityName id)
  else (.ok created, s)

/-- `create`. -/
def create (entityName : String) (data : Json) : Act Thrown (Tracked κ) (Result Json) := fun s =>
  match D.insertOne entityName data s.store with
  | (.error e, k) => (.ok (.error e.caught), s.withStore k)
  | (.ok none, k) =>
      (.ok (.error (.internal "MongoDB insert operation failed")), s.withStore k)
  | (.ok (some insertedId), k) =>
      match parseInsertResult insertedId data with
      | .error e => (.ok (.error (jsonError e)), s.withStore k)
      | .ok created =>
          (.ok (noteCreated entityName created (s.withStore k)).1,
            (noteCreated entityName created (s.withStore k)).2)

/-- The old document is noted before the update, where there is one. -/
def noteUpdated (entityName id : String) (s : Tracked κ) : Tracked κ :=
  if s.isRecording then
    match read D entityName id s.store with
    | .ok old => s.recordUpdate entityName id old
    | .error _ => s
  else s

/-- `update`. -/
def update (entityName id : String) (data : Json) : Act Thrown (Tracked κ) (Result Json) := fun s =>
  let noted := noteUpdated D entityName id s
  if isObjectId id then
    match D.findOneAndUpdate entityName id data s.store with
    | (.error e, k) => (.ok (.error e.caught), noted.withStore k)
    | (.ok none, k) => (.ok (.error (notFound id)), noted.withStore k)
    | (.ok (some document), k) => (.ok (.ok document), noted.withStore k)
  else (.ok (.error (invalidId id)), noted)

/-- The old document is noted before it is deleted, where there is one. -/
def noteDeleted (entityName id : String) (s : Tracked κ) : Except Thrown (Tracked κ) :=
  if s.isRecording then
    match read D entityName id s.store with
    | .ok old => s.recordDelete entityName old
    | .error _ => .ok s
  else .ok s

/-- `remove`. -/
def remove (entityName id : String) : Act Thrown (Tracked κ) (Result Bool) := fun s =>
  match noteDeleted D entityName id s with
  | .error e => (.ok (.error (.internal e.what)), s)
  | .ok noted =>
      if isObjectId id then
        match D.deleteOne entityName id s.store with
        | (.error e, k) => (.ok (.error e.caught), noted.withStore k)
        | (.ok none, k) =>
            (.ok (.error (.internal "MongoDB delete operation failed")), noted.withStore k)
        | (.ok (some 0), k) => (.ok (.error (notFound id)), noted.withStore k)
        | (.ok (some (_ + 1)), k) => (.ok (.ok true), noted.withStore k)
      else (.ok (.error (invalidId id)), noted)

/-- A bulk operation: the driver is called once, and nothing is noted. -/
def bulk (operation : κ → Except DriverError (Option Nat) × κ) (failed : String) :
    Act Thrown (Tracked κ) (Result Int) := fun s =>
  match operation s.store with
  | (.error e, k) => (.ok (.error e.caught), s.withStore k)
  | (.ok none, k) => (.ok (.error (.internal failed)), s.withStore k)
  | (.ok (some n), k) => (.ok (.ok n), s.withStore k)

/-- `createMany`. -/
def createMany (entityName : String) (records : List Json) : Act Thrown (Tracked κ) (Result Int) :=
  bulk (D.insertMany entityName records) "MongoDB insert_many operation failed"

/-- `updateMany`. -/
def updateMany (entityName : String) (filter data : Json) : Act Thrown (Tracked κ) (Result Int) :=
  bulk (D.updateMany entityName filter data) "MongoDB update_many operation failed"

/-- `deleteMany`. -/
def deleteMany (entityName : String) (filter : Json) : Act Thrown (Tracked κ) (Result Int) :=
  bulk (D.deleteMany entityName filter) "MongoDB delete_many operation failed"

/-- `upsert`. -/
def upsert (entityName uniqueField : String) (uniqueValue createData updateData : Json) :
    Act Thrown (Tracked κ) (Result Json) := fun s =>
  match D.upsert entityName (.obj [(uniqueField, uniqueValue)]) updateData createData s.store with
  | (.error e, k) => (.ok (.error e.caught), s.withStore k)
  | (.ok none, k) => (.ok (.error (.internal "MongoDB upsert operation failed")), s.withStore k)
  | (.ok (some document), k) => (.ok (.ok document), s.withStore k)

/-- The writing calls of the adapter. -/
def calls : CompensatedAdapter κ where
  create := create D
  update := update D
  remove := remove D
  upsert := upsert D
  createMany := createMany D
  updateMany := updateMany D
  deleteMany := deleteMany D

end MongoDBAdapter

end Adapters
end Dbal
