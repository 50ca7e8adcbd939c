/-
# The Redis adapter

`src/adapters/redis`: records are JSON texts under `<entity>:<id>`, the ids of an entity a set under
`<entity>:all`, and its last generated id a counter under `<entity>:id_counter`.  The keys of Redis
are plain texts, so that one record may stand where another one's set is.

The commands never fail for reasons of the network here; they refuse a value of the wrong kind, as
Redis does.
-/

import Mathlib.Logic.Function.Basic
import Dbal.Core.CompensatingTransaction

namespace Dbal
namespace Adapters

open Dbal.Core

/-! ### Commands -/

/-- A value of Redis, as far as the adapter uses them. -/
inductive RedisValue where
  | string (text : String)
  | set (members : List String)
  deriving DecidableEq, Repr

/-- The keys of a Redis database. -/
abbrev Keyspace := String → Option RedisValue

namespace Keyspace

variable (k : Keyspace)

def wrongType : Error :=
  ⟨.internalError, "WRONGTYPE Operation against a key holding the wrong kind of value"⟩

/-- `SET`. -/
def set (key value : String) : Keyspace := Function.update k key (some (.string value))

/-- `GET`. -/
def get (key : String) : Result (Option String) :=
  match k key with
  | none => .ok none
  | some (.string value) => .ok (some value)
  | some (.set _) => .error wrongType

/-- `DEL`. -/
def del (key : String) : Nat × Keyspace :=
  (if (k key).isSome then 1 else 0, Function.update k key none)

/-- `SADD`; what it refuses stays as it is. -/
def sadd (key member : String) : Keyspace :=
  match k key with
  | none => Function.update k key (some (.set [member]))
  | some (.set members) => Function.update k key (some (.set (members.insert member)))
  | some (.string _) => k

/-- `SREM`; a set without members is no key. -/
def srem (key member : String) : Keyspace :=
  match k key with
  | some (.set members) =>
      let rest := members.erase member
      Function.update k key (if rest = [] then none else some (.set rest))
  | _ => k

/-- `SMEMBERS`. -/
def smembers (key : String) : Result (List String) :=
  match k key with
  | none => .ok []
  | some (.set members) => .ok members
  | some (.string _) => .error wrongType

/-- `INCR`. -/
def incr (key : String) : Result Int × Keyspace :=
  match k key with
  | none => (.ok 1, k.set key "1")
  | some (.string value) =>
      match value.toInt? with
      | some n =>
          if n < 9223372036854775807 then (.ok (n + 1), k.set key (toString (n + 1)))
          else (.error ⟨.internalError, "ERR increment or decrement would overflow"⟩, k)
      | none => (.error ⟨.internalError, "ERR value is not an integer or out of range"⟩, k)
  | some (.set _) => (.error wrongType, k)

end Keyspace

/-! ### Keys and records -/

namespace RedisKeyBuilder

def makeKey (entityName id : String) : String := entityName ++ ":" ++ id

def makeSetKey (entityName : String) : String := entityName ++ ":all"

def makeCounterKey (entityName : String) : String := entityName ++ ":id_counter"

end RedisKeyBuilder

open RedisKeyBuilder

/-- `RedisAdapter`: its schemas, the JSON library, and the order in which the members of a set are
visited. -/
structure RedisAdapter where
  schemas : String → Option EntityDefinition
  dump : Json → String
  parse : String → Except String Json
  visit : List String → List String

/-- The members of `data` written into a record, as `record[it.key()] = it.value()` does it. -/
def mergeInto (record data : Json) : Except Thrown Json :=
  match data with
  | .null | .arr [] => .ok record
  | .obj members =>
      (Json.obj members).fields.toList.foldlM
        (fun merged field => (merged.assign field.1 field.2).mapError .json) record
  | _ => .error (.adapter
      "[json.exception.invalid_iterator.207] cannot use key() for non-object iterators")

/-- The members that are written into an object stand behind its own. -/
theorem mergeInto_obj (members more : List (String × Json)) :
    mergeInto (.obj members) (.obj more) =
      .ok (.obj (members ++ (Json.obj more).fields.toList)) := by
  have hfold : ∀ l members : List (String × Json), l.foldlM
      (fun merged field => (Json.assign merged field.1 field.2).mapError Thrown.json)
      (.obj members) = .ok (.obj (members ++ l)) := by
    intro l
    induction l with
    | nil => exact fun members => by rw [List.append_nil]; rfl
    | cons field l ih =>
        intro members
        have hstep := ih (members ++ [field])
        rw [List.append_assoc] at hstep
        exact hstep
  exact hfold _ members

/-- `record["id"].get<std::string>()`. -/
def recordId (record : Json) : Except JsonError String :=
  match record with
  | .obj _ => ((record.find? "id").getD .null).getString
  | _ => .error .typeError305

namespace RedisAdapter

variable (A : RedisAdapter)

def schemaMissing (entityName : String) : Error :=
  .notFound ("Entity schema not found: " ++ entityName)

def recordMissing (entityName id : String) : Error :=
  .notFound (entityName ++ " with id " ++ id ++ " not found")

/-- `RedisValueSerializer::deserialize`. -/
def deserialize (value : String) : Result Json :=
  (A.parse value).mapError fun what => .internal ("Failed to parse JSON: " ++ what)

/-- `read`. -/
def read (entityName id : String) (k : Keyspace) : Result Json :=
  if (A.schemas entityName).isNone then .error (schemaMissing entityName)
  else
    match k.get (makeKey entityName id) with
    | .error e => .error e
    | .ok none => .error (recordMissing entityName id)
    | .ok (some value) => A.deserialize value

/-- `generateId`. -/
def generateId (entityName : String) (k : Keyspace) : String × Keyspace :=
  match k.incr (makeCounterKey entityName) with
  | (.ok n, k') => (toString n, k')
  | (.error _, k') => ("0", k')

/-- The id of a new record. -/
def newId (entityName : String) (data : Json) (k : Keyspace) :
    Except JsonError String × Keyspace :=
  match data.find? "id" with
  | some id =>
      if id.isNull then ((.ok (generateId entityName k).1), (generateId entityName k).2)
      else (id.getString, k)
  | none => ((.ok (generateId entityName k).1), (generateId entityName k).2)

/-- The record under its key, and its id in the set. -/
def stored (entityName id : String) (record : Json) (k : Keyspace) : Keyspace :=
  (k.set (makeKey entityName id) (A.dump record)).sadd (makeSetKey entityName) id

/-- `create`. -/
def create (entityName : String) (data : Json) : Act Thrown (Tracked Keyspace) (Result Json) :=
  fun s =>
    if (A.schemas entityName).isNone then (.ok (.error (schemaMissing entityName)), s)
    else
      match newId entityName data s.store with
      | (.error e, k) => (.error (.json e), s.withStore k)
      | (.ok id, k) =>
          match data.assign "id" (.str id) with
          | .error e => (.error (.json e), s.withStore k)
          | .ok record =>
              (.ok (.ok record),
                (s.withStore (A.stored entityName id record k)).recordCreate entityName id)

/-- `update`: the old record is noted before the new values are written into it. -/
def update (entityName id : String) (data : Json) :
    Act Thrown (Tracked Keyspace) (Result Json) := fun s =>
  match A.read entityName id s.store with
  | .error e => (.ok (.error e), s)
  | .ok old =>
      let noted := s.recordUpdate entityName id old
      match mergeInto old data with
      | .error e => (.error e, noted)
      | .ok record =>
          (.ok (.ok record),
            noted.withStore (s.store.set (makeKey entityName id) (A.dump record)))

/-- The old record is noted before it is deleted, where it can be read. -/
def noteDeleted (entityName id : String) (s : Tracked Keyspace) :
    Except Thrown (Tracked Keyspace) :=
  if s.isRecording then
    match A.read entityName id s.store with
    | .ok old => s.recordDelete entityName old
    | .error _ => .ok s
  else .ok s

/-- `remove`. -/
def remove (entityName id : String) : Act Thrown (Tracked Keyspace) (Result Bool) := fun s =>
  match A.noteDeleted entityName id s with
  | .error e => (.error e, s)
  | .ok noted =>
      match s.store.del (makeKey entityName id) with
      | (0, _) => (.ok (.error (recordMissing entityName id)), noted)
      | (_ + 1, k) => (.ok (.ok true), noted.withStore (k.srem (makeSetKey entityName) id))

/-! ### Lists and bulk calls -/

/-- `RedisOperations::matchesFilter`, for a filter of texts: only a text equals one. -/
def matchesFilter (record : Json) (filter : Std.TreeMap String String) : Bool :=
  filter.toList.all fun (key, value) =>
    match record.find? key with
    | some (.str found) => found == value
    | _ => false

/-- `list`. -/
def list (entityName : String) (options : ListOptions) (k : Keyspace) : Result ListResult :=
  if (A.schemas entityName).isNone then .error (schemaMissing entityName)
  else
    match k.smembers (makeSetKey entityName) with
    | .error e => .error e
    | .ok members =>
        let records := (A.visit members).filterMap fun id =>
          match A.read entityName id k with
          | .ok record => if matchesFilter record options.filter then some record else none
          | .error _ => none
        let limit := if 0 < options.limit then options.limit else 100
        let offset := options.page * limit
        .ok { items := (records.drop offset.toNat).take limit.toNat
              total := records.length
              page := options.page
              limit := limit }

/-- The filter of `updateMany` and `deleteMany`: each value as a JSON text. -/
def dumpedFilter (filter : Json) : ListOptions where
  filter := .ofList (filter.fields.toList.map fun (key, value) => (key, A.dump value))

/-- The loop over the records of a list; what it throws ends it. -/
def forEach {α : Type} (call : String → Act Thrown (Tracked Keyspace) (Result α)) :
    List Json → Int → Act Thrown (Tracked Keyspace) (Result Int)
  | [], count, s => (.ok (.ok count), s)
  | record :: records, count, s =>
      match recordId record with
      | .error e => (.error (.json e), s)
      | .ok id =>
          match call id s with
          | (.error e, s') => (.error e, s')
          | (.ok (.ok _), s') => forEach call records (count + 1) s'
          | (.ok (.error _), s') => forEach call records count s'

/-- `createMany`. -/
def createMany (entityName : String) : List Json → Int → Act Thrown (Tracked Keyspace) (Result Int)
  | [], count, s => (.ok (.ok count), s)
  | record :: records, count, s =>
      match A.create entityName record s with
      | (.error e, s') => (.error e, s')
      | (.ok (.ok _), s') => createMany entityName records (count + 1) s'
      | (.ok (.error _), s') => createMany entityName records count s'

/-- `updateMany`. -/
def updateMany (entityName : String) (filter data : Json) :
    Act Thrown (Tracked Keyspace) (Result Int) := fun s =>
  match A.list entityName (A.dumpedFilter filter) s.store with
  | .error e => (.ok (.error e), s)
  | .ok found => forEach (fun id => A.update entityName id data) found.items 0 s

/-- `deleteMany`. -/
def deleteMany (entityName : String) (filter : Json) :
    Act Thrown (Tracked Keyspace) (Result Int) := fun s =>
  match A.list entityName (A.dumpedFilter filter) s.store with
  | .error e => (.ok (.error e), s)
  | .ok found => forEach (fun id => A.remove entityName id) found.items 0 s

/-- The conversion to `std::map<std::string, std::string>`. -/
def toStringMap : Json → Except JsonError (Std.TreeMap String String)
  | .obj members => do
      let entries ← (Json.obj members).fields.toList.mapM fun (key, value) =>
        value.getString.map fun text => (key, text)
      return .ofList entries
  | _ => .error .typeError302

/-- `findFirst`. -/
def findFirst (entityName : String) (filter : Json) (k : Keyspace) :
    Except Thrown (Result Json) :=
  match toStringMap filter with
  | .error e => .error (.json e)
  | .ok filter =>
      match A.list entityName { filter := filter, limit := 1 } k with
      | .error e => .ok (.error e)
      | .ok found =>
          match found.items with
          | [] => .ok (.error (.notFound "No matching record found"))
          | record :: _ => .ok (.ok record)

/-- `findFirst` with a filter of one field, as `findByField` calls it: the value has to be a text. -/
def findByField (entityName field : String) (value : Json) (k : Keyspace) :
    Except Thrown (Result Json) :=
  match value.getString with
  | .error e => .error (.json e)
  | .ok text =>
      match A.list entityName { filter := .ofList [(field, text)], limit := 1 } k with
      | .error e => .ok (.error e)
      | .ok found =>
          match found.items with
          | [] => .ok (.error (.notFound "No matching record found"))
          | record :: _ => .ok (.ok record)

/-- `upsert`. -/
def upsert (entityName uniqueField : String) (uniqueValue createData updateData : Json) :
    Act Thrown (Tracked Keyspace) (Result Json) := fun s =>
  match A.findByField entityName uniqueField uniqueValue s.store with
  | .error e => (.error e, s)
  | .ok (.error _) => A.create entityName createData s
  | .ok (.ok record) =>
      match recordId record with
      | .error e => (.error (.json e), s)
      | .ok id => A.update entityName id updateData s

/-- The writing calls of the adapter. -/
def calls : CompensatedAdapter Keyspace where
  create := A.create
  update := A.update
  remove := A.remove
  upsert := A.upsert
  createMany entityName records := A.createMany entityName records 0
  updateMany := A.updateMany
  deleteMany := A.deleteMany

end RedisAdapter

end Adapters
end Dbal
