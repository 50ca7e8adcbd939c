/-
# The rows of `SqlAdapter`

`src/adapters/sql/sql_adapter_helpers.cpp`: the statements that write and read single rows, the
parameters that are bound to them, and the JSON that a row of the answer becomes.

What the libraries do is part of the adapter here: nlohmann's `dump` and `parse`, the printing of
`double`s and `std::stoll`.
-/

import Dbal.Adapters.Adapter
import Dbal.Adapters.SqlStatements

namespace Dbal
namespace Adapters

/-- `SqlRow`. -/
structure SqlRow where
  columns : Std.TreeMap String String

/-- `SqlAdapter`, as far as it does not change. -/
structure SqlAdapter where
  dialect : Dialect
  /-- `getEntitySchemaInternal`. -/
  schemas : String → Option EntitySchema
  printReal : Int → Int → String
  dump : Json → String
  parse : String → Option Json
  stoll : String → Except String Int

namespace SqlAdapter

variable (A : SqlAdapter)

/-- `jsonValueToString`. -/
def jsonValueToString (value : Json) : String :=
  match value with
  | .null => ""
  | .bool b => if b then "true" else "false"
  | .int _ | .uint _ | .real _ _ => toString value.getInt64
  | .str s => s
  | .arr _ | .obj _ => A.dump value

/-- The parameter of a field of `data`. -/
def fieldParam (data : Json) (field : EntityField) : SqlParam :=
  ⟨field.name, A.jsonValueToString ((data.find? field.name).getD .null)⟩

/-- The caller's `id`, where it is a text that is not empty. -/
def suppliedId (data : Json) : Option String :=
  match data.find? "id" with
  | some (.str s) => if s = "" then none else some s
  | _ => none

/-! ### Statements -/

/-- The fields that an `INSERT` names. -/
def insertedFields (schema : EntitySchema) (data : Json) : List EntityField :=
  schema.fields.filter fun field =>
    if field.name = "createdAt" then false
    else if field.name = "id" then (suppliedId data).isSome
    else data.contains field.name

/-- `buildInsertSql`. -/
def buildInsertSql (schema : EntitySchema) (data : Json) : String :=
  let fields := insertedFields schema data
  "INSERT INTO " ++ (quoteId A.dialect schema.name ++
    " (" ++ joinFragments (fields.map fun field => quoteId A.dialect field.name) ", " ++ ") " ++
    "VALUES (" ++ joinFragments ((fields.zipIdx 1).map fun (_, i) => placeholder A.dialect i) ", " ++
    ") " ++ "RETURNING " ++ buildFieldList A.printReal A.dialect schema)

/-- `buildSelectSql`. -/
def buildSelectSql (schema : EntitySchema) (filter : Json) : String :=
  "SELECT " ++ (buildFieldList A.printReal A.dialect schema ++ " FROM " ++
    quoteId A.dialect schema.name ++
    filtered (memberFragments A.dialect (quoteId A.dialect) filter 1))

/-- The fields that an `UPDATE` sets. -/
def updatedFields (schema : EntitySchema) (data : Json) : List EntityField :=
  schema.fields.filter fun field =>
    !(field.name = "id" || field.name = "createdAt") && data.contains field.name

/-- `buildUpdateSql`: empty when there is nothing to set.  Parameter 1 is the `id`. -/
def buildUpdateSql (schema : EntitySchema) (data : Json) : String :=
  let setFragments := ((updatedFields schema data).zipIdx 2).map fun (field, i) =>
    memberFragment A.dialect (quoteId A.dialect field.name) i
  if setFragments = [] then ""
  else "UPDATE " ++ (quoteId A.dialect schema.name ++ " SET " ++ joinFragments setFragments ", " ++
    " WHERE " ++ memberFragment A.dialect (quoteId A.dialect "id") 1 ++
    " RETURNING " ++ buildFieldList A.printReal A.dialect schema)

/-- `buildDeleteSql`. -/
def buildDeleteSql (schema : EntitySchema) : String :=
  "DELETE FROM " ++ (quoteId A.dialect schema.name ++
    " WHERE " ++ memberFragment A.dialect (quoteId A.dialect "id") 1)

/-! ### Parameters -/

/-- A parameter of `jsonToParams`. -/
def insertParam (data : Json) (field : EntityField) : Option SqlParam :=
  if field.name = "createdAt" then none
  else if field.name = "id" then (suppliedId data).map (⟨"id", ·⟩)
  else if data.contains field.name then some (A.fieldParam data field)
  else none

/-- `jsonToParams`. -/
def jsonToParams (schema : EntitySchema) (data : Json) (prependId : String) : List SqlParam :=
  if prependId = "" then schema.fields.filterMap (A.insertParam data)
  else ⟨"id", prependId⟩ :: (updatedFields schema data).map (A.fieldParam data)

/-- The parameters of a filter. -/
def filterParams (filter : Json) : List SqlParam :=
  filter.items.map fun (key, value) => ⟨key, A.jsonValueToString value⟩

/-- The parameters of `updateMany`. -/
def updateManyParams (schema : EntitySchema) (filter data : Json) : List SqlParam :=
  (schema.fields.filter fun field => data.contains field.name).map (A.fieldParam data) ++
    A.filterParams filter

/-! ### Rows -/

/-- `columnValue`. -/
def columnValue (row : SqlRow) (key : String) : String := row.columns[key]?.getD ""

/-- `decodeJsonColumn`. -/
def decodeJsonColumn (value : String) : Json := (A.parse value).getD (.str value)

/-- The value of a field in a row. -/
def fieldValue (field : EntityField) (value : String) : Except Thrown Json :=
  if field.type = "boolean" then
    .ok (.bool (value = "1" || value = "t" || value = "true" || value = "T" || value = "TRUE"))
  else if isNumeric field.type then
    if value = "" then .ok .null else ((A.stoll value).map Json.int).mapError .adapter
  else if field.type = "json" && value ≠ "" then .ok (A.decodeJsonColumn value)
  else if value = "" then
    match field.nullable, field.defaultValue with
    | true, some default => .ok (.str (default.text A.printReal))
    | _, _ => .ok (if field.required then .str value else .null)
  else .ok (.str value)

/-- `rowToJson`. -/
def rowToJson (schema : EntitySchema) (row : SqlRow) (includeSensitive : Bool) :
    Except Thrown Json :=
  (schema.fields.filter fun field => !field.sensitive || includeSensitive).foldlM
    (fun result field => do
      let value ← A.fieldValue field (columnValue row field.name)
      return result.set field.name value) .null

end SqlAdapter
end Adapters
end Dbal
