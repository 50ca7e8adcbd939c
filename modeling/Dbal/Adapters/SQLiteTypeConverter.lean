/-
# `SQLiteTypeConverter`

`src/adapters/sqlite/sqlite_type_converter.cpp`: the values for the question marks of the
statements of `SQLiteQueryBuilder`, all as strings.  `NULL` is a string among them.

`dump` is the library's printing of arrays and objects.
-/

import Dbal.Core.EntityLoader
import Dbal.Core.Query

namespace Dbal

open Dbal.Core (EntitySchema EntityField)

/-- `kSqlNullSentinel`. -/
def kSqlNullSentinel : String := "\x01NULL\x01"

namespace SQLiteTypeConverter

variable (dump : Json → String)

/-- `jsonValueToString`. -/
def jsonValueToString (value : Json) : String :=
  match value with
  | .null => kSqlNullSentinel
  | .bool b => if b then "1" else "0"
  | .int _ | .uint _ | .real _ _ => toString value.getInt64
  | .str s => s
  | .arr _ | .obj _ => dump value

/-- `data[field.name]` as a string. -/
def fieldValue (data : Json) (field : EntityField) : String :=
  jsonValueToString dump ((data.find? field.name).getD .null)

/-- `jsonToValues`. -/
def jsonToValues (schema : EntitySchema) (data : Json) (prependId : String := "") : List String :=
  let fields := schema.fields.filter fun field =>
    !(field.generated && !data.contains field.name) && data.contains field.name
  (if prependId = "" then [] else [prependId]) ++ fields.map (fieldValue dump data)

/-- `buildUpdateParams`. -/
def buildUpdateParams (schema : EntitySchema) (data : Json) (id : String) : List String :=
  let fields := schema.fields.filter fun field =>
    !(field.name = "id" || field.name = "createdAt") && data.contains field.name
  fields.map (fieldValue dump data) ++ [id]

/-- `buildFindParams`. -/
def buildFindParams (filter : Json) : List String :=
  filter.items.map fun (_, value) => jsonValueToString dump value

/-- `buildDeleteManyParams`. -/
def buildDeleteManyParams (filter : Json) : List String :=
  filter.items.map fun (_, value) => jsonValueToString dump value

/-- `buildUpdateManyParams`. -/
def buildUpdateManyParams (schema : EntitySchema) (filter data : Json) : List String :=
  let fields := schema.fields.filter fun field => data.contains field.name
  fields.map (fieldValue dump data) ++ filter.items.map fun (_, value) => jsonValueToString dump value

/-- `appendConditionValues`, on its own. -/
def conditionValues (cond : FilterCondition) : List String :=
  match cond.op with
  | .isNull | .isNotNull => []
  | .in | .notIn => cond.values
  | .between =>
      match cond.values with
      | v₀ :: v₁ :: _ => [v₀, v₁]
      | _ => []
  | _ => [cond.value]

/-- `buildCountParams`. -/
def buildCountParams (options : ListOptions) : List String :=
  options.filter.toList.map Prod.snd ++ options.conditions.flatMap conditionValues ++
    options.filterGroups.flatMap fun group => group.conditions.flatMap conditionValues

/-- The limit of a page. -/
def pageLimit (options : ListOptions) : Int := if 0 < options.limit then options.limit else 50

/-- The rows before a page. -/
def pageOffset (options : ListOptions) : Int :=
  if 1 < options.page then (options.page - 1) * pageLimit options else 0

/-- `buildListParams`; an offset past the largest `int` has no defined value. -/
def buildListParams (options : ListOptions) : Option (List String) :=
  if pageOffset options ≤ intMax then
    some (buildCountParams options ++ [toString (pageLimit options), toString (pageOffset options)])
  else none

end SQLiteTypeConverter
end Dbal
