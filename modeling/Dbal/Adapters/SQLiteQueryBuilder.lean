/-
# `SQLiteQueryBuilder`

`src/adapters/sqlite/sqlite_query_builder.cpp`: the statements of the SQLite adapter.  Each is a
text with question marks; the values for them are made by `SQLiteTypeConverter` from the same
arguments.
-/

import Dbal.Adapters.SqlWhereBuilder
import Dbal.Core.EntityLoader

namespace Dbal
namespace SQLiteQueryBuilder

open Dbal.Core (EntitySchema EntityField)

/-- `joinFragments`. -/
abbrev joinFragments : List String → String → String := SqlWhereBuilder.join

/-- `quoteId`. -/
def quoteId (identifier : String) : String := "\"" ++ identifier ++ "\""

/-- `buildFieldList`. -/
def buildFieldList (schema : EntitySchema) : String :=
  joinFragments (schema.fields.map fun field => quoteId field.name) ", "

/-- `buildWhereClause`. -/
def buildWhereClause (filter : Json) : String :=
  joinFragments (filter.items.map fun (key, _) => quoteId key ++ " = ?") " AND "

/-- The filter of a statement on rows, or nothing where it is empty. -/
def filtered (filter : Json) : String :=
  if filter.isEmpty then "" else " WHERE " ++ buildWhereClause filter

/-- The fields that an insert or an update of many rows writes. -/
def suppliedFields (schema : EntitySchema) (data : Json) : List EntityField :=
  schema.fields.filter fun field => data.contains field.name

/-- The fields that an update writes: all but the immutable ones. -/
def updatedFields (schema : EntitySchema) (data : Json) : List EntityField :=
  schema.fields.filter fun field =>
    !(field.name = "id" || field.name = "createdAt") && data.contains field.name

/-- `buildInsertQuery`. -/
def buildInsertQuery (schema : EntitySchema) (data : Json) : String :=
  let fields := schema.fields.filter fun field =>
    !(field.generated && !data.contains field.name) && data.contains field.name
  "INSERT INTO " ++ quoteId schema.name ++
    " (" ++ joinFragments (fields.map fun field => quoteId field.name) ", " ++ ") " ++
    "VALUES (" ++ joinFragments (fields.map fun _ => "?") ", " ++ ")"

/-- `buildSelectQuery`. -/
def buildSelectQuery (schema : EntitySchema) (filter : Json) : String :=
  "SELECT " ++ buildFieldList schema ++ " FROM " ++ quoteId schema.name ++ filtered filter

/-- A column that is set. -/
def assignment (field : EntityField) : String := quoteId field.name ++ " = ?"

/-- `buildUpdateQuery`: empty when there is nothing to set. -/
def buildUpdateQuery (schema : EntitySchema) (data : Json) : String :=
  let setFragments := (updatedFields schema data).map assignment
  if setFragments = [] then ""
  else "UPDATE " ++ quoteId schema.name ++ " SET " ++ joinFragments setFragments ", " ++
    " WHERE \"id\" = ?"

/-- `buildDeleteQuery`. -/
def buildDeleteQuery (schema : EntitySchema) : String :=
  "DELETE FROM " ++ quoteId schema.name ++ " WHERE \"id\" = ?"

/-- `conditionToSql`. -/
def conditionToSql (cond : FilterCondition) : String :=
  let field := quoteId cond.field
  match cond.op with
  | .eq => field ++ " = ?"
  | .ne => field ++ " != ?"
  | .lt => field ++ " < ?"
  | .lte => field ++ " <= ?"
  | .gt => field ++ " > ?"
  | .gte => field ++ " >= ?"
  | .like => field ++ " LIKE ?"
  | .iLike => "LOWER(" ++ field ++ ") LIKE LOWER(?)"
  | .isNull => field ++ " IS NULL"
  | .isNotNull => field ++ " IS NOT NULL"
  | .in => field ++ " IN (" ++ joinFragments (cond.values.map fun _ => "?") ", " ++ ")"
  | .notIn => field ++ " NOT IN (" ++ joinFragments (cond.values.map fun _ => "?") ", " ++ ")"
  | .between => field ++ " BETWEEN ? AND ?"

/-- `whereFragments` of a listing and of a count: the legacy filter, the conditions, and the
groups that have conditions. -/
def whereFragments (options : ListOptions) : List String :=
  options.filter.toList.map (fun (key, _) => quoteId key ++ " = ?") ++
    options.conditions.map conditionToSql ++
    (options.filterGroups.filter fun group => group.conditions ≠ []).map fun group =>
      "(" ++ joinFragments (group.conditions.map conditionToSql) " OR " ++ ")"

/-- The `WHERE` clause of a listing, or nothing. -/
def whereClause (options : ListOptions) : String :=
  if whereFragments options = [] then ""
  else " WHERE " ++ joinFragments (whereFragments options) " AND "

/-- The `GROUP BY` clause, or nothing. -/
def groupByClause (options : ListOptions) : String :=
  if options.groupBy = [] then ""
  else " GROUP BY " ++ joinFragments (options.groupBy.map quoteId) ", "

/-- `buildCountQuery`. -/
def buildCountQuery (schema : EntitySchema) (options : ListOptions) : String :=
  "SELECT COUNT(*) FROM " ++ quoteId schema.name ++ whereClause options ++ groupByClause options

/-- The name of an aggregate function. -/
abbrev aggFuncName : AggFunc → String := SqlWhereBuilder.aggFuncName

/-- A column of a listing with aggregates. -/
def aggregate (agg : AggregateSpec) : String :=
  aggFuncName agg.func ++ "(" ++ quoteId agg.field ++ ") AS " ++ quoteId agg.aliasName

/-- What a listing selects: aggregates override the fields. -/
def selectList (schema : EntitySchema) (options : ListOptions) : String :=
  if options.aggregates = [] then buildFieldList schema
  else joinFragments (options.groupBy.map quoteId ++ options.aggregates.map aggregate) ", "

/-- One field of the order. -/
def orderFragment (entry : String × String) : String :=
  quoteId entry.1 ++ " " ++ if entry.2 = "asc" ∨ entry.2 = "ASC" then "ASC" else "DESC"

/-- The `ORDER BY` clause, or nothing. -/
def orderByClause (options : ListOptions) : String :=
  if options.sort.isEmpty then ""
  else " ORDER BY " ++ joinFragments (options.sort.toList.map orderFragment) ", "

/-- `buildListQuery`. -/
def buildListQuery (schema : EntitySchema) (options : ListOptions) : String :=
  "SELECT " ++ selectList schema options ++ " FROM " ++ quoteId schema.name ++
    whereClause options ++ groupByClause options ++ orderByClause options ++ " LIMIT ? OFFSET ?"

/-- `buildUpdateManyQuery`: empty when there is nothing to set. -/
def buildUpdateManyQuery (schema : EntitySchema) (filter data : Json) : String :=
  let setFragments := (suppliedFields schema data).map assignment
  if setFragments = [] then ""
  else "UPDATE " ++ quoteId schema.name ++ " SET " ++ joinFragments setFragments ", " ++
    filtered filter

/-- `buildDeleteManyQuery`. -/
def buildDeleteManyQuery (schema : EntitySchema) (filter : Json) : String :=
  "DELETE FROM " ++ quoteId schema.name ++ filtered filter

/-- `buildFindFirstQuery`. -/
def buildFindFirstQuery (schema : EntitySchema) (filter : Json) : String :=
  "SELECT " ++ buildFieldList schema ++ " FROM " ++ quoteId schema.name ++ filtered filter ++
    " LIMIT 1"

end SQLiteQueryBuilder
end Dbal
