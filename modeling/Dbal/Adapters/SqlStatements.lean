/-
# The statements of `SqlAdapter`

The texts that `SqlAdapter::list`, `updateMany`, `deleteMany` and `findFirst` send
(`src/adapters/sql/sql_adapter_crud.cpp`, `sql_adapter_bulk.cpp`, `sql_adapter_query.cpp`), with the
helpers of `sql_adapter_helpers.cpp`.  A request that is refused with a validation error is an
`invalidArgument` here, as it is where `SqlWhereBuilder` refuses it.
-/

import Dbal.Adapters.SchemaLoader
import Dbal.Adapters.SqlWhereBuilder

namespace Dbal
namespace Adapters

/-- `Dialect`. -/
inductive Dialect where
  | postgres | mySQL | prisma
  deriving DecidableEq, Repr

/-- `dialect_str`. -/
def Dialect.name : Dialect → String
  | postgres | prisma => "postgresql"
  | mySQL => "mysql"

namespace SqlAdapter

open SqlWhereBuilder (Builder Failure join validateField)

/-- `quoteId`. -/
def quoteId (dialect : Dialect) (identifier : String) : String :=
  match dialect with
  | .mySQL => "`" ++ identifier ++ "`"
  | _ => "\"" ++ identifier ++ "\""

/-- `placeholder`. -/
def placeholder (dialect : Dialect) (index : Nat) : String :=
  match dialect with
  | .postgres | .prisma => "$" ++ toString index
  | .mySQL => "?"

/-- `joinFragments`. -/
abbrev joinFragments : List String → String → String := join

/-- The type of a column of numbers. -/
def isNumeric (type : String) : Bool :=
  type = "number" || type = "bigint" || type = "integer" || type = "int"

/-- The text with its apostrophes doubled. -/
def escapeApostrophes (val : String) : String :=
  String.ofList (val.toList.flatMap fun c => if c = '\'' then ['\'', '\''] else [c])

/-- `coalesceDefault`. -/
def coalesceDefault (type val : String) : String :=
  if type = "boolean" then if val = "true" ∨ val = "1" then "true" else "false"
  else if isNumeric type then if val = "" then "0" else val
  else "'" ++ escapeApostrophes val ++ "'"

variable (printReal : Int → Int → String) (dialect : Dialect)

/-- A column of `buildFieldList`. -/
def fieldFragment (field : EntityField) : String :=
  match field.nullable && !field.required, field.defaultValue with
  | true, some default =>
      "COALESCE(" ++ quoteId dialect field.name ++ ", " ++
        coalesceDefault field.type (default.text printReal) ++ ") AS " ++ quoteId dialect field.name
  | _, _ => quoteId dialect field.name

/-- `buildFieldList`. -/
def buildFieldList (schema : EntitySchema) : String :=
  joinFragments (schema.fields.map (fieldFragment printReal dialect)) ", "

/-- `valid_fields`. -/
def validFields (schema : EntitySchema) : Std.TreeSet String :=
  .ofList (schema.fields.map fun field => field.name)

/-- A clause after a blank, unless it is empty. -/
def clause (text : String) : String := if text = "" then "" else " " ++ text

/-- Refuse with a validation error. -/
def refuse {α : Type} (what : String) : Builder α := fun _ => .error (.invalidArgument what)

/-! ### Listings -/

/-- The limit of a page. -/
def pageLimit (options : ListOptions) : Int := if 0 < options.limit then options.limit else 50

/-- The number of a page. -/
def pageNumber (options : ListOptions) : Int := if 0 < options.page then options.page else 1

/-- The rows before a page. -/
def pageOffset (options : ListOptions) : Int := (pageNumber options - 1) * pageLimit options

/-- The field that orders a listing without an order. -/
def defaultOrderField (schema : EntitySchema) : String :=
  if schema.fields.any fun field => field.name = "createdAt" then "createdAt"
  else (schema.fields.head?.map fun field => field.name).getD "id"

/-- The listing with aggregates. -/
def listAggregates (schema : EntitySchema) (options : ListOptions) : Builder (List String) := do
  let valid := validFields schema
  match options.groupBy.find? fun gb => !valid.contains gb with
  | some gb => refuse ("Unknown group_by field: " ++ gb)
  | none =>
      match options.aggregates.find? fun agg => agg.field ≠ "*" && !valid.contains agg.field with
      | some agg => refuse ("Unknown aggregate field: " ++ agg.field)
      | none => do
          let whereClause ← SqlWhereBuilder.build options.conditions options.filterGroups
            options.filter valid dialect.name
          let selectList ← SqlWhereBuilder.buildAggregateSelect options.aggregates options.groupBy
            valid dialect.name
          let groupBy ← SqlWhereBuilder.buildGroupBy options.groupBy valid dialect.name
          return ["SELECT " ++ selectList ++ " FROM " ++ quoteId dialect schema.name ++
            clause whereClause ++ clause groupBy]

/-- The listing of rows: the statement that counts them and the one that reads them. -/
def listRows (schema : EntitySchema) (options : ListOptions) : Builder (List String) := do
  let valid := validFields schema
  let whereClause ← SqlWhereBuilder.build options.conditions options.filterGroups options.filter
    valid dialect.name
  let orderBy ← SqlWhereBuilder.buildOrderBy options.sort valid (defaultOrderField schema)
    dialect.name
  let fieldList := (if options.distinct then "DISTINCT " else "") ++
    buildFieldList printReal dialect schema
  return ["SELECT COUNT(*) AS cnt FROM " ++ quoteId dialect schema.name ++ clause whereClause,
    "SELECT " ++ fieldList ++ " FROM " ++ quoteId dialect schema.name ++ clause whereClause ++
      (" " ++ orderBy ++ " LIMIT " ++ toString (pageLimit options) ++
        " OFFSET " ++ toString (pageOffset options))]

/-- The statements of `list`; an offset past the largest `int` has no defined value. -/
def listStatements (schema : EntitySchema) (options : ListOptions) : Builder (List String) :=
  if pageOffset options ≤ intMax then
    if options.aggregates = [] then listRows printReal dialect schema options
    else listAggregates dialect schema options
  else fun _ => .error .undefined

/-! ### Filters given as JSON -/

/-- The comparison of one member of a filter. -/
def memberFragment (column : String) (index : Nat) : String :=
  column ++ " = " ++ placeholder dialect index

/-- The fragments of a filter, whose placeholders are numbered from `index`. -/
def memberFragments (quote : String → String) (filter : Json) (index : Nat) : List String :=
  (filter.items.zipIdx index).map fun (entry, i) => memberFragment dialect (quote entry.1) i

/-- The `WHERE` clause of a filter, or nothing. -/
def filtered (fragments : List String) : String :=
  if fragments = [] then "" else " WHERE " ++ joinFragments fragments " AND "

/-- A key of the filter that is no field of the schema. -/
def unknownKey (schema : EntitySchema) (filter : Json) : Option String :=
  (filter.items.map Prod.fst).find? fun key => !schema.fields.any fun field => field.name = key

/-- The statement of `updateMany`. -/
def updateManyStatement (schema : EntitySchema) (filter data : Json) : Except Failure String :=
  let fields := schema.fields.filter fun field => data.contains field.name
  let setFragments := (fields.zipIdx 1).map fun (field, i) =>
    memberFragment dialect (quoteId dialect field.name) i
  if setFragments = [] then .error (.invalidArgument "No update fields supplied")
  else
    match unknownKey schema filter with
    | some key => .error (.invalidArgument ("Unknown filter field: " ++ key))
    | none => .ok ("UPDATE " ++ quoteId dialect schema.name ++ " SET " ++
        joinFragments setFragments ", " ++
        filtered (memberFragments dialect (quoteId dialect) filter (fields.length + 1)))

/-- The statement of `deleteMany`, which neither checks nor quotes the keys. -/
def deleteManyStatement (schema : EntitySchema) (filter : Json) : String :=
  "DELETE FROM " ++ quoteId dialect schema.name ++
    filtered (memberFragments dialect id filter 1)

/-- The statement of `findFirst`. -/
def findFirstStatement (schema : EntitySchema) (filter : Json) : Except Failure String :=
  match unknownKey schema filter with
  | some key => .error (.invalidArgument ("Unknown field in filter: " ++ key))
  | none => .ok ("SELECT " ++ buildFieldList printReal dialect schema ++ " FROM " ++
      quoteId dialect schema.name ++
      filtered (memberFragments dialect (quoteId dialect) filter 1) ++ " LIMIT 1")

end SqlAdapter
end Adapters
end Dbal
