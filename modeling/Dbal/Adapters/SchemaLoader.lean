/-
# The schema loader of the adapters

`SchemaLoader::loadFromDirectory` of `src/adapters/schema_loader.hpp` and
`SqlAdapter::loadSchemas` of `src/adapters/sql/sql_adapter_schema.cpp`: the schema
files as the adapters read them, and the names under which they find a schema
again.

This is the second reading of the files.  The first is that of the access registry
(`Dbal.Core.EntityLoader`), which sees the same documents in the same order, but has
its own idea of what is valid and files a schema under one name only.
-/

import Dbal.Core.Error
import Dbal.Json

namespace Dbal
namespace Adapters

/-- A value under `default`; the source keeps the text of it (`DefaultValue.text`). -/
inductive DefaultValue where
  | str (s : String)
  | bool (b : Bool)
  | int (i : Int)
  | uint (n : Nat)
  | real (mantissa exponent : Int)
  deriving DecidableEq, Repr

/-- The text of a default, given the library's printing of `double`s. -/
def DefaultValue.text (printReal : Int → Int → String) : DefaultValue → String
  | str s => s
  | bool b => if b then "true" else "false"
  | int i => toString i
  | uint n => toString n
  | real mantissa exponent => printReal mantissa exponent

/-- `FieldDefinition`. -/
structure FieldDefinition where
  name : String
  type : String
  primary : Bool := false
  required : Bool := false
  unique : Bool := false
  generated : Bool := false
  optional : Bool := false
  nullable : Bool := false
  sensitive : Bool := false
  minLength : Option Int := none
  maxLength : Option Int := none
  pattern : Option String := none
  enumValues : List String := []
  defaultValue : Option DefaultValue := none
  deriving DecidableEq, Repr

/-- `IndexDefinition`. -/
structure IndexDefinition where
  fields : List String
  unique : Bool := false
  deriving DecidableEq, Repr

/-- `RelationDefinition`. -/
structure RelationDefinition where
  name : String
  type : String
  entity : String
  foreignKey : String
  cascadeDelete : Bool
  deriving DecidableEq, Repr

/-- `SchemaQueryConfig`, and the `QueryConfig` that it is copied into. -/
structure QueryConfig where
  allowedOperators : List String := []
  allowedGroupBy : List String := []
  allowedIncludes : List String := []
  maxResults : Int := 1000
  timeoutMs : Int := 0
  deriving DecidableEq, Repr

/-- `EntityDefinition`. -/
structure EntityDefinition where
  name : String
  version : String := ""
  description : String := ""
  fields : List FieldDefinition := []
  indexes : List IndexDefinition := []
  relations : List RelationDefinition := []
  queryConfig : QueryConfig := {}
  deriving DecidableEq, Repr

/-! ### One document -/

namespace SchemaLoader

/-- The type of a field, folded; dates and numbers are stored as integers. -/
def fieldType (type : String) : String :=
  if type = "datetime" ∨ type = "number" then "bigint" else type

/-- The strings under `values`, if that is an array. -/
def enumValues (fd : Json) : Except JsonError (List String) :=
  match fd.find? "values" with
  | some (.arr values) => values.mapM Json.getString
  | _ => pure []

/-- The scalar under `default`, if there is one. -/
def defaultValue (fd : Json) : Option DefaultValue :=
  match fd.find? "default" with
  | some (.str s) => some (.str s)
  | some (.bool b) => some (.bool b)
  | some (.int i) => some (.int i)
  | some (.uint n) => some (.uint n)
  | some (.real mantissa exponent) => some (.real mantissa exponent)
  | _ => none

/-- One field of `loadFromDirectory`; a relationship is no field.  Lengths and patterns
are not read here. -/
def parseField (fn : String) (fd : Json) : Except JsonError (Option FieldDefinition) := do
  let ft := toLower (← fd.valueString "type" "string")
  if ft = "relationship" then return none
  let primary ← fd.valueBool "primary" false
  let primary ← if primary then pure true else fd.valueBool "primaryKey" false
  let required ← fd.valueBool "required" false
  let unique ← fd.valueBool "unique" false
  let generated ← fd.valueBool "generated" false
  let optional ← fd.valueBool "optional" false
  let nullable ← fd.valueBool "nullable" false
  let sensitive ← fd.valueBool "sensitive" false
  return some { name := fn, type := fieldType ft, primary, required, unique, generated, optional
                nullable, sensitive, enumValues := ← enumValues fd
                defaultValue := defaultValue fd }

/-- The implicit column of a schema with `"tenantId": true`. -/
def tenantField : FieldDefinition :=
  { name := "tenantId", type := "string", required := false, nullable := true }

/-- A top-level `"tenantId": true` adds the column unless it is spelled out. -/
def addTenantField (json : Json) (fields : List FieldDefinition) : List FieldDefinition :=
  match json.find? "tenantId" with
  | some (.bool true) =>
      if fields.any fun field => field.name = "tenantId" then fields else fields ++ [tenantField]
  | _ => fields

def parseIndex (idx : Json) : Except JsonError IndexDefinition := do
  let fields ← match idx.find? "fields" with
    | some fields => fields.elements.mapM Json.getString
    | none => pure []
  return { fields, unique := ← idx.valueBool "unique" false }

def parseRelation (rn : String) (rd : Json) : Except JsonError RelationDefinition := do
  return { name := rn, type := ← rd.valueString "type" "has-many"
           entity := ← rd.valueString "entity" "", foreignKey := ← rd.valueString "foreign_key" ""
           cascadeDelete := ← rd.valueBool "cascade_delete" false }

/-- `psa`: the strings of a member, if it is an array. -/
def stringArray (q : Json) (key : String) : Except JsonError (List String) :=
  match q.find? key with
  | some (.arr vs) => vs.mapM Json.getString
  | _ => pure []

def parseQuery (q : Json) : Except JsonError QueryConfig := do
  return { allowedOperators := ← stringArray q "allowed_operators"
           allowedGroupBy := ← stringArray q "allowed_group_by"
           allowedIncludes := ← stringArray q "allowed_includes"
           maxResults := ← q.valueInt "max_results" 1000
           timeoutMs := ← q.valueInt "timeout_ms" 0 }

/-- The name of a schema: `entity`, then `displayName`, then `name`. -/
def entityName (json : Json) : Option Json :=
  (json.find? "entity").or ((json.find? "displayName").or (json.find? "name"))

/-- One document; one without a name is left out. -/
def parseEntity (json : Json) : Except JsonError (Option EntityDefinition) := do
  let some name := entityName json | return none
  let name ← name.getString
  let version ← json.valueString "version" "1.0"
  let description ← json.valueString "description" ""
  let fields ← match json.find? "fields" with
    | some fields => fields.items.mapM fun (fn, fd) => parseField fn fd
    | none => pure []
  let indexes ← match json.find? "indexes" with
    | some indexes => indexes.elements.mapM parseIndex
    | none => pure []
  let relations ← match json.find? "relations" with
    | some (.obj rels) => (Json.obj rels).items.mapM fun (rn, rd) => parseRelation rn rd
    | _ => pure []
  let queryConfig ← match json.find? "query" with
    | some (.obj q) => parseQuery (.obj q)
    | _ => pure {}
  return some { name, version, description, indexes, queryConfig
                fields := addTenantField json (fields.filterMap id)
                relations := relations.filter fun rel => rel.entity ≠ "" }

/-- The loop over the documents of one file: what throws ends the file. -/
def loadDocs : List Json → List EntityDefinition
  | [] => []
  | node :: rest =>
      if node.isObject then
        match parseEntity node with
        | .error _ => []
        | .ok none => loadDocs rest
        | .ok (some entity) => entity :: loadDocs rest
      else loadDocs rest

/-- The documents of a file: the elements of an array, or the value itself. -/
def docs : Json → List Json
  | .arr docs => docs
  | root => [root]

/-- `loadFromDirectory`. -/
def loadFromDirectory (files : List Json) : List EntityDefinition :=
  files.flatMap fun root => loadDocs (docs root)

end SchemaLoader

/-! ### The adapter's schemas -/

/-- `EntityField`. -/
structure EntityField where
  name : String
  type : String
  required : Bool := false
  unique : Bool := false
  nullable : Bool := false
  minLength : Option Int := none
  maxLength : Option Int := none
  pattern : Option String := none
  enumValues : Option (List String) := none
  sensitive : Bool := false
  defaultValue : Option DefaultValue := none
  deriving DecidableEq, Repr

/-- `RelationDef`. -/
structure RelationDef where
  name : String
  type : String
  targetEntity : String
  foreignKey : String
  cascadeDelete : Bool
  deriving DecidableEq, Repr

/-- `EntitySchema`. -/
structure EntitySchema where
  name : String
  displayName : String := ""
  fields : List EntityField := []
  relations : List RelationDef := []
  queryConfig : QueryConfig := {}
  deriving DecidableEq, Repr

namespace SqlAdapter

/-- The field of an adapter's schema. -/
def toField (field : FieldDefinition) : EntityField where
  name := field.name
  type := field.type
  required := field.required || field.primary
  unique := field.unique || field.primary
  nullable := field.nullable || field.optional
  enumValues := if field.enumValues = [] then none else some field.enumValues
  minLength := field.minLength
  maxLength := field.maxLength
  pattern := field.pattern
  sensitive := field.sensitive
  defaultValue := field.defaultValue

/-- The schema that the adapter makes of a definition. -/
def toSchema (entity : EntityDefinition) : EntitySchema where
  name := entity.name
  displayName := entity.name
  fields := entity.fields.map toField
  relations := entity.relations.map fun rel =>
    { name := rel.name, type := rel.type, targetEntity := rel.entity
      foreignKey := rel.foreignKey, cascadeDelete := rel.cascadeDelete }
  queryConfig := entity.queryConfig

/-- A schema is registered under its name, and under the name in lower case if that is
another one. -/
def register (schemas : Std.TreeMap String EntitySchema) (entity : EntityDefinition) :
    Std.TreeMap String EntitySchema :=
  let schemas := schemas.insert entity.name (toSchema entity)
  if toLower entity.name ≠ entity.name then
    schemas.insert (toLower entity.name) (toSchema entity)
  else schemas

/-- `loadSchemas`. -/
def loadSchemas (files : List Json) : Std.TreeMap String EntitySchema :=
  (SchemaLoader.loadFromDirectory files).foldl register ∅

/-- `getEntitySchemaInternal`. -/
def getEntitySchema (schemas : Std.TreeMap String EntitySchema) (entityName : String) :
    Option EntitySchema :=
  schemas[entityName]?

/-- Every schema stands under its name or under its name in lower case. -/
def Spelled (schemas : Std.TreeMap String EntitySchema) : Prop :=
  ∀ (key : String) (schema : EntitySchema), schemas[key]? = some schema →
    key = schema.name ∨ key = toLower schema.name

theorem Spelled.insert {schemas : Std.TreeMap String EntitySchema} (h : Spelled schemas)
    {name : String} {schema : EntitySchema} (hname : name = schema.name ∨ name = toLower schema.name) :
    Spelled (schemas.insert name schema) := by
  intro key s hkey
  rw [Std.TreeMap.getElem?_insert] at hkey
  split at hkey
  · next heq =>
      obtain rfl : name = key := by simpa using heq
      obtain rfl := Option.some.inj hkey
      exact hname
  · exact h key s hkey

theorem Spelled.register {schemas : Std.TreeMap String EntitySchema} (h : Spelled schemas)
    (entity : EntityDefinition) : Spelled (register schemas entity) := by
  have hname : Spelled (schemas.insert entity.name (toSchema entity)) := h.insert (Or.inl rfl)
  unfold SqlAdapter.register
  split
  · exact hname.insert (Or.inr rfl)
  · exact hname

/-- **The two spellings.**  A segment that the adapter resolves is the declared name of the
schema, or that name in lower case. -/
theorem spelled_loadSchemas (files : List Json) : Spelled (loadSchemas files) := by
  have hrun : ∀ (entities : List EntityDefinition) (schemas : Std.TreeMap String EntitySchema),
      Spelled schemas → Spelled (entities.foldl register schemas) := by
    intro entities
    induction entities with
    | nil => exact fun _ h => h
    | cons entity entities ih => exact fun _ h => ih _ (h.register entity)
  exact hrun _ ∅ fun key schema hkey => by simp at hkey

end SqlAdapter
end Adapters
end Dbal
