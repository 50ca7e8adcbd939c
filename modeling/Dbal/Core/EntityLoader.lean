/-
# The entity loader

`EntitySchemaLoader` of `src/core/entity_loader.cpp` with its helpers
`FieldParser`, `RelationParser` and `SchemaValidator` of `src/core/loaders/`: the
schema files as the access registry reads them.

A directory is given by the documents of its files, in the order of the directory
walk.  What a document throws while it is read drops the rest of its file.
-/

import Dbal.Core.Error
import Dbal.Json

namespace Dbal
namespace Core

/-- `EntityField`. -/
structure EntityField where
  name : String
  type : String
  required : Bool := false
  unique : Bool := false
  primary : Bool := false
  generated : Bool := false
  nullable : Bool := false
  index : Bool := false
  sensitive : Bool := false
  privileged : Bool := false
  references : Option String := none
  minLength : Option Int := none
  maxLength : Option Int := none
  pattern : Option String := none
  enumValues : Option (List String) := none
  description : Option String := none
  deriving DecidableEq, Repr

/-- `EntityIndex`. -/
structure EntityIndex where
  fields : List String
  unique : Bool := false
  name : Option String := none
  deriving DecidableEq, Repr

/-- `EntitySchema::ACL`: the boolean predicates of each operation, and the roles
under the operation's name. -/
structure ACL where
  create : Std.TreeMap String Bool := ∅
  read : Std.TreeMap String Bool := ∅
  update : Std.TreeMap String Bool := ∅
  del : Std.TreeMap String Bool := ∅
  roles : Std.TreeMap String (List String) := ∅

/-- `EntitySchema`. -/
structure EntitySchema where
  name : String
  displayName : String := ""
  description : String := ""
  version : String := ""
  fields : List EntityField := []
  indexes : List EntityIndex := []
  acl : Option ACL := none

/-! ### Fields -/

namespace FieldParser

/-- `parseType`. -/
def parseType (fieldNode : Json) : Except JsonError String := do
  return toLower (← fieldNode.valueString "type" "string")

/-- `parseFlags`. -/
def parseFlags (fieldNode : Json) (field : EntityField) : Except JsonError EntityField := do
  let required ← fieldNode.valueBool "required" false
  let unique ← fieldNode.valueBool "unique" false
  let primary ← fieldNode.valueBool "primary" false
  -- `||` does not look at "primaryKey" when "primary" holds
  let primary ← if primary then pure true else fieldNode.valueBool "primaryKey" false
  let generated ← fieldNode.valueBool "generated" false
  let nullable ← fieldNode.valueBool "nullable" false
  let index ← fieldNode.valueBool "index" false
  let sensitive ← fieldNode.valueBool "sensitive" false
  let privileged ← fieldNode.valueBool "privileged" false
  return { field with
    required, unique, primary, generated, nullable, index, sensitive, privileged }

/-- A string member, if it is there. -/
def optionalString (node : Json) (key : String) : Except JsonError (Option String) :=
  (node.find? key).mapM Json.getString

/-- The first of two spellings that is there, as an `int`. -/
def optionalInt (node : Json) (snake camel : String) : Except JsonError (Option Int) :=
  ((node.find? snake).or (node.find? camel)).mapM Json.getInt

/-- `parseEnumValues`, with its guard. -/
def parseEnumValues (fieldNode : Json) (type : String) :
    Except JsonError (Option (List String)) :=
  if type = "enum" then
    (fieldNode.find? "values").mapM fun values => values.elements.mapM Json.getString
  else pure none

/-- `parseField`. -/
def parseField (fieldName : String) (fieldNode : Json) : Except JsonError EntityField := do
  let type ← parseType fieldNode
  let field ← parseFlags fieldNode { name := fieldName, type }
  let references ← optionalString fieldNode "references"
  let description ← optionalString fieldNode "description"
  let minLength ← optionalInt fieldNode "min_length" "minLength"
  let maxLength ← optionalInt fieldNode "max_length" "maxLength"
  let pattern ← optionalString fieldNode "pattern"
  let enumValues ← parseEnumValues fieldNode type
  return { field with references, description, minLength, maxLength, pattern, enumValues }

end FieldParser

/-! ### Indexes and access rules -/

namespace RelationParser

/-- `parseIndexFields`. -/
def parseIndexFields (indexNode : Json) : Except JsonError (List String) :=
  match indexNode.find? "fields" with
  | some fields => fields.elements.mapM Json.getString
  | none => pure []

/-- `parseIndex`. -/
def parseIndex (indexNode : Json) : Except JsonError EntityIndex := do
  let fields ← parseIndexFields indexNode
  let unique ← indexNode.valueBool "unique" false
  let name ← FieldParser.optionalString indexNode "name"
  return { fields, unique, name }

/-- `parseACLRoles`: the strings under `role`, unless the operation is an array. -/
def parseACLRoles (operationNode : Json) : List String :=
  match operationNode.find? "role" with
  | some (.str r) => [r]
  | some (.arr rs) => rs.filterMap fun
      | .str r => some r
      | _ => none
  | _ => []

/-- `collectBooleans`: the boolean members of one condition object. -/
def collectBooleans (permissions : Std.TreeMap String Bool) (conditions : Json) :
    Std.TreeMap String Bool :=
  conditions.fields.foldl (fun permissions key value =>
    match value with
    | .bool b => permissions.insert key b
    | _ => permissions) permissions

/-- `parseACLOperation`: the alternatives of an array are thrown together. -/
def parseACLOperation (operationNode : Json) : Std.TreeMap String Bool :=
  match operationNode with
  | .arr alternatives => alternatives.foldl collectBooleans ∅
  | conditions => collectBooleans ∅ conditions

/-- The predicates of an operation, none when it is not declared. -/
def operation (aclNode : Json) (op : String) : Std.TreeMap String Bool :=
  match aclNode.find? op with
  | some operationNode => parseACLOperation operationNode
  | none => ∅

/-- An operation with roles files them under its name. -/
def addRoles (aclNode : Json) (roles : Std.TreeMap String (List String)) (op : String) :
    Std.TreeMap String (List String) :=
  match aclNode.find? op with
  | some operationNode =>
      if parseACLRoles operationNode = [] then roles
      else roles.insert op (parseACLRoles operationNode)
  | none => roles

/-- `parseACL`. -/
def parseACL (aclNode : Json) : ACL where
  create := operation aclNode "create"
  read := operation aclNode "read"
  update := operation aclNode "update"
  del := operation aclNode "delete"
  roles := ["create", "read", "update", "delete"].foldl (addRoles aclNode) ∅

end RelationParser

/-! ### Validation -/

namespace SchemaValidator

/-- `getValidFieldTypes`. -/
def getValidFieldTypes : List String :=
  ["string", "number", "boolean", "timestamp", "json", "uuid", "email", "text", "bigint",
    "enum", "cuid", "integer", "int", "float", "double", "date", "datetime", "decimal"]

/-- `validateMetadata`. -/
def validateMetadata (schema : EntitySchema) : List String :=
  (if schema.name = "" then ["Entity schema must have a 'name' or 'entity' field"] else []) ++
    if schema.fields = [] then ["Entity schema '" ++ schema.name ++ "' has no fields defined"]
    else []

/-- `validateField`. -/
def validateField (field : EntityField) : List String :=
  if field.name = "" then ["Field has no name"]
  else
    (if getValidFieldTypes.contains field.type then []
      else ["Field '" ++ field.name ++ "' has invalid type: " ++ field.type]) ++
    (if field.type = "enum" ∧ field.enumValues.getD [] = [] then
      ["Enum field '" ++ field.name ++ "' has no values defined"] else []) ++
    match field.minLength, field.maxLength with
    | some low, some high =>
        if low > high then ["Field '" ++ field.name ++ "' has minLength > maxLength"] else []
    | _, _ => []

/-- The loop of `validateFields`; the flag is `hasPrimary`. -/
def validateFields (name : String) : Bool → List EntityField → List String
  | _, [] => []
  | hasPrimary, field :: fields =>
      validateField field ++
        (if field.primary ∧ hasPrimary then
          ["Entity '" ++ name ++ "' has multiple primary key fields"] else []) ++
        validateFields name (hasPrimary || field.primary) fields

/-- `validateIndexes`. -/
def validateIndexes (schema : EntitySchema) : List String :=
  schema.indexes.flatMap fun index =>
    if index.fields = [] then ["Index in entity '" ++ schema.name ++ "' has no fields"]
    else
      (index.fields.filter fun indexField =>
        !schema.fields.any fun field => field.name = indexField).map fun indexField =>
          "Index references non-existent field '" ++ indexField ++ "' in entity '" ++
            schema.name ++ "'"

/-- The errors of `validate`; its warnings stop nothing. -/
def validate (schema : EntitySchema) : List String :=
  validateMetadata schema ++ validateFields schema.name false schema.fields ++
    validateIndexes schema

end SchemaValidator

/-! ### Schemas -/

namespace EntitySchemaLoader

/-- The name of a schema: `entity`, then `displayName`, then `name`. -/
def schemaName (node : Json) : Except JsonError String :=
  if node.contains "entity" then node.valueString "entity" ""
  else if node.contains "displayName" then node.valueString "displayName" ""
  else if node.contains "name" then node.valueString "name" ""
  else pure ""

/-- The implicit column of a schema with `"tenantId": true`. -/
def tenantField : EntityField :=
  { name := "tenantId", type := "string", required := false, nullable := true }

/-- A top-level `"tenantId": true` adds the column unless it is spelled out. -/
def addTenantField (node : Json) (fields : List EntityField) : List EntityField :=
  match node.find? "tenantId" with
  | some (.bool true) =>
      if fields.any fun field => field.name = "tenantId" then fields else fields ++ [tenantField]
  | _ => fields

/-- `parseJson`. -/
def parseJson (node : Json) : Except JsonError EntitySchema := do
  let name ← schemaName node
  let displayName ← node.valueString "displayName" name
  let description ← node.valueString "description" ""
  let version ← node.valueString "version" "1.0"
  let fields ← match node.find? "fields" with
    | some fields => fields.items.mapM fun (fieldName, fieldNode) =>
        FieldParser.parseField fieldName fieldNode
    | none => pure []
  let indexes ← match node.find? "indexes" with
    | some indexes => indexes.elements.mapM RelationParser.parseIndex
    | none => pure []
  return { name, displayName, description, version, indexes
           fields := addTenantField node fields
           acl := (node.find? "acl").map RelationParser.parseACL }

/-- The documents of a file: the elements of an array, or the value itself. -/
def docs : Json → List Json
  | .arr docs => docs
  | root => [root]

/-- The loop over the documents of one file. -/
def loadDocs (schemas : Std.TreeMap String EntitySchema) :
    List Json → Std.TreeMap String EntitySchema
  | [] => schemas
  | node :: rest =>
      if node.isObject then
        match parseJson node with
        -- the handler of the file's `try` block, which ends the file
        | .error _ => schemas
        | .ok schema =>
            if schema.name = "" ∨ SchemaValidator.validate schema ≠ [] then
              loadDocs schemas rest
            else loadDocs (schemas.insert schema.name schema) rest
      else loadDocs schemas rest

/-- `loadSchemas`: a later schema replaces an earlier one of the same name. -/
def loadSchemas (files : List Json) : Std.TreeMap String EntitySchema :=
  files.foldl (fun schemas root => loadDocs schemas (docs root)) ∅

end EntitySchemaLoader
end Core
end Dbal
