/-
# The access registry

`SchemaAclRegistry` of `src/core/schema_acl_registry.cpp`: the rules of every
entity, read once from the schema files and looked up under the declared name.
An entity without a rule is not restricted.
-/

import Dbal.Core.EntityLoader

namespace Dbal
namespace Core

/-- `SchemaAclRegistry`. -/
structure SchemaAclRegistry where
  schemas : Std.TreeMap String EntitySchema

namespace SchemaAclRegistry

/-- The constructor: every schema under the directory. -/
def load (files : List Json) : SchemaAclRegistry := ⟨EntitySchemaLoader.loadSchemas files⟩

/-- The rules of an entity: none for an unknown entity and for one without an `acl`. -/
def acl? (registry : SchemaAclRegistry) (entity : String) : Option ACL :=
  match registry.schemas[entity]? with
  | some schema => schema.acl
  | none => none

/-- `operationMap`. -/
def operationMap (acl : ACL) (method : String) : Option (Std.TreeMap String Bool) :=
  if method = "create" then some acl.create
  else if method = "read" then some acl.read
  else if method = "update" then some acl.update
  else if method = "delete" then some acl.del
  else none

/-- The predicate `key` of an operation is there and holds. -/
def holds (registry : SchemaAclRegistry) (entity method key : String) : Bool :=
  match (registry.acl? entity).bind fun acl => operationMap acl method with
  | some opMap => opMap[key]? = some true
  | none => false

/-- `isSystemOnly`. -/
def isSystemOnly (registry : SchemaAclRegistry) (entity method : String) : Bool :=
  registry.holds entity method "system"

/-- `isPublicWrite`. -/
def isPublicWrite (registry : SchemaAclRegistry) (entity method : String) : Bool :=
  registry.holds entity method "public"

/-- `requiresAuthToRead`. -/
def requiresAuthToRead (registry : SchemaAclRegistry) (entity : String) : Bool :=
  match registry.acl? entity with
  | some acl =>
      -- No read rule declared is not a restriction.
      if acl.read.isEmpty then false else !(acl.read["public"]? = some true)
  | none => false

/-- `privilegedFields`. -/
def privilegedFields (registry : SchemaAclRegistry) (entity : String) : List String :=
  match registry.schemas[entity]? with
  | some schema => (schema.fields.filter EntityField.privileged).map EntityField.name
  | none => []

/-- `requiredRoles`. -/
def requiredRoles (registry : SchemaAclRegistry) (entity method : String) : List String :=
  match registry.acl? entity with
  | some acl => acl.roles[method]?.getD []
  | none => []

/-- `roleAllowed`. -/
def roleAllowed (registry : SchemaAclRegistry) (entity method role : String) : Bool :=
  let allowed := registry.requiredRoles entity method
  if allowed = [] then true else allowed.contains role

end SchemaAclRegistry
end Core
end Dbal
