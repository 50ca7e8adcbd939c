/-
# Validation of payloads

`validateEntityData` of `src/daemon/handlers/entity_validator.hpp`: the constraints of
the adapter's schema, field by field.
-/

import Dbal.Daemon.Response

namespace Dbal
namespace Daemon

open Adapters

/-- `ValidationError`. -/
structure ValidationError where
  field : String
  message : String
  deriving DecidableEq, Repr

namespace EntityValidator

/-- The types that are checked as strings. -/
def isStringType (type : String) : Bool :=
  ["string", "email", "text", "uuid", "cuid", "enum"].contains type

/-- The types that are checked as numbers. -/
def isNumericType (type : String) : Bool := ["number", "bigint", "integer", "int"].contains type

/-- `data[name]`, if it is there and not null. -/
def supplied (data : Json) (name : String) : Option Json :=
  match data.find? name with
  | some .null => none
  | value => value

/-- `static_cast<int>(val.size())`. -/
def size (text : String) : Int := (text.utf8ByteSize : Int).bmod (2 ^ 32)

/-- The constraints of a field of a string type on a string. -/
def stringErrors (lib : Libraries) (field : EntityField) (text : String) : List ValidationError :=
  (match field.minLength with
    | some n => if size text < n then [⟨field.name, "Minimum length is " ++ toString n⟩] else []
    | none => []) ++
  (match field.maxLength with
    | some n => if n < size text then [⟨field.name, "Maximum length is " ++ toString n⟩] else []
    | none => []) ++
  (match field.enumValues with
    | some allowed => if allowed.contains text then [] else [⟨field.name, "Invalid enum value"⟩]
    | none => []) ++
  match field.pattern with
  | some pattern =>
      -- A pattern that does not compile is ignored.
      if pattern ≠ "" ∧ lib.regexSearch pattern text = some false then
        [⟨field.name, "Does not match required pattern"⟩]
      else []
  | none => []

/-- The checks of a value that was supplied. -/
def valueErrors (lib : Libraries) (field : EntityField) (value : Json) : List ValidationError :=
  if isStringType field.type then
    match value with
    | .str text => stringErrors lib field text
    | _ => [⟨field.name, "Expected string value"⟩]
  else if isNumericType field.type then
    if value.isNumber then [] else [⟨field.name, "Expected a numeric value"⟩]
  else if field.type = "boolean" then
    if value.isBoolean || value.isNumber || value.isString then []
    else [⟨field.name, "Expected a boolean value"⟩]
  else []

/-- The checks of one field. -/
def fieldErrors (lib : Libraries) (data : Json) (isCreate : Bool) (field : EntityField) :
    List ValidationError :=
  if field.name = "id" ∨ field.name = "createdAt" then []
  else
    match supplied data field.name with
    | none => if isCreate && field.required then [⟨field.name, "Field is required"⟩] else []
    | some value => valueErrors lib field value

end EntityValidator

/-- `validateEntityData`. -/
def validateEntityData (lib : Libraries) (schema : EntitySchema) (data : Json) (isCreate : Bool) :
    List ValidationError :=
  schema.fields.flatMap (EntityValidator.fieldErrors lib data isCreate)

end Daemon
end Dbal
