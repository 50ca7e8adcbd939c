/-
# What the entity loader accepts

A document reaches the access registry when `EntitySchemaLoader::parseJson` reads it
without a throw and `SchemaValidator` finds no error in what was read.  Both are said
here about the document itself: `reads` lists the kinds of values that the members
must have, `schemaOf` is the schema that is then read, and `sound` is the whole of
the validation.  A document that throws ends its file, so that a directory comes down
to the documents that stand before the first such one (`loadSchemas_eq`).
-/

import Dbal.Core.EntityLoader
import Dbal.JsonReading

namespace Dbal
namespace Core

/-! ### A field -/

namespace FieldParser

/-- The type of a field, folded. -/
def typeOf (fieldNode : Json) : String := toLower (fieldNode.textAt "type" "string")

/-- Every flag that is there is a boolean; `primaryKey` is not looked at behind a true
`primary`. -/
def readsFlags (fieldNode : Json) : Bool :=
  ["required", "unique", "primary", "generated", "nullable", "index", "sensitive",
    "privileged"].all (fieldNode.memberIs Json.isBoolean) &&
  (fieldNode.flag "primary" || fieldNode.memberIs Json.isBoolean "primaryKey")

/-- The flags of a field. -/
def flagsOf (fieldNode : Json) (field : EntityField) : EntityField :=
  { field with
    required := fieldNode.flag "required"
    unique := fieldNode.flag "unique"
    primary := fieldNode.flag "primary" || fieldNode.flag "primaryKey"
    generated := fieldNode.flag "generated"
    nullable := fieldNode.flag "nullable"
    index := fieldNode.flag "index"
    sensitive := fieldNode.flag "sensitive"
    privileged := fieldNode.flag "privileged" }

theorem yields_parseFlags {fieldNode : Json} (h : fieldNode.isObject) (field : EntityField) :
    Yields (parseFlags fieldNode field) (readsFlags fieldNode)
      (· = flagsOf fieldNode field) := by
  have hflag := Json.yields_valueBool h
  apply Yields.congr
  · apply (hflag "required").bind
    intro required hrequired
    apply (hflag "unique").bind
    intro unique hunique
    apply (hflag "primary").bind
    rintro primary rfl
    apply Yields.orElse (hflag "primaryKey")
    intro primary hprimary
    apply (hflag "generated").bind
    intro generated hgenerated
    apply (hflag "nullable").bind
    intro nullable hnullable
    apply (hflag "index").bind
    intro index hindex
    apply (hflag "sensitive").bind
    intro sensitive hsensitive
    apply (hflag "privileged").bind
    intro privileged hprivileged
    apply Yields.ret
    rw [hrequired, hunique, hprimary, hgenerated, hnullable, hindex, hsensitive, hprivileged]
    rfl
  · simp only [readsFlags, List.all_cons, List.all_nil, Bool.and_true]
    ac_rfl

/-- The length under the first of two spellings that is there. -/
def lengthOf (node : Json) (snake camel : String) : Option Int :=
  ((node.find? snake).or (node.find? camel)).map Json.toInt

/-- The length is missing or a number. -/
def readsLength (node : Json) (snake camel : String) : Bool :=
  ((node.find? snake).or (node.find? camel)).all Json.isIntegral

/-- The values of an enum, if they are there. -/
def valuesOf (fieldNode : Json) (type : String) : Option (List String) :=
  if type = "enum" then (fieldNode.find? "values").map (·.elements.map Json.text) else none

/-- The values of an enum are strings. -/
def readsValues (fieldNode : Json) (type : String) : Bool :=
  type ≠ "enum" || (fieldNode.find? "values").all (·.elements.all Json.isString)

theorem yields_optionalString (node : Json) (key : String) :
    Yields (optionalString node key) (node.memberIs Json.isString key)
      (· = (node.find? key).map Json.text) :=
  Yields.option Json.yields_getString _

theorem yields_optionalInt (node : Json) (snake camel : String) :
    Yields (optionalInt node snake camel) (readsLength node snake camel)
      (· = lengthOf node snake camel) :=
  Yields.option Json.yields_getInt _

theorem yields_parseEnumValues (fieldNode : Json) (type : String) :
    Yields (parseEnumValues fieldNode type) (readsValues fieldNode type)
      (· = valuesOf fieldNode type) := by
  unfold parseEnumValues readsValues valuesOf
  by_cases h : type = "enum"
  · simpa [h] using Yields.option (fun values : Json =>
      Yields.mapM Json.yields_getString values.elements) (fieldNode.find? "values")
  · simp only [ne_eq, h, not_false_eq_true, decide_true, Bool.true_or]
    exact Yields.ret none rfl

/-- The document of a field is read without a throw. -/
def readsField (fieldNode : Json) : Bool :=
  fieldNode.isObject && fieldNode.memberIs Json.isString "type" && readsFlags fieldNode &&
    ["references", "description", "pattern"].all (fieldNode.memberIs Json.isString) &&
    readsLength fieldNode "min_length" "minLength" &&
    readsLength fieldNode "max_length" "maxLength" && readsValues fieldNode (typeOf fieldNode)

/-- The field that is read. -/
def fieldOf (fieldName : String) (fieldNode : Json) : EntityField :=
  { flagsOf fieldNode { name := fieldName, type := typeOf fieldNode } with
    references := (fieldNode.find? "references").map Json.text
    description := (fieldNode.find? "description").map Json.text
    minLength := lengthOf fieldNode "min_length" "minLength"
    maxLength := lengthOf fieldNode "max_length" "maxLength"
    pattern := (fieldNode.find? "pattern").map Json.text
    enumValues := valuesOf fieldNode (typeOf fieldNode) }

theorem yields_parseType {fieldNode : Json} (h : fieldNode.isObject) :
    Yields (parseType fieldNode) (fieldNode.memberIs Json.isString "type")
      (· = typeOf fieldNode) := by
  rw [← Bool.and_true (fieldNode.memberIs _ _)]
  exact (Json.yields_valueString h "type" "string").bind fun type htype =>
    Yields.ret _ (congrArg toLower htype)

/-- **A field.**  It is read exactly when `readsField` holds. -/
theorem yields_parseField (fieldName : String) (fieldNode : Json) :
    Yields (parseField fieldName fieldNode) (readsField fieldNode)
      (· = fieldOf fieldName fieldNode) := by
  cases hobj : fieldNode.isObject with
  | false =>
      have hread : readsField fieldNode = false := by simp [readsField, hobj]
      rw [hread]
      exact Yields.bind_fail (Yields.bind_fail (Json.yields_valueString_of_not_isObject hobj _ _))
  | true =>
      apply Yields.congr
      · apply (yields_parseType hobj).bind
        rintro type rfl
        apply (yields_parseFlags hobj _).bind
        intro field hfield
        apply (yields_optionalString _ "references").bind
        intro references hreferences
        apply (yields_optionalString _ "description").bind
        intro description hdescription
        apply (yields_optionalInt _ _ _).bind
        intro minLength hmin
        apply (yields_optionalInt _ _ _).bind
        intro maxLength hmax
        apply (yields_optionalString _ "pattern").bind
        intro pattern hpattern
        apply (yields_parseEnumValues _ _).bind
        intro values hvalues
        apply Yields.ret
        rw [hfield, hreferences, hdescription, hmin, hmax, hpattern, hvalues]
        rfl
      · simp only [readsField, hobj, List.all_cons, List.all_nil, Bool.and_true, Bool.true_and]
        ac_rfl

end FieldParser

/-! ### An index -/

namespace RelationParser

/-- The fields of an index. -/
def indexFieldsOf (indexNode : Json) : List String :=
  match indexNode.find? "fields" with
  | some fields => fields.elements.map Json.text
  | none => []

/-- The document of an index is read without a throw. -/
def readsIndex (indexNode : Json) : Bool :=
  indexNode.isObject && (indexNode.find? "fields").all (·.elements.all Json.isString) &&
    indexNode.memberIs Json.isBoolean "unique" && indexNode.memberIs Json.isString "name"

/-- The index that is read. -/
def indexOf (indexNode : Json) : EntityIndex where
  fields := indexFieldsOf indexNode
  unique := indexNode.flag "unique"
  name := (indexNode.find? "name").map Json.text

theorem yields_parseIndexFields (indexNode : Json) :
    Yields (parseIndexFields indexNode)
      ((indexNode.find? "fields").all (·.elements.all Json.isString))
      (· = indexFieldsOf indexNode) := by
  unfold parseIndexFields indexFieldsOf
  cases indexNode.find? "fields" with
  | none => exact Yields.ret [] rfl
  | some fields => exact Yields.mapM Json.yields_getString fields.elements

theorem yields_parseIndex (indexNode : Json) :
    Yields (parseIndex indexNode) (readsIndex indexNode) (· = indexOf indexNode) := by
  cases hobj : indexNode.isObject with
  | false =>
      -- the fields of an index that is no object are empty, its flag throws
      have hread : readsIndex indexNode = false := by simp [readsIndex, hobj]
      rw [hread, ← Bool.and_false true]
      have hfind := Json.find?_of_not_isObject (ne_true_of_eq_false hobj) "fields"
      have hfields := yields_parseIndexFields indexNode
      rw [hfind] at hfields
      exact hfields.bind fun _ _ =>
        Yields.bind_fail (Json.yields_valueBool_of_not_isObject hobj "unique")
  | true =>
      apply Yields.congr
      · apply (yields_parseIndexFields indexNode).bind
        intro fields hfields
        apply (Json.yields_valueBool hobj "unique").bind
        intro unique hunique
        apply (FieldParser.yields_optionalString indexNode "name").bind
        intro name hname
        apply Yields.ret
        rw [hfields, hunique, hname]
        rfl
      · simp only [readsIndex, hobj, Bool.true_and, Bool.and_true, Bool.and_assoc]

end RelationParser

/-! ### A schema -/

namespace EntitySchemaLoader

/-- The member that names a schema. -/
def nameMember (node : Json) : Option Json :=
  (node.find? "entity").or ((node.find? "displayName").or (node.find? "name"))

/-- The name of a document. -/
def nameOf (node : Json) : String :=
  match nameMember node with
  | some name => name.text
  | none => ""

/-- The access rules of a document. -/
def aclOf (node : Json) : Option ACL := (node.find? "acl").map RelationParser.parseACL

/-- The fields of a document, as they are listed. -/
def fieldNodes (node : Json) : List (String × Json) :=
  match node.find? "fields" with
  | some fields => fields.items
  | none => []

/-- The indexes of a document. -/
def indexNodes (node : Json) : List Json :=
  match node.find? "indexes" with
  | some indexes => indexes.elements
  | none => []

/-- The members of a document have the kinds that `parseJson` needs. -/
def reads (node : Json) : Bool :=
  (nameMember node).all Json.isString &&
    ["displayName", "description", "version"].all (node.memberIs Json.isString) &&
    (fieldNodes node).all (FieldParser.readsField ·.2) &&
    (indexNodes node).all RelationParser.readsIndex

/-- The schema of a document. -/
def schemaOf (node : Json) : EntitySchema where
  name := nameOf node
  displayName := node.textAt "displayName" (nameOf node)
  description := node.textAt "description" ""
  version := node.textAt "version" "1.0"
  fields := addTenantField node
    ((fieldNodes node).map fun field => FieldParser.fieldOf field.1 field.2)
  indexes := (indexNodes node).map RelationParser.indexOf
  acl := aclOf node

theorem yields_schemaName {node : Json} (h : node.isObject) :
    Yields (schemaName node) ((nameMember node).all Json.isString) (· = nameOf node) := by
  have hvalue := fun key => Json.yields_valueString h key ""
  unfold schemaName nameMember nameOf nameMember
  unfold Json.contains
  unfold Json.memberIs Json.textAt at hvalue
  cases hentity : node.find? "entity" with
  | some value => simpa [hentity] using hvalue "entity"
  | none =>
      cases hdisplay : node.find? "displayName" with
      | some value => simpa [hdisplay] using hvalue "displayName"
      | none =>
          cases hname : node.find? "name" with
          | some value => simpa [hname] using hvalue "name"
          | none => exact Yields.ret "" rfl

/-- The loop over the fields of a document. -/
def parseFields (node : Json) : Except JsonError (List EntityField) :=
  match node.find? "fields" with
  | some fields => fields.items.mapM fun (fieldName, fieldNode) =>
      FieldParser.parseField fieldName fieldNode
  | none => pure []

/-- The loop over the indexes of a document. -/
def parseIndexes (node : Json) : Except JsonError (List EntityIndex) :=
  match node.find? "indexes" with
  | some indexes => indexes.elements.mapM RelationParser.parseIndex
  | none => pure []

theorem parseJson_eq (node : Json) :
    parseJson node = do
      let name ← schemaName node
      let displayName ← node.valueString "displayName" name
      let description ← node.valueString "description" ""
      let version ← node.valueString "version" "1.0"
      let fields ← parseFields node
      let indexes ← parseIndexes node
      return { name, displayName, description, version, indexes
               fields := addTenantField node fields, acl := aclOf node } := by
  unfold parseJson parseFields parseIndexes aclOf
  cases node.find? "fields" <;> cases node.find? "indexes" <;> rfl

theorem yields_parseFields (node : Json) :
    Yields (parseFields node) ((fieldNodes node).all fun field => FieldParser.readsField field.2)
      (· = (fieldNodes node).map fun field => FieldParser.fieldOf field.1 field.2) := by
  unfold parseFields fieldNodes
  cases node.find? "fields" with
  | none => exact Yields.ret [] rfl
  | some fields =>
      exact Yields.mapM (fun field => FieldParser.yields_parseField field.1 field.2) fields.items

theorem yields_parseIndexes (node : Json) :
    Yields (parseIndexes node) ((indexNodes node).all RelationParser.readsIndex)
      (· = (indexNodes node).map RelationParser.indexOf) := by
  unfold parseIndexes indexNodes
  cases node.find? "indexes" with
  | none => exact Yields.ret [] rfl
  | some indexes => exact Yields.mapM RelationParser.yields_parseIndex indexes.elements

/-- **A document.**  `parseJson` reads it exactly when `reads` holds. -/
theorem yields_parseJson {node : Json} (h : node.isObject) :
    Yields (parseJson node) (reads node) (· = schemaOf node) := by
  rw [parseJson_eq]
  apply Yields.congr
  · apply (yields_schemaName h).bind
    rintro name rfl
    apply (Json.yields_valueString h "displayName" _).bind
    intro displayName hdisplay
    apply (Json.yields_valueString h "description" "").bind
    intro description hdescription
    apply (Json.yields_valueString h "version" "1.0").bind
    intro version hversion
    apply (yields_parseFields node).bind
    intro fields hfields
    apply (yields_parseIndexes node).bind
    intro indexes hindexes
    apply Yields.ret
    rw [hdisplay, hdescription, hversion, hfields, hindexes]
    rfl
  · simp only [reads, List.all_cons, List.all_nil, Bool.and_true, Bool.and_assoc]

end EntitySchemaLoader

/-! ### Validation -/

namespace SchemaValidator

/-- A field with a name, a known type, the values of an enum and lengths in order. -/
def soundField (field : EntityField) : Bool :=
  field.name ≠ "" && getValidFieldTypes.contains field.type &&
    (field.type ≠ "enum" || field.enumValues.getD [] ≠ []) &&
    match field.minLength, field.maxLength with
    | some low, some high => low ≤ high
    | _, _ => true

/-- An index over some fields of the schema. -/
def soundIndex (fields : List EntityField) (index : EntityIndex) : Bool :=
  index.fields ≠ [] && index.fields.all fun name => fields.any fun field => field.name = name

/-- A named schema with fields, of which one at most is primary, and indexes over
these. -/
def sound (schema : EntitySchema) : Bool :=
  schema.name ≠ "" && schema.fields ≠ [] && schema.fields.all soundField &&
    (schema.fields.filter EntityField.primary).length ≤ 1 &&
    schema.indexes.all (soundIndex schema.fields)

theorem validateField_eq_nil_iff (field : EntityField) :
    validateField field = [] ↔ soundField field = true := by
  unfold validateField soundField
  by_cases hname : field.name = ""
  · simp [hname]
  · rw [if_neg hname]
    cases field.minLength <;> cases field.maxLength <;>
      simp [hname, imp_iff_not_or, and_assoc]

/-- The loop over the fields, with what `hasPrimary` has seen so far. -/
theorem validateFields_eq_nil_iff (name : String) (fields : List EntityField) :
    ∀ hasPrimary : Bool, validateFields name hasPrimary fields = [] ↔
      fields.all soundField = true ∧
        (fields.filter EntityField.primary).length + hasPrimary.toNat ≤ 1 := by
  induction fields with
  | nil => intro hasPrimary; cases hasPrimary <;> simp [validateFields]
  | cons field fields ih =>
      intro hasPrimary
      rw [validateFields, List.append_eq_nil_iff, List.append_eq_nil_iff, ih,
        validateField_eq_nil_iff, List.all_cons, Bool.and_eq_true]
      cases hfield : field.primary <;> cases hasPrimary <;>
        simp [hfield, and_assoc]

theorem validateIndexes_eq_nil_iff (schema : EntitySchema) :
    validateIndexes schema = [] ↔ schema.indexes.all (soundIndex schema.fields) = true := by
  unfold validateIndexes
  rw [List.flatMap_eq_nil_iff, List.all_eq_true]
  refine forall₂_congr fun index _ => ?_
  unfold soundIndex
  by_cases hfields : index.fields = []
  · simp [hfields]
  · simp [hfields, List.filter_eq_nil_iff]

/-- **Validation.**  A schema has no errors exactly when it is sound. -/
theorem validate_eq_nil_iff (schema : EntitySchema) :
    validate schema = [] ↔ sound schema = true := by
  unfold validate validateMetadata sound
  rw [List.append_eq_nil_iff, List.append_eq_nil_iff, validateFields_eq_nil_iff,
    validateIndexes_eq_nil_iff]
  by_cases hname : schema.name = ""
  · simp [hname]
  · by_cases hfields : schema.fields = []
    · simp [hfields]
    · simp [hname, hfields, and_assoc]

end SchemaValidator

/-! ### A directory -/

namespace EntitySchemaLoader

/-- The objects of a file up to the first one that throws. -/
def readable (root : Json) : List Json := ((docs root).filter Json.isObject).takeWhile reads

/-- The documents that reach the registry, in the order in which they do. -/
def kept (files : List Json) : List Json :=
  files.flatMap fun root =>
    (readable root).filter fun node => SchemaValidator.sound (schemaOf node)

/-- A schema is filed under its name. -/
def file (schemas : Std.TreeMap String EntitySchema) (node : Json) :
    Std.TreeMap String EntitySchema :=
  schemas.insert (nameOf node) (schemaOf node)

theorem loadDocs_eq (nodes : List Json) (schemas : Std.TreeMap String EntitySchema) :
    loadDocs schemas nodes =
      (((nodes.filter Json.isObject).takeWhile reads).filter fun node =>
        SchemaValidator.sound (schemaOf node)).foldl file schemas := by
  induction nodes generalizing schemas with
  | nil => rfl
  | cons node rest ih =>
      rw [loadDocs]
      by_cases hobj : node.isObject = true
      · rw [if_pos hobj, List.filter_cons_of_pos hobj]
        cases hread : reads node with
        | false =>
            obtain ⟨e, he⟩ := (yields_parseJson hobj).2 hread
            rw [he, List.takeWhile_cons_of_neg (by simp [hread])]
            rfl
        | true =>
            obtain ⟨schema, hparse, rfl⟩ := (yields_parseJson hobj).1 hread
            rw [hparse, List.takeWhile_cons_of_pos hread]
            dsimp only
            cases hsound : SchemaValidator.sound (schemaOf node) with
            | false =>
                rw [if_pos, ih, List.filter_cons_of_neg (by simp [hsound])]
                rw [ne_eq, SchemaValidator.validate_eq_nil_iff, hsound]
                exact Or.inr Bool.false_ne_true
            | true =>
                have hname : (schemaOf node).name ≠ "" := by
                  simp only [SchemaValidator.sound, Bool.and_eq_true] at hsound
                  simpa using hsound.1.1.1.1
                rw [if_neg, ih, List.filter_cons_of_pos (by simpa using hsound), List.foldl_cons]
                · rfl
                · rw [ne_eq, SchemaValidator.validate_eq_nil_iff, hsound]
                  simpa using hname
      · rw [if_neg hobj, List.filter_cons_of_neg hobj, ih]

/-- **A directory.**  The registry holds the documents that are kept, each under its
name. -/
theorem loadSchemas_eq (files : List Json) : loadSchemas files = (kept files).foldl file ∅ := by
  unfold loadSchemas kept
  rw [List.foldl_flatMap]
  congr 1
  funext schemas root
  exact loadDocs_eq (docs root) schemas

/-- The last document of a name that is kept. -/
def lastKept (files : List Json) (name : String) : Option Json :=
  (kept files).reverse.find? fun node => nameOf node = name

theorem getElem?_foldl_file (nodes : List Json) (schemas : Std.TreeMap String EntitySchema)
    (name : String) :
    (nodes.foldl file schemas)[name]? =
      ((nodes.reverse.find? fun node => nameOf node = name).map schemaOf).or schemas[name]? := by
  induction nodes generalizing schemas with
  | nil => rfl
  | cons node rest ih =>
      rw [List.foldl_cons, ih, List.reverse_cons, List.find?_append]
      cases rest.reverse.find? fun node => nameOf node = name with
      | some other => rfl
      | none =>
          by_cases hname : nameOf node = name
          · simp [file, hname]
          · simp [file, hname, Std.TreeMap.getElem?_insert]

/-- **Under a name** stands the schema of the last document that is kept under it. -/
theorem getElem?_loadSchemas (files : List Json) (name : String) :
    (loadSchemas files)[name]? = (lastKept files name).map schemaOf := by
  rw [loadSchemas_eq, getElem?_foldl_file, Std.TreeMap.getElem?_emptyc, Option.or_none]
  rfl

end EntitySchemaLoader
end Core
end Dbal
