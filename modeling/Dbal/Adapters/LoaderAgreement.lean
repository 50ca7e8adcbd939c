/-
# The two loaders

The adapters serve the entities that `SchemaLoader::loadFromDirectory` reads, the
access rules come from `EntitySchemaLoader::loadSchemas` over the same files, and a
name that the second does not know is not restricted.  The two disagree in both
directions: the adapters leave relationships out and validate nothing, the registry
reads more of a field and drops what it finds invalid.

`served` and `kept` say which documents each of them accepts, and the loaders agree
exactly when every served document is covered: the last document that the registry
keeps under the same name declares the same rules (`agree_iff_covered`).
-/

import Dbal.Adapters.SchemaLoader
import Dbal.Core.EntityReading

namespace Dbal
namespace Adapters

open Core.EntitySchemaLoader (nameMember nameOf aclOf fieldNodes indexNodes kept lastKept)

namespace SchemaLoader

/-! ### What the adapters read -/

/-- A member that is a list holds strings. -/
def readsStrings (node : Json) (key : String) : Bool :=
  match node.find? key with
  | some (.arr values) => values.all Json.isString
  | _ => true

/-- The members of a field that the adapters look at; of a relationship they only look
at the type. -/
def readsField (fd : Json) : Bool :=
  fd.isObject && fd.memberIs Json.isString "type" &&
    (Core.FieldParser.typeOf fd = "relationship" ||
      ["required", "unique", "primary", "generated", "optional", "nullable", "sensitive"].all
          (fd.memberIs Json.isBoolean) &&
        (fd.flag "primary" || fd.memberIs Json.isBoolean "primaryKey") &&
        readsStrings fd "values")

/-- The members of an index. -/
def readsIndex (idx : Json) : Bool :=
  idx.isObject && (idx.find? "fields").all (·.elements.all Json.isString) &&
    idx.memberIs Json.isBoolean "unique"

/-- The members of a relation. -/
def readsRelation (rd : Json) : Bool :=
  rd.isObject && ["type", "entity", "foreign_key"].all (rd.memberIs Json.isString) &&
    rd.memberIs Json.isBoolean "cascade_delete"

/-- The relations of a document, if they are an object. -/
def relationNodes (json : Json) : List (String × Json) :=
  match json.find? "relations" with
  | some (.obj rels) => (Json.obj rels).items
  | _ => []

/-- The limits of a query, if they are an object. -/
def readsQuery (json : Json) : Bool :=
  match json.find? "query" with
  | some (.obj q) =>
      ["allowed_operators", "allowed_group_by", "allowed_includes"].all
          (readsStrings (.obj q)) &&
        ["max_results", "timeout_ms"].all ((Json.obj q).memberIs Json.isIntegral)
  | _ => true

/-- A document passes the adapters: it has no name, and is left out, or its members have
the kinds that are asked for. -/
def readsEntity (json : Json) : Bool :=
  match nameMember json with
  | none => true
  | some name =>
      name.isString && ["version", "description"].all (json.memberIs Json.isString) &&
        (fieldNodes json).all (fun field => readsField field.2) &&
        (indexNodes json).all readsIndex &&
        (relationNodes json).all (fun rel => readsRelation rel.2) && readsQuery json

theorem yields_stringArray (node : Json) (key : String) :
    Yields (stringArray node key) (readsStrings node key) fun _ => True := by
  unfold stringArray readsStrings
  cases node.find? key with
  | none => exact Yields.ret [] trivial
  | some value =>
      cases value with
      | arr values => exact (Yields.mapM Json.yields_getString values).mono fun _ _ => trivial
      | _ => exact Yields.ret [] trivial

theorem yields_parseField (fn : String) (fd : Json) :
    Yields (parseField fn fd) (readsField fd) fun _ => True := by
  cases hobj : fd.isObject with
  | false =>
      have hread : readsField fd = false := by simp [readsField, hobj]
      rw [hread]
      exact Yields.bind_fail (Json.yields_valueString_of_not_isObject hobj _ _)
  | true =>
      have hflag := Json.yields_valueBool hobj
      unfold parseField readsField
      rw [hobj, Bool.true_and]
      apply (Json.yields_valueString hobj "type" "string").bind
      rintro type rfl
      by_cases hrel : toLower (fd.textAt "type" "string") = "relationship"
      · simpa [hrel, Core.FieldParser.typeOf] using
          Yields.ret (ε := JsonError) (none : Option FieldDefinition) trivial
      · simp only [Core.FieldParser.typeOf, hrel, decide_false, Bool.false_or]
        apply Yields.congr
        · apply (hflag "primary").bind
          rintro primary rfl
          apply Yields.orElse (hflag "primaryKey")
          intro primary hprimary
          apply (hflag "required").bind
          intro required hrequired
          apply (hflag "unique").bind
          intro unique hunique
          apply (hflag "generated").bind
          intro generated hgenerated
          apply (hflag "optional").bind
          intro optional hoptional
          apply (hflag "nullable").bind
          intro nullable hnullable
          apply (hflag "sensitive").bind
          intro sensitive hsensitive
          apply (yields_stringArray fd "values").bind
          intro values hvalues
          exact Yields.ret _ trivial
        · simp only [List.all_cons, List.all_nil, Bool.and_true]
          ac_rfl

theorem parseIndex_eq (idx : Json) :
    parseIndex idx = do
      let fields ← Core.RelationParser.parseIndexFields idx
      return { fields, unique := ← idx.valueBool "unique" false } := by
  unfold parseIndex Core.RelationParser.parseIndexFields
  cases idx.find? "fields" <;> rfl

theorem yields_parseIndex (idx : Json) :
    Yields (parseIndex idx) (readsIndex idx) fun _ => True := by
  have hfields := Core.RelationParser.yields_parseIndexFields idx
  cases hobj : idx.isObject with
  | false =>
      have hread : readsIndex idx = false := by simp [readsIndex, hobj]
      rw [Json.find?_of_not_isObject (ne_true_of_eq_false hobj)] at hfields
      rw [hread, ← Bool.and_false true, parseIndex_eq]
      exact hfields.bind fun _ _ =>
        Yields.bind_fail (Json.yields_valueBool_of_not_isObject hobj "unique")
  | true =>
      rw [parseIndex_eq]
      apply Yields.congr
      · apply hfields.bind
        intro fields _
        apply (Json.yields_valueBool hobj "unique").bind
        intro unique _
        exact Yields.ret _ trivial
      · simp only [readsIndex, hobj, Bool.true_and, Bool.and_true]

theorem yields_parseRelation (rn : String) (rd : Json) :
    Yields (parseRelation rn rd) (readsRelation rd) fun _ => True := by
  cases hobj : rd.isObject with
  | false =>
      have hread : readsRelation rd = false := by simp [readsRelation, hobj]
      rw [hread]
      exact Yields.bind_fail (Json.yields_valueString_of_not_isObject hobj _ _)
  | true =>
      apply Yields.congr
      · apply (Json.yields_valueString hobj "type" "has-many").bind
        intro type _
        apply (Json.yields_valueString hobj "entity" "").bind
        intro entity _
        apply (Json.yields_valueString hobj "foreign_key" "").bind
        intro foreignKey _
        apply (Json.yields_valueBool hobj "cascade_delete").bind
        intro cascadeDelete _
        exact Yields.ret _ trivial
      · simp only [readsRelation, hobj, List.all_cons, List.all_nil, Bool.true_and,
          Bool.and_true, Bool.and_assoc]

theorem yields_parseQuery (members : List (String × Json)) :
    Yields (parseQuery (.obj members))
      (["allowed_operators", "allowed_group_by", "allowed_includes"].all
          (readsStrings (.obj members)) &&
        ["max_results", "timeout_ms"].all ((Json.obj members).memberIs Json.isIntegral))
      fun _ => True := by
  have hstrings := yields_stringArray (.obj members)
  have hint := fun key default => @Json.yields_valueInt (.obj members) rfl key default
  apply Yields.congr
  · apply (hstrings "allowed_operators").bind
    intro operators _
    apply (hstrings "allowed_group_by").bind
    intro groupBy _
    apply (hstrings "allowed_includes").bind
    intro includes _
    apply (hint "max_results" 1000).bind
    intro maxResults _
    apply (hint "timeout_ms" 0).bind
    intro timeoutMs _
    exact Yields.ret _ trivial
  · simp only [List.all_cons, List.all_nil, Bool.and_true, Bool.and_assoc]

/-! ### One document -/

/-- The loop over the fields of a document. -/
def parseFields (json : Json) : Except JsonError (List (Option FieldDefinition)) :=
  match json.find? "fields" with
  | some fields => fields.items.mapM fun (fn, fd) => parseField fn fd
  | none => pure []

/-- The loop over the indexes of a document. -/
def parseIndexes (json : Json) : Except JsonError (List IndexDefinition) :=
  match json.find? "indexes" with
  | some indexes => indexes.elements.mapM parseIndex
  | none => pure []

/-- The loop over the relations of a document. -/
def parseRelations (json : Json) : Except JsonError (List RelationDefinition) :=
  match json.find? "relations" with
  | some (.obj rels) => (Json.obj rels).items.mapM fun (rn, rd) => parseRelation rn rd
  | _ => pure []

/-- The limits of a document. -/
def parseQueryConfig (json : Json) : Except JsonError QueryConfig :=
  match json.find? "query" with
  | some (.obj q) => parseQuery (.obj q)
  | _ => pure {}

theorem parseEntity_eq {json name : Json} (h : nameMember json = some name) :
    parseEntity json = do
      let name ← name.getString
      let version ← json.valueString "version" "1.0"
      let description ← json.valueString "description" ""
      let fields ← parseFields json
      let indexes ← parseIndexes json
      let relations ← parseRelations json
      let queryConfig ← parseQueryConfig json
      return some { name, version, description, indexes, queryConfig
                    fields := addTenantField json (fields.filterMap id)
                    relations := relations.filter fun rel => rel.entity ≠ "" } := by
  have hname : entityName json = some name := h
  unfold parseEntity parseFields parseIndexes parseRelations parseQueryConfig
  rw [hname]
  cases json.find? "fields" <;> cases json.find? "indexes" <;>
    rcases json.find? "relations" with _ | (_ | _ | _ | _ | _ | _ | _ | rels) <;>
      rcases json.find? "query" with _ | (_ | _ | _ | _ | _ | _ | _ | q) <;> rfl

theorem yields_loops (json : Json) :
    Yields (parseFields json) ((fieldNodes json).all fun field => readsField field.2)
        (fun _ => True) ∧
      Yields (parseIndexes json) ((indexNodes json).all readsIndex) (fun _ => True) ∧
      Yields (parseRelations json) ((relationNodes json).all fun rel => readsRelation rel.2)
        (fun _ => True) ∧
      Yields (parseQueryConfig json) (readsQuery json) fun _ => True := by
  refine ⟨?_, ?_, ?_, ?_⟩
  · unfold parseFields fieldNodes
    cases json.find? "fields" with
    | none => exact Yields.ret [] trivial
    | some fields => exact Yields.mapM' (fun field => yields_parseField field.1 field.2) fields.items
  · unfold parseIndexes indexNodes
    cases json.find? "indexes" with
    | none => exact Yields.ret [] trivial
    | some indexes => exact Yields.mapM' yields_parseIndex _
  · unfold parseRelations relationNodes
    rcases json.find? "relations" with _ | (_ | _ | _ | _ | _ | _ | _ | rels)
    case some.obj => exact Yields.mapM' (fun rel => yields_parseRelation rel.1 rel.2) (Json.obj rels).items
    all_goals exact Yields.ret [] trivial
  · unfold parseQueryConfig readsQuery
    rcases json.find? "query" with _ | (_ | _ | _ | _ | _ | _ | _ | q)
    case some.obj => exact yields_parseQuery q
    all_goals exact Yields.ret ({} : QueryConfig) trivial

/-- **A document.**  The adapters read it exactly when `readsEntity` holds, and register
it under its name if it has one. -/
theorem yields_parseEntity {json : Json} (h : json.isObject) :
    Yields (parseEntity json) (readsEntity json) fun entity =>
      entity.map EntityDefinition.name = (nameMember json).map Json.text := by
  unfold readsEntity
  cases hname : nameMember json with
  | none =>
      have hentity : entityName json = none := hname
      unfold parseEntity
      rw [hentity]
      exact Yields.ret none rfl
  | some name =>
      obtain ⟨hfields, hindexes, hrelations, hquery⟩ := yields_loops json
      rw [parseEntity_eq hname]
      apply Yields.congr
      · apply (Json.yields_getString name).bind
        rintro text rfl
        apply (Json.yields_valueString h "version" "1.0").bind
        intro version _
        apply (Json.yields_valueString h "description" "").bind
        intro description _
        apply hfields.bind
        intro fields _
        apply hindexes.bind
        intro indexes _
        apply hrelations.bind
        intro relations _
        apply hquery.bind
        intro queryConfig _
        exact Yields.ret _ rfl
      · simp only [List.all_cons, List.all_nil, Bool.and_true, Bool.and_assoc]

/-! ### A directory -/

/-- The documents of a file that are registered, each with the entity made of it. -/
def registerDocs : List Json → List (Json × EntityDefinition)
  | [] => []
  | node :: rest =>
      if node.isObject then
        match parseEntity node with
        | .error _ => []
        | .ok none => registerDocs rest
        | .ok (some entity) => (node, entity) :: registerDocs rest
      else registerDocs rest

/-- The registrations of a directory: the entities of `loadFromDirectory`, each with its
document. -/
def registrations (files : List Json) : List (Json × EntityDefinition) :=
  files.flatMap fun root => registerDocs (docs root)

theorem map_registerDocs (nodes : List Json) :
    (registerDocs nodes).map Prod.snd = loadDocs nodes := by
  induction nodes with
  | nil => rfl
  | cons node rest ih =>
      unfold registerDocs loadDocs
      by_cases hobj : node.isObject = true
      · rw [if_pos hobj, if_pos hobj]
        rcases parseEntity node with _ | _ | entity
        · rfl
        · exact ih
        · exact congrArg _ ih
      · rw [if_neg hobj, if_neg hobj]
        exact ih

/-- The registrations are those of the loader. -/
theorem map_registrations (files : List Json) :
    (registrations files).map Prod.snd = loadFromDirectory files := by
  unfold registrations loadFromDirectory
  rw [List.map_flatMap]
  congr 1
  funext root
  exact map_registerDocs (docs root)

/-- The documents that the adapters serve: the named objects of a file up to the first
one that throws. -/
def served (files : List Json) : List Json :=
  files.flatMap fun root =>
    (((docs root).filter Json.isObject).takeWhile readsEntity).filter fun node =>
      (nameMember node).isSome

theorem mem_registerDocs {nodes : List Json} {node : Json} {name : String} :
    (∃ entity, (node, entity) ∈ registerDocs nodes ∧ entity.name = name) ↔
      node ∈ ((nodes.filter Json.isObject).takeWhile readsEntity).filter
        (fun node => (nameMember node).isSome) ∧ nameOf node = name := by
  induction nodes with
  | nil => simp [registerDocs]
  | cons doc rest ih =>
      rw [registerDocs]
      by_cases hobj : doc.isObject = true
      · rw [if_pos hobj, List.filter_cons_of_pos hobj]
        cases hread : readsEntity doc with
        | false =>
            obtain ⟨e, he⟩ := (yields_parseEntity hobj).2 hread
            rw [he, List.takeWhile_cons_of_neg (by simp [hread])]
            simp
        | true =>
            obtain ⟨entity, hparse, hentity⟩ := (yields_parseEntity hobj).1 hread
            rw [hparse, List.takeWhile_cons_of_pos hread]
            cases hname : nameMember doc with
            | none =>
                obtain rfl : entity = none := by simpa [hname] using hentity
                rw [List.filter_cons_of_neg (by simp [hname])]
                exact ih
            | some member =>
                rw [hname] at hentity
                obtain ⟨entity, rfl, htext⟩ := Option.map_eq_some_iff.mp hentity
                have hnamed : nameOf doc = entity.name := by rw [htext, nameOf, hname]
                rw [List.filter_cons_of_pos (by simp [hname]), List.mem_cons, or_and_right, ← ih]
                constructor
                · rintro ⟨other, hother, rfl⟩
                  rcases List.mem_cons.mp hother with heq | hrest
                  · obtain ⟨rfl, rfl⟩ := Prod.mk.inj heq
                    exact Or.inl ⟨rfl, hnamed⟩
                  · exact Or.inr ⟨other, hrest, rfl⟩
                · rintro (⟨rfl, rfl⟩ | ⟨other, hrest, rfl⟩)
                  · exact ⟨entity, List.mem_cons_self .., hnamed.symm⟩
                  · exact ⟨other, List.mem_cons_of_mem _ hrest, rfl⟩
      · rw [if_neg hobj, List.filter_cons_of_neg hobj]
        exact ih

theorem mem_registrations {files : List Json} {node : Json} {name : String} :
    (∃ entity, (node, entity) ∈ registrations files ∧ entity.name = name) ↔
      node ∈ served files ∧ nameOf node = name := by
  unfold registrations served
  simp only [List.mem_flatMap]
  constructor
  · rintro ⟨entity, ⟨root, hroot, hmem⟩, hname⟩
    obtain ⟨hserved, hname⟩ := mem_registerDocs.mp ⟨entity, hmem, hname⟩
    exact ⟨⟨root, hroot, hserved⟩, hname⟩
  · rintro ⟨⟨root, hroot, hserved⟩, hname⟩
    obtain ⟨entity, hmem, hname⟩ := mem_registerDocs.mpr ⟨hserved, hname⟩
    exact ⟨entity, ⟨root, hroot, hmem⟩, hname⟩

/-! ### Agreement -/

/-- Two sets of access rules are the same: what is looked up in one is found in the other. -/
structure SameRules (acl acl' : Core.ACL) : Prop where
  create : ∀ predicate : String, acl.create[predicate]? = acl'.create[predicate]?
  read : ∀ predicate : String, acl.read[predicate]? = acl'.read[predicate]?
  update : ∀ predicate : String, acl.update[predicate]? = acl'.update[predicate]?
  del : ∀ predicate : String, acl.del[predicate]? = acl'.del[predicate]?
  roles : ∀ operation : String, acl.roles[operation]? = acl'.roles[operation]?

/-- Every entity that the adapters register is in the registry under the same name, with
the access rules of its document. -/
def Agree (files : List Json) : Prop :=
  ∀ (node : Json) (entity : EntityDefinition), (node, entity) ∈ registrations files →
    ∃ schema, (Core.EntitySchemaLoader.loadSchemas files)[entity.name]? = some schema ∧
      Option.Rel SameRules schema.acl ((node.find? "acl").map Core.RelationParser.parseACL)

/-- The last document that the registry keeps under the name of `node` declares the same
rules. -/
def CoveredBy (files : List Json) (node : Json) : Prop :=
  ∃ other, lastKept files (nameOf node) = some other ∧
    Option.Rel SameRules (aclOf other) (aclOf node)

/-- **When the loaders agree.**  Exactly when every document that the adapters serve is
covered by one that the registry keeps. -/
theorem agree_iff_covered (files : List Json) :
    Agree files ↔ ∀ node ∈ served files, CoveredBy files node := by
  have hlook := Core.EntitySchemaLoader.getElem?_loadSchemas files
  constructor
  · intro h node hserved
    obtain ⟨entity, hmem, hname⟩ := mem_registrations.mpr ⟨hserved, rfl⟩
    obtain ⟨schema, hschema, hacl⟩ := h node entity hmem
    rw [hname, hlook] at hschema
    obtain ⟨other, hother, rfl⟩ := Option.map_eq_some_iff.mp hschema
    exact ⟨other, hother, hacl⟩
  · intro h node entity hmem
    obtain ⟨hserved, hname⟩ := mem_registrations.mp ⟨entity, hmem, rfl⟩
    obtain ⟨other, hother, hacl⟩ := h node hserved
    rw [hname] at hother
    refine ⟨Core.EntitySchemaLoader.schemaOf other, ?_, hacl⟩
    rw [hlook, hother]
    rfl

/-- An entity with a relationship, readable by administrators only. -/
def invoice : Json :=
  .obj [("entity", .str "Invoice"),
    ("fields", .obj [("id", .obj [("type", .str "string")]),
      ("customer", .obj [("type", .str "relationship")])]),
    ("acl", .obj [("read", .obj [("admin", .bool true)])])]

/-- **A relationship loses the rules.**  The adapters leave the field out and serve the
entity, the registry finds the type invalid and drops it. -/
theorem not_agree_invoice : ¬ Agree [invoice] := by
  have hread : readsEntity invoice = true ∧ (nameMember invoice).isSome = true := by
    decide +kernel
  have hkept : Core.EntitySchemaLoader.reads invoice = true ∧ Core.SchemaValidator.sound
      (Core.EntitySchemaLoader.schemaOf invoice) = false := by decide +kernel
  have hdocs : (docs invoice).filter Json.isObject = [invoice] := rfl
  have hdocs' : (Core.EntitySchemaLoader.docs invoice).filter Json.isObject = [invoice] := rfl
  have hserved : invoice ∈ served [invoice] := by simp [served, hdocs, hread]
  intro h
  obtain ⟨entity, hmem, hname⟩ := mem_registrations.mpr ⟨hserved, rfl⟩
  obtain ⟨schema, hschema, -⟩ := h invoice entity hmem
  rw [Core.EntitySchemaLoader.getElem?_loadSchemas] at hschema
  have hnone : kept [invoice] = [] := by
    simp [kept, Core.EntitySchemaLoader.readable, hdocs', hkept]
  simp [lastKept, hnone] at hschema

end SchemaLoader
end Adapters
end Dbal
