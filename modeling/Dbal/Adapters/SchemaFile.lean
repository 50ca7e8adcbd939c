/-
# One schema file

`SchemaLoader::loadFromFile` of `src/adapters/schema_loader.hpp`, next to `loadFromDirectory`.  The
two repeat the reading of a document.  Only the first knows lengths and patterns, takes a list of
values that is no array, and capitalizes a `name`; it reads the first document of a file, the other
one all of them.  They make the same of a file exactly if none of this matters for it.
-/

import Dbal.Adapters.LoaderAgreement

namespace Dbal
namespace Adapters
namespace SchemaLoader

open Core.EntitySchemaLoader (nameMember fieldNodes)

/-! ### Reading one file -/

/-- The text with its first character in upper case, as `std::toupper` has it. -/
def capitalize (text : String) : String :=
  match text.toList with
  | [] => text
  | c :: rest => String.ofList (c.toUpper :: rest)

/-- The name of a schema; one under `name` is capitalized. -/
def fileName (json : Json) : Except JsonError (Option String) :=
  match json.find? "entity" with
  | some name => name.getString.map some
  | none =>
      match json.find? "displayName" with
      | some name => name.getString.map some
      | none =>
          match json.find? "name" with
          | some name => name.getString.map fun name => some (capitalize name)
          | none => pure none

/-- `get_len`. -/
def getLen (fd : Json) (snake camel : String) : Except JsonError (Option Int) :=
  match (fd.find? snake).or (fd.find? camel) with
  | some length => length.getInt.map some
  | none => pure none

/-- The text under `pattern`. -/
def patternOf (fd : Json) : Except JsonError (Option String) :=
  match fd.find? "pattern" with
  | some pattern => pattern.getString.map some
  | none => pure none

/-- The strings under `values`, whatever it is. -/
def fileValues (fd : Json) : Except JsonError (List String) :=
  match fd.find? "values" with
  | some values => values.elements.mapM Json.getString
  | none => pure []

/-- What both functions read of a field, letter by letter the same. -/
def fieldHead (fn : String) (fd : Json) : Except JsonError (Option FieldDefinition) := do
  let ft := toLower (← fd.valueString "type" "string")
  if ft = "relationship" then return none
  let primary ← fd.valueBool "primary" false
  let primary ← if primary then pure true else fd.valueBool "primaryKey" false
  let required ← fd.valueBool "required" false
  let unique ← fd.valueBool "unique" false
  let generated ← fd.valueBool "generated" false
  let optional ← fd.valueBool "optional" false
  let nullable ← fd.valueBool "nullable" false
  let sensitive ← fd.valueBool "sensitive" false
  return some { name := fn, type := fieldType ft, primary, required, unique, generated, optional
                nullable, sensitive, defaultValue := defaultValue fd }

/-- What `loadFromFile` reads besides. -/
def fieldTail (fd : Json) (field : FieldDefinition) : Except JsonError FieldDefinition := do
  return { field with
    minLength := ← getLen fd "min_length" "minLength"
    maxLength := ← getLen fd "max_length" "maxLength"
    pattern := ← patternOf fd
    enumValues := ← fileValues fd }

/-- One field of `loadFromFile`. -/
def parseFileField (fn : String) (fd : Json) : Except JsonError (Option FieldDefinition) := do
  match ← fieldHead fn fd with
  | none => return none
  | some field => return some (← fieldTail fd field)

/-- The loop over the fields of a document. -/
def parseFileFields (json : Json) : Except JsonError (List (Option FieldDefinition)) :=
  match json.find? "fields" with
  | some fields => fields.items.mapM fun (fn, fd) => parseFileField fn fd
  | none => pure []

/-- The document of `loadFromFile`; indexes, relations and the query are read as by
`loadFromDirectory`. -/
def parseFileEntity (json : Json) : Except JsonError (Option EntityDefinition) := do
  let some name ← fileName json | return none
  let version ← json.valueString "version" "1.0"
  let description ← json.valueString "description" ""
  let fields ← parseFileFields json
  let indexes ← parseIndexes json
  let relations ← parseRelations json
  let queryConfig ← parseQueryConfig json
  return some { name, version, description, indexes, queryConfig
                fields := addTenantField json (fields.filterMap id)
                relations := relations.filter fun rel => rel.entity ≠ "" }

/-- The document that `loadFromFile` takes: the first of a file with some. -/
def firstDoc : Json → Json
  | .arr (first :: _) => first
  | root => root

/-- `loadFromFile`, of a file that holds this value. -/
def loadFromFile (root : Json) : Option EntityDefinition :=
  match parseFileEntity (firstDoc root) with
  | .ok entity => entity
  | .error _ => none

/-! ### One field -/

/-- The members that only `loadFromFile` reads are not there, and what it takes for values is what
`loadFromDirectory` takes for them. -/
structure PlainField (fd : Json) : Prop where
  lengths : ∀ key ∈ ["min_length", "minLength", "max_length", "maxLength"], fd.find? key = none
  pattern : fd.find? "pattern" = none
  values : ∀ values, fd.find? "values" = some values → values.isArray ∨ values.elements = []

theorem parseField_eq (fn : String) (fd : Json) :
    parseField fn fd = do
      match ← fieldHead fn fd with
      | none => return none
      | some field => return some { field with enumValues := ← enumValues fd } := by
  unfold parseField fieldHead
  rw [bind_assoc]
  refine bind_congr fun type => ?_
  by_cases hrel : toLower type = "relationship"
  · simp [hrel]
  · simp only [hrel, if_false, pure_bind, bind_assoc]
    refine bind_congr fun primary => ?_
    cases primary <;> simp only [Bool.false_eq_true, if_false, if_true, bind_assoc, pure_bind]

theorem getLen_ok_none {fd : Json} {snake camel : String} :
    getLen fd snake camel = .ok none ↔ fd.find? snake = none ∧ fd.find? camel = none := by
  unfold getLen
  rcases hsnake : fd.find? snake with _ | length
  · rcases hcamel : fd.find? camel with _ | length
    · simp [pure, Except.pure]
    · cases hlength : length.getInt <;> simp [hlength, Except.map]
  · cases hlength : length.getInt <;> simp [hlength, Except.map]

theorem patternOf_ok_none {fd : Json} : patternOf fd = .ok none ↔ fd.find? "pattern" = none := by
  unfold patternOf
  rcases hpattern : fd.find? "pattern" with _ | pattern
  · simp [pure, Except.pure]
  · cases htext : pattern.getString <;> simp [htext, Except.map]

/-- Strings that are read from no values are none, and from no others. -/
theorem mapM_getString_nil {values : List Json} :
    values.mapM Json.getString = .ok [] ↔ values = [] := by
  constructor
  · intro h
    have hmap := ((Yields.mapM Json.yields_getString values).of_ok h).2
    exact List.map_eq_nil_iff.1 hmap.symm
  · rintro rfl
    rfl

/-- Both functions take the same values, or one of them takes none. -/
theorem fileValues_ok_iff {fd : Json} {values : List String} (h : enumValues fd = .ok values) :
    fileValues fd = .ok values ↔
      ∀ values, fd.find? "values" = some values → values.isArray ∨ values.elements = [] := by
  unfold enumValues at h
  unfold fileValues
  rcases hvalues : fd.find? "values" with _ | node
  · rw [hvalues] at h
    simpa using h
  · rw [hvalues] at h
    simp only [Option.some.injEq, forall_eq']
    cases node with
    | arr elements => exact iff_of_true h (.inl rfl)
    | _ =>
        obtain rfl := Except.ok.inj h
        simp only [Json.isArray, Bool.false_eq_true, false_or]
        exact mapM_getString_nil

/-- What `loadFromDirectory` takes for values it can read if `loadFromFile` can. -/
theorem enumValues_of_fileValues {fd : Json} {values : List String}
    (h : fileValues fd = .ok values) :
    ∃ values, enumValues fd = .ok values := by
  unfold fileValues at h
  unfold enumValues
  rcases hvalues : fd.find? "values" with _ | node
  · exact ⟨[], rfl⟩
  · rw [hvalues] at h
    cases node with
    | arr elements => exact ⟨values, h⟩
    | _ => exact ⟨[], rfl⟩

/-- The head of a field says nothing of lengths, patterns and values; there is none for a
relationship. -/
theorem fieldHead_ok {fn : String} {fd : Json} {head : Option FieldDefinition}
    (h : fieldHead fn fd = .ok head) :
    (head = none ↔ Core.FieldParser.typeOf fd = "relationship") ∧
      ∀ field ∈ head, field.minLength = none ∧ field.maxLength = none ∧ field.pattern = none ∧
        field.enumValues = [] := by
  obtain ⟨type, htype, h⟩ := bind_ok_iff.1 h
  have htypeOf : Core.FieldParser.typeOf fd = toLower type := by
    cases hobj : fd.isObject with
    | false =>
        obtain ⟨e, he⟩ := (Json.yields_valueString_of_not_isObject hobj "type" "string").2 rfl
        cases he.symm.trans htype
    | true => rw [((Json.yields_valueString hobj "type" "string").of_ok htype).2,
        Core.FieldParser.typeOf]
  rw [htypeOf]
  by_cases hrel : toLower type = "relationship"
  · rw [if_pos hrel] at h
    obtain rfl := Except.ok.inj h
    exact ⟨iff_of_true rfl hrel, by simp⟩
  · simp only [if_neg hrel, bind_ok_iff] at h
    obtain ⟨primary, -, h⟩ := h
    have hsome : ∃ field : FieldDefinition, head = some field ∧ field.minLength = none ∧
        field.maxLength = none ∧ field.pattern = none ∧ field.enumValues = [] := by
      cases primary
      all_goals
        simp only [Bool.false_eq_true, if_false, if_true, bind_ok_iff] at h
        obtain ⟨_, -, _, -, _, -, _, -, _, -, _, -, _, -, h⟩ := h
        exact ⟨_, (Except.ok.inj h).symm, rfl, rfl, rfl, rfl⟩
    obtain ⟨field, rfl, hfield⟩ := hsome
    exact ⟨iff_of_false (Option.some_ne_none field) hrel,
      fun other hother => Option.some.inj hother ▸ hfield⟩

/-- **A field that `loadFromFile` can read, `loadFromDirectory` can**, under the same name and as
a relationship only if the other does. -/
theorem parseField_of_file {fn : String} {fd : Json} {field' : Option FieldDefinition}
    (h : parseFileField fn fd = .ok field') :
    ∃ field, parseField fn fd = .ok field ∧ field.map (·.name) = field'.map (·.name) := by
  obtain ⟨head, hhead, h⟩ := bind_ok_iff.1 h
  rw [parseField_eq, hhead]
  rcases head with _ | head
  · obtain rfl := Except.ok.inj h
    exact ⟨none, rfl, rfl⟩
  · obtain ⟨tail, htail, h⟩ := bind_ok_iff.1 h
    obtain rfl := Except.ok.inj h
    simp only [fieldTail, bind_ok_iff] at htail
    obtain ⟨_, -, _, -, _, -, values', hvalues', htail⟩ := htail
    obtain rfl := Except.ok.inj htail
    obtain ⟨values, hvalues⟩ := enumValues_of_fileValues hvalues'
    exact ⟨some { head with enumValues := values }, by simp [bind, Except.bind, hvalues, pure,
      Except.pure], rfl⟩

/-- **When both functions read a field alike**: it is a relationship, or a plain field. -/
theorem parseFileField_iff {fn : String} {fd : Json} {field : Option FieldDefinition}
    (h : parseField fn fd = .ok field) :
    parseFileField fn fd = .ok field ↔
      (Core.FieldParser.typeOf fd ≠ "relationship" → PlainField fd) := by
  rw [parseField_eq] at h
  obtain ⟨head, hhead, h⟩ := bind_ok_iff.1 h
  obtain ⟨hrel, hempty⟩ := fieldHead_ok hhead
  rw [parseFileField, hhead]
  rcases head with _ | head
  · exact iff_of_true h (fun hne => absurd (hrel.1 rfl) hne)
  · have hne : Core.FieldParser.typeOf fd ≠ "relationship" := fun heq => nomatch hrel.2 heq
    obtain ⟨values, hvalues, h⟩ := bind_ok_iff.1 h
    obtain rfl := Except.ok.inj h
    obtain ⟨hmin, hmax, hpattern, -⟩ := hempty head rfl
    have htail :
        (do return some (← fieldTail fd head) : Except JsonError (Option FieldDefinition)) =
          .ok (some { head with enumValues := values }) ↔
        getLen fd "min_length" "minLength" = .ok none ∧
          getLen fd "max_length" "maxLength" = .ok none ∧ patternOf fd = .ok none ∧
          fileValues fd = .ok values := by
      obtain ⟨⟩ := head
      obtain rfl := hmin
      obtain rfl := hmax
      obtain rfl := hpattern
      simp only [fieldTail, bind_ok_iff]
      constructor
      · rintro ⟨field, ⟨_, h₁, _, h₂, _, h₃, _, h₄, hfield⟩, heq⟩
        obtain rfl := Except.ok.inj hfield
        simp only [pure, Except.pure, Except.ok.injEq, Option.some.injEq,
          FieldDefinition.mk.injEq, true_and] at heq
        obtain ⟨rfl, rfl, rfl, rfl, -⟩ := heq
        exact ⟨h₁, h₂, h₃, h₄⟩
      · rintro ⟨h₁, h₂, h₃, h₄⟩
        exact ⟨_, ⟨_, h₁, _, h₂, _, h₃, _, h₄, rfl⟩, rfl⟩
    refine htail.trans ?_
    rw [getLen_ok_none, getLen_ok_none, patternOf_ok_none, fileValues_ok_iff hvalues]
    constructor
    · rintro ⟨⟨h₁, h₂⟩, ⟨h₃, h₄⟩, hpattern, hplain⟩ -
      exact ⟨by simp [h₁, h₂, h₃, h₄], hpattern, hplain⟩
    · intro hplain
      obtain ⟨hlengths, hpattern, hplain⟩ := hplain hne
      exact ⟨⟨hlengths _ (by simp), hlengths _ (by simp)⟩,
        ⟨hlengths _ (by simp), hlengths _ (by simp)⟩, hpattern, hplain⟩

/-! ### The fields of a document -/

section Lists

variable {ε α β : Type} {f f' : α → Except ε β}

/-- Two loops of which the second succeeds only where the first does. -/
theorem mapM_of_mapM {R : β → β → Prop}
    (h : ∀ a b', f' a = .ok b' → ∃ b, f a = .ok b ∧ R b b') {l : List α} {bs' : List β}
    (hl : l.mapM f' = .ok bs') : ∃ bs, l.mapM f = .ok bs ∧ List.Forall₂ R bs bs' := by
  induction l generalizing bs' with
  | nil =>
      obtain rfl := Except.ok.inj hl
      exact ⟨[], rfl, .nil⟩
  | cons a l ih =>
      rw [List.mapM_cons] at hl
      obtain ⟨b', hb', hl⟩ := bind_ok_iff.1 hl
      obtain ⟨bs'', hbs'', hl⟩ := bind_ok_iff.1 hl
      obtain rfl := Except.ok.inj hl
      obtain ⟨b, hb, hR⟩ := h a b' hb'
      obtain ⟨bs, hbs, hall⟩ := ih hbs''
      refine ⟨b :: bs, ?_, .cons hR hall⟩
      rw [List.mapM_cons, hb, hbs]
      rfl

/-- A loop that succeeds does so at every element. -/
theorem ok_of_mapM {l : List α} {bs : List β} (hl : l.mapM f = .ok bs) {a : α} (ha : a ∈ l) :
    ∃ b, f a = .ok b := by
  induction l generalizing bs with
  | nil => cases ha
  | cons first l ih =>
      rw [List.mapM_cons] at hl
      obtain ⟨b, hb, hl⟩ := bind_ok_iff.1 hl
      obtain ⟨bs, hbs, -⟩ := bind_ok_iff.1 hl
      rcases List.mem_cons.1 ha with rfl | ha
      · exact ⟨b, hb⟩
      · exact ih hbs ha

/-- Two loops with the same results. -/
theorem mapM_same_iff {l : List α} {bs : List β} (hl : l.mapM f = .ok bs) :
    l.mapM f' = .ok bs ↔ ∀ a ∈ l, f' a = f a := by
  induction l generalizing bs with
  | nil => simpa using hl
  | cons a l ih =>
      rw [List.mapM_cons] at hl ⊢
      obtain ⟨b, hb, hl⟩ := bind_ok_iff.1 hl
      obtain ⟨bs, hbs, hl⟩ := bind_ok_iff.1 hl
      obtain rfl := Except.ok.inj hl
      rw [List.forall_mem_cons, ← ih hbs, hb]
      simp only [bind_ok_iff]
      constructor
      · rintro ⟨b', hb', bs', hbs', heq⟩
        obtain ⟨rfl, rfl⟩ := List.cons.inj (Except.ok.inj heq)
        exact ⟨hb', hbs'⟩
      · rintro ⟨hb', hbs'⟩
        exact ⟨b, hb', bs, hbs', rfl⟩

end Lists

/-- Two readings of the same fields: the same names, and nothing at the same places. -/
abbrev SameNames (fields fields' : List (Option FieldDefinition)) : Prop :=
  List.Forall₂ (fun field field' => field.map (·.name) = field'.map (·.name)) fields fields'

theorem SameNames.eq_of_filterMap {fields fields' : List (Option FieldDefinition)}
    (h : SameNames fields fields') (heq : fields'.filterMap id = fields.filterMap id) :
    fields' = fields := by
  induction h with
  | nil => rfl
  | @cons field field' fields fields' hname _ ih =>
      rcases field with _ | field <;> rcases field' with _ | field' <;> simp at hname heq
      · rw [ih heq]
      · rw [heq.1, ih heq.2]

theorem SameNames.any_tenant {fields fields' : List (Option FieldDefinition)}
    (h : SameNames fields fields') :
    ((fields'.filterMap id).any fun field => field.name = "tenantId") =
      (fields.filterMap id).any fun field => field.name = "tenantId" := by
  induction h with
  | nil => rfl
  | @cons field field' fields fields' hname _ ih =>
      rcases field with _ | field <;> rcases field' with _ | field' <;> simp at hname ih ⊢
      · exact ih
      · rw [hname, ih]

/-- The implicit column does not hide a difference. -/
theorem SameNames.eq_of_addTenantField {json : Json}
    {fields fields' : List (Option FieldDefinition)}
    (h : SameNames fields fields')
    (heq : addTenantField json (fields'.filterMap id) = addTenantField json (fields.filterMap id)) :
    fields' = fields := by
  refine h.eq_of_filterMap ?_
  unfold addTenantField at heq
  rw [h.any_tenant] at heq
  split at heq
  · split_ifs at heq
    · exact heq
    · exact List.append_cancel_right heq
  · exact heq

theorem parseFields_of_file {json : Json} {fields' : List (Option FieldDefinition)}
    (h : parseFileFields json = .ok fields') :
    ∃ fields, parseFields json = .ok fields ∧ SameNames fields fields' := by
  unfold parseFileFields at h
  unfold parseFields
  rcases hfields : json.find? "fields" with _ | fields
  · rw [hfields] at h
    obtain rfl := Except.ok.inj h
    exact ⟨[], rfl, .nil⟩
  · rw [hfields] at h
    exact mapM_of_mapM (fun field _ hfield => parseField_of_file hfield) h

/-- Every field is a relationship or a plain one. -/
def PlainFields (json : Json) : Prop :=
  ∀ field ∈ fieldNodes json, Core.FieldParser.typeOf field.2 ≠ "relationship" → PlainField field.2

theorem parseFileFields_iff {json : Json} {fields : List (Option FieldDefinition)}
    (h : parseFields json = .ok fields) : parseFileFields json = .ok fields ↔ PlainFields json := by
  unfold parseFields at h
  unfold parseFileFields PlainFields fieldNodes
  rcases hfields : json.find? "fields" with _ | nodes
  · rw [hfields] at h
    exact iff_of_true h (by simp)
  · rw [hfields] at h
    refine (mapM_same_iff h).trans (forall₂_congr fun field hfield => ?_)
    obtain ⟨fn, fd⟩ := field
    obtain ⟨result, hresult⟩ := ok_of_mapM h hfield
    exact Iff.trans (by rw [← hresult]) (parseFileField_iff hresult)

/-! ### A document -/

/-- The rest of a document, once it is known what becomes of its name and its fields. -/
def entityFrom (json : Json) (name : Except JsonError String)
    (fields : Except JsonError (List (Option FieldDefinition))) :
    Except JsonError (Option EntityDefinition) := do
  let name ← name
  let version ← json.valueString "version" "1.0"
  let description ← json.valueString "description" ""
  let fields ← fields
  let indexes ← parseIndexes json
  let relations ← parseRelations json
  let queryConfig ← parseQueryConfig json
  return some { name, version, description, indexes, queryConfig
                fields := addTenantField json (fields.filterMap id)
                relations := relations.filter fun rel => rel.entity ≠ "" }

/-- The member that `loadFromFile` capitalizes is the one that names the schema. -/
def Capitalizes (json : Json) : Prop :=
  json.find? "entity" = none ∧ json.find? "displayName" = none

instance (json : Json) : Decidable (Capitalizes json) := by
  unfold Capitalizes
  exact inferInstance

/-- What `loadFromFile` makes of a name. -/
def fileText (json : Json) (text : String) : String :=
  if Capitalizes json then capitalize text else text

theorem fileName_eq {json name : Json} (h : nameMember json = some name) :
    fileName json = name.getString.map fun text => some (fileText json text) := by
  have hcapitalizes : Capitalizes json ↔
      json.find? "entity" = none ∧ json.find? "displayName" = none :=
    Iff.rfl
  unfold nameMember at h
  unfold fileName fileText
  simp only [hcapitalizes]
  rcases hentity : json.find? "entity" with _ | entity
  · rcases hdisplay : json.find? "displayName" with _ | display
    · rw [hentity, hdisplay, Option.none_or, Option.none_or] at h
      simp [h]
    · rw [hentity, hdisplay, Option.none_or, Option.some_or] at h
      obtain rfl := Option.some.inj h
      simp
  · rw [hentity, Option.some_or] at h
    obtain rfl := Option.some.inj h
    simp

theorem parseFileEntity_eq {json name : Json} (h : nameMember json = some name) :
    parseFileEntity json =
      entityFrom json (name.getString.map (fileText json)) (parseFileFields json) := by
  unfold parseFileEntity entityFrom
  rw [fileName_eq h]
  cases name.getString <;> rfl

theorem parseFileEntity_nameless {json : Json} (h : nameMember json = none) :
    parseFileEntity json = .ok none := by
  simp only [nameMember, Option.or_eq_none_iff] at h
  obtain ⟨hentity, hdisplay, hname⟩ := h
  have hfile : fileName json = .ok none := by
    simp [fileName, hentity, hdisplay, hname, pure, Except.pure]
  rw [parseFileEntity, hfile]
  rfl

theorem entityFrom_ok_iff {json : Json} {name : Except JsonError String}
    {fields : Except JsonError (List (Option FieldDefinition))} {entity : Option EntityDefinition} :
    entityFrom json name fields = .ok entity ↔
      ∃ text, name = .ok text ∧ ∃ version, json.valueString "version" "1.0" = .ok version ∧
        ∃ description, json.valueString "description" "" = .ok description ∧
        ∃ list, fields = .ok list ∧ ∃ indexes, parseIndexes json = .ok indexes ∧
        ∃ relations, parseRelations json = .ok relations ∧
        ∃ queryConfig, parseQueryConfig json = .ok queryConfig ∧
        entity = some { name := text, version, description, indexes, queryConfig
                        fields := addTenantField json (list.filterMap id)
                        relations := relations.filter fun rel => rel.entity ≠ "" } := by
  simp only [entityFrom, bind_ok_iff, pure, Except.pure, Except.ok.injEq, eq_comm (a := entity)]

/-- **A document that `loadFromFile` can read, `loadFromDirectory` can.** -/
theorem parseEntity_of_file {json name : Json} (hname : nameMember json = some name)
    {entity' : Option EntityDefinition} (h : parseFileEntity json = .ok entity') :
    ∃ entity, parseEntity json = .ok (some entity) := by
  rw [parseFileEntity_eq hname, entityFrom_ok_iff] at h
  obtain ⟨text, htext, version, hversion, description, hdescription, fields', hfields', indexes,
    hindexes, relations, hrelations, queryConfig, hqueryConfig, -⟩ := h
  obtain ⟨fields, hfields, -⟩ := parseFields_of_file hfields'
  obtain ⟨raw, hraw⟩ : ∃ raw, name.getString = .ok raw := by
    rcases hraw : name.getString with e | raw
    · rw [hraw] at htext
      cases htext
    · exact ⟨raw, rfl⟩
  have hentity := entityFrom_ok_iff.2 ⟨raw, hraw, version, hversion, description, hdescription,
    fields, hfields, indexes, hindexes, relations, hrelations, queryConfig, hqueryConfig, rfl⟩
  exact ⟨_, (parseEntity_eq hname).trans hentity⟩

/-- `loadFromFile` leaves the name as it is, and reads the fields as `loadFromDirectory` does. -/
structure PlainDocument (json : Json) : Prop where
  name : Capitalizes json → ∀ name ∈ nameMember json, capitalize name.text = name.text
  fields : PlainFields json

/-- **When both functions read a document alike.** -/
theorem parseFileEntity_iff {json : Json} {entity : EntityDefinition}
    (h : parseEntity json = .ok (some entity)) :
    parseFileEntity json = .ok (some entity) ↔ PlainDocument json := by
  rcases hname : nameMember json with _ | name
  · have hnone : entityName json = none := hname
    rw [parseEntity, hnone] at h
    cases Except.ok.inj h
  rw [parseEntity_eq hname] at h
  obtain ⟨text, htext, version, hversion, description, hdescription, fields, hfields, indexes,
    hindexes, relations, hrelations, queryConfig, hqueryConfig, heq⟩ := entityFrom_ok_iff.1 h
  have hraw := ((Json.yields_getString name).of_ok htext).2
  have hfileName : fileText json text = text ↔
      (Capitalizes json → ∀ name ∈ nameMember json, capitalize name.text = name.text) := by
    unfold fileText
    rw [hname, hraw]
    split_ifs with hcapitalizes <;> simp [hcapitalizes]
  rw [parseFileEntity_eq hname, htext]
  constructor
  · intro h'
    obtain ⟨text', htext', version', -, description', -, fields', hfields', indexes', -, relations',
      -, queryConfig', -, heq'⟩ := entityFrom_ok_iff.1 h'
    rw [heq] at heq'
    simp only [Option.some.injEq, EntityDefinition.mk.injEq] at heq'
    obtain ⟨rfl, -, -, htenant, -⟩ := heq'
    obtain ⟨other, hother, hsame⟩ := parseFields_of_file hfields'
    obtain rfl := Except.ok.inj (hother.symm.trans hfields)
    obtain rfl := hsame.eq_of_addTenantField htenant.symm
    exact ⟨hfileName.1 (Except.ok.inj htext'), (parseFileFields_iff hfields).1 hfields'⟩
  · rintro ⟨hplainName, hplainFields⟩
    have hname' := congrArg (Except.ok (ε := JsonError)) (hfileName.2 hplainName)
    refine entityFrom_ok_iff.2 ⟨text, hname', version, hversion, description, hdescription, fields,
      (parseFileFields_iff hfields).2 hplainFields, indexes,
      hindexes, relations, hrelations, queryConfig, hqueryConfig, heq⟩

/-! ### A file -/

/-- The first document is one that `loadFromDirectory` registers. -/
def Registers (json : Json) : Prop :=
  json.isObject ∧ readsEntity json ∧ (nameMember json).isSome

/-- The documents that are registered, of those of a file. -/
def registered (nodes : List Json) : List Json :=
  ((nodes.filter Json.isObject).takeWhile readsEntity).filter fun node => (nameMember node).isSome

theorem served_singleton (root : Json) : served [root] = registered (docs root) :=
  List.flatMap_singleton ..

theorem Registers.of_mem {nodes : List Json} {node : Json} (h : node ∈ registered nodes) :
    Registers node := by
  obtain ⟨hmem, hname⟩ := List.mem_filter.1 h
  have hread := List.all_eq_true.1 (List.all_takeWhile (p := readsEntity)) node hmem
  have hobj := (List.mem_filter.1 ((List.takeWhile_sublist _).subset hmem)).2
  exact ⟨hobj, hread, hname⟩

theorem registered_cons {node : Json} (h : Registers node) (rest : List Json) :
    registered (node :: rest) = node :: registered rest := by
  obtain ⟨hobj, hread, hname⟩ := h
  unfold registered
  rw [List.filter_cons_of_pos hobj, List.takeWhile_cons_of_pos hread]
  exact List.filter_cons_of_pos (p := fun node => (nameMember node).isSome) hname

theorem parseEntity_of_registers {node : Json} (h : Registers node) :
    ∃ entity, parseEntity node = .ok (some entity) := by
  obtain ⟨hobj, hread, hname⟩ := h
  obtain ⟨entity, hparse, hentity⟩ := (yields_parseEntity hobj).1 hread
  obtain ⟨name, hname⟩ := Option.isSome_iff_exists.1 hname
  rw [hname] at hentity
  obtain ⟨entity, rfl, -⟩ := Option.map_eq_some_iff.1 hentity
  exact ⟨entity, hparse⟩

/-- The directory loader makes something of a file if it registers a document of it. -/
theorem loadDocs_nil_iff {nodes : List Json} : loadDocs nodes = [] ↔ registered nodes = [] := by
  rw [← map_registerDocs, List.map_eq_nil_iff, List.eq_nil_iff_forall_not_mem,
    List.eq_nil_iff_forall_not_mem]
  constructor
  · intro h node hnode
    obtain ⟨entity, hmem, -⟩ := mem_registerDocs.2 ⟨hnode, rfl⟩
    exact h _ hmem
  · rintro h ⟨node, entity⟩ hmem
    exact h node (mem_registerDocs.1 ⟨entity, hmem, rfl⟩).1

/-- `loadFromFile` makes nothing of what `loadFromDirectory` leaves out. -/
theorem parseFileEntity_of_not_registers {json : Json} (h : ¬ Registers json)
    {entity : EntityDefinition} : parseFileEntity json ≠ .ok (some entity) := by
  intro hfile
  rcases hname : nameMember json with _ | name
  · rw [parseFileEntity_nameless hname] at hfile
    cases Except.ok.inj hfile
  · have hobj : json.isObject = true := by
      by_contra hobj
      simp [nameMember, Json.find?_of_not_isObject hobj] at hname
    have hread : readsEntity json = true := by
      obtain ⟨entity, hparse⟩ := parseEntity_of_file hname hfile
      by_contra hread
      obtain ⟨e, he⟩ := (yields_parseEntity hobj).2 (eq_false_of_ne_true hread)
      exact nomatch he.symm.trans hparse
    exact h ⟨hobj, hread, by rw [hname]; rfl⟩

theorem loadFromFile_iff {root : Json} {entity : EntityDefinition} :
    loadFromFile root = some entity ↔ parseFileEntity (firstDoc root) = .ok (some entity) := by
  unfold loadFromFile
  rcases parseFileEntity (firstDoc root) with e | result
  · exact iff_of_false (fun h => nomatch h) (fun h => nomatch h)
  · exact ⟨congrArg Except.ok, Except.ok.inj⟩

/-- The file loader takes the first of the documents, and nothing of an empty array. -/
theorem firstDoc_cases (root : Json) :
    (docs root = [] ∧ nameMember (firstDoc root) = none) ∨
      ∃ rest, docs root = firstDoc root :: rest := by
  cases root with
  | arr nodes =>
      cases nodes with
      | nil => exact .inl ⟨rfl, rfl⟩
      | cons node rest => exact .inr ⟨rest, rfl⟩
  | _ => exact .inr ⟨[], rfl⟩

/-- Nothing is registered but the first document, and that is a plain one. -/
def OneSchema (root : Json) : Prop :=
  served [root] = [] ∨
    ∃ node, served [root] = [node] ∧ (docs root).head? = some node ∧ PlainDocument node

/-- A file whose first document is not registered. -/
theorem same_schema_of_not_registers {root : Json} (h : ¬ Registers (firstDoc root)) :
    loadFromDirectory [root] = (loadFromFile root).toList ↔ OneSchema root := by
  have hfile : loadFromFile root = none := by
    by_contra hsome
    obtain ⟨entity, hsome⟩ := Option.ne_none_iff_exists'.1 hsome
    exact parseFileEntity_of_not_registers h (loadFromFile_iff.1 hsome)
  have hother : ¬ ∃ node, served [root] = [node] ∧ (docs root).head? = some node ∧
      PlainDocument node := by
    rintro ⟨node, hserved, hhead, -⟩
    rcases firstDoc_cases root with ⟨hdocs, -⟩ | ⟨rest, hdocs⟩
    · rw [hdocs] at hhead
      cases hhead
    · rw [hdocs] at hhead
      obtain rfl := Option.some.inj hhead
      rw [served_singleton] at hserved
      exact h (.of_mem (hserved ▸ List.mem_singleton_self _))
  rw [OneSchema, or_iff_left hother, hfile, served_singleton, ← loadDocs_nil_iff, loadFromDirectory,
    List.flatMap_singleton]
  rfl

/-- A file whose first document is registered. -/
theorem same_schema_of_registers {root : Json} (h : Registers (firstDoc root)) :
    loadFromDirectory [root] = (loadFromFile root).toList ↔ OneSchema root := by
  obtain ⟨entity, hentity⟩ := parseEntity_of_registers h
  rcases firstDoc_cases root with ⟨-, hname⟩ | ⟨rest, hdocs⟩
  · have hsome := h.2.2
    rw [hname] at hsome
    cases hsome
  have hdirectory : loadFromDirectory [root] = entity :: loadDocs rest := by
    rw [loadFromDirectory, List.flatMap_singleton, hdocs, loadDocs, if_pos h.1, hentity]
  have hserved : served [root] = firstDoc root :: registered rest := by
    rw [served_singleton, hdocs, registered_cons h]
  have hplain := (parseFileEntity_iff hentity).symm.trans loadFromFile_iff.symm
  unfold OneSchema
  rw [hdirectory, hserved, hdocs]
  constructor
  · intro heq
    rcases hfile : loadFromFile root with _ | entity'
    · rw [hfile] at heq
      cases heq
    · rw [hfile] at heq
      obtain ⟨rfl, hrest⟩ := List.cons.inj heq
      exact .inr ⟨_, congrArg _ (loadDocs_nil_iff.1 hrest), rfl, hplain.2 hfile⟩
  · rintro (hnil | ⟨node, hone, hhead, hnode⟩)
    · cases hnil
    · obtain rfl := Option.some.inj hhead
      have hrest := (List.cons.inj hone).2
      rw [loadDocs_nil_iff.2 hrest, hplain.1 hnode]
      rfl

/-- **One schema file means one schema exactly if it registers none, or one plain document that is
the first of the file.** -/
theorem same_schema_iff (root : Json) :
    loadFromDirectory [root] = (loadFromFile root).toList ↔ OneSchema root := by
  by_cases h : Registers (firstDoc root)
  · exact same_schema_of_registers h
  · exact same_schema_of_not_registers h

/-- A name of at most five characters. -/
def shortName : Json :=
  .obj [("entity", .str "User"),
    ("fields", .obj [("name", .obj [("type", .str "string"), ("maxLength", .int 5)])])]

/-- The directory loader loses the length of a field. -/
theorem not_same_schema_shortName :
    loadFromDirectory [shortName] ≠ (loadFromFile shortName).toList := by
  have hdirectory : ((loadFromDirectory [shortName]).map fun entity =>
      entity.fields.map (·.maxLength)) = [[none]] := by decide +kernel
  have hfile : ((loadFromFile shortName).toList.map fun entity =>
      entity.fields.map (·.maxLength)) = [[some 5]] := by decide +kernel
  intro h
  rw [h, hfile] at hdirectory
  exact absurd hdirectory (by decide)

end SchemaLoader
end Adapters
end Dbal
