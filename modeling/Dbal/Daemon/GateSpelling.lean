/-
# Two spellings of one entity

The adapter finds a schema under its declared name and under that name in lower case
(`SqlAdapter.spelled_loadSchemas`), the access registry under the declared name only,
and it restricts nothing under a name that it does not know.  So the gates judge the
two spellings alike exactly when the files declare the same rule under both
(`gates_spelling_iff`); where they declare one under the first alone, everything that
it restricts is open under the second (`credential_in_lower_case`).
-/

import Dbal.Adapters.SchemaLoader
import Dbal.Daemon.GateRule

namespace Dbal
namespace Daemon

open Dbal.Core

/-! ### What the files declare -/

/-- The schemas that the registry's loader accepts from the documents of one file. -/
def accepted : List Json → List EntitySchema
  | [] => []
  | node :: rest =>
      if node.isObject then
        match EntitySchemaLoader.parseJson node with
        | .error _ => []
        | .ok schema =>
            if schema.name = "" ∨ SchemaValidator.validate schema ≠ [] then accepted rest
            else schema :: accepted rest
      else accepted rest

/-- The last schema that the files declare under a name. -/
def declared (files : List Json) (name : String) : Option EntitySchema :=
  (files.flatMap fun root => accepted (EntitySchemaLoader.docs root)).findRev? fun schema =>
    schema.name = name

theorem loadDocs_eq (docs : List Json) (schemas : Std.TreeMap String EntitySchema) :
    EntitySchemaLoader.loadDocs schemas docs =
      (accepted docs).foldl (fun schemas schema => schemas.insert schema.name schema) schemas := by
  induction docs generalizing schemas with
  | nil => rfl
  | cons node rest ih =>
      simp only [EntitySchemaLoader.loadDocs, accepted]
      by_cases hobj : node.isObject
      · simp only [hobj, if_true]
        cases EntitySchemaLoader.parseJson node with
        | error e => rfl
        | ok schema =>
            by_cases hskip : schema.name = "" ∨ SchemaValidator.validate schema ≠ []
            · simp only [if_pos hskip, ih]
            · simp only [if_neg hskip, ih, List.foldl_cons]
      · simp only [hobj, Bool.false_eq_true, if_false, ih]

/-- The last entry under a name is the one that is found. -/
theorem foldl_insert_getElem? (name : String) (entries : List EntitySchema)
    (schemas : Std.TreeMap String EntitySchema) :
    (entries.foldl (fun schemas schema => schemas.insert schema.name schema) schemas)[name]? =
      (entries.findRev? fun schema => schema.name = name).or schemas[name]? := by
  induction entries generalizing schemas with
  | nil => simp
  | cons entry entries ih =>
      rw [List.foldl_cons, ih, Std.TreeMap.getElem?_insert, List.findRev?]
      cases entries.findRev? fun schema => schema.name = name with
      | some schema => simp
      | none => by_cases hname : entry.name = name <;> simp [hname]

/-- **The registry knows what the files declare**, under the declared name. -/
theorem load_schemas (files : List Json) (name : String) :
    (SchemaAclRegistry.load files).schemas[name]? = declared files name := by
  have hload : EntitySchemaLoader.loadSchemas files =
      (files.flatMap fun root => accepted (EntitySchemaLoader.docs root)).foldl
        (fun schemas schema => schemas.insert schema.name schema) ∅ := by
    simp only [EntitySchemaLoader.loadSchemas, loadDocs_eq, List.foldl_flatMap]
  simp only [SchemaAclRegistry.load, hload, foldl_insert_getElem?, declared]
  simp

/-! ### Segments of one schema -/

/-- The adapter resolves the segment to the schema. -/
def Resolves (files : List Json) (schema : Adapters.EntitySchema) (segment : String) : Prop :=
  Adapters.SqlAdapter.getEntitySchema (Adapters.SqlAdapter.loadSchemas files) segment = some schema

instance (files : List Json) (schema : Adapters.EntitySchema) (segment : String) :
    Decidable (Resolves files schema segment) := inferInstanceAs (Decidable (_ = _))

/-- The gates decide alike for two segments, whatever the request. -/
def Alike (files : List Json) (a b : String) : Prop :=
  ∀ tenant (req : Request), req.method ≠ .options →
    (entityGates req (some (.load files)) tenant a = .ok none ↔
      entityGates req (some (.load files)) tenant b = .ok none)

/-- The files declare the same rules under both names. -/
def SameRules (files : List Json) (a b : String) : Prop :=
  ∀ method, method ≠ .options →
    (Rule.ofSchema (declared files a) method).Same (Rule.ofSchema (declared files b) method)

theorem alike_iff {files : List Json} {a b : String} : Alike files a b ↔ SameRules files a b := by
  constructor
  · intro h method hmethod
    rw [Rule.same_iff method]
    rintro tenant req rfl
    rw [← load_schemas, ← load_schemas, ← entityGates_pass_iff hmethod,
      ← entityGates_pass_iff hmethod]
    exact h tenant req hmethod
  · intro h tenant req hmethod
    rw [entityGates_pass_iff hmethod, entityGates_pass_iff hmethod, load_schemas, load_schemas]
    exact (h req.method hmethod).admits req tenant

theorem Alike.symm {files : List Json} {a b : String} (h : Alike files a b) : Alike files b a :=
  fun tenant req hmethod => (h tenant req hmethod).symm

/-- **When the gates decide per schema.**  All segments that the adapter resolves to a schema
get the same decisions, exactly when its declared name and that name in lower case do not
both resolve to it or the files declare the same rules under the two. -/
theorem gates_spelling_iff (files : List Json) (schema : Adapters.EntitySchema) :
    (∀ a b, Resolves files schema a → Resolves files schema b → Alike files a b) ↔
      (Resolves files schema schema.name → Resolves files schema (toLower schema.name) →
        SameRules files schema.name (toLower schema.name)) := by
  constructor
  · intro h hname hlower
    exact alike_iff.1 (h _ _ hname hlower)
  · intro h a b ha hb
    have hsame := fun hname hlower => alike_iff.2 (h hname hlower)
    rcases Adapters.SqlAdapter.spelled_loadSchemas files a schema ha with rfl | rfl <;>
      rcases Adapters.SqlAdapter.spelled_loadSchemas files b schema hb with hb' | hb'
    · exact hb' ▸ fun _ _ _ => Iff.rfl
    · exact hb' ▸ hsame ha (hb' ▸ hb)
    · exact hb' ▸ (hsame (hb' ▸ hb) ha).symm
    · exact hb' ▸ fun _ _ _ => Iff.rfl

/-- The schema of `Credential`, of which no operation is for a caller. -/
def credentialFiles : List Json :=
  [.obj [("entity", .str "Credential"),
    ("fields", .obj [("passwordHash", .obj [("type", .str "string")])]),
    ("acl", .obj [("create", .obj [("system", .bool true)]), ("read", .obj [("system", .bool true)]),
      ("update", .obj [("system", .bool true)]), ("delete", .obj [("system", .bool true)])])]]

/-- **A system entity is open in lower case.**  The adapter resolves both spellings to the one
schema; the gates refuse everybody under the first and let an anonymous read through under
the second. -/
theorem credential_in_lower_case :
    ∃ schema, Resolves credentialFiles schema "Credential" ∧
      Resolves credentialFiles schema "credential" ∧
      entityGates { method := .get } (some (.load credentialFiles)) "acme" "Credential" =
        .ok (some ⟨403, "This entity is system-managed and not reachable via the API"⟩) ∧
      entityGates { method := .get } (some (.load credentialFiles)) "acme" "credential" =
        .ok none := by
  refine ⟨{ name := "Credential", displayName := "Credential",
            fields := [{ name := "passwordHash", type := "string" }] }, ?_⟩
  decide +kernel

end Daemon
end Dbal
