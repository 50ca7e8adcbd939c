/-
# `MongoDBQueryBuilder`

`src/adapters/mongodb/mongodb_query_builder.cpp` and `jsonToBson` of the type converter: the
documents that the MongoDB adapter sends.  A record is created from the driver's reading of its JSON
text, an update has a switch of its own over the types of the values, and an upsert writes the text
of each value.  So no value is written the same way by all three (`not_storedAlike`): what an upsert
leaves is a text, which is what the others leave of a text only, and the text of a text has
quotation marks around it (`Json.dumpText_ne`).  Create and update agree on every value without
parts but an integer that is no `int` (`created_eq_updated_iff`).

`fromJson` is the driver's reading of a JSON text, `doubleText` the printing of a `double`, and
`Matches` the server's comparison of a filter's value with a stored one.
-/

import Dbal.Entities.ComponentList
import Dbal.JsonDump
import Dbal.JsonReading
import Dbal.Store.Collections

namespace Dbal
namespace MongoDBQueryBuilder

/-- A BSON value.  An extended value is one that JSON has no type for, such as an object id. -/
inductive Bson where
  | string (s : String)
  | int32 (i : Int)
  | int64 (i : Int)
  | double (mantissa exponent : Int)
  | bool (b : Bool)
  | null
  | document (members : List (String × Bson))
  | array (elements : List Bson)
  | extended (type text : String)

/-- A BSON document. -/
abbrev Document := List (String × Bson)

section Builder

variable (doubleText : Int → Int → String) (fromJson : String → Option Document)

/-- `MongoDBTypeConverter::jsonToBson`; nothing where the driver throws. -/
def jsonToBson (json : Json) : Option Document := fromJson (json.dump doubleText)

/-- `buildFilter`. -/
def buildFilter (filter : Json) : Option Document :=
  if filter.isEmpty then some [] else jsonToBson doubleText fromJson filter

/-- The members that a loop over `begin()` and `end()` visits; `it.key()` throws where there are
elements without keys. -/
def membersOf : Json → Option (List (String × Json))
  | .obj members => some (Json.obj members).fields.toList
  | .null => some []
  | .arr [] => some []
  | _ => none

/-- What `buildUpdate` writes for a value; `get<int>()` keeps the low 32 bits. -/
def updateValue : Json → Option Bson
  | .str s => some (.string s)
  | .int i => some (.int32 (i.bmod (2 ^ 32)))
  | .uint n => some (.int32 ((n : Int).bmod (2 ^ 32)))
  | .real mantissa exponent => some (.double mantissa exponent)
  | .bool b => some (.bool b)
  | .null => some .null
  | value => (fromJson (value.dump doubleText)).map .document

/-- The document under `$set` of `buildUpdate`. -/
def buildUpdate (data : Json) : Option Document := do
  let members ← membersOf data
  members.mapM fun member => (updateValue doubleText fromJson member.2).map (member.1, ·)

/-- The texts of the members. -/
def dumpedMembers (data : Json) : Option Document :=
  (membersOf data).map fun members =>
    members.map fun member => (member.1, .string (member.2.dump doubleText))

/-- The documents under `$set` and `$setOnInsert` of `buildUpsertUpdate`. -/
def buildUpsertUpdate (updateData createData : Json) : Option (Document × Document) := do
  let set ← dumpedMembers doubleText updateData
  let setOnInsert ← dumpedMembers doubleText createData
  return (set, setOnInsert)

end Builder

/-! ## What a record leaves -/

section Paths

variable (doubleText : Int → Int → String) (fromJson : String → Option Document)
  (Matches : Bson → Bson → Prop) (data : Json) (field : String)

/-- The field of a record that was created. -/
def created : Option Bson := (jsonToBson doubleText fromJson data).bind (List.lookup field)

/-- The field of a document that was updated. -/
def updated : Option Bson := (buildUpdate doubleText fromJson data).bind (List.lookup field)

/-- The field of a document that an upsert found. -/
def upserted : Option Bson :=
  (buildUpsertUpdate doubleText data (.obj [])).bind fun update => update.1.lookup field

/-- The field of a document that an upsert inserted. -/
def inserted : Option Bson :=
  (buildUpsertUpdate doubleText (.obj []) data).bind fun update => update.2.lookup field

/-- A value as the filter of a listing has it. -/
def listText : Json → String
  | .str s => s
  | value => value.dump doubleText

/-- Every path leaves one value in the field, and the filters of `findFirst` and of a listing find
it. -/
def StoredAlike (value : Json) : Prop :=
  ∃ b, created doubleText fromJson data field = some b ∧
    updated doubleText fromJson data field = some b ∧
    upserted doubleText data field = some b ∧
    inserted doubleText data field = some b ∧
    ∀ filtered ∈ [value, .str (listText doubleText value)], ∃ document f,
      buildFilter doubleText fromJson (.obj [(field, filtered)]) = some document ∧
        document.lookup field = some f ∧ Matches f b

/-- What the driver makes of a value without parts, unless it is too large for 64 bits. -/
def scalarOf : Json → Option Bson
  | .str s => some (.string s)
  | .int i => some (if IsInt i then .int32 i else .int64 i)
  | .uint n =>
      if IsInt n then some (.int32 n) else if n < 2 ^ 63 then some (.int64 n) else none
  | .real mantissa exponent => some (.double mantissa exponent)
  | .bool b => some (.bool b)
  | .null => some .null
  | .arr _ => none
  | .obj _ => none

/-- The driver reads the members of a record: one without parts as the value of its type, and no
other one as a text. -/
structure ReadsTypes : Prop where
  scalar {document : Document} {field : String} {value : Json} {b : Bson} :
    jsonToBson doubleText fromJson data = some document → data.find? field = some value →
    scalarOf value = some b → document.lookup field = some b
  noText {document : Document} {field : String} {value : Json} (s : String) :
    jsonToBson doubleText fromJson data = some document → data.find? field = some value →
    scalarOf value = none → document.lookup field ≠ some (.string s)

end Paths

section Members

variable {doubleText : Int → Int → String} {fromJson : String → Option Document}
  {data value : Json} {field : String} {b : Bson}

theorem lookup_of_mapM {f : Json → Option Bson} {members : List (String × Json)}
    {document : Document} (h : members.mapM (fun member => (f member.2).map (member.1, ·)) =
      some document) (key : String) : document.lookup key = (members.lookup key).bind f := by
  induction members generalizing document with
  | nil =>
      cases h
      rfl
  | cons member members ih =>
      rw [List.mapM_cons] at h
      cases hf : f member.2 with
      | none =>
          rw [hf] at h
          cases h
      | some b =>
          cases hrest : members.mapM (fun member => (f member.2).map (member.1, ·)) with
          | none =>
              rw [hf, hrest] at h
              cases h
          | some rest =>
              rw [hf, hrest] at h
              cases h
              rw [List.lookup_cons, List.lookup_cons, ih hrest]
              split
              · exact hf.symm
              · rfl

theorem lookup_map (f : Json → Bson) (members : List (String × Json)) (key : String) :
    (members.map fun member => (member.1, f member.2)).lookup key =
      (members.lookup key).map f := by
  induction members with
  | nil => rfl
  | cons member members ih =>
      rw [List.map_cons, List.lookup_cons, List.lookup_cons, ih]
      split
      · rfl
      · rfl

/-- The members of a record with a field. -/
theorem exists_members (h : data.find? field = some value) :
    ∃ members, membersOf data = some members ∧ members.lookup field = some value := by
  obtain ⟨members, rfl⟩ := Json.exists_obj_of_find? h
  exact ⟨_, rfl, Store.lookup_toList.trans h⟩

/-- What an update leaves. -/
theorem updated_eq (h : data.find? field = some value)
    (hupdate : (buildUpdate doubleText fromJson data).isSome) :
    updated doubleText fromJson data field = updateValue doubleText fromJson value := by
  obtain ⟨members, hmembers, hlookup⟩ := exists_members h
  obtain ⟨document, hdocument⟩ := Option.isSome_iff_exists.1 hupdate
  have hmap := hdocument
  rw [buildUpdate, hmembers] at hmap
  rw [updated, hdocument, Option.bind_some, lookup_of_mapM hmap, hlookup, Option.bind_some]

/-- What an upsert leaves: the text of the value. -/
theorem upserted_eq (h : data.find? field = some value) :
    upserted doubleText data field = some (.string (value.dump doubleText)) := by
  obtain ⟨members, hmembers, hlookup⟩ := exists_members h
  have hset : dumpedMembers doubleText data =
      some (members.map fun member => (member.1, .string (member.2.dump doubleText))) := by
    rw [dumpedMembers, hmembers, Option.map_some]
  have hempty : dumpedMembers doubleText (.obj []) = some [] := rfl
  rw [upserted, buildUpsertUpdate, hset, hempty]
  exact (lookup_map (fun value => .string (value.dump doubleText)) members field).trans
    (congrArg (Option.map _) hlookup)

theorem eq_str_of_scalarOf {s : String} (h : scalarOf value = some (.string s)) :
    value = .str s := by
  cases value with
  | str s' =>
      cases h
      rfl
  | int i =>
      rw [scalarOf] at h
      split_ifs at h
      · cases h
      · cases h
  | uint n =>
      rw [scalarOf] at h
      split_ifs at h
      · cases h
      · cases h
  | _ => cases h

/-- **No value is stored alike**: the text that an upsert leaves is neither what creating the record
leaves of a text nor what it leaves of another value. -/
theorem not_storedAlike (Matches : Bson → Bson → Prop)
    (hreads : ReadsTypes doubleText fromJson data) (h : data.find? field = some value) :
    ¬ StoredAlike doubleText fromJson Matches data field value := by
  rintro ⟨b, hcreated, -, hupserted, -, -⟩
  rw [upserted_eq h] at hupserted
  obtain rfl := Option.some.inj hupserted
  obtain ⟨document, hdocument, hlookup⟩ := Option.bind_eq_some_iff.1 hcreated
  cases hscalar : scalarOf value with
  | none => exact hreads.noText _ hdocument h hscalar hlookup
  | some b =>
      rw [hreads.scalar hdocument h hscalar] at hlookup
      cases hlookup
      have hdumped := congrArg (Json.dump doubleText) (eq_str_of_scalarOf hscalar)
      rw [Json.dump] at hdumped
      exact Json.dumpText_ne _ hdumped.symm

/-- The integer that a value is. -/
def integer? : Json → Option Int
  | .int i => some i
  | .uint n => some n
  | _ => none

/-- **Create and update leave the same of a value without parts exactly when it is no integer that
is too large for an `int`.** -/
theorem created_eq_updated_iff (hreads : ReadsTypes doubleText fromJson data)
    (h : data.find? field = some value) (hscalar : scalarOf value = some b)
    (hcreate : (jsonToBson doubleText fromJson data).isSome)
    (hupdate : (buildUpdate doubleText fromJson data).isSome) :
    created doubleText fromJson data field = updated doubleText fromJson data field ↔
      ∀ i, integer? value = some i → IsInt i := by
  obtain ⟨document, hdocument⟩ := Option.isSome_iff_exists.1 hcreate
  rw [updated_eq h hupdate, created, hdocument, Option.bind_some,
    hreads.scalar hdocument h hscalar, ← hscalar]
  have hwrap : ∀ i : Int, IsInt i → i.bmod (2 ^ 32) = i := by
    intro i hi
    unfold IsInt intMax at hi
    rw [Int.bmod_def]
    omega
  cases value with
  | int i =>
      rw [scalarOf, updateValue]
      simp only [integer?, Option.some.injEq, forall_eq']
      split_ifs with hint
      · exact iff_of_true (congrArg Bson.int32 (hwrap i hint).symm) hint
      · exact iff_of_false (fun heq => by cases heq) hint
  | uint n =>
      rw [scalarOf] at hscalar ⊢
      rw [updateValue]
      simp only [integer?, Option.some.injEq, forall_eq']
      split_ifs at hscalar ⊢ with hint hsmall
      · exact iff_of_true (congrArg (fun i => some (Bson.int32 i)) (hwrap n hint).symm) hint
      · exact iff_of_false (fun heq => by cases heq) hint
  | arr elements => cases hscalar
  | obj members => cases hscalar
  | _ => exact iff_of_true rfl fun i hi => by cases hi

end Members

section Named

/-- The driver's reading of one text. -/
def readNamed (text : String) : Option Document :=
  if text = "\x7b\"name\":\"a\"\x7d" then some [("name", .string "a")] else none

/-- A record with a name is not stored alike. -/
theorem named_not_storedAlike :
    ¬ StoredAlike (fun _ _ => "") readNamed Eq (.obj [("name", .str "a")]) "name" (.str "a") := by
  have hmember : ∀ {field : String} {value : Json},
      (Json.obj [("name", .str "a")]).find? field = some value →
      (field, value) = ("name", .str "a") := by
    intro field value h
    have hnames : ([("name", Json.str "a")].map Prod.fst).Nodup := List.nodup_singleton "name"
    exact List.mem_singleton.1 ((Store.getElem?_ofList_iff hnames).1 h)
  have hread : jsonToBson (fun _ _ => "") readNamed (.obj [("name", .str "a")]) =
      some [("name", .string "a")] := by rfl
  refine not_storedAlike Eq ⟨?_, ?_⟩ (by rfl)
  · intro document field value b hdocument hvalue hscalar
    cases hread.symm.trans hdocument
    cases hmember hvalue
    exact hscalar
  · intro document field value s hdocument hvalue hscalar
    cases hmember hvalue
    cases hscalar

/-- Creating leaves the name, an upsert leaves it between quotation marks. -/
theorem name_quoted_by_upsert :
    ¬ StoredAlike (fun _ _ => "") readNamed Eq (.obj [("name", .str "a")]) "name" (.str "a") := by
  rintro ⟨b, hcreated, -, hupserted, -, -⟩
  have hname : created (fun _ _ => "") readNamed (.obj [("name", .str "a")]) "name" =
      some (.string "a") := by rfl
  have hquoted : upserted (fun _ _ => "") (.obj [("name", .str "a")]) "name" =
      some (.string "\"a\"") := by rfl
  rw [hname] at hcreated
  rw [hquoted, ← hcreated] at hupserted
  exact absurd (Bson.string.inj (Option.some.inj hupserted)) (by decide)

end Named

end MongoDBQueryBuilder
end Dbal
