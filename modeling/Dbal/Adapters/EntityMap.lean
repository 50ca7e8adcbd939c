/-
# What an adapter is for

The records of every entity under their ids, and what each call of an adapter does to them: a map
from pairs of an entity and an id, beside which there is nothing.  An adapter is held against the
runs of this map, call by call.

A call on an entity without a schema finds nothing.  What is kept of a record is what its text says
(`reread`).
-/

import Dbal.Adapters.Adapter
import Dbal.Store.Collections
import Dbal.Store.Paging

namespace Dbal
namespace Adapters

open Store

/-- The records of every entity, under their ids. -/
abbrev EntityMap := Collections String String Json

/-- A filter of texts. -/
abbrev TextFilter := Std.TreeMap String String

/-- A call of an adapter. -/
inductive EntityCall where
  | create (entityName : String) (data : Json)
  | read (entityName id : String)
  | update (entityName id : String) (data : Json)
  | remove (entityName id : String)
  | list (entityName : String) (filter : TextFilter) (page limit : Int)
  | findFirst (entityName : String) (filter : TextFilter)
  | updateMany (entityName : String) (filter : TextFilter) (data : Json)
  | deleteMany (entityName : String) (filter : TextFilter)

def EntityCall.entityName : EntityCall → String
  | .create entityName _ | .read entityName _ | .update entityName _ _ | .remove entityName _
  | .list entityName _ _ _ | .findFirst entityName _ | .updateMany entityName _ _
  | .deleteMany entityName _ => entityName

/-- How a call ends. -/
inductive Outcome where
  | record (record : Json)
  | removed
  | listed (found : ListResult)
  | changed (count : Int)
  | failed (error : Error)
  | thrown (error : Thrown)

namespace Outcome

/-- The end of a call whose value is `α`. -/
def ofCall {α : Type} (value : α → Outcome) : Except Thrown (Result α) → Outcome
  | .ok (.ok a) => value a
  | .ok (.error e) => .failed e
  | .error e => .thrown e

def Fails : Outcome → Prop
  | .failed _ | .thrown _ => True
  | _ => False

def IsNotFound : Outcome → Prop
  | .failed e => e.code = .notFound
  | _ => False

end Outcome

/-! ### Data, records and filters -/

/-- Data that a record can be made of. -/
def IsRecordData (data : Json) : Prop := data.isObject = true ∨ data.isNull = true

/-- The data asks for this id, or leaves it open. -/
def GivesId (data : Json) (id : String) : Prop :=
  data.find? "id" = some (.str id) ∨ (data.find? "id").getD .null = .null

/-- The record is the data under an id. -/
def Stamped (data : Json) (id : String) (record : Json) : Prop :=
  record.isObject = true ∧
    ∀ field, record.find? field = if field = "id" then some (.str id) else data.find? field

/-- The record is the old one with the data over it. -/
def Overwritten (old data record : Json) : Prop :=
  record.isObject = true ∧
    ∀ field, record.find? field = (data.find? field).or (old.find? field)

/-- The record has every field of the filter, with its text. -/
def Satisfies (record : Json) (filter : TextFilter) : Prop :=
  ∀ field value, filter[field]? = some value → record.find? field = some (.str value)

/-- The filter as the JSON object that stands for it. -/
def filterJson (filter : TextFilter) : Json :=
  .obj (filter.toList.map fun (field, value) => (field, .str value))

namespace EntityMap

variable (known : String → Prop) (reread : Json → Json)

open Classical in
/-- The records of an entity that satisfy a filter. -/
noncomputable def matching (R : EntityMap) (entityName : String) (filter : TextFilter) : List Json :=
  (Collections.rowsOf (R entityName)).filter fun record => decide (Satisfies record filter)

/-- Nothing can be created: the data is no record, its id no text, or its id taken. -/
def Unfit (R : EntityMap) (entityName : String) (data : Json) : Prop :=
  ¬ IsRecordData data ∨
    (∃ value, data.find? "id" = some value ∧ value.isNull = false ∧ value.isString = false) ∨
    ∃ id ∈ R entityName, data.find? "id" = some (.str id)

/-- A call on an entity that has a schema. -/
def Serves (R : EntityMap) : EntityCall → Outcome → EntityMap → Prop
  | .create entityName data, outcome, R' =>
      (∃ id record, id ∉ R entityName ∧ GivesId data id ∧ Stamped data id record ∧
        outcome = .record record ∧
        R.Becomes R' entityName fun i =>
          if i = id then some (reread record) else (R entityName).lookup i) ∨
      (Unfit R entityName data ∧ outcome.Fails ∧ R' = R)
  | .read entityName id, outcome, R' =>
      R' = R ∧
        match (R entityName).lookup id with
        | none => outcome.IsNotFound
        | some record => outcome = .record record
  | .update entityName id data, outcome, R' =>
      match (R entityName).lookup id with
      | none => outcome.IsNotFound ∧ R' = R
      | some old =>
          (IsRecordData data → ∃ record, Overwritten old data record ∧ outcome = .record record ∧
            R.Becomes R' entityName fun i =>
              if i = id then some (reread record) else (R entityName).lookup i) ∧
          (¬ IsRecordData data → R' = R)
  | .remove entityName id, outcome, R' =>
      match (R entityName).lookup id with
      | none => outcome.IsNotFound ∧ R' = R
      | some _ =>
          outcome = .removed ∧
            R.Becomes R' entityName fun i => if i = id then none else (R entityName).lookup i
  | .list entityName filter page limit, outcome, R' =>
      R' = R ∧
        (1 ≤ page → 1 ≤ limit → outcome = .listed {
          items := numberedPage limit.toNat page.toNat (matching R entityName filter)
          total := (matching R entityName filter).length
          page := page
          limit := limit })
  | .findFirst entityName filter, outcome, R' =>
      R' = R ∧
        (matching R entityName filter = [] → outcome.IsNotFound) ∧
        (matching R entityName filter ≠ [] →
          ∃ record ∈ matching R entityName filter, outcome = .record record)
  | .updateMany entityName filter data, outcome, R' =>
      (IsRecordData data → outcome = .changed (matching R entityName filter).length ∧
        ∃ row, R.Becomes R' entityName row ∧
          ∀ i, match (R entityName).lookup i with
            | none => row i = none
            | some old =>
                (Satisfies old filter →
                  ∃ record, Overwritten old data record ∧ row i = some (reread record)) ∧
                (¬ Satisfies old filter → row i = some old)) ∧
      (¬ IsRecordData data → R' = R)
  | .deleteMany entityName filter, outcome, R' =>
      outcome = .changed (matching R entityName filter).length ∧
        ∃ row, R.Becomes R' entityName row ∧
          ∀ i, match (R entityName).lookup i with
            | none => row i = none
            | some old =>
                (Satisfies old filter → row i = none) ∧ (¬ Satisfies old filter → row i = some old)

/-- **The pages of a list, from the first on, are the records that match**, each of them once. -/
theorem flatMap_listed {reread : Json → Json} {R : EntityMap} {entityName : String}
    {filter : TextFilter} {limit : Int} (hlimit : 1 ≤ limit) {count : Nat} {found : Nat → ListResult}
    (h : ∀ i < count,
      Serves reread R (.list entityName filter (i + 1) limit) (.listed (found i)) R)
    (hcount : (matching R entityName filter).length ≤ count * limit.toNat) :
    ((List.range count).flatMap fun i => (found i).items) = matching R entityName filter := by
  rw [← flatMap_numberedPage hcount]
  refine List.flatMap_congr fun i hi => ?_
  have hpage := (h i (List.mem_range.1 hi)).2 (by omega) hlimit
  injection hpage with hfound
  rw [hfound]
  rfl

/-- A call. -/
def Answers (R : EntityMap) (call : EntityCall) (outcome : Outcome) (R' : EntityMap) : Prop :=
  (known call.entityName → Serves reread R call outcome R') ∧
    (¬ known call.entityName → outcome.IsNotFound ∧ R' = R)

/-- Calls, one after the other. -/
inductive Runs : EntityMap → List EntityCall → List Outcome → EntityMap → Prop
  | nil {R} : Runs R [] [] R
  | cons {R R' R'' call calls outcome outcomes} : Answers known reread R call outcome R' →
      Runs R' calls outcomes R'' → Runs R (call :: calls) (outcome :: outcomes) R''

end EntityMap

end Adapters
end Dbal
