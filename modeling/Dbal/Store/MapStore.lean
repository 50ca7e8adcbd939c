/-
# An ideal store

A list of rows with transactions, as the plainest thing that an adapter can be: names are
resolved to schemas, `create` refuses an id that is taken, `update` merges, and
`rollback` brings the rows back that there were at `begin`.  It shows that what later
modules ask of an adapter can be had.
-/

import Dbal.Adapters.Adapter
import Dbal.Store.Collections

namespace Dbal

/-- A stored row. -/
structure Entry where
  entity : String
  id : String
  row : Json

/-- The rows, the rows at `begin` while a transaction is open, and a counter for ids. -/
structure MapStore where
  rows : List Entry := []
  saved : Option (List Entry) := none
  nextId : Nat := 0

namespace MapStore

/-- The entry with a name and an id. -/
def named (entity id : String) (entry : Entry) : Bool := entry.entity = entity && entry.id = id

/-- The row of an entity with an id. -/
def lookup (rows : List Entry) (entity id : String) : Option Json :=
  (rows.find? (named entity id)).map Entry.row

/-- The fields of `data` over those of `row`. -/
def merge (row data : Json) : Json := .obj (row.members ++ data.members)

/-- Every member of the filter equals the field of the row. -/
def matchesFilter (filter row : Json) : Bool :=
  filter.fields.toList.all fun (key, value) => row.find? key == value

/-- The rows of an entity that a filter selects. -/
def selects (entity : String) (filter : Json) (entry : Entry) : Bool :=
  entry.entity = entity && matchesFilter filter entry.row

/-- Merge `data` into the rows that are picked. -/
def change (pick : Entry → Bool) (data : Json) (rows : List Entry) : List Entry :=
  rows.map fun entry => if pick entry then { entry with row := merge entry.row data } else entry

/-- The id that a new row asks for, or the next one. -/
def newId (data : Json) (nextId : Nat) : String :=
  match data.find? "id" with
  | some (.str id) => id
  | _ => "row" ++ toString nextId

/-- Every name is that of an entity without fields. -/
def anyEntity (name : String) : Option Adapters.EntitySchema := some { name }

variable (resolve : String → Option Adapters.EntitySchema)

/-- Run `call` on the entity that a name stands for. -/
def withEntity {α : Type} (name : String) (call : String → Act Thrown MapStore (Result α)) :
    Act Thrown MapStore (Result α) :=
  match resolve name with
  | some schema => call schema.name
  | none => pure (.error (Error.validationError ("Unknown entity: " ++ name)))

def insert (entity : String) (data : Json) : Act Thrown MapStore (Result Json) := fun s =>
  let id := newId data s.nextId
  let row := data.set "id" (.str id)
  if (lookup s.rows entity id).isSome then (.ok (.error (Error.conflict "Id is taken")), s)
  else
    (.ok (.ok row), { s with rows := s.rows ++ [⟨entity, id, row⟩], nextId := s.nextId + 1 })

def modify (entity id : String) (data : Json) : Act Thrown MapStore (Result Json) := fun s =>
  match lookup s.rows entity id with
  | none => (.ok (.error (Error.notFound (entity ++ " not found"))), s)
  | some row =>
      (.ok (.ok (merge row data)), { s with rows := change (named entity id) data s.rows })

def erase (entity id : String) : Act Thrown MapStore (Result Bool) := fun s =>
  match lookup s.rows entity id with
  | none => (.ok (.error (Error.notFound (entity ++ " not found"))), s)
  | some _ =>
      (.ok (.ok true), { s with rows := s.rows.filter fun entry => !named entity id entry })

/-- Insert one after the other; the first that is refused ends the loop. -/
def insertAll (entity : String) : List Json → Int → Act Thrown MapStore (Result Int)
  | [], count => pure (.ok count)
  | data :: rest, count => do
      match ← insert entity data with
      | .ok _ => insertAll entity rest (count + 1)
      | .error e => return .error e

/-- The rows of an entity that a listing asks for by its equalities, and the page of them. -/
def listRows (entity : String) (options : ListOptions) (rows : List Entry) : ListResult :=
  let filter := Json.obj (options.filter.toList.map fun (key, value) => (key, .str value))
  let items := (rows.filter (selects entity filter)).map Entry.row
  { items := (items.drop ((options.page - 1) * options.limit).toNat).take options.limit.toNat
    total := items.length, page := options.page, limit := options.limit }

/-- The ideal store as an adapter. -/
def adapter : Adapter MapStore where
  create name data := withEntity resolve name fun entity => insert entity data
  read name id := withEntity resolve name fun entity s =>
    match lookup s.rows entity id with
    | some row => (.ok (.ok row), s)
    | none => (.ok (.error (Error.notFound (entity ++ " not found"))), s)
  update name id data := withEntity resolve name fun entity => modify entity id data
  remove name id := withEntity resolve name fun entity => erase entity id
  list name options := withEntity resolve name fun entity s =>
    (.ok (.ok (listRows entity options s.rows)), s)
  search _ _ _ := pure (.error (Error.internal "Full-text search is not configured."))
  createMany name records := withEntity resolve name fun entity => insertAll entity records 0
  updateMany name filter data := withEntity resolve name fun entity s =>
    (.ok (.ok (s.rows.countP (selects entity filter))),
      { s with rows := change (selects entity filter) data s.rows })
  deleteMany name filter := withEntity resolve name fun entity s =>
    (.ok (.ok (s.rows.countP (selects entity filter))),
      { s with rows := s.rows.filter fun entry => !selects entity filter entry })
  upsert name uniqueField uniqueValue createData updateData :=
    withEntity resolve name fun entity s =>
      match s.rows.find? (selects entity (.obj [(uniqueField, uniqueValue)])) with
      | some entry => modify entity entry.id updateData s
      | none => insert entity createData s
  getEntitySchema name :=
    match resolve name with
    | some schema => .ok schema
    | none => .error (Error.validationError ("Unknown entity: " ++ name))
  beginTransaction s :=
    match s.saved with
    | none => (.ok (.ok true), { s with saved := some s.rows })
    | some _ => (.ok (.error (Error.internal "Transaction already in progress")), s)
  commitTransaction s :=
    match s.saved with
    | some _ => (.ok (.ok true), { s with saved := none })
    | none => (.ok (.error (Error.internal "No transaction in progress")), s)
  rollbackTransaction s :=
    match s.saved with
    | some rows => (.ok (.ok true), { s with rows, saved := none })
    | none => (.ok (.error (Error.internal "No transaction in progress")), s)

/-! ### Its calls, case by case -/

section

variable {entity key : String} {data row : Json} {s : MapStore}

theorem insert_taken (h : lookup s.rows entity (newId data s.nextId) = some row) :
    insert entity data s = (.ok (.error (Error.conflict "Id is taken")), s) := by
  simp [insert, h]

theorem insert_new (h : lookup s.rows entity (newId data s.nextId) = none) :
    insert entity data s =
      let row := data.set "id" (.str (newId data s.nextId))
      (.ok (.ok row), { s with
        rows := s.rows ++ [⟨entity, newId data s.nextId, row⟩], nextId := s.nextId + 1 }) := by
  simp [insert, h]

theorem modify_missing (data : Json) (h : lookup s.rows entity key = none) :
    modify entity key data s = (.ok (.error (Error.notFound (entity ++ " not found"))), s) := by
  simp [modify, h]

theorem modify_found (data : Json) (h : lookup s.rows entity key = some row) :
    modify entity key data s =
      (.ok (.ok (merge row data)), { s with rows := change (named entity key) data s.rows }) := by
  simp [modify, h]

theorem erase_missing (h : lookup s.rows entity key = none) :
    erase entity key s = (.ok (.error (Error.notFound (entity ++ " not found"))), s) := by
  simp [erase, h]

theorem erase_found (h : lookup s.rows entity key = some row) :
    erase entity key s =
      (.ok (.ok true), { s with rows := s.rows.filter fun entry => !named entity key entry }) := by
  simp [erase, h]

end

/-! ### Its listings -/

section

variable {resolve} {name entity : String}

/-- The filter of a listing as a document. -/
def equalities (filter : Std.TreeMap String String) : Json :=
  .obj (filter.toList.map fun (key, value) => (key, .str value))

/-- What a listing with a filter selects. -/
theorem selects_equalities {filter : Std.TreeMap String String} {entry : Entry} :
    selects entity (equalities filter) entry = true ↔
      entry.entity = entity ∧
        ∀ key value, filter[key]? = some value → entry.row.find? key = some (.str value) := by
  have hfield (key : String) : (equalities filter).find? key = filter[key]?.map Json.str :=
    Store.getElem?_ofList_map filter Json.str key
  rw [selects, Bool.and_eq_true, decide_eq_true_eq, matchesFilter, List.all_eq_true]
  refine and_congr_right fun _ => ⟨fun h key value hvalue => ?_, fun h pair hpair => ?_⟩
  · exact Json.beq_some_str_iff.1
      (h (key, .str value) (Json.mem_toList_fields.2 (by rw [hfield, hvalue]; rfl)))
  · obtain ⟨key, value⟩ := pair
    have hvalue := Json.mem_toList_fields.1 hpair
    rw [hfield, Option.map_eq_some_iff] at hvalue
    obtain ⟨text, htext, rfl⟩ := hvalue
    exact Json.beq_some_str_iff.2 (h key text htext)

/-- The items of a first page. -/
theorem listRows_items (entity : String) (filter : Std.TreeMap String String) (limit : Int)
    (rows : List Entry) :
    (listRows entity { filter := filter, limit := limit } rows).items =
      ((rows.filter (selects entity (equalities filter))).take limit.toNat).map Entry.row := by
  simp [listRows, equalities, List.map_take]

theorem list_known {schema : Adapters.EntitySchema} (hschema : resolve name = some schema)
    (options : ListOptions) (s : MapStore) : (adapter resolve).list name options s =
      (.ok (.ok (listRows schema.name options s.rows)), s) := by
  simp [adapter, withEntity, hschema]

theorem list_unknown (hschema : resolve name = none) (options : ListOptions) (s : MapStore) :
    (adapter resolve).list name options s =
      (.ok (.error (Error.validationError ("Unknown entity: " ++ name))), s) := by
  simp [adapter, withEntity, hschema]

end

/-! ### Its transactions -/

/-- **The transactions of the ideal store work.** -/
def laws : Tx.Laws (adapter resolve).tx (List Entry) where
  rows := MapStore.rows
  saved := MapStore.saved
  begin_ok := by
    intro s s' b hclosed hbegin
    simp only [Adapter.tx, adapter, hclosed, Prod.mk.injEq] at hbegin
    obtain ⟨-, rfl⟩ := hbegin
    exact ⟨rfl, rfl⟩
  begin_fails := by
    intro s hclosed hbegin
    simp [Adapter.tx, adapter, hclosed] at hbegin
  commit_ok := by
    intro s s' r b hopen hcommit
    simp only [Adapter.tx, adapter, hopen, Prod.mk.injEq] at hcommit
    obtain ⟨-, rfl⟩ := hcommit
    exact ⟨rfl, rfl⟩
  commit_fails := by
    intro s r hopen hcommit
    simp [Adapter.tx, adapter, hopen] at hcommit
  rollback_restores := by
    intro s r hopen
    simp [Adapter.tx, adapter, hopen]

theorem withEntity_saved {α : Type} {name : String}
    {call : String → Act Thrown MapStore (Result α)}
    (hcall : ∀ entity s, (call entity s).2.saved = s.saved) (s : MapStore) :
    (withEntity resolve name call s).2.saved = s.saved := by
  cases h : resolve name with
  | none => simp [withEntity, h]
  | some schema => simpa [withEntity, h] using hcall schema.name s

theorem insert_saved (entity : String) (data : Json) (s : MapStore) :
    (insert entity data s).2.saved = s.saved := by
  simp only [insert]
  split <;> rfl

theorem modify_saved (entity id : String) (data : Json) (s : MapStore) :
    (modify entity id data s).2.saved = s.saved := by
  unfold modify
  split <;> rfl

theorem erase_saved (entity id : String) (s : MapStore) :
    (erase entity id s).2.saved = s.saved := by
  unfold erase
  split <;> rfl

end MapStore
end Dbal
