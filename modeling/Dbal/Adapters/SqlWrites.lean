/-
# The writes of `SqlAdapter` and of the MySQL adapter

`src/adapters/sql/sql_adapter_crud.cpp`, `sql_adapter_bulk.cpp`, `sql_transaction_manager.cpp` and
`mysql_adapter.cpp`: the calls that write, as programs that send statements to the database, and
the transactions, which send none.

`runQuery` and `runNonQuery` send the statement over the adapter's own native connection,
whichever `SqlConnection` they are given.
-/

import Dbal.Adapters.SqlRows
import Dbal.Store.Dialogue

namespace Dbal
namespace Adapters

/-- `SqlError::Code`. -/
inductive SqlErrorCode where
  | uniqueViolation | foreignKeyViolation | notFound | timeout | connectionLost | unknown
  deriving DecidableEq, Repr

/-- `SqlError`. -/
structure SqlError where
  code : SqlErrorCode
  message : String
  deriving DecidableEq, Repr

/-- A text with the parameters that are bound to it. -/
structure Statement where
  sql : String
  params : List SqlParam
  deriving DecidableEq, Repr

/-- What is thrown in place of an answer. -/
inductive Refusal where
  | sqlError (err : SqlError)
  /-- The `std::runtime_error` of `ensureConnected`. -/
  | unableToConnect (what : String)
  deriving DecidableEq, Repr

/-- What `runQuery` and `runNonQuery` return. -/
structure Answer where
  rows : List SqlRow
  affected : Int

/-- A program that sends statements. -/
abbrev Talk (β : Type) : Type := Dialogue Statement (Except Refusal Answer) β

/-- What a call returns or throws. -/
abbrev Reply (α : Type) : Type := Except Thrown (Result α)

/-- Return, without another statement. -/
def reply {α : Type} (result : Result α) : Talk (Reply α) := .done (.ok result)

/-- `mapSqlError`. -/
def mapSqlError (error : SqlError) : Error :=
  match error.code with
  | .uniqueViolation => .conflict error.message
  | .foreignKeyViolation => .validationError error.message
  | .notFound => .notFound error.message
  | _ => .internal error.message

/-- A statement between `try` and `catch (const SqlError& err)`. -/
def attempt {α : Type} (statement : Statement) (next : Answer → Talk (Reply α)) : Talk (Reply α) :=
  .send statement fun
    | .ok answer => next answer
    | .error (.sqlError err) => reply (.error (mapSqlError err))
    | .error (.unableToConnect what) => .done (.error (.adapter what))

/-! ### Transactions -/

/-- `SqlPool::acquire`: the first connection, since `connect` never fails. -/
def SqlPool.acquire (size : Nat) : Option Nat := (List.range size).head?

/-- The size of a pool that is not given one. -/
def poolSize : Nat := 5

/-- `SqlTransactionManager`. -/
structure SqlTransactionManager where
  connection : Nat
  isActive : Bool := false
  committed : Bool := false
  deriving DecidableEq, Repr

namespace SqlTransactionManager

/-- `begin`. -/
def begin (manager : SqlTransactionManager) : Except Thrown SqlTransactionManager :=
  if manager.isActive then .error (.adapter "Transaction already active")
  else .ok { manager with isActive := true }

/-- `commit`. -/
def commit (manager : SqlTransactionManager) : Except Thrown SqlTransactionManager :=
  if manager.isActive then .ok { manager with committed := true, isActive := false }
  else .error (.adapter "No active transaction to commit")

/-- `rollback`. -/
def rollback (manager : SqlTransactionManager) : Except Thrown SqlTransactionManager :=
  if manager.isActive then .ok { manager with isActive := false }
  else .error (.adapter "No active transaction to rollback")

end SqlTransactionManager

namespace SqlAdapter

/-- `tx_manager_`, which is set and cleared together with `tx_connection_`. -/
abbrev TxManager : Type := Option SqlTransactionManager

/-- A transaction is active. -/
def inTransaction (tx : TxManager) : Bool := tx.any fun manager => manager.isActive

/-- `beginTransaction`. -/
def beginTransaction (tx : TxManager) : Reply Bool × TxManager :=
  match tx.or ((SqlPool.acquire poolSize).map ({ connection := · })) with
  | none => (.ok (.error (.internal "Unable to acquire SQL connection for transaction")), none)
  | some manager =>
      match manager.begin with
      | .ok manager => (.ok (.ok true), some manager)
      | .error thrown => (.error thrown, some manager)

/-- The end of a transaction. -/
def endTransaction (finish : SqlTransactionManager → Except Thrown SqlTransactionManager)
    (tx : TxManager) : Reply Bool × TxManager :=
  match tx with
  | none => (.ok (.error (.internal "No transaction in progress")), none)
  | some manager =>
      if manager.isActive then
        match finish manager with
        | .ok _ => (.ok (.ok true), none)
        | .error thrown => (.error thrown, some manager)
      else (.ok (.error (.internal "No transaction in progress")), some manager)

/-- `commitTransaction`. -/
def commitTransaction : TxManager → Reply Bool × TxManager :=
  endTransaction SqlTransactionManager.commit

/-- `rollbackTransaction`. -/
def rollbackTransaction : TxManager → Reply Bool × TxManager :=
  endTransaction SqlTransactionManager.rollback

variable {α : Type} (A : SqlAdapter)

/-- The check of the entity's name. -/
def knowing (entityName : String) (next : EntitySchema → Talk (Reply α)) : Talk (Reply α) :=
  match A.schemas entityName with
  | none => reply (.error (.validationError ("Unknown entity: " ++ entityName)))
  | some schema => next schema

/-- The connection of a call. -/
def connected (next : Talk (Reply α)) : Talk (Reply α) :=
  match SqlPool.acquire poolSize with
  | none => reply (.error (.internal "Unable to acquire SQL connection"))
  | some _ => next

@[simp] theorem connected_eq (next : Talk (Reply α)) : connected next = next := rfl

/-- The record that a write of one row returns. -/
def firstRow (schema : EntitySchema) (rows : List SqlRow) (missing : Error) : Talk (Reply Json) :=
  match rows with
  | [] => reply (.error missing)
  | row :: _ => .done ((A.rowToJson schema row false).map .ok)

/-- The statement of an insert. -/
def insertStatement (schema : EntitySchema) (data : Json) : Statement :=
  ⟨A.buildInsertSql schema data, A.jsonToParams schema data ""⟩

/-- The statement of an update. -/
def updateStatement (schema : EntitySchema) (id : String) (data : Json) : Statement :=
  ⟨A.buildUpdateSql schema data, A.jsonToParams schema data id⟩

/-- The statement of a removal. -/
def deleteStatement (schema : EntitySchema) (id : String) : Statement :=
  ⟨A.buildDeleteSql schema, [⟨"id", id⟩]⟩

/-! ### Calls -/

/-- `create`. -/
def create (entityName : String) (data : Json) : Talk (Reply Json) :=
  A.knowing entityName fun schema => connected <|
    attempt (A.insertStatement schema data) fun answer =>
      A.firstRow schema answer.rows (.internal "SQL insert returned no rows")

/-- `update`. -/
def update (entityName id : String) (data : Json) : Talk (Reply Json) :=
  A.knowing entityName fun schema => connected <|
    attempt (A.updateStatement schema id data) fun answer =>
      A.firstRow schema answer.rows (.notFound (entityName ++ " not found"))

/-- `remove`. -/
def remove (entityName id : String) : Talk (Reply Bool) :=
  A.knowing entityName fun schema => connected <|
    attempt (A.deleteStatement schema id) fun answer =>
      if answer.affected = 0 then reply (.error (.notFound (entityName ++ " not found")))
      else reply (.ok true)

/-- `updateMany`. -/
def updateMany (entityName : String) (filter data : Json) : Talk (Reply Int) :=
  A.knowing entityName fun schema => connected <|
    match updateManyStatement A.dialect schema filter data with
    | .error (.invalidArgument what) => reply (.error (.validationError what))
    | .error .undefined => reply (.error (.internal "undefined"))  -- the statement has no overflow
    | .ok sql =>
        attempt ⟨sql, A.updateManyParams schema filter data⟩ fun answer =>
          reply (.ok answer.affected)

/-- `deleteMany`. -/
def deleteMany (entityName : String) (filter : Json) : Talk (Reply Int) :=
  A.knowing entityName fun schema => connected <|
    attempt ⟨deleteManyStatement A.dialect schema filter, A.filterParams filter⟩ fun answer =>
      reply (.ok answer.affected)

/-- The loop of `createMany`, up to the first record that is refused. -/
def insertAll (schema : EntitySchema) : List Json → Nat → Talk (Reply Int)
  | [], inserted => reply (.ok inserted)
  | record :: records, inserted =>
      attempt (A.insertStatement schema record) fun _ => insertAll schema records (inserted + 1)

/-- The end of `createMany`, after the loop. -/
def finishMany (tx : TxManager) : Reply Int → Reply Int × TxManager
  | .error thrown => (.error thrown, tx)
  | .ok (.error err) =>
      match rollbackTransaction tx with
      | (.error thrown, tx) => (.error thrown, tx)
      | (.ok _, tx) => (.ok (.error err), tx)
  | .ok (.ok inserted) =>
      match commitTransaction tx with
      | (.error thrown, tx) => (.error thrown, tx)
      | (.ok (.error err), tx) =>
          (.ok (.error (.internal ("Failed to commit transaction: " ++ err.message))), tx)
      | (.ok (.ok _), tx) => (.ok (.ok inserted), tx)

/-- `createMany`. -/
def createMany (entityName : String) (records : List Json) (tx : TxManager) :
    Talk (Reply Int × TxManager) :=
  if records = [] then return (.ok (.ok 0), tx)
  else
    match A.schemas entityName with
    | none => return (.ok (.error (.validationError ("Unknown entity: " ++ entityName))), tx)
    | some schema =>
        match SqlPool.acquire poolSize with
        | none => return (.ok (.error (.internal "Unable to acquire SQL connection")), tx)
        | some _ =>
            match beginTransaction tx with
            | (.error thrown, tx) => return (.error thrown, tx)
            | (.ok (.error err), tx) =>
                return (.ok (.error (.internal ("Failed to begin transaction: " ++ err.message))), tx)
            | (.ok (.ok _), tx) => do
                let result ← A.insertAll schema records 0
                return finishMany tx result

end SqlAdapter

/-! ### MySQL -/

namespace MySQLAdapter

open SqlAdapter

/-- `isValidIdentifier`. -/
def isValidIdentifier (name : String) : Bool :=
  name ≠ "" && name.utf8ByteSize ≤ 128 && name.toList.all fun c => c.isAlphanum || c = '_'

variable {α : Type} (A : SqlAdapter)

/-- The checks of a call on one record. -/
def knowing (entityName : String) (next : EntitySchema → Talk (Reply α)) : Talk (Reply α) :=
  A.knowing entityName fun schema =>
    if isValidIdentifier schema.name then connected (next schema)
    else reply (.error (.validationError ("Invalid entity name: " ++ schema.name)))

/-- The fields that an `INSERT` names. -/
def insertedFields (schema : EntitySchema) (data : Json) : List EntityField :=
  schema.fields.filter fun field => data.contains field.name

/-- The statement of an insert. -/
def insertStatement (schema : EntitySchema) (data : Json) : Statement :=
  let fields := insertedFields schema data
  ⟨"INSERT INTO " ++ ("`" ++ schema.name ++ "` (" ++
    joinFragments (fields.map fun field => "`" ++ field.name ++ "`") ", " ++ ") VALUES (" ++
    joinFragments (fields.map fun _ => "?") ", " ++ ")"), fields.map (A.fieldParam data)⟩

/-- The row with a given `id`. -/
def selectById (schema : EntitySchema) (id : String) : Statement :=
  ⟨"SELECT " ++ ("* FROM `" ++ schema.name ++ "` WHERE `id` = ?"), [⟨"id", id⟩]⟩

/-- The statement that reads an inserted row back. -/
def readBackStatement (schema : EntitySchema) (data : Json) : Statement :=
  match data.find? "id" with
  | some value => selectById schema (A.jsonValueToString value)
  | none => ⟨"SELECT " ++ ("* FROM `" ++ schema.name ++ "` ORDER BY `createdAt` DESC LIMIT 1"), []⟩

/-- `create`. -/
def create (entityName : String) (data : Json) : Talk (Reply Json) :=
  knowing A entityName fun schema =>
    attempt (insertStatement A schema data) fun _ =>
      attempt (readBackStatement A schema data) fun answer =>
        A.firstRow schema answer.rows
          (.internal "MySQL insert succeeded but could not read back row")

/-- The fields that an `UPDATE` sets. -/
def setFragments (schema : EntitySchema) (data : Json) : List String :=
  (updatedFields schema data).map fun field => "`" ++ field.name ++ "` = ?"

/-- The statement of an update. -/
def updateStatement (schema : EntitySchema) (id : String) (data : Json) : Statement :=
  ⟨"UPDATE " ++ ("`" ++ schema.name ++ "` SET " ++ joinFragments (setFragments schema data) ", " ++
    " WHERE `id` = ?"), (updatedFields schema data).map (A.fieldParam data) ++ [⟨"id", id⟩]⟩

/-- `update`. -/
def update (entityName id : String) (data : Json) : Talk (Reply Json) :=
  knowing A entityName fun schema =>
    if setFragments schema data = [] then reply (.error (.validationError "No fields to update"))
    else
      attempt (updateStatement A schema id data) fun answer =>
        if answer.affected = 0 then reply (.error (.notFound (entityName ++ " not found")))
        else
          attempt (selectById schema id) fun answer =>
            A.firstRow schema answer.rows (.notFound (entityName ++ " not found"))

/-- The loop of `createMany`, up to the first record that fails. -/
def createAll (entityName : String) : List Json → Nat → Talk (Reply Int)
  | [], inserted => reply (.ok inserted)
  | record :: records, inserted => do
      match ← create A entityName record with
      | .error thrown => return .error thrown
      | .ok (.error err) => reply (.error (.internal ("createMany aborted: " ++ err.message)))
      | .ok (.ok _) => createAll entityName records (inserted + 1)

/-- `createMany`. -/
def createMany (entityName : String) (records : List Json) : Talk (Reply Int) :=
  if records = [] then reply (.ok 0) else createAll A entityName records 0

/-! ### What MySQL is not asked -/

section Refused

variable {A} {entityName : String} {schema : EntitySchema} {data : Json}

theorem setFragments_eq_nil_iff : setFragments schema data = [] ↔ updatedFields schema data = [] :=
  List.map_eq_nil_iff

theorem update_nothing (hschema : A.schemas entityName = some schema)
    (hvalid : isValidIdentifier schema.name = true) (hnone : updatedFields schema data = [])
    (id : String) :
    update A entityName id data = reply (.error (.validationError "No fields to update")) := by
  simp [update, knowing, SqlAdapter.knowing, hschema, hvalid, setFragments_eq_nil_iff.2 hnone]

/-- A call on a table whose name is not an identifier. -/
theorem knowing_invalid (hschema : A.schemas entityName = some schema)
    (hinvalid : isValidIdentifier schema.name = false) (next : EntitySchema → Talk (Reply α)) :
    knowing A entityName next =
      reply (.error (.validationError ("Invalid entity name: " ++ schema.name))) := by
  simp [knowing, SqlAdapter.knowing, hschema, hinvalid]

end Refused

end MySQLAdapter
end Adapters
end Dbal
