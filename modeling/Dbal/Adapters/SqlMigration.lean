/-
# The migration of a table

`SqlAdapter::migrateTable` of `src/adapters/sql/sql_adapter_schema.cpp`, as the statements that it
sends to the database, one after the other and outside a transaction.  Its last step moves the
primary key to the column of the schema: the column is made `NOT NULL`, the old key is dropped and
the new one added.  Where one of these statements fails, the table is as before exactly if those
before it had nothing to change.
-/

import Dbal.Adapters.SqlWrites

namespace Dbal
namespace Adapters

/-! ### Statements -/

/-- The statements of a migration, each about the table that is migrated. -/
inductive MigrationStatement where
  /-- The columns in `information_schema`. -/
  | selectColumns
  /-- The columns of the primary key in `information_schema`. -/
  | selectPrimaryKey
  /-- `ADD COLUMN column type` -/
  | addColumn (column type : String)
  /-- `ALTER COLUMN column DROP NOT NULL` -/
  | dropNotNull (column : String)
  /-- `MODIFY COLUMN column type NULL` -/
  | modifyNull (column type : String)
  /-- `ALTER COLUMN column SET NOT NULL` -/
  | setNotNull (column : String)
  /-- `MODIFY COLUMN column type NOT NULL` -/
  | modifyNotNull (column type : String)
  /-- `DROP CONSTRAINT name` -/
  | dropConstraint (name : String)
  /-- `DROP PRIMARY KEY` -/
  | dropPrimaryKey
  /-- `ADD PRIMARY KEY (column)` -/
  | addPrimaryKey (column : String)
  deriving DecidableEq

/-- A program that sends such statements; each is answered with rows, or with what was thrown. -/
abbrev Migration (α : Type) := Dialogue MigrationStatement (Except Refusal (List SqlRow)) α

/-- What is logged of it. -/
def Refusal.text : Refusal → String
  | sqlError err => err.message
  | unableToConnect what => what

/-- `ExistingColumn`. -/
structure ExistingColumn where
  nullable : Bool := true
  dataType : String := ""

/-- How the migration ends. -/
inductive Correction where
  | notNeeded
  | corrected
  | failed (message : String)

namespace SqlAdapter

/-! ### The columns that there are -/

/-- A column under its name, or under the same name in small letters. -/
def rowColumn (row : SqlRow) (name lower : String) : Option String :=
  row.columns[name]?.or row.columns[lower]?

/-- A row of the inspection, in PostgreSQL (`pg`) or MySQL. -/
def readColumn (pg : Bool) (row : SqlRow) : Option (String × ExistingColumn) :=
  if pg then
    row.columns["column_name"]?.map fun name =>
      (name, { nullable := row.columns["is_nullable"]?.all (· = "YES") })
  else
    (rowColumn row "COLUMN_NAME" "column_name").map fun name =>
      (name, { nullable := (rowColumn row "IS_NULLABLE" "is_nullable").all (· = "YES")
               dataType := (rowColumn row "COLUMN_TYPE" "column_type").getD "" })

/-- The columns by their names; a later row with the same name wins. -/
def existingColumns (pg : Bool) (rows : List SqlRow) : Std.TreeMap String ExistingColumn :=
  (rows.filterMap (readColumn pg)).foldl (fun columns entry => columns.insert entry.1 entry.2) {}

/-- The columns of the schema that are missing; a failure is logged. -/
def addColumns (mapFieldType : FieldDefinition → String)
    (existing : Std.TreeMap String ExistingColumn) : List FieldDefinition → Migration Unit
  | [] => pure ()
  | field :: fields =>
      if existing.contains field.name then addColumns mapFieldType existing fields
      else
        .send (.addColumn field.name (mapFieldType field)) fun _ =>
          addColumns mapFieldType existing fields

/-- The statement that lets a column be null; without its type there is none in MySQL. -/
def relaxStatement (pg : Bool) (name : String) (column : ExistingColumn) :
    Option MigrationStatement :=
  if pg then some (.dropNotNull name)
  else if column.dataType ≠ "" then some (.modifyNull name column.dataType)
  else none

/-- The schema lets the field be null, and the column is not. -/
def relaxes (field : FieldDefinition) (column : ExistingColumn) : Bool :=
  !column.nullable && (field.nullable || field.optional) && !field.primary

/-- The columns that may be null from now on. -/
def relaxNotNull (pg : Bool) : List FieldDefinition → Std.TreeMap String ExistingColumn →
    Migration (Std.TreeMap String ExistingColumn)
  | [], existing => pure existing
  | field :: fields, existing =>
      match existing[field.name]? with
      | none => relaxNotNull pg fields existing
      | some column =>
          if relaxes field column then
            let relaxed := existing.insert field.name { column with nullable := true }
            match relaxStatement pg field.name column with
            | none => relaxNotNull pg fields relaxed
            | some statement =>
                .send statement fun
                  | .ok _ => relaxNotNull pg fields relaxed
                  | .error _ => relaxNotNull pg fields existing
          else relaxNotNull pg fields existing

/-! ### The primary key -/

/-- The columns of the primary key, and in PostgreSQL its name. -/
structure CurrentKey where
  columns : List String := []
  constraint : String := ""

/-- The rows of the inspection of the key. -/
def readKey (pg : Bool) (rows : List SqlRow) : CurrentKey :=
  if pg then
    { columns := rows.filterMap fun row => row.columns["column_name"]?
      constraint := (rows.filterMap fun row => row.columns["constraint_name"]?).getLast?.getD "" }
  else { columns := rows.filterMap fun row => rowColumn row "COLUMN_NAME" "column_name" }

/-- The statement that makes the new key column `NOT NULL`. -/
def notNullStatement (pg : Bool) (existing : Std.TreeMap String ExistingColumn) (field : String) :
    Option MigrationStatement :=
  if pg then some (.setNotNull field)
  else
    match existing[field]? with
    | none => none
    | some column => if column.dataType ≠ "" then some (.modifyNotNull field column.dataType) else none

/-- The statement that drops the old key. -/
def dropStatement (pg : Bool) (key : CurrentKey) : Option MigrationStatement :=
  if key.constraint ≠ "" then some (.dropConstraint key.constraint)
  else if key.columns ≠ [] ∧ ¬ pg then some .dropPrimaryKey
  else none

/-- The statements of the correction, in their order. -/
def correctionStatements (pg : Bool) (existing : Std.TreeMap String ExistingColumn)
    (key : CurrentKey) (field : String) : List MigrationStatement :=
  (notNullStatement pg existing field).toList ++ (dropStatement pg key).toList ++
    [.addPrimaryKey field]

/-- The statements one after the other, up to the first that throws. -/
def issue : List MigrationStatement → Migration (Except Refusal Unit)
  | [] => pure (.ok ())
  | statement :: statements =>
      .send statement fun
        | .ok _ => issue statements
        | .error refusal => pure (.error refusal)

/-- What is logged where the correction fails. -/
def failedMessage (entity : String) (key : CurrentKey) (field what : String) : String :=
  "Schema migration: " ++ entity ++ " primary key correction FAILED — table still has its old " ++
    "primary key on [" ++ joinFragments key.columns ", " ++ "], schema expects '" ++ field ++
    "'. This usually means existing rows have NULL or duplicate values in '" ++ field ++
    "' and need manual cleanup before the primary key can be moved. Reason: " ++ what

/-- A correction that is to be made. -/
structure CorrectionPlan where
  field : String
  key : CurrentKey
  statements : List MigrationStatement

/-- The first field of the schema that is primary. -/
def primaryField (entity : EntityDefinition) : String :=
  ((entity.fields.find? fun field => field.primary).map fun field => field.name).getD ""

/-- The migration up to the point at which the correction begins. -/
def planCorrection (mapFieldType : FieldDefinition → String) (pg : Bool)
    (entity : EntityDefinition) : Migration (Except SqlError (Option CorrectionPlan)) :=
  .send .selectColumns fun
    -- only a `std::exception` is caught there, and a `SqlError` is none
    | .error (.sqlError err) => pure (.error err)
    | .error (.unableToConnect _) => pure (.ok none)
    | .ok rows => do
        let existing := existingColumns pg rows
        addColumns mapFieldType existing entity.fields
        let existing ← relaxNotNull pg entity.fields existing
        let field := primaryField entity
        if field = "" then pure (.ok none)
        else
          .send .selectPrimaryKey fun answer =>
            let key := match answer with
              | .ok rows => readKey pg rows
              | .error _ => {}
            if key.columns = [field] ∨ ¬ existing.contains field then pure (.ok none)
            else pure (.ok (some ⟨field, key, correctionStatements pg existing key field⟩))

/-- `migrateTable`, and the `SqlError` that leaves it; the columns that are not in the schema are only
logged. -/
def migrateTable (mapFieldType : FieldDefinition → String) (pg : Bool)
    (entity : EntityDefinition) : Migration (Except SqlError Correction) := do
  match ← planCorrection mapFieldType pg entity with
  | .error err => pure (.error err)
  | .ok none => pure (.ok .notNeeded)
  | .ok (some plan) =>
      match ← issue plan.statements with
      | .ok () => pure (.ok .corrected)
      | .error refusal =>
          pure (.ok (.failed (failedMessage entity.name plan.key plan.field refusal.text)))

end SqlAdapter
end Adapters
end Dbal
