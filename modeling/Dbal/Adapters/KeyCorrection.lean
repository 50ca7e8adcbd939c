/-
# The correction of a primary key

A table as the statements of a migration change it, each of them as a whole or not at all.  A
correction that fails leaves the key and the nullability of the columns exactly if the statements
that were carried out had nothing to change: its message says that the table still has the old key,
and that is so only where the key was not yet dropped.
-/

import Dbal.Adapters.SqlMigration
import Dbal.Store.UniqueIndex

namespace Dbal
namespace Adapters

/-! ### Tables -/

structure SqlColumn where
  type : String
  nullable : Bool

structure SqlKey where
  name : String
  columns : List String
  deriving DecidableEq

structure SqlTable where
  columns : Std.TreeMap String SqlColumn
  primaryKey : Option SqlKey

namespace SqlTable

/-- The column, if there is one, with another nullability and with this type, if one is given. -/
def setColumn (table : SqlTable) (name : String) (type : Option String) (nullable : Bool) :
    SqlTable :=
  match table.columns[name]? with
  | none => table
  | some column =>
      { table with columns := table.columns.insert name ⟨type.getD column.type, nullable⟩ }

/-- Whether the column may be null. -/
def nullability (table : SqlTable) (name : String) : Option Bool :=
  table.columns[name]?.map (·.nullable)

/-- The key and the nullability of the columns are the same. -/
structure SameKey (before after : SqlTable) : Prop where
  primaryKey : after.primaryKey = before.primaryKey
  nullability : ∀ name, after.nullability name = before.nullability name

end SqlTable

namespace MigrationStatement

/-- What a statement does to the table; a new key gets the name `keyName`. -/
def apply (keyName : String) (table : SqlTable) : MigrationStatement → SqlTable
  | selectColumns | selectPrimaryKey => table
  | addColumn column type =>
      if table.columns.contains column then table
      else { table with columns := table.columns.insert column ⟨type, true⟩ }
  | dropNotNull column => table.setColumn column none true
  | modifyNull column type => table.setColumn column (some type) true
  | setNotNull column => table.setColumn column none false
  | modifyNotNull column type => table.setColumn column (some type) false
  | dropConstraint name =>
      { table with primaryKey := table.primaryKey.filter fun key => key.name ≠ name }
  | dropPrimaryKey => { table with primaryKey := none }
  | addPrimaryKey column =>
      { table.setColumn column none false with primaryKey := some ⟨keyName, [column]⟩ }

/-- A statement before the last of a correction has nothing to change: the column is not null, the
table has no such key. -/
def Idle (table : SqlTable) : MigrationStatement → Prop
  | setNotNull column | modifyNotNull column _ => table.nullability column ≠ some true
  | dropConstraint name => ∀ key ∈ table.primaryKey, key.name ≠ name
  | dropPrimaryKey => table.primaryKey = none
  | _ => False

end MigrationStatement

/-- A database with one table: a statement fails if the head of `faults` says what is thrown, and
then changes nothing; `catalog` is what the queries find. -/
def serveTable (keyName : String) (catalog : MigrationStatement → SqlTable → List SqlRow)
    (statement : MigrationStatement) (s : SqlTable × List (Option Refusal)) :
    Except Refusal (List SqlRow) × (SqlTable × List (Option Refusal)) :=
  match s.2 with
  | some refusal :: faults => (.error refusal, s.1, faults)
  | faults => (.ok (catalog statement s.1), statement.apply keyName s.1, faults.tail)

/-- The statements before the first that fails. -/
def carriedOut : List (Option Refusal) → List MigrationStatement → List MigrationStatement
  | _, [] => []
  | some _ :: _, _ :: _ => []
  | none :: faults, statement :: statements => statement :: carriedOut faults statements
  | [], statement :: statements => statement :: carriedOut [] statements

variable {keyName : String} {catalog : MigrationStatement → SqlTable → List SqlRow}
  {table : SqlTable} {faults : List (Option Refusal)}

open SqlAdapter

/-- The table after some statements. -/
def applyAll (keyName : String) (table : SqlTable) (statements : List MigrationStatement) :
    SqlTable :=
  statements.foldl (fun table statement => statement.apply keyName table) table

/-- **The statements are carried out up to the first that fails**, and an error means that one
did. -/
theorem issue_run (table : SqlTable) (faults : List (Option Refusal))
    (statements : List MigrationStatement) :
    ((issue statements).run (serveTable keyName catalog) (table, faults)).2.1 =
        applyAll keyName table (carriedOut faults statements) ∧
      (∀ refusal,
        ((issue statements).run (serveTable keyName catalog) (table, faults)).1 = .error refusal →
        ∃ statement rest, statements = carriedOut faults statements ++ statement :: rest) := by
  induction statements generalizing table faults with
  | nil =>
      rw [issue, carriedOut]
      exact ⟨rfl, fun refusal h => nomatch h⟩
  | cons statement statements ih =>
      rw [issue, Dialogue.run_send]
      rcases faults with _ | ⟨_ | refusal, faults⟩
      · obtain ⟨htable, herror⟩ := ih (statement.apply keyName table) []
        refine ⟨htable, fun refusal h => ?_⟩
        obtain ⟨next, rest, heq⟩ := herror refusal h
        exact ⟨next, rest, congrArg (statement :: ·) heq⟩
      · obtain ⟨htable, herror⟩ := ih (statement.apply keyName table) faults
        refine ⟨htable, fun refusal h => ?_⟩
        obtain ⟨next, rest, heq⟩ := herror refusal h
        exact ⟨next, rest, congrArg (statement :: ·) heq⟩
      · exact ⟨rfl, fun _ _ => ⟨statement, statements, rfl⟩⟩

/-! ### The effects of the statements -/

namespace SqlTable

theorem SameKey.refl (table : SqlTable) : SameKey table table := ⟨rfl, fun _ => rfl⟩

@[simp] theorem setColumn_primaryKey (table : SqlTable) (name : String) (type : Option String)
    (nullable : Bool) : (table.setColumn name type nullable).primaryKey = table.primaryKey := by
  unfold setColumn
  split <;> rfl

theorem setColumn_nullability (table : SqlTable) (name : String) (type : Option String)
    (nullable : Bool) (column : String) :
    (table.setColumn name type nullable).nullability column =
      if name = column then (table.nullability column).map fun _ => nullable
      else table.nullability column := by
  unfold setColumn nullability
  rcases hname : table.columns[name]? with _ | old
  · split_ifs with heq
    · simp [← heq, hname]
    · rfl
  · dsimp only
    rw [getElem?_insert_eq]
    split_ifs with heq
    · simp [← heq, hname]
    · rfl

/-- A column that becomes `NOT NULL` was so already, or there is a difference. -/
theorem setColumn_nullability_iff (table : SqlTable) (name : String) (type : Option String) :
    (∀ column, (table.setColumn name type false).nullability column = table.nullability column) ↔
      table.nullability name ≠ some true := by
  constructor
  · intro h hnull
    have hname := h name
    rw [setColumn_nullability, if_pos rfl, hnull] at hname
    cases hname
  · intro h column
    rw [setColumn_nullability]
    split_ifs with heq
    · subst heq
      rcases hname : table.nullability name with _ | _ | _
      · rfl
      · rfl
      · exact absurd hname h
    · rfl

end SqlTable

namespace MigrationStatement

open SqlTable

/-- The statement makes a column `NOT NULL`. -/
def IsNotNull (statement : MigrationStatement) : Prop :=
  ∃ column, statement = setNotNull column ∨ ∃ type, statement = modifyNotNull column type

/-- The statement drops a key. -/
def IsDrop (statement : MigrationStatement) : Prop :=
  statement = dropPrimaryKey ∨ ∃ name, statement = dropConstraint name

variable {statement : MigrationStatement}

theorem IsNotNull.primaryKey (h : statement.IsNotNull) (keyName : String) (table : SqlTable) :
    (statement.apply keyName table).primaryKey = table.primaryKey := by
  obtain ⟨column, rfl | ⟨type, rfl⟩⟩ := h <;> exact setColumn_primaryKey ..

theorem IsNotNull.idle_iff (h : statement.IsNotNull) (keyName : String) (table : SqlTable) :
    statement.Idle table ↔
      ∀ name, (statement.apply keyName table).nullability name = table.nullability name := by
  obtain ⟨column, rfl | ⟨type, rfl⟩⟩ := h <;> exact (setColumn_nullability_iff ..).symm

theorem IsDrop.nullability (h : statement.IsDrop) (keyName : String) (table : SqlTable)
    (name : String) : (statement.apply keyName table).nullability name = table.nullability name := by
  obtain rfl | ⟨constraint, rfl⟩ := h <;> rfl

theorem IsDrop.idle_iff (h : statement.IsDrop) (keyName : String) {table table' : SqlTable}
    (htable : table'.primaryKey = table.primaryKey) :
    statement.Idle table ↔ (statement.apply keyName table').primaryKey = table.primaryKey := by
  obtain rfl | ⟨constraint, rfl⟩ := h
  · exact eq_comm
  · show (∀ key ∈ table.primaryKey, key.name ≠ constraint) ↔
      table'.primaryKey.filter (fun key => key.name ≠ constraint) = table.primaryKey
    rw [htable]
    rcases table.primaryKey with _ | key
    · simp
    · simp [Option.filter_some]

end MigrationStatement

open MigrationStatement

theorem notNullStatement_isNotNull {pg : Bool} {existing : Std.TreeMap String ExistingColumn}
    {field : String} {statement : MigrationStatement}
    (h : notNullStatement pg existing field = some statement) : statement.IsNotNull := by
  unfold notNullStatement at h
  split_ifs at h
  · exact ⟨field, .inl (Option.some.inj h).symm⟩
  · split at h
    · cases h
    · split_ifs at h
      exact ⟨field, .inr ⟨_, (Option.some.inj h).symm⟩⟩

theorem dropStatement_isDrop {pg : Bool} {key : CurrentKey} {statement : MigrationStatement}
    (h : dropStatement pg key = some statement) : statement.IsDrop := by
  unfold dropStatement at h
  split_ifs at h
  · exact .inr ⟨_, (Option.some.inj h).symm⟩
  · exact .inl (Option.some.inj h).symm

/-- **A column that becomes `NOT NULL` and a key that is dropped** leave everything as it was
exactly if both had nothing to change. -/
theorem sameKey_iff (keyName : String) (table : SqlTable) {notNull drop : Option MigrationStatement}
    (hnotNull : ∀ s ∈ notNull, s.IsNotNull) (hdrop : ∀ s ∈ drop, s.IsDrop) :
    table.SameKey (applyAll keyName table (notNull.toList ++ drop.toList)) ↔
      ∀ s ∈ notNull.toList ++ drop.toList, s.Idle table := by
  -- the columns change in the first statement only, the key in the second only
  have hfirst : (applyAll keyName table notNull.toList).primaryKey = table.primaryKey ∧
      ((∀ name, (applyAll keyName table notNull.toList).nullability name = table.nullability name) ↔
        ∀ s ∈ notNull.toList, s.Idle table) := by
    rcases notNull with _ | s
    · exact ⟨rfl, by simp [applyAll]⟩
    · have hs := hnotNull s rfl
      exact ⟨hs.primaryKey keyName table,
        (hs.idle_iff keyName table).symm.trans List.forall_mem_singleton.symm⟩
  have hsecond : ∀ table' : SqlTable, table'.primaryKey = table.primaryKey →
      (∀ name, (applyAll keyName table' drop.toList).nullability name = table'.nullability name) ∧
      ((applyAll keyName table' drop.toList).primaryKey = table.primaryKey ↔
        ∀ s ∈ drop.toList, s.Idle table) := by
    intro table' htable'
    rcases drop with _ | s
    · exact ⟨fun _ => rfl, by simpa [applyAll] using htable'⟩
    · have hs := hdrop s rfl
      exact ⟨hs.nullability keyName table',
        (hs.idle_iff keyName htable').symm.trans List.forall_mem_singleton.symm⟩
  have hall : applyAll keyName table (notNull.toList ++ drop.toList) =
      applyAll keyName (applyAll keyName table notNull.toList) drop.toList := List.foldl_append
  obtain ⟨hnull, hkey⟩ := hsecond _ hfirst.1
  rw [hall, List.forall_mem_append, ← hfirst.2, ← hkey]
  constructor
  · exact fun h => ⟨fun name => (hnull name).symm.trans (h.nullability name), h.primaryKey⟩
  · exact fun h => ⟨h.2, fun name => (hnull name).trans (h.1 name)⟩

/-- What was carried out of a correction that failed. -/
theorem prefix_of_correction {notNull drop : Option MigrationStatement}
    {add statement : MigrationStatement} {done rest : List MigrationStatement}
    (h : notNull.toList ++ drop.toList ++ [add] = done ++ statement :: rest) :
    ∃ notNull' drop' : Option MigrationStatement, (∀ s ∈ notNull', s ∈ notNull) ∧
      (∀ s ∈ drop', s ∈ drop) ∧ done = notNull'.toList ++ drop'.toList := by
  have hprefix : done <+: notNull.toList ++ drop.toList := by
    rcases List.prefix_concat_iff.1 ⟨statement :: rest, h.symm⟩ with heq | hprefix
    · have hlength := congrArg List.length h
      rw [heq] at hlength
      simp at hlength
    · exact hprefix
  rcases notNull with _ | s <;> rcases drop with _ | d <;>
    simp only [Option.toList_none, Option.toList_some, List.nil_append, List.append_nil,
      List.cons_append] at hprefix
  · exact ⟨none, none, by simp, by simp, List.prefix_nil.1 hprefix⟩
  · rcases List.prefix_cons_iff.1 hprefix with rfl | ⟨tail, rfl, htail⟩
    · exact ⟨none, none, by simp, by simp, rfl⟩
    · exact ⟨none, some d, by simp, by simp, by rw [List.prefix_nil.1 htail]; rfl⟩
  · rcases List.prefix_cons_iff.1 hprefix with rfl | ⟨tail, rfl, htail⟩
    · exact ⟨none, none, by simp, by simp, rfl⟩
    · exact ⟨some s, none, by simp, by simp, by rw [List.prefix_nil.1 htail]; rfl⟩
  · rcases List.prefix_cons_iff.1 hprefix with rfl | ⟨tail, rfl, htail⟩
    · exact ⟨none, none, by simp, by simp, rfl⟩
    · rcases List.prefix_cons_iff.1 htail with rfl | ⟨tail', rfl, htail'⟩
      · exact ⟨some s, none, by simp, by simp, rfl⟩
      · exact ⟨some s, some d, by simp, by simp, by rw [List.prefix_nil.1 htail']; rfl⟩

/-- The statements of a plan are those of a correction. -/
theorem planCorrection_statements {mapFieldType : FieldDefinition → String} {pg : Bool}
    {entity : EntityDefinition} {plan : CorrectionPlan}
    (h : ((planCorrection mapFieldType pg entity).run (serveTable keyName catalog)
      (table, faults)).1 = .ok (some plan)) :
    ∃ existing, plan.statements = correctionStatements pg existing plan.key plan.field := by
  rw [planCorrection, Dialogue.run_send] at h
  split at h
  · cases h
  · cases h
  · simp only [Dialogue.run_bind] at h
    split_ifs at h
    · cases h
    · rw [Dialogue.run_send] at h
      split_ifs at h
      · cases h
      · obtain rfl := Option.some.inj (Except.ok.inj h)
        exact ⟨_, rfl⟩

/-- **A failed correction leaves the key and the nullability of the columns exactly if what was
carried out of it had nothing to change.** -/
theorem failed_correction_keeps_iff {mapFieldType : FieldDefinition → String} {pg : Bool}
    {entity : EntityDefinition} {plan : CorrectionPlan} {before after : SqlTable}
    {faults' rest : List (Option Refusal)} {message : String}
    (hplan : (planCorrection mapFieldType pg entity).run (serveTable keyName catalog)
      (table, faults) = (.ok (some plan), before, faults'))
    (hfailed : (migrateTable mapFieldType pg entity).run (serveTable keyName catalog)
      (table, faults) = (.ok (.failed message), after, rest)) :
    before.SameKey after ↔ ∀ s ∈ carriedOut faults' plan.statements, s.Idle before := by
  obtain ⟨existing, hstatements⟩ := planCorrection_statements (congrArg Prod.fst hplan)
  obtain ⟨htable, herror⟩ := @issue_run keyName catalog before faults' plan.statements
  rw [migrateTable, Dialogue.run_bind, hplan] at hfailed
  dsimp only at hfailed
  rw [Dialogue.run_bind] at hfailed
  rcases hissue : ((issue plan.statements).run (serveTable keyName catalog) (before, faults')) with
    ⟨refusal | u, after', faults''⟩ <;> rw [hissue] at hfailed htable herror
  · obtain ⟨-, hafter⟩ := Prod.mk.inj hfailed
    obtain ⟨rfl, -⟩ := Prod.mk.inj hafter
    obtain ⟨statement, rest, heq⟩ := herror refusal rfl
    rw [hstatements] at heq
    obtain ⟨notNull, drop, hnotNull, hdrop, hdone⟩ := prefix_of_correction heq
    have hiff := sameKey_iff keyName before
      (fun s hs => notNullStatement_isNotNull (hnotNull s hs))
      (fun s hs => dropStatement_isDrop (hdrop s hs))
    rw [← hdone, ← hstatements, ← htable] at hiff
    exact hiff
  · cases Except.ok.inj (Prod.mk.inj hfailed).1

/-! ### Two corrections -/

/-- A row of the inspection in PostgreSQL. -/
def pgRow (entries : List (String × String)) : SqlRow := ⟨.ofList entries⟩

/-- What `information_schema` says of the table. -/
def pgCatalog : MigrationStatement → SqlTable → List SqlRow
  | .selectColumns, table => table.columns.toList.map fun (name, column) =>
      pgRow [("column_name", name), ("is_nullable", if column.nullable then "YES" else "NO")]
  | .selectPrimaryKey, table => table.primaryKey.toList.flatMap fun key =>
      key.columns.map fun column =>
        pgRow [("column_name", column), ("constraint_name", key.name)]
  | _, _ => []

/-- A table whose key is on `slug`. -/
def postTable : SqlTable where
  columns := .ofList [("id", SqlColumn.mk "TEXT" false), ("slug", SqlColumn.mk "TEXT" false)]
  primaryKey := some ⟨"Post_pkey", ["slug"]⟩

/-- The schema wants the key on `id`. -/
def postEntity : EntityDefinition where
  name := "Post"
  fields := [{ name := "id", type := "string", primary := true },
    { name := "slug", type := "string", required := true }]

/-- The migration up to the correction. -/
def planPost (faults : List (Option Refusal)) :
    Except SqlError (Option CorrectionPlan) × SqlTable × List (Option Refusal) :=
  (planCorrection (fun _ => "TEXT") true postEntity).run (serveTable "Post_pkey" pgCatalog)
    (postTable, faults)

/-- The whole migration. -/
def migratePost (faults : List (Option Refusal)) :
    Except SqlError Correction × SqlTable × List (Option Refusal) :=
  (migrateTable (fun _ => "TEXT") true postEntity).run (serveTable "Post_pkey" pgCatalog)
    (postTable, faults)

/-- What is logged. -/
def Correction.message? : Except SqlError Correction → Option String
  | .ok (.failed message) => some message
  | _ => none

/-- A statement that the database refuses. -/
def refuse (message : String) : Option Refusal := some (.sqlError ⟨.unknown, message⟩)

/-- The old key cannot be dropped, and the column was not null before. -/
theorem failed_drop_keeps :
    let faults := [none, none, none, refuse "lock timeout"]
    (planPost faults).2.1.SameKey (migratePost faults).2.1 := by
  intro faults
  have hplanned : (planPost faults).1.toOption.bind (·.map (·.statements)) =
      some [.setNotNull "id", .dropConstraint "Post_pkey", .addPrimaryKey "id"] := by decide +kernel
  have hlogged : (Correction.message? (migratePost faults).1).isSome := by decide +kernel
  have hfaults : (planPost faults).2.2 = [none, refuse "lock timeout"] := by decide +kernel
  have hcolumn : (planPost faults).2.1.nullability "id" = some false := by decide +kernel
  rcases hplan : planPost faults with ⟨_ | _ | plan, before, faults'⟩ <;>
    rw [hplan] at hplanned hfaults hcolumn
  · cases hplanned
  · cases hplanned
  rcases hrun : migratePost faults with ⟨_ | _ | _ | message, after, rest⟩ <;> rw [hrun] at hlogged
  · cases hlogged
  · cases hlogged
  · cases hlogged
  refine (failed_correction_keeps_iff hplan hrun).2 fun s hs => ?_
  obtain rfl : faults' = [none, refuse "lock timeout"] := hfaults
  have hstatements : plan.statements =
      [.setNotNull "id", .dropConstraint "Post_pkey", .addPrimaryKey "id"] :=
    Option.some.inj hplanned
  rw [hstatements] at hs
  obtain rfl := List.mem_singleton.1 hs
  show before.nullability "id" ≠ some true
  rw [show before.nullability "id" = some false from hcolumn]
  exact fun h => nomatch h

/-- **The new key cannot be added**: the table is left without a key, and the message says that it
still has the old one. -/
theorem failed_add_drops_key :
    let faults := [none, none, none, none, refuse "duplicate key"]
    Correction.message? (migratePost faults).1 =
        some ("Schema migration: Post primary key correction FAILED — table still has its old " ++
          "primary key on [slug], schema expects 'id'. This usually means existing rows have NULL " ++
          "or duplicate values in 'id' and need manual cleanup before the primary key can be " ++
          "moved. Reason: duplicate key") ∧
      (planPost faults).2.1.primaryKey = some ⟨"Post_pkey", ["slug"]⟩ ∧
      (migratePost faults).2.1.primaryKey = none := by
  decide +kernel

end Adapters
end Dbal
