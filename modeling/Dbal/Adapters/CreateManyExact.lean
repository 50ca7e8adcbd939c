/-
# When `createMany` is exact

A `createMany` is exact when it returns an error and has stored nothing, or returns the length of
the list and has stored all of it.  The three adapters meet the failure of one insert differently:
`SqlAdapter` gives up and "rolls back" a transaction that the database was never told of, the MySQL
adapter gives up (`src/adapters/sql/sql_adapter_bulk.cpp`, `mysql_adapter.cpp`), and the SQLite
adapter goes on (`src/adapters/sqlite/sqlite_adapter_bulk.cpp`).  So each is exact only where no
failure comes after a row that is stored.
-/

import Dbal.Adapters.SQLiteQueryBuilder
import Dbal.Adapters.SQLiteTypeConverter
import Dbal.Adapters.SqlWrites

namespace Dbal
namespace Adapters

open SqlAdapter

variable {ι ε ο σ τ ρ δ : Type}

/-! ### Rows -/

/-- `n` rows were added. -/
def Grew (before after : List ρ) (n : Nat) : Prop :=
  ∃ added, after = before ++ added ∧ added.length = n

theorem Grew.refl (before : List ρ) : Grew before before 0 := ⟨[], by simp, rfl⟩

theorem Grew.of_eq {before after : List ρ} (h : after = before) : Grew before after 0 := by
  subst h
  exact Grew.refl after

theorem Grew.trans {before middle after : List ρ} {m n : Nat} (h : Grew before middle m)
    (h' : Grew middle after n) : Grew before after (m + n) := by
  obtain ⟨first, rfl, rfl⟩ := h
  obtain ⟨second, rfl, rfl⟩ := h'
  exact ⟨first ++ second, by simp, by simp⟩

theorem Grew.length_eq {before after : List ρ} {n : Nat} (h : Grew before after n) :
    after.length = before.length + n := by
  obtain ⟨added, rfl, rfl⟩ := h
  simp

/-- **What a database does with the rows of its tables**: a refused statement changes none of
them, an `INSERT` that is accepted adds one, a `SELECT` reads.  Nothing is said of when it
refuses. -/
structure StoresRows (sql : ι → String) (server : ι → σ → Except ε ο × σ) (rows : σ → List ρ) :
    Prop where
  refused : ∀ {request s e}, (server request s).1 = .error e → rows (server request s).2 = rows s
  inserted : ∀ {request s o}, "INSERT INTO ".toList <+: (sql request).toList →
    (server request s).1 = .ok o → ∃ row, rows (server request s).2 = rows s ++ [row]
  selected : ∀ {request s o}, "SELECT ".toList <+: (sql request).toList →
    (server request s).1 = .ok o → rows (server request s).2 = rows s

namespace StoresRows

variable {sql : ι → String} {server : ι → σ → Except ε ο × σ} {rows : σ → List ρ}

theorem grew_inserted (hrows : StoresRows sql server rows) {request : ι} {s : σ} {o : ο}
    (hinsert : "INSERT INTO ".toList <+: (sql request).toList) (h : (server request s).1 = .ok o) :
    Grew (rows s) (rows (server request s).2) 1 := by
  obtain ⟨row, hrow⟩ := hrows.inserted hinsert h
  exact ⟨[row], hrow, rfl⟩

theorem reads (hrows : StoresRows sql server rows) {request : ι}
    (hselect : "SELECT ".toList <+: (sql request).toList) (s : σ) :
    rows (server request s).2 = rows s := by
  cases h : (server request s).1 with
  | error e => exact hrows.refused h
  | ok o => exact hrows.selected hselect h

end StoresRows

/-- The requests are accepted, one after the other. -/
def Accepts (server : ι → σ → Except ε ο × σ) : List ι → σ → Prop
  | [], _ => True
  | request :: requests, s =>
      (∃ o, (server request s).1 = .ok o) ∧ Accepts server requests (server request s).2

/-- The first of the statements is refused with a `SqlError`. -/
def RefusedAtOnce (server : Statement → σ → Except Refusal Answer × σ) : List Statement → σ → Prop
  | [], _ => False
  | statement :: _, s => ∃ err, (server statement s).1 = .error (.sqlError err)

/-- **The result of a `createMany` is exact**: an error and no record stored, or the length of the
list and all of it stored. -/
def Exact (records : List Json) (before after : List ρ) (result : Reply Int) : Prop :=
  (∃ err, result = .ok (.error err) ∧ after = before) ∨
    (result = .ok (.ok records.length) ∧ Grew before after records.length)

/-- What failed is exact only if it stored nothing. -/
theorem Exact.unchanged {records : List Json} {before after : List ρ} {result : Reply Int}
    (h : Exact records before after result) (hresult : ∀ n, result ≠ .ok (.ok n)) :
    (∃ err, result = .ok (.error err)) ∧ after = before := by
  rcases h with ⟨err, herr, hafter⟩ | ⟨hok, -⟩
  · exact ⟨⟨err, herr⟩, hafter⟩
  · exact absurd hok (hresult _)

section Statements

variable {α : Type} {server : Statement → σ → Except Refusal Answer × σ}

theorem attempt_ok {statement : Statement} {s : σ} {answer : Answer}
    (h : (server statement s).1 = .ok answer) (next : Answer → Talk (Reply α)) :
    (attempt statement next).run server s = (next answer).run server (server statement s).2 := by
  rw [attempt, Dialogue.run_send, h]

theorem attempt_sqlError {statement : Statement} {s : σ} {err : SqlError}
    (h : (server statement s).1 = .error (.sqlError err)) (next : Answer → Talk (Reply α)) :
    (attempt statement next).run server s =
      (.ok (.error (mapSqlError err)), (server statement s).2) := by
  rw [attempt, Dialogue.run_send, h]
  rfl

theorem attempt_unable {statement : Statement} {s : σ} {what : String}
    (h : (server statement s).1 = .error (.unableToConnect what))
    (next : Answer → Talk (Reply α)) :
    (attempt statement next).run server s =
      (.error (.adapter what), (server statement s).2) := by
  rw [attempt, Dialogue.run_send, h]
  rfl

end Statements

/-! ### `SqlAdapter` -/

namespace SqlAdapter

theorem insertStatement_isInsert (A : SqlAdapter) (schema : EntitySchema) (data : Json) :
    "INSERT INTO ".toList <+: (A.insertStatement schema data).sql.toList := by
  rw [insertStatement, buildInsertSql, String.toList_append]
  exact List.prefix_append _ _

/-- A transaction begins where none is active, and no statement is sent for it. -/
theorem beginTransaction_idle {tx : TxManager} (hidle : inTransaction tx = false) :
    ∃ manager : SqlTransactionManager, manager.isActive = true ∧
      beginTransaction tx = (.ok (.ok true), some manager) := by
  cases tx with
  | none => exact ⟨{ connection := 0, isActive := true }, rfl, rfl⟩
  | some manager =>
      have hactive : manager.isActive = false := by simpa [inTransaction] using hidle
      exact ⟨{ manager with isActive := true }, rfl, by
        simp [beginTransaction, SqlTransactionManager.begin, hactive]⟩

/-- The end of an active transaction leaves the result of the loop as it is. -/
theorem finishMany_fst {manager : SqlTransactionManager} (hactive : manager.isActive = true)
    (result : Reply Int) : (finishMany (some manager) result).1 = result := by
  rcases result with thrown | err | inserted
  · rfl
  · simp [finishMany, rollbackTransaction, endTransaction, SqlTransactionManager.rollback, hactive]
  · simp [finishMany, commitTransaction, endTransaction, SqlTransactionManager.commit, hactive]

variable {A : SqlAdapter} {server : Statement → σ → Except Refusal Answer × σ}
  {rows : σ → List ρ} {schema : EntitySchema}

/-- With every insert accepted, the loop stores the whole list. -/
theorem insertAll_accepts (hrows : StoresRows Statement.sql server rows) (records : List Json)
    (k : Nat) (s : σ) (h : Accepts server (records.map (A.insertStatement schema)) s) :
    ((A.insertAll schema records k).run server s).1 = .ok (.ok ((k + records.length : Nat) : Int)) ∧
      Grew (rows s) (rows ((A.insertAll schema records k).run server s).2) records.length := by
  induction records generalizing k s with
  | nil => exact ⟨rfl, Grew.refl _⟩
  | cons record records ih =>
      obtain ⟨⟨answer, hanswer⟩, hrest⟩ := h
      obtain ⟨hresult, hgrew⟩ := ih (k + 1) _ hrest
      have hfirst := hrows.grew_inserted (A.insertStatement_isInsert schema record) hanswer
      rw [insertAll, attempt_ok hanswer]
      refine ⟨by rw [hresult, List.length_cons, Nat.add_assoc, Nat.add_comm 1], ?_⟩
      rw [show (record :: records).length = 1 + records.length from Nat.add_comm _ _]
      exact hfirst.trans hgrew

/-- With an insert refused, the loop returns no count. -/
theorem insertAll_not_ok (records : List Json) (k : Nat) (s : σ)
    (h : ¬ Accepts server (records.map (A.insertStatement schema)) s) (n : Int) :
    ((A.insertAll schema records k).run server s).1 ≠ .ok (.ok n) := by
  induction records generalizing k s with
  | nil => exact absurd trivial h
  | cons record records ih =>
      rw [insertAll]
      rcases hanswer : (server (A.insertStatement schema record) s).1 with (err | what) | answer
      · rw [attempt_sqlError hanswer]
        exact nofun
      · rw [attempt_unable hanswer]
        exact nofun
      · rw [attempt_ok hanswer]
        exact ih (k + 1) _ fun hrest => h ⟨⟨answer, hanswer⟩, hrest⟩

/-- Whatever happens, the loop only adds rows. -/
theorem insertAll_grows (hrows : StoresRows Statement.sql server rows) (records : List Json)
    (k : Nat) (s : σ) :
    ∃ n, Grew (rows s) (rows ((A.insertAll schema records k).run server s).2) n := by
  induction records generalizing k s with
  | nil => exact ⟨0, Grew.refl _⟩
  | cons record records ih =>
      rw [insertAll]
      rcases hanswer : (server (A.insertStatement schema record) s).1 with (err | what) | answer
      · rw [attempt_sqlError hanswer]
        exact ⟨0, Grew.of_eq (hrows.refused hanswer)⟩
      · rw [attempt_unable hanswer]
        exact ⟨0, Grew.of_eq (hrows.refused hanswer)⟩
      · obtain ⟨n, hgrew⟩ := ih (k + 1) (server (A.insertStatement schema record) s).2
        rw [attempt_ok hanswer]
        exact ⟨1 + n, (hrows.grew_inserted (A.insertStatement_isInsert schema record)
          hanswer).trans hgrew⟩

/-- A loop whose first insert is accepted stores a row, whatever comes after. -/
theorem insertAll_changes (hrows : StoresRows Statement.sql server rows) {record : Json}
    (records : List Json) (k : Nat) {s : σ} {answer : Answer}
    (h : (server (A.insertStatement schema record) s).1 = .ok answer) :
    rows ((A.insertAll schema (record :: records) k).run server s).2 ≠ rows s := by
  intro hsame
  have hgrows : ∃ n, Grew _ (rows ((A.insertAll schema records (k + 1)).run server _).2) n :=
    insertAll_grows hrows records (k + 1) (server (A.insertStatement schema record) s).2
  obtain ⟨n, hgrew⟩ := hgrows
  have hlength := ((hrows.grew_inserted (A.insertStatement_isInsert schema record) h).trans
    hgrew).length_eq
  rw [insertAll, attempt_ok h] at hsame
  rw [hsame] at hlength
  omega

/-- The loop is exact when no insert is refused, or the first one is. -/
theorem insertAll_exact_iff (hrows : StoresRows Statement.sql server rows) (records : List Json)
    (s : σ) :
    Exact records (rows s) (rows ((A.insertAll schema records 0).run server s).2)
        ((A.insertAll schema records 0).run server s).1 ↔
      Accepts server (records.map (A.insertStatement schema)) s ∨
        RefusedAtOnce server (records.map (A.insertStatement schema)) s := by
  constructor
  · intro hexact
    by_cases haccepts : Accepts server (records.map (A.insertStatement schema)) s
    · exact Or.inl haccepts
    · obtain ⟨⟨err, herr⟩, hsame⟩ :=
        hexact.unchanged (insertAll_not_ok records 0 s haccepts)
      cases records with
      | nil => exact absurd trivial haccepts
      | cons record records =>
          rcases hanswer : (server (A.insertStatement schema record) s).1 with
            (err | what) | answer
          · exact Or.inr ⟨err, hanswer⟩
          · rw [insertAll, attempt_unable hanswer] at herr
            cases herr
          · exact absurd hsame (insertAll_changes hrows records 0 hanswer)
  · rintro (haccepts | hrefused)
    · obtain ⟨hresult, hgrew⟩ := insertAll_accepts hrows records 0 s haccepts
      exact Or.inr ⟨by rw [hresult, Nat.zero_add], hgrew⟩
    · cases records with
      | nil => exact hrefused.elim
      | cons record records =>
          obtain ⟨err, herr⟩ := hrefused
          rw [insertAll, attempt_sqlError herr]
          exact Or.inl ⟨mapSqlError err, rfl, hrows.refused herr⟩

/-- `createMany` does what its loop does. -/
theorem createMany_run {entityName : String} {records : List Json} {tx : TxManager}
    (hschema : A.schemas entityName = some schema) (hrecords : records ≠ [])
    (hidle : inTransaction tx = false) (s : σ) :
    ((A.createMany entityName records tx).run server s).1.1 =
        ((A.insertAll schema records 0).run server s).1 ∧
      ((A.createMany entityName records tx).run server s).2 =
        ((A.insertAll schema records 0).run server s).2 := by
  obtain ⟨manager, hactive, hbegin⟩ := beginTransaction_idle hidle
  simp only [createMany, hrecords, if_false, hschema, show SqlPool.acquire poolSize = some 0 from rfl,
    hbegin, Dialogue.run_bind, Dialogue.run_pure, finishMany_fst hactive, and_self]

/-- **`SqlAdapter::createMany` is exact when no insert is refused, or the first one is.** -/
theorem createMany_exact_iff' (hrows : StoresRows Statement.sql server rows) (entityName : String)
    (records : List Json) {tx : TxManager} (hidle : inTransaction tx = false) (s : σ) :
    Exact records (rows s) (rows ((A.createMany entityName records tx).run server s).2)
        ((A.createMany entityName records tx).run server s).1.1 ↔
      ∀ schema, A.schemas entityName = some schema →
        Accepts server (records.map (A.insertStatement schema)) s ∨
          RefusedAtOnce server (records.map (A.insertStatement schema)) s := by
  by_cases hrecords : records = []
  · subst hrecords
    exact ⟨fun _ _ _ => Or.inl trivial, fun _ => Or.inr ⟨rfl, Grew.refl _⟩⟩
  · cases hschema : A.schemas entityName with
    | none =>
        refine ⟨fun _ _ h => (nomatch h), fun _ => Or.inl
          ⟨.validationError ("Unknown entity: " ++ entityName), ?_⟩⟩
        simp only [createMany, hrecords, if_false, hschema]
        exact ⟨rfl, rfl⟩
    | some schema =>
        obtain ⟨hresult, hafter⟩ := createMany_run hschema hrecords hidle s
        rw [hresult, hafter, insertAll_exact_iff hrows]
        exact ⟨fun h schema' heq => Option.some.inj heq ▸ h, fun h => h schema rfl⟩

end SqlAdapter

/-! ### MySQL -/

namespace MySQLAdapter

theorem insertStatement_isInsert (A : SqlAdapter) (schema : EntitySchema) (data : Json) :
    "INSERT INTO ".toList <+: (insertStatement A schema data).sql.toList := by
  rw [insertStatement, String.toList_append]
  exact List.prefix_append _ _

theorem readBackStatement_isSelect (A : SqlAdapter) (schema : EntitySchema) (data : Json) :
    "SELECT ".toList <+: (readBackStatement A schema data).sql.toList := by
  unfold readBackStatement
  split
  · rw [selectById, String.toList_append]
    exact List.prefix_append _ _
  · rw [String.toList_append]
    exact List.prefix_append _ _

variable {A : SqlAdapter} {server : Statement → σ → Except Refusal Answer × σ}
  {rows : σ → List ρ} {entityName : String} {schema : EntitySchema}

/-- The record is stored and read back. -/
def ReadsBack (A : SqlAdapter) (server : Statement → σ → Except Refusal Answer × σ)
    (schema : EntitySchema) (data : Json) (s : σ) : Prop :=
  (∃ answer, (server (insertStatement A schema data) s).1 = .ok answer) ∧
    ∃ row rest affected record,
      (server (readBackStatement A schema data) (server (insertStatement A schema data) s).2).1 =
        .ok ⟨row :: rest, affected⟩ ∧ A.rowToJson schema row false = .ok record

/-- The records are stored and read back, one after the other. -/
def ReadsAllBack (A : SqlAdapter) (server : Statement → σ → Except Refusal Answer × σ)
    (schema : EntitySchema) : List Json → σ → Prop
  | [], _ => True
  | data :: records, s =>
      ReadsBack A server schema data s ∧
        ReadsAllBack A server schema records
          (server (readBackStatement A schema data)
            (server (insertStatement A schema data) s).2).2

/-- A `create` inserts and reads back. -/
theorem create_eq (hschema : A.schemas entityName = some schema)
    (hvalid : isValidIdentifier schema.name = true) (data : Json) :
    create A entityName data =
      attempt (insertStatement A schema data) fun _ =>
        attempt (readBackStatement A schema data) fun answer =>
          A.firstRow schema answer.rows
            (.internal "MySQL insert succeeded but could not read back row") := by
  simp [create, knowing, SqlAdapter.knowing, hschema, hvalid]

variable (hschema : A.schemas entityName = some schema)
  (hvalid : isValidIdentifier schema.name = true)

include hschema hvalid

/-- The state after a `create` whose insert was accepted. -/
theorem create_inserted {data : Json} {s : σ} {answer : Answer}
    (h : (server (insertStatement A schema data) s).1 = .ok answer) :
    ((create A entityName data).run server s).2 =
      (server (readBackStatement A schema data) (server (insertStatement A schema data) s).2).2 := by
  rw [create_eq hschema hvalid, attempt_ok h]
  rcases hread : (server (readBackStatement A schema data)
    (server (insertStatement A schema data) s).2).1 with (err | what) | ⟨_ | ⟨row, rest⟩, affected⟩
  · rw [attempt_sqlError hread]
  · rw [attempt_unable hread]
  · rw [attempt_ok hread]
    rfl
  · rw [attempt_ok hread]
    rfl

/-- A `create` succeeds when the record is stored and read back. -/
theorem create_ok_iff (data : Json) (s : σ) :
    (∃ record, ((create A entityName data).run server s).1 = .ok (.ok record)) ↔
      ReadsBack A server schema data s := by
  rw [create_eq hschema hvalid]
  rcases hinsert : (server (insertStatement A schema data) s).1 with (err | what) | answer
  · rw [attempt_sqlError hinsert]
    exact ⟨nofun, fun ⟨⟨_, h⟩, _⟩ => nomatch hinsert.symm.trans h⟩
  · rw [attempt_unable hinsert]
    exact ⟨nofun, fun ⟨⟨_, h⟩, _⟩ => nomatch hinsert.symm.trans h⟩
  rw [attempt_ok hinsert]
  rcases hread : (server (readBackStatement A schema data)
    (server (insertStatement A schema data) s).2).1 with (err | what) | ⟨_ | ⟨row, rest⟩, affected⟩
  · rw [attempt_sqlError hread]
    exact ⟨nofun, fun ⟨_, _, _, _, _, h, _⟩ => nomatch hread.symm.trans h⟩
  · rw [attempt_unable hread]
    exact ⟨nofun, fun ⟨_, _, _, _, _, h, _⟩ => nomatch hread.symm.trans h⟩
  · rw [attempt_ok hread]
    refine ⟨nofun, fun ⟨_, _, _, _, _, h, _⟩ => nomatch hread.symm.trans h⟩
  · rw [attempt_ok hread]
    cases hrow : A.rowToJson schema row false with
    | error thrown =>
        refine ⟨fun ⟨record, h⟩ => ?_, fun ⟨_, _, _, _, record, h, hrecord⟩ => ?_⟩
        · rw [firstRow, hrow] at h
          cases h
        · cases hread.symm.trans h
          cases hrow.symm.trans hrecord
    | ok record =>
        refine ⟨fun _ => ⟨⟨answer, hinsert⟩, row, rest, affected, record, hread, hrow⟩, fun _ => ?_⟩
        exact ⟨record, by rw [firstRow, hrow]; rfl⟩

/-- A `create` whose insert is accepted stores the record. -/
theorem create_adds (hrows : StoresRows Statement.sql server rows) {data : Json} {s : σ}
    {answer : Answer} (h : (server (insertStatement A schema data) s).1 = .ok answer) :
    Grew (rows s) (rows ((create A entityName data).run server s).2) 1 := by
  rw [create_inserted hschema hvalid h, hrows.reads (readBackStatement_isSelect A schema data)]
  exact hrows.grew_inserted (insertStatement_isInsert A schema data) h

/-- What a `create` adds. -/
theorem create_grows (hrows : StoresRows Statement.sql server rows) (data : Json) (s : σ) :
    ∃ n, Grew (rows s) (rows ((create A entityName data).run server s).2) n := by
  rcases hinsert : (server (insertStatement A schema data) s).1 with (err | what) | answer
  · rw [create_eq hschema hvalid, attempt_sqlError hinsert]
    exact ⟨0, Grew.of_eq (hrows.refused hinsert)⟩
  · rw [create_eq hschema hvalid, attempt_unable hinsert]
    exact ⟨0, Grew.of_eq (hrows.refused hinsert)⟩
  · exact ⟨1, create_adds hschema hvalid hrows hinsert⟩

/-- With every record stored and read back, the loop stores the whole list. -/
theorem createAll_reads (hrows : StoresRows Statement.sql server rows) (records : List Json)
    (k : Nat) (s : σ) (h : ReadsAllBack A server schema records s) :
    ((createAll A entityName records k).run server s).1 =
        .ok (.ok ((k + records.length : Nat) : Int)) ∧
      Grew (rows s) (rows ((createAll A entityName records k).run server s).2) records.length := by
  induction records generalizing k s with
  | nil => exact ⟨rfl, Grew.refl _⟩
  | cons data records ih =>
      obtain ⟨hfirst, hrest⟩ := h
      obtain ⟨answer, hanswer⟩ := hfirst.1
      obtain ⟨record, hrecord⟩ := (create_ok_iff hschema hvalid data s).2 hfirst
      have hstate := create_inserted hschema hvalid hanswer
      rw [← hstate] at hrest
      obtain ⟨hresult, hgrew⟩ := ih (k + 1) _ hrest
      have hadded := create_adds hschema hvalid hrows hanswer
      simp only [createAll, Dialogue.run_bind, hrecord]
      refine ⟨by rw [hresult, List.length_cons, Nat.add_assoc, Nat.add_comm 1], ?_⟩
      rw [show (data :: records).length = 1 + records.length from Nat.add_comm _ _]
      exact hadded.trans hgrew

/-- With a record that fails, the loop returns no count. -/
theorem createAll_not_ok (records : List Json) (k : Nat) (s : σ)
    (h : ¬ ReadsAllBack A server schema records s) (n : Int) :
    ((createAll A entityName records k).run server s).1 ≠ .ok (.ok n) := by
  induction records generalizing k s with
  | nil => exact absurd trivial h
  | cons data records ih =>
      simp only [createAll, Dialogue.run_bind]
      rcases hcreate : ((create A entityName data).run server s).1 with thrown | err | record
      · exact nofun
      · exact nofun
      · have hfirst := (create_ok_iff hschema hvalid data s).1 ⟨record, hcreate⟩
        obtain ⟨answer, hanswer⟩ := hfirst.1
        refine ih (k + 1) _ fun hrest => h ⟨hfirst, ?_⟩
        rwa [create_inserted hschema hvalid hanswer] at hrest

/-- Whatever happens, the loop only adds rows. -/
theorem createAll_grows (hrows : StoresRows Statement.sql server rows) (records : List Json)
    (k : Nat) (s : σ) :
    ∃ n, Grew (rows s) (rows ((createAll A entityName records k).run server s).2) n := by
  induction records generalizing k s with
  | nil => exact ⟨0, Grew.refl _⟩
  | cons data records ih =>
      obtain ⟨m, hfirst⟩ := create_grows hschema hvalid hrows data s
      simp only [createAll, Dialogue.run_bind]
      rcases ((create A entityName data).run server s).1 with thrown | err | record
      · exact ⟨m, hfirst⟩
      · exact ⟨m, hfirst⟩
      · obtain ⟨n, hgrew⟩ := ih (k + 1) ((create A entityName data).run server s).2
        exact ⟨m + n, hfirst.trans hgrew⟩

/-- A loop whose first insert is accepted stores a row, whatever comes after. -/
theorem createAll_changes (hrows : StoresRows Statement.sql server rows) {data : Json}
    (records : List Json) (k : Nat) {s : σ} {answer : Answer}
    (h : (server (insertStatement A schema data) s).1 = .ok answer) :
    rows ((createAll A entityName (data :: records) k).run server s).2 ≠ rows s := by
  have hadded := create_adds hschema hvalid hrows h
  suffices hgrew : ∃ n, Grew (rows s)
      (rows ((createAll A entityName (data :: records) k).run server s).2) (1 + n) by
    obtain ⟨n, hn⟩ := hgrew
    intro hsame
    have hlength := hn.length_eq
    rw [hsame] at hlength
    omega
  simp only [createAll, Dialogue.run_bind]
  rcases ((create A entityName data).run server s).1 with thrown | err | record
  · exact ⟨0, hadded⟩
  · exact ⟨0, hadded⟩
  · obtain ⟨n, hgrew⟩ := createAll_grows hschema hvalid hrows records (k + 1)
      ((create A entityName data).run server s).2
    exact ⟨n, hadded.trans hgrew⟩

/-- The loop is exact when every record is stored and read back, or the first insert is refused. -/
theorem createAll_exact_iff (hrows : StoresRows Statement.sql server rows) (records : List Json)
    (s : σ) :
    Exact records (rows s) (rows ((createAll A entityName records 0).run server s).2)
        ((createAll A entityName records 0).run server s).1 ↔
      ReadsAllBack A server schema records s ∨
        RefusedAtOnce server (records.map (insertStatement A schema)) s := by
  constructor
  · intro hexact
    by_cases hreads : ReadsAllBack A server schema records s
    · exact Or.inl hreads
    · obtain ⟨⟨err, herr⟩, hsame⟩ :=
        hexact.unchanged (createAll_not_ok hschema hvalid records 0 s hreads)
      cases records with
      | nil => exact absurd trivial hreads
      | cons data records =>
          rcases hanswer : (server (insertStatement A schema data) s).1 with (err | what) | answer
          · exact Or.inr ⟨err, hanswer⟩
          · simp only [createAll, Dialogue.run_bind, create_eq hschema hvalid,
              attempt_unable hanswer] at herr
            cases herr
          · exact absurd hsame (createAll_changes hschema hvalid hrows records 0 hanswer)
  · rintro (hreads | hrefused)
    · obtain ⟨hresult, hgrew⟩ := createAll_reads hschema hvalid hrows records 0 s hreads
      exact Or.inr ⟨by rw [hresult, Nat.zero_add], hgrew⟩
    · cases records with
      | nil => exact hrefused.elim
      | cons data records =>
          obtain ⟨err, herr⟩ := hrefused
          refine Or.inl ⟨.internal ("createMany aborted: " ++ (mapSqlError err).message), ?_⟩
          simp only [createAll, Dialogue.run_bind, create_eq hschema hvalid, attempt_sqlError herr]
          exact ⟨rfl, hrows.refused herr⟩

omit hschema hvalid

/-- **The MySQL adapter's `createMany` is exact when every record is stored and read back, or the
first insert is refused.** -/
theorem createMany_exact_iff' (hrows : StoresRows Statement.sql server rows) (entityName : String)
    (records : List Json) (s : σ) :
    Exact records (rows s) (rows ((createMany A entityName records).run server s).2)
        ((createMany A entityName records).run server s).1 ↔
      ∀ schema, A.schemas entityName = some schema → isValidIdentifier schema.name = true →
        ReadsAllBack A server schema records s ∨
          RefusedAtOnce server (records.map (insertStatement A schema)) s := by
  cases records with
  | nil => exact ⟨fun _ _ _ _ => Or.inl trivial, fun _ => Or.inr ⟨rfl, Grew.refl _⟩⟩
  | cons data records =>
      have hloop : createMany A entityName (data :: records) =
          createAll A entityName (data :: records) 0 := by simp [createMany]
      rw [hloop]
      cases hschema : A.schemas entityName with
      | none =>
          refine ⟨fun _ _ h => (nomatch h), fun _ => Or.inl
            ⟨.internal ("createMany aborted: " ++ ("Unknown entity: " ++ entityName)), ?_⟩⟩
          simp only [createAll, Dialogue.run_bind, create, knowing, SqlAdapter.knowing, hschema]
          exact ⟨rfl, rfl⟩
      | some schema =>
          cases hvalid : isValidIdentifier schema.name with
          | false =>
              refine ⟨fun _ schema' heq htrue => ?_, fun _ => Or.inl
                ⟨.internal ("createMany aborted: " ++ ("Invalid entity name: " ++ schema.name)),
                  ?_⟩⟩
              · rw [← Option.some.inj heq, hvalid] at htrue
                cases htrue
              · simp only [createAll, Dialogue.run_bind, create, knowing, SqlAdapter.knowing,
                  hschema, hvalid]
                exact ⟨rfl, rfl⟩
          | true =>
              rw [createAll_exact_iff hschema hvalid hrows]
              refine ⟨fun h schema' heq _ => ?_, fun h => h schema rfl hvalid⟩
              rwa [← Option.some.inj heq]

end MySQLAdapter

/-! ### SQLite -/

/-- `SQLiteAdapter`, as far as it does not change. -/
structure SQLiteAdapter where
  /-- `getEntitySchemaInternal`. -/
  schemas : String → Option Core.EntitySchema
  dump : Json → String

namespace SQLiteAdapter

/-- A text with the values for its question marks. -/
structure Insert where
  sql : String
  values : List String
  deriving DecidableEq, Repr

variable (A : SQLiteAdapter)

/-- The statement of an insert. -/
def insertStatement (schema : Core.EntitySchema) (record : Json) : Insert :=
  ⟨SQLiteQueryBuilder.buildInsertQuery schema record,
    SQLiteTypeConverter.jsonToValues A.dump schema record⟩

/-- The loop of `createMany`, which counts the inserts that `executeInsert` does not refuse; an
answer is the id of the row. -/
def insertAll (schema : Core.EntitySchema) : List Json → Nat → Dialogue Insert (Result Int) Nat
  | [], inserted => return inserted
  | record :: records, inserted =>
      .send (A.insertStatement schema record) fun
        | .ok _ => insertAll schema records (inserted + 1)
        | .error _ => insertAll schema records inserted

/-- `createMany`. -/
def createMany (entityName : String) (records : List Json) :
    Dialogue Insert (Result Int) (Result Int) :=
  if records = [] then return .ok 0
  else
    match A.schemas entityName with
    | none => return .error (.validationError ("Unknown entity: " ++ entityName))
    | some schema => do
        let inserted ← A.insertAll schema records 0
        return .ok inserted

theorem insertStatement_isInsert (schema : Core.EntitySchema) (record : Json) :
    "INSERT INTO ".toList <+: (A.insertStatement schema record).sql.toList := by
  have htext : ∃ rest, (A.insertStatement schema record).sql = "INSERT INTO " ++ rest := by
    unfold insertStatement SQLiteQueryBuilder.buildInsertQuery
    simp only [String.append_assoc]
    exact ⟨_, rfl⟩
  obtain ⟨rest, hrest⟩ := htext
  rw [hrest, String.toList_append]
  exact List.prefix_append _ _

variable {server : Insert → σ → Result Int × σ} {rows : σ → List ρ}

/-- The loop counts what it stores, which is the whole list when no insert is refused. -/
theorem insertAll_counts (schema : Core.EntitySchema) (hrows : StoresRows Insert.sql server rows)
    (records : List Json) (k : Nat) (s : σ) :
    ∃ n, ((A.insertAll schema records k).run server s).1 = k + n ∧
      Grew (rows s) (rows ((A.insertAll schema records k).run server s).2) n ∧
      n ≤ records.length ∧
      (n = records.length ↔ Accepts server (records.map (A.insertStatement schema)) s) := by
  induction records generalizing k s with
  | nil => exact ⟨0, rfl, Grew.refl _, Nat.le_refl _, fun _ => trivial, fun _ => rfl⟩
  | cons record records ih =>
      rw [insertAll, Dialogue.run_send]
      cases hanswer : (server (A.insertStatement schema record) s).1 with
      | ok id =>
          obtain ⟨n, hcount, hgrew, hle, hiff⟩ :=
            ih (k + 1) (server (A.insertStatement schema record) s).2
          have hfirst := hrows.grew_inserted (insertStatement_isInsert A schema record) hanswer
          refine ⟨1 + n, by rw [hcount]; omega, hfirst.trans hgrew, ?_, ?_⟩
          · rw [List.length_cons]
            omega
          · rw [List.length_cons, show 1 + n = records.length + 1 ↔ n = records.length by omega, hiff]
            exact ⟨fun h => ⟨⟨id, hanswer⟩, h⟩, fun h => h.2⟩
      | error err =>
          obtain ⟨n, hcount, hgrew, hle, -⟩ := ih k (server (A.insertStatement schema record) s).2
          rw [hrows.refused hanswer] at hgrew
          refine ⟨n, hcount, hgrew, ?_, fun h => ?_, fun ⟨⟨_, h⟩, _⟩ => (nomatch hanswer.symm.trans h)⟩
          · rw [List.length_cons]
            omega
          · rw [List.length_cons] at h
            omega

/-- **The SQLite adapter's `createMany` is exact when no insert is refused.** -/
theorem createMany_exact_iff' (hrows : StoresRows Insert.sql server rows) (entityName : String)
    (records : List Json) (s : σ) :
    Exact records (rows s) (rows ((A.createMany entityName records).run server s).2)
        (.ok ((A.createMany entityName records).run server s).1) ↔
      ∀ schema, A.schemas entityName = some schema →
        Accepts server (records.map (A.insertStatement schema)) s := by
  by_cases hrecords : records = []
  · subst hrecords
    exact ⟨fun _ _ _ => trivial, fun _ => Or.inr ⟨rfl, Grew.refl _⟩⟩
  cases hschema : A.schemas entityName with
  | none =>
      refine ⟨fun _ _ h => (nomatch h), fun _ => Or.inl
        ⟨.validationError ("Unknown entity: " ++ entityName), ?_⟩⟩
      simp only [createMany, hrecords, if_false, hschema]
      exact ⟨rfl, rfl⟩
  | some schema =>
      obtain ⟨n, hcount, hgrew, -, hiff⟩ := A.insertAll_counts schema hrows records 0 s
      simp only [createMany, hrecords, if_false, hschema, Dialogue.run_bind, Dialogue.run_pure,
        hcount, Nat.zero_add]
      constructor
      · rintro (⟨err, herr, -⟩ | ⟨hresult, -⟩) schema' heq
        · cases herr
        · rw [← Option.some.inj heq]
          refine hiff.1 ?_
          injection hresult with hresult
          injection hresult with hresult
          exact Int.ofNat.inj hresult
      · intro h
        rw [hiff.2 (h schema rfl)] at hgrew ⊢
        exact Or.inr ⟨rfl, hgrew⟩

end SQLiteAdapter

/-! ### The three adapters -/

/-- **When `createMany` is exact**, over any database and whatever it refuses, no transaction
being active.  `SqlAdapter`: every insert is accepted, or the first is refused with a `SqlError`.
MySQL: every record is also read back, or the first insert is refused.  SQLite: every insert is
accepted.  Elsewhere records are stored beside a failure, or a count is returned that is not the
list's length. -/
theorem createMany_exact_iff (A : SqlAdapter) {server : Statement → σ → Except Refusal Answer × σ}
    {rows : σ → List ρ} (hrows : StoresRows Statement.sql server rows) (L : SQLiteAdapter)
    {sqlite : SQLiteAdapter.Insert → τ → Result Int × τ} {documents : τ → List δ}
    (hsqlite : StoresRows SQLiteAdapter.Insert.sql sqlite documents) (entityName : String)
    (records : List Json) {tx : TxManager} (hidle : inTransaction tx = false) (s : σ) (t : τ) :
    (Exact records (rows s) (rows ((A.createMany entityName records tx).run server s).2)
        ((A.createMany entityName records tx).run server s).1.1 ↔
      ∀ schema, A.schemas entityName = some schema →
        Accepts server (records.map (A.insertStatement schema)) s ∨
          RefusedAtOnce server (records.map (A.insertStatement schema)) s) ∧
    (Exact records (rows s) (rows ((MySQLAdapter.createMany A entityName records).run server s).2)
        ((MySQLAdapter.createMany A entityName records).run server s).1 ↔
      ∀ schema, A.schemas entityName = some schema →
        MySQLAdapter.isValidIdentifier schema.name = true →
        MySQLAdapter.ReadsAllBack A server schema records s ∨
          RefusedAtOnce server (records.map (MySQLAdapter.insertStatement A schema)) s) ∧
    (Exact records (documents t)
        (documents ((L.createMany entityName records).run sqlite t).2)
        (.ok ((L.createMany entityName records).run sqlite t).1) ↔
      ∀ schema, L.schemas entityName = some schema →
        Accepts sqlite (records.map (L.insertStatement schema)) t) :=
  ⟨SqlAdapter.createMany_exact_iff' hrows entityName records hidle s,
    MySQLAdapter.createMany_exact_iff' hrows entityName records s,
    L.createMany_exact_iff' hsqlite entityName records t⟩

section Faults

/-- A database that refuses the statements whose number the pattern fails, and keeps the inserts
that it accepts. -/
def faultyTable (sql : ι → String) (pattern : Nat → Option ε) (answer : List ι → ο) (request : ι)
    (s : Nat × List ι) : Except ε ο × (Nat × List ι) :=
  match pattern s.1 with
  | some e => (.error e, (s.1 + 1, s.2))
  | none =>
      if "INSERT INTO ".toList.isPrefixOf (sql request).toList then
        (.ok (answer s.2), (s.1 + 1, s.2 ++ [request]))
      else (.ok (answer s.2), (s.1 + 1, s.2))

/-- A text that begins with one word does not begin with another. -/
theorem isPrefixOf_eq_false {p q l : List Char} (hp : p <+: l) (hpq : ¬ p <+: q) (hqp : ¬ q <+: p) :
    q.isPrefixOf l = false := by
  rw [Bool.eq_false_iff]
  intro hq
  rcases List.prefix_or_prefix_of_prefix hp (List.isPrefixOf_iff_prefix.1 hq) with h | h
  · exact hpq h
  · exact hqp h

/-- Every pattern of failures is one of a database. -/
theorem faultyTable_storesRows (sql : ι → String) (pattern : Nat → Option ε)
    (answer : List ι → ο) : StoresRows sql (faultyTable sql pattern answer) Prod.snd where
  refused {request s e} h := by
    unfold faultyTable at h ⊢
    split at h
    · rfl
    · split at h <;> cases h
  inserted {request s o} hinsert h := by
    unfold faultyTable at h ⊢
    split at h
    · cases h
    · rw [if_pos (List.isPrefixOf_iff_prefix.2 hinsert)]
      exact ⟨request, rfl⟩
  selected {request s o} hselect h := by
    have hother := isPrefixOf_eq_false (q := "INSERT INTO ".toList) hselect (by decide) (by decide)
    unfold faultyTable at h ⊢
    split at h
    · cases h
    · rw [hother]
      rfl

/-- Without failures, every list of requests is accepted. -/
theorem faultyTable_accepts (sql : ι → String) {pattern : Nat → Option ε} (answer : List ι → ο)
    (hpattern : ∀ n, pattern n = none) (requests : List ι) (s : Nat × List ι) :
    Accepts (faultyTable sql pattern answer) requests s := by
  induction requests generalizing s with
  | nil => trivial
  | cons request requests ih =>
      refine ⟨⟨answer s.2, ?_⟩, ih _⟩
      simp only [faultyTable, hpattern]
      split <;> rfl

/-- A table of notes. -/
def noteAdapter (dialect : Dialect) : SqlAdapter where
  dialect := dialect
  schemas _ := some { name := "Note", fields := [{ name := "id", type := "uuid" }] }
  printReal _ _ := ""
  dump _ := ""
  parse _ := none
  stoll _ := .error "stoll"

/-- A table of notes in SQLite. -/
def noteSQLite : SQLiteAdapter where
  schemas _ := some { name := "Note", displayName := "Note", fields := [] }
  dump _ := ""

/-- The statements are answered with the rows that are stored, and those with a number in `failed`
are refused. -/
def noteServer (failed : List Nat) :
    Statement → Nat × List Statement → Except Refusal Answer × (Nat × List Statement) :=
  faultyTable Statement.sql
    (fun n => if n ∈ failed then some (.sqlError ⟨.uniqueViolation, "duplicate key"⟩) else none)
    fun stored => ⟨stored.map fun insert => ⟨.ofList (insert.params.map fun p => (p.name, p.value))⟩,
      stored.length⟩

/-- The same over the statements of SQLite. -/
def noteSQLiteServer (failed : List Nat) : SQLiteAdapter.Insert → Nat × List SQLiteAdapter.Insert →
    Result Int × (Nat × List SQLiteAdapter.Insert) :=
  faultyTable SQLiteAdapter.Insert.sql
    (fun n => if n ∈ failed then some (.conflict "duplicate key") else none)
    fun stored => stored.length

theorem noteServer_storesRows (failed : List Nat) :
    StoresRows Statement.sql (noteServer failed) Prod.snd :=
  faultyTable_storesRows _ _ _

theorem noteSQLiteServer_storesRows (failed : List Nat) :
    StoresRows SQLiteAdapter.Insert.sql (noteSQLiteServer failed) Prod.snd :=
  faultyTable_storesRows _ _ _

/-- Two notes. -/
def twoNotes : List Json := [.obj [("id", .str "a")], .obj [("id", .str "b")]]

theorem createMany_exact_notes :
    Exact twoNotes []
        (((noteAdapter .mySQL).createMany "Note" twoNotes none).run (noteServer []) (0, [])).2.2
        (((noteAdapter .mySQL).createMany "Note" twoNotes none).run (noteServer []) (0, [])).1.1 ∧
      Exact twoNotes []
        ((noteSQLite.createMany "Note" twoNotes).run (noteSQLiteServer []) (0, [])).2.2
        (.ok ((noteSQLite.createMany "Note" twoNotes).run (noteSQLiteServer []) (0, [])).1) ∧
      Exact twoNotes []
        ((MySQLAdapter.createMany (noteAdapter .mySQL) "Note" twoNotes).run
          (noteServer [0]) (0, [])).2.2
        ((MySQLAdapter.createMany (noteAdapter .mySQL) "Note" twoNotes).run
          (noteServer [0]) (0, [])).1 := by
  have hidle : inTransaction none = false := rfl
  have haccepted := createMany_exact_iff (noteAdapter .mySQL) (noteServer_storesRows [])
    noteSQLite (noteSQLiteServer_storesRows []) "Note" twoNotes hidle (0, []) (0, [])
  have hrefused := createMany_exact_iff (noteAdapter .mySQL) (noteServer_storesRows [0])
    noteSQLite (noteSQLiteServer_storesRows []) "Note" twoNotes hidle (0, []) (0, [])
  refine ⟨?_, ?_, ?_⟩
  · exact haccepted.1.2 fun schema _ => Or.inl (faultyTable_accepts _ _ (fun _ => rfl) _ _)
  · exact haccepted.2.2.2 fun schema _ => faultyTable_accepts _ _ (fun _ => rfl) _ _
  · exact hrefused.2.1.2 fun schema _ _ => Or.inr ⟨_, rfl⟩

/-- With the second of two inserts refused, `SqlAdapter` and MySQL return an error beside a stored
record, and SQLite returns a count of one. -/
theorem createMany_leaves_first :
    (((noteAdapter .postgres).createMany "Note" twoNotes none).run (noteServer [1]) (0, [])).1.1 =
        .ok (.error (.conflict "duplicate key")) ∧
      (((noteAdapter .postgres).createMany "Note" twoNotes none).run
        (noteServer [1]) (0, [])).2.2.length = 1 ∧
      ((MySQLAdapter.createMany (noteAdapter .mySQL) "Note" twoNotes).run
        (noteServer [2]) (0, [])).1 =
          .ok (.error (.internal "createMany aborted: duplicate key")) ∧
      ((MySQLAdapter.createMany (noteAdapter .mySQL) "Note" twoNotes).run
        (noteServer [2]) (0, [])).2.2.length = 1 ∧
      ((noteSQLite.createMany "Note" twoNotes).run (noteSQLiteServer [1]) (0, [])).1 = .ok 1 ∧
      ¬ Exact twoNotes []
        (((noteAdapter .postgres).createMany "Note" twoNotes none).run (noteServer [1]) (0, [])).2.2
        (((noteAdapter .postgres).createMany "Note" twoNotes none).run
          (noteServer [1]) (0, [])).1.1 := by
  have hstored : (((noteAdapter .postgres).createMany "Note" twoNotes none).run
      (noteServer [1]) (0, [])).2.2.length = 1 := by decide +kernel
  refine ⟨by decide +kernel, hstored, by decide +kernel, by decide +kernel, by decide +kernel, ?_⟩
  rintro (⟨_, -, hnone⟩ | ⟨-, hall⟩)
  · rw [hnone] at hstored
    cases hstored
  · have hlength := hall.length_eq
    rw [hstored] at hlength
    exact absurd hlength (by decide)

end Faults

end Adapters
end Dbal
