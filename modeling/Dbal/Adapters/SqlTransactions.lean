/-
# When the transactions of `SqlAdapter` are transactions

`SqlTransactionManager` keeps a flag and sends nothing (`src/adapters/sql/sql_transaction_manager.cpp`:
"simplified implementation"), and every write of `SqlAdapter` and of the MySQL adapter is a program
without `BEGIN`, `COMMIT` and `ROLLBACK`.  So on a connection to any database the writes between
`beginTransaction` and `rollbackTransaction` commit one by one, and the calls make a transaction
only when none of them changes a table.
-/

import Dbal.Adapters.CreateManyExact
import Dbal.Store.Connection

namespace Dbal
namespace Adapters

open SqlAdapter

/-- The statements that control a transaction. -/
def controls (statement : Statement) : Option Control :=
  if statement.sql ∈ ["BEGIN", "BEGIN TRANSACTION", "START TRANSACTION"] then some .begin
  else if statement.sql = "COMMIT" then some .commit
  else if statement.sql = "ROLLBACK" then some .rollback
  else none

/-- The first words of the statements of the adapters. -/
def dataWords : List String := ["INSERT INTO ", "SELECT ", "UPDATE ", "DELETE FROM "]

/-- A statement that begins like one of the adapters', or is empty. -/
def IsData (sql : String) : Prop := sql = "" ∨ ∃ word ∈ dataWords, ∃ rest, sql = word ++ rest

/-- No statement of the adapters controls a transaction. -/
theorem IsData.controls_eq_none {statement : Statement} (h : IsData statement.sql) :
    controls statement = none := by
  have hother : ∀ text ∈ ["BEGIN", "BEGIN TRANSACTION", "START TRANSACTION", "COMMIT", "ROLLBACK"],
      statement.sql ≠ text := by
    intro text htext heq
    rcases h with hempty | ⟨word, hword, rest, hsql⟩
    · rw [← heq, hempty] at htext
      revert htext
      decide
    · have hstart : word.toList <+: text.toList := by
        rw [← heq, hsql, String.toList_append]
        exact List.prefix_append _ _
      have hnone : ∀ text ∈ ["BEGIN", "BEGIN TRANSACTION", "START TRANSACTION", "COMMIT",
          "ROLLBACK"], ∀ word ∈ dataWords, ¬ word.toList <+: text.toList := by decide
      exact hnone text htext word hword hstart
  simp only [List.mem_cons, List.not_mem_nil, or_false, forall_eq_or_imp, forall_eq] at hother
  simp [controls, hother]

/-- A program of statements that touch data only. -/
abbrev Plain {α : Type} (program : Talk α) : Prop :=
  program.Sends fun statement => controls statement = none

theorem attempt_plain {α : Type} {statement : Statement} (h : IsData statement.sql)
    {next : Answer → Talk (Reply α)} (hnext : ∀ answer, Plain (next answer)) :
    Plain (attempt statement next) := by
  refine ⟨h.controls_eq_none, fun answer => ?_⟩
  rcases answer with (err | what) | answer
  · trivial
  · trivial
  · exact hnext answer

/-! ### Writes -/

/-- The two adapters: `SqlAdapter` itself, and `MySQLAdapter` with its own `create`, `update` and
`createMany`. -/
inductive Backend where
  | sql | mySQL
  deriving DecidableEq, Repr

/-- A call that writes. -/
inductive WriteCall where
  | create (entityName : String) (data : Json)
  | update (entityName id : String) (data : Json)
  | remove (entityName id : String)
  | createMany (entityName : String) (records : List Json)
  | updateMany (entityName : String) (filter data : Json)
  | deleteMany (entityName : String) (filter : Json)

/-- A call that leaves `tx_manager_` alone. -/
def keeping {α : Type} (tx : TxManager) (call : Talk (Reply α)) : Talk TxManager := do
  let _ ← call
  return tx

/-- A call, as far as `tx_manager_` and the database are concerned. -/
def perform (A : SqlAdapter) (backend : Backend) (tx : TxManager) : WriteCall → Talk TxManager
  | .create entityName data =>
      keeping tx (match backend with
        | .sql => A.create entityName data
        | .mySQL => MySQLAdapter.create A entityName data)
  | .update entityName id data =>
      keeping tx (match backend with
        | .sql => A.update entityName id data
        | .mySQL => MySQLAdapter.update A entityName id data)
  | .remove entityName id => keeping tx (A.remove entityName id)
  | .createMany entityName records =>
      match backend with
      | .sql => do
          let result ← A.createMany entityName records tx
          return result.2
      | .mySQL => keeping tx (MySQLAdapter.createMany A entityName records)
  | .updateMany entityName filter data => keeping tx (A.updateMany entityName filter data)
  | .deleteMany entityName filter => keeping tx (A.deleteMany entityName filter)

/-- Calls, one after the other. -/
def performAll (A : SqlAdapter) (backend : Backend) : List WriteCall → TxManager → Talk TxManager
  | [], tx => return tx
  | call :: calls, tx => do
      let tx ← perform A backend tx call
      performAll A backend calls tx

/-- Calls between `beginTransaction` and the end of the transaction. -/
def transaction (A : SqlAdapter) (backend : Backend) (finish : TxManager → Reply Bool × TxManager)
    (calls : List WriteCall) (tx : TxManager) : Talk (Reply Bool × TxManager) :=
  match beginTransaction tx with
  | (.ok (.ok true), tx) => do
      let tx ← performAll A backend calls tx
      return finish tx
  | failed => return failed

/-- What the calls produce: each made where no transaction of the adapter is active. -/
def produce (A : SqlAdapter) (backend : Backend) : List WriteCall → Talk Unit
  | [] => return ()
  | call :: calls => do
      let _ ← perform A backend none call
      produce A backend calls

/-- The statement that a call writes with first, if it gets as far as sending one. -/
def firstWrite (A : SqlAdapter) (backend : Backend) : WriteCall → Option Statement
  | .create entityName data | .createMany entityName (data :: _) =>
      (A.schemas entityName).bind fun schema =>
        match backend with
        | .sql => some (A.insertStatement schema data)
        | .mySQL =>
            if MySQLAdapter.isValidIdentifier schema.name then
              some (MySQLAdapter.insertStatement A schema data)
            else none
  | .createMany _ [] => none
  | .update entityName id data =>
      (A.schemas entityName).bind fun schema =>
        match backend with
        | .sql => some (A.updateStatement schema id data)
        | .mySQL =>
            if MySQLAdapter.isValidIdentifier schema.name then
              if MySQLAdapter.setFragments schema data = [] then none
              else some (MySQLAdapter.updateStatement A schema id data)
            else none
  | .remove entityName id => (A.schemas entityName).map fun schema => A.deleteStatement schema id
  | .updateMany entityName filter data =>
      (A.schemas entityName).bind fun schema =>
        match updateManyStatement A.dialect schema filter data with
        | .ok sql => some ⟨sql, A.updateManyParams schema filter data⟩
        | .error _ => none
  | .deleteMany entityName filter =>
      (A.schemas entityName).map fun schema =>
        ⟨deleteManyStatement A.dialect schema filter, A.filterParams filter⟩

/-! ### No call controls a transaction -/

section Plain

variable (A : SqlAdapter) (schema : EntitySchema)

theorem insertStatement_isData (data : Json) : IsData (A.insertStatement schema data).sql :=
  Or.inr ⟨"INSERT INTO ", by decide, _, rfl⟩

theorem updateStatement_isData (id : String) (data : Json) :
    IsData (A.updateStatement schema id data).sql := by
  simp only [updateStatement, buildUpdateSql]
  split
  · exact Or.inl rfl
  · exact Or.inr ⟨"UPDATE ", by decide, _, rfl⟩

theorem deleteStatement_isData (id : String) : IsData (A.deleteStatement schema id).sql :=
  Or.inr ⟨"DELETE FROM ", by decide, _, rfl⟩

theorem updateManyStatement_isData {dialect : Dialect} {filter data : Json} {sql : String}
    (h : updateManyStatement dialect schema filter data = .ok sql) : IsData sql := by
  simp only [updateManyStatement] at h
  split at h
  · cases h
  · split at h
    · cases h
    · obtain rfl := Except.ok.inj h
      simp only [String.append_assoc]
      exact Or.inr ⟨"UPDATE ", by decide, _, rfl⟩

theorem deleteManyStatement_isData (dialect : Dialect) (filter : Json) :
    IsData (deleteManyStatement dialect schema filter) := by
  simp only [deleteManyStatement, String.append_assoc]
  exact Or.inr ⟨"DELETE FROM ", by decide, _, rfl⟩

theorem firstRow_plain (rows : List SqlRow) (missing : Error) :
    Plain (A.firstRow schema rows missing) := by
  cases rows <;> trivial

/-- A call that knows its entity is plain if the rest of it is. -/
theorem knowing_plain {α : Type} (entityName : String) {next : EntitySchema → Talk (Reply α)}
    (h : ∀ schema, Plain (next schema)) : Plain (A.knowing entityName next) := by
  unfold knowing
  split
  · trivial
  · exact h _

theorem insertAll_plain (records : List Json) (k : Nat) : Plain (A.insertAll schema records k) := by
  induction records generalizing k with
  | nil => trivial
  | cons record records ih =>
      exact attempt_plain (insertStatement_isData A schema record) fun _ => ih (k + 1)

theorem createMany_plain (entityName : String) (records : List Json) (tx : TxManager) :
    Plain (A.createMany entityName records tx) := by
  unfold createMany
  split
  · trivial
  split
  · trivial
  split
  · trivial
  split
  · trivial
  · trivial
  · exact (insertAll_plain A _ records 0).bind fun _ => trivial

namespace MySQLAdapter

theorem insertStatement_isData (data : Json) : IsData (insertStatement A schema data).sql :=
  Or.inr ⟨"INSERT INTO ", by decide, _, rfl⟩

theorem selectById_isData (id : String) : IsData (selectById schema id).sql :=
  Or.inr ⟨"SELECT ", by decide, _, rfl⟩

theorem readBackStatement_isData (data : Json) : IsData (readBackStatement A schema data).sql := by
  unfold readBackStatement
  split <;> exact Or.inr ⟨"SELECT ", by decide, _, rfl⟩

theorem updateStatement_isData (id : String) (data : Json) :
    IsData (updateStatement A schema id data).sql :=
  Or.inr ⟨"UPDATE ", by decide, _, rfl⟩

/-- A call that knows its entity and finds its name valid is plain if the rest of it is. -/
theorem knowing_plain {α : Type} (entityName : String) {next : EntitySchema → Talk (Reply α)}
    (h : ∀ schema, Plain (next schema)) : Plain (knowing A entityName next) := by
  refine Adapters.knowing_plain A entityName fun schema => ?_
  split
  · exact h schema
  · trivial

theorem create_plain (entityName : String) (data : Json) : Plain (create A entityName data) :=
  knowing_plain A entityName fun schema =>
    attempt_plain (insertStatement_isData A schema data) fun _ =>
      attempt_plain (readBackStatement_isData A schema data) fun _ =>
        firstRow_plain A schema _ _

theorem update_plain (entityName id : String) (data : Json) :
    Plain (update A entityName id data) := by
  refine knowing_plain A entityName fun schema => ?_
  split
  · trivial
  refine attempt_plain (updateStatement_isData A schema id data) fun _ => ?_
  split
  · trivial
  · exact attempt_plain (selectById_isData schema id) fun _ => firstRow_plain A schema _ _

theorem createAll_plain (entityName : String) (records : List Json) (k : Nat) :
    Plain (createAll A entityName records k) := by
  induction records generalizing k with
  | nil => trivial
  | cons record records ih =>
      refine (create_plain A entityName record).bind fun result => ?_
      rcases result with thrown | err | created
      · trivial
      · trivial
      · exact ih (k + 1)

end MySQLAdapter

theorem keeping_plain {α : Type} (tx : TxManager) {call : Talk (Reply α)} (h : Plain call) :
    Plain (keeping tx call) :=
  h.bind fun _ => trivial

/-- **No call controls a transaction of the database.** -/
theorem perform_plain (backend : Backend) (tx : TxManager) (call : WriteCall) :
    Plain (perform A backend tx call) := by
  cases call with
  | create entityName data =>
      refine keeping_plain tx ?_
      cases backend with
      | sql =>
          exact knowing_plain A entityName fun schema =>
            attempt_plain (insertStatement_isData A schema data) fun _ => firstRow_plain A schema _ _
      | mySQL => exact MySQLAdapter.create_plain A entityName data
  | update entityName id data =>
      refine keeping_plain tx ?_
      cases backend with
      | sql =>
          exact knowing_plain A entityName fun schema =>
            attempt_plain (updateStatement_isData A schema id data) fun _ =>
              firstRow_plain A schema _ _
      | mySQL => exact MySQLAdapter.update_plain A entityName id data
  | remove entityName id =>
      refine keeping_plain tx (knowing_plain A entityName fun schema =>
        attempt_plain (deleteStatement_isData A schema id) fun _ => ?_)
      split <;> trivial
  | createMany entityName records =>
      cases backend with
      | sql => exact (createMany_plain A entityName records tx).bind fun _ => trivial
      | mySQL =>
          refine keeping_plain tx ?_
          unfold MySQLAdapter.createMany
          split
          · trivial
          · exact MySQLAdapter.createAll_plain A entityName records 0
  | updateMany entityName filter data =>
      refine keeping_plain tx (knowing_plain A entityName fun schema => ?_)
      rw [connected_eq]
      split
      · trivial
      · trivial
      · next sql hsql =>
          exact attempt_plain (updateManyStatement_isData schema hsql) fun _ => trivial
  | deleteMany entityName filter =>
      exact keeping_plain tx (knowing_plain A entityName fun schema =>
        attempt_plain (deleteManyStatement_isData schema A.dialect filter) fun _ => trivial)

theorem performAll_plain (backend : Backend) (calls : List WriteCall) (tx : TxManager) :
    Plain (performAll A backend calls tx) := by
  induction calls generalizing tx with
  | nil => trivial
  | cons call calls ih => exact (perform_plain A backend tx call).bind ih

theorem produce_plain (backend : Backend) (calls : List WriteCall) :
    Plain (produce A backend calls) := by
  induction calls with
  | nil => trivial
  | cons call calls ih => exact (perform_plain A backend none call).bind fun _ => ih

end Plain

/-! ### What the calls do to the tables -/

section Effects

variable {τ ρ : Type}

/-- **An ideal database**: a refused statement changes nothing, a `SELECT` reads, and an `INSERT`
that is accepted adds a row. -/
structure IdealDatabase (data : Statement → τ → Except Refusal Answer × τ) (rows : τ → List ρ) : Prop
    extends StoresRows Statement.sql data rows where
  refused_same : ∀ {statement t e}, (data statement t).1 = .error e → (data statement t).2 = t
  selected_same : ∀ {statement t}, "SELECT ".toList <+: statement.sql.toList →
    (data statement t).2 = t

variable {A : SqlAdapter} {data : Statement → τ → Except Refusal Answer × τ} {rows : τ → List ρ}

/-- A statement after which nothing more is written. -/
theorem attempt_snd {α : Type} (statement : Statement) {next : Answer → Talk (Reply α)}
    (hnext : ∀ answer t, ((next answer).run data t).2 = t) (t : τ) :
    ((attempt statement next).run data t).2 = (data statement t).2 := by
  rcases h : (data statement t).1 with (err | what) | answer
  · rw [attempt_sqlError h]
  · rw [attempt_unable h]
  · rw [attempt_ok h, hnext]

theorem firstRow_snd (schema : EntitySchema) (found : List SqlRow) (missing : Error) (t : τ) :
    ((A.firstRow schema found missing).run data t).2 = t := by
  cases found <;> rfl

@[simp] theorem keeping_snd {α : Type} (tx : TxManager) (call : Talk (Reply α)) (t : τ) :
    ((keeping tx call).run data t).2 = (call.run data t).2 := by
  simp [keeping]

/-- The tables after a statement, if there is one. -/
def afterWrite (data : Statement → τ → Except Refusal Answer × τ) (statement : Option Statement)
    (t : τ) : τ :=
  statement.elim t fun statement => (data statement t).2

variable (hdata : IdealDatabase data rows)

include hdata

theorem MySQLAdapter.create_snd (schema : EntitySchema) (record : Json) (missing : Error) (t : τ) :
    ((attempt (MySQLAdapter.insertStatement A schema record) fun _ =>
      attempt (MySQLAdapter.readBackStatement A schema record) fun answer =>
        A.firstRow schema answer.rows missing).run data t).2 =
      (data (MySQLAdapter.insertStatement A schema record) t).2 := by
  refine attempt_snd _ (fun _ t => ?_) t
  rw [attempt_snd _ (fun _ _ => firstRow_snd _ _ _ _),
    hdata.selected_same (MySQLAdapter.readBackStatement_isSelect A schema record)]

theorem MySQLAdapter.update_snd (schema : EntitySchema) (id : String) (record : Json)
    (missing : Error) (t : τ) :
    ((attempt (MySQLAdapter.updateStatement A schema id record) fun answer =>
      if answer.affected = 0 then reply (.error missing)
      else attempt (MySQLAdapter.selectById schema id) fun answer =>
        A.firstRow schema answer.rows missing).run data t).2 =
      (data (MySQLAdapter.updateStatement A schema id record) t).2 := by
  refine attempt_snd _ (fun answer t => ?_) t
  split
  · rfl
  · rw [attempt_snd _ (fun _ _ => firstRow_snd _ _ _ _)]
    refine hdata.selected_same ?_
    rw [MySQLAdapter.selectById, String.toList_append]
    exact List.prefix_append _ _

/-- **A call on rows that are there, or on one record, writes with one statement.** -/
theorem perform_snd (backend : Backend) (tx : TxManager) (call : WriteCall)
    (hsingle : ∀ entityName records, call ≠ .createMany entityName records) (t : τ) :
    ((perform A backend tx call).run data t).2 =
      afterWrite data (firstWrite A backend call) t := by
  cases call with
  | create entityName record =>
      cases hschema : A.schemas entityName with
      | none => cases backend <;> simp [perform, firstWrite, hschema, afterWrite, create,
          MySQLAdapter.create, MySQLAdapter.knowing, knowing, reply]
      | some schema =>
          cases backend with
          | sql =>
              simp only [perform, keeping_snd, create, knowing, hschema, connected_eq, firstWrite,
                Option.bind_some, afterWrite, Option.elim_some]
              exact attempt_snd _ (fun _ _ => firstRow_snd _ _ _ _) t
          | mySQL =>
              cases hvalid : MySQLAdapter.isValidIdentifier schema.name with
              | false => simp [perform, firstWrite, hschema, hvalid, afterWrite,
                  MySQLAdapter.create, MySQLAdapter.knowing, knowing, reply]
              | true =>
                  simp only [perform, keeping_snd, MySQLAdapter.create_eq hschema hvalid, firstWrite,
                    hschema, Option.bind_some, hvalid, if_true, afterWrite, Option.elim_some]
                  exact MySQLAdapter.create_snd hdata schema record _ t
  | update entityName id record =>
      cases hschema : A.schemas entityName with
      | none => cases backend <;> simp [perform, firstWrite, hschema, afterWrite, update,
          MySQLAdapter.update, MySQLAdapter.knowing, knowing, reply]
      | some schema =>
          cases backend with
          | sql =>
              simp only [perform, keeping_snd, update, knowing, hschema, connected_eq, firstWrite,
                Option.bind_some, afterWrite, Option.elim_some]
              exact attempt_snd _ (fun _ _ => firstRow_snd _ _ _ _) t
          | mySQL =>
              cases hvalid : MySQLAdapter.isValidIdentifier schema.name with
              | false => simp [perform, firstWrite, hschema, hvalid, afterWrite,
                  MySQLAdapter.update, MySQLAdapter.knowing, knowing, reply]
              | true =>
                  simp only [perform, keeping_snd, MySQLAdapter.update, MySQLAdapter.knowing,
                    knowing, hschema, hvalid, if_true, connected_eq, firstWrite, Option.bind_some]
                  split
                  · rfl
                  · exact MySQLAdapter.update_snd hdata schema id record _ t
  | remove entityName id =>
      cases hschema : A.schemas entityName with
      | none => simp [perform, firstWrite, hschema, afterWrite, remove, knowing, reply]
      | some schema =>
          simp only [perform, keeping_snd, remove, knowing, hschema, connected_eq, firstWrite,
            Option.map_some, afterWrite, Option.elim_some]
          refine attempt_snd _ (fun answer t => ?_) t
          split <;> rfl
  | createMany entityName records => exact absurd rfl (hsingle entityName records)
  | updateMany entityName filter record =>
      cases hschema : A.schemas entityName with
      | none => simp [perform, firstWrite, hschema, afterWrite, updateMany, knowing, reply]
      | some schema =>
          simp only [perform, keeping_snd, updateMany, knowing, hschema, connected_eq, firstWrite,
            Option.bind_some]
          rcases updateManyStatement A.dialect schema filter record with (what | _) | sql
          · rfl
          · rfl
          · exact attempt_snd _ (fun _ _ => rfl) t
  | deleteMany entityName filter =>
      cases hschema : A.schemas entityName with
      | none => simp [perform, firstWrite, hschema, afterWrite, deleteMany, knowing, reply]
      | some schema =>
          simp only [perform, keeping_snd, deleteMany, knowing, hschema, connected_eq, firstWrite,
            Option.map_some, afterWrite, Option.elim_some]
          exact attempt_snd _ (fun _ _ => rfl) t

/-- The call would leave the tables as they are: the statement that it writes with first is never
sent, is refused, or changes nothing. -/
def Quiet (A : SqlAdapter) (backend : Backend) (data : Statement → τ → Except Refusal Answer × τ)
    (t : τ) (call : WriteCall) : Prop :=
  afterWrite data (firstWrite A backend call) t = t

instance [DecidableEq τ] (A : SqlAdapter) (backend : Backend)
    (data : Statement → τ → Except Refusal Answer × τ) (t : τ) (call : WriteCall) :
    Decidable (Quiet A backend data t call) :=
  inferInstanceAs (Decidable (afterWrite data (firstWrite A backend call) t = t))

/-- An insert that changes nothing was refused. -/
theorem refused_of_same {statement : Statement} {t : τ}
    (hinsert : "INSERT INTO ".toList <+: statement.sql.toList) (h : (data statement t).2 = t) :
    ∃ e, (data statement t).1 = .error e := by
  cases hanswer : (data statement t).1 with
  | error e => exact ⟨e, rfl⟩
  | ok answer =>
      have hlength := (hdata.grew_inserted hinsert hanswer).length_eq
      rw [h] at hlength
      omega

/-- The loop of `SqlAdapter` changes the tables when its first insert does. -/
theorem insertAll_same_iff (schema : EntitySchema) (record : Json) (records : List Json) (t : τ) :
    ((A.insertAll schema (record :: records) 0).run data t).2 = t ↔
      (data (A.insertStatement schema record) t).2 = t := by
  rcases hanswer : (data (A.insertStatement schema record) t).1 with (err | what) | answer
  · rw [insertAll, attempt_sqlError hanswer]
  · rw [insertAll, attempt_unable hanswer]
  · refine ⟨fun h => absurd (congrArg rows h)
      (insertAll_changes hdata.toStoresRows records 0 hanswer), fun h => ?_⟩
    obtain ⟨e, he⟩ := refused_of_same hdata (A.insertStatement_isInsert schema record) h
    cases hanswer.symm.trans he

/-- The loop of MySQL changes the tables when its first insert does. -/
theorem MySQLAdapter.createAll_same_iff {entityName : String} {schema : EntitySchema}
    (hschema : A.schemas entityName = some schema)
    (hvalid : MySQLAdapter.isValidIdentifier schema.name = true) (record : Json)
    (records : List Json) (t : τ) :
    ((MySQLAdapter.createAll A entityName (record :: records) 0).run data t).2 = t ↔
      (data (MySQLAdapter.insertStatement A schema record) t).2 = t := by
  rcases hanswer : (data (MySQLAdapter.insertStatement A schema record) t).1 with
    (err | what) | answer
  · simp only [MySQLAdapter.createAll, Dialogue.run_bind,
      MySQLAdapter.create_eq hschema hvalid, attempt_sqlError hanswer]
    rfl
  · simp only [MySQLAdapter.createAll, Dialogue.run_bind,
      MySQLAdapter.create_eq hschema hvalid, attempt_unable hanswer]
    rfl
  · refine ⟨fun h => absurd (congrArg rows h) (MySQLAdapter.createAll_changes hschema hvalid
      hdata.toStoresRows records 0 hanswer), fun h => ?_⟩
    obtain ⟨e, he⟩ :=
      refused_of_same hdata (MySQLAdapter.insertStatement_isInsert A schema record) h
    cases hanswer.symm.trans he

/-- Where no transaction is active, `createMany` changes the tables when its first insert does. -/
theorem createMany_same_iff (backend : Backend) {tx : TxManager} (hidle : inTransaction tx = false)
    (entityName : String) (records : List Json) (t : τ) :
    ((perform A backend tx (.createMany entityName records)).run data t).2 = t ↔
      Quiet A backend data t (.createMany entityName records) := by
  cases records with
  | nil => cases backend <;> exact ⟨fun _ => rfl, fun _ => rfl⟩
  | cons record records =>
      have hcons : ¬ record :: records = [] := nofun
      cases backend with
      | sql =>
          simp only [perform, Dialogue.run_bind, Dialogue.run_pure, Quiet, firstWrite]
          cases hschema : A.schemas entityName with
          | none =>
              simp only [createMany, hcons, if_false, hschema]
              exact ⟨fun _ => rfl, fun _ => rfl⟩
          | some schema =>
              rw [(createMany_run hschema hcons hidle t).2,
                insertAll_same_iff hdata schema record records t]
              rfl
      | mySQL =>
          simp only [perform, keeping_snd, MySQLAdapter.createMany, hcons, if_false, Quiet, firstWrite]
          cases hschema : A.schemas entityName with
          | none =>
              simp only [MySQLAdapter.createAll, MySQLAdapter.create, MySQLAdapter.knowing,
                knowing, hschema]
              exact ⟨fun _ => rfl, fun _ => rfl⟩
          | some schema =>
              cases hvalid : MySQLAdapter.isValidIdentifier schema.name with
              | false =>
                  simp only [MySQLAdapter.createAll, MySQLAdapter.create, MySQLAdapter.knowing,
                    knowing, hschema, hvalid]
                  exact ⟨fun _ => by simp [hvalid, afterWrite], fun _ => rfl⟩
              | true =>
                  rw [MySQLAdapter.createAll_same_iff hdata hschema hvalid record records t]
                  simp [hvalid, afterWrite]

omit hdata in
/-- Within a transaction, `SqlAdapter::createMany` throws before it sends anything. -/
theorem createMany_active {tx : TxManager} (hactive : inTransaction tx = true)
    (entityName : String) (records : List Json) (t : τ) :
    ((A.createMany entityName records tx).run data t).2 = t := by
  cases tx with
  | none => cases hactive
  | some manager =>
      have hbegin : beginTransaction (some manager) =
          (.error (.adapter "Transaction already active"), some manager) := by
        have hmanager : manager.isActive = true := hactive
        simp [beginTransaction, SqlTransactionManager.begin, hmanager]
      unfold createMany
      split
      · rfl
      split
      · rfl
      simp only [hbegin]
      rfl

/-- A quiet call leaves the tables as they are. -/
theorem perform_quiet (backend : Backend) (tx : TxManager) {call : WriteCall} {t : τ}
    (hquiet : Quiet A backend data t call) : ((perform A backend tx call).run data t).2 = t := by
  by_cases hmany : ∃ entityName records, call = .createMany entityName records
  · obtain ⟨entityName, records, rfl⟩ := hmany
    cases hactive : inTransaction tx with
    | false => exact (createMany_same_iff hdata backend hactive entityName records t).2 hquiet
    | true =>
        cases backend with
        | sql =>
            simp only [perform, Dialogue.run_bind, Dialogue.run_pure]
            exact createMany_active hactive entityName records t
        | mySQL =>
            have hnone : inTransaction none = false := rfl
            have hsame := (createMany_same_iff hdata .mySQL hnone entityName records t).2 hquiet
            simpa only [perform, keeping_snd] using hsame
  · rw [perform_snd hdata backend tx call fun entityName records h => hmany ⟨_, _, h⟩]
    exact hquiet

/-- A call made outside a transaction that leaves the tables as they are is quiet. -/
theorem quiet_of_perform (backend : Backend) {call : WriteCall} {t : τ}
    (h : ((perform A backend none call).run data t).2 = t) : Quiet A backend data t call := by
  by_cases hmany : ∃ entityName records, call = .createMany entityName records
  · obtain ⟨entityName, records, rfl⟩ := hmany
    exact (createMany_same_iff hdata backend rfl entityName records t).1 h
  · rwa [perform_snd hdata backend none call fun entityName records h => hmany ⟨_, _, h⟩] at h

theorem performAll_quiet (backend : Backend) {calls : List WriteCall} {t : τ}
    (hquiet : ∀ call ∈ calls, Quiet A backend data t call) (tx : TxManager) :
    ((performAll A backend calls tx).run data t).2 = t := by
  induction calls generalizing tx with
  | nil => rfl
  | cons call calls ih =>
      rw [performAll, Dialogue.run_bind, perform_quiet hdata backend tx (hquiet call (by simp))]
      exact ih (fun c hc => hquiet c (by simp [hc])) _

theorem produce_quiet (backend : Backend) {calls : List WriteCall} {t : τ}
    (hquiet : ∀ call ∈ calls, Quiet A backend data t call) :
    ((produce A backend calls).run data t).2 = t := by
  induction calls with
  | nil => rfl
  | cons call calls ih =>
      rw [produce, Dialogue.run_bind, perform_quiet hdata backend none (hquiet call (by simp))]
      exact ih fun c hc => hquiet c (by simp [hc])

omit hdata in
/-- One call more. -/
theorem produce_append (backend : Backend) (calls : List WriteCall) (call : WriteCall) (t : τ) :
    ((produce A backend (calls ++ [call])).run data t).2 =
      ((perform A backend none call).run data ((produce A backend calls).run data t).2).2 := by
  induction calls generalizing t with
  | nil => simp [produce]
  | cons first calls ih =>
      rw [List.cons_append, produce, Dialogue.run_bind, ih, produce, Dialogue.run_bind]

/-! ### Transactions -/

/-- A connection to the database. -/
def connection (data : Statement → τ → Except Refusal Answer × τ) :
    Statement → Connection τ → Except Refusal Answer × Connection τ :=
  Connection.exec data controls (.ok ⟨[], 0⟩)

/-- The connection after a transaction on the tables `t`, whose end is `finish`. -/
def after (A : SqlAdapter) (backend : Backend) (data : Statement → τ → Except Refusal Answer × τ)
    (finish : TxManager → Reply Bool × TxManager) (t : τ) (tx : TxManager)
    (calls : List WriteCall) : Connection τ :=
  ((transaction A backend finish calls tx).run (connection data) ⟨t, none⟩).2

/-- The tables that the calls produce in a transaction of the database. -/
def produced (A : SqlAdapter) (backend : Backend)
    (data : Statement → τ → Except Refusal Answer × τ) (t : τ) (calls : List WriteCall) : τ :=
  ((produce A backend calls).run (connection data) ⟨t, some t⟩).2.own

/-- The transaction goes on. -/
def stillOpen (tx : TxManager) : Reply Bool × TxManager := (.ok (.ok true), tx)

/-- **The calls between `beginTransaction` and its end are a transaction**: what they produce is
seen by the connection and by no other until the commit, and a rollback takes it back. -/
structure Transactional (A : SqlAdapter) (backend : Backend)
    (data : Statement → τ → Except Refusal Answer × τ) (t : τ) (tx : TxManager)
    (calls : List WriteCall) : Prop where
  produces : ∀ pre, pre <+: calls →
    (after A backend data stillOpen t tx pre).own = produced A backend data t pre
  isolated : ∀ pre, pre <+: calls → (after A backend data stillOpen t tx pre).committed = t
  commits : (after A backend data commitTransaction t tx calls).committed =
    produced A backend data t calls
  restores : (after A backend data rollbackTransaction t tx calls).committed = t

omit hdata in
/-- The connection stays outside any transaction of the database. -/
theorem after_eq (backend : Backend) (finish : TxManager → Reply Bool × TxManager) (t : τ)
    {tx tx' : TxManager} (hbegin : beginTransaction tx = (.ok (.ok true), tx'))
    (calls : List WriteCall) :
    after A backend data finish t tx calls =
      ⟨((performAll A backend calls tx').run data t).2, none⟩ := by
  simp only [after, transaction, hbegin, connection, Dialogue.run_bind, Dialogue.run_pure,
    Connection.run_autocommit (performAll_plain A backend calls tx')]

omit hdata in
theorem produced_eq (backend : Backend) (t : τ) (calls : List WriteCall) :
    produced A backend data t calls = ((produce A backend calls).run data t).2 := by
  simp only [produced, connection, Connection.run_pending (produce_plain A backend calls),
    Connection.own_some]

/-- **When the transactions are transactions**: over any ideal database and both adapters, the
calls after a successful `beginTransaction` are a transaction if and only if each of them would
leave the tables as they are.  Every other write is visible at once and survives the rollback. -/
theorem transactional_iff (backend : Backend) (t : τ) {tx tx' : TxManager}
    (hbegin : beginTransaction tx = (.ok (.ok true), tx')) (calls : List WriteCall) :
    Transactional A backend data t tx calls ↔ ∀ call ∈ calls, Quiet A backend data t call := by
  constructor
  · intro h call hcall
    obtain ⟨pre, post, rfl⟩ := List.append_of_mem hcall
    -- what a prefix produces is what the connection sees, and that is committed
    have hsame : ∀ calls, calls <+: pre ++ call :: post →
        ((produce A backend calls).run data t).2 = t := by
      intro calls hcalls
      have hown := h.produces calls hcalls
      have hcommitted := h.isolated calls hcalls
      rw [after_eq backend stillOpen t hbegin] at hown hcommitted
      rw [produced_eq] at hown
      exact hown.symm.trans hcommitted
    have hpre := hsame pre (List.prefix_append _ _)
    have hmore := hsame (pre ++ [call]) ⟨post, by simp⟩
    rw [produce_append, hpre] at hmore
    exact quiet_of_perform hdata backend hmore
  · intro h
    have hpre : ∀ pre, pre <+: calls → ∀ call ∈ pre, Quiet A backend data t call :=
      fun pre hstart call hcall => h call (hstart.subset hcall)
    refine ⟨fun pre hstart => ?_, fun pre hstart => ?_, ?_, ?_⟩
    · rw [after_eq backend stillOpen t hbegin, produced_eq, produce_quiet hdata backend (hpre pre hstart)]
      exact performAll_quiet hdata backend (hpre pre hstart) tx'
    · rw [after_eq backend stillOpen t hbegin]
      exact performAll_quiet hdata backend (hpre pre hstart) tx'
    · rw [after_eq backend commitTransaction t hbegin, produced_eq, produce_quiet hdata backend h]
      exact performAll_quiet hdata backend h tx'
    · rw [after_eq backend rollbackTransaction t hbegin]
      exact performAll_quiet hdata backend h tx'

end Effects

/-! ### A table -/

/-- A table that keeps the inserts it is sent, each of them once; a `DELETE` takes those with its
parameters. -/
def noteTable (statement : Statement) (stored : List Statement) :
    Except Refusal Answer × List Statement :=
  if "INSERT INTO ".toList.isPrefixOf statement.sql.toList then
    if stored.any fun insert => insert.params = statement.params then
      (.error (.sqlError ⟨.uniqueViolation, "duplicate key"⟩), stored)
    else (.ok ⟨[], 1⟩, stored ++ [statement])
  else if "DELETE FROM ".toList.isPrefixOf statement.sql.toList then
    (.ok ⟨[], 1⟩, stored.filter fun insert => !statement.params.all insert.params.contains)
  else (.ok ⟨[], 0⟩, stored)

theorem noteTable_select {statement : Statement} (h : "SELECT ".toList <+: statement.sql.toList)
    (stored : List Statement) : (noteTable statement stored).2 = stored := by
  rw [noteTable, isPrefixOf_eq_false h (by decide) (by decide),
    isPrefixOf_eq_false h (by decide) (by decide)]
  rfl

/-- Only an insert of what is there is refused. -/
theorem noteTable_refused {statement : Statement} {stored : List Statement} {e : Refusal}
    (h : (noteTable statement stored).1 = .error e) : (noteTable statement stored).2 = stored := by
  unfold noteTable at h ⊢
  split at h
  case isTrue hinsert =>
    split at h
    case isTrue htaken => rw [if_pos hinsert, if_pos htaken]
    case isFalse => cases h
  case isFalse => split at h <;> cases h

theorem noteTable_ideal : IdealDatabase noteTable id where
  refused := noteTable_refused
  refused_same := noteTable_refused
  inserted {statement t o} hinsert h := by
    rw [noteTable, if_pos (List.isPrefixOf_iff_prefix.2 hinsert)] at h ⊢
    split at h
    case isTrue => cases h
    case isFalse hnew => exact ⟨statement, by rw [if_neg hnew]; rfl⟩
  selected {statement t o} hselect _ := noteTable_select hselect t
  selected_same {statement t} hselect := noteTable_select hselect t

/-- The table with a note. -/
def storedNote (A : SqlAdapter) (backend : Backend) : List Statement :=
  (firstWrite A backend (.create "Note" (.obj [("id", .str "a")]))).toList

/-- Calls that are refused or find nothing. -/
def vainCalls : List WriteCall :=
  [.create "Note" (.obj [("id", .str "a")]), .remove "Note" "b"]

/-- The note that is stored is not created again, and removing another one changes nothing. -/
theorem transactional_vain :
    Transactional (noteAdapter .postgres) .sql noteTable (storedNote (noteAdapter .postgres) .sql) none
        vainCalls ∧
      Transactional (noteAdapter .mySQL) .mySQL noteTable (storedNote (noteAdapter .mySQL) .mySQL) none
        vainCalls :=
  ⟨(transactional_iff noteTable_ideal .sql _ rfl _).2 (by decide +kernel),
    (transactional_iff noteTable_ideal .mySQL _ rfl _).2 (by decide +kernel)⟩

/-- A record created in a transaction is there after the rollback. -/
theorem rollback_keeps_note :
    (after (noteAdapter .postgres) .sql noteTable rollbackTransaction [] none
        [.create "Note" (.obj [("id", .str "a")])]).committed.length = 1 ∧
      ¬ Transactional (noteAdapter .postgres) .sql noteTable [] none
        [.create "Note" (.obj [("id", .str "a")])] ∧
      ¬ Transactional (noteAdapter .mySQL) .mySQL noteTable [] none
        [.create "Note" (.obj [("id", .str "a")])] := by
  have hsql : (after (noteAdapter .postgres) .sql noteTable rollbackTransaction [] none
      [.create "Note" (.obj [("id", .str "a")])]).committed.length = 1 := by decide +kernel
  have hmySQL : (after (noteAdapter .mySQL) .mySQL noteTable rollbackTransaction [] none
      [.create "Note" (.obj [("id", .str "a")])]).committed.length = 1 := by decide +kernel
  refine ⟨hsql, fun h => ?_, fun h => ?_⟩
  · rw [h.restores] at hsql
    cases hsql
  · rw [h.restores] at hmySQL
    cases hmySQL

end Adapters
end Dbal
