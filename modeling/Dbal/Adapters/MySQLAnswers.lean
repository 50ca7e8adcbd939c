/-
# The row that a MySQL write answers with

Without `RETURNING`, `MySQLAdapter::create` and `update` (`src/adapters/sql/mysql_adapter.cpp`)
learn what became of the row from a count and from a second statement.  `create` reads a row back by
its `id`, or, where the record has none, the row with the greatest `createdAt`, which another row
may have too or exceed.  `update` takes a count of zero for a row that is missing, and MySQL counts
the rows whose values changed.

The table is the ideal one of `Sql/KeyedTable`, whose key is the `id`.
-/

import Dbal.Adapters.CreateManyExact
import Dbal.Adapters.MySQLQueryString
import Dbal.Sql.KeyedTable
import Mathlib.Data.String.Basic

namespace Dbal
namespace Adapters
namespace MySQLAdapter

open Sql
open TableRow (value value_set)
open SqlAdapter (quote insertTokens updateTokens updatedFields columnRoles namePieces markPieces
  assignedPieces)
open SQLiteQueryBuilder (Role name equalsPieces)

variable {κ σ : Type} [LinearOrder κ]

/-! ### The table of an entity -/

/-- Its columns. -/
def columns (schema : EntitySchema) : List String := schema.fields.map fun field => field.name

/-- A MySQL server with the table. -/
def serve (E : Engine κ) (visit : Visit) (schema : EntitySchema) (statement : Statement)
    (table : Table "id") : Except Refusal Answer × Table "id" :=
  match (tokens backtick statement.sql.toList).bind (Command.parse schema.name "id") with
  | none => (.error (.sqlError ⟨.unknown, "You have an error in your SQL syntax"⟩), table)
  | some command =>
      if ∀ column ∈ command.columns "id", column ∈ columns schema then
        match command.run E visit table (statement.params.map fun param => param.value) with
        | (some (rows, affected), table) => (.ok ⟨rows.map SqlRow.mk, affected⟩, table)
        | (none, table) => (.error (.sqlError ⟨.uniqueViolation, "Duplicate entry"⟩), table)
      else (.error (.sqlError ⟨.unknown, "Unknown column"⟩), table)

/-- What is written for a field. -/
def text (A : SqlAdapter) (data : Json) (column : String) : String :=
  A.jsonValueToString ((data.find? column).getD .null)

/-- The columns of these fields, with what is written for them. -/
def assignments (A : SqlAdapter) (data : Json) (fields : List EntityField) :
    List (String × String) :=
  (fields.map fun field => field.name).map fun column => (column, text A data column)

/-- The row that an `INSERT` of the record makes. -/
def newRow (A : SqlAdapter) (E : Engine κ) (schema : EntitySchema) (data : Json)
    (rows : List TableRow) : TableRow :=
  (E.defaults rows).set (assignments A data (insertedFields schema data))

/-! ### The statements as it reads them -/

section

variable {A : SqlAdapter} {E : Engine κ} {visit : Visit} {schema : EntitySchema} {data : Json}
  {table : Table "id"}

/-- A statement on columns that the table has. -/
theorem serve_eq {statement : Statement} {command : Command}
    (hreads : tokens backtick statement.sql.toList = some (command.tokens schema.name "id"))
    (hcolumns : ∀ column ∈ command.columns "id", column ∈ columns schema) :
    serve E visit schema statement table =
      match command.run E visit table (statement.params.map fun param => param.value) with
      | (some (rows, affected), table) => (.ok ⟨rows.map SqlRow.mk, affected⟩, table)
      | (none, table) => (.error (.sqlError ⟨.uniqueViolation, "Duplicate entry"⟩), table) := by
  unfold serve
  rw [hreads, Option.bind_some, Command.parse_tokens]
  exact if_pos hcolumns

theorem serve_unknown {statement : Statement} {command : Command}
    (hreads : tokens backtick statement.sql.toList = some (command.tokens schema.name "id"))
    (hcolumns : ¬ ∀ column ∈ command.columns "id", column ∈ columns schema) :
    serve E visit schema statement table =
      (.error (.sqlError ⟨.unknown, "Unknown column"⟩), table) := by
  unfold serve
  rw [hreads, Option.bind_some, Command.parse_tokens]
  exact if_neg hcolumns

theorem tokensOf_names (fields : List EntityField) :
    tokensOf (namePieces fields) =
      joinTokens .comma
        ((fields.map fun field => field.name).map fun column => [.ident column]) := by
  rw [namePieces, tokensOf_joinPieces, List.map_map, List.map_map]
  rfl

theorem tokensOf_marks (fields : List EntityField) :
    tokensOf (markPieces fields) =
      joinTokens .comma ((fields.map fun field => field.name).map fun _ => [.param none]) := by
  rw [markPieces, tokensOf_joinPieces, columnRoles, List.map_map, List.map_map, List.map_map]
  rfl

theorem tokensOf_assigned (fields : List EntityField) :
    tokensOf (assignedPieces fields) =
      joinTokens .comma ((fields.map fun field => field.name).map fun column =>
        [.ident column, .eq, .param none]) := by
  rw [assignedPieces, tokensOf_joinPieces, List.map_map, List.map_map]
  rfl

theorem insert_reads (hplain : PlainNames schema) :
    tokens backtick (insertStatement A schema data).sql.toList =
      some ((Command.insert ((insertedFields schema data).map fun field => field.name)).tokens
        schema.name "id") := by
  have hagree := @insert_agrees A schema data (SqlAdapter.quote_not_mem_of_valid hplain.table)
    hplain.quote "id"
  refine hagree.reads.trans (congrArg some ?_)
  rw [insertTokens, placed_mySQL, tokensOf_names, tokensOf_marks]
  rfl

theorem update_reads (hplain : PlainNames schema) (id : String) :
    tokens backtick (updateStatement A schema id data).sql.toList =
      some ((Command.update ((updatedFields schema data).map fun field => field.name)).tokens
        schema.name "id") := by
  have hagree := @update_agrees A schema data (SqlAdapter.quote_not_mem_of_valid hplain.table)
    hplain.quote id
  refine hagree.reads.trans (congrArg some ?_)
  rw [updateTokens, placed_mySQL, placed_mySQL, tokensOf_assigned]
  rfl

/-- What the statements that read begin with. -/
theorem spells_selectAll (table : String) :
    Spells backtick ("SELECT * FROM" ++ " " ++ SqlAdapter.quoteId .mySQL table)
      [.word "SELECT", .star, .word "FROM", .ident table] := by
  have hq := SqlAdapter.isQuote .mySQL
  have hselect : Spells backtick "SELECT * FROM" [.word "SELECT", .star, .word "FROM"] :=
    .fixed hq (by decide)
  exact hselect.blank hq (SqlAdapter.spells_quoteId .mySQL table)

theorem selectById_reads (hplain : PlainNames schema) (id : String) :
    tokens backtick (selectById schema id).sql.toList =
      some (Command.select.tokens schema.name "id") := by
  have hq := SqlAdapter.isQuote .mySQL
  have htable := SqlAdapter.quote_not_mem_of_valid hplain.table
  have hwhere : Spells backtick "WHERE" [.kw .where] := .fixed hq (by decide)
  have heq : Spells backtick "=" [.eq] := .fixed hq (by decide)
  have hmark : Spells backtick "?" [.param none] := .fixed hq (by decide)
  have hid := (SqlAdapter.spells_quoteId .mySQL "id").word hq heq hmark
    (rfl : " = " = " " ++ "=" ++ " ")
  have hall := (spells_selectAll schema.name).word hq hwhere hid
    (rfl : " WHERE " = " " ++ "WHERE" ++ " ")
  refine (hall.congr ?_ (rfl : Command.select.tokens schema.name "id" = _)).reads ?_
  · refine String.toList_inj.1 ?_
    simp [selectById, SqlAdapter.quoteId]
  · exact Command.unquoted htable (List.forall_mem_singleton.2 (SqlAdapter.id_unquoted .mySQL))

/-- The statement that reads back a record without an `id`. -/
theorem latest_reads (hplain : PlainNames schema) (hid : data.find? "id" = none) :
    tokens backtick (readBackStatement A schema data).sql.toList =
      some ((Command.latest "createdAt").tokens schema.name "id") := by
  have hq := SqlAdapter.isQuote .mySQL
  have htable := SqlAdapter.quote_not_mem_of_valid hplain.table
  have horder : Spells backtick "ORDER BY" [.word "ORDER", .word "BY"] := .fixed hq (by decide)
  have hlimit : Spells backtick "DESC LIMIT 1" [.word "DESC", .word "LIMIT", .num "1"] :=
    .fixed hq (by decide)
  have hcolumn := (SqlAdapter.spells_quoteId .mySQL "createdAt").blank hq hlimit
  have hall := (spells_selectAll schema.name).word hq horder hcolumn
    (rfl : " ORDER BY " = " " ++ "ORDER BY" ++ " ")
  refine (hall.congr ?_ (rfl : (Command.latest "createdAt").tokens schema.name "id" = _)).reads ?_
  · refine String.toList_inj.1 ?_
    simp [readBackStatement, hid, SqlAdapter.quoteId]
  · exact Command.unquoted htable (List.forall_mem_singleton.2 (by decide))

/-! ### What the server does with them -/

theorem zip_texts (fields : List EntityField) (rest : List String) :
    (fields.map fun field => field.name).zip
        ((fields.map (A.fieldParam data)).map (fun param => param.value) ++ rest) =
      assignments A data fields := by
  induction fields with
  | nil => rfl
  | cons field fields ih => exact congrArg (List.cons _) ih

theorem mem_columns {fields : List EntityField} (h : ∀ field ∈ fields, field ∈ schema.fields)
    {column : String} (hcolumn : column ∈ fields.map fun field => field.name) :
    column ∈ columns schema := by
  obtain ⟨field, hfield, rfl⟩ := List.mem_map.1 hcolumn
  exact List.mem_map_of_mem (h field hfield)

/-- What becomes of an insert is for the key to say. -/
theorem run_insert :
    (Command.insert ((insertedFields schema data).map fun field => field.name)).run E visit table
        ((insertStatement A schema data).params.map fun param => param.value) =
      Command.store table (table.rows ++ [newRow A E schema data table.rows]) 1 := by
  have hvalues := @zip_texts A data (insertedFields schema data) []
  rw [List.append_nil] at hvalues
  rw [Command.run, insertStatement, hvalues]
  rfl

/-- An insert that the key allows. -/
theorem serve_insert (hplain : PlainNames schema)
    (hnew : IsKey "id" (table.rows ++ [newRow A E schema data table.rows])) :
    serve E visit schema (insertStatement A schema data) table =
      (.ok ⟨[], 1⟩, ⟨table.rows ++ [newRow A E schema data table.rows], hnew⟩) := by
  rw [serve_eq (insert_reads hplain) fun column => mem_columns fun field =>
    List.mem_of_mem_filter, run_insert, Command.store_of_isKey table hnew]
  rfl

/-- An insert that breaks the key. -/
theorem serve_insert_refused (hplain : PlainNames schema)
    (hnew : ¬ IsKey "id" (table.rows ++ [newRow A E schema data table.rows])) :
    serve E visit schema (insertStatement A schema data) table =
      (.error (.sqlError ⟨.uniqueViolation, "Duplicate entry"⟩), table) := by
  rw [serve_eq (insert_reads hplain) fun column => mem_columns fun field =>
    List.mem_of_mem_filter, run_insert, Command.store_of_not_isKey table hnew]

theorem serve_select (hplain : PlainNames schema) (hkey : "id" ∈ columns schema) (id : String) :
    serve E visit schema (selectById schema id) table =
      (.ok ⟨(table.rows.filter fun row => value "id" row = id).map SqlRow.mk, 0⟩, table) := by
  rw [serve_eq (selectById_reads hplain id) (List.forall_mem_singleton.2 hkey)]
  rfl

theorem serve_latest (hplain : PlainNames schema) (hid : data.find? "id" = none)
    (hcreated : "createdAt" ∈ columns schema) :
    serve E visit schema (readBackStatement A schema data) table =
      (.ok ⟨(latest E visit "createdAt" table.rows).toList.map SqlRow.mk, 0⟩, table) := by
  rw [serve_eq (latest_reads hplain hid) (List.forall_mem_singleton.2 hcreated)]
  rfl

/-- An update does not set the `id`. -/
theorem id_not_mem_updated : "id" ∉ (updatedFields schema data).map fun field => field.name := by
  intro hmem
  obtain ⟨field, hfield, hid⟩ := List.mem_map.1 hmem
  have hupdated := (Bool.and_eq_true_iff.1 (List.mem_filter.1 hfield).2).1
  rw [hid] at hupdated
  exact absurd hupdated (by decide)

theorem run_update (id : String) :
    (Command.update ((updatedFields schema data).map fun field => field.name)).run E visit table
        ((updateStatement A schema id data).params.map fun param => param.value) =
      Command.store table
        (updateRows "id" id (assignments A data (updatedFields schema data)) table.rows)
        (changed "id" id (assignments A data (updatedFields schema data)) table.rows) := by
  have hlast : ((updateStatement A schema id data).params.map fun param =>
      param.value).getLastD "" = id := by
    rw [updateStatement, List.map_append]
    exact List.getLastD_concat
  have hzip : ((updatedFields schema data).map fun field => field.name).zip
      ((updateStatement A schema id data).params.map fun param => param.value) =
      assignments A data (updatedFields schema data) := by
    rw [updateStatement, List.map_append]
    exact zip_texts (updatedFields schema data) [id]
  rw [Command.run, hlast, hzip]

/-- An update that is sent is accepted, and answered with the number of rows that it changes. -/
theorem serve_update (hplain : PlainNames schema) (hkey : "id" ∈ columns schema) (id : String) :
    ∃ hrows : IsKey "id"
        (updateRows "id" id (assignments A data (updatedFields schema data)) table.rows),
      serve E visit schema (updateStatement A schema id data) table =
        (.ok ⟨[], changed "id" id (assignments A data (updatedFields schema data)) table.rows⟩,
          ⟨updateRows "id" id (assignments A data (updatedFields schema data)) table.rows,
            hrows⟩) := by
  have hrows : IsKey "id"
      (updateRows "id" id (assignments A data (updatedFields schema data)) table.rows) :=
    isKey_updateRows id_not_mem_updated table.isKey
  have hcolumns : ∀ column ∈ (Command.update ((updatedFields schema data).map fun field =>
      field.name)).columns "id", column ∈ columns schema := by
    intro column hcolumn
    rcases List.mem_append.1 hcolumn with hfield | hid
    · exact mem_columns (fun field => List.mem_of_mem_filter) hfield
    · rwa [List.mem_singleton.1 hid]
  refine ⟨hrows, ?_⟩
  rw [serve_eq (update_reads hplain id) hcolumns, run_update, Command.store_of_isKey table hrows]
  rfl

/-! ### `create` -/

variable {entityName : String}

/-- A `create` that succeeds returns the row that it inserted. -/
def CreateAnswers (A : SqlAdapter) (E : Engine κ) (visit : Visit) (entityName : String)
    (schema : EntitySchema) (data : Json) (table : Table "id") : Prop :=
  ∀ record, ((create A entityName data).run (serve E visit schema) table).1 = .ok (.ok record) →
    A.rowToJson schema ⟨newRow A E schema data table.rows⟩ false = .ok record

/-- One row is returned as the other would be. -/
def ReadsAs (A : SqlAdapter) (schema : EntitySchema) (row other : TableRow) : Prop :=
  ∀ record, A.rowToJson schema ⟨row⟩ false = .ok record →
    A.rowToJson schema ⟨other⟩ false = .ok record

theorem firstRow_ok_iff {server : Statement → σ → Except Refusal Answer × σ} {s : σ} {row : SqlRow}
    {rows : List SqlRow} {missing : Error} {record : Json} :
    ((A.firstRow schema (row :: rows) missing).run server s).1 = .ok (.ok record) ↔
      A.rowToJson schema row false = .ok record := by
  change (A.rowToJson schema row false).map Except.ok = .ok (.ok record) ↔ _
  cases A.rowToJson schema row false <;> simp [Except.map]

section

variable (hschema : A.schemas entityName = some schema) (hplain : PlainNames schema)

include hschema hplain

theorem create_refused
    (hnew : ¬ IsKey "id" (table.rows ++ [newRow A E schema data table.rows])) :
    CreateAnswers A E visit entityName schema data table := by
  intro record hrecord
  rw [create_eq hschema hplain.table, attempt_sqlError (by rw [serve_insert_refused hplain hnew])]
    at hrecord
  cases hrecord

/-- A record with an `id` is read back by it. -/
theorem create_with_id (hkey : "id" ∈ columns schema)
    (hnew : IsKey "id" (table.rows ++ [newRow A E schema data table.rows]))
    (hid : data.contains "id" = true) :
    CreateAnswers A E visit entityName schema data table := by
  obtain ⟨value', hfind⟩ := Option.isSome_iff_exists.1 hid
  have htext : value "id" (newRow A E schema data table.rows) = A.jsonValueToString value' := by
    have hmem : "id" ∈ (insertedFields schema data).map fun field => field.name := by
      obtain ⟨field, hfield, hname⟩ := List.mem_map.1 hkey
      exact List.mem_map.2 ⟨field, List.mem_filter.2 ⟨hfield, by rwa [hname]⟩, hname⟩
    rw [newRow, assignments, value_set, if_pos hmem, text, hfind, Option.getD_some]
  have hstatement : readBackStatement A schema data =
      selectById schema (A.jsonValueToString value') := by
    rw [readBackStatement, hfind]
  have hfilter := filter_key hnew.1 (List.mem_append_right table.rows List.mem_cons_self)
  rw [htext] at hfilter
  intro record hrecord
  rw [create_eq hschema hplain.table, attempt_ok (by rw [serve_insert hplain hnew]),
    serve_insert hplain hnew, hstatement, attempt_ok (by rw [serve_select hplain hkey]),
    hfilter] at hrecord
  exact firstRow_ok_iff.1 hrecord

/-- A record without one is answered with the row that is met first of the latest. -/
theorem create_without_id (hnew : IsKey "id" (table.rows ++ [newRow A E schema data table.rows]))
    (hid : data.find? "id" = none) (hcreated : "createdAt" ∈ columns schema) (record : Json) :
    ((create A entityName data).run (serve E visit schema) table).1 = .ok (.ok record) ↔
      ∃ row, latest E visit "createdAt" (table.rows ++ [newRow A E schema data table.rows]) =
        some row ∧ A.rowToJson schema ⟨row⟩ false = .ok record := by
  rw [create_eq hschema hplain.table, attempt_ok (by rw [serve_insert hplain hnew]),
    serve_insert hplain hnew, attempt_ok (by rw [serve_latest hplain hid hcreated])]
  cases hlatest : latest E visit "createdAt"
      (table.rows ++ [newRow A E schema data table.rows]) with
  | none => exact ⟨nofun, fun ⟨_, h, _⟩ => nomatch h⟩
  | some row =>
      refine firstRow_ok_iff.trans ⟨fun h => ⟨row, rfl, h⟩, ?_⟩
      rintro ⟨row', hrow, h⟩
      rwa [Option.some.inj hrow]

/-- Without the column there is no such row. -/
theorem create_without_createdAt (hid : data.find? "id" = none)
    (hcreated : "createdAt" ∉ columns schema) :
    CreateAnswers A E visit entityName schema data table := by
  intro record hrecord
  by_cases hnew : IsKey "id" (table.rows ++ [newRow A E schema data table.rows])
  · have hunknown : ∀ table, serve E visit schema (readBackStatement A schema data) table =
        (.error (.sqlError ⟨.unknown, "Unknown column"⟩), table) := fun table =>
      serve_unknown (latest_reads hplain hid) fun h => hcreated (List.forall_mem_singleton.1 h)
    rw [create_eq hschema hplain.table, attempt_ok (by rw [serve_insert hplain hnew]),
      serve_insert hplain hnew, attempt_sqlError (by rw [hunknown])] at hrecord
    cases hrecord
  · exact create_refused hschema hplain hnew record hrecord

/-- **When `create` answers with its row**, in whatever order the rows are met: the insert is
refused, the record has an `id`, there is no `createdAt`, or the rows that none is later than are
returned as the new one is. -/
theorem create_answers_iff (hkey : "id" ∈ columns schema) :
    (∀ visit, CreateAnswers A E visit entityName schema data table) ↔
      (IsKey "id" (table.rows ++ [newRow A E schema data table.rows]) →
        data.contains "id" = true ∨ "createdAt" ∉ columns schema ∨
          ∀ row ∈ table.rows,
            IsLatest E "createdAt" (table.rows ++ [newRow A E schema data table.rows]) row →
              ReadsAs A schema row (newRow A E schema data table.rows)) := by
  by_cases hnew : IsKey "id" (table.rows ++ [newRow A E schema data table.rows])
  swap
  · exact ⟨fun _ h => absurd h hnew, fun _ _ => create_refused hschema hplain hnew⟩
  rw [forall_prop_of_true hnew]
  cases hid : data.find? "id" with
  | some found =>
      have hcontains : data.contains "id" = true := by rw [Json.contains, hid, Option.isSome_some]
      exact ⟨fun _ => Or.inl hcontains,
        fun _ _ => create_with_id hschema hplain hkey hnew hcontains⟩
  | none =>
      have hcontains : ¬ data.contains "id" = true := by
        rw [Json.contains, hid]
        exact Bool.false_ne_true
      by_cases hcreated : "createdAt" ∈ columns schema
      swap
      · exact ⟨fun _ => Or.inr (Or.inl hcreated),
          fun _ _ => create_without_createdAt hschema hplain hid hcreated⟩
      constructor
      · intro h
        refine Or.inr (Or.inr fun row hrow hlatest record hrecord => ?_)
        obtain ⟨visit, hvisit⟩ := exists_latest (List.mem_append_left _ hrow) hlatest
        exact h visit record ((create_without_id hschema hplain hnew hid hcreated record).2
          ⟨row, hvisit, hrecord⟩)
      · rintro (h | h | h) visit record hrecord
        · exact absurd h hcontains
        · exact absurd hcreated h
        · obtain ⟨row, hrow, hread⟩ :=
            (create_without_id hschema hplain hnew hid hcreated record).1 hrecord
          obtain ⟨hmem, hlatest⟩ := isLatest_of_latest hrow
          rcases List.mem_append.1 hmem with hold | hlast
          · exact h row hold hlatest record hread
          · rwa [List.mem_singleton.1 hlast] at hread

end

/-! ### `update` -/

/-- An `update` returns the row with its fields set where there is one with the `id`, and reports
that there is none exactly where there is none. -/
def UpdateAnswers (A : SqlAdapter) (E : Engine κ) (visit : Visit) (entityName id : String)
    (schema : EntitySchema) (data : Json) (table : Table "id") : Prop :=
  (∀ row ∈ table.rows, value "id" row = id →
    ((update A entityName id data).run (serve E visit schema) table).1 =
      (A.rowToJson schema ⟨row.set (assignments A data (updatedFields schema data))⟩ false).map
        .ok) ∧
  ((∀ row ∈ table.rows, value "id" row ≠ id) ↔
    ((update A entityName id data).run (serve E visit schema) table).1 =
      .ok (.error (.notFound (entityName ++ " not found"))))

/-- The row has something else in one of the fields. -/
def Differs (A : SqlAdapter) (schema : EntitySchema) (data : Json) (row : TableRow) : Prop :=
  ∃ field ∈ updatedFields schema data, value field.name row ≠ text A data field.name

theorem map_ok_ne {row : Except Thrown Json} {err : Error} :
    row.map Except.ok ≠ (.ok (.error err) : Reply Json) := by
  cases row <;> exact nofun

theorem update_eq (hschema : A.schemas entityName = some schema)
    (hvalid : isValidIdentifier schema.name = true) (hsome : updatedFields schema data ≠ [])
    (id : String) :
    update A entityName id data =
      attempt (updateStatement A schema id data) fun answer =>
        if answer.affected = 0 then reply (.error (.notFound (entityName ++ " not found")))
        else
          attempt (selectById schema id) fun answer =>
            A.firstRow schema answer.rows (.notFound (entityName ++ " not found")) := by
  have hfragments : setFragments schema data ≠ [] := fun h => hsome (setFragments_eq_nil_iff.1 h)
  simp [update, knowing, SqlAdapter.knowing, hschema, hvalid, hfragments]

section

variable (hschema : A.schemas entityName = some schema) (hplain : PlainNames schema)
  (hkey : "id" ∈ columns schema)

include hschema hplain hkey

/-- A count of zero is a row that is missing. -/
theorem update_unchanged (hsome : updatedFields schema data ≠ []) {id : String}
    (hnone : changed "id" id (assignments A data (updatedFields schema data)) table.rows = 0) :
    ((update A entityName id data).run (serve E visit schema) table).1 =
      .ok (.error (.notFound (entityName ++ " not found"))) := by
  obtain ⟨hrows, hserve⟩ := @serve_update κ _ A E visit schema data table hplain hkey id
  rw [update_eq hschema hplain.table hsome, attempt_ok (by rw [hserve])]
  dsimp only
  rw [if_pos (Int.natCast_eq_zero.2 hnone)]
  rfl

/-- A row that changes is returned. -/
theorem update_changed (hsome : updatedFields schema data ≠ []) {row : TableRow}
    (hrow : row ∈ table.rows)
    (hchanged : changed "id" (value "id" row) (assignments A data (updatedFields schema data))
      table.rows ≠ 0) :
    ((update A entityName (value "id" row) data).run (serve E visit schema) table).1 =
      (A.rowToJson schema ⟨row.set (assignments A data (updatedFields schema data))⟩ false).map
        .ok := by
  obtain ⟨hrows, hserve⟩ :=
    @serve_update κ _ A E visit schema data table hplain hkey (value "id" row)
  have hfilter := @filter_updateRows "id" _ _ (text A data) (@id_not_mem_updated schema data)
    table.isKey _ hrow
  rw [update_eq hschema hplain.table hsome, attempt_ok (by rw [hserve])]
  dsimp only
  rw [if_neg fun h => hchanged (Int.natCast_eq_zero.1 h), hserve,
    attempt_ok (by rw [serve_select hplain hkey])]
  simp only [assignments, hfilter]
  rfl

omit hschema hplain hkey in
/-- What is counted is the row, where it has something else. -/
theorem changed_eq_zero_iff_of_mem {row : TableRow} (hrow : row ∈ table.rows) :
    changed "id" (value "id" row) (assignments A data (updatedFields schema data)) table.rows = 0 ↔
      ¬ Differs A schema data row := by
  have hsame : (∀ field ∈ updatedFields schema data,
      value field.name row = text A data field.name) ↔ ¬ Differs A schema data row := by
    simp only [Differs, not_exists, not_and, not_not]
  rw [assignments, changed_eq_zero_iff, ← hsame]
  constructor
  · intro h field hfield
    exact h row hrow rfl field.name (List.mem_map_of_mem hfield)
  · intro h other hother hid column hcolumn
    obtain rfl := List.inj_on_of_nodup_map table.isKey.1 hother hrow hid
    obtain ⟨field, hfield, rfl⟩ := List.mem_map.1 hcolumn
    exact h field hfield

/-- **When `update` answers with its row**: there is a field to set, and the row with the `id`, if
there is one, has something else in one of them. -/
theorem update_answers_iff (id : String) :
    UpdateAnswers A E visit entityName id schema data table ↔
      updatedFields schema data ≠ [] ∧
        ∀ row ∈ table.rows, value "id" row = id → Differs A schema data row := by
  by_cases hsome : updatedFields schema data = []
  · refine ⟨fun ⟨hreturns, hmissing⟩ => ?_, fun h => absurd hsome h.1⟩
    rw [update_nothing hschema hplain.table hsome] at hreturns hmissing
    have hall : ∀ row ∈ table.rows, value "id" row ≠ id := fun row hrow hid =>
      map_ok_ne (hreturns row hrow hid).symm
    cases hmissing.1 hall
  constructor
  · rintro ⟨hreturns, -⟩
    refine ⟨hsome, fun row hrow hid => ?_⟩
    subst hid
    by_contra hsame
    have hmissing := @update_unchanged κ _ A E visit schema data table entityName hschema hplain
      hkey hsome _ ((changed_eq_zero_iff_of_mem hrow).2 hsame)
    exact map_ok_ne ((hreturns row hrow rfl).symm.trans hmissing)
  · rintro ⟨-, hdiffers⟩
    have hreturns : ∀ row ∈ table.rows, value "id" row = id →
        ((update A entityName id data).run (serve E visit schema) table).1 =
          (A.rowToJson schema ⟨row.set (assignments A data (updatedFields schema data))⟩ false).map
            .ok := by
      intro row hrow hid
      subst hid
      refine update_changed hschema hplain hkey hsome hrow fun hnone => ?_
      exact (changed_eq_zero_iff_of_mem hrow).1 hnone (hdiffers row hrow rfl)
    refine ⟨hreturns, fun hall => ?_, fun hmissing row hrow hid => ?_⟩
    · refine update_unchanged hschema hplain hkey hsome (changed_eq_zero_iff.2 ?_)
      exact fun row hrow hid => absurd hid (hall row hrow)
    · exact map_ok_ne ((hreturns row hrow hid).symm.trans hmissing)

end

end

/-- Notes. -/
def noteSchema : EntitySchema where
  name := "Note"
  fields := [{ name := "id", type := "uuid" }, { name := "title", type := "string" },
    { name := "createdAt", type := "timestamp" }]

def noteAdapter : SqlAdapter where
  dialect := .mySQL
  schemas _ := some noteSchema
  printReal _ _ := ""
  dump _ := ""
  parse _ := none
  stoll _ := .error "stoll"

/-- A database that numbers the rows and knows the time in seconds. -/
def noteEngine : Engine String where
  defaults rows := .ofList [("id", toString (rows.length + 1)), ("createdAt", "10:00:01")]
  rank := id

/-- A note that was made at this time. -/
def note (createdAt : String) : TableRow :=
  (Std.TreeMap.ofList [("title", "News"), ("createdAt", createdAt)]).insert "id" "1"

/-- One note. -/
def noteTable (createdAt : String) : Table "id" where
  rows := [note createdAt]
  isKey := by
    refine ⟨List.nodup_singleton _, List.forall_mem_singleton.2 ?_⟩
    rw [note, TableRow.value_insert, if_pos rfl]
    decide

theorem plainNames_note : PlainNames noteSchema where
  table := by decide +kernel
  quote := by decide
  mark := by decide

end MySQLAdapter
end Adapters
end Dbal
