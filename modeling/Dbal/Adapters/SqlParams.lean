/-
# Placeholders and parameters of `SqlAdapter`

The statement of an `INSERT` or of an `UPDATE` and the parameters that are bound to it are made by
two loops over the fields of the schema, each of which decides for itself what to leave out.  The
`id` is the first parameter of an `UPDATE` of `SqlAdapter`, whose placeholder `$1` comes last, and
the last one of the MySQL adapter, which counts its placeholders.

`quoteId` does not double a quote in a name: the statements read as their templates where the names
of the schema have none.
-/

import Dbal.Adapters.SqlAdapterTemplates
import Dbal.Adapters.SqlWrites

namespace Dbal
namespace Adapters

open Sql
open SqlWhereBuilder (placed numbered WritesAll)
open SQLiteQueryBuilder (Role equalsPieces name slots_singletons)

namespace SqlAdapter

/-! ### Fields and parameters -/

variable (A : SqlAdapter) {schema : EntitySchema} {data : Json}

theorem suppliedId_eq_some {id : String} (h : suppliedId data = some id) :
    data.find? "id" = some (.str id) := by
  unfold suppliedId at h
  split at h
  · next s hfind =>
      split_ifs at h
      rw [hfind, Option.some.inj h]
  · cases h

/-- A field that is inserted is in the record. -/
theorem contains_of_inserted {field : EntityField} (h : field ∈ insertedFields schema data) :
    data.contains field.name = true := by
  have hif := (List.mem_filter.1 h).2
  split_ifs at hif with hcreated hid
  · obtain ⟨id, hsupplied⟩ := Option.isSome_iff_exists.1 hif
    rw [Json.contains, hid, suppliedId_eq_some hsupplied]
    rfl
  · exact hif

/-- **The parameters of an insert are those of the fields that it names.** -/
theorem insertParams_eq (schema : EntitySchema) (data : Json) :
    A.jsonToParams schema data "" = (insertedFields schema data).map (A.fieldParam data) := by
  rw [jsonToParams, if_pos rfl, insertedFields, ← List.filterMap_eq_map, List.filterMap_filter]
  refine List.filterMap_congr fun field _ => ?_
  rw [insertParam]
  by_cases hcreated : field.name = "createdAt"
  · rw [if_pos hcreated, if_pos hcreated, if_neg Bool.false_ne_true]
  rw [if_neg hcreated, if_neg hcreated]
  by_cases hid : field.name = "id"
  · rw [if_pos hid, if_pos hid]
    cases hsupplied : suppliedId data with
    | none => rfl
    | some id =>
        have hfind := suppliedId_eq_some hsupplied
        rw [Option.isSome_some, if_pos rfl, Function.comp_apply, fieldParam, hid, hfind]
        rfl
  · rw [if_neg hid, if_neg hid]
    rfl

/-- The parameter that a placeholder stands for. -/
def meant (data : Json) (id : String) : Role → Option SqlParam
  | .id => some ⟨"id", id⟩
  | .column name => (data.find? name).map fun value => ⟨name, A.jsonValueToString value⟩
  | _ => none

/-- The columns that are written. -/
def columnRoles (fields : List EntityField) : List Role := fields.map fun field => .column field.name

theorem meant_columns (id : String) {fields : List EntityField}
    (h : ∀ field ∈ fields, data.contains field.name = true) :
    (columnRoles fields).map (A.meant data id) = (fields.map (A.fieldParam data)).map some := by
  rw [columnRoles, List.map_map, List.map_map]
  refine List.map_congr_left fun field hfield => ?_
  obtain ⟨value, hvalue⟩ := Option.isSome_iff_exists.1 (h field hfield)
  simp only [Function.comp_apply, meant, fieldParam, hvalue, Option.map_some, Option.getD_some]

/-! ### Templates -/

/-- The columns and their placeholders. -/
def assignedPieces (fields : List EntityField) : List (Piece Role) :=
  joinPieces .comma (fields.map fun field => equalsPieces field.name (.column field.name))

/-- The columns. -/
def namePieces (fields : List EntityField) : List (Piece Role) :=
  joinPieces .comma (fields.map fun field => name field.name)

/-- Their placeholders. -/
def markPieces (fields : List EntityField) : List (Piece Role) :=
  joinPieces .comma ((columnRoles fields).map fun role => [.slot role])

/-- What an `INSERT` of these columns is to read as. -/
def insertTokens (d table : String) (fields : List EntityField) : List Token :=
  [.word "INSERT", .word "INTO", .ident table, .lparen] ++ tokensOf (namePieces fields) ++
    [.rparen, .word "VALUES", .lparen] ++ placed d 1 (markPieces fields) ++ [.rparen]

/-- What an `UPDATE` of these columns is to read as; their first placeholder has the number `k`, and
that of the `id` the number `i`. -/
def updateTokens (d table : String) (fields : List EntityField) (k i : Nat) : List Token :=
  [.word "UPDATE", .ident table, .word "SET"] ++ placed d k (assignedPieces fields) ++
    .kw .where :: placed d i (equalsPieces "id" .id)

/-- The list of columns that a statement returns. -/
def returningTokens (printReal : Int → Int → String) (dialect : Dialect) (schema : EntitySchema) :
    List Token :=
  .word "RETURNING" :: fieldListTokens printReal dialect schema

/-- **The placeholders of a template have consecutive numbers**, or none. -/
theorem placeholders_placed (d : String) : ∀ (ps : List (Piece Role)) (k : Nat),
    placeholders (placed d k ps) =
      (List.range' k (slots ps).length).map fun i => if numbered d then some i else none
  | [], k => by rw [SqlWhereBuilder.placed_nil]; rfl
  | p :: ps, k => by
      have ih := placeholders_placed d ps
      by_cases hp : slots [p] = []
      · have hnone : placeholders [p.token] = [] :=
          List.length_eq_zero_iff.1 ((length_placeholders_tokensOf [p]).trans (by rw [hp]; rfl))
        rw [SqlWhereBuilder.placed_cons hp, ← List.singleton_append, placeholders_append, hnone,
          slots_cons hp]
        exact ih k
      · cases p with
        | slot role =>
            rw [SqlWhereBuilder.placed_slot, SqlWhereBuilder.phToken, placeholders, ih (k + 1)]
            simp only [slots, List.length_cons, List.range'_succ, List.map_cons]
        | _ => exact absurd rfl hp

theorem slots_assignedPieces (fields : List EntityField) :
    slots (assignedPieces fields) = columnRoles fields := by
  rw [assignedPieces, slots_joinPieces rfl, List.flatMap_map]
  exact List.map_eq_flatMap.symm

theorem slots_markPieces (fields : List EntityField) :
    slots (markPieces fields) = columnRoles fields := slots_singletons _

theorem placeholders_namePieces (fields : List EntityField) :
    placeholders (tokensOf (namePieces fields)) = [] := by
  refine List.length_eq_zero_iff.1 ((length_placeholders_tokensOf _).trans ?_)
  rw [namePieces, slots_joinPieces rfl, List.flatMap_map]
  exact List.length_eq_zero_iff.2 (List.flatMap_eq_nil_iff.2 fun _ _ => rfl)

/-- A placeholder with this number, as the dialect writes it. -/
def mark (d : String) (i : Nat) : Option Nat := if numbered d then some i else none

theorem placeholders_insertTokens (d table : String) (fields : List EntityField) :
    placeholders (insertTokens d table fields) = (List.range' 1 fields.length).map (mark d) := by
  have hmarks := placeholders_placed d (markPieces fields) 1
  rw [slots_markPieces, columnRoles, List.length_map] at hmarks
  simp only [insertTokens, placeholders_append, placeholders_namePieces, hmarks, placeholders,
    List.nil_append, List.append_nil]
  rfl

theorem placeholders_updateTokens (d table : String) (fields : List EntityField) (k i : Nat) :
    placeholders (updateTokens d table fields k i) =
      (List.range' k fields.length).map (mark d) ++ [mark d i] := by
  have hcolumns := placeholders_placed d (assignedPieces fields) k
  have hid := placeholders_placed d (equalsPieces "id" .id) i
  rw [slots_assignedPieces, columnRoles, List.length_map] at hcolumns
  simp only [updateTokens, placeholders_append, hcolumns, hid, placeholders, List.nil_append]
  rfl

/-! ### Texts -/

section

variable {dialect : Dialect}

/-- Numbered placeholders. -/
theorem marks_write : ∀ (fields : List EntityField) (k : Nat),
    WritesAll dialect.name k ((fields.zipIdx k).map fun entry => placeholder dialect entry.2)
      ((columnRoles fields).map fun role => [.slot role])
  | [], _ => .nil
  | field :: fields, k => by
      have hph := SqlWhereBuilder.spells_ph dialect.name k
      rw [← placeholder_eq] at hph
      rw [List.zipIdx_cons, List.map_cons]
      refine .cons (hph.congr rfl ?_) (marks_write fields (k + 1))
      rw [SqlWhereBuilder.placed_slot, SqlWhereBuilder.placed_nil]

theorem spells_names (fields : List EntityField) :
    Spells (quote dialect) (joinFragments (fields.map fun field => quoteId dialect field.name) ", ")
      (tokensOf (namePieces fields)) :=
  spells_commas (isQuote dialect) fields fun field _ => spells_quoteId dialect field.name

/-- The table, the columns and their placeholders. -/
theorem spells_insert (table : String) (fields : List EntityField) :
    Spells (quote dialect)
      ("INSERT INTO" ++ " " ++ quoteId dialect table ++ " (" ++
        joinFragments (fields.map fun field => quoteId dialect field.name) ", " ++ ")" ++ " " ++
        ("VALUES" ++ " (" ++
          joinFragments ((fields.zipIdx 1).map fun entry => placeholder dialect entry.2) ", " ++ ")"))
      (insertTokens dialect.name table fields) := by
  have hq := isQuote dialect
  have hinto : Spells (quote dialect) "INSERT INTO" [.word "INSERT", .word "INTO"] :=
    .fixed hq (by decide)
  have hvalues : Spells (quote dialect) "VALUES" [.word "VALUES"] := .fixed hq (by decide)
  have hmarks := (@marks_write dialect fields 1).commas
  have htable := (hinto.blank hq (spells_quoteId dialect table)).bracket_blank hq
    (spells_names fields)
  refine (htable.blank hq (hvalues.bracket_blank hq hmarks)).congr rfl ?_
  simp [insertTokens, markPieces]

/-- The table, the columns that are set, and the row. -/
theorem spells_update (table : String) (fields : List EntityField) (k i : Nat) :
    Spells (quote dialect)
      ("UPDATE" ++ " " ++ quoteId dialect table ++ " SET " ++
        joinFragments ((fields.zipIdx k).map fun entry =>
          memberFragment dialect (quoteId dialect entry.1.name) entry.2) ", " ++ " WHERE " ++
        memberFragment dialect (quoteId dialect "id") i)
      (updateTokens dialect.name table fields k i) := by
  have hq := isQuote dialect
  have hupdate : Spells (quote dialect) "UPDATE" [.word "UPDATE"] := .fixed hq (by decide)
  have hset : Spells (quote dialect) "SET" [.word "SET"] := .fixed hq (by decide)
  have hwhere : Spells (quote dialect) "WHERE" [.kw .where] := .fixed hq (by decide)
  have heq : Spells (quote dialect) "=" [.eq] := .fixed hq (by decide)
  have hassign := (@members_write dialect _ (fun field : EntityField => field.name)
    (fun field => .column field.name) fields k).commas
  have hph := SqlWhereBuilder.spells_ph dialect.name i
  rw [← placeholder_eq] at hph
  have hid := (spells_quoteId dialect "id").word hq heq hph (rfl : " = " = " " ++ "=" ++ " ")
  have hlead := (hupdate.blank hq (spells_quoteId dialect table)).word hq hset hassign
    (rfl : " SET " = " " ++ "SET" ++ " ")
  refine (hlead.word hq hwhere hid (rfl : " WHERE " = " " ++ "WHERE" ++ " ")).congr rfl ?_
  simp [updateTokens, assignedPieces, equalsPieces, CmpOp.token]

theorem unquoted_insertTokens {q : Char} {d table : String} {fields : List EntityField}
    (htable : q ∉ table.toList) (hfields : ∀ field ∈ fields, q ∉ field.name.toList) :
    Unquoted q (insertTokens d table fields) := by
  have hnames : Unquoted q (tokensOf (namePieces fields)) := by
    refine unquoted_tokensOf.2 fun column hcolumn => ?_
    obtain ⟨ps, hps, hcolumn⟩ := (mem_names_joinPieces rfl).1 hcolumn
    obtain ⟨field, hfield, rfl⟩ := List.mem_map.1 hps
    obtain rfl := List.mem_singleton.1 hcolumn
    exact hfields field hfield
  have hmarks : Unquoted q (placed d 1 (markPieces fields)) := by
    refine SqlWhereBuilder.unquoted_placed.2 fun column hcolumn => ?_
    obtain ⟨ps, hps, hcolumn⟩ := (mem_names_joinPieces rfl).1 hcolumn
    obtain ⟨role, -, rfl⟩ := List.mem_map.1 hps
    cases hcolumn
  simp only [insertTokens, Unquoted.append]
  exact ⟨⟨⟨⟨by simp [Unquoted, htable], hnames⟩, by simp [Unquoted]⟩, hmarks⟩, by simp [Unquoted]⟩

theorem unquoted_updateTokens {q : Char} (hid : q ∉ "id".toList) {d table : String}
    {fields : List EntityField} {k i : Nat} (htable : q ∉ table.toList)
    (hfields : ∀ field ∈ fields, q ∉ field.name.toList) :
    Unquoted q (updateTokens d table fields k i) := by
  have hcolumns : Unquoted q (placed d k (assignedPieces fields)) := by
    refine SqlWhereBuilder.unquoted_placed.2 fun column hcolumn => ?_
    obtain ⟨ps, hps, hcolumn⟩ := (mem_names_joinPieces rfl).1 hcolumn
    obtain ⟨field, hfield, rfl⟩ := List.mem_map.1 hps
    obtain rfl := List.mem_singleton.1 hcolumn
    exact hfields field hfield
  have hrow : Unquoted q (placed d i (equalsPieces "id" .id)) := by
    refine SqlWhereBuilder.unquoted_placed.2 fun column hcolumn => ?_
    obtain rfl := List.mem_singleton.1 hcolumn
    exact hid
  have hcons : updateTokens d table fields k i =
      [.word "UPDATE", .ident table, .word "SET"] ++ placed d k (assignedPieces fields) ++
        [.kw .where] ++ placed d i (equalsPieces "id" .id) := by simp [updateTokens]
  simp only [hcons, Unquoted.append]
  exact ⟨⟨⟨by simp [Unquoted, htable], hcolumns⟩, by simp [Unquoted]⟩, hrow⟩

end

theorem id_unquoted (dialect : Dialect) : quote dialect ∉ "id".toList := by
  rcases isQuote dialect with hq | hq <;> rw [hq] <;> decide

/-! ### Agreement -/

/-- **A statement and its parameters agree**: the text reads as these tokens, it has as many
placeholders as there are parameters, and the placeholders take what they stand for, one by one. -/
structure Agrees (q : Char) (data : Json) (id : String) (statement : Statement)
    (ts : List Token) (roles : List Role) : Prop where
  reads : tokens q statement.sql.toList = some ts
  count : (placeholders ts).length = statement.params.length
  takes : bindings statement.params 0 (placeholders ts) = roles.map (A.meant data id)

theorem map_mark_numbered {d : String} (hd : numbered d = true) (ns : List Nat) :
    ns.map (mark d) = ns.map some := by
  refine List.map_congr_left fun n _ => ?_
  rw [mark, hd, if_pos rfl]

theorem map_mark_bare {d : String} (hd : numbered d = false) (ns : List Nat) :
    ns.map (mark d) = List.replicate ns.length none := by
  have hmark : mark d = fun _ => none := by
    funext n
    rw [mark, hd, if_neg Bool.false_ne_true]
  rw [hmark, List.map_const']

/-- A plain schema none of whose defaults has a placeholder in it: a numeric default goes into the
statement as it is. -/
structure PlainWrites (printReal : Int → Int → String) (dialect : Dialect)
    (schema : EntitySchema) : Prop extends PlainSchema printReal dialect schema where
  unmarked : ∀ field ∈ schema.fields, isNumeric field.type = true →
    ∀ default, field.defaultValue = some default →
      placeholders ((tokens (quote dialect) (default.text printReal).toList).getD []) = []

theorem placeholders_joinTokens : ∀ {tss : List (List Token)},
    (∀ ts ∈ tss, placeholders ts = []) → placeholders (joinTokens .comma tss) = []
  | [], _ => rfl
  | [ts], h => h ts List.mem_cons_self
  | ts :: us :: tss, h => by
      obtain ⟨hts, hrest⟩ := List.forall_mem_cons.1 h
      rw [joinTokens, placeholders_append, hts]
      exact placeholders_joinTokens hrest

/-- The list of columns has no placeholder. -/
theorem placeholders_returning {printReal : Int → Int → String} {dialect : Dialect}
    (h : PlainWrites printReal dialect schema) :
    placeholders (returningTokens printReal dialect schema) = [] := by
  have hdefault : ∀ field ∈ schema.fields, ∀ default, field.defaultValue = some default →
      placeholders (defaultTokens dialect field.type (default.text printReal)) = [] := by
    intro field hfield default hdefault
    unfold defaultTokens
    split_ifs with hbool hval hnum hempty
    · rfl
    · rfl
    · rcases isQuote dialect with hq | hq <;> rw [hq] <;> decide
    · exact h.unmarked field hfield hnum default hdefault
    · rfl
  refine placeholders_joinTokens (List.forall_mem_map.2 fun field hfield => ?_)
  unfold columnTokens
  split
  · next default _ hsome =>
      simp only [placeholders_append, hdefault field hfield default hsome, placeholders,
        List.append_nil]
  · rfl

theorem unquoted_returning {printReal : Int → Int → String} {dialect : Dialect}
    (h : PlainWrites printReal dialect schema) :
    Unquoted (quote dialect) (returningTokens printReal dialect schema) := by
  rw [returningTokens, ← List.singleton_append, Unquoted.append]
  exact ⟨by simp [Unquoted], (spells_fieldList h.toPlainSchema).2⟩

theorem numbered_of_ne {dialect : Dialect} (h : dialect ≠ .mySQL) : numbered dialect.name = true := by
  cases dialect with
  | mySQL => exact absurd rfl h
  | _ => rfl

variable {A} in
/-- **The insert of a numbered dialect agrees with its parameters.** -/
theorem insert_agrees (hdialect : A.dialect ≠ .mySQL)
    (hplain : PlainWrites A.printReal A.dialect schema) (id : String) :
    A.Agrees (quote A.dialect) data id (A.insertStatement schema data)
      (insertTokens A.dialect.name schema.name (insertedFields schema data) ++
        returningTokens A.printReal A.dialect schema)
      (columnRoles (insertedFields schema data)) := by
  have hq := isQuote A.dialect
  have hparams : (A.insertStatement schema data).params =
      (insertedFields schema data).map (A.fieldParam data) := A.insertParams_eq schema data
  have hplaceholders : placeholders
      (insertTokens A.dialect.name schema.name (insertedFields schema data) ++
        returningTokens A.printReal A.dialect schema) =
      (List.range' 1 ((insertedFields schema data).map (A.fieldParam data)).length).map some := by
    rw [placeholders_append, placeholders_insertTokens, placeholders_returning hplain,
      List.append_nil, map_mark_numbered (numbered_of_ne hdialect), List.length_map]
  constructor
  · have hreturning : Spells (quote A.dialect) "RETURNING" [.word "RETURNING"] :=
      .fixed hq (by decide)
    have hall := (@spells_insert A.dialect schema.name (insertedFields schema data)).blank hq
      (hreturning.blank hq (spells_fieldList hplain.toPlainSchema).1)
    refine (hall.congr ?_ rfl).reads ?_
    · refine String.toList_inj.1 ?_
      simp [insertStatement, buildInsertSql]
    · rw [Unquoted.append]
      exact ⟨unquoted_insertTokens hplain.table fun field hfield =>
        hplain.fields field (List.mem_of_mem_filter hfield), unquoted_returning hplain⟩
  · rw [hplaceholders, hparams, List.length_map, List.length_range']
  · have htakes := @bindings_numbered _ ((insertedFields schema data).map (A.fieldParam data)) [] 0 []
      [] _ (List.append_nil _).symm
    rw [List.append_nil] at htakes
    rw [hplaceholders, hparams, A.meant_columns id fun field => contains_of_inserted]
    exact htakes.trans (List.append_nil _)

theorem updatedFields_contains {field : EntityField} (h : field ∈ updatedFields schema data) :
    data.contains field.name = true :=
  (Bool.and_eq_true_iff.1 (List.mem_filter.1 h).2).2

/-- A statement with something to set. -/
theorem buildUpdateSql_eq (h : updatedFields schema data ≠ []) :
    A.buildUpdateSql schema data =
      "UPDATE " ++ (quoteId A.dialect schema.name ++ " SET " ++
        joinFragments (((updatedFields schema data).zipIdx 2).map fun entry =>
          memberFragment A.dialect (quoteId A.dialect entry.1.name) entry.2) ", " ++
        " WHERE " ++ memberFragment A.dialect (quoteId A.dialect "id") 1 ++
        " RETURNING " ++ buildFieldList A.printReal A.dialect schema) := by
  rw [buildUpdateSql]
  refine if_neg fun hnil => h ?_
  have hlength := congrArg List.length hnil
  rw [List.length_map, List.length_zipIdx] at hlength
  exact List.length_eq_zero_iff.1 hlength

theorem buildUpdateSql_of_nil (h : updatedFields schema data = []) :
    A.buildUpdateSql schema data = "" := by
  rw [buildUpdateSql, h]
  rfl

variable {A} in
/-- **The update of a numbered dialect agrees with its parameters.** -/
theorem update_agrees (hdialect : A.dialect ≠ .mySQL)
    (hplain : PlainWrites A.printReal A.dialect schema) {id : String} (hid : id ≠ "")
    (hsome : updatedFields schema data ≠ []) :
    A.Agrees (quote A.dialect) data id (A.updateStatement schema id data)
      (updateTokens A.dialect.name schema.name (updatedFields schema data) 2 1 ++
        returningTokens A.printReal A.dialect schema)
      (columnRoles (updatedFields schema data) ++ [.id]) := by
  have hq := isQuote A.dialect
  have hparams : (A.updateStatement schema id data).params =
      ⟨"id", id⟩ :: (updatedFields schema data).map (A.fieldParam data) := if_neg hid
  have hplaceholders : placeholders
      (updateTokens A.dialect.name schema.name (updatedFields schema data) 2 1 ++
        returningTokens A.printReal A.dialect schema) =
      (List.range' 2 ((updatedFields schema data).map (A.fieldParam data)).length).map some ++
        [some 1] := by
    rw [placeholders_append, placeholders_updateTokens, placeholders_returning hplain,
      List.append_nil, map_mark_numbered (numbered_of_ne hdialect), List.length_map, mark,
      numbered_of_ne hdialect, if_pos rfl]
  constructor
  · have hreturning : Spells (quote A.dialect) "RETURNING" [.word "RETURNING"] :=
      .fixed hq (by decide)
    have hall := (@spells_update A.dialect schema.name (updatedFields schema data) 2 1).blank hq
      (hreturning.blank hq (spells_fieldList hplain.toPlainSchema).1)
    refine (hall.congr ?_ rfl).reads ?_
    · refine String.toList_inj.1 ?_
      simp [updateStatement, A.buildUpdateSql_eq hsome]
    · rw [Unquoted.append]
      exact ⟨unquoted_updateTokens (id_unquoted A.dialect) hplain.table fun field hfield =>
        hplain.fields field (List.mem_of_mem_filter hfield), unquoted_returning hplain⟩
  · rw [hplaceholders, hparams, List.length_append, List.length_map, List.length_range',
      List.length_cons]
    rfl
  · have htakes := @bindings_numbered _ (⟨"id", id⟩ ::
      (updatedFields schema data).map (A.fieldParam data)) [] 0 [some 1] [⟨"id", id⟩] _
      (List.append_nil _).symm
    rw [hplaceholders, hparams, List.map_append,
      A.meant_columns id fun field => updatedFields_contains]
    exact htakes

end SqlAdapter

namespace MySQLAdapter

open SqlAdapter

variable {A : SqlAdapter} {schema : EntitySchema} {data : Json}

theorem map_zipIdx {α β : Type} (f : α → β) (l : List α) (k : Nat) :
    ((l.zipIdx k).map fun entry => f entry.1) = l.map f := by
  have hmap : ((l.zipIdx k).map fun entry => f entry.1) = ((l.zipIdx k).map Prod.fst).map f :=
    List.map_map.symm
  rw [hmap, List.zipIdx_map_fst]

theorem memberFragment_eq (column : String) (i : Nat) :
    memberFragment .mySQL (quoteId .mySQL column) i = "`" ++ column ++ "` = ?" :=
  String.toList_inj.1 (by simp [memberFragment, quoteId, placeholder])

/-- Placeholders without numbers take the parameters as they come. -/
theorem agrees_bare {id : String} {statement : Statement} {ts : List Token} {roles : List Role}
    (hreads : tokens (quote .mySQL) statement.sql.toList = some ts)
    (hplaceholders : placeholders ts = List.replicate statement.params.length none)
    (hmeant : roles.map (A.meant data id) = statement.params.map some) :
    A.Agrees (quote .mySQL) data id statement ts roles where
  reads := hreads
  count := by rw [hplaceholders, List.length_replicate]
  takes := by
    rw [hplaceholders, hmeant]
    exact @bindings_bare _ _ [] _ rfl

/-- **The insert of the MySQL adapter agrees with its parameters.** -/
theorem insert_agrees (htable : quote .mySQL ∉ schema.name.toList)
    (hfields : ∀ field ∈ schema.fields, quote .mySQL ∉ field.name.toList) (id : String) :
    A.Agrees (quote .mySQL) data id (insertStatement A schema data)
      (insertTokens Dialect.mySQL.name schema.name (insertedFields schema data))
      (columnRoles (insertedFields schema data)) := by
  refine agrees_bare ?_ ?_ (A.meant_columns id fun field hfield => (List.mem_filter.1 hfield).2)
  · have hall := @spells_insert .mySQL schema.name (insertedFields schema data)
    refine (hall.congr ?_ rfl).reads ?_
    · refine String.toList_inj.1 ?_
      have hmarks := map_zipIdx (fun _ : EntityField => "?") (insertedFields schema data) 1
      simp [insertStatement, quoteId, placeholder, hmarks]
    · exact unquoted_insertTokens htable fun field hfield =>
        hfields field (List.mem_of_mem_filter hfield)
  · rw [placeholders_insertTokens, map_mark_bare rfl, List.length_range', insertStatement,
      List.length_map]

/-- **The update of the MySQL adapter agrees with its parameters**, of which the `id` is the last. -/
theorem update_agrees (htable : quote .mySQL ∉ schema.name.toList)
    (hfields : ∀ field ∈ schema.fields, quote .mySQL ∉ field.name.toList) (id : String) :
    A.Agrees (quote .mySQL) data id (updateStatement A schema id data)
      (updateTokens Dialect.mySQL.name schema.name (updatedFields schema data) 1 1)
      (columnRoles (updatedFields schema data) ++ [.id]) := by
  refine agrees_bare ?_ ?_ ?_
  · have hall := @spells_update .mySQL schema.name (updatedFields schema data) 1 1
    refine (hall.congr ?_ rfl).reads ?_
    · have hset := map_zipIdx (fun field : EntityField => "`" ++ field.name ++ "` = ?")
        (updatedFields schema data) 1
      simp only [memberFragment_eq, hset, updateStatement, setFragments]
      refine String.toList_inj.1 ?_
      simp [quoteId]
    · exact unquoted_updateTokens (id_unquoted .mySQL) htable fun field hfield =>
        hfields field (List.mem_of_mem_filter hfield)
  · rw [placeholders_updateTokens, map_mark_bare rfl, List.length_range', updateStatement,
      List.length_append, List.length_map, List.length_singleton, List.replicate_succ']
    rfl
  · rw [List.map_append, A.meant_columns id fun field => updatedFields_contains, updateStatement,
      List.map_append]
    rfl

end MySQLAdapter

namespace SqlAdapter

theorem quote_not_mem_of_valid {table : String} (h : MySQLAdapter.isValidIdentifier table = true) :
    quote .mySQL ∉ table.toList := by
  intro hmem
  rw [MySQLAdapter.isValidIdentifier, Bool.and_eq_true, List.all_eq_true] at h
  exact absurd (h.2 _ hmem) (by decide)

/-- **The inserts and updates of `SqlAdapter` agree with their parameters**: those that number their
placeholders, and those of the MySQL adapter.  With nothing to set there is no statement, and the
MySQL adapter sends none either for a table whose name is no identifier. -/
theorem writes_agree (A : SqlAdapter) (schema : EntitySchema) (data : Json) (id : String)
    (hid : id ≠ "") :
    (A.dialect ≠ .mySQL → PlainWrites A.printReal A.dialect schema →
      A.Agrees (quote A.dialect) data id (A.insertStatement schema data)
          (insertTokens A.dialect.name schema.name (insertedFields schema data) ++
            returningTokens A.printReal A.dialect schema)
          (columnRoles (insertedFields schema data)) ∧
        (updatedFields schema data ≠ [] →
          A.Agrees (quote A.dialect) data id (A.updateStatement schema id data)
            (updateTokens A.dialect.name schema.name (updatedFields schema data) 2 1 ++
              returningTokens A.printReal A.dialect schema)
            (columnRoles (updatedFields schema data) ++ [.id])) ∧
        (updatedFields schema data = [] → A.buildUpdateSql schema data = "")) ∧
    (MySQLAdapter.isValidIdentifier schema.name = true →
      (∀ field ∈ schema.fields, quote .mySQL ∉ field.name.toList) →
      A.Agrees (quote .mySQL) data id (MySQLAdapter.insertStatement A schema data)
          (insertTokens Dialect.mySQL.name schema.name (MySQLAdapter.insertedFields schema data))
          (columnRoles (MySQLAdapter.insertedFields schema data)) ∧
        (updatedFields schema data ≠ [] →
          A.Agrees (quote .mySQL) data id (MySQLAdapter.updateStatement A schema id data)
            (updateTokens Dialect.mySQL.name schema.name (updatedFields schema data) 1 1)
            (columnRoles (updatedFields schema data) ++ [.id])) ∧
        (updatedFields schema data = [] → ∀ entityName, A.schemas entityName = some schema →
          MySQLAdapter.update A entityName id data =
            reply (.error (.validationError "No fields to update")))) ∧
    (MySQLAdapter.isValidIdentifier schema.name = false →
      ∀ entityName, A.schemas entityName = some schema →
        MySQLAdapter.create A entityName data =
            reply (.error (.validationError ("Invalid entity name: " ++ schema.name))) ∧
          MySQLAdapter.update A entityName id data =
            reply (.error (.validationError ("Invalid entity name: " ++ schema.name)))) := by
  refine ⟨fun hdialect hplain => ⟨insert_agrees hdialect hplain id,
    update_agrees hdialect hplain hid, A.buildUpdateSql_of_nil⟩, fun hvalid hfields => ?_,
    fun hinvalid entityName hschema => ?_⟩
  · have htable := quote_not_mem_of_valid hvalid
    exact ⟨MySQLAdapter.insert_agrees htable hfields id,
      fun _ => MySQLAdapter.update_agrees htable hfields id,
      fun hnil entityName hschema => MySQLAdapter.update_nothing hschema hvalid hnil id⟩
  · exact ⟨MySQLAdapter.knowing_invalid hschema hinvalid _,
      MySQLAdapter.knowing_invalid hschema hinvalid _⟩

/-- Posts, with a column of this name. -/
def postSchema (column : String) : EntitySchema where
  name := "Post"
  fields := [{ name := "id", type := "uuid" }, { name := column, type := "string" }]

def postAdapter (column : String) : SqlAdapter where
  dialect := .postgres
  schemas _ := some (postSchema column)
  printReal _ _ := ""
  dump _ := ""
  parse _ := none
  stoll _ := .error "stoll"

theorem title_writes_agree :
    let data := Json.obj [("id", .str "p1"), ("title", .str "News")]
    (postAdapter "title").Agrees '"' data "p1"
        ((postAdapter "title").insertStatement (postSchema "title") data)
        [.word "INSERT", .word "INTO", .ident "Post", .lparen, .ident "id", .comma, .ident "title",
          .rparen, .word "VALUES", .lparen, .param (some 1), .comma, .param (some 2), .rparen,
          .word "RETURNING", .ident "id", .comma, .ident "title"]
        [.column "id", .column "title"] ∧
      (postAdapter "title").Agrees '"' data "p1"
        ((postAdapter "title").updateStatement (postSchema "title") "p1" data)
        [.word "UPDATE", .ident "Post", .word "SET", .ident "title", .eq, .param (some 2),
          .kw .where, .ident "id", .eq, .param (some 1),
          .word "RETURNING", .ident "id", .comma, .ident "title"]
        [.column "title", .id] ∧
      (postAdapter "title").Agrees (quote .mySQL) data "p1"
        (MySQLAdapter.updateStatement (postAdapter "title") (postSchema "title") "p1" data)
        [.word "UPDATE", .ident "Post", .word "SET", .ident "title", .eq, .param none,
          .kw .where, .ident "id", .eq, .param none]
        [.column "title", .id] := by
  intro data
  have hagree := writes_agree (postAdapter "title") (postSchema "title") data "p1" (by decide)
  have hplain : PlainWrites (postAdapter "title").printReal .postgres (postSchema "title") := by
    have hnone : ∀ field ∈ (postSchema "title").fields, isNumeric field.type = false := by decide
    refine ⟨⟨by decide, by decide, fun field hfield hnum => ?_⟩, fun field hfield hnum => ?_⟩
    · exact absurd ((hnone field hfield).symm.trans hnum) Bool.false_ne_true
    · exact absurd ((hnone field hfield).symm.trans hnum) Bool.false_ne_true
  obtain ⟨hinsert, hupdate, -⟩ := hagree.1 (by decide) hplain
  obtain ⟨-, hmysql, -⟩ := hagree.2.1 (by decide +kernel) (by decide)
  have hsome : updatedFields (postSchema "title") data ≠ [] := by decide +kernel
  exact ⟨hinsert, hupdate hsome, hmysql hsome⟩

/-- **A column with a quote in its name is read as SQL**: the statement has more placeholders than
there are parameters. -/
theorem quoted_column_disagrees :
    let column := "title\" = $3, \"body"
    let data := Json.obj [(column, .str "News")]
    ((postAdapter column).buildUpdateSql (postSchema column) data =
        "UPDATE \"Post\" SET \"title\" = $3, \"body\" = $2 WHERE \"id\" = $1 RETURNING " ++
          "\"id\", \"title\" = $3, \"body\"") ∧
      (tokens '"' ((postAdapter column).buildUpdateSql (postSchema column) data).toList).map
          placeholders = some [some 3, some 2, some 1, some 3] ∧
      ((postAdapter column).jsonToParams (postSchema column) data "p1").length = 2 := by
  decide +kernel

end SqlAdapter
end Adapters
end Dbal
