/-
# The statements of SQLite as templates

What the texts of `SQLiteQueryBuilder` are to read as: the template of each statement, with the
value that each placeholder stands for, and that the text spells it (`Call.spells`).
-/

import Dbal.Adapters.SQLiteQueryBuilder
import Dbal.Adapters.SQLiteTypeConverter
import Dbal.Adapters.StatementText

namespace Dbal
namespace SQLiteQueryBuilder

open Dbal.Core (EntitySchema EntityField)
open Sql

/-- What a placeholder stands for. -/
inductive Role where
  | id
  /-- The value of a column that is written. -/
  | column (name : String)
  /-- A member of a filter given as JSON. -/
  | member (key : String)
  /-- An entry of the legacy filter. -/
  | legacy (key : String)
  /-- The operand of a condition with this index. -/
  | operand (cond : FilterCondition) (index : Nat)
  | limit
  | offset
  deriving DecidableEq, Repr

/-- The name of a table or column. -/
abbrev name (s : String) : List (Piece Role) := [.ident s]

/-- A column that equals what a placeholder stands for. -/
def equalsPieces (column : String) (role : Role) : List (Piece Role) :=
  [.ident column, .cmp .eq, .slot role]

/-! ### Templates -/

def fieldListPieces (schema : EntitySchema) : List (Piece Role) :=
  joinPieces .comma (schema.fields.map fun field => name field.name)

/-- The filter of a statement, with its keyword. -/
def filteredPieces (filter : Json) : List (Piece Role) :=
  if filter.isEmpty then []
  else .kw .where :: joinPieces (.kw .and)
    (filter.items.map fun (key, _) => equalsPieces key (.member key))

def assignmentPieces (field : EntityField) : List (Piece Role) :=
  equalsPieces field.name (.column field.name)

/-- The operand in a comparison. -/
def comparePieces (cond : FilterCondition) (op : CmpOp) : List (Piece Role) :=
  [.ident cond.field, .cmp op, .slot (.operand cond 0)]

/-- The operands of a list, in brackets. -/
def operandsPieces (cond : FilterCondition) : List (Piece Role) :=
  .lparen :: (joinPieces .comma
    ((List.range cond.values.length).map fun i => [.slot (.operand cond i)]) ++ [.rparen])

theorem slots_singletons (roles : List Role) :
    slots (joinPieces .comma (roles.map fun role => [.slot role])) = roles := by
  rw [slots_joinPieces rfl, List.flatMap_map]
  exact List.flatMap_singleton' roles

theorem slots_operandsPieces (cond : FilterCondition) :
    slots (operandsPieces cond) = (List.range cond.values.length).map (.operand cond) := by
  have hlist := slots_singletons ((List.range cond.values.length).map (Role.operand cond))
  rw [List.map_map] at hlist
  rw [operandsPieces, ← List.singleton_append, slots_append, slots_append]
  exact (List.append_nil _).trans hlist

def conditionPieces (cond : FilterCondition) : List (Piece Role) :=
  match cond.op with
  | .eq => comparePieces cond .eq
  | .ne => comparePieces cond .ne
  | .lt => comparePieces cond .lt
  | .lte => comparePieces cond .le
  | .gt => comparePieces cond .gt
  | .gte => comparePieces cond .ge
  | .like => [.ident cond.field, .kw .like, .slot (.operand cond 0)]
  | .iLike => [.word "LOWER", .lparen, .ident cond.field, .rparen, .kw .like, .word "LOWER", .lparen,
      .slot (.operand cond 0), .rparen]
  | .isNull => [.ident cond.field, .kw .is, .kw .null]
  | .isNotNull => [.ident cond.field, .kw .is, .kw .not, .kw .null]
  | .in => [.ident cond.field, .kw .in] ++ operandsPieces cond
  | .notIn => [.ident cond.field, .kw .not, .kw .in] ++ operandsPieces cond
  | .between => [.ident cond.field, .kw .between, .slot (.operand cond 0), .kw .and,
      .slot (.operand cond 1)]

theorem names_operandsPieces (cond : FilterCondition) : names (operandsPieces cond) = [] := by
  refine List.eq_nil_iff_forall_not_mem.2 fun name hname => ?_
  have hjoin : name ∈ names (joinPieces .comma
      ((List.range cond.values.length).map fun i => [Piece.slot (Role.operand cond i)])) := by
    simpa [operandsPieces, names] using hname
  obtain ⟨ps, hps, hname⟩ := (mem_names_joinPieces rfl).1 hjoin
  obtain ⟨i, -, rfl⟩ := List.mem_map.1 hps
  exact absurd hname List.not_mem_nil

/-- A condition names its field, once. -/
theorem names_conditionPieces (cond : FilterCondition) :
    names (conditionPieces cond) = [cond.field] := by
  rcases cond with ⟨field, op, value, values⟩
  cases op with
  | «in» => simp [conditionPieces, names, names_operandsPieces]
  | notIn => simp [conditionPieces, names, names_operandsPieces]
  | _ => rfl

/-- The conditions of a group in brackets, joined by `OR`. -/
def groupPieces (group : FilterGroup) : List (Piece Role) :=
  .lparen :: (joinPieces (.kw .or) (group.conditions.map conditionPieces) ++ [.rparen])

def wherePieces (options : ListOptions) : List (List (Piece Role)) :=
  options.filter.toList.map (fun (key, _) => equalsPieces key (.legacy key)) ++
    options.conditions.map conditionPieces ++
    (options.filterGroups.filter fun group => group.conditions ≠ []).map groupPieces

def whereClausePieces (options : ListOptions) : List (Piece Role) :=
  if wherePieces options = [] then []
  else .kw .where :: joinPieces (.kw .and) (wherePieces options)

def groupByPieces (options : ListOptions) : List (Piece Role) :=
  if options.groupBy = [] then []
  else [.word "GROUP", .word "BY"] ++ joinPieces .comma (options.groupBy.map name)

def aggregatePieces (agg : AggregateSpec) : List (Piece Role) :=
  [.word (aggFuncName agg.func), .lparen, .ident agg.field, .rparen, .word "AS",
    .ident agg.aliasName]

def selectPieces (schema : EntitySchema) (options : ListOptions) : List (Piece Role) :=
  if options.aggregates = [] then fieldListPieces schema
  else joinPieces .comma (options.groupBy.map name ++ options.aggregates.map aggregatePieces)

def orderPieces (entry : String × String) : List (Piece Role) :=
  [.ident entry.1, .word (if entry.2 = "asc" ∨ entry.2 = "ASC" then "ASC" else "DESC")]

def orderByPieces (options : ListOptions) : List (Piece Role) :=
  if options.sort.isEmpty then []
  else [.word "ORDER", .word "BY"] ++ joinPieces .comma (options.sort.toList.map orderPieces)

/-- A call of the builder. -/
inductive Call where
  | list (options : ListOptions)
  | count (options : ListOptions)
  | read (id : String)
  | remove (id : String)
  | insert (data : Json)
  | update (data : Json) (id : String)
  | updateMany (filter data : Json)
  | deleteMany (filter : Json)
  | findFirst (filter : Json)

namespace Call

/-- The filter of `read`. -/
def byId (id : String) : Json := .obj [("id", .str id)]

/-- The text that the builder makes. -/
def statement (schema : EntitySchema) : Call → String
  | list options => buildListQuery schema options
  | count options => buildCountQuery schema options
  | read id => buildSelectQuery schema (byId id)
  | remove _ => buildDeleteQuery schema
  | insert data => buildInsertQuery schema data
  | update data _ => buildUpdateQuery schema data
  | updateMany filter data => buildUpdateManyQuery schema filter data
  | deleteMany filter => buildDeleteManyQuery schema filter
  | findFirst filter => buildFindFirstQuery schema filter

/-- What it is to read as. -/
def template (schema : EntitySchema) : Call → List (Piece Role)
  | list options =>
      .word "SELECT" :: (selectPieces schema options ++ .word "FROM" :: .ident schema.name ::
        (whereClausePieces options ++ groupByPieces options ++ orderByPieces options ++
          [.word "LIMIT", .slot .limit, .word "OFFSET", .slot .offset]))
  | count options =>
      [.word "SELECT", .word "COUNT", .lparen, .star, .rparen, .word "FROM", .ident schema.name] ++
        whereClausePieces options ++ groupByPieces options
  | read id =>
      .word "SELECT" :: (fieldListPieces schema ++
        .word "FROM" :: .ident schema.name :: filteredPieces (byId id))
  | remove _ =>
      [.word "DELETE", .word "FROM", .ident schema.name, .kw .where] ++ equalsPieces "id" .id
  | insert data =>
      [.word "INSERT", .word "INTO", .ident schema.name, .lparen] ++
        joinPieces .comma ((suppliedFields schema data).map fun field => name field.name) ++
        [.rparen, .word "VALUES", .lparen] ++
        joinPieces .comma ((suppliedFields schema data).map fun field =>
          [.slot (.column field.name)]) ++ [.rparen]
  | update data _ =>
      [.word "UPDATE", .ident schema.name, .word "SET"] ++
        joinPieces .comma ((updatedFields schema data).map assignmentPieces) ++
        .kw .where :: equalsPieces "id" .id
  | updateMany filter data =>
      [.word "UPDATE", .ident schema.name, .word "SET"] ++
        joinPieces .comma ((suppliedFields schema data).map assignmentPieces) ++
        filteredPieces filter
  | deleteMany filter =>
      [.word "DELETE", .word "FROM", .ident schema.name] ++ filteredPieces filter
  | findFirst filter =>
      .word "SELECT" :: (fieldListPieces schema ++
        .word "FROM" :: .ident schema.name :: (filteredPieces filter ++ [.word "LIMIT", .num "1"]))

end Call

/-! ### The texts spell their templates -/

/-- The quote of SQLite. -/
theorem isQuote : IsQuote '"' := Or.inl rfl

theorem spells_quoteId (s : String) : Spells '"' (quoteId s) (tokensOf (name s)) :=
  .quoted isQuote (by simp [quoteId])

/-- A text of the builder's own. -/
theorem spells_text {s : String} {ts : List Token}
    (h : BothQuotes fun q => tokens q s.toList = some ts ∧ q ∉ s.toList) :
    Spells '"' s ts := .fixed isQuote h

/-- A name before such a text. -/
theorem spells_name_before (s : String) {w tail : String} {tw : List Token} (hw : Spells '"' w tw)
    (htail : tail = " " ++ w) : Spells '"' (quoteId s ++ tail) (.ident s :: tw) :=
  (spells_quoteId s).before isQuote hw htail

theorem spells_equals (column : String) (role : Role) :
    Spells '"' (quoteId column ++ " = ?") (tokensOf (equalsPieces column role)) := by
  have heq : Spells '"' "= ?" [.eq, .param none] := spells_text (by decide)
  exact spells_name_before column heq rfl

theorem spells_fieldList (schema : EntitySchema) :
    Spells '"' (buildFieldList schema) (tokensOf (fieldListPieces schema)) :=
  spells_commas isQuote schema.fields fun field _ => spells_quoteId field.name

theorem spells_filtered (filter : Json) :
    SpellsClause '"' (filtered filter) (tokensOf (filteredPieces filter)) := by
  rw [filtered, filteredPieces]
  split_ifs
  · exact Or.inl ⟨rfl, rfl⟩
  · have hwhere : Spells '"' "WHERE" [.kw .where] := spells_text (by decide)
    have hjoin := spells_ands isQuote (f := fun (key, _) => quoteId key ++ " = ?")
      (g := fun (key, _) => equalsPieces key (.member key)) filter.items
      fun entry _ => spells_equals entry.1 _
    refine Or.inr ⟨"WHERE " ++ buildWhereClause filter, ?_, hwhere.after isQuote hjoin rfl⟩
    rw [← String.append_assoc]
    rfl

/-- The question marks of a list. -/
theorem spells_operands (cond : FilterCondition) {a w : String} {ta : List Token}
    (ha : Spells '"' a ta) (hw : w = a ++ " (") :
    Spells '"' (w ++ joinFragments (cond.values.map fun _ => "?") ", " ++ ")")
      (ta ++ tokensOf (operandsPieces cond)) := by
  have hmark : Spells '"' "?" [.param none] := spells_text (by decide)
  have hjoin := spells_commas isQuote (f := fun _ => "?")
    (g := fun i => [Piece.slot (Role.operand cond i)]) (List.range cond.values.length)
    fun _ _ => hmark
  have hmap : cond.values.map (fun _ => "?") = (List.range cond.values.length).map fun _ => "?" := by
    rw [List.map_const', List.map_const', List.length_range]
  rw [hw, hmap]
  have h := ha.bracket_blank isQuote hjoin
  simpa [operandsPieces, Piece.token] using h

/-- **A condition spells its template.** -/
theorem spells_conditionToSql (cond : FilterCondition) :
    Spells '"' (conditionToSql cond) (tokensOf (conditionPieces cond)) := by
  rcases cond with ⟨field, op, value, values⟩
  have hname := spells_quoteId field
  cases op with
  | eq =>
      have hop : Spells '"' "= ?" [.eq, .param none] := spells_text (by decide)
      exact spells_name_before field hop rfl
  | ne =>
      have hop : Spells '"' "!= ?" [.ne, .param none] := spells_text (by decide)
      exact spells_name_before field hop rfl
  | lt =>
      have hop : Spells '"' "< ?" [.lt, .param none] := spells_text (by decide)
      exact spells_name_before field hop rfl
  | lte =>
      have hop : Spells '"' "<= ?" [.le, .param none] := spells_text (by decide)
      exact spells_name_before field hop rfl
  | gt =>
      have hop : Spells '"' "> ?" [.gt, .param none] := spells_text (by decide)
      exact spells_name_before field hop rfl
  | gte =>
      have hop : Spells '"' ">= ?" [.ge, .param none] := spells_text (by decide)
      exact spells_name_before field hop rfl
  | like =>
      have hop : Spells '"' "LIKE ?" [.kw .like, .param none] := spells_text (by decide)
      exact spells_name_before field hop rfl
  | iLike =>
      have hlower : Spells '"' "LOWER" [.word "LOWER"] := spells_text (by decide)
      have hlike : Spells '"' "LIKE LOWER(?)"
          [.kw .like, .word "LOWER", .lparen, .param none, .rparen] := spells_text (by decide)
      have h := (hlower.bracket isQuote hname).before isQuote hlike rfl
      have htext : conditionToSql ⟨field, .iLike, value, values⟩ =
          "LOWER" ++ "(" ++ quoteId field ++ ")" ++ " LIKE LOWER(?)" := by
        simp only [conditionToSql]
        exact String.toList_inj.1 (by simp)
      rw [htext]
      exact h
  | isNull =>
      have hop : Spells '"' "IS NULL" [.kw .is, .kw .null] := spells_text (by decide)
      exact spells_name_before field hop rfl
  | isNotNull =>
      have hop : Spells '"' "IS NOT NULL" [.kw .is, .kw .not, .kw .null] := spells_text (by decide)
      exact spells_name_before field hop rfl
  | «in» =>
      have hop : Spells '"' "IN" [.kw .in] := spells_text (by decide)
      have hin := spells_name_before field hop rfl
      exact spells_operands ⟨field, .in, value, values⟩ hin (by rw [String.append_assoc]; rfl)
  | notIn =>
      have hop : Spells '"' "NOT IN" [.kw .not, .kw .in] := spells_text (by decide)
      have hin := spells_name_before field hop rfl
      exact spells_operands ⟨field, .notIn, value, values⟩ hin (by rw [String.append_assoc]; rfl)
  | between =>
      have hop : Spells '"' "BETWEEN ? AND ?" [.kw .between, .param none, .kw .and, .param none] :=
        spells_text (by decide)
      exact spells_name_before field hop rfl

theorem spells_group (group : FilterGroup) :
    Spells '"' ("(" ++ joinFragments (group.conditions.map conditionToSql) " OR " ++ ")")
      (tokensOf (groupPieces group)) := by
  have hjoin := spells_ors isQuote group.conditions fun cond _ => spells_conditionToSql cond
  have h := Spells.empty.bracket isQuote hjoin
  simpa [groupPieces, Piece.token] using h

/-- The parts of a `WHERE` clause, one by one. -/
theorem spells_whereFragments (options : ListOptions) :
    List.Forall₂ (Spells '"') (whereFragments options)
      ((wherePieces options).map tokensOf) := by
  have hmap : ∀ {α : Type} {f : α → String} {g : α → List (Piece Role)} (l : List α),
      (∀ a ∈ l, Spells '"' (f a) (tokensOf (g a))) →
      List.Forall₂ (Spells '"') (l.map f) ((l.map g).map tokensOf) := by
    intro α f g l h
    rw [List.map_map, List.forall₂_map_left_iff, List.forall₂_map_right_iff, List.forall₂_same]
    exact h
  rw [whereFragments, wherePieces, List.map_append, List.map_append]
  refine List.rel_append (List.rel_append (hmap _ ?_) (hmap _ ?_)) (hmap _ ?_)
  · exact fun entry _ => spells_equals entry.1 _
  · exact fun cond _ => spells_conditionToSql cond
  · exact fun group _ => spells_group group

theorem spells_whereClause (options : ListOptions) :
    SpellsClause '"' (whereClause options) (tokensOf (whereClausePieces options)) := by
  have hparts := spells_whereFragments options
  rw [whereClause, whereClausePieces]
  have hnil : whereFragments options = [] ↔ wherePieces options = [] := by
    rw [← List.length_eq_zero_iff, ← List.length_eq_zero_iff, hparts.length_eq, List.length_map]
  simp only [hnil]
  split_ifs
  · exact Or.inl ⟨rfl, rfl⟩
  · have hwhere : Spells '"' "WHERE" [.kw .where] := spells_text (by decide)
    have hand : Spells '"' "AND" [.kw .and] := spells_text (by decide)
    have hjoin : Spells '"' (joinFragments (whereFragments options) " AND ")
        (tokensOf (joinPieces (.kw .and) (wherePieces options))) := by
      rw [tokensOf_joinPieces]
      exact spells_join (fun ha hb => ha.word isQuote hand hb rfl) hparts
    refine Or.inr ⟨"WHERE " ++ joinFragments (whereFragments options) " AND ", ?_,
      hwhere.after isQuote hjoin rfl⟩
    rw [← String.append_assoc]
    rfl

/-- A clause of two words and a list. -/
theorem spells_listClause {w list : String} {tw ts : List Token} (hw : Spells '"' w tw)
    (hlist : Spells '"' list ts) {lead : String} (hlead : lead = " " ++ (w ++ " ")) :
    SpellsClause '"' (lead ++ list) (tw ++ ts) :=
  Or.inr ⟨w ++ " " ++ list, by rw [hlead, String.append_assoc], hw.blank isQuote hlist⟩

theorem spells_groupByClause (options : ListOptions) :
    SpellsClause '"' (groupByClause options) (tokensOf (groupByPieces options)) := by
  rw [groupByClause, groupByPieces]
  split_ifs
  · exact Or.inl ⟨rfl, rfl⟩
  · have hwords : Spells '"' "GROUP BY" [.word "GROUP", .word "BY"] := spells_text (by decide)
    have hjoin := spells_commas isQuote options.groupBy fun field _ => spells_quoteId field
    exact spells_listClause hwords hjoin rfl

theorem spells_orderByClause (options : ListOptions) :
    SpellsClause '"' (orderByClause options) (tokensOf (orderByPieces options)) := by
  rw [orderByClause, orderByPieces]
  split_ifs
  · exact Or.inl ⟨rfl, rfl⟩
  · have hwords : Spells '"' "ORDER BY" [.word "ORDER", .word "BY"] := spells_text (by decide)
    have hasc : Spells '"' "ASC" [.word "ASC"] := spells_text (by decide)
    have hdesc : Spells '"' "DESC" [.word "DESC"] := spells_text (by decide)
    have hone : ∀ entry : String × String,
        Spells '"' (orderFragment entry) (tokensOf (orderPieces entry)) := by
      intro entry
      rw [orderFragment, orderPieces]
      split_ifs
      · exact (spells_quoteId entry.1).blank isQuote hasc
      · exact (spells_quoteId entry.1).blank isQuote hdesc
    have hjoin := spells_commas isQuote options.sort.toList fun entry _ => hone entry
    exact spells_listClause hwords hjoin rfl

theorem spells_aggregate (agg : AggregateSpec) :
    Spells '"' (aggregate agg) (tokensOf (aggregatePieces agg)) := by
  have hfunc : Spells '"' (aggFuncName agg.func) [.word (aggFuncName agg.func)] := by
    cases agg.func <;> exact spells_text (by decide)
  have has : Spells '"' "AS" [.word "AS"] := spells_text (by decide)
  have hcolumn := hfunc.bracket isQuote (spells_quoteId agg.field)
  have h := hcolumn.word isQuote has (spells_quoteId agg.aliasName) rfl
  have htext : aggregate agg = aggFuncName agg.func ++ "(" ++ quoteId agg.field ++ ")" ++ " AS " ++
      quoteId agg.aliasName := by
    rw [aggregate]
    exact String.toList_inj.1 (by simp)
  rw [htext]
  exact h

theorem spells_selectList (schema : EntitySchema) (options : ListOptions) :
    Spells '"' (selectList schema options) (tokensOf (selectPieces schema options)) := by
  rw [selectList, selectPieces]
  split_ifs
  · exact spells_fieldList schema
  · rw [tokensOf_joinPieces, List.map_append, List.map_map, List.map_map]
    refine spells_join (fun ha hb => ha.comma isQuote hb) (List.rel_append ?_ ?_)
    · rw [List.forall₂_map_left_iff, List.forall₂_map_right_iff, List.forall₂_same]
      exact fun field _ => spells_quoteId field
    · rw [List.forall₂_map_left_iff, List.forall₂_map_right_iff, List.forall₂_same]
      exact fun agg _ => spells_aggregate agg

/-! ### Statements -/

/-- What is selected, and where from. -/
theorem spells_selectFrom {list : String} {ts : List Token} (hlist : Spells '"' list ts)
    (schema : EntitySchema) :
    Spells '"' ("SELECT " ++ list ++ " FROM " ++ quoteId schema.name)
      (.word "SELECT" :: (ts ++ [.word "FROM", .ident schema.name])) := by
  have hselect : Spells '"' "SELECT" [.word "SELECT"] := spells_text (by decide)
  have hfrom : Spells '"' "FROM" [.word "FROM"] := spells_text (by decide)
  have h := (hselect.after isQuote hlist rfl).word isQuote hfrom (spells_quoteId schema.name) rfl
  simpa [Piece.token] using h

/-- What is generated and not supplied is not supplied. -/
theorem insertedFields_eq (schema : EntitySchema) (data : Json) :
    (schema.fields.filter fun field =>
      !(field.generated && !data.contains field.name) && data.contains field.name) =
      suppliedFields schema data := by
  rw [suppliedFields]
  refine List.filter_congr fun field _ => ?_
  cases data.contains field.name <;> simp

theorem buildInsertQuery_eq (schema : EntitySchema) (data : Json) :
    buildInsertQuery schema data =
      "INSERT INTO" ++ " " ++ quoteId schema.name ++ " (" ++
        joinFragments ((suppliedFields schema data).map fun field => quoteId field.name) ", " ++
        ")" ++ " " ++ ("VALUES" ++ " (" ++
          joinFragments ((suppliedFields schema data).map fun _ => "?") ", " ++ ")") := by
  have htext : ∀ table columns marks : String,
      "INSERT INTO " ++ table ++ " (" ++ columns ++ ") " ++ "VALUES (" ++ marks ++ ")" =
        "INSERT INTO" ++ " " ++ table ++ " (" ++ columns ++ ")" ++ " " ++
          ("VALUES" ++ " (" ++ marks ++ ")") :=
    fun table columns marks => String.toList_inj.1 (by simp)
  unfold buildInsertQuery
  rw [insertedFields_eq, htext]

theorem spells_insert (schema : EntitySchema) (data : Json) :
    Spells '"' (buildInsertQuery schema data)
      (tokensOf ((Call.insert data).template schema)) := by
  have hinto : Spells '"' "INSERT INTO" [.word "INSERT", .word "INTO"] := spells_text (by decide)
  have hvalues : Spells '"' "VALUES" [.word "VALUES"] := spells_text (by decide)
  have hmark : Spells '"' "?" [.param none] := spells_text (by decide)
  have htable := hinto.blank isQuote (spells_quoteId schema.name)
  have hcolumns := spells_commas isQuote (g := fun field => name field.name)
    (suppliedFields schema data) fun field _ => spells_quoteId field.name
  have hmarks := spells_commas isQuote (f := fun _ => "?")
    (g := fun field : EntityField => [Piece.slot (Role.column field.name)])
    (suppliedFields schema data) fun _ _ => hmark
  have h := (htable.bracket_blank isQuote hcolumns).blank isQuote
    (hvalues.bracket_blank isQuote hmarks)
  refine h.congr (buildInsertQuery_eq schema data) ?_
  simp only [Call.template, tokensOf_append, tokensOf_cons, tokensOf_nil, Piece.token,
    List.cons_append, List.nil_append, List.append_assoc]

theorem spells_list (schema : EntitySchema) (options : ListOptions) :
    Spells '"' (buildListQuery schema options)
      (tokensOf ((Call.list options).template schema)) := by
  have hpage : Spells '"' "LIMIT ? OFFSET ?"
      [.word "LIMIT", .param none, .word "OFFSET", .param none] := spells_text (by decide)
  have hfrom := spells_selectFrom (spells_selectList schema options) schema
  have h := (((hfrom.clause isQuote (spells_whereClause options)).clause isQuote
    (spells_groupByClause options)).clause isQuote (spells_orderByClause options)).before isQuote
    hpage rfl
  refine h.congr rfl ?_
  simp only [Call.template, tokensOf_append, tokensOf_cons, tokensOf_nil, Piece.token,
    List.cons_append, List.nil_append, List.append_assoc]

theorem spells_count (schema : EntitySchema) (options : ListOptions) :
    Spells '"' (buildCountQuery schema options)
      (tokensOf ((Call.count options).template schema)) := by
  have hcount : Spells '"' "SELECT COUNT(*) FROM"
      [.word "SELECT", .word "COUNT", .lparen, .star, .rparen, .word "FROM"] :=
    spells_text (by decide)
  have hfrom := hcount.after isQuote (spells_quoteId schema.name) rfl
  have h := (hfrom.clause isQuote (spells_whereClause options)).clause isQuote
    (spells_groupByClause options)
  refine h.congr rfl ?_
  simp only [Call.template, tokensOf_append, tokensOf_cons, tokensOf_nil, Piece.token,
    List.cons_append, List.nil_append]

theorem spells_select (schema : EntitySchema) (filter : Json) :
    Spells '"' (buildSelectQuery schema filter)
      (.word "SELECT" :: (tokensOf (fieldListPieces schema) ++
        [.word "FROM", .ident schema.name]) ++ tokensOf (filteredPieces filter)) :=
  (spells_selectFrom (spells_fieldList schema) schema).clause isQuote (spells_filtered filter)

theorem spells_findFirst (schema : EntitySchema) (filter : Json) :
    Spells '"' (buildFindFirstQuery schema filter)
      (tokensOf ((Call.findFirst filter).template schema)) := by
  have hlimit : Spells '"' "LIMIT 1" [.word "LIMIT", .num "1"] := spells_text (by decide)
  refine ((spells_select schema filter).before isQuote hlimit rfl).congr rfl ?_
  simp only [Call.template, tokensOf_append, tokensOf_cons, tokensOf_nil, Piece.token,
    List.cons_append, List.nil_append, List.append_assoc]

theorem spells_byId : Spells '"' "WHERE \"id\" = ?" [.kw .where, .ident "id", .eq, .param none] :=
  ⟨fun _ => by decide, by decide⟩

theorem spells_remove (schema : EntitySchema) (id : String) :
    Spells '"' (buildDeleteQuery schema) (tokensOf ((Call.remove id).template schema)) := by
  have hdelete : Spells '"' "DELETE FROM" [.word "DELETE", .word "FROM"] := spells_text (by decide)
  have hfrom := hdelete.after isQuote (spells_quoteId schema.name) rfl
  exact (hfrom.before isQuote spells_byId rfl).congr rfl rfl

theorem spells_deleteMany (schema : EntitySchema) (filter : Json) :
    Spells '"' (buildDeleteManyQuery schema filter)
      (tokensOf ((Call.deleteMany filter).template schema)) := by
  have hdelete : Spells '"' "DELETE FROM" [.word "DELETE", .word "FROM"] := spells_text (by decide)
  have hfrom := hdelete.after isQuote (spells_quoteId schema.name) rfl
  refine (hfrom.clause isQuote (spells_filtered filter)).congr rfl ?_
  simp only [Call.template, tokensOf_cons, tokensOf_nil, Piece.token, List.cons_append,
    List.nil_append]

/-- The table and the columns that are set. -/
theorem spells_set (schema : EntitySchema) (fields : List EntityField) :
    Spells '"' ("UPDATE " ++ quoteId schema.name ++ " SET " ++
        joinFragments (fields.map assignment) ", ")
      (.word "UPDATE" :: .ident schema.name :: .word "SET" ::
        tokensOf (joinPieces .comma (fields.map assignmentPieces))) := by
  have hupdate : Spells '"' "UPDATE" [.word "UPDATE"] := spells_text (by decide)
  have hset : Spells '"' "SET" [.word "SET"] := spells_text (by decide)
  have hjoin := spells_commas isQuote fields fun field _ =>
    spells_equals field.name (.column field.name)
  exact (hupdate.after isQuote (spells_quoteId schema.name) rfl).word isQuote
    hset hjoin rfl

theorem spells_updateMany (schema : EntitySchema) (filter data : Json)
    (h : buildUpdateManyQuery schema filter data ≠ "") :
    Spells '"' (buildUpdateManyQuery schema filter data)
      (tokensOf ((Call.updateMany filter data).template schema)) := by
  simp only [buildUpdateManyQuery] at h ⊢
  split_ifs at h ⊢
  · exact absurd rfl h
  · refine ((spells_set schema (suppliedFields schema data)).clause isQuote
      (spells_filtered filter)).congr rfl ?_
    simp only [Call.template, tokensOf_append, tokensOf_cons, Piece.token, List.cons_append,
      List.nil_append]

theorem spells_update (schema : EntitySchema) (data : Json) (id : String)
    (h : buildUpdateQuery schema data ≠ "") :
    Spells '"' (buildUpdateQuery schema data)
      (tokensOf ((Call.update data id).template schema)) := by
  simp only [buildUpdateQuery] at h ⊢
  split_ifs at h ⊢
  · exact absurd rfl h
  · refine ((spells_set schema (updatedFields schema data)).before isQuote spells_byId rfl).congr
      rfl ?_
    simp only [Call.template, tokensOf_append, tokensOf_cons, tokensOf_nil, Piece.token,
      equalsPieces, CmpOp.token, List.cons_append, List.nil_append]

/-- **Every statement spells its template.** -/
theorem Call.spells (schema : EntitySchema) (call : Call) (h : call.statement schema ≠ "") :
    Spells '"' (call.statement schema) (tokensOf (call.template schema)) := by
  cases call with
  | list options => exact spells_list schema options
  | count options => exact spells_count schema options
  | read id =>
      refine (spells_select schema (Call.byId id)).congr rfl ?_
      simp only [Call.template, tokensOf_append, tokensOf_cons, Piece.token, List.cons_append,
        List.nil_append, List.append_assoc]
  | remove id => exact spells_remove schema id
  | insert data => exact spells_insert schema data
  | update data id => exact spells_update schema data id h
  | updateMany filter data => exact spells_updateMany schema filter data h
  | deleteMany filter => exact spells_deleteMany schema filter
  | findFirst filter => exact spells_findFirst schema filter

end SQLiteQueryBuilder
end Dbal
