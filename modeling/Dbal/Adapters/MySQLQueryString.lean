/-
# The query string of the MySQL adapter

`escapeString` and `buildQueryString` of `src/adapters/sql/mysql_adapter.cpp`, which writes the
parameters into the text of the statement.  It puts the next one in the place of every question mark,
whatever that stands in, and writes `NULL` for an empty one.

`mysql_real_escape_string` is a parameter: what it returns between apostrophes is a literal with the
value that it was given.
-/

import Dbal.Adapters.SqlParams
import Dbal.Sql.Substitution

namespace Dbal
namespace Adapters
namespace MySQLAdapter

open Sql
open SqlAdapter (quote Agrees)

/-- A text between apostrophes. -/
def quoted (text : String) : List Char := '\'' :: text.toList ++ ['\'']

/-- What is written for a value. -/
def literal (escapeString : String → String) (value : String) : List Char :=
  if value = "" then "NULL".toList else quoted (escapeString value)

/-- The loop of `buildQueryString`. -/
def substitute (escapeString : String → String) : List Char → List SqlParam → List Char
  | [], _ => []
  | c :: sql, params =>
      match params with
      | [] => c :: substitute escapeString sql []
      | param :: rest =>
          if c = '?' then literal escapeString param.value ++ substitute escapeString sql rest
          else c :: substitute escapeString sql (param :: rest)

/-- `buildQueryString`. -/
def buildQueryString (escapeString : String → String) (sql : String) (params : List SqlParam) :
    String :=
  String.ofList (substitute escapeString sql.toList params)

/-- **The text is the statement with its parameters**: literals of their values stand in the place of
its placeholders, and every other character is as it was. -/
def Faithful (sql : String) (params : List SqlParam) (query : String) : Prop :=
  ∃ lits : List (List Char),
    List.Forall₂ (fun lit (param : SqlParam) => readLiteral lit = some param.value) lits params ∧
      query = String.ofList (splice .code sql.toList lits)

/-- What is escaped is read back. -/
def Escapes (escapeString : String → String) : Prop :=
  ∀ value, readLiteral (quoted (escapeString value)) = some value

section

variable {escapeString : String → String}

/-- Enough for the text to be the right one. -/
theorem substitute_eq_splice : ∀ {cs : List Char} {m : Mode} {params : List SqlParam},
    marks m cs = params.length → QuotedLast m cs → (∀ param ∈ params, param.value ≠ "") →
      substitute escapeString cs params =
        splice m cs (params.map fun param => quoted (escapeString param.value))
  | [], _, _, _, _, _ => rfl
  | c :: cs, m, [], hcount, hlast, hvalues => by
      rw [marks, List.length_nil, Nat.add_eq_zero_iff] at hcount
      have hnone : ¬(m = .code ∧ c = '?') := fun h => by
        rw [if_pos h] at hcount
        exact absurd hcount.1 Nat.one_ne_zero
      rw [splice, if_neg hnone]
      exact congrArg (List.cons c)
        (substitute_eq_splice hcount.2 (quotedLast_cons.1 hlast).2 hvalues)
  | c :: cs, m, param :: params, hcount, hlast, hvalues => by
      obtain ⟨hhead, htail⟩ := quotedLast_cons.1 hlast
      obtain ⟨hvalue, hrest⟩ := List.forall_mem_cons.1 hvalues
      rw [marks] at hcount
      by_cases hc : c = '?'
      · by_cases hm : m = .code
        · rw [if_pos ⟨hm, hc⟩, List.length_cons] at hcount
          have ih := substitute_eq_splice (by omega) htail hrest
          rw [splice, if_pos ⟨hm, hc⟩, substitute, if_pos hc, literal, if_neg hvalue, ih]
          rfl
        · rw [hhead hc hm, if_neg fun h => hm h.1] at hcount
          cases hcount
      · rw [if_neg fun h => hc h.2, Nat.zero_add] at hcount
        rw [splice, if_neg fun h => hc h.2, substitute, if_neg hc,
          substitute_eq_splice hcount htail hvalues]

/-- What is written begins with an apostrophe, unless the value is empty. -/
theorem literal_head (value : String) :
    ∃ c rest, literal escapeString value = c :: rest ∧ c ≠ '?' ∧ (value = "" → c ≠ '\'') := by
  rw [literal]
  split_ifs with hvalue
  · exact ⟨'N', "ULL".toList, rfl, by decide, fun _ => by decide⟩
  · exact ⟨'\'', _, rfl, by decide, fun h => absurd h hvalue⟩

/-- **Where it is the right text, no question mark between quotes stands before a placeholder, and no
value is empty.** -/
theorem of_substitute_eq_splice (hescape : Escapes escapeString) :
    ∀ {cs : List Char} {m : Mode} {params : List SqlParam} {lits : List (List Char)},
      List.Forall₂ (fun lit (param : SqlParam) => readLiteral lit = some param.value) lits params →
      marks m cs = params.length → substitute escapeString cs params = splice m cs lits →
        QuotedLast m cs ∧ ∀ param ∈ params, param.value ≠ ""
  | [], m, params, _, _, hcount, _ => by
      obtain rfl := List.length_eq_zero_iff.1 hcount.symm
      exact ⟨quotedLast_of_marks rfl, List.forall_mem_nil _⟩
  | c :: cs, m, [], lits, hlits, hcount, _ =>
      ⟨quotedLast_of_marks hcount, List.forall_mem_nil _⟩
  | c :: cs, m, param :: params, lits, hlits, hcount, heq => by
      obtain ⟨lit, lits, hlit, hothers, rfl⟩ := List.forall₂_cons_right_iff.1 hlits
      obtain ⟨d, rest, hwritten, hd, hempty⟩ := @literal_head escapeString param.value
      rw [marks, List.length_cons] at hcount
      rw [substitute, splice] at heq
      by_cases hc : c = '?'
      · by_cases hm : m = .code
        · rw [if_pos hc, if_pos ⟨hm, hc⟩, List.headD_cons, List.tail_cons] at heq
          rw [if_pos ⟨hm, hc⟩] at hcount
          have hvalue : param.value ≠ "" := by
            intro hvalue
            obtain ⟨lit', rfl⟩ := head_of_readLiteral hlit
            rw [hwritten] at heq
            exact hempty hvalue (List.cons.inj heq).1
          rw [literal, if_neg hvalue] at heq
          obtain ⟨-, heq⟩ := literal_unique (hescape param.value) hlit heq
          obtain ⟨htail, hrest⟩ := of_substitute_eq_splice hescape hothers (by omega) heq
          exact ⟨quotedLast_cons.2 ⟨fun _ hne => absurd hm hne, htail⟩,
            List.forall_mem_cons.2 ⟨hvalue, hrest⟩⟩
        · rw [if_pos hc, if_neg fun h => hm h.1, hwritten, hc] at heq
          exact absurd (List.cons.inj heq).1 hd
      · rw [if_neg hc, if_neg fun h => hc h.2] at heq
        rw [if_neg fun h => hc h.2, Nat.zero_add] at hcount
        obtain ⟨htail, hvalues⟩ := of_substitute_eq_splice hescape hlits hcount
          (List.cons.inj heq).2
        exact ⟨quotedLast_cons.2 ⟨fun h => absurd h hc, htail⟩, hvalues⟩

end

theorem faithful_of_values {escapeString : String → String} (hescape : Escapes escapeString)
    {sql : String} {params : List SqlParam} (hcount : marks .code sql.toList = params.length)
    (hlast : QuotedLast .code sql.toList) (hvalues : ∀ param ∈ params, param.value ≠ "") :
    Faithful sql params (buildQueryString escapeString sql params) := by
  refine ⟨params.map fun param => quoted (escapeString param.value), ?_, ?_⟩
  · rw [List.forall₂_map_left_iff, List.forall₂_same]
    exact fun param _ => hescape param.value
  · rw [buildQueryString, substitute_eq_splice hcount hlast hvalues]

/-- **When the query string is the statement with its parameters**: no question mark between quotes
stands before a placeholder, and no value is empty. -/
theorem buildQueryString_faithful_iff {escapeString : String → String}
    (hescape : Escapes escapeString) (sql : String) (params : List SqlParam)
    (hcount : marks .code sql.toList = params.length) :
    Faithful sql params (buildQueryString escapeString sql params) ↔
      QuotedLast .code sql.toList ∧ ∀ param ∈ params, param.value ≠ "" := by
  constructor
  · rintro ⟨lits, hlits, heq⟩
    exact of_substitute_eq_splice hescape hlits hcount (String.ofList_injective heq)
  · rintro ⟨hlast, hvalues⟩
    exact faithful_of_values hescape hcount hlast hvalues

/-- `mysql_real_escape_string`, one character of it. -/
def escapeChar (c : Char) : List Char :=
  if c = '\\' ∨ c = '\'' ∨ c = '"' then ['\\', c]
  else if c = '\n' then ['\\', 'n']
  else if c = '\r' then ['\\', 'r']
  else if c = Char.ofNat 0 then ['\\', '0']
  else if c = Char.ofNat 26 then ['\\', 'Z']
  else [c]

/-- `mysql_real_escape_string`. -/
def mysqlRealEscapeString (text : String) : String := String.ofList (text.toList.flatMap escapeChar)

theorem readFrom_escapeChar (c : Char) (acc rest : List Char) :
    readFrom (.body acc) (escapeChar c ++ rest) = readFrom (.body (c :: acc)) rest := by
  unfold escapeChar
  split_ifs with hquote hnewline hreturn hnul hsub
  · rcases hquote with rfl | rfl | rfl <;> rfl
  · subst hnewline
    rfl
  · subst hreturn
    rfl
  · subst hnul
    rfl
  · subst hsub
    rfl
  · rw [not_or, not_or] at hquote
    rw [List.singleton_append, readFrom, Literal.next, if_neg hquote.2.1, if_neg hquote.1]
    rfl

theorem escapes_mysqlRealEscapeString : Escapes mysqlRealEscapeString := by
  have hread : ∀ cs acc : List Char,
      readFrom (.body acc) (cs.flatMap escapeChar ++ ['\'']) = some (acc.reverse ++ cs) := by
    intro cs
    induction cs with
    | nil =>
        intro acc
        rw [List.append_nil]
        rfl
    | cons c cs ih =>
        intro acc
        rw [List.flatMap_cons, List.append_assoc, readFrom_escapeChar, ih, List.reverse_cons,
          List.append_assoc]
        rfl
  intro value
  have htext := hread value.toList []
  rw [quoted, mysqlRealEscapeString, String.toList_ofList, readLiteral, List.cons_append,
    List.head?_cons, if_pos rfl, List.tail_cons, htext]
  exact congrArg some String.ofList_toList

/-- Posts, counted for a tenant. -/
def postCount (aliasName : String) : ListOptions where
  aggregates := [⟨.count, "*", aliasName⟩]
  filter := .ofList [("tenantId", "acme")]

def tenantSchema : EntitySchema where
  name := "Post"
  fields := [{ name := "id", type := "uuid" }, { name := "tenantId", type := "string" }]

/-- Their statement. -/
def countStatement (aliasName : String) : String :=
  "SELECT COUNT(*) AS `" ++ aliasName ++ "` FROM `Post` WHERE `tenantId` = ?"

/-- A value with an apostrophe and a question mark in it. -/
theorem count_of_tenant_faithful :
    Faithful (countStatement "posts") [⟨"tenantId", "who's?"⟩]
      (buildQueryString mysqlRealEscapeString (countStatement "posts") [⟨"tenantId", "who's?"⟩]) := by
  refine (buildQueryString_faithful_iff escapes_mysqlRealEscapeString _ _ (by decide +kernel)).2 ?_
  have hreads : tokens backtick (countStatement "posts").toList =
      some [.word "SELECT", .word "COUNT", .lparen, .star, .rparen, .word "AS", .ident "posts",
        .word "FROM", .ident "Post", .kw .where, .ident "tenantId", .eq, .param none] := by
    decide +kernel
  refine ⟨(marks_of_scan hreads ⟨?_, ?_⟩).2, by simp⟩
  · simp
  · simp

/-- **The alias of an aggregate takes the tenant, and an empty text is nothing.** -/
theorem alias_takes_the_tenant :
    (SqlAdapter.listStatements (fun _ _ => "") .mySQL tenantSchema (postCount "why?") ⟨[], 1⟩ =
        .ok ([countStatement "why?"], ⟨[⟨"tenantId", "acme"⟩], 2⟩) ∧
      buildQueryString mysqlRealEscapeString (countStatement "why?") [⟨"tenantId", "acme"⟩] =
        "SELECT COUNT(*) AS `why'acme'` FROM `Post` WHERE `tenantId` = ?" ∧
      ¬ Faithful (countStatement "why?") [⟨"tenantId", "acme"⟩]
        (buildQueryString mysqlRealEscapeString (countStatement "why?")
          [⟨"tenantId", "acme"⟩])) ∧
    buildQueryString mysqlRealEscapeString (countStatement "posts") [⟨"tenantId", ""⟩] =
        "SELECT COUNT(*) AS `posts` FROM `Post` WHERE `tenantId` = NULL" ∧
      ¬ Faithful (countStatement "posts") [⟨"tenantId", ""⟩]
        (buildQueryString mysqlRealEscapeString (countStatement "posts") [⟨"tenantId", ""⟩]) := by
  refine ⟨⟨by decide +kernel, by decide +kernel, ?_⟩, by decide +kernel, ?_⟩
  · rintro ⟨lits, hlits, heq⟩
    obtain ⟨hlast, -⟩ := of_substitute_eq_splice escapes_mysqlRealEscapeString hlits
      (by decide +kernel) (String.ofList_injective heq)
    have hnone := hlast "SELECT COUNT(*) AS `why".toList "` FROM `Post` WHERE `tenantId` = ?".toList
      (by decide +kernel) (by decide +kernel)
    exact absurd hnone (by decide +kernel)
  · rintro ⟨lits, hlits, heq⟩
    obtain ⟨-, hvalues⟩ := of_substitute_eq_splice escapes_mysqlRealEscapeString hlits
      (by decide +kernel) (String.ofList_injective heq)
    exact hvalues ⟨"tenantId", ""⟩ List.mem_cons_self rfl

/-! ### Statements that read -/

theorem str_not_mem_tokensOf {text : String} (ps : List (Piece SQLiteQueryBuilder.Role)) :
    .str text ∉ tokensOf ps := by
  intro hmem
  obtain ⟨p, -, hp⟩ := List.mem_map.1 hmem
  cases p with
  | cmp op => cases op <;> cases hp
  | _ => cases hp

theorem placed_mySQL (k : Nat) (ps : List (Piece SQLiteQueryBuilder.Role)) :
    SqlWhereBuilder.placed Dialect.mySQL.name k ps = tokensOf ps := rfl

/-- Placeholders without numbers. -/
theorem bareCount_of_replicate {ts : List Token} {n : Nat}
    (h : placeholders ts = List.replicate n none) : bareCount ts = (placeholders ts).length := by
  rw [bareCount, h, List.count_replicate_self, List.length_replicate]

/-- A statement that reads, with neither a question mark in a name or a string nor a backslash in a
string. -/
theorem faithful_of_tokens {escapeString : String → String} (hescape : Escapes escapeString)
    {sql : String} {params : List SqlParam} {ts : List Token}
    (hreads : tokens backtick sql.toList = some ts) (hunmarked : Unmarked ts)
    (hcount : bareCount ts = params.length) :
    Faithful sql params (buildQueryString escapeString sql params) ↔
      ∀ param ∈ params, param.value ≠ "" := by
  obtain ⟨hmarks, hlast⟩ := marks_of_scan hreads hunmarked
  have hlength : marks .code sql.toList = params.length := hmarks.trans hcount
  constructor
  · rintro ⟨lits, hlits, heq⟩
    exact (of_substitute_eq_splice hescape hlits hlength (String.ofList_injective heq)).2
  · exact faithful_of_values hescape hlength hlast

/-- The names of the schema have neither a backtick nor a question mark in them. -/
structure PlainNames (schema : EntitySchema) : Prop where
  table : isValidIdentifier schema.name = true
  quote : ∀ field ∈ schema.fields, quote .mySQL ∉ field.name.toList
  mark : ∀ field ∈ schema.fields, '?' ∉ field.name.toList

section

variable {A : SqlAdapter} {schema : EntitySchema} {data : Json}

theorem mark_not_mem_of_valid {table : String} (h : isValidIdentifier table = true) :
    '?' ∉ table.toList := by
  intro hmem
  rw [isValidIdentifier, Bool.and_eq_true, List.all_eq_true] at h
  exact absurd (h.2 _ hmem) (by decide)

theorem unmarked_insert (hplain : PlainNames schema) {fields : List EntityField}
    (hfields : ∀ field ∈ fields, field ∈ schema.fields) :
    Unmarked (SqlAdapter.insertTokens Dialect.mySQL.name schema.name fields) := by
  refine ⟨SqlAdapter.unquoted_insertTokens (mark_not_mem_of_valid hplain.table)
    fun field hfield => hplain.mark field (hfields field hfield), fun text htext => ?_⟩
  simp only [SqlAdapter.insertTokens, placed_mySQL, List.mem_append, List.mem_cons, reduceCtorEq,
    List.not_mem_nil, or_false, str_not_mem_tokensOf] at htext

theorem unmarked_update (hplain : PlainNames schema) {fields : List EntityField}
    (hfields : ∀ field ∈ fields, field ∈ schema.fields) (k i : Nat) :
    Unmarked (SqlAdapter.updateTokens Dialect.mySQL.name schema.name fields k i) := by
  refine ⟨SqlAdapter.unquoted_updateTokens (by decide) (mark_not_mem_of_valid hplain.table)
    fun field hfield => hplain.mark field (hfields field hfield), fun text htext => ?_⟩
  simp only [SqlAdapter.updateTokens, placed_mySQL, List.mem_append, List.mem_cons, reduceCtorEq,
    List.not_mem_nil, or_false, str_not_mem_tokensOf] at htext

/-- **The writes of the adapter are sent as they are meant exactly when no value is empty.** -/
theorem writes_faithful_iff {escapeString : String → String} (hescape : Escapes escapeString)
    (hplain : PlainNames schema) (data : Json) (id : String) :
    (Faithful (insertStatement A schema data).sql (insertStatement A schema data).params
        (buildQueryString escapeString (insertStatement A schema data).sql
          (insertStatement A schema data).params) ↔
      ∀ param ∈ (insertStatement A schema data).params, param.value ≠ "") ∧
    (Faithful (updateStatement A schema id data).sql (updateStatement A schema id data).params
        (buildQueryString escapeString (updateStatement A schema id data).sql
          (updateStatement A schema id data).params) ↔
      ∀ param ∈ (updateStatement A schema id data).params, param.value ≠ "") := by
  have htable := SqlAdapter.quote_not_mem_of_valid hplain.table
  have hinsert := @insert_agrees A schema data htable hplain.quote id
  have hupdate := @update_agrees A schema data htable hplain.quote id
  constructor
  · refine faithful_of_tokens hescape hinsert.reads
      (unmarked_insert hplain fun field => List.mem_of_mem_filter) ?_
    rw [← hinsert.count]
    refine bareCount_of_replicate (n := (insertedFields schema data).length) ?_
    rw [SqlAdapter.placeholders_insertTokens, SqlAdapter.map_mark_bare rfl, List.length_range']
  · refine faithful_of_tokens hescape hupdate.reads
      (unmarked_update hplain (fun field => List.mem_of_mem_filter) 1 1) ?_
    rw [← hupdate.count]
    refine bareCount_of_replicate (n := (SqlAdapter.updatedFields schema data).length + 1) ?_
    rw [SqlAdapter.placeholders_updateTokens, SqlAdapter.map_mark_bare rfl, List.length_range',
      List.replicate_succ']
    rfl

end

end MySQLAdapter
end Adapters
end Dbal
