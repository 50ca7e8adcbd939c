/-
# The statements of `SqlAdapter` as templates

What the texts of `SqlAdapter` are to read as, the schema's own defaults included: a text default is
a string literal, whatever characters it has, and a numeric one is what its text reads as.
-/

import Dbal.Adapters.SqlStatements
import Dbal.Adapters.SqlTemplates

namespace Dbal
namespace Adapters
namespace SqlAdapter

open Sql
open SqlWhereBuilder (quoteChar isQuote_quoteChar placed Writes WritesAll Failure)
open SQLiteQueryBuilder (Role equalsPieces)

/-- The quote of a dialect. -/
abbrev quote (dialect : Dialect) : Char := quoteChar dialect.name

theorem isQuote (dialect : Dialect) : IsQuote (quote dialect) := isQuote_quoteChar dialect.name

theorem quoteId_eq (dialect : Dialect) (name : String) :
    quoteId dialect name = SqlWhereBuilder.quoteId name dialect.name := by
  cases dialect <;> simp [quoteId, SqlWhereBuilder.quoteId, Dialect.name]

theorem placeholder_eq (dialect : Dialect) (index : Nat) :
    placeholder dialect index = SqlWhereBuilder.ph index dialect.name := by
  cases dialect <;> simp [placeholder, SqlWhereBuilder.ph, Dialect.name]

theorem spells_quoteId (dialect : Dialect) (name : String) :
    Spells (quote dialect) (quoteId dialect name) [.ident name] :=
  quoteId_eq dialect name ▸ SqlWhereBuilder.spells_quoteId dialect.name name

/-! ### Literals -/

theorem scan_literal {q : Char} : ∀ val acc : List Char,
    scan q (.str acc)
        ((val.flatMap fun c => if c = '\'' then ['\'', '\''] else [c]) ++ ['\'']) =
      some [.str (String.ofList (acc.reverse ++ val))]
  | [], acc => by simp [scan, step, Scan.flush]
  | c :: val, acc => by
      have ih := scan_literal (q := q) val (c :: acc)
      rw [List.reverse_cons, List.append_assoc, List.singleton_append] at ih
      rw [List.flatMap_cons]
      by_cases hc : c = '\''
      · subst hc
        simp [scan, step, ih]
      · simp [scan, step, hc, ih]

/-- **A text between apostrophes is one literal**, whatever is in it. -/
theorem spells_literal {q : Char} (hq : IsQuote q) (val : String) :
    Spells q ("'" ++ escapeApostrophes val ++ "'") [.str val] := by
  have htext : ("'" ++ escapeApostrophes val ++ "'").toList =
      '\'' :: ((val.toList.flatMap fun c => if c = '\'' then ['\'', '\''] else [c]) ++ ['\'']) := by
    simp [escapeApostrophes]
  have hne : '\'' ≠ q := by rcases hq with rfl | rfl <;> decide
  constructor
  · intro _
    have hbegin : begin q '\'' = some ([], .str []) := rfl
    rw [htext, tokens, scan, step, hbegin]
    simp [scan_literal]
  · have hcount : ∀ cs : List Char,
        (cs.flatMap fun c => if c = '\'' then ['\'', '\''] else [c]).count q = cs.count q := by
      intro cs
      induction cs with
      | nil => rfl
      | cons c cs ih =>
          rw [List.flatMap_cons, List.count_append, ih]
          split_ifs with hc
          · rw [hc, List.count_cons_of_ne hne, List.count_cons_of_ne hne, List.count_cons_of_ne hne]
            exact Nat.zero_add _
          · rw [List.count_singleton, List.count_cons]
            exact Nat.add_comm _ _
    rw [htext, List.count_cons_of_ne hne, List.count_append, hcount, List.count_cons_of_ne hne]
    exact Nat.le_refl _

theorem scan_digits {q : Char} : ∀ digits acc : List Char, (∀ c ∈ digits, c.isDigit = true) →
    scan q (.num acc) digits = some [.num (String.ofList (acc.reverse ++ digits))]
  | [], acc, _ => by simp [scan, Scan.flush]
  | c :: digits, acc, h => by
      have hrest := fun d hd => h d (List.mem_cons_of_mem c hd)
      simp [scan, step, h c List.mem_cons_self, scan_digits digits (c :: acc) hrest]

/-- **A number is one token.** -/
theorem spells_number {q : Char} (hq : IsQuote q) {i : Int} (hi : 0 ≤ i) :
    Spells q (toString i) [.num (toString i)] := by
  obtain ⟨n, rfl⟩ := Int.eq_ofNat_of_zero_le hi
  have htext : (toString (n : Int)).toList = Nat.toDigits 10 n := by
    show (toString n).toList = Nat.toDigits 10 n
    simp
  have hdigits : ∀ c ∈ Nat.toDigits 10 n, c.isDigit = true := fun c hc =>
    Nat.isDigit_of_mem_toDigits (by decide) (by decide) hc
  constructor
  · intro _
    obtain ⟨c, cs, hcs⟩ : ∃ c cs, Nat.toDigits 10 n = c :: cs :=
      List.exists_cons_of_ne_nil (by simp)
    have hc : c.isDigit = true := hdigits c (hcs ▸ List.mem_cons_self)
    have hbegin : begin q c = some ([], .num [c]) := by
      have hother : ∀ d : Char, d.isDigit = false → c ≠ d := by
        rintro d hd rfl
        rw [hd] at hc
        exact nomatch hc
      have hcq : c ≠ q := hother q (by rcases hq with rfl | rfl <;> decide)
      simp [begin, hother, hcq, hc]
    have hname : String.ofList (c :: cs) = toString (n : Int) := by
      rw [← hcs, ← htext, String.ofList_toList]
    rw [htext, hcs, tokens, scan, step, hbegin]
    simp [scan_digits cs [c] fun d hd => hdigits d (hcs ▸ List.mem_cons_of_mem c hd), hname]
  · have hnone : q ∉ (toString (n : Int)).toList := by
      rw [htext]
      intro hmem
      have hdigit := hdigits q hmem
      rcases hq with rfl | rfl <;> exact absurd hdigit (by decide)
    rw [List.count_eq_zero_of_not_mem hnone]
    exact Nat.zero_le _

/-! ### The columns -/

variable (printReal : Int → Int → String) (dialect : Dialect)

/-- What a default is to read as. -/
def defaultTokens (type val : String) : List Token :=
  if type = "boolean" then [.word (if val = "true" ∨ val = "1" then "true" else "false")]
  else if isNumeric type then
    (tokens (quote dialect) (if val = "" then "0" else val).toList).getD []
  else [.str val]

/-- What a column is to read as. -/
def columnTokens (field : EntityField) : List Token :=
  match field.nullable && !field.required, field.defaultValue with
  | true, some default =>
      [.word "COALESCE", .lparen, .ident field.name, .comma] ++
        defaultTokens dialect field.type (default.text printReal) ++
        [.rparen, .word "AS", .ident field.name]
  | _, _ => [.ident field.name]

/-- What the list of columns is to read as. -/
def fieldListTokens (schema : EntitySchema) : List Token :=
  joinTokens .comma (schema.fields.map (columnTokens printReal dialect))

/-- The names of the schema have no quote in them, and its numeric defaults read as tokens without
one. -/
structure PlainSchema (schema : EntitySchema) : Prop where
  table : quote dialect ∉ schema.name.toList
  fields : ∀ field ∈ schema.fields, quote dialect ∉ field.name.toList
  defaults : ∀ field ∈ schema.fields, isNumeric field.type = true →
    ∀ default, field.defaultValue = some default →
      quote dialect ∉ (default.text printReal).toList ∧
        (tokens (quote dialect) (default.text printReal).toList).isSome = true

/-- A text without quotes has no names. -/
theorem unquoted_of_not_mem {q : Char} (hq : IsQuote q) {s : String} {ts : List Token}
    (hs : q ∉ s.toList) (h : tokens q s.toList = some ts) : Unquoted q ts := by
  have hread := scan_quotes hq h
  rw [List.count_eq_zero_of_not_mem hs] at hread
  intro name hname
  obtain ⟨us, vs, rfl⟩ := List.append_of_mem hname
  have hcons : quotesRead q (.ident name :: vs) =
      (2 + 2 * name.toList.count q) + quotesRead q vs := rfl
  have hstart : Scan.quotesRead q .start = 0 := rfl
  rw [quotesRead_append, hcons] at hread
  omega

variable {printReal dialect}

/-- **A column of a plain schema spells its tokens**, which have no quote in a name. -/
theorem spells_column {schema : EntitySchema} (hplain : PlainSchema printReal dialect schema)
    {field : EntityField} (hfield : field ∈ schema.fields) :
    Spells (quote dialect) (fieldFragment printReal dialect field)
        (columnTokens printReal dialect field) ∧
      Unquoted (quote dialect) (columnTokens printReal dialect field) := by
  have hq := isQuote dialect
  have hname := spells_quoteId dialect field.name
  have hone : Unquoted (quote dialect) [.ident field.name] := by
    intro name hmem
    obtain rfl := Token.ident.inj (List.mem_singleton.1 hmem)
    exact hplain.fields field hfield
  cases hnull : field.nullable && !field.required with
  | false =>
      simp only [fieldFragment, columnTokens, hnull]
      exact ⟨hname, hone⟩
  | true =>
      cases hdefault : field.defaultValue with
      | none =>
          simp only [fieldFragment, columnTokens, hnull, hdefault]
          exact ⟨hname, hone⟩
      | some default =>
          simp only [fieldFragment, columnTokens, hnull, hdefault]
          have hdef : Spells (quote dialect) (coalesceDefault field.type (default.text printReal))
                (defaultTokens dialect field.type (default.text printReal)) ∧
              Unquoted (quote dialect)
                (defaultTokens dialect field.type (default.text printReal)) := by
            unfold coalesceDefault defaultTokens
            split_ifs with hbool hval hnum hempty
            · exact ⟨.fixed hq (by decide), by simp [Unquoted]⟩
            · exact ⟨.fixed hq (by decide), by simp [Unquoted]⟩
            · have hzero : Spells (quote dialect) "0" [.num "0"] := .fixed hq (by decide)
              have hread := hzero.reads (by simp [Unquoted])
              rw [hread]
              exact ⟨hzero, by simp [Unquoted]⟩
            · obtain ⟨hnone, hsome⟩ := hplain.defaults field hfield hnum default hdefault
              obtain ⟨ts, hts⟩ := Option.isSome_iff_exists.1 hsome
              rw [hts]
              refine ⟨⟨fun _ => hts, ?_⟩, unquoted_of_not_mem hq hnone hts⟩
              rw [List.count_eq_zero_of_not_mem hnone]
              exact Nat.zero_le _
            · exact ⟨spells_literal hq _, by simp [Unquoted]⟩
          have hcoalesce : Spells (quote dialect) "COALESCE" [.word "COALESCE"] :=
            .fixed hq (by decide)
          have has : Spells (quote dialect) "AS" [.word "AS"] := .fixed hq (by decide)
          have hcall := (hcoalesce.bracket hq (hname.comma hq hdef.1)).word hq has hname
            (rfl : " AS " = " " ++ "AS" ++ " ")
          refine ⟨hcall.congr (String.toList_inj.1 (by simp)) (by simp), ?_⟩
          intro name hmem
          simp only [List.mem_append, List.mem_cons, reduceCtorEq, Token.ident.injEq,
            List.not_mem_nil, or_false, false_or] at hmem
          rcases hmem with (rfl | hmem) | rfl
          · exact hplain.fields field hfield
          · exact hdef.2 name hmem
          · exact hplain.fields field hfield

/-- **The list of columns of a plain schema spells its tokens.** -/
theorem spells_fieldList {schema : EntitySchema} (hplain : PlainSchema printReal dialect schema) :
    Spells (quote dialect) (buildFieldList printReal dialect schema)
        (fieldListTokens printReal dialect schema) ∧
      Unquoted (quote dialect) (fieldListTokens printReal dialect schema) := by
  constructor
  · refine spells_join (fun ha hb => ha.comma (isQuote dialect) hb) ?_
    rw [List.forall₂_map_left_iff, List.forall₂_map_right_iff, List.forall₂_same]
    exact fun field hfield => (spells_column hplain hfield).1
  · have hjoin : ∀ tss : List (List Token), (∀ ts ∈ tss, Unquoted (quote dialect) ts) →
        Unquoted (quote dialect) (joinTokens .comma tss) := by
      intro tss
      induction tss with
      | nil => exact fun _ => nofun
      | cons ts tss ih =>
          intro h
          rw [List.forall_mem_cons] at h
          cases tss with
          | nil => exact h.1
          | cons us tss =>
              rw [joinTokens, Unquoted.append]
              refine ⟨h.1, fun name hname => ih h.2 name ?_⟩
              simpa using hname
    exact hjoin _ (List.forall_mem_map.2 fun field hfield => (spells_column hplain hfield).2)

/-! ### The statements -/

/-- Columns that equal numbered placeholders. -/
theorem members_write {α : Type} (name : α → String) (role : α → Role) : ∀ (l : List α) (k : Nat),
    WritesAll dialect.name k
      ((l.zipIdx k).map fun (a, i) => memberFragment dialect (quoteId dialect (name a)) i)
      (l.map fun a => equalsPieces (name a) (role a))
  | [], _ => .nil
  | a :: l, k => by
      have hq := isQuote dialect
      have heq : Spells (quote dialect) "=" [.eq] := .fixed hq (by decide)
      have hph := SqlWhereBuilder.spells_ph dialect.name k
      rw [← placeholder_eq] at hph
      have hone := (spells_quoteId dialect (name a)).word hq heq hph
        (rfl : " = " = " " ++ "=" ++ " ")
      rw [List.zipIdx_cons, List.map_cons, List.map_cons]
      refine .cons (hone.congr rfl ?_) (members_write name role l (k + 1))
      simp [equalsPieces, CmpOp.token]

/-- What a filter is to read as. -/
def filterPieces (filter : Json) : List (Piece Role) :=
  if filter.items = [] then []
  else .kw .where :: joinPieces (.kw .and)
    (filter.items.map fun (key, _) => equalsPieces key (.member key))

theorem spells_filtered (filter : Json) (k : Nat) :
    SpellsClause (quote dialect) (filtered (memberFragments dialect (quoteId dialect) filter k))
      (placed dialect.name k (filterPieces filter)) := by
  have hq := isQuote dialect
  have hall := @members_write dialect _ (fun entry : String × Json => entry.1)
    (fun entry => .member entry.1) filter.items k
  unfold filtered filterPieces
  by_cases hnil : filter.items = []
  · rw [if_pos hnil, if_pos (by rw [memberFragments, hnil]; rfl)]
    exact Or.inl ⟨rfl, SqlWhereBuilder.placed_nil ..⟩
  · have hfragments : memberFragments dialect (quoteId dialect) filter k ≠ [] := by
      intro hempty
      have hlength := congrArg List.length hempty
      rw [memberFragments, List.length_map, List.length_zipIdx] at hlength
      exact hnil (List.length_eq_zero_iff.1 hlength)
    have hwhere : Spells (quote dialect) "WHERE" [.kw .where] := .fixed hq (by decide)
    rw [if_neg hnil, if_neg hfragments]
    refine Or.inr ⟨_, ?_, (hwhere.after hq hall.ands rfl).congr rfl ?_⟩
    · rw [← String.append_assoc]
      rfl
    · exact SqlWhereBuilder.placed_kw ..

/-- A call that makes statements. -/
inductive Call where
  | list (options : ListOptions)
  | updateMany (filter data : Json)
  | deleteMany (filter : Json)
  | findFirst (filter : Json)

/-- The fields that an update of many rows writes. -/
def suppliedFields (schema : EntitySchema) (data : Json) : List EntityField :=
  schema.fields.filter fun field => data.contains field.name

/-- The `WHERE` clause of a listing. -/
abbrev listWherePieces (dialect : Dialect) (options : ListOptions) : List (Piece Role) :=
  SqlWhereBuilder.wherePieces dialect.name options.conditions options.filterGroups options.filter

namespace Call

variable (printReal dialect)

/-- The statements it makes; a refused call makes none. -/
def statements (schema : EntitySchema) : Call → Except Failure (List String)
  | list options => (listStatements printReal dialect schema options ⟨[], 1⟩).map Prod.fst
  | updateMany filter data => (updateManyStatement dialect schema filter data).map ([·])
  | deleteMany filter => .ok [deleteManyStatement dialect schema filter]
  | findFirst filter => (findFirstStatement printReal dialect schema filter).map ([·])

/-- What they are to read as. -/
def templates (schema : EntitySchema) : Call → List (List Token)
  | list options =>
      if options.aggregates = [] then
        [[.word "SELECT", .word "COUNT", .lparen, .star, .rparen, .word "AS", .word "cnt",
            .word "FROM", .ident schema.name] ++
          placed dialect.name 1 (listWherePieces dialect options),
        .word "SELECT" :: ((if options.distinct then [.word "DISTINCT"] else []) ++
          fieldListTokens printReal dialect schema ++ [.word "FROM", .ident schema.name] ++
          placed dialect.name 1 (listWherePieces dialect options) ++
          tokensOf (SqlWhereBuilder.orderByPieces options.sort (defaultOrderField schema)) ++
          [.word "LIMIT", .num (toString (pageLimit options)), .word "OFFSET",
            .num (toString (pageOffset options))])]
      else
        [.word "SELECT" ::
          (tokensOf (SqlWhereBuilder.selectPieces options.aggregates options.groupBy) ++
            [.word "FROM", .ident schema.name] ++
            placed dialect.name 1 (listWherePieces dialect options) ++
            tokensOf (SqlWhereBuilder.groupByPieces options.groupBy))]
  | updateMany filter data =>
      [[.word "UPDATE", .ident schema.name, .word "SET"] ++
        placed dialect.name 1 (joinPieces .comma ((suppliedFields schema data).map fun field =>
          equalsPieces field.name (.column field.name))) ++
        placed dialect.name ((suppliedFields schema data).length + 1) (filterPieces filter)]
  | deleteMany filter =>
      [[.word "DELETE", .word "FROM", .ident schema.name] ++
        placed dialect.name 1 (filterPieces filter)]
  | findFirst filter =>
      [.word "SELECT" :: (fieldListTokens printReal dialect schema ++
        [.word "FROM", .ident schema.name] ++ placed dialect.name 1 (filterPieces filter) ++
        [.word "LIMIT", .num "1"])]

end Call

end SqlAdapter
end Adapters
end Dbal
