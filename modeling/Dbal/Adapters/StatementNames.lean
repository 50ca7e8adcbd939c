/-
# Names in statements

Which names a request may carry so that the statements made from it read as their templates, each
name as one quoted identifier and each value as a placeholder.

`SqlAdapter` checks the names of a listing against the schema, all but the aliases of aggregates,
and the keys of `updateMany` and `findFirst`.  The keys of `deleteMany` it neither checks nor
quotes: no filter with a key in it reads as its template.  `SQLiteQueryBuilder` checks no name and
quotes each, and a quote in a name ends the quoting.
-/

import Dbal.Adapters.SqlAdapterTemplates

namespace Dbal
namespace Adapters

open Sql

/-- The texts read as the tokens, one by one. -/
def ReadAs (q : Char) (ss : List String) (tss : List (List Token)) : Prop :=
  List.Forall₂ (fun s ts => tokens q s.toList = some ts) ss tss

theorem readAs_one {q : Char} {s : String} {ts : List Token} :
    ReadAs q [s] [ts] ↔ tokens q s.toList = some ts := by
  constructor
  · rintro (_ | ⟨h, -⟩)
    exact h
  · exact fun h => .cons h .nil

namespace SqlAdapter

open SqlWhereBuilder (aggregatePieces placed Builder BuilderState usedFields build_wrote names_wherePieces
  unquoted_placed buildOrderBy_wrote buildAggregateSelect_wrote buildGroupBy_wrote)

variable {printReal : Int → Int → String} {dialect : Dialect} {schema : EntitySchema}

/-- A checked name is a name of the schema. -/
theorem unquoted_of_valid (hplain : PlainSchema printReal dialect schema) {name : String}
    (h : (validFields schema).contains name = true) : quote dialect ∉ name.toList := by
  rw [validFields, Std.TreeSet.contains_ofList, List.contains_iff_mem] at h
  obtain ⟨field, hfield, rfl⟩ := List.mem_map.1 h
  exact hplain.fields field hfield

/-- A clause after a blank. -/
theorem spells_clause {q : Char} {text : String} {ts : List Token}
    (h : text = "" ∧ ts = [] ∨ text ≠ "" ∧ Spells q text ts) : SpellsClause q (clause text) ts := by
  unfold clause
  rcases h with ⟨rfl, rfl⟩ | ⟨hne, hspells⟩
  · exact Or.inl ⟨rfl, rfl⟩
  · rw [if_neg hne]
    exact Or.inr ⟨text, rfl, hspells⟩

/-- **The `WHERE` clause of a listing spells its template**, which has names of the schema only. -/
theorem listWhere_spells (hplain : PlainSchema printReal dialect schema) {options : ListOptions}
    {text : String} {st : BuilderState}
    (h : SqlWhereBuilder.build options.conditions options.filterGroups options.filter
      (validFields schema) dialect.name ⟨[], 1⟩ = .ok (text, st)) :
    SpellsClause (quote dialect) (clause text)
        (placed dialect.name 1 (listWherePieces dialect options)) ∧
      Unquoted (quote dialect) (placed dialect.name 1 (listWherePieces dialect options)) := by
  obtain ⟨hwrote, hvalid⟩ := build_wrote h
  refine ⟨spells_clause ?_, unquoted_placed.2 fun name hname => ?_⟩
  · rcases hwrote with ⟨rfl, hnil⟩ | hwrote
    · exact Or.inl ⟨rfl, by rw [listWherePieces, hnil]; exact SqlWhereBuilder.placed_nil ..⟩
    · exact Or.inr hwrote
  · exact unquoted_of_valid hplain (hvalid name (names_wherePieces hname))

theorem unquoted_default (hplain : PlainSchema printReal dialect schema) :
    quote dialect ∉ (defaultOrderField schema).toList := by
  unfold defaultOrderField
  have hfixed : quote dialect ∉ "createdAt".toList ∧ quote dialect ∉ "id".toList := by
    rcases isQuote dialect with hq | hq <;> rw [hq] <;> decide
  split
  · exact hfixed.1
  · cases hhead : schema.fields.head? with
    | none => exact hfixed.2
    | some field => exact hplain.fields field (List.mem_of_mem_head? hhead)

theorem pageLimit_nonneg (options : ListOptions) : 0 ≤ pageLimit options := by
  unfold pageLimit
  split <;> omega

theorem pageOffset_nonneg (options : ListOptions) : 0 ≤ pageOffset options := by
  have hnumber : 1 ≤ pageNumber options := by
    unfold pageNumber
    split <;> omega
  exact Int.mul_nonneg (by omega) (pageLimit_nonneg options)

theorem names_orderByPieces {sort : Std.TreeMap String String} {defaultField name : String}
    (h : name ∈ names (SqlWhereBuilder.orderByPieces sort defaultField)) :
    name = defaultField ∨ ∃ entry ∈ sort.toList, name = entry.1 := by
  rw [SqlWhereBuilder.orderByPieces, names_append] at h
  split at h
  · exact Or.inl (List.mem_singleton.1 h)
  · obtain ⟨ps, hps, hname⟩ := (mem_names_joinPieces rfl).1 h
    obtain ⟨entry, hentry, rfl⟩ := List.mem_map.1 hps
    exact Or.inr ⟨entry, hentry, List.mem_singleton.1 hname⟩

/-- A run of the list builder is a listing of rows or one with aggregates. -/
theorem listStatements_ok {options : ListOptions} {ss : List String} {st : BuilderState}
    (h : listStatements printReal dialect schema options ⟨[], 1⟩ = .ok (ss, st)) :
    options.aggregates = [] ∧ listRows printReal dialect schema options ⟨[], 1⟩ = .ok (ss, st) ∨
      options.aggregates ≠ [] ∧ listAggregates dialect schema options ⟨[], 1⟩ = .ok (ss, st) := by
  unfold listStatements at h
  split_ifs at h with hfits hnil
  · exact Or.inl ⟨hnil, h⟩
  · exact Or.inr ⟨hnil, h⟩

/-- **A listing of rows reads as its template**: every name in it was checked. -/
theorem listRows_reads (hplain : PlainSchema printReal dialect schema) {options : ListOptions}
    {ss : List String} {st : BuilderState} (hnil : options.aggregates = [])
    (h : listRows printReal dialect schema options ⟨[], 1⟩ = .ok (ss, st)) :
    ReadAs (quote dialect) ss ((Call.list options).templates printReal dialect schema) := by
  simp only [listRows, SqlWhereBuilder.bind_ok, SqlWhereBuilder.pure_ok] at h
  obtain ⟨whereClause, st₁, hwhere, orderBy, st₂, horder, rfl, rfl⟩ := h
  have hq := isQuote dialect
  have htable := spells_quoteId dialect schema.name
  obtain ⟨hwhere, hwhereNames⟩ := listWhere_spells hplain hwhere
  obtain ⟨horder, hvalid⟩ := buildOrderBy_wrote horder
  obtain ⟨hfields, hfieldNames⟩ := spells_fieldList hplain
  simp only [Call.templates, hnil, if_true]
  refine .cons ?_ (.cons ?_ .nil)
  · have hcount : Spells (quote dialect) "SELECT COUNT(*) AS cnt FROM" [.word "SELECT",
        .word "COUNT", .lparen, .star, .rparen, .word "AS", .word "cnt", .word "FROM"] :=
      .fixed hq (by decide)
    refine ((hcount.after hq htable rfl).clause hq hwhere).reads ?_
    rw [Unquoted.append]
    exact ⟨by simp [Unquoted, hplain.table], hwhereNames⟩
  · have hselect : Spells (quote dialect) "SELECT" [.word "SELECT"] := .fixed hq (by decide)
    have hfrom : Spells (quote dialect) "FROM" [.word "FROM"] := .fixed hq (by decide)
    have hlimit : Spells (quote dialect) "LIMIT" [.word "LIMIT"] := .fixed hq (by decide)
    have hoffset : Spells (quote dialect) "OFFSET" [.word "OFFSET"] := .fixed hq (by decide)
    have hcolumns : Spells (quote dialect)
        ((if options.distinct then "DISTINCT " else "") ++ buildFieldList printReal dialect schema)
        ((if options.distinct then [.word "DISTINCT"] else []) ++
          fieldListTokens printReal dialect schema) := by
      split_ifs
      · have hdistinct : Spells (quote dialect) "DISTINCT" [.word "DISTINCT"] :=
          .fixed hq (by decide)
        exact hdistinct.after hq hfields rfl
      · simpa using hfields
    have hnumbers := (spells_number hq (pageLimit_nonneg options)).word hq hoffset
      (spells_number hq (pageOffset_nonneg options)) (rfl : " OFFSET " = " " ++ "OFFSET" ++ " ")
    have htail := horder.word hq hlimit hnumbers (rfl : " LIMIT " = " " ++ "LIMIT" ++ " ")
    have hlead := (hselect.after hq hcolumns rfl).word hq hfrom htable
      (rfl : " FROM " = " " ++ "FROM" ++ " ")
    have hall := (hlead.clause hq hwhere).blank hq htail
    refine (hall.congr (String.toList_inj.1 (by simp)) (by simp)).reads ?_
    have horderNames : Unquoted (quote dialect)
        (tokensOf (SqlWhereBuilder.orderByPieces options.sort (defaultOrderField schema))) := by
      refine unquoted_tokensOf.2 fun name hname => ?_
      rcases names_orderByPieces hname with rfl | ⟨entry, hentry, rfl⟩
      · exact unquoted_default hplain
      · exact unquoted_of_valid hplain (hvalid entry hentry)
    rw [← List.singleton_append]
    simp only [Unquoted.append]
    refine ⟨by simp [Unquoted], ⟨⟨⟨⟨?_, hfieldNames⟩, ?_⟩, hwhereNames⟩, horderNames⟩, ?_⟩
    · split_ifs <;> simp [Unquoted]
    · simp [Unquoted, hplain.table]
    · simp [Unquoted]

theorem names_aggregatePieces {agg : AggregateSpec} {name : String}
    (h : name ∈ names (aggregatePieces agg)) :
    agg.field ≠ "*" ∧ name = agg.field ∨ name = agg.aliasName := by
  unfold aggregatePieces at h
  split_ifs at h with hstar
  · exact Or.inr (List.mem_singleton.1 h)
  · rcases List.mem_cons.1 h with hname | hname
    · exact Or.inl ⟨hstar, hname⟩
    · exact Or.inr (List.mem_singleton.1 hname)

theorem names_groupByPieces {groupBy : List String} {name : String}
    (h : name ∈ names (SqlWhereBuilder.groupByPieces groupBy)) : name ∈ groupBy := by
  unfold SqlWhereBuilder.groupByPieces at h
  split_ifs at h
  · exact nomatch h
  · rw [names_append] at h
    obtain ⟨ps, hps, hname⟩ := (mem_names_joinPieces rfl).1 h
    obtain ⟨field, hfield, rfl⟩ := List.mem_map.1 hps
    obtain rfl := List.mem_singleton.1 hname
    exact hfield

/-- What a listing with aggregates is put together from. -/
theorem listAggregates_ok {options : ListOptions} {ss : List String} {st : BuilderState}
    (h : listAggregates dialect schema options ⟨[], 1⟩ = .ok (ss, st)) :
    ∃ whereClause st₁, SqlWhereBuilder.build options.conditions options.filterGroups options.filter
        (validFields schema) dialect.name ⟨[], 1⟩ = .ok (whereClause, st₁) ∧
      ∃ selectList st₂, SqlWhereBuilder.buildAggregateSelect options.aggregates options.groupBy
        (validFields schema) dialect.name st₁ = .ok (selectList, st₂) ∧
      ∃ groupBy st₃, SqlWhereBuilder.buildGroupBy options.groupBy (validFields schema) dialect.name
        st₂ = .ok (groupBy, st₃) ∧
      ss = ["SELECT " ++ selectList ++ " FROM " ++ quoteId dialect schema.name ++
        clause whereClause ++ clause groupBy] := by
  cases hgb : options.groupBy.find? fun gb => !(validFields schema).contains gb with
  | some gb =>
      simp only [listAggregates, hgb] at h
      exact nomatch h
  | none =>
      cases hagg : options.aggregates.find? fun agg =>
          agg.field ≠ "*" && !(validFields schema).contains agg.field with
      | some agg =>
          simp only [listAggregates, hgb, hagg] at h
          exact nomatch h
      | none =>
          simp only [listAggregates, hgb, hagg, SqlWhereBuilder.bind_ok,
            SqlWhereBuilder.pure_ok] at h
          obtain ⟨whereClause, st₁, hwhere, selectList, st₂, hselect, groupBy, st₃, hgroup, rfl, -⟩ :=
            h
          exact ⟨whereClause, st₁, hwhere, selectList, st₂, hselect, groupBy, st₃, hgroup, rfl⟩

/-- **A listing with aggregates reads as its template exactly when no alias has the quote in it**:
an alias is the one name that is not checked. -/
theorem listAggregates_reads_iff (hplain : PlainSchema printReal dialect schema)
    {options : ListOptions} {ss : List String} {st : BuilderState} (hne : options.aggregates ≠ [])
    (h : listAggregates dialect schema options ⟨[], 1⟩ = .ok (ss, st)) :
    ReadAs (quote dialect) ss ((Call.list options).templates printReal dialect schema) ↔
      ∀ agg ∈ options.aggregates, quote dialect ∉ agg.aliasName.toList := by
  obtain ⟨whereClause, st₁, hwhere, selectList, st₂, hselect, groupBy, st₃, hgroup, rfl⟩ :=
    listAggregates_ok h
  have hq := isQuote dialect
  have htable := spells_quoteId dialect schema.name
  obtain ⟨hwhere, hwhereNames⟩ := listWhere_spells hplain hwhere
  obtain ⟨hselect, hvalid, hgroupValid⟩ := buildAggregateSelect_wrote hselect
  have hgroup : SpellsClause (quote dialect) (clause groupBy)
      (tokensOf (SqlWhereBuilder.groupByPieces options.groupBy)) := by
    refine spells_clause ?_
    rcases buildGroupBy_wrote hgroup with ⟨rfl, hnil⟩ | hwrote
    · exact Or.inl ⟨rfl, by rw [hnil, tokensOf_nil]⟩
    · exact Or.inr hwrote
  simp only [Call.templates, hne, if_false]
  have hword : Spells (quote dialect) "SELECT" [.word "SELECT"] := .fixed hq (by decide)
  have hfrom : Spells (quote dialect) "FROM" [.word "FROM"] := .fixed hq (by decide)
  have hlead := (hword.after hq hselect (rfl : "SELECT " = "SELECT" ++ " ")).word hq hfrom htable
    (rfl : " FROM " = " " ++ "FROM" ++ " ")
  have hall := (hlead.clause hq hwhere).clause hq hgroup
  have hspells : Spells (quote dialect) _ (.word "SELECT" ::
      (tokensOf (SqlWhereBuilder.selectPieces options.aggregates options.groupBy) ++
        [.word "FROM", .ident schema.name] ++
        placed dialect.name 1 (listWherePieces dialect options) ++
        tokensOf (SqlWhereBuilder.groupByPieces options.groupBy))) := hall.congr rfl (by simp)
  rw [readAs_one, hspells.tokens_iff hq, ← List.singleton_append]
  simp only [Unquoted.append, unquoted_tokensOf]
  constructor
  · intro hquoted agg hagg
    refine hquoted.2.1.1.1 agg.aliasName ((mem_names_joinPieces rfl).2 ⟨aggregatePieces agg, ?_, ?_⟩)
    · exact List.mem_append_left _ (List.mem_map.2 ⟨agg, hagg, rfl⟩)
    · unfold aggregatePieces
      split_ifs <;> simp [names]
  · intro halias
    refine ⟨by simp [Unquoted], ⟨⟨?_, ?_⟩, hwhereNames⟩, ?_⟩
    · intro name hname
      obtain ⟨ps, hps, hname⟩ := (mem_names_joinPieces rfl).1 hname
      rw [List.mem_append] at hps
      rcases hps with hps | hps
      · obtain ⟨agg, hagg, rfl⟩ := List.mem_map.1 hps
        rcases names_aggregatePieces hname with ⟨hstar, rfl⟩ | rfl
        · exact unquoted_of_valid hplain (hvalid agg hagg hstar)
        · exact halias agg hagg
      · obtain ⟨field, hfield, rfl⟩ := List.mem_map.1 hps
        obtain rfl := List.mem_singleton.1 hname
        exact unquoted_of_valid hplain (hgroupValid name hfield)
    · simp [Unquoted, hplain.table]
    · intro name hname
      refine unquoted_of_valid hplain (hgroupValid name ?_)
      exact names_groupByPieces hname

/-! ### Filters given as JSON -/

/-- The keys of a filter are fields of the schema when none is unknown. -/
theorem unquoted_of_unknownKey (hplain : PlainSchema printReal dialect schema) {filter : Json}
    (h : unknownKey schema filter = none) {entry : String × Json} (hentry : entry ∈ filter.items) :
    quote dialect ∉ entry.1.toList := by
  have hknown := List.find?_eq_none.1 h entry.1 (List.mem_map_of_mem hentry)
  simp only [Bool.not_eq_true, Bool.not_eq_false', List.any_eq_true, decide_eq_true_eq] at hknown
  obtain ⟨field, hfield, hname⟩ := hknown
  exact hname ▸ hplain.fields field hfield

/-- The names of a filter are its keys. -/
theorem names_filterPieces {filter : Json} {name : String} :
    name ∈ names (filterPieces filter) ↔ ∃ entry ∈ filter.items, name = entry.1 := by
  unfold filterPieces
  split_ifs with hnil
  · rw [hnil]
    exact ⟨nofun, nofun⟩
  · have hcons : ∀ ps : List (Piece SQLiteQueryBuilder.Role), names (.kw .where :: ps) = names ps :=
      fun _ => rfl
    rw [hcons, mem_names_joinPieces rfl]
    simp [SQLiteQueryBuilder.equalsPieces, names]

theorem unquoted_filter (hplain : PlainSchema printReal dialect schema) {filter : Json}
    (h : unknownKey schema filter = none) (k : Nat) :
    Unquoted (quote dialect) (placed dialect.name k (filterPieces filter)) := by
  refine unquoted_placed.2 fun name hname => ?_
  obtain ⟨entry, hentry, rfl⟩ := names_filterPieces.1 hname
  exact unquoted_of_unknownKey hplain h hentry

/-- **An update of many rows reads as its template**: every key was checked. -/
theorem updateMany_reads (hplain : PlainSchema printReal dialect schema) {filter data : Json}
    {s : String} (h : updateManyStatement dialect schema filter data = .ok s) :
    ReadAs (quote dialect) [s] ((Call.updateMany filter data).templates printReal dialect schema) := by
  unfold updateManyStatement at h
  dsimp only at h
  split_ifs at h
  split at h
  · exact nomatch h
  · next hknown =>
      obtain rfl := Except.ok.inj h
      have hq := isQuote dialect
      have hupdate : Spells (quote dialect) "UPDATE" [.word "UPDATE"] := .fixed hq (by decide)
      have hset : Spells (quote dialect) "SET" [.word "SET"] := .fixed hq (by decide)
      have hassign := (@members_write dialect _ (fun field : EntityField => field.name)
        (fun field => .column field.name) (suppliedFields schema data) 1).commas
      have hlead := (hupdate.after hq (spells_quoteId dialect schema.name)
        (rfl : "UPDATE " = "UPDATE" ++ " ")).word hq hset hassign (rfl : " SET " = " " ++ "SET" ++ " ")
      have hall := hlead.clause hq
        (spells_filtered filter ((suppliedFields schema data).length + 1))
      refine readAs_one.2 ((hall.congr rfl ?_).reads ?_)
      · simp
      · simp only [Unquoted.append]
        refine ⟨⟨by simp [Unquoted, hplain.table], ?_⟩, unquoted_filter hplain hknown _⟩
        refine unquoted_placed.2 fun name hname => ?_
        obtain ⟨ps, hps, hname⟩ := (mem_names_joinPieces rfl).1 hname
        obtain ⟨field, hfield, rfl⟩ := List.mem_map.1 hps
        obtain rfl := List.mem_singleton.1 hname
        exact hplain.fields field (List.mem_of_mem_filter hfield)

/-- **The search for one row reads as its template**: every key was checked. -/
theorem findFirst_reads (hplain : PlainSchema printReal dialect schema) {filter : Json} {s : String}
    (h : findFirstStatement printReal dialect schema filter = .ok s) :
    ReadAs (quote dialect) [s] ((Call.findFirst filter).templates printReal dialect schema) := by
  unfold findFirstStatement at h
  split at h
  · exact nomatch h
  · next hknown =>
      obtain rfl := Except.ok.inj h
      have hq := isQuote dialect
      obtain ⟨hfields, hfieldNames⟩ := spells_fieldList hplain
      have hselect : Spells (quote dialect) "SELECT" [.word "SELECT"] := .fixed hq (by decide)
      have hfrom : Spells (quote dialect) "FROM" [.word "FROM"] := .fixed hq (by decide)
      have hlimit : Spells (quote dialect) "LIMIT 1" [.word "LIMIT", .num "1"] :=
        .fixed hq (by decide)
      have hlead := (hselect.after hq hfields (rfl : "SELECT " = "SELECT" ++ " ")).word hq hfrom
        (spells_quoteId dialect schema.name) (rfl : " FROM " = " " ++ "FROM" ++ " ")
      have hall := (hlead.clause hq (spells_filtered filter 1)).before hq hlimit
        (rfl : " LIMIT 1" = " " ++ "LIMIT 1")
      refine readAs_one.2 ((hall.congr rfl (by simp)).reads ?_)
      rw [← List.singleton_append]
      simp only [Unquoted.append]
      refine ⟨by simp [Unquoted], ⟨⟨hfieldNames, ?_⟩, unquoted_filter hplain hknown 1⟩, ?_⟩
      · simp [Unquoted, hplain.table]
      · simp [Unquoted]

/-- The quotes of joined texts. -/
theorem count_join {q : Char} {sep : String} (hsep : q ∉ sep.toList) : ∀ ss : List String,
    (SqlWhereBuilder.join ss sep).toList.count q = (ss.map fun s => s.toList.count q).sum
  | [] => rfl
  | [s] => (Nat.add_zero _).symm
  | s :: s' :: ss => by
      rw [SqlWhereBuilder.join, String.toList_append, String.toList_append, List.count_append,
        List.count_append, List.count_eq_zero_of_not_mem hsep, count_join hsep (s' :: ss)]
      rfl

/-- Quoting the keys of a filter adds two quotes for each. -/
theorem count_memberFragments (filter : List (String × Json)) : ∀ k : Nat,
    (((filter.zipIdx k).map fun x =>
        memberFragment dialect (quoteId dialect x.1.1) x.2).map fun s =>
          s.toList.count (quote dialect)).sum =
      (((filter.zipIdx k).map fun x => memberFragment dialect x.1.1 x.2).map fun s =>
          s.toList.count (quote dialect)).sum + 2 * filter.length := by
  induction filter with
  | nil => exact fun _ => rfl
  | cons entry filter ih =>
      intro k
      have hone : (memberFragment dialect (quoteId dialect entry.1) k).toList.count (quote dialect) =
          (memberFragment dialect entry.1 k).toList.count (quote dialect) + 2 := by
        have hquoted : (quoteId dialect entry.1).toList =
            quote dialect :: entry.1.toList ++ [quote dialect] := by
          cases dialect <;>
            simp [quoteId, quote, SqlWhereBuilder.quoteChar, Dialect.name]
        simp only [memberFragment, String.toList_append, List.count_append, hquoted,
          List.count_cons_self, List.count_nil]
        omega
      have hrest := ih (k + 1)
      simp only [List.zipIdx_cons, List.map_cons, List.sum_cons, List.length_cons] at hrest ⊢
      omega

/-- **A deletion of many rows reads as its template only when its filter is empty**: a key is
written as it is, and not as a quoted identifier. -/
theorem deleteMany_reads_iff (hplain : PlainSchema printReal dialect schema) (filter : Json) :
    ReadAs (quote dialect) [deleteManyStatement dialect schema filter]
        ((Call.deleteMany filter).templates printReal dialect schema) ↔ filter.items = [] := by
  have hq := isQuote dialect
  have hdelete : Spells (quote dialect) "DELETE FROM" [.word "DELETE", .word "FROM"] :=
    .fixed hq (by decide)
  have hlead := hdelete.after hq (spells_quoteId dialect schema.name)
    (rfl : "DELETE FROM " = "DELETE FROM" ++ " ")
  -- what the statement would be with its keys in quotes
  have hquoted := hlead.clause hq (spells_filtered filter 1)
  rw [Call.templates, readAs_one]
  constructor
  · intro hread
    by_contra hne
    refine hquoted.not_tokens hq ?_ hread
    have hfiltered : ∀ name : String → String, filtered (memberFragments dialect name filter 1) =
        " WHERE " ++ SqlWhereBuilder.join (memberFragments dialect name filter 1) " AND " := by
      intro name
      refine if_neg fun hempty => ?_
      have hlength := congrArg List.length hempty
      rw [memberFragments, List.length_map, List.length_zipIdx] at hlength
      exact hne (List.length_eq_zero_iff.1 hlength)
    have hsep : quote dialect ∉ " AND ".toList := by
      rcases hq with hq | hq <;> rw [hq] <;> decide
    have hcount := @count_memberFragments dialect filter.items 1
    have hlength : 0 < filter.items.length := List.length_pos_iff.2 hne
    simp only [deleteManyStatement, hfiltered, String.toList_append, List.count_append,
      count_join hsep]
    simp only [memberFragments, id]
    omega
  · intro hnil
    have hstatement : deleteManyStatement dialect schema filter =
        "DELETE FROM " ++ quoteId dialect schema.name := by
      rw [deleteManyStatement, memberFragments, hnil]
      exact String.append_empty
    have hpieces : filterPieces filter = [] := if_pos hnil
    rw [hstatement, hpieces, SqlWhereBuilder.placed_nil]
    exact (hlead.congr rfl rfl).reads (by simp [Unquoted, hplain.table])

end SqlAdapter
end Adapters

/-! ### Names of SQLite -/

namespace SQLiteQueryBuilder

open Sql

/-- The names that a call is given. -/
def Call.userNames : Call → List String
  | list options =>
      SqlWhereBuilder.usedFields options.conditions options.filterGroups options.filter ++
        options.groupBy ++ options.aggregates.flatMap (fun agg => [agg.field, agg.aliasName]) ++
        options.sort.toList.map Prod.fst
  | count options =>
      SqlWhereBuilder.usedFields options.conditions options.filterGroups options.filter ++
        options.groupBy
  | updateMany filter _ | deleteMany filter | findFirst filter => filter.items.map Prod.fst
  | read _ | remove _ | insert _ | update _ _ => []

/-- The names of the schema have no quote in them. -/
structure PlainSchema (schema : Core.EntitySchema) : Prop where
  table : '"' ∉ schema.name.toList
  fields : ∀ field ∈ schema.fields, '"' ∉ field.name.toList

/-- A template without a quote in its names. -/
def Plain (ps : List (Piece Role)) : Prop := ∀ name ∈ names ps, '"' ∉ name.toList

@[simp] theorem plain_nil : Plain [] := nofun

theorem plain_append {ps qs : List (Piece Role)} : Plain (ps ++ qs) ↔ Plain ps ∧ Plain qs := by
  rw [Plain, names_append, List.forall_mem_append]
  exact Iff.rfl

theorem plain_ident {s : String} {ps : List (Piece Role)} :
    Plain (.ident s :: ps) ↔ '"' ∉ s.toList ∧ Plain ps := by
  rw [Plain, names, List.forall_mem_cons]
  exact Iff.rfl

/-- A piece that is no name. -/
theorem plain_cons {p : Piece Role} (hp : ∀ s, p ≠ .ident s) {ps : List (Piece Role)} :
    Plain (p :: ps) ↔ Plain ps := by
  rw [Plain, names]
  · exact Iff.rfl
  · exact hp

theorem plain_joinPieces {sep : Piece Role} (hsep : names [sep] = []) {α : Type}
    {f : α → List (Piece Role)} {l : List α} :
    Plain (joinPieces sep (l.map f)) ↔ ∀ a ∈ l, Plain (f a) := by
  simp only [Plain, mem_names_joinPieces hsep, List.mem_map, exists_exists_and_eq_and]
  exact ⟨fun h a ha name hname => h name ⟨a, ha, hname⟩,
    fun h name ⟨a, ha, hname⟩ => h a ha name hname⟩

theorem plain_equalsPieces {column : String} {role : Role} :
    Plain (equalsPieces column role) ↔ '"' ∉ column.toList := by
  simp [equalsPieces, plain_ident, plain_cons]

theorem plain_name {s : String} : Plain (name s) ↔ '"' ∉ s.toList := by
  simp [plain_ident]

theorem plain_fieldListPieces {schema : Core.EntitySchema} (hplain : PlainSchema schema) :
    Plain (fieldListPieces schema) :=
  (plain_joinPieces rfl).2 fun field hfield => plain_name.2 (hplain.fields field hfield)

theorem plain_filteredPieces {filter : Json} :
    Plain (filteredPieces filter) ↔ ∀ key ∈ filter.items.map Prod.fst, '"' ∉ key.toList := by
  unfold filteredPieces
  rw [List.forall_mem_map]
  split_ifs with hempty
  · rw [Json.items_of_isEmpty hempty]
    exact iff_of_true plain_nil nofun
  · rw [plain_cons (by simp), plain_joinPieces rfl]
    simp only [plain_equalsPieces]

theorem plain_conditionPieces {cond : FilterCondition} :
    Plain (conditionPieces cond) ↔ '"' ∉ cond.field.toList := by
  rw [Plain, names_conditionPieces, List.forall_mem_singleton]

theorem plain_groupPieces {group : FilterGroup} :
    Plain (groupPieces group) ↔ ∀ cond ∈ group.conditions, '"' ∉ cond.field.toList := by
  rw [groupPieces, plain_cons (by simp), plain_append, plain_joinPieces rfl]
  simp only [plain_conditionPieces, plain_cons (p := Piece.rparen) (by simp), plain_nil, and_true]

/-- The names of the filters of a listing are those of its conditions. -/
theorem plain_whereClausePieces {options : ListOptions} :
    Plain (whereClausePieces options) ↔
      ∀ f ∈ SqlWhereBuilder.usedFields options.conditions options.filterGroups options.filter,
        '"' ∉ f.toList := by
  have hparts : (∀ ps ∈ wherePieces options, Plain ps) ↔
      ∀ f ∈ SqlWhereBuilder.usedFields options.conditions options.filterGroups options.filter,
        '"' ∉ f.toList := by
    simp only [wherePieces, SqlWhereBuilder.usedFields, List.forall_mem_append,
      List.forall_mem_map, List.mem_flatMap, plain_equalsPieces, plain_conditionPieces,
      plain_groupPieces, List.mem_filter]
    refine and_congr Iff.rfl ⟨?_, ?_⟩
    · rintro h f ⟨group, hgroup, hf⟩
      obtain ⟨cond, hcond, rfl⟩ := List.mem_map.1 hf
      refine h group ⟨hgroup, decide_eq_true fun hnil => ?_⟩ cond hcond
      rw [hnil] at hcond
      cases hcond
    · exact fun h group hgroup cond hcond =>
        h cond.field ⟨group, hgroup.1, List.mem_map_of_mem hcond⟩
  unfold whereClausePieces
  rw [← hparts]
  split_ifs with hnil
  · rw [hnil]
    exact iff_of_true plain_nil (List.forall_mem_nil _)
  · rw [plain_cons (by simp)]
    have hjoin := @plain_joinPieces (.kw .and) rfl _ id (wherePieces options)
    rwa [List.map_id] at hjoin

theorem plain_groupByPieces {options : ListOptions} :
    Plain (groupByPieces options) ↔ ∀ f ∈ options.groupBy, '"' ∉ f.toList := by
  unfold groupByPieces
  split_ifs with hnil
  · rw [hnil]
    exact iff_of_true plain_nil nofun
  · rw [plain_append, plain_joinPieces rfl]
    simp [plain_cons, plain_name]

theorem plain_orderByPieces {options : ListOptions} :
    Plain (orderByPieces options) ↔ ∀ key ∈ options.sort.toList.map Prod.fst, '"' ∉ key.toList := by
  unfold orderByPieces
  rw [List.forall_mem_map]
  split_ifs with hempty
  · have hnil : options.sort.toList = [] := by
      rw [← List.isEmpty_iff, Std.TreeMap.isEmpty_toList]
      exact hempty
    rw [hnil]
    exact iff_of_true plain_nil nofun
  · rw [plain_append, plain_joinPieces rfl]
    simp [plain_cons, orderPieces, plain_ident]

/-- The columns of a listing name the aggregates, and the grouping with them. -/
theorem plain_selectPieces {schema : Core.EntitySchema} (hplain : PlainSchema schema)
    {options : ListOptions} :
    Plain (selectPieces schema options) ↔
      (options.aggregates ≠ [] → ∀ f ∈ options.groupBy, '"' ∉ f.toList) ∧
        ∀ s ∈ options.aggregates.flatMap (fun agg => [agg.field, agg.aliasName]),
          '"' ∉ s.toList := by
  unfold selectPieces
  split_ifs with hnil
  · rw [hnil]
    exact iff_of_true (plain_fieldListPieces hplain) ⟨fun hne => absurd rfl hne, nofun⟩
  · have hjoin := @plain_joinPieces .comma rfl _ id
      (options.groupBy.map name ++ options.aggregates.map aggregatePieces)
    rw [List.map_id] at hjoin
    simp only [hjoin, List.forall_mem_append, List.forall_mem_map, id, plain_name, hnil,
      ne_eq, not_false_eq_true, forall_const, List.mem_flatMap]
    refine and_congr Iff.rfl ⟨?_, ?_⟩
    · rintro h s ⟨agg, hagg, hs⟩
      have hagg := h agg hagg
      simp only [aggregatePieces, plain_cons, plain_ident, plain_nil, and_true, ne_eq, reduceCtorEq,
        not_false_eq_true, forall_const] at hagg
      rcases List.mem_cons.1 hs with rfl | hs
      · exact hagg.1
      · exact List.mem_singleton.1 hs ▸ hagg.2
    · intro h agg hagg
      simp only [aggregatePieces, plain_cons, plain_ident, plain_nil, and_true, ne_eq, reduceCtorEq,
        not_false_eq_true, forall_const]
      exact ⟨h agg.field ⟨agg, hagg, by simp⟩, h agg.aliasName ⟨agg, hagg, by simp⟩⟩

/-- **The names of a statement are those of the schema and those that the call is given.** -/
theorem Call.plain_template_iff {schema : Core.EntitySchema} (hplain : PlainSchema schema)
    (call : Call) :
    Plain (call.template schema) ↔ ∀ s ∈ call.userNames, '"' ∉ s.toList := by
  cases call with
  | list options =>
      have hselect := @plain_selectPieces schema hplain options
      simp only [template, userNames, plain_append, plain_cons, plain_ident, plain_nil, and_true,
        true_and, ne_eq, reduceCtorEq, not_false_eq_true, forall_const, hplain.table, hselect,
        plain_whereClausePieces, plain_groupByPieces, plain_orderByPieces, List.forall_mem_append]
      constructor
      · rintro ⟨⟨-, haggs⟩, ⟨hwhere, hgroup⟩, horder⟩
        exact ⟨⟨⟨hwhere, hgroup⟩, haggs⟩, horder⟩
      · rintro ⟨⟨⟨hwhere, hgroup⟩, haggs⟩, horder⟩
        exact ⟨⟨fun _ => hgroup, haggs⟩, ⟨hwhere, hgroup⟩, horder⟩
  | count options =>
      simp only [template, userNames, plain_append, plain_cons, plain_ident, plain_nil, and_true,
        ne_eq, reduceCtorEq, not_false_eq_true, forall_const, hplain.table,
        plain_whereClausePieces, plain_groupByPieces, List.forall_mem_append, true_and]
  | read id =>
      have hid : Plain (filteredPieces (byId id)) := by
        refine plain_filteredPieces.2 fun key hkey => ?_
        obtain rfl : "id" = key := by simpa [byId, Json.items, Json.fields] using hkey
        decide
      have hfields := plain_fieldListPieces hplain
      refine iff_of_true ?_ (List.forall_mem_nil _)
      simp [template, plain_append, plain_cons, plain_ident, hplain.table, hid, hfields]
  | remove id =>
      refine iff_of_true ?_ (List.forall_mem_nil _)
      simp [template, plain_cons, plain_ident, hplain.table, plain_equalsPieces]
  | insert data =>
      refine iff_of_true ?_ (List.forall_mem_nil _)
      have hnames : Plain (joinPieces .comma
          ((suppliedFields schema data).map fun field => name field.name)) :=
        (plain_joinPieces rfl).2 fun field hfield =>
          plain_name.2 (hplain.fields field (List.mem_of_mem_filter hfield))
      have hslots : Plain (joinPieces .comma
          ((suppliedFields schema data).map fun field => [.slot (.column field.name)])) :=
        (plain_joinPieces rfl).2 fun field _ => by simp [plain_cons]
      simp [template, plain_append, plain_cons, plain_ident, hplain.table, hnames, hslots]
  | update data id =>
      refine iff_of_true ?_ (List.forall_mem_nil _)
      have hset : Plain (joinPieces .comma ((updatedFields schema data).map assignmentPieces)) :=
        (plain_joinPieces rfl).2 fun field hfield =>
          plain_equalsPieces.2 (hplain.fields field (List.mem_of_mem_filter hfield))
      simp [template, plain_append, plain_cons, plain_ident, hplain.table, hset, plain_equalsPieces]
  | updateMany filter data =>
      have hset : Plain (joinPieces .comma ((suppliedFields schema data).map assignmentPieces)) :=
        (plain_joinPieces rfl).2 fun field hfield =>
          plain_equalsPieces.2 (hplain.fields field (List.mem_of_mem_filter hfield))
      rw [template, userNames, ← plain_filteredPieces]
      simp [plain_append, plain_cons, plain_ident, hplain.table, hset]
  | deleteMany filter =>
      rw [template, userNames, ← plain_filteredPieces]
      simp [plain_cons, plain_ident, hplain.table]
  | findFirst filter =>
      have hfields := plain_fieldListPieces hplain
      rw [template, userNames, ← plain_filteredPieces]
      simp [plain_append, plain_cons, plain_ident, hplain.table, hfields]

end SQLiteQueryBuilder

/-! ### Both builders -/

namespace Adapters

open Sql

/-- A request to one of the two builders. -/
inductive StatementRequest where
  | sqlite (schema : Core.EntitySchema) (call : SQLiteQueryBuilder.Call)
  | sql (dialect : Dialect) (schema : EntitySchema) (call : SqlAdapter.Call)

namespace StatementRequest

/-- The quote of its identifiers. -/
def quote : StatementRequest → Char
  | sqlite _ _ => '"'
  | sql dialect _ _ => SqlAdapter.quote dialect

/-- The statements made, or none: the request was refused, or there is nothing to set. -/
def statements (printReal : Int → Int → String) : StatementRequest → Option (List String)
  | sqlite schema call =>
      if call.statement schema = "" then none else some [call.statement schema]
  | sql dialect schema call => (call.statements printReal dialect schema).toOption

/-- What they are to read as. -/
def templates (printReal : Int → Int → String) : StatementRequest → List (List Token)
  | sqlite schema call => [tokensOf (call.template schema)]
  | sql dialect schema call => call.templates printReal dialect schema

/-- The schema's own texts are plain. -/
def PlainSchema (printReal : Int → Int → String) : StatementRequest → Prop
  | sqlite schema _ => SQLiteQueryBuilder.PlainSchema schema
  | sql dialect schema _ => SqlAdapter.PlainSchema printReal dialect schema

/-- The names that nobody checks have no quote in them, and there are none where nobody quotes. -/
def Clean : StatementRequest → Prop
  | sqlite _ call => ∀ name ∈ call.userNames, '"' ∉ name.toList
  | sql dialect _ (.list options) =>
      ∀ agg ∈ options.aggregates, SqlAdapter.quote dialect ∉ agg.aliasName.toList
  | sql _ _ (.deleteMany filter) => filter.items = []
  | sql _ _ _ => True

theorem map_ok {α β ε : Type} {f : α → β} {x : Except ε α} {b : β} (h : x.map f = .ok b) :
    ∃ a, x = .ok a ∧ f a = b := by
  cases x with
  | error e => exact nomatch h
  | ok a => exact ⟨a, rfl, Except.ok.inj h⟩

theorem toOption_ok {α ε : Type} {x : Except ε α} {a : α} (h : x.toOption = some a) :
    x = .ok a := by
  cases x with
  | error e => exact nomatch h
  | ok b => exact congrArg Except.ok (Option.some.inj h)

/-- **Statements read as their templates exactly when the request is clean.**  Each name of the
request is then one quoted identifier and each value a placeholder, whatever the names and values
are. -/
theorem statements_read_iff (printReal : Int → Int → String) {request : StatementRequest}
    {ss : List String} (hplain : request.PlainSchema printReal)
    (h : request.statements printReal = some ss) :
    ReadAs request.quote ss (request.templates printReal) ↔ request.Clean := by
  cases request with
  | sqlite schema call =>
      simp only [statements] at h
      split_ifs at h with hne
      obtain rfl := Option.some.inj h
      have hspells := call.spells schema hne
      rw [quote, templates, readAs_one, hspells.tokens_iff SQLiteQueryBuilder.isQuote,
        unquoted_tokensOf]
      exact call.plain_template_iff hplain
  | sql dialect schema call =>
      have hok : call.statements printReal dialect schema = .ok ss :=
        toOption_ok h
      cases call with
      | list options =>
          obtain ⟨⟨ss', st⟩, hrun, rfl⟩ := map_ok hok
          rcases SqlAdapter.listStatements_ok hrun with ⟨hnil, hrows⟩ | ⟨hne, haggs⟩
          · refine iff_of_true (SqlAdapter.listRows_reads hplain hnil hrows) ?_
            rw [Clean, hnil]
            nofun
          · exact SqlAdapter.listAggregates_reads_iff hplain hne haggs
      | updateMany filter data =>
          obtain ⟨s, hs, rfl⟩ := map_ok hok
          exact iff_of_true (SqlAdapter.updateMany_reads hplain hs) trivial
      | deleteMany filter =>
          obtain rfl := Except.ok.inj hok
          exact SqlAdapter.deleteMany_reads_iff hplain filter
      | findFirst filter =>
          obtain ⟨s, hs, rfl⟩ := map_ok hok
          exact iff_of_true (SqlAdapter.findFirst_reads hplain hs) trivial

/-- A count of the posts of each author, filtered by a condition. -/
theorem statements_read_count :
    let schema : EntitySchema :=
      { name := "post"
        fields := [{ name := "id", type := "uuid" }, { name := "author", type := "string" }] }
    let request : StatementRequest := .sql .postgres schema (.list
      { conditions := [{ field := "author", op := .ne, value := "\" OR 1=1" }]
        aggregates := [⟨.count, "*", "posts of one"⟩], groupBy := ["author"] })
    ReadAs '"' ["SELECT COUNT(*) AS \"posts of one\", \"author\" FROM \"post\" " ++
        "WHERE \"author\" <> $1 GROUP BY \"author\""]
      (request.templates fun _ _ => "") := by
  intro schema request
  have hplain : request.PlainSchema fun _ _ => "" :=
    ⟨by decide, by decide, by
      intro field hfield _ default hdefault
      have hnone : field.defaultValue = none := by
        rcases List.mem_cons.1 hfield with rfl | hfield
        · rfl
        · rw [List.mem_singleton.1 hfield]
      exact absurd (hnone.symm.trans hdefault) nofun⟩
  have hclean : request.Clean := List.forall_mem_singleton.2 (by decide)
  exact (statements_read_iff (fun _ _ => "") hplain (by decide +kernel)).2 hclean

/-- **A key of `deleteMany` is read as SQL.**  The filter asks for the rows whose column of that
name is empty, and the statement deletes every row. -/
theorem deleteMany_key_is_read :
    let schema : EntitySchema := { name := "post", fields := [{ name := "id", type := "uuid" }] }
    let request : StatementRequest :=
      .sql .postgres schema (.deleteMany (.obj [("1 = 1 OR id", .str "")]))
    request.statements (fun _ _ => "") =
        some ["DELETE FROM \"post\" WHERE 1 = 1 OR id = $1"] ∧
      tokens '"' "DELETE FROM \"post\" WHERE 1 = 1 OR id = $1".toList =
        some [.word "DELETE", .word "FROM", .ident "post", .kw .where, .num "1", .eq, .num "1",
          .kw .or, .word "id", .eq, .param (some 1)] ∧
      ¬ ReadAs '"' ["DELETE FROM \"post\" WHERE 1 = 1 OR id = $1"]
        (request.templates fun _ _ => "") := by
  intro schema request
  refine ⟨by decide +kernel, by decide +kernel, ?_⟩
  have htemplates : request.templates (fun _ _ => "") =
      [[.word "DELETE", .word "FROM", .ident "post", .kw .where, .ident "1 = 1 OR id", .eq,
        .param (some 1)]] := by decide +kernel
  rw [htemplates, readAs_one]
  decide +kernel

end StatementRequest
end Adapters
end Dbal
