/-
# Whether the pages of a listing partition it

`SqlAdapter::list` and `SQLiteAdapter::list` send two statements for a page: one counts the rows
and one reads the page (`listRows_asks`, `list_asks`).  Both have the same condition.  The reading
one is sorted by the given fields, or by the field `createdAt` or the first one, which may tie;
without a sort, that of SQLite has no order at all.  `DISTINCT` is asked for by the `SqlAdapter`
only, and by neither when the rows are counted.

So the pages partition the result, whatever the database does where the statements leave it open,
exactly when the count fits into an `int`, no row matches twice where distinct rows are asked for,
and no page ends between two different rows that the order does not tell apart
(`pages_partition_iff`).
-/

import Dbal.Adapters.SQLiteTypeConverter
import Dbal.Adapters.StatementNames
import Dbal.Sql.Listing

namespace Dbal
namespace Adapters

open Sql (Database OrderTerm)

/-! ## What the statements ask for -/

/-- The terms of a sort. -/
def orderTerms (sort : Std.TreeMap String String) : List OrderTerm :=
  sort.toList.map fun entry => ⟨entry.1, !(entry.2 = "asc" || entry.2 = "ASC")⟩

/-- A sort is written as its terms are. -/
theorem orderTokens_orderTerms {ρ : Type} {sort : Std.TreeMap String String}
    (hsort : sort.isEmpty = false) {f : String × String → List (Sql.Piece ρ)}
    (hf : ∀ entry, f entry = [.ident entry.1,
      .word (if entry.2 = "asc" ∨ entry.2 = "ASC" then "ASC" else "DESC")]) :
    Sql.tokensOf ([.word "ORDER", .word "BY"] ++ Sql.joinPieces .comma (sort.toList.map f)) =
      Sql.orderTokens (orderTerms sort) := by
  have hne : sort.toList ≠ [] := fun hnil => by
    rw [← List.isEmpty_iff, Std.TreeMap.isEmpty_toList, hsort] at hnil
    cases hnil
  rw [Sql.orderTokens, if_neg (by simpa [orderTerms] using hne), Sql.tokensOf_append,
    Sql.tokensOf_joinPieces, orderTerms, List.map_map, List.map_map]
  refine congrArg _ (congrArg _ (List.map_congr_left fun entry _ => ?_))
  rw [Function.comp_apply, Function.comp_apply, hf]
  by_cases hasc : entry.2 = "asc" ∨ entry.2 = "ASC"
  · have hup : (entry.2 = "asc" || entry.2 = "ASC") = true := by simpa using hasc
    simp [Sql.Piece.token, hasc, hup]
  · have hdown : (entry.2 = "asc" || entry.2 = "ASC") = false := by simpa using hasc
    simp [Sql.Piece.token, hasc, hdown]

namespace SqlAdapter

variable (printReal : Int → Int → String) (dialect : Dialect) (schema : EntitySchema)

/-- What `list` asks for. -/
def listing (options : ListOptions) : Sql.Listing where
  distinct := options.distinct
  columns := fieldListTokens printReal dialect schema
  table := schema.name
  condition := SqlWhereBuilder.placed dialect.name 1 (listWherePieces dialect options)
  order := if options.sort.isEmpty then [⟨defaultOrderField schema, true⟩]
    else orderTerms options.sort
  limit := (pageLimit options).toNat
  offset := (pageOffset options).toNat

variable {printReal dialect schema}

/-- **The statements of a listing ask for its count and its page.** -/
theorem listRows_asks (hplain : PlainSchema printReal dialect schema) {options : ListOptions}
    {ss : List String} {st : SqlWhereBuilder.BuilderState} (haggregates : options.aggregates = [])
    (h : listRows printReal dialect schema options ⟨[], 1⟩ = .ok (ss, st)) :
    ReadAs (quote dialect) ss
      [(listing printReal dialect schema options).countTokens [.word "AS", .word "cnt"],
        (listing printReal dialect schema options).tokens (.num (toString (pageLimit options)))
          (.num (toString (pageOffset options)))] := by
  have horder :
      Sql.tokensOf (SqlWhereBuilder.orderByPieces options.sort (defaultOrderField schema)) =
        Sql.orderTokens (listing printReal dialect schema options).order := by
    rw [SqlWhereBuilder.orderByPieces, listing]
    cases hsort : options.sort.isEmpty with
    | true => rfl
    | false => exact orderTokens_orderTerms hsort fun _ => rfl
  have hreads := listRows_reads hplain haggregates h
  rw [Call.templates, if_pos haggregates, horder] at hreads
  exact hreads

end SqlAdapter

end Adapters

namespace SQLiteQueryBuilder

open Dbal.Core (EntitySchema)

/-- What `list` asks for. -/
def listing (schema : EntitySchema) (options : ListOptions) : Sql.Listing where
  distinct := false
  columns := Sql.tokensOf (fieldListPieces schema)
  table := schema.name
  condition := Sql.tokensOf (whereClausePieces options)
  order := Adapters.orderTerms options.sort
  limit := (SQLiteTypeConverter.pageLimit options).toNat
  offset := (SQLiteTypeConverter.pageOffset options).toNat

/-- The statements of `list` are those of its listing, with the numbers bound. -/
def Asks (schema : EntitySchema) (options : ListOptions) : Prop :=
  Sql.tokensOf ((Call.count options).template schema) = (listing schema options).countTokens [] ∧
    Sql.tokensOf ((Call.list options).template schema) =
      (listing schema options).tokens (.param none) (.param none)

/-- **The statements of a listing ask for its count and its page.** -/
theorem list_asks (schema : EntitySchema) {options : ListOptions}
    (haggregates : options.aggregates = []) (hgroupBy : options.groupBy = []) :
    Asks schema options := by
  have hgroup : groupByPieces options = [] := if_pos hgroupBy
  have hselect : selectPieces schema options = fieldListPieces schema := if_pos haggregates
  have horder : Sql.tokensOf (orderByPieces options) =
      Sql.orderTokens (Adapters.orderTerms options.sort) := by
    rw [orderByPieces]
    cases hsort : options.sort.isEmpty with
    | true =>
        have hnil : options.sort.toList = [] := by
          rw [← List.isEmpty_iff, Std.TreeMap.isEmpty_toList, hsort]
        simp [Adapters.orderTerms, hnil, Sql.orderTokens]
    | false => exact Adapters.orderTokens_orderTerms hsort fun _ => rfl
  constructor
  · simp [Call.template, Sql.Listing.countTokens, listing, hgroup, Sql.Piece.token]
  · simp [Call.template, Sql.Listing.tokens, listing, hgroup, hselect, horder, Sql.Piece.token]

end SQLiteQueryBuilder

namespace Adapters

open Sql (Database)
open Store (Arranged TotalPreorder Unsplit window)

/-! ## Pages -/

section Pages

variable {τ : Type}

/-- The pages 1, 2, 3, ... are the rows, one after the other, and each tells how many there are.
`Lists page items total` is an answer to the listing of a page. -/
structure Partitions (limit : Nat) (Lists : Int → List τ → Int → Prop) (rows : List τ) : Prop where
  pages (count : Nat) (items : Nat → List τ) :
    (∀ k < count, ∃ total, Lists (k + 1) (items k) total) → rows.length ≤ count * limit →
    ((List.range count).flatMap items).Perm rows
  total {page : Int} {items : List τ} {total : Int} :
    0 < page → Lists page items total → total = rows.length

variable [DecidableEq τ] {le : τ → τ → Bool} {statementRows rows : List τ} {limit : Nat}

/-- A page of an arrangement, up to the last one whose offset is an `int`. -/
def IsPage (le : τ → τ → Bool) (statementRows : List τ) (limit k : Nat) (items : List τ) : Prop :=
  k * limit ≤ intMax ∧
    ∃ a, Arranged le statementRows a ∧ items = window (k * limit) limit a

/-- **The pages of a statement are the rows exactly when the statement is about these rows and no
page ends between two that tie.** -/
theorem pages_perm_rows_iff (hle : TotalPreorder le) (hlimit : 0 < limit)
    (hrows : rows.length ≤ intMax) :
    (∀ (count : Nat) (items : Nat → List τ),
      (∀ k < count, IsPage le statementRows limit k (items k)) → rows.length ≤ count * limit →
      ((List.range count).flatMap items).Perm rows) ↔
    statementRows.Perm rows ∧ Unsplit le limit statementRows := by
  constructor
  · intro h
    have henough : rows.length < (rows.length / limit + 1) * limit := by
      rw [Nat.succ_mul]
      exact Nat.lt_div_mul_add hlimit
    have hfits : ∀ k < rows.length / limit + 1, k * limit ≤ intMax := fun k hk =>
      (Nat.mul_le_mul_right limit (Nat.le_of_lt_succ hk)).trans
        ((Nat.div_mul_le_self _ _).trans hrows)
    have hpages : ∀ arrangement : Nat → List τ,
        (∀ k < rows.length / limit + 1, Arranged le statementRows (arrangement k)) →
        (Store.pagesOf limit (rows.length / limit + 1) arrangement).Perm rows := by
      intro arrangement harranged
      refine h _ (fun k => Store.numberedPage limit (k + 1) (arrangement k)) (fun k hk => ?_)
        henough.le
      exact ⟨hfits k hk, arrangement k, harranged k hk, by rw [Store.numberedPage]; rfl⟩
    obtain ⟨a, ha⟩ := hle.exists_arranged statementRows
    have hfront := hpages (fun _ => a) fun _ _ => ha
    rw [Store.pagesOf, Store.flatMap_numberedPage_eq_take] at hfront
    have hlength := hfront.length_eq
    rw [List.length_take] at hlength
    have hall : a.length ≤ (rows.length / limit + 1) * limit := by omega
    rw [List.take_of_length_le hall] at hfront
    have hperm := ha.1.symm.trans hfront
    exact ⟨hperm, (Store.pages_perm_iff hle (ha.1.length_eq ▸ hall)).1 fun arrangement harranged =>
      (hpages arrangement harranged).trans hperm.symm⟩
  · rintro ⟨hperm, hunsplit⟩ count items hitems hcount
    choose! arrangement harrangement using fun k hk => (hitems k hk).2
    have hpages : (List.range count).flatMap items = Store.pagesOf limit count arrangement :=
      List.flatMap_congr fun k hk => by
        rw [(harrangement k (List.mem_range.1 hk)).2, Store.numberedPage, Nat.add_sub_cancel]
        rfl
    have hlisted := (Store.pages_perm_iff hle (hperm.length_eq.trans_le hcount)).2 hunsplit
      arrangement fun k hk => (harrangement k hk).1
    rw [hpages]
    exact hlisted.trans hperm

/-- Pages that end nowhere between ties, with the right totals, partition the rows. -/
theorem Partitions.of_unsplit {Lists : Int → List τ → Int → Prop} (hle : TotalPreorder le)
    (hlimit : 0 < limit) (hrows : rows.length ≤ intMax) (hunsplit : Unsplit le limit rows)
    (hlists : ∀ k items total, Lists (k + 1 : Nat) items total →
      IsPage le rows limit k items ∧ total = rows.length) :
    Partitions limit Lists rows := by
  constructor
  · intro count items hitems hcount
    refine (pages_perm_rows_iff hle hlimit hrows).2 ⟨.refl _, hunsplit⟩ count items
      (fun k hk => ?_) hcount
    obtain ⟨total, htotal⟩ := hitems k hk
    exact (hlists k _ _ htotal).1
  · intro page items total hpage hanswer
    obtain ⟨k, rfl⟩ : ∃ k : Nat, page = (k + 1 : Nat) := ⟨(page - 1).toNat, by omega⟩
    exact (hlists k _ _ hanswer).2

/-- Where the pages partition the rows, the statement is about these rows and no page ends between
two that tie. -/
theorem Partitions.perm_and_unsplit {Lists : Int → List τ → Int → Prop} (hle : TotalPreorder le)
    (hlimit : 0 < limit) (hrows : rows.length ≤ intMax) (h : Partitions limit Lists rows)
    (hlists : ∀ k items, IsPage le statementRows limit k items →
      ∃ total, Lists (k + 1 : Nat) items total) :
    statementRows.Perm rows ∧ Unsplit le limit statementRows :=
  (pages_perm_rows_iff hle hlimit hrows).1 fun count items hitems hcount =>
    h.pages count items (fun k hk => hlists k _ (hitems k hk)) hcount

/-- The rows that a listing is to have: each as often as it matches, or once. -/
def resultRows (distinct : Bool) (matching : List τ) : List τ :=
  if distinct then matching.dedup else matching

/-- There are as many rows as match exactly when none is left out. -/
theorem length_resultRows_eq_iff {distinct : Bool} {matching : List τ} :
    (resultRows distinct matching).length = matching.length ↔
      (distinct = true → matching.Nodup) := by
  unfold resultRows
  cases distinct with
  | false => simp
  | true =>
      simp only [if_true, true_imp_iff]
      exact ⟨fun h => List.dedup_eq_self.1 ((List.dedup_sublist matching).eq_of_length h),
        fun h => by rw [h.dedup]⟩

theorem resultRows_eq {distinct : Bool} {matching : List τ} (h : distinct = true → matching.Nodup) :
    resultRows distinct matching = matching := by
  unfold resultRows
  split
  · next hdistinct => exact (h hdistinct).dedup
  · rfl

end Pages

/-! ## `SqlAdapter` -/

namespace SqlAdapter

open SqlWhereBuilder (BuilderState)

variable {ρ τ : Type} [DecidableEq τ] (D : Database ρ τ) (printReal : Int → Int → String)
  (dialect : Dialect) (schema : EntitySchema) (options : ListOptions)

/-- The total that is read from a count; what is no `int` leaves it at zero. -/
def readTotal (count : Nat) : Int := if count ≤ intMax then count else 0

/-- An answer of `list` for a page. -/
def Lists (page : Int) (items : List τ) (total : Int) : Prop :=
  ∃ ss st, listStatements printReal dialect schema { options with page } ⟨[], 1⟩ = .ok (ss, st) ∧
    D.Answers (listing printReal dialect schema { options with page })
      (st.params.map SqlParam.value) items ∧
    total = readTotal (D.count (listing printReal dialect schema { options with page })
      (st.params.map SqlParam.value))

variable {D printReal dialect schema options} {ss : List String} {st : BuilderState}

theorem pageLimit_pos (options : ListOptions) : 0 < pageLimit options := by
  unfold pageLimit
  split
  · assumption
  · decide

/-- Another page is asked for with the same values. -/
theorem listRows_page (h : listRows printReal dialect schema options ⟨[], 1⟩ = .ok (ss, st))
    (page : Int) :
    ∃ ss', listRows printReal dialect schema { options with page } ⟨[], 1⟩ = .ok (ss', st) := by
  simp only [listRows, SqlWhereBuilder.bind_ok, SqlWhereBuilder.pure_ok] at h ⊢
  obtain ⟨whereClause, st₁, hwhere, orderBy, st₂, horder, -, rfl⟩ := h
  exact ⟨_, whereClause, st₁, hwhere, orderBy, st₂, horder, rfl, rfl⟩

/-- The answers for a page are pages of the rows that the listing asks for. -/
theorem lists_iff (haggregates : options.aggregates = [])
    (h : listRows printReal dialect schema options ⟨[], 1⟩ = .ok (ss, st)) {k : Nat}
    {items : List τ} {total : Int} :
    Lists D printReal dialect schema options (k + 1) items total ↔
      IsPage (D.orderLe (listing printReal dialect schema options).order)
        (resultRows options.distinct
          (D.matching (listing printReal dialect schema options) (st.params.map SqlParam.value)))
        (pageLimit options).toNat k items ∧
      total = readTotal (D.matching (listing printReal dialect schema options)
        (st.params.map SqlParam.value)).length := by
  have hlimit := pageLimit_pos options
  have hoffset : pageOffset { options with page := k + 1 } =
      (k * (pageLimit options).toNat : Nat) := by
    have hpos : (0 : Int) < k + 1 := by omega
    have hpage : pageNumber { options with page := k + 1 } = k + 1 := if_pos hpos
    have hsame : pageLimit { options with page := k + 1 } = pageLimit options := rfl
    rw [pageOffset, hpage, hsame, Int.add_sub_cancel, Int.natCast_mul,
      Int.toNat_of_nonneg hlimit.le]
  obtain ⟨ss', hpage⟩ := listRows_page h (k + 1)
  have hanswers : ∀ values, D.Answers
      (listing printReal dialect schema { options with page := k + 1 }) values items ↔
      ∃ a, Arranged (D.orderLe (listing printReal dialect schema options).order)
        (resultRows options.distinct
          (D.matching (listing printReal dialect schema options) values)) a ∧
        items = window (k * (pageLimit options).toNat) (pageLimit options).toNat a := by
    intro values
    have hstart : (listing printReal dialect schema { options with page := k + 1 }).offset =
        k * (pageLimit options).toNat := by
      rw [listing, hoffset, Int.toNat_natCast]
    rw [Database.Answers, hstart]
    rfl
  by_cases hfits : k * (pageLimit options).toNat ≤ intMax
  · have hrun : listStatements printReal dialect schema { options with page := k + 1 } ⟨[], 1⟩ =
        .ok (ss', st) := by
      rw [listStatements, hoffset, if_pos (Int.ofNat_le.2 hfits), if_pos haggregates, hpage]
    constructor
    · rintro ⟨ss'', st'', hrun', hitems, htotal⟩
      cases hrun.symm.trans hrun'
      rw [htotal, ← D.count_eq]
      exact ⟨⟨hfits, (hanswers _).1 hitems⟩, rfl⟩
    · rintro ⟨⟨-, hitems⟩, htotal⟩
      refine ⟨ss', st, hrun, (hanswers _).2 hitems, ?_⟩
      rw [htotal, ← D.count_eq]
      rfl
  · refine iff_of_false ?_ fun hright => hfits hright.1.1
    rintro ⟨ss'', st'', hrun, -, -⟩
    rw [listStatements, hoffset, if_neg (fun hle => hfits (Int.ofNat_le.1 hle))] at hrun
    cases hrun

/-- A total that is read as a number of rows that are there. -/
theorem readTotal_eq_iff {count n : Nat} (hn : n = 0 → count = 0) (hle : n ≤ count) :
    readTotal count = n ↔ count ≤ intMax ∧ n = count := by
  unfold readTotal
  split
  · omega
  · omega

/-- **The pages of `SqlAdapter` partition the result exactly when** the rows that match are at most
as many as an `int` can count, none of them matches twice where distinct rows are asked for, and no
page ends between two different rows that tie. -/
theorem partitions_iff (haggregates : options.aggregates = [])
    (h : listRows printReal dialect schema options ⟨[], 1⟩ = .ok (ss, st)) {matching : List τ}
    (hmatching : matching = D.matching (listing printReal dialect schema options)
      (st.params.map SqlParam.value)) :
    Partitions (pageLimit options).toNat (Lists D printReal dialect schema options)
        (resultRows options.distinct matching) ↔
      matching.length ≤ intMax ∧ (options.distinct = true → matching.Nodup) ∧
        Unsplit (D.orderLe (listing printReal dialect schema options).order)
          (pageLimit options).toNat matching := by
  have hle := D.orderLe_preorder (listing printReal dialect schema options).order
  have hlimit : 0 < (pageLimit options).toNat := by
    have hpos := pageLimit_pos options
    omega
  have hsublist : (resultRows options.distinct matching).length ≤ matching.length := by
    unfold resultRows
    split
    · exact (List.dedup_sublist _).length_le
    · exact le_rfl
  have hempty : (resultRows options.distinct matching).length = 0 → matching.length = 0 := by
    unfold resultRows
    split
    · intro hzero
      rw [List.length_eq_zero_iff, List.dedup_eq_nil] at hzero
      rw [hzero, List.length_nil]
    · exact id
  have hlists {k : Nat} {items : List τ} {total : Int} :=
    @lists_iff ρ τ _ D printReal dialect schema options ss st haggregates h k items total
  rw [← hmatching] at hlists
  constructor
  · intro hpartitions
    obtain ⟨a, ha⟩ := hle.exists_arranged (resultRows options.distinct matching)
    have hfirst := hpartitions.total Int.one_pos
      ((hlists (k := 0)).2 ⟨⟨by simp, a, ha, rfl⟩, rfl⟩)
    obtain ⟨hcount, hlength⟩ := (readTotal_eq_iff hempty hsublist).1 hfirst
    have hnodup := length_resultRows_eq_iff.1 hlength
    have hpages := hpartitions.perm_and_unsplit hle hlimit (hlength.trans_le hcount)
      fun k items hpage => ⟨_, hlists.2 ⟨hpage, rfl⟩⟩
    rw [resultRows_eq hnodup] at hpages
    exact ⟨hcount, hnodup, hpages.2⟩
  · rintro ⟨hcount, hnodup, hunsplit⟩
    rw [resultRows_eq hnodup] at hlists ⊢
    refine .of_unsplit hle hlimit hcount hunsplit fun k items total hanswer => ?_
    obtain ⟨hpage, htotal⟩ := hlists.1 hanswer
    rw [readTotal, if_pos hcount] at htotal
    exact ⟨hpage, htotal⟩

end SqlAdapter

end Adapters

/-! ## `SQLiteAdapter` -/

namespace SQLiteQueryBuilder

open Adapters (IsPage Partitions resultRows)
open Dbal.Core (EntitySchema)
open Sql (Database)
open SQLiteTypeConverter (buildCountParams buildListParams pageLimit pageOffset)
open Store (Unsplit window)

variable {ρ τ : Type} [DecidableEq τ] (D : Database ρ τ) (schema : EntitySchema)
  (options : ListOptions)

/-- The total of a page: the count, cast to an `int`, or else the number of the items. -/
def totalOf (count : Nat) (items : List τ) : Int :=
  let totalCount := (count : Int).bmod (2 ^ 32)
  if 0 < totalCount then totalCount else (items.length : Int).bmod (2 ^ 32)

/-- An answer of `list` for a page. -/
def Lists (page : Int) (items : List τ) (total : Int) : Prop :=
  Asks schema { options with page } ∧
    ∃ params, buildListParams { options with page } = some params ∧
      D.Answers (listing schema { options with page }) (buildCountParams options) items ∧
      total =
        totalOf (D.count (listing schema { options with page }) (buildCountParams options)) items

variable {D schema options}

theorem pageLimit_pos (options : ListOptions) : 0 < pageLimit options := by
  unfold pageLimit
  split
  · assumption
  · decide

/-- The answers for a page are pages of the rows that match. -/
theorem lists_iff (haggregates : options.aggregates = []) (hgroupBy : options.groupBy = [])
    {k : Nat} {items : List τ} {total : Int} :
    Lists D schema options (k + 1) items total ↔
      IsPage (D.orderLe (listing schema options).order)
        (D.matching (listing schema options) (buildCountParams options))
        (pageLimit options).toNat k items ∧
      total = totalOf (D.matching (listing schema options) (buildCountParams options)).length
        items := by
  have hlimit := pageLimit_pos options
  have hoffset : pageOffset { options with page := k + 1 } =
      (k * (pageLimit options).toNat : Nat) := by
    have hsame : pageLimit { options with page := k + 1 } = pageLimit options := rfl
    rw [pageOffset, hsame, Int.add_sub_cancel, Int.natCast_mul, Int.toNat_of_nonneg hlimit.le]
    split
    · rfl
    · next hpage =>
        have hfirst : ¬ (1 : Int) < k + 1 := hpage
        obtain rfl : k = 0 := by omega
        simp
  have hasks : Asks schema { options with page := k + 1 } := list_asks schema haggregates hgroupBy
  have hanswers : D.Answers (listing schema { options with page := k + 1 })
      (buildCountParams options) items ↔
      ∃ a, Store.Arranged (D.orderLe (listing schema options).order)
        (D.matching (listing schema options) (buildCountParams options)) a ∧
        items = window (k * (pageLimit options).toNat) (pageLimit options).toNat a := by
    have hstart : (listing schema { options with page := k + 1 }).offset =
        k * (pageLimit options).toNat := by
      rw [listing, hoffset, Int.toNat_natCast]
    rw [Database.Answers, hstart]
    rfl
  have hparams : (∃ params, buildListParams { options with page := k + 1 } = some params) ↔
      k * (pageLimit options).toNat ≤ intMax := by
    rw [buildListParams, hoffset]
    split
    · next hfits => exact iff_of_true ⟨_, rfl⟩ (Int.ofNat_le.1 hfits)
    · next hfits => exact iff_of_false (by simp) fun hle => hfits (Int.ofNat_le.2 hle)
  rw [Lists, and_iff_right hasks, exists_and_right, hparams, hanswers, D.count_eq, IsPage,
    and_assoc]
  rfl

omit [DecidableEq τ] in
/-- The total is at most what an `int` can count. -/
theorem totalOf_le (count : Nat) (items : List τ) : totalOf count items ≤ intMax := by
  unfold totalOf intMax
  simp only [Int.bmod_def]
  omega

omit [DecidableEq τ] in
theorem totalOf_eq {count : Nat} {items : List τ} (hcount : count ≤ intMax)
    (hitems : items.length ≤ count) : totalOf count items = count := by
  unfold intMax at hcount
  unfold totalOf
  simp only [Int.bmod_def]
  omega

/-- **The pages of `SQLiteAdapter` partition the result exactly when** the rows that match are at
most as many as an `int` can count, none of them matches twice where distinct rows are asked for,
and no page ends between two different rows that tie. -/
theorem partitions_iff (haggregates : options.aggregates = []) (hgroupBy : options.groupBy = [])
    {matching : List τ}
    (hmatching : matching = D.matching (listing schema options) (buildCountParams options)) :
    Partitions (pageLimit options).toNat (Lists D schema options)
        (resultRows options.distinct matching) ↔
      matching.length ≤ intMax ∧ (options.distinct = true → matching.Nodup) ∧
        Unsplit (D.orderLe (listing schema options).order) (pageLimit options).toNat matching := by
  have hle := D.orderLe_preorder (listing schema options).order
  have hlimit : 0 < (pageLimit options).toNat := by
    have hpos := pageLimit_pos options
    omega
  have hlists {k : Nat} {items : List τ} {total : Int} :=
    @lists_iff ρ τ _ D schema options haggregates hgroupBy k items total
  rw [← hmatching] at hlists
  constructor
  · intro hpartitions
    obtain ⟨a, ha⟩ := hle.exists_arranged matching
    have hfirst := hpartitions.total Int.one_pos
      ((hlists (k := 0)).2 ⟨⟨by simp, a, ha, rfl⟩, rfl⟩)
    have hrows : (resultRows options.distinct matching).length ≤ intMax :=
      Int.ofNat_le.1 (hfirst ▸ totalOf_le _ _)
    obtain ⟨hperm, hunsplit⟩ := hpartitions.perm_and_unsplit hle hlimit hrows
      fun k items hpage => ⟨_, hlists.2 ⟨hpage, rfl⟩⟩
    exact ⟨hperm.length_eq.trans_le hrows,
      Adapters.length_resultRows_eq_iff.1 hperm.length_eq.symm, hunsplit⟩
  · rintro ⟨hcount, hnodup, hunsplit⟩
    rw [Adapters.resultRows_eq hnodup]
    refine .of_unsplit hle hlimit hcount hunsplit fun k items total hanswer => ?_
    obtain ⟨⟨hfits, a, ha, hitems⟩, htotal⟩ := hlists.1 hanswer
    refine ⟨⟨hfits, a, ha, hitems⟩, htotal.trans (totalOf_eq hcount ?_)⟩
    rw [hitems, ← ha.1.length_eq, window, List.length_take, List.length_drop]
    omega

end SQLiteQueryBuilder

namespace Adapters

open SQLiteTypeConverter (buildCountParams)
open Sql (Database)
open SqlWhereBuilder (BuilderState)
open Store (Unsplit)

/-! ## The pages of both -/

/-- **The pages of a listing partition its result exactly when** the rows that match are at most as
many as an `int` can count, none of them matches twice where distinct rows are asked for, and no
page ends between two different rows that the order of the listing does not tell apart. -/
theorem pages_partition_iff {ρ τ : Type} [DecidableEq τ] (D : Database ρ τ)
    (printReal : Int → Int → String) (dialect : Dialect) (sqlSchema : EntitySchema)
    (sqliteSchema : Core.EntitySchema) (options : ListOptions)
    (haggregates : options.aggregates = []) (hgroupBy : options.groupBy = []) :
    (∀ (ss : List String) (st : BuilderState) (rows : List τ),
      SqlAdapter.listRows printReal dialect sqlSchema options ⟨[], 1⟩ = .ok (ss, st) →
      rows = D.matching (SqlAdapter.listing printReal dialect sqlSchema options)
        (st.params.map SqlParam.value) →
      (Partitions (SqlAdapter.pageLimit options).toNat
          (SqlAdapter.Lists D printReal dialect sqlSchema options)
          (resultRows options.distinct rows) ↔
        rows.length ≤ intMax ∧ (options.distinct = true → rows.Nodup) ∧
          Unsplit (D.orderLe (SqlAdapter.listing printReal dialect sqlSchema options).order)
            (SqlAdapter.pageLimit options).toNat rows)) ∧
    ∀ rows : List τ,
      rows = D.matching (SQLiteQueryBuilder.listing sqliteSchema options)
        (buildCountParams options) →
      (Partitions (SQLiteTypeConverter.pageLimit options).toNat
          (SQLiteQueryBuilder.Lists D sqliteSchema options) (resultRows options.distinct rows) ↔
        rows.length ≤ intMax ∧ (options.distinct = true → rows.Nodup) ∧
          Unsplit (D.orderLe (SQLiteQueryBuilder.listing sqliteSchema options).order)
            (SQLiteTypeConverter.pageLimit options).toNat rows) :=
  ⟨fun _ _ _ h hrows => SqlAdapter.partitions_iff haggregates h hrows,
    fun _ hrows => SQLiteQueryBuilder.partitions_iff haggregates hgroupBy hrows⟩

/-- Tasks that were created at one moment. -/
def tasks : Database (Nat × Nat) (Nat × Nat) where
  rows _ := [(1, 7), (2, 7)]
  keeps _ _ _ := true
  output _ task := task
  columnLe column x y := if column = "id" then decide (x.1 ≤ y.1) else decide (x.2 ≤ y.2)
  preorder column := by
    by_cases hid : column = "id"
    · constructor
      · intro x y
        simpa [hid] using Nat.le_total x.1 y.1
      · intro x y z hxy hyz
        simp only [hid, if_true, decide_eq_true_eq] at hxy hyz ⊢
        exact Nat.le_trans hxy hyz
    · constructor
      · intro x y
        simpa [hid] using Nat.le_total x.2 y.2
      · intro x y z hxy hyz
        simp only [hid, if_false, decide_eq_true_eq] at hxy hyz ⊢
        exact Nat.le_trans hxy hyz

/-- The adapters' schemas of a task. -/
def taskSchema : EntitySchema :=
  ⟨"Task", "", [{ name := "id", type := "uuid" }, { name := "createdAt", type := "timestamp" }],
    [], {}⟩

def taskEntity : Core.EntitySchema where
  name := "Task"
  fields := [{ name := "id", type := "uuid", primary := true },
    { name := "createdAt", type := "timestamp" }]

theorem tasks_on_one_page :
    Partitions 20 (SqlAdapter.Lists tasks (fun _ _ => "") .postgres taskSchema {})
        [(1, 7), (2, 7)] ∧
      Partitions 20 (SQLiteQueryBuilder.Lists tasks taskEntity {}) [(1, 7), (2, 7)] :=
  have h := pages_partition_iff tasks (fun _ _ => "") .postgres taskSchema taskEntity {} rfl rfl
  ⟨(h.1 _ _ _ rfl rfl).2 ⟨by decide, by decide, Store.unsplit_of_length_le (by decide)⟩,
    (h.2 _ rfl).2 ⟨by decide, by decide, Store.unsplit_of_length_le (by decide)⟩⟩

/-- Two tasks of one moment, a task a page: either page can have either of them. -/
theorem pages_repeat_task :
    ¬ Partitions 1 (SqlAdapter.Lists tasks (fun _ _ => "") .postgres taskSchema { limit := 1 })
        [(1, 7), (2, 7)] ∧
      ¬ Partitions 1 (SQLiteQueryBuilder.Lists tasks taskEntity { limit := 1 })
        [(1, 7), (2, 7)] := by
  constructor
  · intro h
    obtain ⟨-, -, hunsplit⟩ := (@SqlAdapter.partitions_iff _ _ _ tasks (fun _ _ => "") .postgres
      taskSchema { limit := 1 } _ _ rfl rfl _ rfl).1 h
    exact hunsplit 1 (1, 7) (by decide) (2, 7) (by decide) ⟨rfl, rfl⟩ (by decide) (by decide)
  · intro h
    obtain ⟨-, -, hunsplit⟩ := (@SQLiteQueryBuilder.partitions_iff _ _ _ tasks taskEntity
      { limit := 1 } rfl rfl _ rfl).1 h
    exact hunsplit 1 (1, 7) (by decide) (2, 7) (by decide) ⟨rfl, rfl⟩ (by decide) (by decide)

end Adapters

end Dbal
