/-
# Where the offset of a page is an `int`

Four places multiply a page by a limit in `int`s: `SqlAdapter::list`, `buildListParams` of the
SQLite type converter, `calculateSkip` of the MongoDB query builder and `component::list`.  None of
the entry points bounds what it accepts from above, so each positive `int` reaches them as a page
and as a limit (`listing?_bounds` has the bounds that there are).  The products are one number,
`(page - 1) * limit`, and it and the end of a page of components decide (`offsets_in_range_iff`).
-/

import Dbal.Adapters.SQLiteTypeConverter
import Dbal.Adapters.SqlStatements
import Dbal.Daemon.Listing
import Dbal.Entities.ComponentList

namespace Dbal
namespace Daemon

open ListHandler

/-- `MongoDBQueryBuilder::calculateSkip`. -/
def calculateSkip (page limit : Int) : Int := if 1 < page then (page - 1) * limit else 0

/-- The rows that `MongoDBAdapter::list` skips. -/
def mongoOffset (options : ListOptions) : Int :=
  calculateSkip options.page (if 0 < options.limit then options.limit else 50)

/-- A number that is an `int` and no negative one. -/
def IsOffset (n : Int) : Prop := 0 ≤ n ∧ IsInt n

/-- No computation of an offset leaves the `int`s, and no component outside of the vector is
addressed. -/
structure OffsetsInRange (store : InMemoryStore) (options : ListOptions) : Prop where
  sql : IsOffset (Adapters.SqlAdapter.pageOffset options)
  sqlite : IsOffset (SQLiteTypeConverter.pageOffset options)
  mongodb : IsOffset (mongoOffset options)
  component : (Component.list store options).isSome = true

/-- The first loop gives a positive limit and a page that is an `int`. -/
theorem parseQueryParameters_bounds {query : Std.TreeMap String String} {limit page : Option Int}
    (h : parseQueryParameters query = .ok (limit, page)) :
    (∀ n, limit = some n → 0 < n ∧ n ≤ intMax) ∧ ∀ n, page = some n → IsInt n := by
  unfold parseQueryParameters at h
  cases hread : query.toList.foldlM pagingStep {} with
  | error refusal =>
      rw [hread] at h
      cases h
  | ok paging =>
      have haccepted := accepted_of_query hread
      rw [hread] at h
      simp only [bind, Except.bind] at h
      split at h
      · split_ifs at h
        cases h
        refine ⟨haccepted.limit, fun n hn => ?_⟩
        cases hn
        unfold IsInt intMax
        rw [Int.bmod_def]
        omega
      · cases h
        refine ⟨haccepted.limit, fun n hn => ?_⟩
        have hn := haccepted.page n hn
        unfold IsInt intMax at *
        omega

/-- The numbers that a listing passes on: the limit is positive, and both are `int`s. -/
theorem listing?_bounds {tenant : String} {query : Std.TreeMap String String}
    {options : ListOptions} (h : listing? tenant query = some options) :
    0 < options.limit ∧ IsInt options.limit ∧ IsInt options.page := by
  obtain ⟨⟨limit, page⟩, _, hparse, -, -⟩ := listing?_eq_some_iff.1 h
  obtain ⟨hlimit, hpage⟩ := listing?_paging hparse h
  obtain ⟨hlimits, hpages⟩ := parseQueryParameters_bounds hparse
  have hlimit' : 0 < options.limit ∧ options.limit ≤ intMax := by
    rw [hlimit]
    cases limit with
    | none => decide
    | some n => exact hlimits n rfl
  refine ⟨hlimit'.1, ⟨by omega, hlimit'.2⟩, ?_⟩
  rw [hpage]
  cases page with
  | none => decide
  | some n => exact hpages n rfl

section Offsets

variable {options : ListOptions}

theorem sqlOffset_of_pos (hpage : 0 < options.page) (hlimit : 0 < options.limit) :
    Adapters.SqlAdapter.pageOffset options = (options.page - 1) * options.limit := by
  rw [Adapters.SqlAdapter.pageOffset, Adapters.SqlAdapter.pageNumber,
    Adapters.SqlAdapter.pageLimit, if_pos hpage, if_pos hlimit]

/-- The first page starts at zero, also where it is not computed. -/
theorem start_of_pos {page limit : Int} (hpage : 0 < page) :
    (if 1 < page then (page - 1) * limit else 0) = (page - 1) * limit := by
  split
  · rfl
  · obtain rfl : page = 1 := by omega
    simp

theorem sqliteOffset_of_pos (hpage : 0 < options.page) (hlimit : 0 < options.limit) :
    SQLiteTypeConverter.pageOffset options = (options.page - 1) * options.limit := by
  rw [SQLiteTypeConverter.pageOffset, SQLiteTypeConverter.pageLimit, if_pos hlimit,
    start_of_pos hpage]

theorem mongoOffset_of_pos (hpage : 0 < options.page) (hlimit : 0 < options.limit) :
    mongoOffset options = (options.page - 1) * options.limit := by
  rw [mongoOffset, calculateSkip, if_pos hlimit, start_of_pos hpage]

/-- **The offsets are `int`s exactly when the product is**, and, for components, when in addition
the page starts behind the last of them or its end is an `int` too. -/
theorem offsets_in_range_iff (store : InMemoryStore) (hpage : 0 < options.page)
    (hlimit : 0 < options.limit) : OffsetsInRange store options ↔
      (options.page - 1) * options.limit ≤ intMax ∧
        ((options.page - 1) * options.limit <
            ((Component.selected store options).length : Int).bmod (2 ^ 32) →
          options.page * options.limit ≤ intMax) := by
  have hstart : 0 ≤ (options.page - 1) * options.limit :=
    Int.mul_nonneg (by omega) (Int.le_of_lt hlimit)
  have hoffset : IsOffset ((options.page - 1) * options.limit) ↔
      (options.page - 1) * options.limit ≤ intMax := by
    unfold IsOffset IsInt
    omega
  constructor
  · intro h
    have hsql := h.sql
    rw [sqlOffset_of_pos hpage hlimit, hoffset] at hsql
    refine ⟨hsql, fun hinside => ?_⟩
    rcases (Component.list_isSome_iff store hpage hlimit).1 h.component with hnil | ⟨-, hend⟩
    · rw [hnil] at hinside
      exact absurd hstart (Int.not_le.2 hinside)
    · exact hend hinside
  · rintro ⟨hle, hend⟩
    exact {
      sql := by rwa [sqlOffset_of_pos hpage hlimit, hoffset]
      sqlite := by rwa [sqliteOffset_of_pos hpage hlimit, hoffset]
      mongodb := by rwa [mongoOffset_of_pos hpage hlimit, hoffset]
      component := (Component.list_isSome_iff store hpage hlimit).2 (.inr ⟨hle, hend⟩) }

end Offsets

/-- The third page of twenty is in range. -/
theorem third_page_in_range : OffsetsInRange {} { page := 3, limit := 20 } :=
  (offsets_in_range_iff {} (by decide) (by decide)).2 ⟨by decide, fun _ => by decide⟩

/-- The query `limit=2147483647&page=3` is accepted, and its offset is no `int`. -/
theorem largest_limit_overflows :
    let query : Std.TreeMap String String := .ofList [("limit", "2147483647"), ("page", "3")]
    ∃ options, listing? "acme" query = some options ∧ 0 < options.page ∧ 0 < options.limit ∧
      ¬ OffsetsInRange {} options := by
  intro query
  have hparse : parseQueryParameters query = .ok (some 2147483647, some 3) := by rfl
  have hsome : (listing? "acme" query).isSome = true := by decide +kernel
  obtain ⟨options, hlisting⟩ := Option.isSome_iff_exists.1 hsome
  obtain ⟨hlimit, hpage⟩ := listing?_paging hparse hlisting
  have hpos : 0 < options.page ∧ 0 < options.limit := by
    rw [hlimit, hpage]
    decide
  refine ⟨options, hlisting, hpos.1, hpos.2, fun hrange => ?_⟩
  have hsql := hrange.sql
  rw [sqlOffset_of_pos hpos.1 hpos.2, hlimit, hpage] at hsql
  exact absurd hsql.2.2 (by decide)

end Daemon
end Dbal
