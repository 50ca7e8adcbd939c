/-
# `SupabaseQueryBuilder`

`src/adapters/supabase/supabase_query_builder.cpp`: the paths and query strings of the requests to
Supabase's REST server.  Names and values stand in them as they are.

`dump` is the library's printing of a value, `doubleText` that of a `double` by `std::to_string`.
-/

import Dbal.Core.Query
import Dbal.Json
import Dbal.Store.Collections

namespace Dbal
namespace SupabaseQueryBuilder

variable (dump : Json → String) (doubleText : Int → Int → String)

/-- `escapeValue`; `get<int>()` keeps the low 32 bits. -/
def escapeValue : Json → String
  | .str s => s
  | .int i => toString (i.bmod (2 ^ 32))
  | .uint n => toString ((n : Int).bmod (2 ^ 32))
  | .real mantissa exponent => doubleText mantissa exponent
  | .bool b => if b then "true" else "false"
  | value => dump value

/-- `buildFilterQuery`. -/
def buildFilterQuery (filter : Json) : String :=
  "&".intercalate (filter.items.map fun (key, value) =>
    key ++ "=eq." ++ escapeValue dump doubleText value)

/-- `buildPaginationQuery`.  The product is one of `int`s, which wraps. -/
def buildPaginationQuery (limit page : Int) : String :=
  let offset := if 1 < page then ((page - 1) * limit).bmod (2 ^ 32) else 0
  "limit=" ++ toString limit ++ "&offset=" ++ toString offset

/-- `buildSortQuery`. -/
def buildSortQuery (sort : Std.TreeMap String String) : String :=
  "&".intercalate (sort.toList.map fun (field, direction) =>
    "order=" ++ field ++ "." ++ if direction = "desc" then "desc" else "asc")

/-- The object that a map of texts becomes. -/
def filterObject (filter : Std.TreeMap String String) : Json :=
  .obj (filter.toList.map fun (key, value) => (key, .str value))

/-- The number of rows that is asked for. -/
def pageLimit (options : ListOptions) : Int := if 0 < options.limit then options.limit else 50

/-- `buildListQuery`. -/
def buildListQuery (entityName : String) (options : ListOptions) : String :=
  let hasQuery := !options.filter.isEmpty
  entityName ++
    (if hasQuery then "?" ++ buildFilterQuery dump doubleText (filterObject options.filter)
      else "") ++
    (if hasQuery then "&" else "?") ++ buildPaginationQuery (pageLimit options) options.page ++
    (if options.sort.isEmpty then "" else "&" ++ buildSortQuery options.sort)

/-- `buildReadQuery`. -/
def buildReadQuery (entityName id : String) : String := entityName ++ "?id=eq." ++ id

/-- `buildIdFilterQuery`. -/
def buildIdFilterQuery (entityName id : String) : String := buildReadQuery entityName id

/-! ## The parts of a query -/

/-- The part for an entry of the filter. -/
def filterPart (entry : String × String) : String := entry.1 ++ "=eq." ++ entry.2

/-- The part for an entry of the sort. -/
def orderPart (entry : String × String) : String :=
  "order=" ++ entry.1 ++ "." ++ if entry.2 = "desc" then "desc" else "asc"

/-- The rows that are to be skipped, as a number that may be too large for an `int`. -/
def pageOffset (options : ListOptions) : Int :=
  if 1 < options.page then (options.page - 1) * pageLimit options else 0

theorem items_filterObject (filter : Std.TreeMap String String) :
    (filterObject filter).items = filter.toList.map fun entry => (entry.1, .str entry.2) := by
  refine Store.toList_ofList ?_
  rw [List.map_map, List.pairwise_map]
  exact Std.TreeMap.ordered_keys_toList.imp fun hlt => compare_lt_iff_lt.1 hlt

theorem buildFilterQuery_filterObject (filter : Std.TreeMap String String) :
    buildFilterQuery dump doubleText (filterObject filter) =
      "&".intercalate (filter.toList.map filterPart) := by
  rw [buildFilterQuery, items_filterObject, List.map_map]
  rfl

/-- The two numbers of a listing. -/
def pagingParts (options : ListOptions) : List String :=
  ["limit=" ++ toString (pageLimit options),
    "offset=" ++ toString ((pageOffset options).bmod (2 ^ 32))]

theorem buildPaginationQuery_eq (options : ListOptions) :
    buildPaginationQuery (pageLimit options) options.page =
      "&".intercalate (pagingParts options) := by
  have hoffset : (if 1 < options.page then ((options.page - 1) * pageLimit options).bmod (2 ^ 32)
      else 0) = (pageOffset options).bmod (2 ^ 32) := by
    unfold pageOffset
    split
    · rfl
    · rfl
  have hseparator : "&offset=" = "&" ++ "offset=" := by decide
  rw [buildPaginationQuery, hoffset, pagingParts, String.intercalate_cons_cons,
    String.intercalate_singleton, hseparator]
  simp only [String.append_assoc]

/-- The parts of the query of a listing, in their order. -/
def listParts (options : ListOptions) : List String :=
  options.filter.toList.map filterPart ++ (pagingParts options ++ options.sort.toList.map orderPart)

/-- **The query of a listing is its parts, with `&` between them.** -/
theorem buildListQuery_eq (entityName : String) (options : ListOptions) :
    buildListQuery dump doubleText entityName options =
      entityName ++ "?" ++ "&".intercalate (listParts options) := by
  have hpaging : pagingParts options ≠ [] := by simp [pagingParts]
  have hsort : "&".intercalate (pagingParts options ++ options.sort.toList.map orderPart) =
      "&".intercalate (pagingParts options) ++
        if options.sort.isEmpty then "" else "&" ++ buildSortQuery options.sort := by
    rw [← Std.TreeMap.isEmpty_toList, buildSortQuery]
    cases options.sort.toList with
    | nil => simp
    | cons entry entries =>
        rw [String.intercalate_append_of_ne_nil hpaging (by simp), String.append_assoc]
        rfl
  have hfilter : "&".intercalate (listParts options) =
      (if (!options.filter.isEmpty) = true then
        buildFilterQuery dump doubleText (filterObject options.filter) ++ "&" else "") ++
      "&".intercalate (pagingParts options ++ options.sort.toList.map orderPart) := by
    rw [buildFilterQuery_filterObject, listParts, ← Std.TreeMap.isEmpty_toList]
    cases options.filter.toList with
    | nil => simp
    | cons entry entries =>
        rw [String.intercalate_append_of_ne_nil (by simp) (by simp [hpaging])]
        rfl
  rw [hfilter, hsort, ← buildPaginationQuery_eq, buildListQuery]
  cases options.filter.isEmpty <;> simp only [String.append_assoc, Bool.not_true, Bool.not_false,
    Bool.false_eq_true, if_true, if_false, String.empty_append]

end SupabaseQueryBuilder
end Dbal
