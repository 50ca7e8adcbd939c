/-
# `SqlWhereBuilder`

`src/adapters/sql/sql_where_builder.hpp`: `build` assembles a `WHERE` clause
from three sources, an equality map, a list of conditions and a list of groups,
and pushes a bound parameter for each placeholder it writes.

The two out-parameters `params` and `param_index` are the state of a builder;
an unknown field throws, and so does nothing else, but an index counted past
the largest `int` has no defined value and ends the run here.
-/

import Dbal.Core.Error
import Dbal.Core.Query
import Mathlib.Data.List.Basic

namespace Dbal
namespace SqlWhereBuilder

/-- What `build` and its helpers update in place. -/
structure BuilderState where
  params : List SqlParam
  paramIndex : Nat
  deriving DecidableEq, Repr

/-- How a run of the builder ends early. -/
inductive Failure where
  /-- `std::invalid_argument`. -/
  | invalidArgument (what : String)
  /-- Signed overflow. -/
  | undefined
  deriving DecidableEq, Repr

/-- A builder: a value and the state after it, or an early end. -/
abbrev Builder (α : Type) := StateT BuilderState (Except Failure) α

/-- Quote a SQL identifier per dialect. -/
def quoteId (name dialect : String) : String :=
  if dialect = "mysql" ∨ dialect = "mariadb" then "`" ++ name ++ "`" else "\"" ++ name ++ "\""

/-- Throws on a field that is not in the allowed set. -/
def validateField (field : String) (validFields : Std.TreeSet String) : Builder Unit :=
  fun st => if validFields.contains field then .ok ((), st)
    else .error (.invalidArgument ("Unknown field: " ++ field))

/-- Parameter placeholder per dialect. -/
def ph (index : Nat) (dialect : String) : String :=
  if dialect = "postgresql" ∨ dialect = "postgres" then "$" ++ toString index else "?"

/-- `params.push_back({field, value})` with `ph(param_index++, dialect)`. -/
def bindParam (field value dialect : String) : Builder String := fun st =>
  if st.paramIndex < intMax then
    .ok (ph st.paramIndex dialect, ⟨st.params ++ [⟨field, value⟩], st.paramIndex + 1⟩)
  else .error .undefined

/-- One parameter for each value, as the loop over `cond.values` pushes them. -/
def bindAll (field dialect : String) : List String → Builder (List String)
  | [] => pure []
  | v :: vs => do
      let p ← bindParam field v dialect
      let ps ← bindAll field dialect vs
      return p :: ps

/-- The parts with the separator between each two. -/
def join : List String → String → String
  | [], _ => ""
  | [p], _ => p
  | p :: q :: ps, sep => p ++ sep ++ join (q :: ps) sep

/-- A column, an operator and a placeholder. -/
def binary (cond : FilterCondition) (op dialect : String) : Builder String := do
  let p ← bindParam cond.field cond.value dialect
  return quoteId cond.field dialect ++ op ++ p

/-- A single condition fragment with bound params. -/
def buildCondition (cond : FilterCondition) (dialect : String) : Builder String :=
  let col := quoteId cond.field dialect
  match cond.op with
  | .eq => binary cond " = " dialect
  | .ne => binary cond " <> " dialect
  | .lt => binary cond " < " dialect
  | .lte => binary cond " <= " dialect
  | .gt => binary cond " > " dialect
  | .gte => binary cond " >= " dialect
  | .like => binary cond " LIKE " dialect
  | .iLike =>
      if dialect = "postgresql" ∨ dialect = "postgres" then binary cond " ILIKE " dialect
      else do
        let p ← bindParam cond.field cond.value dialect
        return "LOWER(" ++ col ++ ") LIKE LOWER(" ++ p ++ ")"
  | .isNull => return col ++ " IS NULL"
  | .isNotNull => return col ++ " IS NOT NULL"
  | .in | .notIn =>
      if cond.values = [] then return "1=0"
      else do
        let opStr := if cond.op = .in then "IN" else "NOT IN"
        let placeholders ← bindAll cond.field dialect cond.values
        return col ++ " " ++ opStr ++ " (" ++ join placeholders ", " ++ ")"
  | .between =>
      match cond.values with
      | v₀ :: v₁ :: _ => do
          let lo ← bindParam cond.field v₀ dialect
          let hi ← bindParam cond.field v₁ dialect
          return col ++ " BETWEEN " ++ lo ++ " AND " ++ hi
      | _ => return "1=1"

/-- A condition whose field is validated first. -/
def checkedCondition (validFields : Std.TreeSet String) (dialect : String)
    (cond : FilterCondition) : Builder String := do
  validateField cond.field validFields
  buildCondition cond dialect

/-- One entry of the legacy equality filter. -/
def legacyFragment (validFields : Std.TreeSet String) (dialect : String)
    (entry : String × String) : Builder String := do
  validateField entry.1 validFields
  let p ← bindParam entry.1 entry.2 dialect
  return quoteId entry.1 dialect ++ " = " ++ p

/-- The root fragment of a group: a single condition stays bare. -/
def groupFragment (orParts : List String) : String :=
  match orParts with
  | [part] => part
  | parts => "(" ++ join parts " OR " ++ ")"

/-- The fragments of the groups; a group without conditions has none. -/
def buildGroups (validFields : Std.TreeSet String) (dialect : String) :
    List FilterGroup → Builder (List String)
  | [] => pure []
  | group :: groups =>
      if group.conditions = [] then buildGroups validFields dialect groups
      else do
        let orParts ← group.conditions.mapM (checkedCondition validFields dialect)
        let rest ← buildGroups validFields dialect groups
        return groupFragment orParts :: rest

/-- Build a parameterized `WHERE` clause: the legacy filter, then the conditions,
then the groups, or no clause where there is no fragment. -/
def build (conditions : List FilterCondition) (filterGroups : List FilterGroup)
    (legacyFilter : Std.TreeMap String String) (validFields : Std.TreeSet String)
    (dialect : String) : Builder String := do
  let legacy ← legacyFilter.toList.mapM (legacyFragment validFields dialect)
  let conds ← conditions.mapM (checkedCondition validFields dialect)
  let groups ← buildGroups validFields dialect filterGroups
  let rootFragments := legacy ++ conds ++ groups
  if rootFragments = [] then return ""
  return "WHERE " ++ join rootFragments " AND "

/-- A field of the order. -/
def orderPart (validFields : Std.TreeSet String) (dialect : String) (entry : String × String) :
    Builder String := do
  validateField entry.1 validFields
  return quoteId entry.1 dialect ++ " " ++
    if entry.2 = "asc" ∨ entry.2 = "ASC" then "ASC" else "DESC"

/-- `buildOrderBy`. -/
def buildOrderBy (sort : Std.TreeMap String String) (validFields : Std.TreeSet String)
    (defaultField dialect : String) : Builder String :=
  if sort.isEmpty then return "ORDER BY " ++ quoteId defaultField dialect ++ " DESC"
  else do
    let parts ← sort.toList.mapM (orderPart validFields dialect)
    return "ORDER BY " ++ join parts ", "

/-- `aggFuncName`. -/
def aggFuncName : AggFunc → String
  | .count => "COUNT"
  | .sum => "SUM"
  | .avg => "AVG"
  | .min => "MIN"
  | .max => "MAX"

/-- A validated field, quoted. -/
def checkedField (validFields : Std.TreeSet String) (dialect field : String) : Builder String := do
  validateField field validFields
  return quoteId field dialect

/-- One aggregate; a star stands for all rows. -/
def aggregatePart (validFields : Std.TreeSet String) (dialect : String) (agg : AggregateSpec) :
    Builder String := do
  let col ← if agg.field = "*" then pure "*" else checkedField validFields dialect agg.field
  return aggFuncName agg.func ++ "(" ++ col ++ ") AS " ++ quoteId agg.aliasName dialect

/-- `buildAggregateSelect`. -/
def buildAggregateSelect (aggregates : List AggregateSpec) (groupByFields : List String)
    (validFields : Std.TreeSet String) (dialect : String) : Builder String := do
  let aggs ← aggregates.mapM (aggregatePart validFields dialect)
  let fields ← groupByFields.mapM (checkedField validFields dialect)
  return join (aggs ++ fields) ", "

/-- `buildGroupBy`. -/
def buildGroupBy (groupByFields : List String) (validFields : Std.TreeSet String)
    (dialect : String) : Builder String :=
  if groupByFields = [] then return ""
  else do
    let parts ← groupByFields.mapM (checkedField validFields dialect)
    return "GROUP BY " ++ join parts ", "

end SqlWhereBuilder
end Dbal
