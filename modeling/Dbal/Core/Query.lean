/-
# Query types

`include/dbal/core/types.hpp` (`FilterOp` to `ListOptions`) and
`src/adapters/sql/sql_types.hpp` (`SqlParam`): what a listing may ask for and
what a statement binds.
-/

import Mathlib.Data.List.Basic

namespace Dbal

/-- `FilterOp`. -/
inductive FilterOp where
  | eq | ne | lt | lte | gt | gte
  | like | iLike
  | in | notIn
  | isNull | isNotNull
  | between
  deriving DecidableEq, Repr

/-- `FilterCondition`: `value` for the operators of one value, `values` for
`In`, `NotIn` and `Between`. -/
structure FilterCondition where
  field : String
  op : FilterOp := .eq
  value : String := ""
  values : List String := []
  deriving DecidableEq, Repr

/-- `FilterGroup`: conditions joined by `OR`. -/
structure FilterGroup where
  conditions : List FilterCondition
  deriving DecidableEq, Repr

/-- `AggFunc`. -/
inductive AggFunc where
  | count | sum | avg | min | max
  deriving DecidableEq, Repr

/-- `AggregateSpec`. -/
structure AggregateSpec where
  func : AggFunc
  field : String
  aliasName : String
  deriving DecidableEq, Repr

/-- `ListOptions`. -/
structure ListOptions where
  filter : Std.TreeMap String String := ∅
  sort : Std.TreeMap String String := ∅
  page : Int := 1
  limit : Int := 20
  conditions : List FilterCondition := []
  filterGroups : List FilterGroup := []
  includes : List String := []
  aggregates : List AggregateSpec := []
  groupBy : List String := []
  selectFields : List String := []
  distinct : Bool := false
  timeoutMs : Int := 0

/-- `SqlParam`: a value bound to a placeholder, under its field's name. -/
structure SqlParam where
  name : String
  value : String
  deriving DecidableEq, Repr

end Dbal
