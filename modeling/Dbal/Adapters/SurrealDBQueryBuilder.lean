/-
# `SurrealDBQueryBuilder`

`src/adapters/surrealdb/surrealdb_type_converter.cpp` and `surrealdb_query_builder.cpp`: the
statements for SurrealDB.  A text stands between apostrophes with its apostrophes and backslashes
escaped, a name as it is.

A record and a filter are objects, given as their members, which are visited in the order of their
keys.  `dumpDouble` is the library's printing of a `double` inside an array or an object.
-/

import Dbal.Adapters.SupabaseQueryBuilder
import Dbal.Codec.Decimal
import Dbal.JsonDump

namespace Dbal

/-! ### `std::to_string` of a `double` -/

/-- The magnitude of a number in millionths, rounded. -/
def millionths (mantissa exponent : Int) : Nat :=
  let scaled := mantissa.natAbs * 10 ^ 6
  if 0 ≤ exponent then scaled * 2 ^ exponent.toNat
  else Codec.roundedQuotient scaled (2 ^ (-exponent).toNat)

/-- A number of up to six digits, with zeros before them. -/
def pad6 (n : Nat) : List Char :=
  List.replicate (6 - (Nat.toDigits 10 n).length) '0' ++ Nat.toDigits 10 n

/-- `std::to_string` of a `double`: six digits behind the point. -/
def fixedText (mantissa exponent : Int) : List Char :=
  let n := millionths mantissa exponent
  (if mantissa < 0 then ['-'] else []) ++
    (Nat.toDigits 10 (n / 10 ^ 6) ++ '.' :: pad6 (n % 10 ^ 6))

example : fixedText 1 (-1) = "0.500000".toList ∧
    fixedText (-7205759403792794) (-56) = "-0.100000".toList ∧
    fixedText 1 (-30) = "0.000000".toList := by
  decide +kernel

namespace SurrealDB

open SupabaseQueryBuilder (filterObject)

/-- The loop of `escapeString`, for one character. -/
def escapeChar (c : Char) : List Char :=
  if c = '\'' then ['\\', '\''] else if c = '\\' then ['\\', '\\'] else [c]

/-- `escapeString`. -/
def escapeString (str : String) : String := String.ofList (str.toList.flatMap escapeChar)

/-- `quoteString`. -/
def quoteString (str : String) : String := "'" ++ escapeString str ++ "'"

section Builders

variable (dumpDouble : Int → Int → String)

/-- `jsonToSurrealValue`; `get<int64_t>()` wraps. -/
def jsonToSurrealValue : Json → String
  | .str s => quoteString s
  | .int i => toString (Json.int i).getInt64
  | .uint n => toString (Json.uint n).getInt64
  | .real mantissa exponent => String.ofList (fixedText mantissa exponent)
  | .bool b => if b then "true" else "false"
  | .null => "NULL"
  | value => quoteString (value.dump dumpDouble)

/-- A name and its value, as both loops write them. -/
def comparison (field : String × Json) : String :=
  field.1 ++ " = " ++ jsonToSurrealValue dumpDouble field.2

/-- `filterToWhere`, and `buildWhereClause`. -/
def filterToWhere (filter : Std.TreeMap String Json) : String :=
  " AND ".intercalate (filter.toList.map (comparison dumpDouble))

/-- `buildSetClause`. -/
def buildSetClause (data : Std.TreeMap String Json) : String :=
  ", ".intercalate (data.toList.map (comparison dumpDouble))

/-- `effective_limit`. -/
def effectiveLimit (limit : Int) : Int := if 0 < limit then limit else 100

/-- `offset`, a product of `int`s. -/
def limitOffset (limit page : Int) : Int := (page * effectiveLimit limit).bmod (2 ^ 32)

/-- `buildLimitClause`. -/
def buildLimitClause (limit page : Int) : String :=
  " LIMIT " ++ toString (effectiveLimit limit) ++ " START " ++ toString (limitOffset limit page)

/-- `buildSelectQuery`. -/
def buildSelectQuery (entityName : String) (options : ListOptions) : String :=
  "SELECT * FROM " ++ entityName ++
    (if !options.filter.isEmpty then
      " WHERE " ++ filterToWhere dumpDouble (filterObject options.filter).fields
    else "") ++
    buildLimitClause options.limit options.page

/-- `buildCreateQuery`. -/
def buildCreateQuery (entityName : String) (data : Std.TreeMap String Json) : String :=
  "CREATE " ++ entityName ++ " SET " ++ buildSetClause dumpDouble data

/-- `buildUpdateQuery`. -/
def buildUpdateQuery (entityName id : String) (data : Std.TreeMap String Json) : String :=
  "UPDATE " ++ entityName ++ ":" ++ id ++ " SET " ++ buildSetClause dumpDouble data

/-- `buildDeleteQuery`. -/
def buildDeleteQuery (entityName id : String) : String := "DELETE " ++ entityName ++ ":" ++ id

end Builders

end SurrealDB
end Dbal
