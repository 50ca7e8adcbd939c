/-
# Listings

`ListHandler` of `src/daemon/list_handler.cpp`: the query string of a listing becomes
`ListOptions`, with the tenant of the path as one more equality.

The query is a map, so both loops over it go in the order of the keys.
-/

import Dbal.Daemon.Response
import Dbal.Daemon.Route

namespace Dbal
namespace Daemon
namespace ListHandler

open Route

variable {σ : Type}

/-! ### Numbers -/

/-- `isspace`. -/
def isSpace (c : Char) : Bool := c = ' ' || ('\t' ≤ c && c ≤ '\r')

/-- The value of a sequence of digits. -/
def digitsValue (digits : List Char) : Nat :=
  digits.foldl (fun n c => 10 * n + (c.toNat - '0'.toNat)) 0

/-- `std::stoi`: the number at the front of a text and what stands behind it, none where it
throws. -/
def stoi (text : List Char) : Option (Int × List Char) :=
  let text := text.dropWhile isSpace
  let negative := text.head? = some '-'
  let text := if text.head? = some '-' ∨ text.head? = some '+' then text.tail else text
  let digits := text.takeWhile Char.isDigit
  let value : Int := if negative then -digitsValue digits else digitsValue digits
  if digits = [] then none
  else if -(intMax : Int) - 1 ≤ value ∧ value ≤ intMax then
    some (value, text.dropWhile Char.isDigit)
  else none

/-- `parseIntValue`. -/
def parseIntValue (value : String) : Option Int :=
  match stoi value.toList with
  | some (parsed, []) => some parsed
  | _ => none

/-! ### Pages -/

/-- The three numbers of `parseQueryParameters`, as far as they are set. -/
structure Paging where
  limit : Option Int := none
  page : Option Int := none
  offset : Option Int := none
  deriving DecidableEq, Repr

/-- One entry of the query. -/
def pagingStep (paging : Paging) : String × String → Except Reply Paging
  | (key, value) =>
      if key = "limit" ∨ key = "take" then
        match parseIntValue value with
        | some n =>
            if n ≤ 0 then .error (.error "limit must be a positive integer" 400)
            else .ok { paging with limit := some n }
        | none => .error (.error "limit must be a positive integer" 400)
      else if key = "page" then
        match parseIntValue value with
        | some n =>
            if n ≤ 0 then .error (.error "page must be a positive integer" 400)
            else .ok { paging with page := some n }
        | none => .error (.error "page must be a positive integer" 400)
      else if key = "skip" ∨ key = "offset" then
        match parseIntValue value with
        | some n =>
            if n < 0 then .error (.error "offset must be a non-negative integer" 400)
            else .ok { paging with offset := some n }
        | none => .error (.error "offset must be a non-negative integer" 400)
      else .ok paging

/-- `parseQueryParameters`, as far as its result is read: the limit and the page.  An
offset is turned into a page, which is an `int`.  It overflows for one query alone, the largest
offset with the limit 1, which C++ leaves undefined; it wraps here. -/
def parseQueryParameters (query : Std.TreeMap String String) :
    Except Reply (Option Int × Option Int) := do
  let paging ← query.toList.foldlM pagingStep {}
  match paging.offset, paging.page with
  | some offset, none =>
      let effectiveLimit := paging.limit.getD 20
      if effectiveLimit ≤ 0 then .error (.error "limit must be a positive integer" 400)
      else return (paging.limit, some ((offset.tdiv effectiveLimit + 1).bmod (2 ^ 32)))
  | _, page => return (paging.limit, page)

/-! ### Keys -/

/-- `splitCsv`: what stands between commas, without the empty parts. -/
def splitCsv (s : String) : List String :=
  ((s.toList.splitOn ',').filter (· ≠ [])).map String.ofList

/-- `parseOpString`. -/
def parseOpString (op : String) : FilterOp :=
  if op = "ne" then .ne
  else if op = "lt" then .lt
  else if op = "lte" then .lte
  else if op = "gt" then .gt
  else if op = "gte" then .gte
  else if op = "like" then .like
  else if op = "ilike" then .iLike
  else if op = "in" then .in
  else if op = "notin" then .notIn
  else if op = "isnull" then .isNull
  else if op = "isnotnull" then .isNotNull
  else if op = "between" then .between
  else .eq

/-- What stands behind the first `c`, if there is one. -/
def after? (c : Char) (text : List Char) : Option (List Char) :=
  match text.dropWhile (· ≠ c) with
  | [] => none
  | _ :: rest => some rest

/-- What stands before the first `c`. -/
def before (c : Char) (text : List Char) : List Char := text.takeWhile (· ≠ c)

/-- `parseFieldOp`: `field` or `field[op]`. -/
def parseFieldOp (key : List Char) : String × String :=
  match after? '[' key with
  | none => (String.ofList key, "eq")
  | some rest =>
      (String.ofList (before '[' key),
        toLower (if (after? ']' rest).isSome then String.ofList (before ']' rest) else "eq"))

/-- `makeCondition`. -/
def makeCondition (field op value : String) : FilterCondition :=
  match parseOpString op with
  | .in => { field, op := .in, values := splitCsv value }
  | .notIn => { field, op := .notIn, values := splitCsv value }
  | .between => { field, op := .between, values := splitCsv value }
  | op => { field, op, value }

/-- What the second loop gathers: the options, and the OR-groups and aggregates by number. -/
structure Gathered where
  options : ListOptions := {}
  orMap : Std.TreeMap Int (List FilterCondition) := ∅
  aggMap : Std.TreeMap Int (Std.TreeMap String String) := ∅

/-- `filter.field[op]` and `where.field[op]`. -/
def addFilter (g : Gathered) (rest : List Char) (value : String) : Gathered :=
  let (field, op) := parseFieldOp rest
  let options := g.options
  if op = "eq" then { g with options := { options with filter := options.filter.insert field value } }
  else
    let conditions := options.conditions ++ [makeCondition field op value]
    { g with options := { options with conditions } }

/-- `sort.field` and `orderBy.field`. -/
def addSort (g : Gathered) (rest : List Char) (value : String) : Gathered :=
  let sort := g.options.sort.insert (String.ofList rest) value
  { g with options := { g.options with sort } }

/-- `or[idx].field[op]`, behind the first bracket.  The two characters behind the closing
bracket are skipped; if there is only the bracket, `substr` throws. -/
def addOr (g : Gathered) (rest : List Char) (value : String) : Except Thrown Gathered :=
  match after? ']' rest, stoi (before ']' rest) with
  | some tail, some (idx, _) =>
      match tail with
      | [] => .error (.outOfRange (rest.length + 4) (rest.length + 3))
      | _ :: rest =>
          let (field, op) := parseFieldOp rest
          let conditions := g.orMap[idx]?.getD [] ++ [makeCondition field op value]
          .ok { g with orMap := g.orMap.insert idx conditions }
  | _, _ => .ok g

/-- `aggregate[idx][key]`, behind the first bracket. -/
def addAggregate (g : Gathered) (rest : List Char) (value : String) : Gathered :=
  match after? ']' rest, stoi (before ']' rest) with
  | some tail, some (idx, _) =>
      match after? '[' tail with
      | some sub =>
          let fields := (g.aggMap[idx]?.getD ∅).insert (String.ofList (before ']' sub)) value
          if (after? ']' sub).isSome then { g with aggMap := g.aggMap.insert idx fields } else g
      | none => g
  | _, _ => g

/-- The keys without a prefix. -/
def addPlain (options : ListOptions) (key value : String) : ListOptions :=
  if key = "include" then { options with includes := splitCsv value }
  else if key = "select" then { options with selectFields := splitCsv value }
  else if key = "groupBy" ∨ key = "group_by" then { options with groupBy := splitCsv value }
  else if key = "distinct" then { options with distinct := value = "true" || value = "1" }
  else options

/-- What stands behind a prefix. -/
def behind? (start key : String) : Option (List Char) :=
  if start.toList.isPrefixOf key.toList then some (key.toList.drop start.length) else none

/-- One entry of the query in the second loop. -/
def gather (g : Gathered) : String × String → Except Thrown Gathered
  | (key, value) =>
      match (behind? "filter." key).or (behind? "where." key),
        (behind? "sort." key).or (behind? "orderBy." key) with
      | some rest, _ => .ok (addFilter g rest value)
      | none, some rest => .ok (addSort g rest value)
      | none, none =>
          match behind? "or[" key, behind? "aggregate[" key with
          | some rest, _ => addOr g rest value
          | none, some rest => .ok (addAggregate g rest value)
          | none, none => .ok { g with options := addPlain g.options key value }

/-- An aggregate from what was gathered for it. -/
def aggregateSpec (fields : Std.TreeMap String String) : AggregateSpec :=
  let name := fields["func"]?.getD "count"
  let func : AggFunc :=
    if name = "sum" then .sum else if name = "avg" then .avg
    else if name = "min" then .min else if name = "max" then .max else .count
  { func, field := fields["field"]?.getD "id", aliasName := fields["alias"]?.getD name }

/-- The options that a query and the tenant of the path make. -/
def listOptions (tenant : String) (paging : Option Int × Option Int)
    (query : Std.TreeMap String String) : Except Thrown ListOptions := do
  let options : ListOptions := { limit := paging.1.getD 20, page := paging.2.getD 1 }
  let g ← query.toList.foldlM gather { options }
  let filterGroups := g.orMap.toList.map fun (_, conditions) => FilterGroup.mk conditions
  let aggregates := g.aggMap.toList.map fun (_, fields) => aggregateSpec fields
  let options := { g.options with filterGroups, aggregates }
  -- The tenant stands at the root, never inside an OR-group.
  return if tenant = "" then options
    else { options with filter := options.filter.insert "tenantId" tenant }

/-- The response of a listing. -/
def listResponse (result : ListResult) : Reply :=
  .success (.obj [("data", .arr (result.items.map Json.nlohmannToJsoncpp)),
    ("total", .int result.total), ("page", .int result.page), ("limit", .int result.limit)])

/-- `handleList`. -/
def handleList (A : Adapter σ) (route : RouteInfo) (query : Std.TreeMap String String) :
    Act Thrown σ Reply :=
  withExceptionHandling <|
    match parseQueryParameters query with
    | .error refusal => pure refusal
    | .ok paging => do
        let options ← Act.ofExcept (listOptions route.tenant paging query)
        match ← A.list route.entity options with
        | .error e =>
            return if 500 ≤ e.code.status then .error "Internal server error" e.code.status
              else sendError e
        | .ok result => return listResponse result

/-- A listing does nothing to the store, or what one call of `list` does. -/
theorem handleList_snd (A : Adapter σ) (route : RouteInfo) (query : Std.TreeMap String String)
    (s : σ) : (handleList A route query s).2 = s ∨
      ∃ options, (handleList A route query s).2 = (A.list route.entity options s).2 := by
  simp only [handleList, withExceptionHandling, Act.catching_snd]
  cases parseQueryParameters query with
  | error refusal => exact Or.inl rfl
  | ok paging =>
      cases hoptions : listOptions route.tenant paging query with
      | error e => exact Or.inl (by simp [Act.bind_apply, hoptions])
      | ok options =>
          refine Or.inr ⟨options, ?_⟩
          simp only [Act.bind_apply, hoptions, Act.ofExcept_apply]
          exact Act.bind_snd (by rintro (_ | _) s' <;> rfl) s

end ListHandler
end Daemon
end Dbal
