/-
# Query procedures

`src/daemon/handlers/query_route_handler.cpp`: a named procedure is a JSON document that declares an
entity, its parameters, conditions, aggregates and an order; a request binds the parameters and the
handler lists the entity with the options that come of it.

`dump` is the library's printing of a value that is no string.
-/

import Dbal.Daemon.ListHandler

namespace Dbal
namespace Daemon
namespace QueryRouteHandler

variable {σ : Type} (dump : Json → String)

/-- The elements of the array under `key`; there are none where it is missing or no array. -/
def arrayAt (proc : Json) (key : String) : List Json :=
  match proc.find? key with
  | some (.arr elements) => elements
  | _ => []

/-- The first required parameter that the request does not have. -/
def firstMissing (qparams : Std.TreeMap String String) :
    List Json → Except JsonError (Option String)
  | [] => .ok none
  | p :: params => do
      let pname ← p.valueString "name" ""
      let required ← p.valueBool "required" false
      if required = true ∧ qparams[pname]? = none then return some pname
      else firstMissing qparams params

/-- A number of the query string; what `std::stoi` refuses changes nothing. -/
def intParam (qparams : Std.TreeMap String String) (key : String) (default : Int) : Int :=
  match qparams[key]? with
  | none => default
  | some value =>
      match ListHandler.stoi value.toList with
      | some (n, _) => n
      | none => default

/-- The operator of a name. -/
def opOf (name : String) : FilterOp :=
  if name = "ne" then .ne
  else if name = "lt" then .lt
  else if name = "lte" then .lte
  else if name = "gt" then .gt
  else if name = "gte" then .gte
  else if name = "like" then .like
  else if name = "ilike" then .iLike
  else if name = "isnull" then .isNull
  else if name = "isnotnull" then .isNotNull
  else .eq

/-- The text of a literal. -/
def literal : Json → String
  | .str s => s
  | value => dump value

/-- One clause of `where`, unless it is passed over. -/
def clauseCondition (qparams : Std.TreeMap String String) (w : Json) :
    Except JsonError (Option FilterCondition) := do
  let field ← w.valueString "field" ""
  let opStr ← w.valueString "op" "eq"
  if field = "" then return none
  let op := opOf opStr
  match w.find? "param", w.find? "value" with
  | some param, _ =>
      let paramName ← param.getString
      return qparams[paramName]?.map fun value => { field, op, value }
  | none, some value => return some { field, op, value := literal dump value }
  | none, none => return none

/-- One item of `select`. -/
def select (options : ListOptions) (sel : Json) : Except JsonError ListOptions := do
  if sel.contains "func" then
    let name ← sel.valueString "func" "count"
    let field ← sel.valueString "field" "id"
    let aliasName ← sel.valueString "alias" name
    let func : AggFunc :=
      if name = "sum" then .sum else if name = "avg" then .avg
      else if name = "min" then .min else if name = "max" then .max else .count
    return { options with aggregates := options.aggregates ++ [{ func, field, aliasName }] }
  else
    match sel with
    | .str s => return { options with selectFields := options.selectFields ++ [s] }
    | _ => return options

/-- One entry of `orderBy`. -/
def orderBy (sort : Std.TreeMap String String) (ob : Json) :
    Except JsonError (Std.TreeMap String String) := do
  if ob.isObject then
    let field ← ob.valueString "field" ""
    let dir ← ob.valueString "dir" "asc"
    return if field = "" then sort else sort.insert field dir
  else return sort

/-- The options that a procedure and the parameters make. -/
def listOptions (tenant : String) (proc : Json) (qparams : Std.TreeMap String String) :
    Except JsonError ListOptions := do
  let declared ← proc.valueInt "limit" 100
  let limit := intParam qparams "limit" declared
  let page := intParam qparams "page" 1
  let filter : Std.TreeMap String String := if tenant = "" then ∅ else .ofList [("tenantId", tenant)]
  let conditions ← (arrayAt proc "where").mapM (clauseCondition dump qparams)
  let groupBy := (arrayAt proc "groupBy").filterMap fun gb =>
    match gb with
    | .str s => some s
    | _ => none
  let options : ListOptions := { page, limit, filter, conditions := conditions.reduceOption, groupBy }
  let options ← (arrayAt proc "select").foldlM select options
  let sort ← (arrayAt proc "orderBy").foldlM orderBy ∅
  return { options with sort }

/-- The listing that a request comes down to, or the answer that refuses it. -/
def listing (tenant : String) (proc : Json) (qparams : Std.TreeMap String String) :
    Except JsonError (Except Reply (String × ListOptions)) := do
  match ← firstMissing qparams (arrayAt proc "params") with
  | some pname => return .error (.error ("Missing required parameter: " ++ pname) 400)
  | none =>
      let options ← listOptions dump tenant proc qparams
      let entity ← proc.valueString "entity" ""
      if entity = "" then return .error (.error "Procedure missing 'entity' field" 500)
      else return .ok (entity, options)

/-- `handle`, with the procedures that were loaded. -/
def handle (A : Adapter σ) (procedures : Std.TreeMap String Json) (tenant name : String)
    (qparams : Std.TreeMap String String) : Act Thrown σ Reply :=
  match procedures[name]? with
  | none => pure (.error ("Unknown query procedure: " ++ name) 404)
  | some proc => do
      match ← Act.ofExcept ((listing dump tenant proc qparams).mapError Thrown.json) with
      | .error refusal => return refusal
      | .ok (entity, options) =>
          match ← A.list entity options with
          | .error e =>
              return if 500 ≤ e.code.status then .error "Internal server error" e.code.status
                else sendError e
          | .ok result => return .success (.obj
              [("data", .arr (result.items.map Json.nlohmannToJsoncpp)),
                ("total", .int result.total), ("success", .bool true)])

end QueryRouteHandler
end Daemon
end Dbal
