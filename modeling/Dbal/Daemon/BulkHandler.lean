/-
# Bulk requests

`BulkHandler` of `src/daemon/bulk_handler.cpp`: create, update or delete many rows of
one entity in one transaction, and `BatchRouteHandler::handleBatch` of
`src/daemon/handlers/batch_route_handler.cpp`, which mixes the three over several
entities.

The four handlers are one loop with four bodies.  A body is given by what it does with
one item: a result, or the error that ends the request.
-/

import Dbal.Daemon.Response
import Dbal.Daemon.Route

namespace Dbal
namespace Daemon

open Route

variable {σ : Type}

/-- What a handler asks of the array `body` before it begins. -/
def bulkItems (notArray isEmpty : String) : Json → Except Reply (List Json)
  | .arr [] => .error (.error isEmpty 400)
  | .arr items => .ok items
  | _ => .error (.error notArray 400)

/-- The response of a bulk handler. -/
def bulkResponse (count list : String) (results : List Json) : Reply :=
  .success (.obj [("success", .bool true), (count, .int results.length), (list, .arr results)])

/-- The frame of the three bulk handlers. -/
def bulk (A : Adapter σ) (notArray isEmpty count list : String)
    (step : Nat → Json → Act Thrown σ (Except Reply Json)) (body : Json) : Act Thrown σ Reply :=
  withExceptionHandling <|
    match bulkItems notArray isEmpty body with
    | .error refusal => pure refusal
    | .ok items =>
        A.tx.run step (.error "Failed to commit transaction" 500) (bulkResponse count list)
          (.error "Failed to begin transaction" 500) items

/-! ### Create -/

/-- One item of a bulk create. -/
def bulkCreateStep (A : Adapter σ) (route : RouteInfo) (inserted : Nat) (item : Json) :
    Act Thrown σ (Except Reply Json) := do
  let nItem ← Act.ofExcept ((injectTenant route.tenant item).mapError .json)
  match ← A.create route.entity nItem with
  | .error e =>
      return .error
        (.error ("Bulk create failed at item " ++ toString inserted ++ ": " ++ e.message) 400)
  | .ok row => return .ok row.nlohmannToJsoncpp

/-- `handleBulkCreate`. -/
def handleBulkCreate (A : Adapter σ) (route : RouteInfo) (body : Json) : Act Thrown σ Reply :=
  bulk A "Bulk create requires an array of resources" "Bulk create requires a non-empty array"
    "inserted" "data" (bulkCreateStep A route) body

/-! ### Update -/

/-- One item of a bulk update. -/
def bulkUpdateStep (formatReal : Int → Int → String) (A : Adapter σ) (route : RouteInfo)
    (updated : Nat) (item : Json) : Act Thrown σ (Except Reply Json) :=
  match item.isObject, item.find? "id", item.find? "data" with
  | true, some id, some data => do
      let itemId ← Act.ofExcept ((id.asString formatReal).mapError .json)
      if itemId = "" then
        return .error (.error ("Bulk update item " ++ toString updated ++ " has empty 'id'") 400)
      match ← A.update route.entity itemId data with
      | .error e =>
          return .error (.error ("Bulk update failed at item " ++ toString updated ++ " (id=" ++
            itemId ++ "): " ++ e.message) 400)
      | .ok row => return .ok row.nlohmannToJsoncpp
  | _, _, _ =>
      pure (.error (.error ("Bulk update item " ++ toString updated ++
        " must be an object with 'id' and 'data' fields") 400))

/-- `handleBulkUpdate`. -/
def handleBulkUpdate (formatReal : Int → Int → String) (A : Adapter σ) (route : RouteInfo)
    (body : Json) : Act Thrown σ Reply :=
  bulk A "Bulk update requires an array of updates" "Bulk update requires a non-empty array"
    "updated" "data" (bulkUpdateStep formatReal A route) body

/-! ### Delete -/

/-- One item of a bulk delete. -/
def bulkDeleteStep (A : Adapter σ) (route : RouteInfo) (deleted : Nat) (item : Json) :
    Act Thrown σ (Except Reply Json) :=
  match item with
  | .str itemId => do
      if itemId = "" then
        return .error (.error ("Bulk delete item " ++ toString deleted ++ " has empty ID") 400)
      match ← A.remove route.entity itemId with
      | .error e =>
          return .error (.error ("Bulk delete failed at item " ++ toString deleted ++ " (id=" ++
            itemId ++ "): " ++ e.message) 400)
      | .ok _ => return .ok (.str itemId)
  | _ =>
      pure (.error (.error ("Bulk delete item " ++ toString deleted ++
        " must be a string ID") 400))

/-- `handleBulkDelete`. -/
def handleBulkDelete (A : Adapter σ) (route : RouteInfo) (body : Json) : Act Thrown σ Reply :=
  bulk A "Bulk delete requires an array of IDs" "Bulk delete requires a non-empty array"
    "deleted" "ids" (bulkDeleteStep A route) body

/-! ### Batch -/

/-- The error of an operation that lacks something. -/
def operationError (i : Nat) (what : String) : Reply :=
  .error ("Operation " ++ toString i ++ what) 400

/-- The error of an operation that the adapter refused. -/
def operationFailed (i : Nat) (what : String) (e : Error) : Reply :=
  .error ("Operation " ++ toString i ++ " (" ++ what ++ ") failed: " ++ e.message) e.code.status

/-- The result of an operation: its number, action and entity, and what it adds. -/
def operationResult (i : Nat) (action entity : String) (members : List (String × Json)) : Json :=
  .obj ([("operation", .int i), ("action", .str action), ("entity", .str entity)] ++ members)

/-- `op["id"]` as a non-empty string. -/
def operationId (op : Json) : Option String :=
  match op.find? "id" with
  | some (.str id) => if id = "" then none else some id
  | _ => none

/-- `op["data"]` as an object. -/
def operationData (op : Json) : Option Json :=
  match op.find? "data" with
  | some (.obj members) => some (.obj members)
  | _ => none

/-- The branch of `create`. -/
def batchCreate (A : Adapter σ) (tenant : String) (i : Nat) (entity : String) (op : Json) :
    Act Thrown σ (Except Reply Json) :=
  match operationData op with
  | none => pure (.error (operationError i " (create): missing required 'data' object"))
  | some data => do
      let nData ← Act.ofExcept ((injectTenant tenant data).mapError .json)
      match ← A.create entity nData with
      | .error e => return .error (operationFailed i ("create on " ++ entity) e)
      | .ok row => return .ok (operationResult i "create" entity [("data", row.nlohmannToJsoncpp)])

/-- The branch of `update`. -/
def batchUpdate (A : Adapter σ) (i : Nat) (entity : String) (op : Json) :
    Act Thrown σ (Except Reply Json) :=
  match operationId op, operationData op with
  | none, _ => pure (.error (operationError i " (update): missing required 'id' field"))
  | some _, none => pure (.error (operationError i " (update): missing required 'data' object"))
  | some id, some data => do
      match ← A.update entity id data with
      | .error e => return .error (operationFailed i ("update on " ++ entity ++ " id=" ++ id) e)
      | .ok row =>
          return .ok (operationResult i "update" entity
            [("id", .str id), ("data", row.nlohmannToJsoncpp)])

/-- The branch of `delete`. -/
def batchDelete (A : Adapter σ) (i : Nat) (entity : String) (op : Json) :
    Act Thrown σ (Except Reply Json) :=
  match operationId op with
  | none => pure (.error (operationError i " (delete): missing required 'id' field"))
  | some id => do
      match ← A.remove entity id with
      | .error e => return .error (operationFailed i ("delete on " ++ entity ++ " id=" ++ id) e)
      | .ok _ =>
          return .ok (operationResult i "delete" entity
            [("id", .str id), ("deleted", .bool true)])

/-- One operation of a batch. -/
def batchStep (A : Adapter σ) (tenant : String) (i : Nat) (op : Json) :
    Act Thrown σ (Except Reply Json) :=
  if !op.isObject then pure (.error (operationError i " must be an object"))
  else
    match op.find? "action", op.find? "entity" with
    | some (.str action), some (.str entity) =>
        if action = "create" then batchCreate A tenant i entity op
        else if action = "update" then batchUpdate A i entity op
        else if action = "delete" then batchDelete A i entity op
        else pure (.error (operationError i (": unsupported action '" ++ action ++
          "' (valid: create, update, delete)")))
    | some (.str _), _ => pure (.error (operationError i " missing required 'entity' field"))
    | _, _ => pure (.error (operationError i " missing required 'action' field"))

/-- The operations of a batch. -/
def batchItems (body : Json) : Except JsonError (Except Reply (List Json)) := do
  if ← body.isMember "operations" then
    match body.find? "operations" with
    | some (.arr []) => return .error (.error "Operations array must not be empty" 400)
    | some (.arr operations) => return .ok operations
    | _ => return .error (.error "Request body must contain an 'operations' array" 400)
  else return .error (.error "Request body must contain an 'operations' array" 400)

/-- The response of a batch. -/
def batchResponse (results : List Json) : Reply :=
  .success (.obj [("success", .bool true), ("operations", .int results.length),
    ("results", .arr results)])

/-- `handleBatch`, on a body that is JSON: `none` is one that does not parse. -/
def handleBatch (A : Adapter σ) (tenant : String) (body : Option Json) : Act Thrown σ Reply :=
  match body with
  | none => pure (.error "Invalid JSON body" 400)
  | some body =>
      Act.catching (do
        match ← Act.ofExcept ((batchItems body).mapError .json) with
        | .error refusal => return refusal
        | .ok operations =>
            A.tx.run (batchStep A tenant) (.error "Failed to commit transaction" 500) batchResponse
              (.error "Failed to begin transaction" 500) operations)
        fun _ => .error "Internal server error" 500

end Daemon
end Dbal
