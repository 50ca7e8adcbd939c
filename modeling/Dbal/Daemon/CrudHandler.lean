/-
# Requests for one row

`CrudHandler` of `src/daemon/crud_handler.cpp` and `handleRestfulRequest` of
`src/daemon/rpc_restful_handler.cpp`: a route and a method become a call of the
adapter.  Reading, updating and deleting look at the stored row first and answer as if
it were not there when it belongs to another tenant.
-/

import Dbal.Daemon.Gates
import Dbal.Daemon.ListHandler

namespace Dbal
namespace Daemon

open Route

variable {σ : Type}

/-- The record has a tenant, as a string, and it is not that of the path. -/
def otherTenant (route : RouteInfo) (record : Json) : Bool :=
  match record.find? "tenantId" with
  | some (.str tenant) => route.tenant ≠ "" && tenant ≠ route.tenant
  | _ => false

namespace CrudHandler

/-- `handleCreate`. -/
def handleCreate (A : Adapter σ) (route : RouteInfo) (body : Json) : Act Thrown σ Reply :=
  withExceptionHandling do
    let data ← Act.ofExcept ((injectTenant route.tenant body).mapError .json)
    match ← A.create route.entity data with
    | .error e => return sendError e
    | .ok row => return .success row.nlohmannToJsoncpp

/-- `handleRead`. -/
def handleRead (A : Adapter σ) (route : RouteInfo) : Act Thrown σ Reply :=
  withExceptionHandling do
    match ← A.read route.entity route.id with
    | .error e => return sendError e
    | .ok record =>
        if otherTenant route record then return .error (route.entity ++ " not found") 404
        else return .success record.nlohmannToJsoncpp

/-- What `handleUpdate` and `handleDelete` do before the call: the row must be there, and
not be another tenant's. -/
def withOwnRow (A : Adapter σ) (route : RouteInfo) (operation : String)
    (act : Act Thrown σ Reply) : Act Thrown σ Reply :=
  withExceptionHandling <|
    if route.id = "" then pure (.error ("ID is required for " ++ operation ++ " operations") 400)
    else do
      match ← A.read route.entity route.id with
      | .error e => return sendError e
      | .ok existing =>
          if otherTenant route existing then return .error (route.entity ++ " not found") 404
          else act

/-- `handleUpdate`. -/
def handleUpdate (A : Adapter σ) (route : RouteInfo) (body : Json) : Act Thrown σ Reply :=
  withOwnRow A route "update" <|
    if body.isEmpty then pure (.error "At least one update field must be provided" 400)
    else do
      match ← A.update route.entity route.id body with
      | .error e => return sendError e
      | .ok row => return .success row.nlohmannToJsoncpp

/-- `handleDelete`. -/
def handleDelete (A : Adapter σ) (route : RouteInfo) : Act Thrown σ Reply :=
  withOwnRow A route "delete" do
    match ← A.remove route.entity route.id with
    | .error e => return sendError e
    | .ok deleted => return .success (.obj [("deleted", .bool deleted)])

/-! What they do to the store. -/

theorem handleCreate_snd (A : Adapter σ) (route : RouteInfo) (body : Json) (s : σ) :
    (handleCreate A route body s).2 =
      match injectTenant route.tenant body with
      | .ok data => (A.create route.entity data s).2
      | .error _ => s := by
  simp only [handleCreate, withExceptionHandling, Act.catching_snd]
  cases hdata : injectTenant route.tenant body with
  | error e => rfl
  | ok data =>
      rw [Act.ofExcept_bind rfl]
      refine Act.bind_snd ?_ s
      rintro (_ | _) s' <;> rfl

theorem handleRead_snd (A : Adapter σ) (route : RouteInfo) (s : σ) :
    (handleRead A route s).2 = (A.read route.entity route.id s).2 := by
  simp only [handleRead, withExceptionHandling, Act.catching_snd]
  refine Act.bind_snd ?_ s
  rintro (e | record) s'
  · rfl
  · dsimp only
    split_ifs <;> rfl

end CrudHandler

/-- `handleRestfulRequest`. -/
def handleRestfulRequest (A : Adapter σ) (route : RouteInfo) (method : HttpMethod) (body : Json)
    (query : Std.TreeMap String String) : Act Thrown σ Reply :=
  if !route.valid then pure (.error route.error 400)
  else if route.action ≠ "" then pure (.error "Custom actions are not supported yet" 404)
  else
    match method with
    | .get =>
        if route.id = "" then ListHandler.handleList A route query
        else CrudHandler.handleRead A route
    | .post =>
        if route.id ≠ "" then
          pure (.error "POST with a resource ID is not supported; use PUT/PATCH" 400)
        else CrudHandler.handleCreate A route body
    | .put | .patch => CrudHandler.handleUpdate A route body
    | .delete => CrudHandler.handleDelete A route
    | .options => pure (.error "Unsupported HTTP method: UNKNOWN" 405)

end Daemon
end Dbal
