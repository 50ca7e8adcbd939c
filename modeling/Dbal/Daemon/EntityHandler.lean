/-
# The entity handlers

`EntityRouteHandler` of `src/daemon/handlers/entity_route_handler_crud.cpp` over the
rules of `src/auth/auth_config.cpp`: owners are put into new rows and asked for on
single rows where the configuration says so, a new row is validated, and the rest is
`handleRestfulRequest` on the path put together again.

The server has no workflow engine here, so nothing is dispatched after a create.
-/

import Dbal.Daemon.CrudHandler
import Dbal.Daemon.EntityValidator

namespace Dbal
namespace Daemon

open Route

variable {σ : Type}

/-! ### The configuration of access -/

/-- `EntityAuthConfig`. -/
structure EntityAuthConfig where
  requireAuth : Bool := false
  injectOwner : Bool := false
  filterByOwner : Bool := false
  checkOwnership : Bool := false
  deriving DecidableEq, Repr

/-- `TenantAuthConfig`. -/
structure TenantAuthConfig where
  requireAuth : Bool := false
  entities : Std.TreeMap String EntityAuthConfig := ∅

/-- `AuthConfig`. -/
structure AuthConfig where
  requireAuth : Bool := false
  tenants : Std.TreeMap String TenantAuthConfig := ∅

/-- `getEntityConfig`. -/
def AuthConfig.getEntityConfig (config : AuthConfig) (tenant entity : String) : EntityAuthConfig :=
  match config.tenants[tenant]? with
  | none => { requireAuth := config.requireAuth }
  | some tenantConfig =>
      match tenantConfig.entities[entity]? with
      | none => { requireAuth := tenantConfig.requireAuth }
      | some entityConfig => entityConfig

/-- `AuthContext`. -/
structure AuthContext where
  userId : String
  tenantId : String
  config : EntityAuthConfig
  deriving DecidableEq, Repr

/-! ### Requests -/

/-- A request, as the routes and the handlers read it. -/
structure HttpRequest where
  method : HttpMethod
  /-- The header is `Bearer` with the token of `DBAL_ADMIN_TOKEN`. -/
  adminToken : Bool := false
  /-- `MultiAlgJwtValidator::fromRequest`. -/
  claims : Option JwtClaims := none
  /-- The content type is that of JSON. -/
  isJson : Bool := true
  /-- The body, if jsoncpp's reader accepts it. -/
  body : Option Json := none
  query : Std.TreeMap String String := ∅

/-- The request, as the gates see it: `getJsonObject` reads bodies of the right type only. -/
def HttpRequest.gated (req : HttpRequest) : Request where
  method := req.method
  adminToken := req.adminToken
  claims := req.claims
  payload := if req.isJson then req.body else none

/-- `parseRequestBody`. -/
def HttpRequest.parseRequestBody (req : HttpRequest) : Json :=
  match req.method with
  | .post | .put | .patch => req.body.getD (.obj [])
  | _ => .obj []

/-! ### The handlers -/

namespace EntityHandler

/-- jsoncpp's `body[key] = value`. -/
def setMember (key value : String) (body : Json) : Except JsonError Json :=
  (body.assign key (.str value)).mapError fun _ => .logicError

/-- The owner of a new row, whatever the client has sent. -/
def injectOwner (auth : Option AuthContext) (method : HttpMethod) (body : Json) :
    Except JsonError Json :=
  match auth with
  | some auth =>
      if method = .post ∧ auth.config.injectOwner then do
        setMember "tenantId" auth.tenantId (← setMember "userId" auth.userId body)
      else .ok body
  | none => .ok body

/-- The listing of the caller's rows. -/
def filterByOwner (auth : Option AuthContext) (method : HttpMethod)
    (query : Std.TreeMap String String) : Std.TreeMap String String :=
  match auth with
  | some auth =>
      if method = .get ∧ auth.config.filterByOwner then query.insert "filter.userId" auth.userId
      else query
  | none => query

/-- The body of the 422 of a payload that is not valid. -/
def validationBody (errors : List ValidationError) : Json :=
  .obj [("success", .bool false), ("error", .str "Validation failed"),
    ("fields", .arr (errors.map fun e =>
      .obj [("field", .str e.field), ("message", .str e.message)]))]

/-- The check of a payload against the schema of the adapter; an entity without one is not
checked. -/
def validate (lib : Libraries) (A : Adapter σ) (route : RouteInfo) (method : HttpMethod)
    (body : Json) : Option Reply :=
  if method = .post ∨ method = .patch ∨ method = .put then
    match A.getEntitySchema route.entity with
    | .ok schema =>
        match validateEntityData lib schema body (method = .post) with
        | [] => none
        | errors => some (.error (lib.toStyledString (validationBody errors)) 422)
    | .error _ => none
  else none

/-- The `catch` around a handler. -/
def guarded (handler : Act Thrown σ Reply) : Act Thrown σ Reply :=
  handler.catching fun _ => .error "Internal server error" 500

/-- `handleEntity`. -/
def handleEntity (lib : Libraries) (A : Adapter σ) (req : HttpRequest)
    (tenant package entity : String) (auth : Option AuthContext) : Act Thrown σ Reply :=
  guarded do
    let route := handlerRoute tenant package entity none
    let body ← Act.ofExcept
      ((injectOwner auth req.method req.parseRequestBody).mapError .json)
    let query := filterByOwner auth req.method req.query
    match validate lib A route req.method body with
    | some refusal => return refusal
    | none => handleRestfulRequest A route req.method body query

/-- The check of the owner of a stored row: `value("userId", "")`. -/
def checkOwnership (A : Adapter σ) (route : RouteInfo) (id : String) (auth : Option AuthContext) :
    Act Thrown σ (Option Reply) :=
  match auth with
  | some auth =>
      if auth.config.checkOwnership then do
        match ← A.read route.entity id with
        | .error _ => return some (.error "Entity not found" 404)
        | .ok stored =>
            let owner ← Act.ofExcept ((stored.valueString "userId" "").mapError .json)
            return if owner ≠ auth.userId then some (.error "Forbidden" 403) else none
      else pure none
  | none => pure none

/-- `handleEntityWithId`. -/
def handleEntityWithId (A : Adapter σ) (req : HttpRequest) (tenant package entity id : String)
    (auth : Option AuthContext) : Act Thrown σ Reply :=
  guarded do
    let route := handlerRoute tenant package entity (some id)
    match ← checkOwnership A route id auth with
    | some refusal => return refusal
    | none => handleRestfulRequest A route req.method req.parseRequestBody req.query

/-- `handleEntityAction`. -/
def handleEntityAction (A : Adapter σ) (req : HttpRequest)
    (tenant package entity id action : String) : Act Thrown σ Reply :=
  guarded <|
    handleRestfulRequest A (handlerRoute tenant package entity (some (id ++ "/" ++ action)))
      req.method req.parseRequestBody req.query

end EntityHandler
end Daemon
end Dbal
