/-
# The routes

`src/daemon/server_routes.cpp`, as far as it leads to the rows of entities: the three
entity routes with their gates, and the search, bulk and batch routes, which have none.

Left out are the rate limiters and the check that there is a client, which refuse a
request before anything here, and the headers of the answers.
-/

import Dbal.Daemon.BulkPlan
import Dbal.Daemon.EntityHandler

namespace Dbal
namespace Daemon

open Dbal.Core Route

variable {σ : Type}

/-- The route that the router has found, with its parameters. -/
inductive Endpoint where
  /-- `/{tenant}/{package}/{entity}` -/
  | collection (tenant package entity : String)
  /-- `/{tenant}/{package}/{entity}/{id}` -/
  | item (tenant package entity id : String)
  /-- `/{tenant}/{package}/{entity}/{id}/{action}` -/
  | action (tenant package entity id name : String)
  /-- `/{tenant}/{package}/{entity}/_search` -/
  | search (tenant package entity : String)
  /-- `/{tenant}/{package}/{entity}/_bulk/create` -/
  | bulkCreate (tenant package entity : String)
  /-- `/{tenant}/{package}/{entity}/_bulk/update` -/
  | bulkUpdate (tenant package entity : String)
  /-- `/{tenant}/{package}/{entity}/_bulk/delete` -/
  | bulkDelete (tenant package entity : String)
  /-- `/{tenant}/{package}/_batch` -/
  | batch (tenant package : String)
  deriving DecidableEq, Repr

namespace Endpoint

/-- The methods for which the route is registered. -/
def methods : Endpoint → List HttpMethod
  | collection .. => [.get, .post, .options]
  | item .. => [.get, .post, .put, .patch, .delete, .options]
  | action .. => [.get, .post, .options]
  | search .. => [.get]
  | bulkCreate .. | bulkUpdate .. | bulkDelete .. | batch .. => [.post]

/-- The route on which the handlers act.  A batch takes the tenant as it is. -/
def route : Endpoint → RouteInfo
  | collection tenant package entity => handlerRoute tenant package entity none
  | item tenant package entity id => handlerRoute tenant package entity (some id)
  | action tenant package entity id name =>
      handlerRoute tenant package entity (some (id ++ "/" ++ name))
  | search tenant package entity | bulkCreate tenant package entity
  | bulkUpdate tenant package entity | bulkDelete tenant package entity =>
      handlerRoute tenant package entity none
  | batch tenant _ => { tenant }

end Endpoint

/-- What the server has read at its start: the registry, if there are schemas, the access
configuration, and whether it has a key for tokens. -/
structure Server where
  registry : Option SchemaAclRegistry := none
  authConfig : AuthConfig := {}
  hasKey : Bool := true

namespace Server

/-- The part of the entity routes behind the gates: a caller where the configuration asks
for one, and the context for the handler. -/
def requireAuth (server : Server) (req : HttpRequest) (tenant entity : String) :
    Except Rejection (Option AuthContext) :=
  let config := server.authConfig.getEntityConfig tenant entity
  if !config.requireAuth || req.adminToken then .ok none
  else if !server.hasKey then .error ⟨503, "Auth not configured (JWT_SECRET_KEY not set)"⟩
  else
    match req.claims with
    | none => .error ⟨401, "Unauthorized"⟩
    | some claims =>
        if claims.tenantId ≠ "" ∧ claims.tenantId ≠ tenant then
          .error ⟨403, "Token tenant does not match request tenant"⟩
        else .ok (some ⟨claims.userId, tenant, config⟩)

/-- The gates of an entity route, and what they hand on. -/
def authorize (server : Server) (req : HttpRequest) (tenant entity : String) :
    Except JsonError (Except Rejection (Option AuthContext)) := do
  match ← entityGates req.gated server.registry tenant entity with
  | some reject => return .error reject
  | none => return server.requireAuth req tenant entity

/-- An entity route: preflights are answered at once. -/
def gated (server : Server) (req : HttpRequest) (tenant entity : String)
    (handler : Option AuthContext → Act Thrown σ Reply) : Act Thrown σ Reply :=
  if req.method = .options then pure (.success .null)
  else do
    match ← Act.ofExcept ((server.authorize req tenant entity).mapError .json) with
    | .error reject => return .error reject.error reject.status
    | .ok auth => handler auth

/-- The limit of a search; one that is no number counts as absent. -/
def searchLimit (query : Std.TreeMap String String) : Int :=
  match ListHandler.stoi (query["limit"]?.getD "").toList with
  | some (limit, _) => limit
  | none => 20

/-- `SearchHandler::handleSearch`. -/
def handleSearch (A : Adapter σ) (route : RouteInfo) (query : String) (limit : Int) :
    Act Thrown σ Reply :=
  withExceptionHandling do
    match ← A.search route.entity query limit with
    | .error e => return .error e.message 503
    | .ok hits =>
        return .success (.obj [("data", .arr (hits.items.map Json.nlohmannToJsoncpp)),
          ("total", .int hits.total), ("limit", .int hits.limit), ("source", .str "search-index")])

/-- The search route. -/
def search (A : Adapter σ) (req : HttpRequest) (route : RouteInfo) : Act Thrown σ Reply :=
  let query := req.query["q"]?.getD ""
  if query = "" then pure (.error "query parameter 'q' is required" 400)
  else handleSearch A route query (searchLimit req.query)

/-- The body of a bulk request; one that does not parse counts as an empty array. -/
def bulkBody (req : HttpRequest) : Json := req.body.getD (.arr [])

/-- The answer to a request that was routed.  For other methods the router answers. -/
def serve (lib : Libraries) (A : Adapter σ) (server : Server) (req : HttpRequest)
    (endpoint : Endpoint) : Act Thrown σ Reply :=
  if req.method ∉ endpoint.methods then pure (.error "" 405)
  else
    match endpoint with
    | .collection tenant package entity =>
        server.gated req tenant entity fun auth =>
          EntityHandler.handleEntity lib A req tenant package entity auth
    | .item tenant package entity id =>
        server.gated req tenant entity fun auth =>
          EntityHandler.handleEntityWithId A req tenant package entity id auth
    | .action tenant package entity id name =>
        server.gated req tenant entity fun _ =>
          EntityHandler.handleEntityAction A req tenant package entity id name
    | .search .. => search A req endpoint.route
    | .bulkCreate .. => handleBulkCreate A endpoint.route (bulkBody req)
    | .bulkUpdate .. => handleBulkUpdate lib.formatReal A endpoint.route (bulkBody req)
    | .bulkDelete .. => handleBulkDelete A endpoint.route (bulkBody req)
    | .batch tenant _ => handleBatch A tenant req.body

end Server
end Daemon
end Dbal
