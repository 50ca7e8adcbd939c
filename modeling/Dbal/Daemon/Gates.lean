/-
# The gates of the entity routes

`tenant_mismatch_rejection`, `write_authz_rejection` and `read_authz_rejection` of
`src/daemon/server_routes.cpp`, and their use in front of the entity handlers: a
request is refused with a status and an error, or it may pass.

A request carries what the gates look at: the method, whether its `Authorization`
header is the operator's admin token, the claims of its token if the validator
accepts one, and its body if that is JSON.
-/

import Dbal.Core.SchemaAclRegistry

namespace Dbal
namespace Daemon

open Dbal.Core

/-- `drogon::HttpMethod`, as far as the routes are registered for it. -/
inductive HttpMethod where
  | get | post | put | patch | delete | options
  deriving DecidableEq, Repr

/-- `acl_operation_for_method`. -/
def aclOperationForMethod : HttpMethod → String
  | .post => "create"
  | .get => "read"
  | .put | .patch => "update"
  | .delete => "delete"
  | .options => "read"

/-- `is_write_method`. -/
def isWriteMethod : HttpMethod → Bool
  | .post | .put | .patch | .delete => true
  | .get | .options => false

/-- `JwtClaims`. -/
structure JwtClaims where
  userId : String := ""
  tenantId : String := ""
  role : String := ""
  deriving DecidableEq, Repr

/-- A request, as the gates see it. -/
structure Request where
  method : HttpMethod
  /-- The header is `Bearer` with the token of `DBAL_ADMIN_TOKEN`. -/
  adminToken : Bool := false
  /-- `MultiAlgJwtValidator::fromRequest`. -/
  claims : Option JwtClaims := none
  /-- `getJsonObject`. -/
  payload : Option Json := none

/-- A refusal: the status and the error of the response. -/
structure Rejection where
  status : Nat
  error : String
  deriving DecidableEq, Repr

/-- `tenant_mismatch_rejection`.  A token without a tenant and the shared tenant
`system` match everything. -/
def tenantMismatchRejection (claims : Option JwtClaims) (tenant : String) : Option Rejection :=
  match claims with
  | none => none
  | some c =>
      if c.tenantId = "" then none
      else if c.tenantId = tenant ∨ tenant = "system" then none
      else some ⟨403, "Token tenant does not match request tenant"⟩

/-- The loop over the privileged fields of an anonymous create. -/
def privilegedRejection (payload : Json) : List String → Except JsonError (Option Rejection)
  | [] => .ok none
  | name :: names => do
      if ← payload.isMember name then
        return some ⟨403, "Field '" ++ name ++ "' may not be set without signing in"⟩
      privilegedRejection payload names

/-- `write_authz_rejection`. -/
def writeAuthzRejection (req : Request) (registry : SchemaAclRegistry)
    (tenant entity : String) : Except JsonError (Option Rejection) :=
  let op := aclOperationForMethod req.method
  if !isWriteMethod req.method then .ok none
  else if req.adminToken then .ok none
  else if registry.isPublicWrite entity op then
    -- Anonymous, and allowed to be, but not to hand itself a role.
    match req.claims, req.payload with
    | none, some payload => privilegedRejection payload (registry.privilegedFields entity)
    | _, _ => .ok none
  else
    match req.claims with
    | none => .ok (some ⟨401, "Authentication required to modify this entity"⟩)
    | some c =>
        match tenantMismatchRejection (some c) tenant with
        | some wrong => .ok (some wrong)
        | none =>
            if registry.roleAllowed entity op c.role then .ok none
            else .ok (some ⟨403, "Your role may not modify this entity"⟩)

/-- `read_authz_rejection`. -/
def readAuthzRejection (req : Request) (registry : SchemaAclRegistry)
    (tenant entity : String) : Option Rejection :=
  if req.method ≠ .get then none
  else if !registry.requiresAuthToRead entity then none
  else if req.adminToken then none
  else
    match req.claims with
    | none => some ⟨401, "Authentication required to read this entity"⟩
    | some c =>
        match tenantMismatchRejection (some c) tenant with
        | some wrong => some wrong
        | none =>
            if registry.roleAllowed entity "read" c.role then none
            else some ⟨403, "Your role may not read this entity"⟩

/-- The gates in front of `handleEntity` and `handleEntityWithId`, in their order.
A server without schemas has no registry and no gates. -/
def entityGates (req : Request) (registry : Option SchemaAclRegistry)
    (tenant entity : String) : Except JsonError (Option Rejection) :=
  match registry with
  | none => .ok none
  | some registry =>
      if registry.isSystemOnly entity (aclOperationForMethod req.method) then
        .ok (some ⟨403, "This entity is system-managed and not reachable via the API"⟩)
      else do
        match ← writeAuthzRejection req registry tenant entity with
        | some reject => return some reject
        | none => return readAuthzRejection req registry tenant entity

end Daemon
end Dbal
