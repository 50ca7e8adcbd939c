/-
# Gates on every route

The entity routes refuse a caller by the rules of the schema and by the access
configuration.  The search, bulk and batch routes reach the same rows, and should
refuse the caller the same operations.

They ask nobody: `serve` calls the gates on the entity routes alone.  So a request is
guarded exactly when the entity routes would let its caller do everything that it asks
for (`guarded_iff`), which on those routes is a matter of luck.
-/

import Dbal.Daemon.Access
import Dbal.Daemon.GateRule

namespace Dbal
namespace Daemon

open Dbal.Core Route

variable {σ : Type} {lib : Libraries} {server : Server} {req : HttpRequest} {tenant entity : String}

/-! ### What the entity routes let a caller do -/

/-- The body with which an entity route is asked for the access: its data, or what becomes
its data when the tenant of the path is put in. -/
def Sends (tenant : String) (access : Access) (body : Option Json) : Prop :=
  match access.data with
  | none => body = none
  | some data => ∃ sent, body = some sent ∧
      (sent = data ∨ access.method = .post ∧ injectTenant tenant sent = .ok data)

/-- The entity routes let the caller of the request do this. -/
def Server.Lets (server : Server) (req : HttpRequest) (tenant : String) (access : Access) : Prop :=
  ∃ body, Sends tenant access body ∧ ∃ auth,
    server.authorize { req with method := access.method, body } tenant access.entity = .ok (.ok auth)

/-- Whatever the store, the request leads to no row call that the entity routes would refuse
its caller. -/
def Server.Guarded (lib : Libraries) (server : Server) (req : HttpRequest) (endpoint : Endpoint) :
    Prop :=
  ∀ (σ : Type) (A : Adapter σ) (s : σ),
    ∀ access ∈ (server.serve lib (logging A) req endpoint (s, [])).2.2,
      access.Serves req.method → server.Lets req endpoint.route.tenant access

/-! ### The same, by the schema, the configuration and the caller -/

/-- The rule of the schema admits the caller, if there are schemas. -/
def Server.RuleAdmits (server : Server) (req : HttpRequest) (tenant entity : String) : Prop :=
  ∀ registry, server.registry = some registry →
    (Rule.ofSchema registry.schemas[entity]? req.method).Admits req.gated tenant

/-- The configuration asks for no caller, or for this one. -/
def Server.ConfigAdmits (server : Server) (req : HttpRequest) (tenant entity : String) : Prop :=
  (server.authConfig.getEntityConfig tenant entity).requireAuth = true → req.adminToken = true ∨
    server.hasKey = true ∧
      ∃ claims, req.claims = some claims ∧ (claims.tenantId = "" ∨ claims.tenantId = tenant)

/-- With the body that the entity routes would be sent, both admit the caller. -/
def Server.Permits (server : Server) (req : HttpRequest) (tenant : String) (access : Access) : Prop :=
  server.ConfigAdmits req tenant access.entity ∧ ∃ body, Sends tenant access body ∧
    server.RuleAdmits { req with method := access.method, body } tenant access.entity

theorem requireAuth_ok_iff :
    (∃ auth, server.requireAuth req tenant entity = .ok auth) ↔
      server.ConfigAdmits req tenant entity := by
  simp only [Server.requireAuth, Server.ConfigAdmits]
  cases (server.authConfig.getEntityConfig tenant entity).requireAuth with
  | false => simp
  | true =>
      cases req.adminToken with
      | true => simp
      | false =>
          cases server.hasKey with
          | false => simp
          | true =>
              cases req.claims with
              | none => simp
              | some claims =>
                  simp only [Bool.not_true, Bool.or_self, Bool.false_eq_true, if_false]
                  split_ifs with h
                  · simpa using h
                  · simpa [or_iff_not_imp_left] using h

theorem authorize_ok_iff (hmethod : req.method ≠ .options) :
    (∃ auth, server.authorize req tenant entity = .ok (.ok auth)) ↔
      server.RuleAdmits req tenant entity ∧ server.ConfigAdmits req tenant entity := by
  have hgates : entityGates req.gated server.registry tenant entity = .ok none ↔
      server.RuleAdmits req tenant entity := by
    unfold Server.RuleAdmits
    cases server.registry with
    | none => simp [entityGates]
    | some registry =>
        simp only [Option.some.injEq, forall_eq']
        exact @entityGates_pass_iff req.gated registry tenant entity hmethod
  rw [← hgates, ← requireAuth_ok_iff]
  constructor
  · rintro ⟨auth, h⟩
    exact ⟨(Server.authorize_cases h).1, auth, (Server.authorize_cases h).2⟩
  · rintro ⟨hpass, auth, hauth⟩
    exact ⟨auth, by simp [Server.authorize, hpass, hauth, bind, Except.bind, pure, Except.pure]⟩

theorem lets_iff {access : Access} (hmethod : access.method ≠ .options) :
    server.Lets req tenant access ↔ server.Permits req tenant access := by
  constructor
  · rintro ⟨body, hsends, hauth⟩
    obtain ⟨hrule, hconfig⟩ := (authorize_ok_iff hmethod).1 hauth
    exact ⟨hconfig, body, hsends, hrule⟩
  · rintro ⟨hconfig, body, hsends, hrule⟩
    exact ⟨body, hsends, (authorize_ok_iff hmethod).2 ⟨hrule, hconfig⟩⟩

/-! ### The entity routes guard themselves -/

/-- A rule that admits a request admits it with any other body, if that sets no privileged
field or the caller is signed in. -/
theorem Rule.Admits.of_body {rule : Rule} {a b : Request} (h : rule.Admits a tenant)
    (hadmin : b.adminToken = a.adminToken) (hclaims : b.claims = a.claims)
    (hbody : b.payload = a.payload ∨ a.claims.isSome = true ∨
      ∀ payload, b.payload = some payload → ∀ name, payload.isMember name = .ok false) :
    rule.Admits b tenant := by
  cases rule with
  | system => exact h
  | everyone privileged =>
      simp only [Rule.Admits, hadmin, hclaims] at h ⊢
      rcases hbody with hbody | hsigned | hnone
      · rwa [hbody]
      · exact Or.inr (Or.inl hsigned)
      · exact Or.inr (Or.inr fun payload hpayload name _ => hnone payload hpayload name)
  | signedIn roles => simpa only [Rule.Admits, hadmin, hclaims] using h

/-- Bodies play no part in reading. -/
theorem Rule.Admits.read {schema : Option EntitySchema} {a b : Request}
    (h : (Rule.ofSchema schema .get).Admits a tenant) (hadmin : b.adminToken = a.adminToken)
    (hclaims : b.claims = a.claims) : (Rule.ofSchema schema .get).Admits b tenant := by
  simp only [Rule.ofSchema, if_true] at h ⊢
  split_ifs at h ⊢
  · exact h
  · simp [Rule.Admits]
  · simpa only [Rule.Admits, hadmin, hclaims] using h

theorem permits_read (hget : req.method = .get) (h : server.RuleAdmits req tenant entity)
    (hconfig : server.ConfigAdmits req tenant entity) :
    server.Permits req tenant ⟨.get, entity, none⟩ := by
  refine ⟨hconfig, none, rfl, fun registry hregistry => ?_⟩
  have hrule := h registry hregistry
  rw [hget] at hrule
  exact hrule.read rfl rfl

/-- The context that `requireAuth` makes is that of a caller who is signed in. -/
theorem claims_of_authorize {auth : AuthContext}
    (h : server.authorize req tenant entity = .ok (.ok (some auth))) : req.claims.isSome = true := by
  have hauth := (Server.authorize_cases h).2
  simp only [Server.requireAuth] at hauth
  split_ifs at hauth
  · cases hauth
  · cases hclaims : req.claims with
    | none => simp [hclaims] at hauth
    | some claims => rfl

/-- A body that differs from the one that was sent is that of a caller who is signed in. -/
theorem injectOwner_cases {auth : Option AuthContext} {body : Json}
    (hauth : server.authorize req tenant entity = .ok (.ok auth))
    (h : EntityHandler.injectOwner auth req.method req.parseRequestBody = .ok body) :
    body = req.parseRequestBody ∨ req.claims.isSome = true := by
  cases auth with
  | none => exact Or.inl (Except.ok.inj h).symm
  | some auth => exact Or.inr (claims_of_authorize hauth)

/-- The body of a write, sent again: the gates see the same, or an empty object for a body
that did not parse, or the caller is signed in. -/
theorem payload_cases {body : Json} (method : HttpMethod)
    (hmethod : req.method = .post ∨ req.method = .put ∨ req.method = .patch)
    (hbody : body = req.parseRequestBody ∨ req.claims.isSome = true) :
    ({ req with method, body := some body } : HttpRequest).gated.payload = req.gated.payload ∨
      req.gated.claims.isSome = true ∨
      ∀ payload, ({ req with method, body := some body } : HttpRequest).gated.payload =
        some payload → ∀ name, payload.isMember name = .ok false := by
  rcases hbody with rfl | hsigned
  · have hparse : req.parseRequestBody = req.body.getD (.obj []) := by
      rcases hmethod with h | h | h <;> simp [HttpRequest.parseRequestBody, h]
    rw [hparse]
    cases hbody : req.body with
    | some body => exact Or.inl (by simp [HttpRequest.gated, hbody])
    | none =>
        refine Or.inr (Or.inr ?_)
        simp [HttpRequest.gated, Json.isMember, Json.contains, Json.find?, Json.fields]
  · exact Or.inr (Or.inl hsigned)

/-- Behind the gates of an entity, its routes ask for nothing that they would refuse. -/
theorem permits_restful {route : RouteInfo} {body : Json} {query : Std.TreeMap String String}
    (hrule : server.RuleAdmits req tenant route.entity)
    (hconfig : server.ConfigAdmits req tenant route.entity) (htenant : route.tenant = tenant)
    (hbody : body = req.parseRequestBody ∨ req.claims.isSome = true) :
    ∀ access ∈ restfulAccess route req.method body query, server.Permits req tenant access := by
  intro access haccess
  rcases restfulAccess_cases haccess with ⟨hget, rfl⟩ | ⟨hpost, data, hdata, rfl⟩ |
    ⟨hput, hnonempty, rfl⟩ | ⟨hdelete, rfl⟩
  · exact permits_read hget hrule hconfig
  · refine ⟨hconfig, some body, ⟨body, rfl, Or.inr ⟨rfl, htenant ▸ hdata⟩⟩, ?_⟩
    intro registry hregistry
    have hadmits := hrule registry hregistry
    rw [hpost] at hadmits
    exact hadmits.of_body rfl rfl (payload_cases _ (Or.inl hpost) hbody)
  · refine ⟨hconfig, some body, ⟨body, rfl, Or.inl rfl⟩, fun registry hregistry => ?_⟩
    have hadmits := hrule registry hregistry
    have hpatch : Rule.ofSchema registry.schemas[route.entity]? req.method =
        Rule.ofSchema registry.schemas[route.entity]? .patch := by
      rcases hput with h | h <;> rw [h]
      rfl
    rw [hpatch] at hadmits
    exact hadmits.of_body rfl rfl (payload_cases _ (Or.inr hput) hbody)
  · refine ⟨hconfig, none, rfl, fun registry hregistry => ?_⟩
    have hadmits := hrule registry hregistry
    rw [hdelete] at hadmits
    refine hadmits.of_body rfl rfl (Or.inr (Or.inr ?_))
    simp [HttpRequest.gated]

theorem permits_owner {route : RouteInfo} {auth : Option AuthContext}
    (hrule : server.RuleAdmits req tenant route.entity)
    (hconfig : server.ConfigAdmits req tenant route.entity) :
    ∀ access ∈ ownerAccess route req.method auth, server.Permits req tenant access := by
  intro access haccess
  cases auth with
  | none => cases haccess
  | some auth =>
      simp only [ownerAccess] at haccess
      split_ifs at haccess with hcheck
      · obtain rfl := List.mem_singleton.1 haccess
        exact permits_read hcheck.2 hrule hconfig
      · cases haccess

/-- A name that is a whole segment of a path. -/
def PlainName (name : String) : Prop := name ≠ "" ∧ '/' ∉ name.toList

/-- An entity route whose names are whole segments, so that the handler acts on the entity
that the gates have judged. -/
def Endpoint.Gated : Endpoint → Prop
  | .collection tenant package entity | .item tenant package entity _
  | .action tenant package entity _ _ => PlainName tenant ∧ PlainName package ∧ PlainName entity
  | _ => False

/-- Behind the gates the rule and the configuration admit the caller, on the entity on which
the handler acts. -/
theorem admits_of_behindGates {route : RouteInfo} {accesses : Option AuthContext → List Access}
    {access : Access} (htenant : route.tenant = tenant) (hentity : route.entity = entity)
    (h : access ∈ server.behindGates req tenant entity accesses) :
    ∃ auth, server.authorize req tenant entity = .ok (.ok auth) ∧ access ∈ accesses auth ∧
      server.RuleAdmits req route.tenant route.entity ∧
      server.ConfigAdmits req route.tenant route.entity := by
  obtain ⟨hoptions, auth, hauth, haccess⟩ := mem_behindGates.1 h
  obtain ⟨hrule, hconfig⟩ := (authorize_ok_iff hoptions).1 ⟨auth, hauth⟩
  rw [htenant, hentity]
  exact ⟨auth, hauth, haccess, hrule, hconfig⟩

/-- An entity route with plain names asks for nothing that it would refuse. -/
theorem permits_of_gated {endpoint : Endpoint} (hgated : endpoint.Gated) :
    ∀ access ∈ server.asks lib req endpoint, server.Permits req endpoint.route.tenant access := by
  intro access haccess
  by_cases hmethod : req.method ∈ endpoint.methods
  · simp only [Server.asks, hmethod, not_true, if_false] at haccess
    cases endpoint with
    | collection tenant package entity =>
        obtain ⟨htenant, hpackage, hentity⟩ := hgated
        have hnames := handlerRoute_names none htenant hpackage hentity
        obtain ⟨auth, hauth, haccess, hrule, hconfig⟩ :=
          admits_of_behindGates hnames.1 hnames.2 haccess
        cases hinject : EntityHandler.injectOwner auth req.method req.parseRequestBody with
        | error e => simp [hinject] at haccess
        | ok body =>
            simp only [hinject] at haccess
            exact permits_restful hrule hconfig rfl (injectOwner_cases hauth hinject) access haccess
    | item tenant package entity id =>
        obtain ⟨htenant, hpackage, hentity⟩ := hgated
        have hnames := handlerRoute_names (some id) htenant hpackage hentity
        obtain ⟨auth, hauth, haccess, hrule, hconfig⟩ :=
          admits_of_behindGates hnames.1 hnames.2 haccess
        rcases List.mem_append.1 haccess with haccess | haccess
        · exact permits_owner hrule hconfig access haccess
        · exact permits_restful hrule hconfig rfl (Or.inl rfl) access haccess
    | action tenant package entity id name =>
        obtain ⟨htenant, hpackage, hentity⟩ := hgated
        have hnames := handlerRoute_names (some (id ++ "/" ++ name)) htenant hpackage hentity
        obtain ⟨auth, hauth, haccess, hrule, hconfig⟩ :=
          admits_of_behindGates hnames.1 hnames.2 haccess
        exact permits_restful hrule hconfig rfl (Or.inl rfl) access haccess
    | _ => exact hgated.elim
  · simp [Server.asks, hmethod] at haccess

/-- What is asked for is no preflight, and is a read only if the request is one. -/
theorem serves_of_restful {route : RouteInfo} {method : HttpMethod} {body : Json}
    {query : Std.TreeMap String String} {access : Access}
    (h : access ∈ restfulAccess route method body query) :
    access.method ≠ .options ∧ access.Serves method := by
  rcases restfulAccess_cases h with ⟨rfl, rfl⟩ | ⟨rfl, data, -, rfl⟩ | ⟨-, -, rfl⟩ | ⟨rfl, rfl⟩ <;>
    simp [Access.Serves]

theorem serves_of_call {calls : List Call} {method : HttpMethod} {access : Access}
    (h : access ∈ calls.map Call.access) : access.method ≠ .options ∧ access.Serves method := by
  obtain ⟨call, -, rfl⟩ := List.mem_map.1 h
  cases call <;> simp [Call.access, Access.Serves]

theorem serves_of_asks {endpoint : Endpoint} {access : Access}
    (h : access ∈ server.asks lib req endpoint) :
    access.method ≠ .options ∧ access.Serves req.method := by
  by_cases hmethod : req.method ∈ endpoint.methods
  · simp only [Server.asks, hmethod, not_true, if_false] at h
    cases endpoint with
    | collection tenant package entity =>
        obtain ⟨-, auth, -, haccess⟩ := mem_behindGates.1 h
        cases hinject : EntityHandler.injectOwner auth req.method req.parseRequestBody with
        | error e => simp [hinject] at haccess
        | ok body =>
            simp only [hinject] at haccess
            exact serves_of_restful haccess
    | item tenant package entity id =>
        obtain ⟨-, auth, -, haccess⟩ := mem_behindGates.1 h
        rcases List.mem_append.1 haccess with haccess | haccess
        · cases auth with
          | none => cases haccess
          | some auth =>
              simp only [ownerAccess] at haccess
              split_ifs at haccess with hcheck
              · obtain rfl := List.mem_singleton.1 haccess
                simp [Access.Serves, hcheck.2]
              · cases haccess
        · exact serves_of_restful haccess
    | action tenant package entity id name =>
        obtain ⟨-, auth, -, haccess⟩ := mem_behindGates.1 h
        exact serves_of_restful haccess
    | search tenant package entity =>
        obtain hget : req.method = .get := by simpa [Endpoint.methods] using hmethod
        dsimp only at h
        split_ifs at h
        · cases h
        · obtain rfl := List.mem_singleton.1 h
          simp [Access.Serves, hget]
    | bulkCreate tenant package entity => exact serves_of_call h
    | bulkUpdate tenant package entity => exact serves_of_call h
    | bulkDelete tenant package entity => exact serves_of_call h
    | batch tenant package => exact serves_of_call h
  · simp [Server.asks, hmethod] at h

/-- **Which requests are guarded.**  Those on an entity route with plain names are; and any
request is exactly when the schema, the configuration and the caller permit everything
that it asks for. -/
theorem guarded_iff (lib : Libraries) (server : Server) (req : HttpRequest) (endpoint : Endpoint) :
    (endpoint.Gated → server.Guarded lib req endpoint) ∧
      (server.Guarded lib req endpoint ↔ ∀ access ∈ server.asks lib req endpoint,
        server.Permits req endpoint.route.tenant access) := by
  have hiff : server.Guarded lib req endpoint ↔ ∀ access ∈ server.asks lib req endpoint,
      server.Permits req endpoint.route.tenant access := by
    constructor
    · intro h access haccess
      have hlogged := asks_logged lib server req endpoint ((), []) access haccess
      obtain ⟨hmethod, hserves⟩ := serves_of_asks haccess
      exact (lets_iff hmethod).1 (h Unit (willing req.caller) () access hlogged hserves)
    · intro h σ A s access haccess hserves
      have hasked := ((serve_asks lib A server req endpoint (s, [])).mem haccess).resolve_left
        List.not_mem_nil hserves
      exact (lets_iff (serves_of_asks hasked).1).2 (h access hasked)
  exact ⟨fun hgated => hiff.2 (permits_of_gated hgated), hiff⟩

/-- A server with the schema of `Credential`, of which no operation is for a caller. -/
def credentialServer : Server where
  registry := some (.load [.obj [("entity", .str "Credential"),
    ("fields", .obj [("passwordHash", .obj [("type", .str "string")])]),
    ("acl", .obj [("delete", .obj [("system", .bool true)])])]])

/-- Libraries that print nothing and match nothing. -/
def plainLibraries : Libraries where
  formatReal _ _ := ""
  toStyledString _ := ""
  regexSearch _ _ := none

/-- **A system entity in a batch.**  The gates refuse everybody who asks an entity route to
delete a `Credential`; the batch of an anonymous caller does it. -/
theorem batch_deletes_credential :
    ¬ credentialServer.Guarded plainLibraries
      { method := .post
        body := some (.obj [("operations", .arr [.obj [("action", .str "delete"),
          ("entity", .str "Credential"), ("id", .str "c1")]])]) }
      (.batch "acme" "core") := by
  intro h
  have hlog : ((credentialServer.serve plainLibraries (logging (willing ""))
      { method := .post
        body := some (.obj [("operations", .arr [.obj [("action", .str "delete"),
          ("entity", .str "Credential"), ("id", .str "c1")]])]) }
      (.batch "acme" "core") ((), [])).2.2.any fun access =>
        access.method = .delete && access.entity = "Credential") = true := by
    decide +kernel
  obtain ⟨access, haccess, heq⟩ := List.any_eq_true.1 hlog
  simp only [Bool.and_eq_true, decide_eq_true_eq] at heq
  obtain ⟨body, -, auth, hauth⟩ := h Unit (willing "") () access haccess (by simp [Access.Serves, heq.1])
  have hgates := (Server.authorize_cases hauth).1
  have hsystem : (SchemaAclRegistry.load [.obj [("entity", .str "Credential"),
      ("fields", .obj [("passwordHash", .obj [("type", .str "string")])]),
      ("acl", .obj [("delete", .obj [("system", .bool true)])])]]).isSystemOnly "Credential"
        "delete" = true := by
    decide +kernel
  simp [credentialServer, entityGates, HttpRequest.gated, heq.1, heq.2, aclOperationForMethod,
    hsystem] at hgates

end Daemon
end Dbal
