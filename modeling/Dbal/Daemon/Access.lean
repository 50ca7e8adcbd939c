/-
# What a request asks for

Every request comes down to row calls of the adapter.  `Adapter.logging` writes them
down; `Server.asks` reads off a request, without an adapter, which ones it asks for.

`serve_asks`: what is logged is asked for, over every adapter.  `asks_logged`: over an
adapter that refuses nothing, everything that is asked for is logged.
-/

import Dbal.Daemon.BulkAtomic
import Dbal.Daemon.Server
import Dbal.Store.Log

namespace Dbal
namespace Daemon

open Dbal.Core Route Act

variable {σ : Type}

/-- A row call, under the method with which an entity route makes it, with the entity that
it names and the data that it writes. -/
structure Access where
  method : HttpMethod
  entity : String
  data : Option Json
  deriving Repr

/-- Looking a row up in the course of a write is part of the write. -/
def Access.Serves (access : Access) (method : HttpMethod) : Prop :=
  access.method = .get → method = .get

/-- The access that a call of a bulk request is. -/
def Call.access : Call → Access
  | .create entity data => ⟨.post, entity, some data⟩
  | .update entity _ data => ⟨.patch, entity, some data⟩
  | .remove entity _ => ⟨.delete, entity, none⟩

/-- The adapter, with its row calls written down. -/
def logging (A : Adapter σ) : Adapter (σ × List Access) where
  create entity data := (A.create entity data).logged [⟨.post, entity, some data⟩]
  read entity id := (A.read entity id).logged [⟨.get, entity, none⟩]
  update entity id data := (A.update entity id data).logged [⟨.patch, entity, some data⟩]
  remove entity id := (A.remove entity id).logged [⟨.delete, entity, none⟩]
  list entity options := (A.list entity options).logged [⟨.get, entity, none⟩]
  search entity query limit := (A.search entity query limit).logged [⟨.get, entity, none⟩]
  createMany entity records :=
    (A.createMany entity records).logged (records.map fun data => ⟨.post, entity, some data⟩)
  updateMany entity filter data :=
    (A.updateMany entity filter data).logged [⟨.patch, entity, some data⟩]
  deleteMany entity filter := (A.deleteMany entity filter).logged [⟨.delete, entity, none⟩]
  upsert entity field value createData updateData :=
    (A.upsert entity field value createData updateData).logged
      [⟨.post, entity, some createData⟩, ⟨.patch, entity, some updateData⟩]
  getEntitySchema := A.getEntitySchema
  beginTransaction := A.beginTransaction.logged []
  commitTransaction := A.commitTransaction.logged []
  rollbackTransaction := A.rollbackTransaction.logged []

/-! ### Reading the request -/

/-- The calls of the items, up to the first that asks for none. -/
def callPrefix (plan : Json → Except JsonError (Option Call)) : List Json → List Call
  | [] => []
  | item :: items =>
      match plan item with
      | .ok (some call) => call :: callPrefix plan items
      | _ => []

/-- The calls of a bulk request. -/
def BulkRequest.calls (formatReal : Int → Int → String) (req : BulkRequest) : List Call :=
  match req.items with
  | some items => callPrefix (req.plan formatReal) items
  | none => []

/-- The options of a listing, if the query can be read. -/
def listing? (tenant : String) (query : Std.TreeMap String String) : Option ListOptions :=
  match ListHandler.parseQueryParameters query with
  | .ok paging => (ListHandler.listOptions tenant paging query).toOption
  | .error _ => none

/-- The access of `handleRestfulRequest`. -/
def restfulAccess (route : RouteInfo) (method : HttpMethod) (body : Json)
    (query : Std.TreeMap String String) : List Access :=
  if !route.valid ∨ route.action ≠ "" then []
  else
    match method with
    | .get =>
        if route.id = "" ∧ listing? route.tenant query = none then []
        else [⟨.get, route.entity, none⟩]
    | .post =>
        match injectTenant route.tenant body with
        | .ok data => if route.id = "" then [⟨.post, route.entity, some data⟩] else []
        | .error _ => []
    | .put | .patch =>
        if route.id = "" ∨ body.isEmpty then [] else [⟨.patch, route.entity, some body⟩]
    | .delete => if route.id = "" then [] else [⟨.delete, route.entity, none⟩]
    | .options => []

/-- The lookup of the owner, on a request that reads. -/
def ownerAccess (route : RouteInfo) (method : HttpMethod) (auth : Option AuthContext) :
    List Access :=
  match auth with
  | some auth =>
      if auth.config.checkOwnership ∧ method = .get then [⟨.get, route.entity, none⟩] else []
  | none => []

namespace Server

/-- The accesses of a handler behind the gates. -/
def behindGates (server : Server) (req : HttpRequest) (tenant entity : String)
    (accesses : Option AuthContext → List Access) : List Access :=
  if req.method = .options then []
  else
    match server.authorize req tenant entity with
    | .ok (.ok auth) => accesses auth
    | _ => []

/-- The accesses that a request asks for. -/
def asks (lib : Libraries) (server : Server) (req : HttpRequest) (endpoint : Endpoint) :
    List Access :=
  if req.method ∉ endpoint.methods then []
  else
    match endpoint with
    | .collection tenant _ entity =>
        server.behindGates req tenant entity fun auth =>
          match EntityHandler.injectOwner auth req.method req.parseRequestBody with
          | .ok body => restfulAccess endpoint.route req.method body
              (EntityHandler.filterByOwner auth req.method req.query)
          | .error _ => []
    | .item tenant _ entity _ =>
        server.behindGates req tenant entity fun auth =>
          ownerAccess endpoint.route req.method auth ++
            restfulAccess endpoint.route req.method req.parseRequestBody req.query
    | .action tenant _ entity _ _ =>
        server.behindGates req tenant entity fun _ =>
          restfulAccess endpoint.route req.method req.parseRequestBody req.query
    | .search .. =>
        if req.query["q"]?.getD "" = "" then [] else [⟨.get, endpoint.route.entity, none⟩]
    | .bulkCreate .. =>
        ((BulkRequest.create endpoint.route (bulkBody req)).calls lib.formatReal).map Call.access
    | .bulkUpdate .. =>
        ((BulkRequest.update endpoint.route (bulkBody req)).calls lib.formatReal).map Call.access
    | .bulkDelete .. =>
        ((BulkRequest.delete endpoint.route (bulkBody req)).calls lib.formatReal).map Call.access
    | .batch tenant _ =>
        ((BulkRequest.batch tenant req.body).calls lib.formatReal).map Call.access

end Server

/-- The access of an entity route, by the method. -/
theorem restfulAccess_cases {route : RouteInfo} {method : HttpMethod} {body : Json}
    {query : Std.TreeMap String String} {access : Access}
    (h : access ∈ restfulAccess route method body query) :
    (method = .get ∧ access = ⟨.get, route.entity, none⟩) ∨
    (method = .post ∧ ∃ data, injectTenant route.tenant body = .ok data ∧
      access = ⟨.post, route.entity, some data⟩) ∨
    ((method = .put ∨ method = .patch) ∧ body.isEmpty = false ∧
      access = ⟨.patch, route.entity, some body⟩) ∨
    (method = .delete ∧ access = ⟨.delete, route.entity, none⟩) := by
  by_cases hroute : (!route.valid) = true ∨ route.action ≠ ""
  · unfold restfulAccess at h
    rw [if_pos hroute] at h
    cases h
  · cases method with
    | post => cases hdata : injectTenant route.tenant body <;> simp_all [restfulAccess]
    | _ => simp_all [restfulAccess]

/-! ### What is logged is asked for -/

section

variable {A : Adapter σ} {P : Access → Prop} {formatReal : Int → Int → String}

theorem perform_logging (call : Call) (s : σ) (log : List Access) :
    call.perform (logging A) (s, log) =
      ((call.perform A s).1, (call.perform A s).2, log ++ [call.access]) := by
  cases call with
  | create entity data =>
      simp only [Call.perform, logging, logged, bind_apply]
      rcases A.create entity data s with ⟨_ | _, s'⟩ <;> rfl
  | update entity id data =>
      simp only [Call.perform, logging, logged, bind_apply]
      rcases A.update entity id data s with ⟨_ | _, s'⟩ <;> rfl
  | remove entity id =>
      simp only [Call.perform, logging, logged, bind_apply]
      rcases A.remove entity id s with ⟨_ | _, s'⟩ <;> rfl

/-- A call that is performed puts its access into the log. -/
theorem grown_perform {call : Call} {s s' : σ × List Access} {outcome : Except Thrown (Result Unit)}
    (h : call.perform (logging A) s = (outcome, s')) (hP : P call.access) : Grown P s s' := by
  have hlog := perform_logging (A := A) call s.1 s.2
  rw [show (s.1, s.2) = s from rfl, h] at hlog
  exact ⟨[call.access], congrArg (fun o => o.2.2) hlog, by simpa using hP⟩

variable {req : BulkRequest} {commitFailed : Reply} {finish : List Json → Reply}

/-- The loop of a bulk request, by induction on the items. -/
theorem logs_rest (items : List Json) (n : Nat) (done : List Json) :
    Logs (· ∈ (callPrefix (req.plan formatReal) items).map Call.access)
      (Tx.rest (logging A).tx (req.step formatReal (logging A)) commitFailed finish n items done) := by
  induction items generalizing n done with
  | nil =>
      intro s
      rw [Tx.rest_nil_snd]
      exact Logs.of_logged (by simp) s
  | cons item items ih =>
      intro s
      have hrollback : ∀ s', Grown (· ∈ (callPrefix (req.plan formatReal) (item :: items)).map
          Call.access) s' ((logging A).tx.rollback s').2 := Logs.of_logged (by simp)
      rcases (performs_step formatReal (logging A) req n item s).cases with
        ⟨e, -, hstep⟩ | ⟨-, refusal, hstep⟩ | ⟨call, hplan, hstep⟩
      · rw [Tx.rest_thrown hstep]
        exact Grown.refl s
      · rw [Tx.rest_refused hstep]
        exact hrollback s
      · have hpre : callPrefix (req.plan formatReal) (item :: items) =
            call :: callPrefix (req.plan formatReal) items := by
          simp [callPrefix, hplan]
        have hcall : call.access ∈ (callPrefix (req.plan formatReal) (item :: items)).map
            Call.access := by
          simp [hpre]
        rcases hstep with ⟨e, s', hperform, hstep⟩ | ⟨e, s', refusal, hperform, hstep⟩ |
          ⟨s', result, hperform, hstep⟩
        · rw [Tx.rest_thrown hstep]
          exact grown_perform hperform hcall
        · rw [Tx.rest_refused hstep]
          exact (grown_perform hperform hcall).trans (hrollback s')
        · rw [Tx.rest_applied hstep]
          refine (grown_perform hperform hcall).trans ((ih _ _ s').mono ?_)
          intro access haccess
          rw [hpre]
          exact List.mem_cons_of_mem _ haccess

theorem logs_bulk (formatReal : Int → Int → String) (req : BulkRequest) :
    Logs (· ∈ (req.calls formatReal).map Call.access) (req.handle formatReal (logging A)) := by
  intro s
  have hruns := handle_runs formatReal (logging A) req s
  cases hitems : req.items with
  | none =>
      rw [hitems] at hruns
      rw [show (req.handle formatReal (logging A) s).2 = s from hruns]
      exact Grown.refl s
  | some items =>
      rw [hitems] at hruns
      obtain ⟨commitFailed, finish, beginFailed, hstate⟩ := hruns
      rw [hstate]
      simp only [BulkRequest.calls, hitems]
      refine Logs.bind (Logs.of_logged (by simp)) ?_ s
      rintro (_ | _)
      · exact Logs.pure _
      · exact logs_rest items 0 []

/-! The handlers of the entity routes, for any `P` of the calls that they make. -/

variable {route : RouteInfo} {body : Json}

theorem Logs.withExceptionHandling {handler : Act Thrown (σ × List Access) Reply}
    (h : Logs P handler) : Logs P (withExceptionHandling handler) := h.catching _

theorem logs_handleList {query : Std.TreeMap String String}
    (hlist : listing? route.tenant query ≠ none → P ⟨.get, route.entity, none⟩) :
    Logs P (ListHandler.handleList (logging A) route query) := by
  refine Logs.withExceptionHandling fun s => ?_
  cases hparse : ListHandler.parseQueryParameters query with
  | error refusal => exact Grown.refl s
  | ok paging =>
      dsimp only
      cases hoptions : ListHandler.listOptions route.tenant paging query with
      | error e => exact Grown.refl s
      | ok options =>
          have hP := hlist (by simp [listing?, hparse, hoptions, Except.toOption])
          refine Logs.bind (Logs.of_logged (by simpa)) ?_ s
          rintro (_ | _) <;> exact Logs.pure _

theorem logs_handleRead (hread : P ⟨.get, route.entity, none⟩) :
    Logs P (CrudHandler.handleRead (logging A) route) := by
  refine Logs.withExceptionHandling (Logs.bind (Logs.of_logged (by simpa)) ?_)
  rintro (e | record)
  · exact Logs.pure _
  · dsimp only
    split_ifs <;> exact Logs.pure _

theorem logs_withOwnRow {operation : String} {act : Act Thrown (σ × List Access) Reply}
    (hread : P ⟨.get, route.entity, none⟩) (hact : route.id ≠ "" → Logs P act) :
    Logs P (CrudHandler.withOwnRow (logging A) route operation act) := by
  refine Logs.withExceptionHandling ?_
  split_ifs with hid
  · exact Logs.pure _
  · refine Logs.bind (Logs.of_logged (by simpa)) ?_
    rintro (e | existing)
    · exact Logs.pure _
    · dsimp only
      split_ifs
      · exact Logs.pure _
      · exact hact hid

/-- The data of a create are the body with the tenant of the path. -/
theorem logs_handleCreate (hcreate : ∀ data, injectTenant route.tenant body = .ok data →
    P ⟨.post, route.entity, some data⟩) :
    Logs P (CrudHandler.handleCreate (logging A) route body) := by
  refine Logs.withExceptionHandling (Logs.bind_ofExcept fun data hdata => ?_)
  refine Logs.bind (Logs.of_logged (by simpa using hcreate data hdata)) ?_
  rintro (_ | _) <;> exact Logs.pure _

theorem logs_handleUpdate (hread : P ⟨.get, route.entity, none⟩)
    (hupdate : route.id ≠ "" → body.isEmpty = false → P ⟨.patch, route.entity, some body⟩) :
    Logs P (CrudHandler.handleUpdate (logging A) route body) := by
  refine logs_withOwnRow hread fun hid => ?_
  cases hempty : body.isEmpty with
  | true => exact Logs.pure _
  | false =>
      refine Logs.bind (Logs.of_logged (by simpa using hupdate hid hempty)) ?_
      rintro (_ | _) <;> exact Logs.pure _

theorem logs_handleDelete (hread : P ⟨.get, route.entity, none⟩)
    (hdelete : route.id ≠ "" → P ⟨.delete, route.entity, none⟩) :
    Logs P (CrudHandler.handleDelete (logging A) route) := by
  refine logs_withOwnRow hread fun hid => ?_
  refine Logs.bind (Logs.of_logged (by simpa using hdelete hid)) ?_
  rintro (_ | _) <;> exact Logs.pure _

theorem logs_restful (route : RouteInfo) (method : HttpMethod) (body : Json)
    (query : Std.TreeMap String String) :
    Logs (fun access => access.Serves method → access ∈ restfulAccess route method body query)
      (handleRestfulRequest (logging A) route method body query) := by
  by_cases hvalid : route.valid = false
  · simp only [handleRestfulRequest, hvalid]
    exact Logs.pure _
  by_cases haction : route.action = ""
  · rw [Bool.not_eq_false] at hvalid
    cases method with
    | get =>
        by_cases hid : route.id = ""
        · simp only [handleRestfulRequest, hvalid, haction, hid]
          refine logs_handleList fun hlisting _ => ?_
          simp [restfulAccess, hvalid, haction, hlisting]
        · simp only [handleRestfulRequest, hvalid, haction, hid]
          exact logs_handleRead fun _ => by simp [restfulAccess, hvalid, haction, hid]
    | post =>
        by_cases hid : route.id = ""
        · simp only [handleRestfulRequest, hvalid, haction, hid]
          exact logs_handleCreate fun data hdata _ => by
            simp [restfulAccess, hvalid, haction, hid, hdata]
        · simpa [handleRestfulRequest, hvalid, haction, hid] using Logs.pure _
    | put | patch =>
        simp only [handleRestfulRequest, hvalid, haction]
        exact logs_handleUpdate (fun h => by cases h rfl) fun hid hempty _ => by
          simp [restfulAccess, hvalid, haction, hid, hempty]
    | delete =>
        simp only [handleRestfulRequest, hvalid, haction]
        exact logs_handleDelete (fun h => by cases h rfl) fun hid _ => by
          simp [restfulAccess, hvalid, haction, hid]
    | options =>
        simp only [handleRestfulRequest, hvalid, haction]
        exact Logs.pure _
  · rw [Bool.not_eq_false] at hvalid
    simpa [handleRestfulRequest, hvalid, haction] using Logs.pure _

theorem logs_handleEntity {lib : Libraries} {req : HttpRequest} {tenant package entity : String}
    {auth : Option AuthContext}
    (hP : ∀ body, EntityHandler.injectOwner auth req.method req.parseRequestBody = .ok body →
      ∀ access : Access, (access.Serves req.method → access ∈
        restfulAccess (handlerRoute tenant package entity none) req.method body
          (EntityHandler.filterByOwner auth req.method req.query)) → P access) :
    Logs P (EntityHandler.handleEntity lib (logging A) req tenant package entity auth) := by
  refine Logs.catching _ (Logs.bind_ofExcept fun body hbody => ?_)
  dsimp only
  cases EntityHandler.validate lib (logging A) (handlerRoute tenant package entity none)
      req.method body with
  | some refusal => exact Logs.pure _
  | none => exact (logs_restful _ _ _ _).mono (hP body hbody)

theorem logs_checkOwnership {id : String} {auth : Option AuthContext}
    (hread : ∀ access ∈ [(⟨.get, route.entity, none⟩ : Access)],
      (∃ a, auth = some a ∧ a.config.checkOwnership = true) → P access) :
    Logs P (EntityHandler.checkOwnership (logging A) route id auth) := by
  cases auth with
  | none => exact Logs.pure _
  | some auth =>
      simp only [EntityHandler.checkOwnership]
      split_ifs with hcheck
      · refine Logs.bind (Logs.of_logged fun access h => hread access h ⟨auth, rfl, hcheck⟩) ?_
        rintro (e | stored)
        · exact Logs.pure _
        · exact Logs.bind (Logs.ofExcept _) fun _ => Logs.pure _
      · exact Logs.pure _

theorem logs_handleEntityWithId {req : HttpRequest} {tenant package entity id : String}
    {auth : Option AuthContext} :
    Logs (fun access => access.Serves req.method → access ∈
        ownerAccess (handlerRoute tenant package entity (some id)) req.method auth ++
          restfulAccess (handlerRoute tenant package entity (some id)) req.method
            req.parseRequestBody req.query)
      (EntityHandler.handleEntityWithId (logging A) req tenant package entity id auth) := by
  refine Logs.catching _ (Logs.bind (logs_checkOwnership ?_) ?_)
  · rintro access haccess ⟨a, rfl, hcheck⟩ hserves
    obtain rfl := List.mem_singleton.1 haccess
    simp [ownerAccess, hcheck, hserves rfl]
  · rintro (_ | refusal)
    · exact (logs_restful _ _ _ _).mono fun access h hserves =>
        List.mem_append_right _ (h hserves)
    · exact Logs.pure _

theorem logs_gated {server : Server} {req : HttpRequest} {tenant entity : String}
    {handler : Option AuthContext → Act Thrown (σ × List Access) Reply}
    (h : ∀ auth, req.method ≠ .options → server.authorize req tenant entity = .ok (.ok auth) →
      Logs P (handler auth)) : Logs P (server.gated req tenant entity handler) := by
  unfold Server.gated
  split_ifs with hoptions
  · exact Logs.pure _
  · refine Logs.bind_ofExcept ?_
    rintro (reject | auth) hauth
    · exact Logs.pure _
    · exact h auth hoptions hauth

/-- **What is logged is asked for**, apart from the lookups of a write. -/
theorem serve_asks (lib : Libraries) (A : Adapter σ) (server : Server) (req : HttpRequest)
    (endpoint : Endpoint) :
    Logs (fun access => access.Serves req.method → access ∈ server.asks lib req endpoint)
      (server.serve lib (logging A) req endpoint) := by
  unfold Server.serve
  split_ifs with hmethod
  · cases endpoint with
    | collection tenant package entity =>
        refine logs_gated fun auth hoptions hauth => ?_
        refine logs_handleEntity fun body hbody access haccess hserves => ?_
        simpa [Server.asks, hmethod, Server.behindGates, hoptions, hauth, Endpoint.route, hbody] using
          haccess hserves
    | item tenant package entity id =>
        refine logs_gated fun auth hoptions hauth => ?_
        refine logs_handleEntityWithId.mono fun access haccess hserves => ?_
        simpa [Server.asks, hmethod, Server.behindGates, hoptions, hauth, Endpoint.route] using haccess hserves
    | action tenant package entity id name =>
        refine logs_gated fun auth hoptions hauth => Logs.catching _ ?_
        refine (logs_restful _ _ _ _).mono fun access haccess hserves => ?_
        simpa [Server.asks, hmethod, Server.behindGates, hoptions, hauth, Endpoint.route] using haccess hserves
    | search tenant package entity =>
        simp only [Server.search]
        split_ifs with hquery
        · exact Logs.pure _
        · refine Logs.withExceptionHandling (Logs.bind (Logs.of_logged ?_) ?_)
          · intro access haccess hserves
            simpa [Server.asks, hmethod, hquery] using haccess
          · rintro (_ | _) <;> exact Logs.pure _
    | bulkCreate tenant package entity =>
        refine (logs_bulk lib.formatReal (.create _ _)).mono fun access haccess _ => ?_
        simpa only [Server.asks, not_not.2 hmethod, if_false] using haccess
    | bulkUpdate tenant package entity =>
        refine (logs_bulk lib.formatReal (.update _ _)).mono fun access haccess _ => ?_
        simpa only [Server.asks, not_not.2 hmethod, if_false] using haccess
    | bulkDelete tenant package entity =>
        refine (logs_bulk lib.formatReal (.delete _ _)).mono fun access haccess _ => ?_
        simpa only [Server.asks, not_not.2 hmethod, if_false] using haccess
    | batch tenant package =>
        refine (logs_bulk lib.formatReal (.batch _ _)).mono fun access haccess _ => ?_
        simpa only [Server.asks, not_not.2 hmethod, if_false] using haccess
  · exact Logs.pure _

end

/-! ### What is asked for can be logged -/

/-- An adapter that refuses nothing: every row is there, belongs to no tenant and is owned by
`userId`. -/
def willing (userId : String) : Adapter Unit where
  create _ data := pure (.ok data)
  read _ _ := pure (.ok (.obj [("userId", .str userId)]))
  update _ _ data := pure (.ok data)
  remove _ _ := pure (.ok true)
  list _ options := pure (.ok { items := [], total := 0, page := options.page, limit := options.limit })
  search _ _ limit := pure (.ok { items := [], total := 0, page := 1, limit })
  createMany _ records := pure (.ok records.length)
  updateMany _ _ _ := pure (.ok 0)
  deleteMany _ _ := pure (.ok 0)
  upsert _ _ _ createData _ := pure (.ok createData)
  getEntitySchema name := .error (Error.validationError ("Unknown entity: " ++ name))
  beginTransaction := pure (.ok true)
  commitTransaction := pure (.ok true)
  rollbackTransaction := pure (.ok true)

section

variable {userId : String} {formatReal : Int → Int → String} {req : BulkRequest} {s : Unit × List Access}

theorem perform_willing (call : Call) (s : Unit × List Access) :
    call.perform (logging (willing userId)) s = (.ok (.ok ()), s.1, s.2 ++ [call.access]) := by
  cases call <;> rfl

theorem rest_willing {commitFailed : Reply} {finish : List Json → Reply} (items : List Json) (n : Nat)
    (done : List Json) (s : Unit × List Access) :
    (Tx.rest (logging (willing userId)).tx (req.step formatReal (logging (willing userId)))
      commitFailed finish n items done s).2.2 =
        s.2 ++ (callPrefix (req.plan formatReal) items).map Call.access := by
  induction items generalizing n done s with
  | nil =>
      rw [Tx.rest_nil_snd]
      rfl
  | cons item items ih =>
      rcases (performs_step formatReal (logging (willing userId)) req n item s).cases with
        ⟨e, hplan, hstep⟩ | ⟨hplan, refusal, hstep⟩ | ⟨call, hplan, hstep⟩
      · simp [Tx.rest_thrown hstep, callPrefix, hplan]
      · rw [Tx.rest_refused hstep]
        simp [callPrefix, hplan, logging, logged]
      · simp only [perform_willing, Prod.mk.injEq, Except.ok.injEq, reduceCtorEq, false_and,
          exists_false, false_or, true_and, exists_and_left] at hstep
        obtain ⟨s', rfl, result, hstep⟩ := hstep
        simp [Tx.rest_applied hstep, ih, callPrefix, hplan]

theorem bulk_willing (req : BulkRequest) :
    (req.handle formatReal (logging (willing userId)) s).2.2 =
      s.2 ++ (req.calls formatReal).map Call.access := by
  have hruns := handle_runs formatReal (logging (willing userId)) req s
  cases hitems : req.items with
  | none =>
      rw [hitems] at hruns
      rw [show (req.handle formatReal (logging (willing userId)) s).2 = s from hruns]
      simp [BulkRequest.calls, hitems]
  | some items =>
      rw [hitems] at hruns
      obtain ⟨commitFailed, finish, beginFailed, hstate⟩ := hruns
      rw [hstate]
      simp only [BulkRequest.calls, hitems]
      have hbegin : (logging (willing userId)).tx.begin s = (.ok (.ok true), s.1, s.2 ++ []) := rfl
      simp [Tx.run_begun hbegin, rest_willing]

/-! What the handlers log over this adapter, each in the case in which it gets to its call. -/

variable {route : RouteInfo} {body : Json}

theorem otherTenant_willing : otherTenant route (.obj [("userId", .str userId)]) = false := by
  simp [otherTenant, Json.find?, Json.fields]

theorem list_willing {query : Std.TreeMap String String} (h : listing? route.tenant query ≠ none) :
    (ListHandler.handleList (logging (willing userId)) route query s).2.2 =
      s.2 ++ [⟨.get, route.entity, none⟩] := by
  unfold listing? at h
  cases hparse : ListHandler.parseQueryParameters query with
  | error refusal => simp [hparse] at h
  | ok paging =>
      cases hoptions : ListHandler.listOptions route.tenant paging query with
      | error e => simp [hparse, hoptions, Except.toOption] at h
      | ok options =>
          simp [ListHandler.handleList, withExceptionHandling, hparse, hoptions, bind_apply, logging,
            logged, willing]

theorem read_willing : (CrudHandler.handleRead (logging (willing userId)) route s).2.2 =
    s.2 ++ [⟨.get, route.entity, none⟩] := by
  simp [CrudHandler.handleRead, withExceptionHandling, bind_apply, logging, logged, willing,
    otherTenant_willing]

theorem create_willing {data : Json} (h : injectTenant route.tenant body = .ok data) :
    (CrudHandler.handleCreate (logging (willing userId)) route body s).2.2 =
      s.2 ++ [⟨.post, route.entity, some data⟩] := by
  simp [CrudHandler.handleCreate, withExceptionHandling, h, bind_apply, logging, logged, willing,
    Except.mapError]

theorem update_willing (hid : route.id ≠ "") (hbody : body.isEmpty = false) :
    (CrudHandler.handleUpdate (logging (willing userId)) route body s).2.2 =
      s.2 ++ [⟨.get, route.entity, none⟩, ⟨.patch, route.entity, some body⟩] := by
  simp [CrudHandler.handleUpdate, CrudHandler.withOwnRow, withExceptionHandling, hid, hbody,
    bind_apply, logging, logged, willing, otherTenant_willing]

theorem delete_willing (hid : route.id ≠ "") :
    (CrudHandler.handleDelete (logging (willing userId)) route s).2.2 =
      s.2 ++ [⟨.get, route.entity, none⟩, ⟨.delete, route.entity, none⟩] := by
  simp [CrudHandler.handleDelete, CrudHandler.withOwnRow, withExceptionHandling, hid, bind_apply,
    logging, logged, willing, otherTenant_willing]

theorem restful_willing (route : RouteInfo) (method : HttpMethod) (body : Json)
    (query : Std.TreeMap String String) :
    ∀ access ∈ restfulAccess route method body query, access ∈
      (handleRestfulRequest (logging (willing userId)) route method body query s).2.2 := by
  by_cases hvalid : route.valid = false
  · simp [restfulAccess, hvalid]
  by_cases haction : route.action = ""
  · rw [Bool.not_eq_false] at hvalid
    cases method with
    | get =>
        by_cases hid : route.id = ""
        · by_cases hlisting : listing? route.tenant query = none
          · simp [restfulAccess, hid, hlisting]
          · simp [restfulAccess, handleRestfulRequest, hvalid, haction, hid, hlisting,
              list_willing hlisting]
        · simp [restfulAccess, handleRestfulRequest, hvalid, haction, hid, read_willing]
    | post =>
        by_cases hid : route.id = ""
        · cases hdata : injectTenant route.tenant body with
          | error e => simp [restfulAccess, hdata]
          | ok data =>
              simp [restfulAccess, handleRestfulRequest, hvalid, haction, hid, hdata,
                create_willing hdata]
        · cases hdata : injectTenant route.tenant body <;> simp [restfulAccess, hid, hdata]
    | put | patch =>
        by_cases hid : route.id = ""
        · simp [restfulAccess, hid]
        · cases hbody : body.isEmpty with
          | true => simp [restfulAccess, hbody]
          | false =>
              simp [restfulAccess, handleRestfulRequest, hvalid, haction, hid, hbody,
                update_willing hid hbody]
    | delete =>
        by_cases hid : route.id = ""
        · simp [restfulAccess, hid]
        · simp [restfulAccess, handleRestfulRequest, hvalid, haction, hid, delete_willing hid]
    | options => simp [restfulAccess]
  · simp [restfulAccess, haction]

/-- The `sub` of the caller's token. -/
def HttpRequest.caller (req : HttpRequest) : String := (req.claims.map JwtClaims.userId).getD ""

theorem Server.authorize_cases {server : Server} {req : HttpRequest} {tenant entity : String}
    {auth : Option AuthContext} (h : server.authorize req tenant entity = .ok (.ok auth)) :
    entityGates req.gated server.registry tenant entity = .ok none ∧
      server.requireAuth req tenant entity = .ok auth := by
  rcases hgates : entityGates req.gated server.registry tenant entity with e | _ | reject <;>
    simp only [authorize, hgates, bind, Except.bind, pure, Except.pure] at h
  · cases h
  · exact ⟨rfl, Except.ok.inj h⟩
  · cases h

/-- The context is that of the caller's token. -/
theorem Server.caller_of_authorize {server : Server} {req : HttpRequest} {tenant entity : String}
    {auth : AuthContext} (h : server.authorize req tenant entity = .ok (.ok (some auth))) :
    auth.userId = req.caller := by
  have hauth := (authorize_cases h).2
  simp only [requireAuth] at hauth
  split_ifs at hauth
  · cases hauth
  · cases hclaims : req.claims with
    | none => simp [hclaims] at hauth
    | some claims =>
        simp only [hclaims] at hauth
        split_ifs at hauth
        obtain rfl := Option.some.inj (Except.ok.inj hauth)
        simp [HttpRequest.caller, hclaims]

theorem entity_willing {lib : Libraries} {req : HttpRequest} {tenant package entity : String}
    {auth : Option AuthContext}
    (hinject : EntityHandler.injectOwner auth req.method req.parseRequestBody = .ok body) :
    ∀ access ∈ restfulAccess (handlerRoute tenant package entity none) req.method body
        (EntityHandler.filterByOwner auth req.method req.query), access ∈
      (EntityHandler.handleEntity lib (logging (willing userId)) req tenant package entity
        auth s).2.2 := by
  have hvalidate : EntityHandler.validate lib (logging (willing userId))
      (handlerRoute tenant package entity none) req.method body = none := by
    simp only [EntityHandler.validate, logging, willing]
    split_ifs <;> rfl
  simp only [EntityHandler.handleEntity, EntityHandler.guarded, catching_snd, hinject, bind_apply,
    ofExcept_apply, Except.mapError, hvalidate]
  exact restful_willing _ _ _ _

theorem item_willing {req : HttpRequest} {tenant package entity id : String}
    {auth : Option AuthContext} (hauth : ∀ a, auth = some a → a.userId = userId) :
    ∀ access ∈ ownerAccess (handlerRoute tenant package entity (some id)) req.method auth ++
        restfulAccess (handlerRoute tenant package entity (some id)) req.method
          req.parseRequestBody req.query, access ∈
      (EntityHandler.handleEntityWithId (logging (willing userId)) req tenant package entity id
        auth s).2.2 := by
  have hcheck : ∃ log, EntityHandler.checkOwnership (logging (willing userId))
      (handlerRoute tenant package entity (some id)) id auth s = (.ok none, s.1, log) ∧
        ∀ access ∈ ownerAccess (handlerRoute tenant package entity (some id)) req.method auth,
          access ∈ log := by
    cases auth with
    | none => exact ⟨s.2, rfl, by simp [ownerAccess]⟩
    | some auth =>
        by_cases hcheck : auth.config.checkOwnership
        · refine ⟨s.2 ++ [⟨.get, (handlerRoute tenant package entity (some id)).entity, none⟩], ?_, ?_⟩
          · simp [EntityHandler.checkOwnership, hcheck, bind_apply, logging, logged, willing,
              Json.valueString, Json.find?, Json.fields, hauth auth rfl, Except.mapError]
          · simp [ownerAccess, hcheck]
        · exact ⟨s.2, by simp [EntityHandler.checkOwnership, hcheck], by simp [ownerAccess, hcheck]⟩
  obtain ⟨log, hcheck, howner⟩ := hcheck
  simp only [EntityHandler.handleEntityWithId, EntityHandler.guarded, catching_snd, bind_apply,
    hcheck]
  intro access haccess
  rcases List.mem_append.1 haccess with haccess | haccess
  · exact (logs_restful _ _ _ _ (s.1, log)).subset (howner access haccess)
  · exact restful_willing _ _ _ _ access haccess

theorem gated_ok {server : Server} {req : HttpRequest} {tenant entity : String}
    {auth : Option AuthContext} {handler : Option AuthContext → Act Thrown σ Reply} {s : σ}
    (hoptions : req.method ≠ .options) (hauth : server.authorize req tenant entity = .ok (.ok auth)) :
    server.gated req tenant entity handler s = handler auth s := by
  simp only [Server.gated, hoptions, if_false, hauth]
  exact bind_ok rfl _

theorem mem_behindGates {server : Server} {req : HttpRequest} {tenant entity : String}
    {accesses : Option AuthContext → List Access} {access : Access} :
    access ∈ server.behindGates req tenant entity accesses ↔ req.method ≠ .options ∧
      ∃ auth, server.authorize req tenant entity = .ok (.ok auth) ∧ access ∈ accesses auth := by
  unfold Server.behindGates
  split_ifs with hoptions
  · simp [hoptions]
  · rcases server.authorize req tenant entity with e | reject | auth <;> simp [hoptions]

/-- **What is asked for can be logged.** -/
theorem asks_logged (lib : Libraries) (server : Server) (req : HttpRequest) (endpoint : Endpoint)
    (s : Unit × List Access) :
    ∀ access ∈ server.asks lib req endpoint, access ∈
      (server.serve lib (logging (willing req.caller)) req endpoint s).2.2 := by
  by_cases hmethod : req.method ∈ endpoint.methods
  · intro access haccess
    simp only [Server.asks, hmethod, not_true, if_false] at haccess
    simp only [Server.serve, hmethod, not_true, if_false]
    cases endpoint with
    | collection tenant package entity =>
        dsimp only at haccess ⊢
        obtain ⟨hoptions, auth, hauth, haccess⟩ := mem_behindGates.1 haccess
        rw [gated_ok hoptions hauth]
        cases hinject : EntityHandler.injectOwner auth req.method req.parseRequestBody with
        | error e => simp [hinject] at haccess
        | ok body =>
            simp only [hinject] at haccess
            exact entity_willing hinject access haccess
    | item tenant package entity id =>
        dsimp only at haccess ⊢
        obtain ⟨hoptions, auth, hauth, haccess⟩ := mem_behindGates.1 haccess
        rw [gated_ok hoptions hauth]
        refine item_willing ?_ access haccess
        rintro a rfl
        exact Server.caller_of_authorize hauth
    | action tenant package entity id name =>
        dsimp only at haccess ⊢
        obtain ⟨hoptions, auth, hauth, haccess⟩ := mem_behindGates.1 haccess
        rw [gated_ok hoptions hauth]
        simp only [EntityHandler.handleEntityAction, EntityHandler.guarded, catching_snd]
        exact restful_willing _ _ _ _ access haccess
    | search tenant package entity =>
        simp only [Server.search]
        dsimp only at haccess
        split_ifs at haccess ⊢
        · cases haccess
        · simp_all [Server.handleSearch, withExceptionHandling, bind_apply, logging, logged, willing]
    | bulkCreate tenant package entity =>
        have hlog := @bulk_willing req.caller lib.formatReal s
          (.create (handlerRoute tenant package entity none) (Server.bulkBody req))
        exact hlog ▸ List.mem_append_right _ haccess
    | bulkUpdate tenant package entity =>
        have hlog := @bulk_willing req.caller lib.formatReal s
          (.update (handlerRoute tenant package entity none) (Server.bulkBody req))
        exact hlog ▸ List.mem_append_right _ haccess
    | bulkDelete tenant package entity =>
        have hlog := @bulk_willing req.caller lib.formatReal s
          (.delete (handlerRoute tenant package entity none) (Server.bulkBody req))
        exact hlog ▸ List.mem_append_right _ haccess
    | batch tenant package =>
        have hlog := @bulk_willing req.caller lib.formatReal s (.batch tenant req.body)
        exact hlog ▸ List.mem_append_right _ haccess
  · simp [Server.asks, hmethod]

end

end Daemon
end Dbal
