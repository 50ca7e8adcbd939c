/-
# Workflows inside their tenant

A workflow of a tenant should leave the rows of other tenants alone, make none, and end in the same
context and effects in any two stores that agree on the rows of the tenant.

The listings that find a workflow and its nodes ask for the tenant.  The steps of a workflow do not:
they take the entity, the id, the data and the filter of their call from the parameters as these
are.  `tenant_workflows_confined`: a workflow stays inside its tenant in every run whose calls
address, make and find rows of the tenant only, where the engine has noticed the workflows that the
tenant has: whether it looks for one at all depends on a listing of the workflows of all tenants.
-/

import Dbal.Daemon.TenantIsolation
import Dbal.Store.Collections
import Dbal.Store.Frame
import Dbal.Workflow.Engine

namespace Dbal
namespace Workflow

open Daemon (KeepsTenant)
open MapStore Steps Store WfGraph

/-! ### The rows of the tenant -/

/-- The entry is the tenant's. -/
def owned (tenant : String) (entry : Entry) : Bool :=
  match entry.row.find? "tenantId" with
  | some (.str owner) => owner = tenant
  | _ => false

def ownRows (tenant : String) (rows : List Entry) : List Entry := rows.filter (owned tenant)

def otherRows (tenant : String) (rows : List Entry) : List Entry :=
  rows.filter fun entry => !owned tenant entry

/-- Two stores agree on the rows of the tenant, and on the id that they give next. -/
structure Agree (tenant : String) (s s' : MapStore) : Prop where
  rows : ownRows tenant s.rows = ownRows tenant s'.rows
  nextId : s.nextId = s'.nextId

/-- The rows that a name and an id, or a filter, pick are the tenant's. -/
def PicksOwn (tenant : String) (pick : Entry → Bool) (rows : List Entry) : Prop :=
  ∀ entry ∈ rows, pick entry = true → owned tenant entry = true

/-! ### What a workflow may ask for -/

/-- A call of the client. -/
inductive ClientCall where
  | create (name : String) (data : Json)
  | read (name id : String)
  | update (name id : String) (data : Json)
  | remove (name id : String)
  | list (name : String) (filter : Std.TreeMap String String) (limit : Int)

section

variable (run : Runtime) (resolve : String → Option Adapters.EntitySchema) (tenant : String)

/-- The call that a step makes, given its node with the parameters resolved. -/
def callOf (node : WfNode) : Option ClientCall :=
  let entity := (stringParam node.type "entity" node).toOption
  let id := (stringParam node.type "id" node).toOption
  match node.type with
  | "dbal.entity.create" => entity.map fun name => .create name (dataParam node)
  | "dbal.entity.get" => do
      let name ← entity
      let id ← node.parameters.find? "id"
      some (.read name (idText run id))
  | "dbal.entity.update" => do some (.update (← entity) (← id) (dataParam node))
  | "dbal.entity.delete" => do some (.remove (← entity) (← id))
  | "dbal.entity.list" => entity.map fun name => .list name (filterParam node) (limitParam node)
  | "dbal.entity.count" =>
      entity.map fun name => .list name (filterParam node) ({} : ListOptions).limit
  | _ => none

/-- The call stays within the tenant: a row that it makes names the tenant, those that it
addresses are the tenant's and keep it, and so are those that it finds. -/
def ClientCall.Within (s : MapStore) : ClientCall → Prop
  | .create name data => ∀ schema, resolve name = some schema →
      PicksOwn tenant (named schema.name (newId data s.nextId)) s.rows ∧
        (lookup s.rows schema.name (newId data s.nextId) = none →
          data.find? "tenantId" = some (.str tenant))
  | .read name id | .remove name id => ∀ schema, resolve name = some schema →
      PicksOwn tenant (named schema.name id) s.rows
  | .update name id data => ∀ schema, resolve name = some schema →
      PicksOwn tenant (named schema.name id) s.rows ∧
        (lookup s.rows schema.name id ≠ none → KeepsTenant tenant data)
  | .list name filter limit => ∀ schema, resolve name = some schema →
      ∀ entry ∈ (s.rows.filter (selects schema.name (equalities filter))).take limit.toNat,
        owned tenant entry = true

/-- Every call of a run stays within the tenant, in the store that it is made in. -/
def Confined : Nat → List WfNode → WfContext → MapStore → Prop
  | _, [], _, _ => True
  | i, node :: nodes, ctx, s =>
      (∀ call, callOf run (resolved run ctx node) = some call → call.Within resolve tenant s) ∧
      ∀ ctx' s', executeNode (adapter resolve) run i node ctx s = (.ok ctx', s') →
        Confined (i + 1) nodes ctx' s'

end

/-- The workflow that is found stays within its tenant. -/
def Start.Confined (lib : Libraries) (run : Runtime)
    (resolve : String → Option Adapters.EntitySchema) (start : Start) (data : Json)
    (s : MapStore) : Prop :=
  ∀ wf, start.load lib data (listEntities resolve s) = some wf →
    Workflow.Confined run resolve start.tenant 0 wf.nodes (WfContext.set {} "event" data) s

/-- The engine starts the workflow, if the tenant has a published one at all. -/
def Start.Noticed (resolve : String → Option Adapters.EntitySchema) (kept : TenantEvents)
    (start : Start) (s : MapStore) : Prop :=
  ∀ schema, resolve "Workflow" = some schema →
    ∀ entry ∈ s.rows, entry.entity = schema.name → owned start.tenant entry = true →
      isDraft entry.row = false → start.letThrough kept = true

/-! ### Two runs -/

section

variable {tenant : String} {s s' : MapStore} {ε α β γ : Type}

/-- A computation gives the same answer, as far as `view` shows it, in two stores that agree; these
still agree afterwards, and the rows of others are as they were. -/
structure Alike (tenant : String) (view : α → γ) (x : Act ε MapStore α) (s s' : MapStore) :
    Prop where
  answer : (x s).1.map view = (x s').1.map view
  agree : Agree tenant (x s).2 (x s').2
  others : otherRows tenant (x s).2.rows = otherRows tenant s.rows

/-- A computation that looks at no store, and changes none. -/
def Quiet (x : Act ε MapStore α) : Prop := ∃ result, ∀ s, x s = (result, s)

theorem answer_eq {answer answer' : Except ε α}
    (h : answer.map (fun a => a) = answer'.map fun a => a) : answer = answer' := by
  cases answer <;> cases answer' <;> exact h

theorem owned_iff {entry : Entry} :
    owned tenant entry = true ↔ entry.row.find? "tenantId" = some (.str tenant) := by
  unfold owned
  split
  · next owner hfind => simp [hfind]
  · next hother =>
      refine iff_of_false Bool.false_ne_true fun hfind => hother tenant hfind

namespace Agree

theorem refl (s : MapStore) : Agree tenant s s := ⟨rfl, rfl⟩

/-- The row that a name and an id stand for, where it is the tenant's. -/
theorem lookup_eq (h : Agree tenant s s') {entity id : String}
    (hs : PicksOwn tenant (named entity id) s.rows)
    (hs' : PicksOwn tenant (named entity id) s'.rows) :
    lookup s.rows entity id = lookup s'.rows entity id := by
  have hown := h.rows
  rw [ownRows, ownRows] at hown
  rw [lookup, lookup, ← find?_filter_own hs, hown, find?_filter_own hs']

end Agree

theorem Quiet.alike {x : Act ε MapStore α} (hquiet : Quiet x) (hagree : Agree tenant s s') :
    Alike tenant (fun a => a) x s s' := by
  obtain ⟨result, hx⟩ := hquiet
  exact ⟨by rw [hx, hx], by rwa [hx, hx], by rw [hx]⟩

theorem quiet_ofExcept_bind {result : Except ε α} {f : α → Act ε MapStore β}
    (h : ∀ a, Quiet (f a)) : Quiet (Act.ofExcept result >>= f) := by
  cases result with
  | error e => exact ⟨.error e, fun _ => rfl⟩
  | ok a => exact h a

/-! ### The calls of the store -/

section

variable {entity key : String} {data : Json}

/-- A new row of the tenant. -/
theorem insert_alike (hagree : Agree tenant s s')
    (hs : PicksOwn tenant (named entity (newId data s.nextId)) s.rows)
    (hs' : PicksOwn tenant (named entity (newId data s'.nextId)) s'.rows)
    (hdata : lookup s.rows entity (newId data s.nextId) = none →
      data.find? "tenantId" = some (.str tenant)) :
    Alike tenant (fun a => a) (MapStore.insert entity data) s s' := by
  have hnext := hagree.nextId
  rw [← hnext] at hs'
  have hlookup := hagree.lookup_eq hs hs'
  cases hrow : lookup s.rows entity (newId data s.nextId) with
  | some row =>
      rw [hrow, hnext] at hlookup
      have hrun := insert_taken hrow
      have hrun' := insert_taken hlookup.symm
      exact ⟨by rw [hrun, hrun'], by rwa [hrun, hrun'], by rw [hrun]⟩
  | none =>
      have hmine : owned tenant ⟨entity, newId data s.nextId,
          data.set "id" (.str (newId data s.nextId))⟩ = true := by
        rw [owned_iff, ← hdata hrow]
        exact set_created data _ "tenantId" (by simp [Generated])
      rw [hrow, hnext] at hlookup
      have hrun := insert_new hrow
      have hrun' := insert_new hlookup.symm
      refine ⟨by rw [hrun, hrun', hnext], ?_, ?_⟩
      · rw [hrun, hrun', ← hnext]
        refine ⟨?_, rfl⟩
        have hown := hagree.rows
        simp only [ownRows] at hown ⊢
        rw [List.filter_append, List.filter_append, hown]
      · rw [hrun]
        simp [otherRows, hmine]

/-- A row that is changed stays whose it was. -/
theorem owned_merge (hdata : KeepsTenant tenant data) {entry : Entry}
    (hentry : owned tenant entry = true) :
    owned tenant { entry with row := merge entry.row data } = true := by
  rw [owned_iff] at hentry ⊢
  rcases hdata with hnone | hsome
  · simp [merge_updated entry.row data "tenantId" (by simp [Generated]), hnone, hentry]
  · simp [merge_updated entry.row data "tenantId" (by simp [Generated]), hsome]

theorem owned_change {rows : List Entry} (hrows : PicksOwn tenant (named entity key) rows)
    (hdata : KeepsTenant tenant data) (entry : Entry) (hentry : entry ∈ rows) :
    owned tenant (if named entity key entry then { entry with row := merge entry.row data }
      else entry) = owned tenant entry := by
  split_ifs with hnamed
  · rw [owned_merge hdata (hrows entry hentry hnamed), hrows entry hentry hnamed]
  · rfl

/-- A change of a row of the tenant. -/
theorem modify_alike (hagree : Agree tenant s s')
    (hs : PicksOwn tenant (named entity key) s.rows)
    (hs' : PicksOwn tenant (named entity key) s'.rows)
    (hdata : lookup s.rows entity key ≠ none → KeepsTenant tenant data) :
    Alike tenant (fun a => a) (modify entity key data) s s' := by
  have hlookup := hagree.lookup_eq hs hs'
  cases hrow : lookup s.rows entity key with
  | none =>
      rw [hrow] at hlookup
      have hrun := modify_missing data hrow
      have hrun' := modify_missing data hlookup.symm
      exact ⟨by rw [hrun, hrun'], by rwa [hrun, hrun'], by rw [hrun]⟩
  | some row =>
      rw [hrow] at hlookup
      have hkeeps := hdata (by rw [hrow]; exact Option.some_ne_none row)
      have hrun := modify_found data hrow
      have hrun' := modify_found data hlookup.symm
      refine ⟨by rw [hrun, hrun'], ?_, ?_⟩
      · rw [hrun, hrun']
        refine ⟨?_, hagree.nextId⟩
        have hown := hagree.rows
        simp only [ownRows, change] at hown ⊢
        rw [filter_own_map (owned_change hs hkeeps), filter_own_map (owned_change hs' hkeeps), hown]
      · rw [hrun]
        refine filter_others_map (owned_change hs hkeeps) fun entry hentry hother => ?_
        refine if_neg fun hnamed => ?_
        rw [hs entry hentry hnamed] at hother
        cases hother

/-- The removal of a row of the tenant. -/
theorem erase_alike (hagree : Agree tenant s s')
    (hs : PicksOwn tenant (named entity key) s.rows)
    (hs' : PicksOwn tenant (named entity key) s'.rows) :
    Alike tenant (fun a => a) (MapStore.erase entity key) s s' := by
  have hlookup := hagree.lookup_eq hs hs'
  cases hrow : lookup s.rows entity key with
  | none =>
      rw [hrow] at hlookup
      have hrun := erase_missing hrow
      have hrun' := erase_missing hlookup.symm
      exact ⟨by rw [hrun, hrun'], by rwa [hrun, hrun'], by rw [hrun]⟩
  | some row =>
      rw [hrow] at hlookup
      have hrun := erase_found hrow
      have hrun' := erase_found hlookup.symm
      refine ⟨by rw [hrun, hrun'], ?_, ?_⟩
      · rw [hrun, hrun']
        refine ⟨?_, hagree.nextId⟩
        have hown := hagree.rows
        simp only [ownRows] at hown ⊢
        rw [List.filter_comm, hown, List.filter_comm]
      · rw [hrun]
        refine filter_others_filter fun entry hentry hother => ?_
        rw [Bool.not_eq_true', ← Bool.not_eq_true]
        intro hnamed
        rw [hs entry hentry hnamed] at hother
        cases hother

/-- The rows that a listing gives, where they are the tenant's. -/
theorem page_eq (hagree : Agree tenant s s') {pick : Entry → Bool} {n : Nat}
    (hs : ∀ entry ∈ (s.rows.filter pick).take n, owned tenant entry = true)
    (hs' : ∀ entry ∈ (s'.rows.filter pick).take n, owned tenant entry = true) :
    (s.rows.filter pick).take n = (s'.rows.filter pick).take n := by
  have hown := hagree.rows
  simp only [ownRows] at hown
  rw [← take_filter_own hs, ← take_filter_own hs', List.filter_comm, hown, List.filter_comm]

end

/-! ### The calls of the client -/

section

variable {resolve : String → Option Adapters.EntitySchema} {name key : String} {data : Json}

theorem withEntity_alike {call : String → Act Thrown MapStore (Result α)} {view : Result α → γ}
    (hagree : Agree tenant s s')
    (h : ∀ schema, resolve name = some schema → Alike tenant view (call schema.name) s s') :
    Alike tenant view (withEntity resolve name call) s s' := by
  unfold withEntity
  cases hschema : resolve name with
  | some schema => exact h schema hschema
  | none => exact ⟨rfl, hagree, rfl⟩

theorem create_alike (hagree : Agree tenant s s')
    (hs : (ClientCall.create name data).Within resolve tenant s)
    (hs' : (ClientCall.create name data).Within resolve tenant s') :
    Alike tenant (fun a => a) ((adapter resolve).create name data) s s' := by
  show Alike tenant (fun a => a)
    (withEntity resolve name fun entity => MapStore.insert entity data) s s'
  exact withEntity_alike hagree fun schema hschema =>
    insert_alike hagree (hs schema hschema).1 (hs' schema hschema).1 (hs schema hschema).2

theorem read_alike (hagree : Agree tenant s s')
    (hs : (ClientCall.read name key).Within resolve tenant s)
    (hs' : (ClientCall.read name key).Within resolve tenant s') :
    Alike tenant (fun a => a) ((adapter resolve).read name key) s s' := by
  cases hschema : resolve name with
  | none =>
      have hrun : ∀ t : MapStore, (adapter resolve).read name key t =
          (.ok (.error (Error.validationError ("Unknown entity: " ++ name))), t) := by
        simp [adapter, withEntity, hschema]
      exact Quiet.alike ⟨_, hrun⟩ hagree
  | some schema =>
      have hlookup := hagree.lookup_eq (hs schema hschema) (hs' schema hschema)
      have hrun : ∀ t : MapStore, ((adapter resolve).read name key t).2 = t := by
        intro t
        simp only [adapter, withEntity, hschema]
        split <;> rfl
      refine ⟨?_, by rwa [hrun, hrun], by rw [hrun]⟩
      simp only [adapter, withEntity, hschema, hlookup]
      cases lookup s'.rows schema.name key <;> rfl

theorem update_alike (hagree : Agree tenant s s')
    (hs : (ClientCall.update name key data).Within resolve tenant s)
    (hs' : (ClientCall.update name key data).Within resolve tenant s') :
    Alike tenant (fun a => a) ((adapter resolve).update name key data) s s' := by
  show Alike tenant (fun a => a)
    (withEntity resolve name fun entity => modify entity key data) s s'
  exact withEntity_alike hagree fun schema hschema =>
    modify_alike hagree (hs schema hschema).1 (hs' schema hschema).1 (hs schema hschema).2

theorem remove_alike (hagree : Agree tenant s s')
    (hs : (ClientCall.remove name key).Within resolve tenant s)
    (hs' : (ClientCall.remove name key).Within resolve tenant s') :
    Alike tenant (fun a => a) ((adapter resolve).remove name key) s s' := by
  show Alike tenant (fun a => a)
    (withEntity resolve name fun entity => MapStore.erase entity key) s s'
  exact withEntity_alike hagree fun schema hschema =>
    erase_alike hagree (hs schema hschema) (hs' schema hschema)

/-- Of a listing only the items count: how many rows there are in all is not asked. -/
theorem list_alike {filter : Std.TreeMap String String} {limit : Int} (hagree : Agree tenant s s')
    (hs : (ClientCall.list name filter limit).Within resolve tenant s)
    (hs' : (ClientCall.list name filter limit).Within resolve tenant s') :
    Alike tenant (Except.map ListResult.items)
      ((adapter resolve).list name { filter := filter, limit := limit }) s s' := by
  cases hschema : resolve name with
  | none =>
      have hrun := list_unknown hschema { filter := filter, limit := limit }
      exact ⟨by rw [hrun, hrun], by rwa [hrun, hrun], by rw [hrun]⟩
  | some schema =>
      have hrun := list_known hschema { filter := filter, limit := limit }
      refine ⟨?_, by rwa [hrun, hrun], by rw [hrun]⟩
      rw [hrun, hrun]
      refine congrArg (fun items => Except.ok (Except.ok items)) ?_
      rw [listRows_items, listRows_items, page_eq hagree (hs schema hschema) (hs' schema hschema)]

end

/-! ### The steps -/

section

variable {resolve : String → Option Adapters.EntitySchema} {run : Runtime} {i : Nat} {node : WfNode}
  {ctx : WfContext}

theorem ofExcept_bind_alike {result : Except ε α} {f : α → Act ε MapStore β}
    (hagree : Agree tenant s s') (h : ∀ a, result = .ok a → Alike tenant (fun a => a) (f a) s s') :
    Alike tenant (fun a => a) (Act.ofExcept result >>= f) s s' := by
  cases result with
  | error e => exact ⟨rfl, hagree, rfl⟩
  | ok a => exact h a rfl

/-- A call, and what is made of its answer. -/
theorem calling_bind_alike {call : Act Thrown MapStore α} {view : α → γ}
    {f : α → Act WfThrown MapStore β} (hcall : Alike tenant view call s s')
    (hf : ∀ a b, view a = view b →
      ∃ result, (∀ s, f a s = (result, s)) ∧ ∀ s, f b s = (result, s)) :
    Alike tenant (fun a => a) (calling call >>= f) s s' := by
  obtain ⟨hanswer, hagree, hothers⟩ := hcall
  have hok : ∀ u a v, call u = (.ok a, v) → (calling call >>= f) u = f a v := fun u a v h =>
    Act.bind_ok (by rw [calling, h]; rfl) f
  have herror : ∀ u e v, call u = (.error e, v) →
      (calling call >>= f) u = (.error (.failed e), v) := fun u e v h =>
    Act.bind_error (by rw [calling, h]; rfl) f
  rcases hrun : call s with ⟨e | a, t⟩ <;> rcases hrun' : call s' with ⟨e' | b, t'⟩ <;>
    rw [hrun, hrun'] at hanswer hagree <;> rw [hrun] at hothers
  · obtain rfl : e = e' := Except.error.inj hanswer
    exact ⟨by rw [herror _ _ _ hrun, herror _ _ _ hrun'],
      by rwa [herror _ _ _ hrun, herror _ _ _ hrun'], by rwa [herror _ _ _ hrun]⟩
  · cases hanswer
  · cases hanswer
  · obtain ⟨result, ha, hb⟩ := hf a b (Except.ok.inj hanswer)
    exact ⟨by rw [hok _ _ _ hrun, hok _ _ _ hrun', ha, hb],
      by rwa [hok _ _ _ hrun, hok _ _ _ hrun', ha, hb], by rwa [hok _ _ _ hrun, ha]⟩

/-- A call whose answer is looked at as a whole. -/
theorem calling_bind_alike_id {call : Act Thrown MapStore α} {f : α → Act WfThrown MapStore β}
    (hcall : Alike tenant (fun a => a) call s s') (hf : ∀ a, Quiet (f a)) :
    Alike tenant (fun a => a) (calling call >>= f) s s' := by
  refine calling_bind_alike hcall fun a b hab => ?_
  obtain rfl : a = b := hab
  obtain ⟨result, ha⟩ := hf a
  exact ⟨result, ha, ha⟩

/-- The entity and the id of a step, as `callOf` reads them. -/
theorem toOption_stringParam {type key text : String} {node : WfNode}
    (h : stringParam type key node = .ok text) (type' : String) :
    (stringParam type' key node).toOption = some text := by
  unfold stringParam at h ⊢
  split
  · next s hfind =>
      rw [hfind] at h
      exact congrArg some (Except.ok.inj h)
  · next hother =>
      split at h
      · next s hfind => exact (hother s hfind).elim
      · cases h

theorem quiet_varSetStep : Quiet (varSetStep run i node ctx : Act WfThrown MapStore WfContext) :=
  quiet_ofExcept_bind fun _ => ⟨_, fun _ => rfl⟩

theorem quiet_stopUnlessStep :
    Quiet (stopUnlessStep run i node ctx : Act WfThrown MapStore WfContext) := by
  refine quiet_ofExcept_bind fun relation => ?_
  split_ifs
  · exact ⟨_, fun _ => rfl⟩
  · exact ⟨_, fun _ => rfl⟩

theorem quiet_pageEffectStep (type : String) (required : List String) :
    Quiet (pageEffectStep type required i node ctx : Act WfThrown MapStore WfContext) := by
  unfold pageEffectStep
  cases required.find? fun name => !node.parameters.contains name with
  | none => exact ⟨_, fun _ => rfl⟩
  | some name => exact ⟨_, fun _ => rfl⟩

/-- Two listings with the same items. -/
theorem items_cases {a b : Result ListResult}
    (h : a.map ListResult.items = b.map ListResult.items) :
    (∃ e, a = .error e ∧ b = .error e) ∨
      ∃ found found', a = .ok found ∧ b = .ok found' ∧ found.items = found'.items := by
  cases a with
  | error e =>
      cases b with
      | error e' => exact Or.inl ⟨e, rfl, congrArg Except.error (Except.error.inj h).symm⟩
      | ok found' => cases h
  | ok found =>
      cases b with
      | error e' => cases h
      | ok found' => exact Or.inr ⟨found, found', rfl, rfl, Except.ok.inj h⟩

-- The calls of the step stay within the tenant, in both stores.
variable (hagree : Agree tenant s s')
  (hs : ∀ call, callOf run node = some call → call.Within resolve tenant s)
  (hs' : ∀ call, callOf run node = some call → call.Within resolve tenant s')

include hagree hs hs'

theorem entityCreateStep_alike (htype : node.type = "dbal.entity.create") :
    Alike tenant (fun a => a) (entityCreateStep (adapter resolve) i node ctx) s s' := by
  refine ofExcept_bind_alike hagree fun name hname => ?_
  have hcall : callOf run node = some (.create name (dataParam node)) := by
    simp [callOf, htype, toOption_stringParam hname]
  refine calling_bind_alike_id (create_alike hagree (hs _ hcall) (hs' _ hcall)) fun result => ?_
  cases result with
  | error e => exact ⟨_, fun _ => rfl⟩
  | ok row => exact quiet_ofExcept_bind fun shown => ⟨_, fun _ => rfl⟩

theorem entityGetStep_alike (htype : node.type = "dbal.entity.get") :
    Alike tenant (fun a => a) (entityGetStep (adapter resolve) run i node ctx) s s' := by
  refine ofExcept_bind_alike hagree fun name hname => ?_
  cases hid : node.parameters.find? "id" with
  | none => exact Quiet.alike ⟨_, fun _ => rfl⟩ hagree
  | some key =>
      have hcall : callOf run node = some (.read name (idText run key)) := by
        simp [callOf, htype, toOption_stringParam hname, hid]
      refine calling_bind_alike_id (read_alike hagree (hs _ hcall) (hs' _ hcall)) fun result => ?_
      cases result with
      | error e => exact ⟨_, fun _ => rfl⟩
      | ok row => exact ⟨_, fun _ => rfl⟩

theorem entityListStep_alike (htype : node.type = "dbal.entity.list") :
    Alike tenant (fun a => a) (entityListStep (adapter resolve) i node ctx) s s' := by
  refine ofExcept_bind_alike hagree fun name hname => ?_
  have hcall : callOf run node = some (.list name (filterParam node) (limitParam node)) := by
    simp [callOf, htype, toOption_stringParam hname]
  refine calling_bind_alike (list_alike hagree (hs _ hcall) (hs' _ hcall)) fun a b hab => ?_
  rcases items_cases hab with ⟨e, rfl, rfl⟩ | ⟨found, found', rfl, rfl, hitems⟩
  · exact ⟨_, fun _ => rfl, fun _ => rfl⟩
  · exact ⟨.ok (setOutputs node (.arr found.items) ctx), fun _ => rfl, fun _ => by rw [hitems]; rfl⟩

theorem entityCountStep_alike (htype : node.type = "dbal.entity.count") :
    Alike tenant (fun a => a) (entityCountStep (adapter resolve) i node ctx) s s' := by
  refine ofExcept_bind_alike hagree fun name hname => ?_
  have hcall : callOf run node =
      some (.list name (filterParam node) ({} : ListOptions).limit) := by
    simp [callOf, htype, toOption_stringParam hname]
  refine calling_bind_alike (list_alike hagree (hs _ hcall) (hs' _ hcall)) fun a b hab => ?_
  rcases items_cases hab with ⟨e, rfl, rfl⟩ | ⟨found, found', rfl, rfl, hitems⟩
  · exact ⟨_, fun _ => rfl, fun _ => rfl⟩
  · exact ⟨.ok (setOutputs node (.int found.items.length) ctx), fun _ => rfl,
      fun _ => by rw [hitems]; rfl⟩

theorem entityUpdateStep_alike (htype : node.type = "dbal.entity.update") :
    Alike tenant (fun a => a) (entityUpdateStep (adapter resolve) i node ctx) s s' := by
  refine ofExcept_bind_alike hagree fun name hname => ofExcept_bind_alike hagree fun key hkey => ?_
  have hcall : callOf run node = some (.update name key (dataParam node)) := by
    simp [callOf, htype, toOption_stringParam hname, toOption_stringParam hkey]
  refine calling_bind_alike_id (update_alike hagree (hs _ hcall) (hs' _ hcall)) fun result => ?_
  cases result with
  | error e => exact ⟨_, fun _ => rfl⟩
  | ok row => exact ⟨_, fun _ => rfl⟩

theorem entityDeleteStep_alike (htype : node.type = "dbal.entity.delete") :
    Alike tenant (fun a => a) (entityDeleteStep (adapter resolve) i node ctx) s s' := by
  refine ofExcept_bind_alike hagree fun name hname => ofExcept_bind_alike hagree fun key hkey => ?_
  have hcall : callOf run node = some (.remove name key) := by
    simp [callOf, htype, toOption_stringParam hname, toOption_stringParam hkey]
  refine calling_bind_alike_id (remove_alike hagree (hs _ hcall) (hs' _ hcall)) fun result => ?_
  cases result with
  | error e => exact ⟨_, fun _ => rfl⟩
  | ok removed => exact ⟨_, fun _ => rfl⟩

/-- **One step.**  The steps beside those for entities do not look at the store. -/
theorem registered_alike {step : Step MapStore}
    (hstep : registered (adapter resolve) run node.type = some step) :
    Alike tenant (fun a => a) (step i node ctx) s s' := by
  unfold registered at hstep
  split at hstep <;> cases hstep
  · exact Quiet.alike ⟨_, fun _ => rfl⟩ hagree
  · exact Quiet.alike ⟨_, fun _ => rfl⟩ hagree
  · next htype => exact entityCreateStep_alike hagree hs hs' htype
  · next htype => exact entityGetStep_alike hagree hs hs' htype
  · next htype => exact entityListStep_alike hagree hs hs' htype
  · exact quiet_varSetStep.alike hagree
  · exact Quiet.alike ⟨_, fun _ => rfl⟩ hagree
  · next htype => exact entityUpdateStep_alike hagree hs hs' htype
  · next htype => exact entityDeleteStep_alike hagree hs hs' htype
  · next htype => exact entityCountStep_alike hagree hs hs' htype
  · exact quiet_stopUnlessStep.alike hagree
  all_goals exact (quiet_pageEffectStep _ _).alike hagree

end

/-! ### The run -/

section

variable {resolve : String → Option Adapters.EntitySchema} {run : Runtime}

theorem executeNode_alike {i : Nat} {node : WfNode} {ctx : WfContext} (hagree : Agree tenant s s')
    (hs : ∀ call, callOf run (resolved run ctx node) = some call → call.Within resolve tenant s)
    (hs' : ∀ call, callOf run (resolved run ctx node) = some call →
      call.Within resolve tenant s') :
    Alike tenant (fun a => a) (executeNode (adapter resolve) run i node ctx) s s' := by
  unfold executeNode
  cases hstep : registered (adapter resolve) run node.type with
  | none => exact Quiet.alike ⟨_, fun _ => rfl⟩ hagree
  | some step => exact registered_alike hagree hs hs' hstep

/-- **A run that stays within the tenant.**  It goes the same way in both stores. -/
theorem executeNodes_alike {nodes : List WfNode} {i : Nat} {ctx : WfContext}
    (hagree : Agree tenant s s') (hs : Confined run resolve tenant i nodes ctx s)
    (hs' : Confined run resolve tenant i nodes ctx s') :
    Alike tenant (fun a => a) (executeNodes (adapter resolve) run i nodes ctx) s s' := by
  induction nodes generalizing i ctx s s' with
  | nil => exact ⟨rfl, hagree, rfl⟩
  | cons node nodes ih =>
      obtain ⟨hcalls, hrest⟩ := hs
      obtain ⟨hcalls', hrest'⟩ := hs'
      obtain ⟨hanswer, hafter, hothers⟩ := executeNode_alike (i := i) hagree hcalls hcalls'
      rcases hrun : executeNode (adapter resolve) run i node ctx s with ⟨answer, t⟩
      rcases hrun' : executeNode (adapter resolve) run i node ctx s' with ⟨answer', t'⟩
      rw [hrun, hrun'] at hanswer hafter
      rw [hrun] at hothers
      cases answer with
      | error e =>
          cases answer' with
          | ok ctx' => cases hanswer
          | error e' =>
              obtain rfl : e = e' := Except.error.inj hanswer
              cases e with
              | stop why =>
                  have hstop := executeNodes_stop nodes hrun
                  have hstop' := executeNodes_stop nodes hrun'
                  exact ⟨by rw [hstop, hstop'], by rwa [hstop, hstop'], by rwa [hstop]⟩
              | failed e =>
                  have hfail := executeNodes_failed nodes hrun
                  have hfail' := executeNodes_failed nodes hrun'
                  exact ⟨by rw [hfail, hfail'], by rwa [hfail, hfail'], by rwa [hfail]⟩
      | ok ctx₁ =>
          cases answer' with
          | error e => cases hanswer
          | ok ctx₂ =>
              obtain rfl : ctx₁ = ctx₂ := Except.ok.inj hanswer
              have hnext := executeNodes_next nodes hrun
              have hnext' := executeNodes_next nodes hrun'
              obtain ⟨hresult, hfinal, hothers'⟩ :=
                ih hafter (hrest _ _ hrun) (hrest' _ _ hrun')
              exact ⟨by rwa [hnext, hnext'], by rwa [hnext, hnext'],
                by rw [hnext, hothers', hothers]⟩

end

/-! ### The workflow that is found -/

section

variable {resolve : String → Option Adapters.EntitySchema} {lib : Libraries}
  {list list' : ListEntities}

/-- Two listings give the same, where they are asked for the rows of the tenant. -/
def SameFor (tenant : String) (list list' : ListEntities) : Prop :=
  ∀ name opts, opts.filter["tenantId"]? = some tenant → list name opts = list' name opts

/-- A listing that asks for the tenant finds rows of the tenant only. -/
theorem owned_of_selects {entity : String} {filter : Std.TreeMap String String}
    (hfilter : filter["tenantId"]? = some tenant) {entry : Entry}
    (h : selects entity (equalities filter) entry = true) : owned tenant entry = true := by
  rw [owned_iff]
  exact (selects_equalities.1 h).2 "tenantId" tenant hfilter

theorem sameFor_listEntities (hagree : Agree tenant s s') :
    SameFor tenant (listEntities resolve s) (listEntities resolve s') := by
  intro name opts hfilter
  unfold listEntities
  cases hschema : resolve name with
  | none => rw [list_unknown hschema, list_unknown hschema]
  | some schema =>
      have hown := hagree.rows
      rw [ownRows, ownRows] at hown
      have hrows : s.rows.filter (selects schema.name (equalities opts.filter)) =
          s'.rows.filter (selects schema.name (equalities opts.filter)) := by
        rw [← filter_filter_own fun entry _ => owned_of_selects hfilter, hown,
          filter_filter_own fun entry _ => owned_of_selects hfilter]
      have hlist : listRows schema.name opts s.rows = listRows schema.name opts s'.rows := by
        unfold equalities at hrows
        rw [listRows, hrows, listRows]
      rw [list_known hschema, list_known hschema, hlist]

/-- The filter of a request that asks for the tenant first. -/
theorem ofList_tenantId (rest : List (String × String))
    (hrest : ∀ pair ∈ rest, pair.1 ≠ "tenantId") :
    (Std.TreeMap.ofList (("tenantId", tenant) :: rest))["tenantId"]? = some tenant := by
  rw [Std.TreeMap.ofList_cons, Std.TreeMap.getElem?_insertMany_list_of_contains_eq_false]
  · simp
  · rw [← Bool.not_eq_true, List.contains_iff_mem, List.mem_map]
    rintro ⟨pair, hmem, hkey⟩
    exact hrest pair hmem hkey

theorem rowsFor_eq (h : SameFor tenant list list') (entity workflowId : String) :
    rowsFor list entity tenant workflowId = rowsFor list' entity tenant workflowId := by
  have hlist := h entity
    { filter := .ofList [("tenantId", tenant), ("workflowId", workflowId)], limit := 2000 }
    (ofList_tenantId [("workflowId", workflowId)] (by simp))
  simp only [rowsFor, hlist]

theorem buildWorkflow_eq (h : SameFor tenant list list') (chosen : Json) :
    lib.buildWorkflow list tenant chosen = lib.buildWorkflow list' tenant chosen := by
  simp only [Libraries.buildWorkflow, rowsFor_eq h]

theorem loadTenantWorkflow_eq (h : SameFor tenant list list') (triggerEvent form : String) :
    lib.loadTenantWorkflow tenant triggerEvent form list =
      lib.loadTenantWorkflow tenant triggerEvent form list' := by
  have hlist := h "Workflow"
    { filter := .ofList [("tenantId", tenant), ("triggerEvent", triggerEvent)], limit := 100 }
    (ofList_tenantId [("triggerEvent", triggerEvent)] (by simp))
  simp only [Libraries.loadTenantWorkflow, hlist, buildWorkflow_eq h]

theorem loadByColumn_eq (h : SameFor tenant list list') (named triggerEvent : String)
    (columns : List String) (hcolumns : ∀ column ∈ columns, column ≠ "tenantId") :
    lib.loadByColumn tenant named triggerEvent list columns =
      lib.loadByColumn tenant named triggerEvent list' columns := by
  induction columns with
  | nil => rfl
  | cons column columns ih =>
      have hlist := h "Workflow"
        { filter := .ofList
            [("tenantId", tenant), (column, named), ("triggerEvent", triggerEvent)]
          limit := 10 }
        (ofList_tenantId [(column, named), ("triggerEvent", triggerEvent)]
          (by simpa using hcolumns column (List.mem_cons_self ..)))
      simp only [Libraries.loadByColumn, hlist, buildWorkflow_eq h,
        ih fun other hother => hcolumns other (List.mem_cons_of_mem _ hother)]

/-- **Which workflow runs depends on the rows of its tenant only.** -/
theorem load_eq {start : Start} (h : SameFor start.tenant list list') (data : Json) :
    start.load lib data list = start.load lib data list' := by
  cases start with
  | named tenant name triggerEvent =>
      exact loadByColumn_eq h name triggerEvent _ (by simp)
  | written eventName =>
      unfold Start.load
      dsimp only
      split_ifs
      · exact loadTenantWorkflow_eq h _ _
      · exact loadByColumn_eq h _ _ _ (by simp)

/-- What a listing that asks for the tenant finds is stored under the tenant. -/
theorem stored_of_listing {name : String} {opts : ListOptions} {items : List Json}
    (hfilter : opts.filter["tenantId"]? = some tenant)
    (h : listEntities resolve s name opts = .ok items) {row : Json} (hmem : row ∈ items) :
    ∃ schema, resolve name = some schema ∧ ∃ entry ∈ s.rows, entry.entity = schema.name ∧
      owned tenant entry = true ∧ entry.row = row := by
  unfold listEntities at h
  cases hschema : resolve name with
  | none =>
      rw [list_unknown hschema] at h
      cases h
  | some schema =>
      rw [list_known hschema] at h
      cases h
      obtain ⟨entry, hentry, hrow⟩ := List.mem_map.1 (List.mem_of_mem_drop (List.mem_of_mem_take hmem))
      obtain ⟨hstored, hselects⟩ := List.mem_filter.1 hentry
      exact ⟨schema, rfl, entry, hstored, (selects_equalities.1 hselects).1,
        owned_of_selects hfilter hselects, hrow⟩

theorem not_isNull_of_build {list : ListEntities} {chosen : Json} {wf : LoadedWorkflow}
    (h : lib.buildWorkflow list tenant chosen = some wf) : ¬ chosen.isNull := by
  intro hnull
  rw [lib.buildWorkflow_of_no_row (Or.inl hnull)] at h
  cases h

theorem published_of_loadByColumn {named triggerEvent : String} {wf : LoadedWorkflow}
    (columns : List String) (hcolumns : ∀ column ∈ columns, column ≠ "tenantId")
    (h : lib.loadByColumn tenant named triggerEvent (listEntities resolve s) columns = some wf) :
    ∃ schema, resolve "Workflow" = some schema ∧ ∃ entry ∈ s.rows, entry.entity = schema.name ∧
      owned tenant entry = true ∧ isDraft entry.row = false := by
  induction columns with
  | nil => cases h
  | cons column columns ih =>
      have hrest := ih fun other hother => hcolumns other (List.mem_cons_of_mem column hother)
      unfold Libraries.loadByColumn at h
      dsimp only at h
      split at h
      · exact hrest h
      · next items hlist =>
          split_ifs at h with hnone
          · exact hrest h
          · unfold firstPublished at hnone
            cases hfind : items.find? fun row => !isDraft row with
            | none =>
                rw [hfind] at hnone
                exact absurd rfl hnone
            | some row =>
                obtain ⟨schema, hschema, entry, hentry, hname, hown, rfl⟩ := stored_of_listing
                  (ofList_tenantId [(column, named), ("triggerEvent", triggerEvent)]
                    (by simpa using hcolumns column List.mem_cons_self)) hlist
                  (List.mem_of_find?_eq_some hfind)
                have hpublished := List.find?_some hfind
                rw [Bool.not_eq_true'] at hpublished
                exact ⟨schema, hschema, entry, hentry, hname, hown, hpublished⟩

theorem published_of_loadTenantWorkflow {triggerEvent form : String} {wf : LoadedWorkflow}
    (h : lib.loadTenantWorkflow tenant triggerEvent form (listEntities resolve s) = some wf) :
    ∃ schema, resolve "Workflow" = some schema ∧ ∃ entry ∈ s.rows, entry.entity = schema.name ∧
      owned tenant entry = true ∧ isDraft entry.row = false := by
  unfold Libraries.loadTenantWorkflow at h
  dsimp only at h
  split at h
  · cases h
  · next items hlist =>
      rcases bestForForm_mem form .null items with hnull | ⟨hmem, hpublished⟩
      · rw [hnull] at h
        exact absurd rfl (not_isNull_of_build h)
      · obtain ⟨schema, hschema, entry, hentry, hname, hown, hrow⟩ := stored_of_listing
          (ofList_tenantId [("triggerEvent", triggerEvent)] (by simp)) hlist hmem
        exact ⟨schema, hschema, entry, hentry, hname, hown, hrow ▸ hpublished⟩

/-- A workflow that is found is a published one of the tenant. -/
theorem published_of_load {start : Start} {data : Json} {wf : LoadedWorkflow}
    (h : start.load lib data (listEntities resolve s) = some wf) :
    ∃ schema, resolve "Workflow" = some schema ∧ ∃ entry ∈ s.rows, entry.entity = schema.name ∧
      owned start.tenant entry = true ∧ isDraft entry.row = false := by
  cases start with
  | named tenant name triggerEvent => exact published_of_loadByColumn _ (by simp) h
  | written eventName =>
      unfold Start.load at h
      dsimp only at h
      split_ifs at h
      · exact published_of_loadTenantWorkflow h
      · exact published_of_loadByColumn _ (by simp) h

/-- Where the engine has noticed the workflows of the tenant, what it keeps does not matter. -/
theorem perform_eq {run : Runtime} {kept : TenantEvents} {start : Start} {data : Json}
    (h : start.Noticed resolve kept s) :
    start.perform lib run resolve kept data s =
      match start.load lib data (listEntities resolve s) with
      | none => (none, s)
      | some wf =>
          let ran := runWorkflow (adapter resolve) run wf.nodes data s
          (some ran.1, ran.2) := by
  unfold Start.perform
  cases hfound : start.load lib data (listEntities resolve s) with
  | none => exact ite_self _
  | some wf =>
      obtain ⟨schema, hschema, entry, hentry, hname, hown, hpublished⟩ := published_of_load hfound
      exact if_pos (h schema hschema entry hentry hname hown hpublished)

/-- **A workflow goes the same way in two stores that agree**, where its calls stay within and the
engines have noticed it. -/
theorem perform_alike {run : Runtime} {kept kept' : TenantEvents} {start : Start} {data : Json}
    (hagree : Agree start.tenant s s') (hs : start.Confined lib run resolve data s)
    (hs' : start.Confined lib run resolve data s') (hnoticed : start.Noticed resolve kept s)
    (hnoticed' : start.Noticed resolve kept' s') :
    (start.perform lib run resolve kept data s).1 =
        (start.perform lib run resolve kept' data s').1 ∧
      Agree start.tenant (start.perform lib run resolve kept data s).2
        (start.perform lib run resolve kept' data s').2 := by
  have hload : start.load lib data (listEntities resolve s) =
      start.load lib data (listEntities resolve s') := load_eq (sameFor_listEntities hagree) data
  rw [perform_eq hnoticed, perform_eq hnoticed']
  cases hfound : start.load lib data (listEntities resolve s) with
  | none =>
      rw [hfound] at hload
      simp only [← hload, hagree, and_self]
  | some wf =>
      rw [hfound] at hload
      obtain ⟨hanswer, hafter, -⟩ :=
        executeNodes_alike hagree (hs wf hfound) (hs' wf hload.symm)
      have hresult : (runWorkflow (adapter resolve) run wf.nodes data s).1 =
          (runWorkflow (adapter resolve) run wf.nodes data s').1 := answer_eq hanswer
      simp only [← hload]
      exact ⟨congrArg some hresult, hafter⟩

/-- The rows of others stay, whether the engine starts the workflow or not. -/
theorem perform_others {run : Runtime} {kept : TenantEvents} {start : Start} {data : Json}
    (hs : start.Confined lib run resolve data s) :
    otherRows start.tenant (start.perform lib run resolve kept data s).2.rows =
      otherRows start.tenant s.rows := by
  unfold Start.perform
  split_ifs
  · cases hfound : start.load lib data (listEntities resolve s) with
    | none => rfl
    | some wf => exact (executeNodes_alike (Agree.refl s) (hs wf hfound) (hs wf hfound)).others
  · rfl

/-- A request that names a workflow gets the same effects. -/
theorem runNamedNow_effects {run : Runtime} {name triggerEvent : String} {data : Json}
    (hagree : Agree tenant s s')
    (hs : (Start.named tenant name triggerEvent).Confined lib run resolve data s)
    (hs' : (Start.named tenant name triggerEvent).Confined lib run resolve data s') :
    (runNamedNow lib run resolve tenant name triggerEvent data s).1 =
      (runNamedNow lib run resolve tenant name triggerEvent data s').1 := by
  have hstart : Agree (Start.named tenant name triggerEvent).tenant s s' := hagree
  exact congrArg returned (perform_alike hstart hs hs' (fun _ _ _ _ _ _ _ => rfl)
    fun _ _ _ _ _ _ _ => rfl).1

/-- A row that was written leaves two stores that agree, whatever their engines keep. -/
theorem dispatchAsync_agree {run : Runtime} {engine engine' : WfEngine} {now now' later later' : Int}
    {eventName : String} {data : Json} (hagree : Agree (splitEvent eventName).1 s s')
    (hs : (Start.written eventName).Confined lib run resolve data s)
    (hs' : (Start.written eventName).Confined lib run resolve data s')
    (hnoticed : (Start.written eventName).Noticed resolve
      (dispatchAsync lib run resolve engine now later eventName data s).1.tenantEvents s)
    (hnoticed' : (Start.written eventName).Noticed resolve
      (dispatchAsync lib run resolve engine' now' later' eventName data s').1.tenantEvents s') :
    Agree (splitEvent eventName).1
      (dispatchAsync lib run resolve engine now later eventName data s).2
      (dispatchAsync lib run resolve engine' now' later' eventName data s').2 := by
  have hstart : Agree (Start.written eventName).tenant s s' := hagree
  exact (perform_alike hstart hs hs' hnoticed hnoticed').2

end

end

/-! ### The result -/

/-- **A workflow stays inside its tenant** in every run whose calls stay within it: it leaves the
rows of others as they are and makes none, and, where the engine has noticed the workflows of the
tenant, its final context and effects are the same in every store that agrees on the rows of the
tenant and in which both hold too. -/
theorem tenant_workflows_confined (lib : Libraries) (run : Runtime)
    (resolve : String → Option Adapters.EntitySchema) (kept : TenantEvents) (start : Start)
    (data : Json) (s : MapStore) (hs : start.Confined lib run resolve data s) :
    otherRows start.tenant (start.perform lib run resolve kept data s).2.rows =
        otherRows start.tenant s.rows ∧
      (start.Noticed resolve kept s → ∀ kept' s', Agree start.tenant s s' →
        start.Confined lib run resolve data s' → start.Noticed resolve kept' s' →
          (start.perform lib run resolve kept data s).1 =
              (start.perform lib run resolve kept' data s').1 ∧
            returned (start.perform lib run resolve kept data s).1 =
              returned (start.perform lib run resolve kept' data s').1) := by
  refine ⟨perform_others hs, fun hnoticed kept' s' hagree hs' hnoticed' => ?_⟩
  have hsame := (perform_alike hagree hs hs' hnoticed hnoticed').1
  exact ⟨hsame, congrArg returned hsame⟩

/-! ### A workflow that deletes a post -/

def demoRuntime : Runtime where
  dump := fun _ => ""
  uuid := fun _ => ""
  time := fun _ => 0

/-- A workflow of a tenant with one step, which deletes a post. -/
def demoStore (posts : List Entry) : MapStore where
  rows :=
    [⟨"Workflow", "wf", .obj [("id", .str "wf"), ("tenantId", .str "acme"), ("name", .str "tidy"),
        ("triggerEvent", .str "FormSubmission.created")]⟩,
      ⟨"WorkflowNode", "n1", .obj [("id", .str "n1"), ("tenantId", .str "acme"),
        ("workflowId", .str "wf"), ("nodeKey", .str "drop"), ("type", .str "dbal.entity.delete")]⟩,
      ⟨"WorkflowNodeParam", "q1", .obj [("id", .str "q1"), ("tenantId", .str "acme"),
        ("workflowId", .str "wf"), ("nodeId", .str "n1"), ("name", .str "entity"),
        ("value", .str "Post"), ("valueType", .str "string")]⟩,
      ⟨"WorkflowNodeParam", "q2", .obj [("id", .str "q2"), ("tenantId", .str "acme"),
        ("workflowId", .str "wf"), ("nodeId", .str "n1"), ("name", .str "id"),
        ("value", .str "p1"), ("valueType", .str "string")]⟩] ++ posts

def demoPost (tenant id : String) : Entry :=
  ⟨"Post", id, .obj [("id", .str id), ("tenantId", .str tenant)]⟩

def demoStart : Start := .named "acme" "tidy" "FormSubmission.created"

def demoWorkflow : LoadedWorkflow where
  id := "wf"
  name := "tidy"
  nodes :=
    [⟨"drop", "dbal.entity.delete", .obj [("entity", .str "Post"), ("id", .str "p1")], .obj []⟩]

/-- A store with a post of somebody else, and the store without it. -/
def demoShared : MapStore := demoStore [demoPost "acme" "p1", demoPost "rival" "p2"]

def demoAlone : MapStore := demoStore [demoPost "acme" "p1"]

theorem demo_load_shared :
    demoStart.load demoLibraries (.obj []) (listEntities anyEntity demoShared) =
      some demoWorkflow := rfl

theorem demo_load_alone :
    demoStart.load demoLibraries (.obj []) (listEntities anyEntity demoAlone) =
      some demoWorkflow := rfl

theorem demo_confined {s : MapStore}
    (hload : demoStart.load demoLibraries (.obj []) (listEntities anyEntity s) = some demoWorkflow)
    (hown : PicksOwn "acme" (named "Post" "p1") s.rows) :
    demoStart.Confined demoLibraries demoRuntime anyEntity (.obj []) s := by
  intro wf hwf
  obtain rfl : demoWorkflow = wf := Option.some.inj (hload.symm.trans hwf)
  refine ⟨fun call hcall => ?_, fun ctx s _ => trivial⟩
  obtain rfl : ClientCall.remove "Post" "p1" = call := Option.some.inj hcall
  intro schema hschema
  obtain rfl : ({ name := "Post" } : Adapters.EntitySchema) = schema := Option.some.inj hschema
  exact hown

/-- The post is the tenant's: the post of somebody else is as it was, and does not matter. -/
theorem tidy_stays_inside :
    let perform := demoStart.perform demoLibraries demoRuntime anyEntity {} (.obj [])
    otherRows "acme" (perform demoShared).2.rows = otherRows "acme" demoShared.rows ∧
      (perform demoShared).1 = (perform demoAlone).1 ∧
        returned (perform demoShared).1 = returned (perform demoAlone).1 := by
  have hs := demo_confined demo_load_shared (by unfold PicksOwn; decide +kernel)
  have hs' := demo_confined demo_load_alone (by unfold PicksOwn; decide +kernel)
  have hagree : Agree "acme" demoShared demoAlone := ⟨rfl, rfl⟩
  have hnoticed (s : MapStore) : demoStart.Noticed anyEntity {} s := fun _ _ _ _ _ _ _ => rfl
  obtain ⟨hothers, hsame⟩ := tenant_workflows_confined demoLibraries demoRuntime anyEntity {}
    demoStart (.obj []) demoShared hs
  exact ⟨hothers, hsame (hnoticed demoShared) {} demoAlone hagree hs' (hnoticed demoAlone)⟩

/-- The step deletes the post of another tenant. -/
theorem not_confined_delete :
    ¬ ∀ (lib : Libraries) (run : Runtime) (resolve : String → Option Adapters.EntitySchema)
      (kept : TenantEvents) (start : Start) (data : Json) (s : MapStore),
      otherRows start.tenant (start.perform lib run resolve kept data s).2.rows =
          otherRows start.tenant s.rows ∧
        ∀ s', Agree start.tenant s s' →
          (start.perform lib run resolve kept data s).1 =
              (start.perform lib run resolve kept data s').1 ∧
            returned (start.perform lib run resolve kept data s).1 =
              returned (start.perform lib run resolve kept data s').1 := by
  intro h
  have hothers := (h demoLibraries demoRuntime MapStore.anyEntity {} demoStart (.obj [])
    (demoStore [demoPost "rival" "p1"])).1
  have hlength := congrArg List.length hothers
  revert hlength
  decide +kernel

end Workflow
end Dbal
