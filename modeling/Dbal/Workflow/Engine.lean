/-
# The engine for the workflows of a tenant

`src/workflow/wf_graph_loader.cpp` (`loadTenantWorkflow`, `loadTenantWorkflowNamed`), `bestForForm`
of `wf_graph_order.cpp`, and `refreshTenantEvents`, `hasEvent`, `runNamedNow` and the tenant's part
of `dispatchAsync` in `wf_engine.cpp`: a workflow is found by the tenant and its trigger, built from
its rows, and run on the data of the event.  Whether an event has a workflow at all the engine looks
up first, in what it keeps of a listing of the workflows of all tenants.

The engine works on the ideal store, whose listings neither throw nor change anything.
-/

import Dbal.Store.MapStore
import Dbal.Workflow.Executor

namespace Dbal
namespace WfGraph

/-! ### Finding the workflow -/

/-- `formNameOf`, which the engine calls `formOf`. -/
def formNameOf (row : Json) : String := row.textAt "formName" ""

/-- `isDraft`. -/
def isDraft (row : Json) : Bool :=
  match row.find? "isPublished" with
  | some (.bool published) => !published
  | _ => false

/-- `firstPublished`: the first row that is no draft, or null. -/
def firstPublished (rows : List Json) : Json := (rows.find? fun row => !isDraft row).getD .null

/-- `bestForForm`: a row that names the form, or else the first that names none. -/
def bestForForm (form : String) (anyForm : Json) : List Json → Json
  | [] => anyForm
  | row :: rows =>
      let wants := formNameOf row
      if isDraft row then bestForForm form anyForm rows
      else if wants ≠ "" ∧ wants = form then row
      else if wants = "" ∧ anyForm.isNull then bestForForm form row rows
      else bestForForm form anyForm rows

/-- What is picked is one of the rows that is no draft, or the row from before. -/
theorem bestForForm_mem (form : String) (anyForm : Json) (rows : List Json) :
    bestForForm form anyForm rows = anyForm ∨
      bestForForm form anyForm rows ∈ rows ∧ isDraft (bestForForm form anyForm rows) = false := by
  induction rows generalizing anyForm with
  | nil => exact Or.inl rfl
  | cons row rows ih =>
      have hlater (before : Json) (h : bestForForm form before rows = before ∨
          bestForForm form before rows ∈ rows ∧ isDraft (bestForForm form before rows) = false) :
          bestForForm form before rows = before ∨ bestForForm form before rows ∈ row :: rows ∧
            isDraft (bestForForm form before rows) = false :=
        h.imp_right (And.imp_left (List.mem_cons_of_mem row))
      unfold bestForForm
      dsimp only
      split_ifs with hdraft hwants hopen
      · exact hlater anyForm (ih anyForm)
      · exact Or.inr ⟨List.mem_cons_self, Bool.eq_false_iff.2 hdraft⟩
      · rcases hlater row (ih row) with heq | hmem
        · rw [heq]
          exact Or.inr ⟨List.mem_cons_self, Bool.eq_false_iff.2 hdraft⟩
        · exact Or.inr hmem
      · exact hlater anyForm (ih anyForm)

namespace Libraries

variable (lib : Libraries)

/-- `loadTenantWorkflow`. -/
def loadTenantWorkflow (tenant triggerEvent form : String) (listEntities : ListEntities) :
    Option LoadedWorkflow :=
  let opts : ListOptions :=
    { filter := .ofList [("tenantId", tenant), ("triggerEvent", triggerEvent)], limit := 100 }
  match listEntities "Workflow" opts with
  | .error _ => none
  | .ok items => lib.buildWorkflow listEntities tenant (bestForForm form .null items)

/-- The loop over the columns that a name may stand in. -/
def loadByColumn (tenant named triggerEvent : String) (listEntities : ListEntities) :
    List String → Option LoadedWorkflow
  | [] => none
  | column :: columns =>
      let opts : ListOptions :=
        { filter := .ofList [("tenantId", tenant), (column, named), ("triggerEvent", triggerEvent)]
          limit := 10 }
      match listEntities "Workflow" opts with
      | .error _ => loadByColumn tenant named triggerEvent listEntities columns
      | .ok items =>
          if (firstPublished items).isNull then
            loadByColumn tenant named triggerEvent listEntities columns
          else lib.buildWorkflow listEntities tenant (firstPublished items)

/-- `loadTenantWorkflowNamed`. -/
def loadTenantWorkflowNamed (tenant named triggerEvent : String) (listEntities : ListEntities) :
    Option LoadedWorkflow :=
  lib.loadByColumn tenant named triggerEvent listEntities ["id", "name"]

end Libraries
end WfGraph

namespace Workflow

open WfGraph

/-! ### Running it -/

/-- `splitEvent`: the tenant and the trigger, both empty for a name that is not qualified. -/
def splitEvent (eventName : String) : String × String :=
  let tenant := eventName.toList.takeWhile (· ≠ '.')
  let trigger := (eventName.toList.dropWhile (· ≠ '.')).drop 1
  if tenant = [] ∨ trigger = [] then ("", "") else (.ofList tenant, .ofList trigger)

/-- What the engine keeps of a listing of workflows: the events with a tenant's workflow, and the
tenants with any. -/
structure TenantEvents where
  events : List String := []
  tenants : List String := []

namespace TenantEvents

/-- The loop of `refreshTenantEvents`, for one row. -/
def add (kept : TenantEvents) (row : Json) : TenantEvents :=
  if isDraft row then kept
  else
    let owner := row.textAt "tenantId" ""
    let tenant := if owner = "" then "system" else owner
    let trigger := row.textAt "triggerEvent" ""
    { events := if trigger = "" then kept.events else (tenant ++ "." ++ trigger) :: kept.events
      tenants := tenant :: kept.tenants }

/-- One page of the workflows of all tenants; where it is refused there are none. -/
def ofListing (listEntities : ListEntities) : TenantEvents :=
  match listEntities "Workflow" { limit := 2000 } with
  | .ok items => items.foldl add {}
  | .error _ => {}

/-- `hasEvent`, once they are refreshed, for an event that no file has a workflow for. -/
def hasEvent (kept : TenantEvents) (eventName : String) : Bool :=
  let tenant := (splitEvent eventName).1
  kept.events.contains eventName || (tenant ≠ "" && kept.tenants.contains tenant)

end TenantEvents

/-- The members of `WfEngine` that a listing is kept in. -/
structure WfEngine where
  tenantEvents : TenantEvents := {}
  tenantEventsLoaded : Bool := false
  tenantEventsAt : Int := 0

namespace WfEngine

/-- `invalidateTenantEvents`. -/
def invalidateTenantEvents (engine : WfEngine) : WfEngine :=
  { engine with tenantEventsLoaded := false }

/-- `kTenantEventsTtl`, in nanoseconds. -/
def tenantEventsTtl : Int := 30 * 10 ^ 9

/-- `refreshTenantEvents`: what was listed a short time ago is trusted.  The clock shows `now`, and
`later` once the listing is there. -/
def refreshTenantEvents (engine : WfEngine) (listEntities : ListEntities) (now later : Int) :
    WfEngine :=
  if engine.tenantEventsLoaded ∧ now - engine.tenantEventsAt < tenantEventsTtl then engine
  else
    { tenantEvents := .ofListing listEntities, tenantEventsLoaded := true
      tenantEventsAt := later }

end WfEngine

/-- What starts a workflow of a tenant: a request that names it, or a row that was written. -/
inductive Start where
  | named (tenant named triggerEvent : String)
  | written (eventName : String)

section

variable (lib : Libraries) (run : Runtime) (resolve : String → Option Adapters.EntitySchema)

/-- The tenant whose workflow it is. -/
def Start.tenant : Start → String
  | .named tenant _ _ => tenant
  | .written eventName => (splitEvent eventName).1

/-- The workflow that is run.  A row that was written may name it, in place of what its trigger
subscribes to. -/
def Start.load (start : Start) (data : Json) : ListEntities → Option LoadedWorkflow :=
  match start with
  | .named tenant name triggerEvent => lib.loadTenantWorkflowNamed tenant name triggerEvent
  | .written eventName =>
      let (tenant, trigger) := splitEvent eventName
      if data.textAt "workflow" "" = "" then
        lib.loadTenantWorkflow tenant trigger (formNameOf data)
      else lib.loadTenantWorkflowNamed tenant (data.textAt "workflow" "") trigger

/-- Whether it is looked for at all.  For a row that was written, the engine must have a workflow of
the tenant or for the event among those that it keeps. -/
def Start.letThrough (kept : TenantEvents) : Start → Bool
  | .named _ _ _ => true
  | .written eventName => kept.hasEvent eventName

/-- What the client lists. -/
def listEntities (s : MapStore) : ListEntities := fun name opts =>
  match ((MapStore.adapter resolve).list name opts s).1 with
  | .ok result => result.map ListResult.items
  | .error _ => .error (Error.internal "")

/-- The workflow is loaded and run, by an engine that keeps these events: the final context, if there
was a workflow, and the store. -/
def Start.perform (kept : TenantEvents) (start : Start) (data : Json) (s : MapStore) :
    Option (Except Thrown WfContext) × MapStore :=
  if start.letThrough kept then
    match start.load lib data (listEntities resolve s) with
    | none => (none, s)
    | some wf =>
        let ran := runWorkflow (MapStore.adapter resolve) run wf.nodes data s
        (some ran.1, ran.2)
  else (none, s)

/-- The effects of a workflow; where none was found there are none. -/
def returned (result : Option (Except Thrown WfContext)) : Json :=
  (result.map effects).getD (.arr [])

/-- `runNamedNow`: the effects go back to the page.  It does not ask for the events. -/
def runNamedNow (tenant named triggerEvent : String) (data : Json) (s : MapStore) :
    Json × MapStore :=
  let ran := (Start.named tenant named triggerEvent).perform lib run resolve {} data s
  (returned ran.1, ran.2)

/-- `dispatchAsync`, for an event that no file has a workflow for: the engine and the store after
its thread. -/
def dispatchAsync (engine : WfEngine) (now later : Int) (eventName : String) (data : Json)
    (s : MapStore) : WfEngine × MapStore :=
  let engine := engine.refreshTenantEvents (listEntities resolve s) now later
  (engine, ((Start.written eventName).perform lib run resolve engine.tenantEvents data s).2)

end

/-- The tenant is what stands before the first dot. -/
example : splitEvent "acme.Booking.created" = ("acme", "Booking.created") := by decide

end Workflow
end Dbal
