/-
# Running a workflow

`src/workflow/wf_executor.cpp` (`executeNodes`), the steps of `src/workflow/steps`, and what
`WfEngine::runNamedNow` and `dispatchAsync` of `wf_engine.cpp` do with a loaded workflow.  The client
hands its calls to the adapter, so the steps call the adapter here.

What a random generator and the clock give is given from outside, node by node.
-/

import Dbal.Adapters.Adapter
import Dbal.Workflow.Context
import Dbal.Workflow.GraphLoader

namespace Dbal
namespace Workflow

open WfGraph

/-- What a step throws: it stops the workflow, or it fails. -/
inductive WfThrown where
  | stop (why : String)
  | failed (error : Thrown)
  deriving DecidableEq, Repr

/-- The JSON library's `dump`, and the draws of the generator and of the clock. -/
structure Runtime where
  dump : Json → String
  uuid : Nat → String
  time : Nat → Int

namespace Steps

variable {σ : Type} (A : Adapter σ) (run : Runtime)

/-- A step, given the position of its node, the node with its parameters resolved, and the
context. -/
abbrev Step (σ : Type) := Nat → WfNode → WfContext → Act WfThrown σ WfContext

/-- `throw std::runtime_error(..)`. -/
def fail {α : Type} (what : String) : Act WfThrown σ α := Act.throw (.failed (.adapter what))

/-- A call of the client; what it throws the step throws. -/
def calling {α : Type} (call : Act Thrown σ α) : Act WfThrown σ α := fun s =>
  ((call s).1.mapError .failed, (call s).2)

/-- The loop over `outputs` that sets the named variables. -/
def setOutputs (node : WfNode) (value : Json) (ctx : WfContext) : WfContext :=
  match node.outputs with
  | .obj members =>
      (Json.obj members).fields.toList.foldl (fun ctx (_, v) =>
        match v with
        | .str name => ctx.set name value
        | _ => ctx) ctx
  | _ => ctx

/-- A parameter that has to be a string. -/
def stringParam (type key : String) (node : WfNode) : Except WfThrown String :=
  match node.parameters.find? key with
  | some (.str s) => .ok s
  | _ => .error (.failed (.adapter (type ++ ": missing '" ++ key ++ "' parameter")))

/-- `p.value("data", nlohmann::json::object())`. -/
def dataParam (node : WfNode) : Json := (node.parameters.find? "data").getD (.obj [])

/-- The string members of the `filter` parameter. -/
def filterParam (node : WfNode) : Std.TreeMap String String :=
  match node.parameters.find? "filter" with
  | some (.obj members) =>
      .ofList ((Json.obj members).fields.toList.filterMap fun (key, value) =>
        match value with
        | .str s => some (key, s)
        | _ => none)
  | _ => ∅

/-- What a failed call makes the step throw. -/
def callFailed (type place : String) (e : Error) : String :=
  type ++ " [" ++ place ++ "]: " ++ e.message

/-- `UuidStep`. -/
def uuidStep : Step σ := fun i node ctx => pure (setOutputs node (.str (run.uuid i)) ctx)

/-- `TimestampStep`. -/
def timestampStep : Step σ := fun i node ctx => pure (setOutputs node (.int (run.time i * 1000)) ctx)

/-- `EntityCreateStep`: the id of the new row is read for the log. -/
def entityCreateStep : Step σ := fun _ node ctx => do
  let entity ← Act.ofExcept (stringParam "dbal.entity.create" "entity" node)
  match ← calling (A.create entity (dataParam node)) with
  | .error e => fail (callFailed "dbal.entity.create" entity e)
  | .ok row => do
      let _ ← Act.ofExcept ((row.valueString "id" "?").mapError fun e => .failed (.json e))
      pure (setOutputs node row ctx)

/-- The text of an id that need not be a string. -/
def idText (id : Json) : String :=
  match id with
  | .str s => s
  | value => run.dump value

/-- `EntityGetStep`. -/
def entityGetStep : Step σ := fun _ node ctx => do
  let entity ← Act.ofExcept (stringParam "dbal.entity.get" "entity" node)
  match node.parameters.find? "id" with
  | none => fail "dbal.entity.get: missing 'id' parameter"
  | some id =>
      match ← calling (A.read entity (idText run id)) with
      | .error e => fail (callFailed "dbal.entity.get" (entity ++ "/" ++ idText run id) e)
      | .ok row => pure (setOutputs node row ctx)

/-- The limit of a list; one that is a number counts. -/
def limitParam (node : WfNode) : Int :=
  match node.parameters.find? "limit" with
  | some limit => if limit.isNumber then limit.toInt else ({} : ListOptions).limit
  | none => ({} : ListOptions).limit

/-- `EntityListStep`. -/
def entityListStep : Step σ := fun _ node ctx => do
  let entity ← Act.ofExcept (stringParam "dbal.entity.list" "entity" node)
  match ← calling (A.list entity { filter := filterParam node, limit := limitParam node }) with
  | .error e => fail (callFailed "dbal.entity.list" entity e)
  | .ok found => pure (setOutputs node (.arr found.items) ctx)

/-- `EntityCountStep`. -/
def entityCountStep : Step σ := fun _ node ctx => do
  let entity ← Act.ofExcept (stringParam "dbal.entity.count" "entity" node)
  match ← calling (A.list entity { filter := filterParam node }) with
  | .error e => fail (callFailed "dbal.entity.count" entity e)
  | .ok found => pure (setOutputs node (.int found.items.length) ctx)

/-- `EntityUpdateStep`. -/
def entityUpdateStep : Step σ := fun _ node ctx => do
  let entity ← Act.ofExcept (stringParam "dbal.entity.update" "entity" node)
  let id ← Act.ofExcept (stringParam "dbal.entity.update" "id" node)
  match ← calling (A.update entity id (dataParam node)) with
  | .error e => fail (callFailed "dbal.entity.update" entity e)
  | .ok row => pure (setOutputs node row ctx)

/-- `EntityDeleteStep`. -/
def entityDeleteStep : Step σ := fun _ node ctx => do
  let entity ← Act.ofExcept (stringParam "dbal.entity.delete" "entity" node)
  let id ← Act.ofExcept (stringParam "dbal.entity.delete" "id" node)
  match ← calling (A.remove entity id) with
  | .error e => fail (callFailed "dbal.entity.delete" entity e)
  | .ok removed => pure (setOutputs node (.bool removed) ctx)

/-- `VarSetStep`: the value, which is resolved already, is resolved again. -/
def varSetStep : Step σ := fun _ node ctx => do
  let key ← Act.ofExcept (stringParam "dbal.var.set" "key" node)
  pure (ctx.set key (ctx.resolve run.dump ((node.parameters.find? "value").getD .null)))

/-- `LogStep`, without the log. -/
def logStep : Step σ := fun _ _ ctx => pure ctx

/-- `StopUnlessStep`. -/
def stopUnlessStep : Step σ := fun _ node ctx => do
  let relation ← Act.ofExcept
    ((node.parameters.valueString "is" "not empty").mapError fun e => .failed (.json e))
  if compareHolds run.dump relation ((node.parameters.find? "value").getD .null)
      ((node.parameters.find? "other").getD .null) then pure ctx
  else Act.throw (.stop ("condition '" ++ relation ++ "' did not hold"))

/-- `PageEffectStep`. -/
def pageEffectStep (type : String) (required : List String) : Step σ := fun _ node ctx =>
  match required.find? fun name => !node.parameters.contains name with
  | some name => fail (type ++ ": missing '" ++ name ++ "' parameter")
  | none =>
      pure (ctx.set effectsVar
        (appendEffect (ctx.get effectsVar) (node.parameters.set "do" (.str type))))

def pageTextStep : Step σ := pageEffectStep "page.text" ["target", "text"]
def pageShowStep : Step σ := pageEffectStep "page.show" ["target"]
def pageHideStep : Step σ := pageEffectStep "page.hide" ["target"]
def pageClassStep : Step σ := pageEffectStep "page.class" ["target", "class"]
def pageMessageStep : Step σ := pageEffectStep "page.message" ["text"]
def pageGoStep : Step σ := pageEffectStep "page.go" ["path"]

/-- The steps that the constructor of `WfEngine` registers, by their type. -/
def registered (type : String) : Option (Step σ) :=
  match type with
  | "dbal.uuid" => some (uuidStep run)
  | "dbal.timestamp" => some (timestampStep run)
  | "dbal.entity.create" => some (entityCreateStep A)
  | "dbal.entity.get" => some (entityGetStep A run)
  | "dbal.entity.list" => some (entityListStep A)
  | "dbal.var.set" => some (varSetStep run)
  | "dbal.log" => some logStep
  | "dbal.entity.update" => some (entityUpdateStep A)
  | "dbal.entity.delete" => some (entityDeleteStep A)
  | "dbal.entity.count" => some (entityCountStep A)
  | "dbal.stop.unless" => some (stopUnlessStep run)
  | "page.text" => some pageTextStep
  | "page.show" => some pageShowStep
  | "page.hide" => some pageHideStep
  | "page.class" => some pageClassStep
  | "page.message" => some pageMessageStep
  | "page.go" => some pageGoStep
  | _ => none

end Steps

section

variable {σ : Type} (A : Adapter σ) (run : Runtime)

/-- The node with its parameters resolved. -/
def resolved (ctx : WfContext) (node : WfNode) : WfNode :=
  { node with parameters := ctx.resolve run.dump node.parameters }

/-- One round of the loop: a step that is not registered is skipped. -/
def executeNode (i : Nat) (node : WfNode) (ctx : WfContext) : Act WfThrown σ WfContext :=
  match Steps.registered A run node.type with
  | none => pure ctx
  | some step => step i (resolved run ctx node) ctx

/-- `executeNodes`, from the `i`-th node on: a step may stop the workflow, which is no failure. -/
def executeNodes : Nat → List WfNode → WfContext → Act Thrown σ WfContext
  | _, [], ctx => pure ctx
  | i, node :: nodes, ctx => fun s =>
      match executeNode A run i node ctx s with
      | (.ok ctx', s') => executeNodes (i + 1) nodes ctx' s'
      | (.error (.stop _), s') => (.ok ctx, s')
      | (.error (.failed e), s') => (.error e, s')

/-! The three ways in which a round goes. -/

section

variable {A run} {i : Nat} {node : WfNode} (nodes : List WfNode) {ctx ctx' : WfContext}
  {s s' : σ}

theorem executeNodes_next (h : executeNode A run i node ctx s = (.ok ctx', s')) :
    executeNodes A run i (node :: nodes) ctx s = executeNodes A run (i + 1) nodes ctx' s' := by
  simp only [executeNodes, h]

theorem executeNodes_stop {why : String}
    (h : executeNode A run i node ctx s = (.error (.stop why), s')) :
    executeNodes A run i (node :: nodes) ctx s = (.ok ctx, s') := by
  simp only [executeNodes, h]

theorem executeNodes_failed {e : Thrown}
    (h : executeNode A run i node ctx s = (.error (.failed e), s')) :
    executeNodes A run i (node :: nodes) ctx s = (.error e, s') := by
  simp only [executeNodes, h]

end

/-- A loaded workflow runs on the data of an event, as `runNamedNow` and `dispatchAsync` run it. -/
def runWorkflow (nodes : List WfNode) (event : Json) : Act Thrown σ WfContext :=
  executeNodes A run 0 nodes (WfContext.set {} "event" event)

/-- The effects that `runNamedNow` returns; a failed workflow has none. -/
def effects : Except Thrown WfContext → Json
  | .error _ => .arr []
  | .ok ctx =>
      match ctx.get effectsVar with
      | .arr effects => .arr effects
      | _ => .arr []

end

end Workflow
end Dbal
