/-
# Workflow operations

`src/entities/workflow/crud/`: the operations that write, and what they do to the
workflows and their names.
-/

import Dbal.Store.Table

namespace Dbal

/-- `CreateWorkflowInput`. -/
structure CreateWorkflowInput where
  tenantId : Option String := none
  name : String
  description : Option String := none
  enabled : Bool
  version : Int := 1
  createdAt : Option Int := none
  updatedAt : Option Int := none
  createdBy : Option String := none

/-- `UpdateWorkflowInput`. -/
structure UpdateWorkflowInput where
  tenantId : Option String := none
  name : Option String := none
  description : Option String := none
  enabled : Option Bool := none
  version : Option Int := none
  createdAt : Option Int := none
  updatedAt : Option Int := none
  createdBy : Option String := none

namespace Validation

def isValidWorkflowName (name : String) : Bool := name ≠ "" && name.utf8ByteSize ≤ 255

end Validation

namespace InMemoryStore

/-- A write through the reference to the workflow at `id`. -/
def setWorkflow (store : InMemoryStore) (id : String) (workflow : Workflow) : InMemoryStore :=
  { store with workflows := store.workflows.insert id workflow }

/-- The workflows, their names and their ids. -/
def WorkflowTable (store : InMemoryStore) : Prop :=
  Table "workflow" store.workflowCounter store.workflowNames store.workflows Workflow.name

/-- The two stores differ in their workflows only, in their names and in their counter. -/
def OnlyWorkflows (s s' : InMemoryStore) : Prop :=
  s' = { s with
    workflows := s'.workflows
    workflowNames := s'.workflowNames
    workflowCounter := s'.workflowCounter }

end InMemoryStore

namespace Workflow

/-- `workflow::create`, at the time `now`. -/
def create (store : InMemoryStore) (now : Int) (input : CreateWorkflowInput) :
    Option (Result Workflow × InMemoryStore) :=
  if !Validation.isValidWorkflowName input.name then
    some (.error (.validationError "Workflow name must be 1-255 characters"), store)
  else if store.workflowNames.contains input.name then
    some (.error (.conflict ("Workflow name already exists: " ++ input.name)), store)
  else
    match increment store.workflowCounter with
    | none => none
    | some counter =>
        let workflow : Workflow :=
          { id := generateId "workflow" counter, tenantId := input.tenantId, name := input.name,
            description := input.description, enabled := input.enabled, version := input.version,
            createdAt := input.createdAt.getD now, updatedAt := input.updatedAt,
            createdBy := input.createdBy }
        some (.ok workflow, { store with
          workflowCounter := counter
          workflows := store.workflows.insert workflow.id workflow
          workflowNames := store.workflowNames.insert workflow.name workflow.id })

/-- The name, the first field that `update` writes and the only one that it checks. -/
def updateName (store : InMemoryStore) (id : String) (workflow : Workflow) :
    Option String → Result (Workflow × InMemoryStore)
  | none => .ok (workflow, store)
  | some name =>
      if !Validation.isValidWorkflowName name then
        .error (.validationError "Workflow name must be 1-255 characters")
      else if (store.workflowNames[name]?).any (· ≠ id) then
        .error (.conflict ("Workflow name already exists: " ++ name))
      else
        let store := { store with
          workflowNames := (store.workflowNames.erase workflow.name).insert name id }
        .ok ({ workflow with name }, store.setWorkflow id { workflow with name })

/-- The other fields. -/
def setFields (input : UpdateWorkflowInput) (workflow : Workflow) : Workflow :=
  { workflow with
    description := input.description.or workflow.description
    enabled := input.enabled.getD workflow.enabled
    version := input.version.getD workflow.version
    createdBy := input.createdBy.or workflow.createdBy
    createdAt := input.createdAt.getD workflow.createdAt
    updatedAt := input.updatedAt.or workflow.updatedAt
    tenantId := input.tenantId.or workflow.tenantId }

/-- `workflow::update`. -/
def update (store : InMemoryStore) (id : String) (input : UpdateWorkflowInput) :
    Result Workflow × InMemoryStore :=
  if id = "" then (.error (.validationError "Workflow ID cannot be empty"), store)
  else
    match store.workflows[id]? with
    | none => (.error (.notFound ("Workflow not found: " ++ id)), store)
    | some workflow =>
        match updateName store id workflow input.name with
        | .error e => (.error e, store)
        | .ok (workflow, store) =>
            (.ok (setFields input workflow), store.setWorkflow id (setFields input workflow))

/-- `workflow::remove`. -/
def remove (store : InMemoryStore) (id : String) : Result Bool × InMemoryStore :=
  if id = "" then (.error (.validationError "Workflow ID cannot be empty"), store)
  else
    match store.workflows[id]? with
    | none => (.error (.notFound ("Workflow not found: " ++ id)), store)
    | some workflow =>
        (.ok true, { store with
          workflowNames := store.workflowNames.erase workflow.name
          workflows := store.workflows.erase id })

end Workflow

/-! ### The names -/

namespace InMemoryStore

variable {s s' : InMemoryStore} {id : String}

theorem WorkflowTable.create (h : s.WorkflowTable) {now : Int} {input : CreateWorkflowInput}
    {r : Result Workflow} (hrun : Workflow.create s now input = some (r, s')) :
    s'.WorkflowTable ∧ OnlyWorkflows s s' := by
  unfold Workflow.create at hrun
  split_ifs at hrun with hname htaken
  · exact (Prod.mk.inj (Option.some.inj hrun)).2 ▸ ⟨h, rfl⟩
  · exact (Prod.mk.inj (Option.some.inj hrun)).2 ▸ ⟨h, rfl⟩
  · unfold increment at hrun
    split_ifs at hrun
    obtain ⟨-, rfl⟩ := Prod.mk.inj (Option.some.inj hrun)
    exact ⟨Table.insert h (by simpa using htaken), rfl⟩

/-- What `updateName` leaves: the workflow with its new name, in the store and in its index. -/
theorem WorkflowTable.updateName (h : s.WorkflowTable) {workflow workflow' : Workflow}
    {name : Option String} (hworkflow : s.workflows[id]? = some workflow)
    (hok : Workflow.updateName s id workflow name = .ok (workflow', s')) :
    s'.WorkflowTable ∧ s'.workflows[id]? = some workflow' ∧ OnlyWorkflows s s' := by
  cases name with
  | none =>
      obtain ⟨rfl, rfl⟩ := Prod.mk.inj (Except.ok.inj hok)
      exact ⟨h, hworkflow, rfl⟩
  | some name =>
      rw [Workflow.updateName] at hok
      split_ifs at hok with hvalid htaken
      obtain ⟨rfl, rfl⟩ := Prod.mk.inj (Except.ok.inj hok)
      refine ⟨?_, by simp [setWorkflow], rfl⟩
      exact Table.rename (t := { workflow with name := name }) h hworkflow htaken

theorem WorkflowTable.update (h : s.WorkflowTable) (id : String) (input : UpdateWorkflowInput) :
    (Workflow.update s id input).2.WorkflowTable ∧
      OnlyWorkflows s (Workflow.update s id input).2 := by
  unfold Workflow.update
  split_ifs
  · exact ⟨h, rfl⟩
  · rcases hworkflow : s.workflows[id]? with _ | workflow
    · exact ⟨h, rfl⟩
    · rcases hname : Workflow.updateName s id workflow input.name with e | ⟨workflow', s'⟩
      · simp only [hname]
        exact ⟨h, rfl⟩
      · obtain ⟨htable, hworkflow', honly⟩ := h.updateName hworkflow hname
        simp only [hname]
        refine ⟨Table.setFields htable hworkflow' rfl, ?_⟩
        unfold OnlyWorkflows InMemoryStore.setWorkflow
        rw [honly]

theorem WorkflowTable.remove (h : s.WorkflowTable) (id : String) :
    (Workflow.remove s id).2.WorkflowTable ∧ OnlyWorkflows s (Workflow.remove s id).2 := by
  unfold Workflow.remove
  split_ifs
  · exact ⟨h, rfl⟩
  · rcases hworkflow : s.workflows[id]? with _ | workflow
    · exact ⟨h, rfl⟩
    · exact ⟨Table.erase h hworkflow, rfl⟩

end InMemoryStore
end Dbal
