/-
# What a bulk request asks for

Every item of a bulk request asks for one call of the adapter, or is refused before, or
is of a shape on which the handler throws.  `plan` reads this off the item;
`performs_step` says that the body of the loop does just that.
-/

import Dbal.Daemon.BulkHandler

namespace Dbal
namespace Daemon

open Route

variable {σ : Type}

/-- A call that changes rows. -/
inductive Call where
  | create (entity : String) (data : Json)
  | update (entity id : String) (data : Json)
  | remove (entity id : String)
  deriving Repr

/-- The call, with its result left out. -/
def Call.perform (A : Adapter σ) : Call → Act Thrown σ (Result Unit)
  | .create entity data => do return (← A.create entity data).map fun _ => ()
  | .update entity id data => do return (← A.update entity id data).map fun _ => ()
  | .remove entity id => do return (← A.remove entity id).map fun _ => ()

/-- A bulk or batch request. -/
inductive BulkRequest where
  | create (route : RouteInfo) (body : Json)
  | update (route : RouteInfo) (body : Json)
  | delete (route : RouteInfo) (body : Json)
  | batch (tenant : String) (body : Option Json)

namespace BulkRequest

/-- The handler of the request. -/
def handle (formatReal : Int → Int → String) (A : Adapter σ) : BulkRequest → Act Thrown σ Reply
  | .create route body => handleBulkCreate A route body
  | .update route body => handleBulkUpdate formatReal A route body
  | .delete route body => handleBulkDelete A route body
  | .batch tenant body => handleBatch A tenant body

/-- The body of the loop for the request. -/
def step (formatReal : Int → Int → String) (A : Adapter σ) :
    BulkRequest → Nat → Json → Act Thrown σ (Except Reply Json)
  | .create route _ => bulkCreateStep A route
  | .update route _ => bulkUpdateStep formatReal A route
  | .delete route _ => bulkDeleteStep A route
  | .batch tenant _ => batchStep A tenant

/-- The elements of a non-empty array. -/
def arrayItems : Json → Option (List Json)
  | .arr (item :: items) => some (item :: items)
  | _ => none

/-- The items over which the loop goes, if it is reached. -/
def items : BulkRequest → Option (List Json)
  | .create _ body | .update _ body | .delete _ body => arrayItems body
  | .batch _ body => (body.bind fun body => body.find? "operations").bind arrayItems

/-- What an item of a batch asks for. -/
def batchPlan (tenant : String) (op : Json) : Except JsonError (Option Call) :=
  match op.find? "action", op.find? "entity" with
  | some (.str action), some (.str entity) =>
      if action = "create" then
        match operationData op with
        | some data => (injectTenant tenant data).map fun data => some (.create entity data)
        | none => .ok none
      else if action = "update" then
        match operationId op, operationData op with
        | some id, some data => .ok (some (.update entity id data))
        | _, _ => .ok none
      else if action = "delete" then .ok ((operationId op).map (.remove entity))
      else .ok none
  | _, _ => .ok none

/-- What an item asks for: a call, nothing when it is refused, or an exception. -/
def plan (formatReal : Int → Int → String) : BulkRequest → Json → Except JsonError (Option Call)
  | .create route _, item =>
      (injectTenant route.tenant item).map fun data => some (.create route.entity data)
  | .update route _, item =>
      match item.find? "id", item.find? "data" with
      | some id, some data =>
          (id.asString formatReal).map fun id =>
            if id = "" then none else some (.update route.entity id data)
      | _, _ => .ok none
  | .delete route _, item =>
      match item with
      | .str id => .ok (if id = "" then none else some (.remove route.entity id))
      | _ => .ok none
  | .batch tenant _, op => batchPlan tenant op

end BulkRequest

/-- The outcome of a step follows the plan of its item: the exception, a refusal, or the
outcome of the call. -/
def Performs (A : Adapter σ) (plan : Except JsonError (Option Call)) (s : σ)
    (outcome : Except Thrown (Except Reply Json) × σ) : Prop :=
  match plan with
  | .error e => outcome = (.error (.json e), s)
  | .ok none => ∃ refusal, outcome = (.ok (.error refusal), s)
  | .ok (some call) =>
      match call.perform A s with
      | (.error e, s') => outcome = (.error e, s')
      | (.ok (.error _), s') => ∃ refusal, outcome = (.ok (.error refusal), s')
      | (.ok (.ok _), s') => ∃ result, outcome = (.ok (.ok result), s')

section

variable {A : Adapter σ} {s : σ}

theorem performs_create {entity : String} {data : Json} (refuse : Error → Reply)
    (answer : Json → Json) :
    Performs A (.ok (some (.create entity data))) s
      ((do
        match ← A.create entity data with
        | .error e => return .error (refuse e)
        | .ok row => return .ok (answer row) : Act Thrown σ (Except Reply Json)) s) := by
  simp only [Performs, Call.perform, Act.bind_apply]
  rcases A.create entity data s with ⟨_ | _ | row, s'⟩
  · rfl
  · exact ⟨_, rfl⟩
  · exact ⟨_, rfl⟩

theorem performs_update {entity id : String} {data : Json} (refuse : Error → Reply)
    (answer : Json → Json) :
    Performs A (.ok (some (.update entity id data))) s
      ((do
        match ← A.update entity id data with
        | .error e => return .error (refuse e)
        | .ok row => return .ok (answer row) : Act Thrown σ (Except Reply Json)) s) := by
  simp only [Performs, Call.perform, Act.bind_apply]
  rcases A.update entity id data s with ⟨_ | _ | row, s'⟩
  · rfl
  · exact ⟨_, rfl⟩
  · exact ⟨_, rfl⟩

theorem performs_remove {entity id : String} (refuse : Error → Reply) (answer : Json) :
    Performs A (.ok (some (.remove entity id))) s
      ((do
        match ← A.remove entity id with
        | .error e => return .error (refuse e)
        | .ok _ => return .ok answer : Act Thrown σ (Except Reply Json)) s) := by
  simp only [Performs, Call.perform, Act.bind_apply]
  rcases A.remove entity id s with ⟨_ | _ | row, s'⟩
  · rfl
  · exact ⟨_, rfl⟩
  · exact ⟨_, rfl⟩

/-- The part of a step before its call, when that cannot throw or does so by itself. -/
theorem performs_of_access {α : Type} {access : Except JsonError α} {call : α → Option Call}
    {k : α → Act Thrown σ (Except Reply Json)}
    (hk : ∀ a, Performs A (.ok (call a)) s (k a s)) :
    Performs A (access.map call) s ((Act.ofExcept (access.mapError .json) >>= k) s) := by
  cases access with
  | error e => rfl
  | ok a => exact hk a

theorem performs_refusal (refusal : Reply) :
    Performs A (.ok none) s ((pure (.error refusal) : Act Thrown σ (Except Reply Json)) s) :=
  ⟨refusal, rfl⟩

end

/-- An operation without an action and an entity is refused. -/
theorem batchStep_refuses (A : Adapter σ) (tenant : String) (n : Nat) {op : Json}
    (h : ∀ action entity : String, op.find? "action" = some (.str action) →
      op.find? "entity" = some (.str entity) → False) :
    ∃ refusal, batchStep A tenant n op = pure (.error refusal) := by
  unfold batchStep
  split
  · exact ⟨_, rfl⟩
  · split
    · next haction hentity => exact (h _ _ haction hentity).elim
    · exact ⟨_, rfl⟩
    · exact ⟨_, rfl⟩

theorem batchStep_performs (A : Adapter σ) (tenant : String) (n : Nat) (op : Json) (s : σ) :
    Performs A (BulkRequest.batchPlan tenant op) s (batchStep A tenant n op s) := by
  unfold BulkRequest.batchPlan
  split
  · next action entity haction hentity =>
      have hobj : op.isObject := by
        by_contra hobj
        rw [Json.find?_of_not_isObject hobj] at haction
        cases haction
      simp only [batchStep, hobj, haction, hentity, Bool.not_true, Bool.false_eq_true, if_false]
      split_ifs
      · unfold batchCreate
        cases operationData op with
        | none => exact performs_refusal _
        | some data => exact performs_of_access fun data => performs_create _ _
      · unfold batchUpdate
        cases operationId op <;> cases operationData op
        · exact performs_refusal _
        · exact performs_refusal _
        · exact performs_refusal _
        · exact performs_update _ _
      · unfold batchDelete
        cases operationId op with
        | none => exact performs_refusal _
        | some id => exact performs_remove _ _
      · exact performs_refusal _
  · next h =>
      obtain ⟨refusal, hrefuses⟩ := batchStep_refuses A tenant n h
      rw [hrefuses]
      exact performs_refusal _

/-- **A step does what the plan of its item says.** -/
theorem performs_step (formatReal : Int → Int → String) (A : Adapter σ) (req : BulkRequest)
    (n : Nat) (item : Json) (s : σ) :
    Performs A (req.plan formatReal item) s (req.step formatReal A n item s) := by
  cases req with
  | create route body => exact performs_of_access fun data => performs_create _ _
  | update route body =>
      simp only [BulkRequest.plan, BulkRequest.step, bulkUpdateStep]
      by_cases hobj : item.isObject
      · simp only [hobj]
        cases item.find? "id" with
        | none => exact performs_refusal _
        | some id =>
            cases item.find? "data" with
            | none => exact performs_refusal _
            | some data =>
                refine performs_of_access fun itemId => ?_
                split_ifs
                · exact performs_refusal _
                · exact performs_update _ _
      · have hid : item.find? "id" = none := Json.find?_of_not_isObject hobj _
        simp only [hobj, hid]
        exact performs_refusal _
  | delete route body =>
      simp only [BulkRequest.plan, BulkRequest.step, bulkDeleteStep]
      cases item with
      | str itemId =>
          simp only
          split_ifs
          · exact performs_refusal _
          · exact performs_remove _ _
      | _ => exact performs_refusal _
  | batch tenant body => exact batchStep_performs A tenant n item s

end Daemon
end Dbal
