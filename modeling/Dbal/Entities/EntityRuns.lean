/-
# Runs of the entity operations

All operations of `src/entities/` that write to the in-memory store, in any order, with
any arguments, whether they succeed or fail.  `unique_indexes` is what holds of the reverse
indexes in every store that such a run reaches.

Nothing in memory creates users, so a run starts with any users and with nothing else.
-/

import Dbal.Entities.ComponentRuns
import Dbal.Entities.Package
import Dbal.Entities.Page
import Dbal.Entities.Session
import Dbal.Entities.Workflow

namespace Dbal

/-! ### First logins -/

namespace Credential

/-- `credential::setFirstLogin`: the first user with the name, in the order of the ids. -/
def setFirstLogin (store : InMemoryStore) (username : String) (flag : Bool) :
    Result Bool × InMemoryStore :=
  if username = "" then (.error (.validationError "username is required"), store)
  else
    match store.users.toList.find? fun (_, user) => user.username = username with
    | none => (.error (.notFound ("User not found: " ++ username)), store)
    | some (id, user) =>
        (.ok true, { store with users := store.users.insert id { user with firstLogin := some flag } })

end Credential

/-! ### Operations -/

/-- The operations that create, update, move or delete one component, page or session. -/
inductive CrudOp where
  | createComponent (input : CreateComponentNodeInput)
  | updateComponent (id : String) (input : UpdateComponentNodeInput)
  | moveComponent (input : MoveComponentInput)
  | removeComponent (id : String)
  | createPage (now : Int) (input : CreatePageInput)
  | updatePage (id : String) (input : UpdatePageInput)
  | removePage (id : String)
  | createSession (now : Int) (input : CreateSessionInput)
  | updateSession (id : String) (input : UpdateSessionInput)
  | removeSession (id : String)

/-- One operation on the store. -/
inductive EntityOp where
  | crud (op : CrudOp)
  | reorderComponents (updates : List ComponentOrderUpdate)
  | createWorkflow (now : Int) (input : CreateWorkflowInput)
  | updateWorkflow (id : String) (input : UpdateWorkflowInput)
  | removeWorkflow (id : String)
  | getSession (now : Int) (id : String)
  | getSessionByToken (now : Int) (token : String)
  | cleanExpired (now : Int)
  | createPackage (now : Int) (input : CreatePackageInput)
  | updatePackage (id : String) (input : UpdatePackageInput)
  | removePackage (id : String)
  | batchCreatePackages (now : Int) (inputs : List CreatePackageInput)
  | batchUpdatePackages (updates : List UpdatePackageBatchItem)
  | batchDeletePackages (ids : List String)
  | setFirstLogin (username : String) (flag : Bool)

/-- The outcome of an operation without the record that it answers with. -/
def outcome {α : Type} (r : Result α × InMemoryStore) : Result Unit × InMemoryStore :=
  (r.1.map fun _ => (), r.2)

@[simp] theorem outcome_snd {α : Type} (r : Result α × InMemoryStore) : (outcome r).2 = r.2 := rfl

/-- One operation, with a bound on the depth of the recursions over components. -/
def CrudOp.exec (fuel : Nat) (store : InMemoryStore) : CrudOp → Option (Result Unit × InMemoryStore)
  | .createComponent input => (Component.create store input).map outcome
  | .updateComponent id input => (Component.update fuel store id input).map outcome
  | .moveComponent input => (Component.move fuel store input).map outcome
  | .removeComponent id => (Component.remove fuel store id).map outcome
  | .createPage now input => (Page.create store now input).map outcome
  | .updatePage id input => some (outcome (Page.update store id input))
  | .removePage id => some (outcome (Page.remove store id))
  | .createSession now input => (Session.create store now input).map outcome
  | .updateSession id input => some (outcome (Session.update store id input))
  | .removeSession id => some (outcome (Session.remove store id))

namespace EntityOp

/-- One operation, with a bound on the depth of the recursions over components. -/
def exec (fuel : Nat) (store : InMemoryStore) : EntityOp → Option (Result Unit × InMemoryStore)
  | .crud op => op.exec fuel store
  | .reorderComponents updates => some (outcome (Component.reorder store updates))
  | .createWorkflow now input => (Workflow.create store now input).map outcome
  | .updateWorkflow id input => some (outcome (Workflow.update store id input))
  | .removeWorkflow id => some (outcome (Workflow.remove store id))
  | .getSession now id => some (outcome (Session.get store now id))
  | .getSessionByToken now token => some (outcome (Session.getByToken store now token))
  | .cleanExpired now => some (outcome (Session.cleanExpired store now))
  | .createPackage now input => some (outcome (Package.create store now input))
  | .updatePackage id input => some (outcome (Package.update store id input))
  | .removePackage id => some (outcome (Package.remove store id))
  | .batchCreatePackages now inputs => some (outcome (Package.batchCreate store now inputs))
  | .batchUpdatePackages updates => some (outcome (Package.batchUpdate store updates))
  | .batchDeletePackages ids => some (outcome (Package.batchDelete store ids))
  | .setFirstLogin username flag => some (outcome (Credential.setFirstLogin store username flag))

/-- The stores at the ends of runs from a store with users only. -/
inductive Reachable : InMemoryStore → Prop where
  | start (users : Std.TreeMap String User) : Reachable { users }
  | step {store store' : InMemoryStore} {fuel : Nat} {op : EntityOp} {r : Result Unit} :
      Reachable store → op.exec fuel store = some (r, store') → Reachable store'

/-- A finite sequence of operations. -/
def runOps (fuel : Nat) : InMemoryStore → List EntityOp → Option InMemoryStore
  | store, [] => some store
  | store, op :: ops =>
      match op.exec fuel store with
      | none => none
      | some (_, store') => runOps fuel store' ops

end EntityOp

/-! ### What the component operations leave alone -/

namespace Component

variable {s s' : InMemoryStore} {fuel : Nat} {r : Result ComponentNode}

/-- The first field that `update` writes. -/
def setType (input : UpdateComponentNodeInput) (component : ComponentNode) : ComponentNode :=
  { component with type := input.type.getD component.type }

/-- The fields that `update` writes before it looks at the parent. -/
def setOrder (input : UpdateComponentNodeInput) (component : ComponentNode) : ComponentNode :=
  { component with
    order := input.order.getD component.order
    childIds := input.childIds.getD component.childIds }

/-- The type is one that the checks refuse. -/
def badType (input : UpdateComponentNodeInput) : Bool :=
  input.type.any fun type => !Validation.isValidComponentType type

/-- The order is one that the checks refuse. -/
def badOrder (input : UpdateComponentNodeInput) : Bool :=
  input.order.any fun order => !Validation.isValidComponentOrder order

/-- **The exits of `update`.**  The order and the parent are refused after a write. -/
theorem update_cases {id : String} {input : UpdateComponentNodeInput}
    (hrun : update fuel s id input = some (r, s')) :
    (∃ e, r = .error e ∧ s' = s) ∨
    ∃ c, s.components[id]? = some c ∧ ¬ badType input ∧
      ((badOrder input ∧ ∃ e, r = .error e ∧ s' = s.setComponent id (setType input c)) ∨
        (¬ badOrder input ∧
          updateParent fuel
            ((s.setComponent id (setType input c)).setComponent id (setOrder input (setType input c)))
            (setOrder input (setType input c)) id input.parentId = some (r, s'))) := by
  by_cases hid : id = ""
  · rw [update, if_pos hid] at hrun
    obtain ⟨rfl, rfl⟩ := Prod.mk.inj (Option.some.inj hrun)
    exact Or.inl ⟨_, rfl, rfl⟩
  rcases hc : s.components[id]? with _ | c
  · simp only [update, if_neg hid, hc] at hrun
    obtain ⟨rfl, rfl⟩ := Prod.mk.inj (Option.some.inj hrun)
    exact Or.inl ⟨_, rfl, rfl⟩
  by_cases htype : badType input
  · have htype' : input.type.any (!Validation.isValidComponentType ·) = true := htype
    simp only [update, if_neg hid, hc, if_pos htype'] at hrun
    obtain ⟨rfl, rfl⟩ := Prod.mk.inj (Option.some.inj hrun)
    exact Or.inl ⟨_, rfl, rfl⟩
  refine Or.inr ⟨c, rfl, htype, ?_⟩
  have htype' : ¬ input.type.any (!Validation.isValidComponentType ·) = true := htype
  by_cases horder : badOrder input
  · have horder' : input.order.any (!Validation.isValidComponentOrder ·) = true := horder
    simp only [update, if_neg hid, hc, if_neg htype', if_pos horder'] at hrun
    obtain ⟨rfl, rfl⟩ := Prod.mk.inj (Option.some.inj hrun)
    exact Or.inl ⟨horder, _, rfl, rfl⟩
  · have horder' : ¬ input.order.any (!Validation.isValidComponentOrder ·) = true := horder
    simp only [update, if_neg hid, hc, if_neg htype', if_neg horder'] at hrun
    exact Or.inr ⟨horder, hrun⟩

/-- The exits of `move`: an error comes before every write. -/
theorem move_cases {input : MoveComponentInput} (hrun : move fuel s input = some (r, s')) :
    (∃ e, r = .error e ∧ s' = s) ∨
    (∃ c, s.components[input.id]? = some c ∧
      r = .ok { c with parentId := none, order := input.order } ∧
      s' = (s.leaveParent c.parentId c.id).setComponent input.id
        { c with parentId := none, order := input.order }) ∨
    ∃ c p, s.components[input.id]? = some c ∧
      r = .ok { c with parentId := some p, order := input.order } ∧
      s' = (reparent s input.id c.id c p).2.setComponent input.id
        { c with parentId := some p, order := input.order } := by
  by_cases hid : input.id = ""
  · rw [move, if_pos hid] at hrun
    obtain ⟨rfl, rfl⟩ := Prod.mk.inj (Option.some.inj hrun)
    exact Or.inl ⟨_, rfl, rfl⟩
  by_cases horder : input.order < 0
  · rw [move, if_neg hid, if_pos horder] at hrun
    obtain ⟨rfl, rfl⟩ := Prod.mk.inj (Option.some.inj hrun)
    exact Or.inl ⟨_, rfl, rfl⟩
  rcases hc : s.components[input.id]? with _ | c
  · simp only [move, if_neg hid, if_neg horder, hc] at hrun
    obtain ⟨rfl, rfl⟩ := Prod.mk.inj (Option.some.inj hrun)
    exact Or.inl ⟨_, rfl, rfl⟩
  simp only [move, if_neg hid, if_neg horder, hc] at hrun
  split_ifs at hrun with hself hroot
  · obtain ⟨rfl, rfl⟩ := Prod.mk.inj (Option.some.inj hrun)
    exact Or.inl ⟨_, rfl, rfl⟩
  · obtain ⟨rfl, rfl⟩ := Prod.mk.inj (Option.some.inj hrun)
    exact Or.inr (Or.inl ⟨c, rfl, rfl, rfl⟩)
  rcases hp : s.components[input.newParentId]? with _ | parent
  · simp only [hp] at hrun
    obtain ⟨rfl, rfl⟩ := Prod.mk.inj (Option.some.inj hrun)
    exact Or.inl ⟨_, rfl, rfl⟩
  simp only [hp] at hrun
  split_ifs at hrun with hpage
  · obtain ⟨rfl, rfl⟩ := Prod.mk.inj (Option.some.inj hrun)
    exact Or.inl ⟨_, rfl, rfl⟩
  rcases hdesc : s.hasDescendant fuel c.id input.newParentId with _ | _ | _ <;>
    simp only [hdesc, reduceCtorEq] at hrun
  · obtain ⟨rfl, rfl⟩ := Prod.mk.inj (Option.some.inj hrun)
    exact Or.inr (Or.inr ⟨c, input.newParentId, rfl, rfl, rfl⟩)
  · obtain ⟨rfl, rfl⟩ := Prod.mk.inj (Option.some.inj hrun)
    exact Or.inl ⟨_, rfl, rfl⟩

end Component

namespace InMemoryStore

variable {s s' s'' : InMemoryStore}

/-- The two stores differ in their components only, in the two indexes and in the counter. -/
def OnlyComponents (s s' : InMemoryStore) : Prop :=
  s' = { s with
    components := s'.components
    componentsByPage := s'.componentsByPage
    componentsByParent := s'.componentsByParent
    componentCounter := s'.componentCounter }

theorem OnlyComponents.refl (s : InMemoryStore) : OnlyComponents s s := rfl

theorem OnlyComponents.trans (h : OnlyComponents s s') (h' : OnlyComponents s' s'') :
    OnlyComponents s s'' := by
  unfold OnlyComponents at *
  rw [h', h]

theorem leaveParent_only (s : InMemoryStore) (parentId : Option String) (id : String) :
    OnlyComponents s (s.leaveParent parentId id) := by
  cases parentId <;> rfl

theorem eraseComponent_only (s : InMemoryStore) (id : String) (component : ComponentNode) :
    OnlyComponents s (s.eraseComponent id component) := by
  have hleave := leaveParent_only s component.parentId id
  exact hleave.trans rfl

theorem forChildren_only {f : InMemoryStore → String → Option InMemoryStore}
    (hf : ∀ s id s', f s id = some s' → OnlyComponents s s') (children : List String)
    (hrun : forChildren f s children = some s') : OnlyComponents s s' := by
  induction children generalizing s with
  | nil =>
      obtain rfl := Option.some.inj hrun
      exact .refl s
  | cons c cs ih =>
      rw [forChildren] at hrun
      rcases hc : f s c with _ | s''
      · rw [hc] at hrun
        cases hrun
      · rw [hc] at hrun
        exact (hf s c s'' hc).trans (ih hrun)

theorem cascadeDeleteComponent_only (fuel : Nat) {id : String}
    (hrun : cascadeDeleteComponent fuel s id = some s') : OnlyComponents s s' := by
  induction fuel generalizing s s' id with
  | zero => cases hrun
  | succ fuel ih =>
      rw [cascadeDeleteComponent] at hrun
      split at hrun
      · obtain rfl := Option.some.inj hrun
        exact .refl s
      · rcases hdel : deleteChildren (cascadeDeleteComponent fuel) s id with _ | s''
        · rw [hdel] at hrun
          cases hrun
        · have hchildren : OnlyComponents s s'' := by
            unfold deleteChildren at hdel
            split at hdel
            · obtain rfl := Option.some.inj hdel
              exact .refl s
            · obtain ⟨s₁, hfor, rfl⟩ := Option.map_eq_some_iff.1 hdel
              have hone := forChildren_only (fun s id s' h => ih h) _ hfor
              exact hone.trans rfl
          rw [hdel] at hrun
          dsimp only at hrun
          split at hrun
          · cases hrun
          · obtain rfl := Option.some.inj hrun
            exact hchildren.trans (eraseComponent_only _ _ _)

theorem reparent_only (s : InMemoryStore) (key id : String) (c : ComponentNode) (p : String) :
    OnlyComponents s (Component.reparent s key id c p).2 := by
  have hleave := leaveParent_only s c.parentId id
  exact hleave.trans rfl

theorem createComponent_only {input : CreateComponentNodeInput} {r : Result ComponentNode}
    (hrun : Component.create s input = some (r, s')) : OnlyComponents s s' := by
  rcases create_cases hrun with rfl | ⟨hnew, -⟩
  · exact .refl _
  · unfold Component.insertNew increment at hnew
    split_ifs at hnew
    obtain ⟨-, rfl⟩ := Prod.mk.inj (Option.some.inj hnew)
    rcases input with ⟨pageId, _ | parentId, type, childIds, order⟩ <;> rfl

theorem updateParent_only {fuel : Nat} {c : ComponentNode} {id : String} {np : Option String}
    {r : Result ComponentNode} (hrun : Component.updateParent fuel s c id np = some (r, s')) :
    OnlyComponents s s' := by
  rcases updateParent_cases hrun with rfl | ⟨p, rfl, -⟩
  · exact .refl _
  · exact reparent_only _ _ _ _ _

theorem updateComponent_only {fuel : Nat} {id : String} {input : UpdateComponentNodeInput}
    {r : Result ComponentNode} (hrun : Component.update fuel s id input = some (r, s')) :
    OnlyComponents s s' := by
  rcases Component.update_cases hrun with ⟨e, -, rfl⟩ | ⟨c, -, -, hexit⟩
  · exact .refl _
  · rcases hexit with ⟨-, e, -, rfl⟩ | ⟨-, hparent⟩
    · rfl
    · have hset : OnlyComponents s ((s.setComponent id (Component.setType input c)).setComponent id
        (Component.setOrder input (Component.setType input c))) := rfl
      exact hset.trans (updateParent_only hparent)

theorem moveComponent_only {fuel : Nat} {input : MoveComponentInput} {r : Result ComponentNode}
    (hrun : Component.move fuel s input = some (r, s')) : OnlyComponents s s' := by
  rcases Component.move_cases hrun with ⟨e, -, rfl⟩ | ⟨c, -, -, rfl⟩ | ⟨c, p, -, -, rfl⟩
  · exact .refl _
  · have hleave := leaveParent_only s c.parentId c.id
    exact hleave.trans rfl
  · have hreparent := reparent_only s input.id c.id c p
    exact hreparent.trans rfl

theorem removeComponent_only {fuel : Nat} {id : String} {r : Result Bool}
    (hrun : Component.remove fuel s id = some (r, s')) : OnlyComponents s s' := by
  unfold Component.remove at hrun
  split_ifs at hrun
  iterate 2
    obtain ⟨-, rfl⟩ := Prod.mk.inj (Option.some.inj hrun)
    exact .refl _
  obtain ⟨s₁, hs₁, heq⟩ := Option.map_eq_some_iff.1 hrun
  obtain ⟨-, rfl⟩ := Prod.mk.inj heq
  exact cascadeDeleteComponent_only fuel hs₁

theorem reorderWrites_only (s : InMemoryStore) (updates : List ComponentOrderUpdate) :
    OnlyComponents s (Component.reorderWrites s updates) := by
  induction updates generalizing s with
  | nil => exact .refl s
  | cons update updates ih =>
      rw [Component.reorderWrites]
      split
      · exact ih s
      · next c _ =>
          have hset : OnlyComponents s (s.setComponent update.id { c with order := update.order }) := rfl
          exact hset.trans (ih _)

theorem reorder_only (s : InMemoryStore) (updates : List ComponentOrderUpdate) :
    OnlyComponents s (Component.reorder s updates).2 := by
  unfold Component.reorder
  split_ifs
  · exact .refl s
  · split
    · exact .refl s
    · exact reorderWrites_only s updates

/-! ### The unique indexes -/

/-- The four tables of the store. -/
structure Tables (s : InMemoryStore) : Prop where
  pages : s.PageTable
  workflows : s.WorkflowTable
  sessions : s.SessionTable
  packages : s.PackageTable

namespace Tables

theorem start (users : Std.TreeMap String User) : Tables { users } where
  pages := Table.empty
  workflows := Table.empty
  sessions := Table.empty
  packages := ⟨Indexes.empty, fun id p h => by simp at h⟩

theorem of_onlyComponents (h : Tables s) (honly : OnlyComponents s s') : Tables s' := by
  rw [honly]
  exact ⟨h.pages, h.workflows, h.sessions, h.packages.indexed, h.packages.own⟩

theorem of_onlyPages (h : Tables s) (hpages : s'.PageTable) (honly : OnlyPages s s') :
    Tables s' where
  pages := hpages
  workflows := by
    rw [honly]
    exact h.workflows
  sessions := by
    rw [honly]
    exact h.sessions
  packages := by
    rw [honly]
    exact ⟨h.packages.indexed, h.packages.own⟩

theorem of_onlyWorkflows (h : Tables s) (hs' : s'.WorkflowTable ∧ OnlyWorkflows s s') :
    Tables s' where
  pages := by
    rw [hs'.2]
    exact h.pages
  workflows := hs'.1
  sessions := by
    rw [hs'.2]
    exact h.sessions
  packages := by
    rw [hs'.2]
    exact ⟨h.packages.indexed, h.packages.own⟩

theorem of_onlySessions (h : Tables s) (hs' : s'.SessionTable ∧ OnlySessions s s') :
    Tables s' where
  pages := by
    rw [hs'.2]
    exact h.pages
  workflows := by
    rw [hs'.2]
    exact h.workflows
  sessions := hs'.1
  packages := by
    rw [hs'.2]
    exact ⟨h.packages.indexed, h.packages.own⟩

theorem of_keepsPackages (h : Tables s) (hs' : KeepsPackages s s') : Tables s' where
  pages := by
    rw [hs'.2]
    exact h.pages
  workflows := by
    rw [hs'.2]
    exact h.workflows
  sessions := by
    rw [hs'.2]
    exact h.sessions
  packages := hs'.1 h.packages

theorem setFirstLogin (h : Tables s) (username : String) (flag : Bool) :
    Tables (Credential.setFirstLogin s username flag).2 := by
  unfold Credential.setFirstLogin
  split_ifs
  · exact h
  · split
    · exact h
    · exact ⟨h.pages, h.workflows, h.sessions, h.packages.indexed, h.packages.own⟩

theorem crud (h : Tables s) {fuel : Nat} {op : CrudOp} {r : Result Unit}
    (hrun : op.exec fuel s = some (r, s')) : Tables s' := by
  cases op with
  | createComponent input =>
      obtain ⟨p, hp, heq⟩ := Option.map_eq_some_iff.1 hrun
      obtain rfl : p.2 = s' := congrArg Prod.snd heq
      exact h.of_onlyComponents (createComponent_only hp)
  | updateComponent id input =>
      obtain ⟨p, hp, heq⟩ := Option.map_eq_some_iff.1 hrun
      obtain rfl : p.2 = s' := congrArg Prod.snd heq
      exact h.of_onlyComponents (updateComponent_only hp)
  | moveComponent input =>
      obtain ⟨p, hp, heq⟩ := Option.map_eq_some_iff.1 hrun
      obtain rfl : p.2 = s' := congrArg Prod.snd heq
      exact h.of_onlyComponents (moveComponent_only hp)
  | removeComponent id =>
      obtain ⟨p, hp, heq⟩ := Option.map_eq_some_iff.1 hrun
      obtain rfl : p.2 = s' := congrArg Prod.snd heq
      exact h.of_onlyComponents (removeComponent_only hp)
  | createPage now input =>
      obtain ⟨p, hp, heq⟩ := Option.map_eq_some_iff.1 hrun
      obtain rfl : p.2 = s' := congrArg Prod.snd heq
      exact h.of_onlyPages (h.pages.create hp) (Page.create_only hp)
  | updatePage id input =>
      obtain rfl : (Page.update s id input).2 = s' := congrArg Prod.snd (Option.some.inj hrun)
      exact h.of_onlyPages (h.pages.update id input) (Page.update_only s id input)
  | removePage id =>
      obtain rfl : (Page.remove s id).2 = s' := congrArg Prod.snd (Option.some.inj hrun)
      exact h.of_onlyPages (h.pages.remove id) (Page.remove_only s id)
  | createSession now input =>
      obtain ⟨p, hp, heq⟩ := Option.map_eq_some_iff.1 hrun
      obtain rfl : p.2 = s' := congrArg Prod.snd heq
      exact h.of_onlySessions (h.sessions.create hp)
  | updateSession id input =>
      obtain rfl : (Session.update s id input).2 = s' := congrArg Prod.snd (Option.some.inj hrun)
      exact h.of_onlySessions (h.sessions.update id input)
  | removeSession id =>
      obtain rfl : (Session.remove s id).2 = s' := congrArg Prod.snd (Option.some.inj hrun)
      exact h.of_onlySessions (h.sessions.remove id)

/-- **Every operation keeps the tables**, whatever it answers. -/
theorem exec (h : Tables s) {fuel : Nat} {op : EntityOp} {r : Result Unit}
    (hrun : op.exec fuel s = some (r, s')) : Tables s' := by
  cases op with
  | crud op => exact h.crud hrun
  | createWorkflow now input =>
      obtain ⟨p, hp, heq⟩ := Option.map_eq_some_iff.1 hrun
      obtain rfl : p.2 = s' := congrArg Prod.snd heq
      exact h.of_onlyWorkflows (h.workflows.create hp)
  | _ =>
      obtain ⟨-, rfl⟩ := Prod.mk.inj (Option.some.inj hrun)
      first
        | exact h.of_onlyComponents (reorder_only s _)
        | exact h.of_onlyWorkflows (h.workflows.update _ _)
        | exact h.of_onlyWorkflows (h.workflows.remove _)
        | exact h.of_onlySessions (h.sessions.get _ _)
        | exact h.of_onlySessions (h.sessions.getByToken _ _)
        | exact h.of_onlySessions (h.sessions.cleanExpired _)
        | exact h.of_keepsPackages (keeps_create s _ _)
        | exact h.of_keepsPackages (keeps_update s _ _)
        | exact h.of_keepsPackages (keeps_remove s _)
        | exact h.of_keepsPackages (keeps_createAll s _ _ _)
        | exact h.of_keepsPackages (keeps_updateAll s _ _)
        | exact h.of_keepsPackages (keeps_removeAll s _ _)
        | exact h.setFirstLogin _ _

theorem of_reachable (h : EntityOp.Reachable s) : Tables s := by
  induction h with
  | start users => exact .start users
  | step _ hrun ih => exact ih.exec hrun

end Tables

/-- **The unique indexes are exact in every reachable store.**  Each key of an index leads to
the one record that carries it, every record is found under its key, and no two records share
one. -/
theorem unique_indexes (h : EntityOp.Reachable s) :
    Bijection s.pagePaths s.pages PageConfig.path ∧
      Bijection s.workflowNames s.workflows Workflow.name ∧
      Bijection s.sessionTokens s.sessions Session.token ∧
      Bijection s.packageKeys s.packages fun p => Validation.packageKey p.packageId := by
  have htables := Tables.of_reachable h
  exact ⟨htables.pages.indexed.bijection, htables.workflows.indexed.bijection,
    htables.sessions.indexed.bijection, htables.packages.indexed.bijection⟩

/-- Installing a package twice in one batch installs none. -/
theorem unique_indexes_batch_rollback :
    let core : CreatePackageInput := { packageId := "core", version := "1.0.0", enabled := true }
    let s := (Package.batchCreate {} 0 [core, core]).2
    Bijection s.packageKeys s.packages (fun p => Validation.packageKey p.packageId) ∧
      s.packages.isEmpty ∧ s.packageKeys.isEmpty := by
  intro core s
  have hrun : EntityOp.Reachable s :=
    @EntityOp.Reachable.step _ _ 0 (.batchCreatePackages 0 [core, core]) _ (.start ∅) rfl
  exact ⟨(unique_indexes hrun).2.2.2, by decide +kernel, by decide +kernel⟩

end InMemoryStore
end Dbal
