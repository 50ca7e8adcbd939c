/-
# Runs of the component operations

A run starts from the empty store and takes any operations in any order, with
any arguments, whether they succeed or fail.  `Reachable` stores are the ones
that runs end in, and `component_forest` is what they all satisfy.
-/

import Dbal.Entities.ComponentTree

namespace Dbal

open Forest SecondaryIndex

namespace Component

/-- One operation on the store. -/
inductive Op where
  | createPage (now : Int) (input : CreatePageInput)
  | create (input : CreateComponentNodeInput)
  | update (id : String) (input : UpdateComponentNodeInput)
  | move (input : MoveComponentInput)
  | reorder (updates : List ComponentOrderUpdate)
  | remove (id : String)

/-- What an operation answers. -/
inductive Answer where
  | page (r : Result PageConfig)
  | component (r : Result ComponentNode)
  | done (r : Result Bool)

/-- One operation, with a bound on the depth of its recursions. -/
def exec (fuel : Nat) (store : InMemoryStore) : Op → Option (Answer × InMemoryStore)
  | .createPage now input => (Page.create store now input).map fun (r, s) => (.page r, s)
  | .create input => (create store input).map fun (r, s) => (.component r, s)
  | .update id input => (update fuel store id input).map fun (r, s) => (.component r, s)
  | .move input => (move fuel store input).map fun (r, s) => (.component r, s)
  | .reorder updates => let (r, s) := reorder store updates; some (.done r, s)
  | .remove id => (remove fuel store id).map fun (r, s) => (.done r, s)

/-- The stores at the ends of runs from the empty store. -/
inductive Reachable : InMemoryStore → Prop where
  | empty : Reachable {}
  | step {store store' : InMemoryStore} {fuel : Nat} {op : Op} {a : Answer} :
      Reachable store → exec fuel store op = some (a, store') → Reachable store'

/-- A finite sequence of operations. -/
def runOps (fuel : Nat) : InMemoryStore → List Op → Option InMemoryStore
  | store, [] => some store
  | store, op :: ops =>
      match exec fuel store op with
      | none => none
      | some (_, store') => runOps fuel store' ops

theorem Reachable.runOps {fuel : Nat} :
    ∀ {ops : List Op} {store store' : InMemoryStore}, Reachable store →
      Component.runOps fuel store ops = some store' → Reachable store'
  | [], _, _, h, hrun => Option.some.inj hrun ▸ h
  | op :: ops, store, store', h, hrun => by
      rw [Component.runOps] at hrun
      split at hrun
      · cases hrun
      · next a s hop => exact (h.step hop).runOps hrun

end Component

namespace InMemoryStore

open Component

/-- **Every operation keeps the invariant**, whatever it answers. -/
theorem ForestInv.exec {s s' : InMemoryStore} (h : ForestInv s) {fuel : Nat} {op : Op}
    {a : Answer} (hrun : Component.exec fuel s op = some (a, s')) : ForestInv s' := by
  cases op with
  | reorder updates =>
      cases hrun
      exact h.reorder updates
  | _ =>
      obtain ⟨⟨r, s''⟩, hop, heq⟩ := Option.map_eq_some_iff.1 hrun
      cases heq
      first
        | exact h.createPage hop
        | exact h.create hop
        | exact h.update hop
        | exact h.move hop
        | exact h.remove hop

theorem forestInv_of_reachable {s : InMemoryStore} (h : Reachable s) : ForestInv s := by
  induction h with
  | empty => exact .empty
  | step _ hrun ih => exact ih.exec hrun

/-! ### Every operation ends -/

theorem insertNew_ends {s : InMemoryStore} (hcomp : s.componentCounter < intMax)
    (input : CreateComponentNodeInput) : ∃ p, insertNew s input = some p := by
  simp [insertNew, increment, hcomp]

theorem create_ends {s : InMemoryStore} (hcomp : s.componentCounter < intMax)
    (input : CreateComponentNodeInput) : ∃ p, Component.create s input = some p := by
  obtain ⟨p, hp⟩ := insertNew_ends hcomp input
  unfold Component.create
  split_ifs
  iterate 4 exact ⟨_, rfl⟩
  split
  · exact ⟨p, hp⟩
  · split
    · exact ⟨_, rfl⟩
    · split_ifs
      · exact ⟨_, rfl⟩
      · exact ⟨p, hp⟩

theorem createPage_ends {s : InMemoryStore} (hpage : s.pageCounter < intMax) (now : Int)
    (input : CreatePageInput) : ∃ p, Page.create s now input = some p := by
  unfold Page.create
  split_ifs
  iterate 4 exact ⟨_, rfl⟩
  simp [increment, hpage]

theorem ForestInv.updateParent_ends {s : InMemoryStore} (h : ForestInv s) (c : ComponentNode)
    (id : String) (np : Option String) :
    ∃ fuel p, Component.updateParent fuel s c id np = some p := by
  cases np with
  | none => exact ⟨0, _, rfl⟩
  | some newParent =>
      obtain ⟨b, hb⟩ := h.hasDescendant_settles id newParent
      obtain ⟨n, hn⟩ := hb.exists_fuel
      refine ⟨n, ?_⟩
      simp only [Component.updateParent, hn]
      split_ifs
      iterate 2 exact ⟨_, rfl⟩
      split
      · exact ⟨_, rfl⟩
      · split_ifs
        · exact ⟨_, rfl⟩
        · cases b <;> exact ⟨_, rfl⟩

theorem ForestInv.update_ends {s : InMemoryStore} (h : ForestInv s) (id : String)
    (input : UpdateComponentNodeInput) : ∃ fuel p, Component.update fuel s id input = some p := by
  cases hc : s.components[id]? with
  | none =>
      refine ⟨0, ?_⟩
      simp only [Component.update, hc]
      split_ifs <;> exact ⟨_, rfl⟩
  | some c =>
      have hset : ForestInv ((s.setComponent id { c with type := input.type.getD c.type }).setComponent
          id { c with
            type := input.type.getD c.type, order := input.order.getD c.order,
            childIds := input.childIds.getD c.childIds }) := by
        have hfirst : ForestInv (s.setComponent id { c with type := input.type.getD c.type }) :=
          h.setFields hc rfl rfl rfl
        exact hfirst.setFields ((setComponent_components id id _).trans (if_pos rfl)) rfl rfl rfl
      obtain ⟨n, p, hp⟩ := hset.updateParent_ends { c with
        type := input.type.getD c.type, order := input.order.getD c.order,
        childIds := input.childIds.getD c.childIds } id input.parentId
      refine ⟨n, ?_⟩
      simp only [Component.update, hc]
      split_ifs
      iterate 3 exact ⟨_, rfl⟩
      exact ⟨p, hp⟩

theorem ForestInv.move_ends {s : InMemoryStore} (h : ForestInv s) (input : MoveComponentInput) :
    ∃ fuel p, Component.move fuel s input = some p := by
  cases hc : s.components[input.id]? with
  | none =>
      refine ⟨0, ?_⟩
      simp only [Component.move, hc]
      split_ifs <;> exact ⟨_, rfl⟩
  | some c =>
      obtain ⟨b, hb⟩ := h.hasDescendant_settles c.id input.newParentId
      obtain ⟨n, hn⟩ := hb.exists_fuel
      refine ⟨n, ?_⟩
      simp only [Component.move, hc, hn]
      split_ifs
      iterate 4 exact ⟨_, rfl⟩
      split
      · exact ⟨_, rfl⟩
      · split_ifs
        · exact ⟨_, rfl⟩
        · cases b <;> exact ⟨_, rfl⟩

theorem ForestInv.remove_ends {s : InMemoryStore} (h : ForestInv s) (id : String) :
    ∃ fuel p, Component.remove fuel s id = some p := by
  obtain ⟨s', hs'⟩ := h.cascadeDeleteComponent_settles id
  obtain ⟨n, hn⟩ := hs'.exists_fuel
  refine ⟨n, ?_⟩
  simp only [Component.remove, hn]
  split_ifs <;> exact ⟨_, rfl⟩

/-- **Every operation ends on a reachable store**, as long as the counter of the
ids it may need is below the largest `int`. -/
theorem exec_ends {s : InMemoryStore} (h : Reachable s) (hpage : s.pageCounter < intMax)
    (hcomp : s.componentCounter < intMax) (op : Op) : ∃ fuel p, exec fuel s op = some p := by
  have hinv := forestInv_of_reachable h
  cases op with
  | createPage now input =>
      obtain ⟨p, hp⟩ := createPage_ends hpage now input
      exact ⟨0, _, congrArg (Option.map _) hp⟩
  | create input =>
      obtain ⟨p, hp⟩ := create_ends hcomp input
      exact ⟨0, _, congrArg (Option.map _) hp⟩
  | update id input =>
      obtain ⟨n, p, hp⟩ := hinv.update_ends id input
      exact ⟨n, _, congrArg (Option.map _) hp⟩
  | move input =>
      obtain ⟨n, p, hp⟩ := hinv.move_ends input
      exact ⟨n, _, congrArg (Option.map _) hp⟩
  | reorder updates => exact ⟨0, _, rfl⟩
  | remove id =>
      obtain ⟨n, p, hp⟩ := hinv.remove_ends id
      exact ⟨n, _, congrArg (Option.map _) hp⟩

end InMemoryStore

namespace Component

/-- **The component forest.**  On every reachable store the index by parent lists
the children of each component and the index by page the components of each
page, each once; a parent is a component of the same page; going up from any
component ends; and so `hasDescendant`, `buildTree` and the cascade end. -/
theorem component_forest {store : InMemoryStore} (h : Reachable store) :
    (∀ (id : String) (c : ComponentNode), store.components[id]? = some c → c.id = id) ∧
    (∀ p, (store.componentsByParent.entries p).Nodup ∧
      ∀ id, id ∈ store.componentsByParent.entries p ↔
        ∃ c : ComponentNode, store.components[id]? = some c ∧ c.parentId = some p) ∧
    (∀ g, (store.componentsByPage.entries g).Nodup ∧
      ∀ id, id ∈ store.componentsByPage.entries g ↔
        ∃ c : ComponentNode, store.components[id]? = some c ∧ c.pageId = g) ∧
    (∀ (id p : String) (c : ComponentNode), store.components[id]? = some c → c.parentId = some p →
      ∃ d : ComponentNode, store.components[p]? = some d ∧ d.pageId = c.pageId) ∧
    (∀ id, Rooted store.parentOf id) ∧
    (∀ a c, ∃ fuel b, store.hasDescendant fuel a c = some b) ∧
    (∀ S pageId parentId, ∃ fuel cs, buildTree S store pageId fuel parentId = some (.ok cs)) ∧
    ∀ id, ∃ fuel store', store.cascadeDeleteComponent fuel id = some store' := by
  have hinv := InMemoryStore.forestInv_of_reachable h
  refine ⟨hinv.id_eq, fun p => ⟨hinv.byParent.nodup p, fun id => ?_⟩,
    fun g => ⟨hinv.byPage.nodup g, fun id => ?_⟩, ?_, hinv.rooted,
    fun a c => ?_, fun S pageId parentId => ?_, fun id => ?_⟩
  · rw [hinv.byParent.mem_iff, InMemoryStore.parentOf, Option.bind_eq_some_iff]
  · rw [hinv.byPage.mem_iff, InMemoryStore.pageOf, Option.map_eq_some_iff]
  · intro id p c hc hp
    have hpage := hinv.samePage id p (InMemoryStore.parentOf_eq hc ▸ hp)
    rw [InMemoryStore.pageOf_eq hc] at hpage
    simpa [InMemoryStore.pageOf, Option.map_eq_some_iff] using hpage
  · obtain ⟨b, hb⟩ := hinv.hasDescendant_settles a c
    obtain ⟨n, hn⟩ := hb.exists_fuel
    exact ⟨n, b, hn⟩
  · obtain ⟨cs, hcs⟩ := hinv.buildTree_settles S pageId parentId
    obtain ⟨n, hn⟩ := hcs.exists_fuel
    exact ⟨n, cs, hn⟩
  · obtain ⟨s', hs'⟩ := hinv.cascadeDeleteComponent_settles id
    obtain ⟨n, hn⟩ := hs'.exists_fuel
    exact ⟨n, s', hn⟩

/-- A page with a component and a component under it. -/
theorem component_forest_parent_and_child :
    ∃ store, runOps 1 {}
        [.createPage 0 { path := "/", title := "Home", level := 1, requiresAuth := false },
          .create { pageId := "page_00000001", parentId := none, type := "box", childIds := "" },
          .create { pageId := "page_00000001", parentId := some "component_00000001",
                    type := "text", childIds := "" }] = some store ∧
      Rooted store.parentOf "component_00000002" ∧
      ∃ fuel b, store.hasDescendant fuel "component_00000001" "component_00000002" = some b := by
  obtain ⟨store, hrun⟩ := Option.isSome_iff_exists.1 (show (runOps 1 {}
        [.createPage 0 { path := "/", title := "Home", level := 1, requiresAuth := false },
          .create { pageId := "page_00000001", parentId := none, type := "box", childIds := "" },
          .create { pageId := "page_00000001", parentId := some "component_00000001",
                    type := "text", childIds := "" }]).isSome = true by decide +kernel)
  obtain ⟨-, -, -, -, hrooted, hdesc, -⟩ := component_forest (.runOps .empty hrun)
  exact ⟨store, hrun, hrooted _, hdesc _ _⟩

end Component
end Dbal
