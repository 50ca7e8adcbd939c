/-
# The component forest under all operations

The operations on pages, sessions, workflows, packages and users leave the components and their
indexes alone, so that `ForestInv` holds in every store that a run of any operations reaches.
There `hasDescendant` ends and decides whether one component is reached from another by steps
from parents to children, so that `move` and `update` refuse every cycle (`hasDescendant_decides`).
-/

import Dbal.Entities.EntityRuns

namespace Dbal

theorem EntityOp.Reachable.runOps {fuel : Nat} {ops : List EntityOp} {s s' : InMemoryStore}
    (h : EntityOp.Reachable s) (hrun : EntityOp.runOps fuel s ops = some s') :
    EntityOp.Reachable s' := by
  induction ops generalizing s with
  | nil => exact Option.some.inj hrun ▸ h
  | cons op ops ih =>
      rw [EntityOp.runOps] at hrun
      split at hrun
      · cases hrun
      · next r t hop => exact ih (h.step hop) hrun

open Forest

namespace InMemoryStore

variable {s s' : InMemoryStore}

/-- The two stores hold the same components, filed in the same way. -/
structure SameComponents (s s' : InMemoryStore) : Prop where
  components : s'.components = s.components
  byParent : s'.componentsByParent = s.componentsByParent
  byPage : s'.componentsByPage = s.componentsByPage
  counter : s'.componentCounter = s.componentCounter

theorem SameComponents.refl (s : InMemoryStore) : SameComponents s s := ⟨rfl, rfl, rfl, rfl⟩

theorem OnlyPages.sameComponents (h : OnlyPages s s') : SameComponents s s' := by
  rw [h]
  exact ⟨rfl, rfl, rfl, rfl⟩

theorem OnlyWorkflows.sameComponents (h : OnlyWorkflows s s') : SameComponents s s' := by
  rw [h]
  exact ⟨rfl, rfl, rfl, rfl⟩

theorem OnlySessions.sameComponents (h : OnlySessions s s') : SameComponents s s' := by
  rw [h]
  exact ⟨rfl, rfl, rfl, rfl⟩

theorem OnlyPackages.sameComponents (h : OnlyPackages s s') : SameComponents s s' := by
  rw [h]
  exact ⟨rfl, rfl, rfl, rfl⟩

theorem setFirstLogin_sameComponents (s : InMemoryStore) (username : String) (flag : Bool) :
    SameComponents s (Credential.setFirstLogin s username flag).2 := by
  unfold Credential.setFirstLogin
  split_ifs
  · exact .refl s
  · split
    · exact .refl s
    · exact ⟨rfl, rfl, rfl, rfl⟩

theorem ForestInv.congr (h : ForestInv s) (hs : SameComponents s s') : ForestInv s' := by
  have hparent : s'.parentOf = s.parentOf := parentOf_congr hs.components
  have hpage : s'.pageOf = s.pageOf := pageOf_congr hs.components
  exact {
    id_eq := hs.components ▸ h.id_eq
    byParent := hs.byParent ▸ hparent ▸ h.byParent
    byPage := hs.byPage ▸ hpage ▸ h.byPage
    samePage := hparent ▸ hpage ▸ h.samePage
    rooted := hparent ▸ h.rooted
    generated := hpage ▸ hs.counter ▸ h.generated }

/-- **An operation is one on components, or leaves them alone.** -/
theorem exec_cases (h : Tables s) {fuel : Nat} {op : EntityOp} {r : Result Unit}
    (hrun : op.exec fuel s = some (r, s')) :
    (∃ op a, Component.exec fuel s op = some (a, s')) ∨ SameComponents s s' := by
  cases op with
  | crud op =>
      cases op with
      | createComponent input =>
          obtain ⟨p, hp, heq⟩ := Option.map_eq_some_iff.1 hrun
          obtain rfl : p.2 = s' := congrArg Prod.snd heq
          exact .inl ⟨.create input, .component p.1, congrArg (Option.map _) hp⟩
      | updateComponent id input =>
          obtain ⟨p, hp, heq⟩ := Option.map_eq_some_iff.1 hrun
          obtain rfl : p.2 = s' := congrArg Prod.snd heq
          exact .inl ⟨.update id input, .component p.1, congrArg (Option.map _) hp⟩
      | moveComponent input =>
          obtain ⟨p, hp, heq⟩ := Option.map_eq_some_iff.1 hrun
          obtain rfl : p.2 = s' := congrArg Prod.snd heq
          exact .inl ⟨.move input, .component p.1, congrArg (Option.map _) hp⟩
      | removeComponent id =>
          obtain ⟨p, hp, heq⟩ := Option.map_eq_some_iff.1 hrun
          obtain rfl : p.2 = s' := congrArg Prod.snd heq
          exact .inl ⟨.remove id, .done p.1, congrArg (Option.map _) hp⟩
      | createPage now input =>
          obtain ⟨p, hp, heq⟩ := Option.map_eq_some_iff.1 hrun
          obtain rfl : p.2 = s' := congrArg Prod.snd heq
          exact .inr (Page.create_only hp).sameComponents
      | createSession now input =>
          obtain ⟨p, hp, heq⟩ := Option.map_eq_some_iff.1 hrun
          obtain rfl : p.2 = s' := congrArg Prod.snd heq
          exact .inr (h.sessions.create hp).2.sameComponents
      | updatePage id input =>
          obtain rfl : (Page.update s id input).2 = s' := congrArg Prod.snd (Option.some.inj hrun)
          exact .inr (Page.update_only s id input).sameComponents
      | removePage id =>
          obtain rfl : (Page.remove s id).2 = s' := congrArg Prod.snd (Option.some.inj hrun)
          exact .inr (Page.remove_only s id).sameComponents
      | updateSession id input =>
          obtain rfl : (Session.update s id input).2 = s' :=
            congrArg Prod.snd (Option.some.inj hrun)
          exact .inr (h.sessions.update id input).2.sameComponents
      | removeSession id =>
          obtain rfl : (Session.remove s id).2 = s' := congrArg Prod.snd (Option.some.inj hrun)
          exact .inr (h.sessions.remove id).2.sameComponents
  | reorderComponents updates =>
      obtain ⟨-, rfl⟩ := Prod.mk.inj (Option.some.inj hrun)
      exact .inl ⟨.reorder updates, .done (Component.reorder s updates).1, rfl⟩
  | createWorkflow now input =>
      obtain ⟨p, hp, heq⟩ := Option.map_eq_some_iff.1 hrun
      obtain rfl : p.2 = s' := congrArg Prod.snd heq
      exact .inr (h.workflows.create hp).2.sameComponents
  | setFirstLogin username flag =>
      obtain ⟨-, rfl⟩ := Prod.mk.inj (Option.some.inj hrun)
      exact .inr (setFirstLogin_sameComponents s username flag)
  | _ =>
      obtain ⟨-, rfl⟩ := Prod.mk.inj (Option.some.inj hrun)
      refine .inr ?_
      first
        | exact (h.workflows.update _ _).2.sameComponents
        | exact (h.workflows.remove _).2.sameComponents
        | exact (h.sessions.get _ _).2.sameComponents
        | exact (h.sessions.getByToken _ _).2.sameComponents
        | exact (h.sessions.cleanExpired _).2.sameComponents
        | exact (keeps_create s _ _).2.sameComponents
        | exact (keeps_update s _ _).2.sameComponents
        | exact (keeps_remove s _).2.sameComponents
        | exact (keeps_createAll s _ _ _).2.sameComponents
        | exact (keeps_updateAll s _ _).2.sameComponents
        | exact (keeps_removeAll s _ _).2.sameComponents

/-- **The components form a forest in every reachable store.** -/
theorem forestInv_of_entityRun (h : EntityOp.Reachable s) : ForestInv s := by
  induction h with
  | start users => exact ForestInv.empty.congr ⟨rfl, rfl, rfl, rfl⟩
  | step hreach hrun ih =>
      rcases exec_cases (Tables.of_reachable hreach) hrun with ⟨op, a, hop⟩ | hsame
      · exact ih.exec hop
      · exact ih.congr hsame

/-! ### Cycles -/

/-- A step from a parent to a child of it, by the field `parentId` of the child. -/
def HasChild (s : InMemoryStore) (p x : String) : Prop :=
  ∃ c : ComponentNode, s.components[x]? = some c ∧ c.parentId = some p

theorem hasChild_iff {p x : String} : s.HasChild p x ↔ s.parentOf x = some p := by
  rw [HasChild, parentOf, Option.bind_eq_some_iff]

/-- Going down by steps to children is going up by steps to parents. -/
theorem below_iff_transGen {a x : String} :
    Below s.parentOf a x ↔ Relation.TransGen s.HasChild a x := by
  have hsteps : (fun y z => s.parentOf y = some z) = Function.swap s.HasChild := by
    funext y z
    exact propext hasChild_iff.symm
  rw [Below, hsteps]
  exact Relation.transGen_swap

/-- The check that refuses a cycle never lets a descendant pass. -/
theorem ForestInv.not_false_of_below (h : ForestInv s) {fuel : Nat} {a c : String}
    (hb : Below s.parentOf a c) : s.hasDescendant fuel a c ≠ some false := fun hrun =>
  Bool.false_ne_true ((h.hasDescendant_eq hrun).2 hb)

/-- A run that answers with an error and the store as it was. -/
theorem refused {e : Error} {r : Result ComponentNode}
    (hrun : some (Except.error e, s) = some (r, s')) : ∃ e, r = .error e ∧ s' = s := by
  obtain ⟨rfl, rfl⟩ := Prod.mk.inj (Option.some.inj hrun)
  exact ⟨e, rfl, rfl⟩

/-- `move` under a descendant is refused. -/
theorem ForestInv.move_refuses (h : ForestInv s) {fuel : Nat} {input : MoveComponentInput}
    {r : Result ComponentNode} (hb : Below s.parentOf input.id input.newParentId)
    (hrun : Component.move fuel s input = some (r, s')) : ∃ e, r = .error e ∧ s' = s := by
  have hroot : input.newParentId ≠ "" := by
    obtain ⟨b, hparent, -⟩ := hb.cases
    obtain ⟨c, hc, -⟩ := exists_of_parentOf hparent
    obtain ⟨n, -, hid⟩ := h.generated _ (pageOf_ne_none.2 ⟨c, hc⟩)
    intro hempty
    exact generateId_ne_empty _ n (hid.symm.trans hempty)
  unfold Component.move at hrun
  split_ifs at hrun with hid horder
  · exact refused hrun
  · exact refused hrun
  cases hc : s.components[input.id]? with
  | none =>
      rw [hc] at hrun
      exact refused hrun
  | some c =>
      simp only [hc, h.id_eq _ c hc] at hrun
      split_ifs at hrun with hself
      · exact refused hrun
      cases hp : s.components[input.newParentId]? with
      | none =>
          rw [hp] at hrun
          exact refused hrun
      | some parent =>
          simp only [hp] at hrun
          split_ifs at hrun with hpage
          · exact refused hrun
          cases hdesc : s.hasDescendant fuel input.id input.newParentId with
          | none =>
              rw [hdesc] at hrun
              cases hrun
          | some b =>
              cases b with
              | true =>
                  rw [hdesc] at hrun
                  exact refused hrun
              | false => exact absurd hdesc (h.not_false_of_below hb)

/-- A parent that is a descendant is refused by the last check of `update`. -/
theorem ForestInv.updateParent_refuses (h : ForestInv s) {fuel : Nat} {c : ComponentNode}
    {id p : String} {t : InMemoryStore} (ht : t.componentsByParent = s.componentsByParent)
    {r : Result ComponentNode} (hb : Below s.parentOf id p)
    (hrun : Component.updateParent fuel t c id (some p) = some (r, s')) :
    ∃ e, r = .error e ∧ s' = t := by
  rw [Component.updateParent] at hrun
  split_ifs at hrun with hempty hself
  · exact refused hrun
  · exact refused hrun
  cases hp : t.components[p]? with
  | none =>
      rw [hp] at hrun
      exact refused hrun
  | some parent =>
      simp only [hp, hasDescendant_congr ht] at hrun
      split_ifs at hrun with hpage
      · exact refused hrun
      cases hdesc : s.hasDescendant fuel id p with
      | none =>
          rw [hdesc] at hrun
          cases hrun
      | some b =>
          cases b with
          | true =>
              rw [hdesc] at hrun
              exact refused hrun
          | false => exact absurd hdesc (h.not_false_of_below hb)

/-- `update` under a descendant is refused. -/
theorem ForestInv.update_refuses (h : ForestInv s) {fuel : Nat} {id p : String}
    {input : UpdateComponentNodeInput} {r : Result ComponentNode} (hp : input.parentId = some p)
    (hb : Below s.parentOf id p) (hrun : Component.update fuel s id input = some (r, s')) :
    ∃ e, r = .error e := by
  rcases Component.update_cases hrun with ⟨e, he, -⟩ | ⟨c, -, -, ⟨-, e, he, -⟩ | ⟨-, hparent⟩⟩
  · exact ⟨e, he⟩
  · exact ⟨e, he⟩
  · rw [hp] at hparent
    exact (h.updateParent_refuses (by rfl) hb hparent).imp fun e he => he.1

/-- **`hasDescendant` decides reachability.**  On every reachable store it ends, with the answer
whether the candidate is reached from the ancestor by steps to children; and so a component is
moved under no component that is reached from it. -/
theorem hasDescendant_decides (h : EntityOp.Reachable s) :
    (∀ a c, ∃ b, Settles (s.hasDescendant · a c) b ∧
      (b = true ↔ Relation.TransGen s.HasChild a c)) ∧
    (∀ fuel input r s', Component.move fuel s input = some (r, s') →
      Relation.TransGen s.HasChild input.id input.newParentId → ∃ e, r = .error e ∧ s' = s) ∧
    ∀ fuel id input p r s', Component.update fuel s id input = some (r, s') →
      input.parentId = some p → Relation.TransGen s.HasChild id p → ∃ e, r = .error e := by
  have hinv := forestInv_of_entityRun h
  simp only [← below_iff_transGen]
  refine ⟨fun a c => ?_, fun fuel input r s' hrun hb => hinv.move_refuses hb hrun,
    fun fuel id input p r s' hrun hp hb => hinv.update_refuses hp hb hrun⟩
  obtain ⟨b, hb⟩ := hinv.hasDescendant_settles a c
  obtain ⟨n, hn⟩ := hb.exists_fuel
  exact ⟨b, hb, hinv.hasDescendant_eq hn⟩

/-- The child of a component of a page. -/
theorem hasDescendant_decides_child :
    ∃ store, EntityOp.runOps 1 {}
        [.crud (.createPage 0 { path := "/", title := "Home", level := 1, requiresAuth := false }),
          .crud (.createComponent
            { pageId := "page_00000001", parentId := none, type := "box", childIds := "" }),
          .crud (.createComponent
            { pageId := "page_00000001", parentId := some "component_00000001",
              type := "text", childIds := "" })] = some store ∧
      ∃ b, Settles (store.hasDescendant · "component_00000001" "component_00000002") b ∧
        (b = true ↔
          Relation.TransGen store.HasChild "component_00000001" "component_00000002") := by
  obtain ⟨store, hrun⟩ := Option.isSome_iff_exists.1 (show (EntityOp.runOps 1 {}
        [.crud (.createPage 0 { path := "/", title := "Home", level := 1, requiresAuth := false }),
          .crud (.createComponent
            { pageId := "page_00000001", parentId := none, type := "box", childIds := "" }),
          .crud (.createComponent
            { pageId := "page_00000001", parentId := some "component_00000001",
              type := "text", childIds := "" })]).isSome = true by decide +kernel)
  have hreach := (EntityOp.Reachable.start ∅).runOps hrun
  exact ⟨store, hrun, (hasDescendant_decides hreach).1 _ _⟩

end InMemoryStore
end Dbal
