/-
# What a cascade leaves

`remove` of `src/entities/component/crud/delete_component.hpp` takes out a component and what is
below it.  That the right components go is `cascadeDeleteComponent_pruned`; here it is added that
the indexes lose the ids of these and keep the order of the others, that no empty list stays in
them, and that nothing else in the store is touched.
-/

import Dbal.Entities.EntityForest

namespace Dbal

open Forest SecondaryIndex

namespace InMemoryStore

variable {s s' s'' : InMemoryStore}

/-! ### No empty lists -/

/-- Neither index has a key without ids. -/
structure Compact (s : InMemoryStore) : Prop where
  byParent : NoEmpty s.componentsByParent
  byPage : NoEmpty s.componentsByPage

theorem Compact.congr (h : Compact s) (hs : SameComponents s s') : Compact s' :=
  ⟨hs.byParent ▸ h.byParent, hs.byPage ▸ h.byPage⟩

/-- The stores differ in components and index entries only, and the indexes have lost ids. -/
structure Cut (s s' : InMemoryStore) : Prop where
  byParent : Shrinks s.componentsByParent s'.componentsByParent
  byPage : Shrinks s.componentsByPage s'.componentsByPage
  rest : s' = { s with
    components := s'.components
    componentsByPage := s'.componentsByPage
    componentsByParent := s'.componentsByParent }

theorem Cut.refl (s : InMemoryStore) : Cut s s := ⟨.refl _, .refl _, rfl⟩

theorem Cut.trans (h : Cut s s') (h' : Cut s' s'') : Cut s s'' := by
  refine ⟨h.byParent.trans h'.byParent, h.byPage.trans h'.byPage, ?_⟩
  rw [h'.rest, h.rest]

theorem Cut.compact (h : Cut s s') (hs : Compact s) : Compact s' :=
  ⟨h.byParent.noEmpty hs.byParent, h.byPage.noEmpty hs.byPage⟩

theorem eraseComponent_cut (s : InMemoryStore) (id : String) (component : ComponentNode) :
    Cut s (s.eraseComponent id component) := by
  rw [eraseComponent, leaveParent_eq]
  exact ⟨shrinks_leave _ _ _, shrinks_leave _ (some component.pageId) id, rfl⟩

theorem forChildren_cut {f : InMemoryStore → String → Option InMemoryStore}
    (hf : ∀ {s s' : InMemoryStore} {id : String}, f s id = some s' → Cut s s') {cs : List String}
    (hrun : forChildren f s cs = some s') : Cut s s' := by
  induction cs generalizing s with
  | nil => exact Option.some.inj hrun ▸ .refl s
  | cons c cs ih =>
      rw [forChildren] at hrun
      split at hrun
      · cases hrun
      · next s₁ hs₁ => exact (hf hs₁).trans (ih hrun)

/-- **The cascade takes out, and does nothing else.** -/
theorem cascadeDeleteComponent_cut {n : Nat} {id : String}
    (hrun : cascadeDeleteComponent n s id = some s') : Cut s s' := by
  induction n generalizing s s' id with
  | zero => cases hrun
  | succ n ih =>
      rw [cascadeDeleteComponent] at hrun
      split at hrun
      · exact Option.some.inj hrun ▸ .refl s
      · split at hrun
        · cases hrun
        · next s₁ hs₁ =>
            have hchildren : Cut s s₁ := by
              unfold deleteChildren at hs₁
              split at hs₁
              · exact Option.some.inj hs₁ ▸ .refl s
              · obtain ⟨s₂, hs₂, rfl⟩ := Option.map_eq_some_iff.1 hs₁
                refine (forChildren_cut ih hs₂).trans ⟨shrinks_erase _ id, .refl _, rfl⟩
            split at hrun
            · cases hrun
            · next c _ =>
                obtain rfl := Option.some.inj hrun
                exact hchildren.trans (eraseComponent_cut s₁ id c)

theorem removeComponent_cut {fuel : Nat} {id : String} {r : Result Bool}
    (hrun : Component.remove fuel s id = some (r, s')) : Cut s s' := by
  unfold Component.remove at hrun
  split_ifs at hrun
  iterate 2
    · obtain ⟨-, rfl⟩ := Prod.mk.inj (Option.some.inj hrun)
      exact .refl _
  obtain ⟨s₁, hs₁, heq⟩ := Option.map_eq_some_iff.1 hrun
  obtain ⟨-, rfl⟩ := Prod.mk.inj heq
  exact cascadeDeleteComponent_cut hs₁

theorem Compact.reparent (h : Compact s) (key id : String) (c : ComponentNode) (p : String) :
    Compact (Component.reparent s key id c p).2 := by
  rw [Component.reparent, leaveParent_eq]
  exact ⟨(h.byParent.leave c.parentId id).join (some p) id, h.byPage⟩

theorem Compact.reorderWrites (h : Compact s) (updates : List ComponentOrderUpdate) :
    Compact (Component.reorderWrites s updates) := by
  induction updates generalizing s with
  | nil => exact h
  | cons update updates ih =>
      rw [Component.reorderWrites]
      split
      · exact ih h
      · exact ih ⟨h.byParent, h.byPage⟩

theorem Compact.reorder (h : Compact s) (updates : List ComponentOrderUpdate) :
    Compact (Component.reorder s updates).2 := by
  unfold Component.reorder
  split_ifs
  · exact h
  · split
    · exact h
    · exact h.reorderWrites updates

/-- **No operation leaves an empty list in an index.** -/
theorem Compact.exec (h : Compact s) {fuel : Nat} {op : Component.Op} {a : Component.Answer}
    (hrun : Component.exec fuel s op = some (a, s')) : Compact s' := by
  cases op with
  | reorder updates =>
      cases hrun
      exact h.reorder updates
  | createPage now input =>
      obtain ⟨⟨r, t⟩, hop, heq⟩ := Option.map_eq_some_iff.1 hrun
      cases heq
      exact h.congr (Page.create_only hop).sameComponents
  | create input =>
      obtain ⟨⟨r, t⟩, hop, heq⟩ := Option.map_eq_some_iff.1 hrun
      cases heq
      rcases create_cases hop with rfl | ⟨hnew, -⟩
      · exact h
      · obtain ⟨-, c, -, -, -, -, -, hbyParent, hbyPage, -⟩ := insertNew_eq hnew
        exact ⟨hbyParent ▸ h.byParent.join c.parentId c.id,
          hbyPage ▸ h.byPage.join (some c.pageId) c.id⟩
  | update id input =>
      obtain ⟨⟨r, t⟩, hop, heq⟩ := Option.map_eq_some_iff.1 hrun
      cases heq
      rcases Component.update_cases hop with ⟨e, -, rfl⟩ | ⟨c, -, -, ⟨-, e, -, rfl⟩ | ⟨-, hparent⟩⟩
      · exact h
      · exact ⟨h.byParent, h.byPage⟩
      · rcases updateParent_cases hparent with rfl | ⟨p, rfl, -⟩
        · exact ⟨h.byParent, h.byPage⟩
        · have hset : Compact ((s.setComponent id (Component.setType input c)).setComponent id
              (Component.setOrder input (Component.setType input c))) := ⟨h.byParent, h.byPage⟩
          exact hset.reparent _ _ _ _
  | move input =>
      obtain ⟨⟨r, t⟩, hop, heq⟩ := Option.map_eq_some_iff.1 hrun
      cases heq
      rcases Component.move_cases hop with ⟨e, -, rfl⟩ | ⟨c, -, -, rfl⟩ | ⟨c, p, -, -, rfl⟩
      · exact h
      · rw [leaveParent_eq]
        exact ⟨h.byParent.leave c.parentId c.id, h.byPage⟩
      · have hmoved := h.reparent input.id c.id c p
        exact ⟨hmoved.byParent, hmoved.byPage⟩
  | remove id =>
      obtain ⟨⟨r, t⟩, hop, heq⟩ := Option.map_eq_some_iff.1 hrun
      cases heq
      exact (removeComponent_cut hop).compact h

theorem compact_of_entityRun (h : EntityOp.Reachable s) : Compact s := by
  induction h with
  | start users => exact ⟨noEmpty_empty, noEmpty_empty⟩
  | step hreach hrun ih =>
      rcases exec_cases (Tables.of_reachable hreach) hrun with ⟨op, a, hop⟩ | hsame
      · exact ih.exec hop
      · exact ih.congr hsame

/-! ### The indexes after a cascade -/

/-- Of an index that files components, those are left that the cut store still has. -/
theorem getElem?_of_cut {idx idx' : SecondaryIndex String String} {f f' : String → Option String}
    (hidx : Files idx f) (hidx' : Files idx' f') (hne : NoEmpty idx) (hcut : Shrinks idx idx')
    (hsub : ∀ x k, f x = some k → ((s'.components.contains x = true) ↔ f' x = some k)) (k : String) :
    idx'[k]? = pruned s'.components.contains idx[k]? := by
  refine hcut.getElem?_eq hne (hidx.nodup k) fun x hx => ?_
  rw [hidx'.mem_iff]
  exact hsub x k (hidx.mem_iff.1 hx)

end InMemoryStore

namespace Component

open InMemoryStore

variable {store : InMemoryStore}

/-- **A cascade removes exactly the subtree.**  On a reachable store the removal of a component
ends; the component and all below it are gone and every other component is as it was; each list
of the two indexes is the old one without the removed ids, or gone if none is left; and the rest
of the store is untouched. -/
theorem remove_subtree (h : EntityOp.Reachable store) {id : String}
    (hid : store.components[id]? ≠ none) :
    ∃ store', Settles (fun fuel => remove fuel store id) (.ok true, store') ∧
      (∀ x, store.InSubtree id x → store'.components[x]? = none) ∧
      (∀ x, ¬ store.InSubtree id x → store'.components[x]? = store.components[x]?) ∧
      (∀ p : String, store'.componentsByParent[p]? =
        pruned store'.components.contains store.componentsByParent[p]?) ∧
      (∀ g : String, store'.componentsByPage[g]? =
        pruned store'.components.contains store.componentsByPage[g]?) ∧
      store' = { store with
        components := store'.components
        componentsByPage := store'.componentsByPage
        componentsByParent := store'.componentsByParent } := by
  have hinv := forestInv_of_entityRun h
  have hcompact := compact_of_entityRun h
  obtain ⟨c, hc⟩ := Option.ne_none_iff_exists'.1 hid
  obtain ⟨k, -, hgen⟩ := hinv.generated id (by simp [pageOf, hc])
  have hne : id ≠ "" := hgen ▸ generateId_ne_empty _ _
  obtain ⟨store', n, hn⟩ := hinv.cascadeDeleteComponent_settles id
  have hpruned := cascadeDeleteComponent_pruned hinv (hn n le_rfl)
  have hcut := cascadeDeleteComponent_cut (hn n le_rfl)
  have hcontains : ∀ x, store'.components.contains x = true ↔ store'.components[x]? ≠ none :=
    fun x => by rw [Std.TreeMap.contains_eq_isSome_getElem?, Option.isSome_iff_ne_none]
  have hkept : ∀ x, store'.components.contains x = true →
      store'.components[x]? = store.components[x]? := fun x hx => by
    by_cases hsub : store.InSubtree id x
    · exact absurd (hpruned.gone x hsub) ((hcontains x).1 hx)
    · exact hpruned.kept x hsub
  refine ⟨store', ⟨n, fun m hm => ?_⟩, hpruned.gone, hpruned.kept,
    getElem?_of_cut hinv.byParent hpruned.inv.byParent hcompact.byParent hcut.byParent
      fun x p hx => ⟨fun hin => ?_, fun hx' => ?_⟩,
    getElem?_of_cut hinv.byPage hpruned.inv.byPage hcompact.byPage hcut.byPage
      fun x g hx => ⟨fun hin => ?_, fun hx' => ?_⟩, hcut.rest⟩
  · have hrun : cascadeDeleteComponent m store id = some store' := hn m hm
    show remove m store id = _
    rw [remove, if_neg hne, if_neg hid, hrun]
    rfl
  · rw [parentOf, hkept x hin, ← hx, parentOf]
  · obtain ⟨d, hd, -⟩ := exists_of_parentOf hx'
    exact (hcontains x).2 (by simp [hd])
  · rw [pageOf, hkept x hin, ← hx, pageOf]
  · have hpage : store'.pageOf x ≠ none := by simp [hx']
    obtain ⟨d, hd⟩ := pageOf_ne_none.1 hpage
    exact (hcontains x).2 (by simp [hd])

/-- The child of the component goes with it. -/
theorem remove_subtree_child :
    ∃ store store', EntityOp.runOps 1 {}
        [.crud (.createPage 0 { path := "/", title := "Home", level := 1, requiresAuth := false }),
          .crud (.createComponent { pageId := "page_00000001", parentId := none, type := "box",
                                    childIds := "" }),
          .crud (.createComponent { pageId := "page_00000001",
                                    parentId := some "component_00000001", type := "text",
                                    childIds := "" })] = some store ∧
      Settles (fun fuel => remove fuel store "component_00000001") (.ok true, store') ∧
      store'.components["component_00000002"]? = none := by
  obtain ⟨store, hrun, hstore⟩ := (Option.any_eq_true _ _).1 (show (EntityOp.runOps 1 {}
        [.crud (.createPage 0 { path := "/", title := "Home", level := 1, requiresAuth := false }),
          .crud (.createComponent { pageId := "page_00000001", parentId := none, type := "box",
                                    childIds := "" }),
          .crud (.createComponent { pageId := "page_00000001",
                                    parentId := some "component_00000001", type := "text",
                                    childIds := "" })]).any
        (fun store => store.components["component_00000001"]? ≠ none ∧
          store.parentOf "component_00000002" = some "component_00000001") = true by decide +kernel)
  obtain ⟨hroot, hchild⟩ := of_decide_eq_true hstore
  obtain ⟨store', hsettles, hgone, -⟩ :=
    remove_subtree (EntityOp.Reachable.runOps (.start ∅) hrun) hroot
  exact ⟨store, store', hrun, hsettles, hgone _ (.inr (.single hchild))⟩

end Component
end Dbal
