/-
# The pages of components

`create` of `src/entities/component/crud/create_component.hpp` asks for the page of a new
component; `remove` of `src/entities/page/crud/delete_page.hpp` takes a page out and looks at no
component.  Components are on existing pages throughout a run exactly if no step of it removes a
page that has components.
-/

import Dbal.Entities.ComponentCascade

namespace Dbal

open Forest SecondaryIndex

namespace InMemoryStore

variable {s s' : InMemoryStore}

/-- Every component is on a page that exists, and every page with an entry in the index
exists. -/
structure OnPages (s : InMemoryStore) : Prop where
  components : ∀ (id : String) (c : ComponentNode),
    s.components[id]? = some c → s.pages[c.pageId]? ≠ none
  keys : ∀ g : String, s.componentsByPage[g]? ≠ none → s.pages[g]? ≠ none

/-- The page of each component exists. -/
def HasPages (s : InMemoryStore) : Prop := ∀ x g, s.pageOf x = some g → s.pages[g]? ≠ none

/-- A page with an entry in the index has a component. -/
theorem exists_on_page (h : ForestInv s) (hcompact : Compact s) {g : String} :
    s.componentsByPage[g]? ≠ none ↔ ∃ x, s.pageOf x = some g := by
  constructor
  · intro hg
    rw [hcompact.byPage.getElem?_eq] at hg
    rcases hentries : s.componentsByPage.entries g with _ | ⟨x, xs⟩
    · simp [hentries, Option.filter] at hg
    · exact ⟨x, h.byPage.mem_iff.1 (by simp [hentries])⟩
  · rintro ⟨x, hx⟩ hnone
    have hmem : x ∈ s.componentsByPage.entries g := h.byPage.mem_iff.2 hx
    simp [entries, hnone] at hmem

/-- The index adds nothing to the components. -/
theorem onPages_iff (h : ForestInv s) (hcompact : Compact s) : s.OnPages ↔ s.HasPages := by
  constructor
  · intro hs x g hx
    obtain ⟨c, hc, rfl⟩ := Option.map_eq_some_iff.1 hx
    exact hs.components x c hc
  · intro hs
    refine ⟨fun id c hc => hs id c.pageId (pageOf_eq hc), fun g hg => ?_⟩
    obtain ⟨x, hx⟩ := (exists_on_page h hcompact).1 hg
    exact hs x g hx

/-! ### What the operations do to the pages of components -/

theorem setComponent_pageOf_self {id : String} {c : ComponentNode}
    (hc : s.components[id]? = some c) (c' : ComponentNode) (hpage : c'.pageId = c.pageId) :
    (s.setComponent id c').pageOf = s.pageOf := by
  rw [setComponent_pageOf, hpage, ← pageOf_eq hc, Function.update_eq_self]

theorem reparent_pageOf {key : String} {c' : ComponentNode} (hc : s.components[key]? = some c')
    (id : String) (c : ComponentNode) (p : String) (hpage : c.pageId = c'.pageId) :
    (Component.reparent s key id c p).2.pageOf = s.pageOf := by
  rw [← setComponent_pageOf_self hc { c with parentId := some p } hpage]
  refine pageOf_congr ?_
  rw [Component.reparent, leaveParent_eq]
  rfl

theorem reorderWrites_pageOf (s : InMemoryStore) (updates : List ComponentOrderUpdate) :
    (Component.reorderWrites s updates).pageOf = s.pageOf := by
  induction updates generalizing s with
  | nil => rfl
  | cons update updates ih =>
      rw [Component.reorderWrites]
      split
      · exact ih s
      · next c hc => exact (ih _).trans (setComponent_pageOf_self hc _ rfl)

theorem reorder_pageOf (s : InMemoryStore) (updates : List ComponentOrderUpdate) :
    (Component.reorder s updates).2.pageOf = s.pageOf := by
  unfold Component.reorder
  split_ifs
  · rfl
  · split
    · rfl
    · exact reorderWrites_pageOf s updates

theorem updateComponent_pageOf {fuel : Nat} {id : String} {input : UpdateComponentNodeInput}
    {r : Result ComponentNode} (hrun : Component.update fuel s id input = some (r, s')) :
    s'.pageOf = s.pageOf := by
  rcases Component.update_cases hrun with ⟨e, -, rfl⟩ | ⟨c, hc, -, ⟨-, e, -, rfl⟩ | ⟨-, hparent⟩⟩
  · rfl
  · exact setComponent_pageOf_self hc _ rfl
  · have hset := setComponent_pageOf_self hc (Component.setType input c) rfl
    have hget : (s.setComponent id (Component.setType input c)).components[id]? =
        some (Component.setType input c) := by simp [setComponent_components]
    have hset' := setComponent_pageOf_self hget (Component.setOrder input (Component.setType input c))
      rfl
    rcases updateParent_cases hparent with rfl | ⟨p, rfl, -⟩
    · rw [hset', hset]
    · rw [reparent_pageOf (by simp [setComponent_components]) _ _ _ rfl, hset', hset]

theorem moveComponent_pageOf {fuel : Nat} {input : MoveComponentInput} {r : Result ComponentNode}
    (hrun : Component.move fuel s input = some (r, s')) : s'.pageOf = s.pageOf := by
  rcases Component.move_cases hrun with ⟨e, -, rfl⟩ | ⟨c, hc, -, rfl⟩ | ⟨c, p, hc, -, rfl⟩
  · rfl
  · rw [leaveParent_eq]
    exact @setComponent_pageOf_self s _ _ hc _ rfl
  · have hmoved := reparent_pageOf hc c.id c p rfl
    have hget : (Component.reparent s input.id c.id c p).2.components[input.id]? =
        some { c with parentId := some p } := by
      rw [Component.reparent, leaveParent_eq]
      exact (setComponent_components input.id input.id _).trans (if_pos rfl)
    exact (setComponent_pageOf_self hget { c with parentId := some p, order := input.order } rfl).trans
      hmoved

theorem removeComponent_pageOf (h : ForestInv s) {fuel : Nat} {id : String} {r : Result Bool}
    (hrun : Component.remove fuel s id = some (r, s')) {x g : String} (hx : s'.pageOf x = some g) :
    s.pageOf x = some g := by
  unfold Component.remove at hrun
  split_ifs at hrun
  · cases hrun
    exact hx
  · cases hrun
    exact hx
  · obtain ⟨s₁, hs₁, heq⟩ := Option.map_eq_some_iff.1 hrun
    cases heq
    have hcut := cascadeDeleteComponent_pruned h hs₁
    by_cases hsub : s.InSubtree id x
    · simp [pageOf, hcut.gone x hsub] at hx
    · rwa [pageOf, hcut.kept x hsub] at hx

theorem createComponent_page {input : CreateComponentNodeInput} {r : Result ComponentNode}
    (hrun : Component.create s input = some (r, s')) :
    s' = s ∨ Component.insertNew s input = some (r, s') ∧ s.pages[input.pageId]? ≠ none := by
  rcases create_cases hrun with rfl | ⟨hnew, -⟩
  · exact .inl rfl
  · unfold Component.create at hrun
    split_ifs at hrun with h₁ h₂ h₃ hpage
    iterate 4
      · cases hrun
        exact .inl rfl
    exact .inr ⟨hnew, hpage⟩

/-- **A component is where it was, or on a page that exists.** -/
theorem exec_pageOf (h : ForestInv s) {fuel : Nat} {op : Component.Op} {a : Component.Answer}
    (hrun : Component.exec fuel s op = some (a, s')) {x g : String} (hx : s'.pageOf x = some g) :
    s.pageOf x = some g ∨ s.pages[g]? ≠ none := by
  cases op with
  | reorder updates =>
      cases hrun
      exact .inl (reorder_pageOf s updates ▸ hx)
  | createPage now input =>
      obtain ⟨⟨r, t⟩, hop, heq⟩ := Option.map_eq_some_iff.1 hrun
      cases heq
      exact .inl (pageOf_congr (Page.create_only hop).sameComponents.components ▸ hx)
  | create input =>
      obtain ⟨⟨r, t⟩, hop, heq⟩ := Option.map_eq_some_iff.1 hrun
      cases heq
      rcases createComponent_page hop with rfl | ⟨hnew, hexists⟩
      · exact .inl hx
      · obtain ⟨-, c, -, -, hpage, -, hcomp, -⟩ := insertNew_eq hnew
        rw [pageOf_congr (s := s.setComponent c.id c) hcomp, setComponent_pageOf] at hx
        rcases eq_or_ne x c.id with rfl | hxc
        · obtain rfl : c.pageId = g := by simpa using hx
          exact .inr (hpage ▸ hexists)
        · exact .inl (by simpa [hxc] using hx)
  | update id input =>
      obtain ⟨⟨r, t⟩, hop, heq⟩ := Option.map_eq_some_iff.1 hrun
      cases heq
      exact .inl (updateComponent_pageOf hop ▸ hx)
  | move input =>
      obtain ⟨⟨r, t⟩, hop, heq⟩ := Option.map_eq_some_iff.1 hrun
      cases heq
      exact .inl (moveComponent_pageOf hop ▸ hx)
  | remove id =>
      obtain ⟨⟨r, t⟩, hop, heq⟩ := Option.map_eq_some_iff.1 hrun
      cases heq
      exact .inl (removeComponent_pageOf h hop hx)

/-! ### What the operations do to the pages -/

theorem OnlyComponents.pages (h : OnlyComponents s s') : s'.pages = s.pages := by rw [h]

theorem OnlyWorkflows.pages (h : OnlyWorkflows s s') : s'.pages = s.pages := by rw [h]

theorem OnlySessions.pages (h : OnlySessions s s') : s'.pages = s.pages := by rw [h]

theorem OnlyPackages.pages (h : OnlyPackages s s') : s'.pages = s.pages := by rw [h]

theorem setFirstLogin_pages (s : InMemoryStore) (username : String) (flag : Bool) :
    (Credential.setFirstLogin s username flag).2.pages = s.pages := by
  unfold Credential.setFirstLogin
  split_ifs
  · rfl
  · split <;> rfl

/-- Every page of the one store is in the other. -/
def KeepsPages (s s' : InMemoryStore) : Prop := ∀ g : String, s.pages[g]? ≠ none → s'.pages[g]? ≠ none

theorem KeepsPages.of_eq (h : s'.pages = s.pages) : KeepsPages s s' := fun g hg => by rwa [h]

theorem KeepsPages.insert (h : KeepsPages s s') {id : String} {page : PageConfig} :
    KeepsPages s (s'.setPage id page) := by
  intro g hg
  show (s'.pages.insert id page)[g]? ≠ none
  rw [getElem?_insert_eq]
  split_ifs
  · simp
  · exact h g hg

theorem updatePath_keepsPages {id : String} {page page' : PageConfig} {path : Option String}
    (hok : Page.updatePath s id page path = .ok (page', s')) : KeepsPages s s' := by
  cases path with
  | none =>
      obtain ⟨-, rfl⟩ := Prod.mk.inj (Except.ok.inj hok)
      exact .of_eq rfl
  | some path =>
      rw [Page.updatePath] at hok
      split_ifs at hok
      obtain ⟨-, rfl⟩ := Prod.mk.inj (Except.ok.inj hok)
      exact KeepsPages.insert (.of_eq rfl)

theorem updatePage_keepsPages (s : InMemoryStore) (id : String) (input : UpdatePageInput) :
    KeepsPages s (Page.update s id input).2 := by
  rcases Page.update_cases s id input with ⟨e, hrun, -⟩ | ⟨page, -, hrun⟩
  · exact .of_eq (by rw [hrun])
  · rcases hrun with ⟨e, -, hrun⟩ | ⟨page', s', hpath, hrun⟩
    · exact .of_eq (by rw [hrun])
    · have hkeeps := updatePath_keepsPages hpath
      rcases hrun with ⟨-, e, hrun⟩ | ⟨-, -, e, hrun⟩ | ⟨-, -, hrun⟩ <;> rw [hrun]
      · exact hkeeps
      · exact hkeeps.insert
      · exact hkeeps.insert.insert

theorem createPage_keepsPages {now : Int} {input : CreatePageInput} {r : Result PageConfig}
    (hrun : Page.create s now input = some (r, s')) : KeepsPages s s' := by
  unfold Page.create at hrun
  split_ifs at hrun
  iterate 4
    · cases hrun
      exact .of_eq rfl
  unfold increment at hrun
  split_ifs at hrun
  cases hrun
  have hcounted : KeepsPages s { s with
      pagePaths := s.pagePaths.insert input.path (generateId "page" (s.pageCounter + 1))
      pageCounter := s.pageCounter + 1 } := .of_eq rfl
  exact hcounted.insert

/-- **Only the removal of a page makes one disappear.** -/
theorem exec_keepsPages (h : Tables s) {fuel : Nat} {op : EntityOp} {r : Result Unit}
    (hop : ∀ id, op ≠ .crud (.removePage id)) (hrun : op.exec fuel s = some (r, s')) :
    KeepsPages s s' := by
  cases op with
  | crud op =>
      cases op with
      | createComponent input =>
          obtain ⟨p, hp, heq⟩ := Option.map_eq_some_iff.1 hrun
          obtain rfl : p.2 = s' := congrArg Prod.snd heq
          exact .of_eq (createComponent_only hp).pages
      | updateComponent id input =>
          obtain ⟨p, hp, heq⟩ := Option.map_eq_some_iff.1 hrun
          obtain rfl : p.2 = s' := congrArg Prod.snd heq
          exact .of_eq (updateComponent_only hp).pages
      | moveComponent input =>
          obtain ⟨p, hp, heq⟩ := Option.map_eq_some_iff.1 hrun
          obtain rfl : p.2 = s' := congrArg Prod.snd heq
          exact .of_eq (moveComponent_only hp).pages
      | removeComponent id =>
          obtain ⟨p, hp, heq⟩ := Option.map_eq_some_iff.1 hrun
          obtain rfl : p.2 = s' := congrArg Prod.snd heq
          exact .of_eq (removeComponent_only hp).pages
      | createPage now input =>
          obtain ⟨p, hp, heq⟩ := Option.map_eq_some_iff.1 hrun
          obtain rfl : p.2 = s' := congrArg Prod.snd heq
          exact createPage_keepsPages hp
      | updatePage id input =>
          obtain rfl : (Page.update s id input).2 = s' := congrArg Prod.snd (Option.some.inj hrun)
          exact updatePage_keepsPages s id input
      | removePage id => exact absurd rfl (hop id)
      | createSession now input =>
          obtain ⟨p, hp, heq⟩ := Option.map_eq_some_iff.1 hrun
          obtain rfl : p.2 = s' := congrArg Prod.snd heq
          exact .of_eq (h.sessions.create hp).2.pages
      | updateSession id input =>
          obtain rfl : (Session.update s id input).2 = s' :=
            congrArg Prod.snd (Option.some.inj hrun)
          exact .of_eq (h.sessions.update id input).2.pages
      | removeSession id =>
          obtain rfl : (Session.remove s id).2 = s' := congrArg Prod.snd (Option.some.inj hrun)
          exact .of_eq (h.sessions.remove id).2.pages
  | createWorkflow now input =>
      obtain ⟨p, hp, heq⟩ := Option.map_eq_some_iff.1 hrun
      obtain rfl : p.2 = s' := congrArg Prod.snd heq
      exact .of_eq (h.workflows.create hp).2.pages
  | _ =>
      obtain ⟨-, rfl⟩ := Prod.mk.inj (Option.some.inj hrun)
      refine .of_eq ?_
      first
        | exact (reorder_only s _).pages
        | exact setFirstLogin_pages s _ _
        | exact (h.workflows.update _ _).2.pages
        | exact (h.workflows.remove _).2.pages
        | exact (h.sessions.get _ _).2.pages
        | exact (h.sessions.getByToken _ _).2.pages
        | exact (h.sessions.cleanExpired _).2.pages
        | exact (keeps_create s _ _).2.pages
        | exact (keeps_update s _ _).2.pages
        | exact (keeps_remove s _).2.pages
        | exact (keeps_createAll s _ _ _).2.pages
        | exact (keeps_updateAll s _ _).2.pages
        | exact (keeps_removeAll s _ _).2.pages

theorem hasPages_exec (htables : Tables s) (h : ForestInv s) (hs : s.HasPages) {fuel : Nat}
    {op : EntityOp} {r : Result Unit} (hop : ∀ id, op ≠ .crud (.removePage id))
    (hrun : op.exec fuel s = some (r, s')) : s'.HasPages := by
  have hkeeps := exec_keepsPages htables hop hrun
  intro x g hx
  rcases exec_cases htables hrun with ⟨op, a, hcomp⟩ | hsame
  · rcases exec_pageOf h hcomp hx with hold | hexists
    · exact hkeeps g (hs x g hold)
    · exact hkeeps g hexists
  · exact hkeeps g (hs x g (pageOf_congr hsame.components ▸ hx))

/-- **A page can be removed exactly if no component is on it.** -/
theorem onPages_removePage (htables : Tables s) (h : ForestInv s) (hcompact : Compact s)
    (hs : s.OnPages) (id : String) : (Page.remove s id).2.OnPages ↔
      (s.pages[id]? ≠ none → s.componentsByPage[id]? = none) := by
  rcases hpage : s.pages[id]? with _ | page
  · have hsame : (Page.remove s id).2 = s := by
      simp only [Page.remove, hpage]
      split_ifs <;> rfl
    rw [hsame]
    exact iff_of_true hs fun hne => absurd rfl hne
  · obtain ⟨n, -, hgen⟩ := htables.pages.generated id page hpage
    have hne : id ≠ "" := hgen ▸ generateId_ne_empty _ _
    have herased : (Page.remove s id).2 = { s with
        pagePaths := s.pagePaths.erase page.path
        pages := s.pages.erase id } := by
      simp only [Page.remove, hpage, if_neg hne]
    rw [herased]
    constructor
    · intro hs' _
      by_contra hkey
      exact hs'.keys id hkey (by simp)
    · intro hkey
      have hnone := hkey (by simp)
      have hother : ∀ g : String, g ≠ id → s.pages[g]? ≠ none →
          (s.pages.erase id)[g]? ≠ none := fun g hg hexists => by
        rwa [getElem?_erase_eq, if_neg (Ne.symm hg)]
      refine ⟨fun x c hc => hother _ ?_ (hs.components x c hc), fun g hg => hother g ?_ (hs.keys g hg)⟩
      · intro heq
        exact (exists_on_page h hcompact).2 ⟨x, heq ▸ pageOf_eq hc⟩ hnone
      · rintro rfl
        exact hg hnone

end InMemoryStore

/-- The operation removes no page with components. -/
def EntityOp.SparesPages (s : InMemoryStore) : EntityOp → Prop
  | .crud (.removePage id) => s.pages[id]? ≠ none → s.componentsByPage[id]? = none
  | _ => True

namespace EntityOp

open InMemoryStore

/-- A run from a store with users only, as the operations with the stores before them, and the
store at its end. -/
inductive History : List (InMemoryStore × EntityOp) → InMemoryStore → Prop where
  | start (users : Std.TreeMap String User) : History [] { users }
  | step {steps : List (InMemoryStore × EntityOp)} {s s' : InMemoryStore} {fuel : Nat}
      {op : EntityOp} {r : Result Unit} : History steps s → op.exec fuel s = some (r, s') →
      History (steps ++ [(s, op)]) s'

variable {steps : List (InMemoryStore × EntityOp)} {s s' : InMemoryStore}

theorem History.reachable (h : History steps s) : Reachable s := by
  induction h with
  | start users => exact .start users
  | step _ hrun ih => exact ih.step hrun

/-- The history of a run. -/
theorem History.runOps (h : History steps s) {fuel : Nat} {ops : List EntityOp}
    (hrun : EntityOp.runOps fuel s ops = some s') :
    ∃ more, more.map (·.2) = ops ∧ History (steps ++ more) s' := by
  induction ops generalizing s steps with
  | nil => exact ⟨[], rfl, by simpa [Option.some.inj hrun] using h⟩
  | cons op ops ih =>
      rw [EntityOp.runOps] at hrun
      split at hrun
      · cases hrun
      · next r t hop =>
          obtain ⟨more, hops, hmore⟩ := ih (h.step hop) hrun
          exact ⟨(s, op) :: more, congrArg (op :: ·) hops, by simpa using hmore⟩

/-- **One step**: from a store whose components are on pages. -/
theorem onPages_exec_iff (h : Reachable s) (hs : s.OnPages) {fuel : Nat} {op : EntityOp}
    {r : Result Unit} (hrun : op.exec fuel s = some (r, s')) :
    s'.OnPages ↔ op.SparesPages s := by
  have htables := Tables.of_reachable h
  have hinv := forestInv_of_entityRun h
  have hcompact := compact_of_entityRun h
  by_cases hop : ∃ id, op = .crud (.removePage id)
  · obtain ⟨id, rfl⟩ := hop
    obtain rfl : (Page.remove s id).2 = s' := congrArg Prod.snd (Option.some.inj hrun)
    exact onPages_removePage htables hinv hcompact hs id
  · have hother : ∀ id, op ≠ .crud (.removePage id) := fun id heq => hop ⟨id, heq⟩
    have hspares : op.SparesPages s := by
      unfold SparesPages
      split
      · next id => exact absurd rfl (hother id)
      · trivial
    refine iff_of_true ?_ hspares
    have h' := h.step hrun
    rw [onPages_iff (forestInv_of_entityRun h') (compact_of_entityRun h')]
    exact hasPages_exec htables hinv ((onPages_iff hinv hcompact).1 hs) hother hrun

/-- **Components belong to existing pages throughout a run exactly if the run removes no page with
components.** -/
theorem components_on_pages_iff (h : History steps s) :
    ((∀ step ∈ steps, step.1.OnPages) ∧ s.OnPages) ↔
      ∀ step ∈ steps, step.2.SparesPages step.1 := by
  induction h with
  | start users =>
      refine iff_of_true ⟨by simp, fun id c hc => ?_, fun g hg => ?_⟩ (by simp)
      · simp at hc
      · simp at hg
  | @step steps s s' fuel op r hrun hexec ih =>
      simp only [List.forall_mem_append, List.forall_mem_singleton, ← ih]
      constructor
      · rintro ⟨hbefore, hs'⟩
        exact ⟨hbefore, (onPages_exec_iff hrun.reachable hbefore.2 hexec).1 hs'⟩
      · rintro ⟨hbefore, hspares⟩
        exact ⟨hbefore, (onPages_exec_iff hrun.reachable hbefore.2 hexec).2 hspares⟩

/-- The component of a page that stays. -/
theorem components_on_pages_one_component :
    ∃ store, EntityOp.runOps 1 {}
        [.crud (.createPage 0 { path := "/", title := "Home", level := 1, requiresAuth := false }),
          .crud (.createComponent { pageId := "page_00000001", parentId := none, type := "box",
                                    childIds := "" })] = some store ∧ store.OnPages := by
  obtain ⟨store, hrun⟩ := Option.isSome_iff_exists.1 (show (EntityOp.runOps 1 {}
        [.crud (.createPage 0 { path := "/", title := "Home", level := 1, requiresAuth := false }),
          .crud (.createComponent { pageId := "page_00000001", parentId := none, type := "box",
                                    childIds := "" })]).isSome = true by decide +kernel)
  obtain ⟨steps, hops, hhistory⟩ := (History.start ∅).runOps hrun
  refine ⟨store, hrun, ((components_on_pages_iff hhistory).2 fun step hstep => ?_).2⟩
  have hop : step.2 ∈ steps.map (·.2) := List.mem_map_of_mem hstep
  rw [hops, List.mem_cons, List.mem_singleton] at hop
  rcases hop with hop | hop <;> rw [hop] <;> trivial

/-- **A page is removed and its component stays.** -/
theorem removed_page_leaves_component :
    ∃ store, EntityOp.runOps 1 {}
        [.crud (.createPage 0 { path := "/", title := "Home", level := 1, requiresAuth := false }),
          .crud (.createComponent { pageId := "page_00000001", parentId := none, type := "box",
                                    childIds := "" }),
          .crud (.removePage "page_00000001")] = some store ∧ ¬ store.OnPages := by
  obtain ⟨store, hrun, hkey⟩ := (Option.any_eq_true _ _).1 (show (EntityOp.runOps 1 {}
        [.crud (.createPage 0 { path := "/", title := "Home", level := 1, requiresAuth := false }),
          .crud (.createComponent { pageId := "page_00000001", parentId := none, type := "box",
                                    childIds := "" }),
          .crud (.removePage "page_00000001")]).any
        (fun store => store.componentsByPage["page_00000001"]? ≠ none ∧
          store.pages["page_00000001"]?.isNone) = true by decide +kernel)
  obtain ⟨hkey, hpage⟩ := of_decide_eq_true hkey
  exact ⟨store, hrun, fun h => h.keys _ hkey (Option.isNone_iff_eq_none.1 hpage)⟩

end EntityOp
end Dbal
