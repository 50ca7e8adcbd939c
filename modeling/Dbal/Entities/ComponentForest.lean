/-
# The component forest

What every run of the component operations keeps: the two indexes list exactly
the components they should, each once, a parent is an existing component of the
same page, and following parents from any component ends (`ForestInv`).

The indexes and the parent fields are edited by hand, so each operation is
followed by its effect on three maps: where an id is filed by parent, where it is
filed by page, and its parent.  `hasDescendant` answers `Below`
(`hasDescendant_eq`), which is what keeps a change of parent from closing a
cycle.  Because the parent map is a forest over finitely many components, the
recursions over children end on every reachable store.
-/

import Dbal.Entities.Component
import Dbal.Store.Forest
import Dbal.Store.Fuel

namespace Dbal

open Forest SecondaryIndex

namespace InMemoryStore

/-- The parent of a component, if it has one. -/
def parentOf (store : InMemoryStore) (id : String) : Option String :=
  store.components[id]?.bind (·.parentId)

/-- The page of a component, if there is such a component. -/
def pageOf (store : InMemoryStore) (id : String) : Option String :=
  store.components[id]?.map (·.pageId)

/-- The invariant of the component collections. -/
structure ForestInv (store : InMemoryStore) : Prop where
  id_eq : ∀ id (c : ComponentNode), store.components[id]? = some c → c.id = id
  byParent : Files store.componentsByParent store.parentOf
  byPage : Files store.componentsByPage store.pageOf
  samePage : ∀ id p, store.parentOf id = some p → store.pageOf p = store.pageOf id
  rooted : ∀ id, Rooted store.parentOf id
  generated : ∀ id, store.pageOf id ≠ none →
    ∃ n, n ≤ store.componentCounter ∧ id = generateId "component" n

variable {s s' : InMemoryStore}

theorem pageOf_ne_none {id : String} : s.pageOf id ≠ none ↔ ∃ c, s.components[id]? = some c := by
  cases h : s.components[id]? <;> simp [pageOf, h]

theorem exists_of_parentOf {id p : String} (h : s.parentOf id = some p) :
    ∃ c, s.components[id]? = some c ∧ c.parentId = some p := by
  simpa [parentOf, Option.bind_eq_some_iff] using h

theorem parentOf_eq {id : String} {c : ComponentNode} (h : s.components[id]? = some c) :
    s.parentOf id = c.parentId := by
  simp [parentOf, h]

theorem pageOf_eq {id : String} {c : ComponentNode} (h : s.components[id]? = some c) :
    s.pageOf id = some c.pageId := by
  simp [pageOf, h]

/-! ### The empty store -/

theorem ForestInv.empty : ForestInv {} where
  id_eq := by simp
  byParent := exact_empty.congr (by simp [parentOf])
  byPage := exact_empty.congr (by simp [pageOf])
  samePage := by simp [parentOf]
  rooted := fun id => .root (by simp [parentOf])
  generated := by simp [pageOf]

/-! ### Effects of the writes on the parent and the page of a component -/

@[simp] theorem setComponent_componentsByParent (id : String) (c : ComponentNode) :
    (s.setComponent id c).componentsByParent = s.componentsByParent := rfl

@[simp] theorem setComponent_componentsByPage (id : String) (c : ComponentNode) :
    (s.setComponent id c).componentsByPage = s.componentsByPage := rfl

@[simp] theorem setComponent_componentCounter (id : String) (c : ComponentNode) :
    (s.setComponent id c).componentCounter = s.componentCounter := rfl

theorem insert_components (id x : String) (c : ComponentNode) :
    (s.components.insert id c)[x]? = if x = id then some c else s.components[x]? := by
  by_cases h : id = x
  · simp [h]
  · simp [Std.TreeMap.getElem?_insert, h, Ne.symm h]

theorem erase_components (id x : String) :
    (s.components.erase id)[x]? = if x = id then none else s.components[x]? := by
  by_cases h : id = x
  · simp [h]
  · simp [Std.TreeMap.getElem?_erase, h, Ne.symm h]

theorem setComponent_components (id x : String) (c : ComponentNode) :
    (s.setComponent id c).components[x]? = if x = id then some c else s.components[x]? :=
  insert_components id x c

theorem setComponent_parentOf (id : String) (c : ComponentNode) :
    (s.setComponent id c).parentOf = Function.update s.parentOf id c.parentId := by
  funext x
  by_cases h : x = id
  · subst h
    simp [parentOf, setComponent_components]
  · simp [parentOf, setComponent_components, h]

theorem setComponent_pageOf (id : String) (c : ComponentNode) :
    (s.setComponent id c).pageOf = Function.update s.pageOf id (some c.pageId) := by
  funext x
  by_cases h : x = id
  · subst h
    simp [pageOf, setComponent_components]
  · simp [pageOf, setComponent_components, h]

theorem leaveParent_eq (o : Option String) (id : String) :
    s.leaveParent o id = { s with componentsByParent := s.componentsByParent.leave o id } := by
  cases o <;> rfl

theorem joinParent_eq (o : Option String) (id : String) :
    s.joinParent o id = { s with componentsByParent := s.componentsByParent.join o id } := by
  cases o <;> rfl

/-- Two stores with the same components have the same parents and pages. -/
theorem parentOf_congr (h : s'.components = s.components) : s'.parentOf = s.parentOf := by
  funext x
  rw [parentOf, parentOf, h]

theorem pageOf_congr (h : s'.components = s.components) : s'.pageOf = s.pageOf := by
  funext x
  rw [pageOf, pageOf, h]

/-! ### What each kind of write keeps -/

/-- **A component is written again, under its old parent, no parent, or another of
its page that is not below it**, and its parent index follows. -/
theorem ForestInv.rewrite (h : ForestInv s) {id : String} {c c' : ComponentNode}
    (hc : s.components[id]? = some c) (hid : c'.id = c.id) (hpage : c'.pageId = c.pageId)
    (hnew : ∀ p, c'.parentId = some p → c.parentId = some p ∨
      s.pageOf p = some c.pageId ∧ p ≠ id ∧ ¬ Below s.parentOf id p)
    (hcomp : s'.components = s.components.insert id c')
    (hbyParent : Files s'.componentsByParent (Function.update s.parentOf id c'.parentId))
    (hbyPage : s'.componentsByPage = s.componentsByPage)
    (hcounter : s'.componentCounter = s.componentCounter) : ForestInv s' := by
  have hpar : s'.parentOf = Function.update s.parentOf id c'.parentId := by
    rw [parentOf_congr (s := s.setComponent id c') hcomp, setComponent_parentOf]
  have hpg : s'.pageOf = s.pageOf := by
    rw [pageOf_congr (s := s.setComponent id c') hcomp, setComponent_pageOf, hpage,
      ← pageOf_eq hc, Function.update_eq_self]
  refine ⟨fun x d hd => ?_, hpar ▸ hbyParent, ?_, fun x q hx => ?_, fun x => ?_, ?_⟩
  · rw [hcomp, insert_components] at hd
    split at hd
    · next hx =>
        obtain rfl : c' = d := Option.some.inj hd
        rw [hid, hx, h.id_eq id c hc]
    · exact h.id_eq x d hd
  · rw [hbyPage, hpg]
    exact h.byPage
  · rw [hpar] at hx
    rw [hpg]
    rcases eq_or_ne x id with rfl | hxid
    · rcases hnew q (by simpa using hx) with hold | ⟨hq, -, -⟩
      · exact h.samePage x q (parentOf_eq hc ▸ hold)
      · rw [hq, pageOf_eq hc]
    · exact h.samePage x q (by simpa [hxid] using hx)
  · rw [hpar]
    have hother : ∀ y, y ≠ id → Function.update s.parentOf id c'.parentId y = s.parentOf y :=
      fun y hy => by simp [hy]
    cases ho : c'.parentId with
    | none =>
        refine (h.rooted x).mono fun y q hy => ?_
        rcases eq_or_ne y id with rfl | hyid
        · simp at hy
        · simpa [hyid] using hy
    | some p =>
        rcases hnew p ho with hold | ⟨-, hne, hnb⟩
        · rw [← hold, ← parentOf_eq hc, Function.update_eq_self]
          exact h.rooted x
        · exact Rooted.reparent h.rooted (by simp) (ho ▸ hother) hne hnb x
  · rw [hpg, hcounter]
    exact h.generated

/-- A write to the other fields of a component. -/
theorem ForestInv.setFields (h : ForestInv s) {id : String} {c c' : ComponentNode}
    (hc : s.components[id]? = some c) (hid : c'.id = c.id) (hpage : c'.pageId = c.pageId)
    (hparent : c'.parentId = c.parentId) : ForestInv (s.setComponent id c') := by
  refine h.rewrite hc hid hpage (fun p hp => .inl (hparent ▸ hp)) rfl ?_ rfl rfl
  rw [hparent, ← parentOf_eq hc, Function.update_eq_self]
  exact h.byParent

/-- A component that becomes a root. -/
theorem ForestInv.unsetParent (h : ForestInv s) {id : String} {c c' : ComponentNode}
    (hc : s.components[id]? = some c) (hid : c'.id = c.id) (hpage : c'.pageId = c.pageId)
    (hparent : c'.parentId = none) :
    ForestInv ((s.leaveParent c.parentId id).setComponent id c') := by
  rw [leaveParent_eq]
  refine h.rewrite hc hid hpage (by simp [hparent]) rfl ?_ rfl rfl
  rw [hparent]
  exact h.byParent.leave (parentOf_eq hc)

/-- **A component that moves under another of its page, not below itself.** -/
theorem ForestInv.reparent (h : ForestInv s) {id p : String} {c : ComponentNode}
    (hc : s.components[id]? = some c) (hp : s.pageOf p = some c.pageId) (hne : p ≠ id)
    (hnb : ¬ Below s.parentOf id p) : ForestInv (Component.reparent s id id c p).2 := by
  rw [Component.reparent, leaveParent_eq]
  have hnew : ∀ q, some p = some q → c.parentId = some q ∨
      s.pageOf q = some c.pageId ∧ q ≠ id ∧ ¬ Below s.parentOf id q := by
    intro q hq
    obtain rfl : p = q := Option.some.inj hq
    exact .inr ⟨hp, hne, hnb⟩
  refine @ForestInv.rewrite s _ h id c { c with parentId := some p } hc rfl rfl hnew rfl ?_ rfl rfl
  · have hfile := (h.byParent.leave (parentOf_eq hc)).join (Function.update_self ..) (some p)
    rw [Function.update_idem] at hfile
    exact hfile

/-- A new component, under a parent of its page if it has one. -/
theorem ForestInv.insertNew (h : ForestInv s) {c : ComponentNode}
    (hfresh : s.pageOf c.id = none)
    (hparent : ∀ p, c.parentId = some p → s.pageOf p = some c.pageId)
    (hid : c.id = generateId "component" (s.componentCounter + 1))
    (hcomp : s'.components = s.components.insert c.id c)
    (hbyParent : s'.componentsByParent = s.componentsByParent.join c.parentId c.id)
    (hbyPage : s'.componentsByPage = s.componentsByPage.join (some c.pageId) c.id)
    (hcounter : s'.componentCounter = s.componentCounter + 1) : ForestInv s' := by
  have hnone : s.components[c.id]? = none := by simpa [pageOf] using hfresh
  have hpnone : s.parentOf c.id = none := by simp [parentOf, hnone]
  have hpar : s'.parentOf = Function.update s.parentOf c.id c.parentId := by
    rw [parentOf_congr (s := s.setComponent c.id c) hcomp, setComponent_parentOf]
  have hpg : s'.pageOf = Function.update s.pageOf c.id (some c.pageId) := by
    rw [pageOf_congr (s := s.setComponent c.id c) hcomp, setComponent_pageOf]
  -- nothing is filed under an id that is not in use yet
  have hleaf : ∀ x, s.parentOf x ≠ some c.id := fun x hx => by
    have hpage := h.samePage x c.id hx
    obtain ⟨d, hd, -⟩ := exists_of_parentOf hx
    rw [hfresh, pageOf_eq hd] at hpage
    cases hpage
  refine ⟨fun x d hd => ?_, ?_, ?_, fun x q hx => ?_, fun x => ?_, fun x hx => ?_⟩
  · rw [hcomp, insert_components] at hd
    split at hd
    · next hx =>
        obtain rfl : c = d := Option.some.inj hd
        exact hx.symm
    · exact h.id_eq x d hd
  · rw [hbyParent, hpar]
    exact h.byParent.join hpnone c.parentId
  · rw [hbyPage, hpg]
    exact h.byPage.join hfresh (some c.pageId)
  · rw [hpar] at hx
    rw [hpg]
    have hq : q ≠ c.id := by
      rintro rfl
      rcases eq_or_ne x c.id with rfl | hxc
      · have := hparent c.id (by simpa using hx)
        rw [hfresh] at this
        cases this
      · exact hleaf x (by simpa [hxc] using hx)
    rcases eq_or_ne x c.id with rfl | hxc
    · simpa [hq] using hparent q (by simpa using hx)
    · simpa [hq, hxc] using h.samePage x q (by simpa [hxc] using hx)
  · rw [hpar]
    cases ho : c.parentId with
    | none =>
        rw [← hpnone, Function.update_eq_self]
        exact h.rooted x
    | some p =>
        refine Rooted.reparent h.rooted (a := c.id) (p := p) (by simp) (fun y hy => by simp [hy]) ?_ (fun hb => ?_) x
        · rintro rfl
          have := hparent c.id ho
          rw [hfresh] at this
          cases this
        · obtain ⟨y, hy, -⟩ := hb.exists_child
          exact hleaf y hy
  · rw [hcounter]
    rw [hpg] at hx
    rcases eq_or_ne x c.id with rfl | hxc
    · exact ⟨_, Nat.le_refl _, hid⟩
    · obtain ⟨n, hn, rfl⟩ := h.generated x (by simpa [hxc] using hx)
      exact ⟨n, by omega, rfl⟩

/-- A component without children that is taken out. -/
theorem ForestInv.removeLeaf (h : ForestInv s) {id : String}
    (hleaf : ∀ x, s.parentOf x ≠ some id)
    (hcomp : s'.components = s.components.erase id)
    (hbyParent : Files s'.componentsByParent (Function.update s.parentOf id none))
    (hbyPage : Files s'.componentsByPage (Function.update s.pageOf id none))
    (hcounter : s'.componentCounter = s.componentCounter) : ForestInv s' := by
  have hget : ∀ x, s'.components[x]? = if x = id then none else s.components[x]? := fun x => by
    rw [hcomp, erase_components]
  have hpar : s'.parentOf = Function.update s.parentOf id none := by
    funext x
    rcases eq_or_ne x id with rfl | hx <;> simp_all [parentOf]
  have hpg : s'.pageOf = Function.update s.pageOf id none := by
    funext x
    rcases eq_or_ne x id with rfl | hx <;> simp_all [pageOf]
  have hsub : ∀ x q, Function.update s.parentOf id none x = some q →
      x ≠ id ∧ q ≠ id ∧ s.parentOf x = some q := by
    intro x q hx
    rcases eq_or_ne x id with rfl | hxid
    · simp at hx
    · have hxq : s.parentOf x = some q := by simpa [hxid] using hx
      exact ⟨hxid, fun hq => hleaf x (hq ▸ hxq), hxq⟩
  refine ⟨fun x d hd => ?_, hpar ▸ hbyParent, hpg ▸ hbyPage, fun x q hx => ?_, fun x => ?_,
    fun x hx => ?_⟩
  · rw [hget] at hd
    split at hd
    · cases hd
    · exact h.id_eq x d hd
  · obtain ⟨hxid, hqid, hxq⟩ := hsub x q (hpar ▸ hx)
    rw [hpg, Function.update_of_ne hqid, Function.update_of_ne hxid]
    exact h.samePage x q hxq
  · rw [hpar]
    exact (h.rooted x).mono fun y q hy => (hsub y q hy).2.2
  · rw [hcounter]
    rw [hpg] at hx
    rcases eq_or_ne x id with rfl | hxid
    · simp at hx
    · exact h.generated x (by simpa [hxid] using hx)

/-! ### `hasDescendant` -/

/-- A child is a component with that parent. -/
theorem ForestInv.mem_children (h : ForestInv s) {id p : String} :
    id ∈ s.componentsByParent.entries p ↔ s.parentOf id = some p :=
  h.byParent.mem_iff

/-- It looks at the index alone. -/
theorem hasDescendant_congr (h : s'.componentsByParent = s.componentsByParent) (fuel : Nat)
    (ancestorId candidateId : String) :
    s'.hasDescendant fuel ancestorId candidateId = s.hasDescendant fuel ancestorId candidateId := by
  induction fuel generalizing ancestorId with
  | zero => rfl
  | succ fuel ih => simp only [hasDescendant, h, ih]

theorem anyChild_true {f : String → Option Bool} :
    ∀ {cs : List String}, anyChild f cs = some true → ∃ c ∈ cs, f c = some true
  | c :: cs, h => by
      rw [anyChild] at h
      split at h
      · cases h
      · next hc => exact ⟨c, List.mem_cons_self .., hc⟩
      · obtain ⟨d, hd, hfd⟩ := anyChild_true h
        exact ⟨d, List.mem_cons_of_mem _ hd, hfd⟩

theorem anyChild_false {f : String → Option Bool} :
    ∀ {cs : List String}, anyChild f cs = some false → ∀ c ∈ cs, f c = some false
  | [], _ => by simp
  | c :: cs, h => by
      rw [anyChild] at h
      split at h
      · cases h
      · cases h
      · next hc => exact List.forall_mem_cons.2 ⟨hc, anyChild_false h⟩

/-- The children of an id as the recursions find them. -/
theorem ForestInv.children_eq (h : ForestInv s) {a : String} {children : List String}
    (hch : s.componentsByParent[a]? = some children) (d : String) :
    d ∈ children ↔ s.parentOf d = some a := by
  rw [← h.mem_children]
  simp [entries, hch]

/-- An id without an entry in the index has no child. -/
theorem ForestInv.no_children (h : ForestInv s) {a : String}
    (hch : s.componentsByParent[a]? = none) (d : String) : s.parentOf d ≠ some a := by
  rw [ne_eq, ← h.mem_children]
  simp [entries, hch]

/-- **`hasDescendant` answers whether the candidate is below the ancestor.** -/
theorem ForestInv.hasDescendant_eq (h : ForestInv s) :
    ∀ {n : Nat} {a c : String} {b : Bool}, s.hasDescendant n a c = some b →
      (b = true ↔ Below s.parentOf a c)
  | 0, _, _, _, hrun => by cases hrun
  | n + 1, a, c, b, hrun => by
      rw [hasDescendant] at hrun
      rw [below_iff_child]
      cases hch : s.componentsByParent[a]? with
      | none =>
          obtain rfl : false = b := by simpa [hch] using hrun
          refine ⟨fun hb => (by cases hb), ?_⟩
          rintro ⟨d, hd, -⟩
          exact absurd hd (h.no_children hch d)
      | some children =>
          simp only [hch] at hrun
          cases b with
          | true =>
              obtain ⟨d, hd, hrec⟩ := anyChild_true hrun
              refine ⟨fun _ => ⟨d, (h.children_eq hch d).1 hd, ?_⟩, fun _ => rfl⟩
              split at hrec
              · next hdc => exact .inl hdc
              · exact .inr ((h.hasDescendant_eq hrec).1 rfl)
          | false =>
              refine ⟨fun hb => (by cases hb), ?_⟩
              rintro ⟨d, hd, hdc⟩
              have hrec := anyChild_false hrun d ((h.children_eq hch d).2 hd)
              split at hrec
              · cases hrec
              · next hne => exact (h.hasDescendant_eq hrec).2 (hdc.resolve_left hne)

theorem reparent_components (id p : String) (c : ComponentNode) :
    (Component.reparent s id id c p).2.components[id]? = some { c with parentId := some p } := by
  rw [Component.reparent, leaveParent_eq]
  exact (setComponent_components id id _).trans (if_pos rfl)

/-! ### The operations keep the invariant

Each operation is first read back: it leaves the store as it was, or it ends in
one of the writes above with the checks that guard it. -/

theorem insertNew_eq {input : CreateComponentNodeInput} {r : Result ComponentNode}
    (hrun : Component.insertNew s input = some (r, s')) :
    s.componentCounter < intMax ∧ ∃ c, r = .ok c ∧ c.parentId = input.parentId ∧
      c.pageId = input.pageId ∧ c.id = generateId "component" (s.componentCounter + 1) ∧
      s'.components = s.components.insert c.id c ∧
      s'.componentsByParent = s.componentsByParent.join c.parentId c.id ∧
      s'.componentsByPage = s.componentsByPage.join (some c.pageId) c.id ∧
      s'.componentCounter = s.componentCounter + 1 := by
  unfold Component.insertNew increment at hrun
  by_cases hlt : s.componentCounter < intMax
  · simp only [hlt, if_true, joinParent_eq, Option.some.injEq, Prod.mk.injEq] at hrun
    obtain ⟨rfl, rfl⟩ := hrun
    exact ⟨hlt, _, rfl, rfl, rfl, rfl, rfl, rfl, rfl, rfl⟩
  · simp [hlt] at hrun

theorem create_cases {input : CreateComponentNodeInput} {r : Result ComponentNode}
    (hrun : Component.create s input = some (r, s')) :
    s' = s ∨ Component.insertNew s input = some (r, s') ∧
      ∀ p, input.parentId = some p → s.pageOf p = some input.pageId := by
  unfold Component.create at hrun
  split_ifs at hrun with h₁ h₂ h₃ h₄
  iterate 4
    · cases hrun
      exact .inl rfl
  split at hrun
  · next hnone => exact .inr ⟨hrun, by simp [hnone]⟩
  · next p hp =>
      split at hrun
      · cases hrun
        exact .inl rfl
      · next parent hparent =>
          split_ifs at hrun with hpage
          · cases hrun
            exact .inl rfl
          · refine .inr ⟨hrun, fun q hq => ?_⟩
            obtain rfl : p = q := Option.some.inj (hp.symm.trans hq)
            rw [pageOf_eq hparent, Decidable.not_not.1 hpage]

theorem ForestInv.create (h : ForestInv s) {input : CreateComponentNodeInput}
    {r : Result ComponentNode} (hrun : Component.create s input = some (r, s')) :
    ForestInv s' := by
  rcases create_cases hrun with rfl | ⟨hnew, hparent⟩
  · exact h
  · obtain ⟨-, c, -, hcp, hcg, hid, hcomp, hbp, hbg, hcount⟩ := insertNew_eq hnew
    refine h.insertNew ?_ (fun p hp => hcg ▸ hparent p (hcp ▸ hp)) hid hcomp hbp hbg hcount
    -- an id in use was generated from a smaller counter
    by_contra hused
    obtain ⟨n, hn, hgen⟩ := h.generated c.id hused
    have := generateId_injective (hid.symm.trans hgen)
    omega

theorem updateParent_cases {fuel : Nat} {c : ComponentNode} {id : String} {np : Option String}
    {r : Result ComponentNode} (hrun : Component.updateParent fuel s c id np = some (r, s')) :
    s' = s ∨ ∃ p, s' = (Component.reparent s id id c p).2 ∧ p ≠ id ∧
      s.pageOf p = some c.pageId ∧ s.hasDescendant fuel id p = some false := by
  unfold Component.updateParent at hrun
  split at hrun
  · cases hrun
    exact .inl rfl
  · next p =>
      split_ifs at hrun with hempty hself
      · cases hrun
        exact .inl rfl
      · cases hrun
        exact .inl rfl
      · split at hrun
        · cases hrun
          exact .inl rfl
        · next parent hparent =>
            split_ifs at hrun with hpage
            · cases hrun
              exact .inl rfl
            · split at hrun
              · cases hrun
              · cases hrun
                exact .inl rfl
              · next hdesc =>
                  cases hrun
                  refine .inr ⟨p, rfl, hself, ?_, hdesc⟩
                  rw [pageOf_eq hparent, Decidable.not_not.1 hpage]

theorem ForestInv.updateParent (h : ForestInv s) {fuel : Nat} {c : ComponentNode} {id : String}
    {np : Option String} {r : Result ComponentNode} (hc : s.components[id]? = some c)
    (hrun : Component.updateParent fuel s c id np = some (r, s')) : ForestInv s' := by
  rcases updateParent_cases hrun with rfl | ⟨p, rfl, hne, hp, hdesc⟩
  · exact h
  · exact h.reparent hc hp hne fun hb => by simpa using (h.hasDescendant_eq hdesc).2 hb

theorem ForestInv.update (h : ForestInv s) {fuel : Nat} {id : String}
    {input : UpdateComponentNodeInput} {r : Result ComponentNode}
    (hrun : Component.update fuel s id input = some (r, s')) : ForestInv s' := by
  cases hc : s.components[id]? with
  | none =>
      simp only [Component.update, hc] at hrun
      split_ifs at hrun <;> cases hrun <;> exact h
  | some c =>
      have hset : ForestInv (s.setComponent id { c with type := input.type.getD c.type }) :=
        h.setFields hc rfl rfl rfl
      have hget : (s.setComponent id { c with type := input.type.getD c.type }).components[id]? =
          some { c with type := input.type.getD c.type } := by
        simp [setComponent_components]
      simp only [Component.update, hc] at hrun
      split_ifs at hrun with hempty htype horder
      · cases hrun
        exact h
      · cases hrun
        exact h
      -- the type is written before the order is checked
      · cases hrun
        exact hset
      · refine ForestInv.updateParent ?_ ?_ hrun
        · exact hset.setFields hget rfl rfl rfl
        · simp [setComponent_components]

theorem ForestInv.move (h : ForestInv s) {fuel : Nat} {input : MoveComponentInput}
    {r : Result ComponentNode} (hrun : Component.move fuel s input = some (r, s')) :
    ForestInv s' := by
  cases hc : s.components[input.id]? with
  | none =>
      simp only [Component.move, hc] at hrun
      split_ifs at hrun <;> cases hrun <;> exact h
  | some c =>
      have hid : c.id = input.id := h.id_eq _ c hc
      simp only [Component.move, hc, hid] at hrun
      split_ifs at hrun with hempty horder hself hroot
      · cases hrun
        exact h
      · cases hrun
        exact h
      · cases hrun
        exact h
      · cases hrun
        exact h.unsetParent hc hid.symm rfl rfl
      · cases hp : s.components[input.newParentId]? with
        | none =>
            simp only [hp] at hrun
            cases hrun
            exact h
        | some parent =>
            simp only [hp] at hrun
            split_ifs at hrun with hpage
            · cases hrun
              exact h
            · split at hrun
              · cases hrun
              · cases hrun
                exact h
              · next hdesc =>
                  cases hrun
                  have hpage' : s.pageOf input.newParentId = some c.pageId := by
                    rw [pageOf_eq hp, Decidable.not_not.1 hpage]
                  refine (h.reparent hc hpage' hself fun hb => ?_).setFields
                    (reparent_components ..) rfl rfl rfl
                  simpa using (h.hasDescendant_eq hdesc).2 hb

theorem ForestInv.reorderWrites (h : ForestInv s) :
    ∀ updates, ForestInv (Component.reorderWrites s updates) := by
  intro updates
  induction updates generalizing s with
  | nil => exact h
  | cons update updates ih =>
      rw [Component.reorderWrites]
      split
      · exact ih h
      · next c hc => exact ih (h.setFields hc rfl rfl rfl)

theorem ForestInv.reorder (h : ForestInv s) (updates : List ComponentOrderUpdate) :
    ForestInv (Component.reorder s updates).2 := by
  unfold Component.reorder
  split_ifs
  · exact h
  · split
    · exact h
    · exact h.reorderWrites updates

theorem ForestInv.createPage (h : ForestInv s) {now : Int} {input : CreatePageInput}
    {r : Result PageConfig} (hrun : Page.create s now input = some (r, s')) : ForestInv s' := by
  unfold Page.create at hrun
  split_ifs at hrun
  iterate 4
    · cases hrun
      exact h
  split at hrun
  · cases hrun
  · cases hrun
    exact ⟨h.id_eq, h.byParent, h.byPage, h.samePage, h.rooted, h.generated⟩

/-! ### `cascadeDeleteComponent` -/

/-- The subtree of a component: itself and what is below it. -/
def InSubtree (s : InMemoryStore) (id x : String) : Prop := x = id ∨ Below s.parentOf id x

/-- The store after the components in `P` have been taken out, and nothing else. -/
structure Pruned (s : InMemoryStore) (P : String → Prop) (s' : InMemoryStore) : Prop where
  inv : ForestInv s'
  gone : ∀ x, P x → s'.components[x]? = none
  kept : ∀ x, ¬ P x → s'.components[x]? = s.components[x]?

theorem Pruned.parentOf_kept {P : String → Prop} (h : Pruned s P s') {x : String} (hx : ¬ P x) :
    s'.parentOf x = s.parentOf x := by
  rw [parentOf, parentOf, h.kept x hx]

theorem Pruned.parentOf_sub {P : String → Prop} (h : Pruned s P s') (x p : String)
    (hx : s'.parentOf x = some p) : s.parentOf x = some p := by
  by_cases hP : P x
  · obtain ⟨c, hc, -⟩ := exists_of_parentOf hx
    rw [h.gone x hP] at hc
    cases hc
  · rwa [← h.parentOf_kept hP]

theorem Pruned.refl (h : ForestInv s) {P : String → Prop} (hP : ∀ x, ¬ P x) : Pruned s P s :=
  ⟨h, fun x hx => absurd hx (hP x), fun _ _ => rfl⟩

theorem Pruned.congr {P Q : String → Prop} (h : Pruned s P s') (hPQ : ∀ x, P x ↔ Q x) :
    Pruned s Q s' :=
  ⟨h.inv, fun x hx => h.gone x ((hPQ x).2 hx), fun x hx => h.kept x fun hp => hx ((hPQ x).1 hp)⟩

/-- Two cuts, the second read in the store after the first. -/
theorem Pruned.trans {s'' : InMemoryStore} {P Q R : String → Prop} (h : Pruned s P s')
    (h' : Pruned s' Q s'') (hR : ∀ x, R x ↔ P x ∨ ¬ P x ∧ Q x) (hQ : ∀ x, Q x → R x) :
    Pruned s R s'' := by
  refine ⟨h'.inv, fun x hx => ?_, fun x hx => ?_⟩
  · by_cases hq : Q x
    · exact h'.gone x hq
    · have hp : P x := ((hR x).1 hx).resolve_right fun hand => hq hand.2
      rw [h'.kept x hq, h.gone x hp]
  · have hp : ¬ P x := fun hp => hx ((hR x).2 (.inl hp))
    rw [h'.kept x fun hq => hx (hQ x hq), h.kept x hp]

/-- **A loop that cuts the subtree of each of its ids cuts all of them.**  The
subtrees are read in the store before the loop, although each is cut in the
store that the earlier ones left. -/
theorem forChildren_pruned {f : InMemoryStore → String → Option InMemoryStore}
    (hf : ∀ {s s' : InMemoryStore} {c : String}, ForestInv s → f s c = some s' →
      Pruned s (s.InSubtree c) s') :
    ∀ {cs : List String} {s s' : InMemoryStore}, ForestInv s → forChildren f s cs = some s' →
      Pruned s (fun x => ∃ c ∈ cs, s.InSubtree c x) s'
  | [], s, s', h, hrun => by
      cases hrun
      exact .refl h (by simp)
  | c :: cs, s, s', h, hrun => by
      rw [forChildren] at hrun
      split at hrun
      · cases hrun
      · next s₁ hs₁ =>
          have h₁ := hf h hs₁
          refine h₁.trans (forChildren_pruned hf h₁.inv hrun) (fun x => ?_) ?_
          · simp only [List.mem_cons, exists_eq_or_imp]
            by_cases hx : s.InSubtree c x
            · simp [hx]
            · simp only [hx, false_or, not_false_eq_true, true_and]
              refine exists_congr fun d => and_congr_right fun _ => ?_
              refine ⟨Or.imp_right fun hb => ?_, Or.imp_right (Below.mono h₁.parentOf_sub)⟩
              refine hb.of_cut (c := c) (fun y hy hby => ?_) (fun he => hx (.inl he))
                fun hb => hx (.inr hb)
              exact h₁.parentOf_kept (not_or.2 ⟨hy, hby⟩)
          · rintro x ⟨d, hd, hx⟩
            exact ⟨d, List.mem_cons_of_mem _ hd, hx.imp_right (Below.mono h₁.parentOf_sub)⟩

/-- An index entry without ids can go. -/
theorem ForestInv.eraseEntry (h : ForestInv s) {id : String}
    (hleaf : ∀ x, s.parentOf x ≠ some id) :
    ForestInv { s with componentsByParent := s.componentsByParent.erase id } := by
  refine ⟨h.id_eq, fun p => ?_, h.byPage, h.samePage, h.rooted, h.generated⟩
  show (entries (s.componentsByParent.erase id) p).Nodup ∧ _
  rw [entries_erase]
  split
  · next hp =>
      subst hp
      exact ⟨List.nodup_nil, fun i => iff_of_false List.not_mem_nil (hleaf i)⟩
  · exact h.byParent p

/-- **The children's subtrees are cut, and with them all that is below the id.** -/
theorem deleteChildren_pruned {f : InMemoryStore → String → Option InMemoryStore}
    (hf : ∀ {s s' : InMemoryStore} {c : String}, ForestInv s → f s c = some s' →
      Pruned s (s.InSubtree c) s') (h : ForestInv s) {id : String}
    (hrun : deleteChildren f s id = some s') : Pruned s (Below s.parentOf id) s' := by
  unfold deleteChildren at hrun
  split at hrun
  · next hch =>
      cases hrun
      refine .refl h fun x hx => ?_
      obtain ⟨c, hc, -⟩ := hx.exists_child
      exact h.no_children hch c hc
  · next children hch =>
      obtain ⟨s₁, hs₁, rfl⟩ := Option.map_eq_some_iff.1 hrun
      have hcut := (forChildren_pruned hf h hs₁).congr (Q := Below s.parentOf id) fun x => by
        rw [below_iff_child]
        refine exists_congr fun c => ?_
        rw [h.children_eq hch, InSubtree, eq_comm (a := x)]
      refine ⟨hcut.inv.eraseEntry fun x hx => ?_, hcut.gone, hcut.kept⟩
      have hbelow : Below s.parentOf id x := .single (hcut.parentOf_sub x id hx)
      obtain ⟨c, hc, -⟩ := exists_of_parentOf hx
      rw [hcut.gone x hbelow] at hc
      cases hc

/-- **The cascade cuts exactly the subtree of its component.** -/
theorem cascadeDeleteComponent_pruned :
    ∀ {n : Nat} {s s' : InMemoryStore} {id : String}, ForestInv s →
      cascadeDeleteComponent n s id = some s' → Pruned s (s.InSubtree id) s'
  | 0, _, _, _, _, hrun => by cases hrun
  | n + 1, s, s', id, h, hrun => by
      rw [cascadeDeleteComponent] at hrun
      split at hrun
      · next hnone =>
          cases hrun
          refine ⟨h, fun x hx => ?_, fun _ _ => rfl⟩
          rcases hx with rfl | hb
          · exact hnone
          · obtain ⟨c, hc, -⟩ := hb.exists_child
            obtain ⟨d, hd, -⟩ := exists_of_parentOf hc
            have := h.samePage c id hc
            rw [pageOf_eq hd, pageOf, hnone] at this
            cases this
      · split at hrun
        · cases hrun
        · next s₁ hs₁ =>
            have hcut := deleteChildren_pruned (cascadeDeleteComponent_pruned (n := n)) h hs₁
            split at hrun
            · cases hrun
            · next c hc =>
                simp only [eraseComponent, leaveParent_eq, removeComponentFromPage,
                  Option.some.injEq] at hrun
                subst hrun
                have hleaf : ∀ x, s₁.parentOf x ≠ some id := fun x hx => by
                  obtain ⟨d, hd, -⟩ := exists_of_parentOf hx
                  rw [hcut.gone x (.single (hcut.parentOf_sub x id hx))] at hd
                  cases hd
                refine ⟨hcut.inv.removeLeaf hleaf rfl ?_ ?_ rfl, fun x hx => ?_, fun x hx => ?_⟩
                · exact hcut.inv.byParent.leave (parentOf_eq hc)
                · exact hcut.inv.byPage.leave (pageOf_eq hc)
                · show (s₁.components.erase id)[x]? = none
                  rw [erase_components]
                  split
                  · rfl
                  · next hne => exact hcut.gone x (hx.resolve_left hne)
                · show (s₁.components.erase id)[x]? = s.components[x]?
                  rw [erase_components, if_neg fun he => hx (.inl he)]
                  exact hcut.kept x fun hb => hx (.inr hb)

theorem ForestInv.remove (h : ForestInv s) {fuel : Nat} {id : String} {r : Result Bool}
    (hrun : Component.remove fuel s id = some (r, s')) : ForestInv s' := by
  unfold Component.remove at hrun
  split_ifs at hrun
  · cases hrun
    exact h
  · cases hrun
    exact h
  · obtain ⟨s₁, hs₁, heq⟩ := Option.map_eq_some_iff.1 hrun
    cases heq
    exact (cascadeDeleteComponent_pruned h hs₁).inv

end InMemoryStore
end Dbal
