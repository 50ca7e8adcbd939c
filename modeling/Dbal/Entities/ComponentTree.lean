/-
# `getTree`

`src/entities/component/crud/get_tree.hpp`: the components of a page, each before
its children, siblings in the order of their `order` fields.

`std::sort` leaves the order of equal elements open, so the sorting function is
any that permutes its input into ascending order (`StdSort`).  `components.at`
throws for an id that is not there.
-/

import Dbal.Entities.ComponentForest

namespace Dbal

/-- What `std::sort` by an integer key does: the result is the same ids in
ascending order of the key, equal keys in any order. -/
structure StdSort where
  sort : (String → Int) → List String → List String
  perm : ∀ key ids, (sort key ids).Perm ids
  sorted : ∀ key ids, (sort key ids).Pairwise fun a b => key a ≤ key b

/-- `std::out_of_range`, thrown by `components.at`. -/
structure OutOfRange where
  id : String
  deriving DecidableEq, Repr

namespace Component

/-- `detail::collectChildren`, before the sorting. -/
def childrenIds (store : InMemoryStore) (parentId : Option String) (pageId : String) :
    List String :=
  match parentId with
  | some p =>
      match store.componentsByParent[p]? with
      | none => []
      | some ids => ids
  | none =>
      (store.components.toList.filter fun (_, component) =>
        component.pageId = pageId ∧ component.parentId = none).map (·.1)

/-- `detail::collectChildren`; the comparator is called once there are two ids,
and reads each of them. -/
def collectChildren (S : StdSort) (store : InMemoryStore) (parentId : Option String)
    (pageId : String) : Except OutOfRange (List String) :=
  let ids := childrenIds store parentId pageId
  match ids.find? fun id => store.components[id]? = none with
  | some id => if ids.length < 2 then .ok ids else .error ⟨id⟩
  | none => .ok (S.sort (fun id => (store.components[id]?.map (·.order)).getD 0) ids)

/-- The loop of `buildTree` over the children, in order. -/
def buildChildren (f : String → Option (Except OutOfRange (List ComponentNode)))
    (store : InMemoryStore) : List String → Option (Except OutOfRange (List ComponentNode))
  | [] => some (.ok [])
  | childId :: ids =>
      match store.components[childId]? with
      | none => some (.error ⟨childId⟩)
      | some component =>
          match f childId with
          | none => none
          | some (.error e) => some (.error e)
          | some (.ok below) =>
              match buildChildren f store ids with
              | none => none
              | some (.error e) => some (.error e)
              | some (.ok rest) => some (.ok (component :: below ++ rest))

/-- `detail::buildTree`: what it appends to `out`. -/
def buildTree (S : StdSort) (store : InMemoryStore) (pageId : String) :
    Nat → Option String → Option (Except OutOfRange (List ComponentNode))
  | 0, _ => none
  | n + 1, parentId =>
      match collectChildren S store parentId pageId with
      | .error e => some (.error e)
      | .ok children => buildChildren (fun id => buildTree S store pageId n (some id)) store children

end Component

namespace InMemoryStore

open Forest SecondaryIndex

variable {s : InMemoryStore}

/-! ### The recursions end -/

/-- Only components have a parent, and there are finitely many of them. -/
theorem parentOf_finite (s : InMemoryStore) : {x | s.parentOf x ≠ none}.Finite := by
  refine s.components.keys.finite_toSet.subset fun x hx => ?_
  obtain ⟨p, hp⟩ := Option.ne_none_iff_exists'.1 hx
  obtain ⟨c, hc, -⟩ := exists_of_parentOf hp
  show x ∈ s.components.keys
  rw [Std.TreeMap.mem_keys, Std.TreeMap.mem_iff_isSome_getElem?, hc]
  rfl

theorem ForestInv.child_wellFounded (h : ForestInv s) :
    WellFounded fun c a => s.parentOf c = some a :=
  Forest.child_wellFounded s.parentOf_finite h.rooted

theorem anyChild_settles {f : Nat → String → Option Bool} :
    ∀ {cs : List String}, (∀ c ∈ cs, ∃ b, Settles (f · c) b) →
      ∃ b, Settles (fun n => anyChild (f n) cs) b
  | [], _ => ⟨false, .const false⟩
  | c :: cs, hf => by
      obtain ⟨b, hb⟩ := hf c (List.mem_cons_self ..)
      obtain ⟨b', hb'⟩ := anyChild_settles fun d hd => hf d (List.mem_cons_of_mem c hd)
      obtain ⟨n, hn⟩ := hb.and hb'
      refine ⟨b || b', n, fun m hm => ?_⟩
      obtain ⟨h₁, h₂⟩ := hn m hm
      cases b <;> simp [anyChild, h₁, h₂]

/-- **`hasDescendant` ends**, by induction down the forest. -/
theorem ForestInv.hasDescendant_settles (h : ForestInv s) (a c : String) :
    ∃ b, Settles (s.hasDescendant · a c) b := by
  induction a using h.child_wellFounded.induction with
  | _ a ih =>
      cases hch : s.componentsByParent[a]? with
      | none => exact ⟨false, (Settles.const false).succ fun n => by simp [hasDescendant, hch]⟩
      | some children =>
          have hall : ∀ d ∈ children, ∃ b, Settles (fun n =>
              if d = c then some true else s.hasDescendant n d c) b := fun d hd => by
            by_cases hdc : d = c
            · exact ⟨true, by simpa [hdc] using Settles.const true⟩
            · simpa [hdc] using ih d ((h.children_eq hch d).1 hd)
          obtain ⟨b, hb⟩ := anyChild_settles hall
          exact ⟨b, hb.succ fun n => by simp [hasDescendant, hch]⟩

/-- The loop of the cascade ends when each of its calls does, in whatever store
the calls before it leave. -/
theorem forChildren_settles {f : Nat → InMemoryStore → String → Option InMemoryStore}
    (P : InMemoryStore → Prop) :
    ∀ {cs : List String} {s : InMemoryStore}, P s →
      (∀ s, P s → ∀ c ∈ cs, ∃ s', Settles (f · s c) s' ∧ P s') →
      ∃ s', Settles (fun n => forChildren (f n) s cs) s' ∧ P s'
  | [], s, hs, _ => ⟨s, .const s, hs⟩
  | c :: cs, s, hs, hf => by
      obtain ⟨s₁, h₁, hs₁⟩ := hf s hs c (List.mem_cons_self ..)
      obtain ⟨s₂, h₂, hs₂⟩ := forChildren_settles P hs₁ fun s hs d hd =>
        hf s hs d (List.mem_cons_of_mem c hd)
      obtain ⟨n, hn⟩ := h₁.and h₂
      refine ⟨s₂, ⟨n, fun m hm => ?_⟩, hs₂⟩
      obtain ⟨hc, hrest⟩ := hn m hm
      simp only [forChildren, hc, hrest]

/-- **The cascade ends.**  The induction is on the number of components below the
one that is deleted: a child has fewer, also in a store that its siblings'
cascades have cut. -/
theorem ForestInv.cascade_settles :
    ∀ (k : Nat) {s : InMemoryStore} {id : String}, ForestInv s →
      (below s.parentOf id).ncard < k → ∃ s', Settles (cascadeDeleteComponent · s id) s'
  | 0, _, _, _, hk => absurd hk (Nat.not_lt_zero _)
  | k + 1, s, id, h, hk => by
      cases hc : s.components[id]? with
      | none => exact ⟨s, (Settles.const s).succ fun n => by simp [cascadeDeleteComponent, hc]⟩
      | some c =>
          have hdel : ∃ s₁, Settles (fun n => deleteChildren (cascadeDeleteComponent n) s id) s₁ := by
            unfold deleteChildren
            cases hch : s.componentsByParent[id]? with
            | none => exact ⟨s, .const s⟩
            | some children =>
                -- the stores on the way have lost edges, and gained none
                obtain ⟨s₁, ⟨n, hn⟩, -⟩ := @forChildren_settles cascadeDeleteComponent
                  (fun t => ForestInv t ∧ ∀ x p, t.parentOf x = some p → s.parentOf x = some p)
                  children s ⟨h, fun _ _ hx => hx⟩ (by
                    rintro t ⟨ht, hsub⟩ d hd
                    have hda := (h.children_eq hch d).1 hd
                    have hle : (below t.parentOf d).ncard ≤ (below s.parentOf d).ncard :=
                      Set.ncard_le_ncard (fun x hx => Below.mono hsub hx)
                        (below_finite s.parentOf_finite d)
                    have hlt := ncard_below_lt s.parentOf_finite (h.rooted d) hda
                    obtain ⟨t', ht'⟩ := @ForestInv.cascade_settles k t d ht (by omega)
                    obtain ⟨n, hn⟩ := ht'.exists_fuel
                    have hcut := cascadeDeleteComponent_pruned ht hn
                    exact ⟨t', ht', hcut.inv, fun x p hx => hsub x p (hcut.parentOf_sub x p hx)⟩)
                exact ⟨_, n, fun m hm => congrArg (Option.map _) (hn m hm)⟩
          obtain ⟨s₁, n, hn⟩ := hdel
          have hcut := deleteChildren_pruned cascadeDeleteComponent_pruned h (hn n le_rfl)
          have hc₁ : s₁.components[id]? = some c := by
            rw [hcut.kept id (h.rooted id).not_below_self, hc]
          refine ⟨s₁.eraseComponent id c, Settles.succ ⟨n, fun m hm => ?_⟩ fun _ => rfl⟩
          have hdel : deleteChildren (cascadeDeleteComponent m) s id = some s₁ := hn m hm
          simp only [cascadeDeleteComponent, hc, hdel, hc₁]

theorem ForestInv.cascadeDeleteComponent_settles (h : ForestInv s) (id : String) :
    ∃ s', Settles (cascadeDeleteComponent · s id) s' :=
  ForestInv.cascade_settles _ h (Nat.lt_succ_self _)

/-! ### `buildTree` ends -/

/-- The ids that `buildTree` visits next are components, and below the one it is
at. -/
theorem ForestInv.mem_childrenIds (h : ForestInv s) {parentId : Option String} {pageId id : String}
    (hid : id ∈ Component.childrenIds s parentId pageId) :
    s.components[id]? ≠ none ∧ ∀ p, parentId = some p → s.parentOf id = some p := by
  unfold Component.childrenIds at hid
  cases parentId with
  | none =>
      obtain ⟨⟨id', c⟩, hmem, rfl⟩ := List.mem_map.1 hid
      have hc := Std.TreeMap.mem_toList_iff_getElem?_eq_some.1 (List.mem_of_mem_filter hmem)
      exact ⟨by simp [hc], by simp⟩
  | some p =>
      simp only at hid
      split at hid
      · simp at hid
      · next ids hids =>
          have hp := (h.children_eq hids id).1 hid
          obtain ⟨c, hc, -⟩ := exists_of_parentOf hp
          exact ⟨by simp [hc], fun q hq => Option.some.inj hq ▸ hp⟩

/-- On the ids of the index nothing throws. -/
theorem ForestInv.collectChildren_eq (h : ForestInv s) (S : StdSort) (parentId : Option String)
    (pageId : String) : ∃ ids, Component.collectChildren S s parentId pageId = .ok ids ∧
      ∀ id, id ∈ ids ↔ id ∈ Component.childrenIds s parentId pageId := by
  have hnone : (Component.childrenIds s parentId pageId).find?
      (fun id => decide (s.components[id]? = none)) = none := by
    rw [List.find?_eq_none]
    intro id hid
    simpa using (h.mem_childrenIds hid).1
  refine ⟨S.sort (fun id => (s.components[id]?.map (·.order)).getD 0)
    (Component.childrenIds s parentId pageId), ?_, fun id => (S.perm _ _).mem_iff⟩
  simp only [Component.collectChildren, hnone]

theorem buildChildren_settles
    {f : Nat → String → Option (Except OutOfRange (List ComponentNode))} :
    ∀ {ids : List String}, (∀ id ∈ ids, s.components[id]? ≠ none) →
      (∀ id ∈ ids, ∃ cs, Settles (f · id) (.ok cs)) →
      ∃ cs, Settles (fun n => Component.buildChildren (f n) s ids) (.ok cs)
  | [], _, _ => ⟨[], .const _⟩
  | id :: ids, hids, hf => by
      obtain ⟨hid, hids⟩ := List.forall_mem_cons.1 hids
      obtain ⟨c, hc⟩ := Option.ne_none_iff_exists'.1 hid
      obtain ⟨below, hbelow⟩ := hf id (List.mem_cons_self ..)
      obtain ⟨rest, hrest⟩ := buildChildren_settles hids fun d hd =>
        hf d (List.mem_cons_of_mem id hd)
      obtain ⟨n, hn⟩ := hbelow.and hrest
      refine ⟨c :: below ++ rest, n, fun m hm => ?_⟩
      obtain ⟨h₁, h₂⟩ := hn m hm
      simp only [Component.buildChildren, hc, h₁, h₂]

/-- **`buildTree` ends**, below any component. -/
theorem ForestInv.buildTree_settles_below (h : ForestInv s) (S : StdSort) (pageId p : String) :
    ∃ cs, Settles (Component.buildTree S s pageId · (some p)) (.ok cs) := by
  induction p using h.child_wellFounded.induction with
  | _ p ih =>
      obtain ⟨ids, hcollect, hmem⟩ := h.collectChildren_eq S (some p) pageId
      have hchild := fun id hid => h.mem_childrenIds ((hmem id).1 hid)
      obtain ⟨cs, hcs⟩ := buildChildren_settles (s := s) (fun id hid => (hchild id hid).1)
        fun id hid => ih id ((hchild id hid).2 p rfl)
      exact ⟨cs, hcs.succ fun n => by simp only [Component.buildTree, hcollect]⟩

theorem ForestInv.buildTree_settles (h : ForestInv s) (S : StdSort) (pageId : String)
    (parentId : Option String) :
    ∃ cs, Settles (Component.buildTree S s pageId · parentId) (.ok cs) := by
  obtain ⟨ids, hcollect, hmem⟩ := h.collectChildren_eq S parentId pageId
  have hchild := fun id hid => h.mem_childrenIds ((hmem id).1 hid)
  obtain ⟨cs, hcs⟩ := buildChildren_settles (s := s) (fun id hid => (hchild id hid).1)
    fun id _ => h.buildTree_settles_below S pageId id
  exact ⟨cs, hcs.succ fun n => by simp only [Component.buildTree, hcollect]⟩

end InMemoryStore
end Dbal
