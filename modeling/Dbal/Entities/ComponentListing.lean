/-
# `getTree` and `getChildren`

`src/entities/component/crud/get_tree.hpp` and `get_children.hpp`.  In a reachable store the tree
of a page is a preorder of its components: the recursion has no visited set and no page check
below the roots, and it is the forest of the store that makes it list each component of the page
once, and no other.
-/

import Dbal.Entities.EntityForest
import Dbal.Store.Preorder

namespace Dbal

open Forest SecondaryIndex

/-- A merge sort is one that `std::sort` may be. -/
def StdSort.merge : StdSort where
  sort key ids := ids.mergeSort fun a b => key a ≤ key b
  perm key ids := List.mergeSort_perm ids _
  sorted key ids := by
    have hle := @List.pairwise_mergeSort String (fun a b => decide (key a ≤ key b))
      (fun a b c hab hbc => by simp only [decide_eq_true_eq] at *; omega)
      (fun a b => by simp only [Bool.or_eq_true, decide_eq_true_eq]; omega) ids
    exact hle.imp of_decide_eq_true

namespace Component

/-- The sorting of `getChildren`; the comparator reads each id once there are two of them. -/
def sortByOrder (S : StdSort) (store : InMemoryStore) (ids : List String) :
    Except OutOfRange (List String) :=
  match ids.find? fun id => store.components[id]? = none with
  | some id => if ids.length < 2 then .ok ids else .error ⟨id⟩
  | none => .ok (S.sort (fun id => (store.components[id]?.map (·.order)).getD 0) ids)

/-- The loop of `getChildren` over the sorted ids. -/
def listChildren (store : InMemoryStore) (typeFilter : Option String) (limit : Int) :
    List String → List ComponentNode → Except OutOfRange (List ComponentNode)
  | [], children => .ok children
  | childId :: ids, children =>
      match store.components[childId]? with
      | none => .error ⟨childId⟩
      | some component =>
          if typeFilter.any (component.type ≠ ·) then
            listChildren store typeFilter limit ids children
          else
            let children := children ++ [component]
            if 0 < limit ∧ limit ≤ children.length then .ok children
            else listChildren store typeFilter limit ids children

/-- `component::getChildren`. -/
def getChildren (S : StdSort) (store : InMemoryStore) (parentId : String)
    (typeFilter : Option String := none) (limit : Int := 0) :
    Except OutOfRange (Result (List ComponentNode)) :=
  if parentId = "" then .ok (.error (.validationError "parentId is required"))
  else if store.components[parentId]? = none then
    .ok (.error (.notFound ("Component not found: " ++ parentId)))
  else
    match store.componentsByParent[parentId]? with
    | none => .ok (.ok [])
    | some childIds =>
        match sortByOrder S store childIds with
        | .error e => .error e
        | .ok ids => (listChildren store typeFilter limit ids []).map .ok

/-- `component::getTree`. -/
def getTree (S : StdSort) (store : InMemoryStore) (pageId : String) (fuel : Nat) :
    Option (Except OutOfRange (Result (List ComponentNode))) :=
  if pageId = "" then some (.ok (.error (.validationError "pageId is required")))
  else if store.pages[pageId]? = none then
    some (.ok (.error (.notFound ("Page not found: " ++ pageId))))
  else (buildTree S store pageId fuel none).map fun tree => tree.map .ok

/-- The key that siblings are sorted by. -/
def storedOrder (store : InMemoryStore) (id : String) : Int :=
  (store.components[id]?.map (·.order)).getD 0

/-- The ids that `collectChildren` collects, sorted. -/
def sortedIds (S : StdSort) (store : InMemoryStore) (parentId : Option String) (pageId : String) :
    List String :=
  S.sort (storedOrder store) (childrenIds store parentId pageId)

/-- The children of a component, sorted. -/
def sortedChildren (S : StdSort) (store : InMemoryStore) (id : String) : List String :=
  S.sort (storedOrder store) (store.componentsByParent.entries id)

/-- The components under the ids. -/
def nodes (store : InMemoryStore) (ids : List String) : List ComponentNode :=
  ids.filterMap (store.components[·]?)

end Component

namespace InMemoryStore

open Component

variable {s : InMemoryStore}

theorem storedOrder_eq {id : String} {c : ComponentNode} (h : s.components[id]? = some c) :
    storedOrder s id = c.order := by
  simp [storedOrder, h]

theorem sortedIds_some (S : StdSort) (p pageId : String) :
    sortedIds S s (some p) pageId = sortedChildren S s p := by
  cases hp : s.componentsByParent[p]? <;>
    simp [sortedIds, sortedChildren, childrenIds, entries, hp]

/-- **The index lists the children of each component.** -/
theorem ForestInv.lists_sortedChildren (h : ForestInv s) (S : StdSort) :
    Lists (sortedChildren S s) s.parentOf where
  mem_iff := fun {a c} => by rw [sortedChildren, (S.perm _ _).mem_iff, h.mem_children]
  nodup := fun a => (S.perm _ _).nodup_iff.2 (h.byParent.nodup a)

/-- What is below a component is on its page. -/
theorem ForestInv.pageOf_below (h : ForestInv s) {a x : String} (hb : Below s.parentOf a x) :
    s.pageOf x = s.pageOf a := by
  induction hb using Relation.TransGen.head_induction_on with
  | single hxa => exact (h.samePage _ _ hxa).symm
  | head hxy _ ih => exact (h.samePage _ _ hxy).symm.trans ih

/-- The roots of a page. -/
theorem mem_roots {pageId id : String} :
    id ∈ childrenIds s none pageId ↔ s.pageOf id = some pageId ∧ s.parentOf id = none := by
  unfold childrenIds
  simp only [List.mem_map, List.mem_filter, decide_eq_true_eq, Prod.exists, exists_and_right,
    exists_eq_right]
  constructor
  · rintro ⟨c, hmem, hpage, hparent⟩
    have hc := Std.TreeMap.mem_toList_iff_getElem?_eq_some.1 hmem
    exact ⟨by rw [pageOf_eq hc, hpage], by rw [parentOf_eq hc, hparent]⟩
  · rintro ⟨hpage, hparent⟩
    obtain ⟨c, hc⟩ := (@pageOf_ne_none s id).1 (by simp [hpage])
    rw [pageOf_eq hc] at hpage
    rw [parentOf_eq hc] at hparent
    exact ⟨c, Std.TreeMap.mem_toList_iff_getElem?_eq_some.2 hc, Option.some.inj hpage, hparent⟩

theorem nodup_roots (s : InMemoryStore) (pageId : String) :
    (childrenIds s none pageId).Nodup := by
  have hkeys : (s.components.toList.map (·.1)).Nodup := by
    rw [Std.TreeMap.map_fst_toList_eq_keys]
    exact Std.TreeMap.nodup_keys
  exact hkeys.sublist (List.filter_sublist.map _)

theorem ForestInv.collect_eq (h : ForestInv s) (S : StdSort) (parentId : Option String)
    (pageId : String) : collectChildren S s parentId pageId = .ok (sortedIds S s parentId pageId) := by
  have hnone : (childrenIds s parentId pageId).find?
      (fun id => decide (s.components[id]? = none)) = none := by
    rw [List.find?_eq_none]
    intro id hid
    simpa using (h.mem_childrenIds hid).1
  simp only [collectChildren, hnone]
  rfl

/-! ### The walk -/

/-- The components under the ids, all of which there are. -/
structure NodesOf (s : InMemoryStore) (ids : List String) (tree : List ComponentNode) : Prop where
  eq : tree = nodes s ids
  mem : ∀ id ∈ ids, s.components[id]? ≠ none

namespace NodesOf

variable {id : String} {ids ids' : List String} {c : ComponentNode} {tree tree' : List ComponentNode}

theorem nil : NodesOf s [] [] := ⟨rfl, fun _ h => absurd h List.not_mem_nil⟩

theorem cons (hc : s.components[id]? = some c) (h : NodesOf s ids tree) :
    NodesOf s (id :: ids) (c :: tree) := by
  refine ⟨?_, List.forall_mem_cons.2 ⟨by simp [hc], h.mem⟩⟩
  rw [h.eq, nodes, nodes, List.filterMap_cons_some hc]

theorem append (h : NodesOf s ids tree) (h' : NodesOf s ids' tree') :
    NodesOf s (ids ++ ids') (tree ++ tree') := by
  refine ⟨?_, List.forall_mem_append.2 ⟨h.mem, h'.mem⟩⟩
  rw [h.eq, h'.eq, nodes, nodes, nodes, List.filterMap_append]

/-- Each id is that of its component. -/
theorem map_id (h : NodesOf s ids tree) (hinv : ForestInv s) : tree.map (·.id) = ids := by
  obtain ⟨rfl, hmem⟩ := h
  induction ids with
  | nil => rfl
  | cons id ids ih =>
      obtain ⟨hid, hmem⟩ := List.forall_mem_cons.1 hmem
      obtain ⟨c, hc⟩ := Option.ne_none_iff_exists'.1 hid
      rw [nodes, List.filterMap_cons_some hc, List.map_cons, hinv.id_eq id c hc]
      exact congrArg (id :: ·) (ih hmem)

theorem mem_tree (h : NodesOf s ids tree) (hinv : ForestInv s) (c : ComponentNode) :
    c ∈ tree ↔ c.id ∈ ids ∧ s.components[c.id]? = some c := by
  rw [h.eq, nodes, List.mem_filterMap]
  constructor
  · rintro ⟨id, hid, hc⟩
    obtain rfl : c.id = id := hinv.id_eq id c hc
    exact ⟨hid, hc⟩
  · rintro ⟨hid, hc⟩
    exact ⟨c.id, hid, hc⟩

/-- The components of one parent stand under the ids of that parent. -/
theorem filter_parent (h : NodesOf s ids tree) (parentId : Option String) :
    tree.filter (fun c => c.parentId = parentId) =
      nodes s (ids.filter fun id => s.parentOf id = parentId) := by
  obtain ⟨rfl, hmem⟩ := h
  induction ids with
  | nil => rfl
  | cons id ids ih =>
      obtain ⟨hid, hmem⟩ := List.forall_mem_cons.1 hmem
      obtain ⟨c, hc⟩ := Option.ne_none_iff_exists'.1 hid
      have hrest := ih hmem
      rw [nodes] at hrest
      rw [nodes, List.filterMap_cons_some hc, List.filter_cons, List.filter_cons, hrest,
        parentOf_eq hc]
      by_cases hp : c.parentId = parentId
      · simp only [hp, decide_true, if_true]
        rw [nodes, nodes, List.filterMap_cons_some hc]
      · simp [hp]

end NodesOf

/-- The loop over the children lists the walks that its calls give. -/
theorem buildChildren_walk {children : String → List String}
    {f : String → Option (Except OutOfRange (List ComponentNode))}
    (hf : ∀ {id tree}, f id = some (.ok tree) →
      ∃ below, NodesOf s below tree ∧ Preorder children (children id) below) :
    ∀ {ids : List String} {tree : List ComponentNode}, buildChildren f s ids = some (.ok tree) →
      ∃ out, NodesOf s out tree ∧ Preorder children ids out
  | [], tree, hrun => by
      obtain rfl : [] = tree := Except.ok.inj (Option.some.inj hrun)
      exact ⟨[], .nil, .nil⟩
  | id :: ids, tree, hrun => by
      rw [buildChildren] at hrun
      split at hrun
      · cases hrun
      · next c hc =>
          split at hrun
          · cases hrun
          · cases hrun
          · next below hbelow =>
              split at hrun
              · cases hrun
              · cases hrun
              · next rest hrest =>
                  obtain rfl : c :: below ++ rest = tree := Except.ok.inj (Option.some.inj hrun)
                  obtain ⟨out, hout, hwalk⟩ := hf hbelow
                  obtain ⟨out', hout', hwalk'⟩ := buildChildren_walk hf hrest
                  exact ⟨id :: out ++ out', (NodesOf.cons hc hout).append hout', .cons hwalk hwalk'⟩

/-- **What `buildTree` appends is a walk of the forest.** -/
theorem ForestInv.buildTree_walk (h : ForestInv s) (S : StdSort) (pageId : String) :
    ∀ {n : Nat} {parentId : Option String} {tree : List ComponentNode},
      buildTree S s pageId n parentId = some (.ok tree) →
        ∃ ids, NodesOf s ids tree ∧ Preorder (sortedChildren S s) (sortedIds S s parentId pageId) ids
  | 0, _, _, hrun => by cases hrun
  | n + 1, parentId, tree, hrun => by
      rw [buildTree, h.collect_eq S parentId pageId] at hrun
      refine buildChildren_walk (fun {id below} hbelow => ?_) hrun
      obtain ⟨ids, hids, hwalk⟩ := h.buildTree_walk S pageId hbelow
      exact ⟨ids, hids, sortedIds_some S id pageId ▸ hwalk⟩

/-! ### `getChildren` -/

/-- Without filter and limit the loop takes every child. -/
theorem listChildren_all {ids : List String} {children : List ComponentNode}
    (hids : ∀ id ∈ ids, s.components[id]? ≠ none) :
    listChildren s none 0 ids children = .ok (children ++ nodes s ids) := by
  induction ids generalizing children with
  | nil => simp [listChildren, nodes]
  | cons id ids ih =>
      obtain ⟨hid, hids⟩ := List.forall_mem_cons.1 hids
      obtain ⟨c, hc⟩ := Option.ne_none_iff_exists'.1 hid
      simp only [listChildren, hc, Option.any_none, Bool.false_eq_true, if_false, Int.lt_irrefl,
        false_and, ih hids, nodes, List.filterMap_cons_some hc, List.append_assoc,
        List.singleton_append]

/-- **`getChildren` lists the children of a component in their order.** -/
theorem ForestInv.getChildren_eq (h : ForestInv s) (S : StdSort) {id : String}
    (hid : s.components[id]? ≠ none) :
    getChildren S s id = .ok (.ok (nodes s (sortedChildren S s id))) := by
  obtain ⟨c, hc⟩ := Option.ne_none_iff_exists'.1 hid
  obtain ⟨n, -, hgen⟩ := h.generated id (by simp [pageOf, hc])
  have hne : id ≠ "" := hgen ▸ generateId_ne_empty _ _
  rw [getChildren, if_neg hne, if_neg hid]
  cases hch : s.componentsByParent[id]? with
  | none =>
      have hnil : s.componentsByParent.entries id = [] := by simp [entries, hch]
      have hsort : sortedChildren S s id = [] := by
        rw [sortedChildren, hnil]
        exact List.perm_nil.1 (S.perm _ _)
      rw [hsort]
      rfl
  | some childIds =>
      have hentries : s.componentsByParent.entries id = childIds := by simp [entries, hch]
      have hall : ∀ d ∈ childIds, s.components[d]? ≠ none := fun d hd => by
        obtain ⟨c', hc', -⟩ := exists_of_parentOf ((h.children_eq hch d).1 hd)
        simp [hc']
      have hnone : childIds.find? (fun d => decide (s.components[d]? = none)) = none := by
        rw [List.find?_eq_none]
        intro d hd
        simpa using hall d hd
      have hsorted : sortByOrder S s childIds = .ok (sortedChildren S s id) := by
        simp only [sortByOrder, hnone, sortedChildren, hentries]
        rfl
      have hmem : ∀ d ∈ sortedChildren S s id, s.components[d]? ≠ none := fun d hd => by
        rw [sortedChildren, (S.perm _ _).mem_iff, hentries] at hd
        exact hall d hd
      simp only [hsorted, listChildren_all hmem, List.nil_append]
      rfl

end InMemoryStore

namespace Component

open InMemoryStore

variable {store : InMemoryStore}

/-- The components of a list of ids stand in the order of the ids. -/
theorem nodes_sorted {ids : List String}
    (h : ids.Pairwise fun a b => storedOrder store a ≤ storedOrder store b) :
    (nodes store ids).Pairwise fun c d => c.order ≤ d.order := by
  refine List.Pairwise.filterMap _ (fun a b hab c hc d hd => ?_) h
  rwa [storedOrder_eq hc, storedOrder_eq hd] at hab

/-- The walk from the roots of a page. -/
structure PageWalk (S : StdSort) (store : InMemoryStore) (pageId : String) (ids : List String)
    (tree : List ComponentNode) : Prop where
  nodes : NodesOf store ids tree
  walk : Preorder (sortedChildren S store) (sortedIds S store none pageId) ids

namespace PageWalk

variable {S : StdSort} {pageId : String} {ids : List String} {tree : List ComponentNode}

theorem root_iff (S : StdSort) {x : String} : x ∈ sortedIds S store none pageId ↔
    store.pageOf x = some pageId ∧ store.parentOf x = none := by
  rw [sortedIds, (S.perm _ _).mem_iff, mem_roots]

theorem nodup (h : PageWalk S store pageId ids tree) (hinv : ForestInv store) : ids.Nodup :=
  h.walk.nodup (hinv.lists_sortedChildren S) hinv.rooted
    ((S.perm _ _).nodup_iff.2 (nodup_roots store pageId))
    (apart_of_parent hinv.rooted fun _ hr => ((root_iff S).1 hr).2)

/-- **The walk meets the components of the page.** -/
theorem mem_iff (h : PageWalk S store pageId ids tree) (hinv : ForestInv store) {x : String} :
    x ∈ ids ↔ store.pageOf x = some pageId := by
  rw [h.walk.mem_iff (hinv.lists_sortedChildren S)]
  constructor
  · rintro ⟨r, hr, rfl | hb⟩
    · exact ((root_iff S).1 hr).1
    · rw [hinv.pageOf_below hb]
      exact ((root_iff S).1 hr).1
  · intro hx
    obtain ⟨r, hr, hrx⟩ := (hinv.rooted x).exists_root
    refine ⟨r, (root_iff S).2 ⟨?_, hr⟩, hrx⟩
    rcases hrx with rfl | hb
    · exact hx
    · rw [← hinv.pageOf_below hb, hx]

theorem mem_tree (h : PageWalk S store pageId ids tree) (hinv : ForestInv store)
    (c : ComponentNode) :
    c ∈ tree ↔ store.components[c.id]? = some c ∧ c.pageId = pageId := by
  rw [h.nodes.mem_tree hinv, h.mem_iff hinv, and_comm]
  refine and_congr_right fun hc => ?_
  rw [pageOf_eq hc, Option.some.injEq]

theorem parent_before (h : PageWalk S store pageId ids tree) (hinv : ForestInv store)
    {l₁ l₂ : List ComponentNode} {c : ComponentNode} (hsplit : tree = l₁ ++ c :: l₂) {p : String}
    (hp : c.parentId = some p) : ∃ d ∈ l₁, d.id = p := by
  have hids : ids = l₁.map (·.id) ++ c.id :: l₂.map (·.id) := by
    rw [← h.nodes.map_id hinv, hsplit, List.map_append, List.map_cons]
  have hc : store.components[c.id]? = some c := ((h.mem_tree hinv c).1 (by simp [hsplit])).1
  have hparent : store.parentOf c.id = some p := (parentOf_eq hc).trans hp
  rcases h.walk.parent_before (hinv.lists_sortedChildren S) hids with hroot | ⟨q, hq, hcq⟩
  · rw [((root_iff S).1 hroot).2] at hparent
    cases hparent
  · obtain rfl : p = q := Option.some.inj (hparent.symm.trans hcq)
    exact List.mem_map.1 hq

theorem contiguous (h : PageWalk S store pageId ids tree) (hinv : ForestInv store)
    {l₁ l₂ : List ComponentNode} {c : ComponentNode} (hsplit : tree = l₁ ++ c :: l₂) :
    ∃ below rest, l₂ = below ++ rest ∧
      ∀ d ∈ tree, d ∈ below ↔ Below store.parentOf c.id d.id := by
  have hids : ids = l₁.map (·.id) ++ c.id :: l₂.map (·.id) := by
    rw [← h.nodes.map_id hinv, hsplit, List.map_append, List.map_cons]
  obtain ⟨belowIds, restIds, hl₂, hwalk⟩ := h.walk.contiguous hids
  obtain ⟨below, rest, rfl, rfl, -⟩ := List.map_eq_append_iff.1 hl₂
  refine ⟨below, rest, rfl, fun d hd => ?_⟩
  rw [← hwalk.mem_below_iff (hinv.lists_sortedChildren S), List.mem_map]
  refine ⟨fun hdb => ⟨d, hdb, rfl⟩, ?_⟩
  rintro ⟨e, he, hed⟩
  -- one component for each id
  have hetree : e ∈ tree := by simp [hsplit, he]
  have hecomp := ((h.mem_tree hinv e).1 hetree).1
  rw [hed, ((h.mem_tree hinv d).1 hd).1] at hecomp
  exact Option.some.inj hecomp ▸ he

theorem filter_some (h : PageWalk S store pageId ids tree) (hinv : ForestInv store) {p : String}
    (hp : p ∈ ids) :
    (tree.filter fun c => c.parentId = some p) = Component.nodes store (sortedChildren S store p) := by
  rw [h.nodes.filter_parent, h.walk.filter_children (hinv.lists_sortedChildren S) hinv.rooted
    (h.nodup hinv) hp]

theorem sorted (h : PageWalk S store pageId ids tree) (hinv : ForestInv store)
    (parentId : Option String) :
    (tree.filter fun c => c.parentId = parentId).Pairwise fun c d => c.order ≤ d.order := by
  cases parentId with
  | none =>
      rw [h.nodes.filter_parent, h.walk.filter_roots (hinv.lists_sortedChildren S)
        (fun r hr => ((root_iff S).1 hr).2) fun r _ x hx => ?_]
      · exact nodes_sorted (S.sorted _ _)
      · obtain ⟨q, hq, -⟩ := hx.cases
        simp [hq]
  | some p =>
      by_cases hp : p ∈ ids
      · rw [h.filter_some hinv hp]
        exact nodes_sorted (S.sorted _ _)
      · -- a parent of a listed component is listed
        have hnone : (tree.filter fun c => decide (c.parentId = some p)) = [] := by
          refine List.filter_eq_nil_iff.2 fun c hc => ?_
          obtain ⟨l₁, l₂, hsplit⟩ := List.append_of_mem hc
          intro hcp
          obtain ⟨d, hd, rfl⟩ := h.parent_before hinv hsplit (of_decide_eq_true hcp)
          exact hp ((h.nodes.mem_tree hinv d).1 (by simp [hsplit, hd])).1
        rw [hnone]
        exact List.Pairwise.nil

end PageWalk

/-- **`getTree` is a complete preorder.**  On a reachable store and an existing page it ends, and
the tree holds each component of the page once and no other, each after its parent and with its
descendants right behind it, siblings and roots by their `order` fields, and the children of each
component as `getChildren` lists them. -/
theorem getTree_preorder (h : EntityOp.Reachable store) (S : StdSort) {pageId : String}
    (hpage : store.pages[pageId]? ≠ none) :
    ∃ tree, Settles (getTree S store pageId) (.ok (.ok tree)) ∧
      (tree.map (·.id)).Nodup ∧
      (∀ c, c ∈ tree ↔ store.components[c.id]? = some c ∧ c.pageId = pageId) ∧
      (∀ l₁ c l₂, tree = l₁ ++ c :: l₂ →
        (∀ p, c.parentId = some p → ∃ d ∈ l₁, d.id = p) ∧
        ∃ below rest, l₂ = below ++ rest ∧
          ∀ d ∈ tree, d ∈ below ↔ Below store.parentOf c.id d.id) ∧
      (∀ parentId, (tree.filter fun c => c.parentId = parentId).Pairwise fun c d =>
        c.order ≤ d.order) ∧
      ∀ c ∈ tree, getChildren S store c.id = .ok (.ok (tree.filter fun d => d.parentId = some c.id)) := by
  have hinv := forestInv_of_entityRun h
  obtain ⟨page, hpage'⟩ := Option.ne_none_iff_exists'.1 hpage
  obtain ⟨k, -, hgen⟩ := (Tables.of_reachable h).pages.generated pageId page hpage'
  have hne : pageId ≠ "" := hgen ▸ generateId_ne_empty _ _
  obtain ⟨tree, n, hn⟩ := hinv.buildTree_settles S pageId none
  obtain ⟨ids, hnodes, hwalk⟩ := hinv.buildTree_walk S pageId (hn n le_rfl)
  have hpw : PageWalk S store pageId ids tree := ⟨hnodes, hwalk⟩
  refine ⟨tree, ⟨n, fun m hm => ?_⟩, ?_, hpw.mem_tree hinv,
    fun l₁ c l₂ hsplit => ⟨fun p hp => hpw.parent_before hinv hsplit hp,
      hpw.contiguous hinv hsplit⟩, hpw.sorted hinv, fun c hc => ?_⟩
  · have hrun : buildTree S store pageId m none = some (.ok tree) := hn m hm
    rw [getTree, if_neg hne, if_neg hpage, hrun]
    rfl
  · rw [hnodes.map_id hinv]
    exact hpw.nodup hinv
  · have hcid := (hnodes.mem_tree hinv c).1 hc
    rw [hpw.filter_some hinv hcid.1]
    exact hinv.getChildren_eq S (by simp [hcid.2])

/-- A page with two roots, the second before the first by its order, and a child. -/
theorem getTree_preorder_two_roots :
    ∃ store tree, EntityOp.runOps 1 {}
        [.crud (.createPage 0 { path := "/", title := "Home", level := 1, requiresAuth := false }),
          .crud (.createComponent { pageId := "page_00000001", parentId := none, type := "box",
                                    childIds := "", order := 2 }),
          .crud (.createComponent { pageId := "page_00000001", parentId := none, type := "box",
                                    childIds := "", order := 1 }),
          .crud (.createComponent { pageId := "page_00000001",
                                    parentId := some "component_00000002", type := "text",
                                    childIds := "" })] = some store ∧
      Settles (getTree .merge store "page_00000001") (.ok (.ok tree)) ∧
      (tree.map (·.id)).Nodup ∧
      ∀ c, c ∈ tree ↔ store.components[c.id]? = some c ∧ c.pageId = "page_00000001" := by
  obtain ⟨store, hrun, hpage⟩ := (Option.any_eq_true _ _).1 (show (EntityOp.runOps 1 {}
        [.crud (.createPage 0 { path := "/", title := "Home", level := 1, requiresAuth := false }),
          .crud (.createComponent { pageId := "page_00000001", parentId := none, type := "box",
                                    childIds := "", order := 2 }),
          .crud (.createComponent { pageId := "page_00000001", parentId := none, type := "box",
                                    childIds := "", order := 1 }),
          .crud (.createComponent { pageId := "page_00000001",
                                    parentId := some "component_00000002", type := "text",
                                    childIds := "" })]).any
        (fun store => (store.pages["page_00000001"]?).isSome) = true by decide +kernel)
  obtain ⟨tree, hsettles, hnodup, hmem, -⟩ := getTree_preorder
    (EntityOp.Reachable.runOps (.start ∅) hrun) .merge (Option.isSome_iff_ne_none.1 hpage)
  exact ⟨store, tree, hrun, hsettles, hnodup, hmem⟩

end Component
end Dbal
