/-
# The order of the steps

`topologicalOrder` of `src/workflow/wf_graph_order.cpp`: nodes are taken when no edge from a node
not taken yet leads to them, in the order in which that comes about, and a graph with a cycle
is left in the order given.

The nodes that no edge leads to keep their order; when there is no cycle every edge runs from
an earlier node to a later one; and no node is lost.
-/

import Mathlib.Algebra.BigOperators.Group.Finset.Piecewise
import Mathlib.Algebra.Order.BigOperators.Group.Finset
import Mathlib.Data.List.Nodup
import Mathlib.Logic.Function.Basic
import Mathlib.Logic.Relation
import Mathlib.Order.WellFoundedSet

namespace Dbal
namespace WfGraph

variable {α : Type} [DecidableEq α]

/-! ### The algorithm -/

/-- `out` and `indegree`, which are read with `operator[]`. -/
structure Degrees (α : Type) where
  out : α → List α
  indegree : α → Int

/-- One round of the loop over the edges.  An edge naming a node that is not here cannot order
anything. -/
def Degrees.addEdge (nodeKeys : List α) (s : Degrees α) (edge : α × α) : Degrees α :=
  if edge.1 ∉ nodeKeys ∨ edge.2 ∉ nodeKeys then s
  else
    { out := Function.update s.out edge.1 (s.out edge.1 ++ [edge.2])
      indegree := Function.update s.indegree edge.2 (s.indegree edge.2 + 1) }

/-- The loop over the edges. -/
def degrees (nodeKeys : List α) (edges : List (α × α)) : Degrees α :=
  edges.foldl (Degrees.addEdge nodeKeys) ⟨fun _ => [], fun _ => 0⟩

/-- The loop over `out[key]`. -/
def release : (α → Int) → List α → List α → (α → Int) × List α
  | indegree, ready, [] => (indegree, ready)
  | indegree, ready, next :: rest =>
      let left := indegree next - 1
      release (Function.update indegree next left)
        (if left = 0 then ready ++ [next] else ready) rest

/-- The loop over `ready`, for at most so many rounds. -/
def drain (out : α → List α) : Nat → (α → Int) → List α → List α → Option (List α)
  | _, _, [], ordered => some ordered
  | 0, _, _ :: _, _ => none
  | fuel + 1, indegree, key :: ready, ordered =>
      let (indegree, ready) := release indegree ready (out key)
      drain out fuel indegree ready (ordered ++ [key])

/-- `topologicalOrder`; the rounds are enough (`drain_isSome`). -/
def topologicalOrder (nodeKeys : List α) (edges : List (α × α)) : List α :=
  let s := degrees nodeKeys edges
  match drain s.out (nodeKeys.length + edges.length) s.indegree
    (nodeKeys.filter fun key => s.indegree key = 0) [] with
  | some ordered => if ordered.length ≠ nodeKeys.length then nodeKeys else ordered
  | none => nodeKeys

example : topologicalOrder ["loose", "b", "a"] [("a", "b"), ("a", "ghost")] = ["loose", "a", "b"] :=
  by decide

/-! ### The edges that count -/

/-- The edges between nodes that are here. -/
def knownEdges (nodeKeys : List α) (edges : List (α × α)) : List (α × α) :=
  edges.filter fun edge => edge.1 ∈ nodeKeys ∧ edge.2 ∈ nodeKeys

/-- The targets of the edges from a node. -/
def targets (known : List (α × α)) (key : α) : List α :=
  (known.filter fun edge => edge.1 = key).map Prod.snd

/-- No edge leads to the node. -/
def IsRoot (known : List (α × α)) (key : α) : Bool :=
  known.countP (fun edge => edge.2 = key) = 0

theorem mem_targets {known : List (α × α)} {key next : α} :
    next ∈ targets known key ↔ (key, next) ∈ known := by
  simp [targets]

theorem knownEdges_cons (nodeKeys : List α) (edge : α × α) (edges : List (α × α)) :
    knownEdges nodeKeys (edge :: edges) =
      if edge.1 ∈ nodeKeys ∧ edge.2 ∈ nodeKeys then edge :: knownEdges nodeKeys edges
      else knownEdges nodeKeys edges := by
  rw [knownEdges, List.filter_cons]
  by_cases hknown : edge.1 ∈ nodeKeys ∧ edge.2 ∈ nodeKeys
  · rw [if_pos (decide_eq_true hknown), if_pos hknown, knownEdges]
  · rw [if_neg (by simpa using hknown), if_neg hknown, knownEdges]

theorem targets_cons (edge : α × α) (known : List (α × α)) (key : α) :
    targets (edge :: known) key =
      if edge.1 = key then edge.2 :: targets known key else targets known key := by
  by_cases hkey : edge.1 = key <;> simp [targets, hkey]

/-- **What the loop over the edges counts.** -/
theorem degrees_foldl (nodeKeys : List α) (edges : List (α × α)) (s : Degrees α) (key : α) :
    (edges.foldl (Degrees.addEdge nodeKeys) s).out key =
        s.out key ++ targets (knownEdges nodeKeys edges) key ∧
      (edges.foldl (Degrees.addEdge nodeKeys) s).indegree key =
        s.indegree key + (knownEdges nodeKeys edges).countP fun edge => edge.2 = key := by
  induction edges generalizing s with
  | nil => simp [knownEdges, targets]
  | cons edge edges ih =>
      rw [List.foldl_cons, (ih _).1, (ih _).2, knownEdges_cons, Degrees.addEdge]
      by_cases hknown : edge.1 ∈ nodeKeys ∧ edge.2 ∈ nodeKeys
      · rw [if_neg (by tauto), if_pos hknown, targets_cons, List.countP_cons]
        refine ⟨?_, ?_⟩
        · by_cases hkey : edge.1 = key
          · subst hkey
            dsimp only
            rw [if_pos rfl, Function.update_self, List.append_assoc, List.singleton_append]
          · dsimp only
            rw [if_neg hkey, Function.update_of_ne (Ne.symm hkey)]
        · by_cases hkey : edge.2 = key
          · subst hkey
            simp only [Function.update_self, decide_true, if_true]
            omega
          · simp [hkey, Function.update_of_ne (Ne.symm hkey)]
      · rw [if_pos (by tauto), if_neg hknown]
        exact ⟨rfl, rfl⟩

theorem degrees_out (nodeKeys : List α) (edges : List (α × α)) (key : α) :
    (degrees nodeKeys edges).out key = targets (knownEdges nodeKeys edges) key :=
  (degrees_foldl nodeKeys edges _ key).1

theorem degrees_indegree (nodeKeys : List α) (edges : List (α × α)) (key : α) :
    (degrees nodeKeys edges).indegree key =
      (knownEdges nodeKeys edges).countP fun edge => edge.2 = key := by
  rw [degrees, (degrees_foldl nodeKeys edges _ key).2, Int.zero_add]

/-! ### Enough rounds -/

/-- What is still to come: the nodes ready, and the edges still to be taken away. -/
def pendingWork (support : Finset α) (indegree : α → Int) (ready : List α) : Nat :=
  ready.length + ∑ key ∈ support, (indegree key).toNat

/-- Taking an edge away makes a node ready in its place, or nothing does. -/
theorem release_pendingWork {support : Finset α} (indegree : α → Int) (ready rest : List α)
    (hrest : ∀ next ∈ rest, next ∈ support) :
    pendingWork support (release indegree ready rest).1 (release indegree ready rest).2 ≤
      pendingWork support indegree ready := by
  induction rest generalizing indegree ready with
  | nil => exact Nat.le_refl _
  | cons next rest ih =>
      rw [release]
      refine Nat.le_trans (ih _ _ fun key hkey => hrest key (List.mem_cons_of_mem _ hkey)) ?_
      have hnext : next ∈ support := hrest next List.mem_cons_self
      have hbefore := Finset.add_sum_erase support (fun key => (indegree key).toNat) hnext
      have hafter := Finset.add_sum_erase support
        (fun key => (Function.update indegree next (indegree next - 1) key).toNat) hnext
      have hothers : ∑ key ∈ support.erase next,
          (Function.update indegree next (indegree next - 1) key).toNat =
            ∑ key ∈ support.erase next, (indegree key).toNat :=
        Finset.sum_congr rfl fun key hkey => by
          rw [Function.update_of_ne (Finset.ne_of_mem_erase hkey)]
      rw [Function.update_self] at hafter
      unfold pendingWork
      split_ifs with hzero
      · rw [List.length_append, List.length_singleton]
        omega
      · omega

/-- **The rounds are enough.** -/
theorem drain_isSome (support : Finset α) {out : α → List α}
    (hout : ∀ key, ∀ next ∈ out key, next ∈ support) (fuel : Nat) (indegree : α → Int)
    (ready ordered : List α) (hfuel : pendingWork support indegree ready ≤ fuel) :
    (drain out fuel indegree ready ordered).isSome := by
  induction fuel generalizing indegree ready ordered with
  | zero =>
      rcases ready with _ | ⟨key, ready⟩
      · rfl
      · rw [pendingWork, List.length_cons] at hfuel
        omega
  | succ fuel ih =>
      rcases ready with _ | ⟨key, ready⟩
      · rfl
      · rw [drain]
        refine ih _ _ _ (Nat.le_trans (release_pendingWork indegree ready _ (hout key)) ?_)
        rw [pendingWork, List.length_cons] at hfuel
        rw [pendingWork]
        omega

/-- The edges that lead to some nodes are edges. -/
theorem sum_indegree_le (support : Finset α) (known : List (α × α)) :
    ∑ key ∈ support, known.countP (fun edge => edge.2 = key) ≤ known.length := by
  induction known with
  | nil => simp
  | cons edge known ih =>
      have hone : ∑ key ∈ support, (if edge.2 = key then 1 else 0) ≤ 1 := by
        rw [Finset.sum_ite_eq]
        split_ifs <;> omega
      have hsplit : ∑ key ∈ support, (edge :: known).countP (fun edge => edge.2 = key) =
          ∑ key ∈ support, known.countP (fun edge => edge.2 = key) +
            ∑ key ∈ support, (if edge.2 = key then 1 else 0) := by
        rw [← Finset.sum_add_distrib]
        refine Finset.sum_congr rfl fun key _ => ?_
        rw [List.countP_cons]
        simp only [decide_eq_true_eq]
      rw [hsplit, List.length_cons]
      omega

theorem drain_degrees_isSome (nodeKeys : List α) (edges : List (α × α)) :
    (drain (degrees nodeKeys edges).out (nodeKeys.length + edges.length)
      (degrees nodeKeys edges).indegree
      (nodeKeys.filter fun key => (degrees nodeKeys edges).indegree key = 0) []).isSome := by
  refine drain_isSome nodeKeys.toFinset (fun key next hnext => ?_) _ _ _ _ ?_
  · rw [degrees_out, mem_targets, knownEdges, List.mem_filter] at hnext
    exact List.mem_toFinset.2 (of_decide_eq_true hnext.2).2
  · have hsum := sum_indegree_le nodeKeys.toFinset (knownEdges nodeKeys edges)
    have hknown : (knownEdges nodeKeys edges).length ≤ edges.length := List.length_filter_le _ _
    have hready := List.length_filter_le (fun key => (degrees nodeKeys edges).indegree key = 0)
      nodeKeys
    have htoNat : ∀ key, ((degrees nodeKeys edges).indegree key).toNat =
        (knownEdges nodeKeys edges).countP fun edge => edge.2 = key := fun key => by
      rw [degrees_indegree, Int.toNat_natCast]
    rw [pendingWork, Finset.sum_congr rfl fun key _ => htoNat key]
    omega

/-! ### What the loops keep -/

/-- The nodes taken and those ready, the edges that still lead to a node, and the edges of the last
node taken that are still to be taken away. -/
structure Inv (nodeKeys : List α) (known : List (α × α)) (ordered ready : List α)
    (indegree : α → Int) (rest : List α) : Prop where
  nodup : (ordered ++ ready).Nodup
  here : ∀ key ∈ ordered ++ ready, key ∈ nodeKeys
  counted : ∀ key, indegree key =
    known.countP (fun edge => edge.2 = key ∧ edge.1 ∉ ordered) + rest.count key
  free : ∀ key ∈ nodeKeys, indegree key = 0 ↔ key ∈ ordered ++ ready
  pending : ∀ next ∈ rest, ∃ source ∈ ordered, (source, next) ∈ known
  closed : ∀ before key after, ordered = before ++ key :: after →
    ∀ source, (source, key) ∈ known → source ∈ before
  roots : (ordered ++ ready).filter (IsRoot known) = nodeKeys.filter (IsRoot known)

theorem isRoot_iff {known : List (α × α)} {key : α} :
    IsRoot known key = true ↔ ∀ source, (source, key) ∉ known := by
  rw [IsRoot, decide_eq_true_iff, List.countP_eq_zero]
  constructor
  · intro h source hmem
    exact h (source, key) hmem (decide_eq_true rfl)
  · rintro h ⟨source, target⟩ hmem heq
    obtain rfl : target = key := of_decide_eq_true heq
    exact h source hmem

namespace Inv

variable {nodeKeys : List α} {known : List (α × α)} {ordered ready : List α} {indegree : α → Int}
  {rest : List α}

/-- At the start the roots are ready. -/
theorem start (hnodup : nodeKeys.Nodup)
    (hindegree : ∀ key, indegree key = known.countP fun edge => edge.2 = key) :
    Inv nodeKeys known [] (nodeKeys.filter fun key => indegree key = 0) indegree [] where
  nodup := hnodup.filter _
  here := fun key hkey => (List.mem_filter.1 hkey).1
  counted := fun key => by simp [hindegree key]
  free := fun key hkey => by simp [hkey]
  pending := fun _ h => nomatch h
  closed := fun before key after h => by cases before <;> exact nomatch h
  roots := by
    have hready : (fun key => decide (indegree key = 0)) = IsRoot known := by
      funext key
      rw [hindegree, IsRoot]
      exact decide_eq_decide.2 Int.natCast_eq_zero
    rw [List.nil_append, hready, List.filter_filter]
    simp

/-- One edge of the node taken last is taken away. -/
theorem release_one {next : α} (h : Inv nodeKeys known ordered ready indegree (next :: rest))
    (htarget : next ∈ nodeKeys) :
    Inv nodeKeys known ordered
      (if indegree next - 1 = 0 then ready ++ [next] else ready)
      (Function.update indegree next (indegree next - 1)) rest := by
  have hcount := h.counted next
  rw [List.count_cons_self] at hcount
  have hnew : next ∉ ordered ++ ready := by
    rw [← h.free next htarget]
    omega
  obtain ⟨source, -, hedge⟩ := h.pending next List.mem_cons_self
  have hdegree : ∀ key, Function.update indegree next (indegree next - 1) key =
      known.countP (fun edge => edge.2 = key ∧ edge.1 ∉ ordered) + rest.count key := by
    intro key
    by_cases hkey : key = next
    · subst hkey
      rw [Function.update_self]
      omega
    · rw [Function.update_of_ne hkey, h.counted, List.count_cons_of_ne (Ne.symm hkey)]
  have hpending : ∀ key ∈ rest, ∃ source ∈ ordered, (source, key) ∈ known :=
    fun key hkey => h.pending key (List.mem_cons_of_mem _ hkey)
  split_ifs with hzero
  · refine ⟨?_, fun key hkey => ?_, hdegree, fun key hkey => ?_, hpending, h.closed, ?_⟩
    · rw [← List.append_assoc]
      exact h.nodup.append (List.nodup_singleton _) (List.disjoint_singleton.2 hnew)
    · rw [← List.append_assoc] at hkey
      rcases List.mem_append.1 hkey with hkey | hkey
      · exact h.here key hkey
      · rw [List.mem_singleton.1 hkey]
        exact htarget
    · rw [← List.append_assoc, List.mem_append, List.mem_singleton]
      by_cases hsame : key = next
      · subst hsame
        rw [Function.update_self]
        exact ⟨fun _ => Or.inr rfl, fun _ => hzero⟩
      · rw [Function.update_of_ne hsame, h.free key hkey]
        exact ⟨Or.inl, fun hor => hor.resolve_right hsame⟩
    · have hroot : ¬IsRoot known next = true := fun hroot => isRoot_iff.1 hroot source hedge
      rw [← List.append_assoc, List.filter_append, h.roots, List.filter_singleton,
        Bool.eq_false_of_not_eq_true hroot, cond_false, List.append_nil]
  · refine ⟨h.nodup, h.here, hdegree, fun key hkey => ?_, hpending, h.closed, h.roots⟩
    by_cases hsame : key = next
    · subst hsame
      rw [Function.update_self]
      exact ⟨fun hnot => absurd hnot hzero, fun hin => absurd hin hnew⟩
    · rw [Function.update_of_ne hsame, h.free key hkey]

/-- The edges of the node taken last are taken away. -/
theorem release (h : Inv nodeKeys known ordered ready indegree rest)
    (htargets : ∀ next ∈ rest, next ∈ nodeKeys) :
    Inv nodeKeys known ordered (release indegree ready rest).2 (release indegree ready rest).1 []
    := by
  induction rest generalizing indegree ready with
  | nil => exact h
  | cons next rest ih =>
      rw [WfGraph.release]
      exact ih (h.release_one (htargets next List.mem_cons_self))
        fun key hkey => htargets key (List.mem_cons_of_mem _ hkey)

/-- The edges that lead to a node, apart from those from the node taken now. -/
theorem countP_take (known : List (α × α)) {key : α} (hkey : key ∉ ordered) (target : α) :
    known.countP (fun edge => edge.2 = target ∧ edge.1 ∉ ordered) =
      known.countP (fun edge => edge.2 = target ∧ edge.1 ∉ ordered ++ [key]) +
        (targets known key).count target := by
  induction known with
  | nil => rfl
  | cons edge known ih =>
      rw [List.countP_cons, List.countP_cons, targets_cons, ih]
      by_cases hsource : edge.1 = key
      · by_cases htarget : edge.2 = target
        · simp [hsource, htarget, hkey]
          omega
        · simp [hsource, htarget, hkey]
      · by_cases htarget : edge.2 = target
        · simp [hsource, htarget]
          omega
        · simp [hsource, htarget]

/-- A node that is ready is taken. -/
theorem take (h : Inv nodeKeys known ordered (key :: ready) indegree []) :
    Inv nodeKeys known (ordered ++ [key]) ready indegree (targets known key) := by
  have hsame : ordered ++ [key] ++ ready = ordered ++ key :: ready := by simp
  have hkey : key ∉ ordered := fun hin =>
    (List.nodup_append.1 h.nodup).2.2 key hin key List.mem_cons_self rfl
  have hin : key ∈ ordered ++ key :: ready := List.mem_append_right _ List.mem_cons_self
  refine ⟨hsame ▸ h.nodup, hsame ▸ h.here, fun target => ?_, fun k hk => ?_, fun next hnext => ?_,
    fun before k after heq source hedge => ?_, hsame ▸ h.roots⟩
  · rw [h.counted target, countP_take known hkey target]
    simp
  · rw [hsame]
    exact h.free k hk
  · exact ⟨key, List.mem_append_right _ List.mem_cons_self, mem_targets.1 hnext⟩
  · rcases List.eq_nil_or_concat after with rfl | ⟨init, last, rfl⟩
    · -- The node taken now has no edge left from a node that is not taken.
      obtain ⟨rfl, hlast⟩ := List.append_inj' heq rfl
      obtain rfl := (List.cons.inj hlast).1
      have hzero := (h.free key (h.here key hin)).2 hin
      rw [h.counted, List.count_nil] at hzero
      have hnone : known.countP (fun edge => edge.2 = key ∧ edge.1 ∉ ordered) = 0 := by omega
      by_contra hsource
      exact List.countP_eq_zero.1 hnone (source, key) hedge (decide_eq_true ⟨rfl, hsource⟩)
    · rw [List.concat_eq_append, ← List.cons_append, ← List.append_assoc] at heq
      exact h.closed before k init (List.append_inj_left' heq rfl) source hedge

/-- **The loop over `ready`.** -/
theorem drain (h : Inv nodeKeys known ordered ready indegree [])
    (hknown : ∀ edge ∈ known, edge.2 ∈ nodeKeys) {fuel : Nat} {result : List α}
    (hresult : drain (targets known) fuel indegree ready ordered = some result) :
    ∃ indegree', Inv nodeKeys known result [] indegree' [] := by
  induction fuel generalizing indegree ready ordered with
  | zero =>
      rcases ready with _ | ⟨key, ready⟩
      · obtain rfl := Option.some.inj hresult
        exact ⟨indegree, h⟩
      · exact nomatch hresult
  | succ fuel ih =>
      rcases ready with _ | ⟨key, ready⟩
      · obtain rfl := Option.some.inj hresult
        exact ⟨indegree, h⟩
      · rw [WfGraph.drain] at hresult
        exact ih (h.take.release fun next hnext => hknown _ (mem_targets.1 hnext)) hresult

end Inv

/-! ### The result -/

/-- There is an edge, between nodes that are here. -/
def Edge (nodeKeys : List α) (edges : List (α × α)) (source target : α) : Prop :=
  source ∈ nodeKeys ∧ target ∈ nodeKeys ∧ (source, target) ∈ edges

/-- No way along the edges leads back to where it started. -/
def Acyclic (nodeKeys : List α) (edges : List (α × α)) : Prop :=
  ∀ key, ¬Relation.TransGen (Edge nodeKeys edges) key key

theorem mem_knownEdges {nodeKeys : List α} {edges : List (α × α)} {source target : α} :
    (source, target) ∈ knownEdges nodeKeys edges ↔ Edge nodeKeys edges source target := by
  rw [knownEdges, List.mem_filter, decide_eq_true_iff, Edge]
  tauto

section
omit [DecidableEq α]

/-- **In an acyclic graph every node can be reached step by step from the sources.** -/
theorem closed_of_acyclic {nodeKeys : List α} {edges : List (α × α)}
    (hacyclic : Acyclic nodeKeys edges) {taken : List α}
    (hclosed : ∀ key ∈ nodeKeys,
      (∀ source, Edge nodeKeys edges source key → source ∈ taken) → key ∈ taken) :
    ∀ key ∈ nodeKeys, key ∈ taken := by
  have hstrict : IsStrictOrder α (Relation.TransGen (Edge nodeKeys edges)) :=
    { irrefl := hacyclic, trans := fun _ _ _ => Relation.TransGen.trans }
  have hwf : Set.WellFoundedOn {key | key ∈ nodeKeys} (Relation.TransGen (Edge nodeKeys edges)) :=
    (List.finite_toSet nodeKeys).wellFoundedOn
  intro key hkey
  refine hwf.induction hkey fun key hkey ih => hclosed key hkey fun source hedge => ?_
  exact ih source hedge.1 (.single hedge)

end

/-- A node stands before those behind it. -/
theorem idxOf_lt_of_mem {ordered before after : List α} {source key : α} (hnodup : ordered.Nodup)
    (heq : ordered = before ++ key :: after) (hsource : source ∈ before) :
    ordered.idxOf source < ordered.idxOf key := by
  have hkey : key ∉ before := by
    rw [heq] at hnodup
    exact fun hin => (List.nodup_append.1 hnodup).2.2 key hin key List.mem_cons_self rfl
  rw [heq, List.idxOf_append_of_mem hsource, List.idxOf_append_of_notMem hkey, List.idxOf_cons_self]
  have hlt := List.idxOf_lt_length_iff.2 hsource
  omega

/-- What the order of the steps has to be: every node once, the sources of an edge before its
target unless there is a cycle, and otherwise the order given; the roots as they were. -/
structure IsOrder (nodeKeys : List α) (edges : List (α × α)) (ordered : List α) : Prop where
  perm : ordered.Perm nodeKeys
  sorted : Acyclic nodeKeys edges → ∀ source target, Edge nodeKeys edges source target →
    ordered.idxOf source < ordered.idxOf target
  cyclic : ¬Acyclic nodeKeys edges → ordered = nodeKeys
  roots : ordered.filter (IsRoot (knownEdges nodeKeys edges)) =
    nodeKeys.filter (IsRoot (knownEdges nodeKeys edges))

/-- **The order of distinct nodes.** -/
theorem topologicalOrder_isOrder {nodeKeys : List α} (hnodup : nodeKeys.Nodup)
    (edges : List (α × α)) : IsOrder nodeKeys edges (topologicalOrder nodeKeys edges) := by
  have hout : (degrees nodeKeys edges).out = targets (knownEdges nodeKeys edges) :=
    funext (degrees_out nodeKeys edges)
  obtain ⟨result, hresult⟩ := Option.isSome_iff_exists.1 (drain_degrees_isSome nodeKeys edges)
  have hdef : topologicalOrder nodeKeys edges =
      if result.length ≠ nodeKeys.length then nodeKeys else result := by
    rw [topologicalOrder]
    simp only [hresult]
  rw [hout] at hresult
  obtain ⟨indegree, hinv⟩ := (Inv.start hnodup (degrees_indegree nodeKeys edges)).drain
    (fun edge hedge => (of_decide_eq_true (List.mem_filter.1 hedge).2).2) hresult
  have hsub : result ⊆ nodeKeys := fun key hkey => hinv.here key (by simpa using hkey)
  have hresultNodup : result.Nodup := by simpa using hinv.nodup
  -- A node all of whose sources are taken is taken.
  have htaken : ∀ key ∈ nodeKeys,
      (∀ source, Edge nodeKeys edges source key → source ∈ result) → key ∈ result := by
    intro key hkey hsources
    have hzero : indegree key = 0 := by
      rw [hinv.counted, List.count_nil]
      have hnone : (knownEdges nodeKeys edges).countP
          (fun edge => edge.2 = key ∧ edge.1 ∉ result) = 0 := by
        refine List.countP_eq_zero.2 ?_
        rintro ⟨source, target⟩ hedge hin
        obtain ⟨rfl, hnot⟩ := of_decide_eq_true hin
        exact hnot (hsources source (mem_knownEdges.1 hedge))
      omega
    simpa using (hinv.free key hkey).1 hzero
  have hbefore : ∀ source target, Edge nodeKeys edges source target → target ∈ result →
      result.idxOf source < result.idxOf target := by
    intro source target hedge hin
    obtain ⟨before, after, heq⟩ := List.append_of_mem hin
    exact idxOf_lt_of_mem hresultNodup heq
      (hinv.closed before target after heq source (mem_knownEdges.2 hedge))
  rw [hdef]
  by_cases hfull : result.length = nodeKeys.length
  · have hperm : result.Perm nodeKeys :=
      (List.subperm_of_subset hresultNodup hsub).perm_of_length_le (Nat.le_of_eq hfull.symm)
    rw [if_neg (not_not.2 hfull)]
    refine ⟨hperm, fun _ source target hedge => hbefore source target hedge
      (hperm.mem_iff.2 hedge.2.1), fun hcyclic => absurd (fun key hcycle => ?_) hcyclic,
      by simpa using hinv.roots⟩
    have hlt : ∀ a b, Relation.TransGen (Edge nodeKeys edges) a b →
        result.idxOf a < result.idxOf b := by
      intro a b h
      induction h with
      | single hedge => exact hbefore _ _ hedge (hperm.mem_iff.2 hedge.2.1)
      | tail _ hedge ih => exact Nat.lt_trans ih (hbefore _ _ hedge (hperm.mem_iff.2 hedge.2.1))
    exact Nat.lt_irrefl _ (hlt key key hcycle)
  · have hcyclic : ¬Acyclic nodeKeys edges := by
      intro hacyclic
      have hall := closed_of_acyclic hacyclic htaken
      exact hfull (Nat.le_antisymm (List.subperm_of_subset hresultNodup hsub).length_le
        (List.subperm_of_subset hnodup hall).length_le)
    rw [if_pos hfull]
    exact ⟨.refl _, fun hacyclic => absurd hacyclic hcyclic, fun _ => rfl, rfl⟩

end WfGraph
end Dbal
