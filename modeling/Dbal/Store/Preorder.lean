/-
# Preorders of a forest

A walk that lists each root and, behind it, the walk of its children (`Preorder`).  In a forest
such a list holds each node below the roots once, after its parent, with all that is below it
right behind it, and the children of a node stand in it in the order in which the walk was given
them.
-/

import Dbal.Store.Forest
import Mathlib.Data.List.Nodup

namespace Dbal
namespace Forest

variable {α : Type*} {parent : α → Option α} {children : α → List α} {roots out : List α}

/-- `out` lists each of the roots and the walk of its children behind it. -/
inductive Preorder (children : α → List α) : List α → List α → Prop where
  | nil : Preorder children [] []
  | cons {a : α} {as below rest : List α} : Preorder children (children a) below →
      Preorder children as rest → Preorder children (a :: as) (a :: below ++ rest)

/-- `children` gives the children of each node, each once. -/
structure Lists (children : α → List α) (parent : α → Option α) : Prop where
  mem_iff : ∀ {a c}, c ∈ children a ↔ parent c = some a
  nodup : ∀ a, (children a).Nodup

/-- None of the nodes is below another. -/
def Apart (parent : α → Option α) (roots : List α) : Prop :=
  ∀ r ∈ roots, ∀ r' ∈ roots, ¬ Below parent r r'

/-- Two nodes above the same one are above one another. -/
theorem Below.linear {a b x : α} (ha : Below parent a x) (hb : Below parent b x) :
    a = b ∨ Below parent a b ∨ Below parent b a := by
  induction ha using Relation.TransGen.head_induction_on with
  | @single x hxa =>
      obtain ⟨y, hy, hyb⟩ := hb.cases
      obtain rfl : a = y := Option.some.inj (hxa.symm.trans hy)
      rcases hyb with rfl | hyb
      · exact .inl rfl
      · exact .inr (.inr hyb)
  | @head x y hxy hya ih =>
      obtain ⟨z, hz, hzb⟩ := hb.cases
      obtain rfl : y = z := Option.some.inj (hxy.symm.trans hz)
      rcases hzb with rfl | hzb
      · exact .inr (.inl hya)
      · exact ih hzb

/-- Going up from a node ends at a root. -/
theorem Rooted.exists_root {x : α} (h : Rooted parent x) :
    ∃ r, parent r = none ∧ (x = r ∨ Below parent r x) := by
  induction h with
  | @root a ha => exact ⟨a, ha, .inl rfl⟩
  | @child a b hab _ ih =>
      obtain ⟨r, hr, rfl | hb⟩ := ih
      · exact ⟨b, hr, .inr (.single hab)⟩
      · exact ⟨r, hr, .inr (hb.up hab)⟩

theorem Apart.tail {a : α} {as : List α} (h : Apart parent (a :: as)) : Apart parent as :=
  fun r hr r' hr' => h r (List.mem_cons_of_mem a hr) r' (List.mem_cons_of_mem a hr')

/-- Nodes of one parent are apart. -/
theorem apart_of_parent (hroot : ∀ x, Rooted parent x) {o : Option α}
    (h : ∀ r ∈ roots, parent r = o) : Apart parent roots := by
  intro r hr r' hr' hb
  obtain ⟨p, hp, hpr⟩ := hb.cases
  have hrp : parent r = some p := (h r hr).trans ((h r' hr').symm.trans hp)
  rcases hpr with rfl | hpr
  · exact (hroot p).not_below_self (.single hrp)
  · exact (hroot r).not_below_self (hpr.up hrp)

namespace Preorder

/-- **The list holds the roots and what is below them.** -/
theorem mem_iff (h : Preorder children roots out) (hlist : Lists children parent) {x : α} :
    x ∈ out ↔ ∃ r ∈ roots, x = r ∨ Below parent r x := by
  induction h with
  | nil => simp
  | @cons a as below rest _ _ ihbelow ihrest =>
      have hbelow : x ∈ below ↔ Below parent a x := by
        rw [ihbelow, below_iff_child]
        refine exists_congr fun c => ?_
        rw [hlist.mem_iff, eq_comm (a := x)]
      rw [List.cons_append, List.mem_cons, List.mem_append, hbelow, ihrest]
      simp only [List.mem_cons, exists_eq_or_imp, or_assoc]

/-- The walk of the children holds what is below. -/
theorem mem_below_iff {a x : α} {below : List α} (h : Preorder children (children a) below)
    (hlist : Lists children parent) : x ∈ below ↔ Below parent a x := by
  rw [h.mem_iff hlist, below_iff_child]
  refine exists_congr fun c => ?_
  rw [hlist.mem_iff, eq_comm (a := x)]

/-- **No node is listed twice.** -/
theorem nodup (h : Preorder children roots out) (hlist : Lists children parent)
    (hroot : ∀ x, Rooted parent x) (hnodup : roots.Nodup) (hapart : Apart parent roots) :
    out.Nodup := by
  induction h with
  | nil => exact List.nodup_nil
  | @cons a as below rest hbelow hrest ihbelow ihrest =>
      have hmem := fun x => hbelow.mem_below_iff (x := x) hlist
      obtain ⟨hnotin, hnodup⟩ := List.nodup_cons.1 hnodup
      have hnb := ihbelow (hlist.nodup a)
        (apart_of_parent hroot (o := some a) fun c hc => hlist.mem_iff.1 hc)
      have hself : a ∉ below := fun ha => (hroot a).not_below_self ((hmem a).1 ha)
      have hother : a ∉ rest := by
        intro ha
        obtain ⟨r, hr, rfl | hb⟩ := (hrest.mem_iff hlist).1 ha
        · exact hnotin hr
        · exact hapart r (List.mem_cons_of_mem a hr) a (List.mem_cons_self ..) hb
      have hdisj : ∀ x ∈ below, ∀ y ∈ rest, x ≠ y := by
        rintro x hx y hy rfl
        have hax := (hmem x).1 hx
        obtain ⟨r, hr, hxr⟩ := (hrest.mem_iff hlist).1 hy
        have hra := List.mem_cons_of_mem a hr
        rcases hxr with rfl | hrx
        · exact hapart a (List.mem_cons_self ..) x hra hax
        · rcases hax.linear hrx with rfl | hb | hb
          · exact hnotin hr
          · exact hapart a (List.mem_cons_self ..) r hra hb
          · exact hapart r hra a (List.mem_cons_self ..) hb
      rw [List.cons_append, List.nodup_cons, List.mem_append, List.nodup_append]
      exact ⟨not_or.2 ⟨hself, hother⟩, hnb, ihrest hnodup hapart.tail, hdisj⟩

/-- **Every node stands after its parent**, unless it is a root. -/
theorem parent_before (h : Preorder children roots out) (hlist : Lists children parent) :
    ∀ {l₁ l₂ : List α} {x : α}, out = l₁ ++ x :: l₂ →
      x ∈ roots ∨ ∃ p ∈ l₁, parent x = some p := by
  induction h with
  | nil => intro l₁ l₂ x hout; simp at hout
  | @cons a as below rest _ _ ihbelow ihrest =>
      intro l₁ l₂ x hout
      cases l₁ with
      | nil =>
          obtain ⟨rfl, -⟩ := List.cons.inj hout
          exact .inl (List.mem_cons_self ..)
      | cons b l₁ =>
          obtain ⟨rfl, htail⟩ := List.cons.inj hout
          rcases List.append_eq_append_iff.1 htail with ⟨m, rfl, hm⟩ | ⟨m, hm, hrest⟩
          · -- in the walk of a later root
            rcases ihrest hm with hroot | ⟨p, hp, hx⟩
            · exact .inl (List.mem_cons_of_mem _ hroot)
            · exact .inr ⟨p, by simp [hp], hx⟩
          · cases m with
            | nil =>
                rcases @ihrest [] l₂ x (by simpa using hrest.symm) with hroot | ⟨p, hp, -⟩
                · exact .inl (List.mem_cons_of_mem _ hroot)
                · simp at hp
            | cons y m =>
                obtain ⟨rfl, -⟩ := List.cons.inj hrest
                rcases ihbelow hm with hchild | ⟨p, hp, hx⟩
                · exact .inr ⟨a, List.mem_cons_self .., hlist.mem_iff.1 hchild⟩
                · exact .inr ⟨p, List.mem_cons_of_mem _ hp, hx⟩

/-- **What is below a node stands right behind it.** -/
theorem contiguous (h : Preorder children roots out) :
    ∀ {l₁ l₂ : List α} {x : α}, out = l₁ ++ x :: l₂ →
      ∃ below rest, l₂ = below ++ rest ∧ Preorder children (children x) below := by
  induction h with
  | nil => intro l₁ l₂ x hout; simp at hout
  | @cons a as below rest hbelow _ ihbelow ihrest =>
      intro l₁ l₂ x hout
      cases l₁ with
      | nil =>
          obtain ⟨rfl, rfl⟩ := List.cons.inj hout
          exact ⟨below, rest, rfl, hbelow⟩
      | cons b l₁ =>
          obtain ⟨rfl, htail⟩ := List.cons.inj hout
          rcases List.append_eq_append_iff.1 htail with ⟨m, rfl, hm⟩ | ⟨m, hm, hrest⟩
          · exact ihrest hm
          · cases m with
            | nil => exact @ihrest [] l₂ x (by simpa using hrest.symm)
            | cons y m =>
                obtain ⟨rfl, rfl⟩ := List.cons.inj hrest
                obtain ⟨b', r', rfl, hwalk⟩ := ihbelow hm
                exact ⟨b', r' ++ rest, by simp, hwalk⟩

/-- The roots stand in their order, if they have one parent that no listed node below them has. -/
theorem filter_roots [DecidableEq α] (h : Preorder children roots out)
    (hlist : Lists children parent) {o : Option α} (hroots : ∀ r ∈ roots, parent r = o)
    (hother : ∀ r ∈ roots, ∀ x, Below parent r x → parent x ≠ o) :
    (out.filter fun x => parent x = o) = roots := by
  induction h with
  | nil => rfl
  | @cons a as below rest hbelow _ _ ihrest =>
      have ha : parent a = o := hroots a (List.mem_cons_self ..)
      have hnone : (below.filter fun x => decide (parent x = o)) = [] := by
        refine List.filter_eq_nil_iff.2 fun x hx => ?_
        simpa using hother a (List.mem_cons_self ..) x ((hbelow.mem_below_iff hlist).1 hx)
      have hrest := ihrest (fun r hr => hroots r (List.mem_cons_of_mem a hr))
        fun r hr => hother r (List.mem_cons_of_mem a hr)
      rw [List.cons_append, List.filter_cons_of_pos (by simpa using ha), List.filter_append, hnone,
        hrest, List.nil_append]

/-- **The children of a listed node stand in their order.** -/
theorem filter_children [DecidableEq α] (h : Preorder children roots out)
    (hlist : Lists children parent) (hroot : ∀ x, Rooted parent x) (hnodup : out.Nodup) {p : α}
    (hp : p ∈ out) : (out.filter fun x => parent x = some p) = children p := by
  obtain ⟨l₁, l₂, hsplit⟩ := List.append_of_mem hp
  obtain ⟨below, rest, rfl, hbelow⟩ := h.contiguous hsplit
  have hinside : (below.filter fun x => decide (parent x = some p)) = children p :=
    hbelow.filter_roots hlist (fun c hc => hlist.mem_iff.1 hc) fun c hc x hx hxp => by
      have hcp : parent c = some p := hlist.mem_iff.1 hc
      obtain ⟨q, hq, hqc⟩ := hx.cases
      obtain rfl : p = q := Option.some.inj (hxp.symm.trans hq)
      rcases hqc with rfl | hqc
      · exact (hroot p).not_below_self (.single hcp)
      · exact (hroot p).not_below_self ((Below.single hcp).trans hqc)
  -- a child elsewhere would be listed twice
  rw [hsplit] at hnodup
  have houtside : ∀ x, x ∈ l₁ ∨ x ∈ rest → ¬ parent x = some p := by
    intro x hx hxp
    have hin : x ∈ below := (hbelow.mem_below_iff hlist).2 (.single hxp)
    obtain ⟨-, htail, hdisj⟩ := List.nodup_append.1 hnodup
    rcases hx with hx | hx
    · exact hdisj x hx x (List.mem_cons_of_mem p (List.mem_append_left rest hin)) rfl
    · exact (List.nodup_append.1 (List.nodup_cons.1 htail).2).2.2 x hin x hx rfl
  have hleft : (l₁.filter fun x => decide (parent x = some p)) = [] :=
    List.filter_eq_nil_iff.2 fun x hx => by simpa using houtside x (.inl hx)
  have hright : (rest.filter fun x => decide (parent x = some p)) = [] :=
    List.filter_eq_nil_iff.2 fun x hx => by simpa using houtside x (.inr hx)
  have hself : ¬ parent p = some p := fun hpp => (hroot p).not_below_self (.single hpp)
  rw [hsplit, List.filter_append, List.filter_cons_of_neg (by simpa using hself),
    List.filter_append, hleft, hinside, hright, List.nil_append, List.append_nil]

end Preorder
end Forest
end Dbal
