/-
# Forests given by a parent map

A parent map sends each node to its parent or to nothing.  It is a forest when
going up from any node ends (`Rooted`).  The results are the ones that a store
of nodes with parent fields needs: giving a node a new parent that is not below
it keeps a forest (`Rooted.reparent`), cutting edges keeps one
(`Rooted.mono`), and over finitely many nodes going *down* ends as well
(`child_wellFounded`), so a recursion over children needs no visited set.
-/

import Mathlib.Data.Set.Card
import Mathlib.Logic.Relation

namespace Dbal
namespace Forest

variable {α : Type*} {parent parent' : α → Option α}

/-- Going up from `a` ends at a node without a parent. -/
inductive Rooted (parent : α → Option α) : α → Prop where
  | root {a : α} : parent a = none → Rooted parent a
  | child {a b : α} : parent a = some b → Rooted parent b → Rooted parent a

/-- `x` is below `a`: going up from `x`, one step or more, meets `a`. -/
def Below (parent : α → Option α) (a x : α) : Prop :=
  Relation.TransGen (fun y z => parent y = some z) x a

theorem Below.single {a x : α} (h : parent x = some a) : Below parent a x :=
  Relation.TransGen.single h

/-- Below the parent is below. -/
theorem Below.up {a b x : α} (hx : parent x = some b) (h : Below parent a b) : Below parent a x :=
  Relation.TransGen.head hx h

theorem Below.trans {a b x : α} (h : Below parent a b) (h' : Below parent b x) :
    Below parent a x :=
  Relation.TransGen.trans h' h

/-- The first step up: to `a` itself or to a node below it. -/
theorem Below.cases {a x : α} (h : Below parent a x) :
    ∃ b, parent x = some b ∧ (b = a ∨ Below parent a b) := by
  rcases Relation.TransGen.head'_iff.1 h with ⟨b, hb, hba⟩
  exact ⟨b, hb, (Relation.reflTransGen_iff_eq_or_transGen.1 hba).imp Eq.symm id⟩

/-- The last step up: from a child of `a`. -/
theorem Below.exists_child {a x : α} (h : Below parent a x) :
    ∃ c, parent c = some a ∧ (c = x ∨ Below parent c x) := by
  rcases Relation.TransGen.tail'_iff.1 h with ⟨c, hxc, hc⟩
  exact ⟨c, hc, (Relation.reflTransGen_iff_eq_or_transGen.1 hxc)⟩

theorem below_iff_child {a x : α} :
    Below parent a x ↔ ∃ c, parent c = some a ∧ (c = x ∨ Below parent c x) := by
  refine ⟨Below.exists_child, ?_⟩
  rintro ⟨c, hc, rfl | hx⟩
  · exact .single hc
  · exact (Below.single hc).trans hx

/-- **No node of a forest is below itself.** -/
theorem Rooted.not_below_self {a : α} (h : Rooted parent a) : ¬ Below parent a a := by
  induction h with
  | root ha =>
      intro hb
      obtain ⟨b, hb, -⟩ := hb.cases
      rw [ha] at hb
      cases hb
  | child hab _ ih =>
      intro hb
      obtain ⟨c, hc, hca⟩ := hb.cases
      obtain rfl : _ = c := Option.some.inj (hab.symm.trans hc)
      rcases hca with rfl | hca
      · exact ih (.single hab)
      · exact ih ((Below.single hab).trans hca)

/-- **Cutting edges keeps a forest.** -/
theorem Rooted.mono (hsub : ∀ a b, parent' a = some b → parent a = some b) {a : α}
    (h : Rooted parent a) : Rooted parent' a := by
  induction h with
  | @root a ha =>
      cases hp : parent' a with
      | none => exact .root hp
      | some b =>
          rw [hsub a b hp] at ha
          cases ha
  | @child a b hab _ ih =>
      cases hp : parent' a with
      | none => exact .root hp
      | some c =>
          obtain rfl : b = c := Option.some.inj (hab.symm.trans (hsub a c hp))
          exact .child hp ih

theorem Below.mono (hsub : ∀ a b, parent' a = some b → parent a = some b) {a x : α}
    (h : Below parent' a x) : Below parent a x :=
  Relation.TransGen.mono hsub _ _ h

/-- A node that is neither `a` nor below it keeps its way up when only the
parent of `a` changes. -/
theorem Rooted.of_not_below {a : α} (hother : ∀ x, x ≠ a → parent' x = parent x) {x : α}
    (h : Rooted parent x) (hne : x ≠ a) (hnb : ¬ Below parent a x) : Rooted parent' x := by
  induction h with
  | root hx => exact .root (hother _ hne ▸ hx)
  | @child x y hxy _ ih =>
      have hya : y ≠ a := by
        rintro rfl
        exact hnb (.single hxy)
      exact .child (hother x hne ▸ hxy) (ih hya fun hb => hnb (hb.up hxy))

/-- A node outside the tree under `c` is below the same nodes when only parents
inside that tree are cut. -/
theorem Below.of_cut {c d : α} (hcut : ∀ y, y ≠ c → ¬ Below parent c y → parent' y = parent y)
    {x : α} (h : Below parent d x) (hne : x ≠ c) (hnb : ¬ Below parent c x) :
    Below parent' d x := by
  induction h using Relation.TransGen.head_induction_on with
  | single hxd => exact .single (hcut _ hne hnb ▸ hxd)
  | @head x y hxy _ ih =>
      have hyc : y ≠ c := by
        rintro rfl
        exact hnb (.single hxy)
      exact (ih hyc fun hb => hnb (hb.up hxy)).up (hcut x hne hnb ▸ hxy)

/-- **A new parent that is not below keeps a forest.** -/
theorem Rooted.reparent {a p : α} (h : ∀ x, Rooted parent x) (ha : parent' a = some p)
    (hother : ∀ x, x ≠ a → parent' x = parent x) (hne : p ≠ a) (hnb : ¬ Below parent a p) (x : α) :
    Rooted parent' x := by
  have hroot : Rooted parent' a := .child ha ((h p).of_not_below hother hne hnb)
  have hx := h x
  induction hx with
  | @root x hx =>
      rcases eq_or_ne x a with rfl | hxa
      · exact hroot
      · exact .root (hother x hxa ▸ hx)
  | @child x y hxy _ ih =>
      rcases eq_or_ne x a with rfl | hxa
      · exact hroot
      · exact .child (hother x hxa ▸ hxy) ih

/-- The nodes below `a`. -/
def below (parent : α → Option α) (a : α) : Set α := {x | Below parent a x}

theorem below_finite (hfin : {x | parent x ≠ none}.Finite) (a : α) : (below parent a).Finite := by
  refine hfin.subset fun x hx hnone => ?_
  obtain ⟨b, hb, -⟩ := Below.cases hx
  rw [hnone] at hb
  cases hb

/-- Fewer nodes are below a child than below its parent. -/
theorem ncard_below_lt (hfin : {x | parent x ≠ none}.Finite) {a c : α} (hc : Rooted parent c)
    (hca : parent c = some a) : (below parent c).ncard < (below parent a).ncard := by
  refine Set.ncard_lt_ncard ⟨fun x hx => (Below.single hca).trans hx, fun hsub => ?_⟩
    (below_finite hfin a)
  exact hc.not_below_self (hsub (Below.single hca : c ∈ below parent a))

/-- **Over finitely many nodes, going down a forest ends.** -/
theorem child_wellFounded (hfin : {x | parent x ≠ none}.Finite) (h : ∀ x, Rooted parent x) :
    WellFounded fun c a => parent c = some a :=
  Subrelation.wf (fun hca => ncard_below_lt hfin (h _) hca)
    (InvImage.wf (fun a => (below parent a).ncard) Nat.lt_wfRel.wf)

end Forest
end Dbal
