/-
# Two lists side by side

What stands beside an element in lists of one length, and the lists that a loop makes: the results
of a loop that may fail (`forall₂_of_mapM`), and those of one in which some elements give nothing
(`forall₂_reduceOption_iff`).
-/

import Mathlib.Data.List.Forall2
import Mathlib.Data.List.ReduceOption

namespace Dbal
namespace Store

section SideBySide

variable {ε α β : Type}

/-- An element of either list stands beside one of the other. -/
theorem exists_of_forall₂ {R : α → β → Prop} {xs : List α} {ys : List β}
    (h : List.Forall₂ R xs ys) {x : α} (hx : x ∈ xs) : ∃ y ∈ ys, R x y := by
  induction h with
  | nil => cases hx
  | @cons a b xs ys hab _ ih =>
      rcases List.mem_cons.1 hx with rfl | hx
      · exact ⟨b, List.mem_cons_self, hab⟩
      · obtain ⟨y, hy, hxy⟩ := ih hx
        exact ⟨y, List.mem_cons_of_mem b hy, hxy⟩

theorem exists_of_forall₂_right {R : α → β → Prop} {xs : List α} {ys : List β}
    (h : List.Forall₂ R xs ys) {y : β} (hy : y ∈ ys) : ∃ x ∈ xs, R x y := by
  have hflip : List.Forall₂ (flip R) ys xs := h.flip
  exact exists_of_forall₂ hflip hy

/-- What agrees in any two that stand side by side agrees in the lists. -/
theorem map_eq_of_forall₂ {γ : Type} {R : α → β → Prop} {f : α → γ} {g : β → γ} {xs : List α}
    {ys : List β} (h : List.Forall₂ R xs ys) (hR : ∀ x y, R x y → g y = f x) :
    ys.map g = xs.map f := by
  induction h with
  | nil => rfl
  | cons hxy _ ih => rw [List.map_cons, List.map_cons, hR _ _ hxy, ih]

/-- What a loop with results makes of each element. -/
theorem forall₂_of_mapM {f : α → Except ε β} {xs : List α} {ys : List β}
    (h : xs.mapM f = .ok ys) : List.Forall₂ (fun x y => f x = .ok y) xs ys := by
  induction xs generalizing ys with
  | nil =>
      cases h
      exact .nil
  | cons x xs ih =>
      rw [List.mapM_cons] at h
      cases hx : f x with
      | error e =>
          rw [hx] at h
          cases h
      | ok y =>
          cases hxs : xs.mapM f with
          | error e =>
              rw [hx, hxs] at h
              cases h
          | ok ys' =>
              rw [hx, hxs] at h
              cases h
              exact .cons hx (ih hxs)

/-- When every element that is not kept gives nothing, the results stand beside the kept elements
exactly when each kept element has a result that it may stand beside. -/
theorem forall₂_reduceOption_iff {D : α → β → Prop} {R : α → Option β → Prop} {keep : α → Bool}
    {Q : α → Prop} {xs : List α} {rs : List (Option β)} (hR : List.Forall₂ R xs rs)
    (hdrop : ∀ x r, R x r → keep x = false → r = none)
    (hkeep : ∀ x r, R x r → keep x = true → ((∃ y, r = some y ∧ D x y) ↔ Q x)) :
    List.Forall₂ D (xs.filter keep) rs.reduceOption ↔ ∀ x ∈ xs, keep x = true → Q x := by
  have hlength : ∀ {xs rs}, List.Forall₂ R xs rs →
      rs.reduceOption.length ≤ (xs.filter keep).length := by
    intro xs rs h
    induction h with
    | nil => simp
    | @cons x r xs rs hx _ ih =>
        cases hk : keep x with
        | false => simpa [hdrop x r hx hk, hk] using ih
        | true =>
            cases r with
            | none => simpa [hk] using Nat.le_succ_of_le ih
            | some y => simpa [hk] using ih
  induction hR with
  | nil => simp
  | @cons x r xs rs hx hrest ih =>
      cases hk : keep x with
      | false => simp [hdrop x r hx hk, hk, ih]
      | true =>
          have hq := hkeep x r hx hk
          cases r with
          | none =>
              have hnot : ¬ Q x := fun h => by simpa using hq.2 h
              refine iff_of_false (fun h => ?_) fun h => hnot (h x List.mem_cons_self hk)
              have heq := h.length_eq
              have hle := hlength hrest
              simp only [List.filter_cons_of_pos hk, List.length_cons,
                List.reduceOption_cons_of_none] at heq
              omega
          | some y =>
              have hy : D x y ↔ Q x := by simpa using hq
              simp only [List.filter_cons_of_pos hk, List.reduceOption_cons_of_some,
                List.forall₂_cons, ih, List.forall_mem_cons, hy, hk, true_implies]

end SideBySide

end Store
end Dbal
