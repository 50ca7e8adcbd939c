/-
# Frames, and the rows of one owner

A store is a map from keys to rows; some rows are not ours to touch.  `Frame P r r'`: the maps `r` and
`r'` hold the same rows with `P`, under the same keys, so none of them was changed, removed, or made
out of something else.

Operations on a list of rows that look at the rows of one owner only, and change only these, are
operations on the list of the owner's rows, and leave the list of the others as it is.
-/

import Mathlib.Data.List.Basic

namespace Dbal

section Frames

variable {κ ρ : Type} {P : ρ → Prop} {r r' r'' : κ → Option ρ}

/-- The rows with `P` are the same in both maps. -/
def Frame (P : ρ → Prop) (r r' : κ → Option ρ) : Prop :=
  ∀ k row, P row → (r' k = some row ↔ r k = some row)

/-- Every key holds what it held before, or had no row with `P` and has none. -/
def ChangesOutside (P : ρ → Prop) (r r' : κ → Option ρ) : Prop :=
  ∀ k, r' k = r k ∨
    (∀ row, r k = some row → ¬ P row) ∧ ∀ row, r' k = some row → ¬ P row

namespace Frame

theorem refl (P : ρ → Prop) (r : κ → Option ρ) : Frame P r r := fun _ _ _ => Iff.rfl

theorem trans (h : Frame P r r') (h' : Frame P r' r'') : Frame P r r'' :=
  fun k row hrow => (h' k row hrow).trans (h k row hrow)

theorem of_changes (h : ChangesOutside P r r') : Frame P r r' := by
  intro k row hrow
  rcases h k with heq | ⟨hbefore, hafter⟩
  · rw [heq]
  · exact ⟨fun hk => (hafter row hk hrow).elim, fun hk => (hbefore row hk hrow).elim⟩

end Frame

/-- After such changes a row with `P` is one that was there. -/
theorem ChangesOutside.kept (h : ChangesOutside P r r') {k : κ} {row : ρ} (hrow : r' k = some row)
    (hP : P row) : r k = some row := (Frame.of_changes h k row hP).1 hrow

end Frames

/-! ### Lists of rows -/

namespace Store

variable {α : Type} {own : α → Bool} {rows : List α}

/-- A row that is looked for among the owner's only. -/
theorem find?_filter_own {pick : α → Bool} (h : ∀ a ∈ rows, pick a = true → own a = true) :
    (rows.filter own).find? pick = rows.find? pick := by
  rw [List.find?_filter]
  induction rows with
  | nil => rfl
  | cons a rows ih =>
      have hrest := ih fun b hb => h b (List.mem_cons_of_mem _ hb)
      have ha := h a (List.mem_cons_self ..)
      cases hpick : pick a with
      | false => simpa [hpick] using hrest
      | true => simp [hpick, ha hpick]

/-- Rows that are picked among the owner's only. -/
theorem filter_filter_own {pick : α → Bool} (h : ∀ a ∈ rows, pick a = true → own a = true) :
    (rows.filter own).filter pick = rows.filter pick := by
  rw [List.filter_filter]
  refine List.filter_congr fun a ha => ?_
  cases hpick : pick a with
  | false => rfl
  | true => rw [h a ha hpick, Bool.and_true]

/-- A change that gives no row to another owner. -/
theorem filter_own_map {f : α → α} (h : ∀ a ∈ rows, own (f a) = own a) :
    (rows.map f).filter own = (rows.filter own).map f := by
  rw [List.filter_map]
  exact congrArg _ (List.filter_congr h)

/-- A change of the owner's rows. -/
theorem filter_others_map {f : α → α} (h : ∀ a ∈ rows, own (f a) = own a)
    (hothers : ∀ a ∈ rows, own a = false → f a = a) :
    (rows.map f).filter (fun a => !own a) = rows.filter fun a => !own a := by
  have hown : ∀ a ∈ rows, (!own (f a)) = !own a := fun a ha => by rw [h a ha]
  rw [filter_own_map hown]
  refine (List.map_congr_left fun a ha => ?_).trans (List.map_id _)
  rw [List.mem_filter, Bool.not_eq_true'] at ha
  exact hothers a ha.1 ha.2

/-- Rows of the owner are taken out. -/
theorem filter_others_filter {keep : α → Bool} (h : ∀ a ∈ rows, own a = false → keep a = true) :
    (rows.filter keep).filter (fun a => !own a) = rows.filter fun a => !own a := by
  rw [List.filter_filter]
  refine List.filter_congr fun a ha => ?_
  cases hown : own a with
  | false => simp [h a ha hown]
  | true => simp

/-- The beginning of a list, when it has rows of the owner only. -/
theorem take_filter_own {n : Nat} (h : ∀ a ∈ rows.take n, own a = true) :
    (rows.filter own).take n = rows.take n := by
  induction rows generalizing n with
  | nil => rfl
  | cons a rows ih =>
      cases n with
      | zero => rfl
      | succ n =>
          have ha : own a = true := h a (List.mem_cons_self ..)
          rw [List.filter_cons, if_pos ha, List.take_succ_cons, List.take_succ_cons,
            ih fun b hb => h b (List.mem_cons_of_mem _ hb)]

end Store
end Dbal
