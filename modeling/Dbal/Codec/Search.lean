/-
# Searching in texts, and joining them

`cut` gives what stands before and behind the first occurrence of a text.  A search passes over what
it finds nothing in, whatever follows (`Skips`): what does not have the first character of the text
(`skips_of_not_mem`), and one such piece after the other (`Skips.append`).  Behind them the text is
found where it was put (`Skips.cut_append`).

Of texts with a separator between any two of them: what stands in the whole (`mem_intercalate`), that it
is made element by element (`map_intercalate`), and that two parts are told apart (`append_cons_inj`).
-/

import Mathlib.Data.List.Basic
import Mathlib.Data.List.Infix

namespace Dbal
namespace Codec

/-- What is checked of each element of a list holds of it. -/
theorem forall_mem_of_all {α : Type} {p : α → Prop} [DecidablePred p] {l : List α}
    (h : (l.all fun x => decide (p x)) = true) : ∀ x ∈ l, p x := fun x hx =>
  of_decide_eq_true (List.all_eq_true.1 h x hx)

section Search

variable {α : Type} [DecidableEq α]

/-- What stands before and behind the first occurrence of a text. -/
def cut (part : List α) : List α → Option (List α × List α)
  | [] => if part = [] then some ([], []) else none
  | x :: xs =>
      if part <+: x :: xs then some ([], (x :: xs).drop part.length)
      else (cut part xs).map fun found => (x :: found.1, found.2)

variable {mark : α} {part front rest : List α}

/-- A text at the beginning is found there. -/
theorem cut_self (part rest : List α) : cut part (part ++ rest) = some ([], rest) := by
  cases part with
  | nil =>
      cases rest with
      | nil => rfl
      | cons x rest => exact if_pos List.nil_prefix
  | cons x part =>
      have hprefix : x :: part <+: x :: (part ++ rest) := List.prefix_append (x :: part) rest
      rw [List.cons_append, cut, if_pos hprefix, ← List.cons_append, List.drop_left]

theorem cut_cons_of_not_prefix {x : α} (h : ¬ part <+: x :: rest) :
    cut part (x :: rest) = (cut part rest).map fun found => (x :: found.1, found.2) := if_neg h

/-- A text in which the search finds nothing, whatever stands behind it. -/
def Skips (part front : List α) : Prop :=
  ∀ rest, cut part (front ++ rest) = (cut part rest).map fun found => (front ++ found.1, found.2)

theorem Skips.append {front' : List α} (h : Skips part front) (h' : Skips part front') :
    Skips part (front ++ front') := by
  intro rest
  rw [List.append_assoc, h, h', Option.map_map]
  simp [Function.comp_def]

/-- A text is found behind what is passed over. -/
theorem Skips.cut_append (h : Skips part front) (rest : List α) :
    cut part (front ++ (part ++ rest)) = some (front, rest) := by
  rw [h, cut_self, Option.map_some, List.append_nil]

/-- What has no mark in it is passed over. -/
theorem skips_of_not_mem (h : mark ∉ front) : Skips (mark :: part) front := by
  intro rest
  induction front with
  | nil => simp
  | cons x front ih =>
      rw [List.mem_cons, not_or] at h
      have hprefix : ¬ mark :: part <+: x :: (front ++ rest) := fun hpre =>
        h.1 (List.cons_prefix_cons.1 hpre).1
      rw [List.cons_append, cut_cons_of_not_prefix hprefix, ih h.2, Option.map_map]
      rfl

/-- What was found stands where it was found. -/
theorem append_of_cut {text back : List α} (h : cut part text = some (front, back)) :
    front ++ (part ++ back) = text := by
  induction text generalizing front with
  | nil =>
      rw [cut] at h
      split_ifs at h with hpart
      cases h
      simp [hpart]
  | cons x text ih =>
      rw [cut] at h
      split_ifs at h with hprefix
      · cases h
        obtain ⟨rest, hrest⟩ := hprefix
        rw [List.nil_append, ← hrest, List.drop_left]
      · obtain ⟨⟨front', back'⟩, hcut, heq⟩ := Option.map_eq_some_iff.1 h
        cases heq
        rw [List.cons_append, ih hcut]

end Search

/-! ### Joined texts -/

section Joined

variable {α β : Type} {separator : List α} {x : α}

/-- What stands in a text that was joined stands in the separator or in a part of it. -/
theorem mem_intercalate {texts : List (List α)} (h : x ∈ separator.intercalate texts) :
    x ∈ separator ∨ ∃ text ∈ texts, x ∈ text := by
  induction texts with
  | nil => cases h
  | cons text texts ih =>
      cases texts with
      | nil =>
          rw [List.intercalate_singleton] at h
          exact .inr ⟨text, List.mem_cons_self, h⟩
      | cons next texts =>
          rw [List.intercalate_cons_cons, List.mem_append, List.mem_append] at h
          rcases h with (hx | hx) | hx
          · exact .inr ⟨text, List.mem_cons_self, hx⟩
          · exact .inl hx
          · exact (ih hx).imp_right fun ⟨other, hother, hin⟩ =>
              ⟨other, List.mem_cons_of_mem _ hother, hin⟩

theorem mem_intercalate_of_mem {text : List α} (hx : x ∈ text) {texts : List (List α)}
    (htext : text ∈ texts) : x ∈ separator.intercalate texts := by
  induction texts with
  | nil => cases htext
  | cons first texts ih =>
      cases texts with
      | nil =>
          rw [List.intercalate_singleton, ← List.mem_singleton.1 htext]
          exact hx
      | cons next texts =>
          rw [List.intercalate_cons_cons, List.mem_append, List.mem_append]
          rcases List.mem_cons.1 htext with rfl | htext
          · exact .inl (.inl hx)
          · exact .inr (ih htext)

theorem map_intercalate (f : α → β) (separator : List α) (texts : List (List α)) :
    (separator.intercalate texts).map f =
      (separator.map f).intercalate (texts.map (List.map f)) := by
  induction texts with
  | nil => rfl
  | cons text texts ih =>
      cases texts with
      | nil => rw [List.intercalate_singleton, List.map_singleton, List.intercalate_singleton]
      | cons next texts =>
          rw [List.intercalate_cons_cons, List.map_append, List.map_append, ih, List.map_cons,
            List.map_cons, List.map_cons, List.intercalate_cons_cons]

/-- What follows the last text follows the whole. -/
theorem intercalate_append_last (texts : List (List α)) (last more : List α) :
    separator.intercalate (texts ++ [last ++ more]) =
      separator.intercalate (texts ++ [last]) ++ more := by
  induction texts with
  | nil => simp
  | cons text texts ih =>
      have hne : ∀ last : List α, texts ++ [last] ≠ [] := by simp
      rw [List.cons_append, List.cons_append, List.intercalate_cons_of_ne_nil (hne _),
        List.intercalate_cons_of_ne_nil (hne _), ih]
      simp

/-- **Two parts with a separator between them are told apart**, where the first has none. -/
theorem append_cons_inj {front front' back back' : List α} (h : x ∉ front) (h' : x ∉ front')
    (heq : front ++ x :: back = front' ++ x :: back') : front = front' ∧ back = back' := by
  induction front generalizing front' with
  | nil =>
      cases front' with
      | nil => exact ⟨rfl, (List.cons.inj heq).2⟩
      | cons y front' => exact absurd ((List.cons.inj heq).1 ▸ List.mem_cons_self) h'
  | cons y front ih =>
      cases front' with
      | nil => exact absurd ((List.cons.inj heq).1 ▸ List.mem_cons_self) h
      | cons y' front' =>
          obtain ⟨rfl, hrest⟩ := List.cons.inj heq
          obtain ⟨rfl, hback⟩ := ih (fun hx => h (List.mem_cons_of_mem y hx))
            (fun hx => h' (List.mem_cons_of_mem y hx)) hrest
          exact ⟨rfl, hback⟩

end Joined

end Codec
end Dbal
