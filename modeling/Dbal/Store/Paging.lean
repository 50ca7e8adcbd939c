/-
# Listing in pages

A listing that is fetched page by page: a request carries the token of the page before it, the first
none, and an answer that is not the last one gives the token of the next.  A walk is what a client
has when it has followed the tokens to the last page.  Where pages have numbers instead, a client
asks for them in turn.
-/

import Mathlib.Data.List.Basic

namespace Dbal
namespace Store

variable {α τ : Type}

/-- The pages that follow a token up to the last one, and all that is on them. -/
inductive Walk (page : τ → List α × Option τ) : τ → List α → Prop
  | last {token items} : page token = (items, none) → Walk page token items
  | next {token items next rest} : page token = (items, some next) → Walk page next rest →
      Walk page token (items ++ rest)

namespace Walk

variable {page : τ → List α × Option τ} {token : τ} {items : List α}

/-- There is one way through the pages. -/
theorem unique {items' : List α} (h : Walk page token items) (h' : Walk page token items') :
    items = items' := by
  induction h generalizing items' with
  | last hpage =>
      cases h' with
      | last hpage' => exact (Prod.mk.inj (hpage.symm.trans hpage')).1
      | next hpage' _ => cases hpage.symm.trans hpage'
  | next hpage _ ih =>
      cases h' with
      | last hpage' => cases hpage.symm.trans hpage'
      | next hpage' hrest' =>
          obtain ⟨rfl, hnext⟩ := Prod.mk.inj (hpage.symm.trans hpage')
          obtain rfl := Option.some.inj hnext
          rw [ih hrest']

/-- **A token that nobody reads**: when every request has the same answer and that is not the last
page, no walk comes to an end. -/
theorem not_of_constant (items : List α) (next : τ)
    (h : ∀ token, page token = (items, some next)) : ¬ ∃ all, Walk page token all := by
  rintro ⟨all, hwalk⟩
  induction hwalk with
  | last hpage => cases hpage.symm.trans (h _)
  | next _ _ ih => exact ih

/-- What holds of the items of every page, and is passed on from a page to the one before it, holds
of everything on the walk. -/
theorem forall_mem {P : τ → α → Prop} (hitems : ∀ token, ∀ a ∈ (page token).1, P token a)
    (hnext : ∀ token next a, (page token).2 = some next → P next a → P token a)
    (h : Walk page token items) : ∀ a ∈ items, P token a := by
  induction h with
  | last hpage =>
      intro a ha
      exact hitems _ a (by rwa [hpage])
  | next hpage _ ih =>
      intro a ha
      rcases List.mem_append.1 ha with ha | ha
      · exact hitems _ a (by rwa [hpage])
      · exact hnext _ _ a (by rw [hpage]) (ih a ha)

end Walk

/-! ### Numbered pages -/

/-- The page with a number, counted from 1, of pages of `size` items. -/
def numberedPage (size number : Nat) (items : List α) : List α :=
  (items.drop ((number - 1) * size)).take size

/-- The first pages, one after the other, are the front of the listing. -/
theorem flatMap_numberedPage_eq_take (size count : Nat) (items : List α) :
    ((List.range count).flatMap fun i => numberedPage size (i + 1) items) =
      items.take (count * size) := by
  induction count with
  | zero => simp
  | succ count ih =>
      rw [List.range_succ, List.flatMap_append, ih, Nat.succ_mul, List.take_add]
      simp [numberedPage]

/-- **Enough pages, one after the other, are the whole listing.** -/
theorem flatMap_numberedPage {size count : Nat} {items : List α} (h : items.length ≤ count * size) :
    ((List.range count).flatMap fun i => numberedPage size (i + 1) items) = items := by
  rw [flatMap_numberedPage_eq_take, List.take_of_length_le h]

/-- A page after the last item is empty. -/
theorem numberedPage_eq_nil {size number : Nat} {items : List α}
    (h : items.length ≤ (number - 1) * size) : numberedPage size number items = [] := by
  rw [numberedPage, List.drop_eq_nil_of_le h, List.take_nil]

/-- The items from a position on, at most `limit` of them. -/
def window (offset limit : Nat) (items : List α) : List α := (items.drop offset).take limit

theorem window_eq_nil {offset limit : Nat} {items : List α} (h : items.length ≤ offset) :
    window offset limit items = [] := by
  rw [window, List.drop_eq_nil_of_le h, List.take_nil]

/-- The first place of a window. -/
theorem getElem?_window_zero {offset limit : Nat} (hlimit : 0 < limit) (items : List α) :
    (window offset limit items)[0]? = items[offset]? := by
  rw [window, List.getElem?_take_of_lt hlimit, List.getElem?_drop, Nat.add_zero]

/-- **Two windows that start inside the items show the same places only if they start at the
same.** -/
theorem window_zipIdx_eq_iff {offset offset' limit : Nat} (hlimit : 0 < limit) (items : List α) :
    window offset limit items.zipIdx = window offset' limit items.zipIdx ↔
      offset = offset' ∨ items.length ≤ offset ∧ items.length ≤ offset' := by
  constructor
  · intro h
    have hfirst : items.zipIdx[offset]? = items.zipIdx[offset']? := by
      rw [← getElem?_window_zero hlimit, h, getElem?_window_zero hlimit]
    rw [List.getElem?_zipIdx, List.getElem?_zipIdx] at hfirst
    rcases Nat.lt_or_ge offset items.length with hlt | hge
    · rw [List.getElem?_eq_getElem hlt, Option.map_some] at hfirst
      obtain ⟨_, -, hplace⟩ := Option.map_eq_some_iff.1 hfirst.symm
      have hsame := (Prod.mk.inj hplace).2
      exact .inl (by omega)
    · rw [List.getElem?_eq_none hge, Option.map_none] at hfirst
      have hnone := Option.map_eq_none_iff.1 hfirst.symm
      exact .inr ⟨hge, List.getElem?_eq_none_iff.1 hnone⟩
  · rintro (rfl | ⟨hlength, hlength'⟩)
    · rfl
    · rw [window_eq_nil (by simpa using hlength), window_eq_nil (by simpa using hlength')]

end Store
end Dbal
