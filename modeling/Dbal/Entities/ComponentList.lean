/-
# `component::list`

`src/entities/component/crud/list_components.hpp`: the components that the filter lets through, in
the order of the comparator, and of these one page.  The page is cut out with iterators whose
distances are `int`s: it is defined exactly when the start, and behind it the end, is an `int`
(`listPage_isSome_iff`), and then it is the numbered page of the sorted components
(`listPage_eq`).
-/

import Dbal.Core.Query
import Dbal.Store.InMemoryStore
import Dbal.Store.Paging
import Mathlib.Algebra.Order.Ring.Int

namespace Dbal

/-- What an `int` holds. -/
def IsInt (n : Int) : Prop := -(intMax : Int) - 1 ≤ n ∧ n ≤ intMax

instance (n : Int) : Decidable (IsInt n) := inferInstanceAs (Decidable (_ ∧ _))

namespace Component

/-- The filter of `component::list`; an empty `pageId` is no filter. -/
def listed (options : ListOptions) (component : ComponentNode) : Bool :=
  (options.filter["pageId"]?.all fun pageId => pageId = "" || component.pageId = pageId) &&
    (options.filter["parentId"]?.all fun parentId => component.parentId = some parentId) &&
    options.filter["type"]?.all fun type => component.type = type

/-- The comparator of `component::list`. -/
def listedBefore (a b : ComponentNode) : Bool :=
  if a.pageId ≠ b.pageId then a.pageId < b.pageId
  else if a.parentId.isSome ≠ b.parentId.isSome then b.parentId.isSome
  else if a.parentId ≠ b.parentId then a.parentId.getD "" < b.parentId.getD ""
  else if a.order ≠ b.order then a.order < b.order
  else a.id < b.id

/-- The page that `component::list` cuts out of the sorted components.  There is none where a
product or a sum overflows, or where an iterator leaves the vector. -/
def listPage (options : ListOptions) (components : List ComponentNode) :
    Option (List ComponentNode) :=
  let size : Int := (components.length : Int).bmod (2 ^ 32)
  let page := if 1 < options.page then options.page else 1
  let limit := if 0 < options.limit then options.limit else size
  if limit = 0 ∨ components = [] then some []
  else
    let start := (page - 1) * limit
    if ¬ IsInt start then none
    else if size ≤ start then some []
    else if ¬ IsInt (start + limit) then none
    else
      let stop := min (start + limit) size
      if 0 ≤ start ∧ start ≤ stop ∧ stop ≤ components.length then
        some ((components.drop start.toNat).take (stop - start).toNat)
      else none

/-- The components that the filter lets through. -/
def selected (store : InMemoryStore) (options : ListOptions) : List ComponentNode :=
  (store.components.toList.map fun entry => entry.2).filter (listed options)

/-- `component::list`; ids differ, so that one order is sorted. -/
def list (store : InMemoryStore) (options : ListOptions) : Option (Result (List ComponentNode)) :=
  (listPage options ((selected store options).mergeSort fun a b => !listedBefore b a)).map .ok

section Page

variable {options : ListOptions} {components : List ComponentNode}

theorem bmod_le (n : Nat) : (n : Int).bmod (2 ^ 32) ≤ n := by
  rw [Int.bmod_def]
  split <;> omega

/-- What is left of `listPage` for a page and a limit that are positive: the iterators stay inside
the vector. -/
theorem listPage_of_pos (hpage : 0 < options.page) (hlimit : 0 < options.limit) :
    listPage options components =
      let size : Int := (components.length : Int).bmod (2 ^ 32)
      let start := (options.page - 1) * options.limit
      if components = [] then some []
      else if ¬ IsInt start then none
      else if size ≤ start then some []
      else if ¬ IsInt (start + options.limit) then none
      else some ((components.drop start.toNat).take
        (min (start + options.limit) size - start).toNat) := by
  have hnumber : (if 1 < options.page then options.page else 1) = options.page := by
    split <;> omega
  have hstart : 0 ≤ (options.page - 1) * options.limit :=
    Int.mul_nonneg (by omega) (Int.le_of_lt hlimit)
  have hsize := bmod_le components.length
  simp only [listPage, hnumber, if_pos hlimit, Int.ne_of_gt hlimit, false_or]
  generalize (options.page - 1) * options.limit = start at *
  split_ifs with hempty hint hbehind hend hinside
  · rfl
  · rfl
  · rfl
  · omega
  · rfl
  · rfl

/-- A page is defined exactly when its start is an `int` and, unless it starts behind the last
component, its end. -/
theorem listPage_isSome_iff (hpage : 0 < options.page) (hlimit : 0 < options.limit) :
    (listPage options components).isSome = true ↔
      components = [] ∨ (options.page - 1) * options.limit ≤ intMax ∧
        ((options.page - 1) * options.limit < (components.length : Int).bmod (2 ^ 32) →
          options.page * options.limit ≤ intMax) := by
  have hstart : 0 ≤ (options.page - 1) * options.limit :=
    Int.mul_nonneg (by omega) (Int.le_of_lt hlimit)
  have hend : options.page * options.limit = (options.page - 1) * options.limit + options.limit := by
    rw [Int.sub_mul, Int.one_mul, Int.sub_add_cancel]
  rw [listPage_of_pos hpage hlimit, hend]
  dsimp only
  generalize (options.page - 1) * options.limit = start at *
  unfold IsInt
  split_ifs with hempty hint hbehind hint'
  · simp [hempty]
  · exact iff_of_true rfl (.inr ⟨by omega, by omega⟩)
  · exact iff_of_true rfl (.inr ⟨by omega, by omega⟩)
  · refine iff_of_false (by simp) ?_
    rintro (hnil | ⟨-, hle⟩)
    · exact hempty hnil
    · exact hint' ⟨by omega, hle (by omega)⟩
  · refine iff_of_false (by simp) ?_
    rintro (hnil | ⟨hle, -⟩)
    · exact hempty hnil
    · exact hint ⟨by omega, hle⟩

/-- The page that is cut out is the page with the number of the options. -/
theorem listPage_eq (hpage : 0 < options.page) (hlimit : 0 < options.limit)
    (hlength : components.length ≤ intMax) {items : List ComponentNode}
    (h : listPage options components = some items) :
    items = Store.numberedPage options.limit.toNat options.page.toNat components := by
  have hstart : 0 ≤ (options.page - 1) * options.limit :=
    Int.mul_nonneg (by omega) (Int.le_of_lt hlimit)
  have hplace : (options.page.toNat - 1) * options.limit.toNat =
      ((options.page - 1) * options.limit).toNat := by
    rw [Int.toNat_mul (by omega) (Int.le_of_lt hlimit)]
    congr 1
    omega
  have hsize : (components.length : Int).bmod (2 ^ 32) = components.length := by
    unfold intMax at hlength
    rw [Int.bmod_def]
    omega
  rw [Store.numberedPage, hplace]
  rw [listPage_of_pos hpage hlimit, hsize] at h
  dsimp only at h
  generalize (options.page - 1) * options.limit = start at *
  split_ifs at h with hempty hint hbehind hint'
  · cases h
    rw [hempty, List.drop_nil, List.take_nil]
  · cases h
    rw [List.drop_eq_nil_of_le (by omega), List.take_nil]
  · cases h
    rw [List.take_eq_take_iff, List.length_drop]
    omega

end Page

/-- A listing is defined by the number of the components alone. -/
theorem list_isSome_iff {options : ListOptions} (store : InMemoryStore) (hpage : 0 < options.page)
    (hlimit : 0 < options.limit) : (list store options).isSome = true ↔
      selected store options = [] ∨ (options.page - 1) * options.limit ≤ intMax ∧
        ((options.page - 1) * options.limit <
            ((selected store options).length : Int).bmod (2 ^ 32) →
          options.page * options.limit ≤ intMax) := by
  have hnil : ((selected store options).mergeSort fun a b => !listedBefore b a) = [] ↔
      selected store options = [] := by
    rw [← List.length_eq_zero_iff, List.length_mergeSort, List.length_eq_zero_iff]
  rw [list, Option.isSome_map, listPage_isSome_iff hpage hlimit, List.length_mergeSort, hnil]

end Component
end Dbal
