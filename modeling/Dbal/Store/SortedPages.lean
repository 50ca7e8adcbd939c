/-
# Pages of a sorted listing

A listing that is sorted by an order with ties may come in any arrangement of the ties, and each
page is cut out of an arrangement of its own.  The pages, one after the other, are still the whole
listing whatever the arrangements are, exactly when no end of a page falls between two different
items that tie (`pages_perm_iff`).

In a sorted listing the items that tie with `x` stand together, behind the `before x` smaller ones
and within the first `upto x` (`filter_append`).  So the front of a listing up to a place that is
not inside such a group is the same collection in every arrangement (`perm_take`), and so is each
page; at a place inside, two items can change sides (`exists_arrangements`).
-/

import Dbal.Store.Paging
import Mathlib.Algebra.Order.BigOperators.Group.List
import Mathlib.Algebra.Order.Group.Nat
import Mathlib.Data.List.Perm.Basic
import Mathlib.Data.List.Sort

namespace Dbal
namespace Store

variable {α : Type}

/-- Any two items compare, and comparisons chain. -/
structure TotalPreorder (le : α → α → Bool) : Prop where
  total : ∀ x y, le x y = true ∨ le y x = true
  trans : ∀ {x y z}, le x y = true → le y z = true → le x z = true

/-- The items in an order that `le` allows. -/
def Arranged (le : α → α → Bool) (items arrangement : List α) : Prop :=
  arrangement.Perm items ∧ arrangement.Pairwise fun x y => le x y = true

/-- The number of items that come before `x` in every arrangement. -/
def before (le : α → α → Bool) (items : List α) (x : α) : Nat := items.countP fun z => !le x z

/-- The number of items that come before `x` or tie with it. -/
def upto (le : α → α → Bool) (items : List α) (x : α) : Nat := items.countP fun z => le z x

/-- Two items that tie. -/
def Tied (le : α → α → Bool) (x y : α) : Prop := le x y = true ∧ le y x = true

/-- The place `p` is not between two different items that tie. -/
def UnsplitAt (le : α → α → Bool) (items : List α) (p : Nat) : Prop :=
  ∀ x ∈ items, ∀ y ∈ items, Tied le x y → x ≠ y →
    ¬ (before le items x < p ∧ p < upto le items x)

/-- No page ends between two different items that tie. -/
def Unsplit (le : α → α → Bool) (size : Nat) (items : List α) : Prop :=
  ∀ k, UnsplitAt le items (k * size)

section Sorted

variable {le : α → α → Bool} {items a b : List α} {x : α}

theorem TotalPreorder.refl (hle : TotalPreorder le) (x : α) : le x x = true :=
  (hle.total x x).elim id id

theorem TotalPreorder.of_not (hle : TotalPreorder le) {x y : α} (h : le x y = false) :
    le y x = true :=
  (hle.total x y).resolve_left (by simp [h])

/-- What fits on one page is not split. -/
theorem unsplit_of_length_le {size : Nat} (h : items.length ≤ size) : Unsplit le size items := by
  rintro k x - y - - - ⟨hbefore, hupto⟩
  have hinside : k * size < size :=
    hupto.trans_le (List.countP_le_length.trans h)
  obtain rfl : k = 0 := by
    by_contra hk
    exact absurd (Nat.le_mul_of_pos_left size (Nat.pos_of_ne_zero hk)) (not_le.2 hinside)
  simp at hbefore

/-- Every listing can be arranged. -/
theorem TotalPreorder.exists_arranged (hle : TotalPreorder le) (items : List α) :
    ∃ a, Arranged le items a := by
  refine ⟨items.mergeSort le, List.mergeSort_perm items le, List.pairwise_mergeSort ?_ ?_ items⟩
  · exact fun x y z hxy hyz => hle.trans hxy hyz
  · exact fun x y => by simpa using hle.total x y

/-- **A sorted listing has first what is smaller than `x`, then what ties with it, then the
rest.** -/
theorem TotalPreorder.filter_append (hle : TotalPreorder le)
    (h : a.Pairwise fun x y => le x y = true) (x : α) :
    a.filter (fun z => !le x z) ++ a.filter (fun z => le x z && le z x) ++
      a.filter (fun z => !le z x) = a := by
  induction a with
  | nil => rfl
  | cons z a ih =>
      obtain ⟨hz, ha⟩ := List.pairwise_cons.1 h
      have ih := ih ha
      cases hxz : le x z with
      | false =>
          have hzx := hle.of_not hxz
          simpa [hxz, hzx] using ih
      | true =>
          have hnone : a.filter (fun y => !le x y) = [] := by
            rw [List.filter_eq_nil_iff]
            exact fun y hy => by simp [hle.trans hxz (hz y hy)]
          rw [hnone] at ih
          cases hzx : le z x with
          | true => simpa [hxz, hzx, hnone] using ih
          | false =>
              have hties : a.filter (fun y => le x y && le y x) = [] := by
                rw [List.filter_eq_nil_iff]
                intro y hy hboth
                rw [Bool.and_eq_true] at hboth
                simp [hle.trans (hz y hy) hboth.2] at hzx
              rw [hties] at ih
              simpa [hxz, hzx, hnone, hties] using ih

theorem Arranged.before_eq (h : Arranged le items a) (x : α) :
    before le items x = (a.filter fun z => !le x z).length := by
  rw [before, ← h.1.countP_eq, List.countP_eq_length_filter]

/-- What comes before `x` and what ties with it. -/
theorem TotalPreorder.upto_eq (hle : TotalPreorder le) (items : List α) (x : α) :
    upto le items x = before le items x + (items.filter fun z => le x z && le z x).length := by
  rw [upto, before, ← List.countP_eq_length_filter]
  induction items with
  | nil => rfl
  | cons z items ih =>
      have hz := hle.total x z
      rw [List.countP_cons, List.countP_cons, List.countP_cons, ih]
      cases hxz : le x z <;> cases hzx : le z x <;> simp_all <;> omega

/-- The front of an arrangement, as far as `x` is not passed. -/
theorem Arranged.le_of_mem_take (hle : TotalPreorder le) (h : Arranged le items a) {p : Nat}
    (hp : p ≤ upto le items x) : ∀ z ∈ a.take p, le z x = true := by
  intro z hz
  rw [← hle.filter_append h.2 x, List.take_append_of_le_length] at hz
  · rcases List.mem_append.1 (List.mem_of_mem_take hz) with hz | hz
    · exact hle.of_not (by simpa using (List.mem_filter.1 hz).2)
    · exact (Bool.and_eq_true _ _ ▸ (List.mem_filter.1 hz).2).2
  · rw [List.length_append, ← h.before_eq, (h.1.filter _).length_eq, ← hle.upto_eq]
    exact hp

/-- The back of an arrangement, as soon as what is smaller than `x` is passed. -/
theorem Arranged.le_of_mem_drop (hle : TotalPreorder le) (h : Arranged le items a) {p : Nat}
    (hp : before le items x ≤ p) : ∀ z ∈ a.drop p, le x z = true := by
  intro z hz
  have hpassed : (a.filter fun z => !le x z).drop p = [] := by
    rw [List.drop_eq_nil_iff, ← h.before_eq]
    exact hp
  rw [← hle.filter_append h.2 x, List.append_assoc, List.drop_append, hpassed,
    List.nil_append] at hz
  rcases List.mem_append.1 (List.mem_of_mem_drop hz) with hz | hz
  · exact (Bool.and_eq_true _ _ ▸ (List.mem_filter.1 hz).2).1
  · exact hle.of_not (by simpa using (List.mem_filter.1 hz).2)

/-- Two items that tie, where an arrangement of the others leaves a place for them. -/
theorem pairwise_insert (hle : TotalPreorder le) {y : α} {p : Nat}
    (h : a.Pairwise fun x y => le x y = true) (hties : Tied le x y)
    (hfront : ∀ z ∈ a.take p, le z x = true) (hback : ∀ z ∈ a.drop p, le x z = true) :
    (a.take p ++ x :: y :: a.drop p).Pairwise fun x y => le x y = true := by
  rw [← List.take_append_drop p a, List.pairwise_append] at h
  obtain ⟨htake, hdrop, hacross⟩ := h
  rw [List.pairwise_append, List.pairwise_cons, List.pairwise_cons, List.forall_mem_cons]
  refine ⟨htake, ⟨⟨hties.1, hback⟩, fun z hz => hle.trans hties.2 (hback z hz), hdrop⟩, ?_⟩
  intro z hz
  rw [List.forall_mem_cons, List.forall_mem_cons]
  exact ⟨hfront z hz, hle.trans (hfront z hz) hties.1, hacross z hz⟩

/-- The page that ends behind a front. -/
theorem numberedPage_of_front {size k : Nat} {front rest : List α}
    (hlength : front.length + 1 = (k + 1) * size) :
    numberedPage size (k + 1) (front ++ x :: rest) = front.drop (k * size) ++ [x] := by
  rw [Nat.succ_mul] at hlength
  have hstart : k * size ≤ front.length := by
    by_contra hlt
    obtain rfl : size = 0 := by omega
    omega
  have hone : size - (front.drop (k * size)).length = 1 := by
    rw [List.length_drop]
    omega
  rw [numberedPage, Nat.add_sub_cancel, List.drop_append_of_le_length hstart, List.take_append,
    List.take_of_length_le (by omega), hone]
  rfl

variable [DecidableEq α]

/-- How often an item occurs in the front of an arrangement. -/
theorem TotalPreorder.count_take (hle : TotalPreorder le) (h : Arranged le items a) (p : Nat)
    (x : α) :
    (a.take p).count x =
      ((a.filter fun z => le x z && le z x).take (p - before le items x)).count x := by
  have hrefl := hle.refl x
  have hsplit := hle.filter_append h.2 x
  have hfront : ∀ q, ((a.filter fun z => !le x z).take q).count x = 0 := fun q =>
    List.count_eq_zero.2 fun hmem => by
      simpa [hrefl] using (List.mem_filter.1 (List.mem_of_mem_take hmem)).2
  have hback : ∀ q, ((a.filter fun z => !le z x).take q).count x = 0 := fun q =>
    List.count_eq_zero.2 fun hmem => by
      simpa [hrefl] using (List.mem_filter.1 (List.mem_of_mem_take hmem)).2
  conv_lhs => rw [← hsplit]
  rw [List.take_append, List.take_append, List.count_append, List.count_append, hfront, hback,
    ← h.before_eq, Nat.zero_add, Nat.add_zero]

/-- **A front that does not end between ties** is the same collection in every arrangement. -/
theorem TotalPreorder.perm_take (hle : TotalPreorder le) (ha : Arranged le items a)
    (hb : Arranged le items b) {p : Nat} (h : UnsplitAt le items p) :
    (a.take p).Perm (b.take p) := by
  rw [List.perm_iff_count]
  intro x
  rw [hle.count_take ha, hle.count_take hb]
  have hties : (a.filter fun z => le x z && le z x).Perm (b.filter fun z => le x z && le z x) :=
    (ha.1.trans hb.1.symm).filter _
  have hlength : (a.filter fun z => le x z && le z x).length =
      upto le items x - before le items x := by
    rw [hle.upto_eq, (ha.1.filter _).length_eq]
    omega
  by_cases hmem : x ∈ items
  · by_cases hinside : before le items x < p ∧ p < upto le items x
    · -- all that ties with `x` is `x`
      have hsame : ∀ c, Arranged le items c →
          ∀ z ∈ c.filter (fun z => le x z && le z x), z = x := by
        intro c hc z hz
        obtain ⟨hzc, hties⟩ := List.mem_filter.1 hz
        rw [Bool.and_eq_true] at hties
        by_contra hne
        exact h x hmem z (hc.1.mem_iff.1 hzc) hties (Ne.symm hne) hinside
      rw [List.eq_replicate_of_mem (hsame a ha), List.eq_replicate_of_mem (hsame b hb),
        hties.length_eq]
    · rcases not_and_or.1 hinside with hbefore | hupto
      · have hzero : p - before le items x = 0 := by omega
        rw [hzero, List.take_zero, List.take_zero]
      · rw [List.take_of_length_le (by omega), List.take_of_length_le, hties.count_eq]
        rw [← hties.length_eq]
        omega
  · have hnone : ∀ c, Arranged le items c →
        ((c.filter fun z => le x z && le z x).take (p - before le items x)).count x = 0 :=
      fun c hc => List.count_eq_zero.2 fun hin =>
        hmem (hc.1.mem_iff.1 (List.mem_filter.1 (List.mem_of_mem_take hin)).1)
    rw [hnone a ha, hnone b hb]

/-- Where no page ends between ties, each page is the same collection in every arrangement. -/
theorem Unsplit.perm_numberedPage (hle : TotalPreorder le) {size : Nat}
    (h : Unsplit le size items) (ha : Arranged le items a) (hb : Arranged le items b) (k : Nat) :
    (numberedPage size (k + 1) a).Perm (numberedPage size (k + 1) b) := by
  have hnext := hle.perm_take ha hb (h (k + 1))
  rw [Nat.succ_mul, List.take_add, List.take_add] at hnext
  have hfront := hle.perm_take ha hb (h k)
  rw [numberedPage, numberedPage, Nat.add_sub_cancel]
  exact (List.perm_append_left_iff _).1 ((hfront.append_right _).symm.trans hnext)

/-- What the pages make, each cut out of its own arrangement. -/
def pagesOf (size count : Nat) (arrangement : Nat → List α) : List α :=
  (List.range count).flatMap fun k => numberedPage size (k + 1) (arrangement k)

/-- **Where no page ends between ties, the pages are the listing.** -/
theorem Unsplit.perm_pagesOf (hle : TotalPreorder le) {size count : Nat}
    (h : Unsplit le size items) (hcount : items.length ≤ count * size)
    {arrangement : Nat → List α} (harranged : ∀ k < count, Arranged le items (arrangement k)) :
    (pagesOf size count arrangement).Perm items := by
  obtain ⟨a, ha⟩ := hle.exists_arranged items
  have hpages : (pagesOf size count arrangement).Perm
      ((List.range count).flatMap fun k => numberedPage size (k + 1) a) :=
    List.Perm.flatMap_left _ fun k hk =>
      h.perm_numberedPage hle (harranged k (List.mem_range.1 hk)) ha k
  rw [flatMap_numberedPage (ha.1.length_eq.trans_le hcount)] at hpages
  exact hpages.trans ha.1

/-- **Two items that tie can stand on either side of a place between them.** -/
theorem exists_arrangements (hle : TotalPreorder le) {y : α} {p : Nat} (hx : x ∈ items)
    (hy : y ∈ items) (hties : Tied le x y) (hne : x ≠ y) (hbefore : before le items x < p)
    (hupto : p < upto le items x) :
    ∃ front back, front.length + 1 = p ∧ Arranged le items (front ++ x :: y :: back) ∧
      Arranged le items (front ++ y :: x :: back) := by
  have hperm : items.Perm (x :: y :: (items.erase x).erase y) :=
    (List.perm_cons_erase hx).trans
      ((List.perm_cons_erase ((List.mem_erase_of_ne hne.symm).2 hy)).cons x)
  obtain ⟨a, ha⟩ := hle.exists_arranged ((items.erase x).erase y)
  have hbeforeRest : before le items x = before le ((items.erase x).erase y) x := by
    rw [before, before, hperm.countP_eq]
    simp [hle.refl x, hties.1]
  have huptoRest : upto le items x = upto le ((items.erase x).erase y) x + 2 := by
    rw [upto, upto, hperm.countP_eq]
    simp [hle.refl x, hties.2]
  have hfront := ha.le_of_mem_take hle (p := p - 1) (x := x) (by omega)
  have hback := ha.le_of_mem_drop hle (p := p - 1) (x := x) (by omega)
  have hlength : p - 1 ≤ a.length := by
    have hle' : upto le ((items.erase x).erase y) x ≤ ((items.erase x).erase y).length :=
      List.countP_le_length
    rw [ha.1.length_eq]
    omega
  have hinsert : ∀ z w, [z, w].Perm [x, y] →
      (a.take (p - 1) ++ z :: w :: a.drop (p - 1)).Perm items := by
    intro z w hzw
    have hmiddle : (a.take (p - 1) ++ [z, w] ++ a.drop (p - 1)).Perm ([x, y] ++ a) := by
      refine ((List.perm_append_comm.append_right _).trans ?_)
      rw [List.append_assoc, List.take_append_drop]
      exact hzw.append_right a
    simpa using (hmiddle.trans ((ha.1.cons y).cons x)).trans hperm.symm
  refine ⟨a.take (p - 1), a.drop (p - 1), ?_, ⟨hinsert x y (.refl _), ?_⟩,
    ⟨hinsert y x (.swap x y []), ?_⟩⟩
  · rw [List.length_take]
    omega
  · exact pairwise_insert hle ha.2 hties hfront hback
  · exact pairwise_insert hle ha.2 hties.symm (fun z hz => hle.trans (hfront z hz) hties.1)
      fun z hz => hle.trans hties.2 (hback z hz)

/-- **Pages that end between ties can lose an item**: where all pages are always the listing, no
page ends between two different items that tie. -/
theorem unsplit_of_perm (hle : TotalPreorder le) {size count : Nat}
    (hcount : items.length ≤ count * size)
    (h : ∀ arrangement : Nat → List α, (∀ k < count, Arranged le items (arrangement k)) →
      (pagesOf size count arrangement).Perm items) : Unsplit le size items := by
  rintro k x hx y hy hties hne ⟨hbefore, hupto⟩
  have hpos : k ≠ 0 := fun hk => by simp [hk] at hbefore
  obtain ⟨k, rfl⟩ := Nat.exists_eq_succ_of_ne_zero hpos
  obtain ⟨front, back, hlength, ha, hb⟩ :=
    exists_arrangements hle hx hy hties hne hbefore hupto
  have hinside : (k + 1) * size < count * size :=
    hupto.trans_le (List.countP_le_length.trans hcount)
  have hk : k < count := by
    have hlt := Nat.lt_of_mul_lt_mul_right hinside
    omega
  -- all pages from one arrangement, but the page that ends between them from the other
  have hall := (h (fun _ => front ++ x :: y :: back) fun _ _ => ha).count_eq x
  have hswapped := (h (fun j => if j = k then front ++ y :: x :: back else front ++ x :: y :: back)
    fun j _ => by
      split
      · exact hb
      · exact ha).count_eq x
  have hpage : (numberedPage size (k + 1) (front ++ y :: x :: back)).count x + 1 =
      (numberedPage size (k + 1) (front ++ x :: y :: back)).count x := by
    rw [numberedPage_of_front hlength, numberedPage_of_front hlength, List.count_append,
      List.count_append, List.count_singleton_self, List.count_singleton, if_neg]
    simpa using hne.symm
  rw [pagesOf, List.count_flatMap] at hall hswapped
  have hlt := List.sum_lt_sum (l := List.range count)
    (fun j => (numberedPage size (j + 1)
      (if j = k then front ++ y :: x :: back else front ++ x :: y :: back)).count x)
    (fun j => (numberedPage size (j + 1) (front ++ x :: y :: back)).count x)
    (fun j _ => by
      by_cases hj : j = k
      · rw [if_pos hj, hj]
        omega
      · rw [if_neg hj])
    ⟨k, List.mem_range.2 hk, by
      rw [if_pos rfl]
      omega⟩
  exact absurd hlt (not_lt.2 (hall.trans hswapped.symm).le)

/-- **The pages of a sorted listing are the listing, whatever the arrangements of the ties, exactly
when no page ends between two different items that tie.** -/
theorem pages_perm_iff (hle : TotalPreorder le) {size count : Nat}
    (hcount : items.length ≤ count * size) :
    (∀ arrangement : Nat → List α, (∀ k < count, Arranged le items (arrangement k)) →
      (pagesOf size count arrangement).Perm items) ↔ Unsplit le size items :=
  ⟨unsplit_of_perm hle hcount, fun h _ harranged => h.perm_pagesOf hle hcount harranged⟩

end Sorted

end Store
end Dbal
