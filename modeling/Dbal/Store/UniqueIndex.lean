/-
# Unique indexes

Records are kept under their ids, and next to them a reverse index from a key of the
records to the id, edited by hand.  `Indexes` says that the index and the records are in
bijection: a key leads to the one record that carries it, and to nothing else.

The four edits that keep it are those of a table with a unique column: a new record
with an unused key, a record that goes, a record that gets another unused key, and a record
whose key stays.
-/

import Mathlib.Data.List.Basic

namespace Dbal

variable {κ ι ρ : Type} [Ord κ] [Ord ι]

/-- Each key of the index leads to the record with that key, and every record is found. -/
def Indexes (idx : Std.TreeMap κ ι) (records : Std.TreeMap ι ρ) (key : ρ → κ) : Prop :=
  ∀ k i, idx[k]? = some i ↔ ∃ r, records[i]? = some r ∧ key r = k

/-- The index and the records are in bijection: besides, no two records share a key. -/
def Bijection (idx : Std.TreeMap κ ι) (records : Std.TreeMap ι ρ) (key : ρ → κ) : Prop :=
  Indexes idx records key ∧
    ∀ (i j : ι) (r q : ρ), records[i]? = some r → records[j]? = some q → key r = key q → i = j

section

variable [Std.TransOrd κ] [Std.LawfulEqOrd κ] [DecidableEq κ]

theorem getElem?_insert_eq (m : Std.TreeMap κ ρ) (k j : κ) (r : ρ) :
    (m.insert k r)[j]? = if k = j then some r else m[j]? := by
  by_cases h : k = j <;> simp [Std.TreeMap.getElem?_insert, h]

theorem getElem?_erase_eq (m : Std.TreeMap κ ρ) (k j : κ) :
    (m.erase k)[j]? = if k = j then none else m[j]? := by
  by_cases h : k = j <;> simp [Std.TreeMap.getElem?_erase, h]

end

namespace Indexes

variable {idx : Std.TreeMap κ ι} {records : Std.TreeMap ι ρ} {key : ρ → κ}

theorem of_record (h : Indexes idx records key) {i : ι} {r : ρ} (hr : records[i]? = some r) :
    idx[key r]? = some i :=
  (h (key r) i).2 ⟨r, hr, rfl⟩

/-- Two records with one key are one record. -/
theorem unique (h : Indexes idx records key) {i j : ι} {r q : ρ} (hr : records[i]? = some r)
    (hq : records[j]? = some q) (hkey : key r = key q) : i = j := by
  have hi := h.of_record hr
  have hj := h.of_record hq
  rw [hkey] at hi
  exact Option.some.inj (hi.symm.trans hj)

theorem bijection (h : Indexes idx records key) : Bijection idx records key :=
  ⟨h, fun _ _ _ _ hr hq hkey => h.unique hr hq hkey⟩

variable [Std.TransOrd κ] [Std.TransOrd ι]

theorem empty : Indexes (∅ : Std.TreeMap κ ι) (∅ : Std.TreeMap ι ρ) key := by
  intro k i
  simp

variable [Std.LawfulEqOrd κ] [DecidableEq κ] [Std.LawfulEqOrd ι] [DecidableEq ι]

/-- **A new record with an unused key.** -/
theorem insert (h : Indexes idx records key) {i : ι} {r : ρ} (hnew : records[i]? = none)
    (hkey : idx[key r]? = none) : Indexes (idx.insert (key r) i) (records.insert i r) key := by
  intro k j
  rw [getElem?_insert_eq, getElem?_insert_eq]
  by_cases hk : key r = k <;> by_cases hj : i = j
  · simp [hk, hj]
  · have hnone : ∀ q, records[j]? = some q → key q ≠ k := by
      rintro q hq rfl
      rw [hk, h.of_record hq] at hkey
      cases hkey
    simp only [hk, hj, if_true, if_false, Option.some.injEq, false_iff]
    rintro ⟨q, hq, hqk⟩
    exact hnone q hq hqk
  · have hnone : idx[k]? ≠ some j := by
      rw [Ne, h k j]
      rintro ⟨q, hq, -⟩
      rw [← hj, hnew] at hq
      cases hq
    simp [hk, hj, hnone]
  · simpa [hk, hj] using h k j

/-- **A record that goes takes its key along.** -/
theorem erase (h : Indexes idx records key) {i : ι} {r : ρ} (hr : records[i]? = some r) :
    Indexes (idx.erase (key r)) (records.erase i) key := by
  intro k j
  rw [getElem?_erase_eq, getElem?_erase_eq]
  by_cases hk : key r = k <;> by_cases hj : i = j
  · simp [hk, hj]
  · have hnone : ∀ q, records[j]? = some q → key q ≠ k := by
      rintro q hq rfl
      exact hj (h.unique hr hq hk)
    simp only [hk, hj, if_true, if_false, reduceCtorEq, false_iff]
    rintro ⟨q, hq, hqk⟩
    exact hnone q hq hqk
  · have hnone : idx[k]? ≠ some j := by
      rw [Ne, h k j]
      rintro ⟨q, hq, hqk⟩
      rw [← hj, hr] at hq
      obtain rfl := Option.some.inj hq
      exact hk hqk
    simp [hk, hj, hnone]
  · simpa [hk, hj] using h k j

omit [Std.TransOrd κ] [Std.LawfulEqOrd κ] [DecidableEq κ] in
/-- A record whose key stays. -/
theorem setFields (h : Indexes idx records key) {i : ι} {r r' : ρ} (hr : records[i]? = some r)
    (hkey : key r' = key r) : Indexes idx (records.insert i r') key := by
  intro k j
  rw [h k j, getElem?_insert_eq]
  by_cases hj : i = j
  · subst hj
    simp [hr, hkey]
  · simp [hj]

/-- **A record that gets another key**, one that is unused or its own. -/
theorem rename (h : Indexes idx records key) {i : ι} {r r' : ρ} (hr : records[i]? = some r)
    (hfree : idx[key r']? = none ∨ idx[key r']? = some i) :
    Indexes ((idx.erase (key r)).insert (key r') i) (records.insert i r') key := by
  intro k j
  rw [getElem?_insert_eq, getElem?_insert_eq, getElem?_erase_eq]
  by_cases hk : key r' = k <;> by_cases hj : i = j
  · simp [hk, hj]
  · have hother : ∀ q, records[j]? = some q → key q ≠ k := by
      rintro q hq rfl
      rw [hk, h.of_record hq] at hfree
      rcases hfree with hfree | hfree
      · cases hfree
      · exact hj (Option.some.inj hfree).symm
    simp only [hk, hj, if_true, if_false, Option.some.injEq, false_iff]
    rintro ⟨q, hq, hqk⟩
    exact hother q hq hqk
  · have hnone : key r ≠ k → idx[k]? ≠ some j := by
      rw [Ne, Ne, h k j]
      rintro hne ⟨q, hq, hqk⟩
      rw [← hj, hr] at hq
      obtain rfl := Option.some.inj hq
      exact hne hqk
    by_cases hold : key r = k
    · simp [hk, hj, hold]
    · simp [hk, hj, hold, hnone hold]
  · by_cases hold : key r = k
    · have hother : ∀ q, records[j]? = some q → key q ≠ k := by
        rintro q hq rfl
        exact hj (h.unique hr hq hold)
      simp only [hk, hj, hold, if_true, if_false, reduceCtorEq, false_iff]
      rintro ⟨q, hq, hqk⟩
      exact hother q hq hqk
    · simpa [hk, hj, hold] using h k j

end Indexes
end Dbal
