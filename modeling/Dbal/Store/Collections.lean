/-
# Collections of rows

Rows under ids, in named collections.  In a collection an id names one row at most, and the rows
stand in an order, which is that of a listing.
-/

import Mathlib.Data.List.AList
import Mathlib.Data.List.Sort
import Mathlib.Data.String.Basic
import Dbal.Store.SideBySide

namespace Dbal
namespace Store

/-- A map written down as a list, value by value, and read again. -/
theorem getElem?_ofList_map {α β : Type} (t : Std.TreeMap String α) (f : α → β) (key : String) :
    (Std.TreeMap.ofList (t.toList.map fun (k, value) => (k, f value)))[key]? = t[key]?.map f := by
  cases hkey : t[key]? with
  | none =>
      refine Std.TreeMap.getElem?_ofList_of_contains_eq_false ?_
      rw [List.map_map, ← Bool.not_eq_true, List.contains_iff_mem, List.mem_map]
      rintro ⟨⟨k, value⟩, hmem, rfl⟩
      rw [Std.TreeMap.mem_toList_iff_getElem?_eq_some] at hmem
      rw [Function.comp_apply, hmem] at hkey
      cases hkey
  | some value =>
      refine Std.TreeMap.getElem?_ofList_of_mem Std.ReflCmp.compare_self ?_
        (List.mem_map.2 ⟨(key, value), Std.TreeMap.mem_toList_iff_getElem?_eq_some.2 hkey, rfl⟩)
      rw [List.pairwise_map]
      exact Std.TreeMap.distinct_keys_toList

/-- A list of entries, each key once. -/
theorem getElem?_ofList_iff {α : Type} {entries : List (String × α)}
    (h : (entries.map Prod.fst).Nodup) {key : String} {value : α} :
    (Std.TreeMap.ofList entries)[key]? = some value ↔ (key, value) ∈ entries := by
  have hdistinct : entries.Pairwise fun a b => ¬ compare a.1 b.1 = .eq := by
    rw [List.nodup_iff_pairwise_ne, List.pairwise_map] at h
    exact h.imp fun hne heq => hne (Std.LawfulEqOrd.eq_of_compare heq)
  have hfound {k : String} {v : α} (hmem : (k, v) ∈ entries) :
      (Std.TreeMap.ofList entries)[k]? = some v :=
    Std.TreeMap.getElem?_ofList_of_mem Std.ReflCmp.compare_self hdistinct hmem
  refine ⟨fun hvalue => ?_, hfound⟩
  by_cases hkey : key ∈ entries.map Prod.fst
  · obtain ⟨⟨k, v⟩, hmem, rfl⟩ := List.mem_map.1 hkey
    obtain rfl : v = value := Option.some.inj ((hfound hmem).symm.trans hvalue)
    exact hmem
  · rw [Std.TreeMap.getElem?_ofList_of_contains_eq_false] at hvalue
    · cases hvalue
    · rwa [← Bool.not_eq_true, List.contains_iff_mem]

/-- Entries in the order of their keys are the map as it is listed. -/
theorem toList_ofList {α : Type} {entries : List (String × α)}
    (h : (entries.map Prod.fst).Pairwise (· < ·)) :
    (Std.TreeMap.ofList entries).toList = entries := by
  have hnodup : (entries.map Prod.fst).Nodup := h.imp fun hlt heq => (heq ▸ hlt).false
  have hlisted : (Std.TreeMap.ofList entries).toList.Pairwise fun a b => a.1 < b.1 :=
    Std.TreeMap.ordered_keys_toList.imp fun hlt => compare_lt_iff_lt.1 hlt
  have hirrefl : Std.Irrefl fun a b : String × α => a.1 < b.1 := ⟨fun a => lt_irrefl a.1⟩
  have hantisymm : Std.Antisymm fun a b : String × α => a.1 < b.1 :=
    ⟨fun a b hab hba => absurd (hab.trans hba) (lt_irrefl a.1)⟩
  refine List.Pairwise.eq_of_mem_iff hlisted (List.pairwise_map.1 h) fun entry => ?_
  rw [Std.TreeMap.mem_toList_iff_getElem?_eq_some, getElem?_ofList_iff hnodup]

/-- The list of a map has what is under each key. -/
theorem lookup_toList {α : Type} {t : Std.TreeMap String α} {key : String} :
    t.toList.lookup key = t[key]? := by
  have hkeys : t.toList.Pairwise fun a b => a.1 ≠ b.1 :=
    Std.TreeMap.ordered_keys_toList.imp fun hlt heq => (compare_lt_iff_lt.1 hlt).ne heq
  cases hkey : t[key]? with
  | none =>
      rw [List.lookup_eq_none_iff]
      intro entry hentry
      rw [bne_iff_ne]
      rintro rfl
      rw [Std.TreeMap.mem_toList_iff_getElem?_eq_some.1 hentry] at hkey
      cases hkey
  | some value =>
      obtain ⟨front, back, hlist⟩ :=
        List.append_of_mem (Std.TreeMap.mem_toList_iff_getElem?_eq_some.2 hkey)
      rw [hlist] at hkeys ⊢
      refine List.lookup_eq_some_iff.2 ⟨front, back, rfl, fun entry hentry => ?_⟩
      rw [bne_iff_ne]
      exact ((List.pairwise_append.1 hkeys).2.2 entry hentry _ List.mem_cons_self).symm

/-- Some entries of a map, each under its key, written down and read again. -/
theorem getElem?_ofList_filterMap {α β : Type} (t : Std.TreeMap String α)
    {f : String × α → Option (String × β)} (hf : ∀ {k value pair}, f (k, value) = some pair → pair.1 = k)
    (key : String) :
    (Std.TreeMap.ofList (t.toList.filterMap f))[key]? =
      t[key]?.bind fun value => (f (key, value)).map Prod.snd := by
  have hmem {k : String} {value : α} : (k, value) ∈ t.toList ↔ t[k]? = some value :=
    Std.TreeMap.mem_toList_iff_getElem?_eq_some
  cases hfound : t[key]?.bind fun value => (f (key, value)).map Prod.snd with
  | none =>
      refine Std.TreeMap.getElem?_ofList_of_contains_eq_false ?_
      rw [← Bool.not_eq_true, List.contains_iff_mem, List.mem_map]
      rintro ⟨pair, hpair, rfl⟩
      obtain ⟨⟨k, value⟩, hentry, hsome⟩ := List.mem_filterMap.1 hpair
      rw [hf hsome, hmem.1 hentry, Option.bind_some, hsome] at hfound
      cases hfound
  | some found =>
      obtain ⟨value, hvalue, hsome⟩ := Option.bind_eq_some_iff.1 hfound
      obtain ⟨pair, hpair, rfl⟩ := Option.map_eq_some_iff.1 hsome
      obtain rfl := hf hpair
      refine Std.TreeMap.getElem?_ofList_of_mem Std.ReflCmp.compare_self ?_
        (List.mem_filterMap.2 ⟨(pair.1, value), hmem.2 hvalue, hpair⟩)
      rw [List.pairwise_filterMap]
      refine Std.TreeMap.distinct_keys_toList.imp fun {a a'} hne b hb b' hb' => ?_
      rwa [hf hb, hf hb']

/-- Named collections of rows under ids. -/
abbrev Collections (κ ι ρ : Type) := κ → AList fun _ : ι => ρ

namespace Collections

variable {κ ι ρ : Type}

/-- The rows of a collection, in order. -/
def rowsOf (rows : AList fun _ : ι => ρ) : List ρ := rows.entries.map Sigma.snd

/-- The entry of an id. -/
def entry (row : ι → Option ρ) (i : ι) : Option (Sigma fun _ : ι => ρ) := (row i).map (Sigma.mk i)

theorem keys_filterMap {ids : List ι} {row : ι → Option ρ} (h : ∀ i ∈ ids, (row i).isSome) :
    (ids.filterMap (entry row)).keys = ids := by
  induction ids with
  | nil => rfl
  | cons i ids ih =>
      obtain ⟨r, hr⟩ := Option.isSome_iff_exists.1 (h i (List.mem_cons_self ..))
      rw [List.filterMap_cons, entry, hr]
      exact congrArg (i :: ·) (ih fun j hj => h j (List.mem_cons_of_mem _ hj))

variable [DecidableEq ι]

/-- One collection has the given rows afterwards, in whatever order, and the others are as they
were. -/
def Becomes (R R' : Collections κ ι ρ) (name : κ) (row : ι → Option ρ) : Prop :=
  (∀ i, (R' name).lookup i = row i) ∧ ∀ other, other ≠ name → R' other = R other

/-- Rows for just these ids stand in their order. -/
theorem exists_listing {ids : List ι} (hnodup : ids.Nodup) {row : ι → Option ρ}
    (hrow : ∀ i, i ∈ ids ↔ (row i).isSome) :
    ∃ rows : AList fun _ : ι => ρ, rows.keys = ids ∧ ∀ i, rows.lookup i = row i := by
  have hkeys : (ids.filterMap (entry row)).keys = ids := keys_filterMap fun i hi => (hrow i).1 hi
  obtain ⟨rows, hentries⟩ :
      ∃ rows : AList fun _ : ι => ρ, rows.entries = ids.filterMap (entry row) :=
    ⟨⟨_, show (ids.filterMap (entry row)).keys.Nodup by rwa [hkeys]⟩, rfl⟩
  have hall : rows.keys = ids := by rw [AList.keys, hentries, hkeys]
  refine ⟨rows, hall, fun i => ?_⟩
  cases hi : row i with
  | none =>
      rw [AList.lookup_eq_none, AList.mem_keys, hall, hrow, hi]
      exact Bool.false_ne_true
  | some r =>
      have hmem : i ∈ ids := by
        rw [hrow, hi]
        rfl
      refine AList.mem_lookup_iff.2 ?_
      rw [hentries]
      refine List.mem_filterMap.2 ⟨i, hmem, ?_⟩
      rw [entry, hi]
      rfl

/-- What is found under the ids, one after the other, are the rows. -/
theorem filterMap_lookup (rows : AList fun _ : ι => ρ) :
    rows.keys.filterMap rows.lookup = rowsOf rows := by
  rw [AList.keys, List.keys, List.filterMap_map, rowsOf, ← List.filterMap_eq_map]
  refine List.filterMap_congr fun entry hentry => ?_
  exact AList.mem_lookup_iff.2 hentry

end Collections
end Store
end Dbal
