/-
# Secondary indexes

A secondary index is an ordered map from a key to the list of the ids filed
under it, edited by hand next to the primary map: an id is appended under a key
(`addEntry`) and all its occurrences under a key are erased (`removeEntry`).

`Exact` says that an index lists, under each key, exactly the ids related to
it, each once.  An edit of the index keeps it exact for the relation with the
same edit, and that is all the proofs about a store use.
-/

import Mathlib.Data.List.Basic
import Mathlib.Data.List.Nodup
import Mathlib.Logic.Function.Basic

namespace Dbal

/-- Ids filed under keys. -/
abbrev SecondaryIndex (κ ι : Type) [Ord κ] := Std.TreeMap κ (List ι)

namespace SecondaryIndex

variable {κ ι : Type} [Ord κ]

/-- The ids filed under a key. -/
def entries (idx : SecondaryIndex κ ι) (k : κ) : List ι := idx[k]?.getD []

/-- `idx[k].push_back(i)`. -/
def addEntry (idx : SecondaryIndex κ ι) (k : κ) (i : ι) : SecondaryIndex κ ι :=
  idx.insert k (idx.entries k ++ [i])

/-- Erase every occurrence of an id under a key, and the key with its last one. -/
def removeEntry [DecidableEq ι] (idx : SecondaryIndex κ ι) (k : κ) (i : ι) : SecondaryIndex κ ι :=
  match idx[k]? with
  | none => idx
  | some es =>
      let es' := es.filter (· ≠ i)
      if es' = [] then idx.erase k else idx.insert k es'

/-- The index lists, under each key, exactly the ids related to it, each once. -/
def Exact (idx : SecondaryIndex κ ι) (R : ι → κ → Prop) : Prop :=
  ∀ k, (idx.entries k).Nodup ∧ ∀ i, i ∈ idx.entries k ↔ R i k

variable {idx : SecondaryIndex κ ι} {R R' : ι → κ → Prop}

theorem Exact.congr (h : Exact idx R) (hR : ∀ i k, R i k ↔ R' i k) : Exact idx R' := fun k =>
  ⟨(h k).1, fun i => ((h k).2 i).trans (hR i k)⟩

variable [Std.TransOrd κ]

@[simp] theorem entries_empty (k : κ) : entries (∅ : SecondaryIndex κ ι) k = [] := by
  simp [entries]

theorem exact_empty : Exact (∅ : SecondaryIndex κ ι) fun _ _ => False := fun k => by simp

variable [Std.LawfulEqOrd κ] [DecidableEq κ]

theorem entries_insert (k j : κ) (es : List ι) :
    entries (idx.insert k es) j = if k = j then es else idx.entries j := by
  by_cases h : k = j <;> simp [entries, Std.TreeMap.getElem?_insert, h]

theorem entries_erase (k j : κ) :
    entries (idx.erase k) j = if k = j then [] else idx.entries j := by
  by_cases h : k = j <;> simp [entries, Std.TreeMap.getElem?_erase, h]

theorem entries_addEntry (k j : κ) (i : ι) :
    (idx.addEntry k i).entries j = if k = j then idx.entries k ++ [i] else idx.entries j :=
  entries_insert ..

theorem entries_removeEntry [DecidableEq ι] (k j : κ) (i : ι) :
    (idx.removeEntry k i).entries j =
      if k = j then (idx.entries k).filter (· ≠ i) else idx.entries j := by
  unfold removeEntry
  cases hk : idx[k]? with
  | none =>
      have hnil : idx.entries k = [] := by simp [entries, hk]
      by_cases h : k = j
      · simp [← h, hnil]
      · simp [h]
  | some es =>
      have hes : idx.entries k = es := by simp [entries, hk]
      simp only [hes]
      split
      · next hnil => rw [entries_erase, hnil]
      · rw [entries_insert]

/-- **Filing a new id under a key.** -/
theorem Exact.addEntry (h : Exact idx R) {k : κ} {i : ι} (hnew : ¬ R i k) :
    Exact (idx.addEntry k i) fun i' k' => R i' k' ∨ i' = i ∧ k' = k := by
  intro j
  rw [entries_addEntry]
  split
  · next hkj =>
      subst hkj
      refine ⟨?_, fun i' => by simp [(h k).2 i']⟩
      rw [List.nodup_append]
      refine ⟨(h k).1, List.nodup_singleton i, fun a ha b hb => ?_⟩
      rw [List.mem_singleton] at hb
      rintro rfl
      exact hnew (hb ▸ ((h k).2 a).1 ha)
  · next hkj =>
      refine ⟨(h j).1, fun i' => ?_⟩
      rw [(h j).2 i']
      exact ⟨.inl, fun hor => hor.resolve_right fun hand => hkj hand.2.symm⟩

/-- **Erasing an id under a key.** -/
theorem Exact.removeEntry [DecidableEq ι] (h : Exact idx R) (k : κ) (i : ι) :
    Exact (idx.removeEntry k i) fun i' k' => R i' k' ∧ ¬ (i' = i ∧ k' = k) := by
  intro j
  rw [entries_removeEntry]
  split
  · next hkj =>
      subst hkj
      exact ⟨(h k).1.filter _, fun i' => by simp [(h k).2 i']⟩
  · next hkj =>
      refine ⟨(h j).1, fun i' => ?_⟩
      rw [(h j).2 i']
      exact ⟨fun hr => ⟨hr, fun hand => hkj hand.2.symm⟩, And.left⟩

/-! ### Ids with at most one key -/

/-- The index files each id under the key that `f` gives it, and nowhere else. -/
def Files (idx : SecondaryIndex κ ι) (f : ι → Option κ) : Prop := Exact idx fun i k => f i = some k

omit [Std.TransOrd κ] [Std.LawfulEqOrd κ] [DecidableEq κ] in
theorem Files.nodup {f : ι → Option κ} (h : Files idx f) (k : κ) : (idx.entries k).Nodup :=
  (h k).1

omit [Std.TransOrd κ] [Std.LawfulEqOrd κ] [DecidableEq κ] in
theorem Files.mem_iff {f : ι → Option κ} (h : Files idx f) {i : ι} {k : κ} :
    i ∈ idx.entries k ↔ f i = some k :=
  (h k).2 i

/-- Erase an id under the key it has, if any. -/
def leave [DecidableEq ι] (idx : SecondaryIndex κ ι) : Option κ → ι → SecondaryIndex κ ι
  | none, _ => idx
  | some k, i => idx.removeEntry k i

/-- File an id under a key, if any. -/
def join (idx : SecondaryIndex κ ι) : Option κ → ι → SecondaryIndex κ ι
  | none, _ => idx
  | some k, i => idx.addEntry k i

/-- **An id that leaves its key is filed nowhere.** -/
theorem Files.leave [DecidableEq ι] {f : ι → Option κ} (h : Files idx f) {o : Option κ} {i : ι}
    (hi : f i = o) : Files (idx.leave o i) (Function.update f i none) := by
  cases o with
  | none =>
      refine Exact.congr h fun j k => ?_
      rcases eq_or_ne j i with rfl | hj
      · simp [hi]
      · simp [hj]
  | some k =>
      refine (Exact.removeEntry h k i).congr fun j l => ?_
      rcases eq_or_ne j i with rfl | hj
      · simp [hi, eq_comm]
      · simp [hj]

/-- **An id that is filed nowhere joins a key.** -/
theorem Files.join [DecidableEq ι] {f : ι → Option κ} (h : Files idx f) {i : ι} (hi : f i = none)
    (o : Option κ) : Files (idx.join o i) (Function.update f i o) := by
  cases o with
  | none =>
      have hf : Function.update f i none = f := by rw [← hi, Function.update_eq_self]
      rw [hf]
      exact h
  | some k =>
      refine (Exact.addEntry h (by simp [hi])).congr fun j l => ?_
      rcases eq_or_ne j i with rfl | hj
      · simp [hi, eq_comm]
      · simp [hj]

/-! ### Keys without ids -/

/-- Every key has an id. -/
def NoEmpty (idx : SecondaryIndex κ ι) : Prop := ∀ k : κ, idx[k]? ≠ some []

omit [Std.LawfulEqOrd κ] [DecidableEq κ] in
theorem noEmpty_empty : NoEmpty (∅ : SecondaryIndex κ ι) := fun k => by simp

omit [Std.TransOrd κ] [Std.LawfulEqOrd κ] [DecidableEq κ] in
/-- A key is there exactly when it has ids. -/
theorem NoEmpty.getElem?_eq (h : NoEmpty idx) (k : κ) :
    idx[k]? = (some (idx.entries k)).filter (!·.isEmpty) := by
  rcases hk : idx[k]? with _ | es
  · simp [entries, hk, Option.filter]
  · cases es with
    | nil => exact absurd hk (h k)
    | cons e es => simp [entries, hk, Option.filter]

theorem NoEmpty.insert (h : NoEmpty idx) (k : κ) {es : List ι} (hes : es ≠ []) :
    NoEmpty (idx.insert k es) := by
  intro j
  by_cases hkj : k = j
  · simpa [hkj] using hes
  · simpa [Std.TreeMap.getElem?_insert, hkj] using h j

theorem NoEmpty.erase (h : NoEmpty idx) (k : κ) : NoEmpty (idx.erase k) := by
  intro j
  by_cases hkj : k = j
  · simp [hkj]
  · simpa [Std.TreeMap.getElem?_erase, hkj] using h j

theorem NoEmpty.removeEntry [DecidableEq ι] (h : NoEmpty idx) (k : κ) (i : ι) :
    NoEmpty (idx.removeEntry k i) := by
  unfold SecondaryIndex.removeEntry
  split
  · exact h
  · dsimp only
    split
    · exact h.erase k
    · next hes => exact h.insert k hes

theorem NoEmpty.leave [DecidableEq ι] (h : NoEmpty idx) (o : Option κ) (i : ι) :
    NoEmpty (idx.leave o i) := by
  cases o with
  | none => exact h
  | some k => exact h.removeEntry k i

theorem NoEmpty.join (h : NoEmpty idx) (o : Option κ) (i : ι) : NoEmpty (idx.join o i) := by
  cases o with
  | none => exact h
  | some k => exact h.insert k (by simp)

/-! ### Taking ids out -/

/-- Ids are taken out, and nothing else is done to the index. -/
structure Shrinks (idx idx' : SecondaryIndex κ ι) : Prop where
  sublist : ∀ k, (idx'.entries k).Sublist (idx.entries k)
  noEmpty : NoEmpty idx → NoEmpty idx'

omit [Std.TransOrd κ] [Std.LawfulEqOrd κ] [DecidableEq κ] in
theorem Shrinks.refl (idx : SecondaryIndex κ ι) : Shrinks idx idx := ⟨fun _ => .refl _, fun h => h⟩

omit [Std.TransOrd κ] [Std.LawfulEqOrd κ] [DecidableEq κ] in
theorem Shrinks.trans {idx' idx'' : SecondaryIndex κ ι} (h : Shrinks idx idx')
    (h' : Shrinks idx' idx'') : Shrinks idx idx'' :=
  ⟨fun k => (h'.sublist k).trans (h.sublist k), fun hn => h'.noEmpty (h.noEmpty hn)⟩

theorem shrinks_erase (idx : SecondaryIndex κ ι) (k : κ) : Shrinks idx (idx.erase k) := by
  refine ⟨fun j => ?_, fun h => h.erase k⟩
  rw [entries_erase]
  split
  · exact List.nil_sublist _
  · exact .refl _

theorem shrinks_leave [DecidableEq ι] (idx : SecondaryIndex κ ι) (o : Option κ) (i : ι) :
    Shrinks idx (idx.leave o i) := by
  refine ⟨fun j => ?_, fun h => h.leave o i⟩
  cases o with
  | none => exact .refl _
  | some k =>
      rw [SecondaryIndex.leave, entries_removeEntry]
      split
      · next hkj => exact hkj ▸ List.filter_sublist
      · exact .refl _

/-- What is left of a list without duplicates, in its order. -/
theorem filter_of_sublist {l l' : List ι} {keep : ι → Bool} (h : l'.Sublist l) (hnodup : l.Nodup)
    (hkeep : ∀ i ∈ l, keep i = true ↔ i ∈ l') : l.filter keep = l' := by
  induction h with
  | slnil => rfl
  | @cons l' l a hsub ih =>
      obtain ⟨ha, hnodup⟩ := List.nodup_cons.1 hnodup
      have hout : ¬ keep a = true := fun hk =>
        ha (hsub.subset ((hkeep a (List.mem_cons_self ..)).1 hk))
      rw [List.filter_cons_of_neg hout]
      exact ih hnodup fun i hi => hkeep i (List.mem_cons_of_mem a hi)
  | @cons_cons l' l a hsub ih =>
      obtain ⟨ha, hnodup⟩ := List.nodup_cons.1 hnodup
      have hin : keep a = true := (hkeep a (List.mem_cons_self ..)).2 (List.mem_cons_self ..)
      rw [List.filter_cons_of_pos hin]
      refine congrArg (a :: ·) (ih hnodup fun i hi => ?_)
      rw [hkeep i (List.mem_cons_of_mem a hi), List.mem_cons, or_iff_right]
      rintro rfl
      exact ha hi

/-- The list under a key with some of its ids filtered out, and no list if none is left. -/
def pruned (keep : ι → Bool) (es : Option (List ι)) : Option (List ι) :=
  (es.map (List.filter keep)).filter (!·.isEmpty)

omit [Std.TransOrd κ] [Std.LawfulEqOrd κ] [DecidableEq κ] in
/-- **An index that only loses ids is the old one without them**, key by key and in the old
order. -/
theorem Shrinks.getElem?_eq {idx' : SecondaryIndex κ ι} (h : Shrinks idx idx') (hne : NoEmpty idx)
    {k : κ} (hnodup : (idx.entries k).Nodup) {keep : ι → Bool}
    (hkeep : ∀ i ∈ idx.entries k, keep i = true ↔ i ∈ idx'.entries k) :
    idx'[k]? = pruned keep idx[k]? := by
  have hfilter := filter_of_sublist (h.sublist k) hnodup hkeep
  rw [(h.noEmpty hne).getElem?_eq, ← hfilter, pruned]
  rcases hk : idx[k]? with _ | es <;> simp [entries, hk]

end SecondaryIndex
end Dbal
