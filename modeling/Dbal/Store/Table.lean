/-
# Tables of the in-memory store

A table is a collection of records with a unique index next to it, whose ids come from a
counter: `Table pre counter idx records key`.  As an id is new whenever the counter has
moved on, the edits of `Dbal.Store.UniqueIndex` keep a table one.
-/

import Dbal.Store.InMemoryStore
import Dbal.Store.UniqueIndex

namespace Dbal

/-- The index and the records are in bijection, and the ids are those of the counter so far. -/
structure Table {ρ : Type} (pre : String) (counter : Nat) (idx : Std.TreeMap String String)
    (records : Std.TreeMap String ρ) (key : ρ → String) : Prop where
  indexed : Indexes idx records key
  generated : ∀ id r, records[id]? = some r → ∃ n, n ≤ counter ∧ id = generateId pre n

namespace Table

variable {ρ : Type} {pre : String} {counter : Nat} {idx : Std.TreeMap String String}
  {records : Std.TreeMap String ρ} {key : ρ → String} {id : String} {r t : ρ}

theorem empty : Table pre 0 ∅ (∅ : Std.TreeMap String ρ) key :=
  ⟨Indexes.empty, fun id r h => by simp at h⟩

/-- The next id is that of no record. -/
theorem fresh (h : Table pre counter idx records key) :
    records[generateId pre (counter + 1)]? = none := by
  rcases hr : records[generateId pre (counter + 1)]? with _ | r
  · rfl
  · obtain ⟨n, hn, hid⟩ := h.generated _ r hr
    have := generateId_injective hid
    omega

theorem insert (h : Table pre counter idx records key) (hkey : idx[key r]? = none) :
    Table pre (counter + 1) (idx.insert (key r) (generateId pre (counter + 1)))
      (records.insert (generateId pre (counter + 1)) r) key := by
  refine ⟨h.indexed.insert h.fresh hkey, fun id q hq => ?_⟩
  rw [getElem?_insert_eq] at hq
  split_ifs at hq with hid
  · exact ⟨counter + 1, Nat.le_refl _, hid.symm⟩
  · obtain ⟨n, hn, heq⟩ := h.generated id q hq
    exact ⟨n, by omega, heq⟩

theorem erase (h : Table pre counter idx records key) (hr : records[id]? = some r) :
    Table pre counter (idx.erase (key r)) (records.erase id) key := by
  refine ⟨h.indexed.erase hr, fun id' q hq => ?_⟩
  rw [getElem?_erase_eq] at hq
  split_ifs at hq
  exact h.generated id' q hq

/-- Writing to a record that is there makes no id. -/
theorem generated_insert (h : Table pre counter idx records key) (hr : records[id]? = some r)
    (id' : String) (q : ρ) (hq : (records.insert id t)[id']? = some q) :
    ∃ n, n ≤ counter ∧ id' = generateId pre n := by
  rw [getElem?_insert_eq] at hq
  split_ifs at hq with hid
  · exact hid ▸ h.generated id r hr
  · exact h.generated id' q hq

theorem setFields (h : Table pre counter idx records key) (hr : records[id]? = some r)
    (hkey : key t = key r) : Table pre counter idx (records.insert id t) key :=
  ⟨h.indexed.setFields hr hkey, h.generated_insert hr⟩

theorem rename (h : Table pre counter idx records key) (hr : records[id]? = some r)
    (hfree : ¬ (idx[key t]?).any (· ≠ id)) :
    Table pre counter ((idx.erase (key r)).insert (key t) id) (records.insert id t) key := by
  refine ⟨h.indexed.rename hr ?_, h.generated_insert hr⟩
  rcases hk : idx[key t]? with _ | j
  · exact Or.inl rfl
  · right
    have : j = id := by simpa [hk] using hfree
    rw [this]

end Table
end Dbal
