/-
# How the keys of Redis hold the records

The keys hold a map of entities as long as every id in the set of an entity has a record of its own
under its key.  Records, sets and counters share the key space, so that a write has to keep away
from the keys of the others.
-/

import Dbal.Adapters.EntityMap
import Dbal.Adapters.RedisRollback

namespace Dbal
namespace Adapters

open Dbal.Core RedisKeyBuilder Store

/-! ### Keys -/

namespace RedisKeyBuilder

theorem makeKey_inj {entityName id id' : String}
    (h : makeKey entityName id = makeKey entityName id') : id = id' := by
  simpa [makeKey] using h

theorem makeSetKey_inj {entityName entityName' : String}
    (h : makeSetKey entityName = makeSetKey entityName') : entityName = entityName' := by
  simpa [makeSetKey] using h

theorem makeKey_eq_makeSetKey {entityName id : String}
    (h : makeKey entityName id = makeSetKey entityName) : id = "all" := by
  have hall : makeSetKey entityName = makeKey entityName "all" := by
    simp only [makeSetKey, makeKey, String.append_assoc]
    rfl
  exact makeKey_inj (h.trans hall)

theorem makeCounterKey_ne_makeSetKey (entityName : String) :
    makeCounterKey entityName ≠ makeSetKey entityName := by
  simp [makeCounterKey, makeSetKey]

end RedisKeyBuilder

namespace Keyspace

variable (k : Keyspace)

/-- The ids in the set of an entity. -/
def listed (entityName : String) : List String :=
  match k (makeSetKey entityName) with
  | some (.set members) => members
  | _ => []

/-- A text stands under the key. -/
def IsText (key : String) : Prop := ∃ text, k key = some (.string text)

/-- No set stands under the key. -/
def NoSet (key : String) : Prop := ∀ members, k key ≠ some (.set members)

/-- Nothing stands under the key, or a counter. -/
def Free (key : String) : Prop :=
  k key = none ∨ ∃ text, k key = some (.string text) ∧ text.toInt?.isSome

variable {k} {key entityName entityName' id : String}

theorem listed_of_set {members : List String} (h : k (makeSetKey entityName) = some (.set members)) :
    k.listed entityName = members := by
  rw [listed, h]

theorem listed_of_noSet (h : k.NoSet (makeSetKey entityName)) : k.listed entityName = [] := by
  unfold listed
  split
  · next members hset => exact absurd hset (h members)
  · rfl

theorem IsText.noSet (h : k.IsText key) : k.NoSet key := by
  intro members hset
  obtain ⟨text, htext⟩ := h
  rw [hset] at htext
  cases htext

theorem Free.noSet (h : k.Free key) : k.NoSet key := by
  rcases h with hnone | ⟨text, htext, -⟩
  · intro members hset
    rw [hnone] at hset
    cases hset
  · exact IsText.noSet ⟨text, htext⟩

/-- What is no set does not matter for the sets. -/
theorem listed_update {value : Option RedisValue} (h : k.NoSet key)
    (hvalue : ∀ members, value ≠ some (.set members)) :
    listed (Function.update k key value) entityName = k.listed entityName := by
  by_cases hkey : makeSetKey entityName = key
  · subst hkey
    rw [listed_of_noSet h, listed_of_noSet]
    intro members hset
    rw [Function.update_self] at hset
    exact hvalue members hset
  · simp only [listed, Function.update_of_ne hkey]

theorem sadd_eq (h : ¬ k.IsText (makeSetKey entityName)) :
    k.sadd (makeSetKey entityName) id = Function.update k (makeSetKey entityName)
      (some (.set ((k.listed entityName).insert id))) := by
  unfold sadd listed
  split
  · next hkey =>
      simp only [hkey]
      rfl
  · next members hkey => simp only [hkey]
  · next text hkey => exact absurd ⟨text, hkey⟩ h

theorem listed_sadd (h : ¬ k.IsText (makeSetKey entityName)) :
    (k.sadd (makeSetKey entityName) id).listed entityName = (k.listed entityName).insert id := by
  rw [sadd_eq h]
  exact listed_of_set (Function.update_self ..)

theorem listed_sadd_of_ne (hne : entityName' ≠ entityName) :
    (k.sadd (makeSetKey entityName) id).listed entityName' = k.listed entityName' := by
  have hkey : makeSetKey entityName' ≠ makeSetKey entityName := fun h => hne (makeSetKey_inj h)
  unfold sadd
  split <;> simp only [listed, Function.update_of_ne hkey]

theorem listed_srem :
    (k.srem (makeSetKey entityName) id).listed entityName = (k.listed entityName).erase id := by
  unfold srem
  split
  · next members hkey =>
      rw [listed_of_set hkey]
      simp only [listed, Function.update_self]
      split_ifs with hempty
      · exact hempty.symm
      · rfl
  · next hkey =>
      rw [listed_of_noSet hkey]
      rfl

theorem listed_srem_of_ne (hne : entityName' ≠ entityName) :
    (k.srem (makeSetKey entityName) id).listed entityName' = k.listed entityName' := by
  have hkey : makeSetKey entityName' ≠ makeSetKey entityName := fun h => hne (makeSetKey_inj h)
  unfold srem
  split
  · simp only [listed, Function.update_of_ne hkey]
  · rfl

theorem sadd_of_ne (hne : key ≠ makeSetKey entityName) :
    (k.sadd (makeSetKey entityName) id) key = k key := by
  cases hset : k (makeSetKey entityName) with
  | none => simp [sadd, hset, Function.update_of_ne hne]
  | some value => cases value <;> simp [sadd, hset, Function.update_of_ne hne]

theorem srem_of_ne (hne : key ≠ makeSetKey entityName) :
    (k.srem (makeSetKey entityName) id) key = k key := by
  cases hset : k (makeSetKey entityName) with
  | none => simp [srem, hset]
  | some value => cases value <;> simp [srem, hset, Function.update_of_ne hne]

end Keyspace

/-! ### The map that the keys hold -/

namespace RedisAdapter

variable (A : RedisAdapter)

/-- A record, as its text reads. -/
def reread (record : Json) : Json :=
  match A.parse (A.dump record) with
  | .ok value => value
  | .error _ => .null

/-- The JSON library reads the texts of objects back, as objects and once for all, and no such text
is that of a number; a set is visited from end to end. -/
structure Faithful : Prop where
  visit : ∀ members, (A.visit members).Perm members
  parse_dump : ∀ record, record.isObject = true → A.parse (A.dump record) = .ok (A.reread record)
  isObject_reread : ∀ record, record.isObject = true → (A.reread record).isObject = true
  reread_reread : ∀ record, record.isObject = true → A.reread (A.reread record) = A.reread record
  toInt?_dump : ∀ record, record.isObject = true → (A.dump record).toInt? = none

/-- The record stands under its key. -/
def Stands (k : Keyspace) (entityName id : String) (record : Json) : Prop :=
  ∃ written, written.isObject = true ∧ A.reread written = record ∧
    k (makeKey entityName id) = some (.string (A.dump written))

/-- The keys hold the map. -/
structure Represents (k : Keyspace) (R : EntityMap) : Prop where
  keys : ∀ entityName, (R entityName).keys = A.visit (k.listed entityName)
  known : ∀ entityName, ∀ id ∈ R entityName, A.schemas entityName ≠ none
  stands : ∀ entityName id record, (R entityName).lookup id = some record →
    A.Stands k entityName id record
  apart : ∀ entityName id entityName' id', id ∈ R entityName → id' ∈ R entityName' →
    makeKey entityName id = makeKey entityName' id' → entityName = entityName'

theorem represents_empty (hA : A.Faithful) : A.Represents (fun _ => none) fun _ => ∅ where
  keys entityName := by
    rw [AList.keys_empty]
    exact (List.perm_nil.1 (hA.visit [])).symm
  known _ _ h := absurd h (AList.notMem_empty _)
  stands _ _ _ h := by cases h
  apart _ _ _ _ h := absurd h (AList.notMem_empty _)

variable {A} {k : Keyspace} {R : EntityMap} {entityName id : String}

theorem exists_lookup (h : id ∈ R entityName) : ∃ record, (R entityName).lookup id = some record :=
  Option.isSome_iff_exists.1 (AList.lookup_isSome.2 h)

namespace Represents

theorem mem_listed (hA : A.Faithful) (h : A.Represents k R) :
    id ∈ k.listed entityName ↔ id ∈ R entityName := by
  rw [AList.mem_keys, h.keys, (hA.visit _).mem_iff]

theorem nodup_listed (hA : A.Faithful) (h : A.Represents k R) : (k.listed entityName).Nodup := by
  rw [← (hA.visit _).nodup_iff, ← h.keys]
  exact (R entityName).keys_nodup

/-- What stands under the key of a record is a text, and no number. -/
theorem isText (hA : A.Faithful) (h : A.Represents k R) (hid : id ∈ R entityName) :
    k.IsText (makeKey entityName id) ∧ ¬ k.Free (makeKey entityName id) := by
  obtain ⟨record, hrecord⟩ := exists_lookup hid
  obtain ⟨written, hobject, -, hkey⟩ := h.stands _ _ _ hrecord
  refine ⟨⟨_, hkey⟩, ?_⟩
  rintro (hnone | ⟨text, htext, hint⟩)
  · rw [hkey] at hnone
    cases hnone
  · rw [hkey] at htext
    cases htext
    rw [hA.toInt?_dump written hobject] at hint
    cases hint

theorem isObject (hA : A.Faithful) (h : A.Represents k R) {record : Json}
    (hrecord : (R entityName).lookup id = some record) :
    record.isObject = true ∧ A.reread record = record := by
  obtain ⟨written, hobject, rfl, -⟩ := h.stands _ _ _ hrecord
  exact ⟨hA.isObject_reread _ hobject, hA.reread_reread _ hobject⟩

theorem read (hA : A.Faithful) (h : A.Represents k R) {record : Json}
    (hrecord : (R entityName).lookup id = some record) : A.read entityName id k = .ok record := by
  obtain ⟨written, hobject, rfl, hkey⟩ := h.stands _ _ _ hrecord
  have hknown : A.schemas entityName ≠ none :=
    h.known _ _ (AList.lookup_isSome.1 (by rw [hrecord]; rfl))
  simp [RedisAdapter.read, hknown, Keyspace.get, hkey, deserialize, hA.parse_dump _ hobject,
    Except.mapError]

/-- What is written where no record and no set stands changes nothing in the map. -/
theorem write_aside (h : A.Represents k R) {key : String} {value : Option RedisValue}
    (hset : k.NoSet key) (hvalue : ∀ members, value ≠ some (.set members))
    (hkey : ∀ entityName, ∀ id ∈ R entityName, makeKey entityName id ≠ key) :
    A.Represents (Function.update k key value) R where
  keys entityName := by rw [h.keys, Keyspace.listed_update hset hvalue]
  known := h.known
  stands entityName id record hrecord := by
    obtain ⟨written, hobject, hread, htext⟩ := h.stands _ _ _ hrecord
    have hid : id ∈ R entityName := AList.lookup_isSome.1 (by rw [hrecord]; rfl)
    exact ⟨written, hobject, hread, by rw [Function.update_of_ne (hkey _ _ hid), htext]⟩
  apart := h.apart

/-- **A change to one entity**: its set and the keys of its records are those of new rows, and what
belongs to other entities has stayed. -/
theorem becomes (hA : A.Faithful) (h : A.Represents k R) {k' : Keyspace}
    {row : String → Option Json} (hknown : A.schemas entityName ≠ none)
    (hother : ∀ other, other ≠ entityName → k'.listed other = k.listed other)
    (hkeep : ∀ other, other ≠ entityName → ∀ id ∈ R other,
      k' (makeKey other id) = k (makeKey other id))
    (hnodup : (k'.listed entityName).Nodup)
    (hrow : ∀ id, id ∈ k'.listed entityName ↔ (row id).isSome)
    (hstands : ∀ id record, row id = some record → A.Stands k' entityName id record)
    (hapart : ∀ id, (row id).isSome → ∀ other, other ≠ entityName → ∀ id' ∈ R other,
      makeKey entityName id ≠ makeKey other id') :
    ∃ R', R.Becomes R' entityName row ∧ A.Represents k' R' := by
  obtain ⟨rows, hkeys, hlookup⟩ := Collections.exists_listing
    ((hA.visit (k'.listed entityName)).nodup_iff.2 hnodup)
    fun id => show _ ↔ (row id).isSome by rw [(hA.visit _).mem_iff, hrow]
  have hself : ∀ id, id ∈ rows ↔ (row id).isSome := fun id => by
    rw [← AList.lookup_isSome, hlookup]
  refine ⟨Function.update R entityName rows, ⟨fun id => by rw [Function.update_self, hlookup],
    fun other hne => Function.update_of_ne hne ..⟩, ?_, ?_, ?_, ?_⟩
  · intro other
    by_cases hne : other = entityName
    · rw [hne, Function.update_self, hkeys]
    · rw [Function.update_of_ne hne, h.keys, hother other hne]
  · intro other id hid
    by_cases hne : other = entityName
    · rwa [hne]
    · rw [Function.update_of_ne hne] at hid
      exact h.known other id hid
  · intro other id record hrecord
    by_cases hne : other = entityName
    · subst hne
      rw [Function.update_self, hlookup] at hrecord
      exact hstands id record hrecord
    · rw [Function.update_of_ne hne] at hrecord
      obtain ⟨written, hobject, hread, htext⟩ := h.stands _ _ _ hrecord
      have hid : id ∈ R other := AList.lookup_isSome.1 (by rw [hrecord]; rfl)
      exact ⟨written, hobject, hread, by rw [hkeep other hne id hid, htext]⟩
  · intro first id second id' hid hid' hsame
    by_cases hfirst : first = entityName
    · by_cases hsecond : second = entityName
      · rw [hfirst, hsecond]
      · subst hfirst
        rw [Function.update_self, hself] at hid
        rw [Function.update_of_ne hsecond] at hid'
        exact absurd hsame (hapart id hid second hsecond id' hid')
    · by_cases hsecond : second = entityName
      · subst hsecond
        rw [Function.update_self, hself] at hid'
        rw [Function.update_of_ne hfirst] at hid
        exact absurd hsame.symm (hapart id' hid' first hfirst id hid)
      · rw [Function.update_of_ne hfirst] at hid
        rw [Function.update_of_ne hsecond] at hid'
        exact h.apart _ _ _ _ hid hid' hsame

theorem ne_makeSetKey (hA : A.Faithful) (h : A.Represents k R) (hid : id ∈ R entityName)
    {key : String} (hkey : k.IsText key) : key ≠ makeSetKey entityName := by
  rintro rfl
  rw [← h.mem_listed hA, Keyspace.listed_of_noSet hkey.noSet] at hid
  exact absurd hid List.not_mem_nil

/-- A new record under a free key. -/
theorem stored (hA : A.Faithful) (h : A.Represents k R) (hknown : A.schemas entityName ≠ none)
    (hfree : k.Free (makeKey entityName id)) (hall : id ≠ "all")
    (hset : ¬ k.IsText (makeSetKey entityName)) {record : Json} (hobject : record.isObject = true) :
    ∃ R', R.Becomes R' entityName (fun i =>
        if i = id then some (A.reread record) else (R entityName).lookup i) ∧
      A.Represents (A.stored entityName id record k) R' := by
  have hne : makeSetKey entityName ≠ makeKey entityName id := fun h =>
    hall (makeKey_eq_makeSetKey h.symm)
  have hfresh : ∀ other, ∀ i ∈ R other, makeKey other i ≠ makeKey entityName id := by
    intro other i hi hsame
    rw [← hsame] at hfree
    exact (h.isText hA hi).2 hfree
  have hwritten : A.Represents (Keyspace.set k (makeKey entityName id) (A.dump record)) R :=
    h.write_aside hfree.noSet (by simp) hfresh
  have hset' : ¬ (Keyspace.set k (makeKey entityName id) (A.dump record)).IsText
      (makeSetKey entityName) := by
    rwa [Keyspace.IsText, Keyspace.set, Function.update_of_ne hne]
  have hkept : ∀ other, ∀ i ∈ R other, makeKey other i ≠ makeSetKey entityName := by
    intro other i hi hsame
    exact hset' (hsame ▸ (hwritten.isText hA hi).1)
  refine hwritten.becomes hA hknown (fun other => Keyspace.listed_sadd_of_ne) ?_ ?_ ?_ ?_ ?_
  · exact fun other _ i hi => Keyspace.sadd_of_ne (hkept other i hi)
  · rw [RedisAdapter.stored, Keyspace.listed_sadd hset']
    exact (hwritten.nodup_listed hA).insert
  · intro i
    rw [RedisAdapter.stored, Keyspace.listed_sadd hset', List.mem_insert_iff, hwritten.mem_listed hA]
    split_ifs with hi
    · simp [hi]
    · rw [or_iff_right hi, AList.lookup_isSome]
  · intro i row hrow
    split_ifs at hrow with hi
    · obtain rfl := Option.some.inj hrow
      subst hi
      refine ⟨record, hobject, rfl, ?_⟩
      rw [RedisAdapter.stored, Keyspace.sadd_of_ne hne.symm, Keyspace.set, Function.update_self]
    · obtain ⟨written, hwobject, hread, htext⟩ := hwritten.stands _ _ _ hrow
      have hmem : i ∈ R entityName := AList.lookup_isSome.1 (by rw [hrow]; rfl)
      refine ⟨written, hwobject, hread, ?_⟩
      rw [RedisAdapter.stored, Keyspace.sadd_of_ne (hkept _ _ hmem), htext]
  · intro i hi other hother id' hid' hsame
    split_ifs at hi with heq
    · subst heq
      exact hfresh other id' hid' hsame.symm
    · exact hother (h.apart _ _ _ _ (AList.lookup_isSome.1 hi) hid' hsame).symm

/-- Another text for a record. -/
theorem rewritten (hA : A.Faithful) (h : A.Represents k R) (hid : id ∈ R entityName)
    {record : Json} (hobject : record.isObject = true) :
    ∃ R', R.Becomes R' entityName (fun i =>
        if i = id then some (A.reread record) else (R entityName).lookup i) ∧
      A.Represents (Keyspace.set k (makeKey entityName id) (A.dump record)) R' := by
  have hlisted : ∀ other,
      (Keyspace.set k (makeKey entityName id) (A.dump record)).listed other = k.listed other :=
    fun other => Keyspace.listed_update (h.isText hA hid).1.noSet (by simp)
  refine h.becomes hA (h.known _ _ hid) (fun other _ => hlisted other) ?_ ?_ ?_ ?_ ?_
  · intro other hother i hi
    exact Function.update_of_ne (fun hsame => hother (h.apart _ _ _ _ hi hid hsame)) ..
  · rw [hlisted]
    exact h.nodup_listed hA
  · intro i
    rw [hlisted, h.mem_listed hA]
    split_ifs with hi
    · simp [hi, hid]
    · rw [AList.lookup_isSome]
  · intro i row hrow
    split_ifs at hrow with hi
    · obtain rfl := Option.some.inj hrow
      subst hi
      exact ⟨record, hobject, rfl, Function.update_self ..⟩
    · obtain ⟨written, hwobject, hread, htext⟩ := h.stands _ _ _ hrow
      refine ⟨written, hwobject, hread, ?_⟩
      rw [Keyspace.set, Function.update_of_ne (fun hsame => hi (makeKey_inj hsame)), htext]
  · intro i hi other hother id' hid' hsame
    have hmem : i ∈ R entityName := by
      split_ifs at hi with heq
      · rwa [heq]
      · exact AList.lookup_isSome.1 hi
    exact hother (h.apart _ _ _ _ hmem hid' hsame).symm

/-- A record is taken out. -/
theorem removed (hA : A.Faithful) (h : A.Represents k R) (hid : id ∈ R entityName) :
    ∃ R', R.Becomes R' entityName (fun i =>
        if i = id then none else (R entityName).lookup i) ∧
      A.Represents ((Keyspace.del k (makeKey entityName id)).2.srem (makeSetKey entityName) id) R' := by
  have hlisted : ∀ other, (Keyspace.del k (makeKey entityName id)).2.listed other = k.listed other :=
    fun other => Keyspace.listed_update (h.isText hA hid).1.noSet (by simp)
  have hkept : ∀ other, ∀ i ∈ R other, makeKey other i ≠ makeSetKey entityName := fun other i hi =>
    h.ne_makeSetKey hA hid (h.isText hA hi).1
  have hkeep : ∀ other, ∀ i ∈ R other, makeKey other i ≠ makeKey entityName id →
      ((Keyspace.del k (makeKey entityName id)).2.srem (makeSetKey entityName) id)
        (makeKey other i) = k (makeKey other i) := by
    intro other i hi hne
    rw [Keyspace.srem_of_ne (hkept other i hi)]
    exact Function.update_of_ne hne ..
  refine h.becomes hA (h.known _ _ hid) ?_ ?_ ?_ ?_ ?_ ?_
  · intro other hother
    rw [Keyspace.listed_srem_of_ne hother, hlisted]
  · intro other hother i hi
    exact hkeep other i hi fun hsame => hother (h.apart _ _ _ _ hi hid hsame)
  · rw [Keyspace.listed_srem, hlisted]
    exact (h.nodup_listed hA).erase _
  · intro i
    rw [Keyspace.listed_srem, hlisted, (h.nodup_listed hA).mem_erase_iff, h.mem_listed hA]
    split_ifs with hi
    · simp [hi]
    · rw [and_iff_right hi, AList.lookup_isSome]
  · intro i row hrow
    split_ifs at hrow with hi
    obtain ⟨written, hwobject, hread, htext⟩ := h.stands _ _ _ hrow
    have hmem : i ∈ R entityName := AList.lookup_isSome.1 (by rw [hrow]; rfl)
    refine ⟨written, hwobject, hread, ?_⟩
    rw [hkeep _ _ hmem fun hsame => hi (makeKey_inj hsame), htext]
  · intro i hi other hother id' hid' hsame
    split_ifs at hi with heq
    · cases hi
    · exact hother (h.apart _ _ _ _ (AList.lookup_isSome.1 hi) hid' hsame).symm

end Represents

end RedisAdapter

end Adapters
end Dbal
