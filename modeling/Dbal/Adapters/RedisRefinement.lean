/-
# The Redis adapter and the map of entities

Runs of the Redis adapter held against runs of the map that it stands for, without a transaction
and from an empty database.  What a call needs for the answer of the map is a condition on the keys
before it.

Three things go wrong.  The key of a record may be that of another record, of a set or of a counter;
a page is counted from 1 by the caller and from 0 by `list`, so that the first page is always left
out; and `updateMany` and `deleteMany` look for the JSON text of a value, with its quotes.
-/

import Dbal.Adapters.RedisKeyspace
import Dbal.JsonReading

namespace Dbal
namespace Adapters

open Dbal.Core RedisKeyBuilder Store

/-! ### Data -/

theorem find?_filterJson (filter : TextFilter) (field : String) :
    (filterJson filter).find? field = filter[field]?.map .str :=
  getElem?_ofList_map filter Json.str field

namespace RedisAdapter

/-- A filter of texts is converted as it is. -/
theorem toStringMap_filterJson (filter : TextFilter) :
    ∃ converted : TextFilter, toStringMap (filterJson filter) = .ok converted ∧
      ∀ field : String, converted[field]? = filter[field]? := by
  have hentries : (filterJson filter).fields.toList.mapM (fun entry =>
      entry.2.getString.map fun text => (entry.1, text)) =
      .ok ((filterJson filter).fields.toList.map fun entry => (entry.1, entry.2.text)) := by
    have hall : ∀ l : List (String × Json), (∀ field ∈ l, ∃ text, field.2 = .str text) →
        l.mapM (fun entry => entry.2.getString.map fun text => (entry.1, text)) =
          .ok (l.map fun entry => (entry.1, entry.2.text)) := by
      intro l
      induction l with
      | nil => exact fun _ => rfl
      | cons field l ih =>
          intro h
          obtain ⟨key, value⟩ := field
          obtain ⟨text, rfl⟩ := h (key, value) (List.mem_cons_self ..)
          rw [List.mapM_cons, ih fun other hother => h other (List.mem_cons_of_mem _ hother)]
          rfl
    refine hall _ fun field hfield => ?_
    have hfind := Json.mem_toList_fields.1 hfield
    rw [find?_filterJson, Option.map_eq_some_iff] at hfind
    obtain ⟨text, -, htext⟩ := hfind
    exact ⟨text, htext.symm⟩
  refine ⟨.ofList ((filterJson filter).fields.toList.map fun entry => (entry.1, entry.2.text)), ?_,
    fun field => ?_⟩
  · have hrun : toStringMap (filterJson filter) = (do
        let entries ← (filterJson filter).fields.toList.mapM fun entry =>
          entry.2.getString.map fun text => (entry.1, text)
        return .ofList entries) := rfl
    rw [hrun, hentries]
    rfl
  · have hfind : (filterJson filter).fields[field]? = filter[field]?.map .str :=
      find?_filterJson filter field
    rw [getElem?_ofList_map, hfind, Option.map_map]
    exact Option.map_id' ..

/-- What `mergeInto` makes of an object. -/
theorem mergeInto_overwritten {old data : Json} (hold : old.isObject = true)
    (hdata : IsRecordData data) :
    ∃ record, mergeInto old data = .ok record ∧ Overwritten old data record := by
  obtain ⟨members, rfl⟩ := Json.exists_obj_of_isObject hold
  rcases hdata with hobject | hnull
  · obtain ⟨more, rfl⟩ := Json.exists_obj_of_isObject hobject
    refine ⟨.obj (members ++ (Json.obj more).fields.toList), mergeInto_obj members more, rfl,
      fun field => ?_⟩
    have hmore : (Json.obj (Json.obj more).fields.toList).find? field =
        (Json.obj more).find? field := by
      have hlist := getElem?_ofList_map (Json.obj more).fields id field
      rw [Option.map_id, List.map_id''] at hlist
      · exact hlist
      · exact fun _ => rfl
    rw [Json.find?_append, hmore]
  · obtain rfl := Json.eq_null_of_isNull hnull
    exact ⟨_, rfl, rfl, fun field => rfl⟩

/-! ### Listing -/

variable (A : RedisAdapter)

/-- The records of an entity that can be read. -/
def recordsOf (entityName : String) (k : Keyspace) : List Json :=
  (A.visit (k.listed entityName)).filterMap fun id => (A.read entityName id k).toOption

/-- The records of an entity that match a filter. -/
def found (entityName : String) (filter : TextFilter) (k : Keyspace) : List Json :=
  (A.recordsOf entityName k).filter (matchesFilter · filter)

variable {A} {k : Keyspace} {R : EntityMap} {entityName id : String} {filter : TextFilter}

theorem matchesFilter_iff {record : Json} :
    matchesFilter record filter = true ↔ Satisfies record filter := by
  simp only [matchesFilter, List.all_eq_true, Satisfies]
  constructor
  · intro h field value hvalue
    have hfield := h (field, value) (Std.TreeMap.mem_toList_iff_getElem?_eq_some.2 hvalue)
    dsimp only at hfield
    split at hfield
    · next text hfind =>
        rw [hfind, eq_of_beq hfield]
    · cases hfield
  · rintro h ⟨field, value⟩ hmem
    rw [h field value (Std.TreeMap.mem_toList_iff_getElem?_eq_some.1 hmem)]
    exact beq_self_eq_true value

theorem smembers_eq (h : ¬ k.IsText (makeSetKey entityName)) :
    k.smembers (makeSetKey entityName) = .ok (k.listed entityName) := by
  unfold Keyspace.smembers Keyspace.listed
  split
  · next hkey => rw [hkey]
  · next members hkey => rw [hkey]
  · next text hkey => exact absurd ⟨text, hkey⟩ h

/-- A list is a page of what is found, and the pages are counted from 0. -/
theorem list_eq (options : ListOptions) (hknown : A.schemas entityName ≠ none)
    (hset : ¬ k.IsText (makeSetKey entityName)) :
    A.list entityName options k = .ok {
      items := ((A.found entityName options.filter k).drop
        (options.page * if 0 < options.limit then options.limit else 100).toNat).take
          (if 0 < options.limit then options.limit else 100).toNat
      total := (A.found entityName options.filter k).length
      page := options.page
      limit := if 0 < options.limit then options.limit else 100 } := by
  have hfound : ∀ f : String → Option Json,
      (∀ id, f id = (A.read entityName id k).toOption.filter (matchesFilter · options.filter)) →
      (A.visit (k.listed entityName)).filterMap f = A.found entityName options.filter k := by
    intro f hf
    rw [found, recordsOf, List.filter_filterMap]
    exact List.filterMap_congr fun id _ => hf id
  rw [list, if_neg (by simpa using hknown), smembers_eq hset]
  exact congrArg (fun records : List Json => Except.ok ({
    items := (records.drop
      (options.page * if 0 < options.limit then options.limit else 100).toNat).take
        (if 0 < options.limit then options.limit else 100).toNat
    total := records.length
    page := options.page
    limit := if 0 < options.limit then options.limit else 100 } : ListResult))
    (hfound _ fun id => by cases A.read entityName id k <;> rfl)

theorem Represents.found_eq (hA : A.Faithful) (h : A.Represents k R) {filter' : TextFilter}
    (hfilter : ∀ record, matchesFilter record filter' = true ↔ Satisfies record filter) :
    A.found entityName filter' k = EntityMap.matching R entityName filter := by
  have hrecords : A.recordsOf entityName k = Collections.rowsOf (R entityName) := by
    rw [recordsOf, ← h.keys, ← Collections.filterMap_lookup]
    refine List.filterMap_congr fun id hid => ?_
    obtain ⟨record, hrecord⟩ := exists_lookup (AList.mem_keys.2 hid)
    rw [h.read hA hrecord, hrecord]
    rfl
  classical
  rw [found, hrecords, EntityMap.matching]
  refine List.filter_congr fun record _ => ?_
  rw [Bool.eq_iff_iff, hfilter, decide_eq_true_iff]

/-! ### Calls -/

variable (A)

/-- A call without a transaction. -/
def outside {α : Type} (value : α → Outcome) (call : Act Thrown (Tracked Keyspace) (Result α))
    (k : Keyspace) : Outcome × Keyspace :=
  (.ofCall value (call ⟨k, none⟩).1, (call ⟨k, none⟩).2.store)

/-- A call of the adapter. -/
def perform : EntityCall → Keyspace → Outcome × Keyspace
  | .create entityName data, k => outside .record (A.create entityName data) k
  | .read entityName id, k => (.ofCall .record (.ok (A.read entityName id k)), k)
  | .update entityName id data, k => outside .record (A.update entityName id data) k
  | .remove entityName id, k => outside (fun _ => .removed) (A.remove entityName id) k
  | .list entityName filter page limit, k =>
      (.ofCall .listed (.ok
        (A.list entityName { filter := filter, page := page, limit := limit } k)), k)
  | .findFirst entityName filter, k =>
      (.ofCall .record (A.findFirst entityName (filterJson filter) k), k)
  | .updateMany entityName filter data, k =>
      outside .changed (A.updateMany entityName (filterJson filter) data) k
  | .deleteMany entityName filter, k =>
      outside .changed (A.deleteMany entityName (filterJson filter)) k

/-- Calls, one after the other: how each ends, and the keys afterwards. -/
def run : List EntityCall → Keyspace → List Outcome × Keyspace
  | [], k => ([], k)
  | call :: calls, k =>
      ((A.perform call k).1 :: (run calls (A.perform call k).2).1, (run calls (A.perform call k).2).2)

/-- The id under which the data would be stored: its own, or the next of the counter. -/
def StoresAs (k : Keyspace) (entityName : String) (data : Json) (id : String) : Prop :=
  data.find? "id" = some (.str id) ∨
    (IsRecordData data ∧ (data.find? "id").getD .null = .null ∧ id = (generateId entityName k).1)

/-- Nothing stands under the key of the id, or the id is in the set of the entity. -/
def Own (k : Keyspace) (entityName id : String) : Prop :=
  k (makeKey entityName id) = none ∨ id ∈ k.listed entityName

/-- What a call on an entity with a schema needs: a free key for a new record and a set to list it
in, a key that is the entity's own, a page behind the last record, not just one record to be found
first, and no record to be changed by a filter. -/
def NeedsKnown (k : Keyspace) : EntityCall → Prop
  | .create entityName data => ∀ id, StoresAs k entityName data id →
      k.Free (makeKey entityName id) ∧ id ≠ "all" ∧ ¬ k.IsText (makeSetKey entityName)
  | .read entityName id | .update entityName id _ => Own k entityName id
  | .remove _ _ => True
  | .list entityName filter page limit => 1 ≤ page → 1 ≤ limit →
      ¬ k.IsText (makeSetKey entityName) ∧
        ((A.found entityName filter k).length : Int) ≤ (page - 1) * limit ∧ page * limit ≤ intMax
  | .findFirst entityName filter =>
      ¬ k.IsText (makeSetKey entityName) ∧ (A.found entityName filter k).length ≠ 1
  | .updateMany entityName filter _ | .deleteMany entityName filter =>
      ¬ k.IsText (makeSetKey entityName) ∧ A.found entityName filter k = [] ∧
        (A.found entityName (A.dumpedFilter (filterJson filter)).filter k).length ≤ 20

/-- What a call needs; only `remove` goes to its key without a schema. -/
def Needs (k : Keyspace) (call : EntityCall) : Prop :=
  (A.schemas call.entityName ≠ none → A.NeedsKnown k call) ∧
    ∀ entityName id, call = .remove entityName id → Own k entityName id

/-- Every call finds what it needs. -/
def AllNeeds : List EntityCall → Keyspace → Prop
  | [], _ => True
  | call :: calls, k => A.Needs k call ∧ AllNeeds calls (A.perform call k).2

/-- The adapter answers as the map does, and the keys hold the map that comes out. -/
def Refines (calls : List EntityCall) : Prop :=
  ∃ R, EntityMap.Runs (fun entityName => A.schemas entityName ≠ none) A.reread (fun _ => ∅) calls
    (A.run calls fun _ => none).1 R ∧ A.Represents (A.run calls fun _ => none).2 R

variable {A} {data : Json}

/-- One call from keys that hold a map. -/
def Keeps (A : RedisAdapter) (k : Keyspace) (R : EntityMap) (call : EntityCall) : Prop :=
  ∃ R', EntityMap.Serves A.reread R call (A.perform call k).1 R' ∧
    A.Represents (A.perform call k).2 R'

theorem lookup_of_own (hA : A.Faithful) (h : A.Represents k R) (hown : Own k entityName id)
    (hnone : (R entityName).lookup id = none) : k (makeKey entityName id) = none := by
  refine hown.resolve_right fun hid => ?_
  rw [h.mem_listed hA, ← AList.lookup_isSome, hnone] at hid
  cases hid

theorem read_absent (hknown : A.schemas entityName ≠ none)
    (h : k (makeKey entityName id) = none) :
    A.read entityName id k = .error (recordMissing entityName id) := by
  simp [RedisAdapter.read, hknown, Keyspace.get, h]

theorem keeps_read (hA : A.Faithful) (h : A.Represents k R) (hknown : A.schemas entityName ≠ none)
    (hneeds : A.NeedsKnown k (.read entityName id)) : A.Keeps k R (.read entityName id) := by
  refine ⟨R, ⟨rfl, ?_⟩, h⟩
  cases hrow : (R entityName).lookup id with
  | none =>
      have hread := read_absent hknown (lookup_of_own hA h hneeds hrow)
      simp only [perform, hread]
      rfl
  | some record =>
      simp only [perform, h.read hA hrow]
      rfl

/-- Where the id of a new record comes from. -/
theorem newId_cases (entityName : String) (data : Json) (k : Keyspace) :
    (∃ id, data.find? "id" = some (.str id) ∧ newId entityName data k = (.ok id, k)) ∨
      (∃ value e, data.find? "id" = some value ∧ value.isNull = false ∧ value.isString = false ∧
        newId entityName data k = (.error e, k)) ∨
      ((data.find? "id").getD .null = .null ∧
        newId entityName data k = (.ok (generateId entityName k).1, (generateId entityName k).2)) := by
  unfold newId
  cases hfind : data.find? "id" with
  | none => exact Or.inr (Or.inr ⟨rfl, rfl⟩)
  | some value =>
      cases value with
      | null => exact Or.inr (Or.inr ⟨rfl, rfl⟩)
      | str id => exact Or.inl ⟨id, rfl, rfl⟩
      | _ => exact Or.inr (Or.inl ⟨_, _, rfl, rfl, rfl, rfl⟩)

/-- The counter moves where nothing or a number stands, or stays. -/
theorem generateId_cases (entityName : String) (k : Keyspace) :
    (generateId entityName k).2 = k ∨
      k.Free (makeCounterKey entityName) ∧ ∃ text, text.toInt?.isSome ∧
        (generateId entityName k).2 = k.set (makeCounterKey entityName) text := by
  have hdigits : ∀ n : Int, (toString n).toInt?.isSome := by
    intro n
    rw [show toString n = n.repr from rfl, Int.toInt?_repr]
    rfl
  unfold generateId Keyspace.incr
  cases hkey : k (makeCounterKey entityName) with
  | none => exact Or.inr ⟨Or.inl hkey, "1", hdigits 1, rfl⟩
  | some value =>
      cases value with
      | set members => exact Or.inl rfl
      | string text =>
          cases hint : text.toInt? with
          | none => exact Or.inl (by simp only [hint])
          | some n =>
              simp only [hint]
              split_ifs
              · exact Or.inr ⟨Or.inr ⟨text, hkey, by rw [hint]; rfl⟩, _, hdigits (n + 1), rfl⟩
              · exact Or.inl rfl

/-- The counter of an entity is out of the way of the map. -/
theorem Represents.generateId (hA : A.Faithful) (h : A.Represents k R) (entityName : String) :
    A.Represents (generateId entityName k).2 R ∧
      (∀ key, k.Free key → (RedisAdapter.generateId entityName k).2.Free key) ∧
      (¬ k.IsText (makeSetKey entityName) →
        ¬ (RedisAdapter.generateId entityName k).2.IsText (makeSetKey entityName)) := by
  rcases generateId_cases entityName k with hsame | ⟨hfree, text, hint, hset⟩
  · rw [hsame]
    exact ⟨h, fun _ => id, id⟩
  · rw [hset]
    refine ⟨h.write_aside hfree.noSet (by simp) ?_, fun key hkey => ?_, fun hnot => ?_⟩
    · intro other i hi hsame
      rw [← hsame] at hfree
      exact (h.isText hA hi).2 hfree
    · by_cases hsame : key = makeCounterKey entityName
      · subst hsame
        exact Or.inr ⟨text, Function.update_self .., hint⟩
      · rwa [Keyspace.Free, Keyspace.set, Function.update_of_ne hsame]
    · rwa [Keyspace.IsText, Keyspace.set,
        Function.update_of_ne (makeCounterKey_ne_makeSetKey entityName).symm]

theorem assign_of_isRecordData (hdata : IsRecordData data) (id : String) :
    data.assign "id" (.str id) = .ok (data.set "id" (.str id)) ∧
      Stamped data id (data.set "id" (.str id)) := by
  rcases hdata with hobject | hnull
  · obtain ⟨members, rfl⟩ := Json.exists_obj_of_isObject hobject
    refine ⟨rfl, rfl, fun field => ?_⟩
    rw [Json.find?_set_obj]
    simp only [eq_comm]
  · obtain rfl := Json.eq_null_of_isNull hnull
    refine ⟨rfl, rfl, fun field => (Json.find?_set_obj [] "id" field (.str id)).trans ?_⟩
    simp only [eq_comm]
    rfl

theorem assign_of_not_isRecordData (hdata : ¬ IsRecordData data) (id : String) :
    ∃ e, data.assign "id" (.str id) = .error e := by
  cases data with
  | null => exact absurd (Or.inr rfl) hdata
  | obj members => exact absurd (Or.inl rfl) hdata
  | _ => exact ⟨_, rfl⟩

/-- A record is created where its key is free, and nothing of it else. -/
theorem keeps_create_at (hA : A.Faithful)
    (hknown : A.schemas entityName ≠ none) {k' : Keyspace} (h' : A.Represents k' R)
    (hid : newId entityName data k = (.ok id, k')) (hgives : GivesId data id)
    (hneeds : IsRecordData data → k'.Free (makeKey entityName id) ∧ id ≠ "all" ∧
      ¬ k'.IsText (makeSetKey entityName)) : A.Keeps k R (.create entityName data) := by
  by_cases hdata : IsRecordData data
  · obtain ⟨hassign, hstamped⟩ := assign_of_isRecordData hdata id
    have hrun : A.create entityName data ⟨k, none⟩ = (.ok (.ok (data.set "id" (.str id))),
        ⟨A.stored entityName id (data.set "id" (.str id)) k', none⟩) := by
      simp [create, hknown, hid, hassign, Tracked.withStore, Tracked.recordCreate, Tracked.record]
    obtain ⟨hfree, hall, hset⟩ := hneeds hdata
    obtain ⟨R', hbecomes, hrep⟩ := h'.stored hA hknown hfree hall hset hstamped.1
    have hfresh : id ∉ R entityName := fun hmem => (h'.isText hA hmem).2 hfree
    refine ⟨R', Or.inl ⟨id, _, hfresh, hgives, hstamped, ?_, hbecomes⟩, ?_⟩
    · simp only [perform, outside, hrun]
      rfl
    · simpa only [perform, outside, hrun] using hrep
  · obtain ⟨e, hassign⟩ := assign_of_not_isRecordData hdata id
    have hrun : A.create entityName data ⟨k, none⟩ = (.error (.json e), ⟨k', none⟩) := by
      simp [create, hknown, hid, hassign, Tracked.withStore]
    refine ⟨R, Or.inr ⟨Or.inl hdata, ?_, rfl⟩, ?_⟩
    · simp only [perform, outside, hrun]
      trivial
    · simpa only [perform, outside, hrun] using h'

theorem keeps_create (hA : A.Faithful) (h : A.Represents k R)
    (hknown : A.schemas entityName ≠ none)
    (hneeds : A.NeedsKnown k (.create entityName data)) : A.Keeps k R (.create entityName data) := by
  rcases newId_cases entityName data k with
    ⟨id, hfind, hid⟩ | ⟨value, e, hfind, hnull, hstring, hid⟩ | ⟨hfind, hid⟩
  · exact keeps_create_at hA hknown h hid (Or.inl hfind) fun _ => hneeds id (Or.inl hfind)
  · have hrun : A.create entityName data ⟨k, none⟩ = (.error (.json e), ⟨k, none⟩) := by
      simp [create, hknown, hid, Tracked.withStore]
    refine ⟨R, Or.inr ⟨Or.inr (Or.inl ⟨value, hfind, hnull, hstring⟩), ?_, rfl⟩, ?_⟩
    · simp only [perform, outside, hrun]
      trivial
    · simpa only [perform, outside, hrun] using h
  · obtain ⟨h', hfree, hset⟩ := h.generateId hA entityName
    refine keeps_create_at hA hknown h' hid (Or.inr hfind) fun hdata => ?_
    obtain ⟨hkfree, hall, hkset⟩ := hneeds _ (Or.inr ⟨hdata, hfind, rfl⟩)
    exact ⟨hfree _ hkfree, hall, hset hkset⟩

/-- The same record under another of its texts. -/
theorem Represents.write_again (hA : A.Faithful) (h : A.Represents k R) {record : Json}
    (hrecord : (R entityName).lookup id = some record) :
    A.Represents (Keyspace.set k (makeKey entityName id) (A.dump record)) R := by
  have hid : id ∈ R entityName := AList.lookup_isSome.1 (by rw [hrecord]; rfl)
  refine ⟨fun other => ?_, h.known, fun other i row hrow => ?_, h.apart⟩
  · rw [h.keys, Keyspace.set, Keyspace.listed_update (h.isText hA hid).1.noSet (by simp)]
  · have hi : i ∈ R other := AList.lookup_isSome.1 (by rw [hrow]; rfl)
    by_cases hkey : makeKey other i = makeKey entityName id
    · obtain rfl := h.apart _ _ _ _ hi hid hkey
      obtain rfl := makeKey_inj hkey
      obtain rfl : record = row := Option.some.inj (hrecord.symm.trans hrow)
      obtain ⟨hobject, hreread⟩ := h.isObject hA hrecord
      exact ⟨record, hobject, hreread, Function.update_self ..⟩
    · obtain ⟨written, hobject, hread, htext⟩ := h.stands _ _ _ hrow
      exact ⟨written, hobject, hread, by rw [Keyspace.set, Function.update_of_ne hkey, htext]⟩

/-- Data that is no record is refused, or is nothing at all. -/
theorem mergeInto_of_not_isRecordData (hdata : ¬ IsRecordData data) (old : Json) :
    mergeInto old data = .ok old ∨ ∃ e, mergeInto old data = .error e := by
  cases data with
  | null => exact absurd (Or.inr rfl) hdata
  | obj members => exact absurd (Or.inl rfl) hdata
  | arr elements =>
      cases elements with
      | nil => exact Or.inl rfl
      | cons element elements => exact Or.inr ⟨_, rfl⟩
  | _ => exact Or.inr ⟨_, rfl⟩

theorem keeps_update (hA : A.Faithful) (h : A.Represents k R)
    (hknown : A.schemas entityName ≠ none)
    (hneeds : A.NeedsKnown k (.update entityName id data)) :
    A.Keeps k R (.update entityName id data) := by
  cases hrow : (R entityName).lookup id with
  | none =>
      have hread := read_absent hknown (lookup_of_own hA h hneeds hrow)
      have hrun : A.update entityName id data ⟨k, none⟩ =
          (.ok (.error (recordMissing entityName id)), ⟨k, none⟩) := by
        simp [update, hread]
      refine ⟨R, ?_, ?_⟩
      · simp only [EntityMap.Serves, hrow, perform, outside, hrun]
        exact ⟨rfl, trivial⟩
      · simpa only [perform, outside, hrun] using h
  | some old =>
      have hid : id ∈ R entityName := AList.lookup_isSome.1 (by rw [hrow]; rfl)
      have hread := h.read hA hrow
      have hstored : ∀ record, mergeInto old data = .ok record →
          A.update entityName id data ⟨k, none⟩ =
            (.ok (.ok record), ⟨k.set (makeKey entityName id) (A.dump record), none⟩) := by
        intro record hmerge
        simp [update, hread, hmerge, Tracked.recordUpdate, Tracked.record, Tracked.withStore]
      by_cases hdata : IsRecordData data
      · obtain ⟨record, hmerge, hover⟩ := mergeInto_overwritten (h.isObject hA hrow).1 hdata
        obtain ⟨R', hbecomes, hrep⟩ := h.rewritten hA hid hover.1
        have hrun := hstored record hmerge
        refine ⟨R', ?_, ?_⟩
        · simp only [EntityMap.Serves, hrow, perform, outside, hrun]
          exact ⟨fun _ => ⟨record, hover, rfl, hbecomes⟩, fun hnot => absurd hdata hnot⟩
        · simpa only [perform, outside, hrun] using hrep
      · refine ⟨R, ?_, ?_⟩
        · simp only [EntityMap.Serves, hrow]
          exact ⟨fun his => absurd his hdata, fun _ => trivial⟩
        · rcases mergeInto_of_not_isRecordData hdata old with hmerge | ⟨e, hmerge⟩
          · simpa only [perform, outside, hstored old hmerge] using h.write_again hA hrow
          · have hrun : A.update entityName id data ⟨k, none⟩ = (.error e, ⟨k, none⟩) := by
              simp [update, hread, hmerge, Tracked.recordUpdate, Tracked.record]
            simpa only [perform, outside, hrun] using h

theorem keeps_remove (hA : A.Faithful) (h : A.Represents k R) (hown : Own k entityName id) :
    A.Keeps k R (.remove entityName id) := by
  cases hrow : (R entityName).lookup id with
  | none =>
      have hrun : A.remove entityName id ⟨k, none⟩ =
          (.ok (.error (recordMissing entityName id)), ⟨k, none⟩) :=
        remove_absent (lookup_of_own hA h hown hrow)
      refine ⟨R, ?_, ?_⟩
      · simp only [EntityMap.Serves, hrow, perform, outside, hrun]
        exact ⟨rfl, trivial⟩
      · simpa only [perform, outside, hrun] using h
  | some record =>
      have hid : id ∈ R entityName := AList.lookup_isSome.1 (by rw [hrow]; rfl)
      obtain ⟨text, htext⟩ := (h.isText hA hid).1
      obtain ⟨R', hbecomes, hrep⟩ := h.removed hA hid
      have hrun : A.remove entityName id ⟨k, none⟩ = (.ok (.ok true),
          ⟨(k.del (makeKey entityName id)).2.srem (makeSetKey entityName) id, none⟩) := by
        simp [remove, noteDeleted, Tracked.isRecording, Keyspace.del, htext, Tracked.withStore]
      refine ⟨R', ?_, ?_⟩
      · simp only [EntityMap.Serves, hrow, perform, outside, hrun]
        exact ⟨rfl, hbecomes⟩
      · simpa only [perform, outside, hrun] using hrep

/-- A page that the caller counts from 1 is empty for the map and for the adapter when it is behind
the last record. -/
theorem keeps_list (hA : A.Faithful) (h : A.Represents k R) (hknown : A.schemas entityName ≠ none)
    {page limit : Int} (hneeds : A.NeedsKnown k (.list entityName filter page limit)) :
    A.Keeps k R (.list entityName filter page limit) := by
  refine ⟨R, ⟨rfl, fun hpage hlimit => ?_⟩, h⟩
  obtain ⟨hset, hbehind, -⟩ := hneeds hpage hlimit
  have hpos : 0 < limit := hlimit
  have hlist := list_eq { filter := filter, page := page, limit := limit } hknown hset
  rw [h.found_eq hA fun _ => matchesFilter_iff] at hbehind hlist
  simp only [if_pos hpos] at hlist
  have hempty : numberedPage limit.toNat page.toNat (EntityMap.matching R entityName filter) = [] := by
    have hmul : ((page - 1) * limit).toNat = (page.toNat - 1) * limit.toNat := by
      have hsub : (page - 1).toNat = page.toNat - 1 := by omega
      rw [Int.toNat_mul (by omega) (by omega), hsub]
    exact numberedPage_eq_nil (by omega)
  have hdrop : (EntityMap.matching R entityName filter).drop (page * limit).toNat = [] := by
    have hmul : page * limit = (page - 1) * limit + limit := by
      rw [Int.sub_mul, Int.one_mul, Int.sub_add_cancel]
    exact List.drop_eq_nil_of_le (by omega)
  rw [hdrop, List.take_nil] at hlist
  simp only [perform, hlist, hempty]
  rfl

theorem keeps_findFirst (hA : A.Faithful) (h : A.Represents k R)
    (hknown : A.schemas entityName ≠ none)
    (hneeds : A.NeedsKnown k (.findFirst entityName filter)) :
    A.Keeps k R (.findFirst entityName filter) := by
  obtain ⟨hset, hone⟩ := hneeds
  obtain ⟨converted, hconverted, hsame⟩ := toStringMap_filterJson filter
  have hlist := list_eq { filter := converted, limit := 1 } hknown hset
  have hmatch : ∀ record, matchesFilter record converted = true ↔ Satisfies record filter := by
    intro record
    simp only [matchesFilter_iff, Satisfies, hsame]
  rw [h.found_eq hA hmatch] at hlist
  rw [h.found_eq hA fun _ => matchesFilter_iff] at hone
  refine ⟨R, ⟨rfl, fun hnone => ?_, fun hsome => ?_⟩, h⟩
  · have hrun : A.findFirst entityName (filterJson filter) k =
        .ok (.error (.notFound "No matching record found")) := by
      rw [hnone] at hlist
      simp only [findFirst, hconverted, hlist]
      rfl
    simp only [perform, hrun]
    rfl
  · rcases hrows : EntityMap.matching R entityName filter with _ | ⟨first, _ | ⟨second, rest⟩⟩
    · exact absurd hrows hsome
    · rw [hrows] at hone
      exact absurd rfl hone
    · have hrun : A.findFirst entityName (filterJson filter) k = .ok (.ok second) := by
        rw [hrows] at hlist
        simp only [findFirst, hconverted, hlist]
        rfl
      refine ⟨second, List.mem_cons_of_mem _ (List.mem_cons_self ..), ?_⟩
      simp only [perform, hrun]
      rfl

/-- No record is found, and none is meant. -/
theorem found_dumped (hA : A.Faithful) (h : A.Represents k R) (hknown : A.schemas entityName ≠ none)
    (hset : ¬ k.IsText (makeSetKey entityName)) (hnone : A.found entityName filter k = [])
    (hfew : (A.found entityName (A.dumpedFilter (filterJson filter)).filter k).length ≤ 20) :
    EntityMap.matching R entityName filter = [] ∧
      ∃ found, A.list entityName (A.dumpedFilter (filterJson filter)) k = .ok found ∧
        found.items = [] := by
  refine ⟨by rw [← h.found_eq hA fun _ => matchesFilter_iff, hnone], _, list_eq _ hknown hset, ?_⟩
  have hdrop : (A.found entityName (A.dumpedFilter (filterJson filter)).filter k).drop 20 = [] :=
    List.drop_eq_nil_of_le hfew
  show ((A.found entityName (A.dumpedFilter (filterJson filter)).filter k).drop 20).take 20 = []
  rw [hdrop, List.take_nil]

/-- A filter that selects nothing changes nothing. -/
theorem unchanged_of_none (hnone : EntityMap.matching R entityName filter = [])
    {record : Json} (hrow : (R entityName).lookup id = some record) : ¬ Satisfies record filter := by
  classical
  intro hsat
  have hmem : record ∈ EntityMap.matching R entityName filter := by
    rw [EntityMap.matching, List.mem_filter, decide_eq_true_iff]
    exact ⟨List.mem_map.2 ⟨⟨id, record⟩, AList.mem_lookup_iff.1 hrow, rfl⟩, hsat⟩
  rw [hnone] at hmem
  cases hmem

theorem keeps_updateMany (hA : A.Faithful) (h : A.Represents k R)
    (hknown : A.schemas entityName ≠ none)
    (hneeds : A.NeedsKnown k (.updateMany entityName filter data)) :
    A.Keeps k R (.updateMany entityName filter data) := by
  obtain ⟨hset, hnone, hfew⟩ := hneeds
  obtain ⟨hmatching, found, hlist, hitems⟩ := found_dumped hA h hknown hset hnone hfew
  have hrun : A.updateMany entityName (filterJson filter) data ⟨k, none⟩ =
      (.ok (.ok 0), ⟨k, none⟩) := by
    simp [updateMany, hlist, hitems, forEach]
  refine ⟨R, ⟨fun _ => ⟨?_, (R entityName).lookup, ⟨fun _ => rfl, fun _ _ => rfl⟩, fun i => ?_⟩,
    fun _ => rfl⟩, ?_⟩
  · simp only [perform, outside, hrun, hmatching]
    rfl
  · cases hrow : (R entityName).lookup i with
    | none => exact hrow
    | some old =>
        exact ⟨fun hsat => absurd hsat (unchanged_of_none hmatching hrow), fun _ => hrow⟩
  · simpa only [perform, outside, hrun] using h

theorem keeps_deleteMany (hA : A.Faithful) (h : A.Represents k R)
    (hknown : A.schemas entityName ≠ none)
    (hneeds : A.NeedsKnown k (.deleteMany entityName filter)) :
    A.Keeps k R (.deleteMany entityName filter) := by
  obtain ⟨hset, hnone, hfew⟩ := hneeds
  obtain ⟨hmatching, found, hlist, hitems⟩ := found_dumped hA h hknown hset hnone hfew
  have hrun : A.deleteMany entityName (filterJson filter) ⟨k, none⟩ =
      (.ok (.ok 0), ⟨k, none⟩) := by
    simp [deleteMany, hlist, hitems, forEach]
  refine ⟨R, ⟨?_, (R entityName).lookup, ⟨fun _ => rfl, fun _ _ => rfl⟩, fun i => ?_⟩, ?_⟩
  · simp only [perform, outside, hrun, hmatching]
    rfl
  · cases hrow : (R entityName).lookup i with
    | none => exact hrow
    | some old =>
        exact ⟨fun hsat => absurd hsat (unchanged_of_none hmatching hrow), fun _ => hrow⟩
  · simpa only [perform, outside, hrun] using h

/-! ### Runs -/

theorem read_unknown (hunknown : A.schemas entityName = none) :
    A.read entityName id k = .error (schemaMissing entityName) := by
  simp [RedisAdapter.read, hunknown]

theorem list_unknown (hunknown : A.schemas entityName = none) (options : ListOptions) :
    A.list entityName options k = .error (schemaMissing entityName) := by
  simp [list, hunknown]

/-- A call on an entity without a schema finds nothing. -/
theorem perform_unknown (hA : A.Faithful) (h : A.Represents k R) {call : EntityCall}
    (hunknown : A.schemas call.entityName = none) (hneeds : A.Needs k call) :
    (A.perform call k).1.IsNotFound ∧ (A.perform call k).2 = k := by
  cases call with
  | create entityName data =>
      have hschema : A.schemas entityName = none := hunknown
      have hrun : A.create entityName data ⟨k, none⟩ =
          (.ok (.error (schemaMissing entityName)), ⟨k, none⟩) := by
        simp [create, hschema]
      simp only [perform, outside, hrun]
      exact ⟨rfl, trivial⟩
  | read entityName id =>
      have hschema : A.schemas entityName = none := hunknown
      simp only [perform, read_unknown hschema]
      exact ⟨rfl, trivial⟩
  | update entityName id data =>
      have hschema : A.schemas entityName = none := hunknown
      have hrun : A.update entityName id data ⟨k, none⟩ =
          (.ok (.error (schemaMissing entityName)), ⟨k, none⟩) := by
        simp only [update, read_unknown hschema]
      simp only [perform, outside, hrun]
      exact ⟨rfl, trivial⟩
  | remove entityName id =>
      have hschema : A.schemas entityName = none := hunknown
      have hnone : (R entityName).lookup id = none :=
        AList.lookup_eq_none.2 fun hid => h.known _ _ hid hschema
      have hrun : A.remove entityName id ⟨k, none⟩ =
          (.ok (.error (recordMissing entityName id)), ⟨k, none⟩) :=
        remove_absent (lookup_of_own hA h (hneeds.2 entityName id rfl) hnone)
      simp only [perform, outside, hrun]
      exact ⟨rfl, trivial⟩
  | list entityName filter page limit =>
      have hschema : A.schemas entityName = none := hunknown
      simp only [perform, list_unknown hschema]
      exact ⟨rfl, trivial⟩
  | findFirst entityName filter =>
      have hschema : A.schemas entityName = none := hunknown
      obtain ⟨converted, hconverted, -⟩ := toStringMap_filterJson filter
      have hrun : A.findFirst entityName (filterJson filter) k =
          .ok (.error (schemaMissing entityName)) := by
        simp only [findFirst, hconverted, list_unknown hschema]
      simp only [perform, hrun]
      exact ⟨rfl, trivial⟩
  | updateMany entityName filter data =>
      have hschema : A.schemas entityName = none := hunknown
      have hrun : A.updateMany entityName (filterJson filter) data ⟨k, none⟩ =
          (.ok (.error (schemaMissing entityName)), ⟨k, none⟩) := by
        simp only [updateMany, list_unknown hschema]
      simp only [perform, outside, hrun]
      exact ⟨rfl, trivial⟩
  | deleteMany entityName filter =>
      have hschema : A.schemas entityName = none := hunknown
      have hrun : A.deleteMany entityName (filterJson filter) ⟨k, none⟩ =
          (.ok (.error (schemaMissing entityName)), ⟨k, none⟩) := by
        simp only [deleteMany, list_unknown hschema]
      simp only [perform, outside, hrun]
      exact ⟨rfl, trivial⟩

/-- **One call**: it answers as the map does when it finds what it needs. -/
theorem answers_of_needs (hA : A.Faithful) (h : A.Represents k R) {call : EntityCall}
    (hneeds : A.Needs k call) :
    ∃ R', EntityMap.Answers (fun entityName => A.schemas entityName ≠ none) A.reread R call
        (A.perform call k).1 R' ∧
      A.Represents (A.perform call k).2 R' := by
  by_cases hknown : A.schemas call.entityName = none
  · obtain ⟨hnotFound, hsame⟩ := perform_unknown hA h hknown hneeds
    exact ⟨R, ⟨fun his => absurd hknown his, fun _ => ⟨hnotFound, rfl⟩⟩, by rwa [hsame]⟩
  · have hcall := hneeds.1 hknown
    have hkeeps : A.Keeps k R call := by
      cases call with
      | create entityName data => exact keeps_create hA h hknown hcall
      | read entityName id => exact keeps_read hA h hknown hcall
      | update entityName id data => exact keeps_update hA h hknown hcall
      | remove entityName id => exact keeps_remove hA h (hneeds.2 entityName id rfl)
      | list entityName filter page limit => exact keeps_list hA h hknown hcall
      | findFirst entityName filter => exact keeps_findFirst hA h hknown hcall
      | updateMany entityName filter data => exact keeps_updateMany hA h hknown hcall
      | deleteMany entityName filter => exact keeps_deleteMany hA h hknown hcall
    obtain ⟨R', hserves, hrep⟩ := hkeeps
    exact ⟨R', ⟨fun _ => hserves, fun hnot => absurd hknown hnot⟩, hrep⟩

/-- **Calls from keys that hold a map**, one after the other. -/
theorem runs_of_allNeeds (hA : A.Faithful) {calls : List EntityCall} (h : A.Represents k R)
    (hneeds : A.AllNeeds calls k) :
    ∃ R', EntityMap.Runs (fun entityName => A.schemas entityName ≠ none) A.reread R calls
        (A.run calls k).1 R' ∧
      A.Represents (A.run calls k).2 R' := by
  induction calls generalizing k R with
  | nil => exact ⟨R, .nil, h⟩
  | cons call calls ih =>
      obtain ⟨R', hanswers, hrep⟩ := answers_of_needs hA h hneeds.1
      obtain ⟨R'', hruns, hrep'⟩ := ih hrep hneeds.2
      exact ⟨R'', .cons hanswers hruns, hrep'⟩

/-- **The adapter refines the map** in every run whose calls find what they need. -/
theorem refines_of_allNeeds (hA : A.Faithful) (calls : List EntityCall)
    (hneeds : A.AllNeeds calls fun _ => none) : A.Refines calls :=
  runs_of_allNeeds hA (A.represents_empty hA) hneeds

end RedisAdapter

/-! ### A note -/

/-- A note without a text, and one with a text. -/
def bareNote : Json := .obj [("id", .str "1")]

def fullNote : Json := .obj [("id", .str "1"), ("text", .str "a")]

/-- A Redis with notes, and the texts of the two. -/
def noteRedis : RedisAdapter where
  schemas entityName := if entityName = "Note" then some { name := "Note" } else none
  dump
    | .str text => "\"" ++ text ++ "\""
    | record =>
        if (record.find? "text").isSome then "\x7b\"id\":\"1\",\"text\":\"a\"\x7d"
        else "\x7b\"id\":\"1\"\x7d"
  parse text :=
    if text = "\x7b\"id\":\"1\",\"text\":\"a\"\x7d" then .ok fullNote
    else if text = "\x7b\"id\":\"1\"\x7d" then .ok bareNote
    else .error "[json.exception.parse_error.101] parse error at line 1, column 1"
  visit := id

/-- A text with a character that stands in no number. -/
theorem toInt?_eq_none_of_mem {text : String} {c : Char} (h : c ∈ text.toList)
    (hdigit : c.isDigit = false) (hline : c ≠ '_') (hminus : c ≠ '-') : text.toInt? = none := by
  have hnat : ∀ s : String, c ∈ s.toList → s.isNat ≠ true := by
    intro s hs hisNat
    rcases (String.isNat_iff.1 hisNat).2.1 c hs with h' | h'
    · rw [hdigit] at h'
      cases h'
    · exact hline h'
  rw [String.toInt?_eq_none_iff, ← Bool.not_eq_true, String.isInt_iff]
  rintro (hisNat | ⟨rest, rfl, hisNat⟩)
  · exact hnat text h hisNat
  · rw [String.toList_append, List.mem_append] at h
    refine hnat rest (h.resolve_left fun hc => hminus ?_) hisNat
    simpa using hc

theorem noteRedis_reread (members : List (String × Json)) :
    noteRedis.parse (noteRedis.dump (.obj members)) = .ok (noteRedis.reread (.obj members)) ∧
      (noteRedis.reread (.obj members) = fullNote ∨ noteRedis.reread (.obj members) = bareNote) := by
  by_cases htext : ((Json.obj members).find? "text").isSome
  · simp [RedisAdapter.reread, noteRedis, htext]
  · simp [RedisAdapter.reread, noteRedis, htext]

theorem noteRedis_faithful : noteRedis.Faithful where
  visit _ := .refl _
  parse_dump := by
    intro record h
    obtain ⟨members, rfl⟩ := Json.exists_obj_of_isObject h
    exact (noteRedis_reread members).1
  isObject_reread := by
    intro record h
    obtain ⟨members, rfl⟩ := Json.exists_obj_of_isObject h
    rcases (noteRedis_reread members).2 with h | h <;> rw [h] <;> rfl
  reread_reread := by
    intro record h
    obtain ⟨members, rfl⟩ := Json.exists_obj_of_isObject h
    rcases (noteRedis_reread members).2 with h | h <;> rw [h] <;> rfl
  toInt?_dump := by
    intro record h
    obtain ⟨members, rfl⟩ := Json.exists_obj_of_isObject h
    refine toInt?_eq_none_of_mem (c := ':') ?_ (by decide) (by decide) (by decide)
    simp only [noteRedis]
    split <;> decide

/-- **The first page is left out**: the list after a `create` is empty. -/
theorem not_refines_firstPage :
    ¬ ∀ calls, noteRedis.Refines calls := by
  intro h
  obtain ⟨R, hruns, -⟩ := h [.create "Note" bareNote, .list "Note" ∅ 1 20]
  simp only [RedisAdapter.run] at hruns
  cases hruns with
  | @cons _ R' _ _ _ _ _ _ hrest =>
      cases hrest with
      | cons hanswers _ =>
          have hserves := hanswers.1 (by decide)
          have hempty : (noteRedis.perform (.list "Note" ∅ 1 20)
              (noteRedis.perform (.create "Note" bareNote) fun _ => none).2).1 =
              .listed ⟨[], 1, 1, 20⟩ := by
            rfl
          have hlisted := hempty.symm.trans (hserves.2 (by decide) (by decide))
          injection hlisted with hfound
          injection hfound with hitems htotal
          have hnone : EntityMap.matching R' "Note" ∅ = [] := by
            simpa [numberedPage] using hitems.symm
          rw [hnone] at htotal
          cases htotal

/-- A note is created, found to be the only one, changed and removed. -/
def noteCalls : List EntityCall :=
  [.create "Note" bareNote, .read "Note" "1", .list "Note" ∅ 2 20,
    .findFirst "Note" (.ofList [("text", "b")]), .updateMany "Note" (.ofList [("text", "b")]) fullNote,
    .update "Note" "1" fullNote, .remove "Note" "1", .read "Note" "1"]

theorem refines_of_allNeeds_note : noteRedis.Refines noteCalls := by
  refine RedisAdapter.refines_of_allNeeds noteRedis_faithful noteCalls ?_
  have hcreate : noteRedis.Needs (fun _ => none) (.create "Note" bareNote) := by
    refine ⟨fun _ id hid => ?_, nofun⟩
    have hone : id = "1" := by
      rcases hid with hid | ⟨-, hid, -⟩
      · exact (Json.str.inj (Option.some.inj hid)).symm
      · cases hid
    subst hone
    exact ⟨Or.inl rfl, by decide, nofun⟩
  have hset : ¬ (noteRedis.perform (.create "Note" bareNote) fun _ => none).2.IsText "Note:all" := by
    rintro ⟨text, htext⟩
    cases (show some (RedisValue.set ["1"]) = _ from htext)
  refine ⟨hcreate, ⟨fun _ => Or.inr (by decide +kernel), nofun⟩,
    ⟨fun _ _ _ => ⟨hset, by decide +kernel, by decide⟩, nofun⟩,
    ⟨fun _ => ⟨hset, by decide +kernel⟩, nofun⟩,
    ⟨fun _ => ⟨hset, List.length_eq_zero_iff.1 (by decide +kernel), by decide +kernel⟩, nofun⟩,
    ⟨fun _ => Or.inr (by decide +kernel), nofun⟩, ⟨fun _ => trivial, fun entityName id h => ?_⟩,
    ⟨fun _ => Or.inl (by decide +kernel), nofun⟩, trivial⟩
  injection h with hname hid
  subst hname hid
  exact Or.inr (by decide +kernel)

end Adapters
end Dbal
