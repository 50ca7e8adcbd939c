/-
# What a rollback takes back

The two adapters whose store has no transactions side by side.  A rollback brings back the store of
the begin, with its log left alone while it is being walked, exactly after calls that did nothing.
-/

import Dbal.Adapters.MongoDBRollback
import Dbal.Adapters.RedisRollback

namespace Dbal
namespace Adapters

open Dbal.Core

variable {κ : Type}

/-- The rollback takes back every run whose calls all meet the condition, and no weaker condition on
single calls would do. -/
structure TakesBackExactly (A : CompensatedAdapter κ) (condition : κ → TxCall → Prop) : Prop where
  runs : ∀ {store calls}, A.StepsMeet condition (.begun store) calls →
    A.Restores store (A.performAll (.begun store) calls)
  weakest : ∀ {store call}, A.Restores store (A.perform (.begun store) call) → condition store call

/-- **Rolling back a run**: with either adapter the store comes back when every call of the run was
idle, and a call that is not idle is never taken back properly. -/
theorem rollback_takesBackExactly (R : RedisAdapter) (hR : R.Parses) (D : MongoDriver κ)
    (hD : D.Faithful) : TakesBackExactly R.calls R.Idle ∧
      TakesBackExactly (MongoDBAdapter.calls D) (MongoDBAdapter.Idle D) := by
  constructor
  · constructor
    · intro store calls h
      exact R.calls.restores_of_steps
        (fun store call hidle => RedisAdapter.perform_idle (s := .begun store) rfl hidle) h
    · exact RedisAdapter.idle_of_restores hR
  · constructor
    · intro store calls h
      exact CompensatedAdapter.restores_of_steps _
        (fun store call hidle => MongoDBAdapter.perform_idle (s := .begun store) hD rfl hidle) h
    · exact MongoDBAdapter.idle_of_restores hD

/-! ### An ideal document store -/

/-- A document in its collection; the key is the text of its `_id` where that is an object id. -/
structure StoredDocument where
  entityName : String
  key : Option String
  members : List (String × Json)

/-- The documents, and how many ids the driver has made up. -/
structure DocumentStore where
  documents : List StoredDocument := []
  drawn : Nat := 0

namespace DocumentStore

/-- The object id that is made up next. -/
def nextId (drawn : Nat) : String :=
  String.ofList (List.leftpad 24 '0' (Nat.toDigits 10 drawn))

/-- The document with this object id. -/
def isAt (entityName id : String) (d : StoredDocument) : Bool :=
  d.entityName = entityName && d.key = some id

/-- The document has every member of the filter. -/
def satisfies (entityName : String) (filter : Json) (d : StoredDocument) : Bool :=
  d.entityName = entityName &&
    filter.members.all fun (key, value) => (Json.obj d.members).find? key == some value

/-- The members are set in the documents that are selected. -/
def setWhere (selected : StoredDocument → Bool) (members : List (String × Json))
    (k : DocumentStore) : DocumentStore :=
  { k with documents := k.documents.map fun d =>
      if selected d then { d with members := d.members ++ members } else d }

/-- A document is inserted under its `_id`, or under a new one. -/
def insert (entityName : String) (data : Json) (k : DocumentStore) :
    Except DriverError (Option (Option String)) × DocumentStore :=
  match data with
  | .obj members =>
      match data.find? "_id" with
      | none =>
          let document : StoredDocument := ⟨entityName, some (nextId k.drawn),
            members ++ [("_id", .obj [("$oid", .str (nextId k.drawn))])]⟩
          (.ok (some (some (nextId k.drawn))), ⟨k.documents ++ [document], k.drawn + 1⟩)
      | some id =>
          let key := match id.find? "$oid" with
            | some (.str oid) => some oid
            | _ => none
          if k.documents.any fun d => d.entityName = entityName &&
              (Json.obj d.members).find? "_id" == some id then
            (.error (.other "E11000 duplicate key error"), k)
          else (.ok (some key), { k with documents := k.documents ++ [⟨entityName, key, members⟩] })
  | _ => (.error (.bson "JSON text is no document"), k)

/-- The documents are inserted one after the other, up to the first that is refused. -/
def insertAll (entityName : String) :
    List Json → Nat → DocumentStore → Except DriverError (Option Nat) × DocumentStore
  | [], count, k => (.ok (some count), k)
  | data :: records, count, k =>
      match insert entityName data k with
      | (.error e, k') => (.error e, k')
      | (.ok _, k') => insertAll entityName records (count + 1) k'

/-- The driver on this store. -/
def driver : MongoDriver DocumentStore where
  insertOne := insert
  findOne entityName id k := (k.documents.find? (isAt entityName id)).map fun d => .obj d.members
  findOneAndUpdate entityName id data k :=
    let k' := k.setWhere (isAt entityName id) data.members
    (.ok ((k'.documents.find? (isAt entityName id)).map fun d => .obj d.members), k')
  deleteOne entityName id k :=
    (.ok (some (if k.documents.any (isAt entityName id) then 1 else 0)),
      { k with documents := k.documents.eraseP (isAt entityName id) })
  insertMany entityName records k := insertAll entityName records 0 k
  updateMany entityName filter data k :=
    (.ok (some (k.documents.countP (satisfies entityName filter))),
      k.setWhere (satisfies entityName filter) data.members)
  deleteMany entityName filter k :=
    (.ok (some (k.documents.countP (satisfies entityName filter))),
      { k with documents := k.documents.filter fun d => !satisfies entityName filter d })
  upsert entityName filter updateData createData k :=
    match k.documents.find? (satisfies entityName filter) with
    | some d =>
        (.ok (some (.obj (d.members ++ updateData.members))),
          k.setWhere (satisfies entityName filter) updateData.members)
    | none =>
        let record : Json := .obj (filter.members ++ updateData.members ++ createData.members)
        ((insert entityName record k).1.map fun _ => some record, (insert entityName record k).2)

theorem find?_setWhere (entityName id : String) (members : List (String × Json))
    (k : DocumentStore) :
    (k.setWhere (isAt entityName id) members).documents.find? (isAt entityName id) =
      (k.documents.find? (isAt entityName id)).map fun d =>
        { d with members := d.members ++ members } := by
  unfold setWhere
  induction k.documents with
  | nil => rfl
  | cons d documents ih =>
      cases hd : isAt entityName id d with
      | true =>
          have hset : isAt entityName id { d with members := d.members ++ members } = true := hd
          simp [hd, hset]
      | false => simpa [hd] using ih

theorem setWhere_of_find?_none {entityName id : String} {k : DocumentStore}
    (h : k.documents.find? (isAt entityName id) = none) (members : List (String × Json)) :
    k.setWhere (isAt entityName id) members = k := by
  have hmap : ∀ documents : List StoredDocument, (∀ d ∈ documents, isAt entityName id d = false) →
      (documents.map fun d => if isAt entityName id d then
        { d with members := d.members ++ members } else d) = documents := by
    intro documents hnone
    induction documents with
    | nil => rfl
    | cons d documents ih =>
        simp [hnone d (by simp), ih fun d' hd' => hnone d' (by simp [hd'])]
  have hnone : ∀ d ∈ k.documents, isAt entityName id d = false := by simpa using h
  simp [setWhere, hmap k.documents hnone]

/-- **The ideal document store** keeps what the rollback relies on. -/
theorem driver_faithful : driver.Faithful where
  insert_refused := by
    intro entityName data k e k' h
    simp only [driver, insert] at h
    split at h
    · split at h
      · cases h
      · split at h
        · exact (Prod.mk.inj h).2.symm
        · cases h
    · exact (Prod.mk.inj h).2.symm
  insert_changes := by
    intro entityName data k answer k' h hsame
    subst hsame
    simp only [driver, insert] at h
    split at h
    · split at h
      · have hdrawn := congrArg drawn (Prod.mk.inj h).2
        simp at hdrawn
      · split at h
        · cases h
        · have hdocuments := congrArg documents (Prod.mk.inj h).2
          simp at hdocuments
    · cases h
  insert_acknowledged := by
    intro entityName data k k' h
    simp only [driver, insert] at h
    split at h
    · split at h
      · cases h
      · split at h <;> cases h
    · cases h
  update_absent := by
    intro entityName id k h data
    exact setWhere_of_find?_none (by simpa [driver] using h) data.members
  update_keeps := by
    intro entityName id k document h data
    obtain ⟨d, hd, -⟩ := Option.map_eq_some_iff.1 h
    refine ⟨.obj (d.members ++ data.members), ?_⟩
    simp only [driver, find?_setWhere, hd]
    rfl
  delete_absent := by
    intro entityName id k h
    have hnone : ∀ d ∈ k.documents, isAt entityName id d = false := by simpa [driver] using h
    have hsame : k.documents.eraseP (isAt entityName id) = k.documents :=
      List.eraseP_of_forall_not fun d hd => by simp [hnone d hd]
    simp [driver, hsame]
  delete_changes := by
    intro entityName id k document h hsame
    obtain ⟨d, hd, -⟩ := Option.map_eq_some_iff.1 h
    have hlength := List.length_eraseP_of_mem (List.mem_of_find?_eq_some hd)
      (List.find?_some hd)
    have hdocuments : k.documents.eraseP (isAt entityName id) = k.documents :=
      congrArg documents hsame
    rw [hdocuments] at hlength
    have hpos : 0 < k.documents.length := List.length_pos_of_mem (List.mem_of_find?_eq_some hd)
    omega
  found_isObject := by
    intro entityName id k document h
    obtain ⟨d, -, rfl⟩ := Option.map_eq_some_iff.1 h
    rfl

end DocumentStore

/-! ### Two tags -/

/-- A tag without a name, and one with a name. -/
def bareTag : Json := .obj [("id", .str "a")]

def namedTag : Json := .obj [("id", .str "a"), ("name", .str "red")]

def bareText : String := "\x7b\"id\":\"a\"\x7d"

def namedText : String := "\x7b\"id\":\"a\",\"name\":\"red\"\x7d"

/-- A Redis with tags, and the texts of the two. -/
def tagRedis : RedisAdapter where
  schemas entityName := if entityName = "Tag" then some { name := "Tag" } else none
  dump record := if (record.find? "name").isSome then namedText else bareText
  parse text :=
    if text = namedText then .ok namedTag
    else if text = bareText then .ok bareTag
    else match text.toInt? with
      | some n => .ok (.int n)
      | none => .error "[json.exception.parse_error.101] parse error at line 1, column 1"
  visit := id

theorem tagRedis_parses : tagRedis.Parses where
  dump := by
    intro record
    simp only [tagRedis]
    split
    · exact ⟨namedTag, rfl⟩
    · exact ⟨bareTag, rfl⟩
  number := by
    intro n
    simp only [tagRedis]
    split
    · exact ⟨namedTag, rfl⟩
    · split
      · exact ⟨bareTag, rfl⟩
      · rw [show toString n = n.repr from rfl, Int.toInt?_repr]
        exact ⟨.int n, rfl⟩

/-- The keys with the tag without a name. -/
def bareStore : Keyspace :=
  Keyspace.sadd (Keyspace.set (fun _ => none) "Tag:a" bareText) "Tag:all" "a"

theorem rollback_takesBackExactly_tags :
    tagRedis.calls.Restores bareStore (tagRedis.calls.performAll (.begun bareStore)
      [.remove "Tag" "b", .update "Tag" "b" namedTag]) ∧
    (MongoDBAdapter.calls DocumentStore.driver).Restores {}
      ((MongoDBAdapter.calls DocumentStore.driver).performAll (.begun {})
        [.update "Tag" "a" namedTag]) ∧
    ¬ tagRedis.calls.Restores bareStore
      (tagRedis.calls.perform (.begun bareStore) (.update "Tag" "a" namedTag)) := by
  have hmain := rollback_takesBackExactly tagRedis tagRedis_parses DocumentStore.driver
    DocumentStore.driver_faithful
  have habsent : bareStore "Tag:b" = none := by decide
  have hremoved : tagRedis.calls.perform (.begun bareStore) (.remove "Tag" "b") =
      .begun bareStore := congrArg Prod.snd (RedisAdapter.remove_absent habsent)
  have hmissing : tagRedis.UpdateIdle "Tag" "b" bareStore := by
    intro old hread
    obtain ⟨value, hvalue, -⟩ := RedisAdapter.read_ok hread
    rw [show bareStore (RedisKeyBuilder.makeKey "Tag" "b") = none from habsent] at hvalue
    cases hvalue
  refine ⟨hmain.1.runs ⟨Or.inl habsent, ?_, trivial⟩,
    hmain.2.runs ⟨Or.inl (by decide), trivial⟩, fun hback => ?_⟩
  · rw [hremoved]
    exact hmissing
  · exact hmain.1.weakest hback bareTag rfl

/-- The record that a `create` has overwritten is gone after the rollback, the field that an
`update` has added is still there, and so are the documents of a `createMany`. -/
theorem rollback_leaves_changes :
    ((tagRedis.calls.rollbackTransaction (tagRedis.calls.performAll (.begun bareStore)
      [.create "Tag" namedTag])).2.store "Tag:a" = none) ∧
    ((tagRedis.calls.rollbackTransaction (tagRedis.calls.performAll (.begun bareStore)
      [.update "Tag" "a" namedTag])).2.store "Tag:a" = some (.string namedText)) ∧
    ((MongoDBAdapter.calls DocumentStore.driver).rollbackTransaction
      ((MongoDBAdapter.calls DocumentStore.driver).performAll (.begun {})
        [.createMany "Tag" [bareTag]])).2.store.documents.length = 1 ∧
    ¬ tagRedis.calls.Restores bareStore
      (tagRedis.calls.performAll (.begun bareStore) [.create "Tag" namedTag]) := by
  have hlost : (tagRedis.calls.rollbackTransaction (tagRedis.calls.performAll (.begun bareStore)
      [.create "Tag" namedTag])).2.store "Tag:a" = none := by decide +kernel
  refine ⟨hlost, by decide +kernel, by decide +kernel, fun h => ?_⟩
  rw [h.store_eq] at hlost
  exact absurd hlost (by decide)

end Adapters
end Dbal
