/-
# Rolling back on MongoDB

What a call of the MongoDB adapter leaves for the rollback, over any ideal document store.  The bulk
operations and `upsert` note nothing, so only one that changes nothing is taken back; what is noted
is undone through `create`, `update` and `remove`, and where these find something to undo they note
it in the log that is being undone.
-/

import Dbal.Adapters.MongoDBAdapter

namespace Dbal
namespace Adapters

open Dbal.Core

variable {κ : Type}

/-- How the driver works on an ideal document store: it acknowledges every insertion, an operation
that fails or finds nothing leaves the store alone, and an update does not lose its document. -/
structure MongoDriver.Faithful (D : MongoDriver κ) : Prop where
  insert_refused : ∀ {entityName data k e k'},
    D.insertOne entityName data k = (.error e, k') → k' = k
  insert_changes : ∀ {entityName data k answer k'},
    D.insertOne entityName data k = (.ok answer, k') → k' ≠ k
  insert_acknowledged : ∀ {entityName data k k'}, D.insertOne entityName data k ≠ (.ok none, k')
  update_absent : ∀ {entityName id k}, D.findOne entityName id k = none →
    ∀ data, (D.findOneAndUpdate entityName id data k).2 = k
  update_keeps : ∀ {entityName id k document}, D.findOne entityName id k = some document →
    ∀ data, ∃ updated, D.findOne entityName id (D.findOneAndUpdate entityName id data k).2 =
      some updated
  delete_absent : ∀ {entityName id k}, D.findOne entityName id k = none →
    (D.deleteOne entityName id k).2 = k
  delete_changes : ∀ {entityName id k document}, D.findOne entityName id k = some document →
    (D.deleteOne entityName id k).2 ≠ k
  found_isObject : ∀ {entityName id k document}, D.findOne entityName id k = some document →
    document.isObject

namespace MongoDBAdapter

/-! ### Calls that do nothing -/

section Idle

variable (D : MongoDriver κ)

/-- `update` and `remove` have no document: the id is no object id, or nothing stands under it. -/
def Missing (entityName id : String) (k : κ) : Prop :=
  isObjectId id = false ∨ D.findOne entityName id k = none

/-- `remove` has no document, or one whose `id` is no text. -/
def RemoveIdle (entityName id : String) (k : κ) : Prop :=
  Missing D entityName id k ∨
    ∃ old e, D.findOne entityName id k = some old ∧ Tracked.deletedId old = .error e

/-- The call writes nothing and notes nothing. -/
def Idle (k : κ) : TxCall → Prop
  | .create entityName data => ∃ e k', D.insertOne entityName data k = (.error e, k')
  | .update entityName id _ => Missing D entityName id k
  | .remove entityName id => RemoveIdle D entityName id k
  | .upsert entityName uniqueField uniqueValue createData updateData =>
      (D.upsert entityName (.obj [(uniqueField, uniqueValue)]) updateData createData k).2 = k
  | .createMany entityName records => (D.insertMany entityName records k).2 = k
  | .updateMany entityName filter data => (D.updateMany entityName filter data k).2 = k
  | .deleteMany entityName filter => (D.deleteMany entityName filter k).2 = k

end Idle

variable {D : MongoDriver κ} {entityName id : String} {data : Json} {s : Tracked κ}

/-- `read` finds a document, or there is none. -/
theorem read_cases (D : MongoDriver κ) (entityName id : String) (k : κ) :
    (Missing D entityName id k ∧ ∃ e, read D entityName id k = .error e) ∨
      ∃ old, isObjectId id = true ∧ D.findOne entityName id k = some old ∧
        read D entityName id k = .ok old := by
  unfold Missing read
  cases hid : isObjectId id with
  | false => exact Or.inl ⟨Or.inl rfl, _, rfl⟩
  | true =>
      cases hfind : D.findOne entityName id k with
      | none => exact Or.inl ⟨Or.inr rfl, _, rfl⟩
      | some old => exact Or.inr ⟨old, rfl, rfl, rfl⟩

theorem read_missing (h : Missing D entityName id s.store) :
    ∃ e, read D entityName id s.store = .error e := by
  rcases read_cases D entityName id s.store with ⟨-, herror⟩ | ⟨old, hid, hfind, -⟩
  · exact herror
  · rcases h with hno | hnone
    · rw [hid] at hno
      cases hno
    · rw [hfind] at hnone
      cases hnone

theorem noteUpdated_missing (h : Missing D entityName id s.store) :
    noteUpdated D entityName id s = s := by
  obtain ⟨e, hread⟩ := read_missing h
  simp [noteUpdated, hread]

theorem noteDeleted_missing (h : Missing D entityName id s.store) :
    noteDeleted D entityName id s = .ok s := by
  obtain ⟨e, hread⟩ := read_missing h
  simp [noteDeleted, hread]

/-- After the note, `update` leaves the store that the driver leaves. -/
theorem update_eq (D : MongoDriver κ) (entityName id : String) (data : Json) (s : Tracked κ) :
    (update D entityName id data s).2 = (noteUpdated D entityName id s).withStore
      (if isObjectId id then (D.findOneAndUpdate entityName id data s.store).2 else s.store) := by
  have hstore : (noteUpdated D entityName id s).store = s.store := by
    unfold noteUpdated
    split
    · split
      · exact Tracked.store_record _ s
      · rfl
    · rfl
  unfold update
  split
  · rcases D.findOneAndUpdate entityName id data s.store with ⟨e | _ | document, k⟩ <;> rfl
  · rw [← hstore]
    rfl

/-- After the note, `remove` leaves the store that the driver leaves. -/
theorem remove_eq {noted : Tracked κ} (hnoted : noteDeleted D entityName id s = .ok noted) :
    (remove D entityName id s).2 = if isObjectId id then
      noted.withStore (D.deleteOne entityName id s.store).2 else noted := by
  unfold remove
  rw [hnoted]
  dsimp only
  split
  · rcases D.deleteOne entityName id s.store with ⟨e | _ | _ | n, k⟩ <;> rfl
  · rfl

theorem update_missing (hfaithful : D.Faithful) (h : Missing D entityName id s.store) :
    (update D entityName id data s).2 = s := by
  rw [update_eq, noteUpdated_missing h]
  split
  · next hid =>
      have hnone : D.findOne entityName id s.store = none := h.resolve_left (by simp [hid])
      rw [hfaithful.update_absent hnone]
      rfl
  · rfl

theorem remove_missing (hfaithful : D.Faithful) (h : Missing D entityName id s.store) :
    (remove D entityName id s).2 = s := by
  rw [remove_eq (noteDeleted_missing h)]
  split
  · next hid =>
      have hnone : D.findOne entityName id s.store = none := h.resolve_left (by simp [hid])
      rw [hfaithful.delete_absent hnone]
      rfl
  · rfl

theorem remove_throws (hrecording : s.isRecording = true) {old : Json} {e : JsonError}
    (hread : read D entityName id s.store = .ok old) (hid : Tracked.deletedId old = .error e) :
    (remove D entityName id s).2 = s := by
  have hnoted : noteDeleted D entityName id s = .error (.json e) := by
    simp [noteDeleted, hrecording, hread, Tracked.recordDelete, hid]
  simp [remove, hnoted]

theorem remove_idle (hfaithful : D.Faithful) (hrecording : s.isRecording = true)
    (h : RemoveIdle D entityName id s.store) : (remove D entityName id s).2 = s := by
  rcases read_cases D entityName id s.store with ⟨hmissing, -⟩ | ⟨old, hobject, hfind, hread⟩
  · exact remove_missing hfaithful hmissing
  · rcases h with hmissing | ⟨old', e, hfind', hid⟩
    · exact remove_missing hfaithful hmissing
    · obtain rfl : old = old' := Option.some.inj (hfind.symm.trans hfind')
      exact remove_throws hrecording hread hid

/-- The bulk operations leave the store that the driver leaves. -/
theorem bulk_eq (operation : κ → Except DriverError (Option Nat) × κ) (failed : String)
    (s : Tracked κ) : (bulk operation failed s).2 = s.withStore (operation s.store).2 := by
  unfold bulk
  rcases operation s.store with ⟨e | _ | n, k⟩ <;> rfl

theorem perform_createMany (D : MongoDriver κ) (entityName : String) (records : List Json)
    (s : Tracked κ) : (calls D).perform s (.createMany entityName records) =
      s.withStore (D.insertMany entityName records s.store).2 :=
  bulk_eq (D.insertMany entityName records) _ s

theorem perform_updateMany (D : MongoDriver κ) (entityName : String) (filter data : Json)
    (s : Tracked κ) : (calls D).perform s (.updateMany entityName filter data) =
      s.withStore (D.updateMany entityName filter data s.store).2 :=
  bulk_eq (D.updateMany entityName filter data) _ s

theorem perform_deleteMany (D : MongoDriver κ) (entityName : String) (filter : Json)
    (s : Tracked κ) : (calls D).perform s (.deleteMany entityName filter) =
      s.withStore (D.deleteMany entityName filter s.store).2 :=
  bulk_eq (D.deleteMany entityName filter) _ s

theorem perform_upsert (D : MongoDriver κ) (entityName uniqueField : String)
    (uniqueValue createData updateData : Json) (s : Tracked κ) :
    (calls D).perform s (.upsert entityName uniqueField uniqueValue createData updateData) =
      s.withStore (D.upsert entityName (.obj [(uniqueField, uniqueValue)]) updateData createData
        s.store).2 := by
  show (upsert D entityName uniqueField uniqueValue createData updateData s).2 = _
  unfold upsert
  rcases D.upsert entityName (.obj [(uniqueField, uniqueValue)]) updateData createData s.store with
    ⟨e | _ | document, k⟩ <;> rfl

/-- **Idle calls leave the state as it is.** -/
theorem perform_idle (hfaithful : D.Faithful) {call : TxCall} (hrecording : s.isRecording = true)
    (h : Idle D s.store call) : (calls D).perform s call = s := by
  cases call with
  | create entityName data =>
      obtain ⟨e, k, hinsert⟩ := h
      obtain rfl := hfaithful.insert_refused hinsert
      show (create D entityName data s).2 = s
      rw [create, hinsert]
      rfl
  | update entityName id data => exact update_missing hfaithful h
  | remove entityName id => exact remove_idle hfaithful hrecording h
  | upsert entityName uniqueField uniqueValue createData updateData =>
      rw [perform_upsert, show (D.upsert _ _ _ _ _).2 = s.store from h, Tracked.withStore_self]
  | createMany entityName records =>
      rw [perform_createMany, show (D.insertMany _ _ _).2 = s.store from h, Tracked.withStore_self]
  | updateMany entityName filter data =>
      rw [perform_updateMany, show (D.updateMany _ _ _ _).2 = s.store from h,
        Tracked.withStore_self]
  | deleteMany entityName filter =>
      rw [perform_deleteMany, show (D.deleteMany _ _ _).2 = s.store from h, Tracked.withStore_self]

/-! ### Calls that do something -/

theorem update_found (hrecording : s.isRecording = true) {old : Json}
    (hobject : isObjectId id = true) (hread : read D entityName id s.store = .ok old) :
    (update D entityName id data s).2 = (s.recordUpdate entityName id old).withStore
      (D.findOneAndUpdate entityName id data s.store).2 := by
  rw [update_eq, if_pos hobject]
  simp [noteUpdated, hrecording, hread]

theorem remove_found (hrecording : s.isRecording = true) {old : Json} {deleted : String}
    (hobject : isObjectId id = true) (hread : read D entityName id s.store = .ok old)
    (hid : Tracked.deletedId old = .ok deleted) :
    (remove D entityName id s).2 = (s.record (.undoDelete entityName deleted old)).withStore
      (D.deleteOne entityName id s.store).2 := by
  have hnoted : noteDeleted D entityName id s =
      .ok (s.record (.undoDelete entityName deleted old)) := by
    simp [noteDeleted, hrecording, hread, Tracked.recordDelete, hid]
  rw [remove_eq hnoted, if_pos hobject]

/-- What `noteCreated` leaves: nothing, or a note of the record's id. -/
theorem noteCreated_cases (entityName : String) (created : Json) (s : Tracked κ) :
    (noteCreated entityName created s).2 = s ∨
      ∃ id, (noteCreated entityName created s).2 = s.recordCreate entityName id := by
  unfold noteCreated
  split
  · cases Tracked.deletedId created with
    | error e => exact Or.inl rfl
    | ok id => exact Or.inr ⟨id, rfl⟩
  · exact Or.inl rfl

/-- What `create` leaves: the store of the driver, and at most a note. -/
theorem create_cases (D : MongoDriver κ) (entityName : String) (data : Json) (s : Tracked κ) :
    (create D entityName data s).2 = s.withStore (D.insertOne entityName data s.store).2 ∨
      ∃ id, (create D entityName data s).2 =
        (s.withStore (D.insertOne entityName data s.store).2).recordCreate entityName id := by
  unfold create
  rcases D.insertOne entityName data s.store with ⟨err | _ | answer, k⟩
  · exact Or.inl rfl
  · exact Or.inl rfl
  · dsimp only
    cases parseInsertResult answer data with
    | error e => exact Or.inl rfl
    | ok created => exact noteCreated_cases entityName created (s.withStore k)

/-- The id under which a created record is noted is that of the data. -/
theorem parseInsertResult_object (answer : Option String) (h : data.isObject) :
    ∃ created, parseInsertResult answer data = .ok created ∧
      Tracked.deletedId created = Tracked.deletedId data := by
  obtain ⟨members, rfl⟩ := Json.exists_obj_of_isObject h
  cases answer with
  | none => exact ⟨_, rfl, rfl⟩
  | some oid =>
      refine ⟨(Json.obj members).set "_id" (.str oid), rfl, ?_⟩
      unfold Tracked.deletedId
      rw [Json.find?_set_obj, if_neg (by decide)]

/-- A deletion is undone by an insertion that is noted. -/
theorem create_deleted (hfaithful : D.Faithful) (hrecording : s.isRecording = true)
    (hobject : data.isObject) {deleted : String} (hid : Tracked.deletedId data = .ok deleted)
    {answer : Option (Option String)} {k : κ}
    (hinsert : D.insertOne entityName data s.store = (.ok answer, k)) :
    (create D entityName data s).2 = (s.withStore k).recordCreate entityName deleted := by
  cases answer with
  | none => exact absurd hinsert hfaithful.insert_acknowledged
  | some answer =>
      obtain ⟨created, hcreated, hsame⟩ := parseInsertResult_object answer hobject
      have hnoted : noteCreated entityName created (s.withStore k) =
          (.ok created, (s.withStore k).recordCreate entityName deleted) := by
        simp [noteCreated, hrecording, hsame, hid]
      simp only [create, hinsert, hcreated, hnoted]

/-- A `create` that the driver does not refuse is not taken back: its undo looks for a document
under the record's own id, and leaves the inserted one or notes what it deletes. -/
theorem create_idle_of_restores (hfaithful : D.Faithful) {k : κ}
    (h : (calls D).Restores k (create D entityName data (.begun k)).2) :
    ∃ e k', D.insertOne entityName data k = (.error e, k') := by
  rcases hinsert : D.insertOne entityName data k with ⟨e | answer, k'⟩
  · exact ⟨e, k', rfl⟩
  · exfalso
    have hchanged : k' ≠ k := hfaithful.insert_changes hinsert
    have hcases := create_cases D entityName data (.begun k)
    rw [Tracked.store_begun, hinsert] at hcases
    rcases hcases with hrun | ⟨id, hrun⟩
    · rw [hrun] at h
      exact hchanged (((calls D).restores_of_undoLog_nil rfl rfl).1 h)
    · rw [hrun] at h
      set s := ((Tracked.begun k).withStore k').recordCreate entityName id with hs
      have hstore : s.store = k' := rfl
      obtain ⟨hlog, hback⟩ := h.undo_singleton _ (show _ = [UndoOp.undoCreate entityName id] from rfl) rfl
      have hlog' : (remove D entityName id s).2.undoLog = s.undoLog := hlog
      have hback' : (remove D entityName id s).2.store = k := hback
      have hsame : (remove D entityName id s).2 ≠ s := fun hsame =>
        hchanged (hstore.symm.trans (by rw [← hsame]; exact hback'))
      rcases read_cases D entityName id s.store with ⟨hmissing, -⟩ | ⟨old, hobject, -, hread⟩
      · exact hsame (remove_missing hfaithful hmissing)
      · cases hdeleted : Tracked.deletedId old with
        | error e => exact hsame (remove_throws rfl hread hdeleted)
        | ok deleted =>
            rw [remove_found rfl hobject hread hdeleted, Tracked.undoLog_withStore,
              Tracked.undoLog_record rfl] at hlog'
            simp at hlog'

/-- An `update` that finds its document is not taken back: its undo finds it too, and notes it. -/
theorem update_idle_of_restores (hfaithful : D.Faithful) {k : κ}
    (h : (calls D).Restores k (update D entityName id data (.begun k)).2) :
    Missing D entityName id k := by
  rcases read_cases D entityName id k with ⟨hmissing, -⟩ | ⟨old, hobject, hfind, hread⟩
  · exact hmissing
  · exfalso
    rw [update_found rfl hobject (by exact hread)] at h
    obtain ⟨hlog, -⟩ := h.undo_singleton _ (show _ = [UndoOp.undoUpdate entityName id old] from rfl) rfl
    obtain ⟨updated, hupdated⟩ := hfaithful.update_keeps hfind data
    have hread' : read D entityName id (D.findOneAndUpdate entityName id data k).2 =
        .ok updated := by simp [read, hobject, hupdated]
    set s := ((Tracked.begun k).recordUpdate entityName id old).withStore
      (D.findOneAndUpdate entityName id data k).2
    have hlog' : (update D entityName id old s).2.undoLog = s.undoLog := hlog
    rw [update_found rfl hobject hread', Tracked.undoLog_withStore, Tracked.recordUpdate,
      Tracked.undoLog_record rfl] at hlog'
    simp at hlog'

/-- A `remove` that deletes a document is not taken back: its undo notes the insertion. -/
theorem remove_idle_of_restores (hfaithful : D.Faithful) {k : κ}
    (h : (calls D).Restores k (remove D entityName id (.begun k)).2) :
    RemoveIdle D entityName id k := by
  rcases read_cases D entityName id k with ⟨hmissing, -⟩ | ⟨old, hobject, hfind, hread⟩
  · exact Or.inl hmissing
  · cases hdeleted : Tracked.deletedId old with
    | error e => exact Or.inr ⟨old, e, hfind, hdeleted⟩
    | ok deleted =>
        exfalso
        rw [remove_found rfl hobject (by exact hread) hdeleted] at h
        obtain ⟨hlog, hback⟩ := h.undo_singleton _ (show _ = [UndoOp.undoDelete entityName deleted old] from rfl) rfl
        set s := ((Tracked.begun k).record (.undoDelete entityName deleted old)).withStore
          (D.deleteOne entityName id k).2
        have hlog' : (create D entityName old s).2.undoLog = s.undoLog := hlog
        have hback' : (create D entityName old s).2.store = k := hback
        rcases hinsert : D.insertOne entityName old s.store with ⟨e | answer, k'⟩
        · obtain rfl := hfaithful.insert_refused hinsert
          have hrun : (create D entityName old s).2 = s.withStore s.store := by
            rw [create, hinsert]
          rw [hrun] at hback'
          exact hfaithful.delete_changes hfind hback'
        · rw [create_deleted hfaithful rfl (hfaithful.found_isObject hfind) hdeleted hinsert,
            Tracked.recordCreate, Tracked.undoLog_record rfl] at hlog'
          simp at hlog'

/-- **A call that is not idle is not taken back**, whatever the collections held before. -/
theorem idle_of_restores (hfaithful : D.Faithful) {k : κ} {call : TxCall}
    (h : (calls D).Restores k ((calls D).perform (.begun k) call)) : Idle D k call := by
  cases call with
  | create entityName data => exact create_idle_of_restores hfaithful h
  | update entityName id data => exact update_idle_of_restores hfaithful h
  | remove entityName id => exact remove_idle_of_restores hfaithful h
  | upsert entityName uniqueField uniqueValue createData updateData =>
      rw [perform_upsert] at h
      exact ((calls D).restores_of_undoLog_nil rfl rfl).1 h
  | createMany entityName records =>
      rw [perform_createMany] at h
      exact ((calls D).restores_of_undoLog_nil rfl rfl).1 h
  | updateMany entityName filter data =>
      rw [perform_updateMany] at h
      exact ((calls D).restores_of_undoLog_nil rfl rfl).1 h
  | deleteMany entityName filter =>
      rw [perform_deleteMany] at h
      exact ((calls D).restores_of_undoLog_nil rfl rfl).1 h

end MongoDBAdapter

end Adapters
end Dbal
