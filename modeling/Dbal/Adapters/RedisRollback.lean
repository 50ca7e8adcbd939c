/-
# Rolling back on Redis

What a call of the Redis adapter leaves for the rollback, for every kind of call and every previous
content of its keys.  A call that neither writes nor notes anything is taken back; no other call is,
because the rollback goes through `create`, `update` and `remove`, and these note their own writes
in the log that is being undone.
-/

import Std.Data.String.ToInt
import Dbal.Adapters.RedisAdapter

namespace Dbal
namespace Adapters

open Dbal.Core RedisKeyBuilder

namespace RedisAdapter

variable (A : RedisAdapter)

/-! ### Calls that do nothing -/

/-- `create` stops before it writes: there is no schema, the id is no text, or the data is no record
and the counter no number. -/
def CreateIdle (entityName : String) (data : Json) (k : Keyspace) : Prop :=
  A.schemas entityName = none ∨ (∃ e, newId entityName data k = (.error e, k)) ∨
    ((newId entityName data k).2 = k ∧ ∃ e, data.assign "id" .null = .error e)

/-- `update` finds no record. -/
def UpdateIdle (entityName id : String) (k : Keyspace) : Prop :=
  ∀ old, A.read entityName id k ≠ .ok old

/-- The record that `remove` finds has an id that is no text. -/
def RemoveThrows (entityName id : String) (k : Keyspace) : Prop :=
  ∃ old e, A.read entityName id k = .ok old ∧ Tracked.deletedId old = .error e

/-- `remove` finds nothing under the key, or a record whose id is no text. -/
def RemoveIdle (entityName id : String) (k : Keyspace) : Prop :=
  k (makeKey entityName id) = none ∨ A.RemoveThrows entityName id k

/-- The loop over a list does nothing: every call up to the first that stops it is idle. -/
def ItemsIdle (idle stops : String → Prop) : List Json → Prop
  | [] => True
  | record :: records =>
      ∀ id, recordId record = .ok id → idle id ∧ (stops id ∨ ItemsIdle idle stops records)

/-- `upsert` goes on to an idle call, or stops before. -/
def UpsertIdle (entityName : String) (createData : Json) (k : Keyspace) :
    Except Thrown (Result Json) → Prop
  | .error _ => True
  | .ok (.error _) => A.CreateIdle entityName createData k
  | .ok (.ok record) => ∀ id, recordId record = .ok id → A.UpdateIdle entityName id k

/-- The call writes nothing and notes nothing. -/
def Idle (k : Keyspace) : TxCall → Prop
  | .create entityName data => A.CreateIdle entityName data k
  | .update entityName id _ => A.UpdateIdle entityName id k
  | .remove entityName id => A.RemoveIdle entityName id k
  | .upsert entityName uniqueField uniqueValue createData _ =>
      A.UpsertIdle entityName createData k (A.findByField entityName uniqueField uniqueValue k)
  | .createMany entityName records => ∀ record ∈ records.head?, A.CreateIdle entityName record k
  | .updateMany entityName filter _ =>
      ∀ found, A.list entityName (A.dumpedFilter filter) k = .ok found →
        ItemsIdle (A.UpdateIdle entityName · k) (fun _ => False) found.items
  | .deleteMany entityName filter =>
      ∀ found, A.list entityName (A.dumpedFilter filter) k = .ok found →
        ItemsIdle (A.RemoveIdle entityName · k) (A.RemoveThrows entityName · k) found.items

variable {A} {entityName id : String} {data : Json} {s : Tracked Keyspace}

theorem assign_error_iff {key : String} {value value' : Json} {e : JsonError} :
    data.assign key value = .error e ↔ data.assign key value' = .error e := by
  cases data <;> simp [Json.assign]

/-- An idle `create` leaves the state, and does it as well once more or throws. -/
theorem create_idle (h : A.CreateIdle entityName data s.store) :
    (A.create entityName data s).2 = s ∧
      ((∃ e, (A.create entityName data s).1 = .error e) ∨ A.schemas entityName = none) := by
  unfold create
  split
  · next hschema => exact ⟨rfl, Or.inr (by simpa using hschema)⟩
  · next hschema =>
      rcases h with hnone | ⟨e, hid⟩ | ⟨hsame, e, hassign⟩
      · rw [hnone] at hschema
        exact absurd rfl hschema
      · rw [hid]
        exact ⟨rfl, Or.inl ⟨_, rfl⟩⟩
      · rcases hid : newId entityName data s.store with ⟨e' | id, k⟩
        · rw [hid] at hsame
          obtain rfl : k = s.store := hsame
          exact ⟨rfl, Or.inl ⟨_, rfl⟩⟩
        · rw [hid] at hsame
          obtain rfl : k = s.store := hsame
          dsimp only
          rw [assign_error_iff.1 hassign]
          exact ⟨rfl, Or.inl ⟨_, rfl⟩⟩

theorem update_idle (data : Json) (h : A.UpdateIdle entityName id s.store) :
    ∃ e, A.update entityName id data s = (.ok (.error e), s) := by
  unfold update
  cases hread : A.read entityName id s.store with
  | error e => exact ⟨e, rfl⟩
  | ok old => exact absurd hread (h old)

theorem get_eq_ok_none {k : Keyspace} {key : String} (h : k key = none) : k.get key = .ok none := by
  simp [Keyspace.get, h]

/-- What can be read stands under its key. -/
theorem read_ok {k : Keyspace} {old : Json} (h : A.read entityName id k = .ok old) :
    ∃ value, k (makeKey entityName id) = some (.string value) ∧ A.schemas entityName ≠ none := by
  unfold read at h
  split at h
  · cases h
  · next hschema =>
      cases hkey : k (makeKey entityName id) with
      | none => simp [get_eq_ok_none hkey] at h
      | some value =>
          cases value with
          | string value => exact ⟨value, rfl, by simpa using hschema⟩
          | set members => simp [Keyspace.get, hkey] at h

theorem remove_throws (hrecording : s.isRecording = true)
    (h : A.RemoveThrows entityName id s.store) :
    ∃ e, A.remove entityName id s = (.error e, s) := by
  obtain ⟨old, e, hread, hid⟩ := h
  refine ⟨.json e, ?_⟩
  simp [remove, noteDeleted, hrecording, hread, Tracked.recordDelete, hid]

theorem remove_absent (h : s.store (makeKey entityName id) = none) :
    A.remove entityName id s = (.ok (.error (recordMissing entityName id)), s) := by
  have hread : ∀ old, A.read entityName id s.store ≠ .ok old := by
    intro old hread
    obtain ⟨value, hvalue, -⟩ := read_ok hread
    rw [h] at hvalue
    cases hvalue
  have hnoted : A.noteDeleted entityName id s = .ok s := by
    unfold noteDeleted
    split
    · split
      · next old hold => exact absurd hold (hread old)
      · rfl
    · rfl
  simp [remove, hnoted, Keyspace.del, h]

theorem remove_idle (hrecording : s.isRecording = true) (h : A.RemoveIdle entityName id s.store) :
    (∃ result, A.remove entityName id s = (result, s)) ∧
      (¬ A.RemoveThrows entityName id s.store →
        ∃ e, A.remove entityName id s = (.ok (.error e), s)) := by
  rcases h with habsent | hthrows
  · exact ⟨⟨_, remove_absent habsent⟩, fun _ => ⟨_, remove_absent habsent⟩⟩
  · obtain ⟨e, hrun⟩ := remove_throws hrecording hthrows
    exact ⟨⟨_, hrun⟩, fun hnot => absurd hthrows hnot⟩

theorem forEach_idle {α : Type} {call : String → Act Thrown (Tracked Keyspace) (Result α)}
    {idle stops : String → Prop} {records : List Json}
    (hidle : ∀ id, idle id → (∃ result, call id s = (result, s)) ∧
      (stops id → ∃ e, call id s = (.error e, s)) ∧
      (¬ stops id → ∃ e, call id s = (.ok (.error e), s)))
    (h : ItemsIdle idle stops records) (count : Int) : (forEach call records count s).2 = s := by
  induction records generalizing count with
  | nil => rfl
  | cons record records ih =>
      unfold forEach
      cases hrecord : recordId record with
      | error e => rfl
      | ok id =>
          obtain ⟨hcall, hrest⟩ := h id hrecord
          obtain ⟨-, hstops, hgoes⟩ := hidle id hcall
          by_cases hstop : stops id
          · obtain ⟨e, hrun⟩ := hstops hstop
            simp [hrun]
          · obtain ⟨e, hrun⟩ := hgoes hstop
            simp only [hrun]
            exact ih (hrest.resolve_left hstop) count

theorem createMany_noSchema (h : A.schemas entityName = none) (records : List Json) (count : Int) :
    (A.createMany entityName records count s).2 = s := by
  induction records generalizing count with
  | nil => rfl
  | cons record records ih =>
      have hcreate : A.create entityName record s = (.ok (.error (schemaMissing entityName)), s) := by
        simp [create, h]
      simp only [createMany, hcreate]
      exact ih count

/-- **Idle calls leave the state as it is.** -/
theorem perform_idle {call : TxCall} (hrecording : s.isRecording = true)
    (h : A.Idle s.store call) : A.calls.perform s call = s := by
  cases call with
  | create entityName data => exact (create_idle h).1
  | update entityName id data =>
      obtain ⟨e, hrun⟩ := update_idle data h
      exact congrArg Prod.snd hrun
  | remove entityName id =>
      obtain ⟨⟨result, hrun⟩, -⟩ := remove_idle hrecording h
      exact congrArg Prod.snd hrun
  | upsert entityName uniqueField uniqueValue createData updateData =>
      show (A.upsert entityName uniqueField uniqueValue createData updateData s).2 = s
      unfold upsert
      simp only [Idle] at h
      generalize A.findByField entityName uniqueField uniqueValue s.store = found at h ⊢
      rcases found with e | e | record
      · rfl
      · exact (create_idle h).1
      · dsimp only
        cases hrecord : recordId record with
        | error e => rfl
        | ok id =>
            obtain ⟨e, hrun⟩ := update_idle updateData (h id hrecord)
            exact congrArg Prod.snd hrun
  | createMany entityName records =>
      show (A.createMany entityName records 0 s).2 = s
      cases records with
      | nil => rfl
      | cons record records =>
          obtain ⟨hsame, ⟨e, hthrows⟩ | hnone⟩ := create_idle (h record rfl)
          · have hrun : A.create entityName record s = (.error e, s) := Prod.ext hthrows hsame
            simp [createMany, hrun]
          · exact createMany_noSchema hnone _ 0
  | updateMany entityName filter data =>
      show (A.updateMany entityName filter data s).2 = s
      unfold updateMany
      cases hlist : A.list entityName (A.dumpedFilter filter) s.store with
      | error e => rfl
      | ok found =>
          refine forEach_idle (fun id hid => ?_) (h found hlist) 0
          obtain ⟨e, hrun⟩ := update_idle data hid
          exact ⟨⟨_, hrun⟩, nofun, fun _ => ⟨e, hrun⟩⟩
  | deleteMany entityName filter =>
      show (A.deleteMany entityName filter s).2 = s
      unfold deleteMany
      cases hlist : A.list entityName (A.dumpedFilter filter) s.store with
      | error e => rfl
      | ok found =>
          refine forEach_idle (fun id hid => ?_) (h found hlist) 0
          obtain ⟨hsame, hgoes⟩ := remove_idle hrecording hid
          exact ⟨hsame, remove_throws hrecording, hgoes⟩

/-! ### Calls that do something -/

/-- The three ways of a `create` that has a schema: the id is refused, the data is no record, or the
record is stored and noted. -/
theorem create_cases (hschema : A.schemas entityName ≠ none) :
    (∃ e, newId entityName data s.store = (.error e, s.store) ∧
        A.create entityName data s = (.error (.json e), s)) ∨
      (∃ id k e, newId entityName data s.store = (.ok id, k) ∧
        data.assign "id" (.str id) = .error e ∧
        A.create entityName data s = (.error (.json e), s.withStore k)) ∨
      ∃ id k record, newId entityName data s.store = (.ok id, k) ∧
        A.create entityName data s = (.ok (.ok record),
          (s.withStore (A.stored entityName id record k)).recordCreate entityName id) := by
  have hknown : ¬ (A.schemas entityName).isNone := by simpa using hschema
  rcases hid : newId entityName data s.store with ⟨e | id, k⟩
  · obtain rfl : k = s.store := by
      unfold newId at hid
      split at hid
      · split at hid
        · cases hid
        · exact (Prod.mk.inj hid).2.symm
      · cases hid
    refine Or.inl ⟨e, rfl, ?_⟩
    rw [create, if_neg hknown, hid]
    rfl
  · cases hassign : data.assign "id" (.str id) with
    | error e =>
        refine Or.inr (Or.inl ⟨id, k, e, rfl, hassign, ?_⟩)
        simp only [create, if_neg hknown, hid, hassign]
    | ok record =>
        refine Or.inr (Or.inr ⟨id, k, record, rfl, ?_⟩)
        simp only [create, if_neg hknown, hid, hassign]

theorem create_later : CompensatedAdapter.Later s (A.create entityName data s).2 := by
  by_cases hschema : A.schemas entityName = none
  · simpa [create, hschema] using CompensatedAdapter.Later.refl s
  · rcases create_cases hschema with ⟨e, -, hrun⟩ | ⟨id, k, e, -, -, hrun⟩ | ⟨id, k, record, -, hrun⟩
    · rw [hrun]
      exact .refl s
    · rw [hrun]
      exact .withStore s k
    · rw [hrun]
      exact (CompensatedAdapter.Later.withStore s _).trans (.record _ _)

theorem update_later : CompensatedAdapter.Later s (A.update entityName id data s).2 := by
  unfold update
  cases A.read entityName id s.store with
  | error e => exact .refl s
  | ok old =>
      dsimp only
      cases mergeInto old data with
      | error e => exact .record _ s
      | ok record => exact (CompensatedAdapter.Later.record _ s).trans (.withStore _ _)

theorem noteDeleted_later {noted : Tracked Keyspace} (h : A.noteDeleted entityName id s = .ok noted) :
    CompensatedAdapter.Later s noted := by
  unfold noteDeleted at h
  split at h
  · split at h
    · unfold Tracked.recordDelete at h
      split at h
      · cases h
      · cases h
        exact .record _ s
    · cases h
      exact .refl s
  · cases h
    exact .refl s

theorem remove_later : CompensatedAdapter.Later s (A.remove entityName id s).2 := by
  unfold remove
  cases hnoted : A.noteDeleted entityName id s with
  | error e => exact .refl s
  | ok noted =>
      have hlater := noteDeleted_later hnoted
      rcases s.store.del (makeKey entityName id) with ⟨_ | n, k⟩
      · exact hlater
      · exact hlater.trans (.withStore _ _)

theorem undo_later (op : UndoOp) : CompensatedAdapter.Later s (A.calls.undo op s).2 := by
  cases op with
  | undoCreate entityName id => exact remove_later
  | undoUpdate entityName id data => exact update_later
  | undoDelete entityName id data => exact create_later

/-- The JSON library reads back the texts that it writes, and numbers. -/
structure Parses (A : RedisAdapter) : Prop where
  dump : ∀ record, ∃ value, A.parse (A.dump record) = .ok value
  number : ∀ n : Int, ∃ value, A.parse (toString n) = .ok value

/-- The record can be read. -/
def Readable (A : RedisAdapter) (entityName id : String) (k : Keyspace) : Prop :=
  ∃ old, A.read entityName id k = .ok old

section Readable

variable {k : Keyspace}

theorem readable_of_string (hschema : A.schemas entityName ≠ none) {value : String}
    (hkey : k (makeKey entityName id) = some (.string value))
    (hparse : ∃ record, A.parse value = .ok record) : A.Readable entityName id k := by
  obtain ⟨record, hrecord⟩ := hparse
  refine ⟨record, ?_⟩
  simp [read, hschema, Keyspace.get, hkey, deserialize, hrecord, Except.mapError]

theorem Readable.schema (h : A.Readable entityName id k) : A.schemas entityName ≠ none := by
  obtain ⟨old, hread⟩ := h
  exact (read_ok hread).choose_spec.2

/-- A record stays readable when a text that can be read is written under any key. -/
theorem Readable.set (h : A.Readable entityName id k) {value : String}
    (hparse : ∃ record, A.parse value = .ok record) (key : String) :
    A.Readable entityName id (k.set key value) := by
  by_cases hkey : key = makeKey entityName id
  · subst hkey
    exact readable_of_string h.schema (Function.update_self _ _ _) hparse
  · obtain ⟨old, hread⟩ := h
    have hsame : (k.set key value) (makeKey entityName id) = k (makeKey entityName id) :=
      Function.update_of_ne (Ne.symm hkey) _ _
    refine ⟨old, ?_⟩
    rw [← hread]
    simp [read, Keyspace.get, hsame]

theorem incr_eq (key : String) :
    (k.incr key).2 = k ∨ ∃ n : Int, (k.incr key).2 = k.set key (toString n) := by
  unfold Keyspace.incr
  split
  · exact Or.inr ⟨1, rfl⟩
  · split
    · split
      · exact Or.inr ⟨_, rfl⟩
      · exact Or.inl rfl
    · exact Or.inl rfl
  · exact Or.inl rfl

theorem newId_eq (entityName : String) (data : Json) :
    (newId entityName data k).2 = k ∨ ∃ key, ∃ n : Int,
      (newId entityName data k).2 = k.set key (toString n) := by
  have hgenerate : (generateId entityName k).2 = (k.incr (makeCounterKey entityName)).2 := by
    unfold generateId
    split <;> next h => rw [h]
  have hincr := incr_eq (k := k) (makeCounterKey entityName)
  unfold newId
  split
  · split
    · rw [hgenerate]
      exact hincr.imp_right fun h => ⟨_, h⟩
    · exact Or.inl rfl
  · rw [hgenerate]
    exact hincr.imp_right fun h => ⟨_, h⟩

theorem Readable.newId (hparses : A.Parses) (h : A.Readable entityName id k) (entityName' : String)
    (data : Json) : A.Readable entityName id (newId entityName' data k).2 := by
  rcases newId_eq entityName' data with hsame | ⟨key, n, hset⟩
  · rwa [hsame]
  · rw [hset]
    exact h.set (hparses.number n) key

/-- A text stays where it is when a member is added under any key. -/
theorem sadd_of_string {key key' member value : String} (h : k key = some (.string value)) :
    (k.sadd key' member) key = some (.string value) := by
  unfold Keyspace.sadd
  by_cases hkey : key = key'
  · subst hkey
    simp [h]
  · rcases k key' with _ | ⟨_ | _⟩
    · simp [Function.update_of_ne hkey, h]
    · exact h
    · simp [Function.update_of_ne hkey, h]

theorem readable_stored (hparses : A.Parses) (hschema : A.schemas entityName ≠ none)
    (record : Json) : A.Readable entityName id (A.stored entityName id record k) := by
  refine readable_of_string hschema ?_ (hparses.dump record)
  have hset : (k.set (makeKey entityName id) (A.dump record)) (makeKey entityName id) =
      some (.string (A.dump record)) := Function.update_self _ _ _
  exact sadd_of_string hset

end Readable

/-- Undoing the entry goes to a record that is there. -/
def Live (A : RedisAdapter) (k : Keyspace) : UndoOp → Prop
  | .undoCreate entityName id | .undoUpdate entityName id _ => A.Readable entityName id k
  | .undoDelete entityName _ _ => A.schemas entityName ≠ none

/-- **Undoing a live entry notes a new one**, or throws. -/
theorem undo_grows (hrecording : s.isRecording = true) {op : UndoOp} (hlive : A.Live s.store op)
    {done : Bool} {s' : Tracked Keyspace} (hundo : A.calls.undo op s = (.ok done, s')) :
    s.undoLog.length < s'.undoLog.length := by
  have hgrown : ∀ op store, s.undoLog.length < ((s.withStore store).record op).undoLog.length := by
    intro op store
    rw [Tracked.undoLog_record (by exact hrecording), List.length_append]
    exact Nat.lt_add_one _
  cases op with
  | undoCreate entityName id =>
      obtain ⟨old, hread⟩ := hlive
      have hrun : (CompensatedAdapter.succeeded (A.remove entityName id s)) = (.ok done, s') := hundo
      unfold remove noteDeleted Tracked.recordDelete at hrun
      rw [if_pos hrecording, hread] at hrun
      dsimp only at hrun
      cases hid : Tracked.deletedId old with
      | error e =>
          rw [hid] at hrun
          cases hrun
      | ok deleted =>
          rw [hid] at hrun
          dsimp only at hrun
          split at hrun
          · obtain rfl := (Prod.mk.inj hrun).2
            exact hgrown _ _
          · obtain rfl := (Prod.mk.inj hrun).2
            exact hgrown _ _
  | undoUpdate entityName id data =>
      obtain ⟨old, hread⟩ := hlive
      have hrun : (CompensatedAdapter.succeeded (A.update entityName id data s)) =
          (.ok done, s') := hundo
      unfold update at hrun
      rw [hread] at hrun
      dsimp only at hrun
      cases hmerge : mergeInto old data with
      | error e =>
          rw [hmerge] at hrun
          cases hrun
      | ok record =>
          rw [hmerge] at hrun
          obtain rfl := (Prod.mk.inj hrun).2
          exact hgrown _ _
  | undoDelete entityName id data =>
      have hrun : (CompensatedAdapter.succeeded (A.create entityName data s)) = (.ok done, s') := hundo
      rcases create_cases hlive with ⟨e, -, hcreate⟩ | ⟨id, k, e, -, -, hcreate⟩ |
        ⟨id, k, record, -, hcreate⟩
      · rw [hcreate] at hrun
        cases hrun
      · rw [hcreate] at hrun
        cases hrun
      · rw [hcreate] at hrun
        obtain rfl := (Prod.mk.inj hrun).2
        exact hgrown _ _

/-! ### No other call is taken back -/

/-- The last entry of the log is live. -/
def EndsLive (A : RedisAdapter) (s : Tracked Keyspace) : Prop :=
  s.isRecording = true ∧ ∃ log op, s.undoLog = log ++ [op] ∧ A.Live s.store op

theorem EndsLive.not_restores (h : A.EndsLive s) (k : Keyspace) : ¬ A.calls.Restores k s := by
  obtain ⟨hrecording, log, op, hlog, hlive⟩ := h
  exact A.calls.not_restores_of_undo (fun op s => undo_later op) hrecording hlog
    fun done s' hundo => undo_grows hrecording hlive hundo

theorem Live.newId (hparses : A.Parses) {k : Keyspace} {op : UndoOp} (h : A.Live k op)
    (entityName : String) (data : Json) : A.Live (newId entityName data k).2 op := by
  cases op with
  | undoCreate _ _ => exact Readable.newId hparses h entityName data
  | undoUpdate _ _ _ => exact Readable.newId hparses h entityName data
  | undoDelete _ _ _ => exact h

/-- The entry of a record that was stored just now. -/
theorem endsLive_stored (hparses : A.Parses) (hschema : A.schemas entityName ≠ none)
    (hrecording : s.isRecording = true) (record : Json) (k : Keyspace) :
    A.EndsLive ((s.withStore (A.stored entityName id record k)).recordCreate entityName id) := by
  refine ⟨?_, s.undoLog, .undoCreate entityName id, ?_, ?_⟩
  · rwa [Tracked.recordCreate, Tracked.isRecording_record, Tracked.isRecording_withStore]
  · rw [Tracked.recordCreate, Tracked.undoLog_record (by exact hrecording),
      Tracked.undoLog_withStore]
  · rw [Tracked.recordCreate, Tracked.store_record, Tracked.store_withStore]
    exact readable_stored hparses hschema record

theorem create_endsLive (hparses : A.Parses) (h : A.EndsLive s) (entityName : String)
    (data : Json) : A.EndsLive (A.create entityName data s).2 := by
  by_cases hschema : A.schemas entityName = none
  · simpa [create, hschema] using h
  · rcases create_cases hschema with ⟨e, -, hrun⟩ | ⟨id, k, e, hid, -, hrun⟩ |
      ⟨id, k, record, -, hrun⟩
    · rwa [hrun]
    · rw [hrun]
      obtain ⟨hrecording, log, op, hlog, hlive⟩ := h
      refine ⟨hrecording, log, op, hlog, ?_⟩
      have hnew := hlive.newId hparses entityName data
      rwa [hid] at hnew
    · rw [hrun]
      exact endsLive_stored hparses hschema h.1 record k

theorem createMany_endsLive (hparses : A.Parses) (h : A.EndsLive s) (entityName : String)
    (records : List Json) (count : Int) :
    A.EndsLive (A.createMany entityName records count s).2 := by
  induction records generalizing s count with
  | nil => exact h
  | cons record records ih =>
      have hnext := create_endsLive hparses h entityName record
      unfold createMany
      rcases hrun : A.create entityName record s with ⟨e | e | created, s'⟩ <;> rw [hrun] at hnext
      · exact hnext
      · exact ih hnext count
      · exact ih hnext (count + 1)

/-- A `create` that is not idle ends with its own entry, or has thrown after it had counted up. -/
theorem create_not_idle (hparses : A.Parses) (hrecording : s.isRecording = true)
    (h : ¬ A.CreateIdle entityName data s.store) :
    A.EndsLive (A.create entityName data s).2 ∨
      ∃ e k, A.create entityName data s = (.error e, s.withStore k) ∧ k ≠ s.store := by
  simp only [CreateIdle, not_or, not_and, not_exists] at h
  obtain ⟨hschema, hid, hassign⟩ := h
  rcases create_cases hschema with ⟨e, hnew, -⟩ | ⟨id, k, e, hnew, he, hrun⟩ |
    ⟨id, k, record, -, hrun⟩
  · exact absurd hnew (hid e)
  · refine Or.inr ⟨_, k, hrun, fun hsame => ?_⟩
    rw [hnew] at hassign
    exact hassign hsame e (assign_error_iff.1 he)
  · rw [hrun]
    exact Or.inl (endsLive_stored hparses hschema hrecording record k)

/-- An `update` that finds its record ends with an entry for it. -/
theorem update_readable (hparses : A.Parses) (hrecording : s.isRecording = true)
    (h : A.Readable entityName id s.store) : A.EndsLive (A.update entityName id data s).2 := by
  obtain ⟨old, hread⟩ := h
  have hlog : (s.recordUpdate entityName id old).undoLog =
      s.undoLog ++ [.undoUpdate entityName id old] := Tracked.undoLog_record hrecording _
  have hrec : (s.recordUpdate entityName id old).isRecording = true := by
    rwa [Tracked.recordUpdate, Tracked.isRecording_record]
  unfold update
  rw [hread]
  dsimp only
  cases mergeInto old data with
  | error e =>
      refine ⟨hrec, _, _, hlog, ?_⟩
      rw [Tracked.recordUpdate, Tracked.store_record]
      exact ⟨old, hread⟩
  | ok record =>
      exact ⟨hrec, _, _, hlog, Readable.set ⟨old, hread⟩ (hparses.dump record) _⟩

theorem update_endsLive (hparses : A.Parses) (h : A.EndsLive s) (entityName id : String)
    (data : Json) : A.EndsLive (A.update entityName id data s).2 := by
  by_cases hread : A.Readable entityName id s.store
  · exact update_readable hparses h.1 hread
  · obtain ⟨e, hrun⟩ := update_idle data fun old hold => hread ⟨old, hold⟩
    rwa [hrun]

/-- The log ends with a deletion that can be undone, or it is empty and a key is gone. -/
def EndsDeleted (A : RedisAdapter) (k : Keyspace) (s : Tracked Keyspace) : Prop :=
  s.isRecording = true ∧
    ((∃ log entityName id data, s.undoLog = log ++ [.undoDelete entityName id data] ∧
        A.schemas entityName ≠ none) ∨
      (s.undoLog = [] ∧ ∃ key, k key ≠ none ∧ s.store key = none))

theorem EndsDeleted.not_restores {k : Keyspace} (h : A.EndsDeleted k s) :
    ¬ A.calls.Restores k s := by
  obtain ⟨hrecording, ⟨log, entityName, id, data, hlog, hschema⟩ | ⟨hlog, key, hkey, hgone⟩⟩ := h
  · exact EndsLive.not_restores ⟨hrecording, log, _, hlog, hschema⟩ k
  · rw [A.calls.restores_of_undoLog_nil hrecording hlog]
    rintro rfl
    exact hkey hgone

theorem srem_none {k : Keyspace} {key : String} (h : k key = none) (key' member : String) :
    (k.srem key' member) key = none := by
  unfold Keyspace.srem
  by_cases hkey : key = key'
  · subst hkey
    simp [h]
  · rcases k key' with _ | ⟨_ | _⟩
    · exact h
    · exact h
    · simp [Function.update_of_ne hkey, h]

/-- The ways of a `remove` that is not idle: it deletes what can be read and notes it, or what
cannot be read, without a note. -/
theorem remove_not_idle (hrecording : s.isRecording = true)
    (h : ¬ A.RemoveIdle entityName id s.store) :
    s.store (makeKey entityName id) ≠ none ∧
      (A.remove entityName id s).2.store =
        Keyspace.srem (Function.update s.store (makeKey entityName id) none)
          (makeSetKey entityName) id ∧
      (A.remove entityName id s).2.isRecording = true ∧
      ((A.schemas entityName ≠ none ∧ ∃ deleted old, (A.remove entityName id s).2.undoLog =
          s.undoLog ++ [.undoDelete entityName deleted old]) ∨
        (A.remove entityName id s).2.undoLog = s.undoLog) := by
  simp only [RemoveIdle, not_or] at h
  obtain ⟨hpresent, hthrows⟩ := h
  have hdel : s.store.del (makeKey entityName id) =
      (1, Function.update s.store (makeKey entityName id) none) := by
    cases hkey : s.store (makeKey entityName id) with
    | none => exact absurd hkey hpresent
    | some value => simp [Keyspace.del, hkey]
  refine ⟨hpresent, ?_⟩
  cases hread : A.read entityName id s.store with
  | error e =>
      have hnoted : A.noteDeleted entityName id s = .ok s := by
        simp [noteDeleted, hrecording, hread]
      simp only [remove, hnoted, hdel]
      exact ⟨rfl, hrecording, Or.inr rfl⟩
  | ok old =>
      cases hid : Tracked.deletedId old with
      | error e => exact absurd ⟨old, e, hread, hid⟩ hthrows
      | ok deleted =>
          have hnoted : A.noteDeleted entityName id s =
              .ok (s.record (.undoDelete entityName deleted old)) := by
            simp [noteDeleted, hrecording, hread, Tracked.recordDelete, hid]
          obtain ⟨-, -, hschema⟩ := read_ok hread
          simp only [remove, hnoted, hdel, Tracked.store_withStore, Tracked.isRecording_withStore,
            Tracked.undoLog_withStore, Tracked.isRecording_record]
          exact ⟨trivial, hrecording,
            Or.inl ⟨hschema, deleted, old, Tracked.undoLog_record hrecording _⟩⟩

theorem remove_endsDeleted {k : Keyspace} (h : A.EndsDeleted k s) (entityName id : String) :
    A.EndsDeleted k (A.remove entityName id s).2 := by
  by_cases hidle : A.RemoveIdle entityName id s.store
  · obtain ⟨⟨result, hrun⟩, -⟩ := remove_idle h.1 hidle
    rwa [hrun]
  · obtain ⟨-, hstore, hrec, ⟨hschema, deleted, old, hlog⟩ | hlog⟩ := remove_not_idle h.1 hidle
    · exact ⟨hrec, Or.inl ⟨_, _, _, _, hlog, hschema⟩⟩
    · obtain ⟨-, ⟨log, e, i, d, hlog', hschema⟩ | ⟨hlog', key, hkey, hgone⟩⟩ := h
      · exact ⟨hrec, Or.inl ⟨log, e, i, d, hlog.trans hlog', hschema⟩⟩
      · refine ⟨hrec, Or.inr ⟨hlog.trans hlog', key, hkey, ?_⟩⟩
        rw [hstore]
        refine srem_none ?_ _ _
        by_cases hsame : key = makeKey entityName id
        · subst hsame
          exact Function.update_self _ _ _
        · rwa [Function.update_of_ne hsame]

/-- A `remove` that is not idle, with an empty log. -/
theorem endsDeleted_remove {k : Keyspace} (h : ¬ A.RemoveIdle entityName id k) :
    A.EndsDeleted k (A.remove entityName id (.begun k)).2 := by
  obtain ⟨hpresent, hstore, hrec, hlog⟩ := remove_not_idle (Tracked.isRecording_begun k) h
  refine ⟨hrec, ?_⟩
  rcases hlog with ⟨hschema, deleted, old, hlog⟩ | hlog
  · exact Or.inl ⟨_, _, _, _, hlog, hschema⟩
  · refine Or.inr ⟨hlog, makeKey entityName id, hpresent, ?_⟩
    rw [hstore]
    exact srem_none (Function.update_self _ _ _) _ _

/-- What every call of a loop keeps, the loop keeps. -/
theorem forEach_keeps {α : Type} {call : String → Act Thrown (Tracked Keyspace) (Result α)}
    {P : Tracked Keyspace → Prop} (hstep : ∀ id s, P s → P (call id s).2) (records : List Json)
    (count : Int) (h : P s) : P (forEach call records count s).2 := by
  induction records generalizing s count with
  | nil => exact h
  | cons record records ih =>
      unfold forEach
      cases recordId record with
      | error e => exact h
      | ok id =>
          have hnext := hstep id s h
          dsimp only
          rcases hrun : call id s with ⟨e | e | result, s'⟩ <;> rw [hrun] at hnext
          · exact hnext
          · exact ih count hnext
          · exact ih (count + 1) hnext

/-- A loop that is not idle reaches a call that is not. -/
theorem forEach_not_idle {α : Type} {call : String → Act Thrown (Tracked Keyspace) (Result α)}
    {idle stops : String → Prop} {P : Tracked Keyspace → Prop} {records : List Json}
    (hgoes : ∀ id, idle id → ¬ stops id → ∃ e, call id s = (.ok (.error e), s))
    (hbreaks : ∀ id, ¬ idle id → P (call id s).2) (hstep : ∀ id s, P s → P (call id s).2)
    (h : ¬ ItemsIdle idle stops records) (count : Int) : P (forEach call records count s).2 := by
  induction records generalizing count with
  | nil => exact absurd trivial h
  | cons record records ih =>
      simp only [ItemsIdle, not_forall] at h
      obtain ⟨id, hrecord, hnot⟩ := h
      unfold forEach
      rw [hrecord]
      dsimp only
      by_cases hidle : idle id
      · simp only [hidle, true_and, not_or] at hnot
        obtain ⟨e, hrun⟩ := hgoes id hidle hnot.1
        rw [hrun]
        exact ih hnot.2 count
      · have hnext := hbreaks id hidle
        rcases hrun : call id s with ⟨e | e | result, s'⟩ <;> rw [hrun] at hnext
        · exact hnext
        · exact forEach_keeps hstep records count hnext
        · exact forEach_keeps hstep records (count + 1) hnext

/-- **A call that is not idle is not taken back**, whatever the keys held before. -/
theorem idle_of_restores (hparses : A.Parses) {k : Keyspace} {call : TxCall}
    (h : A.calls.Restores k (A.calls.perform (.begun k) call)) : A.Idle k call := by
  have hcreate : ∀ entityName data, A.calls.Restores k (A.create entityName data (.begun k)).2 →
      A.CreateIdle entityName data k := by
    intro entityName data hback
    by_contra hnot
    rcases create_not_idle hparses (Tracked.isRecording_begun k) hnot with hends | ⟨e, k', hrun, hne⟩
    · exact hends.not_restores k hback
    · rw [hrun] at hback
      exact hne ((A.calls.restores_of_undoLog_nil rfl rfl).1 hback)
  have hupdate : ∀ entityName id data,
      A.calls.Restores k (A.update entityName id data (.begun k)).2 →
      A.UpdateIdle entityName id k := by
    intro entityName id data hback old hold
    exact (update_readable hparses (Tracked.isRecording_begun k) ⟨old, hold⟩).not_restores k hback
  cases call with
  | create entityName data => exact hcreate entityName data h
  | update entityName id data => exact hupdate entityName id data h
  | remove entityName id =>
      by_contra hnot
      exact (endsDeleted_remove hnot).not_restores h
  | upsert entityName uniqueField uniqueValue createData updateData =>
      have hback : A.calls.Restores k
        (A.upsert entityName uniqueField uniqueValue createData updateData (.begun k)).2 := h
      unfold upsert at hback
      simp only [Tracked.store_begun] at hback
      show A.UpsertIdle entityName createData k _
      generalize A.findByField entityName uniqueField uniqueValue k = found at hback ⊢
      rcases found with e | e | record
      · trivial
      · exact hcreate entityName createData hback
      · intro id hrecord
        simp only [hrecord] at hback
        exact hupdate entityName id updateData hback
  | createMany entityName records =>
      intro record hrecord
      obtain ⟨more, rfl⟩ : ∃ more, records = record :: more := by
        cases records with
        | nil => cases hrecord
        | cons first more => exact ⟨more, by rw [Option.mem_def.1 hrecord |> Option.some.inj]⟩
      have hback : A.calls.Restores k (A.createMany entityName (record :: more) 0 (.begun k)).2 := h
      by_contra hnot
      unfold createMany at hback
      rcases create_not_idle hparses (Tracked.isRecording_begun k) hnot with hends |
        ⟨e, k', hrun, hne⟩
      · rcases hrun : A.create entityName record (.begun k) with ⟨e | e | created, s'⟩ <;>
          rw [hrun] at hends hback
        · exact hends.not_restores k hback
        · exact (createMany_endsLive hparses hends _ _ _).not_restores k hback
        · exact (createMany_endsLive hparses hends _ _ _).not_restores k hback
      · rw [hrun] at hback
        exact hne ((A.calls.restores_of_undoLog_nil rfl rfl).1 hback)
  | updateMany entityName filter data =>
      intro found hfound
      by_contra hnot
      have hback : A.calls.Restores k (A.updateMany entityName filter data (.begun k)).2 := h
      unfold updateMany at hback
      rw [Tracked.store_begun, hfound] at hback
      refine EndsLive.not_restores (forEach_not_idle (fun id hidle _ => ?_) (fun id hbreaks => ?_)
        (fun id s hs => ?_) hnot 0) k hback
      · exact update_idle (s := .begun k) data hidle
      · simp only [UpdateIdle, not_forall, not_not] at hbreaks
        exact update_readable hparses (Tracked.isRecording_begun k) hbreaks
      · exact update_endsLive hparses hs entityName id data
  | deleteMany entityName filter =>
      intro found hfound
      by_contra hnot
      have hback : A.calls.Restores k (A.deleteMany entityName filter (.begun k)).2 := h
      unfold deleteMany at hback
      rw [Tracked.store_begun, hfound] at hback
      refine EndsDeleted.not_restores (forEach_not_idle (fun id hidle hgoes => ?_)
        (fun id hbreaks => endsDeleted_remove hbreaks)
        (fun id s hs => remove_endsDeleted hs entityName id) hnot 0) hback
      exact (remove_idle (Tracked.isRecording_begun k) hidle).2 hgoes

end RedisAdapter

end Adapters
end Dbal
