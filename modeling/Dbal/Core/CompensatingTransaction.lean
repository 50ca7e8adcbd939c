/-
# Compensating transactions

`src/core/compensating_transaction.cpp`: an adapter whose store has no transactions writes down
what would undo each of its writes, and a rollback does these things, the last first.  It does them
through the adapter's own calls while the transaction is still active.

The store stands beside the transaction in a `Tracked` state; an adapter is given by its calls on
such states.
-/

import Dbal.Adapters.Adapter

namespace Dbal
namespace Core

/-- `UndoOp`, with its `UndoType`. -/
inductive UndoOp where
  | undoCreate (entityName id : String)
  | undoUpdate (entityName id : String) (data : Json)
  | undoDelete (entityName id : String) (data : Json)

/-- `CompensatingTransaction`. -/
structure CompensatingTransaction where
  undoLog : List UndoOp := []
  active : Bool := true

/-- The store of an adapter and its `compensating_tx_`. -/
structure Tracked (κ : Type) where
  store : κ
  compensatingTx : Option CompensatingTransaction := none

namespace Tracked

variable {κ : Type}

/-- `compensating_tx_ && compensating_tx_->isActive()`. -/
def isRecording (s : Tracked κ) : Bool :=
  match s.compensatingTx with
  | some tx => tx.active
  | none => false

/-- The entries of the undo log. -/
def undoLog (s : Tracked κ) : List UndoOp :=
  match s.compensatingTx with
  | some tx => tx.undoLog
  | none => []

/-- A new entry at the end of the undo log, while a transaction is active. -/
def record (op : UndoOp) (s : Tracked κ) : Tracked κ :=
  match s.compensatingTx with
  | some tx =>
      if tx.active then { s with compensatingTx := some { tx with undoLog := tx.undoLog ++ [op] } }
      else s
  | none => s

/-- `recordCreate`. -/
def recordCreate (entityName id : String) : Tracked κ → Tracked κ :=
  record (.undoCreate entityName id)

/-- `recordUpdate`. -/
def recordUpdate (entityName id : String) (previousData : Json) : Tracked κ → Tracked κ :=
  record (.undoUpdate entityName id previousData)

/-- The id that `recordDelete` takes from the record. -/
def deletedId (previousData : Json) : Except JsonError String :=
  match previousData.find? "id" with
  | some id => id.getString
  | none => .ok ""

/-- `recordDelete`. -/
def recordDelete (entityName : String) (previousData : Json) (s : Tracked κ) :
    Except Thrown (Tracked κ) :=
  match deletedId previousData with
  | .error e => .error (.json e)
  | .ok id => .ok (s.record (.undoDelete entityName id previousData))

/-- The store alone is written to. -/
def withStore (s : Tracked κ) (store : κ) : Tracked κ := { s with store := store }

/-- A transaction has begun on the store. -/
def begun (store : κ) : Tracked κ := ⟨store, some {}⟩

@[simp] theorem store_record (op : UndoOp) (s : Tracked κ) : (s.record op).store = s.store := by
  unfold record
  split
  · split <;> rfl
  · rfl

@[simp] theorem isRecording_record (op : UndoOp) (s : Tracked κ) :
    (s.record op).isRecording = s.isRecording := by
  rcases s with ⟨store, _ | tx⟩
  · rfl
  · cases hactive : tx.active <;> simp [record, isRecording, hactive]

theorem undoLog_record {s : Tracked κ} (h : s.isRecording = true) (op : UndoOp) :
    (s.record op).undoLog = s.undoLog ++ [op] := by
  unfold isRecording at h
  split at h
  · next tx htx => simp [record, undoLog, htx, h]
  · cases h

@[simp] theorem store_withStore (s : Tracked κ) (store : κ) : (s.withStore store).store = store := rfl

@[simp] theorem isRecording_withStore (s : Tracked κ) (store : κ) :
    (s.withStore store).isRecording = s.isRecording := rfl

@[simp] theorem undoLog_withStore (s : Tracked κ) (store : κ) :
    (s.withStore store).undoLog = s.undoLog := rfl

@[simp] theorem withStore_self (s : Tracked κ) : s.withStore s.store = s := rfl

@[simp] theorem store_begun (store : κ) : (begun store).store = store := rfl

@[simp] theorem isRecording_begun (store : κ) : (begun store).isRecording = true := rfl

@[simp] theorem undoLog_begun (store : κ) : (begun store).undoLog = [] := rfl

end Tracked

/-- The writing calls of an adapter with a `CompensatingTransaction`. -/
structure CompensatedAdapter (κ : Type) where
  create : String → Json → Act Thrown (Tracked κ) (Result Json)
  update : String → String → Json → Act Thrown (Tracked κ) (Result Json)
  remove : String → String → Act Thrown (Tracked κ) (Result Bool)
  upsert : String → String → Json → Json → Json → Act Thrown (Tracked κ) (Result Json)
  createMany : String → List Json → Act Thrown (Tracked κ) (Result Int)
  updateMany : String → Json → Json → Act Thrown (Tracked κ) (Result Int)
  deleteMany : String → Json → Act Thrown (Tracked κ) (Result Int)

/-- A call that writes. -/
inductive TxCall where
  | create (entityName : String) (data : Json)
  | update (entityName id : String) (data : Json)
  | remove (entityName id : String)
  | upsert (entityName uniqueField : String) (uniqueValue createData updateData : Json)
  | createMany (entityName : String) (records : List Json)
  | updateMany (entityName : String) (filter data : Json)
  | deleteMany (entityName : String) (filter : Json)

namespace CompensatedAdapter

variable {κ : Type} (A : CompensatedAdapter κ)

/-- The state after a call, whether it returns or throws. -/
def perform (s : Tracked κ) : TxCall → Tracked κ
  | .create entityName data => (A.create entityName data s).2
  | .update entityName id data => (A.update entityName id data s).2
  | .remove entityName id => (A.remove entityName id s).2
  | .upsert entityName uniqueField uniqueValue createData updateData =>
      (A.upsert entityName uniqueField uniqueValue createData updateData s).2
  | .createMany entityName records => (A.createMany entityName records s).2
  | .updateMany entityName filter data => (A.updateMany entityName filter data s).2
  | .deleteMany entityName filter => (A.deleteMany entityName filter s).2

/-- Calls, one after the other. -/
def performAll (s : Tracked κ) (calls : List TxCall) : Tracked κ := calls.foldl A.perform s

/-- A result that is ok. -/
def succeeded {α : Type} (run : Except Thrown (Result α) × Tracked κ) :
    Except Thrown Bool × Tracked κ :=
  (run.1.map fun result => match result with | .ok _ => true | .error _ => false, run.2)

/-- What `rollback` does for an entry, and whether it succeeds. -/
def undo (op : UndoOp) (s : Tracked κ) : Except Thrown Bool × Tracked κ :=
  match op with
  | .undoCreate entityName id => succeeded (A.remove entityName id s)
  | .undoUpdate entityName id data => succeeded (A.update entityName id data s)
  | .undoDelete entityName _ data => succeeded (A.create entityName data s)

/-- The loop of `rollback`, over the entries that the log has at its start; what the iterators of
the source refer to after the log has grown is not defined.  It returns what was done. -/
def undoAll : List UndoOp → Tracked κ → Except Thrown (List (UndoOp × Bool)) × Tracked κ
  | [], s => (.ok [], s)
  | op :: ops, s =>
      match A.undo op s with
      | (.error e, s') => (.error e, s')
      | (.ok done, s') =>
          ((undoAll ops s').1.map fun performed => (op, done) :: performed, (undoAll ops s').2)

/-- `CompensatingTransaction::rollback`, for a transaction that is active. -/
def rollback (s : Tracked κ) : Except Thrown (Result Bool) × Tracked κ :=
  match A.undoAll s.undoLog.reverse s with
  | (.error e, s') => (.error e, s')
  | (.ok performed, s') =>
      let errors := performed.countP fun op => !op.2
      (.ok (if 0 < errors then
          .error (.internal ("CompensatingTransaction: " ++ toString errors ++
            " rollback operations failed"))
        else .ok true),
        { s' with compensatingTx := some { undoLog := [], active := false } })

/-- `beginTransaction`. -/
def beginTransaction (s : Tracked κ) : Result Bool × Tracked κ :=
  if s.isRecording then (.error (.internal "Transaction already in progress"), s)
  else (.ok true, { s with compensatingTx := some {} })

/-- `commitTransaction`. -/
def commitTransaction (s : Tracked κ) : Result Bool × Tracked κ :=
  if s.isRecording then (.ok true, { s with compensatingTx := none })
  else (.error (.internal "No transaction in progress"), s)

/-- `rollbackTransaction`. -/
def rollbackTransaction (s : Tracked κ) : Except Thrown (Result Bool) × Tracked κ :=
  if s.isRecording then
    match A.rollback s with
    | (.error e, s') => (.error e, s')
    | (.ok result, s') => (.ok result, { s' with compensatingTx := none })
  else (.ok (.error (.internal "No transaction in progress")), s)

/-! ### Rolling back -/

/-- **The store comes back**: the entries of the log are undone one by one, the last first, the log
is what it was when the last of them is done, and the store is the given one. -/
structure Restores (store : κ) (s : Tracked κ) : Prop where
  undone : ∃ performed after, A.undoAll s.undoLog.reverse s = (.ok performed, after) ∧
    performed.map Prod.fst = s.undoLog.reverse ∧ after.undoLog = s.undoLog
  store_eq : (A.rollbackTransaction s).2 = ⟨store, none⟩

/-- Every call of the run meets the condition in the store that it finds. -/
def StepsMeet (condition : κ → TxCall → Prop) : Tracked κ → List TxCall → Prop
  | _, [] => True
  | s, call :: calls => condition s.store call ∧ StepsMeet condition (A.perform s call) calls

theorem restores_begun (store : κ) : A.Restores store (.begun store) where
  undone := ⟨[], .begun store, rfl, rfl, rfl⟩
  store_eq := rfl

/-- Calls that leave the state alone leave nothing to undo. -/
theorem restores_of_steps {condition : κ → TxCall → Prop}
    (hcondition : ∀ store call, condition store call →
      A.perform (.begun store) call = .begun store)
    {store : κ} {calls : List TxCall} (h : A.StepsMeet condition (.begun store) calls) :
    A.Restores store (A.performAll (.begun store) calls) := by
  induction calls with
  | nil => exact A.restores_begun store
  | cons call calls ih =>
      obtain ⟨hcall, hcalls⟩ := h
      have hstep := hcondition store call hcall
      rw [hstep] at hcalls
      rw [performAll, List.foldl_cons, hstep]
      exact ih hcalls

/-- A state that comes from another by calls of the adapter: the transaction is still active, and
the log has at most grown. -/
structure Later (s s' : Tracked κ) : Prop where
  isRecording : s.isRecording = true → s'.isRecording = true
  undoLog : s.isRecording = true → s.undoLog <+: s'.undoLog

theorem Later.refl (s : Tracked κ) : Later s s := ⟨id, fun _ => List.prefix_refl _⟩

theorem Later.trans {s s' s'' : Tracked κ} (h : Later s s') (h' : Later s' s'') : Later s s'' where
  isRecording := fun hs => h'.isRecording (h.isRecording hs)
  undoLog := fun hs => (h.undoLog hs).trans (h'.undoLog (h.isRecording hs))

theorem Later.record (op : UndoOp) (s : Tracked κ) : Later s (s.record op) where
  isRecording := fun hs => by rwa [Tracked.isRecording_record]
  undoLog := fun hs => by
    rw [Tracked.undoLog_record hs]
    exact List.prefix_append _ _

theorem Later.withStore (s : Tracked κ) (store : κ) : Later s (s.withStore store) :=
  ⟨id, fun _ => List.prefix_refl _⟩

theorem undoAll_later (hlater : ∀ op s, Later s (A.undo op s).2) (ops : List UndoOp)
    (s : Tracked κ) : Later s (A.undoAll ops s).2 := by
  induction ops generalizing s with
  | nil => exact .refl s
  | cons op ops ih =>
      have hfirst := hlater op s
      unfold undoAll
      rcases hrun : A.undo op s with ⟨e | done, s'⟩ <;> rw [hrun] at hfirst
      · exact hfirst
      · exact hfirst.trans (ih s')

/-- **An undo that records**: where undoing the last entry adds to the log, or throws, the rollback
does not do what it should. -/
theorem not_restores_of_undo (hlater : ∀ op s, Later s (A.undo op s).2) {store : κ} {s : Tracked κ}
    (hrecording : s.isRecording = true) {log : List UndoOp} {op : UndoOp}
    (hlog : s.undoLog = log ++ [op])
    (hundo : ∀ done s', A.undo op s = (.ok done, s') → s.undoLog.length < s'.undoLog.length) :
    ¬ A.Restores store s := by
  intro h
  obtain ⟨performed, after, hall, -, hsame⟩ := h.undone
  rw [hlog, List.reverse_append, List.reverse_singleton, List.singleton_append, undoAll] at hall
  have hfirst := hlater op s
  rcases hrun : A.undo op s with ⟨e | done, s'⟩
  · rw [hrun] at hall
    cases hall
  · rw [hrun] at hall hfirst
    have hgrown := hundo done s' hrun
    have hrest := (A.undoAll_later hlater log.reverse s').undoLog (hfirst.isRecording hrecording)
    rw [show (A.undoAll log.reverse s').2 = after from congrArg Prod.snd hall, hsame] at hrest
    have hle := hrest.length_le
    omega

/-- With one entry in the log, undoing it leaves the log, and the given store. -/
theorem Restores.undo_singleton {store : κ} {s : Tracked κ} (h : A.Restores store s)
    {op : UndoOp} (hlog : s.undoLog = [op]) (hrecording : s.isRecording = true) :
    (A.undo op s).2.undoLog = s.undoLog ∧ (A.undo op s).2.store = store := by
  obtain ⟨performed, after, hall, -, hsame⟩ := h.undone
  have hback := congrArg Tracked.store h.store_eq
  rw [rollbackTransaction, if_pos hrecording, rollback, hall] at hback
  rw [hlog, List.reverse_singleton, undoAll] at hall
  rcases hrun : A.undo op s with ⟨e | done, s'⟩
  · rw [hrun] at hall
    cases hall
  · rw [hrun] at hall
    obtain rfl : s' = after := congrArg Prod.snd hall
    exact ⟨hsame, hback⟩

/-- With an empty log the store stays as it is. -/
theorem restores_of_undoLog_nil {store : κ} {s : Tracked κ} (hrecording : s.isRecording = true)
    (hlog : s.undoLog = []) : A.Restores store s ↔ s.store = store := by
  have hall : A.undoAll s.undoLog.reverse s = (.ok [], s) := by rw [hlog]; rfl
  have hback : (A.rollbackTransaction s).2 = ⟨s.store, none⟩ := by
    simp [rollbackTransaction, rollback, hrecording, hall]
  constructor
  · intro h
    have heq := hback.symm.trans h.store_eq
    exact congrArg Tracked.store heq
  · rintro rfl
    exact ⟨⟨[], s, hall, by rw [hlog]; rfl, rfl⟩, hback⟩

end CompensatedAdapter

end Core
end Dbal
