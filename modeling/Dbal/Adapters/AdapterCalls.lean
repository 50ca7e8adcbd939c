/-
# The calls of an adapter, one after the other

What a client can ask of an adapter, as data, so that two adapters can be held against each other
over a whole run.  From the answer of a call follows which records it may have changed: its
`scope`.  A decorator knows no more of a write than that.
-/

import Dbal.Adapters.Adapter
import Dbal.Store.FaultyCalls

namespace Dbal

/-- A call of an `Adapter`. -/
inductive AdapterCall where
  | create (entityName : String) (data : Json)
  | read (entityName id : String)
  | update (entityName id : String) (data : Json)
  | remove (entityName id : String)
  | list (entityName : String) (options : ListOptions)
  | search (entityName query : String) (limit : Int)
  | createMany (entityName : String) (records : List Json)
  | updateMany (entityName : String) (filter data : Json)
  | deleteMany (entityName : String) (filter : Json)
  | upsert (entityName uniqueField : String) (uniqueValue createData updateData : Json)
  | beginTransaction
  | commitTransaction
  | rollbackTransaction

/-- How a call ends. -/
inductive AdapterAnswer where
  | record (result : Result Json)
  | flag (result : Result Bool)
  | listed (result : Result ListResult)
  | count (result : Result Int)
  | thrown (error : Thrown)

/-- The end of a computation whose value is wrapped. -/
def answered {σ α : Type} (wrap : α → AdapterAnswer) (run : Except Thrown α × σ) :
    AdapterAnswer × σ :=
  match run with
  | (.ok a, s) => (wrap a, s)
  | (.error e, s) => (.thrown e, s)

namespace Adapter

variable {σ : Type} (A : Adapter σ)

/-- A call. -/
def perform (call : AdapterCall) (s : σ) : AdapterAnswer × σ :=
  match call with
  | .create entityName data => answered .record (A.create entityName data s)
  | .read entityName id => answered .record (A.read entityName id s)
  | .update entityName id data => answered .record (A.update entityName id data s)
  | .remove entityName id => answered .flag (A.remove entityName id s)
  | .list entityName options => answered .listed (A.list entityName options s)
  | .search entityName query limit => answered .listed (A.search entityName query limit s)
  | .createMany entityName records => answered .count (A.createMany entityName records s)
  | .updateMany entityName filter data => answered .count (A.updateMany entityName filter data s)
  | .deleteMany entityName filter => answered .count (A.deleteMany entityName filter s)
  | .upsert entityName uniqueField uniqueValue createData updateData =>
      answered .record (A.upsert entityName uniqueField uniqueValue createData updateData s)
  | .beginTransaction => answered .flag (A.beginTransaction s)
  | .commitTransaction => answered .flag (A.commitTransaction s)
  | .rollbackTransaction => answered .flag (A.rollbackTransaction s)

/-- Calls, one after the other. -/
def performAll : List AdapterCall → σ → List AdapterAnswer × σ
  | [], s => ([], s)
  | call :: calls, s =>
      let rest := performAll calls (A.perform call s).2
      ((A.perform call s).1 :: rest.1, rest.2)

end Adapter

/-- `idFromRecord`: a number of 64 bits is printed. -/
def idFromRecord (record : Json) : String :=
  match record.find? "id" with
  | some (.str id) => id
  | some (.int i) => toString (i.bmod (2 ^ 64))
  | some (.uint n) => toString ((n : Int).bmod (2 ^ 64))
  | _ => ""

/-! ### What a call may have changed -/

/-- The records that a write may have changed. -/
inductive Scope where
  | nothing
  | record (entityName id : String)
  | entity (entityName : String)
  | everything
  deriving DecidableEq, Repr

/-- One record; without an id there is none. -/
def Scope.ofRecord (entityName id : String) : Scope :=
  if id = "" then .nothing else .record entityName id

def Scope.Covers : Scope → String → String → Prop
  | .nothing, _, _ => False
  | .record entityName id, entityName', id' => entityName = entityName' ∧ id = id'
  | .entity entityName, entityName', _ => entityName = entityName'
  | .everything, _, _ => True

namespace AdapterCall

/-- The entity of a call; those of a transaction have none. -/
def entityName : AdapterCall → String
  | create entityName _ | read entityName _ | update entityName _ _ | remove entityName _
  | list entityName _ | search entityName _ _ | createMany entityName _
  | updateMany entityName _ _ | deleteMany entityName _ | upsert entityName _ _ _ _ => entityName
  | beginTransaction | commitTransaction | rollbackTransaction => ""

/-- A write of one record that answers with the record. -/
def WritesRecord : AdapterCall → Prop
  | create _ _ | update _ _ _ | upsert _ _ _ _ _ => True
  | _ => False

/-- A call that is about one record, or changes nothing. -/
def IsSingle : AdapterCall → Prop
  | createMany _ _ | updateMany _ _ _ | deleteMany _ _ | rollbackTransaction => False
  | _ => True

/-- What a call that ended in this way may have changed. -/
def scope : AdapterCall → AdapterAnswer → Scope
  | create entityName _, .record (.ok stored) => .ofRecord entityName (idFromRecord stored)
  | update entityName id _, .record (.ok _) => .ofRecord entityName id
  | remove entityName id, .flag (.ok _) => .ofRecord entityName id
  | upsert entityName _ _ _ _, .record (.ok stored) => .ofRecord entityName (idFromRecord stored)
  | createMany entityName _, .count (.ok _) => .entity entityName
  | updateMany entityName _ _, .count (.ok _) => .entity entityName
  | deleteMany entityName _, .count (.ok _) => .entity entityName
  | rollbackTransaction, _ => .everything
  | _, _ => .nothing

end AdapterCall

theorem Scope.covers_ofRecord {entityName id entityName' id' : String} :
    (Scope.ofRecord entityName id).Covers entityName' id' ↔
      id ≠ "" ∧ entityName = entityName' ∧ id = id' := by
  unfold ofRecord
  split_ifs with hid <;> simp [Covers, hid]

theorem Adapter.performAll_append {σ : Type} (A : Adapter σ) (calls calls' : List AdapterCall)
    (s : σ) :
    (A.performAll (calls ++ calls') s).2 = (A.performAll calls' (A.performAll calls s).2).2 := by
  induction calls generalizing s with
  | nil => rfl
  | cons call calls ih => exact ih (A.perform call s).2

theorem answered_snd {σ α : Type} (wrap : α → AdapterAnswer) (run : Except Thrown α × σ) :
    (answered wrap run).2 = run.2 := by
  rcases run with ⟨_ | _, s⟩ <;> rfl

theorem answered_fst {σ α : Type} (wrap : α → AdapterAnswer) {run : Except Thrown α × σ} {a : α}
    (h : run.1 = .ok a) : (answered wrap run).1 = wrap a := by
  obtain ⟨_, s⟩ := run
  obtain rfl : _ = Except.ok a := h
  rfl

theorem answered_record {σ : Type} {run : Except Thrown (Result Json) × σ} {result : Result Json} :
    (answered .record run).1 = .record result ↔ run.1 = .ok result := by
  rcases run with ⟨_ | _, s⟩ <;> simp [answered]

/-! ### Calls that are handed on -/

section HandedOn

variable {σ τ α : Type}

/-- What an adapter answers by itself, and the state that it goes to. -/
structure HandedOn (direct : AdapterAnswer × σ) (run : AdapterAnswer × Decorated σ τ) : Prop where
  answer : run.1 = direct.1
  inner : run.2.inner = direct.2

theorem handedOn_delegate {δ : Type} (wrap : Result α → AdapterAnswer)
    (call : Act Thrown σ (Result α)) (after : α → Act δ τ Unit) (s : Decorated σ τ) :
    HandedOn (answered wrap (call s.inner)) (answered wrap (Decorated.delegate call after s)) := by
  obtain ⟨hanswer, hinner⟩ := Decorated.delegate_inner call after s
  rcases hcall : call s.inner with ⟨e | r, s'⟩ <;>
    rcases hrun : Decorated.delegate call after s with ⟨e' | r', s''⟩ <;>
    simp only [hcall, hrun, Except.error.injEq, Except.ok.injEq, reduceCtorEq] at hanswer hinner
  all_goals
    subst hanswer hinner
    exact ⟨rfl, rfl⟩

theorem handedOn_onInner (wrap : α → AdapterAnswer) (call : Act Thrown σ α) (s : Decorated σ τ) :
    HandedOn (answered wrap (call s.inner)) (answered wrap (Decorated.onInner call s)) := by
  unfold Decorated.onInner
  rcases call s.inner with ⟨e | a, s'⟩ <;> exact ⟨rfl, rfl⟩

end HandedOn

/-- An adapter that keeps records under their ids, in the states that are `Valid` and as far as the
calls `Made` go: a read answers with the record and changes nothing, and a record that is there stays
the same outside of the scope of a call. -/
structure Keyed {σ : Type} (A : Adapter σ) (Made : AdapterCall → Prop) where
  Valid : σ → Prop
  record : σ → String → String → Result Json
  valid : ∀ {call s}, Made call → Valid s → Valid (A.perform call s).2
  read_eq : ∀ {s entityName id}, Made (.read entityName id) → Valid s →
    A.read entityName id s = (.ok (record s entityName id), s)
  keeps : ∀ {call s entityName id found}, Made call → Valid s → Made (.read entityName id) →
    ¬ (call.scope (A.perform call s).1).Covers entityName id →
    record s entityName id = .ok found → record (A.perform call s).2 entityName id = .ok found

theorem Keyed.valid_performAll {σ : Type} {A : Adapter σ} {Made : AdapterCall → Prop}
    (keyed : Keyed A Made) {calls : List AdapterCall} {s : σ} (hvalid : keyed.Valid s)
    (hmade : ∀ call ∈ calls, Made call) : keyed.Valid (A.performAll calls s).2 := by
  induction calls generalizing s with
  | nil => exact hvalid
  | cons call calls ih =>
      exact ih (keyed.valid (hmade call List.mem_cons_self) hvalid)
        fun call' hcall => hmade call' (List.mem_cons_of_mem call hcall)

/-- The same, of fewer calls. -/
def Keyed.mono {σ : Type} {A : Adapter σ} {Made Made' : AdapterCall → Prop} (keyed : Keyed A Made)
    (h : ∀ {call}, Made' call → Made call) : Keyed A Made' where
  Valid := keyed.Valid
  record := keyed.record
  valid := fun hmade => keyed.valid (h hmade)
  read_eq := fun hmade => keyed.read_eq (h hmade)
  keeps := fun hmade hvalid hread => keyed.keeps (h hmade) hvalid (h hread)

/-- What single calls do to the records: an answer is the record as it is stored, what was removed is
gone, and nothing else changes. -/
structure Mirrorable {σ : Type} {inner : Adapter σ} {Made : AdapterCall → Prop}
    (keyed : Keyed inner Made) : Prop where
  others : ∀ {call s entityName id}, Made call → call.IsSingle → keyed.Valid s →
    Made (.read entityName id) → ¬ (call.scope (inner.perform call s).1).Covers entityName id →
    (keyed.record (inner.perform call s).2 entityName id).toOption =
      (keyed.record s entityName id).toOption
  stored : ∀ {call s record}, Made call → call.WritesRecord → keyed.Valid s →
    (inner.perform call s).1 = .record (.ok record) →
    call.scope (.record (.ok record)) = .record call.entityName (idFromRecord record) ∧
      idFromRecord record ≠ "" ∧ Made (.read call.entityName (idFromRecord record)) ∧
      keyed.record (inner.perform call s).2 call.entityName (idFromRecord record) = .ok record
  removed : ∀ {entityName id s b}, Made (.remove entityName id) → keyed.Valid s →
    (inner.perform (.remove entityName id) s).1 = .flag (.ok b) →
    id ≠ "" ∧ Made (.read entityName id) ∧
      (keyed.record (inner.perform (.remove entityName id) s).2 entityName id).toOption = none

end Dbal
