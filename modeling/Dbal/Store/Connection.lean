/-
# A connection to a database with transactions

A connection sees the tables that are committed or, within a transaction, its own copy of them;
every other connection sees what is committed.  Requests that control a transaction begin, keep or
drop the copy.  All others are carried out on what the connection sees, and outside a transaction
each of them commits by itself.
-/

import Dbal.Store.Dialogue

namespace Dbal

/-- What a request does to the transaction of its connection. -/
inductive Control where
  | begin | commit | rollback
  deriving DecidableEq, Repr

/-- The tables `τ` of a database as one connection sees them. -/
structure Connection (τ : Type) where
  /-- What other connections see. -/
  committed : τ
  /-- What the connection has within a transaction. -/
  pending : Option τ := none

namespace Connection

variable {ι ο τ α : Type}

/-- What the connection sees. -/
def own (s : Connection τ) : τ := s.pending.getD s.committed

@[simp] theorem own_none (t : τ) : (Connection.mk t none).own = t := rfl

@[simp] theorem own_some (t p : τ) : (Connection.mk t (some p)).own = p := rfl

/-- The transaction begins or ends. -/
def control (s : Connection τ) : Control → Connection τ
  | .begin => { s with pending := some s.own }
  | .commit => ⟨s.own, none⟩
  | .rollback => ⟨s.committed, none⟩

/-- The tables after a request. -/
def store (s : Connection τ) (t : τ) : Connection τ :=
  if s.pending.isSome then { s with pending := some t } else { s with committed := t }

/-- A database behind a connection: what it does with its tables, and which requests control a
transaction. -/
def exec (data : ι → τ → ο × τ) (controls : ι → Option Control) (done : ο) (request : ι)
    (s : Connection τ) : ο × Connection τ :=
  match controls request with
  | some c => (done, s.control c)
  | none => ((data request s.own).1, s.store (data request s.own).2)

variable {data : ι → τ → ο × τ} {controls : ι → Option Control} {done : ο}

/-- **Without a request that begins a transaction, everything commits at once.** -/
theorem run_autocommit {program : Dialogue ι ο α}
    (hplain : program.Sends fun request => controls request = none) (t : τ) :
    program.run (exec data controls done) ⟨t, none⟩ =
      ((program.run data t).1, ⟨(program.run data t).2, none⟩) := by
  have hexec : ∀ request t, controls request = none →
      exec data controls done request ⟨t, none⟩ = ((data request t).1, ⟨(data request t).2, none⟩) :=
    fun request t h => by simp [exec, h, store]
  exact Dialogue.run_simulates (Connection.mk · none) hexec hplain t

/-- **Within a transaction of the database, nothing of a program is seen by others.** -/
theorem run_pending {program : Dialogue ι ο α}
    (hplain : program.Sends fun request => controls request = none) (t p : τ) :
    program.run (exec data controls done) ⟨t, some p⟩ =
      ((program.run data p).1, ⟨t, some (program.run data p).2⟩) := by
  have hexec : ∀ request p, controls request = none →
      exec data controls done request ⟨t, some p⟩ =
        ((data request p).1, ⟨t, some (data request p).2⟩) :=
    fun request p h => by simp [exec, h, store]
  exact Dialogue.run_simulates (fun p => Connection.mk t (some p)) hexec hplain p

end Connection
end Dbal
