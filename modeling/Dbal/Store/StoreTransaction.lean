/-
# Transactions of the in-memory store

`beginTransaction`, `commitTransaction` and `rollbackTransaction` of
`src/store/in_memory_store.hpp`.  The snapshot is a second store, filled and read back by
`copyTo`, one collection at a time.

The store's own entity operations do not touch the snapshot; a rollback after any of them
restores everything, and a commit keeps what they have done.
-/

import Dbal.Entities.EntityRuns

namespace Dbal

/-- `copyTo`: what `target` is afterwards. -/
def InMemoryStore.copyTo (source target : InMemoryStore) : InMemoryStore :=
  { target with
    users := source.users
    pages := source.pages
    workflows := source.workflows
    sessions := source.sessions
    packages := source.packages
    credentials := source.credentials
    pagePaths := source.pagePaths
    workflowNames := source.workflowNames
    sessionTokens := source.sessionTokens
    packageKeys := source.packageKeys
    userCounter := source.userCounter
    pageCounter := source.pageCounter
    workflowCounter := source.workflowCounter
    sessionCounter := source.sessionCounter
    packageCounter := source.packageCounter
    credentialCounter := source.credentialCounter
    components := source.components
    componentsByPage := source.componentsByPage
    componentsByParent := source.componentsByParent
    componentCounter := source.componentCounter }

/-- Nothing of the target is left: the copy has every collection and every counter. -/
@[simp] theorem InMemoryStore.copyTo_eq (source target : InMemoryStore) :
    source.copyTo target = source := rfl

/-- The store with its snapshot. -/
structure TransactionalStore where
  store : InMemoryStore
  snapshot : Option InMemoryStore := none
  transactionActive : Bool := false

namespace TransactionalStore

/-- `beginTransaction`. -/
def beginTransaction (s : TransactionalStore) : Bool × TransactionalStore :=
  if s.transactionActive then (false, s)
  else (true, { s with snapshot := some (s.store.copyTo {}), transactionActive := true })

/-- `commitTransaction`. -/
def commitTransaction (s : TransactionalStore) : Bool × TransactionalStore :=
  if !s.transactionActive then (false, s)
  else (true, { s with snapshot := none, transactionActive := false })

/-- `rollbackTransaction`. -/
def rollbackTransaction (s : TransactionalStore) : Bool × TransactionalStore :=
  if !s.transactionActive then (false, s)
  else
    match s.snapshot with
    | none => (false, s)
    | some snapshot =>
        (true, { s with
          store := snapshot.copyTo s.store
          snapshot := none
          transactionActive := false })

/-- One entity operation. -/
def exec (fuel : Nat) (s : TransactionalStore) (op : EntityOp) :
    Option (Result Unit × TransactionalStore) :=
  (op.exec fuel s.store).map fun (r, store) => (r, { s with store })

/-- A finite sequence of entity operations. -/
def runOps (fuel : Nat) : TransactionalStore → List EntityOp → Option TransactionalStore
  | s, [] => some s
  | s, op :: ops =>
      match exec fuel s op with
      | none => none
      | some (_, s') => runOps fuel s' ops

/-- The stores at the ends of runs, with transactions. -/
inductive Reachable : TransactionalStore → Prop where
  | start (users : Std.TreeMap String User) : Reachable { store := { users } }
  | op {s s' : TransactionalStore} {fuel : Nat} {op : EntityOp} {r : Result Unit} :
      Reachable s → exec fuel s op = some (r, s') → Reachable s'
  | begin {s : TransactionalStore} : Reachable s → Reachable s.beginTransaction.2
  | commit {s : TransactionalStore} : Reachable s → Reachable s.commitTransaction.2
  | rollback {s : TransactionalStore} : Reachable s → Reachable s.rollbackTransaction.2

variable {s s' : TransactionalStore} {fuel : Nat} {ops : List EntityOp}

/-- There is a snapshot exactly while a transaction is active. -/
def SnapshotWhenActive (s : TransactionalStore) : Prop := s.snapshot.isSome = s.transactionActive

theorem snapshotWhenActive_of_reachable (h : Reachable s) : s.SnapshotWhenActive := by
  induction h with
  | start users => rfl
  | op _ hrun ih =>
      obtain ⟨p, -, heq⟩ := Option.map_eq_some_iff.1 hrun
      obtain ⟨-, rfl⟩ := Prod.mk.inj heq
      exact ih
  | begin _ ih =>
      unfold beginTransaction
      split_ifs
      · exact ih
      · rfl
  | commit _ ih =>
      unfold commitTransaction
      split_ifs
      · exact ih
      · rfl
  | rollback _ ih =>
      unfold rollbackTransaction
      split_ifs
      · exact ih
      · split
        · exact ih
        · rfl

/-- Entity operations leave the snapshot alone; on the store they are the operations alone. -/
theorem runOps_eq (hrun : runOps fuel s ops = some s') :
    ∃ store, EntityOp.runOps fuel s.store ops = some store ∧ s' = { s with store } := by
  induction ops generalizing s with
  | nil =>
      obtain rfl := Option.some.inj hrun
      exact ⟨s.store, rfl, rfl⟩
  | cons op ops ih =>
      rw [runOps, exec] at hrun
      rcases hop : op.exec fuel s.store with _ | ⟨r, store⟩
      · simp [hop] at hrun
      · simp only [hop, Option.map_some] at hrun
        obtain ⟨store', hops, hs'⟩ := ih hrun
        refine ⟨store', ?_, hs'⟩
        rw [EntityOp.runOps, hop]
        exact hops

theorem runOps_of_ops {store : InMemoryStore} (hops : EntityOp.runOps fuel s.store ops = some store) :
    runOps fuel s ops = some { s with store } := by
  induction ops generalizing s with
  | nil =>
      obtain rfl := Option.some.inj hops
      rfl
  | cons op ops ih =>
      rw [EntityOp.runOps] at hops
      rcases hop : op.exec fuel s.store with _ | ⟨r, store'⟩
      · simp [hop] at hops
      · simp only [hop] at hops
        rw [runOps, exec, hop]
        exact ih hops

theorem snapshot_eq_none (hreach : Reachable s) (hclosed : s.transactionActive = false) :
    s.snapshot = none := by
  have hsome := snapshotWhenActive_of_reachable hreach
  rw [SnapshotWhenActive, hclosed] at hsome
  simpa using hsome

/-- The snapshot of a begun transaction is the store, whatever the operations have made of it. -/
theorem rollback_begun (hreach : Reachable s) (hclosed : s.transactionActive = false)
    (store : InMemoryStore) :
    rollbackTransaction { s.beginTransaction.2 with store } = (true, s) := by
  have hnone := snapshot_eq_none hreach hclosed
  rcases s with ⟨store₀, snapshot, active⟩
  dsimp only at hnone hclosed
  subst hnone hclosed
  rfl

theorem commit_begun (hreach : Reachable s) (hclosed : s.transactionActive = false)
    (store : InMemoryStore) :
    commitTransaction { s.beginTransaction.2 with store } = (true, { s with store }) := by
  have hnone := snapshot_eq_none hreach hclosed
  rcases s with ⟨store₀, snapshot, active⟩
  dsimp only at hnone hclosed
  subst hnone hclosed
  rfl

/-- **Transactions restore everything.**  In a reachable store without a transaction: after a
beginning and any operations, a rollback brings the store of the beginning back, with every
collection, index and counter, and a commit leaves what the operations alone would have made
of it.  A beginning inside a transaction, and a commit or a rollback outside of one, are
refused and change nothing. -/
theorem transaction_restores (hreach : Reachable s) :
    (s.transactionActive = false →
      s.beginTransaction.1 = true ∧
      (∀ fuel ops s', runOps fuel s.beginTransaction.2 ops = some s' →
        s'.rollbackTransaction = (true, s) ∧
          ∃ store, EntityOp.runOps fuel s.store ops = some store ∧
            s'.commitTransaction = (true, { s with store })) ∧
      (∀ fuel ops store, EntityOp.runOps fuel s.store ops = some store →
        ∃ s', runOps fuel s.beginTransaction.2 ops = some s') ∧
      s.commitTransaction = (false, s) ∧ s.rollbackTransaction = (false, s)) ∧
    (s.transactionActive = true → s.beginTransaction = (false, s)) := by
  have hstore : s.beginTransaction.2.store = s.store := by
    unfold beginTransaction
    split_ifs <;> rfl
  constructor
  · intro hclosed
    refine ⟨by simp [beginTransaction, hclosed], ?_, ?_, by simp [commitTransaction, hclosed],
      by simp [rollbackTransaction, hclosed]⟩
    · intro fuel ops s' hrun
      obtain ⟨store, hops, rfl⟩ := runOps_eq hrun
      rw [hstore] at hops
      exact ⟨rollback_begun hreach hclosed store, store, hops, commit_begun hreach hclosed store⟩
    · intro fuel ops store hops
      rw [← hstore] at hops
      exact ⟨_, runOps_of_ops hops⟩
  · intro hopen
    simp [beginTransaction, hopen]

/-- Installing a package in a transaction that is rolled back. -/
theorem transaction_restores_install :
    let core : CreatePackageInput := { packageId := "core", version := "1.0.0", enabled := true }
    let begun := (beginTransaction { store := { users := ∅ } }).2
    let installed := { begun with store := (Package.create begun.store 0 core).2 }
    installed.rollbackTransaction = (true, { store := { users := ∅ } }) := by
  intro core begun installed
  have hrun : runOps 0 begun [.createPackage 0 core] = some installed := rfl
  exact (((transaction_restores (.start ∅)).1 rfl).2.1 0 _ installed hrun).1

end TransactionalStore
end Dbal
