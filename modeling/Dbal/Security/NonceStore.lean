/-
# Nonces

The store of nonces in `src/security/nonce/`.  `checkAndStore` cleans up first, if the last
cleanup is long enough ago, and accepts a nonce that is not stored.  Each of the three
functions reads the steady clock for itself, in nanoseconds since its epoch.
-/

import Dbal.Store.Recall
import Dbal.Store.UniqueIndex
import Mathlib.Algebra.Order.Group.Int
import Mathlib.Algebra.Order.Ring.Int

namespace Dbal
namespace Security

/-- The nanoseconds of `std::chrono::seconds(n)`. -/
def nanoseconds (n : Int) : Int := n * 1000000000

/-- `NonceStorage`. -/
structure NonceStorage where
  nonces : Std.TreeMap String Int := {}
  lastCleanup : Int := 0
  expirySeconds : Int := 300
  cleanupIntervalSeconds : Int := 60

/-- `nonce_check_and_store`. -/
def nonceCheckAndStore (storage : NonceStorage) (now : Int) (nonce : String) : Bool × NonceStorage :=
  match storage.nonces[nonce]? with
  | some _ => (false, storage)
  | none => (true, { storage with nonces := storage.nonces.insert nonce now })

/-- `nonce_cleanup`. -/
def nonceCleanup (storage : NonceStorage) (now : Int) : NonceStorage :=
  let cutoff := now - nanoseconds storage.expirySeconds
  { storage with
    nonces := storage.nonces.filter fun _ time => !decide (time < cutoff)
    lastCleanup := now }

/-- `nonce_maybe_cleanup`, with the two readings of the clock. -/
def nonceMaybeCleanup (storage : NonceStorage) (now cleanupNow : Int) : NonceStorage :=
  let elapsed := (now - storage.lastCleanup).tdiv (nanoseconds 1)
  if elapsed ≥ storage.cleanupIntervalSeconds then nonceCleanup storage cleanupNow else storage

/-! ### Calls -/

/-- The calls of a `NonceStore`, each with the readings of the clock that it may make. -/
inductive NonceCall where
  | checkAndStore (nonce : String) (now cleanupNow storeNow : Int)
  | cleanup (now : Int)

/-- The readings in the order in which they are made. -/
def NonceCall.readings : NonceCall → List Int
  | .checkAndStore _ now cleanupNow storeNow => [now, cleanupNow, storeNow]
  | .cleanup now => [now]

/-- `NonceStore::check_and_store`. -/
def checkAndStore (storage : NonceStorage) (nonce : String) (now cleanupNow storeNow : Int) :
    Bool × NonceStorage :=
  nonceCheckAndStore (nonceMaybeCleanup storage now cleanupNow) storeNow nonce

/-- A new `NonceStore`. -/
def newNonceStore (expirySeconds cleanupIntervalSeconds : Int) : NonceStorage :=
  { expirySeconds, cleanupIntervalSeconds }

/-- The calls one after the other, and which nonces were presented, when, and with which answer. -/
def runNonceCalls (storage : NonceStorage) :
    List NonceCall → List (Recall.Presentation String Int)
  | [] => []
  | .checkAndStore nonce now cleanupNow storeNow :: calls =>
      let (accepted, storage) := checkAndStore storage nonce now cleanupNow storeNow
      ⟨nonce, storeNow, accepted⟩ :: runNonceCalls storage calls
  | .cleanup now :: calls => runNonceCalls (nonceCleanup storage now) calls

/-! ### The storage as a memory -/

namespace NonceStorage

variable {storage : NonceStorage} {clock now cleanupNow lasts : Int}
  {presented : List (Recall.Presentation String Int)}

/-- When each nonce was stored. -/
def memory (storage : NonceStorage) : String → Option Int := (storage.nonces[·]?)

/-- **A cleanup forgets only what is older than the expiry.** -/
theorem forgets_cleanup (storage : NonceStorage) (now : Int) :
    Recall.Forgets (nanoseconds storage.expirySeconds) now storage.memory
      (nonceCleanup storage now).memory := by
  intro nonce
  have hfilter : (nonceCleanup storage now).memory nonce = storage.nonces[nonce]?.filter
      fun time => !decide (time < now - nanoseconds storage.expirySeconds) :=
    Std.TreeMap.getElem?_filter'
  rw [hfilter]
  rcases hnonce : storage.nonces[nonce]? with _ | time
  · exact .inl hnonce.symm
  by_cases hold : time < now - nanoseconds storage.expirySeconds
  · refine .inr ⟨?_, fun time' htime' => ?_⟩
    · rw [Option.filter_some, if_neg]
      simpa only [Bool.not_eq_true', decide_eq_false_iff_not, not_not] using hold
    obtain rfl := Option.some.inj (hnonce.symm.trans htime')
    omega
  · exact .inl (by simp [memory, hnonce, hold])

/-- A presented nonce is stored if it is not there. -/
theorem checkAndStore_eq (storage : NonceStorage) (now : Int) (nonce : String) :
    (nonceCheckAndStore storage now nonce).1 = (storage.memory nonce).isNone ∧
      (nonceCheckAndStore storage now nonce).2.memory =
        Recall.store storage.memory nonce now := by
  rcases hnonce : storage.nonces[nonce]? with _ | time
  · refine ⟨by simp [nonceCheckAndStore, memory, hnonce], funext fun k => ?_⟩
    simp [nonceCheckAndStore, memory, hnonce, Recall.store, getElem?_insert_eq, eq_comm]
  · refine ⟨by simp [nonceCheckAndStore, memory, hnonce], funext fun k => ?_⟩
    simp [nonceCheckAndStore, memory, hnonce, Recall.store]

/-- A cleanup by the way, between a reading of the clock and the next but one. -/
theorem run_maybeCleanup (now : Int) {later : Int}
    (hrun : Recall.Run (nanoseconds storage.expirySeconds) clock storage.memory presented)
    (hcleanup : clock ≤ cleanupNow) (hlater : cleanupNow ≤ later) :
    Recall.Run (nanoseconds storage.expirySeconds) later
      (nonceMaybeCleanup storage now cleanupNow).memory presented := by
  unfold nonceMaybeCleanup
  dsimp only
  split_ifs
  · exact ((hrun.wait hcleanup).forget (forgets_cleanup storage cleanupNow)).wait hlater
  · exact hrun.wait (hcleanup.trans hlater)

@[simp] theorem cleanup_expirySeconds (storage : NonceStorage) (now : Int) :
    (nonceCleanup storage now).expirySeconds = storage.expirySeconds := rfl

@[simp] theorem maybeCleanup_expirySeconds (storage : NonceStorage) (now cleanupNow : Int) :
    (nonceMaybeCleanup storage now cleanupNow).expirySeconds = storage.expirySeconds := by
  unfold nonceMaybeCleanup
  dsimp only
  split_ifs <;> rfl

@[simp] theorem nonceCheckAndStore_expirySeconds (storage : NonceStorage) (now : Int)
    (nonce : String) :
    (nonceCheckAndStore storage now nonce).2.expirySeconds = storage.expirySeconds := by
  unfold nonceCheckAndStore
  split <;> rfl

/-- **The calls are a run of a memory that lasts for the expiry.** -/
theorem run_calls (storage : NonceStorage) {calls : List NonceCall}
    (hrun : Recall.Run (nanoseconds storage.expirySeconds) clock storage.memory presented)
    (hclock : (clock :: calls.flatMap NonceCall.readings).Pairwise (· ≤ ·)) :
    ∃ clock' memory', Recall.Run (nanoseconds storage.expirySeconds) clock' memory'
      (presented ++ runNonceCalls storage calls) := by
  induction calls generalizing storage clock presented with
  | nil =>
      refine ⟨clock, storage.memory, ?_⟩
      rwa [runNonceCalls, List.append_nil]
  | cons call calls ih =>
      cases call with
      | cleanup now =>
          obtain ⟨hfirst, hclock⟩ := List.pairwise_cons.1 hclock
          have hnow : clock ≤ now := hfirst now (by simp [NonceCall.readings])
          exact ih (nonceCleanup storage now)
            ((hrun.wait hnow).forget (forgets_cleanup storage now)) hclock
      | checkAndStore nonce now cleanupNow storeNow =>
          obtain ⟨hfirst, hclock⟩ := List.pairwise_cons.1 hclock
          obtain ⟨-, hclock⟩ := List.pairwise_cons.1 hclock
          obtain ⟨hsecond, hclock⟩ := List.pairwise_cons.1 hclock
          have hcleanup : clock ≤ cleanupNow := hfirst cleanupNow (by simp [NonceCall.readings])
          have hstore : cleanupNow ≤ storeNow := hsecond storeNow (List.mem_cons_self ..)
          have hpresent := (run_maybeCleanup now hrun hcleanup hstore).present nonce
          obtain ⟨haccepted, hmemory⟩ :=
            checkAndStore_eq (nonceMaybeCleanup storage now cleanupNow) storeNow nonce
          rw [← haccepted, ← hmemory] at hpresent
          have htail := ih (checkAndStore storage nonce now cleanupNow storeNow).2
            (by simpa [checkAndStore] using hpresent) hclock
          simpa [runNonceCalls, checkAndStore] using htail

end NonceStorage

/-- **No nonce is accepted twice within its lifetime, and a new one is always accepted.** -/
theorem nonces_not_replayed (expirySeconds cleanupIntervalSeconds : Int) (calls : List NonceCall)
    (hclock : (calls.flatMap NonceCall.readings).Pairwise (· ≤ ·)) :
    let presented := runNonceCalls (newNonceStore expirySeconds cleanupIntervalSeconds) calls
    presented.Pairwise (fun first second =>
      first.fresh = true → second.fresh = true → first.key = second.key →
        nanoseconds expirySeconds < second.time - first.time) ∧
    ∀ before p after, presented = before ++ p :: after → (∀ q ∈ before, q.key ≠ p.key) →
      p.fresh = true := by
  intro presented
  obtain ⟨clock, hclock⟩ : ∃ clock : Int,
      (clock :: calls.flatMap NonceCall.readings).Pairwise (· ≤ ·) := by
    rcases hreadings : calls.flatMap NonceCall.readings with _ | ⟨first, readings⟩
    · exact ⟨0, List.pairwise_singleton _ _⟩
    · rw [hreadings] at hclock
      exact ⟨first, List.pairwise_cons.2
        ⟨List.forall_mem_cons.2 ⟨le_rfl, (List.pairwise_cons.1 hclock).1⟩, hclock⟩⟩
  have hstart : (newNonceStore expirySeconds cleanupIntervalSeconds).memory = fun _ => none :=
    funext fun nonce => by simp [NonceStorage.memory, newNonceStore]
  obtain ⟨clock', memory, hrun⟩ := NonceStorage.run_calls
    (newNonceStore expirySeconds cleanupIntervalSeconds)
    (by rw [hstart]; exact .start clock) hclock
  rw [List.nil_append] at hrun
  exact ⟨hrun.spaced, fun before p after hsplit hfirst => hrun.fresh_of_first hsplit hfirst⟩

/-- A nonce presented again a second later, and once more after its minute and a cleanup. -/
theorem nonces_not_replayed_three_calls :
    (runNonceCalls (newNonceStore 60 10)
      [.checkAndStore "n" 0 0 0, .checkAndStore "n" (nanoseconds 1) (nanoseconds 1) (nanoseconds 1),
        .checkAndStore "n" (nanoseconds 61) (nanoseconds 61) (nanoseconds 61)]).Pairwise fun first second =>
      first.fresh = true → second.fresh = true → first.key = second.key →
        nanoseconds 60 < second.time - first.time :=
  (nonces_not_replayed 60 10 _ (by decide)).1

end Security
end Dbal
