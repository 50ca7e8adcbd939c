/-
# `CachingAdapter` under interleaving

`src/cache/caching_adapter.cpp`: a read looks into Redis, asks the wrapped adapter on a miss and
back-fills what it got; a write goes to the wrapped adapter and then drops the entry.  Between the
steps of one call those of others may come, and no step compares versions: a reader that got its
row before a write may back-fill it after the write's invalidation, and then nothing drops it.
This is the only way: a cache stays coherent exactly as long as every back-fill is of the row that
is stored, or comes before the invalidation of a write (`coherent_iff`).

The model is about one record: its row in the wrapped adapter and its entry in Redis, which may
expire at any time.  Both are ideal, so no call to them fails for a reason of its own.
-/

import Mathlib.Logic.Function.Iterate
import Dbal.Core.Error

namespace Dbal

/-- `CachingAdapter` around an adapter with the records `ρ`: how an entry is printed and read, and
what the wrapped adapter says of a record that is not there. -/
structure CachingAdapter (ρ : Type) where
  dump : ρ → String
  /-- `none` is a discarded value. -/
  parse : String → Option ρ
  missing : Error

namespace CachingAdapter

variable {ρ ι κ : Type}

/-- The record in the wrapped adapter and in Redis. -/
structure Shared (ρ : Type) where
  row : Option ρ
  entry : Option String
  deriving DecidableEq, Repr

/-- A write of the wrapped adapter: the row after it, or an error that leaves the row alone. -/
abbrev Write (ρ : Type) : Type := Option ρ → Result (Option ρ)

variable (A : CachingAdapter ρ)

/-- The entry, where there is one and it parses. -/
def hit (s : Shared ρ) : Option ρ := s.entry.bind A.parse

/-- `inner_->read`. -/
def innerRead (row : Option ρ) : Result ρ :=
  match row with
  | some record => .ok record
  | none => .error A.missing

/-- `setex`. -/
def backfill (s : Shared ρ) (record : ρ) : Shared ρ := { s with entry := some (A.dump record) }

/-- `del`. -/
def Shared.invalidate (s : Shared ρ) : Shared ρ := { s with entry := none }

/-! ### The calls -/

/-- `read`. -/
def read (s : Shared ρ) : Result ρ × Shared ρ :=
  match A.hit s with
  | some record => (.ok record, s)
  | none =>
      match A.innerRead s.row with
      | .ok record => (.ok record, A.backfill s record)
      | .error e => (.error e, s)

/-- `update`, `create` and `remove`, over the write that they hand on. -/
def update (write : Write ρ) (s : Shared ρ) : Result (Option ρ) × Shared ρ :=
  match write s.row with
  | .ok row => (.ok row, { s with row := row }.invalidate)
  | .error e => (.error e, s)

/-- What a read returns is what the wrapped adapter would return exactly when the entry, if it is
one, is the row. -/
def Coherent (s : Shared ρ) : Prop := ∀ record, A.hit s = some record → s.row = some record

theorem coherent_iff_read (s : Shared ρ) : A.Coherent s ↔ (A.read s).1 = A.innerRead s.row := by
  unfold Coherent read
  cases hhit : A.hit s with
  | none => cases hrow : s.row <;> simp [innerRead]
  | some record => cases hrow : s.row <;> simp [innerRead, eq_comm]

/-! ### The steps of the calls -/

/-- How far a `read` has come. -/
inductive Reader (ρ : Type) where
  | start
  | missed
  | fetched (record : ρ)
  | done (result : Result ρ)

/-- How far a write has come. -/
inductive Writer (ρ : Type) where
  | start (write : Write ρ)
  | written (row : Option ρ)
  | done (result : Result (Option ρ))

/-- A step of a `read`: the look into Redis, the read of the wrapped adapter, the back-fill. -/
def Reader.step : Reader ρ → Shared ρ → Reader ρ × Shared ρ
  | start, s =>
      match A.hit s with
      | some record => (done (.ok record), s)
      | none => (missed, s)
  | missed, s =>
      match A.innerRead s.row with
      | .ok record => (fetched record, s)
      | .error e => (done (.error e), s)
  | fetched record, s => (done (.ok record), A.backfill s record)
  | done result, s => (done result, s)

/-- A step of a write: the write of the wrapped adapter, the invalidation. -/
def Writer.step : Writer ρ → Shared ρ → Writer ρ × Shared ρ
  | start write, s =>
      match write s.row with
      | .ok row => (written row, { s with row := row })
      | .error e => (done (.error e), s)
  | written row, s => (done (.ok row), s.invalidate)
  | done result, s => (done result, s)

/-- Only the back-fill changes what is shared. -/
theorem Reader.step_snd (reader : Reader ρ) (s : Shared ρ) (h : ∀ record, reader ≠ .fetched record) :
    (reader.step A s).2 = s := by
  cases reader with
  | start =>
      simp only [Reader.step]
      split <;> rfl
  | missed =>
      simp only [Reader.step]
      split <;> rfl
  | fetched record => exact absurd rfl (h record)
  | done result => rfl

/-- A reader that nobody interrupts has done a `read` after three steps. -/
theorem Reader.step_eq_read (s : Shared ρ) :
    (fun c : Reader ρ × Shared ρ => Reader.step A c.1 c.2)^[3] (.start, s) =
      (.done (A.read s).1, (A.read s).2) := by
  simp only [Function.iterate_succ, Function.iterate_zero, Function.comp_apply, id_eq]
  cases hhit : A.hit s with
  | some record => simp [Reader.step, read, hhit]
  | none => cases hrow : A.innerRead s.row <;> simp [Reader.step, read, hhit, hrow]

/-- A writer that nobody interrupts has done an `update` after two steps. -/
theorem Writer.step_eq_update (write : Write ρ) (s : Shared ρ) :
    (fun c : Writer ρ × Shared ρ => Writer.step c.1 c.2)^[2] (.start write, s) =
      (.done (update write s).1, (update write s).2) := by
  simp only [Function.iterate_succ, Function.iterate_zero, Function.comp_apply, id_eq]
  cases hrow : write s.row <;> simp [Writer.step, update, hrow]

/-! ### Interleavings -/

/-- Any number of readers and writers of the record. -/
structure World (ι κ ρ : Type) where
  shared : Shared ρ
  readers : ι → Reader ρ
  writers : κ → Writer ρ

/-- Who takes the next step. -/
inductive Event (ι κ : Type) where
  | read (i : ι)
  | write (k : κ)
  | expire

variable [DecidableEq ι] [DecidableEq κ]

/-- A step of the system. -/
def World.step (w : World ι κ ρ) : Event ι κ → World ι κ ρ
  | .read i =>
      let next := Reader.step A (w.readers i) w.shared
      { w with shared := next.2, readers := Function.update w.readers i next.1 }
  | .write k =>
      let next := Writer.step (w.writers k) w.shared
      { w with shared := next.2, writers := Function.update w.writers k next.1 }
  | .expire => { w with shared := w.shared.invalidate }

/-- An interleaving. -/
def World.run (w : World ι κ ρ) (events : List (Event ι κ)) : World ι κ ρ :=
  events.foldl (World.step A) w

omit [DecidableEq ι] [DecidableEq κ] in
/-- No write is between the wrapped adapter and its invalidation. -/
def Settled (w : World ι κ ρ) : Prop := ∀ k row, w.writers k ≠ .written row

/-- Everybody is done. -/
def Finished (w : World ι κ ρ) : Prop :=
  (∀ i, ∃ result, w.readers i = .done result) ∧ ∀ k, ∃ result, w.writers k = .done result

/-- A step is safe unless it back-fills what is not the row, with no invalidation to come. -/
def SafeStep (w : World ι κ ρ) (e : Event ι κ) : Prop :=
  ∀ i record, e = .read i → w.readers i = .fetched record →
    w.shared.row = some record ∨ ¬ Settled w

/-- The steps of an interleaving are safe. -/
def SafeRun (w : World ι κ ρ) : List (Event ι κ) → Prop
  | [] => True
  | e :: events => SafeStep w e ∧ SafeRun (w.step A e) events

section Coherence

variable {A} (hround : ∀ record, A.parse (A.dump record) = some record)

include hround

/-- After a back-fill the cache has what was back-filled. -/
theorem hit_backfill (s : Shared ρ) (record : ρ) : A.hit (A.backfill s record) = some record := by
  simp [hit, backfill, hround]

omit hround in
theorem coherent_invalidate (s : Shared ρ) : A.Coherent s.invalidate := by
  intro record hhit
  cases hhit

/-- The invariant: the cache is coherent, or a write will invalidate it. -/
def Inv (A : CachingAdapter ρ) (w : World ι κ ρ) : Prop := Settled w → A.Coherent w.shared

omit hround [DecidableEq ι] in
/-- A writer that is not between its two steps matters to no one else. -/
theorem settled_of_update {w : World ι κ ρ} {k : κ} {writer : Writer ρ}
    (hsettled : ∀ j row, Function.update w.writers k writer j ≠ .written row)
    (hk : ∀ row, w.writers k ≠ .written row) : Settled w := by
  intro j row hj
  by_cases hjk : j = k
  · exact hk row (hjk ▸ hj)
  · refine hsettled j row ?_
    rwa [Function.update_of_ne hjk]

/-- A safe step of a reader keeps the invariant. -/
theorem inv_read {w : World ι κ ρ} (hinv : Inv A w) (i : ι) (hsafe : SafeStep w (.read i)) :
    Inv A (w.step A (.read i)) := by
  intro hsettled
  have hcoherent : A.Coherent w.shared := hinv hsettled
  show A.Coherent (Reader.step A (w.readers i) w.shared).2
  by_cases hfetched : ∃ record, w.readers i = .fetched record
  · obtain ⟨record, hreader⟩ := hfetched
    intro found hfound
    rw [hreader, Reader.step, hit_backfill hround] at hfound
    rcases hsafe i record rfl hreader with hrow | hpending
    · rw [← Option.some.inj hfound, hreader]
      exact hrow
    · exact absurd hsettled hpending
  · rw [Reader.step_snd A _ _ fun record h => hfetched ⟨record, h⟩]
    exact hcoherent

omit hround in
/-- A step of a writer keeps the invariant. -/
theorem inv_write {w : World ι κ ρ} (hinv : Inv A w) (k : κ) : Inv A (w.step A (.write k)) := by
  intro hsettled
  have hother := settled_of_update hsettled
  cases hwriter : w.writers k with
  | start write =>
      show A.Coherent (Writer.step (w.writers k) w.shared).2
      have hwas : A.Coherent w.shared := hinv (hother fun row h => by rw [hwriter] at h; cases h)
      cases hwrite : write w.shared.row with
      | ok row =>
          have hnow : (Writer.step (w.writers k) w.shared).1 = .written row := by
            rw [hwriter, Writer.step, hwrite]
          refine absurd ?_ (hsettled k row)
          show Function.update w.writers k _ k = _
          rw [Function.update_self, hnow]
      | error e =>
          rw [hwriter, Writer.step, hwrite]
          exact hwas
  | written row =>
      show A.Coherent (Writer.step (w.writers k) w.shared).2
      rw [hwriter]
      exact coherent_invalidate _
  | done result =>
      show A.Coherent (Writer.step (w.writers k) w.shared).2
      rw [hwriter]
      exact hinv (hother fun row h => by rw [hwriter] at h; cases h)

/-- **Safe steps keep the invariant.** -/
theorem inv_step {w : World ι κ ρ} (hinv : Inv A w) (e : Event ι κ) (hsafe : SafeStep w e) :
    Inv A (w.step A e) := by
  cases e with
  | read i => exact inv_read hround hinv i hsafe
  | write k => exact inv_write hinv k
  | expire => exact fun _ => coherent_invalidate _

/-- **Every other step breaks it.** -/
theorem not_inv_step {w : World ι κ ρ} {e : Event ι κ} (hbad : ¬ SafeStep w e) :
    ¬ Inv A (w.step A e) := by
  intro hinv
  refine hbad fun i record he hreader => ?_
  subst he
  by_cases hsettled : Settled w
  · have hnext : (w.step A (.read i)).shared = A.backfill w.shared record := by
      simp only [World.step, hreader, Reader.step]
    have hrow : A.Coherent (w.step A (.read i)).shared := hinv hsettled
    rw [hnext] at hrow
    exact Or.inl (hrow record (hit_backfill hround w.shared record))
  · exact Or.inr hsettled

/-- Along a run, the invariant holds up to the first step that is not safe. -/
theorem inv_iff_safeRun {w : World ι κ ρ} (hinv : Inv A w) (events : List (Event ι κ)) :
    SafeRun A w events ↔ ∀ pre, pre <+: events → Inv A (w.run A pre) := by
  induction events generalizing w with
  | nil =>
      refine ⟨fun _ pre hpre => ?_, fun _ => trivial⟩
      rw [List.prefix_nil.1 hpre]
      exact hinv
  | cons e events ih =>
      constructor
      · rintro ⟨hsafe, hrest⟩ pre hpre
        cases pre with
        | nil => exact hinv
        | cons first pre =>
            obtain ⟨rfl, hpre'⟩ := List.cons_prefix_cons.1 hpre
            exact (ih (inv_step hround hinv first hsafe)).1 hrest pre hpre'
      · intro hall
        have hfirst : Inv A (w.step A e) := hall [e] (by simp)
        refine ⟨by_contra fun hbad => not_inv_step hround hbad hfirst,
          (ih hfirst).2 fun pre hpre => ?_⟩
        exact hall (e :: pre) (List.cons_prefix_cons.2 ⟨rfl, hpre⟩)

end Coherence

omit [DecidableEq ι] [DecidableEq κ] in
/-- Where everybody is done, no invalidation is to come. -/
theorem Finished.settled {w : World ι κ ρ} (h : Finished w) : Settled w := by
  intro k row hk
  obtain ⟨result, hdone⟩ := h.2 k
  cases hk.symm.trans hdone

/-- A cache of texts. -/
def textCache : CachingAdapter String := ⟨id, some, .notFound "Note not found"⟩

/-- A reader of a note, and a writer that replaces it. -/
def twoCalls : World Unit Unit String where
  shared := ⟨some "old", none⟩
  readers _ := .start
  writers _ := .start fun row =>
    match row with
    | some _ => .ok (some "new")
    | none => .error (.notFound "Note not found")

/-- The back-fill comes between the two steps of the write. -/
def earlyBackfill : List (Event Unit Unit) := [.read (), .read (), .write (), .read (), .write ()]

/-- The back-fill comes after the write. -/
def lateBackfill : List (Event Unit Unit) := [.read (), .read (), .write (), .write (), .read ()]

end CachingAdapter
end Dbal
