/-
# Programs that talk to a server

A program that sends requests `ι` and goes on with the answers `ο`, as a tree: the same
program can be run against any server.  Two servers that answer alike all the requests that a
program may send cannot be told apart by it (`run_simulates`).
-/

import Mathlib.Data.List.Basic

namespace Dbal

/-- A program that ends with an `α`, or sends a request and goes on with the answer. -/
inductive Dialogue (ι ο α : Type) where
  | done (a : α)
  | send (request : ι) (next : ο → Dialogue ι ο α)

namespace Dialogue

variable {ι ο α β σ τ : Type}

/-- One program after another. -/
def bind : Dialogue ι ο α → (α → Dialogue ι ο β) → Dialogue ι ο β
  | done a, f => f a
  | send request next, f => send request fun answer => (next answer).bind f

instance : Monad (Dialogue ι ο) where
  pure := done
  bind := bind

/-- A run against a server with the states `σ`. -/
def run (server : ι → σ → ο × σ) : Dialogue ι ο α → σ → α × σ
  | done a, s => (a, s)
  | send request next, s =>
      (next (server request s).1).run server (server request s).2

@[simp] theorem run_pure (server : ι → σ → ο × σ) (a : α) (s : σ) :
    (pure a : Dialogue ι ο α).run server s = (a, s) := rfl

@[simp] theorem run_done (server : ι → σ → ο × σ) (a : α) (s : σ) :
    (done a : Dialogue ι ο α).run server s = (a, s) := rfl

theorem run_send (server : ι → σ → ο × σ) (request : ι) (next : ο → Dialogue ι ο α) (s : σ) :
    (send request next).run server s =
      (next (server request s).1).run server (server request s).2 := rfl

/-- A run goes on where the first part ended. -/
@[simp] theorem run_bind (server : ι → σ → ο × σ) (program : Dialogue ι ο α)
    (f : α → Dialogue ι ο β) (s : σ) :
    (program >>= f).run server s =
      (f (program.run server s).1).run server (program.run server s).2 := by
  induction program generalizing s with
  | done a => rfl
  | send request next ih => exact ih (server request s).1 (server request s).2

/-- Every request that the program may send is one of `Q`. -/
def Sends (Q : ι → Prop) : Dialogue ι ο α → Prop
  | done _ => True
  | send request next => Q request ∧ ∀ answer, (next answer).Sends Q

variable {Q : ι → Prop}

@[simp] theorem sends_pure (a : α) : (pure a : Dialogue ι ο α).Sends Q := trivial

theorem Sends.bind {program : Dialogue ι ο α} (h : program.Sends Q) {f : α → Dialogue ι ο β}
    (hf : ∀ a, (f a).Sends Q) : (program >>= f).Sends Q := by
  induction program with
  | done a => exact hf a
  | send request next ih => exact ⟨h.1, fun answer => ih answer (h.2 answer)⟩

/-- **A program cannot tell two servers apart that answer its requests alike.** -/
theorem run_simulates (embed : σ → τ) {server : ι → σ → ο × σ} {server' : ι → τ → ο × τ}
    (hserver : ∀ request s, Q request →
      server' request (embed s) = ((server request s).1, embed (server request s).2))
    {program : Dialogue ι ο α} (hsends : program.Sends Q) (s : σ) :
    program.run server' (embed s) =
      ((program.run server s).1, embed (program.run server s).2) := by
  induction program generalizing s with
  | done a => rfl
  | send request next ih =>
      simp only [run_send, hserver request s hsends.1]
      exact ih (server request s).1 (hsends.2 _) (server request s).2

end Dialogue
end Dbal
