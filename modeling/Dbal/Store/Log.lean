/-
# Computations that keep a log

To say which calls a program makes, give it a store whose calls write themselves down.
`Logs P x`: whatever `x` adds to the log, from any state on, is a `P`.
-/

import Dbal.Store.Act

namespace Dbal
namespace Act

variable {ε σ τ α β : Type}

/-- A call that enters `entries` into the log and works on the state beside it. -/
def logged (entries : List τ) (call : Act ε σ α) : Act ε (σ × List τ) α := fun s =>
  ((call s.1).1, (call s.1).2, s.2 ++ entries)

/-- From `s` to `s'` only entries with `P` were added to the log. -/
def Grown (P : τ → Prop) (s s' : σ × List τ) : Prop :=
  ∃ entries, s'.2 = s.2 ++ entries ∧ ∀ entry ∈ entries, P entry

/-- What the computation adds to the log satisfies `P`. -/
def Logs (P : τ → Prop) (x : Act ε (σ × List τ) α) : Prop := ∀ s, Grown P s (x s).2

variable {P Q : τ → Prop} {s s' s'' : σ × List τ} {x : Act ε (σ × List τ) α}

theorem Grown.refl (s : σ × List τ) : Grown P s s := ⟨[], by simp, by simp⟩

theorem Grown.trans (h : Grown P s s') (h' : Grown P s' s'') : Grown P s s'' := by
  obtain ⟨entries, hlog, hall⟩ := h
  obtain ⟨more, hlog', hall'⟩ := h'
  refine ⟨entries ++ more, by rw [hlog', hlog, List.append_assoc], ?_⟩
  intro entry hentry
  rcases List.mem_append.1 hentry with hentry | hentry
  · exact hall entry hentry
  · exact hall' entry hentry

theorem Grown.mono (h : Grown P s s') (hPQ : ∀ entry, P entry → Q entry) : Grown Q s s' := by
  obtain ⟨entries, hlog, hall⟩ := h
  exact ⟨entries, hlog, fun entry hentry => hPQ entry (hall entry hentry)⟩

/-- What is in the log at the end was there before, or is a `P`. -/
theorem Grown.mem (h : Grown P s s') {entry : τ} (hentry : entry ∈ s'.2) :
    entry ∈ s.2 ∨ P entry := by
  obtain ⟨entries, hlog, hall⟩ := h
  rw [hlog] at hentry
  exact (List.mem_append.1 hentry).imp_right (hall entry)

/-- Nothing is struck out. -/
theorem Grown.subset (h : Grown P s s') {entry : τ} (hentry : entry ∈ s.2) : entry ∈ s'.2 := by
  obtain ⟨entries, hlog, -⟩ := h
  rw [hlog]
  exact List.mem_append_left _ hentry

theorem Logs.of_logged {entries : List τ} {call : Act ε σ α} (h : ∀ entry ∈ entries, P entry) :
    Logs P (call.logged entries) := fun _ => ⟨entries, rfl, h⟩

theorem Logs.mono (h : Logs P x) (hPQ : ∀ entry, P entry → Q entry) : Logs Q x :=
  fun s => (h s).mono hPQ

theorem Logs.pure (a : α) : Logs P (Pure.pure a : Act ε (σ × List τ) α) := Grown.refl

theorem Logs.ofExcept (result : Except ε α) : Logs P (ofExcept result : Act ε (σ × List τ) α) :=
  Grown.refl

theorem Logs.bind {f : α → Act ε (σ × List τ) β} (hx : Logs P x) (hf : ∀ a, Logs P (f a)) :
    Logs P (x >>= f) := bind_preserves Grown.trans hx hf

/-- What comes behind a fallible value may use that it did not fail. -/
theorem Logs.bind_ofExcept {δ γ : Type} {result : Except δ γ} {toError : δ → ε}
    {f : γ → Act ε (σ × List τ) α} (hf : ∀ c, result = .ok c → Logs P (f c)) :
    Logs P (Act.ofExcept (result.mapError toError) >>= f) := by
  cases result with
  | error e => exact Grown.refl
  | ok c => exact hf c rfl

theorem Logs.catching (handler : ε → α) (hx : Logs P x) : Logs P (x.catching handler) := by
  intro s
  rw [catching_snd]
  exact hx s

end Act
end Dbal
