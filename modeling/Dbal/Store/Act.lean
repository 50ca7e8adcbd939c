/-
# Computations over a store that may throw

`Act ε σ α` is a step of a sequential program with a state: it returns a value or
throws, and in both cases leaves a state behind.  An exception does not take the
effects back that came before it.
-/

import Mathlib.Data.List.Basic

namespace Dbal

/-- A computation on states `σ` that returns an `α` or throws an `ε`. -/
def Act (ε σ α : Type) : Type := σ → Except ε α × σ

namespace Act

variable {ε σ α β : Type}

instance : Monad (Act ε σ) where
  pure a := fun s => (.ok a, s)
  bind x f := fun s =>
    match x s with
    | (.ok a, s') => f a s'
    | (.error e, s') => (.error e, s')

/-- Throw, without an effect. -/
def throw (e : ε) : Act ε σ α := fun s => (.error e, s)

/-- A computation without effects. -/
def ofExcept (x : Except ε α) : Act ε σ α := fun s => (x, s)

/-- Turn what is thrown into a value; the state is that of the throw. -/
def catching (x : Act ε σ α) (handler : ε → α) : Act ε σ α := fun s =>
  match x s with
  | (.ok a, s') => (.ok a, s')
  | (.error e, s') => (.ok (handler e), s')

@[simp] theorem pure_apply (a : α) (s : σ) : (pure a : Act ε σ α) s = (.ok a, s) := rfl

@[simp] theorem throw_apply (e : ε) (s : σ) : (throw e : Act ε σ α) s = (.error e, s) := rfl

@[simp] theorem ofExcept_apply (x : Except ε α) (s : σ) : (ofExcept x : Act ε σ α) s = (x, s) := rfl

theorem bind_apply (x : Act ε σ α) (f : α → Act ε σ β) (s : σ) :
    (x >>= f) s =
      match x s with
      | (.ok a, s') => f a s'
      | (.error e, s') => (.error e, s') := rfl

theorem bind_ok {x : Act ε σ α} {a : α} {s s' : σ} (h : x s = (.ok a, s')) (f : α → Act ε σ β) :
    (x >>= f) s = f a s' := by
  rw [bind_apply, h]

theorem bind_error {x : Act ε σ α} {e : ε} {s s' : σ} (h : x s = (.error e, s'))
    (f : α → Act ε σ β) : (x >>= f) s = (.error e, s') := by
  rw [bind_apply, h]

/-- The two ways in which a sequence goes. -/
theorem bind_cases (x : Act ε σ α) (f : α → Act ε σ β) (s : σ) :
    (∃ e s', x s = (.error e, s') ∧ (x >>= f) s = (.error e, s')) ∨
      ∃ a s', x s = (.ok a, s') ∧ (x >>= f) s = f a s' := by
  rcases h : x s with ⟨e | a, s'⟩
  · exact Or.inl ⟨e, s', rfl, bind_error h f⟩
  · exact Or.inr ⟨a, s', rfl, bind_ok h f⟩

/-- A property of the state after a sequence. -/
theorem bind_state {Q : σ → Prop} {x : Act ε σ α} {f : α → Act ε σ β} {s : σ}
    (herror : ∀ e s', x s = (.error e, s') → Q s')
    (hok : ∀ a s', x s = (.ok a, s') → Q (f a s').2) : Q ((x >>= f) s).2 := by
  rcases bind_cases x f s with ⟨e, s', hrun, hseq⟩ | ⟨a, s', hrun, hseq⟩
  · rw [hseq]
    exact herror e s' hrun
  · rw [hseq]
    exact hok a s' hrun

/-- A fallible value that did not fail. -/
theorem ofExcept_bind {δ : Type} {result : Except δ α} {a : α} (h : result = .ok a)
    (toError : δ → ε) (f : α → Act ε σ β) (s : σ) :
    (ofExcept (result.mapError toError) >>= f) s = f a s := by
  rw [h]
  rfl

/-- Working on the result changes nothing in the store. -/
@[simp] theorem bind_pure_snd (x : Act ε σ α) (f : α → β) (s : σ) :
    ((x >>= fun a => pure (f a)) s).2 = (x s).2 := by
  rw [bind_apply]
  rcases x s with ⟨_ | _, s'⟩ <;> rfl

/-- What comes after leaves the store alone. -/
theorem bind_snd {x : Act ε σ α} {f : α → Act ε σ β} (hf : ∀ a s, (f a s).2 = s) (s : σ) :
    ((x >>= f) s).2 = (x s).2 := by
  rw [bind_apply]
  rcases x s with ⟨e | a, s'⟩
  · rfl
  · exact hf a s'

@[simp] theorem catching_snd (x : Act ε σ α) (handler : ε → α) (s : σ) :
    (x.catching handler s).2 = (x s).2 := by
  unfold catching
  split <;> simp_all

/-- **What the parts of a computation keep, the whole keeps.**  `P s s'` relates the state
before and after. -/
theorem bind_preserves {P : σ → σ → Prop} (htrans : ∀ {s s' s''}, P s s' → P s' s'' → P s s'')
    {x : Act ε σ α} {f : α → Act ε σ β} (hx : ∀ s, P s (x s).2) (hf : ∀ a s, P s (f a s).2) (s : σ) :
    P s ((x >>= f) s).2 := by
  have h := hx s
  rw [bind_apply]
  split
  · next a s' heq =>
      rw [heq] at h
      exact htrans h (hf a s')
  · next e s' heq => rwa [heq] at h

/-- Whatever is returned has the property. -/
def Returns (P : α → Prop) (x : Act ε σ α) : Prop := ∀ s a s', x s = (.ok a, s') → P a

theorem Returns.pure {P : α → Prop} {a : α} (h : P a) : Returns P (Pure.pure a : Act ε σ α) := by
  intro s a' s' hrun
  cases hrun
  exact h

theorem Returns.throw {P : α → Prop} (e : ε) : Returns P (Act.throw e : Act ε σ α) := by
  intro s a s' hrun
  cases hrun

theorem Returns.bind {P : β → Prop} {x : Act ε σ α} {f : α → Act ε σ β}
    (h : ∀ s a s', x s = (.ok a, s') → Returns P (f a)) : Returns P (x >>= f) := by
  intro s b s'' hrun
  rcases bind_cases x f s with ⟨e, s', hx, hseq⟩ | ⟨a, s', hx, hseq⟩
  · rw [hseq] at hrun
    cases hrun
  · rw [hseq] at hrun
    exact h s a s' hx s' b s'' hrun

end Act
end Dbal
