/-
# Callers that do not notice each other

A system answers inputs one after the other.  Some inputs are one's own.  Two states are the *same* to
oneself when no own input tells them apart, now or later: where the inputs of the others keep that
(`Unnoticed`), they can be taken out of every run, and the own answers stay as they are
(`Unnoticed.ownAnswers_eq`).
-/

import Mathlib.Data.List.Basic

namespace Dbal

section Noninterference

variable {σ α ω : Type} {step : α → σ → ω × σ} {own : α → Bool} {Same : σ → σ → Prop}

/-- The answers to all inputs of a run. -/
def answersTo (step : α → σ → ω × σ) : List α → σ → List ω
  | [], _ => []
  | a :: inputs, s => (step a s).1 :: answersTo step inputs (step a s).2

/-- The answers to the own inputs of a run. -/
def ownAnswers (step : α → σ → ω × σ) (own : α → Bool) : List α → σ → List ω
  | [], _ => []
  | a :: inputs, s =>
      if own a then (step a s).1 :: ownAnswers step own inputs (step a s).2
      else ownAnswers step own inputs (step a s).2

/-- What the others do is the same to oneself, and own inputs go by nothing else. -/
structure Unnoticed (step : α → σ → ω × σ) (own : α → Bool) (Same : σ → σ → Prop) : Prop where
  others : ∀ {a s s'}, own a = false → Same s s' → Same (step a s).2 s'
  answer : ∀ {a s s'}, own a = true → Same s s' → (step a s).1 = (step a s').1
  step : ∀ {a s s'}, own a = true → Same s s' → Same (step a s).2 (step a s').2

/-- **The others can be taken out of a run.** -/
theorem Unnoticed.ownAnswers_eq (h : Unnoticed step own Same) {s s' : σ} (hsame : Same s s')
    (inputs : List α) :
    ownAnswers step own inputs s = answersTo step (inputs.filter own) s' := by
  induction inputs generalizing s s' with
  | nil => rfl
  | cons a inputs ih =>
      cases hown : own a with
      | true =>
          rw [ownAnswers, if_pos hown, List.filter_cons_of_pos hown, answersTo, h.answer hown hsame,
            ih (h.step hown hsame)]
      | false =>
          have hnot : ¬ own a = true := by simp [hown]
          rw [ownAnswers, if_neg hnot, List.filter_cons_of_neg hnot, ih (h.others hown hsame)]

end Noninterference

end Dbal
