/-
# Work inside a transaction

A store with `begin`, `commit` and `rollback` is seen through its rows and, while a
transaction is open, through the rows at its `begin`.  `Tx.run` is the loop that
programs write over such a store: begin, treat the items one after the other, roll back
at the first that is refused, commit at the end.

The loop is all or nothing exactly when nothing that it reaches throws while the
transaction is open, and the commit, if it is reached, ends the transaction
(`Tx.run_atomic_iff`): there is no handler around the items, and none for a commit that
fails.
-/

import Dbal.Store.Act

namespace Dbal

/-- The three operations; each may refuse with a `δ`. -/
structure Tx (ε σ δ : Type) where
  begin : Act ε σ (Except δ Bool)
  commit : Act ε σ (Except δ Bool)
  rollback : Act ε σ (Except δ Bool)

namespace Tx

variable {ε σ δ ρ ι β ω : Type}

/-- **Working transactions.**  `begin` opens one and remembers the rows, `rollback` brings
them back and `commit` drops them.  What fails has no effect, except that a commit that
fails may have been rolled back. -/
structure Laws (tx : Tx ε σ δ) (ρ : Type) where
  rows : σ → ρ
  saved : σ → Option ρ
  begin_ok : ∀ {s s' b}, saved s = none → tx.begin s = (.ok (.ok b), s') →
    rows s' = rows s ∧ saved s' = some (rows s)
  begin_fails : ∀ {s}, saved s = none → (∀ b, (tx.begin s).1 ≠ .ok (.ok b)) →
    rows (tx.begin s).2 = rows s ∧ saved (tx.begin s).2 = none
  commit_ok : ∀ {s s' r b}, saved s = some r → tx.commit s = (.ok (.ok b), s') →
    rows s' = rows s ∧ saved s' = none
  commit_fails : ∀ {s r}, saved s = some r → (∀ b, (tx.commit s).1 ≠ .ok (.ok b)) →
    (rows (tx.commit s).2 = rows s ∧ saved (tx.commit s).2 = some r) ∨
      (rows (tx.commit s).2 = r ∧ saved (tx.commit s).2 = none)
  rollback_restores : ∀ {s r}, saved s = some r →
    rows (tx.rollback s).2 = r ∧ saved (tx.rollback s).2 = none

section

variable (tx : Tx ε σ δ) (step : Nat → ι → Act ε σ (Except ω β)) (commitFailed : ω)
  (finish : List β → ω)

/-- The items from number `n` on, and the commit: an item that is refused is answered with
the refusal, after a rollback. -/
def rest : Nat → List ι → List β → Act ε σ ω
  | _, [], done => do
      match ← tx.commit with
      | .ok _ => return finish done
      | .error _ => return commitFailed
  | n, item :: items, done => do
      match ← step n item with
      | .ok result => rest (n + 1) items (done ++ [result])
      | .error refusal => do
          let _ ← tx.rollback
          return refusal

/-- The whole transaction. -/
def run (beginFailed : ω) (items : List ι) : Act ε σ ω := do
  match ← tx.begin with
  | .ok _ => rest tx step commitFailed finish 0 items []
  | .error _ => return beginFailed

end

/-- Every item was applied, from number `n` on, and the store went from `s` to `s'`. -/
def Applies (step : Nat → ι → Act ε σ (Except ω β)) : Nat → List ι → σ → σ → Prop
  | _, [], s, s' => s' = s
  | n, item :: items, s, s' =>
      ∃ result s₁, step n item s = (.ok (.ok result), s₁) ∧ Applies step (n + 1) items s₁ s'

/-- The store before and after: no transaction is open, and either nothing has changed or
every item was applied and the commit succeeded. -/
def Atomic {tx : Tx ε σ δ} (laws : Laws tx ρ) (step : Nat → ι → Act ε σ (Except ω β))
    (items : List ι) (s s' : σ) : Prop :=
  laws.saved s' = none ∧
    (laws.rows s' = laws.rows s ∨ ∃ b b' s₁ s₂, tx.begin s = (.ok (.ok b), s₁) ∧
      Applies step 0 items s₁ s₂ ∧ tx.commit s₂ = (.ok (.ok b'), s'))

/-- Nothing throws on the way from `s` through the items, up to the first that is refused,
and a commit that is reached ends the transaction. -/
def Smooth {tx : Tx ε σ δ} (laws : Laws tx ρ) (step : Nat → ι → Act ε σ (Except ω β)) :
    Nat → List ι → σ → Prop
  | _, [], s => laws.saved (tx.commit s).2 = none
  | n, item :: items, s =>
      match step n item s with
      | (.error _, _) => False
      | (.ok (.error _), _) => True
      | (.ok (.ok _), s') => Smooth laws step (n + 1) items s'

variable {tx : Tx ε σ δ} {step : Nat → ι → Act ε σ (Except ω β)} {commitFailed beginFailed : ω}
  {finish : List β → ω}

/-! ### Where the loop leads -/

@[simp] theorem rest_nil_snd (n : Nat) (done : List β) (s : σ) :
    (rest tx step commitFailed finish n [] done s).2 = (tx.commit s).2 := by
  simp only [rest, Act.bind_apply]
  rcases tx.commit s with ⟨_ | _ | _, s'⟩ <;> rfl

variable {n : Nat} {item : ι} {items : List ι} {done : List β} {s s₁ : σ}

/-- An exception leaves the loop with the transaction open. -/
theorem rest_thrown {e : ε} (h : step n item s = (.error e, s₁)) :
    rest tx step commitFailed finish n (item :: items) done s = (.error e, s₁) :=
  Act.bind_error h _

theorem rest_refused {refusal : ω} (h : step n item s = (.ok (.error refusal), s₁)) :
    (rest tx step commitFailed finish n (item :: items) done s).2 = (tx.rollback s₁).2 := by
  rw [rest, Act.bind_ok h]
  exact Act.bind_pure_snd tx.rollback (fun _ => refusal) s₁

theorem rest_applied {result : β} (h : step n item s = (.ok (.ok result), s₁)) :
    rest tx step commitFailed finish n (item :: items) done s =
      rest tx step commitFailed finish (n + 1) items (done ++ [result]) s₁ :=
  Act.bind_ok h _

theorem run_begun {b : Bool} (h : tx.begin s = (.ok (.ok b), s₁)) :
    run tx step commitFailed finish beginFailed items s =
      rest tx step commitFailed finish 0 items [] s₁ :=
  Act.bind_ok h _

theorem run_not_begun (h : ∀ b, (tx.begin s).1 ≠ .ok (.ok b)) :
    (run tx step commitFailed finish beginFailed items s).2 = (tx.begin s).2 := by
  rcases hbegin : tx.begin s with ⟨e | refusal | b, s₁⟩
  · exact congrArg Prod.snd (Act.bind_error hbegin _)
  · exact congrArg Prod.snd (Act.bind_ok hbegin _)
  · exact (h b (by rw [hbegin])).elim

/-! ### All or nothing -/

/-- The loop, once a transaction is open: by induction on the items. -/
theorem rest_atomic_iff (laws : Laws tx ρ)
    (hstep : ∀ n item s, laws.saved (step n item s).2 = laws.saved s) {r : ρ}
    (hsaved : laws.saved s = some r) :
    (laws.saved (rest tx step commitFailed finish n items done s).2 = none ∧
      (laws.rows (rest tx step commitFailed finish n items done s).2 = r ∨
        ∃ b s', Applies step n items s s' ∧
          tx.commit s' = (.ok (.ok b), (rest tx step commitFailed finish n items done s).2))) ↔
      Smooth laws step n items s := by
  induction items generalizing n done s with
  | nil =>
      rw [rest_nil_snd]
      constructor
      · exact fun h => h.1
      · intro hclosed
        refine ⟨hclosed, ?_⟩
        by_cases hok : ∃ b, (tx.commit s).1 = .ok (.ok b)
        · obtain ⟨b, hb⟩ := hok
          exact Or.inr ⟨b, s, rfl, Prod.ext hb rfl⟩
        · rcases laws.commit_fails hsaved (fun b hb => hok ⟨b, hb⟩) with ⟨-, hopen⟩ | ⟨hrows, -⟩
          · rw [show laws.saved (tx.commit s).2 = none from hclosed] at hopen
            cases hopen
          · exact Or.inl hrows
  | cons item items ih =>
      have hkeep := hstep n item s
      rcases heq : step n item s with ⟨e | refusal | result, s₁⟩ <;> rw [heq, hsaved] at hkeep
      · simp [rest_thrown heq, Smooth, heq, hkeep]
      · obtain ⟨hrows, hclosed⟩ := laws.rollback_restores hkeep
        simp [rest_refused heq, Smooth, heq, hrows, hclosed]
      · have ih := @ih (n + 1) (done ++ [result]) s₁ hkeep
        simpa only [rest_applied heq, Smooth, heq, Applies, Prod.mk.injEq, Except.ok.injEq,
          and_assoc, exists_and_left, exists_eq_left'] using ih

/-- **When a transaction is all or nothing.** -/
theorem run_atomic_iff (laws : Laws tx ρ)
    (hstep : ∀ n item s, laws.saved (step n item s).2 = laws.saved s)
    (hsaved : laws.saved s = none) :
    Atomic laws step items s (run tx step commitFailed finish beginFailed items s).2 ↔
      ∀ b s₁, tx.begin s = (.ok (.ok b), s₁) → Smooth laws step 0 items s₁ := by
  by_cases hbegun : ∃ b, (tx.begin s).1 = .ok (.ok b)
  · obtain ⟨b, hb⟩ := hbegun
    have hbegin : tx.begin s = (.ok (.ok b), (tx.begin s).2) := Prod.ext hb rfl
    have hrest := @rest_atomic_iff ε σ δ ρ ι β ω tx step commitFailed finish 0 items [] _ laws
      hstep _ (laws.begin_ok hsaved hbegin).2
    rw [run_begun hbegin, hbegin]
    simp only [Prod.mk.injEq, Except.ok.injEq, and_imp, forall_eq', forall_apply_eq_imp_iff]
    rw [← hrest, Atomic, hbegin]
    simp only [Prod.mk.injEq, Except.ok.injEq, exists_and_left, exists_eq_left', and_assoc]
  · have hfails : ∀ b, (tx.begin s).1 ≠ .ok (.ok b) := fun b hb => hbegun ⟨b, hb⟩
    obtain ⟨hrows, hclosed⟩ := laws.begin_fails hsaved hfails
    rw [run_not_begun hfails]
    constructor
    · exact fun _ b s₁ hbegin => (hfails b (by rw [hbegin])).elim
    · exact fun _ => ⟨hclosed, Or.inl hrows⟩

end Tx
end Dbal
