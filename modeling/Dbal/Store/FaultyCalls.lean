/-
# Calls that may fail, and calls that are handed on

A state behind a client.  A call is answered, or turned down by the state itself, or it fails on the
way: then it may have been carried out all the same.  Next to the state stands what happens to the
calls to come; when nothing more is said they get through.

A decorator hands its calls on to a store and keeps a state of its own beside.  What it does after a
call that succeeded reaches only its own state, and the caller gets the answer of the store.
-/

import Dbal.Store.Act

namespace Dbal

/-- A call that answers with an error, carried out or not. -/
inductive Faulty.Fault (ε : Type) where
  | refused (e : ε)
  | lost (e : ε)

/-- The state, and what happens to the calls to come. -/
structure Faulty (ε σ : Type) where
  state : σ
  faults : List (Option (Faulty.Fault ε)) := []

namespace Faulty

variable {ε σ α : Type}

/-- A call of the client; what the state turns down does not change it. -/
def call (effect : σ → Except ε (α × σ)) : Act ε (Faulty ε σ) α := fun client =>
  match client.faults, effect client.state with
  | some (.refused e) :: faults, _ => (.error e, ⟨client.state, faults⟩)
  | some (.lost e) :: faults, .ok (_, state) => (.error e, ⟨state, faults⟩)
  | some (.lost e) :: faults, .error _ => (.error e, ⟨client.state, faults⟩)
  | faults, .ok (a, state) => (.ok a, ⟨state, faults.tail⟩)
  | faults, .error e => (.error e, ⟨client.state, faults.tail⟩)

/-- The three ways in which a call ends. -/
theorem call_cases (effect : σ → Except ε (α × σ)) (client : Faulty ε σ) :
    ∃ faults, (∃ e, call effect client = (.error e, ⟨client.state, faults⟩)) ∨
      ∃ a state, effect client.state = .ok (a, state) ∧
        (call effect client = (.ok a, ⟨state, faults⟩) ∨
          ∃ e, call effect client = (.error e, ⟨state, faults⟩)) := by
  obtain ⟨state, faults⟩ := client
  unfold call
  rcases heffect : effect state with e | ⟨a, state'⟩
  · rcases faults with _ | ⟨_ | _ | _, faults⟩ <;> exact ⟨_, .inl ⟨_, rfl⟩⟩
  · rcases faults with _ | ⟨_ | _ | _, faults⟩
    · exact ⟨[], .inr ⟨a, state', rfl, .inl rfl⟩⟩
    · exact ⟨faults, .inr ⟨a, state', rfl, .inl rfl⟩⟩
    · exact ⟨faults, .inl ⟨_, rfl⟩⟩
    · exact ⟨faults, .inr ⟨a, state', rfl, .inr ⟨_, rfl⟩⟩⟩

/-- A call that the state never turns down and that leaves it as it is. -/
theorem read_cases (answer : σ → α) (client : Faulty ε σ) :
    ∃ faults, (∃ e, call (fun state => .ok (answer state, state)) client =
        (.error e, ⟨client.state, faults⟩)) ∨
      call (fun state => .ok (answer state, state)) client =
        (.ok (answer client.state), ⟨client.state, faults⟩) := by
  obtain ⟨faults, herror | ⟨a, state, heffect, hcall⟩⟩ :=
    call_cases (fun state => .ok (answer state, state)) client
  · exact ⟨faults, .inl herror⟩
  · obtain ⟨rfl, rfl⟩ := Prod.mk.inj (Except.ok.inj heffect)
    exact ⟨faults, hcall.symm⟩

/-- A call that leaves the state as it is where it is answered. -/
theorem call_state {effect : σ → Except ε (α × σ)} {client : Faulty ε σ}
    (h : ∀ a state, effect client.state = .ok (a, state) → state = client.state) :
    (call effect client).2.state = client.state := by
  obtain ⟨faults, ⟨e, hcall⟩ | ⟨a, state, heffect, hcall | ⟨e, hcall⟩⟩⟩ := call_cases effect client
  · rw [hcall]
  all_goals
    rw [hcall]
    exact h a state heffect

/-- No call to come fails on the way. -/
def Faultless (client : Faulty ε σ) : Prop := ∀ fault ∈ client.faults, fault = none

theorem Faultless.tail {client : Faulty ε σ} (h : client.Faultless) (state : σ) :
    Faultless (⟨state, client.faults.tail⟩ : Faulty ε σ) := fun fault hfault =>
  h fault (List.mem_of_mem_tail hfault)

theorem Faultless.call_ok {client : Faulty ε σ} (h : client.Faultless)
    {effect : σ → Except ε (α × σ)} {a : α} {state : σ} (heffect : effect client.state = .ok (a, state)) :
    call effect client = (.ok a, ⟨state, client.faults.tail⟩) := by
  obtain ⟨before, faults⟩ := client
  cases faults with
  | nil => simp [call, heffect]
  | cons fault faults =>
      obtain rfl := h fault List.mem_cons_self
      simp [call, heffect]

theorem Faultless.call_error {client : Faulty ε σ} (h : client.Faultless)
    {effect : σ → Except ε (α × σ)} {e : ε} (heffect : effect client.state = .error e) :
    call effect client = (.error e, ⟨client.state, client.faults.tail⟩) := by
  obtain ⟨before, faults⟩ := client
  cases faults with
  | nil => simp [call, heffect]
  | cons fault faults =>
      obtain rfl := h fault List.mem_cons_self
      simp [call, heffect]

end Faulty

/-! ### Decorators -/

/-- The state of the store, and what stands around it. -/
structure Decorated (σ τ : Type) where
  inner : σ
  outer : τ

namespace Decorated

variable {ε δ σ τ α β : Type}

/-- A call that is handed on. -/
def onInner (call : Act ε σ α) : Act ε (Decorated σ τ) α := fun s =>
  ((call s.inner).1, { s with inner := (call s.inner).2 })

/-- Work on the own state whose failure is swallowed. -/
def attempt (work : Act δ τ α) : Act ε (Decorated σ τ) (Except δ α) := fun s =>
  (.ok (work s.outer).1, { s with outer := (work s.outer).2 })

/-- Hand a call on, and do some work where it succeeded. -/
def delegate {ω : Type} (call : Act ε σ (Except ω α)) (after : α → Act δ τ Unit) :
    Act ε (Decorated σ τ) (Except ω α) := do
  let result ← onInner call
  match result with
  | .ok a => do
      let _ ← attempt (after a)
      return result
  | .error _ => return result

variable {ω : Type} {s : Decorated σ τ}

/-- **The caller gets the answer of the store, and the store does what it does by itself.** -/
theorem delegate_inner (call : Act ε σ (Except ω α)) (after : α → Act δ τ Unit)
    (s : Decorated σ τ) :
    (delegate call after s).1 = (call s.inner).1 ∧
      (delegate call after s).2.inner = (call s.inner).2 := by
  rcases hcall : call s.inner with ⟨_ | _ | a, s'⟩ <;>
    simp [delegate, Act.bind_apply, onInner, attempt, hcall]

theorem delegate_ok {call : Act ε σ (Except ω α)} {a : α}
    (h : (call s.inner).1 = .ok (.ok a)) (after : α → Act δ τ Unit) :
    (delegate call after s).2.outer = (after a s.outer).2 := by
  rcases hcall : call s.inner with ⟨r, s'⟩
  obtain rfl : r = .ok (.ok a) := by simpa [hcall] using h
  simp [delegate, Act.bind_apply, onInner, attempt, hcall]

theorem delegate_not_ok {call : Act ε σ (Except ω α)} (h : ∀ a, (call s.inner).1 ≠ .ok (.ok a))
    (after : α → Act δ τ Unit) : (delegate call after s).2.outer = s.outer := by
  rcases hcall : call s.inner with ⟨_ | _ | a, s'⟩
  · simp [delegate, Act.bind_apply, onInner, hcall]
  · simp [delegate, Act.bind_apply, onInner, hcall]
  · exact absurd (by rw [hcall]) (h a)

end Decorated
end Dbal
