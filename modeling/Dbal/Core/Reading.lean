/-
# When a reading succeeds

A reader of a document may fail at every step, and what it reads says little about
when it does.  `Yields x p post` says both things about a fallible computation: it
succeeds exactly when the test `p` holds, and its result satisfies `post`.  The
rules follow the way a reader is put together: one step after another, one element
of a list after another, an optional member.

Of a run that succeeded, each step did (`foldlM_cons_ok_iff`), and the run keeps
what every step keeps (`holds_of_foldlM`).
-/

import Mathlib.Data.List.Basic

namespace Dbal

variable {ε α β : Type}

/-- `x` succeeds exactly when `p` holds, and then with a result as in `post`. -/
def Yields (x : Except ε α) (p : Bool) (post : α → Prop) : Prop :=
  (p = true → ∃ a, x = .ok a ∧ post a) ∧ (p = false → ∃ e, x = .error e)

namespace Yields

variable {x : Except ε α} {f : α → Except ε β} {p q : Bool} {post : α → Prop}
  {next : β → Prop}

/-- A reading that succeeds has passed its test. -/
theorem of_ok (h : Yields x p post) {a : α} (hx : x = .ok a) : p = true ∧ post a := by
  cases hp : p with
  | true =>
      obtain ⟨b, hb, hpost⟩ := h.1 hp
      obtain rfl := Except.ok.inj (hx.symm.trans hb)
      exact ⟨rfl, hpost⟩
  | false =>
      obtain ⟨e, he⟩ := h.2 hp
      exact nomatch hx.symm.trans he

theorem ret (a : α) (h : post a) : Yields (pure a : Except ε α) true post :=
  ⟨fun _ => ⟨a, rfl, h⟩, fun h => nomatch h⟩

theorem fail (e : ε) : Yields (.error e : Except ε α) false post :=
  ⟨fun h => (nomatch h), fun _ => ⟨e, rfl⟩⟩

/-- One step after the other. -/
theorem bind (hx : Yields x p post) (hf : ∀ a, post a → Yields (f a) q next) :
    Yields (x >>= f) (p && q) next := by
  constructor
  · intro h
    obtain ⟨hp, hq⟩ := (Bool.and_eq_true _ _).mp h
    obtain ⟨a, rfl, ha⟩ := hx.1 hp
    exact (hf a ha).1 hq
  · intro h
    rcases (Bool.and_eq_false_iff ..).mp h with hp | hq
    · obtain ⟨e, rfl⟩ := hx.2 hp
      exact ⟨e, rfl⟩
    · cases hp : p with
      | true =>
          obtain ⟨a, rfl, ha⟩ := hx.1 hp
          exact (hf a ha).2 hq
      | false =>
          obtain ⟨e, rfl⟩ := hx.2 hp
          exact ⟨e, rfl⟩

/-- What fails at its first step fails. -/
theorem bind_fail (hx : Yields x false fun _ => True) : Yields (x >>= f) false next := by
  obtain ⟨e, rfl⟩ := hx.2 rfl
  exact fail e

theorem congr (hx : Yields x p post) (h : p = q) : Yields x q post := h ▸ hx

theorem mono (hx : Yields x p post) {weaker : α → Prop} (h : ∀ a, post a → weaker a) :
    Yields x p weaker :=
  ⟨fun hp => (hx.1 hp).imp fun a ha => ⟨ha.1, h a ha.2⟩, hx.2⟩

/-- The name of an error does not matter. -/
theorem mapError {ε' : Type} {g : ε → ε'} (hx : Yields x p post) : Yields (x.mapError g) p post := by
  constructor
  · intro hp
    obtain ⟨a, rfl, ha⟩ := hx.1 hp
    exact ⟨a, rfl, ha⟩
  · intro hp
    obtain ⟨e, rfl⟩ := hx.2 hp
    exact ⟨g e, rfl⟩

/-- A second flag, read only when the first one is off. -/
theorem orElse {y : Except ε Bool} {g : Bool → Except ε β} {b v : Bool} (hy : Yields y q (· = v))
    {r : Bool} (hg : ∀ c, c = (b || v) → Yields (g c) r next) :
    Yields (if b = true then pure true >>= g else y >>= g) ((b || q) && r) next := by
  cases b with
  | true => exact hg true rfl
  | false => exact hy.bind hg

/-- The elements of a list, one after the other. -/
theorem mapM {g : α → β} {r : α → Bool} (h : ∀ a, Yields (f a) (r a) (· = g a)) :
    ∀ l : List α, Yields (l.mapM f) (l.all r) (· = l.map g)
  | [] => ret [] rfl
  | a :: l => by
      rw [List.mapM_cons, List.all_cons, ← Bool.and_true (l.all r)]
      refine (h a).bind fun b hb => (mapM h l).bind fun bs hbs => ret _ ?_
      rw [hb, hbs, List.map_cons]

/-- The same where the results do not matter. -/
theorem mapM' {r : α → Bool} (h : ∀ a, Yields (f a) (r a) fun _ => True) :
    ∀ l : List α, Yields (l.mapM f) (l.all r) fun _ => True
  | [] => ret [] trivial
  | a :: l => by
      rw [List.mapM_cons, List.all_cons, ← Bool.and_true (l.all r)]
      exact (h a).bind fun _ _ => (mapM' h l).bind fun _ _ => ret _ trivial

/-- An optional member. -/
theorem option {g : α → β} {r : α → Bool} (h : ∀ a, Yields (f a) (r a) (· = g a)) :
    ∀ o : Option α, Yields (o.mapM f) (o.all r) (· = o.map g)
  | none => ret none rfl
  | some a => by
      show Yields (some <$> f a) (r a) _
      rw [map_eq_pure_bind, ← Bool.and_true (r a)]
      exact (h a).bind fun b hb => ret _ (congrArg some hb)

end Yields

/-! ## Runs that succeeded -/

/-- A step that succeeds and the next one after it. -/
theorem bind_ok_iff {x : Except ε α} {f : α → Except ε β} {b : β} :
    (x >>= f) = .ok b ↔ ∃ a, x = .ok a ∧ f a = .ok b := by
  rcases x with e | a
  · exact iff_of_false (fun h => nomatch h) (fun ⟨_, h, _⟩ => nomatch h)
  · exact ⟨fun h => ⟨a, rfl, h⟩, fun ⟨_, h, hf⟩ => Except.ok.inj h ▸ hf⟩

section Fold

variable {f : β → α → Except ε β} {l : List α} {b b' : β}

/-- The first step and the rest of a run. -/
theorem foldlM_cons_ok_iff {a : α} :
    (a :: l).foldlM f b = .ok b' ↔ ∃ next, f b a = .ok next ∧ l.foldlM f next = .ok b' := by
  rw [List.foldlM_cons]
  exact bind_ok_iff

/-- **A run keeps what every step keeps.** -/
theorem holds_of_foldlM {P : β → Prop}
    (hstep : ∀ a ∈ l, ∀ b b', P b → f b a = .ok b' → P b') (hb : P b)
    (h : l.foldlM f b = .ok b') : P b' := by
  induction l generalizing b with
  | nil =>
      cases h
      exact hb
  | cons a l ih =>
      obtain ⟨next, hnext, hrest⟩ := foldlM_cons_ok_iff.1 h
      exact ih (fun c hc => hstep c (List.mem_cons_of_mem a hc))
        (hstep a List.mem_cons_self b next hb hnext) hrest

end Fold

end Dbal
