/-
# Routines that share a state

A routine makes calls to a shared state and goes on with the answers; the answers to a call `r` are of
type `ο r`.  Threads run routines side by side, and between any two calls of one of them the others may
make theirs.  What a thread has heard is the part of the history that is its own.

A routine is specified by the calls that it makes, each by what was heard before (`Meets`), and this is
all that the rest of the system has to know of it (`Interleaved.induction`).
-/

import Mathlib.Data.List.Infix
import Mathlib.Data.List.Basic

namespace Dbal

/-- A routine that ends with an `α`, or makes a call and goes on with the answer. -/
inductive Routine (ι : Type) (ο : ι → Type) (α : Type) where
  | done (a : α)
  | call (request : ι) (next : ο request → Routine ι ο α)

namespace Routine

variable {ι : Type} {ο : ι → Type} {α β σ : Type}

/-- One routine after another. -/
def bind : Routine ι ο α → (α → Routine ι ο β) → Routine ι ο β
  | done a, f => f a
  | call request next, f => call request fun answer => (next answer).bind f

instance : Monad (Routine ι ο) where
  pure := done
  bind := bind

/-- What a routine has heard: its calls, with the answers. -/
abbrev Heard (ο : ι → Type) := List (Σ request, ο request)

/-- What is left of a routine that has heard this much. -/
inductive After (routine : Routine ι ο α) : Heard ο → Routine ι ο α → Prop where
  | start : After routine [] routine
  | answer {heard : Heard ο} {request : ι} {next : ο request → Routine ι ο α}
      (h : After routine heard (.call request next)) (o : ο request) :
      After routine (heard ++ [⟨request, o⟩]) (next o)

/-! ### What a routine does, by what it has heard -/

/-- Every call is `Allowed`, and in the end there is `Post`. -/
def Meets (Allowed : Heard ο → ι → Prop) (Post : Heard ο → α → Prop) :
    Heard ο → Routine ι ο α → Prop
  | heard, done a => Post heard a
  | heard, call request next =>
      Allowed heard request ∧ ∀ o, Meets Allowed Post (heard ++ [⟨request, o⟩]) (next o)

variable {Allowed : Heard ο → ι → Prop} {Post Mid : Heard ο → α → Prop} {heard : Heard ο}

theorem Meets.mono {routine : Routine ι ο α} (h : Meets Allowed Mid heard routine)
    (hpost : ∀ heard' a, heard <+: heard' → Mid heard' a → Post heard' a) :
    Meets Allowed Post heard routine := by
  induction routine generalizing heard with
  | done a => exact hpost heard a List.prefix_rfl h
  | call request next ih =>
      refine ⟨h.1, fun o => ih o (h.2 o) fun heard' a hpre => hpost heard' a ?_⟩
      exact (List.prefix_append heard _).trans hpre

/-- The second routine goes on with what the first one ended with. -/
theorem Meets.bind {Post : Heard ο → β → Prop} {routine : Routine ι ο α}
    {f : α → Routine ι ο β} (h : Meets Allowed Mid heard routine)
    (hf : ∀ heard' a, heard <+: heard' → Mid heard' a → Meets Allowed Post heard' (f a)) :
    Meets Allowed Post heard (routine >>= f) := by
  induction routine generalizing heard with
  | done a => exact hf heard a List.prefix_rfl h
  | call request next ih =>
      refine ⟨h.1, fun o => ih o (h.2 o) fun heard' a hpre => hf heard' a ?_⟩
      exact (List.prefix_append heard _).trans hpre

/-- The same, where it does not matter what the first one ended with. -/
theorem Meets.seq {Post : Heard ο → β → Prop} {routine : Routine ι ο α} {f : α → Routine ι ο β}
    (h : Meets Allowed (fun _ _ => True) heard routine)
    (hf : ∀ heard' a, heard <+: heard' → Meets Allowed Post heard' (f a)) :
    Meets Allowed Post heard (routine >>= f) :=
  h.bind fun heard' a hpre _ => hf heard' a hpre

/-- A call, and what comes behind it. -/
theorem Meets.ask_bind {Post : Heard ο → β → Prop} {request : ι} {f : ο request → Routine ι ο β}
    (h : Allowed heard request) (hf : ∀ o, Meets Allowed Post (heard ++ [⟨request, o⟩]) (f o)) :
    Meets Allowed Post heard (Routine.call request .done >>= f) := ⟨h, hf⟩

/-- The rest of a routine does what it is to do. -/
theorem Meets.after {routine rest : Routine ι ο α} (h : Meets Allowed Post [] routine)
    (hafter : After routine heard rest) : Meets Allowed Post heard rest := by
  induction hafter with
  | start => exact h
  | answer _ o ih => exact ih.2 o

/-! ### One routine alone -/

/-- The routine alone, where every call is served at once. -/
def run (serve : (request : ι) → σ → ο request × σ) : Routine ι ο α → σ → α × σ
  | done a, s => (a, s)
  | call request next, s => (next (serve request s).1).run serve (serve request s).2

theorem run_bind (serve : (request : ι) → σ → ο request × σ) (routine : Routine ι ο α)
    (f : α → Routine ι ο β) (s : σ) :
    (routine >>= f).run serve s = (f (routine.run serve s).1).run serve (routine.run serve s).2 := by
  induction routine generalizing s with
  | done a => rfl
  | call request next ih => exact ih _ _

end Routine

/-! ### Threads -/

/-- A call of a thread, and its answer. -/
structure ThreadCall (Thread ι : Type) (ο : ι → Type) where
  thread : Thread
  request : ι
  answer : ο request

/-- The state that is shared: how it may answer a call, and what may happen to it by itself. -/
structure SharedState (ι : Type) (ο : ι → Type) (σ : Type) where
  answers : (request : ι) → σ → ο request → σ → Prop
  drifts : σ → σ → Prop

section Threads

open Routine

variable {Thread ι : Type} [DecidableEq Thread] {ο : ι → Type} {α σ : Type}

/-- What a thread has heard. -/
def heardBy (t : Thread) (events : List (ThreadCall Thread ι ο)) : Heard ο :=
  events.filterMap fun e => if e.thread = t then some ⟨e.request, e.answer⟩ else none

theorem mem_heardBy {t : Thread} {events : List (ThreadCall Thread ι ο)} {request : ι}
    {o : ο request} : ⟨request, o⟩ ∈ heardBy t events ↔ ⟨t, request, o⟩ ∈ events := by
  rw [heardBy, List.mem_filterMap]
  constructor
  · rintro ⟨⟨t', request', o'⟩, hmem, heq⟩
    dsimp only at heq
    split_ifs at heq with ht
    cases heq
    exact ht ▸ hmem
  · intro hmem
    exact ⟨_, hmem, if_pos rfl⟩

theorem heardBy_append (t : Thread) (events events' : List (ThreadCall Thread ι ο)) :
    heardBy t (events ++ events') = heardBy t events ++ heardBy t events' :=
  List.filterMap_append

theorem heardBy_grows (t : Thread) (events events' : List (ThreadCall Thread ι ο)) :
    heardBy t events <+: heardBy t (events ++ events') := by
  rw [heardBy_append]
  exact List.prefix_append _ _

/-- Threads side by side, with the history of their calls. -/
inductive Interleaved (state : SharedState ι ο σ) (routine : Thread → Routine ι ο α) (start : σ) :
    List (ThreadCall Thread ι ο) → σ → Prop where
  | start : Interleaved state routine start [] start
  | drift {events : List (ThreadCall Thread ι ο)} {s s' : σ} (h : Interleaved state routine start events s)
      (hdrift : state.drifts s s') : Interleaved state routine start events s'
  | answer {events : List (ThreadCall Thread ι ο)} {s s' : σ} {t : Thread} {request : ι} {o : ο request}
      {next : ο request → Routine ι ο α} (h : Interleaved state routine start events s)
      (hnext : After (routine t) (heardBy t events) (.call request next))
      (hanswer : state.answers request s o s') :
      Interleaved state routine start (events ++ [⟨t, request, o⟩]) s'

variable {state : SharedState ι ο σ} {routine : Thread → Routine ι ο α} {start s : σ}
  {events : List (ThreadCall Thread ι ο)}

/-- A routine whose calls are answered in a row, and what is left of it. -/
inductive Served (state : SharedState ι ο σ) :
    Routine ι ο α → σ → Heard ο → Routine ι ο α → σ → Prop where
  | stop {rest : Routine ι ο α} {s : σ} : Served state rest s [] rest s
  | answer {request : ι} {next : ο request → Routine ι ο α} {rest : Routine ι ο α} {s s' s'' : σ}
      {heard : Heard ο} (o : ο request) (hanswer : state.answers request s o s')
      (h : Served state (next o) s' heard rest s'') :
      Served state (.call request next) s (⟨request, o⟩ :: heard) rest s''

/-- The calls of a thread, in a row. -/
def eventsOf (t : Thread) (heard : Heard ο) : List (ThreadCall Thread ι ο) :=
  heard.map fun answered => ⟨t, answered.1, answered.2⟩

/-- A thread may go on undisturbed for a while. -/
theorem Interleaved.served (h : Interleaved state routine start events s) {t : Thread}
    {current rest : Routine ι ο α} {heard : Heard ο} {s' : σ}
    (hafter : After (routine t) (heardBy t events) current)
    (hserved : Served state current s heard rest s') :
    Interleaved state routine start (events ++ eventsOf t heard) s' := by
  induction hserved generalizing events with
  | stop => rwa [eventsOf, List.map_nil, List.append_nil]
  | @answer request next rest s s' s'' heard o hanswer _ ih =>
      have hnext : heardBy t (events ++ [⟨t, request, o⟩]) = heardBy t events ++ [⟨request, o⟩] := by
        rw [heardBy_append, List.append_cancel_left_eq]
        exact List.filterMap_cons_some (if_pos rfl)
      have hrun := ih (h.answer hafter hanswer) (hnext ▸ hafter.answer o)
      rwa [List.append_assoc] at hrun

/-- **What holds of every history**: at each call it may be assumed that the call is allowed by what its
thread has heard. -/
theorem Interleaved.induction {Allowed : Thread → Heard ο → ι → Prop}
    (hroutine : ∀ t, Meets (Allowed t) (fun _ _ => True) [] (routine t))
    {Inv : List (ThreadCall Thread ι ο) → σ → Prop} (hstart : Inv [] start)
    (hdrift : ∀ {events s s'}, Inv events s → state.drifts s s' → Inv events s')
    (hanswer : ∀ {events s s' t request o}, Inv events s → Allowed t (heardBy t events) request →
      state.answers request s o s' → Inv (events ++ [⟨t, request, o⟩]) s')
    (h : Interleaved state routine start events s) : Inv events s := by
  induction h with
  | start => exact hstart
  | drift _ hdrifts ih => exact hdrift ih hdrifts
  | @answer events s s' t _ _ _ _ hnext hanswers ih =>
      exact hanswer ih ((hroutine t).after hnext).1 hanswers

/-- What comes before a call was a run, and its state answered the call. -/
theorem Interleaved.answered {before after : List (ThreadCall Thread ι ο)} {e : ThreadCall Thread ι ο}
    (h : Interleaved state routine start events s) (heq : events = before ++ e :: after) :
    ∃ s₁ s₂, Interleaved state routine start before s₁ ∧ state.answers e.request s₁ e.answer s₂ := by
  induction h generalizing after with
  | start => exact absurd (congrArg List.length heq) (by simp)
  | drift _ _ ih => exact ih heq
  | @answer events s s' t request o next hrun hnext hanswer ih =>
      rcases List.eq_nil_or_concat' after with rfl | ⟨after, last, rfl⟩
      · obtain ⟨rfl, hlast⟩ := List.append_inj' heq rfl
        obtain rfl := (List.cons.inj hlast).1
        exact ⟨s, s', hrun, hanswer⟩
      · rw [← List.cons_append, ← List.append_assoc] at heq
        exact ih (List.append_inj' heq rfl).1

/-- Each call was allowed when it was made. -/
theorem Interleaved.allowed {Allowed : Thread → Heard ο → ι → Prop}
    (hroutine : ∀ t, Meets (Allowed t) (fun _ _ => True) [] (routine t))
    {before after : List (ThreadCall Thread ι ο)} {e : ThreadCall Thread ι ο}
    (h : Interleaved state routine start events s) (heq : events = before ++ e :: after) :
    Allowed e.thread (heardBy e.thread before) e.request := by
  induction h generalizing after with
  | start => exact absurd (congrArg List.length heq) (by simp)
  | drift _ _ ih => exact ih heq
  | @answer events s s' t request o next hrun hnext hanswer ih =>
      rcases List.eq_nil_or_concat' after with rfl | ⟨after, last, rfl⟩
      · obtain ⟨rfl, hlast⟩ := List.append_inj' heq rfl
        obtain rfl := (List.cons.inj hlast).1
        exact ((hroutine t).after hnext).1
      · rw [← List.cons_append, ← List.append_assoc] at heq
        exact ih (List.append_inj' heq rfl).1

end Threads
end Dbal
