/-
# Keys that are remembered for a while

A memory of keys, each with the time at which it was stored.  A key that is presented is fresh if
the memory does not hold it, and is stored then.  At any time the memory may forget keys that were
stored longer ago than the memory has to last.  A key is fresh twice only if more than that time
lies between, and the first time that it is presented it is fresh.
-/

import Mathlib.Algebra.Order.Group.Defs
import Mathlib.Algebra.Order.Monoid.Unbundled.Basic
import Mathlib.Data.List.Basic

namespace Dbal
namespace Recall

/-- A key that was presented. -/
structure Presentation (κ τ : Type) where
  key : κ
  time : τ
  fresh : Bool

variable {κ τ : Type} [LinearOrder τ] [AddCommGroup τ]

/-- A key that is presented is stored if it is not there. -/
def store [DecidableEq κ] (memory : κ → Option τ) (key : κ) (now : τ) : κ → Option τ :=
  fun k => if k = key ∧ memory key = none then some now else memory k

/-- What is left of the memory: what is gone was stored longer ago than `lasts`. -/
def Forgets (lasts now : τ) (memory memory' : κ → Option τ) : Prop :=
  ∀ key, memory' key = memory key ∨
    memory' key = none ∧ ∀ time ∈ memory key, time + lasts < now

/-- The runs from an empty memory, with the time, the memory and what was presented. -/
inductive Run [DecidableEq κ] (lasts : τ) : τ → (κ → Option τ) → List (Presentation κ τ) → Prop where
  | start (now : τ) : Run lasts now (fun _ => none) []
  | wait {now later : τ} {memory : κ → Option τ} {presented : List (Presentation κ τ)} :
      Run lasts now memory presented → now ≤ later → Run lasts later memory presented
  | forget {now : τ} {memory memory' : κ → Option τ} {presented : List (Presentation κ τ)} :
      Run lasts now memory presented → Forgets lasts now memory memory' →
        Run lasts now memory' presented
  | present {now : τ} {memory : κ → Option τ} {presented : List (Presentation κ τ)} (key : κ) :
      Run lasts now memory presented →
        Run lasts now (store memory key now) (presented ++ [⟨key, now, (memory key).isNone⟩])

/-- Two presentations of one key are not both fresh unless more than `lasts` lies between. -/
def Spaced (lasts : τ) (p q : Presentation κ τ) : Prop :=
  p.fresh = true → q.fresh = true → p.key = q.key → lasts < q.time - p.time

/-- The key is in the memory since then or later, or its time is over. -/
def Held (lasts now : τ) (memory : κ → Option τ) (p : Presentation κ τ) : Prop :=
  (∃ time, memory p.key = some time ∧ p.time ≤ time) ∨ p.time + lasts < now

/-- What holds throughout a run. -/
structure Inv (lasts now : τ) (memory : κ → Option τ) (presented : List (Presentation κ τ)) :
    Prop where
  held : ∀ p ∈ presented, p.fresh = true → Held lasts now memory p
  known : ∀ key, memory key ≠ none → ∃ p ∈ presented, p.key = key
  spaced : presented.Pairwise (Spaced lasts)

variable {lasts now later : τ} {memory memory' : κ → Option τ} {presented : List (Presentation κ τ)}

namespace Inv

theorem start (lasts now : τ) : Inv lasts now (fun _ : κ => none) [] :=
  ⟨by simp, by simp, .nil⟩

theorem wait (h : Inv lasts now memory presented) (hlater : now ≤ later) :
    Inv lasts later memory presented where
  held p hp hfresh := (h.held p hp hfresh).imp_right fun hover => hover.trans_le hlater
  known := h.known
  spaced := h.spaced

theorem forget [IsOrderedAddMonoid τ] (h : Inv lasts now memory presented)
    (hforgets : Forgets lasts now memory memory') : Inv lasts now memory' presented where
  held p hp hfresh := by
    rcases h.held p hp hfresh with ⟨time, hmemory, htime⟩ | hover
    · rcases hforgets p.key with hkept | ⟨-, hold⟩
      · exact .inl ⟨time, hkept.trans hmemory, htime⟩
      · exact .inr ((add_le_add_left htime lasts).trans_lt (hold time hmemory))
    · exact .inr hover
  known key hkey := by
    rcases hforgets key with hkept | ⟨hgone, -⟩
    · exact h.known key (hkept ▸ hkey)
    · exact absurd hgone hkey
  spaced := h.spaced

theorem present [DecidableEq κ] [IsOrderedAddMonoid τ] (h : Inv lasts now memory presented) (key : κ) :
    Inv lasts now (store memory key now) (presented ++ [⟨key, now, (memory key).isNone⟩]) where
  held p hp hfresh := by
    rcases List.mem_append.1 hp with hp | hp
    · refine (h.held p hp hfresh).imp_left ?_
      rintro ⟨time, hmemory, htime⟩
      refine ⟨time, ?_, htime⟩
      rw [store, if_neg, hmemory]
      rintro ⟨heq, hnone⟩
      rw [heq, hnone] at hmemory
      cases hmemory
    · obtain rfl := List.mem_singleton.1 hp
      exact .inl ⟨now, if_pos ⟨rfl, Option.isNone_iff_eq_none.1 hfresh⟩, le_rfl⟩
  known k hk := by
    by_cases heq : k = key
    · exact ⟨_, List.mem_append_right _ (List.mem_singleton_self _), heq.symm⟩
    · rw [store, if_neg fun hand => heq hand.1] at hk
      obtain ⟨p, hp, hkey⟩ := h.known k hk
      exact ⟨p, List.mem_append_left _ hp, hkey⟩
  spaced := by
    refine List.pairwise_append.2 ⟨h.spaced, List.pairwise_singleton _ _, fun p hp q hq => ?_⟩
    obtain rfl := List.mem_singleton.1 hq
    intro hp' hfresh hkey
    have hnone : memory p.key = none := by
      rw [hkey]
      exact Option.isNone_iff_eq_none.1 hfresh
    rcases h.held p hp hp' with ⟨time, hmemory, -⟩ | hover
    · rw [hnone] at hmemory
      cases hmemory
    · exact lt_sub_iff_add_lt'.2 hover

end Inv

variable [DecidableEq κ]

theorem Run.inv [IsOrderedAddMonoid τ] (h : Run lasts now memory presented) :
    Inv lasts now memory presented := by
  induction h with
  | start now => exact .start lasts now
  | wait _ hlater ih => exact ih.wait hlater
  | forget _ hforgets ih => exact ih.forget hforgets
  | present key _ ih => exact ih.present key

/-- **A key is fresh twice only if its time was over in between.** -/
theorem Run.spaced [IsOrderedAddMonoid τ] (h : Run lasts now memory presented) :
    presented.Pairwise (Spaced lasts) :=
  h.inv.spaced

/-- **The first time that a key is presented it is fresh.** -/
theorem Run.fresh_of_first [IsOrderedAddMonoid τ] (h : Run lasts now memory presented)
    {before after : List (Presentation κ τ)} {p : Presentation κ τ}
    (hsplit : presented = before ++ p :: after) (hfirst : ∀ q ∈ before, q.key ≠ p.key) :
    p.fresh = true := by
  induction h generalizing after with
  | start now => simp at hsplit
  | wait _ _ ih => exact ih hsplit
  | forget _ _ ih => exact ih hsplit
  | @present now memory presented key hrun ih =>
      rcases after.eq_nil_or_concat with rfl | ⟨after, q, rfl⟩
      · obtain ⟨rfl, hp⟩ := List.append_inj' hsplit rfl
        obtain rfl := List.singleton_inj.1 hp
        refine Option.isNone_iff_eq_none.2 (by_contra fun hknown => ?_)
        obtain ⟨q, hq, hkey⟩ := hrun.inv.known key hknown
        exact hfirst q hq hkey
      · rw [List.concat_eq_append, ← List.cons_append, ← List.append_assoc] at hsplit
        exact ih (List.append_inj' hsplit rfl).1

end Recall
end Dbal
