/-
# Recursions bounded by a number

A recursion without a measure is written with a number that bounds its depth,
and is `none` when the depth is used up.  It *settles* on a value when every
depth from some depth on gives that value, and then it ends with that value.
-/

import Mathlib.Data.Nat.Basic

namespace Dbal

variable {α β : Type}

/-- Every large enough depth gives the value `b`. -/
def Settles (f : Nat → Option β) (b : β) : Prop := ∃ n, ∀ m, n ≤ m → f m = some b

namespace Settles

theorem const (b : β) : Settles (fun _ => some b) b := ⟨0, fun _ _ => rfl⟩

theorem exists_fuel {f : Nat → Option β} {b : β} (h : Settles f b) : ∃ n, f n = some b := by
  obtain ⟨n, hn⟩ := h
  exact ⟨n, hn n (Nat.le_refl n)⟩

/-- A recursion settles with its body one level down. -/
theorem succ {f g : Nat → Option β} {b : β} (h : Settles g b) (hfg : ∀ n, f (n + 1) = g n) :
    Settles f b := by
  obtain ⟨n, hn⟩ := h
  refine ⟨n + 1, fun m hm => ?_⟩
  obtain ⟨k, rfl⟩ : ∃ k, m = k + 1 := ⟨m - 1, by omega⟩
  rw [hfg, hn k (by omega)]

/-- Two recursions at once. -/
theorem and {f : Nat → Option α} {g : Nat → Option β} {a : α} {b : β} (hf : Settles f a)
    (hg : Settles g b) : ∃ n, ∀ m, n ≤ m → f m = some a ∧ g m = some b := by
  obtain ⟨n, hn⟩ := hf
  obtain ⟨k, hk⟩ := hg
  exact ⟨max n k, fun m hm => ⟨hn m (by omega), hk m (by omega)⟩⟩

end Settles
end Dbal
