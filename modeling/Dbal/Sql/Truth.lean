/-
# Three-valued truth

A SQL comparison with a `NULL` operand is neither true nor false, and a `WHERE`
clause keeps the rows for which it is *true*.  `Truth` is that three-valued
logic with the tables of `AND`, `OR` and `NOT`, and `conj`, `disj` are its
conjunctions and disjunctions of any length, the shape a clause built from a
list of fragments has.
-/

import Mathlib.Data.List.Basic

namespace Dbal
namespace Sql

/-- A truth value: false, unknown or true. -/
inductive Truth where
  | ff
  | unknown
  | tt
  deriving DecidableEq, Repr

namespace Truth

/-- The value of a comparison whose operands are both present. -/
def ofBool (b : Bool) : Truth := if b then tt else ff

/-- `AND`: false wins over unknown, unknown over true. -/
def and : Truth → Truth → Truth
  | ff, _ => ff
  | _, ff => ff
  | tt, b => b
  | unknown, _ => unknown

/-- `OR`: true wins over unknown, unknown over false. -/
def or : Truth → Truth → Truth
  | tt, _ => tt
  | _, tt => tt
  | ff, b => b
  | unknown, _ => unknown

/-- `NOT`, which leaves unknown unknown. -/
def not : Truth → Truth
  | ff => tt
  | unknown => unknown
  | tt => ff

@[simp] theorem ofBool_eq_tt {b : Bool} : ofBool b = tt ↔ b = true := by
  cases b <;> simp [ofBool]

@[simp] theorem and_tt (a : Truth) : and a tt = a := by cases a <;> rfl

@[simp] theorem tt_and (a : Truth) : and tt a = a := by cases a <;> rfl

@[simp] theorem or_ff (a : Truth) : or a ff = a := by cases a <;> rfl

theorem and_eq_tt {a b : Truth} : and a b = tt ↔ a = tt ∧ b = tt := by
  cases a <;> cases b <;> simp [and]

theorem or_eq_tt {a b : Truth} : or a b = tt ↔ a = tt ∨ b = tt := by
  cases a <;> cases b <;> simp [or]

/-- The conjunction of a list, true when the list is empty. -/
def conj (l : List Truth) : Truth := l.foldr and tt

/-- The disjunction of a list, false when the list is empty. -/
def disj (l : List Truth) : Truth := l.foldr or ff

@[simp] theorem conj_nil : conj [] = tt := rfl

@[simp] theorem conj_cons (a : Truth) (l : List Truth) : conj (a :: l) = and a (conj l) := rfl

@[simp] theorem disj_nil : disj [] = ff := rfl

@[simp] theorem disj_cons (a : Truth) (l : List Truth) : disj (a :: l) = or a (disj l) := rfl

/-- **A conjunction is true exactly when each member is.** -/
theorem conj_eq_tt {l : List Truth} : conj l = tt ↔ ∀ a ∈ l, a = tt := by
  induction l with
  | nil => simp
  | cons a l ih => rw [conj_cons, and_eq_tt, ih, List.forall_mem_cons]

end Truth
end Sql
end Dbal
