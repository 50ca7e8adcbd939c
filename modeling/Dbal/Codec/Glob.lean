/-
# Glob patterns

The patterns of Redis: `*` stands for any characters, `?` for one, `[...]` for one of a class, and
behind a backslash stands the character itself.
-/

import Mathlib.Data.List.Infix

namespace Dbal
namespace Codec

namespace Glob

/-- A piece of a pattern; a class is given by its ranges. -/
inductive Piece where
  | many
  | one
  | literal (c : Char)
  | oneOf (negated : Bool) (ranges : List (Char × Char))
  deriving DecidableEq, Repr

/-- The pieces of a pattern, outside of a class or inside of one. -/
def pieces : Option (Bool × List (Char × Char)) → List Char → List Piece
  | none, [] => []
  | none, '*' :: pattern => .many :: pieces none pattern
  | none, '?' :: pattern => .one :: pieces none pattern
  | none, '[' :: '^' :: pattern => pieces (some (true, [])) pattern
  | none, '[' :: pattern => pieces (some (false, [])) pattern
  | none, '\\' :: c :: pattern => .literal c :: pieces none pattern
  | none, c :: pattern => .literal c :: pieces none pattern
  | some (negated, ranges), [] => [.oneOf negated ranges]
  | some (negated, ranges), '\\' :: c :: pattern => pieces (some (negated, ranges ++ [(c, c)])) pattern
  | some (negated, ranges), ']' :: pattern => .oneOf negated ranges :: pieces none pattern
  | some (negated, ranges), a :: '-' :: b :: pattern =>
      pieces (some (negated, ranges ++ [(a, b)])) pattern
  | some (negated, ranges), c :: pattern => pieces (some (negated, ranges ++ [(c, c)])) pattern

/-- A character between the two ends of a range, in whichever order they stand. -/
def inRange (c : Char) (range : Char × Char) : Bool :=
  (range.1 ≤ c && c ≤ range.2) || (range.2 ≤ c && c ≤ range.1)

/-- One piece after the other. -/
def matchPieces : List Piece → List Char → Bool
  | [], text => text.isEmpty
  | .many :: pattern, text => text.tails.any (matchPieces pattern)
  | .one :: pattern, _ :: text => matchPieces pattern text
  | .literal c :: pattern, c' :: text => c = c' && matchPieces pattern text
  | .oneOf negated ranges :: pattern, c :: text =>
      (ranges.any (inRange c) != negated) && matchPieces pattern text
  | _ :: _, [] => false

end Glob

open Glob

/-- A text matches a pattern. -/
def globMatch (pattern text : List Char) : Bool := matchPieces (pieces none pattern) text

example : globMatch "h[^e-g]?lo*".toList "hallo!".toList = true ∧
    globMatch "h[^e-g]?lo*".toList "hello".toList = false := by
  decide

namespace Glob

/-- A character that stands for itself. -/
def IsPlain (c : Char) : Prop := c ≠ '*' ∧ c ≠ '?' ∧ c ≠ '[' ∧ c ≠ '\\'

instance : DecidablePred IsPlain := fun _ => inferInstanceAs (Decidable (_ ∧ _))

theorem pieces_plain {c : Char} (h : IsPlain c) (pattern : List Char) :
    pieces none (c :: pattern) = .literal c :: pieces none pattern := by
  obtain ⟨hmany, hone, hclass, hescape⟩ := h
  rw [pieces] <;> simp_all

theorem pieces_append {plain : List Char} (h : ∀ c ∈ plain, IsPlain c) (pattern : List Char) :
    pieces none (plain ++ pattern) = plain.map .literal ++ pieces none pattern := by
  induction plain with
  | nil => rfl
  | cons c plain ih =>
      rw [List.cons_append, pieces_plain (h c List.mem_cons_self),
        ih fun c' hc' => h c' (List.mem_cons_of_mem c hc')]
      rfl

/-- Literal pieces are a front. -/
theorem matchPieces_append {plain : List Char} (pattern : List Piece) (text : List Char) :
    matchPieces (plain.map .literal ++ pattern) text = true ↔
      ∃ rest, text = plain ++ rest ∧ matchPieces pattern rest = true := by
  induction plain generalizing text with
  | nil => simp
  | cons c plain ih =>
      cases text with
      | nil => simp [matchPieces]
      | cons c' text =>
          simp only [List.map_cons, List.cons_append, matchPieces, Bool.and_eq_true,
            decide_eq_true_eq, ih text, List.cons.injEq]
          constructor
          · rintro ⟨rfl, rest, rfl, hrest⟩
            exact ⟨rest, ⟨rfl, rfl⟩, hrest⟩
          · rintro ⟨rest, ⟨rfl, rfl⟩, hrest⟩
            exact ⟨rfl, rest, rfl, hrest⟩

theorem matchPieces_many (text : List Char) : matchPieces [.many] text = true := by
  rw [matchPieces, List.any_eq_true]
  exact ⟨[], (List.mem_tails _ _).2 (List.nil_suffix), rfl⟩

end Glob

/-- **A plain text with a star behind it matches what begins with the text.** -/
theorem globMatch_star_iff {plain : List Char} (h : ∀ c ∈ plain, Glob.IsPlain c) (text : List Char) :
    globMatch (plain ++ ['*']) text = true ↔ plain <+: text := by
  have hstar : pieces none ['*'] = [.many] := rfl
  rw [globMatch, pieces_append h, hstar, matchPieces_append]
  constructor
  · rintro ⟨rest, rfl, -⟩
    exact List.prefix_append plain rest
  · rintro ⟨rest, rfl⟩
    exact ⟨rest, rfl, matchPieces_many rest⟩

end Codec
end Dbal
