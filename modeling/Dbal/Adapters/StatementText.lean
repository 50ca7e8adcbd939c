/-
# Texts of statements

The loops that both builders put their statements together with: what the joined texts spell when
each of them spells its template.
-/

import Dbal.Adapters.SqlWhereBuilder
import Dbal.Sql.Template
import Mathlib.Data.List.Forall2

namespace Dbal
namespace Sql

/-- Texts joined by a separator that reads as one token between any two. -/
theorem spells_join {q : Char} {sep : String} {t : Token}
    (hsep : ∀ {a b : String} {ta tb : List Token}, Spells q a ta → Spells q b tb →
      Spells q (a ++ sep ++ b) (ta ++ t :: tb)) :
    ∀ {ss : List String} {tss : List (List Token)}, List.Forall₂ (Spells q) ss tss →
      Spells q (SqlWhereBuilder.join ss sep) (joinTokens t tss) := by
  intro ss tss h
  induction h with
  | nil => exact .empty
  | cons h hs ih =>
      cases hs with
      | nil => exact h
      | cons _ _ =>
          rw [SqlWhereBuilder.join, joinTokens]
          exact hsep h ih

/-- The same for the pieces of the elements of a list. -/
theorem spells_join_map {α ρ : Type} {q : Char} {sep : String} {p : Piece ρ}
    (hsep : ∀ {a b : String} {ta tb : List Token}, Spells q a ta → Spells q b tb →
      Spells q (a ++ sep ++ b) (ta ++ p.token :: tb))
    {f : α → String} {g : α → List (Piece ρ)} (l : List α)
    (h : ∀ a ∈ l, Spells q (f a) (tokensOf (g a))) :
    Spells q (SqlWhereBuilder.join (l.map f) sep) (tokensOf (joinPieces p (l.map g))) := by
  rw [tokensOf_joinPieces, List.map_map]
  refine spells_join hsep ?_
  rw [List.forall₂_map_left_iff, List.forall₂_map_right_iff, List.forall₂_same]
  exact h

theorem spells_commas {α ρ : Type} {q : Char} (hq : IsQuote q) {f : α → String}
    {g : α → List (Piece ρ)} (l : List α) (h : ∀ a ∈ l, Spells q (f a) (tokensOf (g a))) :
    Spells q (SqlWhereBuilder.join (l.map f) ", ") (tokensOf (joinPieces .comma (l.map g))) :=
  spells_join_map (fun ha hb => ha.comma hq hb) l h

theorem spells_ands {α ρ : Type} {q : Char} (hq : IsQuote q) {f : α → String}
    {g : α → List (Piece ρ)} (l : List α) (h : ∀ a ∈ l, Spells q (f a) (tokensOf (g a))) :
    Spells q (SqlWhereBuilder.join (l.map f) " AND ")
      (tokensOf (joinPieces (.kw .and) (l.map g))) :=
  have hand : Spells q "AND" [.kw .and] := .fixed hq (by decide)
  spells_join_map (fun ha hb => ha.word hq hand hb rfl) l h

theorem spells_ors {α ρ : Type} {q : Char} (hq : IsQuote q) {f : α → String}
    {g : α → List (Piece ρ)} (l : List α) (h : ∀ a ∈ l, Spells q (f a) (tokensOf (g a))) :
    Spells q (SqlWhereBuilder.join (l.map f) " OR ") (tokensOf (joinPieces (.kw .or) (l.map g))) :=
  have hor : Spells q "OR" [.kw .or] := .fixed hq (by decide)
  spells_join_map (fun ha hb => ha.word hq hor hb rfl) l h

end Sql
end Dbal
