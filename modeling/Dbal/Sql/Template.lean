/-
# Templates of statements

A statement with placeholders, token by token, where each placeholder is marked with what it
stands for: a `slot`.  The tokens of a template are what a text is to read as, its slots in order
are what the values are to be bound to, and its identifiers are the names in it.
-/

import Dbal.Sql.Condition
import Dbal.Sql.Spelling

namespace Dbal
namespace Sql

/-- A token of a statement, or a placeholder that stands for a `ρ`. -/
inductive Piece (ρ : Type) where
  | kw (k : Keyword)
  | word (s : String)
  | ident (s : String)
  | num (s : String)
  | lparen | rparen | comma | star
  | cmp (op : CmpOp)
  | slot (role : ρ)
  deriving DecidableEq, Repr

/-- The token of a comparison. -/
def CmpOp.token : CmpOp → Token
  | .eq => .eq
  | .ne => .ne
  | .lt => .lt
  | .le => .le
  | .gt => .gt
  | .ge => .ge

variable {ρ : Type}

/-- A piece as a token; a slot is a bare placeholder. -/
def Piece.token : Piece ρ → Token
  | .kw k => .kw k
  | .word s => .word s
  | .ident s => .ident s
  | .num s => .num s
  | .lparen => .lparen
  | .rparen => .rparen
  | .comma => .comma
  | .star => .star
  | .cmp op => op.token
  | .slot _ => .param none

/-- The tokens of a template. -/
def tokensOf (ps : List (Piece ρ)) : List Token := ps.map Piece.token

/-- What its placeholders stand for, in order. -/
def slots : List (Piece ρ) → List ρ
  | [] => []
  | .slot role :: ps => role :: slots ps
  | _ :: ps => slots ps

/-- The names in it, in order. -/
def names : List (Piece ρ) → List String
  | [] => []
  | .ident s :: ps => s :: names ps
  | _ :: ps => names ps

@[simp] theorem tokensOf_nil : tokensOf ([] : List (Piece ρ)) = [] := rfl

@[simp] theorem tokensOf_cons (p : Piece ρ) (ps : List (Piece ρ)) :
    tokensOf (p :: ps) = p.token :: tokensOf ps := rfl

@[simp] theorem tokensOf_append (ps qs : List (Piece ρ)) :
    tokensOf (ps ++ qs) = tokensOf ps ++ tokensOf qs := List.map_append

@[simp] theorem slots_append (ps qs : List (Piece ρ)) : slots (ps ++ qs) = slots ps ++ slots qs := by
  induction ps with
  | nil => rfl
  | cons p ps ih => cases p <;> simp [slots, ih]

/-- A piece that is no slot adds none. -/
theorem slots_cons {p : Piece ρ} (hp : slots [p] = []) (ps : List (Piece ρ)) :
    slots (p :: ps) = slots ps := by
  rw [← List.singleton_append, slots_append, hp, List.nil_append]

@[simp] theorem names_append (ps qs : List (Piece ρ)) : names (ps ++ qs) = names ps ++ names qs := by
  induction ps with
  | nil => rfl
  | cons p ps ih => cases p <;> simp [names, ih]

/-- There are as many placeholders as slots. -/
theorem length_placeholders_tokensOf (ps : List (Piece ρ)) :
    (placeholders (tokensOf ps)).length = (slots ps).length := by
  induction ps with
  | nil => rfl
  | cons p ps ih =>
      rw [tokensOf_cons]
      cases p with
      | slot role => simp [Piece.token, placeholders, slots, ih]
      | cmp op => cases op <;> simpa [Piece.token, CmpOp.token, placeholders, slots] using ih
      | _ => simpa [Piece.token, placeholders, slots] using ih

/-- The identifiers of its tokens are its names. -/
theorem ident_mem_tokensOf {name : String} {ps : List (Piece ρ)} :
    .ident name ∈ tokensOf ps ↔ name ∈ names ps := by
  induction ps with
  | nil => exact ⟨nofun, nofun⟩
  | cons p ps ih =>
      rw [tokensOf_cons]
      cases p with
      | ident s => simp [Piece.token, names, ih]
      | cmp op => cases op <;> simpa [Piece.token, CmpOp.token, names] using ih
      | _ => simpa [Piece.token, names] using ih

/-- **The names of a template are free of the quote exactly when its identifiers are.** -/
theorem unquoted_tokensOf {q : Char} {ps : List (Piece ρ)} :
    Unquoted q (tokensOf ps) ↔ ∀ name ∈ names ps, q ∉ name.toList := by
  simp only [Unquoted, ident_mem_tokensOf]

/-! ### Templates one after the other -/

/-- Templates with a piece between each two. -/
def joinPieces (sep : Piece ρ) : List (List (Piece ρ)) → List (Piece ρ)
  | [] => []
  | [ps] => ps
  | ps :: qs :: pss => ps ++ sep :: joinPieces sep (qs :: pss)

theorem tokensOf_joinPieces (sep : Piece ρ) : ∀ pss : List (List (Piece ρ)),
    tokensOf (joinPieces sep pss) = joinTokens sep.token (pss.map tokensOf)
  | [] => rfl
  | [ps] => rfl
  | ps :: qs :: pss => by
      rw [joinPieces, tokensOf_append, tokensOf_cons, tokensOf_joinPieces sep (qs :: pss)]
      rfl

/-- What is between them is no slot. -/
theorem slots_joinPieces {sep : Piece ρ} (hsep : slots [sep] = []) :
    ∀ pss : List (List (Piece ρ)), slots (joinPieces sep pss) = pss.flatMap slots
  | [] => rfl
  | [ps] => by simp [joinPieces]
  | ps :: qs :: pss => by
      rw [joinPieces, slots_append, slots_cons hsep, slots_joinPieces hsep (qs :: pss)]
      rfl

/-- The names of joined templates are theirs. -/
theorem mem_names_joinPieces {sep : Piece ρ} (hsep : names [sep] = []) {name : String} :
    ∀ {pss : List (List (Piece ρ))},
      name ∈ names (joinPieces sep pss) ↔ ∃ ps ∈ pss, name ∈ names ps
  | [] => ⟨nofun, nofun⟩
  | [ps] => by simp [joinPieces]
  | ps :: qs :: pss => by
      rw [joinPieces, names_append, ← List.singleton_append, names_append, hsep, List.nil_append,
        List.mem_append, mem_names_joinPieces hsep]
      simp only [List.mem_cons, exists_eq_or_imp]

/-! ### What placeholders take -/

variable {α : Type}

/-- The value that each placeholder takes: the one with its number, counted from one, or the next
where it has none. -/
def bindings (values : List α) : Nat → List (Option Nat) → List (Option α)
  | _, [] => []
  | i, none :: ps => values[i]? :: bindings values (i + 1) ps
  | i, some 0 :: ps => none :: bindings values i ps
  | i, some (n + 1) :: ps => values[n]? :: bindings values i ps

/-- Consecutive numbers take consecutive values. -/
theorem bindings_numbered {all back : List α} {i : Nat} {rest : List (Option Nat)} :
    ∀ {front values : List α}, all = front ++ values ++ back →
      bindings all i ((List.range' (front.length + 1) values.length).map some ++ rest) =
        values.map some ++ bindings all i rest
  | front, [], _ => rfl
  | front, value :: values, h => by
      have hvalue : all[front.length]? = some value := by simp [h]
      have hrest : all = (front ++ [value]) ++ values ++ back := by simp [h]
      have ih := @bindings_numbered all back i rest (front ++ [value]) values hrest
      rw [List.length_append, List.length_singleton] at ih
      rw [List.length_cons, List.range'_succ, List.map_cons, List.cons_append, bindings, hvalue, ih]
      rfl

/-- Bare placeholders take the values as they come. -/
theorem bindings_bare {all : List α} :
    ∀ {front values : List α}, all = front ++ values →
      bindings all front.length (List.replicate values.length none) = values.map some
  | front, [], _ => rfl
  | front, value :: values, h => by
      have hvalue : all[front.length]? = some value := by simp [h]
      have hrest : all = (front ++ [value]) ++ values := by simp [h]
      have ih := bindings_bare hrest
      rw [List.length_append, List.length_singleton] at ih
      rw [List.length_cons, List.replicate_succ, bindings, hvalue, ih]
      rfl

end Sql
end Dbal
