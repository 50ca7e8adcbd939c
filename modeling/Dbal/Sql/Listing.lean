/-
# Listings

What a `SELECT` on one table asks for, and the answers that SQL allows.  The rows that a listing is
about are kept by its condition and come out as its columns say; `DISTINCT` leaves each of them once.
`ORDER BY` sorts them by its columns, one after the other (`orderLe`), and says nothing about rows
that agree on all of these: each answer is cut out of some arrangement.
-/

import Dbal.Sql.Condition
import Dbal.Store.SortedPages
import Mathlib.Data.List.Dedup

namespace Dbal
namespace Sql

/-- A column that rows are sorted by. -/
structure OrderTerm where
  column : String
  descending : Bool
  deriving DecidableEq, Repr

/-- What a listing asks for; its select list and its condition are token by token. -/
structure Listing where
  distinct : Bool
  columns : List Token
  table : String
  condition : List Token
  order : List OrderTerm
  limit : Nat
  offset : Nat

/-- How an order is written. -/
def orderTokens (order : List OrderTerm) : List Token :=
  if order = [] then []
  else [.word "ORDER", .word "BY"] ++ joinTokens .comma (order.map fun term =>
    [.ident term.column, .word (if term.descending then "DESC" else "ASC")])

namespace Listing

/-- How a listing is written, with its two numbers. -/
def tokens (L : Listing) (limit offset : Token) : List Token :=
  .word "SELECT" :: ((if L.distinct then [.word "DISTINCT"] else []) ++ L.columns ++
    [.word "FROM", .ident L.table] ++ L.condition ++ orderTokens L.order ++
    [.word "LIMIT", limit, .word "OFFSET", offset])

/-- How the count of its rows is written; `label` is what the number is to be called. -/
def countTokens (L : Listing) (label : List Token) : List Token :=
  [.word "SELECT", .word "COUNT", .lparen, .star, .rparen] ++ label ++
    [.word "FROM", .ident L.table] ++ L.condition

end Listing

/-- A database without surprises: a condition keeps some of a table's rows, a select list makes of
each a result row, and these compare by each column. -/
structure Database (ρ τ : Type) where
  rows : String → List ρ
  keeps : List Token → List String → ρ → Bool
  output : List Token → ρ → τ
  columnLe : String → τ → τ → Bool
  preorder : ∀ column, Store.TotalPreorder (columnLe column)

namespace Database

variable {ρ τ : Type} (D : Database ρ τ)

/-- By one term. -/
def termLe (term : OrderTerm) (x y : τ) : Bool :=
  if term.descending then D.columnLe term.column y x else D.columnLe term.column x y

/-- By the terms, a later one where the earlier ones tie. -/
def orderLe : List OrderTerm → τ → τ → Bool
  | [], _, _ => true
  | term :: terms, x, y => D.termLe term x y && (!D.termLe term y x || orderLe terms x y)

theorem termLe_preorder (term : OrderTerm) : Store.TotalPreorder (D.termLe term) := by
  have hcolumn := D.preorder term.column
  unfold termLe
  cases term.descending with
  | false => simpa using hcolumn
  | true =>
      exact ⟨fun x y => by simpa using hcolumn.total y x,
        fun hxy hyz => by simpa using hcolumn.trans (by simpa using hyz) (by simpa using hxy)⟩

/-- **An order compares any two rows**, and its comparisons chain. -/
theorem orderLe_preorder (terms : List OrderTerm) : Store.TotalPreorder (D.orderLe terms) := by
  induction terms with
  | nil => exact ⟨fun _ _ => .inl rfl, fun _ _ => rfl⟩
  | cons term terms ih =>
      have hterm := D.termLe_preorder term
      constructor
      · intro x y
        simp only [orderLe, Bool.and_eq_true, Bool.or_eq_true, Bool.not_eq_true']
        cases hxy : D.termLe term x y <;> cases hyx : D.termLe term y x
        · exact absurd (hterm.total x y) (by simp [hxy, hyx])
        · simp
        · simp
        · simpa using ih.total x y
      · intro x y z
        simp only [orderLe, Bool.and_eq_true, Bool.or_eq_true, Bool.not_eq_true']
        rintro ⟨hxy, hx⟩ ⟨hyz, hy⟩
        refine ⟨hterm.trans hxy hyz, ?_⟩
        cases hzx : D.termLe term z x with
        | false => exact .inl rfl
        | true =>
            have hyx := hterm.trans hyz hzx
            have hzy := hterm.trans hzx hxy
            exact .inr (ih.trans (hx.resolve_left (by simp [hyx])) (hy.resolve_left (by simp [hzy])))

/-- The rows of a table that a condition keeps. -/
def kept (table : String) (condition : List Token) (values : List String) : List ρ :=
  (D.rows table).filter (D.keeps condition values)

/-- The result rows that match, each as often as it is kept. -/
def matching (L : Listing) (values : List String) : List τ :=
  (D.kept L.table L.condition values).map (D.output L.columns)

/-- The answer to a count. -/
def count (L : Listing) (values : List String) : Nat := (D.kept L.table L.condition values).length

theorem count_eq (L : Listing) (values : List String) :
    D.count L values = (D.matching L values).length := (List.length_map _).symm

variable [DecidableEq τ]

/-- The result rows of a listing. -/
def listed (L : Listing) (values : List String) : List τ :=
  if L.distinct then (D.matching L values).dedup else D.matching L values

/-- The answers that a listing may have. -/
def Answers (L : Listing) (values : List String) (items : List τ) : Prop :=
  ∃ a, Store.Arranged (D.orderLe L.order) (D.listed L values) a ∧
    items = Store.window L.offset L.limit a

end Database

end Sql
end Dbal
