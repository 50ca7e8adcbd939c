/-
# The condition of a WHERE clause

The grammar of search conditions that a query builder draws from: comparisons,
`LIKE` and `ILIKE`, `IS NULL`, `IN`, `BETWEEN`, their connectives and brackets.
`parseOr`, `parseAnd` and `parsePrimary` are the three levels of precedence, so
`AND` binds tighter than `OR`, and the `AND` of a `BETWEEN` belongs to it.

The list of an `IN` may be empty, as SQLite has it: nothing is in it, not even nothing.

A condition is read over a row that maps a column to text or to nothing, with
its placeholders bound by a second map and its truth in three values (`Truth`).
What the order and the patterns of text are is the database's (`Collation`).

`parseTokens_join` is what a builder of clauses needs: pieces that each parse on
their own, joined by `AND`, parse as the conjunction of the pieces, and a
bracketed group joined by `OR` is such a piece (`ParsesPrimary.group`).
-/

import Dbal.Sql.Lexer
import Dbal.Sql.Truth

namespace Dbal
namespace Sql

/-- The six comparison operators. -/
inductive CmpOp where
  | eq | ne | lt | le | gt | ge
  deriving DecidableEq, Repr

/-- What stands on a side of an operator. -/
inductive Operand where
  | col (name : String)
  | param (n : Nat)
  | lit (s : String)
  /-- A function of one argument, as `LOWER` is. -/
  | call (fn : String) (arg : Operand)
  deriving DecidableEq, Repr

/-- A search condition. -/
inductive Cond where
  | cmp (op : CmpOp) (a b : Operand)
  | like (a b : Operand)
  | ilike (a b : Operand)
  | isNull (negated : Bool) (a : Operand)
  | inList (negated : Bool) (a : Operand) (xs : List Operand)
  | between (a lo hi : Operand)
  | and (c d : Cond)
  | or (c d : Cond)
  deriving DecidableEq, Repr

/-- What a database does with text: its order, its patterns, its functions. -/
structure Collation where
  lt : String → String → Bool
  like : String → String → Bool
  fn : String → String → String

/-- A row: the text in a column, or nothing. -/
abbrev Row := String → Option String

/-- The values of the placeholders. -/
abbrev Binding := Nat → Option String

/-- The value of an operand; a function of nothing is nothing. -/
def Operand.eval (C : Collation) (b : Binding) (r : Row) : Operand → Option String
  | .col name => r name
  | .param n => b n
  | .lit s => some s
  | .call fn arg => (arg.eval C b r).map (C.fn fn)

/-- A comparison of two present values. -/
def CmpOp.holds (C : Collation) : CmpOp → String → String → Bool
  | .eq, x, y => x == y
  | .ne, x, y => x != y
  | .lt, x, y => C.lt x y
  | .le, x, y => C.lt x y || x == y
  | .gt, x, y => C.lt y x
  | .ge, x, y => C.lt y x || x == y

/-- A two-valued relation between values that may be missing. -/
def lift (f : String → String → Bool) : Option String → Option String → Truth
  | some x, some y => .ofBool (f x y)
  | _, _ => .unknown

/-- `x IN (ys)`: one of the comparisons `x = y` holds. -/
def memberOf (x : Option String) (ys : List (Option String)) : Truth :=
  .disj (ys.map fun y => lift (· == ·) x y)

/-- The truth of a condition over a row. -/
def Cond.eval (C : Collation) (b : Binding) (r : Row) : Cond → Truth
  | .cmp op x y => lift (op.holds C) (x.eval C b r) (y.eval C b r)
  | .like x y => lift C.like (x.eval C b r) (y.eval C b r)
  | .ilike x y =>
      lift C.like ((x.eval C b r).map (C.fn "LOWER")) ((y.eval C b r).map (C.fn "LOWER"))
  | .isNull negated x => .ofBool ((x.eval C b r).isNone != negated)
  | .inList negated x ys =>
      let t := memberOf (x.eval C b r) (ys.map (Operand.eval C b r))
      if negated then t.not else t
  | .between x lo hi =>
      (lift (CmpOp.holds C .ge) (x.eval C b r) (lo.eval C b r)).and
        (lift (CmpOp.holds C .le) (x.eval C b r) (hi.eval C b r))
  | .and c d => (c.eval C b r).and (d.eval C b r)
  | .or c d => (c.eval C b r).or (d.eval C b r)

/-! ### Parsing -/

/-- A column, a placeholder or a literal. -/
def parseAtom : List Token → Option (Operand × List Token)
  | .ident s :: ts => some (.col s, ts)
  | .param (some n) :: ts => some (.param n, ts)
  | .num s :: ts => some (.lit s, ts)
  | .str s :: ts => some (.lit s, ts)
  | _ => none

/-- An operand: a function applied to an atom, or an atom. -/
def parseOperand : List Token → Option (Operand × List Token)
  | .word fn :: .lparen :: ts =>
      match parseAtom ts with
      | some (a, .rparen :: rest) => some (.call fn a, rest)
      | _ => none
  | ts => parseAtom ts

/-- The operands of an `IN` up to its closing bracket; the number bounds them. -/
def parseOperands : Nat → List Token → Option (List Operand × List Token)
  | 0, _ => none
  | n + 1, ts =>
      match parseOperand ts with
      | some (a, .comma :: rest) => (parseOperands n rest).map fun (as, r) => (a :: as, r)
      | some (a, .rparen :: rest) => some ([a], rest)
      | _ => none

/-- The list of an `IN` after its opening bracket. -/
def parseList : List Token → Option (List Operand × List Token)
  | .rparen :: ts => some ([], ts)
  | ts => parseOperands ts.length ts

/-- The right-hand side of an operator with two operands. -/
def parseRight (f : Operand → Cond) (ts : List Token) : Option (Cond × List Token) :=
  (parseOperand ts).map fun (b, rest) => (f b, rest)

/-- A condition without connectives. -/
def parsePredicate (ts : List Token) : Option (Cond × List Token) :=
  match parseOperand ts with
  | none => none
  | some (a, rest) =>
      match rest with
      | .eq :: ts => parseRight (.cmp .eq a) ts
      | .ne :: ts => parseRight (.cmp .ne a) ts
      | .lt :: ts => parseRight (.cmp .lt a) ts
      | .le :: ts => parseRight (.cmp .le a) ts
      | .gt :: ts => parseRight (.cmp .gt a) ts
      | .ge :: ts => parseRight (.cmp .ge a) ts
      | .kw .like :: ts => parseRight (.like a) ts
      | .kw .ilike :: ts => parseRight (.ilike a) ts
      | .kw .is :: .kw .null :: ts => some (.isNull false a, ts)
      | .kw .is :: .kw .not :: .kw .null :: ts => some (.isNull true a, ts)
      | .kw .in :: .lparen :: ts =>
          (parseList ts).map fun (xs, rest) => (.inList false a xs, rest)
      | .kw .not :: .kw .in :: .lparen :: ts =>
          (parseList ts).map fun (xs, rest) => (.inList true a xs, rest)
      | .kw .between :: ts =>
          match parseOperand ts with
          | some (lo, .kw .and :: rest) => parseRight (.between a lo) rest
          | _ => none
      | _ => none

mutual

/-- Conditions joined by `OR`; the number bounds the depth of the reading. -/
def parseOr : Nat → List Token → Option (Cond × List Token)
  | 0, _ => none
  | n + 1, ts =>
      match parseAnd n ts with
      | some (c, .kw .or :: rest) => (parseOr n rest).map fun (d, r) => (.or c d, r)
      | r => r

/-- Conditions joined by `AND`. -/
def parseAnd : Nat → List Token → Option (Cond × List Token)
  | 0, _ => none
  | n + 1, ts =>
      match parsePrimary n ts with
      | some (c, .kw .and :: rest) => (parseAnd n rest).map fun (d, r) => (.and c d, r)
      | r => r

/-- A bracketed condition or a predicate. -/
def parsePrimary : Nat → List Token → Option (Cond × List Token)
  | 0, _ => none
  | n + 1, .lparen :: ts =>
      match parseOr n ts with
      | some (c, .rparen :: rest) => some (c, rest)
      | _ => none
  | _ + 1, ts => parsePredicate ts

end

/-- A whole token list as one condition. -/
def parseTokens (ts : List Token) : Option Cond :=
  match parseOr (2 * ts.length + 4) ts with
  | some (c, []) => some c
  | _ => none

/-- Bare placeholders are numbered in the order they stand in, from `k`. -/
def numberParams : Nat → List Token → List Token
  | _, [] => []
  | k, .param none :: ts => .param (some k) :: numberParams (k + 1) ts
  | k, t :: ts => t :: numberParams k ts

/-- A `WHERE` clause, or no clause at all where the text is blank; bare
placeholders are numbered from `first`. -/
def parseWhere (q : Char) (first : Nat) (s : String) : Option (Option Cond) :=
  match tokens q s.toList with
  | some [] => some none
  | some (.kw .where :: ts) => (parseTokens (numberParams first ts)).map some
  | _ => none

/-- The truth of a clause; every row passes where there is none. -/
def evalWhere (C : Collation) (b : Binding) (r : Row) : Option Cond → Truth
  | none => .tt
  | some c => c.eval C b r

/-! ### Texts assembled from pieces -/

/-- The token list `ts` reads as the condition `c`, whatever stands after it. -/
def ParsesPrimary (ts : List Token) (c : Cond) : Prop :=
  ts ≠ [] ∧ ∀ n, 2 * ts.length ≤ n → ∀ rest, parsePrimary n (ts ++ rest) = some (c, rest)

/-- Token lists with a token between each two. -/
def joinTokens (sep : Token) : List (List Token) → List Token
  | [] => []
  | [ts] => ts
  | ts :: us :: tss => ts ++ sep :: joinTokens sep (us :: tss)

/-- The conjunction of conditions, nested to the right as `parseAnd` nests it. -/
def andAll (c : Cond) : List Cond → Cond
  | [] => c
  | d :: ds => .and c (andAll d ds)

/-- The disjunction of conditions, nested to the right as `parseOr` nests it. -/
def orAll (c : Cond) : List Cond → Cond
  | [] => c
  | d :: ds => .or c (orAll d ds)

theorem andAll_eval (C : Collation) (b : Binding) (r : Row) :
    ∀ (c : Cond) (cs : List Cond),
      (andAll c cs).eval C b r = .conj ((c :: cs).map (Cond.eval C b r))
  | c, [] => by simp [andAll]
  | c, d :: ds => by simp [andAll, Cond.eval, andAll_eval C b r d ds]

theorem orAll_eval (C : Collation) (b : Binding) (r : Row) :
    ∀ (c : Cond) (cs : List Cond),
      (orAll c cs).eval C b r = .disj ((c :: cs).map (Cond.eval C b r))
  | c, [] => by simp [orAll]
  | c, d :: ds => by simp [orAll, Cond.eval, orAll_eval C b r d ds]

/-- A predicate is a primary, unless it opens with a bracket. -/
theorem ParsesPrimary.predicate {ts : List Token} {c : Cond} {t : Token} (ht : t ≠ .lparen)
    (h : ∀ rest, parsePredicate (t :: ts ++ rest) = some (c, rest)) :
    ParsesPrimary (t :: ts) c := by
  refine ⟨List.cons_ne_nil _ _, fun n hn rest => ?_⟩
  obtain ⟨m, rfl⟩ : ∃ m, n = m + 1 := ⟨n - 1, by simp at hn; omega⟩
  have hp := h rest
  rw [List.cons_append] at hp ⊢
  rw [parsePrimary.eq_def]
  simp [ht, hp]

/-- **Pieces joined by `AND` parse as their conjunction**, up to a token that is
no `AND`. -/
theorem parseAnd_chain {rest : List Token} (hrest : ∀ us, rest ≠ .kw .and :: us) :
    ∀ {ts : List Token} {tss : List (List Token)} {c : Cond} {cs : List Cond} {n : Nat},
      ParsesPrimary ts c → List.Forall₂ ParsesPrimary tss cs →
      2 * (joinTokens (.kw .and) (ts :: tss)).length + 1 ≤ n →
      parseAnd n (joinTokens (.kw .and) (ts :: tss) ++ rest) = some (andAll c cs, rest)
  | ts, [], c, cs, n + 1, hc, hcs, hn => by
      cases hcs
      rw [joinTokens] at hn ⊢
      rw [parseAnd, hc.2 n (by omega)]
      cases rest with
      | nil => rfl
      | cons t us =>
          have : t ≠ .kw .and := fun h => hrest us (by rw [h])
          simp [this, andAll]
  | ts, us :: tss, c, d :: ds, n + 1, hc, .cons hd hds, hn => by
      rw [joinTokens] at hn ⊢
      rw [List.length_append, List.length_cons] at hn
      have ih := parseAnd_chain hrest (n := n) hd hds (by omega)
      rw [List.append_assoc, List.cons_append, parseAnd, hc.2 n (by omega)]
      simp [ih, andAll]

/-- **Pieces joined by `OR` parse as their disjunction**, up to a token that is
neither `AND` nor `OR`. -/
theorem parseOr_chain {rest : List Token} (hand : ∀ us, rest ≠ .kw .and :: us)
    (hor : ∀ us, rest ≠ .kw .or :: us) :
    ∀ {ts : List Token} {tss : List (List Token)} {c : Cond} {cs : List Cond} {n : Nat},
      ParsesPrimary ts c → List.Forall₂ ParsesPrimary tss cs →
      2 * (joinTokens (.kw .or) (ts :: tss)).length + 2 ≤ n →
      parseOr n (joinTokens (.kw .or) (ts :: tss) ++ rest) = some (orAll c cs, rest)
  | ts, [], c, cs, n + 1, hc, hcs, hn => by
      cases hcs
      rw [joinTokens] at hn ⊢
      have h1 : parseAnd n (joinTokens (.kw .and) [ts] ++ rest) = some (andAll c [], rest) :=
        parseAnd_chain hand hc .nil (by rw [joinTokens]; omega)
      rw [joinTokens, andAll] at h1
      rw [parseOr, h1]
      cases rest with
      | nil => rfl
      | cons t us =>
          have : t ≠ .kw .or := fun h => hor us (by rw [h])
          simp [this, orAll]
  | ts, us :: tss, c, d :: ds, n + 1, hc, .cons hd hds, hn => by
      rw [joinTokens] at hn ⊢
      rw [List.length_append, List.length_cons] at hn
      have ih := parseOr_chain hand hor (n := n) hd hds (by omega)
      -- the first piece alone: `AND` ends at the `OR` after it
      have h1 : parseAnd n (joinTokens (.kw .and) [ts] ++
          .kw .or :: (joinTokens (.kw .or) (us :: tss) ++ rest)) =
          some (andAll c [], .kw .or :: (joinTokens (.kw .or) (us :: tss) ++ rest)) :=
        parseAnd_chain (by simp) hc .nil (by rw [joinTokens]; omega)
      rw [joinTokens, andAll] at h1
      rw [List.append_assoc, List.cons_append, parseOr, h1]
      simp [ih, orAll]

/-- A bracketed group of pieces joined by `OR` is a primary. -/
theorem ParsesPrimary.group {ts : List Token} {tss : List (List Token)} {c : Cond}
    {cs : List Cond} (hc : ParsesPrimary ts c) (hcs : List.Forall₂ ParsesPrimary tss cs) :
    ParsesPrimary (.lparen :: joinTokens (.kw .or) (ts :: tss) ++ [.rparen]) (orAll c cs) := by
  refine ⟨by simp, fun n hn rest => ?_⟩
  simp only [List.cons_append, List.length_cons, List.length_append, List.length_nil] at hn
  obtain ⟨m, rfl⟩ : ∃ m, n = m + 1 := ⟨n - 1, by omega⟩
  have h : parseOr m (joinTokens (.kw .or) (ts :: tss) ++ .rparen :: rest) =
      some (orAll c cs, .rparen :: rest) :=
    parseOr_chain (by simp) (by simp) hc hcs (by omega)
  simp only [List.cons_append, List.append_assoc, List.nil_append, parsePrimary, h]

/-- **A whole text of pieces joined by `AND` is their conjunction.** -/
theorem parseTokens_join {ts : List Token} {tss : List (List Token)} {c : Cond} {cs : List Cond}
    (hc : ParsesPrimary ts c) (hcs : List.Forall₂ ParsesPrimary tss cs) :
    parseTokens (joinTokens (.kw .and) (ts :: tss)) = some (andAll c cs) := by
  have h : parseAnd (2 * (joinTokens (.kw .and) (ts :: tss)).length + 3)
      (joinTokens (.kw .and) (ts :: tss) ++ []) = some (andAll c cs, []) :=
    parseAnd_chain (by simp) hc hcs (by omega)
  rw [List.append_nil] at h
  simp only [parseTokens, parseOr, h]

/-! ### Numbered and bare placeholders -/

/-- The placeholders of a token list, in order. -/
def placeholders : List Token → List (Option Nat)
  | [] => []
  | .param n :: ts => n :: placeholders ts
  | _ :: ts => placeholders ts

/-- A numbered placeholder written as a bare one. -/
def Token.bare : Token → Token
  | .param _ => .param none
  | t => t

@[simp] theorem placeholders_append (ts us : List Token) :
    placeholders (ts ++ us) = placeholders ts ++ placeholders us := by
  induction ts with
  | nil => rfl
  | cons t ts ih => cases t <;> simp [placeholders, ih]

theorem placeholders_bare (ts : List Token) :
    placeholders (ts.map .bare) = List.replicate (placeholders ts).length none := by
  induction ts with
  | nil => rfl
  | cons t ts ih => cases t <;> simp [placeholders, Token.bare, ih, List.replicate_succ]

/-- Numbering leaves a text with no bare placeholder as it is. -/
theorem numberParams_of_numbered :
    ∀ {ts : List Token} (k : Nat), none ∉ placeholders ts → numberParams k ts = ts
  | [], _, _ => rfl
  | t :: ts, k, h => by
      cases t with
      | param n =>
          simp only [placeholders, List.mem_cons, not_or] at h
          cases n with
          | none => exact absurd rfl h.1
          | some n => simp [numberParams, numberParams_of_numbered k h.2]
      | _ => simp [numberParams, @numberParams_of_numbered ts k h]

/-- **Bare placeholders are given back the consecutive numbers they had.** -/
theorem numberParams_bare :
    ∀ {ts : List Token} {k n : Nat}, placeholders ts = (List.range' k n).map some →
      numberParams k (ts.map .bare) = ts
  | [], _, _, _ => rfl
  | t :: ts, k, n, h => by
      cases t with
      | param m =>
          simp only [placeholders] at h
          cases n with
          | zero => simp at h
          | succ n =>
              rw [List.range'_succ, List.map_cons, List.cons.injEq] at h
              simp [Token.bare, numberParams, numberParams_bare h.2, h.1]
      | _ => simp [Token.bare, numberParams, @numberParams_bare ts k n h]

/-! ### A list of numbered placeholders -/

/-- The placeholders `k, …, k + n - 1` with commas between them. -/
def paramList (k n : Nat) : List Token :=
  joinTokens .comma ((List.range' k n).map fun m => [.param (some m)])

@[simp] theorem paramList_one (k : Nat) : paramList k 1 = [.param (some k)] := rfl

@[simp] theorem paramList_add_two (k n : Nat) :
    paramList k (n + 2) = .param (some k) :: .comma :: paramList (k + 1) (n + 1) := rfl

theorem length_paramList : ∀ k n : Nat, n ≤ (paramList k n).length
  | _, 0 => Nat.zero_le _
  | _, 1 => Nat.le_refl _
  | k, n + 2 => by
      have ih := length_paramList (k + 1) (n + 1)
      rw [paramList_add_two, List.length_cons, List.length_cons]
      omega

theorem placeholders_paramList :
    ∀ k n : Nat, placeholders (paramList k n) = (List.range' k n).map some
  | _, 0 => rfl
  | _, 1 => rfl
  | k, n + 2 => by
      rw [paramList_add_two, placeholders, placeholders, placeholders_paramList (k + 1) (n + 1)]
      · rfl
      · simp

theorem parseOperands_paramList (rest : List Token) :
    ∀ k n m : Nat, n < m → parseOperands m (paramList k (n + 1) ++ .rparen :: rest) =
      some ((List.range' k (n + 1)).map .param, rest)
  | k, 0, m + 1, _ => by simp [parseOperands, parseOperand, parseAtom]
  | k, n + 1, m + 1, h => by
      have ih := parseOperands_paramList rest (k + 1) n m (by omega)
      rw [paramList_add_two, parseOperands]
      simp [parseOperand, parseAtom, ih, List.range'_succ]

/-- **Such a list is read back as its placeholders**, up to the bracket. -/
theorem parseList_paramList (rest : List Token) (k : Nat) : ∀ n : Nat,
    parseList (paramList k n ++ .rparen :: rest) = some ((List.range' k n).map .param, rest)
  | 0 => rfl
  | n + 1 => by
      have hlen := length_paramList k (n + 1)
      have hops := parseOperands_paramList rest k n (paramList k (n + 1) ++ .rparen :: rest).length
        (by rw [List.length_append]; omega)
      have hhead : ∃ ts, paramList k (n + 1) = .param (some k) :: ts := by
        cases n <;> exact ⟨_, rfl⟩
      obtain ⟨ts, hts⟩ := hhead
      rw [hts] at hops ⊢
      exact hops

end Sql
end Dbal
