/-
# Tokens of a SQL text

A statement is read character by character by a machine whose state is the
token it is inside of (`Scan`).  Identifiers are quoted by a character `q`, the
double quote of the standard or the backtick of MySQL, and the quote is doubled
to stand for itself; strings are quoted by an apostrophe in the same way.  A
placeholder is a bare question mark or a dollar sign with a number.

The theorems are the ones a text assembled from pieces needs: two pieces with a
blank, a bracket or a comma between them read as the tokens of the one followed
by the tokens of the other (`tokens_blank` and its companions), a quoted name
without the quote character in it reads as one identifier (`tokens_quoted`),
and a numbered placeholder reads back as its number (`tokens_dollar`).
-/

import Mathlib.Data.List.Basic

namespace Dbal
namespace Sql

/-- The reserved words that a condition uses. -/
inductive Keyword where
  | and | or | not | in | like | ilike | between | is | null | where
  deriving DecidableEq, Repr

/-- One token of a SQL text. -/
inductive Token where
  | kw (k : Keyword)
  | word (s : String)
  | ident (s : String)
  | str (s : String)
  | num (s : String)
  /-- A placeholder: `none` is the bare question mark, `some n` is `$n`. -/
  | param (n : Option Nat)
  | lparen | rparen | comma | star | minus
  | eq | ne | lt | le | gt | ge
  deriving DecidableEq, Repr

/-- What the scanner is inside of; the characters read so far are in reverse. -/
inductive Scan where
  | start
  | word (acc : List Char)
  | num (acc : List Char)
  | dollar (acc : List Char)
  | ident (acc : List Char)
  /-- A quote was read inside an identifier: its end, unless doubled. -/
  | identEnd (acc : List Char)
  | str (acc : List Char)
  | strEnd (acc : List Char)
  | lt
  | gt
  | bang
  | dash
  deriving DecidableEq, Repr

/-- A bare word is a reserved word in any case, or else stands for itself. -/
def wordToken (s : List Char) : Token :=
  match s.map Char.toUpper with
  | ['A', 'N', 'D'] => .kw .and
  | ['O', 'R'] => .kw .or
  | ['N', 'O', 'T'] => .kw .not
  | ['I', 'N'] => .kw .in
  | ['L', 'I', 'K', 'E'] => .kw .like
  | ['I', 'L', 'I', 'K', 'E'] => .kw .ilike
  | ['B', 'E', 'T', 'W', 'E', 'E', 'N'] => .kw .between
  | ['I', 'S'] => .kw .is
  | ['N', 'U', 'L', 'L'] => .kw .null
  | ['W', 'H', 'E', 'R', 'E'] => .kw .where
  | _ => .word (String.ofList s)

/-- The tokens that end where the text ends; `none` inside an open quote, after
a dollar sign without a number and after a lone exclamation mark. -/
def Scan.flush : Scan → Option (List Token)
  | .start => some []
  | .word acc => some [wordToken acc.reverse]
  | .num acc => some [.num (String.ofList acc.reverse)]
  | .dollar [] => none
  | .dollar acc => some [.param (some (Nat.ofDigitChars 10 acc.reverse 0))]
  | .ident _ => none
  | .identEnd acc => some [.ident (String.ofList acc.reverse)]
  | .str _ => none
  | .strEnd acc => some [.str (String.ofList acc.reverse)]
  | .lt => some [.lt]
  | .gt => some [.gt]
  | .bang => none
  | .dash => some [.minus]

/-- A character between tokens. -/
def begin (q c : Char) : Option (List Token × Scan) :=
  if c = ' ' then some ([], .start)
  else if c = '(' then some ([.lparen], .start)
  else if c = ')' then some ([.rparen], .start)
  else if c = ',' then some ([.comma], .start)
  else if c = '*' then some ([.star], .start)
  else if c = '=' then some ([.eq], .start)
  else if c = '?' then some ([.param none], .start)
  else if c = '<' then some ([], .lt)
  else if c = '>' then some ([], .gt)
  else if c = '!' then some ([], .bang)
  else if c = '-' then some ([], .dash)
  else if c = '$' then some ([], .dollar [])
  else if c = '\'' then some ([], .str [])
  else if c = q then some ([], .ident [])
  else if c.isDigit then some ([], .num [c])
  else if c.isAlpha || c = '_' then some ([], .word [c])
  else none

/-- The token the scanner is inside of ends before `c`, which begins the next. -/
def endBefore (q : Char) (st : Scan) (c : Char) : Option (List Token × Scan) :=
  match st.flush, begin q c with
  | some ts, some (us, st') => some (ts ++ us, st')
  | _, _ => none

/-- One character: the tokens it completes and the state after it. -/
def step (q : Char) : Scan → Char → Option (List Token × Scan)
  | .start, c => begin q c
  | .word acc, c =>
      if c.isAlphanum || c = '_' then some ([], .word (c :: acc)) else endBefore q (.word acc) c
  | .num acc, c =>
      if c.isDigit || c = '.' then some ([], .num (c :: acc)) else endBefore q (.num acc) c
  | .dollar acc, c =>
      if c.isDigit then some ([], .dollar (c :: acc)) else endBefore q (.dollar acc) c
  | .ident acc, c => if c = q then some ([], .identEnd acc) else some ([], .ident (c :: acc))
  | .identEnd acc, c => if c = q then some ([], .ident (q :: acc)) else endBefore q (.identEnd acc) c
  | .str acc, c => if c = '\'' then some ([], .strEnd acc) else some ([], .str (c :: acc))
  | .strEnd acc, c =>
      if c = '\'' then some ([], .str ('\'' :: acc)) else endBefore q (.strEnd acc) c
  | .lt, c =>
      if c = '=' then some ([.le], .start)
      else if c = '>' then some ([.ne], .start) else endBefore q .lt c
  | .gt, c => if c = '=' then some ([.ge], .start) else endBefore q .gt c
  | .bang, c => if c = '=' then some ([.ne], .start) else none
  -- two dashes begin a comment, which is not read
  | .dash, c => if c = '-' then none else endBefore q .dash c

/-- The tokens of a text read from a state, up to its end. -/
def scan (q : Char) : Scan → List Char → Option (List Token)
  | st, [] => st.flush
  | st, c :: cs =>
      match step q st c with
      | none => none
      | some (ts, st') => (scan q st' cs).map (ts ++ ·)

/-- The tokens of a text. -/
def tokens (q : Char) (cs : List Char) : Option (List Token) := scan q .start cs

/-- The quote characters that identifiers have in the dialects. -/
def IsQuote (q : Char) : Prop := q = '"' ∨ q = Char.ofNat 96

/-- What holds for both of them. -/
abbrev BothQuotes (P : Char → Prop) : Prop := P '"' ∧ P (Char.ofNat 96)

theorem IsQuote.of_both {q : Char} (hq : IsQuote q) {P : Char → Prop} (h : BothQuotes P) : P q := by
  rcases hq with rfl | rfl
  · exact h.1
  · exact h.2

/-- A character that ends every token before it and is not part of the next. -/
def separator : Char → Option (List Token)
  | ' ' => some []
  | '(' => some [.lparen]
  | ')' => some [.rparen]
  | ',' => some [.comma]
  | _ => none

theorem separator_eq_some {c : Char} {sep : List Token} (h : separator c = some sep) :
    (c = ' ' ∧ sep = []) ∨ (c = '(' ∧ sep = [.lparen]) ∨ (c = ')' ∧ sep = [.rparen]) ∨
      (c = ',' ∧ sep = [.comma]) := by
  unfold separator at h
  split at h <;> simp_all

theorem begin_separator {q c : Char} {sep : List Token} (h : separator c = some sep) :
    begin q c = some (sep, .start) := by
  rcases separator_eq_some h with ⟨rfl, rfl⟩ | ⟨rfl, rfl⟩ | ⟨rfl, rfl⟩ | ⟨rfl, rfl⟩ <;> rfl

theorem endBefore_separator {q c : Char} {sep ts : List Token} {st : Scan}
    (h : separator c = some sep) (hst : st.flush = some ts) :
    endBefore q st c = some (ts ++ sep, .start) := by
  simp only [endBefore, hst, begin_separator h]

/-- **A separator ends the token before it.** -/
theorem step_separator {q c : Char} {sep ts : List Token} {st : Scan} (hq : IsQuote q)
    (h : separator c = some sep) (hst : st.flush = some ts) :
    step q st c = some (ts ++ sep, .start) := by
  have hend := endBefore_separator (q := q) h hst
  have hc : c.isAlphanum = false ∧ c.isDigit = false ∧ c ≠ '_' ∧ c ≠ q ∧ c ≠ '\'' ∧ c ≠ '=' ∧
      c ≠ '>' ∧ c ≠ '.' ∧ c ≠ '-' := by
    rcases separator_eq_some h with ⟨rfl, -⟩ | ⟨rfl, -⟩ | ⟨rfl, -⟩ | ⟨rfl, -⟩ <;>
      rcases hq with rfl | rfl <;> decide
  obtain ⟨hal, hdig, hus, hcq, hap, heq, hgt, hdot, hdash⟩ := hc
  cases st with
  | start =>
      obtain rfl : ts = [] := by simpa [Scan.flush] using hst.symm
      exact begin_separator h
  | ident acc => simp [Scan.flush] at hst
  | str acc => simp [Scan.flush] at hst
  | bang => simp [Scan.flush] at hst
  | _ => simpa [step, hal, hdig, hus, hcq, hap, heq, hgt, hdot, hdash] using hend

/-- **Pieces with a separator between them are read apart.** -/
theorem scan_append_separator {q c : Char} {sep : List Token} (hq : IsQuote q)
    (h : separator c = some sep) (rest : List Char) :
    ∀ (cs : List Char) (st : Scan) (ts : List Token), scan q st cs = some ts →
      scan q st (cs ++ c :: rest) = (tokens q rest).map (ts ++ sep ++ ·)
  | [], st, ts, hcs => by
      simp only [List.nil_append, scan, step_separator hq h hcs, tokens]
  | d :: cs, st, ts, hcs => by
      simp only [scan, List.cons_append] at hcs ⊢
      cases hd : step q st d with
      | none => simp [hd] at hcs
      | some r =>
          obtain ⟨us, st'⟩ := r
          simp only [hd, Option.map_eq_some_iff] at hcs ⊢
          obtain ⟨vs, hvs, rfl⟩ := hcs
          rw [scan_append_separator hq h rest cs st' vs hvs]
          simp [Function.comp_def, List.append_assoc]

/-- Two pieces read apart by the separator `c`. -/
theorem tokens_separator {q c : Char} {sep : List Token} (hq : IsQuote q)
    (h : separator c = some sep) {a b : List Char} {ta tb : List Token}
    (ha : tokens q a = some ta) (hb : tokens q b = some tb) :
    tokens q (a ++ c :: b) = some (ta ++ sep ++ tb) := by
  rw [tokens, scan_append_separator hq h b a .start ta ha, hb, Option.map_some]

/-- Two pieces read apart by a blank. -/
theorem tokens_blank {q : Char} (hq : IsQuote q) {a b : List Char} {ta tb : List Token}
    (ha : tokens q a = some ta) (hb : tokens q b = some tb) :
    tokens q (a ++ ' ' :: b) = some (ta ++ tb) := by
  simpa using tokens_separator hq (c := ' ') rfl ha hb

theorem scan_quoted {q : Char} (hq : q ≠ '\'') :
    ∀ (name acc : List Char), q ∉ name →
      scan q (.ident acc) (name ++ [q]) = some [.ident (String.ofList (acc.reverse ++ name))]
  | [], acc, _ => by simp [scan, step, Scan.flush]
  | c :: name, acc, h => by
      obtain ⟨hc, hname⟩ := List.ne_and_not_mem_of_not_mem_cons h
      simp [scan, step, hc.symm, scan_quoted hq name (c :: acc) hname]

/-- **A quoted name is one identifier**, when the quote does not occur in it. -/
theorem tokens_quoted {q : Char} (hq : IsQuote q) {name : String} (h : q ∉ name.toList) :
    tokens q (q :: name.toList ++ [q]) = some [.ident name] := by
  have hb : begin q q = some ([], .ident []) := by rcases hq with rfl | rfl <;> decide
  have hap : q ≠ '\'' := by rcases hq with rfl | rfl <;> decide
  simp [tokens, scan, step, hb, scan_quoted hap name.toList [] h]

theorem scan_dollar {q : Char} :
    ∀ (digits acc : List Char), (∀ c ∈ digits, c.isDigit = true) → acc ++ digits ≠ [] →
      scan q (.dollar acc) digits =
        some [.param (some (Nat.ofDigitChars 10 (acc.reverse ++ digits) 0))]
  | [], acc, _, hne => by
      obtain ⟨a, acc, rfl⟩ := List.exists_cons_of_ne_nil (by simpa using hne)
      simp [scan, Scan.flush]
  | c :: digits, acc, h, _ => by
      have hc := h c (List.mem_cons_self ..)
      have hrest := fun d hd => h d (List.mem_cons_of_mem c hd)
      simp [scan, step, hc, scan_dollar digits (c :: acc) hrest (by simp)]

/-- **A numbered placeholder reads back as its number.** -/
theorem tokens_dollar {q : Char} (n : Nat) :
    tokens q ('$' :: (toString n).toList) = some [.param (some n)] := by
  have hdig : (toString n).toList = Nat.toDigits 10 n := by
    simp
  have hall : ∀ c ∈ Nat.toDigits 10 n, c.isDigit = true := fun c hc =>
    Nat.isDigit_of_mem_toDigits (by decide) (by decide) hc
  have hscan := scan_dollar (q := q) (Nat.toDigits 10 n) [] hall (by simp)
  simp only [List.reverse_nil, List.nil_append, Nat.ofDigitChars_ten_toDigits] at hscan
  rw [hdig, tokens, scan, step]
  simp [begin, hscan]

end Sql
end Dbal
