/-
# Texts and the tokens they are to have

`Spells q s ts` says that the text `s` is assembled so as to read as the tokens `ts`: it does when
no identifier of `ts` has the quote character `q` in it, and it has no more quotes than these
identifiers account for, two around each and those inside.

A reading that shows a quote inside an identifier used up two quotes of the text (`scan_quotes`).
So a text that spells `ts` reads as `ts` only when the identifiers are free of the quote
(`Spells.tokens_iff`): whatever a name with a quote in it makes the text read as, it is not what
was to be written.
-/

import Dbal.Sql.Lexer
import Mathlib.Algebra.BigOperators.Group.List.Basic
import Mathlib.Algebra.GroupWithZero.Nat

namespace Dbal
namespace Sql

/-! ### Quotes that are read -/

/-- The quotes that a token was read from, at least. -/
def Token.quotesRead (q : Char) : Token → Nat
  | .ident s => 2 + 2 * s.toList.count q
  | .str s => s.toList.count q
  | _ => 0

/-- The quotes of the token the scanner is inside of. -/
def Scan.quotesRead (q : Char) : Scan → Nat
  | .ident acc => 1 + 2 * acc.count q
  | .identEnd acc => 2 + 2 * acc.count q
  | .str acc | .strEnd acc => acc.count q
  | _ => 0

/-- The quotes that a list of tokens was read from, at least. -/
def quotesRead (q : Char) (ts : List Token) : Nat := (ts.map (Token.quotesRead q)).sum

@[simp] theorem quotesRead_append (q : Char) (ts us : List Token) :
    quotesRead q (ts ++ us) = quotesRead q ts + quotesRead q us := by
  simp [quotesRead]

theorem quotesRead_wordToken (q : Char) (s : List Char) : (wordToken s).quotesRead q = 0 := by
  unfold wordToken
  split <;> rfl

theorem flush_quotes {q : Char} {st : Scan} {ts : List Token} (h : st.flush = some ts) :
    quotesRead q ts ≤ st.quotesRead q := by
  cases st with
  | ident acc => exact nomatch h
  | str acc => exact nomatch h
  | bang => exact nomatch h
  | dollar acc =>
      cases acc with
      | nil => exact nomatch h
      | cons c acc =>
          obtain rfl := Option.some.inj h
          exact Nat.zero_le _
  | identEnd acc =>
      obtain rfl := Option.some.inj h
      simp [quotesRead, Token.quotesRead, Scan.quotesRead]
  | strEnd acc =>
      obtain rfl := Option.some.inj h
      simp [quotesRead, Token.quotesRead, Scan.quotesRead]
  | word acc =>
      obtain rfl := Option.some.inj h
      simp [quotesRead, quotesRead_wordToken]
  | _ =>
      obtain rfl := Option.some.inj h
      exact Nat.zero_le _

theorem begin_quotes_of_ne {q c : Char} {ts : List Token} {st : Scan} (hc : c ≠ q)
    (h : begin q c = some (ts, st)) : quotesRead q ts = 0 ∧ st.quotesRead q = 0 := by
  unfold begin at h
  rw [if_neg hc] at h
  have hite : ∀ {p : Prop} [Decidable p] {a b : Option (List Token × Scan)},
      (if p then a else b) = some (ts, st) → a = some (ts, st) ∨ b = some (ts, st) := by
    intro p _ a b hif
    by_cases hp : p
    · exact Or.inl ((if_pos hp).symm.trans hif)
    · exact Or.inr ((if_neg hp).symm.trans hif)
  -- one case for each character that begins a token, and those that begin none
  iterate 15
    rcases hite h with heq | h
    · obtain ⟨rfl, rfl⟩ := Prod.mk.inj (Option.some.inj heq)
      exact ⟨rfl, rfl⟩
  exact nomatch h

/-- A character between tokens opens one quote at most. -/
theorem begin_quotes {q c : Char} {ts : List Token} {st : Scan} (hq : IsQuote q)
    (h : begin q c = some (ts, st)) :
    quotesRead q ts + st.quotesRead q ≤ if c = q then 1 else 0 := by
  by_cases hc : c = q
  · have hbegin : begin q c = some ([], .ident []) := by
      rw [hc]
      rcases hq with rfl | rfl <;> decide
    obtain ⟨rfl, rfl⟩ := Prod.mk.inj (Option.some.inj (hbegin.symm.trans h))
    rw [if_pos hc]
    exact Nat.le_refl 1
  · obtain ⟨hts, hst⟩ := begin_quotes_of_ne hc h
    rw [hts, hst]
    exact Nat.zero_le _

theorem endBefore_quotes {q c : Char} {st st' : Scan} {ts : List Token} (hq : IsQuote q)
    (h : endBefore q st c = some (ts, st')) :
    quotesRead q ts + st'.quotesRead q ≤ st.quotesRead q + if c = q then 1 else 0 := by
  unfold endBefore at h
  split at h
  · next us vs st'' hflush hbegin =>
      obtain ⟨rfl, rfl⟩ := Prod.mk.inj (Option.some.inj h)
      have h₁ := flush_quotes (q := q) hflush
      have h₂ := begin_quotes hq hbegin
      rw [quotesRead_append]
      omega
  · exact nomatch h

/-- What one character does: it is one quote more at most. -/
theorem step_quotes {q c : Char} {st st' : Scan} {ts : List Token} (hq : IsQuote q)
    (h : step q st c = some (ts, st')) :
    quotesRead q ts + st'.quotesRead q ≤ st.quotesRead q + if c = q then 1 else 0 := by
  have hinside : ∀ {st st' : Scan}, st'.quotesRead q = 0 → some ([], st') = some (ts, st) →
      quotesRead q ts + st.quotesRead q = 0 := by
    intro st st' hst' heq
    obtain ⟨rfl, rfl⟩ := Prod.mk.inj (Option.some.inj heq)
    rw [hst']
    rfl
  cases st with
  | start =>
      have hbegin := begin_quotes hq h
      omega
  | ident acc =>
      simp only [step] at h
      split_ifs at h with hc <;> obtain ⟨rfl, rfl⟩ := Prod.mk.inj (Option.some.inj h)
      · simp only [quotesRead, Scan.quotesRead, List.map_nil, List.sum_nil, if_pos hc]
        omega
      · simp only [quotesRead, Scan.quotesRead, List.map_nil, List.sum_nil, if_neg hc,
          List.count_cons_of_ne hc]
        omega
  | identEnd acc =>
      simp only [step] at h
      split_ifs at h with hc
      · obtain ⟨rfl, rfl⟩ := Prod.mk.inj (Option.some.inj h)
        simp only [quotesRead, Scan.quotesRead, List.map_nil, List.sum_nil, if_pos hc,
          List.count_cons_self]
        omega
      · exact endBefore_quotes hq h
  | lt =>
      simp only [step] at h
      split_ifs at h
      · obtain ⟨rfl, rfl⟩ := Prod.mk.inj (Option.some.inj h)
        exact Nat.zero_le _
      · obtain ⟨rfl, rfl⟩ := Prod.mk.inj (Option.some.inj h)
        exact Nat.zero_le _
      · exact endBefore_quotes hq h
  | gt =>
      simp only [step] at h
      split_ifs at h
      · obtain ⟨rfl, rfl⟩ := Prod.mk.inj (Option.some.inj h)
        exact Nat.zero_le _
      · exact endBefore_quotes hq h
  | bang =>
      simp only [step] at h
      split_ifs at h
      obtain ⟨rfl, rfl⟩ := Prod.mk.inj (Option.some.inj h)
      exact Nat.zero_le _
  | dash =>
      simp only [step] at h
      split_ifs at h
      exact endBefore_quotes hq h
  | str acc =>
      simp only [step] at h
      split_ifs at h <;> obtain ⟨rfl, rfl⟩ := Prod.mk.inj (Option.some.inj h) <;>
        simp only [quotesRead, Scan.quotesRead, List.map_nil, List.sum_nil, List.count_cons,
          beq_iff_eq] <;> omega
  | strEnd acc =>
      simp only [step] at h
      split_ifs at h with hc
      · obtain ⟨rfl, rfl⟩ := Prod.mk.inj (Option.some.inj h)
        simp only [quotesRead, Scan.quotesRead, List.map_nil, List.sum_nil, List.count_cons,
          beq_iff_eq, hc]
        omega
      · exact endBefore_quotes hq h
  | _ =>
      simp only [step] at h
      split_ifs at h
      · rw [hinside rfl h]
        exact Nat.zero_le _
      · exact endBefore_quotes hq h

/-- **What is read shows no more quotes than there are in the text.** -/
theorem scan_quotes {q : Char} (hq : IsQuote q) :
    ∀ {cs : List Char} {st : Scan} {ts : List Token}, scan q st cs = some ts →
      quotesRead q ts ≤ st.quotesRead q + cs.count q
  | [], st, ts, h => flush_quotes h
  | c :: cs, st, ts, h => by
      rw [scan] at h
      split at h
      · cases h
      · next us st' hstep =>
          obtain ⟨vs, hvs, rfl⟩ := Option.map_eq_some_iff.1 h
          have hone := step_quotes hq hstep
          have hrest := scan_quotes hq hvs
          rw [quotesRead_append, List.count_cons]
          simp only [beq_iff_eq]
          omega

/-! ### Spelling -/

/-- The quotes that a token is written with. -/
def Token.quotesWritten (q : Char) : Token → Nat
  | .ident s => 2 + s.toList.count q
  | .str s => s.toList.count q
  | _ => 0

def quotesWritten (q : Char) (ts : List Token) : Nat := (ts.map (Token.quotesWritten q)).sum

@[simp] theorem quotesWritten_nil (q : Char) : quotesWritten q [] = 0 := rfl

@[simp] theorem quotesWritten_cons (q : Char) (t : Token) (ts : List Token) :
    quotesWritten q (t :: ts) = t.quotesWritten q + quotesWritten q ts := rfl

@[simp] theorem quotesWritten_append (q : Char) (ts us : List Token) :
    quotesWritten q (ts ++ us) = quotesWritten q ts + quotesWritten q us := by
  simp [quotesWritten]

/-- No identifier has the quote in it. -/
def Unquoted (q : Char) (ts : List Token) : Prop :=
  ∀ name, .ident name ∈ ts → q ∉ name.toList

theorem Unquoted.append {q : Char} {ts us : List Token} :
    Unquoted q (ts ++ us) ↔ Unquoted q ts ∧ Unquoted q us := by
  simp only [Unquoted, List.mem_append]
  constructor
  · exact fun h => ⟨fun name hname => h name (Or.inl hname), fun name hname => h name (Or.inr hname)⟩
  · rintro ⟨h, h'⟩ name (hname | hname)
    · exact h name hname
    · exact h' name hname

/-- A text assembled to read as the tokens. -/
structure Spells (q : Char) (s : String) (ts : List Token) : Prop where
  reads : Unquoted q ts → tokens q s.toList = some ts
  quotes : s.toList.count q ≤ quotesWritten q ts

/-- What is read shows every quote that the tokens are written with, and another for each quote
inside an identifier. -/
theorem quotesWritten_le_quotesRead (q : Char) : ∀ ts : List Token,
    quotesWritten q ts ≤ quotesRead q ts ∧
      (quotesRead q ts ≤ quotesWritten q ts → Unquoted q ts)
  | [] => ⟨Nat.le_refl 0, fun _ _ hname => nomatch hname⟩
  | t :: ts => by
      have ih := quotesWritten_le_quotesRead q ts
      have hcons : quotesRead q (t :: ts) = t.quotesRead q + quotesRead q ts := rfl
      have hone : t.quotesWritten q ≤ t.quotesRead q := by
        cases t with
        | ident s =>
            rw [Token.quotesWritten, Token.quotesRead]
            omega
        | str s => exact Nat.le_refl _
        | _ => exact Nat.zero_le _
      rw [hcons, quotesWritten_cons]
      refine ⟨by omega, fun hsum name hname => ?_⟩
      rcases List.mem_cons.1 hname with rfl | hname
      · rw [Token.quotesRead, Token.quotesWritten] at hsum
        have hzero : name.toList.count q = 0 := by omega
        exact List.count_eq_zero.1 hzero
      · exact ih.2 (by omega) name hname

/-- **A text reads as what it spells exactly when no identifier has the quote in it.** -/
theorem Spells.tokens_iff {q : Char} (hq : IsQuote q) {s : String} {ts : List Token}
    (h : Spells q s ts) : tokens q s.toList = some ts ↔ Unquoted q ts := by
  refine ⟨fun hread => ?_, h.reads⟩
  have hread := scan_quotes hq hread
  have hwritten := h.quotes
  have hstart : Scan.quotesRead q .start = 0 := rfl
  exact (quotesWritten_le_quotesRead q ts).2 (by omega)

/-- **A text with fewer quotes than one that spells the tokens does not read as them.** -/
theorem Spells.not_tokens {q : Char} (hq : IsQuote q) {s s' : String} {ts : List Token}
    (h : Spells q s ts) (hlt : s'.toList.count q < s.toList.count q) :
    tokens q s'.toList ≠ some ts := by
  intro hread
  have hread := scan_quotes hq hread
  have hwritten := h.quotes
  have hle := (quotesWritten_le_quotesRead q ts).1
  have hstart : Scan.quotesRead q .start = 0 := rfl
  omega

/-! ### Assembling texts -/

namespace Spells

variable {q : Char}

/-- A text of the program's own. -/
theorem fixed (hq : IsQuote q) {s : String} {ts : List Token}
    (h : BothQuotes fun q => tokens q s.toList = some ts ∧ q ∉ s.toList) : Spells q s ts := by
  have hs : tokens q s.toList = some ts ∧ q ∉ s.toList := hq.of_both h
  exact ⟨fun _ => hs.1, by rw [List.count_eq_zero_of_not_mem hs.2]; exact Nat.zero_le _⟩

/-- A name between quotes. -/
theorem quoted (hq : IsQuote q) {s name : String} (hs : s.toList = q :: name.toList ++ [q]) :
    Spells q s [.ident name] := by
  constructor
  · intro h
    rw [hs]
    exact tokens_quoted hq (h name List.mem_cons_self)
  · rw [hs, List.count_append, List.count_cons_self, List.count_singleton_self]
    simp only [quotesWritten_cons, quotesWritten_nil, Token.quotesWritten]
    omega

/-- Two texts with a separator between them. -/
theorem separated (hq : IsQuote q) {s a b : String} {ta tb sep : List Token} {c : Char}
    (hc : separator c = some sep) (ha : Spells q a ta) (hb : Spells q b tb)
    (hs : s.toList = a.toList ++ c :: b.toList) : Spells q s (ta ++ sep ++ tb) := by
  have hne : c ≠ q ∧ quotesWritten q sep = 0 := by
    rcases separator_eq_some hc with ⟨rfl, rfl⟩ | ⟨rfl, rfl⟩ | ⟨rfl, rfl⟩ | ⟨rfl, rfl⟩ <;>
      rcases hq with rfl | rfl <;> decide
  constructor
  · intro h
    rw [Unquoted.append, Unquoted.append] at h
    rw [hs]
    exact tokens_separator hq hc (ha.reads h.1.1) (hb.reads h.2)
  · have hqa := ha.quotes
    have hqb := hb.quotes
    rw [hs, List.count_append, List.count_cons_of_ne hne.1, quotesWritten_append,
      quotesWritten_append, hne.2]
    omega

theorem congr {s s' : String} {ts ts' : List Token} (h : Spells q s ts) (hs : s' = s)
    (hts : ts' = ts) : Spells q s' ts' := by
  rwa [hs, hts]

theorem empty : Spells q "" [] := ⟨fun _ => rfl, Nat.zero_le _⟩

theorem blank (hq : IsQuote q) {a b : String} {ta tb : List Token} (ha : Spells q a ta)
    (hb : Spells q b tb) : Spells q (a ++ " " ++ b) (ta ++ tb) := by
  have h := separated hq (c := ' ') rfl ha hb (s := a ++ " " ++ b) (by simp)
  rwa [List.append_nil] at h

theorem comma (hq : IsQuote q) {a b : String} {ta tb : List Token} (ha : Spells q a ta)
    (hb : Spells q b tb) : Spells q (a ++ ", " ++ b) (ta ++ .comma :: tb) := by
  have hblank : Spells q (" " ++ b) tb := by simpa using blank hq empty hb
  have h := separated hq (c := ',') rfl ha hblank (s := a ++ ", " ++ b) (by simp)
  simpa using h

/-- A text and another in brackets. -/
theorem bracket (hq : IsQuote q) {a b : String} {ta tb : List Token} (ha : Spells q a ta)
    (hb : Spells q b tb) :
    Spells q (a ++ "(" ++ b ++ ")") (ta ++ .lparen :: (tb ++ [.rparen])) := by
  have hopen := separated hq (c := '(') rfl ha hb (s := a ++ "(" ++ b) (by simp)
  have h := separated hq (c := ')') rfl hopen empty (s := a ++ "(" ++ b ++ ")") (by simp)
  simpa using h

theorem bracket_blank (hq : IsQuote q) {a b : String} {ta tb : List Token} (ha : Spells q a ta)
    (hb : Spells q b tb) :
    Spells q (a ++ " (" ++ b ++ ")") (ta ++ .lparen :: (tb ++ [.rparen])) := by
  have hin : Spells q ("(" ++ b ++ ")") (.lparen :: (tb ++ [.rparen])) := by
    simpa using bracket hq empty hb
  have htext : a ++ " (" ++ b ++ ")" = a ++ " " ++ ("(" ++ b ++ ")") :=
    String.toList_inj.1 (by simp)
  rw [htext]
  exact blank hq ha hin

/-- Two texts with a word of the program's own between them. -/
theorem word (hq : IsQuote q) {a b w sep : String} {ta tb tw : List Token} (ha : Spells q a ta)
    (hw : Spells q w tw) (hb : Spells q b tb) (hsep : sep = " " ++ w ++ " ") :
    Spells q (a ++ sep ++ b) (ta ++ (tw ++ tb)) := by
  have h := blank hq (blank hq ha hw) hb
  rw [hsep]
  simpa [String.append_assoc] using h

/-- A text after a word of the program's own. -/
theorem after (hq : IsQuote q) {b w lead : String} {tb tw : List Token} (hw : Spells q w tw)
    (hb : Spells q b tb) (hlead : lead = w ++ " ") : Spells q (lead ++ b) (tw ++ tb) := by
  rw [hlead]
  exact blank hq hw hb

/-- A text before a word of the program's own. -/
theorem before (hq : IsQuote q) {a w tail : String} {ta tw : List Token} (ha : Spells q a ta)
    (hw : Spells q w tw) (htail : tail = " " ++ w) : Spells q (a ++ tail) (ta ++ tw) := by
  rw [htail, ← String.append_assoc]
  exact blank hq ha hw

end Spells

/-- A clause that may be missing: nothing, or a blank and a text. -/
def SpellsClause (q : Char) (clause : String) (ts : List Token) : Prop :=
  (clause = "" ∧ ts = []) ∨ ∃ text, clause = " " ++ text ∧ Spells q text ts

theorem Spells.clause {q : Char} (hq : IsQuote q) {a c : String} {ta tc : List Token}
    (ha : Spells q a ta) (hc : SpellsClause q c tc) : Spells q (a ++ c) (ta ++ tc) := by
  rcases hc with ⟨rfl, rfl⟩ | ⟨text, rfl, htext⟩
  · rwa [String.append_empty, List.append_nil]
  · exact ha.before hq htext rfl

end Sql
end Dbal
