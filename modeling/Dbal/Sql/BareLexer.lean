/-
# Tokens of a text with bare names and escaped strings

A text in which names stand as they are and a string ends at the next quote that has no backslash
before it.  It is read character by character by a machine whose state is the token it is inside of
(`Scan`); only a string that does not end leaves it without an answer.

A piece of a text that reads as tokens of its own does so wherever it stands before a character that
is part of no word and no number (`Reads`): a bare word (`reads_word`), a number (`reads_number`),
an escaped string (`reads_string`), and such pieces with a blank or a mark between them
(`Reads.blank`, `Reads.mark`).  No word is read but bare ones (`isWord_of_tokens`).
-/

import Mathlib.Data.List.Basic

namespace Dbal
namespace Sql
namespace Bare

/-- One token. -/
inductive Token where
  | word (chars : List Char)
  | number (chars : List Char)
  | string (chars : List Char)
  | mark (c : Char)
  deriving DecidableEq, Repr

/-- What the scanner is inside of; the characters read so far are in reverse. -/
inductive Scan where
  | start
  /-- A dash was read: the sign of a number, if a digit follows. -/
  | dash
  | word (acc : List Char)
  | number (acc : List Char)
  | string (quote : Char) (acc : List Char)
  /-- A backslash was read inside a string. -/
  | escape (quote : Char) (acc : List Char)
  deriving DecidableEq

/-- A character that may begin a word. -/
def isLetter (c : Char) : Bool := c.isAlpha || c = '_'

/-- A character that may stand in a word. -/
def isWordChar (c : Char) : Bool := c.isAlphanum || c = '_'

/-- A character that may stand in a number. -/
def isNumberChar (c : Char) : Bool := c.isDigit || c = '.'

/-- What a character stands for behind a backslash. -/
def unescape : Char → Char
  | 'n' => '\n'
  | 't' => '\t'
  | 'r' => '\r'
  | 'b' => '\x08'
  | 'f' => '\x0c'
  | c => c

/-- The tokens that end where the text ends. -/
def Scan.flush : Scan → Option (List Token)
  | .start => some []
  | .dash => some [.mark '-']
  | .word acc => some [.word acc.reverse]
  | .number acc => some [.number acc.reverse]
  | .string _ _ | .escape _ _ => none

/-- A character between tokens. -/
def begin (c : Char) : List Token × Scan :=
  if c = ' ' ∨ c = '\t' ∨ c = '\n' ∨ c = '\r' then ([], .start)
  else if c = '\'' ∨ c = '"' then ([], .string c [])
  else if c = '-' then ([], .dash)
  else if c.isDigit then ([], .number [c])
  else if isLetter c then ([], .word [c])
  else ([.mark c], .start)

/-- The tokens end before `c`, which begins the next. -/
def endBefore (ts : List Token) (c : Char) : List Token × Scan := (ts ++ (begin c).1, (begin c).2)

/-- One character: the tokens it completes and the state after it. -/
def step : Scan → Char → List Token × Scan
  | .start, c => begin c
  | .dash, c => if c.isDigit then ([], .number [c, '-']) else endBefore [.mark '-'] c
  | .word acc, c =>
      if isWordChar c then ([], .word (c :: acc)) else endBefore [.word acc.reverse] c
  | .number acc, c =>
      if isNumberChar c then ([], .number (c :: acc)) else endBefore [.number acc.reverse] c
  | .string quote acc, c =>
      if c = quote then ([.string acc.reverse], .start)
      else if c = '\\' then ([], .escape quote acc)
      else ([], .string quote (c :: acc))
  | .escape quote acc, c => ([], .string quote (unescape c :: acc))

/-- The tokens of a text read from a state, up to its end. -/
def scan : Scan → List Char → Option (List Token)
  | st, [] => st.flush
  | st, c :: cs => (scan (step st c).2 cs).map ((step st c).1 ++ ·)

/-- The tokens of a text. -/
def tokens (cs : List Char) : Option (List Token) := scan .start cs

example : tokens "name = 'it\\'s', n = -5.50".toList =
    some [.word "name".toList, .mark '=', .string "it's".toList, .mark ',', .word "n".toList,
      .mark '=', .number "-5.50".toList] := by
  decide +kernel

/-! ## What ends a token -/

/-- The text that follows is not part of a word or a number. -/
def Ends (rest : List Char) : Prop :=
  ∀ c more, rest = c :: more → isWordChar c = false ∧ isNumberChar c = false

theorem ends_nil : Ends [] := fun _ _ h => nomatch h

theorem ends_cons {c : Char} (h : isWordChar c = false ∧ isNumberChar c = false)
    (more : List Char) : Ends (c :: more) := by
  rintro d rest heq
  obtain ⟨rfl, -⟩ := List.cons.inj heq
  exact h

/-- A token is complete where the text ends and before a character that ends it. -/
theorem scan_of_flush {st : Scan} {ts : List Token} {rest : List Char} (hflush : st.flush = some ts)
    (hstep : ∀ c more, rest = c :: more → step st c = endBefore ts c) :
    scan st rest = (tokens rest).map (ts ++ ·) := by
  cases rest with
  | nil =>
      have hnil : tokens [] = some [] := rfl
      rw [scan, hflush, hnil, Option.map_some, List.append_nil]
  | cons c more =>
      rw [tokens, scan, scan, hstep c more rfl, endBefore, step]
      simp [Option.map_map, Function.comp_def]

/-- A character that completes no token. -/
theorem scan_cons {st st' : Scan} {c : Char} (h : step st c = ([], st')) (cs : List Char) :
    scan st (c :: cs) = scan st' cs := by
  rw [scan, h]
  simp

/-! ## Pieces -/

/-- A piece reads as its tokens, whatever follows that ends them. -/
def Reads (piece : List Char) (ts : List Token) : Prop :=
  ∀ rest, Ends rest → tokens (piece ++ rest) = (tokens rest).map (ts ++ ·)

/-- A bare word. -/
def IsWord (chars : List Char) : Prop :=
  ∃ c more, chars = c :: more ∧ isLetter c = true ∧ ∀ d ∈ more, isWordChar d = true

instance : DecidablePred IsWord
  | [] => isFalse fun ⟨_, _, heq, _⟩ => nomatch heq
  | c :: more =>
      decidable_of_iff (isLetter c = true ∧ more.all isWordChar = true)
        ⟨fun h => ⟨c, more, rfl, h.1, List.all_eq_true.1 h.2⟩,
          fun ⟨_, _, heq, h⟩ => by cases heq; exact ⟨h.1, List.all_eq_true.2 h.2⟩⟩

/-- A number, with or without a sign. -/
def IsNumber (chars : List Char) : Prop :=
  ∃ c more, (chars = c :: more ∨ chars = '-' :: c :: more) ∧ c.isDigit = true ∧
    ∀ d ∈ more, isNumberChar d = true

theorem reads_nil : Reads [] [] := fun rest _ => by simp

theorem Reads.tokens_eq {piece : List Char} {ts : List Token} (h : Reads piece ts) :
    tokens piece = some ts := by
  have hend := h [] ends_nil
  rw [List.append_nil] at hend
  rw [hend]
  simp [tokens, scan, Scan.flush]

theorem scan_word {rest : List Char} (hrest : Ends rest) :
    ∀ more acc : List Char, (∀ d ∈ more, isWordChar d = true) →
      scan (.word acc) (more ++ rest) =
        (tokens rest).map ([.word (acc.reverse ++ more)] ++ ·)
  | [], acc, _ => by
      rw [List.nil_append, List.append_nil]
      refine scan_of_flush rfl fun c more heq => ?_
      rw [step, (hrest c more heq).1]
      rfl
  | d :: more, acc, h => by
      rw [List.forall_mem_cons] at h
      have hstep : step (.word acc) d = ([], .word (d :: acc)) := if_pos h.1
      rw [List.cons_append, scan_cons hstep, scan_word hrest more (d :: acc) h.2]
      simp

theorem scan_number {rest : List Char} (hrest : Ends rest) :
    ∀ more acc : List Char, (∀ d ∈ more, isNumberChar d = true) →
      scan (.number acc) (more ++ rest) =
        (tokens rest).map ([.number (acc.reverse ++ more)] ++ ·)
  | [], acc, _ => by
      rw [List.nil_append, List.append_nil]
      refine scan_of_flush rfl fun c more heq => ?_
      rw [step, (hrest c more heq).2]
      rfl
  | d :: more, acc, h => by
      rw [List.forall_mem_cons] at h
      have hstep : step (.number acc) d = ([], .number (d :: acc)) := if_pos h.1
      rw [List.cons_append, scan_cons hstep, scan_number hrest more (d :: acc) h.2]
      simp

/-- A letter is no digit, since all digits come before it. -/
theorem isDigit_of_isAlpha {c : Char} (h : c.isAlpha = true) : c.isDigit = false := by
  have hcase : (decide ('A'.val ≤ c.val ∧ c.val ≤ 'Z'.val) ||
      (decide ('a'.val ≤ c.val) && decide (c.val ≤ 'z'.val))) = true := h
  have hletter : 'A'.val ≤ c.val := by
    rcases Bool.or_eq_true_iff.1 hcase with hupper | hlower
    · exact (of_decide_eq_true hupper).1
    · exact UInt32.le_trans (by decide) (of_decide_eq_true (Bool.and_eq_true_iff.1 hlower).1)
  have hdigit : ¬ c.val ≤ '9'.val := fun hle =>
    absurd (UInt32.le_trans hletter hle) (by decide)
  exact Bool.and_eq_false_imp.2 fun _ => decide_eq_false hdigit

/-- A letter begins a word, and a digit a number. -/
theorem step_letter {c : Char} (h : isLetter c = true) : step .start c = ([], .word [c]) := by
  have hc : c ≠ ' ' ∧ c ≠ '\t' ∧ c ≠ '\n' ∧ c ≠ '\r' ∧ c ≠ '\'' ∧ c ≠ '"' ∧ c ≠ '-' := by
    refine ⟨?_, ?_, ?_, ?_, ?_, ?_, ?_⟩ <;> (rintro rfl; revert h; decide)
  have hdigit : c.isDigit = false := by
    rcases Bool.or_eq_true_iff.1 h with halpha | hline
    · exact isDigit_of_isAlpha halpha
    · rw [of_decide_eq_true hline]
      decide
  simp [step, begin, hc, hdigit, h]

theorem step_digit {c : Char} (h : c.isDigit = true) : step .start c = ([], .number [c]) := by
  have hc : c ≠ ' ' ∧ c ≠ '\t' ∧ c ≠ '\n' ∧ c ≠ '\r' ∧ c ≠ '\'' ∧ c ≠ '"' ∧ c ≠ '-' := by
    refine ⟨?_, ?_, ?_, ?_, ?_, ?_, ?_⟩ <;> (rintro rfl; revert h; decide)
  simp [step, begin, hc, h]

/-- **A bare word is one word.** -/
theorem reads_word {chars : List Char} (h : IsWord chars) : Reads chars [.word chars] := by
  obtain ⟨c, more, rfl, hc, hmore⟩ := h
  intro rest hrest
  rw [tokens, List.cons_append, scan_cons (step_letter hc), scan_word hrest more [c] hmore]
  rfl

/-- **A number is one number.** -/
theorem reads_number {chars : List Char} (h : IsNumber chars) : Reads chars [.number chars] := by
  obtain ⟨c, more, rfl | rfl, hc, hmore⟩ := h
  · intro rest hrest
    rw [tokens, List.cons_append, scan_cons (step_digit hc), scan_number hrest more [c] hmore]
    rfl
  · intro rest hrest
    have hdash : step .start '-' = ([], .dash) := by decide
    have hsign : step .dash c = ([], .number [c, '-']) := if_pos hc
    rw [tokens, List.cons_append, List.cons_append, scan_cons hdash, scan_cons hsign,
      scan_number hrest more [c, '-'] hmore]
    rfl

/-- The characters of a string are escaped: a quote and a backslash by a backslash before them. -/
structure Escapes (escape : Char → List Char) (quote : Char) : Prop where
  plain : ∀ c, c ≠ quote → c ≠ '\\' → escape c = [c]
  quote : escape quote = ['\\', quote]
  backslash : escape '\\' = ['\\', '\\']

theorem scan_string {escape : Char → List Char} {quote : Char} (hescape : Escapes escape quote)
    (hquote : quote = '\'' ∨ quote = '"') (rest : List Char) :
    ∀ chars acc : List Char, scan (.string quote acc) (chars.flatMap escape ++ quote :: rest) =
      (tokens rest).map ([.string (acc.reverse ++ chars)] ++ ·)
  | [], acc => by
      have hstep : step (.string quote acc) quote = ([.string acc.reverse], .start) := if_pos rfl
      rw [List.flatMap_nil, List.nil_append, List.append_nil, scan, hstep]
      rfl
  | c :: chars, acc => by
      have hbackslash : step (.string quote acc) '\\' = ([], .escape quote acc) := by
        rcases hquote with rfl | rfl <;> rfl
      have hunescape : unescape quote = quote := by
        rcases hquote with rfl | rfl <;> rfl
      have hself : unescape '\\' = '\\' := rfl
      rw [List.flatMap_cons, List.append_assoc]
      by_cases hq : c = quote
      · subst hq
        rw [hescape.quote, List.cons_append, List.singleton_append, scan_cons hbackslash,
          scan_cons rfl, scan_string hescape hquote rest chars, hunescape]
        simp
      · by_cases hb : c = '\\'
        · subst hb
          rw [hescape.backslash, List.cons_append, List.singleton_append, scan_cons hbackslash,
            scan_cons rfl, scan_string hescape hquote rest chars, hself]
          simp
        · have hstep : step (.string quote acc) c = ([], .string quote (c :: acc)) := by
            rw [step, if_neg hq, if_neg hb]
          rw [hescape.plain c hq hb, List.singleton_append, scan_cons hstep,
            scan_string hescape hquote rest chars]
          simp

/-- **An escaped string is one string, whatever stands in it.** -/
theorem reads_string {escape : Char → List Char} {quote : Char} (hescape : Escapes escape quote)
    (hquote : quote = '\'' ∨ quote = '"') (chars : List Char) :
    Reads (quote :: (chars.flatMap escape ++ [quote])) [.string chars] := by
  intro rest _
  have hbegin : step .start quote = ([], .string quote []) := by
    rcases hquote with rfl | rfl <;> rfl
  rw [tokens, List.cons_append, scan_cons hbegin, List.append_assoc, List.singleton_append,
    scan_string hescape hquote rest chars]
  rfl

/-! ## Pieces with something between them -/

section Pieces

variable {a b : List Char} {ts us : List Token}

/-- Two pieces with a blank between them. -/
theorem Reads.blank (ha : Reads a ts) (hb : Reads b us) : Reads (a ++ ' ' :: b) (ts ++ us) := by
  intro rest hrest
  have hblank : step .start ' ' = ([], .start) := by decide
  rw [List.append_assoc, List.cons_append, ha _ (ends_cons (by decide) _), tokens,
    scan_cons hblank, ← tokens, hb rest hrest, Option.map_map]
  simp [Function.comp_def]

/-- Two pieces with a mark between them. -/
theorem Reads.mark {c : Char} (hc : begin c = ([.mark c], .start))
    (hends : isWordChar c = false ∧ isNumberChar c = false) (ha : Reads a ts) (hb : Reads b us) :
    Reads (a ++ c :: b) (ts ++ .mark c :: us) := by
  intro rest hrest
  have hscan : tokens (c :: (b ++ rest)) = (tokens (b ++ rest)).map ([.mark c] ++ ·) := by
    rw [tokens, scan, step, hc]
    rfl
  rw [List.append_assoc, List.cons_append, ha _ (ends_cons hends _), hscan, hb rest hrest,
    Option.map_map, Option.map_map]
  simp [Function.comp_def]

theorem reads_mark {c : Char} (hc : begin c = ([.mark c], .start))
    (hends : isWordChar c = false ∧ isNumberChar c = false) : Reads [c] [.mark c] :=
  Reads.mark hc hends reads_nil reads_nil

/-- Pieces with the same text between any two of them. -/
theorem reads_intercalate {α : Type} {separator : List Char} {between : Token}
    (hjoin : ∀ {a b : List Char} {ts us : List Token}, Reads a ts → Reads b us →
      Reads (a ++ (separator ++ b)) (ts ++ between :: us))
    {l : List α} {f : α → List Char} {g : α → List Token} (h : ∀ x ∈ l, Reads (f x) (g x)) :
    Reads (separator.intercalate (l.map f)) ([between].intercalate (l.map g)) := by
  induction l with
  | nil => exact reads_nil
  | cons x l ih =>
      rw [List.forall_mem_cons] at h
      cases l with
      | nil => simpa using h.1
      | cons y l =>
          have hboth := hjoin h.1 (ih h.2)
          rw [List.map_cons, List.map_cons, List.intercalate_cons_cons, List.map_cons,
            List.map_cons, List.intercalate_cons_cons, List.append_assoc, List.append_assoc]
          exact hboth

end Pieces

/-! ## Words -/

/-- What the scanner is inside of is the beginning of a bare word, if it is a word. -/
def Scan.WordSoFar : Scan → Prop
  | .word acc => IsWord acc.reverse
  | _ => True

theorem wordSoFar_begin (c : Char) :
    (∀ chars, .word chars ∉ (begin c).1) ∧ (begin c).2.WordSoFar := by
  unfold begin
  split_ifs with hblank hquote hdash hdigit hletter
  · exact ⟨fun _ => List.not_mem_nil, trivial⟩
  · exact ⟨fun _ => List.not_mem_nil, trivial⟩
  · exact ⟨fun _ => List.not_mem_nil, trivial⟩
  · exact ⟨fun _ => List.not_mem_nil, trivial⟩
  · exact ⟨fun _ => List.not_mem_nil, c, [], rfl, hletter, fun _ hd => absurd hd List.not_mem_nil⟩
  · exact ⟨fun _ hmem => (nomatch List.mem_singleton.1 hmem), trivial⟩

theorem isWord_of_endBefore {ts : List Token} {c : Char} {chars : List Char}
    (h : .word chars ∈ (endBefore ts c).1) : .word chars ∈ ts :=
  (List.mem_append.1 h).resolve_right ((wordSoFar_begin c).1 chars)

/-- A step completes no words but bare ones. -/
theorem wordSoFar_step {st : Scan} (hst : st.WordSoFar) (c : Char) :
    (∀ chars, .word chars ∈ (step st c).1 → IsWord chars) ∧ (step st c).2.WordSoFar := by
  cases st with
  | start =>
      exact ⟨fun chars hmem => absurd hmem ((wordSoFar_begin c).1 chars), (wordSoFar_begin c).2⟩
  | dash =>
      rw [step]
      split_ifs
      · exact ⟨fun _ hmem => absurd hmem List.not_mem_nil, trivial⟩
      · exact ⟨fun _ hmem => (nomatch List.mem_singleton.1 (isWord_of_endBefore hmem)),
          (wordSoFar_begin c).2⟩
  | word acc =>
      rw [step]
      split_ifs with hc
      · obtain ⟨d, more, hacc, hd, hmore⟩ := hst
        refine ⟨fun _ hmem => absurd hmem List.not_mem_nil, d, more ++ [c], ?_, hd, ?_⟩
        · rw [List.reverse_cons, hacc, List.cons_append]
        · simpa [or_imp, forall_and, hc] using hmore
      · refine ⟨fun chars hmem => ?_, (wordSoFar_begin c).2⟩
        cases List.mem_singleton.1 (isWord_of_endBefore hmem)
        exact hst
  | number acc =>
      rw [step]
      split_ifs
      · exact ⟨fun _ hmem => absurd hmem List.not_mem_nil, trivial⟩
      · exact ⟨fun _ hmem => (nomatch List.mem_singleton.1 (isWord_of_endBefore hmem)),
          (wordSoFar_begin c).2⟩
  | string quote acc =>
      rw [step]
      split_ifs
      · exact ⟨fun _ hmem => (nomatch List.mem_singleton.1 hmem), trivial⟩
      · exact ⟨fun _ hmem => absurd hmem List.not_mem_nil, trivial⟩
      · exact ⟨fun _ hmem => absurd hmem List.not_mem_nil, trivial⟩
  | escape quote acc => exact ⟨fun _ hmem => absurd hmem List.not_mem_nil, trivial⟩

theorem isWord_of_scan {cs : List Char} {st : Scan} (hst : st.WordSoFar) {ts : List Token}
    (h : scan st cs = some ts) : ∀ chars, .word chars ∈ ts → IsWord chars := by
  induction cs generalizing st ts with
  | nil =>
      intro chars hmem
      cases st with
      | word acc =>
          cases h
          cases List.mem_singleton.1 hmem
          exact hst
      | _ => cases h <;> simp at hmem
  | cons c cs ih =>
      obtain ⟨us, hus, rfl⟩ := Option.map_eq_some_iff.1 h
      obtain ⟨hstep, hnext⟩ := wordSoFar_step hst c
      intro chars hmem
      exact (List.mem_append.1 hmem).elim (hstep chars) (ih hnext hus chars)

/-- **Every word that is read is a bare word.** -/
theorem isWord_of_tokens {cs : List Char} {ts : List Token} (h : tokens cs = some ts)
    {chars : List Char} (hmem : .word chars ∈ ts) : IsWord chars :=
  @isWord_of_scan cs .start trivial ts h chars hmem

end Bare
end Sql
end Dbal
