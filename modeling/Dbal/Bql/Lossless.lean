/-
# BQL: no character of a line is lost

The tokens of `src/bql/bql_lexer.cpp` are the line, cut into pieces that follow each other, with
blanks and the quotes of the texts between them (`spans_tokenize`).  What each token is made of is
read off there, and from that it follows that a line written anew, token by token, is read as the
same tokens (`tokenize_render`).
-/

import Mathlib.Data.List.TakeWhile
import Dbal.Bql.Lexer

namespace Dbal
namespace Bql

/-- **The tokens are the line cut into pieces.**  Between the pieces there are blanks, and a quote
on either side of a text; only the quote behind the last text may be missing. -/
inductive Spans : List Char → List Token → Prop
  | nil : Spans [] []
  | space {c : Char} {rest : List Char} {tokens : List Token} (hc : isSpace c = true)
      (h : Spans rest tokens) : Spans (c :: rest) tokens
  | word {word rest : List Char} {tokens : List Token} (hword : IsWordText (String.ofList word))
      (h : Spans rest tokens) :
      Spans (word ++ rest) (.word (String.ofList word) :: tokens)
  | punct {c : Char} {rest : List Char} {tokens : List Token} (hc : c = ',' ∨ c = '.')
      (h : Spans rest tokens) : Spans (c :: rest) (.punct (String.singleton c) :: tokens)
  | string {text rest : List Char} {tokens : List Token} (htext : '"' ∉ text)
      (h : Spans rest tokens) :
      Spans ('"' :: (text ++ '"' :: rest)) (.string (String.ofList text) :: tokens)
  | unclosed {text : List Char} (htext : '"' ∉ text) :
      Spans ('"' :: text) [.string (String.ofList text)]

/-! ### What is scanned -/

theorem scanWord_eq (line : List Char) : (scanWord line).1 ++ (scanWord line).2 = line := by
  induction line with
  | nil => rfl
  | cons c rest ih =>
      unfold scanWord
      split_ifs
      · rfl
      · rfl
      · rw [List.cons_append, ih]

/-- A word character is scanned. -/
theorem wordFollows_scanWord {line : List Char} (h : wordFollows line = true) :
    wordFollows (scanWord line).1 = true := by
  cases line with
  | nil => cases h
  | cons c rest =>
      have hc : isWordChar c = true := h
      have hspace : (isSpace c || decide (c = '"') || decide (c = ',')) = false := by
        by_contra hne
        simp only [Bool.not_eq_false, Bool.or_eq_true, isSpace, decide_eq_true_eq] at hne
        rcases hne with ((((((rfl | rfl) | rfl) | rfl) | rfl) | rfl) | rfl) | rfl <;> cases hc
      have hdot : (decide (c = '.') && !wordFollows rest) = false := by
        by_contra hne
        simp only [Bool.not_eq_false, Bool.and_eq_true, decide_eq_true_eq] at hne
        rw [hne.1] at hc
        cases hc
      rw [scanWord, hspace, hdot]
      exact hc

/-- What is scanned may go on a word. -/
theorem continuesWord_scanWord (line : List Char) : continuesWord (scanWord line).1 = true := by
  induction line with
  | nil => rfl
  | cons c rest ih =>
      unfold scanWord
      split_ifs with hstop hdot
      · rfl
      · rfl
      · simp only [Bool.or_eq_true, decide_eq_true_eq, not_or] at hstop
        have hfollows : c ≠ '.' ∨ wordFollows (scanWord rest).1 = true := by
          by_cases hc : c = '.'
          · simp only [hc, decide_true, Bool.true_and, Bool.not_eq_true', Bool.not_eq_false] at hdot
            exact Or.inr (wordFollows_scanWord hdot)
          · exact Or.inl hc
        simpa [continuesWord, ih, hstop.2, hstop.1.1, hstop.1.2] using hfollows

theorem not_mem_scanString (line : List Char) : '"' ∉ (scanString line).1 := by
  intro h
  simpa using List.mem_takeWhile_imp h

/-- A text goes up to its closing quote, or to the end of the line. -/
theorem scanString_eq (line : List Char) :
    (scanString line).1 ++ '"' :: (scanString line).2 = line ∨
      (scanString line).1 = line ∧ (scanString line).2 = [] := by
  have hsplit : (scanString line).1 ++ line.dropWhile (· ≠ '"') = line :=
    List.takeWhile_append_dropWhile
  cases hrest : line.dropWhile (· ≠ '"') with
  | nil =>
      rw [hrest, List.append_nil] at hsplit
      exact Or.inr ⟨hsplit, by rw [scanString, hrest, List.tail_nil]⟩
  | cons c rest =>
      have hnot := List.head?_dropWhile_not (· ≠ '"') line
      rw [hrest] at hnot
      have hc : c = '"' := by simpa using hnot
      have htail : (scanString line).2 = rest := by rw [scanString, hrest, List.tail_cons]
      rw [hrest, hc] at hsplit
      exact Or.inl (by rw [htail, hsplit])

/-- A character that starts no other token is scanned with the word behind it. -/
theorem scanWord_cons {c : Char} {rest : List Char} (hspace : ¬ isSpace c = true)
    (hquote : ¬ c = '"') (hcomma : ¬ c = ',')
    (hdot : ¬ (decide (c = '.') && !wordFollows rest) = true) :
    scanWord (c :: rest) = (c :: (scanWord rest).1, (scanWord rest).2) := by
  rw [scanWord, if_neg (by simp [hspace, hquote, hcomma]), if_neg hdot]

/-- **Nothing is lost between the tokens.** -/
theorem spans_tokenize (line : List Char) : Spans line (tokenize line) := by
  induction line using tokenize.induct with
  | case1 =>
      rw [tokenize]
      exact .nil
  | case2 c rest hspace ih =>
      rw [tokenize, if_pos hspace]
      exact .space hspace ih
  | case3 rest _ ih =>
      rw [tokenize, if_neg (by decide), if_pos rfl]
      rcases scanString_eq rest with hclosed | ⟨hunclosed, hend⟩
      · have hspans := Spans.string (not_mem_scanString rest) ih
        rwa [hclosed] at hspans
      · have hspans := Spans.unclosed (not_mem_scanString rest)
        rw [hend, tokenize]
        rwa [hunclosed] at hspans ⊢
  | case4 rest _ _ ih =>
      rw [tokenize, if_neg (by decide), if_neg (by decide), if_pos rfl]
      exact .punct (.inl rfl) ih
  | case5 c rest hspace hquote hcomma hdot ih =>
      obtain ⟨rfl, hnot⟩ : c = '.' ∧ wordFollows rest = false := by simpa using hdot
      rw [tokenize, if_neg hspace, if_neg hquote, if_neg hcomma, if_pos hdot]
      exact .punct (.inr rfl) ih
  | case6 c rest hspace hquote hcomma hdot ih =>
      have hscan := scanWord_cons hspace hquote hcomma hdot
      have hsplit := scanWord_eq (c :: rest)
      have hword := continuesWord_scanWord (c :: rest)
      rw [hscan] at hsplit hword
      rw [tokenize, if_neg hspace, if_neg hquote, if_neg hcomma, if_neg hdot]
      have htext : IsWordText (String.ofList (c :: (scanWord rest).1)) :=
        ⟨by simp, by rwa [String.toList_ofList]⟩
      have hspans := Spans.word htext ih
      rwa [hsplit] at hspans

theorem continuesWord_iff {word : List Char} :
    continuesWord word = true ↔ (∀ c ∈ word, isSpace c = false ∧ c ≠ ',' ∧ c ≠ '"') ∧
      ∀ front back, word = front ++ '.' :: back → wordFollows back = true := by
  induction word with
  | nil => simp [continuesWord]
  | cons c rest ih =>
      have hdots : (∀ front back, c :: rest = front ++ '.' :: back → wordFollows back = true) ↔
          (c = '.' → wordFollows rest = true) ∧
            ∀ front back, rest = front ++ '.' :: back → wordFollows back = true := by
        constructor
        · intro h
          exact ⟨fun hc => h [] rest (by rw [hc, List.nil_append]),
            fun front back heq => h (c :: front) back (by rw [heq, List.cons_append])⟩
        · rintro ⟨hfirst, hrest⟩ front back heq
          cases front with
          | nil =>
              obtain ⟨rfl, rfl⟩ := List.cons.inj heq
              exact hfirst rfl
          | cons _ front => exact hrest front back (List.cons.inj heq).2
      rw [hdots, List.forall_mem_cons]
      simp only [continuesWord, Bool.and_eq_true, Bool.or_eq_true, Bool.not_eq_true',
        decide_eq_true_eq, ih]
      tauto

/-- What a word is, character by character. -/
theorem isWordText_iff {word : String} :
    IsWordText word ↔ word ≠ "" ∧ (∀ c ∈ word.toList, isSpace c = false ∧ c ≠ ',' ∧ c ≠ '"') ∧
      ∀ front back, word.toList = front ++ '.' :: back → wordFollows back = true := by
  rw [IsWordText, continuesWord_iff]

/-! ### Written anew -/

/-- A token as it is written. -/
def Token.render : Token → String
  | .word value | .punct value => value
  | .string value => quoted value

/-- Tokens with a blank between each two. -/
def render (tokens : List Token) : String := " ".intercalate (tokens.map Token.render)

/-- A token that can be written. -/
inductive IsToken : Token → Prop
  | word {word : String} (h : IsWordText word) : IsToken (.word word)
  | string {text : String} (h : '"' ∉ text.toList) : IsToken (.string text)
  | comma : IsToken (.punct ",")
  | stop : IsToken (.punct ".")

theorem Spans.isToken {line : List Char} {tokens : List Token} (h : Spans line tokens) :
    ∀ t ∈ tokens, IsToken t := by
  induction h with
  | nil => simp
  | space _ _ ih => exact ih
  | word hword _ ih => exact List.forall_mem_cons.2 ⟨.word hword, ih⟩
  | punct hc _ ih =>
      refine List.forall_mem_cons.2 ⟨?_, ih⟩
      rcases hc with rfl | rfl
      · exact .comma
      · exact .stop
  | string htext _ ih =>
      exact List.forall_mem_cons.2 ⟨.string (by rwa [String.toList_ofList]), ih⟩
  | unclosed htext => exact List.forall_mem_singleton.2 (.string (by rwa [String.toList_ofList]))

theorem lexes_comma : Lexes "," [.punct ","] := by
  intro rest _
  change tokenize (',' :: rest) = _
  rw [tokenize, if_neg (by decide), if_neg (by decide), if_pos rfl]
  rfl

/-- At the end or before a blank, a dot is a full stop. -/
theorem lexes_stop : Lexes "." [.punct "."] := by
  intro rest hrest
  have hnot : wordFollows rest = false := by
    obtain rfl | ⟨more, rfl⟩ := hrest <;> rfl
  change tokenize ('.' :: rest) = _
  rw [tokenize, if_neg (by decide), if_neg (by decide), if_neg (by decide),
    if_pos (by rw [hnot]; rfl)]
  rfl

theorem IsToken.lexes {t : Token} (h : IsToken t) : Lexes t.render [t] := by
  cases h with
  | word h => exact lexes_word h
  | string h => exact lexes_quoted h
  | comma => exact lexes_comma
  | stop => exact lexes_stop

/-- Tokens that are written are read again. -/
theorem lexes_render {tokens : List Token} (h : ∀ t ∈ tokens, IsToken t) :
    Lexes (render tokens) tokens := by
  induction tokens with
  | nil =>
      intro rest _
      rfl
  | cons t tokens ih =>
      obtain ⟨ht, htokens⟩ := List.forall_mem_cons.1 h
      cases tokens with
      | nil => exact ht.lexes
      | cons t' tokens =>
          rw [render, List.map_cons, List.map_cons, String.intercalate_cons_cons]
          exact ht.lexes.append (ih htokens)

/-- **The lexer loses nothing and is stable.**  For every line the tokens are its pieces, with
nothing but blanks and the quotes of the texts between them; a word is not empty and has no blank,
comma or quote in it, and no dot without a word character behind it; and the tokens, written with
one blank between each two, are read as the same tokens. -/
theorem tokenize_lossless (line : List Char) :
    Spans line (tokenize line) ∧
      (∀ word, .word word ∈ tokenize line →
        word ≠ "" ∧ (∀ c ∈ word.toList, isSpace c = false ∧ c ≠ ',' ∧ c ≠ '"') ∧
          ∀ front back, word.toList = front ++ '.' :: back → wordFollows back = true) ∧
      tokenize (render (tokenize line)).toList = tokenize line := by
  have htokens := (spans_tokenize line).isToken
  refine ⟨spans_tokenize line, fun word hmem => ?_, (lexes_render htokens).tokenize_eq⟩
  cases htokens _ hmem with
  | word h => exact isWordText_iff.1 h

end Bql
end Dbal
