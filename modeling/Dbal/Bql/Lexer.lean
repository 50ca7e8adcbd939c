/-
# The lexer of BQL

`src/bql/bql_lexer.cpp`: a line is cut into words, quoted texts, commas and full stops.  A dot
belongs to a word where a word character follows it.

The second half reads back what is written in words and quoted texts with blanks between them.
-/

import Mathlib.Data.List.Basic

namespace Dbal
namespace Bql

/-- `Token`. -/
inductive Token where
  | word (value : String)
  | string (value : String)
  | punct (value : String)
  deriving DecidableEq, Repr

/-- The text of a token. -/
def Token.value : Token → String
  | word value | string value | punct value => value

/-- `isspace`. -/
def isSpace (c : Char) : Bool :=
  c = ' ' || c = '\t' || c = '\n' || c = '\x0b' || c = '\x0c' || c = '\r'

/-- `isWordChar`. -/
def isWordChar (c : Char) : Bool := c.isAlphanum || c = '_'

/-- A word character follows. -/
def wordFollows : List Char → Bool
  | [] => false
  | c :: _ => isWordChar c

/-- The rest of a word, and what comes after it. -/
def scanWord : List Char → List Char × List Char
  | [] => ([], [])
  | c :: rest =>
      if isSpace c || c = '"' || c = ',' then ([], c :: rest)
      else if c = '.' && !wordFollows rest then ([], c :: rest)
      else (c :: (scanWord rest).1, (scanWord rest).2)

theorem scanWord_length (line : List Char) : (scanWord line).2.length ≤ line.length := by
  induction line with
  | nil => exact Nat.le_refl _
  | cons c rest ih =>
      unfold scanWord
      split
      · exact Nat.le_refl _
      · split
        · exact Nat.le_refl _
        · exact Nat.le_succ_of_le ih

/-- The text up to the next quote, and what comes after that. -/
def scanString (line : List Char) : List Char × List Char :=
  (line.takeWhile (· ≠ '"'), (line.dropWhile (· ≠ '"')).tail)

theorem scanString_length (line : List Char) : (scanString line).2.length ≤ line.length := by
  refine Nat.le_trans ?_ (List.dropWhile_suffix (· ≠ '"')).length_le
  simp [scanString]

/-- `tokenize`. -/
def tokenize : List Char → List Token
  | [] => []
  | ch :: rest =>
      if isSpace ch then tokenize rest
      else if ch = '"' then
        .string (String.ofList (scanString rest).1) :: tokenize (scanString rest).2
      else if ch = ',' then .punct "," :: tokenize rest
      else if ch = '.' && !wordFollows rest then .punct "." :: tokenize rest
      else .word (String.ofList (ch :: (scanWord rest).1)) :: tokenize (scanWord rest).2
termination_by line => line.length
decreasing_by
  · exact Nat.lt_succ_self _
  · exact Nat.lt_succ_of_le (scanString_length rest)
  · exact Nat.lt_succ_self _
  · exact Nat.lt_succ_self _
  · exact Nat.lt_succ_of_le (scanWord_length rest)

/-! ### Words and texts -/

/-- The characters may go on a word. -/
def continuesWord : List Char → Bool
  | [] => true
  | c :: rest =>
      !isSpace c && c ≠ '"' && c ≠ ',' && (c ≠ '.' || wordFollows rest) && continuesWord rest

/-- A word: not empty, without blanks, quotes and commas, and every dot before a word character. -/
def IsWordText (text : String) : Prop := text ≠ "" ∧ continuesWord text.toList = true

instance : DecidablePred IsWordText := fun text =>
  inferInstanceAs (Decidable (text ≠ "" ∧ continuesWord text.toList = true))

/-- The line ends here, or a blank comes. -/
def Ends (rest : List Char) : Prop := rest = [] ∨ ∃ more, rest = ' ' :: more

theorem wordFollows_append {word : List Char} (h : wordFollows word = true) (rest : List Char) :
    wordFollows (word ++ rest) = true := by
  cases word with
  | nil => cases h
  | cons c word => exact h

theorem scanWord_ends {rest : List Char} (h : Ends rest) : scanWord rest = ([], rest) := by
  obtain rfl | ⟨more, rfl⟩ := h
  · rfl
  · simp [scanWord, isSpace]

/-- A word is scanned up to the blank behind it. -/
theorem scanWord_append {word rest : List Char} (hword : continuesWord word = true)
    (hrest : Ends rest) : scanWord (word ++ rest) = (word, rest) := by
  induction word with
  | nil => exact scanWord_ends hrest
  | cons c word ih =>
      simp only [continuesWord, Bool.and_eq_true, Bool.or_eq_true, Bool.not_eq_true',
        decide_eq_true_eq] at hword
      obtain ⟨⟨⟨⟨hspace, hquote⟩, hcomma⟩, hdot⟩, hrec⟩ := hword
      have hstop : (c = '.' && !wordFollows (word ++ rest)) = false := by
        rcases hdot with hdot | hdot
        · simp [hdot]
        · simp [wordFollows_append hdot]
      rw [List.cons_append, scanWord, ih hrec]
      simp [hspace, hquote, hcomma, hstop]

/-- The text is read as the tokens, whatever comes behind a blank. -/
def Lexes (text : String) (tokens : List Token) : Prop :=
  ∀ rest, Ends rest → tokenize (text.toList ++ rest) = tokens ++ tokenize rest

theorem lexes_word {word : String} (h : IsWordText word) : Lexes word [.word word] := by
  intro rest hrest
  obtain ⟨hne, hchars⟩ := h
  cases hlist : word.toList with
  | nil => exact absurd (String.toList_inj.1 (by simp [hlist])) hne
  | cons c chars =>
      rw [hlist] at hchars
      simp only [continuesWord, Bool.and_eq_true, Bool.or_eq_true, Bool.not_eq_true',
        decide_eq_true_eq] at hchars
      obtain ⟨⟨⟨⟨hspace, hquote⟩, hcomma⟩, hdot⟩, hrec⟩ := hchars
      have hstop : (c = '.' && !wordFollows (chars ++ rest)) = false := by
        rcases hdot with hdot | hdot
        · simp [hdot]
        · simp [wordFollows_append hdot]
      rw [List.cons_append, tokenize, scanWord_append hrec hrest]
      simp only [hspace, hquote, hcomma, hstop, Bool.false_eq_true, if_false]
      rw [← hlist, String.ofList_toList]
      rfl

/-- A text in quotes. -/
def quoted (text : String) : String := "\"" ++ text ++ "\""

theorem lexes_quoted {text : String} (h : '"' ∉ text.toList) :
    Lexes (quoted text) [.string text] := by
  intro rest _
  have hall : ∀ c ∈ text.toList, (c ≠ '"') := fun c hc heq => h (heq ▸ hc)
  have hscan : scanString (text.toList ++ '"' :: rest) = (text.toList, rest) := by
    simp only [scanString, List.takeWhile_append_of_pos (fun c hc => decide_eq_true (hall c hc)),
      List.dropWhile_append_of_pos (fun c hc => decide_eq_true (hall c hc))]
    simp
  have hline : (quoted text).toList ++ rest = '"' :: (text.toList ++ '"' :: rest) := by
    simp [quoted]
  rw [hline, tokenize, hscan]
  simp [isSpace]

/-- A text, a blank and another text. -/
theorem Lexes.append {text text' : String} {tokens tokens' : List Token} (h : Lexes text tokens)
    (h' : Lexes text' tokens') : Lexes (text ++ " " ++ text') (tokens ++ tokens') := by
  intro rest hrest
  have hline : (text ++ " " ++ text').toList ++ rest =
      text.toList ++ ' ' :: (text'.toList ++ rest) := by
    simp
  have hblank : tokenize (' ' :: (text'.toList ++ rest)) = tokenize (text'.toList ++ rest) := by
    rw [tokenize]
    simp [isSpace]
  rw [hline, h _ (Or.inr ⟨_, rfl⟩), hblank, h' rest hrest, List.append_assoc]

theorem Lexes.tokenize_eq {text : String} {tokens : List Token} (h : Lexes text tokens) :
    tokenize text.toList = tokens := by
  have hend := h [] (Or.inl rfl)
  rw [List.append_nil] at hend
  rw [hend, tokenize, List.append_nil]

end Bql
end Dbal
