/-
# What a line of BQL says is in its sentence

`parseSentence` of `src/bql/bql_parser.cpp` reports a line that it has not read to the end, so that
nothing of a line is dropped without a word.  Here is, form by form, which of the quoted texts, the
aliases and the attributes of a line are found in the sentence: all of them, unless a step of a
workflow is given an alias or a text.
-/

import Dbal.Bql.RoundTrip

namespace Dbal
namespace Bql

/-- The keys and the values of attributes. -/
def attrTexts (attrs : List BqlAttr) : List String :=
  attrs.flatMap fun attr => [attr.key, attr.value]

/-- The texts of a sentence, in the fields that its kind has. -/
def BqlSentence.texts (sentence : BqlSentence) : List String :=
  match sentence.kind with
  | .add =>
      sentence.«alias».toList ++ sentence.parentAlias.toList ++ sentence.text.toList ++
        attrTexts sentence.attrs
  | .give => sentence.«alias».toList ++ attrTexts sentence.attrs
  | .style => sentence.name :: attrTexts sentence.attrs
  | .«class» => sentence.names ++ sentence.«alias».toList
  | .publish => [sentence.name, sentence.path]
  | .publishWorkflow | .clear => []
  | .workflow => [sentence.name]
  | .trigger => [sentence.form]
  | .step => attrTexts sentence.attrs

/-- The alias words of a line. -/
def Line.aliases : Line → List String
  | .add parent clause => parent.toList ++ clause.«alias».toList
  | .give target _ | .apply _ target => [target]
  | .step clause => clause.«alias».toList
  | _ => []

/-- The attributes of a line. -/
def Line.attrs : Line → List BqlAttr
  | .add _ clause | .step clause => clause.attrs
  | .give _ attrs | .style _ attrs => attrs
  | _ => []

/-- Every quoted text, every alias word and every attribute of the line is in the sentence. -/
structure Carried (tokens : List Token) (line : Line) (sentence : BqlSentence) : Prop where
  strings : ∀ text, .string text ∈ tokens → text ∈ sentence.texts
  aliases : ∀ word ∈ line.aliases, word ∈ sentence.texts
  attrs : ∀ attr ∈ line.attrs, attr ∈ sentence.attrs

/-- The line is no step with an alias or a text, unless its attributes have the same text. -/
def Line.SaysNoMore : Line → Prop
  | .step clause =>
      (∀ word ∈ clause.«alias», word ∈ attrTexts clause.attrs) ∧
        ∀ text ∈ clause.text, text ∈ attrTexts clause.attrs
  | _ => True

/-! ### The quoted texts of each part of a line -/

section Texts

variable {text : String}

theorem Keyword.ne_string {value : String} {t : Token} (h : Keyword value t) :
    .string text ≠ t := by
  obtain ⟨w, rfl, -⟩ := h
  nofun

theorem not_mem_maybe {kind : Token → Prop} {front : List Token} (h : Maybe kind front)
    (hkind : ∀ t, kind t → .string text ≠ t) : .string text ∉ front := by
  obtain rfl | ⟨t, ht, rfl⟩ := h
  · simp
  · simp [hkind t ht]

theorem not_mem_article {front : List Token} (h : Maybe IsArticle front) : .string text ∉ front :=
  not_mem_maybe h fun _ ht => ht.elim Keyword.ne_string Keyword.ne_string

theorem not_mem_words (words : List String) : .string text ∉ words.map Token.word := by
  simp

theorem not_mem_separator {sep : List Token} (h : Separator sep) : .string text ∉ sep := by
  cases h with
  | comma => simp
  | and hkw => simp [hkw.ne_string]
  | commaAnd hkw => simp [hkw.ne_string]

theorem not_mem_name {stopWords : List String} {name : String} {tokens : List Token}
    (h : NameOf stopWords name tokens) : .string text ∉ tokens := by
  obtain ⟨-, words, hskip, -⟩ := h
  obtain ⟨front, hfront, heq⟩ := skipArticle_eq tokens
  rw [heq, hskip, List.mem_append, not_or]
  exact ⟨not_mem_article hfront, not_mem_words words⟩

theorem mem_value {value : String} {tokens : List Token} (h : ValueOf value tokens)
    (hmem : .string text ∈ tokens) : text = value := by
  cases h with
  | quoted s => simpa using hmem
  | words _ _ => exact absurd hmem (not_mem_words _)

theorem mem_attr {attr : BqlAttr} {tokens : List Token} (h : AttrOf attr tokens)
    (hmem : .string text ∈ tokens) : text = attr.value := by
  obtain ⟨key, t, value, rfl, hkey, hkw, hvalue⟩ := h
  rcases List.mem_append.1 hmem with hmem | hmem
  · exact absurd hmem (not_mem_name hkey)
  · rcases List.mem_cons.1 hmem with hmem | hmem
    · exact absurd hmem hkw.ne_string
    · exact mem_value hvalue hmem

theorem mem_moreAttrs {attrs : List BqlAttr} {tokens : List Token} (h : MoreAttrsOf attrs tokens)
    (hmem : .string text ∈ tokens) : text ∈ attrTexts attrs := by
  induction h with
  | nil => cases hmem
  | cons hsep _ hitem _ ih =>
      rcases List.mem_append.1 hmem with hmem | hmem
      · exact absurd hmem (not_mem_separator hsep)
      · rcases List.mem_append.1 hmem with hmem | hmem
        · simp [attrTexts, mem_attr hitem hmem]
        · exact List.mem_append_right _ (ih hmem)

theorem mem_attrs {attrs : List BqlAttr} {tokens : List Token} (h : AttrsOf attrs tokens)
    (hmem : .string text ∈ tokens) : text ∈ attrTexts attrs := by
  obtain ⟨attr, more, item, rest, rfl, rfl, hitem, hmore⟩ := h
  rcases List.mem_append.1 hmem with hmem | hmem
  · simp [attrTexts, mem_attr hitem hmem]
  · exact List.mem_append_right _ (mem_moreAttrs hmore hmem)

theorem mem_with {attrs : List BqlAttr} {tokens : List Token} (h : WithOf attrs tokens)
    (hmem : .string text ∈ tokens) : text ∈ attrTexts attrs := by
  cases h with
  | absent => cases hmem
  | given hkw hattrs =>
      rcases List.mem_cons.1 hmem with hmem | hmem
      · exact absurd hmem hkw.ne_string
      · exact mem_attrs hattrs hmem

theorem not_mem_called {own : Option String} {tokens : List Token} (h : CalledOf own tokens) :
    .string text ∉ tokens := by
  cases h with
  | absent => simp
  | given hkw => simp [hkw.ne_string]

theorem mem_thatSays {said : Option String} {tokens : List Token} (h : ThatSaysOf said tokens) :
    .string text ∈ tokens ↔ text ∈ said := by
  cases h with
  | absent => simp
  | given hkw hkw' => simp [hkw.ne_string, hkw'.ne_string, eq_comm]

/-- The quoted texts of a clause are its own text and values of its attributes. -/
theorem mem_clause {clause : AddClause} {tokens : List Token} (h : ClauseOf clause tokens)
    (hmem : .string text ∈ tokens) : text ∈ clause.text ∨ text ∈ attrTexts clause.attrs := by
  obtain ⟨name, called, said, attrs, rfl, hname, hcalled, hsaid, hattrs⟩ := h
  simp only [List.mem_append, mem_thatSays hsaid] at hmem
  rcases hmem with hmem | hmem | hmem | hmem
  · exact absurd hmem (not_mem_name hname)
  · exact absurd hmem (not_mem_called hcalled)
  · exact Or.inl hmem
  · exact Or.inr (mem_with hattrs hmem)

theorem mem_of_clause_text {clause : AddClause} {tokens : List Token} (h : ClauseOf clause tokens)
    (htext : text ∈ clause.text) : .string text ∈ tokens := by
  obtain ⟨name, called, said, attrs, rfl, -, -, hsaid, -⟩ := h
  simp [(mem_thatSays hsaid).2 htext]

theorem mem_names {names : List String} {tokens : List Token} (h : NamesOf names tokens)
    (hmem : .string text ∈ tokens) : text ∈ names := by
  induction h with
  | nil => cases hmem
  | last s => simpa using hmem
  | cons hsep _ ih =>
      simp only [List.mem_cons, List.mem_append, Token.string.injEq] at hmem ⊢
      rcases hmem with hmem | hmem | hmem
      · exact Or.inl hmem
      · exact absurd hmem (not_mem_separator hsep)
      · exact Or.inr (ih hmem)

/-- **The quoted texts of a line** are in its sentence, those of a step in the attributes or in the
text that the step has no use for. -/
theorem mem_line {line : Line} {tokens : List Token} (hline : LineOf line tokens)
    (hmem : .string text ∈ tokens) :
    text ∈ line.sentence.texts ∨ ∃ clause, line = .step clause ∧ text ∈ clause.text := by
  cases hline with
  | add h hclause =>
      left
      simp only [List.mem_cons, h.ne_string, false_or] at hmem
      rcases mem_clause hclause hmem with htext | htext
      · simp [Line.sentence, addResult, BqlSentence.texts, Option.mem_def.1 htext]
      · simp [Line.sentence, addResult, BqlSentence.texts, htext]
  | inside h hcomma h₁ hclause =>
      left
      have hno : Token.string text ∉ _ := not_mem_maybe hcomma (by rintro t rfl; simp)
      simp only [List.mem_cons, List.mem_append, h.ne_string, h₁.ne_string, hno, false_or,
        reduceCtorEq] at hmem
      rcases mem_clause hclause hmem with htext | htext
      · simp [Line.sentence, addResult, BqlSentence.texts, Option.mem_def.1 htext]
      · simp [Line.sentence, addResult, BqlSentence.texts, htext]
  | give h hattrs =>
      left
      simp only [List.mem_cons, h.ne_string, false_or, reduceCtorEq] at hmem
      simp [Line.sentence, BqlSentence.texts, mem_attrs hattrs hmem]
  | style h harticle h₁ h₂ hattrs =>
      left
      simp only [List.mem_cons, List.mem_append, h.ne_string, h₁.ne_string, h₂.ne_string,
        not_mem_article harticle, false_or, Token.string.injEq] at hmem
      rcases hmem with rfl | hmem
      · simp [Line.sentence, BqlSentence.texts]
      · simp [Line.sentence, BqlSentence.texts, mem_with hattrs hmem]
  | apply h _ hnames h₁ =>
      left
      simp only [List.mem_cons, List.mem_append, h.ne_string, h₁.ne_string, false_or, or_false,
        List.not_mem_nil, reduceCtorEq] at hmem
      simp [Line.sentence, BqlSentence.texts, mem_names hnames hmem]
  | publish h hthis htitle h₁ hpath =>
      left
      have hno : Token.string text ∉ _ := not_mem_maybe hthis fun _ ht => ht.ne_string
      simp only [List.mem_cons, List.mem_append, h.ne_string, h₁.ne_string, hno, false_or, or_false,
        List.not_mem_nil] at hmem
      rcases hmem with hmem | hmem
      · cases htitle with
        | absent => cases hmem
        | given h₃ =>
            simp only [List.mem_cons, h₃.ne_string, false_or, List.not_mem_nil, or_false,
              Token.string.injEq] at hmem
            simp [Line.sentence, BqlSentence.texts, hmem]
      · cases hpath with
        | word => cases hmem
        | string => simp [Line.sentence, BqlSentence.texts, Token.string.inj hmem]
  | publishWorkflow h h₁ h₂ => simp [h.ne_string, h₁.ne_string, h₂.ne_string] at hmem
  | newPage h harticle h₁ h₂ =>
      simp [h.ne_string, h₁.ne_string, h₂.ne_string, not_mem_article harticle] at hmem
  | newWorkflow h harticle h₁ h₂ h₃ =>
      left
      simp only [List.mem_cons, List.mem_append, h.ne_string, h₁.ne_string, h₂.ne_string,
        h₃.ne_string, not_mem_article harticle, false_or, or_false, List.not_mem_nil,
        Token.string.injEq] at hmem
      simp [Line.sentence, BqlSentence.texts, hmem]
  | runOnForm h hit h₁ h₂ h₃ h₄ h₅ =>
      left
      have hno : Token.string text ∉ _ := not_mem_maybe hit fun _ ht => ht.ne_string
      simp only [List.mem_cons, List.mem_append, h.ne_string, h₁.ne_string, h₂.ne_string,
        h₃.ne_string, h₄.ne_string, h₅.ne_string, hno, false_or, or_false, List.not_mem_nil,
        Token.string.injEq] at hmem
      simp [Line.sentence, BqlSentence.texts, hmem]
  | runOn h hit h₁ _ _ =>
      have hno : Token.string text ∉ _ := not_mem_maybe hit fun _ ht => ht.ne_string
      simp [h.ne_string, h₁.ne_string, hno] at hmem
  | step h hclause =>
      simp only [List.mem_cons, h.ne_string, false_or] at hmem
      rcases mem_clause hclause hmem with htext | htext
      · exact Or.inr ⟨_, rfl, htext⟩
      · exact Or.inl htext

end Texts

/-! ### Aliases and attributes -/

theorem aliases_carried {line : Line} (h : line.SaysNoMore) :
    ∀ word ∈ line.aliases, word ∈ line.sentence.texts := by
  intro word hword
  cases line with
  | add parent clause =>
      simp only [Line.aliases, List.mem_append, Option.mem_toList] at hword
      simp only [Line.sentence, addResult, BqlSentence.texts, List.mem_append, Option.mem_toList]
      tauto
  | give target attrs =>
      obtain rfl : word = target := by simpa [Line.aliases] using hword
      simp [Line.sentence, BqlSentence.texts]
  | apply names target =>
      obtain rfl : word = target := by simpa [Line.aliases] using hword
      simp [Line.sentence, BqlSentence.texts]
  | step clause => exact h.1 word (Option.mem_toList.1 hword)
  | _ => simp [Line.aliases] at hword

theorem attrs_carried (line : Line) : ∀ attr ∈ line.attrs, attr ∈ line.sentence.attrs := by
  cases line with
  | add _ _ | give _ _ | style _ _ | step _ => exact fun _ h => h
  | _ => simp [Line.attrs]

theorem carried_iff {line : Line} {tokens : List Token} (hline : LineOf line tokens) :
    Carried tokens line line.sentence ↔ line.SaysNoMore := by
  constructor
  · intro h
    cases hline with
    | step _ hclause =>
        refine ⟨fun word hword => h.aliases word (Option.mem_toList.2 hword), fun text htext => ?_⟩
        exact h.strings text (List.mem_cons_of_mem _ (mem_of_clause_text hclause htext))
    | _ => trivial
  · intro h
    refine ⟨fun text hmem => ?_, aliases_carried h, attrs_carried line⟩
    rcases mem_line hline hmem with htext | ⟨clause, rfl, htext⟩
    · exact htext
    · exact h.2 text htext

/-! ### Lines that are parsed -/

/-- A line is parsed where the grammar has it, whole. -/
theorem parseSentence_iff {rawLine : String} {sentence : BqlSentence} :
    parseSentence rawLine = .ok sentence ↔ Says (lineTokens rawLine) sentence := by
  rw [← @parseForm_iff rawLine, parseSentence]
  rcases parseForm rawLine (lineTokens rawLine) with message | ⟨parsed, _ | ⟨extra, rest⟩⟩
  · simp
  · simp
  · simp

/-- **Nothing is dropped, but for steps**: a line that is parsed is a line of the grammar, to its
last token, and its quoted texts, alias words and attributes are all in the sentence if and only if
it is no step with an alias or a text of its own. -/
theorem nothing_dropped_iff {rawLine : String} {sentence : BqlSentence}
    (h : parseSentence rawLine = .ok sentence) :
    (∃ line, LineOf line (lineTokens rawLine)) ∧ ∀ line, LineOf line (lineTokens rawLine) →
      (Carried (lineTokens rawLine) line sentence ↔ line.SaysNoMore) := by
  have hsays := parseSentence_iff.1 h
  obtain ⟨line, hline, -⟩ := hsays
  refine ⟨⟨line, hline⟩, fun line' hline' => ?_⟩
  have hparsed := parseSentence_iff.2 ⟨line', hline', rfl⟩
  obtain rfl : line'.sentence = sentence := Except.ok.inj (hparsed.symm.trans h)
  exact carried_iff hline'

/-- A step that is given an alias and a text. -/
def calledStep : AddClause := ⟨"Log", some "bar", some "done", []⟩

theorem reads_calledStep :
    Reads "then Log called bar that says \"done\""
      [.word "then", .word "Log", .word "called", .word "bar", .word "that", .word "says",
        .string "done"] := by
  have hwords : Reads "then Log called bar that says" _ :=
    reads_phrase "then" ["Log", "called", "bar", "that", "says"] (by decide) (by decide)
  have htext : IsQuotable "done" := by decide
  exact hwords.append (reads_quoted htext)

theorem lineOf_calledStep :
    LineOf (.step calledStep) (lineTokens "then Log called bar that says \"done\"") := by
  rw [lineTokens_of_reads reads_calledStep]
  refine .step (keyword_word (by decide)) ⟨[.word "Log"], [.word "called", .word "bar"],
    [.word "that", .word "says", .string "done"], [], rfl, ?_, ?_, ?_, .absent⟩
  · exact ⟨by decide, ["Log"], by simp [skipArticle, isWord, toLower], by decide, by decide⟩
  · exact .given (keyword_word (by decide))
  · exact .given (keyword_word (by decide)) (keyword_word (by decide))

theorem nothing_dropped_calledStep :
    (∃ line, LineOf line (lineTokens "then Log called bar that says \"done\"")) ∧
      ∀ line, LineOf line (lineTokens "then Log called bar that says \"done\"") →
        (Carried (lineTokens "then Log called bar that says \"done\"") line
          { kind := .step, stepName := "Log" } ↔ line.SaysNoMore) :=
  nothing_dropped_iff (parseSentence_iff.2 ⟨_, lineOf_calledStep, rfl⟩)

/-- The line is parsed, and neither its alias nor its text is anywhere in the sentence. -/
theorem calledStep_dropped :
    parseSentence "then Log called bar that says \"done\"" =
        .ok { kind := .step, stepName := "Log" } ∧
      LineOf (.step calledStep) (lineTokens "then Log called bar that says \"done\"") ∧
      "bar" ∉ BqlSentence.texts { kind := .step, stepName := "Log" } ∧
      "done" ∉ BqlSentence.texts { kind := .step, stepName := "Log" } ∧
      ¬ Carried (lineTokens "then Log called bar that says \"done\"") (.step calledStep)
        { kind := .step, stepName := "Log" } := by
  refine ⟨parseSentence_iff.2 ⟨_, lineOf_calledStep, rfl⟩, lineOf_calledStep, by decide, by decide,
    fun h => ?_⟩
  have hword := h.aliases "bar" (by decide)
  cases hword

end Bql
end Dbal
