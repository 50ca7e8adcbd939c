/-
# The grammar of BQL

The lines of BQL without a cursor: which tokens make up an attribute, a clause, a list of names and
a sentence of each form, and what the line says.

The parser of `src/bql/bql_parser.cpp` takes each of these parts where, and only where, the grammar
has it.  What is said of the lines that it accepts can be said by cases on the forms of a line.
-/

import Dbal.Bql.Parser

namespace Dbal
namespace Bql

/-! ### Words -/

/-- The token is the word, in upper or lower case. -/
def Keyword (value : String) (t : Token) : Prop := ∃ w, t = .word w ∧ toLower w = value

theorem Keyword.isWord_eq {value value' : String} {t : Token} (h : Keyword value t)
    (c : List Token) : isWord value' (t :: c) = decide (value = value') := by
  obtain ⟨w, rfl, rfl⟩ := h
  rfl

theorem Keyword.isComma_eq {value : String} {t : Token} (h : Keyword value t) (c : List Token) :
    isComma (t :: c) = false := by
  obtain ⟨w, rfl, -⟩ := h
  rfl

theorem isWord_iff {value : String} {c : List Token} :
    isWord value c = true ↔ ∃ t, Keyword value t ∧ c = t :: c.tail := by
  constructor
  · intro h
    cases c with
    | nil => cases h
    | cons t c =>
        cases t with
        | word w => exact ⟨_, ⟨w, rfl, of_decide_eq_true h⟩, rfl⟩
        | string s => cases h
        | punct p => cases h
  · rintro ⟨t, hkw, hc⟩
    rw [hc, hkw.isWord_eq]
    exact decide_eq_true rfl

theorem isComma_iff {c : List Token} : isComma c = true ↔ c = .punct "," :: c.tail := by
  constructor
  · intro h
    cases c with
    | nil => cases h
    | cons t c =>
        cases t with
        | word w => cases h
        | string s => cases h
        | punct p => rw [of_decide_eq_true h]; rfl
  · intro h
    rw [h]
    rfl

/-- One such token, or nothing. -/
def Maybe (kind : Token → Prop) (tokens : List Token) : Prop :=
  tokens = [] ∨ ∃ t, kind t ∧ tokens = [t]

/-- `a` or `an`. -/
def IsArticle (t : Token) : Prop := Keyword "a" t ∨ Keyword "an" t

theorem skipWord_eq (value : String) (c : List Token) :
    ∃ front, Maybe (Keyword value) front ∧ c = front ++ skipWord value c := by
  unfold skipWord
  split
  · next h =>
      obtain ⟨t, hkw, hc⟩ := isWord_iff.1 h
      exact ⟨[t], Or.inr ⟨t, hkw, rfl⟩, hc⟩
  · exact ⟨[], Or.inl rfl, rfl⟩

theorem skipComma_eq (c : List Token) :
    ∃ front, Maybe (· = .punct ",") front ∧ c = front ++ skipComma c := by
  unfold skipComma
  split
  · next h => exact ⟨[.punct ","], Or.inr ⟨_, rfl, rfl⟩, isComma_iff.1 h⟩
  · exact ⟨[], Or.inl rfl, rfl⟩

theorem skipArticle_eq (c : List Token) :
    ∃ front, Maybe IsArticle front ∧ c = front ++ skipArticle c := by
  unfold skipArticle
  split
  · next h =>
      rcases Bool.or_eq_true_iff.1 h with h | h
      · obtain ⟨t, hkw, hc⟩ := isWord_iff.1 h
        exact ⟨[t], Or.inr ⟨t, Or.inl hkw, rfl⟩, hc⟩
      · obtain ⟨t, hkw, hc⟩ := isWord_iff.1 h
        exact ⟨[t], Or.inr ⟨t, Or.inr hkw, rfl⟩, hc⟩
  · exact ⟨[], Or.inl rfl, rfl⟩

theorem skipWord_append {value : String} {front rest : List Token} (h : Maybe (Keyword value) front)
    (hrest : isWord value rest = false) :
    skipWord value (front ++ rest) = rest := by
  obtain rfl | ⟨t, hkw, rfl⟩ := h
  · simp [skipWord, hrest]
  · simp [skipWord, hkw.isWord_eq]

theorem skipComma_append {front rest : List Token} (h : Maybe (· = .punct ",") front)
    (hrest : isComma rest = false) : skipComma (front ++ rest) = rest := by
  obtain rfl | ⟨t, rfl, rfl⟩ := h
  · simp [skipComma, hrest]
  · simp [skipComma, isComma]

theorem skipArticle_append {front rest : List Token} (h : Maybe IsArticle front)
    (ha : isWord "a" rest = false) (han : isWord "an" rest = false) :
    skipArticle (front ++ rest) = rest := by
  obtain rfl | ⟨t, hkw | hkw, rfl⟩ := h
  · simp [skipArticle, ha, han]
  · simp [skipArticle, hkw.isWord_eq]
  · simp [skipArticle, hkw.isWord_eq]

/-! ### Names -/

/-- Words with blanks between them, after an article that is no part of them; none of them is a stop
word. -/
def NameOf (stopWords : List String) (name : String) (tokens : List Token) : Prop :=
  name ≠ "" ∧ ∃ words, skipArticle tokens = words.map .word ∧
    (∀ word ∈ words, toLower word ∉ stopWords) ∧ name = " ".intercalate words

theorem wordsUntil_append {stopWords words : List String} {rest : List Token}
    (hwords : ∀ word ∈ words, toLower word ∉ stopWords)
    (hrest : wordsUntil stopWords rest = ([], rest)) :
    wordsUntil stopWords (words.map .word ++ rest) = (words, rest) := by
  induction words with
  | nil => exact hrest
  | cons word words ih =>
      rw [List.map_cons, List.cons_append, wordsUntil, if_neg (hwords word (by simp)),
        ih fun w hw => hwords w (List.mem_cons_of_mem _ hw)]

theorem wordsUntil_eq (stopWords : List String) (c : List Token) :
    c = (wordsUntil stopWords c).1.map .word ++ (wordsUntil stopWords c).2 ∧
      ∀ word ∈ (wordsUntil stopWords c).1, toLower word ∉ stopWords := by
  induction c with
  | nil => exact ⟨rfl, fun word hword => nomatch hword⟩
  | cons t c ih =>
      cases t with
      | word w =>
          rw [wordsUntil]
          split
          · exact ⟨rfl, fun word hword => nomatch hword⟩
          · next hstop =>
              refine ⟨congrArg (Token.word w :: ·) ih.1, fun word hword => ?_⟩
              rcases List.mem_cons.1 hword with rfl | hword
              · exact hstop
              · exact ih.2 word hword
      | string s => exact ⟨rfl, fun word hword => nomatch hword⟩
      | punct p => exact ⟨rfl, fun word hword => nomatch hword⟩

theorem wordsUntil_stop {stopWords : List String} {value : String} {t : Token}
    (h : Keyword value t) (hstop : value ∈ stopWords) (c : List Token) :
    wordsUntil stopWords (t :: c) = ([], t :: c) := by
  obtain ⟨w, rfl, rfl⟩ := h
  rw [wordsUntil, if_pos hstop]

theorem skipArticle_cons_append (t : Token) (tokens rest : List Token) :
    skipArticle (t :: tokens ++ rest) = skipArticle (t :: tokens) ++ rest := by
  have hword : ∀ value, isWord value (t :: tokens ++ rest) = isWord value (t :: tokens) := by
    intro value
    cases t <;> rfl
  unfold skipArticle
  rw [hword, hword]
  split
  · rfl
  · rfl

/-- A name is read up to a stop word. -/
theorem NameOf.consume {stopWords : List String} {name : String} {tokens rest : List Token}
    (h : NameOf stopWords name tokens) (hrest : wordsUntil stopWords rest = ([], rest)) :
    consumeWordsUntil stopWords (skipArticle (tokens ++ rest)) = (name, rest) := by
  obtain ⟨hne, words, hskip, hwords, rfl⟩ := h
  cases tokens with
  | nil =>
      obtain rfl : words = [] := List.map_eq_nil_iff.1 hskip.symm
      exact absurd rfl hne
  | cons t tokens =>
      rw [skipArticle_cons_append, hskip, consumeWordsUntil, wordsUntil_append hwords hrest]

theorem nameOf_consume {stopWords : List String} {c : List Token}
    (hne : (consumeWordsUntil stopWords (skipArticle c)).1 ≠ "") :
    ∃ tokens, c = tokens ++ (consumeWordsUntil stopWords (skipArticle c)).2 ∧
      NameOf stopWords (consumeWordsUntil stopWords (skipArticle c)).1 tokens := by
  obtain ⟨front, hfront, hc⟩ := skipArticle_eq c
  obtain ⟨hwords, hstop⟩ := wordsUntil_eq stopWords (skipArticle c)
  refine ⟨front ++ (wordsUntil stopWords (skipArticle c)).1.map .word, ?_, hne, _, ?_, hstop, rfl⟩
  · rw [List.append_assoc]
    exact hc.trans (congrArg (front ++ ·) hwords)
  · cases hlist : (wordsUntil stopWords (skipArticle c)).1 with
    | nil => exact absurd (by rw [consumeWordsUntil, hlist]; rfl) hne
    | cons first more =>
        rw [hlist] at hwords
        obtain rfl | ⟨t, hkw, rfl⟩ := hfront
        · -- without an article before it the first word is no article
          have hself : skipArticle c = c := hc.symm
          rw [hself, List.map_cons] at hwords
          rw [hwords, skipArticle_cons_append] at hself
          exact List.append_cancel_right hself
        · rcases hkw with hkw | hkw
          · simp [skipArticle, hkw.isWord_eq]
          · simp [skipArticle, hkw.isWord_eq]

/-! ### Attributes -/

/-- A comma, `and`, or both. -/
inductive Separator : List Token → Prop
  | comma : Separator [.punct ","]
  | and {t : Token} (hkw : Keyword "and" t) : Separator [t]
  | commaAnd {t : Token} (hkw : Keyword "and" t) : Separator [.punct ",", t]

theorem Separator.consume {sep : List Token} (h : Separator sep) {rest : List Token}
    (hrest : sep = [.punct ","] → isWord "and" rest = false) :
    consumeSeparator (sep ++ rest) = (true, rest) := by
  cases h with
  | comma => simp [consumeSeparator, skipComma, isComma, hrest rfl]
  | and hkw => simp [consumeSeparator, skipComma, hkw.isComma_eq, hkw.isWord_eq]
  | commaAnd hkw => simp [consumeSeparator, skipComma, isComma, hkw.isWord_eq]

theorem consumeSeparator_true {c rest : List Token} (h : consumeSeparator c = (true, rest)) :
    ∃ sep, c = sep ++ rest ∧ Separator sep ∧
      (sep = [.punct ","] → isWord "and" rest = false) := by
  unfold consumeSeparator at h
  cases hcomma : isComma c with
  | true =>
      have hc := isComma_iff.1 hcomma
      simp only [skipComma, hcomma, if_true] at h
      split at h
      · next hand =>
          obtain ⟨t, hkw, htail⟩ := isWord_iff.1 hand
          obtain ⟨-, rfl⟩ := Prod.mk.inj h
          refine ⟨[.punct ",", t], ?_, .commaAnd hkw, by simp⟩
          rw [hc, htail]
          rfl
      · next hand =>
          obtain ⟨-, rfl⟩ := Prod.mk.inj h
          exact ⟨[.punct ","], hc, .comma, fun _ => Bool.eq_false_iff.2 hand⟩
  | false =>
      simp only [skipComma, hcomma, Bool.false_eq_true, if_false] at h
      split at h
      · next hand =>
          obtain ⟨t, hkw, hc⟩ := isWord_iff.1 hand
          obtain ⟨-, rfl⟩ := Prod.mk.inj h
          refine ⟨[t], hc, .and hkw, fun heq => ?_⟩
          obtain ⟨w, rfl, -⟩ := hkw
          cases heq
      · cases h

theorem consumeSeparator_false {c rest : List Token} (h : consumeSeparator c = (false, rest)) :
    rest = c := by
  unfold consumeSeparator at h
  cases hcomma : isComma c with
  | true =>
      simp only [skipComma, hcomma, if_true] at h
      split at h
      · cases h
      · cases h
  | false =>
      simp only [skipComma, hcomma, Bool.false_eq_true, if_false] at h
      split at h
      · cases h
      · exact (Prod.mk.inj h).2.symm

/-- A quoted text, or words without `and`. -/
inductive ValueOf : String → List Token → Prop
  | quoted (s : String) : ValueOf s [.string s]
  | words {words : List String} (hne : words ≠ [])
      (hwords : ∀ word ∈ words, toLower word ∉ ["and"]) :
      ValueOf (" ".intercalate words) (words.map .word)

theorem ValueOf.parse {value : String} {tokens rest : List Token} (h : ValueOf value tokens)
    (hrest : wordsUntil ["and"] rest = ([], rest)) :
    parseValue (tokens ++ rest) = some (value, rest) := by
  cases h with
  | quoted s => rfl
  | @words words hne hwords =>
      have huntil := wordsUntil_append hwords hrest
      cases words with
      | nil => exact absurd rfl hne
      | cons first more =>
          have hcons : ((first :: more).map Token.word ++ rest) =
              .word first :: (more.map .word ++ rest) := rfl
          rw [hcons] at huntil ⊢
          simp [parseValue, consumeWordsUntil, huntil]

theorem parseValue_sound {c rest : List Token} {value : String}
    (h : parseValue c = some (value, rest)) :
    ∃ tokens, c = tokens ++ rest ∧ ValueOf value tokens := by
  unfold parseValue at h
  split at h
  · obtain ⟨rfl, rfl⟩ := Prod.mk.inj (Option.some.inj h)
    exact ⟨_, rfl, .quoted _⟩
  · split at h
    · cases h
    · next hne =>
        obtain ⟨rfl, rfl⟩ := Prod.mk.inj (Option.some.inj h)
        exact ⟨_, (wordsUntil_eq ["and"] _).1, .words hne (wordsUntil_eq ["and"] _).2⟩

/-- `key of value`. -/
def AttrOf (attr : BqlAttr) (tokens : List Token) : Prop :=
  ∃ key t value, tokens = key ++ t :: value ∧ NameOf ["of"] attr.key key ∧ Keyword "of" t ∧
    ValueOf attr.value value

theorem AttrOf.parse {attr : BqlAttr} {tokens rest : List Token} (h : AttrOf attr tokens)
    (hrest : wordsUntil ["and"] rest = ([], rest)) :
    parseAttrItem (tokens ++ rest) = some (attr, rest) := by
  obtain ⟨key, t, value, rfl, hkey, hkw, hvalue⟩ := h
  have hconsume := hkey.consume (wordsUntil_stop hkw (by simp) (value ++ rest))
  rw [List.append_assoc, List.cons_append, parseAttrItem, hconsume]
  simp [hkey.1, hkw.isWord_eq, hvalue.parse hrest]

theorem parseAttrItem_sound {c rest : List Token} {attr : BqlAttr}
    (h : parseAttrItem c = some (attr, rest)) :
    ∃ tokens, c = tokens ++ rest ∧ AttrOf attr tokens := by
  unfold parseAttrItem at h
  dsimp only at h
  split at h
  · cases h
  · next hkey =>
      simp only [Bool.or_eq_true, decide_eq_true_eq, Bool.not_eq_true', not_or,
        Bool.not_eq_false] at hkey
      obtain ⟨key, hc, hname⟩ := nameOf_consume hkey.1
      obtain ⟨t, hkw, hof⟩ := isWord_iff.1 hkey.2
      obtain ⟨⟨value, rest'⟩, hvalue, heq⟩ := Option.map_eq_some_iff.1 h
      obtain ⟨rfl, rfl⟩ := Prod.mk.inj heq
      obtain ⟨tokens, htail, hvalueOf⟩ := parseValue_sound hvalue
      refine ⟨key ++ t :: tokens, ?_, key, t, tokens, rfl, hname, hkw, hvalueOf⟩
      rw [hc, hof, htail]
      simp

/-- More attributes, with a separator before each. -/
inductive MoreAttrsOf : List BqlAttr → List Token → Prop
  | nil : MoreAttrsOf [] []
  | cons {attr : BqlAttr} {attrs : List BqlAttr} {sep item more : List Token}
      (hsep : Separator sep) (hand : sep = [.punct ","] → isWord "and" (item ++ more) = false)
      (hitem : AttrOf attr item) (hmore : MoreAttrsOf attrs more) :
      MoreAttrsOf (attr :: attrs) (sep ++ (item ++ more))

/-- Attributes, with separators between them. -/
def AttrsOf (attrs : List BqlAttr) (tokens : List Token) : Prop :=
  ∃ attr more item rest, attrs = attr :: more ∧ tokens = item ++ rest ∧ AttrOf attr item ∧
    MoreAttrsOf more rest

theorem MoreAttrsOf.wordsUntil_eq {attrs : List BqlAttr} {tokens : List Token}
    (h : MoreAttrsOf attrs tokens) : wordsUntil ["and"] tokens = ([], tokens) := by
  cases h with
  | nil => rfl
  | cons hsep _ _ _ =>
      cases hsep with
      | comma => rfl
      | and hkw => exact wordsUntil_stop hkw (by simp) _
      | commaAnd _ => rfl

theorem MoreAttrsOf.parse {attrs : List BqlAttr} {tokens : List Token}
    (h : MoreAttrsOf attrs tokens) : parseAttrTail tokens = some (attrs, []) := by
  induction h with
  | nil =>
      rw [parseAttrTail_eq]
      rfl
  | cons hsep hand hitem hmore ih =>
      rw [parseAttrTail_eq, hsep.consume hand, if_pos rfl, parseAttrList,
        hitem.parse hmore.wordsUntil_eq]
      simp [ih]

theorem AttrsOf.parse {attrs : List BqlAttr} {tokens : List Token} (h : AttrsOf attrs tokens) :
    parseAttrList tokens = some (attrs, []) := by
  obtain ⟨attr, more, item, rest, rfl, rfl, hitem, hmore⟩ := h
  rw [parseAttrList, hitem.parse hmore.wordsUntil_eq]
  simp [hmore.parse]

theorem parseAttrTail_sound {c : List Token} {attrs : List BqlAttr}
    (h : parseAttrTail c = some (attrs, [])) : MoreAttrsOf attrs c := by
  induction hlen : c.length using Nat.strong_induction_on generalizing c attrs with
  | _ n ih =>
      rw [parseAttrTail_eq] at h
      rcases hsep : consumeSeparator c with ⟨found, rest⟩
      rw [hsep] at h
      cases found with
      | false =>
          obtain ⟨rfl, rfl⟩ := Prod.mk.inj (Option.some.inj h)
          rw [← consumeSeparator_false hsep]
          exact .nil
      | true =>
          obtain ⟨sep, rfl, hseparator, hand⟩ := consumeSeparator_true hsep
          rw [if_pos rfl, parseAttrList] at h
          dsimp only at h
          rcases hitem : parseAttrItem rest with _ | ⟨attr, rest'⟩
          · rw [hitem] at h
            cases h
          · rw [hitem] at h
            obtain ⟨⟨more, left⟩, htail, heq⟩ := Option.map_eq_some_iff.1 h
            obtain ⟨rfl, rfl⟩ := Prod.mk.inj heq
            obtain ⟨item, rfl, hattr⟩ := parseAttrItem_sound hitem
            have hlt := consumeSeparator_length hsep
            refine .cons hseparator hand hattr (ih rest'.length ?_ htail rfl)
            simp only [List.length_append] at hlen hlt
            omega

theorem parseAttrList_sound {c : List Token} {attrs : List BqlAttr}
    (h : parseAttrList c = some (attrs, [])) : AttrsOf attrs c := by
  unfold parseAttrList at h
  rcases hitem : parseAttrItem c with _ | ⟨attr, rest⟩
  · rw [hitem] at h
    cases h
  · rw [hitem] at h
    obtain ⟨⟨more, left⟩, htail, heq⟩ := Option.map_eq_some_iff.1 h
    obtain ⟨rfl, rfl⟩ := Prod.mk.inj heq
    obtain ⟨item, rfl, hattr⟩ := parseAttrItem_sound hitem
    exact ⟨attr, more, item, rest, rfl, rfl, hattr, parseAttrTail_sound htail⟩

/-- The parser takes a list of attributes that goes on to the end of the line where the grammar has
one. -/
theorem parseAttrList_iff {c : List Token} {attrs : List BqlAttr} :
    parseAttrList c = some (attrs, []) ↔ AttrsOf attrs c :=
  ⟨parseAttrList_sound, AttrsOf.parse⟩

/-! ### Clauses -/

/-- `called …`, or nothing. -/
inductive CalledOf : Option String → List Token → Prop
  | absent : CalledOf none []
  | given {t : Token} {own : String} (hkw : Keyword "called" t) : CalledOf (some own) [t, .word own]

/-- `that says …`, or nothing. -/
inductive ThatSaysOf : Option String → List Token → Prop
  | absent : ThatSaysOf none []
  | given {t t' : Token} {text : String} (hkw : Keyword "that" t) (hkw' : Keyword "says" t') :
      ThatSaysOf (some text) [t, t', .string text]

/-- `with …`, or nothing. -/
inductive WithOf : List BqlAttr → List Token → Prop
  | absent : WithOf [] []
  | given {t : Token} {attrs : List BqlAttr} {tokens : List Token} (hkw : Keyword "with" t)
      (hattrs : AttrsOf attrs tokens) : WithOf attrs (t :: tokens)

/-- The words at which the name of a clause ends. -/
def clauseWords : List String := ["called", "that", "with"]

/-- A name and the three parts that may follow it. -/
def ClauseOf (clause : AddClause) (tokens : List Token) : Prop :=
  ∃ name called text attrs, tokens = name ++ (called ++ (text ++ attrs)) ∧
    NameOf clauseWords clause.blockName name ∧ CalledOf clause.«alias» called ∧
    ThatSaysOf clause.text text ∧ WithOf clause.attrs attrs

theorem CalledOf.parse {own : Option String} {front rest : List Token} (h : CalledOf own front)
    (hrest : isWord "called" rest = false) : parseCalled (front ++ rest) = some (own, rest) := by
  cases h with
  | absent => simp [parseCalled, hrest]
  | given hkw => simp [parseCalled, hkw.isWord_eq]

theorem parseCalled_sound {c rest : List Token} {own : Option String}
    (h : parseCalled c = some (own, rest)) : ∃ front, c = front ++ rest ∧ CalledOf own front := by
  unfold parseCalled at h
  split at h
  · next hcalled =>
      obtain ⟨t, hkw, hc⟩ := isWord_iff.1 hcalled
      split at h
      · next w c' htail =>
          obtain ⟨rfl, rfl⟩ := Prod.mk.inj (Option.some.inj h)
          exact ⟨[t, .word w], by rw [hc, htail]; rfl, .given hkw⟩
      · cases h
  · obtain ⟨rfl, rfl⟩ := Prod.mk.inj (Option.some.inj h)
    exact ⟨[], rfl, .absent⟩

theorem ThatSaysOf.parse {text : Option String} {front rest : List Token}
    (h : ThatSaysOf text front) (hrest : isWord "that" rest = false) :
    parseThatSays (front ++ rest) = some (text, rest) := by
  cases h with
  | absent => simp [parseThatSays, hrest]
  | given hkw hkw' => simp [parseThatSays, hkw.isWord_eq, hkw'.isWord_eq]

theorem parseThatSays_sound {c rest : List Token} {text : Option String}
    (h : parseThatSays c = some (text, rest)) :
    ∃ front, c = front ++ rest ∧ ThatSaysOf text front := by
  unfold parseThatSays at h
  split at h
  · next hthat =>
      obtain ⟨t, hkw, hc⟩ := isWord_iff.1 hthat
      split at h
      · next hsays =>
          obtain ⟨t', hkw', hc'⟩ := isWord_iff.1 hsays
          split at h
          · next s c' htail =>
              obtain ⟨rfl, rfl⟩ := Prod.mk.inj (Option.some.inj h)
              exact ⟨[t, t', .string s], by rw [hc, hc', htail]; rfl, .given hkw hkw'⟩
          · cases h
      · cases h
  · obtain ⟨rfl, rfl⟩ := Prod.mk.inj (Option.some.inj h)
    exact ⟨[], rfl, .absent⟩

theorem parseWith_iff {c : List Token} {attrs : List BqlAttr} :
    parseWith c = some (attrs, []) ↔ WithOf attrs c := by
  constructor
  · intro h
    unfold parseWith at h
    split at h
    · next hwith =>
        obtain ⟨t, hkw, hc⟩ := isWord_iff.1 hwith
        rw [hc]
        exact .given hkw (parseAttrList_sound h)
    · obtain ⟨rfl, rfl⟩ := Prod.mk.inj (Option.some.inj h)
      exact .absent
  · intro h
    cases h with
    | absent => rfl
    | given hkw hattrs => simp [parseWith, hkw.isWord_eq, hattrs.parse]

theorem WithOf.isWord_eq_false {attrs : List BqlAttr} {tokens : List Token}
    (h : WithOf attrs tokens) {value : String} (hvalue : "with" ≠ value) :
    isWord value tokens = false := by
  cases h with
  | absent => rfl
  | given hkw _ => rw [hkw.isWord_eq, decide_eq_false hvalue]

theorem ThatSaysOf.isWord_append {text : Option String} {front rest : List Token}
    (h : ThatSaysOf text front) {value : String} (hvalue : "that" ≠ value)
    (hrest : isWord value rest = false) : isWord value (front ++ rest) = false := by
  cases h with
  | absent => exact hrest
  | given hkw _ => rw [List.cons_append, hkw.isWord_eq, decide_eq_false hvalue]

/-- The name of a clause ends where its first part begins. -/
theorem wordsUntil_clause {own text : Option String} {attrs : List BqlAttr}
    {called textTokens withTokens : List Token} (hcalled : CalledOf own called)
    (htext : ThatSaysOf text textTokens) (hattrs : WithOf attrs withTokens) :
    wordsUntil clauseWords (called ++ (textTokens ++ withTokens)) =
      ([], called ++ (textTokens ++ withTokens)) := by
  cases hcalled with
  | given hkw => exact wordsUntil_stop hkw (by decide) _
  | absent =>
      cases htext with
      | given hkw _ => exact wordsUntil_stop hkw (by decide) _
      | absent =>
          cases hattrs with
          | given hkw _ => exact wordsUntil_stop hkw (by decide) _
          | absent => rfl

/-- The parser takes a clause that goes on to the end of the line where the grammar has one. -/
theorem parseAddClause_iff {c : List Token} {clause : AddClause} :
    parseAddClause c = some (clause, []) ↔ ClauseOf clause c := by
  constructor
  · intro h
    unfold parseAddClause at h
    dsimp only at h
    split at h
    · cases h
    · next hne =>
        simp only [Option.bind_eq_bind, Option.bind_eq_some_iff] at h
        obtain ⟨called, hcalled, text, htext, attrs, hattrs, heq⟩ := h
        obtain ⟨rfl, hrest⟩ := Prod.mk.inj (Option.some.inj heq)
        obtain ⟨name, hc, hname⟩ := nameOf_consume hne
        obtain ⟨front, hfront, hcalledOf⟩ := parseCalled_sound hcalled
        obtain ⟨front', hfront', htextOf⟩ := parseThatSays_sound htext
        have hwith : parseWith text.2 = some (attrs.1, []) := by rw [hattrs, ← hrest]
        refine ⟨name, front, front', text.2, ?_, hname, hcalledOf, htextOf, parseWith_iff.1 hwith⟩
        rw [← hfront', ← hfront]
        exact hc
  · rintro ⟨name, called, text, attrs, rfl, hname, hcalled, htext, hattrs⟩
    have hblock := hname.consume (wordsUntil_clause hcalled htext hattrs)
    have hc := hcalled.parse (htext.isWord_append (by decide) (hattrs.isWord_eq_false (by decide)))
    have ht := htext.parse (hattrs.isWord_eq_false (by decide))
    unfold clauseWords at hblock
    rw [parseAddClause, hblock]
    simp [hname.1, hc, ht, parseWith_iff.2 hattrs]

/-! ### Lists of names -/

/-- Quoted names with separators between them, and maybe one more after the last. -/
inductive NamesOf : List String → List Token → Prop
  | nil : NamesOf [] []
  | last (s : String) : NamesOf [s] [.string s]
  | cons {s : String} {names : List String} {sep more : List Token} (hsep : Separator sep)
      (hmore : NamesOf names more) : NamesOf (s :: names) (.string s :: (sep ++ more))

theorem NamesOf.parse {names : List String} {front : List Token} (h : NamesOf names front)
    {t : Token} (hkw : Keyword "to" t) (rest : List Token) :
    parseNameList (front ++ t :: rest) = (names, t :: rest) := by
  induction h with
  | nil =>
      obtain ⟨w, rfl, -⟩ := hkw
      rw [List.nil_append, parseNameList]
      simp
  | last s =>
      have hsep : consumeSeparator (t :: rest) = (false, t :: rest) := by
        simp [consumeSeparator, skipComma, hkw.isComma_eq, hkw.isWord_eq]
      rw [List.singleton_append, parseNameList_string, hsep]
      rfl
  | @cons s names sep more hsep hmore ih =>
      have hand : isWord "and" (more ++ t :: rest) = false := by
        cases hmore with
        | nil => simp [hkw.isWord_eq]
        | last s => rfl
        | cons _ _ => rfl
      rw [List.cons_append, List.append_assoc, parseNameList_string, hsep.consume fun _ => hand, ih]
      rfl

theorem parseNameList_sound (c : List Token) :
    ∃ front, c = front ++ (parseNameList c).2 ∧ NamesOf (parseNameList c).1 front := by
  induction hlen : c.length using Nat.strong_induction_on generalizing c with
  | _ n ih =>
      have hother : (∀ s c', c ≠ .string s :: c') → parseNameList c = ([], c) := by
        intro hne
        rw [parseNameList]
        exact hne
      cases c with
      | nil => rw [hother (by simp)]; exact ⟨[], rfl, .nil⟩
      | cons t c =>
          cases t with
          | word w => rw [hother (by simp)]; exact ⟨[], rfl, .nil⟩
          | punct p => rw [hother (by simp)]; exact ⟨[], rfl, .nil⟩
          | string s =>
              rcases hsep : consumeSeparator c with ⟨found, rest⟩
              rw [parseNameList_string, hsep]
              cases found with
              | false =>
                  obtain rfl := consumeSeparator_false hsep
                  exact ⟨[.string s], rfl, .last s⟩
              | true =>
                  obtain ⟨sep, rfl, hseparator, -⟩ := consumeSeparator_true hsep
                  have hlt := consumeSeparator_length hsep
                  simp only [List.length_cons] at hlen
                  obtain ⟨front, hrest, hnames⟩ := ih rest.length (by omega) rest rfl
                  refine ⟨.string s :: (sep ++ front), ?_, .cons hseparator hnames⟩
                  rw [if_pos rfl, List.cons_append, List.append_assoc, ← hrest]

/-! ### Lines -/

/-- What a line says. -/
inductive Line where
  | add (parent : Option String) (clause : AddClause)
  | give (target : String) (attrs : List BqlAttr)
  | style (name : String) (attrs : List BqlAttr)
  | apply (names : List String) (target : String)
  | publish (title : String) (path : String)
  | publishWorkflow
  | newPage
  | newWorkflow (name : String)
  | runOnForm (form : String)
  | runOn (event : String)
  | step (clause : AddClause)
  deriving DecidableEq, Repr

/-- The sentence that is made of it. -/
def Line.sentence : Line → BqlSentence
  | .add parent clause => addResult clause parent
  | .give target attrs => { kind := .give, «alias» := some target, attrs := attrs }
  | .style name attrs => { kind := .style, name := name, attrs := attrs }
  | .apply names target => { kind := .«class», names := names, «alias» := some target }
  | .publish title path => { kind := .publish, name := title, path := path }
  | .publishWorkflow => { kind := .publishWorkflow }
  | .newPage => { kind := .clear }
  | .newWorkflow name => { kind := .workflow, name := name }
  | .runOnForm form => { kind := .trigger, event := "FormSubmission.created", form := form }
  | .runOn event => { kind := .trigger, event := event }
  | .step clause => { kind := .step, stepName := clause.blockName, attrs := clause.attrs }

/-- `as "…"`, or nothing. -/
inductive TitleOf : String → List Token → Prop
  | absent : TitleOf "" []
  | given {t : Token} {title : String} (hkw : Keyword "as" t) : TitleOf title [t, .string title]

/-- A path, in quotes or without. -/
inductive PathOf : String → Token → Prop
  | word (path : String) : PathOf path (.word path)
  | string (path : String) : PathOf path (.string path)

/-- The phrases that stand for an event. -/
inductive EventOf : String → String → Prop
  | submits : EventOf "someone submits a form" "FormSubmission.created"
  | submitted : EventOf "a form is submitted" "FormSubmission.created"
  | joins : EventOf "someone joins" "User.created"
  | signsUp : EventOf "someone signs up" "User.created"

/-- `someone submits the` comes, which asks for a form in quotes. -/
def asksForm (c : List Token) : Bool :=
  isWord "someone" c && isWord "submits" c.tail && isWord "the" c.tail.tail

/-- **The lines of BQL**, by their first words. -/
inductive LineOf : Line → List Token → Prop
  | add {t : Token} {clause : AddClause} {c : List Token} (h : Keyword "add" t)
      (hclause : ClauseOf clause c) : LineOf (.add none clause) (t :: c)
  | inside {t t₁ : Token} {parent : String} {comma c : List Token} {clause : AddClause}
      (h : Keyword "inside" t) (hcomma : Maybe (· = .punct ",") comma) (h₁ : Keyword "add" t₁)
      (hclause : ClauseOf clause c) :
      LineOf (.add (some parent) clause) (t :: .word parent :: (comma ++ t₁ :: c))
  | give {t : Token} {target : String} {attrs : List BqlAttr} {c : List Token}
      (h : Keyword "give" t) (hattrs : AttrsOf attrs c) :
      LineOf (.give target attrs) (t :: .word target :: c)
  | style {t t₁ t₂ : Token} {name : String} {attrs : List BqlAttr} {article c : List Token}
      (h : Keyword "make" t) (harticle : Maybe IsArticle article) (h₁ : Keyword "style" t₁)
      (h₂ : Keyword "called" t₂) (hattrs : WithOf attrs c) :
      LineOf (.style name attrs) (t :: (article ++ t₁ :: t₂ :: .string name :: c))
  | apply {t t₁ : Token} {names : List String} {target : String} {c : List Token}
      (h : Keyword "apply" t) (hne : names ≠ []) (hnames : NamesOf names c)
      (h₁ : Keyword "to" t₁) : LineOf (.apply names target) (t :: (c ++ [t₁, .word target]))
  | publish {t t₁ t₂ : Token} {title path : String} {this c : List Token}
      (h : Keyword "publish" t) (hthis : Maybe (Keyword "this") this) (htitle : TitleOf title c)
      (h₁ : Keyword "at" t₁) (hpath : PathOf path t₂) :
      LineOf (.publish title path) (t :: (this ++ (c ++ [t₁, t₂])))
  | publishWorkflow {t t₁ t₂ : Token} (h : Keyword "publish" t) (h₁ : Keyword "the" t₁)
      (h₂ : Keyword "workflow" t₂) : LineOf .publishWorkflow [t, t₁, t₂]
  | newPage {t t₁ t₂ : Token} {article : List Token} (h : Keyword "start" t)
      (harticle : Maybe IsArticle article) (h₁ : Keyword "new" t₁) (h₂ : Keyword "page" t₂) :
      LineOf .newPage (t :: (article ++ [t₁, t₂]))
  | newWorkflow {t t₁ t₂ t₃ : Token} {name : String} {article : List Token}
      (h : Keyword "start" t) (harticle : Maybe IsArticle article) (h₁ : Keyword "new" t₁)
      (h₂ : Keyword "workflow" t₂) (h₃ : Keyword "called" t₃) :
      LineOf (.newWorkflow name) (t :: (article ++ [t₁, t₂, t₃, .string name]))
  | runOnForm {t t₁ t₂ t₃ t₄ t₅ : Token} {form : String} {it : List Token}
      (h : Keyword "run" t) (hit : Maybe (Keyword "it") it) (h₁ : Keyword "when" t₁)
      (h₂ : Keyword "someone" t₂) (h₃ : Keyword "submits" t₃) (h₄ : Keyword "the" t₄)
      (h₅ : Keyword "form" t₅) :
      LineOf (.runOnForm form) (t :: (it ++ [t₁, t₂, t₃, t₄, .string form, t₅]))
  | runOn {t t₁ : Token} {words : List String} {event : String} {it : List Token}
      (h : Keyword "run" t) (hit : Maybe (Keyword "it") it) (h₁ : Keyword "when" t₁)
      (hform : asksForm (words.map .word) = false)
      (hevent : EventOf (toLower (" ".intercalate words)) event) :
      LineOf (.runOn event) (t :: (it ++ t₁ :: words.map .word))
  | step {t : Token} {clause : AddClause} {c : List Token} (h : Keyword "then" t)
      (hclause : ClauseOf clause c) : LineOf (.step clause) (t :: c)

theorem ClauseOf.blockName_ne {clause : AddClause} {c : List Token} (h : ClauseOf clause c) :
    clause.blockName ≠ "" := by
  obtain ⟨_, _, _, _, -, hname, -⟩ := h
  exact hname.1

/-- **The parser takes every line of the grammar**, to the end, and makes of it the sentence that it
says. -/
theorem LineOf.parse {line : Line} {c : List Token} (hline : LineOf line c) (rawLine : String) :
    parseForm rawLine c = .ok (line.sentence, []) := by
  cases hline with
  | add h hclause =>
      simp [parseForm, h.isWord_eq, parseAdd, parseAddClause_iff.2 hclause, Line.sentence]
  | @inside t t₁ parent comma c clause h hcomma h₁ hclause =>
      have hskip := skipComma_append hcomma (h₁.isComma_eq c)
      simp [parseForm, h.isWord_eq, parseInsideAdd, hskip, h₁.isWord_eq,
        parseAddClause_iff.2 hclause, Line.sentence]
  | give h hattrs =>
      simp [parseForm, h.isWord_eq, parseGive, parseAttrList_iff.2 hattrs, Line.sentence]
  | @style t t₁ t₂ name attrs article c h harticle h₁ h₂ hattrs =>
      have hskip : skipArticle (article ++ t₁ :: t₂ :: .string name :: c) =
          t₁ :: t₂ :: .string name :: c :=
        skipArticle_append harticle (by simp [h₁.isWord_eq]) (by simp [h₁.isWord_eq])
      simp [parseForm, h.isWord_eq, parseStyle, hskip, h₁.isWord_eq, h₂.isWord_eq,
        parseWith_iff.2 hattrs, Line.sentence]
  | apply h hne hnames h₁ =>
      simp [parseForm, h.isWord_eq, parseApply, hnames.parse h₁, hne, h₁.isWord_eq, Line.sentence]
  | @publish t t₁ t₂ title path this c h hthis htitle h₁ hpath =>
      have hno : ∀ value, "as" ≠ value → "at" ≠ value → isWord value (c ++ [t₁, t₂]) = false := by
        intro value has hat
        cases htitle with
        | absent => simp [h₁.isWord_eq, hat]
        | given h₂ => simp [h₂.isWord_eq, has]
      have hskip := skipWord_append hthis (hno "this" (by decide) (by decide))
      have hthe : isWord "the" (this ++ (c ++ [t₁, t₂])) = false := by
        obtain rfl | ⟨t₃, h₃, rfl⟩ := hthis
        · exact hno "the" (by decide) (by decide)
        · simp [h₃.isWord_eq]
      have htitle' : parseTitle (c ++ [t₁, t₂]) = some (title, [t₁, t₂]) := by
        cases htitle with
        | absent => simp [parseTitle, h₁.isWord_eq]
        | given h₂ => simp [parseTitle, h₂.isWord_eq]
      cases hpath with
      | word =>
          simp [parseForm, h.isWord_eq, parsePublish, hthe, hskip, htitle', h₁.isWord_eq,
            Line.sentence]
      | string =>
          simp [parseForm, h.isWord_eq, parsePublish, hthe, hskip, htitle', h₁.isWord_eq,
            Line.sentence]
  | publishWorkflow h h₁ h₂ =>
      simp [parseForm, h.isWord_eq, parsePublish, h₁.isWord_eq, h₂.isWord_eq, Line.sentence]
  | @newPage t t₁ t₂ article h harticle h₁ h₂ =>
      have hskip : skipArticle (article ++ [t₁, t₂]) = [t₁, t₂] :=
        skipArticle_append harticle (by simp [h₁.isWord_eq]) (by simp [h₁.isWord_eq])
      simp [parseForm, h.isWord_eq, parseClear, hskip, h₁.isWord_eq, h₂.isWord_eq, Line.sentence]
  | @newWorkflow t t₁ t₂ t₃ name article h harticle h₁ h₂ h₃ =>
      have hskip : skipArticle (article ++ [t₁, t₂, t₃, .string name]) =
          [t₁, t₂, t₃, .string name] :=
        skipArticle_append harticle (by simp [h₁.isWord_eq]) (by simp [h₁.isWord_eq])
      simp [parseForm, h.isWord_eq, parseClear, hskip, h₁.isWord_eq, h₂.isWord_eq, h₃.isWord_eq,
        parseWorkflowStart, Line.sentence]
  | @runOnForm t t₁ t₂ t₃ t₄ t₅ form it h hit h₁ h₂ h₃ h₄ h₅ =>
      have hskip := @skipWord_append "it" it [t₁, t₂, t₃, t₄, .string form, t₅] hit
        (by simp [h₁.isWord_eq])
      simp [parseForm, h.isWord_eq, parseRunWhen, hskip, h₁.isWord_eq, h₂.isWord_eq, h₃.isWord_eq,
        h₄.isWord_eq, h₅.isWord_eq, Line.sentence]
  | @runOn t t₁ words event it h hit h₁ hform hevent =>
      have hskip := @skipWord_append "it" it (t₁ :: words.map .word) hit (by simp [h₁.isWord_eq])
      have hwords : consumeWordsUntil [] (words.map .word) = (" ".intercalate words, []) := by
        have huntil := @wordsUntil_append [] words [] (by simp) rfl
        rw [List.append_nil] at huntil
        rw [consumeWordsUntil, huntil]
      have hphrase : parsePhrase (words.map .word) =
          .ok ({ kind := .trigger, event := event }, []) := by
        rw [parsePhrase, hwords]
        generalize toLower (" ".intercalate words) = lowered at hevent
        cases hevent <;> simp
      unfold asksForm at hform
      simp [parseForm, h.isWord_eq, parseRunWhen, hskip, h₁.isWord_eq, hform, hphrase,
        Line.sentence]
  | step h hclause =>
      simp [parseForm, h.isWord_eq, parseThen, parseAddClause_iff.2 hclause, hclause.blockName_ne,
        Line.sentence]

/-! ### What the parser takes -/

/-- A line that says what the sentence is. -/
def Says (c : List Token) (sentence : BqlSentence) : Prop :=
  ∃ line, LineOf line c ∧ line.sentence = sentence

section Sound

variable {rawLine : String} {t : Token} {c : List Token} {sentence : BqlSentence}

theorem parseAdd_sound (hkw : Keyword "add" t) (h : parseAdd rawLine c = .ok (sentence, [])) :
    Says (t :: c) sentence := by
  unfold parseAdd at h
  split at h
  · cases h
  · next clause rest hclause =>
      cases h
      exact ⟨_, .add hkw (parseAddClause_iff.1 hclause), rfl⟩

theorem parseInsideAdd_sound (hkw : Keyword "inside" t)
    (h : parseInsideAdd rawLine c = .ok (sentence, [])) : Says (t :: c) sentence := by
  unfold parseInsideAdd at h
  split at h
  · next parent c =>
      obtain ⟨comma, hcomma, hc⟩ := skipComma_eq c
      split at h
      · next hadd =>
          obtain ⟨t₁, h₁, htail⟩ := isWord_iff.1 hadd
          split at h
          · cases h
          · next clause rest hclause =>
              cases h
              refine ⟨.add (some parent) clause, ?_, rfl⟩
              rw [hc, htail]
              exact .inside hkw hcomma h₁ (parseAddClause_iff.1 hclause)
      · cases h
  · cases h

theorem parseGive_sound (hkw : Keyword "give" t) (h : parseGive rawLine c = .ok (sentence, [])) :
    Says (t :: c) sentence := by
  unfold parseGive at h
  split at h
  · split at h
    · cases h
    · next attrs rest hattrs =>
        cases h
        exact ⟨_, .give hkw (parseAttrList_iff.1 hattrs), rfl⟩
  · cases h

theorem parseStyle_sound (hkw : Keyword "make" t) (h : parseStyle rawLine c = .ok (sentence, [])) :
    Says (t :: c) sentence := by
  obtain ⟨article, harticle, hc⟩ := skipArticle_eq c
  unfold parseStyle at h
  dsimp only at h
  split at h
  · next hwords =>
      obtain ⟨hstyle, hcalled⟩ := Bool.and_eq_true_iff.1 hwords
      obtain ⟨t₁, h₁, htail⟩ := isWord_iff.1 hstyle
      obtain ⟨t₂, h₂, htail'⟩ := isWord_iff.1 hcalled
      split at h
      · next name c' hname =>
          split at h
          · cases h
          · next attrs rest hattrs =>
              cases h
              refine ⟨.style name attrs, ?_, rfl⟩
              rw [hc, htail, htail', hname]
              exact .style hkw harticle h₁ h₂ (parseWith_iff.1 hattrs)
      · cases h
  · cases h

theorem parseApply_sound (hkw : Keyword "apply" t) (h : parseApply rawLine c = .ok (sentence, [])) :
    Says (t :: c) sentence := by
  obtain ⟨front, hc, hnames⟩ := parseNameList_sound c
  unfold parseApply at h
  rcases hlist : parseNameList c with ⟨names, rest⟩
  simp only [hlist] at h hc hnames
  split at h
  · cases h
  · next hne =>
      split at h
      · next hto =>
          obtain ⟨t₁, h₁, htail⟩ := isWord_iff.1 hto
          split at h
          · next target rest htarget =>
              cases h
              refine ⟨.apply names target, ?_, rfl⟩
              rw [hc, htail, htarget]
              exact .apply hkw hne hnames h₁
          · cases h
      · cases h

theorem parseTitle_sound {title : String} {rest : List Token}
    (h : parseTitle c = some (title, rest)) : ∃ front, c = front ++ rest ∧ TitleOf title front := by
  unfold parseTitle at h
  split at h
  · next has =>
      obtain ⟨t, hkw, hc⟩ := isWord_iff.1 has
      split at h
      · next title c' htail =>
          cases h
          exact ⟨_, by rw [hc, htail]; rfl, .given hkw⟩
      · cases h
  · cases h
    exact ⟨[], rfl, .absent⟩

theorem parsePublish_sound (hkw : Keyword "publish" t)
    (h : parsePublish rawLine c = .ok (sentence, [])) : Says (t :: c) sentence := by
  unfold parsePublish at h
  split at h
  · next hthe =>
      obtain ⟨t₁, h₁, hc⟩ := isWord_iff.1 hthe
      split at h
      · next hworkflow =>
          obtain ⟨t₂, h₂, htail⟩ := isWord_iff.1 hworkflow
          obtain ⟨rfl, hrest⟩ := Prod.mk.inj (Except.ok.inj h)
          refine ⟨.publishWorkflow, ?_, rfl⟩
          rw [hc, htail, hrest]
          exact .publishWorkflow hkw h₁ h₂
      · cases h
  · obtain ⟨this, hthis, hc⟩ := skipWord_eq "this" c
    split at h
    · cases h
    · next title rest htitle =>
        obtain ⟨front, hfront, htitleOf⟩ := parseTitle_sound htitle
        split at h
        · next hat =>
            obtain ⟨t₁, h₁, htail⟩ := isWord_iff.1 hat
            split at h
            · next path rest hpath =>
                cases h
                refine ⟨.publish title path, ?_, rfl⟩
                rw [hc, hfront, htail, hpath]
                exact .publish hkw hthis htitleOf h₁ (.word path)
            · next path rest hpath =>
                cases h
                refine ⟨.publish title path, ?_, rfl⟩
                rw [hc, hfront, htail, hpath]
                exact .publish hkw hthis htitleOf h₁ (.string path)
            · cases h
        · cases h

theorem parseClear_sound (hkw : Keyword "start" t) (h : parseClear rawLine c = .ok (sentence, [])) :
    Says (t :: c) sentence := by
  obtain ⟨article, harticle, hc⟩ := skipArticle_eq c
  unfold parseClear at h
  dsimp only at h
  split at h
  · next hnew =>
      obtain ⟨t₁, h₁, htail⟩ := isWord_iff.1 hnew
      split at h
      · next hworkflow =>
          obtain ⟨t₂, h₂, htail'⟩ := isWord_iff.1 hworkflow
          unfold parseWorkflowStart at h
          rw [if_pos hworkflow] at h
          split at h
          · next hcalled =>
              obtain ⟨t₃, h₃, htail''⟩ := isWord_iff.1 hcalled
              split at h
              · next name rest hname =>
                  cases h
                  refine ⟨.newWorkflow name, ?_, rfl⟩
                  rw [hc, htail, htail', htail'', hname]
                  exact .newWorkflow hkw harticle h₁ h₂ h₃
              · cases h
          · cases h
      · split at h
        · next hpage =>
            obtain ⟨t₂, h₂, htail'⟩ := isWord_iff.1 hpage
            obtain ⟨rfl, hrest⟩ := Prod.mk.inj (Except.ok.inj h)
            refine ⟨.newPage, ?_, rfl⟩
            rw [hc, htail, htail', hrest]
            exact .newPage hkw harticle h₁ h₂
        · cases h
  · cases h

theorem parsePhrase_sound (h : parsePhrase c = .ok (sentence, [])) :
    ∃ words event, c = words.map .word ∧ EventOf (toLower (" ".intercalate words)) event ∧
      sentence = { kind := .trigger, event := event } := by
  have hwords := (wordsUntil_eq [] c).1
  unfold parsePhrase at h
  dsimp only at h
  split at h
  · next hphrase =>
      obtain ⟨rfl, hrest⟩ := Prod.mk.inj (Except.ok.inj h)
      rw [show (wordsUntil [] c).2 = [] from hrest, List.append_nil] at hwords
      refine ⟨_, _, hwords, ?_, rfl⟩
      show EventOf (toLower (consumeWordsUntil [] c).1) _
      rcases hphrase with hphrase | hphrase
      · rw [hphrase]
        exact .submits
      · rw [hphrase]
        exact .submitted
  · split at h
    · next hphrase =>
        obtain ⟨rfl, hrest⟩ := Prod.mk.inj (Except.ok.inj h)
        rw [show (wordsUntil [] c).2 = [] from hrest, List.append_nil] at hwords
        refine ⟨_, _, hwords, ?_, rfl⟩
        show EventOf (toLower (consumeWordsUntil [] c).1) _
        rcases hphrase with hphrase | hphrase
        · rw [hphrase]
          exact .joins
        · rw [hphrase]
          exact .signsUp
    · cases h

theorem parseRunWhen_sound (hkw : Keyword "run" t)
    (h : parseRunWhen rawLine c = .ok (sentence, [])) : Says (t :: c) sentence := by
  obtain ⟨it, hit, hc⟩ := skipWord_eq "it" c
  unfold parseRunWhen at h
  split at h
  · next hwhen =>
      obtain ⟨t₁, h₁, htail⟩ := isWord_iff.1 hwhen
      dsimp only at h
      split at h
      · next hasks =>
          simp only [Bool.and_eq_true] at hasks
          obtain ⟨t₂, h₂, htail₂⟩ := isWord_iff.1 hasks.1.1
          obtain ⟨t₃, h₃, htail₃⟩ := isWord_iff.1 hasks.1.2
          obtain ⟨t₄, h₄, htail₄⟩ := isWord_iff.1 hasks.2
          split at h
          · next form rest hform =>
              split at h
              · next hword =>
                  obtain ⟨t₅, h₅, htail₅⟩ := isWord_iff.1 hword
                  obtain ⟨rfl, hrest⟩ := Prod.mk.inj (Except.ok.inj h)
                  refine ⟨.runOnForm form, ?_, rfl⟩
                  rw [hc, htail, htail₂, htail₃, htail₄, hform, htail₅, hrest]
                  exact .runOnForm hkw hit h₁ h₂ h₃ h₄ h₅
              · cases h
          · cases h
      · next hasks =>
          obtain ⟨words, event, hwords, hevent, rfl⟩ := parsePhrase_sound h
          have hform : asksForm (words.map .word) = false := by
            rw [← hwords]
            exact Bool.eq_false_iff.2 hasks
          refine ⟨.runOn event, ?_, rfl⟩
          rw [hc, htail, hwords]
          exact .runOn hkw hit h₁ hform hevent
  · cases h

theorem parseThen_sound (hkw : Keyword "then" t) (h : parseThen rawLine c = .ok (sentence, [])) :
    Says (t :: c) sentence := by
  unfold parseThen at h
  split at h
  · cases h
  · next clause rest hclause =>
      split at h
      · cases h
      · cases h
        exact ⟨_, .step hkw (parseAddClause_iff.1 hclause), rfl⟩

end Sound

/-- **The parser takes the lines of the grammar and no others**, and makes of each the sentence that
it says. -/
theorem parseForm_iff {rawLine : String} {c : List Token} {sentence : BqlSentence} :
    parseForm rawLine c = .ok (sentence, []) ↔ Says c sentence := by
  constructor
  · intro h
    have hfirst : ∀ {value : String}, isWord value c = true →
        ∃ t, Keyword value t ∧ c = t :: c.tail := isWord_iff.1
    unfold parseForm at h
    split at h
    · next hkw =>
        obtain ⟨t, hkw, hc⟩ := hfirst hkw
        exact hc ▸ parseClear_sound hkw h
    split at h
    · next hkw =>
        obtain ⟨t, hkw, hc⟩ := hfirst hkw
        exact hc ▸ parsePublish_sound hkw h
    split at h
    · next hkw =>
        obtain ⟨t, hkw, hc⟩ := hfirst hkw
        exact hc ▸ parseApply_sound hkw h
    split at h
    · next hkw =>
        obtain ⟨t, hkw, hc⟩ := hfirst hkw
        exact hc ▸ parseStyle_sound hkw h
    split at h
    · next hkw =>
        obtain ⟨t, hkw, hc⟩ := hfirst hkw
        exact hc ▸ parseGive_sound hkw h
    split at h
    · next hkw =>
        obtain ⟨t, hkw, hc⟩ := hfirst hkw
        exact hc ▸ parseInsideAdd_sound hkw h
    split at h
    · next hkw =>
        obtain ⟨t, hkw, hc⟩ := hfirst hkw
        exact hc ▸ parseAdd_sound hkw h
    split at h
    · next hkw =>
        obtain ⟨t, hkw, hc⟩ := hfirst hkw
        exact hc ▸ parseRunWhen_sound hkw h
    split at h
    · next hkw =>
        obtain ⟨t, hkw, hc⟩ := hfirst hkw
        exact hc ▸ parseThen_sound hkw h
    · cases h
  · rintro ⟨line, hline, rfl⟩
    exact hline.parse rawLine

end Bql
end Dbal
