/-
# BQL: what is printed is parsed back

A printer for the sentences of `src/bql/bql_parser.hpp`, in the one form that the parser's own
comments use for each kind, and what a sentence has to be for its line to be read back as the
sentence itself.

The first half is about the printed text: which tokens it is read as.  The second half finds these
tokens in the grammar, and the parser takes every line of that.
-/

import Dbal.Bql.Grammar

namespace Dbal
namespace Bql

/-! ### The printer -/

/-- An attribute, `key of "value"`. -/
def printAttr (attr : BqlAttr) : String := attr.key ++ " " ++ "of" ++ " " ++ quoted attr.value

/-- Attributes, with `and` between them. -/
def printAttrs (attrs : List BqlAttr) : String := " and ".intercalate (attrs.map printAttr)

/-- A word and a text behind it, or nothing. -/
def printClause (words : String) : Option String → String
  | none => ""
  | some text => " " ++ (words ++ " " ++ text)

/-- The clause `with …`, where there are attributes. -/
def printWith (attrs : List BqlAttr) : String :=
  printClause "with" (if attrs = [] then none else some (printAttrs attrs))

/-- The start of an `add` line. -/
def printAddOpening : Option String → String
  | none => "add"
  | some parent => "inside" ++ " " ++ parent ++ " " ++ "add"

/-- The phrase that says when a workflow runs. -/
def printWhen (event form : String) : String :=
  if event = "User.created" then "someone joins"
  else if form = "" then "someone submits a form"
  else "someone submits the" ++ " " ++ quoted form ++ " " ++ "form"

/-- A name and the clauses behind it. -/
def printAddClause (blockName : String) (own text : Option String) (attrs : List BqlAttr) :
    String :=
  blockName ++ printClause "called" own ++ printClause "that says" (text.map quoted) ++
    printWith attrs

/-- The line that stands for a sentence. -/
def print (sentence : BqlSentence) : String :=
  match sentence.kind with
  | .add =>
      printAddOpening sentence.parentAlias ++ " " ++
        printAddClause sentence.blockName sentence.«alias» sentence.text sentence.attrs
  | .give => "give" ++ " " ++ sentence.«alias».getD "" ++ " " ++ printAttrs sentence.attrs
  | .style => "make a style called" ++ " " ++ quoted sentence.name ++ printWith sentence.attrs
  | .«class» =>
      "apply" ++ " " ++ " and ".intercalate (sentence.names.map quoted) ++ " " ++ "to" ++ " " ++
        sentence.«alias».getD ""
  | .publish =>
      "publish this as" ++ " " ++ quoted sentence.name ++ " " ++ "at" ++ " " ++ quoted sentence.path
  | .publishWorkflow => "publish the workflow"
  | .clear => "start a new page"
  | .workflow => "start a new workflow called" ++ " " ++ quoted sentence.name
  | .trigger => "run it when" ++ " " ++ printWhen sentence.event sentence.form
  | .step => "then" ++ " " ++ printAddClause sentence.stepName none none sentence.attrs

/-! ### Sentences that can be printed -/

/-- A text without a quote in it. -/
def IsQuotable (text : String) : Prop := '"' ∉ text.toList

instance : DecidablePred IsQuotable := fun text => inferInstanceAs (Decidable ('"' ∉ text.toList))

/-- Words with single blanks between them, none of them a stop word and the first of them no
article. -/
structure IsName (stopWords : List String) (name : String) : Prop where
  words : ∃ first more, name = " ".intercalate (first :: more) ∧
    (∀ word ∈ first :: more, IsWordText word ∧ toLower word ∉ stopWords) ∧
    toLower first ∉ ["a", "an"]

/-- An attribute whose key is a name and whose value can be quoted. -/
structure IsAttr (attr : BqlAttr) : Prop where
  key : IsName ["of", "and"] attr.key
  value : IsQuotable attr.value

/-- The name of a block or a step. -/
def IsBlockName : String → Prop := IsName ["called", "that", "with"]

/-- The sentences of each kind, with nothing in the fields that the kind does not use. -/
inductive WellFormed : BqlSentence → Prop
  | add {blockName : String} {text own parent : Option String} {attrs : List BqlAttr}
      (hname : IsBlockName blockName) (htext : ∀ t ∈ text, IsQuotable t)
      (hown : ∀ a ∈ own, IsWordText a) (hparent : ∀ p ∈ parent, IsWordText p)
      (hattrs : ∀ a ∈ attrs, IsAttr a) :
      WellFormed { kind := .add, blockName := blockName, text := text, «alias» := own,
                   parentAlias := parent, attrs := attrs }
  | give {target : String} {attrs : List BqlAttr} (htarget : IsWordText target)
      (hne : attrs ≠ []) (hattrs : ∀ a ∈ attrs, IsAttr a) :
      WellFormed { kind := .give, «alias» := some target, attrs := attrs }
  | style {name : String} {attrs : List BqlAttr} (hname : IsQuotable name)
      (hattrs : ∀ a ∈ attrs, IsAttr a) :
      WellFormed { kind := .style, name := name, attrs := attrs }
  | «class» {names : List String} {target : String} (hne : names ≠ [])
      (hnames : ∀ n ∈ names, IsQuotable n) (htarget : IsWordText target) :
      WellFormed { kind := .«class», names := names, «alias» := some target }
  | publish {name path : String} (hname : IsQuotable name) (hpath : IsQuotable path) :
      WellFormed { kind := .publish, name := name, path := path }
  | publishWorkflow : WellFormed { kind := .publishWorkflow }
  | clear : WellFormed { kind := .clear }
  | workflow {name : String} (hname : IsQuotable name) :
      WellFormed { kind := .workflow, name := name }
  | formSubmitted {form : String} (hform : IsQuotable form) :
      WellFormed { kind := .trigger, event := "FormSubmission.created", form := form }
  | userJoined : WellFormed { kind := .trigger, event := "User.created" }
  | step {stepName : String} {attrs : List BqlAttr} (hname : IsBlockName stepName)
      (hattrs : ∀ a ∈ attrs, IsAttr a) :
      WellFormed { kind := .step, stepName := stepName, attrs := attrs }

/-! ### Reading the printed text -/

/-- Nothing is trimmed from the text. -/
structure Solid (line : List Char) : Prop where
  ne : line ≠ []
  head : ∀ c ∈ line.head?, isTrimmed c = false
  last : ∀ c ∈ line.getLast?, isTrimmed c = false

theorem Solid.trim_eq {line : List Char} (h : Solid line) : trim line = line := by
  have hhead : line.dropWhile isTrimmed = line := by
    cases line with
    | nil => rfl
    | cons c rest => exact List.dropWhile_cons_of_neg (by simp [h.head c rfl])
  rw [trim, hhead, List.rdropWhile_eq_self_iff]
  intro hne
  simp [h.last _ (List.getLast_mem_getLast? hne)]

theorem Solid.append {line line' : List Char} (h : Solid line) (h' : Solid line')
    (between : List Char) : Solid (line ++ (between ++ line')) where
  ne := by simp [h.ne]
  head := by
    intro c hc
    rw [List.head?_append_of_ne_nil _ h.ne] at hc
    exact h.head c hc
  last := by
    intro c hc
    rw [← List.append_assoc, List.getLast?_append_of_ne_nil _ h'.ne] at hc
    exact h'.last c hc

/-- A text that is read as the tokens, wherever it stands in a line. -/
structure Reads (text : String) (tokens : List Token) : Prop where
  lexes : Lexes text tokens
  solid : Solid text.toList
  noPunct : ∀ p, .punct p ∉ tokens

theorem Reads.append {text text' : String} {tokens tokens' : List Token} (h : Reads text tokens)
    (h' : Reads text' tokens') : Reads (text ++ " " ++ text') (tokens ++ tokens') where
  lexes := h.lexes.append h'.lexes
  solid := by
    have hline : (text ++ " " ++ text').toList = text.toList ++ ([' '] ++ text'.toList) := by simp
    rw [hline]
    exact h.solid.append h'.solid _
  noPunct := by
    intro p hmem
    rcases List.mem_append.1 hmem with hmem | hmem
    · exact h.noPunct p hmem
    · exact h'.noPunct p hmem

theorem continuesWord_notTrimmed {word : List Char} (h : continuesWord word = true) :
    ∀ c ∈ word, isTrimmed c = false := by
  induction word with
  | nil => intro c hc; cases hc
  | cons d word ih =>
      simp only [continuesWord, Bool.and_eq_true, Bool.not_eq_true'] at h
      intro c hc
      rcases List.mem_cons.1 hc with rfl | hc
      · have hspace := h.1.1.1.1
        simp only [isSpace, Bool.or_eq_false_iff] at hspace
        simp only [isTrimmed, Bool.or_eq_false_iff]
        tauto
      · exact ih h.2 c hc

theorem reads_word {word : String} (h : IsWordText word) : Reads word [.word word] where
  lexes := lexes_word h
  solid := by
    have htrim := continuesWord_notTrimmed h.2
    refine ⟨fun hnil => h.1 (String.toList_inj.1 (by simp [hnil])), ?_, ?_⟩
    · exact fun c hc => htrim c (List.mem_of_mem_head? hc)
    · exact fun c hc => htrim c (List.mem_of_getLast? hc)
  noPunct := by simp

theorem reads_quoted {text : String} (h : IsQuotable text) :
    Reads (quoted text) [.string text] where
  lexes := lexes_quoted h
  solid := by
    have hline : (quoted text).toList = ['"'] ++ (text.toList ++ ['"']) := by simp [quoted]
    have hquote : Solid ['"'] := by constructor <;> simp [isTrimmed]
    rw [hline]
    exact hquote.append hquote _
  noPunct := by simp

/-- Words with blanks between them. -/
theorem reads_words {first : String} {more : List String}
    (h : ∀ word ∈ first :: more, IsWordText word) :
    Reads (" ".intercalate (first :: more)) ((first :: more).map .word) := by
  induction more generalizing first with
  | nil => simpa using reads_word (h first (by simp))
  | cons next more ih =>
      rw [String.intercalate_cons_cons]
      exact (reads_word (h first (by simp))).append
        (ih fun word hword => h word (List.mem_cons_of_mem _ hword))

/-- A closed phrase. -/
theorem reads_phrase {phrase : String} (first : String) (more : List String)
    (hphrase : phrase = " ".intercalate (first :: more))
    (h : ∀ word ∈ first :: more, IsWordText word) :
    Reads phrase ((first :: more).map .word) :=
  hphrase ▸ reads_words h

/-- Nothing, or a blank and a text that is read as the tokens. -/
def Follows (text : String) (tokens : List Token) : Prop :=
  (text = "" ∧ tokens = []) ∨ ∃ more, text = " " ++ more ∧ Reads more tokens

theorem Reads.follow {text text' : String} {tokens tokens' : List Token} (h : Reads text tokens)
    (h' : Follows text' tokens') : Reads (text ++ text') (tokens ++ tokens') := by
  obtain ⟨rfl, rfl⟩ | ⟨more, rfl, hmore⟩ := h'
  · simpa using h
  · rw [← String.append_assoc]
    exact h.append hmore

/-! ### Its tokens in the grammar -/

theorem keyword_word {word value : String} (h : toLower word = value) :
    Keyword value (.word word) := ⟨word, rfl, h⟩

theorem IsName.reads {stopWords : List String} {name : String} (h : IsName stopWords name)
    (stopWords' : List String) (hsub : stopWords' ⊆ stopWords) :
    ∃ tokens, Reads name tokens ∧ NameOf stopWords' name tokens := by
  obtain ⟨first, more, rfl, hwords, harticle⟩ := h.words
  have hreads := reads_words fun word hword => (hwords word hword).1
  refine ⟨_, hreads, fun hnil => hreads.solid.ne (by simp [hnil]), first :: more, ?_, ?_, rfl⟩
  · simp only [List.mem_cons, List.not_mem_nil, or_false, not_or] at harticle
    simp [skipArticle, isWord, harticle]
  · exact fun word hword hstop => (hwords word hword).2 (hsub hstop)

theorem reads_attr {attr : BqlAttr} (h : IsAttr attr) :
    ∃ tokens, Reads (printAttr attr) tokens ∧ AttrOf attr tokens := by
  obtain ⟨key, hreads, hname⟩ := h.key.reads ["of"] (by simp)
  have hof : Reads "of" [.word "of"] := reads_word (by decide)
  refine ⟨_, (hreads.append hof).append (reads_quoted h.value), key, .word "of",
    [.string attr.value], by simp, hname, keyword_word (by decide), .quoted _⟩

theorem reads_and : Reads "and" [.word "and"] := reads_word (by decide)

theorem separator_and : Separator [.word "and"] := .and (keyword_word (by decide))

/-- Texts with `and` between them: the first text, the word and the others. -/
theorem intercalate_and (text text' : String) (texts : List String) :
    " and ".intercalate (text :: text' :: texts) =
      text ++ " " ++ "and" ++ " " ++ " and ".intercalate (text' :: texts) := by
  have hand : " and " = " " ++ "and" ++ " " := by decide
  rw [String.intercalate_cons_cons]
  nth_rewrite 1 [hand]
  simp only [String.append_assoc]

theorem reads_attrs {attr : BqlAttr} {attrs : List BqlAttr} (h : ∀ a ∈ attr :: attrs, IsAttr a) :
    ∃ tokens, Reads (printAttrs (attr :: attrs)) tokens ∧ AttrsOf (attr :: attrs) tokens := by
  obtain ⟨item, hreads, hattr⟩ := reads_attr (h attr (by simp))
  induction attrs generalizing attr item with
  | nil =>
      refine ⟨item, by simpa [printAttrs] using hreads, ?_⟩
      exact ⟨attr, [], item, [], rfl, by simp, hattr, .nil⟩
  | cons next attrs ih =>
      obtain ⟨item', hreads', hattr'⟩ := reads_attr (h next (by simp))
      obtain ⟨tokens, hrest, _, _, first, more, heq, rfl, hfirst, hmore⟩ :=
        ih (fun a ha => h a (List.mem_cons_of_mem _ ha)) item' hreads' hattr'
      obtain ⟨rfl, rfl⟩ := List.cons.inj heq
      refine ⟨item ++ [.word "and"] ++ (first ++ more), ?_, attr, next :: attrs, item, _, rfl,
        List.append_assoc _ _ _, hattr, .cons separator_and nofun hfirst hmore⟩
      rw [printAttrs, List.map_cons, List.map_cons, intercalate_and]
      exact (hreads.append reads_and).append hrest

theorem follows_called {own : Option String} (h : ∀ a ∈ own, IsWordText a) :
    ∃ tokens, Follows (printClause "called" own) tokens ∧ CalledOf own tokens := by
  cases own with
  | none => exact ⟨[], Or.inl ⟨rfl, rfl⟩, .absent⟩
  | some own =>
      have hcalled : Reads "called" [.word "called"] := reads_word (by decide)
      exact ⟨_, Or.inr ⟨_, rfl, hcalled.append (reads_word (h own rfl))⟩,
        .given (keyword_word (by decide))⟩

theorem follows_thatSays {text : Option String} (h : ∀ t ∈ text, IsQuotable t) :
    ∃ tokens, Follows (printClause "that says" (text.map quoted)) tokens ∧
      ThatSaysOf text tokens := by
  cases text with
  | none => exact ⟨[], Or.inl ⟨rfl, rfl⟩, .absent⟩
  | some text =>
      have hsays : Reads "that says" [.word "that", .word "says"] :=
        reads_phrase "that" ["says"] (by decide) (by decide)
      exact ⟨_, Or.inr ⟨_, rfl, hsays.append (reads_quoted (h text rfl))⟩,
        .given (keyword_word (by decide)) (keyword_word (by decide))⟩

theorem follows_with {attrs : List BqlAttr} (h : ∀ a ∈ attrs, IsAttr a) :
    ∃ tokens, Follows (printWith attrs) tokens ∧ WithOf attrs tokens := by
  cases attrs with
  | nil => exact ⟨[], Or.inl ⟨rfl, rfl⟩, .absent⟩
  | cons attr attrs =>
      have hwith : Reads "with" [.word "with"] := reads_word (by decide)
      obtain ⟨tokens, hreads, hattrs⟩ := reads_attrs h
      exact ⟨_, Or.inr ⟨_, rfl, hwith.append hreads⟩, .given (keyword_word (by decide)) hattrs⟩

theorem reads_addClause {blockName : String} {own text : Option String} {attrs : List BqlAttr}
    (hname : IsBlockName blockName) (hown : ∀ a ∈ own, IsWordText a)
    (htext : ∀ t ∈ text, IsQuotable t) (hattrs : ∀ a ∈ attrs, IsAttr a) :
    ∃ tokens, Reads (printAddClause blockName own text attrs) tokens ∧
      ClauseOf ⟨blockName, own, text, attrs⟩ tokens := by
  obtain ⟨name, hreads, hnameOf⟩ := IsName.reads hname clauseWords (List.Subset.refl _)
  obtain ⟨called, hcalled, hcalledOf⟩ := follows_called hown
  obtain ⟨saying, hsays, hsaysOf⟩ := follows_thatSays htext
  obtain ⟨withAttrs, hwith, hwithOf⟩ := follows_with hattrs
  refine ⟨_, ((hreads.follow hcalled).follow hsays).follow hwith, name, called, saying, withAttrs,
    ?_, hnameOf, hcalledOf, hsaysOf, hwithOf⟩
  simp only [List.append_assoc]

theorem reads_names {name : String} {names : List String} (h : ∀ n ∈ name :: names, IsQuotable n) :
    ∃ tokens, Reads (" and ".intercalate ((name :: names).map quoted)) tokens ∧
      NamesOf (name :: names) tokens := by
  induction names generalizing name with
  | nil => exact ⟨_, by simpa using reads_quoted (h name (by simp)), .last name⟩
  | cons next names ih =>
      have hname := reads_quoted (h name (by simp))
      obtain ⟨tokens, hreads, hnames⟩ := ih fun n hn => h n (List.mem_cons_of_mem _ hn)
      refine ⟨[.string name] ++ [.word "and"] ++ tokens, ?_, .cons separator_and hnames⟩
      rw [List.map_cons, List.map_cons, intercalate_and]
      exact (hname.append reads_and).append hreads

/-! ### Whole lines -/

theorem lineTokens_of_reads {text : String} {tokens : List Token} (h : Reads text tokens) :
    lineTokens text = tokens := by
  have hstrip : stripTerminator tokens = tokens :=
    if_neg fun hlast => h.noPunct "." (List.mem_of_getLast? hlast)
  rw [lineTokens, h.solid.trim_eq, h.lexes.tokenize_eq, hstrip]

theorem parseSentence_of_reads {text : String} {tokens : List Token} {line : Line}
    (h : Reads text tokens) (hline : LineOf line tokens) :
    parseSentence text = .ok line.sentence := by
  rw [parseSentence, lineTokens_of_reads h, hline.parse]

/-- The opening of an `add` line leads to the clause behind it. -/
theorem reads_addOpening {parent : Option String} (h : ∀ p ∈ parent, IsWordText p) :
    ∃ tokens, Reads (printAddOpening parent) tokens ∧ ∀ clause clauseTokens,
      ClauseOf clause clauseTokens → LineOf (.add parent clause) (tokens ++ clauseTokens) := by
  have hadd : Reads "add" [.word "add"] := reads_word (by decide)
  cases parent with
  | none => exact ⟨_, hadd, fun _ _ hclause => .add (keyword_word (by decide)) hclause⟩
  | some parent =>
      have hinside : Reads "inside" [.word "inside"] := reads_word (by decide)
      exact ⟨_, (hinside.append (reads_word (h parent rfl))).append hadd, fun _ _ hclause =>
        LineOf.inside (keyword_word (by decide)) (Or.inl (Eq.refl [])) (keyword_word (by decide))
          hclause⟩

/-- **Round trip**: the line of a well-formed sentence, of any kind and with any number of names
and attributes, is parsed as that sentence. -/
theorem parseSentence_print {sentence : BqlSentence} (h : WellFormed sentence) :
    parseSentence (print sentence) = .ok sentence := by
  have hkw : ∀ word, toLower word = word → Keyword word (.word word) := fun _ => keyword_word
  have harticle : Maybe IsArticle [.word "a"] := Or.inr ⟨_, Or.inl (hkw "a" (by decide)), rfl⟩
  cases h with
  | add hname htext hown hparent hattrs =>
      obtain ⟨opening, hopening, hline⟩ := reads_addOpening hparent
      obtain ⟨clause, hclause, hclauseOf⟩ := reads_addClause hname hown htext hattrs
      exact parseSentence_of_reads (hopening.append hclause) (hline _ _ hclauseOf)
  | @give target attrs htarget hne hattrs =>
      obtain ⟨attr, attrs, rfl⟩ := List.exists_cons_of_ne_nil hne
      obtain ⟨tokens, hreads, hattrsOf⟩ := reads_attrs hattrs
      have hgive : Reads "give" [.word "give"] := reads_word (by decide)
      exact parseSentence_of_reads ((hgive.append (reads_word htarget)).append hreads)
        (.give (hkw "give" (by decide)) hattrsOf)
  | @style name attrs hname hattrs =>
      obtain ⟨withAttrs, hwith, hwithOf⟩ := follows_with hattrs
      have hmake : Reads "make a style called"
          [.word "make", .word "a", .word "style", .word "called"] :=
        reads_phrase "make" ["a", "style", "called"] (by decide) (by decide)
      exact parseSentence_of_reads ((hmake.append (reads_quoted hname)).follow hwith)
        (.style (hkw "make" (by decide)) harticle (hkw "style" (by decide))
          (hkw "called" (by decide)) hwithOf)
  | @«class» names target hne hnames htarget =>
      obtain ⟨name, names, rfl⟩ := List.exists_cons_of_ne_nil hne
      obtain ⟨tokens, hreads, hnamesOf⟩ := reads_names hnames
      have happly : Reads "apply" [.word "apply"] := reads_word (by decide)
      have hto : Reads "to" [.word "to"] := reads_word (by decide)
      have hline : LineOf (.apply (name :: names) target)
          ([.word "apply"] ++ tokens ++ [.word "to"] ++ [.word target]) := by
        simpa using LineOf.apply (hkw "apply" (by decide)) hne hnamesOf (hkw "to" (by decide))
      exact parseSentence_of_reads
        (((happly.append hreads).append hto).append (reads_word htarget)) hline
  | @publish name path hname hpath =>
      have hpublish : Reads "publish this as" [.word "publish", .word "this", .word "as"] :=
        reads_phrase "publish" ["this", "as"] (by decide) (by decide)
      have hat : Reads "at" [.word "at"] := reads_word (by decide)
      exact parseSentence_of_reads
        (((hpublish.append (reads_quoted hname)).append hat).append (reads_quoted hpath))
        (.publish (hkw "publish" (by decide)) (Or.inr ⟨_, hkw "this" (by decide), rfl⟩)
          (.given (hkw "as" (by decide))) (hkw "at" (by decide)) (.string path))
  | publishWorkflow =>
      exact parseSentence_of_reads
        (reads_phrase "publish" ["the", "workflow"] (by decide) (by decide))
        (.publishWorkflow (hkw _ (by decide)) (hkw _ (by decide)) (hkw _ (by decide)))
  | clear =>
      exact parseSentence_of_reads
        (reads_phrase "start" ["a", "new", "page"] (by decide) (by decide))
        (.newPage (hkw _ (by decide)) harticle (hkw _ (by decide)) (hkw _ (by decide)))
  | @workflow name hname =>
      have hstart : Reads "start a new workflow called"
          [.word "start", .word "a", .word "new", .word "workflow", .word "called"] :=
        reads_phrase "start" ["a", "new", "workflow", "called"] (by decide) (by decide)
      exact parseSentence_of_reads (hstart.append (reads_quoted hname))
        (.newWorkflow (hkw _ (by decide)) harticle (hkw _ (by decide)) (hkw _ (by decide))
          (hkw _ (by decide)))
  | @formSubmitted form hform =>
      have hrun : Reads "run it when" [.word "run", .word "it", .word "when"] :=
        reads_phrase "run" ["it", "when"] (by decide) (by decide)
      have hit : Maybe (Keyword "it") [.word "it"] := Or.inr ⟨_, hkw "it" (by decide), rfl⟩
      by_cases hempty : form = ""
      · subst hempty
        exact parseSentence_of_reads (hrun.append
          (reads_phrase "someone" ["submits", "a", "form"] (by decide) (by decide)))
          (@LineOf.runOn _ _ ["someone", "submits", "a", "form"] _ _ (hkw _ (by decide)) hit
            (hkw _ (by decide)) (by decide) .submits)
      · have hwords : Reads "someone submits the" [.word "someone", .word "submits", .word "the"] :=
          reads_phrase "someone" ["submits", "the"] (by decide) (by decide)
        have hend : Reads "form" [.word "form"] := reads_word (by decide)
        have hprint : printWhen "FormSubmission.created" form =
            "someone submits the" ++ " " ++ quoted form ++ " " ++ "form" := by
          simp [printWhen, hempty]
        have hreads := hrun.append ((hwords.append (reads_quoted hform)).append hend)
        rw [← hprint] at hreads
        exact parseSentence_of_reads hreads (.runOnForm (hkw _ (by decide)) hit
          (hkw _ (by decide)) (hkw _ (by decide)) (hkw _ (by decide)) (hkw _ (by decide))
          (hkw _ (by decide)))
  | userJoined =>
      exact parseSentence_of_reads
        (reads_phrase "run" ["it", "when", "someone", "joins"] (by decide) (by decide))
        (@LineOf.runOn _ _ ["someone", "joins"] _ _ (hkw _ (by decide))
          (Or.inr ⟨_, hkw "it" (by decide), rfl⟩) (hkw _ (by decide)) (by decide) .joins)
  | @step stepName attrs hname hattrs =>
      obtain ⟨clause, hclause, hclauseOf⟩ :=
        @reads_addClause stepName none none attrs hname (by simp) (by simp) hattrs
      have hthen : Reads "then" [.word "then"] := reads_word (by decide)
      exact parseSentence_of_reads (hthen.append hclause)
        (.step (hkw "then" (by decide)) hclauseOf)

/-- A heading with two attributes, inside another block. -/
def heading : BqlSentence where
  kind := .add
  blockName := "Heading 1"
  text := some "Opening hours, and prices."
  «alias» := some "title"
  parentAlias := some "main"
  attrs := [⟨"font size", "1.5"⟩, ⟨"color", "#fff"⟩]

theorem parseSentence_print_heading :
    print heading =
        "inside main add Heading 1 called title that says \"Opening hours, and prices.\" " ++
          "with font size of \"1.5\" and color of \"#fff\"" ∧
      parseSentence (print heading) = .ok heading := by
  refine ⟨by decide +kernel, parseSentence_print ?_⟩
  refine .add ⟨"Heading", ["1"], by decide, by decide, by decide⟩ (by decide) (by decide)
    (by decide) ?_
  rintro attr hattr
  simp only [List.mem_cons, List.not_mem_nil, or_false] at hattr
  rcases hattr with rfl | rfl
  · exact ⟨⟨"font", ["size"], by decide, by decide, by decide⟩, by decide⟩
  · exact ⟨⟨"color", [], by decide, by decide, by decide⟩, by decide⟩

end Bql
end Dbal
