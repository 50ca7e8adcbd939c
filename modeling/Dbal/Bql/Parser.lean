/-
# The parser of BQL

`src/bql/bql_parser.cpp`: a line becomes a sentence or an error.  The cursor of the source is the
list of the tokens that are still to be read here, and a parser returns what it read and the list
it leaves.  `toJson` and `parseScript`, which read sentences and lines one after the other, are
left out, and with them the number of the line.
-/

import Mathlib.Data.List.DropRight
import Dbal.Bql.Lexer
import Dbal.Core.Error

namespace Dbal
namespace Bql

/-- `BqlAttr`. -/
structure BqlAttr where
  key : String
  value : String
  deriving DecidableEq, Repr

/-- `BqlSentence::Kind`. -/
inductive Kind where
  | add | give | style | «class» | publish | clear | workflow | trigger | step | publishWorkflow
  deriving DecidableEq, Repr

/-- `BqlSentence`. -/
structure BqlSentence where
  kind : Kind := .add
  blockName : String := ""
  text : Option String := none
  «alias» : Option String := none
  parentAlias : Option String := none
  attrs : List BqlAttr := []
  name : String := ""
  names : List String := []
  path : String := ""
  stepName : String := ""
  event : String := ""
  form : String := ""
  deriving DecidableEq, Repr

/-! ### The cursor -/

/-- `isWord`. -/
def isWord (value : String) : List Token → Bool
  | .word w :: _ => toLower w = value
  | _ => false

/-- `isComma`. -/
def isComma : List Token → Bool
  | .punct p :: _ => p = ","
  | _ => false

/-- Past the word, where it comes next. -/
def skipWord (value : String) (c : List Token) : List Token := if isWord value c then c.tail else c

/-- Past a comma, where it comes next. -/
def skipComma (c : List Token) : List Token := if isComma c then c.tail else c

/-- `skipArticle`. -/
def skipArticle (c : List Token) : List Token :=
  if isWord "a" c || isWord "an" c then c.tail else c

/-- The words up to the first of `stopWords`. -/
def wordsUntil (stopWords : List String) : List Token → List String × List Token
  | .word w :: c =>
      if toLower w ∈ stopWords then ([], .word w :: c)
      else (w :: (wordsUntil stopWords c).1, (wordsUntil stopWords c).2)
  | c => ([], c)

/-- `consumeWordsUntil`. -/
def consumeWordsUntil (stopWords : List String) (c : List Token) : String × List Token :=
  (" ".intercalate (wordsUntil stopWords c).1, (wordsUntil stopWords c).2)

/-- `consumeSeparator`. -/
def consumeSeparator (c : List Token) : Bool × List Token :=
  if isWord "and" (skipComma c) then (true, (skipComma c).tail) else (isComma c, skipComma c)

/-! ### Attributes -/

/-- `parseValue`. -/
def parseValue : List Token → Option (String × List Token)
  | .string s :: c => some (s, c)
  | c =>
      if (wordsUntil ["and"] c).1 = [] then none
      else some (consumeWordsUntil ["and"] c)

/-- `parseAttrItem`. -/
def parseAttrItem (c : List Token) : Option (BqlAttr × List Token) :=
  let key := consumeWordsUntil ["of"] (skipArticle c)
  if key.1 = "" || !isWord "of" key.2 then none
  else (parseValue key.2.tail).map fun value => (⟨key.1, value.1⟩, value.2)

theorem skipArticle_suffix (c : List Token) : skipArticle c <:+ c := by
  unfold skipArticle
  split
  · exact c.tail_suffix
  · exact List.suffix_refl c

theorem wordsUntil_suffix (stopWords : List String) (c : List Token) :
    (wordsUntil stopWords c).2 <:+ c := by
  induction c with
  | nil => exact List.suffix_refl _
  | cons t c ih =>
      cases t with
      | word w =>
          unfold wordsUntil
          split
          · exact List.suffix_refl _
          · exact ih.trans (List.suffix_cons _ _)
      | string s => exact List.suffix_refl _
      | punct p => exact List.suffix_refl _

theorem isWord_tail_length {value : String} {c : List Token} (h : isWord value c = true) :
    c.tail.length < c.length := by
  cases c with
  | nil => cases h
  | cons t c => exact Nat.lt_succ_self _

theorem isComma_tail_length {c : List Token} (h : isComma c = true) :
    c.tail.length < c.length := by
  cases c with
  | nil => cases h
  | cons t c => exact Nat.lt_succ_self _

theorem consumeSeparator_length {c c' : List Token} (h : consumeSeparator c = (true, c')) :
    c'.length < c.length := by
  unfold consumeSeparator at h
  cases hcomma : isComma c with
  | true =>
      have hlt := isComma_tail_length hcomma
      simp only [skipComma, hcomma, if_true] at h
      split at h
      · next hand =>
          obtain ⟨-, rfl⟩ := Prod.mk.inj h
          exact (isWord_tail_length hand).trans hlt
      · obtain ⟨-, rfl⟩ := Prod.mk.inj h
        exact hlt
  | false =>
      simp only [skipComma, hcomma, Bool.false_eq_true, if_false] at h
      split at h
      · next hand =>
          obtain ⟨-, rfl⟩ := Prod.mk.inj h
          exact isWord_tail_length hand
      · cases h

theorem parseValue_suffix {c c' : List Token} {value : String}
    (h : parseValue c = some (value, c')) : c' <:+ c := by
  unfold parseValue at h
  split at h
  · obtain ⟨-, rfl⟩ := Prod.mk.inj (Option.some.inj h)
    exact List.suffix_cons _ _
  · split at h
    · cases h
    · obtain ⟨-, rfl⟩ := Prod.mk.inj (Option.some.inj h)
      exact wordsUntil_suffix _ _

theorem parseAttrItem_suffix {c c' : List Token} {attr : BqlAttr}
    (h : parseAttrItem c = some (attr, c')) : c' <:+ c := by
  unfold parseAttrItem at h
  dsimp only at h
  split at h
  · cases h
  · obtain ⟨⟨value, rest⟩, hvalue, heq⟩ := Option.map_eq_some_iff.1 h
    obtain ⟨-, rfl⟩ := Prod.mk.inj heq
    exact (parseValue_suffix hvalue).trans ((List.tail_suffix _).trans
      ((wordsUntil_suffix _ _).trans (skipArticle_suffix c)))

/-- The loop of `parseAttrList`, after its first item. -/
def parseAttrTail (c : List Token) : Option (List BqlAttr × List Token) :=
  match _hsep : consumeSeparator c with
  | (false, c) => some ([], c)
  | (true, c') =>
      match _hitem : parseAttrItem c' with
      | none => none
      | some (next, c'') =>
          (parseAttrTail c'').map fun more => (next :: more.1, more.2)
termination_by c.length
decreasing_by
  exact Nat.lt_of_le_of_lt (parseAttrItem_suffix _hitem).length_le (consumeSeparator_length _hsep)

/-- `parseAttrList`. -/
def parseAttrList (c : List Token) : Option (List BqlAttr × List Token) :=
  match parseAttrItem c with
  | none => none
  | some (first, c) => (parseAttrTail c).map fun more => (first :: more.1, more.2)

theorem parseAttrTail_eq (c : List Token) :
    parseAttrTail c =
      if (consumeSeparator c).1 then parseAttrList (consumeSeparator c).2
      else some ([], (consumeSeparator c).2) := by
  rw [parseAttrTail]
  split
  · next hsep => simp [hsep]
  · next hsep =>
      simp only [hsep, parseAttrList, if_true]
      split
      · next hitem => rw [hitem]
      · next hitem => rw [hitem]

/-! ### Clauses -/

/-- `AddClause`. -/
structure AddClause where
  blockName : String
  «alias» : Option String
  text : Option String
  attrs : List BqlAttr
  deriving DecidableEq, Repr

/-- The part `called …` of a clause. -/
def parseCalled (c : List Token) : Option (Option String × List Token) :=
  if isWord "called" c then
    match c.tail with
    | .word w :: c => some (some w, c)
    | _ => none
  else some (none, c)

/-- The part `that says …` of a clause. -/
def parseThatSays (c : List Token) : Option (Option String × List Token) :=
  if isWord "that" c then
    if isWord "says" c.tail then
      match c.tail.tail with
      | .string s :: c => some (some s, c)
      | _ => none
    else none
  else some (none, c)

/-- The part `with …` of a clause. -/
def parseWith (c : List Token) : Option (List BqlAttr × List Token) :=
  if isWord "with" c then parseAttrList c.tail else some ([], c)

/-- `parseAddClause`. -/
def parseAddClause (c : List Token) : Option (AddClause × List Token) := do
  let blockName := consumeWordsUntil ["called", "that", "with"] (skipArticle c)
  if blockName.1 = "" then none
  else
    let called ← parseCalled blockName.2
    let text ← parseThatSays called.2
    let attrs ← parseWith text.2
    some (⟨blockName.1, called.1, text.1, attrs.1⟩, attrs.2)

/-- `parseNameList`. -/
def parseNameList : List Token → List String × List Token
  | .string s :: c =>
      match _hsep : consumeSeparator c with
      | (false, c) => ([s], c)
      | (true, c') => (s :: (parseNameList c').1, (parseNameList c').2)
  | c => ([], c)
termination_by c => c.length
decreasing_by all_goals exact Nat.lt_succ_of_lt (consumeSeparator_length _hsep)

theorem parseNameList_string (s : String) (c : List Token) :
    parseNameList (.string s :: c) =
      if (consumeSeparator c).1 then
        (s :: (parseNameList (consumeSeparator c).2).1, (parseNameList (consumeSeparator c).2).2)
      else ([s], (consumeSeparator c).2) := by
  rw [parseNameList]
  split
  · next hsep => simp [hsep]
  · next hsep => simp [hsep]

/-! ### Sentences -/

/-- What the parser of a sentence form returns: an error, or the sentence and the rest. -/
abbrev Parsed : Type := Except String (BqlSentence × List Token)

section Forms

variable (rawLine : String)

/-- `fail`, with the line in quotes behind the message. -/
def failOn (message : String) : Parsed := .error (message ++ "\"" ++ rawLine ++ "\"")

/-- `addResult`. -/
def addResult (clause : AddClause) (parentAlias : Option String) : BqlSentence where
  kind := .add
  blockName := clause.blockName
  «alias» := clause.«alias»
  text := clause.text
  attrs := clause.attrs
  parentAlias := parentAlias

/-- `parseAdd`, after the first word. -/
def parseAdd (c : List Token) : Parsed :=
  match parseAddClause c with
  | none => failOn rawLine "Could not read the block in: "
  | some (clause, c) => .ok (addResult clause none, c)

/-- `parseInsideAdd`, after the first word. -/
def parseInsideAdd (c : List Token) : Parsed :=
  match c with
  | .word parent :: c =>
      if isWord "add" (skipComma c) then
        match parseAddClause (skipComma c).tail with
        | none => failOn rawLine "Could not read the block in: "
        | some (clause, c) => .ok (addResult clause (some parent), c)
      else failOn rawLine "Could not read: "
  | _ => failOn rawLine "Could not read: "

/-- `parseGive`, after the first word. -/
def parseGive (c : List Token) : Parsed :=
  match c with
  | .word target :: c =>
      match parseAttrList c with
      | none => failOn rawLine "Could not read the properties in: "
      | some (attrs, c) => .ok ({ kind := .give, «alias» := some target, attrs := attrs }, c)
  | _ => failOn rawLine "Could not read: "

/-- `parseStyle`, after the first word. -/
def parseStyle (c : List Token) : Parsed :=
  let c := skipArticle c
  if isWord "style" c && isWord "called" c.tail then
    match c.tail.tail with
    | .string name :: c =>
        match parseWith c with
        | none => failOn rawLine "Could not read the properties in: "
        | some (attrs, c) => .ok ({ kind := .style, name := name, attrs := attrs }, c)
    | _ => failOn rawLine "Could not read: "
  else failOn rawLine "Could not read: "

/-- `parseApply`, after the first word. -/
def parseApply (c : List Token) : Parsed :=
  let names := parseNameList c
  if names.1 = [] then failOn rawLine "Nothing to apply in: "
  else if isWord "to" names.2 then
    match names.2.tail with
    | .word target :: c => .ok ({ kind := .«class», names := names.1, «alias» := some target }, c)
    | _ => failOn rawLine "Could not read: "
  else failOn rawLine "Could not read: "

/-- The title of a page, if there is one. -/
def parseTitle (c : List Token) : Option (String × List Token) :=
  if isWord "as" c then
    match c.tail with
    | .string title :: c => some (title, c)
    | _ => none
  else some ("", c)

/-- `parsePublish`, after the first word. -/
def parsePublish (c : List Token) : Parsed :=
  if isWord "the" c then
    if isWord "workflow" c.tail then .ok ({ kind := .publishWorkflow }, c.tail.tail)
    else failOn rawLine "Could not read: "
  else
    match parseTitle (skipWord "this" c) with
    | none => failOn rawLine "Could not read the title in: "
    | some (title, c) =>
        if isWord "at" c then
          match c.tail with
          | .word path :: c => .ok ({ kind := .publish, name := title, path := path }, c)
          | .string path :: c => .ok ({ kind := .publish, name := title, path := path }, c)
          | _ => failOn rawLine "Could not read the path in: "
        else failOn rawLine "Missing \"at <path>\" in: "

/-- `parseWorkflowStart`. -/
def parseWorkflowStart (c : List Token) : Parsed :=
  if isWord "workflow" c then
    if isWord "called" c.tail then
      match c.tail.tail with
      | .string name :: c => .ok ({ kind := .workflow, name := name }, c)
      | _ => failOn rawLine "The workflow's name has to be in quotes, in: "
    else failOn rawLine "Missing \"called <name>\" in: "
  else failOn rawLine "Could not read: "

/-- `parseClear`, after the first word. -/
def parseClear (c : List Token) : Parsed :=
  let c := skipArticle c
  if isWord "new" c then
    if isWord "workflow" c.tail then parseWorkflowStart rawLine c.tail
    else if isWord "page" c.tail then .ok ({ kind := .clear }, c.tail.tail)
    else failOn rawLine "Could not read: "
  else failOn rawLine "Could not read: "

/-- A phrase of `parseRunWhen`. -/
def parsePhrase (c : List Token) : Parsed :=
  let phrase := consumeWordsUntil [] c
  let lowered := toLower phrase.1
  if lowered = "someone submits a form" ∨ lowered = "a form is submitted" then
    .ok ({ kind := .trigger, event := "FormSubmission.created" }, phrase.2)
  else if lowered = "someone joins" ∨ lowered = "someone signs up" then
    .ok ({ kind := .trigger, event := "User.created" }, phrase.2)
  else .error ("Don't know when \"" ++ phrase.1 ++
    "\" is. Try \"someone submits a form\" or \"someone joins\".")

/-- `parseRunWhen`, after the first word. -/
def parseRunWhen (c : List Token) : Parsed :=
  if isWord "when" (skipWord "it" c) then
    let c := (skipWord "it" c).tail
    if isWord "someone" c && isWord "submits" c.tail && isWord "the" c.tail.tail then
      match c.tail.tail.tail with
      | .string form :: c =>
          if isWord "form" c then
            .ok ({ kind := .trigger, event := "FormSubmission.created", form := form }, c.tail)
          else failOn rawLine "Missing \"form\" in: "
      | _ => failOn rawLine "The form's name has to be in quotes, in: "
    else parsePhrase c
  else failOn rawLine "Missing \"when\" in: "

/-- `parseThen`, after the first word: the alias and the text of the clause are not used. -/
def parseThen (c : List Token) : Parsed :=
  match parseAddClause c with
  | none => failOn rawLine "Could not read the step in: "
  | some (clause, c) =>
      if clause.blockName = "" then failOn rawLine "Could not read the step in: "
      else .ok ({ kind := .step, stepName := clause.blockName, attrs := clause.attrs }, c)

/-- The sentence forms, by their first words. -/
def parseForm (c : List Token) : Parsed :=
  if isWord "start" c then parseClear rawLine c.tail
  else if isWord "publish" c then parsePublish rawLine c.tail
  else if isWord "apply" c then parseApply rawLine c.tail
  else if isWord "make" c then parseStyle rawLine c.tail
  else if isWord "give" c then parseGive rawLine c.tail
  else if isWord "inside" c then parseInsideAdd rawLine c.tail
  else if isWord "add" c then parseAdd rawLine c.tail
  else if isWord "run" c then parseRunWhen rawLine c.tail
  else if isWord "then" c then parseThen rawLine c.tail
  else failOn rawLine "Didn't understand: "

end Forms

/-- The characters that `trim` takes from both ends. -/
def isTrimmed (c : Char) : Bool := c = ' ' || c = '\t' || c = '\r' || c = '\n'

/-- `trim`. -/
def trim (s : List Char) : List Char := (s.dropWhile isTrimmed).rdropWhile isTrimmed

/-- `stripTerminator`. -/
def stripTerminator (tokens : List Token) : List Token :=
  if tokens.getLast? = some (.punct ".") then tokens.dropLast else tokens

/-- The tokens that `parseSentence` reads. -/
def lineTokens (rawLine : String) : List Token := stripTerminator (tokenize (trim rawLine.toList))

/-- `parseSentence`. -/
def parseSentence (rawLine : String) : Except String BqlSentence :=
  match parseForm rawLine (lineTokens rawLine) with
  | .error message => .error message
  | .ok (sentence, []) => .ok sentence
  | .ok (_, extra :: _) =>
      .error ("Did not understand \"" ++ extra.value ++ "\" in: \"" ++ rawLine ++ "\"")

end Bql
end Dbal
