/-
# Scripts of BQL

`parseScript` and `toJson` of `src/bql/bql_parser.cpp`.  A script is read line by line, and either
all of its sentences come back or all of its errors.  The number of a line is an `int` in the
source, and a request body has at most 10 MB.

The sentences and the errors are taken apart by one loop (`readLines_spec`), and a line is accepted
with the blanks around it or without (`parseSentence_trim`).  That no absent alias is read is seen
on the grammar: the two kinds that need one have it.
-/

import Mathlib.Data.List.Forall2
import Mathlib.Data.List.TakeWhile
import Dbal.Bql.NothingDropped
import Dbal.Json
import Dbal.Store.SideBySide

namespace Dbal
namespace Bql

/-- A sentence and its `line`. -/
structure NumberedSentence where
  sentence : BqlSentence
  line : Nat
  deriving DecidableEq, Repr

/-- `ScriptError`. -/
structure ScriptError where
  line : Nat
  message : String
  deriving DecidableEq, Repr

/-- `ScriptParseResult`. -/
structure ScriptParseResult where
  ok : Bool
  sentences : List NumberedSentence
  errors : List ScriptError
  deriving DecidableEq, Repr

/-- A line that is passed over: there is nothing on it, or a comment. -/
def isPassedOver (text : List Char) : Bool := text.isEmpty || text.head? = some '#'

/-- The loop of `parseScript`, from the line with the index `i` on. -/
def readLines : Nat → List (List Char) → List NumberedSentence × List ScriptError
  | _, [] => ([], [])
  | i, line :: lines =>
      let text := trim line
      let (sentences, errors) := readLines (i + 1) lines
      if isPassedOver text then (sentences, errors)
      else
        match parseSentence (String.ofList text) with
        | .ok sentence => (⟨sentence, i + 1⟩ :: sentences, errors)
        | .error message => (sentences, ⟨i + 1, message⟩ :: errors)

/-- `parseScript`. -/
def parseScript (script : String) : ScriptParseResult :=
  let (sentences, errors) := readLines 0 (script.toList.splitOn '\n')
  { ok := errors.isEmpty
    sentences := if errors.isEmpty then sentences else []
    errors := errors }

/-! ### As JSON -/

/-- The attributes of a sentence. -/
def attrsJson (attrs : List BqlAttr) : Json :=
  .arr (attrs.map fun attr => .obj [("key", .str attr.key), ("value", .str attr.value)])

/-- A member that is left out where there is no value. -/
def optionalMember (key : String) : Option String → List (String × Json)
  | none => []
  | some value => [(key, .str value)]

/-- The members of the object for a sentence, but for its line: `none` where an alias is read that
is absent. -/
def BqlSentence.members (sentence : BqlSentence) : Option (List (String × Json)) :=
  match sentence.kind with
  | .add =>
      some ([("kind", .str "add"), ("blockName", .str sentence.blockName),
          ("attrs", attrsJson sentence.attrs)] ++ optionalMember "text" sentence.text ++
        optionalMember "alias" sentence.«alias» ++
        optionalMember "parentAlias" sentence.parentAlias)
  | .give =>
      sentence.«alias».map fun target =>
        [("kind", .str "give"), ("alias", .str target), ("attrs", attrsJson sentence.attrs)]
  | .style =>
      some [("kind", .str "style"), ("name", .str sentence.name),
        ("attrs", attrsJson sentence.attrs)]
  | .«class» =>
      sentence.«alias».map fun target =>
        [("kind", .str "class"), ("names", .arr (sentence.names.map .str)), ("alias", .str target)]
  | .clear => some [("kind", .str "clear")]
  | .workflow => some [("kind", .str "workflow"), ("name", .str sentence.name)]
  | .trigger =>
      some [("kind", .str "trigger"), ("event", .str sentence.event), ("form", .str sentence.form)]
  | .step =>
      some [("kind", .str "step"), ("stepName", .str sentence.stepName),
        ("attrs", attrsJson sentence.attrs)]
  | .publishWorkflow => some [("kind", .str "publishWorkflow")]
  | .publish =>
      some ([("kind", .str "publish"), ("path", .str sentence.path)] ++
        if sentence.name = "" then [] else [("title", .str sentence.name)])

/-- `toJson` of a sentence. -/
def NumberedSentence.toJson (numbered : NumberedSentence) : Option Json :=
  numbered.sentence.members.map fun members => .obj (members ++ [("line", .int numbered.line)])

/-- `toJson` of a result. -/
def ScriptParseResult.toJson (result : ScriptParseResult) : Option Json :=
  if result.ok then
    (result.sentences.mapM NumberedSentence.toJson).map fun sentences =>
      .obj [("ok", .bool true), ("sentences", .arr sentences)]
  else
    some (.obj [("ok", .bool false), ("errors", .arr (result.errors.map fun error =>
      .obj [("line", .int error.line), ("message", .str error.message)]))])

/-! ### Lines -/

/-- There is nothing but blanks on the line. -/
def IsBlank (line : List Char) : Prop := ∀ c ∈ line, isTrimmed c = true

/-- The first character that is no blank is `#`. -/
def IsComment (line : List Char) : Prop := (line.dropWhile isTrimmed).head? = some '#'

/-- The parser of sentences takes the line. -/
def Accepted (line : List Char) : Prop :=
  ∃ sentence, parseSentence (String.ofList line) = .ok sentence

instance : DecidablePred IsBlank := fun line =>
  inferInstanceAs (Decidable (∀ c ∈ line, isTrimmed c = true))

instance : DecidablePred IsComment := fun line =>
  inferInstanceAs (Decidable ((line.dropWhile isTrimmed).head? = some '#'))

instance : DecidablePred Accepted := fun line =>
  decidable_of_iff ((parseSentence (String.ofList line)).isOk = true) (by
    unfold Accepted
    cases parseSentence (String.ofList line) <;> simp [Except.isOk, Except.toBool])

/-- The lines of a script, each with its number. -/
def numberedLines (script : String) : List (List Char × Nat) :=
  (script.toList.splitOn '\n').zipIdx 1

/-- The lines that are neither blank nor a comment. -/
def sayingLines (lines : List (List Char × Nat)) : List (List Char × Nat) :=
  lines.filter fun l => ¬ IsBlank l.1 ∧ ¬ IsComment l.1

/-- The sentence of a line, under its number. -/
def ReadAs (l : List Char × Nat) (numbered : NumberedSentence) : Prop :=
  parseSentence (String.ofList l.1) = .ok numbered.sentence ∧ numbered.line = l.2

/-- The error of a line, under its number; the message quotes the line without the blanks around
it. -/
def RefusedAs (l : List Char × Nat) (error : ScriptError) : Prop :=
  parseSentence (String.ofList (trim l.1)) = .error error.message ∧ error.line = l.2

theorem trim_eq_nil_iff {line : List Char} : trim line = [] ↔ IsBlank line := by
  unfold trim IsBlank
  rw [List.rdropWhile_eq_nil_iff]
  constructor
  · intro h c hc
    rw [← List.takeWhile_append_dropWhile (p := isTrimmed) (l := line), List.mem_append] at hc
    rcases hc with hc | hc
    · exact List.mem_takeWhile_imp hc
    · exact h c hc
  · intro h c hc
    exact h c ((List.dropWhile_suffix isTrimmed).subset hc)

/-- A character that stays in front is the first of what is left. -/
theorem head?_trim {line : List Char} (h : trim line ≠ []) :
    (trim line).head? = (line.dropWhile isTrimmed).head? := by
  obtain ⟨rest, hrest⟩ := List.rdropWhile_prefix isTrimmed (line.dropWhile isTrimmed)
  change trim line ++ rest = line.dropWhile isTrimmed at hrest
  rw [← hrest, List.head?_append_of_ne_nil _ h]

theorem trim_trim (line : List Char) : trim (trim line) = trim line := by
  by_cases h : trim line = []
  · rw [h]
    rfl
  · have hfront : (trim line).dropWhile isTrimmed = trim line := by
      cases htrim : trim line with
      | nil => exact absurd htrim h
      | cons c rest =>
          have hhead := head?_trim h
          rw [htrim] at hhead
          have hc := List.head?_dropWhile_not isTrimmed line
          rw [← hhead] at hc
          exact List.dropWhile_cons_of_neg (by simpa using hc)
    calc trim (trim line) = (trim line).rdropWhile isTrimmed := by rw [trim, hfront]
      _ = trim line := List.rdropWhile_idempotent _ _

/-- Blanks and comments are passed over, and nothing else. -/
theorem isPassedOver_trim {line : List Char} :
    isPassedOver (trim line) = true ↔ IsBlank line ∨ IsComment line := by
  rw [isPassedOver, Bool.or_eq_true, List.isEmpty_iff, decide_eq_true_eq, trim_eq_nil_iff]
  by_cases hblank : IsBlank line
  · simp [hblank]
  · rw [head?_trim (fun h => hblank (trim_eq_nil_iff.1 h)), IsComment]

/-- The blanks around a line do not matter to the sentence. -/
theorem parseSentence_trim {line : List Char} {sentence : BqlSentence} :
    parseSentence (String.ofList (trim line)) = .ok sentence ↔
      parseSentence (String.ofList line) = .ok sentence := by
  rw [parseSentence_iff, parseSentence_iff, lineTokens, lineTokens, String.toList_ofList,
    String.toList_ofList, trim_trim]

/-! ### The loop -/

/-- **Every line that says something is read or refused**, under its own number, and the others
leave nothing behind. -/
theorem readLines_spec (lines : List (List Char)) (i : Nat) :
    List.Forall₂ ReadAs ((sayingLines (lines.zipIdx (i + 1))).filter (Accepted ·.1))
        (readLines i lines).1 ∧
      List.Forall₂ RefusedAs ((sayingLines (lines.zipIdx (i + 1))).filter (¬ Accepted ·.1))
        (readLines i lines).2 := by
  induction lines generalizing i with
  | nil => exact ⟨.nil, .nil⟩
  | cons line lines ih =>
      obtain ⟨hread, hrefused⟩ := ih (i + 1)
      rw [List.zipIdx_cons]
      by_cases hover : isPassedOver (trim line) = true
      · have hsays : ¬ (¬ IsBlank line ∧ ¬ IsComment line) := by
          have hor := isPassedOver_trim.1 hover
          tauto
        rw [sayingLines, List.filter_cons_of_neg (by simpa using hsays)]
        simp only [readLines, hover, if_true]
        exact ⟨hread, hrefused⟩
      · have hsays : ¬ IsBlank line ∧ ¬ IsComment line := by
          have hor := mt isPassedOver_trim.2 hover
          tauto
        rw [sayingLines, List.filter_cons_of_pos (by simpa using hsays)]
        cases hparse : parseSentence (String.ofList (trim line)) with
        | ok sentence =>
            have haccepted : Accepted line := ⟨sentence, parseSentence_trim.1 hparse⟩
            rw [List.filter_cons_of_pos (by simpa using haccepted),
              List.filter_cons_of_neg (by simpa using haccepted)]
            simp only [readLines, hover, hparse]
            exact ⟨.cons ⟨parseSentence_trim.1 hparse, rfl⟩ hread, hrefused⟩
        | error message =>
            have hrejected : ¬ Accepted line := by
              rintro ⟨sentence, hsentence⟩
              rw [parseSentence_trim.2 hsentence] at hparse
              cases hparse
            rw [List.filter_cons_of_neg (by simpa using hrejected),
              List.filter_cons_of_pos (by simpa using hrejected)]
            simp only [readLines, hover, hparse]
            exact ⟨hread, .cons ⟨hparse, rfl⟩ hrefused⟩

theorem parseScript_refused (script : String) :
    List.Forall₂ RefusedAs ((sayingLines (numberedLines script)).filter (¬ Accepted ·.1))
      (parseScript script).errors :=
  (readLines_spec _ 0).2

/-- The script is taken where each of these lines is. -/
theorem parseScript_ok_iff (script : String) :
    (parseScript script).ok = true ↔ ∀ l ∈ sayingLines (numberedLines script), Accepted l.1 := by
  have hlength := (parseScript_refused script).length_eq
  have hok : (parseScript script).ok = true ↔ (parseScript script).errors.length = 0 := by
    rw [List.length_eq_zero_iff]
    exact List.isEmpty_iff
  rw [hok, ← hlength, List.length_eq_zero_iff, List.filter_eq_nil_iff]
  simp

theorem parseScript_read {script : String} (h : (parseScript script).ok = true) :
    List.Forall₂ ReadAs (sayingLines (numberedLines script)) (parseScript script).sentences := by
  have hread := (readLines_spec (script.toList.splitOn '\n') 0).1
  have hall := (parseScript_ok_iff script).1 h
  rw [List.filter_eq_self.2 fun l hl => by simpa using hall l hl] at hread
  have hempty : (readLines 0 (script.toList.splitOn '\n')).2.isEmpty = true := h
  simp only [parseScript, hempty, if_true]
  exact hread

theorem parseScript_failed {script : String} (h : (parseScript script).ok = false) :
    (parseScript script).sentences = [] := by
  have hempty : (readLines 0 (script.toList.splitOn '\n')).2.isEmpty = false := h
  simp [parseScript, hempty]

/-- The numbers of the lines grow. -/
theorem numberedLines_increasing (script : String) :
    ((numberedLines script).map Prod.snd).Pairwise (· < ·) := by
  rw [numberedLines, List.zipIdx_map_snd]
  exact List.pairwise_lt_range'

theorem line_of_refused {lines : List (List Char × Nat)} {errors : List ScriptError}
    (h : List.Forall₂ RefusedAs lines errors) :
    errors.map ScriptError.line = lines.map Prod.snd :=
  Store.map_eq_of_forall₂ h fun _ _ hrefused => hrefused.2

theorem parseScript_increasing (script : String) :
    ((parseScript script).errors.map ScriptError.line).Pairwise (· < ·) := by
  rw [line_of_refused (parseScript_refused script)]
  refine (numberedLines_increasing script).sublist (List.Sublist.map _ ?_)
  exact List.filter_sublist.trans List.filter_sublist

/-! ### Aliases -/

/-- What a line says can be written as JSON. -/
theorem Line.members_isSome (line : Line) : line.sentence.members.isSome = true := by
  cases line <;> rfl

theorem toJson_isSome_of_parsed {text : String} {numbered : NumberedSentence}
    (h : parseSentence text = .ok numbered.sentence) : numbered.toJson.isSome = true := by
  obtain ⟨line, -, hline⟩ := parseSentence_iff.1 h
  rw [NumberedSentence.toJson, Option.isSome_map, ← hline]
  exact line.members_isSome

/-- **A script is read whole or not at all**: it is taken where every line that is neither blank nor
a comment is a sentence; then it is these sentences under their numbers, and otherwise one error for
each line that is none.  Every sentence that comes back can be written as JSON. -/
theorem parseScript_fails_closed (script : String) :
    ((parseScript script).ok = true ↔
        ∀ l ∈ sayingLines (numberedLines script), Accepted l.1) ∧
      ((parseScript script).ok = true →
        List.Forall₂ ReadAs (sayingLines (numberedLines script)) (parseScript script).sentences ∧
          (parseScript script).errors = []) ∧
      ((parseScript script).ok = false →
        (parseScript script).sentences = [] ∧
          List.Forall₂ RefusedAs ((sayingLines (numberedLines script)).filter (¬ Accepted ·.1))
            (parseScript script).errors ∧
          ((parseScript script).errors.map ScriptError.line).Pairwise (· < ·)) ∧
      ∀ numbered ∈ (parseScript script).sentences, numbered.toJson.isSome = true := by
  refine ⟨parseScript_ok_iff script, fun hok => ⟨parseScript_read hok, List.isEmpty_iff.1 hok⟩,
    fun hfailed => ⟨parseScript_failed hfailed, parseScript_refused script,
      parseScript_increasing script⟩, fun numbered hmem => ?_⟩
  cases hok : (parseScript script).ok with
  | true =>
      have hjson := (parseScript_read hok).flip.imp fun numbered l hread =>
        And.intro (toJson_isSome_of_parsed hread.1) hread
      exact ((List.forall₂_and_left _ _).1 hjson).1 numbered hmem
  | false =>
      rw [parseScript_failed hok] at hmem
      cases hmem

theorem isSome_mapM {α β : Type} {f : α → Option β} {l : List α}
    (h : ∀ a ∈ l, (f a).isSome = true) : (l.mapM f).isSome = true := by
  induction l with
  | nil => rfl
  | cons a l ih =>
      obtain ⟨b, hb⟩ := Option.isSome_iff_exists.1 (h a List.mem_cons_self)
      obtain ⟨bs, hbs⟩ := Option.isSome_iff_exists.1 (ih fun c hc => h c (List.mem_cons_of_mem a hc))
      rw [List.mapM_cons, hb, hbs]
      rfl

/-- Every script is answered. -/
theorem parseScript_answers (script : String) : (parseScript script).toJson.isSome = true := by
  obtain ⟨-, -, -, hjson⟩ := parseScript_fails_closed script
  rw [ScriptParseResult.toJson]
  split
  · rw [Option.isSome_map]
    exact isSome_mapM hjson
  · rfl

end Bql
end Dbal
