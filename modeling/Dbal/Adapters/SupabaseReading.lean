/-
# How a listing is read by the REST server

The server splits the query at `&`, each piece at its first `=`, and decodes both parts; a value is
an operator and an operand at its first dot, an order a list of terms at its commas.  The builder
escapes nothing.  What the server reads is what was asked for exactly when no name and no value has
a separator or an escape in it (`read_as_intended_iff`).

That nothing else is enough follows from lengths.  Each part of the query is read as at least one
parameter, so as many parameters as parts leave one to each and no `&` in any; and a name or a value
that is read with its full length is read as it is.
-/

import Dbal.Adapters.SupabaseQueryBuilder
import Dbal.Codec.QueryString
import Dbal.Entities.ComponentList
import Std.Data.String.ToInt

namespace Dbal
namespace SupabaseQueryBuilder

open Codec

/-- The bytes of a text. -/
abbrev Bytes := List UInt8

/-! ## The server -/

/-- What the server makes of a name and a value. -/
inductive Param where
  | condition (field value : Bytes)
  | order (field direction : Bytes)
  | limit (number : Bytes)
  | offset (number : Bytes)
  | other (name value : Bytes)
  deriving DecidableEq

/-- A term of an order. -/
def orderTerm (term : Bytes) : Param := .order (front '.'.toUInt8 term) (back '.'.toUInt8 term)

/-- The parameters of a name and a value.  A name that the builder has no other use for is that of a
column. -/
def paramsOf (name value : Bytes) : List Param :=
  if name = utf8 "limit" then [.limit value]
  else if name = utf8 "offset" then [.offset value]
  else if name = utf8 "order" then (value.splitOn ','.toUInt8).map orderTerm
  else if front '.'.toUInt8 value = utf8 "eq" ∧ '.'.toUInt8 ∈ value then
    [.condition name (back '.'.toUInt8 value)]
  else [.other name value]

/-- The parameters of a query. -/
def readQuery (query : String) : List Param :=
  (pairs (utf8 query)).flatMap fun pair => paramsOf pair.1 pair.2

namespace Param

/-- The field and the value of an `eq` condition. -/
def condition? : Param → Option (Bytes × Bytes)
  | condition field value => some (field, value)
  | _ => none

/-- The field and the direction of an order term. -/
def order? : Param → Option (Bytes × Bytes)
  | order field direction => some (field, direction)
  | _ => none

/-- The number of a limit. -/
def limit? : Param → Option Bytes
  | limit number => some number
  | _ => none

/-- The number of an offset. -/
def offset? : Param → Option Bytes
  | offset number => some number
  | _ => none

/-- Anything else. -/
def other? : Param → Option (Bytes × Bytes)
  | other name value => some (name, value)
  | _ => none

end Param

/-! ## What is meant -/

/-- A term of the order is an entry of the sort, whose direction may be in capitals. -/
def IsTermOf (term : Bytes × Bytes) (entry : String × String) : Prop :=
  term.1 = utf8 entry.1 ∧ term.2 = utf8 entry.2.toLower

/-- The parameters are the options, and nothing else. -/
structure AsIntended (options : ListOptions) (params : List Param) : Prop where
  conditions : (params.filterMap Param.condition?).Perm
    (options.filter.toList.map fun entry => (utf8 entry.1, utf8 entry.2))
  order : List.Forall₂ IsTermOf (params.filterMap Param.order?) options.sort.toList
  limit : params.filterMap Param.limit? = [utf8 (toString (pageLimit options))]
  offset : params.filterMap Param.offset? = [utf8 (toString (pageOffset options))]
  nothingElse : params.filterMap Param.other? = []

/-- A text that neither ends its piece nor is changed by the decoding. -/
def PlainText (text : String) : Prop := '&'.toUInt8 ∉ utf8 text ∧ Literal (utf8 text)

/-- A name that stands for a column. -/
def PlainName (name : String) : Prop :=
  PlainText name ∧ '='.toUInt8 ∉ utf8 name ∧ name ∉ ["limit", "offset", "order"]

/-- A name that stands for a column in an order. -/
def PlainTerm (name : String) : Prop :=
  PlainText name ∧ '.'.toUInt8 ∉ utf8 name ∧ ','.toUInt8 ∉ utf8 name

/-- Options whose texts have no separators in them, and whose offset is an `int`. -/
structure Plain (options : ListOptions) : Prop where
  filter : ∀ entry ∈ options.filter.toList, PlainName entry.1 ∧ PlainText entry.2
  sort : ∀ entry ∈ options.sort.toList, PlainTerm entry.1 ∧
    (entry.2 = "desc" ∨ entry.2.toLower = "asc")
  offset : IsInt (pageOffset options)

/-! ## Parameters -/

section Params

variable {name value part : Bytes}

theorem one_le_length_paramsOf (name value : Bytes) : 1 ≤ (paramsOf name value).length := by
  unfold paramsOf
  split_ifs
  · exact le_rfl
  · exact le_rfl
  · rw [List.length_map]
    exact List.length_pos_of_ne_nil (List.splitOn_ne_nil _ _)
  · exact le_rfl
  · exact le_rfl

/-- Each parameter is of one kind. -/
theorem length_eq_kinds (params : List Param) :
    params.length = (params.filterMap Param.condition?).length +
      (params.filterMap Param.order?).length + (params.filterMap Param.limit?).length +
      (params.filterMap Param.offset?).length + (params.filterMap Param.other?).length := by
  induction params with
  | nil => rfl
  | cons param params ih =>
      cases param <;>
        simp only [List.filterMap_cons, Param.condition?, Param.order?, Param.limit?, Param.offset?,
          Param.other?, List.length_cons] <;> omega

/-- A condition is made of a name that is not reserved and a value with the operator. -/
theorem condition_of_paramsOf {field operand : Bytes}
    (h : paramsOf name value = [.condition field operand]) :
    (name ≠ utf8 "limit" ∧ name ≠ utf8 "offset" ∧ name ≠ utf8 "order") ∧
      field = name ∧ operand = back '.'.toUInt8 value := by
  unfold paramsOf at h
  split_ifs at h with hlimit hoffset horder hop
  · cases h
  · cases h
  · obtain ⟨term, hterm⟩ : ∃ term, orderTerm term = .condition field operand := by
      have hmem : Param.condition field operand ∈ (value.splitOn ','.toUInt8).map orderTerm :=
        h ▸ List.mem_cons_self
      obtain ⟨term, -, hterm⟩ := List.mem_map.1 hmem
      exact ⟨term, hterm⟩
    cases hterm
  · cases h
    exact ⟨⟨hlimit, hoffset, horder⟩, rfl, rfl⟩
  · cases h

/-- The parameters that a part of a query is read as. -/
def readPart (part : Bytes) : List Param :=
  (part.splitOn '&'.toUInt8).flatMap fun piece => paramsOf (pair piece).1 (pair piece).2

theorem readQuery_intercalate {parts : List String} (h : parts ≠ []) :
    readQuery ("&".intercalate parts) = parts.flatMap fun part => readPart (utf8 part) := by
  have hsep : utf8 "&" = ['&'.toUInt8] := by decide
  rw [readQuery, pairs, utf8_intercalate, hsep, splitOn_intercalate_eq_flatMap _ (by simpa using h),
    List.flatMap_map, List.flatMap_map, List.flatMap_assoc]
  rfl

theorem length_splitOn_le_readPart (part : Bytes) :
    (part.splitOn '&'.toUInt8).length ≤ (readPart part).length := by
  rw [readPart, List.length_flatMap]
  have hone := List.sum_le_sum (l := part.splitOn '&'.toUInt8) (f := fun _ => 1)
    (g := fun piece => (paramsOf (pair piece).1 (pair piece).2).length)
    fun piece _ => one_le_length_paramsOf _ _
  simpa using hone

theorem one_le_length_readPart (part : Bytes) : 1 ≤ (readPart part).length :=
  le_trans (List.length_pos_of_ne_nil (List.splitOn_ne_nil _ _)) (length_splitOn_le_readPart part)

theorem readPart_of_not_mem (h : '&'.toUInt8 ∉ part) :
    readPart part = paramsOf (pair part).1 (pair part).2 := by
  rw [readPart, List.splitOn_eq_singleton h, List.flatMap_singleton]

/-- A part that is read as one parameter is one piece. -/
theorem not_mem_of_length_readPart (h : (readPart part).length = 1) : '&'.toUInt8 ∉ part := by
  have hle := length_splitOn_le_readPart part
  have hpos := List.length_pos_of_ne_nil (List.splitOn_ne_nil '&'.toUInt8 part)
  exact length_splitOn_eq_one_iff.1 (by omega)

end Params

/-! ## The parts -/

section Parts

variable {entry : String × String}

/-- The name and the value of a part with `=` in it. -/
theorem pair_append (name value : Bytes) (h : '='.toUInt8 ∉ name) :
    pair (name ++ '='.toUInt8 :: value) = (percentDecode name, percentDecode value) := by
  rw [pair, front_append, front_eq_self h, back_append h]

/-- A number is read as it is. -/
theorem readPart_number {text : String} {name : Bytes} {n : Int}
    (htext : utf8 text = name ++ ['='.toUInt8]) (hname : '='.toUInt8 ∉ name)
    (hpiece : '&'.toUInt8 ∉ name) (hliteral : '%'.toUInt8 ∉ name) :
    readPart (utf8 (text ++ toString n)) = paramsOf name (utf8 (toString n)) := by
  have hdigits : ∀ c : UInt8, c ≠ '-'.toUInt8 → ¬ ('0'.toUInt8 ≤ c ∧ c ≤ '9'.toUInt8) →
      c ∉ utf8 (toString n) :=
    fun c hsign hdigit hmem => (mem_utf8_number hmem).elim hsign hdigit
  rw [utf8_append, htext, List.append_assoc, List.singleton_append, readPart_of_not_mem,
    pair_append _ _ hname, percentDecode_eq_self_iff.2 (literal_of_not_mem hliteral),
    percentDecode_eq_self_iff.2 (literal_of_not_mem (hdigits _ (by decide) (by decide)))]
  rw [List.mem_append, List.mem_cons]
  rintro (hmem | heq | hmem)
  · exact hpiece hmem
  · exact absurd heq (by decide)
  · exact hdigits _ (by decide) (by decide) hmem

theorem readPart_limit (n : Int) :
    readPart (utf8 ("limit=" ++ toString n)) = [.limit (utf8 (toString n))] :=
  @readPart_number "limit=" (utf8 "limit") n (by decide) (by decide) (by decide) (by decide)

theorem readPart_offset (n : Int) :
    readPart (utf8 ("offset=" ++ toString n)) = [.offset (utf8 (toString n))] :=
  @readPart_number "offset=" (utf8 "offset") n (by decide) (by decide) (by decide) (by decide)

/-- The bytes of a part for an entry of the filter. -/
theorem utf8_filterPart (entry : String × String) :
    utf8 (filterPart entry) =
      utf8 entry.1 ++ '='.toUInt8 :: (utf8 "eq" ++ '.'.toUInt8 :: utf8 entry.2) := by
  have hsep : utf8 "=eq." = '='.toUInt8 :: (utf8 "eq" ++ ['.'.toUInt8]) := by decide
  rw [filterPart, utf8_append, utf8_append, hsep]
  simp

/-- The operator keeps out of the decoding of the value. -/
theorem percentDecode_operand (value : Bytes) :
    percentDecode (utf8 "eq" ++ '.'.toUInt8 :: value) =
      utf8 "eq" ++ '.'.toUInt8 :: percentDecode value := by
  rw [percentDecode_append (by decide),
    percentDecode_cons fun x y more _ => escape?_of_ne (by decide)]
  rfl

/-- The direction that a part has. -/
def directionText (entry : String × String) : String := if entry.2 = "desc" then "desc" else "asc"

/-- The bytes of a part for an entry of the sort. -/
theorem utf8_orderPart (entry : String × String) :
    utf8 (orderPart entry) = utf8 "order" ++ '='.toUInt8 ::
      (utf8 entry.1 ++ '.'.toUInt8 :: utf8 (directionText entry)) := by
  have hname : utf8 "order=" = utf8 "order" ++ ['='.toUInt8] := by decide
  have hdot : utf8 "." = ['.'.toUInt8] := by decide
  rw [orderPart, utf8_append, utf8_append, utf8_append, hname, hdot, directionText]
  simp

theorem not_mem_directionText {c : UInt8} (h : c ∉ utf8 "desc" ++ utf8 "asc") :
    c ∉ utf8 (directionText entry) := by
  rw [List.mem_append, not_or] at h
  unfold directionText
  split
  · exact h.1
  · exact h.2

/-- What a part for an entry of the sort is read as, if it is one piece. -/
theorem readPart_orderPart (h : '&'.toUInt8 ∉ utf8 (orderPart entry)) :
    readPart (utf8 (orderPart entry)) =
      ((percentDecode (utf8 entry.1) ++ '.'.toUInt8 :: utf8 (directionText entry)).splitOn
        ','.toUInt8).map orderTerm := by
  have hdirection : percentDecode ('.'.toUInt8 :: utf8 (directionText entry)) =
      '.'.toUInt8 :: utf8 (directionText entry) := by
    refine percentDecode_eq_self_iff.2 (literal_of_not_mem fun hmem => ?_)
    rcases List.mem_cons.1 hmem with heq | hmem
    · exact absurd heq (by decide)
    · exact not_mem_directionText (by decide) hmem
  rw [readPart_of_not_mem h, utf8_orderPart, pair_append _ _ (by decide),
    percentDecode_append (by decide), hdirection]
  rfl

/-- What is read for the parts of a listing. -/
theorem readQuery_listParts (options : ListOptions) :
    readQuery ("&".intercalate (listParts options)) =
      (options.filter.toList.flatMap fun entry => readPart (utf8 (filterPart entry))) ++
      ([.limit (utf8 (toString (pageLimit options))),
        .offset (utf8 (toString ((pageOffset options).bmod (2 ^ 32))))] ++
      options.sort.toList.flatMap fun entry => readPart (utf8 (orderPart entry))) := by
  rw [readQuery_intercalate (by simp [listParts, pagingParts]), listParts, List.flatMap_append,
    List.flatMap_append, List.flatMap_map, List.flatMap_map, pagingParts, List.flatMap_cons,
    List.flatMap_cons, List.flatMap_nil, readPart_limit, readPart_offset]
  rfl

end Parts

/-! ## Plain options -/

section Plain

variable {entry : String × String} {options : ListOptions}

theorem readPart_filterPart_of_plain (hname : PlainName entry.1) (hvalue : PlainText entry.2) :
    readPart (utf8 (filterPart entry)) = [.condition (utf8 entry.1) (utf8 entry.2)] := by
  obtain ⟨⟨hpiece, hliteral⟩, hequals, hreserved⟩ := hname
  have hne : ∀ name ∈ ["limit", "offset", "order"], utf8 entry.1 ≠ utf8 name :=
    fun name hmem heq => hreserved (utf8_injective heq ▸ hmem)
  have hoperator : '.'.toUInt8 ∉ utf8 "eq" := by decide
  have hfront : front '.'.toUInt8 (utf8 "eq" ++ '.'.toUInt8 :: utf8 entry.2) = utf8 "eq" := by
    rw [front_append, front_eq_self hoperator]
  have hmem : '&'.toUInt8 ∉ utf8 (filterPart entry) := by
    have hmiddle : '&'.toUInt8 ∉ '='.toUInt8 :: (utf8 "eq" ++ ['.'.toUInt8]) := by decide
    rw [utf8_filterPart]
    simp only [List.mem_append, List.mem_cons, not_or] at hmiddle ⊢
    exact ⟨hpiece, hmiddle.1, hmiddle.2.1, hmiddle.2.2.1, hvalue.1⟩
  rw [readPart_of_not_mem hmem, utf8_filterPart, pair_append _ _ hequals, percentDecode_operand,
    percentDecode_eq_self_iff.2 hliteral, percentDecode_eq_self_iff.2 hvalue.2, paramsOf,
    if_neg (hne _ (by decide)), if_neg (hne _ (by decide)), if_neg (hne _ (by decide)),
    if_pos ⟨hfront, by simp⟩, back_append hoperator]

theorem readPart_orderPart_of_plain (h : PlainTerm entry.1) :
    readPart (utf8 (orderPart entry)) =
      [.order (utf8 entry.1) (utf8 (directionText entry))] := by
  obtain ⟨⟨hpiece, hliteral⟩, hdot, hcomma⟩ := h
  have hmem : '&'.toUInt8 ∉ utf8 (orderPart entry) := by
    have hmiddle : '&'.toUInt8 ∉ utf8 "order" ++ ['='.toUInt8, '.'.toUInt8] := by decide
    have hdirection : '&'.toUInt8 ∉ utf8 (directionText entry) := not_mem_directionText (by decide)
    rw [utf8_orderPart]
    simp only [List.mem_append, List.mem_cons, not_or] at hmiddle ⊢
    exact ⟨hmiddle.1, hmiddle.2.1, hpiece, hmiddle.2.2.1, hdirection⟩
  have hterm : ','.toUInt8 ∉ utf8 entry.1 ++ '.'.toUInt8 :: utf8 (directionText entry) := by
    have hdirection : ','.toUInt8 ∉ utf8 (directionText entry) := not_mem_directionText (by decide)
    simp only [List.mem_append, List.mem_cons, not_or]
    exact ⟨hcomma, by decide, hdirection⟩
  rw [readPart_orderPart hmem, percentDecode_eq_self_iff.2 hliteral,
    List.splitOn_eq_singleton hterm, List.map_singleton, orderTerm, front_append,
    front_eq_self hdot, back_append hdot]

/-- A given direction is the one that is written. -/
theorem directionText_eq_iff :
    directionText entry = entry.2.toLower ↔ entry.2 = "desc" ∨ entry.2.toLower = "asc" := by
  unfold directionText
  split_ifs with hdesc
  · refine iff_of_true ?_ (.inl hdesc)
    rw [hdesc]
    decide +kernel
  · exact ⟨fun h => .inr h.symm, fun h => (h.resolve_left hdesc).symm⟩

/-- What is read for plain options. -/
theorem readQuery_of_plain (h : Plain options) :
    readQuery ("&".intercalate (listParts options)) =
      (options.filter.toList.map fun entry => .condition (utf8 entry.1) (utf8 entry.2)) ++
      ([.limit (utf8 (toString (pageLimit options))),
        .offset (utf8 (toString (pageOffset options)))] ++
      options.sort.toList.map fun entry => .order (utf8 entry.1) (utf8 (directionText entry))) := by
  have hfilter : (options.filter.toList.flatMap fun entry => readPart (utf8 (filterPart entry))) =
      options.filter.toList.map fun entry => .condition (utf8 entry.1) (utf8 entry.2) := by
    rw [List.map_eq_flatMap]
    exact List.flatMap_congr fun entry hentry =>
      readPart_filterPart_of_plain (h.filter entry hentry).1 (h.filter entry hentry).2
  have hsort : (options.sort.toList.flatMap fun entry => readPart (utf8 (orderPart entry))) =
      options.sort.toList.map fun entry => .order (utf8 entry.1) (utf8 (directionText entry)) := by
    rw [List.map_eq_flatMap]
    exact List.flatMap_congr fun entry hentry =>
      readPart_orderPart_of_plain (h.sort entry hentry).1
  have hoffset : (pageOffset options).bmod (2 ^ 32) = pageOffset options := by
    have hint := h.offset
    unfold IsInt intMax at hint
    rw [Int.bmod_def]
    omega
  rw [readQuery_listParts, hfilter, hsort, hoffset]

/-- **What is read for plain options is what they mean.** -/
theorem Plain.asIntended (h : Plain options) :
    AsIntended options (readQuery ("&".intercalate (listParts options))) := by
  rw [readQuery_of_plain h]
  refine ⟨?_, ?_, ?_, ?_, ?_⟩
  · simp [List.filterMap_cons, List.filterMap_map, Function.comp_def, Param.condition?]
  · simp only [List.filterMap_append, List.filterMap_cons, List.filterMap_nil, List.filterMap_map,
      Function.comp_def, Param.order?, List.filterMap_eq_map', List.nil_append,
      List.filterMap_none, List.forall₂_map_left_iff, List.forall₂_same]
    exact fun entry hentry =>
      ⟨rfl, congrArg utf8 (directionText_eq_iff.2 (h.sort entry hentry).2)⟩
  · simp [List.filterMap_cons, List.filterMap_map, Function.comp_def, Param.limit?]
  · simp [List.filterMap_cons, List.filterMap_map, Function.comp_def, Param.offset?]
  · simp [List.filterMap_cons, List.filterMap_map, Function.comp_def, Param.other?]

end Plain

/-! ## Lengths -/

section Lengths

variable {options : ListOptions} {entry : String × String} {bytes : Bytes} {c : UInt8}

/-- A name that is read with its full length. -/
theorem literal_of_length_front (h : bytes.length ≤ (percentDecode (front c bytes)).length) :
    c ∉ bytes ∧ Literal bytes := by
  have hdecoded := length_percentDecode_le (front c bytes)
  have hc : c ∉ bytes := fun hmem => by
    have hlt := length_front_lt hmem
    omega
  rw [front_eq_self hc] at h
  exact ⟨hc, percentDecode_eq_self_iff.1 (percentDecode_of_length h)⟩

/-- A field of an order that is read with its full length. -/
theorem literal_of_length_decoded (h : bytes.length ≤ (front c (percentDecode bytes)).length) :
    c ∉ bytes ∧ Literal bytes := by
  have hfront := length_front_le c (percentDecode bytes)
  have hself := percentDecode_of_length (h.trans hfront)
  refine ⟨fun hmem => ?_, percentDecode_eq_self_iff.1 hself⟩
  rw [hself] at h
  exact absurd (length_front_lt hmem) (not_lt.2 h)

theorem plainText_of_part {text part : String} (hpart : '&'.toUInt8 ∉ utf8 part)
    (hsub : utf8 text ⊆ utf8 part) (hliteral : Literal (utf8 text)) : PlainText text :=
  ⟨fun hmem => hpart (hsub hmem), hliteral⟩

/-- Each part is read as one parameter. -/
theorem AsIntended.length_readPart
    (h : AsIntended options (readQuery ("&".intercalate (listParts options)))) :
    ∀ part ∈ listParts options, (readPart (utf8 part)).length = 1 := by
  have hlength := length_eq_kinds (readQuery ("&".intercalate (listParts options)))
  rw [h.conditions.length_eq, h.order.length_eq, h.limit, h.offset, h.nothingElse,
    readQuery_intercalate (by simp [listParts, pagingParts]), List.length_flatMap] at hlength
  have hparts : (listParts options).length =
      options.filter.toList.length + (2 + options.sort.toList.length) := by
    simp only [listParts, pagingParts, List.length_append, List.length_map, List.length_cons,
      List.length_nil]
  intro part hpart
  refine (eq_of_sum_le (f := fun _ => 1) (fun part _ => one_le_length_readPart (utf8 part)) ?_
    part hpart).symm
  have hones : ((listParts options).map fun _ => 1).sum = (listParts options).length := by simp
  rw [hones, hparts, hlength, List.length_map]
  simp only [List.length_cons, List.length_nil]
  omega

/-- A part of the sort is read as one term. -/
theorem AsIntended.readPart_orderPart
    (h : AsIntended options (readQuery ("&".intercalate (listParts options))))
    (hentry : entry ∈ options.sort.toList) :
    '&'.toUInt8 ∉ utf8 (orderPart entry) ∧
    ','.toUInt8 ∉ percentDecode (utf8 entry.1) ∧
    readPart (utf8 (orderPart entry)) =
      [orderTerm (percentDecode (utf8 entry.1) ++ '.'.toUInt8 :: utf8 (directionText entry))] := by
  have hone := h.length_readPart (orderPart entry) (by
    unfold listParts
    exact List.mem_append_right _ (List.mem_append_right _ (List.mem_map_of_mem hentry)))
  have hpiece := not_mem_of_length_readPart hone
  rw [SupabaseQueryBuilder.readPart_orderPart hpiece] at hone ⊢
  rw [List.length_map, length_splitOn_eq_one_iff] at hone
  refine ⟨hpiece, fun hmem => hone (List.mem_append_left _ hmem), ?_⟩
  rw [List.splitOn_eq_singleton hone, List.map_singleton]

/-- The name that is read for an entry of the filter. -/
def nameRead (entry : String × String) : Bytes := percentDecode (front '='.toUInt8 (utf8 entry.1))

/-- The operand that is read for an entry of the filter. -/
def operandRead (entry : String × String) : Bytes :=
  back '.'.toUInt8 (percentDecode (back '='.toUInt8 (utf8 (filterPart entry))))

theorem pair_filterPart (entry : String × String) :
    (pair (utf8 (filterPart entry))).1 = nameRead entry := by
  rw [pair, utf8_filterPart, front_append]
  rfl

/-- The conditions that are read are those of the parts of the filter. -/
theorem AsIntended.condition?_readQuery
    (h : AsIntended options (readQuery ("&".intercalate (listParts options)))) :
    (readQuery ("&".intercalate (listParts options))).filterMap Param.condition? =
      options.filter.toList.flatMap fun entry =>
        (readPart (utf8 (filterPart entry))).filterMap Param.condition? := by
  have hsort : (options.sort.toList.flatMap fun entry =>
      (readPart (utf8 (orderPart entry))).filterMap Param.condition?) = [] := by
    rw [List.flatMap_eq_nil_iff]
    intro entry hentry
    rw [(h.readPart_orderPart hentry).2.2]
    rfl
  rw [readQuery_listParts, List.filterMap_append, List.filterMap_append, List.filterMap_flatMap,
    List.filterMap_flatMap, hsort]
  simp [Param.condition?]

/-- A part of the filter is read as one condition. -/
theorem AsIntended.readPart_filterPart
    (h : AsIntended options (readQuery ("&".intercalate (listParts options))))
    (hentry : entry ∈ options.filter.toList) :
    '&'.toUInt8 ∉ utf8 (filterPart entry) ∧
    readPart (utf8 (filterPart entry)) = [.condition (nameRead entry) (operandRead entry)] ∧
    ∀ name ∈ ["limit", "offset", "order"], nameRead entry ≠ utf8 name := by
  have hone : ∀ e ∈ options.filter.toList, (readPart (utf8 (filterPart e))).length = 1 :=
    fun e he => h.length_readPart (filterPart e)
      (List.mem_append_left _ (List.mem_map_of_mem he))
  have hpiece := not_mem_of_length_readPart (hone entry hentry)
  have hcount : ((readPart (utf8 (filterPart entry))).filterMap Param.condition?).length =
      (readPart (utf8 (filterPart entry))).length := by
    refine eq_of_sum_le
      (f := fun e => ((readPart (utf8 (filterPart e))).filterMap Param.condition?).length)
      (g := fun e => (readPart (utf8 (filterPart e))).length)
      (fun e _ => List.length_filterMap_le _ _) ?_ entry hentry
    have htotal := h.conditions.length_eq
    rw [h.condition?_readQuery, List.length_flatMap, List.length_map] at htotal
    have hones : (options.filter.toList.map fun e => (readPart (utf8 (filterPart e))).length).sum =
        options.filter.toList.length := by
      rw [List.map_congr_left hone]
      simp
    exact (hones.trans htotal.symm).le
  obtain ⟨param, hparam⟩ := List.length_eq_one_iff.1 (hone entry hentry)
  rw [hparam] at hcount
  cases param with
  | condition field operand =>
      rw [readPart_of_not_mem hpiece, pair_filterPart] at hparam
      obtain ⟨⟨hlimit, hoffset, horder⟩, rfl, rfl⟩ := condition_of_paramsOf hparam
      refine ⟨hpiece, ?_, ?_⟩
      · rw [readPart_of_not_mem hpiece, pair_filterPart, hparam]
        rfl
      · intro name hname
        rcases List.mem_cons.1 hname with rfl | hname
        · exact hlimit
        · rcases List.mem_cons.1 hname with rfl | hname
          · exact hoffset
          · rw [List.mem_singleton.1 hname]
            exact horder
  | order _ _ => cases hcount
  | limit _ => cases hcount
  | offset _ => cases hcount
  | other _ _ => cases hcount

/-- The names and the values that are read are those of the filter, in some order. -/
theorem AsIntended.perm_read
    (h : AsIntended options (readQuery ("&".intercalate (listParts options)))) :
    (options.filter.toList.map fun entry => (nameRead entry, operandRead entry)).Perm
      (options.filter.toList.map fun entry => (utf8 entry.1, utf8 entry.2)) := by
  have hread : (options.filter.toList.flatMap fun entry =>
      (readPart (utf8 (filterPart entry))).filterMap Param.condition?) =
      options.filter.toList.map fun entry => (nameRead entry, operandRead entry) := by
    rw [List.map_eq_flatMap]
    refine List.flatMap_congr fun entry hentry => ?_
    rw [(h.readPart_filterPart hentry).2.1]
    rfl
  rw [← hread, ← h.condition?_readQuery]
  exact h.conditions

/-- Names of the filter are read with their full length. -/
theorem AsIntended.plainName
    (h : AsIntended options (readQuery ("&".intercalate (listParts options))))
    (hentry : entry ∈ options.filter.toList) : PlainName entry.1 := by
  have hsums := (h.perm_read.map fun pair => pair.1.length).sum_eq
  rw [List.map_map, List.map_map] at hsums
  have hlength : (nameRead entry).length = (utf8 entry.1).length :=
    eq_of_sum_le (fun e _ => (length_percentDecode_le _).trans (length_front_le _ _)) hsums.ge
      entry hentry
  obtain ⟨hpiece, -, hreserved⟩ := h.readPart_filterPart hentry
  obtain ⟨hequals, hliteral⟩ := literal_of_length_front hlength.ge
  have hname : nameRead entry = utf8 entry.1 := by
    rw [nameRead, front_eq_self hequals, percentDecode_eq_self_iff.2 hliteral]
  refine ⟨plainText_of_part hpiece ?_ hliteral, hequals, fun hmem => hreserved _ hmem hname⟩
  rw [utf8_filterPart]
  exact List.subset_append_left _ _

/-- Values of the filter are read with their full length. -/
theorem AsIntended.plainValue
    (h : AsIntended options (readQuery ("&".intercalate (listParts options))))
    (hentry : entry ∈ options.filter.toList) : PlainText entry.2 := by
  have hoperand : ∀ e ∈ options.filter.toList, operandRead e = percentDecode (utf8 e.2) := by
    intro e he
    rw [operandRead, utf8_filterPart, back_append (h.plainName he).2.1, percentDecode_operand,
      back_append (by decide)]
  have hsums := (h.perm_read.map fun pair => pair.2.length).sum_eq
  rw [List.map_map, List.map_map] at hsums
  have hlength : (operandRead entry).length = (utf8 entry.2).length :=
    eq_of_sum_le (fun e he => by
      show (operandRead e).length ≤ (utf8 e.2).length
      rw [hoperand e he]
      exact length_percentDecode_le _) hsums.ge entry hentry
  rw [hoperand entry hentry] at hlength
  refine plainText_of_part (h.readPart_filterPart hentry).1 ?_
    (percentDecode_eq_self_iff.1 (percentDecode_of_length hlength.ge))
  rw [utf8_filterPart]
  intro b hb
  simp [hb]

/-- The terms that are read are those of the parts of the sort. -/
theorem AsIntended.order?_readQuery
    (h : AsIntended options (readQuery ("&".intercalate (listParts options)))) :
    (readQuery ("&".intercalate (listParts options))).filterMap Param.order? =
      options.sort.toList.map fun entry =>
        (front '.'.toUInt8 (percentDecode (utf8 entry.1)),
          back '.'.toUInt8
            (percentDecode (utf8 entry.1) ++ '.'.toUInt8 :: utf8 (directionText entry))) := by
  have hfilter : (options.filter.toList.flatMap fun entry =>
      (readPart (utf8 (filterPart entry))).filterMap Param.order?) = [] := by
    rw [List.flatMap_eq_nil_iff]
    intro entry hentry
    rw [(h.readPart_filterPart hentry).2.1]
    rfl
  have hsort : (options.sort.toList.flatMap fun entry =>
      (readPart (utf8 (orderPart entry))).filterMap Param.order?) =
      options.sort.toList.map fun entry =>
        (front '.'.toUInt8 (percentDecode (utf8 entry.1)),
          back '.'.toUInt8
            (percentDecode (utf8 entry.1) ++ '.'.toUInt8 :: utf8 (directionText entry))) := by
    rw [List.map_eq_flatMap]
    refine List.flatMap_congr fun entry hentry => ?_
    rw [(h.readPart_orderPart hentry).2.2, ← front_append]
    rfl
  rw [readQuery_listParts, List.filterMap_append, List.filterMap_append, List.filterMap_flatMap,
    List.filterMap_flatMap, hfilter, hsort]
  rfl

/-- Fields and directions of the sort are read as they are. -/
theorem AsIntended.plainTerm
    (h : AsIntended options (readQuery ("&".intercalate (listParts options))))
    (hentry : entry ∈ options.sort.toList) :
    PlainTerm entry.1 ∧ (entry.2 = "desc" ∨ entry.2.toLower = "asc") := by
  have hterms := h.order
  rw [h.order?_readQuery, List.forall₂_map_left_iff, List.forall₂_same] at hterms
  obtain ⟨hfield, hdirection⟩ := hterms entry hentry
  obtain ⟨hpiece, hcomma, -⟩ := h.readPart_orderPart hentry
  obtain ⟨hdot, hliteral⟩ := literal_of_length_decoded (congrArg List.length hfield).ge
  rw [percentDecode_eq_self_iff.2 hliteral] at hcomma
  refine ⟨⟨plainText_of_part hpiece ?_ hliteral, hdot, hcomma⟩, directionText_eq_iff.1 ?_⟩
  · rw [utf8_orderPart]
    intro b hb
    simp [hb]
  · refine utf8_injective ?_
    rw [← hdirection, percentDecode_eq_self_iff.2 hliteral, back_append hdot]

/-- **Options that are read as intended are plain.** -/
theorem AsIntended.plain
    (h : AsIntended options (readQuery ("&".intercalate (listParts options)))) : Plain options where
  filter _ hentry := ⟨h.plainName hentry, h.plainValue hentry⟩
  sort _ hentry := h.plainTerm hentry
  offset := by
    have hfilter : (options.filter.toList.flatMap fun entry =>
        (readPart (utf8 (filterPart entry))).filterMap Param.offset?) = [] := by
      rw [List.flatMap_eq_nil_iff]
      intro entry hentry
      rw [(h.readPart_filterPart hentry).2.1]
      rfl
    have hsort : (options.sort.toList.flatMap fun entry =>
        (readPart (utf8 (orderPart entry))).filterMap Param.offset?) = [] := by
      rw [List.flatMap_eq_nil_iff]
      intro entry hentry
      rw [(h.readPart_orderPart hentry).2.2]
      rfl
    have hoffset := h.offset
    rw [readQuery_listParts, List.filterMap_append, List.filterMap_append, List.filterMap_flatMap,
      List.filterMap_flatMap, hfilter, hsort] at hoffset
    have hwrapped : (pageOffset options).bmod (2 ^ 32) = pageOffset options :=
      Int.repr_injective (utf8_injective (List.singleton_inj.1 hoffset))
    unfold IsInt intMax
    rw [Int.bmod_def] at hwrapped
    omega

end Lengths

/-- What stands behind the question mark. -/
theorem query_unique {dump : Json → String} {doubleText : Int → Int → String}
    {entityName query : String} {options : ListOptions}
    (h : buildListQuery dump doubleText entityName options = entityName ++ "?" ++ query) :
    query = "&".intercalate (listParts options) := by
  rw [buildListQuery_eq] at h
  have hlists := congrArg String.toList h
  rw [@String.toList_append _ query, @String.toList_append (entityName ++ "?")] at hlists
  exact (String.toList_inj.1 (List.append_cancel_left hlists)).symm

/-- **A listing is read by the server as it was meant exactly when nothing in its texts is a
separator, a reserved name or an escape** and its offset is an `int`. -/
theorem read_as_intended_iff (dump : Json → String) (doubleText : Int → Int → String)
    (entityName : String) (options : ListOptions) :
    (∃ query, buildListQuery dump doubleText entityName options = entityName ++ "?" ++ query ∧
      AsIntended options (readQuery query)) ↔ Plain options := by
  constructor
  · rintro ⟨query, hquery, hintended⟩
    rw [query_unique hquery] at hintended
    exact hintended.plain
  · exact fun h => ⟨_, buildListQuery_eq dump doubleText entityName options, h.asIntended⟩

/-- A value with a condition of its own: the server reads two. -/
theorem value_adds_condition :
    let options : ListOptions := { filter := .ofList [("name", "x&role=eq.admin")] }
    ¬ ∃ query,
      buildListQuery (fun _ => "") (fun _ _ => "") "users" options = "users" ++ "?" ++ query ∧
      AsIntended options (readQuery query) := by
  rintro options ⟨query, hquery, hintended⟩
  rw [query_unique hquery] at hintended
  exact absurd hintended.conditions.length_eq (by decide +kernel)

end SupabaseQueryBuilder
end Dbal
