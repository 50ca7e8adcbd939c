/-
# How a statement for SurrealDB is read

A statement is meant to be a list of pieces, each of which is one token: the words of the language,
names, the ids of records, and literals (`Statement.template`).  A text is one string, whatever
stands in it (`reads_quoteString`), and every other value is one token as well; a name is one word
when it is bare, and in no other case is any word the name (`isWord_of_tokens`).  So a statement
reads as it is meant exactly when its names are bare and each value is one that its literal stands
for (`readsAsMeant_iff`).
-/

import Dbal.Adapters.SurrealDBQueryBuilder
import Dbal.Codec.Decimal
import Dbal.Sql.BareLexer

namespace Dbal
namespace SurrealDB

open Codec Sql.Bare
open SupabaseQueryBuilder (filterObject)

/-! ## What is meant -/

/-- The id of a record that is a number. -/
def IsNumeric (chars : List Char) : Prop := chars ≠ [] ∧ ∀ c ∈ chars, c.isDigit = true

/-- A piece of a statement. -/
inductive Piece where
  | token (t : Token)
  | name (text : String)
  | id (text : String)
  | value (v : Json)

section Meaning

-- `stringified` says whether the JSON text of an array or an object stands for it.
variable (dumpDouble : Int → Int → String) (stringified : Bool)

/-- A literal stands for a value. -/
def Denotes : Token → Json → Prop
  | .string chars, .str s => chars = s.toList
  | .number chars, .int i => '.' ∉ chars ∧ decimalValue chars = i
  | .number chars, .uint n => '.' ∉ chars ∧ decimalValue chars = n
  | .number chars, .real mantissa exponent =>
      '.' ∈ chars ∧ Nearest (decimalValue chars) (dyadic mantissa exponent)
  | .word chars, .bool b => chars = (if b then "true" else "false").toList
  | .word chars, .null => chars = "NULL".toList
  | .string chars, .arr elements =>
      stringified = true ∧ chars = ((Json.arr elements).dump dumpDouble).toList
  | .string chars, .obj members =>
      stringified = true ∧ chars = ((Json.obj members).dump dumpDouble).toList
  | _, _ => False

/-- A token is what a piece is meant to be: the token, one identifier, the id of a record (an
identifier or a number), or a literal of the value. -/
def Piece.Matches : Piece → Token → Prop
  | .token t, read => read = t
  | .name text, read => read = .word text.toList
  | .id text, read =>
      read = .word text.toList ∨ read = .number text.toList ∧ IsNumeric text.toList
  | .value v, read => Denotes dumpDouble stringified read v

end Meaning

/-- A name, the sign, and a value. -/
def comparisonPieces (field : String × Json) : List Piece :=
  [.name field.1, .token (.mark '='), .value field.2]

/-- A keyword. -/
def keyword (text : String) : Piece := .token (.word text.toList)

/-- A clause: comparisons with a token between them. -/
def clausePieces (between : Token) (data : Std.TreeMap String Json) : List Piece :=
  [.token between].intercalate (data.toList.map comparisonPieces)

/-- A number that the builder computes. -/
def numeral (n : Int) : Piece := .token (.number (toString n).toList)

/-- What the builders and the converter make. -/
inductive Statement where
  | select (entityName : String) (options : ListOptions)
  | create (entityName : String) (data : Std.TreeMap String Json)
  | update (entityName id : String) (data : Std.TreeMap String Json)
  | delete (entityName id : String)
  | condition (filter : Std.TreeMap String Json)

namespace Statement

/-- The text that is made. -/
def text (dumpDouble : Int → Int → String) : Statement → String
  | select entityName options => buildSelectQuery dumpDouble entityName options
  | create entityName data => buildCreateQuery dumpDouble entityName data
  | update entityName id data => buildUpdateQuery dumpDouble entityName id data
  | delete entityName id => buildDeleteQuery entityName id
  | condition filter => filterToWhere dumpDouble filter

/-- What is meant by it. -/
def template : Statement → List Piece
  | select entityName options =>
      [keyword "SELECT", .token (.mark '*'), keyword "FROM", .name entityName] ++
        (if options.filter.isEmpty then []
          else keyword "WHERE" ::
            clausePieces (.word "AND".toList) (filterObject options.filter).fields) ++
        [keyword "LIMIT", numeral (effectiveLimit options.limit), keyword "START",
          numeral (limitOffset options.limit options.page)]
  | create entityName data =>
      [keyword "CREATE", .name entityName, keyword "SET"] ++ clausePieces (.mark ',') data
  | update entityName id data =>
      [keyword "UPDATE", .name entityName, .token (.mark ':'), .id id, keyword "SET"] ++
        clausePieces (.mark ',') data
  | delete entityName id => [keyword "DELETE", .name entityName, .token (.mark ':'), .id id]
  | condition filter => clausePieces (.word "AND".toList) filter

/-- The text is read as what is meant, token by token. -/
def ReadsAsMeant (dumpDouble : Int → Int → String) (stringified : Bool) (statement : Statement) :
    Prop :=
  ∃ ts, tokens (statement.text dumpDouble).toList = some ts ∧
    List.Forall₂ (Piece.Matches dumpDouble stringified) statement.template ts

end Statement

/-! ## Values -/

/-- A number of 64 bits. -/
def IsInt64 (i : Int) : Prop := -2 ^ 63 ≤ i ∧ i < 2 ^ 63

section Plain

variable (stringified : Bool)

/-- A value that its literal stands for. -/
def HasLiteral : Json → Prop
  | .str _ | .bool _ | .null => True
  | .int i => IsInt64 i
  | .uint n => IsInt64 n
  | .real mantissa exponent =>
      -- It is a nearest `double` to what it is with six digits behind the point.
      ∃ n, RoundsTo (dyadic mantissa exponent * 10 ^ 6) n ∧
        Nearest (n / 10 ^ 6) (dyadic mantissa exponent)
  | .arr _ | .obj _ => stringified = true

/-- A piece that can be written down. -/
def Piece.Plain : Piece → Prop
  | .token _ => True
  | .name text => IsWord text.toList
  | .id text => IsWord text.toList ∨ IsNumeric text.toList
  | .value v => HasLiteral stringified v

end Plain

section Literals

variable (dumpDouble : Int → Int → String)

/-- The token that a value is written as. -/
def literal : Json → Token
  | .str s => .string s.toList
  | .int i => .number (toString (Json.int i).getInt64).toList
  | .uint n => .number (toString (Json.uint n).getInt64).toList
  | .real mantissa exponent => .number (fixedText mantissa exponent)
  | .bool b => .word (if b then "true" else "false").toList
  | .null => .word "NULL".toList
  | value => .string (value.dump dumpDouble).toList

theorem escapes_escapeChar : Escapes escapeChar '\'' where
  plain c hquote hbackslash := by rw [escapeChar, if_neg hquote, if_neg hbackslash]
  quote := rfl
  backslash := rfl

/-- **A text between apostrophes is one string, whatever stands in it.** -/
theorem reads_quoteString (s : String) : Reads (quoteString s).toList [.string s.toList] := by
  have htext : (quoteString s).toList = '\'' :: (s.toList.flatMap escapeChar ++ ['\'']) := by
    simp [quoteString, escapeString]
  rw [htext]
  exact reads_string escapes_escapeChar (.inl rfl) s.toList

theorem isNumber_toString (i : Int) : IsNumber (toString i).toList := by
  obtain ⟨c, more, hchars, hc, hmore⟩ := exists_toDigits_eq_cons i.natAbs
  have hnumber : ∀ d ∈ more, isNumberChar d = true := fun d hd => by simp [isNumberChar, hmore d hd]
  rw [toList_toString, hchars]
  split_ifs
  · exact ⟨c, more, .inl rfl, hc, hnumber⟩
  · exact ⟨c, more, .inr rfl, hc, hnumber⟩

theorem isDigit_of_mem_pad6 {n : Nat} {c : Char} (h : c ∈ pad6 n) : c.isDigit = true := by
  rcases List.mem_append.1 h with hzero | hdigit
  · rw [List.eq_of_mem_replicate hzero]
    decide
  · exact Nat.isDigit_of_mem_toDigits (by decide) (by decide) hdigit

theorem isNumber_fixedText (mantissa exponent : Int) : IsNumber (fixedText mantissa exponent) := by
  obtain ⟨c, more, hchars, hc, hmore⟩ :=
    exists_toDigits_eq_cons (millionths mantissa exponent / 10 ^ 6)
  have hnumber : ∀ d ∈ more ++ '.' :: pad6 (millionths mantissa exponent % 10 ^ 6),
      isNumberChar d = true := by
    intro d hd
    rcases List.mem_append.1 hd with hd | hd
    · simp [isNumberChar, hmore d hd]
    · rcases List.mem_cons.1 hd with rfl | hd
      · decide
      · simp [isNumberChar, isDigit_of_mem_pad6 hd]
  unfold fixedText
  simp only [hchars]
  split_ifs
  · exact ⟨c, _, .inr rfl, hc, hnumber⟩
  · exact ⟨c, _, .inl rfl, hc, hnumber⟩

/-- **Every value is one token.** -/
theorem reads_jsonToSurrealValue (value : Json) :
    Reads (jsonToSurrealValue dumpDouble value).toList [literal dumpDouble value] := by
  have hwords : IsWord "NULL".toList ∧ IsWord "true".toList ∧ IsWord "false".toList := by decide
  cases value with
  | null => exact reads_word hwords.1
  | bool b =>
      cases b with
      | true => exact reads_word hwords.2.1
      | false => exact reads_word hwords.2.2
  | int i => exact reads_number (isNumber_toString _)
  | uint n => exact reads_number (isNumber_toString _)
  | real mantissa exponent =>
      rw [jsonToSurrealValue, String.toList_ofList]
      exact reads_number (isNumber_fixedText mantissa exponent)
  | str s => exact reads_quoteString s
  | arr elements => exact reads_quoteString _
  | obj members => exact reads_quoteString _

/-! ### What a literal stands for -/

theorem ofDigitChars_pad6 (n : Nat) : Nat.ofDigitChars 10 (pad6 n) 0 = n := by
  rw [pad6, Nat.ofDigitChars_append, Nat.ofDigitChars_replicate_zero, Nat.mul_zero,
    Nat.ofDigitChars_ten_toDigits]

theorem length_pad6 {n : Nat} (h : n < 10 ^ 6) : (pad6 n).length = 6 := by
  have hdigits : (Nat.toDigits 10 n).length ≤ 6 :=
    (Nat.length_toDigits_le_iff (by decide) (by decide)).2 h
  rw [pad6, List.length_append, List.length_replicate, Nat.sub_add_cancel hdigits]

/-- Millionths, written with six digits behind the point. -/
theorem numeralValue_millionths (n : Nat) :
    numeralValue (Nat.toDigits 10 (n / 10 ^ 6) ++ '.' :: pad6 (n % 10 ^ 6)) = n / 10 ^ 6 := by
  have hlength : (pad6 (n % 10 ^ 6)).length = 6 := length_pad6 (Nat.mod_lt _ (by decide))
  have hdigits : Nat.ofDigitChars 10 (Nat.toDigits 10 (n / 10 ^ 6) ++ pad6 (n % 10 ^ 6)) 0 = n := by
    rw [Nat.ofDigitChars_append, Nat.ofDigitChars_eq_ofDigitChars_zero, hlength,
      Nat.ofDigitChars_ten_toDigits, ofDigitChars_pad6, Nat.div_add_mod]
  rw [numeralValue_point (point_not_mem_toDigits _), hdigits, hlength]

theorem roundsTo_millionths (mantissa exponent : Int) :
    RoundsTo (dyadic mantissa.natAbs exponent * 10 ^ 6) (millionths mantissa exponent : ℕ) := by
  rw [dyadic, millionths]
  split_ifs with hsign
  · have hself : ((mantissa.natAbs : ℤ) : ℚ) * 2 ^ exponent * 10 ^ 6 =
        ((mantissa.natAbs * 10 ^ 6 * 2 ^ exponent.toNat : ℕ) : ℤ) := by
      obtain ⟨k, rfl⟩ := Int.eq_ofNat_of_zero_le hsign
      rw [Int.toNat_natCast, zpow_natCast]
      push_cast
      ring
    rw [hself]
    exact roundsTo_self _
  · have hquotient : ((mantissa.natAbs : ℤ) : ℚ) * 2 ^ exponent * 10 ^ 6 =
        (mantissa.natAbs * 10 ^ 6 : ℕ) / (2 ^ (-exponent).toNat : ℕ) := by
      obtain ⟨k, hk⟩ := Int.eq_ofNat_of_zero_le (neg_nonneg.2 (not_le.1 hsign).le)
      rw [hk, Int.toNat_natCast, ← neg_neg exponent, hk, zpow_neg, zpow_natCast, Int.cast_natCast]
      push_cast
      ring
    rw [hquotient]
    exact roundsTo_roundedQuotient _ (Nat.two_pow_pos _)

/-- The literal of a `double` is its rounding. -/
theorem exists_decimalValue_fixedText (mantissa exponent : Int) :
    ∃ n : ℤ, RoundsTo (dyadic mantissa exponent * 10 ^ 6) n ∧
      decimalValue (fixedText mantissa exponent) = n / 10 ^ 6 := by
  have hround := roundsTo_millionths mantissa exponent
  have hvalue := numeralValue_millionths (millionths mantissa exponent)
  by_cases hsign : mantissa < 0
  · refine ⟨-(millionths mantissa exponent : ℕ), ?_, ?_⟩
    · have hself : dyadic mantissa exponent * 10 ^ 6 =
          -(dyadic mantissa.natAbs exponent * 10 ^ 6) := by
        rw [dyadic, dyadic, Int.ofNat_natAbs_of_nonpos hsign.le]
        push_cast
        ring
      rw [hself]
      exact hround.neg
    · rw [fixedText, if_pos hsign, List.singleton_append, decimalValue_neg, hvalue]
      push_cast
      ring
  · refine ⟨(millionths mantissa exponent : ℕ), ?_, ?_⟩
    · rwa [Int.natAbs_of_nonneg (not_lt.1 hsign)] at hround
    · obtain ⟨c, more, hchars, hc, -⟩ :=
        exists_toDigits_eq_cons (millionths mantissa exponent / 10 ^ 6)
      rw [fixedText, if_neg hsign, List.nil_append, Int.cast_natCast, ← hvalue, hchars,
        List.cons_append, decimalValue_of_digit hc]

theorem point_mem_fixedText (mantissa exponent : Int) : '.' ∈ fixedText mantissa exponent :=
  List.mem_append_right _ (List.mem_append_right _ List.mem_cons_self)

theorem point_not_mem_toString (i : Int) : '.' ∉ (toString i).toList := by
  rw [toList_toString]
  split_ifs
  · exact point_not_mem_toDigits _
  · exact List.not_mem_cons_of_ne_of_not_mem (by decide) (point_not_mem_toDigits _)

/-- A number that wraps stays itself exactly when it fits. -/
theorem denotes_wrapped_iff (i : Int) :
    ('.' ∉ (toString (i.bmod (2 ^ 64))).toList ∧
      decimalValue (toString (i.bmod (2 ^ 64))).toList = i) ↔ IsInt64 i := by
  have hself : i.bmod (2 ^ 64) = i ↔ IsInt64 i := by
    rw [IsInt64]
    constructor
    · intro h
      rw [← h]
      exact ⟨Int.le_bmod (by decide), Int.bmod_lt (by decide)⟩
    · rintro ⟨hlow, hhigh⟩
      exact Int.bmod_eq_of_le (by omega) (by omega)
  rw [decimalValue_toString, Rat.intCast_inj, hself]
  exact and_iff_right (point_not_mem_toString _)

/-- **A literal stands for its value exactly when the value has one.** -/
theorem denotes_literal_iff (stringified : Bool) (value : Json) :
    Denotes dumpDouble stringified (literal dumpDouble value) value ↔
      HasLiteral stringified value := by
  cases value with
  | null => exact iff_of_true rfl trivial
  | bool b => exact iff_of_true rfl trivial
  | str s => exact iff_of_true rfl trivial
  | int i => exact denotes_wrapped_iff i
  | uint n => exact denotes_wrapped_iff n
  | real mantissa exponent =>
      obtain ⟨n, hround, hvalue⟩ := exists_decimalValue_fixedText mantissa exponent
      rw [literal, Denotes, HasLiteral, hvalue]
      constructor
      · rintro ⟨-, hnearest⟩
        exact ⟨n, hround, hnearest⟩
      · rintro ⟨m, hm, hnearest⟩
        cases hm.unique hround
        exact ⟨point_mem_fixedText mantissa exponent, hnearest⟩
  | arr elements => exact and_iff_left rfl
  | obj members => exact and_iff_left rfl

end Literals

/-! ## Statements -/

/-- A piece whose name or id is one token. -/
def Piece.Named : Piece → Prop
  | .name text => IsWord text.toList
  | .id text => IsWord text.toList ∨ IsNumeric text.toList
  | .token _ | .value _ => True

section Statements

variable (dumpDouble : Int → Int → String)

/-- The token that a piece is written as, if it has a name that is one. -/
def Piece.read : Piece → Token
  | .token t => t
  | .name text => .word text.toList
  | .id text => if IsWord text.toList then .word text.toList else .number text.toList
  | .value v => literal dumpDouble v

theorem isNumber_of_isNumeric {chars : List Char} (h : IsNumeric chars) : IsNumber chars := by
  obtain ⟨hne, hdigit⟩ := h
  obtain ⟨c, more, rfl⟩ := List.exists_cons_of_ne_nil hne
  rw [List.forall_mem_cons] at hdigit
  exact ⟨c, more, .inl rfl, hdigit.1, fun d hd => by simp [isNumberChar, hdigit.2 d hd]⟩

/-- An id that is an identifier or a number is one token. -/
theorem reads_id {id : String} (h : (Piece.id id).Named) :
    Reads id.toList [(Piece.id id).read dumpDouble] := by
  rw [Piece.read]
  split_ifs with hword
  · exact reads_word hword
  · exact reads_number (isNumber_of_isNumeric (h.resolve_left hword))

/-- A name, the sign and a value are three tokens. -/
theorem reads_comparison {field : String × Json} (h : IsWord field.1.toList) :
    Reads (comparison dumpDouble field).toList
      ((comparisonPieces field).map (Piece.read dumpDouble)) := by
  have htext : (comparison dumpDouble field).toList =
      field.1.toList ++ ' ' ::
        (['='] ++ ' ' :: (jsonToSurrealValue dumpDouble field.2).toList) := by
    simp [comparison]
  have hsign : Reads ['='] [.mark '='] := reads_mark (by decide) (by decide)
  rw [htext]
  exact (reads_word h).blank (hsign.blank (reads_jsonToSurrealValue dumpDouble field.2))

/-- The name of a comparison in a clause is a name of the clause. -/
theorem isWord_of_mem_fields {between : Token} {data : Std.TreeMap String Json}
    (h : ∀ piece ∈ clausePieces between data, piece.Named) {field : String × Json}
    (hfield : field ∈ data.toList) : IsWord field.1.toList :=
  h (.name field.1) (mem_intercalate_of_mem List.mem_cons_self (List.mem_map_of_mem hfield))

theorem reads_clause {separator : String} {between : Token}
    (hjoin : ∀ {a b : List Char} {ts us : List Token}, Reads a ts → Reads b us →
      Reads (a ++ (separator.toList ++ b)) (ts ++ between :: us))
    {data : Std.TreeMap String Json} (h : ∀ piece ∈ clausePieces between data, piece.Named) :
    Reads (separator.intercalate (data.toList.map (comparison dumpDouble))).toList
      ((clausePieces between data).map (Piece.read dumpDouble)) := by
  have hcomparison : ∀ field ∈ data.toList,
      Reads (comparison dumpDouble field).toList
        ((comparisonPieces field).map (Piece.read dumpDouble)) := fun field hfield =>
    reads_comparison dumpDouble (isWord_of_mem_fields h hfield)
  rw [String.toList_intercalate, clausePieces, map_intercalate, List.map_map, List.map_map]
  exact reads_intercalate hjoin hcomparison

/-- The text between two comparisons of a condition is a word with blanks around it, and between two
of an assignment a mark. -/
theorem reads_filterToWhere {filter : Std.TreeMap String Json}
    (h : ∀ piece ∈ clausePieces (.word "AND".toList) filter, piece.Named) :
    Reads (filterToWhere dumpDouble filter).toList
      ((clausePieces (.word "AND".toList) filter).map (Piece.read dumpDouble)) := by
  refine reads_clause dumpDouble (fun {a b ts us} ha hb => ?_) h
  have hand : IsWord "AND".toList := by decide
  exact ha.blank ((reads_word hand).blank hb)

theorem reads_buildSetClause {data : Std.TreeMap String Json}
    (h : ∀ piece ∈ clausePieces (.mark ',') data, piece.Named) :
    Reads (buildSetClause dumpDouble data).toList
      ((clausePieces (.mark ',') data).map (Piece.read dumpDouble)) := by
  refine reads_clause dumpDouble (fun {a b ts us} ha hb => ?_) h
  exact ha.mark (by decide) (by decide) (reads_nil.blank hb)

/-- A selection ends in two numbers. -/
theorem reads_append_limitClause {chars : List Char} {ts : List Token} (h : Reads chars ts)
    (limit page : Int) :
    Reads (chars ++ (buildLimitClause limit page).toList)
      (ts ++ [keyword "LIMIT", numeral (effectiveLimit limit), keyword "START",
        numeral (limitOffset limit page)].map (Piece.read dumpDouble)) := by
  have htext : (buildLimitClause limit page).toList =
      ' ' :: ("LIMIT".toList ++ ' ' :: ((toString (effectiveLimit limit)).toList ++ ' ' ::
        ("START".toList ++ ' ' :: (toString (limitOffset limit page)).toList))) := by
    simp [buildLimitClause]
  have hlimit : IsWord "LIMIT".toList := by decide
  have hstart : IsWord "START".toList := by decide
  have hoffset := reads_number (isNumber_toString (limitOffset limit page))
  rw [htext]
  exact h.blank ((reads_word hlimit).blank
    ((reads_number (isNumber_toString _)).blank ((reads_word hstart).blank hoffset)))

theorem toList_buildSelectQuery (entityName : String) (options : ListOptions) :
    (buildSelectQuery dumpDouble entityName options).toList =
      ("SELECT".toList ++ ' ' :: (['*'] ++ ' ' :: ("FROM".toList ++ ' ' :: entityName.toList))) ++
        (if options.filter.isEmpty then []
          else ' ' :: ("WHERE".toList ++ ' ' ::
            (filterToWhere dumpDouble (filterObject options.filter).fields).toList)) ++
        (buildLimitClause options.limit options.page).toList := by
  have hquery : buildSelectQuery dumpDouble entityName options = "SELECT * FROM " ++ entityName ++
      (if !options.filter.isEmpty then
        " WHERE " ++ filterToWhere dumpDouble (filterObject options.filter).fields
      else "") ++
      buildLimitClause options.limit options.page := rfl
  rw [hquery]
  by_cases hempty : options.filter.isEmpty = true
  · simp [hempty]
  · simp [hempty]

/-- **A statement whose names are tokens reads as its pieces.** -/
theorem reads_text {statement : Statement} (h : ∀ piece ∈ statement.template, piece.Named) :
    Reads (statement.text dumpDouble).toList (statement.template.map (Piece.read dumpDouble)) := by
  cases statement with
  | condition filter => exact reads_filterToWhere dumpDouble h
  | create entityName data =>
      simp only [Statement.template, List.cons_append, List.nil_append, List.forall_mem_cons] at h
      obtain ⟨-, hentity, -, hclause⟩ := h
      have htext : (buildCreateQuery dumpDouble entityName data).toList =
          "CREATE".toList ++ ' ' :: (entityName.toList ++ ' ' ::
            ("SET".toList ++ ' ' :: (buildSetClause dumpDouble data).toList)) := by
        simp [buildCreateQuery]
      rw [Statement.text, htext]
      have hcreate : IsWord "CREATE".toList := by decide
      have hset : IsWord "SET".toList := by decide
      exact (reads_word hcreate).blank ((reads_word hentity).blank
        ((reads_word hset).blank (reads_buildSetClause dumpDouble hclause)))
  | update entityName id data =>
      simp only [Statement.template, List.cons_append, List.nil_append, List.forall_mem_cons] at h
      obtain ⟨-, hentity, -, hid, -, hclause⟩ := h
      have htext : (buildUpdateQuery dumpDouble entityName id data).toList =
          "UPDATE".toList ++ ' ' :: (entityName.toList ++ ':' :: (id.toList ++ ' ' ::
            ("SET".toList ++ ' ' :: (buildSetClause dumpDouble data).toList))) := by
        simp [buildUpdateQuery]
      rw [Statement.text, htext]
      have hupdate : IsWord "UPDATE".toList := by decide
      have hset : IsWord "SET".toList := by decide
      have hrecord := (reads_id dumpDouble hid).blank
        ((reads_word hset).blank (reads_buildSetClause dumpDouble hclause))
      exact (reads_word hupdate).blank
        (Reads.mark (by decide) (by decide) (reads_word hentity) hrecord)
  | delete entityName id =>
      simp only [Statement.template, List.forall_mem_cons] at h
      obtain ⟨-, hentity, -, hid, -⟩ := h
      have htext : (buildDeleteQuery entityName id).toList =
          "DELETE".toList ++ ' ' :: (entityName.toList ++ ':' :: id.toList) := by
        simp [buildDeleteQuery]
      rw [Statement.text, htext]
      have hdelete : IsWord "DELETE".toList := by decide
      exact (reads_word hdelete).blank
        (Reads.mark (by decide) (by decide) (reads_word hentity) (reads_id dumpDouble hid))
  | select entityName options =>
      have hselect : IsWord "SELECT".toList := by decide
      have hfrom : IsWord "FROM".toList := by decide
      have hstar : Reads ['*'] [.mark '*'] := reads_mark (by decide) (by decide)
      have hentity : IsWord entityName.toList := h (.name entityName) (by simp [Statement.template])
      have htable : Reads ("SELECT".toList ++ ' ' :: (['*'] ++ ' ' ::
          ("FROM".toList ++ ' ' :: entityName.toList)))
          ([keyword "SELECT", .token (.mark '*'), keyword "FROM", .name entityName].map
            (Piece.read dumpDouble)) :=
        (reads_word hselect).blank (hstar.blank ((reads_word hfrom).blank (reads_word hentity)))
      rw [Statement.text, toList_buildSelectQuery, Statement.template]
      by_cases hempty : options.filter.isEmpty = true
      · rw [if_pos hempty, if_pos hempty, List.append_nil, List.append_nil, List.map_append]
        exact reads_append_limitClause dumpDouble htable options.limit options.page
      · have hwhere : IsWord "WHERE".toList := by decide
        have hclause : ∀ piece ∈ clausePieces (.word "AND".toList)
            (filterObject options.filter).fields, piece.Named := by
          intro piece hmem
          refine h piece ?_
          rw [Statement.template, if_neg hempty]
          exact List.mem_append_left _ (List.mem_append_right _ (List.mem_cons_of_mem _ hmem))
        rw [if_neg hempty, if_neg hempty, List.map_append, List.map_append]
        exact reads_append_limitClause dumpDouble (htable.blank ((reads_word hwhere).blank
          (reads_filterToWhere dumpDouble hclause))) options.limit options.page

/-- **A piece is what it is meant to be exactly when it can be written down.** -/
theorem matches_read_iff (stringified : Bool) {piece : Piece} (h : piece.Named) :
    piece.Matches dumpDouble stringified (piece.read dumpDouble) ↔ piece.Plain stringified := by
  cases piece with
  | token t => exact iff_of_true rfl trivial
  | name text => exact iff_of_true rfl h
  | id text =>
      refine iff_of_true ?_ h
      rw [Piece.read]
      split_ifs with hword
      · exact .inl rfl
      · exact .inr ⟨rfl, h.resolve_left hword⟩
  | value v => exact denotes_literal_iff dumpDouble stringified v

theorem named_of_plain {stringified : Bool} {piece : Piece} (h : piece.Plain stringified) :
    piece.Named := by
  cases piece with
  | token t => trivial
  | name text => exact h
  | id text => exact h
  | value v => trivial

/-- A name that is read is one token. -/
theorem named_of_matches {stringified : Bool} {chars : List Char} {ts : List Token}
    (h : tokens chars = some ts) {piece : Piece} {t : Token} (ht : t ∈ ts)
    (hmatches : piece.Matches dumpDouble stringified t) : piece.Named := by
  cases piece with
  | token t' => trivial
  | value v => trivial
  | name text =>
      cases hmatches
      exact isWord_of_tokens h ht
  | id text =>
      rcases hmatches with rfl | ⟨rfl, hnumeric⟩
      · exact .inl (isWord_of_tokens h ht)
      · exact .inr hnumeric

/-- **A statement reads as it is meant exactly when every name in it is bare, every id bare or a
number, and every value one that its literal stands for.** -/
theorem readsAsMeant_iff (stringified : Bool) (statement : Statement) :
    statement.ReadsAsMeant dumpDouble stringified ↔
      ∀ piece ∈ statement.template, piece.Plain stringified := by
  constructor
  · rintro ⟨ts, hread, hmatches⟩
    have hnamed : ∀ piece ∈ statement.template, piece.Named := by
      intro piece hpiece
      obtain ⟨t, ht, hmatch⟩ := Store.exists_of_forall₂ hmatches hpiece
      exact named_of_matches dumpDouble hread ht hmatch
    have heq := (reads_text dumpDouble hnamed).tokens_eq
    obtain rfl := Option.some.inj (hread.symm.trans heq)
    rw [List.forall₂_map_right_iff, List.forall₂_same] at hmatches
    exact fun piece hpiece => (matches_read_iff dumpDouble stringified (hnamed piece hpiece)).1
      (hmatches piece hpiece)
  · intro hplain
    have hnamed : ∀ piece ∈ statement.template, piece.Named := fun piece hpiece =>
      named_of_plain (hplain piece hpiece)
    refine ⟨_, (reads_text dumpDouble hnamed).tokens_eq, ?_⟩
    rw [List.forall₂_map_right_iff, List.forall₂_same]
    exact fun piece hpiece => (matches_read_iff dumpDouble stringified (hnamed piece hpiece)).2
      (hplain piece hpiece)

end Statements

/-- **A name that sets a role**: one field of a record is read as two. -/
theorem field_name_sets_role :
    buildCreateQuery (fun _ _ => "") "users"
        (Json.obj [("role = 'admin', note", .str "hi")]).fields =
      "CREATE users SET role = 'admin', note = 'hi'" ∧
    ¬ (Statement.create "users"
        (Json.obj [("role = 'admin', note", .str "hi")]).fields).ReadsAsMeant
          (fun _ _ => "") true := by
  have hfields : (Json.obj [("role = 'admin', note", .str "hi")]).fields.toList =
      [("role = 'admin', note", .str "hi")] := rfl
  have hquote : quoteString "hi" = "'hi'" := by decide +kernel
  have htext : buildCreateQuery (fun _ _ => "") "users"
      (Json.obj [("role = 'admin', note", .str "hi")]).fields =
      "CREATE users SET role = 'admin', note = 'hi'" := by
    simp [buildCreateQuery, buildSetClause, hfields, comparison, jsonToSurrealValue, hquote]
  refine ⟨htext, ?_⟩
  rintro ⟨ts, hread, hmatches⟩
  have htokens : tokens "CREATE users SET role = 'admin', note = 'hi'".toList =
      some [.word "CREATE".toList, .word "users".toList, .word "SET".toList,
        .word "role".toList, .mark '=', .string "admin".toList, .mark ',',
        .word "note".toList, .mark '=', .string "hi".toList] := by
    decide +kernel
  rw [Statement.text, htext, htokens] at hread
  cases hread
  -- Six pieces are meant, and ten tokens are read.
  exact absurd hmatches.length_eq (by decide +kernel)

end SurrealDB
end Dbal
