/-
# A table with a primary key

The statements that write one row and read it back, over a table whose rows differ in their key.
Nothing is returned by an `INSERT` or an `UPDATE` but the number of rows that it changed, so what
was written is known from a second statement: by the key, which leads to one row
(`filter_key`), or by the greatest value of another column, which several rows may share
(`exists_latest`).
-/

import Dbal.Sql.Condition
import Dbal.Sql.Spelling
import Dbal.Store.UniqueIndex
import Mathlib.Data.List.Rotate
import Mathlib.Order.Lattice

namespace Dbal
namespace Sql

/-- A row: what its columns hold, where an empty text is `NULL`. -/
abbrev TableRow : Type := Std.TreeMap String String

namespace TableRow

/-- What a column holds. -/
def value (column : String) (tuple : TableRow) : String := tuple[column]?.getD ""

/-- The row with these columns set. -/
def set (tuple : TableRow) (assignments : List (String × String)) : TableRow :=
  assignments.foldl (fun tuple assignment => tuple.insert assignment.1 assignment.2) tuple

theorem value_insert (tuple : TableRow) (column column' text : String) :
    value column (tuple.insert column' text) =
      if column' = column then text else value column tuple := by
  rw [value, getElem?_insert_eq]
  split_ifs with h
  · rfl
  · rfl

/-- **The columns that are set hold what they are set to, the others what they held.** -/
theorem value_set (f : String → String) (column : String) :
    ∀ (columns : List String) (tuple : TableRow),
      value column (tuple.set (columns.map fun name => (name, f name))) =
        if column ∈ columns then f column else value column tuple
  | [], _ => rfl
  | name :: columns, tuple => by
      have ih := value_set f column columns (tuple.insert name (f name))
      rw [value_insert] at ih
      rw [List.map_cons, set, List.foldl_cons]
      refine ih.trans ?_
      by_cases hmem : column ∈ columns
      · rw [if_pos hmem, if_pos (List.mem_cons_of_mem _ hmem)]
      · rw [if_neg hmem]
        by_cases hname : name = column
        · subst hname
          rw [if_pos rfl, if_pos List.mem_cons_self]
        · rw [if_neg hname, if_neg fun h => (List.mem_cons.1 h).elim (fun h => hname h.symm) hmem]

end TableRow

open TableRow

/-! ### Rows and their key -/

/-- A primary key: every row has one, and no two the same. -/
def IsKey (key : String) (rows : List TableRow) : Prop :=
  (rows.map (value key)).Nodup ∧ ∀ row ∈ rows, value key row ≠ ""

instance (key : String) (rows : List TableRow) : Decidable (IsKey key rows) :=
  inferInstanceAs (Decidable (_ ∧ _))

/-- The rows of a table. -/
structure Table (key : String) where
  rows : List TableRow
  isKey : IsKey key rows

variable {key : String} {rows : List TableRow}

/-- **A key leads to one row.** -/
theorem filter_key : ∀ {rows : List TableRow}, (rows.map (value key)).Nodup → ∀ {row : TableRow},
    row ∈ rows → rows.filter (fun other => value key other = value key row) = [row]
  | [], _, _, hrow => nomatch hrow
  | first :: rows, hnodup, row, hrow => by
      rw [List.map_cons, List.nodup_cons] at hnodup
      obtain ⟨hfirst, hrest⟩ := hnodup
      rcases List.mem_cons.1 hrow with rfl | hrow
      · rw [List.filter_cons_of_pos (by simp)]
        refine congrArg (List.cons row) (List.filter_eq_nil_iff.2 fun other hother heq => ?_)
        exact hfirst (List.mem_map.2 ⟨other, hother, of_decide_eq_true heq⟩)
      · have hne : value key first ≠ value key row := fun heq =>
          hfirst (heq ▸ List.mem_map_of_mem hrow)
        rw [List.filter_cons_of_neg (by simp [hne])]
        exact filter_key hrest hrow

/-- The row with this key changes, the others stay. -/
def updateRows (key text : String) (assignments : List (String × String)) (rows : List TableRow) :
    List TableRow :=
  rows.map fun row => if value key row = text then row.set assignments else row

/-- How many rows change: those with this key that hold something else. -/
def changed (key text : String) (assignments : List (String × String)) (rows : List TableRow) :
    Nat :=
  rows.countP fun row => value key row = text ∧
    ∃ assignment ∈ assignments, value assignment.1 (row.set assignments) ≠ value assignment.1 row

section

variable {text : String} {columns : List String} {f : String → String}

/-- Setting other columns leaves the key. -/
theorem value_key_updated (hkey : key ∉ columns) (row : TableRow) :
    value key (if value key row = text then row.set (columns.map fun name => (name, f name))
      else row) = value key row := by
  split_ifs
  · rw [value_set, if_neg hkey]
  · rfl

/-- **Setting other columns keeps the key.** -/
theorem isKey_updateRows (hkey : key ∉ columns) (h : IsKey key rows) :
    IsKey key (updateRows key text (columns.map fun name => (name, f name)) rows) := by
  obtain ⟨hnodup, hfilled⟩ := h
  constructor
  · have hkeys : (updateRows key text (columns.map fun name => (name, f name)) rows).map
        (value key) = rows.map (value key) := by
      rw [updateRows, List.map_map]
      exact List.map_congr_left fun row _ => value_key_updated hkey row
    rwa [hkeys]
  · intro row hrow
    obtain ⟨before, hbefore, rfl⟩ := List.mem_map.1 hrow
    rw [value_key_updated hkey]
    exact hfilled before hbefore

/-- The key leads to the row as it is after the update. -/
theorem filter_updateRows (hkey : key ∉ columns) (h : IsKey key rows) {row : TableRow}
    (hrow : row ∈ rows) :
    (updateRows key (value key row) (columns.map fun name => (name, f name)) rows).filter
        (fun other => value key other = value key row) =
      [row.set (columns.map fun name => (name, f name))] := by
  have hset : row.set (columns.map fun name => (name, f name)) ∈
      updateRows key (value key row) (columns.map fun name => (name, f name)) rows :=
    List.mem_map.2 ⟨row, hrow, if_pos rfl⟩
  have hvalue : value key (row.set (columns.map fun name => (name, f name))) = value key row := by
    rw [value_set, if_neg hkey]
  have hfilter := filter_key (isKey_updateRows hkey h).1 hset
  rwa [hvalue] at hfilter

/-- **No row is counted exactly when the rows with this key hold already what they are set to.** -/
theorem changed_eq_zero_iff :
    changed key text (columns.map fun name => (name, f name)) rows = 0 ↔
      ∀ row ∈ rows, value key row = text → ∀ column ∈ columns, value column row = f column := by
  have hvalue : ∀ column ∈ columns, ∀ row : TableRow,
      value column (row.set (columns.map fun name => (name, f name))) = f column := by
    intro column hcolumn row
    rw [value_set, if_pos hcolumn]
  rw [changed, List.countP_eq_zero]
  refine forall₂_congr fun row hrow => ?_
  simp only [decide_eq_true_eq, not_and, not_exists, not_not, List.forall_mem_map]
  refine forall_congr' fun htext => forall₂_congr fun column hcolumn => ?_
  rw [hvalue column hcolumn, eq_comm]

end

/-! ### The latest row -/

/-- What a database decides for itself: the row that an `INSERT` starts from, and the order of the
values of a column. -/
structure Engine (κ : Type) where
  defaults : List TableRow → TableRow
  rank : String → κ

/-- The order in which a scan meets the rows. -/
structure Visit where
  order : List TableRow → List TableRow
  perm : ∀ rows, (order rows).Perm rows

variable {κ : Type} [LinearOrder κ] (E : Engine κ)

/-- No row has a greater value in the column. -/
def IsLatest (column : String) (rows : List TableRow) (row : TableRow) : Prop :=
  ∀ other ∈ rows, E.rank (value column other) ≤ E.rank (value column row)

instance (column : String) (rows : List TableRow) (row : TableRow) :
    Decidable (IsLatest E column rows row) := List.decidableBAll _ _

/-- The first row that is met of those. -/
def latest (visit : Visit) (column : String) (rows : List TableRow) : Option TableRow :=
  (visit.order rows).find? fun row => IsLatest E column rows row

variable {E} {column : String}

theorem isLatest_of_latest {visit : Visit} {row : TableRow}
    (h : latest E visit column rows = some row) : row ∈ rows ∧ IsLatest E column rows row := by
  rw [latest] at h
  have hlatest := List.find?_some h
  exact ⟨(visit.perm rows).mem_iff.1 (List.mem_of_find?_eq_some h), of_decide_eq_true hlatest⟩

/-- The scan that begins with the row at this place. -/
def Visit.startingAt (start : Nat) : Visit where
  order rows := rows.rotate start
  perm rows := List.rotate_perm rows start

/-- **Any of the latest rows may be the one that is met first.** -/
theorem exists_latest {row : TableRow} (hrow : row ∈ rows) (h : IsLatest E column rows row) :
    ∃ visit, latest E visit column rows = some row := by
  obtain ⟨i, hi, hget⟩ := List.mem_iff_getElem.1 hrow
  refine ⟨.startingAt i, ?_⟩
  have hhead : (rows.rotate i).head? = some row := by
    rw [List.head?_rotate hi, List.getElem?_eq_getElem hi, hget]
  obtain ⟨rest, hrest⟩ := List.head?_eq_some_iff.1 hhead
  rw [latest, Visit.startingAt]
  dsimp only
  rw [hrest, List.find?_cons, decide_eq_true h]

/-! ### Statements -/

/-- The statements on one row. -/
inductive Command where
  | insert (columns : List String)
  | update (columns : List String)
  | select
  /-- The row with the greatest value in a column. -/
  | latest (column : String)
  deriving DecidableEq, Repr

namespace Command

/-- How a statement reads. -/
def tokens (table key : String) : Command → List Token
  | insert columns =>
      [.word "INSERT", .word "INTO", .ident table, .lparen] ++
        joinTokens .comma (columns.map fun column => [.ident column]) ++
        [.rparen, .word "VALUES", .lparen] ++
        joinTokens .comma (columns.map fun _ => [.param none]) ++ [.rparen]
  | update columns =>
      [.word "UPDATE", .ident table, .word "SET"] ++
        joinTokens .comma (columns.map fun column => [.ident column, .eq, .param none]) ++
        [.kw .where, .ident key, .eq, .param none]
  | select =>
      [.word "SELECT", .star, .word "FROM", .ident table, .kw .where, .ident key, .eq, .param none]
  | latest column =>
      [.word "SELECT", .star, .word "FROM", .ident table, .word "ORDER", .word "BY", .ident column,
        .word "DESC", .word "LIMIT", .num "1"]

/-- The columns that a statement names. -/
def columns (key : String) : Command → List String
  | insert columns => columns
  | update columns => columns ++ [key]
  | select => [key]
  | latest column => [column]

/-- The identifiers of a text. -/
def idents : List Token → List String
  | [] => []
  | .ident name :: ts => name :: idents ts
  | _ :: ts => idents ts

@[simp] theorem idents_append (ts us : List Token) :
    idents (ts ++ us) = idents ts ++ idents us := by
  induction ts with
  | nil => rfl
  | cons t ts ih => cases t <;> simp [idents, ih]

theorem idents_joinTokens {sep : Token} (hsep : idents [sep] = []) :
    ∀ tss : List (List Token), idents (joinTokens sep tss) = tss.flatMap idents
  | [] => rfl
  | [ts] => by simp [joinTokens]
  | ts :: us :: tss => by
      rw [joinTokens, idents_append, ← List.singleton_append, idents_append, hsep,
        idents_joinTokens hsep (us :: tss)]
      rfl

theorem ident_mem_iff {name : String} {ts : List Token} : .ident name ∈ ts ↔ name ∈ idents ts := by
  induction ts with
  | nil => simp [idents]
  | cons t ts ih => cases t <;> simp [idents, ih]

/-- The statement with these identifiers that begins as the text does. -/
def candidate (key : String) (ts : List Token) (names : List String) : Command :=
  if ts.head? = some (.word "INSERT") then insert names
  else if ts.head? = some (.word "UPDATE") then update names.dropLast
  else if .kw .where ∈ ts then select
  else latest (names.headD key)

/-- The statement that a text reads as. -/
def parse (table key : String) (ts : List Token) : Option Command :=
  let command := candidate key ts (idents ts).tail
  if command.tokens table key = ts then some command else none

theorem idents_tokens (table key : String) (command : Command) :
    idents (command.tokens table key) = table :: command.columns key := by
  cases command with
  | insert columns =>
      have hnames : (columns.map fun column => [Token.ident column]).flatMap idents = columns := by
        rw [List.flatMap_map]
        exact List.flatMap_singleton' columns
      have hmarks : (columns.map fun _ => [Token.param none]).flatMap idents = [] := by
        rw [List.flatMap_map]
        exact List.flatMap_eq_nil_iff.2 fun _ _ => rfl
      have hcomma : idents [.comma] = [] := rfl
      simp only [tokens, idents_append, idents_joinTokens hcomma, hnames, hmarks]
      simp [idents, Command.columns]
  | update columns =>
      have hnames : (columns.map fun column => [Token.ident column, .eq, .param none]).flatMap
          idents = columns := by
        rw [List.flatMap_map]
        exact List.flatMap_singleton' columns
      have hcomma : idents [.comma] = [] := rfl
      simp only [tokens, idents_append, idents_joinTokens hcomma, hnames]
      simp [idents, Command.columns]
  | select => rfl
  | latest column => rfl

/-- A statement whose table and columns have no quote in their names. -/
theorem unquoted {q : Char} {table key : String} {command : Command} (htable : q ∉ table.toList)
    (hcolumns : ∀ column ∈ command.columns key, q ∉ column.toList) :
    Unquoted q (command.tokens table key) := by
  intro name hname
  have hmem := ident_mem_iff.1 hname
  rw [idents_tokens] at hmem
  rcases List.mem_cons.1 hmem with rfl | hcolumn
  · exact htable
  · exact hcolumns name hcolumn

/-- **A statement is read back.** -/
theorem parse_tokens (table key : String) (command : Command) :
    parse table key (command.tokens table key) = some command := by
  have hcandidate : candidate key (command.tokens table key) (command.columns key) = command := by
    cases command with
    | insert columns => rfl
    | update columns => exact congrArg update List.dropLast_concat
    | select => rfl
    | latest column => rfl
  rw [parse, idents_tokens, List.tail_cons, hcandidate]
  exact if_pos rfl

/-- The rows that an accepted write leaves; one that breaks the key is refused. -/
def store (table : Table key) (rows : List TableRow) (affected : Nat) :
    Option (List TableRow × Nat) × Table key :=
  if h : IsKey key rows then (some ([], affected), ⟨rows, h⟩) else (none, table)

theorem store_of_isKey (table : Table key) (h : IsKey key rows) (affected : Nat) :
    store table rows affected = (some ([], affected), ⟨rows, h⟩) := dif_pos h

theorem store_of_not_isKey (table : Table key) (h : ¬ IsKey key rows) (affected : Nat) :
    store table rows affected = (none, table) := dif_neg h

variable (E) in
/-- What a statement with these values does: the rows that it returns and how many it changed, or
nothing where it is refused.  The value of the key comes last. -/
def run (visit : Visit) (table : Table key) (values : List String) :
    Command → Option (List TableRow × Nat) × Table key
  | insert columns =>
      store table (table.rows ++ [(E.defaults table.rows).set (columns.zip values)]) 1
  | update columns =>
      let text := values.getLastD ""
      let assignments := columns.zip values
      store table (updateRows key text assignments table.rows)
        (changed key text assignments table.rows)
  | select =>
      (some (table.rows.filter fun row => value key row = values.getLastD "", 0), table)
  | latest column => (some ((Sql.latest E visit column table.rows).toList, 0), table)

end Command

end Sql
end Dbal
