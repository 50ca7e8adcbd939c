/-
# The statements of `SqlWhereBuilder` as templates

What the texts of `SqlWhereBuilder` are to read as.  A placeholder carries its number where the
dialect writes one, so a template is placed at the index of its first placeholder (`placed`).  A run
of the builder writes a text that spells its template, placed at the index the run began with, and
leaves the index past its slots (`Wrote`).
-/

import Dbal.Adapters.SQLiteTemplates
import Dbal.Adapters.WhereClause

namespace Dbal
namespace SqlWhereBuilder

open Sql
open SQLiteQueryBuilder (Role comparePieces operandsPieces equalsPieces slots_operandsPieces
  orderPieces)

/-! ### Templates with numbered placeholders -/

/-- The placeholder with the number `k`, as `ph` writes it. -/
def phToken (d : String) (k : Nat) : Token := .param (if numbered d then some k else none)

/-- The tokens of a template whose first placeholder has the number `k`. -/
def placed (d : String) (k : Nat) (ps : List (Piece Role)) : List Token :=
  if numbered d then numberParams k (tokensOf ps) else tokensOf ps

@[simp] theorem placed_nil (d : String) (k : Nat) : placed d k [] = [] := by
  unfold placed
  split <;> rfl

@[simp] theorem placed_slot (d : String) (k : Nat) (role : Role) (ps : List (Piece Role)) :
    placed d k (.slot role :: ps) = phToken d k :: placed d (k + 1) ps := by
  unfold placed phToken
  split <;> rfl

/-- A piece that is no slot has no number. -/
theorem placed_cons {d : String} {p : Piece Role} (hp : slots [p] = []) (k : Nat)
    (ps : List (Piece Role)) : placed d k (p :: ps) = p.token :: placed d k ps := by
  unfold placed
  cases p with
  | slot role => exact nomatch hp
  | cmp op => cases op <;> split <;> rfl
  | _ => split <;> rfl

@[simp] theorem placed_ident (d : String) (k : Nat) (s : String) (ps : List (Piece Role)) :
    placed d k (.ident s :: ps) = .ident s :: placed d k ps := placed_cons rfl k ps

@[simp] theorem placed_kw (d : String) (k : Nat) (w : Keyword) (ps : List (Piece Role)) :
    placed d k (.kw w :: ps) = .kw w :: placed d k ps := placed_cons rfl k ps

@[simp] theorem placed_word (d : String) (k : Nat) (s : String) (ps : List (Piece Role)) :
    placed d k (.word s :: ps) = .word s :: placed d k ps := placed_cons rfl k ps

@[simp] theorem placed_num (d : String) (k : Nat) (s : String) (ps : List (Piece Role)) :
    placed d k (.num s :: ps) = .num s :: placed d k ps := placed_cons rfl k ps

@[simp] theorem placed_cmp (d : String) (k : Nat) (op : CmpOp) (ps : List (Piece Role)) :
    placed d k (.cmp op :: ps) = op.token :: placed d k ps := placed_cons rfl k ps

@[simp] theorem placed_lparen (d : String) (k : Nat) (ps : List (Piece Role)) :
    placed d k (.lparen :: ps) = .lparen :: placed d k ps := placed_cons rfl k ps

@[simp] theorem placed_rparen (d : String) (k : Nat) (ps : List (Piece Role)) :
    placed d k (.rparen :: ps) = .rparen :: placed d k ps := placed_cons rfl k ps

@[simp] theorem placed_append (d : String) : ∀ (ps qs : List (Piece Role)) (k : Nat),
    placed d k (ps ++ qs) = placed d k ps ++ placed d (k + (slots ps).length) qs
  | [], qs, k => by rw [placed_nil]; rfl
  | p :: ps, qs, k => by
      have ih := placed_append d ps qs
      by_cases hp : slots [p] = []
      · rw [List.cons_append, placed_cons hp, placed_cons hp, ih k, slots_cons hp, List.cons_append]
      · cases p with
        | slot role =>
            rw [List.cons_append, placed_slot, placed_slot, ih (k + 1), List.cons_append]
            simp only [slots, List.length_cons, Nat.add_assoc, Nat.add_comm 1]
        | _ => exact absurd rfl hp

/-- Where a template stands does not matter when it has no slots. -/
theorem placed_of_slots {d : String} {k : Nat} {ps : List (Piece Role)} (h : slots ps = []) :
    placed d k ps = tokensOf ps := by
  induction ps with
  | nil => exact placed_nil d k
  | cons p ps ih =>
      rw [← List.singleton_append, slots_append, List.append_eq_nil_iff] at h
      rw [placed_cons h.1, ih h.2, tokensOf_cons]

theorem ident_mem_numberParams {name : String} :
    ∀ {ts : List Token} {k : Nat}, .ident name ∈ numberParams k ts ↔ .ident name ∈ ts
  | [], _ => Iff.rfl
  | t :: ts, k => by
      cases t with
      | param n => cases n <;> simp [numberParams, @ident_mem_numberParams name ts]
      | _ => simp [numberParams, @ident_mem_numberParams name ts]

/-- Numbers are no names. -/
theorem unquoted_placed {q : Char} {d : String} {k : Nat} {ps : List (Piece Role)} :
    Unquoted q (placed d k ps) ↔ ∀ name ∈ names ps, q ∉ name.toList := by
  rw [← unquoted_tokensOf, placed]
  split
  · simp only [Unquoted, ident_mem_numberParams]
  · exact Iff.rfl

/-! ### Texts in the dialect -/

/-- The text spells the template, placed at `k`. -/
def Writes (d : String) (k : Nat) (s : String) (ps : List (Piece Role)) : Prop :=
  Spells (quoteChar d) s (placed d k ps)

theorem spells_quoteId (d name : String) : Spells (quoteChar d) (quoteId name d) [.ident name] :=
  .quoted (isQuote_quoteChar d) (by
    unfold quoteId quoteChar
    split <;> simp)

theorem spells_ph (d : String) (k : Nat) : Spells (quoteChar d) (ph k d) [phToken d k] := by
  have hq := isQuote_quoteChar d
  have hmark : Spells (quoteChar d) "?" [.param none] := .fixed hq (by decide)
  unfold ph phToken
  by_cases hd : d = "postgresql" ∨ d = "postgres"
  · have hn : numbered d = true := by simpa [numbered] using hd
    have htext : ("$" ++ toString k : String).toList = '$' :: (toString k).toList := by simp
    rw [if_pos hd, hn]
    refine ⟨fun _ => htext ▸ tokens_dollar k, ?_⟩
    have hdigits : quoteChar d ∉ (toString k).toList := by
      intro hmem
      have hdig : (toString k).toList = Nat.toDigits 10 k := by simp
      have hisDigit := Nat.isDigit_of_mem_toDigits (by decide) (by decide) (hdig ▸ hmem)
      rcases hq with hq | hq <;> rw [hq] at hisDigit <;> exact absurd hisDigit (by decide)
    have hdollar : quoteChar d ≠ '$' := by rcases hq with hq | hq <;> rw [hq] <;> decide
    rw [htext, List.count_cons_of_ne hdollar.symm, List.count_eq_zero_of_not_mem hdigits]
    exact Nat.zero_le _
  · have hn : numbered d = false := by simpa [numbered] using hd
    rw [if_neg hd, hn]
    exact hmark

/-- Texts one after the other, each placed where the one before it ended. -/
inductive WritesAll (d : String) : Nat → List String → List (List (Piece Role)) → Prop where
  | nil {k : Nat} : WritesAll d k [] []
  | cons {k : Nat} {s : String} {ss : List String} {ps : List (Piece Role)}
      {pss : List (List (Piece Role))} : Writes d k s ps →
      WritesAll d (k + (slots ps).length) ss pss → WritesAll d k (s :: ss) (ps :: pss)

theorem WritesAll.append {d : String} {ss' : List String} {pss' : List (List (Piece Role))} :
    ∀ {k : Nat} {ss : List String} {pss : List (List (Piece Role))}, WritesAll d k ss pss →
      WritesAll d (k + (pss.flatMap slots).length) ss' pss' →
      WritesAll d k (ss ++ ss') (pss ++ pss')
  | _, _, _, .nil, h' => h'
  | _, _, _, .cons h hs, h' => by
      refine .cons h (hs.append ?_)
      rwa [List.flatMap_cons, List.length_append, ← Nat.add_assoc] at h'

/-- **Joined texts spell the joined templates.** -/
theorem WritesAll.join {d sep : String} {p : Piece Role} (hp : slots [p] = [])
    (hsep : ∀ {a b : String} {ta tb : List Token}, Spells (quoteChar d) a ta →
      Spells (quoteChar d) b tb → Spells (quoteChar d) (a ++ sep ++ b) (ta ++ p.token :: tb)) :
    ∀ {k : Nat} {ss : List String} {pss : List (List (Piece Role))}, WritesAll d k ss pss →
      Writes d k (SqlWhereBuilder.join ss sep) (joinPieces p pss)
  | k, _, _, .nil => Spells.empty.congr rfl (placed_nil d k)
  | _, _, _, .cons h .nil => h
  | _, _, _, .cons h (.cons h' hs) => by
      refine (hsep h (WritesAll.join hp hsep (.cons h' hs))).congr rfl ?_
      rw [joinPieces, placed_append, placed_cons hp]

theorem WritesAll.commas {d : String} {k : Nat} {ss : List String}
    {pss : List (List (Piece Role))} (h : WritesAll d k ss pss) :
    Writes d k (SqlWhereBuilder.join ss ", ") (joinPieces .comma pss) :=
  h.join rfl fun ha hb => ha.comma (isQuote_quoteChar d) hb

theorem WritesAll.ands {d : String} {k : Nat} {ss : List String} {pss : List (List (Piece Role))}
    (h : WritesAll d k ss pss) :
    Writes d k (SqlWhereBuilder.join ss " AND ") (joinPieces (.kw .and) pss) :=
  have hand : Spells (quoteChar d) "AND" [.kw .and] := .fixed (isQuote_quoteChar d) (by decide)
  h.join rfl fun ha hb => ha.word (isQuote_quoteChar d) hand hb rfl

theorem WritesAll.ors {d : String} {k : Nat} {ss : List String} {pss : List (List (Piece Role))}
    (h : WritesAll d k ss pss) :
    Writes d k (SqlWhereBuilder.join ss " OR ") (joinPieces (.kw .or) pss) :=
  have hor : Spells (quoteChar d) "OR" [.kw .or] := .fixed (isQuote_quoteChar d) (by decide)
  h.join rfl fun ha hb => ha.word (isQuote_quoteChar d) hor hb rfl

/-! ### Runs of the builder -/

/-- A step of the builder that writes a text for the template and counts its slots. -/
def Wrote (d : String) (st st' : BuilderState) (s : String) (ps : List (Piece Role)) : Prop :=
  Writes d st.paramIndex s ps ∧ st'.paramIndex = st.paramIndex + (slots ps).length

/-- Steps that write one text after the other. -/
def WroteAll (d : String) (st st' : BuilderState) (ss : List String)
    (pss : List (List (Piece Role))) : Prop :=
  WritesAll d st.paramIndex ss pss ∧ st'.paramIndex = st.paramIndex + (pss.flatMap slots).length

theorem WroteAll.append {d : String} {st st' st'' : BuilderState} {ss ss' : List String}
    {pss pss' : List (List (Piece Role))} (h : WroteAll d st st' ss pss)
    (h' : WroteAll d st' st'' ss' pss') : WroteAll d st st'' (ss ++ ss') (pss ++ pss') := by
  refine ⟨h.1.append (h.2 ▸ h'.1), ?_⟩
  rw [h'.2, h.2, List.flatMap_append, List.length_append, Nat.add_assoc]

theorem Wrote.all {d s : String} {st st' : BuilderState} {ps : List (Piece Role)}
    (h : Wrote d st st' s ps) : WroteAll d st st' [s] [ps] :=
  ⟨.cons h.1 .nil, by rw [h.2, List.flatMap_cons, List.flatMap_nil, List.append_nil]⟩

/-- A text without placeholders. -/
theorem Wrote.fixed {d s : String} (st : BuilderState) {ps : List (Piece Role)}
    (hps : slots ps = []) (h : Spells (quoteChar d) s (tokensOf ps)) : Wrote d st st s ps :=
  ⟨h.congr rfl (placed_of_slots hps), by rw [hps]; rfl⟩

/-- **A column, an operator and one placeholder.** -/
theorem binary_wrote {cond : FilterCondition} {d op s : String} {st st' : BuilderState} (w : String)
    {p : Piece Role} (hop : op = " " ++ w ++ " ")
    (hw : BothQuotes fun q => tokens q w.toList = some [p.token] ∧ q ∉ w.toList)
    (hp : slots [p] = []) (h : binary cond op d st = .ok (s, st')) :
    Wrote d st st' s [.ident cond.field, p, .slot (.operand cond 0)] := by
  simp only [binary, bind_ok, pure_ok] at h
  obtain ⟨_, st₁, hp', rfl, rfl⟩ := h
  obtain ⟨rfl, rfl⟩ := bindParam_ok hp'
  have hq := isQuote_quoteChar d
  refine ⟨?_, by rw [slots_cons rfl, slots_cons hp]; rfl⟩
  refine ((spells_quoteId d cond.field).word hq (.fixed hq hw) (spells_ph d st.paramIndex)
    hop).congr rfl ?_
  rw [placed_ident, placed_cons hp, placed_slot, placed_nil]
  rfl

/-- The placeholders of a list. -/
theorem operands_wrote {cond : FilterCondition} {d opStr s : String} {st st' : BuilderState}
    {lead : List (Piece Role)} (hlead : slots lead = [])
    (hw : Spells (quoteChar d) opStr (tokensOf lead))
    (h : (do let placeholders ← bindAll cond.field d cond.values
             return quoteId cond.field d ++ " " ++ opStr ++ " (" ++
               join placeholders ", " ++ ")" : Builder String) st = .ok (s, st')) :
    Wrote d st st' s (.ident cond.field :: lead ++ operandsPieces cond) := by
  simp only [bind_ok, pure_ok] at h
  obtain ⟨_, st₁, hps, rfl, rfl⟩ := h
  obtain ⟨rfl, rfl⟩ := bindAll_ok hps
  have hq := isQuote_quoteChar d
  have hmarks : ∀ (is : List Nat) (k : Nat), WritesAll d k
      ((List.range' k is.length).map (ph · d))
      (is.map fun i => [Piece.slot (Role.operand cond i)]) := by
    intro is
    induction is with
    | nil => exact fun k => .nil
    | cons i is ih =>
        intro k
        rw [List.length_cons, List.range'_succ]
        refine .cons ((spells_ph d k).congr rfl ?_) (ih (k + 1))
        rw [placed_slot, placed_nil]
  have hlist := (hmarks (List.range cond.values.length) st.paramIndex).commas
  rw [List.length_range] at hlist
  have hslots : slots (operandsPieces cond) =
      (List.range cond.values.length).map (Role.operand cond) := slots_operandsPieces cond
  constructor
  · refine (((spells_quoteId d cond.field).blank hq hw).bracket_blank hq hlist).congr rfl ?_
    rw [placed_append, placed_ident, placed_of_slots hlead, slots_cons rfl, hlead, operandsPieces]
    simp
  · rw [slots_append, slots_cons rfl, hlead, hslots]
    simp

/-- What a condition is to read as. -/
def conditionPieces (d : String) (cond : FilterCondition) : List (Piece Role) :=
  match cond.op with
  | .iLike =>
      if numbered d then [.ident cond.field, .kw .ilike, .slot (.operand cond 0)]
      else SQLiteQueryBuilder.conditionPieces cond
  | .in | .notIn =>
      if cond.values = [] then [.num "1", .cmp .eq, .num "0"]
      else SQLiteQueryBuilder.conditionPieces cond
  | .between =>
      if cond.values.length < 2 then [.num "1", .cmp .eq, .num "1"]
      else SQLiteQueryBuilder.conditionPieces cond
  | _ => SQLiteQueryBuilder.conditionPieces cond

/-- **A condition spells its template.** -/
theorem buildCondition_wrote {cond : FilterCondition} {d s : String} {st st' : BuilderState}
    (h : buildCondition cond d st = .ok (s, st')) :
    Wrote d st st' s (conditionPieces d cond) := by
  rcases cond with ⟨field, op, value, values⟩
  have hq := isQuote_quoteChar d
  unfold buildCondition at h
  cases op with
  | eq => exact binary_wrote "=" (p := .cmp .eq) rfl (by decide) rfl h
  | ne => exact binary_wrote "<>" (p := .cmp .ne) rfl (by decide) rfl h
  | lt => exact binary_wrote "<" (p := .cmp .lt) rfl (by decide) rfl h
  | lte => exact binary_wrote "<=" (p := .cmp .le) rfl (by decide) rfl h
  | gt => exact binary_wrote ">" (p := .cmp .gt) rfl (by decide) rfl h
  | gte => exact binary_wrote ">=" (p := .cmp .ge) rfl (by decide) rfl h
  | like => exact binary_wrote "LIKE" (p := .kw .like) rfl (by decide) rfl h
  | iLike =>
      have hnum : numbered d = decide (d = "postgresql" ∨ d = "postgres") := rfl
      by_cases hd : d = "postgresql" ∨ d = "postgres"
      · rw [if_pos hd] at h
        simp only [conditionPieces, hnum, hd, decide_true, if_true]
        exact binary_wrote "ILIKE" (p := .kw .ilike) rfl (by decide) rfl h
      · simp only [hd, if_false, bind_ok, pure_ok] at h
        obtain ⟨_, st₁, hp, rfl, rfl⟩ := h
        obtain ⟨rfl, rfl⟩ := bindParam_ok hp
        have hlower : Spells (quoteChar d) "LOWER" [.word "LOWER"] := .fixed hq (by decide)
        have hlike : Spells (quoteChar d) "LIKE" [.kw .like] := .fixed hq (by decide)
        have hside := hlower.bracket hq (spells_quoteId d field)
        have hother := hlower.bracket hq (spells_ph d st.paramIndex)
        simp only [conditionPieces, hnum, hd, decide_false, Bool.false_eq_true, if_false]
        refine ⟨(hside.word hq hlike hother rfl).congr ?_ ?_, rfl⟩
        · exact String.toList_inj.1 (by simp)
        · simp [SQLiteQueryBuilder.conditionPieces]
  | isNull =>
      simp only [pure_ok] at h
      obtain ⟨rfl, rfl⟩ := h
      have hop : Spells (quoteChar d) "IS NULL" [.kw .is, .kw .null] := .fixed hq (by decide)
      exact .fixed st rfl ((spells_quoteId d field).before hq hop rfl)
  | isNotNull =>
      simp only [pure_ok] at h
      obtain ⟨rfl, rfl⟩ := h
      have hop : Spells (quoteChar d) "IS NOT NULL" [.kw .is, .kw .not, .kw .null] :=
        .fixed hq (by decide)
      exact .fixed st rfl ((spells_quoteId d field).before hq hop rfl)
  | «in» =>
      simp only [conditionPieces]
      by_cases hv : values = []
      · simp only [hv, if_true, pure_ok] at h ⊢
        obtain ⟨rfl, rfl⟩ := h
        exact .fixed st rfl (.fixed hq (by decide))
      · simp only [hv, if_false, if_true] at h ⊢
        have hop : Spells (quoteChar d) "IN" (tokensOf [Piece.kw (ρ := Role) .in]) :=
          .fixed hq (by decide)
        exact @operands_wrote ⟨field, .in, value, values⟩ d "IN" s st st' _ rfl hop h
  | notIn =>
      simp only [conditionPieces]
      by_cases hv : values = []
      · simp only [hv, if_true, pure_ok] at h ⊢
        obtain ⟨rfl, rfl⟩ := h
        exact .fixed st rfl (.fixed hq (by decide))
      · simp only [hv, if_false, reduceCtorEq] at h ⊢
        have hop : Spells (quoteChar d) "NOT IN"
            (tokensOf [Piece.kw (ρ := Role) .not, .kw .in]) := .fixed hq (by decide)
        exact @operands_wrote ⟨field, .notIn, value, values⟩ d "NOT IN" s st st' _ rfl hop h
  | between =>
      have hone : Wrote d st st "1=1" [Piece.num (ρ := Role) "1", .cmp .eq, .num "1"] :=
        .fixed st rfl (.fixed hq (by decide))
      rcases values with _ | ⟨v₀, _ | ⟨v₁, vs⟩⟩
      · simp only [pure_ok] at h
        obtain ⟨rfl, rfl⟩ := h
        exact hone
      · simp only [pure_ok] at h
        obtain ⟨rfl, rfl⟩ := h
        exact hone
      · simp only [bind_ok, pure_ok] at h
        obtain ⟨lo, st₁, hlo, hi, st₂, hhi, rfl, rfl⟩ := h
        obtain ⟨rfl, rfl⟩ := bindParam_ok hlo
        obtain ⟨rfl, rfl⟩ := bindParam_ok hhi
        have hbetween : Spells (quoteChar d) "BETWEEN" [.kw .between] := .fixed hq (by decide)
        have hand : Spells (quoteChar d) "AND" [.kw .and] := .fixed hq (by decide)
        have hlow := (spells_quoteId d field).word hq hbetween (spells_ph d st.paramIndex)
          (rfl : " BETWEEN " = " " ++ "BETWEEN" ++ " ")
        have hboth := hlow.word hq hand (spells_ph d (st.paramIndex + 1))
          (rfl : " AND " = " " ++ "AND" ++ " ")
        refine ⟨hboth.congr rfl ?_, rfl⟩
        have hlong : ¬ (v₀ :: v₁ :: vs).length < 2 := by simp
        simp only [conditionPieces, if_neg hlong]
        simp [SQLiteQueryBuilder.conditionPieces]

/-- A loop whose body writes one text for each element. -/
theorem mapM_wrote {α : Type} {d : String} {f : α → Builder String} {g : α → List (Piece Role)} :
    ∀ {l : List α} {ss : List String} {st st' : BuilderState},
      (∀ a ∈ l, ∀ {s : String} {st st' : BuilderState}, f a st = .ok (s, st') →
        Wrote d st st' s (g a)) →
      l.mapM f st = .ok (ss, st') → WroteAll d st st' ss (l.map g)
  | [], ss, st, st', _, h => by
      simp only [List.mapM_nil, pure_ok] at h
      obtain ⟨rfl, rfl⟩ := h
      exact ⟨.nil, rfl⟩
  | a :: l, ss, st, st', hf, h => by
      simp only [List.mapM_cons, bind_ok, pure_ok] at h
      obtain ⟨s, st₁, hs, ss, st₂, hss, rfl, rfl⟩ := h
      have hrest := mapM_wrote (fun a ha => hf a (List.mem_cons_of_mem _ ha)) hss
      exact (hf a List.mem_cons_self hs).all.append hrest

/-- What the body of a loop checks holds of every element. -/
theorem mapM_checks {α : Type} {f : α → Builder String} {P : α → Prop}
    (hf : ∀ {a : α} {s : String} {st st' : BuilderState}, f a st = .ok (s, st') → P a) :
    ∀ {l : List α} {ss : List String} {st st' : BuilderState}, l.mapM f st = .ok (ss, st') →
      ∀ a ∈ l, P a
  | [], _, _, _, _ => nofun
  | a :: l, ss, st, st', h => by
      simp only [List.mapM_cons, bind_ok, pure_ok] at h
      obtain ⟨s, st₁, hs, ss, st₂, hss, -, -⟩ := h
      exact List.forall_mem_cons.2 ⟨hf hs, mapM_checks (f := f) hf hss⟩

theorem validateField_contains {f : String} {vf : Std.TreeSet String} {st st' : BuilderState}
    {u : Unit} (h : validateField f vf st = .ok (u, st')) : vf.contains f = true := by
  unfold validateField at h
  split at h
  · assumption
  · exact nomatch h

theorem checkedCondition_wrote {vf : Std.TreeSet String} {cond : FilterCondition} {d s : String}
    {st st' : BuilderState} (h : checkedCondition vf d cond st = .ok (s, st')) :
    Wrote d st st' s (conditionPieces d cond) ∧ vf.contains cond.field = true := by
  simp only [checkedCondition, bind_ok] at h
  obtain ⟨u, st₁, hu, h⟩ := h
  have hcontains := validateField_contains hu
  obtain rfl := validateField_ok hu
  exact ⟨buildCondition_wrote h, hcontains⟩

theorem legacyFragment_wrote {vf : Std.TreeSet String} {entry : String × String} {d s : String}
    {st st' : BuilderState} (h : legacyFragment vf d entry st = .ok (s, st')) :
    Wrote d st st' s (equalsPieces entry.1 (.legacy entry.1)) ∧ vf.contains entry.1 = true := by
  simp only [legacyFragment, bind_ok, pure_ok] at h
  obtain ⟨u, st₁, hu, p, st₂, hp, rfl, rfl⟩ := h
  have hcontains := validateField_contains hu
  obtain rfl := validateField_ok hu
  obtain ⟨rfl, rfl⟩ := bindParam_ok hp
  have hq := isQuote_quoteChar d
  have heq : Spells (quoteChar d) "=" [.eq] := .fixed hq (by decide)
  have hword := (spells_quoteId d entry.1).word hq heq (spells_ph d st₁.paramIndex)
    (rfl : " = " = " " ++ "=" ++ " ")
  refine ⟨⟨hword.congr rfl ?_, rfl⟩, hcontains⟩
  simp [equalsPieces, CmpOp.token]

/-- What a group is to read as: a single condition stays bare. -/
def groupPieces (d : String) (group : FilterGroup) : List (Piece Role) :=
  match group.conditions with
  | [cond] => conditionPieces d cond
  | conds => .lparen :: (joinPieces (.kw .or) (conds.map (conditionPieces d)) ++ [.rparen])

/-- The parts of a `WHERE` clause. -/
def rootPieces (d : String) (conditions : List FilterCondition) (filterGroups : List FilterGroup)
    (legacyFilter : Std.TreeMap String String) : List (List (Piece Role)) :=
  legacyFilter.toList.map (fun (key, _) => equalsPieces key (.legacy key)) ++
    conditions.map (conditionPieces d) ++
    (filterGroups.filter fun group => group.conditions ≠ []).map (groupPieces d)

/-- What a `WHERE` clause is to read as. -/
def wherePieces (d : String) (conditions : List FilterCondition) (filterGroups : List FilterGroup)
    (legacyFilter : Std.TreeMap String String) : List (Piece Role) :=
  if rootPieces d conditions filterGroups legacyFilter = [] then []
  else .kw .where ::
    joinPieces (.kw .and) (rootPieces d conditions filterGroups legacyFilter)

theorem groupFragment_wrote {d : String} {st st' : BuilderState} {parts : List String}
    {group : FilterGroup} (h : WroteAll d st st' parts (group.conditions.map (conditionPieces d))) :
    Wrote d st st' (groupFragment parts) (groupPieces d group) := by
  rcases group with ⟨conds⟩
  obtain ⟨hall, hindex⟩ := h
  have hq := isQuote_quoteChar d
  have hbracket := Spells.empty.bracket hq hall.ors
  have hslots : slots (joinPieces (.kw .or) (conds.map (conditionPieces d))) =
      (conds.map (conditionPieces d)).flatMap slots := slots_joinPieces rfl _
  match conds, parts, hall with
  | [], _, .nil =>
      exact ⟨hbracket.congr rfl (by simp [groupPieces, joinPieces]), hindex⟩
  | [cond], _, .cons hone .nil =>
      refine ⟨hone, ?_⟩
      rw [hindex]
      simp [groupPieces]
  | cond :: cond' :: conds, _, .cons _ (.cons _ _) =>
      refine ⟨hbracket.congr ?_ ?_, ?_⟩
      · simp [groupFragment]
      · simp only [groupPieces, placed_lparen, placed_append, placed_rparen, placed_nil,
          List.nil_append]
      · rw [hindex, groupPieces, slots_cons rfl, slots_append, hslots]
        simp [slots]

theorem buildGroups_wrote {vf : Std.TreeSet String} {d : String} :
    ∀ {groups : List FilterGroup} {ss : List String} {st st' : BuilderState},
      buildGroups vf d groups st = .ok (ss, st') →
      WroteAll d st st' ss
          ((groups.filter fun group => group.conditions ≠ []).map (groupPieces d)) ∧
        ∀ group ∈ groups, ∀ cond ∈ group.conditions, vf.contains cond.field = true
  | [], ss, st, st', h => by
      simp only [buildGroups, pure_ok] at h
      obtain ⟨rfl, rfl⟩ := h
      exact ⟨⟨.nil, rfl⟩, List.forall_mem_nil _⟩
  | group :: groups, ss, st, st', h => by
      rw [List.forall_mem_cons]
      by_cases hg : group.conditions = []
      · rw [buildGroups, if_pos hg] at h
        obtain ⟨hrest, hfields⟩ := buildGroups_wrote h
        refine ⟨by simpa [hg] using hrest, ?_, hfields⟩
        rw [hg]
        exact List.forall_mem_nil _
      · simp only [buildGroups, hg, if_false, bind_ok, pure_ok] at h
        obtain ⟨parts, st₁, hparts, rest, st₂, hrest, rfl, rfl⟩ := h
        obtain ⟨hall, hfields⟩ := buildGroups_wrote hrest
        have hone := groupFragment_wrote (mapM_wrote (f := checkedCondition vf d)
          (fun _ _ _ _ _ h => (checkedCondition_wrote h).1) hparts)
        have hchecked := mapM_checks (f := checkedCondition vf d)
          (fun h => (checkedCondition_wrote h).2) hparts
        refine ⟨?_, hchecked, hfields⟩
        simpa [hg] using hone.all.append hall

/-- **A built clause spells its template**, and every name in it was checked. -/
theorem build_wrote {conditions : List FilterCondition} {filterGroups : List FilterGroup}
    {legacyFilter : Std.TreeMap String String} {vf : Std.TreeSet String} {d text : String}
    {st st' : BuilderState}
    (h : build conditions filterGroups legacyFilter vf d st = .ok (text, st')) :
    (text = "" ∧ wherePieces d conditions filterGroups legacyFilter = [] ∨
      text ≠ "" ∧ Writes d st.paramIndex text
        (wherePieces d conditions filterGroups legacyFilter)) ∧
    ∀ f ∈ usedFields conditions filterGroups legacyFilter, vf.contains f = true := by
  simp only [build, bind_ok] at h
  obtain ⟨ls, st₁, hls, cs, st₂, hcs, gs, st₃, hgs, h⟩ := h
  have hlegacy := mapM_wrote (f := legacyFragment vf d)
    (fun _ _ _ _ _ h => (legacyFragment_wrote h).1) hls
  have hconds := mapM_wrote (f := checkedCondition vf d)
    (fun _ _ _ _ _ h => (checkedCondition_wrote h).1) hcs
  obtain ⟨hgroups, hinside⟩ := buildGroups_wrote hgs
  have hkeys := mapM_checks (f := legacyFragment vf d) (fun h => (legacyFragment_wrote h).2) hls
  have hfields := mapM_checks (f := checkedCondition vf d)
    (fun h => (checkedCondition_wrote h).2) hcs
  obtain ⟨hall, -⟩ := (hlegacy.append hconds).append hgroups
  have hnil : ls ++ cs ++ gs = [] ↔ rootPieces d conditions filterGroups legacyFilter = [] := by
    have hlength : ∀ {k : Nat} {ss : List String} {pss : List (List (Piece Role))},
        WritesAll d k ss pss → (ss = [] ↔ pss = []) := by
      intro k ss pss hw
      cases hw with
      | nil => exact iff_of_true rfl rfl
      | cons _ _ => exact iff_of_false nofun nofun
    exact hlength hall
  refine ⟨?_, ?_⟩
  · by_cases hempty : ls ++ cs ++ gs = []
    · rw [if_pos hempty, pure_ok] at h
      exact Or.inl ⟨h.1.symm, if_pos (hnil.1 hempty)⟩
    · rw [if_neg hempty, pure_ok] at h
      have hq := isQuote_quoteChar d
      have hwhere : Spells (quoteChar d) "WHERE" [.kw .where] := .fixed hq (by decide)
      rw [wherePieces, if_neg (hempty ∘ hnil.2), ← h.1]
      refine Or.inr ⟨?_, (hwhere.after hq hall.ands rfl).congr rfl ?_⟩
      · intro htext
        have hlist := congrArg String.toList htext
        simp at hlist
      · exact placed_kw ..
  · intro f hf
    simp only [usedFields, List.mem_append, List.mem_map, List.mem_flatMap] at hf
    rcases hf with (⟨entry, hentry, rfl⟩ | ⟨cond, hcond, rfl⟩) | ⟨group, hgroup, cond, hcond, rfl⟩
    · exact hkeys entry hentry
    · exact hfields cond hcond
    · exact hinside group hgroup cond hcond

/-- A condition names its field only. -/
theorem names_conditionPieces {d name : String} {cond : FilterCondition}
    (h : name ∈ names (conditionPieces d cond)) : name = cond.field := by
  have hplain : name ∈ names (SQLiteQueryBuilder.conditionPieces cond) → name = cond.field := by
    rw [SQLiteQueryBuilder.names_conditionPieces]
    exact List.mem_singleton.1
  unfold conditionPieces at h
  split at h
  · split at h
    · exact List.mem_singleton.1 h
    · exact hplain h
  · split at h
    · exact nomatch h
    · exact hplain h
  · split at h
    · exact nomatch h
    · exact hplain h
  · split at h
    · exact nomatch h
    · exact hplain h
  · exact hplain h

/-- The names of a clause are the fields that were checked. -/
theorem names_wherePieces {d name : String} {conditions : List FilterCondition}
    {filterGroups : List FilterGroup} {legacyFilter : Std.TreeMap String String}
    (h : name ∈ names (wherePieces d conditions filterGroups legacyFilter)) :
    name ∈ usedFields conditions filterGroups legacyFilter := by
  rw [wherePieces] at h
  split at h
  · exact nomatch h
  · obtain ⟨ps, hps, hname⟩ := (mem_names_joinPieces rfl).1 (show name ∈ names (joinPieces _ _) from h)
    simp only [usedFields, List.mem_append, List.mem_map, List.mem_flatMap]
    rw [rootPieces, List.mem_append, List.mem_append] at hps
    rcases hps with (hps | hps) | hps
    · obtain ⟨entry, hentry, rfl⟩ := List.mem_map.1 hps
      exact Or.inl (Or.inl ⟨entry, hentry, (List.mem_singleton.1 hname).symm⟩)
    · obtain ⟨cond, hcond, rfl⟩ := List.mem_map.1 hps
      exact Or.inl (Or.inr ⟨cond, hcond, (names_conditionPieces hname).symm⟩)
    · obtain ⟨group, hgroup, rfl⟩ := List.mem_map.1 hps
      have hinside : ∃ cond ∈ group.conditions, name = cond.field := by
        rw [groupPieces] at hname
        split at hname
        · next cond hone =>
            exact ⟨cond, by rw [hone]; exact List.mem_singleton_self cond,
              names_conditionPieces hname⟩
        · next conds hconds =>
            have hjoin : name ∈ names (joinPieces (.kw .or)
                (group.conditions.map (conditionPieces d))) := by
              simpa [names] using hname
            obtain ⟨ps, hps, hname⟩ := (mem_names_joinPieces rfl).1 hjoin
            obtain ⟨cond, hcond, rfl⟩ := List.mem_map.1 hps
            exact ⟨cond, hcond, names_conditionPieces hname⟩
      obtain ⟨cond, hcond, hname⟩ := hinside
      exact Or.inr ⟨group, (List.mem_filter.1 hgroup).1, cond, hcond, hname.symm⟩

/-! ### Lists of names -/

/-- What the order is to read as. -/
def orderByPieces (sort : Std.TreeMap String String) (defaultField : String) :
    List (Piece Role) :=
  [.word "ORDER", .word "BY"] ++
    if sort.isEmpty then [.ident defaultField, .word "DESC"]
    else joinPieces .comma (sort.toList.map orderPieces)

/-- What an aggregate is to read as; the star that stands for all rows is no name. -/
def aggregatePieces (agg : AggregateSpec) : List (Piece Role) :=
  [.word (aggFuncName agg.func), .lparen, if agg.field = "*" then .star else .ident agg.field,
    .rparen, .word "AS", .ident agg.aliasName]

/-- What the columns of a listing with aggregates are to read as. -/
def selectPieces (aggregates : List AggregateSpec) (groupBy : List String) : List (Piece Role) :=
  joinPieces .comma (aggregates.map aggregatePieces ++ groupBy.map fun field => [.ident field])

/-- What the grouping is to read as. -/
def groupByPieces (groupBy : List String) : List (Piece Role) :=
  if groupBy = [] then []
  else [.word "GROUP", .word "BY"] ++ joinPieces .comma (groupBy.map fun field => [.ident field])

/-- Joined templates without slots are placed anywhere. -/
theorem Writes.commas_tokensOf {d s : String} {k : Nat} {pss : List (List (Piece Role))}
    (hpss : ∀ ps ∈ pss, slots ps = []) (h : Writes d k s (joinPieces .comma pss)) :
    Spells (quoteChar d) s (tokensOf (joinPieces .comma pss)) := by
  refine h.congr rfl (placed_of_slots ?_).symm
  rw [slots_joinPieces rfl]
  exact List.flatMap_eq_nil_iff.2 hpss

theorem checkedField_wrote {vf : Std.TreeSet String} {field d s : String} {st st' : BuilderState}
    (h : checkedField vf d field st = .ok (s, st')) :
    Wrote d st st' s [.ident field] ∧ vf.contains field = true := by
  simp only [checkedField, bind_ok, pure_ok] at h
  obtain ⟨u, st₁, hu, rfl, rfl⟩ := h
  have hcontains := validateField_contains hu
  obtain rfl := validateField_ok hu
  exact ⟨.fixed st₁ rfl (spells_quoteId d field), hcontains⟩

theorem orderPart_wrote {vf : Std.TreeSet String} {entry : String × String} {d s : String}
    {st st' : BuilderState} (h : orderPart vf d entry st = .ok (s, st')) :
    Wrote d st st' s (orderPieces entry) ∧ vf.contains entry.1 = true := by
  simp only [orderPart, bind_ok, pure_ok] at h
  obtain ⟨u, st₁, hu, rfl, rfl⟩ := h
  have hcontains := validateField_contains hu
  obtain rfl := validateField_ok hu
  have hq := isQuote_quoteChar d
  have hname := spells_quoteId d entry.1
  refine ⟨.fixed st₁ rfl ?_, hcontains⟩
  simp only [orderPieces]
  split_ifs
  · exact hname.blank hq (.fixed hq (by decide))
  · exact hname.blank hq (.fixed hq (by decide))

/-- **An order spells its template**, and every name in it was checked. -/
theorem buildOrderBy_wrote {sort : Std.TreeMap String String} {vf : Std.TreeSet String}
    {defaultField d s : String} {st st' : BuilderState}
    (h : buildOrderBy sort vf defaultField d st = .ok (s, st')) :
    Spells (quoteChar d) s (tokensOf (orderByPieces sort defaultField)) ∧
      ∀ entry ∈ sort.toList, vf.contains entry.1 = true := by
  have hq := isQuote_quoteChar d
  have horder : Spells (quoteChar d) "ORDER BY" [.word "ORDER", .word "BY"] :=
    .fixed hq (by decide)
  unfold buildOrderBy at h
  unfold orderByPieces
  split at h
  · next hempty =>
      rw [pure_ok] at h
      obtain ⟨rfl, rfl⟩ := h
      have hdesc : Spells (quoteChar d) "DESC" [.word "DESC"] := .fixed hq (by decide)
      have hlead := horder.after hq (spells_quoteId d defaultField) (rfl : "ORDER BY " = "ORDER BY" ++ " ")
      have hnil : sort.toList = [] := by
        rw [← List.isEmpty_iff, Std.TreeMap.isEmpty_toList]
        exact hempty
      refine ⟨(hlead.before hq hdesc rfl).congr rfl ?_, by rw [hnil]; nofun⟩
      rw [if_pos hempty]
      rfl
  · next hempty =>
      simp only [bind_ok, pure_ok] at h
      obtain ⟨parts, st₁, hparts, rfl, rfl⟩ := h
      obtain ⟨hall, -⟩ := mapM_wrote (f := orderPart vf d)
        (fun _ _ _ _ _ h => (orderPart_wrote h).1) hparts
      have hjoin := hall.commas.commas_tokensOf (List.forall_mem_map.2 fun _ _ => rfl)
      refine ⟨(horder.after hq hjoin rfl).congr rfl ?_,
        mapM_checks (f := orderPart vf d) (fun h => (orderPart_wrote h).2) hparts⟩
      rw [if_neg hempty, tokensOf_append]
      rfl

theorem aggregatePart_wrote {vf : Std.TreeSet String} {agg : AggregateSpec} {d s : String}
    {st st' : BuilderState} (h : aggregatePart vf d agg st = .ok (s, st')) :
    Wrote d st st' s (aggregatePieces agg) ∧
      (agg.field ≠ "*" → vf.contains agg.field = true) := by
  have hq := isQuote_quoteChar d
  have hfunc : Spells (quoteChar d) (aggFuncName agg.func) [.word (aggFuncName agg.func)] := by
    cases agg.func <;> exact .fixed hq (by decide)
  have has : Spells (quoteChar d) "AS" [.word "AS"] := .fixed hq (by decide)
  have hcolumn : ∃ col, s = aggFuncName agg.func ++ "(" ++ col ++ ") AS " ++
        quoteId agg.aliasName d ∧ st' = st ∧
      Spells (quoteChar d) col
        [Piece.token (ρ := Role) (if agg.field = "*" then .star else .ident agg.field)] ∧
      (agg.field ≠ "*" → vf.contains agg.field = true) := by
    unfold aggregatePart at h
    by_cases hstar : agg.field = "*"
    · simp only [hstar, if_true, bind_ok, pure_ok] at h ⊢
      obtain ⟨col, st₁, ⟨rfl, rfl⟩, rfl, rfl⟩ := h
      exact ⟨"*", rfl, rfl, .fixed hq (by decide), fun hne => absurd rfl hne⟩
    · simp only [hstar, if_false, checkedField, bind_ok, pure_ok] at h ⊢
      obtain ⟨col, st₁, ⟨u, st₂, hu, rfl, rfl⟩, rfl, rfl⟩ := h
      exact ⟨_, rfl, validateField_ok hu, spells_quoteId d agg.field,
        fun _ => validateField_contains hu⟩
  obtain ⟨col, rfl, rfl, hspells, hcontains⟩ := hcolumn
  have hcall := (hfunc.bracket hq hspells).word hq has (spells_quoteId d agg.aliasName)
    (rfl : " AS " = " " ++ "AS" ++ " ")
  refine ⟨.fixed st' ?_ (hcall.congr ?_ rfl), hcontains⟩
  · unfold aggregatePieces
    split_ifs <;> rfl
  · exact String.toList_inj.1 (by simp)

/-- **The columns of a listing with aggregates spell their template.** -/
theorem buildAggregateSelect_wrote {aggregates : List AggregateSpec} {groupBy : List String}
    {vf : Std.TreeSet String} {d s : String} {st st' : BuilderState}
    (h : buildAggregateSelect aggregates groupBy vf d st = .ok (s, st')) :
    Spells (quoteChar d) s (tokensOf (selectPieces aggregates groupBy)) ∧
      (∀ agg ∈ aggregates, agg.field ≠ "*" → vf.contains agg.field = true) ∧
      ∀ field ∈ groupBy, vf.contains field = true := by
  simp only [buildAggregateSelect, bind_ok, pure_ok] at h
  obtain ⟨aggs, st₁, haggs, fields, st₂, hfields, rfl, rfl⟩ := h
  have hall := (mapM_wrote (f := aggregatePart vf d)
    (fun _ _ _ _ _ h => (aggregatePart_wrote h).1) haggs).append
    (mapM_wrote (f := checkedField vf d) (fun _ _ _ _ _ h => (checkedField_wrote h).1) hfields)
  refine ⟨hall.1.commas.commas_tokensOf ?_,
    mapM_checks (f := aggregatePart vf d) (fun h => (aggregatePart_wrote h).2) haggs,
    mapM_checks (f := checkedField vf d) (fun h => (checkedField_wrote h).2) hfields⟩
  rw [List.forall_mem_append, List.forall_mem_map, List.forall_mem_map]
  refine ⟨fun agg _ => ?_, fun _ _ => rfl⟩
  unfold aggregatePieces
  split_ifs <;> rfl

/-- **A grouping spells its template.** -/
theorem buildGroupBy_wrote {groupBy : List String} {vf : Std.TreeSet String} {d s : String}
    {st st' : BuilderState} (h : buildGroupBy groupBy vf d st = .ok (s, st')) :
    s = "" ∧ groupByPieces groupBy = [] ∨
      s ≠ "" ∧ Spells (quoteChar d) s (tokensOf (groupByPieces groupBy)) := by
  have hq := isQuote_quoteChar d
  unfold buildGroupBy at h
  unfold groupByPieces
  split at h
  · next hnil =>
      rw [pure_ok] at h
      exact Or.inl ⟨h.1.symm, if_pos hnil⟩
  · next hnil =>
      simp only [bind_ok, pure_ok] at h
      obtain ⟨parts, st₁, hparts, rfl, rfl⟩ := h
      have hgroup : Spells (quoteChar d) "GROUP BY" [.word "GROUP", .word "BY"] :=
        .fixed hq (by decide)
      obtain ⟨hall, -⟩ := mapM_wrote (f := checkedField vf d)
        (fun _ _ _ _ _ h => (checkedField_wrote h).1) hparts
      have hjoin := hall.commas.commas_tokensOf (List.forall_mem_map.2 fun _ _ => rfl)
      rw [if_neg hnil]
      refine Or.inr ⟨?_, (hgroup.after hq hjoin rfl).congr rfl ?_⟩
      · intro htext
        have hlist := congrArg String.toList htext
        simp at hlist
      · rw [tokensOf_append]
        rfl

end SqlWhereBuilder
end Dbal
