/-
# What a built `WHERE` clause means

The clause that `SqlWhereBuilder.build` returns is read back by the grammar of
`Dbal.Sql.Condition`, with its placeholders bound to the pushed parameters, and
denotes the conjunction that its three sources ask for (`meaning`).

A piece of the clause is followed through the builder as a `Fragment`: the text
reads as tokens, its placeholders carry the consecutive numbers it was given,
the tokens parse as one primary whatever stands after them, and that condition
has the truth the source entry asks for.  `Fragments` is a run of such pieces,
each beginning at the index where the one before it ended; `AND` between root
pieces and a bracketed `OR` inside a group keep them apart.

`quoteId` does not double a quote inside a name, so a field whose name has the
quote character of the dialect in it is read as something else
(`injected_quote_escapes_tenant`).  The results are about names without it.
-/

import Dbal.Adapters.SqlWhereBuilder
import Dbal.Sql.Condition
import Mathlib.Data.List.Forall2

namespace Dbal
namespace SqlWhereBuilder

open Sql

/-- The character that `quoteId` puts around a name. -/
def quoteChar (dialect : String) : Char :=
  if dialect = "mysql" ∨ dialect = "mariadb" then Char.ofNat 96 else '"'

/-- Whether `ph` writes numbered placeholders. -/
def numbered (dialect : String) : Bool := dialect = "postgresql" ∨ dialect = "postgres"

/-! ### What the arguments of `build` ask for -/

/-- One entry of the legacy filter: the column equals the value. -/
def legacyMeaning (C : Collation) (r : Row) (entry : String × String) : Truth :=
  lift (CmpOp.holds C .eq) (r entry.1) (some entry.2)

/-- One condition, with the builder's reading of the degenerate operands: `In`
and `NotIn` over no values are false, `Between` with fewer than two is true. -/
def conditionMeaning (C : Collation) (r : Row) (cond : FilterCondition) : Truth :=
  let cmp op := lift (CmpOp.holds C op) (r cond.field) (some cond.value)
  match cond.op with
  | .eq => cmp .eq
  | .ne => cmp .ne
  | .lt => cmp .lt
  | .lte => cmp .le
  | .gt => cmp .gt
  | .gte => cmp .ge
  | .like => lift C.like (r cond.field) (some cond.value)
  | .iLike => lift C.like ((r cond.field).map (C.fn "LOWER")) (some (C.fn "LOWER" cond.value))
  | .isNull => .ofBool (r cond.field).isNone
  | .isNotNull => .ofBool (r cond.field).isSome
  | .in => if cond.values = [] then .ff else memberOf (r cond.field) (cond.values.map some)
  | .notIn =>
      if cond.values = [] then .ff else (memberOf (r cond.field) (cond.values.map some)).not
  | .between =>
      match cond.values with
      | v₀ :: v₁ :: _ =>
          (lift (CmpOp.holds C .ge) (r cond.field) (some v₀)).and
            (lift (CmpOp.holds C .le) (r cond.field) (some v₁))
      | _ => .tt

/-- One group: some condition of it holds. -/
def groupMeaning (C : Collation) (r : Row) (group : FilterGroup) : Truth :=
  .disj (group.conditions.map (conditionMeaning C r))

/-- All of it: every legacy equality, every condition and every group that has
conditions at all. -/
def meaning (C : Collation) (r : Row) (conditions : List FilterCondition)
    (filterGroups : List FilterGroup) (legacyFilter : Std.TreeMap String String) : Truth :=
  .conj (legacyFilter.toList.map (legacyMeaning C r) ++ conditions.map (conditionMeaning C r) ++
    (filterGroups.filter (·.conditions ≠ [])).map (groupMeaning C r))

/-- The field names that a call of `build` writes into the clause. -/
def usedFields (conditions : List FilterCondition) (filterGroups : List FilterGroup)
    (legacyFilter : Std.TreeMap String String) : List String :=
  legacyFilter.toList.map (·.1) ++ conditions.map (·.field) ++
    filterGroups.flatMap (·.conditions.map (·.field))

/-- The pushed parameters, bound from the index that the first of them had. -/
def bindingOf (first : Nat) (pushed : List SqlParam) : Binding := fun n =>
  if first ≤ n then (pushed[n - first]?).map (·.value) else none

/-- A binding gives each parameter the value it was pushed with. -/
def Binds (b : Binding) (first : Nat) (pushed : List SqlParam) : Prop :=
  ∀ j p, pushed[j]? = some p → b (first + j) = some p.value

theorem bindingOf_binds (first : Nat) (pushed : List SqlParam) :
    Binds (bindingOf first pushed) first pushed := by
  intro j p hj
  simp [bindingOf, hj]

theorem Binds.append_left {b : Binding} {k : Nat} {ps qs : List SqlParam}
    (h : Binds b k (ps ++ qs)) : Binds b k ps := by
  intro j p hj
  exact h j p (by rw [List.getElem?_append_left (List.getElem?_eq_some_iff.1 hj).1, hj])

theorem Binds.append_right {b : Binding} {k : Nat} {ps qs : List SqlParam}
    (h : Binds b k (ps ++ qs)) : Binds b (k + ps.length) qs := by
  intro j p hj
  have := h (ps.length + j) p (by
    rw [List.getElem?_append_right (by omega), Nat.add_sub_cancel_left, hj])
  rwa [Nat.add_assoc]

/-! ### Runs of a builder -/

@[simp] theorem bind_ok {α β : Type} {m : Builder α} {f : α → Builder β} {st st'' : BuilderState}
    {b : β} : (m >>= f) st = .ok (b, st'') ↔
      ∃ a st', m st = .ok (a, st') ∧ f a st' = .ok (b, st'') := by
  show (m st >>= fun p => f p.1 p.2) = _ ↔ _
  cases m st with
  | error e => simp [Bind.bind, Except.bind]
  | ok p =>
      obtain ⟨a, st'⟩ := p
      simp [Bind.bind, Except.bind]

@[simp] theorem pure_ok {α : Type} {a b : α} {st st' : BuilderState} :
    (pure a : Builder α) st = .ok (b, st') ↔ a = b ∧ st = st' := by
  show Except.ok (a, st) = _ ↔ _
  simp

theorem validateField_ok {f : String} {vf : Std.TreeSet String} {st st' : BuilderState} {u : Unit}
    (h : validateField f vf st = .ok (u, st')) : st' = st := by
  unfold validateField at h
  split at h <;> simp_all

/-- The state after the parameters `ps` have been pushed. -/
def BuilderState.push (st : BuilderState) (ps : List SqlParam) : BuilderState :=
  ⟨st.params ++ ps, st.paramIndex + ps.length⟩

@[simp] theorem push_paramIndex (st : BuilderState) (ps : List SqlParam) :
    (st.push ps).paramIndex = st.paramIndex + ps.length := rfl

@[simp] theorem push_nil (st : BuilderState) : st.push [] = st := by
  simp [BuilderState.push]

@[simp] theorem push_push (st : BuilderState) (ps qs : List SqlParam) :
    (st.push ps).push qs = st.push (ps ++ qs) := by
  simp [BuilderState.push, Nat.add_assoc]

theorem bindParam_ok {f v d s : String} {st st' : BuilderState}
    (h : bindParam f v d st = .ok (s, st')) :
    s = ph st.paramIndex d ∧ st' = st.push [⟨f, v⟩] := by
  unfold bindParam at h
  split at h
  · simpa [BuilderState.push, eq_comm] using h
  · cases h

theorem bindAll_ok {f d : String} :
    ∀ {vs : List String} {ss : List String} {st st' : BuilderState},
      bindAll f d vs st = .ok (ss, st') →
      ss = (List.range' st.paramIndex vs.length).map (ph · d) ∧ st' = st.push (vs.map (⟨f, ·⟩))
  | [], ss, st, st', h => by
      simp only [bindAll, pure_ok] at h
      simp [h.1.symm, h.2]
  | v :: vs, ss, st, st', h => by
      simp only [bindAll, bind_ok, pure_ok] at h
      obtain ⟨p, st₁, hp, ps, st₂, hps, rfl, rfl⟩ := h
      obtain ⟨rfl, rfl⟩ := bindParam_ok hp
      obtain ⟨rfl, rfl⟩ := bindAll_ok hps
      simp [List.range'_succ]

/-! ### Reading texts -/

/-- A token as `ph` writes it: without its number outside the numbered dialects. -/
def written (dialect : String) : Token → Token
  | .param n => .param (if numbered dialect then n else none)
  | t => t

/-- The text reads as these tokens, but for the numbers the dialect leaves out. -/
def Reads (dialect s : String) (ts : List Token) : Prop :=
  tokens (quoteChar dialect) s.toList = some (ts.map (written dialect))

theorem isQuote_quoteChar (dialect : String) : IsQuote (quoteChar dialect) := by
  unfold quoteChar IsQuote
  split
  · exact .inr rfl
  · exact .inl rfl

/-- A text without placeholders reads the same in every dialect. -/
theorem Reads.fixed {dialect s : String} {ts : List Token} (hts : ∀ n, .param n ∉ ts)
    (h : BothQuotes fun q => tokens q s.toList = some ts) : Reads dialect s ts := by
  have hmap : ts.map (written dialect) = ts.map id := List.map_congr_left fun t ht => by
    cases t with
    | param n => exact absurd ht (hts n)
    | _ => rfl
  rw [Reads, hmap, List.map_id]
  exact (isQuote_quoteChar dialect).of_both h

theorem Reads.quoteId {dialect name : String} (h : quoteChar dialect ∉ name.toList) :
    Reads dialect (quoteId name dialect) [.ident name] := by
  have hq := tokens_quoted (isQuote_quoteChar dialect) h
  unfold Reads SqlWhereBuilder.quoteId
  unfold quoteChar at hq ⊢
  split <;> simp_all [written]

theorem Reads.ph (dialect : String) (n : Nat) :
    Reads dialect (ph n dialect) [.param (some n)] := by
  unfold Reads SqlWhereBuilder.ph
  by_cases h : dialect = "postgresql" ∨ dialect = "postgres"
  · have hn : numbered dialect = true := by simpa [numbered] using h
    simpa [h, written, hn] using tokens_dollar (q := quoteChar dialect) n
  · have hn : numbered dialect = false := by simpa [numbered] using h
    simp only [h, if_false, List.map_cons, List.map_nil, written, hn, Bool.false_eq_true]
    rcases isQuote_quoteChar dialect with hq | hq <;> rw [hq] <;> rfl

/-- Two texts with a blank between them. -/
theorem Reads.blank {d a b : String} {ta tb : List Token} (ha : Reads d a ta) (hb : Reads d b tb) :
    Reads d (a ++ " " ++ b) (ta ++ tb) := by
  have := tokens_blank (isQuote_quoteChar d) ha hb
  simpa [Reads] using this

/-- The same with the blank at the head of the second text. -/
theorem Reads.suffix {d a b suf : String} {ta tb : List Token} (ha : Reads d a ta)
    (hb : Reads d b tb) (hsuf : suf = " " ++ b) : Reads d (a ++ suf) (ta ++ tb) := by
  rw [hsuf, ← String.append_assoc]
  exact ha.blank hb

/-- Two texts with a reserved word between them. -/
theorem Reads.word {d a b w : String} {tw ta tb : List Token} (ha : Reads d a ta)
    (sep : String) (hw : Reads d w tw) (hb : Reads d b tb) (hsep : sep = " " ++ w ++ " ") :
    Reads d (a ++ sep ++ b) (ta ++ tw ++ tb) := by
  have := (ha.blank hw).blank hb
  rw [hsep]
  simpa [String.append_assoc] using this

/-- Texts joined by a separator that reads as one token between any two. -/
theorem Reads.join {d sep : String} {t : Token}
    (hsep : ∀ {a b : String} {ta tb : List Token}, Reads d a ta → Reads d b tb →
      Reads d (a ++ sep ++ b) (ta ++ t :: tb)) :
    ∀ {ss : List String} {tss : List (List Token)}, List.Forall₂ (Reads d) ss tss →
      Reads d (join ss sep) (joinTokens t tss) := by
  intro ss tss h
  induction h with
  | nil => rfl
  | cons h hs ih =>
      cases hs with
      | nil => exact h
      | cons _ _ =>
          rw [SqlWhereBuilder.join, joinTokens]
          exact hsep h ih

theorem Reads.comma {d a b : String} {ta tb : List Token} (ha : Reads d a ta)
    (hb : Reads d b tb) : Reads d (a ++ ", " ++ b) (ta ++ .comma :: tb) := by
  have hblank : tokens (quoteChar d) (' ' :: b.toList) = some (tb.map (written d)) :=
    tokens_blank (isQuote_quoteChar d) (a := []) rfl hb
  have := tokens_separator (isQuote_quoteChar d) (c := ',') rfl ha hblank
  simpa [Reads, written] using this

/-- A text followed by a bracketed one. -/
theorem Reads.bracket {d a b : String} {ta tb : List Token} (ha : Reads d a ta)
    (hb : Reads d b tb) :
    Reads d (a ++ "(" ++ b ++ ")") (ta ++ .lparen :: (tb ++ [.rparen])) := by
  have hq := isQuote_quoteChar d
  have hopen := tokens_separator hq (c := '(') rfl ha hb
  have := tokens_separator hq (c := ')') rfl hopen (b := []) rfl
  simpa [Reads, written] using this

/-- A text followed by a blank and a bracketed one. -/
theorem Reads.bracket_blank {d a b : String} {ta tb : List Token} (ha : Reads d a ta)
    (hb : Reads d b tb) : Reads d (a ++ " (" ++ b ++ ")") (ta ++ .lparen :: (tb ++ [.rparen])) := by
  have hin : Reads d ("(" ++ b ++ ")") (.lparen :: (tb ++ [.rparen])) := by
    simpa using @Reads.bracket d "" _ [] _ rfl hb
  have := ha.blank hin
  simpa [String.append_assoc, Reads] using this

theorem map_written_of_numbered {d : String} (hd : numbered d = true) (ts : List Token) :
    ts.map (written d) = ts := by
  have hmap : ts.map (written d) = ts.map id := List.map_congr_left fun t _ => by
    cases t <;> simp [written, hd]
  rw [hmap, List.map_id]

theorem map_written_of_bare {d : String} (hd : numbered d = false) (ts : List Token) :
    ts.map (written d) = ts.map .bare :=
  List.map_congr_left fun t _ => by cases t <;> simp [written, hd, Token.bare]

/-- The numbers that a dialect leaves out are given back in order. -/
theorem numberParams_written {d : String} {ts : List Token} {k n : Nat}
    (h : placeholders ts = (List.range' k n).map some) :
    numberParams k (ts.map (written d)) = ts := by
  cases hd : numbered d with
  | true => rw [map_written_of_numbered hd, numberParams_of_numbered k (by simp [h])]
  | false => rw [map_written_of_bare hd, numberParams_bare h]

/-- What a text in the dialect shows of its placeholders. -/
theorem placeholders_written (d : String) (ts : List Token) :
    placeholders (ts.map (written d)) =
      if numbered d then placeholders ts else List.replicate (placeholders ts).length none := by
  cases hd : numbered d with
  | true => simp [map_written_of_numbered hd]
  | false => simp [map_written_of_bare hd, placeholders_bare]

/-! ### Fragments -/

/-- A piece of the clause: its text reads as tokens with the placeholders
`first, first + 1, …`, one for each parameter, and parses as a condition that
has the truth `sem` once the parameters are bound. -/
def Fragment (dialect : String) (first : Nat) (s : String) (ps : List SqlParam)
    (sem : Collation → Row → Truth) : Prop :=
  ∃ ts c, Reads dialect s ts ∧ placeholders ts = (List.range' first ps.length).map some ∧
    ParsesPrimary ts c ∧
    ∀ C b r, Binds b first ps → c.eval C b r = sem C r

/-- Pieces one after the other, each numbered from where the last one ended. -/
inductive Fragments (dialect : String) :
    Nat → List String → List SqlParam → List (Collation → Row → Truth) → Prop where
  | nil {first : Nat} : Fragments dialect first [] [] []
  | cons {first : Nat} {s : String} {ss : List String} {ps qs : List SqlParam}
      {sem : Collation → Row → Truth} {sems : List (Collation → Row → Truth)} :
      Fragment dialect first s ps sem → Fragments dialect (first + ps.length) ss qs sems →
        Fragments dialect first (s :: ss) (ps ++ qs) (sem :: sems)

theorem Fragments.append {d : String} {ss' : List String} {ps' : List SqlParam}
    {sems' : List (Collation → Row → Truth)} :
    ∀ {first : Nat} {ss : List String} {ps : List SqlParam} {sems : List (Collation → Row → Truth)},
      Fragments d first ss ps sems → Fragments d (first + ps.length) ss' ps' sems' →
      Fragments d first (ss ++ ss') (ps ++ ps') (sems ++ sems')
  | _, _, _, _, .nil, h' => by simpa using h'
  | _, _, _, _, @Fragments.cons _ _ _ _ ps qs _ _ h hs, h' => by
      rw [List.append_assoc]
      refine .cons h (hs.append ?_)
      rwa [List.length_append, ← Nat.add_assoc] at h'

/-- What a run of pieces gives: tokens and conditions in step, consecutive
placeholders over the whole run, and the truths, all under one binding. -/
theorem Fragments.pieces {d : String} (t : Token) (ht : ∀ n, t ≠ .param n) :
    ∀ {first : Nat} {ss : List String} {ps : List SqlParam} {sems : List (Collation → Row → Truth)},
      Fragments d first ss ps sems →
      ∃ tss cs, List.Forall₂ (Reads d) ss tss ∧ List.Forall₂ ParsesPrimary tss cs ∧
        placeholders (joinTokens t tss) = (List.range' first ps.length).map some ∧
        ∀ C b r, Binds b first ps → cs.map (Cond.eval C b r) = sems.map (· C r) := by
  intro first ss ps sems h
  induction h with
  | nil => exact ⟨[], [], .nil, .nil, rfl, fun _ _ _ _ => rfl⟩
  | cons hf _ ih =>
      obtain ⟨ts, c, hread, hplace, hparse, hsem⟩ := hf
      obtain ⟨tss, cs, hreads, hparses, hplaces, hsems⟩ := ih
      refine ⟨ts :: tss, c :: cs, .cons hread hreads, .cons hparse hparses, ?_, fun C b r hb => ?_⟩
      · have hjoin : placeholders (joinTokens t (ts :: tss)) =
            placeholders ts ++ placeholders (joinTokens t tss) := by
          cases tss with
          | nil => simp [joinTokens, placeholders]
          | cons us tss =>
              rw [joinTokens, placeholders_append]
              cases t with
              | param n => exact absurd rfl (ht n)
              | _ => rfl
        rw [hjoin, hplace, hplaces, List.length_append, ← List.map_append, List.range'_append_1]
      · simp [hsem C b r hb.append_left, hsems C b r hb.append_right]

/-- A step of the builder that pushes parameters and returns one piece. -/
def Emits (d : String) (st st' : BuilderState) (s : String) (sem : Collation → Row → Truth) :
    Prop :=
  ∃ ps, st' = st.push ps ∧ Fragment d st.paramIndex s ps sem

/-- A piece without parameters. -/
theorem Emits.constant {d s : String} {st : BuilderState} {sem : Collation → Row → Truth}
    (t : Token) (ts : List Token) (c : Cond) (hread : Reads d s (t :: ts))
    (hplace : placeholders (t :: ts) = []) (ht : t ≠ .lparen)
    (hparse : ∀ rest, parsePredicate (t :: ts ++ rest) = some (c, rest))
    (hsem : ∀ C b r, c.eval C b r = sem C r) : Emits d st st s sem :=
  ⟨[], by simp, t :: ts, c, hread, by simp [hplace], .predicate ht hparse, fun C b r _ => hsem C b r⟩

/-- **A column, an operator and one parameter.** -/
theorem binary_emits {cond : FilterCondition} {d op s : String} {st st' : BuilderState}
    {sem : Collation → Row → Truth} (w : String) (t : Token) (mk : Operand → Operand → Cond)
    (hq : quoteChar d ∉ cond.field.toList) (hop : op = " " ++ w ++ " ")
    (hw : BothQuotes fun q => tokens q w.toList = some [t]) (ht : ∀ n, t ≠ .param n)
    (hparse : ∀ k rest, parsePredicate (.ident cond.field :: t :: .param (some k) :: rest) =
      some (mk (.col cond.field) (.param k), rest))
    (hsem : ∀ C b r k, b k = some cond.value →
      (mk (.col cond.field) (.param k)).eval C b r = sem C r)
    (h : binary cond op d st = .ok (s, st')) : Emits d st st' s sem := by
  simp only [binary, bind_ok, pure_ok] at h
  obtain ⟨p, st₁, hp, rfl, rfl⟩ := h
  obtain ⟨rfl, rfl⟩ := bindParam_ok hp
  have hread : Reads d w [t] := .fixed (by simpa using fun n h => ht n h.symm) hw
  refine ⟨_, rfl, _, _, (Reads.quoteId hq).word op hread (Reads.ph d st.paramIndex) hop, ?_,
    .predicate (by simp) (hparse st.paramIndex), fun C b r hb => hsem C b r st.paramIndex ?_⟩
  · cases t with
    | param n => exact absurd rfl (ht n)
    | _ => rfl
  · exact hb 0 ⟨cond.field, cond.value⟩ rfl

/-- The bound values of an `IN` list are the values of the condition. -/
theorem Binds.values {b : Binding} {f : String} :
    ∀ {k : Nat} {vs : List String}, Binds b k (vs.map (⟨f, ·⟩)) →
      (List.range' k vs.length).map b = vs.map some
  | _, [], _ => rfl
  | k, v :: vs, h => by
      have hhead := h 0 ⟨f, v⟩ rfl
      have htail : Binds b (k + 1) (vs.map (⟨f, ·⟩)) :=
        @Binds.append_right b k [⟨f, v⟩] _ h
      simp only [List.length_cons, List.range'_succ, List.map_cons, htail.values]
      simpa using hhead

/-- `IN` and `NOT IN` over at least one value. -/
theorem inList_emits {cond : FilterCondition} {d opStr s : String} {tw : List Token}
    {st st' : BuilderState} (negated : Bool) (hq : quoteChar d ∉ cond.field.toList)
    (hw : Reads d opStr tw) (htw : placeholders tw = [])
    (hparse : ∀ ts, parsePredicate (.ident cond.field :: (tw ++ .lparen :: ts)) =
      (parseList ts).map fun (xs, rest) => (.inList negated (.col cond.field) xs, rest))
    (h : (do let placeholders ← bindAll cond.field d cond.values
             return SqlWhereBuilder.quoteId cond.field d ++ " " ++ opStr ++ " (" ++
               join placeholders ", " ++ ")" : Builder String) st = .ok (s, st')) :
    Emits d st st' s fun _ r =>
      let t := memberOf (r cond.field) (cond.values.map some)
      if negated then t.not else t := by
  simp only [bind_ok, pure_ok] at h
  obtain ⟨ps, st₁, hps, rfl, rfl⟩ := h
  obtain ⟨rfl, rfl⟩ := bindAll_ok hps
  have hlist : Reads d (join ((List.range' st.paramIndex cond.values.length).map (ph · d)) ", ")
      (paramList st.paramIndex cond.values.length) := by
    refine Reads.join Reads.comma ?_
    rw [List.forall₂_map_left_iff, List.forall₂_map_right_iff, List.forall₂_same]
    exact fun m _ => Reads.ph d m
  have hread := ((Reads.quoteId hq).blank hw).bracket_blank hlist
  refine ⟨_, rfl, _, .inList negated (.col cond.field)
    ((List.range' st.paramIndex cond.values.length).map .param), hread, ?_, ?_, fun C b r hb => ?_⟩
  · simp [placeholders, htw, placeholders_paramList]
  · rw [List.append_assoc]
    refine .predicate (by simp) fun rest => ?_
    have hparsed := hparse (paramList st.paramIndex cond.values.length ++ .rparen :: rest)
    rw [parseList_paramList] at hparsed
    simpa using hparsed
  · simp only [Cond.eval, List.map_map, Operand.eval]
    have hmap : (Operand.eval C b r ∘ .param : Nat → Option String) = b := rfl
    rw [hmap, hb.values]

/-- `ILike` outside the numbered dialects: `LIKE` between two lowered sides. -/
theorem lower_emits {cond : FilterCondition} {d s : String} {st st' : BuilderState}
    (hq : quoteChar d ∉ cond.field.toList)
    (h : (do let p ← bindParam cond.field cond.value d
             return "LOWER(" ++ SqlWhereBuilder.quoteId cond.field d ++ ") LIKE LOWER(" ++ p ++
               ")" : Builder String) st = .ok (s, st')) :
    Emits d st st' s fun C r =>
      lift C.like ((r cond.field).map (C.fn "LOWER")) (some (C.fn "LOWER" cond.value)) := by
  simp only [bind_ok, pure_ok] at h
  obtain ⟨p, st₁, hp, rfl, rfl⟩ := h
  obtain ⟨rfl, rfl⟩ := bindParam_ok hp
  have hlower : Reads d "LOWER" [.word "LOWER"] := .fixed (by simp) (by decide)
  have hlike : Reads d "LIKE" [.kw .like] := .fixed (by simp) (by decide)
  have hread := (hlower.bracket (Reads.quoteId hq)).word " LIKE " hlike
    (hlower.bracket (Reads.ph d st.paramIndex)) rfl
  refine ⟨_, rfl, [.word "LOWER", .lparen, .ident cond.field, .rparen, .kw .like, .word "LOWER",
    .lparen, .param (some st.paramIndex), .rparen], .like (.call "LOWER" (.col cond.field))
    (.call "LOWER" (.param st.paramIndex)), ?_, rfl, ?_, fun C b r hb => ?_⟩
  · have hlit : ") LIKE LOWER(" = ")" ++ (" LIKE " ++ ("LOWER" ++ "(")) := rfl
    have hlit' : "LOWER(" = "LOWER" ++ "(" := rfl
    rw [hlit, hlit']
    simp only [String.append_assoc, -String.reduceAppend] at hread ⊢
    exact hread
  · exact .predicate (by simp) (fun _ => rfl)
  · have hk : b st.paramIndex = some cond.value := hb 0 ⟨cond.field, cond.value⟩ rfl
    simp [Cond.eval, Operand.eval, hk]

/-- The fragment `1=0`. -/
theorem zero_emits {d : String} {st : BuilderState} : Emits d st st "1=0" fun _ _ => .ff :=
  .constant (.num "1") [.eq, .num "0"] (.cmp .eq (.lit "1") (.lit "0"))
    (.fixed (by simp) (by decide)) rfl (by simp) (fun _ => rfl) (fun _ _ _ => rfl)

/-- The fragment `1=1`. -/
theorem one_emits {d : String} {st : BuilderState} : Emits d st st "1=1" fun _ _ => .tt :=
  .constant (.num "1") [.eq, .num "1"] (.cmp .eq (.lit "1") (.lit "1"))
    (.fixed (by simp) (by decide)) rfl (by simp) (fun _ => rfl) (fun _ _ _ => rfl)

/-- `BETWEEN` with its two bounds. -/
theorem between_emits {f v₀ v₁ d s : String} {st st' : BuilderState} (hq : quoteChar d ∉ f.toList)
    (h : (do let lo ← bindParam f v₀ d
             let hi ← bindParam f v₁ d
             return SqlWhereBuilder.quoteId f d ++ " BETWEEN " ++ lo ++ " AND " ++ hi :
               Builder String) st = .ok (s, st')) :
    Emits d st st' s fun C r => (lift (CmpOp.holds C .ge) (r f) (some v₀)).and
      (lift (CmpOp.holds C .le) (r f) (some v₁)) := by
  simp only [bind_ok, pure_ok] at h
  obtain ⟨lo, st₁, hlo, hi, st₂, hhi, rfl, rfl⟩ := h
  obtain ⟨rfl, rfl⟩ := bindParam_ok hlo
  obtain ⟨rfl, rfl⟩ := bindParam_ok hhi
  have hbetween : Reads d "BETWEEN" [.kw .between] := .fixed (by simp) (by decide)
  have hand : Reads d "AND" [.kw .and] := .fixed (by simp) (by decide)
  have hlow := (Reads.quoteId hq).word " BETWEEN " hbetween (Reads.ph d st.paramIndex) rfl
  have hread := hlow.word " AND " hand (Reads.ph d (st.paramIndex + 1)) rfl
  refine ⟨[⟨f, v₀⟩, ⟨f, v₁⟩], by simp, _,
    .between (.col f) (.param st.paramIndex) (.param (st.paramIndex + 1)), hread, rfl, ?_,
    fun C b r hb => ?_⟩
  · exact .predicate (by simp) (fun _ => rfl)
  · have h₀ : b st.paramIndex = some v₀ := hb 0 ⟨f, v₀⟩ rfl
    have h₁ : b (st.paramIndex + 1) = some v₁ := hb 1 ⟨f, v₁⟩ rfl
    simp [Cond.eval, Operand.eval, h₀, h₁]

/-- **Every condition is emitted as one piece that means it.** -/
theorem buildCondition_emits {cond : FilterCondition} {d s : String} {st st' : BuilderState}
    (hq : quoteChar d ∉ cond.field.toList) (h : buildCondition cond d st = .ok (s, st')) :
    Emits d st st' s fun C r => conditionMeaning C r cond := by
  obtain ⟨field, op, value, values⟩ := cond
  unfold conditionMeaning
  unfold buildCondition at h
  cases op with
  | eq =>
      exact binary_emits "=" .eq (.cmp .eq) hq rfl (by decide) (by simp) (fun _ _ => rfl)
        (fun C b r k hk => by simp [Cond.eval, Operand.eval, hk]) h
  | ne =>
      exact binary_emits "<>" .ne (.cmp .ne) hq rfl (by decide) (by simp) (fun _ _ => rfl)
        (fun C b r k hk => by simp [Cond.eval, Operand.eval, hk]) h
  | lt =>
      exact binary_emits "<" .lt (.cmp .lt) hq rfl (by decide) (by simp) (fun _ _ => rfl)
        (fun C b r k hk => by simp [Cond.eval, Operand.eval, hk]) h
  | lte =>
      exact binary_emits "<=" .le (.cmp .le) hq rfl (by decide) (by simp) (fun _ _ => rfl)
        (fun C b r k hk => by simp [Cond.eval, Operand.eval, hk]) h
  | gt =>
      exact binary_emits ">" .gt (.cmp .gt) hq rfl (by decide) (by simp) (fun _ _ => rfl)
        (fun C b r k hk => by simp [Cond.eval, Operand.eval, hk]) h
  | gte =>
      exact binary_emits ">=" .ge (.cmp .ge) hq rfl (by decide) (by simp) (fun _ _ => rfl)
        (fun C b r k hk => by simp [Cond.eval, Operand.eval, hk]) h
  | like =>
      exact binary_emits "LIKE" (.kw .like) .like hq rfl (by decide) (by simp) (fun _ _ => rfl)
        (fun C b r k hk => by simp [Cond.eval, Operand.eval, hk]) h
  | iLike =>
      by_cases hd : d = "postgresql" ∨ d = "postgres"
      · rw [if_pos hd] at h
        exact binary_emits "ILIKE" (.kw .ilike) .ilike hq rfl (by decide) (by simp)
          (fun _ _ => rfl) (fun C b r k hk => by simp [Cond.eval, Operand.eval, hk]) h
      · rw [if_neg hd] at h
        exact lower_emits hq h
  | isNull =>
      simp only [pure_ok] at h
      obtain ⟨rfl, rfl⟩ := h
      have hread : Reads d "IS NULL" [.kw .is, .kw .null] := .fixed (by simp) (by decide)
      exact .constant (.ident field) [.kw .is, .kw .null] (.isNull false (.col field))
        ((Reads.quoteId hq).suffix hread rfl) rfl (by simp) (fun _ => rfl) (fun C b r => by simp [Cond.eval, Operand.eval])
  | isNotNull =>
      simp only [pure_ok] at h
      obtain ⟨rfl, rfl⟩ := h
      have hread : Reads d "IS NOT NULL" [.kw .is, .kw .not, .kw .null] :=
        .fixed (by simp) (by decide)
      exact .constant (.ident field) [.kw .is, .kw .not, .kw .null]
        (.isNull true (.col field)) ((Reads.quoteId hq).suffix hread rfl) rfl (by simp) (fun _ => rfl) (fun C b r => by
          cases hr : r field <;> simp [Cond.eval, Operand.eval, hr])
  | «in» =>
      by_cases hv : values = []
      · simp only [hv, if_true, pure_ok] at h ⊢
        obtain ⟨rfl, rfl⟩ := h
        exact zero_emits
      · simp only [hv, if_false, if_true] at h ⊢
        have hread : Reads d "IN" [.kw .in] := .fixed (by simp) (by decide)
        exact inList_emits false hq hread rfl
          (fun ts => by simp [parsePredicate, parseOperand, parseAtom]) h
  | notIn =>
      by_cases hv : values = []
      · simp only [hv, if_true, pure_ok] at h ⊢
        obtain ⟨rfl, rfl⟩ := h
        exact zero_emits
      · simp only [hv, if_false, reduceCtorEq] at h ⊢
        have hread : Reads d "NOT IN" [.kw .not, .kw .in] := .fixed (by simp) (by decide)
        exact inList_emits true hq hread rfl
          (fun ts => by simp [parsePredicate, parseOperand, parseAtom]) h
  | between =>
      rcases values with _ | ⟨v₀, _ | ⟨v₁, vs⟩⟩
      · simp only [pure_ok] at h
        obtain ⟨rfl, rfl⟩ := h
        exact one_emits
      · simp only [pure_ok] at h
        obtain ⟨rfl, rfl⟩ := h
        exact one_emits
      · exact between_emits hq h

/-- A step of the builder that pushes parameters and returns a run of pieces. -/
def EmitsAll (d : String) (st st' : BuilderState) (ss : List String)
    (sems : List (Collation → Row → Truth)) : Prop :=
  ∃ ps, st' = st.push ps ∧ Fragments d st.paramIndex ss ps sems

theorem EmitsAll.nil {d : String} {st : BuilderState} : EmitsAll d st st [] [] :=
  ⟨[], by simp, .nil⟩

theorem EmitsAll.append {d : String} {st st' st'' : BuilderState} {ss ss' : List String}
    {sems sems' : List (Collation → Row → Truth)} (h : EmitsAll d st st' ss sems)
    (h' : EmitsAll d st' st'' ss' sems') : EmitsAll d st st'' (ss ++ ss') (sems ++ sems') := by
  obtain ⟨ps, rfl, hps⟩ := h
  obtain ⟨qs, rfl, hqs⟩ := h'
  exact ⟨ps ++ qs, by simp, hps.append hqs⟩

theorem Emits.all {d s : String} {st st' : BuilderState} {sem : Collation → Row → Truth}
    (h : Emits d st st' s sem) : EmitsAll d st st' [s] [sem] := by
  obtain ⟨ps, rfl, hps⟩ := h
  exact ⟨ps ++ [], by simp, .cons hps .nil⟩

/-- A loop whose body emits one piece for each element. -/
theorem mapM_emits {α : Type} {d : String} {f : α → Builder String}
    {sem : α → Collation → Row → Truth} :
    ∀ {l : List α} {ss : List String} {st st' : BuilderState},
      (∀ a ∈ l, ∀ {s : String} {st st' : BuilderState}, f a st = .ok (s, st') →
        Emits d st st' s (sem a)) →
      l.mapM f st = .ok (ss, st') → EmitsAll d st st' ss (l.map sem)
  | [], ss, st, st', _, h => by
      simp only [List.mapM_nil, pure_ok] at h
      obtain ⟨rfl, rfl⟩ := h
      exact .nil
  | a :: l, ss, st, st', hf, h => by
      simp only [List.mapM_cons, bind_ok, pure_ok] at h
      obtain ⟨s, st₁, hs, ss, st₂, hss, rfl, rfl⟩ := h
      have hrest := mapM_emits (fun a ha => hf a (List.mem_cons_of_mem _ ha)) hss
      exact (hf a (List.mem_cons_self ..) hs).all.append hrest

theorem checkedCondition_emits {vf : Std.TreeSet String} {cond : FilterCondition} {d s : String}
    {st st' : BuilderState} (hq : quoteChar d ∉ cond.field.toList)
    (h : checkedCondition vf d cond st = .ok (s, st')) :
    Emits d st st' s fun C r => conditionMeaning C r cond := by
  simp only [checkedCondition, bind_ok] at h
  obtain ⟨u, st₁, hu, h⟩ := h
  obtain rfl := validateField_ok hu
  exact buildCondition_emits hq h

theorem legacyFragment_emits {vf : Std.TreeSet String} {entry : String × String} {d s : String}
    {st st' : BuilderState} (hq : quoteChar d ∉ entry.1.toList)
    (h : legacyFragment vf d entry st = .ok (s, st')) :
    Emits d st st' s fun C r => legacyMeaning C r entry := by
  simp only [legacyFragment, bind_ok] at h
  obtain ⟨u, st₁, hu, h⟩ := h
  obtain rfl := validateField_ok hu
  have hbin : binary { field := entry.1, value := entry.2 } " = " d st₁ = .ok (s, st') := by
    simpa only [binary, bind_ok] using h
  exact binary_emits "=" .eq (.cmp .eq) hq rfl (by decide) (by simp) (fun _ _ => rfl)
    (fun C b r k hk => by simp [Cond.eval, Operand.eval, hk, legacyMeaning]) hbin

/-- **A group is one piece that means the disjunction of its own**: bare when it
has one condition, in brackets otherwise. -/
theorem groupFragment_emits {d : String} {ss : List String} {st st' : BuilderState}
    {sems : List (Collation → Row → Truth)} (hne : ss ≠ []) (h : EmitsAll d st st' ss sems) :
    Emits d st st' (groupFragment ss) fun C r => .disj (sems.map (· C r)) := by
  obtain ⟨ps, rfl, hfs⟩ := h
  obtain ⟨tss, cs, hreads, hparses, hplace, hsem⟩ := hfs.pieces (.kw .or) (by simp)
  have hor : Reads d "OR" [.kw .or] := .fixed (by simp) (by decide)
  have hjoin : Reads d (join ss " OR ") (joinTokens (.kw .or) tss) :=
    Reads.join (fun ha hb => by simpa using ha.word " OR " hor hb rfl) hreads
  refine ⟨ps, rfl, ?_⟩
  match ss, tss, cs, hreads, hparses with
  | [s], [ts], [c], .cons hread .nil, .cons hparse .nil =>
      refine ⟨ts, c, hread, hplace, hparse, fun C b r hb => ?_⟩
      show _ = Truth.disj (sems.map (· C r))
      rw [← hsem C b r hb]
      simp
  | s :: s' :: ss, ts :: tss, c :: cs, .cons _ _, .cons hparse hparses =>
      refine ⟨_, orAll c cs, ?_, ?_, hparse.group hparses, fun C b r hb => ?_⟩
      · simpa [groupFragment] using @Reads.bracket d "" _ [] _ rfl hjoin
      · simpa [placeholders] using hplace
      · rw [orAll_eval, hsem C b r hb]

theorem buildGroups_emits {vf : Std.TreeSet String} {d : String} :
    ∀ {groups : List FilterGroup} {ss : List String} {st st' : BuilderState},
      (∀ g ∈ groups, ∀ c ∈ g.conditions, quoteChar d ∉ c.field.toList) →
      buildGroups vf d groups st = .ok (ss, st') →
      EmitsAll d st st' ss ((groups.filter (·.conditions ≠ [])).map fun g C r => groupMeaning C r g)
  | [], ss, st, st', _, h => by
      simp only [buildGroups, pure_ok] at h
      obtain ⟨rfl, rfl⟩ := h
      exact .nil
  | g :: groups, ss, st, st', hq, h => by
      have hqs := fun g' hg' => hq g' (List.mem_cons_of_mem g hg')
      by_cases hg : g.conditions = []
      · rw [buildGroups, if_pos hg] at h
        simpa [hg] using buildGroups_emits hqs h
      · simp only [buildGroups, hg, if_false, bind_ok, pure_ok] at h
        obtain ⟨parts, st₁, hparts, rest, st₂, hrest, rfl, rfl⟩ := h
        have hall := mapM_emits (f := checkedCondition vf d) (fun c hc _ _ _ h =>
          checkedCondition_emits (hq g (List.mem_cons_self ..) c hc) h) hparts
        have hne : parts ≠ [] := by
          rintro rfl
          obtain ⟨ps, -, hfs⟩ := hall
          generalize hsems : List.map _ g.conditions = sems at hfs
          cases hfs
          exact hg (List.map_eq_nil_iff.1 hsems)
        have hone := (groupFragment_emits hne hall).all.append (buildGroups_emits hqs hrest)
        simpa [hg, groupMeaning, Function.comp_def] using hone

/-! ### The clause -/

/-- The root pieces of a call of `build`, in its own order. -/
theorem rootFragments_emits {conditions : List FilterCondition} {filterGroups : List FilterGroup}
    {legacyFilter : Std.TreeMap String String} {vf : Std.TreeSet String} {d clause : String}
    {st st' : BuilderState}
    (hq : ∀ f ∈ usedFields conditions filterGroups legacyFilter, quoteChar d ∉ f.toList)
    (h : build conditions filterGroups legacyFilter vf d st = .ok (clause, st')) :
    ∃ ss sems, EmitsAll d st st' ss sems ∧
      clause = (if ss = [] then "" else "WHERE " ++ join ss " AND ") ∧
      ∀ C r, .conj (sems.map (· C r)) = meaning C r conditions filterGroups legacyFilter := by
  simp only [usedFields, List.mem_append, List.mem_map, List.mem_flatMap] at hq
  simp only [build, bind_ok] at h
  obtain ⟨ls, st₁, hls, cs, st₂, hcs, gs, st₃, hgs, h⟩ := h
  have hlegacy := mapM_emits (f := legacyFragment vf d) (fun e he _ _ _ h =>
    legacyFragment_emits (hq e.1 (.inl (.inl ⟨e, he, rfl⟩))) h) hls
  have hconds := mapM_emits (f := checkedCondition vf d) (fun c hc _ _ _ h =>
    checkedCondition_emits (hq c.field (.inl (.inr ⟨c, hc, rfl⟩))) h) hcs
  have hgroups := buildGroups_emits (fun g hg c hc =>
    hq c.field (.inr ⟨g, hg, c, hc, rfl⟩)) hgs
  have hst : st₃ = st' := by
    split at h <;> exact ((pure_ok.1 h).2)
  refine ⟨ls ++ cs ++ gs, _, hst ▸ (hlegacy.append hconds).append hgroups, ?_, fun C r => ?_⟩
  · split at h
    · next hnil => rw [if_pos hnil, (pure_ok.1 h).1]
    · next hne => rw [if_neg hne, (pure_ok.1 h).1]
  · simp [meaning, Function.comp_def]

/-- A run of pieces joined by `AND` is a clause that denotes their conjunction. -/
theorem Fragments.clause {d : String} {first : Nat} {ss : List String} {ps : List SqlParam}
    {sems : List (Collation → Row → Truth)} (h : Fragments d first ss ps sems) :
    ∃ toks pred,
      tokens (quoteChar d) (if ss = [] then "" else "WHERE " ++ join ss " AND ").toList =
        some toks ∧
      placeholders toks = (if numbered d then (List.range' first ps.length).map some
        else List.replicate ps.length none) ∧
      parseWhere (quoteChar d) first (if ss = [] then "" else "WHERE " ++ join ss " AND ") =
        some pred ∧
      ∀ C r, evalWhere C (bindingOf first ps) r pred = .conj (sems.map (· C r)) := by
  obtain ⟨tss, cs, hreads, hparses, hplace, hsem⟩ := h.pieces (.kw .and) (by simp)
  match ss, tss, cs, hreads, hparses with
  | [], [], [], .nil, .nil =>
      have hps : ps.length = 0 := by
        have := congrArg List.length hplace
        rw [List.length_map, List.length_range'] at this
        exact this.symm
      refine ⟨[], none, rfl, by simp [placeholders, hps], rfl, fun C r => ?_⟩
      rw [← hsem C _ r (bindingOf_binds first ps)]
      rfl
  | s :: ss, ts :: tss, c :: cs, hreads, .cons hparse hparses =>
      have hand : Reads d "AND" [.kw .and] := .fixed (by simp) (by decide)
      have hwhere : Reads d "WHERE" [.kw .where] := .fixed (by simp) (by decide)
      have hjoin : Reads d (join (s :: ss) " AND ") (joinTokens (.kw .and) (ts :: tss)) :=
        Reads.join (fun ha hb => by simpa using ha.word " AND " hand hb rfl) hreads
      have hread : Reads d ("WHERE " ++ join (s :: ss) " AND ")
          (.kw .where :: joinTokens (.kw .and) (ts :: tss)) := by
        simpa using hwhere.blank hjoin
      rw [if_neg (List.cons_ne_nil _ _)]
      refine ⟨_, some (andAll c cs), hread, ?_, ?_, fun C r => ?_⟩
      · rw [placeholders_written, placeholders, hplace]
        · simp
        · simp
      · rw [parseWhere, hread]
        simp [written, numberParams_written hplace, parseTokens_join hparse hparses]
      · rw [evalWhere, andAll_eval, hsem C _ r (bindingOf_binds first ps)]

/-- The tenant of the legacy filter is one of the conjuncts. -/
theorem tenant_of_meaning {C : Collation} {r : Row} {conditions : List FilterCondition}
    {filterGroups : List FilterGroup} {legacyFilter : Std.TreeMap String String} {t : String}
    (ht : legacyFilter["tenantId"]? = some t)
    (h : meaning C r conditions filterGroups legacyFilter = .tt) : r "tenantId" = some t := by
  have hmem : ("tenantId", t) ∈ legacyFilter.toList :=
    Std.TreeMap.mem_toList_iff_getElem?_eq_some.2 ht
  have htt := Truth.conj_eq_tt.1 h (legacyMeaning C r ("tenantId", t))
    (by simp only [List.mem_append, List.mem_map]; exact .inl (.inl ⟨_, hmem, rfl⟩))
  cases hr : r "tenantId" with
  | none => simp [legacyMeaning, hr, lift] at htt
  | some u => simpa [legacyMeaning, hr, lift, CmpOp.holds] using htt

/-- **A built clause denotes what its arguments ask for.**  For names without
the quote character of the dialect, every run of `build` that does not throw
returns a clause whose placeholders are the pushed parameters, consecutive from
the incoming index where they carry numbers, and which parses as the conjunction
of the legacy equalities, the conditions and the groups; so a row that satisfies
it has the tenant that the legacy filter names. -/
theorem build_denotes {conditions : List FilterCondition} {filterGroups : List FilterGroup}
    {legacyFilter : Std.TreeMap String String} {vf : Std.TreeSet String} {d clause : String}
    {st st' : BuilderState}
    (h : build conditions filterGroups legacyFilter vf d st = .ok (clause, st'))
    (hq : ∀ f ∈ usedFields conditions filterGroups legacyFilter, quoteChar d ∉ f.toList) :
    ∃ pushed toks pred,
      st'.params = st.params ++ pushed ∧ st'.paramIndex = st.paramIndex + pushed.length ∧
      tokens (quoteChar d) clause.toList = some toks ∧
      placeholders toks = (if numbered d then (List.range' st.paramIndex pushed.length).map some
        else List.replicate pushed.length none) ∧
      parseWhere (quoteChar d) st.paramIndex clause = some pred ∧
      (∀ C r, evalWhere C (bindingOf st.paramIndex pushed) r pred =
        meaning C r conditions filterGroups legacyFilter) ∧
      ∀ t, legacyFilter["tenantId"]? = some t → ∀ C r,
        evalWhere C (bindingOf st.paramIndex pushed) r pred = .tt → r "tenantId" = some t := by
  obtain ⟨ss, sems, ⟨pushed, rfl, hfs⟩, rfl, hmean⟩ := rootFragments_emits hq h
  obtain ⟨toks, pred, htoks, hplace, hparse, heval⟩ := hfs.clause
  have hall := fun C r => (heval C r).trans (hmean C r)
  exact ⟨pushed, toks, pred, rfl, rfl, htoks, hplace, hparse, hall, fun t ht C r htt =>
    tenant_of_meaning ht (hall C r ▸ htt)⟩

/-- A filter on a tenant, a condition and a group, in the `$n` dialect. -/
theorem build_denotes_tenant_filter :
    ∃ pred, parseWhere (quoteChar "postgres") 1
        "WHERE \"tenantId\" = $1 AND \"a\" > $2 AND \"b\" IN ($3, $4)" = some pred ∧
      ∀ C r, evalWhere C
        (bindingOf 1 [⟨"tenantId", "t1"⟩, ⟨"a", "x"⟩, ⟨"b", "y"⟩, ⟨"b", "z"⟩]) r pred = .tt →
        r "tenantId" = some "t1" := by
  obtain ⟨pushed, toks, pred, hpushed, -, -, -, hparse, -, htenant⟩ :=
    @build_denotes [⟨"a", .gt, "x", []⟩] [⟨[⟨"b", .in, "", ["y", "z"]⟩]⟩]
      (.ofList [("tenantId", "t1")]) (.ofList ["tenantId", "a", "b"]) "postgres"
      "WHERE \"tenantId\" = $1 AND \"a\" > $2 AND \"b\" IN ($3, $4)" ⟨[], 1⟩
      ⟨[⟨"tenantId", "t1"⟩, ⟨"a", "x"⟩, ⟨"b", "y"⟩, ⟨"b", "z"⟩], 5⟩
      (by decide +kernel) (by decide +kernel)
  obtain rfl : _ = pushed := hpushed
  exact ⟨pred, hparse, htenant "t1" (by decide +kernel)⟩

/-- **A name with a quote in it lets a row of another tenant through.**  The
field is in the schema and nothing throws, but the clause reads as
`("tenantId" = $1 AND "a" = $1) OR "a" IS NULL`. -/
theorem injected_quote_escapes_tenant :
    build [{ field := "a\" = $1 OR \"a", op := .isNull }] [] (.ofList [("tenantId", "t1")])
        (.ofList ["tenantId", "a\" = $1 OR \"a"]) "postgres" ⟨[], 1⟩ =
      .ok ("WHERE \"tenantId\" = $1 AND \"a\" = $1 OR \"a\" IS NULL",
        ⟨[⟨"tenantId", "t1"⟩], 2⟩) ∧
    ∃ pred, parseWhere (quoteChar "postgres") 1
        "WHERE \"tenantId\" = $1 AND \"a\" = $1 OR \"a\" IS NULL" = some pred ∧
      ∀ C, evalWhere C (bindingOf 1 [⟨"tenantId", "t1"⟩])
        (fun c => if c = "tenantId" then some "t2" else none) pred = .tt := by
  refine ⟨by decide +kernel, some (.or (.and (.cmp .eq (.col "tenantId") (.param 1))
    (.cmp .eq (.col "a") (.param 1))) (.isNull false (.col "a"))), by decide +kernel, fun C => ?_⟩
  simp [evalWhere, Cond.eval, Operand.eval, lift, Truth.or_eq_tt]

end SqlWhereBuilder
end Dbal
