/-
# Parameters written into a text

A client that cannot bind parameters writes them into the text of the statement, in the place of its
placeholders.  A question mark is a placeholder unless it stands between quotes: backticks, apostrophes
or double quotes, the last two with backslash escapes (`Mode`).  `splice` puts literals in the place of
the placeholders and leaves every other character as it was.

A literal is read back with its escapes resolved (`readLiteral`).  One literal is no beginning of
another one with the same value, so that a text with literals in it can be taken apart in one way only
(`literal_unique`).
-/

import Dbal.Sql.Condition

namespace Dbal
namespace Sql

/-! ### Quotes -/

/-- What a character stands in: outside quotes, inside them, or behind a backslash. -/
inductive Mode where
  | code
  | inside (close : Char)
  | escaped (close : Char)
  deriving DecidableEq, Repr

/-- The backtick. -/
abbrev backtick : Char := Char.ofNat 96

/-- One character.  There is no escape between backticks. -/
def Mode.next : Mode → Char → Mode
  | .code, c => if c = backtick ∨ c = '\'' ∨ c = '"' then .inside c else .code
  | .inside close, c =>
      if c = close then .code
      else if c = '\\' ∧ close ≠ backtick then .escaped close
      else .inside close
  | .escaped close, _ => .inside close

theorem Mode.next_close (close : Char) : (Mode.inside close).next close = .code := if_pos rfl

theorem Mode.next_inside {close c : Char} (hne : c ≠ close) (hc : c = '\\' → close = backtick) :
    (Mode.inside close).next c = .inside close := by
  rw [Mode.next, if_neg hne, if_neg fun h => h.2 (hc h.1)]

/-- The number of placeholders. -/
def marks : Mode → List Char → Nat
  | _, [] => 0
  | m, c :: cs => (if m = .code ∧ c = '?' then 1 else 0) + marks (m.next c) cs

/-- The text with literals in the place of its placeholders. -/
def splice : Mode → List Char → List (List Char) → List Char
  | _, [], _ => []
  | m, c :: cs, lits =>
      if m = .code ∧ c = '?' then lits.headD ['?'] ++ splice (m.next c) cs lits.tail
      else c :: splice (m.next c) cs lits

/-- A question mark between quotes has no placeholder behind it. -/
def QuotedLast (m : Mode) (cs : List Char) : Prop :=
  ∀ front back : List Char, cs = front ++ '?' :: back → front.foldl Mode.next m ≠ .code →
    marks ((front.foldl Mode.next m).next '?') back = 0

theorem marks_append : ∀ (front back : List Char) (m : Mode),
    marks m (front ++ back) = marks m front + marks (front.foldl Mode.next m) back
  | [], _, _ => (Nat.zero_add _).symm
  | c :: front, back, m => by
      rw [List.cons_append, marks, marks, marks_append front back, List.foldl_cons, Nat.add_assoc]

theorem quotedLast_of_marks {m : Mode} {cs : List Char} (h : marks m cs = 0) : QuotedLast m cs := by
  rintro front back rfl -
  rw [marks_append, marks] at h
  omega

theorem quotedLast_cons {m : Mode} {c : Char} {cs : List Char} :
    QuotedLast m (c :: cs) ↔
      (c = '?' → m ≠ .code → marks (m.next c) cs = 0) ∧ QuotedLast (m.next c) cs := by
  constructor
  · intro h
    refine ⟨?_, fun front back hcs => h (c :: front) back (by rw [hcs]; rfl)⟩
    rintro rfl hm
    exact h [] cs rfl hm
  · rintro ⟨hhead, htail⟩ (_ | ⟨d, front⟩) back heq hm
    · obtain ⟨rfl, rfl⟩ := List.cons.inj heq
      exact hhead rfl hm
    · obtain ⟨rfl, hcs⟩ := List.cons.inj heq
      exact htail front back hcs hm

/-! ### Literals -/

/-- What a backslash and a character stand for; the last comes first. -/
def unescape : Char → List Char
  | '0' => [Char.ofNat 0]
  | 'b' => [Char.ofNat 8]
  | 'n' => ['\n']
  | 'r' => ['\r']
  | 't' => ['\t']
  | 'Z' => [Char.ofNat 26]
  | '%' => ['%', '\\']
  | '_' => ['_', '\\']
  | c => [c]

/-- What was read of a literal, in reverse. -/
inductive Literal where
  | body (acc : List Char)
  | escaped (acc : List Char)
  /-- An apostrophe was read: the end, unless it is doubled. -/
  | closed (acc : List Char)

/-- What was read. -/
def Literal.acc : Literal → List Char
  | .body acc | .escaped acc | .closed acc => acc

/-- One character of a literal; a closed one has no more but another apostrophe. -/
def Literal.next : Literal → Char → Option Literal
  | .body acc, c =>
      if c = '\'' then some (.closed acc)
      else if c = '\\' then some (.escaped acc)
      else some (.body (c :: acc))
  | .escaped acc, c => some (.body (unescape c ++ acc))
  | .closed acc, c => if c = '\'' then some (.body ('\'' :: acc)) else none

/-- The rest of a literal. -/
def readFrom : Literal → List Char → Option (List Char)
  | .closed acc, [] => some acc.reverse
  | .body _, [] | .escaped _, [] => none
  | l, c :: cs => (l.next c).bind (readFrom · cs)

/-- The value of a literal between apostrophes. -/
def readLiteral (lit : List Char) : Option String :=
  if lit.head? = some '\'' then (readFrom (.body []) lit.tail).map String.ofList else none

/-- What is read grows, and grows with each character behind the closing one. -/
theorem Literal.length_next {l l' : Literal} {c : Char} (h : l.next c = some l') :
    l.acc.length ≤ l'.acc.length ∧ (∀ acc, l = .closed acc → acc.length < l'.acc.length) := by
  cases l with
  | body acc =>
      rw [Literal.next] at h
      refine ⟨?_, fun _ hl => by cases hl⟩
      split_ifs at h <;> obtain rfl := Option.some.inj h
      · exact Nat.le_refl _
      · exact Nat.le_refl _
      · exact Nat.le_succ _
  | escaped acc =>
      obtain rfl := Option.some.inj h
      refine ⟨?_, fun _ hl => by cases hl⟩
      simp only [Literal.acc, List.length_append]
      omega
  | closed acc =>
      rw [Literal.next] at h
      split_ifs at h
      obtain rfl := Option.some.inj h
      refine ⟨Nat.le_succ _, fun _ hl => ?_⟩
      obtain rfl := Literal.closed.inj hl
      exact Nat.lt_succ_self _

theorem length_readFrom : ∀ {cs : List Char} {l : Literal} {v : List Char},
    readFrom l cs = some v → l.acc.length ≤ v.length
  | [], l, v, h => by
      cases l with
      | closed acc =>
          obtain rfl := Option.some.inj h
          exact Nat.le_of_eq (List.length_reverse).symm
      | _ => cases h
  | c :: cs, l, v, h => by
      rw [readFrom] at h
      obtain ⟨l', hl', hrest⟩ := Option.bind_eq_some_iff.1 h
      exact Nat.le_trans (Literal.length_next hl').1 (length_readFrom hrest)

/-- Where a literal ends, the reader goes on with what is behind it. -/
theorem readFrom_append {back : List Char} : ∀ {front : List Char} {l : Literal} {v : List Char},
    readFrom l front = some v → readFrom l (front ++ back) = readFrom (.closed v.reverse) back
  | [], l, v, h => by
      cases l with
      | closed acc =>
          obtain rfl := Option.some.inj h
          rw [List.reverse_reverse, List.nil_append]
      | _ => cases h
  | c :: front, l, v, h => by
      rw [readFrom] at h
      obtain ⟨l', hl', hrest⟩ := Option.bind_eq_some_iff.1 h
      rw [List.cons_append, readFrom, hl']
      exact readFrom_append hrest

/-- **A literal is no beginning of another with its value.** -/
theorem literal_prefix {a b : List Char} {value : String} (ha : readLiteral a = some value)
    (hab : readLiteral (a ++ b) = some value) : b = [] := by
  unfold readLiteral at ha hab
  split_ifs at ha with hhead
  obtain ⟨c, a, rfl⟩ : ∃ c a', a = c :: a' := by
    cases a with
    | nil => cases hhead
    | cons c a => exact ⟨c, a, rfl⟩
  rw [List.head?_cons] at hhead
  rw [List.cons_append, List.head?_cons, if_pos hhead] at hab
  obtain ⟨v, hv, hvalue⟩ := Option.map_eq_some_iff.1 ha
  obtain ⟨w, hw, hvalue'⟩ := Option.map_eq_some_iff.1 hab
  obtain rfl : v = w := String.ofList_injective (hvalue.trans hvalue'.symm)
  rw [List.tail_cons] at hv hw
  rw [readFrom_append hv] at hw
  cases b with
  | nil => rfl
  | cons d b =>
      rw [readFrom] at hw
      obtain ⟨l', hl', hrest⟩ := Option.bind_eq_some_iff.1 hw
      have hlt := (Literal.length_next hl').2 _ rfl
      have hle := length_readFrom hrest
      rw [List.length_reverse] at hlt
      omega

/-- **A text that begins with a literal of a value does so in one way.** -/
theorem literal_unique {a b x y : List Char} {value : String} (ha : readLiteral a = some value)
    (hb : readLiteral b = some value) (h : a ++ x = b ++ y) : a = b ∧ x = y := by
  rcases List.append_eq_append_iff.1 h with ⟨c, rfl, rfl⟩ | ⟨c, rfl, rfl⟩
  · obtain rfl := literal_prefix ha hb
    exact ⟨(List.append_nil a).symm, rfl⟩
  · obtain rfl := literal_prefix hb ha
    exact ⟨List.append_nil b, rfl⟩

/-- A literal begins with an apostrophe. -/
theorem head_of_readLiteral {lit : List Char} {value : String} (h : readLiteral lit = some value) :
    ∃ rest, lit = '\'' :: rest := by
  unfold readLiteral at h
  split_ifs at h with hhead
  cases lit with
  | nil => cases hhead
  | cons c rest => exact ⟨rest, by rw [Option.some.inj hhead]⟩

/-! ### Tokens -/

/-- What the scanner of tokens is inside of. -/
def Scan.mode : Scan → Mode
  | .ident _ => .inside backtick
  | .str _ => .inside '\''
  | _ => .code

/-- The number of bare placeholders. -/
abbrev bareCount (ts : List Token) : Nat := (placeholders ts).count none

theorem bareCount_append (ts us : List Token) : bareCount (ts ++ us) = bareCount ts + bareCount us := by
  rw [bareCount, placeholders_append, List.count_append]

theorem bareCount_wordToken (s : List Char) : bareCount [wordToken s] = 0 := by
  unfold wordToken
  split <;> rfl

theorem bareCount_flush {st : Scan} {ts : List Token} (h : st.flush = some ts) :
    bareCount ts = 0 := by
  cases st with
  | ident acc => cases h
  | str acc => cases h
  | bang => cases h
  | dollar acc =>
      cases acc with
      | nil => cases h
      | cons c acc =>
          obtain rfl := Option.some.inj h
          rfl
  | word acc =>
      obtain rfl := Option.some.inj h
      exact bareCount_wordToken acc.reverse
  | _ =>
      obtain rfl := Option.some.inj h
      rfl

/-- What one character does outside quotes: it is a placeholder if it is a question mark, and the
scanner goes where the quotes go. -/
def Follows (m : Mode) (c : Char) (ts : List Token) (st : Scan) : Prop :=
  (bareCount ts = if m = .code ∧ c = '?' then 1 else 0) ∧ st.mode = m.next c

theorem Follows.of_eq {m : Mode} {c : Char} {ts ts' : List Token} {st st' : Scan}
    (hfollows : Follows m c ts st) (h : some (ts, st) = some (ts', st')) : Follows m c ts' st' := by
  obtain ⟨rfl, rfl⟩ := Prod.mk.inj (Option.some.inj h)
  exact hfollows

/-- A character that is neither a quote nor a question mark. -/
theorem follows_plain {c : Char} {st : Scan} (hst : st.mode = .code)
    (hc : c ≠ backtick ∧ c ≠ '\'' ∧ c ≠ '"' ∧ c ≠ '?') : Follows .code c [] st := by
  obtain ⟨hback, happ, hquote, hmark⟩ := hc
  refine ⟨(if_neg fun h => hmark h.2).symm, hst.trans ?_⟩
  rw [Mode.next, if_neg]
  rintro (h | h | h)
  · exact hback h
  · exact happ h
  · exact hquote h

theorem plain_of_class {c : Char} {p : Char → Bool}
    (hp : p backtick = false ∧ p '\'' = false ∧ p '"' = false ∧ p '?' = false) (hc : p c = true) :
    c ≠ backtick ∧ c ≠ '\'' ∧ c ≠ '"' ∧ c ≠ '?' := by
  have hne : ∀ d, p d = false → c ≠ d := by
    rintro d hd rfl
    rw [hd] at hc
    cases hc
  exact ⟨hne _ hp.1, hne _ hp.2.1, hne _ hp.2.2.1, hne _ hp.2.2.2⟩

theorem begin_follows {c : Char} {ts : List Token} {st : Scan}
    (h : begin backtick c = some (ts, st)) : Follows .code c ts st := by
  unfold begin at h
  have hite : ∀ {p : Prop} [Decidable p] {a b : Option (List Token × Scan)},
      (if p then a else b) = some (ts, st) →
        p ∧ a = some (ts, st) ∨ b = some (ts, st) := by
    intro p _ a b hif
    by_cases hp : p
    · exact Or.inl ⟨hp, (if_pos hp).symm.trans hif⟩
    · exact Or.inr ((if_neg hp).symm.trans hif)
  -- one case for each character that begins a token, and then digits and letters
  iterate 14
    rcases hite h with ⟨rfl, heq⟩ | h
    · exact .of_eq ⟨rfl, rfl⟩ heq
  rcases hite h with ⟨hdigit, heq⟩ | h
  · exact .of_eq (follows_plain rfl (@plain_of_class c Char.isDigit (by decide) hdigit)) heq
  rcases hite h with ⟨hletter, heq⟩ | h
  · exact .of_eq (follows_plain rfl
      (@plain_of_class c (fun c => c.isAlpha || c = '_') (by decide) hletter)) heq
  · cases h

theorem endBefore_follows {c : Char} {ts : List Token} {st st' : Scan}
    (h : endBefore backtick st c = some (ts, st')) : Follows .code c ts st' := by
  unfold endBefore at h
  split at h
  · next us vs st'' hflush hbegin =>
      obtain ⟨rfl, rfl⟩ := Prod.mk.inj (Option.some.inj h)
      obtain ⟨hcount, hmode⟩ := begin_follows hbegin
      exact ⟨by rw [bareCount_append, bareCount_flush hflush, Nat.zero_add, hcount], hmode⟩
  · cases h

/-- **The scanner of tokens and the quotes of the text go together**, where no string has a
backslash. -/
theorem step_follows {c : Char} {ts : List Token} {st st' : Scan}
    (hstr : ∀ acc, st = .str acc → c ≠ '\\') (h : step backtick st c = some (ts, st')) : Follows st.mode c ts st' := by
  cases st with
  | start => exact begin_follows h
  | word acc =>
      rw [step] at h
      split_ifs at h with hword
      · exact .of_eq (follows_plain rfl
          (@plain_of_class c (fun c => c.isAlphanum || c = '_') (by decide) hword)) h
      · exact endBefore_follows h
  | num acc =>
      rw [step] at h
      split_ifs at h with hnum
      · exact .of_eq (follows_plain rfl
          (@plain_of_class c (fun c => c.isDigit || c = '.') (by decide) hnum)) h
      · exact endBefore_follows h
  | dollar acc =>
      rw [step] at h
      split_ifs at h with hdigit
      · exact .of_eq (follows_plain rfl (@plain_of_class c Char.isDigit (by decide) hdigit)) h
      · exact endBefore_follows h
  | ident acc =>
      rw [step] at h
      split_ifs at h with hclose
      · subst hclose
        refine .of_eq ?_ h
        exact ⟨rfl, (Mode.next_close _).symm⟩
      · refine .of_eq ?_ h
        exact ⟨rfl, (Mode.next_inside hclose fun _ => rfl).symm⟩
  | identEnd acc =>
      rw [step] at h
      split_ifs at h with hopen
      · subst hopen
        exact .of_eq ⟨rfl, rfl⟩ h
      · exact endBefore_follows h
  | str acc =>
      rw [step] at h
      split_ifs at h with hclose
      · subst hclose
        refine .of_eq ?_ h
        exact ⟨rfl, (Mode.next_close _).symm⟩
      · refine .of_eq ?_ h
        exact ⟨rfl, (Mode.next_inside hclose fun hc => absurd hc (hstr acc rfl)).symm⟩
  | strEnd acc =>
      rw [step] at h
      split_ifs at h with hopen
      · subst hopen
        exact .of_eq ⟨rfl, rfl⟩ h
      · exact endBefore_follows h
  | lt =>
      rw [step] at h
      split_ifs at h with heq hgt
      · subst heq
        exact .of_eq ⟨rfl, rfl⟩ h
      · subst hgt
        exact .of_eq ⟨rfl, rfl⟩ h
      · exact endBefore_follows h
  | gt =>
      rw [step] at h
      split_ifs at h with heq
      · subst heq
        exact .of_eq ⟨rfl, rfl⟩ h
      · exact endBefore_follows h
  | bang =>
      rw [step] at h
      split_ifs at h with heq
      subst heq
      exact .of_eq ⟨rfl, rfl⟩ h
  | dash =>
      rw [step] at h
      split_ifs at h
      exact endBefore_follows h

/-- What was read of a token between quotes, and which token it is. -/
def Scan.quoted : Scan → Option ((String → Token) × List Char)
  | .ident acc | .identEnd acc => some (.ident, acc)
  | .str acc | .strEnd acc => some (.str, acc)
  | _ => none

theorem mem_flush {st : Scan} {ts : List Token} {token : String → Token} {acc : List Char}
    (hst : st.quoted = some (token, acc)) (h : st.flush = some ts) :
    ∃ s, token s ∈ ts ∧ ∀ c ∈ acc, c ∈ s.toList := by
  have hmem : ∀ c ∈ acc, c ∈ (String.ofList acc.reverse).toList := by
    intro c hc
    rw [String.toList_ofList]
    exact List.mem_reverse.2 hc
  cases st with
  | ident acc' => cases h
  | str acc' => cases h
  | identEnd acc' =>
      obtain ⟨rfl, rfl⟩ := Prod.mk.inj (Option.some.inj hst)
      obtain rfl := Option.some.inj h
      exact ⟨_, List.mem_singleton_self _, hmem⟩
  | strEnd acc' =>
      obtain ⟨rfl, rfl⟩ := Prod.mk.inj (Option.some.inj hst)
      obtain rfl := Option.some.inj h
      exact ⟨_, List.mem_singleton_self _, hmem⟩
  | _ => cases hst

/-- A character of a token between quotes stays in it. -/
theorem step_quoted {c d : Char} {st st' : Scan} {ts : List Token} {token : String → Token}
    {acc : List Char} (hst : st.quoted = some (token, acc)) (hd : d ∈ acc)
    (h : step backtick st c = some (ts, st')) :
    (∃ acc', st'.quoted = some (token, acc') ∧ d ∈ acc') ∨ ∃ s, token s ∈ ts ∧ d ∈ s.toList := by
  have hend (hend : endBefore backtick st c = some (ts, st')) : ∃ s, token s ∈ ts ∧ d ∈ s.toList := by
    unfold endBefore at hend
    split at hend
    · next us vs st'' hflush hbegin =>
        obtain ⟨rfl, rfl⟩ := Prod.mk.inj (Option.some.inj hend)
        obtain ⟨s, hs, hall⟩ := mem_flush hst hflush
        exact ⟨s, List.mem_append_left _ hs, hall d hd⟩
    · cases hend
  have hstay {st'' : Scan} {acc' : List Char} (heq : some (([] : List Token), st'') = some (ts, st'))
      (hacc : st''.quoted = some (token, acc')) (hd' : d ∈ acc') :
      ∃ acc', st'.quoted = some (token, acc') ∧ d ∈ acc' := by
    obtain ⟨rfl, rfl⟩ := Prod.mk.inj (Option.some.inj heq)
    exact ⟨acc', hacc, hd'⟩
  cases st with
  | ident acc' =>
      obtain ⟨rfl, rfl⟩ := Prod.mk.inj (Option.some.inj hst)
      rw [step] at h
      split_ifs at h
      · exact Or.inl (hstay h rfl hd)
      · exact Or.inl (hstay h rfl (List.mem_cons_of_mem c hd))
  | identEnd acc' =>
      obtain ⟨rfl, rfl⟩ := Prod.mk.inj (Option.some.inj hst)
      rw [step] at h
      split_ifs at h
      · exact Or.inl (hstay h rfl (List.mem_cons_of_mem _ hd))
      · exact Or.inr (hend h)
  | str acc' =>
      obtain ⟨rfl, rfl⟩ := Prod.mk.inj (Option.some.inj hst)
      rw [step] at h
      split_ifs at h
      · exact Or.inl (hstay h rfl hd)
      · exact Or.inl (hstay h rfl (List.mem_cons_of_mem c hd))
  | strEnd acc' =>
      obtain ⟨rfl, rfl⟩ := Prod.mk.inj (Option.some.inj hst)
      rw [step] at h
      split_ifs at h
      · exact Or.inl (hstay h rfl (List.mem_cons_of_mem _ hd))
      · exact Or.inr (hend h)
  | _ => cases hst

/-- **What is read between quotes is in a name or a string.** -/
theorem mem_scan {d : Char} {token : String → Token} :
    ∀ {cs : List Char} {st : Scan} {ts : List Token} {acc : List Char},
      scan backtick st cs = some ts → st.quoted = some (token, acc) → d ∈ acc →
        ∃ s, token s ∈ ts ∧ d ∈ s.toList
  | [], st, ts, acc, h, hst, hd => by
      obtain ⟨s, hs, hall⟩ := mem_flush hst h
      exact ⟨s, hs, hall d hd⟩
  | c :: cs, st, ts, acc, h, hst, hd => by
      rw [scan] at h
      split at h
      · cases h
      · next us st' hstep =>
          obtain ⟨vs, hvs, rfl⟩ := Option.map_eq_some_iff.1 h
          rcases step_quoted hst hd hstep with ⟨acc', hacc, hd'⟩ | ⟨s, hs, hd'⟩
          · obtain ⟨s, hs, hd'⟩ := mem_scan hvs hacc hd'
            exact ⟨s, List.mem_append_right us hs, hd'⟩
          · exact ⟨s, List.mem_append_left vs hs, hd'⟩

/-- Neither a name nor a string has a question mark in it, and no string a backslash. -/
structure Unmarked (ts : List Token) : Prop where
  ident : ∀ s, .ident s ∈ ts → '?' ∉ s.toList
  str : ∀ s, .str s ∈ ts → '?' ∉ s.toList ∧ '\\' ∉ s.toList

/-- **A text that reads as unmarked tokens has its placeholders where they are read**, and no question
mark between quotes. -/
theorem marks_of_scan : ∀ {cs : List Char} {st : Scan} {ts : List Token},
    scan backtick st cs = some ts → Unmarked ts →
      marks st.mode cs = bareCount ts ∧ QuotedLast st.mode cs
  | [], _, _, h, _ => ⟨(bareCount_flush h).symm, quotedLast_of_marks rfl⟩
  | c :: cs, st, ts, h, hunmarked => by
      rw [scan] at h
      split at h
      · cases h
      · next us st' hstep =>
          obtain ⟨vs, hvs, rfl⟩ := Option.map_eq_some_iff.1 h
          have hstr : ∀ acc, st = .str acc → c ≠ '\\' := by
            rintro acc rfl rfl
            obtain ⟨-, rfl⟩ := Prod.mk.inj (Option.some.inj hstep)
            obtain ⟨s, hs, hmem⟩ := mem_scan hvs rfl List.mem_cons_self
            exact (hunmarked.str s (List.mem_append_right us hs)).2 hmem
          obtain ⟨hcount, hmode⟩ := step_follows hstr hstep
          obtain ⟨hrest, hlast⟩ := marks_of_scan hvs
            ⟨fun s hs => hunmarked.ident s (List.mem_append_right us hs),
              fun s hs => hunmarked.str s (List.mem_append_right us hs)⟩
          rw [hmode] at hrest hlast
          refine ⟨by rw [marks, hrest, bareCount_append, hcount], quotedLast_cons.2 ⟨?_, hlast⟩⟩
          rintro rfl hinside
          cases st with
          | ident acc =>
              obtain ⟨-, rfl⟩ := Prod.mk.inj (Option.some.inj hstep)
              obtain ⟨s, hs, hmem⟩ := mem_scan hvs rfl List.mem_cons_self
              exact absurd hmem (hunmarked.ident s (List.mem_append_right us hs))
          | str acc =>
              obtain ⟨-, rfl⟩ := Prod.mk.inj (Option.some.inj hstep)
              obtain ⟨s, hs, hmem⟩ := mem_scan hvs rfl List.mem_cons_self
              exact absurd hmem (hunmarked.str s (List.mem_append_right us hs)).1
          | _ => exact absurd rfl hinside

end Sql
end Dbal
