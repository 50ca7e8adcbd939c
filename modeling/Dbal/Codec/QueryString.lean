/-
# Query strings

The reading of the query of a URL: it is split at `&`, each piece at its first `=`, and both parts
are percent-decoded (`pairs`).  A text is read back as it is exactly when nothing in it is an escape
(`percentDecode_eq_self_iff`), because an escape is shorter when it is decoded; a separator in a
text makes more pieces (`length_splitOn_eq_one_iff`) or a shorter front (`length_front_lt`).  So the
lengths alone tell whether a query that was put together from texts is read back as meant, and
`eq_of_sum_le` brings an equality of sums down to the summands.
-/

import Mathlib.Algebra.GroupWithZero.Nat
import Mathlib.Algebra.Order.BigOperators.Group.List
import Mathlib.Algebra.Order.Group.Nat
import Mathlib.Data.List.Infix
import Mathlib.Data.List.TakeWhile
import Dbal.Codec.Search

namespace Dbal
namespace Codec

/-- The bytes of a text. -/
def utf8 (s : String) : List UInt8 := s.toList.flatMap String.utf8EncodeChar

@[simp] theorem utf8_append (s t : String) : utf8 (s ++ t) = utf8 s ++ utf8 t := by
  simp [utf8]

theorem utf8_injective {s t : String} (h : utf8 s = utf8 t) : s = t := by
  have hbytes : ∀ u : String, u.toByteArray = (utf8 u).toByteArray := by
    intro u
    rw [utf8, ← List.utf8Encode, String.utf8Encode_toList]
  rw [← String.toByteArray_inj, hbytes, hbytes, h]

theorem utf8_intercalate (sep : String) (texts : List String) :
    utf8 (sep.intercalate texts) = (utf8 sep).intercalate (texts.map utf8) := by
  induction texts with
  | nil => rfl
  | cons text texts ih =>
      cases texts with
      | nil => simp
      | cons next texts =>
          rw [String.intercalate_cons_cons, utf8_append, utf8_append, ih, List.map_cons,
            List.map_cons, List.map_cons, List.intercalate_cons_cons]

/-! ## Sums -/

/-- Summands that are bounded one by one and have the larger sum are equal one by one. -/
theorem eq_of_sum_le {α : Type} {l : List α} {f g : α → Nat} (hle : ∀ x ∈ l, f x ≤ g x)
    (hsum : (l.map g).sum ≤ (l.map f).sum) : ∀ x ∈ l, f x = g x := by
  intro x hx
  refine le_antisymm (hle x hx) (not_lt.1 fun hlt => ?_)
  exact absurd (List.sum_lt_sum f g hle ⟨x, hx, hlt⟩) (not_lt.2 hsum)

/-! ## Escapes -/

/-- The value of a hexadecimal digit. -/
def hexValue (b : UInt8) : Option UInt8 :=
  if '0'.toUInt8 ≤ b ∧ b ≤ '9'.toUInt8 then some (b - '0'.toUInt8)
  else if 'A'.toUInt8 ≤ b ∧ b ≤ 'F'.toUInt8 then some (b - 'A'.toUInt8 + 10)
  else if 'a'.toUInt8 ≤ b ∧ b ≤ 'f'.toUInt8 then some (b - 'a'.toUInt8 + 10)
  else none

/-- The byte that three bytes stand for, if they are an escape. -/
def escape? (a h l : UInt8) : Option UInt8 :=
  if a = '%'.toUInt8 then do
    let high ← hexValue h
    let low ← hexValue l
    return 16 * high + low
  else none

/-- Each escape becomes its byte, everything else stays. -/
def percentDecode : List UInt8 → List UInt8
  | a :: h :: l :: rest =>
      match escape? a h l with
      | some b => b :: percentDecode rest
      | none => a :: percentDecode (h :: l :: rest)
  | bytes => bytes

/-- Nothing in the bytes is an escape. -/
def Literal (bytes : List UInt8) : Prop := ∀ a h l, [a, h, l] <:+: bytes → escape? a h l = none

theorem length_percentDecode_le (bytes : List UInt8) :
    (percentDecode bytes).length ≤ bytes.length := by
  induction bytes using percentDecode.induct with
  | case1 a h l rest b hescape ih =>
      rw [percentDecode, hescape]
      simp only [List.length_cons]
      omega
  | case2 a h l rest hescape ih =>
      rw [percentDecode, hescape]
      simp only [List.length_cons] at ih ⊢
      omega
  | case3 bytes hshort => rw [percentDecode.eq_2 _ hshort]

theorem Literal.tail {a : UInt8} {rest : List UInt8} (h : Literal (a :: rest)) : Literal rest :=
  fun b c d hinfix => h b c d (List.infix_cons hinfix)

theorem literal_of_short {bytes : List UInt8}
    (h : ∀ a b c rest, bytes = a :: b :: c :: rest → False) : Literal bytes := by
  intro a b c hinfix
  obtain _ | ⟨x, _ | ⟨y, _ | ⟨z, rest⟩⟩⟩ := bytes
  · exact absurd hinfix.length_le (by simp)
  · exact absurd hinfix.length_le (by simp)
  · exact absurd hinfix.length_le (by simp)
  · exact (h x y z rest rfl).elim

/-- Decoding that leaves the length leaves the text. -/
theorem percentDecode_of_length {bytes : List UInt8}
    (h : bytes.length ≤ (percentDecode bytes).length) : percentDecode bytes = bytes := by
  induction bytes using percentDecode.induct with
  | case1 a b c rest d hescape ih =>
      have hle := length_percentDecode_le rest
      rw [percentDecode, hescape] at h
      simp only [List.length_cons] at h
      omega
  | case2 a b c rest hescape ih =>
      rw [percentDecode, hescape] at h ⊢
      exact congrArg (a :: ·) (ih (Nat.le_of_succ_le_succ h))
  | case3 bytes hshort => rw [percentDecode.eq_2 _ hshort]

/-- **A text is decoded to itself exactly when nothing in it is an escape.** -/
theorem percentDecode_eq_self_iff {bytes : List UInt8} :
    percentDecode bytes = bytes ↔ Literal bytes := by
  induction bytes using percentDecode.induct with
  | case1 a h l rest b hescape ih =>
      have hle := length_percentDecode_le rest
      constructor
      · intro heq
        have hlength := congrArg List.length heq
        rw [percentDecode, hescape] at hlength
        simp only [List.length_cons] at hlength
        omega
      · intro hliteral
        rw [hliteral a h l ⟨[], rest, rfl⟩] at hescape
        cases hescape
  | case2 a h l rest hescape ih =>
      rw [percentDecode, hescape]
      constructor
      · intro heq x y z hinfix
        rcases List.infix_cons_iff.1 hinfix with hprefix | hinner
        · obtain ⟨back, hback⟩ := hprefix
          cases hback
          exact hescape
        · exact ih.1 (List.cons.inj heq).2 x y z hinner
      · exact fun hliteral => congrArg (a :: ·) (ih.2 hliteral.tail)
  | case3 bytes hshort =>
      rw [percentDecode.eq_2 _ hshort]
      exact iff_of_true rfl (literal_of_short hshort)

theorem escape?_of_ne {a h l : UInt8} (ha : a ≠ '%'.toUInt8) : escape? a h l = none := if_neg ha

/-- Where there is no percent sign, there is no escape. -/
theorem literal_of_not_mem {bytes : List UInt8} (h : '%'.toUInt8 ∉ bytes) : Literal bytes :=
  fun _ _ _ hinfix => escape?_of_ne fun ha =>
    h (ha ▸ hinfix.subset List.mem_cons_self)

theorem escape?_of_low {a h l : UInt8} (hl : hexValue l = none) : escape? a h l = none := by
  unfold escape?
  split
  · cases hexValue h with
    | none => rfl
    | some high => simp [hl]
  · rfl

theorem escape?_of_high {a h l : UInt8} (hh : hexValue h = none) : escape? a h l = none := by
  unfold escape?
  split
  · simp [hh]
  · rfl

/-- A byte without which there is no escape is not part of one. -/
theorem percentDecode_cons {a : UInt8} {rest : List UInt8}
    (h : ∀ x y more, rest = x :: y :: more → escape? a x y = none) :
    percentDecode (a :: rest) = a :: percentDecode rest := by
  obtain _ | ⟨x, _ | ⟨y, more⟩⟩ := rest
  · rfl
  · rfl
  · rw [percentDecode, h x y more rfl]

/-- A byte that is no hexadecimal digit keeps apart what is before it. -/
theorem percentDecode_append {c : UInt8} (hc : hexValue c = none) (front rest : List UInt8) :
    percentDecode (front ++ c :: rest) = percentDecode front ++ percentDecode (c :: rest) := by
  induction front using percentDecode.induct with
  | case1 a h l front b hescape ih =>
      rw [List.cons_append, List.cons_append, List.cons_append, percentDecode, hescape,
        percentDecode, hescape]
      exact congrArg (b :: ·) ih
  | case2 a h l front hescape ih =>
      rw [List.cons_append, List.cons_append, List.cons_append, percentDecode, hescape,
        percentDecode, hescape]
      exact congrArg (a :: ·) ih
  | case3 front hshort =>
      obtain _ | ⟨x, _ | ⟨y, _ | ⟨z, more⟩⟩⟩ := front
      · rfl
      · refine percentDecode_cons fun y z more hmore => ?_
        obtain ⟨rfl, -⟩ := List.cons.inj hmore
        exact escape?_of_high hc
      · have hfirst : ∀ w z more, y :: c :: rest = w :: z :: more → escape? x w z = none := by
          intro w z more hmore
          obtain ⟨-, hmore⟩ := List.cons.inj hmore
          obtain ⟨rfl, -⟩ := List.cons.inj hmore
          exact escape?_of_low hc
        have hsecond : ∀ w z more, c :: rest = w :: z :: more → escape? y w z = none := by
          intro w z more hmore
          obtain ⟨rfl, -⟩ := List.cons.inj hmore
          exact escape?_of_high hc
        exact (percentDecode_cons hfirst).trans (congrArg (x :: ·) (percentDecode_cons hsecond))
      · exact (hshort x y z more rfl).elim

/-! ## Separators -/

section Separators

variable {α : Type} [DecidableEq α] {c : α} {xs : List α}

/-- What stands before the first `c`. -/
def front (c : α) (xs : List α) : List α := xs.takeWhile (· ≠ c)

/-- What stands behind the first `c`; nothing where there is none. -/
def back (c : α) (xs : List α) : List α := (xs.dropWhile (· ≠ c)).tail

theorem front_append (ys rest : List α) : front c (ys ++ c :: rest) = front c ys := by
  induction ys with
  | nil => simp [front]
  | cons y ys ih =>
      unfold front at ih ⊢
      rw [List.cons_append, List.takeWhile_cons, List.takeWhile_cons, ih]

theorem front_eq_self (h : c ∉ xs) : front c xs = xs :=
  List.takeWhile_eq_self_iff.2 fun _ hx => decide_eq_true fun heq => h (heq ▸ hx)

theorem back_append {ys : List α} (h : c ∉ ys) (rest : List α) :
    back c (ys ++ c :: rest) = rest := by
  have hys : ∀ y ∈ ys, decide (y ≠ c) = true := fun y hy => decide_eq_true fun heq => h (heq ▸ hy)
  rw [back, List.dropWhile_append_of_pos hys]
  simp

theorem length_front_le (c : α) (xs : List α) : (front c xs).length ≤ xs.length :=
  (List.takeWhile_sublist _).length_le

theorem not_mem_front (c : α) (xs : List α) : c ∉ front c xs :=
  fun h => of_decide_eq_true (p := c ≠ c) (List.mem_takeWhile_imp (p := (· ≠ c)) h) rfl

/-- A text with a separator is longer than what stands before it. -/
theorem length_front_lt (h : c ∈ xs) : (front c xs).length < xs.length := by
  refine lt_of_le_of_ne (length_front_le c xs) fun heq => ?_
  have hself := (List.takeWhile_sublist (l := xs) (· ≠ c)).eq_of_length heq
  exact not_mem_front c xs (by rwa [front, hself])

theorem length_splitOn_eq_one_iff : (xs.splitOn c).length = 1 ↔ c ∉ xs := by
  constructor
  · intro hlength hmem
    obtain ⟨ys, zs, rfl⟩ := List.append_of_mem hmem
    rw [List.splitOn_append_cons_self, List.length_append] at hlength
    have hys := List.length_pos_of_ne_nil (List.splitOn_ne_nil c ys)
    have hzs := List.length_pos_of_ne_nil (List.splitOn_ne_nil c zs)
    omega
  · intro hmem
    rw [List.splitOn_eq_singleton hmem]
    rfl

theorem front_append_of_mem (h : c ∈ xs) (rest : List α) : front c (xs ++ rest) = front c xs := by
  obtain ⟨ys, zs, rfl⟩ := List.append_of_mem h
  rw [List.append_assoc, List.cons_append, front_append, front_append]

theorem front_append_of_not_mem (h : c ∉ xs) (rest : List α) :
    front c (xs ++ rest) = xs ++ front c rest :=
  List.takeWhile_append_of_pos fun _ hx => decide_eq_true fun heq => h (heq ▸ hx)

theorem front_append_back (h : c ∈ xs) : front c xs ++ c :: back c xs = xs := by
  obtain ⟨ys, zs, rfl, hys⟩ := List.eq_append_cons_of_mem h
  rw [front_append, front_eq_self hys, back_append hys]

theorem back_append_of_mem (h : c ∈ xs) (rest : List α) :
    back c (xs ++ rest) = back c xs ++ rest := by
  obtain ⟨ys, zs, rfl, hys⟩ := List.eq_append_cons_of_mem h
  rw [List.append_assoc, List.cons_append, back_append hys, back_append hys]

theorem back_eq_nil (h : c ∉ xs) : back c xs = [] := by
  have hall : ∀ x ∈ xs, decide (x ≠ c) = true := fun x hx => decide_eq_true fun heq => h (heq ▸ hx)
  rw [back, List.dropWhile_eq_nil_iff.2 hall, List.tail_nil]

/-- A mark behind a text ends it, wherever the text was cut before. -/
theorem front_front_append (d : α) (h : c ≠ d) (xs rest : List α) :
    front c (front d (xs ++ c :: rest)) = front c (front d xs) := by
  by_cases hmem : d ∈ xs
  · rw [front_append_of_mem hmem]
  · have hmark : front d (c :: rest) = c :: front d rest :=
      List.takeWhile_cons_of_pos (decide_eq_true h)
    rw [front_append_of_not_mem hmem, hmark, front_append, front_eq_self hmem]

/-- A text that is cut twice and has its length has neither mark in it. -/
theorem not_mem_of_length_le {d : α} (h : xs.length ≤ (front c (front d xs)).length) :
    c ∉ xs ∧ d ∉ xs := by
  have houter := length_front_le c (front d xs)
  have hno : d ∉ xs := fun hmem => by
    have hlt := length_front_lt hmem
    omega
  rw [front_eq_self hno] at h
  refine ⟨fun hmem => ?_, hno⟩
  have hlt := length_front_lt hmem
  omega

omit [DecidableEq α] in
/-- What stands in a text that was joined stands in a part of it, or is the separator. -/
theorem not_mem_intercalate {x : α} (hx : x ≠ c) {texts : List (List α)}
    (h : ∀ text ∈ texts, x ∉ text) : x ∉ [c].intercalate texts := by
  intro hmem
  rcases mem_intercalate hmem with hseparator | ⟨text, htext, hin⟩
  · exact hx (List.mem_singleton.1 hseparator)
  · exact h text htext hin

/-- The first piece is what stands before the first separator. -/
theorem splitOn_eq_front_cons (c : α) (xs : List α) :
    ∃ more, xs.splitOn c = front c xs :: more := by
  by_cases h : c ∈ xs
  · refine ⟨(back c xs).splitOn c, ?_⟩
    conv_lhs => rw [← front_append_back h]
    rw [List.splitOn_append_cons_self, List.splitOn_eq_singleton (not_mem_front c xs)]
    rfl
  · exact ⟨[], by rw [List.splitOn_eq_singleton h, front_eq_self h]⟩

/-- What was joined is split again, each part for itself. -/
theorem splitOn_intercalate_eq_flatMap (c : α) {texts : List (List α)} (h : texts ≠ []) :
    ([c].intercalate texts).splitOn c = texts.flatMap (List.splitOn c) := by
  induction texts with
  | nil => exact absurd rfl h
  | cons text texts ih =>
      cases texts with
      | nil => simp
      | cons next texts =>
          rw [List.intercalate_cons_cons, List.append_assoc, List.singleton_append,
            List.splitOn_append_cons_self, ih (List.cons_ne_nil next texts)]
          rfl

end Separators

/-! ## Numbers -/

/-- The bytes of a number are digits, or its sign. -/
theorem mem_utf8_number {n : Int} {b : UInt8} (h : b ∈ utf8 (toString n)) :
    b = '-'.toUInt8 ∨ '0'.toUInt8 ≤ b ∧ b ≤ '9'.toUInt8 := by
  have hchars : ∀ c ∈ (toString n).toList, c = '-' ∨ c.isDigit = true := by
    intro c hc
    cases n with
    | ofNat n =>
        have hdigits : (toString (Int.ofNat n)).toList = Nat.toDigits 10 n := by
          simp [toString, Int.repr]
        rw [hdigits] at hc
        exact .inr (Nat.isDigit_of_mem_toDigits (by decide) (by decide) hc)
    | negSucc n =>
        have hdigits : (toString (Int.negSucc n)).toList = '-' :: Nat.toDigits 10 (n + 1) := by
          simp [toString, Int.repr]
        rw [hdigits, List.mem_cons] at hc
        exact hc.imp_right (Nat.isDigit_of_mem_toDigits (by decide) (by decide))
  obtain ⟨c, hc, hb⟩ := List.mem_flatMap.1 h
  rcases hchars c hc with rfl | hdigit
  · exact .inl (List.mem_singleton.1 hb)
  · rw [Char.isDigit, Bool.and_eq_true, decide_eq_true_eq, decide_eq_true_eq] at hdigit
    have hle : c.val.toNat ≤ 57 := hdigit.2
    have hge : 48 ≤ c.val.toNat := hdigit.1
    have hsmall : c.val.toNat ≤ 127 := by omega
    rw [String.utf8EncodeChar_eq_singleton (if_pos hsmall), List.mem_singleton] at hb
    subst hb
    have hvalue : c.val.toUInt8.toNat = c.val.toNat := by
      rw [UInt32.toNat_toUInt8]
      omega
    exact .inr ⟨UInt8.le_iff_toNat_le.2 (hvalue ▸ hge), UInt8.le_iff_toNat_le.2 (hvalue ▸ hle)⟩

/-! ## Queries -/

/-- The name and the value of a piece. -/
def pair (piece : List UInt8) : List UInt8 × List UInt8 :=
  (percentDecode (front '='.toUInt8 piece), percentDecode (back '='.toUInt8 piece))

/-- The names and values that a query stands for. -/
def pairs (query : List UInt8) : List (List UInt8 × List UInt8) :=
  (query.splitOn '&'.toUInt8).map pair

end Codec
end Dbal
