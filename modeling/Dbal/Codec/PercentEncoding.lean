/-
# Percent-encoding

A byte that may not stand in a URL is written as `%` and its two digits.  Decoding gives back what
was encoded (`percentDecode_percentEncode`).  A text is longer than it was as soon as one byte of it
was encoded (`percentEncode_eq_self_iff`).
-/

import Dbal.Codec.QueryString
import Dbal.Codec.Sextets

namespace Dbal
namespace Codec

/-! ## Digits -/

/-- A hexadecimal digit; `a` is the one for ten. -/
def hexDigit (a n : UInt8) : UInt8 := if n < 10 then '0'.toUInt8 + n else a + (n - 10)

/-- The two digits of a byte. -/
def hexByte (a b : UInt8) : List UInt8 := [hexDigit a (b / 16), hexDigit a (b % 16)]

/-- The digits of a byte are read as that byte. -/
theorem escape?_hexByte (b : UInt8) :
    escape? '%'.toUInt8 (hexDigit 'A'.toUInt8 (b / 16)) (hexDigit 'A'.toUInt8 (b % 16)) =
      some b := by
  revert b
  exact forall_byte (by decide +kernel)

/-- A byte that is no digit does not stand among the digits of a byte. -/
theorem not_mem_hexByte {a c : UInt8} (ha : a = 'A'.toUInt8 ∨ a = 'a'.toUInt8)
    (hc : hexValue c = none) (b : UInt8) : c ∉ hexByte a b := by
  have hdigits : ((hexByte a b).all fun d => (hexValue d).isSome) = true := by
    rcases ha with rfl | rfl
    · revert b
      exact forall_byte (by decide +kernel)
    · revert b
      exact forall_byte (by decide +kernel)
  intro hmem
  have hsome : (hexValue c).isSome = true := List.all_eq_true.1 hdigits c hmem
  rw [hc] at hsome
  cases hsome

/-! ## Texts -/

/-- Each byte that is not kept becomes its escape. -/
def percentEncode (keep : UInt8 → Bool) (bytes : List UInt8) : List UInt8 :=
  bytes.flatMap fun b => if keep b then [b] else '%'.toUInt8 :: hexByte 'A'.toUInt8 b

section Encode

variable {keep : UInt8 → Bool} {bytes : List UInt8}

theorem percentEncode_cons (b : UInt8) (rest : List UInt8) :
    percentEncode keep (b :: rest) =
      (if keep b then [b] else '%'.toUInt8 :: hexByte 'A'.toUInt8 b) ++
        percentEncode keep rest := rfl

/-- **What was encoded is decoded again.** -/
theorem percentDecode_percentEncode (hkeep : keep '%'.toUInt8 = false) (bytes : List UInt8) :
    percentDecode (percentEncode keep bytes) = bytes := by
  induction bytes with
  | nil => rfl
  | cons b bytes ih =>
      rw [percentEncode_cons]
      by_cases hb : keep b = true
      · have hne : b ≠ '%'.toUInt8 := by
          rintro rfl
          rw [hkeep] at hb
          cases hb
        rw [if_pos hb, List.singleton_append,
          percentDecode_cons fun _ _ _ _ => escape?_of_ne hne, ih]
      · rw [if_neg hb, hexByte, List.cons_append, List.cons_append, List.cons_append,
          List.nil_append, percentDecode, escape?_hexByte]
        exact congrArg (b :: ·) ih

theorem length_le_percentEncode (keep : UInt8 → Bool) (bytes : List UInt8) :
    bytes.length ≤ (percentEncode keep bytes).length := by
  induction bytes with
  | nil => exact le_rfl
  | cons b bytes ih =>
      rw [percentEncode_cons, List.length_append, List.length_cons]
      split_ifs
      · rw [List.length_singleton]
        omega
      · rw [List.length_cons]
        omega

/-- **A text is encoded as itself exactly when every byte of it is kept.** -/
theorem percentEncode_eq_self_iff :
    percentEncode keep bytes = bytes ↔ ∀ b ∈ bytes, keep b = true := by
  induction bytes with
  | nil => simp [percentEncode]
  | cons b bytes ih =>
      rw [percentEncode_cons, List.forall_mem_cons, ← ih]
      by_cases hb : keep b = true
      · simp [hb]
      · refine iff_of_false (fun heq => ?_) fun hall => hb hall.1
        have hlength := congrArg List.length heq
        have hle := length_le_percentEncode keep bytes
        rw [if_neg hb, hexByte, List.length_append, List.length_cons, List.length_cons,
          List.length_cons, List.length_nil, List.length_cons] at hlength
        omega

/-- A byte that is neither kept nor part of an escape is not written. -/
theorem not_mem_percentEncode {c : UInt8} (hkeep : keep c = false) (hpercent : c ≠ '%'.toUInt8)
    (hhex : hexValue c = none) (bytes : List UInt8) : c ∉ percentEncode keep bytes := by
  intro hmem
  obtain ⟨b, -, hb⟩ := List.mem_flatMap.1 hmem
  split_ifs at hb with hkept
  · rw [List.mem_singleton.1 hb, hkept] at hkeep
    cases hkeep
  · rcases List.mem_cons.1 hb with heq | hdigit
    · exact hpercent heq
    · exact not_mem_hexByte (.inl rfl) hhex b hdigit

end Encode

end Codec
end Dbal
