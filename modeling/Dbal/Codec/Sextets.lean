/-
# Sextets

The arithmetic of base 64.  Three octets are four numbers below sixty-four (`sextets`, `octets`), a
last group of two or one octets is three or two of them, whose low bits are zero.  An encoder takes
the numbers from a 32-bit word by shifts (`encode`), a decoder shifts them into a 32-bit register
and takes an octet out as soon as eight bits are there (`accumulate`).  The register is never
emptied: what it held before a group has been shifted out of reach of the octets of the group
(`accumulate_eq_octets`), so the length of the text does not matter.
-/

import Mathlib.Algebra.Group.Nat.Defs
import Mathlib.Data.List.Basic

namespace Dbal
namespace Codec

/-- What holds of each of the 256 bytes holds of every byte. -/
theorem forall_byte {p : UInt8 → Prop} (h : ∀ n : Fin 256, p (UInt8.ofNat n)) (b : UInt8) :
    p b := by
  have hb := h ⟨b.toNat, b.toNat_lt⟩
  rwa [UInt8.ofNat_toNat] at hb

/-- The octets as numbers of six bits; a last group of one or two is filled up with zero bits. -/
def sextets : List UInt8 → List Nat
  | [] => []
  | [a] => [a.toNat / 4, a.toNat % 4 * 16]
  | [a, b] => [a.toNat / 4, a.toNat % 4 * 16 + b.toNat / 16, b.toNat % 16 * 4]
  | a :: b :: c :: rest =>
      a.toNat / 4 :: (a.toNat % 4 * 16 + b.toNat / 16) :: (b.toNat % 16 * 4 + c.toNat / 64) ::
        c.toNat % 64 :: sextets rest

/-- The octets of numbers of six bits; the bits left over in a last group are dropped. -/
def octets : List Nat → List UInt8
  | p :: q :: r :: s :: rest =>
      UInt8.ofNat (p * 4 + q / 16) :: UInt8.ofNat (q % 16 * 16 + r / 4) ::
        UInt8.ofNat (r % 4 * 64 + s) :: octets rest
  | [p, q, r] => [UInt8.ofNat (p * 4 + q / 16), UInt8.ofNat (q % 16 * 16 + r / 4)]
  | [p, q] => [UInt8.ofNat (p * 4 + q / 16)]
  | [_] => []
  | [] => []

theorem ofNat_eq {n : Nat} {a : UInt8} (h : n = a.toNat) : UInt8.ofNat n = a := by
  rw [h, UInt8.ofNat_toNat]

theorem octets_sextets (bytes : List UInt8) : octets (sextets bytes) = bytes := by
  induction bytes using sextets.induct with
  | case1 => rfl
  | case2 a =>
      have hfirst : UInt8.ofNat (a.toNat / 4 * 4 + a.toNat % 4 * 16 / 16) = a :=
        ofNat_eq (by omega)
      simp only [sextets, octets, hfirst]
  | case3 a b =>
      have ha := a.toNat_lt
      have hb := b.toNat_lt
      have hfirst : UInt8.ofNat (a.toNat / 4 * 4 + (a.toNat % 4 * 16 + b.toNat / 16) / 16) = a :=
        ofNat_eq (by omega)
      have hsecond : UInt8.ofNat ((a.toNat % 4 * 16 + b.toNat / 16) % 16 * 16 +
          b.toNat % 16 * 4 / 4) = b := ofNat_eq (by omega)
      simp only [sextets, octets, hfirst, hsecond]
  | case4 a b c rest ih =>
      have ha := a.toNat_lt
      have hb := b.toNat_lt
      have hc := c.toNat_lt
      have hfirst : UInt8.ofNat (a.toNat / 4 * 4 + (a.toNat % 4 * 16 + b.toNat / 16) / 16) = a :=
        ofNat_eq (by omega)
      have hsecond : UInt8.ofNat ((a.toNat % 4 * 16 + b.toNat / 16) % 16 * 16 +
          (b.toNat % 16 * 4 + c.toNat / 64) / 4) = b := ofNat_eq (by omega)
      have hthird : UInt8.ofNat ((b.toNat % 16 * 4 + c.toNat / 64) % 4 * 64 + c.toNat % 64) = c :=
        ofNat_eq (by omega)
      simp only [sextets, octets, hfirst, hsecond, hthird, ih]

theorem sextets_lt {bytes : List UInt8} {d : Nat} (hd : d ∈ sextets bytes) : d < 64 := by
  induction bytes using sextets.induct with
  | case1 => cases hd
  | case2 a =>
      have ha := a.toNat_lt
      simp only [sextets, List.mem_cons, List.not_mem_nil, or_false] at hd
      omega
  | case3 a b =>
      have ha := a.toNat_lt
      have hb := b.toNat_lt
      simp only [sextets, List.mem_cons, List.not_mem_nil, or_false] at hd
      omega
  | case4 a b c rest ih =>
      have ha := a.toNat_lt
      have hb := b.toNat_lt
      have hc := c.toNat_lt
      simp only [sextets, List.mem_cons] at hd
      rcases hd with rfl | rfl | rfl | rfl | hd
      · omega
      · omega
      · omega
      · omega
      · exact ih hd

section Encoding

variable {α : Type*}

/-- The three octets of a group in one word. -/
def word (a b c : UInt8) : UInt32 := (a.toUInt32 <<< 16) ||| (b.toUInt32 <<< 8) ||| c.toUInt32

/-- The six bits of a word above the lowest `k`. -/
def digit (n k : UInt32) : Nat := ((n >>> k) &&& 0x3F).toNat

/-- Groups of three octets as four characters of the alphabet `char`; a last group of one or two
octets is followed by two or one times `pad`. -/
def encode (char : Nat → α) (pad : List α) : List UInt8 → List α
  | [] => []
  | [a] =>
      let n := word a 0 0
      char (digit n 18) :: char (digit n 12) :: (pad ++ pad)
  | [a, b] =>
      let n := word a b 0
      char (digit n 18) :: char (digit n 12) :: char (digit n 6) :: pad
  | a :: b :: c :: rest =>
      let n := word a b c
      char (digit n 18) :: char (digit n 12) :: char (digit n 6) :: char (digit n 0) ::
        encode char pad rest

/-- What fills the last group up. -/
def padding (pad : List α) (bytes : List UInt8) : List α :=
  match bytes.length % 3 with
  | 1 => pad ++ pad
  | 2 => pad
  | _ => []

theorem toNat_word (a b c : UInt8) :
    (word a b c).toNat = a.toNat * 65536 + b.toNat * 256 + c.toNat := by
  have ha := a.toNat_lt
  have hb := b.toNat_lt
  have hc := c.toNat_lt
  have hlow : b.toNat <<< 8 ||| c.toNat = b.toNat * 256 + c.toNat := by
    rw [← Nat.shiftLeft_add_eq_or_of_lt hc, Nat.shiftLeft_eq]
  have hhigh : a.toNat <<< 16 ||| (b.toNat * 256 + c.toNat) =
      a.toNat * 65536 + (b.toNat * 256 + c.toNat) := by
    rw [← Nat.shiftLeft_add_eq_or_of_lt (by omega), Nat.shiftLeft_eq]
  have hshift : a.toNat <<< 16 % 4294967296 = a.toNat <<< 16 ∧
      b.toNat <<< 8 % 4294967296 = b.toNat <<< 8 := by
    rw [Nat.shiftLeft_eq, Nat.shiftLeft_eq]
    omega
  simp only [word, UInt32.toNat_or, UInt32.toNat_shiftLeft, UInt8.toNat_toUInt32,
    UInt32.reduceToNat, Nat.reduceMod, Nat.reducePow, hshift]
  rw [Nat.or_assoc, hlow, hhigh]
  omega

theorem digit_eq (n k : UInt32) (hk : k.toNat < 32) : digit n k = n.toNat / 2 ^ k.toNat % 64 := by
  simp only [digit, UInt32.toNat_and, UInt32.toNat_shiftRight, Nat.mod_eq_of_lt hk,
    Nat.shiftRight_eq_div_pow]
  exact Nat.and_two_pow_sub_one_eq_mod _ 6

/-- The four numbers of a group, read from its word. -/
theorem digits_word (a b c : UInt8) :
    digit (word a b c) 18 = a.toNat / 4 ∧
    digit (word a b c) 12 = a.toNat % 4 * 16 + b.toNat / 16 ∧
    digit (word a b c) 6 = b.toNat % 16 * 4 + c.toNat / 64 ∧
    digit (word a b c) 0 = c.toNat % 64 := by
  have ha := a.toNat_lt
  have hb := b.toNat_lt
  have hc := c.toNat_lt
  have h18 : (18 : UInt32).toNat = 18 := rfl
  have h12 : (12 : UInt32).toNat = 12 := rfl
  have h6 : (6 : UInt32).toNat = 6 := rfl
  have h0 : (0 : UInt32).toNat = 0 := rfl
  rw [digit_eq _ _ (by decide), digit_eq _ _ (by decide), digit_eq _ _ (by decide),
    digit_eq _ _ (by decide), toNat_word, h18, h12, h6, h0]
  omega

theorem padding_group (pad : List α) (a b c : UInt8) (rest : List UInt8) :
    padding pad (a :: b :: c :: rest) = padding pad rest := by
  have hmod : (a :: b :: c :: rest).length % 3 = rest.length % 3 := Nat.add_mod_right _ 3
  simp only [padding, hmod]

theorem encode_eq (char : Nat → α) (pad : List α) (bytes : List UInt8) :
    encode char pad bytes = (sextets bytes).map char ++ padding pad bytes := by
  induction bytes using sextets.induct with
  | case1 => rfl
  | case2 a =>
      obtain ⟨h18, h12, -, -⟩ := digits_word a 0 0
      simp [encode, sextets, padding, h18, h12]
  | case3 a b =>
      obtain ⟨h18, h12, h6, -⟩ := digits_word a b 0
      simp [encode, sextets, padding, h18, h12, h6]
  | case4 a b c rest ih =>
      obtain ⟨h18, h12, h6, h0⟩ := digits_word a b c
      simp [encode, sextets, padding_group, h18, h12, h6, h0, ih]

end Encoding

section Register

/-- Six more bits at the low end of the register. -/
def push (val : UInt32) (d : Nat) : UInt32 := (val <<< 6) + UInt32.ofNat d

/-- A register of which `valb + 8` bits are not yet taken out: six bits in, and an octet out when
eight are there. -/
def accumulate (val : UInt32) (valb : Int) : List Nat → List UInt8
  | [] => []
  | d :: ds =>
      if 0 ≤ valb + 6 then
        (push val d >>> UInt32.ofNat (valb + 6).toNat).toUInt8 ::
          accumulate (push val d) (valb + 6 - 8) ds
      else accumulate (push val d) (valb + 6) ds

theorem toNat_push (val : UInt32) (d : Nat) :
    (push val d).toNat = (val.toNat * 64 + d) % 4294967296 := by
  have hsix : (6 : UInt32).toNat % 32 = 6 := by decide
  rw [push, UInt32.toNat_add, UInt32.toNat_shiftLeft, UInt32.toNat_ofNat', Nat.shiftLeft_eq, hsix]
  omega

/-- Only the eight bits above the lowest `k` reach the octet. -/
theorem toUInt8_shiftRight {val k : UInt32} {n : Nat} (hk : k.toNat < 32)
    (h : val.toNat / 2 ^ k.toNat % 256 = n % 256) : (val >>> k).toUInt8 = UInt8.ofNat n := by
  apply UInt8.toNat_inj.1
  rw [UInt32.toNat_toUInt8, UInt32.toNat_shiftRight, UInt8.toNat_ofNat', Nat.mod_eq_of_lt hk,
    Nat.shiftRight_eq_div_pow]
  exact h

variable {val : UInt32} {q r : Nat}

/-- Two numbers give the first octet, whatever the register held, and four bits stay. -/
theorem accumulate_two (val : UInt32) (p q : Nat) (ds : List Nat) :
    accumulate val (-8) (p :: q :: ds) =
      UInt8.ofNat (p * 4 + q / 16) :: accumulate (push (push val p) q) (-4) ds := by
  have hoctet : (push (push val p) q >>> 4).toUInt8 = UInt8.ofNat (p * 4 + q / 16) := by
    apply toUInt8_shiftRight (by decide)
    have hfour : (4 : UInt32).toNat = 4 := rfl
    rw [hfour, toNat_push, toNat_push]
    omega
  exact congrArg₂ List.cons hoctet rfl

/-- The third number gives the second octet with the four bits that stayed, and two stay. -/
theorem accumulate_third (hval : val.toNat % 16 = q % 16) (r : Nat) (ds : List Nat) :
    accumulate val (-4) (r :: ds) =
      UInt8.ofNat (q % 16 * 16 + r / 4) :: accumulate (push val r) (-6) ds := by
  have hoctet : (push val r >>> 2).toUInt8 = UInt8.ofNat (q % 16 * 16 + r / 4) := by
    apply toUInt8_shiftRight (by decide)
    have htwo : (2 : UInt32).toNat = 2 := rfl
    rw [htwo, toNat_push]
    omega
  exact congrArg₂ List.cons hoctet rfl

/-- The fourth number gives the third octet with the two bits that stayed, and none stays. -/
theorem accumulate_fourth (hval : val.toNat % 4 = r % 4) (s : Nat) (ds : List Nat) :
    accumulate val (-6) (s :: ds) =
      UInt8.ofNat (r % 4 * 64 + s) :: accumulate (push val s) (-8) ds := by
  have hoctet : (push val s >>> 0).toUInt8 = UInt8.ofNat (r % 4 * 64 + s) := by
    apply toUInt8_shiftRight (by decide)
    have hzero : (0 : UInt32).toNat = 0 := rfl
    rw [hzero, toNat_push]
    omega
  exact congrArg₂ List.cons hoctet rfl

theorem push_mod_sixteen (val : UInt32) (d : Nat) : (push val d).toNat % 16 = d % 16 := by
  rw [toNat_push]
  omega

theorem push_mod_four (val : UInt32) (d : Nat) : (push val d).toNat % 4 = d % 4 := by
  rw [toNat_push]
  omega

/-- **The register decodes any number of groups:** whatever it holds at the start of a group, the
octets are those of the group, since the bits above are shifted out or cut off. -/
theorem accumulate_eq_octets (val : UInt32) (ds : List Nat) :
    accumulate val (-8) ds = octets ds := by
  induction ds using octets.induct generalizing val with
  | case1 p q r s rest ih =>
      rw [accumulate_two, accumulate_third (push_mod_sixteen _ q),
        accumulate_fourth (push_mod_four _ r), ih]
      rfl
  | case2 p q r =>
      rw [accumulate_two, accumulate_third (push_mod_sixteen _ q)]
      rfl
  | case3 p q =>
      rw [accumulate_two]
      rfl
  | case4 p => rfl
  | case5 => rfl

end Register

end Codec
end Dbal
