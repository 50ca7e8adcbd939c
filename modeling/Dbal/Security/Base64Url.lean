/-
# Base64url

`src/security/jwt/base64url.hpp`: the lenient decoder of token segments, which passes over every
character that is none of the sixty-four, its output as lower-case hexadecimal digits, and the
encoder.  The decoder is `Codec.accumulate` over the numbers of the characters before the first `=`
(`decodeLoop_eq`), the encoder writes the sextets of its octets, and so the one undoes the other for
data of any length (`base64url_roundTrip`).
-/

import Dbal.Codec.Sextets
import Mathlib.Data.List.Basic

namespace Dbal
namespace Security

/-- `b64chars`. -/
def b64chars : List Char :=
  "ABCDEFGHIJKLMNOPQRSTUVWXYZabcdefghijklmnopqrstuvwxyz0123456789+/".toList

/-- The loop of `base64url_decode`: `val` is an `int` and wraps, `valb` counts its pending bits. -/
def decodeLoop (val : UInt32) (valb : Int) : List Char → List UInt8
  | [] => []
  | c :: cs =>
      if c = '=' then []
      else
        match b64chars.idxOf? c with
        | none => decodeLoop val valb cs
        | some pos =>
            let val := (val <<< 6) + UInt32.ofNat pos
            let valb := valb + 6
            if 0 ≤ valb then
              (val >>> UInt32.ofNat valb.toNat).toUInt8 :: decodeLoop val (valb - 8) cs
            else decodeLoop val valb cs

/-- `base64url_decode`. -/
def base64urlDecode (input : String) : List UInt8 :=
  let s := input.toList.map fun c => if c = '-' then '+' else if c = '_' then '/' else c
  decodeLoop 0 (-8) (s ++ List.replicate ((4 - input.utf8ByteSize % 4) % 4) '=')

/-- `hex_chars`. -/
def hexChars : List UInt8 := "0123456789abcdef".toList.map fun c => UInt8.ofNat c.toNat

def hexChar (n : UInt8) : UInt8 := hexChars.getD n.toNat 0

/-- Two digits for each byte, as `hmac_sha256` and `base64url_to_hex` write them. -/
def toHex (bytes : List UInt8) : List UInt8 :=
  bytes.flatMap fun b : UInt8 => [hexChar ((b >>> 4) &&& 0x0F), hexChar (b &&& 0x0F)]

/-- `base64url_to_hex`. -/
def base64urlToHex (b64url : String) : List UInt8 := toHex (base64urlDecode b64url)

/-- The byte of two digits. -/
def unhex (high low : UInt8) : Nat := 16 * hexChars.idxOf high + hexChars.idxOf low

theorem unhex_hexChar (b : UInt8) :
    unhex (hexChar ((b >>> 4) &&& 0x0F)) (hexChar (b &&& 0x0F)) = b.toNat := by
  revert b
  exact Codec.forall_byte (by decide +kernel)

theorem toHex_injective {bytes bytes' : List UInt8} (h : toHex bytes = toHex bytes') :
    bytes = bytes' := by
  induction bytes generalizing bytes' with
  | nil =>
      cases bytes' with
      | nil => rfl
      | cons b' bytes' => cases h
  | cons b bytes ih =>
      cases bytes' with
      | nil => cases h
      | cons b' bytes' =>
          simp only [toHex, List.flatMap_cons, List.cons_append, List.nil_append,
            List.cons.injEq] at h
          obtain ⟨hhigh, hlow, hrest⟩ := h
          have hbyte : b.toNat = b'.toNat := by
            rw [← unhex_hexChar b, ← unhex_hexChar b', hhigh, hlow]
          rw [UInt8.toNat_inj.1 hbyte, ih hrest]

example : base64urlDecode "AQID" = [1, 2, 3] := by decide +kernel

/-- `base64url_encode`: groups without padding, then `-` for `+` and `_` for `/`. -/
def base64urlEncode (data : List UInt8) : String :=
  let out := Codec.encode (fun i => b64chars.getD i 'A') [] data
  String.ofList (out.map fun c => if c = '+' then '-' else if c = '/' then '_' else c)

/-- The alphabet of base64url: that of base64 with `-` and `_` in the last two places. -/
def urlAlphabet : List Char :=
  "ABCDEFGHIJKLMNOPQRSTUVWXYZabcdefghijklmnopqrstuvwxyz0123456789-_".toList

/-- The octets as lower-case hexadecimal numerals of two digits. -/
def lowerHex (bytes : List UInt8) : List UInt8 :=
  bytes.flatMap fun b : UInt8 =>
    [Nat.digitChar (b.toNat / 16), Nat.digitChar (b.toNat % 16)].map fun c => UInt8.ofNat c.toNat

/-- The numbers of the characters that the decoder takes: those of the alphabet before the first
`=`. -/
def numbers (cs : List Char) : List Nat :=
  (cs.takeWhile fun c => c ≠ '=').filterMap fun c => b64chars.idxOf? c

theorem numbers_cons {c : Char} {pos : Nat} (hne : c ≠ '=') (hpos : b64chars.idxOf? c = some pos)
    (cs : List Char) : numbers (c :: cs) = pos :: numbers cs := by
  simp [numbers, hne, hpos]

/-- The loop of the decoder is the register over these numbers. -/
theorem decodeLoop_eq (val : UInt32) (valb : Int) (cs : List Char) :
    decodeLoop val valb cs = Codec.accumulate val valb (numbers cs) := by
  induction cs generalizing val valb with
  | nil => rfl
  | cons c cs ih =>
      rw [decodeLoop]
      split
      · next heq => simp [numbers, heq, Codec.accumulate]
      · next hne =>
          cases hpos : b64chars.idxOf? c with
          | none =>
              have hcons : numbers (c :: cs) = numbers cs := by simp [numbers, hne, hpos]
              rw [hcons, ih]
          | some pos =>
              rw [numbers_cons hne hpos, Codec.accumulate, ← ih, ← ih]
              rfl

theorem numbers_append_padding {char : Nat → Char} {ds : List Nat}
    (hds : ∀ d ∈ ds, char d ≠ '=' ∧ b64chars.idxOf? (char d) = some d) (n : Nat) :
    numbers (ds.map char ++ List.replicate n '=') = ds := by
  induction ds with
  | nil => cases n <;> simp [numbers, List.replicate_succ]
  | cons d ds ih =>
      obtain ⟨hne, hpos⟩ := hds d (by simp)
      rw [List.map_cons, List.cons_append, numbers_cons hne hpos,
        ih fun d' hd' => hds d' (by simp [hd'])]

/-- Each number is written as its character of the alphabet. -/
theorem toList_base64urlEncode (data : List UInt8) :
    (base64urlEncode data).toList = (Codec.sextets data).map fun d => urlAlphabet.getD d 'A' := by
  have hchars : ∀ d < 64, (if b64chars.getD d 'A' = '+' then '-' else
      if b64chars.getD d 'A' = '/' then '_' else b64chars.getD d 'A') = urlAlphabet.getD d 'A' := by
    decide +kernel
  have hpad : Codec.padding ([] : List Char) data = [] := by
    unfold Codec.padding
    split <;> rfl
  rw [base64urlEncode, Codec.encode_eq, hpad, List.append_nil, String.toList_ofList, List.map_map]
  exact List.map_congr_left fun d hd => hchars d (Codec.sextets_lt hd)

/-- The decoder finds the number of a character that the encoder wrote. -/
theorem idxOf?_urlAlphabet {d : Nat} (hd : d < 64) :
    let c := urlAlphabet.getD d 'A'
    let c' := if c = '-' then '+' else if c = '_' then '/' else c
    c' ≠ '=' ∧ b64chars.idxOf? c' = some d := by
  have hall : ∀ d < 64, let c := urlAlphabet.getD d 'A'
      let c' := if c = '-' then '+' else if c = '_' then '/' else c
      c' ≠ '=' ∧ b64chars.idxOf? c' = some d := by decide +kernel
  exact hall d hd

theorem base64urlDecode_base64urlEncode (data : List UInt8) :
    base64urlDecode (base64urlEncode data) = data := by
  have hchars : ∀ d ∈ Codec.sextets data, _ ∧ _ := fun d hd =>
    idxOf?_urlAlphabet (Codec.sextets_lt hd)
  calc base64urlDecode (base64urlEncode data)
    _ = Codec.accumulate 0 (-8) (Codec.sextets data) := by
        rw [base64urlDecode, toList_base64urlEncode, decodeLoop_eq, List.map_map]
        exact congrArg _ (numbers_append_padding hchars _)
    _ = Codec.octets (Codec.sextets data) := Codec.accumulate_eq_octets 0 _
    _ = data := Codec.octets_sextets data

theorem mem_urlAlphabet {data : List UInt8} {c : Char} (hc : c ∈ (base64urlEncode data).toList) :
    c ∈ urlAlphabet := by
  rw [toList_base64urlEncode] at hc
  obtain ⟨d, hd, rfl⟩ := List.mem_map.1 hc
  have hlength : d < urlAlphabet.length := Codec.sextets_lt hd
  rw [List.getD_eq_getElem?_getD, List.getElem?_eq_getElem hlength]
  exact List.getElem_mem hlength

theorem toHex_eq_lowerHex (bytes : List UInt8) : toHex bytes = lowerHex bytes := by
  have hbyte : ∀ b : UInt8, [hexChar ((b >>> 4) &&& 0x0F), hexChar (b &&& 0x0F)] =
      [Nat.digitChar (b.toNat / 16), Nat.digitChar (b.toNat % 16)].map
        fun c => UInt8.ofNat c.toNat :=
    Codec.forall_byte (by decide +kernel)
  exact List.flatMap_congr fun b _ => hbyte b

/-- **base64url loses nothing.**  For data of any length the decoder gives back what the encoder
was given, the encoded text has only characters of the alphabet and so no padding, and read as
hexadecimal digits it is the lower-case hexadecimal text of the data. -/
theorem base64url_roundTrip (data : List UInt8) :
    base64urlDecode (base64urlEncode data) = data ∧
    (∀ c ∈ (base64urlEncode data).toList, c ∈ urlAlphabet ∧ c ≠ '=') ∧
    base64urlToHex (base64urlEncode data) = lowerHex data := by
  have hpad : '=' ∉ urlAlphabet := by decide
  refine ⟨base64urlDecode_base64urlEncode data, ?_, ?_⟩
  · intro c hc
    exact ⟨mem_urlAlphabet hc, fun heq => hpad (heq ▸ mem_urlAlphabet hc)⟩
  · rw [base64urlToHex, base64urlDecode_base64urlEncode, toHex_eq_lowerHex]

end Security
end Dbal
