/-
# The base64 of the SAML bindings

`src/saml/binding/base64_standard.hpp`.  The decoder is documented to require padding and to throw
on every foreign character.  It breaks out of its loop at the first `=` and looks neither at what
follows nor at the number of bits left over, so it decides by the characters before the first `=`
alone (`base64Decode_of_reads`, `base64Decode_of_foreign`): a text without padding, one cut off in
a group and one with anything after the first `=` are decoded.  It is strict where a foreign
character comes before the first `=`, and where what stands from there on is the padding that
completes the groups (`strict_iff_checked`).
-/

import Dbal.Codec.Sextets
import Mathlib.Data.List.Forall2

namespace Dbal
namespace Saml

/-- `chars`. -/
def chars : List UInt8 :=
  "ABCDEFGHIJKLMNOPQRSTUVWXYZabcdefghijklmnopqrstuvwxyz0123456789+/".toList.map Char.toUInt8

/-- `'='`. -/
def pad : UInt8 := '='.toUInt8

/-- `base64_encode`. -/
def base64Encode (data : List UInt8) : List UInt8 :=
  Codec.encode (fun i => chars.getD i 0) [pad] data

/-- `charVal`. -/
def charVal (c : UInt8) : Int :=
  if 'A'.toUInt8 ≤ c ∧ c ≤ 'Z'.toUInt8 then c.toNat - 'A'.toNat
  else if 'a'.toUInt8 ≤ c ∧ c ≤ 'z'.toUInt8 then c.toNat - 'a'.toNat + 26
  else if '0'.toUInt8 ≤ c ∧ c ≤ '9'.toUInt8 then c.toNat - '0'.toNat + 52
  else if c = '+'.toUInt8 then 62
  else if c = '/'.toUInt8 then 63
  else -1

def isBlank (c : UInt8) : Bool :=
  c = '\r'.toUInt8 || c = '\n'.toUInt8 || c = ' '.toUInt8 || c = '\t'.toUInt8

/-- The loop of `base64_decode`. -/
def decodeFrom (val : UInt32) (valb : Int) : List UInt8 → Except String (List UInt8)
  | [] => .ok []
  | c :: cs =>
      if c = pad then .ok []
      else if isBlank c then decodeFrom val valb cs
      else
        let d := charVal c
        if d < 0 then .error "Invalid base64 character"
        else
          let val := (val <<< 6) + UInt32.ofNat d.toNat
          let valb := valb + 6
          if 0 ≤ valb then
            (decodeFrom val (valb - 8) cs).map fun out =>
              (val >>> UInt32.ofNat valb.toNat).toUInt8 :: out
          else decodeFrom val valb cs

/-- `base64_decode`. -/
def base64Decode (input : List UInt8) : Except String (List UInt8) := decodeFrom 0 (-8) input

/-! ## What the decoder is documented to accept -/

/-- The text without spaces, tabs and line ends. -/
def unblank (input : List UInt8) : List UInt8 := input.filter fun c => !isBlank c

/-- Four-character groups over the alphabet with the numbers they stand for; the last group may
end with one or two `=`. -/
inductive Groups : List UInt8 → List Nat → Prop
  | nil : Groups [] []
  | two {a b : UInt8} {p q : Nat} (ha : chars.idxOf? a = some p) (hb : chars.idxOf? b = some q) :
      Groups [a, b, pad, pad] [p, q]
  | three {a b c : UInt8} {p q r : Nat} (ha : chars.idxOf? a = some p)
      (hb : chars.idxOf? b = some q) (hc : chars.idxOf? c = some r) :
      Groups [a, b, c, pad] [p, q, r]
  | four {a b c d : UInt8} {p q r s : Nat} {rest : List UInt8} {ds : List Nat}
      (ha : chars.idxOf? a = some p) (hb : chars.idxOf? b = some q)
      (hc : chars.idxOf? c = some r) (hd : chars.idxOf? d = some s) (hrest : Groups rest ds) :
      Groups (a :: b :: c :: d :: rest) (p :: q :: r :: s :: ds)

/-- The decoding of RFC 4648: the octets of the numbers, groups and padding being complete. -/
def Rfc4648 (text bytes : List UInt8) : Prop := ∃ ds, Groups text ds ∧ bytes = Codec.octets ds

/-- The decoder returns octets for `input` exactly when it is base64 up to blanks, and those it
stands for; it throws for every other text. -/
def Strict (input : List UInt8) : Prop :=
  ∀ bytes, base64Decode input = .ok bytes ↔ Rfc4648 (unblank input) bytes

/-- The characters before the first `=`. -/
def digits (input : List UInt8) : List UInt8 := (unblank input).takeWhile fun c => c ≠ pad

/-- A character before the first `=` is foreign to the alphabet. -/
def HasForeign (input : List UInt8) : Prop := ∃ c ∈ digits input, c ∉ chars

/-- What completes the groups of `n` characters. -/
def fill (n : Nat) : List UInt8 := List.replicate ((4 - n % 4) % 4) pad

/-- From the first `=` on stands the padding that completes the groups, and nothing else. -/
def Completed (input : List UInt8) : Prop :=
  (digits input).length % 4 ≠ 1 ∧
  (unblank input).dropWhile (fun c => c ≠ pad) = fill (digits input).length

/-- The characters stand for these numbers. -/
def Reads (cs : List UInt8) (ds : List Nat) : Prop :=
  List.Forall₂ (fun c d => chars.idxOf? c = some d) cs ds

/-! ## The loop -/

/-- A digit has its character, which stands in no other place of the list. -/
theorem chars_getD : ∀ d < 64, chars.getD d 0 ∈ chars ∧
    chars.idxOf? (chars.getD d 0) = some d ∧ charVal (chars.getD d 0) = d := by
  decide +kernel

theorem exists_getD {c : UInt8} (h : c ∈ chars) : ∃ d < 64, chars.getD d 0 = c := by
  obtain ⟨d, hd, hc⟩ := List.mem_iff_getElem.1 h
  refine ⟨d, hd, ?_⟩
  rw [List.getD_eq_getElem?_getD, List.getElem?_eq_getElem hd, Option.getD_some, hc]

theorem charVal_of_some {c : UInt8} {d : Nat} (h : chars.idxOf? c = some d) : charVal c = d := by
  have hc : c ∈ chars := by
    by_contra hnot
    rw [List.idxOf?_eq_none_iff.2 hnot] at h
    cases h
  obtain ⟨d', hd', rfl⟩ := exists_getD hc
  obtain ⟨-, hidx, hval⟩ := chars_getD d' hd'
  rw [hval, Option.some.inj (hidx.symm.trans h)]

theorem charVal_of_not_mem {c : UInt8} (h : c ∉ chars) : charVal c = -1 := by
  have hall : ∀ b : UInt8, charVal b = -1 ∨ b ∈ chars := Codec.forall_byte (by decide +kernel)
  exact (hall c).resolve_right h

theorem isBlank_pad : isBlank pad = false := by decide

theorem pad_not_mem : pad ∉ chars := by decide

theorem isBlank_of_mem {c : UInt8} (h : c ∈ chars) : isBlank c = false := by
  have hall : ∀ c ∈ chars, isBlank c = false := by decide +kernel
  exact hall c h

section Digits

variable {c : UInt8} {cs : List UInt8}

theorem digits_pad : digits (pad :: cs) = [] := by
  simp [digits, unblank, isBlank_pad]

theorem digits_blank (hc : isBlank c = true) : digits (c :: cs) = digits cs := by
  simp [digits, unblank, hc]

theorem digits_cons (hblank : isBlank c = false) (hne : c ≠ pad) :
    digits (c :: cs) = c :: digits cs := by
  simp [digits, unblank, hblank, hne]

end Digits

theorem decodeFrom_of_reads {cs : List UInt8} {ds : List Nat} (h : Reads (digits cs) ds)
    (val : UInt32) (valb : Int) :
    decodeFrom val valb cs = .ok (Codec.accumulate val valb ds) := by
  induction cs generalizing ds val valb with
  | nil =>
      cases h
      rfl
  | cons c cs ih =>
      rw [decodeFrom]
      by_cases hpad : c = pad
      · subst hpad
        rw [digits_pad] at h
        cases h
        simp [Codec.accumulate]
      · cases hblank : isBlank c with
        | true =>
            rw [digits_blank hblank] at h
            simp [hpad, ih h]
        | false =>
            rw [digits_cons hblank hpad] at h
            obtain _ | @⟨_, d, _, ds, hc, hrest⟩ := h
            have hnonneg : ¬ (d : Int) < 0 := by omega
            simp only [if_neg hpad, charVal_of_some hc, if_neg hnonneg, Int.toNat_natCast, ih hrest,
              Codec.accumulate, Codec.push, Except.map, Bool.false_eq_true, if_false]
            split <;> rfl

theorem decodeFrom_of_foreign {cs : List UInt8} (h : ∃ c ∈ digits cs, c ∉ chars)
    (val : UInt32) (valb : Int) :
    decodeFrom val valb cs = .error "Invalid base64 character" := by
  induction cs generalizing val valb with
  | nil =>
      obtain ⟨c, hc, -⟩ := h
      cases hc
  | cons c cs ih =>
      rw [decodeFrom]
      by_cases hpad : c = pad
      · obtain ⟨c', hc', -⟩ := h
        rw [hpad, digits_pad] at hc'
        cases hc'
      · cases hblank : isBlank c with
        | true =>
            rw [digits_blank hblank] at h
            simp [hpad, ih h]
        | false =>
            rw [digits_cons hblank hpad] at h
            by_cases hmem : c ∈ chars
            · obtain ⟨c', hc', hforeign⟩ := h
              have hrest : ∃ c ∈ digits cs, c ∉ chars := by
                rcases List.mem_cons.1 hc' with rfl | hc'
                · exact absurd hmem hforeign
                · exact ⟨c', hc', hforeign⟩
              obtain ⟨d, hd⟩ := Option.isSome_iff_exists.1 (List.isSome_idxOf?.2 hmem)
              simp [hpad, charVal_of_some hd, ih hrest, Except.map]
            · simp [hpad, charVal_of_not_mem hmem]

/-- Either the characters all stand for numbers or one of them is foreign. -/
theorem reads_or_foreign (cs : List UInt8) : (∃ ds, Reads cs ds) ∨ ∃ c ∈ cs, c ∉ chars := by
  induction cs with
  | nil => exact .inl ⟨[], .nil⟩
  | cons c cs ih =>
      by_cases hmem : c ∈ chars
      · obtain ⟨d, hd⟩ := Option.isSome_iff_exists.1 (List.isSome_idxOf?.2 hmem)
        rcases ih with ⟨ds, hds⟩ | ⟨c', hc', hforeign⟩
        · exact .inl ⟨d :: ds, .cons hd hds⟩
        · exact .inr ⟨c', List.mem_cons_of_mem c hc', hforeign⟩
      · exact .inr ⟨c, List.mem_cons_self, hmem⟩

/-! ## The groups -/

theorem fill_add_four (n : Nat) : fill (n + 1 + 1 + 1 + 1) = fill n := by
  have hmod : (n + 1 + 1 + 1 + 1) % 4 = n % 4 := Nat.add_mod_right n 4
  rw [fill, fill, hmod]

theorem ne_pad_of_reads {cs : List UInt8} {ds : List Nat} (h : Reads cs ds) :
    ∀ c ∈ cs, c ≠ pad := by
  have hpad : chars.idxOf? pad = none := List.idxOf?_eq_none_iff.2 pad_not_mem
  induction h with
  | nil => simp
  | cons hc _ ih =>
      refine List.forall_mem_cons.2 ⟨fun heq => ?_, ih⟩
      rw [heq, hpad] at hc
      cases hc

/-- A text in groups is characters that stand for its numbers and then what completes them. -/
theorem Groups.split {text : List UInt8} {ds : List Nat} (h : Groups text ds) :
    ∃ front, Reads front ds ∧ front.length % 4 ≠ 1 ∧ text = front ++ fill front.length := by
  induction h with
  | nil => exact ⟨[], .nil, by decide, rfl⟩
  | two ha hb => exact ⟨_, .cons ha (.cons hb .nil), by simp, rfl⟩
  | three ha hb hc => exact ⟨_, .cons ha (.cons hb (.cons hc .nil)), by simp, rfl⟩
  | four ha hb hc hd hrest ih =>
      obtain ⟨front, hreads, hlength, rfl⟩ := ih
      refine ⟨_, .cons ha (.cons hb (.cons hc (.cons hd hreads))), ?_, ?_⟩
      · simp only [List.length_cons]
        omega
      · simp only [List.length_cons, fill_add_four, List.cons_append]

theorem Groups.of_reads {front : List UInt8} {ds : List Nat} (h : Reads front ds)
    (hlength : front.length % 4 ≠ 1) : Groups (front ++ fill front.length) ds := by
  induction ds using Codec.octets.induct generalizing front with
  | case1 p q r s rest ih =>
      obtain _ | ⟨ha, _ | ⟨hb, _ | ⟨hc, _ | ⟨hd, hrest⟩⟩⟩⟩ := h
      simp only [List.length_cons, fill_add_four, List.cons_append] at hlength ⊢
      exact .four ha hb hc hd (ih hrest (by omega))
  | case2 p q r =>
      obtain _ | ⟨ha, _ | ⟨hb, _ | ⟨hc, _ | _⟩⟩⟩ := h
      exact .three ha hb hc
  | case3 p q =>
      obtain _ | ⟨ha, _ | ⟨hb, _ | _⟩⟩ := h
      exact .two ha hb
  | case4 p =>
      obtain _ | ⟨ha, _ | _⟩ := h
      exact absurd rfl hlength
  | case5 =>
      cases h
      exact .nil

theorem groups_iff (input : List UInt8) (ds : List Nat) :
    Groups (unblank input) ds ↔ Reads (digits input) ds ∧ Completed input := by
  constructor
  · intro h
    obtain ⟨front, hreads, hlength, htext⟩ := h.split
    have hfront : ∀ c ∈ front, decide (c ≠ pad) = true := fun c hc =>
      decide_eq_true (ne_pad_of_reads hreads c hc)
    have hfill : (fill front.length).takeWhile (fun c => c ≠ pad) = [] ∧
        (fill front.length).dropWhile (fun c => c ≠ pad) = fill front.length := by
      unfold fill
      cases (4 - front.length % 4) % 4 <;> simp [List.replicate_succ]
    have hdigits : digits input = front := by
      rw [digits, htext, List.takeWhile_append_of_pos hfront, hfill.1, List.append_nil]
    have hrest : (unblank input).dropWhile (fun c => c ≠ pad) = fill front.length := by
      rw [htext, List.dropWhile_append_of_pos hfront, hfill.2]
    rw [hdigits, Completed, hdigits]
    exact ⟨hreads, hlength, hrest⟩
  · rintro ⟨hreads, hlength, hrest⟩
    have htext : digits input ++ fill (digits input).length = unblank input := by
      rw [← hrest]
      exact List.takeWhile_append_dropWhile
    exact htext ▸ Groups.of_reads hreads hlength

theorem Reads.unique {cs : List UInt8} {ds ds' : List Nat} (h : Reads cs ds) (h' : Reads cs ds') :
    ds = ds' := by
  induction h generalizing ds' with
  | nil =>
      cases h'
      rfl
  | cons hc _ ih =>
      obtain _ | ⟨hc', hrest⟩ := h'
      rw [ih hrest, Option.some.inj (hc.symm.trans hc')]

/-! ## What the decoder does -/

/-- Without a foreign character the octets of the numbers come out, complete or not. -/
theorem base64Decode_of_reads {input : List UInt8} {ds : List Nat} (h : Reads (digits input) ds) :
    base64Decode input = .ok (Codec.octets ds) := by
  rw [base64Decode, decodeFrom_of_reads h, Codec.accumulate_eq_octets]

theorem base64Decode_of_foreign {input : List UInt8} (h : HasForeign input) :
    base64Decode input = .error "Invalid base64 character" :=
  decodeFrom_of_foreign h 0 (-8)

theorem not_reads_of_foreign {cs : List UInt8} {ds : List Nat} (h : Reads cs ds) :
    ¬ ∃ c ∈ cs, c ∉ chars := by
  rintro ⟨c, hc, hforeign⟩
  induction h with
  | nil => cases hc
  | cons hd _ ih =>
      rcases List.mem_cons.1 hc with rfl | hc
      · rw [List.idxOf?_eq_none_iff.2 hforeign] at hd
        cases hd
      · exact ih hc

/-- The decoder is strict on a text exactly when it has a foreign character before the first `=`,
or what stands from the first `=` on completes its groups. -/
theorem strict_iff (input : List UInt8) : Strict input ↔ HasForeign input ∨ Completed input := by
  rcases reads_or_foreign (digits input) with ⟨ds, hds⟩ | hforeign
  · have hdecode := base64Decode_of_reads hds
    constructor
    · intro hstrict
      obtain ⟨ds', hgroups, -⟩ := (hstrict _).1 hdecode
      exact .inr ((groups_iff input ds').1 hgroups).2
    · rintro (hforeign | hcompleted)
      · exact absurd hforeign (not_reads_of_foreign hds)
      · intro bytes
        rw [hdecode, Except.ok.injEq]
        constructor
        · rintro rfl
          exact ⟨ds, (groups_iff input ds).2 ⟨hds, hcompleted⟩, rfl⟩
        · rintro ⟨ds', hgroups, rfl⟩
          rw [Reads.unique hds ((groups_iff input ds').1 hgroups).1]
  · refine iff_of_true (fun bytes => ?_) (.inl hforeign)
    rw [base64Decode_of_foreign hforeign]
    refine iff_of_false nofun ?_
    rintro ⟨ds, hgroups, -⟩
    exact not_reads_of_foreign ((groups_iff input ds).1 hgroups).1 hforeign

/-- A text without padding is decoded all the same: `QQ` gives the octet of `QQ==`. -/
theorem base64Decode_not_strict : ¬ ∀ input, Strict input := by
  intro hstrict
  have hdecode : base64Decode ['Q'.toUInt8, 'Q'.toUInt8] = .ok [65] := by decide +kernel
  obtain ⟨ds, hgroups, -⟩ := (hstrict _ _).1 hdecode
  have hcompleted := ((groups_iff _ _).1 hgroups).2
  have hnot : ¬ Completed ['Q'.toUInt8, 'Q'.toUInt8] := by
    unfold Completed
    decide +kernel
  exact hnot hcompleted

theorem digits_append {cs rest : List UInt8} (hcs : ∀ c ∈ cs, c ∈ chars)
    (hrest : ∀ c ∈ rest, c = pad) : digits (cs ++ rest) = cs := by
  induction cs with
  | nil =>
      cases rest with
      | nil => rfl
      | cons c rest =>
          rw [hrest c List.mem_cons_self]
          exact digits_pad
  | cons c cs ih =>
      have hc := hcs c List.mem_cons_self
      rw [List.cons_append,
        digits_cons (isBlank_of_mem hc) (fun heq => pad_not_mem (heq ▸ hc)),
        ih fun c' hc' => hcs c' (List.mem_cons_of_mem c hc')]

theorem eq_pad_of_mem_padding {data : List UInt8} {c : UInt8}
    (hc : c ∈ Codec.padding [pad] data) : c = pad := by
  unfold Codec.padding at hc
  split at hc
  · simpa using hc
  · simpa using hc
  · cases hc

/-- What the encoder writes is decoded. -/
theorem base64Decode_base64Encode (data : List UInt8) :
    base64Decode (base64Encode data) = .ok data := by
  have hdigits : digits (base64Encode data) = (Codec.sextets data).map fun d => chars.getD d 0 := by
    rw [base64Encode, Codec.encode_eq]
    refine digits_append (fun c hc => ?_) fun c hc => eq_pad_of_mem_padding hc
    obtain ⟨d, hd, rfl⟩ := List.mem_map.1 hc
    exact (chars_getD d (Codec.sextets_lt hd)).1
  have hreads : Reads (digits (base64Encode data)) (Codec.sextets data) := by
    rw [hdigits, Reads, List.forall₂_map_left_iff, List.forall₂_same]
    exact fun d hd => (chars_getD d (Codec.sextets_lt hd)).2.1
  rw [base64Decode_of_reads hreads, Codec.octets_sextets]

/-- **The decoder is strict exactly where it need not look at padding.**  It keeps what is
documented for a text with a foreign character before the first `=`, and for one whose groups what
stands from the first `=` on completes; the encoder's output is among these and is decoded to the
data it came from. -/
theorem strict_iff_checked (input data : List UInt8) :
    (Strict input ↔ HasForeign input ∨ Completed input) ∧
      base64Decode (base64Encode data) = .ok data :=
  ⟨strict_iff input, base64Decode_base64Encode data⟩

end Saml
end Dbal
