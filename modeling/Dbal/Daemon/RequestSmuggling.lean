/-
# Requests that two servers read differently

A server in front of this one may trim the names of the fields, and may read a length in another
way than `std::stoull`.  It sees no other request than `parseRequest` exactly if no line is spelled
as the code overlooks: white space around the name of a `Transfer-Encoding`, or around that of a
`Content-Length` which is not the only one and a number, or a number with a sign, with other white
space in front, or with a text behind it.
-/

import Dbal.Daemon.RequestParser

namespace Dbal
namespace Daemon
namespace Http

/-! ### What a front end sees -/

/-- Optional white space. -/
def isOws (b : UInt8) : Bool := b = 32 || b = 9

/-- The header lines with a colon, as names and values, nothing trimmed. -/
def headerFields (data : Bytes) : List (Bytes × Bytes) :=
  (((crlfLines data).tail.map (·.1)).takeWhile (· ≠ [])).filterMap splitField

/-- The name is this one, in any case and after trimming. -/
def Named (name key : Bytes) : Prop := (trim isOws key).map toLower = name

instance (name key : Bytes) : Decidable (Named name key) := inferInstanceAs (Decidable (_ = _))

/-- The value consists of decimal digits. -/
def Digits (value : Bytes) : Prop := trim isOws value ≠ [] ∧ (trim isOws value).all isDigit

/-- No front end can see another request boundary. -/
structure NotSmuggled (fields : List (Bytes × Bytes)) : Prop where
  one : (fields.filter fun f => Named contentLengthName f.1).length ≤ 1
  none : ∀ f ∈ fields, ¬ Named transferEncodingName f.1
  digits : ∀ f ∈ fields, Named contentLengthName f.1 → Digits f.2

/-! ### Trimmed texts -/

section Trim

variable {p : UInt8 → Bool} {a b text : Bytes}

theorem rdropWhile_append_all (hb : ∀ x ∈ b, p x) : (text ++ b).rdropWhile p = text.rdropWhile p := by
  rw [List.rdropWhile, List.reverse_append,
    List.dropWhile_append_of_pos fun x hx => hb x (List.mem_reverse.1 hx)]
  rfl

/-- What is cut off at the ends does not matter. -/
theorem trim_append (ha : ∀ x ∈ a, p x) (hb : ∀ x ∈ b, p x) :
    trim p (a ++ text ++ b) = trim p text := by
  rw [trim, trim, List.append_assoc, List.dropWhile_append_of_pos ha, List.dropWhile_append]
  split_ifs with hempty
  · have htext : text.dropWhile p = [] := List.isEmpty_iff.1 hempty
    rw [htext, List.dropWhile_eq_nil_iff.2 hb]
  · exact rdropWhile_append_all hb

/-- A text is its trimmed part between what is cut off. -/
theorem exists_trim (p : UInt8 → Bool) (text : Bytes) :
    ∃ a b, text = a ++ trim p text ++ b ∧ (∀ x ∈ a, p x) ∧ ∀ x ∈ b, p x := by
  refine ⟨text.takeWhile p, (text.dropWhile p).rtakeWhile p, ?_,
    fun x hx => List.mem_takeWhile_imp hx, fun x hx => List.mem_rtakeWhile_imp hx⟩
  rw [List.append_assoc, trim, List.rdropWhile_append_rtakeWhile, List.takeWhile_append_dropWhile]

theorem trim_eq_self (h : ∀ x ∈ text, p x = false) : trim p text = text := by
  have hdrop : text.dropWhile p = text := by
    rcases text with _ | ⟨x, text⟩
    · rfl
    · exact List.dropWhile_cons_of_neg (by simp [h x])
  rw [trim, hdrop, List.rdropWhile_eq_self_iff]
  exact fun hl => by simp [h _ (List.getLast_mem hl)]

theorem trim_map {f : UInt8 → UInt8} (hf : ∀ x, p (f x) = p x) (text : Bytes) :
    trim p (text.map f) = (trim p text).map f := by
  have hcomp : p ∘ f = p := funext hf
  unfold trim List.rdropWhile
  rw [List.dropWhile_map, ← List.map_reverse, List.dropWhile_map, List.map_reverse, hcomp]

end Trim

/-! ### Characters -/

theorem isSpace_iff {b : UInt8} : isSpace b ↔ b.toNat = 32 ∨ 9 ≤ b.toNat ∧ b.toNat ≤ 13 := by
  simp [isSpace, UInt8.le_iff_toNat_le, ← UInt8.toNat_inj]

theorem isDigit_iff {b : UInt8} : isDigit b ↔ 48 ≤ b.toNat ∧ b.toNat ≤ 57 := by
  simp [isDigit, UInt8.le_iff_toNat_le]

theorem isOws_iff {b : UInt8} : isOws b ↔ b.toNat = 32 ∨ b.toNat = 9 := by
  simp [isOws, ← UInt8.toNat_inj]

theorem isSpace_of_isOws {b : UInt8} (h : isOws b) : isSpace b := by
  rw [isOws_iff] at h
  rw [isSpace_iff]
  omega

theorem isOws_of_isDigit {b : UInt8} (h : isDigit b) : isOws b = false := by
  rw [isDigit_iff] at h
  rw [Bool.eq_false_iff, ne_eq, isOws_iff]
  omega

theorem isOws_toLower (b : UInt8) : isOws (toLower b) = isOws b := by
  rw [Bool.eq_iff_iff, isOws_iff, isOws_iff, toLower]
  simp only [Bool.and_eq_true, decide_eq_true_eq, UInt8.le_iff_toNat_le]
  split_ifs with hupper
  · have hadd : (b + 32).toNat = b.toNat + 32 := by
      rw [UInt8.toNat_add]
      simp at hupper ⊢
      omega
    rw [hadd]
    simp at hupper
    omega
  · rfl

/-- A name that is spelled without white space around it. -/
theorem named_of_eq {name key : Bytes} (hname : trim isOws name = name)
    (hkey : key.map toLower = name) : Named name key := by
  rw [Named, ← trim_map isOws_toLower, hkey, hname]

/-! ### Numbers -/

/-- The number has no sign, and only optional white space around it. -/
structure NumberText.Plain (number : NumberText) : Prop where
  space : ∀ b ∈ number.space, isOws b
  sign : number.sign = none
  rest : ∀ b ∈ number.rest, isOws b

/-- The parts of a text make it up, white space first, the digits after the sign. -/
theorem numberText_parts (text : Bytes) :
    text = (numberText text).space ++ (numberText text).sign.toList ++ (numberText text).digits ++
        (numberText text).rest ∧
      ∀ b ∈ (numberText text).digits, isDigit b := by
  have hparts : ∀ (sign : Option UInt8) (rest : Bytes),
      text.dropWhile isSpace = sign.toList ++ rest →
        text = text.takeWhile isSpace ++ sign.toList ++ rest.takeWhile isDigit ++
          rest.dropWhile isDigit := by
    intro sign rest hdrop
    rw [List.append_assoc, List.takeWhile_append_dropWhile, List.append_assoc, ← hdrop,
      List.takeWhile_append_dropWhile]
  unfold numberText
  split
  · next rest hdrop =>
      exact ⟨hparts (some 43) rest hdrop, fun b hb => List.mem_takeWhile_imp hb⟩
  · next rest hdrop =>
      exact ⟨hparts (some 45) rest hdrop, fun b hb => List.mem_takeWhile_imp hb⟩
  · exact ⟨hparts none _ rfl, fun b hb => List.mem_takeWhile_imp hb⟩

theorem digits_ne_nil {text : Bytes} {n : Nat} (h : stoull text = .ok n) :
    (numberText text).digits ≠ [] := by
  intro hnil
  rw [stoull, if_pos hnil] at h
  cases h

/-- The parts of digits with white space around them. -/
theorem numberText_digits {a text b : Bytes} (ha : ∀ x ∈ a, isOws x) (hne : text ≠ [])
    (htext : ∀ x ∈ text, isDigit x) (hb : ∀ x ∈ b, isOws x) :
    numberText (a ++ text ++ b) = ⟨a, none, text, b⟩ := by
  obtain ⟨digit, text, rfl⟩ := List.exists_cons_of_ne_nil hne
  have hdigit := isDigit_iff.1 (htext digit (List.mem_cons_self ..))
  have hspace : ¬ isSpace digit := by
    rw [isSpace_iff]
    omega
  have ha' : ∀ x ∈ a, isSpace x := fun x hx => isSpace_of_isOws (ha x hx)
  have hdrop : (a ++ digit :: text ++ b).dropWhile isSpace = digit :: text ++ b := by
    rw [List.append_assoc, List.dropWhile_append_of_pos ha', List.cons_append,
      List.dropWhile_cons_of_neg hspace]
  have htake : (a ++ digit :: text ++ b).takeWhile isSpace = a := by
    rw [List.append_assoc, List.takeWhile_append_of_pos ha', List.cons_append,
      List.takeWhile_cons_of_neg hspace, List.append_nil]
  have hb' : b.takeWhile isDigit = [] ∧ b.dropWhile isDigit = b := by
    rcases b with _ | ⟨x, b⟩
    · exact ⟨rfl, rfl⟩
    · have hx : ¬ isDigit x := fun hx => by
        have := isOws_of_isDigit hx
        rw [hb x (List.mem_cons_self ..)] at this
        cases this
      exact ⟨List.takeWhile_cons_of_neg hx, List.dropWhile_cons_of_neg hx⟩
  unfold numberText
  rw [hdrop, htake]
  split
  · next heq =>
      obtain ⟨rfl, -⟩ := List.cons.inj heq
      simp at hdigit
  · next heq =>
      obtain ⟨rfl, -⟩ := List.cons.inj heq
      simp at hdigit
  · rw [NumberText.ofDigits, List.takeWhile_append_of_pos htext,
      List.dropWhile_append_of_pos htext, hb'.1, hb'.2, List.append_nil]

/-- **A number that `stoull` reads consists of digits exactly if it is plain.** -/
theorem digits_iff_plain {text : Bytes} {n : Nat} (h : stoull text = .ok n) :
    Digits text ↔ (numberText text).Plain := by
  obtain ⟨hparts, hdigits⟩ := numberText_parts text
  constructor
  · rintro ⟨hne, hall⟩
    obtain ⟨a, b, htext, ha, hb⟩ := exists_trim isOws text
    rw [htext, numberText_digits ha hne (List.all_eq_true.1 hall) hb]
    exact ⟨ha, rfl, hb⟩
  · intro hplain
    rw [hplain.sign, Option.toList_none, List.append_nil] at hparts
    have htrim : trim isOws text = (numberText text).digits :=
      calc trim isOws text
        _ = trim isOws ((numberText text).space ++ (numberText text).digits ++
              (numberText text).rest) := congrArg (trim isOws) hparts
        _ = trim isOws (numberText text).digits := trim_append hplain.space hplain.rest
        _ = (numberText text).digits := trim_eq_self fun b hb => isOws_of_isDigit (hdigits b hb)
    exact ⟨htrim ▸ digits_ne_nil h, htrim ▸ List.all_eq_true.2 hdigits⟩

/-- The value without its spaces is trimmed to the same text. -/
theorem digits_trim_spaces (value : Bytes) : Digits (trim (· = 32) value) ↔ Digits value := by
  have htrim : trim isOws (trim (· = 32) value) = trim isOws value := by
    obtain ⟨a, b, hvalue, ha, hb⟩ := exists_trim (· = 32) value
    conv_rhs => rw [hvalue]
    refine (trim_append (fun x hx => ?_) fun x hx => ?_).symm
    · simp [isOws, of_decide_eq_true (ha x hx)]
    · simp [isOws, of_decide_eq_true (hb x hx)]
  rw [Digits, Digits, htrim]

/-! ### What the code has checked -/

/-- The name is this one as the code compares it: in any case, nothing trimmed. -/
def Exactly (name : Bytes) (f : Bytes × Bytes) : Prop := f.1.map toLower = name

instance (name : Bytes) (f : Bytes × Bytes) : Decidable (Exactly name f) :=
  inferInstanceAs (Decidable (_ = _))

/-- What the loop has found in some fields, and checked. -/
structure Checked (state : HeaderState) (fields : List (Bytes × Bytes)) (state' : HeaderState) :
    Prop where
  transferEncoding : state'.hasTransferEncoding =
    (state.hasTransferEncoding || fields.any (Exactly transferEncodingName ·))
  one : (fields.filter (Exactly contentLengthName ·)).length + state.hasContentLength.toNat ≤
    state'.hasContentLength.toNat
  numbers : ∀ f ∈ fields, Exactly contentLengthName f → ∃ n, stoull (trim (· = 32) f.2) = .ok n

theorem Checked.refl (state : HeaderState) : Checked state [] state :=
  ⟨by simp, by simp, by simp⟩

theorem Checked.append {state state' state'' : HeaderState} {fields fields' : List (Bytes × Bytes)}
    (h : Checked state fields state') (h' : Checked state' fields' state'') :
    Checked state (fields ++ fields') state'' where
  transferEncoding := by rw [h'.transferEncoding, h.transferEncoding, List.any_append, Bool.or_assoc]
  one := by
    have := h.one
    have := h'.one
    rw [List.filter_append, List.length_append]
    omega
  numbers f hf := by
    rcases List.mem_append.1 hf with hf | hf
    · exact h.numbers f hf
    · exact h'.numbers f hf

/-- A length that passes is the first, and a number. -/
theorem readContentLength_ok {state state' : HeaderState} {value : Bytes}
    (h : readContentLength state value = .ok state') :
    state.hasContentLength = false ∧ (∃ n, stoull value = .ok n) ∧
      state'.hasContentLength = true ∧ state'.hasTransferEncoding = state.hasTransferEncoding := by
  unfold readContentLength at h
  split_ifs at h with hfirst
  rcases hnumber : stoull value with (_ | _) | cl <;> simp only [hnumber] at h
  · cases h
  · cases h
  · split_ifs at h
    obtain rfl := Except.ok.inj h
    exact ⟨by simpa using hfirst, ⟨cl, rfl⟩, rfl, rfl⟩

theorem readField_checked {state state' : HeaderState} {key value : Bytes}
    (h : readField state key value = .ok state') : Checked state [(key, value)] state' := by
  unfold readField at h
  dsimp only at h
  split_ifs at h with hcrlf hnull hlength
  · rcases hstate : readContentLength state (trim (· = 32) value) with response | state₁ <;>
      rw [hstate] at h
    · cases h
    obtain ⟨hfirst, hnumber, hnow, hte⟩ := readContentLength_ok hstate
    obtain rfl := Except.ok.inj h
    refine ⟨?_, ?_, fun f hf _ => ?_⟩
    · rw [List.any_cons, List.any_nil, Bool.or_false, ← hte]
      rfl
    · simp [hfirst, hnow, Exactly, hlength]
    · obtain rfl := List.mem_singleton.1 hf
      exact hnumber
  · obtain rfl := Except.ok.inj h
    refine ⟨?_, by simp [Exactly, hlength], fun f hf hexact => ?_⟩
    · rw [List.any_cons, List.any_nil, Bool.or_false]
      rfl
    · obtain rfl := List.mem_singleton.1 hf
      exact absurd hexact hlength

theorem readHeader_checked {state state' : HeaderState} {line : Bytes}
    (h : readHeader state line = .ok state') : Checked state (splitField line).toList state' := by
  unfold readHeader at h
  dsimp only at h
  split_ifs at h
  rcases hfield : splitField line with _ | ⟨key, value⟩ <;> simp only [hfield] at h
  · obtain rfl := Except.ok.inj h
    exact ⟨by simp, by simp, by simp⟩
  · obtain ⟨hte, hone, hnumbers⟩ := readField_checked h
    exact ⟨hte, hone, hnumbers⟩

/-- **The loop over the headers has checked every field of them.** -/
theorem readHeaders_checked {state state' : HeaderState} {rest rest' : Bytes}
    {lines : List (Bytes × Bytes)} (h : readHeaders state rest lines = .ok (state', rest')) :
    Checked state (((lines.map (·.1)).takeWhile (· ≠ [])).filterMap splitField) state' := by
  induction lines generalizing state rest with
  | nil =>
      obtain ⟨rfl, -⟩ := Prod.mk.inj (Except.ok.inj h)
      exact .refl state
  | cons first lines ih =>
      obtain ⟨line, after⟩ := first
      rw [readHeaders] at h
      split_ifs at h with hempty
      · obtain ⟨rfl, -⟩ := Prod.mk.inj (Except.ok.inj h)
        simpa [hempty] using Checked.refl state
      · rcases hline : readHeader state line with response | state₁ <;> rw [hline] at h
        · cases h
        have hrest := (readHeader_checked hline).append (ih h)
        rw [List.map_cons, List.takeWhile_cons_of_pos (by simpa using hempty), List.filterMap_cons]
        rcases hfield : splitField line with _ | f <;> rw [hfield] at hrest <;> exact hrest

theorem parseRequest_checked {data : Bytes} {request : HttpRequest}
    (h : parseRequest data = .ok request) :
    ∃ state, Checked {} (headerFields data) state ∧ state.hasTransferEncoding = false := by
  unfold parseRequest at h
  split_ifs at h
  rcases hlines : crlfLines data with _ | ⟨⟨requestLine, after⟩, lines⟩ <;> simp only [hlines] at h
  · cases h
  split at h
  · split_ifs at h
    rcases hheaders : readHeaders {} after lines with response | ⟨state, rest⟩ <;>
      simp only [hheaders] at h
    · cases h
    · split_ifs at h with hboth hte
      refine ⟨state, ?_, by simpa using hte⟩
      rw [headerFields, hlines]
      exact readHeaders_checked hheaders
  · cases h

/-! ### What the code overlooks -/

/-- The name is this one only once it is trimmed. -/
def Padded (name : Bytes) (f : Bytes × Bytes) : Prop := Named name f.1 ∧ ¬ Exactly name f

/-- The spellings that the code does not look for do not occur. -/
structure PlainlySpelled (fields : List (Bytes × Bytes)) : Prop where
  transferEncoding : ∀ f ∈ fields, ¬ Padded transferEncodingName f
  contentLength : ∀ f ∈ fields, Padded contentLengthName f →
    fields.filter (Named contentLengthName ·.1) = [f] ∧ Digits f.2
  number : ∀ f ∈ fields, Exactly contentLengthName f → (numberText (trim (· = 32) f.2)).Plain

/-- **An accepted request is not smuggled exactly if it is plainly spelled.** -/
theorem not_smuggled_iff {data : Bytes} {request : HttpRequest}
    (h : parseRequest data = .ok request) :
    NotSmuggled (headerFields data) ↔ PlainlySpelled (headerFields data) := by
  obtain ⟨state, hchecked, hte⟩ := parseRequest_checked h
  have hlength : ∀ f : Bytes × Bytes, Exactly contentLengthName f → Named contentLengthName f.1 :=
    fun f hf => named_of_eq (by decide) hf
  have hdigits : ∀ f ∈ headerFields data, Exactly contentLengthName f →
      (Digits f.2 ↔ (numberText (trim (· = 32) f.2)).Plain) := by
    intro f hf hexact
    obtain ⟨n, hn⟩ := hchecked.numbers f hf hexact
    rw [← digits_iff_plain hn, digits_trim_spaces]
  constructor
  · rintro ⟨hone, hnone, hall⟩
    refine ⟨fun f hf hpadded => hnone f hf hpadded.1, fun f hf hpadded => ⟨?_, hall f hf hpadded.1⟩,
      fun f hf hexact => (hdigits f hf hexact).1 (hall f hf (hlength f hexact))⟩
    have hmem : f ∈ (headerFields data).filter (Named contentLengthName ·.1) :=
      List.mem_filter.2 ⟨hf, decide_eq_true hpadded.1⟩
    obtain ⟨g, hg⟩ := List.length_eq_one_iff.1 (le_antisymm hone (List.length_pos_of_mem hmem))
    rw [hg, List.mem_singleton] at hmem
    rw [hg, hmem]
  · rintro ⟨htransfer, hpadded, hnumber⟩
    refine ⟨?_, fun f hf hnamed => ?_, fun f hf hnamed => ?_⟩
    · by_cases hany : ∃ f ∈ headerFields data, Padded contentLengthName f
      · obtain ⟨f, hf, hf'⟩ := hany
        rw [(hpadded f hf hf').1, List.length_singleton]
      · have hsame : (headerFields data).filter (Named contentLengthName ·.1) =
            (headerFields data).filter (Exactly contentLengthName ·) := by
          refine List.filter_congr fun f hf => decide_eq_decide.2 ⟨fun hnamed => ?_, hlength f⟩
          by_contra hexact
          exact hany ⟨f, hf, hnamed, hexact⟩
        have := hchecked.one
        have := Bool.toNat_le state.hasContentLength
        rw [hsame]
        omega
    · have hexact : Exactly transferEncodingName f := by
        by_contra hexact
        exact htransfer f hf ⟨hnamed, hexact⟩
      have hseen := hchecked.transferEncoding
      rw [hte, Bool.false_or] at hseen
      exact List.any_eq_false.1 hseen.symm f hf (decide_eq_true hexact)
    · by_cases hexact : Exactly contentLengthName f
      · exact (hdigits f hf hexact).2 (hnumber f hf hexact)
      · exact (hpadded f hf ⟨hnamed, hexact⟩).2

/-! ### Two requests -/

/-- A request with these header lines and this body. -/
def post (headers body : String) : Bytes :=
  ascii "POST / HTTP/1.1\r\n" ++ ascii headers ++ ascii "\r\n" ++ ascii body

theorem exists_ok (data : Bytes) (h : (parseRequest data).toOption.isSome) :
    ∃ request, parseRequest data = .ok request := by
  rcases hdata : parseRequest data with response | request
  · rw [hdata] at h
    cases h
  · exact ⟨request, rfl⟩

/-- A length that is spelled as usual. -/
theorem not_smuggled_plain : NotSmuggled (headerFields (post "Content-Length: 5\r\n" "hello")) := by
  have hfields : headerFields (post "Content-Length: 5\r\n" "hello") =
      [(ascii "Content-Length", ascii " 5")] := by decide +kernel
  obtain ⟨request, hrequest⟩ :=
    exists_ok (post "Content-Length: 5\r\n" "hello") (by decide +kernel)
  refine (not_smuggled_iff hrequest).2 ?_
  rw [hfields]
  constructor <;> intro f hf <;> obtain rfl := List.mem_singleton.1 hf
  · exact fun h => absurd h.1 (by decide +kernel)
  · exact fun h => absurd (show Exactly contentLengthName _ by decide +kernel) h.2
  · exact fun _ => ⟨by decide +kernel, by decide +kernel, by decide +kernel⟩

/-- **White space behind the name of a `Transfer-Encoding`**: the request is accepted, and a front
end that trims the name takes it for a chunked one. -/
theorem accepted_transfer_encoding :
    (∃ request, parseRequest
      (post "Transfer-Encoding : chunked\r\nContent-Length: 5\r\n" "hello") = .ok request) ∧
    ¬ NotSmuggled
      (headerFields (post "Transfer-Encoding : chunked\r\nContent-Length: 5\r\n" "hello")) := by
  refine ⟨exists_ok _ (by decide +kernel), fun h => ?_⟩
  exact h.none (ascii "Transfer-Encoding ", ascii " chunked") (by decide +kernel) (by decide +kernel)

end Http
end Daemon
end Dbal
