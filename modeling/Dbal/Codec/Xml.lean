/-
# XML as it is written

A forest is what stands between two tags: characters, comments and the like, empty elements, and
elements with a forest inside.  `Forest.write` writes it down, with the characters escaped in a way
that is left open (`Escaping`).  `Forest.named` gives the elements of a name, wherever they stand.

A search for a tag passes over what is another tag or no tag, since only a tag begins with `<`, and
no other tag has the same text up to its `>`; so a search for the end of an element passes over a
forest in which there is no element of its name (`Forest.skips_closeTag`).
-/

import Mathlib.Data.List.TakeWhile
import Dbal.Codec.Search

namespace Dbal
namespace Codec
namespace Xml

/-! ## Forests -/

/-- How characters are written: as they are, or as the name of an entity between `&` and `;`. -/
structure Escaping where
  escape : Char → List Char
  escape_eq : ∀ c, (escape c = [c] ∧ c ≠ '<' ∧ c ≠ '&') ∨
    ∃ name, escape c = '&' :: (name ++ [';']) ∧ '<' ∉ name
  escape_digit : ∀ c, c.isDigit = true → escape c = [c]

/-- The name of an element. -/
structure Name where
  chars : List Char
  nonempty : chars ≠ []
  plain : ∀ c ∈ chars, c ∉ ['<', '>', '/', ' ', '?', '!']

/-- What stands in a tag behind the name. -/
structure Attributes where
  chars : List Char
  separated : chars = [] ∨ ∃ more, chars = ' ' :: more
  plain : '<' ∉ chars

/-- The inside of a comment or a declaration. -/
structure Markup where
  chars : List Char
  marked : ∃ mark more, chars = mark :: more ∧ mark ∈ ['?', '!']
  plain : '<' ∉ chars

/-- What stands between two tags. -/
inductive Forest where
  | nil
  | text (chars : List Char) (rest : Forest)
  | markup (inside : Markup) (rest : Forest)
  | empty (name : Name) (rest : Forest)
  | element (name : Name) (attributes : Attributes) (children rest : Forest)

/-- The tag that begins an element without attributes. -/
def openTag (name : List Char) : List Char := '<' :: (name ++ ['>'])

/-- The tag that begins an element. -/
def startTag (name attributes : List Char) : List Char := '<' :: (name ++ attributes ++ ['>'])

/-- The tag of an element that has nothing inside. -/
def emptyTag (name : List Char) : List Char := '<' :: (name ++ ['/', '>'])

/-- The tag that ends an element. -/
def closeTag (name : List Char) : List Char := '<' :: '/' :: (name ++ ['>'])

namespace Escaping

variable (escaping : Escaping)

/-- A text, character by character. -/
def escapeAll (chars : List Char) : List Char := chars.flatMap escaping.escape

theorem not_mem_escapeAll (chars : List Char) : '<' ∉ escaping.escapeAll chars := by
  intro hmem
  obtain ⟨c, -, hc⟩ := List.mem_flatMap.1 hmem
  rcases escaping.escape_eq c with ⟨heq, hne, -⟩ | ⟨name, heq, hname⟩
  · rw [heq, List.mem_singleton] at hc
    exact hne hc.symm
  · rw [heq, List.mem_cons, List.mem_append, List.mem_singleton] at hc
    rcases hc with hc | hc | hc
    · exact absurd hc (by decide)
    · exact hname hc
    · exact absurd hc (by decide)

theorem one_le_length_escape (c : Char) : 1 ≤ (escaping.escape c).length := by
  rcases escaping.escape_eq c with ⟨heq, -, -⟩ | ⟨name, heq, -⟩
  · simp [heq]
  · simp [heq]

theorem length_le_escapeAll (chars : List Char) :
    chars.length ≤ (escaping.escapeAll chars).length := by
  induction chars with
  | nil => exact le_rfl
  | cons c chars ih =>
      have hone := escaping.one_le_length_escape c
      rw [escapeAll, List.flatMap_cons, List.length_append, List.length_cons]
      rw [escapeAll] at ih
      omega

/-- **A text is written as it is exactly when no character of it is escaped.** -/
theorem escapeAll_eq_self_iff {chars : List Char} :
    escaping.escapeAll chars = chars ↔ ∀ c ∈ chars, escaping.escape c = [c] := by
  induction chars with
  | nil => simp [escapeAll]
  | cons c chars ih =>
      rw [List.forall_mem_cons, ← ih, escapeAll, List.flatMap_cons, ← escapeAll]
      constructor
      · intro heq
        have hlength := congrArg List.length heq
        have hrest := escaping.length_le_escapeAll chars
        have hone := escaping.one_le_length_escape c
        rw [List.length_append, List.length_cons] at hlength
        obtain ⟨d, hd⟩ : ∃ d, escaping.escape c = [d] := List.length_eq_one_iff.1 (by omega)
        rw [hd, List.singleton_append] at heq
        obtain ⟨rfl, htail⟩ := List.cons.inj heq
        exact ⟨hd, htail⟩
      · rintro ⟨hc, hchars⟩
        rw [hc, hchars, List.singleton_append]

end Escaping

namespace Forest

/-- A forest, written down. -/
def write (escaping : Escaping) : Forest → List Char
  | nil => []
  | text chars rest => escaping.escapeAll chars ++ rest.write escaping
  | markup inside rest => openTag inside.chars ++ rest.write escaping
  | empty name rest => emptyTag name.chars ++ rest.write escaping
  | element name attributes children rest =>
      startTag name.chars attributes.chars ++
        (children.write escaping ++ (closeTag name.chars ++ rest.write escaping))

/-- The elements of a name: what stands in their tags and between them. -/
def named (tag : List Char) : Forest → List (List Char × Forest)
  | nil => []
  | text _ rest | markup _ rest | empty _ rest => rest.named tag
  | element name attributes children rest =>
      (if name.chars = tag then [(attributes.chars, children)] else []) ++
        (children.named tag ++ rest.named tag)

end Forest

/-! ## Searching -/

section Searching

variable {tag body front more : List Char}

/-- A search for a tag passes over a tag that has another text. -/
theorem skips_tag (hbody : '<' ∉ body) (h : ∀ rest, ¬ tag <+: body ++ rest) :
    Skips ('<' :: tag) ('<' :: body) := by
  intro rest
  have hprefix : ¬ '<' :: tag <+: '<' :: (body ++ rest) := fun hpre =>
    h rest (List.cons_prefix_cons.1 hpre).2
  rw [List.cons_append, cut_cons_of_not_prefix hprefix, skips_of_not_mem hbody, Option.map_map]
  rfl

/-- A text up to its first `>`. -/
theorem takeWhile_append_cons (hfront : '>' ∉ front) (rest : List Char) :
    (front ++ '>' :: rest).takeWhile (· ≠ '>') = front := by
  have hall : ∀ c ∈ front, decide (c ≠ '>') = true := fun c hc => decide_eq_true fun heq =>
    hfront (heq ▸ hc)
  rw [List.takeWhile_append_of_pos hall, List.takeWhile_cons_of_neg (by simp), List.append_nil]

/-- A tag at the beginning of a text is what the text has up to its first `>`. -/
theorem takeWhile_of_isPrefixOf {text : List Char} (htag : '>' ∉ tag) (h : tag ++ ['>'] <+: text) :
    text.takeWhile (· ≠ '>') = tag := by
  obtain ⟨rest, rfl⟩ := h
  rw [List.append_assoc, List.singleton_append, takeWhile_append_cons htag]

/-- A text that has a further character before its first `>` does not begin with the tag. -/
theorem not_prefix_of_mark {c : Char} (htag : '>' ∉ tag) (hfront : '>' ∉ front) (hc : c ∉ tag)
    (hne : c ≠ '>') : ¬ tag ++ ['>'] <+: front ++ c :: more := by
  intro hprefix
  have hall : ∀ d ∈ front, decide (d ≠ '>') = true := fun d hd => decide_eq_true fun heq =>
    hfront (heq ▸ hd)
  have htake : (c :: more).takeWhile (· ≠ '>') = c :: more.takeWhile (· ≠ '>') :=
    List.takeWhile_cons_of_pos (decide_eq_true hne)
  refine hc (takeWhile_of_isPrefixOf htag hprefix ▸ ?_)
  rw [List.takeWhile_append_of_pos hall, htake]
  exact List.mem_append_right _ List.mem_cons_self

end Searching

namespace Name

variable (name tag : Name)

theorem not_mem {c : Char} (hc : c ∈ ['<', '>', '/', ' ', '?', '!']) : c ∉ name.chars :=
  fun hmem => name.plain c hmem hc

/-- A start tag without attributes ends with its name. -/
theorem skips_openTag_start (h : name.chars ≠ tag.chars) (attributes : Attributes) :
    Skips (openTag tag.chars) (startTag name.chars attributes.chars) := by
  refine skips_tag (by simp [name.not_mem, attributes.plain]) fun rest hprefix => ?_
  rcases attributes.separated with hattributes | ⟨more, hattributes⟩
  · rw [hattributes, List.append_nil, List.append_assoc, List.singleton_append] at hprefix
    have htext := takeWhile_of_isPrefixOf (tag.not_mem (by decide)) hprefix
    rw [takeWhile_append_cons (name.not_mem (by decide))] at htext
    exact h htext
  · rw [hattributes, List.append_assoc, List.append_assoc, List.cons_append] at hprefix
    exact not_prefix_of_mark (tag.not_mem (by decide)) (name.not_mem (by decide))
      (tag.not_mem (by decide)) (by decide) hprefix

theorem skips_openTag_empty : Skips (openTag tag.chars) (emptyTag name.chars) := by
  refine skips_tag (by simp [name.not_mem]) fun rest hprefix => ?_
  rw [List.append_assoc, List.cons_append] at hprefix
  exact not_prefix_of_mark (tag.not_mem (by decide)) (name.not_mem (by decide))
    (tag.not_mem (by decide)) (by decide) hprefix

theorem skips_openTag_markup (inside : Markup) :
    Skips (openTag tag.chars) (openTag inside.chars) := by
  obtain ⟨mark, more, hchars, hmark⟩ := inside.marked
  refine skips_tag (by simp [inside.plain]) fun rest hprefix => ?_
  rw [hchars, ← List.nil_append (mark :: more), List.append_assoc, List.append_assoc,
    List.cons_append] at hprefix
  have hreserved : ∀ c ∈ ['?', '!'], c ∈ ['<', '>', '/', ' ', '?', '!'] ∧ c ≠ '>' :=
    forall_mem_of_all (by decide)
  obtain ⟨hmem, hne⟩ := hreserved mark hmark
  exact not_prefix_of_mark (tag.not_mem (by decide)) List.not_mem_nil (tag.not_mem hmem) hne hprefix

theorem skips_openTag_close : Skips (openTag tag.chars) (closeTag name.chars) := by
  refine skips_tag (by simp [name.not_mem]) fun rest hprefix => ?_
  rw [← List.nil_append ('/' :: _), List.append_assoc, List.cons_append] at hprefix
  exact not_prefix_of_mark (tag.not_mem (by decide)) List.not_mem_nil
    (tag.not_mem (by decide)) (by decide) hprefix

/-- A tag that does not begin with a slash ends nothing. -/
theorem skips_closeTag {c : Char} {body : List Char} (hc : c ≠ '/') (hbody : '<' ∉ c :: body) :
    Skips (closeTag tag.chars) ('<' :: c :: body) := by
  refine skips_tag hbody fun rest hprefix => hc ?_
  exact (List.cons_prefix_cons.1 hprefix).1.symm

theorem skips_closeTag_start (attributes : Attributes) :
    Skips (closeTag tag.chars) (startTag name.chars attributes.chars) := by
  obtain ⟨c, more, hname⟩ := List.exists_cons_of_ne_nil name.nonempty
  have hc : c ≠ '/' := fun heq => name.not_mem (by decide) (heq ▸ hname ▸ List.mem_cons_self)
  have hbody : '<' ∉ name.chars ++ attributes.chars ++ ['>'] := by
    simp [name.not_mem, attributes.plain]
  rw [hname] at hbody
  rw [startTag, hname]
  exact skips_closeTag tag hc hbody

theorem skips_closeTag_empty : Skips (closeTag tag.chars) (emptyTag name.chars) := by
  obtain ⟨c, more, hname⟩ := List.exists_cons_of_ne_nil name.nonempty
  have hc : c ≠ '/' := fun heq => name.not_mem (by decide) (heq ▸ hname ▸ List.mem_cons_self)
  have hbody : '<' ∉ name.chars ++ ['/', '>'] := by simp [name.not_mem]
  rw [hname] at hbody
  rw [emptyTag, hname]
  exact skips_closeTag tag hc hbody

theorem skips_closeTag_markup (inside : Markup) :
    Skips (closeTag tag.chars) (openTag inside.chars) := by
  obtain ⟨mark, more, hchars, hmark⟩ := inside.marked
  have hslash : ∀ c ∈ ['?', '!'], c ≠ '/' := forall_mem_of_all (by decide)
  have hbody : '<' ∉ inside.chars ++ ['>'] := by simp [inside.plain]
  rw [hchars] at hbody
  rw [openTag, hchars]
  exact skips_closeTag tag (hslash mark hmark) hbody

theorem skips_closeTag_close (h : name.chars ≠ tag.chars) :
    Skips (closeTag tag.chars) (closeTag name.chars) := by
  refine skips_tag (by simp [name.not_mem]) fun rest hprefix => ?_
  have hinside : tag.chars ++ ['>'] <+: name.chars ++ ['>'] ++ rest :=
    (List.cons_prefix_cons.1 hprefix).2
  rw [List.append_assoc, List.singleton_append] at hinside
  have htext := takeWhile_of_isPrefixOf (tag.not_mem (by decide)) hinside
  rw [takeWhile_append_cons (name.not_mem (by decide))] at htext
  exact h htext

end Name

namespace Forest

variable {tag : Name} {forest : Forest}

/-- **A search for the end of an element passes over a forest without such an element.** -/
theorem skips_closeTag (escaping : Escaping) (h : forest.named tag.chars = []) :
    Skips (closeTag tag.chars) (forest.write escaping) := by
  induction forest with
  | nil => exact skips_of_not_mem List.not_mem_nil
  | text chars rest ih => exact (skips_of_not_mem (escaping.not_mem_escapeAll chars)).append (ih h)
  | markup inside rest ih => exact (tag.skips_closeTag_markup inside).append (ih h)
  | empty name rest ih => exact (name.skips_closeTag_empty tag).append (ih h)
  | element name attributes children rest ihChildren ihRest =>
      obtain ⟨hname, hinside⟩ := List.append_eq_nil_iff.1 h
      obtain ⟨hchildren, hrest⟩ := List.append_eq_nil_iff.1 hinside
      have hne : name.chars ≠ tag.chars := fun heq => by simp [heq] at hname
      exact (name.skips_closeTag_start tag attributes).append ((ihChildren hchildren).append
        ((name.skips_closeTag_close tag hne).append (ihRest hrest)))

end Forest

end Xml
end Codec
end Dbal
