/-
# The parameters of a URL

A URL ends at its first `#`, behind which only the reader of a page looks; its query stands behind
the first `?` before that.  The query is cut at `&`, and a piece that is empty stands for nothing
(`params`).  What is written behind a URL adds parameters to it when it has no fragment
(`params_append`), and is no part of it when it has one (`params_append_fragment`).  A parameter
whose value is written as it is comes back as it was exactly when the value is `Inert`.  The path
begins behind the host (`path`), and what is written behind an `Origin` is the path up to a `?` or
a `#` in it (`Origin.path_append`).
-/

import Dbal.Codec.QueryString
import Dbal.Codec.Search

namespace Dbal
namespace Codec

/-! ## Parameters -/

/-- What stands behind the first `?`, up to the fragment. -/
def query (url : List UInt8) : List UInt8 := back '?'.toUInt8 (front '#'.toUInt8 url)

/-- The pieces of a query that are not empty. -/
def pieces (query : List UInt8) : List (List UInt8) :=
  (query.splitOn '&'.toUInt8).filter (· ≠ [])

/-- The names and values that a URL carries. -/
def params (url : List UInt8) : List (List UInt8 × List UInt8) := (pieces (query url)).map pair

theorem pieces_nil : pieces [] = [] := by decide

theorem pieces_append (front rest : List UInt8) :
    pieces (front ++ '&'.toUInt8 :: rest) = pieces front ++ pieces rest := by
  rw [pieces, List.splitOn_append_cons_self, List.filter_append]
  rfl

/-- Pieces that were joined are the pieces. -/
theorem pieces_intercalate {texts : List (List UInt8)} (h : ∀ text ∈ texts, pieces text = [text]) :
    pieces (['&'.toUInt8].intercalate texts) = texts := by
  induction texts with
  | nil => exact pieces_nil
  | cons text texts ih =>
      rw [List.forall_mem_cons] at h
      cases texts with
      | nil => simpa using h.1
      | cons next texts =>
          rw [List.intercalate_cons_cons, List.append_assoc, List.singleton_append, pieces_append,
            h.1, ih h.2, List.singleton_append]

/-! ### What is written behind a URL -/

section Behind

variable {url : List UInt8}

/-- The byte that a first parameter, or a further one, begins with. -/
def separator (url : List UInt8) : UInt8 :=
  if '?'.toUInt8 ∈ url then '&'.toUInt8 else '?'.toUInt8

/-- The parameters in what is written behind a URL. -/
def paramsBehind (tail : List UInt8) : List (List UInt8 × List UInt8) :=
  (pieces (front '#'.toUInt8 tail)).map pair

/-- **A fragment hides what is written behind it.** -/
theorem params_append_fragment (h : '#'.toUInt8 ∈ url) (rest : List UInt8) :
    params (url ++ rest) = params url := by
  rw [params, query, front_append_of_mem h]
  rfl

/-- **A URL without a fragment keeps its parameters and gets those behind it.** -/
theorem params_append (h : '#'.toUInt8 ∉ url) (tail : List UInt8) :
    params (url ++ separator url :: tail) = params url ++ paramsBehind tail := by
  rw [params, params, paramsBehind, query, query, front_append_of_not_mem h, front_eq_self h]
  by_cases hquery : '?'.toUInt8 ∈ url
  · have hsep : front '#'.toUInt8 (separator url :: tail) =
        '&'.toUInt8 :: front '#'.toUInt8 tail := by
      rw [separator, if_pos hquery]
      exact List.takeWhile_cons_of_pos rfl
    rw [hsep, back_append_of_mem hquery, pieces_append, List.map_append]
  · have hsep : front '#'.toUInt8 (separator url :: tail) =
        '?'.toUInt8 :: front '#'.toUInt8 tail := by
      rw [separator, if_neg hquery]
      exact List.takeWhile_cons_of_pos rfl
    rw [hsep, back_append hquery, back_eq_nil hquery, pieces_nil]
    rfl

end Behind

/-! ### One parameter -/

/-- A name and a value, nothing escaped. -/
def assign (name value : List UInt8) : List UInt8 := name ++ '='.toUInt8 :: value

/-- A value that does not end its parameter and is not changed by the decoding. -/
structure Inert (value : List UInt8) : Prop where
  noSeparator : '&'.toUInt8 ∉ value
  noFragment : '#'.toUInt8 ∉ value
  literal : Literal value

/-- A name that is read as it is written. -/
structure PlainName (name : List UInt8) : Prop extends Inert name where
  noEquals : '='.toUInt8 ∉ name

section Parameter

variable {name value : List UInt8}

/-- A text that is cut and decoded is read as it is exactly when there is nothing to cut or
decode. -/
theorem read_iff {c d : UInt8} {text : List UInt8} :
    percentDecode (front c (front d text)) = text ↔ c ∉ text ∧ d ∉ text ∧ Literal text := by
  constructor
  · intro h
    have hdecode := length_percentDecode_le (front c (front d text))
    rw [h] at hdecode
    obtain ⟨hc, hd⟩ := not_mem_of_length_le hdecode
    rw [front_eq_self hd, front_eq_self hc] at h
    exact ⟨hc, hd, percentDecode_eq_self_iff.1 h⟩
  · rintro ⟨hc, hd, hliteral⟩
    rw [front_eq_self hd, front_eq_self hc, percentDecode_eq_self_iff.2 hliteral]

/-- A value is read as it is only when it is inert. -/
theorem inert_of_read (h : percentDecode (front '&'.toUInt8 (front '#'.toUInt8 value)) = value) :
    Inert value := by
  obtain ⟨hseparator, hfragment, hliteral⟩ := read_iff.1 h
  exact ⟨hseparator, hfragment, hliteral⟩

theorem pair_assign_of_not_mem (hname : '='.toUInt8 ∉ name) (value : List UInt8) :
    pair (assign name value) = (percentDecode name, percentDecode value) := by
  rw [pair, assign, front_append, front_eq_self hname, back_append hname]

theorem pair_assign (hname : PlainName name) (value : List UInt8) :
    pair (assign name value) = (name, percentDecode value) := by
  rw [pair_assign_of_not_mem hname.noEquals, percentDecode_eq_self_iff.2 hname.literal]

theorem not_mem_assign {c : UInt8} (hc : c ≠ '='.toUInt8) (hname : c ∉ name) (hvalue : c ∉ value) :
    c ∉ assign name value := by
  rw [assign, List.mem_append, List.mem_cons]
  rintro (hmem | heq | hmem)
  · exact hname hmem
  · exact hc heq
  · exact hvalue hmem

theorem assign_ne_nil (name value : List UInt8) : assign name value ≠ [] :=
  List.append_ne_nil_of_right_ne_nil _ (List.cons_ne_nil _ _)

theorem front_assign {c : UInt8} (hc : c ≠ '='.toUInt8) (hname : c ∉ name) (value : List UInt8) :
    front c (assign name value) = assign name (front c value) := by
  rw [assign, front_append_of_not_mem hname]
  exact congrArg (name ++ ·) (List.takeWhile_cons_of_pos (decide_eq_true (Ne.symm hc)))

theorem pieces_assign (hname : '&'.toUInt8 ∉ name) (hvalue : '&'.toUInt8 ∉ value) :
    pieces (assign name value) = [assign name value] := by
  have hno := not_mem_assign (by decide) hname hvalue
  rw [pieces, List.splitOn_eq_singleton hno]
  exact List.filter_cons_of_pos (decide_eq_true (assign_ne_nil name value))

/-- A value at the end. -/
theorem paramsBehind_assign (hname : PlainName name) (hvalue : Inert value) :
    paramsBehind (assign name value) = [(name, value)] := by
  rw [paramsBehind, front_assign (by decide) hname.noFragment, front_eq_self hvalue.noFragment,
    pieces_assign hname.noSeparator hvalue.noSeparator, List.map_singleton, pair_assign hname,
    percentDecode_eq_self_iff.2 hvalue.literal]

/-- A value with a further parameter behind it. -/
theorem paramsBehind_append (hname : PlainName name) (hvalue : Inert value) (rest : List UInt8) :
    paramsBehind (assign name value ++ '&'.toUInt8 :: rest) =
      (name, value) :: paramsBehind rest := by
  have hno := not_mem_assign (c := '#'.toUInt8) (by decide) hname.noFragment hvalue.noFragment
  have hrest : front '#'.toUInt8 ('&'.toUInt8 :: rest) = '&'.toUInt8 :: front '#'.toUInt8 rest :=
    List.takeWhile_cons_of_pos rfl
  rw [paramsBehind, front_append_of_not_mem hno, hrest, pieces_append,
    pieces_assign hname.noSeparator hvalue.noSeparator, List.singleton_append, List.map_cons,
    pair_assign hname, percentDecode_eq_self_iff.2 hvalue.literal]
  rfl

/-- However the value is written, the first parameter is cut from it. -/
theorem paramsBehind_eq_cons (hname : PlainName name) (value : List UInt8) {rest : List UInt8}
    (hrest : rest = [] ∨ ∃ more, rest = '&'.toUInt8 :: more) :
    ∃ more, paramsBehind (assign name value ++ rest) =
      (name, percentDecode (front '&'.toUInt8 (front '#'.toUInt8 value))) :: more := by
  have hfirst : front '&'.toUInt8 (front '#'.toUInt8 (assign name value ++ rest)) =
      assign name (front '&'.toUInt8 (front '#'.toUInt8 value)) := by
    by_cases hfragment : '#'.toUInt8 ∈ assign name value
    · rw [front_append_of_mem hfragment, front_assign (by decide) hname.noFragment,
        front_assign (by decide) hname.noSeparator]
    · have hvalue : '#'.toUInt8 ∉ value := fun hmem =>
        hfragment (List.mem_append_right _ (List.mem_cons_of_mem _ hmem))
      rw [front_append_of_not_mem hfragment, front_eq_self hvalue]
      rcases hrest with rfl | ⟨more, rfl⟩
      · have hcut : front '#'.toUInt8 ([] : List UInt8) = [] := rfl
        rw [hcut, List.append_nil, front_assign (by decide) hname.noSeparator]
      · have hcut : front '#'.toUInt8 ('&'.toUInt8 :: more) =
            '&'.toUInt8 :: front '#'.toUInt8 more := List.takeWhile_cons_of_pos rfl
        rw [hcut, front_append, front_assign (by decide) hname.noSeparator]
  obtain ⟨more, hmore⟩ :=
    splitOn_eq_front_cons '&'.toUInt8 (front '#'.toUInt8 (assign name value ++ rest))
  have hkeep (value : List UInt8) : (assign name value :: more).filter (· ≠ []) =
      assign name value :: more.filter (· ≠ []) :=
    List.filter_cons_of_pos (decide_eq_true (assign_ne_nil name value))
  refine ⟨(more.filter (· ≠ [])).map pair, ?_⟩
  rw [paramsBehind, pieces, hmore, hfirst, hkeep, List.map_cons, pair_assign hname]

end Parameter

/-! ## The path -/

/-- A URL without its scheme. -/
def afterScheme (url : List UInt8) : List UInt8 := ((cut (utf8 "://") url).map Prod.snd).getD url

/-- What stands behind the host, up to the query. -/
def path (url : List UInt8) : List UInt8 :=
  (afterScheme (front '?'.toUInt8 (front '#'.toUInt8 url))).dropWhile (· ≠ '/'.toUInt8)

/-- A scheme and a host: what a path is written behind. -/
structure Origin where
  scheme : List UInt8
  host : List UInt8
  scheme_plain : ∀ c ∈ scheme, c ∉ utf8 ":/?#"
  host_plain : ∀ c ∈ host, c ∉ utf8 "/?#"

namespace Origin

variable (origin : Origin)

/-- The URL that has only a scheme and a host. -/
def text : List UInt8 := origin.scheme ++ (utf8 "://" ++ origin.host)

theorem not_mem_scheme {c : UInt8} (hc : c ∈ utf8 ":/?#") : c ∉ origin.scheme :=
  fun hmem => origin.scheme_plain c hmem hc

theorem not_mem_host {c : UInt8} (hc : c ∈ utf8 "/?#") : c ∉ origin.host :=
  fun hmem => origin.host_plain c hmem hc

theorem not_mem_text {c : UInt8} (hc : c ∈ utf8 "?#") : c ∉ origin.text := by
  have hmarks : ∀ d ∈ utf8 "?#", d ∈ utf8 ":/?#" ∧ d ∈ utf8 "/?#" ∧ d ∉ utf8 "://" :=
    forall_mem_of_all (by decide)
  obtain ⟨hscheme, hhost, hmark⟩ := hmarks c hc
  rw [text, List.mem_append, List.mem_append]
  rintro (hmem | hmem | hmem)
  · exact origin.not_mem_scheme hscheme hmem
  · exact hmark hmem
  · exact origin.not_mem_host hhost hmem

theorem afterScheme_append (rest : List UInt8) :
    afterScheme (origin.text ++ rest) = origin.host ++ rest := by
  have hcut : cut (utf8 "://") (origin.scheme ++ (utf8 "://" ++ (origin.host ++ rest))) =
      some (origin.scheme, origin.host ++ rest) :=
    (skips_of_not_mem (origin.not_mem_scheme (by decide))).cut_append _
  rw [afterScheme, text, List.append_assoc, List.append_assoc, hcut]
  rfl

/-- **What is written behind a host is the path up to the first `?` or `#`.** -/
theorem path_append (rest : List UInt8) :
    path (origin.text ++ '/'.toUInt8 :: rest) =
      front '?'.toUInt8 (front '#'.toUInt8 ('/'.toUInt8 :: rest)) := by
  have hslash : ∀ c ∈ origin.host, decide (c ≠ '/'.toUInt8) = true := fun c hc =>
    decide_eq_true fun heq => origin.not_mem_host (by decide) (heq ▸ hc)
  have hfirst : front '?'.toUInt8 (front '#'.toUInt8 ('/'.toUInt8 :: rest)) =
      '/'.toUInt8 :: front '?'.toUInt8 (front '#'.toUInt8 rest) := by
    rw [front, front, List.takeWhile_cons_of_pos rfl, List.takeWhile_cons_of_pos rfl]
    rfl
  rw [path, front_append_of_not_mem (origin.not_mem_text (by decide)),
    front_append_of_not_mem (origin.not_mem_text (by decide)), afterScheme_append, hfirst,
    List.dropWhile_append_of_pos hslash]
  exact List.dropWhile_cons_of_neg (by simp)

/-- A query behind a path with neither of them. -/
theorem query_append {rest query : List UInt8} (hrest : ∀ c ∈ utf8 "?#", c ∉ rest)
    (hquery : '#'.toUInt8 ∉ query) :
    Codec.query (origin.text ++ (rest ++ '?'.toUInt8 :: query)) = query := by
  have hplain : ∀ c ∈ utf8 "?#", c ∉ origin.text ++ rest := fun c hc hmem =>
    (List.mem_append.1 hmem).elim (origin.not_mem_text hc) (hrest c hc)
  have hmark : front '#'.toUInt8 ('?'.toUInt8 :: query) = '?'.toUInt8 :: query := by
    refine front_eq_self fun hmem => ?_
    rcases List.mem_cons.1 hmem with heq | hmem
    · exact absurd heq (by decide)
    · exact hquery hmem
  rw [← List.append_assoc, Codec.query, front_append_of_not_mem (hplain _ (by decide)), hmark,
    back_append (hplain _ (by decide))]

end Origin

end Codec
end Dbal
