/-
# Templates are resolved once

`resolve` of `include/workflow/wf_context.hpp`.  A text is cut into characters and placeholders
(`Cut`), in one way and before anything is known about the variables, and each placeholder is
replaced by the text of what it leads to.  So nothing that comes out of a variable is looked at
again, and a value reads the variables that its own placeholders name and no others
(`resolve_congr`).

That is so for one call.  The executor resolves the parameters of a node, and the step that sets a
variable resolves its value again, so there a text of the event is expanded
(`stored_text_expanded_again`).
-/

import Mathlib.Data.List.TakeWhile
import Dbal.Store.MapStore
import Dbal.Workflow.Executor
import Dbal.Workflow.Variables

namespace Dbal

/-- Induction over the parts of a value. -/
theorem Json.parts_induction {P : Json → Prop} (str : ∀ s, P (.str s))
    (obj : ∀ members, (∀ m ∈ members, P m.2) → P (.obj members))
    (arr : ∀ elements, (∀ x ∈ elements, P x) → P (.arr elements))
    (scalar : ∀ value, ¬ value.isString → ¬ value.isObject → ¬ value.isArray → P value)
    (value : Json) : P value := by
  refine @Json.rec P (fun elements => ∀ x ∈ elements, P x) (fun members => ∀ m ∈ members, P m.2)
    (fun m => P m.2) ?_ ?_ ?_ ?_ ?_ str arr obj ?_ ?_ ?_ ?_ ?_ value
  · exact scalar _ Bool.false_ne_true Bool.false_ne_true Bool.false_ne_true
  · exact fun _ => scalar _ Bool.false_ne_true Bool.false_ne_true Bool.false_ne_true
  · exact fun _ => scalar _ Bool.false_ne_true Bool.false_ne_true Bool.false_ne_true
  · exact fun _ => scalar _ Bool.false_ne_true Bool.false_ne_true Bool.false_ne_true
  · exact fun _ _ => scalar _ Bool.false_ne_true Bool.false_ne_true Bool.false_ne_true
  · exact fun x hx => absurd hx List.not_mem_nil
  · exact fun x xs hx hxs => List.forall_mem_cons.2 ⟨hx, hxs⟩
  · exact fun m hm => absurd hm List.not_mem_nil
  · exact fun m ms hm hms => List.forall_mem_cons.2 ⟨hm, hms⟩
  · exact fun _ _ h => h

namespace Workflow

/-! ### Pieces -/

/-- A piece of a template. -/
inductive Piece where
  | char (c : Char)
  | placeholder (key : String)
  deriving DecidableEq, Repr

/-- A placeholder starts here, and it is closed. -/
def Opens (text : List Char) : Prop := ∃ after, text = '$' :: '\x7b' :: after ∧ '\x7d' ∈ after

/-- **A template cut into its pieces**, from the left.  A placeholder goes to the first brace that
closes it, whatever is in between. -/
inductive Cut : List Char → List Piece → Prop
  | nil : Cut [] []
  | placeholder {key rest : List Char} {pieces : List Piece} (hkey : '\x7d' ∉ key)
      (h : Cut rest pieces) :
      Cut ('$' :: '\x7b' :: (key ++ '\x7d' :: rest)) (.placeholder (.ofList key) :: pieces)
  | char {c : Char} {rest : List Char} {pieces : List Piece} (hc : ¬ Opens (c :: rest))
      (h : Cut rest pieces) : Cut (c :: rest) (.char c :: pieces)

theorem opens_placeholder (key rest : List Char) :
    Opens ('$' :: '\x7b' :: (key ++ '\x7d' :: rest)) :=
  ⟨_, rfl, List.mem_append_right _ List.mem_cons_self⟩

/-- An open placeholder has its key up to the first closing brace. -/
theorem Opens.split {text : List Char} (h : Opens text) :
    ∃ key rest, '\x7d' ∉ key ∧ text = '$' :: '\x7b' :: (key ++ '\x7d' :: rest) := by
  obtain ⟨after, rfl, hclosed⟩ := h
  obtain ⟨key, rest, rfl, hkey⟩ := List.eq_append_cons_of_mem hclosed
  exact ⟨key, rest, hkey, rfl⟩

/-- Every text can be cut. -/
theorem exists_cut (text : List Char) : ∃ pieces, Cut text pieces := by
  induction hlength : text.length using Nat.strongRecOn generalizing text with
  | ind n ih =>
      by_cases hopens : Opens text
      · obtain ⟨key, rest, hkey, rfl⟩ := hopens.split
        obtain ⟨pieces, hpieces⟩ := ih rest.length (by simp at hlength; omega) rest rfl
        exact ⟨_, .placeholder hkey hpieces⟩
      · cases text with
        | nil => exact ⟨[], .nil⟩
        | cons c rest =>
            obtain ⟨pieces, hpieces⟩ := ih rest.length (by simp at hlength; omega) rest rfl
            exact ⟨_, .char hopens hpieces⟩

/-- A key without the brace, the brace and what follows are read off the text. -/
theorem key_unique {key key' rest rest' : List Char} (hkey : '\x7d' ∉ key) (hkey' : '\x7d' ∉ key')
    (h : key ++ '\x7d' :: rest = key' ++ '\x7d' :: rest') : key = key' ∧ rest = rest' := by
  obtain ⟨hfront, hback⟩ := List.append_inj h (by
    have hlength := congrArg (List.idxOf '\x7d') h
    simpa [List.idxOf_append, hkey, hkey'] using hlength)
  exact ⟨hfront, (List.cons.inj hback).2⟩

/-- There is one way to cut a text. -/
theorem Cut.unique {text : List Char} {pieces pieces' : List Piece} (h : Cut text pieces)
    (h' : Cut text pieces') : pieces = pieces' := by
  induction h generalizing pieces' with
  | nil => cases h'; rfl
  | @placeholder key rest pieces hkey _ ih =>
      generalize htext : '$' :: '\x7b' :: (key ++ '\x7d' :: rest) = text at h'
      cases h' with
      | nil => cases htext
      | placeholder hkey' hrest' =>
          obtain ⟨rfl, rfl⟩ := key_unique hkey hkey' (List.cons.inj (List.cons.inj htext).2).2
          rw [ih hrest']
      | char hc _ => exact absurd (htext ▸ opens_placeholder key rest) hc
  | @char c rest pieces hc _ ih =>
      generalize htext : c :: rest = text at h'
      cases h' with
      | nil => cases htext
      | placeholder _ _ => exact absurd (htext ▸ opens_placeholder _ _) hc
      | char _ hrest' =>
          obtain ⟨rfl, rfl⟩ := List.cons.inj htext
          rw [ih hrest']

/-- Where nothing opens a placeholder there are only characters. -/
theorem Cut.plain {text : List Char} (h : ¬ ['$', '\x7b'] <:+: text) :
    Cut text (text.map .char) := by
  induction text with
  | nil => exact .nil
  | cons c rest ih =>
      refine .char ?_ (ih fun hrest => h (List.infix_cons hrest))
      rintro ⟨after, hafter, -⟩
      exact h ⟨[], after, by rw [hafter]; rfl⟩

/-! ### Texts -/

/-- A text that is a placeholder as a whole. -/
def placeholderText (key : String) : String :=
  .ofList ('$' :: '\x7b' :: (key.toList ++ ['\x7d']))

/-- The text of what a placeholder leads to: nothing for what is undefined or null. -/
def storedText (dump : Json → String) : Option Json → List Char
  | none | some .null => []
  | some (.str s) => s.toList
  | some value => (dump value).toList

namespace WfContext

variable (dump : Json → String) (ctx : WfContext)

/-- What a piece becomes. -/
def pieceText : Piece → List Char
  | .char c => [c]
  | .placeholder key => storedText dump (ctx.stored? key)

theorem placeholder_eq (key : String) :
    (ctx.placeholder dump key).toList = storedText dump (ctx.stored? key) := by
  rw [placeholder, get_eq]
  cases ctx.stored? key with
  | none => rfl
  | some value => cases value <;> rfl

theorem resolveChars_skip (skip : Nat) (text : List Char) :
    ctx.resolveChars dump skip text = ctx.resolveChars dump 0 (text.drop skip) := by
  induction text generalizing skip with
  | nil => cases skip <;> rfl
  | cons c rest ih =>
      cases skip with
      | zero => rfl
      | succ skip => exact ih skip

theorem resolveChars_placeholder {key rest : List Char} (hkey : '\x7d' ∉ key) :
    ctx.resolveChars dump 0 ('$' :: '\x7b' :: (key ++ '\x7d' :: rest)) =
      storedText dump (ctx.stored? (.ofList key)) ++ ctx.resolveChars dump 0 rest := by
  have hall : ∀ c ∈ key, decide (c ≠ '\x7d') = true := fun c hc =>
    decide_eq_true fun heq => hkey (heq ▸ hc)
  have htake : (key ++ '\x7d' :: rest).takeWhile (· ≠ '\x7d') = key := by
    rw [List.takeWhile_append_of_pos hall, List.takeWhile_cons_of_neg (by simp), List.append_nil]
  have hdrop : (key ++ '\x7d' :: rest).drop (key.length + 1) = rest := by simp
  simp only [resolveChars, List.mem_append, List.mem_cons, true_or, or_true, if_true, htake]
  rw [resolveChars_skip, hdrop, placeholder_eq]

theorem resolveChars_char {c : Char} {rest : List Char} (hc : ¬ Opens (c :: rest)) :
    ctx.resolveChars dump 0 (c :: rest) = c :: ctx.resolveChars dump 0 rest := by
  by_cases hstart : ∃ after, c = '$' ∧ rest = '\x7b' :: after
  · obtain ⟨after, rfl, rfl⟩ := hstart
    simp only [resolveChars]
    rw [if_neg fun hclosed => hc ⟨after, rfl, hclosed⟩]
  · rw [resolveChars]
    intro after hc hrest
    exact hstart ⟨after, hc, hrest⟩

/-- **A text is resolved piece by piece.** -/
theorem resolveChars_of_cut {text : List Char} {pieces : List Piece} (h : Cut text pieces) :
    ctx.resolveChars dump 0 text = pieces.flatMap (ctx.pieceText dump) := by
  induction h with
  | nil => rfl
  | placeholder hkey _ ih => rw [resolveChars_placeholder dump ctx hkey, ih]; rfl
  | char hc _ ih => rw [resolveChars_char dump ctx hc, ih]; rfl

/-! ### Values -/

/-- The key of a text that is one placeholder as a whole. -/
theorem wholeKey_eq_some_iff {tmpl key : String} :
    wholeKey tmpl = some key ↔
      key ≠ "" ∧ '\x7d' ∉ key.toList ∧ tmpl = placeholderText key := by
  constructor
  · intro h
    unfold wholeKey at h
    split at h
    · next rest htmpl =>
        dsimp only at h
        split_ifs at h with hwhole
        obtain rfl := Option.some.inj h
        refine ⟨fun hempty => hwhole.1 (by simpa using hempty), fun hmem => ?_, ?_⟩
        · rw [String.toList_ofList] at hmem
          simpa using List.mem_takeWhile_imp hmem
        · rw [placeholderText, String.toList_ofList, ← hwhole.2, ← htmpl, String.ofList_toList]
    · cases h
  · rintro ⟨hne, hkey, rfl⟩
    have hall : ∀ c ∈ key.toList, decide (c ≠ '\x7d') = true := fun c hc =>
      decide_eq_true fun heq => hkey (heq ▸ hc)
    have htake : (key.toList ++ ['\x7d']).takeWhile (· ≠ '\x7d') = key.toList := by
      rw [List.takeWhile_append_of_pos hall, List.takeWhile_cons_of_neg (by simp), List.append_nil]
    simp only [wholeKey, placeholderText, String.toList_ofList, htake]
    rw [if_pos ⟨by simpa using hne, trivial⟩, String.ofList_toList]

theorem resolve_obj (members : List (String × Json)) :
    ctx.resolve dump (.obj members) = .obj (members.map fun m => (m.1, ctx.resolve dump m.2)) := by
  have hmembers : ctx.resolveMembers dump members =
      members.map fun m => (m.1, ctx.resolve dump m.2) := by
    induction members with
    | nil => rfl
    | cons m members ih => rw [resolveMembers, ih, List.map_cons]
  rw [resolve, hmembers]

theorem resolve_arr (elements : List Json) :
    ctx.resolve dump (.arr elements) = .arr (elements.map (ctx.resolve dump)) := by
  have helements : ctx.resolveElements dump elements = elements.map (ctx.resolve dump) := by
    induction elements with
    | nil => rfl
    | cons x elements ih => rw [resolveElements, ih, List.map_cons]
  rw [resolve, helements]

theorem resolve_scalar {value : Json} (hs : ¬ value.isString) (ho : ¬ value.isObject)
    (ha : ¬ value.isArray) : ctx.resolve dump value = value := by
  cases value with
  | str s => exact absurd rfl hs
  | obj members => exact absurd rfl ho
  | arr elements => exact absurd rfl ha
  | _ => rfl

theorem resolve_whole {key : String} (hne : key ≠ "") (hkey : '\x7d' ∉ key.toList) :
    ctx.resolve dump (.str (placeholderText key)) =
      (ctx.stored? key).getD (.str (placeholderText key)) := by
  rw [resolve, wholeKey_eq_some_iff.2 ⟨hne, hkey, rfl⟩, ← get_eq]

theorem resolve_text {tmpl : String} {pieces : List Piece}
    (hwhole : ¬ ∃ key, key ≠ "" ∧ '\x7d' ∉ key.toList ∧ tmpl = placeholderText key)
    (h : Cut tmpl.toList pieces) :
    ctx.resolve dump (.str tmpl) = .str (.ofList (pieces.flatMap (ctx.pieceText dump))) := by
  have hnone : wholeKey tmpl = none :=
    Option.eq_none_iff_forall_not_mem.2 fun key hkey => hwhole ⟨key, wholeKey_eq_some_iff.1 hkey⟩
  rw [resolve, hnone, resolveStr, resolveChars_of_cut dump ctx h]

/-- Where nothing opens a placeholder, nothing changes. -/
theorem resolve_plain {tmpl : String} (h : ¬ ['$', '\x7b'] <:+: tmpl.toList) :
    ctx.resolve dump (.str tmpl) = .str tmpl := by
  have hwhole : ¬ ∃ key, key ≠ "" ∧ '\x7d' ∉ key.toList ∧ tmpl = placeholderText key := by
    rintro ⟨key, -, -, rfl⟩
    exact h ⟨[], key.toList ++ ['\x7d'], by rw [placeholderText, String.toList_ofList]; rfl⟩
  rw [resolve_text dump ctx hwhole (Cut.plain h), List.flatMap_map]
  change Json.str (.ofList (tmpl.toList.flatMap fun c => [c])) = _
  rw [List.flatMap_singleton', String.ofList_toList]

end WfContext

/-! ### What is read -/

/-- The variable is named by a placeholder in one of the texts of the value. -/
inductive Names : Json → String → Prop
  | str {s key : String} {pieces : List Piece} (h : Cut s.toList pieces)
      (hkey : .placeholder key ∈ pieces) : Names (.str s) key
  | obj {members : List (String × Json)} {m : String × Json} {key : String} (hm : m ∈ members)
      (h : Names m.2 key) : Names (.obj members) key
  | arr {elements : List Json} {x : Json} {key : String} (hx : x ∈ elements) (h : Names x key) :
      Names (.arr elements) key

namespace WfContext

variable (dump : Json → String)

/-- A placeholder as a whole is cut into itself. -/
theorem cut_placeholderText {key : String} (hkey : '\x7d' ∉ key.toList) :
    Cut (placeholderText key).toList [.placeholder key] := by
  have hcut := Cut.placeholder hkey .nil
  rw [String.ofList_toList] at hcut
  rwa [placeholderText, String.toList_ofList]

/-- **Only the variables that are named are read**: where they lead to the same, the value is
resolved to the same. -/
theorem resolve_congr {ctx ctx' : WfContext} {value : Json}
    (h : ∀ key, Names value key → ctx.stored? key = ctx'.stored? key) :
    ctx.resolve dump value = ctx'.resolve dump value := by
  induction value using Json.parts_induction with
  | str s =>
      obtain ⟨pieces, hcut⟩ := exists_cut s.toList
      by_cases hwhole : ∃ key, key ≠ "" ∧ '\x7d' ∉ key.toList ∧ s = placeholderText key
      · obtain ⟨key, hne, hkey, rfl⟩ := hwhole
        rw [resolve_whole dump ctx hne hkey, resolve_whole dump ctx' hne hkey,
          h key (.str (cut_placeholderText hkey) List.mem_cons_self)]
      · rw [resolve_text dump ctx hwhole hcut, resolve_text dump ctx' hwhole hcut]
        congr 2
        refine List.flatMap_congr fun piece hpiece => ?_
        cases piece with
        | char c => rfl
        | placeholder key => rw [pieceText, pieceText, h key (.str hcut hpiece)]
  | obj members ih =>
      rw [resolve_obj, resolve_obj]
      congr 1
      refine List.map_congr_left fun m hm => ?_
      rw [ih m hm fun key hkey => h key (.obj hm hkey)]
  | arr elements ih =>
      rw [resolve_arr, resolve_arr]
      congr 1
      exact List.map_congr_left fun x hx => ih x hx fun key hkey => h key (.arr hx hkey)
  | scalar value hs ho ha => rw [resolve_scalar dump ctx hs ho ha, resolve_scalar dump ctx' hs ho ha]

/-- **A value is resolved in one pass, and keeps its structure.**  Objects and arrays are resolved
part by part, and other values than texts stay what they are.  A text without `$\x7b` stays as well;
one that is a placeholder as a whole becomes the value it leads to, or itself where there is none;
any other is cut into its pieces, which there is one way to do, and each piece is replaced.  What is
read are the variables that the value itself names: nothing that one of them holds names another. -/
theorem resolve_single_pass (ctx : WfContext) :
    (∀ members, ctx.resolve dump (.obj members) =
        .obj (members.map fun m => (m.1, ctx.resolve dump m.2))) ∧
      (∀ elements, ctx.resolve dump (.arr elements) = .arr (elements.map (ctx.resolve dump))) ∧
      (∀ value : Json, ¬ value.isString → ¬ value.isObject → ¬ value.isArray →
        ctx.resolve dump value = value) ∧
      (∀ s : String, ¬ ['$', '\x7b'] <:+: s.toList → ctx.resolve dump (.str s) = .str s) ∧
      (∀ key : String, key ≠ "" → '\x7d' ∉ key.toList →
        ctx.resolve dump (.str (placeholderText key)) =
          (ctx.stored? key).getD (.str (placeholderText key))) ∧
      (∀ s : String, ∃ pieces, Cut s.toList pieces ∧
        (∀ pieces', Cut s.toList pieces' → pieces' = pieces) ∧
        ((¬ ∃ key, key ≠ "" ∧ '\x7d' ∉ key.toList ∧ s = placeholderText key) →
          ctx.resolve dump (.str s) = .str (.ofList (pieces.flatMap (ctx.pieceText dump))))) ∧
      ∀ (value : Json) (ctx' : WfContext),
        (∀ key, Names value key → ctx.stored? key = ctx'.stored? key) →
          ctx.resolve dump value = ctx'.resolve dump value := by
  refine ⟨resolve_obj dump ctx, resolve_arr dump ctx, fun value => resolve_scalar dump ctx,
    fun s => resolve_plain dump ctx, fun key => resolve_whole dump ctx, fun s => ?_,
    fun value ctx' => resolve_congr dump⟩
  obtain ⟨pieces, hcut⟩ := exists_cut s.toList
  exact ⟨pieces, hcut, fun pieces' hcut' => hcut'.unique hcut,
    fun hwhole => resolve_text dump ctx hwhole hcut⟩

/-- A visitor's text that is a placeholder itself, and a variable that it names. -/
def visited (secret : String) : WfContext :=
  (WfContext.set {} "secret" (.str secret)).set "event"
    (.obj [("comment", .str (placeholderText "secret"))])

/-- The step keeps what the visitor wrote. -/
def keepComment : WfGraph.WfNode where
  id := "keep"
  type := "dbal.var.set"
  parameters := .obj [("key", .str "note"), ("value", .str (placeholderText "event.comment"))]
  outputs := .obj []

theorem names_keepComment {key : String} (h : Names keepComment.parameters key) :
    key = "event.comment" := by
  cases h with
  | obj hm hnames =>
      rcases List.mem_cons.1 hm with rfl | hm
      · cases hnames with
        | str hcut hkey =>
            rw [hcut.unique (Cut.plain (by decide))] at hkey
            obtain ⟨c, -, hc⟩ := List.mem_map.1 hkey
            cases hc
      · obtain rfl := List.mem_singleton.1 hm
        cases hnames with
        | str hcut hkey =>
            rw [hcut.unique (cut_placeholderText (by decide))] at hkey
            cases List.mem_singleton.1 hkey
            rfl

/-- A step that is given a visitor's text reads a variable that its parameters do not name. -/
theorem stored_text_expanded_again :
    ¬ ∀ (run : Runtime) (node : WfGraph.WfNode) (ctx ctx' : WfContext) (name : String),
      (∀ key, Names node.parameters key → ctx.stored? key = ctx'.stored? key) →
        ctx.get name = ctx'.get name →
          (executeNode (MapStore.adapter MapStore.anyEntity) run 0 node ctx {}).1.map
              (fun after => after.get name) =
            (executeNode (MapStore.adapter MapStore.anyEntity) run 0 node ctx' {}).1.map
              fun after => after.get name := by
  intro h
  have hstored : ∀ key, Names keepComment.parameters key →
      (visited "mine").stored? key = (visited "yours").stored? key := by
    intro key hkey
    obtain rfl := names_keepComment hkey
    rfl
  have hsame := h ⟨fun _ => "", fun _ => "", fun _ => 0⟩ keepComment (visited "mine")
    (visited "yours") "note" hstored rfl
  have htexts : (Except.ok (.str "mine") : Except WfThrown Json) = .ok (.str "yours") := hsame
  exact absurd (Json.str.inj (Except.ok.inj htexts)) (by decide)

end WfContext

end Workflow
end Dbal
