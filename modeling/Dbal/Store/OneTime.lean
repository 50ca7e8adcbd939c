/-
# Credentials that are used once

A book of credentials.  An entry has a key, the terms on which it was issued, and a mark that it
is spent.  It may be spent without having been used, and is used only while it is not and
as its terms allow.  Over a run a credential is used once at most, and on the terms it was
issued for.
-/

import Mathlib.Data.List.Nodup
import Dbal.Store.SideBySide

namespace Dbal
namespace OneTime

/-- A credential. -/
structure Entry (Key Terms : Type) where
  key : Key
  terms : Terms
  spent : Bool

/-- What is observed: that a credential was issued, and that one was used. -/
inductive Event (Key Terms Use : Type) where
  | issued (key : Key) (terms : Terms)
  | used (key : Key) (use : Use)

variable {Key Terms Use : Type}

/-- The uses of a credential. -/
def Event.uses [DecidableEq Key] (key : Key) : Event Key Terms Use → Bool
  | .issued _ _ => false
  | .used key' _ => key' = key

/-- The entry as it was, or spent. -/
def SpentTo (e e' : Entry Key Terms) : Prop :=
  e' = e ∨ e' = { e with spent := true }

/-- There is an entry with this key, and it is spent. -/
def Spent (book : List (Entry Key Terms)) (key : Key) : Prop :=
  ∃ e ∈ book, e.key = key ∧ e.spent = true

/-- A step: a credential is entered, or issued in vain; some are spent; one is used. -/
inductive Step (allows : Terms → Use → Prop) (book : List (Entry Key Terms)) :
    List (Event Key Terms Use) → List (Entry Key Terms) → Prop where
  | issue (key : Key) (terms : Terms) (hnew : ∀ e ∈ book, e.key ≠ key) :
      Step allows book [.issued key terms] (book ++ [⟨key, terms, false⟩])
  | fail (key : Key) (terms : Terms) : Step allows book [.issued key terms] book
  | spend {book' : List (Entry Key Terms)} (h : List.Forall₂ SpentTo book book') :
      Step allows book [] book'
  | use {book' : List (Entry Key Terms)} {e : Entry Key Terms} (hmem : e ∈ book)
      (hlive : e.spent = false) (use : Use) (hallows : allows e.terms use)
      (h : List.Forall₂ SpentTo book book') (hspent : Spent book' e.key) :
      Step allows book [.used e.key use] book'

/-- A run, with what was observed. -/
inductive Run (allows : Terms → Use → Prop) :
    List (Entry Key Terms) → List (Event Key Terms Use) → List (Entry Key Terms) → Prop where
  | refl (book : List (Entry Key Terms)) : Run allows book [] book
  | tail {book book' book'' : List (Entry Key Terms)} {es es' : List (Event Key Terms Use)} :
      Run allows book es book' → Step allows book' es' book'' → Run allows book (es ++ es') book''

/-! ### Spending -/

theorem SpentTo.key_eq {e e' : Entry Key Terms} (h : SpentTo e e') : e'.key = e.key := by
  rcases h with rfl | rfl <;> rfl

theorem SpentTo.terms_eq {e e' : Entry Key Terms} (h : SpentTo e e') : e'.terms = e.terms := by
  rcases h with rfl | rfl <;> rfl

theorem SpentTo.keys {book book' : List (Entry Key Terms)} (h : List.Forall₂ SpentTo book book') :
    book'.map Entry.key = book.map Entry.key :=
  Store.map_eq_of_forall₂ h fun _ _ he => he.key_eq

/-- Records of which some are marked. -/
theorem spentTo_map {Row : Type} (entry : Row → Entry Key Terms) {mark : Row → Row}
    (hmark : ∀ row, SpentTo (entry row) (entry (mark row))) (rows : List Row) :
    List.Forall₂ SpentTo (rows.map entry) ((rows.map mark).map entry) := by
  induction rows with
  | nil => exact .nil
  | cons row rows ih => exact .cons (hmark row) ih

theorem spentTo_refl (book : List (Entry Key Terms)) : List.Forall₂ SpentTo book book :=
  List.forall₂_same.2 fun _ _ => .inl rfl

/-- Nothing happens to a book. -/
theorem Step.idle {allows : Terms → Use → Prop} (book : List (Entry Key Terms)) :
    Step allows book [] book :=
  .spend (spentTo_refl book)

/-- What is spent stays spent. -/
theorem Spent.of_spentTo {book book' : List (Entry Key Terms)}
    (h : List.Forall₂ SpentTo book book') {key : Key} (hspent : Spent book key) :
    Spent book' key := by
  obtain ⟨e, hmem, hkey, hspent⟩ := hspent
  induction h with
  | nil => exact nomatch hmem
  | @cons a a' as as' ha _ ih =>
      rcases List.mem_cons.1 hmem with rfl | hmem
      · refine ⟨a', List.mem_cons_self, ha.key_eq.trans hkey, ?_⟩
        rcases ha with rfl | rfl
        · exact hspent
        · rfl
      · obtain ⟨e', he', hrest⟩ := ih hmem
        exact ⟨e', List.mem_cons_of_mem _ he', hrest⟩

theorem Spent.append {book : List (Entry Key Terms)} {key : Key} (h : Spent book key)
    (rest : List (Entry Key Terms)) : Spent (book ++ rest) key := by
  obtain ⟨e, hmem, hrest⟩ := h
  exact ⟨e, List.mem_append_left _ hmem, hrest⟩

/-! ### What every run keeps -/

/-- No two entries share a key, each was issued on its terms, what was used is spent, and it was
used as the terms allow. -/
structure Inv [DecidableEq Key] (allows : Terms → Use → Prop) (es : List (Event Key Terms Use))
    (book : List (Entry Key Terms)) : Prop where
  keys : (book.map Entry.key).Nodup
  issued : ∀ e ∈ book, .issued e.key e.terms ∈ es
  spent : ∀ key, es.countP (Event.uses key) ≠ 0 → Spent book key
  once : ∀ key, es.countP (Event.uses key) ≤ 1
  allowed : ∀ before after key use, es = before ++ .used key use :: after →
    ∃ terms, .issued key terms ∈ before ∧ allows terms use

namespace Inv

variable [DecidableEq Key] {allows : Terms → Use → Prop} {es : List (Event Key Terms Use)}
  {book book' : List (Entry Key Terms)}

theorem empty : Inv allows ([] : List (Event Key Terms Use)) [] where
  keys := List.nodup_nil
  issued := fun _ h => nomatch h
  spent := fun _ h => absurd rfl h
  once := fun _ => Nat.zero_le 1
  allowed := fun before _ _ _ h => by
    cases before <;> exact nomatch h

/-- An event that is no use. -/
theorem issue (h : Inv allows es book) (key : Key) (terms : Terms)
    (hkeys : (book'.map Entry.key).Nodup)
    (hbook : ∀ e ∈ book', e ∈ book ∨ e.key = key ∧ e.terms = terms)
    (hspent : ∀ key, Spent book key → Spent book' key) :
    Inv allows (es ++ [.issued key terms]) book' where
  keys := hkeys
  issued := by
    intro e he
    rcases hbook e he with he | ⟨rfl, rfl⟩
    · exact List.mem_append_left _ (h.issued e he)
    · exact List.mem_append_right _ List.mem_cons_self
  spent := by
    intro key' hne
    rw [List.countP_append, List.countP_singleton] at hne
    exact hspent key' (h.spent key' hne)
  once := by
    intro key'
    rw [List.countP_append, List.countP_singleton]
    exact h.once key'
  allowed := by
    intro before after key' use heq
    rcases List.eq_nil_or_concat after with rfl | ⟨init, last, rfl⟩
    · exact nomatch (List.append_inj_right' heq rfl)
    · rw [List.concat_eq_append, ← List.cons_append, ← List.append_assoc] at heq
      exact h.allowed before init key' use (List.append_inj_left' heq rfl)

/-- Entries are spent. -/
theorem spend (h : Inv allows es book) (hto : List.Forall₂ SpentTo book book') :
    Inv allows es book' where
  keys := by
    rw [SpentTo.keys hto]
    exact h.keys
  issued := by
    intro e' he'
    obtain ⟨e, he, heto⟩ := Store.exists_of_forall₂_right hto he'
    rw [heto.key_eq, heto.terms_eq]
    exact h.issued e he
  spent := fun key hne => (h.spent key hne).of_spentTo hto
  once := h.once
  allowed := h.allowed

/-- An entry that was not spent is used. -/
theorem use (h : Inv allows es book) {e : Entry Key Terms} (hmem : e ∈ book)
    (hlive : e.spent = false) (use : Use) (hallows : allows e.terms use)
    (hto : List.Forall₂ SpentTo book book') (hspent : Spent book' e.key) :
    Inv allows (es ++ [.used e.key use]) book' := by
  have hunused : es.countP (Event.uses e.key) = 0 := by
    by_contra hne
    obtain ⟨other, hother, hsame, hspent⟩ := h.spent e.key hne
    rw [List.inj_on_of_nodup_map h.keys hother hmem hsame, hlive] at hspent
    exact nomatch hspent
  have hafter := h.spend hto
  refine ⟨hafter.keys, fun e' he' => List.mem_append_left _ (hafter.issued e' he'),
    fun key hne => ?_, fun key => ?_, fun before after key use' heq => ?_⟩
  · by_cases hkey : e.key = key
    · exact hkey ▸ hspent
    · refine hafter.spent key ?_
      rw [List.countP_append, List.countP_singleton] at hne
      simpa [Event.uses, hkey] using hne
  · rw [List.countP_append, List.countP_singleton]
    by_cases hkey : e.key = key
    · rw [← hkey, hunused]
      split_ifs <;> omega
    · have hone := h.once key
      simpa [Event.uses, hkey] using hone
  · rcases List.eq_nil_or_concat after with rfl | ⟨init, last, rfl⟩
    · obtain ⟨rfl, hlast⟩ := List.append_inj' heq rfl
      obtain ⟨rfl, rfl⟩ := Event.used.inj (List.cons.inj hlast).1
      exact ⟨e.terms, h.issued e hmem, hallows⟩
    · rw [List.concat_eq_append, ← List.cons_append, ← List.append_assoc] at heq
      exact h.allowed before init key use' (List.append_inj_left' heq rfl)

theorem step (h : Inv allows es book) {es' : List (Event Key Terms Use)}
    (hstep : Step allows book es' book') : Inv allows (es ++ es') book' := by
  cases hstep with
  | issue key terms hnew =>
      refine h.issue key terms ?_ (fun e he => ?_) fun _ hspent => hspent.append _
      · rw [List.map_append]
        refine List.Nodup.append h.keys (List.nodup_singleton _) fun x hx hx' => ?_
        obtain ⟨e, he, rfl⟩ := List.mem_map.1 hx
        exact hnew e he (List.mem_singleton.1 hx')
      · rcases List.mem_append.1 he with he | he
        · exact Or.inl he
        · rw [List.mem_singleton.1 he]
          exact Or.inr ⟨rfl, rfl⟩
  | fail key terms => exact h.issue key terms h.keys (fun e he => Or.inl he) fun _ h => h
  | spend hto =>
      rw [List.append_nil]
      exact h.spend hto
  | use hmem hlive use hallows hto hspent => exact h.use hmem hlive use hallows hto hspent

theorem run (h : Inv allows es book) {es' : List (Event Key Terms Use)}
    (hrun : Run allows book es' book') : Inv allows (es ++ es') book' := by
  induction hrun with
  | refl => exact (List.append_nil es).symm ▸ h
  | tail _ hstep ih =>
      rw [← List.append_assoc]
      exact ih.step hstep

end Inv

/-- **A credential is used once at most.** -/
theorem Run.once [DecidableEq Key] {allows : Terms → Use → Prop} {es : List (Event Key Terms Use)}
    {book : List (Entry Key Terms)} (hrun : Run allows [] es book) (key : Key) :
    es.countP (Event.uses key) ≤ 1 :=
  (Inv.empty.run hrun).once key

/-- **A credential that is used was issued before, and its terms allow the use.** -/
theorem Run.allowed [DecidableEq Key] {allows : Terms → Use → Prop}
    {es before after : List (Event Key Terms Use)} {book : List (Entry Key Terms)}
    (hrun : Run allows [] es book) {key : Key} {use : Use}
    (heq : es = before ++ .used key use :: after) :
    ∃ terms, .issued key terms ∈ before ∧ allows terms use :=
  (Inv.empty.run hrun).allowed before after key use heq

end OneTime
end Dbal
