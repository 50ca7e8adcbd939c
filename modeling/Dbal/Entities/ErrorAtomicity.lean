/-
# Errors of the entity operations

An operation that answers with an error should leave the store as it was.  `move`, the
package update and all creations check everything before they write; the updates of
components, pages and sessions write each field as soon as its own check has passed, so
that a later check can fail with the earlier fields written.

`atomic_iff` says exactly when an operation is safe.
-/

import Dbal.Entities.EntityRuns

namespace Dbal
namespace InMemoryStore

/-- The stores have the same contents. -/
structure Same (s s' : InMemoryStore) : Prop where
  users : ∀ k : String, s.users[k]? = s'.users[k]?
  pages : ∀ k : String, s.pages[k]? = s'.pages[k]?
  workflows : ∀ k : String, s.workflows[k]? = s'.workflows[k]?
  sessions : ∀ k : String, s.sessions[k]? = s'.sessions[k]?
  packages : ∀ k : String, s.packages[k]? = s'.packages[k]?
  credentials : ∀ k : String, s.credentials[k]? = s'.credentials[k]?
  pagePaths : ∀ k : String, s.pagePaths[k]? = s'.pagePaths[k]?
  workflowNames : ∀ k : String, s.workflowNames[k]? = s'.workflowNames[k]?
  sessionTokens : ∀ k : String, s.sessionTokens[k]? = s'.sessionTokens[k]?
  packageKeys : ∀ k : String, s.packageKeys[k]? = s'.packageKeys[k]?
  userCounter : s.userCounter = s'.userCounter
  pageCounter : s.pageCounter = s'.pageCounter
  workflowCounter : s.workflowCounter = s'.workflowCounter
  sessionCounter : s.sessionCounter = s'.sessionCounter
  packageCounter : s.packageCounter = s'.packageCounter
  credentialCounter : s.credentialCounter = s'.credentialCounter
  components : ∀ k : String, s.components[k]? = s'.components[k]?
  componentsByPage : ∀ k : String, s.componentsByPage[k]? = s'.componentsByPage[k]?
  componentsByParent : ∀ k : String, s.componentsByParent[k]? = s'.componentsByParent[k]?
  componentCounter : s.componentCounter = s'.componentCounter

variable {s s' : InMemoryStore} {id : String}

theorem Same.refl (s : InMemoryStore) : Same s s := by
  constructor <;> intros <;> rfl

/-- Writing a record that is there already. -/
theorem getElem?_insert_self {ρ : Type} {m : Std.TreeMap String ρ} {k : String} {r : ρ}
    (h : m[k]? = some r) (j : String) : m[j]? = (m.insert k r)[j]? := by
  rw [getElem?_insert_eq]
  split_ifs with hj
  · rw [← hj, h]
  · rfl

end InMemoryStore

open InMemoryStore

/-- The outcome is an error if the answer is. -/
theorem error_of_map {α : Type} {r : Result α} {e : Error}
    (h : (r.map fun _ => ()) = .error e) : r = .error e := by
  rcases r with e' | a
  · exact congrArg Except.error (Except.error.inj h)
  · cases h

/-! ### The conditions -/

namespace Component

/-- The parent is one that the checks of `update` refuse. -/
def RefusesParent (s : InMemoryStore) (c : ComponentNode) (id : String) : Option String → Prop
  | none => False
  | some p => p = "" ∨ p = id ∨ s.components[p]? = none ∨
      ∃ parent, s.components[p]? = some parent ∧
        (parent.pageId ≠ c.pageId ∨ ∃ fuel, s.hasDescendant fuel id p = some true)

/-- What an update writes before a check that fails is what is stored. -/
def KeepsOnError (s : InMemoryStore) (id : String) (input : UpdateComponentNodeInput) : Prop :=
  ∀ c, s.components[id]? = some c → id ≠ "" → ¬ badType input →
    (badOrder input → setType input c = c) ∧
      (¬ badOrder input → RefusesParent s c id input.parentId → setOrder input (setType input c) = c)

end Component

namespace Page

/-- The path is one that the checks of `update` accept. -/
def AcceptsPath (s : InMemoryStore) (id : String) (path : Option String) : Prop :=
  ∀ p ∈ path, Validation.isValidPath p ∧ ¬ (s.pagePaths[p]?).any (· ≠ id)

/-- The first field that `update` writes. -/
def setPath (input : UpdatePageInput) (page : PageConfig) : PageConfig :=
  { page with path := input.path.getD page.path }

/-- What an update writes before a check that fails is what is stored. -/
def KeepsOnError (s : InMemoryStore) (id : String) (input : UpdatePageInput) : Prop :=
  ∀ page, s.pages[id]? = some page → id ≠ "" → AcceptsPath s id input.path →
    (input.title.any badTitle → setPath input page = page) ∧
      (¬ input.title.any badTitle → input.level.any badLevel →
        setTitle input (setPath input page) = page)

end Page

namespace Session

/-- The user is one that the checks of `update` accept. -/
def AcceptsUser (s : InMemoryStore) (userId : Option String) : Prop :=
  ∀ u ∈ userId, u ≠ "" ∧ s.users.contains u

/-- The token is one that the checks of `update` refuse. -/
def RefusesToken (s : InMemoryStore) (id : String) (token : Option String) : Prop :=
  ∃ t ∈ token, t = "" ∨ (s.sessionTokens[t]?).any (· ≠ id)

/-- The first field that `update` writes. -/
def setUserId (input : UpdateSessionInput) (session : Session) : Session :=
  { session with userId := input.userId.getD session.userId }

/-- What an update writes before a check that fails is what is stored. -/
def KeepsOnError (s : InMemoryStore) (id : String) (input : UpdateSessionInput) : Prop :=
  ∀ session, s.sessions[id]? = some session → id ≠ "" → AcceptsUser s input.userId →
    RefusesToken s id input.token → setUserId input session = session

end Session

namespace CrudOp

/-- If the operation answers with an error, the store is as it was. -/
def Atomic (op : CrudOp) (s : InMemoryStore) : Prop :=
  ∀ fuel e s', op.exec fuel s = some (.error e, s') → Same s s'

/-- The operation writes nothing new before a check that fails. -/
def KeepsOnError (s : InMemoryStore) : CrudOp → Prop
  | .updateComponent id input => Component.KeepsOnError s id input
  | .updatePage id input => Page.KeepsOnError s id input
  | .updateSession id input => Session.KeepsOnError s id input
  | _ => True

end CrudOp

/-! ### Components -/

namespace Component

variable {s s' : InMemoryStore} {id : String} {c c' : ComponentNode}

theorem same_setComponent (hc : s.components[id]? = some c) :
    Same s (s.setComponent id c) :=
  { Same.refl s with components := getElem?_insert_self hc }

/-- A store in which the component at `id` is the same is changed there. -/
theorem eq_of_same (hc : s.components[id]? = some c) (hc' : s'.components[id]? = some c')
    (h : Same s s') : c' = c := by
  have := h.components id
  rw [hc, hc'] at this
  exact (Option.some.inj this).symm

/-- The checks of the parent look at other components and at the page. -/
theorem refusesParent_congr (hcomponents : ∀ k ≠ id, s'.components[k]? = s.components[k]?)
    (hparents : s'.componentsByParent = s.componentsByParent) (hpage : c'.pageId = c.pageId)
    (np : Option String) : RefusesParent s' c' id np ↔ RefusesParent s c id np := by
  cases np with
  | none => exact Iff.rfl
  | some p =>
      by_cases hp : p = id
      · simp [RefusesParent, hp]
      · simp only [RefusesParent, hcomponents p hp, hasDescendant_congr hparents, hpage]

theorem updateParent_error {fuel : Nat} {np : Option String} {e : Error}
    (hrun : updateParent fuel s c id np = some (.error e, s')) :
    s' = s ∧ RefusesParent s c id np := by
  cases np with
  | none =>
      have := (Prod.mk.inj (Option.some.inj hrun)).1
      cases this
  | some p =>
      rw [updateParent] at hrun
      split_ifs at hrun with hempty hself
      · exact ⟨(Prod.mk.inj (Option.some.inj hrun)).2.symm, Or.inl hempty⟩
      · exact ⟨(Prod.mk.inj (Option.some.inj hrun)).2.symm, Or.inr (Or.inl hself)⟩
      rcases hp : s.components[p]? with _ | parent
      · simp only [hp] at hrun
        exact ⟨(Prod.mk.inj (Option.some.inj hrun)).2.symm, Or.inr (Or.inr (Or.inl hp))⟩
      simp only [hp] at hrun
      split_ifs at hrun with hpage
      · exact ⟨(Prod.mk.inj (Option.some.inj hrun)).2.symm,
          Or.inr (Or.inr (Or.inr ⟨parent, hp, Or.inl hpage⟩))⟩
      rcases hdesc : s.hasDescendant fuel id p with _ | _ | _ <;>
        simp only [hdesc, reduceCtorEq, Option.some.injEq, Prod.mk.injEq, false_and] at hrun
      exact ⟨hrun.2.symm, Or.inr (Or.inr (Or.inr ⟨parent, hp, Or.inr ⟨fuel, hdesc⟩⟩))⟩

theorem updateParent_refuses {np : Option String} (h : RefusesParent s c id np) :
    ∃ fuel e, updateParent fuel s c id np = some (.error e, s) := by
  cases np with
  | none => exact h.elim
  | some p =>
      by_cases hempty : p = ""
      · exact ⟨0, _, by rw [updateParent, if_pos hempty]⟩
      by_cases hself : p = id
      · exact ⟨0, _, by rw [updateParent, if_neg hempty, if_pos hself]⟩
      rcases h with h | h | hp | ⟨parent, hp, hparent⟩
      · exact (hempty h).elim
      · exact (hself h).elim
      · refine ⟨0, .notFound ("Parent component not found: " ++ p), ?_⟩
        simp only [updateParent, if_neg hempty, if_neg hself, hp]
      by_cases hpage : parent.pageId ≠ c.pageId
      · refine ⟨0, .validationError "Parent component must belong to the same page", ?_⟩
        simp only [updateParent, if_neg hempty, if_neg hself, hp, if_pos hpage]
      · obtain ⟨fuel, hdesc⟩ := hparent.resolve_left hpage
        refine ⟨fuel, .validationError "Cannot move component under its descendant", ?_⟩
        simp only [updateParent, if_neg hempty, if_neg hself, hp, if_neg hpage, hdesc]

/-- The fields that `update` has written when it looks at the parent. -/
def written (s : InMemoryStore) (id : String) (input : UpdateComponentNodeInput)
    (c : ComponentNode) : InMemoryStore :=
  (s.setComponent id (setType input c)).setComponent id (setOrder input (setType input c))

theorem refusesParent_written (c : ComponentNode) (input : UpdateComponentNodeInput) :
    RefusesParent (written s id input c) (setOrder input (setType input c)) id input.parentId ↔
      RefusesParent s c id input.parentId := by
  have hcomponents : ∀ k ≠ id, (written s id input c).components[k]? = s.components[k]? := by
    intro k hk
    simp [written, setComponent_components, hk]
  exact refusesParent_congr hcomponents rfl rfl _

theorem written_self (s : InMemoryStore) (id : String) (input : UpdateComponentNodeInput)
    (c : ComponentNode) :
    (written s id input c).components[id]? = some (setOrder input (setType input c)) := by
  simp [written, setComponent_components]

theorem same_written {input : UpdateComponentNodeInput} (hc : s.components[id]? = some c)
    (hkept : setOrder input (setType input c) = c) : Same s (written s id input c) := by
  have hcomponents : ∀ k : String, s.components[k]? = (written s id input c).components[k]? := by
    intro k
    by_cases hk : k = id
    · rw [hk, hc, written_self, hkept]
    · simp [written, setComponent_components, hk]
  exact { Same.refl s with components := hcomponents }

/-- The exits of `update`, the other way round: which errors there are. -/
theorem update_badOrder (hc : s.components[id]? = some c) (hid : id ≠ "")
    {input : UpdateComponentNodeInput} (htype : ¬ badType input) (horder : badOrder input) :
    ∃ e, update 0 s id input = some (.error e, s.setComponent id (setType input c)) := by
  have htype' : ¬ input.type.any (!Validation.isValidComponentType ·) = true := htype
  have horder' : input.order.any (!Validation.isValidComponentOrder ·) = true := horder
  refine ⟨.validationError "order must be a non-negative integer", ?_⟩
  simp only [update, if_neg hid, hc, if_neg htype', if_pos horder']
  rfl

theorem update_refuses (hc : s.components[id]? = some c) (hid : id ≠ "")
    {input : UpdateComponentNodeInput} (htype : ¬ badType input) (horder : ¬ badOrder input)
    (hparent : RefusesParent s c id input.parentId) :
    ∃ fuel e, update fuel s id input = some (.error e, written s id input c) := by
  have htype' : ¬ input.type.any (!Validation.isValidComponentType ·) = true := htype
  have horder' : ¬ input.order.any (!Validation.isValidComponentOrder ·) = true := horder
  obtain ⟨fuel, e, hrun⟩ := updateParent_refuses ((refusesParent_written c input).2 hparent)
  refine ⟨fuel, e, ?_⟩
  simp only [update, if_neg hid, hc, if_neg htype', if_neg horder']
  exact hrun

theorem atomic_update_iff (s : InMemoryStore) (id : String) (input : UpdateComponentNodeInput) :
    (CrudOp.updateComponent id input).Atomic s ↔ KeepsOnError s id input := by
  constructor
  · intro h c hc hid htype
    constructor
    · intro horder
      obtain ⟨e, hrun⟩ := update_badOrder hc hid htype horder
      have hsame := h 0 e _ (by rw [CrudOp.exec, hrun]; rfl)
      exact eq_of_same hc (by simp [setComponent_components]) hsame
    · intro horder hparent
      obtain ⟨fuel, e, hrun⟩ := update_refuses hc hid htype horder hparent
      have hsame := h fuel e _ (by rw [CrudOp.exec, hrun]; rfl)
      exact eq_of_same hc (written_self s id input c) hsame
  · intro h fuel e s' hrun
    obtain ⟨⟨r, s''⟩, hupdate, heq⟩ := Option.map_eq_some_iff.1 hrun
    obtain ⟨hr, rfl⟩ := Prod.mk.inj heq
    obtain rfl := error_of_map hr
    rcases update_cases hupdate with ⟨e', -, rfl⟩ | ⟨c, hc, htype, hexit⟩
    · exact .refl _
    by_cases hid : id = ""
    · rw [update, if_pos hid] at hupdate
      exact (Prod.mk.inj (Option.some.inj hupdate)).2 ▸ .refl s
    rcases hexit with ⟨horder, e', -, rfl⟩ | ⟨horder, hparent⟩
    · rw [(h c hc hid htype).1 horder]
      exact same_setComponent hc
    · obtain ⟨rfl, hrefuses⟩ := updateParent_error hparent
      have hkept := (h c hc hid htype).2 horder ((refusesParent_written c input).1 hrefuses)
      exact same_written hc hkept

end Component

/-! ### Pages -/

namespace Page

variable {s s' : InMemoryStore} {id : String} {page page' : PageConfig}

theorem eq_of_same (hp : s.pages[id]? = some page) (hp' : s'.pages[id]? = some page')
    (h : Same s s') : page' = page := by
  have := h.pages id
  rw [hp, hp'] at this
  exact (Option.some.inj this).symm

/-- Writing the page that is there, and its path. -/
theorem same_setPage (hsame : Same s s') (hp : s.pages[id]? = some page) :
    Same s (s'.setPage id page) := by
  have hpages : ∀ k : String, s.pages[k]? = (s'.setPage id page).pages[k]? := by
    intro k
    rw [InMemoryStore.setPage, ← getElem?_insert_self (hsame.pages id ▸ hp)]
    exact hsame.pages k
  exact { hsame with pages := hpages }

theorem updatePath_ok_iff {path : Option String} :
    (∃ q, updatePath s id page path = .ok q) ↔ AcceptsPath s id path := by
  cases path with
  | none => simp [updatePath, AcceptsPath]
  | some p =>
      rw [updatePath]
      constructor
      · rintro ⟨q, hq⟩ p' hp'
        obtain rfl := Option.some.inj hp'
        split_ifs at hq with hvalid htaken
        exact ⟨by simpa using hvalid, htaken⟩
      · intro h
        obtain ⟨hvalid, htaken⟩ := h p rfl
        rw [if_neg (by simp [hvalid]), if_neg htaken]
        exact ⟨_, rfl⟩

/-- What is in the store when the title is checked. -/
theorem updatePath_written {input : UpdatePageInput} (htable : s.PageTable)
    (hp : s.pages[id]? = some page)
    (hok : updatePath s id page input.path = .ok (page', s')) :
    page' = setPath input page ∧ s'.pages[id]? = some page' ∧
      (setPath input page = page → Same s s') := by
  have hstored := (htable.updatePath hp hok).2
  rcases hpath : input.path with _ | p
  · rw [hpath] at hok
    obtain ⟨rfl, rfl⟩ := Prod.mk.inj (Except.ok.inj hok)
    exact ⟨by simp [setPath, hpath], hstored, fun _ => .refl s⟩
  · rw [hpath, updatePath] at hok
    split_ifs at hok
    obtain ⟨rfl, rfl⟩ := Prod.mk.inj (Except.ok.inj hok)
    refine ⟨by simp [setPath, hpath], hstored, fun hkept => ?_⟩
    have hsame : p = page.path := by simpa [setPath, hpath] using congrArg PageConfig.path hkept
    subst hsame
    refine same_setPage ?_ hp
    -- the old path is erased and filed again
    have hpaths : ∀ k : String,
        s.pagePaths[k]? = ((s.pagePaths.erase page.path).insert page.path id)[k]? := by
      intro k
      rw [getElem?_insert_eq, getElem?_erase_eq]
      split_ifs with hk
      · rw [← hk]
        exact htable.indexed.of_record hp
      · rfl
    exact { Same.refl s with pagePaths := hpaths }

theorem atomic_update_iff (htable : s.PageTable) (id : String) (input : UpdatePageInput) :
    (CrudOp.updatePage id input).Atomic s ↔ KeepsOnError s id input := by
  constructor
  · intro h page hp hid haccepts
    obtain ⟨⟨page', s'⟩, hpath⟩ := updatePath_ok_iff.2 haccepts
    obtain ⟨rfl, hstored, -⟩ := updatePath_written htable hp hpath
    constructor
    · intro htitle
      have hrun : update s id input =
          (.error (.validationError "Title must be between 1 and 255 characters"), s') := by
        simp only [update, if_neg hid, hp, hpath, if_pos htitle]
      have hsame := h 0 _ s' (by rw [CrudOp.exec, hrun]; rfl)
      exact eq_of_same hp hstored hsame
    · intro htitle hlevel
      have hrun : update s id input = (.error (.validationError "Level must be between 1 and 6"),
          s'.setPage id (setTitle input (setPath input page))) := by
        simp only [update, if_neg hid, hp, hpath, if_neg htitle, if_pos hlevel]
      have hsame := h 0 _ _ (by rw [CrudOp.exec, hrun]; rfl)
      exact eq_of_same hp (setPage_self _ _ _) hsame
  · intro h fuel e s' hrun
    obtain ⟨hr, rfl⟩ := Prod.mk.inj (Option.some.inj hrun)
    have hr := error_of_map hr
    rcases update_cases s id input with ⟨e', hupdate, -⟩ | ⟨page, hp, hexit⟩
    · rw [hupdate]
      exact .refl s
    rcases hexit with ⟨e', -, hupdate⟩ | ⟨page', s₁, hpath, hexit⟩
    · rw [hupdate]
      exact .refl s
    by_cases hid : id = ""
    · rw [update, if_pos hid]
      exact .refl s
    obtain ⟨rfl, -, hkeeps⟩ := updatePath_written htable hp hpath
    obtain ⟨hkept, hkept'⟩ := h page hp hid (updatePath_ok_iff.1 ⟨_, hpath⟩)
    rcases hexit with ⟨htitle, e', hupdate⟩ | ⟨htitle, hlevel, e', hupdate⟩ | ⟨-, -, hupdate⟩
    · rw [hupdate]
      exact hkeeps (hkept htitle)
    · have htitlePath := hkept' htitle hlevel
      have hpathKept : setPath input page = page := by
        have hsame : input.path.getD page.path = page.path := congrArg PageConfig.path htitlePath
        rw [setPath, hsame]
      rw [hupdate, htitlePath]
      exact same_setPage (hkeeps hpathKept) hp
    · rw [hupdate] at hr
      cases hr

end Page

/-! ### Sessions -/

namespace Session

variable {s s' : InMemoryStore} {id : String} {session session' : Session}

theorem same_setSession (hsession : s.sessions[id]? = some session) :
    Same s (s.setSession id session) :=
  { Same.refl s with sessions := getElem?_insert_self hsession }

theorem eq_of_same (hs : s.sessions[id]? = some session) (hs' : s'.sessions[id]? = some session')
    (h : Same s s') : session' = session := by
  have := h.sessions id
  rw [hs, hs'] at this
  exact (Option.some.inj this).symm

theorem updateUserId_ok_iff {userId : Option String} :
    (∃ q, updateUserId s id session userId = .ok q) ↔ AcceptsUser s userId := by
  cases userId with
  | none => simp [updateUserId, AcceptsUser]
  | some u =>
      rw [updateUserId]
      constructor
      · rintro ⟨q, hq⟩ u' hu'
        obtain rfl := Option.some.inj hu'
        split_ifs at hq with hempty hfound
        exact ⟨hempty, by simpa using hfound⟩
      · intro h
        obtain ⟨hempty, hfound⟩ := h u rfl
        rw [if_neg hempty, if_neg (by simp [hfound])]
        exact ⟨_, rfl⟩

theorem updateToken_error_iff {token : Option String} :
    (∃ e, updateToken s id session token = .error e) ↔ RefusesToken s id token := by
  cases token with
  | none => simp [updateToken, RefusesToken]
  | some t =>
      rw [updateToken]
      constructor
      · rintro ⟨e, he⟩
        split_ifs at he with hempty htaken
        · exact ⟨t, rfl, Or.inl hempty⟩
        · exact ⟨t, rfl, Or.inr htaken⟩
      · rintro ⟨t', ht', h⟩
        obtain rfl := Option.some.inj ht'
        by_cases hempty : t = ""
        · rw [if_pos hempty]
          exact ⟨_, rfl⟩
        · rw [if_neg hempty, if_pos (h.resolve_left hempty)]
          exact ⟨_, rfl⟩

/-- What is in the store when the token is checked. -/
theorem updateUserId_written {input : UpdateSessionInput} (hs : s.sessions[id]? = some session)
    (hok : updateUserId s id session input.userId = .ok (session', s')) :
    session' = setUserId input session ∧ s'.sessions[id]? = some session' ∧
      s'.sessionTokens = s.sessionTokens ∧ (setUserId input session = session → Same s s') := by
  rcases huser : input.userId with _ | u
  · rw [huser] at hok
    obtain ⟨rfl, rfl⟩ := Prod.mk.inj (Except.ok.inj hok)
    exact ⟨by simp [setUserId, huser], hs, rfl, fun _ => .refl s⟩
  · rw [huser, updateUserId] at hok
    split_ifs at hok
    obtain ⟨rfl, rfl⟩ := Prod.mk.inj (Except.ok.inj hok)
    refine ⟨by simp [setUserId, huser], setSession_self _ _ _, rfl, fun hkept => ?_⟩
    have hsame : u = session.userId := by simpa [setUserId, huser] using congrArg userId hkept
    subst hsame
    exact same_setSession hs

theorem atomic_update_iff (s : InMemoryStore) (id : String) (input : UpdateSessionInput) :
    (CrudOp.updateSession id input).Atomic s ↔ KeepsOnError s id input := by
  constructor
  · intro h session hs hid haccepts hrefuses
    obtain ⟨⟨session', s'⟩, huser⟩ := updateUserId_ok_iff.2 haccepts
    obtain ⟨rfl, hstored, htokens, -⟩ := updateUserId_written hs huser
    have hrefuses' : RefusesToken s' id input.token := by
      unfold RefusesToken
      rw [htokens]
      exact hrefuses
    obtain ⟨e, htoken⟩ : ∃ e, updateToken s' id (setUserId input session) input.token = .error e :=
      updateToken_error_iff.2 hrefuses'
    have hrun : update s id input = (.error e, s') := by
      simp only [update, if_neg hid, hs, huser, htoken]
    have hsame := h 0 e s' (by rw [CrudOp.exec, hrun]; rfl)
    exact eq_of_same hs hstored hsame
  · intro h fuel e s' hrun
    obtain ⟨hr, rfl⟩ := Prod.mk.inj (Option.some.inj hrun)
    have hr := error_of_map hr
    rcases update_cases s id input with ⟨e', hupdate, -⟩ | ⟨session, hs, hexit⟩
    · rw [hupdate]
      exact .refl s
    rcases hexit with ⟨e', -, hupdate⟩ | ⟨session', s₁, huser, hexit⟩
    · rw [hupdate]
      exact .refl s
    by_cases hid : id = ""
    · rw [update, if_pos hid]
      exact .refl s
    obtain ⟨rfl, -, htokens, hkeeps⟩ := updateUserId_written hs huser
    rcases hexit with ⟨e', htoken, hupdate⟩ | ⟨session'', s₂, -, hupdate⟩
    · have hrefuses : RefusesToken s id input.token := by
        have := updateToken_error_iff.1 ⟨e', htoken⟩
        unfold RefusesToken at this
        rwa [htokens] at this
      rw [hupdate]
      exact hkeeps (h session hs hid (updateUserId_ok_iff.1 ⟨_, huser⟩) hrefuses)
    · rw [hupdate] at hr
      cases hr

end Session

/-! ### The other operations -/

namespace CrudOp

variable {s : InMemoryStore}

/-- An operation whose errors all come before its first write. -/
theorem atomic_of_exits {op : CrudOp}
    (h : ∀ fuel e s', op.exec fuel s = some (.error e, s') → s' = s) : op.Atomic s := by
  intro fuel e s' hrun
  rw [h fuel e s' hrun]
  exact .refl s

theorem atomic_createComponent (input : CreateComponentNodeInput) :
    (CrudOp.createComponent input).Atomic s := by
  refine atomic_of_exits fun fuel e s' hrun => ?_
  obtain ⟨⟨r, s''⟩, hcreate, heq⟩ := Option.map_eq_some_iff.1 hrun
  obtain ⟨hr, rfl⟩ := Prod.mk.inj heq
  obtain rfl := error_of_map hr
  rcases create_cases hcreate with hs | ⟨hnew, -⟩
  · exact hs
  · unfold Component.insertNew increment at hnew
    split_ifs at hnew
    have := (Prod.mk.inj (Option.some.inj hnew)).1
    cases this

theorem atomic_moveComponent (input : MoveComponentInput) : (CrudOp.moveComponent input).Atomic s := by
  refine atomic_of_exits fun fuel e s' hrun => ?_
  obtain ⟨⟨r, s''⟩, hmove, heq⟩ := Option.map_eq_some_iff.1 hrun
  obtain ⟨hr, rfl⟩ := Prod.mk.inj heq
  obtain rfl := error_of_map hr
  rcases Component.move_cases hmove with ⟨e', -, hs⟩ | ⟨c, -, hok, -⟩ | ⟨c, p, -, hok, -⟩
  · exact hs
  · cases hok
  · cases hok

theorem atomic_removeComponent (id : String) : (CrudOp.removeComponent id).Atomic s := by
  refine atomic_of_exits fun fuel e s' hrun => ?_
  obtain ⟨⟨r, s''⟩, hremove, heq⟩ := Option.map_eq_some_iff.1 hrun
  obtain ⟨hr, rfl⟩ := Prod.mk.inj heq
  obtain rfl := error_of_map hr
  unfold Component.remove at hremove
  split_ifs at hremove
  iterate 2 exact (Prod.mk.inj (Option.some.inj hremove)).2.symm
  obtain ⟨s₁, -, heq⟩ := Option.map_eq_some_iff.1 hremove
  cases (Prod.mk.inj heq).1

theorem atomic_createPage (now : Int) (input : CreatePageInput) :
    (CrudOp.createPage now input).Atomic s := by
  refine atomic_of_exits fun fuel e s' hrun => ?_
  obtain ⟨⟨r, s''⟩, hcreate, heq⟩ := Option.map_eq_some_iff.1 hrun
  obtain ⟨hr, rfl⟩ := Prod.mk.inj heq
  obtain rfl := error_of_map hr
  unfold Page.create increment at hcreate
  split_ifs at hcreate
  iterate 4 exact (Prod.mk.inj (Option.some.inj hcreate)).2.symm
  cases (Prod.mk.inj (Option.some.inj hcreate)).1

theorem atomic_removePage (id : String) : (CrudOp.removePage id).Atomic s := by
  refine atomic_of_exits fun fuel e s' hrun => ?_
  obtain ⟨hr, rfl⟩ := Prod.mk.inj (Option.some.inj hrun)
  have hr := error_of_map hr
  unfold Page.remove at hr ⊢
  by_cases hid : id = ""
  · rw [if_pos hid]
  rw [if_neg hid] at hr ⊢
  rcases hp : s.pages[id]? with _ | page
  · rfl
  · simp [hp] at hr

theorem atomic_createSession (now : Int) (input : CreateSessionInput) :
    (CrudOp.createSession now input).Atomic s := by
  refine atomic_of_exits fun fuel e s' hrun => ?_
  obtain ⟨⟨r, s''⟩, hcreate, heq⟩ := Option.map_eq_some_iff.1 hrun
  obtain ⟨hr, rfl⟩ := Prod.mk.inj heq
  obtain rfl := error_of_map hr
  unfold Session.create increment at hcreate
  split_ifs at hcreate
  iterate 4 exact (Prod.mk.inj (Option.some.inj hcreate)).2.symm
  cases (Prod.mk.inj (Option.some.inj hcreate)).1

theorem atomic_removeSession (id : String) : (CrudOp.removeSession id).Atomic s := by
  refine atomic_of_exits fun fuel e s' hrun => ?_
  obtain ⟨hr, rfl⟩ := Prod.mk.inj (Option.some.inj hrun)
  have hr := error_of_map hr
  unfold Session.remove at hr ⊢
  by_cases hid : id = ""
  · rw [if_pos hid]
  rw [if_neg hid] at hr ⊢
  rcases hp : s.sessions[id]? with _ | session
  · rfl
  · simp [hp] at hr

/-- **When an error leaves the store as it was.**  In a reachable store an operation that
fails changes nothing exactly if what it writes before the check that fails is stored
already.  Only the updates write before a check. -/
theorem atomic_iff (h : EntityOp.Reachable s) (op : CrudOp) : op.Atomic s ↔ op.KeepsOnError s := by
  cases op with
  | updateComponent id input => exact Component.atomic_update_iff s id input
  | updatePage id input => exact Page.atomic_update_iff (Tables.of_reachable h).pages id input
  | updateSession id input => exact Session.atomic_update_iff s id input
  | createComponent input => exact iff_of_true (atomic_createComponent input) trivial
  | moveComponent input => exact iff_of_true (atomic_moveComponent input) trivial
  | removeComponent id => exact iff_of_true (atomic_removeComponent id) trivial
  | createPage now input => exact iff_of_true (atomic_createPage now input) trivial
  | removePage id => exact iff_of_true (atomic_removePage id) trivial
  | createSession now input => exact iff_of_true (atomic_createSession now input) trivial
  | removeSession id => exact iff_of_true (atomic_removeSession id) trivial

/-- The page that a first creation stores. -/
def homePage : PageConfig where
  id := generateId "page" 1
  tenantId := none
  packageId := none
  path := "/home"
  title := "Home"
  description := none
  icon := none
  component := none
  level := 1
  requiresAuth := false
  requiredRole := none
  parentPath := none
  sortOrder := 0
  isPublished := true
  params := none
  «meta» := none
  createdAt := 0

/-- The store after a first creation. -/
def homeStore : InMemoryStore where
  pageCounter := 1
  pages := (∅ : Std.TreeMap String PageConfig).insert homePage.id homePage
  pagePaths := (∅ : Std.TreeMap String String).insert homePage.path homePage.id

theorem reachable_homeStore : EntityOp.Reachable homeStore :=
  @EntityOp.Reachable.step _ _ 0 (.crud (.createPage 0
    { path := "/home", title := "Home", level := 1, requiresAuth := false })) (.ok ()) (.start ∅) rfl

theorem homeStore_pages : homeStore.pages[homePage.id]? = some homePage := by
  simp [homeStore]

/-- An update that has nothing to write before the title is refused. -/
theorem atomic_iff_title_only :
    (CrudOp.updatePage homePage.id { title := some "" }).Atomic homeStore := by
  refine (atomic_iff reachable_homeStore _).2 fun page hpage _ _ => ?_
  obtain rfl := Option.some.inj (homeStore_pages.symm.trans hpage)
  exact ⟨fun _ => rfl, fun htitle => (htitle (by decide)).elim⟩

/-- **An update that is refused for its title has moved the page.** -/
theorem refused_update_moves_page :
    EntityOp.Reachable homeStore ∧
      ¬ (CrudOp.updatePage homePage.id { path := some "/moved", title := some "" }).Atomic
        homeStore := by
  refine ⟨reachable_homeStore, fun h => ?_⟩
  have hsame := h 0 _ _ rfl
  have hmoved := Page.eq_of_same homeStore_pages (InMemoryStore.setPage_self _ _ _) hsame
  exact absurd (congrArg PageConfig.path hmoved) (by decide)

end CrudOp
end Dbal
