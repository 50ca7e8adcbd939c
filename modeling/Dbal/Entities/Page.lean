/-
# Page operations

`update` and `remove` of `src/entities/page/crud/`, beside `create` in
`Dbal.Entities.Component`, and what the three do to the pages and their paths.
-/

import Dbal.Entities.Component
import Dbal.Store.Table

namespace Dbal

/-- `UpdatePageInput`. -/
structure UpdatePageInput where
  tenantId : Option String := none
  packageId : Option String := none
  path : Option String := none
  title : Option String := none
  description : Option String := none
  icon : Option String := none
  component : Option String := none
  level : Option Int := none
  requiresAuth : Option Bool := none
  requiredRole : Option String := none
  parentPath : Option String := none
  sortOrder : Option Int := none
  isPublished : Option Bool := none
  params : Option String := none
  «meta» : Option String := none

namespace InMemoryStore

/-- A write through the reference to the page at `id`. -/
def setPage (store : InMemoryStore) (id : String) (page : PageConfig) : InMemoryStore :=
  { store with pages := store.pages.insert id page }

/-- The two stores differ in their pages only, in their paths and in their counter. -/
def OnlyPages (s s' : InMemoryStore) : Prop :=
  s' = { s with pages := s'.pages, pagePaths := s'.pagePaths, pageCounter := s'.pageCounter }

/-- The pages, their paths and their ids. -/
def PageTable (store : InMemoryStore) : Prop :=
  Table "page" store.pageCounter store.pagePaths store.pages PageConfig.path

end InMemoryStore

namespace Page

/-- The path, the first field that `update` writes. -/
def updatePath (store : InMemoryStore) (id : String) (page : PageConfig) :
    Option String → Result (PageConfig × InMemoryStore)
  | none => .ok (page, store)
  | some path =>
      if !Validation.isValidPath path then .error (.validationError "Invalid path format")
      else if (store.pagePaths[path]?).any (· ≠ id) then
        .error (.conflict ("Path already exists: " ++ path))
      else
        let store := { store with pagePaths := (store.pagePaths.erase page.path).insert path id }
        .ok ({ page with path }, store.setPage id { page with path })

/-- The fields between the check of the title and that of the level. -/
def setTitle (input : UpdatePageInput) (page : PageConfig) : PageConfig :=
  { page with
    title := input.title.getD page.title
    description := input.description.or page.description
    icon := input.icon.or page.icon
    component := input.component.or page.component }

/-- The fields after the check of the level. -/
def setLevel (input : UpdatePageInput) (page : PageConfig) : PageConfig :=
  { page with
    level := input.level.getD page.level
    requiresAuth := input.requiresAuth.getD page.requiresAuth
    requiredRole := input.requiredRole.or page.requiredRole
    parentPath := input.parentPath.or page.parentPath
    sortOrder := input.sortOrder.getD page.sortOrder
    isPublished := input.isPublished.getD page.isPublished
    params := input.params.or page.params
    «meta» := input.meta.or page.meta
    packageId := input.packageId.or page.packageId
    tenantId := input.tenantId.or page.tenantId }

/-- A title that the checks refuse. -/
def badTitle (title : String) : Bool := title = "" || 255 < title.utf8ByteSize

/-- A level that the checks refuse. -/
def badLevel (level : Int) : Bool := level < 1 || 6 < level

/-- `page::update`: each field is written as soon as its own check has passed. -/
def update (store : InMemoryStore) (id : String) (input : UpdatePageInput) :
    Result PageConfig × InMemoryStore :=
  if id = "" then (.error (.validationError "Page ID cannot be empty"), store)
  else
    match store.pages[id]? with
    | none => (.error (.notFound ("Page not found: " ++ id)), store)
    | some page =>
        match updatePath store id page input.path with
        | .error e => (.error e, store)
        | .ok (page, store) =>
            if input.title.any badTitle then
              (.error (.validationError "Title must be between 1 and 255 characters"), store)
            else
              let page := setTitle input page
              let store := store.setPage id page
              if input.level.any badLevel then
                (.error (.validationError "Level must be between 1 and 6"), store)
              else (.ok (setLevel input page), store.setPage id (setLevel input page))

/-- `page::remove`. -/
def remove (store : InMemoryStore) (id : String) : Result Bool × InMemoryStore :=
  if id = "" then (.error (.validationError "Page ID cannot be empty"), store)
  else
    match store.pages[id]? with
    | none => (.error (.notFound ("Page not found: " ++ id)), store)
    | some page =>
        (.ok true, { store with
          pagePaths := store.pagePaths.erase page.path
          pages := store.pages.erase id })

/-- **The exits of `update`.**  Two of the errors come after a write. -/
theorem update_cases (s : InMemoryStore) (id : String) (input : UpdatePageInput) :
    (∃ e, update s id input = (.error e, s) ∧ (id = "" ∨ s.pages[id]? = none)) ∨
    ∃ page, s.pages[id]? = some page ∧
      ((∃ e, updatePath s id page input.path = .error e ∧ update s id input = (.error e, s)) ∨
        ∃ page' s', updatePath s id page input.path = .ok (page', s') ∧
          ((input.title.any badTitle ∧ ∃ e, update s id input = (.error e, s')) ∨
            (¬ input.title.any badTitle ∧ input.level.any badLevel ∧
              ∃ e, update s id input = (.error e, s'.setPage id (setTitle input page'))) ∨
            (¬ input.title.any badTitle ∧ ¬ input.level.any badLevel ∧
              update s id input = (.ok (setLevel input (setTitle input page')),
                (s'.setPage id (setTitle input page')).setPage id
                  (setLevel input (setTitle input page')))))) := by
  by_cases hid : id = ""
  · exact Or.inl ⟨_, by rw [update, if_pos hid], Or.inl hid⟩
  rcases hpage : s.pages[id]? with _ | page
  · refine Or.inl ⟨.notFound ("Page not found: " ++ id), ?_, Or.inr rfl⟩
    simp only [update, if_neg hid, hpage]
  refine Or.inr ⟨page, rfl, ?_⟩
  rcases hpath : updatePath s id page input.path with e | ⟨page', s'⟩
  · exact Or.inl ⟨e, rfl, by simp only [update, if_neg hid, hpage, hpath]⟩
  refine Or.inr ⟨page', s', rfl, ?_⟩
  by_cases htitle : input.title.any badTitle
  · refine Or.inl ⟨htitle, .validationError "Title must be between 1 and 255 characters", ?_⟩
    simp only [update, if_neg hid, hpage, hpath, if_pos htitle]
  by_cases hlevel : input.level.any badLevel
  · refine Or.inr (Or.inl ⟨htitle, hlevel, .validationError "Level must be between 1 and 6", ?_⟩)
    simp only [update, if_neg hid, hpage, hpath, if_neg htitle, if_pos hlevel]
  · refine Or.inr (Or.inr ⟨htitle, hlevel, ?_⟩)
    simp only [update, if_neg hid, hpage, hpath, if_neg htitle, if_neg hlevel]

end Page

/-! ### The paths -/

namespace InMemoryStore

variable {s s' : InMemoryStore} {id : String}

theorem setPage_self (s : InMemoryStore) (id : String) (page : PageConfig) :
    (s.setPage id page).pages[id]? = some page := by
  simp [setPage]

/-- Writing to a page, but not to its path. -/
theorem PageTable.setPage (h : s.PageTable) {page p : PageConfig} (hpage : s.pages[id]? = some page)
    (hpath : p.path = page.path) : (s.setPage id p).PageTable :=
  Table.setFields h hpage hpath

/-- What `updatePath` leaves: the page with its new path, in the store and in its index. -/
theorem PageTable.updatePath (h : s.PageTable) {page page' : PageConfig} {path : Option String}
    (hpage : s.pages[id]? = some page) (hok : Page.updatePath s id page path = .ok (page', s')) :
    s'.PageTable ∧ s'.pages[id]? = some page' := by
  cases path with
  | none =>
      obtain ⟨rfl, rfl⟩ := Prod.mk.inj (Except.ok.inj hok)
      exact ⟨h, hpage⟩
  | some path =>
      rw [Page.updatePath] at hok
      split_ifs at hok with hvalid htaken
      obtain ⟨rfl, rfl⟩ := Prod.mk.inj (Except.ok.inj hok)
      refine ⟨?_, setPage_self _ _ _⟩
      exact Table.rename (t := { page with path := path }) h hpage htaken

theorem PageTable.update (h : s.PageTable) (id : String) (input : UpdatePageInput) :
    (Page.update s id input).2.PageTable := by
  rcases Page.update_cases s id input with ⟨e, hrun, -⟩ | ⟨page, hpage, hrun⟩
  · rw [hrun]
    exact h
  · rcases hrun with ⟨e, -, hrun⟩ | ⟨page', s', hpath, hrun⟩
    · rw [hrun]
      exact h
    · obtain ⟨htable, hpage'⟩ := h.updatePath hpage hpath
      have htitle := htable.setPage (p := Page.setTitle input page') hpage' rfl
      have hlevel := htitle.setPage (p := Page.setLevel input (Page.setTitle input page'))
        (setPage_self _ _ _) rfl
      rcases hrun with ⟨-, e, hrun⟩ | ⟨-, -, e, hrun⟩ | ⟨-, -, hrun⟩ <;> rw [hrun]
      · exact htable
      · exact htitle
      · exact hlevel

theorem PageTable.remove (h : s.PageTable) (id : String) : (Page.remove s id).2.PageTable := by
  unfold Page.remove
  split_ifs
  · exact h
  · rcases hpage : s.pages[id]? with _ | page
    · exact h
    · exact Table.erase h hpage

theorem PageTable.create (h : s.PageTable) {now : Int} {input : CreatePageInput}
    {r : Result PageConfig} (hrun : Page.create s now input = some (r, s')) : s'.PageTable := by
  unfold Page.create at hrun
  split_ifs at hrun with hpath htitle hlevel htaken
  · exact (Prod.mk.inj (Option.some.inj hrun)).2 ▸ h
  · exact (Prod.mk.inj (Option.some.inj hrun)).2 ▸ h
  · exact (Prod.mk.inj (Option.some.inj hrun)).2 ▸ h
  · exact (Prod.mk.inj (Option.some.inj hrun)).2 ▸ h
  · unfold increment at hrun
    split_ifs at hrun with hcounter
    obtain ⟨-, rfl⟩ := Prod.mk.inj (Option.some.inj hrun)
    exact Table.insert h (by simpa using htaken)

/-! ### The rest of the store -/

theorem OnlyPages.refl (s : InMemoryStore) : OnlyPages s s := rfl

theorem OnlyPages.setPage (h : OnlyPages s s') (id : String) (page : PageConfig) :
    OnlyPages s (s'.setPage id page) := by
  unfold OnlyPages InMemoryStore.setPage
  rw [h]

end InMemoryStore

namespace Page

open InMemoryStore

variable {s s' : InMemoryStore}

theorem updatePath_only {id : String} {page page' : PageConfig} {path : Option String}
    (hok : updatePath s id page path = .ok (page', s')) : OnlyPages s s' := by
  cases path with
  | none =>
      obtain ⟨-, rfl⟩ := Prod.mk.inj (Except.ok.inj hok)
      rfl
  | some path =>
      rw [updatePath] at hok
      split_ifs at hok
      obtain ⟨-, rfl⟩ := Prod.mk.inj (Except.ok.inj hok)
      rfl

theorem update_only (s : InMemoryStore) (id : String) (input : UpdatePageInput) :
    OnlyPages s (update s id input).2 := by
  rcases update_cases s id input with ⟨e, hrun, -⟩ | ⟨page, hpage, hrun⟩
  · rw [hrun]
    exact .refl s
  · rcases hrun with ⟨e, -, hrun⟩ | ⟨page', s', hpath, hrun⟩
    · rw [hrun]
      exact .refl s
    · have honly := updatePath_only hpath
      rcases hrun with ⟨-, e, hrun⟩ | ⟨-, -, e, hrun⟩ | ⟨-, -, hrun⟩ <;> rw [hrun]
      · exact honly
      · exact honly.setPage _ _
      · exact (honly.setPage _ _).setPage _ _

theorem remove_only (s : InMemoryStore) (id : String) : OnlyPages s (remove s id).2 := by
  unfold remove
  split_ifs
  · rfl
  · rcases s.pages[id]? with _ | page <;> rfl

theorem create_only {now : Int} {input : CreatePageInput} {r : Result PageConfig}
    (hrun : create s now input = some (r, s')) : OnlyPages s s' := by
  unfold create at hrun
  split_ifs at hrun
  iterate 4
    obtain ⟨-, rfl⟩ := Prod.mk.inj (Option.some.inj hrun)
    rfl
  unfold increment at hrun
  split_ifs at hrun
  obtain ⟨-, rfl⟩ := Prod.mk.inj (Option.some.inj hrun)
  rfl

end Page
end Dbal
