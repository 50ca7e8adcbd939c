/-
# Component operations

`src/entities/component/helpers.hpp` and `src/entities/component/crud/*.hpp`, with
`create` of `src/entities/page/crud/create_page.hpp` and the predicates of
`src/validation/entity/`.

The three recursions of the source, `hasDescendant`, `buildTree` and
`cascadeDeleteComponent`, have no visited set; here each takes a number that
bounds its depth and is `none` when the depth is used up.  A step that C++ leaves
undefined (counting past the largest `int`, a dangling iterator) is `none` as
well, so a result `some` is a run of the source that ends.
-/

import Dbal.Store.InMemoryStore

namespace Dbal

/-- `CreateComponentNodeInput`. -/
structure CreateComponentNodeInput where
  pageId : String
  parentId : Option String
  type : String
  childIds : String
  order : Int := 0

/-- `UpdateComponentNodeInput`. -/
structure UpdateComponentNodeInput where
  parentId : Option String := none
  type : Option String := none
  childIds : Option String := none
  order : Option Int := none

/-- `ComponentOrderUpdate`. -/
structure ComponentOrderUpdate where
  id : String
  order : Int := 0

/-- `MoveComponentInput`; an empty `newParentId` makes the component a root. -/
structure MoveComponentInput where
  id : String
  newParentId : String
  order : Int := 0

/-- `CreatePageInput`. -/
structure CreatePageInput where
  tenantId : Option String := none
  packageId : Option String := none
  path : String
  title : String
  description : Option String := none
  icon : Option String := none
  component : Option String := none
  level : Int
  requiresAuth : Bool
  requiredRole : Option String := none
  parentPath : Option String := none
  sortOrder : Int := 0
  isPublished : Bool := true
  params : Option String := none
  «meta» : Option String := none

namespace Validation

def isValidComponentType (componentType : String) : Bool :=
  componentType ≠ "" && componentType.utf8ByteSize ≤ 100

def isValidComponentOrder (value : Int) : Bool := 0 ≤ value

def isValidPath (path : String) : Bool := path ≠ "" && path.utf8ByteSize ≤ 255

end Validation

namespace InMemoryStore

/-- `store.components[id] = component`, and a write through an iterator at `id`. -/
def setComponent (store : InMemoryStore) (id : String) (component : ComponentNode) :
    InMemoryStore :=
  { store with components := store.components.insert id component }

def addComponentToPage (store : InMemoryStore) (pageId componentId : String) : InMemoryStore :=
  { store with componentsByPage := store.componentsByPage.addEntry pageId componentId }

def removeComponentFromPage (store : InMemoryStore) (pageId componentId : String) :
    InMemoryStore :=
  { store with componentsByPage := store.componentsByPage.removeEntry pageId componentId }

def addComponentToParent (store : InMemoryStore) (parentId componentId : String) :
    InMemoryStore :=
  { store with componentsByParent := store.componentsByParent.addEntry parentId componentId }

def removeComponentFromParent (store : InMemoryStore) (parentId componentId : String) :
    InMemoryStore :=
  { store with componentsByParent := store.componentsByParent.removeEntry parentId componentId }

/-- The removal from the old parent that `update`, `move` and the cascade share. -/
def leaveParent (store : InMemoryStore) (parentId : Option String) (componentId : String) :
    InMemoryStore :=
  match parentId with
  | none => store
  | some p => store.removeComponentFromParent p componentId

/-- The filing under a parent, where there is one, at the end of `create`. -/
def joinParent (store : InMemoryStore) (parentId : Option String) (componentId : String) :
    InMemoryStore :=
  match parentId with
  | none => store
  | some p => store.addComponentToParent p componentId

/-- A loop over children that stops at the first for which `f` is true. -/
def anyChild (f : String → Option Bool) : List String → Option Bool
  | [] => some false
  | c :: cs =>
      match f c with
      | none => none
      | some true => some true
      | some false => anyChild f cs

def hasDescendant (store : InMemoryStore) : Nat → String → String → Option Bool
  | 0, _, _ => none
  | n + 1, ancestorId, candidateId =>
      match store.componentsByParent[ancestorId]? with
      | none => some false
      | some children =>
          anyChild (fun childId =>
            if childId = candidateId then some true
            else store.hasDescendant n childId candidateId) children

/-- A loop over children that threads the store. -/
def forChildren (f : InMemoryStore → String → Option InMemoryStore) :
    InMemoryStore → List String → Option InMemoryStore
  | store, [] => some store
  | store, c :: cs =>
      match f store c with
      | none => none
      | some store' => forChildren f store' cs

/-- The store after the children are gone and their index entry with them. -/
def deleteChildren (f : InMemoryStore → String → Option InMemoryStore) (store : InMemoryStore)
    (componentId : String) : Option InMemoryStore :=
  match store.componentsByParent[componentId]? with
  | none => some store
  | some children =>
      (forChildren f store children).map fun s =>
        { s with componentsByParent := s.componentsByParent.erase componentId }

/-- The end of the cascade: out of the parent's entry, the page's entry and the map. -/
def eraseComponent (store : InMemoryStore) (componentId : String) (component : ComponentNode) :
    InMemoryStore :=
  let store := store.leaveParent component.parentId componentId
  let store := store.removeComponentFromPage component.pageId componentId
  { store with components := store.components.erase componentId }

def cascadeDeleteComponent : Nat → InMemoryStore → String → Option InMemoryStore
  | 0, _, _ => none
  | n + 1, store, componentId =>
      match store.components[componentId]? with
      | none => some store
      | some _ =>
          match deleteChildren (cascadeDeleteComponent n) store componentId with
          | none => none
          | some s =>
              -- the iterator found above is read again; it dangles if a child took the node along
              match s.components[componentId]? with
              | none => none
              | some component => some (s.eraseComponent componentId component)

end InMemoryStore

namespace Component

/-- The end of `create`, after its checks: a new id and the three insertions. -/
def insertNew (store : InMemoryStore) (input : CreateComponentNodeInput) :
    Option (Result ComponentNode × InMemoryStore) :=
  match increment store.componentCounter with
  | none => none
  | some counter =>
      let component : ComponentNode :=
        { id := generateId "component" counter, pageId := input.pageId,
          parentId := input.parentId, type := input.type, childIds := input.childIds,
          order := input.order }
      let store := { store with componentCounter := counter }
      let store := store.setComponent component.id component
      let store := store.addComponentToPage component.pageId component.id
      some (.ok component, store.joinParent component.parentId component.id)

/-- `component::create`. -/
def create (store : InMemoryStore) (input : CreateComponentNodeInput) :
    Option (Result ComponentNode × InMemoryStore) :=
  if input.pageId = "" then some (.error (.validationError "pageId is required"), store)
  else if !Validation.isValidComponentType input.type then
    some (.error (.validationError "type must be 1-100 characters"), store)
  else if !Validation.isValidComponentOrder input.order then
    some (.error (.validationError "order must be a non-negative integer"), store)
  else if store.pages[input.pageId]? = none then
    some (.error (.notFound ("Page not found: " ++ input.pageId)), store)
  else
    match input.parentId with
    | none => insertNew store input
    | some parentId =>
        match store.components[parentId]? with
        | none => some (.error (.notFound ("Parent component not found: " ++ parentId)), store)
        | some parent =>
            if parent.pageId ≠ input.pageId then
              some (.error (.validationError "Parent component must belong to the same page"),
                store)
            else insertNew store input

/-- The change of parent in `update` and `move`, of the component at `key` that is
filed as `id`. -/
def reparent (store : InMemoryStore) (key id : String) (component : ComponentNode)
    (newParent : String) : ComponentNode × InMemoryStore :=
  let store := store.leaveParent component.parentId id
  let component := { component with parentId := some newParent }
  let store := store.setComponent key component
  (component, store.addComponentToParent newParent id)

/-- The last check and the last write of `update`, on the component with its
other fields already set. -/
def updateParent (fuel : Nat) (store : InMemoryStore) (component : ComponentNode) (id : String) :
    Option String → Option (Result ComponentNode × InMemoryStore)
  | none => some (.ok component, store)
  | some newParent =>
      if newParent = "" then
        some (.error (.validationError "parentId cannot be empty"), store)
      else if newParent = id then
        some (.error (.validationError "Component cannot be its own parent"), store)
      else
        match store.components[newParent]? with
        | none => some (.error (.notFound ("Parent component not found: " ++ newParent)), store)
        | some parent =>
            if parent.pageId ≠ component.pageId then
              some (.error (.validationError "Parent component must belong to the same page"),
                store)
            else
              match store.hasDescendant fuel id newParent with
              | none => none
              | some true =>
                  some (.error (.validationError "Cannot move component under its descendant"),
                    store)
              | some false =>
                  let (component, store) := reparent store id id component newParent
                  some (.ok component, store)

/-- `component::update`: each field is written as soon as its own check has
passed, so a later error leaves the earlier fields changed. -/
def update (fuel : Nat) (store : InMemoryStore) (id : String) (input : UpdateComponentNodeInput) :
    Option (Result ComponentNode × InMemoryStore) :=
  if id = "" then some (.error (.validationError "Component ID cannot be empty"), store)
  else
    match store.components[id]? with
    | none => some (.error (.notFound ("Component not found: " ++ id)), store)
    | some component =>
        if input.type.any (!Validation.isValidComponentType ·) then
          some (.error (.validationError "type must be 1-100 characters"), store)
        else
          let component := { component with type := input.type.getD component.type }
          let store := store.setComponent id component
          if input.order.any (!Validation.isValidComponentOrder ·) then
            some (.error (.validationError "order must be a non-negative integer"), store)
          else
            let component := { component with
              order := input.order.getD component.order
              childIds := input.childIds.getD component.childIds }
            updateParent fuel (store.setComponent id component) component id input.parentId

/-- `component::move`. -/
def move (fuel : Nat) (store : InMemoryStore) (input : MoveComponentInput) :
    Option (Result ComponentNode × InMemoryStore) :=
  if input.id = "" then some (.error (.validationError "Component ID is required"), store)
  else if input.order < 0 then
    some (.error (.validationError "Order must be a non-negative integer"), store)
  else
    match store.components[input.id]? with
    | none => some (.error (.notFound ("Component not found: " ++ input.id)), store)
    | some component =>
        let newParent := input.newParentId
        if newParent = component.id then
          some (.error (.validationError "Component cannot be its own parent"), store)
        else if newParent = "" then
          let store := store.leaveParent component.parentId component.id
          let component := { component with parentId := none, order := input.order }
          some (.ok component, store.setComponent input.id component)
        else
          match store.components[newParent]? with
          | none => some (.error (.notFound ("Parent component not found: " ++ newParent)), store)
          | some parent =>
              if parent.pageId ≠ component.pageId then
                some (.error (.validationError "New parent must belong to the same page"), store)
              else
                match store.hasDescendant fuel component.id newParent with
                | none => none
                | some true =>
                    some (.error (.validationError "Cannot move component under its descendant"),
                      store)
                | some false =>
                    let (component, store) :=
                      reparent store input.id component.id component newParent
                    let component := { component with order := input.order }
                    some (.ok component, store.setComponent input.id component)

/-- The checking loop of `reorder`; `scope` is the parent seen first. -/
def reorderChecks (store : InMemoryStore) :
    Option (Option String) → List ComponentOrderUpdate → Result Unit
  | _, [] => .ok ()
  | scope, update :: updates =>
      if update.id = "" then .error (.validationError "Component ID is required")
      else if update.order < 0 then
        .error (.validationError "Order must be a non-negative integer")
      else
        match store.components[update.id]? with
        | none => .error (.notFound ("Component not found: " ++ update.id))
        | some component =>
            match scope with
            | none => reorderChecks store (some component.parentId) updates
            | some parent =>
                if parent ≠ component.parentId then
                  .error (.validationError "All components must share the same parent")
                else reorderChecks store scope updates

/-- The writing loop of `reorder`. -/
def reorderWrites (store : InMemoryStore) : List ComponentOrderUpdate → InMemoryStore
  | [] => store
  | update :: updates =>
      match store.components[update.id]? with
      | none => reorderWrites store updates
      | some component =>
          reorderWrites (store.setComponent update.id { component with order := update.order })
            updates

/-- `component::reorder`. -/
def reorder (store : InMemoryStore) (updates : List ComponentOrderUpdate) :
    Result Bool × InMemoryStore :=
  if updates = [] then (.ok true, store)
  else
    match reorderChecks store none updates with
    | .error e => (.error e, store)
    | .ok () => (.ok true, reorderWrites store updates)

/-- `component::remove`. -/
def remove (fuel : Nat) (store : InMemoryStore) (id : String) :
    Option (Result Bool × InMemoryStore) :=
  if id = "" then some (.error (.validationError "Component ID cannot be empty"), store)
  else if store.components[id]? = none then
    some (.error (.notFound ("Component not found: " ++ id)), store)
  else (store.cascadeDeleteComponent fuel id).map fun store => (.ok true, store)

end Component

namespace Page

/-- `page::create`, at the time `now`. -/
def create (store : InMemoryStore) (now : Int) (input : CreatePageInput) :
    Option (Result PageConfig × InMemoryStore) :=
  if !Validation.isValidPath input.path then
    some (.error (.validationError "Invalid path format"), store)
  else if input.title = "" ∨ 255 < input.title.utf8ByteSize then
    some (.error (.validationError "Title must be between 1 and 255 characters"), store)
  else if input.level < 1 ∨ 6 < input.level then
    some (.error (.validationError "Level must be between 1 and 6"), store)
  else if store.pagePaths.contains input.path then
    some (.error (.conflict ("Page with path already exists: " ++ input.path)), store)
  else
    match increment store.pageCounter with
    | none => none
    | some counter =>
        let page : PageConfig :=
          { id := generateId "page" counter, tenantId := input.tenantId,
            packageId := input.packageId, path := input.path, title := input.title,
            description := input.description, icon := input.icon, component := input.component,
            level := input.level, requiresAuth := input.requiresAuth,
            requiredRole := input.requiredRole, parentPath := input.parentPath,
            sortOrder := input.sortOrder, isPublished := input.isPublished,
            params := input.params, «meta» := input.meta, createdAt := now }
        some (.ok page, { store with
          pageCounter := counter
          pages := store.pages.insert page.id page
          pagePaths := store.pagePaths.insert page.path page.id })

end Page
end Dbal
