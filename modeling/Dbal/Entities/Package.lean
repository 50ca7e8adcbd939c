/-
# Package operations

`src/entities/package/crud/` and `src/entities/package/batch/batch_packages.hpp`: the
operations that write, and what they do to the packages and their keys.

A package has no generated id: it is stored under its `packageId`, which is also its
key.  `batchCreate` takes back what it has created when one of the items fails;
`batchUpdate` and `batchDelete` stop there and leave what they have done.
-/

import Dbal.Store.InMemoryStore
import Dbal.Store.UniqueIndex

namespace Dbal

/-- `CreatePackageInput`. -/
structure CreatePackageInput where
  packageId : String
  tenantId : Option String := none
  installedAt : Option Int := none
  version : String
  enabled : Bool

/-- `UpdatePackageInput`. -/
structure UpdatePackageInput where
  tenantId : Option String := none
  installedAt : Option Int := none
  version : Option String := none
  enabled : Option Bool := none

/-- `UpdatePackageBatchItem`. -/
structure UpdatePackageBatchItem where
  id : String
  data : UpdatePackageInput

namespace Validation

def isValidPackageId (packageId : String) : Bool := packageId ≠ "" && packageId.utf8ByteSize ≤ 255

/-- `0|[1-9]\d*` -/
def isVersionNumber (digits : List Char) : Bool :=
  digits = ['0'] || digits.all Char.isDigit && digits.head?.any (· ≠ '0')

/-- Three numbers without leading zeros, with dots between them. -/
def isValidSemver (version : String) : Bool :=
  match version.toList.splitOn '.' with
  | [major, minor, patch] => isVersionNumber major && isVersionNumber minor && isVersionNumber patch
  | _ => false

def packageKey (packageId : String) : String := packageId

end Validation

namespace InMemoryStore

/-- The removal of a package and its key. -/
def erasePackage (store : InMemoryStore) (id : String) (package : InstalledPackage) :
    InMemoryStore :=
  { store with
    packageKeys := store.packageKeys.erase (Validation.packageKey package.packageId)
    packages := store.packages.erase id }

/-- The packages and their keys; each package is stored under its own id. -/
structure PackageTable (store : InMemoryStore) : Prop where
  indexed : Indexes store.packageKeys store.packages fun p : InstalledPackage =>
    Validation.packageKey p.packageId
  own : ∀ id (p : InstalledPackage), store.packages[id]? = some p → p.packageId = id

/-- The two stores differ in their packages only and in their keys. -/
def OnlyPackages (s s' : InMemoryStore) : Prop :=
  s' = { s with packages := s'.packages, packageKeys := s'.packageKeys }

end InMemoryStore

namespace Package

/-- The record that `create` stores. -/
def newPackage (now : Int) (input : CreatePackageInput) : InstalledPackage where
  packageId := input.packageId
  tenantId := input.tenantId
  installedAt := input.installedAt.getD now
  version := input.version
  enabled := input.enabled

/-- `package::create`, at the time `now`. -/
def create (store : InMemoryStore) (now : Int) (input : CreatePackageInput) :
    Result InstalledPackage × InMemoryStore :=
  if !Validation.isValidPackageId input.packageId then
    (.error (.validationError "Package ID must be 1-255 characters"), store)
  else if !Validation.isValidSemver input.version then
    (.error (.validationError "Version must be valid semver"), store)
  else
    let key := Validation.packageKey input.packageId
    if store.packageKeys.contains key then
      (.error (.conflict ("Package ID already exists: " ++ key)), store)
    else
      let pkg := newPackage now input
      (.ok pkg, { store with
        packages := store.packages.insert pkg.packageId pkg
        packageKeys := store.packageKeys.insert key pkg.packageId })

/-- The fields that `update` writes. -/
def setFields (input : UpdatePackageInput) (package : InstalledPackage) : InstalledPackage :=
  { package with
    version := input.version.getD package.version
    tenantId := input.tenantId.or package.tenantId
    installedAt := input.installedAt.getD package.installedAt
    enabled := input.enabled.getD package.enabled }

/-- `package::update`: nothing is written before the one check, which an old version can fail
as well. -/
def update (store : InMemoryStore) (id : String) (input : UpdatePackageInput) :
    Result InstalledPackage × InMemoryStore :=
  if id = "" then (.error (.validationError "Package ID cannot be empty"), store)
  else
    match store.packages[id]? with
    | none => (.error (.notFound ("Package not found: " ++ id)), store)
    | some package =>
        if !Validation.isValidSemver (input.version.getD package.version) then
          (.error (.validationError "Version must be valid semver"), store)
        else
          let package := setFields input package
          (.ok package, { store with packages := store.packages.insert id package })

/-- `package::remove`. -/
def remove (store : InMemoryStore) (id : String) : Result Bool × InMemoryStore :=
  if id = "" then (.error (.validationError "Package ID cannot be empty"), store)
  else
    match store.packages[id]? with
    | none => (.error (.notFound ("Package not found: " ++ id)), store)
    | some package => (.ok true, store.erasePackage id package)

/-- The loop in which `batchCreate` takes back what it has created. -/
def rollback (store : InMemoryStore) : List String → InMemoryStore
  | [] => store
  | id :: ids =>
      match store.packages[id]? with
      | none => rollback store ids
      | some package => rollback (store.erasePackage id package) ids

/-- The loop of `batchCreate`, with the ids of the packages so far. -/
def createAll (store : InMemoryStore) (now : Int) :
    List CreatePackageInput → List String → Result Int × InMemoryStore
  | [], createdIds => (.ok createdIds.length, store)
  | input :: inputs, createdIds =>
      match create store now input with
      | (.error e, store) => (.error e, rollback store createdIds)
      | (.ok pkg, store) => createAll store now inputs (createdIds ++ [pkg.packageId])

/-- `package::batchCreate`; all items get one reading of the clock. -/
def batchCreate (store : InMemoryStore) (now : Int) (inputs : List CreatePackageInput) :
    Result Int × InMemoryStore :=
  createAll store now inputs []

/-- The loop of `batchUpdate`. -/
def updateAll (store : InMemoryStore) : List UpdatePackageBatchItem → Int → Result Int × InMemoryStore
  | [], updated => (.ok updated, store)
  | item :: items, updated =>
      match update store item.id item.data with
      | (.error e, store) => (.error e, store)
      | (.ok _, store) => updateAll store items (updated + 1)

/-- `package::batchUpdate`. -/
def batchUpdate (store : InMemoryStore) (updates : List UpdatePackageBatchItem) :
    Result Int × InMemoryStore :=
  updateAll store updates 0

/-- The loop of `batchDelete`. -/
def removeAll (store : InMemoryStore) : List String → Int → Result Int × InMemoryStore
  | [], deleted => (.ok deleted, store)
  | id :: ids, deleted =>
      match remove store id with
      | (.error e, store) => (.error e, store)
      | (.ok _, store) => removeAll store ids (deleted + 1)

/-- `package::batchDelete`. -/
def batchDelete (store : InMemoryStore) (ids : List String) : Result Int × InMemoryStore :=
  removeAll store ids 0

end Package

/-! ### The keys -/

namespace InMemoryStore

open Package

variable {s s' : InMemoryStore} {id : String}

theorem OnlyPackages.refl (s : InMemoryStore) : OnlyPackages s s := rfl

theorem OnlyPackages.trans {s'' : InMemoryStore} (h : OnlyPackages s s') (h' : OnlyPackages s' s'') :
    OnlyPackages s s'' := by
  unfold OnlyPackages at *
  rw [h', h]

/-- What an operation on packages keeps: a table stays one, and the rest of the store is as it
was. -/
def KeepsPackages (s s' : InMemoryStore) : Prop :=
  (s.PackageTable → s'.PackageTable) ∧ OnlyPackages s s'

theorem KeepsPackages.refl (s : InMemoryStore) : KeepsPackages s s := ⟨id, rfl⟩

theorem KeepsPackages.trans {s'' : InMemoryStore} (h : KeepsPackages s s')
    (h' : KeepsPackages s' s'') : KeepsPackages s s'' :=
  ⟨fun ht => h'.1 (h.1 ht), h.2.trans h'.2⟩

theorem keeps_erasePackage {package : InstalledPackage} (hp : s.packages[id]? = some package) :
    KeepsPackages s (s.erasePackage id package) := by
  refine ⟨fun h => ⟨h.indexed.erase hp, fun id' q hq => ?_⟩, rfl⟩
  simp only [erasePackage, getElem?_erase_eq] at hq
  split_ifs at hq
  exact h.own id' q hq

theorem keeps_create (s : InMemoryStore) (now : Int) (input : CreatePackageInput) :
    KeepsPackages s (Package.create s now input).2 := by
  unfold Package.create
  dsimp only
  split_ifs with hid hversion htaken
  iterate 3 exact .refl s
  refine ⟨fun h => ⟨?_, fun id q hq => ?_⟩, rfl⟩
  · have hkey : s.packageKeys[Validation.packageKey input.packageId]? = none := by
      simpa using htaken
    have hnew : s.packages[input.packageId]? = none := by
      rcases hp : s.packages[input.packageId]? with _ | p
      · rfl
      · have hindexed := h.indexed.of_record hp
        rw [h.own _ p hp, hkey] at hindexed
        cases hindexed
    exact Indexes.insert (r := Package.newPackage now input) h.indexed hnew hkey
  · rw [getElem?_insert_eq] at hq
    split_ifs at hq with heq
    · obtain rfl := Option.some.inj hq
      exact heq
    · exact h.own id q hq

theorem keeps_update (s : InMemoryStore) (id : String) (input : UpdatePackageInput) :
    KeepsPackages s (Package.update s id input).2 := by
  unfold Package.update
  split_ifs
  · exact .refl s
  rcases hp : s.packages[id]? with _ | package
  · exact .refl s
  dsimp only
  split_ifs
  · exact .refl s
  refine ⟨fun h => ⟨h.indexed.setFields hp rfl, fun id' q hq => ?_⟩, rfl⟩
  rw [getElem?_insert_eq] at hq
  split_ifs at hq with heq
  · obtain rfl := Option.some.inj hq
    exact heq ▸ h.own id package hp
  · exact h.own id' q hq

theorem keeps_remove (s : InMemoryStore) (id : String) :
    KeepsPackages s (Package.remove s id).2 := by
  unfold Package.remove
  split_ifs
  · exact .refl s
  rcases hp : s.packages[id]? with _ | package
  · exact .refl s
  · exact keeps_erasePackage hp

theorem keeps_rollback (s : InMemoryStore) (ids : List String) :
    KeepsPackages s (Package.rollback s ids) := by
  induction ids generalizing s with
  | nil => exact .refl s
  | cons id ids ih =>
      rw [Package.rollback]
      rcases hp : s.packages[id]? with _ | package
      · exact ih s
      · exact (keeps_erasePackage hp).trans (ih _)

theorem keeps_createAll (s : InMemoryStore) (now : Int) (inputs : List CreatePackageInput)
    (createdIds : List String) :
    KeepsPackages s (Package.createAll s now inputs createdIds).2 := by
  induction inputs generalizing s createdIds with
  | nil => exact .refl s
  | cons input inputs ih =>
      rw [Package.createAll]
      have hcreate := keeps_create s now input
      rcases hrun : Package.create s now input with ⟨e | pkg, s'⟩ <;> rw [hrun] at hcreate
      · exact hcreate.trans (keeps_rollback s' createdIds)
      · exact hcreate.trans (ih s' _)

theorem keeps_updateAll (s : InMemoryStore) (items : List UpdatePackageBatchItem) (updated : Int) :
    KeepsPackages s (Package.updateAll s items updated).2 := by
  induction items generalizing s updated with
  | nil => exact .refl s
  | cons item items ih =>
      rw [Package.updateAll]
      have hupdate := keeps_update s item.id item.data
      rcases hrun : Package.update s item.id item.data with ⟨e | pkg, s'⟩ <;>
        rw [hrun] at hupdate
      · exact hupdate
      · exact hupdate.trans (ih s' _)

theorem keeps_removeAll (s : InMemoryStore) (ids : List String) (deleted : Int) :
    KeepsPackages s (Package.removeAll s ids deleted).2 := by
  induction ids generalizing s deleted with
  | nil => exact .refl s
  | cons id ids ih =>
      rw [Package.removeAll]
      have hremove := keeps_remove s id
      rcases hrun : Package.remove s id with ⟨e | b, s'⟩ <;> rw [hrun] at hremove
      · exact hremove
      · exact hremove.trans (ih s' _)

end InMemoryStore
end Dbal
