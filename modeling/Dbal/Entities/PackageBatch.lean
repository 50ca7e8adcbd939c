/-
# Batches of packages

`batchCreate`, `batchUpdate` and `batchDelete` of
`src/entities/package/batch/batch_packages.hpp` apply their items one after the other and stop at
the first that fails.  `batchCreate` takes back what it has created, so that it is all or nothing
on every input.  The other two are all or nothing exactly if nothing fails, or if the items before
the first that fails change no package: for a deletion there are none, and for an update they give
every package the fields it has.
-/

import Dbal.Entities.EntityRuns

namespace Dbal

/-- The call of a batch operation. -/
inductive PackageBatch where
  | create (now : Int) (inputs : List CreatePackageInput)
  | update (updates : List UpdatePackageBatchItem)
  | delete (ids : List String)

/-- One item by itself. -/
inductive PackageItem where
  | create (now : Int) (input : CreatePackageInput)
  | update (item : UpdatePackageBatchItem)
  | delete (id : String)

/-- One item, with the single operation that it asks for. -/
def PackageItem.exec (s : InMemoryStore) : PackageItem → Result Unit × InMemoryStore
  | .create now input => outcome (Package.create s now input)
  | .update item => outcome (Package.update s item.id item.data)
  | .delete id => outcome (Package.remove s id)

/-- Every item is applied with success, in order. -/
inductive Applies : InMemoryStore → List PackageItem → InMemoryStore → Prop where
  | nil (s : InMemoryStore) : Applies s [] s
  | cons {s s' s'' : InMemoryStore} {item : PackageItem} {items : List PackageItem} {u : Unit} :
      item.exec s = (.ok u, s') → Applies s' items s'' → Applies s (item :: items) s''

namespace InMemoryStore

variable {s s' s'' : InMemoryStore} {id : String}

/-! ### Stores with the same packages -/

/-- The packages and their keys are the same. -/
structure SamePackages (s s' : InMemoryStore) : Prop where
  packages : ∀ id : String, s'.packages[id]? = s.packages[id]?
  packageKeys : ∀ key : String, s'.packageKeys[key]? = s.packageKeys[key]?

theorem SamePackages.refl (s : InMemoryStore) : SamePackages s s := ⟨fun _ => rfl, fun _ => rfl⟩

/-- The keys of a table are the ids of its packages. -/
theorem PackageTable.packageKeys_eq (h : PackageTable s) (key : String) :
    s.packageKeys[key]? = s.packages[key]?.map fun _ => key := by
  refine Option.ext fun id => ?_
  rw [h.indexed key id]
  constructor
  · rintro ⟨p, hp, hkey⟩
    obtain rfl : id = key := (h.own id p hp).symm.trans hkey
    rw [hp]
    rfl
  · intro hid
    obtain ⟨p, hp, rfl⟩ := Option.map_eq_some_iff.1 hid
    exact ⟨p, hp, h.own _ p hp⟩

theorem PackageTable.same (h : PackageTable s) (h' : PackageTable s')
    (hpackages : ∀ id : String, s'.packages[id]? = s.packages[id]?) : SamePackages s s' :=
  ⟨hpackages, fun key => by rw [h.packageKeys_eq, h'.packageKeys_eq, hpackages]⟩

/-- Every stored version is one that the checks accept. -/
def ValidVersions (s : InMemoryStore) : Prop :=
  ∀ (id : String) (p : InstalledPackage), s.packages[id]? = some p → Validation.isValidSemver p.version

end InMemoryStore

namespace Package

open InMemoryStore

variable {s s' : InMemoryStore} {id : String}

/-! ### One item -/

/-- The id of a package of the store. -/
def Known (s : InMemoryStore) (id : String) : Prop := id ≠ "" ∧ s.packages[id]? ≠ none

instance (s : InMemoryStore) (id : String) : Decidable (Known s id) :=
  inferInstanceAs (Decidable (_ ∧ _))

/-- The item names a package of the store and gives it no bad version. -/
def Accepts (s : InMemoryStore) (item : UpdatePackageBatchItem) : Prop :=
  Known s item.id ∧ item.data.version.all Validation.isValidSemver

instance (s : InMemoryStore) (item : UpdatePackageBatchItem) : Decidable (Accepts s item) :=
  inferInstanceAs (Decidable (_ ∧ _))

/-- The exits of `create`. -/
theorem create_cases (htable : PackageTable s) (now : Int) (input : CreatePackageInput) :
    (∃ e, create s now input = (.error e, s)) ∨
    (create s now input).1 = .ok (newPackage now input) ∧
      Validation.isValidSemver input.version ∧ s.packages[input.packageId]? = none ∧
      (create s now input).2.packages = s.packages.insert input.packageId (newPackage now input) := by
  unfold create
  dsimp only
  split_ifs with hid hversion htaken
  iterate 3 exact .inl ⟨_, rfl⟩
  refine .inr ⟨rfl, by simpa using hversion, ?_, rfl⟩
  have hkey : s.packageKeys[input.packageId]? = none := by
    simpa [Validation.packageKey] using htaken
  rw [htable.packageKeys_eq] at hkey
  exact Option.map_eq_none_iff.1 hkey

/-- The exits of `remove`. -/
theorem remove_cases (s : InMemoryStore) (id : String) :
    (¬ Known s id ∧ ∃ e, remove s id = (.error e, s)) ∨
    Known s id ∧ (remove s id).1 = .ok true ∧ (remove s id).2.packages = s.packages.erase id := by
  unfold remove
  split_ifs with hid
  · exact .inl ⟨fun h => h.1 hid, _, rfl⟩
  rcases hp : s.packages[id]? with _ | package
  · exact .inl ⟨fun h => h.2 hp, _, rfl⟩
  · exact .inr ⟨⟨hid, by simp [hp]⟩, rfl, rfl⟩

/-- The exits of `update`, where the stored versions are good ones. -/
theorem update_cases (hversions : ValidVersions s) (item : UpdatePackageBatchItem) :
    (¬ Accepts s item ∧ ∃ e, update s item.id item.data = (.error e, s)) ∨
    Accepts s item ∧ ∃ p, s.packages[item.id]? = some p ∧
      (update s item.id item.data).1 = .ok (setFields item.data p) ∧
      (update s item.id item.data).2.packages =
        s.packages.insert item.id (setFields item.data p) := by
  unfold update
  split_ifs with hid
  · exact .inl ⟨fun h => h.1.1 hid, _, rfl⟩
  rcases hp : s.packages[item.id]? with _ | package
  · exact .inl ⟨fun h => h.1.2 hp, _, rfl⟩
  have hall : item.data.version.all Validation.isValidSemver =
      Validation.isValidSemver (item.data.version.getD package.version) := by
    cases item.data.version with
    | none => exact (hversions _ _ hp).symm
    | some version => rfl
  dsimp only
  split_ifs with hversion
  · exact .inl ⟨fun h => by simp [hall ▸ h.2] at hversion, _, rfl⟩
  · exact .inr ⟨⟨⟨hid, by simp [hp]⟩, by simpa [hall] using hversion⟩, package, rfl, rfl, rfl⟩

end Package

/-! ### The versions of a reachable store -/

namespace InMemoryStore

open Package

variable {s s' : InMemoryStore} {id : String}

theorem ValidVersions.congr (h : ValidVersions s) (hpackages : s'.packages = s.packages) :
    ValidVersions s' := by
  unfold ValidVersions
  rw [hpackages]
  exact h

theorem ValidVersions.insert (h : ValidVersions s) {p : InstalledPackage}
    (hp : Validation.isValidSemver p.version)
    (hpackages : s'.packages = s.packages.insert id p) : ValidVersions s' := by
  intro id' q hq
  rw [hpackages, getElem?_insert_eq] at hq
  split_ifs at hq
  · obtain rfl := Option.some.inj hq
    exact hp
  · exact h id' q hq

theorem ValidVersions.erase (h : ValidVersions s) (hpackages : s'.packages = s.packages.erase id) :
    ValidVersions s' := by
  intro id' q hq
  rw [hpackages, getElem?_erase_eq] at hq
  split_ifs at hq
  exact h id' q hq

theorem ValidVersions.create (h : ValidVersions s) (htable : PackageTable s) (now : Int)
    (input : CreatePackageInput) : ValidVersions (Package.create s now input).2 := by
  rcases Package.create_cases htable now input with ⟨e, hrun⟩ | ⟨-, hversion, -, hpackages⟩
  · rw [hrun]
    exact h
  · exact h.insert hversion hpackages

theorem ValidVersions.update (h : ValidVersions s) (item : UpdatePackageBatchItem) :
    ValidVersions (Package.update s item.id item.data).2 := by
  rcases update_cases h item with ⟨-, e, hrun⟩ | ⟨haccepts, p, hp, -, hpackages⟩
  · rw [hrun]
    exact h
  · refine h.insert ?_ hpackages
    show Validation.isValidSemver (item.data.version.getD p.version)
    rcases hversion : item.data.version with _ | version
    · exact h _ p hp
    · have hall := haccepts.2
      rw [hversion] at hall
      exact hall

theorem ValidVersions.remove (h : ValidVersions s) (id : String) :
    ValidVersions (Package.remove s id).2 := by
  rcases remove_cases s id with ⟨-, e, hrun⟩ | ⟨-, -, hpackages⟩
  · rw [hrun]
    exact h
  · exact h.erase hpackages

theorem ValidVersions.rollback (h : ValidVersions s) (ids : List String) :
    ValidVersions (Package.rollback s ids) := by
  induction ids generalizing s with
  | nil => exact h
  | cons id ids ih =>
      rw [Package.rollback]
      rcases s.packages[id]? with _ | package
      · exact ih h
      · exact ih (h.erase rfl)

theorem ValidVersions.createAll (h : ValidVersions s) (htable : PackageTable s) (now : Int)
    (inputs : List CreatePackageInput) (createdIds : List String) :
    ValidVersions (Package.createAll s now inputs createdIds).2 := by
  induction inputs generalizing s createdIds with
  | nil => exact h
  | cons input inputs ih =>
      rw [Package.createAll]
      have hcreate := h.create htable now input
      have hkeeps := (keeps_create s now input).1 htable
      rcases hrun : Package.create s now input with ⟨e | pkg, s'⟩ <;> rw [hrun] at hcreate hkeeps
      · exact hcreate.rollback createdIds
      · exact ih hcreate hkeeps _

theorem ValidVersions.updateAll (h : ValidVersions s) (items : List UpdatePackageBatchItem)
    (updated : Int) : ValidVersions (Package.updateAll s items updated).2 := by
  induction items generalizing s updated with
  | nil => exact h
  | cons item items ih =>
      rw [Package.updateAll]
      have hupdate := h.update item
      rcases hrun : Package.update s item.id item.data with ⟨e | pkg, s'⟩ <;> rw [hrun] at hupdate
      · exact hupdate
      · exact ih hupdate _

theorem ValidVersions.removeAll (h : ValidVersions s) (ids : List String) (deleted : Int) :
    ValidVersions (Package.removeAll s ids deleted).2 := by
  induction ids generalizing s deleted with
  | nil => exact h
  | cons id ids ih =>
      rw [Package.removeAll]
      have hremove := h.remove id
      rcases hrun : Package.remove s id with ⟨e | b, s'⟩ <;> rw [hrun] at hremove
      · exact hremove
      · exact ih hremove _

/-- The operations on components, pages and sessions leave the packages alone. -/
theorem crud_packages (h : Tables s) {fuel : Nat} {op : CrudOp} {r : Result Unit}
    (hrun : op.exec fuel s = some (r, s')) : s'.packages = s.packages := by
  cases op with
  | createComponent input =>
      obtain ⟨p, hp, heq⟩ := Option.map_eq_some_iff.1 hrun
      obtain rfl : p.2 = s' := congrArg Prod.snd heq
      rw [createComponent_only hp]
  | updateComponent id input =>
      obtain ⟨p, hp, heq⟩ := Option.map_eq_some_iff.1 hrun
      obtain rfl : p.2 = s' := congrArg Prod.snd heq
      rw [updateComponent_only hp]
  | moveComponent input =>
      obtain ⟨p, hp, heq⟩ := Option.map_eq_some_iff.1 hrun
      obtain rfl : p.2 = s' := congrArg Prod.snd heq
      rw [moveComponent_only hp]
  | removeComponent id =>
      obtain ⟨p, hp, heq⟩ := Option.map_eq_some_iff.1 hrun
      obtain rfl : p.2 = s' := congrArg Prod.snd heq
      rw [removeComponent_only hp]
  | createPage now input =>
      obtain ⟨p, hp, heq⟩ := Option.map_eq_some_iff.1 hrun
      obtain rfl : p.2 = s' := congrArg Prod.snd heq
      rw [Page.create_only hp]
  | createSession now input =>
      obtain ⟨p, hp, heq⟩ := Option.map_eq_some_iff.1 hrun
      obtain rfl : p.2 = s' := congrArg Prod.snd heq
      rw [(h.sessions.create hp).2]
  | updatePage id input =>
      obtain ⟨-, rfl⟩ := Prod.mk.inj (Option.some.inj hrun)
      rw [Page.update_only s id input]
  | removePage id =>
      obtain ⟨-, rfl⟩ := Prod.mk.inj (Option.some.inj hrun)
      rw [Page.remove_only s id]
  | updateSession id input =>
      obtain ⟨-, rfl⟩ := Prod.mk.inj (Option.some.inj hrun)
      rw [(h.sessions.update id input).2]
  | removeSession id =>
      obtain ⟨-, rfl⟩ := Prod.mk.inj (Option.some.inj hrun)
      rw [(h.sessions.remove id).2]

theorem ValidVersions.exec (hversions : ValidVersions s) (h : Tables s) {fuel : Nat} {op : EntityOp}
    {r : Result Unit} (hrun : op.exec fuel s = some (r, s')) : ValidVersions s' := by
  cases op with
  | crud op => exact hversions.congr (crud_packages h hrun)
  | createWorkflow now input =>
      obtain ⟨p, hp, heq⟩ := Option.map_eq_some_iff.1 hrun
      obtain rfl : p.2 = s' := congrArg Prod.snd heq
      exact hversions.congr (by rw [(h.workflows.create hp).2])
  | setFirstLogin username flag =>
      obtain ⟨-, rfl⟩ := Prod.mk.inj (Option.some.inj hrun)
      refine hversions.congr ?_
      unfold Credential.setFirstLogin
      split_ifs
      · rfl
      · split <;> rfl
  | createPackage now input =>
      obtain ⟨-, rfl⟩ := Prod.mk.inj (Option.some.inj hrun)
      exact hversions.create h.packages now input
  | updatePackage id input =>
      obtain ⟨-, rfl⟩ := Prod.mk.inj (Option.some.inj hrun)
      exact hversions.update ⟨id, input⟩
  | removePackage id =>
      obtain ⟨-, rfl⟩ := Prod.mk.inj (Option.some.inj hrun)
      exact hversions.remove id
  | batchCreatePackages now inputs =>
      obtain ⟨-, rfl⟩ := Prod.mk.inj (Option.some.inj hrun)
      exact hversions.createAll h.packages now inputs []
  | batchUpdatePackages updates =>
      obtain ⟨-, rfl⟩ := Prod.mk.inj (Option.some.inj hrun)
      exact hversions.updateAll updates 0
  | batchDeletePackages ids =>
      obtain ⟨-, rfl⟩ := Prod.mk.inj (Option.some.inj hrun)
      exact hversions.removeAll ids 0
  | _ =>
      obtain ⟨-, rfl⟩ := Prod.mk.inj (Option.some.inj hrun)
      refine hversions.congr ?_
      first
        | rw [reorder_only s _]
        | rw [(h.workflows.update _ _).2]
        | rw [(h.workflows.remove _).2]
        | rw [(h.sessions.get _ _).2]
        | rw [(h.sessions.getByToken _ _).2]
        | rw [(h.sessions.cleanExpired _).2]

theorem validVersions_of_reachable (h : EntityOp.Reachable s) : ValidVersions s := by
  induction h with
  | start users =>
      intro id p hp
      simp at hp
  | step hreach hrun ih => exact ih.exec (Tables.of_reachable hreach) hrun

end InMemoryStore

/-! ### Whole batches -/

namespace Package

open InMemoryStore

variable {s s' : InMemoryStore} {id : String}

/-- The last value that the items give to a field of a package. -/
def lastGiven {α : Type} (field : UpdatePackageInput → Option α) (id : String)
    (items : List UpdatePackageBatchItem) : Option α :=
  (items.filterMap fun item => if item.id = id then field item.data else none).getLast?

/-- The items give every field of the package the value it has. -/
structure WritesBack (items : List UpdatePackageBatchItem) (id : String) (p : InstalledPackage) :
    Prop where
  version : ∀ version ∈ lastGiven (·.version) id items, version = p.version
  tenantId : ∀ tenantId ∈ lastGiven (·.tenantId) id items, some tenantId = p.tenantId
  installedAt : ∀ installedAt ∈ lastGiven (·.installedAt) id items, installedAt = p.installedAt
  enabled : ∀ enabled ∈ lastGiven (·.enabled) id items, enabled = p.enabled

/-- The package after the items that name it. -/
def setAll (items : List UpdatePackageBatchItem) (id : String) (p : InstalledPackage) :
    InstalledPackage :=
  items.foldl (fun p item => if item.id = id then setFields item.data p else p) p

theorem lastGiven_cons {α : Type} (field : UpdatePackageInput → Option α) (id : String)
    (item : UpdatePackageBatchItem) (items : List UpdatePackageBatchItem) :
    lastGiven field id (item :: items) =
      (lastGiven field id items).or (if item.id = id then field item.data else none) := by
  unfold lastGiven
  rw [List.filterMap_cons]
  rcases (if item.id = id then field item.data else none) with _ | value
  · simp
  · simp [List.getLast?_cons]

theorem setAll_eq (items : List UpdatePackageBatchItem) (id : String) (p : InstalledPackage) :
    setAll items id p =
      { p with
        version := (lastGiven (·.version) id items).getD p.version
        tenantId := (lastGiven (·.tenantId) id items).or p.tenantId
        installedAt := (lastGiven (·.installedAt) id items).getD p.installedAt
        enabled := (lastGiven (·.enabled) id items).getD p.enabled } := by
  induction items generalizing p with
  | nil => rfl
  | cons item items ih =>
      have hcons : setAll (item :: items) id p =
          setAll items id (if item.id = id then setFields item.data p else p) := rfl
      simp only [hcons, ih, lastGiven_cons]
      split_ifs <;> simp [setFields, Option.or_assoc]

theorem getD_eq_iff {α : Type} {given : Option α} {value : α} :
    given.getD value = value ↔ ∀ v ∈ given, v = value := by
  cases given <;> simp

theorem or_eq_iff {α : Type} {given value : Option α} :
    given.or value = value ↔ ∀ v ∈ given, some v = value := by
  cases given <;> simp

theorem setAll_eq_self_iff {items : List UpdatePackageBatchItem} {p : InstalledPackage} :
    setAll items id p = p ↔ WritesBack items id p := by
  rw [setAll_eq]
  obtain ⟨packageId, tenantId, installedAt, version, enabled⟩ := p
  simp only [InstalledPackage.mk.injEq, getD_eq_iff, or_eq_iff]
  constructor
  · rintro ⟨-, htenantId, hinstalledAt, hversion, henabled⟩
    exact ⟨hversion, htenantId, hinstalledAt, henabled⟩
  · rintro ⟨hversion, htenantId, hinstalledAt, henabled⟩
    exact ⟨trivial, htenantId, hinstalledAt, hversion, henabled⟩

/-! ### Deletions -/

theorem removeAll_ok_iff (s : InMemoryStore) (ids : List String) (deleted : Int) :
    (∃ n, (removeAll s ids deleted).1 = .ok n) ↔ (∀ id ∈ ids, Known s id) ∧ ids.Nodup := by
  induction ids generalizing s deleted with
  | nil => simp [removeAll]
  | cons id ids ih =>
      rw [removeAll, List.forall_mem_cons, List.nodup_cons]
      rcases hrun : remove s id with ⟨e | b, s'⟩ <;>
        rcases remove_cases s id with ⟨hunknown, e', herror⟩ | ⟨hknown, hok, hpackages⟩
      · simp [hunknown]
      · rw [hrun] at hok
        cases hok
      · rw [hrun] at herror
        cases herror
      have hlater : ∀ later, Known s' later ↔ id ≠ later ∧ Known s later := by
        intro later
        rw [hrun] at hpackages
        unfold Known
        rw [hpackages, getElem?_erase_eq]
        split_ifs with heq <;> simp [heq]
      dsimp only
      rw [ih]
      constructor
      · rintro ⟨hall, hnodup⟩
        exact ⟨⟨hknown, fun later h => ((hlater later).1 (hall later h)).2⟩,
          fun hmem => ((hlater id).1 (hall id hmem)).1 rfl, hnodup⟩
      · rintro ⟨⟨-, hall⟩, hfresh, hnodup⟩
        exact ⟨fun later h => (hlater later).2 ⟨fun heq => hfresh (heq ▸ h), hall later h⟩, hnodup⟩

/-- What is not there does not come back. -/
theorem removeAll_absent (s : InMemoryStore) (ids : List String) (deleted : Int)
    (habsent : s.packages[id]? = none) : (removeAll s ids deleted).2.packages[id]? = none := by
  induction ids generalizing s deleted with
  | nil => exact habsent
  | cons first ids ih =>
      rw [removeAll]
      rcases hrun : remove s first with ⟨e | b, s'⟩ <;>
        rcases remove_cases s first with ⟨-, e', herror⟩ | ⟨-, hok, hpackages⟩ <;>
        rw [hrun] at *
      · obtain ⟨-, rfl⟩ := Prod.mk.inj herror
        exact habsent
      · cases hok
      · cases herror
      · refine ih s' _ ?_
        rw [hpackages, getElem?_erase_eq, habsent, ite_self]

/-- **A failed deletion deletes nothing exactly if its first id is unknown.** -/
theorem removeAll_same_iff {first : String} {ids : List String} {deleted : Int} :
    SamePackages s (removeAll s (first :: ids) deleted).2 ↔ ¬ Known s first := by
  rw [removeAll]
  rcases hrun : remove s first with ⟨e | b, s'⟩ <;>
    rcases remove_cases s first with ⟨hunknown, e', herror⟩ | ⟨hknown, hok, hpackages⟩ <;>
    rw [hrun] at *
  · obtain ⟨-, rfl⟩ := Prod.mk.inj herror
    exact iff_of_true (.refl s') hunknown
  · cases hok
  · cases herror
  · refine iff_of_false (fun hsame => hknown.2 ?_) (not_not_intro hknown)
    rw [← hsame.packages first]
    refine removeAll_absent s' ids _ ?_
    rw [hpackages, getElem?_erase_eq, if_pos rfl]

/-! ### Updates -/

/-- An update of a package makes no id known and none unknown. -/
theorem accepts_insert {p q : InstalledPackage} (hp : s.packages[id]? = some p)
    (hpackages : s'.packages = s.packages.insert id q) (item : UpdatePackageBatchItem) :
    Accepts s' item ↔ Accepts s item := by
  unfold Accepts Known
  rw [hpackages, getElem?_insert_eq]
  split_ifs with heq
  · simp [← heq, hp]
  · rfl

/-- The two ways in which a round of `batchUpdate` goes. -/
theorem updateAll_cons (hversions : ValidVersions s) (item : UpdatePackageBatchItem)
    (items : List UpdatePackageBatchItem) (updated : Int) :
    (¬ Accepts s item ∧ ∃ e, updateAll s (item :: items) updated = (.error e, s)) ∨
    Accepts s item ∧ ∃ p s', s.packages[item.id]? = some p ∧ ValidVersions s' ∧
      s'.packages = s.packages.insert item.id (setFields item.data p) ∧
      updateAll s (item :: items) updated = updateAll s' items (updated + 1) := by
  rw [updateAll]
  rcases update_cases hversions item with
    ⟨hrefuses, e, herror⟩ | ⟨haccepts, p, hp, hok, hpackages⟩
  · rw [herror]
    exact .inl ⟨hrefuses, e, rfl⟩
  · have hvalid := hversions.update item
    rcases hrun : update s item.id item.data with ⟨e | q, s'⟩ <;> rw [hrun] at hok hpackages hvalid
    · cases hok
    · exact .inr ⟨haccepts, p, s', hp, hvalid, hpackages, rfl⟩

theorem updateAll_ok_iff (hversions : ValidVersions s) (items : List UpdatePackageBatchItem)
    (updated : Int) :
    (∃ n, (updateAll s items updated).1 = .ok n) ↔ ∀ item ∈ items, Accepts s item := by
  induction items generalizing s updated with
  | nil => simp [updateAll]
  | cons item items ih =>
      rw [List.forall_mem_cons]
      rcases updateAll_cons hversions item items updated with
        ⟨hrefuses, e, herror⟩ | ⟨haccepts, p, s', hp, hvalid, hpackages, hnext⟩
      · simp [herror, hrefuses]
      · simp only [hnext, ih hvalid, accepts_insert hp hpackages, haccepts, true_and]

/-- **Each package gets what the items before the first that fails give it.** -/
theorem updateAll_packages (hversions : ValidVersions s) (items : List UpdatePackageBatchItem)
    (updated : Int) (id : String) :
    (updateAll s items updated).2.packages[id]? =
      s.packages[id]?.map (setAll (items.takeWhile (Accepts s ·)) id) := by
  induction items generalizing s updated with
  | nil => exact Option.map_id'.symm
  | cons item items ih =>
      rcases updateAll_cons hversions item items updated with
        ⟨hrefuses, e, herror⟩ | ⟨haccepts, p, s', hp, hvalid, hpackages, hnext⟩
      · rw [herror, List.takeWhile_cons_of_neg (by simpa using hrefuses)]
        exact Option.map_id'.symm
      · have htake : items.takeWhile (Accepts s' ·) = items.takeWhile (Accepts s ·) := by
          simp only [accepts_insert hp hpackages]
        rw [hnext, List.takeWhile_cons_of_pos (by simpa using haccepts), ih hvalid, htake,
          hpackages, getElem?_insert_eq]
        split_ifs with heq
        · simp [← heq, hp, setAll]
        · exact congrArg (Option.map · _) (funext fun p => by simp [setAll, heq])

/-- **An update changes nothing exactly if the items before the first that fails write back what
is there.** -/
theorem updateAll_same_iff (hversions : ValidVersions s) (htable : PackageTable s)
    (items : List UpdatePackageBatchItem) (updated : Int) :
    SamePackages s (updateAll s items updated).2 ↔
      ∀ (id : String) (p : InstalledPackage), s.packages[id]? = some p →
        WritesBack (items.takeWhile (Accepts s ·)) id p := by
  constructor
  · intro hsame id p hp
    have hset := hsame.packages id
    rw [updateAll_packages hversions, hp] at hset
    exact setAll_eq_self_iff.1 (Option.some.inj hset)
  · refine fun h => htable.same ((keeps_updateAll s items updated).1 htable) fun id => ?_
    rw [updateAll_packages hversions]
    rcases hp : s.packages[id]? with _ | p
    · rfl
    · exact congrArg some (setAll_eq_self_iff.2 (h id p hp))

/-! ### Creations -/

theorem rollback_packages (htable : PackageTable s) (ids : List String) (id : String) :
    (rollback s ids).packages[id]? = if id ∈ ids then none else s.packages[id]? := by
  induction ids generalizing s with
  | nil => rfl
  | cons first ids ih =>
      rw [rollback]
      rcases hfirst : s.packages[first]? with _ | package
      · dsimp only
        rw [ih htable]
        by_cases heq : id = first
        · simp [heq, hfirst]
        · simp [heq]
      · dsimp only
        rw [ih ((keeps_erasePackage hfirst).1 htable), erasePackage, getElem?_erase_eq]
        by_cases heq : id = first
        · simp [heq]
        · simp [heq, Ne.symm heq]

/-- The ids are those of new packages, and nothing else is new. -/
def AddsTo (s s' : InMemoryStore) (createdIds : List String) : Prop :=
  ∀ id : String, s.packages[id]? = if id ∈ createdIds then none else s'.packages[id]?

/-- **A failed creation takes back all that it has created.** -/
theorem createAll_error {now : Int} {inputs : List CreatePackageInput} {createdIds : List String}
    {e : Error} (htable : PackageTable s) (htable' : PackageTable s')
    (hadds : AddsTo s s' createdIds) (herror : (createAll s' now inputs createdIds).1 = .error e) :
    SamePackages s (createAll s' now inputs createdIds).2 := by
  induction inputs generalizing s' createdIds with
  | nil => cases herror
  | cons input inputs ih =>
      rw [createAll] at herror ⊢
      have hkeeps := (keeps_create s' now input).1 htable'
      rcases hrun : create s' now input with ⟨e' | pkg, s''⟩ <;>
        rcases create_cases htable' now input with ⟨e', hrefused⟩ | ⟨hok, -, hnew, hpackages⟩ <;>
        simp only [hrun] at hkeeps herror ⊢
      · obtain ⟨-, rfl⟩ := Prod.mk.inj (hrun.symm.trans hrefused)
        refine htable.same ((keeps_rollback s'' createdIds).1 htable') fun id => ?_
        exact (rollback_packages htable' createdIds id).trans (hadds id).symm
      · rw [hrun] at hok
        cases hok
      · rw [hrun] at hrefused
        cases hrefused
      · rw [hrun] at hok hpackages
        obtain rfl := Except.ok.inj hok
        refine ih hkeeps (fun id => ?_) herror
        rw [hadds id, hpackages, getElem?_insert_eq]
        by_cases heq : id = input.packageId
        · simp [heq, hnew, newPackage]
        · simp [heq, Ne.symm heq, newPackage]

/-- **A creation that is not taken back has created everything.** -/
theorem createAll_applies {now n : Int} {inputs : List CreatePackageInput} {createdIds : List String}
    (hok : (createAll s now inputs createdIds).1 = .ok n) :
    n = createdIds.length + inputs.length ∧
      Applies s (inputs.map (.create now)) (createAll s now inputs createdIds).2 := by
  induction inputs generalizing s createdIds with
  | nil => exact ⟨(Except.ok.inj hok).symm.trans (add_zero _).symm, .nil s⟩
  | cons input inputs ih =>
      rw [createAll] at hok ⊢
      rcases hrun : create s now input with ⟨e | pkg, s'⟩ <;> rw [hrun] at hok
      · cases hok
      · obtain ⟨hn, happlies⟩ := ih hok
        refine ⟨?_, .cons (congrArg outcome hrun) happlies⟩
        rw [hn, List.length_append, List.length_singleton, List.length_cons]
        omega

theorem updateAll_applies {n updated : Int} {items : List UpdatePackageBatchItem}
    (hok : (updateAll s items updated).1 = .ok n) :
    n = updated + items.length ∧
      Applies s (items.map .update) (updateAll s items updated).2 := by
  induction items generalizing s updated with
  | nil => exact ⟨(Except.ok.inj hok).symm.trans (add_zero _).symm, .nil s⟩
  | cons item items ih =>
      rw [updateAll] at hok ⊢
      rcases hrun : update s item.id item.data with ⟨e | pkg, s'⟩ <;> rw [hrun] at hok
      · cases hok
      · obtain ⟨hn, happlies⟩ := ih hok
        refine ⟨?_, .cons (congrArg outcome hrun) happlies⟩
        rw [hn, List.length_cons]
        omega

theorem removeAll_applies {n deleted : Int} {ids : List String}
    (hok : (removeAll s ids deleted).1 = .ok n) :
    n = deleted + ids.length ∧ Applies s (ids.map .delete) (removeAll s ids deleted).2 := by
  induction ids generalizing s deleted with
  | nil => exact ⟨(Except.ok.inj hok).symm.trans (add_zero _).symm, .nil s⟩
  | cons id ids ih =>
      rw [removeAll] at hok ⊢
      rcases hrun : remove s id with ⟨e | b, s'⟩ <;> rw [hrun] at hok
      · cases hok
      · obtain ⟨hn, happlies⟩ := ih hok
        refine ⟨?_, .cons (congrArg outcome hrun) happlies⟩
        rw [hn, List.length_cons]
        omega

end Package

/-! ### All or nothing -/

namespace PackageBatch

open InMemoryStore Package

variable {s : InMemoryStore}

/-- The operation, with the count that it answers with. -/
def exec (s : InMemoryStore) : PackageBatch → Result Int × InMemoryStore
  | .create now inputs => Package.batchCreate s now inputs
  | .update updates => Package.batchUpdate s updates
  | .delete ids => Package.batchDelete s ids

/-- The items one by one. -/
def items : PackageBatch → List PackageItem
  | .create now inputs => inputs.map (.create now)
  | .update updates => updates.map .update
  | .delete ids => ids.map .delete

/-- Either every item is applied in order, or there is an error and the packages are what they
were. -/
def AllOrNothing (batch : PackageBatch) (s : InMemoryStore) : Prop :=
  ((batch.exec s).1 = .ok (batch.items.length : Int) ∧ Applies s batch.items (batch.exec s).2) ∨
    ((∃ e, (batch.exec s).1 = .error e) ∧ SamePackages s (batch.exec s).2)

/-- Nothing fails, or the items before the first that fails change nothing. -/
def FailsEarly (s : InMemoryStore) : PackageBatch → Prop
  | .create _ _ => True
  | .update updates =>
      (∀ item ∈ updates, Accepts s item) ∨
        ∀ (id : String) (p : InstalledPackage), s.packages[id]? = some p →
          WritesBack (updates.takeWhile (Accepts s ·)) id p
  | .delete ids => ((∀ id ∈ ids, Known s id) ∧ ids.Nodup) ∨ ∀ first ∈ ids.head?, ¬ Known s first

/-- A batch answers with its length once every item is applied. -/
theorem applies_of_ok {batch : PackageBatch} {n : Int} (hok : (batch.exec s).1 = .ok n) :
    (batch.exec s).1 = .ok (batch.items.length : Int) ∧ Applies s batch.items (batch.exec s).2 := by
  cases batch with
  | create now inputs =>
      obtain ⟨rfl, happlies⟩ := createAll_applies hok
      exact ⟨by simpa [items] using hok, happlies⟩
  | update updates =>
      obtain ⟨rfl, happlies⟩ := updateAll_applies hok
      exact ⟨by simpa [items] using hok, happlies⟩
  | delete ids =>
      obtain ⟨rfl, happlies⟩ := removeAll_applies hok
      exact ⟨by simpa [items] using hok, happlies⟩

/-- A batch is all or nothing if an error leaves the packages as they were, and only then. -/
theorem allOrNothing_iff {batch : PackageBatch} :
    batch.AllOrNothing s ↔
      (∃ n, (batch.exec s).1 = .ok n) ∨ SamePackages s (batch.exec s).2 := by
  rcases hresult : (batch.exec s).1 with e | n
  · simp [AllOrNothing, hresult]
  · exact iff_of_true (.inl (applies_of_ok hresult)) (.inl ⟨n, rfl⟩)

/-- **A batch operation on packages is all or nothing exactly if it fails early or not at all.** -/
theorem allOrNothing_iff_failsEarly (h : EntityOp.Reachable s) (batch : PackageBatch) :
    batch.AllOrNothing s ↔ batch.FailsEarly s := by
  have htable := (Tables.of_reachable h).packages
  have hversions := validVersions_of_reachable h
  rw [allOrNothing_iff]
  cases batch with
  | create now inputs =>
      refine iff_of_true ?_ trivial
      rcases hresult : (exec s (.create now inputs)).1 with e | n
      · exact .inr (createAll_error htable htable (fun id => by simp) hresult)
      · exact .inl ⟨n, rfl⟩
  | update updates =>
      exact or_congr (updateAll_ok_iff hversions updates 0)
        (updateAll_same_iff hversions htable updates 0)
  | delete ids =>
      refine or_congr (removeAll_ok_iff s ids 0) ?_
      cases ids with
      | nil => simp [exec, batchDelete, removeAll, SamePackages.refl]
      | cons first ids => exact removeAll_same_iff.trans (by simp)

/-- A second item that is refused takes the first back. -/
theorem allOrNothing_create_twice :
    let core : CreatePackageInput := { packageId := "core", version := "1.0.0", enabled := true }
    (PackageBatch.create 0 [core, core]).AllOrNothing {} := by
  intro core
  exact (allOrNothing_iff_failsEarly (.start ∅) _).2 trivial

/-- **An unknown id after a known one: the batch fails and the known one is deleted.** -/
theorem failed_delete_deletes :
    let core : CreatePackageInput := { packageId := "core", version := "1.0.0", enabled := true }
    ∃ s, EntityOp.runOps 0 {} [.createPackage 0 core] = some s ∧
      ¬ (PackageBatch.delete ["core", "missing"]).AllOrNothing s := by
  intro core
  refine ⟨(Package.create {} 0 core).2, rfl, fun h => ?_⟩
  rcases allOrNothing_iff.1 h with hok | hsame
  · have hmissing := ((removeAll_ok_iff _ _ 0).1 hok).1 "missing" (by simp)
    exact absurd hmissing (by decide +kernel)
  · exact absurd (hsame.packages "core") (by decide +kernel)

end PackageBatch
end Dbal
