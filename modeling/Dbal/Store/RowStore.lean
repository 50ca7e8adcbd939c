/-
# Stores of rows

What an adapter does to the rows of its store, call by call: `RowStore A κ` sees the
states of `A` as maps from keys to rows and says how far each call may change them.  A
call that fails or throws may have done its work or not, but nothing else.

The ideal store is one (`MapStore.rowStore`).
-/

import Dbal.Store.MapStore

namespace Dbal

/-- A field that the store sets by itself. -/
def Generated (field : String) : Prop := field = "id" ∨ field = "createdAt"

/-- The row holds the data of a create, apart from generated fields. -/
def Created (data row : Json) : Prop := ∀ field, ¬ Generated field → row.find? field = data.find? field

/-- The row is the old one with the data of an update over it. -/
def Updated (data old row : Json) : Prop :=
  ∀ field, ¬ Generated field → row.find? field = (data.find? field).or (old.find? field)

/-- An adapter that keeps rows. -/
structure RowStore {σ : Type} (A : Adapter σ) (κ : Type) where
  rows : σ → κ → Option Json
  /-- The rows at `begin`, while a transaction is open. -/
  saved : σ → Option (κ → Option Json)
  /-- The keys of the entity that a name stands for. -/
  named : String → κ → Prop
  /-- The keys that a name and an id stand for. -/
  addressed : String → String → κ → Prop
  named_of_addressed : ∀ {name id k}, addressed name id k → named name k
  read_rows : ∀ name id s, rows (A.read name id s).2 = rows s ∧ saved (A.read name id s).2 = saved s
  read_tenant : ∀ {name id s s' record k row}, A.read name id s = (.ok (.ok record), s') →
    addressed name id k → rows s k = some row → record.find? "tenantId" = row.find? "tenantId"
  list_rows : ∀ name options s,
    rows (A.list name options s).2 = rows s ∧ saved (A.list name options s).2 = saved s
  create_rows : ∀ name data s k, rows (A.create name data s).2 k = rows s k ∨
    named name k ∧ rows s k = none ∧
      ∃ row, rows (A.create name data s).2 k = some row ∧ Created data row
  update_rows : ∀ name id data s k, rows (A.update name id data s).2 k = rows s k ∨
    addressed name id k ∧ ∃ old row, rows s k = some old ∧
      rows (A.update name id data s).2 k = some row ∧ Updated data old row
  remove_rows : ∀ name id s k, rows (A.remove name id s).2 k = rows s k ∨
    addressed name id k ∧ rows (A.remove name id s).2 k = none
  create_saved : ∀ name data s, saved (A.create name data s).2 = saved s
  update_saved : ∀ name id data s, saved (A.update name id data s).2 = saved s
  remove_saved : ∀ name id s, saved (A.remove name id s).2 = saved s
  begin_rows : ∀ s, rows (A.beginTransaction s).2 = rows s ∧
    (saved (A.beginTransaction s).2 = saved s ∨ saved (A.beginTransaction s).2 = some (rows s))
  commit_rows : ∀ s, (rows (A.commitTransaction s).2 = rows s ∨
      saved s = some (rows (A.commitTransaction s).2)) ∧
    (saved (A.commitTransaction s).2 = saved s ∨ saved (A.commitTransaction s).2 = none)
  rollback_rows : ∀ s, (rows (A.rollbackTransaction s).2 = rows s ∨
      saved s = some (rows (A.rollbackTransaction s).2)) ∧
    (saved (A.rollbackTransaction s).2 = saved s ∨ saved (A.rollbackTransaction s).2 = none)

/-! ### The ideal store -/

namespace MapStore

theorem named_iff {entity id : String} {entry : Entry} :
    named entity id entry = true ↔ entry.entity = entity ∧ entry.id = id := by
  simp [named]

/-- An entry is named by one pair only. -/
theorem named_unique {entity id entity' id' : String} {entry : Entry}
    (h : named entity id entry = true) (h' : named entity' id' entry = true) :
    entity = entity' ∧ id = id' := by
  obtain ⟨rfl, rfl⟩ := named_iff.1 h
  exact named_iff.1 h'

theorem lookup_append (rows : List Entry) (entry : Entry) (entity id : String) :
    lookup (rows ++ [entry]) entity id =
      (lookup rows entity id).or (if named entity id entry then some entry.row else none) := by
  simp only [lookup, List.find?_append, List.find?_singleton]
  cases rows.find? (named entity id) with
  | some found => rfl
  | none => split_ifs <;> rfl

theorem lookup_change (rows : List Entry) (data : Json) (entity id entity' id' : String) :
    lookup (change (named entity id) data rows) entity' id' =
      if entity = entity' ∧ id = id' then (lookup rows entity' id').map fun row => merge row data
      else lookup rows entity' id' := by
  have hcomp : (named entity' id' ∘ fun entry : Entry =>
      if named entity id entry then { entry with row := merge entry.row data } else entry) =
      named entity' id' := by
    funext entry
    simp only [Function.comp]
    split_ifs <;> rfl
  simp only [lookup, change, List.find?_map, hcomp]
  cases hfind : rows.find? (named entity' id') with
  | none => simp
  | some entry =>
      have hentry : named entity' id' entry = true := List.find?_some hfind
      by_cases hkey : entity = entity' ∧ id = id'
      · obtain ⟨rfl, rfl⟩ := hkey
        simp [hentry]
      · have hother : ¬ named entity id entry = true := fun h => hkey (named_unique h hentry)
        simp [hkey, hother]

theorem lookup_erase (rows : List Entry) (entity id entity' id' : String) :
    lookup (rows.filter fun entry => !named entity id entry) entity' id' =
      if entity = entity' ∧ id = id' then none else lookup rows entity' id' := by
  simp only [lookup, List.find?_filter]
  by_cases hkey : entity = entity' ∧ id = id'
  · obtain ⟨rfl, rfl⟩ := hkey
    simp [List.find?_eq_none]
  · have hpred : (fun entry => (!named entity id entry) && named entity' id' entry) =
        named entity' id' := by
      funext entry
      cases hentry : named entity' id' entry with
      | false => simp
      | true =>
          have hother : ¬ named entity id entry = true := fun h => hkey (named_unique h hentry)
          simp [hother]
    simp [hkey, hpred]

theorem merge_updated (row data : Json) : Updated data row (merge row data) := by
  intro field _
  rw [merge, Json.find?_append, ← Json.find?_eq_members, ← Json.find?_eq_members]

theorem set_created (data : Json) (id : String) : Created data (data.set "id" (.str id)) := by
  intro field hfield
  have hid : field ≠ "id" := fun h => hfield (Or.inl h)
  cases data with
  | obj members =>
      rw [Json.find?_set_obj, if_neg hid.symm]
  | _ => simp [Json.set, Json.find?, Json.fields, hid.symm]

/-- The rows by their entity and id. -/
def byKey (rows : List Entry) : String × String → Option Json := fun k => lookup rows k.1 k.2

theorem insert_byKey (entity : String) (data : Json) (s : MapStore) (k : String × String) :
    byKey (insert entity data s).2.rows k = byKey s.rows k ∨
      k.1 = entity ∧ byKey s.rows k = none ∧
        ∃ row, byKey (insert entity data s).2.rows k = some row ∧ Created data row := by
  obtain ⟨name, id⟩ := k
  simp only [insert, byKey]
  split_ifs with htaken
  · exact Or.inl rfl
  · simp only [lookup_append]
    by_cases hkey : entity = name ∧ newId data s.nextId = id
    · obtain ⟨rfl, rfl⟩ := hkey
      rw [Option.not_isSome_iff_eq_none] at htaken
      exact Or.inr ⟨rfl, htaken, _, by simp [htaken, named],
        set_created data (newId data s.nextId)⟩
    · have hother : ¬ named name id ⟨entity, newId data s.nextId,
          data.set "id" (.str (newId data s.nextId))⟩ = true := by
        simpa [named] using hkey
      exact Or.inl (by simp [hother])

theorem modify_byKey (entity id : String) (data : Json) (s : MapStore) (k : String × String) :
    byKey (modify entity id data s).2.rows k = byKey s.rows k ∨
      k = (entity, id) ∧ ∃ old row, byKey s.rows k = some old ∧
        byKey (modify entity id data s).2.rows k = some row ∧ Updated data old row := by
  obtain ⟨name, i⟩ := k
  cases hrow : lookup s.rows entity id with
  | none => exact Or.inl (by simp [modify, hrow])
  | some row =>
      simp only [modify, hrow, byKey, lookup_change]
      split_ifs with hkey
      · obtain ⟨rfl, rfl⟩ := hkey
        exact Or.inr ⟨rfl, row, _, hrow, by simp [hrow], merge_updated row data⟩
      · exact Or.inl rfl

theorem erase_byKey (entity id : String) (s : MapStore) (k : String × String) :
    byKey (erase entity id s).2.rows k = byKey s.rows k ∨
      k = (entity, id) ∧ byKey (erase entity id s).2.rows k = none := by
  obtain ⟨name, i⟩ := k
  cases hrow : lookup s.rows entity id with
  | none => exact Or.inl (by simp [erase, hrow])
  | some row =>
      simp only [erase, hrow, byKey, lookup_erase]
      split_ifs with hkey
      · obtain ⟨rfl, rfl⟩ := hkey
        exact Or.inr ⟨rfl, rfl⟩
      · exact Or.inl rfl

variable (resolve : String → Option Adapters.EntitySchema)

/-- **The ideal store keeps rows.** -/
def rowStore : RowStore (adapter resolve) (String × String) where
  rows s := byKey s.rows
  saved s := s.saved.map byKey
  named name k := ∃ schema, resolve name = some schema ∧ k.1 = schema.name
  addressed name id k := ∃ schema, resolve name = some schema ∧ k = (schema.name, id)
  named_of_addressed := by
    rintro name id k ⟨schema, hschema, rfl⟩
    exact ⟨schema, hschema, rfl⟩
  read_rows := by
    intro name id s
    cases h : resolve name with
    | none => simp [adapter, withEntity, h]
    | some schema =>
        simp only [adapter, withEntity, h]
        split <;> exact ⟨rfl, rfl⟩
  read_tenant := by
    rintro name id s s' record k row hread ⟨schema, hschema, rfl⟩ hrow
    simp only [byKey] at hrow
    simp only [adapter, withEntity, hschema, hrow, Prod.mk.injEq, Except.ok.injEq] at hread
    rw [hread.1]
  list_rows := by
    intro name options s
    cases h : resolve name with
    | none => simp [adapter, withEntity, h]
    | some schema => simp [adapter, withEntity, h]
  create_rows := by
    intro name data s k
    cases h : resolve name with
    | none => exact Or.inl (by simp [adapter, withEntity, h])
    | some schema =>
        simp only [adapter, withEntity, h]
        rcases insert_byKey schema.name data s k with heq | ⟨hname, hnone, hrow⟩
        · exact Or.inl heq
        · exact Or.inr ⟨⟨schema, rfl, hname⟩, hnone, hrow⟩
  update_rows := by
    intro name id data s k
    cases h : resolve name with
    | none => exact Or.inl (by simp [adapter, withEntity, h])
    | some schema =>
        simp only [adapter, withEntity, h]
        rcases modify_byKey schema.name id data s k with heq | ⟨hkey, hrow⟩
        · exact Or.inl heq
        · exact Or.inr ⟨⟨schema, rfl, hkey⟩, hrow⟩
  remove_rows := by
    intro name id s k
    cases h : resolve name with
    | none => exact Or.inl (by simp [adapter, withEntity, h])
    | some schema =>
        simp only [adapter, withEntity, h]
        rcases erase_byKey schema.name id s k with heq | ⟨hkey, hnone⟩
        · exact Or.inl heq
        · exact Or.inr ⟨⟨schema, rfl, hkey⟩, hnone⟩
  create_saved name data s :=
    congrArg _ (withEntity_saved resolve (fun entity => insert_saved entity data) s)
  update_saved name id data s :=
    congrArg _ (withEntity_saved resolve (fun entity => modify_saved entity id data) s)
  remove_saved name id s :=
    congrArg _ (withEntity_saved resolve (fun entity => erase_saved entity id) s)
  begin_rows := by
    intro s
    cases h : s.saved <;> simp [adapter, h]
  commit_rows := by
    intro s
    cases h : s.saved <;> simp [adapter, h]
  rollback_rows := by
    intro s
    cases h : s.saved <;> simp [adapter, h]

end MapStore
end Dbal
