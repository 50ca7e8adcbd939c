/-
# The ideal store keeps records under their ids

The calls of the ideal store, by the records that they may have changed (`MapStore.keyed`), and what
the single ones among them answer with (`MapStore.mirrorable`).  The id of a row is the one that it is
stored under, which a call that writes an id over it would spoil.
-/

import Dbal.Adapters.AdapterCalls
import Dbal.Store.RowStore

namespace Dbal
namespace MapStore

/-! ### Ids of rows -/

theorem find?_merge (row data : Json) (key : String) :
    (merge row data).find? key = (data.find? key).or (row.find? key) := by
  rw [merge, Json.find?_append, ← Json.find?_eq_members, ← Json.find?_eq_members]

theorem idFromRecord_eq {row : Json} {id : String} (h : row.find? "id" = some (.str id)) :
    idFromRecord row = id := by
  rw [idFromRecord, h]

section

variable (P : String → String → Prop)

/-- The calls that leave the ids of rows alone and name records with `P`. -/
def Serves : AdapterCall → Prop
  | .create entityName data => ∀ n, P entityName (newId data n)
  | .read entityName id => P entityName id
  | .update entityName id data => P entityName id ∧ data.find? "id" = none
  | .remove entityName id => P entityName id
  | .upsert entityName _ _ createData updateData =>
      (∀ n, P entityName (newId createData n)) ∧ updateData.find? "id" = none
  | .createMany entityName records => ∀ data ∈ records, ∀ n, P entityName (newId data n)
  | .updateMany _ _ data => data.find? "id" = none
  | _ => True

/-- Rows that have the ids they are stored under. -/
def IsValid (rows : List Entry) : Prop :=
  ∀ entry ∈ rows, entry.row.find? "id" = some (.str entry.id) ∧ P entry.entity entry.id

variable {P} {rows : List Entry} {entity id : String} {data : Json} {row : Json}

theorem IsValid.lookup (h : IsValid P rows) (hrow : lookup rows entity id = some row) :
    row.find? "id" = some (.str id) ∧ P entity id := by
  obtain ⟨entry, hentry, rfl⟩ := Option.map_eq_some_iff.1 hrow
  obtain ⟨rfl, rfl⟩ := named_iff.1 (List.find?_some hentry)
  exact h entry (List.mem_of_find?_eq_some hentry)

theorem IsValid.insert {s : MapStore} (h : IsValid P s.rows) (hid : ∀ n, P entity (newId data n)) :
    IsValid P (MapStore.insert entity data s).2.rows := by
  unfold MapStore.insert
  dsimp only
  split_ifs
  · exact h
  · intro entry hentry
    rcases List.mem_append.1 hentry with hentry | hentry
    · exact h entry hentry
    · obtain rfl := List.mem_singleton.1 hentry
      exact ⟨(Json.find?_set _ _ _ _).trans (if_pos rfl), hid _⟩

theorem IsValid.change (h : IsValid P rows) (hdata : data.find? "id" = none) (pick : Entry → Bool) :
    IsValid P (MapStore.change pick data rows) := by
  intro entry hentry
  obtain ⟨before, hbefore, rfl⟩ := List.mem_map.1 hentry
  obtain ⟨hid, hP⟩ := h before hbefore
  split_ifs
  · exact ⟨by rw [find?_merge, hdata, Option.none_or, hid], hP⟩
  · exact ⟨hid, hP⟩

theorem IsValid.filter (h : IsValid P rows) (keep : Entry → Bool) : IsValid P (rows.filter keep) :=
  fun entry hentry => h entry (List.mem_of_mem_filter hentry)

theorem IsValid.modify {s : MapStore} (h : IsValid P s.rows) (hdata : data.find? "id" = none) :
    IsValid P (MapStore.modify entity id data s).2.rows := by
  unfold MapStore.modify
  split
  · exact h
  · exact h.change hdata _

theorem IsValid.erase {s : MapStore} (h : IsValid P s.rows) :
    IsValid P (MapStore.erase entity id s).2.rows := by
  unfold MapStore.erase
  split
  · exact h
  · exact h.filter _

theorem IsValid.insertAll {s : MapStore} (h : IsValid P s.rows) {records : List Json}
    (hids : ∀ data ∈ records, ∀ n, P entity (newId data n)) (count : Int) :
    IsValid P (MapStore.insertAll entity records count s).2.rows := by
  induction records generalizing s count with
  | nil => exact h
  | cons data records ih =>
      have hfirst := h.insert (hids data List.mem_cons_self)
      have hrest := fun data' hdata => hids data' (List.mem_cons_of_mem data hdata)
      rw [MapStore.insertAll, Act.bind_apply]
      rcases hrun : MapStore.insert entity data s with ⟨e | e | stored, s'⟩ <;> rw [hrun] at hfirst
      · exact hfirst
      · exact hfirst
      · exact ih hfirst hrest (count + 1)

/-! ### Rows that stay -/

theorem lookup_insert_some {s : MapStore} {entity' id' : String}
    (h : lookup s.rows entity' id' = some row) :
    lookup (insert entity data s).2.rows entity' id' = some row := by
  unfold insert
  dsimp only
  split_ifs
  · exact h
  · rw [lookup_append, h, Option.some_or]

theorem lookup_insertAll_some {s : MapStore} {records : List Json} {entity' id' : String}
    (h : lookup s.rows entity' id' = some row) (count : Int) :
    lookup (insertAll entity records count s).2.rows entity' id' = some row := by
  induction records generalizing s count with
  | nil => exact h
  | cons data records ih =>
      have hfirst : lookup (insert entity data s).2.rows entity' id' = some row :=
        lookup_insert_some h
      rw [insertAll, Act.bind_apply]
      rcases hrun : insert entity data s with ⟨e | e | stored, s'⟩ <;> rw [hrun] at hfirst
      · exact hfirst
      · exact hfirst
      · exact ih hfirst (count + 1)

/-- Rows of other entities are not touched. -/
theorem lookup_change_other {pick : Entry → Bool} {entity' id' : String}
    (h : ∀ entry, pick entry = true → entry.entity ≠ entity') :
    lookup (change pick data rows) entity' id' = lookup rows entity' id' := by
  have hcomp : (named entity' id' ∘ fun entry : Entry =>
      if pick entry then { entry with row := merge entry.row data } else entry) =
      named entity' id' := by
    funext entry
    simp only [Function.comp]
    split_ifs <;> rfl
  simp only [lookup, change, List.find?_map, hcomp]
  cases hfind : rows.find? (named entity' id') with
  | none => rfl
  | some entry =>
      have hentry := named_iff.1 (List.find?_some hfind)
      have hpick : ¬ pick entry = true := fun hp => h entry hp hentry.1
      simp [hpick]

theorem lookup_filter_other {keep : Entry → Bool} {entity' id' : String}
    (h : ∀ entry, keep entry = false → entry.entity ≠ entity') :
    lookup (rows.filter keep) entity' id' = lookup rows entity' id' := by
  have hpred : (fun entry => decide (keep entry = true ∧ named entity' id' entry = true)) =
      named entity' id' := by
    funext entry
    rw [Bool.eq_iff_iff, decide_eq_true_eq]
    refine ⟨And.right, fun hn => ⟨?_, hn⟩⟩
    by_contra hkeep
    exact h entry (Bool.not_eq_true _ ▸ hkeep) (named_iff.1 hn).1
  simp only [lookup, List.find?_filter, hpred]

/-! ### The calls, by what they may have changed -/

/-- The record under a name and an id. -/
def recordOf (s : MapStore) (entityName id : String) : Result Json :=
  match lookup s.rows entityName id with
  | some row => .ok row
  | none => .error (Error.notFound (entityName ++ " not found"))

theorem recordOf_ok {s : MapStore} {entityName : String} :
    recordOf s entityName id = .ok row ↔ lookup s.rows entityName id = some row := by
  unfold recordOf
  cases lookup s.rows entityName id <;> simp

theorem recordOf_toOption (s : MapStore) (entityName id : String) :
    (recordOf s entityName id).toOption = lookup s.rows entityName id := by
  unfold recordOf
  cases lookup s.rows entityName id <;> rfl

/-- The rows, also those at `begin`, have their ids. -/
def Sound (P : String → String → Prop) (s : MapStore) : Prop :=
  IsValid P s.rows ∧ ∀ saved, s.saved = some saved → IsValid P saved

/-- A store without rows. -/
theorem Sound.start : Sound P {} :=
  ⟨fun _ hentry => absurd hentry List.not_mem_nil, fun _ hsaved => (nomatch hsaved)⟩

theorem insertAll_saved (entity : String) (records : List Json) (count : Int) (s : MapStore) :
    (insertAll entity records count s).2.saved = s.saved := by
  induction records generalizing s count with
  | nil => rfl
  | cons data records ih =>
      have hfirst := insert_saved entity data s
      rw [insertAll, Act.bind_apply]
      rcases hrun : insert entity data s with ⟨e | e | stored, s'⟩ <;> rw [hrun] at hfirst
      · exact hfirst
      · exact hfirst
      · exact (ih (count + 1) s').trans hfirst

/-- An upsert updates the row that it finds, or creates one. -/
theorem upsert_eq (entityName uniqueField : String) (uniqueValue createData updateData : Json)
    (s : MapStore) :
    (∃ entry ∈ s.rows, entry.entity = entityName ∧
        (adapter anyEntity).upsert entityName uniqueField uniqueValue createData updateData s =
          modify entityName entry.id updateData s) ∨
      (adapter anyEntity).upsert entityName uniqueField uniqueValue createData updateData s =
        insert entityName createData s := by
  simp only [adapter, withEntity, anyEntity]
  cases hfind : s.rows.find? (selects entityName (.obj [(uniqueField, uniqueValue)])) with
  | none => exact .inr rfl
  | some entry =>
      refine .inl ⟨entry, List.mem_of_find?_eq_some hfind, ?_, rfl⟩
      have hselects := List.find?_some hfind
      rw [selects, Bool.and_eq_true, decide_eq_true_eq] at hselects
      exact hselects.1

theorem Sound.perform {s : MapStore} (h : Sound P s) {call : AdapterCall} (hserves : Serves P call) :
    Sound P ((adapter anyEntity).perform call s).2 := by
  obtain ⟨hrows, hsaved⟩ := h
  cases call with
  | create entityName data =>
      rw [Adapter.perform, answered_snd]
      exact ⟨hrows.insert hserves, fun saved hs => hsaved saved
        ((insert_saved entityName data s).symm.trans hs)⟩
  | read entityName id =>
      rw [Adapter.perform, answered_snd]
      have hread : ((adapter anyEntity).read entityName id s).2 = s := by
        simp only [adapter, withEntity, anyEntity]
        split <;> rfl
      rw [hread]
      exact ⟨hrows, hsaved⟩
  | update entityName id data =>
      rw [Adapter.perform, answered_snd]
      exact ⟨hrows.modify hserves.2, fun saved hs => hsaved saved
        ((modify_saved entityName id data s).symm.trans hs)⟩
  | remove entityName id =>
      rw [Adapter.perform, answered_snd]
      exact ⟨hrows.erase, fun saved hs => hsaved saved
        ((erase_saved entityName id s).symm.trans hs)⟩
  | list entityName options =>
      rw [Adapter.perform, answered_snd]
      exact ⟨hrows, hsaved⟩
  | search entityName query limit =>
      rw [Adapter.perform, answered_snd]
      exact ⟨hrows, hsaved⟩
  | createMany entityName records =>
      rw [Adapter.perform, answered_snd]
      exact ⟨hrows.insertAll hserves 0, fun saved hs => hsaved saved
        ((insertAll_saved entityName records 0 s).symm.trans hs)⟩
  | updateMany entityName filter data =>
      rw [Adapter.perform, answered_snd]
      exact ⟨hrows.change hserves _, hsaved⟩
  | deleteMany entityName filter =>
      rw [Adapter.perform, answered_snd]
      exact ⟨hrows.filter _, hsaved⟩
  | upsert entityName uniqueField uniqueValue createData updateData =>
      rw [Adapter.perform, answered_snd]
      rcases upsert_eq entityName uniqueField uniqueValue createData updateData s with
        ⟨entry, hentry, -, hrun⟩ | hrun <;> rw [hrun]
      · exact ⟨hrows.modify hserves.2, fun saved hs => hsaved saved
          ((modify_saved entityName entry.id updateData s).symm.trans hs)⟩
      · exact ⟨hrows.insert hserves.1, fun saved hs => hsaved saved
          ((insert_saved entityName createData s).symm.trans hs)⟩
  | beginTransaction =>
      rw [Adapter.perform, answered_snd]
      cases hopen : s.saved with
      | none =>
          simp only [adapter, hopen]
          exact ⟨hrows, fun saved hs => Option.some.inj hs ▸ hrows⟩
      | some rows =>
          simp only [adapter, hopen]
          exact ⟨hrows, hsaved⟩
  | commitTransaction =>
      rw [Adapter.perform, answered_snd]
      cases hopen : s.saved with
      | none =>
          simp only [adapter, hopen]
          exact ⟨hrows, hsaved⟩
      | some rows =>
          simp only [adapter, hopen]
          exact ⟨hrows, fun saved hs => absurd hs.symm (Option.some_ne_none saved)⟩
  | rollbackTransaction =>
      rw [Adapter.perform, answered_snd]
      cases hopen : s.saved with
      | none =>
          simp only [adapter, hopen]
          exact ⟨hrows, hsaved⟩
      | some rows =>
          simp only [adapter, hopen]
          exact ⟨hsaved rows hopen, fun saved hs => absurd hs.symm (Option.some_ne_none saved)⟩

/-- A write of one record by its id. -/
theorem lookup_modify {s : MapStore} (hdata : data.find? "id" = none) (hvalid : IsValid P s.rows)
    (entity id entity' id' : String) :
    lookup (modify entity id data s).2.rows entity' id' =
        (if entity = entity' ∧ id = id' then
          (lookup s.rows entity' id').map fun row => merge row data
        else lookup s.rows entity' id') ∧
      ∀ stored, (modify entity id data s).1 = .ok (.ok stored) →
        idFromRecord stored = id ∧ P entity id ∧
          lookup (modify entity id data s).2.rows entity id = some stored := by
  unfold modify
  cases hrow : lookup s.rows entity id with
  | none =>
      refine ⟨?_, fun stored h => nomatch h⟩
      split_ifs with hkey
      · obtain ⟨rfl, rfl⟩ := hkey
        rw [hrow]
        rfl
      · rfl
  | some row =>
      refine ⟨lookup_change _ _ _ _ _ _, fun stored h => ?_⟩
      obtain rfl : merge row data = stored := Except.ok.inj (Except.ok.inj h)
      obtain ⟨hid, hP⟩ := hvalid.lookup hrow
      refine ⟨idFromRecord_eq (by rw [find?_merge, hdata, Option.none_or, hid]), hP, ?_⟩
      rw [lookup_change, if_pos ⟨rfl, rfl⟩, hrow]
      rfl

/-- A new row. -/
theorem lookup_insert {s : MapStore} (entity : String) (data : Json) (entity' id' : String) :
    (∀ stored, (insert entity data s).1 = .ok (.ok stored) →
        idFromRecord stored = newId data s.nextId ∧
          lookup (insert entity data s).2.rows entity' id' =
            if entity = entity' ∧ newId data s.nextId = id' then some stored
            else lookup s.rows entity' id') ∧
      ((∀ stored, (insert entity data s).1 ≠ .ok (.ok stored)) →
        (insert entity data s).2.rows = s.rows) := by
  cases hrow : lookup s.rows entity (newId data s.nextId) with
  | some row =>
      rw [insert_taken hrow]
      exact ⟨fun stored h => (nomatch h), fun _ => rfl⟩
  | none =>
      rw [insert_new hrow]
      refine ⟨fun stored h => ?_, fun h => absurd rfl (h _)⟩
      obtain rfl := Except.ok.inj (Except.ok.inj h)
      refine ⟨idFromRecord_eq ((Json.find?_set _ _ _ _).trans (if_pos rfl)), ?_⟩
      rw [lookup_append]
      split_ifs with hnamed hkey hkey
      · obtain ⟨rfl, rfl⟩ := hkey
        rw [hrow]
        rfl
      · exact absurd (named_iff.1 hnamed) hkey
      · exact absurd (named_iff.2 hkey) hnamed
      · exact Option.or_none

theorem lookup_erased (s : MapStore) (entity id entity' id' : String) :
    lookup (erase entity id s).2.rows entity' id' =
      if entity = entity' ∧ id = id' then none else lookup s.rows entity' id' := by
  unfold erase
  cases hrow : lookup s.rows entity id with
  | none =>
      split_ifs with hkey
      · obtain ⟨rfl, rfl⟩ := hkey
        exact hrow
      · rfl
  | some row => exact lookup_erase s.rows entity id entity' id'

section Single

variable {s : MapStore} {entity' id' : String}

theorem lookup_insert_outside (hid : ∀ n, newId data n ≠ "")
    (hscope : ∀ stored, (insert entity data s).1 = .ok (.ok stored) →
      ¬ (Scope.ofRecord entity (idFromRecord stored)).Covers entity' id') :
    lookup (insert entity data s).2.rows entity' id' = lookup s.rows entity' id' := by
  obtain ⟨hnew, hrefused⟩ := lookup_insert (s := s) entity data entity' id'
  by_cases hok : ∃ stored, (insert entity data s).1 = .ok (.ok stored)
  · obtain ⟨stored, hstored⟩ := hok
    obtain ⟨hkey, hlookup⟩ := hnew stored hstored
    rw [hlookup, if_neg]
    rintro ⟨rfl, rfl⟩
    exact hscope stored hstored (Scope.covers_ofRecord.2 ⟨hkey ▸ hid _, rfl, hkey⟩)
  · rw [hrefused fun stored hstored => hok ⟨stored, hstored⟩]

theorem lookup_modify_outside (hP : ∀ entityName id, P entityName id → id ≠ "")
    (hvalid : IsValid P s.rows) (hdata : data.find? "id" = none)
    (hscope : ∀ stored, (modify entity id data s).1 = .ok (.ok stored) →
      ¬ (Scope.ofRecord entity id).Covers entity' id') :
    lookup (modify entity id data s).2.rows entity' id' = lookup s.rows entity' id' := by
  cases hrow : lookup s.rows entity id with
  | none => rw [modify_missing data hrow]
  | some row =>
      have hmodify := modify_found data hrow
      obtain ⟨hlookup, -⟩ := lookup_modify hdata hvalid entity id entity' id'
      rw [hlookup, if_neg]
      rintro ⟨rfl, rfl⟩
      exact hscope _ (by rw [hmodify]) (Scope.covers_ofRecord.2
        ⟨hP _ _ (hvalid.lookup hrow).2, rfl, rfl⟩)

/-- **A single call changes no record outside of its scope.** -/
theorem lookup_perform_single (hP : ∀ entityName id, P entityName id → id ≠ "")
    (hvalid : IsValid P s.rows) {call : AdapterCall} (hserves : Serves P call)
    (hsingle : call.IsSingle)
    (hscope : ¬ (call.scope ((adapter anyEntity).perform call s).1).Covers entity' id') :
    lookup ((adapter anyEntity).perform call s).2.rows entity' id' = lookup s.rows entity' id' := by
  cases call with
  | createMany name records => exact hsingle.elim
  | updateMany name filter data => exact hsingle.elim
  | deleteMany name filter => exact hsingle.elim
  | rollbackTransaction => exact hsingle.elim
  | read name key =>
      rw [Adapter.perform, answered_snd]
      simp only [adapter, withEntity, anyEntity]
      split <;> rfl
  | list name options => rfl
  | search name query limit => rfl
  | beginTransaction =>
      rw [Adapter.perform, answered_snd]
      simp only [adapter]
      split <;> rfl
  | commitTransaction =>
      rw [Adapter.perform, answered_snd]
      simp only [adapter]
      split <;> rfl
  | create name data =>
      rw [Adapter.perform, answered_snd]
      refine lookup_insert_outside (fun n => hP _ _ (hserves n)) fun stored hstored => ?_
      have hanswer : ((adapter anyEntity).perform (.create name data) s).1 = .record (.ok stored) :=
        answered_fst _ hstored
      rwa [hanswer] at hscope
  | update name key data =>
      rw [Adapter.perform, answered_snd]
      refine lookup_modify_outside hP hvalid hserves.2 fun stored hstored => ?_
      have hanswer : ((adapter anyEntity).perform (.update name key data) s).1 =
          .record (.ok stored) := answered_fst _ hstored
      rwa [hanswer] at hscope
  | remove name key =>
      rw [Adapter.perform, answered_snd]
      refine (lookup_erased s name key entity' id').trans ?_
      split_ifs with hkey
      · obtain ⟨rfl, rfl⟩ := hkey
        cases hrow : lookup s.rows name key with
        | none => rfl
        | some row =>
            have hanswer : ((adapter anyEntity).perform (.remove name key) s).1 =
                .flag (.ok true) := answered_fst _ (congrArg Prod.fst (erase_found hrow))
            rw [hanswer] at hscope
            exact absurd (Scope.covers_ofRecord.2 ⟨hP _ _ hserves, rfl, rfl⟩) hscope
      · rfl
  | upsert name uniqueField uniqueValue createData updateData =>
      rw [Adapter.perform, answered_snd]
      rcases upsert_eq name uniqueField uniqueValue createData updateData s with
        ⟨entry, hentry, -, hrun⟩ | hrun <;> rw [hrun]
      · refine lookup_modify_outside hP hvalid hserves.2 fun stored hstored => ?_
        rw [Adapter.perform, hrun, answered_fst _ hstored] at hscope
        obtain ⟨-, hkey⟩ := lookup_modify hserves.2 hvalid name entry.id name entry.id
        rwa [AdapterCall.scope, (hkey stored hstored).1] at hscope
      · refine lookup_insert_outside (fun n => hP _ _ (hserves.1 n)) fun stored hstored => ?_
        rwa [Adapter.perform, hrun, answered_fst _ hstored] at hscope

/-- A bulk write changes no record that is there outside of its scope. -/
theorem lookup_perform_bulk {call : AdapterCall} (hbulk : ¬ call.IsSingle)
    (hscope : ¬ (call.scope ((adapter anyEntity).perform call s).1).Covers entity' id')
    (hrow : lookup s.rows entity' id' = some row) :
    lookup ((adapter anyEntity).perform call s).2.rows entity' id' = some row := by
  cases call with
  | createMany name records =>
      rw [Adapter.perform, answered_snd]
      exact lookup_insertAll_some hrow 0
  | updateMany name filter data =>
      rw [Adapter.perform, answered_snd]
      refine (lookup_change_other fun entry hpick hentity => hscope ?_).trans hrow
      rw [selects, Bool.and_eq_true, decide_eq_true_eq] at hpick
      exact hpick.1.symm.trans hentity
  | deleteMany name filter =>
      rw [Adapter.perform, answered_snd]
      refine (lookup_filter_other fun entry hpick hentity => hscope ?_).trans hrow
      rw [Bool.not_eq_false', selects, Bool.and_eq_true, decide_eq_true_eq] at hpick
      exact hpick.1.symm.trans hentity
  | rollbackTransaction => exact absurd trivial hscope
  | create name data => exact absurd trivial hbulk
  | read name key => exact absurd trivial hbulk
  | update name key data => exact absurd trivial hbulk
  | remove name key => exact absurd trivial hbulk
  | list name options => exact absurd trivial hbulk
  | search name query limit => exact absurd trivial hbulk
  | upsert name uniqueField uniqueValue createData updateData => exact absurd trivial hbulk
  | beginTransaction => exact absurd trivial hbulk
  | commitTransaction => exact absurd trivial hbulk

end Single

/-- The answer of an insert is stored under the id that it has. -/
theorem insert_stored {stored : Json} (h : (insert entity data s).1 = .ok (.ok stored)) :
    idFromRecord stored = newId data s.nextId ∧
      lookup (insert entity data s).2.rows entity (idFromRecord stored) = some stored := by
  obtain ⟨hkey, hlookup⟩ := (lookup_insert entity data entity (newId data s.nextId)).1 stored h
  exact ⟨hkey, by rw [hkey, hlookup, if_pos ⟨rfl, rfl⟩]⟩

/-- **The ideal store keeps records under their ids.** -/
def keyed (hP : ∀ entityName id, P entityName id → id ≠ "") :
    Keyed (adapter anyEntity) (Serves P) where
  Valid := Sound P
  record := recordOf
  valid := fun hmade hvalid => hvalid.perform hmade
  read_eq := by
    intro s entityName id _ _
    simp only [adapter, withEntity, anyEntity, recordOf]
    cases lookup s.rows entityName id <;> rfl
  keeps := by
    intro call s entityName id found hmade hvalid _ hscope hfound
    rw [recordOf_ok] at hfound ⊢
    by_cases hsingle : call.IsSingle
    · exact (lookup_perform_single hP hvalid.1 hmade hsingle hscope).trans hfound
    · exact lookup_perform_bulk hsingle hscope hfound

/-- A record that a call answers with is stored behind it. -/
theorem stored_perform {s : MapStore} (hP : ∀ entityName id, P entityName id → id ≠ "")
    (hvalid : IsValid P s.rows) {call : AdapterCall} (hserves : Serves P call)
    (hwrites : call.WritesRecord) {record : Json}
    (hanswer : ((adapter anyEntity).perform call s).1 = .record (.ok record)) :
    call.scope (.record (.ok record)) = .record call.entityName (idFromRecord record) ∧
      P call.entityName (idFromRecord record) ∧
      lookup ((adapter anyEntity).perform call s).2.rows call.entityName (idFromRecord record) =
        some record := by
  have hofRecord {name id : String} (h : P name id) : Scope.ofRecord name id = .record name id :=
    if_neg (hP _ _ h)
  cases call with
  | create name data =>
      obtain ⟨hkey, hlookup⟩ := insert_stored (answered_record.1 hanswer)
      have hnamed : P name (idFromRecord record) := hkey ▸ hserves _
      rw [Adapter.perform, answered_snd]
      exact ⟨hofRecord hnamed, hnamed, hlookup⟩
  | update name id data =>
      obtain ⟨-, hmodify⟩ := lookup_modify hserves.2 hvalid name id name id
      obtain ⟨rfl, hnamed, hlookup⟩ := hmodify record (answered_record.1 hanswer)
      rw [Adapter.perform, answered_snd]
      exact ⟨hofRecord hnamed, hnamed, hlookup⟩
  | upsert name uniqueField uniqueValue createData updateData =>
      rw [Adapter.perform, answered_snd]
      rw [Adapter.perform, answered_record] at hanswer
      rcases upsert_eq name uniqueField uniqueValue createData updateData s with
        ⟨entry, -, -, hrun⟩ | hrun <;> rw [hrun] at hanswer ⊢
      · obtain ⟨-, hmodify⟩ := lookup_modify hserves.2 hvalid name entry.id name entry.id
        obtain ⟨hkey, hnamed, hlookup⟩ := hmodify record hanswer
        rw [← hkey] at hnamed hlookup
        exact ⟨hofRecord hnamed, hnamed, hkey ▸ hlookup⟩
      · obtain ⟨hkey, hlookup⟩ := insert_stored hanswer
        have hnamed : P name (idFromRecord record) := hkey ▸ hserves.1 _
        exact ⟨hofRecord hnamed, hnamed, hlookup⟩
  | read name id => exact hwrites.elim
  | remove name id => exact hwrites.elim
  | list name options => exact hwrites.elim
  | search name query limit => exact hwrites.elim
  | createMany name records => exact hwrites.elim
  | updateMany name filter data => exact hwrites.elim
  | deleteMany name filter => exact hwrites.elim
  | beginTransaction => exact hwrites.elim
  | commitTransaction => exact hwrites.elim
  | rollbackTransaction => exact hwrites.elim

/-- **Its single calls can be mirrored.** -/
theorem mirrorable (hP : ∀ entityName id, P entityName id → id ≠ "") :
    Mirrorable (keyed hP) where
  others := by
    intro call s entityName id hmade hsingle hvalid _ hscope
    show (recordOf _ _ _).toOption = (recordOf _ _ _).toOption
    rw [recordOf_toOption, recordOf_toOption]
    exact lookup_perform_single hP hvalid.1 hmade hsingle hscope
  stored := by
    intro call s record hmade hwrites hvalid hanswer
    obtain ⟨hscope, hread, hstored⟩ := stored_perform hP hvalid.1 hmade hwrites hanswer
    exact ⟨hscope, hP _ _ hread, hread, recordOf_ok.2 hstored⟩
  removed := by
    intro entityName id s b hmade hvalid hanswer
    refine ⟨hP _ _ hmade, hmade, ?_⟩
    show (recordOf _ _ _).toOption = none
    rw [recordOf_toOption, Adapter.perform, answered_snd]
    exact (lookup_erased s entityName id entityName id).trans (if_pos ⟨rfl, rfl⟩)

end
end MapStore
end Dbal
