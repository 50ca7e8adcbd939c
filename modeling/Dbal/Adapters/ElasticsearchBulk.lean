/-
# Bulk calls of the Elasticsearch adapter

`updateMany` and `deleteMany` list the documents with a limit of 10000 and act on what
they find.  Neither the filter nor the page of the listing is set: the search matches
everything, and the default page, 1, starts behind the first 10000 documents.  So they
act on the window of documents 10000 to 19999 of the index, whatever the filter says.

`deletesExactly_iff` and `updatesExactly_iff` say when this is what was asked for.
-/

import Dbal.Adapters.ElasticsearchAdapter
import Dbal.JsonReading

namespace Dbal
namespace Adapters
namespace ElasticsearchAdapter

variable (A : ElasticsearchAdapter)

/-! ### What is asked for -/

/-- A document satisfies a filter: every member of the filter is satisfied as a term. -/
def satisfies (filter : Json) (doc : EsDocument) : Bool := A.matchesTerms filter.items doc.source

/-- `deleteMany` does what its filter says: the matching documents are gone, everything else
is as it was, and the count is their number. -/
def DeletesExactly (entityName : String) (filter : Json) (cluster : EsCluster) : Prop :=
  ∃ count : Nat, ∃ cluster', A.deleteMany entityName filter cluster = (.ok (.ok count), cluster') ∧
    (∀ index ≠ toIndexName entityName, cluster' index = cluster index) ∧
    (cluster' (toIndexName entityName)).docs =
      (cluster (toIndexName entityName)).docs.filter (fun doc => !A.satisfies filter doc) ∧
    count = (cluster (toIndexName entityName)).docs.countP (A.satisfies filter)

/-- The source of a document with the data written into it. -/
def applied (data source : Json) : Json :=
  match mergeInto source data with
  | .ok doc => A.merge source doc
  | .error _ => source

/-- `updateMany` does what its filter says: the data is written into the matching documents,
everything else is as it was, and the count is their number. -/
def UpdatesExactly (entityName : String) (filter data : Json) (cluster : EsCluster) : Prop :=
  ∃ count : Nat, ∃ cluster',
    A.updateMany entityName filter data cluster = (.ok (.ok count), cluster') ∧
    (∀ index ≠ toIndexName entityName, cluster' index = cluster index) ∧
    (cluster' (toIndexName entityName)).docs =
      (cluster (toIndexName entityName)).docs.map (fun doc =>
        if A.satisfies filter doc then { doc with source := A.applied data doc.source } else doc) ∧
    count = (cluster (toIndexName entityName)).docs.countP (A.satisfies filter)

/-! ### What is done -/

/-- The records that the bulk calls of an entity work on. -/
def window (entityName : String) (cluster : EsCluster) : List Json :=
  ((cluster (toIndexName entityName)).docs.drop 10000 |>.take 10000).map EsDocument.source

theorem list_window {entityName : String} (h : (A.schemas entityName).isSome = true)
    (cluster : EsCluster) :
    ∃ total, A.list entityName { limit := 10000 } cluster =
      .ok { items := window entityName cluster, total, page := 1, limit := 10000 } := by
  refine ⟨((cluster (toIndexName entityName)).docs.length : Nat), ?_⟩
  unfold list search window
  rw [if_neg (by simpa [Option.isSome_iff_ne_none] using h)]
  simp [buildSearchQuery, filterJson, Json.isEmpty, selects]

/-- The bulk call over the window. -/
theorem bulkOver_eq {build : List Json → Except Thrown (List EsAction)} {entityName : String}
    (h : (A.schemas entityName).isSome = true) (cluster : EsCluster) :
    A.bulkOver build entityName cluster =
      if window entityName cluster = [] then (.ok (.ok 0), cluster)
      else
        match build (window entityName cluster) with
        | .error e => (.error e, cluster)
        | .ok [] => (.ok (.error (.internal
            "Elasticsearch bulk request failed (HTTP 400): request body is required")), cluster)
        | .ok actions =>
            (.ok (.ok (countSuccesses (A.actAll actions cluster).1)),
              (A.actAll actions cluster).2) := by
  obtain ⟨total, hlist⟩ := A.list_window h cluster
  unfold bulkOver
  rw [hlist]
  dsimp only
  split
  · rfl
  · cases build (window entityName cluster) with
    | error e => rfl
    | ok actions =>
        cases actions with
        | nil => rfl
        | cons action actions => rfl

theorem bulkOver_missing {build : List Json → Except Thrown (List EsAction)}
    {entityName : String} (h : (A.schemas entityName).isSome = false) (cluster : EsCluster) :
    A.bulkOver build entityName cluster = (.ok (.error (schemaMissing entityName)), cluster) := by
  have hnone : (A.schemas entityName).isNone = true := by simpa using h
  simp [bulkOver, list, hnone]

/-- The `id`s of the records that have one. -/
def idsOf (records : List Json) : List String :=
  records.filterMap fun record => (record.find? "id").map Json.text

theorem yields_buildDeleteOperations (indexName : String) (records : List Json) :
    Yields (buildDeleteOperations indexName records)
      (records.all fun record => record.memberIs Json.isString "id")
      (· = (idsOf records).map (EsAction.delete indexName)) := by
  induction records with
  | nil => exact Yields.ret [] rfl
  | cons record records ih =>
      unfold buildDeleteOperations idsOf
      rw [List.all_cons, List.filterMap_cons, Json.memberIs]
      cases hid : record.find? "id" with
      | none => simpa [idsOf] using ih
      | some id =>
          rw [Option.all_some]
          apply (Json.yields_getString id).mapError.bind
          rintro text rfl
          rw [← Bool.and_true (records.all _)]
          apply ih.bind
          rintro actions rfl
          exact Yields.ret _ rfl

/-- What can be written into a record: its members, or nothing at all. -/
def writable : Json → Bool
  | .null | .arr [] | .obj _ => true
  | _ => false

/-- The record with the data written into it. -/
def written (data record : Json) : Json := (mergeInto record data).toOption.getD record

theorem yields_mergeInto {record : Json} (h : record.isObject) (data : Json) :
    Yields (mergeInto record data) (writable data) (· = written data record) := by
  unfold written
  cases data with
  | null => exact Yields.ret record rfl
  | arr elements =>
      cases elements with
      | nil => exact Yields.ret record rfl
      | cons element elements => exact Yields.fail _
  | obj members =>
      obtain ⟨own, rfl⟩ := Json.exists_obj_of_isObject h
      rw [mergeInto_obj]
      exact Yields.ret _ rfl
  | _ => exact Yields.fail _

/-- The updates of a bulk call: the `id` of each record that has one, and what is written. -/
def writes (data : Json) (records : List Json) : List (String × Json) :=
  records.filterMap fun record => (record.find? "id").map fun id => (id.text, written data record)

theorem yields_buildUpdateOperations (indexName : String) (data : Json) (records : List Json) :
    Yields (buildUpdateOperations indexName data records)
      (records.all fun record => (record.find? "id").all fun id => id.isString && writable data)
      (· = (writes data records).map fun write => EsAction.update indexName write.1 write.2) := by
  induction records with
  | nil => exact Yields.ret [] rfl
  | cons record records ih =>
      unfold buildUpdateOperations writes
      rw [List.all_cons, List.filterMap_cons]
      cases hid : record.find? "id" with
      | none => simpa [writes] using ih
      | some id =>
          obtain ⟨members, rfl⟩ := Json.exists_obj_of_find? hid
          rw [Option.all_some, Bool.and_assoc]
          apply (Json.yields_getString id).mapError.bind
          rintro text rfl
          apply (yields_mergeInto rfl data).bind
          rintro doc rfl
          rw [← Bool.and_true (records.all _)]
          apply ih.bind
          rintro actions rfl
          exact Yields.ret _ rfl

/-! ### The actions on an index -/

namespace EsIndex

theorem has_modify (index : EsIndex) (id other : String) (f : Json → Json) :
    (index.modify id f).has other = index.has other := by
  unfold EsIndex.modify EsIndex.has
  rw [List.any_map]
  congr 1
  funext doc
  simp only [Function.comp]
  split <;> rfl

/-- An `_id` that is there stands for one document. -/
theorem countP_mem_cons (index : EsIndex) {id : String} (h : index.has id = true)
    (ids : List String) :
    index.docs.countP (fun doc => doc.id ∈ id :: ids) =
      (index.remove id).docs.countP (fun doc => doc.id ∈ ids) + 1 := by
  obtain ⟨doc, hdoc, hid⟩ := List.any_eq_true.1 h
  have hone : index.docs.countP (fun doc => doc.id = id) = 1 := by
    have hmem : id ∈ index.docs.map EsDocument.id :=
      List.mem_map.2 ⟨doc, hdoc, by simpa using hid⟩
    have hcount := List.count_eq_one_of_mem index.nodup hmem
    rw [List.count_eq_countP, List.countP_map] at hcount
    refine Eq.trans (List.countP_congr fun other _ => ?_) hcount
    simp
  rw [List.countP_eq_countP_filter_add index.docs (fun doc => doc.id ∈ id :: ids)
    fun doc => doc.id ≠ id, Nat.add_comm, Nat.add_comm _ 1, List.countP_filter, List.countP_filter,
    EsIndex.remove, List.countP_filter]
  congr 1
  · refine Eq.trans (List.countP_congr fun other _ => ?_) hone
    simp +contextual
  · refine List.countP_congr fun other _ => ?_
    simp +contextual

end EsIndex

/-- **Deletions.**  What is deleted is what stands under one of the `id`s, and every one that is
found counts once. -/
theorem actAll_delete (indexName : String) (ids : List String) (cluster : EsCluster) :
    (∀ index ≠ indexName, (A.actAll (ids.map (EsAction.delete indexName)) cluster).2 index =
      cluster index) ∧
    ((A.actAll (ids.map (EsAction.delete indexName)) cluster).2 indexName).docs =
      (cluster indexName).docs.filter (fun doc => doc.id ∉ ids) ∧
    countSuccesses (A.actAll (ids.map (EsAction.delete indexName)) cluster).1 =
      (cluster indexName).docs.countP fun doc => doc.id ∈ ids := by
  induction ids generalizing cluster with
  | nil => simp [actAll, countSuccesses]
  | cons id ids ih =>
      rw [List.map_cons, actAll]
      dsimp only
      by_cases hhas : (cluster indexName).has id = true
      · rw [show A.act cluster (.delete indexName id) = _ from if_pos hhas]
        obtain ⟨hframe, hdocs, hcount⟩ :=
          ih (Function.update cluster indexName ((cluster indexName).remove id))
        rw [Function.update_self] at hdocs hcount
        refine ⟨fun index hindex => ?_, ?_, ?_⟩
        · rw [hframe index hindex, Function.update_of_ne hindex]
        · rw [hdocs, EsIndex.remove, List.filter_filter]
          refine List.filter_congr fun doc _ => ?_
          simp [not_or, Bool.and_comm]
        · rw [countSuccesses, List.countP_cons, ← countSuccesses, hcount,
            EsIndex.countP_mem_cons (cluster indexName) hhas]
          simp
      · rw [show A.act cluster (.delete indexName id) = _ from if_neg hhas]
        have hother : ∀ doc ∈ (cluster indexName).docs, doc.id ≠ id := by
          intro doc hdoc rfl
          exact hhas (List.any_eq_true.2 ⟨doc, hdoc, by simp⟩)
        obtain ⟨hframe, hdocs, hcount⟩ := ih cluster
        refine ⟨hframe, ?_, ?_⟩
        · rw [hdocs]
          refine List.filter_congr fun doc hdoc => ?_
          simp [hother doc hdoc]
        · rw [countSuccesses, List.countP_cons, ← countSuccesses, hcount]
          refine (Nat.add_zero _).trans (List.countP_congr fun doc hdoc => ?_)
          simp [hother doc hdoc]

/-- What is written under an `id`, in order. -/
def writesTo (id : String) (writes : List (String × Json)) : List Json :=
  (writes.filter fun write => write.1 = id).map Prod.snd

/-- **Updates.**  Every document takes what is written under its `_id`, and every write to a
document that is there counts. -/
theorem actAll_update (indexName : String) (writes : List (String × Json))
    (cluster : EsCluster) :
    (∀ index ≠ indexName, (A.actAll (writes.map fun write =>
      EsAction.update indexName write.1 write.2) cluster).2 index = cluster index) ∧
    ((A.actAll (writes.map fun write =>
        EsAction.update indexName write.1 write.2) cluster).2 indexName).docs =
      (cluster indexName).docs.map (fun doc =>
        { doc with source := (writesTo doc.id writes).foldl A.merge doc.source }) ∧
    countSuccesses (A.actAll (writes.map fun write =>
        EsAction.update indexName write.1 write.2) cluster).1 =
      writes.countP fun write => (cluster indexName).has write.1 := by
  induction writes generalizing cluster with
  | nil => simp [actAll, countSuccesses, writesTo]
  | cons write writes ih =>
      obtain ⟨id, doc⟩ := write
      rw [List.map_cons, actAll]
      dsimp only
      by_cases hhas : (cluster indexName).has id = true
      · rw [show A.act cluster (.update indexName id doc) = _ from if_pos hhas]
        obtain ⟨hframe, hdocs, hcount⟩ := ih (Function.update cluster indexName
          ((cluster indexName).modify id fun source => A.merge source doc))
        rw [Function.update_self] at hdocs hcount
        refine ⟨fun index hindex => ?_, ?_, ?_⟩
        · rw [hframe index hindex, Function.update_of_ne hindex]
        · rw [hdocs, EsIndex.modify, List.map_map]
          refine List.map_congr_left fun other _ => ?_
          by_cases hid : other.id = id
          · simp [hid, writesTo]
          · simp [hid, writesTo, Ne.symm hid]
        · rw [countSuccesses, List.countP_cons, ← countSuccesses, hcount, List.countP_cons]
          simp [EsIndex.has_modify, hhas]
      · rw [show A.act cluster (.update indexName id doc) = _ from if_neg hhas]
        obtain ⟨hframe, hdocs, hcount⟩ := ih cluster
        refine ⟨hframe, ?_, ?_⟩
        · rw [hdocs]
          refine List.map_congr_left fun other hother => ?_
          have hid : id ≠ other.id := by
            rintro rfl
            exact hhas (List.any_eq_true.2 ⟨other, hother, by simp⟩)
          simp [writesTo, hid]
        · rw [countSuccesses, List.countP_cons, ← countSuccesses, hcount, List.countP_cons]
          simp [hhas]

/-! ### When it is what was asked for -/

theorem filter_eq_filter_iff {α : Type} {p q : α → Bool} {l : List α} :
    l.filter p = l.filter q ↔ ∀ a ∈ l, p a = q a := by
  refine ⟨fun h a ha => ?_, List.filter_congr⟩
  have hiff : a ∈ l.filter p ↔ a ∈ l.filter q := by rw [h]
  rw [List.mem_filter, List.mem_filter, and_iff_right ha, and_iff_right ha] at hiff
  exact Bool.eq_iff_iff.2 hiff

/-- The bulk call can be made: the entity has a schema, and unless the window is empty it has
an `id` in it. -/
def Callable (entityName : String) (cluster : EsCluster) : Prop :=
  (A.schemas entityName).isSome = true ∧
    (idsOf (window entityName cluster) = [] → window entityName cluster = [])

/-- The window names exactly the documents that satisfy the filter, each by an `id` that is a
string. -/
def WindowMatches (entityName : String) (filter : Json) (cluster : EsCluster) : Prop :=
  A.Callable entityName cluster ∧
    (∀ record ∈ window entityName cluster, record.memberIs Json.isString "id" = true) ∧
    ∀ doc ∈ (cluster (toIndexName entityName)).docs,
      (A.satisfies filter doc = true ↔ doc.id ∈ idsOf (window entityName cluster))

/-- The records of the window can be updated, and what is written under the `_id` of a document
is the data where it satisfies the filter, and changes nothing elsewhere. -/
def WindowWrites (entityName : String) (filter data : Json) (cluster : EsCluster) : Prop :=
  A.Callable entityName cluster ∧
    (∀ record ∈ window entityName cluster, ∀ id, record.find? "id" = some id →
      id.isString = true ∧ writable data = true) ∧
    (∀ doc ∈ (cluster (toIndexName entityName)).docs,
      (writesTo doc.id (writes data (window entityName cluster))).foldl A.merge doc.source =
        if A.satisfies filter doc then A.applied data doc.source else doc.source) ∧
    (writes data (window entityName cluster)).countP (fun write =>
        (cluster (toIndexName entityName)).has write.1) =
      (cluster (toIndexName entityName)).docs.countP (A.satisfies filter)

/-- The outcome of a bulk call, by what its actions do. -/
theorem bulkOver_cases {build : List Json → Except Thrown (List EsAction)} {entityName : String}
    {cluster cluster' : EsCluster} {count : Nat} {actions : List EsAction} {p : Bool}
    (hbuild : Yields (build (window entityName cluster)) p (· = actions))
    (hnil : actions = [] ↔ idsOf (window entityName cluster) = []) :
    A.bulkOver build entityName cluster = (.ok (.ok (count : Int)), cluster') ↔
      A.Callable entityName cluster ∧ (window entityName cluster ≠ [] → p = true) ∧
        countSuccesses (A.actAll actions cluster).1 = count ∧
        (A.actAll actions cluster).2 = cluster' := by
  cases hschema : (A.schemas entityName).isSome with
  | false =>
      rw [A.bulkOver_missing hschema]
      simp [Callable, hschema]
  | true =>
      rw [A.bulkOver_eq hschema]
      by_cases hwindow : window entityName cluster = []
      · have hactions : actions = [] := hnil.2 (by rw [hwindow]; rfl)
        rw [if_pos hwindow, hactions]
        simp [Callable, hschema, hwindow, actAll, countSuccesses]
        omega
      · rw [if_neg hwindow]
        cases p with
        | false =>
            obtain ⟨e, he⟩ := hbuild.2 rfl
            rw [he]
            simp [hwindow]
        | true =>
            obtain ⟨found, hok, hfound⟩ := hbuild.1 rfl
            rw [hok, hfound]
            cases hactions : actions with
            | nil => simp [Callable, hwindow, hnil.1 hactions]
            | cons action rest =>
                have hids : idsOf (window entityName cluster) ≠ [] := by
                  rw [ne_eq, ← hnil, hactions]
                  exact List.cons_ne_nil _ _
                simp only [Callable, hschema, hids, hwindow, ne_eq, not_false_eq_true, imp_self,
                  true_and, Prod.mk.injEq, Except.ok.injEq, Int.natCast_inj]

theorem deletesExactly_iff (entityName : String) (filter : Json) (cluster : EsCluster) :
    A.DeletesExactly entityName filter cluster ↔ A.WindowMatches entityName filter cluster := by
  have hbuild := yields_buildDeleteOperations (toIndexName entityName)
    (window entityName cluster)
  obtain ⟨hframe, hdocs, hcount⟩ := A.actAll_delete (toIndexName entityName)
    (idsOf (window entityName cluster)) cluster
  unfold DeletesExactly WindowMatches deleteMany
  simp only [A.bulkOver_cases hbuild (by simp)]
  constructor
  · rintro ⟨count, cluster', ⟨hcall, hread, hnum, rfl⟩, -, hdeleted, -⟩
    refine ⟨hcall, fun record hrecord => ?_, fun doc hdoc => ?_⟩
    · exact List.all_eq_true.1 (hread (List.ne_nil_of_mem hrecord)) record hrecord
    · have hkeep := filter_eq_filter_iff.1 (hdocs.symm.trans hdeleted) doc hdoc
      by_cases hmem : doc.id ∈ idsOf (window entityName cluster)
      · simp_all
      · simp_all
  · rintro ⟨hcall, hread, hmatch⟩
    refine ⟨_, _, ⟨hcall, fun _ => List.all_eq_true.2 hread, rfl, rfl⟩, hframe, ?_, ?_⟩
    · rw [hdocs]
      refine List.filter_congr fun doc hdoc => ?_
      rw [Bool.eq_iff_iff]
      simp [← hmatch doc hdoc]
    · rw [hcount]
      refine List.countP_congr fun doc hdoc => ?_
      simp [hmatch doc hdoc]

theorem updatesExactly_iff (entityName : String) (filter data : Json) (cluster : EsCluster) :
    A.UpdatesExactly entityName filter data cluster ↔
      A.WindowWrites entityName filter data cluster := by
  have hbuild := yields_buildUpdateOperations (toIndexName entityName) data
    (window entityName cluster)
  obtain ⟨hframe, hdocs, hcount⟩ := A.actAll_update (toIndexName entityName)
    (writes data (window entityName cluster)) cluster
  have hnil : (writes data (window entityName cluster)).map (fun write =>
      EsAction.update (toIndexName entityName) write.1 write.2) = [] ↔
        idsOf (window entityName cluster) = [] := by
    simp [writes, idsOf]
  have hread : (window entityName cluster).all (fun record =>
      (record.find? "id").all fun id => id.isString && writable data) = true ↔
        ∀ record ∈ window entityName cluster, ∀ id, record.find? "id" = some id →
          id.isString = true ∧ writable data = true := by
    simp [Option.all_eq_true]
  have hmap : (cluster (toIndexName entityName)).docs.map (fun doc =>
        if A.satisfies filter doc then { doc with source := A.applied data doc.source } else doc) =
      (cluster (toIndexName entityName)).docs.map fun doc =>
        ⟨doc.id, if A.satisfies filter doc then A.applied data doc.source else doc.source⟩ := by
    refine List.map_congr_left fun doc _ => ?_
    split <;> rfl
  unfold UpdatesExactly WindowWrites updateMany
  simp only [A.bulkOver_cases hbuild hnil, hread]
  constructor
  · rintro ⟨count, cluster', ⟨hcall, hread, hnum, rfl⟩, -, hwritten, hmatching⟩
    refine ⟨hcall, fun record hrecord => hread (List.ne_nil_of_mem hrecord) record hrecord,
      fun doc hdoc => ?_, ?_⟩
    · rw [hdocs, hmap] at hwritten
      have hdoc := List.map_inj_left.1 hwritten doc hdoc
      exact (EsDocument.mk.inj hdoc).2
    · rw [← hcount, hnum, hmatching]
  · rintro ⟨hcall, hread, hwritten, hmatching⟩
    refine ⟨_, _, ⟨hcall, fun _ => hread, rfl, rfl⟩, hframe, ?_, ?_⟩
    · rw [hdocs, hmap]
      refine List.map_congr_left fun doc hdoc => ?_
      rw [hwritten doc hdoc]
    · rw [hcount, hmatching]

/-- Every document stands under the `id` of its source, as `create` leaves it. -/
def Faithful (index : EsIndex) : Prop :=
  ∀ doc ∈ index.docs, doc.source.find? "id" = some (.str doc.id)

theorem mem_idsOf_window {entityName : String} {cluster : EsCluster}
    (h : Faithful (cluster (toIndexName entityName))) {i : Nat} {doc : EsDocument}
    (hi : (cluster (toIndexName entityName)).docs[i]? = some doc) :
    doc.id ∈ idsOf (window entityName cluster) ↔ 10000 ≤ i ∧ i < 20000 := by
  have hids : idsOf (window entityName cluster) =
      ((cluster (toIndexName entityName)).docs.map EsDocument.id |>.drop 10000 |>.take 10000) := by
    rw [← List.map_drop, ← List.map_take, idsOf, window, List.filterMap_map,
      ← List.filterMap_eq_map]
    refine List.filterMap_congr fun other hother => ?_
    have hmem := List.mem_of_mem_drop (List.mem_of_mem_take hother)
    simp [h other hmem, Json.text]
  have hid : ((cluster (toIndexName entityName)).docs.map EsDocument.id)[i]? = some doc.id := by
    rw [List.getElem?_map, hi]
    rfl
  rw [hids, List.mem_iff_getElem?]
  constructor
  · rintro ⟨j, hj⟩
    rw [List.getElem?_take, List.getElem?_drop] at hj
    split at hj
    · next hlt =>
        have hlen := (List.getElem?_eq_some_iff.1 hid).1
        have heq := (List.getElem?_inj hlen (cluster (toIndexName entityName)).nodup).1
          (hid.trans hj.symm)
        omega
    · cases hj
  · rintro ⟨hlow, hhigh⟩
    refine ⟨i - 10000, ?_⟩
    rw [List.getElem?_take, List.getElem?_drop, if_pos (by omega)]
    rwa [Nat.add_sub_cancel' hlow]

theorem id_of_mem_window {entityName : String} {cluster : EsCluster}
    (h : Faithful (cluster (toIndexName entityName))) {record : Json}
    (hrecord : record ∈ window entityName cluster) : ∃ id, record.find? "id" = some (.str id) := by
  obtain ⟨doc, hdoc, rfl⟩ := List.mem_map.1 hrecord
  exact ⟨doc.id, h doc (List.mem_of_mem_drop (List.mem_of_mem_take hdoc))⟩

theorem callable_of_faithful {entityName : String} {cluster : EsCluster}
    (h : Faithful (cluster (toIndexName entityName))) (hschema : (A.schemas entityName).isSome) :
    A.Callable entityName cluster := by
  refine ⟨hschema, fun hids => List.eq_nil_iff_forall_not_mem.2 fun record hrecord => ?_⟩
  obtain ⟨id, hid⟩ := id_of_mem_window h hrecord
  have hnone := List.filterMap_eq_nil_iff.1 hids record hrecord
  simp [hid] at hnone

/-- **On an index as `create` leaves it** the filter has to select the documents 10000 to 19999,
neither more nor less. -/
theorem deletesExactly_iff_of_faithful {entityName : String} (filter : Json) {cluster : EsCluster}
    (h : Faithful (cluster (toIndexName entityName))) (hschema : (A.schemas entityName).isSome) :
    A.DeletesExactly entityName filter cluster ↔
      ∀ (i : Nat) (doc : EsDocument), (cluster (toIndexName entityName)).docs[i]? = some doc →
        (A.satisfies filter doc = true ↔ 10000 ≤ i ∧ i < 20000) := by
  rw [A.deletesExactly_iff]
  constructor
  · rintro ⟨-, -, hmatch⟩ i doc hi
    rw [hmatch doc (List.mem_of_getElem? hi), mem_idsOf_window h hi]
  · intro hmatch
    refine ⟨A.callable_of_faithful h hschema, fun record hrecord => ?_, fun doc hdoc => ?_⟩
    · obtain ⟨id, hid⟩ := id_of_mem_window h hrecord
      simp [Json.memberIs, hid, Json.isString]
    · obtain ⟨i, hi⟩ := List.mem_iff_getElem?.1 hdoc
      rw [hmatch i doc hi, mem_idsOf_window h hi]

/-- Under one key there is one element. -/
theorem filter_key_eq {α κ : Type} [DecidableEq κ] {key : α → κ} {l : List α} {a : α}
    (hnodup : (l.map key).Nodup) (ha : a ∈ l) : l.filter (fun b => key b = key a) = [a] := by
  induction l with
  | nil => exact nomatch ha
  | cons b l ih =>
      obtain ⟨hb, hl⟩ := List.nodup_cons.1 hnodup
      rcases List.mem_cons.1 ha with rfl | ha
      · rw [List.filter_cons_of_pos (by simp), List.filter_eq_nil_iff.2]
        intro c hc heq
        exact hb (List.mem_map.2 ⟨c, hc, of_decide_eq_true heq⟩)
      · have hne : key b ≠ key a := fun heq => hb (List.mem_map.2 ⟨a, ha, heq.symm⟩)
        rw [List.filter_cons_of_neg (by simpa using hne), ih hl ha]

/-- On such an index every document of the window is written to, under its `_id`. -/
theorem writes_window (data : Json) {entityName : String} {cluster : EsCluster}
    (h : Faithful (cluster (toIndexName entityName))) :
    writes data (window entityName cluster) =
      ((cluster (toIndexName entityName)).docs.drop 10000 |>.take 10000).map fun doc =>
        (doc.id, written data doc.source) := by
  rw [writes, window, List.filterMap_map, ← List.filterMap_eq_map]
  refine List.filterMap_congr fun doc hdoc => ?_
  simp [h doc (List.mem_of_mem_drop (List.mem_of_mem_take hdoc)), Json.text]

/-- What is written under the `_id` of the document at a position. -/
theorem writesTo_window (data : Json) {entityName : String} {cluster : EsCluster}
    (h : Faithful (cluster (toIndexName entityName))) {i : Nat} {doc : EsDocument}
    (hi : (cluster (toIndexName entityName)).docs[i]? = some doc) :
    writesTo doc.id (writes data (window entityName cluster)) =
      if 10000 ≤ i ∧ i < 20000 then [written data doc.source] else [] := by
  have hmem := mem_idsOf_window h hi
  have hids : idsOf (window entityName cluster) =
      (writes data (window entityName cluster)).map Prod.fst := by
    rw [idsOf, writes, List.map_filterMap]
    refine List.filterMap_congr fun record _ => ?_
    cases record.find? "id" <;> rfl
  rw [hids, writes_window data h, List.map_map, List.mem_map] at hmem
  rw [writesTo, writes_window data h, List.filter_map, List.map_map]
  split_ifs with hin
  · obtain ⟨other, hother, heq⟩ := hmem.2 hin
    have hnodup := (cluster (toIndexName entityName)).nodup
    obtain rfl : other = doc :=
      List.inj_on_of_nodup_map hnodup (List.mem_of_mem_drop (List.mem_of_mem_take hother))
        (List.mem_of_getElem? hi) heq
    have hfilter := @filter_key_eq _ _ _ EsDocument.id _ _
      (hnodup.sublist (((List.take_sublist 10000 _).trans (List.drop_sublist 10000 _)).map _)) hother
    simpa [Function.comp_def] using congrArg (List.map fun doc : EsDocument =>
      written data doc.source) hfilter
  · rw [List.filter_eq_nil_iff.2 fun other hother heq =>
      hin (hmem.1 ⟨other, hother, by simpa using heq⟩)]
    rfl

/-- On such an index each read of the window has a text as its `id`, and there is one exactly if there
are more than 10000 documents. -/
theorem reads_iff_of_faithful (data : Json) {entityName : String} {cluster : EsCluster}
    (h : Faithful (cluster (toIndexName entityName))) :
    (∀ record ∈ window entityName cluster, ∀ id, record.find? "id" = some id →
        id.isString = true ∧ writable data = true) ↔
      (10000 < (cluster (toIndexName entityName)).docs.length → writable data = true) := by
  constructor
  · intro hread hlength
    have hmem : ((cluster (toIndexName entityName)).docs[10000]).source ∈
        window entityName cluster :=
      List.mem_map_of_mem (List.mem_of_getElem? (i := 0) (by simp [hlength]))
    exact (hread _ hmem _ (h _ (List.getElem_mem hlength))).2
  · intro hwritable record hrecord id hid
    obtain ⟨doc, hdoc, rfl⟩ := List.mem_map.1 hrecord
    have hlength := List.length_pos_of_mem (List.mem_of_mem_take hdoc)
    rw [h doc (List.mem_of_mem_drop (List.mem_of_mem_take hdoc))] at hid
    rw [List.length_drop] at hlength
    exact ⟨Option.some.inj hid ▸ rfl, hwritable (by omega)⟩

/-- Each write of the window goes to a document that is there. -/
theorem countP_writes_window (data : Json) {entityName : String} {cluster : EsCluster}
    (h : Faithful (cluster (toIndexName entityName))) :
    (writes data (window entityName cluster)).countP (fun write =>
        (cluster (toIndexName entityName)).has write.1) =
      min 10000 ((cluster (toIndexName entityName)).docs.length - 10000) := by
  rw [writes_window data h, List.countP_map, List.countP_eq_length.2, List.length_take,
    List.length_drop]
  intro doc hdoc
  exact List.any_eq_true.2 ⟨doc, List.mem_of_mem_drop (List.mem_of_mem_take hdoc), by simp⟩

/-- **On an index as `create` leaves it** `updateMany` has to find as many documents as the window
has, and where the filter and the positions 10000 to 19999 disagree about a document, the data has to leave
it as it is. -/
theorem updatesExactly_iff_of_faithful {entityName : String} (filter data : Json) {cluster : EsCluster}
    (h : Faithful (cluster (toIndexName entityName))) (hschema : (A.schemas entityName).isSome) :
    A.UpdatesExactly entityName filter data cluster ↔
      (10000 < (cluster (toIndexName entityName)).docs.length → writable data = true) ∧
      (∀ (i : Nat) (doc : EsDocument), (cluster (toIndexName entityName)).docs[i]? = some doc →
        (A.satisfies filter doc = true ↔ 10000 ≤ i ∧ i < 20000) ∨
          A.applied data doc.source = doc.source) ∧
      (cluster (toIndexName entityName)).docs.countP (A.satisfies filter) =
        min 10000 ((cluster (toIndexName entityName)).docs.length - 10000) := by
  rw [A.updatesExactly_iff, WindowWrites, and_iff_right (A.callable_of_faithful h hschema),
    reads_iff_of_faithful data h, countP_writes_window data h]
  refine and_congr_right fun hwritable => and_congr ?_ eq_comm
  have happlied : ∀ (i : Nat) (doc : EsDocument),
      (cluster (toIndexName entityName)).docs[i]? = some doc → 10000 ≤ i →
        A.merge doc.source (written data doc.source) = A.applied data doc.source := by
    intro i doc hi hle
    obtain ⟨members, hmembers⟩ := Json.exists_obj_of_find? (h doc (List.mem_of_getElem? hi))
    have hobject : doc.source.isObject = true := by rw [hmembers]; rfl
    have hlength := (List.getElem?_eq_some_iff.1 hi).1
    obtain ⟨merged, hok, rfl⟩ := (yields_mergeInto hobject data).1 (hwritable (by omega))
    rw [applied, hok]
  constructor
  · intro hwritten i doc hi
    have hdoc := hwritten doc (List.mem_of_getElem? hi)
    rw [writesTo_window data h hi] at hdoc
    by_cases hin : 10000 ≤ i ∧ i < 20000
    · rw [if_pos hin, List.foldl_cons, List.foldl_nil, happlied i doc hi hin.1] at hdoc
      cases hsat : A.satisfies filter doc with
      | false => exact .inr (by simpa [hsat] using hdoc)
      | true => exact .inl (by simp [hin])
    · rw [if_neg hin, List.foldl_nil] at hdoc
      cases hsat : A.satisfies filter doc with
      | false => exact .inl (by simpa using hin)
      | true => exact .inr (by simpa [hsat] using hdoc.symm)
  · intro hagree doc hdoc
    obtain ⟨i, hi⟩ := List.mem_iff_getElem?.1 hdoc
    rw [writesTo_window data h hi]
    by_cases hin : 10000 ≤ i ∧ i < 20000
    · rw [if_pos hin, List.foldl_cons, List.foldl_nil, happlied i doc hi hin.1]
      rcases hagree i doc hi with hiff | hsame
      · rw [if_pos (hiff.2 hin)]
      · rw [hsame, ite_self]
    · rw [if_neg hin, List.foldl_nil]
      rcases hagree i doc hi with hiff | hsame
      · rw [if_neg (mt hiff.1 hin)]
      · rw [hsame, ite_self]

/-- **The bulk calls.**  `deleteMany` and `updateMany` do what their filter says exactly when the
window of documents 10000 to 19999 is what the filter selects; on an index as `create` leaves it, this
is about the positions alone. -/
theorem bulk_exactly_iff (entityName : String) (filter data : Json) (cluster : EsCluster) :
    (A.DeletesExactly entityName filter cluster ↔ A.WindowMatches entityName filter cluster) ∧
      (A.UpdatesExactly entityName filter data cluster ↔
        A.WindowWrites entityName filter data cluster) ∧
      (Faithful (cluster (toIndexName entityName)) → (A.schemas entityName).isSome →
        (A.DeletesExactly entityName filter cluster ↔
          ∀ (i : Nat) (doc : EsDocument), (cluster (toIndexName entityName)).docs[i]? = some doc →
            (A.satisfies filter doc = true ↔ 10000 ≤ i ∧ i < 20000)) ∧
        (A.UpdatesExactly entityName filter data cluster ↔
          (10000 < (cluster (toIndexName entityName)).docs.length → writable data = true) ∧
          (∀ (i : Nat) (doc : EsDocument), (cluster (toIndexName entityName)).docs[i]? = some doc →
            (A.satisfies filter doc = true ↔ 10000 ≤ i ∧ i < 20000) ∨
              A.applied data doc.source = doc.source) ∧
          (cluster (toIndexName entityName)).docs.countP (A.satisfies filter) =
            min 10000 ((cluster (toIndexName entityName)).docs.length - 10000))) :=
  ⟨A.deletesExactly_iff entityName filter cluster, A.updatesExactly_iff entityName filter data cluster,
    fun h hschema => ⟨A.deletesExactly_iff_of_faithful filter h hschema,
      A.updatesExactly_iff_of_faithful filter data h hschema⟩⟩

/-- An adapter over a cluster whose terms compare texts. -/
def textual : ElasticsearchAdapter where
  schemas _ := some { name := "User" }
  term member value := member.isString && value.isString && member.text = value.text
  merge _ doc := doc

/-- One document of the entity `User`. -/
def oneUser : EsCluster := fun _ =>
  { docs := [⟨"u1", .obj [("id", .str "u1"), ("name", .str "ada")]⟩]
    nodup := List.nodup_singleton _ }

/-- **A matching document stays.**  The listing starts behind it. -/
theorem not_deletesExactly_oneUser :
    ¬ textual.DeletesExactly "User" (.obj [("name", .str "ada")]) oneUser := by
  rintro ⟨count, cluster', hrun, -, -, hcount⟩
  have hzero : (textual.deleteMany "User" (.obj [("name", .str "ada")]) oneUser).1 =
      .ok (.ok 0) := rfl
  have hone : (oneUser (toIndexName "User")).docs.countP
      (textual.satisfies (.obj [("name", .str "ada")])) = 1 := by decide +kernel
  rw [hrun, hcount, hone] at hzero
  exact absurd (Except.ok.inj (Except.ok.inj hzero)) (by decide)

end ElasticsearchAdapter

end Adapters
end Dbal
