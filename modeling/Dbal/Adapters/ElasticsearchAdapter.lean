/-
# The Elasticsearch adapter

`src/adapters/elasticsearch`: an entity is an index under its name in lower case, a
record a document with the record as its `_source` and, as a rule, its `id` as its
`_id`.  A search is built from the options of a listing, a bulk call from the records
that a search has found.

The cluster behind the adapter is ideal: it holds every index in full, answers every
search over all of it and in a fixed order, and does what it is told.  When a member
satisfies a term, and what a partial update makes of a document, are parameters.
-/

import Mathlib.Data.List.Nodup
import Dbal.Adapters.RedisAdapter

namespace Dbal
namespace Adapters

/-! ### The cluster -/

/-- A document of an index. -/
structure EsDocument where
  id : String
  source : Json

/-- An index: its documents in the order in which a search meets them, one under an
`_id`. -/
structure EsIndex where
  docs : List EsDocument
  nodup : (docs.map EsDocument.id).Nodup

/-- The indices of a cluster. -/
abbrev EsCluster := String → EsIndex

namespace EsIndex

theorem ext {index index' : EsIndex} (h : index.docs = index'.docs) : index = index' := by
  cases index
  cases index'
  cases h
  rfl

/-- There is a document under `id`. -/
def has (index : EsIndex) (id : String) : Bool := index.docs.any fun doc => doc.id = id

/-- The index without the document under `id`. -/
def remove (index : EsIndex) (id : String) : EsIndex where
  docs := index.docs.filter fun doc => doc.id ≠ id
  nodup := index.nodup.sublist (List.filter_sublist.map _)

/-- The index with what stands under `id` changed. -/
def modify (index : EsIndex) (id : String) (f : Json → Json) : EsIndex where
  docs := index.docs.map fun doc => if doc.id = id then { doc with source := f doc.source } else doc
  nodup := by
    have hid : (EsDocument.id ∘ fun doc : EsDocument =>
        if doc.id = id then { doc with source := f doc.source } else doc) = EsDocument.id := by
      funext doc
      simp only [Function.comp]
      split <;> rfl
    rw [List.map_map, hid]
    exact index.nodup

/-- The index with a document under `id`: a new one comes last. -/
def put (index : EsIndex) (id : String) (source : Json) : EsIndex :=
  if h : index.has id then index.modify id fun _ => source
  else
    { docs := index.docs ++ [⟨id, source⟩]
      nodup := by
        rw [List.map_append, List.nodup_append]
        refine ⟨index.nodup, List.nodup_singleton _, ?_⟩
        rintro _ hmem _ hid rfl
        obtain ⟨doc, hdoc, rfl⟩ := List.mem_map.1 hmem
        exact h (List.any_eq_true.2 ⟨doc, hdoc, by simpa using List.mem_singleton.1 hid⟩) }

end EsIndex

/-- The query of a search. -/
inductive EsQuery where
  | matchAll
  | must (terms : List (String × Json))

/-- The body of a search. -/
structure EsSearch where
  query : EsQuery
  size : Int
  start : Int

/-- One action of a bulk call. -/
inductive EsAction where
  | update (index id : String) (doc : Json)
  | delete (index id : String)

/-- `ElasticsearchAdapter`: its schemas, and what the cluster makes of terms and of
partial updates. -/
structure ElasticsearchAdapter where
  schemas : String → Option EntityDefinition
  term : Json → Json → Bool
  merge : Json → Json → Json

namespace ElasticsearchAdapter

variable (A : ElasticsearchAdapter)

/-- Every term is satisfied by the member under its name. -/
def matchesTerms (terms : List (String × Json)) (source : Json) : Bool :=
  terms.all fun (key, value) => (source.find? key).any fun member => A.term member value

/-- The documents that a query selects. -/
def selects (query : EsQuery) (source : Json) : Bool :=
  match query with
  | .matchAll => true
  | .must terms => A.matchesTerms terms source

/-- `POST /<index>/_search`. -/
def search (body : EsSearch) (index : EsIndex) : Result (Nat × List EsDocument) :=
  if body.start < 0 then
    .error (.internal "Elasticsearch error (HTTP 400): [from] parameter cannot be negative")
  else
    let hits := index.docs.filter fun doc => A.selects body.query doc.source
    .ok (hits.length, (hits.drop body.start.toNat).take body.size.toNat)

/-- One action, with its status. -/
def act (cluster : EsCluster) : EsAction → Nat × EsCluster
  | .update index id doc =>
      if (cluster index).has id then
        (200, Function.update cluster index
          ((cluster index).modify id fun source => A.merge source doc))
      else (404, cluster)
  | .delete index id =>
      if (cluster index).has id then
        (200, Function.update cluster index ((cluster index).remove id))
      else (404, cluster)

/-- The actions of a bulk call, one after the other. -/
def actAll : List EsAction → EsCluster → List Nat × EsCluster
  | [], cluster => ([], cluster)
  | action :: actions, cluster =>
      let (status, cluster) := A.act cluster action
      let (statuses, cluster) := actAll actions cluster
      (status :: statuses, cluster)

/-- `POST /_bulk`; a call without a body is refused. -/
def bulk (actions : List EsAction) (cluster : EsCluster) : Result (List Nat) × EsCluster :=
  if actions = [] then
    (.error (.internal
      "Elasticsearch bulk request failed (HTTP 400): request body is required"), cluster)
  else (.ok (A.actAll actions cluster).1, (A.actAll actions cluster).2)

/-! ### The adapter -/

/-- `toIndexName`. -/
def toIndexName (entityName : String) : String := toLower entityName

/-- `buildSearchQuery`. -/
def buildSearchQuery (filter : Json) (limit start : Int) : EsSearch where
  query := if filter.isEmpty then .matchAll else .must filter.items
  size := limit
  start := start

/-- The legacy filter as JSON. -/
def filterJson (filter : Std.TreeMap String String) : Json :=
  .obj (filter.toList.map fun (key, value) => (key, .str value))

def schemaMissing (entityName : String) : Error :=
  .notFound ("Entity schema not found: " ++ entityName)

/-- `list`. -/
def list (entityName : String) (options : ListOptions) (cluster : EsCluster) :
    Result ListResult :=
  if (A.schemas entityName).isNone then .error (schemaMissing entityName)
  else
    let limit := if 0 < options.limit then options.limit else 100
    let start := options.page * limit
    match A.search (buildSearchQuery (filterJson options.filter) limit start)
        (cluster (toIndexName entityName)) with
    | .error e => .error e
    | .ok (total, hits) =>
        .ok { items := hits.map EsDocument.source, total, page := options.page, limit }

/-- `buildUpdateOperations`: a record without an `id` is passed over. -/
def buildUpdateOperations (indexName : String) (data : Json) :
    List Json → Except Thrown (List EsAction)
  | [] => .ok []
  | record :: records =>
      match record.find? "id" with
      | none => buildUpdateOperations indexName data records
      | some id => do
          let id ← id.getString.mapError .json
          let doc ← mergeInto record data
          return .update indexName id doc :: (← buildUpdateOperations indexName data records)

/-- `buildDeleteOperations`. -/
def buildDeleteOperations (indexName : String) : List Json → Except Thrown (List EsAction)
  | [] => .ok []
  | record :: records =>
      match record.find? "id" with
      | none => buildDeleteOperations indexName records
      | some id => do
          let id ← id.getString.mapError .json
          return .delete indexName id :: (← buildDeleteOperations indexName records)

/-- `countSuccesses`: the actions of a call are all of one kind. -/
def countSuccesses (statuses : List Nat) : Nat :=
  statuses.countP fun status => 200 ≤ status ∧ status < 300

/-- The loop that `updateMany` and `deleteMany` have in common: a page of records, the
actions made of them, and one bulk call. -/
def bulkOver (build : List Json → Except Thrown (List EsAction)) (entityName : String) :
    Act Thrown EsCluster (Result Int) := fun cluster =>
  match A.list entityName { limit := 10000 } cluster with
  | .error e => (.ok (.error e), cluster)
  | .ok found =>
      if found.items = [] then (.ok (.ok 0), cluster)
      else
        match build found.items with
        | .error e => (.error e, cluster)
        | .ok actions =>
            match A.bulk actions cluster with
            | (.error e, cluster) => (.ok (.error e), cluster)
            | (.ok statuses, cluster) => (.ok (.ok (countSuccesses statuses)), cluster)

/-- `updateMany`: the filter is not looked at. -/
def updateMany (entityName : String) (_filter data : Json) : Act Thrown EsCluster (Result Int) :=
  A.bulkOver (buildUpdateOperations (toIndexName entityName) data) entityName

/-- `deleteMany`: the filter is not looked at. -/
def deleteMany (entityName : String) (_filter : Json) : Act Thrown EsCluster (Result Int) :=
  A.bulkOver (buildDeleteOperations (toIndexName entityName)) entityName

/-- `findFirst`: the filter is not looked at. -/
def findFirst (entityName : String) (_filter : Json) (cluster : EsCluster) : Result Json :=
  match A.list entityName { limit := 1 } cluster with
  | .error e => .error e
  | .ok found =>
      match found.items with
      | [] => .error (.notFound "No matching record found")
      | record :: _ => .ok record

/-- `findByField`. -/
def findByField (entityName field : String) (value : Json) (cluster : EsCluster) : Result Json :=
  A.findFirst entityName (.obj [(field, value)]) cluster

end ElasticsearchAdapter

end Adapters
end Dbal
