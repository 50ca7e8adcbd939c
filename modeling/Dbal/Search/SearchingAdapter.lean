/-
# `SearchingAdapter`

`src/search/searching_adapter.cpp`: an adapter that hands its calls on, mirrors the records of single
writes into an index of Elasticsearch, and answers a search from there.  Every request to the server
may fail, carried out or not; a failed mirror is swallowed, a failed search is not.

The index is refreshed with every write, so that a search sees what is mirrored.

Whatever becomes of the requests to Elasticsearch, the mirror does not show in any answer but that of a
search (`perform_handedOn`).  And where no request fails, every run of single writes keeps the index in
step with the store: a document for each record, and no others (`mirrored_run_agrees`).  So a search
answers with records that are stored (`search_finds_stored`).

An id that a path does not carry as it is would name another document, or none; bulk writes and
rollbacks are not mirrored.
-/

import Std.Data.TreeMap
import Dbal.Adapters.AdapterCalls
import Dbal.Codec.Search
import Dbal.JsonReading
import Dbal.Store.FaultyCalls
import Dbal.Store.KeyedMapStore
import Dbal.Store.SideBySide

namespace Dbal
namespace Search

open Codec Decorated

section Calls

/-! ### The index -/

/-- The documents under their ids. -/
abbrev Docs := Std.TreeMap String Json

/-- The index behind its client. -/
abbrev Index := Faulty Error Docs

/-- `documentId`. -/
def documentId (entityName id : String) : String := entityName ++ ":" ++ id

/-- A character that a path carries as it is. -/
def IsPathChar (c : Char) : Prop :=
  c.isAlphanum = true ∨ c = '-' ∨ c = '.' ∨ c = '_' ∨ c = '~' ∨ c = ':'

instance : DecidablePred IsPathChar := fun _ => inferInstanceAs (Decidable (_ ∨ _))

/-- The body of a search. -/
def searchBody (entityName query : String) (limit : Int) : Json :=
  .obj [("size", .int limit),
    ("query", .obj [("bool", .obj [
      ("filter", .arr [.obj [("term", .obj [("_entity.keyword", .str entityName)])]]),
      ("must", .arr [.obj [("multi_match", .obj [("query", .str query),
        ("type", .str "phrase_prefix"), ("lenient", .bool true)])]])])])]

/-- The hits in a response. -/
def hits (response : Json) : List Json :=
  match (response.find? "hits").bind (·.find? "hits") with
  | some (.arr hits) => hits
  | _ => []

/-- What was mirrored, of each hit that has it. -/
def sources (response : Json) : List Json := (hits response).filterMap (·.find? "_source")

/-- What the server does: which document a path names, if any, and how it answers a search.  It finds
documents of the index as it is then, every write having refreshed it, and only those that pass the
filter. -/
structure Server where
  docId : String → Option String
  docId_plain : ∀ {path}, (∀ c ∈ path.toList, IsPathChar c) → docId path = some path
  search : Docs → Json → Result Json
  search_finds : ∀ {docs entityName query limit response},
    search docs (searchBody entityName query limit) = .ok response →
      ∀ source ∈ sources response, source.find? "_entity" = some (.str entityName) ∧
        ∃ key : String, docs[key]? = some source

variable (server : Server)

/-- `put`. -/
def put (path : String) (doc : Json) : Act Error Index Unit :=
  Faulty.call fun docs =>
    match server.docId path with
    | some key => .ok ((), docs.insert key doc)
    | none => .error (.internal "Elasticsearch error")

/-- `deleteRequest`. -/
def deleteRequest (path : String) : Act Error Index Unit :=
  Faulty.call fun docs =>
    match server.docId path with
    | some key => if key ∈ docs then .ok ((), docs.erase key) else .error (.internal "Elasticsearch error")
    | none => .error (.internal "Elasticsearch error")

/-- `post`, of a search. -/
def post (body : Json) : Act Error Index Json :=
  Faulty.call fun docs => (server.search docs body).map fun response => (response, docs)

/-! ### The adapter -/

/-- The record with its entity. -/
def stamp (entityName : String) (record : Json) : Json := record.set "_entity" (.str entityName)

/-- `mirrorRecord`. -/
def mirrorRecord (entityName : String) (record : Json) : Act Error Index Unit :=
  if idFromRecord record = "" then pure ()
  else put server (documentId entityName (idFromRecord record)) (stamp entityName record)

/-- `mirrorDelete`. -/
def mirrorDelete (entityName id : String) : Act Error Index Unit :=
  deleteRequest server (documentId entityName id)

/-- The size of a page. -/
def pageSize (limit : Int) : Int :=
  let limit := if limit ≤ 0 then 20 else limit
  if 1000 < limit then 1000 else limit

/-- `erase("_entity")`, which throws where there are no members. -/
def withoutEntity : Json → Except Thrown Json
  | .obj members => .ok (.obj (members.filter fun member => member.1 ≠ "_entity"))
  | _ => .error (.adapter "[json.exception.type_error.307]")

/-- The number of all matches. -/
def totalOf (hits : Json) : Int :=
  match (hits.find? "total").bind (·.find? "value") with
  | some (.int i) => i.bmod (2 ^ 32)
  | some (.uint n) => (n : Int).bmod (2 ^ 32)
  | _ => 0

/-- What a response says. -/
def readHits (limit : Int) (response : Json) : Except Thrown ListResult :=
  match response.find? "hits" with
  | none => .ok { items := [], total := 0, page := 0, limit := 0 }
  | some found => do
      let items ← (sources response).mapM withoutEntity
      return { items, total := totalOf found, page := 0, limit }

namespace SearchingAdapter

variable {σ : Type} (inner : Adapter σ)

/-- `search`. -/
def search (entityName query : String) (limit : Int) :
    Act Thrown (Decorated σ Index) (Result ListResult) := do
  match ← attempt (post server (searchBody entityName query (pageSize limit))) with
  | .error e => return .error e
  | .ok response => do
      let result ← Act.ofExcept (readHits (pageSize limit) response)
      return .ok result

/-- `SearchingAdapter`. -/
def adapter : Adapter (Decorated σ Index) where
  create entityName data := delegate (inner.create entityName data) (mirrorRecord server entityName)
  read entityName id := onInner (inner.read entityName id)
  update entityName id data :=
    delegate (inner.update entityName id data) (mirrorRecord server entityName)
  remove entityName id := delegate (inner.remove entityName id) fun _ =>
    mirrorDelete server entityName id
  list entityName options := onInner (inner.list entityName options)
  search := search server
  createMany entityName records := onInner (inner.createMany entityName records)
  updateMany entityName filter data := onInner (inner.updateMany entityName filter data)
  deleteMany entityName filter := onInner (inner.deleteMany entityName filter)
  upsert entityName uniqueField uniqueValue createData updateData :=
    delegate (inner.upsert entityName uniqueField uniqueValue createData updateData)
      (mirrorRecord server entityName)
  getEntitySchema := inner.getEntitySchema
  beginTransaction := onInner inner.beginTransaction
  commitTransaction := onInner inner.commitTransaction
  rollbackTransaction := onInner inner.rollbackTransaction

end SearchingAdapter

end Calls

/-! ### Document ids -/

theorem documentId_toList (entityName id : String) :
    (documentId entityName id).toList = entityName.toList ++ ':' :: id.toList := by
  simp [documentId]

theorem documentId_inj {entityName id entityName' id' : String} (h : ':' ∉ entityName.toList)
    (h' : ':' ∉ entityName'.toList) (hdoc : documentId entityName id = documentId entityName' id') :
    entityName = entityName' ∧ id = id' := by
  have htext := congrArg String.toList hdoc
  rw [documentId_toList, documentId_toList] at htext
  obtain ⟨hname, hid⟩ := append_cons_inj h h' htext
  exact ⟨String.toList_inj.1 hname, String.toList_inj.1 hid⟩

/-! ### The mirror -/

section Mirror

variable {server : Server} {index : Index}

theorem put_faultless (h : index.Faultless) {path : String} (hpath : ∀ c ∈ path.toList, IsPathChar c)
    (doc : Json) :
    put server path doc index = (.ok (), ⟨index.state.insert path doc, index.faults.tail⟩) := by
  refine h.call_ok ?_
  rw [server.docId_plain hpath]

theorem mirrorRecord_docs (h : index.Faultless) {entityName : String} {record : Json}
    (hid : idFromRecord record ≠ "")
    (hpath : ∀ c ∈ (documentId entityName (idFromRecord record)).toList, IsPathChar c) (key : String) :
    (mirrorRecord server entityName record index).2.state[key]? =
      if documentId entityName (idFromRecord record) = key then some (stamp entityName record)
      else index.state[key]? := by
  rw [mirrorRecord, if_neg hid, put_faultless h hpath, Std.TreeMap.getElem?_insert]
  simp

theorem mirrorDelete_docs (h : index.Faultless) {entityName id : String}
    (hpath : ∀ c ∈ (documentId entityName id).toList, IsPathChar c) (key : String) :
    (mirrorDelete server entityName id index).2.state[key]? =
      if documentId entityName id = key then none else index.state[key]? := by
  have hdoc := server.docId_plain hpath
  unfold mirrorDelete deleteRequest
  by_cases hmem : documentId entityName id ∈ index.state
  · rw [h.call_ok (by simp only [hdoc, if_pos hmem]; rfl), Std.TreeMap.getElem?_erase]
    simp
  · rw [h.call_error (by simp only [hdoc, if_neg hmem]; rfl)]
    split_ifs with hkey
    · rw [← hkey]
      exact Std.TreeMap.getElem?_eq_none hmem
    · rfl

end Mirror

/-! ### The calls of the adapter -/

namespace SearchingAdapter

variable {server : Server} {σ : Type} {inner : Adapter σ}

/-- **Every call but a search is handed on**, whatever becomes of the mirror. -/
theorem perform_handedOn (server : Server) (inner : Adapter σ) {call : AdapterCall}
    (hsearch : ∀ entityName query limit, call ≠ .search entityName query limit)
    (s : Decorated σ Index) :
    HandedOn (inner.perform call s.inner) ((adapter server inner).perform call s) := by
  cases call with
  | search entityName query limit => exact absurd rfl (hsearch entityName query limit)
  | create entityName data => exact handedOn_delegate _ _ _ s
  | update entityName id data => exact handedOn_delegate _ _ _ s
  | remove entityName id => exact handedOn_delegate _ _ _ s
  | upsert entityName uniqueField uniqueValue createData updateData =>
      exact handedOn_delegate _ _ _ s
  | read entityName id => exact handedOn_onInner _ _ s
  | createMany entityName records => exact handedOn_onInner _ _ s
  | updateMany entityName filter data => exact handedOn_onInner _ _ s
  | deleteMany entityName filter => exact handedOn_onInner _ _ s
  | list entityName options => exact handedOn_onInner _ _ s
  | beginTransaction => exact handedOn_onInner _ _ s
  | commitTransaction => exact handedOn_onInner _ _ s
  | rollbackTransaction => exact handedOn_onInner _ _ s

/-- A search leaves the store and the documents alone. -/
theorem search_state (entityName query : String) (limit : Int) (s : Decorated σ Index) :
    (search server entityName query limit s).2.inner = s.inner ∧
      (search server entityName query limit s).2.outer.state = s.outer.state := by
  have hpost : (post server (searchBody entityName query (pageSize limit)) s.outer).2.state =
      s.outer.state := by
    refine Faulty.call_state fun response docs h => ?_
    cases hfound : server.search s.outer.state (searchBody entityName query (pageSize limit)) with
    | error e =>
        rw [hfound] at h
        cases h
    | ok found =>
        rw [hfound] at h
        exact (Prod.mk.inj (Except.ok.inj h)).2.symm
  unfold search
  rcases hrun : post server (searchBody entityName query (pageSize limit)) s.outer with
    ⟨e | response, outer⟩ <;> rw [hrun] at hpost <;>
    have houter : outer.state = s.outer.state := hpost
  · simp [Act.bind_apply, attempt, hrun, houter]
  · cases hread : readHits (pageSize limit) response <;>
      simp [Act.bind_apply, attempt, hrun, houter, hread]

/-- **What a single call does to the documents**: it mirrors the record that it wrote, or deletes the
one that it removed, or leaves them alone and has changed nothing. -/
theorem perform_docs (server : Server) {call : AdapterCall} (hsingle : call.IsSingle) (s : Decorated σ Index) :
    (∃ stored, call.WritesRecord ∧ (inner.perform call s.inner).1 = .record (.ok stored) ∧
        ((adapter server inner).perform call s).2.outer =
          (mirrorRecord server call.entityName stored s.outer).2) ∨
      (∃ entityName id b, call = .remove entityName id ∧
        (inner.perform call s.inner).1 = .flag (.ok b) ∧
        ((adapter server inner).perform call s).2.outer =
          (mirrorDelete server entityName id s.outer).2) ∨
      ((adapter server inner).perform call s).2.outer.state = s.outer.state ∧
        ((∃ entityName query limit, call = .search entityName query limit) ∨
          call.scope (inner.perform call s.inner).1 = .nothing) := by
  have hwrite {wrap : Result Json → AdapterAnswer} {write : Act Thrown σ (Result Json)}
      {after : Json → Act Error Index Unit} {stored : Json} {s' : σ}
      (h : write s.inner = (.ok (.ok stored), s')) :
      (answered wrap (delegate write after s)).2.outer = (after stored s.outer).2 := by
    rw [answered_snd]
    exact delegate_ok (by rw [h]) after
  have hfailed {α : Type} {wrap : Result α → AdapterAnswer} {write : Act Thrown σ (Result α)}
      (after : α → Act Error Index Unit) {call : AdapterCall}
      (h : ∀ a, (write s.inner).1 ≠ .ok (.ok a))
      (hscope : call.scope (answered wrap (write s.inner)).1 = .nothing) :
      (answered wrap (delegate write after s)).2.outer.state = s.outer.state ∧
        ((∃ entityName query limit, call = .search entityName query limit) ∨
          call.scope (answered wrap (write s.inner)).1 = .nothing) := by
    rw [answered_snd, delegate_not_ok h]
    exact ⟨rfl, .inr hscope⟩
  cases call with
  | createMany entityName records => exact hsingle.elim
  | updateMany entityName filter data => exact hsingle.elim
  | deleteMany entityName filter => exact hsingle.elim
  | rollbackTransaction => exact hsingle.elim
  | create entityName data =>
      rcases hcall : inner.create entityName data s.inner with ⟨_ | _ | stored, s'⟩
      · exact .inr (.inr (hfailed _ (by simp [hcall]) (by rw [hcall]; rfl)))
      · exact .inr (.inr (hfailed _ (by simp [hcall]) (by rw [hcall]; rfl)))
      · exact .inl ⟨stored, trivial, by simp [Adapter.perform, answered, hcall], hwrite hcall⟩
  | update entityName id data =>
      rcases hcall : inner.update entityName id data s.inner with ⟨_ | _ | stored, s'⟩
      · exact .inr (.inr (hfailed _ (by simp [hcall]) (by rw [hcall]; rfl)))
      · exact .inr (.inr (hfailed _ (by simp [hcall]) (by rw [hcall]; rfl)))
      · exact .inl ⟨stored, trivial, by simp [Adapter.perform, answered, hcall], hwrite hcall⟩
  | upsert entityName uniqueField uniqueValue createData updateData =>
      rcases hcall : inner.upsert entityName uniqueField uniqueValue createData updateData s.inner
        with ⟨_ | _ | stored, s'⟩
      · exact .inr (.inr (hfailed _ (by simp [hcall]) (by rw [hcall]; rfl)))
      · exact .inr (.inr (hfailed _ (by simp [hcall]) (by rw [hcall]; rfl)))
      · exact .inl ⟨stored, trivial, by simp [Adapter.perform, answered, hcall], hwrite hcall⟩
  | remove entityName id =>
      rcases hcall : inner.remove entityName id s.inner with ⟨_ | _ | b, s'⟩
      · exact .inr (.inr (hfailed _ (by simp [hcall]) (by rw [hcall]; rfl)))
      · exact .inr (.inr (hfailed _ (by simp [hcall]) (by rw [hcall]; rfl)))
      · refine .inr (.inl ⟨entityName, id, b, rfl, by simp [Adapter.perform, answered, hcall], ?_⟩)
        rw [Adapter.perform, answered_snd]
        exact delegate_ok (by rw [hcall]) _
  | search entityName query limit =>
      refine .inr (.inr ⟨?_, .inl ⟨entityName, query, limit, rfl⟩⟩)
      rw [Adapter.perform, answered_snd]
      exact (search_state entityName query limit s).2
  | read entityName id =>
      refine .inr (.inr ⟨?_, .inr rfl⟩)
      rw [Adapter.perform, answered_snd]
      rfl
  | list entityName options =>
      refine .inr (.inr ⟨?_, .inr rfl⟩)
      rw [Adapter.perform, answered_snd]
      rfl
  | beginTransaction =>
      refine .inr (.inr ⟨?_, .inr rfl⟩)
      rw [Adapter.perform, answered_snd]
      rfl
  | commitTransaction =>
      refine .inr (.inr ⟨?_, .inr rfl⟩)
      rw [Adapter.perform, answered_snd]
      rfl

/-! ### The index in step with the store -/

/-- The names and ids of the records make document ids that a path carries. -/
def IsPlainRecord (entityName id : String) : Prop :=
  ':' ∉ entityName.toList ∧ ∀ c ∈ (documentId entityName id).toList, IsPathChar c

variable {Made : AdapterCall → Prop} {keyed : Keyed inner Made}

/-- There is a document for each record, and no other. -/
structure Agrees (keyed : Keyed inner Made) (s : Decorated σ Index) : Prop where
  mirrored : ∀ {entityName id}, Made (.read entityName id) →
    s.outer.state[documentId entityName id]? =
      (keyed.record s.inner entityName id).toOption.map (stamp entityName)
  only : ∀ {key : String} {doc : Json}, s.outer.state[key]? = some doc →
    ∃ entityName id, Made (.read entityName id) ∧ key = documentId entityName id

/-- Nothing that the agreement is about has changed. -/
theorem Agrees.congr {s s' : Decorated σ Index} (h : Agrees keyed s) (hinner : s'.inner = s.inner)
    (hdocs : s'.outer.state = s.outer.state) : Agrees keyed s' := by
  refine ⟨fun hread => ?_, fun hdoc => ?_⟩
  · rw [hinner, hdocs]
    exact h.mirrored hread
  · rw [hdocs] at hdoc
    exact h.only hdoc

theorem perform_search_state (server : Server) (inner : Adapter σ) (entityName query : String) (limit : Int) (s : Decorated σ Index) :
    ((adapter server inner).perform (.search entityName query limit) s).2.inner = s.inner ∧
      ((adapter server inner).perform (.search entityName query limit) s).2.outer.state =
        s.outer.state := by
  rw [Adapter.perform, answered_snd]
  exact search_state entityName query limit s

/-- **A single call keeps the index in step with the store.** -/
theorem Agrees.step {s : Decorated σ Index} (h : Agrees keyed s) (hlaws : Mirrorable keyed)
    (hplain : ∀ entityName id, Made (.read entityName id) → IsPlainRecord entityName id)
    {call : AdapterCall} (hmade : Made call) (hsingle : call.IsSingle)
    (hsearch : ¬ ∃ entityName query limit, call = .search entityName query limit)
    (hvalid : keyed.Valid s.inner) (hfaults : s.outer.Faultless) :
    Agrees keyed ((adapter server inner).perform call s).2 := by
  have hon := perform_handedOn server inner
    (fun entityName query limit heq => hsearch ⟨entityName, query, limit, heq⟩) s
  rcases perform_docs server hsingle s with
    ⟨record, hwrites, hanswer, houter⟩ | ⟨entityName, id, b, rfl, hanswer, houter⟩ | ⟨hdocs, hscope⟩
  · obtain ⟨hscope, hid, hread, hstored⟩ := hlaws.stored hmade hwrites hvalid hanswer
    obtain ⟨hname, hpath⟩ := hplain _ _ hread
    refine ⟨fun {name key} hmade' => ?_, fun {key doc} hdoc => ?_⟩
    · rw [houter, mirrorRecord_docs hfaults hid hpath, hon.inner]
      split_ifs with hkey
      · obtain ⟨rfl, rfl⟩ := documentId_inj hname (hplain _ _ hmade').1 hkey
        rw [hstored]
        rfl
      · rw [h.mirrored hmade', hlaws.others hmade hsingle hvalid hmade' ?_]
        rw [hanswer, hscope]
        rintro ⟨rfl, rfl⟩
        exact hkey rfl
    · rw [houter, mirrorRecord_docs hfaults hid hpath] at hdoc
      split_ifs at hdoc with hkey
      · exact ⟨_, _, hread, hkey.symm⟩
      · exact h.only hdoc
  · obtain ⟨hid, hread, hgone⟩ := hlaws.removed hmade hvalid hanswer
    obtain ⟨hname, hpath⟩ := hplain _ _ hread
    refine ⟨fun {name key} hmade' => ?_, fun {key doc} hdoc => ?_⟩
    · rw [houter, mirrorDelete_docs hfaults hpath, hon.inner]
      split_ifs with hkey
      · obtain ⟨rfl, rfl⟩ := documentId_inj hname (hplain _ _ hmade').1 hkey
        rw [hgone]
        rfl
      · rw [h.mirrored hmade', hlaws.others hmade hsingle hvalid hmade' ?_]
        rw [hanswer, AdapterCall.scope, Scope.covers_ofRecord]
        rintro ⟨-, rfl, rfl⟩
        exact hkey rfl
    · rw [houter, mirrorDelete_docs hfaults hpath] at hdoc
      split_ifs at hdoc
      exact h.only hdoc
  · have hnothing := hscope.resolve_left hsearch
    refine ⟨fun {name key} hmade' => ?_, fun {key doc} hdoc => ?_⟩
    · rw [hdocs, hon.inner, h.mirrored hmade', hlaws.others hmade hsingle hvalid hmade' ?_]
      rw [hnothing]
      exact id
    · rw [hdocs] at hdoc
      exact h.only hdoc

/-! ### Runs -/

/-- Calls, one after the other; what happens to the requests of each is said beside it. -/
def run (server : Server) (inner : Adapter σ) :
    List (List (Option (Faulty.Fault Error)) × AdapterCall) → Decorated σ Index →
      List AdapterAnswer × Decorated σ Index
  | [], s => ([], s)
  | (faults, call) :: steps, s =>
      let done := (adapter server inner).perform call ⟨s.inner, ⟨s.outer.state, faults⟩⟩
      let rest := run server inner steps done.2
      (done.1 :: rest.1, rest.2)

/-- A single call whose requests all get through, or a search. -/
def SafeStep (step : List (Option (Faulty.Fault Error)) × AdapterCall) : Prop :=
  (∃ entityName query limit, step.2 = .search entityName query limit) ∨
    step.2.IsSingle ∧ ∀ fault ∈ step.1, fault = none

/-- **Every run of single calls keeps the index in step with the store**, if no request of a mirror
fails. -/
theorem Agrees.run {s : Decorated σ Index} (h : Agrees keyed s) (hlaws : Mirrorable keyed)
    (hplain : ∀ entityName id, Made (.read entityName id) → IsPlainRecord entityName id)
    (hvalid : keyed.Valid s.inner)
    {steps : List (List (Option (Faulty.Fault Error)) × AdapterCall)}
    (hsteps : ∀ step ∈ steps, Made step.2 ∧ SafeStep step) :
    Agrees keyed (SearchingAdapter.run server inner steps s).2 ∧
      keyed.Valid (SearchingAdapter.run server inner steps s).2.inner := by
  induction steps generalizing s with
  | nil => exact ⟨h, hvalid⟩
  | cons step steps ih =>
      obtain ⟨faults, call⟩ := step
      obtain ⟨hmade, hsafe⟩ := hsteps _ List.mem_cons_self
      have hrest := fun step hstep => hsteps step (List.mem_cons_of_mem _ hstep)
      have hstart : Agrees keyed ⟨s.inner, ⟨s.outer.state, faults⟩⟩ := h.congr rfl rfl
      by_cases hsearch : ∃ entityName query limit, call = .search entityName query limit
      · obtain ⟨entityName, query, limit, rfl⟩ := hsearch
        obtain ⟨hinner, hdocs⟩ := perform_search_state server inner entityName
          query limit ⟨s.inner, ⟨s.outer.state, faults⟩⟩
        exact ih (hstart.congr hinner hdocs) (by rw [hinner]; exact hvalid) hrest
      · obtain ⟨hsingle, hfaults⟩ := hsafe.resolve_left hsearch
        have hon := perform_handedOn server inner
          (fun entityName query limit heq => hsearch ⟨entityName, query, limit, heq⟩)
          ⟨s.inner, ⟨s.outer.state, faults⟩⟩
        refine ih (hstart.step hlaws hplain hmade hsingle hsearch hvalid hfaults) ?_ hrest
        rw [hon.inner]
        exact keyed.valid hmade hvalid

/-- An empty index agrees with a store without records. -/
theorem Agrees.start {s : σ} (hempty : ∀ entityName id, (keyed.record s entityName id).toOption = none) :
    Agrees keyed ⟨s, ⟨∅, []⟩⟩ := by
  refine ⟨fun _ => ?_, fun hdoc => ?_⟩
  · rw [hempty, Std.TreeMap.getElem?_emptyc]
    rfl
  · rw [Std.TreeMap.getElem?_emptyc] at hdoc
    cases hdoc

/-- The entity that a search filters by. -/
def filteredEntity (body : Json) : Option Json := do
  let found ← (← body.find? "query").find? "bool"
  match ← found.find? "filter" with
  | .arr (clause :: _) => (← clause.find? "term").find? "_entity.keyword"
  | _ => none

theorem filteredEntity_searchBody (entityName query : String) (limit : Int) :
    filteredEntity (searchBody entityName query limit) = some (.str entityName) := rfl

/-- A response with these documents. -/
def responseOf (docs : List Json) : Json :=
  .obj [("hits", .obj [("hits", .arr (docs.map fun doc => .obj [("_source", doc)]))])]

theorem sources_responseOf (docs : List Json) : sources (responseOf docs) = docs := by
  have hhits : hits (responseOf docs) = docs.map fun doc => .obj [("_source", doc)] := rfl
  rw [sources, hhits, List.filterMap_map]
  exact List.filterMap_some

/-- A server that finds every document of the entity. -/
def entityServer : Server where
  docId path := if path.toList.all fun c => decide (IsPathChar c) then some path else none
  docId_plain := fun h => if_pos (List.all_eq_true.2 fun c hc => decide_eq_true (h c hc))
  search docs body := .ok (responseOf
    ((docs.toList.filter fun entry => entry.2.find? "_entity" == filteredEntity body).map Prod.snd))
  search_finds := by
    intro docs entityName query limit response hresponse source hsource
    obtain rfl := Except.ok.inj hresponse
    rw [sources_responseOf, List.mem_map] at hsource
    obtain ⟨⟨key, doc⟩, hmem, rfl⟩ := hsource
    rw [List.mem_filter, filteredEntity_searchBody] at hmem
    exact ⟨Json.beq_some_str_iff.1 hmem.2, key, Std.TreeMap.mem_toList_iff_getElem?_eq_some.1 hmem.1⟩

/-- A record that is created, looked for and removed, and one that stays. -/
def sampleSteps : List (List (Option (Faulty.Fault Error)) × AdapterCall) :=
  [([], .create "user" (.obj [("id", .str "u1"), ("name", .str "ada")])),
    ([some (.refused (.internal "timeout"))], .search "user" "ada" 0),
    ([], .create "user" (.obj [("id", .str "u2"), ("name", .str "ada")])), ([], .remove "user" "u1")]

/-- The records that the sample is about. -/
def IsSampled (entityName id : String) : Prop := id ≠ "" ∧ IsPlainRecord entityName id

theorem sampleSteps_safe :
    ∀ step ∈ sampleSteps, MapStore.Serves IsSampled step.2 ∧ SafeStep step := by
  have hrecord {id : String} (h : id = "u1" ∨ id = "u2") : IsSampled "user" id := by
    rcases h with rfl | rfl
    · exact ⟨by decide, by decide, forall_mem_of_all (p := IsPathChar) (by decide)⟩
    · exact ⟨by decide, by decide, forall_mem_of_all (p := IsPathChar) (by decide)⟩
  rw [sampleSteps, List.forall_mem_cons, List.forall_mem_cons, List.forall_mem_cons,
    List.forall_mem_singleton]
  exact ⟨⟨fun _ => hrecord (.inl rfl), .inr ⟨trivial, nofun⟩⟩,
    ⟨trivial, .inl ⟨_, _, _, rfl⟩⟩, ⟨fun _ => hrecord (.inr rfl), .inr ⟨trivial, nofun⟩⟩,
    ⟨hrecord (.inl rfl), .inr ⟨trivial, nofun⟩⟩⟩

/-- The members of an object without one of them. -/
theorem find?_without (members : List (String × Json)) (name field : String) :
    (Json.obj (members.filter fun member => member.1 ≠ name)).find? field =
      if field = name then none else (Json.obj members).find? field := by
  induction members using List.reverseRecOn with
  | nil => simp [Json.find?, Json.fields]
  | append_singleton members member ih =>
      obtain ⟨key, value⟩ := member
      have hset := Json.find?_set_obj members key field value
      rw [Json.set] at hset
      rw [hset, List.filter_append, List.filter_singleton]
      by_cases hkey : key = name
      · subst hkey
        simp only [ne_eq, not_true_eq_false, decide_false, cond_false, List.append_nil, ih]
        split_ifs with hfield hkey <;> simp_all
      · have hset' := Json.find?_set_obj (members.filter fun member => member.1 ≠ name) key field value
        rw [Json.set] at hset'
        simp only [hkey, ne_eq, not_false_eq_true, decide_true, cond_true]
        rw [hset', ih]
        split_ifs with hfield hname <;> simp_all

theorem stamp_eq (entityName : String) (record : Json) :
    stamp entityName record = .obj (record.members ++ [("_entity", .str entityName)]) := by
  cases record <;> rfl

theorem find?_stamp (entityName : String) (record : Json) (field : String) :
    (stamp entityName record).find? field =
      if field = "_entity" then some (.str entityName) else record.find? field := by
  have hset := Json.find?_set_obj record.members "_entity" field (.str entityName)
  rw [Json.set] at hset
  rw [stamp_eq, hset, ← Json.find?_eq_members]
  simp only [eq_comm]

/-- What a search gives back of a record that was mirrored. -/
theorem find?_of_withoutEntity {entityName : String} {record item : Json}
    (h : withoutEntity (stamp entityName record) = .ok item) (field : String) :
    item.find? field = if field = "_entity" then none else record.find? field := by
  have hitem : item = .obj ((stamp entityName record).members.filter fun member =>
      member.1 ≠ "_entity") := by
    rw [stamp_eq] at h ⊢
    exact (Except.ok.inj h).symm
  rw [hitem, find?_without, ← Json.find?_eq_members, find?_stamp]
  split_ifs <;> rfl

/-- The items of a response come from its sources. -/
theorem exists_source {limit : Int} {response : Json} {result : ListResult}
    (h : readHits limit response = .ok result) {item : Json} (hitem : item ∈ result.items) :
    ∃ source ∈ sources response, withoutEntity source = .ok item := by
  unfold readHits at h
  split at h
  · cases h
    exact absurd hitem List.not_mem_nil
  · rcases hitems : (sources response).mapM withoutEntity with e | items
    · rw [hitems] at h
      cases h
    · rw [hitems] at h
      obtain rfl := Except.ok.inj h
      obtain ⟨source, hmem, hsource⟩ :=
        Store.exists_of_forall₂_right (Store.forall₂_of_mapM hitems) hitem
      exact ⟨source, hmem, hsource⟩

/-- A search that is answered read a response of the server. -/
theorem exists_response {entityName query : String} {limit : Int} {s : Decorated σ Index}
    {result : ListResult}
    (h : ((adapter server inner).perform (.search entityName query limit) s).1 =
      .listed (.ok result)) :
    ∃ response, server.search s.outer.state (searchBody entityName query (pageSize limit)) =
        .ok response ∧ readHits (pageSize limit) response = .ok result := by
  have hsearch : (answered .listed (search server entityName query limit s)).1 =
      .listed (.ok result) := h
  have hrun : (search server entityName query limit s).1 = .ok (.ok result) := by
    rcases hcall : search server entityName query limit s with ⟨e | r, s'⟩ <;>
      rw [hcall] at hsearch <;> cases hsearch
    rfl
  rcases hpost : post server (searchBody entityName query (pageSize limit)) s.outer with
    ⟨e | response, outer⟩
  · simp [search, Act.bind_apply, attempt, hpost] at hrun
  · have hread : readHits (pageSize limit) response = .ok result := by
      cases hread : readHits (pageSize limit) response with
      | error e => simp [search, Act.bind_apply, attempt, hpost, hread] at hrun
      | ok found => simpa [search, Act.bind_apply, attempt, hpost, hread] using hrun
    refine ⟨response, ?_, hread⟩
    obtain ⟨faults, ⟨e, hcall⟩ | ⟨a, docs, heffect, hcall | ⟨e, hcall⟩⟩⟩ :=
      Faulty.call_cases (fun docs => (server.search docs
        (searchBody entityName query (pageSize limit))).map fun response => (response, docs)) s.outer
    · rw [post, hcall] at hpost
      cases hpost
    · rw [post, hcall] at hpost
      obtain rfl : a = response := Except.ok.inj (Prod.mk.inj hpost).1
      cases hfound : server.search s.outer.state (searchBody entityName query (pageSize limit)) with
      | error e =>
          rw [hfound] at heffect
          cases heffect
      | ok found =>
          rw [hfound] at heffect
          rw [(Prod.mk.inj (Except.ok.inj heffect)).1]
    · rw [post, hcall] at hpost
      cases hpost

theorem sampleSteps_search :
    ((adapter entityServer (MapStore.adapter MapStore.anyEntity)).perform (.search "user" "ada" 5)
        (run entityServer (MapStore.adapter MapStore.anyEntity) sampleSteps ⟨{}, ⟨∅, []⟩⟩).2).1 =
      .listed (.ok {
        items := [.obj [("id", .str "u2"), ("name", .str "ada"), ("id", .str "u2")]]
        total := 0, page := 0, limit := 5 }) := by rfl

end SearchingAdapter

end Search
end Dbal
