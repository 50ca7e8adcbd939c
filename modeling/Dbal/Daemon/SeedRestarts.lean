/-
# Restarts and the operator's writes

A bootstrap record that an operator has changed is to survive a restart, as long as the
seed says the same as before.  The loader decides this by a fingerprint of the record as
it was applied, that is after its timestamps were set: a record whose seed has a timestamp
of zero gets the time of the start, its fingerprint is another one at every start, and the
operator's write is overwritten.

`restartsKeep` says which restarts are safe: those that meet a record whose timestamps are
settled, whose id occurs once in the document, and that is still in the store.
-/

import Dbal.Daemon.SeedLoader
import Dbal.JsonReading
import Dbal.Store.RowStore

namespace Dbal
namespace Daemon

variable {σ : Type}

/-- What the loader needs of its client: a store of records under an entity and an id, where
`create` refuses an id that is taken and `update` merges. -/
structure ClientLaws (A : Adapter σ) where
  view : σ → String → String → Option Json
  create_keeps : ∀ (entity : String) (data : Json) (s : σ) (other id : String) (row : Json),
    view s other id = some row → view (A.create entity data s).2 other id = some row
  create_taken : ∀ (entity : String) (data : Json) (s : σ) (id : String) (row : Json),
    data.find? "id" = some (.str id) → view s entity id = some row →
      ∃ e : Error, (A.create entity data s).1 = .ok (.error e) ∧ e.code = .conflict
  read_keeps : ∀ (entity id : String) (s : σ), view (A.read entity id s).2 = view s
  read_some : ∀ (entity id : String) (s : σ) (row : Json), view s entity id = some row →
    (A.read entity id s).1 = .ok (.ok row)
  update_keeps : ∀ (entity id : String) (data : Json) (s : σ) (other otherId : String),
    ¬ (other = entity ∧ otherId = id) →
      view (A.update entity id data s).2 other otherId = view s other otherId
  update_ok : ∀ (entity id : String) (data : Json) (s : σ) (row merged : Json),
    view s entity id = some row → (A.update entity id data s).1 = .ok (.ok merged) →
      view (A.update entity id data s).2 entity id = some (MapStore.merge row data)

namespace SeedLoaderAction

variable {L : SeedLoaderAction σ} (laws : ClientLaws L.client)

/-! ### What a step keeps -/

/-- A record that is in the store is still there, and the same. -/
def Held (entity id : String) (s s' : Seeding σ) : Prop :=
  ∀ row, laws.view s.store entity id = some row → laws.view s'.store entity id = some row

variable {laws} {entity id : String}

theorem Held.refl (s : Seeding σ) : Held laws entity id s s := fun _ h => h

theorem Held.trans {s s' s'' : Seeding σ} (h : Held laws entity id s s')
    (h' : Held laws entity id s' s'') : Held laws entity id s s'' := fun row hrow => h' row (h row hrow)

/-- A step that keeps a record. -/
def Keeps (laws : ClientLaws L.client) (entity id : String) {α : Type} (step : Step σ α) : Prop :=
  ∀ s, Held laws entity id s (step s).2

theorem Keeps.pure {α : Type} (a : α) :
    Keeps laws entity id (Pure.pure a : Step σ α) := fun s => Held.refl s

theorem Keeps.count (f : SeedResult → SeedResult) :
    Keeps laws entity id (count f : Step σ Unit) := fun _ _ h => h

theorem Keeps.nowMs : Keeps laws entity id (nowMs : Step σ Int) := fun _ _ h => h

theorem Keeps.bind {α β : Type} {step : Step σ α} {next : α → Step σ β}
    (h : Keeps laws entity id step) (hnext : ∀ a, Keeps laws entity id (next a)) :
    Keeps laws entity id (step >>= next) :=
  Act.bind_preserves (fun h h' => h.trans h') h fun a => hnext a

theorem Keeps.create (name : String) (data : Json) :
    Keeps laws entity id (call (L.client.create name data)) := fun s row h =>
  laws.create_keeps name data s.store entity id row h

theorem Keeps.read (name other : String) :
    Keeps laws entity id (call (L.client.read name other)) := fun s row h => by
  show laws.view (L.client.read name other s.store).2 entity id = some row
  rw [laws.read_keeps]
  exact h

theorem Keeps.update {name other : String} (data : Json) (hne : ¬ (entity = name ∧ id = other)) :
    Keeps laws entity id (call (L.client.update name other data)) := fun s row h => by
  show laws.view (L.client.update name other data s.store).2 entity id = some row
  rw [laws.update_keeps name other data s.store entity id hne]
  exact h

/-- **A fingerprint** is the only record that recording it changes. -/
theorem Keeps.recordBootstrapFingerprint {entityName recordId fingerprint : String}
    (hne : ¬ (entity = fingerprints ∧ id = trackingId entityName recordId)) :
    Keeps laws entity id (L.recordBootstrapFingerprint entityName recordId fingerprint) := by
  unfold SeedLoaderAction.recordBootstrapFingerprint
  refine Keeps.nowMs.bind fun appliedAt => (Keeps.create _ _).bind fun result => ?_
  cases result with
  | ok created => exact Keeps.pure _
  | error e =>
      dsimp only
      split
      · exact Keeps.nowMs.bind fun _ => (Keeps.update _ hne).bind fun _ => Keeps.pure _
      · exact Keeps.pure _

theorem Keeps.bootstrapNeedsReconcile (entityName recordId fingerprint : String) :
    Keeps laws entity id (L.bootstrapNeedsReconcile entityName recordId fingerprint) := by
  unfold SeedLoaderAction.bootstrapNeedsReconcile
  refine (Keeps.read _ _).bind fun result => ?_
  cases result with
  | error e => exact Keeps.pure _
  | ok existing => exact Keeps.bind (fun s => Held.refl s) fun _ => Keeps.pure _

/-- The record that a step is about, and its fingerprint. -/
def Elsewhere (entityName : String) (bootstrap : Bool) (record : Json) (entity id : String) :
    Prop :=
  ∀ recordId, bootstrapId bootstrap record = some recordId →
    ¬ (entity = entityName ∧ id = recordId) ∧
      ¬ (entity = fingerprints ∧ id = trackingId entityName recordId)

theorem Keeps.reconcile {entityName : String} {metadata : SeedMetadata} {record : Json}
    (h : Elsewhere entityName metadata.bootstrap record entity id) :
    Keeps laws entity id (L.reconcile entityName metadata record) := by
  unfold SeedLoaderAction.reconcile
  cases hid : bootstrapId metadata.bootstrap record with
  | none => exact Keeps.count _
  | some recordId =>
      obtain ⟨hrecord, hfingerprint⟩ := h recordId hid
      refine (Keeps.bootstrapNeedsReconcile _ _ _).bind fun needed => ?_
      split
      · refine (Keeps.update _ hrecord).bind fun result => ?_
        cases result with
        | ok merged =>
            exact (Keeps.count _).bind fun _ => Keeps.recordBootstrapFingerprint hfingerprint
        | error e => exact Keeps.count _
      · exact Keeps.count _

theorem Keeps.createRecord {entityName : String} {metadata : SeedMetadata} {record : Json}
    (h : Elsewhere entityName metadata.bootstrap record entity id) :
    Keeps laws entity id (L.createRecord entityName metadata record) := by
  unfold SeedLoaderAction.createRecord
  refine (Keeps.create _ _).bind fun result => ?_
  cases result with
  | ok created =>
      refine (Keeps.count _).bind fun _ => ?_
      cases hid : bootstrapId metadata.bootstrap record with
      | none => exact Keeps.pure _
      | some recordId => exact Keeps.recordBootstrapFingerprint (h recordId hid).2
  | error e =>
      dsimp only
      split
      · exact Keeps.reconcile h
      · exact Keeps.count _

/-! ### Timestamps -/

/-- The text under `id`. -/
def idText (record : Json) : Option String :=
  match record.find? "id" with
  | some (.str id) => some id
  | _ => none

theorem bootstrapId_eq (record : Json) : bootstrapId true record = idText record := by
  unfold bootstrapId idText
  cases record.find? "id" with
  | none => rfl
  | some value => cases value <;> rfl

theorem bootstrapId_false (record : Json) : bootstrapId false record = none := by
  unfold bootstrapId
  split <;> simp_all

/-- Only a number is stamped, so that no id comes or goes. -/
theorem idText_stamp (now : Int) (record : Json) (field : String) :
    idText (stamp now record field) = idText record := by
  unfold stamp
  split
  · next hzero =>
      obtain ⟨value, hvalue, hiszero⟩ : ∃ value, record.find? field = some value ∧
          isZero value = true := (Option.any_eq_true _ _).1 hzero
      obtain ⟨members, rfl⟩ := Json.exists_obj_of_find? hvalue
      unfold idText
      rw [Json.find?_set_obj]
      by_cases hfield : field = "id"
      · subst hfield
        rw [if_pos rfl, hvalue]
        cases value <;> simp_all [isZero]
      · rw [if_neg hfield]
  · rfl

theorem idText_stamped (timestampField : String) (now : Int) (record : Json) :
    idText (stamped timestampField now record) = idText record := by
  have hfold : ∀ (fields : List String) (record : Json),
      idText (fields.foldl (stamp now) record) = idText record := by
    intro fields
    induction fields with
    | nil => exact fun _ => rfl
    | cons field fields ih => exact fun record => (ih _).trans (idText_stamp now record field)
  exact hfold _ record

/-- The record that is created: the one of the document, with its timestamps at `now`. -/
def applied (metadata : SeedMetadata) (now : Int) (record : Json) : Json :=
  if metadata.useCurrentTimestamp ∧ metadata.timestampField ≠ "" then
    stamped metadata.timestampField now record
  else record

theorem idText_applied (metadata : SeedMetadata) (now : Int) (record : Json) :
    idText (applied metadata now record) = idText record := by
  unfold applied
  split
  · exact idText_stamped _ now record
  · rfl

/-- No timestamp of the record is to be set: none is asked for, or none is zero. -/
def Settled (metadata : SeedMetadata) (record : Json) : Prop :=
  metadata.useCurrentTimestamp = true → metadata.timestampField ≠ "" →
    ∀ field ∈ metadata.timestampField :: commonTsFields, (record.find? field).any isZero = false

theorem applied_of_settled {metadata : SeedMetadata} {record : Json}
    (h : Settled metadata record) (now : Int) : applied metadata now record = record := by
  have hfold : ∀ fields : List String,
      (∀ field ∈ fields, (record.find? field).any isZero = false) →
        fields.foldl (stamp now) record = record := by
    intro fields
    induction fields with
    | nil => exact fun _ => rfl
    | cons field fields ih =>
        intro hnone
        have hstamp : stamp now record field = record := by
          rw [stamp, hnone field List.mem_cons_self]
          rfl
        rw [List.foldl_cons, hstamp]
        exact ih fun other hother => hnone other (List.mem_cons_of_mem _ hother)
  unfold applied
  split
  · next hstamped => exact hfold _ (h hstamped.1 hstamped.2)
  · rfl

/-- What the loop makes of a record: it is stamped at some reading of the clock, and then
created. -/
theorem seedRecord_eq (entityName : String) (metadata : SeedMetadata) (record : Json)
    (s : Seeding σ) :
    ∃ now, ∃ s' : Seeding σ, s'.store = s.store ∧
      L.seedRecord entityName metadata record s =
        L.createRecord entityName metadata (applied metadata now record) s' := by
  unfold seedRecord applied applyCurrentTimestamps
  by_cases hstamp : metadata.useCurrentTimestamp = true
  · by_cases hfield : metadata.timestampField = ""
    · refine ⟨0, s, rfl, ?_⟩
      simp [hstamp, hfield, Act.bind_apply]
    · refine ⟨s.clock 0, { s with clock := fun n => s.clock (n + 1) }, rfl, ?_⟩
      simp [hstamp, hfield, Act.bind_apply, nowMs]
  · refine ⟨0, s, rfl, ?_⟩
    simp [hstamp, Act.bind_apply]

theorem trySeedRecord_store (entityName : String) (metadata : SeedMetadata) (record : Json)
    (s : Seeding σ) :
    (L.trySeedRecord entityName metadata record s).store =
      (L.seedRecord entityName metadata record s).2.store := by
  unfold trySeedRecord
  split <;> next h => rw [h]

/-! ### The records of a document -/

/-- A record under another id leaves a record, and its fingerprint, alone. -/
theorem elsewhere_of_ne {entityName recordId : String} {record : Json} (bootstrap : Bool)
    (hne : idText record ≠ some recordId) (hentity : entityName ≠ fingerprints) :
    Elsewhere entityName bootstrap record entityName recordId ∧
      Elsewhere entityName bootstrap record fingerprints (trackingId entityName recordId) := by
  have hother : ∀ other, bootstrapId bootstrap record = some other → other ≠ recordId := by
    intro other hbootstrap rfl
    cases bootstrap with
    | false => cases (bootstrapId_false record).symm.trans hbootstrap
    | true => exact hne ((bootstrapId_eq record).symm.trans hbootstrap)
  refine ⟨fun other hbootstrap => ⟨?_, ?_⟩, fun other hbootstrap => ⟨?_, ?_⟩⟩
  · exact fun h => hother other hbootstrap h.2.symm
  · exact fun h => hentity h.1
  · exact fun h => hentity h.1.symm
  · rintro ⟨-, htracking⟩
    refine hother other hbootstrap ?_
    have htext := congrArg String.toList htracking
    rw [trackingId, trackingId, String.toList_append, String.toList_append,
      String.toList_append, String.toList_append, List.append_assoc, List.append_assoc] at htext
    have htext := List.append_cancel_left (List.append_cancel_left htext)
    exact (String.toList_inj.1 htext).symm

theorem held_trySeedRecord {entityName recordId : String} (metadata : SeedMetadata)
    {record : Json} (hne : idText record ≠ some recordId) (hentity : entityName ≠ fingerprints) (s : Seeding σ) :
    Held laws entityName recordId s (L.trySeedRecord entityName metadata record s) ∧
      Held laws fingerprints (trackingId entityName recordId) s
        (L.trySeedRecord entityName metadata record s) := by
  obtain ⟨now, s', hstore, hrun⟩ := seedRecord_eq entityName metadata record s
  have happlied : idText (applied metadata now record) ≠ some recordId := by
    rwa [idText_applied]
  obtain ⟨hrecord, hfingerprint⟩ := elsewhere_of_ne metadata.bootstrap happlied hentity
  unfold Held
  rw [trySeedRecord_store, hrun, ← hstore]
  exact ⟨Keeps.createRecord hrecord s', Keeps.createRecord hfingerprint s'⟩

theorem held_seedRecords {entityName recordId : String} (metadata : SeedMetadata)
    (hentity : entityName ≠ fingerprints) :
    ∀ (records : List Json) (s : Seeding σ), (∀ record ∈ records, idText record ≠ some recordId) →
      Held laws entityName recordId s (L.seedRecords entityName metadata records s) ∧
        Held laws fingerprints (trackingId entityName recordId) s
          (L.seedRecords entityName metadata records s)
  | [], s, _ => ⟨Held.refl s, Held.refl s⟩
  | record :: records, s, hne => by
      obtain ⟨hrecord, hfingerprint⟩ :=
        held_trySeedRecord metadata (hne record List.mem_cons_self) hentity s
      obtain ⟨hrecord', hfingerprint'⟩ := held_seedRecords metadata hentity records
        (L.trySeedRecord entityName metadata record s)
        fun other hother => hne other (List.mem_cons_of_mem _ hother)
      exact ⟨hrecord.trans hrecord', hfingerprint.trans hfingerprint'⟩

/-! ### The record itself -/

/-- The store has a fingerprint of the record. -/
def Tracked (laws : ClientLaws L.client) (s : σ) (entityName recordId fingerprint : String) :
    Prop :=
  ∃ tracking, laws.view s fingerprints (trackingId entityName recordId) = some tracking ∧
    tracking.isObject = true ∧ tracking.find? "fingerprint" = some (.str fingerprint)

variable {entityName recordId : String} {metadata : SeedMetadata} {record row : Json}

theorem Tracked.held {s s' : Seeding σ} {fingerprint : String}
    (h : Tracked laws s.store entityName recordId fingerprint)
    (hheld : Held laws fingerprints (trackingId entityName recordId) s s') :
    Tracked laws s'.store entityName recordId fingerprint := by
  obtain ⟨tracking, hview, hobject, hfind⟩ := h
  exact ⟨tracking, hheld tracking hview, hobject, hfind⟩

/-- The comparison with the fingerprint that is stored. -/
theorem bootstrapNeedsReconcile_eq {s : Seeding σ} {stored : String}
    (h : Tracked laws s.store entityName recordId stored) (current : String) :
    ∃ s' : Seeding σ, laws.view s'.store = laws.view s.store ∧
      L.bootstrapNeedsReconcile entityName recordId current s =
        (.ok (decide (stored ≠ current)), s') := by
  obtain ⟨tracking, hview, hobject, hfind⟩ := h
  refine ⟨{ s with store := (L.client.read fingerprints (trackingId entityName recordId)
    s.store).2 }, laws.read_keeps _ _ _, ?_⟩
  have hread : call (L.client.read fingerprints (trackingId entityName recordId)) s =
      (.ok (.ok tracking), { s with store :=
        (L.client.read fingerprints (trackingId entityName recordId) s.store).2 }) := by
    unfold call
    rw [laws.read_some _ _ _ _ hview]
  obtain ⟨members, rfl⟩ := Json.exists_obj_of_isObject hobject
  have hvalue : (Json.obj members).valueString "fingerprint" "" = .ok stored := by
    simp [Json.valueString, hfind]
  unfold bootstrapNeedsReconcile
  rw [Act.bind_ok hread]
  dsimp only
  rw [hvalue]
  rfl

/-- Creating a record that is there comes down to reconciling it. -/
theorem createRecord_eq {s : Seeding σ} (hid : idText record = some recordId)
    (hview : laws.view s.store entityName recordId = some row) :
    ∃ s' : Seeding σ, (∀ entity id, Held laws entity id s s') ∧
      L.createRecord entityName metadata record s = L.reconcile entityName metadata record s' := by
  have hfind : record.find? "id" = some (.str recordId) := by
    unfold idText at hid
    split at hid
    · next id hfind =>
        obtain rfl := Option.some.inj hid
        exact hfind
    · cases hid
  obtain ⟨e, herror, hconflict⟩ := laws.create_taken entityName record s.store recordId row hfind hview
  refine ⟨{ s with store := (L.client.create entityName record s.store).2 },
    fun entity id => Keeps.create entityName record s, ?_⟩
  have hcall : call (L.client.create entityName record) s =
      (.ok (.error e), { s with store := (L.client.create entityName record s.store).2 }) := by
    unfold call
    rw [herror]
  unfold createRecord
  rw [Act.bind_ok hcall]
  dsimp only
  rw [if_pos hconflict]

/-- **The seed is the same**: nothing is written. -/
theorem reconcile_same {s : Seeding σ} (hbootstrap : metadata.bootstrap = true)
    (hid : idText record = some recordId)
    (htracked : Tracked laws s.store entityName recordId (L.fingerprintOf record)) :
    laws.view (L.reconcile entityName metadata record s).2.store = laws.view s.store := by
  obtain ⟨s', hview, hneeds⟩ := bootstrapNeedsReconcile_eq htracked (L.fingerprintOf record)
  unfold reconcile
  rw [hbootstrap, bootstrapId_eq, hid]
  dsimp only
  rw [Act.bind_ok hneeds, decide_eq_false (not_not.2 rfl)]
  exact hview

/-- The client takes the record, whatever else is in the store. -/
def Accepts (laws : ClientLaws L.client) (entityName recordId : String) (row record : Json) :
    Prop :=
  ∀ s, laws.view s entityName recordId = some row →
    ∃ merged, (L.client.update entityName recordId record s).1 = .ok (.ok merged)

/-- **The seed has changed**: it is written over the record. -/
theorem reconcile_changed {s : Seeding σ} {stored : String} (hbootstrap : metadata.bootstrap = true)
    (hid : idText record = some recordId) (hentity : entityName ≠ fingerprints)
    (htracked : Tracked laws s.store entityName recordId stored)
    (hne : stored ≠ L.fingerprintOf record)
    (hview : laws.view s.store entityName recordId = some row)
    (haccepts : Accepts laws entityName recordId row record) :
    laws.view (L.reconcile entityName metadata record s).2.store entityName recordId =
      some (MapStore.merge row record) := by
  obtain ⟨s', hsame, hneeds⟩ := bootstrapNeedsReconcile_eq htracked (L.fingerprintOf record)
  have hview' : laws.view s'.store entityName recordId = some row := by rw [hsame, hview]
  obtain ⟨merged, hmerged⟩ := haccepts s'.store hview'
  have hcall : call (L.client.update entityName recordId record) s' =
      (.ok (.ok merged),
        { s' with store := (L.client.update entityName recordId record s'.store).2 }) := by
    unfold call
    rw [hmerged]
  unfold reconcile
  rw [hbootstrap, bootstrapId_eq, hid]
  dsimp only
  rw [Act.bind_ok hneeds, decide_eq_true hne, if_pos rfl, Act.bind_ok hcall]
  dsimp only
  have hkeeps : Keeps laws entityName recordId (count updated >>= fun _ =>
      L.recordBootstrapFingerprint entityName recordId (L.fingerprintOf record)) :=
    (Keeps.count _).bind fun _ => Keeps.recordBootstrapFingerprint fun h => hentity h.1
  exact hkeeps _ _ (laws.update_ok entityName recordId record s'.store row merged hview' hmerged)

/-! ### A start -/

/-- A bootstrap document of an entity, with its metadata and its records. -/
structure Bootstraps (doc : Json) (entityName : String) (metadata : SeedMetadata)
    (records : List Json) : Prop where
  name : documentName doc = .ok (some entityName)
  metadataOf : metadataOf doc = .ok metadata
  bootstrap : metadata.bootstrap = true
  records : doc.find? "records" = some (.arr records)

/-- A start of the daemon on a seed file with one document. -/
structure Start where
  doc : Json
  force : Bool
  fileName : String
  clock : Nat → Int

/-- The store after a start. -/
def start (L : SeedLoaderAction σ) (st : Start) (s : σ) : σ :=
  (L.loadSeedFile st.force st.fileName st.doc st.clock s).2

/-- A start on a bootstrap document runs through its records. -/
theorem start_eq {st : Start} {records : List Json}
    (h : Bootstraps st.doc entityName metadata records) (s : σ) :
    ∃ s' : Seeding σ, s'.store = s ∧
      start L st s = (L.seedRecords entityName metadata records s').store := by
  obtain ⟨members, hdoc⟩ := Json.exists_obj_of_find? h.records
  refine ⟨⟨s, st.clock, { entity := entityName }⟩, rfl, ?_⟩
  have hseeded : ∀ s : Seeding σ,
      L.alreadySeeded entityName metadata st.force s = (.ok false, s) := by
    intro s
    simp [alreadySeeded, h.bootstrap]
  have hrun : L.loadDocument st.force st.doc ⟨s, st.clock, {}⟩ =
      (.ok (some (L.seedRecords entityName metadata records
          ⟨s, st.clock, { entity := entityName }⟩).result),
        L.seedRecords entityName metadata records ⟨s, st.clock, { entity := entityName }⟩) := by
    unfold loadDocument
    rw [Act.ofExcept_bind h.name]
    dsimp only
    rw [Act.bind_ok (show count (fun _ => { entity := entityName }) ⟨s, st.clock, {}⟩ = _ from rfl),
      Act.ofExcept_bind h.metadataOf, Act.bind_ok (hseeded _)]
    simp [h.records]
  unfold start loadSeedFile
  rw [hdoc] at hrun ⊢
  simp [loadDocuments, Json.isObject, hrun]

/-- No two records of a document have the same text as id. -/
def DistinctIds (records : List Json) : Prop :=
  records.Pairwise fun one other => ∀ id, idText one = some id → idText other ≠ some id

/-- The records beside the one with an id. -/
theorem DistinctIds.split {records : List Json} (h : DistinctIds records) {record : Json}
    (hmem : record ∈ records) (hid : idText record = some recordId) :
    ∃ before after, records = before ++ record :: after ∧
      (∀ other ∈ before, idText other ≠ some recordId) ∧
      ∀ other ∈ after, idText other ≠ some recordId := by
  obtain ⟨before, after, rfl⟩ := List.append_of_mem hmem
  obtain ⟨-, hcons, hcross⟩ := List.pairwise_append.1 h
  refine ⟨before, after, rfl, fun other hother hsame => ?_, fun other hother => ?_⟩
  · exact hcross other hother record List.mem_cons_self recordId hsame hid
  · exact (List.pairwise_cons.1 hcons).1 other hother recordId hid

/-- **A start meets a record that is in the store**: everything before it and after it leaves the
record alone, and it is reconciled as it stands in the document. -/
theorem start_present {st : Start} {records : List Json} {s : σ}
    (h : Bootstraps st.doc entityName metadata records) (hentity : entityName ≠ fingerprints)
    (hdistinct : DistinctIds records) (hmem : record ∈ records)
    (hid : idText record = some recordId) (hsettled : Settled metadata record)
    (hview : laws.view s entityName recordId = some row) :
    ∃ s' s'' : Seeding σ, laws.view s'.store entityName recordId = some row ∧
      (∀ stored, Tracked laws s entityName recordId stored →
        Tracked laws s'.store entityName recordId stored) ∧
      s''.store = (L.reconcile entityName metadata record s').2.store ∧
      ∃ s''' : Seeding σ, Held laws entityName recordId s'' s''' ∧ start L st s = s'''.store := by
  obtain ⟨before, after, rfl, hbefore, hafter⟩ := hdistinct.split hmem hid
  obtain ⟨s₀, hstore, hstart⟩ := start_eq h s
  obtain ⟨hrecord, hfingerprint⟩ := @held_seedRecords _ _ laws _ _ metadata hentity before s₀
    hbefore
  obtain ⟨now, s₁, hs₁, hrun⟩ := seedRecord_eq entityName metadata record
    (L.seedRecords entityName metadata before s₀)
  rw [applied_of_settled hsettled] at hrun
  have hview₁ : laws.view s₁.store entityName recordId = some row := by
    rw [hs₁]
    exact hrecord row (by rwa [hstore])
  obtain ⟨s₂, hheld, hcreate⟩ := @createRecord_eq _ _ _ _ _ metadata _ _ _ hid hview₁
  refine ⟨s₂, L.trySeedRecord entityName metadata record (L.seedRecords entityName metadata before s₀),
    hheld _ _ row hview₁, fun stored htracked => ?_, ?_, ?_⟩
  · have htracked₀ : Tracked laws s₀.store entityName recordId stored := by rwa [hstore]
    have htracked₁ : Tracked laws s₁.store entityName recordId stored := by
      rw [hs₁]
      exact htracked₀.held hfingerprint
    exact htracked₁.held (hheld _ _)
  · rw [trySeedRecord_store, hrun, hcreate]
  · refine ⟨_, (held_seedRecords metadata hentity after _ hafter).1, ?_⟩
    rw [hstart, seedRecords, List.foldl_append]
    rfl

/-! ### Runs -/

/-- A write of the operator, through other paths than the loader: it may do anything but write a
fingerprint. -/
structure Operator (laws : ClientLaws L.client) where
  act : σ → σ
  keeps : ∀ s id, laws.view (act s) fingerprints id = laws.view s fingerprints id

/-- What happens to a store. -/
inductive Event (laws : ClientLaws L.client) where
  | start (st : Start)
  | write (operator : Operator laws)

/-- The store after an event. -/
def step (s : σ) : Event laws → σ
  | .start st => start L st s
  | .write operator => operator.act s

/-- The store after a run. -/
def after (s : σ) (events : List (Event laws)) : σ := events.foldl step s

/-- Two successive starts of a run, with the stores after the first and before the second. -/
structure Successive (s₀ : σ) (events : List (Event laws)) (first second : Start) (s₁ s₂ : σ) :
    Prop where
  exists_split : ∃ (history later : List (Event laws)) (writes : List (Operator laws)),
    events = history ++ .start first :: writes.map .write ++ .start second :: later ∧
      s₁ = start L first (after s₀ history) ∧ s₂ = after s₁ (writes.map Event.write)

/-- The two rows have the same members. -/
def SameRecord (row record : Json) : Prop := ∀ key, row.find? key = record.find? key

/-- What a restart owes a record: with the same seed, whose fingerprint the first start has
recorded, the second one leaves the record as it is; with another seed it makes the record equal
the seed. -/
def KeepsPromise (laws : ClientLaws L.client) (s₁ s₂ s₃ : σ) (entityName recordId : String)
    (metadata metadata' : SeedMetadata) (old new : Json) : Prop :=
  (old = new → (∃ now, Tracked laws s₁ entityName recordId
      (L.fingerprintOf (applied metadata now old))) →
    laws.view s₃ entityName recordId = laws.view s₂ entityName recordId) ∧
  (old ≠ new → ∃ row now, laws.view s₃ entityName recordId = some row ∧
    SameRecord row (applied metadata' now new))

/-- Every two successive starts of a run keep the promise, on every record that both seed. -/
def RestartsKeep (laws : ClientLaws L.client) (s₀ : σ) (events : List (Event laws)) : Prop :=
  ∀ (first second : Start) (s₁ s₂ : σ), Successive s₀ events first second s₁ s₂ →
    ∀ (entityName recordId : String) (metadata metadata' : SeedMetadata) (olds news : List Json)
      (old new : Json), Bootstraps first.doc entityName metadata olds →
      Bootstraps second.doc entityName metadata' news → old ∈ olds → new ∈ news →
      idText old = some recordId → idText new = some recordId →
        KeepsPromise laws s₁ s₂ (start L second s₂) entityName recordId metadata metadata' old new

/-- A restart that is safe for a record: its timestamps are settled, its id occurs once in the
document, and it is still in the store; and where the seed has changed, the first start has
recorded its fingerprint, the new one is another, the client takes the new record, and the record
in the store has no members beside those of the new seed. -/
structure Safe (laws : ClientLaws L.client) (s₁ s₂ : σ) (entityName recordId : String)
    (metadata metadata' : SeedMetadata) (news : List Json) (old new : Json) : Prop where
  entity : entityName ≠ fingerprints
  settled : Settled metadata old ∧ Settled metadata' new
  distinct : DistinctIds news
  present : ∃ row, laws.view s₂ entityName recordId = some row
  changed : old ≠ new → Tracked laws s₁ entityName recordId (L.fingerprintOf old) ∧
    L.fingerprintOf old ≠ L.fingerprintOf new ∧
    ∀ row, laws.view s₂ entityName recordId = some row →
      Accepts laws entityName recordId row new ∧
        ∀ key, (row.find? key).isSome = true → (new.find? key).isSome = true

theorem Tracked.writes {s : σ} {fingerprint : String}
    (h : Tracked laws s entityName recordId fingerprint) (writes : List (Operator laws)) :
    Tracked laws (after s (writes.map Event.write)) entityName recordId fingerprint := by
  induction writes generalizing s with
  | nil => exact h
  | cons operator writes ih =>
      obtain ⟨tracking, hview, hrest⟩ := h
      exact ih ⟨tracking, (operator.keeps s _).trans hview, hrest⟩

theorem merge_sameRecord {row record : Json}
    (h : ∀ key, (row.find? key).isSome = true → (record.find? key).isSome = true) :
    SameRecord (MapStore.merge row record) record := by
  intro key
  unfold MapStore.merge
  rw [Json.find?_append, ← Json.find?_eq_members, ← Json.find?_eq_members]
  cases hrecord : record.find? key with
  | some value => rfl
  | none =>
      cases hrow : row.find? key with
      | none => rfl
      | some value =>
          have hsome := h key (by rw [hrow]; rfl)
          rw [hrecord] at hsome
          cases hsome

end SeedLoaderAction

/-! ### An ideal client -/

/-- **The ideal store is such a client.** -/
def mapLaws : ClientLaws (MapStore.adapter MapStore.anyEntity) where
  view s entity id := MapStore.lookup s.rows entity id
  create_keeps := by
    intro entity data s other id row hrow
    show MapStore.lookup (MapStore.insert entity data s).2.rows other id = some row
    unfold MapStore.insert
    dsimp only
    split
    · exact hrow
    · rw [MapStore.lookup_append, hrow]
      rfl
  create_taken := by
    intro entity data s id row hid hrow
    refine ⟨Error.conflict "Id is taken", ?_, rfl⟩
    show (MapStore.insert entity data s).1 = _
    have hnew : MapStore.newId data s.nextId = id := by rw [MapStore.newId, hid]
    unfold MapStore.insert
    dsimp only
    rw [hnew, hrow]
    rfl
  read_keeps := by
    intro entity id s
    show (fun other otherId => MapStore.lookup (MapStore.withEntity MapStore.anyEntity entity
      _ s).2.rows other otherId) = _
    simp only [MapStore.withEntity, MapStore.anyEntity]
    split <;> rfl
  read_some := by
    intro entity id s row hrow
    simp [MapStore.adapter, MapStore.withEntity, MapStore.anyEntity, hrow]
  update_keeps := by
    intro entity id data s other otherId hne
    show MapStore.lookup (MapStore.modify entity id data s).2.rows other otherId = _
    unfold MapStore.modify
    split
    · rfl
    · rw [MapStore.lookup_change, if_neg fun h => hne ⟨h.1.symm, h.2.symm⟩]
  update_ok := by
    intro entity id data s row merged hrow _
    show MapStore.lookup (MapStore.modify entity id data s).2.rows entity id = _
    unfold MapStore.modify
    rw [hrow]
    dsimp only
    rw [MapStore.lookup_change, if_pos ⟨rfl, rfl⟩, hrow]
    rfl

namespace SeedLoaderAction

/-- The text of an object of texts and whole numbers. -/
def flatDump (record : Json) : String :=
  "\x7b" ++ ",".intercalate (record.fields.toList.map fun (key, value) =>
    "\"" ++ key ++ "\":" ++
      match value with
      | .str s => "\"" ++ s ++ "\""
      | .int i => toString i
      | _ => "null") ++ "\x7d"

/-- The digests of the record below at two starts. -/
def digests (text : String) : String :=
  if text = "\x7b\"bio\":\"System Super Administrator\",\"createdAt\":1700000000000," ++
      "\"id\":\"user_supergod_system\"\x7d" then
    "a851e53f2a0a0f82aa943d96075060788cfcd678455c520722502dc19e6b0d2b"
  else if text = "\x7b\"bio\":\"System Super Administrator\",\"createdAt\":1700000600000," ++
      "\"id\":\"user_supergod_system\"\x7d" then
    "e0bded4893f848af7094f89fe8b2bd338e7714be1f5f7c00249acb095ece9f8b"
  else "fabc272d45fe550ecd3a6ed77fd3e2dec188b9267b6c41118ef64ab00135e503"

/-- The loader over the ideal store. -/
def mapLoader : SeedLoaderAction MapStore where
  client := MapStore.adapter MapStore.anyEntity
  dump := flatDump
  sha256Hex := digests

/-- A user of the seed, created at a time. -/
def supergod (createdAt : Int) : Json :=
  .obj [("id", .str "user_supergod_system"), ("bio", .str "System Super Administrator"),
    ("createdAt", .int createdAt)]

/-- The seed of the users. -/
def users (createdAt : Int) : Json :=
  .obj [("entity", .str "User"), ("records", .arr [supergod createdAt]),
    ("metadata", .obj [("bootstrap", .bool true), ("skipIfExists", .bool true),
      ("timestampField", .str "createdAt"), ("useCurrentTimestamp", .bool true)])]

/-- A start on the users at a time. -/
def startAt (createdAt now : Int) : Start where
  doc := users createdAt
  force := false
  fileName := "users.json"
  clock _ := now

/-- The operator writes another text into the user. -/
def editBio : Operator (L := mapLoader) mapLaws where
  act s := (MapStore.modify "User" "user_supergod_system"
    (.obj [("bio", .str "edited by the operator")]) s).2
  keeps s id := mapLaws.update_keeps "User" "user_supergod_system" _ s fingerprints id
    fun h => absurd h.1 (by decide)

/-- Ten minutes between two starts. -/
def restart : List (Event (L := mapLoader) mapLaws) :=
  [.start (startAt 0 1700000000000), .write editBio, .start (startAt 0 1700000600000)]

/-- The metadata of the seed. -/
def usersMetadata : SeedMetadata where
  skipIfExists := true
  bootstrap := true
  useCurrentTimestamp := true
  timestampField := "createdAt"

theorem bootstraps_users (createdAt now : Int) :
    Bootstraps (startAt createdAt now).doc "User"
      usersMetadata [supergod createdAt] where
  name := rfl
  metadataOf := rfl
  bootstrap := rfl
  records := rfl

/-- The text about a user. -/
def bioOf (s : MapStore) : Option String :=
  (MapStore.lookup s.rows "User" "user_supergod_system").bind fun row =>
    (row.find? "bio").map Json.text

/-- The same with a seed that says when the user was created. -/
def quietRestart : List (Event (L := mapLoader) mapLaws) :=
  [.start (startAt 1650000000000 1700000000000), .write editBio,
    .start (startAt 1650000000000 1700000600000)]

/-- There are two starts in it. -/
theorem successive_quiet {first second : Start} {s₁ s₂ : MapStore}
    (h : Successive (L := mapLoader) {} quietRestart first second s₁ s₂) :
    first = startAt 1650000000000 1700000000000 ∧ second = startAt 1650000000000 1700000600000 ∧
      s₂ = editBio.act (start mapLoader (startAt 1650000000000 1700000000000) {}) := by
  obtain ⟨history, later, writes, hsplit, rfl, rfl⟩ := h.exists_split
  match history, writes, hsplit with
  | [], [operator], hsplit =>
      injection hsplit with hfirst hrest
      injection hrest with hwrite hrest
      injection hrest with hsecond hrest
      injection hfirst with hfirst
      injection hwrite with hwrite
      injection hsecond with hsecond
      subst hfirst hwrite hsecond
      exact ⟨rfl, rfl, rfl⟩
  | [], [], hsplit => simp [quietRestart] at hsplit
  | [], _ :: _ :: _, hsplit => simp [quietRestart] at hsplit
  | [_], _, hsplit => simp [quietRestart] at hsplit
  | [_, _], _, hsplit => simp [quietRestart] at hsplit
  | _ :: _ :: _ :: _, _, hsplit => simp [quietRestart] at hsplit

end SeedLoaderAction
end Daemon
end Dbal
