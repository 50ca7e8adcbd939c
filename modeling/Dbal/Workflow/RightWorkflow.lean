/-
# The right workflow is found

`loadTenantWorkflow` and `loadTenantWorkflowNamed` of `src/workflow/wf_graph_loader.cpp`, over an
ideal store that lists its rows in any order.  Each of them reads one page of the rows of its tenant
and trigger and picks from that, and the steps of what it picked are one page as well.

The two searches are instances of one (`Selects`).  The wanted row is on every page where the other
rows do not fill one (`exists_mem_take`), and where they do, an order that lists them first leaves it
out.
-/

import Dbal.Store.ListingOrder
import Dbal.Workflow.Engine

namespace Dbal

theorem Json.isNull_null : Json.null.isNull = true := rfl

namespace WfGraph

open MapStore

/-! ### Rows and listings -/

/-- The field of the row is the text. -/
def hasText (row : Json) (pair : String × String) : Bool := row.find? pair.1 == some (.str pair.2)

/-- The rows of an entity with these texts in their fields. -/
def storedRows (entity : String) (texts : List (String × String)) (s : MapStore) : List Json :=
  (s.rows.filter fun entry => decide (entry.entity = entity) && texts.all (hasText entry.row)).map
    Entry.row

/-- The workflows of a tenant with a trigger. -/
def workflowsOf (tenant triggerEvent : String) : MapStore → List Json :=
  storedRows "Workflow" [("tenantId", tenant), ("triggerEvent", triggerEvent)]

/-- Those of them with a text in a column. -/
def workflowsUnder (tenant column named triggerEvent : String) : MapStore → List Json :=
  storedRows "Workflow" [("tenantId", tenant), (column, named), ("triggerEvent", triggerEvent)]

/-- The nodes of a workflow. -/
def nodesOf (tenant workflowId : String) : MapStore → List Json :=
  storedRows "WorkflowNode" [("tenantId", tenant), ("workflowId", workflowId)]

/-- What the client lists, in an order. -/
def listedIn (order : ListingOrder) (s : MapStore) : ListEntities := fun name opts =>
  match ((order.adapter anyEntity).list name opts s).1 with
  | .ok result => result.map ListResult.items
  | .error _ => .error (Error.internal "")

section

variable {order : ListingOrder} {s : MapStore} {entity : String} {texts : List (String × String)}

theorem asksFor_eq (htexts : (texts.map Prod.fst).Nodup) (limit : Int) (entry : Entry) :
    ListingOrder.asksFor entity { filter := .ofList texts, limit := limit } entry =
      (decide (entry.entity = entity) && texts.all (hasText entry.row)) := by
  rw [Bool.eq_iff_iff, ListingOrder.asksFor, selects_equalities, Bool.and_eq_true,
    decide_eq_true_eq, List.all_eq_true]
  refine and_congr_right fun _ => ?_
  constructor
  · rintro h ⟨key, value⟩ hmem
    exact Json.beq_some_str_iff.2 (h key value ((Store.getElem?_ofList_iff htexts).2 hmem))
  · intro h key value hvalue
    exact Json.beq_some_str_iff.1 (h (key, value) ((Store.getElem?_ofList_iff htexts).1 hvalue))

/-- One page of the rows that the store has. -/
theorem listedIn_eq (htexts : (texts.map Prod.fst).Nodup) (limit : Int) :
    ∃ listed : List Json, listed.Perm (storedRows entity texts s) ∧
      listedIn order s entity { filter := .ofList texts, limit := limit } =
        .ok (listed.take limit.toNat) := by
  obtain ⟨result, hlist, hitems⟩ := order.list_first_page entity (.ofList texts) limit s
  refine ⟨(order.listing entity { filter := .ofList texts, limit := limit } s).map Entry.row, ?_, ?_⟩
  · refine (((order.listing_perm entity _ s).map Entry.row)).trans (List.Perm.of_eq ?_)
    rw [storedRows]
    congr 1
    exact List.filter_congr fun entry _ => asksFor_eq htexts limit entry
  · rw [listedIn, hlist, ← List.map_take, ← hitems]
    rfl

/-- The rows that are picked come first, and then the others. -/
def splitBy (p : Json → Bool) (rows : List Json) : List Json :=
  rows.filter p ++ rows.filter fun row => !p row

/-- The listings of the order have the rows first that `p` picks. -/
def Arranges (order : ListingOrder) (p : String → Json → Bool) (s : MapStore) : Prop :=
  ∀ (entity : String) (texts : List (String × String)) (limit : Int), (texts.map Prod.fst).Nodup →
    listedIn order s entity { filter := .ofList texts, limit := limit } =
      .ok ((splitBy (p entity) (storedRows entity texts s)).take limit.toNat)

theorem exists_arranges (p : String → Json → Bool) (s : MapStore) :
    ∃ order : ListingOrder, Arranges order p s := by
  obtain ⟨order, horder⟩ := @ListingOrder.exists_listing s
    (fun entity options =>
      (s.rows.filter (ListingOrder.asksFor entity options)).filter (fun entry => p entity entry.row) ++
        (s.rows.filter (ListingOrder.asksFor entity options)).filter
          fun entry => !p entity entry.row)
    fun entity options => List.filter_append_perm _ _
  refine ⟨order, fun entity texts limit htexts => ?_⟩
  obtain ⟨result, hlist, hitems⟩ := order.list_first_page entity (.ofList texts) limit s
  have hasked : s.rows.filter (ListingOrder.asksFor entity
      { filter := .ofList texts, limit := limit }) =
      s.rows.filter fun entry => decide (entry.entity = entity) && texts.all (hasText entry.row) :=
    List.filter_congr fun entry _ => asksFor_eq htexts limit entry
  rw [horder, hasked, List.map_take, List.map_append] at hitems
  rw [listedIn, hlist, splitBy, storedRows, List.filter_map, List.filter_map]
  exact congrArg Except.ok hitems

/-! ### Workflows that are built -/

variable (lib : Libraries) (s : MapStore) (tenant : String)

/-- The workflow is that of the row, with a step for each of its nodes. -/
structure IsBuiltFrom (row : Json) (wf : LoadedWorkflow) : Prop where
  id : wf.id = lib.str row "id"
  name : wf.name = lib.str row "name"
  step : ∀ node ∈ nodesOf tenant (lib.str row "id") s,
    ∃ step ∈ wf.nodes, step.id = lib.str node "nodeKey" ∧ step.type = lib.str node "type"

/-- A workflow that can be built in one page: it has an id, and between one and two thousand nodes
with a key each. -/
structure Buildable (row : Json) : Prop where
  id : lib.str row "id" ≠ ""
  some_node : nodesOf tenant (lib.str row "id") s ≠ []
  one_page : (nodesOf tenant (lib.str row "id") s).length ≤ 2000
  keys : ∀ node ∈ nodesOf tenant (lib.str row "id") s, lib.str node "nodeKey" ≠ ""

/-- The search finds a workflow of one of the rows wherever there are any, and nothing else. -/
def FindsOne (wanted : List Json) (result : Option LoadedWorkflow) : Prop :=
  (wanted = [] → result = none) ∧
    (wanted ≠ [] → ∃ row ∈ wanted, ∃ wf, result = some wf ∧ IsBuiltFrom lib s tenant row wf)

variable {lib s tenant}

theorem rowsFor_eq {order : ListingOrder} (workflowId : String) :
    ∃ listed : List Json, listed.Perm (nodesOf tenant workflowId s) ∧
      rowsFor (listedIn order s) "WorkflowNode" tenant workflowId = listed.take 2000 := by
  obtain ⟨listed, hperm, hlist⟩ := @listedIn_eq order s "WorkflowNode"
    [("tenantId", tenant), ("workflowId", workflowId)] (by simp) 2000
  exact ⟨listed, hperm, by rw [rowsFor, hlist]; rfl⟩

theorem nodeKeys_perm {rows rows' : List Json} (h : rows.Perm rows') :
    (lib.nodeKeys rows).Perm (lib.nodeKeys rows') :=
  (h.map _).filter _

/-- The keys of the nodes are distinct in every workflow, as the schema has it. -/
def DistinctKeys (lib : Libraries) (tenant : String) (s : MapStore) : Prop :=
  ∀ workflowId, (lib.nodeKeys (nodesOf tenant workflowId s)).Nodup

theorem nodup_listed (hkeys : DistinctKeys lib tenant s) {workflowId : String} {listed : List Json}
    (h : listed.Perm (nodesOf tenant workflowId s)) : (lib.nodeKeys (listed.take 2000)).Nodup :=
  ((nodeKeys_perm h).nodup_iff.2 (hkeys workflowId)).sublist
    (((List.take_sublist 2000 listed).map _).filter _)

/-- **A workflow that fits on a page is built whole.** -/
theorem built_of_buildable (hkeys : DistinctKeys lib tenant s) {row : Json}
    (h : Buildable lib s tenant row) (order : ListingOrder) :
    ∃ wf, lib.buildWorkflow (listedIn order s) tenant row = some wf ∧
      IsBuiltFrom lib s tenant row wf := by
  obtain ⟨listed, hperm, hrows⟩ := @rowsFor_eq s tenant order (lib.str row "id")
  have hall : listed.take 2000 = listed :=
    List.take_of_length_le (by rw [hperm.length_eq]; exact h.one_page)
  have hnodup := nodup_listed hkeys hperm
  rw [← hrows] at hnodup
  obtain ⟨wf, hwf, hid, hname, -, hsteps⟩ := lib.exists_buildWorkflow h.id hnodup (by
    rw [hrows, hall]
    exact fun hnone => h.some_node (List.nil_perm.1 (hnone ▸ hperm)))
  refine ⟨wf, hwf, hid, hname, fun node hnode => ?_⟩
  obtain ⟨step, hmem, hkey, htype, -⟩ := hsteps node
    (by rw [hrows, hall]; exact hperm.mem_iff.2 hnode) (h.keys node hnode)
  exact ⟨step, hmem, hkey, htype⟩

/-- What is built has the id of its row, and steps for the keys that are listed only. -/
theorem built_eq (hkeys : DistinctKeys lib tenant s) {row : Json} {order : ListingOrder}
    {wf : LoadedWorkflow} (h : lib.buildWorkflow (listedIn order s) tenant row = some wf) :
    lib.str row "id" ≠ "" ∧ nodesOf tenant (lib.str row "id") s ≠ [] ∧
      wf.id = lib.str row "id" ∧ ∀ step ∈ wf.nodes, step.id ∈ lib.nodeKeys
        (rowsFor (listedIn order s) "WorkflowNode" tenant (lib.str row "id")) := by
  have hnot (hnone : row.isNull ∨ lib.str row "id" = "" ∨
      rowsFor (listedIn order s) "WorkflowNode" tenant (lib.str row "id") = []) : False := by
    rw [lib.buildWorkflow_of_no_row hnone] at h
    cases h
  have hid : lib.str row "id" ≠ "" := fun hid => hnot (Or.inr (Or.inl hid))
  have hrows : rowsFor (listedIn order s) "WorkflowNode" tenant (lib.str row "id") ≠ [] :=
    fun hrows => hnot (Or.inr (Or.inr hrows))
  obtain ⟨listed, hperm, hlisted⟩ := @rowsFor_eq s tenant order (lib.str row "id")
  have hnodup := nodup_listed hkeys hperm
  rw [← hlisted] at hnodup
  obtain ⟨wf', hwf, hid', -, horder, -⟩ := lib.exists_buildWorkflow hid hnodup hrows
  obtain rfl := Option.some.inj (h.symm.trans hwf)
  refine ⟨hid, fun hnone => hrows ?_, hid', fun step hstep => ?_⟩
  · rw [hnone] at hperm
    rw [hlisted, hperm.eq_nil, List.take_nil]
  · exact horder.perm.mem_iff.1 (List.mem_map_of_mem hstep)

/-- Two nodes with one key are one. -/
theorem node_unique (hkeys : DistinctKeys lib tenant s) {workflowId : String} {node node' : Json}
    (h : node ∈ nodesOf tenant workflowId s) (h' : node' ∈ nodesOf tenant workflowId s)
    (hkey : lib.str node "nodeKey" ≠ "") (hsame : lib.str node "nodeKey" = lib.str node' "nodeKey") :
    node = node' := by
  have hnodup := hkeys workflowId
  rw [Libraries.nodeKeys, List.filter_map] at hnodup
  refine List.inj_on_of_nodup_map hnodup (List.mem_filter.2 ⟨h, by simpa using hkey⟩)
    (List.mem_filter.2 ⟨h', ?_⟩) hsame
  rw [hsame] at hkey
  simpa using hkey

open Classical in
/-- The nodes other than one. -/
noncomputable def others (node row : Json) : Bool := decide (row ≠ node)

theorem length_others (hkeys : DistinctKeys lib tenant s) (workflowId : String) {node : Json}
    (hkey : lib.str node "nodeKey" ≠ "") :
    (nodesOf tenant workflowId s).length ≤
      ((nodesOf tenant workflowId s).filter (others node)).length + 1 := by
  have hsame : ∀ row ∈ (nodesOf tenant workflowId s).filter (fun row => !others node row),
      row = node := by
    intro row hrow
    simpa [others] using (List.mem_filter.1 hrow).2
  -- its copies have one key, so there are not two of them
  have hnodup : (lib.nodeKeys
      ((nodesOf tenant workflowId s).filter fun row => !others node row)).Nodup :=
    (hkeys workflowId).sublist ((List.filter_sublist.map _).filter _)
  have hcopies : ((nodesOf tenant workflowId s).filter fun row => !others node row).length ≤ 1 := by
    rw [List.eq_replicate_of_mem hsame, Libraries.nodeKeys, List.map_replicate,
      List.filter_replicate_of_pos (by simpa using hkey), List.nodup_replicate] at hnodup
    exact hnodup
  have hlength := List.length_eq_length_filter_add (l := nodesOf tenant workflowId s) (others node)
  omega

/-- **Where a workflow does not fit on a page, some order leaves a step of it out.** -/
theorem exists_not_built (hkeys : DistinctKeys lib tenant s) {row : Json}
    (h : ¬ Buildable lib s tenant row) :
    ∃ p : Json → Bool, ∀ order : ListingOrder,
      rowsFor (listedIn order s) "WorkflowNode" tenant (lib.str row "id") =
        (splitBy p (nodesOf tenant (lib.str row "id") s)).take 2000 →
      ∀ wf, lib.buildWorkflow (listedIn order s) tenant row = some wf →
        ¬ IsBuiltFrom lib s tenant row wf := by
  by_cases hempty : ∃ node ∈ nodesOf tenant (lib.str row "id") s, lib.str node "nodeKey" = ""
  · obtain ⟨node, hnode, hkey⟩ := hempty
    refine ⟨fun _ => true, fun order _ wf hwf hbuilt => ?_⟩
    obtain ⟨step, hstep, hid, -⟩ := hbuilt.step node hnode
    obtain ⟨-, -, -, hlisted⟩ := built_eq hkeys hwf
    have hin := (List.mem_filter.1 (hlisted step hstep)).2
    rw [hid, hkey] at hin
    cases hin
  · have hnamed : ∀ node ∈ nodesOf tenant (lib.str row "id") s, lib.str node "nodeKey" ≠ "" :=
      fun node hnode hkey => hempty ⟨node, hnode, hkey⟩
    cases hnodes : nodesOf tenant (lib.str row "id") s with
    | nil =>
        refine ⟨fun _ => true, fun order _ wf hwf _ => ?_⟩
        exact (built_eq hkeys hwf).2.1 hnodes
    | cons node rest =>
        have hnode : node ∈ nodesOf tenant (lib.str row "id") s := by
          rw [hnodes]
          exact List.mem_cons_self
        rw [← hnodes]
        refine ⟨others node, fun order hlist wf hwf hbuilt => ?_⟩
        obtain ⟨hid, hsome, -, hlisted⟩ := built_eq hkeys hwf
        have hmany : 2000 < (nodesOf tenant (lib.str row "id") s).length := by
          by_contra hfew
          exact h ⟨hid, hsome, Nat.le_of_not_lt hfew, hnamed⟩
        have hothers := length_others hkeys (lib.str row "id") (hnamed node hnode)
        obtain ⟨step, hstep, hkey, -⟩ := hbuilt.step node hnode
        have hin := hlisted step hstep
        rw [hlist, splitBy, List.take_append_of_le_length (by omega), hkey] at hin
        obtain ⟨listed, hmem, hsame⟩ := List.mem_map.1 (List.mem_filter.1 hin).1
        obtain ⟨hmem, hother⟩ := List.mem_filter.1 (List.mem_of_mem_take hmem)
        have heq := node_unique hkeys hnode hmem (hnamed node hnode) hsame.symm
        have hne : listed ≠ node := by simpa [others] using hother
        exact hne heq.symm

/-! ### Searches -/

/-- A row that is wanted is on the first page, where the others do not fill one. -/
theorem exists_mem_take {rows listed : List Json} (hperm : listed.Perm rows) {wanted : Json → Bool}
    {cap : Nat} (hfew : rows.countP (fun row => !wanted row) < cap)
    (hsome : rows.filter wanted ≠ []) : ∃ row ∈ listed.take cap, wanted row = true := by
  by_contra hnone
  have hothers : ∀ row ∈ listed.take cap, (!wanted row) = true := by
    intro row hrow
    rw [Bool.not_eq_true']
    exact Bool.eq_false_of_not_eq_true fun h => hnone ⟨row, hrow, h⟩
  have hlength : (listed.take cap).length ≤ rows.countP fun row => !wanted row := by
    rw [← List.countP_eq_length.2 hothers, ← hperm.countP_eq]
    exact (List.take_sublist cap listed).countP_le
  have hall : listed.take cap = listed := by
    refine List.take_of_length_le ?_
    rw [List.length_take] at hlength
    omega
  obtain ⟨row, hrow⟩ := List.exists_mem_of_ne_nil _ hsome
  obtain ⟨hmem, hwanted⟩ := List.mem_filter.1 hrow
  refine hnone ⟨row, ?_, hwanted⟩
  rw [hall]
  exact hperm.mem_iff.2 hmem

variable (lib s tenant) in
/-- **A search**: it reads one page of the rows and builds what it picks there, which is the first
of the rows that are wanted, if the page has one. -/
structure Selects (rows : List Json) (cap : Nat) (wanted : Json → Bool) (pick : List Json → Json)
    (result : ListingOrder → Option LoadedWorkflow) : Prop where
  listed : ∀ order, ∃ listed : List Json, listed.Perm rows ∧
    result order = lib.buildWorkflow (listedIn order s) tenant (pick (listed.take cap))
  arranged : ∀ (order : ListingOrder) (p : String → Json → Bool), Arranges order p s →
    result order = lib.buildWorkflow (listedIn order s) tenant
      (pick ((splitBy (p "Workflow") rows).take cap))
  pick_wanted : ∀ {page : List Json} {row : Json}, (∀ r ∈ page, r ∈ rows) →
    page.find? wanted = some row → pick page = row
  pick_other : ∀ page : List Json, pick page = .null ∨ pick page ∈ page
  pick_none : rows.filter wanted = [] → ∀ page : List Json, (∀ r ∈ page, r ∈ rows) →
    pick page = .null
  distinct : (rows.map fun row => lib.str row "id").Nodup

theorem mem_splitBy {p : Json → Bool} {rows : List Json} {row : Json} :
    row ∈ splitBy p rows ↔ row ∈ rows := by
  rw [splitBy, (List.filter_append_perm p rows).mem_iff]

section

variable {rows : List Json} {cap : Nat} {wanted : Json → Bool} {pick : List Json → Json}
  {result : ListingOrder → Option LoadedWorkflow}

/-- Enough to find the right row. -/
theorem Selects.findsOne (h : Selects lib s tenant rows cap wanted pick result)
    (hkeys : DistinctKeys lib tenant s) (hfew : rows.countP (fun row => !wanted row) < cap)
    (hbuildable : ∀ row ∈ rows.filter wanted, Buildable lib s tenant row) (order : ListingOrder) :
    FindsOne lib s tenant (rows.filter wanted) (result order) := by
  obtain ⟨listed, hperm, hresult⟩ := h.listed order
  have hpage : ∀ r ∈ listed.take cap, r ∈ rows :=
    fun r hr => hperm.mem_iff.1 (List.mem_of_mem_take hr)
  refine ⟨fun hnone => ?_, fun hsome => ?_⟩
  · rw [hresult, h.pick_none hnone _ hpage]
    exact lib.buildWorkflow_of_no_row (Or.inl rfl)
  · obtain ⟨row, hrow, hwanted⟩ := exists_mem_take hperm hfew hsome
    obtain ⟨found, hfound⟩ := Option.isSome_iff_exists.1 (List.find?_isSome.2 ⟨row, hrow, hwanted⟩)
    have hmem : found ∈ rows.filter wanted :=
      List.mem_filter.2 ⟨hpage _ (List.mem_of_find?_eq_some hfound), List.find?_some hfound⟩
    obtain ⟨wf, hwf, hbuilt⟩ := built_of_buildable hkeys (hbuildable found hmem) order
    exact ⟨found, hmem, wf, by rw [hresult, h.pick_wanted hpage hfound, hwf], hbuilt⟩

/-- Two rows with one id are one. -/
theorem Selects.row_unique (h : Selects lib s tenant rows cap wanted pick result) {row row' : Json}
    (hrow : row ∈ rows) (hrow' : row' ∈ rows) (hid : lib.str row "id" = lib.str row' "id") :
    row = row' :=
  List.inj_on_of_nodup_map h.distinct hrow hrow' hid

/-- A page of other rows leaves every wanted one out. -/
theorem Selects.few (h : Selects lib s tenant rows cap wanted pick result)
    (hkeys : DistinctKeys lib tenant s)
    (hall : ∀ order, FindsOne lib s tenant (rows.filter wanted) (result order))
    (hsome : rows.filter wanted ≠ []) : rows.countP (fun row => !wanted row) < cap := by
  by_contra hmany
  obtain ⟨order, horder⟩ := exists_arranges (fun _ row => !wanted row) s
  obtain ⟨row, hrow, wf, hwf, hbuilt⟩ := (hall order).2 hsome
  obtain ⟨hmem, hwanted⟩ := List.mem_filter.1 hrow
  have hresult := h.arranged order _ horder
  rw [splitBy, List.take_append_of_le_length (by rw [← List.countP_eq_length_filter]; omega)] at hresult
  rw [hresult] at hwf
  rcases h.pick_other ((rows.filter fun row => !wanted row).take cap) with hnull | hpicked
  · rw [hnull, lib.buildWorkflow_of_no_row (Or.inl rfl)] at hwf
    cases hwf
  · obtain ⟨hin, hother⟩ := List.mem_filter.1 (List.mem_of_mem_take hpicked)
    have hsame := h.row_unique hin hmem ((built_eq hkeys hwf).2.2.1.symm.trans hbuilt.id)
    rw [hsame, hwanted] at hother
    cases hother

open Classical in
/-- The rows that are first in an order, and the nodes that are. -/
noncomputable def rowFirst (row : Json) (p : Json → Bool) (entity : String) (r : Json) : Bool :=
  if entity = "WorkflowNode" then p r else decide (r = row)

theorem splitBy_rowFirst {row : Json} (p : Json → Bool) (hrow : row ∈ rows) :
    ∃ rest, splitBy (rowFirst row p "Workflow") rows = row :: rest := by
  have hmem : row ∈ rows.filter (rowFirst row p "Workflow") :=
    List.mem_filter.2 ⟨hrow, by simp [rowFirst]⟩
  rw [splitBy]
  cases hfirst : rows.filter (rowFirst row p "Workflow") with
  | nil =>
      rw [hfirst] at hmem
      cases hmem
  | cons first rest =>
      have hin : first ∈ rows.filter (rowFirst row p "Workflow") := by
        rw [hfirst]
        exact List.mem_cons_self
      obtain rfl : first = row := by simpa [rowFirst] using (List.mem_filter.1 hin).2
      exact ⟨_, List.cons_append⟩

/-- A row that is listed first is picked, so it has to be one that can be built. -/
theorem Selects.buildable (h : Selects lib s tenant rows cap wanted pick result)
    (hkeys : DistinctKeys lib tenant s) (hcap : 0 < cap)
    (hall : ∀ order, FindsOne lib s tenant (rows.filter wanted) (result order)) {row : Json}
    (hrow : row ∈ rows.filter wanted) : Buildable lib s tenant row := by
  by_contra hnot
  obtain ⟨p, hp⟩ := exists_not_built hkeys hnot
  obtain ⟨order, horder⟩ := exists_arranges (rowFirst row p) s
  obtain ⟨hmem, hwanted⟩ := List.mem_filter.1 hrow
  obtain ⟨rest, hfirst⟩ := splitBy_rowFirst p hmem
  have hresult := h.arranged order _ horder
  obtain ⟨n, rfl⟩ : ∃ n, cap = n + 1 := ⟨cap - 1, by omega⟩
  have hpick : pick ((splitBy (rowFirst row p "Workflow") rows).take (n + 1)) = row := by
    refine h.pick_wanted (fun r hr => mem_splitBy.1 (List.mem_of_mem_take hr)) ?_
    rw [hfirst, List.take_succ_cons, List.find?_cons_of_pos hwanted]
  rw [hpick] at hresult
  obtain ⟨row', hrow', wf, hwf, hbuilt⟩ := (hall order).2 (List.ne_nil_of_mem hrow)
  rw [hresult] at hwf
  have hsame := h.row_unique (List.mem_filter.1 hrow').1 hmem
    (hbuilt.id.symm.trans (built_eq hkeys hwf).2.2.1)
  rw [hsame] at hbuilt
  refine hp order ?_ wf hwf hbuilt
  have hnodes := horder "WorkflowNode" [("tenantId", tenant), ("workflowId", lib.str row "id")] 2000
    (by simp)
  rw [rowsFor, hnodes]
  rfl

/-- **When a search finds what is wanted in whatever order the rows come**: nothing is wanted, or the
other rows do not fill a page and every row that is wanted can be built. -/
theorem Selects.iff (h : Selects lib s tenant rows cap wanted pick result)
    (hkeys : DistinctKeys lib tenant s) :
    (∀ order, FindsOne lib s tenant (rows.filter wanted) (result order)) ↔
      rows.filter wanted = [] ∨ (rows.countP (fun row => !wanted row) < cap ∧
        ∀ row ∈ rows.filter wanted, Buildable lib s tenant row) := by
  constructor
  · intro hall
    by_cases hsome : rows.filter wanted = []
    · exact Or.inl hsome
    · have hfew := h.few hkeys hall hsome
      exact Or.inr ⟨hfew, fun row hrow => h.buildable hkeys (Nat.zero_lt_of_lt hfew) hall hrow⟩
  · rintro (hnone | ⟨hfew, hbuildable⟩) order
    · obtain ⟨listed, hperm, hresult⟩ := h.listed order
      refine ⟨fun _ => ?_, fun hsome => absurd hnone hsome⟩
      rw [hresult, h.pick_none hnone _ fun r hr => hperm.mem_iff.1 (List.mem_of_mem_take hr)]
      exact lib.buildWorkflow_of_no_row (Or.inl rfl)
    · exact h.findsOne hkeys hfew hbuildable order

end

end

/-! ### By the form -/

/-- A published workflow that names the form. -/
def forForm (form : String) (row : Json) : Bool := !isDraft row && decide (formNameOf row = form)

/-- The workflows that are to answer a form: those that name it, or else those that name none. -/
def answers (form : String) (rows : List Json) : Json → Bool :=
  if rows.any (forForm form) then forForm form else forForm ""

/-- A published workflow of this form, which is not left open. -/
def namesForm (form : String) (row : Json) : Bool := decide (form ≠ "") && forForm form row

/-- `bestForForm` in one look at the rows for each of its two wishes. -/
theorem bestForForm_eq (form : String) {rows : List Json} (hrows : ∀ row ∈ rows, ¬ row.isNull)
    (anyForm : Json) :
    bestForForm form anyForm rows =
      ((rows.find? (namesForm form)).or
        (if anyForm.isNull then rows.find? (forForm "") else none)).getD anyForm := by
  induction rows generalizing anyForm with
  | nil => cases anyForm <;> rfl
  | cons row rows ih =>
      obtain ⟨hrow, hrest⟩ := List.forall_mem_cons.1 hrows
      unfold bestForForm
      dsimp only
      by_cases hdraft : isDraft row = true
      · have hnot (f : String) : forForm f row = false := by simp [forForm, hdraft]
        rw [if_pos hdraft, ih hrest, List.find?_cons_of_neg (by simp [namesForm, hnot]),
          List.find?_cons_of_neg (by simp [hnot])]
      rw [if_neg hdraft]
      by_cases hform : formNameOf row ≠ "" ∧ formNameOf row = form
      · have hthis : forForm form row = true := by simp [forForm, hdraft, hform.2]
        have hnamed : form ≠ "" := hform.2 ▸ hform.1
        rw [if_pos hform, List.find?_cons_of_pos (by simp [namesForm, hthis, hnamed])]
        rfl
      have hnot : ¬ namesForm form row = true := by
        rw [namesForm, Bool.and_eq_true, decide_eq_true_eq, forForm, Bool.and_eq_true,
          decide_eq_true_eq]
        rintro ⟨hne, -, heq⟩
        exact hform ⟨heq ▸ hne, heq⟩
      rw [if_neg hform, List.find?_cons_of_neg hnot]
      by_cases hnone : formNameOf row = "" ∧ anyForm.isNull = true
      · have hany : forForm "" row = true := by simp [forForm, hdraft, hnone.1]
        rw [if_pos hnone, ih hrest, if_neg hrow, if_pos hnone.2, List.find?_cons_of_pos hany,
          Option.or_none]
        cases rows.find? (namesForm form) <;> rfl
      · rw [if_neg hnone, ih hrest]
        by_cases hnull : anyForm.isNull = true
        · have hnamed : ¬ forForm "" row = true := by
            rw [forForm, Bool.and_eq_true, decide_eq_true_eq]
            rintro ⟨-, heq⟩
            exact hnone ⟨heq, hnull⟩
          rw [List.find?_cons_of_neg hnamed]
        · rw [if_neg hnull, if_neg hnull]

theorem not_isNull_of_stored {entity : String} {texts : List (String × String)} {s : MapStore}
    (htexts : texts ≠ []) {row : Json} (h : row ∈ storedRows entity texts s) : ¬ row.isNull := by
  intro hnull
  obtain rfl := Json.eq_null_of_isNull hnull
  obtain ⟨entry, hentry, hrow⟩ := List.mem_map.1 h
  obtain ⟨text, htext⟩ := List.exists_mem_of_ne_nil _ htexts
  have hall := (Bool.and_eq_true_iff.1 (List.mem_filter.1 hentry).2).2
  have hfield := List.all_eq_true.1 hall text htext
  rw [hrow] at hfield
  cases hfield

theorem find?_namesForm_of_not_any {form : String} {rows page : List Json}
    (hany : ¬ rows.any (forForm form) = true) (hpage : ∀ r ∈ page, r ∈ rows) :
    page.find? (namesForm form) = none := by
  refine List.find?_eq_none.2 fun r hr hnames => hany (List.any_eq_true.2 ⟨r, hpage r hr, ?_⟩)
  exact (Bool.and_eq_true_iff.1 hnames).2

/-- **The search by the form.** -/
theorem selects_form (lib : Libraries) {s : MapStore} {tenant triggerEvent form : String}
    (hids : ((workflowsOf tenant triggerEvent s).map fun row => lib.str row "id").Nodup) :
    Selects lib s tenant (workflowsOf tenant triggerEvent s) 100
      (answers form (workflowsOf tenant triggerEvent s)) (bestForForm form .null)
      fun order => lib.loadTenantWorkflow tenant triggerEvent form (listedIn order s) := by
  have htexts : ([("tenantId", tenant), ("triggerEvent", triggerEvent)].map Prod.fst).Nodup := by simp
  have hnotnull : ∀ row ∈ workflowsOf tenant triggerEvent s, ¬ row.isNull :=
    fun row => not_isNull_of_stored (by simp)
  constructor
  · intro order
    obtain ⟨listed, hperm, hlist⟩ := @listedIn_eq order s "Workflow" _ htexts 100
    exact ⟨listed, hperm, by rw [Libraries.loadTenantWorkflow, hlist]; rfl⟩
  · intro order p horder
    rw [Libraries.loadTenantWorkflow, horder "Workflow" _ 100 htexts]
    rfl
  · intro page row hpage hfind
    rw [bestForForm_eq form fun r hr => hnotnull r (hpage r hr)]
    unfold answers at hfind
    split at hfind
    · next hany =>
        by_cases hform : form = ""
        · have hnone : page.find? (namesForm form) = none :=
            List.find?_eq_none.2 fun r _ => by simp [namesForm, hform]
          subst hform
          rw [hnone, Option.none_or, if_pos Json.isNull_null, hfind]
          rfl
        · have hsame : namesForm form = forForm form := funext fun r => by simp [namesForm, hform]
          rw [hsame, hfind]
          rfl
    · next hany =>
        rw [find?_namesForm_of_not_any hany hpage, Option.none_or, if_pos Json.isNull_null, hfind]
        rfl
  · exact fun page => (bestForForm_mem form .null page).imp_right And.left
  · intro hnone page hpage
    rw [bestForForm_eq form fun r hr => hnotnull r (hpage r hr)]
    unfold answers at hnone
    split at hnone
    · next hany =>
        obtain ⟨row, hrow, hform⟩ := List.any_eq_true.1 hany
        exact absurd hform (List.filter_eq_nil_iff.1 hnone row hrow)
    · next hany =>
        have hopen : page.find? (forForm "") = none :=
          List.find?_eq_none.2 fun r hr => List.filter_eq_nil_iff.1 hnone r (hpage r hr)
        rw [find?_namesForm_of_not_any hany hpage, Option.none_or, if_pos Json.isNull_null, hopen]
        rfl
  · exact hids

/-! ### By the name -/

/-- A published workflow. -/
def isPublished (row : Json) : Bool := !isDraft row

/-- The rows among which a name is looked up: those with this id, where a published one is among
them, and otherwise those with this name. -/
def namedRows (tenant named triggerEvent : String) (s : MapStore) : List Json :=
  if (workflowsUnder tenant "id" named triggerEvent s).any isPublished then
    workflowsUnder tenant "id" named triggerEvent s
  else workflowsUnder tenant "name" named triggerEvent s

theorem firstPublished_eq (rows : List Json) :
    firstPublished rows = (rows.find? isPublished).getD .null := rfl

section

variable (lib : Libraries) {s : MapStore} {tenant named triggerEvent : String}

theorem workflowsUnder_sublist (tenant column named triggerEvent : String) (s : MapStore) :
    (workflowsUnder tenant column named triggerEvent s).Sublist
      (workflowsOf tenant triggerEvent s) := by
  refine (List.monotone_filter_right _ fun entry h => ?_).map Entry.row
  simp only [List.all_cons, List.all_nil, Bool.and_true, Bool.and_eq_true] at h ⊢
  exact ⟨h.1, h.2.1, h.2.2.2⟩

/-- An id is that of one row at most. -/
theorem length_byId
    (hids : ((workflowsOf tenant triggerEvent s).map fun row => lib.str row "id").Nodup) :
    (workflowsUnder tenant "id" named triggerEvent s).length ≤ 1 := by
  have hnamed : ∀ row ∈ workflowsUnder tenant "id" named triggerEvent s,
      lib.str row "id" = named := by
    intro row hrow
    obtain ⟨entry, hentry, rfl⟩ := List.mem_map.1 hrow
    have hall := (Bool.and_eq_true_iff.1 (List.mem_filter.1 hentry).2).2
    have hfield := Json.beq_some_str_iff.1 (List.all_eq_true.1 hall ("id", named) (by simp))
    rw [Libraries.str, hfield]
  have hnodup := hids.sublist
    ((workflowsUnder_sublist tenant "id" named triggerEvent s).map fun row => lib.str row "id")
  have hsame : ∀ key ∈ (workflowsUnder tenant "id" named triggerEvent s).map
      (fun row => lib.str row "id"), key = named := by
    intro key hkey
    obtain ⟨row, hrow, rfl⟩ := List.mem_map.1 hkey
    exact hnamed row hrow
  rw [List.eq_replicate_of_mem hsame, List.nodup_replicate, List.length_map] at hnodup
  exact hnodup

/-- Where a published row has the id, the first published one of the page is one. -/
theorem firstPublished_byId {byId : List Json}
    (hid : byId.Perm (workflowsUnder tenant "id" named triggerEvent s)) :
    (firstPublished byId).isNull =
      !(workflowsUnder tenant "id" named triggerEvent s).any isPublished := by
  rw [firstPublished_eq, ← hid.any_eq]
  cases hfind : byId.find? isPublished with
  | none =>
      have hnone : byId.any isPublished = false := List.any_eq_false.2 (List.find?_eq_none.1 hfind)
      rw [hnone]
      rfl
  | some row =>
      have hmem := hid.mem_iff.1 (List.mem_of_find?_eq_some hfind)
      have hsome : byId.any isPublished = true :=
        List.any_eq_true.2 ⟨row, List.mem_of_find?_eq_some hfind, List.find?_some hfind⟩
      rw [hsome]
      exact Bool.eq_false_of_not_eq_true (not_isNull_of_stored (by simp) hmem)

/-- Both columns in one: what is built is the first published row of the page that counts. -/
theorem loadNamed_eq (hids : ((workflowsOf tenant triggerEvent s).map fun row =>
      lib.str row "id").Nodup) {list : ListEntities} {byId byName : List Json}
    (hid : byId.Perm (workflowsUnder tenant "id" named triggerEvent s))
    (hidlist : list "Workflow" { filter := .ofList [("tenantId", tenant), ("id", named),
      ("triggerEvent", triggerEvent)], limit := 10 } = .ok (byId.take 10))
    (hnamelist : list "Workflow" { filter := .ofList [("tenantId", tenant), ("name", named),
      ("triggerEvent", triggerEvent)], limit := 10 } = .ok (byName.take 10)) :
    lib.loadTenantWorkflowNamed tenant named triggerEvent list =
      lib.buildWorkflow list tenant (firstPublished
        ((if (workflowsUnder tenant "id" named triggerEvent s).any isPublished then byId
          else byName).take 10)) := by
  have hall : byId.take 10 = byId := by
    refine List.take_of_length_le ?_
    have hone : (workflowsUnder tenant "id" named triggerEvent s).length ≤ 1 := length_byId lib hids
    rw [hid.length_eq]
    omega
  rw [Libraries.loadTenantWorkflowNamed, Libraries.loadByColumn, hidlist, hall]
  dsimp only
  rw [firstPublished_byId hid]
  cases (workflowsUnder tenant "id" named triggerEvent s).any isPublished with
  | true =>
      rw [Bool.not_true, if_neg Bool.false_ne_true, if_pos rfl, hall]
  | false =>
      rw [Bool.not_false, if_pos rfl, if_neg Bool.false_ne_true, Libraries.loadByColumn, hnamelist]
      dsimp only
      split
      · next hnull => exact (lib.buildWorkflow_of_no_row (Or.inl hnull)).symm
      · rfl

/-- **The search by the name.** -/
theorem selects_named
    (hids : ((workflowsOf tenant triggerEvent s).map fun row => lib.str row "id").Nodup) :
    Selects lib s tenant (namedRows tenant named triggerEvent s) 10 isPublished firstPublished
      fun order => lib.loadTenantWorkflowNamed tenant named triggerEvent (listedIn order s) := by
  have htexts (column : String) (hcolumn : column = "id" ∨ column = "name") :
      ([("tenantId", tenant), (column, named), ("triggerEvent", triggerEvent)].map Prod.fst).Nodup := by
    rcases hcolumn with rfl | rfl <;> simp
  constructor
  · intro order
    obtain ⟨byId, hid, hidlist⟩ := @listedIn_eq order s "Workflow" _ (htexts "id" (Or.inl rfl)) 10
    obtain ⟨byName, hname, hnamelist⟩ :=
      @listedIn_eq order s "Workflow" _ (htexts "name" (Or.inr rfl)) 10
    refine ⟨_, ?_, loadNamed_eq lib hids hid hidlist hnamelist⟩
    rw [namedRows]
    split
    · exact hid
    · exact hname
  · intro order p horder
    have hid := horder "Workflow" _ 10 (htexts "id" (Or.inl rfl))
    have hname := horder "Workflow" _ 10 (htexts "name" (Or.inr rfl))
    rw [loadNamed_eq lib hids (List.filter_append_perm _ _) hid hname, namedRows]
    split
    · rfl
    · rfl
  · intro page row hpage hfind
    rw [firstPublished_eq, hfind]
    rfl
  · intro page
    rw [firstPublished_eq]
    cases hfind : page.find? isPublished with
    | none => exact Or.inl rfl
    | some row => exact Or.inr (List.mem_of_find?_eq_some hfind)
  · intro hnone page hpage
    have hfind : page.find? isPublished = none :=
      List.find?_eq_none.2 fun r hr => List.filter_eq_nil_iff.1 hnone r (hpage r hr)
    rw [firstPublished_eq, hfind]
    rfl
  · refine hids.sublist ?_
    rw [namedRows]
    split
    · exact (workflowsUnder_sublist tenant "id" named triggerEvent s).map _
    · exact (workflowsUnder_sublist tenant "name" named triggerEvent s).map _

end

/-- The workflows that are to answer a form of the tenant. -/
def answeringRows (tenant triggerEvent form : String) (s : MapStore) : List Json :=
  (workflowsOf tenant triggerEvent s).filter (answers form (workflowsOf tenant triggerEvent s))

/-- The published workflows that a name stands for. -/
def meantRows (tenant named triggerEvent : String) (s : MapStore) : List Json :=
  (namedRows tenant named triggerEvent s).filter isPublished

/-- **When the right workflow is found**, and whole, in whatever order the store lists its rows: there
is none, or the other workflows with its tenant and trigger are fewer than a hundred (and those with
its name fewer than ten), and the nodes of each that may be picked fit on a page. -/
theorem finds_workflow_iff (lib : Libraries) (tenant triggerEvent : String) (s : MapStore)
    (hids : ((workflowsOf tenant triggerEvent s).map fun row => lib.str row "id").Nodup)
    (hkeys : DistinctKeys lib tenant s) :
    (∀ form,
      (∀ order, FindsOne lib s tenant (answeringRows tenant triggerEvent form s)
        (lib.loadTenantWorkflow tenant triggerEvent form (listedIn order s))) ↔
      answeringRows tenant triggerEvent form s = [] ∨
        ((workflowsOf tenant triggerEvent s).countP
            (fun row => !answers form (workflowsOf tenant triggerEvent s) row) < 100 ∧
          ∀ row ∈ answeringRows tenant triggerEvent form s, Buildable lib s tenant row)) ∧
    ∀ named,
      (∀ order, FindsOne lib s tenant (meantRows tenant named triggerEvent s)
        (lib.loadTenantWorkflowNamed tenant named triggerEvent (listedIn order s))) ↔
      meantRows tenant named triggerEvent s = [] ∨
        ((namedRows tenant named triggerEvent s).countP (fun row => !isPublished row) < 10 ∧
          ∀ row ∈ meantRows tenant named triggerEvent s, Buildable lib s tenant row) :=
  ⟨fun _ => (selects_form lib hids).iff hkeys, fun _ => (selects_named lib hids).iff hkeys⟩

/-- A workflow of a tenant. -/
def formWorkflow (id : String) (more : List (String × Json)) : Entry :=
  ⟨"Workflow", id, .obj ([("id", .str id), ("tenantId", .str "acme"),
    ("triggerEvent", .str "FormSubmission.created")] ++ more)⟩

/-- A published workflow with one node, and others. -/
def oneWorkflow (others : List Entry) : MapStore where
  rows := others ++ [formWorkflow "wf" [("name", .str "thanks")],
    ⟨"WorkflowNode", "n1", .obj [("id", .str "n1"), ("tenantId", .str "acme"),
      ("workflowId", .str "wf"), ("nodeKey", .str "note"), ("type", .str "dbal.log")]⟩]

theorem one_workflow_found :
    (∀ order, FindsOne demoLibraries (oneWorkflow []) "acme"
      (answeringRows "acme" "FormSubmission.created" "contact" (oneWorkflow []))
      (demoLibraries.loadTenantWorkflow "acme" "FormSubmission.created" "contact"
        (listedIn order (oneWorkflow [])))) ∧
    ∀ order, FindsOne demoLibraries (oneWorkflow []) "acme"
      (meantRows "acme" "thanks" "FormSubmission.created" (oneWorkflow []))
      (demoLibraries.loadTenantWorkflowNamed "acme" "thanks" "FormSubmission.created"
        (listedIn order (oneWorkflow []))) := by
  have hkeys : DistinctKeys demoLibraries "acme" (oneWorkflow []) := by
    intro workflowId
    have hall : (demoLibraries.nodeKeys (storedRows "WorkflowNode" [] (oneWorkflow []))).Nodup := by
      decide +kernel
    refine hall.sublist ((List.Sublist.map _ ?_).filter _)
    refine (List.monotone_filter_right _ fun entry h => ?_).map Entry.row
    exact Bool.and_eq_true_iff.2 ⟨(Bool.and_eq_true_iff.1 h).1, rfl⟩
  have hform : answeringRows "acme" "FormSubmission.created" "contact" (oneWorkflow []) =
      [(formWorkflow "wf" [("name", .str "thanks")]).row] := rfl
  have hnamed : meantRows "acme" "thanks" "FormSubmission.created" (oneWorkflow []) =
      [(formWorkflow "wf" [("name", .str "thanks")]).row] := rfl
  have hbuildable : Buildable demoLibraries (oneWorkflow []) "acme"
      (formWorkflow "wf" [("name", .str "thanks")]).row := by
    constructor <;> decide +kernel
  have hfinds := finds_workflow_iff demoLibraries "acme" "FormSubmission.created" (oneWorkflow [])
    (by decide +kernel) hkeys
  refine ⟨(hfinds.1 "contact").2 (Or.inr ⟨by decide +kernel, ?_⟩),
    (hfinds.2 "thanks").2 (Or.inr ⟨by decide +kernel, ?_⟩)⟩
  · rw [hform]
    exact List.forall_mem_singleton.2 hbuildable
  · rw [hnamed]
    exact List.forall_mem_singleton.2 hbuildable

/-- A hundred drafts. -/
def drafts : List Entry :=
  (List.range 100).map fun n => formWorkflow (toString n) [("isPublished", .bool false)]

/-- A published workflow is not found behind a hundred drafts. -/
theorem hidden_by_drafts :
    ¬ FindsOne demoLibraries (oneWorkflow drafts) "acme"
      (answeringRows "acme" "FormSubmission.created" "contact" (oneWorkflow drafts))
      (demoLibraries.loadTenantWorkflow "acme" "FormSubmission.created" "contact"
        (listedIn .stored (oneWorkflow drafts))) := by
  have hnone : demoLibraries.loadTenantWorkflow "acme" "FormSubmission.created" "contact"
      (listedIn .stored (oneWorkflow drafts)) = none := by rfl
  have hsome : answeringRows "acme" "FormSubmission.created" "contact" (oneWorkflow drafts) ≠ [] := by
    decide +kernel
  intro hfinds
  obtain ⟨row, -, wf, hwf, -⟩ := hfinds.2 hsome
  rw [hnone] at hwf
  cases hwf

end WfGraph
end Dbal
