/-
# A workflow from its rows

`src/workflow/wf_graph_loader.cpp` (`buildWorkflow`) and `decodeParam` of
`src/workflow/wf_graph_order.cpp`.  The rows of the steps, of their parameters and of their
connections are what three listings answer; the steps come back in the order of
`topologicalOrder`, each with its own parameters.
-/

import Dbal.Core.Error
import Dbal.Core.Query
import Dbal.Json
import Dbal.Workflow.GraphOrder

namespace Dbal
namespace WfGraph

/-! ### The loader -/

/-- The JSON library, and `std::stod` with the number of bytes that it has read. -/
structure Libraries where
  dump : Json → String
  parse : String → Option Json
  stod : String → Option (Json × Nat)

/-- `WfNode`. -/
structure WfNode where
  id : String
  type : String
  parameters : Json
  outputs : Json

/-- `LoadedWorkflow`. -/
structure LoadedWorkflow where
  id : String
  name : String
  nodes : List WfNode

/-- The listing of an entity. -/
abbrev ListEntities := String → ListOptions → Except Error (List Json)

/-- `rowsFor`. -/
def rowsFor (listEntities : ListEntities) (entity tenant workflowId : String) : List Json :=
  let opts : ListOptions :=
    { filter := .ofList [("tenantId", tenant), ("workflowId", workflowId)], limit := 2000 }
  match listEntities entity opts with
  | .ok items => items
  | .error _ => []

namespace Libraries

variable (lib : Libraries)

/-- `str`. -/
def str (row : Json) (key : String) : String :=
  match row.find? key with
  | none | some .null => ""
  | some (.str s) => s
  | some value => lib.dump value

/-- `decodeParam`.  A number that is not the whole text is none. -/
def decodeParam (value type : String) : Json :=
  if type = "number" then
    match lib.stod value with
    | some (n, used) => if used = value.utf8ByteSize then n else .str value
    | none => .str value
  else if type = "boolean" then .bool (value = "true")
  else if type = "json" then (lib.parse value).getD (.str value)
  else .str value

/-- The value in a row of parameters. -/
def paramValue (row : Json) : Json := lib.decodeParam (lib.str row "value") (lib.str row "valueType")

/-- `params_by_node` and `outputs_by_node`. -/
structure Params where
  params : Std.TreeMap String Json := ∅
  outputs : Std.TreeMap String Json := ∅

/-- One round of the loop over the parameters. -/
def addParam (s : Params) (row : Json) : Params :=
  let nodeId := lib.str row "nodeId"
  let name := lib.str row "name"
  if nodeId = "" ∨ name = "" then s
  else if name = "outputs" then
    if (lib.paramValue row).isObject then
      { s with outputs := s.outputs.insert nodeId (lib.paramValue row) }
    else s
  else
    let params := s.params[nodeId]?.getD (.obj [])
    { s with params := s.params.insert nodeId (params.set name (lib.paramValue row)) }

/-- The loop over the parameters. -/
def groupParams (rows : List Json) : Params := rows.foldl lib.addParam {}

/-- `keys`. -/
def nodeKeys (rows : List Json) : List String :=
  (rows.map fun row => lib.str row "nodeKey").filter fun key => key ≠ ""

/-- `row_by_key`. -/
def rowByKey (rows : List Json) : Std.TreeMap String Json :=
  rows.foldl (fun rowByKey row =>
    if lib.str row "nodeKey" = "" then rowByKey else rowByKey.insert (lib.str row "nodeKey") row) ∅

/-- `edges`. -/
def edges (rows : List Json) : List (String × String) :=
  (rows.map fun row => (lib.str row "sourceKey", lib.str row "targetKey")).filter fun edge =>
    edge.1 ≠ "" ∧ edge.2 ≠ ""

/-- The node for a key. -/
def toNode (params : Params) (row : Json) (key : String) : WfNode where
  id := key
  type := lib.str row "type"
  parameters := params.params[lib.str row "id"]?.getD (.obj [])
  outputs := params.outputs[lib.str row "id"]?.getD (.obj [])

/-- `buildWorkflow`. -/
def buildWorkflow (listEntities : ListEntities) (tenant : String) (chosen : Json) :
    Option LoadedWorkflow :=
  let id := lib.str chosen "id"
  if chosen.isNull ∨ id = "" then none
  else
    let nodeRows := rowsFor listEntities "WorkflowNode" tenant id
    if nodeRows.isEmpty then none
    else
      let params := lib.groupParams (rowsFor listEntities "WorkflowNodeParam" tenant id)
      let edges := lib.edges (rowsFor listEntities "WorkflowEdge" tenant id)
      let rowByKey := lib.rowByKey nodeRows
      some
        { id, name := lib.str chosen "name"
          nodes := (topologicalOrder (lib.nodeKeys nodeRows) edges).map fun key =>
            lib.toNode params (rowByKey[key]?.getD .null) key }

/-! ### The parameters of a node -/

/-- The rows that give a node a parameter of some name. -/
def paramRows (rows : List Json) (nodeId name : String) : List Json :=
  rows.filter fun row => nodeId ≠ "" ∧ lib.str row "nodeId" = nodeId ∧ lib.str row "name" = name

/-- The parameters and the outputs of a node, and nothing else: of several rows with one name the
last counts, and of the outputs the last that is an object. -/
structure Carries (rows : List Json) (nodeId : String) (parameters outputs : Json) : Prop where
  isObject : parameters.isObject
  find? : ∀ name, parameters.find? name =
    if name = "" ∨ name = "outputs" then none
    else (lib.paramRows rows nodeId name).getLast?.map lib.paramValue
  outputs : outputs =
    (((lib.paramRows rows nodeId "outputs").map lib.paramValue).filter Json.isObject).getLast?.getD
      (.obj [])

theorem paramRows_concat (rows : List Json) (row : Json) (nodeId name : String) :
    lib.paramRows (rows ++ [row]) nodeId name =
      if nodeId ≠ "" ∧ lib.str row "nodeId" = nodeId ∧ lib.str row "name" = name then
        lib.paramRows rows nodeId name ++ [row]
      else lib.paramRows rows nodeId name := by
  rw [paramRows, List.filter_append, List.filter_singleton]
  by_cases h : nodeId ≠ "" ∧ lib.str row "nodeId" = nodeId ∧ lib.str row "name" = name
  · rw [if_pos h, decide_eq_true h, cond_true, paramRows]
  · rw [if_neg h, decide_eq_false h, cond_false, List.append_nil, paramRows]

/-- A row that has nothing to say of a node. -/
theorem Carries.skip {lib : Libraries} {rows : List Json} {nodeId : String}
    {parameters outputs : Json} (h : lib.Carries rows nodeId parameters outputs) {row : Json}
    (hskip : nodeId = "" ∨ lib.str row "nodeId" ≠ nodeId ∨ lib.str row "name" = "") :
    lib.Carries (rows ++ [row]) nodeId parameters outputs := by
  have hsame : ∀ name, name ≠ "" →
      lib.paramRows (rows ++ [row]) nodeId name = lib.paramRows rows nodeId name := by
    intro name hname
    rw [paramRows_concat, if_neg]
    rintro ⟨hnode, hrow, rfl⟩
    tauto
  refine ⟨h.isObject, fun name => ?_, ?_⟩
  · rw [h.find? name]
    by_cases hname : name = "" ∨ name = "outputs"
    · rw [if_pos hname, if_pos hname]
    · rw [if_neg hname, if_neg hname, hsame name fun h => hname (Or.inl h)]
  · rw [hsame "outputs" (by decide)]
    exact h.outputs

/-- A row that sets a parameter of the node. -/
theorem Carries.setParam {lib : Libraries} {rows : List Json} {nodeId : String}
    {parameters outputs : Json} (h : lib.Carries rows nodeId parameters outputs) {row : Json}
    (hnode : lib.str row "nodeId" = nodeId) (hnamed : nodeId ≠ "") (hname : lib.str row "name" ≠ "")
    (hother : lib.str row "name" ≠ "outputs") :
    lib.Carries (rows ++ [row]) nodeId (parameters.set (lib.str row "name") (lib.paramValue row))
      outputs := by
  obtain ⟨hobject, hfind, houtputs⟩ := h
  obtain ⟨members, rfl⟩ := Json.exists_obj_of_isObject hobject
  refine ⟨rfl, fun name => ?_, ?_⟩
  · rw [Json.find?_set_obj]
    by_cases hsame : lib.str row "name" = name
    · subst hsame
      have hrows : lib.paramRows (rows ++ [row]) nodeId (lib.str row "name") =
          lib.paramRows rows nodeId (lib.str row "name") ++ [row] := by
        rw [paramRows_concat, if_pos ⟨hnamed, hnode, rfl⟩]
      rw [if_pos rfl, if_neg (not_or.2 ⟨hname, hother⟩), hrows, List.getLast?_concat]
      rfl
    · have hrows : lib.paramRows (rows ++ [row]) nodeId name = lib.paramRows rows nodeId name := by
        rw [paramRows_concat, if_neg fun hin => hsame hin.2.2]
      rw [if_neg hsame, hfind name, hrows]
  · rw [paramRows_concat, if_neg fun hin => hother hin.2.2]
    exact houtputs

/-- A row of outputs of the node. -/
theorem Carries.setOutputs {lib : Libraries} {rows : List Json} {nodeId : String}
    {parameters outputs : Json} (h : lib.Carries rows nodeId parameters outputs) {row : Json}
    (hnode : lib.str row "nodeId" = nodeId) (hnamed : nodeId ≠ "")
    (hname : lib.str row "name" = "outputs") :
    lib.Carries (rows ++ [row]) nodeId parameters
      (if (lib.paramValue row).isObject then lib.paramValue row else outputs) := by
  refine ⟨h.isObject, fun name => ?_, ?_⟩
  · rw [h.find? name, paramRows_concat]
    by_cases hout : name = "" ∨ name = "outputs"
    · rw [if_pos hout, if_pos hout]
    · rw [if_neg hout, if_neg hout, if_neg]
      rintro ⟨-, -, hin⟩
      exact hout (Or.inr (hin.symm.trans hname))
  · have hrows : lib.paramRows (rows ++ [row]) nodeId "outputs" =
        lib.paramRows rows nodeId "outputs" ++ [row] := by
      rw [paramRows_concat, if_pos ⟨hnamed, hnode, hname⟩]
    rw [hrows, List.map_append, List.filter_append, List.map_singleton, List.filter_singleton]
    by_cases hobject : (lib.paramValue row).isObject = true
    · rw [if_pos hobject, hobject, cond_true, List.getLast?_concat]
      rfl
    · rw [if_neg hobject, Bool.eq_false_of_not_eq_true hobject, cond_false, List.append_nil]
      exact h.outputs

/-- **The parameters of every node after the loop.** -/
theorem groupParams_carries (rows : List Json) (nodeId : String) :
    lib.Carries rows nodeId ((lib.groupParams rows).params[nodeId]?.getD (.obj []))
      ((lib.groupParams rows).outputs[nodeId]?.getD (.obj [])) := by
  induction rows using List.reverseRecOn with
  | nil =>
      refine ⟨by simp [groupParams, Json.isObject], fun name => ?_, by simp [groupParams, paramRows]⟩
      split_ifs <;> simp [groupParams, paramRows, Json.find?, Json.fields]
  | append_singleton rows row ih =>
      have hstep : lib.groupParams (rows ++ [row]) = lib.addParam (lib.groupParams rows) row := by
        rw [groupParams, List.foldl_append, List.foldl_cons, List.foldl_nil, groupParams]
      rw [hstep, addParam]
      dsimp only
      by_cases hskip : lib.str row "nodeId" = "" ∨ lib.str row "name" = ""
      · rw [if_pos hskip]
        refine ih.skip ?_
        rcases hskip with hnode | hname
        · by_cases hnamed : nodeId = ""
          · exact Or.inl hnamed
          · exact Or.inr (Or.inl fun h => hnamed (h.symm.trans hnode))
        · exact Or.inr (Or.inr hname)
      rw [if_neg hskip]
      rw [not_or] at hskip
      by_cases hnode : lib.str row "nodeId" = nodeId
      · subst hnode
        by_cases hname : lib.str row "name" = "outputs"
        · have hset := ih.setOutputs rfl hskip.1 hname
          rw [if_pos hname]
          split_ifs at hset ⊢ with hobject
          · simpa using hset
          · exact hset
        · rw [if_neg hname]
          simpa using ih.setParam rfl hskip.1 hskip.2 hname
      · have hother : lib.Carries (rows ++ [row]) nodeId _ _ := ih.skip (Or.inr (Or.inl hnode))
        by_cases hname : lib.str row "name" = "outputs"
        · rw [if_pos hname]
          split_ifs
          · simpa [Std.TreeMap.getElem?_insert, hnode] using hother
          · exact hother
        · rw [if_neg hname]
          simpa [Std.TreeMap.getElem?_insert, hnode] using hother

/-! ### The rows of the nodes -/

theorem nodeKeys_concat (rows : List Json) (row : Json) :
    lib.nodeKeys (rows ++ [row]) =
      if lib.str row "nodeKey" = "" then lib.nodeKeys rows
      else lib.nodeKeys rows ++ [lib.str row "nodeKey"] := by
  rw [nodeKeys, List.map_append, List.filter_append, List.map_singleton, List.filter_singleton]
  by_cases h : lib.str row "nodeKey" = ""
  · rw [if_pos h, decide_eq_false (not_not.2 h), cond_false, List.append_nil, nodeKeys]
  · rw [if_neg h, decide_eq_true h, cond_true, nodeKeys]

/-- **Every row with a key is found under it**, when the keys are distinct. -/
theorem rowByKey_getElem? {rows : List Json} (hdistinct : (lib.nodeKeys rows).Nodup) {row : Json}
    (hmem : row ∈ rows) (hkey : lib.str row "nodeKey" ≠ "") :
    (lib.rowByKey rows)[lib.str row "nodeKey"]? = some row := by
  induction rows using List.reverseRecOn with
  | nil => exact nomatch hmem
  | append_singleton rows last ih =>
      rw [rowByKey, List.foldl_append, List.foldl_cons, List.foldl_nil]
      rw [nodeKeys_concat] at hdistinct
      rcases List.mem_append.1 hmem with hmem | hmem
      · split_ifs at hdistinct ⊢ with hlast
        · exact ih hdistinct hmem
        · have hin : lib.str row "nodeKey" ∈ lib.nodeKeys rows :=
            List.mem_filter.2 ⟨List.mem_map.2 ⟨row, hmem, rfl⟩, decide_eq_true hkey⟩
          have hne : lib.str last "nodeKey" ≠ lib.str row "nodeKey" := by
            intro heq
            exact (List.nodup_append.1 hdistinct).2.2 _ hin _ List.mem_cons_self heq.symm
          have hfound := ih (List.nodup_append.1 hdistinct).1 hmem
          rw [rowByKey] at hfound
          simpa [Std.TreeMap.getElem?_insert, hne] using hfound
      · obtain rfl := List.mem_singleton.1 hmem
        rw [if_neg hkey]
        simp

/-! ### The result -/

theorem buildWorkflow_of_no_row {listEntities : ListEntities} {tenant : String} {chosen : Json}
    (h : chosen.isNull ∨ lib.str chosen "id" = "" ∨
      rowsFor listEntities "WorkflowNode" tenant (lib.str chosen "id") = []) :
    lib.buildWorkflow listEntities tenant chosen = none := by
  rw [buildWorkflow]
  dsimp only
  rcases h with hnull | hempty | hnone
  · exact if_pos (Or.inl hnull)
  · exact if_pos (Or.inr hempty)
  · by_cases hchosen : chosen.isNull ∨ lib.str chosen "id" = ""
    · exact if_pos hchosen
    · rw [if_neg hchosen, if_pos (List.isEmpty_iff.2 hnone)]

/-- A workflow is built of the rows of its steps, where it has an id and there are any. -/
theorem exists_buildWorkflow {listEntities : ListEntities} {tenant : String} {chosen : Json}
    (hid : lib.str chosen "id" ≠ "")
    (hdistinct : (lib.nodeKeys
      (rowsFor listEntities "WorkflowNode" tenant (lib.str chosen "id"))).Nodup)
    (hsome : rowsFor listEntities "WorkflowNode" tenant (lib.str chosen "id") ≠ []) :
    ∃ wf, lib.buildWorkflow listEntities tenant chosen = some wf ∧
      wf.id = lib.str chosen "id" ∧ wf.name = lib.str chosen "name" ∧
      IsOrder (lib.nodeKeys (rowsFor listEntities "WorkflowNode" tenant (lib.str chosen "id")))
        (lib.edges (rowsFor listEntities "WorkflowEdge" tenant (lib.str chosen "id")))
        (wf.nodes.map WfNode.id) ∧
      ∀ row ∈ rowsFor listEntities "WorkflowNode" tenant (lib.str chosen "id"),
        lib.str row "nodeKey" ≠ "" → ∃ node ∈ wf.nodes, node.id = lib.str row "nodeKey" ∧
          node.type = lib.str row "type" ∧
          lib.Carries (rowsFor listEntities "WorkflowNodeParam" tenant (lib.str chosen "id"))
            (lib.str row "id") node.parameters node.outputs := by
  have hchosen : ¬(chosen.isNull = true ∨ lib.str chosen "id" = "") := by
    rintro (hnull | hempty)
    · obtain rfl := Json.eq_null_of_isNull hnull
      exact hid rfl
    · exact hid hempty
  refine ⟨_, (if_neg hchosen).trans (if_neg fun hempty => hsome (List.isEmpty_iff.1 hempty)), rfl,
    rfl, ?_, fun row hmem hkey => ?_⟩
  · have hids : ∀ keys : List String, ∀ f : String → Json,
        ((keys.map fun key => lib.toNode (lib.groupParams
          (rowsFor listEntities "WorkflowNodeParam" tenant (lib.str chosen "id"))) (f key) key).map
            WfNode.id) = keys := by
      intro keys f
      rw [List.map_map]
      exact List.map_id keys
    dsimp only
    rw [hids]
    exact topologicalOrder_isOrder hdistinct _
  · have hin : lib.str row "nodeKey" ∈
        lib.nodeKeys (rowsFor listEntities "WorkflowNode" tenant (lib.str chosen "id")) :=
      List.mem_filter.2 ⟨List.mem_map.2 ⟨row, hmem, rfl⟩, decide_eq_true hkey⟩
    have hordered := (topologicalOrder_isOrder hdistinct (lib.edges
      (rowsFor listEntities "WorkflowEdge" tenant (lib.str chosen "id")))).perm.mem_iff.2 hin
    refine ⟨_, List.mem_map.2 ⟨_, hordered, rfl⟩, rfl, ?_, ?_⟩ <;>
      rw [lib.rowByKey_getElem? hdistinct hmem hkey]
    · rfl
    · exact lib.groupParams_carries _ (lib.str row "id")

/-- **A workflow keeps every step.**  For the rows that the listings answer for a workflow with an
id, the keys of the nodes being distinct: without a row there is no workflow.  Otherwise the
steps are the rows with a key, each once, in an order in which the source of every
connection comes before its target if there is no cycle, in the order of the rows if there
is one, and with the steps that no connection leads to in that order in any case.  Each
step has the type of its row and the parameters and outputs of its node only. -/
theorem buildWorkflow_keeps_every_step (listEntities : ListEntities) (tenant : String)
    (chosen : Json) (hid : lib.str chosen "id" ≠ "") :
    let nodeRows := rowsFor listEntities "WorkflowNode" tenant (lib.str chosen "id")
    let paramRows := rowsFor listEntities "WorkflowNodeParam" tenant (lib.str chosen "id")
    let edgeRows := rowsFor listEntities "WorkflowEdge" tenant (lib.str chosen "id")
    (lib.nodeKeys nodeRows).Nodup →
    (nodeRows = [] → lib.buildWorkflow listEntities tenant chosen = none) ∧
    (nodeRows ≠ [] → ∃ wf, lib.buildWorkflow listEntities tenant chosen = some wf ∧
      IsOrder (lib.nodeKeys nodeRows) (lib.edges edgeRows) (wf.nodes.map WfNode.id) ∧
      ∀ row ∈ nodeRows, lib.str row "nodeKey" ≠ "" →
        ∃ node ∈ wf.nodes, node.id = lib.str row "nodeKey" ∧ node.type = lib.str row "type" ∧
          lib.Carries paramRows (lib.str row "id") node.parameters node.outputs) := by
  intro nodeRows paramRows edgeRows hdistinct
  refine ⟨fun hnone => lib.buildWorkflow_of_no_row (Or.inr (Or.inr hnone)), fun hsome => ?_⟩
  obtain ⟨wf, hwf, -, -, horder, hsteps⟩ := lib.exists_buildWorkflow hid hdistinct hsome
  exact ⟨wf, hwf, horder, hsteps⟩

end Libraries

/-! ### Two steps, stored back to front -/

def demoLibraries : Libraries where
  dump := fun _ => ""
  parse := fun _ => none
  stod := fun _ => none

/-- The rows of a step `save` that waits for a step `fetch`. -/
def demoRows : ListEntities := fun entity _ =>
  if entity = "WorkflowNode" then
    .ok [.obj [("id", .str "n2"), ("nodeKey", .str "save"), ("type", .str "dbal.entity.create")],
      .obj [("id", .str "n1"), ("nodeKey", .str "fetch"), ("type", .str "dbal.entity.get")]]
  else if entity = "WorkflowNodeParam" then
    .ok [.obj [("nodeId", .str "n2"), ("name", .str "entity"), ("value", .str "Post"),
      ("valueType", .str "string")]]
  else .ok [.obj [("sourceKey", .str "fetch"), ("targetKey", .str "save")]]

/-- Both steps are there, and the edge between them is respected. -/
theorem buildWorkflow_keeps_two_steps :
    ∃ wf, demoLibraries.buildWorkflow demoRows "acme" (.obj [("id", .str "wf")]) = some wf ∧
      IsOrder ["save", "fetch"] [("fetch", "save")] (wf.nodes.map WfNode.id) := by
  have hkeys : demoLibraries.nodeKeys (rowsFor demoRows "WorkflowNode" "acme" "wf") =
      ["save", "fetch"] := by decide +kernel
  have hedges : demoLibraries.edges (rowsFor demoRows "WorkflowEdge" "acme" "wf") =
      [("fetch", "save")] := by decide +kernel
  have hid : demoLibraries.str (.obj [("id", .str "wf")]) "id" = "wf" := by decide +kernel
  have hspec := demoLibraries.buildWorkflow_keeps_every_step demoRows "acme"
    (.obj [("id", .str "wf")]) (by rw [hid]; decide)
  dsimp only at hspec
  rw [hid, hkeys, hedges] at hspec
  obtain ⟨wf, hwf, hordered, -⟩ := (hspec (by decide)).2 (by exact nofun)
  exact ⟨wf, hwf, hordered⟩

end WfGraph
end Dbal
