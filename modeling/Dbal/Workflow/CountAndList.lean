/-
# Counting and listing the rows of a filter

`entity_count_step.hpp` and `entity_list_step.hpp` in `src/workflow/steps`, over an ideal store.  Both
hand on only the members of the filter that are texts, and the count is that of one page
(`entityCountStep_eq`, `entityListStep_eq`).  So a count is right where all the rows fit on a page
and the other members select nothing further, and a list where they select nothing further.
-/

import Dbal.Store.ListingOrder
import Dbal.Workflow.Executor

namespace Dbal
namespace Workflow

open MapStore Steps WfGraph

/-- The rows of an entity. -/
def rowsOf (entity : String) (s : MapStore) : List Json :=
  (s.rows.filter (·.entity = entity)).map Entry.row

/-- Every member of the filter that is a text equals the field of the row. -/
def satisfiesTexts (filter row : Json) : Bool :=
  filter.fields.toList.all fun (key, value) => !value.isString || row.find? key == some value

/-- The step ends well and stores the value, whatever its outputs are wired to. -/
def StoresValue (step : Step MapStore) (node : WfNode) (s : MapStore) (value : Json) : Prop :=
  ∀ (i : Nat) (outputs : Json) (ctx : WfContext),
    step i { node with outputs := outputs } ctx s =
      (.ok (setOutputs { node with outputs := outputs } value ctx), s)

/-- A step stores one value. -/
theorem StoresValue.unique {step : Step MapStore} {node : WfNode} {s : MapStore}
    {value value' : Json} (h : StoresValue step node s value) (h' : StoresValue step node s value') :
    value = value' := by
  have hrun := (h 0 (.obj [("out", .str "out")]) {}).symm.trans (h' 0 _ {})
  have hset (v : Json) : setOutputs { node with outputs := .obj [("out", .str "out")] } v {} =
      WfContext.set {} "out" v := rfl
  rw [hset, hset] at hrun
  injection hrun with hctx
  injection hctx with hctx
  injection hctx with hvars
  injection hvars with hmembers
  simpa using hmembers

/-! ### The filter -/

section

variable {node : WfNode} {filter : Json}

theorem mem_filterParam (hfilter : node.parameters.find? "filter" = some filter)
    (hobj : filter.isObject) {key text : String} :
    (filterParam node)[key]? = some text ↔ filter.find? key = some (.str text) := by
  obtain ⟨members, rfl⟩ := Json.exists_obj_of_isObject hobj
  rw [filterParam, hfilter]
  dsimp only
  rw [Store.getElem?_ofList_filterMap]
  · change (((Json.obj members).find? key).bind _) = some text ↔ _
    cases (Json.obj members).find? key with
    | none => simp
    | some value => cases value <;> simp
  · intro k value pair hpair
    cases value with
    | str s =>
        obtain rfl := Option.some.inj hpair
        rfl
    | _ => cases hpair

theorem satisfiesTexts_iff {row : Json} :
    satisfiesTexts filter row = true ↔
      ∀ key text, filter.find? key = some (.str text) → row.find? key = some (.str text) := by
  rw [satisfiesTexts, List.all_eq_true]
  constructor
  · intro h key text hkey
    exact Json.beq_some_str_iff.1 (h _ (Json.mem_toList_fields.2 hkey))
  · rintro h ⟨key, value⟩ hpair
    have hkey := Json.mem_toList_fields.1 hpair
    cases value with
    | str text => exact Json.beq_some_str_iff.2 (h key text hkey)
    | _ => rfl

/-- The listing selects by the texts. -/
theorem selects_filterParam (hfilter : node.parameters.find? "filter" = some filter)
    (hobj : filter.isObject) (entity : String) (entry : Entry) :
    selects entity (equalities (filterParam node)) entry =
      (decide (entry.entity = entity) && satisfiesTexts filter entry.row) := by
  rw [Bool.eq_iff_iff, selects_equalities, Bool.and_eq_true, decide_eq_true_eq, satisfiesTexts_iff]
  refine and_congr_right fun _ => forall_congr' fun key => forall_congr' fun text => ?_
  rw [mem_filterParam hfilter hobj]

end

/-! ### The steps -/

section

variable {resolve : String → Option Adapters.EntitySchema} {name : String}
  {schema : Adapters.EntitySchema} {node : WfNode} {filter : Json}

/-- The rows of the entity that satisfy the texts of the filter, in the order of the listing. -/
def found (order : ListingOrder) (entity : String) (options : ListOptions) (filter : Json)
    (s : MapStore) : List Json :=
  ((order.sort entity options s.rows).filter fun entry =>
    decide (entry.entity = entity) && satisfiesTexts filter entry.row).map Entry.row

theorem found_perm (order : ListingOrder) (entity : String) (options : ListOptions) (filter : Json)
    (s : MapStore) :
    (found order entity options filter s).Perm ((rowsOf entity s).filter (satisfiesTexts filter)) := by
  rw [rowsOf, List.filter_map, List.filter_filter]
  refine ((order.perm entity options s.rows).filter _).map _ |>.trans (List.Perm.of_eq ?_)
  congr 1
  exact List.filter_congr fun entry _ => by simp [Bool.and_comm]

/-- A parameter that is a text is read, whatever the outputs of the node are. -/
theorem stringParam_eq {type key text : String} (h : node.parameters.find? key = some (.str text))
    (outputs : Json) (s : MapStore) :
    Act.ofExcept (stringParam type key { node with outputs := outputs }) s = (.ok text, s) := by
  rw [Act.ofExcept_apply, stringParam, h]

/-- What a listing with the filter of the node finds. -/
theorem listing_eq (order : ListingOrder) (hschema : resolve name = some schema)
    (hfilter : node.parameters.find? "filter" = some filter) (hobj : filter.isObject) (limit : Int)
    (s : MapStore) :
    ∃ result : ListResult,
      calling ((order.adapter resolve).list name { filter := filterParam node, limit := limit }) s =
        (.ok (.ok result), s) ∧
      result.items = (found order schema.name { filter := filterParam node, limit := limit }
        filter s).take limit.toNat := by
  refine ⟨_, by rw [calling, order.list_known hschema]; rfl, ?_⟩
  rw [listRows_items, found, List.map_take]
  congr 3
  exact funext fun entry => selects_filterParam hfilter hobj schema.name entry

/-- **`dbal.entity.count` counts one page** of the rows that satisfy the texts. -/
theorem entityCountStep_eq (order : ListingOrder)
    (hentity : node.parameters.find? "entity" = some (.str name))
    (hschema : resolve name = some schema)
    (hfilter : node.parameters.find? "filter" = some filter) (hobj : filter.isObject)
    (s : MapStore) :
    StoresValue (entityCountStep (order.adapter resolve)) node s
      (.int (min 20 ((rowsOf schema.name s).countP (satisfiesTexts filter)) : Nat)) := by
  intro i outputs ctx
  obtain ⟨result, hlist, hitems⟩ := listing_eq order hschema hfilter hobj 20 s
  have hlength : result.items.length =
      min 20 ((rowsOf schema.name s).countP (satisfiesTexts filter)) := by
    rw [hitems, List.length_take, (found_perm order _ _ filter s).length_eq,
      ← List.countP_eq_length_filter]
    rfl
  refine (Act.bind_ok (stringParam_eq hentity outputs s) _).trans ?_
  refine (Act.bind_ok hlist _).trans ?_
  dsimp only
  rw [hlength]
  rfl

/-- **`dbal.entity.list` lists one page** of the rows that satisfy the texts. -/
theorem entityListStep_eq (order : ListingOrder)
    (hentity : node.parameters.find? "entity" = some (.str name))
    (hschema : resolve name = some schema)
    (hfilter : node.parameters.find? "filter" = some filter) (hobj : filter.isObject)
    (s : MapStore) :
    StoresValue (entityListStep (order.adapter resolve)) node s
      (.arr ((found order schema.name { filter := filterParam node, limit := limitParam node }
        filter s).take (limitParam node).toNat)) := by
  intro i outputs ctx
  obtain ⟨result, hlist, hitems⟩ := listing_eq order hschema hfilter hobj (limitParam node) s
  refine (Act.bind_ok (stringParam_eq hentity outputs s) _).trans ?_
  refine (Act.bind_ok hlist _).trans ?_
  dsimp only
  rw [hitems]
  rfl

theorem satisfiesTexts_of_matches {row : Json} (h : matchesFilter filter row = true) :
    satisfiesTexts filter row = true := by
  rw [matchesFilter, List.all_eq_true] at h
  rw [satisfiesTexts, List.all_eq_true]
  intro pair hpair
  exact Bool.or_eq_true_iff.2 (Or.inr (h pair hpair))

/-- The whole filter selects as many rows as its texts where it selects the same. -/
theorem countP_matches_iff {rows : List Json} :
    rows.countP (satisfiesTexts filter) = rows.countP (matchesFilter filter) ↔
      ∀ row ∈ rows, satisfiesTexts filter row = true → matchesFilter filter row = true := by
  have hboth : rows.countP (matchesFilter filter) =
      (rows.filter (satisfiesTexts filter)).countP (matchesFilter filter) := by
    rw [List.countP_filter]
    refine List.countP_congr fun row _ => ?_
    rw [Bool.and_eq_true]
    exact ⟨fun h => ⟨h, satisfiesTexts_of_matches h⟩, And.left⟩
  rw [hboth, List.countP_eq_length_filter, eq_comm, List.countP_eq_length]
  simp only [List.mem_filter, and_imp]

/-- The count step stores how many rows satisfy the filter, in whatever order they are listed. -/
def CountsRows (resolve : String → Option Adapters.EntitySchema) (node : WfNode) (entity : String)
    (filter : Json) (s : MapStore) : Prop :=
  ∀ order : ListingOrder, StoresValue (entityCountStep (order.adapter resolve)) node s
    (.int ((rowsOf entity s).countP (matchesFilter filter)))

/-- The list step stores rows that satisfy the filter, in whatever order they are listed. -/
def ListsRows (resolve : String → Option Adapters.EntitySchema) (node : WfNode) (filter : Json)
    (s : MapStore) : Prop :=
  ∀ order : ListingOrder, ∃ rows,
    StoresValue (entityListStep (order.adapter resolve)) node s (.arr rows) ∧
      ∀ row ∈ rows, matchesFilter filter row = true

theorem countsRows_iff (hentity : node.parameters.find? "entity" = some (.str name))
    (hschema : resolve name = some schema)
    (hfilter : node.parameters.find? "filter" = some filter) (hobj : filter.isObject)
    (s : MapStore) :
    CountsRows resolve node schema.name filter s ↔
      min 20 ((rowsOf schema.name s).countP (satisfiesTexts filter)) =
        (rowsOf schema.name s).countP (matchesFilter filter) := by
  constructor
  · intro h
    have hvalue := (entityCountStep_eq .stored hentity hschema hfilter hobj s).unique (h .stored)
    injection hvalue with hcount
    exact Int.natCast_inj.1 hcount
  · intro h order
    rw [← h]
    exact entityCountStep_eq order hentity hschema hfilter hobj s

theorem mem_found {order : ListingOrder} {entity : String} {options : ListOptions} {s : MapStore}
    {row : Json} (h : row ∈ found order entity options filter s) :
    row ∈ rowsOf entity s ∧ satisfiesTexts filter row = true :=
  List.mem_filter.1 ((found_perm order entity options filter s).mem_iff.1 h)

/-- **A list step lists what satisfies its filter** where it lists nothing, or where the texts of the
filter say it all: any other row may be listed first. -/
theorem listsRows_iff (hentity : node.parameters.find? "entity" = some (.str name))
    (hschema : resolve name = some schema)
    (hfilter : node.parameters.find? "filter" = some filter) (hobj : filter.isObject)
    (s : MapStore) :
    ListsRows resolve node filter s ↔
      limitParam node ≤ 0 ∨ ∀ row ∈ rowsOf schema.name s, satisfiesTexts filter row = true →
        matchesFilter filter row = true := by
  constructor
  · intro h
    by_cases hlimit : limitParam node ≤ 0
    · exact Or.inl hlimit
    · refine Or.inr fun row hrow htexts => ?_
      obtain ⟨entry, hentry, rfl⟩ := List.mem_map.1 hrow
      rw [List.mem_filter] at hentry
      obtain ⟨order, hfirst⟩ := ListingOrder.exists_first hentry.1
      obtain ⟨rows, hstores, hrows⟩ := h order
      have hvalue := (entityListStep_eq order hentity hschema hfilter hobj s).unique hstores
      injection hvalue with hvalue
      obtain ⟨rest, hsort⟩ := hfirst schema.name
        { filter := filterParam node, limit := limitParam node }
      refine hrows entry.row ?_
      rw [← hvalue, found, hsort, List.filter_cons_of_pos (by rw [hentry.2, htexts]; rfl),
        List.map_cons]
      obtain ⟨n, hn⟩ : ∃ n, (limitParam node).toNat = n + 1 := ⟨(limitParam node).toNat - 1, by omega⟩
      rw [hn, List.take_succ_cons]
      exact List.mem_cons_self
  · intro h order
    refine ⟨_, entityListStep_eq order hentity hschema hfilter hobj s, fun row hrow => ?_⟩
    rcases h with hlimit | hall
    · rw [Int.toNat_of_nonpos hlimit, List.take_zero] at hrow
      cases hrow
    · obtain ⟨hmem, htexts⟩ := mem_found (List.mem_of_mem_take hrow)
      exact hall row hmem htexts

/-- **When a workflow counts and lists what its filter says.**  The count is right where at most
twenty rows satisfy the texts of the filter and the other members select nothing further, or where
more do and the whole filter is satisfied by just twenty; the rows that are listed satisfy the filter
where its other members select nothing further, or the limit lets none be listed. -/
theorem count_and_list_iff (hentity : node.parameters.find? "entity" = some (.str name))
    (hschema : resolve name = some schema)
    (hfilter : node.parameters.find? "filter" = some filter) (hobj : filter.isObject)
    (s : MapStore) :
    (CountsRows resolve node schema.name filter s ↔
        ((rowsOf schema.name s).countP (satisfiesTexts filter) ≤ 20 ∧
            ∀ row ∈ rowsOf schema.name s, satisfiesTexts filter row = true →
              matchesFilter filter row = true) ∨
          (20 < (rowsOf schema.name s).countP (satisfiesTexts filter) ∧
            (rowsOf schema.name s).countP (matchesFilter filter) = 20)) ∧
      (ListsRows resolve node filter s ↔
        limitParam node ≤ 0 ∨ ∀ row ∈ rowsOf schema.name s, satisfiesTexts filter row = true →
          matchesFilter filter row = true) := by
  refine ⟨?_, listsRows_iff hentity hschema hfilter hobj s⟩
  rw [countsRows_iff hentity hschema hfilter hobj s, ← countP_matches_iff]
  omega

end

/-- A step that asks for the posts with a title. -/
def asksForPosts : WfNode where
  id := "ask"
  type := "dbal.entity.count"
  parameters := .obj [("entity", .str "Post"), ("filter", .obj [("title", .str "News")])]
  outputs := .obj [("count", .str "n")]

def newsFilter : Json := .obj [("title", .str "News")]

/-- Posts with this title, and one with another. -/
def posts (n : Nat) : MapStore where
  rows := ⟨"Post", "other", .obj [("title", .str "Other")]⟩ ::
    List.replicate n ⟨"Post", "news", .obj [("title", .str "News")]⟩

theorem two_posts_counted :
    CountsRows anyEntity asksForPosts "Post" newsFilter (posts 2) ∧
      ListsRows anyEntity asksForPosts newsFilter (posts 2) := by
  have hiff := @count_and_list_iff anyEntity "Post" _ asksForPosts newsFilter rfl rfl rfl rfl (posts 2)
  have htexts : ∀ row ∈ rowsOf "Post" (posts 2), satisfiesTexts newsFilter row = true →
      matchesFilter newsFilter row = true := by decide
  exact ⟨hiff.1.2 (Or.inl ⟨by decide, htexts⟩), hiff.2.2 (Or.inr htexts)⟩

/-- Of twenty-one posts twenty are counted. -/
theorem posts_not_counted :
    ¬ ∀ (node : WfNode) (entity : String) (filter : Json) (s : MapStore),
      node.parameters.find? "entity" = some (.str entity) →
        node.parameters.find? "filter" = some filter → filter.isObject →
          CountsRows anyEntity node entity filter s ∧ ListsRows anyEntity node filter s := by
  intro h
  have hcounts := (h asksForPosts "Post" newsFilter (posts 21) rfl rfl rfl).1
  rw [@countsRows_iff anyEntity "Post" _ asksForPosts newsFilter rfl rfl rfl rfl] at hcounts
  exact absurd hcounts (by decide)

end Workflow
end Dbal
