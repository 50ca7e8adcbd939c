/-
# Placeholders and values of SQLite

The text of a statement and its values are made by two files that walk the same arguments.  For
each statement: the text reads as its template and the values are, one by one, what the slots of
the template stand for, exactly when no name has a double quote in it, every `BETWEEN` has
both bounds, and the offset of a page is an `int`.
-/

import Dbal.Adapters.SQLiteTemplates
import Mathlib.Data.List.Nodup

namespace Dbal
namespace SQLiteQueryBuilder

open Dbal.Core (EntitySchema EntityField)
open Sql SQLiteTypeConverter

/-- What a call is given. -/
structure Given where
  options : ListOptions := {}
  data : Json := .null
  filter : Json := .null
  id : String := ""

/-- The operand of a condition. -/
def operandValue (cond : FilterCondition) (index : Nat) : Option String :=
  match cond.op with
  | .in | .notIn | .between => cond.values[index]?
  | _ => if index = 0 then some cond.value else none

/-- The value that a placeholder stands for. -/
def Given.value (dump : Json → String) (given : Given) : Role → Option String
  | .id => some given.id
  | .column name => (given.data.find? name).map (jsonValueToString dump)
  | .member key => (given.filter.items.lookup key).map (jsonValueToString dump)
  | .legacy key => given.options.filter[key]?
  | .operand cond index => operandValue cond index
  | .limit => some (toString (pageLimit given.options))
  | .offset => some (toString (pageOffset given.options))

namespace Call

/-- The arguments of a call. -/
def given : Call → Given
  | list options | count options => { options }
  | read id => { filter := byId id, id }
  | remove id => { id }
  | insert data => { data }
  | update data id => { data, id }
  | updateMany filter data => { filter, data }
  | deleteMany filter | findFirst filter => { filter }

/-- The values that are bound: those of the converter, and the bare id. -/
def params (dump : Json → String) (schema : EntitySchema) : Call → Option (List String)
  | list options => buildListParams options
  | count options => some (buildCountParams options)
  | read id | remove id => some [id]
  | insert data => some (jsonToValues dump schema data)
  | update data id => some (buildUpdateParams dump schema data id)
  | updateMany filter data => some (buildUpdateManyParams dump schema filter data)
  | deleteMany filter => some (buildDeleteManyParams dump filter)
  | findFirst filter => some (buildFindParams dump filter)

/-- The conditions of a call, those of the groups last. -/
def conditions : Call → List FilterCondition
  | list options | count options =>
      options.conditions ++ options.filterGroups.flatMap FilterGroup.conditions
  | _ => []

/-- The offset of a page is an `int`. -/
def OffsetFits : Call → Prop
  | list options => pageOffset options ≤ intMax
  | _ => True

end Call

/-- A `BETWEEN` has both bounds. -/
def Complete (cond : FilterCondition) : Prop := cond.op = .between → 2 ≤ cond.values.length

/-- The text reads as the template, and each placeholder has the value it stands for.  The reading
belongs to it: a placeholder stands for a column only where the text names that column. -/
structure Agree (dump : Json → String) (schema : EntitySchema) (call : Call)
    (values : List String) : Prop where
  reads : tokens '"' (call.statement schema).toList = some (tokensOf (call.template schema))
  count : (placeholders (tokensOf (call.template schema))).length = values.length
  stands : values.map some = (slots (call.template schema)).map (call.given.value dump)

/-! ### Conditions -/

/-- The slots of a condition. -/
def conditionSlots (cond : FilterCondition) : List Role :=
  match cond.op with
  | .isNull | .isNotNull => []
  | .in | .notIn => (List.range cond.values.length).map (.operand cond)
  | .between => [.operand cond 0, .operand cond 1]
  | _ => [.operand cond 0]

theorem slots_conditionPieces (cond : FilterCondition) :
    slots (conditionPieces cond) = conditionSlots cond := by
  rcases cond with ⟨field, op, value, values⟩
  cases op with
  | «in» => exact slots_operandsPieces ⟨field, .in, value, values⟩
  | notIn => exact slots_operandsPieces ⟨field, .notIn, value, values⟩
  | _ => rfl

/-- The values of a condition are those of its slots. -/
theorem conditionValues_stand (dump : Json → String) (given : Given) {cond : FilterCondition}
    (h : Complete cond) :
    (conditionValues cond).map some = (conditionSlots cond).map (given.value dump) := by
  rcases cond with ⟨field, op, value, values⟩
  have hrange : values.map some = (List.range values.length).map fun i => values[i]? := by
    refine List.ext_getElem (by simp) fun i hi hi' => ?_
    simp only [List.length_map] at hi
    simp [hi]
  cases op with
  | «in» =>
      simp only [conditionValues, conditionSlots, List.map_map]
      exact hrange
  | notIn =>
      simp only [conditionValues, conditionSlots, List.map_map]
      exact hrange
  | between =>
      obtain ⟨v₀, v₁, rest, rfl⟩ : ∃ v₀ v₁ rest, values = v₀ :: v₁ :: rest := by
        rcases values with _ | ⟨v₀, _ | ⟨v₁, rest⟩⟩
        · exact absurd (h rfl) (by simp)
        · exact absurd (h rfl) (by simp)
        · exact ⟨v₀, v₁, rest, rfl⟩
      rfl
  | _ => rfl

/-- **A short `BETWEEN` has slots and no values**; nothing else has fewer values than slots. -/
theorem length_conditionValues (cond : FilterCondition) :
    (conditionValues cond).length ≤ (conditionSlots cond).length ∧
      ((conditionValues cond).length = (conditionSlots cond).length → Complete cond) := by
  rcases cond with ⟨field, op, value, values⟩
  cases op with
  | between =>
      rcases values with _ | ⟨v₀, _ | ⟨v₁, rest⟩⟩
      · exact ⟨Nat.zero_le _, nofun⟩
      · exact ⟨Nat.zero_le _, nofun⟩
      · exact ⟨Nat.le_refl _, fun _ _ => by simp⟩
  | «in» => exact ⟨by simp [conditionValues, conditionSlots], fun _ h => nomatch h⟩
  | notIn => exact ⟨by simp [conditionValues, conditionSlots], fun _ h => nomatch h⟩
  | _ => exact ⟨Nat.le_refl _, fun _ h => nomatch h⟩

theorem conditions_stand (dump : Json → String) (given : Given) {conds : List FilterCondition}
    (h : ∀ cond ∈ conds, Complete cond) :
    (conds.flatMap conditionValues).map some =
      (conds.flatMap conditionSlots).map (given.value dump) := by
  induction conds with
  | nil => rfl
  | cons cond conds ih =>
      rw [List.flatMap_cons, List.flatMap_cons, List.map_append, List.map_append,
        conditionValues_stand dump given (h cond List.mem_cons_self),
        ih fun c hc => h c (List.mem_cons_of_mem _ hc)]

theorem length_conditionsValues (conds : List FilterCondition) :
    (conds.flatMap conditionValues).length ≤ (conds.flatMap conditionSlots).length ∧
      ((conds.flatMap conditionValues).length = (conds.flatMap conditionSlots).length →
        ∀ cond ∈ conds, Complete cond) := by
  induction conds with
  | nil => exact ⟨Nat.le_refl _, fun _ _ h => nomatch h⟩
  | cons cond conds ih =>
      obtain ⟨hle, hcomplete⟩ := length_conditionValues cond
      rw [List.flatMap_cons, List.flatMap_cons, List.length_append, List.length_append]
      refine ⟨by omega, fun heq c hc => ?_⟩
      rcases List.mem_cons.1 hc with rfl | hc
      · exact hcomplete (by omega)
      · exact ih.2 (by omega) c hc

/-! ### Clauses -/

/-- The value of a member of a list with distinct keys. -/
theorem lookup_eq_some {β : Type} : ∀ {l : List (String × β)} {entry : String × β},
    (l.map Prod.fst).Nodup → entry ∈ l → l.lookup entry.1 = some entry.2
  | (key, value) :: l, entry, hnodup, hmem => by
      rw [List.map_cons, List.nodup_cons] at hnodup
      rcases List.mem_cons.1 hmem with rfl | hmem
      · exact List.lookup_cons_self
      · have hne : entry.1 ≠ key := fun heq => hnodup.1 (List.mem_map.2 ⟨entry, hmem, heq⟩)
        rw [List.lookup_cons, beq_false_of_ne hne]
        exact lookup_eq_some hnodup.2 hmem

/-- The keys that `items()` visits are distinct. -/
theorem nodup_items (node : Json) : (node.items.map Prod.fst).Nodup := by
  have hdigits : ∀ {i j : Nat}, toString i = toString j → i = j := by
    intro i j heq
    have hi : ∀ n : Nat, Nat.ofDigitChars 10 (toString n).toList 0 = n := by simp
    rw [← hi i, heq, hi j]
  cases node with
  | null => exact List.nodup_nil
  | arr xs =>
      have hmap : ((Json.arr xs).items.map Prod.fst) = (List.range xs.length).map toString := by
        simp only [Json.items, List.map_map, List.range_eq_range', ← List.zipIdx_map_snd 0 xs]
        rfl
      rw [hmap]
      exact List.nodup_range.map fun _ _ heq => hdigits heq
  | obj members =>
      have hkeys := Std.TreeMap.distinct_keys_toList (t := (Json.obj members).fields)
      rw [List.nodup_iff_pairwise_ne, List.pairwise_map]
      exact hkeys.imp fun hne heq => hne (by rw [heq]; exact Std.ReflOrd.compare_self)
  | _ => exact List.nodup_singleton _

theorem slots_filteredPieces (filter : Json) :
    slots (filteredPieces filter) = filter.items.map fun (key, _) => .member key := by
  rw [filteredPieces]
  split_ifs with hempty
  · rw [Json.items_of_isEmpty hempty]
    rfl
  · have hjoin := slots_joinPieces (rfl : slots [Piece.kw (ρ := Role) .and] = [])
      (filter.items.map fun entry => equalsPieces entry.1 (.member entry.1))
    rw [List.flatMap_map] at hjoin
    exact hjoin.trans (List.map_eq_flatMap.symm)

/-- The members of a filter have the values of their slots. -/
theorem members_stand (dump : Json → String) (given : Given) (filter : Json)
    (hfilter : given.filter = filter) :
    (filter.items.map fun (_, value) => jsonValueToString dump value).map some =
      (slots (filteredPieces filter)).map (given.value dump) := by
  rw [slots_filteredPieces, List.map_map, List.map_map]
  refine List.map_congr_left fun entry hentry => ?_
  have hlookup := lookup_eq_some (nodup_items filter) hentry
  simp only [Function.comp_apply, Given.value, hfilter, hlookup, Option.map_some]

/-- The fields that are written have the values of their slots. -/
theorem columns_stand (dump : Json → String) (given : Given) (data : Json)
    (hdata : given.data = data) {fields : List EntityField}
    (h : ∀ field ∈ fields, data.contains field.name) :
    (fields.map (fieldValue dump data)).map some =
      (fields.map fun field => Role.column field.name).map (given.value dump) := by
  rw [List.map_map, List.map_map]
  refine List.map_congr_left fun field hfield => ?_
  obtain ⟨value, hvalue⟩ := Option.isSome_iff_exists.1 (h field hfield)
  simp only [Function.comp_apply, fieldValue, Given.value, hdata, hvalue, Option.getD_some,
    Option.map_some]

theorem slots_assignments (fields : List EntityField) :
    slots (joinPieces .comma (fields.map assignmentPieces)) =
      fields.map fun field => Role.column field.name := by
  rw [slots_joinPieces rfl, List.flatMap_map]
  exact List.map_eq_flatMap.symm

/-- The slots of the entries of the legacy filter and of all conditions. -/
def whereSlots (options : ListOptions) : List Role :=
  options.filter.toList.map (fun (key, _) => .legacy key) ++
    (options.conditions ++ options.filterGroups.flatMap FilterGroup.conditions).flatMap
      conditionSlots

theorem slots_groupPieces (group : FilterGroup) :
    slots (groupPieces group) = group.conditions.flatMap conditionSlots := by
  rw [groupPieces, ← List.singleton_append, slots_append, slots_append, slots_joinPieces rfl,
    List.flatMap_map]
  simp only [slots_conditionPieces]
  exact List.append_nil _

theorem slots_whereClausePieces (options : ListOptions) :
    slots (whereClausePieces options) = whereSlots options := by
  have hparts : (wherePieces options).flatMap slots = whereSlots options := by
    have hgroups : ∀ groups : List FilterGroup,
        ((groups.filter fun group => group.conditions ≠ []).map groupPieces).flatMap slots =
          (groups.flatMap FilterGroup.conditions).flatMap conditionSlots := by
      intro groups
      induction groups with
      | nil => rfl
      | cons group groups ih =>
          rw [List.filter_cons, List.flatMap_cons, List.flatMap_append, ← ih]
          by_cases hempty : group.conditions = []
          · simp [hempty]
          · simp [hempty, slots_groupPieces]
    rw [wherePieces, List.flatMap_append, List.flatMap_append, hgroups, whereSlots,
      List.flatMap_append, List.append_assoc, List.flatMap_map, List.flatMap_map]
    simp only [slots_conditionPieces]
    exact congrArg (· ++ _) List.map_eq_flatMap.symm
  rw [whereClausePieces]
  split_ifs with hnil
  · rw [← hparts, hnil]
    rfl
  · rw [← hparts, ← slots_joinPieces (rfl : slots [Piece.kw (ρ := Role) .and] = [])]
    rfl

theorem buildCountParams_eq (options : ListOptions) :
    buildCountParams options = options.filter.toList.map Prod.snd ++
      (options.conditions ++ options.filterGroups.flatMap FilterGroup.conditions).flatMap
        conditionValues := by
  rw [buildCountParams, List.flatMap_append, List.flatMap_assoc, List.append_assoc]

theorem legacy_stand (dump : Json → String) (given : Given) :
    (given.options.filter.toList.map Prod.snd).map some =
      (given.options.filter.toList.map fun (key, _) => Role.legacy key).map (given.value dump) := by
  rw [List.map_map, List.map_map]
  refine List.map_congr_left fun entry hentry => ?_
  exact (Std.TreeMap.mem_toList_iff_getElem?_eq_some.1 hentry).symm

/-- **The values of a `WHERE` clause are those of its slots exactly when every `BETWEEN` has both
bounds.** -/
theorem whereSlots_stand (dump : Json → String) (given : Given) :
    (buildCountParams given.options).map some = (whereSlots given.options).map (given.value dump) ↔
      ∀ cond ∈ given.options.conditions ++
        given.options.filterGroups.flatMap FilterGroup.conditions, Complete cond := by
  rw [buildCountParams_eq, whereSlots, List.map_append, List.map_append, legacy_stand,
    List.append_cancel_left_eq]
  constructor
  · intro heq
    have hlength := congrArg List.length heq
    rw [List.length_map, List.length_map] at hlength
    exact (length_conditionsValues _).2 hlength
  · exact conditions_stand dump given

theorem slots_groupByPieces (options : ListOptions) : slots (groupByPieces options) = [] := by
  rw [groupByPieces]
  split_ifs
  · rfl
  · rw [slots_append, slots_joinPieces rfl, List.flatMap_map]
    exact List.flatMap_eq_nil_iff.2 fun _ _ => rfl

theorem slots_orderByPieces (options : ListOptions) : slots (orderByPieces options) = [] := by
  rw [orderByPieces]
  split_ifs
  · rfl
  · rw [slots_append, slots_joinPieces rfl, List.flatMap_map]
    exact List.flatMap_eq_nil_iff.2 fun _ _ => rfl

theorem slots_fieldListPieces (schema : EntitySchema) : slots (fieldListPieces schema) = [] := by
  rw [fieldListPieces, slots_joinPieces rfl, List.flatMap_map]
  exact List.flatMap_eq_nil_iff.2 fun _ _ => rfl

theorem slots_selectPieces (schema : EntitySchema) (options : ListOptions) :
    slots (selectPieces schema options) = [] := by
  rw [selectPieces]
  split_ifs
  · exact slots_fieldListPieces schema
  · rw [slots_joinPieces rfl, List.flatMap_append, List.flatMap_map, List.flatMap_map,
      List.append_eq_nil_iff]
    exact ⟨List.flatMap_eq_nil_iff.2 fun _ _ => rfl, List.flatMap_eq_nil_iff.2 fun _ _ => rfl⟩

/-! ### Statements -/

theorem suppliedFields_contains {schema : EntitySchema} {data : Json} :
    ∀ field ∈ suppliedFields schema data, data.contains field.name :=
  fun _ hfield => (List.mem_filter.1 hfield).2

theorem updatedFields_contains {schema : EntitySchema} {data : Json} :
    ∀ field ∈ updatedFields schema data, data.contains field.name :=
  fun _ hfield => (Bool.and_eq_true_iff.1 (List.mem_filter.1 hfield).2).2

/-- **The values of a call are those of its slots exactly when every `BETWEEN` has both bounds.** -/
theorem Call.stands_iff (dump : Json → String) (schema : EntitySchema) {call : Call}
    {values : List String} (h : call.params dump schema = some values) :
    values.map some = (slots (call.template schema)).map (call.given.value dump) ↔
      ∀ cond ∈ call.conditions, Complete cond := by
  cases call with
  | list options =>
      simp only [params, buildListParams, Option.ite_none_right_eq_some, Option.some.injEq] at h
      obtain ⟨-, rfl⟩ := h
      have hslots : slots ((Call.list options).template schema) =
          whereSlots options ++ [.limit, .offset] := by
        simp only [template, slots, slots_append, slots_selectPieces, slots_whereClausePieces,
          slots_groupByPieces, slots_orderByPieces, List.nil_append, List.append_nil]
      have hpage : [toString (pageLimit options), toString (pageOffset options)].map some =
          [Role.limit, .offset].map (Given.value dump { options }) := rfl
      rw [hslots, List.map_append, List.map_append, hpage]
      exact (List.append_left_inj _).trans (whereSlots_stand dump { options })
  | count options =>
      obtain rfl := Option.some.inj h
      have hslots : slots ((Call.count options).template schema) = whereSlots options := by
        simp only [template, slots, slots_append, slots_whereClausePieces, slots_groupByPieces,
          List.nil_append, List.append_nil]
      rw [hslots]
      exact whereSlots_stand dump { options }
  | read id =>
      obtain rfl := Option.some.inj h
      have hslots : slots ((Call.read id).template schema) =
          slots (filteredPieces (Call.byId id)) := by
        simp only [template, slots, slots_append, slots_fieldListPieces, List.nil_append]
      rw [hslots, ← members_stand dump (Call.read id).given (Call.byId id) rfl]
      exact iff_of_true rfl (List.forall_mem_nil _)
  | remove id =>
      obtain rfl := Option.some.inj h
      exact iff_of_true rfl (List.forall_mem_nil _)
  | insert data =>
      obtain rfl := Option.some.inj h
      have hslots : slots ((Call.insert data).template schema) =
          (suppliedFields schema data).map fun field => .column field.name := by
        have hnames : slots (joinPieces .comma
            ((suppliedFields schema data).map fun field => name field.name)) = [] := by
          rw [slots_joinPieces rfl, List.flatMap_map]
          exact List.flatMap_eq_nil_iff.2 fun _ _ => rfl
        have hmarks := slots_singletons
          ((suppliedFields schema data).map fun field => Role.column field.name)
        rw [List.map_map] at hmarks
        simp only [template, slots, slots_append, hnames, List.nil_append, List.append_nil]
        exact hmarks
      rw [hslots, ← columns_stand dump (Call.insert data).given data rfl
        suppliedFields_contains]
      refine iff_of_true ?_ (List.forall_mem_nil _)
      rw [jsonToValues, insertedFields_eq]
      rfl
  | update data id =>
      obtain rfl := Option.some.inj h
      have hslots : slots ((Call.update data id).template schema) =
          ((updatedFields schema data).map fun field => Role.column field.name) ++ [.id] := by
        simp only [template, slots, slots_append, slots_assignments, List.nil_append]
        rfl
      rw [hslots, List.map_append, ← columns_stand dump (Call.update data id).given data rfl
        updatedFields_contains]
      refine iff_of_true ?_ (List.forall_mem_nil _)
      rw [buildUpdateParams, List.map_append]
      rfl
  | updateMany filter data =>
      obtain rfl := Option.some.inj h
      have hslots : slots ((Call.updateMany filter data).template schema) =
          ((suppliedFields schema data).map fun field => Role.column field.name) ++
            slots (filteredPieces filter) := by
        simp only [template, slots, slots_append, slots_assignments, List.nil_append]
      rw [hslots, List.map_append, ← columns_stand dump (Call.updateMany filter data).given data
        rfl suppliedFields_contains,
        ← members_stand dump (Call.updateMany filter data).given filter rfl]
      refine iff_of_true ?_ (List.forall_mem_nil _)
      rw [buildUpdateManyParams, List.map_append]
      rfl
  | deleteMany filter =>
      obtain rfl := Option.some.inj h
      have hslots : slots ((Call.deleteMany filter).template schema) =
          slots (filteredPieces filter) := by
        simp only [template, slots, slots_append, List.nil_append]
      rw [hslots, ← members_stand dump (Call.deleteMany filter).given filter rfl]
      exact iff_of_true rfl (List.forall_mem_nil _)
  | findFirst filter =>
      obtain rfl := Option.some.inj h
      have hslots : slots ((Call.findFirst filter).template schema) =
          slots (filteredPieces filter) := by
        simp only [template, slots, slots_append, slots_fieldListPieces, List.nil_append,
          List.append_nil]
      rw [hslots, ← members_stand dump (Call.findFirst filter).given filter rfl]
      exact iff_of_true rfl (List.forall_mem_nil _)

/-! ### The result -/

theorem Call.params_isSome (dump : Json → String) (schema : EntitySchema) (call : Call) :
    (call.params dump schema).isSome ↔ call.OffsetFits := by
  cases call with
  | list options =>
      rw [params, buildListParams, OffsetFits]
      split_ifs with hfits
      · exact iff_of_true rfl hfits
      · exact iff_of_false nofun hfits
  | _ => exact iff_of_true rfl trivial

/-- **Placeholders and values agree exactly when the names are free of the quote, every `BETWEEN`
has both bounds and the offset fits.**  For a statement that is not empty: its text reads as
the template, it has as many placeholders as there are values, and each value is the one its
placeholder stands for. -/
theorem params_agree_iff (dump : Json → String) (schema : EntitySchema) {call : Call}
    (h : call.statement schema ≠ "") :
    (∃ values, call.params dump schema = some values ∧ Agree dump schema call values) ↔
      (∀ name ∈ names (call.template schema), '"' ∉ name.toList) ∧
        (∀ cond ∈ call.conditions, cond.op = .between → 2 ≤ cond.values.length) ∧
        call.OffsetFits := by
  have hreads := (call.spells schema h).tokens_iff isQuote
  rw [unquoted_tokensOf] at hreads
  constructor
  · rintro ⟨values, hvalues, hagree⟩
    refine ⟨hreads.1 hagree.reads, (call.stands_iff dump schema hvalues).1 hagree.stands, ?_⟩
    rw [← call.params_isSome dump schema, hvalues]
    rfl
  · rintro ⟨hnames, hcomplete, hfits⟩
    obtain ⟨values, hvalues⟩ :=
      Option.isSome_iff_exists.1 ((call.params_isSome dump schema).2 hfits)
    have hstands := (call.stands_iff dump schema hvalues).2 hcomplete
    have hcount : (placeholders (tokensOf (call.template schema))).length = values.length := by
      rw [length_placeholders_tokensOf, ← List.length_map (call.given.value dump), ← hstands,
        List.length_map]
    exact ⟨values, hvalues, hreads.2 hnames, hcount, hstands⟩

/-- A page of the rows of a tenant within bounds. -/
theorem params_agree_both_bounds :
    let schema : EntitySchema := { name := "post", fields := [{ name := "id", type := "string" }] }
    let options : ListOptions :=
      { filter := .ofList [("tenantId", "t1")]
        conditions := [{ field := "likes", op := .between, values := ["1", "5"] }] }
    ∃ values, (Call.list options).params (fun _ => "") schema = some values ∧
      Agree (fun _ => "") schema (.list options) values := by
  intro schema options
  have hne : (Call.list options).statement schema ≠ "" := by decide +kernel
  exact (params_agree_iff (fun _ => "") schema hne).2
    ⟨by decide +kernel, by decide +kernel, (by decide +kernel : pageOffset options ≤ intMax)⟩

/-- **A `BETWEEN` with one bound takes the limit for its own.**  The statement has four
placeholders and there are two values, those of the page. -/
theorem between_one_bound :
    let schema : EntitySchema := { name := "post", fields := [{ name := "id", type := "string" }] }
    let options : ListOptions :=
      { conditions := [{ field := "likes", op := .between, values := ["1"] }] }
    buildListQuery schema options =
        "SELECT \"id\" FROM \"post\" WHERE \"likes\" BETWEEN ? AND ? LIMIT ? OFFSET ?" ∧
      (tokens '"' (buildListQuery schema options).toList).map (fun ts => (placeholders ts).length) =
        some 4 ∧
      buildListParams options = some ["20", "0"] := by
  decide +kernel

end SQLiteQueryBuilder
end Dbal
