/-
# What of a query procedure runs

`QueryRouteHandler` runs a procedure as declared when each clause of `where` becomes a condition
with its field, operator and value, apart from those of a parameter that was not supplied, when the
tenant is filtered by, and when the order is the one of `orderBy`.  The handler knows ten of the
thirteen operators and takes every other name for an equality, it makes a condition only of a clause
that has a parameter or a value, so that the null tests without either vanish, and it keeps the order
in a map, which is sorted by field.  What it accepts runs as declared exactly when nothing of this
kind occurs (`runs_as_declared_iff`).  The clauses are taken one by one (`declared_iff`), and the
list lemma `Store.forall₂_reduceOption_iff` puts them together.
-/

import Dbal.Daemon.QueryConditions
import Dbal.Daemon.QueryRouteHandler
import Dbal.JsonReading
import Dbal.Store.Collections

namespace Dbal
namespace Daemon
namespace QueryRouteHandler

variable (dump : Json → String) (qparams : Std.TreeMap String String)

/-! ## What is declared -/

/-- A clause of a parameter that was not supplied. -/
def isUnsupplied (w : Json) : Bool :=
  (w.find? "param").any fun param => (qparams[param.text]?).isNone

/-- The text that a clause compares with. -/
def declaredText (w : Json) : Option String :=
  match w.find? "param", w.find? "value" with
  | some param, _ => qparams[param.text]?
  | none, some value => some (literal dump value)
  | none, none => none

/-- The values of a clause on a list: those of an array, or what stands between commas. -/
def declaredValues (w : Json) : Option (List String) :=
  match w.find? "param", w.find? "value" with
  | none, some (.arr values) => some (values.map (literal dump))
  | _, _ => (declaredText dump qparams w).map fun text =>
      (text.toList.splitOn ',').map String.ofList

/-- The condition is what the clause declares. -/
structure Declares (w : Json) (c : FilterCondition) : Prop where
  field : c.field = w.textAt "field" ""
  op : (w.textAt "op" "eq", c.op) ∈ ListHandler.opNames
  values : c.op = .in ∨ c.op = .notIn ∨ c.op = .between →
    declaredValues dump qparams w = some c.values
  value : ¬ (c.op = .in ∨ c.op = .notIn ∨ c.op = .between) → c.op ≠ .isNull → c.op ≠ .isNotNull →
    declaredText dump qparams w = some c.value

/-- An entry of the sort is what an entry of `orderBy` declares. -/
def DeclaresOrder (ob : Json) (entry : String × String) : Prop :=
  ob.isObject = true ∧ ob.textAt "field" "" = entry.1 ∧ ob.textAt "dir" "asc" = entry.2

/-- A procedure runs as declared. -/
structure RunsAsDeclared (tenant : String) (proc : Json) (options : ListOptions) : Prop where
  clauses : List.Forall₂ (Declares dump qparams)
    ((arrayAt proc "where").filter fun w => !isUnsupplied qparams w) options.conditions
  tenant : options.filter["tenantId"]? = some tenant
  order : List.Forall₂ DeclaresOrder (arrayAt proc "orderBy") options.sort.toList

/-! ## What the handler translates -/

/-- A clause that becomes a condition: it has a field, one of the ten operators, and a parameter or
a value. -/
def Translatable (w : Json) : Prop :=
  w.textAt "field" "" ≠ "" ∧
  (w.textAt "op" "eq", opOf (w.textAt "op" "eq")) ∈ ListHandler.opNames ∧
  (w.contains "param" = true ∨ w.contains "value" = true)

/-- The entries name fields, in ascending order. -/
def InFieldOrder (orderBy : List Json) : Prop :=
  (∀ ob ∈ orderBy, ob.isObject = true ∧ ob.textAt "field" "" ≠ "") ∧
  (orderBy.map fun ob => ob.textAt "field" "").Pairwise (· < ·)

/-! ## Clauses -/

section Clauses

variable {dump : Json → String} {qparams : Std.TreeMap String String} {w : Json}
  {r : Option FilterCondition}

theorem valueString_ok {node : Json} {key default s : String}
    (h : node.valueString key default = .ok s) : s = node.textAt key default := by
  cases hobject : node.isObject with
  | true => exact ((Json.yields_valueString hobject key default).of_ok h).2
  | false =>
      exact absurd ((Json.yields_valueString_of_not_isObject hobject key default).of_ok h).1
        (by decide)

theorem getString_ok {node : Json} {s : String} (h : node.getString = .ok s) : s = node.text :=
  ((Json.yields_getString node).of_ok h).2

/-- What the handler makes of a clause. -/
theorem clauseCondition_eq_ok (h : clauseCondition dump qparams w = .ok r) :
    r = if w.textAt "field" "" = "" then none
      else (declaredText dump qparams w).map fun value =>
        { field := w.textAt "field" "", op := opOf (w.textAt "op" "eq"), value } := by
  obtain ⟨field, hfield, h⟩ := bind_ok_iff.1 h
  obtain ⟨name, hop, h⟩ := bind_ok_iff.1 h
  obtain rfl := valueString_ok hfield
  obtain rfl := valueString_ok hop
  unfold declaredText
  split_ifs at h ⊢ with hempty
  · exact (Except.ok.inj h).symm
  · cases hparam : w.find? "param" with
    | some param =>
        simp only [hparam] at h ⊢
        obtain ⟨pname, hname, h⟩ := bind_ok_iff.1 h
        obtain rfl := getString_ok hname
        exact (Except.ok.inj h).symm
    | none =>
        cases hvalue : w.find? "value" with
        | some value =>
            simp only [hparam, hvalue] at h ⊢
            exact (Except.ok.inj h).symm
        | none =>
            simp only [hparam, hvalue] at h ⊢
            exact (Except.ok.inj h).symm

/-- No name gives an operator on a list. -/
theorem opOf_ne (name : String) :
    ¬ (opOf name = .in ∨ opOf name = .notIn ∨ opOf name = .between) := by
  unfold opOf
  split_ifs <;> simp

theorem isSome_declaredText_iff (hsupplied : isUnsupplied qparams w = false) :
    (declaredText dump qparams w).isSome = true ↔
      w.contains "param" = true ∨ w.contains "value" = true := by
  unfold isUnsupplied at hsupplied
  unfold declaredText Json.contains
  cases hparam : w.find? "param" with
  | none => cases w.find? "value" <;> simp
  | some param =>
      rw [hparam] at hsupplied
      simpa using hsupplied

/-- A clause is declared by what the handler makes of it exactly when it is translatable. -/
theorem declared_iff (h : clauseCondition dump qparams w = .ok r)
    (hsupplied : isUnsupplied qparams w = false) :
    (∃ c, r = some c ∧ Declares dump qparams w c) ↔ Translatable w := by
  have hr := clauseCondition_eq_ok h
  have htext : (declaredText dump qparams w).isSome = true ↔ _ := isSome_declaredText_iff hsupplied
  constructor
  · rintro ⟨c, rfl, hc⟩
    split_ifs at hr with hempty
    obtain ⟨value, hvalue, rfl⟩ := Option.map_eq_some_iff.1 hr.symm
    exact ⟨hempty, hc.op, htext.1 (by rw [hvalue]; rfl)⟩
  · rintro ⟨hfield, hop, hbound⟩
    obtain ⟨value, hvalue⟩ := Option.isSome_iff_exists.1 (htext.2 hbound)
    rw [if_neg hfield, hvalue] at hr
    exact ⟨_, hr, {
      field := rfl
      op := hop
      values := fun hlist => absurd hlist (opOf_ne _)
      value := fun _ _ _ => hvalue }⟩

theorem eq_none_of_isUnsupplied (h : clauseCondition dump qparams w = .ok r)
    (hunsupplied : isUnsupplied qparams w = true) : r = none := by
  have htext : declaredText dump qparams w = none := by
    unfold isUnsupplied at hunsupplied
    unfold declaredText
    cases hparam : w.find? "param" with
    | none => simp [hparam] at hunsupplied
    | some param => simpa [hparam] using hunsupplied
  rw [clauseCondition_eq_ok h, htext]
  split <;> rfl

end Clauses

/-! ## The order -/

section Order

/-- What an entry of `orderBy` puts into the map. -/
def orderEntry? (ob : Json) : Option (String × String) :=
  if ob.isObject = true ∧ ob.textAt "field" "" ≠ "" then
    some (ob.textAt "field" "", ob.textAt "dir" "asc")
  else none

theorem orderBy_eq_ok {sort sort' : Std.TreeMap String String} {ob : Json}
    (h : orderBy sort ob = .ok sort') :
    sort' = match orderEntry? ob with
      | some entry => sort.insert entry.1 entry.2
      | none => sort := by
  unfold orderBy at h
  unfold orderEntry?
  cases hobject : ob.isObject with
  | false =>
      rw [hobject] at h
      exact (Except.ok.inj h).symm
  | true =>
      rw [hobject] at h
      obtain ⟨field, hfield, h⟩ := bind_ok_iff.1 h
      obtain ⟨dir, hdir, h⟩ := bind_ok_iff.1 h
      obtain rfl := valueString_ok hfield
      obtain rfl := valueString_ok hdir
      obtain rfl := (Except.ok.inj h).symm
      by_cases hempty : ob.textAt "field" "" = "" <;> simp [hempty]

/-- The map that the entries make. -/
theorem sort_eq_insertMany {sort sort' : Std.TreeMap String String} {obs : List Json}
    (h : obs.foldlM orderBy sort = .ok sort') :
    sort' = sort.insertMany (obs.filterMap orderEntry?) := by
  induction obs generalizing sort with
  | nil =>
      cases h
      rfl
  | cons ob obs ih =>
      obtain ⟨next, hstep, hrest⟩ := foldlM_cons_ok_iff.1 h
      rw [ih hrest, orderBy_eq_ok hstep]
      cases hentry : orderEntry? ob with
      | none => rw [List.filterMap_cons_none hentry]
      | some entry => rw [List.filterMap_cons_some hentry, Std.TreeMap.insertMany_cons]

theorem sort_eq_ofList {sort : Std.TreeMap String String} {obs : List Json}
    (h : obs.foldlM orderBy ∅ = .ok sort) :
    sort = Std.TreeMap.ofList (obs.filterMap orderEntry?) := by
  rw [sort_eq_insertMany h, Std.TreeMap.ofList_eq_insertMany_empty]

theorem orderEntry?_eq_some {ob : Json} {entry : String × String}
    (h : orderEntry? ob = some entry) : entry.1 ≠ "" := by
  unfold orderEntry? at h
  split_ifs at h with hob
  cases h
  exact hob.2

/-- No key of the map is empty. -/
theorem ne_empty_of_mem_sort {obs : List Json} {entry : String × String}
    (h : entry ∈ (Std.TreeMap.ofList (obs.filterMap orderEntry?)).toList) : entry.1 ≠ "" := by
  have hfound := Std.TreeMap.mem_toList_iff_getElem?_eq_some.1 h
  have hmem : entry.1 ∈ Std.TreeMap.ofList (obs.filterMap orderEntry?) :=
    Std.TreeMap.mem_iff_isSome_getElem?.2 (by rw [hfound]; rfl)
  rw [Std.TreeMap.mem_ofList, List.contains_iff_mem, List.mem_map] at hmem
  obtain ⟨other, hother, heq⟩ := hmem
  obtain ⟨ob, -, hob⟩ := List.mem_filterMap.1 hother
  exact heq ▸ orderEntry?_eq_some hob

theorem orderEntry?_of_field {ob : Json} (h : ob.isObject = true ∧ ob.textAt "field" "" ≠ "") :
    orderEntry? ob = some (ob.textAt "field" "", ob.textAt "dir" "asc") := if_pos h

/-- The map lists the entries as they are declared exactly when they name fields in ascending
order. -/
theorem declaresOrder_iff {sort : Std.TreeMap String String} {obs : List Json}
    (h : obs.foldlM orderBy ∅ = .ok sort) :
    List.Forall₂ DeclaresOrder obs sort.toList ↔ InFieldOrder obs := by
  have hsort := sort_eq_ofList h
  constructor
  · intro hdeclares
    have hfields : obs.map (fun ob => ob.textAt "field" "") = sort.toList.map Prod.fst := by
      refine List.forall₂_eq_eq_eq ▸ ?_
      rw [List.forall₂_map_left_iff, List.forall₂_map_right_iff]
      exact hdeclares.imp fun ob entry hob => hob.2.1
    refine ⟨fun ob hob => ?_, ?_⟩
    · obtain ⟨entry, hentry, hobject, hfield, -⟩ := Store.exists_of_forall₂ hdeclares hob
      exact ⟨hobject, hfield ▸ ne_empty_of_mem_sort (hsort ▸ hentry)⟩
    · rw [hfields, List.pairwise_map]
      exact Std.TreeMap.ordered_keys_toList.imp fun hlt => compare_lt_iff_lt.1 hlt
  · rintro ⟨hnamed, hascending⟩
    have hentries : obs.filterMap orderEntry? =
        obs.map fun ob => (ob.textAt "field" "", ob.textAt "dir" "asc") := by
      rw [← List.filterMap_eq_map]
      exact List.filterMap_congr fun ob hob => orderEntry?_of_field (hnamed ob hob)
    have hlist : sort.toList = obs.map fun ob => (ob.textAt "field" "", ob.textAt "dir" "asc") := by
      rw [hsort, hentries]
      exact Store.toList_ofList (by rw [List.map_map]; exact hascending)
    rw [hlist, List.forall₂_map_right_iff, List.forall₂_same]
    exact fun ob hob => ⟨(hnamed ob hob).1, rfl, rfl⟩

end Order

/-! ## The options -/

section Options

variable {dump : Json → String} {qparams : Std.TreeMap String String} {tenant entity : String}
  {proc : Json} {options : ListOptions}

theorem select_eq_ok {options' : ListOptions} {sel : Json} (h : select options sel = .ok options') :
    options'.filter = options.filter ∧ options'.conditions = options.conditions := by
  unfold select at h
  split at h
  · obtain ⟨name, -, h⟩ := bind_ok_iff.1 h
    obtain ⟨field, -, h⟩ := bind_ok_iff.1 h
    obtain ⟨aliasName, -, h⟩ := bind_ok_iff.1 h
    cases h
    exact ⟨rfl, rfl⟩
  · split at h <;> cases h <;> exact ⟨rfl, rfl⟩

theorem selects_eq_ok {options' : ListOptions} {sels : List Json}
    (h : sels.foldlM select options = .ok options') :
    options'.filter = options.filter ∧ options'.conditions = options.conditions := by
  refine holds_of_foldlM
    (P := fun made => made.filter = options.filter ∧ made.conditions = options.conditions)
    (fun sel _ next after hnext hstep => ?_) ⟨rfl, rfl⟩ h
  obtain ⟨hfilter, hconditions⟩ := select_eq_ok hstep
  exact ⟨hfilter.trans hnext.1, hconditions.trans hnext.2⟩

/-- The filter, the conditions and the sort of the options. -/
theorem listOptions_eq_ok (h : listOptions dump tenant proc qparams = .ok options) :
    (options.filter = if tenant = "" then ∅ else .ofList [("tenantId", tenant)]) ∧
    (∃ rs, (arrayAt proc "where").mapM (clauseCondition dump qparams) = .ok rs ∧
      options.conditions = rs.reduceOption) ∧
    (arrayAt proc "orderBy").foldlM orderBy ∅ = .ok options.sort := by
  obtain ⟨declared, -, h⟩ := bind_ok_iff.1 h
  obtain ⟨rs, hclauses, h⟩ := bind_ok_iff.1 h
  obtain ⟨selected, hselected, h⟩ := bind_ok_iff.1 h
  obtain ⟨sort, hsort, h⟩ := bind_ok_iff.1 h
  cases h
  obtain ⟨hfilter, hconditions⟩ := selects_eq_ok hselected
  exact ⟨hfilter, ⟨rs, hclauses, hconditions⟩, hsort⟩

theorem listing_eq_ok (h : listing dump tenant proc qparams = .ok (.ok (entity, options))) :
    listOptions dump tenant proc qparams = .ok options := by
  obtain ⟨missing, -, h⟩ := bind_ok_iff.1 h
  cases missing with
  | some pname => cases h
  | none =>
      obtain ⟨made, hmade, h⟩ := bind_ok_iff.1 h
      obtain ⟨name, -, h⟩ := bind_ok_iff.1 h
      split at h
      · cases h
      · cases h
        exact hmade

theorem filter_tenant_iff :
    (if tenant = "" then (∅ : Std.TreeMap String String)
      else .ofList [("tenantId", tenant)])["tenantId"]? = some tenant ↔ tenant ≠ "" := by
  split_ifs with htenant
  · simp [htenant]
  · simp [htenant]

/-- **A procedure that is accepted runs as declared exactly when it has a tenant, every clause whose
parameter is supplied is translatable, and the order is the order of the fields.** -/
theorem runs_as_declared_iff
    (h : listing dump tenant proc qparams = .ok (.ok (entity, options))) :
    RunsAsDeclared dump qparams tenant proc options ↔
      tenant ≠ "" ∧
      (∀ w ∈ arrayAt proc "where", isUnsupplied qparams w = false → Translatable w) ∧
      InFieldOrder (arrayAt proc "orderBy") := by
  obtain ⟨hfilter, ⟨rs, hrs, hconditions⟩, hsort⟩ := listOptions_eq_ok (listing_eq_ok h)
  have hclauses : List.Forall₂ (Declares dump qparams)
      ((arrayAt proc "where").filter fun w => !isUnsupplied qparams w) options.conditions ↔
      ∀ w ∈ arrayAt proc "where", isUnsupplied qparams w = false → Translatable w := by
    rw [hconditions, Store.forall₂_reduceOption_iff (Q := Translatable) (Store.forall₂_of_mapM hrs)]
    · simp
    · intro w r hw hkeep
      exact eq_none_of_isUnsupplied hw (by simpa using hkeep)
    · intro w r hw hkeep
      exact declared_iff hw (by simpa using hkeep)
  have htenant : options.filter["tenantId"]? = some tenant ↔ tenant ≠ "" := by
    rw [hfilter]
    exact filter_tenant_iff
  rw [← hclauses, ← declaresOrder_iff hsort, ← htenant]
  exact ⟨fun hruns => ⟨hruns.tenant, hruns.clauses, hruns.order⟩,
    fun ⟨ht, hc, ho⟩ => ⟨hc, ht, ho⟩⟩

end Options

/-- The snippets of a user run as declared. -/
theorem user_snippets_run :
    let clause : Json := .obj [("field", .str "userId"), ("op", .str "eq"), ("param", .str "userId")]
    let proc : Json := .obj [("entity", .str "Snippet"), ("where", .arr [clause])]
    let qparams : Std.TreeMap String String := .ofList [("userId", "u1")]
    ∃ entity options, listing (fun _ => "") "acme" proc qparams = .ok (.ok (entity, options)) ∧
      RunsAsDeclared (fun _ => "") qparams "acme" proc options := by
  intro clause proc qparams
  have hlisting : listing (fun _ => "") "acme" proc qparams = .ok (.ok ("Snippet",
      { filter := .ofList [("tenantId", "acme")], limit := 100,
        conditions := [{ field := "userId", value := "u1" }] })) := by rfl
  refine ⟨_, _, hlisting, (runs_as_declared_iff hlisting).2 ⟨by decide, ?_, ?_⟩⟩
  · have hwhere : arrayAt proc "where" = [clause] := by rfl
    rw [hwhere]
    intro w hw _
    rw [List.mem_singleton.1 hw]
    exact ⟨by decide +kernel, by decide +kernel, .inl (by decide +kernel)⟩
  · have horder : arrayAt proc "orderBy" = [] := by rfl
    rw [horder]
    exact ⟨fun ob hob => absurd hob List.not_mem_nil, List.Pairwise.nil⟩

/-- A null test without a value vanishes: the deleted snippets are listed too. -/
theorem null_test_vanishes :
    let clause : Json := .obj [("field", .str "deletedAt"), ("op", .str "isnull")]
    let proc : Json := .obj [("entity", .str "Snippet"), ("where", .arr [clause])]
    ∃ entity options, listing (fun _ => "") "acme" proc ∅ = .ok (.ok (entity, options)) ∧
      ¬ RunsAsDeclared (fun _ => "") ∅ "acme" proc options := by
  intro clause proc
  have hlisting : listing (fun _ => "") "acme" proc ∅ = .ok (.ok ("Snippet",
      { filter := .ofList [("tenantId", "acme")], limit := 100 })) := by rfl
  refine ⟨_, _, hlisting, fun hruns => ?_⟩
  have hlength := hruns.clauses.length_eq
  exact absurd hlength (by decide +kernel)

end QueryRouteHandler
end Daemon
end Dbal
