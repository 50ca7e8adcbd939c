/-
# The conditions of a query

What the keys of a query ask for, and what of it `handleList` passes on.  A key `filter.field[op]`,
`where.field[op]` or `or[i].field[op]` names a field and an operator (`Names`); a listing enforces a
query when each of its condition keys names something that is among the options
(`Enforced`).  `handleList` never refuses a key for what it names: an unknown operator becomes an
equality, what stands behind a bracket is skipped, an index that is no number makes the entry
disappear, two equalities of one field leave one, and the tenant of the path replaces the one of the
query.  So a listing enforces a query exactly when the query has none of these
(`enforced_iff_unambiguous`).  Each entry leaves its own mark on what is gathered
(`holds_of_names`) and takes no other away (`holds_of_gather`), which carries over the loop.
-/

import Dbal.Daemon.Listing

namespace Dbal
namespace Daemon
namespace ListHandler

/-! ## What a key asks for -/

/-- The operators, by the names they have in a key. -/
def opNames : List (String × FilterOp) :=
  [("eq", .eq), ("ne", .ne), ("lt", .lt), ("lte", .lte), ("gt", .gt), ("gte", .gte),
    ("like", .like), ("ilike", .iLike), ("in", .in), ("notin", .notIn), ("isnull", .isNull),
    ("isnotnull", .isNotNull), ("between", .between)]

/-- A text is `field` or `field[op]`, the operator in either case of letters. -/
inductive NamesField : List Char → String → FilterOp → Prop
  | bare {field : List Char} (hfield : '[' ∉ field) : NamesField field (String.ofList field) .eq
  | bracket {field name : List Char} {op : FilterOp} (hfield : '[' ∉ field) (hname : ']' ∉ name)
      (hop : (toLower (String.ofList name), op) ∈ opNames) :
      NamesField (field ++ '[' :: (name ++ [']'])) (String.ofList field) op

/-- What an entry of a query asks for. -/
inductive Asked where
  | equality (field value : String)
  | condition (c : FilterCondition)
  | member (group : Int) (c : FilterCondition)
  deriving DecidableEq, Repr

/-- The condition of a field, an operator and a text; a list has its values between commas. -/
def conditionOf (field : String) (op : FilterOp) (value : String) : FilterCondition :=
  if op = .in ∨ op = .notIn ∨ op = .between then
    { field, op, values := (value.toList.splitOn ',').map String.ofList }
  else { field, op, value }

/-- What stands behind `filter.` or `where.`. -/
def behindFilter? (key : String) : Option (List Char) :=
  (behind? "filter." key).or (behind? "where." key)

/-- An entry names what it asks for. -/
inductive Names : String → String → Asked → Prop
  | equality {key value field : String} {rest : List Char} (hkey : behindFilter? key = some rest)
      (hfield : NamesField rest field .eq) : Names key value (.equality field value)
  | condition {key value field : String} {rest : List Char} {op : FilterOp}
      (hkey : behindFilter? key = some rest) (hfield : NamesField rest field op) (hop : op ≠ .eq) :
      Names key value (.condition (conditionOf field op value))
  | member {key value field : String} {index rest : List Char} {i : Int} {op : FilterOp}
      (hkey : behind? "or[" key = some (index ++ ']' :: '.' :: rest)) (hindex : ']' ∉ index)
      (hnumber : stoi index = some (i, [])) (hfield : NamesField rest field op) :
      Names key value (.member i (conditionOf field op value))

/-- A key that starts like a condition. -/
def IsConditionKey (key : String) : Prop :=
  (behindFilter? key).isSome = true ∨ (behind? "or[" key).isSome = true

/-! ## What is passed on -/

/-- The options contain what is asked for; `slot` has the places of the OR-groups. -/
def Represented (options : ListOptions) (slot : Int → Nat) : Asked → Prop
  | .equality field value => options.filter[field]? = some value
  | .condition c => c ∈ options.conditions
  | .member i c => ∃ group, options.filterGroups[slot i]? = some group ∧ c ∈ group.conditions

/-- The number of an OR-group that some entry names. -/
def UsedGroup (query : Std.TreeMap String String) (i : Int) : Prop :=
  ∃ key value c, query[key]? = some value ∧ Names key value (.member i c)

/-- Every condition of the query is among the options, each OR-group in a place of its own, and so
is the tenant. -/
def Enforced (tenant : String) (query : Std.TreeMap String String) (options : ListOptions) : Prop :=
  options.filter["tenantId"]? = some tenant ∧
  ∃ slot : Int → Nat,
    (∀ i j, UsedGroup query i → UsedGroup query j → slot i = slot j → i = j) ∧
    ∀ key value, query[key]? = some value → IsConditionKey key →
      ∃ asked, Names key value asked ∧ Represented options slot asked

/-- No value of a list is empty. -/
def Asked.Full : Asked → Prop
  | .equality _ _ => True
  | .condition c | .member _ c => ∀ v ∈ c.values, v ≠ ""

/-- Every condition key names something with full lists, and the equalities of one field, that of
the tenant included, agree. -/
structure Unambiguous (tenant : String) (query : Std.TreeMap String String) : Prop where
  named : ∀ key value, query[key]? = some value → IsConditionKey key →
    ∃ asked, Names key value asked ∧ asked.Full
  agree : ∀ key value key' value' field, query[key]? = some value → query[key']? = some value' →
    Names key value (.equality field value) → Names key' value' (.equality field value') →
    value = value'
  tenant : ∀ key value, query[key]? = some value →
    Names key value (.equality "tenantId" value) → value = tenant

/-! ## Reading a key -/

section Brackets

variable {c : Char} {front rest : List Char}

theorem decide_ne_of_not_mem (h : c ∉ front) : ∀ d ∈ front, decide (d ≠ c) = true :=
  fun _ hd => decide_eq_true fun heq => h (heq ▸ hd)

theorem after?_append (h : c ∉ front) : after? c (front ++ c :: rest) = some rest := by
  have hdrop : (front ++ c :: rest).dropWhile (· ≠ c) = c :: rest := by
    rw [List.dropWhile_append_of_pos (decide_ne_of_not_mem h)]
    simp
  rw [after?, hdrop]

theorem before_append (h : c ∉ front) : before c (front ++ c :: rest) = front := by
  rw [before, List.takeWhile_append_of_pos (decide_ne_of_not_mem h)]
  simp

theorem after?_eq_none (h : c ∉ front) : after? c front = none := by
  have hdrop : front.dropWhile (· ≠ c) = [] := by
    rw [← List.append_nil front, List.dropWhile_append_of_pos (decide_ne_of_not_mem h)]
    rfl
  rw [after?, hdrop]

end Brackets

theorem parseOpString_of_mem {name : String} {op : FilterOp} (h : (name, op) ∈ opNames) :
    parseOpString name = op ∧ (name = "eq" ↔ op = .eq) := by
  have hall : ∀ entry ∈ opNames, parseOpString entry.1 = entry.2 ∧
      (entry.1 = "eq" ↔ entry.2 = .eq) := by decide
  exact hall _ h

/-- A text that names a field and an operator is read so. -/
theorem NamesField.parse {rest : List Char} {field : String} {op : FilterOp}
    (h : NamesField rest field op) :
    ∃ name, parseFieldOp rest = (field, name) ∧ parseOpString name = op ∧
      (name = "eq" ↔ op = .eq) := by
  cases h with
  | bare hfield =>
      refine ⟨"eq", ?_, by decide, by simp⟩
      rw [parseFieldOp, after?_eq_none hfield]
  | @bracket field name op hfield hname hop =>
      refine ⟨toLower (String.ofList name), ?_, parseOpString_of_mem hop⟩
      simp [parseFieldOp, after?_append hfield, before_append hfield, after?_append hname,
        before_append hname]

theorem NamesField.unique {rest : List Char} {field field' : String} {op op' : FilterOp}
    (h : NamesField rest field op) (h' : NamesField rest field' op') : field = field' ∧ op = op' := by
  obtain ⟨name, hparse, hop, -⟩ := h.parse
  obtain ⟨name', hparse', hop', -⟩ := h'.parse
  obtain ⟨rfl, rfl⟩ := Prod.mk.inj (hparse.symm.trans hparse')
  exact ⟨rfl, hop.symm.trans hop'⟩

theorem behind?_eq_some {start key : String} {rest : List Char} (h : behind? start key = some rest) :
    key.toList = start.toList ++ rest := by
  unfold behind? at h
  split at h
  · next hstart =>
      cases h
      obtain ⟨rest, hrest⟩ := List.isPrefixOf_iff_prefix.1 hstart
      rw [← hrest, ← String.length_toList, List.drop_left]
  · cases h

/-- The key of an OR-group has none of the other prefixes. -/
theorem not_behind_of_or {key : String} {rest : List Char} (h : behind? "or[" key = some rest) :
    behindFilter? key = none ∧ (behind? "sort." key).or (behind? "orderBy." key) = none := by
  have hkey := behind?_eq_some h
  simp [behindFilter?, behind?, hkey]

/-- An entry asks for one thing. -/
theorem Names.unique {key value : String} {asked asked' : Asked} (h : Names key value asked)
    (h' : Names key value asked') : asked = asked' := by
  cases h with
  | equality hkey hfield =>
      cases h' with
      | equality hkey' hfield' =>
          obtain rfl := Option.some.inj (hkey.symm.trans hkey')
          rw [(hfield.unique hfield').1]
      | condition hkey' hfield' hop =>
          obtain rfl := Option.some.inj (hkey.symm.trans hkey')
          exact absurd (hfield.unique hfield').2.symm hop
      | member hkey' _ _ _ => rw [(not_behind_of_or hkey').1] at hkey; cases hkey
  | condition hkey hfield hop =>
      cases h' with
      | equality hkey' hfield' =>
          obtain rfl := Option.some.inj (hkey.symm.trans hkey')
          exact absurd (hfield.unique hfield').2 hop
      | condition hkey' hfield' _ =>
          obtain rfl := Option.some.inj (hkey.symm.trans hkey')
          rw [(hfield.unique hfield').1, (hfield.unique hfield').2]
      | member hkey' _ _ _ => rw [(not_behind_of_or hkey').1] at hkey; cases hkey
  | member hkey hindex hnumber hfield =>
      cases h' with
      | equality hkey' _ => rw [(not_behind_of_or hkey).1] at hkey'; cases hkey'
      | condition hkey' _ _ => rw [(not_behind_of_or hkey).1] at hkey'; cases hkey'
      | member hkey' hindex' hnumber' hfield' =>
          have htext := Option.some.inj (hkey.symm.trans hkey')
          have hbefore := congrArg (before ']') htext
          have hafter := congrArg (after? ']') htext
          rw [before_append hindex, before_append hindex'] at hbefore
          rw [after?_append hindex, after?_append hindex'] at hafter
          obtain rfl := hbefore
          obtain rfl := (List.cons.inj (Option.some.inj hafter)).2
          obtain ⟨rfl, -⟩ := Prod.mk.inj (Option.some.inj (hnumber.symm.trans hnumber'))
          rw [(hfield.unique hfield').1, (hfield.unique hfield').2]

/-! ## Making a condition -/

theorem splitCsv_full {value v : String} (h : v ∈ splitCsv value) : v ≠ "" := by
  obtain ⟨part, hpart, rfl⟩ := List.mem_map.1 h
  have hne : part ≠ [] := by simpa using (List.mem_filter.1 hpart).2
  exact fun hempty => hne (by simpa using congrArg String.toList hempty)

/-- The values of a condition that is made are never empty. -/
theorem makeCondition_full (field name value : String) :
    ∀ v ∈ (makeCondition field name value).values, v ≠ "" := by
  intro v hv
  unfold makeCondition at hv
  split at hv
  · exact splitCsv_full hv
  · exact splitCsv_full hv
  · exact splitCsv_full hv
  · cases hv

theorem makeCondition_eq {field name value : String} {op : FilterOp} (hop : parseOpString name = op)
    (hfull : ∀ v ∈ (conditionOf field op value).values, v ≠ "") :
    makeCondition field name value = conditionOf field op value := by
  have hcsv : (∀ v ∈ (value.toList.splitOn ',').map String.ofList, v ≠ "") →
      splitCsv value = (value.toList.splitOn ',').map String.ofList := by
    intro hparts
    rw [splitCsv, List.filter_eq_self.2]
    intro part hpart
    have hne := hparts _ (List.mem_map_of_mem hpart)
    exact decide_eq_true fun hnil => hne (by rw [hnil])
  unfold makeCondition
  rw [hop]
  unfold conditionOf at hfull ⊢
  cases op with
  | «in» => simp [hcsv (by simpa using hfull)]
  | notIn => simp [hcsv (by simpa using hfull)]
  | between => simp [hcsv (by simpa using hfull)]
  | _ => simp

/-! ## The loop -/

/-- What is gathered contains what is asked for. -/
def Holds (g : Gathered) : Asked → Prop
  | .equality field value => g.options.filter[field]? = some value
  | .condition c => c ∈ g.options.conditions
  | .member i c => c ∈ g.orMap[i]?.getD []

theorem gather_of_behindFilter {g : Gathered} {key value : String} {rest : List Char}
    (h : behindFilter? key = some rest) : gather g (key, value) = .ok (addFilter g rest value) := by
  have hor : (behind? "filter." key).or (behind? "where." key) = some rest := h
  simp only [gather, hor]

theorem gather_of_or {g : Gathered} {key value : String} {rest : List Char}
    (h : behind? "or[" key = some rest) : gather g (key, value) = addOr g rest value := by
  obtain ⟨hfilter, hsort⟩ := not_behind_of_or h
  have hfilter' : (behind? "filter." key).or (behind? "where." key) = none := hfilter
  simp only [gather, hfilter', hsort, h]

/-- Any other key leaves filter, conditions and OR-groups alone. -/
theorem gather_of_not_condition {g g' : Gathered} {key value : String} (hkey : ¬ IsConditionKey key)
    (h : gather g (key, value) = .ok g') : g'.options.filter = g.options.filter ∧
      g'.options.conditions = g.options.conditions ∧ g'.orMap = g.orMap := by
  have hfilter : (behind? "filter." key).or (behind? "where." key) = none :=
    Option.not_isSome_iff_eq_none.1 fun hsome => hkey (.inl hsome)
  have hor : behind? "or[" key = none :=
    Option.not_isSome_iff_eq_none.1 fun hsome => hkey (.inr hsome)
  simp only [gather, hfilter, hor] at h
  split at h
  · next hsome => cases hsome
  · cases h
    exact ⟨rfl, rfl, rfl⟩
  · split at h
    · next hsome => cases hsome
    · cases h
      unfold addAggregate
      split
      · split
        · dsimp only
          split <;> exact ⟨rfl, rfl, rfl⟩
        · exact ⟨rfl, rfl, rfl⟩
      · exact ⟨rfl, rfl, rfl⟩
    · cases h
      unfold addPlain
      dsimp only
      split_ifs <;> exact ⟨rfl, rfl, rfl⟩

/-- What a key of an OR-group adds, if it adds anything. -/
theorem addOr_eq_ok {g g' : Gathered} {rest : List Char} {value : String}
    (h : addOr g rest value = .ok g') : g' = g ∨ ∃ i field name,
      g' = { g with orMap :=
        g.orMap.insert i (g.orMap[i]?.getD [] ++ [makeCondition field name value]) } := by
  unfold addOr at h
  split at h
  · split at h
    · cases h
    · cases h
      exact .inr ⟨_, _, _, rfl⟩
  · cases h
    exact .inl rfl

/-- An entry that names something with full lists is gathered. -/
theorem holds_of_names {g g' : Gathered} {key value : String} {asked : Asked}
    (hnames : Names key value asked) (hfull : asked.Full)
    (h : gather g (key, value) = .ok g') : Holds g' asked := by
  cases hnames with
  | equality hkey hfield =>
      obtain ⟨name, hparse, -, hname⟩ := hfield.parse
      rw [gather_of_behindFilter hkey] at h
      cases h
      simp [addFilter, hparse, hname.2 rfl, Holds]
  | condition hkey hfield hop =>
      obtain ⟨name, hparse, hopname, hname⟩ := hfield.parse
      rw [gather_of_behindFilter hkey] at h
      cases h
      have hne : name ≠ "eq" := fun heq => hop (hname.1 heq)
      simp [addFilter, hparse, hne, Holds, makeCondition_eq hopname hfull]
  | member hkey hindex hnumber hfield =>
      obtain ⟨name, hparse, hopname, -⟩ := hfield.parse
      rw [gather_of_or hkey] at h
      simp only [addOr, after?_append hindex, before_append hindex, hnumber, hparse] at h
      cases h
      simp [Holds, makeCondition_eq hopname hfull]

/-- An entry gives an asked equality no other value. -/
def Agrees (key value : String) (asked : Asked) : Prop :=
  (IsConditionKey key → ∃ other, Names key value other) ∧
  ∀ field v v', asked = .equality field v → Names key value (.equality field v') → v' = v

/-- What is gathered stays, unless the entry gives an equality another value. -/
theorem holds_of_gather {g g' : Gathered} {key value : String} {asked : Asked}
    (hagrees : Agrees key value asked) (hholds : Holds g asked)
    (h : gather g (key, value) = .ok g') : Holds g' asked := by
  by_cases hkey : IsConditionKey key
  · obtain ⟨other, hother⟩ := hagrees.1 hkey
    cases hother with
    | @equality field' rest hkey hfield =>
        obtain ⟨name, hparse, -, hname⟩ := hfield.parse
        rw [gather_of_behindFilter hkey] at h
        cases h
        simp only [addFilter, hparse, hname.2 rfl, if_true]
        cases asked with
        | equality field v =>
            rw [Holds, Std.TreeMap.getElem?_insert]
            split
            · next heq =>
                obtain rfl : field' = field := Std.LawfulEqCmp.eq_of_compare heq
                rw [hagrees.2 field' v value rfl (.equality hkey hfield)]
            · exact hholds
        | condition c => exact hholds
        | member i c => exact hholds
    | condition hkey hfield hop =>
        obtain ⟨name, hparse, -, hname⟩ := hfield.parse
        have hne : name ≠ "eq" := fun heq => hop (hname.1 heq)
        rw [gather_of_behindFilter hkey] at h
        cases h
        simp only [addFilter, hparse, if_neg hne]
        cases asked with
        | equality field v => exact hholds
        | condition c => exact List.mem_append_left _ hholds
        | member i c => exact hholds
    | member hkey hindex hnumber hfield =>
        rw [gather_of_or hkey] at h
        rcases addOr_eq_ok h with rfl | ⟨j, field, name, rfl⟩
        · exact hholds
        · cases asked with
          | equality field v => exact hholds
          | condition c => exact hholds
          | member i c =>
              rw [Holds, Std.TreeMap.getElem?_insert]
              split
              · next heq =>
                  obtain rfl : j = i := Std.LawfulEqCmp.eq_of_compare heq
                  exact List.mem_append_left _ hholds
              · exact hholds
  · obtain ⟨hfilter, hconditions, horMap⟩ := gather_of_not_condition hkey h
    cases asked with
    | equality field v => rwa [Holds, hfilter]
    | condition c => rwa [Holds, hconditions]
    | member i c => rwa [Holds, horMap]

/-- What is gathered stays over the whole loop. -/
theorem holds_of_run {g g' : Gathered} {entries : List (String × String)} {asked : Asked}
    (hagrees : ∀ entry ∈ entries, Agrees entry.1 entry.2 asked) (hholds : Holds g asked)
    (h : entries.foldlM gather g = .ok g') : Holds g' asked :=
  holds_of_foldlM (P := fun next => Holds next asked)
    (fun entry hentry _ _ hnext hstep => holds_of_gather (hagrees entry hentry) hnext hstep) hholds h

/-- Every entry is gathered, where each names something and the equalities agree. -/
theorem gathered_of_run {g g' : Gathered} {entries : List (String × String)}
    (hagrees : ∀ entry ∈ entries, ∀ asked, Names entry.1 entry.2 asked →
      ∀ other ∈ entries, Agrees other.1 other.2 asked)
    (hfull : ∀ entry ∈ entries, ∀ asked, Names entry.1 entry.2 asked → asked.Full)
    (h : entries.foldlM gather g = .ok g') :
    ∀ entry ∈ entries, ∀ asked, Names entry.1 entry.2 asked → Holds g' asked := by
  induction entries generalizing g with
  | nil => simp
  | cons first entries ih =>
      obtain ⟨next, hstep, hrest⟩ := foldlM_cons_ok_iff.1 h
      intro entry hentry asked hnames
      rcases List.mem_cons.1 hentry with rfl | hentry
      · exact holds_of_run
          (fun e he => hagrees entry List.mem_cons_self asked hnames e (List.mem_cons_of_mem _ he))
          (holds_of_names hnames (hfull entry List.mem_cons_self asked hnames) hstep) hrest
      · exact ih
          (fun e he a ha o ho => hagrees e (List.mem_cons_of_mem _ he) a ha o
            (List.mem_cons_of_mem _ ho))
          (fun e he => hfull e (List.mem_cons_of_mem _ he)) hrest entry hentry asked hnames

/-- No list among the conditions has an empty value. -/
def ListsFull (conditions : List FilterCondition) : Prop :=
  ∀ c ∈ conditions, ∀ v ∈ c.values, v ≠ ""

theorem ListsFull.append {conditions : List FilterCondition} (h : ListsFull conditions)
    (field name value : String) : ListsFull (conditions ++ [makeCondition field name value]) := by
  intro c hc
  rcases List.mem_append.1 hc with hc | hc
  · exact h c hc
  · rw [List.mem_singleton.1 hc]
    exact makeCondition_full field name value

/-- No list that is gathered has an empty value. -/
def AllFull (g : Gathered) : Prop :=
  ListsFull g.options.conditions ∧ ∀ i : Int, ListsFull (g.orMap[i]?.getD [])

theorem allFull_of_gather {g g' : Gathered} {entry : String × String} (hfull : AllFull g)
    (h : gather g entry = .ok g') : AllFull g' := by
  obtain ⟨key, value⟩ := entry
  by_cases hkey : IsConditionKey key
  · rcases hkey with hfilter | hor
    · obtain ⟨rest, hrest⟩ := Option.isSome_iff_exists.1 hfilter
      rw [gather_of_behindFilter hrest] at h
      cases h
      unfold addFilter
      dsimp only
      split
      · exact hfull
      · exact ⟨hfull.1.append _ _ _, hfull.2⟩
    · obtain ⟨rest, hrest⟩ := Option.isSome_iff_exists.1 hor
      rw [gather_of_or hrest] at h
      rcases addOr_eq_ok h with rfl | ⟨j, field, name, rfl⟩
      · exact hfull
      · refine ⟨hfull.1, fun i => ?_⟩
        rw [Std.TreeMap.getElem?_insert]
        split
        · exact (hfull.2 j).append _ _ _
        · exact hfull.2 i
  · obtain ⟨-, hconditions, horMap⟩ := gather_of_not_condition hkey h
    rw [AllFull, hconditions, horMap]
    exact hfull

theorem allFull_of_run {g g' : Gathered} {entries : List (String × String)} (hfull : AllFull g)
    (h : entries.foldlM gather g = .ok g') : AllFull g' :=
  holds_of_foldlM (fun _ _ _ _ hnext hstep => allFull_of_gather hnext hstep) hfull h

/-! ## The options -/

section Assembled

variable {tenant : String} {g : Gathered}

theorem assembled_filter (htenant : tenant ≠ "") :
    (assembled tenant g).filter = g.options.filter.insert "tenantId" tenant := by
  simp [assembled, htenant]

theorem assembled_conditions : (assembled tenant g).conditions = g.options.conditions := by
  unfold assembled
  dsimp only
  split <;> rfl

theorem assembled_filterGroups : (assembled tenant g).filterGroups =
    g.orMap.toList.map fun entry => FilterGroup.mk entry.2 := by
  unfold assembled
  dsimp only
  split <;> rfl

/-- The place of an OR-group among the options. -/
def slotOf (g : Gathered) (i : Int) : Nat := (g.orMap.toList.map Prod.fst).idxOf i

theorem exists_entry_of_holds {i : Int} {c : FilterCondition} (h : Holds g (.member i c)) :
    ∃ cs, g.orMap[i]? = some cs ∧ c ∈ cs := by
  unfold Holds at h
  cases hcs : g.orMap[i]? with
  | none => simp [hcs] at h
  | some cs => exact ⟨cs, rfl, by simpa [hcs] using h⟩

theorem mem_keys_of_holds {i : Int} {c : FilterCondition} (h : Holds g (.member i c)) :
    i ∈ g.orMap.toList.map Prod.fst := by
  obtain ⟨cs, hcs, -⟩ := exists_entry_of_holds h
  exact List.mem_map_of_mem (Std.TreeMap.mem_toList_iff_getElem?_eq_some.2 hcs)

/-- A group stands in its place. -/
theorem represented_member {i : Int} {c : FilterCondition} (h : Holds g (.member i c)) :
    Represented (assembled tenant g) (slotOf g) (.member i c) := by
  obtain ⟨cs, hcs, hc⟩ := exists_entry_of_holds h
  have hkeys := mem_keys_of_holds h
  have hlt : slotOf g i < g.orMap.toList.length := by
    have hidx := List.idxOf_lt_length_of_mem hkeys
    rwa [List.length_map] at hidx
  have hkey : (g.orMap.toList[slotOf g i]).1 = i := by
    have hidx := List.getElem_idxOf (List.idxOf_lt_length_of_mem hkeys)
    rwa [List.getElem_map] at hidx
  have hvalue : (g.orMap.toList[slotOf g i]).2 = cs := by
    have hentry : g.orMap[(g.orMap.toList[slotOf g i]).1]? = some (g.orMap.toList[slotOf g i]).2 :=
      Std.TreeMap.mem_toList_iff_getElem?_eq_some.1 (List.getElem_mem hlt)
    rw [hkey, hcs] at hentry
    exact (Option.some.inj hentry).symm
  refine ⟨⟨cs⟩, ?_, hc⟩
  rw [assembled_filterGroups, List.getElem?_map, List.getElem?_eq_getElem hlt, Option.map_some,
    hvalue]

/-- What is among the options has full lists. -/
theorem full_of_represented {slot : Int → Nat} {asked : Asked} (hfull : AllFull g)
    (h : Represented (assembled tenant g) slot asked) : asked.Full := by
  cases asked with
  | equality field value => trivial
  | condition c =>
      rw [Represented, assembled_conditions] at h
      exact hfull.1 c h
  | member i c =>
      obtain ⟨group, hgroup, hc⟩ := h
      rw [assembled_filterGroups] at hgroup
      obtain ⟨⟨j, cs⟩, hentry, rfl⟩ := List.mem_map.1 (List.mem_of_getElem? hgroup)
      have hcs := Std.TreeMap.mem_toList_iff_getElem?_eq_some.1 hentry
      have hj := hfull.2 j
      rw [hcs] at hj
      exact hj c hc

end Assembled

theorem Names.isConditionKey {key value : String} {asked : Asked} (h : Names key value asked) :
    IsConditionKey key := by
  cases h with
  | equality hkey _ => exact .inl (by rw [hkey]; rfl)
  | condition hkey _ _ => exact .inl (by rw [hkey]; rfl)
  | member hkey _ _ _ => exact .inr (by rw [hkey]; rfl)

theorem Names.equality_value {key value field v : String} (h : Names key value (.equality field v)) :
    v = value := by
  cases h
  rfl

section Listing

variable {tenant : String} {query : Std.TreeMap String String} {g : Gathered} {options : ListOptions}

theorem Enforced.unambiguous (hfull : AllFull g)
    (h : Enforced tenant query (assembled tenant g)) : Unambiguous tenant query := by
  obtain ⟨htenant, slot, -, hnamed⟩ := h
  have hequality : ∀ key value field, query[key]? = some value →
      Names key value (.equality field value) →
      (assembled tenant g).filter[field]? = some value := by
    intro key value field hentry hnames
    obtain ⟨asked, hasked, hrepresented⟩ := hnamed key value hentry hnames.isConditionKey
    rw [hasked.unique hnames] at hrepresented
    exact hrepresented
  exact {
    named := fun key value hentry hkey => by
      obtain ⟨asked, hasked, hrepresented⟩ := hnamed key value hentry hkey
      exact ⟨asked, hasked, full_of_represented hfull hrepresented⟩
    agree := fun key value key' value' field hentry hentry' hnames hnames' =>
      Option.some.inj ((hequality key value field hentry hnames).symm.trans
        (hequality key' value' field hentry' hnames'))
    tenant := fun key value hentry hnames =>
      Option.some.inj ((hequality key value _ hentry hnames).symm.trans htenant) }

/-- What an unambiguous query names has full lists, and no other entry contradicts it. -/
theorem Unambiguous.agrees (h : Unambiguous tenant query) {key value : String} {asked : Asked}
    (hentry : query[key]? = some value) (hnames : Names key value asked) :
    asked.Full ∧ ∀ other ∈ query.toList, Agrees other.1 other.2 asked := by
  obtain ⟨asked', hasked, hfull⟩ := h.named key value hentry hnames.isConditionKey
  rw [hasked.unique hnames] at hfull
  refine ⟨hfull, fun other hother => ?_⟩
  have hother := Std.TreeMap.mem_toList_iff_getElem?_eq_some.1 hother
  refine ⟨fun hkey => ?_, ?_⟩
  · obtain ⟨asked'', hasked'', -⟩ := h.named other.1 other.2 hother hkey
    exact ⟨asked'', hasked''⟩
  · rintro field v v' rfl hnames'
    obtain rfl := hnames.equality_value
    obtain rfl := hnames'.equality_value
    exact h.agree other.1 other.2 key v field hother hentry hnames' hnames

theorem Unambiguous.enforced (htenant : tenant ≠ "") (h : Unambiguous tenant query)
    (hholds : ∀ key value asked, query[key]? = some value → Names key value asked → Holds g asked) :
    Enforced tenant query (assembled tenant g) := by
  refine ⟨?_, slotOf g, ?_, ?_⟩
  · rw [assembled_filter htenant]
    exact Std.TreeMap.getElem?_insert_self
  · rintro i j ⟨key, value, c, hentry, hnames⟩ - hslot
    have hi := mem_keys_of_holds (hholds key value _ hentry hnames)
    exact (List.idxOf_inj hi).1 hslot
  · intro key value hentry hkey
    obtain ⟨asked, hasked, -⟩ := h.named key value hentry hkey
    refine ⟨asked, hasked, ?_⟩
    have hgathered := hholds key value asked hentry hasked
    cases asked with
    | equality field v =>
        obtain rfl := hasked.equality_value
        rw [Represented, assembled_filter htenant, Std.TreeMap.getElem?_insert]
        split
        · next heq =>
            obtain rfl := Std.LawfulEqCmp.eq_of_compare heq
            rw [h.tenant key v hentry hasked]
        · exact hgathered
    | condition c =>
        rw [Represented, assembled_conditions]
        exact hgathered
    | member i c => exact represented_member hgathered

end Listing

/-- **A listing enforces its query exactly when the query is unambiguous.** -/
theorem enforced_iff_unambiguous {tenant : String} {query : Std.TreeMap String String}
    {options : ListOptions} (htenant : tenant ≠ "") (hlisting : listing? tenant query = some options) :
    Enforced tenant query options ↔ Unambiguous tenant query := by
  obtain ⟨paging, g, -, hgather, rfl⟩ := listing?_eq_some_iff.1 hlisting
  have hfull : AllFull g := by
    refine allFull_of_run ⟨?_, fun i => ?_⟩ hgather
    · simp [ListsFull]
    · simp [ListsFull]
  refine ⟨Enforced.unambiguous hfull, fun h => h.enforced htenant ?_⟩
  intro key value asked hentry hnames
  have hmem := Std.TreeMap.mem_toList_iff_getElem?_eq_some.2 hentry
  refine gathered_of_run (fun entry he a ha => ?_) (fun entry he a ha => ?_) hgather _ hmem asked
    hnames
  · exact (h.agrees (Std.TreeMap.mem_toList_iff_getElem?_eq_some.1 he) ha).2
  · exact (h.agrees (Std.TreeMap.mem_toList_iff_getElem?_eq_some.1 he) ha).1

/-- A query with one inequality is enforced. -/
theorem open_items_enforced :
    let query : Std.TreeMap String String := .ofList [("filter.status[ne]", "closed")]
    ∃ options, listing? "acme" query = some options ∧ Enforced "acme" query options := by
  intro query
  have hsome : (listing? "acme" query).isSome = true := by decide +kernel
  obtain ⟨options, hlisting⟩ := Option.isSome_iff_exists.1 hsome
  have hfield : NamesField "status[ne]".toList "status" .ne :=
    @NamesField.bracket "status".toList "ne".toList .ne (by decide) (by decide) (by decide)
  have hentry : ∀ key value, query[key]? = some value →
      Names key value (.condition (conditionOf "status" .ne "closed")) := by
    intro key value h
    have hlist : query.toList = [("filter.status[ne]", "closed")] := by decide +kernel
    have hmem := Std.TreeMap.mem_toList_iff_getElem?_eq_some.2 h
    rw [hlist, List.mem_singleton] at hmem
    obtain ⟨rfl, rfl⟩ := Prod.mk.inj hmem
    exact .condition (by decide +kernel) hfield (by decide)
  refine ⟨options, hlisting, (enforced_iff_unambiguous (by decide) hlisting).2 ?_⟩
  exact {
    named := fun key value h _ => ⟨_, hentry key value h, by simp [Asked.Full, conditionOf]⟩
    agree := fun key value _ _ field h _ hnames _ =>
      absurd ((hentry key value h).unique hnames) (by simp)
    tenant := fun key value h hnames =>
      absurd ((hentry key value h).unique hnames) (by simp) }

/-- An OR-group without a number disappears: the listing is that of the whole collection. -/
theorem unnumbered_group_dropped :
    let query : Std.TreeMap String String := .ofList [("or[a].role", "admin")]
    ∃ options, listing? "acme" query = some options ∧ ¬ Enforced "acme" query options := by
  intro query
  have hsome : (listing? "acme" query).isSome = true := by decide +kernel
  obtain ⟨options, hlisting⟩ := Option.isSome_iff_exists.1 hsome
  refine ⟨options, hlisting, ?_⟩
  rintro ⟨-, slot, -, hnamed⟩
  have hentry : query["or[a].role"]? = some "admin" := by decide +kernel
  obtain ⟨asked, hasked, -⟩ := hnamed "or[a].role" "admin" hentry (.inr (by decide +kernel))
  have hkey : behind? "or[" "or[a].role" = some ('a' :: ']' :: ".role".toList) := by decide +kernel
  cases hasked with
  | equality hkey' _ => rw [(not_behind_of_or hkey).1] at hkey'; cases hkey'
  | condition hkey' _ _ => rw [(not_behind_of_or hkey).1] at hkey'; cases hkey'
  | member hkey' hindex hnumber _ =>
      have hbefore := congrArg (before ']') (Option.some.inj (hkey.symm.trans hkey'))
      rw [before_append hindex] at hbefore
      have hnone : stoi (before ']' ('a' :: ']' :: ".role".toList)) = none := by decide +kernel
      rw [← hbefore, hnone] at hnumber
      cases hnumber

end ListHandler
end Daemon
end Dbal
