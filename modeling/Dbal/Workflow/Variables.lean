/-
# The variables of a workflow

What `set` of `include/workflow/wf_context.hpp` stores, and what `get` and `has` find.  `set` takes
its name as it is, and the other two take a dot in it for a step into an object.

A name is a list of parts that have no dots in them (`segments_cases`), so what is stored under a
name with a dot is found under no name at all (`stored?_set_of_dotted`).
-/

import Dbal.Workflow.Context

namespace Dbal

namespace Workflow

/-- What a path leads to inside a value. -/
def follow (node : Json) : List String → Option Json
  | [] => some node
  | key :: rest => (node.find? key).bind fun value => follow value rest

theorem getPath_eq (node default : Json) (path : List String) :
    getPath node default path = (follow node path).getD default := by
  induction path generalizing node with
  | nil => rfl
  | cons key rest ih =>
      rw [getPath, follow]
      cases node.find? key with
      | none => rfl
      | some value => exact ih value

/-- A name without dots is one part; any other has its first part, a dot and more behind it. -/
theorem segments_cases (name : String) :
    ('.' ∉ name.toList ∧ segments name = [name]) ∨
      ∃ root rest, '.' ∉ root.toList ∧ name = root ++ "." ++ rest ∧
        segments name = root :: segments rest := by
  by_cases h : '.' ∈ name.toList
  · obtain ⟨front, back, hname, hfront⟩ := List.eq_append_cons_of_mem h
    refine Or.inr ⟨.ofList front, .ofList back, by rwa [String.toList_ofList], ?_, ?_⟩
    · exact String.toList_inj.1 (by simp [hname])
    · rw [segments, hname, List.splitOn_append_cons_self_of_not_mem hfront, segments,
        String.toList_ofList, List.map_cons]
  · exact Or.inl ⟨h, by rw [segments, List.splitOn_eq_singleton h]; simp⟩

theorem segments_of_not_dotted {name : String} (h : '.' ∉ name.toList) : segments name = [name] := by
  rw [segments, List.splitOn_eq_singleton h, List.map_singleton, String.ofList_toList]

namespace WfContext

/-- The value that a name leads to, if there is one. -/
def stored? (ctx : WfContext) (name : String) : Option Json := follow ctx.vars (segments name)

theorem get_eq (ctx : WfContext) (name : String) (default : Json) :
    ctx.get name default = (ctx.stored? name).getD default := by
  unfold get stored?
  rcases segments_cases name with ⟨-, hseg⟩ | ⟨root, rest, -, -, hseg⟩
  · rw [hseg, follow]
    dsimp only
    cases ctx.vars.find? name <;> rfl
  · rw [hseg, follow]
    rcases segments_cases rest with ⟨-, hrest⟩ | ⟨next, more, -, -, hrest⟩
    all_goals
      rw [hrest]
      dsimp only
      cases ctx.vars.find? root with
      | none => rfl
      | some value =>
          dsimp only
          split
          · exact getPath_eq value default _
          · next hnot => rw [Option.bind_some, follow, Json.find?_of_not_isObject hnot]; rfl

/-- What is there has its first part there. -/
theorem has_of_stored? {ctx : WfContext} {name : String} {value : Json}
    (h : ctx.stored? name = some value) : ctx.has name = true := by
  unfold has
  rcases segments_cases name with ⟨-, hseg⟩ | ⟨root, rest, -, -, hseg⟩
  all_goals
    rw [stored?, hseg, follow] at h
    obtain ⟨found, hfound, -⟩ := Option.bind_eq_some_iff.1 h
    rw [hseg]
    exact Option.isSome_of_eq_some hfound

/-! ### Storing -/

variable {ctx : WfContext} {name other : String} {value : Json}

/-- What is stored under a name with a dot is found under no name. -/
theorem stored?_set_of_dotted (h : '.' ∈ name.toList) :
    (ctx.set name value).stored? other = ctx.stored? other := by
  unfold stored? set
  rcases segments_cases other with ⟨hdots, hseg⟩ | ⟨root, rest, hdots, -, hseg⟩
  all_goals
    rw [hseg, follow, follow, Json.find?_set, if_neg]
    rintro rfl
    exact hdots h

theorem stored?_set_self (h : '.' ∉ name.toList) :
    (ctx.set name value).stored? name = some value := by
  rw [stored?, set, segments_of_not_dotted h, follow, Json.find?_set, if_pos rfl]
  rfl

/-- A dotted path into the name. -/
def IsPathInto (name other : String) : Prop := ∃ rest, other = name ++ "." ++ rest

theorem stored?_set_other (hne : other ≠ name) (hpath : ¬ IsPathInto name other) :
    (ctx.set name value).stored? other = ctx.stored? other := by
  unfold stored? set
  rcases segments_cases other with ⟨-, hseg⟩ | ⟨root, rest, -, hother, hseg⟩
  · rw [hseg, follow, follow, Json.find?_set, if_neg (Ne.symm hne)]
  · rw [hseg, follow, follow, Json.find?_set, if_neg]
    rintro rfl
    exact hpath ⟨rest, hother⟩

/-- The value is read back under its name, whatever is asked for in its absence, and every name that
neither leads into this one nor contains it leads where it did. -/
structure ReadsBack (ctx : WfContext) (name : String) (value : Json) : Prop where
  get_self : ∀ default, (ctx.set name value).get name default = value
  has_self : (ctx.set name value).has name = true
  get_other : ∀ other, other ≠ name → ¬ IsPathInto name other → ¬ IsPathInto other name →
    ∀ default, (ctx.set name value).get other default = ctx.get other default

/-- **A value is read back under the names without dots.**  Under any other name only a value is
read back that was there before, at the end of the path. -/
theorem readsBack_iff (ctx : WfContext) (name : String) (value : Json) :
    ReadsBack ctx name value ↔ '.' ∉ name.toList ∨ ctx.stored? name = some value := by
  constructor
  · intro h
    by_cases hdotted : '.' ∈ name.toList
    · have hget (default : Json) : (ctx.stored? name).getD default = value := by
        rw [← @stored?_set_of_dotted ctx name name value hdotted, ← get_eq]
        exact h.get_self default
      cases hstored : ctx.stored? name with
      | some found =>
          have hfound := hget .null
          rw [hstored] at hfound
          exact Or.inr (congrArg some hfound)
      | none =>
          -- no value is both of these
          have hnull := hget .null
          have htrue := hget (.bool true)
          rw [hstored] at hnull htrue
          cases hnull
          cases htrue
    · exact Or.inl hdotted
  · intro h
    have hself : (ctx.set name value).stored? name = some value := by
      by_cases hdotted : '.' ∈ name.toList
      · rw [stored?_set_of_dotted hdotted]
        exact h.resolve_left (not_not_intro hdotted)
      · exact stored?_set_self hdotted
    refine ⟨fun default => ?_, has_of_stored? hself, fun other hne hinto _ default => ?_⟩
    · rw [get_eq, hself]
      rfl
    · rw [get_eq, get_eq, stored?_set_other hne hinto]

/-- A step that stores under `user.id` stores for nobody. -/
theorem not_readsBack_dotted : ¬ ∀ ctx name value, ReadsBack ctx name value := by
  intro h
  have hread := (h {} "user.id" (.int 1)).get_self .null
  cases hread

end WfContext
end Workflow
end Dbal
