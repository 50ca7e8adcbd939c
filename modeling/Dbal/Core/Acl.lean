/-
# What an access rule declares

An operation of an `acl` is one condition object or an array of alternatives, any
one of which grants access.  `Grants` says when an alternative does, for a caller
who is anonymous or has a role, and `Allows` when the rules of an entity do.

The parser keeps less: for every boolean predicate the last value among the
alternatives (`parseACLOperation_getElem?`), and the roles only where they do not
stand in an array (`mem_parseACLRoles`, `parseACLRoles_arr`).
-/

import Mathlib.Data.Fintype.EquivFin
import Dbal.Core.EntityLoader

namespace Dbal
namespace Core
namespace Acl

/-- The alternatives of an operation. -/
def alternatives : Json → List Json
  | .arr alternatives => alternatives
  | conditions => [conditions]

/-- The boolean predicate `key` of an alternative. -/
def flag (alt : Json) (key : String) : Option Bool :=
  match alt.find? key with
  | some (.bool b) => some b
  | _ => none

/-- The alternative names the role, alone or in a list. -/
def Names (alt : Json) (role : String) : Prop :=
  alt.find? "role" = some (.str role) ∨
    ∃ roles, alt.find? "role" = some (.arr roles) ∧ .str role ∈ roles

/-- The alternative is open to the anonymous caller: it says so, or asks nothing. -/
def ForEveryone (alt : Json) : Prop := flag alt "public" = some true ∨ alt.fields.isEmpty

/-- The alternative asks for no role, and not for the system itself. -/
structure Unroled (alt : Json) : Prop where
  system : flag alt "system" ≠ some true
  role : ∀ role, ¬ Names alt role

/-- **What it takes to be let in by an alternative.**  Nobody who comes over HTTP is
the system; whoever is not signed in needs an alternative for everyone; and of the
roles that are named the caller has one. -/
structure Grants (alt : Json) (caller : Option String) : Prop where
  system : flag alt "system" ≠ some true
  signedIn : caller = none → ForEveryone alt
  role : ∀ role, Names alt role → ∃ own, caller = some own ∧ Names alt own

/-- The declared rules let the caller perform the operation: it is not declared, or
one of its alternatives grants it. -/
def Allows (acl : Json) (op : String) (caller : Option String) : Prop :=
  ∀ node, acl.find? op = some node → ∃ alt ∈ alternatives node, Grants alt caller

theorem grants_none {alt : Json} : Grants alt none ↔ Unroled alt ∧ ForEveryone alt := by
  constructor
  · intro h
    refine ⟨⟨h.system, fun role hrole => ?_⟩, h.signedIn rfl⟩
    obtain ⟨own, hown, -⟩ := h.role role hrole
    exact Option.some_ne_none own hown.symm
  · rintro ⟨h, hall⟩
    exact ⟨h.system, fun _ => hall, fun role hrole => (h.role role hrole).elim⟩

theorem Unroled.grants {alt : Json} (h : Unroled alt) (role : String) : Grants alt (some role) where
  system := h.system
  signedIn := fun hnone => (Option.some_ne_none role hnone).elim
  role := fun r hr => (h.role r hr).elim

/-- A role that an alternative does not name helps only where no role is asked. -/
theorem Grants.unroled {alt : Json} {role : String} (h : Grants alt (some role))
    (hrole : ¬ Names alt role) : Unroled alt := by
  refine ⟨h.system, fun r hr => hrole ?_⟩
  obtain ⟨own, hown, hnames⟩ := h.role r hr
  exact Option.some.inj hown ▸ hnames

/-- The last value of a boolean predicate among the alternatives. -/
def lastFlag (op : Json) (key : String) : Option Bool :=
  ((alternatives op).filterMap fun alt => flag alt key).getLast?

/-- No alternative has a boolean predicate. -/
def Flagless (op : Json) : Prop := ∀ alt ∈ alternatives op, ∀ key, flag alt key = none

theorem flagless_iff {op : Json} : Flagless op ↔ ∀ key, lastFlag op key = none := by
  constructor
  · intro h key
    simpa [lastFlag] using fun alt halt => h alt halt key
  · intro h alt halt key
    have := h key
    simp only [lastFlag, List.getLast?_eq_none_iff, List.filterMap_eq_nil_iff] at this
    exact this alt halt

/-! ### The parser -/

open RelationParser

/-- One pair of a condition object. -/
def collect (permissions : Std.TreeMap String Bool) (member : String × Json) :
    Std.TreeMap String Bool :=
  match member.2 with
  | .bool b => permissions.insert member.1 b
  | _ => permissions

theorem collect_getElem?_of_ne {permissions : Std.TreeMap String Bool} {member : String × Json}
    {key : String} (h : member.1 ≠ key) : (collect permissions member)[key]? = permissions[key]? := by
  unfold collect
  split
  · rw [Std.TreeMap.getElem?_insert, if_neg (by simpa using h)]
  · rfl

/-- Pairs with other keys leave a predicate alone. -/
theorem foldl_collect_of_ne {key : String} :
    ∀ {members : List (String × Json)} (permissions : Std.TreeMap String Bool),
      (∀ m ∈ members, m.1 ≠ key) → (members.foldl collect permissions)[key]? = permissions[key]?
  | [], _, _ => rfl
  | m :: members, permissions, h => by
      rw [List.foldl_cons, foldl_collect_of_ne _ fun m' hm' => h m' (List.mem_cons_of_mem _ hm'),
        collect_getElem?_of_ne (h m List.mem_cons_self)]

/-- With distinct keys, the pair of a key decides its predicate. -/
theorem foldl_collect_of_mem {key : String} {value : Json} :
    ∀ {members : List (String × Json)} (permissions : Std.TreeMap String Bool),
      members.Pairwise (fun m m' => m.1 ≠ m'.1) → (key, value) ∈ members →
      (members.foldl collect permissions)[key]? = (collect permissions (key, value))[key]?
  | m :: members, permissions, hd, h => by
      obtain ⟨hm, hd⟩ := List.pairwise_cons.1 hd
      rw [List.foldl_cons]
      rcases List.mem_cons.1 h with rfl | h
      · exact foldl_collect_of_ne _ fun m' hm' => (hm m' hm').symm
      · have hne : m.1 ≠ key := hm _ h
        rw [foldl_collect_of_mem _ hd h]
        unfold collect
        split
        · simp
        · exact collect_getElem?_of_ne hne

theorem collectBooleans_getElem? (permissions : Std.TreeMap String Bool) (alt : Json)
    (key : String) :
    (collectBooleans permissions alt)[key]? = (flag alt key).or permissions[key]? := by
  have hfold : collectBooleans permissions alt = alt.fields.toList.foldl collect permissions :=
    Std.TreeMap.foldl_eq_foldl_toList
  rw [hfold]
  cases hkey : alt.find? key with
  | none =>
      have hne : ∀ m ∈ alt.fields.toList, m.1 ≠ key := by
        rintro ⟨k, v⟩ hm rfl
        rw [Json.mem_toList_fields.1 hm] at hkey
        cases hkey
      rw [foldl_collect_of_ne _ hne]
      simp [flag, hkey]
  | some value =>
      have hd : alt.fields.toList.Pairwise fun m m' => m.1 ≠ m'.1 :=
        Std.TreeMap.distinct_keys_toList.imp fun hne heq => hne (by simp [heq])
      rw [foldl_collect_of_mem _ hd (Json.mem_toList_fields.2 hkey)]
      cases value <;> simp [collect, flag, hkey]

theorem foldl_collectBooleans_getElem? (key : String) :
    ∀ (alts : List Json) (permissions : Std.TreeMap String Bool),
      (alts.foldl collectBooleans permissions)[key]? =
        (alts.filterMap fun alt => flag alt key).getLast?.or permissions[key]?
  | [], _ => rfl
  | alt :: alts, permissions => by
      rw [List.foldl_cons, foldl_collectBooleans_getElem? key alts, collectBooleans_getElem?]
      cases hflag : flag alt key with
      | none => simp [hflag]
      | some b =>
          simp only [List.filterMap_cons, hflag, List.getLast?_cons, Option.some_or]
          cases (alts.filterMap fun alt => flag alt key).getLast? <;> rfl

/-- **What the parser keeps of the predicates:** the last value of each. -/
theorem parseACLOperation_getElem? (op : Json) (key : String) :
    (parseACLOperation op)[key]? = lastFlag op key := by
  have hfold : parseACLOperation op = (alternatives op).foldl collectBooleans ∅ := by
    cases op <;> rfl
  rw [hfold, foldl_collectBooleans_getElem?]
  simp [lastFlag]

theorem parseACLOperation_isEmpty {op : Json} : (parseACLOperation op).isEmpty ↔ Flagless op := by
  rw [Std.TreeMap.isEmpty_iff_forall_not_mem, flagless_iff]
  refine forall_congr' fun key => ?_
  rw [← parseACLOperation_getElem?, Std.TreeMap.mem_iff_isSome_getElem?]
  simp

/-- **What the parser keeps of the roles** of a condition object: all of them. -/
theorem mem_parseACLRoles {alt : Json} {role : String} :
    role ∈ parseACLRoles alt ↔ Names alt role := by
  unfold parseACLRoles Names
  split
  · next r h => simp [h, eq_comm]
  · next rs h =>
      simp only [h, Option.some.injEq, reduceCtorEq, Json.arr.injEq, false_or,
        exists_eq_left', List.mem_filterMap]
      constructor
      · rintro ⟨r, hr, heq⟩
        split at heq
        · cases heq
          exact hr
        · cases heq
      · exact fun hr => ⟨_, hr, rfl⟩
  · next h h' =>
      constructor
      · intro hr
        cases hr
      · rintro (hr | ⟨rs, hr, -⟩)
        · exact (h _ hr).elim
        · exact (h' _ hr).elim

/-- Of the roles in an array it keeps none. -/
theorem parseACLRoles_arr (alts : List Json) : parseACLRoles (.arr alts) = [] := rfl

theorem addRoles_getElem?_of_ne {acl : Json} {o op : String} (h : o ≠ op)
    (roles : Std.TreeMap String (List String)) : (addRoles acl roles o)[op]? = roles[op]? := by
  unfold addRoles
  split
  · split
    · rfl
    · rw [Std.TreeMap.getElem?_insert, if_neg (by simpa using h)]
  · rfl

theorem foldl_addRoles_of_not_mem {acl : Json} {op : String} {ops : List String} (h : op ∉ ops)
    (roles : Std.TreeMap String (List String)) :
    (ops.foldl (addRoles acl) roles)[op]? = roles[op]? := by
  induction ops generalizing roles with
  | nil => rfl
  | cons o ops ih =>
      have ⟨ho, hops⟩ := List.ne_and_not_mem_of_not_mem_cons h
      rw [List.foldl_cons, ih hops, addRoles_getElem?_of_ne ho.symm]

/-- The roles that an operation names, as far as the parser sees them. -/
def rolesOf (acl : Json) (op : String) : List String :=
  match acl.find? op with
  | some node => parseACLRoles node
  | none => []

theorem foldl_addRoles_getElem? {acl : Json} {op : String} {ops : List String}
    (hd : ops.Nodup) (h : op ∈ ops) (roles : Std.TreeMap String (List String))
    (hroles : roles[op]? = none) :
    (ops.foldl (addRoles acl) roles)[op]?.getD [] = rolesOf acl op := by
  induction ops generalizing roles with
  | nil => cases h
  | cons o ops ih =>
      have ⟨ho, hd⟩ := List.nodup_cons.1 hd
      rw [List.foldl_cons]
      by_cases heq : o = op
      · subst heq
        rw [foldl_addRoles_of_not_mem ho]
        unfold addRoles rolesOf
        cases acl.find? o with
        | none => simp [hroles]
        | some node => by_cases hnil : parseACLRoles node = [] <;> simp [hnil, hroles]
      · have hmem : op ∈ ops := (List.mem_cons.1 h).resolve_left fun h => heq h.symm
        exact ih hd hmem _ (by rw [addRoles_getElem?_of_ne heq, hroles])

theorem parseACL_roles {acl : Json} {op : String} (h : op ∈ ["create", "read", "update", "delete"]) :
    (parseACL acl).roles[op]?.getD [] = rolesOf acl op :=
  foldl_addRoles_getElem? (by decide) h ∅ (by simp)

/-- Some role is in no alternative: there are more strings than named roles. -/
theorem exists_unnamed (alts : List Json) : ∃ role, ∀ alt ∈ alts, ¬ Names alt role := by
  obtain ⟨role, hrole⟩ := Infinite.exists_notMem_finset (alts.flatMap parseACLRoles).toFinset
  refine ⟨role, fun alt halt hnames => hrole ?_⟩
  exact List.mem_toFinset.2 (List.mem_flatMap.2 ⟨alt, halt, mem_parseACLRoles.2 hnames⟩)

end Acl
end Core
end Dbal
