/-
# The gates against the declared rules

Whoever passes the gates of the entity routes without the operator's token should
be somebody whom the `acl` of the entity lets in.  The gates ask two halves of what
the parser keeps, the predicates and the roles, and each half in its own way:

* a write that some alternative makes public is open to all, whatever else the
  alternatives ask, and so is a read without a boolean predicate;
* any other operation needs a caller with one of the roles that the parser has kept,
  and roles in an array of alternatives are not kept.

`gates_sound_iff` says for which rules this is harmless.
-/

import Dbal.Core.Acl
import Dbal.Daemon.GateRule

namespace Dbal
namespace Daemon

open Dbal.Core Core.Acl RelationParser

variable {registry : SchemaAclRegistry} {entity : String} {schema : EntitySchema} {acl node : Json}
  {method : HttpMethod}

/-! ### The rule of a declared operation -/

/-- The declared operation asks for nothing that the gates look at before the roles. -/
def Ungated (method : HttpMethod) (op : Json) : Prop :=
  lastFlag op "public" = some true ∨ method = .get ∧ Flagless op

theorem operationMap_parseACL (acl : Json) (method : HttpMethod) :
    SchemaAclRegistry.operationMap (parseACL acl) (aclOperationForMethod method) =
      some (operation acl (aclOperationForMethod method)) := by
  cases method <;> rfl

theorem flags_declared (hacl : schema.acl = some (parseACL acl))
    (hnode : acl.find? (aclOperationForMethod method) = some node) :
    Rule.flags (some schema) method = parseACLOperation node := by
  simp [Rule.flags, hacl, operationMap_parseACL, operation, hnode]

theorem aclOperationForMethod_mem (method : HttpMethod) :
    aclOperationForMethod method ∈ ["create", "read", "update", "delete"] := by
  cases method <;> decide

theorem roles_declared (hacl : schema.acl = some (parseACL acl))
    (hnode : acl.find? (aclOperationForMethod method) = some node) :
    Rule.roles (some schema) method = parseACLRoles node := by
  simp only [Rule.roles, Option.bind_some, hacl, parseACL_roles (aclOperationForMethod_mem method),
    rolesOf, hnode]

theorem isOpen_declared (hacl : schema.acl = some (parseACL acl))
    (hnode : acl.find? (aclOperationForMethod method) = some node) :
    Rule.isOpen (some schema) method ↔ Ungated method node := by
  simp [Rule.isOpen, flags_declared hacl hnode, parseACLOperation_getElem?,
    parseACLOperation_isEmpty, Ungated]

theorem ofSchema_system (hacl : schema.acl = some (parseACL acl))
    (hnode : acl.find? (aclOperationForMethod method) = some node)
    (hsystem : lastFlag node "system" = some true) :
    Rule.ofSchema (some schema) method = .system := by
  rw [Rule.ofSchema, flags_declared hacl hnode, parseACLOperation_getElem?, if_pos hsystem]

theorem ofSchema_everyone (hacl : schema.acl = some (parseACL acl))
    (hnode : acl.find? (aclOperationForMethod method) = some node)
    (hsystem : lastFlag node "system" ≠ some true) (hopen : Ungated method node) :
    ∃ privileged, Rule.ofSchema (some schema) method = .everyone privileged := by
  rw [Rule.ofSchema, flags_declared hacl hnode, parseACLOperation_getElem?, if_neg hsystem,
    if_pos ((isOpen_declared hacl hnode).2 hopen)]
  exact ⟨_, rfl⟩

theorem ofSchema_signedIn (hacl : schema.acl = some (parseACL acl))
    (hnode : acl.find? (aclOperationForMethod method) = some node)
    (hsystem : lastFlag node "system" ≠ some true) (hopen : ¬ Ungated method node) :
    Rule.ofSchema (some schema) method = .signedIn (parseACLRoles node) := by
  rw [Rule.ofSchema, flags_declared hacl hnode, parseACLOperation_getElem?, if_neg hsystem,
    if_neg (mt (isOpen_declared hacl hnode).1 hopen), roles_declared hacl hnode]

/-! ### Soundness -/

/-- What keeps the gates within the declared rules: the operation is not declared, or is
the system's; where it is ungated, one alternative is for everyone and asks no role; and
where it is not, the rule is a condition object with roles, or one alternative asks no
role. -/
def Enforced (acl : Json) (method : HttpMethod) : Prop :=
  ∀ node, acl.find? (aclOperationForMethod method) = some node →
    lastFlag node "system" = some true ∨
      (Ungated method node ∧ ∃ alt ∈ alternatives node, Unroled alt ∧ ForEveryone alt) ∨
        (¬ Ungated method node ∧
          ((∃ role, Names node role) ∨ ∃ alt ∈ alternatives node, Unroled alt))

/-- An object that is not the system's by the last flag is so by its own. -/
theorem flag_of_lastFlag (hobj : alternatives node = [node]) (key : String) :
    lastFlag node key = flag node key := by
  simp only [lastFlag, hobj]
  cases h : flag node key <;> simp [h]

theorem alternatives_of_names {role : String} (h : Names node role) :
    alternatives node = [node] := by
  cases node with
  | arr alts => simp [Names] at h
  | _ => rfl

theorem sound_of_enforced (hacl : schema.acl = some (parseACL acl)) {req : Request}
    {tenant : String} (hadmin : req.adminToken = false) (henf : Enforced acl req.method)
    (hpass : (Rule.ofSchema (some schema) req.method).Admits req tenant) :
    Allows acl (aclOperationForMethod req.method) (req.claims.map JwtClaims.role) := by
  intro node hnode
  by_cases hsystem : lastFlag node "system" = some true
  · rw [ofSchema_system hacl hnode hsystem] at hpass
    exact hpass.elim
  rcases henf node hnode with hsys | ⟨-, alt, halt, hunroled, hall⟩ | ⟨hgated, hrule⟩
  · exact (hsystem hsys).elim
  · refine ⟨alt, halt, ?_⟩
    cases req.claims with
    | none => exact grants_none.2 ⟨hunroled, hall⟩
    | some c => exact hunroled.grants c.role
  · rw [ofSchema_signedIn hacl hnode hsystem hgated, signedIn_admits hadmin] at hpass
    obtain ⟨c, hc, -, hrole⟩ := hpass
    rw [hc]
    rcases hrule with ⟨r, hr⟩ | ⟨alt, halt, hunroled⟩
    · have halts := alternatives_of_names hr
      have hnames : Names node c.role := by
        rw [← mem_parseACLRoles] at hr ⊢
        exact hrole.resolve_left fun hnil => by simp [hnil] at hr
      refine ⟨node, by simp [halts], ?_⟩
      exact {
        system := flag_of_lastFlag halts "system" ▸ hsystem
        signedIn := fun hnone => (Option.some_ne_none _ hnone).elim
        role := fun _ _ => ⟨c.role, rfl, hnames⟩ }
    · exact ⟨alt, halt, hunroled.grants c.role⟩

theorem enforced_of_sound (hacl : schema.acl = some (parseACL acl))
    (hsound : ∀ tenant (req : Request), req.method = method → req.adminToken = false →
      (Rule.ofSchema (some schema) method).Admits req tenant →
        Allows acl (aclOperationForMethod method) (req.claims.map JwtClaims.role)) :
    Enforced acl method := by
  intro node hnode
  by_cases hsystem : lastFlag node "system" = some true
  · exact Or.inl hsystem
  right
  by_cases hun : Ungated method node
  · left
    obtain ⟨privileged, hrule⟩ := ofSchema_everyone hacl hnode hsystem hun
    have hpass : (Rule.ofSchema (some schema) method).Admits { method } "" := by
      simp [hrule, Rule.Admits]
    obtain ⟨alt, halt, hgrants⟩ := hsound "" { method } rfl rfl hpass node hnode
    exact ⟨hun, alt, halt, grants_none.1 hgrants⟩
  · right
    refine ⟨hun, ?_⟩
    by_cases hnames : ∃ role, Names node role
    · exact Or.inl hnames
    · right
      have hnil : parseACLRoles node = [] := by
        simpa [List.eq_nil_iff_forall_not_mem, mem_parseACLRoles] using hnames
      -- a caller whose role is in none of the alternatives
      obtain ⟨role, hrole⟩ := exists_unnamed (alternatives node)
      have hpass : (Rule.ofSchema (some schema) method).Admits
          { method, claims := some { role } } "" := by
        simp [ofSchema_signedIn hacl hnode hsystem hun, Rule.Admits, hnil]
      obtain ⟨alt, halt, hgrants⟩ :=
        hsound "" { method, claims := some { role } } rfl rfl hpass node hnode
      exact ⟨alt, halt, hgrants.unroled (hrole alt halt)⟩

/-- **When the gates enforce the declared rules.**  Every caller whom the gates let
perform an operation is let in by the rules, exactly when the rules are `Enforced`. -/
theorem gates_sound_iff (hentry : registry.schemas[entity]? = some schema)
    (hacl : schema.acl = some (parseACL acl)) (hmethod : method ≠ .options) :
    (∀ tenant (req : Request), req.method = method → req.adminToken = false →
      entityGates req (some registry) tenant entity = .ok none →
        Allows acl (aclOperationForMethod method) (req.claims.map JwtClaims.role)) ↔
      Enforced acl method := by
  constructor
  · intro hsound
    refine enforced_of_sound hacl ?_
    rintro tenant req rfl hadmin hpass
    exact hsound tenant req rfl hadmin ((entityGates_pass_iff hmethod).2 (hentry ▸ hpass))
  · rintro henf tenant req rfl hadmin hpass
    have hadmits := (entityGates_pass_iff hmethod).1 hpass
    rw [hentry] at hadmits
    exact sound_of_enforced hacl hadmin henf hadmits

/-- The `acl` of `StyleRule`: public to read, and to be created by two roles. -/
def styleRuleAcl : Json :=
  .obj [("create", .obj [("role", .arr [.str "god", .str "supergod"])]),
    ("read", .obj [("public", .bool true)])]

/-- `StyleRule`. -/
def styleRule : EntitySchema :=
  { name := "StyleRule", acl := some (RelationParser.parseACL styleRuleAcl) }

/-- The rules of `StyleRule` are enforced on its creation: whom the gates let create one has one of
the two roles. -/
theorem styleRule_create_sound :
    entityGates { method := .post, claims := some { role := "god" } }
        (some ⟨(∅ : Std.TreeMap String EntitySchema).insert "StyleRule" styleRule⟩) "acme"
        "StyleRule" = .ok none ∧
      Allows styleRuleAcl "create" (some "god") := by
  have hgates : entityGates { method := .post, claims := some { role := "god" } }
      (some ⟨(∅ : Std.TreeMap String EntitySchema).insert "StyleRule" styleRule⟩) "acme"
      "StyleRule" = .ok none := by decide +kernel
  have henforced : Enforced styleRuleAcl .post := by
    intro node hnode
    have hcreate : styleRuleAcl.find? "create" =
        some (.obj [("role", .arr [.str "god", .str "supergod"])]) := rfl
    obtain rfl := Option.some.inj (hcreate.symm.trans hnode)
    refine Or.inr (Or.inr ⟨?_, Or.inl ⟨"god", mem_parseACLRoles.1 (by decide)⟩⟩)
    rintro (hpublic | ⟨hget, -⟩)
    · exact absurd hpublic (by decide)
    · cases hget
  have hentry : ((∅ : Std.TreeMap String EntitySchema).insert "StyleRule" styleRule)["StyleRule"]? =
      some styleRule := by simp
  have hsound := (@gates_sound_iff ⟨_⟩ "StyleRule" styleRule styleRuleAcl .post hentry rfl
    (by decide)).2 henforced
  exact ⟨hgates, hsound "acme" _ rfl rfl hgates⟩

/-- A video that one role may read and another create, the second in an array. -/
def videoAcl : Json :=
  .obj [("read", .obj [("role", .arr [.str "moderator"])]),
    ("create", .arr [.obj [("role", .str "uploader")]])]

/-- The registry of a schema file that declares `Video` with these rules. -/
def videoRegistry : SchemaAclRegistry :=
  SchemaAclRegistry.load [.obj [("entity", .str "Video"),
    ("fields", .obj [("id", .obj [("type", .str "string")])]), ("acl", videoAcl)]]

/-- **Roles that stand alone in a read rule, or in an array, are not asked for.**
Everybody reads the videos, and every role creates one. -/
theorem video_roles_dropped :
    (entityGates { method := .get } (some videoRegistry) "acme" "Video" = .ok none ∧
      ¬ Allows videoAcl "read" none) ∧
    (entityGates { method := .post, claims := some { role := "user" } } (some videoRegistry)
        "acme" "Video" = .ok none ∧
      ¬ Allows videoAcl "create" (some "user")) := by
  refine ⟨⟨by decide +kernel, fun h => ?_⟩, by decide +kernel, fun h => ?_⟩
  · obtain ⟨alt, halt, hgrants⟩ := h _ rfl
    obtain rfl := List.mem_singleton.1 halt
    rcases hgrants.signedIn rfl with hpublic | hempty
    · exact absurd hpublic (by decide)
    · exact absurd hempty (by decide)
  · obtain ⟨alt, halt, hgrants⟩ := h _ rfl
    obtain rfl := List.mem_singleton.1 halt
    obtain ⟨own, hown, hnames⟩ := hgrants.role "uploader" (mem_parseACLRoles.1 (by decide))
    obtain rfl := Option.some.inj hown
    exact absurd (mem_parseACLRoles.2 hnames) (by decide)

end Daemon
end Dbal
