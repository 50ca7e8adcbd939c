/-
# What the gates decide

The gates of the entity routes put into one rule: the schema of the entity and the
method decide whether the operation is the system's, everyone's or for callers who are
signed in, and a request passes exactly when the rule admits it
(`entityGates_pass_iff`).  Two rules admit the same requests exactly when they are of
one kind, with the same privileged fields or the same roles (`Rule.same_iff`).
-/

import Mathlib.Data.Fintype.EquivFin
import Dbal.Daemon.Gates

namespace Dbal
namespace Daemon

open Dbal.Core SchemaAclRegistry

/-- The rule for one operation on one entity. -/
inductive Rule where
  /-- Nobody passes. -/
  | system
  /-- Everybody passes who is signed in or sets no privileged field. -/
  | everyone (privileged : List String)
  /-- Callers of the tenant pass who have one of the roles, if there are any. -/
  | signedIn (roles : List String)
  deriving DecidableEq, Repr

namespace Rule

/-- The predicates of an operation, none if the schema has no rules. -/
def flags (schema : Option EntitySchema) (method : HttpMethod) : Std.TreeMap String Bool :=
  match schema.bind EntitySchema.acl with
  | some acl => (operationMap acl (aclOperationForMethod method)).getD ∅
  | none => ∅

/-- The roles of an operation. -/
def roles (schema : Option EntitySchema) (method : HttpMethod) : List String :=
  match schema.bind EntitySchema.acl with
  | some acl => acl.roles[aclOperationForMethod method]?.getD []
  | none => []

/-- The privileged fields of a schema. -/
def privileged (schema : Option EntitySchema) : List String :=
  match schema with
  | some schema => (schema.fields.filter EntityField.privileged).map EntityField.name
  | none => []

/-- Everyone may perform the operation: it is public, or a read without predicates. -/
def isOpen (schema : Option EntitySchema) (method : HttpMethod) : Bool :=
  (flags schema method)["public"]? = some true || (method = .get && (flags schema method).isEmpty)

/-- The rule of a schema for a method. -/
def ofSchema (schema : Option EntitySchema) (method : HttpMethod) : Rule :=
  if (flags schema method)["system"]? = some true then .system
  else if isOpen schema method then
    .everyone (if method = .get then [] else privileged schema)
  else .signedIn (roles schema method)

/-- The rule admits the request. -/
def Admits (rule : Rule) (req : Request) (tenant : String) : Prop :=
  match rule with
  | .system => False
  | .everyone privileged =>
      req.adminToken ∨ req.claims.isSome ∨ ∀ payload, req.payload = some payload →
        ∀ name ∈ privileged, payload.isMember name = .ok false
  | .signedIn roles =>
      req.adminToken ∨ ∃ c, req.claims = some c ∧
        (c.tenantId = "" ∨ c.tenantId = tenant ∨ tenant = "system") ∧
        (roles = [] ∨ c.role ∈ roles)

end Rule

/-! ### The registry -/

section

variable (registry : SchemaAclRegistry) (entity : String)

theorem acl?_eq : registry.acl? entity = registry.schemas[entity]?.bind EntitySchema.acl := by
  unfold acl?
  cases registry.schemas[entity]? <;> rfl

theorem holds_iff (method : HttpMethod) (key : String) :
    registry.holds entity (aclOperationForMethod method) key ↔
      (Rule.flags registry.schemas[entity]? method)[key]? = some true := by
  simp only [holds, acl?_eq, Rule.flags]
  cases registry.schemas[entity]?.bind EntitySchema.acl with
  | none => simp
  | some acl => cases method <;> simp [operationMap, aclOperationForMethod]

theorem requiresAuthToRead_iff :
    registry.requiresAuthToRead entity = !Rule.isOpen registry.schemas[entity]? .get := by
  cases hacl : registry.schemas[entity]?.bind EntitySchema.acl with
  | none => simp [requiresAuthToRead, acl?_eq, Rule.isOpen, Rule.flags, hacl]
  | some acl =>
      cases hread : acl.read.isEmpty <;>
        simp [requiresAuthToRead, acl?_eq, Rule.isOpen, Rule.flags, hacl, operationMap,
          aclOperationForMethod, hread]

theorem requiredRoles_eq (method : HttpMethod) :
    registry.requiredRoles entity (aclOperationForMethod method) =
      Rule.roles registry.schemas[entity]? method := by
  cases hacl : registry.schemas[entity]?.bind EntitySchema.acl with
  | none => simp [requiredRoles, acl?_eq, Rule.roles, hacl]
  | some acl => simp [requiredRoles, acl?_eq, Rule.roles, hacl]

theorem privilegedFields_eq :
    registry.privilegedFields entity = Rule.privileged registry.schemas[entity]? := rfl

theorem roleAllowed_iff (method : HttpMethod) (role : String) :
    registry.roleAllowed entity (aclOperationForMethod method) role ↔
      Rule.roles registry.schemas[entity]? method = [] ∨
        role ∈ Rule.roles registry.schemas[entity]? method := by
  simp only [roleAllowed, requiredRoles_eq]
  split
  · next h => simp [h]
  · next h => simp [h]

end

/-! ### The gates -/

theorem tenantMismatchRejection_eq_none {c : JwtClaims} {tenant : String} :
    tenantMismatchRejection (some c) tenant = none ↔
      c.tenantId = "" ∨ c.tenantId = tenant ∨ tenant = "system" := by
  simp only [tenantMismatchRejection]
  split_ifs with h h'
  · simp [h]
  · simp [h']
  · simp [h, h']

theorem privilegedRejection_eq_none {payload : Json} {privileged : List String} :
    privilegedRejection payload privileged = .ok none ↔
      ∀ name ∈ privileged, payload.isMember name = .ok false := by
  induction privileged with
  | nil => simp [privilegedRejection]
  | cons name names ih =>
      rw [List.forall_mem_cons, ← ih]
      cases h : payload.isMember name with
      | error e => simp [privilegedRejection, h, bind, Except.bind]
      | ok member => cases member <;> simp [privilegedRejection, h, bind, Except.bind, pure, Except.pure]

variable {req : Request} {registry : SchemaAclRegistry} {tenant entity : String}

/-- The checks on a caller who has to be signed in. -/
theorem signedIn_admits (hadmin : req.adminToken = false) (roles : List String) :
    (Rule.signedIn roles).Admits req tenant ↔
      ∃ c, req.claims = some c ∧ tenantMismatchRejection (some c) tenant = none ∧
        (roles = [] ∨ c.role ∈ roles) := by
  simp only [Rule.Admits, hadmin, Bool.false_eq_true, false_or, tenantMismatchRejection_eq_none]

theorem writeAuthzRejection_eq_none (hwrite : isWriteMethod req.method)
    (hsystem : registry.isSystemOnly entity (aclOperationForMethod req.method) = false) :
    writeAuthzRejection req registry tenant entity = .ok none ↔
      (Rule.ofSchema registry.schemas[entity]? req.method).Admits req tenant := by
  have hget : req.method ≠ .get := by
    intro h
    simp [h, isWriteMethod] at hwrite
  have hflag : (Rule.flags registry.schemas[entity]? req.method)["system"]? ≠ some true := by
    rw [Ne, ← holds_iff]
    simpa [isSystemOnly] using hsystem
  have hopen : registry.isPublicWrite entity (aclOperationForMethod req.method) ↔ _ :=
    holds_iff registry entity req.method "public"
  have hrole := roleAllowed_iff registry entity req.method
  simp only [writeAuthzRejection, hwrite, Bool.not_true, Bool.false_eq_true, if_false,
    Rule.ofSchema, if_neg hflag, Rule.isOpen, hget, decide_false, Bool.false_and, Bool.or_false]
  by_cases hadmin : req.adminToken
  · simp only [hadmin, if_true, true_iff]
    split_ifs <;> exact Or.inl hadmin
  rw [Bool.not_eq_true] at hadmin
  simp only [hadmin, Bool.false_eq_true, if_false]
  by_cases hpub : registry.isPublicWrite entity (aclOperationForMethod req.method)
  · rw [if_pos hpub, if_pos (by simpa using hopen.1 hpub)]
    simp only [Rule.Admits, hadmin, Bool.false_eq_true, false_or]
    cases req.claims with
    | some c => simp
    | none =>
        cases req.payload with
        | none => simp
        | some payload => simp [privilegedRejection_eq_none, privilegedFields_eq]
  · rw [if_neg hpub, if_neg (by simpa using mt hopen.2 hpub), signedIn_admits hadmin]
    cases req.claims with
    | none => simp
    | some c =>
        simp only [Option.some.injEq, exists_eq_left', ← hrole]
        cases tenantMismatchRejection (some c) tenant with
        | some wrong => simp
        | none => cases registry.roleAllowed entity (aclOperationForMethod req.method) c.role <;> simp

theorem readAuthzRejection_eq_none (hget : req.method = .get)
    (hsystem : registry.isSystemOnly entity "read" = false) :
    readAuthzRejection req registry tenant entity = none ↔
      (Rule.ofSchema registry.schemas[entity]? .get).Admits req tenant := by
  have hflag : (Rule.flags registry.schemas[entity]? .get)["system"]? ≠ some true := by
    rw [Ne, ← holds_iff]
    simpa [isSystemOnly, aclOperationForMethod] using hsystem
  have hrole : ∀ role, registry.roleAllowed entity "read" role ↔ _ :=
    roleAllowed_iff registry entity .get
  simp only [readAuthzRejection, hget, ne_eq, not_true_eq_false, if_false, requiresAuthToRead_iff,
    Bool.not_not, Rule.ofSchema, if_neg hflag, if_true]
  by_cases hopen : Rule.isOpen registry.schemas[entity]? .get
  · simp [hopen, Rule.Admits]
  simp only [hopen, Bool.false_eq_true, if_false]
  by_cases hadmin : req.adminToken
  · simp [hadmin, Rule.Admits]
  rw [Bool.not_eq_true] at hadmin
  rw [signedIn_admits hadmin]
  simp only [hadmin, Bool.false_eq_true, if_false]
  cases req.claims with
  | none => simp
  | some c =>
      simp only [Option.some.injEq, exists_eq_left', ← hrole]
      cases tenantMismatchRejection (some c) tenant with
      | some wrong => simp
      | none => cases registry.roleAllowed entity "read" c.role <;> simp

/-- **What the gates decide.**  A request passes exactly when the rule of the schema that the
registry has under the segment admits it.  (Preflight requests do not reach the gates.) -/
theorem entityGates_pass_iff (hmethod : req.method ≠ .options) :
    entityGates req (some registry) tenant entity = .ok none ↔
      (Rule.ofSchema registry.schemas[entity]? req.method).Admits req tenant := by
  simp only [entityGates]
  by_cases hsystem : registry.isSystemOnly entity (aclOperationForMethod req.method)
  · rw [if_pos hsystem]
    simp [Rule.ofSchema, (holds_iff registry entity req.method "system").1 hsystem, Rule.Admits]
  rw [if_neg hsystem]
  rw [Bool.not_eq_true] at hsystem
  by_cases hget : req.method = .get
  · have hwrite : writeAuthzRejection req registry tenant entity = .ok none := by
      simp [writeAuthzRejection, hget, isWriteMethod]
    rw [hget] at hsystem
    simpa [hwrite, hget, bind, Except.bind, pure, Except.pure] using
      readAuthzRejection_eq_none hget hsystem
  · have hwrite : isWriteMethod req.method := by
      cases h : req.method <;> simp_all [isWriteMethod]
    rw [← writeAuthzRejection_eq_none hwrite hsystem]
    have hread : readAuthzRejection req registry tenant entity = none := by
      simp [readAuthzRejection, hget]
    cases writeAuthzRejection req registry tenant entity with
    | error e => simp [bind, Except.bind]
    | ok reject => cases reject <;> simp [hread, bind, Except.bind, pure, Except.pure]

/-! ### Rules that admit the same requests -/

/-- The rules are of one kind, with the same privileged fields or the same roles. -/
def Rule.Same : Rule → Rule → Prop
  | .system, .system => True
  | .everyone p, .everyone q => ∀ name, name ∈ p ↔ name ∈ q
  | .signedIn r, .signedIn s => ∀ role, role ∈ r ↔ role ∈ s
  | _, _ => False

theorem nil_iff_of_same {r s : List String} (h : ∀ role, role ∈ r ↔ role ∈ s) :
    r = [] ↔ s = [] := by
  simp only [List.eq_nil_iff_forall_not_mem, h]

theorem Rule.Same.admits {rule rule' : Rule} (h : rule.Same rule') (req : Request)
    (tenant : String) : rule.Admits req tenant ↔ rule'.Admits req tenant := by
  cases rule <;> cases rule' <;> try exact h.elim
  · exact Iff.rfl
  · have h : ∀ name, _ ↔ _ := h
    simp only [Rule.Admits, h]
  · have h : ∀ role, _ ↔ _ := h
    simp only [Rule.Admits, h, nil_iff_of_same h]

/-- The requests that tell two rules apart: the operator's, an anonymous one, one that sets
a single field, and one by a caller with a given role. -/
theorem Rule.same_of_admits {rule rule' : Rule} (method : HttpMethod)
    (h : ∀ tenant (req : Request), req.method = method →
      (rule.Admits req tenant ↔ rule'.Admits req tenant)) : rule.Same rule' := by
  have hadmin := h "" { method, adminToken := true } rfl
  have hanonymous := h "" { method } rfl
  cases rule <;> cases rule' <;> try simp [Rule.Admits] at hadmin hanonymous
  · trivial
  · next p q =>
      intro name
      have hname := h "" { method, payload := some (.obj [(name, .null)]) } rfl
      have hmember : ∀ n, (Json.obj [(name, .null)]).isMember n = .ok false ↔ name ≠ n := by
        intro n
        simp [Json.isMember, Json.contains, Json.find?, Json.fields, Std.TreeMap.getElem?_insert]
      simp only [Rule.Admits, Bool.false_eq_true, Option.isSome_none, false_or, Option.some.injEq,
        forall_eq', hmember] at hname
      constructor
      · intro hp
        by_contra hq
        exact hname.2 (fun n hn heq => hq (heq ▸ hn)) name hp rfl
      · intro hq
        by_contra hp
        exact hname.1 (fun n hn heq => hp (heq ▸ hn)) name hq rfl
  · next r s =>
      have hrole : ∀ role, (r = [] ∨ role ∈ r) ↔ (s = [] ∨ role ∈ s) := by
        intro role
        simpa [Rule.Admits] using h "" { method, claims := some { role } } rfl
      -- a role outside both lists tells whether they are empty
      obtain ⟨other, hother⟩ := Infinite.exists_notMem_finset (r ++ s).toFinset
      simp only [List.mem_toFinset, List.mem_append, not_or] at hother
      have hnil : r = [] ↔ s = [] := by simpa [hother.1, hother.2] using hrole other
      intro role
      by_cases hr : r = []
      · simp [hr, hnil.1 hr]
      · simpa [hr, mt hnil.2 hr] using hrole role

/-- **Two rules admit the same requests exactly when they are the same.** -/
theorem Rule.same_iff {rule rule' : Rule} (method : HttpMethod) :
    rule.Same rule' ↔ ∀ tenant (req : Request), req.method = method →
      (rule.Admits req tenant ↔ rule'.Admits req tenant) :=
  ⟨fun h tenant req _ => h.admits req tenant, Rule.same_of_admits method⟩

end Daemon
end Dbal
