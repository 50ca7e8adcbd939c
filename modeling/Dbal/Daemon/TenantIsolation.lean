/-
# Requests inside a tenant

A request on a path of tenant `T` should leave the rows of other tenants alone, and make
no row of another tenant.

A new row gets `T` only if its body names no tenant, an update may carry a `tenantId`
like any other field, and the bulk handlers look at no stored row before they change it.
`tenant_isolated`: rows of other tenants are as they were after every run of requests
that avoid these.
-/

import Dbal.Daemon.Access
import Dbal.Store.Frame
import Dbal.Store.RowStore

namespace Dbal
namespace Daemon

open Route

variable {σ κ : Type}

/-- A row that is not the tenant's. -/
def Foreign (tenant : String) (row : Json) : Prop := row.find? "tenantId" ≠ some (.str tenant)

/-- A request, as the entity or the bulk handlers get it. -/
inductive RowRequest where
  | entity (path : String) (method : HttpMethod) (body : Json) (query : Std.TreeMap String String)
  | bulk (req : BulkRequest)

namespace RowRequest

/-- The handler of the request. -/
def handle (formatReal : Int → Int → String) (A : Adapter σ) : RowRequest → Act Thrown σ Reply
  | .entity path method body query => handleRestfulRequest A (parseRoute path) method body query
  | .bulk req => req.handle formatReal A

/-- The tenant of the path. -/
def tenant : RowRequest → String
  | .entity path _ _ _ => (parseRoute path).tenant
  | .bulk (.create route _) | .bulk (.update route _) | .bulk (.delete route _) => route.tenant
  | .bulk (.batch tenant _) => tenant

end RowRequest

/-! ### What a request may ask for -/

section

variable {A : Adapter σ} (store : RowStore A κ) (tenant : String)

/-- Every stored row that a name and an id stand for satisfies `P`. -/
def Addressed (rows : κ → Option Json) (name id : String) (P : Json → Prop) : Prop :=
  ∀ k row, store.addressed name id k → rows k = some row → P row

/-- The data of an update name the tenant or none. -/
def KeepsTenant (data : Json) : Prop :=
  data.find? "tenantId" = none ∨ data.find? "tenantId" = some (.str tenant)

/-- The call makes a row of the tenant, or changes one without moving it. -/
def Call.Within (rows : κ → Option Json) : Call → Prop
  | .create _ data => data.find? "tenantId" = some (.str tenant)
  | .update name id data => KeepsTenant tenant data ∧
      Addressed store rows name id fun row => ¬ Foreign tenant row
  | .remove name id => Addressed store rows name id fun row => ¬ Foreign tenant row

/-- The row has a tenant, as a string; single requests respect that. -/
def HasTenant (row : Json) : Prop := ∃ tenant, row.find? "tenantId" = some (.str tenant)

/-- The request stays within the tenant: its data name no other, a single update or delete
addresses a row that has a tenant, and what a bulk request addresses is the tenant's. -/
def RowRequest.Within (formatReal : Int → Int → String) (rows : κ → Option Json) :
    RowRequest → Prop
  | .entity path method body _ =>
      let route := parseRoute path
      match method with
      | .post => KeepsTenant tenant body
      | .put | .patch => KeepsTenant tenant body ∧ Addressed store rows route.entity route.id HasTenant
      | .delete => Addressed store rows route.entity route.id HasTenant
      | _ => True
  | .bulk req => ∀ call ∈ req.calls formatReal, call.Within store tenant rows

/-- A run of requests on paths of the tenant, each of which stays within it. -/
inductive TenantRun (formatReal : Int → Int → String) : σ → σ → Prop
  | nil (s : σ) : TenantRun formatReal s s
  | step {s s' : σ} (req : RowRequest) : TenantRun formatReal s s' → req.tenant = tenant →
      req.Within store tenant formatReal (store.rows s') →
      TenantRun formatReal s (req.handle formatReal A s').2

end

/-! ### What the calls change -/

section

variable {A : Adapter σ} {store : RowStore A κ} {tenant : String}

/-- A call that stays within the tenant changes the tenant's rows only. -/
theorem call_changes {call : Call} {s : σ} (h : call.Within store tenant (store.rows s)) :
    ChangesOutside (Foreign tenant) (store.rows s) (store.rows (call.perform A s).2) := by
  intro k
  cases call with
  | create name data =>
      simp only [Call.perform, Act.bind_pure_snd]
      refine (store.create_rows name data s k).imp_right ?_
      rintro ⟨-, hnone, row, hrow, hcreated⟩
      refine ⟨by simp [hnone], ?_⟩
      rintro row' hrow' hforeign
      obtain rfl : row = row' := Option.some.inj (hrow.symm.trans hrow')
      exact hforeign ((hcreated "tenantId" (by simp [Generated])).trans h)
  | update name id data =>
      obtain ⟨htenant, hown⟩ := h
      simp only [Call.perform, Act.bind_pure_snd]
      refine (store.update_rows name id data s k).imp_right ?_
      rintro ⟨hkey, old, row, hold, hrow, hupdated⟩
      have hmine : old.find? "tenantId" = some (.str tenant) := not_not.1 (hown k old hkey hold)
      refine ⟨fun old' hold' => hown k old' hkey hold', ?_⟩
      rintro row' hrow' hforeign
      obtain rfl : row = row' := Option.some.inj (hrow.symm.trans hrow')
      have hfield := hupdated "tenantId" (by simp [Generated])
      rcases htenant with hdata | hdata <;> exact hforeign (by simp [hfield, hdata, hmine])
  | remove name id =>
      simp only [Call.perform, Act.bind_pure_snd]
      refine (store.remove_rows name id s k).imp_right ?_
      rintro ⟨hkey, hnone⟩
      exact ⟨fun row hrow => h k row hkey hrow, by simp [hnone]⟩

theorem Addressed.kept {P : Json → Prop} {name id : String} {rows rows' : κ → Option Json}
    (h : Addressed store rows name id P) (hrows : ∀ k row, rows' k = some row →
      rows k = some row ∨ P row) : Addressed store rows' name id P := by
  intro k row hkey hrow
  rcases hrows k row hrow with hrow | hP
  · exact h k row hkey hrow
  · exact hP

/-- Later calls stay within the tenant. -/
theorem Call.Within.kept {call : Call} {rows rows' : κ → Option Json}
    (h : call.Within store tenant rows) (hchanges : ChangesOutside (Foreign tenant) rows rows') :
    call.Within store tenant rows' := by
  have hrows : ∀ k row, rows' k = some row → rows k = some row ∨ ¬ Foreign tenant row := by
    intro k row hrow
    by_cases hforeign : Foreign tenant row
    · exact Or.inl (hchanges.kept hrow hforeign)
    · exact Or.inr hforeign
  cases call with
  | create name data => exact h
  | update name id data => exact ⟨h.1, h.2.kept hrows⟩
  | remove name id => exact Addressed.kept h hrows

/-! ### What the requests change -/

variable (store tenant) in
/-- The rows of other tenants are those of the start, in the store and in what a rollback would
bring back. -/
def Isolated (start : κ → Option Json) (s : σ) : Prop :=
  Frame (Foreign tenant) start (store.rows s) ∧
    ∀ saved, store.saved s = some saved → Frame (Foreign tenant) start saved

variable {start : κ → Option Json} {s s' : σ}

theorem Isolated.congr (h : Isolated store tenant start s) (hrows : store.rows s' = store.rows s)
    (hsaved : store.saved s' = store.saved s) : Isolated store tenant start s' := by
  unfold Isolated
  rw [hrows, hsaved]
  exact h

theorem Isolated.read (h : Isolated store tenant start s) (name id : String) :
    Isolated store tenant start (A.read name id s).2 :=
  h.congr (store.read_rows name id s).1 (store.read_rows name id s).2

theorem Isolated.call (h : Isolated store tenant start s) {call : Call}
    (hcall : call.Within store tenant (store.rows s)) :
    Isolated store tenant start (call.perform A s).2 := by
  refine ⟨h.1.trans (Frame.of_changes (call_changes hcall)), fun saved hsaved => h.2 saved ?_⟩
  cases call with
  | create name data => simpa [Call.perform, store.create_saved] using hsaved
  | update name id data => simpa [Call.perform, store.update_saved] using hsaved
  | remove name id => simpa [Call.perform, store.remove_saved] using hsaved

theorem Isolated.begin (h : Isolated store tenant start s) :
    Isolated store tenant start (A.beginTransaction s).2 := by
  obtain ⟨hrows, hsaved⟩ := store.begin_rows s
  refine ⟨hrows ▸ h.1, fun saved hopen => ?_⟩
  rcases hsaved with heq | heq
  · exact h.2 saved (heq ▸ hopen)
  · obtain rfl := Option.some.inj (heq.symm.trans hopen)
    exact h.1

/-- Ending a transaction keeps the rows, or brings back those that were saved. -/
theorem Isolated.ended (h : Isolated store tenant start s)
    (hrows : store.rows s' = store.rows s ∨ store.saved s = some (store.rows s'))
    (hsaved : store.saved s' = store.saved s ∨ store.saved s' = none) :
    Isolated store tenant start s' := by
  constructor
  · rcases hrows with heq | heq
    · exact heq ▸ h.1
    · exact h.2 _ heq
  · intro saved hopen
    rcases hsaved with heq | heq
    · exact h.2 saved (heq ▸ hopen)
    · rw [heq] at hopen
      cases hopen

theorem Isolated.commit (h : Isolated store tenant start s) :
    Isolated store tenant start (A.commitTransaction s).2 :=
  h.ended (store.commit_rows s).1 (store.commit_rows s).2

theorem Isolated.rollback (h : Isolated store tenant start s) :
    Isolated store tenant start (A.rollbackTransaction s).2 :=
  h.ended (store.rollback_rows s).1 (store.rollback_rows s).2

/-- The loop of a bulk request, by induction on the items: what is left of the calls stays
within the tenant. -/
theorem Isolated.rest {formatReal : Int → Int → String} {req : BulkRequest} {commitFailed : Reply}
    {finish : List Json → Reply} {items : List Json} {n : Nat} {done : List Json}
    (h : Isolated store tenant start s)
    (hcalls : ∀ call ∈ callPrefix (req.plan formatReal) items,
      call.Within store tenant (store.rows s)) :
    Isolated store tenant start
      (Tx.rest A.tx (req.step formatReal A) commitFailed finish n items done s).2 := by
  induction items generalizing n done s with
  | nil =>
      rw [Tx.rest_nil_snd]
      exact h.commit
  | cons item items ih =>
      rcases (performs_step formatReal A req n item s).cases with
        ⟨e, -, hstep⟩ | ⟨-, refusal, hstep⟩ | ⟨call, hplan, hstep⟩
      · rw [Tx.rest_thrown hstep]
        exact h
      · rw [Tx.rest_refused hstep]
        exact h.rollback
      · simp only [callPrefix, hplan, List.forall_mem_cons] at hcalls
        have hperform := h.call hcalls.1
        have hchanges := call_changes hcalls.1
        rcases hstep with ⟨e, s', hcall, hstep⟩ | ⟨e, s', refusal, hcall, hstep⟩ |
          ⟨s', result, hcall, hstep⟩ <;> rw [hcall] at hperform hchanges
        · rw [Tx.rest_thrown hstep]
          exact hperform
        · rw [Tx.rest_refused hstep]
          exact hperform.rollback
        · rw [Tx.rest_applied hstep]
          exact ih hperform fun call' hcall' => (hcalls.2 call' hcall').kept hchanges

theorem Isolated.bulk {formatReal : Int → Int → String} {req : BulkRequest}
    (h : Isolated store tenant start s)
    (hwithin : (RowRequest.bulk req).Within store tenant formatReal (store.rows s)) :
    Isolated store tenant start (req.handle formatReal A s).2 := by
  have hruns := handle_runs formatReal A req s
  cases hitems : req.items with
  | none =>
      rw [hitems] at hruns
      rw [show (req.handle formatReal A s).2 = s from hruns]
      exact h
  | some items =>
      rw [hitems] at hruns
      obtain ⟨commitFailed, finish, beginFailed, hstate⟩ := hruns
      rw [hstate]
      simp only [RowRequest.Within, BulkRequest.calls, hitems] at hwithin
      rw [← (store.begin_rows s).1] at hwithin
      by_cases hbegun : ∃ b, (A.beginTransaction s).1 = .ok (.ok b)
      · obtain ⟨b, hb⟩ := hbegun
        have hbegin : A.tx.begin s = (.ok (.ok b), (A.beginTransaction s).2) := Prod.ext hb rfl
        rw [Tx.run_begun hbegin]
        exact h.begin.rest hwithin
      · have hfails : ∀ b, (A.tx.begin s).1 ≠ .ok (.ok b) := fun b hb => hbegun ⟨b, hb⟩
        rw [Tx.run_not_begun hfails]
        exact h.begin

/-! ### Requests for one row -/

variable {route : RouteInfo}

/-- The body of a create names the tenant in the end. -/
theorem injectTenant_within {tenant : String} {body data : Json} (htenant : tenant ≠ "")
    (hbody : KeepsTenant tenant body) (h : injectTenant tenant body = .ok data) :
    data.find? "tenantId" = some (.str tenant) := by
  unfold injectTenant at h
  split_ifs at h with hcond
  · cases body with
    | null =>
        obtain rfl := Except.ok.inj h
        simp [Json.set, Json.find?, Json.fields]
    | obj members =>
        obtain rfl := Except.ok.inj h
        simp [Json.find?_set_obj]
    | _ => cases h
  · obtain rfl := Except.ok.inj h
    have hcontains : body.contains "tenantId" = true := by simpa [htenant] using hcond
    rcases hbody with hnone | hsome
    · simp [Json.contains, hnone] at hcontains
    · exact hsome

/-- A stored row that is there and was not refused belongs to the tenant. -/
theorem mine_of_not_otherTenant {id : String} {record : Json} {outcome : σ}
    (htenant : route.tenant ≠ "") (hread : A.read route.entity id s = (.ok (.ok record), outcome))
    (hown : otherTenant route record = false)
    (haddressed : Addressed store (store.rows s) route.entity id HasTenant) :
    Addressed store (store.rows outcome) route.entity id fun row => ¬ Foreign route.tenant row := by
  intro k row hkey hrow
  have hrows := (store.read_rows route.entity id s).1
  rw [hread] at hrows
  rw [show store.rows outcome = store.rows s from hrows] at hrow
  obtain ⟨t, ht⟩ := haddressed k row hkey hrow
  have hrecord := store.read_tenant hread hkey hrow
  simp only [otherTenant, hrecord, ht] at hown
  have : t = route.tenant := by simpa [htenant] using hown
  simp [Foreign, ht, this]

theorem Isolated.withOwnRow {operation : String} {act : Act Thrown σ Reply}
    (h : Isolated store tenant start s)
    (hact : ∀ record s', A.read route.entity route.id s = (.ok (.ok record), s') →
      otherTenant route record = false → Isolated store tenant start s' →
      Isolated store tenant start (act s').2) :
    Isolated store tenant start (CrudHandler.withOwnRow A route operation act s).2 := by
  simp only [CrudHandler.withOwnRow, withExceptionHandling, Act.catching_snd]
  split_ifs with hid
  · exact h
  · have hread := h.read route.entity route.id
    rcases hrecord : A.read route.entity route.id s with ⟨e | e | record, s'⟩ <;>
      rw [hrecord] at hread
    · simpa [Act.bind_apply, hrecord] using hread
    · simpa [Act.bind_apply, hrecord] using hread
    · simp only [Act.bind_apply, hrecord]
      cases hother : otherTenant route record with
      | true => simpa using hread
      | false => simpa using hact record s' hrecord hother hread

theorem Isolated.list (h : Isolated store tenant start s) (query : Std.TreeMap String String) :
    Isolated store tenant start (ListHandler.handleList A route query s).2 := by
  rcases ListHandler.handleList_snd A route query s with heq | ⟨options, heq⟩
  · rw [heq]
    exact h
  · rw [heq]
    exact h.congr (store.list_rows _ _ _).1 (store.list_rows _ _ _).2

theorem Isolated.restful {formatReal : Int → Int → String} {path : String} {method : HttpMethod}
    {body : Json} {query : Std.TreeMap String String} (htenant : (parseRoute path).tenant = tenant)
    (h : Isolated store tenant start s)
    (hwithin : (RowRequest.entity path method body query).Within store tenant formatReal
      (store.rows s)) :
    Isolated store tenant start (handleRestfulRequest A (parseRoute path) method body query s).2 := by
  by_cases hvalid : (parseRoute path).valid = true
  swap
  · simpa [handleRestfulRequest, hvalid] using h
  by_cases haction : (parseRoute path).action = ""
  swap
  · simpa [handleRestfulRequest, hvalid, haction] using h
  have hname : (parseRoute path).tenant ≠ "" := by
    obtain ⟨rest, -, -, hvt, -⟩ := parseRoute_valid hvalid
    exact (isValidName_iff hvt).1
  subst htenant
  cases method with
  | get =>
      simp only [handleRestfulRequest, hvalid, haction]
      by_cases hid : (parseRoute path).id = ""
      · simpa [hid] using h.list query
      · simpa [hid, CrudHandler.handleRead_snd] using h.read _ _
  | post =>
      by_cases hid : (parseRoute path).id = ""
      · simp only [handleRestfulRequest, hvalid, haction, hid]
        have hcreate : ∀ data, injectTenant (parseRoute path).tenant body = .ok data →
            Isolated store (parseRoute path).tenant start
              (A.create (parseRoute path).entity data s).2 := by
          intro data hdata
          have hcall := h.call (show Call.Within store _ _ (.create (parseRoute path).entity data)
            from injectTenant_within hname hwithin hdata)
          simpa [Call.perform] using hcall
        have hstate := CrudHandler.handleCreate_snd A (parseRoute path) body s
        cases hdata : injectTenant (parseRoute path).tenant body with
        | error e => simpa [hdata, hstate] using h
        | ok data => simpa [hdata, hstate] using hcreate data hdata
      · simpa [handleRestfulRequest, hvalid, haction, hid] using h
  | put | patch =>
      simp only [handleRestfulRequest, hvalid, haction]
      refine Isolated.withOwnRow h fun record s' hread hown hs' => ?_
      have hmine := mine_of_not_otherTenant hname hread hown hwithin.2
      cases hempty : body.isEmpty with
      | true => simpa using hs'
      | false =>
          have hupdate := hs'.call (show Call.Within store _ _ (.update _ _ body) from
            ⟨hwithin.1, hmine⟩)
          simp only [Call.perform, Act.bind_pure_snd] at hupdate
          simp only [Bool.false_eq_true, if_false]
          rwa [Act.bind_snd (by rintro (_ | _) s' <;> rfl)]
  | delete =>
      simp only [handleRestfulRequest, hvalid, haction]
      refine Isolated.withOwnRow h fun record s' hread hown hs' => ?_
      have hmine := mine_of_not_otherTenant hname hread hown hwithin
      have hremove := hs'.call (show Call.Within store _ _ (.remove _ _) from hmine)
      simp only [Call.perform, Act.bind_pure_snd] at hremove
      rwa [Act.bind_snd (by rintro (_ | _) s' <;> rfl)]
  | options => simpa [handleRestfulRequest, hvalid, haction] using h

end

/-! ### Runs -/

section

variable {A : Adapter σ} {store : RowStore A κ} {tenant : String} {formatReal : Int → Int → String}
  {s s' : σ}

theorem Isolated.step {start : κ → Option Json} {req : RowRequest} (htenant : req.tenant = tenant)
    (h : Isolated store tenant start s)
    (hwithin : req.Within store tenant formatReal (store.rows s)) :
    Isolated store tenant start (req.handle formatReal A s).2 := by
  cases req with
  | entity path method body query => exact Isolated.restful htenant h hwithin
  | bulk req => exact Isolated.bulk h hwithin

theorem TenantRun.isolated (hclosed : store.saved s = none)
    (hrun : TenantRun store tenant formatReal s s') :
    Isolated store tenant (store.rows s) s' := by
  induction hrun with
  | nil => exact ⟨Frame.refl _ _, fun saved hsaved => by simp [hclosed] at hsaved⟩
  | step req hrun htenant hwithin ih => exact ih.step htenant hwithin

/-- **Requests inside a tenant leave the other tenants alone.**  In every state of a run whose
requests stay within the tenant, the rows of other tenants are those of the start: none is
changed or gone, and none was made or moved there. -/
theorem tenant_isolated (hclosed : store.saved s = none)
    (hrun : TenantRun store tenant formatReal s s') :
    Frame (Foreign tenant) (store.rows s) (store.rows s') := (hrun.isolated hclosed).1

end

/-- A store with one row, of the tenant `globex`. -/
def globexPost : MapStore where
  rows := [⟨"Post", "p1", .obj [("tenantId", .str "globex")]⟩]

/-- Deleting another tenant's row by its id does nothing. -/
theorem tenant_isolated_single_delete :
    Frame (Foreign "acme") (MapStore.byKey globexPost.rows)
      (MapStore.byKey (RowRequest.handle (fun _ _ => "") (MapStore.adapter MapStore.anyEntity)
        (.entity "/acme/core/Post/p1" .delete .null ∅) globexPost).2.rows) := by
  refine @tenant_isolated _ _ _ (MapStore.rowStore MapStore.anyEntity) "acme" (fun _ _ => "") _ _ rfl
    (.step _ (.nil _) (by decide +kernel) ?_)
  rintro k row ⟨schema, hschema, rfl⟩ hrow
  obtain rfl := Option.some.inj hschema
  have hroute : (parseRoute "/acme/core/Post/p1").entity = "Post" ∧
      (parseRoute "/acme/core/Post/p1").id = "p1" := by
    decide +kernel
  simp only [MapStore.rowStore, hroute, MapStore.byKey, MapStore.lookup, globexPost] at hrow
  obtain ⟨-, rfl⟩ : _ ∧ Json.obj [("tenantId", .str "globex")] = row := by simpa using hrow
  exact ⟨"globex", by simp [Json.find?, Json.fields]⟩

/-- **A bulk delete reaches into another tenant.**  The row of `globex` is gone after a bulk
delete on a path of `acme`. -/
theorem bulk_delete_crosses_tenants :
    ¬ Frame (Foreign "acme") (MapStore.byKey globexPost.rows)
      (MapStore.byKey (RowRequest.handle (fun _ _ => "") (MapStore.adapter MapStore.anyEntity)
        (.bulk (.delete (handlerRoute "acme" "core" "Post" none) (.arr [.str "p1"])))
        globexPost).2.rows) := by
  intro h
  have hrow : MapStore.byKey globexPost.rows ("Post", "p1") =
      some (.obj [("tenantId", .str "globex")]) := by
    simp [MapStore.byKey, MapStore.lookup, globexPost, MapStore.named]
  have hafter := (h ("Post", "p1") _ (by simp [Foreign, Json.find?, Json.fields])).2 hrow
  have hgone : (MapStore.byKey (RowRequest.handle (fun _ _ => "")
      (MapStore.adapter MapStore.anyEntity)
        (.bulk (.delete (handlerRoute "acme" "core" "Post" none) (.arr [.str "p1"])))
        globexPost).2.rows ("Post", "p1")).isNone = true := by
    decide +kernel
  rw [hafter] at hgone
  cases hgone

end Daemon
end Dbal
