/-
# Pending requests

`src/saml/state/saml_request_store.cpp` over a client that keeps what was written.  The entity is
`SamlAuthnRequestState`, whose schema declares the `requestId` unique; whether that is enforced is up
to the adapter.  The clock is read once for each operation.
-/

import Dbal.Core.Error
import Dbal.Store.FaultyCalls
import Mathlib.Data.List.Perm.Basic

namespace Dbal
namespace Saml

/-- A row of `SamlAuthnRequestState`. -/
structure SamlAuthnRequestState where
  id : String
  requestId : String
  spEntityId : String
  acsUrl : String
  relayState : Option String
  consumedAt : Option Int
  expiresAt : Int
  createdAt : Int
  deriving DecidableEq, Repr

/-- The rows of the entity. -/
abbrev Rows := List SamlAuthnRequestState

/-- The rows behind a client. -/
abbrev Store := Faulty Error Rows

/-- What the adapters differ in: whether the unique fields of a schema are enforced, what a conflict
is called, and in which order rows are listed. -/
structure Backend where
  enforcesUnique : Bool
  conflict : String
  listing : Rows → Rows
  listing_perm : ∀ rows, (listing rows).Perm rows

/-! ### The calls of the client -/

/-- `createEntity`; two rows never share an `id`. -/
def createEntity (backend : Backend) (row : SamlAuthnRequestState) : Act Error Store Unit :=
  Faulty.call fun rows =>
    if (∃ other ∈ rows, other.id = row.id) ∨
        backend.enforcesUnique = true ∧ ∃ other ∈ rows, other.requestId = row.requestId then
      .error (.conflict backend.conflict)
    else .ok ((), rows ++ [row])

/-- `listEntities`, filtered by the `requestId`. -/
def listEntities (backend : Backend) (requestId : String) (limit : Nat) : Act Error Store Rows :=
  Faulty.call fun rows =>
    .ok (((backend.listing rows).filter fun row => row.requestId = requestId).take limit, rows)

/-- The rows after `updateEntity(id, {"consumedAt": now})`. -/
def consumeAt (id : String) (now : Int) (rows : Rows) : Rows :=
  rows.map fun row => if row.id = id then { row with consumedAt := some now } else row

def updateEntity (id : String) (now : Int) : Act Error Store Unit :=
  Faulty.call fun rows => .ok ((), consumeAt id now rows)

/-! ### The store -/

/-- `PendingSamlRequest`. -/
structure PendingSamlRequest where
  requestId : String
  spEntityId : String
  acsUrl : String
  relayState : Option String
  deriving DecidableEq, Repr

namespace SamlRequestStore

/-- The row that `store` writes at this time, under the `id` that the adapter generates. -/
def newRow (ttlSeconds now : Int) (rowId : String) (req : PendingSamlRequest) :
    SamlAuthnRequestState where
  id := rowId
  requestId := req.requestId
  spEntityId := req.spEntityId
  acsUrl := req.acsUrl
  relayState := req.relayState
  consumedAt := none
  expiresAt := now + ttlSeconds
  createdAt := now

/-- `store`. -/
def store (backend : Backend) (ttlSeconds now : Int) (rowId : String) (req : PendingSamlRequest) :
    Act Error Store Unit :=
  createEntity backend (newRow ttlSeconds now rowId req)

/-- `take`. -/
def take (backend : Backend) (now : Int) (requestId : String) : Act Error Store PendingSamlRequest := do
  match ← listEntities backend requestId 1 with
  | [] => .throw (.notFound "AuthnRequest state not found — start over at /saml/sso")
  | row :: _ =>
      if row.consumedAt.isSome then
        .throw (.validationError "AuthnRequest state already used")
      else if row.expiresAt ≤ now then
        .throw (.validationError "AuthnRequest state expired — start over at /saml/sso")
      else do
        updateEntity row.id now
        return { requestId, spEntityId := row.spEntityId, acsUrl := row.acsUrl
                 relayState := row.relayState }

end SamlRequestStore

/-! ### What the operations do -/

/-- The row that is read for a request. -/
def Backend.find (backend : Backend) (rows : Rows) (requestId : String) :
    Option SamlAuthnRequestState :=
  ((backend.listing rows).filter fun row => row.requestId = requestId).head?

theorem Backend.find_mem {backend : Backend} {rows : Rows} {requestId : String}
    {row : SamlAuthnRequestState} (h : backend.find rows requestId = some row) :
    row ∈ rows ∧ row.requestId = requestId := by
  obtain ⟨hmem, hid⟩ := List.mem_filter.1 (List.mem_of_head? h)
  exact ⟨(backend.listing_perm rows).mem_iff.1 hmem, of_decide_eq_true hid⟩

/-- The row of a request is written, if nothing stands against it, or it is not. -/
theorem store_cases (backend : Backend) (ttlSeconds now : Int) (rowId : String)
    (req : PendingSamlRequest) (s : Store) :
    (SamlRequestStore.store backend ttlSeconds now rowId req s).2.state = s.state ∨
      (∀ row ∈ s.state, row.id ≠ rowId) ∧
        (backend.enforcesUnique = true → ∀ row ∈ s.state, row.requestId ≠ req.requestId) ∧
        (SamlRequestStore.store backend ttlSeconds now rowId req s).2.state =
          s.state ++ [SamlRequestStore.newRow ttlSeconds now rowId req] := by
  unfold SamlRequestStore.store createEntity
  obtain ⟨faults, ⟨e, hcall⟩ | ⟨a, state, heffect, hcall⟩⟩ := Faulty.call_cases (fun rows : Rows =>
    if (∃ other ∈ rows, other.id = (SamlRequestStore.newRow ttlSeconds now rowId req).id) ∨
        backend.enforcesUnique = true ∧ ∃ other ∈ rows,
          other.requestId = (SamlRequestStore.newRow ttlSeconds now rowId req).requestId then
      .error (Error.conflict backend.conflict)
    else .ok ((), rows ++ [SamlRequestStore.newRow ttlSeconds now rowId req])) s
  · rw [hcall]
    exact .inl rfl
  · right
    split_ifs at heffect with hconflict
    obtain ⟨-, rfl⟩ := Prod.mk.inj (Except.ok.inj heffect)
    obtain ⟨hid, hrequest⟩ := not_or.1 hconflict
    refine ⟨fun row hrow heq => hid ⟨row, hrow, heq⟩,
      fun henforces row hrow heq => hrequest ⟨henforces, row, hrow, heq⟩, ?_⟩
    rcases hcall with hcall | ⟨e, hcall⟩ <;> rw [hcall]

/-- What `take` has checked of the row, does and answers. -/
structure Takes (backend : Backend) (now : Int) (requestId : String) (s : Store)
    (row : SamlAuthnRequestState) : Prop where
  found : backend.find s.state requestId = some row
  live : row.consumedAt = none
  unexpired : now < row.expiresAt
  run : ∃ faults, SamlRequestStore.take backend now requestId s =
    (.ok ⟨requestId, row.spEntityId, row.acsUrl, row.relayState⟩,
      ⟨consumeAt row.id now s.state, faults⟩)

/-- **A request is taken, or refused**; in the second case it may be consumed all the same. -/
theorem take_cases (backend : Backend) (now : Int) (requestId : String) (s : Store) :
    ((∃ e, (SamlRequestStore.take backend now requestId s).1 = .error e) ∧
      ((SamlRequestStore.take backend now requestId s).2.state = s.state ∨
        ∃ id, (SamlRequestStore.take backend now requestId s).2.state =
          consumeAt id now s.state)) ∨
    ∃ row, Takes backend now requestId s row := by
  obtain ⟨faults, ⟨e, hlist⟩ | hlist⟩ := Faulty.read_cases (fun rows : Rows =>
    ((backend.listing rows).filter fun row => row.requestId = requestId).take 1) s
  · rw [SamlRequestStore.take, listEntities, Act.bind_error hlist]
    exact .inl ⟨⟨e, rfl⟩, .inl rfl⟩
  · have hrun : SamlRequestStore.take backend now requestId s = _ := Act.bind_ok hlist _
    rcases hfilter : (backend.listing s.state).filter fun row => row.requestId = requestId with
      _ | ⟨row, rest⟩
    · rw [hfilter] at hrun
      exact .inl (hrun ▸ ⟨⟨_, rfl⟩, .inl rfl⟩)
    · have hfound : backend.find s.state requestId = some row := by
        rw [Backend.find, hfilter, List.head?_cons]
      rw [hfilter, List.take_succ_cons] at hrun
      dsimp only at hrun
      split_ifs at hrun with hconsumed hexpired
      · exact .inl (hrun ▸ ⟨⟨_, rfl⟩, .inl rfl⟩)
      · exact .inl (hrun ▸ ⟨⟨_, rfl⟩, .inl rfl⟩)
      · have hlive := Option.not_isSome_iff_eq_none.1 hconsumed
        obtain ⟨faults', ⟨e, hupdate⟩ | ⟨_, _, heffect, hupdate⟩⟩ := Faulty.call_cases
          (fun rows => .ok ((), consumeAt row.id now rows)) ⟨s.state, faults⟩
        · rw [updateEntity, Act.bind_error hupdate] at hrun
          exact .inl (hrun ▸ ⟨⟨e, rfl⟩, .inl rfl⟩)
        · obtain ⟨rfl, rfl⟩ := Prod.mk.inj (Except.ok.inj heffect)
          rcases hupdate with hupdate | ⟨e, hupdate⟩
          · rw [updateEntity, Act.bind_ok hupdate] at hrun
            exact .inr ⟨row, hfound, hlive, Int.not_le.1 hexpired, faults', hrun⟩
          · rw [updateEntity, Act.bind_error hupdate] at hrun
            exact .inl (hrun ▸ ⟨⟨e, rfl⟩, .inr ⟨row.id, rfl⟩⟩)

end Saml
end Dbal
