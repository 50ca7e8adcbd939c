/-
# Service tickets

`src/cas/cas_ticket_store.cpp` over a store that keeps what was written, with the draws and
the faults of the other token stores.
-/

import Dbal.Oidc.TokenStore

namespace Dbal
namespace Cas

/-- `TicketType`. -/
inductive TicketType where
  | serviceTicket
  | ticketGrantingTicket
  deriving DecidableEq, Repr

/-- `typeString`. -/
def typeString : TicketType → String
  | .ticketGrantingTicket => "TGT"
  | .serviceTicket => "ST"

/-- `ticketPrefix`. -/
def ticketPrefix : TicketType → String
  | .ticketGrantingTicket => "TGT-"
  | .serviceTicket => "ST-"

/-- A row of `CasTicket`. -/
structure CasTicket where
  id : String
  ticketHash : String
  ticketType : String
  userId : String
  tenantId : String
  service : String
  consumedAt : Option Int
  expiresAt : Int
  createdAt : Int
  deriving DecidableEq, Repr

/-- The rows, and what happens to the calls to come. -/
structure Store where
  tickets : List CasTicket := []
  faults : List (Option Oidc.Fault) := []

/-- A call of the client. -/
def call {α : Type} (answer : List CasTicket → α) (effect : List CasTicket → List CasTicket) :
    Act Error Store α := fun s =>
  match s.faults with
  | [] => (.ok (answer s.tickets), ⟨effect s.tickets, []⟩)
  | none :: faults => (.ok (answer s.tickets), ⟨effect s.tickets, faults⟩)
  | some (.refused e) :: faults => (.error e, ⟨s.tickets, faults⟩)
  | some (.lost e) :: faults => (.error e, ⟨effect s.tickets, faults⟩)

/-- `updateEntity("CasTicket", id, {"consumedAt": now})`. -/
def consumeAt (id : String) (now : Int) (tickets : List CasTicket) : List CasTicket :=
  tickets.map fun ticket => if ticket.id = id then { ticket with consumedAt := some now } else ticket

/-- `ValidatedTicket`. -/
structure ValidatedTicket where
  userId : String
  tenantId : String
  deriving DecidableEq, Repr

namespace CasTicketStore

/-- The ticket handed out. -/
def rawTicket (type : TicketType) (draw : Oidc.Draw) : String := ticketPrefix type ++ draw.token

/-- `issue`. -/
def issue (hash : Oidc.Hash) (draw : Oidc.Draw) (type : TicketType)
    (userId tenantId service : String) (ttlSeconds : Int) : Act Error Store String := do
  call (fun _ => ()) fun tickets => tickets ++
    [{ id := draw.rowId, ticketHash := hash (rawTicket type draw), ticketType := typeString type,
       userId, tenantId, service, consumedAt := none, expiresAt := draw.now + ttlSeconds,
       createdAt := draw.now }]
  return rawTicket type draw

/-- `validateServiceTicket`. -/
def validateServiceTicket (hash : Oidc.Hash) (now : Int) (rawTicket service : String) :
    Act Error Store ValidatedTicket := do
  match ← call (fun tickets =>
      (tickets.filter fun ticket => ticket.ticketHash = hash rawTicket).take 1) id with
  | [] => .throw (.notFound "INVALID_TICKET: ticket not recognized")
  | row :: _ =>
      if row.consumedAt.isSome then
        .throw (.validationError "INVALID_TICKET: ticket already used")
      else if row.expiresAt ≤ now then
        .throw (.validationError "INVALID_TICKET: ticket expired")
      else if row.service ≠ service then
        .throw (.validationError "INVALID_SERVICE: service does not match ticket issuance")
      else do
        call (fun _ => ()) (consumeAt row.id now)
        return { userId := row.userId, tenantId := row.tenantId }

end CasTicketStore

/-! ### What the operations do -/

/-- The three ways in which a call ends. -/
theorem call_cases {α : Type} (answer : List CasTicket → α)
    (effect : List CasTicket → List CasTicket) (s : Store) :
    ∃ faults, call answer effect s = (.ok (answer s.tickets), ⟨effect s.tickets, faults⟩) ∨
      (∃ e, call answer effect s = (.error e, ⟨s.tickets, faults⟩)) ∨
      ∃ e, call answer effect s = (.error e, ⟨effect s.tickets, faults⟩) := by
  rcases s with ⟨tickets, _ | ⟨_ | _ | _, faults⟩⟩
  · exact ⟨[], Or.inl rfl⟩
  · exact ⟨faults, Or.inl rfl⟩
  · exact ⟨faults, Or.inr (Or.inl ⟨_, rfl⟩)⟩
  · exact ⟨faults, Or.inr (Or.inr ⟨_, rfl⟩)⟩

/-- The row of a new ticket is written, or it is not. -/
theorem issue_cases (hash : Oidc.Hash) (draw : Oidc.Draw) (type : TicketType)
    (userId tenantId service : String) (ttlSeconds : Int) (s : Store) :
    (CasTicketStore.issue hash draw type userId tenantId service ttlSeconds s).2.tickets =
        s.tickets ∨
      (CasTicketStore.issue hash draw type userId tenantId service ttlSeconds s).2.tickets =
        s.tickets ++
          [{ id := draw.rowId, ticketHash := hash (CasTicketStore.rawTicket type draw),
             ticketType := typeString type, userId, tenantId, service, consumedAt := none,
             expiresAt := draw.now + ttlSeconds, createdAt := draw.now }] := by
  rw [CasTicketStore.issue, Act.bind_pure_snd]
  obtain ⟨faults, hok | ⟨e, herr⟩ | ⟨e, herr⟩⟩ := call_cases (fun _ => ()) _ s
  · exact Or.inr (congrArg (fun r => r.2.tickets) hok)
  · exact Or.inl (congrArg (fun r => r.2.tickets) herr)
  · exact Or.inr (congrArg (fun r => r.2.tickets) herr)

/-- What a validation has checked of its row, does and answers. -/
structure Validates (hash : Oidc.Hash) (now : Int) (rawTicket service : String) (s : Store)
    (row : CasTicket) : Prop where
  keyed : row.ticketHash = hash rawTicket
  live : row.consumedAt = none
  unexpired : now < row.expiresAt
  bound : row.service = service
  run : ∃ faults, CasTicketStore.validateServiceTicket hash now rawTicket service s =
    (.ok ⟨row.userId, row.tenantId⟩, ⟨consumeAt row.id now s.tickets, faults⟩)

/-- **A ticket is validated, or refused.** -/
theorem validateServiceTicket_cases (hash : Oidc.Hash) (now : Int) (rawTicket service : String)
    (s : Store) :
    ((∃ e, (CasTicketStore.validateServiceTicket hash now rawTicket service s).1 = .error e) ∧
      ((CasTicketStore.validateServiceTicket hash now rawTicket service s).2.tickets = s.tickets ∨
        ∃ id, (CasTicketStore.validateServiceTicket hash now rawTicket service s).2.tickets =
          consumeAt id now s.tickets)) ∨
    ∃ row ∈ s.tickets, Validates hash now rawTicket service s row := by
  have hcases := call_cases (fun tickets =>
    (tickets.filter fun ticket : CasTicket => ticket.ticketHash = hash rawTicket).take 1) id s
  obtain ⟨faults, hok | ⟨e, herr⟩ | ⟨e, herr⟩⟩ := hcases
  · rcases hfound : (s.tickets.filter fun ticket => ticket.ticketHash = hash rawTicket).take 1 with
      _ | ⟨row, rest⟩ <;> rw [hfound] at hok
    · left
      rw [CasTicketStore.validateServiceTicket, Act.bind_ok hok]
      exact ⟨⟨_, rfl⟩, Or.inl rfl⟩
    · have hmem : row ∈ s.tickets.filter fun ticket => ticket.ticketHash = hash rawTicket :=
        List.mem_of_mem_take (by rw [hfound]; exact List.mem_cons_self)
      obtain ⟨hmem, hhash⟩ := List.mem_filter.1 hmem
      have hrun : CasTicketStore.validateServiceTicket hash now rawTicket service s = _ :=
        Act.bind_ok hok _
      dsimp only at hrun
      split_ifs at hrun with hconsumed hexpired hservice
      · exact Or.inl (hrun ▸ ⟨⟨_, rfl⟩, Or.inl rfl⟩)
      · exact Or.inl (hrun ▸ ⟨⟨_, rfl⟩, Or.inl rfl⟩)
      · exact Or.inl (hrun ▸ ⟨⟨_, rfl⟩, Or.inl rfl⟩)
      · obtain ⟨faults', hok' | ⟨e, herr⟩ | ⟨e, herr⟩⟩ := call_cases (fun _ => ())
          (consumeAt row.id now) ⟨s.tickets, faults⟩
        · rw [id, Act.bind_ok hok'] at hrun
          exact Or.inr ⟨row, hmem, of_decide_eq_true hhash,
            Option.not_isSome_iff_eq_none.1 hconsumed, Int.not_le.1 hexpired, not_not.1 hservice,
            faults', hrun⟩
        · rw [id, Act.bind_error herr] at hrun
          exact Or.inl (hrun ▸ ⟨⟨e, rfl⟩, Or.inl rfl⟩)
        · rw [id, Act.bind_error herr] at hrun
          exact Or.inl (hrun ▸ ⟨⟨e, rfl⟩, Or.inr ⟨row.id, rfl⟩⟩)
  · left
    rw [CasTicketStore.validateServiceTicket, Act.bind_error herr]
    exact ⟨⟨e, rfl⟩, Or.inl rfl⟩
  · left
    rw [CasTicketStore.validateServiceTicket, Act.bind_error herr]
    exact ⟨⟨e, rfl⟩, Or.inl rfl⟩

end Cas
end Dbal
