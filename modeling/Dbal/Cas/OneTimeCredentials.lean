/-
# Codes and tickets are used once

The authorization codes with their exchange and the service tickets with their validation, one
call at a time and each call with a time of its own, are books of credentials that are used
once: an exchange that succeeds is the use of a code, on the terms of its request, and a
validation that succeeds the use of a ticket.
-/

import Dbal.Cas.TicketStore
import Dbal.Oidc.CodeReplay
import Dbal.Store.OneTime

namespace Dbal
namespace Cas

open Dbal.Oidc

/-! ### Terms and uses -/

/-- What a code was issued for, and until when. -/
structure CodeTerms where
  request : AuthorizationCodeRequest
  expiresAt : Int

/-- An exchange of a code that succeeded. -/
structure CodeUse where
  now : Int
  redirectUri : String
  clientId : String
  codeVerifier : String
  response : TokenResponse

/-- The exchange is one that the code was issued for. -/
structure CodeTerms.Allows (service : OidcService) (terms : CodeTerms) (use : CodeUse) : Prop where
  unexpired : use.now < terms.expiresAt
  client : use.clientId = terms.request.clientId
  redirectUri : use.redirectUri = terms.request.redirectUri
  verified : service.verifyS256 use.codeVerifier terms.request.codeChallenge
  subjects : use.response.idToken.subject = terms.request.userId ∧
    use.response.accessToken.subject = terms.request.userId
  tenants : use.response.idToken.tenantId = terms.request.tenantId ∧
    use.response.accessToken.tenantId = terms.request.tenantId
  scopes : use.response.scope = terms.request.scope ∧
    use.response.accessToken.scope = terms.request.scope

/-- What a ticket was issued for, and until when. -/
structure TicketTerms where
  userId : String
  tenantId : String
  service : String
  expiresAt : Int

/-- A validation that succeeded. -/
structure TicketUse where
  now : Int
  service : String
  validated : ValidatedTicket

/-- The validation is one that the ticket was issued for. -/
structure TicketTerms.Allows (terms : TicketTerms) (use : TicketUse) : Prop where
  unexpired : use.now < terms.expiresAt
  service : use.service = terms.service
  validated : use.validated = ⟨terms.userId, terms.tenantId⟩

/-! ### Runs -/

/-- The rows of both stores. -/
structure Credentials where
  rows : Rows := {}
  tickets : List CasTicket := []

/-- What is observed of the codes and of the tickets. -/
abbrev Event : Type :=
  OneTime.Event String CodeTerms CodeUse ⊕ OneTime.Event String TicketTerms TicketUse

/-- What an exchange shows. -/
def exchangeEvents (hash : Hash) (now : Int) (code redirectUri clientId codeVerifier : String) :
    Except Error TokenResponse → List Event
  | .ok response => [.inl (.used (hash code) ⟨now, redirectUri, clientId, codeVerifier, response⟩)]
  | .error _ => []

/-- What a validation shows. -/
def validationEvents (hash : Hash) (now : Int) (rawTicket service : String) :
    Except Error ValidatedTicket → List Event
  | .ok validated => [.inr (.used (hash rawTicket) ⟨now, service, validated⟩)]
  | .error _ => []

/-- One operation, whatever happens to its calls. -/
inductive Step (service : OidcService) (w : Credentials) : List Event → Credentials → Prop where
  | issueCode (faults : List (Option Fault)) (draw : Draw) (ttlSeconds : Int)
      (req : AuthorizationCodeRequest)
      (hfresh : ∀ code ∈ w.rows.codes, code.codeHash ≠ service.hash draw.token) :
      Step service w [.inl (.issued (service.hash draw.token) ⟨req, draw.now + ttlSeconds⟩)]
        ⟨(AuthCodeStore.issue service.hash draw ttlSeconds req ⟨w.rows, faults⟩).2.rows, w.tickets⟩
  | exchangeCode (faults : List (Option Fault)) (around : Surroundings)
      (code redirectUri clientId codeVerifier : String) :
      Step service w
        (exchangeEvents service.hash around.now code redirectUri clientId codeVerifier
          (service.exchangeCode around code redirectUri clientId codeVerifier ⟨w.rows, faults⟩).1)
        ⟨(service.exchangeCode around code redirectUri clientId codeVerifier
          ⟨w.rows, faults⟩).2.rows, w.tickets⟩
  | issueTicket (faults : List (Option Fault)) (draw : Draw) (type : TicketType)
      (userId tenantId ticketService : String) (ttlSeconds : Int)
      (hfresh : ∀ ticket ∈ w.tickets,
        ticket.ticketHash ≠ service.hash (CasTicketStore.rawTicket type draw)) :
      Step service w
        [.inr (.issued (service.hash (CasTicketStore.rawTicket type draw))
          ⟨userId, tenantId, ticketService, draw.now + ttlSeconds⟩)]
        ⟨w.rows, (CasTicketStore.issue service.hash draw type userId tenantId ticketService
          ttlSeconds ⟨w.tickets, faults⟩).2.tickets⟩
  | validateServiceTicket (faults : List (Option Fault)) (now : Int)
      (rawTicket ticketService : String) :
      Step service w
        (validationEvents service.hash now rawTicket ticketService
          (CasTicketStore.validateServiceTicket service.hash now rawTicket ticketService
            ⟨w.tickets, faults⟩).1)
        ⟨w.rows, (CasTicketStore.validateServiceTicket service.hash now rawTicket ticketService
          ⟨w.tickets, faults⟩).2.tickets⟩

/-- A run, with what was observed. -/
inductive Run (service : OidcService) : Credentials → List Event → Credentials → Prop where
  | refl (w : Credentials) : Run service w [] w
  | tail {w w' w'' : Credentials} {es es' : List Event} :
      Run service w es w' → Step service w' es' w'' → Run service w (es ++ es') w''

/-! ### The stores as books -/

/-- The entry of a code. -/
def codeEntry (code : AuthorizationCode) : OneTime.Entry String CodeTerms where
  key := code.codeHash
  terms :=
    { request :=
        { clientId := code.clientId, userId := code.userId, tenantId := code.tenantId,
          redirectUri := code.redirectUri, codeChallenge := code.codeChallenge,
          codeChallengeMethod := code.codeChallengeMethod, scope := code.scope, nonce := code.nonce }
      expiresAt := code.expiresAt }
  spent := code.consumedAt.isSome

/-- The entry of a ticket. -/
def ticketEntry (ticket : CasTicket) : OneTime.Entry String TicketTerms where
  key := ticket.ticketHash
  terms := ⟨ticket.userId, ticket.tenantId, ticket.service, ticket.expiresAt⟩
  spent := ticket.consumedAt.isSome

def Credentials.codeBook (w : Credentials) : List (OneTime.Entry String CodeTerms) :=
  w.rows.codes.map codeEntry

def Credentials.ticketBook (w : Credentials) : List (OneTime.Entry String TicketTerms) :=
  w.tickets.map ticketEntry

/-- What was observed of the codes. -/
def codeEvents (es : List Event) : List (OneTime.Event String CodeTerms CodeUse) :=
  es.filterMap Sum.getLeft?

/-- What was observed of the tickets. -/
def ticketEvents (es : List Event) : List (OneTime.Event String TicketTerms TicketUse) :=
  es.filterMap Sum.getRight?

theorem consumeAt_codeBook (rows : Rows) (id : String) (now : Int) :
    List.Forall₂ OneTime.SpentTo (rows.codes.map codeEntry)
      ((rows.consumeAt id now).codes.map codeEntry) := by
  refine OneTime.spentTo_map codeEntry (fun code => ?_) rows.codes
  split_ifs
  · exact Or.inr rfl
  · exact Or.inl rfl

theorem consumeAt_ticketBook (tickets : List CasTicket) (id : String) (now : Int) :
    List.Forall₂ OneTime.SpentTo (tickets.map ticketEntry)
      ((consumeAt id now tickets).map ticketEntry) := by
  refine OneTime.spentTo_map ticketEntry (fun ticket => ?_) tickets
  split_ifs
  · exact Or.inr rfl
  · exact Or.inl rfl

/-! ### Every operation is a step of each book -/

theorem issueCode_step (service : OidcService) (rows : Rows) (faults : List (Option Fault))
    {draw : Draw} (ttlSeconds : Int) (req : AuthorizationCodeRequest)
    (hfresh : ∀ code ∈ rows.codes, code.codeHash ≠ service.hash draw.token) :
    OneTime.Step (CodeTerms.Allows service) (rows.codes.map codeEntry)
      [.issued (service.hash draw.token) ⟨req, draw.now + ttlSeconds⟩]
      ((AuthCodeStore.issue service.hash draw ttlSeconds req ⟨rows, faults⟩).2.rows.codes.map
        codeEntry) := by
  have hnew : ∀ e ∈ rows.codes.map codeEntry, e.key ≠ service.hash draw.token := by
    intro e he
    obtain ⟨code, hcode, rfl⟩ := List.mem_map.1 he
    exact hfresh code hcode
  have hwritten : ∀ rows' : Rows, rows' = rows ∨ rows' = { rows with codes := rows.codes ++
      [{ id := draw.rowId, codeHash := service.hash draw.token, clientId := req.clientId,
         userId := req.userId, tenantId := req.tenantId, redirectUri := req.redirectUri,
         codeChallenge := req.codeChallenge, codeChallengeMethod := req.codeChallengeMethod,
         scope := req.scope, nonce := req.nonce, expiresAt := draw.now + ttlSeconds,
         consumedAt := none, createdAt := draw.now }] } →
      OneTime.Step (CodeTerms.Allows service) (rows.codes.map codeEntry)
        [.issued (service.hash draw.token) ⟨req, draw.now + ttlSeconds⟩]
        (rows'.codes.map codeEntry) := by
    rintro rows' (rfl | rfl)
    · exact .fail _ _
    · rw [List.map_append]
      exact .issue _ _ hnew
  refine hwritten _ ?_
  rw [AuthCodeStore.issue, Act.bind_pure_snd, createCode]
  obtain ⟨faults', hok | ⟨e, herr⟩ | ⟨e, herr⟩⟩ := Oidc.call_cases (fun _ => ()) _ ⟨rows, faults⟩
  · exact Or.inr (congrArg (fun r => r.2.rows) hok)
  · exact Or.inl (congrArg (fun r => r.2.rows) herr)
  · exact Or.inr (congrArg (fun r => r.2.rows) herr)

theorem exchangeCode_step (service : OidcService) (rows : Rows) (faults : List (Option Fault))
    (around : Surroundings) (code redirectUri clientId codeVerifier : String) :
    OneTime.Step (CodeTerms.Allows service) (rows.codes.map codeEntry)
      (codeEvents (exchangeEvents service.hash around.now code redirectUri clientId codeVerifier
        (service.exchangeCode around code redirectUri clientId codeVerifier ⟨rows, faults⟩).1))
      ((service.exchangeCode around code redirectUri clientId codeVerifier
        ⟨rows, faults⟩).2.rows.codes.map codeEntry) := by
  rcases exchangeCode_cases service around code redirectUri clientId codeVerifier
    ⟨rows, faults⟩ with ⟨⟨e, herror⟩, hrows | ⟨id, hrows⟩⟩ | ⟨row, hmem, hrow⟩
  · rw [herror, hrows]
    exact .idle _
  · rw [herror, hrows]
    exact .spend (consumeAt_codeBook rows id around.now)
  · have hcodes : (service.exchangeCode around code redirectUri clientId codeVerifier
        ⟨rows, faults⟩).2.rows.codes = (rows.consumeAt row.id around.now).codes := by
      rcases hrow.issues with hrows | ⟨req, ttlSeconds, -, hrows⟩ <;> rw [hrows]
      rfl
    have hspend := consumeAt_codeBook rows row.id around.now
    have hanswers := hrow.answers
    rw [hcodes]
    generalize (service.exchangeCode around code redirectUri clientId codeVerifier
      ⟨rows, faults⟩).1 = result at hanswers ⊢
    rcases result with e | resp
    · exact .spend hspend
    · obtain ⟨hanswers, -⟩ := hanswers resp rfl
      have hspent : OneTime.Spent ((rows.consumeAt row.id around.now).codes.map codeEntry)
          (codeEntry row).key :=
        ⟨codeEntry { row with consumedAt := some around.now },
          List.mem_map_of_mem (List.mem_map.2 ⟨row, hmem, if_pos rfl⟩), rfl, rfl⟩
      have hallows : CodeTerms.Allows service (codeEntry row).terms
          ⟨around.now, redirectUri, clientId, codeVerifier, resp⟩ :=
        ⟨hrow.unexpired, hrow.bound.symm, hanswers.redirectUri.symm, hanswers.verified,
          hanswers.subjects, hanswers.tenants, hanswers.scopes⟩
      rw [exchangeEvents, ← hrow.keyed]
      exact .use (List.mem_map_of_mem hmem) (Option.isSome_eq_false_iff.2 (by simp [hrow.live]))
        _ hallows hspend hspent

theorem issueTicket_step (hash : Hash) (tickets : List CasTicket) (faults : List (Option Fault))
    {draw : Draw} {type : TicketType} (userId tenantId service : String) (ttlSeconds : Int)
    (hfresh : ∀ ticket ∈ tickets, ticket.ticketHash ≠ hash (CasTicketStore.rawTicket type draw)) :
    OneTime.Step TicketTerms.Allows (tickets.map ticketEntry)
      [.issued (hash (CasTicketStore.rawTicket type draw))
        ⟨userId, tenantId, service, draw.now + ttlSeconds⟩]
      ((CasTicketStore.issue hash draw type userId tenantId service ttlSeconds
        ⟨tickets, faults⟩).2.tickets.map ticketEntry) := by
  rcases issue_cases hash draw type userId tenantId service ttlSeconds ⟨tickets, faults⟩ with
    hrows | hrows <;> rw [hrows]
  · exact .fail _ _
  · rw [List.map_append]
    refine .issue _ _ fun e he => ?_
    obtain ⟨ticket, hticket, rfl⟩ := List.mem_map.1 he
    exact hfresh ticket hticket

theorem validateServiceTicket_step (hash : Hash) (tickets : List CasTicket)
    (faults : List (Option Fault)) (now : Int) (rawTicket service : String) :
    OneTime.Step TicketTerms.Allows (tickets.map ticketEntry)
      (ticketEvents (validationEvents hash now rawTicket service
        (CasTicketStore.validateServiceTicket hash now rawTicket service ⟨tickets, faults⟩).1))
      ((CasTicketStore.validateServiceTicket hash now rawTicket service
        ⟨tickets, faults⟩).2.tickets.map ticketEntry) := by
  rcases validateServiceTicket_cases hash now rawTicket service ⟨tickets, faults⟩ with
    ⟨⟨e, herror⟩, hrows | ⟨id, hrows⟩⟩ | ⟨row, hmem, hrow⟩
  · rw [herror, hrows]
    exact .idle _
  · rw [herror, hrows]
    exact .spend (consumeAt_ticketBook tickets id now)
  · obtain ⟨faults', hrun⟩ := hrow.run
    have hspent : OneTime.Spent ((consumeAt row.id now tickets).map ticketEntry)
        (ticketEntry row).key :=
      ⟨ticketEntry { row with consumedAt := some now },
        List.mem_map_of_mem (List.mem_map.2 ⟨row, hmem, if_pos rfl⟩), rfl, rfl⟩
    have hallows : (ticketEntry row).terms.Allows ⟨now, service, ⟨row.userId, row.tenantId⟩⟩ :=
      ⟨hrow.unexpired, hrow.bound.symm, rfl⟩
    rw [hrun, validationEvents, ← hrow.keyed]
    exact .use (List.mem_map_of_mem hmem) (Option.isSome_eq_false_iff.2 (by simp [hrow.live]))
      _ hallows (consumeAt_ticketBook tickets row.id now) hspent

/-- **Every operation is a step of the book of codes and one of the book of tickets.** -/
theorem Step.steps {service : OidcService} {w w' : Credentials} {es : List Event}
    (h : Step service w es w') :
    OneTime.Step (CodeTerms.Allows service) w.codeBook (codeEvents es) w'.codeBook ∧
      OneTime.Step TicketTerms.Allows w.ticketBook (ticketEvents es) w'.ticketBook := by
  rcases h with ⟨faults, draw, ttlSeconds, req, hfresh⟩ |
    ⟨faults, around, code, redirectUri, clientId, codeVerifier⟩ |
    ⟨faults, draw, type, userId, tenantId, ticketService, ttlSeconds, hfresh⟩ |
    ⟨faults, now, rawTicket, ticketService⟩
  · exact ⟨issueCode_step service w.rows faults ttlSeconds req hfresh, .idle _⟩
  · refine ⟨exchangeCode_step service w.rows faults around code redirectUri clientId codeVerifier,
      ?_⟩
    generalize (service.exchangeCode around code redirectUri clientId codeVerifier
      ⟨w.rows, faults⟩).1 = result
    rcases result with e | resp
    · exact .idle _
    · exact .idle _
  · exact ⟨.idle _, issueTicket_step service.hash w.tickets faults userId tenantId ticketService
      ttlSeconds hfresh⟩
  · refine ⟨?_, validateServiceTicket_step service.hash w.tickets faults now rawTicket
      ticketService⟩
    generalize (CasTicketStore.validateServiceTicket service.hash now rawTicket ticketService
      ⟨w.tickets, faults⟩).1 = result
    rcases result with e | validated
    · exact .idle _
    · exact .idle _

theorem Run.runs {service : OidcService} {w w' : Credentials} {es : List Event}
    (h : Run service w es w') :
    OneTime.Run (CodeTerms.Allows service) w.codeBook (codeEvents es) w'.codeBook ∧
      OneTime.Run TicketTerms.Allows w.ticketBook (ticketEvents es) w'.ticketBook := by
  induction h with
  | refl => exact ⟨.refl _, .refl _⟩
  | tail _ hstep ih =>
      rw [codeEvents, ticketEvents, List.filterMap_append, List.filterMap_append]
      exact ⟨.tail ih.1 hstep.steps.1, .tail ih.2 hstep.steps.2⟩

/-! ### The result -/

/-- **Codes and tickets are credentials that are used once.**  Over every run a code is exchanged
and a ticket validated with success at most once.  Whenever that happens the credential was
issued before and has not expired.  The client, the redirect URI and the verifier of the
exchange are those the code was issued for, and the user, the tenant and the scope of the
answer too; the service and the user of the validation are those of the ticket. -/
theorem one_time_credentials {service : OidcService} {es : List Event} {w : Credentials}
    (hrun : Run service {} es w) :
    (∀ code, (codeEvents es).countP (OneTime.Event.uses (service.hash code)) ≤ 1) ∧
    (∀ ticket, (ticketEvents es).countP (OneTime.Event.uses (service.hash ticket)) ≤ 1) ∧
    (∀ before after codeHash use, codeEvents es = before ++ .used codeHash use :: after →
      ∃ req expiresAt, .issued codeHash ⟨req, expiresAt⟩ ∈ before ∧ use.now < expiresAt ∧
        use.clientId = req.clientId ∧ use.redirectUri = req.redirectUri ∧
        service.verifyS256 use.codeVerifier req.codeChallenge ∧
        (use.response.idToken.subject = req.userId ∧
          use.response.accessToken.subject = req.userId) ∧
        (use.response.idToken.tenantId = req.tenantId ∧
          use.response.accessToken.tenantId = req.tenantId) ∧
        use.response.scope = req.scope ∧ use.response.accessToken.scope = req.scope) ∧
    ∀ before after ticketHash use, ticketEvents es = before ++ .used ticketHash use :: after →
      ∃ userId tenantId expiresAt,
        .issued ticketHash ⟨userId, tenantId, use.service, expiresAt⟩ ∈ before ∧
        use.now < expiresAt ∧ use.validated = ⟨userId, tenantId⟩ := by
  obtain ⟨hcodes, htickets⟩ := hrun.runs
  refine ⟨fun code => hcodes.once _, fun ticket => htickets.once _,
    fun before after codeHash use heq => ?_, fun before after ticketHash use heq => ?_⟩
  · obtain ⟨⟨req, expiresAt⟩, hissued, hallows⟩ := hcodes.allowed heq
    exact ⟨req, expiresAt, hissued, hallows.unexpired, hallows.client, hallows.redirectUri,
      hallows.verified, hallows.subjects, hallows.tenants, hallows.scopes⟩
  · obtain ⟨⟨userId, tenantId, service, expiresAt⟩, hissued, hallows⟩ := htickets.allowed heq
    refine ⟨userId, tenantId, expiresAt, ?_, hallows.unexpired, hallows.validated⟩
    rw [hallows.service]
    exact hissued

/-- A ticket is issued, presented for another service, and validated. -/
theorem one_time_credentials_ticket :
    ∃ w es, Run demoService {} es w ∧
      (ticketEvents es).countP (OneTime.Event.uses "ST-t1") = 1 := by
  let issued : Credentials :=
    ⟨{}, (CasTicketStore.issue id ⟨0, "t1", "", "row1"⟩ .serviceTicket "ada" "acme" "https://app" 10
      {}).2.tickets⟩
  let validate (now : Int) (service : String) (w : Credentials) : Except Error ValidatedTicket × Store :=
    CasTicketStore.validateServiceTicket id now "ST-t1" service ⟨w.tickets, []⟩
  let refused : Credentials := ⟨{}, (validate 1 "https://other" issued).2.tickets⟩
  let validated : Credentials := ⟨{}, (validate 2 "https://app" refused).2.tickets⟩
  have hissued : Step demoService {} _ issued :=
    .issueTicket [] ⟨0, "t1", "", "row1"⟩ .serviceTicket "ada" "acme" "https://app" 10
      fun _ h => nomatch h
  have hrefused : Step demoService issued _ refused :=
    .validateServiceTicket [] 1 "ST-t1" "https://other"
  have hvalidated : Step demoService refused _ validated :=
    .validateServiceTicket [] 2 "ST-t1" "https://app"
  have hrun := ((Run.tail (.refl _) hissued).tail hrefused).tail hvalidated
  refine ⟨validated, _, hrun, Nat.le_antisymm ((one_time_credentials hrun).2.1 "ST-t1") ?_⟩
  decide +kernel

end Cas
end Dbal
