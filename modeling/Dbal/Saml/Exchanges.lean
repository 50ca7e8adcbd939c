/-
# Exchanges

The requests for a sign-on and the logins that complete them, in any order and whatever happens to
the calls of the client.  A request that is stored opens an exchange.  Every response belongs to the
exchange of the row that was consumed for it, and there is one at most; where the adapter enforces
the unique request id, no other exchange has the id.  It says in its destinations and in its
reference what the request asked for; its audience is the provider that asked exactly if the id of
that provider survives `xmlNewChild`.
-/

import Dbal.Saml.SamlService
import Dbal.Store.OneTime
import Mathlib.Data.List.Induction

namespace Dbal
namespace Saml

/-! ### Runs -/

/-- What a request opens: who asks, under which id, with which state, and until when. -/
structure Exchange where
  issuer : String
  requestId : String
  relayState : Option String
  expiresAt : Int
  deriving DecidableEq, Repr

/-- A response, the time, and the request it was asked for. -/
structure Answer where
  now : Int
  requestId : String
  issued : IssuedSamlResponse

/-- An exchange is known by the id of its row. -/
abbrev Event := OneTime.Event String Exchange Answer

/-- A request for a sign-on, or a login that completes one. -/
inductive Call where
  | sso (around : Surroundings) (faults : List (Option (Faulty.Fault Error)))
      (samlRequestParam : String) (relayState : Option String)
  | login (around : Surroundings) (faults : List (Option (Faulty.Fault Error)))
      (requestId username : String)

namespace SamlService

/-- The exchange that a request opens. -/
def exchange (service : SamlService) (around : Surroundings) (samlRequestParam : String)
    (relayState : Option String) : Option Exchange :=
  (service.authnRequest samlRequestParam).map fun (parsed, _) =>
    ⟨parsed.issuer, parsed.id, relayState, around.now + service.ttlSeconds⟩

/-- A call, with what is observed: the exchange that it opens, if a row is written, or the response
and the row it was taken from. -/
def step (service : SamlService) (rows : Rows) : Call → List Event × Rows
  | .sso around faults samlRequestParam relayState =>
      let s := (service.handleSsoRequest around samlRequestParam relayState ⟨rows, faults⟩).2
      let opened := (service.exchange around samlRequestParam relayState).toList.map
        (.issued around.rowId)
      (if s.state = rows then [] else opened, s.state)
  | .login around faults requestId username =>
      match service.issueResponse around requestId username ⟨rows, faults⟩ with
      | (.ok issued, s) =>
          ((service.backend.find rows requestId).toList.map fun row =>
            .used row.id ⟨around.now, requestId, issued⟩, s.state)
      | (.error _, s) => ([], s.state)

/-- A run from the empty store. -/
def run (service : SamlService) (calls : List Call) : List Event × Rows :=
  calls.foldl (fun (es, rows) call =>
    ((es ++ (service.step rows call).1), (service.step rows call).2)) ([], [])

theorem run_concat (service : SamlService) (calls : List Call) (call : Call) :
    service.run (calls ++ [call]) =
      ((service.run calls).1 ++ (service.step (service.run calls).2 call).1,
        (service.step (service.run calls).2 call).2) := by
  rw [run, List.foldl_append]
  rfl

end SamlService

/-! ### The rows as a book -/

/-- The exchange of a row. -/
def SamlAuthnRequestState.exchange (row : SamlAuthnRequestState) : Exchange :=
  ⟨row.spEntityId, row.requestId, row.relayState, row.expiresAt⟩

/-- The entry of a row. -/
def SamlAuthnRequestState.entry (row : SamlAuthnRequestState) : OneTime.Entry String Exchange :=
  ⟨row.id, row.exchange, row.consumedAt.isSome⟩

/-- The response is one that the exchange was opened for. -/
structure Exchange.Allows (service : SamlService) (exchange : Exchange) (answer : Answer) :
    Prop where
  requestId : answer.requestId = exchange.requestId
  unexpired : answer.now < exchange.expiresAt
  relayState : answer.issued.relayState = exchange.relayState
  addressed : ∀ sp, service.registry.get exchange.issuer = some sp →
    (AddressedTo answer.issued sp answer.requestId ↔
      service.lib.newChildText sp.entityId = sp.entityId)

/-- What was observed is in the rows, these are a book of exchanges, and they are of registered
providers. -/
structure Recorded (service : SamlService) (es : List Event) (rows : Rows) : Prop where
  book : OneTime.Run (Exchange.Allows service) [] es (rows.map (·.entry))
  opened : ∀ key exchange, .issued key exchange ∈ es →
    (key, exchange) ∈ rows.map fun row => (row.id, row.exchange)
  registered : ∀ provider ∈ rows.map fun row => (row.spEntityId, row.acsUrl),
    ∃ sp, service.registry.get provider.1 = some sp ∧ sp.acsUrl = provider.2
  requestIds : service.backend.enforcesUnique = true → (rows.map (·.requestId)).Nodup

/-- To consume a row changes nothing else. -/
theorem map_consumeAt {α : Type} {f : SamlAuthnRequestState → α} {now : Int}
    (hf : ∀ row, f { row with consumedAt := some now } = f row) (id : String) (rows : Rows) :
    (consumeAt id now rows).map f = rows.map f := by
  rw [consumeAt, List.map_map]
  refine List.map_congr_left fun row _ => ?_
  rw [Function.comp_apply]
  split_ifs
  · exact hf row
  · rfl

theorem consumeAt_spentTo (id : String) (now : Int) (rows : Rows) :
    List.Forall₂ OneTime.SpentTo (rows.map (·.entry)) ((consumeAt id now rows).map (·.entry)) := by
  refine OneTime.spentTo_map _ (fun row => ?_) rows
  split_ifs
  · exact .inr rfl
  · exact .inl rfl

namespace Recorded

variable {service : SamlService} {es : List Event} {rows : Rows}

theorem empty (service : SamlService) : Recorded service [] [] where
  book := .refl _
  opened := fun _ _ h => nomatch h
  registered := fun _ h => nomatch h
  requestIds := fun _ => List.nodup_nil

/-- Nothing is observed, and nothing changes. -/
theorem idle (h : Recorded service es rows) : Recorded service (es ++ []) rows := by
  rwa [List.append_nil]

/-- A row is consumed, with or without a response. -/
theorem consume (h : Recorded service es rows) {es' : List Event} {id : String} {now : Int}
    (hstep : OneTime.Step (Exchange.Allows service) (rows.map (·.entry)) es'
      ((consumeAt id now rows).map (·.entry)))
    (hes : ∀ key exchange, .issued key exchange ∉ es') :
    Recorded service (es ++ es') (consumeAt id now rows) where
  book := h.book.tail hstep
  opened := by
    intro key exchange hmem
    rw [map_consumeAt (f := fun row => (row.id, row.exchange)) fun _ => rfl]
    rcases List.mem_append.1 hmem with hmem | hmem
    · exact h.opened key exchange hmem
    · exact absurd hmem (hes key exchange)
  registered := by
    rw [map_consumeAt (f := fun row => (row.spEntityId, row.acsUrl)) fun _ => rfl]
    exact h.registered
  requestIds := by
    rw [map_consumeAt (f := fun row => row.requestId) fun _ => rfl]
    exact h.requestIds

/-- A row is written. -/
theorem create (h : Recorded service es rows) {row : SamlAuthnRequestState}
    (hid : ∀ other ∈ rows, other.id ≠ row.id)
    (hunique : service.backend.enforcesUnique = true →
      ∀ other ∈ rows, other.requestId ≠ row.requestId)
    {sp : ServiceProvider} (hget : service.registry.get row.spEntityId = some sp)
    (hacs : sp.acsUrl = row.acsUrl) (hlive : row.consumedAt = none) :
    Recorded service (es ++ [.issued row.id row.exchange]) (rows ++ [row]) where
  book := by
    have hentry : row.entry = ⟨row.id, row.exchange, false⟩ := by
      rw [SamlAuthnRequestState.entry, hlive]
      rfl
    rw [List.map_append, List.map_singleton, hentry]
    refine h.book.tail (.issue _ _ fun e he => ?_)
    obtain ⟨other, hother, rfl⟩ := List.mem_map.1 he
    exact hid other hother
  opened := by
    intro key exchange hmem
    rw [List.map_append]
    rcases List.mem_append.1 hmem with hmem | hmem
    · exact List.mem_append_left _ (h.opened key exchange hmem)
    · obtain ⟨rfl, rfl⟩ := OneTime.Event.issued.inj (List.mem_singleton.1 hmem)
      exact List.mem_append_right _ (List.mem_singleton_self _)
  registered := by
    intro provider hmem
    rw [List.map_append] at hmem
    rcases List.mem_append.1 hmem with hmem | hmem
    · exact h.registered provider hmem
    · obtain rfl := List.mem_singleton.1 hmem
      exact ⟨sp, hget, hacs⟩
  requestIds := by
    intro henforces
    rw [List.map_append]
    refine List.Nodup.append (h.requestIds henforces) (List.nodup_singleton _) fun id hid hid' => ?_
    obtain ⟨other, hother, rfl⟩ := List.mem_map.1 hid
    exact hunique henforces other hother (List.mem_singleton.1 hid')

/-- A request for a sign-on. -/
theorem sso (h : Recorded service es rows) (around : Surroundings)
    (faults : List (Option (Faulty.Fault Error))) (samlRequestParam : String)
    (relayState : Option String) :
    Recorded service (es ++ (service.step rows (.sso around faults samlRequestParam relayState)).1)
      (service.step rows (.sso around faults samlRequestParam relayState)).2 := by
  dsimp only [SamlService.step]
  obtain hsame | ⟨parsed, sp, hrequest, hid, hunique, hstate⟩ :=
    service.handleSsoRequest_cases around samlRequestParam relayState ⟨rows, faults⟩
  · rw [hsame, if_pos rfl]
    exact h.idle
  · have hget := SamlService.get_of_authnRequest hrequest
    have hentity := SpRegistry.entityId_of_get hget
    have hexchange : service.exchange around samlRequestParam relayState =
        some (service.rowFor around relayState parsed sp).exchange := by
      simp [SamlService.exchange, hrequest, SamlAuthnRequestState.exchange, SamlService.rowFor,
        SamlRequestStore.newRow, hentity]
    rw [hstate, if_neg (by simp), hexchange]
    rw [← hentity] at hget
    have hlive : (service.rowFor around relayState parsed sp).consumedAt = none := rfl
    exact h.create hid hunique hget rfl hlive

/-- A login. -/
theorem login (h : Recorded service es rows) (around : Surroundings)
    (faults : List (Option (Faulty.Fault Error))) (requestId username : String) :
    Recorded service (es ++ (service.step rows (.login around faults requestId username)).1)
      (service.step rows (.login around faults requestId username)).2 := by
  obtain ⟨⟨e, herror⟩, hstate⟩ | ⟨row, issued, hissues⟩ :=
    service.issueResponse_cases around requestId username ⟨rows, faults⟩
  · dsimp only [SamlService.step]
    rcases hrun : service.issueResponse around requestId username ⟨rows, faults⟩ with ⟨answer, s⟩
    rw [hrun] at herror hstate
    obtain rfl : answer = .error e := herror
    dsimp only at hstate ⊢
    rcases hstate with hstate | ⟨id, hstate⟩ <;> rw [hstate]
    · exact h.idle
    · exact h.consume (.spend (consumeAt_spentTo id around.now rows)) fun _ _ hmem => nomatch hmem
  · obtain ⟨faults', hrun⟩ := hissues.run
    have hfound : service.backend.find rows requestId = some row := hissues.takes.found
    obtain ⟨hmem, hid⟩ := Backend.find_mem hfound
    dsimp only [SamlService.step]
    rw [hrun, hfound]
    refine h.consume (.use (List.mem_map_of_mem hmem) ?_ _ ?_ (consumeAt_spentTo row.id around.now rows) ?_)
      fun _ _ hmem => nomatch List.mem_singleton.1 hmem
    · exact Option.isSome_eq_false_iff.2 (by simp [hissues.takes.live])
    · refine ⟨hid.symm, hissues.takes.unexpired, hissues.relayState, fun sp hget => ?_⟩
      obtain ⟨sp', hget', hacs⟩ := h.registered _ (List.mem_map_of_mem hmem)
      obtain rfl := Option.some.inj (hget.symm.trans hget')
      exact hissues.addressedTo_iff (SpRegistry.entityId_of_get hget).symm hacs.symm
    · exact ⟨_, List.mem_map_of_mem (List.mem_map.2 ⟨row, hmem, if_pos rfl⟩), rfl, rfl⟩

/-- **What is observed in a run is in the rows.** -/
theorem of_run (service : SamlService) (calls : List Call) :
    Recorded service (service.run calls).1 (service.run calls).2 := by
  induction calls using List.reverseRecOn with
  | nil => exact empty service
  | append_singleton calls call ih =>
      rw [SamlService.run_concat]
      cases call with
      | sso around faults samlRequestParam relayState =>
          exact ih.sso around faults samlRequestParam relayState
      | login around faults requestId username => exact ih.login around faults requestId username

/-- Two exchanges with one row are one. -/
theorem opened_unique (h : Recorded service es rows) {key : String} {exchange other : Exchange}
    (hexchange : .issued key exchange ∈ es) (hother : .issued key other ∈ es) :
    other = exchange := by
  have hkeys := (OneTime.Inv.empty.run h.book).keys
  rw [List.map_map] at hkeys
  obtain ⟨row, hrow, heq⟩ := List.mem_map.1 (h.opened key exchange hexchange)
  obtain ⟨row', hrow', heq'⟩ := List.mem_map.1 (h.opened key other hother)
  obtain ⟨rfl, rfl⟩ := Prod.mk.inj heq
  obtain ⟨hid, rfl⟩ := Prod.mk.inj heq'
  rw [List.inj_on_of_nodup_map hkeys hrow' hrow hid]

/-- Where the request ids are unique, two exchanges with one request id are one. -/
theorem requestId_unique (h : Recorded service es rows)
    (henforces : service.backend.enforcesUnique = true) {key key' : String}
    {exchange other : Exchange} (hexchange : .issued key exchange ∈ es)
    (hother : .issued key' other ∈ es) (hid : other.requestId = exchange.requestId) :
    key' = key := by
  obtain ⟨row, hrow, heq⟩ := List.mem_map.1 (h.opened key exchange hexchange)
  obtain ⟨row', hrow', heq'⟩ := List.mem_map.1 (h.opened key' other hother)
  obtain ⟨rfl, rfl⟩ := Prod.mk.inj heq
  obtain ⟨rfl, rfl⟩ := Prod.mk.inj heq'
  rw [List.inj_on_of_nodup_map (h.requestIds henforces) hrow' hrow hid]

end Recorded

/-! ### The result -/

/-- The exchange that a response belongs to: it was opened before, it has the request id, and no
other one has its row, nor, where that is enforced, its request id. -/
structure Exchange.Of (service : SamlService) (es before : List Event) (key : String)
    (answer : Answer) (exchange : Exchange) : Prop where
  opened : .issued key exchange ∈ before
  requestId : exchange.requestId = answer.requestId
  unexpired : answer.now < exchange.expiresAt
  row : ∀ other, .issued key other ∈ es → other = exchange
  alone : service.backend.enforcesUnique = true → ∀ key' other, .issued key' other ∈ es →
    other.requestId = answer.requestId → key' = key

/-- A request is answered once at most, and every response is for the provider whose request opened
the exchange. -/
structure Paired (service : SamlService) (es : List Event) : Prop where
  once : ∀ key, es.countP (OneTime.Event.uses key) ≤ 1
  addressed : ∀ before after key answer, es = before ++ .used key answer :: after →
    ∃ (exchange : Exchange) (sp : ServiceProvider), exchange.Of service es before key answer ∧
      service.registry.get exchange.issuer = some sp ∧
      AddressedTo answer.issued sp answer.requestId

/-- The exchange of a response. -/
theorem exists_exchange (service : SamlService) (calls : List Call) {before after : List Event}
    {key : String} {answer : Answer}
    (heq : (service.run calls).1 = before ++ .used key answer :: after) :
    ∃ (exchange : Exchange) (sp : ServiceProvider), exchange.Of service (service.run calls).1 before key answer ∧
      service.registry.get exchange.issuer = some sp ∧
      (AddressedTo answer.issued sp answer.requestId ↔
        service.lib.newChildText sp.entityId = sp.entityId) := by
  have hrecorded := Recorded.of_run service calls
  obtain ⟨exchange, hopened, hallows⟩ := hrecorded.book.allowed heq
  have hmem : .issued key exchange ∈ (service.run calls).1 := by
    rw [heq]
    exact List.mem_append_left _ hopened
  obtain ⟨row, hrow, hexchange⟩ := List.mem_map.1 (hrecorded.opened key exchange hmem)
  obtain ⟨-, rfl⟩ := Prod.mk.inj hexchange
  obtain ⟨sp, hget, -⟩ := hrecorded.registered _ (List.mem_map_of_mem hrow)
  refine ⟨row.exchange, sp, ⟨hopened, hallows.requestId.symm, hallows.unexpired,
    fun other hother => hrecorded.opened_unique hmem hother,
    fun henforces key' other hother hid => ?_⟩, hget, hallows.addressed sp hget⟩
  exact hrecorded.requestId_unique henforces hmem hother (hid.trans hallows.requestId)

/-- A provider that gets its response has no `&` in its id. -/
theorem Paired.plain {service : SamlService} (hlib : service.lib.ReadsReferences)
    {calls : List Call} (h : Paired service (service.run calls).1) {key : String}
    {answer : Answer} {exchange : Exchange} (hused : .used key answer ∈ (service.run calls).1)
    (hissued : .issued key exchange ∈ (service.run calls).1) : '&' ∉ exchange.issuer.toList := by
  obtain ⟨before, after, heq⟩ := List.append_of_mem hused
  obtain ⟨exchange', sp, hof, hget, haddressed⟩ := h.addressed before after key answer heq
  obtain ⟨exchange'', sp', hof', hget', hiff⟩ := exists_exchange service calls heq
  obtain rfl := hof.row exchange hissued
  obtain rfl := hof'.row exchange hissued
  obtain rfl := Option.some.inj (hget.symm.trans hget')
  rw [← SpRegistry.entityId_of_get hget]
  exact (hlib sp.entityId).1 (hiff.1 haddressed)

/-- **When every response goes to the provider that asked.**  In every run, whatever the request
ids: exactly if no response is for a provider with an `&` in its id. -/
theorem paired_iff (service : SamlService) (hlib : service.lib.ReadsReferences)
    (calls : List Call) :
    Paired service (service.run calls).1 ↔
      ∀ key answer exchange, .used key answer ∈ (service.run calls).1 →
        .issued key exchange ∈ (service.run calls).1 → '&' ∉ exchange.issuer.toList := by
  constructor
  · intro h key answer exchange hused hissued
    exact h.plain hlib hused hissued
  · intro h
    refine ⟨(Recorded.of_run service calls).book.once, fun before after key answer heq => ?_⟩
    obtain ⟨exchange, sp, hof, hget, hiff⟩ := exists_exchange service calls heq
    have hplain : '&' ∉ exchange.issuer.toList := by
      refine h key answer exchange ?_ ?_ <;> rw [heq]
      · exact List.mem_append_right _ List.mem_cons_self
      · exact List.mem_append_left _ hof.opened
    rw [← SpRegistry.entityId_of_get hget] at hplain
    exact ⟨exchange, sp, hof, hget, hiff.2 ((hlib sp.entityId).2 hplain)⟩

/-- libxml2, for contents without a reference or with one that does not end: that one is an error,
and the element stays empty. -/
def demoLib : LibXml where
  newChildText content := if '&' ∈ content.toList then "" else content
  signElement _ := some []

theorem demoLib_readsReferences : demoLib.ReadsReferences := by
  intro content
  show (if '&' ∈ content.toList then "" else content) = content ↔ '&' ∉ content.toList
  split_ifs with hmem
  · refine iff_of_false (fun heq => ?_) (not_not.2 hmem)
    rw [← heq] at hmem
    exact absurd hmem (by decide)
  · exact iff_of_true rfl hmem

/-- A request with the id `_r1`. -/
def demoRequest (issuer : String) : String :=
  "<samlp:AuthnRequest xmlns:samlp=\"urn:oasis:names:tc:SAML:2.0:protocol\" ID=\"_r1\">" ++
    "<Issuer xmlns=\"urn:oasis:names:tc:SAML:2.0:assertion\">" ++ issuer ++
    "</Issuer></samlp:AuthnRequest>"

/-- The `SAMLRequest` of a provider without an `&` in its id. -/
def appRequest : String :=
  "fY4xCsMwDAC/EvyAuO0oHEOgS6BdmgcUEQQJ2LJqyZDnF5ox0Pm444JiTgJjs5Vf9Gmk1u05scIPDK5VhoK6KTBm" ++
    "UrAF5vH5gFt/AanFylKS66b74N716mKYVBvVo/HfRlWqthV2cTUTBe9RpKcdsyQK/ijF4M+L8Qs="

/-- That of one with an `&`. -/
def spRequest : String :=
  "fY7LCsIwEEV/pWThsrFdjkmk4KagG/0AGctAC3mZmUA/30eXgsvL4Z57DWPwGYYqc7zSsxJLswYfGb7AqloiJOSF" ++
    "IWIgBpngNlzO0Ld7yCVJmpJXzXiy6l465czIXKlsjv9tZKYiS4rKzSKZQWvOLa0Ysif9mT+i7XbveHjY3ujN7Iz+vexe"

/-- The two providers, over an adapter that enforces unique fields. -/
def demoService : SamlService where
  registry := (SpRegistry.empty.add ⟨"https://app.example", "app", "https://app.example/acs"⟩).add
    ⟨"https://sp.example/saml?a=1&b=2", "sp", "https://sp.example/acs"⟩
  issuer := "https://idp.example"
  backend := ⟨true, "UNIQUE constraint failed", id, fun rows => .refl rows⟩
  lib := demoLib
  decodeRedirectBinding param :=
    if param = appRequest then .ok (demoRequest "https://app.example")
    else if param = spRequest then .ok (demoRequest "https://sp.example/saml?a=1&amp;b=2")
    else .error "SAMLRequest inflate failed"
  parseAuthnRequest xml :=
    if xml = demoRequest "https://app.example" then .ok ⟨"_r1", "https://app.example"⟩
    else if xml = demoRequest "https://sp.example/saml?a=1&amp;b=2" then
      .ok ⟨"_r1", "https://sp.example/saml?a=1&b=2"⟩
    else .error "malformed XML"

/-- The surroundings of a call ten seconds into the year 2026. -/
def demoAround (rowId : String) : Surroundings where
  now := 1767225610
  rowId
  responseId := "t1"
  assertionId := "t2"
  sessionIndex := "t3"
  iso8601Utc t := if t = 1767225610 then "2026-01-01T00:00:10Z" else "2026-01-01T00:05:10Z"

/-- An event without the response. -/
def seen : Event → String × Option Exchange
  | .issued key exchange => (key, some exchange)
  | .used key _ => (key, none)

/-- Both providers ask under one id, and a user logs in: the first one gets the response. -/
theorem paired_demo : Paired demoService (demoService.run
    [.sso (demoAround "row1") [] appRequest none, .sso (demoAround "row2") [] spRequest none,
      .login (demoAround "row3") [] "_r1" "ada"]).1 := by
  refine (paired_iff demoService demoLib_readsReferences _).2 fun key _ exchange _ hissued => ?_
  have hseen := List.mem_map_of_mem (f := seen) hissued
  have hrun : ((demoService.run
      [.sso (demoAround "row1") [] appRequest none, .sso (demoAround "row2") [] spRequest none,
        .login (demoAround "row3") [] "_r1" "ada"]).1.map seen) =
      [("row1", some ⟨"https://app.example", "_r1", none, 1767225910⟩), ("row1", none)] := by
    decide +kernel
  rw [hrun] at hseen
  obtain ⟨-, rfl⟩ : key = "row1" ∧ exchange = _ := by simpa [seen] using hseen
  decide

/-- The provider with an `&` in its id asks, and a user logs in. -/
theorem not_paired_demo : ¬ Paired demoService (demoService.run
    [.sso (demoAround "row1") [] spRequest none, .login (demoAround "row2") [] "_r1" "ada"]).1 := by
  have hrun : ((demoService.run
      [.sso (demoAround "row1") [] spRequest none,
        .login (demoAround "row2") [] "_r1" "ada"]).1.map seen) =
      [("row1", some ⟨"https://sp.example/saml?a=1&b=2", "_r1", none, 1767225910⟩),
        ("row1", none)] := by decide +kernel
  have hmem : ∀ e ∈ [("row1", some (Exchange.mk "https://sp.example/saml?a=1&b=2" "_r1" none
      1767225910)), ("row1", none)], ∃ event ∈ (demoService.run
      [.sso (demoAround "row1") [] spRequest none, .login (demoAround "row2") [] "_r1" "ada"]).1,
      seen event = e := by
    intro e he
    rw [← hrun] at he
    exact List.mem_map.1 he
  intro h
  obtain ⟨opened, hopened, heq⟩ := hmem _ List.mem_cons_self
  obtain ⟨answered, hanswered, heq'⟩ := hmem _ (List.mem_cons_of_mem _ List.mem_cons_self)
  rcases opened with ⟨key, exchange⟩ | ⟨key, answer⟩
  · rcases answered with ⟨key', exchange'⟩ | ⟨key', answer⟩
    · exact absurd (congrArg Prod.snd heq') (by simp [seen])
    · obtain ⟨rfl, hexchange⟩ := Prod.mk.inj heq
      obtain ⟨rfl, -⟩ := Prod.mk.inj heq'
      obtain rfl := Option.some.inj hexchange
      exact h.plain demoLib_readsReferences hanswered hopened (by decide)
  · exact absurd (congrArg Prod.snd heq) (by simp [seen])

end Saml
end Dbal
