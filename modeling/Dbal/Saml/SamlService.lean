/-
# The identity provider

`src/saml/saml_service.cpp` with what it is made of: the registry of service providers
(`metadata/sp_registry.cpp`), the pending requests and `assertion/response_builder.cpp`.  A response
is the tree that the builder makes, before it is written out and encoded.

Two things of libxml2 matter.  The value of an attribute is taken as it is, but the content that
`xmlNewChild` is given is read as XML: it may hold references, and its special characters are to be
escaped by the caller.
-/

import Dbal.Saml.RequestStore
import Mathlib.Data.List.Basic

namespace Dbal
namespace Saml

/-! ### Service providers -/

/-- `ServiceProvider`. -/
structure ServiceProvider where
  entityId : String
  name : String
  acsUrl : String
  deriving DecidableEq, Repr

/-- `SpRegistry`: a provider is found under its own id. -/
structure SpRegistry where
  sps : Std.TreeMap String ServiceProvider
  keyed : ∀ (entityId : String) (sp : ServiceProvider),
    sps[entityId]? = some sp → sp.entityId = entityId

theorem keyed_empty (entityId : String) (sp : ServiceProvider)
    (h : ({} : Std.TreeMap String ServiceProvider)[entityId]? = some sp) : sp.entityId = entityId := by
  simp at h

namespace SpRegistry

/-- The registry without a provider. -/
def empty : SpRegistry := ⟨{}, keyed_empty⟩

/-- `registry.sps_[sp.entity_id] = sp`. -/
def add (registry : SpRegistry) (sp : ServiceProvider) : SpRegistry where
  sps := registry.sps.insert sp.entityId sp
  keyed entityId found h := by
    rw [Std.TreeMap.getElem?_insert] at h
    split at h
    · next heq =>
        obtain rfl := Option.some.inj h
        exact Std.LawfulEqCmp.eq_of_compare heq
    · exact registry.keyed entityId found h

/-- `load`, of the providers in the file. -/
def load (providers : List ServiceProvider) : Except String SpRegistry :=
  providers.foldlM (fun registry sp =>
    if sp.acsUrl = "" then .error ("SP '" ++ sp.entityId ++ "': acs_url must not be empty")
    else .ok (registry.add sp)) empty

def get (registry : SpRegistry) (entityId : String) : Option ServiceProvider :=
  registry.sps[entityId]?

theorem entityId_of_get {registry : SpRegistry} {entityId : String} {sp : ServiceProvider}
    (h : registry.get entityId = some sp) : sp.entityId = entityId :=
  registry.keyed entityId sp h

end SpRegistry

/-! ### The response -/

/-- An element that is built: its name, attributes, text and children. -/
inductive Built where
  | element (name : String) (props : List (String × String)) (text : String) (children : List Built)

namespace Built

def name : Built → String
  | .element name _ _ _ => name

def text : Built → String
  | .element _ _ text _ => text

/-- The value of an attribute. -/
def prop : Built → String → Option String
  | .element _ props _ _, key => props.lookup key

/-- The first child with a name. -/
def child : Built → String → Option Built
  | .element _ _ _ children, name => children.find? fun e => e.name = name

/-- The element to which a path of names leads. -/
def path : List String → Built → Option Built
  | [], e => some e
  | name :: names, e => (e.child name).bind (path names)

end Built

/-- What the builder uses of libxml2 and xmlsec: the text of an element made by `xmlNewChild` with
this content, and what the signature of the assertion with this id holds, if signing does not
throw. -/
structure LibXml where
  newChildText : String → String
  signElement : String → Option (List Built)

/-- The content of `xmlNewChild` stays as it is exactly if it has no reference in it. -/
def LibXml.ReadsReferences (lib : LibXml) : Prop :=
  ∀ content, lib.newChildText content = content ↔ '&' ∉ content.toList

/-- `addChild`, of an element that gets nothing but its content. -/
def LibXml.addChild (lib : LibXml) (name content : String) : Built :=
  .element name [] (lib.newChildText content) []

/-- `ResponseParams`. -/
structure ResponseParams where
  issuer : String
  spEntityId : String
  acsUrl : String
  inResponseTo : String
  subjectUsername : String
  sessionIndex : String
  issueInstant : Int
  validitySeconds : Int

/-- What an operation takes from its surroundings: the time, generated tokens, and how a time is
written. -/
structure Surroundings where
  now : Int
  rowId : String
  responseId : String
  assertionId : String
  sessionIndex : String
  iso8601Utc : Int → String

/-- The assertion without its signature: the issuer, and what comes after it. -/
def assertionParts (lib : LibXml) (around : Surroundings) (params : ResponseParams) :
    Built × List Built :=
  let instant := around.iso8601Utc params.issueInstant
  let notOnOrAfter := around.iso8601Utc (params.issueInstant + params.validitySeconds)
  (lib.addChild "saml:Issuer" params.issuer,
    [.element "saml:Subject" [] ""
      [.element "saml:NameID"
        [("Format", "urn:oasis:names:tc:SAML:2.0:nameid-format:unspecified")]
        (lib.newChildText params.subjectUsername) [],
       .element "saml:SubjectConfirmation" [("Method", "urn:oasis:names:tc:SAML:2.0:cm:bearer")] ""
        [.element "saml:SubjectConfirmationData"
          [("Recipient", params.acsUrl), ("NotOnOrAfter", notOnOrAfter),
            ("InResponseTo", params.inResponseTo)] "" []]],
     .element "saml:Conditions" [("NotBefore", instant), ("NotOnOrAfter", notOnOrAfter)] ""
      [.element "saml:AudienceRestriction" [] "" [lib.addChild "saml:Audience" params.spEntityId]],
     .element "saml:AuthnStatement"
      [("AuthnInstant", instant), ("SessionIndex", params.sessionIndex)] ""
      [.element "saml:AuthnContext" [] ""
        [lib.addChild "saml:AuthnContextClassRef"
          "urn:oasis:names:tc:SAML:2.0:ac:classes:PasswordProtectedTransport"]]])

/-- `buildSignedSamlResponse`; there is no response if signing throws. -/
def buildSignedSamlResponse (lib : LibXml) (around : Surroundings) (params : ResponseParams) :
    Option Built :=
  let responseId := "_" ++ around.responseId
  let assertionId := "_" ++ around.assertionId
  let instant := around.iso8601Utc params.issueInstant
  match lib.signElement assertionId with
  | none => none
  | some signature =>
      let (issuer, rest) := assertionParts lib around params
      some (.element "samlp:Response"
        [("ID", responseId), ("Version", "2.0"), ("IssueInstant", instant),
          ("Destination", params.acsUrl), ("InResponseTo", params.inResponseTo)] ""
        [lib.addChild "saml:Issuer" params.issuer,
         .element "samlp:Status" [] ""
          [.element "samlp:StatusCode"
            [("Value", "urn:oasis:names:tc:SAML:2.0:status:Success")] "" []],
         .element "saml:Assertion"
          [("ID", assertionId), ("Version", "2.0"), ("IssueInstant", instant)] ""
          (issuer :: .element "ds:Signature" [] "" signature :: rest)])

/-! ### The service -/

/-- `ParsedAuthnRequest`. -/
structure ParsedAuthnRequest where
  id : String
  issuer : String
  deriving DecidableEq, Repr

/-- `IssuedSamlResponse`. -/
structure IssuedSamlResponse where
  acsUrl : String
  samlResponse : Built
  relayState : Option String

/-- `SamlService`, with the adapter behind its client and the libraries below the two bindings. -/
structure SamlService where
  registry : SpRegistry
  issuer : String
  ttlSeconds : Int := 300
  backend : Backend
  lib : LibXml
  decodeRedirectBinding : String → Except String String
  parseAuthnRequest : String → Except String ParsedAuthnRequest

namespace SamlService

/-- `handleSsoRequest`. -/
def handleSsoRequest (service : SamlService) (around : Surroundings) (samlRequestParam : String)
    (relayState : Option String) : Act Error Store String :=
  match service.decodeRedirectBinding samlRequestParam with
  | .error what => .throw (.validationError ("malformed SAMLRequest: " ++ what))
  | .ok xml =>
      match service.parseAuthnRequest xml with
      | .error parseError => .throw (.validationError ("invalid AuthnRequest: " ++ parseError))
      | .ok parsed =>
          match service.registry.get parsed.issuer with
          | none => .throw (.validationError ("unknown service provider: " ++ parsed.issuer))
          | some sp => do
              SamlRequestStore.store service.backend service.ttlSeconds around.now around.rowId
                { requestId := parsed.id, spEntityId := sp.entityId, acsUrl := sp.acsUrl
                  relayState }
              return parsed.id

/-- The parameters of the response to a pending request. -/
def responseParams (service : SamlService) (around : Surroundings) (pending : PendingSamlRequest)
    (username : String) : ResponseParams where
  issuer := service.issuer
  spEntityId := pending.spEntityId
  acsUrl := pending.acsUrl
  inResponseTo := pending.requestId
  subjectUsername := username
  sessionIndex := around.sessionIndex
  issueInstant := around.now
  validitySeconds := 300

/-- `issueResponse`. -/
def issueResponse (service : SamlService) (around : Surroundings) (requestId username : String) :
    Act Error Store IssuedSamlResponse := do
  let pending ← SamlRequestStore.take service.backend around.now requestId
  match buildSignedSamlResponse service.lib around
      (service.responseParams around pending username) with
  | none => .throw (.internal "failed to build SAML response")
  | some samlResponse =>
      return { acsUrl := pending.acsUrl, samlResponse, relayState := pending.relayState }

end SamlService

/-! ### To whom a response goes -/

/-- The response is for this provider and answers this request: that is where it is posted, what the
two elements with a destination say, and who the audience is. -/
structure AddressedTo (issued : IssuedSamlResponse) (sp : ServiceProvider) (requestId : String) :
    Prop where
  posted : issued.acsUrl = sp.acsUrl
  destination : issued.samlResponse.prop "Destination" = some sp.acsUrl
  inResponseTo : issued.samlResponse.prop "InResponseTo" = some requestId
  recipient : (issued.samlResponse.path ["saml:Assertion", "saml:Subject",
      "saml:SubjectConfirmation", "saml:SubjectConfirmationData"]).bind (·.prop "Recipient") =
    some sp.acsUrl
  confirmed : (issued.samlResponse.path ["saml:Assertion", "saml:Subject",
      "saml:SubjectConfirmation", "saml:SubjectConfirmationData"]).bind (·.prop "InResponseTo") =
    some requestId
  audience : (issued.samlResponse.path ["saml:Assertion", "saml:Conditions",
    "saml:AudienceRestriction", "saml:Audience"]).map Built.text = some sp.entityId

/-- **A response goes to the provider of the pending request**, but for its audience if that is not
taken as it is. -/
theorem addressedTo_iff {lib : LibXml} {around : Surroundings} {params : ResponseParams}
    {samlResponse : Built} (hbuild : buildSignedSamlResponse lib around params = some samlResponse)
    {sp : ServiceProvider} (hentity : params.spEntityId = sp.entityId)
    (hacs : params.acsUrl = sp.acsUrl) (relayState : Option String) :
    AddressedTo ⟨params.acsUrl, samlResponse, relayState⟩ sp params.inResponseTo ↔
      lib.newChildText sp.entityId = sp.entityId := by
  dsimp only [buildSignedSamlResponse] at hbuild
  rcases hsign : lib.signElement ("_" ++ around.assertionId) with _ | signature
  · rw [hsign] at hbuild
    cases hbuild
  rw [hsign] at hbuild
  obtain rfl := Option.some.inj hbuild
  constructor
  · intro h
    have haudience := h.audience
    simpa [assertionParts, Built.path, Built.child, Built.name, Built.text, LibXml.addChild, hentity]
      using haudience
  · intro htext
    constructor <;>
      simp [assertionParts, Built.path, Built.child, Built.name, Built.text, Built.prop,
        LibXml.addChild, List.lookup_cons, hentity, hacs, htext]

/-! ### What the operations do -/

namespace SamlService

/-- The request in a parameter with its provider, if there is one and it is registered. -/
def authnRequest (service : SamlService) (samlRequestParam : String) :
    Option (ParsedAuthnRequest × ServiceProvider) := do
  let xml ← (service.decodeRedirectBinding samlRequestParam).toOption
  let parsed ← (service.parseAuthnRequest xml).toOption
  let sp ← service.registry.get parsed.issuer
  return (parsed, sp)

theorem get_of_authnRequest {service : SamlService} {samlRequestParam : String}
    {parsed : ParsedAuthnRequest} {sp : ServiceProvider}
    (h : service.authnRequest samlRequestParam = some (parsed, sp)) :
    service.registry.get parsed.issuer = some sp := by
  unfold authnRequest at h
  simp only [Option.bind_eq_bind, Option.bind_eq_some_iff] at h
  obtain ⟨xml, -, other, -, sp', hget, h⟩ := h
  obtain ⟨rfl, rfl⟩ := Prod.mk.inj (Option.some.inj h)
  exact hget

/-- The row that is written for a request. -/
def rowFor (service : SamlService) (around : Surroundings) (relayState : Option String)
    (parsed : ParsedAuthnRequest) (sp : ServiceProvider) : SamlAuthnRequestState :=
  SamlRequestStore.newRow service.ttlSeconds around.now around.rowId
    ⟨parsed.id, sp.entityId, sp.acsUrl, relayState⟩

/-- A request of a registered provider is stored, if nothing stands against it; nothing else is. -/
theorem handleSsoRequest_cases (service : SamlService) (around : Surroundings)
    (samlRequestParam : String) (relayState : Option String) (s : Store) :
    (service.handleSsoRequest around samlRequestParam relayState s).2.state = s.state ∨
      ∃ parsed sp, service.authnRequest samlRequestParam = some (parsed, sp) ∧
        (∀ row ∈ s.state, row.id ≠ around.rowId) ∧
        (service.backend.enforcesUnique = true → ∀ row ∈ s.state, row.requestId ≠ parsed.id) ∧
        (service.handleSsoRequest around samlRequestParam relayState s).2.state =
          s.state ++ [service.rowFor around relayState parsed sp] := by
  unfold handleSsoRequest
  rcases hxml : service.decodeRedirectBinding samlRequestParam with what | xml
  · exact .inl rfl
  dsimp only
  rcases hparsed : service.parseAuthnRequest xml with parseError | parsed
  · exact .inl rfl
  dsimp only
  rcases hget : service.registry.get parsed.issuer with _ | sp
  · exact .inl rfl
  have hrequest : service.authnRequest samlRequestParam = some (parsed, sp) := by
    simp [authnRequest, hxml, hparsed, hget, Except.toOption]
  dsimp only
  rw [Act.bind_pure_snd]
  obtain hsame | ⟨hid, hunique, hstate⟩ := store_cases service.backend service.ttlSeconds around.now
    around.rowId ⟨parsed.id, sp.entityId, sp.acsUrl, relayState⟩ s
  · exact .inl hsame
  · exact .inr ⟨parsed, sp, hrequest, hid, hunique, hstate⟩

/-- What is behind a response. -/
structure Issues (service : SamlService) (around : Surroundings) (requestId username : String)
    (s : Store) (row : SamlAuthnRequestState) (issued : IssuedSamlResponse) : Prop where
  takes : Takes service.backend around.now requestId s row
  acsUrl : issued.acsUrl = row.acsUrl
  built : buildSignedSamlResponse service.lib around (service.responseParams around
    ⟨requestId, row.spEntityId, row.acsUrl, row.relayState⟩ username) = some issued.samlResponse
  relayState : issued.relayState = row.relayState
  run : ∃ faults, service.issueResponse around requestId username s =
    (.ok issued, ⟨consumeAt row.id around.now s.state, faults⟩)

/-- **A response is issued, or not**; in the second case the request may be consumed all the
same. -/
theorem issueResponse_cases (service : SamlService) (around : Surroundings)
    (requestId username : String) (s : Store) :
    ((∃ e, (service.issueResponse around requestId username s).1 = .error e) ∧
      ((service.issueResponse around requestId username s).2.state = s.state ∨
        ∃ id, (service.issueResponse around requestId username s).2.state =
          consumeAt id around.now s.state)) ∨
    ∃ row issued, Issues service around requestId username s row issued := by
  obtain ⟨⟨e, herror⟩, hstate⟩ | ⟨row, htakes⟩ :=
    take_cases service.backend around.now requestId s
  · left
    rcases htake : SamlRequestStore.take service.backend around.now requestId s with ⟨answer, s'⟩
    rw [htake] at herror hstate
    obtain rfl : answer = .error e := herror
    rw [issueResponse, Act.bind_error htake]
    exact ⟨⟨e, rfl⟩, hstate⟩
  · obtain ⟨faults, htake⟩ := htakes.run
    have hrun : service.issueResponse around requestId username s = _ := Act.bind_ok htake _
    dsimp only at hrun
    rcases hbuild : buildSignedSamlResponse service.lib around (service.responseParams around
      ⟨requestId, row.spEntityId, row.acsUrl, row.relayState⟩ username) with _ | samlResponse
    · rw [hbuild] at hrun
      exact .inl (hrun ▸ ⟨⟨_, rfl⟩, .inr ⟨row.id, rfl⟩⟩)
    · rw [hbuild] at hrun
      exact .inr ⟨row, ⟨row.acsUrl, samlResponse, row.relayState⟩, htakes, rfl, hbuild, rfl, faults,
        hrun⟩

/-- The provider of the pending request gets the response. -/
theorem Issues.addressedTo_iff {service : SamlService} {around : Surroundings}
    {requestId username : String} {s : Store} {row : SamlAuthnRequestState}
    {issued : IssuedSamlResponse} (h : Issues service around requestId username s row issued)
    {sp : ServiceProvider} (hentity : row.spEntityId = sp.entityId) (hacs : row.acsUrl = sp.acsUrl) :
    AddressedTo issued sp requestId ↔ service.lib.newChildText sp.entityId = sp.entityId := by
  obtain ⟨acsUrl, samlResponse, relayState⟩ := issued
  obtain rfl : acsUrl = row.acsUrl := h.acsUrl
  exact Saml.addressedTo_iff h.built hentity hacs relayState

end SamlService
end Saml
end Dbal
