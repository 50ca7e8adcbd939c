/-
# What the redirect carries back

`validateAuthorize` and `buildAuthorizeRedirect` of `src/oidc/oidc_service.cpp`, with
`isValidRedirectUri` and `isScopeAllowed` of `src/oidc/clients/oauth_client_config.cpp` and the
format of a challenge of `src/oidc/pkce/pkce.hpp`.

The code and the state are put behind the redirect URI as they are.  The client reads back what was
meant exactly when the URI has no fragment, and neither the code nor the state has a separator, a
fragment or an escape in it (`redirect_reads_back_iff`).  That no less is enough follows from the
first parameter behind the URI alone: it is the code, cut where the code ends its parameter, and
only a code that is not cut has its length.  With the code settled the same holds of the state.
-/

import Dbal.Codec.Url
import Dbal.Oidc.OidcService

namespace Dbal
namespace Oidc

open Codec

/-- `OAuthClient`, what a request is held against besides the lifetimes. -/
structure RegisteredClient extends OAuthClient where
  redirectUris : List String
  scope : String := "openid"

/-- `AuthorizeRequest` with its state, bytes that only the redirect reads. -/
structure RedirectRequest extends AuthorizeRequest where
  state : List UInt8

namespace RegisteredClient

/-- `isValidRedirectUri`. -/
def isValidRedirectUri (client : RegisteredClient) (uri : String) : Bool :=
  client.redirectUris.contains uri

/-- The words of a scope. -/
def tokenize (scope : String) : List (List Char) := (scope.toList.splitOn ' ').filter (· ≠ [])

/-- `isScopeAllowed`. -/
def isScopeAllowed (client : RegisteredClient) (requestedScope : String) : Bool :=
  (tokenize requestedScope).all (tokenize client.scope).contains

end RegisteredClient

/-- `isValidCodeChallengeFormat`. -/
def isValidCodeChallengeFormat (challenge : String) : Bool :=
  43 ≤ challenge.utf8ByteSize ∧ challenge.utf8ByteSize ≤ 128 ∧
    challenge.toList.all fun c => c.isAlphanum ∨ c = '-' ∨ c = '_'

/-- `validateAuthorize`. -/
def validateAuthorize (clients : String → Option RegisteredClient)
    (clientId redirectUri responseType scope : String) (state : List UInt8)
    (codeChallenge codeChallengeMethod : String) (nonce : Option String) :
    Result RedirectRequest :=
  match clients clientId with
  | none => .error (.validationError "invalid_client: unknown client_id")
  | some client =>
      if !client.isValidRedirectUri redirectUri then
        .error (.validationError
          "invalid_request: redirect_uri not registered for this client")
      else if responseType ≠ "code" then .error (.validationError "unsupported_response_type")
      else if codeChallengeMethod ≠ "S256" then
        .error (.validationError "invalid_request: code_challenge_method must be S256")
      else if !isValidCodeChallengeFormat codeChallenge then
        .error (.validationError "invalid_request: malformed code_challenge")
      else if !client.isScopeAllowed scope then .error (.validationError "invalid_scope")
      else .ok { clientId, redirectUri, scope, state, codeChallenge, codeChallengeMethod, nonce }

/-- What a validated request is: the arguments, with a URI that the client has registered. -/
theorem validateAuthorize_ok {clients : String → Option RegisteredClient}
    {clientId redirectUri responseType scope : String} {state : List UInt8}
    {codeChallenge codeChallengeMethod : String} {nonce : Option String} {req : RedirectRequest}
    (h : validateAuthorize clients clientId redirectUri responseType scope state codeChallenge
      codeChallengeMethod nonce = .ok req) :
    req = { clientId, redirectUri, scope, state, codeChallenge, codeChallengeMethod, nonce } ∧
      ∃ client, clients clientId = some client ∧ redirectUri ∈ client.redirectUris := by
  unfold validateAuthorize at h
  cases hclient : clients clientId with
  | none =>
      rw [hclient] at h
      cases h
  | some client =>
      rw [hclient] at h
      dsimp only at h
      split_ifs at h with huri
      cases h
      refine ⟨rfl, client, rfl, ?_⟩
      have hvalid : client.isValidRedirectUri redirectUri = true := by simpa using huri
      exact List.contains_iff_mem.1 hvalid

namespace OidcService

variable (service : OidcService)

/-- `buildAuthorizeRedirect`. -/
def buildAuthorizeRedirect (draw : Draw) (req : RedirectRequest) (userId tenantId : String) :
    Act Error Store (List UInt8) := do
  let code ← service.issueCode draw req.toAuthorizeRequest userId tenantId
  let separator := if '?'.toUInt8 ∉ utf8 req.redirectUri then utf8 "?" else utf8 "&"
  let location := utf8 req.redirectUri ++ separator ++ utf8 "code=" ++ utf8 code
  if req.state ≠ [] then return location ++ (utf8 "&state=" ++ req.state) else return location

/-- The parameters that a code and a state are meant to be. -/
def added (code state : List UInt8) : List (List UInt8 × List UInt8) :=
  (utf8 "code", code) :: if state = [] then [] else [(utf8 "state", state)]

/-- What is written behind the redirect URI and the separator. -/
def written (code state : List UInt8) : List UInt8 :=
  assign (utf8 "code") code ++
    if state = [] then [] else '&'.toUInt8 :: assign (utf8 "state") state

/-- The location has the URI's own parameters and those that are meant, and no others. -/
def ReadsBack (req : RedirectRequest) (code : String) (location : List UInt8) : Prop :=
  (params location).Perm (params (utf8 req.redirectUri) ++ added (utf8 code) req.state)

/-- The location, once a code is issued. -/
theorem buildAuthorizeRedirect_ok {draw : Draw} {req : RedirectRequest} {userId tenantId : String}
    {s : Store} {location : List UInt8}
    (h : (service.buildAuthorizeRedirect draw req userId tenantId s).1 = .ok location) :
    location = utf8 req.redirectUri ++
      separator (utf8 req.redirectUri) :: written (utf8 draw.token) req.state := by
  have hcode : (utf8 "code=") = utf8 "code" ++ ['='.toUInt8] := by decide
  have hstate : (utf8 "&state=") = '&'.toUInt8 :: (utf8 "state" ++ ['='.toUInt8]) := by decide
  have hsep : (if '?'.toUInt8 ∉ utf8 req.redirectUri then utf8 "?" else utf8 "&") =
      [separator (utf8 req.redirectUri)] := by
    unfold separator
    by_cases hquery : '?'.toUInt8 ∈ utf8 req.redirectUri
    · rw [if_neg (not_not.2 hquery), if_pos hquery]
      decide
    · rw [if_pos hquery, if_neg hquery]
      decide
  rw [buildAuthorizeRedirect, issueCode, AuthCodeStore.issue] at h
  rcases Act.bind_cases _ _ s with ⟨e, s', -, hseq⟩ | ⟨code, s', hrun, hseq⟩
  · rw [hseq] at h
    cases h
  · have htoken : code = draw.token := by
      rcases Act.bind_cases _ _ s with ⟨e, s'', -, hcreate⟩ | ⟨_, s'', -, hcreate⟩
      · rw [hcreate] at hrun
        cases hrun
      · rw [hcreate, Act.pure_apply] at hrun
        cases hrun
        rfl
    rw [hseq, hsep, hcode, hstate, htoken] at h
    unfold written assign
    by_cases hempty : req.state = []
    · rw [if_neg (not_not.2 hempty), Act.pure_apply] at h
      cases h
      simp [hempty]
    · rw [if_pos hempty, Act.pure_apply] at h
      cases h
      simp [hempty]

theorem plainName_code : PlainName (utf8 "code") where
  noSeparator := by decide
  noFragment := by decide
  literal := literal_of_not_mem (by decide)
  noEquals := by decide

theorem plainName_state : PlainName (utf8 "state") where
  noSeparator := by decide
  noFragment := by decide
  literal := literal_of_not_mem (by decide)
  noEquals := by decide

/-- What is written is read back as meant when nothing in it is cut or decoded. -/
theorem paramsBehind_written {code state : List UInt8} (hcode : Inert code) (hstate : Inert state) :
    paramsBehind (written code state) = added code state := by
  unfold written added
  by_cases hempty : state = []
  · rw [if_pos hempty, if_pos hempty, List.append_nil, paramsBehind_assign plainName_code hcode]
  · rw [if_neg hempty, if_neg hempty, paramsBehind_append plainName_code hcode,
      paramsBehind_assign plainName_state hstate]

theorem inert_nil : Inert [] where
  noSeparator := List.not_mem_nil
  noFragment := List.not_mem_nil
  literal := literal_of_not_mem List.not_mem_nil

/-- The code is what the first parameter says. -/
theorem inert_code {code state : List UInt8}
    (h : (paramsBehind (written code state)).Perm (added code state)) : Inert code := by
  have hrest : (if state = [] then [] else '&'.toUInt8 :: assign (utf8 "state") state) = [] ∨
      ∃ more, (if state = [] then [] else '&'.toUInt8 :: assign (utf8 "state") state) =
        '&'.toUInt8 :: more := by
    by_cases hempty : state = []
    · exact .inl (if_pos hempty)
    · exact .inr ⟨_, if_neg hempty⟩
  obtain ⟨more, hmore⟩ := paramsBehind_eq_cons plainName_code code hrest
  have hmem := h.subset (hmore ▸ List.mem_cons_self)
  rcases List.mem_cons.1 hmem with heq | hmem
  · exact inert_of_read (Prod.mk.inj heq).2
  · split_ifs at hmem
    · cases hmem
    · exact absurd (Prod.mk.inj (List.mem_singleton.1 hmem)).1 (by decide)

/-- What is written is read back as meant only then. -/
theorem paramsBehind_written_iff (code state : List UInt8) :
    (paramsBehind (written code state)).Perm (added code state) ↔ Inert code ∧ Inert state := by
  refine ⟨fun h => ?_, fun h => .of_eq (paramsBehind_written h.1 h.2)⟩
  have hcode := inert_code h
  refine ⟨hcode, ?_⟩
  by_cases hempty : state = []
  · exact hempty ▸ inert_nil
  · rw [written, added, if_neg hempty, if_neg hempty, paramsBehind_append plainName_code hcode] at h
    obtain ⟨more, hmore⟩ := paramsBehind_eq_cons plainName_state state (.inl rfl)
    rw [List.append_nil] at hmore
    rw [hmore] at h
    have heq := List.perm_singleton.1 h.cons_inv
    exact inert_of_read (Prod.mk.inj (List.cons.inj heq).1).2

/-- **The client reads back what was meant exactly when the redirect URI has no fragment, and
neither the code nor the state has a separator, a fragment or an escape in it.** -/
theorem redirect_reads_back_iff (draw : Draw) (req : RedirectRequest) (userId tenantId : String)
    (s : Store) (location : List UInt8)
    (h : (service.buildAuthorizeRedirect draw req userId tenantId s).1 = .ok location) :
    ReadsBack req draw.token location ↔
      '#'.toUInt8 ∉ utf8 req.redirectUri ∧ Inert (utf8 draw.token) ∧ Inert req.state := by
  rw [ReadsBack, service.buildAuthorizeRedirect_ok h]
  by_cases hfragment : '#'.toUInt8 ∈ utf8 req.redirectUri
  · rw [params_append_fragment hfragment]
    refine iff_of_false (fun hperm => ?_) fun hcond => hcond.1 hfragment
    have hlength := hperm.length_eq
    rw [List.length_append, added, List.length_cons] at hlength
    omega
  · rw [params_append hfragment, List.perm_append_left_iff, paramsBehind_written_iff]
    exact ⟨fun hinert => ⟨hfragment, hinert⟩, fun hcond => hcond.2⟩

/-! ### A state with a parameter in it -/

/-- A client with one redirect URI. -/
def demoClients (clientId : String) : Option RegisteredClient :=
  if clientId = "spa" then some { redirectUris := ["https://app/cb"] } else none

/-- The request of that client, with a state. -/
def demoRequest (state : String) : RedirectRequest where
  clientId := "spa"
  redirectUri := "https://app/cb"
  scope := "openid"
  codeChallenge := "E9Melhoa2OwvFrEMTJguCHaoeK1t8URWbuGJSstw-cM"
  codeChallengeMethod := "S256"
  nonce := none
  state := utf8 state

/-- A service that signs nothing, and its draw. -/
def demoService : OidcService := ⟨fun _ => none, fun token => token, fun _ => []⟩

def demoDraw : Draw := ⟨0, "c0de", "", "row"⟩

theorem redirect_reads_back_state :
    ReadsBack (demoRequest "s1") "c0de" (utf8 "https://app/cb?code=c0de&state=s1") :=
  (redirect_reads_back_iff demoService demoDraw (demoRequest "s1") "ada" "acme" {}
    (utf8 "https://app/cb?code=c0de&state=s1") (by rfl)).mpr
    ⟨by decide, ⟨by decide, by decide, literal_of_not_mem (by decide)⟩,
      ⟨by decide, by decide, literal_of_not_mem (by decide)⟩⟩

/-- A state that was accepted brings a second code along. -/
theorem state_adds_code :
    validateAuthorize demoClients "spa" "https://app/cb" "code" "openid" (utf8 "x&code=evil")
        "E9Melhoa2OwvFrEMTJguCHaoeK1t8URWbuGJSstw-cM" "S256" none =
      .ok (demoRequest "x&code=evil") ∧
    (demoService.buildAuthorizeRedirect demoDraw (demoRequest "x&code=evil") "ada" "acme" {}).1 =
      .ok (utf8 "https://app/cb?code=c0de&state=x&code=evil") ∧
    params (utf8 "https://app/cb?code=c0de&state=x&code=evil") =
      [(utf8 "code", utf8 "c0de"), (utf8 "state", utf8 "x"), (utf8 "code", utf8 "evil")] ∧
    ¬ ReadsBack (demoRequest "x&code=evil") "c0de"
      (utf8 "https://app/cb?code=c0de&state=x&code=evil") := by
  refine ⟨by rfl, by rfl, by decide, fun hperm => ?_⟩
  have hlength := hperm.length_eq
  revert hlength
  decide

end OidcService
end Oidc
end Dbal
