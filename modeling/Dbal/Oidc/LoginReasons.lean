/-
# Why a handler makes its calls

For each call of a handler that hands something out, what the handler has heard before it: a code is
written for a request that waited and for a user whose password was verified, or for a request that was
accepted and a session that is good; tokens are signed for a code or a refresh token that was found.

This is all that the rest of the development knows of the handlers (`reasoned_handle`).
-/

import Dbal.Oidc.LoginHandlers

namespace Dbal
namespace Oidc

open Routine

/-- What a handler has heard. -/
abbrev OidcHeard := Heard OidcCall.Answer

/-- A call with its answer. -/
abbrev OidcHeard.Has (heard : OidcHeard) (call : OidcCall) (answer : call.Answer) : Prop :=
  ⟨call, answer⟩ ∈ heard

/-- A request to `/oidc/authorize` that `validateAuthorize` accepts, as this. -/
def OidcRequest.Asks (service : LoginService) (req : RedirectRequest) : OidcRequest → Prop
  | .authorize clientId redirectUri responseType scope state codeChallenge codeChallengeMethod nonce _ =>
      service.validate clientId redirectUri responseType scope state codeChallenge
        codeChallengeMethod (if nonce = "" then none else some nonce) = .ok req
  | _ => False

/-- A call that writes a code. -/
def OidcCall.writesCode : OidcCall → Bool
  | createCode _ => true
  | _ => false

namespace OidcHeard

/-- This is what is asked, or it waited. -/
def Knows (service : LoginService) (request : OidcRequest) (heard : OidcHeard)
    (req : RedirectRequest) : Prop :=
  request.Asks service req ∨ (∃ token, heard.Has (.takePending token) (some req)) ∨
    ∃ token, heard.Has (.peekRestart token) (some req)

/-- A password was verified, and the tenant of the user looked up. -/
def LoggedIn (heard : OidcHeard) (userId tenantId : String) : Prop :=
  (∃ identifier password,
    heard.Has (.verifyCredentialIdentifier identifier password) (.ok userId)) ∧
  ∃ answer : Result String, heard.Has (.getCredentialTenantId userId) answer ∧
    tenantId = answer.toOption.getD "system"

/-- A session was found, and the clock read then. -/
def Found (heard : OidcHeard) (sid : String) (session : OidcSession) (now : Int) : Prop :=
  ([⟨.getSession sid, Except.ok session⟩, ⟨.nowUnix, now⟩] : OidcHeard) <:+: heard

/-- A session was found that is neither revoked nor expired. -/
def Resumes (heard : OidcHeard) (sid userId tenantId : String) : Prop :=
  ∃ (session : OidcSession) (now : Int), heard.Found sid session now ∧
    session.clientId = kBrowserSessionClientId ∧ session.revokedAt = none ∧
    now < session.expiresAt ∧ session.userId = userId ∧ session.tenantId = tenantId

/-- The clock as it is read for the end of a session, behind all that was heard. -/
def EndsWith (heard : OidcHeard) (now : Int) : Prop :=
  ∃ createdAt : Int, ([⟨.nowUnix, now⟩, ⟨.nowUnix, createdAt⟩] : OidcHeard) <:+ heard

/-- No code was written so far. -/
def NoCode (heard : OidcHeard) : Prop :=
  ∀ (code : AuthorizationCode) (answer : Result Unit), ¬ heard.Has (.createCode code) answer

end OidcHeard

/-- The code carries what the request asks for. -/
structure AuthorizationCode.IsFor (code : AuthorizationCode) (req : RedirectRequest) : Prop where
  clientId : code.clientId = req.clientId
  redirectUri : code.redirectUri = req.redirectUri
  codeChallenge : code.codeChallenge = req.codeChallenge
  scope : code.scope = req.scope
  nonce : code.nonce = req.nonce

/-- What a code is written on. -/
def CodeReason (service : LoginService) (request : OidcRequest) (heard : OidcHeard)
    (req : RedirectRequest) (userId tenantId : String) : Prop :=
  match request with
  | .authorize _ _ _ _ _ _ _ _ sidCookie =>
      request.Asks service req ∧ heard.Resumes sidCookie userId tenantId
  | .login continuation _ _ _ =>
      heard.Has (.takePending continuation) (some req) ∧ heard.LoggedIn userId tenantId
  | _ => False

/-- What tokens are given on. -/
def GrantReason (service : LoginService) (request : OidcRequest) (heard : OidcHeard)
    (clientId userId tenantId scope : String) : Prop :=
  match request with
  | .codeGrant code redirectUri hint codeVerifier =>
      ∃ row rows, heard.Has (.listCodes (service.hash code)) (.ok (row :: rows)) ∧
        row.clientId = hint ∧ row.redirectUri = redirectUri ∧
        service.verifyS256 codeVerifier row.codeChallenge = true ∧
        row.clientId = clientId ∧ row.userId = userId ∧ row.tenantId = tenantId ∧ row.scope = scope
  | .refreshGrant refreshToken hint =>
      ∃ row rows, heard.Has (.listTokens (service.hash refreshToken)) (.ok (row :: rows)) ∧
        row.clientId = hint ∧ row.revokedAt = none ∧
        row.clientId = clientId ∧ row.userId = userId ∧ row.tenantId = tenantId ∧ row.scope = scope
  | _ => False

/-- Why a call is made. -/
def Reason (service : LoginService) (request : OidcRequest) (heard : OidcHeard) : OidcCall → Prop
  | .storePending req | .storeRestart req => heard.Knows service request req
  | .createCode code =>
      heard.NoCode ∧ ∃ req, code.IsFor req ∧
        CodeReason service request heard req code.userId code.tenantId
  | .createSession session =>
      service.clients kBrowserSessionClientId = none → session.clientId = kBrowserSessionClientId →
        heard.LoggedIn session.userId session.tenantId ∧
          ∃ now : Int, heard.EndsWith now ∧ session.expiresAt = now + 12 * 3600
  | .createToken token =>
      GrantReason service request heard token.clientId token.userId token.tenantId token.scope
  | .sign idToken accessToken =>
      GrantReason service request heard idToken.audience idToken.subject idToken.tenantId
          accessToken.scope ∧
        accessToken.audience = idToken.audience ∧ accessToken.subject = idToken.subject ∧
        accessToken.tenantId = idToken.tenantId
  | _ => True

/-! ### What was heard stays heard -/

namespace OidcHeard

variable {heard heard' : OidcHeard} {service : LoginService} {request : OidcRequest}
  {req : RedirectRequest} {sid clientId userId tenantId scope : String}

theorem Knows.mono (h : heard.Knows service request req) (hpre : heard <+: heard') :
    heard'.Knows service request req := by
  rcases h with hasks | ⟨token, hpending⟩ | ⟨token, hrestart⟩
  · exact .inl hasks
  · exact .inr (.inl ⟨token, hpre.subset hpending⟩)
  · exact .inr (.inr ⟨token, hpre.subset hrestart⟩)

theorem LoggedIn.mono (h : heard.LoggedIn userId tenantId) (hpre : heard <+: heard') :
    heard'.LoggedIn userId tenantId := by
  obtain ⟨⟨identifier, password, hverify⟩, answer, htenant, heq⟩ := h
  exact ⟨⟨identifier, password, hpre.subset hverify⟩, answer, hpre.subset htenant, heq⟩

theorem Found.mono {session : OidcSession} {now : Int} (h : heard.Found sid session now)
    (hpre : heard <+: heard') : heard'.Found sid session now := List.IsInfix.trans h hpre.isInfix

theorem Resumes.mono (h : heard.Resumes sid userId tenantId) (hpre : heard <+: heard') :
    heard'.Resumes sid userId tenantId := by
  obtain ⟨session, now, hfound, hrest⟩ := h
  exact ⟨session, now, hfound.mono hpre, hrest⟩

theorem NoCode.start : NoCode [] := fun _ _ => List.not_mem_nil

theorem NoCode.snoc (h : heard.NoCode) (call : OidcCall) (hcall : call.writesCode = false)
    (answer : call.Answer) : NoCode (heard ++ [⟨call, answer⟩]) := by
  intro code answer' hmem
  rcases List.mem_append.1 hmem with hmem | hmem
  · exact h code answer' hmem
  · obtain rfl := (Sigma.mk.inj (List.mem_singleton.1 hmem)).1
    cases hcall

end OidcHeard

theorem CodeReason.mono {service : LoginService} {request : OidcRequest} {heard heard' : OidcHeard}
    {req : RedirectRequest} {userId tenantId : String}
    (h : CodeReason service request heard req userId tenantId) (hpre : heard <+: heard') :
    CodeReason service request heard' req userId tenantId := by
  cases request with
  | authorize => exact ⟨h.1, h.2.mono hpre⟩
  | login => exact ⟨hpre.subset h.1, h.2.mono hpre⟩
  | _ => exact h

theorem GrantReason.mono {service : LoginService} {request : OidcRequest} {heard heard' : OidcHeard}
    {clientId userId tenantId scope : String}
    (h : GrantReason service request heard clientId userId tenantId scope)
    (hpre : heard <+: heard') :
    GrantReason service request heard' clientId userId tenantId scope := by
  cases request with
  | codeGrant =>
      obtain ⟨row, rows, hfound, hrest⟩ := h
      exact ⟨row, rows, hpre.subset hfound, hrest⟩
  | refreshGrant =>
      obtain ⟨row, rows, hfound, hrest⟩ := h
      exact ⟨row, rows, hpre.subset hfound, hrest⟩
  | _ => exact h

/-! ### The handlers -/

section Handlers

variable {service : LoginService} {request : OidcRequest} {heard : OidcHeard}

/-- A routine each call of which has its reason. -/
abbrev Reasoned {α : Type} (service : LoginService) (request : OidcRequest)
    (Post : OidcHeard → α → Prop) : OidcHeard → OidcRoutine α → Prop :=
  Meets (Reason service request) Post

theorem has_last (call : OidcCall) (answer : call.Answer) :
    OidcHeard.Has (heard ++ [⟨call, answer⟩]) call answer :=
  List.mem_append_right _ (List.mem_singleton_self _)

theorem reasoned_createSession {userId tenantId clientId : String}
    (h : service.clients kBrowserSessionClientId = none → clientId = kBrowserSessionClientId →
      heard.LoggedIn userId tenantId) :
    Reasoned service request (fun _ _ => True) heard
      (LoginService.createSession userId tenantId clientId) := by
  unfold LoginService.createSession
  refine .ask_bind trivial fun authTime => .ask_bind trivial fun expiresFrom =>
    .ask_bind trivial fun createdAt => .ask_bind
      (fun hreserved hclient => ⟨?_, expiresFrom, ⟨createdAt, ?_⟩, rfl⟩) fun answer => ?_
  · exact (h hreserved hclient).mono (by simp only [List.append_assoc, List.prefix_append])
  · simp only [List.append_assoc]
    exact ⟨heard ++ [⟨.nowUnix, authTime⟩], by simp⟩
  · rcases answer with e | sid
    · exact trivial
    · dsimp only
      split_ifs <;> exact trivial

theorem reasoned_lookup {sid : String} (h : heard.NoCode) :
    Reasoned service request (fun heard' result => heard'.NoCode ∧
        ∀ session, result = .ok session → heard'.Resumes sid session.userId session.tenantId) heard
      (LoginService.lookupBrowserSession sid) := by
  unfold LoginService.lookupBrowserSession
  refine .ask_bind trivial fun answer => ?_
  have hread := h.snoc (.getSession sid) rfl answer
  rcases answer with e | row
  · exact ⟨hread, nofun⟩
  dsimp only
  by_cases hclient : row.clientId ≠ kBrowserSessionClientId
  · rw [if_pos hclient]
    exact ⟨hread, nofun⟩
  rw [if_neg hclient]
  by_cases hrevoked : row.revokedAt.isSome
  · rw [if_pos hrevoked]
    exact ⟨hread, nofun⟩
  rw [if_neg hrevoked]
  refine .ask_bind trivial fun now => ?_
  have hnow := hread.snoc .nowUnix rfl now
  split_ifs with hexpired huser
  · exact ⟨hnow, nofun⟩
  · exact ⟨hnow, nofun⟩
  · refine ⟨hnow, fun session heq => ?_⟩
    obtain rfl := Except.ok.inj heq
    exact ⟨row, now, ⟨heard, [], by simp⟩, not_not.1 hclient,
      Option.not_isSome_iff_eq_none.1 hrevoked, not_le.1 hexpired, rfl, rfl⟩

theorem reasoned_redirect {req : RedirectRequest} {userId tenantId : String} (hcode : heard.NoCode)
    (hreason : CodeReason service request heard req userId tenantId) :
    Reasoned service request (fun _ _ => True) heard
      (service.buildAuthorizeRedirect req userId tenantId) := by
  unfold LoginService.buildAuthorizeRedirect
  refine Meets.seq ?_ fun heard' result _ => ?_
  · unfold LoginService.issueCode
    refine .ask_bind trivial fun rawCode => .ask_bind trivial fun expiresFrom =>
      .ask_bind trivial fun createdAt => .ask_bind ⟨?_, req, ⟨rfl, rfl, rfl, rfl, rfl⟩, ?_⟩
        fun answer => ?_
    · exact ((hcode.snoc _ rfl _).snoc _ rfl _).snoc _ rfl _
    · exact hreason.mono (by simp only [List.append_assoc, List.prefix_append])
    · rcases answer with e | _ <;> exact trivial
  · rcases result with e | location <;> exact trivial

theorem reasoned_toLogin {req : RedirectRequest} (h : heard.Knows service request req) :
    Reasoned service request (fun _ _ => True) heard (service.toLogin req) :=
  .ask_bind h fun _ => .ask_bind (h.mono (List.prefix_append _ _)) fun _ => trivial

theorem reasoned_authorize {req : RedirectRequest}
    {clientId redirectUri responseType scope : String} {state : List UInt8}
    {codeChallenge codeChallengeMethod nonce sidCookie : String}
    (hasks : OidcRequest.Asks service req (.authorize clientId redirectUri responseType scope state
      codeChallenge codeChallengeMethod nonce sidCookie)) :
    Reasoned service (.authorize clientId redirectUri responseType scope state codeChallenge
        codeChallengeMethod nonce sidCookie) (fun _ _ => True) []
      (service.authorizeValid req sidCookie) := by
  unfold LoginService.authorizeValid
  split_ifs
  · exact reasoned_toLogin (.inl hasks)
  · refine Meets.bind (reasoned_lookup .start) fun heard result _ hpost => ?_
    obtain ⟨hcode, hresumes⟩ := hpost
    rcases result with e | session
    · exact reasoned_toLogin (.inl hasks)
    · refine Meets.bind (reasoned_redirect hcode ⟨hasks, hresumes session rfl⟩)
        fun heard' result _ _ => ?_
      rcases result with e | location
      · exact reasoned_toLogin (.inl hasks)
      · exact trivial

theorem reasoned_handleGet (continuation restart notice : String) :
    Reasoned service request (fun _ _ => True) []
      (LoginService.handleGet continuation restart notice) := by
  unfold LoginService.handleGet LoginService.recoverContinuation
  refine Meets.seq ?_ fun heard continuation _ => ?_
  · split_ifs
    · refine .ask_bind trivial fun found => ?_
      rcases found with _ | original
      · exact trivial
      · exact ⟨.inr (.inr ⟨_, has_last _ _⟩), fun _ => trivial⟩
    · exact trivial
  · split_ifs <;> exact trivial

theorem reasoned_restartLogin (restart : String) :
    Reasoned service request (fun _ _ => True) heard (service.restartLogin restart) := by
  unfold LoginService.restartLogin LoginService.recoverRequest
  have hrecovered : Reasoned service request
      (fun heard' found => ∀ req, found = some req → heard'.Knows service request req) heard
      (if restart ≠ "" then Ask.peekRestart restart else pure none) := by
    split_ifs
    · refine ⟨trivial, fun found req heq => ?_⟩
      obtain rfl : found = some req := heq
      exact .inr (.inr ⟨_, has_last _ _⟩)
    · exact fun _ heq => nomatch heq
  refine hrecovered.bind fun heard' found _ hknows => ?_
  rcases found with _ | original
  · exact trivial
  · exact .ask_bind (hknows original rfl) fun _ => trivial

theorem reasoned_finishLogin {continuation restart username password userId : String}
    {req : RedirectRequest} (hcode : heard.NoCode)
    (hpending : heard.Has (.takePending continuation) (some req))
    (hverified : heard.Has (.verifyCredentialIdentifier username password) (.ok userId)) :
    Reasoned service (.login continuation restart username password) (fun _ _ => True) heard
      (service.finishLogin req userId) := by
  unfold LoginService.finishLogin
  refine .ask_bind trivial fun tenantResult => ?_
  have hlogged : OidcHeard.LoggedIn (heard ++ [⟨.getCredentialTenantId userId, tenantResult⟩]) userId
      (Except.toOption tenantResult |>.getD "system") :=
    ⟨⟨username, password, List.mem_append_left _ hverified⟩, tenantResult, has_last _ _, rfl⟩
  refine Meets.bind (reasoned_redirect (hcode.snoc _ rfl _)
    ⟨List.mem_append_left _ hpending, hlogged⟩) fun heard' result hpre _ => ?_
  rcases result with e | location
  · exact trivial
  · exact Meets.bind (reasoned_createSession fun _ _ => hlogged.mono hpre) fun _ _ _ _ => trivial

theorem reasoned_handlePost (continuation restart username password : String) :
    Reasoned service (.login continuation restart username password) (fun _ _ => True) []
      (service.handlePost continuation restart username password) := by
  unfold LoginService.handlePost
  refine .ask_bind trivial fun found => ?_
  have hcode := OidcHeard.NoCode.start.snoc (.takePending continuation) rfl found
  rcases found with _ | pending
  · exact reasoned_restartLogin restart
  · refine .ask_bind trivial fun verified => ?_
    have hcode' := hcode.snoc (.verifyCredentialIdentifier username password) rfl verified
    rcases verified with e | userId
    · exact .ask_bind (.inr (.inl ⟨continuation, List.mem_append_left _ (has_last _ _)⟩))
        fun _ => trivial
    · exact reasoned_finishLogin hcode' (List.mem_append_left _ (has_last _ _)) (has_last _ _)

/-- A routine that only reads, and updates tokens. -/
theorem reasoned_revokeAll (now : Int) (rows : List RefreshToken) :
    Reasoned service request (fun _ _ => True) heard (LoginService.revokeAll now rows) := by
  induction rows generalizing heard with
  | nil => exact trivial
  | cons row rows ih =>
      unfold LoginService.revokeAll
      split_ifs
      · exact ih
      · exact .ask_bind trivial fun _ => ih

theorem reasoned_revokeFamily (familyId : String) :
    Reasoned service request (fun _ _ => True) heard (LoginService.revokeFamily familyId) := by
  unfold LoginService.revokeFamily
  refine .ask_bind trivial fun found => ?_
  rcases found with e | rows
  · exact trivial
  · exact .ask_bind trivial fun now => reasoned_revokeAll now rows

theorem reasoned_redeem (code hint : String) :
    Reasoned service request (fun heard' result => ∀ rc, result = .ok rc → ∃ row rows,
        OidcHeard.Has heard' (.listCodes (service.hash code)) (.ok (row :: rows)) ∧
          row.clientId = hint ∧ row.clientId = rc.clientId ∧ row.userId = rc.userId ∧
          row.tenantId = rc.tenantId ∧ row.redirectUri = rc.redirectUri ∧
          row.codeChallenge = rc.codeChallenge ∧ row.scope = rc.scope) heard
      (service.redeem code hint) := by
  unfold LoginService.redeem
  refine .ask_bind trivial fun found => ?_
  rcases found with e | _ | ⟨row, rows⟩
  · exact nofun
  · exact nofun
  dsimp only
  by_cases hclient : row.clientId ≠ hint
  · rw [if_pos hclient]
    exact nofun
  rw [if_neg hclient]
  by_cases hconsumed : row.consumedAt.isSome
  · rw [if_pos hconsumed]
    exact nofun
  rw [if_neg hconsumed]
  refine .ask_bind trivial fun now => ?_
  by_cases hexpired : row.expiresAt ≤ now
  · rw [if_pos hexpired]
    exact nofun
  rw [if_neg hexpired]
  refine .ask_bind trivial fun consumedAt => .ask_bind trivial fun updated => ?_
  rcases updated with e | _
  · exact nofun
  · intro rc heq
    obtain rfl := Except.ok.inj heq
    refine ⟨row, rows, ?_, not_not.1 hclient, rfl, rfl, rfl, rfl, rfl, rfl⟩
    exact List.mem_append_left _ (List.mem_append_left _ (List.mem_append_left _ (has_last _ _)))

theorem reasoned_rotate (refreshToken hint : String) :
    Reasoned service request (fun heard' result => ∀ rt, result = .ok rt → ∃ row rows,
        OidcHeard.Has heard' (.listTokens (service.hash refreshToken)) (.ok (row :: rows)) ∧
          row.clientId = hint ∧ row.revokedAt = none ∧ row.clientId = rt.clientId ∧
          row.userId = rt.userId ∧ row.tenantId = rt.tenantId ∧ row.scope = rt.scope) heard
      (service.rotate refreshToken hint) := by
  unfold LoginService.rotate
  refine .ask_bind trivial fun found => ?_
  rcases found with e | _ | ⟨row, rows⟩
  · exact nofun
  · exact nofun
  dsimp only
  by_cases hclient : row.clientId ≠ hint
  · rw [if_pos hclient]
    exact nofun
  rw [if_neg hclient]
  by_cases hrevoked : row.revokedAt.isSome
  · rw [if_pos hrevoked]
    exact Meets.bind (reasoned_revokeFamily row.familyId) fun _ _ _ _ => nofun
  rw [if_neg hrevoked]
  refine .ask_bind trivial fun now => ?_
  by_cases hexpired : row.expiresAt ≤ now
  · rw [if_pos hexpired]
    exact nofun
  rw [if_neg hexpired]
  refine .ask_bind trivial fun revokedAt => .ask_bind trivial fun updated => ?_
  rcases updated with e | _
  · exact nofun
  · intro rt heq
    obtain rfl := Except.ok.inj heq
    refine ⟨row, rows, ?_, not_not.1 hclient, Option.not_isSome_iff_eq_none.1 hrevoked,
      rfl, rfl, rfl, rfl⟩
    exact List.mem_append_left _ (List.mem_append_left _ (List.mem_append_left _ (has_last _ _)))

theorem reasoned_revokeRefreshToken (refreshToken : String) :
    Reasoned service request (fun _ _ => True) heard (service.revokeRefreshToken refreshToken) := by
  unfold LoginService.revokeRefreshToken
  refine .ask_bind trivial fun found => ?_
  rcases found with e | _ | ⟨row, rows⟩
  · exact trivial
  · exact trivial
  dsimp only
  split_ifs
  · exact trivial
  · refine .ask_bind trivial fun now => .ask_bind trivial fun updated => ?_
    rcases updated with e | _ <;> exact trivial

theorem reasoned_issueRefresh {req : RefreshTokenRequest} (ttlSeconds : Int)
    (h : GrantReason service request heard req.clientId req.userId req.tenantId req.scope) :
    Reasoned service request (fun _ _ => True) heard (service.issueRefresh req ttlSeconds) := by
  unfold LoginService.issueRefresh LoginService.issueToken LoginService.familyOf
  refine Meets.seq ?_ fun _ result _ => ?_
  · refine .ask_bind trivial fun rawToken => Meets.seq ?_
      fun heard' familyId hpre => .ask_bind trivial fun expiresFrom =>
        .ask_bind trivial fun createdAt => .ask_bind ?_ fun created => ?_
    · split_ifs
      · exact ⟨trivial, fun _ => trivial⟩
      · exact trivial
    · refine h.mono ((List.prefix_append heard _).trans (hpre.trans ?_))
      simp only [List.append_assoc, List.prefix_append]
    · rcases created with e | _ <;> exact trivial
  · rcases result with e | _ <;> exact trivial

theorem reasoned_signTokens (client : LoginClient) {grant : LoginService.Grant}
    {refresh : OidcRoutine String}
    (h : GrantReason service request heard grant.clientId grant.userId grant.tenantId grant.scope)
    (hrefresh : ∀ heard', heard <+: heard' →
      Reasoned service request (fun _ _ => True) heard' refresh) :
    Reasoned service request (fun _ _ => True) heard
      (LoginService.signTokens client grant refresh) := by
  unfold LoginService.signTokens
  refine .ask_bind trivial fun authTime => .ask_bind trivial fun role => .ask_bind
    ⟨h.mono (by simp only [List.append_assoc, List.prefix_append]), rfl, rfl, rfl⟩ fun signs => ?_
  rcases signs with _ | _
  · exact trivial
  · exact Meets.bind (hrefresh _ (by simp only [List.append_assoc, List.prefix_append]))
      fun _ _ _ _ => trivial

theorem reasoned_exchangeCode (code redirectUri clientId codeVerifier : String) :
    Reasoned service (.codeGrant code redirectUri clientId codeVerifier) (fun _ _ => True) heard
      (service.exchangeCode code redirectUri clientId codeVerifier) := by
  unfold LoginService.exchangeCode
  cases hclient : service.clients clientId with
  | none => exact trivial
  | some client =>
      refine Meets.bind (reasoned_redeem code clientId) fun heard' result _ hpost => ?_
      rcases result with e | rc
      · exact trivial
      obtain ⟨row, rows, hfound, hhint, hrc, huser, htenant, huri, hchallenge, hscope⟩ := hpost rc rfl
      dsimp only
      by_cases hmismatch : rc.redirectUri ≠ redirectUri
      · rw [if_pos hmismatch]
        exact trivial
      rw [if_neg hmismatch]
      by_cases hverifier : codeVerifier = ""
      · rw [if_pos hverifier]
        exact trivial
      rw [if_neg hverifier]
      by_cases hpkce : (!service.verifyS256 codeVerifier rc.codeChallenge) = true
      · rw [if_pos hpkce]
        exact trivial
      rw [if_neg hpkce]
      have hgrant : GrantReason service (.codeGrant code redirectUri clientId codeVerifier) heard'
          rc.clientId rc.userId rc.tenantId rc.scope := by
        refine ⟨row, rows, hfound, hhint, huri.trans (not_not.1 hmismatch), ?_, hrc, huser, htenant,
          hscope⟩
        rw [hchallenge]
        simpa using hpkce
      refine Meets.bind (reasoned_createSession fun hreserved hbrowser => ?_) fun heard'' result hpre _ => ?_
      · rw [← hrc, hhint] at hbrowser
        rw [hbrowser, hreserved] at hclient
        cases hclient
      · rcases result with e | sid
        · exact trivial
        · refine reasoned_signTokens client (hgrant.mono hpre) fun heard₃ hpre' => ?_
          split_ifs
          · exact reasoned_issueRefresh _ (hgrant.mono (hpre.trans hpre'))
          · exact trivial

theorem reasoned_exchangeRefreshToken (refreshToken clientId : String) :
    Reasoned service (.refreshGrant refreshToken clientId) (fun _ _ => True) heard
      (service.exchangeRefreshToken refreshToken clientId) := by
  unfold LoginService.exchangeRefreshToken
  cases service.clients clientId with
  | none => exact trivial
  | some client =>
      refine Meets.bind (reasoned_rotate refreshToken clientId) fun heard' result _ hpost => ?_
      rcases result with e | rt
      · exact trivial
      have hgrant : GrantReason service (.refreshGrant refreshToken clientId) heard'
          rt.clientId rt.userId rt.tenantId rt.scope := hpost rt rfl
      exact reasoned_signTokens client hgrant fun heard'' hpre =>
        reasoned_issueRefresh _ (hgrant.mono hpre)

theorem reasoned_handleLogout (sidCookie refreshToken postLogoutRedirectUri state clientId : String) :
    Reasoned service request (fun _ _ => True) heard
      (service.handleLogout sidCookie refreshToken postLogoutRedirectUri state clientId) := by
  unfold LoginService.handleLogout LoginService.endSession LoginService.endRefresh
  refine Meets.seq ?_ fun _ _ _ =>
    Meets.seq ?_ fun _ _ _ => trivial
  · split_ifs
    · exact .ask_bind trivial fun now => ⟨trivial, fun _ => trivial⟩
    · exact trivial
  · split_ifs
    · exact reasoned_revokeRefreshToken refreshToken
    · exact trivial

theorem reasoned_handleAuthorize (clientId redirectUri responseType scope : String)
    (state : List UInt8) (codeChallenge codeChallengeMethod nonce sidCookie : String) :
    Reasoned service (.authorize clientId redirectUri responseType scope state codeChallenge
        codeChallengeMethod nonce sidCookie) (fun _ _ => True) []
      (service.handleAuthorize clientId redirectUri responseType scope state codeChallenge
        codeChallengeMethod nonce sidCookie) := by
  unfold LoginService.handleAuthorize
  cases hvalid : service.validate clientId redirectUri responseType scope state codeChallenge
    codeChallengeMethod (if nonce = "" then none else some nonce) with
  | error e => exact trivial
  | ok req => exact reasoned_authorize hvalid

theorem reasoned_handleCodeGrant (code redirectUri clientId codeVerifier : String) :
    Reasoned service (.codeGrant code redirectUri clientId codeVerifier) (fun _ _ => True) heard
      (service.handleCodeGrant code redirectUri clientId codeVerifier) := by
  unfold LoginService.handleCodeGrant
  split_ifs
  · exact trivial
  · refine Meets.bind (reasoned_exchangeCode code redirectUri clientId codeVerifier)
      fun _ result _ _ => ?_
    rcases result with e | response <;> exact trivial

theorem reasoned_handleRefreshGrant (refreshToken clientId : String) :
    Reasoned service (.refreshGrant refreshToken clientId) (fun _ _ => True) heard
      (service.handleRefreshGrant refreshToken clientId) := by
  unfold LoginService.handleRefreshGrant
  split_ifs
  · exact trivial
  · refine Meets.bind (reasoned_exchangeRefreshToken refreshToken clientId) fun _ result _ _ => ?_
    rcases result with e | response <;> exact trivial

/-- **Every call of a handler has its reason.** -/
theorem reasoned_handle (request : OidcRequest) :
    Reasoned service request (fun _ _ => True) [] (service.handle request) := by
  cases request with
  | authorize => exact reasoned_handleAuthorize _ _ _ _ _ _ _ _ _
  | loginForm => exact reasoned_handleGet _ _ _
  | login => exact reasoned_handlePost _ _ _ _
  | codeGrant => exact reasoned_handleCodeGrant _ _ _ _
  | refreshGrant => exact reasoned_handleRefreshGrant _ _
  | otherGrant => exact trivial
  | logout => exact reasoned_handleLogout _ _ _ _ _

end Handlers

end Oidc
end Dbal
