/-
# The handlers of a sign-in

`handleAuthorize`, `handleToken` and `handleLogout` of `src/daemon/handlers/oidc/oidc_route_handler.cpp`
and `handleGet` and `handlePost` of `login_route_handler.cpp`, with what they run of
`src/oidc/oidc_service.cpp` and `src/oidc/tokens/`.

An answer has the texts that go into a page, not the page.

When no other request comes between its calls, an exchange does what `OidcService` does on the rows
(`run_exchangeCode`, `run_exchangeRefreshToken`).
-/

import Dbal.Oidc.LoginCalls

namespace Dbal
namespace Oidc

open Codec

/-- `OAuthClient`, with the URIs that a logout may go to. -/
structure LoginClient extends RegisteredClient where
  postLogoutRedirectUris : List String := []

/-- The configuration and the libraries of the handlers. -/
structure LoginService where
  clients : String → Option LoginClient
  hash : Hash
  sha256 : Digest
  publicPathPrefix : String

/-- `kBrowserSessionClientId`. -/
def kBrowserSessionClientId : String := "__browser_session__"

/-- `BrowserSession`. -/
structure BrowserSession where
  userId : String
  tenantId : String

/-- What a handler answers with; a redirect may set the session cookie. -/
inductive OidcResponse where
  | oauthError (error description : String)
  | redirect (location : List UInt8) (sid : Option String)
  | loginForm (continuation restart error notice : String)
  | unresumable (detail : String)
  | failed (body : String)
  | tokens (response : TokenResponse)
  | signedOut (location : Option String)

/-- `splitError`. -/
def splitError (message : String) : String × String :=
  match cut ": ".toList message.toList with
  | none => ("invalid_request", message)
  | some (error, description) => (String.ofList error, String.ofList description)

def oauthError (e : Error) : OidcResponse :=
  .oauthError (splitError e.message).1 (splitError e.message).2

namespace LoginService

variable (service : LoginService)

def verifyS256 : (codeVerifier codeChallenge : String) → Bool := Oidc.verifyS256 service.sha256

/-- `validateAuthorize`, of the registered clients. -/
def validate (clientId redirectUri responseType scope : String) (state : List UInt8)
    (codeChallenge codeChallengeMethod : String) (nonce : Option String) : Result RedirectRequest :=
  validateAuthorize (fun clientId => (service.clients clientId).map (·.toRegisteredClient))
    clientId redirectUri responseType scope state codeChallenge codeChallengeMethod nonce

/-! ### Sessions and codes -/

/-- `createSession`. -/
def createSession (userId tenantId clientId : String) : OidcRoutine (Result String) := do
  let authTime ← Ask.nowUnix
  let expiresFrom ← Ask.nowUnix
  let createdAt ← Ask.nowUnix
  match ← Ask.createSession
      { userId, tenantId, clientId, authTime, revokedAt := none,
        expiresAt := expiresFrom + 12 * 3600, createdAt } with
  | .error e => return .error e
  | .ok sid =>
      if sid = "" then return .error (.internal "OidcSession created but no id returned")
      else return .ok sid

/-- `createBrowserSession`. -/
def createBrowserSession (userId tenantId : String) : OidcRoutine (Result String) :=
  createSession userId tenantId kBrowserSessionClientId

/-- `lookupBrowserSession`. -/
def lookupBrowserSession (sid : String) : OidcRoutine (Result BrowserSession) := do
  match ← Ask.getSession sid with
  | .error _ => return .error (.notFound "no such session")
  | .ok row =>
      if row.clientId ≠ kBrowserSessionClientId then return .error (.notFound "no such session")
      else if row.revokedAt.isSome then return .error ⟨.unauthorized, "session revoked"⟩
      else do
        let now ← Ask.nowUnix
        if row.expiresAt ≤ now then return .error ⟨.unauthorized, "session expired"⟩
        else if row.userId = "" then return .error (.notFound "no such session")
        else return .ok { userId := row.userId, tenantId := row.tenantId }

/-- `revokeBrowserSession`. -/
def revokeBrowserSession (sid : String) : OidcRoutine (Result Unit) := do
  let now ← Ask.nowUnix
  Ask.revokeSession sid now

/-- `AuthCodeStore::issue`, of `issueCode`. -/
def issueCode (req : AuthorizeRequest) (userId tenantId : String) :
    OidcRoutine (Result String) := do
  let rawCode ← Ask.generateToken
  let expiresFrom ← Ask.nowUnix
  let createdAt ← Ask.nowUnix
  match ← Ask.createCode
      { id := "", codeHash := service.hash rawCode, clientId := req.clientId, userId, tenantId,
        redirectUri := req.redirectUri, codeChallenge := req.codeChallenge,
        codeChallengeMethod := req.codeChallengeMethod, scope := req.scope, nonce := req.nonce,
        expiresAt := expiresFrom + 60, consumedAt := none, createdAt } with
  | .error e => return .error e
  | .ok _ => return .ok rawCode

/-- The location of `buildAuthorizeRedirect`. -/
def authorizeLocation (req : RedirectRequest) (code : String) : List UInt8 :=
  let separator := if '?'.toUInt8 ∉ utf8 req.redirectUri then utf8 "?" else utf8 "&"
  let location := utf8 req.redirectUri ++ separator ++ utf8 "code=" ++ utf8 code
  if req.state ≠ [] then location ++ (utf8 "&state=" ++ req.state) else location

/-- `buildAuthorizeRedirect`. -/
def buildAuthorizeRedirect (req : RedirectRequest) (userId tenantId : String) :
    OidcRoutine (Result (List UInt8)) := do
  match ← service.issueCode req.toAuthorizeRequest userId tenantId with
  | .error e => return .error e
  | .ok code => return .ok (authorizeLocation req code)

/-! ### Tokens -/

/-- `AuthCodeStore::redeem`. -/
def redeem (rawCode clientIdHint : String) : OidcRoutine (Result RedeemedCode) := do
  match ← Ask.listCodes (service.hash rawCode) with
  | .error e => return .error e
  | .ok [] => return .error (.notFound "invalid_grant: authorization code not found")
  | .ok (row :: _) =>
      if row.clientId ≠ clientIdHint then
        return .error (.validationError "invalid_grant: client_id mismatch")
      else if row.consumedAt.isSome then
        return .error (.validationError "invalid_grant: authorization code already used")
      else do
        let now ← Ask.nowUnix
        if row.expiresAt ≤ now then
          return .error (.validationError "invalid_grant: authorization code expired")
        else do
          let consumedAt ← Ask.nowUnix
          match ← Ask.updateCode row.id consumedAt with
          | .error e => return .error e
          | .ok _ =>
              return .ok {
                clientId := row.clientId, userId := row.userId, tenantId := row.tenantId
                redirectUri := row.redirectUri, codeChallenge := row.codeChallenge
                codeChallengeMethod := row.codeChallengeMethod, scope := row.scope
                nonce := row.nonce }

/-- The family of a new token. -/
def familyOf (familyId : String) : OidcRoutine String :=
  if familyId = "" then Ask.generateToken else pure familyId

/-- `RefreshTokenStore::issue`. -/
def issueToken (req : RefreshTokenRequest) (ttlSeconds : Int) : OidcRoutine (Result String) := do
  let rawToken ← Ask.generateToken
  let familyId ← familyOf req.familyId
  let expiresFrom ← Ask.nowUnix
  let createdAt ← Ask.nowUnix
  match ← Ask.createToken
      { id := "", tokenHash := service.hash rawToken, familyId, clientId := req.clientId,
        userId := req.userId, tenantId := req.tenantId, scope := req.scope,
        parentId := req.parentId, revokedAt := none, expiresAt := expiresFrom + ttlSeconds,
        createdAt } with
  | .error e => return .error e
  | .ok _ => return .ok rawToken

/-- The loop of `revokeFamily`. -/
def revokeAll (now : Int) : List RefreshToken → OidcRoutine Unit
  | [] => pure ()
  | row :: rows =>
      if row.revokedAt.isSome ∨ row.id = "" then revokeAll now rows
      else do
        let _ ← Ask.updateToken row.id now
        revokeAll now rows

/-- `revokeFamily`. -/
def revokeFamily (familyId : String) : OidcRoutine Unit := do
  match ← Ask.listFamily familyId with
  | .error _ => pure ()
  | .ok rows => do
      let now ← Ask.nowUnix
      revokeAll now rows

/-- `RefreshTokenStore::rotate`. -/
def rotate (rawToken clientIdHint : String) : OidcRoutine (Result RotatedRefreshToken) := do
  match ← Ask.listTokens (service.hash rawToken) with
  | .error e => return .error e
  | .ok [] => return .error (.notFound "invalid_grant: refresh token not found")
  | .ok (row :: _) =>
      if row.clientId ≠ clientIdHint then
        return .error (.validationError "invalid_grant: client_id mismatch")
      else if row.revokedAt.isSome then do
        revokeFamily row.familyId
        return .error (.validationError
          "invalid_grant: refresh token reuse detected — token family revoked")
      else do
        let now ← Ask.nowUnix
        if row.expiresAt ≤ now then
          return .error (.validationError "invalid_grant: refresh token expired")
        else do
          let revokedAt ← Ask.nowUnix
          match ← Ask.updateToken row.id revokedAt with
          | .error e => return .error e
          | .ok _ =>
              return .ok {
                tokenId := row.id, clientId := row.clientId, userId := row.userId
                tenantId := row.tenantId, scope := row.scope, familyId := row.familyId }

/-- `RefreshTokenStore::revoke`. -/
def revokeRefreshToken (rawToken : String) : OidcRoutine (Result Bool) := do
  match ← Ask.listTokens (service.hash rawToken) with
  | .error e => return .error e
  | .ok [] => return .ok true
  | .ok (row :: _) =>
      if row.revokedAt.isSome then return .ok true
      else do
        let now ← Ask.nowUnix
        match ← Ask.updateToken row.id now with
        | .error e => return .error e
        | .ok _ => return .ok true

/-- What an exchange signs. -/
structure Grant where
  clientId : String
  userId : String
  tenantId : String
  scope : String
  sid : String
  nonce : Option String

/-- The tokens of a grant, with the refresh token that a routine issues. -/
def signTokens (client : LoginClient) (grant : Grant) (refresh : OidcRoutine String) :
    OidcRoutine (Result TokenResponse) := do
  let authTime ← Ask.nowUnix
  let role ← Ask.getUserRoleByUsername grant.userId
  let idToken : IdTokenClaims :=
    { subject := grant.userId, audience := grant.clientId, sid := grant.sid,
      tenantId := grant.tenantId, authTime, nonce := grant.nonce,
      ttlSeconds := client.idTokenTtlSeconds }
  let accessToken : AccessTokenClaims :=
    { subject := grant.userId, audience := grant.clientId, tenantId := grant.tenantId,
      scope := grant.scope, role := role.toOption.getD "user",
      ttlSeconds := client.accessTokenTtlSeconds }
  if !(← Ask.sign idToken accessToken) then return .error (.internal "token signing failed")
  else do
    let refreshToken ← refresh
    return .ok { idToken, accessToken, refreshToken, expiresIn := client.accessTokenTtlSeconds,
                 scope := grant.scope }

/-- A refresh token; without one the answer is the same. -/
def issueRefresh (req : RefreshTokenRequest) (ttlSeconds : Int) : OidcRoutine String := do
  match ← service.issueToken req ttlSeconds with
  | .ok refreshToken => return refreshToken
  | .error _ => return ""

/-- `exchangeCode`. -/
def exchangeCode (code redirectUri clientId codeVerifier : String) :
    OidcRoutine (Result TokenResponse) := do
  match service.clients clientId with
  | none => return .error (.validationError "invalid_client: unknown client_id")
  | some client =>
      match ← service.redeem code clientId with
      | .error e => return .error e
      | .ok rc =>
          if rc.redirectUri ≠ redirectUri then
            return .error (.validationError "invalid_grant: redirect_uri mismatch")
          else if codeVerifier = "" then
            return .error (.validationError "invalid_grant: code_verifier required")
          else if !service.verifyS256 codeVerifier rc.codeChallenge then
            return .error (.validationError "invalid_grant: PKCE verification failed")
          else
            match ← createSession rc.userId rc.tenantId rc.clientId with
            | .error e => return .error e
            | .ok sid =>
                signTokens client
                  { clientId := rc.clientId, userId := rc.userId, tenantId := rc.tenantId,
                    scope := rc.scope, sid, nonce := rc.nonce }
                  (if scopeContains rc.scope "offline_access" then
                    service.issueRefresh
                      { clientId := rc.clientId, userId := rc.userId, tenantId := rc.tenantId,
                        scope := rc.scope } client.refreshTokenTtlSeconds
                  else pure "")

/-- `exchangeRefreshToken`. -/
def exchangeRefreshToken (refreshToken clientId : String) :
    OidcRoutine (Result TokenResponse) := do
  match service.clients clientId with
  | none => return .error (.validationError "invalid_client: unknown client_id")
  | some client =>
      match ← service.rotate refreshToken clientId with
      | .error e => return .error e
      | .ok rt =>
          signTokens client
            { clientId := rt.clientId, userId := rt.userId, tenantId := rt.tenantId,
              scope := rt.scope, sid := "", nonce := none }
            (service.issueRefresh
              { clientId := rt.clientId, userId := rt.userId, tenantId := rt.tenantId,
                scope := rt.scope, familyId := rt.familyId, parentId := some rt.tokenId }
              client.refreshTokenTtlSeconds)

/-! ### The handlers -/

/-- The end of `handleAuthorize`: the request waits for a login. -/
def toLogin (req : RedirectRequest) : OidcRoutine OidcResponse := do
  let continuationToken ← Ask.storePending req
  let restartToken ← Ask.storeRestart req
  return .redirect (utf8 (service.publicPathPrefix ++ "/oidc/login?continuation=" ++
    continuationToken ++ "&restart=" ++ restartToken)) none

/-- `handleAuthorize`, behind the validation. -/
def authorizeValid (req : RedirectRequest) (sidCookie : String) : OidcRoutine OidcResponse := do
  if sidCookie = "" then service.toLogin req
  else
    match ← lookupBrowserSession sidCookie with
    | .error _ => service.toLogin req
    | .ok session =>
        match ← service.buildAuthorizeRedirect req session.userId session.tenantId with
        | .ok location => return .redirect location none
        | .error _ => service.toLogin req

/-- `handleAuthorize`. -/
def handleAuthorize (clientId redirectUri responseType scope : String) (state : List UInt8)
    (codeChallenge codeChallengeMethod nonce sidCookie : String) : OidcRoutine OidcResponse :=
  match service.validate clientId redirectUri responseType scope state codeChallenge
      codeChallengeMethod (if nonce = "" then none else some nonce) with
  | .error e => pure (oauthError e)
  | .ok req => service.authorizeValid req sidCookie

/-- The continuation of `handleGet`: one that is missing is stored again, where the restart token
names a request. -/
def recoverContinuation (continuation restart : String) : OidcRoutine String :=
  if continuation = "" ∧ restart ≠ "" then do
    match ← Ask.peekRestart restart with
    | some original => Ask.storePending original
    | none => return continuation
  else pure continuation

/-- `LoginRouteHandler::handleGet`. -/
def handleGet (continuation restart notice : String) : OidcRoutine OidcResponse := do
  let continuation ← recoverContinuation continuation restart
  if continuation = "" then
    return .unresumable ("This sign-in link is missing the token that identifies which " ++
      "application you were signing in to, and it could not be recovered.")
  else
    return .loginForm continuation restart ""
      (if notice = "session_expired" then
        "Your sign-in session expired, so we started it again. Please enter your details below."
      else "")

/-- The request that a restart token names. -/
def recoverRequest (restart : String) : OidcRoutine (Option RedirectRequest) :=
  if restart ≠ "" then Ask.peekRestart restart else pure none

/-- `handlePost` without a request that waits. -/
def restartLogin (restart : String) : OidcRoutine OidcResponse := do
  match ← recoverRequest restart with
  | some original => do
      let fresh ← Ask.storePending original
      return .redirect (utf8 (service.publicPathPrefix ++ "/oidc/login?continuation=" ++ fresh ++
        "&restart=" ++ restart ++ "&notice=session_expired")) none
  | none =>
      return .unresumable ("Your sign-in session expired and could not be restarted " ++
        "automatically, because the request that began it has also lapsed.")

/-- `handlePost` behind the verification of the password. -/
def finishLogin (req : RedirectRequest) (userId : String) : OidcRoutine OidcResponse := do
  let tenantResult ← Ask.getCredentialTenantId userId
  let tenantId := tenantResult.toOption.getD "system"
  match ← service.buildAuthorizeRedirect req userId tenantId with
  | .error _ => return .failed "Failed to complete sign-in"
  | .ok location => do
      let sessionResult ← createBrowserSession userId tenantId
      return .redirect location sessionResult.toOption

/-- `LoginRouteHandler::handlePost`. -/
def handlePost (continuation restart username password : String) : OidcRoutine OidcResponse := do
  match ← Ask.takePending continuation with
  | none => service.restartLogin restart
  | some pending =>
      match ← Ask.verifyCredentialIdentifier username password with
      | .error _ => do
          let retryToken ← Ask.storePending pending
          return .loginForm retryToken restart "Invalid username or password" ""
      | .ok userId => service.finishLogin pending userId

/-- `handleToken`, of an authorization code. -/
def handleCodeGrant (code redirectUri clientId codeVerifier : String) :
    OidcRoutine OidcResponse := do
  if code = "" ∨ redirectUri = "" ∨ clientId = "" then
    return .oauthError "invalid_request" "code, redirect_uri, and client_id are required"
  else
    match ← service.exchangeCode code redirectUri clientId codeVerifier with
    | .error e => return oauthError e
    | .ok response => return .tokens response

/-- `handleToken`, of a refresh token. -/
def handleRefreshGrant (refreshToken clientId : String) : OidcRoutine OidcResponse := do
  if refreshToken = "" ∨ clientId = "" then
    return .oauthError "invalid_request" "refresh_token and client_id are required"
  else
    match ← service.exchangeRefreshToken refreshToken clientId with
    | .error e => return oauthError e
    | .ok response => return .tokens response

/-- Where `handleLogout` goes on to. -/
def postLogoutLocation (postLogoutRedirectUri state clientId : String) : Option String :=
  match service.clients clientId with
  | none => none
  | some client =>
      if client.postLogoutRedirectUris.contains postLogoutRedirectUri then
        some (if state = "" then postLogoutRedirectUri
          else postLogoutRedirectUri ++
            (if '?' ∉ postLogoutRedirectUri.toList then "?" else "&") ++ "state=" ++ state)
      else none

/-- What `handleLogout` does about the session. -/
def endSession (sidCookie : String) : OidcRoutine (Result Unit) :=
  if sidCookie ≠ "" then revokeBrowserSession sidCookie else pure (.ok ())

/-- What `handleLogout` does about the refresh token. -/
def endRefresh (refreshToken : String) : OidcRoutine (Result Bool) :=
  if refreshToken ≠ "" then service.revokeRefreshToken refreshToken else pure (.ok true)

/-- `handleLogout`; only a POST brings a refresh token. -/
def handleLogout (sidCookie refreshToken postLogoutRedirectUri state clientId : String) :
    OidcRoutine OidcResponse := do
  let _ ← endSession sidCookie
  let _ ← service.endRefresh refreshToken
  return .signedOut (if postLogoutRedirectUri ≠ "" ∧ clientId ≠ "" then
    service.postLogoutLocation postLogoutRedirectUri state clientId else none)

end LoginService

/-- A request to one of the routes. -/
inductive OidcRequest where
  | authorize (clientId redirectUri responseType scope : String) (state : List UInt8)
      (codeChallenge codeChallengeMethod nonce sidCookie : String)
  | loginForm (continuation restart notice : String)
  | login (continuation restart username password : String)
  | codeGrant (code redirectUri clientId codeVerifier : String)
  | refreshGrant (refreshToken clientId : String)
  | otherGrant
  | logout (sidCookie refreshToken postLogoutRedirectUri state clientId : String)

/-- The handler of a request. -/
def LoginService.handle (service : LoginService) : OidcRequest → OidcRoutine OidcResponse
  | .authorize clientId redirectUri responseType scope state codeChallenge codeChallengeMethod nonce
      sidCookie =>
      service.handleAuthorize clientId redirectUri responseType scope state codeChallenge
        codeChallengeMethod nonce sidCookie
  | .loginForm continuation restart notice => handleGet continuation restart notice
  | .login continuation restart username password =>
      service.handlePost continuation restart username password
  | .codeGrant code redirectUri clientId codeVerifier =>
      service.handleCodeGrant code redirectUri clientId codeVerifier
  | .refreshGrant refreshToken clientId => service.handleRefreshGrant refreshToken clientId
  | .otherGrant => pure (.oauthError "unsupported_grant_type"
      "only authorization_code and refresh_token are supported")
  | .logout sidCookie refreshToken postLogoutRedirectUri state clientId =>
      service.handleLogout sidCookie refreshToken postLogoutRedirectUri state clientId

/-! ### One request alone -/

/-- The rows, and the texts that are drawn next. -/
structure Alone where
  store : Store
  texts : List String := []

/-- An operation on the rows. -/
def Alone.perform {α : Type} (s : Alone) (act : Act Error Store α) : Result α × Alone :=
  ((act s.store).1, { s with store := (act s.store).2 })

theorem call_const {α : Type} (a : α) (effect : Rows → Rows) :
    call (fun _ => a) effect = (do call (fun _ => ()) effect; return a) := by
  funext s
  rcases s with ⟨rows, _ | ⟨_ | _ | _, faults⟩⟩ <;> rfl

/-- How the calls of an exchange are served when no other request comes between them. -/
def Surroundings.serve (around : Surroundings) : (request : OidcCall) → Alone → request.Answer × Alone
  | .nowUnix, s => (around.now, s)
  | .generateToken, s => (s.texts.headD "", { s with texts := s.texts.tail })
  | .getUserRoleByUsername _, s => (around.role, s)
  | .createSession _, s => s.perform do
      let sid ← Act.ofExcept around.sid
      call (fun _ => sid) id
  | .createCode code, s => s.perform (createCode { code with id := around.rowId })
  | .listCodes codeHash, s => s.perform (listCodes (fun code => code.codeHash = codeHash) 1)
  | .updateCode id now, s => s.perform (updateCode id now)
  | .createToken token, s => s.perform (createToken { token with id := around.rowId })
  | .listTokens tokenHash, s => s.perform (listTokens (fun token => token.tokenHash = tokenHash) 1)
  | .listFamily familyId, s => s.perform (listTokens (fun token => token.familyId = familyId) 1000)
  | .updateToken id now, s => s.perform (updateToken id now)
  | .sign _ _, s => (around.signs, s)
  | .storePending _, s | .storeRestart _, s => ("", s)
  | .takePending _, s | .peekRestart _, s => (none, s)
  | .verifyCredentialIdentifier _ _, s | .getCredentialTenantId _, s =>
      (.error (.notFound "not an exchange"), s)
  | .getSession _, s => (.error (.notFound "not an exchange"), s)
  | .revokeSession _ _, s => (.ok (), s)

namespace Alone

variable {α β : Type} (s : Alone)

/-- One operation after another. -/
theorem perform_bind (x : Act Error Store α) (f : α → Act Error Store β) :
    s.perform (x >>= f) =
      match s.perform x with
      | (.error e, s') => (.error e, s')
      | (.ok a, s') => s'.perform (f a) := by
  simp only [perform, Act.bind_apply]
  rcases x s.store with ⟨e | a, store⟩ <;> rfl

theorem perform_catching (x : Act Error Store α) (handler : Error → α) :
    s.perform (x.catching handler) =
      match s.perform x with
      | (.error e, s') => (.ok (handler e), s')
      | (.ok a, s') => (.ok a, s') := by
  simp only [perform, Act.catching]
  rcases x s.store with ⟨e | a, store⟩ <;> rfl

end Alone

section Serve

variable {α : Type} (around : Surroundings) (s : Alone)

theorem ask_nowUnix (f : Int → OidcRoutine α) :
    (Ask.nowUnix >>= f).run around.serve s = (f around.now).run around.serve s := rfl

theorem ask_generateToken (f : String → OidcRoutine α) :
    (Ask.generateToken >>= f).run around.serve s =
      (f (s.texts.headD "")).run around.serve { s with texts := s.texts.tail } := rfl

theorem ask_getUserRoleByUsername (username : String) (f : Result String → OidcRoutine α) :
    (Ask.getUserRoleByUsername username >>= f).run around.serve s =
      (f around.role).run around.serve s := rfl

theorem ask_sign (idToken : IdTokenClaims) (accessToken : AccessTokenClaims)
    (f : Bool → OidcRoutine α) : (Ask.sign idToken accessToken >>= f).run around.serve s =
      (f around.signs).run around.serve s := rfl

theorem ask_createSession (session : OidcSession) (f : Result String → OidcRoutine α) :
    (Ask.createSession session >>= f).run around.serve s =
      let created := s.perform do
        let sid ← Act.ofExcept around.sid
        call (fun _ => sid) id
      (f created.1).run around.serve created.2 := rfl

theorem ask_createCode (code : AuthorizationCode) (f : Result Unit → OidcRoutine α) :
    (Ask.createCode code >>= f).run around.serve s =
      let created := s.perform (createCode { code with id := around.rowId })
      (f created.1).run around.serve created.2 := rfl

theorem ask_listCodes (codeHash : String) (f : Result (List AuthorizationCode) → OidcRoutine α) :
    (Ask.listCodes codeHash >>= f).run around.serve s =
      let listed := s.perform (listCodes (fun code => code.codeHash = codeHash) 1)
      (f listed.1).run around.serve listed.2 := rfl

theorem ask_updateCode (id : String) (now : Int) (f : Result Unit → OidcRoutine α) :
    (Ask.updateCode id now >>= f).run around.serve s =
      let updated := s.perform (updateCode id now)
      (f updated.1).run around.serve updated.2 := rfl

theorem ask_createToken (token : RefreshToken) (f : Result Unit → OidcRoutine α) :
    (Ask.createToken token >>= f).run around.serve s =
      let created := s.perform (createToken { token with id := around.rowId })
      (f created.1).run around.serve created.2 := rfl

theorem ask_listTokens (tokenHash : String) (f : Result (List RefreshToken) → OidcRoutine α) :
    (Ask.listTokens tokenHash >>= f).run around.serve s =
      let listed := s.perform (listTokens (fun token => token.tokenHash = tokenHash) 1)
      (f listed.1).run around.serve listed.2 := rfl

theorem ask_listFamily (familyId : String) (f : Result (List RefreshToken) → OidcRoutine α) :
    (Ask.listFamily familyId >>= f).run around.serve s =
      let listed := s.perform (listTokens (fun token => token.familyId = familyId) 1000)
      (f listed.1).run around.serve listed.2 := rfl

theorem ask_updateToken (id : String) (now : Int) (f : Result Unit → OidcRoutine α) :
    (Ask.updateToken id now >>= f).run around.serve s =
      let updated := s.perform (updateToken id now)
      (f updated.1).run around.serve updated.2 := rfl

end Serve

namespace LoginService

/-- The service of the exchanges. -/
def exchanges (service : LoginService) : OidcService where
  clients clientId := (service.clients clientId).map (·.toOAuthClient)
  hash := service.hash
  sha256 := service.sha256

variable (service : LoginService) (around : Surroundings)

theorem exchanges_hash : service.exchanges.hash = service.hash := rfl

theorem exchanges_clients (clientId : String) :
    service.exchanges.clients clientId = (service.clients clientId).map (·.toOAuthClient) := rfl

theorem exchanges_verifyS256 : service.exchanges.verifyS256 = service.verifyS256 := rfl

/-- Alone, `redeem` does what it does on the rows. -/
theorem run_redeem (rawCode clientIdHint : String) (s : Alone) :
    (service.redeem rawCode clientIdHint).run around.serve s =
      s.perform (AuthCodeStore.redeem service.hash around.now rawCode clientIdHint) := by
  rw [redeem, ask_listCodes, AuthCodeStore.redeem, Alone.perform_bind]
  rcases s.perform (listCodes (fun code => code.codeHash = service.hash rawCode) 1) with
    ⟨e | _ | ⟨row, rows⟩, s⟩
  · rfl
  · rfl
  · dsimp only
    split_ifs with hclient hconsumed hexpired
    · rfl
    · rfl
    · rw [ask_nowUnix, if_pos hexpired]
      rfl
    · rw [ask_nowUnix, if_neg hexpired, ask_nowUnix, ask_updateCode, Alone.perform_bind]
      rcases s.perform (updateCode row.id around.now) with ⟨e | _, s⟩ <;> rfl

/-- The loop of `revokeFamily` goes on whatever fails. -/
theorem run_revokeAll (rows : List RefreshToken) (s : Alone) :
    ∃ s', s.perform (RefreshTokenStore.revokeAll around.now rows) = (.ok (), s') ∧
      (revokeAll around.now rows).run around.serve s = ((), s') := by
  induction rows generalizing s with
  | nil => exact ⟨s, rfl, rfl⟩
  | cons row rows ih =>
      rw [RefreshTokenStore.revokeAll, revokeAll]
      split_ifs
      · exact ih s
      · rw [ask_updateToken, Alone.perform_bind, Alone.perform_catching]
        rcases s.perform (updateToken row.id around.now) with ⟨e | _, s⟩ <;> exact ih s

theorem run_revokeFamily (familyId : String) (s : Alone) :
    ∃ s', s.perform (RefreshTokenStore.revokeFamily around.now familyId) = (.ok (), s') ∧
      (revokeFamily familyId).run around.serve s = ((), s') := by
  rw [RefreshTokenStore.revokeFamily, revokeFamily, ask_listFamily, Alone.perform_catching,
    Alone.perform_bind]
  rcases s.perform (listTokens (fun token => token.familyId = familyId) 1000) with ⟨e | rows, s⟩
  · exact ⟨s, rfl, rfl⟩
  · obtain ⟨s', hact, hrun⟩ := run_revokeAll around rows s
    refine ⟨s', ?_, hrun⟩
    dsimp only
    rw [hact]

/-- Alone, `rotate` does what it does on the rows. -/
theorem run_rotate (rawToken clientIdHint : String) (s : Alone) :
    (service.rotate rawToken clientIdHint).run around.serve s =
      s.perform (RefreshTokenStore.rotate service.hash around.now rawToken clientIdHint) := by
  rw [rotate, ask_listTokens, RefreshTokenStore.rotate, Alone.perform_bind]
  rcases s.perform (listTokens (fun token => token.tokenHash = service.hash rawToken) 1) with
    ⟨e | _ | ⟨row, rows⟩, s⟩
  · rfl
  · rfl
  · dsimp only
    split_ifs with hclient hrevoked hexpired
    · rfl
    · obtain ⟨s', hact, hrun⟩ := run_revokeFamily around row.familyId s
      rw [Routine.run_bind, hrun, Alone.perform_bind, hact]
      rfl
    · rw [ask_nowUnix, if_pos hexpired]
      rfl
    · rw [ask_nowUnix, if_neg hexpired, ask_nowUnix, ask_updateToken, Alone.perform_bind]
      rcases s.perform (updateToken row.id around.now) with ⟨e | _, s⟩ <;> rfl

/-- Alone, `revoke` does what it does on the rows. -/
theorem run_revokeRefreshToken (rawToken : String) (s : Alone) :
    (service.revokeRefreshToken rawToken).run around.serve s =
      s.perform (service.exchanges.revokeRefreshToken around.now rawToken) := by
  rw [revokeRefreshToken, ask_listTokens, OidcService.revokeRefreshToken, RefreshTokenStore.revoke,
    Alone.perform_bind, exchanges_hash]
  rcases s.perform (listTokens (fun token => token.tokenHash = service.hash rawToken) 1) with
    ⟨e | _ | ⟨row, rows⟩, s⟩
  · rfl
  · rfl
  · dsimp only
    split_ifs with hrevoked
    · rfl
    · rw [ask_nowUnix, ask_updateToken, Alone.perform_bind]
      rcases s.perform (updateToken row.id around.now) with ⟨e | _, s⟩ <;> rfl

/-- The rows behind a request, and its answer. -/
def outcome {α : Type} (run : α × Alone) : α × Store := (run.1, run.2.store)

/-- Alone, `issueCode` writes the code that it draws. -/
theorem run_issueCode (req : AuthorizeRequest) (userId tenantId : String) {s : Alone}
    (hdrawn : s.texts.headD "" = around.token) :
    outcome ((service.issueCode req userId tenantId).run around.serve s) =
      service.exchanges.issueCode around.toDraw req userId tenantId s.store := by
  rw [issueCode, ask_generateToken, ask_nowUnix, ask_nowUnix, ask_createCode, hdrawn,
    OidcService.issueCode, AuthCodeStore.issue, Act.bind_apply]
  dsimp only [Alone.perform, exchanges]
  rcases createCode _ s.store with ⟨e | _, store⟩ <;> rfl

/-- Alone, `createSession` answers with the id that the surroundings give. -/
theorem run_createSession (userId tenantId clientId : String) (s : Alone) :
    (createSession userId tenantId clientId).run around.serve s =
      s.perform (OidcService.createSession around) := by
  rw [createSession, ask_nowUnix, ask_nowUnix, ask_nowUnix, ask_createSession,
    OidcService.createSession]
  rcases hsid : around.sid with e | sid
  · rfl
  · simp only [Alone.perform, Act.bind_apply, Act.ofExcept_apply]
    rw [call_const sid, Act.bind_apply]
    rcases call (fun _ => ()) id s.store with ⟨e | _, store⟩
    · rfl
    · dsimp only [Act.pure_apply]
      split_ifs <;> rfl

/-- Alone, `issue` writes the token that it draws, under the family that it is given or draws. -/
theorem run_issueToken (req : RefreshTokenRequest) (ttlSeconds : Int) {s : Alone}
    {texts : List String} (hdrawn : s.texts = around.token :: around.familyId :: texts) :
    outcome ((service.issueToken req ttlSeconds).run around.serve s) =
      RefreshTokenStore.issue service.hash around.toDraw req ttlSeconds s.store := by
  have hfamily : ∃ texts', (familyOf req.familyId).run around.serve { s with texts := s.texts.tail } =
      (if req.familyId = "" then around.familyId else req.familyId, ⟨s.store, texts'⟩) := by
    rw [familyOf, hdrawn]
    split_ifs
    · exact ⟨_, rfl⟩
    · exact ⟨_, rfl⟩
  obtain ⟨texts', hfamily⟩ := hfamily
  rw [issueToken, ask_generateToken, Routine.run_bind, hfamily, ask_nowUnix, ask_nowUnix,
    ask_createToken, hdrawn, RefreshTokenStore.issue, Act.bind_apply, RefreshTokenStore.newToken]
  dsimp only [Alone.perform, List.headD_cons]
  rcases createToken _ s.store with ⟨e | _, store⟩ <;> rfl

/-- A refresh token, or none. -/
theorem run_issueRefresh (req : RefreshTokenRequest) (ttlSeconds : Int) {s : Alone}
    {texts : List String} (hdrawn : s.texts = around.token :: around.familyId :: texts) :
    ∃ token store, service.exchanges.issueRefresh around.toDraw req ttlSeconds s.store =
        (.ok token, store) ∧
      outcome ((service.issueRefresh req ttlSeconds).run around.serve s) = (token, store) := by
  have hissue := service.run_issueToken around req ttlSeconds hdrawn
  rw [OidcService.issueRefresh, Act.catching, exchanges_hash, ← hissue, issueRefresh, Routine.run_bind]
  rcases (service.issueToken req ttlSeconds).run around.serve s with ⟨e | token, s'⟩
  · exact ⟨_, _, rfl, rfl⟩
  · exact ⟨_, _, rfl, rfl⟩

/-- What is signed, with the refresh token at the end. -/
theorem run_signTokens (client : LoginClient) (grant : Grant) (refresh : OidcRoutine String)
    (s : Alone) :
    (signTokens client grant refresh).run around.serve s =
      if around.signs then
        let refreshed := refresh.run around.serve s
        (.ok {
          idToken := { subject := grant.userId, audience := grant.clientId, sid := grant.sid,
                       tenantId := grant.tenantId, authTime := around.now, nonce := grant.nonce,
                       ttlSeconds := client.idTokenTtlSeconds }
          accessToken := { subject := grant.userId, audience := grant.clientId,
                           tenantId := grant.tenantId, scope := grant.scope,
                           role := around.role.toOption.getD "user",
                           ttlSeconds := client.accessTokenTtlSeconds }
          refreshToken := refreshed.1, expiresIn := client.accessTokenTtlSeconds
          scope := grant.scope }, refreshed.2)
      else (.error (.internal "token signing failed"), s) := by
  rw [signTokens, ask_nowUnix, ask_getUserRoleByUsername, ask_sign]
  cases around.signs with
  | false => rfl
  | true =>
      rw [if_neg (by decide), if_pos rfl, Routine.run_bind]
      rfl

/-- **Alone, the exchange of a code does what it does on the rows.** -/
theorem run_exchangeCode (code redirectUri clientId codeVerifier : String) {s : Alone}
    {texts : List String} (hdrawn : s.texts = around.token :: around.familyId :: texts) :
    outcome ((service.exchangeCode code redirectUri clientId codeVerifier).run around.serve s) =
      service.exchanges.exchangeCode around code redirectUri clientId codeVerifier s.store := by
  rw [exchangeCode, OidcService.exchangeCode, exchanges_clients, exchanges_hash,
    exchanges_verifyS256]
  rcases hclient : service.clients clientId with _ | client
  · rfl
  · dsimp only [Option.map_some]
    rw [Routine.run_bind, run_redeem, Act.bind_apply, Alone.perform]
    rcases AuthCodeStore.redeem service.hash around.now code clientId s.store with ⟨e | rc, store⟩
    · rfl
    · dsimp only
      by_cases hredirect : rc.redirectUri ≠ redirectUri
      · rw [if_pos hredirect, if_pos hredirect]
        rfl
      by_cases hverifier : codeVerifier = ""
      · rw [if_neg hredirect, if_neg hredirect, if_pos hverifier, if_pos hverifier]
        rfl
      rw [if_neg hredirect, if_neg hredirect, if_neg hverifier, if_neg hverifier]
      cases service.verifyS256 codeVerifier rc.codeChallenge with
      | false => rfl
      | true =>
          have hproved : ¬ (!true) = true := Bool.false_ne_true
          rw [if_neg hproved, if_neg hproved, Routine.run_bind, run_createSession, Act.bind_apply,
            Alone.perform]
          rcases OidcService.createSession around store with ⟨e | sid, store⟩
          · rfl
          · dsimp only
            rw [run_signTokens]
            cases around.signs with
            | false => rfl
            | true =>
                rw [if_pos rfl, if_neg hproved]
                by_cases hoffline : scopeContains rc.scope "offline_access"
                · obtain ⟨token, store', hact, hrun⟩ := @run_issueRefresh service around
                    { clientId := rc.clientId, userId := rc.userId, tenantId := rc.tenantId,
                      scope := rc.scope } client.refreshTokenTtlSeconds ⟨store, s.texts⟩ _ hdrawn
                  rw [if_pos hoffline, if_pos hoffline, Act.bind_ok hact]
                  obtain ⟨rfl, rfl⟩ := Prod.mk.inj hrun
                  rfl
                · rw [if_neg hoffline, if_neg hoffline]
                  rfl

/-- **Alone, the exchange of a refresh token does what it does on the rows.** -/
theorem run_exchangeRefreshToken (refreshToken clientId : String) {s : Alone}
    {texts : List String} (hdrawn : s.texts = around.token :: around.familyId :: texts) :
    outcome ((service.exchangeRefreshToken refreshToken clientId).run around.serve s) =
      service.exchanges.exchangeRefreshToken around refreshToken clientId s.store := by
  rw [exchangeRefreshToken, OidcService.exchangeRefreshToken, exchanges_clients, exchanges_hash]
  rcases hclient : service.clients clientId with _ | client
  · rfl
  · dsimp only [Option.map_some]
    rw [Routine.run_bind, run_rotate, Act.bind_apply, Alone.perform]
    rcases RefreshTokenStore.rotate service.hash around.now refreshToken clientId s.store with
      ⟨e | rt, store⟩
    · rfl
    · obtain ⟨token, store', hact, hrun⟩ := @run_issueRefresh service around
        (OidcService.nextRequest rt) client.refreshTokenTtlSeconds ⟨store, s.texts⟩ _ hdrawn
      dsimp only
      rw [run_signTokens]
      cases around.signs with
      | false => rfl
      | true =>
          rw [if_pos rfl, if_neg (by decide), Act.bind_ok hact]
          obtain ⟨rfl, rfl⟩ := Prod.mk.inj hrun
          rfl

end LoginService
end Oidc
end Dbal
