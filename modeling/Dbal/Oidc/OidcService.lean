/-
# The exchanges

`issueCode`, `exchangeCode`, `exchangeRefreshToken` and `revokeRefreshToken` of
`src/oidc/oidc_service.cpp`, and the check of a verifier in `src/oidc/pkce/pkce.hpp`.

Signing is the work of a library: an answer holds the claims that were signed.  The rows
of `OidcSession` and the roles of users are read by nothing here, so that a session is
its id and a role what the surroundings answer.
-/

import Dbal.Oidc.TokenStore
import Dbal.Security.Base64Url

namespace Dbal
namespace Oidc

/-- `OAuthClient`, the lifetimes. -/
structure OAuthClient where
  accessTokenTtlSeconds : Int := 900
  refreshTokenTtlSeconds : Int := 1209600
  idTokenTtlSeconds : Int := 900

/-- `IdTokenClaims`. -/
structure IdTokenClaims where
  subject : String
  audience : String
  sid : String
  tenantId : String
  authTime : Int
  nonce : Option String := none
  ttlSeconds : Int

/-- `AccessTokenClaims`. -/
structure AccessTokenClaims where
  subject : String
  audience : String
  tenantId : String
  scope : String
  role : String
  ttlSeconds : Int

/-- `TokenResponse`. -/
structure TokenResponse where
  idToken : IdTokenClaims
  accessToken : AccessTokenClaims
  refreshToken : String
  expiresIn : Int
  scope : String

/-- `AuthorizeRequest`, without the state that only the redirect carries. -/
structure AuthorizeRequest where
  clientId : String
  redirectUri : String
  scope : String
  codeChallenge : String
  codeChallengeMethod : String
  nonce : Option String

/-! ### Verifiers -/

/-- `isValidCodeVerifierFormat`. -/
def isValidCodeVerifierFormat (verifier : String) : Bool :=
  43 ≤ verifier.utf8ByteSize ∧ verifier.utf8ByteSize ≤ 128 ∧
    verifier.toList.all fun c => c.isAlphanum ∨ c = '-' ∨ c = '.' ∨ c = '_' ∨ c = '~'

/-- `sha256_bytes`. -/
abbrev Digest := String → List UInt8

/-- `deriveS256Challenge`. -/
def deriveS256Challenge (sha256 : Digest) (codeVerifier : String) : String :=
  Security.base64urlEncode (sha256 codeVerifier)

/-- `verifyS256`. -/
def verifyS256 (sha256 : Digest) (codeVerifier storedChallenge : String) : Bool :=
  isValidCodeVerifierFormat codeVerifier && deriveS256Challenge sha256 codeVerifier == storedChallenge

def demoVerifier : String := "dBjftJeZ4CVP-mB92K27uhbUJU1p1r_wW1gFWFOEjXk"

/-- The digest of the verifier. -/
def demoDigest : List UInt8 :=
  [19, 211, 30, 150, 26, 26, 216, 236, 47, 22, 177, 12, 76, 152, 46, 8, 118, 168, 120, 173, 109, 241,
    68, 86, 110, 225, 137, 74, 203, 112, 249, 195]

def demoChallenge : String := "E9Melhoa2OwvFrEMTJguCHaoeK1t8URWbuGJSstw-cM"

example : verifyS256 (fun _ => demoDigest) demoVerifier demoChallenge := by decide +kernel

/-! ### The service -/

/-- The configuration and the libraries of the service. -/
structure OidcService where
  clients : String → Option OAuthClient
  hash : Hash
  sha256 : Digest

/-- What an exchange draws besides: the id of the session, the answer to the look-up of the
role, and whether signing succeeds. -/
structure Surroundings extends Draw where
  sid : Result String
  role : Result String
  signs : Bool

/-- `scopeContains`. -/
def scopeContains (scope token : String) : Bool :=
  (scope.toList.splitOn ' ').contains token.toList

namespace OidcService

variable (service : OidcService)

def verifyS256 : (codeVerifier codeChallenge : String) → Bool := Oidc.verifyS256 service.sha256

/-- `issueCode`. -/
def issueCode (draw : Draw) (req : AuthorizeRequest) (userId tenantId : String) :
    Act Error Store String :=
  AuthCodeStore.issue service.hash draw 60
    { clientId := req.clientId, userId, tenantId, redirectUri := req.redirectUri,
      codeChallenge := req.codeChallenge, codeChallengeMethod := req.codeChallengeMethod,
      scope := req.scope, nonce := req.nonce }

/-- `createSession`: the row is created, or not. -/
def createSession (around : Surroundings) : Act Error Store String := do
  let sid ← Act.ofExcept around.sid
  call (fun _ => ()) id
  if sid = "" then .throw (.internal "OidcSession created but no id returned") else return sid

/-- The token at the end of an exchange; without one the answer is the same. -/
def issueRefresh (draw : Draw) (req : RefreshTokenRequest) (ttlSeconds : Int) :
    Act Error Store String :=
  (RefreshTokenStore.issue service.hash draw req ttlSeconds).catching fun _ => ""

/-- `exchangeCode`. -/
def exchangeCode (around : Surroundings) (code redirectUri clientId codeVerifier : String) :
    Act Error Store TokenResponse := do
  match service.clients clientId with
  | none => .throw (.validationError "invalid_client: unknown client_id")
  | some client => do
      let rc ← AuthCodeStore.redeem service.hash around.now code clientId
      if rc.redirectUri ≠ redirectUri then
        .throw (.validationError "invalid_grant: redirect_uri mismatch")
      else if codeVerifier = "" then
        .throw (.validationError "invalid_grant: code_verifier required")
      else if !service.verifyS256 codeVerifier rc.codeChallenge then
        .throw (.validationError "invalid_grant: PKCE verification failed")
      else do
        let sid ← createSession around
        if !around.signs then .throw (.internal "token signing failed")
        else do
          let refreshToken ←
            if scopeContains rc.scope "offline_access" then
              service.issueRefresh around.toDraw
                { clientId := rc.clientId, userId := rc.userId, tenantId := rc.tenantId,
                  scope := rc.scope } client.refreshTokenTtlSeconds
            else pure ""
          return {
            idToken := { subject := rc.userId, audience := rc.clientId, sid,
                         tenantId := rc.tenantId, authTime := around.now, nonce := rc.nonce,
                         ttlSeconds := client.idTokenTtlSeconds }
            accessToken := { subject := rc.userId, audience := rc.clientId,
                             tenantId := rc.tenantId, scope := rc.scope,
                             role := around.role.toOption.getD "user",
                             ttlSeconds := client.accessTokenTtlSeconds }
            refreshToken, expiresIn := client.accessTokenTtlSeconds, scope := rc.scope }

/-- The request for the token that follows a rotated one. -/
def nextRequest (rt : RotatedRefreshToken) : RefreshTokenRequest where
  clientId := rt.clientId
  userId := rt.userId
  tenantId := rt.tenantId
  scope := rt.scope
  familyId := rt.familyId
  parentId := some rt.tokenId

/-- `exchangeRefreshToken`. -/
def exchangeRefreshToken (around : Surroundings) (refreshToken clientId : String) :
    Act Error Store TokenResponse := do
  match service.clients clientId with
  | none => .throw (.validationError "invalid_client: unknown client_id")
  | some client => do
      let rt ← RefreshTokenStore.rotate service.hash around.now refreshToken clientId
      if !around.signs then .throw (.internal "token signing failed")
      else do
        let refreshToken ←
          service.issueRefresh around.toDraw (nextRequest rt) client.refreshTokenTtlSeconds
        return {
          idToken := { subject := rt.userId, audience := rt.clientId, sid := "",
                       tenantId := rt.tenantId, authTime := around.now,
                       ttlSeconds := client.idTokenTtlSeconds }
          accessToken := { subject := rt.userId, audience := rt.clientId,
                           tenantId := rt.tenantId, scope := rt.scope,
                           role := around.role.toOption.getD "user",
                           ttlSeconds := client.accessTokenTtlSeconds }
          refreshToken, expiresIn := client.accessTokenTtlSeconds, scope := rt.scope }

/-- `revokeRefreshToken`. -/
def revokeRefreshToken (now : Int) (refreshToken : String) : Act Error Store Bool :=
  RefreshTokenStore.revoke service.hash now refreshToken

end OidcService
end Oidc
end Dbal
