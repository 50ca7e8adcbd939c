/-
# Authorization codes and refresh tokens

`src/oidc/tokens/auth_code_store.cpp` and `src/oidc/tokens/refresh_token_store.cpp` over a store
that keeps what was written.  A row has the fields that `issue` writes; a call that fails
may have been carried out all the same.

The generated tokens, the id of a new row, the clock and the hash are what the surroundings
give: one `Draw` for each operation.
-/

import Dbal.Core.Error
import Dbal.Store.Act

namespace Dbal
namespace Oidc

/-- A row of `AuthorizationCode`. -/
structure AuthorizationCode where
  id : String
  codeHash : String
  clientId : String
  userId : String
  tenantId : String
  redirectUri : String
  codeChallenge : String
  codeChallengeMethod : String
  scope : String
  nonce : Option String
  expiresAt : Int
  consumedAt : Option Int
  createdAt : Int
  deriving DecidableEq, Repr

/-- A row of `RefreshToken`. -/
structure RefreshToken where
  id : String
  tokenHash : String
  familyId : String
  clientId : String
  userId : String
  tenantId : String
  scope : String
  parentId : Option String
  revokedAt : Option Int
  expiresAt : Int
  createdAt : Int
  deriving DecidableEq, Repr

/-- The rows of the two entities. -/
structure Rows where
  codes : List AuthorizationCode := []
  tokens : List RefreshToken := []
  deriving DecidableEq, Repr

/-! ### The calls of the client -/

/-- A call that answers with an error, carried out or not. -/
inductive Fault where
  | refused (e : Error)
  | lost (e : Error)

/-- The rows, and what happens to the calls to come; later ones succeed. -/
structure Store where
  rows : Rows := {}
  faults : List (Option Fault) := []

/-- A call of the client. -/
def call {α : Type} (answer : Rows → α) (effect : Rows → Rows) : Act Error Store α := fun s =>
  match s.faults with
  | [] => (.ok (answer s.rows), ⟨effect s.rows, []⟩)
  | none :: faults => (.ok (answer s.rows), ⟨effect s.rows, faults⟩)
  | some (.refused e) :: faults => (.error e, ⟨s.rows, faults⟩)
  | some (.lost e) :: faults => (.error e, ⟨effect s.rows, faults⟩)

/-- The three ways in which a call ends. -/
theorem call_cases {α : Type} (answer : Rows → α) (effect : Rows → Rows) (s : Store) :
    ∃ faults, call answer effect s = (.ok (answer s.rows), ⟨effect s.rows, faults⟩) ∨
      (∃ e, call answer effect s = (.error e, ⟨s.rows, faults⟩)) ∨
      ∃ e, call answer effect s = (.error e, ⟨effect s.rows, faults⟩) := by
  rcases s with ⟨rows, _ | ⟨_ | _ | _, faults⟩⟩
  · exact ⟨[], Or.inl rfl⟩
  · exact ⟨faults, Or.inl rfl⟩
  · exact ⟨faults, Or.inr (Or.inl ⟨_, rfl⟩)⟩
  · exact ⟨faults, Or.inr (Or.inr ⟨_, rfl⟩)⟩

/-- `updateEntity("RefreshToken", id, {"revokedAt": now})`. -/
def Rows.revokeAt (rows : Rows) (id : String) (now : Int) : Rows :=
  { rows with tokens := rows.tokens.map fun token =>
      if token.id = id then { token with revokedAt := some now } else token }

/-- `updateEntity("AuthorizationCode", id, {"consumedAt": now})`. -/
def Rows.consumeAt (rows : Rows) (id : String) (now : Int) : Rows :=
  { rows with codes := rows.codes.map fun code =>
      if code.id = id then { code with consumedAt := some now } else code }

def listTokens (filter : RefreshToken → Bool) (limit : Nat) : Act Error Store (List RefreshToken) :=
  call (fun rows => (rows.tokens.filter filter).take limit) id

def listCodes (filter : AuthorizationCode → Bool) (limit : Nat) :
    Act Error Store (List AuthorizationCode) :=
  call (fun rows => (rows.codes.filter filter).take limit) id

def createToken (token : RefreshToken) : Act Error Store Unit :=
  call (fun _ => ()) fun rows => { rows with tokens := rows.tokens ++ [token] }

def createCode (code : AuthorizationCode) : Act Error Store Unit :=
  call (fun _ => ()) fun rows => { rows with codes := rows.codes ++ [code] }

def updateToken (id : String) (now : Int) : Act Error Store Unit :=
  call (fun _ => ()) fun rows => rows.revokeAt id now

def updateCode (id : String) (now : Int) : Act Error Store Unit :=
  call (fun _ => ()) fun rows => rows.consumeAt id now

/-! ### The surroundings -/

/-- `sha256_hex`. -/
abbrev Hash := String → String

/-- What one operation draws: the time, a token, the id of a family and that of a row. -/
structure Draw where
  now : Int
  token : String
  familyId : String
  rowId : String

/-! ### Codes -/

/-- `AuthorizationCodeRequest`. -/
structure AuthorizationCodeRequest where
  clientId : String
  userId : String
  tenantId : String
  redirectUri : String
  codeChallenge : String
  codeChallengeMethod : String
  scope : String
  nonce : Option String

/-- `RedeemedCode`. -/
structure RedeemedCode where
  clientId : String
  userId : String
  tenantId : String
  redirectUri : String
  codeChallenge : String
  codeChallengeMethod : String
  scope : String
  nonce : Option String

namespace AuthCodeStore

/-- `issue`. -/
def issue (hash : Hash) (draw : Draw) (ttlSeconds : Int) (req : AuthorizationCodeRequest) :
    Act Error Store String := do
  createCode
    { id := draw.rowId, codeHash := hash draw.token, clientId := req.clientId, userId := req.userId,
      tenantId := req.tenantId, redirectUri := req.redirectUri, codeChallenge := req.codeChallenge,
      codeChallengeMethod := req.codeChallengeMethod, scope := req.scope, nonce := req.nonce,
      expiresAt := draw.now + ttlSeconds, consumedAt := none, createdAt := draw.now }
  return draw.token

/-- `redeem`. -/
def redeem (hash : Hash) (now : Int) (rawCode clientIdHint : String) :
    Act Error Store RedeemedCode := do
  match ← listCodes (fun code => code.codeHash = hash rawCode) 1 with
  | [] => .throw (.notFound "invalid_grant: authorization code not found")
  | row :: _ =>
      if row.clientId ≠ clientIdHint then
        .throw (.validationError "invalid_grant: client_id mismatch")
      else if row.consumedAt.isSome then
        .throw (.validationError "invalid_grant: authorization code already used")
      else if row.expiresAt ≤ now then
        .throw (.validationError "invalid_grant: authorization code expired")
      else do
        updateCode row.id now
        return { clientId := row.clientId, userId := row.userId, tenantId := row.tenantId,
                 redirectUri := row.redirectUri, codeChallenge := row.codeChallenge,
                 codeChallengeMethod := row.codeChallengeMethod, scope := row.scope,
                 nonce := row.nonce }

end AuthCodeStore

/-! ### Refresh tokens -/

/-- `RefreshTokenRequest`; without a family a new one starts. -/
structure RefreshTokenRequest where
  clientId : String
  userId : String
  tenantId : String
  scope : String
  familyId : String := ""
  parentId : Option String := none

/-- `RotatedRefreshToken`. -/
structure RotatedRefreshToken where
  tokenId : String
  clientId : String
  userId : String
  tenantId : String
  scope : String
  familyId : String
  deriving DecidableEq, Repr

namespace RefreshTokenStore

/-- The row that `issue` writes. -/
def newToken (hash : Hash) (draw : Draw) (req : RefreshTokenRequest) (ttlSeconds : Int) :
    RefreshToken where
  id := draw.rowId
  tokenHash := hash draw.token
  familyId := if req.familyId = "" then draw.familyId else req.familyId
  clientId := req.clientId
  userId := req.userId
  tenantId := req.tenantId
  scope := req.scope
  parentId := req.parentId
  revokedAt := none
  expiresAt := draw.now + ttlSeconds
  createdAt := draw.now

/-- `issue`. -/
def issue (hash : Hash) (draw : Draw) (req : RefreshTokenRequest) (ttlSeconds : Int) :
    Act Error Store String := do
  createToken (newToken hash draw req ttlSeconds)
  return draw.token

/-- The loop of `revokeFamily`; a row that cannot be updated is passed over. -/
def revokeAll (now : Int) : List RefreshToken → Act Error Store Unit
  | [] => pure ()
  | row :: rows =>
      if row.revokedAt.isSome ∨ row.id = "" then revokeAll now rows
      else do
        (updateToken row.id now).catching fun _ => ()
        revokeAll now rows

/-- `revokeFamily`. -/
def revokeFamily (now : Int) (familyId : String) : Act Error Store Unit :=
  (do revokeAll now (← listTokens (fun token => token.familyId = familyId) 1000)).catching fun _ => ()

/-- `rotate`. -/
def rotate (hash : Hash) (now : Int) (rawToken clientIdHint : String) :
    Act Error Store RotatedRefreshToken := do
  match ← listTokens (fun token => token.tokenHash = hash rawToken) 1 with
  | [] => .throw (.notFound "invalid_grant: refresh token not found")
  | row :: _ =>
      if row.clientId ≠ clientIdHint then
        .throw (.validationError "invalid_grant: client_id mismatch")
      else if row.revokedAt.isSome then do
        revokeFamily now row.familyId
        .throw (.validationError
          "invalid_grant: refresh token reuse detected — token family revoked")
      else if row.expiresAt ≤ now then
        .throw (.validationError "invalid_grant: refresh token expired")
      else do
        updateToken row.id now
        return { tokenId := row.id, clientId := row.clientId, userId := row.userId,
                 tenantId := row.tenantId, scope := row.scope, familyId := row.familyId }

/-- `revoke`. -/
def revoke (hash : Hash) (now : Int) (rawToken : String) : Act Error Store Bool := do
  match ← listTokens (fun token => token.tokenHash = hash rawToken) 1 with
  | [] => return true
  | row :: _ =>
      if row.revokedAt.isSome then return true
      else do
        updateToken row.id now
        return true

end RefreshTokenStore
end Oidc
end Dbal
