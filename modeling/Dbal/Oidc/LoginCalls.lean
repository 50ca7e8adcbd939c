/-
# What the handlers of a sign-in share

The calls that the handlers of `src/daemon/handlers/oidc/` and `src/oidc/` make: to the two stores of
`pending_authorize_store.hpp`, to the rows behind the client, to the clock and the generator of tokens.
A handler is a routine: between any two of its calls the handlers of other requests may make theirs.

A call to the client may fail, carried out or not.  Where the client has a cache, a session may be read
as it was at some earlier time.  A generated token was not drawn before, a new row
has an id that no other has, and the clock of `nowUnix` may show anything.  Who has which password is
what `verifyCredentialIdentifier` answers.
-/

import Std.Data.TreeMap
import Dbal.Codec.Search
import Dbal.Oidc.AuthorizeRedirect
import Dbal.Security.NonceStore
import Dbal.Store.Interleaving

namespace Dbal
namespace Oidc

open Codec Security

/-! ### Requests that wait for a login -/

/-- `PendingAuthorizeStore::Entry`. -/
structure Pending where
  request : RedirectRequest
  expiry : Int

/-- `PendingAuthorizeStore`; the clock is read in nanoseconds. -/
structure PendingAuthorizeStore where
  ttlSeconds : Int := 300
  entries : Std.TreeMap String Pending := {}

namespace PendingAuthorizeStore

/-- `store`, with the readings of `cleanupLocked` and behind it. -/
def store (waiting : PendingAuthorizeStore) (cleanupNow now : Int) (token : String)
    (request : RedirectRequest) : PendingAuthorizeStore :=
  let kept := waiting.entries.filter fun _ entry => !decide (entry.expiry < cleanupNow)
  { waiting with
    entries := kept.insert token ⟨request, now + nanoseconds waiting.ttlSeconds⟩ }

/-- `take`. -/
def take (waiting : PendingAuthorizeStore) (now : Int) (token : String) :
    Option RedirectRequest × PendingAuthorizeStore :=
  match waiting.entries[token]? with
  | none => (none, waiting)
  | some entry =>
      (if entry.expiry < now then none else some entry.request,
        { waiting with entries := waiting.entries.erase token })

/-- `peek`. -/
def peek (waiting : PendingAuthorizeStore) (now : Int) (token : String) :
    Option RedirectRequest × PendingAuthorizeStore :=
  match waiting.entries[token]? with
  | none => (none, waiting)
  | some entry =>
      if entry.expiry < now then (none, { waiting with entries := waiting.entries.erase token })
      else (some entry.request, waiting)

variable {waiting : PendingAuthorizeStore} {now cleanupNow : Int} {token key : String}
  {request : RedirectRequest} {entry : Pending}

/-- A request that waits was stored just now, or waited before. -/
theorem of_store (h : (waiting.store cleanupNow now token request).entries[key]? = some entry) :
    token = key ∧ entry.request = request ∨ waiting.entries[key]? = some entry := by
  unfold store at h
  rw [getElem?_insert_eq] at h
  split_ifs at h with hkey
  · obtain rfl := Option.some.inj h
    exact .inl ⟨hkey, rfl⟩
  · rw [Std.TreeMap.getElem?_filter'] at h
    exact .inr (Option.filter_eq_some_iff.1 h).1

theorem of_take (h : (waiting.take now token).2.entries[key]? = some entry) :
    token ≠ key ∧ waiting.entries[key]? = some entry := by
  unfold take at h
  split at h
  case h_1 hnone =>
    refine ⟨fun hkey => ?_, h⟩
    rw [hkey, h] at hnone
    cases hnone
  case h_2 hsome =>
    rw [getElem?_erase_eq] at h
    split_ifs at h with hkey
    exact ⟨hkey, h⟩

theorem take_some (h : (waiting.take now token).1 = some request) :
    ∃ entry, waiting.entries[token]? = some entry ∧ entry.request = request := by
  unfold take at h
  split at h
  case h_1 => cases h
  case h_2 entry hentry =>
    dsimp only at h
    split_ifs at h
    exact ⟨entry, hentry, Option.some.inj h⟩

/-- What was stored is taken, within its time. -/
theorem take_store {now' : Int} (h : now' ≤ now + nanoseconds waiting.ttlSeconds) :
    ((waiting.store cleanupNow now token request).take now' token).1 = some request := by
  have hentry : (waiting.store cleanupNow now token request).entries[token]? =
      some ⟨request, now + nanoseconds waiting.ttlSeconds⟩ := by
    unfold store
    rw [getElem?_insert_eq, if_pos rfl]
  unfold take
  rw [hentry]
  exact if_neg (not_lt.2 h)

theorem of_peek (h : (waiting.peek now token).2.entries[key]? = some entry) :
    waiting.entries[key]? = some entry := by
  unfold peek at h
  split at h
  · exact h
  · split_ifs at h
    · rw [getElem?_erase_eq] at h
      split_ifs at h
      exact h
    · exact h

theorem peek_some (h : (waiting.peek now token).1 = some request) :
    ∃ entry, waiting.entries[token]? = some entry ∧ entry.request = request := by
  unfold peek at h
  split at h
  case h_1 => cases h
  case h_2 entry hentry =>
    split_ifs at h
    exact ⟨entry, hentry, Option.some.inj h⟩

end PendingAuthorizeStore

/-! ### The state -/

/-- A row of `OidcSession`. -/
structure OidcSession where
  id : String := ""
  userId : String
  tenantId : String
  clientId : String
  authTime : Int
  revokedAt : Option Int
  expiresAt : Int
  createdAt : Int
  deriving DecidableEq, Repr

/-- What the handlers share, and the texts that were drawn.  A cache in front of the rows, if there is
one, may hold any of the `versions` that a session has had. -/
structure OidcState where
  pending : PendingAuthorizeStore := {}
  restart : PendingAuthorizeStore := { ttlSeconds := 1800 }
  steady : Int := 0
  cached : Bool := false
  sessions : List OidcSession := []
  versions : List OidcSession := []
  rows : Rows := {}
  drawn : List String := []

/-- A call of a handler. -/
inductive OidcCall where
  | nowUnix
  | generateToken
  | storePending (request : RedirectRequest)
  | storeRestart (request : RedirectRequest)
  | takePending (token : String)
  | peekRestart (token : String)
  | verifyCredentialIdentifier (identifier password : String)
  | getCredentialTenantId (username : String)
  | getUserRoleByUsername (username : String)
  | createSession (session : OidcSession)
  | getSession (sid : String)
  | revokeSession (sid : String) (now : Int)
  | createCode (code : AuthorizationCode)
  | listCodes (codeHash : String)
  | updateCode (id : String) (now : Int)
  | createToken (token : RefreshToken)
  | listTokens (tokenHash : String)
  | listFamily (familyId : String)
  | updateToken (id : String) (now : Int)
  | sign (idToken : IdTokenClaims) (accessToken : AccessTokenClaims)

/-- The answers to a call. -/
def OidcCall.Answer : OidcCall → Type
  | nowUnix => Int
  | generateToken | storePending _ | storeRestart _ => String
  | takePending _ | peekRestart _ => Option RedirectRequest
  | verifyCredentialIdentifier _ _ | getCredentialTenantId _ | getUserRoleByUsername _ =>
      Result String
  | createSession _ => Result String
  | getSession _ => Result OidcSession
  | listCodes _ => Result (List AuthorizationCode)
  | listTokens _ | listFamily _ => Result (List RefreshToken)
  | revokeSession _ _ | createCode _ | updateCode _ _ | createToken _ | updateToken _ _ =>
      Result Unit
  | sign _ _ => Bool

namespace OidcState

/-- A read of the client. -/
def Read {α : Type} (s s' : OidcState) (found : α → Prop) : Result α → Prop
  | .ok a => found a ∧ s' = s
  | .error _ => s' = s

/-- A write of the client: carried out and answered, or failed, carried out or not. -/
def Written {α : Type} (s s' written : OidcState) (answer : α → Prop) : Result α → Prop
  | .ok a => answer a ∧ s' = written
  | .error _ => s' = s ∨ s' = written

/-- A text that is drawn. -/
def draw (s : OidcState) (text : String) : OidcState := { s with drawn := text :: s.drawn }

/-- The sessions are written. -/
def putSessions (s : OidcState) (sessions : List OidcSession) : OidcState :=
  { s with sessions, versions := s.versions ++ sessions }

/-- The sessions that a read may answer with. -/
def readable (s : OidcState) : List OidcSession := if s.cached then s.versions else s.sessions

/-- How a call may be answered. -/
def answers : (call : OidcCall) → OidcState → call.Answer → OidcState → Prop
  | .nowUnix, s, _, s' => s' = s
  | .generateToken, s, token, s' => token ∉ s.drawn ∧ s' = s.draw token
  | .storePending request, s, token, s' =>
      token ∉ s.drawn ∧ ∃ cleanupNow now, s.steady ≤ cleanupNow ∧ cleanupNow ≤ now ∧
        s' = { s.draw token with
          pending := s.pending.store cleanupNow now token request, steady := now }
  | .storeRestart request, s, token, s' =>
      token ∉ s.drawn ∧ ∃ cleanupNow now, s.steady ≤ cleanupNow ∧ cleanupNow ≤ now ∧
        s' = { s.draw token with
          restart := s.restart.store cleanupNow now token request, steady := now }
  | .takePending token, s, found, s' =>
      ∃ now, s.steady ≤ now ∧ found = (s.pending.take now token).1 ∧
        s' = { s with pending := (s.pending.take now token).2, steady := now }
  | .peekRestart token, s, found, s' =>
      ∃ now, s.steady ≤ now ∧ found = (s.restart.peek now token).1 ∧
        s' = { s with restart := (s.restart.peek now token).2, steady := now }
  | .verifyCredentialIdentifier _ _, s, _, s' => s' = s
  | .getCredentialTenantId _, s, _, s' => s' = s
  | .getUserRoleByUsername _, s, _, s' => s' = s
  | .createSession session, s, answer, s' =>
      ∃ id, id ∉ s.drawn ∧
        Written s s' ((s.draw id).putSessions (s.sessions ++ [{ session with id }]))
          (fun sid => sid = id ∨ sid = "") answer
  | .getSession sid, s, answer, s' =>
      Read s s' (fun session => session ∈ s.readable ∧ session.id = sid) answer
  | .revokeSession sid now, s, answer, s' =>
      Written s s' (s.putSessions (s.sessions.map fun session =>
        if session.id = sid then { session with revokedAt := some now } else session))
          (fun _ => ∃ session ∈ s.sessions, session.id = sid) answer
  | .createCode code, s, answer, s' =>
      ∃ id, id ∉ s.drawn ∧
        Written s s' { s.draw id with
          rows := { s.rows with codes := s.rows.codes ++ [{ code with id }] } }
          (fun _ => True) answer
  | .listCodes codeHash, s, answer, s' =>
      Read s s' (· = (s.rows.codes.filter (·.codeHash = codeHash)).take 1) answer
  | .updateCode id now, s, answer, s' =>
      Written s s' { s with rows := s.rows.consumeAt id now } (fun _ => True) answer
  | .createToken token, s, answer, s' =>
      ∃ id, id ∉ s.drawn ∧
        Written s s' { s.draw id with
          rows := { s.rows with tokens := s.rows.tokens ++ [{ token with id }] } }
          (fun _ => True) answer
  | .listTokens tokenHash, s, answer, s' =>
      Read s s' (· = (s.rows.tokens.filter (·.tokenHash = tokenHash)).take 1) answer
  | .listFamily familyId, s, answer, s' =>
      Read s s' (· = (s.rows.tokens.filter (·.familyId = familyId)).take 1000) answer
  | .updateToken id now, s, answer, s' =>
      Written s s' { s with rows := s.rows.revokeAt id now } (fun _ => True) answer
  | .sign _ _, s, _, s' => s' = s

end OidcState

/-- The state that the handlers share; the steady clock goes on. -/
def oidcShared : SharedState OidcCall OidcCall.Answer OidcState where
  answers := OidcState.answers
  drifts s s' := ∃ steady, s.steady ≤ steady ∧ s' = { s with steady }

/-! ### The calls, one by one -/

abbrev OidcRoutine := Routine OidcCall OidcCall.Answer

namespace Ask

def nowUnix : OidcRoutine Int := .call .nowUnix .done

def generateToken : OidcRoutine String := .call .generateToken .done

def storePending (request : RedirectRequest) : OidcRoutine String :=
  .call (.storePending request) .done

def storeRestart (request : RedirectRequest) : OidcRoutine String :=
  .call (.storeRestart request) .done

def takePending (token : String) : OidcRoutine (Option RedirectRequest) :=
  .call (.takePending token) .done

def peekRestart (token : String) : OidcRoutine (Option RedirectRequest) :=
  .call (.peekRestart token) .done

def verifyCredentialIdentifier (identifier password : String) : OidcRoutine (Result String) :=
  .call (.verifyCredentialIdentifier identifier password) .done

def getCredentialTenantId (username : String) : OidcRoutine (Result String) :=
  .call (.getCredentialTenantId username) .done

def getUserRoleByUsername (username : String) : OidcRoutine (Result String) :=
  .call (.getUserRoleByUsername username) .done

def createSession (session : OidcSession) : OidcRoutine (Result String) :=
  .call (.createSession session) .done

def getSession (sid : String) : OidcRoutine (Result OidcSession) := .call (.getSession sid) .done

def revokeSession (sid : String) (now : Int) : OidcRoutine (Result Unit) :=
  .call (.revokeSession sid now) .done

def createCode (code : AuthorizationCode) : OidcRoutine (Result Unit) :=
  .call (.createCode code) .done

def listCodes (codeHash : String) : OidcRoutine (Result (List AuthorizationCode)) :=
  .call (.listCodes codeHash) .done

def updateCode (id : String) (now : Int) : OidcRoutine (Result Unit) :=
  .call (.updateCode id now) .done

def createToken (token : RefreshToken) : OidcRoutine (Result Unit) :=
  .call (.createToken token) .done

def listTokens (tokenHash : String) : OidcRoutine (Result (List RefreshToken)) :=
  .call (.listTokens tokenHash) .done

def listFamily (familyId : String) : OidcRoutine (Result (List RefreshToken)) :=
  .call (.listFamily familyId) .done

def updateToken (id : String) (now : Int) : OidcRoutine (Result Unit) :=
  .call (.updateToken id now) .done

def sign (idToken : IdTokenClaims) (accessToken : AccessTokenClaims) : OidcRoutine Bool :=
  .call (.sign idToken accessToken) .done

end Ask

end Oidc
end Dbal
