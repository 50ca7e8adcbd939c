/-
# Nobody is signed in without a password

However the requests to the routes of `/oidc` overlap, whatever fails and whatever the clock shows:
tokens are signed for a user whose password was verified, and for a client, a scope and a tenant that go
back to a request which one of them made to `/authorize` and to that login (`signed_for_verified_user`).
A code is exchanged for who proves the challenge of the request that it was written for
(`code_exchange_proves_challenge`).

One invariant carries this (`OidcInv`): every request that waits was made and accepted, and every
session, code and refresh token goes back to a login.  A handler passes on what it has heard, and no more
(`reasoned_handle`).
-/

import Dbal.Oidc.LoginReasons

namespace Dbal
namespace Oidc

open Routine Codec OidcService

section Safety

variable {Thread : Type} [DecidableEq Thread]

/-- The calls of all the requests, in the order in which they were answered. -/
abbrev OidcEvents (Thread : Type) := List (ThreadCall Thread OidcCall OidcCall.Answer)

/-- Requests that are handled side by side, from empty stores on, with a cache in front of the rows or
without. -/
abbrev OidcRun (service : LoginService) (requests : Thread → OidcRequest) (cached : Bool)
    (steady : Int) : OidcEvents Thread → OidcState → Prop :=
  Interleaved oidcShared (fun t => service.handle (requests t)) { steady, cached }

/-- What a thread has heard. -/
def OidcEvents.heard (events : OidcEvents Thread) (t : Thread) : OidcHeard := heardBy t events

/-- A password of the user was verified. -/
def OidcEvents.Verified (events : OidcEvents Thread) (userId tenantId : String) : Prop :=
  ∃ t, (events.heard t).LoggedIn userId tenantId

/-- One of the threads, which has made its first call, asks for this and is accepted. -/
def OidcEvents.Asked (service : LoginService) (requests : Thread → OidcRequest)
    (events : OidcEvents Thread) (req : RedirectRequest) : Prop :=
  ∃ t, (requests t).Asks service req ∧ events.heard t ≠ []

/-- The clock as a thread reads it for the end of a session, and the session. -/
def OidcEvents.Opened (events : OidcEvents Thread) (t : Thread) (now : Int) : Prop :=
  ∃ (createdAt : Int) (session : OidcSession) (answer : Result String),
    ([⟨.nowUnix, now⟩, ⟨.nowUnix, createdAt⟩, ⟨.createSession session, answer⟩] : OidcHeard) <:+:
      events.heard t

/-- A session of a login, which ends twelve hours after it. -/
def OidcEvents.BacksSession (events : OidcEvents Thread) (session : OidcSession) : Prop :=
  ∃ t, (events.heard t).LoggedIn session.userId session.tenantId ∧
    ∃ now : Int, events.Opened t now ∧ session.expiresAt = now + 12 * 3600

/-- The row is the code that a thread has written, but for its id and its use. -/
def OidcEvents.Wrote (events : OidcEvents Thread) (row : AuthorizationCode) : Prop :=
  ∃ (t : Thread) (code : AuthorizationCode) (answer : Result Unit),
    ⟨t, .createCode code, answer⟩ ∈ events ∧
      row = { code with id := row.id, consumedAt := row.consumedAt }

/-- A code for a request that was made and a user that was verified. -/
def OidcEvents.BacksCode (service : LoginService) (requests : Thread → OidcRequest)
    (events : OidcEvents Thread) (code : AuthorizationCode) : Prop :=
  ∃ req, events.Asked service requests req ∧ code.IsFor req ∧
    events.Verified code.userId code.tenantId ∧ events.Wrote code

/-- What tokens say, of a request that was made and a user that was verified. -/
def OidcEvents.BacksToken (service : LoginService) (requests : Thread → OidcRequest)
    (events : OidcEvents Thread) (clientId userId tenantId scope : String) : Prop :=
  ∃ req, events.Asked service requests req ∧ clientId = req.clientId ∧ scope = req.scope ∧
    events.Verified userId tenantId

/-- What an answer says. -/
def Learned (service : LoginService) (requests : Thread → OidcRequest) (events : OidcEvents Thread) :
    (call : OidcCall) → call.Answer → Prop
  | .takePending _, found => ∀ req, found = some req → events.Asked service requests req
  | .peekRestart _, found => ∀ req, found = some req → events.Asked service requests req
  | .getSession _, found => ∀ session : OidcSession, found = .ok session →
      session.clientId = kBrowserSessionClientId → events.BacksSession session
  | .listCodes codeHash, found => ∀ rows : List AuthorizationCode, found = .ok rows →
      ∀ code ∈ rows, code.codeHash = codeHash ∧ events.BacksCode service requests code
  | .listTokens _, found => ∀ rows : List RefreshToken, found = .ok rows → ∀ token ∈ rows,
      events.BacksToken service requests token.clientId token.userId token.tenantId token.scope
  | _, _ => True

/-- What holds at every point of a run. -/
structure OidcInv (service : LoginService) (requests : Thread → OidcRequest)
    (events : OidcEvents Thread) (s : OidcState) : Prop where
  pending : ∀ {token : String} {entry}, s.pending.entries[token]? = some entry →
    events.Asked service requests entry.request
  restart : ∀ {token : String} {entry}, s.restart.entries[token]? = some entry →
    events.Asked service requests entry.request
  sessions : ∀ session ∈ s.sessions, session.clientId = kBrowserSessionClientId →
    events.BacksSession session
  versions : ∀ session ∈ s.versions, session.clientId = kBrowserSessionClientId →
    events.BacksSession session
  codes : ∀ code ∈ s.rows.codes, events.BacksCode service requests code
  tokens : ∀ token ∈ s.rows.tokens,
    events.BacksToken service requests token.clientId token.userId token.tenantId token.scope
  learned : ∀ e ∈ events, Learned service requests events e.request e.answer

/-! ### More events -/

variable {service : LoginService} {requests : Thread → OidcRequest} {events : OidcEvents Thread}
  {s s' : OidcState}

theorem heard_grows (t : Thread) (events events' : OidcEvents Thread) :
    events.heard t <+: OidcEvents.heard (events ++ events') t := heardBy_grows t events events'

/-- The thread has heard its own answer. -/
theorem heard_event (t : Thread) (events : OidcEvents Thread) (call : OidcCall) (answer : call.Answer) :
    OidcEvents.heard (events ++ [⟨t, call, answer⟩]) t = events.heard t ++ [⟨call, answer⟩] := by
  rw [OidcEvents.heard, heardBy_append]
  exact congrArg (events.heard t ++ ·) (List.filterMap_cons_some (if_pos rfl))

theorem OidcEvents.Verified.append {userId tenantId : String} (h : events.Verified userId tenantId)
    (events' : OidcEvents Thread) : OidcEvents.Verified (events ++ events') userId tenantId := by
  obtain ⟨t, hlogged⟩ := h
  exact ⟨t, hlogged.mono (heard_grows t events events')⟩

theorem OidcEvents.Asked.append {req : RedirectRequest} (h : events.Asked service requests req)
    (events' : OidcEvents Thread) : OidcEvents.Asked service requests (events ++ events') req := by
  obtain ⟨t, hasks, hheard⟩ := h
  refine ⟨t, hasks, fun hnone => hheard ?_⟩
  exact List.prefix_nil.1 (hnone ▸ heard_grows t events events')

theorem OidcEvents.BacksSession.append {session : OidcSession} (h : events.BacksSession session)
    (events' : OidcEvents Thread) : OidcEvents.BacksSession (events ++ events') session := by
  obtain ⟨t, hlogged, now, ⟨createdAt, opened, answer, hinfix⟩, hexpires⟩ := h
  have hpre := heard_grows t events events'
  exact ⟨t, hlogged.mono hpre, now, ⟨createdAt, opened, answer, hinfix.trans hpre.isInfix⟩, hexpires⟩

theorem OidcEvents.BacksCode.append {code : AuthorizationCode}
    (h : events.BacksCode service requests code) (events' : OidcEvents Thread) :
    OidcEvents.BacksCode service requests (events ++ events') code := by
  obtain ⟨req, hasked, hfor, hverified, t, written, answer, hwritten, hrow⟩ := h
  exact ⟨req, hasked.append events', hfor, hverified.append events', t, written, answer,
    List.mem_append_left _ hwritten, hrow⟩

theorem OidcEvents.BacksToken.append {clientId userId tenantId scope : String}
    (h : events.BacksToken service requests clientId userId tenantId scope)
    (events' : OidcEvents Thread) :
    OidcEvents.BacksToken service requests (events ++ events') clientId userId tenantId scope := by
  obtain ⟨req, hasked, hclient, hscope, hverified⟩ := h
  exact ⟨req, hasked.append events', hclient, hscope, hverified.append events'⟩

theorem Learned.append {call : OidcCall} {answer : call.Answer}
    (h : Learned service requests events call answer) (events' : OidcEvents Thread) :
    Learned service requests (events ++ events') call answer := by
  cases call with
  | takePending => exact fun req heq => (h req heq).append events'
  | peekRestart => exact fun req heq => (h req heq).append events'
  | getSession => exact fun session heq hclient => (h session heq hclient).append events'
  | listCodes =>
      exact fun rows heq code hmem => (h rows heq code hmem).imp_right fun hbacks => hbacks.append events'
  | listTokens => exact fun rows heq token hmem => (h rows heq token hmem).append events'
  | _ => exact h

/-- An event that leaves the state alone. -/
theorem OidcInv.event (h : OidcInv service requests events s) (t : Thread) (call : OidcCall)
    (answer : call.Answer)
    (hlearned : Learned service requests (events ++ [⟨t, call, answer⟩]) call answer) :
    OidcInv service requests (events ++ [⟨t, call, answer⟩]) s where
  pending := fun hentry => (h.pending hentry).append _
  restart := fun hentry => (h.restart hentry).append _
  sessions := fun session hmem hclient => (h.sessions session hmem hclient).append _
  versions := fun session hmem hclient => (h.versions session hmem hclient).append _
  codes := fun code hmem => (h.codes code hmem).append _
  tokens := fun token hmem => (h.tokens token hmem).append _
  learned := fun e hmem => by
    rcases List.mem_append.1 hmem with hmem | hmem
    · exact (h.learned e hmem).append _
    · obtain rfl := List.mem_singleton.1 hmem
      exact hlearned

/-- The sessions are written. -/
theorem OidcInv.putSessions (h : OidcInv service requests events s) {sessions : List OidcSession}
    (hsessions : ∀ session ∈ sessions, session.clientId = kBrowserSessionClientId →
      events.BacksSession session) : OidcInv service requests events (s.putSessions sessions) :=
  { h with
    sessions := hsessions
    versions := fun session hmem hclient => (List.mem_append.1 hmem).elim
      (fun hold => h.versions session hold hclient) fun hnew => hsessions session hnew hclient }

/-! ### What reasons come to -/

theorem OidcInv.has {t : Thread} (h : OidcInv service requests events s) {call : OidcCall}
    {answer : call.Answer} (hhas : (events.heard t).Has call answer) :
    Learned service requests events call answer := h.learned ⟨t, call, answer⟩ (mem_heardBy.1 hhas)

/-- What a thread knows was asked, by itself or by another. -/
theorem OidcInv.asked (h : OidcInv service requests events s) {t : Thread} {req : RedirectRequest}
    (hknows : (events.heard t).Knows service (requests t) req) (call : OidcCall) (answer : call.Answer) :
    OidcEvents.Asked service requests (events ++ [⟨t, call, answer⟩]) req := by
  rcases hknows with hasks | ⟨token, htake⟩ | ⟨token, hpeek⟩
  · refine ⟨t, hasks, ?_⟩
    rw [heard_event]
    exact List.append_ne_nil_of_right_ne_nil _ (List.cons_ne_nil _ _)
  · exact (h.has htake req rfl).append _
  · exact (h.has hpeek req rfl).append _

theorem OidcInv.backsCode (h : OidcInv service requests events s) {t : Thread}
    {req : RedirectRequest} {userId tenantId : String}
    (hreason : CodeReason service (requests t) (events.heard t) req userId tenantId) :
    events.Asked service requests req ∧ events.Verified userId tenantId := by
  unfold CodeReason at hreason
  split at hreason
  · obtain ⟨hasks, session, now, hfound, hclient, -, -, rfl, rfl⟩ := hreason
    have hsession := hfound.subset List.mem_cons_self
    obtain ⟨t', hlogged, -⟩ := h.has hsession session rfl hclient
    exact ⟨⟨t, hasks, List.ne_nil_of_mem hsession⟩, t', hlogged⟩
  · exact ⟨h.has hreason.1 req rfl, t, hreason.2⟩
  · exact hreason.elim

theorem OidcInv.backsToken (h : OidcInv service requests events s) {t : Thread}
    {request : OidcRequest} {clientId userId tenantId scope : String}
    (hreason : GrantReason service request (events.heard t) clientId userId tenantId scope) :
    events.BacksToken service requests clientId userId tenantId scope := by
  cases request with
  | codeGrant =>
      obtain ⟨row, rows, hfound, -, -, -, rfl, rfl, rfl, rfl⟩ := hreason
      obtain ⟨-, req, hasked, hfor, hverified, -⟩ := h.has hfound _ rfl row List.mem_cons_self
      exact ⟨req, hasked, hfor.clientId, hfor.scope, hverified⟩
  | refreshGrant =>
      obtain ⟨row, rows, hfound, -, -, rfl, rfl, rfl, rfl⟩ := hreason
      exact h.has hfound _ rfl row List.mem_cons_self
  | _ => exact hreason.elim

/-! ### The answers -/

theorem Read.cases {α : Type} {s s' : OidcState} {found : α → Prop} {result : Result α}
    (h : OidcState.Read s s' found result) : s' = s ∧ ∀ a, result = .ok a → found a := by
  cases result with
  | ok a => exact ⟨h.2, fun a' heq => Except.ok.inj heq ▸ h.1⟩
  | error e => exact ⟨h, nofun⟩

theorem Written.cases {α : Type} {s s' written : OidcState} {answer : α → Prop} {result : Result α}
    (h : OidcState.Written s s' written answer result) : s' = s ∨ s' = written := by
  cases result with
  | ok a => exact .inr h.2
  | error e => exact h

theorem OidcInv.readable (h : OidcInv service requests events s) {session : OidcSession}
    (hmem : session ∈ s.readable) (hclient : session.clientId = kBrowserSessionClientId) :
    events.BacksSession session := by
  unfold OidcState.readable at hmem
  split_ifs at hmem
  · exact h.versions session hmem hclient
  · exact h.sessions session hmem hclient

/-- **Every answer keeps the invariant.** -/
theorem OidcInv.answer (hreserved : service.clients kBrowserSessionClientId = none)
    (h : OidcInv service requests events s) {t : Thread} {call : OidcCall} {answer : call.Answer}
    (hreason : Reason service (requests t) (events.heard t) call)
    (hanswer : OidcState.answers call s answer s') :
    OidcInv service requests (events ++ [⟨t, call, answer⟩]) s' := by
  cases call with
  | nowUnix | verifyCredentialIdentifier | getCredentialTenantId | getUserRoleByUsername | sign =>
      obtain rfl : s' = s := hanswer
      exact h.event t _ answer trivial
  | generateToken =>
      obtain ⟨-, rfl⟩ := hanswer
      exact { h.event t .generateToken answer trivial with }
  | storePending req =>
      obtain ⟨-, cleanupNow, now, -, -, rfl⟩ := hanswer
      have hevent := h.event t (.storePending req) answer trivial
      refine { hevent with pending := fun hentry => ?_ }
      rcases PendingAuthorizeStore.of_store hentry with ⟨-, hreq⟩ | hentry
      · rw [hreq]
        exact h.asked hreason _ _
      · exact hevent.pending hentry
  | storeRestart req =>
      obtain ⟨-, cleanupNow, now, -, -, rfl⟩ := hanswer
      have hevent := h.event t (.storeRestart req) answer trivial
      refine { hevent with restart := fun hentry => ?_ }
      rcases PendingAuthorizeStore.of_store hentry with ⟨-, hreq⟩ | hentry
      · rw [hreq]
        exact h.asked hreason _ _
      · exact hevent.restart hentry
  | takePending token =>
      obtain ⟨now, -, rfl, rfl⟩ := hanswer
      have hevent := h.event t (.takePending token) (s.pending.take now token).1 fun req hfound => by
        obtain ⟨entry, hentry, rfl⟩ := PendingAuthorizeStore.take_some hfound
        exact (h.pending hentry).append _
      exact { hevent with
        pending := fun hentry => hevent.pending (PendingAuthorizeStore.of_take hentry).2 }
  | peekRestart token =>
      obtain ⟨now, -, rfl, rfl⟩ := hanswer
      have hevent := h.event t (.peekRestart token) (s.restart.peek now token).1 fun req hfound => by
        obtain ⟨entry, hentry, rfl⟩ := PendingAuthorizeStore.peek_some hfound
        exact (h.restart hentry).append _
      exact { hevent with
        restart := fun hentry => hevent.restart (PendingAuthorizeStore.of_peek hentry) }
  | createSession session =>
      obtain ⟨id, -, hwritten⟩ := hanswer
      have hevent := h.event t (.createSession session) answer trivial
      rcases Written.cases hwritten with rfl | rfl
      · exact hevent
      · have hdrawn : OidcInv service requests _ (s.draw id) := { hevent with }
        refine hdrawn.putSessions fun session' hmem hclient => ?_
        rcases List.mem_append.1 hmem with hmem | hmem
        · exact hevent.sessions session' hmem hclient
        · obtain rfl := List.mem_singleton.1 hmem
          obtain ⟨hlogged, now, ⟨createdAt, before, hbefore⟩, hexpires⟩ := hreason hreserved hclient
          refine ⟨t, hlogged.mono (heard_grows t _ _), now, ⟨createdAt, session, answer, ?_⟩, hexpires⟩
          rw [heard_event, ← hbefore]
          exact ⟨before, [], by simp⟩
  | getSession sid =>
      obtain ⟨rfl, hfound⟩ := Read.cases hanswer
      refine h.event t _ answer fun session heq hclient => ?_
      exact (h.readable (hfound session heq).1 hclient).append _
  | revokeSession sid now =>
      have hevent := h.event t (.revokeSession sid now) answer trivial
      rcases Written.cases hanswer with rfl | rfl
      · exact hevent
      · refine hevent.putSessions fun session hmem hclient => ?_
        obtain ⟨before, hbefore, rfl⟩ := List.mem_map.1 hmem
        split_ifs at hclient ⊢ with hid
        · exact hevent.sessions before hbefore hclient
        · exact hevent.sessions before hbefore hclient
  | createCode code =>
      obtain ⟨id, -, hwritten⟩ := hanswer
      have hevent := h.event t (.createCode code) answer trivial
      rcases Written.cases hwritten with rfl | rfl
      · exact hevent
      · refine { hevent with codes := fun code' hmem => ?_ }
        rcases List.mem_append.1 hmem with hmem | hmem
        · exact hevent.codes code' hmem
        · obtain rfl := List.mem_singleton.1 hmem
          obtain ⟨-, req, hfor, hwhy⟩ := hreason
          obtain ⟨hasked, hverified⟩ := h.backsCode hwhy
          exact ⟨req, hasked.append _, { hfor with }, hverified.append _, t, code, answer,
            List.mem_append_right _ List.mem_cons_self, rfl⟩
  | listCodes codeHash =>
      obtain ⟨rfl, hfound⟩ := Read.cases hanswer
      refine h.event t _ answer fun rows heq code hmem => ?_
      obtain rfl := hfound rows heq
      obtain ⟨hcode, hhash⟩ := List.mem_filter.1 (List.mem_of_mem_take hmem)
      exact ⟨of_decide_eq_true hhash, (h.codes code hcode).append _⟩
  | updateCode id now =>
      have hevent := h.event t (.updateCode id now) answer trivial
      rcases Written.cases hanswer with rfl | rfl
      · exact hevent
      · refine { hevent with codes := fun code hmem => ?_ }
        obtain ⟨before, hbefore, rfl⟩ := List.mem_map.1 hmem
        obtain ⟨req, hasked, hfor, hverified, t', written, answer', hwritten, hrow⟩ :=
          hevent.codes before hbefore
        split_ifs with hid
        · refine ⟨req, hasked, { hfor with }, hverified, t', written, answer', hwritten, ?_⟩
          rw [hrow]
        · exact ⟨req, hasked, hfor, hverified, t', written, answer', hwritten, hrow⟩
  | createToken token =>
      obtain ⟨id, -, hwritten⟩ := hanswer
      have hevent := h.event t (.createToken token) answer trivial
      rcases Written.cases hwritten with rfl | rfl
      · exact hevent
      · refine { hevent with tokens := fun token' hmem => ?_ }
        rcases List.mem_append.1 hmem with hmem | hmem
        · exact hevent.tokens token' hmem
        · obtain rfl := List.mem_singleton.1 hmem
          exact (h.backsToken hreason).append _
  | listTokens tokenHash =>
      obtain ⟨rfl, hfound⟩ := Read.cases hanswer
      refine h.event t _ answer fun rows heq token hmem => ?_
      obtain rfl := hfound rows heq
      exact (h.tokens token (List.mem_of_mem_filter (List.mem_of_mem_take hmem))).append _
  | listFamily familyId =>
      obtain ⟨rfl, -⟩ := Read.cases hanswer
      exact h.event t _ answer trivial
  | updateToken id now =>
      have hevent := h.event t (.updateToken id now) answer trivial
      rcases Written.cases hanswer with rfl | rfl
      · exact hevent
      · refine { hevent with tokens := fun token hmem => ?_ }
        obtain ⟨before, hbefore, rfl⟩ := List.mem_map.1 hmem
        split_ifs with hid
        · exact hevent.tokens before hbefore
        · exact hevent.tokens before hbefore

/-! ### Runs -/

variable {cached : Bool} {steady : Int}

/-- **What every run keeps.** -/
theorem OidcInv.run (hreserved : service.clients kBrowserSessionClientId = none)
    (hrun : OidcRun service requests cached steady events s) : OidcInv service requests events s := by
  refine hrun.induction (fun t => reasoned_handle (requests t)) ?_ ?_ ?_
  · refine ⟨fun hentry => ?_, fun hentry => ?_, fun _ hmem => absurd hmem List.not_mem_nil,
      fun _ hmem => absurd hmem List.not_mem_nil, fun _ hmem => absurd hmem List.not_mem_nil,
      fun _ hmem => absurd hmem List.not_mem_nil, fun _ hmem => absurd hmem List.not_mem_nil⟩
    · rw [Std.TreeMap.getElem?_emptyc] at hentry
      cases hentry
    · rw [Std.TreeMap.getElem?_emptyc] at hentry
      cases hentry
  · rintro events s s' h ⟨steady, -, rfl⟩
    exact { h with }
  · exact fun h hreason hanswer => h.answer hreserved hreason hanswer

/-- The reason of a call. -/
theorem reason_of_event (hrun : OidcRun service requests cached steady events s)
    {before after : OidcEvents Thread} {t : Thread} {call : OidcCall} {answer : call.Answer}
    (hevent : events = before ++ ⟨t, call, answer⟩ :: after) :
    Reason service (requests t) (before.heard t) call :=
  hrun.allowed (fun t => reasoned_handle (requests t)) hevent

/-- What was there before a call. -/
theorem OidcInv.before (hreserved : service.clients kBrowserSessionClientId = none)
    (hrun : OidcRun service requests cached steady events s) {before after : OidcEvents Thread}
    {e : ThreadCall Thread OidcCall OidcCall.Answer} (hevent : events = before ++ e :: after) :
    ∃ s₁, OidcInv service requests before s₁ := by
  obtain ⟨s₁, -, hbefore, -⟩ := hrun.answered hevent
  exact ⟨s₁, .run hreserved hbefore⟩

end Safety

/-! ### A sample run -/

/-- A service with one client. -/
def demoLogins : LoginService where
  clients clientId := if clientId = "spa" then some { redirectUris := ["https://app/cb"] } else none
  hash token := token
  sha256 _ := demoDigest
  publicPathPrefix := ""

/-- The client asks for a sign-in. -/
def demoAuthorize (sidCookie : String) : OidcRequest :=
  .authorize "spa" "https://app/cb" "code" "openid" (utf8 "s1")
    "E9Melhoa2OwvFrEMTJguCHaoeK1t8URWbuGJSstw-cM" "S256" "" sidCookie

/-- A sign-in with a password, an exchange, a sign-in with the cookie, a logout, and the cookie again. -/
def demoRequests : Nat → OidcRequest
  | 0 => demoAuthorize ""
  | 1 => .login "wait" "again" "ada" "secret"
  | 2 => .codeGrant "c0de" "https://app/cb" "spa" "dBjftJeZ4CVP-mB92K27uhbUJU1p1r_wW1gFWFOEjXk"
  | 3 => demoAuthorize "cookie"
  | 4 => .logout "cookie" "" "" "" ""
  | _ => demoAuthorize "cookie"

def demoCode (code : String) (now : Int) : AuthorizationCode where
  id := ""
  codeHash := code
  clientId := "spa"
  userId := "ada"
  tenantId := "acme"
  redirectUri := "https://app/cb"
  codeChallenge := "E9Melhoa2OwvFrEMTJguCHaoeK1t8URWbuGJSstw-cM"
  codeChallengeMethod := "S256"
  scope := "openid"
  nonce := none
  expiresAt := now + 60
  consumedAt := none
  createdAt := now

def demoSession (clientId : String) (now : Int) : OidcSession where
  userId := "ada"
  tenantId := "acme"
  clientId := clientId
  authTime := now
  revokedAt := none
  expiresAt := now + 12 * 3600
  createdAt := now

def demoIdToken : IdTokenClaims where
  subject := "ada"
  audience := "spa"
  sid := "sid"
  tenantId := "acme"
  authTime := 104
  nonce := none
  ttlSeconds := 900

def demoAccessToken : AccessTokenClaims where
  subject := "ada"
  audience := "spa"
  tenantId := "acme"
  scope := "openid"
  role := "user"
  ttlSeconds := 900

/-- The browser session, as the store holds it. -/
def demoBrowserSession : OidcSession :=
  { demoSession kBrowserSessionClientId 101 with id := "cookie" }

/-- The calls of the sample, thread by thread. -/
def demoHeard : Nat → OidcHeard
  | 0 => [⟨.storePending (demoRequest "s1"), "wait"⟩, ⟨.storeRestart (demoRequest "s1"), "again"⟩]
  | 1 => [⟨.takePending "wait", some (demoRequest "s1")⟩,
    ⟨.verifyCredentialIdentifier "ada" "secret", Except.ok "ada"⟩,
    ⟨.getCredentialTenantId "ada", Except.ok "acme"⟩, ⟨.generateToken, "c0de"⟩,
    ⟨.nowUnix, (100 : Int)⟩, ⟨.nowUnix, (100 : Int)⟩, ⟨.createCode (demoCode "c0de" 100), Except.ok ()⟩,
    ⟨.nowUnix, (101 : Int)⟩, ⟨.nowUnix, (101 : Int)⟩, ⟨.nowUnix, (101 : Int)⟩,
    ⟨.createSession (demoSession kBrowserSessionClientId 101), Except.ok "cookie"⟩]
  | 2 => [⟨.listCodes "c0de", Except.ok [{ demoCode "c0de" 100 with id := "code" }]⟩,
    ⟨.nowUnix, (102 : Int)⟩, ⟨.nowUnix, (102 : Int)⟩, ⟨.updateCode "code" 102, Except.ok ()⟩,
    ⟨.nowUnix, (103 : Int)⟩, ⟨.nowUnix, (103 : Int)⟩, ⟨.nowUnix, (103 : Int)⟩,
    ⟨.createSession (demoSession "spa" 103), Except.ok "sid"⟩, ⟨.nowUnix, (104 : Int)⟩,
    ⟨.getUserRoleByUsername "ada", Except.ok "user"⟩, ⟨.sign demoIdToken demoAccessToken, true⟩]
  | 3 => [⟨.getSession "cookie", Except.ok demoBrowserSession⟩, ⟨.nowUnix, (105 : Int)⟩,
    ⟨.generateToken, "c1de"⟩, ⟨.nowUnix, (105 : Int)⟩, ⟨.nowUnix, (105 : Int)⟩,
    ⟨.createCode (demoCode "c1de" 105), Except.ok ()⟩]
  | 4 => [⟨.nowUnix, (106 : Int)⟩, ⟨.revokeSession "cookie" 106, Except.ok ()⟩]
  | _ => [⟨.getSession "cookie", Except.ok { demoBrowserSession with revokedAt := some 106 }⟩]

/-- The first threads, one after another. -/
def demoEvents : Nat → OidcEvents Nat
  | 0 => []
  | n + 1 => demoEvents n ++ eventsOf n (demoHeard n)

theorem demo_run : ∃ s, OidcRun demoLogins demoRequests false 0 (demoEvents 6) s := by
  have started : OidcRun demoLogins demoRequests false 0 (demoEvents 0) { steady := 0 } := .start
  have authorized : OidcRun demoLogins demoRequests false 0 (demoEvents 1) _ := started.served .start
    (.answer _ ⟨by decide, 0, 0, by decide, by decide, rfl⟩
      (.answer _ ⟨by decide, 0, 0, by decide, by decide, rfl⟩ .stop))
  have loggedIn : OidcRun demoLogins demoRequests false 0 (demoEvents 2) _ := authorized.served .start
    (.answer _ ⟨0, by decide, (PendingAuthorizeStore.take_store (by decide)).symm, rfl⟩
      (.answer _ rfl (.answer _ rfl (.answer _ ⟨by decide, rfl⟩
      (.answer _ rfl (.answer _ rfl (.answer _ ⟨"code", by decide, trivial, rfl⟩
      (.answer _ rfl (.answer _ rfl (.answer _ rfl
      (.answer _ ⟨"cookie", by decide, .inl rfl, rfl⟩ .stop)))))))))))
  have exchanged : OidcRun demoLogins demoRequests false 0 (demoEvents 3) _ := loggedIn.served .start
    (.answer _ ⟨by rfl, rfl⟩
      (.answer _ rfl (.answer _ rfl (.answer _ ⟨trivial, rfl⟩
      (.answer _ rfl (.answer _ rfl (.answer _ rfl
      (.answer _ ⟨"sid", by decide, .inl rfl, rfl⟩
      (.answer _ rfl (.answer _ rfl (.answer _ rfl .stop)))))))))))
  have resumed : OidcRun demoLogins demoRequests false 0 (demoEvents 4) _ := exchanged.served .start
    (.answer _ ⟨⟨by decide, rfl⟩, rfl⟩ (.answer _ rfl (.answer _ ⟨by decide, rfl⟩
      (.answer _ rfl (.answer _ rfl (.answer _ ⟨"code2", by decide, trivial, rfl⟩ .stop))))))
  have loggedOut : OidcRun demoLogins demoRequests false 0 (demoEvents 5) _ := resumed.served .start
    (.answer _ rfl (.answer _ ⟨⟨demoBrowserSession, by decide, rfl⟩, rfl⟩ .stop))
  exact ⟨_, loggedOut.served .start (.answer _ ⟨⟨by decide, rfl⟩, rfl⟩ .stop)⟩

/-! ### What is signed -/

section Signed

variable {Thread : Type} [DecidableEq Thread] {service : LoginService}
  {requests : Thread → OidcRequest} {cached : Bool} {steady : Int} {events : OidcEvents Thread}
  {s : OidcState}

/-- **Tokens are signed for a user whose password was verified.**  Both tokens are for that user, in the
tenant that was looked up for the login, and for the client and the scope of one request that a thread
made to `/authorize` before and that was accepted. -/
theorem signed_for_verified_user (hreserved : service.clients kBrowserSessionClientId = none)
    (hrun : OidcRun service requests cached steady events s) {before after : OidcEvents Thread}
    {t : Thread} {idToken : IdTokenClaims} {accessToken : AccessTokenClaims} {signed : Bool}
    (hevent : events = before ++ ⟨t, .sign idToken accessToken, signed⟩ :: after) :
    accessToken.subject = idToken.subject ∧ accessToken.tenantId = idToken.tenantId ∧
      accessToken.audience = idToken.audience ∧
      ∃ req, before.Asked service requests req ∧ req.clientId = idToken.audience ∧
        req.scope = accessToken.scope ∧ before.Verified idToken.subject idToken.tenantId := by
  obtain ⟨hgrant, haudience, hsubject, htenant⟩ := reason_of_event hrun hevent
  obtain ⟨s₁, hinv⟩ := OidcInv.before hreserved hrun hevent
  obtain ⟨req, hasked, hclient, hscope, hverified⟩ := hinv.backsToken hgrant
  exact ⟨hsubject, htenant, haudience, req, hasked, hclient.symm, hscope.symm, hverified⟩

theorem demo_signed : demoAccessToken.subject = demoIdToken.subject ∧
    demoAccessToken.tenantId = demoIdToken.tenantId ∧
    demoAccessToken.audience = demoIdToken.audience ∧
    ∃ req, OidcEvents.Asked demoLogins demoRequests ((demoEvents 3).take 23) req ∧
      req.clientId = demoIdToken.audience ∧ req.scope = demoAccessToken.scope ∧
      OidcEvents.Verified ((demoEvents 3).take 23) demoIdToken.subject demoIdToken.tenantId := by
  obtain ⟨s, hrun⟩ := demo_run
  exact signed_for_verified_user (by decide) hrun
    (show demoEvents 6 = (demoEvents 3).take 23 ++
      ⟨2, .sign demoIdToken demoAccessToken, true⟩ :: (demoEvents 6).drop 24 from rfl)

/-- **A code is exchanged only for who can prove the challenge.**  Where an exchange signs tokens, the code
that was sent is one that a thread wrote before, for a request that was made and accepted; the tokens are
for the user of that code and the client and the scope of that request, the redirect URI is the same, and
the verifier that was sent proves its challenge. -/
theorem code_exchange_proves_challenge (hreserved : service.clients kBrowserSessionClientId = none)
    (hrun : OidcRun service requests cached steady events s) {before after : OidcEvents Thread}
    {t : Thread} {code redirectUri clientId codeVerifier : String}
    (hrequest : requests t = .codeGrant code redirectUri clientId codeVerifier)
    {idToken : IdTokenClaims} {accessToken : AccessTokenClaims} {signed : Bool}
    (hevent : events = before ++ ⟨t, .sign idToken accessToken, signed⟩ :: after) :
    ∃ (t₁ : Thread) (written : AuthorizationCode) (answer : Result Unit) (req : RedirectRequest),
      ⟨t₁, .createCode written, answer⟩ ∈ before ∧ written.codeHash = service.hash code ∧
        written.IsFor req ∧ before.Asked service requests req ∧
        written.userId = idToken.subject ∧ written.tenantId = idToken.tenantId ∧
        req.clientId = clientId ∧ req.redirectUri = redirectUri ∧
        service.verifyS256 codeVerifier req.codeChallenge = true ∧ req.scope = accessToken.scope ∧
        idToken.audience = clientId := by
  obtain ⟨hgrant, -⟩ := reason_of_event hrun hevent
  obtain ⟨s₁, hinv⟩ := OidcInv.before hreserved hrun hevent
  rw [hrequest] at hgrant
  obtain ⟨row, rows, hfound, hhint, huri, hproves, hclient, huser, htenant, hscope⟩ := hgrant
  obtain ⟨hhash, req, hasked, hfor, -, t₁, written, answer, hwritten, hrow⟩ :=
    hinv.has hfound _ rfl row List.mem_cons_self
  have hwrittenFor : written.IsFor req := by
    rw [hrow] at hfor
    exact { hfor with }
  refine ⟨t₁, written, answer, req, hwritten, ?_, hwrittenFor, hasked, ?_, ?_,
    hfor.clientId.symm.trans hhint, hfor.redirectUri.symm.trans huri, hfor.codeChallenge ▸ hproves,
    hfor.scope.symm.trans hscope, hclient.symm.trans hhint⟩
  · rw [← hhash, hrow]
  · rw [← huser, hrow]
  · rw [← htenant, hrow]

theorem demo_exchanged : ∃ (t₁ : Nat) (written : AuthorizationCode) (answer : Result Unit)
    (req : RedirectRequest),
    ⟨t₁, .createCode written, answer⟩ ∈ (demoEvents 3).take 23 ∧
      written.codeHash = demoLogins.hash "c0de" ∧ written.IsFor req ∧
      OidcEvents.Asked demoLogins demoRequests ((demoEvents 3).take 23) req ∧
      written.userId = demoIdToken.subject ∧ written.tenantId = demoIdToken.tenantId ∧
      req.clientId = "spa" ∧ req.redirectUri = "https://app/cb" ∧
      demoLogins.verifyS256 "dBjftJeZ4CVP-mB92K27uhbUJU1p1r_wW1gFWFOEjXk" req.codeChallenge = true ∧
      req.scope = demoAccessToken.scope ∧ demoIdToken.audience = "spa" := by
  obtain ⟨s, hrun⟩ := demo_run
  exact code_exchange_proves_challenge (by decide) hrun (t := 2) rfl
    (show demoEvents 6 = (demoEvents 3).take 23 ++
      ⟨2, .sign demoIdToken demoAccessToken, true⟩ :: (demoEvents 6).drop 24 from rfl)

end Signed

end Oidc
end Dbal
