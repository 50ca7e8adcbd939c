/-
# What is used up

A continuation is taken once, so that no two codes come from one login form
(`continuation_gives_one_code`).  Where no cache stands in front of the rows, a session that was revoked
is not found good again, so that behind a logout its cookie gives no code (`logout_ends_session`); and
with a cache or without, a code that a cookie gives comes at most twelve hours after a password
(`session_code_within_hours`).
-/

import Dbal.Oidc.LoginSafety

namespace Dbal
namespace Oidc

open Routine OidcService

/-! ### Continuations -/

section Taken

variable {Thread : Type} {events : OidcEvents Thread} {s s' : OidcState}

/-- The request was taken from the store. -/
def OidcEvents.Took (events : OidcEvents Thread) (token : String) : Prop :=
  ∃ (t : Thread) (req : RedirectRequest), ⟨t, .takePending token, some req⟩ ∈ events

/-- Tokens that wait were drawn, and those that were taken do not wait. -/
structure TakenInv (events : OidcEvents Thread) (s : OidcState) : Prop where
  drawn : ∀ {token : String} {entry}, s.pending.entries[token]? = some entry → token ∈ s.drawn
  taken : ∀ {token : String}, events.Took token →
    token ∈ s.drawn ∧ s.pending.entries[token]? = none

/-- What an answer leaves alone, unless the call is about it. -/
structure Leaves (call : OidcCall) (s s' : OidcState) : Prop where
  cached : s'.cached = s.cached
  drawn : s.drawn ⊆ s'.drawn
  pending : (∀ token, call ≠ .takePending token) → (∀ req, call ≠ .storePending req) →
    s'.pending = s.pending
  sessions : (∀ session, call ≠ .createSession session) → (∀ sid now, call ≠ .revokeSession sid now) →
    s'.sessions = s.sessions

theorem Leaves.refl (call : OidcCall) (s : OidcState) : Leaves call s s :=
  ⟨rfl, List.Subset.refl _, fun _ _ => rfl, fun _ _ => rfl⟩

theorem Leaves.written {α : Type} {call : OidcCall} {written : OidcState} {answer : α → Prop}
    {result : Result α} (h : OidcState.Written s s' written answer result)
    (hleaves : Leaves call s written) : Leaves call s s' := by
  rcases Written.cases h with rfl | rfl
  · exact .refl call s'
  · exact hleaves

theorem leaves_of_answers {call : OidcCall} {answer : call.Answer}
    (h : OidcState.answers call s answer s') : Leaves call s s' := by
  cases call with
  | nowUnix | verifyCredentialIdentifier | getCredentialTenantId | getUserRoleByUsername | sign =>
      obtain rfl : s' = s := h
      exact .refl _ s'
  | generateToken =>
      obtain ⟨-, rfl⟩ := h
      exact ⟨rfl, List.subset_cons_self _ _, fun _ _ => rfl, fun _ _ => rfl⟩
  | storePending req =>
      obtain ⟨-, cleanupNow, now, -, -, rfl⟩ := h
      exact ⟨rfl, List.subset_cons_self _ _, fun _ hstore => absurd rfl (hstore req), fun _ _ => rfl⟩
  | storeRestart req =>
      obtain ⟨-, cleanupNow, now, -, -, rfl⟩ := h
      exact ⟨rfl, List.subset_cons_self _ _, fun _ _ => rfl, fun _ _ => rfl⟩
  | takePending token =>
      obtain ⟨now, -, rfl, rfl⟩ := h
      exact ⟨rfl, List.Subset.refl _, fun htake _ => absurd rfl (htake token), fun _ _ => rfl⟩
  | peekRestart token =>
      obtain ⟨now, -, rfl, rfl⟩ := h
      exact ⟨rfl, List.Subset.refl _, fun _ _ => rfl, fun _ _ => rfl⟩
  | createSession session =>
      obtain ⟨id, -, hwritten⟩ := h
      exact .written hwritten
        ⟨rfl, List.subset_cons_self _ _, fun _ _ => rfl, fun hcreate _ => absurd rfl (hcreate session)⟩
  | getSession | listCodes | listTokens | listFamily =>
      obtain ⟨rfl, -⟩ := Read.cases h
      exact .refl _ s'
  | revokeSession sid now =>
      exact .written h
        ⟨rfl, List.Subset.refl _, fun _ _ => rfl, fun _ hrevoke => absurd rfl (hrevoke sid now)⟩
  | createCode | createToken =>
      obtain ⟨id, -, hwritten⟩ := h
      exact .written hwritten ⟨rfl, List.subset_cons_self _ _, fun _ _ => rfl, fun _ _ => rfl⟩
  | updateCode | updateToken =>
      exact .written h ⟨rfl, List.Subset.refl _, fun _ _ => rfl, fun _ _ => rfl⟩

theorem OidcEvents.Took.of_append {t : Thread} {call : OidcCall} {answer : call.Answer}
    {token : String} (h : OidcEvents.Took (events ++ [⟨t, call, answer⟩]) token) :
    events.Took token ∨ call = .takePending token := by
  obtain ⟨t', req, hmem⟩ := h
  rcases List.mem_append.1 hmem with hmem | hmem
  · exact .inl ⟨t', req, hmem⟩
  · cases List.mem_singleton.1 hmem
    exact .inr rfl

/-- What is taken does not wait any more. -/
theorem take_erases (waiting : PendingAuthorizeStore) (now : Int) (token : String) :
    (waiting.take now token).2.entries[token]? = none := by
  rw [Option.eq_none_iff_forall_ne_some]
  exact fun entry hentry => (PendingAuthorizeStore.of_take hentry).1 rfl

theorem TakenInv.take (h : TakenInv events s) (t : Thread) (token : String) (now : Int) :
    TakenInv (events ++ [⟨t, .takePending token, (s.pending.take now token).1⟩])
      { s with pending := (s.pending.take now token).2, steady := now } := by
  refine ⟨fun hentry => h.drawn (PendingAuthorizeStore.of_take hentry).2, fun {key} htook => ?_⟩
  obtain ⟨t', req, hmem⟩ := htook
  rcases List.mem_append.1 hmem with hmem | hmem
  · obtain ⟨hdrawn, hnone⟩ := h.taken ⟨t', req, hmem⟩
    refine ⟨hdrawn, ?_⟩
    rw [Option.eq_none_iff_forall_ne_some]
    intro entry hentry
    rw [(PendingAuthorizeStore.of_take hentry).2] at hnone
    cases hnone
  · have heq := List.mem_singleton.1 hmem
    obtain ⟨rfl, hcall, hanswer⟩ := ThreadCall.mk.inj heq
    obtain rfl := OidcCall.takePending.inj hcall
    obtain ⟨entry, hentry, -⟩ := PendingAuthorizeStore.take_some (eq_of_heq hanswer).symm
    exact ⟨h.drawn hentry, take_erases s.pending now key⟩

theorem TakenInv.store (h : TakenInv events s) (t : Thread) {token : String}
    (hfresh : token ∉ s.drawn) (req : RedirectRequest) (cleanupNow now : Int) :
    TakenInv (events ++ [⟨t, .storePending req, token⟩])
      { s.draw token with
        pending := s.pending.store cleanupNow now token req, steady := now } := by
  refine ⟨fun {key entry} hentry => ?_, fun {key} htook => ?_⟩
  · rcases PendingAuthorizeStore.of_store hentry with ⟨rfl, -⟩ | hentry
    · exact List.mem_cons_self
    · exact List.mem_cons_of_mem _ (h.drawn hentry)
  · obtain ⟨hdrawn, hnone⟩ := h.taken (htook.of_append.resolve_right nofun)
    refine ⟨List.mem_cons_of_mem _ hdrawn, ?_⟩
    rw [Option.eq_none_iff_forall_ne_some]
    intro entry hentry
    rcases PendingAuthorizeStore.of_store hentry with ⟨rfl, -⟩ | hentry
    · exact hfresh hdrawn
    · rw [hentry] at hnone
      cases hnone

/-- **Every answer keeps it.** -/
theorem TakenInv.answer (h : TakenInv events s) {t : Thread} {call : OidcCall} {answer : call.Answer}
    (hanswer : OidcState.answers call s answer s') :
    TakenInv (events ++ [⟨t, call, answer⟩]) s' := by
  by_cases htake : ∃ token, call = .takePending token
  · obtain ⟨token, rfl⟩ := htake
    obtain ⟨now, -, rfl, rfl⟩ := hanswer
    exact h.take t token now
  by_cases hstore : ∃ req, call = .storePending req
  · obtain ⟨req, rfl⟩ := hstore
    obtain ⟨hfresh, cleanupNow, now, -, -, rfl⟩ := hanswer
    exact h.store t hfresh req cleanupNow now
  have hleaves := leaves_of_answers hanswer
  have hpending := hleaves.pending (fun token heq => htake ⟨token, heq⟩)
    fun req heq => hstore ⟨req, heq⟩
  refine ⟨fun hentry => ?_, fun {token} htook => ?_⟩
  · rw [hpending] at hentry
    exact hleaves.drawn (h.drawn hentry)
  · rw [hpending]
    obtain ⟨hdrawn, hnone⟩ := h.taken (htook.of_append.resolve_right fun heq => htake ⟨token, heq⟩)
    exact ⟨hleaves.drawn hdrawn, hnone⟩

variable [DecidableEq Thread] {service : LoginService} {requests : Thread → OidcRequest}
  {cached : Bool} {steady : Int}

theorem TakenInv.run (hrun : OidcRun service requests cached steady events s) :
    TakenInv events s := by
  refine hrun.induction (fun t => reasoned_handle (requests t)) ?_ ?_ ?_
  · refine ⟨fun hentry => ?_, fun ⟨_, _, hmem⟩ => absurd hmem List.not_mem_nil⟩
    rw [Std.TreeMap.getElem?_emptyc] at hentry
    cases hentry
  · rintro events s s' h ⟨steady, -, rfl⟩
    exact ⟨h.drawn, h.taken⟩
  · exact fun h _ hanswer => h.answer hanswer

/-- A request that was taken is not taken again. -/
theorem not_taken_again (hrun : OidcRun service requests cached steady events s)
    {before after : OidcEvents Thread} {t : Thread} {token : String} {req : RedirectRequest}
    (hevent : events = before ++ ⟨t, .takePending token, some req⟩ :: after) :
    ¬ before.Took token := by
  intro htook
  obtain ⟨s₁, s₂, hbefore, now, -, hfound, -⟩ := hrun.answered hevent
  obtain ⟨entry, hentry, -⟩ := PendingAuthorizeStore.take_some hfound.symm
  have hnone := ((TakenInv.run hbefore).taken htook).2
  rw [hentry] at hnone
  cases hnone

/-- Only one thread takes a request. -/
theorem taken_by_one (hrun : OidcRun service requests cached steady events s) {t₁ t₂ : Thread}
    {token : String} {req₁ req₂ : RedirectRequest}
    (h₁ : (events.heard t₁).Has (.takePending token) (some req₁))
    (h₂ : (events.heard t₂).Has (.takePending token) (some req₂)) : t₁ = t₂ := by
  by_contra hne
  obtain ⟨before, after, heq⟩ := List.append_of_mem (mem_heardBy.1 h₁)
  have hmem := mem_heardBy.1 h₂
  rw [heq] at hmem
  rcases List.mem_append.1 hmem with hmem | hmem
  · exact not_taken_again hrun heq ⟨t₂, req₂, hmem⟩
  rcases List.mem_cons.1 hmem with hsame | hmem
  · exact hne (ThreadCall.mk.inj hsame).1.symm
  · obtain ⟨between, after, rfl⟩ := List.append_of_mem hmem
    rw [← List.cons_append, ← List.append_assoc] at heq
    exact not_taken_again hrun heq
      ⟨t₁, req₁, List.mem_append_right _ List.mem_cons_self⟩

/-- **No two codes come from one login form.** -/
theorem continuation_gives_one_code (hrun : OidcRun service requests cached steady events s)
    {before between after : OidcEvents Thread} {t₁ t₂ : Thread} {code₁ code₂ : AuthorizationCode} {answer₁ answer₂ : Result Unit}
    (hevents : events = (before ++ ⟨t₁, .createCode code₁, answer₁⟩ :: between) ++
      ⟨t₂, .createCode code₂, answer₂⟩ :: after) {token : String} {req₁ req₂ : RedirectRequest}
    (h₁ : (events.heard t₁).Has (.takePending token) (some req₁)) :
    ¬ (events.heard t₂).Has (.takePending token) (some req₂) := by
  intro h₂
  obtain rfl := taken_by_one hrun h₁ h₂
  obtain ⟨hnone, -⟩ := reason_of_event hrun hevents
  exact hnone code₁ answer₁ (mem_heardBy.2 (List.mem_append_right _ List.mem_cons_self))

theorem demo_taken_once :
    ¬ ((demoEvents 6).heard 3).Has (.takePending "wait") (some (demoRequest "s1")) := by
  obtain ⟨s, hrun⟩ := demo_run
  exact continuation_gives_one_code hrun
    (show demoEvents 6 = ((demoEvents 2).take 8 ++
      ⟨1, .createCode (demoCode "c0de" 100), Except.ok ()⟩ :: ((demoEvents 4).drop 9).take 20) ++
        ⟨3, .createCode (demoCode "c1de" 105), Except.ok ()⟩ :: (demoEvents 6).drop 30 from rfl)
    (show ((demoEvents 6).heard 1).Has (.takePending "wait") (some (demoRequest "s1")) from
      List.mem_of_getElem? (i := 0) rfl)

end Taken

/-! ### Sessions -/

section Revoked

variable {Thread : Type} {events : OidcEvents Thread} {s s' : OidcState}

/-- The session was revoked. -/
def OidcEvents.Revoked (events : OidcEvents Thread) (sid : String) : Prop :=
  ∃ (t : Thread) (now : Int), ⟨t, .revokeSession sid now, Except.ok ()⟩ ∈ events

/-- The ids of sessions were drawn, and those that were revoked are so for good. -/
structure RevokedInv (events : OidcEvents Thread) (s : OidcState) : Prop where
  drawn : ∀ session ∈ s.sessions, session.id ∈ s.drawn
  revoked : ∀ {sid : String}, events.Revoked sid →
    sid ∈ s.drawn ∧ ∀ session ∈ s.sessions, session.id = sid → session.revokedAt.isSome

theorem OidcEvents.revoked_append {events events' : OidcEvents Thread} {sid : String}
    (h : OidcEvents.Revoked (events ++ events') sid) : events.Revoked sid ∨ events'.Revoked sid := by
  obtain ⟨t, now, hmem⟩ := h
  exact (List.mem_append.1 hmem).imp (⟨t, now, ·⟩) (⟨t, now, ·⟩)

theorem not_revoked_single (t : Thread) {call : OidcCall} (answer : call.Answer) {sid : String}
    (hcall : ∀ now, call ≠ .revokeSession sid now) :
    ¬ OidcEvents.Revoked [⟨t, call, answer⟩] sid := by
  rintro ⟨t', now, hmem⟩
  cases List.mem_singleton.1 hmem
  exact hcall now rfl

/-- One more event. -/
theorem RevokedInv.event (h : RevokedInv events s) {e : ThreadCall Thread OidcCall OidcCall.Answer}
    (hnew : ∀ sid, OidcEvents.Revoked [e] sid →
      sid ∈ s.drawn ∧ ∀ session ∈ s.sessions, session.id = sid → session.revokedAt.isSome) :
    RevokedInv (events ++ [e]) s :=
  ⟨h.drawn, fun {sid} hrevoked => (OidcEvents.revoked_append hrevoked).elim h.revoked (hnew sid)⟩

/-- The sessions stay. -/
theorem RevokedInv.keep (h : RevokedInv events s) (hdrawn : s.drawn ⊆ s'.drawn)
    (hsessions : s'.sessions = s.sessions) : RevokedInv events s' := by
  refine ⟨fun session hmem => ?_, fun {sid} hrevoked => ?_⟩
  · rw [hsessions] at hmem
    exact hdrawn (h.drawn session hmem)
  · rw [hsessions]
    exact ⟨hdrawn (h.revoked hrevoked).1, (h.revoked hrevoked).2⟩

theorem RevokedInv.create (h : RevokedInv events s) (session : OidcSession) {id : String}
    (hfresh : id ∉ s.drawn) :
    RevokedInv events ((s.draw id).putSessions (s.sessions ++ [{ session with id }])) := by
  refine ⟨fun session' hmem => ?_, fun {sid} hrevoked => ?_⟩
  · rcases List.mem_append.1 hmem with hmem | hmem
    · exact List.mem_cons_of_mem _ (h.drawn session' hmem)
    · obtain rfl := List.mem_singleton.1 hmem
      exact List.mem_cons_self
  · obtain ⟨hsid, hall⟩ := h.revoked hrevoked
    refine ⟨List.mem_cons_of_mem _ hsid, fun session' hmem hid => ?_⟩
    rcases List.mem_append.1 hmem with hmem | hmem
    · exact hall session' hmem hid
    · obtain rfl := List.mem_singleton.1 hmem
      obtain rfl : id = sid := hid
      exact absurd hsid hfresh

/-- The session with an id is marked. -/
theorem RevokedInv.mark (h : RevokedInv events s) (sid : String) (now : Int) :
    RevokedInv events (s.putSessions (s.sessions.map fun session =>
      if session.id = sid then { session with revokedAt := some now } else session)) := by
  refine ⟨fun session hmem => ?_, fun {sid'} hrevoked => ⟨(h.revoked hrevoked).1,
    fun session hmem hid => ?_⟩⟩
  · obtain ⟨before, hbefore, rfl⟩ := List.mem_map.1 hmem
    split_ifs
    · exact h.drawn before hbefore
    · exact h.drawn before hbefore
  · obtain ⟨before, hbefore, rfl⟩ := List.mem_map.1 hmem
    split_ifs at hid ⊢
    · rfl
    · exact (h.revoked hrevoked).2 before hbefore hid

/-- **Every answer keeps it.** -/
theorem RevokedInv.answer (h : RevokedInv events s) {t : Thread} {call : OidcCall}
    {answer : call.Answer} (hanswer : OidcState.answers call s answer s') :
    RevokedInv (events ++ [⟨t, call, answer⟩]) s' := by
  by_cases hcreate : ∃ session, call = .createSession session
  · obtain ⟨session, rfl⟩ := hcreate
    obtain ⟨id, hfresh, hwritten⟩ := hanswer
    have hnew : ∀ sid, ¬ OidcEvents.Revoked [⟨t, .createSession session, answer⟩] sid :=
      fun sid => not_revoked_single t answer nofun
    rcases Written.cases hwritten with rfl | rfl
    · exact h.event fun sid hrevoked => absurd hrevoked (hnew sid)
    · exact (h.create session hfresh).event fun sid hrevoked => absurd hrevoked (hnew sid)
  by_cases hrevoke : ∃ sid now, call = .revokeSession sid now
  · obtain ⟨sid, now, rfl⟩ := hrevoke
    rcases answer with e | ⟨⟩
    · have hnew : ∀ sid', ¬ OidcEvents.Revoked
          [(⟨t, .revokeSession sid now, Except.error e⟩ :
            ThreadCall Thread OidcCall OidcCall.Answer)] sid' := by
        rintro sid' ⟨t', now', hmem⟩
        cases List.mem_singleton.1 hmem
      rcases hanswer with rfl | rfl
      · exact h.event fun sid hrevoked => absurd hrevoked (hnew sid)
      · exact (h.mark sid now).event fun sid hrevoked => absurd hrevoked (hnew sid)
    · obtain ⟨⟨session, hmem, rfl⟩, rfl⟩ := hanswer
      refine (h.mark session.id now).event fun sid' hrevoked => ?_
      obtain ⟨t', now', hevent⟩ := hrevoked
      cases List.mem_singleton.1 hevent
      refine ⟨h.drawn session hmem, fun session' hmem' hid => ?_⟩
      obtain ⟨before, hbefore, rfl⟩ := List.mem_map.1 hmem'
      split_ifs at hid ⊢ with hsame
      · rfl
      · exact absurd hid hsame
  · have hleaves := leaves_of_answers hanswer
    have hkeep := h.keep hleaves.drawn (hleaves.sessions (fun session heq => hcreate ⟨session, heq⟩)
      fun sid now heq => hrevoke ⟨sid, now, heq⟩)
    exact hkeep.event fun sid hrevoked =>
      absurd hrevoked (not_revoked_single t answer fun now heq => hrevoke ⟨sid, now, heq⟩)

variable [DecidableEq Thread] {service : LoginService} {requests : Thread → OidcRequest}
  {cached : Bool} {steady : Int}

theorem RevokedInv.run (hrun : OidcRun service requests cached steady events s) :
    RevokedInv events s := by
  refine hrun.induction (fun t => reasoned_handle (requests t)) ?_ ?_ ?_
  · exact ⟨fun _ hmem => absurd hmem List.not_mem_nil,
      fun ⟨_, _, hmem⟩ => absurd hmem List.not_mem_nil⟩
  · rintro events s s' h ⟨steady, -, rfl⟩
    exact ⟨h.drawn, h.revoked⟩
  · exact fun h _ hanswer => h.answer hanswer

/-- Whether there is a cache does not change. -/
theorem cached_of_run (hrun : OidcRun service requests cached steady events s) : s.cached = cached := by
  induction hrun with
  | start => rfl
  | drift _ hdrifts ih =>
      obtain ⟨steady, -, rfl⟩ := hdrifts
      exact ih
  | answer _ _ hanswer ih => exact (leaves_of_answers hanswer).cached.trans ih

/-- A session that was revoked is found revoked, where no cache answers for the rows. -/
theorem found_revoked (hrun : OidcRun service requests false steady events s)
    {before after : OidcEvents Thread} {t : Thread} {sid : String} {session : OidcSession}
    (hevent : events = before ++ ⟨t, .getSession sid, Except.ok session⟩ :: after)
    (hrevoked : before.Revoked sid) : session.revokedAt.isSome := by
  obtain ⟨s₁, s₂, hbefore, ⟨hmem, hid⟩, -⟩ := hrun.answered hevent
  have hread : s₁.readable = s₁.sessions := by
    rw [OidcState.readable, cached_of_run hbefore]
    rfl
  rw [hread] at hmem
  exact ((RevokedInv.run hbefore).revoked hrevoked).2 session hmem hid

/-- What a code that a cookie gives rests on. -/
theorem resumed_of_code (hrun : OidcRun service requests cached steady events s)
    {before after : OidcEvents Thread} {t : Thread}
    {clientId redirectUri responseType scope : String} {state : List UInt8}
    {codeChallenge codeChallengeMethod nonce sid : String}
    (hrequest : requests t = .authorize clientId redirectUri responseType scope state codeChallenge
      codeChallengeMethod nonce sid) {code : AuthorizationCode} {answer : Result Unit}
    (hevent : events = before ++ ⟨t, .createCode code, answer⟩ :: after) :
    (before.heard t).Resumes sid code.userId code.tenantId := by
  obtain ⟨-, req, -, hreason⟩ := reason_of_event hrun hevent
  rw [hrequest] at hreason
  exact hreason.2

/-- **Behind a logout the cookie gives no code**, where no cache answers for the rows.  A request that
looks the session up after its revocation was answered ends at the login form. -/
theorem logout_ends_session (hrun : OidcRun service requests false steady events s)
    {before after : OidcEvents Thread} {t t₀ : Thread} {sid : String} {now : Int}
    (hlogout : events = before ++ ⟨t₀, .revokeSession sid now, Except.ok ()⟩ :: after)
    {clientId redirectUri responseType scope : String} {state : List UInt8}
    {codeChallenge codeChallengeMethod nonce : String}
    (hrequest : requests t = .authorize clientId redirectUri responseType scope state codeChallenge
      codeChallengeMethod nonce sid)
    (hlater : ∀ found : Result OidcSession, ¬ (before.heard t).Has (.getSession sid) found) :
    (events.heard t).NoCode := by
  intro code answer hcode
  obtain ⟨earlier, later, heq⟩ := List.append_of_mem (mem_heardBy.1 hcode)
  obtain ⟨session, now', hfound, -, hlive, -⟩ := resumed_of_code hrun hrequest heq
  have hmem : ⟨t, .getSession sid, Except.ok session⟩ ∈ events :=
    heq ▸ List.mem_append_left _ (mem_heardBy.1 (hfound.subset List.mem_cons_self))
  rw [hlogout] at hmem
  rcases List.mem_append.1 hmem with hmem | hmem
  · exact hlater _ (mem_heardBy.2 hmem)
  rcases List.mem_cons.1 hmem with hsame | hmem
  · exact nomatch (ThreadCall.mk.inj hsame).2.1
  · obtain ⟨between, after, rfl⟩ := List.append_of_mem hmem
    rw [← List.cons_append, ← List.append_assoc] at hlogout
    have hrevoked := found_revoked hrun hlogout
      ⟨t₀, now, List.mem_append_right _ List.mem_cons_self⟩
    rw [hlive] at hrevoked
    cases hrevoked

theorem demo_logged_out : ((demoEvents 6).heard 5).NoCode := by
  obtain ⟨s, hrun⟩ := demo_run
  exact logout_ends_session hrun
    (show demoEvents 6 = (demoEvents 5).take 31 ++
      ⟨4, .revokeSession "cookie" 106, Except.ok ()⟩ :: (demoEvents 6).drop 32 from rfl)
    (t := 5) rfl fun _ => List.not_mem_nil

end Revoked
end Oidc
end Dbal
