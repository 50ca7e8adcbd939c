/-
# Session operations

`src/entities/session/crud/`: the operations that write, and what they do to the
sessions and their tokens.  A session that has expired goes when it is read by its
id or its token, or with `cleanExpired`, which `list` calls first.
-/

import Dbal.Store.Table

namespace Dbal

/-- `CreateSessionInput`. -/
structure CreateSessionInput where
  userId : String
  token : String
  expiresAt : Int
  createdAt : Option Int := none
  lastActivity : Option Int := none
  ipAddress : Option String := none
  userAgent : Option String := none

/-- `UpdateSessionInput`. -/
structure UpdateSessionInput where
  userId : Option String := none
  token : Option String := none
  expiresAt : Option Int := none
  lastActivity : Option Int := none
  ipAddress : Option String := none
  userAgent : Option String := none

namespace InMemoryStore

/-- A write through the reference to the session at `id`. -/
def setSession (store : InMemoryStore) (id : String) (session : Session) : InMemoryStore :=
  { store with sessions := store.sessions.insert id session }

/-- The removal of a session and its token. -/
def eraseSession (store : InMemoryStore) (id : String) (session : Session) : InMemoryStore :=
  { store with
    sessionTokens := store.sessionTokens.erase session.token
    sessions := store.sessions.erase id }

/-- The sessions, their tokens and their ids. -/
def SessionTable (store : InMemoryStore) : Prop :=
  Table "session" store.sessionCounter store.sessionTokens store.sessions Session.token

/-- The two stores differ in their sessions only, in their tokens and in their counter. -/
def OnlySessions (s s' : InMemoryStore) : Prop :=
  s' = { s with
    sessions := s'.sessions
    sessionTokens := s'.sessionTokens
    sessionCounter := s'.sessionCounter }

end InMemoryStore

namespace Session

/-- `session::create`, at the time `now`. -/
def create (store : InMemoryStore) (now : Int) (input : CreateSessionInput) :
    Option (Result Session × InMemoryStore) :=
  if input.userId = "" then some (.error (.validationError "userId is required"), store)
  else if input.token = "" then some (.error (.validationError "token is required"), store)
  else if !store.users.contains input.userId then
    some (.error (.validationError ("User not found: " ++ input.userId)), store)
  else if store.sessionTokens.contains input.token then
    some (.error (.conflict ("Session token already exists: " ++ input.token)), store)
  else
    match increment store.sessionCounter with
    | none => none
    | some counter =>
        let createdAt := input.createdAt.getD now
        let session : Session :=
          { id := generateId "session" counter, userId := input.userId, token := input.token,
            expiresAt := input.expiresAt, createdAt,
            lastActivity := input.lastActivity.or (some createdAt),
            ipAddress := input.ipAddress, userAgent := input.userAgent }
        some (.ok session, { store with
          sessionCounter := counter
          sessions := store.sessions.insert session.id session
          sessionTokens := store.sessionTokens.insert session.token session.id })

/-- The user, the first field that `update` writes. -/
def updateUserId (store : InMemoryStore) (id : String) (session : Session) :
    Option String → Result (Session × InMemoryStore)
  | none => .ok (session, store)
  | some userId =>
      if userId = "" then .error (.validationError "userId is required")
      else if !store.users.contains userId then
        .error (.validationError ("User not found: " ++ userId))
      else .ok ({ session with userId }, store.setSession id { session with userId })

/-- The token, the second field that `update` writes. -/
def updateToken (store : InMemoryStore) (id : String) (session : Session) :
    Option String → Result (Session × InMemoryStore)
  | none => .ok (session, store)
  | some token =>
      if token = "" then .error (.validationError "token is required")
      else if (store.sessionTokens[token]?).any (· ≠ id) then
        .error (.conflict ("Session token already exists: " ++ token))
      else
        let store := { store with
          sessionTokens := (store.sessionTokens.erase session.token).insert token id }
        .ok ({ session with token }, store.setSession id { session with token })

/-- The fields that `update` does not check. -/
def setFields (input : UpdateSessionInput) (session : Session) : Session :=
  { session with
    expiresAt := input.expiresAt.getD session.expiresAt
    lastActivity := input.lastActivity.or session.lastActivity
    ipAddress := input.ipAddress.or session.ipAddress
    userAgent := input.userAgent.or session.userAgent }

/-- `session::update`: the user is written before the token is checked. -/
def update (store : InMemoryStore) (id : String) (input : UpdateSessionInput) :
    Result Session × InMemoryStore :=
  if id = "" then (.error (.validationError "Session ID cannot be empty"), store)
  else
    match store.sessions[id]? with
    | none => (.error (.notFound ("Session not found: " ++ id)), store)
    | some session =>
        match updateUserId store id session input.userId with
        | .error e => (.error e, store)
        | .ok (session, store) =>
            match updateToken store id session input.token with
            | .error e => (.error e, store)
            | .ok (session, store) =>
                (.ok (setFields input session), store.setSession id (setFields input session))

/-- `session::remove`. -/
def remove (store : InMemoryStore) (id : String) : Result Bool × InMemoryStore :=
  if id = "" then (.error (.validationError "Session ID cannot be empty"), store)
  else
    match store.sessions[id]? with
    | none => (.error (.notFound ("Session not found: " ++ id)), store)
    | some session => (.ok true, store.eraseSession id session)

/-- `session::get`, at the time `now`. -/
def get (store : InMemoryStore) (now : Int) (id : String) : Result Session × InMemoryStore :=
  if id = "" then (.error (.validationError "Session ID cannot be empty"), store)
  else
    match store.sessions[id]? with
    | none => (.error (.notFound ("Session not found: " ++ id)), store)
    | some session =>
        if session.expiresAt ≤ now then
          (.error (.notFound ("Session expired: " ++ id)), store.eraseSession id session)
        else (.ok session, store)

/-- `session::getByToken`.  Where the session has expired, the source reads the text of the
error from an entry that it has erased; the effect on the store is that of `get`. -/
def getByToken (store : InMemoryStore) (now : Int) (token : String) :
    Result Session × InMemoryStore :=
  if token = "" then (.error (.validationError "Token cannot be empty"), store)
  else
    match store.sessionTokens[token]? with
    | none => (.error (.notFound "Session not found for token"), store)
    | some id => get store now id

/-- The loop of `cleanExpired` over the ids that it has collected. -/
def eraseAll (store : InMemoryStore) : List String → InMemoryStore
  | [] => store
  | id :: ids =>
      match store.sessions[id]? with
      | none => eraseAll store ids
      | some session => eraseAll (store.eraseSession id session) ids

/-- The ids of the sessions that have expired, in their order. -/
def expiredIds (store : InMemoryStore) (now : Int) : List String :=
  (store.sessions.toList.filter fun (_, session) => session.expiresAt ≤ now).map Prod.fst

/-- `session::cleanExpired`, at the time `now`. -/
def cleanExpired (store : InMemoryStore) (now : Int) : Result Int × InMemoryStore :=
  let ids := expiredIds store now
  (.ok ids.length, eraseAll store ids)

end Session

/-! ### The tokens -/

namespace InMemoryStore

variable {s s' : InMemoryStore} {id : String} {session session' : Session}

theorem OnlySessions.refl (s : InMemoryStore) : OnlySessions s s := rfl

theorem OnlySessions.trans {s'' : InMemoryStore} (h : OnlySessions s s') (h' : OnlySessions s' s'') :
    OnlySessions s s'' := by
  unfold OnlySessions at *
  rw [h', h]

theorem setSession_self (s : InMemoryStore) (id : String) (session : Session) :
    (s.setSession id session).sessions[id]? = some session := by
  simp [setSession]

/-- Writing to a session, but not to its token. -/
theorem SessionTable.setSession (h : s.SessionTable) (hsession : s.sessions[id]? = some session)
    (htoken : session'.token = session.token) : (s.setSession id session').SessionTable :=
  Table.setFields h hsession htoken

theorem SessionTable.eraseSession (h : s.SessionTable) (hsession : s.sessions[id]? = some session) :
    (s.eraseSession id session).SessionTable :=
  Table.erase h hsession

theorem SessionTable.create (h : s.SessionTable) {now : Int} {input : CreateSessionInput}
    {r : Result Session} (hrun : Session.create s now input = some (r, s')) :
    s'.SessionTable ∧ OnlySessions s s' := by
  unfold Session.create at hrun
  split_ifs at hrun with huser htoken hfound htaken
  iterate 4 exact (Prod.mk.inj (Option.some.inj hrun)).2 ▸ ⟨h, rfl⟩
  unfold increment at hrun
  split_ifs at hrun
  obtain ⟨-, rfl⟩ := Prod.mk.inj (Option.some.inj hrun)
  exact ⟨Table.insert h (by simpa using htaken), rfl⟩

theorem SessionTable.updateUserId (h : s.SessionTable) {userId : Option String}
    (hsession : s.sessions[id]? = some session)
    (hok : Session.updateUserId s id session userId = .ok (session', s')) :
    s'.SessionTable ∧ s'.sessions[id]? = some session' ∧ OnlySessions s s' := by
  cases userId with
  | none =>
      obtain ⟨rfl, rfl⟩ := Prod.mk.inj (Except.ok.inj hok)
      exact ⟨h, hsession, rfl⟩
  | some userId =>
      rw [Session.updateUserId] at hok
      split_ifs at hok
      obtain ⟨rfl, rfl⟩ := Prod.mk.inj (Except.ok.inj hok)
      exact ⟨h.setSession hsession rfl, setSession_self _ _ _, rfl⟩

theorem SessionTable.updateToken (h : s.SessionTable) {token : Option String}
    (hsession : s.sessions[id]? = some session)
    (hok : Session.updateToken s id session token = .ok (session', s')) :
    s'.SessionTable ∧ s'.sessions[id]? = some session' ∧ OnlySessions s s' := by
  cases token with
  | none =>
      obtain ⟨rfl, rfl⟩ := Prod.mk.inj (Except.ok.inj hok)
      exact ⟨h, hsession, rfl⟩
  | some token =>
      rw [Session.updateToken] at hok
      split_ifs at hok with hempty htaken
      obtain ⟨rfl, rfl⟩ := Prod.mk.inj (Except.ok.inj hok)
      refine ⟨?_, setSession_self _ _ _, rfl⟩
      exact Table.rename (t := { session with token := token }) h hsession htaken

end InMemoryStore

namespace Session

/-- **The exits of `update`.**  The error of the token comes after a write. -/
theorem update_cases (s : InMemoryStore) (id : String) (input : UpdateSessionInput) :
    (∃ e, update s id input = (.error e, s) ∧ (id = "" ∨ s.sessions[id]? = none)) ∨
    ∃ session, s.sessions[id]? = some session ∧
      ((∃ e, updateUserId s id session input.userId = .error e ∧
          update s id input = (.error e, s)) ∨
        ∃ session' s', updateUserId s id session input.userId = .ok (session', s') ∧
          ((∃ e, updateToken s' id session' input.token = .error e ∧
              update s id input = (.error e, s')) ∨
            ∃ session'' s'', updateToken s' id session' input.token = .ok (session'', s'') ∧
              update s id input = (.ok (setFields input session''),
                s''.setSession id (setFields input session'')))) := by
  by_cases hid : id = ""
  · exact Or.inl ⟨_, by rw [update, if_pos hid], Or.inl hid⟩
  rcases hsession : s.sessions[id]? with _ | session
  · refine Or.inl ⟨.notFound ("Session not found: " ++ id), ?_, Or.inr rfl⟩
    simp only [update, if_neg hid, hsession]
  refine Or.inr ⟨session, rfl, ?_⟩
  rcases huser : updateUserId s id session input.userId with e | ⟨session', s'⟩
  · exact Or.inl ⟨e, rfl, by simp only [update, if_neg hid, hsession, huser]⟩
  refine Or.inr ⟨session', s', rfl, ?_⟩
  rcases htoken : updateToken s' id session' input.token with e | ⟨session'', s''⟩
  · exact Or.inl ⟨e, rfl, by simp only [update, if_neg hid, hsession, huser, htoken]⟩
  · exact Or.inr ⟨session'', s'', rfl, by simp only [update, if_neg hid, hsession, huser, htoken]⟩

end Session

namespace InMemoryStore

variable {s s' : InMemoryStore}

theorem SessionTable.update (h : s.SessionTable) (id : String) (input : UpdateSessionInput) :
    (Session.update s id input).2.SessionTable ∧ OnlySessions s (Session.update s id input).2 := by
  rcases Session.update_cases s id input with ⟨e, hrun, -⟩ | ⟨session, hsession, hrun⟩
  · rw [hrun]
    exact ⟨h, rfl⟩
  rcases hrun with ⟨e, -, hrun⟩ | ⟨session', s', huser, hrun⟩
  · rw [hrun]
    exact ⟨h, rfl⟩
  obtain ⟨htable, hsession', honly⟩ := h.updateUserId hsession huser
  rcases hrun with ⟨e, -, hrun⟩ | ⟨session'', s'', htoken, hrun⟩
  · rw [hrun]
    exact ⟨htable, honly⟩
  obtain ⟨htable', hsession'', honly'⟩ := htable.updateToken hsession' htoken
  rw [hrun]
  exact ⟨htable'.setSession hsession'' rfl, (honly.trans honly').trans rfl⟩

theorem SessionTable.remove (h : s.SessionTable) (id : String) :
    (Session.remove s id).2.SessionTable ∧ OnlySessions s (Session.remove s id).2 := by
  unfold Session.remove
  split_ifs
  · exact ⟨h, rfl⟩
  · rcases hsession : s.sessions[id]? with _ | session
    · exact ⟨h, rfl⟩
    · exact ⟨h.eraseSession hsession, rfl⟩

theorem SessionTable.get (h : s.SessionTable) (now : Int) (id : String) :
    (Session.get s now id).2.SessionTable ∧ OnlySessions s (Session.get s now id).2 := by
  unfold Session.get
  split_ifs
  · exact ⟨h, rfl⟩
  · rcases hsession : s.sessions[id]? with _ | session
    · exact ⟨h, rfl⟩
    · dsimp only
      split_ifs
      · exact ⟨h.eraseSession hsession, rfl⟩
      · exact ⟨h, rfl⟩

theorem SessionTable.getByToken (h : s.SessionTable) (now : Int) (token : String) :
    (Session.getByToken s now token).2.SessionTable ∧
      OnlySessions s (Session.getByToken s now token).2 := by
  unfold Session.getByToken
  split_ifs
  · exact ⟨h, rfl⟩
  · rcases s.sessionTokens[token]? with _ | id
    · exact ⟨h, rfl⟩
    · exact h.get now id

theorem SessionTable.eraseAll (h : s.SessionTable) (ids : List String) :
    (Session.eraseAll s ids).SessionTable ∧ OnlySessions s (Session.eraseAll s ids) := by
  induction ids generalizing s with
  | nil => exact ⟨h, rfl⟩
  | cons id ids ih =>
      rw [Session.eraseAll]
      rcases hsession : s.sessions[id]? with _ | session
      · exact ih h
      · obtain ⟨htable, honly⟩ := ih (h.eraseSession hsession)
        have herase : OnlySessions s (s.eraseSession id session) := rfl
        exact ⟨htable, herase.trans honly⟩

theorem SessionTable.cleanExpired (h : s.SessionTable) (now : Int) :
    (Session.cleanExpired s now).2.SessionTable ∧
      OnlySessions s (Session.cleanExpired s now).2 :=
  h.eraseAll _

end InMemoryStore
end Dbal
