/-
# What the operations do to the rows

The stores of codes and tokens and the exchanges over them, each with one lemma that says which
rows it leaves: tokens as they were or revoked, codes as they were or consumed, and at the
end of an exchange perhaps one token more.
-/

import Dbal.Oidc.OidcService
import Dbal.Store.SideBySide

namespace Dbal
namespace Oidc

/-! ### Grants -/

/-- Client, user, tenant and scope. -/
structure Grant where
  clientId : String
  userId : String
  tenantId : String
  scope : String
  deriving DecidableEq, Repr

def AuthorizationCode.grant (code : AuthorizationCode) : Grant :=
  ⟨code.clientId, code.userId, code.tenantId, code.scope⟩

def RefreshToken.grant (token : RefreshToken) : Grant :=
  ⟨token.clientId, token.userId, token.tenantId, token.scope⟩

def RotatedRefreshToken.grant (rt : RotatedRefreshToken) : Grant :=
  ⟨rt.clientId, rt.userId, rt.tenantId, rt.scope⟩

def RedeemedCode.grant (rc : RedeemedCode) : Grant :=
  ⟨rc.clientId, rc.userId, rc.tenantId, rc.scope⟩

def RefreshTokenRequest.grant (req : RefreshTokenRequest) : Grant :=
  ⟨req.clientId, req.userId, req.tenantId, req.scope⟩

/-- What `rotate` answers with. -/
def RefreshToken.rotated (token : RefreshToken) : RotatedRefreshToken where
  tokenId := token.id
  clientId := token.clientId
  userId := token.userId
  tenantId := token.tenantId
  scope := token.scope
  familyId := token.familyId

/-- The grants of the codes that were redeemed. -/
def Rows.granted (rows : Rows) : List Grant :=
  (rows.codes.filter fun code => code.consumedAt.isSome).map AuthorizationCode.grant

theorem Rows.mem_granted {rows : Rows} {g : Grant} :
    g ∈ rows.granted ↔ ∃ code ∈ rows.codes, code.consumedAt.isSome ∧ code.grant = g := by
  simp only [Rows.granted, List.mem_map, List.mem_filter, and_assoc]

/-- A token with this hash is revoked. -/
def Rows.Retired (rows : Rows) (tokenHash : String) : Prop :=
  ∃ token ∈ rows.tokens, token.tokenHash = tokenHash ∧ token.revokedAt.isSome

def Rows.addToken (rows : Rows) (token : RefreshToken) : Rows :=
  { rows with tokens := rows.tokens ++ [token] }

/-! ### Revisions -/

/-- The token as it was, or revoked. -/
def RevokedTo (token token' : RefreshToken) : Prop :=
  token' = token ∨ ∃ now, token' = { token with revokedAt := some now }

/-- Tokens may have been revoked and codes consumed, and there may be more codes. -/
structure Revised (rows rows' : Rows) : Prop where
  tokens : List.Forall₂ RevokedTo rows.tokens rows'.tokens
  granted : ∀ g ∈ rows.granted, g ∈ rows'.granted

theorem RevokedTo.trans {t t' t'' : RefreshToken} (h : RevokedTo t t') (h' : RevokedTo t' t'') :
    RevokedTo t t'' := by
  rcases h' with rfl | ⟨now, rfl⟩
  · exact h
  · rcases h with rfl | ⟨now', rfl⟩
    · exact Or.inr ⟨now, rfl⟩
    · exact Or.inr ⟨now, rfl⟩

theorem revokedTo_refl (tokens : List RefreshToken) : List.Forall₂ RevokedTo tokens tokens :=
  List.forall₂_same.2 fun _ _ => Or.inl rfl

theorem RevokedTo.tokenHash_eq {t t' : RefreshToken} (h : RevokedTo t t') :
    t'.tokenHash = t.tokenHash := by
  rcases h with rfl | ⟨_, rfl⟩ <;> rfl

theorem RevokedTo.familyId_eq {t t' : RefreshToken} (h : RevokedTo t t') :
    t'.familyId = t.familyId := by
  rcases h with rfl | ⟨_, rfl⟩ <;> rfl

theorem RevokedTo.grant_eq {t t' : RefreshToken} (h : RevokedTo t t') : t'.grant = t.grant := by
  rcases h with rfl | ⟨_, rfl⟩ <;> rfl

/-- A token that was revoked stays so. -/
theorem RevokedTo.isSome {t t' : RefreshToken} (h : RevokedTo t t') (hrevoked : t.revokedAt.isSome) :
    t'.revokedAt.isSome := by
  rcases h with rfl | ⟨_, rfl⟩
  · exact hrevoked
  · rfl

namespace Revised

theorem refl (rows : Rows) : Revised rows rows := ⟨revokedTo_refl _, fun _ h => h⟩

theorem trans {rows rows' rows'' : Rows} (h : Revised rows rows') (h' : Revised rows' rows'') :
    Revised rows rows'' := by
  refine ⟨?_, fun g hg => h'.granted g (h.granted g hg)⟩
  have htrans : ∀ {ts ts' ts'' : List RefreshToken}, List.Forall₂ RevokedTo ts ts' →
      List.Forall₂ RevokedTo ts' ts'' → List.Forall₂ RevokedTo ts ts'' := by
    intro ts ts' ts'' hts
    induction hts generalizing ts'' with
    | nil => exact id
    | cons ht _ ih =>
        rintro (_ | ⟨ht', hts'⟩)
        exact .cons (ht.trans ht') (ih hts')
  exact htrans h.tokens h'.tokens

theorem revokeAt (rows : Rows) (id : String) (now : Int) : Revised rows (rows.revokeAt id now) := by
  refine ⟨?_, fun _ h => h⟩
  rw [Rows.revokeAt]
  induction rows.tokens with
  | nil => exact .nil
  | cons t ts ih =>
      refine .cons ?_ ih
      by_cases hid : t.id = id
      · exact Or.inr ⟨now, if_pos hid⟩
      · exact Or.inl (if_neg hid)

theorem consumeAt (rows : Rows) (id : String) (now : Int) :
    Revised rows (rows.consumeAt id now) := by
  refine ⟨revokedTo_refl _, fun g hg => ?_⟩
  obtain ⟨code, hcode, hconsumed, rfl⟩ := Rows.mem_granted.1 hg
  refine Rows.mem_granted.2 ⟨_, List.mem_map.2 ⟨code, hcode, rfl⟩, ?_⟩
  split_ifs
  · exact ⟨rfl, rfl⟩
  · exact ⟨hconsumed, rfl⟩

/-- What is revoked stays revoked. -/
theorem retired {rows rows' : Rows} (h : Revised rows rows') {tokenHash : String}
    (hretired : rows.Retired tokenHash) : rows'.Retired tokenHash := by
  obtain ⟨t, ht, rfl, hrevoked⟩ := hretired
  obtain ⟨t', ht', hto⟩ := Store.exists_of_forall₂ h.tokens ht
  exact ⟨t', ht', hto.tokenHash_eq, hto.isSome hrevoked⟩

end Revised

/-- A call whose effect only revises the rows. -/
theorem call_revised {α : Type} {answer : Rows → α} {effect : Rows → Rows}
    (h : ∀ rows, Revised rows (effect rows)) (s : Store) :
    Revised s.rows (call answer effect s).2.rows := by
  obtain ⟨faults, hok | ⟨e, herr⟩ | ⟨e, herr⟩⟩ := call_cases answer effect s
  · rw [hok]
    exact h s.rows
  · rw [herr]
    exact .refl _
  · rw [herr]
    exact h s.rows

/-- What goes on after a step that revises the rows. -/
theorem Revised.bind {α β : Type} {x : Act Error Store α} {f : α → Act Error Store β} {s : Store}
    (hx : Revised s.rows (x s).2.rows) (hf : ∀ a s, Revised s.rows (f a s).2.rows) :
    Revised s.rows ((x >>= f) s).2.rows := by
  rcases Act.bind_cases x f s with ⟨e, s', hrun, hseq⟩ | ⟨a, s', hrun, hseq⟩ <;> rw [hrun] at hx
  · rw [hseq]
    exact hx
  · rw [hseq]
    exact hx.trans (hf a s')

theorem listTokens_revised (filter : RefreshToken → Bool) (limit : Nat) (s : Store) :
    Revised s.rows (listTokens filter limit s).2.rows :=
  call_revised (fun rows => .refl rows) s

theorem updateToken_revised (id : String) (now : Int) (s : Store) :
    Revised s.rows (updateToken id now s).2.rows :=
  call_revised (fun rows => .revokeAt rows id now) s

/-! ### The token stores -/

theorem revokeAll_revised (now : Int) (tokens : List RefreshToken) (s : Store) :
    Revised s.rows (RefreshTokenStore.revokeAll now tokens s).2.rows := by
  induction tokens generalizing s with
  | nil => exact .refl _
  | cons row rows ih =>
      rw [RefreshTokenStore.revokeAll]
      split_ifs
      · exact ih s
      · refine .bind ?_ fun _ => ih
        rw [Act.catching_snd]
        exact updateToken_revised row.id now s

theorem revokeFamily_revised (now : Int) (familyId : String) (s : Store) :
    Revised s.rows (RefreshTokenStore.revokeFamily now familyId s).2.rows := by
  rw [RefreshTokenStore.revokeFamily, Act.catching_snd]
  exact .bind (listTokens_revised _ _ s) fun rows => revokeAll_revised now rows

theorem rotate_revised (hash : Hash) (now : Int) (raw hint : String) (s : Store) :
    Revised s.rows (RefreshTokenStore.rotate hash now raw hint s).2.rows := by
  refine .bind (listTokens_revised _ _ s) fun found s => ?_
  rcases found with _ | ⟨row, _⟩
  · exact .refl _
  · dsimp only
    split_ifs
    · exact .refl _
    · exact .bind (revokeFamily_revised now row.familyId s) fun _ _ => .refl _
    · exact .refl _
    · exact .bind (updateToken_revised row.id now s) fun _ _ => .refl _

theorem revoke_revised (hash : Hash) (now : Int) (raw : String) (s : Store) :
    Revised s.rows (RefreshTokenStore.revoke hash now raw s).2.rows := by
  refine .bind (listTokens_revised _ _ s) fun found s => ?_
  rcases found with _ | ⟨row, _⟩
  · exact .refl _
  · dsimp only
    split_ifs
    · exact .refl _
    · exact .bind (updateToken_revised row.id now s) fun _ _ => .refl _

/-- A call that succeeded. -/
theorem call_ok {α : Type} {answer : Rows → α} {effect : Rows → Rows} {s s' : Store} {a : α}
    (h : call answer effect s = (.ok a, s')) : a = answer s.rows ∧ s'.rows = effect s.rows := by
  obtain ⟨faults, hok | ⟨e, herr⟩ | ⟨e, herr⟩⟩ := call_cases answer effect s
  · obtain ⟨ha, rfl⟩ := Prod.mk.inj (hok.symm.trans h)
    exact ⟨(Except.ok.inj ha).symm, rfl⟩
  · exact nomatch (Prod.mk.inj (herr.symm.trans h)).1
  · exact nomatch (Prod.mk.inj (herr.symm.trans h)).1

/-- A sequence that succeeded. -/
theorem bind_ok_iff {α β : Type} {x : Act Error Store α} {f : α → Act Error Store β} {s s' : Store}
    {b : β} : (x >>= f) s = (.ok b, s') ↔ ∃ a s₁, x s = (.ok a, s₁) ∧ f a s₁ = (.ok b, s') := by
  constructor
  · intro h
    rcases Act.bind_cases x f s with ⟨e, s₁, hrun, hseq⟩ | ⟨a, s₁, hrun, hseq⟩
    · exact nomatch (Prod.mk.inj (hseq.symm.trans h)).1
    · exact ⟨a, s₁, hrun, hseq.symm.trans h⟩
  · rintro ⟨a, s₁, hx, hf⟩
    rw [Act.bind_ok hx, hf]

/-- The first of the rows found. -/
theorem first_found {filter : RefreshToken → Bool} {s s' : Store} {row : RefreshToken}
    {rows : List RefreshToken} (h : listTokens filter 1 s = (.ok (row :: rows), s')) :
    row ∈ s.rows.tokens ∧ filter row ∧ s'.rows = s.rows := by
  obtain ⟨hfound, hrows⟩ := call_ok h
  have hmem : row ∈ s.rows.tokens.filter filter :=
    List.mem_of_mem_take (by rw [← hfound]; exact List.mem_cons_self)
  exact ⟨(List.mem_filter.1 hmem).1, (List.mem_filter.1 hmem).2, hrows⟩

/-- **What a rotation that succeeded has checked and done.** -/
theorem rotate_spec {hash : Hash} {now : Int} {raw hint : String} {s s' : Store}
    {rt : RotatedRefreshToken}
    (h : RefreshTokenStore.rotate hash now raw hint s = (.ok rt, s')) :
    ∃ token ∈ s.rows.tokens, token.tokenHash = hash raw ∧ token.clientId = hint ∧
      token.revokedAt = none ∧ now < token.expiresAt ∧ rt = token.rotated ∧
      s'.rows = s.rows.revokeAt token.id now := by
  obtain ⟨found, s₁, hlist, h⟩ := bind_ok_iff.1 h
  rcases found with _ | ⟨row, rest⟩
  · exact nomatch (Prod.mk.inj h).1
  · obtain ⟨hmem, hfilter, hrows⟩ := first_found hlist
    dsimp only at h
    split_ifs at h with hclient hrevoked hexpired
    · exact nomatch (Prod.mk.inj h).1
    · obtain ⟨_, s₂, _, h⟩ := bind_ok_iff.1 h
      exact nomatch (Prod.mk.inj h).1
    · exact nomatch (Prod.mk.inj h).1
    · obtain ⟨_, s₂, hupdate, h⟩ := bind_ok_iff.1 h
      obtain ⟨hrt, rfl⟩ := Prod.mk.inj h
      refine ⟨row, hmem, of_decide_eq_true hfilter, not_not.1 hclient,
        Option.not_isSome_iff_eq_none.1 hrevoked, Int.not_le.1 hexpired,
        (Except.ok.inj hrt).symm, ?_⟩
      rw [(call_ok hupdate).2, hrows]

/-- **A token that is rotated was not revoked, and now is.** -/
theorem rotate_ok {hash : Hash} {now : Int} {raw hint : String} {s s' : Store}
    {rt : RotatedRefreshToken}
    (h : RefreshTokenStore.rotate hash now raw hint s = (.ok rt, s')) :
    ∃ token ∈ s.rows.tokens, token.tokenHash = hash raw ∧ token.revokedAt = none ∧
      rt = token.rotated ∧ s'.rows = s.rows.revokeAt token.id now := by
  obtain ⟨token, hmem, hhash, -, hactive, -, hrt, hrows⟩ := rotate_spec h
  exact ⟨token, hmem, hhash, hactive, hrt, hrows⟩

/-- **A token that was found when `revoke` succeeded is revoked.** -/
theorem revoke_ok {hash : Hash} {now : Int} {raw : String} {s s' : Store} {b : Bool}
    (h : RefreshTokenStore.revoke hash now raw s = (.ok b, s'))
    (hfound : ∃ token ∈ s.rows.tokens, token.tokenHash = hash raw) : s'.rows.Retired (hash raw) := by
  obtain ⟨found, s₁, hlist, h⟩ := bind_ok_iff.1 h
  rcases found with _ | ⟨row, rest⟩
  · obtain ⟨token, hmem, hhash⟩ := hfound
    have hnone : s.rows.tokens.filter (fun token => token.tokenHash = hash raw) = [] := by
      rcases List.take_eq_nil_iff.1 (call_ok hlist).1.symm with h | h
      · omega
      · exact h
    exact absurd (decide_eq_true hhash) (List.filter_eq_nil_iff.1 hnone token hmem)
  · obtain ⟨hmem, hfilter, hrows⟩ := first_found hlist
    dsimp only at h
    split_ifs at h with hrevoked
    · obtain ⟨-, rfl⟩ := Prod.mk.inj h
      exact ⟨row, hrows ▸ hmem, of_decide_eq_true hfilter, hrevoked⟩
    · obtain ⟨_, s₂, hupdate, h⟩ := bind_ok_iff.1 h
      obtain ⟨-, rfl⟩ := Prod.mk.inj h
      rw [(call_ok hupdate).2, hrows]
      exact ⟨{ row with revokedAt := some now }, List.mem_map.2 ⟨row, hmem, if_pos rfl⟩,
        of_decide_eq_true hfilter, rfl⟩

/-- The row of a new token is written, or it is not. -/
theorem issue_cases (hash : Hash) (draw : Draw) (req : RefreshTokenRequest) (ttlSeconds : Int)
    (s : Store) :
    (RefreshTokenStore.issue hash draw req ttlSeconds s).2.rows = s.rows ∨
      (RefreshTokenStore.issue hash draw req ttlSeconds s).2.rows =
        s.rows.addToken (RefreshTokenStore.newToken hash draw req ttlSeconds) := by
  rw [RefreshTokenStore.issue, Act.bind_pure_snd]
  obtain ⟨faults, hok | ⟨e, herr⟩ | ⟨e, herr⟩⟩ := call_cases (fun _ => ())
    (fun rows => rows.addToken (RefreshTokenStore.newToken hash draw req ttlSeconds)) s
  · exact Or.inr (congrArg (fun r => r.2.rows) hok)
  · exact Or.inl (congrArg (fun r => r.2.rows) herr)
  · exact Or.inr (congrArg (fun r => r.2.rows) herr)

/-! ### Codes -/

theorem issueCode_revised (service : OidcService) (draw : Draw) (req : AuthorizeRequest)
    (userId tenantId : String) (s : Store) :
    Revised s.rows (service.issueCode draw req userId tenantId s).2.rows := by
  rw [OidcService.issueCode, AuthCodeStore.issue, Act.bind_pure_snd]
  have hadd : ∀ (code : AuthorizationCode) (rows : Rows),
      Revised rows { rows with codes := rows.codes ++ [code] } := by
    refine fun code rows => ⟨revokedTo_refl _, fun g hg => ?_⟩
    rw [Rows.granted, List.filter_append, List.map_append]
    exact List.mem_append_left _ hg
  exact call_revised (hadd _) s

theorem redeem_revised (hash : Hash) (now : Int) (raw hint : String) (s : Store) :
    Revised s.rows (AuthCodeStore.redeem hash now raw hint s).2.rows := by
  refine .bind (call_revised (fun rows => .refl rows) s) fun found s => ?_
  rcases found with _ | ⟨row, _⟩
  · exact .refl _
  · dsimp only
    split_ifs
    · exact .refl _
    · exact .refl _
    · exact .refl _
    · exact .bind (call_revised (fun rows => .consumeAt rows row.id now) s) fun _ _ => .refl _

/-- What `redeem` answers with. -/
def AuthorizationCode.redeemed (code : AuthorizationCode) : RedeemedCode where
  clientId := code.clientId
  userId := code.userId
  tenantId := code.tenantId
  redirectUri := code.redirectUri
  codeChallenge := code.codeChallenge
  codeChallengeMethod := code.codeChallengeMethod
  scope := code.scope
  nonce := code.nonce

/-- **What a redemption that succeeded has checked and done.** -/
theorem redeem_spec {hash : Hash} {now : Int} {raw hint : String} {s s' : Store} {rc : RedeemedCode}
    (h : AuthCodeStore.redeem hash now raw hint s = (.ok rc, s')) :
    ∃ code ∈ s.rows.codes, code.codeHash = hash raw ∧ code.clientId = hint ∧
      code.consumedAt = none ∧ now < code.expiresAt ∧ rc = code.redeemed ∧
      s'.rows = s.rows.consumeAt code.id now := by
  obtain ⟨found, s₁, hlist, h⟩ := bind_ok_iff.1 h
  rcases found with _ | ⟨row, rest⟩
  · exact nomatch (Prod.mk.inj h).1
  · obtain ⟨hfound, hrows⟩ := call_ok hlist
    have hmem : row ∈ s.rows.codes.filter fun code => code.codeHash = hash raw :=
      List.mem_of_mem_take (by rw [← hfound]; exact List.mem_cons_self)
    obtain ⟨hmem, hhash⟩ := List.mem_filter.1 hmem
    dsimp only at h
    split_ifs at h with hclient hconsumed hexpired
    · exact nomatch (Prod.mk.inj h).1
    · exact nomatch (Prod.mk.inj h).1
    · exact nomatch (Prod.mk.inj h).1
    · obtain ⟨_, s₂, hupdate, h⟩ := bind_ok_iff.1 h
      obtain ⟨hrc, rfl⟩ := Prod.mk.inj h
      refine ⟨row, hmem, of_decide_eq_true hhash, not_not.1 hclient,
        Option.not_isSome_iff_eq_none.1 hconsumed, Int.not_le.1 hexpired,
        (Except.ok.inj hrc).symm, ?_⟩
      rw [(call_ok hupdate).2, hrows, id]

/-- What is redeemed is granted from then on. -/
theorem redeem_ok {hash : Hash} {now : Int} {raw hint : String} {s s' : Store} {rc : RedeemedCode}
    (h : AuthCodeStore.redeem hash now raw hint s = (.ok rc, s')) : rc.grant ∈ s'.rows.granted := by
  obtain ⟨code, hmem, -, -, -, -, rfl, hrows⟩ := redeem_spec h
  rw [hrows, Rows.mem_granted]
  exact ⟨_, List.mem_map.2 ⟨code, hmem, if_pos rfl⟩, rfl, rfl⟩

/-- The rows after an operation on codes: as they were, or with codes consumed. -/
theorem redeem_rows (hash : Hash) (now : Int) (raw hint : String) (s : Store) :
    (AuthCodeStore.redeem hash now raw hint s).2.rows = s.rows ∨
      ∃ id, (AuthCodeStore.redeem hash now raw hint s).2.rows = s.rows.consumeAt id now := by
  have hlist : ∀ filter, (listCodes filter 1 s).2.rows = s.rows := by
    intro filter
    obtain ⟨faults, hok | ⟨e, herr⟩ | ⟨e, herr⟩⟩ := call_cases
      (fun rows => (rows.codes.filter filter).take 1) id s <;> rw [listCodes]
    · rw [hok, id]
    · rw [herr]
    · rw [herr, id]
  rw [AuthCodeStore.redeem]
  have hrows := hlist fun code => code.codeHash = hash raw
  refine Act.bind_state
    (Q := fun s' : Store => s'.rows = s.rows ∨ ∃ id, s'.rows = s.rows.consumeAt id now)
    (fun e s₁ hrun => ?_) (fun found s₁ hrun => ?_) <;> rw [hrun] at hrows
  · exact Or.inl hrows
  · rcases found with _ | ⟨row, _⟩
    · exact Or.inl hrows
    · dsimp only
      split_ifs
      · exact Or.inl hrows
      · exact Or.inl hrows
      · exact Or.inl hrows
      · rw [Act.bind_pure_snd, updateCode]
        obtain ⟨faults, hok | ⟨e, herr⟩ | ⟨e, herr⟩⟩ := call_cases
          (fun _ => ()) (fun rows : Rows => rows.consumeAt row.id now) s₁
        · exact Or.inr ⟨row.id, by rw [hok, hrows]⟩
        · exact Or.inl (by rw [herr, hrows])
        · exact Or.inr ⟨row.id, by rw [herr, hrows]⟩

/-! ### The exchanges -/

/-- The rows as they are, or with one more token for a request of the given kind. -/
def MayIssue (hash : Hash) (draw : Draw) (kind : RefreshTokenRequest → Prop) (rows rows' : Rows) :
    Prop :=
  rows' = rows ∨ ∃ req ttlSeconds, kind req ∧
    rows' = rows.addToken (RefreshTokenStore.newToken hash draw req ttlSeconds)

theorem issueRefresh_mayIssue (service : OidcService) (draw : Draw) {req : RefreshTokenRequest}
    (ttlSeconds : Int) (s : Store) {kind : RefreshTokenRequest → Prop} (hreq : kind req) :
    MayIssue service.hash draw kind s.rows (service.issueRefresh draw req ttlSeconds s).2.rows := by
  rw [OidcService.issueRefresh, Act.catching_snd]
  rcases issue_cases service.hash draw req ttlSeconds s with h | h
  · exact Or.inl h
  · exact Or.inr ⟨req, ttlSeconds, hreq, h⟩

theorem createSession_rows (around : Surroundings) (s : Store) :
    (OidcService.createSession around s).2.rows = s.rows := by
  rw [OidcService.createSession]
  refine Act.bind_state (Q := fun s' : Store => s'.rows = s.rows) (fun e s₁ hsid => ?_)
    (fun sid s₁ hsid => ?_)
  · rw [(Prod.mk.inj hsid).2]
  · have hcall : ∀ s' : Store, (call (fun _ => ()) id s').2.rows = s'.rows := by
      intro s'
      obtain ⟨faults, hok | ⟨e, herr⟩ | ⟨e, herr⟩⟩ := call_cases (fun _ => ()) id s'
      · rw [hok, id]
      · rw [herr]
      · rw [herr, id]
    rw [Act.bind_snd (fun _ _ => by split_ifs <;> rfl), hcall, (Prod.mk.inj hsid).2]

/-- What comes after the session finds the rows of before. -/
theorem createSession_mayIssue {hash : Hash} {draw : Draw} {kind : RefreshTokenRequest → Prop}
    (around : Surroundings) (s : Store) {f : String → Act Error Store TokenResponse}
    (hf : ∀ sid s', s'.rows = s.rows → MayIssue hash draw kind s.rows (f sid s').2.rows) :
    MayIssue hash draw kind s.rows ((OidcService.createSession around >>= f) s).2.rows := by
  have hrows := createSession_rows around s
  refine Act.bind_state (Q := fun s' : Store => MayIssue hash draw kind s.rows s'.rows)
    (fun e s' hrun => ?_) (fun sid s' hrun => ?_) <;> rw [hrun] at hrows
  · exact Or.inl hrows
  · exact hf sid s' hrows

/-- The request for the first token of a family. -/
def OidcService.firstRequest (rc : RedeemedCode) : RefreshTokenRequest where
  clientId := rc.clientId
  userId := rc.userId
  tenantId := rc.tenantId
  scope := rc.scope

/-- The rows after the exchange of a code: those that the redemption leaves, and after one that
succeeded perhaps with the first token of a family. -/
def MayStart (hash : Hash) (draw : Draw) (raw clientId : String) (s : Store) (rows' : Rows) :
    Prop :=
  match AuthCodeStore.redeem hash draw.now raw clientId s with
  | (.ok rc, s₁) => MayIssue hash draw (· = OidcService.firstRequest rc) s₁.rows rows'
  | (.error _, s₁) => rows' = s₁.rows

/-- **The exchange of a code issues at most one token, for what it redeems.** -/
theorem exchangeCode_mayStart (service : OidcService) (around : Surroundings) {clientId : String}
    (hclient : (service.clients clientId).isSome) (code redirectUri codeVerifier : String)
    (s : Store) :
    MayStart service.hash around.toDraw code clientId s
      (service.exchangeCode around code redirectUri clientId codeVerifier s).2.rows := by
  rw [OidcService.exchangeCode]
  obtain ⟨client, hclient⟩ := Option.isSome_iff_exists.1 hclient
  rw [hclient]
  refine Act.bind_state
    (Q := fun s' : Store => MayStart service.hash around.toDraw code clientId s s'.rows)
    (fun e s₁ hrun => ?_) (fun rc s₁ hrun => ?_) <;> rw [MayStart, hrun]
  split_ifs
  · exact Or.inl rfl
  · exact Or.inl rfl
  · exact Or.inl rfl
  · exact createSession_mayIssue around s₁ fun sid s₂ hrows => Or.inl hrows
  · refine createSession_mayIssue around s₁ fun sid s₂ hrows => ?_
    dsimp only
    rw [← hrows, Act.bind_pure_snd]
    exact issueRefresh_mayIssue service around.toDraw _ s₂ rfl
  · exact createSession_mayIssue around s₁ fun sid s₂ hrows => Or.inl hrows

theorem exchangeCode_unknown {service : OidcService} (around : Surroundings) {clientId : String}
    (hclient : service.clients clientId = none) (code redirectUri codeVerifier : String)
    (s : Store) :
    ∃ e, service.exchangeCode around code redirectUri clientId codeVerifier s = (.error e, s) := by
  rw [OidcService.exchangeCode, hclient]
  exact ⟨_, rfl⟩

/-- A revision, and perhaps the first token of a family with the grant of a redeemed code. -/
def MayBegin (hash : Hash) (draw : Draw) (rows rows' : Rows) : Prop :=
  ∃ rows₁, Revised rows rows₁ ∧
    MayIssue hash draw (fun req => req.familyId = "" ∧ req.grant ∈ rows₁.granted) rows₁ rows'

/-- **The exchange of a code may start a family with the grant of a redeemed code.** -/
theorem exchangeCode_mayBegin (service : OidcService) (around : Surroundings)
    (code redirectUri clientId codeVerifier : String) (s : Store) :
    MayBegin service.hash around.toDraw s.rows
      (service.exchangeCode around code redirectUri clientId codeVerifier s).2.rows := by
  rcases hclient : service.clients clientId with _ | client
  · obtain ⟨e, hrun⟩ := exchangeCode_unknown around hclient code redirectUri codeVerifier s
    rw [hrun]
    exact ⟨s.rows, .refl _, Or.inl rfl⟩
  have hrevised := redeem_revised service.hash around.now code clientId s
  have hstart := exchangeCode_mayStart service around
    (Option.isSome_iff_exists.2 ⟨client, hclient⟩) code redirectUri codeVerifier s
  rw [MayStart] at hstart
  rcases hrun : AuthCodeStore.redeem service.hash around.now code clientId s with ⟨e | rc, s₁⟩ <;>
    rw [hrun] at hrevised hstart
  · exact ⟨s₁.rows, hrevised, Or.inl hstart⟩
  · refine ⟨s₁.rows, hrevised, ?_⟩
    rcases hstart with hrows | ⟨_, ttlSeconds, rfl, hrows⟩
    · exact Or.inl hrows
    · have hgrant : (OidcService.firstRequest rc).grant ∈ s₁.rows.granted := redeem_ok hrun
      exact Or.inr ⟨_, ttlSeconds, ⟨rfl, hgrant⟩, hrows⟩

/-- The token that an exchange hands out is written. -/
theorem issueRefresh_ok {service : OidcService} {draw : Draw} {req : RefreshTokenRequest}
    {ttlSeconds : Int} {s s' : Store} {token : String}
    (h : service.issueRefresh draw req ttlSeconds s = (.ok token, s')) (hne : token ≠ "") :
    token = draw.token ∧
      s'.rows = s.rows.addToken (RefreshTokenStore.newToken service.hash draw req ttlSeconds) := by
  rw [OidcService.issueRefresh, Act.catching] at h
  split at h
  · next a s₁ hissue =>
      obtain ⟨hvalue, rfl⟩ := Prod.mk.inj h
      obtain ⟨_, s₂, hcreate, hpure⟩ := bind_ok_iff.1 hissue
      obtain ⟨htoken, rfl⟩ := Prod.mk.inj hpure
      exact ⟨(Except.ok.inj hvalue).symm.trans (Except.ok.inj htoken).symm, (call_ok hcreate).2⟩
  · exact absurd (Except.ok.inj (Prod.mk.inj h).1).symm hne

/-- What the answer of an exchange tells of a redeemed code. -/
structure Answers (service : OidcService) (rc : RedeemedCode) (redirectUri codeVerifier : String)
    (resp : TokenResponse) : Prop where
  redirectUri : rc.redirectUri = redirectUri
  verified : service.verifyS256 codeVerifier rc.codeChallenge
  subjects : resp.idToken.subject = rc.userId ∧ resp.accessToken.subject = rc.userId
  tenants : resp.idToken.tenantId = rc.tenantId ∧ resp.accessToken.tenantId = rc.tenantId
  scopes : resp.scope = rc.scope ∧ resp.accessToken.scope = rc.scope

/-- **What the exchange of a code that succeeded has checked and answers.** -/
theorem exchangeCode_ok {service : OidcService} {around : Surroundings}
    {code redirectUri clientId codeVerifier : String} {s s' : Store} {resp : TokenResponse}
    (h : service.exchangeCode around code redirectUri clientId codeVerifier s = (.ok resp, s')) :
    ∃ rc s₁, AuthCodeStore.redeem service.hash around.now code clientId s = (.ok rc, s₁) ∧
      Answers service rc redirectUri codeVerifier resp ∧
      (resp.refreshToken ≠ "" → resp.refreshToken = around.token ∧
        ∃ ttlSeconds, s'.rows = s₁.rows.addToken (RefreshTokenStore.newToken service.hash
          around.toDraw (OidcService.firstRequest rc) ttlSeconds)) := by
  rw [OidcService.exchangeCode] at h
  rcases hclient : service.clients clientId with _ | client <;> rw [hclient] at h
  · exact nomatch (Prod.mk.inj h).1
  obtain ⟨rc, s₁, hredeem, h⟩ := bind_ok_iff.1 h
  refine ⟨rc, s₁, hredeem, ?_⟩
  split_ifs at h with hredirect hverifier hverified
  · exact nomatch (Prod.mk.inj h).1
  · exact nomatch (Prod.mk.inj h).1
  · exact nomatch (Prod.mk.inj h).1
  · obtain ⟨sid, s₂, -, h⟩ := bind_ok_iff.1 h
    exact nomatch (Prod.mk.inj h).1
  all_goals
    have hverified : service.verifyS256 codeVerifier rc.codeChallenge := by simpa using hverified
    obtain ⟨sid, s₂, hsession, h⟩ := bind_ok_iff.1 h
    have hrows := createSession_rows around s₁
    rw [hsession] at hrows
    obtain ⟨token, s₃, hissue, h⟩ := bind_ok_iff.1 h
    obtain ⟨hresp, rfl⟩ := Prod.mk.inj h
    obtain rfl := Except.ok.inj hresp
    refine ⟨⟨not_not.1 hredirect, hverified, ⟨rfl, rfl⟩, ⟨rfl, rfl⟩, rfl, rfl⟩, fun hne => ?_⟩
  · obtain ⟨htoken, hadded⟩ := issueRefresh_ok hissue hne
    exact ⟨htoken, client.refreshTokenTtlSeconds, by rw [hadded, hrows]; rfl⟩
  · exact absurd (Except.ok.inj (Prod.mk.inj hissue).1).symm hne

/-- What the exchange of a code has checked of its row, does and answers. -/
structure Redeems (service : OidcService) (around : Surroundings)
    (code redirectUri clientId codeVerifier : String) (s : Store) (row : AuthorizationCode) :
    Prop where
  keyed : row.codeHash = service.hash code
  bound : row.clientId = clientId
  live : row.consumedAt = none
  unexpired : around.now < row.expiresAt
  issues : MayIssue service.hash around.toDraw (· = OidcService.firstRequest row.redeemed)
    (s.rows.consumeAt row.id around.now)
    (service.exchangeCode around code redirectUri clientId codeVerifier s).2.rows
  answers : ∀ resp, (service.exchangeCode around code redirectUri clientId codeVerifier s).1 =
    .ok resp → Answers service row.redeemed redirectUri codeVerifier resp ∧
      (resp.refreshToken ≠ "" → resp.refreshToken = around.token ∧ ∃ ttlSeconds,
        (service.exchangeCode around code redirectUri clientId codeVerifier s).2.rows =
          (s.rows.consumeAt row.id around.now).addToken (RefreshTokenStore.newToken service.hash
            around.toDraw (OidcService.firstRequest row.redeemed) ttlSeconds))

/-- **The exchange of a code redeems it, or is refused.** -/
theorem exchangeCode_cases (service : OidcService) (around : Surroundings)
    (code redirectUri clientId codeVerifier : String) (s : Store) :
    ((∃ e, (service.exchangeCode around code redirectUri clientId codeVerifier s).1 = .error e) ∧
      ((service.exchangeCode around code redirectUri clientId codeVerifier s).2.rows = s.rows ∨
        ∃ id, (service.exchangeCode around code redirectUri clientId codeVerifier s).2.rows =
          s.rows.consumeAt id around.now)) ∨
    ∃ row ∈ s.rows.codes,
      Redeems service around code redirectUri clientId codeVerifier s row := by
  rcases hclient : service.clients clientId with _ | client
  · obtain ⟨e, hrun⟩ := exchangeCode_unknown around hclient code redirectUri codeVerifier s
    rw [hrun]
    exact Or.inl ⟨⟨e, rfl⟩, Or.inl rfl⟩
  have hrows := redeem_rows service.hash around.now code clientId s
  have hstart := exchangeCode_mayStart service around
    (Option.isSome_iff_exists.2 ⟨client, hclient⟩) code redirectUri codeVerifier s
  rw [MayStart] at hstart
  rcases hrun : AuthCodeStore.redeem service.hash around.now code clientId s with ⟨e | rc, s₁⟩ <;>
    rw [hrun] at hrows hstart
  · refine Or.inl ⟨?_, hstart ▸ hrows⟩
    rcases hout : service.exchangeCode around code redirectUri clientId codeVerifier s with
      ⟨e | resp, s'⟩
    · exact ⟨e, rfl⟩
    · obtain ⟨rc, s₂, hredeem, -⟩ := exchangeCode_ok hout
      exact nomatch (Prod.mk.inj (hrun.symm.trans hredeem)).1
  · obtain ⟨row, hmem, hhash, hhint, hlive, hexpires, rfl, hwritten⟩ := redeem_spec hrun
    refine Or.inr ⟨row, hmem, hhash, hhint, hlive, hexpires, hwritten ▸ hstart,
      fun resp hresp => ?_⟩
    obtain ⟨rc, s₂, hredeem, hanswers, hgiven⟩ := exchangeCode_ok (Prod.ext hresp rfl)
    obtain ⟨hrc, rfl⟩ := Prod.mk.inj (hrun.symm.trans hredeem)
    obtain rfl := Except.ok.inj hrc
    exact ⟨hanswers, hwritten ▸ hgiven⟩

/-- The rows after an exchange of a token: revised, or after a rotation and perhaps with the
next token. -/
def MayContinue (hash : Hash) (draw : Draw) (raw clientId : String) (s : Store) (rows' : Rows) :
    Prop :=
  match RefreshTokenStore.rotate hash draw.now raw clientId s with
  | (.ok rt, s₁) => MayIssue hash draw (· = OidcService.nextRequest rt) s₁.rows rows'
  | (.error _, _) => Revised s.rows rows'

/-- **The exchange of a token issues at most the one that follows what it rotates.** -/
theorem exchangeRefreshToken_mayContinue (service : OidcService) (around : Surroundings)
    {clientId : String} (hclient : (service.clients clientId).isSome) (raw : String) (s : Store) :
    MayContinue service.hash around.toDraw raw clientId s
      (service.exchangeRefreshToken around raw clientId s).2.rows := by
  rw [OidcService.exchangeRefreshToken]
  obtain ⟨client, hclient⟩ := Option.isSome_iff_exists.1 hclient
  rw [hclient]
  have hrevised := rotate_revised service.hash around.now raw clientId s
  refine Act.bind_state
    (Q := fun s' : Store => MayContinue service.hash around.toDraw raw clientId s s'.rows)
    (fun e s₁ hrun => ?_) (fun rt s₁ hrun => ?_) <;> rw [MayContinue, hrun] <;> rw [hrun] at hrevised
  · exact hrevised
  · split_ifs
    · exact Or.inl rfl
    · rw [Act.bind_pure_snd]
      exact issueRefresh_mayIssue service around.toDraw _ s₁ rfl

/-- **The three ways in which the exchange of a token goes**: the client is unknown, the token is not
rotated, or it is, and the next one may be issued. -/
theorem exchangeRefreshToken_cases (service : OidcService) (around : Surroundings)
    (raw clientId : String) (s : Store) :
    (service.clients clientId = none ∧
        (service.exchangeRefreshToken around raw clientId s).2.rows = s.rows) ∨
      (service.clients clientId).isSome ∧
        ((∃ e s₁, RefreshTokenStore.rotate service.hash around.now raw clientId s = (.error e, s₁) ∧
            Revised s.rows (service.exchangeRefreshToken around raw clientId s).2.rows) ∨
          ∃ rt s₁, RefreshTokenStore.rotate service.hash around.now raw clientId s = (.ok rt, s₁) ∧
            Revised s.rows s₁.rows ∧
            MayIssue service.hash around.toDraw (· = OidcService.nextRequest rt) s₁.rows
              (service.exchangeRefreshToken around raw clientId s).2.rows) := by
  rcases hclient : service.clients clientId with _ | client
  · refine Or.inl ⟨rfl, ?_⟩
    rw [OidcService.exchangeRefreshToken, hclient]
    rfl
  · have hissue := exchangeRefreshToken_mayContinue service around
      (Option.isSome_iff_exists.2 ⟨client, hclient⟩) raw s
    have hrevised := rotate_revised service.hash around.now raw clientId s
    rw [MayContinue] at hissue
    rcases hrun : RefreshTokenStore.rotate service.hash around.now raw clientId s with
      ⟨e | rt, s₁⟩ <;> rw [hrun] at hissue hrevised
    · exact Or.inr ⟨rfl, Or.inl ⟨e, s₁, rfl, hissue⟩⟩
    · exact Or.inr ⟨rfl, Or.inr ⟨rt, s₁, rfl, hrevised, hissue⟩⟩

end Oidc
end Dbal
