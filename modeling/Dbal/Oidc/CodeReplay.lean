/-
# A code that is presented again

When a redeemed code comes a second time, `redeem` asks its caller to revoke the family of tokens
that the code gave.  `exchangeCode` passes the error on and revokes nothing, so that the
tokens which descend from the first redemption stay as usable as they were.

The time of an exchange is not before that of the one before it.
-/

import Dbal.Oidc.FamilyRevocation

namespace Dbal
namespace Oidc

/-! ### Runs of the exchanges -/

/-- The rows, the time, and the codes that gave refresh tokens, with these. -/
structure Exchanges where
  rows : Rows := {}
  clock : Int
  given : List (String × String) := []

/-- The code that was drawn is new. -/
def FreshCode (hash : Hash) (rows : Rows) (draw : Draw) : Prop :=
  ∀ code ∈ rows.codes, code.codeHash ≠ hash draw.token

/-- The refresh token that the exchange of a code gave. -/
def gives (code : String) : Except Error TokenResponse → List (String × String)
  | .ok resp => if resp.refreshToken = "" then [] else [(code, resp.refreshToken)]
  | .error _ => []

/-- One operation, whatever happens to its calls. -/
inductive ExchangeStep (service : OidcService) (w : Exchanges) : Exchanges → Prop where
  | issueCode (faults : List (Option Fault)) (draw : Draw) (req : AuthorizeRequest)
      (userId tenantId : String) (hclock : w.clock ≤ draw.now)
      (hfresh : FreshCode service.hash w.rows draw) :
      ExchangeStep service w
        ⟨(service.issueCode draw req userId tenantId ⟨w.rows, faults⟩).2.rows, draw.now, w.given⟩
  | exchangeCode (faults : List (Option Fault)) (around : Surroundings)
      (code redirectUri clientId codeVerifier : String) (hclock : w.clock ≤ around.now)
      (hfresh : FreshToken service.hash w.rows around.toDraw) :
      ExchangeStep service w
        ⟨(service.exchangeCode around code redirectUri clientId codeVerifier
          ⟨w.rows, faults⟩).2.rows, around.now,
        gives code (service.exchangeCode around code redirectUri clientId codeVerifier
          ⟨w.rows, faults⟩).1 ++ w.given⟩
  | exchangeRefreshToken (faults : List (Option Fault)) (around : Surroundings)
      (raw clientId : String) (hclock : w.clock ≤ around.now)
      (hfresh : FreshToken service.hash w.rows around.toDraw) :
      ExchangeStep service w
        ⟨(service.exchangeRefreshToken around raw clientId ⟨w.rows, faults⟩).2.rows, around.now,
          w.given⟩

/-- A run. -/
abbrev ExchangeRun (service : OidcService) : Exchanges → Exchanges → Prop :=
  Relation.ReflTransGen (ExchangeStep service)

/-- The token with a hash, and the tokens that follow a descendant of it. -/
inductive Descends (rows : Rows) (root : String) : RefreshToken → Prop where
  | first {token : RefreshToken} (hmem : token ∈ rows.tokens) (hroot : token.tokenHash = root) :
      Descends rows root token
  | next {parent token : RefreshToken} (h : Descends rows root parent)
      (hmem : token ∈ rows.tokens) (hparent : token.parentId = some parent.id) :
      Descends rows root token

theorem Descends.mem {rows : Rows} {root : String} {token : RefreshToken}
    (h : Descends rows root token) : token ∈ rows.tokens := by
  cases h with
  | first hmem _ => exact hmem
  | next _ hmem _ => exact hmem

/-! ### What the operations leave alone -/

/-- The codes are as they were. -/
def KeepsCodes {α : Type} (x : Act Error Store α) : Prop :=
  ∀ s, (x s).2.rows.codes = s.rows.codes

namespace KeepsCodes

variable {α β : Type}

theorem call {answer : Rows → α} {effect : Rows → Rows} (h : ∀ rows, (effect rows).codes = rows.codes) :
    KeepsCodes (call answer effect) := by
  intro s
  obtain ⟨faults, hok | ⟨e, herr⟩ | ⟨e, herr⟩⟩ := call_cases answer effect s
  · rw [hok]
    exact h s.rows
  · rw [herr]
  · rw [herr]
    exact h s.rows

theorem bind {x : Act Error Store α} {f : α → Act Error Store β} (hx : KeepsCodes x)
    (hf : ∀ a, KeepsCodes (f a)) : KeepsCodes (x >>= f) := by
  intro s
  rcases Act.bind_cases x f s with ⟨e, s', hrun, hseq⟩ | ⟨a, s', hrun, hseq⟩ <;>
    have hkept := hx s <;> rw [hrun] at hkept <;> rw [hseq]
  · exact hkept
  · exact (hf a s').trans hkept

theorem catching {x : Act Error Store α} (hx : KeepsCodes x) (handler : Error → α) :
    KeepsCodes (x.catching handler) := by
  intro s
  rw [Act.catching_snd]
  exact hx s

theorem pure (a : α) : KeepsCodes (Pure.pure a : Act Error Store α) := fun _ => rfl

theorem throw (e : Error) : KeepsCodes (Act.throw e : Act Error Store α) := fun _ => rfl

theorem updateToken (id : String) (now : Int) : KeepsCodes (updateToken id now) :=
  call fun _ => rfl

theorem revokeAll (now : Int) (rows : List RefreshToken) :
    KeepsCodes (RefreshTokenStore.revokeAll now rows) := by
  induction rows with
  | nil => exact pure ()
  | cons row rows ih =>
      rw [RefreshTokenStore.revokeAll]
      split_ifs
      · exact ih
      · exact bind (catching (updateToken row.id now) _) fun _ => ih

theorem rotate (hash : Hash) (now : Int) (raw hint : String) :
    KeepsCodes (RefreshTokenStore.rotate hash now raw hint) := by
  refine bind (call fun _ => rfl) fun found => ?_
  rcases found with _ | ⟨row, _⟩
  · exact throw _
  · dsimp only
    split_ifs
    · exact throw _
    · exact bind (catching (bind (call fun _ => rfl) fun rows => revokeAll now rows) _)
        fun _ => throw _
    · exact throw _
    · exact bind (updateToken row.id now) fun _ => pure _

theorem issueRefresh (service : OidcService) (draw : Draw) (req : RefreshTokenRequest)
    (ttlSeconds : Int) : KeepsCodes (service.issueRefresh draw req ttlSeconds) := by
  have hcreate : KeepsCodes (createToken
      (RefreshTokenStore.newToken service.hash draw req ttlSeconds)) := call fun _ => rfl
  exact catching (bind hcreate fun _ => pure _) _

theorem exchangeRefreshToken (service : OidcService) (around : Surroundings)
    (raw clientId : String) : KeepsCodes (service.exchangeRefreshToken around raw clientId) := by
  rw [OidcService.exchangeRefreshToken]
  rcases service.clients clientId with _ | client
  · exact throw _
  · refine bind (rotate _ _ _ _) fun rt => ?_
    split_ifs
    · exact throw _
    · exact bind (issueRefresh _ _ _ _) fun _ => pure _

end KeepsCodes

/-- A code is written, or it is not. -/
theorem issueCode_cases (service : OidcService) (draw : Draw) (req : AuthorizeRequest)
    (userId tenantId : String) (s : Store) :
    (service.issueCode draw req userId tenantId s).2.rows = s.rows ∨
      ∃ code : AuthorizationCode, code.codeHash = service.hash draw.token ∧
        (service.issueCode draw req userId tenantId s).2.rows =
          { s.rows with codes := s.rows.codes ++ [code] } := by
  rw [OidcService.issueCode, AuthCodeStore.issue, Act.bind_pure_snd, createCode]
  obtain ⟨faults, hok | ⟨e, herr⟩ | ⟨e, herr⟩⟩ := call_cases (fun _ => ()) _ s
  · exact Or.inr ⟨_, rfl, congrArg (fun r => r.2.rows) hok⟩
  · exact Or.inl (congrArg (fun r => r.2.rows) herr)
  · exact Or.inr ⟨_, rfl, congrArg (fun r => r.2.rows) herr⟩

/-! ### What every run keeps -/

/-- There is a code with this hash, and it is consumed. -/
structure SpentCode (rows : Rows) (codeHash : String) : Prop where
  found : ∃ code ∈ rows.codes, code.codeHash = codeHash
  consumed : ∀ code ∈ rows.codes, code.codeHash = codeHash → code.consumedAt.isSome

/-- There is a token with this hash. -/
def HasToken (rows : Rows) (tokenHash : String) : Prop :=
  ∃ token ∈ rows.tokens, token.tokenHash = tokenHash

/-- What holds at every point of a run: of the tokens, of the codes, and of what was given. -/
structure ExchangeInv (service : OidcService) (w : Exchanges) : Prop where
  distinct : Distinct w.rows
  hashed : ∀ token ∈ w.rows.tokens, ∃ raw, token.tokenHash = service.hash raw
  codes : (w.rows.codes.map AuthorizationCode.codeHash).Nodup
  spent : ∀ g ∈ w.given, SpentCode w.rows (service.hash g.1) ∧ HasToken w.rows (service.hash g.2)

theorem HasToken.of_revised {rows rows' : Rows} (hrevised : Revised rows rows') {tokenHash : String}
    (h : HasToken rows tokenHash) : HasToken rows' tokenHash := by
  obtain ⟨t, ht, hhash⟩ := h
  obtain ⟨t', ht', hto⟩ := Store.exists_of_forall₂ hrevised.tokens ht
  exact ⟨t', ht', hto.tokenHash_eq.trans hhash⟩

theorem HasToken.addToken {rows : Rows} {tokenHash : String} (h : HasToken rows tokenHash)
    (token : RefreshToken) : HasToken (rows.addToken token) tokenHash := by
  obtain ⟨t, ht, hhash⟩ := h
  exact ⟨t, List.mem_append_left _ ht, hhash⟩

theorem consumeAt_codeHash (rows : Rows) (id : String) (now : Int) :
    (rows.consumeAt id now).codes.map AuthorizationCode.codeHash =
      rows.codes.map AuthorizationCode.codeHash := by
  rw [Rows.consumeAt, List.map_map]
  refine List.map_congr_left fun code _ => ?_
  rw [Function.comp]
  split_ifs <;> rfl

/-- A code that was consumed stays so. -/
theorem SpentCode.consumeAt {rows : Rows} {codeHash : String} (h : SpentCode rows codeHash)
    (id : String) (now : Int) : SpentCode (rows.consumeAt id now) codeHash := by
  refine ⟨?_, fun code' hcode' hhash => ?_⟩
  · obtain ⟨code, hcode, hhash⟩ := h.found
    have hin : codeHash ∈ (rows.consumeAt id now).codes.map AuthorizationCode.codeHash := by
      rw [consumeAt_codeHash]
      exact List.mem_map.2 ⟨code, hcode, hhash⟩
    exact List.mem_map.1 hin
  · obtain ⟨code, hcode, rfl⟩ := List.mem_map.1 hcode'
    split_ifs at hhash ⊢ with hid
    · rfl
    · exact h.consumed code hcode hhash

/-- The code that is redeemed is the only one with its hash. -/
theorem spentCode_of_consumeAt {rows : Rows}
    (hnodup : (rows.codes.map AuthorizationCode.codeHash).Nodup) {code : AuthorizationCode}
    (hmem : code ∈ rows.codes) (now : Int) :
    SpentCode (rows.consumeAt code.id now) code.codeHash := by
  refine ⟨⟨_, List.mem_map.2 ⟨code, hmem, if_pos rfl⟩, rfl⟩, fun code' hcode' hhash => ?_⟩
  obtain ⟨other, hother, rfl⟩ := List.mem_map.1 hcode'
  split_ifs at hhash ⊢ with hid
  · rfl
  · exact absurd (congrArg AuthorizationCode.id
      (List.inj_on_of_nodup_map hnodup hother hmem hhash)) hid

namespace ExchangeInv

variable {service : OidcService} {w : Exchanges}

theorem empty (clock : Int) : ExchangeInv service ⟨{}, clock, []⟩ where
  distinct := .empty
  hashed := fun _ h => nomatch h
  codes := List.nodup_nil
  spent := fun _ h => nomatch h

/-- The part about tokens, when these are revised. -/
theorem hashed_of_revised (h : ExchangeInv service w) {rows : Rows} (hrevised : Revised w.rows rows) :
    ∀ token ∈ rows.tokens, ∃ raw, token.tokenHash = service.hash raw := by
  intro t' ht'
  obtain ⟨t, ht, hto⟩ := Store.exists_of_forall₂_right hrevised.tokens ht'
  obtain ⟨raw, hraw⟩ := h.hashed t ht
  exact ⟨raw, hto.tokenHash_eq.trans hraw⟩

/-- Tokens are revised and the codes left alone. -/
theorem revised (h : ExchangeInv service w) {rows : Rows} (hrevised : Revised w.rows rows)
    (hcodes : rows.codes = w.rows.codes) (clock : Int) :
    ExchangeInv service ⟨rows, clock, w.given⟩ where
  distinct := h.distinct.revised hrevised
  hashed := h.hashed_of_revised hrevised
  codes := by
    dsimp only
    rw [hcodes]
    exact h.codes
  spent := by
    intro g hg
    obtain ⟨hcode, htoken⟩ := h.spent g hg
    exact ⟨⟨hcodes ▸ hcode.found, fun code hmem => hcode.consumed code (hcodes ▸ hmem)⟩,
      htoken.of_revised hrevised⟩

/-- A token is added. -/
theorem addToken (h : ExchangeInv service w) {draw : Draw}
    (hfresh : FreshToken service.hash w.rows draw) (req : RefreshTokenRequest) (ttlSeconds : Int) :
    ExchangeInv service ⟨w.rows.addToken
      (RefreshTokenStore.newToken service.hash draw req ttlSeconds), w.clock, w.given⟩ where
  distinct := h.distinct.addToken hfresh req ttlSeconds
  hashed := by
    intro t ht
    rcases List.mem_append.1 ht with ht | ht
    · exact h.hashed t ht
    · rw [List.mem_singleton.1 ht]
      exact ⟨draw.token, rfl⟩
  codes := h.codes
  spent := by
    intro g hg
    obtain ⟨⟨hfound, hconsumed⟩, htoken⟩ := h.spent g hg
    exact ⟨⟨hfound, hconsumed⟩, htoken.addToken _⟩

/-- A code is added. -/
theorem addCode (h : ExchangeInv service w) {code : AuthorizationCode}
    (hnew : ∀ other ∈ w.rows.codes, other.codeHash ≠ code.codeHash) (clock : Int) :
    ExchangeInv service ⟨{ w.rows with codes := w.rows.codes ++ [code] }, clock, w.given⟩ where
  distinct := ⟨h.distinct.hashes, h.distinct.ids, h.distinct.named⟩
  hashed := h.hashed
  codes := by
    rw [List.map_append]
    refine List.Nodup.append h.codes (List.nodup_singleton _) fun x hx hx' => ?_
    obtain ⟨other, hother, rfl⟩ := List.mem_map.1 hx
    exact hnew other hother (List.mem_singleton.1 hx')
  spent := by
    intro g hg
    obtain ⟨⟨⟨found, hfound, hhash⟩, hconsumed⟩, htoken⟩ := h.spent g hg
    refine ⟨⟨⟨found, List.mem_append_left _ hfound, hhash⟩, fun other hother hsame => ?_⟩, htoken⟩
    rcases List.mem_append.1 hother with hother | hother
    · exact hconsumed other hother hsame
    · rw [List.mem_singleton.1 hother] at hsame
      exact absurd (hhash.trans hsame.symm) (hnew found hfound)

/-- A code is redeemed, or an attempt at it made. -/
theorem redeem (h : ExchangeInv service w) {rows : Rows}
    (hrows : rows = w.rows ∨ ∃ id now, rows = w.rows.consumeAt id now) (clock : Int) :
    ExchangeInv service ⟨rows, clock, w.given⟩ := by
  rcases hrows with rfl | ⟨id, now, rfl⟩
  · exact ⟨h.distinct, h.hashed, h.codes, h.spent⟩
  · exact ⟨⟨h.distinct.hashes, h.distinct.ids, h.distinct.named⟩, h.hashed,
      (congrArg List.Nodup (consumeAt_codeHash w.rows id now)).mpr h.codes,
      fun g hg => ⟨(h.spent g hg).1.consumeAt id now, (h.spent g hg).2⟩⟩

/-- What an exchange gave is spent and there. -/
theorem gave (h : ExchangeInv service w) {code token : String}
    (hspent : SpentCode w.rows (service.hash code)) (htoken : HasToken w.rows (service.hash token)) :
    ExchangeInv service ⟨w.rows, w.clock, (code, token) :: w.given⟩ where
  distinct := h.distinct
  hashed := h.hashed
  codes := h.codes
  spent := by
    intro g hg
    rcases List.mem_cons.1 hg with rfl | hg
    · exact ⟨hspent, htoken⟩
    · exact h.spent g hg

end ExchangeInv

theorem FreshToken.of_revised {hash : Hash} {rows rows' : Rows} {draw : Draw}
    (h : FreshToken hash rows draw) (hrevised : Revised rows rows') : FreshToken hash rows' draw := by
  refine ⟨h.named, fun t' ht' => ?_, fun t' ht' => ?_⟩ <;>
    obtain ⟨t, ht, hto⟩ := Store.exists_of_forall₂_right hrevised.tokens ht'
  · rw [hto.id_eq]
    exact h.rowId t ht
  · rw [hto.tokenHash_eq]
    exact h.tokenHash t ht

namespace ExchangeInv

variable {service : OidcService} {w : Exchanges}

/-- A code is redeemed, and may have given a token. -/
theorem exchangeCode (h : ExchangeInv service w) {around : Surroundings}
    {code redirectUri clientId codeVerifier : String} {faults : List (Option Fault)}
    (hfresh : FreshToken service.hash w.rows around.toDraw) {row : AuthorizationCode}
    (hmem : row ∈ w.rows.codes)
    (hrow : Redeems service around code redirectUri clientId codeVerifier ⟨w.rows, faults⟩ row) :
    ExchangeInv service
      ⟨(service.exchangeCode around code redirectUri clientId codeVerifier
          ⟨w.rows, faults⟩).2.rows, around.now,
        gives code (service.exchangeCode around code redirectUri clientId codeVerifier
          ⟨w.rows, faults⟩).1 ++ w.given⟩ := by
  have hconsumed := h.redeem (Or.inr ⟨row.id, around.now, rfl⟩) around.now
  have hspent : SpentCode (w.rows.consumeAt row.id around.now) (service.hash code) :=
    hrow.keyed ▸ spentCode_of_consumeAt h.codes hmem around.now
  have hfresh := hfresh.of_revised (.consumeAt w.rows row.id around.now)
  have hissued := hrow.issues
  have hanswers := hrow.answers
  generalize service.exchangeCode around code redirectUri clientId codeVerifier
    ⟨w.rows, faults⟩ = out at hissued hanswers ⊢
  rcases out with ⟨e | resp, s'⟩
  · rcases hissued with hrows | ⟨req, ttlSeconds, -, hrows⟩
    · exact hrows ▸ hconsumed
    · exact hrows ▸ hconsumed.addToken hfresh req ttlSeconds
  · rw [gives]
    by_cases hempty : resp.refreshToken = ""
    · rw [if_pos hempty]
      rcases hissued with hrows | ⟨req, ttlSeconds, -, hrows⟩
      · exact hrows ▸ hconsumed
      · exact hrows ▸ hconsumed.addToken hfresh req ttlSeconds
    · obtain ⟨-, hgiven⟩ := hanswers resp rfl
      obtain ⟨htoken, ttlSeconds, hrows⟩ := hgiven hempty
      rw [if_neg hempty]
      have hadded := hconsumed.addToken hfresh (OidcService.firstRequest row.redeemed) ttlSeconds
      have hthere : HasToken ((w.rows.consumeAt row.id around.now).addToken
          (RefreshTokenStore.newToken service.hash around.toDraw
            (OidcService.firstRequest row.redeemed) ttlSeconds)) (service.hash resp.refreshToken) :=
        ⟨_, List.mem_append_right _ List.mem_cons_self, by rw [htoken]; rfl⟩
      have hspent : SpentCode ((w.rows.consumeAt row.id around.now).addToken
          (RefreshTokenStore.newToken service.hash around.toDraw
            (OidcService.firstRequest row.redeemed) ttlSeconds)) (service.hash code) :=
        ⟨hspent.found, hspent.consumed⟩
      exact hrows ▸ hadded.gave hspent hthere

/-- A token is rotated and followed by the next one, or nothing of that. -/
theorem exchangeRefreshToken (h : ExchangeInv service w) {around : Surroundings}
    (faults : List (Option Fault)) (raw clientId : String)
    (hfresh : FreshToken service.hash w.rows around.toDraw) :
    ExchangeInv service
      ⟨(service.exchangeRefreshToken around raw clientId ⟨w.rows, faults⟩).2.rows, around.now,
        w.given⟩ := by
  have hcodes := KeepsCodes.exchangeRefreshToken service around raw clientId ⟨w.rows, faults⟩
  have hkept := KeepsCodes.rotate service.hash around.now raw clientId ⟨w.rows, faults⟩
  rcases exchangeRefreshToken_cases service around raw clientId ⟨w.rows, faults⟩ with
    ⟨-, hrows⟩ | ⟨-, ⟨e, s₁, -, hissue⟩ | ⟨rt, s₁, hrun, hrotated, hissue⟩⟩
  · rw [hrows]
    exact h.revised (.refl _) rfl around.now
  · exact h.revised hissue hcodes around.now
  · rw [hrun] at hkept
    have hafter := h.revised hrotated hkept around.now
    rcases hissue with hrows | ⟨req, ttlSeconds, -, hrows⟩ <;> rw [hrows]
    · exact hafter
    · exact hafter.addToken (hfresh.of_revised hrotated) req ttlSeconds

end ExchangeInv

/-- **Every operation keeps what holds.** -/
theorem ExchangeInv.step {service : OidcService} {w w' : Exchanges} (h : ExchangeInv service w)
    (hstep : ExchangeStep service w w') : ExchangeInv service w' := by
  rcases hstep with ⟨faults, draw, req, userId, tenantId, hclock, hfresh⟩ |
    ⟨faults, around, code, redirectUri, clientId, codeVerifier, hclock, hfresh⟩ |
    ⟨faults, around, raw, clientId, hclock, hfresh⟩
  · rcases issueCode_cases service draw req userId tenantId ⟨w.rows, faults⟩ with
      hrows | ⟨code, hhash, hrows⟩ <;> rw [hrows]
    · exact ⟨h.distinct, h.hashed, h.codes, h.spent⟩
    · exact h.addCode (fun other hother => hhash ▸ hfresh other hother) draw.now
  · rcases exchangeCode_cases service around code redirectUri clientId codeVerifier
      ⟨w.rows, faults⟩ with ⟨⟨e, herror⟩, hrows⟩ | ⟨row, hmem, hrow⟩
    · rw [herror]
      exact h.redeem (hrows.imp_right fun ⟨id, hid⟩ => ⟨id, around.now, hid⟩) around.now
    · exact h.exchangeCode hfresh hmem hrow
  · exact h.exchangeRefreshToken faults raw clientId hfresh

theorem ExchangeInv.run {service : OidcService} {w w' : Exchanges} (h : ExchangeInv service w)
    (hrun : ExchangeRun service w w') : ExchangeInv service w' := by
  induction hrun with
  | refl => exact h
  | tail _ hstep ih => exact ih.step hstep

/-! ### Descendants that are out of use -/

/-- A token that no exchange accepts from now on. -/
def Barred (service : OidcService) (now : Int) (token : RefreshToken) : Prop :=
  token.revokedAt.isSome ∨ token.expiresAt ≤ now ∨ service.clients token.clientId = none

theorem Barred.of_revokedTo {service : OidcService} {now now' : Int} {t t' : RefreshToken}
    (h : Barred service now t) (hto : RevokedTo t t') (hnow : now ≤ now') :
    Barred service now' t' := by
  rcases h with hrevoked | hexpired | hunknown
  · exact Or.inl (hto.isSome hrevoked)
  · refine Or.inr (Or.inl ?_)
    rcases hto with rfl | ⟨_, rfl⟩ <;> exact Int.le_trans hexpired hnow
  · refine Or.inr (Or.inr ?_)
    rcases hto with rfl | ⟨_, rfl⟩ <;> exact hunknown

/-- Every descendant is out of use. -/
def AllBarred (service : OidcService) (w : Exchanges) (root : String) : Prop :=
  ∀ token, Descends w.rows root token → Barred service w.clock token

/-- A revision adds no descendants. -/
theorem Descends.of_revised {rows rows' : Rows} (hrevised : Revised rows rows') {root : String}
    {t' : RefreshToken} (h : Descends rows' root t') :
    ∃ t, Descends rows root t ∧ RevokedTo t t' := by
  have hparentId : ∀ {t t' : RefreshToken}, RevokedTo t t' → t'.parentId = t.parentId := by
    rintro t t' (rfl | ⟨_, rfl⟩) <;> rfl
  induction h with
  | first hmem hroot =>
      obtain ⟨t, ht, hto⟩ := Store.exists_of_forall₂_right hrevised.tokens hmem
      exact ⟨t, .first ht (hto.tokenHash_eq ▸ hroot), hto⟩
  | next _ hmem hparent ih =>
      obtain ⟨parent, hdescends, hparentTo⟩ := ih
      obtain ⟨t, ht, hto⟩ := Store.exists_of_forall₂_right hrevised.tokens hmem
      rw [hparentId hto, hparentTo.id_eq] at hparent
      exact ⟨t, .next hdescends ht hparent, hto⟩

/-- Nor does a token that is no child of a descendant. -/
theorem Descends.of_addToken {rows : Rows} {token : RefreshToken} {root : String}
    (hroot : token.tokenHash ≠ root)
    (hparent : ∀ parent, Descends rows root parent → token.parentId ≠ some parent.id)
    {t : RefreshToken} (h : Descends (rows.addToken token) root t) : Descends rows root t := by
  induction h with
  | first hmem hhash =>
      rcases List.mem_append.1 hmem with hmem | hmem
      · exact .first hmem hhash
      · rw [List.mem_singleton.1 hmem] at hhash
        exact absurd hhash hroot
  | next _ hmem hid ih =>
      rcases List.mem_append.1 hmem with hmem | hmem
      · exact .next ih hmem hid
      · rw [List.mem_singleton.1 hmem] at hid
        exact absurd hid (hparent _ ih)

namespace AllBarred

variable {service : OidcService} {w : Exchanges} {root : String}

theorem revised (h : AllBarred service w root) {rows : Rows} (hrevised : Revised w.rows rows)
    {clock : Int} (hclock : w.clock ≤ clock) (given : List (String × String)) :
    AllBarred service ⟨rows, clock, given⟩ root := by
  intro t' ht'
  obtain ⟨t, ht, hto⟩ := ht'.of_revised hrevised
  exact (h t ht).of_revokedTo hto hclock

theorem addToken (h : AllBarred service w root) (hroot : HasToken w.rows root) {draw : Draw}
    (hfresh : FreshToken service.hash w.rows draw) {req : RefreshTokenRequest} {ttlSeconds : Int}
    (hparent : ∀ parent, Descends w.rows root parent → req.parentId ≠ some parent.id)
    (given : List (String × String)) :
    AllBarred service ⟨w.rows.addToken (RefreshTokenStore.newToken service.hash draw req ttlSeconds),
      w.clock, given⟩ root := by
  intro t ht
  refine h t (ht.of_addToken ?_ hparent)
  obtain ⟨first, hfirst, rfl⟩ := hroot
  exact (hfresh.tokenHash first hfirst).symm

/-- **A barred descendant is not rotated.** -/
theorem not_rotated (h : AllBarred service w root) (hinv : ExchangeInv service w)
    {faults : List (Option Fault)} {now : Int} (hclock : w.clock ≤ now) {raw clientId : String}
    (hclient : (service.clients clientId).isSome) {rt : RotatedRefreshToken} {s' : Store}
    (hok : RefreshTokenStore.rotate service.hash now raw clientId ⟨w.rows, faults⟩ = (.ok rt, s'))
    {token : RefreshToken} (hdescends : Descends w.rows root token) :
    token.id ≠ rt.tokenId ∧ token.tokenHash ≠ service.hash raw := by
  obtain ⟨used, hmem, hhash, hhint, hactive, hexpires, rfl, -⟩ := rotate_spec hok
  have hother : token ≠ used := by
    rintro rfl
    rcases h token hdescends with hrevoked | hexpired | hunknown
    · rw [hactive] at hrevoked
      exact nomatch hrevoked
    · omega
    · rw [hhint] at hunknown
      rw [hunknown] at hclient
      exact nomatch hclient
  constructor
  · intro hid
    exact hother (List.inj_on_of_nodup_map hinv.distinct.ids hdescends.mem hmem hid)
  · intro hsame
    exact hother (List.inj_on_of_nodup_map hinv.distinct.hashes hdescends.mem hmem
      (hsame.trans hhash.symm))

/-- **Barred descendants stay barred, and there are no others.** -/
theorem step (h : AllBarred service w root) (hinv : ExchangeInv service w)
    (hroot : HasToken w.rows root) {w' : Exchanges} (hstep : ExchangeStep service w w') :
    AllBarred service w' root ∧ HasToken w'.rows root := by
  rcases hstep with ⟨faults, draw, req, userId, tenantId, hclock, hfresh⟩ |
    ⟨faults, around, code, redirectUri, clientId, codeVerifier, hclock, hfresh⟩ |
    ⟨faults, around, raw, clientId, hclock, hfresh⟩
  · have hrevised := issueCode_revised service draw req userId tenantId ⟨w.rows, faults⟩
    exact ⟨h.revised hrevised hclock _, hroot.of_revised hrevised⟩
  · obtain ⟨rows₁, hrevised, hissue⟩ : ∃ rows₁, Revised w.rows rows₁ ∧
        MayIssue service.hash around.toDraw (fun req => req.parentId = none) rows₁
          (service.exchangeCode around code redirectUri clientId codeVerifier
            ⟨w.rows, faults⟩).2.rows := by
      rcases exchangeCode_cases service around code redirectUri clientId codeVerifier
        ⟨w.rows, faults⟩ with ⟨-, hrows | ⟨id, hrows⟩⟩ | ⟨row, -, hrow⟩
      · exact ⟨w.rows, .refl _, Or.inl hrows⟩
      · exact ⟨_, .consumeAt w.rows id around.now, Or.inl hrows⟩
      · refine ⟨_, .consumeAt w.rows row.id around.now, ?_⟩
        rcases hrow.issues with hrows | ⟨_, ttlSeconds, rfl, hrows⟩
        · exact Or.inl hrows
        · exact Or.inr ⟨_, ttlSeconds, rfl, hrows⟩
    have hbarred := h.revised hrevised hclock w.given
    have hthere := hroot.of_revised hrevised
    rcases hissue with hrows | ⟨req, ttlSeconds, hnone, hrows⟩ <;> rw [hrows]
    · exact ⟨hbarred, hthere⟩
    · refine ⟨hbarred.addToken hthere (hfresh.of_revised hrevised) (fun parent _ => ?_) _,
        hthere.addToken _⟩
      rw [hnone]
      exact fun h => nomatch h
  · rcases exchangeRefreshToken_cases service around raw clientId ⟨w.rows, faults⟩ with
      ⟨-, hrows⟩ | ⟨hclient, ⟨e, s₁, -, hissue⟩ | ⟨rt, s₁, hrun, hrevised, hissue⟩⟩
    · rw [hrows]
      exact ⟨h.revised (.refl _) hclock _, hroot⟩
    · exact ⟨h.revised hissue hclock _, hroot.of_revised hissue⟩
    · have hbarred := h.revised hrevised hclock w.given
      have hthere := hroot.of_revised hrevised
      rcases hissue with hrows | ⟨_, ttlSeconds, rfl, hrows⟩ <;> rw [hrows]
      · exact ⟨hbarred, hthere⟩
      · refine ⟨hbarred.addToken hthere (hfresh.of_revised hrevised) (fun parent' hparent' => ?_) _,
          hthere.addToken _⟩
        -- The parent of the next token is the one rotated, which is no descendant.
        obtain ⟨parent, hparent, hto⟩ := hparent'.of_revised hrevised
        have hne := (h.not_rotated hinv hclock hclient hrun hparent).1
        rw [← hto.id_eq] at hne
        exact fun heq => hne (Option.some.inj heq).symm

theorem run (h : AllBarred service w root) (hinv : ExchangeInv service w)
    (hroot : HasToken w.rows root) {w' : Exchanges} (hrun : ExchangeRun service w w') :
    AllBarred service w' root := by
  have hall : AllBarred service w' root ∧ HasToken w'.rows root := by
    induction hrun with
    | refl => exact ⟨h, hroot⟩
    | tail hbefore hstep ih => exact ih.1.step (hinv.run hbefore) ih.2 hstep
  exact hall.1

end AllBarred

/-! ### The result -/

/-- Some exchange accepts the token, now or later. -/
def Accepted (service : OidcService) (w : Exchanges) (token : RefreshToken) : Prop :=
  ∃ (faults : List (Option Fault)) (around : Surroundings) (raw clientId : String)
    (resp : TokenResponse) (s' : Store), w.clock ≤ around.now ∧
      token.tokenHash = service.hash raw ∧
      service.exchangeRefreshToken around raw clientId ⟨w.rows, faults⟩ = (.ok resp, s')

theorem AllBarred.not_accepted {service : OidcService} {w : Exchanges} {root : String}
    (h : AllBarred service w root) (hinv : ExchangeInv service w) {token : RefreshToken}
    (hdescends : Descends w.rows root token) : ¬Accepted service w token := by
  rintro ⟨faults, around, raw, clientId, resp, s', hclock, hhash, hok⟩
  rw [OidcService.exchangeRefreshToken] at hok
  rcases hclient : service.clients clientId with _ | client <;> rw [hclient] at hok
  · cases (Prod.mk.inj hok).1
  · obtain ⟨rt, s₁, hrotate, -⟩ := bind_ok_iff.1 hok
    exact (h.not_rotated hinv hclock (Option.isSome_iff_exists.2 ⟨client, hclient⟩) hrotate
      hdescends).2 hhash

/-- A token that is not barred is accepted at once. -/
theorem accepted_of_not_barred {service : OidcService} {w : Exchanges}
    (h : ExchangeInv service w) {token : RefreshToken} (hmem : token ∈ w.rows.tokens)
    (hlive : ¬Barred service w.clock token) : Accepted service w token := by
  rw [Barred, not_or, not_or, Option.not_isSome_iff_eq_none, Int.not_le] at hlive
  obtain ⟨hactive, hexpires, hclient⟩ := hlive
  obtain ⟨client, hclient⟩ := Option.ne_none_iff_exists'.1 hclient
  obtain ⟨raw, hraw⟩ := h.hashed token hmem
  let around : Surroundings :=
    { now := w.clock, token := "", familyId := "", rowId := "", sid := .ok "", role := .ok "",
      signs := true }
  have hrotate : RefreshTokenStore.rotate service.hash around.now raw token.clientId
      ⟨w.rows, []⟩ = (.ok token.rotated, ⟨w.rows.revokeAt token.id w.clock, []⟩) :=
    rotate_active h.distinct hmem hactive hraw hexpires
  refine ⟨[], around, raw, token.clientId, ?_⟩
  rw [OidcService.exchangeRefreshToken, hclient]
  dsimp only
  rw [Act.bind_ok hrotate]
  exact ⟨_, _, Int.le_refl _, hraw, rfl⟩

theorem Descends.of_tokens {rows rows' : Rows} (h : rows'.tokens = rows.tokens) {root : String}
    {token : RefreshToken} (hdescends : Descends rows root token) : Descends rows' root token := by
  induction hdescends with
  | first hmem hroot => exact .first (h ▸ hmem) hroot
  | next _ hmem hparent ih => exact .next ih (h ▸ hmem) hparent

/-- **What a replay of a code revokes: nothing.**  A code gave a refresh token and is presented
again to `exchangeCode`, which refuses it.  That no later exchange accepts a token which
descends from the one given holds if and only if all of them were revoked or had expired
by then, or belong to a client that is not configured. -/
theorem replay_revokes_iff {service : OidcService} {clock : Int} {w : Exchanges}
    (hrun : ExchangeRun service ⟨{}, clock, []⟩ w) {code refreshToken : String}
    (hgiven : (code, refreshToken) ∈ w.given) (faults : List (Option Fault))
    (around : Surroundings) (redirectUri clientId codeVerifier : String) :
    let replay := service.exchangeCode around code redirectUri clientId codeVerifier ⟨w.rows, faults⟩
    (∃ e, replay.1 = .error e) ∧
    ((∀ later, ExchangeRun service ⟨replay.2.rows, around.now, w.given⟩ later →
      ∀ token, Descends later.rows (service.hash refreshToken) token →
        ¬Accepted service later token) ↔
      ∀ token, Descends w.rows (service.hash refreshToken) token →
        Barred service around.now token) := by
  intro replay
  have hinv := (ExchangeInv.empty clock).run hrun
  obtain ⟨hspent, hthere⟩ := hinv.spent _ hgiven
  rcases exchangeCode_cases service around code redirectUri clientId codeVerifier
    ⟨w.rows, faults⟩ with ⟨herror, hrows⟩ | ⟨row, hmem, hrow⟩
  · have hrevised : Revised w.rows replay.2.rows := by
      rcases hrows with hrows | ⟨id, hrows⟩
      · exact (congrArg (Revised w.rows) hrows).mpr (.refl _)
      · exact (congrArg (Revised w.rows) hrows).mpr (.consumeAt w.rows id around.now)
    have htokens : replay.2.rows.tokens = w.rows.tokens := by
      rcases hrows with hrows | ⟨id, hrows⟩
      · exact congrArg Rows.tokens hrows
      · exact (congrArg Rows.tokens hrows).trans rfl
    have hafter : ExchangeInv service ⟨replay.2.rows, around.now, w.given⟩ :=
      hinv.redeem (hrows.imp_right fun ⟨id, hid⟩ => ⟨id, around.now, hid⟩) around.now
    refine ⟨herror, fun hnone token hdescends => ?_, fun hbarred later hlater token hdescends => ?_⟩
    · by_contra hlive
      exact hnone _ .refl token (hdescends.of_tokens htokens)
        (accepted_of_not_barred hafter (hdescends.of_tokens htokens).mem hlive)
    · have hall : AllBarred service ⟨replay.2.rows, around.now, w.given⟩
          (service.hash refreshToken) := fun t ht => hbarred t (ht.of_tokens htokens.symm)
      exact (hall.run hafter (hthere.of_revised hrevised) hlater).not_accepted (hafter.run hlater)
        hdescends
  · have hconsumed := hspent.consumed row hmem hrow.keyed
    rw [hrow.live] at hconsumed
    exact nomatch hconsumed

/-! ### A code, its exchange and its replay -/

/-- One client, whose refresh tokens live for two weeks. -/
def demoService : OidcService where
  clients := fun _ => some {}
  hash := id
  sha256 := fun _ => demoDigest

/-- What an exchange at a time draws. -/
def demoAround (now : Int) (token rowId : String) : Surroundings :=
  { now, token, familyId := token, rowId, sid := .ok "sid", role := .ok "user", signs := true }

/-- The code `c1` is issued. -/
def demoIssued : Exchanges where
  rows := (demoService.issueCode ⟨0, "c1", "", "code"⟩
    ⟨"app", "https://app", "openid offline_access", demoChallenge, "S256", none⟩ "ada" "acme"
    {}).2.rows
  clock := 0

/-- It is exchanged for the refresh token `t1`. -/
def demoExchanged : Exchanges where
  rows := (demoService.exchangeCode (demoAround 1 "t1" "row1") "c1" "https://app" "app" demoVerifier
    ⟨demoIssued.rows, []⟩).2.rows
  clock := 1
  given := [("c1", "t1")]

theorem demoExchanged_run : ExchangeRun demoService ⟨{}, 0, []⟩ demoExchanged := by
  have hissue : ExchangeStep demoService ⟨{}, 0, []⟩ demoIssued :=
    .issueCode [] ⟨0, "c1", "", "code"⟩
      ⟨"app", "https://app", "openid offline_access", demoChallenge, "S256", none⟩ "ada" "acme"
      (Int.le_refl 0) fun _ h => nomatch h
  have hexchange : ExchangeStep demoService demoIssued demoExchanged :=
    .exchangeCode [] (demoAround 1 "t1" "row1") "c1" "https://app" "app" demoVerifier (by decide)
      ⟨by decide, by decide +kernel, by decide +kernel⟩
  exact .tail (.single hissue) hexchange

/-- The replay comes after the refresh token has expired. -/
theorem replay_revokes_expired :
    let replay := demoService.exchangeCode (demoAround 1209601 "t2" "row2") "c1" "https://app" "app"
      demoVerifier ⟨demoExchanged.rows, []⟩
    ∀ later, ExchangeRun demoService ⟨replay.2.rows, 1209601, [("c1", "t1")]⟩ later →
      ∀ token, Descends later.rows "t1" token → ¬Accepted demoService later token := by
  have hexpired : ∀ token ∈ demoExchanged.rows.tokens, token.expiresAt ≤ 1209601 := by
    decide +kernel
  exact (replay_revokes_iff demoExchanged_run List.mem_cons_self []
    (demoAround 1209601 "t2" "row2") "https://app" "app" demoVerifier).2.2
    fun token hdescends => Or.inr (Or.inl (hexpired token hdescends.mem))

/-- The refresh token is accepted after the replay of its code. -/
theorem replay_revokes_nothing :
    let replay := demoService.exchangeCode (demoAround 2 "t2" "row2") "c1" "https://app" "app"
      demoVerifier ⟨demoExchanged.rows, []⟩
    ExchangeRun demoService ⟨{}, 0, []⟩ demoExchanged ∧ ("c1", "t1") ∈ demoExchanged.given ∧
    replay.1.isOk = false ∧
    (demoService.exchangeRefreshToken (demoAround 3 "t3" "row3") "t1" "app"
      ⟨replay.2.rows, []⟩).1.isOk = true :=
  ⟨demoExchanged_run, List.mem_cons_self, by decide +kernel, by decide +kernel⟩

end Oidc
end Dbal
