/-
# Families of refresh tokens

The rotation of a token revokes it and issues the next one of its family.  Over runs of the
exchanges and of `rotate`, `revoke` and `revokeFamily`, one at a time and with calls that may
fail anywhere: a token is rotated once at most, a revoked one never, a family has one token
at most that is not revoked, and all its tokens carry the grant of one authorization code.
-/

import Mathlib.Data.List.Count
import Mathlib.Data.List.Nodup
import Dbal.Oidc.TokenRows

namespace Dbal
namespace Oidc

/-! ### Runs -/

/-- What is observed of a run: a token accepted by `rotate`, and one that `revoke` found. -/
inductive Event where
  | rotated (tokenHash : String)
  | revoked (tokenHash : String)
  deriving DecidableEq, Repr

/-- The rows, and the rotations whose next token is not issued yet. -/
structure World where
  rows : Rows := {}
  pending : List RotatedRefreshToken := []

/-- What was drawn is not in the rows. -/
structure Fresh (hash : Hash) (rows : Rows) (draw : Draw) : Prop where
  named : draw.familyId ≠ ""
  tokenHash : ∀ token ∈ rows.tokens, token.tokenHash ≠ hash draw.token
  familyId : ∀ token ∈ rows.tokens, token.familyId ≠ draw.familyId

/-- What an exchange of a refresh token shows: the rotation within, when there is one. -/
def exchanged (service : OidcService) (now : Int) (raw clientId : String) (s : Store) :
    List Event :=
  match service.clients clientId, (RefreshTokenStore.rotate service.hash now raw clientId s).1 with
  | some _, .ok _ => [.rotated (service.hash raw)]
  | _, _ => []

/-- What `rotate` shows, and what it leaves to issue. -/
def rotates (service : OidcService) (now : Int) (raw hint : String) (w : World) (s : Store) :
    List Event × World :=
  match RefreshTokenStore.rotate service.hash now raw hint s with
  | (.ok rt, s') => ([.rotated (service.hash raw)], ⟨s'.rows, rt :: w.pending⟩)
  | (.error _, s') => ([], ⟨s'.rows, w.pending⟩)

/-- What `revoke` shows. -/
def revokes (service : OidcService) (now : Int) (raw : String) (w : World) (s : Store) :
    List Event × World :=
  match RefreshTokenStore.revoke service.hash now raw s with
  | (.ok _, s') =>
      (if w.rows.tokens.any (fun token => token.tokenHash = service.hash raw) then
        [.revoked (service.hash raw)] else [], ⟨s'.rows, w.pending⟩)
  | (.error _, s') => ([], ⟨s'.rows, w.pending⟩)

/-- One operation, whatever happens to its calls.  A token is issued by an exchange, or once
after a rotation. -/
inductive Step (service : OidcService) (w : World) : List Event → World → Prop where
  | issueCode (faults : List (Option Fault)) (draw : Draw) (req : AuthorizeRequest)
      (userId tenantId : String) :
      Step service w []
        ⟨(service.issueCode draw req userId tenantId ⟨w.rows, faults⟩).2.rows, w.pending⟩
  | exchangeCode (faults : List (Option Fault)) (around : Surroundings)
      (code redirectUri clientId codeVerifier : String)
      (hfresh : Fresh service.hash w.rows around.toDraw) :
      Step service w []
        ⟨(service.exchangeCode around code redirectUri clientId codeVerifier
          ⟨w.rows, faults⟩).2.rows, w.pending⟩
  | exchangeRefreshToken (faults : List (Option Fault)) (around : Surroundings)
      (raw clientId : String) (hfresh : Fresh service.hash w.rows around.toDraw) :
      Step service w (exchanged service around.now raw clientId ⟨w.rows, faults⟩)
        ⟨(service.exchangeRefreshToken around raw clientId ⟨w.rows, faults⟩).2.rows, w.pending⟩
  | rotate (faults : List (Option Fault)) (now : Int) (raw hint : String) :
      Step service w (rotates service now raw hint w ⟨w.rows, faults⟩).1
        (rotates service now raw hint w ⟨w.rows, faults⟩).2
  | issueNext (faults : List (Option Fault)) (draw : Draw) (ttlSeconds : Int)
      (rt : RotatedRefreshToken) (hrt : rt ∈ w.pending) (hfresh : Fresh service.hash w.rows draw) :
      Step service w []
        ⟨(RefreshTokenStore.issue service.hash draw (OidcService.nextRequest rt) ttlSeconds
          ⟨w.rows, faults⟩).2.rows, w.pending.erase rt⟩
  | revoke (faults : List (Option Fault)) (now : Int) (raw : String) :
      Step service w (revokes service now raw w ⟨w.rows, faults⟩).1
        (revokes service now raw w ⟨w.rows, faults⟩).2
  | revokeFamily (faults : List (Option Fault)) (now : Int) (familyId : String) :
      Step service w []
        ⟨(RefreshTokenStore.revokeFamily now familyId ⟨w.rows, faults⟩).2.rows, w.pending⟩

/-- A run, with what was observed. -/
inductive Run (service : OidcService) : World → List Event → World → Prop where
  | refl (w : World) : Run service w [] w
  | step {w w' w'' : World} {es es' : List Event} :
      Step service w es w' → Run service w' es' w'' → Run service w (es ++ es') w''

/-! ### Moves -/

/-- What a new token does not share with those there. -/
structure NewToken (rows : Rows) (token : RefreshToken) : Prop where
  tokenHash : ∀ other ∈ rows.tokens, other.tokenHash ≠ token.tokenHash
  active : token.revokedAt = none

/-- What the operations are made of. -/
inductive Move (w : World) : List Event → World → Prop where
  | revise {rows : Rows} (h : Revised w.rows rows) : Move w [] ⟨rows, w.pending⟩
  | revoke {rows : Rows} {tokenHash : String} (h : Revised w.rows rows)
      (hretired : rows.Retired tokenHash) : Move w [.revoked tokenHash] ⟨rows, w.pending⟩
  | rotate {token : RefreshToken} (now : Int) (hmem : token ∈ w.rows.tokens)
      (hactive : token.revokedAt = none) :
      Move w [.rotated token.tokenHash]
        ⟨w.rows.revokeAt token.id now, token.rotated :: w.pending⟩
  | start {token : RefreshToken} (hnew : NewToken w.rows token) (hnamed : token.familyId ≠ "")
      (hfamily : ∀ other ∈ w.rows.tokens, other.familyId ≠ token.familyId)
      (hgrant : token.grant ∈ w.rows.granted) : Move w [] ⟨w.rows.addToken token, w.pending⟩
  | continue {rt : RotatedRefreshToken} {token : RefreshToken} (hrt : rt ∈ w.pending)
      (hnew : NewToken w.rows token) (hgrant : token.grant = rt.grant)
      (hfamily : rt.familyId ≠ "" → token.familyId = rt.familyId) :
      Move w [] ⟨w.rows.addToken token, w.pending.erase rt⟩
  | forgo (rt : RotatedRefreshToken) : Move w [] ⟨w.rows, w.pending.erase rt⟩

/-- Moves one after the other. -/
inductive Moves : World → List Event → World → Prop where
  | refl (w : World) : Moves w [] w
  | move {w w' w'' : World} {es es' : List Event} :
      Move w es w' → Moves w' es' w'' → Moves w (es ++ es') w''

theorem Move.moves {w w' : World} {es : List Event} (h : Move w es w') : Moves w es w' := by
  simpa using Moves.move h (.refl w')

theorem Moves.trans {w w' w'' : World} {es es' : List Event} (h : Moves w es w')
    (h' : Moves w' es' w'') : Moves w (es ++ es') w'' := by
  induction h with
  | refl w => exact h'
  | move hmove _ ih =>
      rw [List.append_assoc]
      exact .move hmove (ih h')

theorem Fresh.of_revised {hash : Hash} {rows rows' : Rows} {draw : Draw}
    (h : Fresh hash rows draw) (hrevised : Revised rows rows') : Fresh hash rows' draw := by
  refine ⟨h.named, fun t' ht' => ?_, fun t' ht' => ?_⟩ <;>
    obtain ⟨t, ht, hto⟩ := Store.exists_of_forall₂_right hrevised.tokens ht'
  · rw [hto.tokenHash_eq]
    exact h.tokenHash t ht
  · rw [hto.familyId_eq]
    exact h.familyId t ht

theorem Fresh.newToken {hash : Hash} {rows : Rows} {draw : Draw} (h : Fresh hash rows draw)
    (req : RefreshTokenRequest) (ttlSeconds : Int) :
    NewToken rows (RefreshTokenStore.newToken hash draw req ttlSeconds) :=
  ⟨h.tokenHash, rfl⟩

/-! ### The operations are made of moves -/

/-- The token of a fresh family. -/
theorem Fresh.start {hash : Hash} {w : World} {draw : Draw} (h : Fresh hash w.rows draw)
    {rows : Rows}
    (hissue : MayIssue hash draw (fun req => req.familyId = "" ∧ req.grant ∈ w.rows.granted)
      w.rows rows) : Moves w [] ⟨rows, w.pending⟩ := by
  rcases hissue with rfl | ⟨req, ttlSeconds, ⟨hfamily, hgrant⟩, rfl⟩
  · exact .refl w
  · have hid : (RefreshTokenStore.newToken hash draw req ttlSeconds).familyId = draw.familyId :=
      if_pos hfamily
    exact (Move.start (h.newToken req ttlSeconds) (hid ▸ h.named) (hid ▸ h.familyId) hgrant).moves

/-- The token that follows a rotated one, or none. -/
theorem Fresh.continue {hash : Hash} {w : World} {draw : Draw} (h : Fresh hash w.rows draw)
    {rt : RotatedRefreshToken} (hrt : rt ∈ w.pending) {rows : Rows}
    (hissue : MayIssue hash draw (· = OidcService.nextRequest rt) w.rows rows) :
    Moves w [] ⟨rows, w.pending.erase rt⟩ := by
  rcases hissue with rfl | ⟨_, ttlSeconds, rfl, rfl⟩
  · exact (Move.forgo rt).moves
  · have hfamily : rt.familyId ≠ "" → (RefreshTokenStore.newToken hash draw
        (OidcService.nextRequest rt) ttlSeconds).familyId = rt.familyId := fun hne => if_neg hne
    exact (Move.continue hrt (h.newToken _ ttlSeconds) rfl hfamily).moves

/-- A rotation that succeeded. -/
theorem rotate_moves {hash : Hash} {now : Int} {raw hint : String} {w : World}
    {faults : List (Option Fault)} {rt : RotatedRefreshToken} {s' : Store}
    (h : RefreshTokenStore.rotate hash now raw hint ⟨w.rows, faults⟩ = (.ok rt, s')) :
    Moves w [.rotated (hash raw)] ⟨s'.rows, rt :: w.pending⟩ := by
  obtain ⟨token, hmem, hhash, hactive, rfl, hrows⟩ := rotate_ok h
  rw [← hhash, hrows]
  exact (Move.rotate now hmem hactive).moves

theorem exchangeRefreshToken_moves {service : OidcService} {w : World} {around : Surroundings}
    (raw clientId : String) (faults : List (Option Fault))
    (hfresh : Fresh service.hash w.rows around.toDraw) :
    Moves w (exchanged service around.now raw clientId ⟨w.rows, faults⟩)
      ⟨(service.exchangeRefreshToken around raw clientId ⟨w.rows, faults⟩).2.rows, w.pending⟩ := by
  rcases exchangeRefreshToken_cases service around raw clientId ⟨w.rows, faults⟩ with
    ⟨hclient, hrows⟩ | ⟨hclient, ⟨e, s₁, hrun, hissue⟩ | ⟨rt, s₁, hrun, hrotated, hissue⟩⟩
  · rw [exchanged, hclient, hrows]
    exact .refl w
  · obtain ⟨client, hclient⟩ := Option.isSome_iff_exists.1 hclient
    rw [exchanged, hclient, hrun]
    exact (Move.revise hissue).moves
  · obtain ⟨client, hclient⟩ := Option.isSome_iff_exists.1 hclient
    have hnext : Moves ⟨s₁.rows, rt :: w.pending⟩ [] ⟨_, (rt :: w.pending).erase rt⟩ :=
      Fresh.continue (hfresh.of_revised hrotated) List.mem_cons_self hissue
    rw [List.erase_cons_head] at hnext
    rw [exchanged, hclient, hrun]
    exact (rotate_moves hrun).trans hnext

theorem revokes_moves (service : OidcService) (now : Int) (raw : String) (w : World)
    (faults : List (Option Fault)) :
    Moves w (revokes service now raw w ⟨w.rows, faults⟩).1
      (revokes service now raw w ⟨w.rows, faults⟩).2 := by
  rw [revokes]
  have hrevised := revoke_revised service.hash now raw ⟨w.rows, faults⟩
  rcases hrun : RefreshTokenStore.revoke service.hash now raw ⟨w.rows, faults⟩ with
    ⟨e | b, s'⟩ <;> rw [hrun] at hrevised
  · exact (Move.revise hrevised).moves
  · dsimp only
    split_ifs with hfound
    · obtain ⟨token, hmem, hhash⟩ := List.any_eq_true.1 hfound
      have hretired := revoke_ok hrun ⟨token, hmem, of_decide_eq_true hhash⟩
      exact (Move.revoke hrevised hretired).moves
    · exact (Move.revise hrevised).moves

/-- **Every operation is made of moves.** -/
theorem Step.moves {service : OidcService} {w w' : World} {es : List Event}
    (h : Step service w es w') : Moves w es w' := by
  rcases h with ⟨faults, draw, req, userId, tenantId⟩ |
    ⟨faults, around, code, redirectUri, clientId, codeVerifier, hfresh⟩ |
    ⟨faults, around, raw, clientId, hfresh⟩ | ⟨faults, now, raw, hint⟩ |
    ⟨faults, draw, ttlSeconds, rt, hrt, hfresh⟩ | ⟨faults, now, raw⟩ | ⟨faults, now, familyId⟩
  · exact (Move.revise (issueCode_revised service draw req userId tenantId ⟨w.rows, faults⟩)).moves
  · obtain ⟨rows, hrevised, hissue⟩ :=
      exchangeCode_mayBegin service around code redirectUri clientId codeVerifier ⟨w.rows, faults⟩
    have hstart : Moves ⟨rows, w.pending⟩ [] ⟨_, w.pending⟩ :=
      Fresh.start (hfresh.of_revised hrevised) hissue
    exact (Move.revise hrevised).moves.trans hstart
  · exact exchangeRefreshToken_moves raw clientId faults hfresh
  · rw [rotates]
    rcases hrun : RefreshTokenStore.rotate service.hash now raw hint ⟨w.rows, faults⟩ with
      ⟨e | rt, s'⟩
    · have hrevised := rotate_revised service.hash now raw hint ⟨w.rows, faults⟩
      rw [hrun] at hrevised
      exact (Move.revise hrevised).moves
    · exact rotate_moves hrun
  · have hissue : MayIssue service.hash draw (· = OidcService.nextRequest rt) w.rows
        (RefreshTokenStore.issue service.hash draw (OidcService.nextRequest rt) ttlSeconds
          ⟨w.rows, faults⟩).2.rows := by
      rcases issue_cases service.hash draw (OidcService.nextRequest rt) ttlSeconds
        ⟨w.rows, faults⟩ with h | h
      · exact Or.inl h
      · exact Or.inr ⟨_, ttlSeconds, rfl, h⟩
    exact hfresh.continue hrt hissue
  · exact revokes_moves service now raw w faults
  · exact (Move.revise (revokeFamily_revised now familyId ⟨w.rows, faults⟩)).moves

theorem Run.moves {service : OidcService} {w w' : World} {es : List Event}
    (h : Run service w es w') : Moves w es w' := by
  induction h with
  | refl w => exact .refl w
  | step hstep _ ih => exact hstep.moves.trans ih

/-! ### What every move keeps -/

/-- The tokens of a family that are not revoked. -/
def Rows.active (rows : Rows) (familyId : String) : Nat :=
  rows.tokens.countP fun token => token.familyId = familyId ∧ token.revokedAt = none

/-- The tokens of a family still to be issued. -/
def World.awaited (w : World) (familyId : String) : Nat :=
  w.pending.countP fun rt => rt.familyId = familyId

/-- What holds of the rows at every point. -/
structure Inv (w : World) : Prop where
  hashes : (w.rows.tokens.map RefreshToken.tokenHash).Nodup
  named : ∀ token ∈ w.rows.tokens, token.familyId ≠ ""
  single : ∀ familyId, w.rows.active familyId + w.awaited familyId ≤ 1
  alike : ∀ token ∈ w.rows.tokens, ∀ other ∈ w.rows.tokens, token.familyId = other.familyId →
    token.grant = other.grant
  granted : ∀ token ∈ w.rows.tokens, token.grant ∈ w.rows.granted
  awaits : ∀ rt ∈ w.pending, ∃ token ∈ w.rows.tokens, token.familyId = rt.familyId ∧
    token.grant = rt.grant

theorem Inv.empty : Inv {} where
  hashes := List.nodup_nil
  named := fun _ h => nomatch h
  single := fun _ => Nat.zero_le 1
  alike := fun _ h => nomatch h
  granted := fun _ h => nomatch h
  awaits := fun _ h => nomatch h

theorem RevokedTo.hashes {ts ts' : List RefreshToken} (h : List.Forall₂ RevokedTo ts ts') :
    ts'.map RefreshToken.tokenHash = ts.map RefreshToken.tokenHash :=
  Store.map_eq_of_forall₂ h fun _ _ ht => ht.tokenHash_eq

theorem RevokedTo.active {t t' : RefreshToken} (h : RevokedTo t t')
    (hactive : t'.revokedAt = none) : t' = t := by
  rcases h with rfl | ⟨now, rfl⟩
  · rfl
  · exact nomatch hactive

theorem RevokedTo.countP_active_le {ts ts' : List RefreshToken}
    (h : List.Forall₂ RevokedTo ts ts') (familyId : String) :
    (ts'.countP fun token => token.familyId = familyId ∧ token.revokedAt = none) ≤
      ts.countP fun token => token.familyId = familyId ∧ token.revokedAt = none := by
  induction h with
  | nil => exact Nat.le_refl _
  | @cons t t' ts ts' ht _ ih =>
      rw [List.countP_cons, List.countP_cons]
      have hone : (if decide (t'.familyId = familyId ∧ t'.revokedAt = none) then 1 else 0) ≤
          (if decide (t.familyId = familyId ∧ t.revokedAt = none) then 1 else 0) := by
        by_cases hactive : t'.revokedAt = none
        · exact Nat.le_of_eq (by rw [ht.active hactive])
        · simp [hactive]
      omega

/-- A revision activates nothing. -/
theorem Revised.active_le {rows rows' : Rows} (h : Revised rows rows') (familyId : String) :
    rows'.active familyId ≤ rows.active familyId :=
  RevokedTo.countP_active_le h.tokens familyId

/-- **A rotation takes an active token away.** -/
theorem Rows.revokeAt_active {rows : Rows} {token : RefreshToken} (now : Int)
    (hmem : token ∈ rows.tokens) (hactive : token.revokedAt = none) :
    (rows.revokeAt token.id now).active token.familyId + 1 ≤ rows.active token.familyId := by
  obtain ⟨before, after, hsplit⟩ := List.append_of_mem hmem
  have hbefore := (Revised.revokeAt ⟨rows.codes, before⟩ token.id now).active_le token.familyId
  have hafter := (Revised.revokeAt ⟨rows.codes, after⟩ token.id now).active_le token.familyId
  rw [Rows.active, Rows.active, Rows.revokeAt] at hbefore hafter ⊢
  dsimp only at hbefore hafter
  rw [hsplit, List.map_append, List.map_cons, List.countP_append, List.countP_append,
    List.countP_cons, List.countP_cons, if_pos rfl]
  simp only [hactive, reduceCtorEq, and_false, decide_false, Bool.false_eq_true, if_false,
    and_self, decide_true, if_true]
  omega

theorem Rows.active_addToken (rows : Rows) {token : RefreshToken} (hactive : token.revokedAt = none)
    (familyId : String) :
    (rows.addToken token).active familyId =
      rows.active familyId + if token.familyId = familyId then 1 else 0 := by
  rw [Rows.active, Rows.addToken, List.countP_append, List.countP_singleton, Rows.active, hactive]
  simp

namespace Inv

variable {w : World}

/-- A revision keeps what holds. -/
theorem revised (h : Inv w) {rows : Rows} (hrevised : Revised w.rows rows) :
    Inv ⟨rows, w.pending⟩ where
  hashes := by
    rw [RevokedTo.hashes hrevised.tokens]
    exact h.hashes
  named := by
    intro t' ht'
    obtain ⟨t, ht, hto⟩ := Store.exists_of_forall₂_right hrevised.tokens ht'
    rw [hto.familyId_eq]
    exact h.named t ht
  single := by
    intro familyId
    have hle := hrevised.active_le familyId
    have hsingle := h.single familyId
    exact Nat.le_trans (Nat.add_le_add_right hle _) hsingle
  alike := by
    intro t' ht' u' hu' hfamily
    obtain ⟨t, ht, hto⟩ := Store.exists_of_forall₂_right hrevised.tokens ht'
    obtain ⟨u, hu, huo⟩ := Store.exists_of_forall₂_right hrevised.tokens hu'
    rw [hto.grant_eq, huo.grant_eq]
    rw [hto.familyId_eq, huo.familyId_eq] at hfamily
    exact h.alike t ht u hu hfamily
  granted := by
    intro t' ht'
    obtain ⟨t, ht, hto⟩ := Store.exists_of_forall₂_right hrevised.tokens ht'
    rw [hto.grant_eq]
    exact hrevised.granted _ (h.granted t ht)
  awaits := by
    intro rt hrt
    obtain ⟨t, ht, hfamily, hgrant⟩ := h.awaits rt hrt
    obtain ⟨t', ht', hto⟩ := Store.exists_of_forall₂ hrevised.tokens ht
    exact ⟨t', ht', hto.familyId_eq.trans hfamily, hto.grant_eq.trans hgrant⟩

/-- A rotation makes room for the next token. -/
theorem rotate (h : Inv w) {token : RefreshToken} (now : Int) (hmem : token ∈ w.rows.tokens)
    (hactive : token.revokedAt = none) :
    Inv ⟨w.rows.revokeAt token.id now, token.rotated :: w.pending⟩ := by
  have hrevised := h.revised (.revokeAt w.rows token.id now)
  refine ⟨hrevised.hashes, hrevised.named, fun familyId => ?_, hrevised.alike, hrevised.granted,
    fun rt hrt => ?_⟩
  · have hawaited : World.awaited ⟨w.rows.revokeAt token.id now, token.rotated :: w.pending⟩
        familyId = w.awaited familyId + if token.familyId = familyId then 1 else 0 := by
      rw [World.awaited, List.countP_cons, World.awaited]
      have hid : token.rotated.familyId = token.familyId := rfl
      simp only [hid, decide_eq_true_eq]
    have hbefore := h.single familyId
    have hafter := hrevised.single familyId
    rw [hawaited]
    by_cases hfamily : token.familyId = familyId
    · have hone := w.rows.revokeAt_active now hmem hactive
      rw [hfamily] at hone
      rw [if_pos hfamily]
      dsimp only
      omega
    · rw [if_neg hfamily]
      exact hafter
  · rcases List.mem_cons.1 hrt with rfl | hrt
    · obtain ⟨t', ht', hto⟩ :=
        Store.exists_of_forall₂ (Revised.revokeAt w.rows token.id now).tokens hmem
      exact ⟨t', ht', hto.familyId_eq, hto.grant_eq⟩
    · exact hrevised.awaits rt hrt

/-- A new token, for which there is room. -/
theorem addToken (h : Inv w) {token : RefreshToken} {pending : List RotatedRefreshToken}
    (hnew : NewToken w.rows token) (hnamed : token.familyId ≠ "")
    (hroom : ∀ familyId, (w.rows.addToken token).active familyId +
      World.awaited ⟨w.rows.addToken token, pending⟩ familyId ≤ 1)
    (halike : ∀ other ∈ w.rows.tokens, other.familyId = token.familyId → other.grant = token.grant)
    (hgrant : token.grant ∈ w.rows.granted) (hpending : ∀ rt ∈ pending, rt ∈ w.pending) :
    Inv ⟨w.rows.addToken token, pending⟩ where
  hashes := by
    rw [Rows.addToken, List.map_append]
    refine List.Nodup.append h.hashes (List.nodup_singleton _) fun x hx hx' => ?_
    obtain ⟨t, ht, rfl⟩ := List.mem_map.1 hx
    exact hnew.tokenHash t ht (List.mem_singleton.1 hx')
  named := by
    intro t ht
    rcases List.mem_append.1 ht with ht | ht
    · exact h.named t ht
    · rw [List.mem_singleton.1 ht]
      exact hnamed
  single := hroom
  alike := by
    intro t ht u hu hfamily
    rcases List.mem_append.1 ht with hold | hone <;> rcases List.mem_append.1 hu with hold' | hone'
    · exact h.alike t hold u hold' hfamily
    · rw [List.mem_singleton.1 hone'] at hfamily ⊢
      exact halike t hold hfamily
    · rw [List.mem_singleton.1 hone] at hfamily ⊢
      exact (halike u hold' hfamily.symm).symm
    · rw [List.mem_singleton.1 hone, List.mem_singleton.1 hone']
  granted := by
    intro t ht
    rcases List.mem_append.1 ht with ht | ht
    · exact h.granted t ht
    · rw [List.mem_singleton.1 ht]
      exact hgrant
  awaits := by
    intro rt hrt
    obtain ⟨t, ht, hrt⟩ := h.awaits rt (hpending rt hrt)
    exact ⟨t, List.mem_append_left _ ht, hrt⟩

/-- The first token of a family. -/
theorem start (h : Inv w) {token : RefreshToken} (hnew : NewToken w.rows token)
    (hnamed : token.familyId ≠ "")
    (hfamily : ∀ other ∈ w.rows.tokens, other.familyId ≠ token.familyId)
    (hgrant : token.grant ∈ w.rows.granted) : Inv ⟨w.rows.addToken token, w.pending⟩ := by
  refine h.addToken hnew hnamed (fun familyId => ?_)
    (fun other hother heq => absurd heq (hfamily other hother)) hgrant fun _ h => h
  have hsingle := h.single familyId
  rw [w.rows.active_addToken hnew.active]
  split_ifs with heq
  · subst heq
    have hactive : w.rows.active token.familyId = 0 :=
      List.countP_eq_zero.2 fun other hother hin =>
        hfamily other hother (of_decide_eq_true hin).1
    have hawaited : w.awaited token.familyId = 0 := by
      refine List.countP_eq_zero.2 fun rt hrt hin => ?_
      obtain ⟨t, ht, hsame, -⟩ := h.awaits rt hrt
      exact hfamily t ht (hsame.trans (of_decide_eq_true hin))
    rw [World.awaited] at hawaited ⊢
    dsimp only
    omega
  · exact hsingle

/-- The token that was awaited. -/
theorem «continue» (h : Inv w) {rt : RotatedRefreshToken} {token : RefreshToken}
    (hrt : rt ∈ w.pending) (hnew : NewToken w.rows token) (hgrant : token.grant = rt.grant)
    (hfamily : rt.familyId ≠ "" → token.familyId = rt.familyId) :
    Inv ⟨w.rows.addToken token, w.pending.erase rt⟩ := by
  obtain ⟨t, ht, hsame, hsameGrant⟩ := h.awaits rt hrt
  have hnamed : rt.familyId ≠ "" := hsame ▸ h.named t ht
  have hfamily := hfamily hnamed
  refine h.addToken hnew (hfamily ▸ hnamed) (fun familyId => ?_) (fun other hother heq => ?_) ?_
    fun _ => List.mem_of_mem_erase
  · have hsingle := h.single familyId
    rw [w.rows.active_addToken hnew.active, hfamily, World.awaited, List.countP_erase]
    rw [World.awaited] at hsingle
    by_cases heq : rt.familyId = familyId
    · have hpos : 0 < w.pending.countP fun rt => rt.familyId = familyId :=
        List.countP_pos_iff.2 ⟨rt, hrt, decide_eq_true heq⟩
      rw [if_pos heq, if_pos ⟨hrt, decide_eq_true heq⟩]
      omega
    · rw [if_neg heq]
      omega
  · rw [hgrant, ← hsameGrant]
    exact h.alike other hother t ht ((heq.trans hfamily).trans hsame.symm)
  · rw [hgrant, ← hsameGrant]
    exact h.granted t ht

/-- A token that will not be issued. -/
theorem forgo (h : Inv w) (rt : RotatedRefreshToken) : Inv ⟨w.rows, w.pending.erase rt⟩ := by
  refine ⟨h.hashes, h.named, fun familyId => ?_, h.alike, h.granted,
    fun rt' hrt' => h.awaits rt' (List.mem_of_mem_erase hrt')⟩
  have hsingle := h.single familyId
  rw [World.awaited] at hsingle ⊢
  rw [List.countP_erase]
  dsimp only
  omega

/-- **Every move keeps what holds.** -/
theorem move (h : Inv w) {w' : World} {es : List Event} (hmove : Move w es w') : Inv w' := by
  rcases hmove with hrevised | ⟨hrevised, _⟩ | ⟨now, hmem, hactive⟩ |
    ⟨hnew, hnamed, hfamily, hgrant⟩ | ⟨hrt, hnew, hgrant, hfamily⟩ | rt
  · exact h.revised hrevised
  · exact h.revised hrevised
  · exact h.rotate now hmem hactive
  · exact h.start hnew hnamed hfamily hgrant
  · exact h.continue hrt hnew hgrant hfamily
  · exact h.forgo rt

theorem moves {w' : World} {es : List Event} (hmoves : Moves w es w') (h : Inv w) : Inv w' := by
  induction hmoves with
  | refl w => exact h
  | move hmove _ ih => exact ih (h.move hmove)

end Inv

/-! ### Retired tokens -/

/-- Only one token has a hash: one that is retired is not active. -/
theorem Inv.not_active {w : World} (h : Inv w) {tokenHash : String}
    (hretired : w.rows.Retired tokenHash) {token : RefreshToken} (hmem : token ∈ w.rows.tokens)
    (hactive : token.revokedAt = none) : token.tokenHash ≠ tokenHash := by
  rintro rfl
  obtain ⟨other, hother, hsame, hrevoked⟩ := hretired
  rw [List.inj_on_of_nodup_map h.hashes hother hmem hsame, hactive] at hrevoked
  exact nomatch hrevoked

/-- What a move retires, and what it leaves retired. -/
theorem Move.retires {w w' : World} {es : List Event} (h : Move w es w') {tokenHash : String}
    (hretired : .rotated tokenHash ∈ es ∨ .revoked tokenHash ∈ es ∨ w.rows.Retired tokenHash) :
    w'.rows.Retired tokenHash := by
  rcases h with hrevised | ⟨hrevised, hnow⟩ | ⟨now, hmem, hactive⟩ | _ | _ | _
  · simp only [List.not_mem_nil, false_or] at hretired
    exact hrevised.retired hretired
  · simp only [List.mem_singleton, reduceCtorEq, Event.revoked.injEq, false_or] at hretired
    rcases hretired with rfl | hretired
    · exact hnow
    · exact hrevised.retired hretired
  · simp only [List.mem_singleton, reduceCtorEq, Event.rotated.injEq, false_or] at hretired
    rcases hretired with rfl | hretired
    · exact ⟨_, List.mem_map.2 ⟨_, hmem, if_pos rfl⟩, rfl, rfl⟩
    · exact (Revised.revokeAt w.rows _ now).retired hretired
  all_goals simp only [List.not_mem_nil, false_or] at hretired
  · obtain ⟨t, ht, hrest⟩ := hretired
    exact ⟨t, List.mem_append_left _ ht, hrest⟩
  · obtain ⟨t, ht, hrest⟩ := hretired
    exact ⟨t, List.mem_append_left _ ht, hrest⟩
  · exact hretired

theorem Moves.retires {w w' : World} {es : List Event} (h : Moves w es w') {tokenHash : String}
    (hretired : .rotated tokenHash ∈ es ∨ .revoked tokenHash ∈ es ∨ w.rows.Retired tokenHash) :
    w'.rows.Retired tokenHash := by
  induction h with
  | refl w => simpa using hretired
  | move hmove _ ih =>
      simp only [List.mem_append] at hretired
      rcases hretired with (h | h) | (h | h) | h
      · exact ih (Or.inr (Or.inr (hmove.retires (Or.inl h))))
      · exact ih (Or.inl h)
      · exact ih (Or.inr (Or.inr (hmove.retires (Or.inr (Or.inl h)))))
      · exact ih (Or.inr (Or.inl h))
      · exact ih (Or.inr (Or.inr (hmove.retires (Or.inr (Or.inr h)))))

/-- **A retired token is not rotated.** -/
theorem Move.not_rotated {w w' : World} {es : List Event} (h : Move w es w') (hinv : Inv w)
    {tokenHash : String} (hretired : w.rows.Retired tokenHash) : .rotated tokenHash ∉ es := by
  rcases h with _ | _ | ⟨now, hmem, hactive⟩ | _ | _ | _ <;>
    simp only [List.not_mem_nil, not_false_eq_true, List.mem_singleton, reduceCtorEq,
      Event.rotated.injEq]
  exact (hinv.not_active hretired hmem hactive).symm

theorem Moves.not_rotated {w w' : World} {es : List Event} (h : Moves w es w') (hinv : Inv w)
    {tokenHash : String} (hretired : w.rows.Retired tokenHash) : .rotated tokenHash ∉ es := by
  induction h with
  | refl w => exact List.not_mem_nil
  | move hmove _ ih =>
      rw [List.mem_append, not_or]
      exact ⟨hmove.not_rotated hinv hretired,
        ih (hinv.move hmove) (hmove.retires (Or.inr (Or.inr hretired)))⟩

/-- **No token is rotated twice.** -/
theorem Moves.rotated_once {w w' : World} {es : List Event} (h : Moves w es w') (hinv : Inv w)
    (tokenHash : String) : es.count (.rotated tokenHash) ≤ 1 := by
  induction h with
  | refl w => exact Nat.zero_le 1
  | @move w w' w'' es es' hmove hmoves ih =>
      have hone : es.count (.rotated tokenHash) ≤ 1 :=
        Nat.le_trans List.count_le_length (by cases hmove <;> simp)
      have hrest := ih (hinv.move hmove)
      rw [List.count_append]
      by_cases hin : .rotated tokenHash ∈ es
      · have hnot := hmoves.not_rotated (hinv.move hmove) (hmove.retires (Or.inl hin))
        rw [List.count_eq_zero_of_not_mem hnot]
        exact hone
      · rw [List.count_eq_zero_of_not_mem hin]
        omega

/-! ### The result -/

end Oidc
end Dbal
