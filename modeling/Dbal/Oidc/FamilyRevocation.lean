/-
# Reuse of a rotated token

`revokeFamily` lists at most a thousand rows of the family, in whatever order the backend
likes, and revokes those.  Over runs of `issue` and `rotate` on the store of refresh
tokens, a token presented again kills its family when the family is not longer than that or
has nothing left to kill, and not otherwise.

No order is requested of a listing, so that between two calls the rows may come to stand in
any other.
-/

import Mathlib.Logic.Relation
import Dbal.Oidc.TokenFamilies

namespace Dbal
namespace Oidc

/-! ### Runs of the store -/

/-- The same rows, listed in another order. -/
def Rows.ordered (rows : Rows) (tokens : List RefreshToken) : Rows := { rows with tokens }

/-- The tokens of a family. -/
def Rows.family (rows : Rows) (familyId : String) : List RefreshToken :=
  rows.tokens.filter fun token => token.familyId = familyId

/-- The token and the id of the row that were drawn are new. -/
structure FreshToken (hash : Hash) (rows : Rows) (draw : Draw) : Prop where
  named : draw.rowId ≠ ""
  rowId : ∀ token ∈ rows.tokens, token.id ≠ draw.rowId
  tokenHash : ∀ token ∈ rows.tokens, token.tokenHash ≠ hash draw.token

/-- One operation of the token store, whatever happens to its calls, or a change of order. -/
inductive TokenStep (hash : Hash) (rows : Rows) : Rows → Prop where
  | issue (faults : List (Option Fault)) (draw : Draw) (req : RefreshTokenRequest)
      (ttlSeconds : Int) (hfresh : FreshToken hash rows draw) :
      TokenStep hash rows (RefreshTokenStore.issue hash draw req ttlSeconds ⟨rows, faults⟩).2.rows
  | rotate (faults : List (Option Fault)) (now : Int) (raw hint : String) :
      TokenStep hash rows (RefreshTokenStore.rotate hash now raw hint ⟨rows, faults⟩).2.rows
  | reorder (tokens : List RefreshToken) (hperm : tokens.Perm rows.tokens) :
      TokenStep hash rows (rows.ordered tokens)

/-- A run. -/
abbrev TokenRun (hash : Hash) : Rows → Rows → Prop := Relation.ReflTransGen (TokenStep hash)

/-! ### What every run keeps -/

/-- No two tokens share a hash or an id, and each has an id. -/
structure Distinct (rows : Rows) : Prop where
  hashes : (rows.tokens.map RefreshToken.tokenHash).Nodup
  ids : (rows.tokens.map RefreshToken.id).Nodup
  named : ∀ token ∈ rows.tokens, token.id ≠ ""

theorem RevokedTo.id_eq {t t' : RefreshToken} (h : RevokedTo t t') : t'.id = t.id := by
  rcases h with rfl | ⟨_, rfl⟩ <;> rfl

theorem RevokedTo.ids {ts ts' : List RefreshToken} (h : List.Forall₂ RevokedTo ts ts') :
    ts'.map RefreshToken.id = ts.map RefreshToken.id :=
  Store.map_eq_of_forall₂ h fun _ _ ht => ht.id_eq

namespace Distinct

variable {hash : Hash} {rows rows' : Rows}

theorem empty : Distinct {} := ⟨List.nodup_nil, List.nodup_nil, fun _ h => nomatch h⟩

theorem revised (h : Distinct rows) (hrevised : Revised rows rows') : Distinct rows' := by
  refine ⟨?_, ?_, fun t' ht' => ?_⟩
  · rw [RevokedTo.hashes hrevised.tokens]
    exact h.hashes
  · rw [RevokedTo.ids hrevised.tokens]
    exact h.ids
  · obtain ⟨t, ht, hto⟩ := Store.exists_of_forall₂_right hrevised.tokens ht'
    rw [hto.id_eq]
    exact h.named t ht

theorem ordered (h : Distinct rows) {tokens : List RefreshToken} (hperm : tokens.Perm rows.tokens) :
    Distinct (rows.ordered tokens) where
  hashes := (hperm.map _).nodup_iff.2 h.hashes
  ids := (hperm.map _).nodup_iff.2 h.ids
  named := fun token ht => h.named token (hperm.mem_iff.1 ht)

theorem addToken (h : Distinct rows) {draw : Draw} (hfresh : FreshToken hash rows draw)
    (req : RefreshTokenRequest) (ttlSeconds : Int) :
    Distinct (rows.addToken (RefreshTokenStore.newToken hash draw req ttlSeconds)) where
  hashes := by
    rw [Rows.addToken, List.map_append]
    refine List.Nodup.append h.hashes (List.nodup_singleton _) fun x hx hx' => ?_
    obtain ⟨t, ht, rfl⟩ := List.mem_map.1 hx
    exact hfresh.tokenHash t ht (List.mem_singleton.1 hx')
  ids := by
    rw [Rows.addToken, List.map_append]
    refine List.Nodup.append h.ids (List.nodup_singleton _) fun x hx hx' => ?_
    obtain ⟨t, ht, rfl⟩ := List.mem_map.1 hx
    exact hfresh.rowId t ht (List.mem_singleton.1 hx')
  named := by
    intro t ht
    rcases List.mem_append.1 ht with ht | ht
    · exact h.named t ht
    · rw [List.mem_singleton.1 ht]
      exact hfresh.named

theorem step (h : Distinct rows) (hstep : TokenStep hash rows rows') : Distinct rows' := by
  rcases hstep with ⟨faults, draw, req, ttlSeconds, hfresh⟩ | ⟨faults, now, raw, hint⟩ |
    ⟨tokens, hperm⟩
  · rcases issue_cases hash draw req ttlSeconds ⟨rows, faults⟩ with hrows | hrows <;> rw [hrows]
    · exact h
    · exact h.addToken hfresh req ttlSeconds
  · exact h.revised (rotate_revised hash now raw hint ⟨rows, faults⟩)
  · exact h.ordered hperm

theorem run (h : Distinct rows) (hrun : TokenRun hash rows rows') : Distinct rows' := by
  induction hrun with
  | refl => exact h
  | tail _ hstep ih => exact ih.step hstep

/-- A token that is revoked is not rotated. -/
theorem not_rotated (h : Distinct rows) {raw : String} (hretired : rows.Retired (hash raw))
    (faults : List (Option Fault)) (now : Int) (hint : String) (rt : RotatedRefreshToken)
    (s' : Store) : RefreshTokenStore.rotate hash now raw hint ⟨rows, faults⟩ ≠ (.ok rt, s') := by
  intro hok
  obtain ⟨token, hmem, hhash, hactive, -⟩ := rotate_ok hok
  obtain ⟨other, hother, hsame, hrevoked⟩ := hretired
  rw [List.inj_on_of_nodup_map h.hashes hother hmem (hsame.trans hhash.symm), hactive] at hrevoked
  exact nomatch hrevoked

end Distinct

/-- What is revoked stays revoked. -/
theorem TokenRun.retired {hash : Hash} {rows rows' : Rows} (h : TokenRun hash rows rows')
    {tokenHash : String} (hretired : rows.Retired tokenHash) : rows'.Retired tokenHash := by
  induction h with
  | refl => exact hretired
  | tail _ hstep ih =>
      rcases hstep with ⟨faults, draw, req, ttlSeconds, -⟩ | ⟨faults, now, raw, hint⟩ |
        ⟨tokens, hperm⟩
      · rcases issue_cases hash draw req ttlSeconds ⟨_, faults⟩ with hrows | hrows <;> rw [hrows]
        · exact ih
        · obtain ⟨t, ht, hrest⟩ := ih
          exact ⟨t, List.mem_append_left _ ht, hrest⟩
      · exact (rotate_revised hash now raw hint ⟨_, faults⟩).retired ih
      · obtain ⟨t, ht, hrest⟩ := ih
        exact ⟨t, hperm.mem_iff.2 ht, hrest⟩

/-! ### What one call does -/

/-- The row after `revokeFamily` went over the listed ones. -/
def revokedBy (now : Int) (listed : List RefreshToken) (token : RefreshToken) : RefreshToken :=
  if listed.any fun row => row.id = token.id ∧ row.revokedAt = none ∧ row.id ≠ "" then
    { token with revokedAt := some now }
  else token

theorem revokedBy_nil (now : Int) (token : RefreshToken) : revokedBy now [] token = token := rfl

theorem revokedBy_familyId (now : Int) (listed : List RefreshToken) (token : RefreshToken) :
    (revokedBy now listed token).familyId = token.familyId := by
  unfold revokedBy
  split_ifs <;> rfl

/-- A token is not revoked afterwards when it was not and is not among the listed ones. -/
theorem revokedBy_eq_none_iff (now : Int) (listed : List RefreshToken) {token : RefreshToken}
    (hnamed : token.id ≠ "") : (revokedBy now listed token).revokedAt = none ↔
      token.revokedAt = none ∧ ∀ row ∈ listed, row.id = token.id → row.revokedAt ≠ none := by
  unfold revokedBy
  split_ifs with hlisted
  · obtain ⟨row, hrow, hid⟩ := List.any_eq_true.1 hlisted
    obtain ⟨hid, hactive, -⟩ := of_decide_eq_true hid
    exact ⟨fun h => (nomatch h), fun h => absurd hactive (h.2 row hrow hid)⟩
  · refine ⟨fun h => ⟨h, fun row hrow hid hactive => hlisted ?_⟩, fun h => h.1⟩
    exact List.any_eq_true.2 ⟨row, hrow, decide_eq_true ⟨hid, hactive, hid ▸ hnamed⟩⟩

/-- The loop of `revokeFamily` when each update succeeds. -/
theorem revokeAll_rows (now : Int) (listed : List RefreshToken) (rows : Rows) :
    RefreshTokenStore.revokeAll now listed ⟨rows, []⟩ =
      (.ok (), ⟨rows.ordered (rows.tokens.map (revokedBy now listed)), []⟩) := by
  induction listed generalizing rows with
  | nil =>
      have hmap : rows.tokens.map (revokedBy now []) = rows.tokens := by
        rw [show revokedBy now [] = id from funext (revokedBy_nil now), List.map_id]
      rw [hmap]
      rfl
  | cons row listed ih =>
      rw [RefreshTokenStore.revokeAll]
      split_ifs with hskip
      · rw [ih]
        congr 4
        funext token
        have hno : ¬(row.id = token.id ∧ row.revokedAt = none ∧ row.id ≠ "") := by
          rintro ⟨-, hactive, hnamed⟩
          rcases hskip with h | h
          · simp [hactive] at h
          · exact hnamed h
        rw [revokedBy, revokedBy, List.any_cons, decide_eq_false hno, Bool.false_or]
      · rw [not_or, Option.not_isSome_iff_eq_none] at hskip
        refine (ih (rows.revokeAt row.id now)).trans ?_
        rw [Rows.ordered, Rows.revokeAt, List.map_map]
        congr 4
        funext token
        rw [Function.comp, revokedBy, revokedBy, List.any_cons]
        by_cases hid : token.id = row.id
        · have hyes : row.id = token.id ∧ row.revokedAt = none ∧ row.id ≠ "" :=
            ⟨hid.symm, hskip.1, hskip.2⟩
          rw [if_pos hid, decide_eq_true hyes, Bool.true_or, if_pos rfl]
          split_ifs <;> rfl
        · have hno : ¬(row.id = token.id ∧ row.revokedAt = none ∧ row.id ≠ "") :=
            fun h => hid h.1.symm
          rw [if_neg hid, decide_eq_false hno, Bool.false_or]

/-- The look-up of a token by its hash. -/
theorem Distinct.lookup {rows : Rows} (h : Distinct rows) {token : RefreshToken}
    (hmem : token ∈ rows.tokens) {tokenHash : String} (hhash : token.tokenHash = tokenHash) :
    listTokens (fun token => token.tokenHash = tokenHash) 1 ⟨rows, []⟩ =
      (.ok [token], ⟨rows, []⟩) := by
  have hfilter : token ∈ rows.tokens.filter fun token => token.tokenHash = tokenHash :=
    List.mem_filter.2 ⟨hmem, decide_eq_true hhash⟩
  have hfirst : (rows.tokens.filter fun token => token.tokenHash = tokenHash).take 1 = [token] := by
    rcases hfound : rows.tokens.filter fun token => token.tokenHash = tokenHash with _ | ⟨row, rest⟩
    · rw [hfound] at hfilter
      exact nomatch hfilter
    · have hrow : row ∈ rows.tokens.filter fun token => token.tokenHash = tokenHash := by
        rw [hfound]
        exact List.mem_cons_self
      obtain ⟨hrow, hsame⟩ := List.mem_filter.1 hrow
      have hsame := (of_decide_eq_true hsame).trans hhash.symm
      rw [hfound, List.take_succ_cons, List.take_zero,
        List.inj_on_of_nodup_map h.hashes hrow hmem hsame]
  rw [← hfirst]
  rfl

/-- **A token presented again**: what was listed of its family is revoked. -/
theorem rotate_reused {hash : Hash} {rows : Rows} (h : Distinct rows) {used : RefreshToken}
    (hmem : used ∈ rows.tokens) (hrevoked : used.revokedAt.isSome) {raw : String}
    (hraw : used.tokenHash = hash raw) (now : Int) :
    (RefreshTokenStore.rotate hash now raw used.clientId ⟨rows, []⟩).2.rows.tokens =
      rows.tokens.map (revokedBy now ((rows.family used.familyId).take 1000)) := by
  rw [RefreshTokenStore.rotate, Act.bind_ok (h.lookup hmem hraw)]
  dsimp only
  rw [if_neg (not_not.2 rfl), if_pos hrevoked, Act.bind_snd (fun _ _ => rfl),
    RefreshTokenStore.revokeFamily, Act.catching_snd]
  have hlist : listTokens (fun token => token.familyId = used.familyId) 1000 ⟨rows, []⟩ =
      (.ok ((rows.family used.familyId).take 1000), ⟨rows, []⟩) := rfl
  rw [Act.bind_ok hlist, revokeAll_rows]
  rfl

/-- A token that is neither revoked nor expired is rotated. -/
theorem rotate_active {hash : Hash} {rows : Rows} (h : Distinct rows) {token : RefreshToken}
    (hmem : token ∈ rows.tokens) (hactive : token.revokedAt = none) {raw : String}
    (hraw : token.tokenHash = hash raw) {now : Int} (hexpires : now < token.expiresAt) :
    RefreshTokenStore.rotate hash now raw token.clientId ⟨rows, []⟩ =
      (.ok token.rotated, ⟨rows.revokeAt token.id now, []⟩) := by
  rw [RefreshTokenStore.rotate, Act.bind_ok (h.lookup hmem hraw)]
  dsimp only
  rw [if_neg (not_not.2 rfl), hactive, if_neg (by decide), if_neg (by omega)]
  rfl

/-! ### The family of a token presented again -/

/-- Every token of the family is revoked, and none is rotated ever after. -/
def FamilyDead (hash : Hash) (rows : Rows) (familyId : String) : Prop :=
  (∀ token ∈ rows.tokens, token.familyId = familyId → token.revokedAt.isSome) ∧
  ∀ later, TokenRun hash rows later → ∀ token ∈ rows.tokens, token.familyId = familyId →
    ∀ raw, token.tokenHash = hash raw → ∀ faults now hint rt s',
      RefreshTokenStore.rotate hash now raw hint ⟨later, faults⟩ ≠ (.ok rt, s')

theorem Distinct.familyDead {hash : Hash} {rows : Rows} (h : Distinct rows) {familyId : String}
    (hrevoked : ∀ token ∈ rows.tokens, token.familyId = familyId → token.revokedAt.isSome) :
    FamilyDead hash rows familyId := by
  refine ⟨hrevoked, fun later hrun token hmem hfamily raw hraw faults now hint rt s' => ?_⟩
  have hretired : rows.Retired (hash raw) := ⟨token, hmem, hraw, hrevoked token hmem hfamily⟩
  exact (h.run hrun).not_rotated (hrun.retired hretired) faults now hint rt s'

theorem family_ordered {rows : Rows} {tokens : List RefreshToken} (hperm : tokens.Perm rows.tokens)
    (familyId : String) :
    ((rows.ordered tokens).family familyId).Perm (rows.family familyId) :=
  hperm.filter _

/-- The tokens of a family that is on one page, or has no active token, end revoked. -/
theorem revoked_of_page {rows : Rows} (hnamed : ∀ token ∈ rows.tokens, token.id ≠ "")
    {familyId : String} (hpage : (rows.family familyId).length ≤ 1000 ∨ rows.active familyId = 0)
    (now : Int) {token : RefreshToken} (hmem : token ∈ rows.tokens)
    (hfamily : token.familyId = familyId) :
    (revokedBy now ((rows.family familyId).take 1000) token).revokedAt.isSome := by
  rw [Option.isSome_iff_ne_none]
  intro hnone
  obtain ⟨hactive, hunlisted⟩ := (revokedBy_eq_none_iff now _ (hnamed token hmem)).1 hnone
  rcases hpage with hpage | hzero
  · rw [List.take_of_length_le hpage] at hunlisted
    have hlisted : token ∈ rows.family familyId :=
      List.mem_filter.2 ⟨hmem, decide_eq_true hfamily⟩
    exact hunlisted token hlisted rfl hactive
  · exact List.countP_eq_zero.1 hzero token hmem (decide_eq_true ⟨hfamily, hactive⟩)

/-- A longer family has an order in which a given token is not listed. -/
theorem exists_unlisted {rows : Rows} (hids : (rows.tokens.map RefreshToken.id).Nodup)
    {token : RefreshToken} (hmem : token ∈ rows.tokens)
    (hlong : 1000 < (rows.family token.familyId).length) :
    ∃ tokens, tokens.Perm rows.tokens ∧
      ∀ row ∈ ((rows.ordered tokens).family token.familyId).take 1000, row.id ≠ token.id := by
  obtain ⟨before, after, hsplit⟩ := List.append_of_mem hmem
  have hperm : (before ++ after ++ [token]).Perm rows.tokens := by
    rw [hsplit, List.append_assoc]
    have hswap : (after ++ [token]).Perm ([token] ++ after) := List.perm_append_comm
    exact hswap.append_left before
  refine ⟨_, hperm, fun row hrow hid => ?_⟩
  -- The token stands last, behind at least a thousand others of its family.
  have hlength := (family_ordered hperm token.familyId).length_eq
  have hlast : (rows.ordered (before ++ after ++ [token])).family token.familyId =
      ((before ++ after).filter fun t => t.familyId = token.familyId) ++ [token] := by
    rw [Rows.family, Rows.ordered, List.filter_append]
    simp
  rw [hlast, List.length_append, List.length_singleton] at hlength
  rw [hlast, List.take_append_of_le_length (by omega)] at hrow
  have hother : row ∈ before ++ after := (List.mem_filter.1 (List.mem_of_mem_take hrow)).1
  have hnodup := (hperm.map RefreshToken.id).nodup_iff.2 hids
  rw [List.map_append, List.nodup_append] at hnodup
  exact hnodup.2.2 row.id (List.mem_map_of_mem hother) token.id
    (List.mem_map_of_mem List.mem_cons_self) hid

/-- **When the reuse of a token kills its family.**  For a token that is revoked in rows reached
by `issue` and `rotate`, presented with its own client id: its family dies whatever the
order of the listing if and only if it has at most a thousand tokens or none that is not
revoked. -/
theorem reuse_kills_family_iff {hash : Hash} {rows : Rows} (hrun : TokenRun hash {} rows)
    {used : RefreshToken} (hmem : used ∈ rows.tokens) (hrevoked : used.revokedAt.isSome)
    {raw : String} (hraw : used.tokenHash = hash raw) (now : Int) :
    (∀ tokens : List RefreshToken, tokens.Perm rows.tokens → FamilyDead hash
      (RefreshTokenStore.rotate hash now raw used.clientId ⟨rows.ordered tokens, []⟩).2.rows
      used.familyId) ↔
    (rows.family used.familyId).length ≤ 1000 ∨ rows.active used.familyId = 0 := by
  have hdistinct := Distinct.empty.run hrun
  have hafter : ∀ tokens : List RefreshToken, tokens.Perm rows.tokens →
      (RefreshTokenStore.rotate hash now raw used.clientId ⟨rows.ordered tokens, []⟩).2.rows.tokens =
        tokens.map (revokedBy now (((rows.ordered tokens).family used.familyId).take 1000)) :=
    fun tokens hperm =>
      rotate_reused (hdistinct.ordered hperm) (hperm.mem_iff.2 hmem) hrevoked hraw now
  constructor
  · intro hdead
    by_contra hlong
    rw [not_or, Nat.not_le] at hlong
    obtain ⟨token, htoken, hactive⟩ := List.countP_pos_iff.1 (Nat.pos_of_ne_zero hlong.2)
    obtain ⟨hfamily, hactive⟩ := of_decide_eq_true hactive
    obtain ⟨tokens, hperm, hunlisted⟩ :=
      exists_unlisted hdistinct.ids htoken (by rw [hfamily]; exact hlong.1)
    have hsurvives : (revokedBy now (((rows.ordered tokens).family used.familyId).take 1000)
        token).revokedAt = none := by
      refine (revokedBy_eq_none_iff now _ (hdistinct.named token htoken)).2 ⟨hactive, ?_⟩
      rw [← hfamily]
      exact fun row hrow hid => absurd hid (hunlisted row hrow)
    have hrevoked := (hdead tokens hperm).1 _ (by
      rw [hafter tokens hperm]
      exact List.mem_map_of_mem (hperm.mem_iff.2 htoken)) ((revokedBy_familyId _ _ _).trans hfamily)
    rw [hsurvives] at hrevoked
    exact nomatch hrevoked
  · intro hpage tokens hperm
    have hordered := hdistinct.ordered hperm
    refine (hordered.revised (rotate_revised hash now raw used.clientId
      ⟨rows.ordered tokens, []⟩)).familyDead fun token' htoken' hfamily => ?_
    rw [hafter tokens hperm] at htoken'
    obtain ⟨token, htoken, rfl⟩ := List.mem_map.1 htoken'
    rw [revokedBy_familyId] at hfamily
    refine revoked_of_page hordered.named ?_ now htoken hfamily
    rcases hpage with hpage | hzero
    · exact Or.inl ((family_ordered hperm used.familyId).length_eq ▸ hpage)
    · exact Or.inr ((hperm.countP_eq _).trans hzero)

/-! ### A chain of rotations -/

/-- The token of the `n`th link, which is the id of its row too. -/
def linkName (n : Nat) : String := String.ofList (List.replicate (n + 1) 'x')

/-- The row of the `n`th link. -/
def link (n : Nat) (revokedAt : Option Int) : RefreshToken where
  id := linkName n
  tokenHash := linkName n
  familyId := "family"
  clientId := "app"
  userId := "ada"
  tenantId := "acme"
  scope := "openid offline_access"
  parentId := match n with
    | 0 => none
    | n + 1 => some (linkName n)
  revokedAt := revokedAt
  expiresAt := 1209600
  createdAt := 0

/-- The request for the token after the links before. -/
def linkRequest : Nat → RefreshTokenRequest
  | 0 => { clientId := "app", userId := "ada", tenantId := "acme", scope := "openid offline_access" }
  | n + 1 => OidcService.nextRequest (link n none).rotated

/-- A token is issued, and then rotated and followed by the next one, as often as is said. -/
def chain : Nat → Rows
  | 0 => (RefreshTokenStore.issue id ⟨0, linkName 0, "family", linkName 0⟩ (linkRequest 0) 1209600
      {}).2.rows
  | n + 1 =>
      (RefreshTokenStore.issue id ⟨0, linkName (n + 1), "other", linkName (n + 1)⟩
        (linkRequest (n + 1)) 1209600
        (RefreshTokenStore.rotate id 0 (linkName n) "app" ⟨chain n, []⟩).2).2.rows

theorem linkName_inj {m n : Nat} (h : linkName m = linkName n) : m = n := by
  have hlength := congrArg (fun s => s.toList.length) h
  simpa [linkName] using hlength

theorem linkName_ne_empty (n : Nat) : linkName n ≠ "" := by
  intro h
  have hlength := congrArg (fun s => s.toList.length) h
  simp [linkName] at hlength

/-- **The links but the last are rotated.** -/
theorem chain_spec (n : Nat) : TokenRun id {} (chain n) ∧
    (chain n).tokens = (List.range n).map (link · (some 0)) ++ [link n none] := by
  induction n with
  | zero =>
      refine ⟨.single (.issue [] _ _ _ ⟨linkName_ne_empty 0, fun _ h => (nomatch h), fun _ h =>
        (nomatch h)⟩), rfl⟩
  | succ n ih =>
      obtain ⟨hrun, htokens⟩ := ih
      have hmem : link n none ∈ (chain n).tokens := by
        rw [htokens]
        exact List.mem_append_right _ List.mem_cons_self
      have hrotate : RefreshTokenStore.rotate id 0 (linkName n) "app" ⟨chain n, []⟩ =
          (.ok (link n none).rotated, ⟨(chain n).revokeAt (linkName n) 0, []⟩) :=
        rotate_active (Distinct.empty.run hrun) hmem rfl rfl (by decide : (0 : Int) < 1209600)
      have hrevoked : ((chain n).revokeAt (linkName n) 0).tokens =
          (List.range (n + 1)).map (link · (some 0)) := by
        have hone : (link n none).id = linkName n := rfl
        rw [Rows.revokeAt, htokens, List.map_append, List.map_map, List.range_succ,
          List.map_append, List.map_singleton, List.map_singleton, if_pos hone]
        refine congrArg (· ++ [link n (some 0)]) ?_
        refine List.map_congr_left fun i _ => ?_
        rw [Function.comp]
        split_ifs <;> rfl
      have hnew : ∀ token ∈ ((chain n).revokeAt (linkName n) 0).tokens,
          ∃ i ≤ n, token = link i (some 0) := by
        rw [hrevoked]
        intro token htoken
        obtain ⟨i, hi, rfl⟩ := List.mem_map.1 htoken
        exact ⟨i, Nat.le_of_lt_succ (List.mem_range.1 hi), rfl⟩
      have hfresh : FreshToken id ((chain n).revokeAt (linkName n) 0)
          ⟨0, linkName (n + 1), "other", linkName (n + 1)⟩ := by
        refine ⟨linkName_ne_empty _, fun token htoken h => ?_, fun token htoken h => ?_⟩ <;>
          obtain ⟨i, hi, rfl⟩ := hnew token htoken
        · have := linkName_inj h
          omega
        · have := linkName_inj h
          omega
      have hstep : TokenStep id (chain n) _ := .rotate [] 0 (linkName n) "app"
      rw [hrotate] at hstep
      rw [chain, hrotate]
      refine ⟨(hrun.tail hstep).tail (.issue [] _ _ _ hfresh), ?_⟩
      exact congrArg (· ++ [link (n + 1) none]) hrevoked

/-- A token rotated once and presented again. -/
theorem reuse_kills_family_short :
    FamilyDead id (RefreshTokenStore.rotate id 1 (linkName 0) "app"
      ⟨(chain 1).ordered (chain 1).tokens, []⟩).2.rows "family" := by
  obtain ⟨hrun, htokens⟩ := chain_spec 1
  have hmem : link 0 (some 0) ∈ (chain 1).tokens := by
    rw [htokens]
    exact List.mem_cons_self
  have hshort : ((chain 1).family "family").length ≤ 1000 := by
    rw [Rows.family, htokens]
    exact Nat.le_trans (List.length_filter_le _ _) (by decide)
  have hraw : (link 0 (some 0)).tokenHash = id (linkName 0) := rfl
  exact (reuse_kills_family_iff hrun hmem rfl hraw 1).2 (Or.inl hshort) _ (.refl _)

/-- The newest token of a long chain is not listed, and is still rotated when the first has been
presented again. -/
theorem chain_outlives {n : Nat} (hn : 1000 ≤ n) :
    link 0 (some 0) ∈ (chain n).tokens ∧
    (let after := (RefreshTokenStore.rotate id 1 (linkName 0) "app" ⟨chain n, []⟩).2.rows
    link n none ∈ after.tokens ∧ ∃ rt s',
      RefreshTokenStore.rotate id 2 (linkName n) "app" ⟨after, []⟩ = (.ok rt, s')) := by
  obtain ⟨hrun, htokens⟩ := chain_spec n
  have hdistinct := Distinct.empty.run hrun
  have hfirst : link 0 (some 0) ∈ (chain n).tokens := by
    rw [htokens]
    exact List.mem_append_left _ (List.mem_map.2 ⟨0, List.mem_range.2 (by omega), rfl⟩)
  have hlast : link n none ∈ (chain n).tokens := by
    rw [htokens]
    exact List.mem_append_right _ List.mem_cons_self
  have hall : ∀ token ∈ (chain n).tokens, decide (token.familyId = "family") := by
    rw [htokens]
    intro token htoken
    rcases List.mem_append.1 htoken with h | h
    · obtain ⟨i, -, rfl⟩ := List.mem_map.1 h
      rfl
    · rw [List.mem_singleton.1 h]
      rfl
  have hlisted : ∀ row ∈ ((chain n).family "family").take 1000, row.revokedAt ≠ none := by
    rw [Rows.family, List.filter_eq_self.2 hall, htokens,
      List.take_append_of_le_length (by rw [List.length_map, List.length_range]; exact hn)]
    intro row hrow
    obtain ⟨i, -, rfl⟩ := List.mem_map.1 (List.mem_of_mem_take hrow)
    exact fun h => nomatch h
  have hkept : revokedBy 1 (((chain n).family "family").take 1000) (link n none) = link n none := by
    rw [revokedBy, if_neg]
    intro hany
    obtain ⟨row, hrow, hid⟩ := List.any_eq_true.1 hany
    exact hlisted row hrow (of_decide_eq_true hid).2.1
  have hraw : (link 0 (some 0)).tokenHash = id (linkName 0) := rfl
  have hmem : link n none ∈
      (RefreshTokenStore.rotate id 1 (linkName 0) "app" ⟨chain n, []⟩).2.rows.tokens :=
    (rotate_reused hdistinct hfirst rfl hraw 1) ▸ List.mem_map.2 ⟨_, hlast, hkept⟩
  have hkeeps := hdistinct.revised (rotate_revised id 1 (linkName 0) "app" ⟨chain n, []⟩)
  exact ⟨hfirst, hmem, _, _,
    rotate_active hkeeps hmem rfl rfl (by decide : (2 : Int) < 1209600)⟩

/-- After a thousand rotations the first token is presented again, and the newest is
still rotated. -/
theorem reuse_leaves_newest :
    TokenRun id {} (chain 1000) ∧ link 0 (some 0) ∈ (chain 1000).tokens ∧
    (let after := (RefreshTokenStore.rotate id 1 (linkName 0) "app" ⟨chain 1000, []⟩).2.rows
    link 1000 none ∈ after.tokens ∧ ∃ rt s',
      RefreshTokenStore.rotate id 2 (linkName 1000) "app" ⟨after, []⟩ = (.ok rt, s')) :=
  ⟨(chain_spec 1000).1, chain_outlives (Nat.le_refl 1000)⟩

end Oidc
end Dbal
