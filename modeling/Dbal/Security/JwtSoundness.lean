/-
# What an accepted token proves

When `fromRequest` returns claims, the signature over the first two segments of the token has been
verified with the key of the algorithm that its header names, and the claims are those of the
payload.  The expiry is part of that for RS256, where jwt-cpp rounds it to a second; the HMAC path
looks only at an `exp` above zero.
-/

import Dbal.Security.Jwt

namespace Dbal
namespace Security

/-! ### Segments -/

/-- The token is these three texts with dots between them, the first two without a dot. -/
structure Segments (token header payload signature : String) : Prop where
  eq : token.toList = header.toList ++ '.' :: (payload.toList ++ '.' :: signature.toList)
  header_no_dot : '.' ∉ header.toList
  payload_no_dot : '.' ∉ payload.toList

theorem splitToken_two (cs part : List Char) :
    splitToken cs 2 part = [String.ofList (part ++ cs)] := by
  induction cs generalizing part with
  | nil => simp [splitToken]
  | cons c cs ih =>
      rw [splitToken, if_neg (by omega), ih]
      simp

/-- The text up to the next dot is a part. -/
theorem splitToken_dot {dots : Nat} (hdots : dots < 2) (front rest part : List Char)
    (hfront : '.' ∉ front) : splitToken (front ++ '.' :: rest) dots part =
      String.ofList (part ++ front) :: splitToken rest (dots + 1) [] := by
  induction front generalizing part with
  | nil => simp [splitToken, hdots]
  | cons c front ih =>
      have hc : c ≠ '.' := fun h => hfront (by simp [h])
      rw [List.cons_append, splitToken, if_neg (fun h => hc h.1), ih _ fun h => hfront (by simp [h])]
      simp

/-- Without a dot there is one part. -/
theorem splitToken_of_no_dot (dots : Nat) (cs part : List Char) (h : '.' ∉ cs) :
    splitToken cs dots part = [String.ofList (part ++ cs)] := by
  induction cs generalizing part with
  | nil => simp [splitToken]
  | cons c cs ih =>
      have hc : c ≠ '.' := fun hdot => h (by simp [hdot])
      rw [splitToken, if_neg (fun hdot => hc hdot.1), ih _ fun hdot => h (by simp [hdot])]
      simp

/-- **Three parts are the segments of the token.** -/
theorem splitToken_eq_iff {token header payload signature : String} :
    splitToken token.toList 0 [] = [header, payload, signature] ↔
      Segments token header payload signature := by
  constructor
  · intro h
    by_cases hdot : '.' ∈ token.toList
    · obtain ⟨front, rest, htoken, hfront⟩ := List.eq_append_cons_of_mem hdot
      rw [htoken, splitToken_dot (by omega) front rest [] hfront] at h
      obtain ⟨hheader, h⟩ := List.cons.inj h
      by_cases hdot' : '.' ∈ rest
      · obtain ⟨front', rest', hrest, hfront'⟩ := List.eq_append_cons_of_mem hdot'
        rw [hrest, splitToken_dot (by omega) front' rest' [] hfront', splitToken_two] at h
        obtain ⟨hpayload, h⟩ := List.cons.inj h
        obtain ⟨hsignature, -⟩ := List.cons.inj h
        subst hheader hpayload hsignature
        exact ⟨by simp [htoken, hrest], by simpa using hfront, by simpa using hfront'⟩
      · rw [splitToken_of_no_dot _ _ _ hdot'] at h
        cases h
    · rw [splitToken_of_no_dot _ _ _ hdot] at h
      cases h
  · intro h
    rw [h.eq, splitToken_dot (by omega) _ _ [] h.header_no_dot,
      splitToken_dot (by omega) _ _ [] h.payload_no_dot, splitToken_two]
    simp

/-! ### The comparison -/

theorem foldl_diff_eq_zero (pairs : List (UInt8 × UInt8)) (diff : UInt8) :
    pairs.foldl (fun diff pair => diff ||| (pair.1 ^^^ pair.2)) diff = 0 ↔
      diff = 0 ∧ ∀ pair ∈ pairs, pair.1 = pair.2 := by
  induction pairs generalizing diff with
  | nil => simp
  | cons pair pairs ih =>
      rw [List.foldl_cons, ih]
      simp [and_assoc]

/-- No bit differs between texts of one length when they are the same. -/
theorem diffBits_eq_zero {expected provided : List UInt8}
    (hlength : expected.length = provided.length) :
    diffBits expected provided = 0 ↔ expected = provided := by
  rw [diffBits, foldl_diff_eq_zero]
  simp only [true_and]
  constructor
  · intro h
    induction expected generalizing provided with
    | nil => exact (List.length_eq_zero_iff.1 hlength.symm).symm
    | cons b expected ih =>
        cases provided with
        | nil => cases hlength
        | cons b' provided =>
            have hhead : b = b' := h (b, b') (by simp)
            have htail := @ih provided (Nat.succ.inj hlength) fun pair hpair =>
              h pair (by simp [hpair])
            rw [hhead, htail]
  · rintro rfl pair hpair
    obtain ⟨i, hi, rfl⟩ := List.mem_iff_getElem.1 hpair
    simp

/-! ### What is accepted -/

/-- The seconds of a time in a payload, without what is after the point. -/
def seconds : Json → Option Int
  | .bool b => some (if b then 1 else 0)
  | .int i => some (i.bmod (2 ^ 64))
  | .uint n => some (n : Int)
  | .real mantissa exponent => some (Json.truncate mantissa exponent)
  | _ => none

/-- The payload carries an `exp`, and it has passed. -/
def ExpPassed (payload : Json) (now : Int) : Prop :=
  ∃ exp time, payload.find? "exp" = some exp ∧ seconds exp = some time ∧ time < now

/-- The claims are the payload's, as the HMAC validator reads them. -/
structure HsClaims (payload : Json) (claims : JwtClaims) : Prop where
  sub : payload.valueString "sub" "" = .ok claims.userId
  username : payload.valueString "username" "" = .ok claims.username
  exp : payload.valueLongLong "exp" 0 = .ok claims.exp
  others : claims = { userId := claims.userId, username := claims.username, exp := claims.exp }

/-- The signature over the first two segments was verified with the key of the algorithm that the
header names, the claims are those of the payload, and no expiry has passed.  For RS256 the payload
has an `exp`, and the claims have it as jwt-cpp rounds it. -/
inductive Verified (libs : JwtLibraries) (now : Int)
    (secret publicKeyPem token header payload signature : String) (body : Json) (claims : JwtClaims) :
    Prop
  | hs256 (alg : MultiAlgJwtValidator.peekAlgorithm libs token = some "HS256")
      (mac : base64urlDecode signature = libs.hmac secret (header ++ "." ++ payload))
      (read : HsClaims body claims) (unexpired : ¬ ExpPassed body now)
  | rs256 (alg : MultiAlgJwtValidator.peekAlgorithm libs token = some "RS256")
      (decoded : DecodedJwt) (decode : libs.decode token = some decoded)
      (verified : libs.rsaVerifies publicKeyPem (header ++ "." ++ payload) decoded.signature = true)
      (read : RsJwtValidator.claims body = some claims)
      (exp : RsJwtValidator.expiresAt body = some claims.exp) (unexpired : now ≤ claims.exp)

/-- **What acceptance promises**: a verified signature over the segments as they were received, the
claims of the payload, no expiry that has passed, and a subject. -/
def SoundlyAccepted (libs : JwtLibraries) (now : Int) (secret publicKeyPem token : String)
    (claims : JwtClaims) : Prop :=
  ∃ header payload signature body, Segments token header payload signature ∧
    libs.parse (base64urlDecode payload) = some body ∧
    Verified libs now secret publicKeyPem token header payload signature body claims ∧
    claims.userId ≠ ""

/-- The HMAC path is taken to its end with an `exp` that has passed and is not above zero. -/
def ExpUnchecked (libs : JwtLibraries) (now : Int) (secret token : String) : Prop :=
  secret ≠ "" ∧ MultiAlgJwtValidator.peekAlgorithm libs token = some "HS256" ∧
    ∃ header payload signature body, Segments token header payload signature ∧
      header ≠ "" ∧ payload ≠ "" ∧ signature ≠ "" ∧
      base64urlDecode signature = libs.hmac secret (header ++ "." ++ payload) ∧
      libs.parse (base64urlDecode payload) = some body ∧
      (∃ userId, body.valueString "sub" "" = .ok userId ∧ userId ≠ "") ∧
      (∃ username, body.valueString "username" "" = .ok username) ∧
      (∃ exp, body.valueLongLong "exp" 0 = .ok exp ∧ exp ≤ 0) ∧ ExpPassed body now

/-- What jwt-cpp does: it decodes the first two segments, and verifies the signature over them and
the expiry, to a second. -/
structure JwtLibraries.Documented (libs : JwtLibraries) : Prop where
  decode_segments : ∀ {token decoded}, libs.decode token = some decoded →
    ∃ signature, Segments token decoded.headerBase64 decoded.payloadBase64 signature
  decode_payload : ∀ {token decoded}, libs.decode token = some decoded →
    libs.parse (base64urlDecode decoded.payloadBase64) = some decoded.payload
  verify_signature : ∀ {publicKeyPem issuer now decoded},
    libs.verify publicKeyPem issuer now decoded = true →
      libs.rsaVerifies publicKeyPem (decoded.headerBase64 ++ "." ++ decoded.payloadBase64)
        decoded.signature = true
  verify_expiry : ∀ {publicKeyPem issuer now decoded exp},
    libs.verify publicKeyPem issuer now decoded = true →
      RsJwtValidator.expiresAt decoded.payload = some exp → now ≤ exp

variable {libs : JwtLibraries} {now : Int} {secret publicKeyPem issuer token : String}
  {claims : JwtClaims}

theorem claims_eq_some_iff {body : Json} : JwtValidator.claims body now = some claims ↔
    HsClaims body claims ∧ claims.userId ≠ "" ∧ ¬ (0 < claims.exp ∧ claims.exp < now) := by
  unfold JwtValidator.claims
  constructor
  · intro h
    split at h
    · next userId username exp hsub husername hexp =>
        split at h
        · cases h
        · next hne =>
            split at h
            · cases h
            · next hlate =>
                cases h
                exact ⟨⟨hsub, husername, hexp, rfl⟩, hne, hlate⟩
    · cases h
  · rintro ⟨hread, hne, hlate⟩
    rw [hread.sub, hread.username, hread.exp]
    dsimp only
    rw [if_neg hne, if_neg hlate, ← hread.others]

/-- The HMAC validator returns claims: for the segments, with a signature that is the MAC, and with
an expiry that is not above zero or has not passed. -/
theorem validate_eq_some_iff : JwtValidator.validate libs secret now token = some claims ↔
    secret ≠ "" ∧ ∃ header payload signature body, Segments token header payload signature ∧
      header ≠ "" ∧ payload ≠ "" ∧ signature ≠ "" ∧
      base64urlDecode signature = libs.hmac secret (header ++ "." ++ payload) ∧
      libs.parse (base64urlDecode payload) = some body ∧
      HsClaims body claims ∧ claims.userId ≠ "" ∧ ¬ (0 < claims.exp ∧ claims.exp < now) := by
  unfold JwtValidator.validate
  constructor
  · intro h
    split at h
    · cases h
    · next hsecret =>
        refine ⟨hsecret, ?_⟩
        split at h
        · next header payload signature hsplit =>
            split at h
            · cases h
            · next hparts =>
                simp only [not_or] at hparts
                dsimp only at h
                by_cases hlength : (toHex (libs.hmac secret (header ++ "." ++ payload))).length =
                    (base64urlToHex signature).length
                · rw [if_neg (not_not.2 hlength)] at h
                  by_cases hdiff : diffBits (toHex (libs.hmac secret (header ++ "." ++ payload)))
                      (base64urlToHex signature) = 0
                  · rw [if_neg (not_not.2 hdiff)] at h
                    have hmac := toHex_injective ((diffBits_eq_zero hlength).1 hdiff)
                    cases hbody : libs.parse (base64urlDecode payload) with
                    | none =>
                        rw [hbody] at h
                        cases h
                    | some body =>
                        rw [hbody] at h
                        exact ⟨header, payload, signature, body, splitToken_eq_iff.1 hsplit,
                          hparts.1, hparts.2.1, hparts.2.2, hmac.symm, hbody,
                          claims_eq_some_iff.1 h⟩
                  · rw [if_pos hdiff] at h
                    cases h
                · rw [if_pos hlength] at h
                  cases h
        · cases h
  · rintro ⟨hsecret, header, payload, signature, body, hsegments, hheader, hpayload, hsignature,
      hmac, hbody, hclaims⟩
    have hhex : base64urlToHex signature = toHex (libs.hmac secret (header ++ "." ++ payload)) := by
      rw [base64urlToHex, hmac]
    rw [if_neg hsecret, splitToken_eq_iff.2 hsegments]
    simp only [hheader, hpayload, hsignature, or_self, if_false, hhex, ne_eq, not_true_eq_false,
      (diffBits_eq_zero rfl).2, hbody]
    exact claims_eq_some_iff.2 hclaims

/-- The RS256 validator returns claims of a token that jwt-cpp decodes and verifies. -/
theorem rsValidate_eq_some (h : RsJwtValidator.validate libs publicKeyPem issuer now token =
    some claims) : ∃ decoded, libs.decode token = some decoded ∧
      libs.verify publicKeyPem issuer now decoded = true ∧
      RsJwtValidator.claims decoded.payload = some claims := by
  unfold RsJwtValidator.validate at h
  split at h
  · cases h
  · split at h
    · cases h
    · next decoded hdecode =>
        split at h
        · next hverify => exact ⟨decoded, hdecode, hverify, h⟩
        · cases h

/-- The claims of an RS256 token have a subject, and the expiry of the payload. -/
theorem rsClaims_eq_some {body : Json} (h : RsJwtValidator.claims body = some claims) :
    claims.userId ≠ "" ∧ RsJwtValidator.expiresAt body = some claims.exp := by
  simp only [RsJwtValidator.claims, Option.bind_eq_bind, Option.bind_eq_some_iff] at h
  obtain ⟨userId, -, aud, -, iss, -, exp, hexp, tenantId, -, scope, -, role, -, h⟩ := h
  split at h
  · cases h
  · next hne =>
      cases h
      exact ⟨hne, hexp⟩

/-- The header is one that `fromRequest` goes on with when a token stands behind `Bearer `. -/
theorem bearer_iff {authorization : String} :
    ¬ (authorization.length ≤ 7 ∨ authorization.toList.take 7 ≠ "Bearer ".toList) ↔
      ∃ token, authorization = "Bearer " ++ token ∧ token ≠ "" := by
  have hbearer : "Bearer ".toList.length = 7 := by decide
  constructor
  · intro h
    simp only [not_or, not_le, not_not] at h
    refine ⟨String.ofList (authorization.toList.drop 7), ?_, ?_⟩
    · have hparts := List.take_append_drop 7 authorization.toList
      rw [h.2] at hparts
      refine String.toList_inj.1 ?_
      rw [String.toList_append]
      exact hparts.symm.trans (congrArg _ String.toList_ofList.symm)
    · intro hempty
      have hnil : authorization.toList.drop 7 = [] := by
        simpa using congrArg String.toList hempty
      have hlength := List.drop_eq_nil_iff.1 hnil
      rw [String.length_toList] at hlength
      omega
  · rintro ⟨token, rfl, hne⟩
    have hpos : 0 < token.length := Nat.pos_of_ne_zero fun h => hne (String.length_eq_zero_iff.1 h)
    have hlength : ("Bearer " ++ token).length = 7 + token.length := by
      rw [String.length_append]
      rfl
    simp only [not_or, not_le, not_not, hlength, String.toList_append]
    exact ⟨by omega, List.take_left' hbearer⟩

theorem drop_bearer (token : String) :
    String.ofList (("Bearer " ++ token).toList.drop 7) = token := by
  rw [String.toList_append, List.drop_left' (by decide), String.ofList_toList]

theorem bearer_injective {token token' : String} (h : "Bearer " ++ token = "Bearer " ++ token') :
    token = token' := by
  rw [← drop_bearer token, h, drop_bearer]

/-- The token behind `Bearer `, and which validator it comes to. -/
theorem fromRequest_eq_some_iff {authorization : String} :
    MultiAlgJwtValidator.fromRequest libs now authorization secret publicKeyPem issuer =
        some claims ↔
      ∃ token, authorization = "Bearer " ++ token ∧ token ≠ "" ∧
        ((MultiAlgJwtValidator.peekAlgorithm libs token = some "HS256" ∧
            JwtValidator.validate libs secret now token = some claims) ∨
          (MultiAlgJwtValidator.peekAlgorithm libs token = some "RS256" ∧
            RsJwtValidator.validate libs publicKeyPem issuer now token = some claims)) := by
  unfold MultiAlgJwtValidator.fromRequest
  constructor
  · intro h
    split at h
    · cases h
    · next hbearer =>
        obtain ⟨token, rfl, hne⟩ := bearer_iff.1 hbearer
        rw [drop_bearer] at h
        refine ⟨token, rfl, hne, ?_⟩
        dsimp only at h
        split at h
        · cases h
        · next alg halg =>
            split at h
            · next hhs =>
                split at h
                · cases h
                · exact Or.inl ⟨hhs ▸ halg, h⟩
            · split at h
              · next hrs =>
                  split at h
                  · cases h
                  · exact Or.inr ⟨hrs ▸ halg, h⟩
              · cases h
  · rintro ⟨token, rfl, hne, hrun⟩
    rw [if_neg (bearer_iff.2 ⟨token, rfl, hne⟩), drop_bearer]
    dsimp only
    rcases hrun with ⟨halg, hrun⟩ | ⟨halg, hrun⟩
    · have hsecret : secret ≠ "" := (validate_eq_some_iff.1 hrun).1
      rw [halg]
      simp [hsecret, hrun]
    · have hpem : publicKeyPem ≠ "" := by
        rintro rfl
        simp [RsJwtValidator.validate] at hrun
      rw [halg]
      simp [hpem, hrun]

/-! ### Soundness -/

/-- The integer that the validator compares, where it is above zero, is not above the time. -/
theorem getLongLong_le {exp : Json} {value time : Int} (hvalue : exp.getLongLong = .ok value)
    (htime : seconds exp = some time) (hpos : 0 < value) : value ≤ time := by
  cases exp with
  | bool b =>
      obtain rfl := Except.ok.inj hvalue
      exact (Option.some.inj htime).le
  | int i =>
      obtain rfl := Except.ok.inj hvalue
      exact (Option.some.inj htime).le
  | uint n =>
      have hwrapped : (n : Int).bmod (2 ^ 64) = value := Except.ok.inj hvalue
      have hexact : (n : Int) = time := Option.some.inj htime
      rw [Int.bmod_def] at hwrapped
      split at hwrapped <;> omega
  | real mantissa exponent =>
      have hexact : Json.truncate mantissa exponent = time := Option.some.inj htime
      simp only [Json.getLongLong, Except.ok.injEq] at hvalue
      split at hvalue <;> omega
  | null => cases htime
  | str s => cases htime
  | arr elements => cases htime
  | obj members => cases htime

/-- The `exp` that the validator reads is the payload's. -/
theorem valueLongLong_exp {body exp : Json} {value : Int} (hfind : body.find? "exp" = some exp)
    (h : body.valueLongLong "exp" 0 = .ok value) : exp.getLongLong = .ok value := by
  obtain ⟨members, rfl⟩ := Json.exists_obj_of_find? hfind
  simpa only [Json.valueLongLong, hfind] using h

theorem Segments.unique {header payload signature header' payload' signature' : String}
    (h : Segments token header payload signature)
    (h' : Segments token header' payload' signature') :
    header = header' ∧ payload = payload' ∧ signature = signature' := by
  have hsame := (splitToken_eq_iff.2 h).symm.trans (splitToken_eq_iff.2 h')
  simpa using hsame

/-- **The HMAC path**: its claims are sound unless the expiry went unchecked. -/
theorem validate_sound (halg : MultiAlgJwtValidator.peekAlgorithm libs token = some "HS256")
    (h : JwtValidator.validate libs secret now token = some claims)
    (hchecked : ¬ ExpUnchecked libs now secret token) :
    SoundlyAccepted libs now secret publicKeyPem token claims := by
  obtain ⟨hsecret, header, payload, signature, body, hsegments, hheader, hpayload, hsignature, hmac,
    hbody, hread, hsub, hlate⟩ := validate_eq_some_iff.1 h
  refine ⟨header, payload, signature, body, hsegments, hbody, .hs256 halg hmac hread ?_, hsub⟩
  intro hpassed
  by_cases hpos : 0 < claims.exp
  · obtain ⟨exp, time, hfind, htime, hnow⟩ := hpassed
    have hle := getLongLong_le (valueLongLong_exp hfind hread.exp) htime hpos
    exact hlate ⟨hpos, by omega⟩
  · exact hchecked ⟨hsecret, halg, header, payload, signature, body, hsegments, hheader, hpayload,
      hsignature, hmac, hbody, ⟨_, hread.sub, hsub⟩, ⟨_, hread.username⟩,
      ⟨_, hread.exp, by omega⟩, hpassed⟩

/-- **The RS256 path**, over what jwt-cpp does. -/
theorem rsValidate_sound (hlibs : libs.Documented)
    (halg : MultiAlgJwtValidator.peekAlgorithm libs token = some "RS256")
    (h : RsJwtValidator.validate libs publicKeyPem issuer now token = some claims) :
    SoundlyAccepted libs now secret publicKeyPem token claims := by
  obtain ⟨decoded, hdecode, hverify, hread⟩ := rsValidate_eq_some h
  obtain ⟨signature, hsegments⟩ := hlibs.decode_segments hdecode
  obtain ⟨hsub, hexp⟩ := rsClaims_eq_some hread
  exact ⟨_, _, signature, decoded.payload, hsegments, hlibs.decode_payload hdecode,
    .rs256 halg decoded hdecode (hlibs.verify_signature hverify) hread hexp
      (hlibs.verify_expiry hverify hexp), hsub⟩

/-- **An accepted token is sound** exactly when it did not come to the end of the HMAC path with an
`exp` that has passed and is not above zero. -/
theorem fromRequest_sound_iff (hlibs : libs.Documented) (now : Int)
    (authorization secret publicKeyPem issuer : String) :
    (∀ claims, MultiAlgJwtValidator.fromRequest libs now authorization secret publicKeyPem issuer =
        some claims → ∃ token, authorization = "Bearer " ++ token ∧
          SoundlyAccepted libs now secret publicKeyPem token claims) ↔
      ∀ token, authorization = "Bearer " ++ token → ¬ ExpUnchecked libs now secret token := by
  constructor
  · rintro h token rfl ⟨hsecret, halg, header, payload, signature, body, hsegments, hheader,
      hpayload, hsignature, hmac, hbody, ⟨userId, hsub, hne⟩, ⟨username, husername⟩,
      ⟨exp, hexp, hle⟩, hpassed⟩
    have hrun : JwtValidator.validate libs secret now token = some { userId, username, exp } :=
      validate_eq_some_iff.2 ⟨hsecret, header, payload, signature, body, hsegments, hheader,
        hpayload, hsignature, hmac, hbody, ⟨hsub, husername, hexp, rfl⟩, hne,
        fun hlate => absurd hlate.1 (not_lt.2 hle)⟩
    have htoken : token ≠ "" := by
      rintro rfl
      have hlength := congrArg List.length hsegments.eq
      simp at hlength
    obtain ⟨token', htoken', header', payload', signature', body', hsegments', hbody', hverified,
      -⟩ := h _ (fromRequest_eq_some_iff.2 ⟨token, rfl, htoken, Or.inl ⟨halg, hrun⟩⟩)
    obtain rfl := bearer_injective htoken'
    obtain ⟨-, rfl, -⟩ := hsegments.unique hsegments'
    obtain rfl := Option.some.inj (hbody.symm.trans hbody')
    cases hverified with
    | hs256 _ _ _ unexpired => exact unexpired hpassed
    | rs256 halg' => exact absurd (halg.symm.trans halg') (by decide)
  · intro h claims hrun
    obtain ⟨token, hauthorization, -, ⟨halg, hrun⟩ | ⟨halg, hrun⟩⟩ := fromRequest_eq_some_iff.1 hrun
    · exact ⟨token, hauthorization, validate_sound halg hrun (h token hauthorization)⟩
    · exact ⟨token, hauthorization, rsValidate_sound hlibs halg hrun⟩

/-! ### Three tokens -/

/-- The payload of an RS256 token. -/
def samplePayload : Json := .obj [("sub", .str "u"), ("iss", .str "i"), ("exp", .int 200)]

/-- Libraries that know the headers of both algorithms, three payloads, one MAC and one signature. -/
def sampleLibraries : JwtLibraries where
  hmac _ _ := [1, 2, 3]
  parse bytes :=
    if bytes = "\x7b\"alg\":\"HS256\"\x7d".toUTF8.toList then
      some (.obj [("alg", .str "HS256")])
    else if bytes = "\x7b\"sub\":\"u\",\"exp\":-1\x7d".toUTF8.toList then
      some (.obj [("sub", .str "u"), ("exp", .int (-1))])
    else if bytes = "\x7b\"sub\":\"u\"\x7d".toUTF8.toList then some (.obj [("sub", .str "u")])
    else if bytes = "\x7b\"alg\":\"RS256\"\x7d".toUTF8.toList then
      some (.obj [("alg", .str "RS256")])
    else if bytes = "\x7b\"sub\":\"u\",\"iss\":\"i\",\"exp\":200\x7d".toUTF8.toList then
      some samplePayload
    else none
  decode token :=
    if token = "eyJhbGciOiJSUzI1NiJ9.eyJzdWIiOiJ1IiwiaXNzIjoiaSIsImV4cCI6MjAwfQ.AQID" then
      some ⟨"eyJhbGciOiJSUzI1NiJ9", "eyJzdWIiOiJ1IiwiaXNzIjoiaSIsImV4cCI6MjAwfQ", [1, 2, 3],
        samplePayload⟩
    else none
  rsaVerifies publicKeyPem _ signature := publicKeyPem = "pem" ∧ signature = [1, 2, 3]
  verify publicKeyPem issuer now decoded :=
    (publicKeyPem = "pem" ∧ decoded.signature = [1, 2, 3]) ∧
      RsJwtValidator.stringClaim decoded.payload "iss" = some issuer ∧
      (RsJwtValidator.expiresAt decoded.payload).all (now ≤ ·)

/-- A token that was signed with a private key. -/
def rsToken : String := "eyJhbGciOiJSUzI1NiJ9.eyJzdWIiOiJ1IiwiaXNzIjoiaSIsImV4cCI6MjAwfQ.AQID"

theorem rsToken_segments :
    Segments rsToken "eyJhbGciOiJSUzI1NiJ9" "eyJzdWIiOiJ1IiwiaXNzIjoiaSIsImV4cCI6MjAwfQ" "AQID" where
  eq := by decide +kernel
  header_no_dot := by decide +kernel
  payload_no_dot := by decide +kernel

/-- What the sample decodes. -/
theorem sampleLibraries_decode {token : String} {decoded : DecodedJwt}
    (h : sampleLibraries.decode token = some decoded) :
    token = rsToken ∧ decoded = ⟨"eyJhbGciOiJSUzI1NiJ9",
      "eyJzdWIiOiJ1IiwiaXNzIjoiaSIsImV4cCI6MjAwfQ", [1, 2, 3], samplePayload⟩ := by
  simp only [sampleLibraries] at h
  split at h
  · next htoken => exact ⟨htoken, (Option.some.inj h).symm⟩
  · cases h

theorem sampleLibraries_documented : sampleLibraries.Documented where
  decode_segments h := by
    obtain ⟨rfl, rfl⟩ := sampleLibraries_decode h
    exact ⟨_, rsToken_segments⟩
  decode_payload h := by
    obtain ⟨rfl, rfl⟩ := sampleLibraries_decode h
    simp only [sampleLibraries]
    rw [if_neg (by decide +kernel), if_neg (by decide +kernel), if_neg (by decide +kernel),
      if_neg (by decide +kernel), if_pos (by decide +kernel)]
  verify_signature h := decide_eq_true (of_decide_eq_true h).1
  verify_expiry h hexp := by
    have hall := (of_decide_eq_true h).2.2
    rw [hexp] at hall
    exact of_decide_eq_true hall

def expiredToken : String := "eyJhbGciOiJIUzI1NiJ9.eyJzdWIiOiJ1IiwiZXhwIjotMX0.AQID"

theorem expiredToken_segments :
    Segments expiredToken "eyJhbGciOiJIUzI1NiJ9" "eyJzdWIiOiJ1IiwiZXhwIjotMX0" "AQID" where
  eq := by decide +kernel
  header_no_dot := by decide +kernel
  payload_no_dot := by decide +kernel

def plainToken : String := "eyJhbGciOiJIUzI1NiJ9.eyJzdWIiOiJ1In0.AQID"

theorem plainToken_segments :
    Segments plainToken "eyJhbGciOiJIUzI1NiJ9" "eyJzdWIiOiJ1In0" "AQID" where
  eq := by decide +kernel
  header_no_dot := by decide +kernel
  payload_no_dot := by decide +kernel

/-- A token with a MAC and one that was signed with a private key are accepted, and soundly. -/
theorem fromRequest_sound_tokens :
    (∃ token, "Bearer " ++ plainToken = "Bearer " ++ token ∧
      SoundlyAccepted sampleLibraries 100 "secret" "pem" token { userId := "u" }) ∧
    ∃ token, "Bearer " ++ rsToken = "Bearer " ++ token ∧
      SoundlyAccepted sampleLibraries 100 "secret" "pem" token
        { userId := "u", iss := "i", exp := 200 } := by
  constructor
  · refine (fromRequest_sound_iff sampleLibraries_documented 100 ("Bearer " ++ plainToken) "secret"
      "pem" "i").2 ?_ _ (by decide +kernel)
    rintro token htoken ⟨-, -, header, payload, signature, body, hsegments, -, -, -, -, hbody, -, -, -,
      exp, time, hfind, -⟩
    obtain rfl := bearer_injective htoken
    obtain ⟨-, rfl, -⟩ := plainToken_segments.unique hsegments
    have hparse : sampleLibraries.parse (base64urlDecode "eyJzdWIiOiJ1In0") =
        some (.obj [("sub", .str "u")]) := by
      simp only [sampleLibraries]
      rw [if_neg (by decide +kernel), if_neg (by decide +kernel), if_pos (by decide +kernel)]
    obtain rfl := Option.some.inj (hparse.symm.trans hbody)
    have hnone : (Json.obj [("sub", .str "u")]).find? "exp" = none := rfl
    rw [hnone] at hfind
    cases hfind
  · refine (fromRequest_sound_iff sampleLibraries_documented 100 ("Bearer " ++ rsToken) "secret"
      "pem" "i").2 ?_ _ (by decide +kernel)
    rintro token htoken ⟨-, halg, -⟩
    obtain rfl := bearer_injective htoken
    exact absurd halg (by decide +kernel)

/-- A token whose `exp` is -1 is accepted at the time 100, which is long after. -/
theorem expiredToken_accepted :
    MultiAlgJwtValidator.fromRequest sampleLibraries 100 ("Bearer " ++ expiredToken) "secret" "" "" =
      some { userId := "u", exp := -1 } ∧
    ¬ ∃ token, "Bearer " ++ expiredToken = "Bearer " ++ token ∧
      SoundlyAccepted sampleLibraries 100 "secret" "" token { userId := "u", exp := -1 } := by
  refine ⟨by decide +kernel, ?_⟩
  rintro ⟨token, htoken, header, payload, signature, body, hsegments, hbody, hverified, -⟩
  obtain rfl := bearer_injective htoken
  obtain ⟨-, rfl, -⟩ := expiredToken_segments.unique hsegments
  have hparse : sampleLibraries.parse (base64urlDecode "eyJzdWIiOiJ1IiwiZXhwIjotMX0") =
      some (.obj [("sub", .str "u"), ("exp", .int (-1))]) := by
    simp only [sampleLibraries]
    rw [if_neg (by decide +kernel), if_pos (by decide +kernel)]
  obtain rfl := Option.some.inj (hparse.symm.trans hbody)
  cases hverified with
  | hs256 _ _ _ unexpired => exact unexpired ⟨.int (-1), -1, rfl, by decide, by decide⟩
  | rs256 halg => exact absurd halg (by decide +kernel)

end Security
end Dbal
