/-
# Validating JWTs

`src/security/jwt`: a bearer token is dispatched by the `alg` of its unverified header, to an HMAC
check of its own or to jwt-cpp.

HMAC-SHA256, the JSON parser and jwt-cpp's decoding and verifying are parameters.  The time is that
of `std::time`, in seconds.
-/

import Mathlib.Data.String.Basic
import Dbal.Json
import Dbal.Security.Base64Url

namespace Dbal

namespace Json

/-- `get<long long>()`: every number and both booleans convert; a double out of range becomes the
smallest number, as on x86-64. -/
def getLongLong : Json → Except JsonError Int
  | .bool b => .ok (if b then 1 else 0)
  | .int i => .ok (i.bmod (2 ^ 64))
  | .uint n => .ok ((n : Int).bmod (2 ^ 64))
  | .real mantissa exponent =>
      let n := truncate mantissa exponent
      .ok (if -2 ^ 63 ≤ n ∧ n < 2 ^ 63 then n else -2 ^ 63)
  | _ => .error .typeError302

/-- `value(key, default)` for `long long`s. -/
def valueLongLong (node : Json) (key : String) (default : Int) : Except JsonError Int :=
  match node with
  | .obj _ =>
      match node.find? key with
      | none => .ok default
      | some value => value.getLongLong
  | _ => .error .typeError306

end Json

namespace Security

/-- `JwtClaims`. -/
structure JwtClaims where
  userId : String := ""
  username : String := ""
  exp : Int := 0
  tenantId : String := ""
  scope : String := ""
  aud : String := ""
  iss : String := ""
  role : String := ""
  deriving DecidableEq, Repr

/-- What `jwt::decode` makes of a token. -/
structure DecodedJwt where
  headerBase64 : String
  payloadBase64 : String
  signature : List UInt8
  payload : Json

/-- The libraries: HMAC-SHA256 of a key and a text, nlohmann's parser, and of jwt-cpp the decoder, the
check of an RS256 signature and the verifier with a key, an issuer and a time.  Where they throw, the
answer is none, or false. -/
structure JwtLibraries where
  hmac : String → String → List UInt8
  parse : List UInt8 → Option Json
  decode : String → Option DecodedJwt
  rsaVerifies : String → String → List UInt8 → Bool
  verify : String → String → Int → DecodedJwt → Bool

/-! ### HS256 -/

/-- The loop that splits a token at its first two dots. -/
def splitToken : List Char → Nat → List Char → List String
  | [], _, part => [String.ofList part]
  | c :: cs, dots, part =>
      if c = '.' ∧ dots < 2 then String.ofList part :: splitToken cs (dots + 1) []
      else splitToken cs dots (part ++ [c])

/-- The bits in which two texts of one length differ. -/
def diffBits (expected provided : List UInt8) : UInt8 :=
  (expected.zip provided).foldl (fun diff pair => diff ||| (pair.1 ^^^ pair.2)) 0

namespace JwtValidator

/-- The claims of a verified payload. -/
def claims (payload : Json) (now : Int) : Option JwtClaims :=
  match payload.valueString "sub" "", payload.valueString "username" "",
      payload.valueLongLong "exp" 0 with
  | .ok userId, .ok username, .ok exp =>
      if userId = "" then none
      else if 0 < exp ∧ exp < now then none
      else some { userId := userId, username := username, exp := exp }
  | _, _, _ => none

/-- `JwtValidator::validate`. -/
def validate (libs : JwtLibraries) (secret : String) (now : Int) (token : String) :
    Option JwtClaims :=
  if secret = "" then none
  else
    match splitToken token.toList 0 [] with
    | [header, payload, signature] =>
        if header = "" ∨ payload = "" ∨ signature = "" then none
        else
          let expectedHex := toHex (libs.hmac secret (header ++ "." ++ payload))
          let providedHex := base64urlToHex signature
          if expectedHex.length ≠ providedHex.length then none
          else if diffBits expectedHex providedHex ≠ 0 then none
          else
            match libs.parse (base64urlDecode payload) with
            | none => none
            | some payload => claims payload now
    | _ => none

end JwtValidator

/-! ### RS256 -/

namespace RsJwtValidator

/-- A claim that has to be a string. -/
def stringClaim (payload : Json) (key : String) : Option String :=
  match payload.find? key with
  | some (.str s) => some s
  | _ => none

/-- A claim that has to be a string where it is there. -/
def optionalClaim (payload : Json) (key : String) : Option String :=
  if (payload.find? key).isSome then stringClaim payload key else some ""

/-- `std::llround` of a `real`: halves go away from zero. -/
def llround (mantissa exponent : Int) : Int :=
  if 0 ≤ exponent then mantissa * 2 ^ exponent.toNat
  else (2 * mantissa + mantissa.sign * 2 ^ (-exponent).toNat).tdiv (2 ^ ((-exponent).toNat + 1))

/-- `get_expires_at`, in seconds. -/
def expiresAt (payload : Json) : Option Int :=
  match payload.find? "exp" with
  | some (.int i) => some i
  | some (.uint n) => some (n : Int)
  | some (.real mantissa exponent) => some (llround mantissa exponent)
  | _ => none

/-- The first of `get_audience`, or nothing where there is none: a string, or a set of strings. -/
def audience (payload : Json) : Option String :=
  match payload.find? "aud" with
  | none => some ""
  | some (.str s) => some s
  | some (.arr elements) =>
      (elements.mapM fun element : Json => element.getString.toOption).map fun set => set.min?.getD ""
  | some _ => none

/-- The claims of a verified payload. -/
def claims (payload : Json) : Option JwtClaims := do
  let userId ← stringClaim payload "sub"
  let aud ← audience payload
  let iss ← stringClaim payload "iss"
  let exp ← expiresAt payload
  let tenantId ← optionalClaim payload "tenant_id"
  let scope ← optionalClaim payload "scope"
  let role ← optionalClaim payload "role"
  if userId = "" then none
  else some { userId, exp, tenantId, scope, aud, iss, role }

/-- `RsJwtValidator::validate`. -/
def validate (libs : JwtLibraries) (publicKeyPem issuer : String) (now : Int) (token : String) :
    Option JwtClaims :=
  if publicKeyPem = "" then none
  else
    match libs.decode token with
    | none => none
    | some decoded =>
        if libs.verify publicKeyPem issuer now decoded then claims decoded.payload else none

end RsJwtValidator

/-! ### Dispatch -/

namespace MultiAlgJwtValidator

/-- `peekAlgorithm`. -/
def peekAlgorithm (libs : JwtLibraries) (token : String) : Option String :=
  if '.' ∉ token.toList ∨ token.toList.head? = some '.' then none
  else
    match libs.parse (base64urlDecode (String.ofList (token.toList.takeWhile (· ≠ '.')))) with
    | none => none
    | some header => (header.valueString "alg" "").toOption

/-- `fromRequest`, of the `Authorization` header. -/
def fromRequest (libs : JwtLibraries) (now : Int) (authorization hs256Secret rs256PublicKeyPem
    rs256Issuer : String) : Option JwtClaims :=
  if authorization.length ≤ 7 ∨ authorization.toList.take 7 ≠ "Bearer ".toList then none
  else
    let token := String.ofList (authorization.toList.drop 7)
    match peekAlgorithm libs token with
    | none => none
    | some alg =>
        if alg = "HS256" then
          if hs256Secret = "" then none
          else JwtValidator.validate libs hs256Secret now token
        else if alg = "RS256" then
          if rs256PublicKeyPem = "" then none
          else RsJwtValidator.validate libs rs256PublicKeyPem rs256Issuer now token
        else none

end MultiAlgJwtValidator

end Security
end Dbal
