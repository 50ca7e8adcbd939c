/-
# Signing requests to S3

`src/blob/s3/s3_config.hpp`, and of `src/blob/s3/s3_auth.hpp` what makes the query of a presigned
URL.  All texts are bytes.  SHA-256, HMAC and the time are what the surroundings give.
-/

import Dbal.Codec.PercentEncoding
import Dbal.Codec.Url

namespace Dbal
namespace Blob
namespace S3

open Codec

/-- The bytes of a text. -/
abbrev Bytes := List UInt8

/-- `S3Config`. -/
structure S3Config where
  endpoint : Bytes
  bucket : Bytes
  region : Bytes
  accessKey : Bytes
  secretKey : Bytes
  usePathStyle : Bool := true

namespace S3Config

variable (config : S3Config)

/-- `buildBaseUrl`. -/
def buildBaseUrl : Bytes :=
  if config.usePathStyle then config.endpoint ++ utf8 "/" ++ config.bucket
  else
    match cut (utf8 "://") config.endpoint with
    | some (scheme, host) => scheme ++ utf8 "://" ++ config.bucket ++ utf8 "." ++ host
    | none => utf8 "https://" ++ config.bucket ++ utf8 "." ++ config.endpoint

/-- `getHost`. -/
def getHost : Bytes :=
  match cut (utf8 "://") config.endpoint with
  | some (_, host) => host
  | none => config.endpoint

/-- `buildHostHeader`. -/
def buildHostHeader : Bytes :=
  if config.usePathStyle then config.getHost else config.bucket ++ utf8 "." ++ config.getHost

end S3Config

/-- The hash functions, and the two forms of the time. -/
structure Surroundings where
  sha256 : Bytes → Bytes
  hmacSha256 : (key data : Bytes) → Bytes
  dateStamp : Bytes
  amzDate : Bytes

/-- `to_hex`. -/
def toHex (bytes : Bytes) : Bytes := bytes.flatMap (hexByte 'a'.toUInt8)

/-- The bytes that `uri_encode` leaves as they are. -/
def unreserved (c : UInt8) : Bool :=
  ('A'.toUInt8 ≤ c ∧ c ≤ 'Z'.toUInt8) ∨ ('a'.toUInt8 ≤ c ∧ c ≤ 'z'.toUInt8) ∨
    ('0'.toUInt8 ≤ c ∧ c ≤ '9'.toUInt8) ∨ c = '_'.toUInt8 ∨ c = '-'.toUInt8 ∨ c = '~'.toUInt8 ∨
    c = '.'.toUInt8

/-- `uri_encode`. -/
def uriEncode (str : Bytes) (encodeSlash : Bool) : Bytes :=
  percentEncode (fun c => unreserved c || (c = '/'.toUInt8 && !encodeSlash)) str

/-- `build_canonical_query_string`; the parameters are in the order of the map. -/
def buildCanonicalQueryString (params : List (Bytes × Bytes)) : Bytes :=
  ['&'.toUInt8].intercalate
    (params.map fun param => assign (uriEncode param.1 true) (uriEncode param.2 true))

section Presigned

variable (around : Surroundings) (host path region accessKey secretKey : Bytes)
  (expiresSeconds : Int)

/-- The service that is signed for. -/
def service : Bytes := utf8 "s3"

/-- `credential_scope`. -/
def credentialScope : Bytes :=
  around.dateStamp ++ utf8 "/" ++ region ++ utf8 "/" ++ service ++ utf8 "/aws4_request"

/-- `query_params` of `generate_presigned_query_string`. -/
def queryParams : List (Bytes × Bytes) :=
  [(utf8 "X-Amz-Algorithm", utf8 "AWS4-HMAC-SHA256"),
   (utf8 "X-Amz-Credential", accessKey ++ utf8 "/" ++ credentialScope around region),
   (utf8 "X-Amz-Date", around.amzDate),
   (utf8 "X-Amz-Expires", utf8 (toString expiresSeconds)),
   (utf8 "X-Amz-SignedHeaders", utf8 "host")]

/-- `canonical_uri`. -/
def canonicalUri : Bytes := if uriEncode path false = [] then utf8 "/" else uriEncode path false

/-- `canonical_query_string` of `generate_presigned_query_string`. -/
def canonicalQueryString : Bytes :=
  buildCanonicalQueryString (queryParams around region accessKey expiresSeconds)

/-- `canonical_request` of a `GET`. -/
def canonicalRequest : Bytes :=
  utf8 "GET\n" ++ canonicalUri path ++ utf8 "\n" ++
    canonicalQueryString around region accessKey expiresSeconds ++ utf8 "\n" ++
    (utf8 "host:" ++ host ++ utf8 "\n") ++ utf8 "\n" ++ utf8 "host" ++ utf8 "\n" ++
    utf8 "UNSIGNED-PAYLOAD"

/-- `string_to_sign`. -/
def stringToSign : Bytes :=
  utf8 "AWS4-HMAC-SHA256\n" ++ around.amzDate ++ utf8 "\n" ++ credentialScope around region ++
    utf8 "\n" ++
    toHex (around.sha256 (canonicalRequest around host path region accessKey expiresSeconds))

/-- `k_signing`. -/
def signingKey : Bytes :=
  let kDate := around.hmacSha256 (utf8 "AWS4" ++ secretKey) around.dateStamp
  let kRegion := around.hmacSha256 kDate region
  let kService := around.hmacSha256 kRegion service
  around.hmacSha256 kService (utf8 "aws4_request")

/-- `signature`. -/
def signature : Bytes :=
  toHex (around.hmacSha256 (signingKey around region secretKey)
    (stringToSign around host path region accessKey expiresSeconds))

/-- `generate_presigned_query_string` for a `GET`. -/
def generatePresignedQueryString : Bytes :=
  canonicalQueryString around region accessKey expiresSeconds ++ utf8 "&X-Amz-Signature=" ++
    signature around host path region accessKey secretKey expiresSeconds

end Presigned

/-! ### What stands in an encoded text -/

theorem reserved_mark : ∀ c ∈ utf8 "#?&=", unreserved c = false ∧ c ≠ '/'.toUInt8 ∧
    c ≠ '%'.toUInt8 ∧ hexValue c = none :=
  forall_mem_of_all (by decide)

theorem not_mem_uriEncode {c : UInt8} (hc : c ∈ utf8 "#?&=") (str : Bytes) (encodeSlash : Bool) :
    c ∉ uriEncode str encodeSlash := by
  obtain ⟨hreserved, hslash, hpercent, hhex⟩ := reserved_mark c hc
  exact not_mem_percentEncode (by simp [hreserved, hslash]) hpercent hhex str

theorem percentDecode_uriEncode (str : Bytes) (encodeSlash : Bool) :
    percentDecode (uriEncode str encodeSlash) = str := by
  refine percentDecode_percentEncode ?_ str
  cases encodeSlash <;> decide

/-- A path is its own encoding exactly when nothing in it is reserved but the slashes. -/
theorem uriEncode_path_iff {path : Bytes} :
    uriEncode path false = path ↔ ∀ c ∈ path, unreserved c = true ∨ c = '/'.toUInt8 := by
  rw [uriEncode, percentEncode_eq_self_iff]
  simp

theorem not_mem_toHex {c : UInt8} (hc : hexValue c = none) (bytes : Bytes) : c ∉ toHex bytes := by
  intro hmem
  obtain ⟨b, -, hb⟩ := List.mem_flatMap.1 hmem
  exact not_mem_hexByte (.inr rfl) hc b hb

theorem not_mem_buildCanonicalQueryString (params : List (Bytes × Bytes)) :
    '#'.toUInt8 ∉ buildCanonicalQueryString params := by
  refine not_mem_intercalate (by decide) fun text htext => ?_
  obtain ⟨param, -, rfl⟩ := List.mem_map.1 htext
  exact not_mem_assign (by decide) (not_mem_uriEncode (by decide) _ _)
    (not_mem_uriEncode (by decide) _ _)

/-- Parameters that are encoded are read back. -/
theorem pieces_buildCanonicalQueryString (params : List (Bytes × Bytes)) :
    (pieces (buildCanonicalQueryString params)).map pair = params := by
  have hpieces : ∀ text ∈ params.map fun param =>
      assign (uriEncode param.1 true) (uriEncode param.2 true), pieces text = [text] := by
    intro text htext
    obtain ⟨param, -, rfl⟩ := List.mem_map.1 htext
    exact pieces_assign (not_mem_uriEncode (by decide) _ _) (not_mem_uriEncode (by decide) _ _)
  have hpair : ∀ param ∈ params,
      (pair ∘ fun param => assign (uriEncode param.1 true) (uriEncode param.2 true)) param =
        param := by
    intro param _
    rw [Function.comp_apply, pair_assign_of_not_mem (not_mem_uriEncode (by decide) _ _),
      percentDecode_uriEncode, percentDecode_uriEncode]
  rw [buildCanonicalQueryString, pieces_intercalate hpieces, List.map_map,
    List.map_congr_left hpair, List.map_id']

end S3
end Blob
end Dbal
