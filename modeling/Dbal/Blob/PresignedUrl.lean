/-
# What a presigned URL asks for

`s3_presigned_url` of `src/blob/s3/s3_presigned_url.hpp`.  The path that is signed is encoded, the
one in the URL is the key as it is.  They are one path exactly when nothing in the bucket path has
to be encoded (`presignedUrl_iff`): the path of the URL is what stands before the first `?` or `#`,
so it is no longer than the bucket path, and what is encoded is no shorter.  That the two decode to
the same bytes needs less (`decodes_iff`).
-/

import Dbal.Blob.S3Auth
import Dbal.Core.Error

namespace Dbal
namespace Blob
namespace S3

open Codec

/-- The path that is signed. -/
def S3Config.bucketPath (config : S3Config) (key : Bytes) : Bytes :=
  if config.usePathStyle then utf8 "/" ++ config.bucket ++ utf8 "/" ++ key else utf8 "/" ++ key

/-- The conversion of a number of seconds to an `int`. -/
def toInt (expiration : Int) : Int := expiration.bmod (2 ^ 32)

/-- `s3_presigned_url`; `expiration` is a number of seconds. -/
def s3PresignedUrl (around : Surroundings) (config : S3Config) (key : Bytes) (expiration : Int) :
    Result Bytes :=
  if key = [] then
    .error (.validationError "Object key cannot be empty for presigned URL")
  else
    let expiresSeconds := toInt expiration
    if expiresSeconds ≤ 0 ∨ expiresSeconds > 604800 then
      .error (.validationError
        "Presigned URL expiration must be between 1 and 604800 seconds")
    else
      let queryString := generatePresignedQueryString around config.buildHostHeader
        (config.bucketPath key) config.region config.accessKey config.secretKey expiresSeconds
      .ok (config.buildBaseUrl ++ utf8 "/" ++ key ++ utf8 "?" ++ queryString)

/-- The endpoint is a scheme and a host, and a bucket that is a part of the host is no more than
that. -/
structure S3Config.Addressable (config : S3Config) : Prop where
  endpoint : ∃ origin : Origin, config.endpoint = origin.text
  bucket : config.usePathStyle = false → ∀ c ∈ config.bucket, c ∉ utf8 "/?#"

section Presigned

variable (around : Surroundings) (config : S3Config) (key : Bytes) (expiration : Int)

/-- The parameters that are signed. -/
def signedParams : List (Bytes × Bytes) :=
  queryParams around config.region config.accessKey (toInt expiration)

/-- The signature of the request for a key. -/
def keySignature : Bytes :=
  signature around config.buildHostHeader (config.bucketPath key) config.region config.accessKey
    config.secretKey (toInt expiration)

/-- The URL and what was signed are one request for the key. -/
structure AsksForSigned (url : Bytes) : Prop where
  decodes : percentDecode (path url) = config.bucketPath key
  params : (params url).Perm (signedParams around config expiration ++
    [(utf8 "X-Amz-Signature", keySignature around config key expiration)])
  canonicalUri : canonicalUri (config.bucketPath key) = path url
  canonicalQuery : buildCanonicalQueryString (signedParams around config expiration) ++
    utf8 "&X-Amz-Signature=" ++ keySignature around config key expiration = query url

end Presigned

section Url

variable {around : Surroundings} {config : S3Config} {key url : Bytes} {expiration : Int}

/-- The query string of the URL for a key. -/
theorem generatePresignedQueryString_eq :
    generatePresignedQueryString around config.buildHostHeader (config.bucketPath key)
        config.region config.accessKey config.secretKey (toInt expiration) =
      buildCanonicalQueryString (signedParams around config expiration) ++ '&'.toUInt8 ::
        assign (utf8 "X-Amz-Signature") (keySignature around config key expiration) := by
  have hname : (utf8 "&X-Amz-Signature=") =
      '&'.toUInt8 :: (utf8 "X-Amz-Signature" ++ ['='.toUInt8]) := by decide
  rw [generatePresignedQueryString, hname, assign]
  simp [canonicalQueryString, signedParams, keySignature]

/-- The URL is the bucket path and the query behind a scheme and a host. -/
theorem s3PresignedUrl_ok (hconfig : config.Addressable)
    (h : s3PresignedUrl around config key expiration = .ok url) :
    ∃ origin : Origin, url = origin.text ++ (config.bucketPath key ++ '?'.toUInt8 ::
      (buildCanonicalQueryString (signedParams around config expiration) ++ '&'.toUInt8 ::
        assign (utf8 "X-Amz-Signature") (keySignature around config key expiration))) := by
  obtain ⟨origin, horigin⟩ := hconfig.endpoint
  have hmark : utf8 "?" = ['?'.toUInt8] := by decide
  have hurl : url = config.buildBaseUrl ++ utf8 "/" ++ key ++ utf8 "?" ++
      (buildCanonicalQueryString (signedParams around config expiration) ++ '&'.toUInt8 ::
        assign (utf8 "X-Amz-Signature") (keySignature around config key expiration)) := by
    rw [s3PresignedUrl] at h
    dsimp only at h
    split_ifs at h
    rw [← generatePresignedQueryString_eq]
    exact (Except.ok.inj h).symm
  rw [hurl, S3Config.buildBaseUrl, S3Config.bucketPath, hmark]
  cases hstyle : config.usePathStyle with
  | true => exact ⟨origin, by simp [horigin]⟩
  | false =>
      have hdot : ∀ c ∈ utf8 ".", c ∉ utf8 "/?#" := forall_mem_of_all (by decide)
      have hhost : ∀ c ∈ config.bucket ++ utf8 "." ++ origin.host, c ∉ utf8 "/?#" := by
        simp only [List.mem_append]
        rintro c ((hmem | hmem) | hmem)
        · exact hconfig.bucket hstyle c hmem
        · exact hdot c hmem
        · exact origin.host_plain c hmem
      have hcut : cut (utf8 "://") config.endpoint = some (origin.scheme, origin.host) :=
        horigin ▸ (skips_of_not_mem (origin.not_mem_scheme (by decide))).cut_append _
      refine ⟨⟨origin.scheme, _, origin.scheme_plain, hhost⟩, ?_⟩
      simp [hcut, Origin.text]

theorem bucketPath_eq_cons (config : S3Config) (key : Bytes) :
    ∃ rest, config.bucketPath key = '/'.toUInt8 :: rest := by
  have hslash : utf8 "/" = ['/'.toUInt8] := by decide
  rw [S3Config.bucketPath, hslash]
  split_ifs
  · exact ⟨config.bucket ++ ['/'.toUInt8] ++ key, by simp⟩
  · exact ⟨key, rfl⟩

/-- The path of the URL is the bucket path up to its first `?` or `#`. -/
theorem path_presigned (hconfig : config.Addressable)
    (h : s3PresignedUrl around config key expiration = .ok url) :
    path url = front '?'.toUInt8 (front '#'.toUInt8 (config.bucketPath key)) := by
  obtain ⟨origin, hurl⟩ := s3PresignedUrl_ok hconfig h
  obtain ⟨rest, hrest⟩ := bucketPath_eq_cons config key
  rw [hurl, hrest, List.cons_append, origin.path_append, ← List.cons_append,
    front_front_append _ (by decide)]

/-- The path of the URL is decoded to the bucket path exactly when there is nothing to cut or decode
in it. -/
theorem decodes_iff (hconfig : config.Addressable)
    (h : s3PresignedUrl around config key expiration = .ok url) :
    percentDecode (path url) = config.bucketPath key ↔
      '?'.toUInt8 ∉ config.bucketPath key ∧ '#'.toUInt8 ∉ config.bucketPath key ∧
        Literal (config.bucketPath key) := by
  rw [path_presigned hconfig h, read_iff]

theorem canonicalUri_bucketPath (config : S3Config) (key : Bytes) :
    canonicalUri (config.bucketPath key) = uriEncode (config.bucketPath key) false := by
  obtain ⟨rest, hrest⟩ := bucketPath_eq_cons config key
  have hle := length_le_percentEncode
    (fun c => unreserved c || (c = '/'.toUInt8 && !false)) (config.bucketPath key)
  refine if_neg fun hempty => ?_
  rw [← uriEncode, hempty, hrest, List.length_cons, List.length_nil] at hle
  omega

/-- A path in which nothing has to be encoded does not end before its end. -/
theorem not_mem_of_plain {path : Bytes}
    (h : ∀ c ∈ path, unreserved c = true ∨ c = '/'.toUInt8) : ∀ c ∈ utf8 "?#", c ∉ path := by
  have hsubset : ∀ c ∈ utf8 "?#", c ∈ utf8 "#?&=" := forall_mem_of_all (by decide)
  intro c hc hmem
  obtain ⟨hreserved, hslash, -⟩ := reserved_mark c (hsubset c hc)
  rcases h c hmem with hplain | heq
  · rw [hreserved] at hplain
    cases hplain
  · exact hslash heq

/-- The path of the URL is the one that was signed exactly when nothing in it has to be encoded. -/
theorem canonicalUri_eq_path_iff (hconfig : config.Addressable)
    (h : s3PresignedUrl around config key expiration = .ok url) :
    canonicalUri (config.bucketPath key) = path url ↔
      ∀ c ∈ config.bucketPath key, unreserved c = true ∨ c = '/'.toUInt8 := by
  rw [canonicalUri_bucketPath, path_presigned hconfig h]
  constructor
  · intro heq
    have hle : (config.bucketPath key).length ≤ (uriEncode (config.bucketPath key) false).length :=
      length_le_percentEncode _ _
    rw [heq] at hle
    obtain ⟨hquery, hfragment⟩ := not_mem_of_length_le hle
    rw [front_eq_self hfragment, front_eq_self hquery] at heq
    exact uriEncode_path_iff.1 heq
  · intro hplain
    have hmark := not_mem_of_plain hplain
    rw [front_eq_self (hmark _ (by decide)), front_eq_self (hmark _ (by decide))]
    exact uriEncode_path_iff.2 hplain

/-- The name of the signature, and its digits. -/
theorem plainName_signature : PlainName (utf8 "X-Amz-Signature") where
  noSeparator := by decide
  noFragment := by decide
  literal := literal_of_not_mem (by decide)
  noEquals := by decide

theorem inert_toHex (bytes : Bytes) : Inert (toHex bytes) where
  noSeparator := not_mem_toHex (by decide) bytes
  noFragment := not_mem_toHex (by decide) bytes
  literal := literal_of_not_mem (not_mem_toHex (by decide) bytes)

theorem inert_keySignature (around : Surroundings) (config : S3Config) (key : Bytes)
    (expiration : Int) : Inert (keySignature around config key expiration) := inert_toHex _

/-- The query that is written has no fragment in it. -/
theorem not_mem_queryString {signature : Bytes} (hsignature : Inert signature)
    (params : List (Bytes × Bytes)) :
    '#'.toUInt8 ∉ buildCanonicalQueryString params ++
      '&'.toUInt8 :: assign (utf8 "X-Amz-Signature") signature := by
  have hassign := not_mem_assign (by decide) plainName_signature.noFragment hsignature.noFragment
  rw [List.mem_append, List.mem_cons]
  rintro (hmem | heq | hmem)
  · exact not_mem_buildCanonicalQueryString params hmem
  · exact absurd heq (by decide)
  · exact hassign hmem

/-- **A presigned URL asks for the key that was signed exactly when every byte of the bucket path is
unreserved or a slash.** -/
theorem presignedUrl_iff (hconfig : config.Addressable)
    (h : s3PresignedUrl around config key expiration = .ok url) :
    AsksForSigned around config key expiration url ↔
      ∀ c ∈ config.bucketPath key, unreserved c = true ∨ c = '/'.toUInt8 := by
  refine ⟨fun hasks => (canonicalUri_eq_path_iff hconfig h).1 hasks.canonicalUri, fun hplain => ?_⟩
  have hmark := not_mem_of_plain hplain
  have hsignature := inert_keySignature around config key expiration
  have hcanonical := (canonicalUri_eq_path_iff hconfig h).2 hplain
  obtain ⟨origin, hurl⟩ := s3PresignedUrl_ok hconfig h
  have hquery : query url = buildCanonicalQueryString (signedParams around config expiration) ++
      '&'.toUInt8 :: assign (utf8 "X-Amz-Signature") (keySignature around config key expiration) :=
    hurl ▸ origin.query_append hmark (not_mem_queryString hsignature _)
  constructor
  · rw [← hcanonical, canonicalUri_bucketPath, percentDecode_uriEncode]
  · rw [params, hquery, pieces_append, List.map_append, pieces_buildCanonicalQueryString,
      pieces_assign plainName_signature.noSeparator hsignature.noSeparator, List.map_singleton,
      pair_assign plainName_signature, percentDecode_eq_self_iff.2 hsignature.literal]
  · exact hcanonical
  · rw [hquery, ← generatePresignedQueryString_eq]
    rfl

end Url

/-! ### A key with a question mark -/

/-- Hash functions that give 32 bytes, at the first second of 2024. -/
def demoSurroundings : Surroundings where
  sha256 _ := List.replicate 32 0
  hmacSha256 _ _ := List.replicate 32 171
  dateStamp := utf8 "20240101"
  amzDate := utf8 "20240101T000000Z"

/-- A bucket on a local server. -/
def demoConfig : S3Config where
  endpoint := utf8 "http://localhost:9000"
  bucket := utf8 "files"
  region := utf8 "us-east-1"
  accessKey := utf8 "AK"
  secretKey := utf8 "SK"

/-- The URL for a key and a minute. -/
def demoUrl (key : String) : Bytes :=
  utf8 "http://localhost:9000/files/" ++ utf8 key ++ utf8 "?" ++
    generatePresignedQueryString demoSurroundings (utf8 "localhost:9000")
      (utf8 "/files/" ++ utf8 key) (utf8 "us-east-1") (utf8 "AK") (utf8 "SK") 60

theorem demoConfig_addressable : demoConfig.Addressable where
  endpoint := ⟨⟨utf8 "http", utf8 "localhost:9000", forall_mem_of_all (by decide),
    forall_mem_of_all (by decide)⟩, by decide⟩
  bucket hstyle := nomatch hstyle

theorem presignedUrl_iff_plain :
    AsksForSigned demoSurroundings demoConfig (utf8 "a.txt") 60 (demoUrl "a.txt") :=
  (presignedUrl_iff demoConfig_addressable (by rfl)).mpr (forall_mem_of_all (by decide))

/-- The key is cut at its question mark. -/
theorem presigned_key_cut :
    s3PresignedUrl demoSurroundings demoConfig (utf8 "what?.txt") 60 = .ok (demoUrl "what?.txt") ∧
    percentDecode (path (demoUrl "what?.txt")) = utf8 "/files/what" ∧
    demoConfig.bucketPath (utf8 "what?.txt") = utf8 "/files/what?.txt" ∧
    ¬ AsksForSigned demoSurroundings demoConfig (utf8 "what?.txt") 60 (demoUrl "what?.txt") := by
  have hpath : percentDecode (path (demoUrl "what?.txt")) = utf8 "/files/what" := by decide +kernel
  have hbucket : demoConfig.bucketPath (utf8 "what?.txt") = utf8 "/files/what?.txt" := by decide
  refine ⟨by rfl, hpath, hbucket, fun hasks => ?_⟩
  have hdecodes := hasks.decodes
  rw [hpath, hbucket] at hdecodes
  revert hdecodes
  decide

end S3
end Blob
end Dbal
