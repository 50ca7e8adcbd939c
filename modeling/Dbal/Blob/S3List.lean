/-
# Listing a bucket

`s3_list` of `src/blob/s3/s3_list.hpp` with the search that it reads the answer by.  The request is
what the surroundings carry out, and so is the reading of a date.

An answer is a forest in which there is a `Contents` element for each object and a
`NextContinuationToken` element for a token, in any order and among others (`IsListing`).  The
search finds exactly those elements (`xmlExtractElements_write`), but takes what is written in them
for the text itself: a listing is reported as it is exactly when no character of a key or of the
token is escaped, no size has more than 64 bits and the token is not empty (`s3List_reports_iff`).
-/

import Dbal.Blob.BlobStorage
import Dbal.Codec.Xml
import Dbal.Store.SideBySide
import Mathlib.Algebra.Group.Nat.Defs

namespace Dbal
namespace Blob
namespace S3

open Codec Codec.Xml

/-! ### The search -/

/-- One search: what stands between the next two tags of a name, and what stands behind them. -/
def xmlNext (xml tag : List Char) : Option (List Char × List Char) :=
  (cut (openTag tag) xml).bind fun found => cut (closeTag tag) found.2

/-- `xml_extract`. -/
def xmlExtract (xml tag : List Char) : List Char := ((xmlNext xml tag).map Prod.fst).getD []

theorem length_lt_of_xmlNext {xml tag : List Char} {found : List Char × List Char}
    (h : xmlNext xml tag = some found) : found.2.length < xml.length := by
  obtain ⟨opened, hopen, hclose⟩ := Option.bind_eq_some_iff.1 h
  have hxml := congrArg List.length (append_of_cut hopen)
  have hbehind := congrArg List.length (append_of_cut hclose)
  simp only [List.length_append, openTag, List.length_cons] at hxml hbehind
  omega

/-- `xml_extract_elements`, and `xml_extract_all`, which is the same. -/
def xmlExtractElements (xml tag : List Char) : List (List Char) :=
  match hnext : xmlNext xml tag with
  | none => []
  | some found =>
      have : found.2.length < xml.length := length_lt_of_xmlNext hnext
      found.1 :: xmlExtractElements found.2 tag
termination_by xml.length

section Search

variable {tag front inside : List Char}

theorem xmlExtractElements_none {xml : List Char} (h : xmlNext xml tag = none) :
    xmlExtractElements xml tag = [] := by
  rw [xmlExtractElements]
  split
  · rfl
  · next hnext => rw [h] at hnext; cases hnext

theorem xmlExtractElements_some {xml rest : List Char} (h : xmlNext xml tag = some (inside, rest)) :
    xmlExtractElements xml tag = inside :: xmlExtractElements rest tag := by
  rw [xmlExtractElements]
  split
  · next hnext => rw [h] at hnext; cases hnext
  · next hnext => rw [h] at hnext; cases hnext; rfl

/-- The first of all. -/
theorem xmlExtract_eq (xml tag : List Char) :
    xmlExtract xml tag = (xmlExtractElements xml tag).head?.getD [] := by
  rw [xmlExtract]
  cases hnext : xmlNext xml tag with
  | none => rw [xmlExtractElements_none hnext]; rfl
  | some found => rw [xmlExtractElements_some hnext]; rfl

/-- What is passed over adds nothing. -/
theorem xmlExtractElements_skip (h : Skips (openTag tag) front) (rest : List Char) :
    xmlExtractElements (front ++ rest) tag = xmlExtractElements rest tag := by
  have hnext : xmlNext (front ++ rest) tag = xmlNext rest tag := by
    rw [xmlNext, xmlNext, h rest]
    cases cut (openTag tag) rest with
    | none => rfl
    | some found => rfl
  cases hrest : xmlNext rest tag with
  | none => rw [xmlExtractElements_none hrest, xmlExtractElements_none (hnext.trans hrest)]
  | some found => rw [xmlExtractElements_some hrest, xmlExtractElements_some (hnext.trans hrest)]

/-- An element is found at its beginning. -/
theorem xmlExtractElements_element (h : Skips (closeTag tag) inside) (rest : List Char) :
    xmlExtractElements (openTag tag ++ (inside ++ (closeTag tag ++ rest))) tag =
      inside :: xmlExtractElements rest tag := by
  refine xmlExtractElements_some ?_
  rw [xmlNext, cut_self, Option.bind_some, h.cut_append]

end Search

/-- The elements of a name have no attributes, and none of that name inside. -/
def Plain (tag : Xml.Name) (forest : Forest) : Prop :=
  ∀ found ∈ forest.named tag.chars, found.1 = [] ∧ found.2.named tag.chars = []

/-- **The search finds the elements of a name, and what is written in them.** -/
theorem xmlExtractElements_append (escaping : Escaping) {tag : Xml.Name} {forest : Forest}
    (h : Plain tag forest) (rest : List Char) :
    xmlExtractElements (forest.write escaping ++ rest) tag.chars =
      (forest.named tag.chars).map (fun found => found.2.write escaping) ++
        xmlExtractElements rest tag.chars := by
  induction forest generalizing rest with
  | nil => rfl
  | text chars more ih =>
      rw [Forest.write, List.append_assoc,
        xmlExtractElements_skip (skips_of_not_mem (escaping.not_mem_escapeAll chars)), ih h]
      rfl
  | markup inside more ih =>
      rw [Forest.write, List.append_assoc,
        xmlExtractElements_skip (tag.skips_openTag_markup inside), ih h]
      rfl
  | empty name more ih =>
      rw [Forest.write, List.append_assoc,
        xmlExtractElements_skip (name.skips_openTag_empty tag), ih h]
      rfl
  | element name attributes children more ihChildren ihMore =>
      have hmore : Plain tag more := fun found hfound =>
        h found (List.mem_append_right _ (List.mem_append_right _ hfound))
      rw [Forest.write, Forest.named, List.append_assoc, List.append_assoc, List.append_assoc]
      by_cases hname : name.chars = tag.chars
      · have hself : (attributes.chars, children) ∈
            (Forest.element name attributes children more).named tag.chars := by
          simp [Forest.named, hname]
        obtain ⟨hattributes, hnone⟩ : attributes.chars = [] ∧ children.named tag.chars = [] :=
          h _ hself
        have hopen : startTag tag.chars [] = openTag tag.chars := by simp [startTag, openTag]
        rw [if_pos hname, hnone, hname, hattributes, hopen,
          xmlExtractElements_element (Forest.skips_closeTag escaping hnone), ihMore hmore]
        rfl
      · have hchildren : Plain tag children := fun found hfound =>
          h found (List.mem_append_right _ (List.mem_append_left _ hfound))
        rw [if_neg hname, xmlExtractElements_skip (name.skips_openTag_start tag hname attributes),
          ihChildren hchildren, xmlExtractElements_skip (name.skips_openTag_close tag),
          ihMore hmore, List.nil_append, List.map_append, List.append_assoc]

theorem xmlExtractElements_write (escaping : Escaping) {tag : Xml.Name} {forest : Forest}
    (h : Plain tag forest) : xmlExtractElements (forest.write escaping) tag.chars =
      (forest.named tag.chars).map fun found => found.2.write escaping := by
  have hall := xmlExtractElements_append escaping h []
  have hnil : xmlExtractElements [] tag.chars = [] := xmlExtractElements_none rfl
  rwa [List.append_nil, hnil, List.append_nil] at hall

/-! ### The listing -/

/-- `S3Response`. -/
structure S3Response where
  statusCode : Int
  body : String

/-- `is_success`. -/
def S3Response.isSuccess (resp : S3Response) : Bool := 200 ≤ resp.statusCode ∧ resp.statusCode < 300

/-- `s3_response_to_error`. -/
def s3ResponseToError (resp : S3Response) (context : String) : Error :=
  if resp.statusCode = 404 then .notFound (context ++ ": not found")
  else if resp.statusCode = 403 then ⟨.forbidden, context ++ ": access denied"⟩
  else if resp.statusCode = 401 then ⟨.unauthorized, context ++ ": authentication failed"⟩
  else if resp.statusCode = 409 then .conflict (context ++ ": conflict")
  else if resp.statusCode = 412 ∨ resp.statusCode = 400 then
    .validationError (context ++ ": " ++ resp.body)
  else .internal (context ++ ": HTTP " ++ toString resp.statusCode ++ " " ++ resp.body)

/-- `std::stoull`: the number at the front of a text, none where it throws. -/
def stoull (text : List Char) : Option Nat :=
  let text := text.dropWhile (· ∈ [' ', '\t', '\n', '\x0b', '\x0c', '\r'])
  let negative := text.head? = some '-'
  let text := if text.head? = some '-' ∨ text.head? = some '+' then text.tail else text
  let digits := text.takeWhile Char.isDigit
  let value := Nat.ofDigitChars 10 digits 0
  if digits = [] ∨ 2 ^ 64 ≤ value then none
  else some (if negative then (2 ^ 64 - value) % 2 ^ 64 else value)

/-- `query_params` of `s3_list`, in the order of the map. -/
def listParams (options : ListOptions) : List (String × String) :=
  let given (name : String) (value : Option String) : List (String × String) :=
    (value.toList.filter (· ≠ "")).map fun text => (name, text)
  given "continuation-token" options.continuationToken ++
    [("list-type", "2"), ("max-keys", toString options.maxKeys)] ++
    given "prefix" options.keyPrefix

/-- What carries out a request, how a date is read, and the size of a blob that nothing was written
to. -/
structure Client where
  s3HttpRequest : List (String × String) → Result S3Response
  parseHttpDate : List Char → Int
  noSize : Nat

namespace Client

variable (client : Client)

/-- The loop of `s3_list` for one of the elements. -/
def toMetadata (contentXml : List Char) : BlobMetadata where
  key := String.ofList (xmlExtract contentXml "Key".toList)
  size :=
    let sizeStr := xmlExtract contentXml "Size".toList
    if sizeStr ≠ [] then (stoull sizeStr).getD 0 else client.noSize
  contentType := "application/octet-stream"
  etag := String.ofList (xmlExtract contentXml "ETag".toList)
  lastModified := client.parseHttpDate (xmlExtract contentXml "LastModified".toList)

/-- What `s3_list` makes of the text of an answer. -/
def readListing (body : List Char) : BlobListResult where
  items := (xmlExtractElements body "Contents".toList).map client.toMetadata
  nextToken :=
    let nextToken := xmlExtract body "NextContinuationToken".toList
    if nextToken ≠ [] then some (String.ofList nextToken) else none
  isTruncated := xmlExtract body "IsTruncated".toList = "true".toList

/-- `s3_list`. -/
def s3List (options : ListOptions) : Result BlobListResult := do
  let resp ← client.s3HttpRequest (listParams options)
  if !resp.isSuccess then .error (s3ResponseToError resp "List objects")
  else return client.readListing resp.body.toList

end Client

/-! ### What a server answers -/

/-- An object of a bucket. -/
structure StoredObject where
  key : String
  size : Nat

/-- The objects of a page, and the token for the next one. -/
structure Listing where
  objects : List StoredObject
  token : Option String

/-- A text between two tags. -/
def textElement (chars : List Char) : List Char × Forest := ([], .text chars .nil)

/-- A `Contents` element of an object: its key and its size, in any order and among other things. -/
structure IsContents (object : StoredObject) (found : List Char × Forest) : Prop where
  attributes : found.1 = []
  contents : found.2.named "Contents".toList = []
  key : found.2.named "Key".toList = [textElement object.key.toList]
  size : found.2.named "Size".toList = [textElement (Nat.toDigits 10 object.size)]

/-- An answer with an element for each object and one for the token, in any order and among other
things. -/
structure IsListing (listing : Listing) (forest : Forest) : Prop where
  contents : List.Forall₂ IsContents listing.objects (forest.named "Contents".toList)
  token : forest.named "NextContinuationToken".toList =
    listing.token.toList.map fun token => textElement token.toList

/-- The result has the keys and sizes of the objects, in their order, and the token. -/
structure Reports (listing : Listing) (result : BlobListResult) : Prop where
  items : result.items.map (fun item => (item.key, item.size)) =
    listing.objects.map fun object => (object.key, object.size)
  token : result.nextToken = listing.token

/-- A text of which nothing is escaped. -/
def Unescaped (escaping : Escaping) (text : String) : Prop :=
  ∀ c ∈ text.toList, escaping.escape c = [c]

/-- The names of the elements that are looked for. -/
def contentsName : Xml.Name := ⟨"Contents".toList, by decide, forall_mem_of_all (by decide)⟩

def keyName : Xml.Name := ⟨"Key".toList, by decide, forall_mem_of_all (by decide)⟩

def sizeName : Xml.Name := ⟨"Size".toList, by decide, forall_mem_of_all (by decide)⟩

def tokenName : Xml.Name :=
  ⟨"NextContinuationToken".toList, by decide, forall_mem_of_all (by decide)⟩

section Reading

variable {escaping : Escaping} {tag : Xml.Name} {forest : Forest} {chars : List Char}

/-- A single text is what is written of it. -/
theorem xmlExtract_single (h : forest.named tag.chars = [textElement chars]) :
    xmlExtract (forest.write escaping) tag.chars = escaping.escapeAll chars := by
  have hplain : Plain tag forest := by
    intro found hfound
    rw [h, List.mem_singleton] at hfound
    subst hfound
    exact ⟨rfl, rfl⟩
  rw [xmlExtract_eq, xmlExtractElements_write escaping hplain, h]
  simp [textElement, Forest.write]

theorem xmlExtract_absent (h : forest.named tag.chars = []) :
    xmlExtract (forest.write escaping) tag.chars = [] := by
  have hplain : Plain tag forest := by
    intro found hfound
    rw [h] at hfound
    cases hfound
  rw [xmlExtract_eq, xmlExtractElements_write escaping hplain, h]
  rfl

/-- The digits of a number are read as the number if it has no more than 64 bits. -/
theorem stoull_toDigits (n : Nat) :
    stoull (Nat.toDigits 10 n) = if n < 2 ^ 64 then some n else none := by
  have hdigits : ∀ c ∈ Nat.toDigits 10 n, c.isDigit = true := fun c hc =>
    Nat.isDigit_of_mem_toDigits (by decide) (by decide) hc
  obtain ⟨c, rest, hchars⟩ := List.exists_cons_of_ne_nil (Nat.toDigits_ne_nil (n := n) (b := 10))
  have hc : c.isDigit = true := hdigits c (hchars ▸ List.mem_cons_self)
  have hspace : c ∉ [' ', '\t', '\n', '\x0b', '\x0c', '\r'] := by
    intro hmem
    have hnone : ∀ d ∈ [' ', '\t', '\n', '\x0b', '\x0c', '\r'], d.isDigit = false :=
      forall_mem_of_all (by decide)
    rw [hnone c hmem] at hc
    cases hc
  have hminus : some c ≠ some '-' := by
    rintro heq
    cases heq
    exact absurd hc (by decide)
  have hplus : some c ≠ some '+' := by
    rintro heq
    cases heq
    exact absurd hc (by decide)
  have hdrop : (Nat.toDigits 10 n).dropWhile (· ∈ [' ', '\t', '\n', '\x0b', '\x0c', '\r']) =
      Nat.toDigits 10 n := by
    rw [hchars]
    exact List.dropWhile_cons_of_neg (by simpa using hspace)
  have hhead : (Nat.toDigits 10 n).head? = some c := by rw [hchars, List.head?_cons]
  have htake : (Nat.toDigits 10 n).takeWhile Char.isDigit = Nat.toDigits 10 n :=
    List.takeWhile_eq_self_iff.2 hdigits
  have hsign : ¬ (some c = some '-' ∨ some c = some '+') := fun hor => hor.elim hminus hplus
  unfold stoull
  simp only [hdrop, hhead, if_neg hsign, htake, Nat.ofDigitChars_ten_toDigits, if_neg hminus]
  by_cases hlarge : n < 2 ^ 64
  · rw [if_pos hlarge, if_neg (by simpa [Nat.toDigits_ne_nil] using hlarge)]
  · rw [if_neg hlarge, if_pos (.inr (not_lt.1 hlarge))]

theorem escapeAll_digits (escaping : Escaping) (n : Nat) :
    escaping.escapeAll (Nat.toDigits 10 n) = Nat.toDigits 10 n :=
  escaping.escapeAll_eq_self_iff.2 fun c hc =>
    escaping.escape_digit c (Nat.isDigit_of_mem_toDigits (by decide) (by decide) hc)

variable (escaping) (client : Client)

/-- What an element is read as. -/
theorem toMetadata_of_isContents {object : StoredObject} {found : List Char × Forest}
    (h : IsContents object found) :
    (client.toMetadata (found.2.write escaping)).key =
        String.ofList (escaping.escapeAll object.key.toList) ∧
      (client.toMetadata (found.2.write escaping)).size =
        if object.size < 2 ^ 64 then object.size else 0 := by
  have hkey : xmlExtract (found.2.write escaping) "Key".toList =
      escaping.escapeAll object.key.toList := @xmlExtract_single escaping keyName _ _ h.key
  have hsize : xmlExtract (found.2.write escaping) "Size".toList = Nat.toDigits 10 object.size := by
    rw [← escapeAll_digits escaping object.size]
    exact @xmlExtract_single escaping sizeName _ _ h.size
  refine ⟨congrArg String.ofList hkey, ?_⟩
  simp only [Client.toMetadata, hsize]
  rw [if_pos Nat.toDigits_ne_nil, stoull_toDigits]
  split_ifs <;> rfl

/-- No element of an object has attributes, or such an element inside. -/
theorem plain_of_forall {objects : List StoredObject} {elements : List (List Char × Forest)}
    (h : List.Forall₂ IsContents objects elements) :
    ∀ found ∈ elements, found.1 = [] ∧ found.2.named "Contents".toList = [] := by
  intro found hfound
  obtain ⟨object, -, hcontents⟩ := Store.exists_of_forall₂_right h hfound
  exact ⟨hcontents.attributes, hcontents.contents⟩

/-- The items of a listing, whose keys are what was written of them. -/
theorem items_of_forall {objects : List StoredObject} {elements : List (List Char × Forest)}
    (h : List.Forall₂ IsContents objects elements) :
    (elements.map fun found => client.toMetadata (found.2.write escaping)).map
        (fun item => (item.key, item.size)) =
      objects.map fun object => (String.ofList (escaping.escapeAll object.key.toList),
        if object.size < 2 ^ 64 then object.size else 0) := by
  rw [List.map_map]
  refine Store.map_eq_of_forall₂ h fun object found hcontents => ?_
  obtain ⟨hkey, hsize⟩ := toMetadata_of_isContents escaping client hcontents
  exact Prod.ext hkey hsize

/-- What stands between the tags of a listing is read element by element. -/
theorem readListing_items {listing : Listing} (h : IsListing listing forest) :
    (client.readListing (forest.write escaping)).items.map (fun item => (item.key, item.size)) =
      listing.objects.map fun object => (String.ofList (escaping.escapeAll object.key.toList),
        if object.size < 2 ^ 64 then object.size else 0) := by
  have hplain : Plain contentsName forest := plain_of_forall h.contents
  have helements : xmlExtractElements (forest.write escaping) "Contents".toList =
      (forest.named "Contents".toList).map fun found => found.2.write escaping :=
    xmlExtractElements_write escaping hplain
  rw [← items_of_forall escaping client h.contents, Client.readListing, helements]
  simp

/-- What is written of the token is taken for the token, unless it is empty. -/
theorem readListing_nextToken {listing : Listing} (h : IsListing listing forest) :
    (client.readListing (forest.write escaping)).nextToken =
      (listing.token.filter (· ≠ "")).map fun token =>
        String.ofList (escaping.escapeAll token.toList) := by
  have htoken := h.token
  simp only [Client.readListing]
  cases hlisting : listing.token with
  | none =>
      rw [hlisting] at htoken
      have hnone : xmlExtract (forest.write escaping) "NextContinuationToken".toList = [] :=
        @xmlExtract_absent escaping tokenName _ htoken
      rw [hnone]
      rfl
  | some token =>
      rw [hlisting] at htoken
      have hsome : xmlExtract (forest.write escaping) "NextContinuationToken".toList =
          escaping.escapeAll token.toList := @xmlExtract_single escaping tokenName _ _ htoken
      rw [hsome]
      by_cases hempty : token = ""
      · subst hempty
        rfl
      · have hne : escaping.escapeAll token.toList ≠ [] := by
          intro hnil
          have hle := escaping.length_le_escapeAll token.toList
          rw [hnil, List.length_nil, Nat.le_zero, List.length_eq_zero_iff] at hle
          exact hempty (String.toList_inj.1 hle)
        rw [if_pos hne, Option.filter_some, if_pos (decide_eq_true hempty)]
        rfl

/-- A text that was written is the text exactly when nothing of it was escaped. -/
theorem ofList_escapeAll_eq_iff (text : String) :
    String.ofList (escaping.escapeAll text.toList) = text ↔ Unescaped escaping text := by
  rw [Unescaped, ← escaping.escapeAll_eq_self_iff, ← String.toList_inj, String.toList_ofList]

/-- One item is what its object is. -/
theorem item_eq_iff (object : StoredObject) :
    (String.ofList (escaping.escapeAll object.key.toList),
        if object.size < 2 ^ 64 then object.size else 0) = (object.key, object.size) ↔
      Unescaped escaping object.key ∧ object.size < 2 ^ 64 := by
  have hsize : (if object.size < 2 ^ 64 then object.size else 0) = object.size ↔
      object.size < 2 ^ 64 := by
    split_ifs with hsmall
    · exact iff_of_true rfl hsmall
    · exact iff_of_false (by omega) hsmall
  rw [Prod.mk.injEq, ofList_escapeAll_eq_iff, hsize]

/-- The token is what it was. -/
theorem token_eq_iff (token : Option String) :
    ((token.filter (· ≠ "")).map fun token => String.ofList (escaping.escapeAll token.toList)) =
        token ↔
      ∀ text ∈ token, Unescaped escaping text ∧ text ≠ "" := by
  cases token with
  | none => simp
  | some token =>
      rw [Option.filter_some]
      by_cases hempty : token = ""
      · simp [hempty]
      · simp [hempty, ofList_escapeAll_eq_iff]

end Reading

section Listing

variable {escaping : Escaping} {forest : Forest} {listing : Listing} {client : Client}
  {options : ListOptions} {statusCode : Int} {result : BlobListResult}

/-- **A listing is reported as it is exactly when nothing in a key or in the token is escaped, every
size has at most 64 bits, and the token is not empty.** -/
theorem s3List_reports_iff (hlisting : IsListing listing forest)
    (hstatus : 200 ≤ statusCode ∧ statusCode < 300)
    (hanswer : client.s3HttpRequest (listParams options) =
      .ok ⟨statusCode, String.ofList (forest.write escaping)⟩)
    (h : client.s3List options = .ok result) :
    Reports listing result ↔
      (∀ object ∈ listing.objects, Unescaped escaping object.key ∧ object.size < 2 ^ 64) ∧
        ∀ token ∈ listing.token, Unescaped escaping token ∧ token ≠ "" := by
  have hsuccess : S3Response.isSuccess ⟨statusCode, String.ofList (forest.write escaping)⟩ = true :=
    decide_eq_true hstatus
  have hresult : result = client.readListing (forest.write escaping) := by
    rw [Client.s3List, hanswer] at h
    simp only [bind, Except.bind, hsuccess] at h
    simpa using (Except.ok.inj h).symm
  have hitems := readListing_items escaping client hlisting
  have htoken := readListing_nextToken escaping client hlisting
  rw [← hresult] at hitems htoken
  constructor
  · rintro ⟨hreported, hnext⟩
    rw [hitems, List.map_inj_left] at hreported
    rw [htoken, token_eq_iff] at hnext
    exact ⟨fun object hobject => (item_eq_iff escaping object).1 (hreported object hobject), hnext⟩
  · rintro ⟨hobjects, hnext⟩
    constructor
    · rw [hitems, List.map_inj_left]
      exact fun object hobject => (item_eq_iff escaping object).2 (hobjects object hobject)
    · rw [htoken, token_eq_iff]
      exact hnext

end Listing

/-! ### A key with an ampersand -/

/-- A server that escapes what has to be escaped between tags. -/
def demoEscaping : Escaping where
  escape c :=
    if c = '&' then "&amp;".toList else if c = '<' then "&lt;".toList
    else if c = '>' then "&gt;".toList else [c]
  escape_eq c := by
    split_ifs with hamp hlt hgt
    · exact .inr ⟨"amp".toList, by decide, by decide⟩
    · exact .inr ⟨"lt".toList, by decide, by decide⟩
    · exact .inr ⟨"gt".toList, by decide, by decide⟩
    · exact .inl ⟨rfl, hlt, hamp⟩
  escape_digit c hc := by
    have hnone : ∀ d ∈ ['&', '<', '>'], d.isDigit = false := forall_mem_of_all (by decide)
    split_ifs with hamp hlt hgt
    · simp [hamp] at hc
    · simp [hlt] at hc
    · simp [hgt] at hc
    · rfl

/-- A bucket with one object of five bytes. -/
def demoListing (key : String) : Listing := ⟨[⟨key, 5⟩], none⟩

/-- The answer of a server: a declaration, a namespace, and the size before the key. -/
def demoForest (key : String) : Forest :=
  .markup ⟨"?xml version=\"1.0\"?".toList, ⟨'?', _, rfl, by decide⟩, by decide⟩ <|
  .element ⟨"ListBucketResult".toList, by decide, forall_mem_of_all (by decide)⟩
    ⟨" xmlns=\"s3\"".toList, .inr ⟨_, rfl⟩, by decide⟩
    (.element ⟨"IsTruncated".toList, by decide, forall_mem_of_all (by decide)⟩
      ⟨[], .inl rfl, by decide⟩
      (.text "false".toList .nil) <|
    .element contentsName ⟨[], .inl rfl, by decide⟩
      (.element sizeName ⟨[], .inl rfl, by decide⟩ (.text "5".toList .nil) <|
        .element keyName ⟨[], .inl rfl, by decide⟩ (.text key.toList .nil) .nil) .nil) .nil

/-- A client to whom that is answered. -/
def demoClient (key : String) : Client where
  s3HttpRequest _ := .ok ⟨200, String.ofList ((demoForest key).write demoEscaping)⟩
  parseHttpDate _ := 0
  noSize := 0

theorem demoForest_isListing (key : String) : IsListing (demoListing key) (demoForest key) where
  contents := by
    have hdigits : "5".toList = Nat.toDigits 10 5 := by decide
    exact .cons ⟨rfl, rfl, rfl, congrArg (fun digits => [textElement digits]) hdigits⟩ .nil
  token := rfl

theorem demoClient_s3List (key : String) : (demoClient key).s3List {} =
    .ok ((demoClient key).readListing ((demoForest key).write demoEscaping)) :=
  congrArg (fun body => Except.ok ((demoClient key).readListing body)) String.toList_ofList

theorem s3List_reports_plain :
    Reports (demoListing "a.txt")
        ((demoClient "a.txt").readListing ((demoForest "a.txt").write demoEscaping)) := by
  refine (@s3List_reports_iff demoEscaping _ _ (demoClient "a.txt") {} 200 _
    (demoForest_isListing "a.txt") (by decide) rfl (demoClient_s3List "a.txt")).2 ⟨?_, ?_⟩
  · exact List.forall_mem_singleton.2 ⟨forall_mem_of_all (by decide), by decide⟩
  · exact fun token htoken => nomatch htoken

/-- The key is reported with its entity. -/
theorem s3List_entity :
    IsListing (demoListing "a&b.txt") (demoForest "a&b.txt") ∧
    (demoClient "a&b.txt").s3List {} =
      .ok ((demoClient "a&b.txt").readListing ((demoForest "a&b.txt").write demoEscaping)) ∧
    ((demoClient "a&b.txt").readListing ((demoForest "a&b.txt").write demoEscaping)).items.map
      (fun item => (item.key, item.size)) = [("a&amp;b.txt", 5)] ∧
    ¬ Reports (demoListing "a&b.txt") ((demoClient "a&b.txt").readListing
      ((demoForest "a&b.txt").write demoEscaping)) := by
  have hlisting := demoForest_isListing "a&b.txt"
  have hitems := readListing_items demoEscaping (demoClient "a&b.txt") hlisting
  have hkeys : (demoListing "a&b.txt").objects.map (fun object =>
      (String.ofList (demoEscaping.escapeAll object.key.toList),
        if object.size < 2 ^ 64 then object.size else 0)) = [("a&amp;b.txt", 5)] := by decide
  refine ⟨hlisting, demoClient_s3List _, hitems.trans hkeys, fun hreports => ?_⟩
  have hreported := hreports.items
  rw [hitems, hkeys] at hreported
  revert hreported
  decide

end S3
end Blob
end Dbal
