/-
# Requests on the wire

`parseRequest` of `src/daemon/http/request/request_parser.hpp`, on the bytes that were received.
It refuses a second `Content-Length` and every `Transfer-Encoding`, where the name is spelled
without white space around it, and reads the length with `std::stoull`.
-/

import Dbal.Store.UniqueIndex
import Mathlib.Algebra.Group.Nat.Defs
import Mathlib.Data.List.DropRight
import Mathlib.Data.List.Infix
import Mathlib.Data.List.Basic

namespace Dbal
namespace Daemon
namespace Http

/-- A `std::string`, byte by byte. -/
abbrev Bytes := List UInt8

/-- The bytes of an ASCII text. -/
def ascii (text : String) : Bytes := text.toList.map fun c => UInt8.ofNat c.toNat

/-- `HttpRequest`. -/
structure HttpRequest where
  method : Bytes
  path : Bytes
  version : Bytes
  headers : Std.TreeMap Bytes Bytes
  body : Bytes

/-- `HttpResponse`, as `HttpResponse::error` makes it. -/
structure HttpResponse where
  statusCode : Nat
  statusText : String
  body : String

def HttpResponse.error (code : Nat) (text message : String) : HttpResponse :=
  ⟨code, text, "\x7b\"error\":\"" ++ message ++ "\"\x7d"⟩

def maxRequestSize : Nat := 65536
def maxHeaders : Nat := 100
def maxHeaderSize : Nat := 8192
def maxPathLength : Nat := 2048
def maxBodySize : Nat := 10485760

/-! ### Characters -/

/-- `isspace` in the C locale. -/
def isSpace (b : UInt8) : Bool := b = 32 || (9 ≤ b && b ≤ 13)

/-- `isdigit`. -/
def isDigit (b : UInt8) : Bool := 48 ≤ b && b ≤ 57

/-- `tolower` in the C locale. -/
def toLower (b : UInt8) : UInt8 := if 65 ≤ b && b ≤ 90 then b + 32 else b

/-- The text without the bytes of a kind at its ends. -/
def trim (p : UInt8 → Bool) (text : Bytes) : Bytes := (text.dropWhile p).rdropWhile p

/-! ### Numbers -/

/-- The parts of a text that `strtoull` tells apart: white space, a sign, digits, and what it does
not read. -/
structure NumberText where
  space : Bytes
  sign : Option UInt8
  digits : Bytes
  rest : Bytes

/-- The parts behind the white space and the sign. -/
def NumberText.ofDigits (space : Bytes) (sign : Option UInt8) (text : Bytes) : NumberText :=
  ⟨space, sign, text.takeWhile isDigit, text.dropWhile isDigit⟩

def numberText (text : Bytes) : NumberText :=
  match text.dropWhile isSpace with
  | 43 :: rest => .ofDigits (text.takeWhile isSpace) (some 43) rest
  | 45 :: rest => .ofDigits (text.takeWhile isSpace) (some 45) rest
  | rest => .ofDigits (text.takeWhile isSpace) none rest

/-- What `std::stoull` throws. -/
inductive StoullError where
  | invalidArgument
  | outOfRange

/-- `std::stoull`; a minus sign negates modulo the word. -/
def stoull (text : Bytes) : Except StoullError Nat :=
  let number := numberText text
  if number.digits = [] then .error .invalidArgument
  else
    let n := number.digits.foldl (fun n b => 10 * n + (b.toNat - 48)) 0
    if n ≥ 2 ^ 64 then .error .outOfRange
    else if number.sign = some 45 then .ok ((2 ^ 64 - n) % 2 ^ 64)
    else .ok n

/-! ### Lines -/

/-- The lines that end at a CRLF, with the bytes after each; `line` is what the first line has so
far, backwards. -/
def crlfLinesFrom (line : Bytes) : Bytes → List (Bytes × Bytes)
  | [] => []
  | 13 :: 10 :: rest => (line.reverse, rest) :: crlfLinesFrom [] rest
  | b :: rest => crlfLinesFrom (b :: line) rest

/-- What the calls `find("\r\n", pos)` find one after the other. -/
def crlfLines (data : Bytes) : List (Bytes × Bytes) := crlfLinesFrom [] data

/-- The words that `>>` reads from a stream. -/
def words (line : Bytes) : List Bytes := (line.splitOnP isSpace).filter (· ≠ [])

/-- A header line at its first colon. -/
def splitField (line : Bytes) : Option (Bytes × Bytes) :=
  match line.dropWhile (· ≠ 58) with
  | [] => none
  | _ :: value => some (line.takeWhile (· ≠ 58), value)

/-! ### Headers -/

/-- What the loop over the headers has found. -/
structure HeaderState where
  headers : Std.TreeMap Bytes Bytes := {}
  headerCount : Nat := 0
  hasContentLength : Bool := false
  hasTransferEncoding : Bool := false
  contentLength : Nat := 0

def contentLengthName : Bytes := ascii "content-length"
def transferEncodingName : Bytes := ascii "transfer-encoding"

/-- The check of a length; `size_t` has 64 bits. -/
def readContentLength (state : HeaderState) (value : Bytes) : Except HttpResponse HeaderState :=
  if state.hasContentLength then
    .error (.error 400 "Bad Request" "Multiple Content-Length headers")
  else
    match stoull value with
    | .error .invalidArgument => .error (.error 400 "Bad Request" "Invalid Content-Length")
    | .error .outOfRange => .error (.error 400 "Bad Request" "Content-Length out of range")
    | .ok cl =>
        if cl > maxBodySize then
          .error (.error 413 "Request Entity Too Large" "Content-Length too large")
        else if cl > 2 ^ 64 - 1 then
          .error (.error 413 "Request Entity Too Large" "Content-Length exceeds platform limit")
        else .ok { state with hasContentLength := true, contentLength := cl }

/-- A field: its value has no spaces at its ends from here on. -/
def readField (state : HeaderState) (key value : Bytes) : Except HttpResponse HeaderState :=
  let value := trim (· = 32) value
  if ascii "\r\n" <:+: value then .error (.error 400 "Bad Request" "CRLF in header value")
  else if 0 ∈ value then .error (.error 400 "Bad Request" "Null byte in header")
  else
    let keyLower := key.map toLower
    match if keyLower = contentLengthName then readContentLength state value else .ok state with
    | .error response => .error response
    | .ok state =>
        .ok { state with
          hasTransferEncoding := state.hasTransferEncoding || keyLower = transferEncodingName
          headers := state.headers.insert key value }

/-- One header line. -/
def readHeader (state : HeaderState) (line : Bytes) : Except HttpResponse HeaderState :=
  let state := { state with headerCount := state.headerCount + 1 }
  if state.headerCount > maxHeaders then
    .error (.error 431 "Request Header Fields Too Large" "Too many headers")
  else if line.length > maxHeaderSize then
    .error (.error 431 "Request Header Fields Too Large" "Header too large")
  else
    match splitField line with
    | none => .ok state
    | some (key, value) => readField state key value

/-- The loop over the headers, up to the first empty line, with the bytes that are left. -/
def readHeaders (state : HeaderState) (rest : Bytes) :
    List (Bytes × Bytes) → Except HttpResponse (HeaderState × Bytes)
  | [] => .ok (state, rest)
  | (line, after) :: lines =>
      if line = [] then .ok (state, after)
      else do
        let state ← readHeader state line
        readHeaders state after lines

/-- `parseRequest`; without an answer, the peer has closed before the end of the headers. -/
def parseRequest (data : Bytes) : Except (Option HttpResponse) HttpRequest :=
  if ¬ ascii "\r\n\r\n" <:+: data then
    if data.length ≥ maxRequestSize then
      .error (some (.error 413 "Request Entity Too Large" "Request too large"))
    else .error none
  else
    match crlfLines data with
    | [] => .error (some (.error 400 "Bad Request" "Invalid request format"))
    | (requestLine, after) :: lines =>
        match words requestLine with
        | method :: path :: version :: _ =>
            if 0 ∈ path then .error (some (.error 400 "Bad Request" "Null byte in path"))
            else if path.length > maxPathLength then
              .error (some (.error 414 "URI Too Long" "Path too long"))
            else
              match readHeaders {} after lines with
              | .error response => .error (some response)
              | .ok (state, rest) =>
                  if state.hasTransferEncoding && state.hasContentLength then
                    .error (some (.error 400 "Bad Request"
                      "Both Transfer-Encoding and Content-Length present"))
                  else if state.hasTransferEncoding then
                    .error (some (.error 501 "Not Implemented" "Transfer-Encoding not supported"))
                  else .ok ⟨method, path, version, state.headers, rest⟩
        | _ => .error (some (.error 400 "Bad Request" "Invalid request line"))

end Http
end Daemon
end Dbal
