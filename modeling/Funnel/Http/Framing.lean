import Funnel.Http.Head
import Funnel.Http.HopByHop
import Funnel.Text.Number

/-!
How far the body of an HTTP/1 message goes, and reading one that comes in chunks.
-/

namespace Funnel.Http

/-- Where a body ends. -/
inductive Framing where
  | length (n : Nat)
  | chunked
  /-- Where the connection does. -/
  | untilClose
deriving DecidableEq, Repr

/-- The elements of a value between its commas, trimmed. A value that cannot be read has none. -/
def naturals? (elements : List Bytes) : Option (List Nat) :=
  elements.mapM fun e =>
    if !e.isEmpty && e.all isDecimal then
      let n := e.foldl (fun n b => n * 10 + decimalValue b) 0
      if n < UInt64.size then some n else none
    else none

/-- The number that all values of `Content-Length` agree on. -/
def Headers.contentLength? (h : Headers) : Option Nat :=
  let values := h.values "content-length"
  if values.all fun v => v.all isReadableByte then
    match naturals? (values.flatMap elements) with
    | some (n :: rest) => if rest.all (· = n) then some n else none
    | _ => none
  else none

/-- The last transfer encoding is `chunked`. -/
def Headers.isChunked (h : Headers) : Bool :=
  match (h.values "transfer-encoding").getLast? with
  | some v => (elements v).getLast?.any fun e => e.map toLower = Bytes.ofLatin "chunked"
  | none => false

def Headers.has (h : Headers) (name : Name) : Bool := h.values name ≠ []

/-- Longer bodies are refused. -/
def maxLength : Nat := UInt64.size - 3

/-- The end of a response's body, by the method of the request and the head. -/
def Head.framing (head : Head) (method : Method) : Except HttpFault Framing :=
  let success := 200 ≤ head.status ∧ head.status ≤ 299
  if head.status = 101 ∨ head.status = 204 ∨ head.status = 304 then .ok (.length 0)
  else if method = "HEAD" ∨ (method = "CONNECT" ∧ success) then .ok (.length 0)
  else if head.headers.has "transfer-encoding" then
    if head.version = .http10 then .error .badTransferEncoding
    else .ok (if head.headers.isChunked then .chunked else .untilClose)
  else match head.headers.contentLength? with
    | some n => if n ≤ maxLength then .ok (.length n) else .error .headTooLarge
    | none =>
      if head.headers.has "content-length" then .error .badContentLength else .ok .untilClose

/-- What the bytes of a body that have come so far are. -/
inductive BodyRead where
  | complete (body : Bytes)
  | incomplete
  | invalid

def BodyRead.prepend (b : Bytes) : BodyRead → BodyRead
  | complete body => complete (b ++ body)
  | r => r

/-- The size in a chunk's first line, in hexadecimal, and what is behind the digits. -/
def readChunkSize (bs : Bytes) : Option (Nat × Bytes) :=
  let isHex (b : UInt8) : Bool := Text.isDigit 16 (Char.ofNat b.toNat)
  let digits := bs.takeWhile isHex
  let size := Text.ofDigits 16 (digits.map fun b => Char.ofNat b.toNat)
  if digits ≠ [] ∧ size < UInt64.size then some (size, bs.dropWhile isHex) else none

/-- No longer extension of a chunk's first line is read. -/
def extensionLimit : Nat := 16384

/-- The end of a chunk's first line: blanks, an extension behind a semicolon, and a line end. -/
def scanChunkLineEnd (bs : Bytes) : Scan Unit :=
  let lineEnd (bs : Bytes) : Scan Unit :=
    (Scan.byte (· = 0x0D) .badHeader bs).bind fun _ bs =>
      (Scan.byte (· = 0x0A) .badHeader bs).bind fun _ bs => .ok () bs
  match bs.dropWhile isBlank with
  | 0x3B :: rest =>
    let isExtension (b : UInt8) : Bool := b ≠ 0x0D && b ≠ 0x0A
    if extensionLimit ≤ (rest.takeWhile isExtension).length then .bad .badHeader
    else lineEnd (rest.dropWhile isExtension)
  | rest => lineEnd rest

/-- The trailer section behind the last chunk. -/
def readTrailers (bs : Bytes) : BodyRead :=
  match scanFields bs .empty maxFields with
  | .ok _ _ => .complete []
  | .more => .incomplete
  | .bad _ => .invalid

/-- Chunks up to the empty one and the trailers behind it. Each chunk takes at least one byte. -/
def readChunks : (fuel : Nat) → Bytes → BodyRead
  | 0, _ => .incomplete
  | fuel + 1, bs =>
    if bs = [] then .incomplete
    else match readChunkSize bs with
      | none => .invalid
      | some (size, rest) =>
        match scanChunkLineEnd rest with
        | .more => .incomplete
        | .bad _ => .invalid
        | .ok _ rest =>
          if size = 0 then readTrailers rest
          else if rest.length < size then .incomplete
          else match rest.drop size with
            | [] => .incomplete
            | [0x0D] => .incomplete
            | 0x0D :: 0x0A :: next => (readChunks fuel next).prepend (rest.take size)
            | _ => .invalid

/-- The body at the front of the bytes, of which no more will come if `closed`. -/
def Framing.read (f : Framing) (bs : Bytes) (closed : Bool) : BodyRead :=
  match f with
  | length n => if n ≤ bs.length then .complete (bs.take n) else .incomplete
  | chunked => readChunks (bs.length + 1) bs
  | untilClose => if closed then .complete bs else .incomplete

end Funnel.Http
