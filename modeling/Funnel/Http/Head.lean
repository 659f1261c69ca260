import Funnel.Fault.Basic
import Funnel.Http.Headers
import Funnel.Http.Message

/-!
Reading the head of an HTTP/1 response: a status line and header fields, up to an empty line. The
bytes may end anywhere; a fault is found as soon as no more bytes could mend it.
-/

namespace Funnel.Http

/-- What the bytes so far say. -/
inductive Scan (α : Type) where
  | ok (value : α) (rest : Bytes)
  /-- More bytes are needed. -/
  | more
  | bad (fault : HttpFault)

namespace Scan

def bind {α β : Type} (s : Scan α) (f : α → Bytes → Scan β) : Scan β :=
  match s with
  | ok a rest => f a rest
  | more => more
  | bad e => bad e

/-- One byte that `p` holds of. -/
def byte (p : UInt8 → Bool) (fault : HttpFault) : Bytes → Scan UInt8
  | [] => more
  | b :: rest => if p b then ok b rest else bad fault

/-- A line feed, with or without a carriage return in front. -/
def newline (fault : HttpFault) : Bytes → Scan Unit
  | [] => more
  | 0x0A :: rest => ok () rest
  | 0x0D :: rest => (byte (· = 0x0A) fault rest).bind fun _ rest => ok () rest
  | _ => bad fault

end Scan

/-- Past empty lines. -/
def skipEmptyLines : Bytes → Scan Unit
  | [] => .more
  | [0x0D] => .more
  | 0x0D :: 0x0A :: rest => skipEmptyLines rest
  | 0x0D :: _ => .bad .badHeader
  | 0x0A :: rest => skipEmptyLines rest
  | bs => .ok () bs

/-- The two versions that a response may have. Eight bytes decide, fewer may already be wrong. -/
def scanVersion (bs : Bytes) : Scan Version :=
  if bs.length < 8 then
    if bs.isPrefixOf (Bytes.ofLatin "HTTP/1.") then .more else .bad .badVersion
  else if bs.take 8 = Bytes.ofLatin "HTTP/1.1" then .ok .http11 (bs.drop 8)
  else if bs.take 8 = Bytes.ofLatin "HTTP/1.0" then .ok .http10 (bs.drop 8)
  else .bad .badVersion

def decimalValue (b : UInt8) : Nat := b.toNat - 48

/-- Three digits. -/
def scanStatus (bs : Bytes) : Scan Nat :=
  (Scan.byte isDecimal .badStatus bs).bind fun a bs =>
    (Scan.byte isDecimal .badStatus bs).bind fun b bs =>
      (Scan.byte isDecimal .badStatus bs).bind fun c bs =>
        .ok (decimalValue a * 100 + decimalValue b * 10 + decimalValue c) bs

/-- The rest of the status line: nothing, or a space and any text. -/
def scanReason : Bytes → Scan Unit
  | [] => .more
  | 0x20 :: rest => Scan.newline .badStatus (rest.dropWhile isValueByte)
  | bs => Scan.newline .badStatus bs

/-- A name, a colon and a value without the blanks around it. -/
def scanField (bs : Bytes) : Scan (Bytes × Bytes) :=
  let name := bs.takeWhile isTokenByte
  if name = [] then if bs = [] then .more else .bad .badHeader
  else (Scan.byte (· = 0x3A) .badHeader (bs.dropWhile isTokenByte)).bind fun _ rest =>
    let value := rest.takeWhile isValueByte
    (Scan.newline .badHeader (rest.dropWhile isValueByte)).bind fun _ rest =>
      .ok (name, trimBlanks value) rest

/-- No head has more fields. -/
def maxFields : Nat := 100

/-- At most `room` fields and the empty line behind them. -/
def scanFields (bs : Bytes) (h : Headers) : (room : Nat) → Scan Headers
  | 0 =>
    match Scan.newline .badHeader bs with
    | .bad _ => (scanField bs).bind fun _ _ => .bad .headTooLarge
    | .ok _ rest => .ok h rest
    | .more => .more
  | room + 1 =>
    match bs with
    | 0x0A :: _ | 0x0D :: _ => (Scan.newline .badHeader bs).bind fun _ rest => .ok h rest
    | _ =>
      match scanField bs with
      | .more => .more
      | .bad e => .bad e
      | .ok (name, value) rest =>
        match Name.ofBytes? name with
        | some n => scanFields rest (h.append n value) room
        | none => .bad .headTooLarge

/-- The head of a response. -/
structure Head where
  version : Version
  status : Nat
  headers : Headers

def scanHead (bs : Bytes) : Scan Head :=
  (skipEmptyLines bs).bind fun _ bs =>
    (scanVersion bs).bind fun version bs =>
      (Scan.byte (· = 0x20) .badVersion bs).bind fun _ bs =>
        (scanStatus bs).bind fun status bs =>
          (scanReason bs).bind fun _ bs =>
            (scanFields bs .empty maxFields).bind fun headers bs =>
              if status < 100 then .bad .badStatus else .ok ⟨version, status, headers⟩ bs

end Funnel.Http
