import Funnel.Exchange.Basic

/-!
An exchange over HTTP/1. The request is put together and written, and then the response is read;
whatever is there to read before that is a fault.
-/

namespace Funnel.Exchange

open Http

/-- How many bytes of a body of unknown length are sent; no number if all are. Without any framing
of its own such a body is sent in chunks, where the method may have one and the version knows
them. -/
def sendLimit? (r : Request Body) : Option Nat :=
  if r.version ≠ .http11 then some (r.headers.contentLength?.getD 0)
  else if r.headers.has "transfer-encoding" then none
  else match r.headers.contentLength? with
    | some n => some n
    | none =>
      if r.method = "GET" ∨ r.method = "HEAD" ∨ r.method = "CONNECT" then some 0 else none

/-- The fault of the body, if sending gets to it. -/
def bodyFault? (r : Request Body) : Option Fault :=
  match sendLimit? r with
  | none => r.body.fault
  | some n => if r.body.bytes.length < n then r.body.fault else none

/-- What there is to read on a connection that nothing was asked on. -/
def unasked? (w : Wire) : Option Outcome :=
  match (w.read 1).1 with
  | .eof => some (sendFailed .incompleteMessage none)
  | .bytes [] => some (sendFailed .incompleteMessage none)
  | .bytes _ => some (sendFailed .unexpectedMessage none)
  | .fault f => some (sendFailed .connection (some f))
  | .pending => none

/-- The fault that writing runs into. -/
def writeFault? (w : Wire) : Option Fault :=
  match (w.write 1).1 with
  | .error f => some f
  | .ok 0 => some (.last (.io .writeZero))
  | .ok _ => none

/-- No longer head is read. -/
def maxHead : Nat := 417792

/-- The head of the final response. Heads of interim responses are passed over; the first component
is what stands behind them. -/
def scanFinalHead (method : Method) : (fuel : Nat) → Bytes → Bytes × Scan (Head × Framing)
  | 0, bs => (bs, .more)
  | fuel + 1, bs =>
    if bs = [] then (bs, .more)
    else match scanHead bs with
      | .more => (bs, .more)
      | .bad e => (bs, .bad e)
      | .ok head rest =>
        if head.status < 200 ∧ head.status ≠ 101 then scanFinalHead method fuel rest
        else match head.framing method with
          | .ok framing => (bs, .ok (head, framing) rest)
          | .error e => (bs, .bad e)

/-- An empty line is among the bytes. -/
def hasEmptyLine : Bytes → Bool
  | [] => false
  | 0x0D :: 0x0A :: 0x0D :: 0x0A :: _ => true
  | 0x0A :: 0x0A :: _ => true
  | _ :: rest => hasEmptyLine rest

/-- What is known of a head once `bs` has come. If a part of it, `seen` bytes long, was looked at
before, it is looked at again only when the empty line at its end has come. -/
def scanGrown (method : Method) (bs : Bytes) (seen : Nat) : Bytes × Scan (Head × Framing) :=
  if 0 < seen ∧ !hasEmptyLine (bs.drop (seen - 3)) then (bs, .more)
  else scanFinalHead method (bs.length + 1) bs

/-- How reading a body ends when the pieces of the script have come. -/
inductive Ending where
  | closed
  | broken
  | silent
deriving DecidableEq, Repr

/-- The bytes of all pieces up to the first fault or empty piece, and how reading ends there. -/
def gather (eof : Bool) : List (Except Fault Bytes) → Bytes × Ending
  | [] => ([], if eof then .closed else .silent)
  | .error _ :: _ => ([], .broken)
  | .ok [] :: _ => ([], .closed)
  | .ok b :: rest =>
    let (more, ending) := gather eof rest
    (b ++ more, ending)

/-- The body behind a head. -/
def readBody (status : Nat) (framing : Framing) (bs : Bytes) (ending : Ending) : Outcome :=
  match framing.read bs (ending = .closed) with
  | .complete body => .answered status (some body)
  | .invalid => .answered status none
  | .incomplete => if ending = .silent then .silent else .answered status none

/-- The response in what has come, `bs`, of which `seen` bytes were looked at before, and in what
will come, piece by piece. -/
def readResponse (method : Method) (eof : Bool) (bs : Bytes) (seen : Nat)
    (reads : List (Except Fault Bytes)) : Outcome :=
  match scanGrown method bs seen with
  | (_, .bad e) => sendFailed e none
  | (_, .ok (head, framing) rest) =>
    let (more, ending) := gather eof reads
    readBody head.status framing (rest ++ more) ending
  | (left, .more) =>
    if maxHead ≤ left.length then sendFailed .headTooLarge none
    else match reads with
      | [] => if eof then sendFailed .incompleteMessage none else .silent
      | .error f :: _ => sendFailed .connection (some f.asIo)
      | .ok [] :: _ => sendFailed .incompleteMessage none
      | .ok piece :: rest => readResponse method eof (left ++ piece) left.length rest
termination_by reads

/-- The whole exchange on a new connection. -/
def overHttp1 (r : Request Body) (w : Wire) : Outcome :=
  if r.version = .http2 then .failed ⟨.unsupportedVersion, none⟩
  else match unasked? w with
    | some outcome => outcome
    | none =>
      match bodyFault? r with
      | some f => sendFailed .readingUserBody (some f)
      | none =>
        match writeFault? w with
        | some f => sendFailed .writingBody (some f)
        | none => readResponse r.method w.script.eof [] 0 w.script.reads

end Funnel.Exchange
