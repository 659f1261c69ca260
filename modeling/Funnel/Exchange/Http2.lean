import Funnel.Exchange.Basic

/-!
An exchange over HTTP/2 with a peer that never gets as far as a response: it fails to take the
preface, it closes, it sends what is no frame, or it says nothing.
-/

namespace Funnel.Exchange

open Http

/-- The bytes before a frame's payload. -/
def frameHeader : Nat := 9

/-- The longest payload that a peer may send. -/
def maxPayload : Nat := 16384

/-- The first frame announces a payload that is too long. -/
def isOversized (bs : Bytes) : Bool :=
  match bs with
  | a :: b :: c :: _ =>
    frameHeader ≤ bs.length && maxPayload < a.toNat * 65536 + b.toNat * 256 + c.toNat
  | _ => false

/-- Reading runs into an end, a fault or what is no frame. -/
def breaksOff (eof : Bool) (bs : Bytes) : List (Except Fault Bytes) → Bool
  | [] => eof || isOversized bs
  | .error _ :: _ => true
  | .ok [] :: _ => true
  | .ok b :: rest => breaksOff eof (bs ++ b) rest

/-- The request is given up since its connection is gone. -/
def connectionClosed : Outcome :=
  .failed ⟨.canceled, some (.causedBy (.http .canceled) (.last (.text "connection closed")))⟩

/-- The stream is reset since the body of the request cannot be read. -/
def streamReset : Fault :=
  .last (.text "stream error sent by user: unexpected internal error encountered")

/-- The whole exchange on a new connection. -/
def overHttp2 (r : Request Body) (w : Wire) : Outcome :=
  match (w.write 1).1 with
  | .error f => sendFailed .connection (some f)
  | .ok 0 => sendFailed .connection (some (.last (.io .writeZero)))
  | .ok _ =>
    if breaksOff w.script.eof [] w.script.reads then connectionClosed
    else if r.body.fault.isSome then sendFailed .http2 (some streamReset)
    else .silent

end Funnel.Exchange
