import Funnel.Fault.Basic
import Funnel.Http.HopByHop
import Funnel.Http.Message

/-!
Handing an origin's response on to the local client: the head without what belongs to one hop, in
HTTP/1.1, and the body frame by frame. Gateway failures take the same way.
-/

namespace Funnel

open Http

/-- A body as it is read: frames, and the faults that reading runs into. -/
abbrev Stream := List (Except Fault Frame)

namespace Stream

/-- A body of one piece; nothing at all if it is empty. -/
def ofBytes (b : Bytes) : Stream := if b = [] then [] else [.ok (.data b)]

/-- What a reader gets: everything up to the first fault, and that fault. -/
def polled : Stream → Stream
  | [] => []
  | .ok f :: rest => .ok f :: polled rest
  | .error e :: _ => [.error e]

/-- Faults pass behind a carrier that shows the same text. -/
def carry (s : Stream) : Stream := s.map (Except.mapError Fault.carried)

end Stream

/-- The response for the local client. -/
def relay (r : Response Stream) : Response Stream :=
  { r with
    version := .http11
    headers := r.headers.stripHopByHop .response
    body := r.body.carry }

end Funnel
