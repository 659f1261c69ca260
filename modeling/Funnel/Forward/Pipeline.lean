import Funnel.Director
import Funnel.Forward.Failure
import Funnel.Http.HopByHop
import Funnel.Metrics
import Funnel.Relay

/-!
Forwarding one request: it is pointed at the origin, stripped of what belongs to one hop, and sent;
the local client gets the origin's answer, or a gateway failure that takes the same way.
-/

namespace Funnel.Forward

open Http

/-- What sending a request comes to. -/
abbrev Outcome := Except Failure (Response Stream)

/-- The request that is sent. -/
def outbound {β : Type} (d : Director) (r : Request β) : Request β :=
  let r := d.retarget r
  { r with headers := r.headers.stripHopByHop .request }

/-- The answer that stands in for the origin's. -/
def Failure.response (f : Failure) : Response Stream :=
  let r := (GatewayFailure.ofFailure f).response
  { status := r.status, version := r.version, headers := r.headers, body := .ofBytes r.body }

/-- The response for the local client. -/
def inbound : Outcome → Response Stream
  | .ok r => relay r
  | .error f => relay f.response

/-- The response to a request, where `send` is what the origin does. -/
def forward {β : Type} (d : Director) (send : Request β → Outcome) (r : Request β) :
    Response Stream :=
  inbound (send (outbound d r))

/-- What metrics count as soon as sending a request has come to an outcome. -/
def Outcome.events : Outcome → List MetricEvent
  | .ok _ => []
  | .error f => [.failure f.kind]

end Funnel.Forward
