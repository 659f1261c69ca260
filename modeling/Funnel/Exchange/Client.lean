import Funnel.Connector.Run
import Funnel.Exchange.Http1
import Funnel.Exchange.Http2

/-!
The pooled client with an empty pool: a request that can be sent makes a connection through the
connector, under its deadline, and is exchanged on it.
-/

namespace Funnel.Exchange

open Http

/-- The exchange on a connection that speaks a protocol. -/
def overProtocol (w : Wire) (r : Request Body) : Protocol → Outcome
  | .http1 => overHttp1 r w
  | .http2 => overHttp2 r w

/-- What a request comes to, and the connector afterwards. `patience` is how long its sender waits,
in milliseconds. -/
def send (connector : Connector) (patience : Nat) (d : Connector.Dial) (w : Wire)
    (r : Request Body) : Outcome × Connector :=
  match refusal? r with
  | some stage => (.failed ⟨stage, none⟩, connector)
  | none =>
    let id := connector.calls.length
    let after := (connector.call d).settle.advance patience
    let outcome := match after.answer? id with
      | some (.ok p) => overProtocol w r p
      | some (.error f) => .failed ⟨.connect, some f⟩
      | none => .silent
    (outcome, after)

end Funnel.Exchange
