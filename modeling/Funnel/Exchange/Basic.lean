import Funnel.Forward.ClientError
import Funnel.Http.Framing
import Funnel.Wire

/-!
One exchange of the pooled client on a connection of its own: what is sent, and what can come of
it.
-/

namespace Funnel

open Http

/-- What reading the body of a request yields: bytes, and then the end or a fault. -/
structure Exchange.Body where
  bytes : Bytes
  fault : Option Fault

/-- What comes of an exchange. -/
inductive Exchange.Outcome where
  /-- A response, its body whole or broken off. -/
  | answered (status : Nat) (body : Option Bytes)
  | failed (error : Forward.ClientError)
  /-- Nothing will come. -/
  | silent

namespace Exchange

/-- The exchange fails while it is sent or its answer is read. -/
def sendFailed (h : HttpFault) (cause : Option Fault) : Outcome :=
  .failed ⟨.sendRequest, some (match cause with
    | some f => .causedBy (.http h) f
    | none => .last (.http h))⟩

/-- Requests that the client sends to no one: old and new versions, a tunnel in HTTP/1.0, and URIs
that do not say where to. -/
def refusal? {β : Type} (r : Request β) : Option Forward.Stage :=
  if r.version = .http09 ∨ r.version = .http3 then some .unsupportedVersion
  else if r.version = .http10 ∧ r.method = "CONNECT" then some .unsupportedMethod
  else if r.uri.authority.isNone then some .absoluteUriRequired
  else if r.uri.scheme.isNone ∧ r.method ≠ "CONNECT" then some .absoluteUriRequired
  else none

end Exchange

end Funnel
