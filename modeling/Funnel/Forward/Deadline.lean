import Funnel.Connector.Basic
import Funnel.Exchange.Basic
import Funnel.Timed

/-!
The two deadlines of a forward that needs a new connection. Connecting has a deadline of its own,
and the whole forward, up to the head of the response, has another. The deadline of connecting is
told by a fault that the client passes on as the source of its own error. A request that the client
sends to no one fails at once. Times are in milliseconds.
-/

namespace Funnel.Forward

/-- What an origin does for a request on a new connection: how dialing goes, and then how the
exchange does on a connection that speaks a protocol. -/
structure Encounter (Head : Type) where
  dial : Connector.Dial
  exchange : Protocol → Timed (Except ClientError Head)

namespace Encounter

variable {β Head : Type}

/-- What connecting comes to where nobody else connects: no call waits for admission then. -/
def connect (limit : Nat) (e : Encounter Head) : Nat × Except Fault Protocol :=
  Timed.within limit (.error (Connector.new limit).timeout) (e.dial.takes.map (·, e.dial.result))

/-- What the client makes of it: an error as soon as there is no connection, else what the exchange
comes to. -/
def client (connectLimit : Nat) (r : Http.Request β) (e : Encounter Head) :
    Timed (Except ClientError Head) :=
  match Exchange.refusal? r with
  | some stage => some (0, .error ⟨stage, none⟩)
  | none => Timed.andThen (e.connect connectLimit) fun
    | .error f => some (0, .error ⟨.connect, some f⟩)
    | .ok p => e.exchange p

/-- What a client's result means for the forward. -/
def judge (result : Except ClientError Head) : Except Failure Head :=
  result.mapError ClientError.toFailure

/-- What the client comes to, and what it means. -/
def verdict (connectLimit : Nat) (r : Http.Request β) (e : Encounter Head) :
    Timed (Except Failure Head) :=
  (e.client connectLimit r).map fun (t, result) => (t, judge result)

/-- When a forward is over, and how. -/
def forward (connectLimit responseLimit : Nat) (r : Http.Request β) (e : Encounter Head) :
    Nat × Except Failure Head :=
  Timed.within responseLimit (.error (.responseTimeout (.ofMillis responseLimit)))
    (e.verdict connectLimit r)

end Encounter

end Funnel.Forward
