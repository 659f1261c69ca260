import Funnel.Server
import Funnel.StopSignal

/-!
A server that is subscribed to the stop signal. Between two clients the accepting server looks at
its subscription, and takes whatever it receives for the stop signal: a message, the report that
some were missed, or the end of the channel. Only while nothing has come it goes on.
-/

namespace Funnel

structure Stoppable where
  server : Server
  stop : StopSignal
  /-- The server's own subscription. -/
  subscriber : Nat

/-- What can happen to the two. -/
inductive Stoppable.Event where
  /-- Somebody else does something with the stop signal. -/
  | signal (e : StopSignal.Event)
  /-- Something happens to the server that is not about stopping it. -/
  | serve (e : Server.Event)
  /-- The server looks at its subscription. -/
  | hear
deriving DecidableEq, Repr

namespace Stoppable

/-- A server with a new subscription, from some handle. -/
def start (grace : Duration) (stop : StopSignal) : Stoppable :=
  ⟨.new grace, stop.subscribe, stop.subscribers.length⟩

/-- The server receives, and stops unless nothing has come. -/
def hear (a : Stoppable) : Stoppable :=
  match a.stop.receive a.subscriber with
  | some (.empty, stop) => { a with stop }
  | some (_, stop) => { a with server := a.server.run [.requestStop, .takeStop], stop }
  | none => a

/-- An event that cannot happen changes nothing. -/
def step (a : Stoppable) : Event → Stoppable
  | .signal e =>
    if e.subscriber? = some a.subscriber then a else { a with stop := a.stop.step e }
  | .serve .requestStop | .serve .takeStop => a
  | .serve e => { a with server := a.server.step e }
  | .hear => if a.server.stage = .accepting then a.hear else a

/-- The events one after the other. -/
def run (a : Stoppable) (events : List Event) : Stoppable := events.foldl step a

end Stoppable

end Funnel
