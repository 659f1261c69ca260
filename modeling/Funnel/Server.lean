import Funnel.Duration
import Funnel.Log.Line
import Funnel.Tracker.Basic

/-!
The server for local clients, step by step. It accepts connections, each served by a task of its
own, until it takes the stop signal. From then on it accepts none, tells every connection that is
open to come to its end, and waits for them, but no longer than a grace period.

The server and the tasks of its connections take their steps in any order. Times are in nanoseconds.
-/

namespace Funnel

/-- What the server is at. -/
inductive Server.Stage where
  | accepting
  /-- Accepting failed, and is not tried again before `resume`. -/
  | pausing (resume : Nat)
  /-- The stop signal was taken at `since`. The server waits for its connections; it is awake if it
  was woken since it last looked at them, or has not looked yet. -/
  | draining (since : Nat) (awake : Bool)
  /-- The server ended at `time`: no connection was left, or its grace period was over. -/
  | returned (since time : Nat) (drained : Bool)
deriving DecidableEq, Repr

/-- What the task of a connection is at. -/
inductive Server.Phase where
  /-- It has not run yet. -/
  | fresh
  /-- It serves one request after the other, and waits to be told that the server drains. -/
  | serving
  /-- It serves no request after the one it is at. -/
  | finishing
deriving DecidableEq, Repr

/-- An open connection of a local client. -/
structure Server.Inbound where
  id : Nat
  phase : Server.Phase
  /-- Its task was woken since it last ran, or has not run yet. -/
  awake : Bool
deriving DecidableEq, Repr

structure Server where
  /-- How long the server waits for open connections. -/
  grace : Nat
  now : Nat
  stage : Server.Stage
  /-- A stop signal is there to be taken. -/
  stopRequested : Bool
  /-- Clients that have connected and were not accepted yet. -/
  waiting : Nat
  /-- How many connections were ever accepted. -/
  accepted : Nat
  /-- What the tasks of the connections watch: the server drains. -/
  drains : Bool
  trackers : Trackers
  /-- Connections that are open, in the order of accepting. -/
  connections : List Server.Inbound

/-- What can happen to a server. -/
inductive Server.Event where
  /-- A client connects. -/
  | arrive
  /-- The server accepts a client. -/
  | accept
  /-- Accepting a client fails. -/
  | acceptFails
  /-- Somebody wants the server to stop. -/
  | requestStop
  /-- The server takes the stop signal. -/
  | takeStop
  /-- The draining server looks whether it can end. -/
  | look
  /-- The task of the connection with this number runs. -/
  | run (id : Nat)
  /-- The connection with this number ends. -/
  | finish (id : Nat)
  /-- Time passes. -/
  | advance (span : Nat)
deriving DecidableEq, Repr

namespace Server

def new (grace : Duration) : Server where
  grace := grace.nanos
  now := 0
  stage := .accepting
  stopRequested := false
  waiting := 0
  accepted := 0
  drains := false
  trackers := .new
  connections := []

/-- The server's own tracker. -/
def tracker : Nat := 0

/-- How many connections the server's tracker counts. -/
def tracked (s : Server) : Nat := s.trackers.active tracker

/-- The pause after an accept that failed. -/
def pause : Nat := 50000000

namespace Stage

/-- Clients can connect. -/
def isListening : Stage → Bool
  | accepting | pausing _ => true
  | _ => false

def isReturned : Stage → Bool
  | returned _ _ _ => true
  | _ => false

/-- A draining server is told that something has changed. -/
def wake : Stage → Stage
  | draining since _ => draining since true
  | stage => stage

/-- The stage once the clock shows `time`. The end of a pause or of the grace period is noticed. -/
def atTime (grace time : Nat) : Stage → Stage
  | pausing resume => if resume ≤ time then accepting else pausing resume
  | draining since awake => draining since (awake || since + grace ≤ time)
  | stage => stage

end Stage

/-- A task that runs looks first whether the server drains, and only if not waits to be told. -/
def Phase.next (drains : Bool) : Phase → Phase
  | finishing => finishing
  | fresh | serving => if drains then finishing else serving

def Inbound.wake (c : Inbound) : Inbound := { c with awake := true }

/-- The task runs as far as it can. -/
def Inbound.run (drains : Bool) (c : Inbound) : Inbound :=
  { c with phase := c.phase.next drains, awake := false }

/-- A client that waited is accepted. -/
def accept (s : Server) : Server :=
  { s with
    waiting := s.waiting - 1
    accepted := s.accepted + 1
    trackers := s.trackers.track tracker
    connections := s.connections ++ [⟨s.trackers.nextId, .fresh, true⟩] }

/-- The server takes the stop signal: it listens no more, and tells all tasks that it drains. -/
def takeStop (s : Server) : Server :=
  { s with
    stopRequested := false
    waiting := 0
    drains := true
    stage := .draining s.now true
    connections := s.connections.map Inbound.wake }

/-- The server ends if it counts no connection or if the grace period is over, in this order; else
it sleeps. -/
def look (s : Server) : Server :=
  match s.stage with
  | .draining since _ =>
    if s.tracked = 0 then { s with stage := .returned since s.now true }
    else if since + s.grace ≤ s.now then { s with stage := .returned since s.now false }
    else { s with stage := .draining since false }
  | _ => s

/-- The task of connection `id` runs. -/
def runTask (s : Server) (id : Nat) : Server :=
  { s with connections := s.connections.map fun c => if c.id = id then c.run s.drains else c }

/-- Connection `id` is gone, and counted no more. The last one wakes the server. -/
def remove (s : Server) (id : Nat) : Server :=
  if s.connections.any (·.id = id) then
    { s with
      trackers := s.trackers.drop id
      connections := s.connections.filter (·.id ≠ id)
      stage := if s.tracked = 1 then s.stage.wake else s.stage }
  else s

/-- An event that cannot happen changes nothing. -/
def step (s : Server) : Event → Server
  | .arrive => if s.stage.isListening then { s with waiting := s.waiting + 1 } else s
  | .accept => if s.stage = .accepting ∧ 0 < s.waiting then s.accept else s
  | .acceptFails =>
    if s.stage = .accepting then { s with stage := .pausing (s.now + pause) } else s
  | .requestStop => if s.stage.isListening then { s with stopRequested := true } else s
  | .takeStop => if s.stage = .accepting ∧ s.stopRequested then s.takeStop else s
  | .look => s.look
  | .run id => s.runTask id
  | .finish id => s.remove id
  | .advance span =>
    { s with now := s.now + span, stage := s.stage.atTime s.grace (s.now + span) }

/-- The events one after the other. -/
def run (s : Server) (events : List Event) : Server := events.foldl step s

/-- What happens while `span` passes and no connection ends: a draining server looks when its grace
period is over. -/
def passing (s : Server) (span : Nat) : List Event :=
  match s.stage with
  | .draining since _ =>
    let left := since + s.grace - s.now
    if left ≤ span then [.advance left, .look, .advance (span - left)] else [.advance span]
  | _ => [.advance span]

/-- A line from the server. -/
def line (severity : Log.Severity) (message : String) (values : List (String × Log.Value)) :
    Log.Line :=
  ⟨severity, .server, message, values⟩

/-- The number of open connections, for a line. -/
def openValue (s : Server) : List (String × Log.Value) :=
  [("active_connections", .number s.tracked)]

/-- What the server logs as it takes the stop signal. -/
def stopLines (s : Server) : List Log.Line :=
  line .info "Shutdown signal received" [] ::
    if s.tracked = 0 then [] else [line .info "Draining connections" s.openValue]

/-- What the server logs as it ends. -/
def endLines (s : Server) (drained : Bool) : List Log.Line :=
  (if drained then []
    else [line .warn "Drain deadline passed, abandoning connections" s.openValue]) ++
    [line .info "HTTP server stopped" []]

/-- What the server logs as the event brings it from `s` to its next state. -/
def lines (s : Server) (e : Event) : List Log.Line :=
  let next := s.step e
  (if s.stage.isListening && !next.stage.isListening then s.stopLines else []) ++
    match s.stage, next.stage with
    | .returned _ _ _, _ => []
    | _, .returned _ _ drained => next.endLines drained
    | _, _ => []

end Server

end Funnel
