import Funnel.Forward.Pipeline

/-!
Requests under way, step by step. Each is sent on to the origin; once that has come to an outcome,
its client gets a response, unless it went away before. Requests go on in any order. Metrics count
a failure as soon as it is known, and a request, by the status that its client gets, as it is
answered.
-/

namespace Funnel.Forward

open Http

/-- How far a request has got. -/
inductive Traffic.Progress (β : Type) where
  /-- It was sent to the origin, and nothing has come of that. -/
  | sent (request : Request β)
  /-- The outcome is there, and its client has no answer yet. -/
  | settled (outcome : Outcome)
  /-- Its client got the response. -/
  | answered (outcome : Outcome) (response : Response Stream)
  /-- Its client went away before there was an outcome. -/
  | abandoned

structure Traffic (β : Type) where
  director : Director
  metrics : Metrics
  /-- All requests, in the order in which they came. -/
  requests : List (Traffic.Progress β)

/-- What can happen. -/
inductive Traffic.Event (β : Type) where
  /-- A client sends a request. -/
  | receive (request : Request β)
  /-- Sending request `i` has come to an outcome. -/
  | settle (i : Nat) (outcome : Outcome)
  /-- The client of request `i` gets its response. -/
  | answer (i : Nat)
  /-- The client of request `i` goes away. -/
  | abandon (i : Nat)
  /-- Something happens to a connection. -/
  | connection (e : MetricEvent)

namespace Traffic

variable {β : Type}

def new (d : Director) : Traffic β := ⟨d, .empty, []⟩

/-- An event that cannot happen changes nothing. -/
def step (s : Traffic β) : Event β → Traffic β
  | .receive r => { s with requests := s.requests ++ [.sent (outbound s.director r)] }
  | .settle i o =>
    match s.requests[i]? with
    | some (.sent _) =>
      { s with
        metrics := o.events.foldl Metrics.record s.metrics
        requests := s.requests.set i (.settled o) }
    | _ => s
  | .answer i =>
    match s.requests[i]? with
    | some (.settled o) =>
      { s with
        metrics := s.metrics.record (.request (inbound o).status)
        requests := s.requests.set i (.answered o (inbound o)) }
    | _ => s
  | .abandon i =>
    match s.requests[i]? with
    | some (.sent _) => { s with requests := s.requests.set i .abandoned }
    | _ => s
  | .connection e => if e.isConnection then { s with metrics := s.metrics.record e } else s

/-- The events one after the other. -/
def run (s : Traffic β) (events : List (Event β)) : Traffic β := events.foldl step s

end Traffic

end Funnel.Forward
