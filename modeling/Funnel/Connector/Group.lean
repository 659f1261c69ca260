import Funnel.Connector.Run

/-!
Connectors that count their connections together. Each has its own deadline, permit and waiting
calls; the counters, the metrics and the clock are one for all, and the end of the last HTTP/2
connection ends the wait of everybody's parked calls.
-/

namespace Funnel

structure Connector.Group where
  now : Nat
  stats : Connector.Stats
  metrics : Metrics
  /-- The connectors, each with the counters, metrics and clock that it saw last. -/
  members : List Connector

/-- What happens to a group of connectors. -/
inductive Connector.Group.Event where
  /-- A further connector, whose calls may take this long. -/
  | join (limit : Nat)
  /-- Something happens to connector `k`; time passes for all. -/
  | to (k : Nat) (event : Connector.Event)

namespace Connector.Group

def empty : Group := ⟨0, .empty, .empty, []⟩

/-- Connector `s` with the counters, metrics and clock of the group. -/
def sees (g : Group) (s : Connector) : Connector :=
  { s with now := g.now, stats := g.stats, metrics := g.metrics }

/-- Connector `k` has become `s`, and what it counted counts for all. -/
def put (g : Group) (k : Nat) (s : Connector) : Group :=
  { g with stats := s.stats, metrics := s.metrics, members := g.members.set k s }

def notifyParked (g : Group) : Group :=
  { g with members := g.members.map Connector.notifyParked }

def wait (g : Group) (span : Nat) : Group :=
  { g with now := g.now + span, members := g.members.map (·.fire (g.now + span)) }

def step (g : Group) : Event → Group
  | .join limit => { g with members := g.members ++ [g.sees (new limit)] }
  | .to _ (.wait span) => g.wait span
  | .to k e =>
    match g.members[k]? with
    | some s =>
      let g' := g.put k ((g.sees s).step e)
      if g.stats.liveMultiplexed ≠ 0 ∧ g'.stats.liveMultiplexed = 0 then g'.notifyParked else g'
    | none => g

def run (g : Group) (events : List Event) : Group := events.foldl step g

end Connector.Group

end Funnel
