import Funnel.Connector.Step

/-!
Running a connector: after each event every woken call runs, in the order of waking, until none is
left; the clock goes from one timer to the next. That is one order of many: a run takes any events,
with the turns of the calls among them, in any order.
-/

namespace Funnel

/-- What happens to a connector. -/
inductive Connector.Event where
  /-- A new call, which will dial like this. -/
  | call (dial : Dial)
  /-- A call that fails at once. -/
  | reject (fault : Fault)
  /-- Call `i` has its turn. -/
  | turn (i : Nat)
  /-- The connection of call `i` goes. -/
  | drop (i : Nat)
  /-- The caller of `i` gives up. -/
  | abort (i : Nat)
  /-- Time passes. -/
  | wait (span : Nat)

namespace Connector

def step (s : Connector) : Event → Connector
  | .call d => s.call d
  | .reject f => s.reject f
  | .turn i => s.turn i
  | .drop i => s.drop i
  | .abort i => s.abort i
  | .wait span => s.fire (s.now + span)

def run (s : Connector) (events : List Event) : Connector := events.foldl step s

/-- At most `fuel` turns of woken calls. -/
def settleWithin : (fuel : Nat) → Connector → Connector
  | 0, s => s
  | fuel + 1, s =>
    match s.woken with
    | [] => s
    | i :: _ => settleWithin fuel (s.turn i)

/-- All woken calls run. Without outside events a call is woken only once more, when the permit is
handed to it. -/
def settle (s : Connector) : Connector := settleWithin (s.woken.length + s.calls.length) s

def nextTimer? (s : Connector) : Option Nat := (s.timers.map (·.due)).min?

/-- The clock goes on to `target`, over at most `fuel` times at which timers are due. -/
def advanceWithin (target : Nat) : (fuel : Nat) → Connector → Connector
  | 0, s => s.fire target
  | fuel + 1, s =>
    match s.nextTimer? with
    | some t =>
      if t ≤ target then advanceWithin target fuel (s.fire (max s.now t)).settle
      else s.fire target
    | none => s.fire target

/-- `span` later. Each call sets at most two timers. -/
def advance (s : Connector) (span : Nat) : Connector :=
  advanceWithin (s.now + span) (2 * s.calls.length + s.timers.length + 1) s

def dropAll (s : Connector) : Connector := (List.range s.calls.length).foldl drop s

end Connector

end Funnel
