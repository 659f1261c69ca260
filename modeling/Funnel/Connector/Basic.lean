import Funnel.Connector.Stats
import Funnel.Fault.Basic

/-!
Connecting to the origin. Until the protocol is known, only the holder of one permit dials; while an
HTTP/2 connection is alive, nobody does, since requests share that connection; once the origin has
fallen back to HTTP/1.1, everybody dials at once. Waiting and dialing share one deadline.

Times are in milliseconds. Calls are known by their position in the order of calling.
-/

namespace Funnel

/-- How dialing will go: the time it takes, if it ever ends, and what comes of it. -/
structure Connector.Dial where
  takes : Option Nat
  result : Except Fault Protocol

/-- Where a call is on its way to a connection. -/
inductive Connector.Phase where
  /-- It has not run yet. -/
  | fresh
  /-- It waits for the last HTTP/2 connection to go. -/
  | parked
  /-- The last HTTP/2 connection has gone since it parked. -/
  | notified
  /-- It waits for the permit. -/
  | queued
  /-- It was handed the permit and has not run since. -/
  | granted
  /-- It dials, with or without the permit, until `due`. -/
  | dialing (permit : Bool) (due : Option Nat)
  /-- Its connection is up, the `number`-th ever established. -/
  | live (protocol : Protocol) (number : Nat)
  /-- Its connection was up and is gone. -/
  | dropped (protocol : Protocol) (number : Nat)
  /-- Dialing failed. -/
  | failed (fault : Fault)
  /-- The deadline passed. -/
  | expired
  /-- Its caller gave it up. -/
  | aborted
deriving DecidableEq, Repr

/-- Nothing has come of the call so far. -/
def Connector.Phase.isPending : Phase → Bool
  | fresh | parked | notified | queued | granted | dialing _ _ => true
  | _ => false

structure Connector.Call where
  dial : Dial
  phase : Phase
  /-- Set when the call first runs. -/
  deadline : Option Nat

structure Connector.Timer where
  due : Nat
  call : Nat
deriving DecidableEq, Repr

/-- A dial that has begun: the call that dials, the time, and whether the permit is in hand. -/
structure Connector.Start where
  call : Nat
  time : Nat
  permit : Bool
deriving DecidableEq, Repr

structure Connector where
  /-- The time that a call may take. -/
  limit : Nat
  now : Nat
  calls : List Connector.Call
  stats : Connector.Stats
  metrics : Metrics
  /-- Permits that are with nobody. -/
  permits : Nat
  /-- Calls that wait for the permit, in the order of asking. -/
  queue : List Nat
  /-- Calls that wait for the last HTTP/2 connection to go, in the order of parking. -/
  parked : List Nat
  /-- Calls that have something to do, in the order in which they were woken. -/
  woken : List Nat
  /-- Timers in the order in which they were set. -/
  timers : List Connector.Timer
  /-- The dials that have begun, in order. -/
  starts : List Connector.Start

namespace Connector

def new (limit : Nat) : Connector where
  limit := limit
  now := 0
  calls := []
  stats := .empty
  metrics := .empty
  permits := 1
  queue := []
  parked := []
  woken := []
  timers := []
  starts := []

/-- How many calls have begun to dial. -/
def dials (s : Connector) : Nat := s.starts.length

def phase? (s : Connector) (i : Nat) : Option Phase := s.calls[i]?.map (·.phase)

def setPhase (s : Connector) (i : Nat) (p : Phase) : Connector :=
  { s with calls := s.calls.modify i fun c => { c with phase := p } }

/-- The fault of a call that took longer than allowed. -/
def timeout (s : Connector) : Fault := .last (.connectTimeout (.ofMillis s.limit))

/-- What the caller of `i` has got: a connection that speaks a protocol, or a fault. -/
def answer? (s : Connector) (i : Nat) : Option (Except Fault Protocol) :=
  match s.phase? i with
  | some (.live p _) => some (.ok p)
  | some (.failed f) => some (.error f)
  | some .expired => some (.error s.timeout)
  | _ => none

end Connector

end Funnel
