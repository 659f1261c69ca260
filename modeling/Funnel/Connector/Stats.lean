import Funnel.Metrics

/-!
Counters over all connections to the origin.
-/

namespace Funnel.Connector

structure Stats where
  /-- Connections ever established. -/
  opened : Nat
  /-- Of those, how many speak HTTP/2. -/
  multiplexed : Nat
  /-- Connections that are alive. -/
  active : Nat
  /-- Of those, how many speak HTTP/2. -/
  liveMultiplexed : Nat
  /-- The connection established last speaks HTTP/1.1. -/
  speaksHttp1 : Bool
deriving DecidableEq, Repr

namespace Stats

def empty : Stats := ⟨0, 0, 0, 0, false⟩

/-- One for HTTP/2, none for HTTP/1.1. -/
def share : Protocol → Nat
  | .http1 => 0
  | .http2 => 1

/-- A connection is up. Its number is the new `opened`. -/
def establish (s : Stats) (p : Protocol) : Stats where
  opened := s.opened + 1
  multiplexed := s.multiplexed + share p
  active := s.active + 1
  liveMultiplexed := s.liveMultiplexed + share p
  speaksHttp1 := p = .http1

/-- A connection is gone. -/
def close (s : Stats) (p : Protocol) : Stats :=
  { s with active := s.active - 1, liveMultiplexed := s.liveMultiplexed - share p }

end Stats

end Funnel.Connector
