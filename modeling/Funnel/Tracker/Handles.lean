import Funnel.Metrics
import Funnel.Tracker.Basic

/-!
Trackers as a program holds them. Each is reached through its handles, which are copied and dropped
at will; a connection is tracked through any of them, and its guard goes on without them. What comes
and goes on all trackers shows in the metrics.
-/

namespace Funnel

/-- Trackers and handles are known by the order in which they came; the place of a handle that is
gone stays. -/
structure Tracker.Handles where
  trackers : Trackers
  metrics : Metrics
  /-- How many trackers were created. -/
  created : Nat
  /-- The tracker of each handle. -/
  handles : List (Option Nat)

/-- What is done with a handle or a guard. -/
inductive Tracker.Handles.Event where
  | create
  | copy (handle : Nat)
  | dropHandle (handle : Nat)
  | track (handle : Nat)
  | dropGuard (id : Nat)
deriving DecidableEq, Repr

namespace Tracker.Handles

def new : Handles := ⟨.new, .empty, 0, []⟩

/-- The tracker of a handle, while the handle is there. -/
def tracker? (s : Handles) (handle : Nat) : Option Nat := s.handles[handle]?.getD none

def addHandle (s : Handles) (tracker : Nat) : Handles :=
  { s with handles := s.handles ++ [some tracker] }

/-- A new tracker, with one handle. -/
def create (s : Handles) : Handles := { s.addHandle s.created with created := s.created + 1 }

def track (s : Handles) (tracker : Nat) : Handles :=
  { s with trackers := s.trackers.track tracker, metrics := s.metrics.record .inboundOpened }

/-- The guard of connection `id` goes, if it is still there. -/
def dropGuard (s : Handles) (id : Nat) : Handles :=
  if s.trackers.isLive id then
    { s with trackers := s.trackers.drop id, metrics := s.metrics.record .inboundClosed }
  else s

/-- A handle or a guard that is not there does nothing. -/
def step (s : Handles) : Event → Handles
  | .create => s.create
  | .copy handle =>
    match s.tracker? handle with
    | some tracker => s.addHandle tracker
    | none => s
  | .dropHandle handle => { s with handles := s.handles.set handle none }
  | .track handle =>
    match s.tracker? handle with
    | some tracker => s.track tracker
    | none => s
  | .dropGuard id => s.dropGuard id

/-- The events one after the other. -/
def run (s : Handles) (events : List Event) : Handles := events.foldl step s

end Tracker.Handles

end Funnel
