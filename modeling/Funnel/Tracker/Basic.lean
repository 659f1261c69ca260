/-!
Tracking the connections of local clients. Any number of trackers share the numbering of
connections and the gauge of open ones; each tracker counts its own.
-/

namespace Funnel

/-- One tracked connection: its tracker, and its number. -/
structure Tracker.Guard where
  tracker : Nat
  id : Nat
deriving DecidableEq, Repr

/-- The state that all trackers share. -/
structure Trackers where
  /-- The number that the next connection gets. -/
  nextId : Nat
  /-- How many connections each tracker counts. -/
  active : Nat → Nat
  /-- Guards that are alive, in the order of tracking. -/
  guards : List Tracker.Guard
  /-- Open connections over all trackers. -/
  gauge : Int

namespace Trackers

def new : Trackers := ⟨1, fun _ => 0, [], 0⟩

/-- One more connection on `tracker`. -/
def track (t : Trackers) (tracker : Nat) : Trackers where
  nextId := t.nextId + 1
  active := fun i => if i = tracker then t.active i + 1 else t.active i
  guards := t.guards ++ [⟨tracker, t.nextId⟩]
  gauge := t.gauge + 1

/-- The guard of connection `id` goes, if it is still there. -/
def drop (t : Trackers) (id : Nat) : Trackers :=
  match t.guards.find? (·.id = id) with
  | some g =>
    { t with
      active := fun i => if i = g.tracker then t.active i - 1 else t.active i
      guards := t.guards.filter (·.id ≠ id)
      gauge := t.gauge - 1 }
  | none => t

/-- Connection `id` is still open. -/
def isLive (t : Trackers) (id : Nat) : Bool := t.guards.any (·.id = id)

/-- Connection `id` is open, and `tracker` counts no other. -/
def isLastOf (t : Trackers) (tracker id : Nat) : Bool :=
  (t.guards.find? (·.id = id)).any (·.tracker = tracker) && t.active tracker = 1

/-- A connection comes or goes. -/
inductive Event where
  | track (tracker : Nat)
  | drop (id : Nat)
deriving DecidableEq, Repr

def step (t : Trackers) : Event → Trackers
  | .track tracker => t.track tracker
  | .drop id => t.drop id

/-- The events one after the other. -/
def run (t : Trackers) (events : List Event) : Trackers := events.foldl step t

end Trackers

end Funnel
