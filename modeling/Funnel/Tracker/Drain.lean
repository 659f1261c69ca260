import Funnel.Tracker.Basic

/-!
Waiting until a tracker has no connections left, or a deadline passes. A wait looks at the count as
it begins, and from then on only when it is notified, by the guard that takes the count to zero. It
looks at the clock last. Connections of all trackers come and go meanwhile, in any order.

On a timeline guards are set to go at later times, and only a wait moves the clock.
-/

namespace Funnel.Tracker

/-- What a wait is at. -/
inductive Wait.Stage where
  /-- It is awake if it was notified since it last looked at the count, or has not looked yet. -/
  | waiting (awake : Bool)
  /-- It has ended, and says whether no connection was left. -/
  | ended (drained : Bool)
deriving DecidableEq, Repr

/-- A wait for the connections of one tracker, among all trackers. -/
structure Wait where
  trackers : Trackers
  now : Nat
  tracker : Nat
  /-- The time at which the wait is given up. -/
  limit : Nat
  stage : Wait.Stage

/-- What can happen during a wait. -/
inductive Wait.Event where
  /-- A connection of any tracker comes or goes. -/
  | connection (e : Trackers.Event)
  /-- The wait runs. -/
  | look
  /-- Time passes. -/
  | advance (span : Nat)
deriving DecidableEq, Repr

namespace Wait

def start (t : Trackers) (now tracker deadline : Nat) : Wait :=
  ⟨t, now, tracker, now + deadline, .waiting true⟩

/-- A wait that goes on is notified. -/
def Stage.wake : Stage → Stage
  | waiting _ => waiting true
  | ended drained => ended drained

def isEnded (w : Wait) : Bool :=
  match w.stage with
  | .waiting _ => false
  | .ended _ => true

/-- The guard of connection `id` goes. The last one of the tracker notifies the wait. -/
def drop (w : Wait) (id : Nat) : Wait :=
  { w with
    trackers := w.trackers.drop id
    stage := if w.trackers.isLastOf w.tracker id then w.stage.wake else w.stage }

/-- The wait ends if it is awake and finds no connection, or if its time is over, in this order;
else it sleeps. -/
def look (w : Wait) : Wait :=
  match w.stage with
  | .waiting awake =>
    if awake ∧ w.trackers.active w.tracker = 0 then { w with stage := .ended true }
    else if w.limit ≤ w.now then { w with stage := .ended false }
    else { w with stage := .waiting false }
  | .ended _ => w

def step (w : Wait) : Event → Wait
  | .connection (.track tracker) => { w with trackers := w.trackers.track tracker }
  | .connection (.drop id) => w.drop id
  | .look => w.look
  | .advance span => { w with now := w.now + span }

/-- The events one after the other. -/
def run (w : Wait) (events : List Event) : Wait := events.foldl step w

end Wait

/-- A guard that will go at a set time. -/
structure Leaving where
  due : Nat
  id : Nat
deriving DecidableEq, Repr

/-- Trackers, the time, and the guards that are set to go, the earliest first. -/
structure Timeline where
  trackers : Trackers
  now : Nat
  leaving : List Leaving

namespace Timeline

def new : Timeline := ⟨.new, 0, []⟩

/-- Guard `id` is set to go already. -/
def isLeaving (t : Timeline) (id : Nat) : Bool := t.leaving.any (·.id = id)

/-- Behind everything that is due no later. -/
def insertLeaving (l : Leaving) : List Leaving → List Leaving
  | [] => [l]
  | m :: rest => if m.due ≤ l.due then m :: insertLeaving l rest else l :: m :: rest

/-- Guard `id` will go `after` from now on, if it is there and not set to go yet. -/
def schedule (t : Timeline) (after id : Nat) : Timeline :=
  if t.trackers.isLive id && !t.isLeaving id then
    { t with leaving := insertLeaving ⟨t.now + after, id⟩ t.leaving }
  else t

/-- The clock goes from one set time to the next, and the wait runs once all guards have gone that
are due, until it is over. Where no set time lies before its limit, that is when its time is. -/
def pass (w : Wait) : List Leaving → Wait × List Leaving
  | [] => if w.isEnded then (w, []) else (w.run [.advance (w.limit - w.now), .look], [])
  | l :: rest =>
    if w.isEnded then (w, l :: rest)
    else if l.due < w.limit then
      let w := w.run [.advance (l.due - w.now), .connection (.drop l.id)]
      pass (if rest.head?.any (·.due ≤ w.now) then w else w.look) rest
    else (w.run [.advance (w.limit - w.now), .look], l :: rest)

/-- Waits at most `deadline` until `tracker` has no connection, and says whether it has none. A
deadline of no length leaves no time for anything to go. -/
def waitForDrain (t : Timeline) (tracker deadline : Nat) : Bool × Timeline :=
  let (w, leaving) := pass (Wait.start t.trackers t.now tracker deadline).look t.leaving
  (w.stage = .ended true, ⟨w.trackers, w.now, leaving⟩)

end Timeline

end Funnel.Tracker
