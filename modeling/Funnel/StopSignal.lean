/-!
The stop signal: any handle triggers it, every subscriber hears of it. The channel keeps one
message. A subscriber that missed some is told how many, and then gets the one that is kept; when
all handles are gone and nothing is left, the channel is closed.
-/

namespace Funnel

/-- What one attempt to receive yields. -/
inductive StopSignal.Received where
  | stop
  /-- Nothing has come so far. -/
  | empty
  /-- Nothing has come, and no handle is left to send anything. -/
  | closed
  | lagged (missed : Nat)
deriving DecidableEq, Repr

/-- Handles and subscribers are known by the order in which they came; the place of one that is
gone stays. -/
structure StopSignal where
  /-- How many messages were ever sent. -/
  sent : Nat
  /-- Which handles are there. -/
  handles : List Bool
  /-- The number of the message that each subscriber reads next. -/
  subscribers : List (Option Nat)
deriving DecidableEq, Repr

namespace StopSignal

/-- One handle and no subscriber. -/
def new : StopSignal := ⟨0, [true], []⟩

def hasHandle (s : StopSignal) (i : Nat) : Bool := s.handles[i]?.getD false

def hasSubscriber (s : StopSignal) (i : Nat) : Bool := (s.subscribers[i]?.getD none).isSome

/-- Some handle is left. -/
def isOpen (s : StopSignal) : Bool := s.handles.any id

/-- A new subscriber reads what is sent from now on. -/
def subscribe (s : StopSignal) : StopSignal :=
  { s with subscribers := s.subscribers ++ [some s.sent] }

def addHandle (s : StopSignal) : StopSignal := { s with handles := s.handles ++ [true] }

def trigger (s : StopSignal) : StopSignal := { s with sent := s.sent + 1 }

def dropHandle (s : StopSignal) (i : Nat) : StopSignal :=
  { s with handles := s.handles.set i false }

def dropSubscriber (s : StopSignal) (i : Nat) : StopSignal :=
  { s with subscribers := s.subscribers.set i none }

/-- What a subscriber at position `next` receives, and its position afterwards. Only the last
message is kept. -/
def receiveAt (s : StopSignal) (next : Nat) : Received × Nat :=
  if s.sent ≤ next then (if s.isOpen then .empty else .closed, next)
  else if s.sent = next + 1 then (.stop, s.sent)
  else (.lagged (s.sent - 1 - next), s.sent - 1)

/-- One attempt of subscriber `i` to receive; nothing if it is gone. -/
def receive (s : StopSignal) (i : Nat) : Option (Received × StopSignal) :=
  match s.subscribers[i]? with
  | some (some next) =>
    let (r, next) := s.receiveAt next
    some (r, { s with subscribers := s.subscribers.set i (some next) })
  | _ => none

/-- What is done with a handle or as a subscriber. -/
inductive Event where
  | subscribe (handle : Nat)
  | copy (handle : Nat)
  | trigger (handle : Nat)
  | dropHandle (handle : Nat)
  | dropSubscriber (subscriber : Nat)
  | receive (subscriber : Nat)
deriving DecidableEq, Repr

/-- The subscriber that does it or is dropped. -/
def Event.subscriber? : Event → Option Nat
  | .dropSubscriber subscriber | .receive subscriber => some subscriber
  | _ => none

/-- A handle or a subscriber that is not there does nothing. -/
def step (s : StopSignal) : Event → StopSignal
  | .subscribe handle => if s.hasHandle handle then s.subscribe else s
  | .copy handle => if s.hasHandle handle then s.addHandle else s
  | .trigger handle => if s.hasHandle handle then s.trigger else s
  | .dropHandle handle => s.dropHandle handle
  | .dropSubscriber subscriber => s.dropSubscriber subscriber
  | .receive subscriber =>
    match s.receive subscriber with
    | some (_, s) => s
    | none => s

/-- The events one after the other. -/
def run (s : StopSignal) (events : List Event) : StopSignal := events.foldl step s

end StopSignal

end Funnel
