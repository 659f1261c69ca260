import Funnel.Metrics

/-!
Waiting until nobody holds a count any more, one atomic step at a time. A waiter first asks to be
notified, then reads the count, and sleeps only if it read more than zero; once awake, it begins
again. A holder takes its one off the count, and if that was the last one, notifies all who have
asked by then. Waiters and holders take their steps in any order, and a waiter may give up.

Both the end of a tracker's connections and the end of the last HTTP/2 connection are waited for in
this way. The two differ in what is counted, and in whether a waiter enlists before it reads.
-/

namespace Funnel

/-- What is waited for. -/
inductive Waiting.Goal where
  /-- A tracker has no connection left. -/
  | noConnection
  /-- No HTTP/2 connection to the origin is alive. -/
  | noHttp2
deriving DecidableEq, Repr

/-- What a waiter does next. -/
inductive Waiting.Waiter where
  /-- It asks to be notified. -/
  | ask
  /-- It has asked, and puts itself on the list of those who are told. -/
  | enlist (notified : Bool)
  /-- It has asked, and reads the count. -/
  | read (notified : Bool)
  /-- It read more than zero, and goes to sleep unless it was notified meanwhile. -/
  | sleep (notified : Bool)
  /-- Nothing, until it is notified. -/
  | asleep
  /-- It wakes up. -/
  | wake
  /-- It read zero and has ended. -/
  | done
  /-- It has given up. -/
  | gone
deriving DecidableEq, Repr

/-- What a holder does next. -/
inductive Waiting.Holder where
  /-- It takes its one off the count. -/
  | release
  /-- It took off the last one, and notifies. -/
  | notify
  /-- It goes; nothing of the count is its own. -/
  | leave
  | done
deriving DecidableEq, Repr

/-- The count, and everybody who waits for it or holds it. -/
structure Waiting where
  goal : Waiting.Goal
  count : Nat
  waiters : List Waiting.Waiter
  holders : List Waiting.Holder
deriving DecidableEq, Repr

/-- Somebody comes, takes its next step, or gives up. -/
inductive Waiting.Event where
  | newWaiter
  /-- A connection is up, which speaks `p`. -/
  | newHolder (p : Protocol)
  | waiter (i : Nat)
  | holder (i : Nat)
  /-- The deadline of waiter `i` passes, or its caller gives it up. -/
  | giveUp (i : Nat)
deriving DecidableEq, Repr

namespace Waiting

/-- Connections that are counted. -/
def Goal.counts : Goal → Protocol → Bool
  | noConnection, _ => true
  | noHttp2, p => p = .http2

/-- A waiter enlists before it reads the count, not only when it goes to sleep. -/
def Goal.enlistsFirst : Goal → Bool
  | noConnection => false
  | noHttp2 => true

def new (g : Goal) : Waiting := ⟨g, 0, [], []⟩

/-- A waiter that has asked is notified, enlisted or not. -/
def Waiter.notified : Waiter → Waiter
  | enlist _ => enlist true
  | read _ => read true
  | sleep _ => sleep true
  | asleep => wake
  | w => w

/-- The next step of a waiter, at the given count. -/
def Waiter.next (g : Goal) (count : Nat) : Waiter → Waiter
  | ask => if g.enlistsFirst then enlist false else read false
  | enlist notified => read notified
  | read notified => if count = 0 then done else sleep notified
  | sleep notified => if notified then ask else asleep
  | asleep => asleep
  | wake => ask
  | done => done
  | gone => gone

def Waiter.giveUp : Waiter → Waiter
  | done => done
  | _ => gone

/-- The next step of a holder. -/
def stepHolder (s : Waiting) (i : Nat) : Waiting :=
  match s.holders[i]? with
  | some .release =>
    { s with
      count := s.count - 1
      holders := s.holders.set i (if s.count = 1 then .notify else .done) }
  | some .notify =>
    { s with waiters := s.waiters.map Waiter.notified, holders := s.holders.set i .done }
  | some .leave => { s with holders := s.holders.set i .done }
  | _ => s

/-- A connection that speaks `p` comes up. -/
def addHolder (s : Waiting) (p : Protocol) : Waiting :=
  if s.goal.counts p then { s with count := s.count + 1, holders := s.holders ++ [.release] }
  else { s with holders := s.holders ++ [.leave] }

def step (s : Waiting) : Event → Waiting
  | .newWaiter => { s with waiters := s.waiters ++ [.ask] }
  | .newHolder p => s.addHolder p
  | .waiter i => { s with waiters := s.waiters.modify i (Waiter.next s.goal s.count) }
  | .holder i => s.stepHolder i
  | .giveUp i => { s with waiters := s.waiters.modify i Waiter.giveUp }

/-- The events one after the other. -/
def run (s : Waiting) (events : List Event) : Waiting := events.foldl step s

end Waiting

end Funnel
