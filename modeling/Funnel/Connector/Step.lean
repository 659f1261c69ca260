import Funnel.Connector.Basic

/-!
The steps of a connector. `poll` lets one call run as far as it can; all else that happens to a
connector comes from outside: a new call, time, a connection that goes, a caller that gives up.
-/

namespace Funnel.Connector

/-- Call `i` has something to do. -/
def wake (s : Connector) (i : Nat) : Connector :=
  if i ∈ s.woken then s else { s with woken := s.woken ++ [i] }

/-- The permit goes to the first call in the queue, or to nobody. -/
def giveBack (s : Connector) : Connector :=
  match s.queue with
  | [] => { s with permits := s.permits + 1 }
  | i :: rest => ({ s with queue := rest }.setPhase i .granted).wake i

def giveBackIf (s : Connector) (permit : Bool) : Connector := if permit then s.giveBack else s

def setTimer (s : Connector) (due i : Nat) : Connector :=
  { s with timers := s.timers ++ [⟨due, i⟩] }

def park (s : Connector) (i : Nat) : Connector :=
  { s with parked := s.parked ++ [i] }.setPhase i .parked

def enqueue (s : Connector) (i : Nat) : Connector :=
  { s with queue := s.queue ++ [i] }.setPhase i .queued

/-- The connection that a dial has come to, if it has, is counted. -/
def tally (s : Connector) : Except Fault Protocol → Connector
  | .ok p => { s with
      stats := s.stats.establish p
      metrics := s.metrics.record (.originOpened p) }
  | .error _ => s

/-- What becomes of a call whose dial is over. -/
def outcome (s : Connector) : Except Fault Protocol → Phase
  | .ok p => .live p (s.stats.opened + 1)
  | .error f => .failed f

/-- The dial of call `i` has come to its result. A connection is counted before the permit goes
on. -/
def finish (s : Connector) (i : Nat) (permit : Bool) (result : Except Fault Protocol) :
    Connector :=
  ((s.tally result).setPhase i (s.outcome result)).giveBackIf permit

def finishIfDue (s : Connector) (i : Nat) (permit : Bool) (due : Option Nat) (d : Dial) :
    Connector :=
  match due with
  | some t => if t ≤ s.now then s.finish i permit d.result else s
  | none => s

def markDialing (s : Connector) (i : Nat) (permit : Bool) (due : Option Nat) : Connector :=
  { s with starts := s.starts ++ [Start.mk i s.now permit] }.setPhase i (.dialing permit due)

/-- A timer for the end of the dial of call `i`, if that is still to come. -/
def watchDial (s : Connector) (i : Nat) (due : Option Nat) : Connector :=
  match due with
  | some t => if s.now < t then s.setTimer t i else s
  | none => s

def startDial (s : Connector) (i : Nat) (permit : Bool) (d : Dial) : Connector :=
  let due := d.takes.map (s.now + ·)
  ((s.markDialing i permit due).watchDial i due).finishIfDue i permit due d

/-- Call `i`, without permit, goes where the state of the connections sends it. -/
def enter (s : Connector) (i : Nat) (d : Dial) : Connector :=
  if s.stats.liveMultiplexed ≠ 0 then s.park i
  else if s.stats.speaksHttp1 then s.startDial i false d
  else if 0 < s.permits then { s with permits := s.permits - 1 }.startDial i true d
  else s.enqueue i

/-- Call `i` goes on from where it is. With the permit in hand it looks once more whether an HTTP/2
connection has come up meanwhile, and if so gives the permit back and parks. -/
def resume (s : Connector) (i : Nat) (c : Call) : Connector :=
  match c.phase with
  | .fresh | .notified => s.enter i c.dial
  | .granted =>
    if s.stats.liveMultiplexed = 0 then s.startDial i true c.dial else s.giveBack.park i
  | .dialing permit due => s.finishIfDue i permit due c.dial
  | _ => s

/-- Call `i`, which was in phase `p`, leaves whatever it waits in and gives back what it holds. -/
def withdraw (s : Connector) (i : Nat) (p : Phase) : Connector :=
  match p with
  | .parked => { s with parked := s.parked.filter (· ≠ i) }
  | .queued => { s with queue := s.queue.filter (· ≠ i) }
  | .granted | .dialing true _ => s.giveBack
  | _ => s

/-- Call `i` ends in phase `p` before anything has come of it. -/
def cancel (s : Connector) (i : Nat) (p : Phase) : Connector :=
  match s.phase? i with
  | some q => if q.isPending then (s.withdraw i q).setPhase i p else s
  | none => s

def expire (s : Connector) (i : Nat) : Connector :=
  match s.calls[i]?.bind (·.deadline) with
  | some t => if t ≤ s.now then s.cancel i .expired else s
  | none => s

def fixDeadline (s : Connector) (i : Nat) : Connector :=
  { s with calls := s.calls.modify i fun c => { c with deadline := some (s.now + s.limit) } }

/-- A timer for the deadline of call `i`, if it is still under way. -/
def watch (s : Connector) (i : Nat) : Connector :=
  if (s.phase? i).any (·.isPending) then s.setTimer (s.now + s.limit) i else s

/-- Call `i` runs as far as it can. What has come of its dial counts before its deadline does. -/
def poll (s : Connector) (i : Nat) : Connector :=
  match s.calls[i]? with
  | some c =>
    match c.phase with
    | .fresh => (((s.fixDeadline i).resume i c).watch i).expire i
    | _ => (s.resume i c).expire i
  | none => s

/-- Call `i` has its turn, woken or not. -/
def turn (s : Connector) (i : Nat) : Connector := { s with woken := s.woken.erase i }.poll i

def call (s : Connector) (d : Dial) : Connector :=
  { s with calls := s.calls ++ [Call.mk d .fresh none] }.wake s.calls.length

/-- A call that fails at once since the dialer is not ready. -/
def reject (s : Connector) (f : Fault) : Connector :=
  { s with calls := s.calls ++ [Call.mk ⟨none, .error f⟩ (.failed f) none] }

/-- Call `i` is told that the last HTTP/2 connection has gone. -/
def tell (s : Connector) (i : Nat) : Connector := (s.setPhase i .notified).wake i

def notifyParked (s : Connector) : Connector := s.parked.foldl tell { s with parked := [] }

/-- The connection of call `i` is counted as gone. -/
def close (s : Connector) (i : Nat) (p : Protocol) (number : Nat) : Connector :=
  { s with
    stats := s.stats.close p
    metrics := s.metrics.record .originClosed }.setPhase i (.dropped p number)

/-- The connection of call `i` goes. With the last HTTP/2 connection the wait of the parked calls is
over. -/
def drop (s : Connector) (i : Nat) : Connector :=
  match s.phase? i with
  | some (.live p number) =>
    if p = .http2 ∧ s.stats.liveMultiplexed = 1 then (s.close i p number).notifyParked
    else s.close i p number
  | _ => s

def abort (s : Connector) (i : Nat) : Connector := s.cancel i .aborted

/-- The clock shows `time`, and the timers due by then wake their calls. -/
def fire (s : Connector) (time : Nat) : Connector :=
  (s.timers.filter (·.due ≤ time)).foldl (fun s t => s.wake t.call)
    { s with now := time, timers := s.timers.filter fun t => !decide (t.due ≤ time) }

end Funnel.Connector
