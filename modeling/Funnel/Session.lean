import Funnel.Gateway

/-!
A running gateway and the clients of a script. What a client asks for needs a connection first, and
that the host may refuse.
-/

namespace Funnel

/-- A step of the script. -/
inductive Session.Step where
  /-- A client needs a connection: the one it has by its name, or a new one. -/
  | connect (client : Option String)
  /-- A client goes on with what it began. -/
  | resume (client : String)
  /-- A client closes its connection. -/
  | leave (client : String)
  /-- So many clients connect at once. -/
  | burst (clients : Nat)
  /-- The origin drops every connection. -/
  | killOrigin
  | stats
  | metrics
  /-- Asks for the lines logged so far with a message. -/
  | log (message : String)
  | advance (span : Duration)
  | shutdown
  /-- Waits, and time passes meanwhile, until the gateway has stopped. -/
  | wait (span : Duration)
deriving Repr

/-- What a burst of clients comes to. -/
structure Session.Burst where
  /-- Clients that got no answer at all. -/
  unanswered : Nat
  openedAtMostTwo : Bool
  allMultiplexed : Bool
deriving DecidableEq, Repr

/-- What a step answers. -/
inductive Session.Answer where
  | connected
  | refused (kind : IoKind)
  /-- What the step is about is not there. -/
  | missing
  | burst (b : Burst)
  | originKilled (noneActive : Bool)
  | stats (s : Connector.Stats) (accepted : Nat)
  | metrics (lines : List String)
  | found (headlines : List String)
  | advanced
  | stopping
  | stopped (done : Bool)

structure Session where
  host : Host
  gateway : Gateway
  /-- The connections of clients that have a name. -/
  clients : List (String × Nat)
  /-- Somebody has waited for the gateway, which is gone since. -/
  left : Bool

namespace Session

def begin (host : Host) (g : Gateway) : Session := ⟨host, g, [], false⟩

/-- The number of the error when nobody listens at an address. -/
def nobodyListens : Int := 111

/-- The connection that a client has. -/
def connectionOf (s : Session) (client : String) : Option Nat := s.clients.lookup client

/-- A new connection, if the host and the gateway let it be made: its number. -/
def newConnection (s : Session) : Except IoKind (Nat × Session) :=
  match s.host.connect s.gateway.address with
  | .error code => .error (Errno.kind code)
  | .ok () =>
    if s.gateway.server.stage.isListening then
      let number := s.gateway.server.trackers.nextId
      .ok (number, { s with gateway := s.gateway.serveAll [.arrive, .accept, .run number] })
    else .error (Errno.kind nobodyListens)

/-- A client gets its connection. -/
def connect (s : Session) (client : Option String) : Answer × Session :=
  if (client.bind s.connectionOf).isSome then (.connected, s)
  else match s.newConnection with
    | .error kind => (.refused kind, s)
    | .ok (number, s) =>
      (.connected, { s with clients := s.clients ++ (client.map (·, number)).toList })

/-- The gateway as its connections to the origin go. -/
def killOrigin (g : Gateway) : Gateway := { g with connector := g.connector.dropAll }

/-- Different lines with `message`, in the order in which they came up. -/
def headlines (lines : List Log.Line) (message : String) : List String :=
  ((lines.filter (·.message = message)).map (·.headline)).eraseDups

def step (s : Session) : Step → Answer × Session
  | .connect client => s.connect client
  | .resume client =>
    match s.connectionOf client with
    | some number => (.advanced, { s with gateway := s.gateway.serve (.run number) })
    | none => (.missing, s)
  | .leave client =>
    match s.connectionOf client with
    | some number =>
      let clients := s.clients.filter (·.1 ≠ client)
      (.advanced, { s with gateway := s.gateway.serveAll [.finish number, .look], clients })
    | none => (.missing, s)
  | .burst clients =>
    let s := (List.range clients).foldl (fun s _ => (s.connect none).2) s
    let stats := s.gateway.connector.stats
    (.burst ⟨clients, stats.opened ≤ 2, stats.opened = stats.multiplexed⟩, s)
  | .killOrigin =>
    let g := killOrigin s.gateway
    (.originKilled (g.connector.stats.active = 0), { s with gateway := g })
  | .stats => (.stats s.gateway.connector.stats s.gateway.server.accepted, s)
  | .metrics => (.metrics s.gateway.connector.metrics.lines, s)
  | .log message => (.found (headlines s.gateway.log message), s)
  | .advance span => (.advanced, { s with gateway := s.gateway.advance span })
  | .shutdown =>
    if s.left then (.missing, s) else (.stopping, { s with gateway := s.gateway.shutdown })
  | .wait span =>
    if s.left then (.missing, s)
    else
      let g := s.gateway.advance span
      (.stopped g.isStopped, { s with gateway := g, left := true })

/-- The metrics once every connection is gone. -/
def finalMetrics (s : Session) : List String := (killOrigin s.gateway).connector.metrics.lines

end Session

end Funnel
