import Funnel.Connector.Run
import Funnel.Director
import Funnel.Listener
import Funnel.Server
import Funnel.StopSignal

/-!
Starting the gateway and stopping it. The configuration is checked first, then the settings of TLS
are asked for; the listener is bound last, and any error is fatal.
-/

namespace Funnel

/-- Why the gateway does not start. -/
inductive Gateway.StartError where
  | config (problems : List Config.Problem)
  | transport (fault : TlsFault)
  | server (problem : Config.Problem)
  | listener (error : Listener.BindError)
  /-- The listener has no name that the operating system knows. -/
  | serve (code : Int)
deriving DecidableEq, Repr

def Gateway.StartError.kind : StartError → String
  | config _ => "Config"
  | transport _ => "Transport"
  | server _ => "Server"
  | listener _ => "Listener"
  | serve _ => "Serve"

def Gateway.StartError.message : StartError → String
  | config problems => Config.summary problems
  | transport fault => "cannot build TLS client configuration: " ++ fault.message
  | server problem => problem.message
  | listener error => error.message
  | serve code => "server task failed: " ++ Errno.message code

/-- A gateway that accepts local clients. -/
structure Gateway where
  director : Director
  /-- The address of the listener. -/
  address : SocketAddress
  connector : Connector
  stop : StopSignal
  server : Server
  log : List Log.Line

/-- What an attempt to start leaves: a gateway or an error, the listeners that were bound, and what
was logged. -/
structure Gateway.Attempt where
  outcome : Except Gateway.StartError Gateway
  bound : List SocketAddress
  log : List Log.Line

namespace Gateway

/-- Where the server's subscription to the stop signal stands. -/
def serverSubscription : Nat := 0

def forwardingLine (d : Director) (c : Config) : Log.Line :=
  ⟨.info, .server, "Forwarding to upstream over https",
    [("upstream", .plain d.authority.text),
      ("connect_timeout_secs", .number c.timeouts.connectSecs),
      ("response_timeout_secs", .number c.timeouts.responseSecs)]⟩

def boundLine (a : SocketAddress) : Log.Line :=
  ⟨.info, .listener, "Listener bound", [("address", .plain a.toText)]⟩

def servingLine (a : SocketAddress) : Log.Line :=
  ⟨.info, .server, "HTTP server starting", [("address", .plain a.toText)]⟩

/-- The gateway at a bound listener. -/
def serving (c : Config) (d : Director) (a : SocketAddress) (log : List Log.Line) : Gateway where
  director := d
  address := a
  connector := .new (c.connect.nanos / 1000000)
  stop := StopSignal.new.subscribe
  server := .new c.shutdownGrace
  log := log

/-- An attempt that ends before anything is bound or logged. -/
def Attempt.failed (e : StartError) : Attempt := ⟨.error e, [], []⟩

/-- The listener is bound, and asked for its name once more. -/
def listen (host : Host) (c : Config) (d : Director) : Attempt :=
  match Listener.bind host c.listener with
  | .error e => ⟨.error (.listener e), [], [forwardingLine d c]⟩
  | .ok a =>
    let log := [forwardingLine d c, boundLine a]
    match host.nameOf a with
    | .error code => ⟨.error (.serve code), [a], log⟩
    | .ok a =>
      let log := log ++ [servingLine a]
      ⟨.ok (serving c d a log), [a], log⟩

/-- Starts the gateway once TLS is set up. -/
def launch (host : Host) (c : Config) : Attempt :=
  match c.check with
  | [] =>
    match Director.ofHost c.origin.host with
    | .error p => .failed (.server p)
    | .ok d => listen host c d
  | problems => .failed (.config problems)

def start (host : Host) (c : Config) : Attempt :=
  match c.check with
  | [] =>
    match host.tls with
    | .error fault => .failed (.transport fault)
    | .ok () => launch host c
  | problems => .failed (.config problems)

/-- An event of the server, and what it logs. -/
def serve (g : Gateway) (e : Server.Event) : Gateway :=
  { g with server := g.server.step e, log := g.log ++ g.server.lines e }

/-- The events one after the other. -/
def serveAll (g : Gateway) (events : List Server.Event) : Gateway := events.foldl serve g

/-- The server listens to the stop signal until it ends. -/
def unsubscribe (g : Gateway) : Gateway :=
  if g.server.stage.isReturned then
    { g with stop := g.stop.dropSubscriber serverSubscription }
  else g

/-- Time passes. -/
def advance (g : Gateway) (span : Duration) : Gateway :=
  let g := (g.serveAll (g.server.passing span.nanos)).unsubscribe
  { g with connector := g.connector.advance (span.nanos / 1000000) }

/-- The stop signal is given, and the server takes it when it is ready to. Once the server has
ended, nobody hears the signal. -/
def shutdown (g : Gateway) : Gateway :=
  let g := { g with stop := g.stop.trigger }
  if g.stop.hasSubscriber serverSubscription then
    (g.serveAll [.requestStop, .takeStop, .look]).unsubscribe
  else
    let unheard : Log.Line := ⟨.debug, .stopSignal, "Shutdown triggered with no subscribers", []⟩
    { g with log := g.log ++ [unheard] }

/-- The server has ended. -/
def isStopped (g : Gateway) : Bool := g.server.stage.isReturned

end Gateway

end Funnel
