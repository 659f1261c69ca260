import Funnel.Duration

/-!
The configuration: six sections, each field with a default.
-/

namespace Funnel

namespace Config

/-- How log lines are written. -/
inductive LogFormat where
  | text
  | json
deriving DecidableEq, Repr

def LogFormat.name : LogFormat → String
  | text => "text"
  | json => "json"

def LogFormat.ofName? (s : String) : Option LogFormat :=
  if s = "text" then some .text else if s = "json" then some .json else none

/-- The number that local clients expect behind the address. -/
def defaultNumber : UInt16 := 19080

structure Listener where
  bindAddress : String := "127.0.0.1:19080"
deriving DecidableEq, Repr

/-- The one endpoint that every request is forwarded to, over https. -/
structure Origin where
  host : String := "goma.chromium.org"
deriving DecidableEq, Repr

structure Timeouts where
  /-- For the connection and its handshake. -/
  connectSecs : Nat := 30
  /-- For the head of the response. -/
  responseSecs : Nat := 300
  /-- How long an idle connection is kept. -/
  idleSecs : Nat := 90
deriving DecidableEq, Repr

structure Pool where
  /-- Idle HTTP/1.1 connections kept per host. -/
  maxIdlePerHost : Nat := 8
  /-- Time between pings on HTTP/2 connections; zero sends none. -/
  pingIntervalSecs : Nat := 30
  /-- How long a ping may stay without answer. -/
  pingTimeoutSecs : Nat := 10
deriving DecidableEq, Repr

structure Observability where
  logLevel : String := "info"
  logFormat : LogFormat := .text
  metricsEnabled : Bool := false
  metricsAddress : String := "127.0.0.1:9090"
deriving DecidableEq, Repr

structure Lifecycle where
  /-- Only a termination request stops the program. -/
  ignoreInterrupt : Bool := true
  /-- How long open connections may go on once the program stops. -/
  shutdownGraceSecs : Nat := 10
deriving DecidableEq, Repr

end Config

structure Config where
  listener : Config.Listener := {}
  origin : Config.Origin := {}
  timeouts : Config.Timeouts := {}
  pool : Config.Pool := {}
  observability : Config.Observability := {}
  lifecycle : Config.Lifecycle := {}
deriving DecidableEq, Repr

namespace Config

def connect (c : Config) : Duration := .ofSecs c.timeouts.connectSecs

def response (c : Config) : Duration := .ofSecs c.timeouts.responseSecs

def idle (c : Config) : Duration := .ofSecs c.timeouts.idleSecs

/-- The time between pings, if any are sent. -/
def pingInterval? (c : Config) : Option Duration :=
  if c.pool.pingIntervalSecs = 0 then none else some (.ofSecs c.pool.pingIntervalSecs)

def pingTimeout (c : Config) : Duration := .ofSecs c.pool.pingTimeoutSecs

def shutdownGrace (c : Config) : Duration := .ofSecs c.lifecycle.shutdownGraceSecs

end Config

end Funnel
