import Funnel.Config.Basic
import Funnel.Toml.Value

/-!
The configuration that a TOML table sets. A section is a table whose known keys set fields, or an
array whose items set them by position; everything else about it is the defaults' business. Unknown
sections and keys do not count. A value of the wrong type is refused.
-/

namespace Funnel

open Toml

/-- A text is set by strings only. -/
def Config.text? : Value → Option String
  | .string s => some s
  | _ => none

/-- A count is set by integers that are not negative. -/
def Config.count? : Value → Option Nat
  | .integer n => if 0 ≤ n then some n.toNat else none
  | _ => none

def Config.flag? : Value → Option Bool
  | .boolean b => some b
  | _ => none

/-- A log format is set by its name, or by a table with the name as its only key and nothing under
it. -/
def Config.logFormat? : Value → Option LogFormat
  | .string s => LogFormat.ofName? s
  | .table [(name, .table [])] => LogFormat.ofName? name
  | .table [(name, .array [])] => LogFormat.ofName? name
  | _ => none

/-- Where the fields of a section stand: under their keys, or at their positions. -/
inductive Config.Source where
  | keys (entries : Table)
  | positions (items : List Value)
  | nothing

/-- What a document has in place of a section. A date or time has no field in it. -/
def Config.Source.ofValue? : Option Value → Option Source
  | none => some nothing
  | some (.table entries) => some (keys entries)
  | some (.array items) => some (positions items)
  | some (.moment _) => some nothing
  | some _ => none

/-- The value of a field in a source. -/
def Config.Source.get? (s : Source) (key : String) (position : Nat) : Option Value :=
  match s with
  | keys entries => entries.get? key
  | positions items => items[position]?
  | nothing => none

/-- A field as the source sets it, else its default; nothing if the type is wrong. -/
def Config.Source.field {α : Type} (s : Source) (key : String) (position : Nat)
    (read : Value → Option α) (default : α) : Option α :=
  match s.get? key position with
  | some v => read v
  | none => some default

namespace Config

def Listener.ofSource? (s : Source) : Option Listener := do
  let dflt : Listener := {}
  let bindAddress ← s.field "bind_address" 0 text? dflt.bindAddress
  return { bindAddress }

def Origin.ofSource? (s : Source) : Option Origin := do
  let dflt : Origin := {}
  let host ← s.field "host" 0 text? dflt.host
  return { host }

def Timeouts.ofSource? (s : Source) : Option Timeouts := do
  let dflt : Timeouts := {}
  let connectSecs ← s.field "connect_secs" 0 count? dflt.connectSecs
  let responseSecs ← s.field "response_secs" 1 count? dflt.responseSecs
  let idleSecs ← s.field "idle_secs" 2 count? dflt.idleSecs
  return { connectSecs, responseSecs, idleSecs }

def Pool.ofSource? (s : Source) : Option Pool := do
  let dflt : Pool := {}
  let maxIdlePerHost ← s.field "max_idle_per_host" 0 count? dflt.maxIdlePerHost
  let pingIntervalSecs ← s.field "http2_keep_alive_interval_secs" 1 count? dflt.pingIntervalSecs
  let pingTimeoutSecs ← s.field "http2_keep_alive_timeout_secs" 2 count? dflt.pingTimeoutSecs
  return { maxIdlePerHost, pingIntervalSecs, pingTimeoutSecs }

def Observability.ofSource? (s : Source) : Option Observability := do
  let dflt : Observability := {}
  let logLevel ← s.field "log_level" 0 text? dflt.logLevel
  let logFormat ← s.field "log_format" 1 logFormat? dflt.logFormat
  let metricsEnabled ← s.field "metrics_enabled" 2 flag? dflt.metricsEnabled
  let metricsAddress ← s.field "metrics_address" 3 text? dflt.metricsAddress
  return { logLevel, logFormat, metricsEnabled, metricsAddress }

def Lifecycle.ofSource? (s : Source) : Option Lifecycle := do
  let dflt : Lifecycle := {}
  let ignoreInterrupt ← s.field "ignore_interrupt" 0 flag? dflt.ignoreInterrupt
  let shutdownGraceSecs ← s.field "shutdown_grace_secs" 1 count? dflt.shutdownGraceSecs
  return { ignoreInterrupt, shutdownGraceSecs }

/-- A section of a table, read from whatever stands under its name. -/
def section? {α : Type} (t : Table) (name : String) (read : Source → Option α) : Option α :=
  (Source.ofValue? (t.get? name)).bind read

/-- The configuration that a table sets over the defaults. -/
def ofTable? (t : Table) : Option Config := do
  let listener ← section? t "listener" Listener.ofSource?
  let origin ← section? t "upstream" Origin.ofSource?
  let timeouts ← section? t "timeouts" Timeouts.ofSource?
  let pool ← section? t "pool" Pool.ofSource?
  let observability ← section? t "observability" Observability.ofSource?
  let lifecycle ← section? t "lifecycle" Lifecycle.ofSource?
  return { listener, origin, timeouts, pool, observability, lifecycle }

end Config

end Funnel
