import Funnel.Address.Reader
import Funnel.Config.Basic
import Funnel.Text.Quoted
import Funnel.Uri.Authority

/-!
What a configuration has to satisfy beside having the right types. `check` lists every problem, so
that a bad file is mended in one pass.
-/

namespace Funnel.Config

/-- One thing wrong with a configuration. -/
inductive Problem where
  | bindAddress (text : String)
  | originHost (text : String)
  | zeroTimeout (field : String)
  | zeroPingTimeout
  | metricsAddress (text : String)
deriving DecidableEq, Repr

namespace Problem

/-- The label of a problem. -/
def kind : Problem → String
  | bindAddress _ => "BindAddress"
  | originHost _ => "UpstreamHost"
  | zeroTimeout _ => "ZeroTimeout"
  | zeroPingTimeout => "ZeroKeepAliveTimeout"
  | metricsAddress _ => "MetricsAddress"

def message : Problem → String
  | bindAddress s => "listener.bind_address " ++ Text.quoted s ++ " is not a socket address"
  | originHost s => "upstream.host " ++ Text.quoted s ++ " is not a valid host[:port]"
  | zeroTimeout field => "timeouts." ++ field ++ " must be greater than zero"
  | zeroPingTimeout =>
    "pool.http2_keep_alive_timeout_secs must be greater than zero when pings are enabled"
  | metricsAddress s =>
    "observability.metrics_address " ++ Text.quoted s ++ " is not a socket address"

end Problem

/-- The problems on one line. -/
def summary (problems : List Problem) : String :=
  "invalid configuration: " ++ ", ".intercalate (problems.map (·.message))

/-- A host is an authority without scheme, path and userinfo. -/
def checkHost (host : String) : Except Problem Uri.Authority :=
  if host = "" ∨ host.toList.contains '/' ∨ host.toList.contains '@' then .error (.originHost host)
  else match Uri.Authority.ofText? host with
    | some a => .ok a
    | none => .error (.originHost host)

/-- `problem` alone if `wrong` holds. -/
def problemIf (wrong : Bool) (problem : Problem) : List Problem := if wrong then [problem] else []

def hostProblems (host : String) : List Problem :=
  match checkHost host with
  | .ok _ => []
  | .error p => [p]

/-- Every problem, in the order of the sections. -/
def check (c : Config) : List Problem :=
  problemIf (SocketAddress.ofText? c.listener.bindAddress).isNone
      (.bindAddress c.listener.bindAddress) ++
    hostProblems c.origin.host ++
    problemIf (c.timeouts.connectSecs = 0) (.zeroTimeout "connect_secs") ++
    problemIf (c.timeouts.responseSecs = 0) (.zeroTimeout "response_secs") ++
    problemIf (c.pool.pingIntervalSecs ≠ 0 ∧ c.pool.pingTimeoutSecs = 0) .zeroPingTimeout ++
    problemIf (c.observability.metricsEnabled &&
        (SocketAddress.ofText? c.observability.metricsAddress).isNone)
      (.metricsAddress c.observability.metricsAddress)

end Funnel.Config
