import Funnel.Forward.Failure

/-!
Metrics: counters and gauges by series. A series shows up once something has touched it.
-/

namespace Funnel

/-- The protocol that a connection to the origin speaks. -/
inductive Protocol where
  /-- One exchange at a time. -/
  | http1
  /-- Multiplexed streams. -/
  | http2
deriving DecidableEq, Repr

def Protocol.name : Protocol → String
  | http1 => "http/1.1"
  | http2 => "h2"

def Protocol.ofName? (s : String) : Option Protocol :=
  if s = "h2" then some .http2 else if s = "http/1.1" then some .http1 else none

/-- One line of the exposition. -/
inductive Series where
  /-- Requests answered, by status. -/
  | requests (status : Nat)
  /-- Requests whose time to the response head was recorded. -/
  | requestDurations
  /-- Forwards that failed, by kind. -/
  | failures (kind : String)
  /-- Connections to the origin ever opened, by protocol. -/
  | originOpened (protocol : Protocol)
  /-- Connections to the origin that are alive. -/
  | originActive
  /-- Connections of local clients that are alive. -/
  | inboundActive
deriving DecidableEq, Repr

namespace Series

/-- A label in braces. -/
def labelled (name label value : String) : String :=
  name ++ "\x7b" ++ label ++ "=\"" ++ value ++ "\"\x7d"

def name : Series → String
  | requests status => labelled "proxy_requests_total" "status" (toString status)
  | requestDurations => "proxy_request_duration_seconds_count"
  | failures kind => labelled "proxy_gateway_failures_total" "kind" kind
  | originOpened p => labelled "proxy_upstream_connections_opened_total" "protocol" p.name
  | originActive => "proxy_upstream_connections_active"
  | inboundActive => "proxy_inbound_connections_active"

end Series

/-- Something that a metric counts. -/
inductive MetricEvent where
  | request (status : Nat)
  | failure (kind : String)
  | originOpened (protocol : Protocol)
  | originClosed
  | inboundOpened
  | inboundClosed
deriving DecidableEq, Repr

/-- It is about a connection, not about a request. -/
def MetricEvent.isConnection : MetricEvent → Bool
  | request _ | failure _ => false
  | originOpened _ | originClosed | inboundOpened | inboundClosed => true

/-- The values of the series touched so far. -/
structure Metrics where
  samples : List (Series × Int)
deriving DecidableEq, Repr

namespace Metrics

def empty : Metrics := ⟨[]⟩

/-- The value of a series; one that nothing has touched counts as zero. -/
def value (m : Metrics) (s : Series) : Int :=
  match m.samples.find? (·.1 = s) with
  | some (_, n) => n
  | none => 0

/-- `delta` more for `s`. -/
def add (m : Metrics) (s : Series) (delta : Int) : Metrics :=
  ⟨(s, m.value s + delta) :: m.samples.filter (·.1 ≠ s)⟩

def record (m : Metrics) : MetricEvent → Metrics
  | .request status => (m.add (.requests status) 1).add .requestDurations 1
  | .failure kind => m.add (.failures kind) 1
  | .originOpened p => (m.add (.originOpened p) 1).add .originActive 1
  | .originClosed => m.add .originActive (-1)
  | .inboundOpened => m.add .inboundActive 1
  | .inboundClosed => m.add .inboundActive (-1)

/-- The exposition: a line per series, sorted. -/
def lines (m : Metrics) : List String :=
  (m.samples.map fun (s, n) => s.name ++ " " ++ toString n).mergeSort (· ≤ ·)

@[simp] theorem value_empty (s : Series) : empty.value s = 0 := rfl

@[simp] theorem value_add (m : Metrics) (s : Series) (delta : Int) (t : Series) :
    (m.add s delta).value t = if s = t then m.value s + delta else m.value t := by
  by_cases e : s = t
  · simp [value, add, e]
  · have keep : (m.samples.filter (·.1 ≠ s)).find? (·.1 = t) = m.samples.find? (·.1 = t) := by
      rw [List.find?_filter]
      congr 1
      funext x
      by_cases hx : x.1 = t
      · simp [hx, Ne.symm e]
      · simp [hx]
    simp only [value, add, e, List.find?_cons, decide_false, if_false, keep]

end Metrics

end Funnel
