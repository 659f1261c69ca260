import Funnel.Duration
import Funnel.Http.Message

/-!
Why forwarding a request failed before a response head arrived, and the response that the local
client gets then: 504 for the two timeouts, 502 for everything else. Nothing is tried again.
-/

namespace Funnel.Forward

open Http

/-- Why a single forward failed. -/
inductive Failure where
  | connect (detail : String)
  | tls (detail : String)
  | connectTimeout (after : Duration)
  | responseTimeout (after : Duration)
  | closed (detail : String)
  | protocol (detail : String)
deriving DecidableEq, Repr

namespace Failure

/-- The short label for logs and metrics. -/
def kind : Failure → String
  | connect _ => "connect"
  | tls _ => "tls"
  | connectTimeout _ => "connect_timeout"
  | responseTimeout _ => "response_timeout"
  | closed _ => "closed"
  | protocol _ => "protocol"

/-- All labels. -/
def kinds : List String :=
  ["connect", "tls", "connect_timeout", "response_timeout", "closed", "protocol"]

def isTimeout : Failure → Bool
  | connectTimeout _ | responseTimeout _ => true
  | _ => false

def message : Failure → String
  | connect detail => "connect failed: " ++ detail
  | tls detail => "TLS handshake failed: " ++ detail
  | connectTimeout d => "connect timed out after " ++ d.toText
  | responseTimeout d => "no response head within " ++ d.toText
  | closed detail => "upstream connection closed: " ++ detail
  | protocol detail => "upstream protocol error: " ++ detail

end Failure

/-- The status and the reason that stand in for an origin's answer. -/
structure GatewayFailure where
  status : Nat
  reason : String
deriving DecidableEq, Repr

namespace GatewayFailure

def ofFailure (f : Failure) : GatewayFailure :=
  ⟨if f.isTimeout then 504 else 502, f.message⟩

/-- What the status is called. -/
def statusName (g : GatewayFailure) : String :=
  if g.status = 504 then "Gateway Timeout" else "Bad Gateway"

/-- One line of plain text with status and reason. -/
def text (g : GatewayFailure) : String :=
  toString g.status ++ " " ++ g.statusName ++ ": " ++ g.reason ++ "\n"

def response (g : GatewayFailure) : Response Bytes where
  status := g.status
  version := .http11
  headers := Headers.empty.insert "content-type" (Bytes.ofText "text/plain; charset=utf-8")
  body := Bytes.ofText g.text

end GatewayFailure

end Funnel.Forward
