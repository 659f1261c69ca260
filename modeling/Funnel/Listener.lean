import Funnel.Address.Printer
import Funnel.Config.Check
import Funnel.Host

/-!
Binding the listener for local clients. It either works at once or the gateway does not start.
-/

namespace Funnel.Listener

/-- Why there is no listener. -/
inductive BindError where
  /-- The configured text is no socket address. -/
  | address (text : String)
  | refused (address : SocketAddress) (code : Int)
deriving DecidableEq, Repr

def BindError.kind : BindError → String
  | address _ => "Address"
  | refused _ _ => "Bind"

def BindError.message : BindError → String
  | address text =>
    "invalid listen address " ++ Text.quoted text ++ ": invalid socket address syntax"
  | refused a code => "failed to bind " ++ a.toText ++ ": " ++ Errno.message code

/-- The address that is bound for the configured one. -/
def bind (host : Host) (c : Config.Listener) : Except BindError SocketAddress :=
  match SocketAddress.ofText? c.bindAddress with
  | none => .error (.address c.bindAddress)
  | some a => (host.listen a).mapError (.refused a)

end Funnel.Listener
