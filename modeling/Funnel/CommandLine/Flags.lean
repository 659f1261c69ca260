import Funnel.Address.Printer
import Funnel.Address.Reader
import Funnel.Config.Load

/-!
What the command line sets: a file to load, and fields that win over the file's. Flags are laid over
a configuration that has been checked already, and are not checked themselves.
-/

namespace Funnel.CommandLine

structure Flags where
  /-- The configuration file. -/
  config : Option String := none
  serverHost : Option String := none
  number : Option UInt16 := none
  listenAddress : Option IpAddress := none
  logFormat : Option Config.LogFormat := none
deriving DecidableEq, Repr

namespace Flags

/-- The address to listen on: what the flags give, then what the configuration gives, then the
loopback address and the default number. -/
def bindAddress (f : Flags) (configured : String) : SocketAddress :=
  let current := SocketAddress.ofText? configured
  let ip := (f.listenAddress.or (current.map (·.ip))).getD (.v4 .loopback)
  let number := (f.number.or (current.map (·.number))).getD Config.defaultNumber
  .ofIp ip number

/-- The flags over a configuration. -/
def overlay (f : Flags) (c : Config) : Config :=
  { c with
    origin := ⟨f.serverHost.getD c.origin.host⟩
    listener :=
      if f.number.isSome || f.listenAddress.isSome then
        ⟨(f.bindAddress c.listener.bindAddress).toText⟩
      else c.listener
    observability :=
      { c.observability with logFormat := f.logFormat.getD c.observability.logFormat } }

/-- Defaults, then the file, then the flags. -/
def configuration (f : Flags) (read : Config.TextReader) : Except Config.LoadError Config := do
  let c ← match f.config with
    | some path => Config.load read path
    | none => .ok {}
  return f.overlay c

end Flags

end Funnel.CommandLine
