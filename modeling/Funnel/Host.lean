import Funnel.Address.Basic
import Funnel.Fault.Basic

/-!
What the gateway stands on: the operating system, as far as it answers requests to listen and to
connect, and the TLS library, as far as it has what the gateway wants of it.
-/

namespace Funnel

structure Host where
  /-- A request to listen: the error number, or the address that is bound. -/
  listen : SocketAddress → Except Int SocketAddress
  /-- A request for the address of a listener: the error number, or the address. -/
  nameOf : SocketAddress → Except Int SocketAddress := .ok
  /-- A request to connect: the error number, or nothing. -/
  connect : SocketAddress → Except Int Unit
  /-- A request for the settings of TLS clients: the fault, or nothing. -/
  tls : Except TlsFault Unit := .ok ()

namespace Host

/-- `a` is listened on from now on, and by nobody else. -/
def occupy (h : Host) (a : SocketAddress) : Host :=
  { h with listen := fun b => if b = a then .error 98 else h.listen b }

/-- Numbers below are kept for privileged programs. -/
def firstFreeNumber : UInt16 := 1024

/-- The number stands for any free one. -/
def isPrivileged (number : UInt16) : Bool := number ≠ 0 && number < firstFreeNumber

/-- An IPv6 address that needs no interface: the unspecified one, or one that stands for IPv4. -/
def needsNoInterface (ip : Address.V6) : Bool :=
  ip.groups.all (· = 0) || ip.mapped?.isSome

/-- A host without any interface, for a program without privileges. It takes every IPv4 address for
its own, and reaches nobody. -/
def isolated : Host where
  listen a :=
    if isPrivileged a.number then .error 13
    else match a with
      | .v4 _ _ => .ok a
      | .v6 ip _ _ => if needsNoInterface ip then .ok a else .error 99
  connect _ := .error 101

end Host

end Funnel
