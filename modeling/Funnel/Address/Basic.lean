/-!
IP addresses, and socket addresses: an IP address and a number below 65536, with a scope beside an
IPv6 address.
-/

namespace Funnel

namespace Address

structure V4 where
  a : UInt8
  b : UInt8
  c : UInt8
  d : UInt8
deriving DecidableEq, Repr

/-- Eight groups of sixteen bits. -/
structure V6 where
  groups : List UInt16
  length_groups : groups.length = 8
deriving DecidableEq, Repr

end Address

/-- An IP address of either version. -/
inductive IpAddress where
  | v4 (ip : Address.V4)
  | v6 (ip : Address.V6)
deriving DecidableEq, Repr

/-- Where a listener binds. The scope tells interfaces apart; zero is none. -/
inductive SocketAddress where
  | v4 (ip : Address.V4) (number : UInt16)
  | v6 (ip : Address.V6) (number : UInt16) (scope : UInt32)
deriving DecidableEq, Repr

namespace Address.V4

def loopback : V4 := ⟨127, 0, 0, 1⟩

/-- The two groups that an address in dotted form fills inside an IPv6 address. -/
def groups (ip : V4) : List UInt16 :=
  [ip.a.toUInt16 * 256 + ip.b.toUInt16, ip.c.toUInt16 * 256 + ip.d.toUInt16]

end Address.V4

namespace Address.V6

/-- The IPv4 address that `::ffff:a.b.c.d` stands for. -/
def mapped? (ip : V6) : Option V4 :=
  match ip.groups with
  | [0, 0, 0, 0, 0, 0xFFFF, x, y] =>
    some ⟨(x / 256).toUInt8, x.toUInt8, (y / 256).toUInt8, y.toUInt8⟩
  | _ => none

end Address.V6

namespace SocketAddress

/-- A socket address without a scope. -/
def ofIp : IpAddress → UInt16 → SocketAddress
  | .v4 ip, n => .v4 ip n
  | .v6 ip, n => .v6 ip n 0

def ip : SocketAddress → IpAddress
  | .v4 ip _ => .v4 ip
  | .v6 ip _ _ => .v6 ip

def number : SocketAddress → UInt16
  | .v4 _ n => n
  | .v6 _ n _ => n

end SocketAddress

end Funnel
