import Funnel.Address.Basic

/-!
Texts of addresses. An IPv6 address shortens its first longest run of at least two zero groups to
`::`, and shows the IPv4 address that it maps in dotted form.
-/

namespace Funnel

namespace Address

def decimal (n : Nat) : List Char := Nat.toDigits 10 n

def V4.chars (ip : V4) : List Char :=
  decimal ip.a.toNat ++ '.' :: decimal ip.b.toNat ++ '.' :: decimal ip.c.toNat ++ '.' ::
    decimal ip.d.toNat

/-- A run of zero groups: where it starts and how long it is. -/
structure Run where
  start : Nat
  length : Nat
deriving DecidableEq, Repr

/-- Over the groups from position `i` on: `current` is the run that ends before them, `best` the
first longest one so far. -/
def longestRun (i : Nat) (current best : Run) : List UInt16 → Run
  | [] => best
  | g :: rest =>
    if g = 0 then
      let longer : Run :=
        if current.length = 0 then ⟨i, 1⟩ else ⟨current.start, current.length + 1⟩
      longestRun (i + 1) longer (if best.length < longer.length then longer else best) rest
    else longestRun (i + 1) ⟨0, 0⟩ best rest

def hexGroup (g : UInt16) : List Char := Nat.toDigits 16 g.toNat

/-- Groups in hexadecimal, with colons between. -/
def colonGroups (gs : List UInt16) : List Char := [':'].intercalate (gs.map hexGroup)

def V6.chars (ip : V6) : List Char :=
  match ip.mapped? with
  | some v4 => "::ffff:".toList ++ v4.chars
  | none =>
    let zeros := longestRun 0 ⟨0, 0⟩ ⟨0, 0⟩ ip.groups
    if 1 < zeros.length then
      colonGroups (ip.groups.take zeros.start) ++ ':' :: ':' ::
        colonGroups (ip.groups.drop (zeros.start + zeros.length))
    else colonGroups ip.groups

end Address

def IpAddress.toText : IpAddress → String
  | .v4 ip => String.ofList ip.chars
  | .v6 ip => String.ofList ip.chars

/-- The characters of `ip:number`, brackets around an IPv6 address and its scope. -/
def SocketAddress.chars : SocketAddress → List Char
  | .v4 ip n => ip.chars ++ ':' :: Address.decimal n.toNat
  | .v6 ip n scope =>
    '[' :: ip.chars ++ (if scope = 0 then [] else '%' :: Address.decimal scope.toNat) ++
      ']' :: ':' :: Address.decimal n.toNat

def SocketAddress.toText (a : SocketAddress) : String := String.ofList a.chars

end Funnel
