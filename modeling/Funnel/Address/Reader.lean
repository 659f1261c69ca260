import Funnel.Address.Basic
import Funnel.Text.Number

/-!
Reading addresses. An octet has at most three digits and no leading zero, a group at most four
hexadecimal digits; `::` stands for at least one group; a dotted quad may end an IPv6 address where
two groups are left.
-/

namespace Funnel

namespace Address

open Text

/-- The character `c` in front of the text. -/
def readChar (c : Char) : List Char → Option (List Char)
  | [] => none
  | d :: rest => if d = c then some rest else none

/-- A decimal number below `bound`, of any length. -/
def readDecimal (bound : Nat) (cs : List Char) : Option (Nat × List Char) :=
  match readNumber 10 cs with
  | some (_, n, rest) => if n < bound then some (n, rest) else none
  | none => none

def readOctet (cs : List Char) : Option (UInt8 × List Char) :=
  match readNumber 10 cs with
  | some (digits, n, rest) =>
    if digits.length ≤ 3 ∧ (digits.head? = some '0' → digits.length = 1) ∧ n < 256 then
      some (UInt8.ofNat n, rest)
    else none
  | none => none

/-- A dot and an octet. -/
def readDotOctet (cs : List Char) : Option (UInt8 × List Char) := (readChar '.' cs).bind readOctet

def readV4 (cs : List Char) : Option (V4 × List Char) := do
  let (a, cs) ← readOctet cs
  let (b, cs) ← readDotOctet cs
  let (c, cs) ← readDotOctet cs
  let (d, cs) ← readDotOctet cs
  return (⟨a, b, c, d⟩, cs)

def readGroup (cs : List Char) : Option (UInt16 × List Char) :=
  match readNumber 16 cs with
  | some (digits, n, rest) => if digits.length ≤ 4 then some (UInt16.ofNat n, rest) else none
  | none => none

/-- Groups that were read, whether a dotted quad ended them, and the text behind them. -/
structure Groups where
  groups : List UInt16
  dotted : Bool
  rest : List Char

/-- At most `room` groups, each but the first behind a colon. A dotted quad takes the room of two
and ends them. -/
def readGroups : (first : Bool) → (room : Nat) → List Char → Groups
  | _, 0, cs => ⟨[], false, cs⟩
  | first, room + 1, cs =>
    match if first then some cs else readChar ':' cs with
    | none => ⟨[], false, cs⟩
    | some body =>
      match if 1 ≤ room then readV4 body else none with
      | some (quad, rest) => ⟨quad.groups, true, rest⟩
      | none =>
        match readGroup body with
        | none => ⟨[], false, cs⟩
        | some (g, rest) =>
          let more := readGroups false room rest
          ⟨g :: more.groups, more.dotted, more.rest⟩

/-- Eight groups of which the last are `tail` and the first `head`, with zeros between. -/
def V6.ofParts? (head tail : List UInt16) : Option V6 :=
  let groups := head ++ List.replicate (8 - head.length - tail.length) 0 ++ tail
  if h : groups.length = 8 then some ⟨groups, h⟩ else none

def readV6 (cs : List Char) : Option (V6 × List Char) :=
  let head := readGroups true 8 cs
  if head.groups.length = 8 then (V6.ofParts? head.groups []).map (·, head.rest)
  else if head.dotted then none
  else do
    let rest ← readChar ':' head.rest
    let rest ← readChar ':' rest
    let tail := readGroups true (7 - head.groups.length) rest
    let ip ← V6.ofParts? head.groups tail.groups
    return (ip, tail.rest)

/-- A colon and a number below 65536. -/
def readColonNumber (cs : List Char) : Option (UInt16 × List Char) := do
  let rest ← readChar ':' cs
  let (n, rest) ← readDecimal 65536 rest
  return (UInt16.ofNat n, rest)

/-- A percent sign and a number, or no scope at all. -/
def readScope (cs : List Char) : Option (UInt32 × List Char) :=
  match (readChar '%' cs).bind (readDecimal 4294967296) with
  | some (n, rest) => some (UInt32.ofNat n, rest)
  | none => some (0, cs)

def readSocketV4 (cs : List Char) : Option (SocketAddress × List Char) := do
  let (ip, rest) ← readV4 cs
  let (n, rest) ← readColonNumber rest
  return (.v4 ip n, rest)

def readSocketV6 (cs : List Char) : Option (SocketAddress × List Char) := do
  let rest ← readChar '[' cs
  let (ip, rest) ← readV6 rest
  let (scope, rest) ← readScope rest
  let rest ← readChar ']' rest
  let (n, rest) ← readColonNumber rest
  return (.v6 ip n scope, rest)

/-- A value that takes the whole text. -/
def whole {α : Type} (r : Option (α × List Char)) : Option α :=
  match r with
  | some (x, []) => some x
  | _ => none

end Address

/-- The IP address that a text writes. -/
def IpAddress.ofText? (s : String) : Option IpAddress :=
  Address.whole <|
    ((Address.readV4 s.toList).map fun (ip, rest) => (IpAddress.v4 ip, rest)).or
      ((Address.readV6 s.toList).map fun (ip, rest) => (IpAddress.v6 ip, rest))

/-- The socket address that a text writes. -/
def SocketAddress.ofText? (s : String) : Option SocketAddress :=
  Address.whole ((Address.readSocketV4 s.toList).or (Address.readSocketV6 s.toList))

end Funnel
