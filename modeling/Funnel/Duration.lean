/-!
Lengths of time in whole nanoseconds, and the text that shows one in the largest unit it fills.
-/

namespace Funnel

/-- A length of time. -/
structure Duration where
  nanos : Nat
deriving DecidableEq, Repr, Inhabited

namespace Duration

def ofSecs (n : Nat) : Duration := ⟨n * 1000000000⟩

def ofMillis (n : Nat) : Duration := ⟨n * 1000000⟩

/-- A unit of time: its length, how many decimal places resolve it to nanoseconds, its symbol. -/
structure Scale where
  nanos : Nat
  places : Nat
  symbol : String

/-- The largest of seconds, milliseconds and microseconds that fits into `d`, else nanoseconds. -/
def unit (d : Duration) : Scale :=
  if 1000000000 ≤ d.nanos then ⟨1000000000, 9, "s"⟩
  else if 1000000 ≤ d.nanos then ⟨1000000, 6, "ms"⟩
  else if 1000 ≤ d.nanos then ⟨1000, 3, "µs"⟩
  else ⟨1, 0, "ns"⟩

/-- The digits of `n` in `places` decimal places, without the zeros that end them. -/
def decimals (places n : Nat) : List Char :=
  let digits := Nat.toDigits 10 n
  ((List.replicate (places - digits.length) '0' ++ digits).reverse.dropWhile (· = '0')).reverse

/-- The whole and the decimal part of `d` in its unit, to full precision: `1.5s`, `20ms`, `0ns`. -/
def toText (d : Duration) : String :=
  let u := d.unit
  let part := decimals u.places (d.nanos % u.nanos)
  toString (d.nanos / u.nanos) ++ String.ofList (if part = [] then [] else '.' :: part) ++ u.symbol

end Duration

end Funnel
