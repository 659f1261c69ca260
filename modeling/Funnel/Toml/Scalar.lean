import Funnel.Text.Number
import Funnel.Toml.Value

/-!
Numbers, dates and times of a TOML document. Digits may be grouped by single underscores.
-/

namespace Funnel.Toml

open Text

/-- Digits, single underscores between them, up to the first character that is neither. -/
def moreDigits (radix : Nat) : List Char → Option (List Char × List Char)
  | [] => some ([], [])
  | '_' :: c :: rest =>
    if isDigit radix c then (moreDigits radix rest).map fun (ds, rest) => (c :: ds, rest) else none
  | c :: rest =>
    if isDigit radix c then (moreDigits radix rest).map fun (ds, rest) => (c :: ds, rest)
    else if c = '_' then none
    else some ([], c :: rest)

/-- At least one digit. -/
def readDigits (radix : Nat) : List Char → Option (List Char × List Char)
  | [] => none
  | c :: rest =>
    if isDigit radix c then (moreDigits radix rest).map fun (ds, rest) => (c :: ds, rest) else none

/-- Whether a minus sign stands in front, and the text behind the sign. -/
def readSign : List Char → Bool × List Char
  | '-' :: rest => (true, rest)
  | '+' :: rest => (false, rest)
  | cs => (false, cs)

/-- A decimal number without leading zeros. -/
def readWhole : List Char → Option (List Char × List Char)
  | '0' :: rest => some (['0'], rest)
  | cs => readDigits 10 cs

/-- Integers fill 64 bits. -/
def integer? (n : Int) : Option Value :=
  if -9223372036854775808 ≤ n ∧ n ≤ 9223372036854775807 then some (.integer n) else none

/-- The least number, in units of one, that double precision rounds to infinity. -/
def overflowBound : Nat := Nat.pow 2 1024 - Nat.pow 2 970

/-- Double precision rounds `mantissa * 10 ^ exponent` to infinity. The number of digits decides,
save near the bound. -/
def overflows (mantissa : Nat) (exponent : Int) : Bool :=
  let size := (Nat.toDigits 10 mantissa).length + exponent
  if mantissa = 0 ∨ size ≤ 308 then false
  else if 310 ≤ size then true
  else if 0 ≤ exponent then overflowBound ≤ mantissa * Nat.pow 10 exponent.toNat
  else overflowBound * Nat.pow 10 (-exponent).toNat ≤ mantissa

/-- The text in front of `rest`. -/
def written (cs rest : List Char) : String := String.ofList (cs.take (cs.length - rest.length))

/-- A fraction, digits behind a point, if one follows. -/
def readFraction : List Char → Option (List Char × List Char)
  | '.' :: rest => readDigits 10 rest
  | cs => some ([], cs)

/-- An exponent, if one follows. -/
def readExponent : List Char → Option (Int × List Char)
  | c :: rest =>
    if c = 'e' || c = 'E' then
      let (negative, rest) := readSign rest
      (readDigits 10 rest).map fun (ds, rest) =>
        (if negative then -(ofDigits 10 ds : Int) else ofDigits 10 ds, rest)
    else some (0, c :: rest)
  | [] => some (0, [])

/-- An integer in decimal, or a number with a fraction or an exponent. A positive number beyond
double precision is refused. -/
def readDecimal (cs : List Char) : Option (Value × List Char) := do
  let (negative, body) := readSign cs
  let (whole, afterWhole) ← readWhole body
  let (fraction, afterFraction) ← readFraction afterWhole
  let (exponent, rest) ← readExponent afterFraction
  if rest.length = afterWhole.length then
    let n : Int := ofDigits 10 whole
    let v ← integer? (if negative then -n else n)
    return (v, rest)
  else if !negative && overflows (ofDigits 10 (whole ++ fraction)) (exponent - fraction.length) then
    none
  else return (.float (written cs rest), rest)

/-- Infinity or not a number, with or without sign. -/
def readSpecial (cs : List Char) : Option (Value × List Char) :=
  match (readSign cs).2 with
  | 'i' :: 'n' :: 'f' :: rest => some (.float (written cs rest), rest)
  | 'n' :: 'a' :: 'n' :: rest => some (.float (written cs rest), rest)
  | _ => none

/-- The digits of an integer in a radix that is named in front. -/
def readPrefixed (radix : Nat) (cs : List Char) : Option (Value × List Char) := do
  let (ds, rest) ← readDigits radix cs
  let v ← integer? (ofDigits radix ds)
  return (v, rest)

/-- A number of two digits from `lo` to `hi`. -/
def twoDigits? (lo hi : Nat) (a b : Char) : Option Nat :=
  if isDigit 10 a && isDigit 10 b then
    let n := ofDigits 10 [a, b]
    if lo ≤ n ∧ n ≤ hi then some n else none
  else none

def isLeap (year : Nat) : Bool := year % 4 = 0 && (year % 100 ≠ 0 || year % 400 = 0)

def daysIn (year month : Nat) : Nat :=
  if month = 2 then if isLeap year then 29 else 28
  else if month = 4 ∨ month = 6 ∨ month = 9 ∨ month = 11 then 30
  else 31

/-- A day of the calendar. -/
def readDate : List Char → Option (List Char)
  | a :: b :: c :: d :: '-' :: m :: n :: '-' :: x :: y :: rest => do
    if !([a, b, c, d].all (isDigit 10)) then none
    let month ← twoDigits? 1 12 m n
    let _ ← twoDigits? 1 (daysIn (ofDigits 10 [a, b, c, d]) month) x y
    return rest
  | _ => none

/-- A time of day, to any fraction of a second. -/
def readTime : List Char → Option (List Char)
  | a :: b :: ':' :: c :: d :: ':' :: e :: f :: rest => do
    let _ ← twoDigits? 0 23 a b
    let _ ← twoDigits? 0 59 c d
    let _ ← twoDigits? 0 60 e f
    match rest with
    | '.' :: digits =>
      if digits.takeWhile (isDigit 10) = [] then none
      else return digits.dropWhile (isDigit 10)
    | _ => return rest
  | _ => none

/-- The distance to universal time, if it is given. -/
def readOffset : List Char → Option (List Char)
  | 'Z' :: rest => some rest
  | 'z' :: rest => some rest
  | s :: a :: b :: ':' :: c :: d :: rest =>
    if s = '+' || s = '-' then do
      let _ ← twoDigits? 0 23 a b
      let _ ← twoDigits? 0 59 c d
      return rest
    else none
  | _ => none

/-- A time of day and its offset behind a date. -/
def readTimeOfDate : List Char → Option (List Char)
  | c :: rest =>
    if c = 'T' || c = 't' || c = ' ' then
      (readTime rest).map fun rest => (readOffset rest).getD rest
    else none
  | [] => none

/-- A date, a time, or both. -/
def readMoment (cs : List Char) : Option (Value × List Char) :=
  let rest := match readDate cs with
    | some rest => some ((readTimeOfDate rest).getD rest)
    | none => readTime cs
  rest.map fun rest => (.moment (written cs rest), rest)

/-- A number, a date or time, or a truth value. -/
def readScalar (cs : List Char) : Option (Value × List Char) :=
  match cs with
  | 't' :: 'r' :: 'u' :: 'e' :: rest => some (.boolean true, rest)
  | 'f' :: 'a' :: 'l' :: 's' :: 'e' :: rest => some (.boolean false, rest)
  | '0' :: 'x' :: rest => readPrefixed 16 rest
  | '0' :: 'o' :: rest => readPrefixed 8 rest
  | '0' :: 'b' :: rest => readPrefixed 2 rest
  | _ => ((readMoment cs).or (readSpecial cs)).or (readDecimal cs)

end Funnel.Toml
