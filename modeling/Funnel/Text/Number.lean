/-!
Whole numbers at the front of a text, and as the whole of a text.
-/

namespace Funnel.Text

/-- The value of a digit in radix ten or less, or in radix sixteen with letters of either case. -/
def digitValue? (radix : Nat) (c : Char) : Option Nat :=
  let value :=
    if '0' ≤ c ∧ c ≤ '9' then c.toNat - 48
    else if 'a' ≤ c ∧ c ≤ 'f' then c.toNat - 87
    else if 'A' ≤ c ∧ c ≤ 'F' then c.toNat - 55
    else 16
  if value < radix then some value else none

def isDigit (radix : Nat) (c : Char) : Bool := (digitValue? radix c).isSome

/-- The number that `digits` write in `radix`, the most significant first. -/
def ofDigits (radix : Nat) (digits : List Char) : Nat :=
  digits.foldl (fun n c => n * radix + (digitValue? radix c).getD 0) 0

/-- All digits at the front of the text as a number, and the rest; none without a digit. -/
def readNumber (radix : Nat) (cs : List Char) : Option (List Char × Nat × List Char) :=
  let digits := cs.takeWhile (isDigit radix)
  if digits = [] then none
  else some (digits, ofDigits radix digits, cs.dropWhile (isDigit radix))

/-- A whole text as a number below `bound`, with one plus sign allowed in front. -/
def natBelow? (bound : Nat) (cs : List Char) : Option Nat :=
  let digits := match cs with
    | '+' :: rest => rest
    | _ => cs
  if digits ≠ [] ∧ digits.all (isDigit 10) ∧ ofDigits 10 digits < bound then
    some (ofDigits 10 digits)
  else none

end Funnel.Text
