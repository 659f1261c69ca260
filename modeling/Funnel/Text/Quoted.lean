import Funnel.Text.Unprintable

/-!
Text between double quotes: what an operator cannot read in a message is written as an escape.
-/

namespace Funnel.Text

/-- A quote, a backslash and the common controls get a backslash and one letter; every other
unprintable character its number in hexadecimal. -/
def escape (c : Char) : List Char :=
  if c = '"' then ['\\', '"']
  else if c = '\\' then ['\\', '\\']
  else if c = '\t' then ['\\', 't']
  else if c = '\r' then ['\\', 'r']
  else if c = '\n' then ['\\', 'n']
  else if c = '\x00' then ['\\', '0']
  else if isUnprintable c then ['\\', 'u', '{'] ++ Nat.toDigits 16 c.toNat ++ ['}']
  else [c]

/-- `s` between double quotes, each character escaped where needed. -/
def quoted (s : String) : String :=
  String.ofList ('"' :: s.toList.flatMap escape ++ ['"'])

end Funnel.Text
