import Funnel.Text.Number

/-!
The authority of a URI: `userinfo@host:number`, kept as the text it was written as.
-/

namespace Funnel.Uri

/-- Marks that may stand in an authority beside letters and digits, brackets, colon and at sign. -/
def authorityMarks : List Char :=
  ['!', '$', '&', '\'', '(', ')', '*', '+', ',', '-', '.', ';', '=', '_', '~']

def isPlainAuthorityChar (c : Char) : Bool := c.isAlphanum || authorityMarks.contains c

/-- What ends an authority inside a longer text. -/
def isAuthorityEnd (c : Char) : Bool := c = '/' || c = '?' || c = '#'

/-- What a scan from the left has met so far. -/
structure AuthorityScan where
  /-- Colons since the userinfo or the bracketed address ended. -/
  colons : Nat
  opened : Bool
  closed : Bool
  /-- A percent sign since the userinfo or the bracketed address ended. -/
  percent : Bool
  /-- The last character was the at sign. -/
  atSign : Bool

def AuthorityScan.start : AuthorityScan := ⟨0, false, false, false, false⟩

/-- No address has more colons than this. -/
def maxColons : Nat := 8

/-- One character further, unless the text is wrong there. -/
def AuthorityScan.step (s : AuthorityScan) (c : Char) : Option AuthorityScan :=
  let s := { s with atSign := false }
  if c = ':' then
    if s.colons < maxColons then some { s with colons := s.colons + 1 } else none
  else if c = '[' then
    if s.percent || s.opened then none else some { s with opened := true }
  else if c = ']' then
    if s.opened && !s.closed then some { s with closed := true, colons := 0, percent := false }
    else none
  else if c = '@' then some { s with colons := 0, percent := false, atSign := true }
  else if c = '%' then some { s with percent := true }
  else if isPlainAuthorityChar c then some s
  else none

/-- Brackets are paired, at most one colon leads to a number, and the host has no percent sign. -/
def AuthorityScan.accepts (s : AuthorityScan) : Bool :=
  s.opened = s.closed && s.colons ≤ 1 && !s.atSign && !s.percent

/-- The characters, none of which ends an authority, form one; possibly the empty one. -/
def isAuthority (cs : List Char) : Bool :=
  match cs.foldlM AuthorityScan.step AuthorityScan.start with
  | some s => s.accepts
  | none => false

/-- A non-empty authority. -/
structure Authority where
  text : String
deriving DecidableEq, Repr

namespace Authority

def ofText? (s : String) : Option Authority :=
  if s ≠ "" ∧ isAuthority s.toList then some ⟨s⟩ else none

/-- The text after the last of the characters that `p` holds of, or the whole text. -/
def afterLast (p : Char → Bool) (cs : List Char) : List Char :=
  (cs.reverse.takeWhile fun c => !p c).reverse

/-- The host: past the userinfo, a bracketed address with its brackets, else what is before the
colon. -/
def host (a : Authority) : String :=
  let cs := afterLast (· = '@') a.text.toList
  match cs with
  | '[' :: _ => String.ofList (cs.takeWhile (· ≠ ']') ++ [']'])
  | _ => String.ofList (cs.takeWhile (· ≠ ':'))

/-- The number after the last colon, if there is a colon and a number below 65536 follows it. -/
def number? (a : Authority) : Option Nat :=
  if a.text.toList.contains ':' then
    Text.natBelow? 65536 (afterLast (· = ':') a.text.toList)
  else none

end Authority

end Funnel.Uri
