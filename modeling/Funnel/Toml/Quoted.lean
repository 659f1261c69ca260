import Funnel.Text.Number
import Funnel.Toml.Blank

/-!
Strings and keys of a TOML document. A reader is given the text behind the opening quotes and
yields the contents and the text behind the closing ones.
-/

namespace Funnel.Toml

/-- What an escape of one letter stands for. -/
def escaped? (c : Char) : Option Char :=
  match c with
  | 'b' => some '\x08'
  | 't' => some '\t'
  | 'n' => some '\n'
  | 'f' => some '\x0c'
  | 'r' => some '\r'
  | '"' => some '"'
  | '\\' => some '\\'
  | _ => none

/-- The character with the number that the hexadecimal digits write. -/
def numbered? (digits : List Char) : Option Char :=
  if digits.all (Text.isDigit 16) then
    let n := Text.ofDigits 16 digits
    if n.isValidChar then some (Char.ofNat n) else none
  else none

/-- `c` in front of the contents that were read. -/
def push (c : Char) (r : Option (List Char × List Char)) : Option (List Char × List Char) :=
  r.map fun (cs, rest) => (c :: cs, rest)

/-- A string in double quotes, on one line. -/
def readBasic : List Char → Option (List Char × List Char)
  | [] => none
  | '"' :: rest => some ([], rest)
  | '\\' :: 'u' :: a :: b :: c :: d :: rest =>
    (numbered? [a, b, c, d]).bind fun x => push x (readBasic rest)
  | '\\' :: 'U' :: a :: b :: c :: d :: e :: f :: g :: h :: rest =>
    (numbered? [a, b, c, d, e, f, g, h]).bind fun x => push x (readBasic rest)
  | '\\' :: c :: rest => (escaped? c).bind fun x => push x (readBasic rest)
  | c :: rest => if isTextChar c && c ≠ '\\' then push c (readBasic rest) else none

/-- Blanks and then a line end follow. -/
def endsLine (cs : List Char) : Bool := (readNewline (skipBlanks cs)).isSome

/-- A string between three double quotes each. Up to two quotes may stand inside before the closing
ones. A backslash at the end of a line takes away all blanks and line ends that follow; `trim` says
that one did. -/
def readBasicLines (trim : Bool) : List Char → Option (List Char × List Char)
  | [] => none
  | '"' :: '"' :: '"' :: '"' :: '"' :: rest => some (['"', '"'], rest)
  | '"' :: '"' :: '"' :: '"' :: rest => some (['"'], rest)
  | '"' :: '"' :: '"' :: rest => some ([], rest)
  | '\r' :: '\n' :: rest =>
    if trim then readBasicLines true rest else push '\n' (readBasicLines false rest)
  | '\\' :: 'u' :: a :: b :: c :: d :: rest =>
    (numbered? [a, b, c, d]).bind fun x => push x (readBasicLines false rest)
  | '\\' :: 'U' :: a :: b :: c :: d :: e :: f :: g :: h :: rest =>
    (numbered? [a, b, c, d, e, f, g, h]).bind fun x => push x (readBasicLines false rest)
  | '\\' :: c :: rest =>
    match escaped? c with
    | some x => push x (readBasicLines false rest)
    | none => if endsLine (c :: rest) then readBasicLines true (c :: rest) else none
  | c :: rest =>
    if c = '\n' || isBlank c then
      if trim then readBasicLines true rest else push c (readBasicLines false rest)
    else if isTextChar c && c ≠ '\\' then push c (readBasicLines false rest)
    else none

/-- A string in single quotes, on one line. -/
def readLiteral : List Char → Option (List Char × List Char)
  | [] => none
  | '\'' :: rest => some ([], rest)
  | c :: rest => if isTextChar c then push c (readLiteral rest) else none

/-- A string between three single quotes each. -/
def readLiteralLines : List Char → Option (List Char × List Char)
  | [] => none
  | '\'' :: '\'' :: '\'' :: '\'' :: '\'' :: rest => some (['\'', '\''], rest)
  | '\'' :: '\'' :: '\'' :: '\'' :: rest => some (['\''], rest)
  | '\'' :: '\'' :: '\'' :: rest => some ([], rest)
  | '\r' :: '\n' :: rest => push '\n' (readLiteralLines rest)
  | c :: rest => if c = '\n' || isTextChar c then push c (readLiteralLines rest) else none

/-- A line end right behind the opening quotes does not count. -/
def dropFirstNewline (cs : List Char) : List Char := (readNewline cs).getD cs

/-- A string of any of the four forms. -/
def readString : List Char → Option (List Char × List Char)
  | '"' :: '"' :: '"' :: rest => readBasicLines false (dropFirstNewline rest)
  | '"' :: rest => readBasic rest
  | '\'' :: '\'' :: '\'' :: rest => readLiteralLines (dropFirstNewline rest)
  | '\'' :: rest => readLiteral rest
  | _ => none

def isBareKeyChar (c : Char) : Bool := c.isAlphanum || c = '_' || c = '-'

/-- One part of a key: bare, or quoted on one line. -/
def readKeyPart : List Char → Option (String × List Char)
  | '"' :: rest => (readBasic rest).map fun (s, rest) => (String.ofList s, rest)
  | '\'' :: rest => (readLiteral rest).map fun (s, rest) => (String.ofList s, rest)
  | cs =>
    let part := cs.takeWhile isBareKeyChar
    if part = [] then none else some (String.ofList part, cs.dropWhile isBareKeyChar)

/-- A key: parts with dots between, blanks around each. -/
def readKeyWithin : (fuel : Nat) → List Char → Option (List String × List Char)
  | 0, _ => none
  | fuel + 1, cs => do
    let (part, rest) ← readKeyPart (skipBlanks cs)
    match skipBlanks rest with
    | '.' :: rest =>
      let (parts, rest) ← readKeyWithin fuel rest
      return (part :: parts, rest)
    | rest => return ([part], rest)

/-- No key may have as many parts, and no value stand in as many arrays and tables. -/
def depthLimit : Nat := 80

/-- A key of fewer parts than `depthLimit`. -/
def readKey (cs : List Char) : Option (List String × List Char) := readKeyWithin (depthLimit - 1) cs

end Funnel.Toml
