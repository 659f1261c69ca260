/-!
Bytes of HTTP fields: tokens (field names, methods) and field values.
-/

namespace Funnel.Http

/-- Bytes as they stand in a message. -/
abbrev Bytes := List UInt8

/-- The text whose characters up to 255 stand for one byte each. -/
def Bytes.ofLatin (s : String) : Bytes := s.toList.map fun c => UInt8.ofNat c.toNat

def Bytes.toLatin (b : Bytes) : String := String.ofList (b.map fun x => Char.ofNat x.toNat)

def Bytes.ofText (s : String) : Bytes := s.toUTF8.toList

def isUpper (b : UInt8) : Bool := 0x41 ≤ b && b ≤ 0x5A

def isLower (b : UInt8) : Bool := 0x61 ≤ b && b ≤ 0x7A

def isDecimal (b : UInt8) : Bool := 0x30 ≤ b && b ≤ 0x39

/-- A capital ASCII letter as its small one, any other byte as it is. -/
def toLower (b : UInt8) : UInt8 := if isUpper b then b + 0x20 else b

/-- The marks that a token may hold beside letters and digits. -/
def tokenMarks : Bytes :=
  [0x21, 0x23, 0x24, 0x25, 0x26, 0x27, 0x2A, 0x2B, 0x2D, 0x2E, 0x5E, 0x5F, 0x60, 0x7C, 0x7E]

def isTokenByte (b : UInt8) : Bool :=
  isUpper b || isLower b || isDecimal b || tokenMarks.contains b

/-- One token: at least one byte, all of them token bytes. -/
def isToken (bs : Bytes) : Bool := !bs.isEmpty && bs.all isTokenByte

/-- A byte that a field value may hold: a tab, or any byte from the space on but DEL. -/
def isValueByte (b : UInt8) : Bool := b = 0x09 || (0x20 ≤ b && b ≠ 0x7F)

/-- A character that a field value may hold. The bytes of one outside ASCII are all value bytes. -/
def isValueChar (c : Char) : Bool := c = '\t' || (0x20 ≤ c.toNat && c.toNat ≠ 0x7F)

/-- A text as a field value, if it can be one. -/
def valueOfText? (s : String) : Option Bytes :=
  if s.toList.all isValueChar then some (Bytes.ofText s) else none

/-- A tab, a space or a visible ASCII byte. -/
def isReadableByte (b : UInt8) : Bool := b = 0x09 || (0x20 ≤ b && b < 0x7F)

/-- A space or a tab. -/
def isBlank (b : UInt8) : Bool := b = 0x20 || b = 0x09

/-- `bs` without the blanks at both ends. -/
def trimBlanks (bs : Bytes) : Bytes := ((bs.dropWhile isBlank).reverse.dropWhile isBlank).reverse

/-- The parts of `bs` between the separators, one more than there are separators. -/
def splitAt (sep : UInt8) : Bytes → List Bytes
  | [] => [[]]
  | b :: rest =>
    if b = sep then [] :: splitAt sep rest
    else match splitAt sep rest with
      | [] => [[b]]
      | part :: parts => (b :: part) :: parts

end Funnel.Http
