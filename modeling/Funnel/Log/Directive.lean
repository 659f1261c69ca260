import Funnel.Log.Line
import Funnel.Text.Number

/-!
Directives of a log filter: up to which severity lines get through, for lines from some part of the
program only, or inside a named span, or with a given field.

A directive is a verbosity, a target, or both with an equals sign between. Behind the target a span
may stand in brackets, with a field in braces. A target without a verbosity lets everything through.
-/

namespace Funnel.Log

/-- Lines get through up to this severity; without one, none does. -/
abbrev Verbosity := Option Severity

namespace Verbosity

def rank : Verbosity → Nat
  | none => 0
  | some s => s.rank

def name : Verbosity → String
  | none => "off"
  | some s => s.name

/-- From none at all to everything. -/
def all : List Verbosity := none :: Severity.all.map some

/-- A name in letters of either case, or a number from zero on. -/
def ofText? (s : String) : Option Verbosity :=
  match Text.natBelow? 6 s.toList with
  | some n => all[n]?
  | none => all.find? fun v => v.name = s.toLower

/-- Lines of severity `s` get through. -/
def admits (v : Verbosity) (s : Severity) : Bool := s.rank ≤ v.rank

end Verbosity

/-- A field that a line or span has to have, with a value if one is asked for. -/
structure FieldTest where
  name : String
  value : Option String
deriving DecidableEq, Repr

def FieldTest.toText (f : FieldTest) : String :=
  match f.value with
  | some v => f.name ++ "=" ++ v
  | none => f.name

structure Directive where
  /-- How the source of the line begins. -/
  target : Option String
  span : Option String
  field : Option FieldTest
  verbosity : Verbosity
deriving DecidableEq, Repr

namespace Directive

/-- Something is asked about the span around a line. -/
def asksSpan (d : Directive) : Bool := d.span.isSome || d.field.isSome

/-- A line alone can show whether the directive holds for it. -/
def asksLineOnly (d : Directive) : Bool := d.span.isNone && d.field.all (·.value.isNone)

/-! ### Reading -/

/-- What a word alone says: a verbosity if it is one, else a target. -/
def ofWord (word : String) : Directive :=
  match Verbosity.ofText? word with
  | some v => ⟨none, none, none, v⟩
  | none => ⟨some word, none, none, some .trace⟩

/-- The verbosity behind the equals sign; everything, if there is none. -/
def verbosityOf? (cs : List Char) : Option Verbosity :=
  if cs = [] then some (some .trace) else Verbosity.ofText? (String.ofList cs)

/-- What may follow the brackets. -/
def verbosityBehind? : List Char → Option Verbosity
  | [] => some (some .trace)
  | '=' :: rest => verbosityOf? rest
  | _ => none

/-- A field's name and, behind an equals sign, its value. -/
def fieldOf? (cs : List Char) : Option FieldTest :=
  if cs = [] then none
  else
    let name := String.ofList (cs.takeWhile (· ≠ '='))
    match cs.dropWhile (· ≠ '=') with
    | [] => some ⟨name, none⟩
    | _ :: value => some ⟨name, some (String.ofList (value.takeWhile (· ≠ '=')))⟩

/-- What stands behind the opening bracket. -/
def ofBrackets? (target : Option String) (cs : List Char) : Option Directive :=
  let isName (c : Char) : Bool := c ≠ ']' && c ≠ '\x7b'
  let name := String.ofList (cs.takeWhile isName)
  match cs.dropWhile isName with
  | ']' :: rest => do return ⟨target, some name, none, ← verbosityBehind? rest⟩
  | '\x7b' :: rest =>
    match rest.dropWhile (· ≠ '\x7d') with
    | _ :: ']' :: behind => do
      let span := if name = "" then none else some name
      let field ← fieldOf? (rest.takeWhile (· ≠ '\x7d'))
      return ⟨target, span, some field, ← verbosityBehind? behind⟩
    | _ => none
  | _ => none

/-- Characters that a target may begin with: letters, digits and three marks. Everything beyond
ASCII counts as a letter. -/
def beginsTarget (c : Char) : Bool :=
  c.isAlphanum || c = '-' || c = ':' || c = '_' || '\x7f' < c

def isBlank (c : Char) : Bool := c = ' ' || ('\t' ≤ c && c ≤ '\r')

def trim (cs : List Char) : List Char :=
  ((cs.dropWhile isBlank).reverse.dropWhile isBlank).reverse

/-- One directive. Blanks at the ends make a word a target and are wrong around anything else. -/
def ofText? (s : String) : Option Directive :=
  let cs := s.toList
  match trim cs with
  | [] => none
  | '[' :: _ => if trim cs = cs then ofBrackets? none (cs.drop 1) else none
  | c :: _ =>
    let isWord (c : Char) : Bool := c ≠ '=' && c ≠ '['
    let target := some (String.ofList (cs.takeWhile isWord))
    if !beginsTarget c then none
    else match cs.dropWhile isWord with
      | [] => some (ofWord s)
      | mark :: rest =>
        if trim cs ≠ cs then none
        else if mark = '=' then do return ⟨target, none, none, ← verbosityOf? rest⟩
        else ofBrackets? target rest

/-! ### Printing -/

/-- Span and field in brackets. -/
def bracketText (d : Directive) : String :=
  if d.asksSpan then
    let field := match d.field with
      | some f => "\x7b" ++ f.toText ++ "\x7d"
      | none => ""
    "[" ++ d.span.getD "" ++ field ++ "]"
  else ""

def toText (d : Directive) : String :=
  let condition := d.target.getD "" ++ d.bracketText
  if d.target.isSome || d.asksSpan then condition ++ "=" ++ d.verbosity.name else d.verbosity.name

end Directive

end Funnel.Log
