import Funnel.Config.Basic
import Funnel.Text.Quoted

/-!
Log lines: how grave a line is, which part of the program writes it, what it says, and named values.
A line is written as plain text or as one JSON object.
-/

namespace Funnel.Log

/-- How grave a line is. -/
inductive Severity where
  | error
  | warn
  | info
  | debug
  | trace
deriving DecidableEq, Repr

/-- The severities, the gravest first. -/
def Severity.all : List Severity := [.error, .warn, .info, .debug, .trace]

def Severity.name : Severity → String
  | error => "error"
  | warn => "warn"
  | info => "info"
  | debug => "debug"
  | trace => "trace"

/-- The name in capitals, as it stands in a line. -/
def Severity.label (s : Severity) : String := s.name.toUpper

/-- The gravest has rank one. -/
def Severity.rank : Severity → Nat
  | error => 1
  | warn => 2
  | info => 3
  | debug => 4
  | trace => 5

/-- The part of the program that writes a line. -/
inductive Source where
  | program
  | listener
  | server
  | stopSignal
  | signals
  | metrics
deriving DecidableEq, Repr

/-- The path that filters compare with. -/
def Source.path : Source → String
  | program => "h2_fanin_proxy"
  | listener => "h2_fanin_proxy::net::listener"
  | server => "h2_fanin_proxy::http::server"
  | stopSignal => "h2_fanin_proxy::lifecycle::shutdown"
  | signals => "h2_fanin_proxy::lifecycle::signals"
  | metrics => "h2_fanin_proxy::observability::metrics"

/-- A named value of a line. -/
inductive Value where
  /-- Written as it is. -/
  | plain (text : String)
  /-- Written in quotes. -/
  | quoted (text : String)
  | number (n : Nat)
deriving DecidableEq, Repr

/-- A character inside a JSON string. -/
def escapeJson (c : Char) : List Char :=
  if c = '"' then ['\\', '"']
  else if c = '\\' then ['\\', '\\']
  else if c = '\n' then ['\\', 'n']
  else if c = '\r' then ['\\', 'r']
  else if c = '\t' then ['\\', 't']
  else if c < ' ' then
    let digits := Nat.toDigits 16 c.toNat
    ['\\', 'u'] ++ List.replicate (4 - digits.length) '0' ++ digits
  else [c]

def jsonString (s : String) : String := String.ofList ('"' :: s.toList.flatMap escapeJson ++ ['"'])

/-- The value in a line of plain text. -/
def Value.toText : Value → String
  | plain text => text
  | quoted text => Text.quoted text
  | number n => toString n

/-- The value in a JSON object. -/
def Value.toJson : Value → String
  | plain text | quoted text => jsonString text
  | number n => toString n

structure Line where
  severity : Severity
  source : Source
  message : String
  /-- Values by name, in the order of writing. -/
  values : List (String × Value)
deriving DecidableEq, Repr

namespace Line

/-- Severity and message alone. -/
def headline (l : Line) : String := l.severity.label ++ " " ++ l.message

/-- Members of a JSON object. -/
def jsonObject (members : List (String × String)) : String :=
  "\x7b" ++ ",".intercalate (members.map fun (name, value) => jsonString name ++ ":" ++ value) ++
    "\x7d"

/-- The line in the given format. -/
def render (format : Config.LogFormat) (l : Line) : String :=
  match format with
  | .text =>
    l.severity.label ++ " " ++ l.source.path ++ ": " ++ l.message ++
      String.join (l.values.map fun (name, value) => " " ++ name ++ "=" ++ value.toText)
  | .json =>
    let fields := (("message", .plain l.message) :: l.values).map fun (name, value) =>
      (name, value.toJson)
    jsonObject [("level", jsonString l.severity.label), ("fields", jsonObject fields),
      ("target", jsonString l.source.path)]

end Line

end Funnel.Log
