import Funnel.Toml.Definition
import Funnel.Toml.Quoted
import Funnel.Toml.Scalar

/-!
TOML documents: values, lines, and the table that the lines define.
-/

namespace Funnel.Toml

/-- A reader of values. -/
abbrev ValueReader := List Char → Option (Value × List Char)

/-- The items of an array behind its opening bracket. -/
def readItems (item : ValueReader) : (fuel : Nat) → List Char → Option (List Value × List Char)
  | 0, _ => none
  | fuel + 1, cs =>
    match skipSpace false cs with
    | ']' :: rest => some ([], rest)
    | cs => do
      let (v, rest) ← item cs
      match skipSpace false rest with
      | ',' :: rest =>
        let (vs, rest) ← readItems item fuel rest
        return (v :: vs, rest)
      | ']' :: rest => return ([v], rest)
      | _ => none

/-- A key, an equals sign and a value. -/
def readPair (value : ValueReader) (cs : List Char) :
    Option ((List String × Value) × List Char) := do
  let (key, rest) ← readKey cs
  match rest with
  | '=' :: rest =>
    let (v, rest) ← value (skipBlanks rest)
    return ((key, v), rest)
  | _ => none

/-- The pairs of a table on one line, at least one, up to its closing brace. -/
def readPairs (value : ValueReader) :
    (fuel : Nat) → List Char → Option (List (List String × Value) × List Char)
  | 0, _ => none
  | fuel + 1, cs => do
    let (pair, rest) ← readPair value cs
    match skipBlanks rest with
    | ',' :: rest =>
      let (pairs, rest) ← readPairs value fuel rest
      return (pair :: pairs, rest)
    | '}' :: rest => return ([pair], rest)
    | _ => none

/-- The table that the pairs of one line define. -/
def tableOfPairs (pairs : List (List String × Value)) : Option Value :=
  (pairs.foldlM (fun es (key, v) => Entries.addPair key v es) ([] : Entries)).map fun es =>
    .table (closeEntries es)

/-- A value in which arrays and tables stand at most `depth` deep. -/
def readValue : (depth : Nat) → ValueReader
  | 0, cs =>
    match cs with
    | '"' :: _ | '\'' :: _ => (readString cs).map fun (s, rest) => (.string (String.ofList s), rest)
    | _ => readScalar cs
  | depth + 1, cs =>
    match cs with
    | '"' :: _ | '\'' :: _ => (readString cs).map fun (s, rest) => (.string (String.ofList s), rest)
    | '[' :: rest =>
      (readItems (readValue depth) (rest.length + 1) rest).map fun (vs, rest) => (.array vs, rest)
    | '{' :: rest =>
      match skipBlanks rest with
      | '}' :: rest => some (.table [], rest)
      | rest => do
        let (pairs, rest) ← readPairs (readValue depth) (rest.length + 1) rest
        let v ← tableOfPairs pairs
        return (v, rest)
    | _ => readScalar cs

/-- What a line says. -/
inductive Line where
  | blank
  | pair (key : List String) (v : Value)
  | header (path : List String)
  | element (path : List String)

/-- One line, up to the end of it. -/
def readLine (cs : List Char) : Option (Line × List Char) := do
  match skipBlanks cs with
  | '[' :: '[' :: rest =>
    let (path, rest) ← readKey rest
    match rest with
    | ']' :: ']' :: rest => return (.element path, ← readLineEnd rest)
    | _ => none
  | '[' :: rest =>
    let (path, rest) ← readKey rest
    match rest with
    | ']' :: rest => return (.header path, ← readLineEnd rest)
    | _ => none
  | rest =>
    match readLineEnd rest with
    | some rest => return (.blank, rest)
    | none =>
      let ((key, v), rest) ← readPair (readValue (depthLimit - 1)) rest
      return (.pair key v, ← readLineEnd rest)

/-- All lines. Each but an empty last one has at least one character. -/
def readLines : (fuel : Nat) → List Char → Option (List Line)
  | 0, _ => none
  | fuel + 1, cs =>
    if cs = [] then some []
    else do
      let (line, rest) ← readLine cs
      let lines ← readLines fuel rest
      return line :: lines

/-- A document as far as it is read: the entries, and the table that pairs go to. -/
structure Draft where
  entries : Entries
  current : List String

def Draft.add (d : Draft) : Line → Option Draft
  | .blank => some d
  | .pair key v =>
    (Entries.changeAt false (fun _ es => es.addPair key v) d.current .header d.entries).map
      fun es => { d with entries := es }
  | .header path =>
    path.getLast?.bind fun last =>
      (d.entries.openTable path.dropLast last).map fun es => ⟨es, path⟩
  | .element path =>
    path.getLast?.bind fun last =>
      (d.entries.openElement path.dropLast last).map fun es => ⟨es, path⟩

/-- The table that a document defines. A byte order mark in front does not count. -/
def parse (s : String) : Option Table := do
  let cs := match s.toList with
    | '\uFEFF' :: rest => rest
    | cs => cs
  let lines ← readLines (cs.length + 1) cs
  let d ← lines.foldlM Draft.add ⟨[], []⟩
  return closeEntries d.entries

end Funnel.Toml
