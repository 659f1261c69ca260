import Funnel.Toml.Value

/-!
How the lines of a TOML document add up to one table. Headers and dotted keys define tables on the
way; a table is defined once, and what one of the two has defined the other may not define again.
-/

namespace Funnel.Toml

/-- What defined a table. -/
inductive Definer where
  /-- Its own header. -/
  | header
  /-- The header of a table below it. -/
  | implied
  /-- A dotted key. -/
  | dotted
deriving DecidableEq, Repr

/-- An entry of a table under construction. An array of tables grows by headers, its last element
takes the definitions. -/
inductive Item where
  | value (v : Value)
  | table (definer : Definer) (entries : List (String × Item))
  | tables (elements : List (List (String × Item)))

abbrev Entries := List (String × Item)

mutual

/-- The value of a finished entry. -/
def Item.close : Item → Value
  | .value v => v
  | .table _ es => .table (closeEntries es)
  | .tables els => .array (closeElements els)

def closeEntries : List (String × Item) → List (String × Value)
  | [] => []
  | (k, i) :: rest => (k, i.close) :: closeEntries rest

def closeElements : List (List (String × Item)) → List Value
  | [] => []
  | es :: rest => .table (closeEntries es) :: closeElements rest

end

namespace Entries

/-- `item` in place of what stands under `key`. -/
def replace (es : Entries) (key : String) (item : Item) : Entries :=
  es.map fun e => if e.1 = key then (key, item) else e

/-- `change` applied to the table at the end of a path, given what defined that table. Tables
missing on the way are defined. A dotted key goes through no table that has a header of its own. -/
def changeAt (dotted : Bool) (change : Definer → Entries → Option Entries) :
    List String → Definer → Entries → Option Entries
  | [], definer, es => change definer es
  | key :: path, _, es =>
    match es.lookup key with
    | none =>
      let definer := if dotted then Definer.dotted else .implied
      (changeAt dotted change path definer []).map fun sub => es ++ [(key, .table definer sub)]
    | some (.value _) => none
    | some (.table definer sub) =>
      if dotted && definer = .header then none
      else (changeAt dotted change path definer sub).map fun sub =>
        es.replace key (.table definer sub)
    | some (.tables elements) =>
      match elements.getLast? with
      | none => none
      | some last => (changeAt dotted change path .header last).map fun sub =>
        es.replace key (.tables (elements.dropLast ++ [sub]))

/-- A value under a new key. A dotted key ends in a table that dotted keys have defined. -/
def addValue (path : List String) (key : String) (v : Value) (es : Entries) : Option Entries :=
  changeAt true (fun definer es =>
    if (definer = .dotted) = (path = []) then none
    else if (es.lookup key).isSome then none
    else some (es ++ [(key, .value v)])) path .header es

/-- The header of a table. It may stand behind headers of tables below it. -/
def openTable (path : List String) (key : String) (es : Entries) : Option Entries :=
  changeAt false (fun _ es =>
    match es.lookup key with
    | none => some (es ++ [(key, .table .header [])])
    | some (.table .implied sub) => some (es.replace key (.table .header sub))
    | _ => none) path .header es

/-- The header of one more element of an array of tables. -/
def openElement (path : List String) (key : String) (es : Entries) : Option Entries :=
  changeAt false (fun _ es =>
    match es.lookup key with
    | none => some (es ++ [(key, .tables [[]])])
    | some (.tables elements) => some (es.replace key (.tables (elements ++ [[]])))
    | _ => none) path .header es

/-- A value under a key of one or more parts. -/
def addPair (key : List String) (v : Value) (es : Entries) : Option Entries :=
  match key.getLast? with
  | some last => es.addValue key.dropLast last v
  | none => none

end Entries

end Funnel.Toml
