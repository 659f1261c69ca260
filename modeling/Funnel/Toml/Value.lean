/-!
Values of a TOML document.
-/

namespace Funnel.Toml

/-- A value. Numbers with a fraction or an exponent, dates and times are kept as they are
written. -/
inductive Value where
  | string (text : String)
  | integer (n : Int)
  | float (written : String)
  | boolean (b : Bool)
  | moment (written : String)
  | array (items : List Value)
  | table (entries : List (String × Value))
deriving Repr

/-- The entries of a table; no key stands twice. -/
abbrev Table := List (String × Value)

/-- The value under a key. -/
def Table.get? (t : Table) (key : String) : Option Value := t.lookup key

end Funnel.Toml
