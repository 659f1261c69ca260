/-!
Finding one text inside another.
-/

namespace Funnel.Text

/-- `part` stands somewhere in the text. -/
def isWithin (part : List Char) : List Char → Bool
  | [] => part = []
  | c :: rest => part.isPrefixOf (c :: rest) || isWithin part rest

end Funnel.Text
