import Funnel.Uri.Authority

/-!
Request targets: origin form, absolute form, authority form and `*`. A fragment is not kept.
-/

namespace Funnel

/-- A path and the query behind it. -/
structure Uri.Target where
  path : String
  query : Option String
deriving DecidableEq, Repr

/-- A URI in any of the forms of a request line; what its form leaves out is absent. -/
structure Uri where
  scheme : Option String
  authority : Option Uri.Authority
  target : Option Uri.Target
deriving DecidableEq, Repr

namespace Uri

def Target.root : Target := ⟨"/", none⟩

/-- The path, where an empty one means the root. -/
def Target.shownPath (t : Target) : String := if t.path = "" then "/" else t.path

def Target.toText (t : Target) : String :=
  t.shownPath ++ match t.query with
    | some q => "?" ++ q
    | none => ""

/-- The URI of the parts, if they go together: authority and target stand behind a scheme both, and
never both without one. -/
def ofParts? (scheme : Option String) (authority : Option Authority) (target : Option Target) :
    Option Uri :=
  if scheme.isSome = (authority.isSome && target.isSome) then some ⟨scheme, authority, target⟩
  else none

/-- The URI's text, each part as it is shown alone. -/
def toText (u : Uri) : String :=
  (match u.scheme with
    | some s => s ++ "://"
    | none => "") ++
  (match u.authority with
    | some a => a.text
    | none => "") ++
  (match u.target with
    | some t => t.toText
    | none => "")

/-- No longer text is read. -/
def maxBytes : Nat := 65534

/-- No longer scheme is read. -/
def maxScheme : Nat := 64

/-- What may stand in a path: all but controls, the space, the less and greater signs and the grave
accent. -/
def isPathChar (c : Char) : Bool :=
  let n := c.toNat
  n = 0x21 || n = 0x22 || (0x24 ≤ n && n ≤ 0x3B) || n = 0x3D || (0x40 ≤ n && n ≤ 0x5F) || 0x61 ≤ n

/-- What may stand in a query: as in a path, but the grave accent may and the double quote may
not. -/
def isQueryChar (c : Char) : Bool :=
  let n := c.toNat
  n = 0x21 || (0x24 ≤ n && n ≤ 0x3B) || n = 0x3D || 0x3F ≤ n

/-- Path and query up to the fragment. Nothing at all is no target. -/
def Target.ofChars? (cs : List Char) : Option (Option Target) :=
  let path := cs.takeWhile fun c => c ≠ '?' && c ≠ '#'
  let rest := cs.dropWhile fun c => c ≠ '?' && c ≠ '#'
  if !path.all isPathChar then none
  else match rest with
    | '?' :: more =>
      let query := more.takeWhile (· ≠ '#')
      if query.all isQueryChar then some (some ⟨String.ofList path, some (String.ofList query)⟩)
      else none
    | _ => some (if path = [] then none else some ⟨String.ofList path, none⟩)

def isSchemeChar (c : Char) : Bool :=
  c.isAlphanum || c = '+' || c = '-' || c = '.' || c = '~'

/-- How a text begins: with a scheme and `://`, with none, or with one that is too long. -/
inductive SchemeSplit where
  | none
  | tooLong
  | found (scheme rest : List Char)

def splitScheme (cs : List Char) : SchemeSplit :=
  let scheme := cs.takeWhile isSchemeChar
  match cs.dropWhile isSchemeChar with
  | ':' :: '/' :: '/' :: rest =>
    if maxScheme < scheme.length then .tooLong else .found scheme rest
  | _ => .none

/-- Absolute form: an authority, which is required, and the target behind it. -/
def ofAbsolute? (scheme rest : List Char) : Option Uri :=
  match Authority.ofText? (String.ofList (rest.takeWhile fun c => !isAuthorityEnd c)) with
  | none => none
  | some a =>
    (Target.ofChars? (rest.dropWhile fun c => !isAuthorityEnd c)).map fun target =>
      ⟨some (String.ofList scheme), some a, target⟩

/-- The URI that a text writes in one of the four forms. -/
def ofText? (s : String) : Option Uri :=
  if maxBytes < s.utf8ByteSize then none
  else match s.toList with
    | [] => none
    | ['*'] => some ⟨none, none, some ⟨"*", none⟩⟩
    | '/' :: rest => (Target.ofChars? ('/' :: rest)).map fun t => ⟨none, none, t⟩
    | cs =>
      match splitScheme cs with
      | .tooLong => none
      | .found scheme rest => ofAbsolute? scheme rest
      | .none => (Authority.ofText? s).map fun a => ⟨none, some a, none⟩

end Uri

end Funnel
