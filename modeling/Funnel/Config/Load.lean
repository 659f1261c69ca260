import Funnel.Config.Check
import Funnel.Config.Document
import Funnel.FileStore
import Funnel.Toml.Document

/-!
Loading a configuration from a file: the text is read, parsed, set over the defaults and checked.
-/

namespace Funnel

/-- Why a configuration cannot be had from a file. -/
inductive Config.LoadError where
  | io (path : String) (error : FileStore.ReadError)
  | parse (path : String)
  | invalid (problems : List Config.Problem)
deriving DecidableEq, Repr

namespace Config

def LoadError.message : LoadError → String
  | io path e => "cannot read " ++ path ++ ": " ++ e.message
  | parse path => "cannot parse " ++ path
  | invalid problems => summary problems

/-- The configuration that a document sets, checked or not. -/
def ofText? (text : String) : Option Config := (Toml.parse text).bind ofTable?

/-- A configuration without problems. -/
def checked (c : Config) : Except LoadError Config :=
  match c.check with
  | [] => .ok c
  | problems => .error (.invalid problems)

/-- The text of the file with a given name. -/
abbrev TextReader := String → Except FileStore.ReadError String

/-- The configuration that the file at `path` sets. -/
def load (read : TextReader) (path : String) : Except LoadError Config := do
  let text ← (read path).mapError (.io path)
  match ofText? text with
  | some c => checked c
  | none => .error (.parse path)

end Config

end Funnel
