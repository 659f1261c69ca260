import Funnel.Fault.Errno

/-!
Files by name in a working directory, and what reading one as text yields. A name is walked part by
part, as far as it leads.
-/

namespace Funnel

/-- What stands under a name. -/
inductive FileStore.Content where
  | directory
  | file (bytes : ByteArray)

/-- Names, in parts, and what stands under them. What leads to a name is a directory. -/
structure FileStore where
  entries : List (List String × FileStore.Content)

/-- Why a file cannot be read. -/
inductive FileStore.ReadError where
  | os (code : Int)
  | nulInName
  | invalidText
deriving DecidableEq, Repr

def FileStore.ReadError.message : ReadError → String
  | os code => Errno.message code
  | nulInName => "file name contained an unexpected NUL byte"
  | invalidText => "stream did not contain valid UTF-8"

namespace FileStore

def empty : FileStore := ⟨[]⟩

/-- The parts of a name between its slashes. -/
def parts (name : String) : List String := name.splitOn "/"

/-- `content` under `name`. -/
def add (s : FileStore) (name : String) (content : Content) : FileStore :=
  ⟨s.entries ++ [((parts name).filter (· ≠ ""), content)]⟩

/-- What stands at a place. The working directory is there, and so is what leads to a name. -/
def at? (s : FileStore) (place : List String) : Option Content :=
  match s.entries.find? (·.1 = place) with
  | some (_, content) => some content
  | none =>
    if place = [] || s.entries.any fun e => place.isPrefixOf e.1 then some .directory else none

/-- No part of a name has more bytes. -/
def maxPart : Nat := 255

/-- A name has fewer bytes. -/
def nameLimit : Nat := 4096

/-- From `place` on through the parts of a name. Nothing lies above the working directory. -/
def walk (s : FileStore) (place : List String) : List String → Except ReadError Content
  | [] =>
    match s.at? place with
    | some content => .ok content
    | none => .error (.os 2)
  | part :: rest =>
    match s.at? place with
    | none => .error (.os 2)
    | some (.file _) => .error (.os 20)
    | some .directory =>
      if part = "" || part = "." then walk s place rest
      else if part = ".." then if place = [] then .error (.os 2) else walk s place.dropLast rest
      else if maxPart < part.utf8ByteSize then .error (.os 36)
      else walk s (place ++ [part]) rest

/-- The text of the file with the given name. -/
def read (s : FileStore) (name : String) : Except ReadError String :=
  if name.toList.contains '\x00' then .error .nulInName
  else if name = "" then .error (.os 2)
  else if nameLimit ≤ name.utf8ByteSize then .error (.os 36)
  else if name.toList.head? = some '/' ∧ (parts name).any (· ≠ "") then .error (.os 2)
  else match s.walk [] (parts name) with
    | .error e => .error e
    | .ok .directory => .error (.os 21)
    | .ok (.file bytes) =>
      match String.fromUTF8? bytes with
      | some text => .ok text
      | none => .error .invalidText

end FileStore

end Funnel
