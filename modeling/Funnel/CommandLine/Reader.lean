import Funnel.CommandLine.Flags

/-!
Reading the command line. An option takes one value, attached to it or as the next argument. The
value of an option is looked at when the next option or the end is reached, so that an argument that
nobody knows is reported before a value that is wrong.
-/

namespace Funnel.CommandLine

/-- An option that takes a value. -/
inductive ValueOption where
  | config
  | serverHost
  | number
  | listenAddress
  | logFormat
deriving DecidableEq, Repr

/-- What an argument names. -/
inductive Named where
  | value (option : ValueOption)
  | help
  | version
deriving DecidableEq, Repr

/-- What ends the reading of the command line. -/
inductive Stop where
  | unknownArgument
  /-- A value is missing, empty or none of those allowed. -/
  | invalidValue
  /-- A value cannot be read or is out of range. -/
  | valueValidation
  /-- An option stands twice. -/
  | argumentConflict
  /-- A value for an option that takes none. -/
  | tooManyValues
  | displayHelp
  | displayVersion
deriving DecidableEq, Repr

def Stop.kind : Stop → String
  | unknownArgument => "UnknownArgument"
  | invalidValue => "InvalidValue"
  | valueValidation => "ValueValidation"
  | argumentConflict => "ArgumentConflict"
  | tooManyValues => "TooManyValues"
  | displayHelp => "DisplayHelp"
  | displayVersion => "DisplayVersion"

def programName : String := "h2-fanin-proxy"

def versionText : String := "0.1.0"

/-- What the version option shows. -/
def versionMessage : String := programName ++ " " ++ versionText ++ "\n"

def longName? (name : String) : Option Named :=
  [("config", .value .config), ("server-host", .value .serverHost), ("port", .value .number),
    ("listen-address", .value .listenAddress), ("log-format", .value .logFormat),
    ("help", .help), ("version", .version)].lookup name

def shortName? (c : Char) : Option Named :=
  [('c', .value .config), ('p', .value .number), ('h', .help), ('V', .version)].lookup c

/-- The integer that digits with one sign in front write. -/
def integer? (cs : List Char) : Option Int :=
  let read (digits : List Char) : Option Nat :=
    if digits ≠ [] ∧ digits.all (Text.isDigit 10) then some (Text.ofDigits 10 digits) else none
  match cs with
  | '-' :: digits => (read digits).map fun n => -(n : Int)
  | '+' :: digits => (read digits).map fun n => (n : Int)
  | digits => (read digits).map fun n => (n : Int)

/-- An integer that fits into 16 bits. -/
def number? (s : String) : Option UInt16 :=
  match integer? s.toList with
  | some n => if 0 ≤ n ∧ n < 65536 then some (UInt16.ofNat n.toNat) else none
  | none => none

namespace Flags

def has (f : Flags) : ValueOption → Bool
  | .config => f.config.isSome
  | .serverHost => f.serverHost.isSome
  | .number => f.number.isSome
  | .listenAddress => f.listenAddress.isSome
  | .logFormat => f.logFormat.isSome

/-- The flags with `option` set to what `value` writes. -/
def set (f : Flags) (option : ValueOption) (value : String) : Except Stop Flags :=
  match option with
  | .config => if value = "" then .error .invalidValue else .ok { f with config := some value }
  | .serverHost => .ok { f with serverHost := some value }
  | .number =>
    match number? value with
    | some n => .ok { f with number := some n }
    | none => .error .valueValidation
  | .listenAddress =>
    match IpAddress.ofText? value with
    | some ip => .ok { f with listenAddress := some ip }
    | none => .error .valueValidation
  | .logFormat =>
    match Config.LogFormat.ofName? value with
    | some format => .ok { f with logFormat := some format }
    | none => .error .invalidValue

/-- `option` is given, with or without a value. -/
def give (f : Flags) (option : ValueOption) (value : Option String) : Except Stop Flags :=
  match value with
  | none => .error .invalidValue
  | some v => if f.has option then .error .argumentConflict else f.set option v

end Flags

/-- An option that was met, and its value once that was met too. -/
structure Pending where
  option : ValueOption
  value : Option String
deriving DecidableEq, Repr

/-- The arguments read so far: what is settled, and the option met last if its value has not been
looked at. -/
structure Reading where
  flags : Flags := {}
  pending : Option Pending := none

namespace Reading

/-- The value of the last option is looked at. -/
def settle (r : Reading) : Except Stop Flags :=
  match r.pending with
  | some p => r.flags.give p.option p.value
  | none => .ok r.flags

/-- `option` is met, with its value attached or not. -/
def meet (r : Reading) (option : ValueOption) (attached : Option String) : Except Stop Reading := do
  let flags ← r.settle
  match attached with
  | some v => return { flags := ← flags.give option (some v) }
  | none => return { flags, pending := some ⟨option, none⟩ }

/-- The help or version option is met. -/
def showInstead (r : Reading) (stop : Stop) : Except Stop Reading := do
  let _ ← r.settle
  throw stop

/-- An argument after two dashes: a name, and a value behind an equals sign. -/
def long (r : Reading) (arg : List Char) : Except Stop Reading :=
  let name := String.ofList (arg.takeWhile (· ≠ '='))
  let attached := match arg.dropWhile (· ≠ '=') with
    | _ :: value => some (String.ofList value)
    | [] => none
  match longName? name with
  | none => .error .unknownArgument
  | some (.value option) => r.meet option attached
  | some .help => if attached.isSome then .error .tooManyValues else r.showInstead .displayHelp
  | some .version =>
    if attached.isSome then .error .tooManyValues else r.showInstead .displayVersion

/-- An argument after one dash: letters, the rest after one that takes a value being that value,
with or without an equals sign. -/
def short (r : Reading) (arg : List Char) : Except Stop Reading :=
  match arg with
  | [] => .ok r
  | c :: rest =>
    match shortName? c with
    | none => .error .unknownArgument
    | some .help => r.showInstead .displayHelp
    | some .version => r.showInstead .displayVersion
    | some (.value option) =>
      r.meet option <|
        match rest with
        | [] => none
        | '=' :: value => some (String.ofList value)
        | value => some (String.ofList value)

/-- An argument that names no option is the value of the option before it, if that lacks one. -/
def plain (r : Reading) (arg : String) : Except Stop Reading :=
  match r.pending with
  | some ⟨option, none⟩ => .ok { r with pending := some ⟨option, some arg⟩ }
  | _ => .error .unknownArgument

/-- All arguments. After two dashes alone none is known. -/
def readAll (r : Reading) : List String → Except Stop Flags
  | [] => r.settle
  | arg :: rest =>
    match arg.toList with
    | ['-', '-'] => if rest = [] then r.settle else .error .unknownArgument
    | '-' :: '-' :: long => do readAll (← r.long long) rest
    | ['-'] => do readAll (← r.plain arg) rest
    | '-' :: short => do readAll (← r.short short) rest
    | _ => do readAll (← r.plain arg) rest

end Reading

/-- The flags that the arguments give. -/
def read (args : List String) : Except Stop Flags := Reading.readAll {} args

end Funnel.CommandLine
