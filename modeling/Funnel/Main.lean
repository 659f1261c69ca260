import Funnel.Program

/-!
The command line. The configuration file is read, the program is launched on a host without
interfaces, and its lines go to standard output and standard error. Each line on standard input
names a signal; the end of the input is a request to terminate.
-/

open Funnel

namespace Funnel.Main

/-- The number behind an error of the operating system. -/
def errorNumber : IO.Error → Int
  | .alreadyExists _ code _ | .otherError code _ | .resourceBusy code _
  | .resourceVanished code _ | .unsupportedOperation code _ | .hardwareFault code _
  | .unsatisfiedConstraints code _ | .illegalOperation code _ | .protocolError code _
  | .timeExpired code _ | .interrupted _ code _ | .noFileOrDirectory _ code _
  | .invalidArgument _ code _ | .permissionDenied _ code _ | .resourceExhausted _ code _
  | .inappropriateType _ code _ | .noSuchThing _ code _ => code.toNat
  | .unexpectedEof | .userError _ => 5

/-- The text of a file. -/
def readText (path : String) : IO (Except FileStore.ReadError String) := do
  if path.toList.contains '\x00' then return .error .nulInName
  try
    let bytes ← IO.FS.readBinFile path
    match String.fromUTF8? bytes with
    | some text => return .ok text
    | none => return .error .invalidText
  catch e => return .error (.os (errorNumber e))

/-- The texts that the command line can ask for: that of its configuration file. -/
def reader (args : List String) : IO Config.TextReader := do
  match CommandLine.read args with
  | .ok { config := some path, .. } =>
    let text ← readText path
    return fun _ => text
  | _ => return fun _ => .error (.os 2)

/-- The signal that a line names. -/
def signalOf (line : String) : Option Program.Signal :=
  if line.startsWith "INT" then some .interrupt
  else if line.startsWith "TERM" || line.isEmpty then some .terminate
  else none

/-- Shows what was written since the first `count` lines. -/
def showNotes (p : Program) (count : Nat) : IO Unit :=
  (p.notes.drop count).forM fun n => IO.eprintln n.render

/-- Takes signals until the program exits. -/
partial def supervise (input : IO.FS.Stream) (p : Program) : IO UInt32 := do
  match p.exitCode? with
  | some code => return code.toUInt32
  | none =>
    let next := match signalOf (← input.getLine) with
      | some s => p.signal s
      | none => p
    showNotes next p.notes.length
    supervise input next

end Funnel.Main

def main (args : List String) : IO UInt32 := do
  let read ← Funnel.Main.reader args
  let p := Program.launch ⟨.isolated, read, ← IO.getEnv "RUST_LOG"⟩ args
  p.shown.forM fun line => IO.println line
  Funnel.Main.showNotes p 0
  Funnel.Main.supervise (← IO.getStdin) p
