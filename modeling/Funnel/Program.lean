import Funnel.CommandLine.Usage
import Funnel.Gateway
import Funnel.Log.Filter
import Funnel.Text.Within

/-!
The program as its supervisor sees it: what it writes, how it takes signals, and how it exits. It
exits with 0 if it was stopped or only had to show something, with 1 if it could not start, and with
2 if the command line is wrong.
-/

namespace Funnel

/-- A line on standard error. -/
inductive Program.Note where
  | log (format : Config.LogFormat) (line : Log.Line)
  | text (line : String)
deriving DecidableEq, Repr

def Program.Note.render : Note → String
  | log format line => line.render format
  | text line => line

/-- Signals that the program handles. -/
inductive Program.Signal where
  | interrupt
  | terminate
deriving DecidableEq, Repr

/-- A program that serves. -/
structure Program.Running where
  gateway : Gateway
  ignoresInterrupt : Bool

inductive Program.State where
  | running (r : Running)
  | exited (code : Nat)

/-- How log lines leave the program. -/
structure Program.Logging where
  format : Config.LogFormat
  filter : Log.Filter

structure Program where
  /-- Lines on standard output. -/
  shown : List String
  /-- Lines on standard error. -/
  notes : List Program.Note
  logging : Program.Logging
  state : Program.State

/-- What the program finds when it is launched. -/
structure Program.Environment where
  host : Host
  read : Config.TextReader
  /-- Directives for the log that win over the configured level. -/
  logDirectives : Option String

namespace Program

/-- A line that names the program. -/
def complaintMark : String := CommandLine.programName ++ ": "

/-- A complaint, which may go over several lines. -/
def complaint (message : String) : List Note :=
  ((complaintMark ++ message).splitOn "\n").map .text

/-- The lines that get through. -/
def Logging.notes (g : Logging) (lines : List Log.Line) : List Note :=
  (lines.filter g.filter.admits).map (.log g.format)

def startingLine : Log.Line :=
  ⟨.info, .program, CommandLine.programName ++ " starting",
    [("version", .quoted CommandLine.versionText)]⟩

def listeningLine (a : SocketAddress) : Log.Line :=
  ⟨.info, .program, "Listening for local clients", [("address", .plain a.toText)]⟩

def completeLine : Log.Line := ⟨.info, .program, "Shutdown complete", []⟩

def fatalLine (message : String) : Log.Line :=
  ⟨.error, .program, "Fatal error", [("error", .plain message)]⟩

/-- The lines about the metrics endpoint, and the host with it. A gateway without its endpoint
serves all the same. -/
def openMetrics (host : Host) (o : Config.Observability) : List Log.Line × Host :=
  if !o.metricsEnabled then ([], host)
  else match SocketAddress.ofText? o.metricsAddress with
    | none =>
      ([⟨.error, .program, "Failed to parse metrics address",
        [("metrics_address", .plain o.metricsAddress)]⟩], host)
    | some a =>
      match host.listen a with
      | .error code =>
        ([⟨.error, .program, "Failed to start metrics endpoint",
          [("error", .plain ("failed to create HTTP listener: " ++ Errno.message code))]⟩], host)
      | .ok bound =>
        ([⟨.info, .metrics, "Metrics endpoint listening", [("address", .plain a.toText)]⟩],
          host.occupy bound)

/-- The program with a configuration. -/
def serve (env : Environment) (c : Config) : Program :=
  let level := c.observability.logLevel
  let logging : Logging :=
    ⟨c.observability.logFormat, Log.Filter.chosen level env.logDirectives⟩
  let leftOut := (Log.Filter.leftOut level env.logDirectives).map fun part =>
    Note.text ("ignoring `" ++ part ++ "`: invalid filter directive")
  let (metricLines, host) := openMetrics env.host c.observability
  let attempt := Gateway.start host c
  let begun := startingLine :: metricLines ++ attempt.log
  match attempt.outcome with
  | .ok g =>
    { shown := [], logging
      notes := leftOut ++ logging.notes (begun ++ [listeningLine g.address])
      state := .running ⟨g, c.lifecycle.ignoreInterrupt⟩ }
  | .error e =>
    { shown := [], logging
      notes := leftOut ++ logging.notes (begun ++ [fatalLine e.message]) ++ complaint e.message
      state := .exited 1 }

/-- Logging before the configuration is known: there is none. -/
def silent : Logging := ⟨.text, .empty⟩

def launch (env : Environment) (args : List String) : Program :=
  match CommandLine.read args with
  | .error stop =>
    if stop.isRequest then ⟨stop.lines, [], silent, .exited 0⟩
    else ⟨[], stop.lines.map .text, silent, .exited 2⟩
  | .ok flags =>
    match flags.configuration env.read with
    | .error e => ⟨[], complaint e.message, silent, .exited 1⟩
    | .ok c => serve env c

/-- Every connection has a grace period, and then the program exits. -/
def stop (p : Program) (r : Running) (why : String) : Program :=
  let before := r.gateway.log.length
  let stopped := r.gateway.shutdown
  let g := if stopped.isStopped then stopped else stopped.advance ⟨stopped.server.grace⟩
  let lines := ⟨.info, .signals, why, []⟩ :: g.log.drop before ++ [completeLine]
  { p with notes := p.notes ++ p.logging.notes lines, state := .exited 0 }

/-- The program after a signal. -/
def signal (p : Program) (s : Signal) : Program :=
  match p.state with
  | .exited _ => p
  | .running r =>
    match s with
    | .terminate => p.stop r "Termination requested"
    | .interrupt =>
      if r.ignoresInterrupt then
        let line : Log.Line :=
          ⟨.info, .signals, "Interrupt received, ignoring; send SIGTERM to stop", []⟩
        { p with notes := p.notes ++ p.logging.notes [line] }
      else p.stop r "Interrupt received, stopping"

def isRunning (p : Program) : Bool :=
  match p.state with
  | .running _ => true
  | .exited _ => false

/-- The exit code, once the program has exited. -/
def exitCode? (p : Program) : Option Nat :=
  match p.state with
  | .running _ => none
  | .exited code => some code

/-- Some line on standard error contains `text`. -/
def mentions (p : Program) (text : String) : Bool :=
  p.notes.any fun n => Text.isWithin text.toList n.render.toList

/-- Lines on standard error that name the program. -/
def complaints (p : Program) : List String :=
  (p.notes.map (·.render)).filter fun line =>
    (CommandLine.programName ++ ":").toList.isPrefixOf line.toList

/-- Some line on standard error is a JSON object. -/
def hasJson (p : Program) : Bool :=
  p.notes.any fun
    | .log .json _ => true
    | _ => false

/-- Some line on standard error is neither a JSON object nor a complaint. -/
def hasText (p : Program) : Bool :=
  p.notes.any fun
    | .log .json _ => false
    | n => !(CommandLine.programName ++ ":").toList.isPrefixOf n.render.toList

end Program

end Funnel
