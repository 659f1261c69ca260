import Funnel.CommandLine.Reader

/-!
What the command line shows in place of running: help, the version, or what is wrong with the
arguments.
-/

namespace Funnel.CommandLine

/-- The options, with what each is for. -/
def optionLines : List String :=
  ["  -c, --config <CONFIG>                  TOML configuration file",
    "      --server-host <SERVER_HOST>        Upstream host to connect to (host or host:port)",
    "  -p, --port <PORT>                      Port to listen on for local clients",
    "      --listen-address <LISTEN_ADDRESS>  Address to listen on for local clients",
    "      --log-format <LOG_FORMAT>          Log line format [possible values: text, json]",
    "  -h, --help                             Print help",
    "  -V, --version                          Print version"]

def usageLine : String := "Usage: " ++ programName ++ " [OPTIONS]"

def helpLines : List String :=
  ["Forward local HTTP/1.1 clients to one https upstream over shared HTTP/2 connections", "",
    usageLine, "", "Options:"] ++ optionLines

namespace Stop

/-- Nothing is wrong: something is shown because it was asked for. -/
def isRequest : Stop → Bool
  | displayHelp | displayVersion => true
  | _ => false

/-- What is wrong. -/
def message : Stop → String
  | unknownArgument => "unexpected argument"
  | invalidValue => "a value is missing or not allowed"
  | valueValidation => "a value cannot be read"
  | argumentConflict => "an option was given twice"
  | tooManyValues => "an option takes no value"
  | displayHelp => "help was asked for"
  | displayVersion => "the version was asked for"

/-- The lines that are shown. -/
def lines : Stop → List String
  | displayHelp => helpLines
  | displayVersion => [programName ++ " " ++ versionText]
  | stop => ["error: " ++ stop.message, "", usageLine, "",
    "For more information, try '--help'."]

end Stop

end Funnel.CommandLine
