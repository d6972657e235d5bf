import KeyValueServer.CommandLine.Arguments
import KeyValueServer.CommandLine.LogLine
import KeyValueServer.Server.Start

/-!
# The command line

What the program prints and how it exits, from its arguments, its environment and the machine it
runs on. A server that comes up is the one result that leaves something to do.
-/

namespace KeyValueServer.CommandLine

/-- What the program leaves behind when it ends. -/
structure Report where
  code : Nat
  stdout : String
  stderr : String
  /-- Whether log lines were written. -/
  logged : Bool
  deriving DecidableEq, Repr

/-- A text whose lines, but for the first, are indented as far as the descriptions in the help. -/
def indented (text : String) : String :=
  String.ofList (text.toList.flatMap fun char =>
    char :: if char = '\n' then List.replicate 10 ' ' else [])

/-- The entry of an option in the help: how it is written and what it does. -/
def entry (letter : Option Char) (name value about : String) : String :=
  let short :=
    match letter with
    | some letter => Style.literal ("-" ++ letter.toString) ++ ", "
    | none => "    "
  "  " ++ short ++ Style.literal ("--" ++ name) ++ value ++ "\n          " ++ indented about ++ "\n"

/-- The entry of a setting in the help. -/
def settingEntry (look : String → Option String) (setting : Setting) : String :=
  entry setting.short? setting.long (" <" ++ setting.valueName ++ ">")
    (setting.purpose ++ " [env: " ++ setting.envName ++ "=" ++ (look setting.envName).getD "" ++
      "] [default: " ++ setting.default ++ "]")

/-- The help. -/
def help (look : String → Option String) : String :=
  Style.printed look ("In-memory key-value server speaking RESP\n\n" ++
    Style.heading "Usage:" ++ " " ++ Style.literal program ++ " [OPTIONS]\n\n" ++
    Style.heading "Options:" ++ "\n" ++
    String.join (Setting.all.map (settingEntry look)) ++
    entry (some 'h') "help" "" "Print help" ++ entry (some 'V') "version" "" "Print version")

/-- The message on a wrong command line. -/
def usageError (look : String → Option String) (message : String) : String :=
  Style.printed look (Style.alarm "error:" ++ " " ++ message ++ "\n\nFor more information, try '" ++
    Style.literal "--help" ++ "'.\n")

/-- The greeting of a server, where `address` is how its address is shown. -/
def banner (settings : Settings) (address : String) : String :=
  "\nPipeKV v" ++ version ++ " - Staged-Pipeline In-Memory Key-Value Server\n" ++
    String.ofList (List.replicate 62 '─') ++ "\nServer started on " ++ address ++ "\nShards: " ++
    toString settings.shards.toNat ++ "   Workers: read " ++
    toString settings.readWorkers.toNat ++ " / process " ++
    toString settings.processWorkers.toNat ++ " / write " ++
    toString settings.writeWorkers.toNat ++
    "\nReady to accept connections.\n\nUse Ctrl+C to shutdown gracefully.\n\n"

/-- The report on a failure with the causes behind it. -/
def failureReport (summary : String) (causes : List String) : String :=
  let listed :=
    match causes with
    | [] => ""
    | [cause] => "\n\nCaused by:\n    " ++ cause
    | causes =>
      "\n\nCaused by:" ++ String.join ((causes.zipIdx).map fun (cause, index) =>
        "\n    " ++ toString index ++ ": " ++ cause)
  "Error: " ++ summary ++ listed ++ "\n"

/-- The directives of the log filter: those of the environment if it has a filter that can be read,
and else those of the settings. -/
def logDirectives (settings : Settings) (look : String → Option String) :
    List LogFilter.Directive :=
  ((look "RUST_LOG").bind LogFilter.strict?).getD (LogFilter.lenient settings.logLevel)

/-- Whether the log takes a line. -/
def logs (settings : Settings) (look : String → Option String) (line : LogFilter.Line) : Bool :=
  LogFilter.passes (logDirectives settings look) line

/-- Whether a server that comes up and is shut down writes log lines. -/
def writesLog (settings : Settings) (look : String → Option String) : Bool :=
  LogLine.all.any (logs settings look)

/-- What the program writes about parts of the log filter that it cannot read. -/
def filterComplaints (settings : Settings) (look : String → Option String) : String :=
  if ((look "RUST_LOG").bind LogFilter.strict?).isSome then ""
  else String.join ((LogFilter.ignored settings.logLevel).map fun (part, flaw) =>
    "ignoring `" ++ part ++ "`: " ++ flaw.message ++ "\n")

/-- The report on a server that does not start. -/
def startFailure (settings : Settings) (look : String → Option String) (error : StartError) :
    Report :=
  ⟨1, "", filterComplaints settings look ++
    failureReport "failed to start server" (error.message :: error.causes), false⟩

/-- The report on a server whose start meets a fault. -/
def startFault (settings : Settings) (look : String → Option String) (fault : Fault) : Report :=
  ⟨101, "", filterComplaints settings look ++ "\nthread 'main' panicked:\n" ++
    fault.message ++ "\n", false⟩

/-- What a command line leads to. -/
inductive Outcome where
  /-- The program ends at once. -/
  | exit (report : Report)
  /-- A server comes up. -/
  | serve (settings : Settings) (server : Server)

/-- What a command line leads to on a machine. -/
def outcome (host : Host) (arguments : List String) (look : String → Option String) : Outcome :=
  match readSettings arguments look with
  | .error .help => .exit ⟨0, help look, "", false⟩
  | .error .version => .exit ⟨0, program ++ " " ++ version ++ "\n", "", false⟩
  | .error (.wrong message) => .exit ⟨2, "", usageError look message, false⟩
  | .ok settings =>
    match Server.launch host settings.config false with
    | .ok server => .serve settings server
    | .error (.refused error) => .exit (startFailure settings look error)
    | .error (.fault fault) => .exit (startFault settings look fault)

/-- The report on a whole run in which a server that comes up is shut down at once; `address` says
how its address is shown. -/
def report (host : Host) (arguments : List String) (look : String → Option String)
    (address : Address → String) : Report :=
  match outcome host arguments look with
  | .exit report => report
  | .serve settings _ =>
    ⟨0, banner settings (address settings.config.address), filterComplaints settings look,
      writesLog settings look⟩

end KeyValueServer.CommandLine
