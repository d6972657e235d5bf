import KeyValueServer.CommandLine.LogFilter

/-!
# The log lines of a run

The kinds of line that a server writes between its start and its end, if no client connects. What
the lines say is for their reader alone; a filter looks at their source, level and fields.
-/

namespace KeyValueServer.CommandLine

/-- The name and the version of the program. -/
def program : String := "pipekv"
def version : String := "0.1.0"

namespace LogLine

/-- The level of lines on the course of things. -/
def info : Nat := 3

/-- The level of lines for those who look for a mistake. -/
def debug : Nat := 4

/-- The source of the lines of a part of the program. -/
def source (part : List String) : String := "::".intercalate (program :: part)

/-- A line of the program itself or of one of its parts. -/
def line (part : List String) (level : Nat) (fields : List String) : LogFilter.Line :=
  ⟨source part, level, fields ++ ["message"]⟩

/-- The shutdown begins. -/
def interrupted : LogFilter.Line := line [] info []

/-- The shutdown is complete; the line sums the server's counters up. -/
def summary : LogFilter.Line := line [] info ["connections", "commands", "keys"]

/-- The server is up. -/
def started : LogFilter.Line :=
  line ["server", "orchestrator"] info
    ["addr", "shards", "read_workers", "process_workers", "write_workers"]

/-- The server goes down. -/
def stopping : LogFilter.Line := line ["server", "orchestrator"] info []

/-- The server is down. -/
def stopped : LogFilter.Line := line ["server", "orchestrator"] info ["closed_after_stop"]

/-- The loop that owns the readiness set begins. -/
def polling : LogFilter.Line := line ["server", "multiplexer"] info []

/-- The loop that owns the readiness set ends. -/
def polled : LogFilter.Line := line ["server", "multiplexer"] info ["closed"]

/-- The loop that accepts connections begins or ends. -/
def accepting : LogFilter.Line := line ["server", "acceptor"] info []

/-- A pool is up. -/
def poolStarted : LogFilter.Line := line ["pool", "job_pool"] debug ["pool", "workers"]

/-- A worker of a pool ends. -/
def workerStopped : LogFilter.Line := line ["pool", "job_pool"] LogFilter.everything ["pool"]

/-- A pool is down. -/
def poolStopped : LogFilter.Line := line ["pool", "job_pool"] debug ["pool", "completed"]

/-- A socket enters the readiness set. -/
def registering : LogFilter.Line :=
  ⟨"mio::poll", LogFilter.everything,
    ["message", "log.target", "log.module_path", "log.file", "log.line"]⟩

/-- All kinds of lines, in the order in which they first occur. -/
def all : List LogFilter.Line :=
  [registering, poolStarted, polling, started, accepting, interrupted, stopping, polled,
    workerStopped, poolStopped, stopped, summary]

end LogLine

end KeyValueServer.CommandLine
