import KeyValueServer.Text.ControlSequence

/-!
# Styles

How parts of the help and of messages about wrong arguments stand out on a terminal. Unless the
environment asks for styles, what is printed has no control sequences any more, neither those of
styles nor those in arguments; but where an argument holds a sequence that does not end, the styles
around it decide how much goes with it.
-/

namespace KeyValueServer.CommandLine.Style

/-- The heading of a list. -/
def heading : String → String := ControlSequence.styled ["1", "4"]

/-- What can be typed as it stands. -/
def literal : String → String := ControlSequence.styled ["1"]

/-- The part of the command line that is wrong. -/
def wrong : String → String := ControlSequence.styled ["33"]

/-- The word that announces a failure. -/
def alarm : String → String := ControlSequence.styled ["1", "31"]

/-- Whether the environment asks for styles where no terminal reads the output: it forces them, and
it does not forbid them. -/
def isForced (look : String → Option String) : Bool :=
  (look "NO_COLOR").all (·.isEmpty) && (look "CLICOLOR_FORCE").any (· ≠ "0")

/-- A text as it is printed. -/
def printed (look : String → Option String) (text : String) : String :=
  if isForced look then text else ControlSequence.strip text

end KeyValueServer.CommandLine.Style
