import KeyValueServer.CommandLine.Setting
import KeyValueServer.CommandLine.Style

/-!
# Arguments

Reading the arguments of a command line and the environment. An option takes its value from behind
an equals sign or from the next argument. The value of the next argument is looked at when the
option is settled, which is when the following option comes, or at the end; so an argument that is
no option at all is reported before a bad value in front of it.
-/

namespace KeyValueServer.CommandLine

/-- Why the settings were not read to the end. -/
inductive Stop where
  /-- The user asks for help. -/
  | help
  /-- The user asks for the version. -/
  | version
  /-- The arguments are wrong; the message has its styles. -/
  | wrong (message : String)
  deriving DecidableEq, Repr

/-- The settings so far, those that were chosen, and the option that is not settled, with its
value if that was seen. -/
structure Reading where
  settings : Settings
  chosen : List Setting
  pending : Option (Setting × Option String)

namespace Reading

/-- Nothing read. -/
def initial : Reading := ⟨.standard, [], none⟩

/-- The report on an argument that means nothing. -/
def unexpected (argument : String) : Stop :=
  .wrong ("unexpected argument '" ++ Style.wrong argument ++ "' found")

/-- The report on a value that a setting cannot have. -/
def invalid (setting : Setting) (text reason : String) : Stop :=
  .wrong ("invalid value '" ++ Style.wrong text ++ "' for '" ++ Style.literal setting.usage ++
    "': " ++ reason)

/-- Gives a setting its value, unless it has been chosen before. -/
def accept (reading : Reading) (setting : Setting) (text : String) : Except Stop Reading :=
  if setting ∈ reading.chosen then
    .error (.wrong ("the argument '" ++ Style.wrong setting.usage ++
      "' cannot be used multiple times"))
  else
    match reading.settings.choose setting text with
    | .error reason => .error (invalid setting text reason)
    | .ok settings =>
      .ok { reading with settings := settings, chosen := setting :: reading.chosen }

/-- Settles the option that is not settled. -/
def settle (reading : Reading) : Except Stop Reading :=
  match reading.pending with
  | none => .ok reading
  | some (setting, none) =>
    .error (.wrong ("a value is required for '" ++ Style.wrong setting.usage ++
      "' but none was supplied"))
  | some (setting, some text) => ({ reading with pending := none }).accept setting text

/-- An option with the value that is attached to it, if one is. -/
def option (reading : Reading) (setting : Setting) (attached : Option String) :
    Except Stop Reading :=
  match reading.settle with
  | .error stop => .error stop
  | .ok reading =>
    match attached with
    | some text => reading.accept setting text
    | none => .ok { reading with pending := some (setting, none) }

/-- An option that asks for information. -/
def ask (reading : Reading) (stop : Stop) : Except Stop Reading :=
  match reading.settle with
  | .error earlier => .error earlier
  | .ok _ => .error stop

/-- The option with a given name behind two dashes. -/
def longOption (reading : Reading) (name : String) (attached : Option String) :
    Except Stop Reading :=
  match Setting.all.find? (·.long = name) with
  | some setting => reading.option setting attached
  | none =>
    let asked :=
      if name = "help" then some Stop.help else if name = "version" then some .version else none
    match asked, attached with
    | some stop, none => reading.ask stop
    | some _, some text =>
      .error (.wrong ("unexpected value '" ++ Style.wrong text ++ "' for '" ++
        Style.literal ("--" ++ name) ++ "' found; no more were expected"))
    | none, _ => .error (unexpected ("--" ++ name))

/-- The value attached to a letter: what follows it, without an equals sign in front. -/
def attachedTo : List Char → Option String
  | [] => none
  | '=' :: text => some (String.ofList text)
  | text => some (String.ofList text)

/-- The option with a given letter behind one dash; `text` follows the letter. -/
def shortOption (reading : Reading) (letter : Char) (text : List Char) : Except Stop Reading :=
  match Setting.all.find? (·.short? = some letter) with
  | some setting => reading.option setting (attachedTo text)
  | none =>
    if letter = 'h' then reading.ask .help
    else if letter = 'V' then reading.ask .version
    else .error (unexpected (String.ofList ['-', letter]))

/-- The text in front of the first equals sign, and what follows it. -/
def splitAtEquals (before : List Char) : List Char → String × Option String
  | [] => (String.ofList before.reverse, none)
  | '=' :: text => (String.ofList before.reverse, some (String.ofList text))
  | char :: text => splitAtEquals (char :: before) text

/-- An argument that is no option: the value of the option in front of it, if that needs one. -/
def plain (reading : Reading) (argument : String) : Except Stop Reading :=
  match reading.pending with
  | some (setting, none) => .ok { reading with pending := some (setting, some argument) }
  | _ => .error (unexpected argument)

/-- One argument. -/
def argument (reading : Reading) (text : String) : Except Stop Reading :=
  match text.toList with
  | '-' :: '-' :: name =>
    let (name, attached) := splitAtEquals [] name
    reading.longOption name attached
  | '-' :: letter :: rest => reading.shortOption letter rest
  | _ => reading.plain text

/-- All arguments. Behind two dashes alone there are no options. -/
def arguments (reading : Reading) : List String → Except Stop Reading
  | [] => reading.settle
  | "--" :: [] => reading.settle
  | "--" :: text :: _ => .error (unexpected text)
  | text :: rest =>
    match reading.argument text with
    | .error stop => .error stop
    | .ok next => next.arguments rest

/-- The environment, for settings that were not chosen. -/
def environment (reading : Reading) (look : String → Option String) :
    List Setting → Except Stop Reading
  | [] => .ok reading
  | setting :: others =>
    if setting ∈ reading.chosen then reading.environment look others
    else
      match look setting.envName with
      | none => reading.environment look others
      | some text =>
        match reading.accept setting text with
        | .error stop => .error stop
        | .ok next => next.environment look others

end Reading

/-- The settings of a command line, where `look` is the environment. -/
def readSettings (arguments : List String) (look : String → Option String) :
    Except Stop Settings := do
  let reading ← Reading.initial.arguments arguments
  let reading ← reading.environment look Setting.all
  return reading.settings

end KeyValueServer.CommandLine
