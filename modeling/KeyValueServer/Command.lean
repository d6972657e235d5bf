import KeyValueServer.Value

/-!
# Commands

A request is a command when it is a nonempty array whose first element names one and whose other
elements are strings in the number that the command takes. Everything else is an error with a
reply of its own. `ofValue` separates the two.
-/

namespace KeyValueServer

/-- A command with its arguments. -/
inductive Command where
  | get (key : List UInt8)
  | set (key value : List UInt8)
  | delete (keys : List (List UInt8))
  deriving DecidableEq, Repr

namespace Command

/-- What a command does. -/
inductive Verb where
  | get
  | set
  | delete
  deriving DecidableEq, Repr

/-- The word that names a command. -/
def Verb.name : Verb → String
  | .get => "GET"
  | .set => "SET"
  | .delete => "DEL"

/-- The command that a word names, letter by letter. -/
def Verb.ofToken? (token : List UInt8) : Option Verb :=
  [Verb.get, Verb.set, Verb.delete].find? fun verb => Utf8.encode verb.name = token

/-- The command that a request names in its first element. -/
def verb? : Value → Option Verb
  | .array (first :: _) => first.bytes?.bind Verb.ofToken?
  | _ => none

/-- Why a request is no command. -/
inductive Error where
  /-- It is no array, or an empty one, or its first element is no string. -/
  | noName
  /-- The first element names no command. -/
  | unknown (name : List UInt8)
  /-- The command does not take this number of arguments. -/
  | arity (verb : Verb)
  /-- An argument in the place of a key is no string. -/
  | badKey
  /-- An argument in the place of a value is no string. -/
  | badValue
  deriving DecidableEq, Repr

/-- A word from a request as it may stand in a reply: ill-formed text is replaced, and line breaks
become spaces. -/
def printable (token : List UInt8) : String :=
  (Utf8.decodeLossy token).map fun char => if char = '\r' ∨ char = '\n' then ' ' else char

/-- The reply to a request that is no command. -/
def Error.message : Error → String
  | .noName => "ERR invalid command format"
  | .unknown name => "ERR unknown command '" ++ printable name ++ "'"
  | .arity verb => "ERR wrong number of arguments for '" ++ verb.name ++ "' command"
  | .badKey => "ERR invalid key"
  | .badValue => "ERR invalid value"

/-- The bytes of an argument, or the error of its place. -/
def argument (failure : Error) (value : Value) : Except Error (List UInt8) :=
  match value.bytes? with
  | some bytes => .ok bytes
  | none => .error failure

/-- The keys in a list of arguments, last key first in `found`. -/
def keysFrom (found : List (List UInt8)) : List Value → Except Error (List (List UInt8))
  | [] => .ok found.reverse
  | value :: values =>
    match argument .badKey value with
    | .error failure => .error failure
    | .ok key => keysFrom (key :: found) values

/-- The command that a verb forms with its arguments. -/
def ofArguments : Verb → List Value → Except Error Command
  | .get, [key] =>
    match argument .badKey key with
    | .error failure => .error failure
    | .ok key => .ok (.get key)
  | .get, _ => .error (.arity .get)
  | .set, [key, value] =>
    match argument .badKey key, argument .badValue value with
    | .error failure, _ => .error failure
    | .ok _, .error failure => .error failure
    | .ok key, .ok value => .ok (.set key value)
  | .set, _ => .error (.arity .set)
  | .delete, [] => .error (.arity .delete)
  | .delete, keys =>
    match keysFrom [] keys with
    | .error failure => .error failure
    | .ok keys => .ok (.delete keys)

/-- The command that a request stands for. -/
def ofValue : Value → Except Error Command
  | .array (first :: arguments) =>
    match first.bytes? with
    | none => .error .noName
    | some name =>
      match Verb.ofToken? name with
      | none => .error (.unknown name)
      | some verb => ofArguments verb arguments
  | _ => .error .noName

end Command

end KeyValueServer
