import KeyValueServer.Config
import KeyValueServer.Text.Decimal
import KeyValueServer.Text.Utf8

/-!
# Settings

What can be chosen on the command line and in the environment: the name of each setting in both
places, its default, and how its text is read.
-/

namespace KeyValueServer.CommandLine

/-- The settings. -/
inductive Setting where
  | host
  | port
  | shards
  | readWorkers
  | processWorkers
  | writeWorkers
  | maxConnections
  | logLevel
  deriving DecidableEq, Repr

/-- The settings in the order in which they are listed. -/
def Setting.all : List Setting :=
  [.host, .port, .shards, .readWorkers, .processWorkers, .writeWorkers, .maxConnections, .logLevel]

namespace Setting

/-- The words in the name of a setting. -/
def words : Setting → List String
  | .host => ["host"]
  | .port => ["port"]
  | .shards => ["shards"]
  | .readWorkers => ["read", "workers"]
  | .processWorkers => ["process", "workers"]
  | .writeWorkers => ["write", "workers"]
  | .maxConnections => ["max", "connections"]
  | .logLevel => ["log", "level"]

/-- The name of a setting as an option, without the dashes in front. -/
def long (setting : Setting) : String := "-".intercalate setting.words

/-- The letter of a setting that has a short option. -/
def short? : Setting → Option Char
  | .port => some 'p'
  | _ => none

/-- The word that stands for the value of a setting. -/
def valueName (setting : Setting) : String := "_".intercalate (setting.words.map String.toUpper)

/-- A setting as it appears in messages. -/
def usage (setting : Setting) : String := "--" ++ setting.long ++ " <" ++ setting.valueName ++ ">"

/-- The environment variable of a setting. -/
def envName (setting : Setting) : String := "PIPEKV_" ++ setting.valueName

/-- What a setting is for. -/
def purpose : Setting → String
  | .host => "Host to bind to"
  | .port => "Port to listen on"
  | .shards => "Number of store shards"
  | .readWorkers => "Threads in the read pool"
  | .processWorkers => "Threads in the parse-and-run pool"
  | .writeWorkers => "Threads in the write pool"
  | .maxConnections => "Maximum concurrent connections"
  | .logLevel => "Log level (trace, debug, info, warn, error). RUST_LOG takes precedence"

/-- The text of the value that a setting has when it is not chosen. -/
def default : Setting → String
  | .host => Config.defaultHost
  | .port => toString Config.defaultPort.toNat
  | .shards => toString Config.defaultShards.toNat
  | .readWorkers | .processWorkers | .writeWorkers => toString Config.defaultWorkers.toNat
  | .maxConnections => toString Config.defaultConnections.toNat
  | .logLevel => "info"

end Setting

/-- The value of every setting. -/
structure Settings where
  host : IpAddress
  port : UInt16
  shards : UInt64
  readWorkers : UInt64
  processWorkers : UInt64
  writeWorkers : UInt64
  maxConnections : UInt64
  logLevel : String

namespace Settings

/-- The settings when none is chosen. -/
def standard : Settings where
  host := Config.standard.address.ip
  port := Config.defaultPort
  shards := Config.defaultShards
  readWorkers := Config.defaultWorkers
  processWorkers := Config.defaultWorkers
  writeWorkers := Config.defaultWorkers
  maxConnections := Config.defaultConnections
  logLevel := "info"

/-- Reads a size. -/
def readSize (text : String) : Except String UInt64 :=
  match Decimal.read Decimal.uint64 (Utf8.encode text) with
  | .ok size => .ok size.toNat.toUInt64
  | .error fault => .error fault.message

/-- Reads a port: any 64-bit integer is read, and then has to be a port. -/
def readPort (text : String) : Except String UInt16 :=
  match Decimal.read Decimal.int64 (Utf8.encode text) with
  | .error fault => .error fault.message
  | .ok port =>
    if 0 ≤ port ∧ port ≤ 65535 then .ok port.toNat.toUInt16
    else .error (toString port ++ " is not in 0..=65535")

/-- Reads a host. -/
def readHost (text : String) : Except String IpAddress :=
  match IpAddress.parse? text with
  | some host => .ok host
  | none => .error "invalid IP address syntax"

/-- Gives a setting the value that a text stands for. -/
def choose (settings : Settings) (setting : Setting) (text : String) : Except String Settings :=
  match setting with
  | .host => (readHost text).map fun host => { settings with host := host }
  | .port => (readPort text).map fun port => { settings with port := port }
  | .shards => (readSize text).map fun size => { settings with shards := size }
  | .readWorkers => (readSize text).map fun size => { settings with readWorkers := size }
  | .processWorkers => (readSize text).map fun size => { settings with processWorkers := size }
  | .writeWorkers => (readSize text).map fun size => { settings with writeWorkers := size }
  | .maxConnections => (readSize text).map fun size => { settings with maxConnections := size }
  | .logLevel => .ok { settings with logLevel := text }

/-- The configuration that the settings ask for. -/
def config (settings : Settings) : Config :=
  { Config.standard with
    address := ⟨settings.host, settings.port, 0⟩
    shardCount := settings.shards
    readWorkers := settings.readWorkers
    processWorkers := settings.processWorkers
    writeWorkers := settings.writeWorkers
    maxConnections := settings.maxConnections }

end Settings

end KeyValueServer.CommandLine
