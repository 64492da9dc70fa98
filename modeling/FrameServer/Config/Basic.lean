import FrameServer.Framing.Basic
import FrameServer.Text.Quoted

namespace FrameServer

namespace Config

inductive Strategy
  | line
  | delimiter
  | lengthPrefixed
  deriving DecidableEq, Repr

inductive Mode
  | command
  | structured
  deriving DecidableEq, Repr

structure ServerPart where
  host : String := "0.0.0.0"
  port : UInt16 := 7070
  maxConnections : UInt64 := 1024
  writeTimeoutSecs : UInt64 := 5
  shutdownGraceSecs : UInt64 := 5
  dispatchDelayMs : UInt64 := 0
  backpressureCapacity : UInt64 := 1
  deriving DecidableEq, Repr

structure FramingPart where
  strategy : Strategy := .line
  delimiter : Char := '\n'
  maxFrameSize : UInt64 := 1048576
  deriving DecidableEq, Repr

structure KeepAlivePart where
  idleTimeoutSecs : UInt64 := 30
  sweepIntervalSecs : UInt64 := 10
  deriving DecidableEq, Repr

structure DispatchPart where
  mode : Mode := .structured
  deriving DecidableEq, Repr

structure EventsPart where
  /-- How many events of a kind wait for a slow subscriber. -/
  buffer : UInt64 := 256
  deriving DecidableEq, Repr

structure LogPart where
  level : String := "info"
  file : Bool := false
  deriving DecidableEq, Repr

end Config

structure Config where
  server : Config.ServerPart := {}
  framing : Config.FramingPart := {}
  keepAlive : Config.KeepAlivePart := {}
  dispatch : Config.DispatchPart := {}
  events : Config.EventsPart := {}
  log : Config.LogPart := {}
  deriving DecidableEq, Repr

inductive FileFault
  | notFound
  | notADirectory
  | isADirectory
  | taken
  | nameTooLong
  | nulInName
  | notText
  deriving DecidableEq, Repr

def FileFault.message : FileFault → String
  | notFound => "No such file or directory (os error 2)"
  | taken => "File exists (os error 17)"
  | notADirectory => "Not a directory (os error 20)"
  | isADirectory => "Is a directory (os error 21)"
  | nameTooLong => "File name too long (os error 36)"
  | nulInName => "file name contained an unexpected NUL byte"
  | notText => "stream did not contain valid UTF-8"

inductive ConfigError
  | read (fault : FileFault)
  | write (fault : FileFault)
  | parse
  | invalid (field reason : String)
  deriving DecidableEq, Repr

def ConfigError.message : ConfigError → String
  | read fault => "failed to read config: " ++ fault.message
  | write fault => "failed to write config: " ++ fault.message
  | parse => "failed to parse config"
  | invalid field reason => s!"invalid config value for `{field}`: {reason}"

namespace Config

def Strategy.all : List Strategy := [line, delimiter, lengthPrefixed]

def Strategy.name : Strategy → String
  | line => "line"
  | delimiter => "delimiter"
  | lengthPrefixed => "length_prefixed"

def Mode.all : List Mode := [command, structured]

def Mode.name : Mode → String
  | command => "command"
  | structured => "structured"

def FramingPart.delimiterByte? (f : FramingPart) : Except ConfigError UInt8 :=
  if f.delimiter.toNat < 128 then .ok f.delimiter.toNat.toUInt8
  else .error (.invalid "framing.delimiter" (quoteChar f.delimiter ++ " is not a single-byte character"))

/-- The values that must not be zero, with the names of their fields. -/
def positives (c : Config) : List (String × UInt64) :=
  [("server.max_connections", c.server.maxConnections),
   ("server.backpressure_capacity", c.server.backpressureCapacity),
   ("framing.max_frame_size", c.framing.maxFrameSize),
   ("keepalive.idle_timeout_secs", c.keepAlive.idleTimeoutSecs),
   ("keepalive.sweep_interval_secs", c.keepAlive.sweepIntervalSecs),
   ("events.buffer", c.events.buffer)]

/-- The first thing that makes a configuration unusable; the delimiter counts only if it is used. -/
def validate (c : Config) : Except ConfigError Unit := do
  if c.framing.strategy = .delimiter then
    let _ ← c.framing.delimiterByte?
  match c.positives.find? (·.2 = 0) with
  | some (field, _) => .error (.invalid field "must be greater than zero")
  | none => .ok ()

def framing? (c : Config) : Except ConfigError Framing :=
  let max := c.framing.maxFrameSize.toNat
  match c.framing.strategy with
  | .line => .ok ⟨.line, max⟩
  | .delimiter => c.framing.delimiterByte?.map fun d => ⟨.delimiter d, max⟩
  | .lengthPrefixed => .ok ⟨.lengthPrefixed, max⟩

end Config
end FrameServer
