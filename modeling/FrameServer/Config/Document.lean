import FrameServer.Config.Basic
import FrameServer.Json.Basic
import FrameServer.Ron.Reader

namespace FrameServer.Config

/-- The fields of a section in the order in which they stand. -/
abbrev Fields := List (String × Ron.Value)

namespace Fields

/-- The fields of a record that has the name `name`, or none if it need not be named. -/
def ofValue? (named : Bool) (name : String) (v : Ron.Value) : Option Fields :=
  let fits (n : Option String) : Bool := n = some name || (n = none && !named)
  match v with
  | .unit => if named then none else some []
  | .tuple n [] => if fits n then some [] else none
  | .record n fs => if fits n then some fs else none
  | _ => none

/-- The value of a field, which must not stand twice, or the default if it is left out. -/
def take {α : Type} (fs : Fields) (key : String) (read : Ron.Value → Option α) (fallback : α) : Option α :=
  match fs.filter (·.1 = key) with
  | [] => some fallback
  | [(_, v)] => read v
  | _ => none

end Fields

def text? : Ron.Value → Option String
  | .text s => some s
  | _ => none

def char? : Ron.Value → Option Char
  | .char c => some c
  | _ => none

def flag? : Ron.Value → Option Bool
  | .flag b => some b
  | _ => none

def whole? (bits : Nat) : Ron.Value → Option Nat
  | .number (.whole negative n type) =>
    if n < Nat.pow 2 bits ∧ (negative → n = 0) ∧ (type = none ∨ type = some s!"u{bits}") then some n else none
  | _ => none

def uint16? (v : Ron.Value) : Option UInt16 := (whole? 16 v).map UInt16.ofNat
def uint64? (v : Ron.Value) : Option UInt64 := (whole? 64 v).map UInt64.ofNat

def strategy? : Ron.Value → Option Strategy
  | .word w => Strategy.all.find? (·.name = w)
  | _ => none

def mode? : Ron.Value → Option Mode
  | .word w => Mode.all.find? (·.name = w)
  | _ => none

def ServerPart.over? (named : Bool) (d : ServerPart) (v : Ron.Value) : Option ServerPart := do
  let fs ← Fields.ofValue? named "ServerConfig" v
  return {
    host := ← fs.take "host" text? d.host
    port := ← fs.take "port" uint16? d.port
    maxConnections := ← fs.take "max_connections" uint64? d.maxConnections
    writeTimeoutSecs := ← fs.take "write_timeout_secs" uint64? d.writeTimeoutSecs
    shutdownGraceSecs := ← fs.take "shutdown_grace_secs" uint64? d.shutdownGraceSecs
    dispatchDelayMs := ← fs.take "dispatch_delay_ms" uint64? d.dispatchDelayMs
    backpressureCapacity := ← fs.take "backpressure_capacity" uint64? d.backpressureCapacity }

def FramingPart.over? (named : Bool) (d : FramingPart) (v : Ron.Value) : Option FramingPart := do
  let fs ← Fields.ofValue? named "FramingConfig" v
  return {
    strategy := ← fs.take "strategy" strategy? d.strategy
    delimiter := ← fs.take "delimiter" char? d.delimiter
    maxFrameSize := ← fs.take "max_frame_size" uint64? d.maxFrameSize }

def KeepAlivePart.over? (named : Bool) (d : KeepAlivePart) (v : Ron.Value) : Option KeepAlivePart := do
  let fs ← Fields.ofValue? named "KeepAliveConfig" v
  return {
    idleTimeoutSecs := ← fs.take "idle_timeout_secs" uint64? d.idleTimeoutSecs
    sweepIntervalSecs := ← fs.take "sweep_interval_secs" uint64? d.sweepIntervalSecs }

def DispatchPart.over? (named : Bool) (d : DispatchPart) (v : Ron.Value) : Option DispatchPart := do
  let fs ← Fields.ofValue? named "DispatchConfig" v
  return { mode := ← fs.take "mode" mode? d.mode }

def EventsPart.over? (named : Bool) (d : EventsPart) (v : Ron.Value) : Option EventsPart := do
  let fs ← Fields.ofValue? named "EventsConfig" v
  return { buffer := ← fs.take "buffer" uint64? d.buffer }

def LogPart.over? (named : Bool) (d : LogPart) (v : Ron.Value) : Option LogPart := do
  let fs ← Fields.ofValue? named "LogConfig" v
  return {
    level := ← fs.take "level" text? d.level
    file := ← fs.take "file" flag? d.file }

/-- The configuration of a document, with the values of `c` where it has none. -/
def over? (named : Bool) (c : Config) (v : Ron.Value) : Option Config := do
  let fs ← Fields.ofValue? named "Config" v
  return {
    server := ← fs.take "server" (ServerPart.over? named c.server) c.server
    framing := ← fs.take "framing" (FramingPart.over? named c.framing) c.framing
    keepAlive := ← fs.take "keepalive" (KeepAlivePart.over? named c.keepAlive) c.keepAlive
    dispatch := ← fs.take "dispatch" (DispatchPart.over? named c.dispatch) c.dispatch
    events := ← fs.take "events" (EventsPart.over? named c.events) c.events
    log := ← fs.take "log" (LogPart.over? named c.log) c.log }

def ofDocument? (d : Ron.Document) : Option Config := over? d.extensions.namesRecords {} d.value

def parse? (s : String) : Option Config := (Ron.Document.parse? s).bind ofDocument?

/-- A configuration as sections of fields, each value as it is written. -/
def sheet (c : Config) : List (String × List (String × List Char)) :=
  let number (n : UInt64) : List Char := Nat.toDigits 10 n.toNat
  [("server",
     [("host", Ron.writeText c.server.host),
      ("port", Nat.toDigits 10 c.server.port.toNat),
      ("max_connections", number c.server.maxConnections),
      ("write_timeout_secs", number c.server.writeTimeoutSecs),
      ("shutdown_grace_secs", number c.server.shutdownGraceSecs),
      ("dispatch_delay_ms", number c.server.dispatchDelayMs),
      ("backpressure_capacity", number c.server.backpressureCapacity)]),
   ("framing",
     [("strategy", c.framing.strategy.name.toList),
      ("delimiter", Ron.writeChar c.framing.delimiter),
      ("max_frame_size", number c.framing.maxFrameSize)]),
   ("keepalive",
     [("idle_timeout_secs", number c.keepAlive.idleTimeoutSecs),
      ("sweep_interval_secs", number c.keepAlive.sweepIntervalSecs)]),
   ("dispatch", [("mode", c.dispatch.mode.name.toList)]),
   ("events", [("buffer", number c.events.buffer)]),
   ("log",
     [("level", Ron.writeText c.log.level),
      ("file", (if c.log.file then "true" else "false").toList)])]

def indent (depth : Nat) : List Char := List.replicate (4 * depth) ' '

def fieldLine (f : String × List Char) : List Char :=
  indent 2 ++ f.1.toList ++ [':', ' '] ++ f.2 ++ [',', '\n']

def sectionLines (s : String × List (String × List Char)) : List Char :=
  indent 1 ++ s.1.toList ++ [':', ' ', '(', '\n'] ++ s.2.flatMap fieldLine ++ indent 1 ++ [')', ',', '\n']

/-- A configuration as it is written to its file; the last line has no end. -/
def chars (c : Config) : List Char := ['(', '\n'] ++ c.sheet.flatMap sectionLines ++ [')']

def render (c : Config) : String := String.ofList c.chars

def word (n : UInt64) : Json := .int n.toNat

def ServerPart.toJson (p : ServerPart) : Json :=
  Json.ofMembers [("host", .string p.host), ("port", .int p.port.toNat), ("max_connections", word p.maxConnections),
    ("write_timeout_secs", word p.writeTimeoutSecs), ("shutdown_grace_secs", word p.shutdownGraceSecs),
    ("dispatch_delay_ms", word p.dispatchDelayMs), ("backpressure_capacity", word p.backpressureCapacity)]

def FramingPart.toJson (p : FramingPart) : Json :=
  Json.ofMembers [("strategy", .string p.strategy.name), ("delimiter", .string (String.ofList [p.delimiter])),
    ("max_frame_size", word p.maxFrameSize)]

def KeepAlivePart.toJson (p : KeepAlivePart) : Json :=
  Json.ofMembers [("idle_timeout_secs", word p.idleTimeoutSecs), ("sweep_interval_secs", word p.sweepIntervalSecs)]

def toJson (c : Config) : Json :=
  Json.ofMembers [("server", c.server.toJson), ("framing", c.framing.toJson), ("keepalive", c.keepAlive.toJson),
    ("dispatch", Json.ofMembers [("mode", .string c.dispatch.mode.name)]),
    ("events", Json.ofMembers [("buffer", word c.events.buffer)]),
    ("log", Json.ofMembers [("level", .string c.log.level), ("file", .bool c.log.file)])]

/-- A value of JSON as it stands in the file under a key. -/
def valueOfJson (key : String) : Json → Option Ron.Value
  | .bool b => some (.flag b)
  | .int i => some (.number (.whole (i < 0) i.natAbs none))
  | .string s =>
    if key = "strategy" || key = "mode" then some (.word s)
    else if key = "delimiter" then s.toList.head?.map .char
    else some (.text s)
  | _ => none

/-- A configuration with the values that some sections of fields have; none if they do not fit. -/
def overJson? (c : Config) (sections : Json) : Option Config := do
  let fields (j : Json) (f : String → Json → Option Ron.Value) : Option Ron.Value := do
    let .object ms := j | none
    return .record none (← ms.mapM fun (k, v) => do return (k, ← f k v))
  over? false c (← fields sections fun _ s => fields s valueOfJson)

end FrameServer.Config
