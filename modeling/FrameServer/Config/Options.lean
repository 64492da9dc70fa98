import FrameServer.Config.Basic

namespace FrameServer

/-- The options of the command line, which take precedence over the configuration file. -/
structure Options where
  host : Option String := none
  port : Option UInt16 := none
  framing : Option Config.Strategy := none
  delimiter : Option Char := none
  mode : Option Config.Mode := none
  idleTimeout : Option UInt64 := none
  logLevel : Option String := none
  configDir : Option String := none
  deriving DecidableEq, Repr

namespace Options

inductive Stop
  | help
  | version
  | unknownArgument
  /-- A value is missing, or none of those that are possible. -/
  | invalidValue
  | unreadableValue
  | conflict
  /-- A value is given to an option that takes none. -/
  | needlessValue
  deriving DecidableEq, Repr

inductive Key
  | host | port | framing | delimiter | mode | idleTimeout | logLevel | config
  deriving DecidableEq, Repr

def Key.all : List Key := [host, port, framing, delimiter, mode, idleTimeout, logLevel, config]

def Key.name : Key → String
  | host => "host"
  | port => "port"
  | framing => "framing"
  | delimiter => "delimiter"
  | mode => "mode"
  | idleTimeout => "idle-timeout"
  | logLevel => "log-level"
  | config => "config"

/-- What a name on the command line stands for. -/
inductive Switch
  | key (k : Key)
  | help
  | version

def long? (name : String) : Option Switch :=
  match name with
  | "help" => some .help
  | "version" => some .version
  | _ => (Key.all.find? (·.name = name)).map .key

def short? : Char → Option Switch
  | 'p' => some (.key .port)
  | 'h' => some .help
  | 'V' => some .version
  | _ => none

/-- The names on the command line have dashes. -/
def optionName (fileName : String) : String :=
  String.ofList (fileName.toList.map fun c => if c = '_' then '-' else c)

def digits? (cs : List Char) : Option Nat :=
  if cs.isEmpty || !cs.all Char.isDigit then none
  else some (cs.foldl (fun n c => n * 10 + (c.toNat - 48)) 0)

/-- A number below `bound`, which may have a plus sign. -/
def number? (bound : Nat) (s : String) : Option Nat := do
  let n ← match s.toList with
    | '+' :: cs => digits? cs
    | cs => digits? cs
  if n < bound then some n else none

/-- A port; zero may also have a minus sign. -/
def port? (s : String) : Option UInt16 :=
  match s.toList with
  | '-' :: cs => if digits? cs = some 0 then some 0 else none
  | _ => (number? (Nat.pow 2 16) s).map UInt16.ofNat

def char? (s : String) : Option Char :=
  match s.toList with
  | [c] => some c
  | _ => none

def has (o : Options) : Key → Bool
  | .host => o.host.isSome
  | .port => o.port.isSome
  | .framing => o.framing.isSome
  | .delimiter => o.delimiter.isSome
  | .mode => o.mode.isSome
  | .idleTimeout => o.idleTimeout.isSome
  | .logLevel => o.logLevel.isSome
  | .config => o.configDir.isSome

def orStop {α : Type} (stop : Stop) : Option α → Except Stop α
  | some a => .ok a
  | none => .error stop

def put (o : Options) (k : Key) (s : String) : Except Stop Options :=
  if o.has k then .error .conflict
  else match k with
  | .host => .ok { o with host := some s }
  | .port => do return { o with port := some (← orStop .unreadableValue (port? s)) }
  | .framing => do
    return { o with framing := some (← orStop .invalidValue (Config.Strategy.all.find? (optionName ·.name = s))) }
  | .delimiter => do return { o with delimiter := some (← orStop .unreadableValue (char? s)) }
  | .mode => do
    return { o with mode := some (← orStop .invalidValue (Config.Mode.all.find? (optionName ·.name = s))) }
  | .idleTimeout => do
    let n ← orStop .unreadableValue (number? (Nat.pow 2 64) s)
    return { o with idleTimeout := some (UInt64.ofNat n) }
  | .logLevel => .ok { o with logLevel := some s }
  | .config => if s.isEmpty then .error .invalidValue else .ok { o with configDir := some s }

/-- An option whose value is not read yet, and perhaps its value. -/
abbrev Pending := Option (Key × Option String)

def settle (o : Options) : Pending → Except Stop Options
  | none => .ok o
  | some (_, none) => .error .invalidValue
  | some (k, some s) => o.put k s

/-- The letters behind one dash. The first one that takes a value takes the rest of them. -/
def letters (o : Options) (pending : Pending) : List Char → Except Stop (Options × Pending)
  | [] => .ok (o, pending)
  | c :: cs =>
    match short? c with
    | none => .error .unknownArgument
    | some .help => do let _ ← o.settle pending; .error .help
    | some .version => do let _ ← o.settle pending; .error .version
    | some (.key k) => do
      let o ← o.settle pending
      match cs with
      | [] => return (o, some (k, none))
      | '=' :: value => return (← o.put k (String.ofList value), none)
      | value => return (← o.put k (String.ofList value), none)

/-- What stands behind two dashes: a name, and a value behind the first equals sign. -/
def longName (cs : List Char) : String × Option String :=
  let value := match cs.dropWhile (· ≠ '=') with
    | [] => none
    | _ :: value => some (String.ofList value)
  (String.ofList (cs.takeWhile (· ≠ '=')), value)

def longArgument (o : Options) (pending : Pending) (cs : List Char) : Except Stop (Options × Pending) :=
  let (name, value) := longName cs
  match long? name, value with
  | none, _ => .error .unknownArgument
  | some (.key k), some s => do return (← (← o.settle pending).put k s, none)
  | some (.key k), none => do return (← o.settle pending, some (k, none))
  | some _, some _ => .error .needlessValue
  | some .help, none => do let _ ← o.settle pending; .error .help
  | some .version, none => do let _ ← o.settle pending; .error .version

/-- Reads the arguments from left to right. The value of an option is read when the next one begins. -/
def parseFrom (o : Options) (pending : Pending) : List String → Except Stop Options
  | [] => o.settle pending
  | a :: rest =>
    match a.toList with
    | ['-', '-'] => if rest.isEmpty then o.settle pending else .error .unknownArgument
    | '-' :: '-' :: cs => do
      let (o, pending) ← longArgument o pending cs
      parseFrom o pending rest
    | '-' :: c :: cs => do
      let (o, pending) ← letters o pending (c :: cs)
      parseFrom o pending rest
    | _ =>
      match pending with
      | some (k, none) => parseFrom o (some (k, some a)) rest
      | _ => .error .unknownArgument

def parse (args : List String) : Except Stop Options := parseFrom {} none args

def usage : String :=
  "Options:\n" ++ String.join (Key.all.map fun k => "  --" ++ k.name ++ " <VALUE>\n") ++ "  --help\n  --version"

def Stop.message : Stop → String
  | help => usage
  | version => "1.0"
  | unknownArgument => "unexpected argument"
  | invalidValue => "a value is missing or not one of those that are possible"
  | unreadableValue => "a value cannot be read"
  | conflict => "an option is given twice"
  | needlessValue => "a value is given to an option that takes none"

def Stop.wanted : Stop → Bool
  | help | version => true
  | _ => false

end Options

namespace Config

def override (c : Config) (o : Options) : Config where
  server := { c.server with host := o.host.getD c.server.host, port := o.port.getD c.server.port }
  framing := { c.framing with
    strategy := o.framing.getD c.framing.strategy
    delimiter := o.delimiter.getD c.framing.delimiter }
  keepAlive := { c.keepAlive with idleTimeoutSecs := o.idleTimeout.getD c.keepAlive.idleTimeoutSecs }
  dispatch := { mode := o.mode.getD c.dispatch.mode }
  events := c.events
  log := { c.log with level := o.logLevel.getD c.log.level }

end Config
end FrameServer
