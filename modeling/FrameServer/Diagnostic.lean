import FrameServer.Application
import FrameServer.Session.Sweep
import FrameServer.Text.Quoted

namespace FrameServer.Diagnostic

/-- A name with fields in braces; two dots stand for fields that are not shown. -/
def fields (name : String) (fs : List (String × String)) (more : Bool := false) : String :=
  let shown := fs.map (fun (k, v) => k ++ ": " ++ v) ++ if more then [".."] else []
  name ++ " \x7b " ++ ", ".intercalate shown ++ " \x7d"

def wrapped (name value : String) : String := s!"{name}({value})"

def list (items : List String) : String := "[" ++ ", ".intercalate items ++ "]"

def texts (ss : List String) : String := list (ss.map quoteText)

def option (v : Option String) : String :=
  match v with
  | none => "None"
  | some v => wrapped "Some" v

/-- The part of a second after the point, without zeros at its end. -/
def secondPart (ms : Nat) : String :=
  let digits := (toString (1000 + ms)).toList.drop 1
  match (digits.reverse.dropWhile (· = '0')).reverse with
  | [] => ""
  | ds => "." ++ String.ofList ds

/-- A duration in the largest unit of which it has at least one. -/
def duration (ms : Nat) : String :=
  if ms = 0 then "0ns"
  else if ms < 1000 then s!"{ms}ms"
  else s!"{ms / 1000}{secondPart (ms % 1000)}s"

def sessionId (id : SessionId) : String := wrapped "SessionId" (quoteText id)

def session (s : Session) : String :=
  fields "Session" [("id", sessionId s.id), ("remote_addr", option s.address), ("alive", toString s.alive),
    ("framing", quoteText s.lane.framing.name)] true

def kind : Param.Kind → String
  | .session => "Session"
  | .sessionId => "SessionId"
  | .body => "Body"
  | .field key => wrapped "Field" (quoteText key)
  | .custom tag => wrapped "Custom" (quoteText tag)

def param (p : Param) : String :=
  fields "ParamSpec" [("name", quoteText p.name), ("kind", kind p.kind), ("required", toString p.required),
    ("validated", toString p.check?.isSome)]

def argument : Argument → String
  | .session id => wrapped "Session" (sessionId id)
  | .sessionId id => wrapped "SessionId" (sessionId id)
  | .value _ => "Value(..)"
  | .absent => "Absent"

def args (as : List Argument) : String := fields "Args" [("values", list (as.map argument))]

def descriptor (d : Structured.Descriptor) : String :=
  fields "HandlerDescriptor" [("type_name", quoteText d.type), ("command", quoteText d.command),
    ("params", list (d.params.map param))] true

def commandDispatcher (d : Command.Dispatcher) : String :=
  fields "CommandDispatcher" [("commands", texts d.commands.names), ("middleware", texts d.chain.names)]

def structuredDispatcher (d : Structured.Dispatcher) : String :=
  fields "StructuredDispatcher" [("handlers", toString d.handlers.size), ("resolvers", texts d.resolvers.names),
    ("middleware", texts d.chain.names)] true

def monitor (m : Monitor) : String :=
  fields "KeepAliveMonitor" [("idle_timeout", duration m.idleLimit), ("interval", duration m.interval),
    ("running", toString m.running)]

def framing (f : Framing) : String :=
  let max := ("max_frame_size", toString f.max)
  match f.kind with
  | .line => fields "LineFraming" [max]
  | .delimiter d => fields "DelimiterFraming" [("delimiter", toString d.toNat), max]
  | .lengthPrefixed => fields "LengthPrefixedFraming" [max]

def socket (s : Server.SocketSettings) : String :=
  fields "SocketOptions" [("nodelay", toString s.nodelay), ("keepalive", option (s.keepAlive.map duration)),
    ("keepalive_interval", duration s.keepAliveInterval), ("reuse_addr", toString s.reuseAddress),
    ("backlog", toString s.backlog)]

def settings (s : Server.Settings) : String :=
  fields "ServerConfig" [("host", quoteText s.host), ("idle_timeout", duration s.idleTimeout),
    ("sweep_interval", duration s.sweepInterval), ("max_connections", toString s.maxConnections),
    ("backpressure_capacity", toString s.backpressureCapacity), ("dispatch_delay", duration s.dispatchDelay),
    ("write_timeout", duration s.writeTimeout), ("shutdown_grace", duration s.shutdownGrace),
    ("shutdown_notice", quoteText s.shutdownNotice), ("socket", socket s.socket)]

def server (s : Server.Settings) (f : Framing) (sessions : Nat) (running : Bool) : String :=
  fields "TcpServer" [("config", settings s), ("framing", quoteText f.name), ("sessions", toString sessions),
    ("running", toString running)] true

end FrameServer.Diagnostic
