import FrameServer.Builtin
import FrameServer.Config.Basic

namespace FrameServer.Server

structure SocketSettings where
  nodelay : Bool := true
  /-- How long a silent connection is left alone before it is probed. -/
  keepAlive : Option Nat := some 60000
  keepAliveInterval : Nat := 10000
  reuseAddress : Bool := true
  backlog : Nat := 1024
  deriving DecidableEq, Repr

structure Settings where
  host : String := "0.0.0.0"
  /-- A session without a message for longer than this is closed. -/
  idleTimeout : Nat := 30000
  sweepInterval : Nat := 10000
  maxConnections : Nat := 1024
  /-- How many messages of a connection wait before the oldest is dropped. -/
  backpressureCapacity : Nat := 1
  dispatchDelay : Nat := 0
  /-- How long a response or a notice may take to be written. -/
  writeTimeout : Nat := 5000
  /-- How long stopping waits for the connections to end. -/
  shutdownGrace : Nat := 5000
  shutdownNotice : String := "Server is shutting down. Goodbye!"
  socket : SocketSettings := {}
  deriving DecidableEq, Repr

end FrameServer.Server

namespace FrameServer.Server.Settings

def toJson (s : Settings) : Json :=
  let ms (n : Nat) : Json := .string (toString n)
  let count (n : Nat) : Json := .int n
  Json.ofMembers
    [("host", .string s.host), ("idle_timeout", ms s.idleTimeout), ("sweep_interval", ms s.sweepInterval),
     ("max_connections", count s.maxConnections), ("backpressure_capacity", count s.backpressureCapacity),
     ("dispatch_delay", ms s.dispatchDelay), ("write_timeout", ms s.writeTimeout),
     ("shutdown_grace", ms s.shutdownGrace), ("shutdown_notice", .string s.shutdownNotice),
     ("nodelay", .bool s.socket.nodelay), ("keepalive", (s.socket.keepAlive.map ms).getD .null),
     ("keepalive_interval", ms s.socket.keepAliveInterval), ("reuse_addr", .bool s.socket.reuseAddress),
     ("backlog", count s.socket.backlog)]

end FrameServer.Server.Settings

namespace FrameServer

namespace Config

/-- What the server is told; seconds become milliseconds. -/
def settings (c : Config) : Server.Settings where
  host := c.server.host
  idleTimeout := 1000 * c.keepAlive.idleTimeoutSecs.toNat
  sweepInterval := 1000 * c.keepAlive.sweepIntervalSecs.toNat
  maxConnections := c.server.maxConnections.toNat
  backpressureCapacity := c.server.backpressureCapacity.toNat
  dispatchDelay := c.server.dispatchDelayMs.toNat
  writeTimeout := 1000 * c.server.writeTimeoutSecs.toNat
  shutdownGrace := 1000 * c.server.shutdownGraceSecs.toNat

end Config

structure Application where
  settings : Server.Settings := {}
  framing : Framing := {}
  handler : Handler
  chain : Chain
  /-- How many events of a kind wait for a slow subscriber. -/
  eventBuffer : Nat := 256

namespace Application

def handlerOf (mode : Config.Mode) (middleware : List Middleware) : Handler :=
  match mode with
  | .command => (Builtin.commandDispatcher (.ofList middleware)).handler
  | .structured => (Builtin.structuredDispatcher middleware).handler

def ofConfig (c : Config) : Except ConfigError Application := do
  c.validate
  let framing ← c.framing?
  return {
    settings := c.settings
    framing
    handler := handlerOf c.dispatch.mode [.logging]
    chain := .ofList [.logging]
    eventBuffer := c.events.buffer.toNat }

end Application
end FrameServer
