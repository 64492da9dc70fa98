import FrameServer.Server.Connection
import FrameServer.Session.Sweep

namespace FrameServer.Server

structure AcceptLoop where
  address : String
  port : Nat
  /-- Which change of the shutdown signal it has seen; it only ever sees the newest value. -/
  seen : Nat
  /-- A connection that waits to be admitted: its session id and its peer. -/
  holding : Option (SessionId × String) := none
  ended : Bool := false
  deriving DecidableEq, Repr

inductive Stopping.Phase
  | notifying (pending : List (SessionKey × Ticket)) (deadline : Nat)
  /-- Waits until no connection is being admitted. -/
  | locking
  | draining (deadline : Nat)
  /-- Shuts down what is left in the registry, one session after the other. -/
  | clearing (left : List SessionKey) (current : Option (SessionKey × Ticket))
  | ended
  deriving DecidableEq, Repr

structure Stopping where
  phase : Stopping.Phase
  wasRunning : Bool
  deriving DecidableEq, Repr

structure State where
  hub : Hub := {}
  /-- The connections that were admitted; each has the place of its session. -/
  connections : List Connection := []
  running : Bool := false
  /-- The newest value of the shutdown signal, and how often it was set. -/
  shutdown : Bool := false
  signals : Nat := 0
  loops : List AcceptLoop := []
  monitors : List Monitor := []
  /-- The monitor that the next stop ends. -/
  current : Option Nat := none
  stops : List Stopping := []
  /-- The stop that keeps connections from being admitted. -/
  lock : Option Nat := none
  address : Option String := none
  journal : List Record := []

namespace State

def connection? (s : State) (k : SessionKey) : Option Connection := s.connections[k]?

def record (s : State) (rs : List Record) : State := { s with journal := s.journal ++ rs }

def serverEvent (kind : Event.Kind) (properties : List (String × Json)) : Record :=
  .event (properties.foldl (fun e (k, v) => e.set k v) ⟨kind, .server, []⟩)

def signal (s : State) (value : Bool) : State := { s with shutdown := value, signals := s.signals + 1 }

def quiet (s : State) : Bool := s.connections.all (·.phase.isOver)

/-- Ends the connections that have not ended, the first of them being that of session `k`. -/
def abortFrom (k : SessionKey) (h : Hub) : List Connection → Hub × List Connection
  | [] => (h, [])
  | c :: cs =>
    let (h, c) := c.abort k h
    let (h, cs) := abortFrom (k + 1) h cs
    (h, c :: cs)

def abortAll (s : State) : State :=
  let (hub, connections) := abortFrom 0 s.hub s.connections
  { s with hub, connections }

end State
end FrameServer.Server
