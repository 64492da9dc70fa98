import FrameServer.Handler.Script
import FrameServer.Session.Basic

namespace FrameServer

/-- The connection of a session as far as the lane does not know it: how much fits, and who reads. -/
structure Pipe where
  capacity : Nat := 65536
  /-- How many bytes of the wire the peer has read. -/
  read : Nat := 0
  /-- Why nothing is taken any more, if so. -/
  fault : Option String := none
  deriving DecidableEq, Repr

namespace Pipe

def broken (p : Pipe) (reason : String) : Pipe := { p with fault := some reason }

def gone (p : Pipe) : Bool := p.fault.isSome

end Pipe

namespace Session

def room (s : Session) (p : Pipe) : Nat := p.capacity - (s.lane.wire.length - p.read)

/-- The move of the lane that needs nothing but the connection, if there is one. -/
def ready? (s : Session) (p : Pipe) : Option Lane.Move :=
  match s.lane.turn with
  | some (_, []) => some .finish
  | some (_, rest) =>
    match p.fault with
    | some reason => some (.fail reason)
    | none =>
      let n := min (s.room p) rest.length
      if n = 0 then none else some (.accept n)
  | none => if s.lane.queue.isEmpty then none else some .grant

def settleWith (p : Pipe) : Nat → Session → Session
  | 0, s => s
  | fuel + 1, s =>
    match s.ready? p with
    | none => s
    | some m =>
      match s.step (.lane m) with
      | none => s
      | some s => settleWith p fuel s

/-- A ticket takes its turn, writes and finishes; then it is the next one's turn. -/
def settle (p : Pipe) (s : Session) : Session := s.settleWith p (3 * s.lane.queue.length + 3)

end Session

structure Hub where
  clock : Nat := 0
  /-- All sessions that ever were, at the place of their key. -/
  sessions : List Session := []
  pipes : List Pipe := []
  registry : Registry := {}
  tickets : Ticket := 0

namespace Hub

def session? (h : Hub) (k : SessionKey) : Option Session := h.sessions[k]?

def pipe (h : Hub) (k : SessionKey) : Pipe := h.pipes[k]?.getD {}

/-- Adds a session and its connection; its key is the number of sessions before it. -/
def add (h : Hub) (s : Session) (p : Pipe) : Hub :=
  { h with sessions := h.sessions ++ [s], pipes := h.pipes ++ [p] }

def register (h : Hub) (k : SessionKey) : Hub :=
  match h.session? k with
  | some s => { h with registry := h.registry.insert s.id k }
  | none => h

def move (h : Hub) (k : SessionKey) (m : Session.Move) : Hub :=
  match h.session? k with
  | none => h
  | some s =>
    match s.step m with
    | none => h
    | some s => { h with sessions := h.sessions.set k s }

def setPipe (h : Hub) (k : SessionKey) (p : Pipe) : Hub := { h with pipes := h.pipes.set k p }

def settle (h : Hub) (k : SessionKey) : Hub :=
  match h.session? k with
  | none => h
  | some s => { h with sessions := h.sessions.set k (s.settle (h.pipe k)) }

def settleAll (h : Hub) : Hub :=
  { h with sessions := h.sessions.zipIdx.map fun (s, k) => s.settle (h.pipe k) }

/-- Whether a ticket would have its turn at once. -/
def isFree (h : Hub) (k : SessionKey) : Bool :=
  match h.session? k with
  | some s => s.lane.turn.isNone && s.lane.queue.isEmpty
  | none => false

/-- Makes a move that needs a ticket, which goes as far as it can if it has its turn at once. Those that
wait for theirs go on when all lanes settle. -/
def request (h : Hub) (k : SessionKey) (m : Ticket → Session.Move) : Ticket × Hub :=
  let t := h.tickets
  let next := { h with tickets := t + 1 }.move k (m t)
  (t, if h.isFree k then next.settle k else next)

def call (h : Hub) (k : SessionKey) (c : Session.Call) : Ticket × Hub := h.request k c.move

def result? (h : Hub) (k : SessionKey) (t : Ticket) : Option (Except SendError Unit) :=
  (h.session? k).bind (·.lane.result? t)

def send (h : Hub) (k : SessionKey) (m : Bytes) : Ticket × Hub := h.request k (.send · m)

def sendEach (h : Hub) (m : Bytes) : List SessionKey → List (SessionKey × Ticket) × Hub
  | [] => ([], h)
  | k :: ks =>
    let (t, h) := h.send k m
    let (ts, h) := h.sendEach m ks
    ((k, t) :: ts, h)

def broadcast (h : Hub) (m : Bytes) : List (SessionKey × Ticket) × Hub := h.sendEach m h.registry.keys

/-- How many of the tickets are done, and how many of those succeeded. -/
def tally (h : Hub) (ts : List (SessionKey × Ticket)) : Nat × Nat :=
  let results := ts.filterMap fun (k, t) => h.result? k t
  (results.length, (results.filter fun | .ok () => true | .error _ => false).length)

/-- How a script that runs alone ends: with a value, or waiting for a connection that takes nothing. -/
inductive Ending (α : Type)
  | done (a : α)
  | stuck

def perform (h : Hub) (k : SessionKey) : (a : Action) → Option (a.Reply × Hub × List Note)
  | .send m =>
    let (t, h) := h.send k m
    (h.result? k t).map fun r => (r, h, [])
  | .broadcast m =>
    let (ts, h) := h.broadcast m
    let (finished, delivered) := h.tally ts
    if finished = ts.length then some (delivered, h, []) else none
  | .close =>
    match h.session? k with
    | some s => some (s.alive, h.move k .close, [])
    | none => none
  | .closeIdle =>
    match h.session? k with
    | some s => some (s.alive, h.move k .closeIdle, [])
    | none => none
  | .closeAsync =>
    match h.session? k with
    | some s =>
      let (t, h) := h.request k .closeAsync
      (h.result? k t).map fun _ => (s.alive, h, [])
    | none => none
  | .setAttribute key v => some ((), h.move k (.setAttribute key v), [])
  | .getAttribute key => some ((h.session? k).bind (·.attribute? key), h, [])
  | .sleep ms => some ((), { h with clock := h.clock + ms }, [])
  | .note n => some ((), h, [n])

/-- Runs a script for session `k` with nothing else going on; what was written down comes in order. -/
def run {α : Type} (h : Hub) (k : SessionKey) : Script α → Ending α × Hub × List Note
  | .done a => (.done a, h, [])
  | .act a next =>
    match h.perform k a with
    | none => (.stuck, h, [])
    | some (r, h, notes) =>
      let (e, h, more) := h.run k (next r)
      (e, h, notes ++ more)

end Hub
end FrameServer
