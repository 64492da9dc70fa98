import FrameServer.Server.Step

namespace FrameServer.Server

structure Observation where
  /-- How many loops have ended. -/
  served : Nat
  /-- How many calls to stop have ended. -/
  stopped : Nat
  events : List Event
  sessions : Nat
  running : Bool

namespace State

def served (s : State) : Nat := s.loops.countP (·.ended)

def stopped (s : State) : Nat := s.stops.countP (·.phase = .ended)

def serverEvents (records : List Record) : List Event :=
  records.filterMap fun
    | .event e => if e.source = .server then some e else none
    | _ => none

/-- What is seen of a server since it was in state `before`. -/
def since (s before : State) : Observation where
  served := s.served - before.served
  stopped := s.stopped - before.stopped
  events := serverEvents (s.journal.drop before.journal.length)
  sessions := s.hub.registry.size
  running := s.running

def isServing (s : State) : Bool := s.running || s.loops.any (!·.ended)

/-- The steps of the server's own tasks that may be possible: frames are found before any is handled, and
a connection that waits is admitted before its loop looks at the signal. -/
def candidates (s : State) : List Label :=
  let keys := List.range s.connections.length
  let loops := List.range s.loops.length
  keys.filterMap (fun k => ((s.connection? k).bind (·.pump.next?)).map (.pump k)) ++
    keys.map .task ++ loops.map .enroll ++ loops.map .poll ++
    (List.range s.monitors.length).map .watch ++ (List.range s.stops.length).map .proceed

def advance? (a : Application) (s : State) : Option State := s.candidates.findSome? (step a s)

def settleWith (a : Application) : Nat → State → State
  | 0, s => s
  | fuel + 1, s =>
    match s.advance? a with
    | none => s
    | some s => settleWith a fuel s

/-- More steps than a server makes at one time, unless a handler never rests. -/
def patience : Nat := 1000000

def settle (a : Application) (s : State) : State := s.settleWith a patience

/-- Makes a step if it is possible, and lets everything follow that can. -/
def make (a : Application) (s : State) (l : Label) : State := ((step a s l).getD s).settle a

def ticks (a : Application) (tick : Nat) : Nat → State → State
  | 0, s => s
  | n + 1, s => ticks a tick n (s.make a (.pass tick))

/-- Lets time pass in ticks, the last of which may be shorter. -/
def pass (a : Application) (ms tick : Nat) (s : State) : State :=
  let s := ticks a tick (ms / tick) s
  if ms % tick = 0 then s else s.make a (.pass (ms % tick))

end State

inductive StartError
  | alreadyRunning
  | bind (address reason : String)
  deriving DecidableEq, Repr

def StartError.message : StartError → String
  | alreadyRunning => "server is already running"
  | bind address reason => s!"failed to bind {address}: {reason}"

/-- Starts a server, which first has to get hold of its port. -/
def State.start (a : Application) (s : State) (port : Nat) (bound : Except String (String × Nat)) :
    Except StartError Unit × State :=
  match bound with
  | .error reason =>
    let event := State.serverEvent .serverError
      [("address", .string a.settings.host), ("port", .int port), ("error", .string reason)]
    (.error (.bind s!"{a.settings.host}:{port}" reason), s.record [event])
  | .ok (address, port) =>
    match s.serve a address port with
    | none => (.error .alreadyRunning, s)
    | some s => (.ok (), s.settle a)

end FrameServer.Server
