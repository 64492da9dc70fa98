import FrameServer.Server.State

namespace FrameServer.Server

/-- What can happen to a server: the network, the passing of time, calls from outside, and the steps of its own tasks,
in any order in which they are possible. -/
inductive Label
  | connect (loop : Nat) (id : SessionId) (peer : String)
  | arrive (k : SessionKey) (bytes : Bytes)
  | finish (k : SessionKey) (fin : Framing.StreamEnd)
  /-- The connection to a peer can take `n` more bytes. -/
  | widen (k : SessionKey) (n : Nat)
  /-- The connection to a peer takes nothing any more. -/
  | fail (k : SessionKey) (reason : String)
  | pass (ms : Nat)
  | serve (address : String) (port : Nat)
  /-- A call to serve whose listener cannot tell its address. -/
  | serveUnnamed
  /-- An accept loop loses its listener. -/
  | lose (loop : Nat) (reason : String)
  | stop
  | act (k : SessionKey) (c : Session.Call)
  | poll (loop : Nat)
  /-- An accept loop admits the connection that it holds, or drops it. -/
  | enroll (loop : Nat)
  | pump (k : SessionKey) (m : Pump.Move)
  | task (k : SessionKey)
  | watch (monitor : Nat)
  | proceed (stop : Nat)

namespace State

/-- Changes one connection; `none` if there is no such connection or the change is impossible. -/
def onConnection (s : State) (k : SessionKey) (f : Connection → Option Connection) : Option State := do
  let c ← f (← s.connection? k)
  return { s with connections := s.connections.set k c }

/-- Changes the connection as far as the session sees it, and lets the lane go on. -/
def onPipe (s : State) (k : SessionKey) (f : Pipe → Pipe) : Option State :=
  if k < s.connections.length then some { s with hub := (s.hub.setPipe k (f (s.hub.pipe k))).settle k } else none

/-- Begins to serve. A server that is running does not begin again. -/
def serve (a : Application) (s : State) (address : String) (port : Nat) : Option State :=
  if s.running then none
  else
    let s : State := { s.signal false with running := true, address := some address }
    let monitor : Monitor :=
      { idleLimit := a.settings.idleTimeout, interval := a.settings.sweepInterval, patience := a.settings.writeTimeout }
    let s := { s with
      loops := s.loops ++ [({ address, port, seen := s.signals } : AcceptLoop)]
      current := some s.monitors.length
      monitors := s.monitors ++ [monitor.start s.hub.clock] }
    some (s.record [serverEvent .serverStart [("address", .string address), ("port", .int port)]])

/-- A listener without an address is not served, though the signal has been set as if it were. -/
def serveUnnamed (s : State) : Option State := if s.running then none else some (s.signal false)

/-- Stops the monitor that was started last, if it was not stopped before. -/
def stopMonitor (s : State) : State :=
  match s.current.bind fun i => (s.monitors[i]?).map fun m => (i, m) with
  | none => s
  | some (i, m) =>
    let (m, hub) := m.stop s.hub
    { s with hub := hub.settleAll, monitors := s.monitors.set i m, current := none }

/-- A loop whose listener fails for good ends, and the server is no longer running. -/
def lose (s : State) (i : Nat) (reason : String) : Option State := do
  let l ← s.loops[i]?
  if l.ended || l.holding.isSome then none
  let s := ({ s with running := false, loops := s.loops.set i { l with ended := true } }).stopMonitor
  return s.record [serverEvent .serverError
    [("address", .string l.address), ("port", .int l.port), ("error", .string reason)]]

/-- A call to stop: no more connections are admitted, and every session is sent the notice. -/
def stop (a : Application) (s : State) : State :=
  let wasRunning := s.running
  let s := ({ s.signal true with running := false }).stopMonitor
  let (pending, hub) := s.hub.sendEach (textBytes a.settings.shutdownNotice) s.hub.registry.keys
  { s with
    hub
    stops := s.stops ++ [⟨.notifying pending (hub.clock + a.settings.writeTimeout), wasRunning⟩] }

/-- A loop looks at the signal if it has changed since, and ends if it says so. -/
def poll (s : State) (i : Nat) : Option State := do
  let l ← s.loops[i]?
  if l.ended || l.holding.isSome || l.seen = s.signals then none
  return { s with loops := s.loops.set i { l with seen := s.signals, ended := s.shutdown } }

def accept (s : State) (i : Nat) (id : SessionId) (peer : String) : Option State := do
  let l ← s.loops[i]?
  if l.ended || l.holding.isSome then none
  return { s with loops := s.loops.set i { l with holding := some (id, peer) } }

def addSession (a : Application) (s : State) (id : SessionId) (peer : String) : State :=
  let session : Session :=
    { id, address := some peer, lane := { framing := a.framing }, lastActivity := s.hub.clock }
  let k := s.hub.sessions.length
  { s with
    hub := (s.hub.add session { capacity := 0 }).register k
    connections := s.connections ++ [Connection.admitted a.settings] }

/-- Admits the connection that a loop holds, unless the server is stopping or full. -/
def enroll (a : Application) (s : State) (i : Nat) : Option State := do
  if s.lock.isSome then none
  let l ← s.loops[i]?
  let (id, peer) ← l.holding
  let s := { s with loops := s.loops.set i { l with holding := none } }
  if !s.running || s.hub.registry.size ≥ a.settings.maxConnections then return s
  return s.addSession a id peer

def task (a : Application) (s : State) (k : SessionKey) : Option State := do
  let c ← s.connection? k
  let session ← s.hub.session? k
  let (hub, c, records) ← c.step a k session s.hub
  return { s with hub, connections := s.connections.set k c, journal := s.journal ++ records }

def due (h : Hub) (m : Monitor) : Bool :=
  match m.sweep with
  | some w => w.deadline ≤ h.clock || w.pending.any fun (k, t) => (h.result? k t).isSome
  | none => m.due.any (· ≤ h.clock)

def watch (s : State) (i : Nat) : Option State := do
  let m ← s.monitors[i]?
  if !due s.hub m then none
  let (m, hub) := m.act s.hub
  return { s with hub := hub.settleAll, monitors := s.monitors.set i m }

/-- Closes the sessions whose notices are written, refused, or given up. -/
def closeNotified (deadline : Nat) : List (SessionKey × Ticket) → Hub → List (SessionKey × Ticket) × Hub
  | [], h => ([], h)
  | (k, t) :: rest, h =>
    let done := (h.result? k t).isSome
    if done || deadline ≤ h.clock then
      let h := if done then h else (h.abandon k t).settle k
      closeNotified deadline rest (h.move k .close)
    else
      let (kept, h) := closeNotified deadline rest h
      ((k, t) :: kept, h)

def proceed (a : Application) (s : State) (i : Nat) : Option State := do
  let c ← s.stops[i]?
  let put (s : State) (p : Stopping.Phase) : State := { s with stops := s.stops.set i { c with phase := p } }
  match c.phase with
  | .notifying pending deadline =>
    let (left, hub) := closeNotified deadline pending s.hub
    if left.isEmpty then return put { s with hub } .locking
    if left.length = pending.length then none
    return put { s with hub } (.notifying left deadline)
  | .locking =>
    if s.lock.isSome then none
    return put { s with lock := some i } (.draining (s.hub.clock + a.settings.shutdownGrace))
  | .draining deadline =>
    if !s.quiet && s.hub.clock < deadline then none
    let s := { s.abortAll with lock := none }
    return put s (.clearing s.hub.registry.keys none)
  | .clearing left (some (k, t)) =>
    if (s.hub.result? k t).isNone then none
    return put s (.clearing left none)
  | .clearing (k :: left) none =>
    let (t, hub) := s.hub.request k .closeAsync
    return put { s with hub } (.clearing left (some (k, t)))
  | .clearing [] none =>
    let s := put { s with hub := { s.hub with registry := {} }, address := none } .ended
    return if c.wasRunning then s.record [serverEvent .serverStop []] else s
  | .ended => none

end State

/-- One step of a server; `none` if it is not possible now. -/
def step (a : Application) (s : State) : Label → Option State
  | .connect loop id peer => s.accept loop id peer
  | .arrive k bytes => s.onConnection k fun c => some { c with pump := c.pump.arrive bytes }
  | .finish k fin => s.onConnection k fun c => some { c with pump := c.pump.finishStream fin }
  | .widen k n => s.onPipe k fun p => { p with capacity := p.capacity + n }
  | .fail k reason => s.onPipe k (·.broken reason)
  | .pass ms => some { s with hub := { s.hub with clock := s.hub.clock + ms } }
  | .serve address port => s.serve a address port
  | .serveUnnamed => s.serveUnnamed
  | .lose loop reason => s.lose loop reason
  | .stop => some (s.stop a)
  | .act k c => if k < s.connections.length then some { s with hub := (s.hub.call k c).2 } else none
  | .poll loop => s.poll loop
  | .enroll loop => s.enroll a loop
  | .pump k m =>
    let closed := ((s.hub.session? k).map (·.closed)).getD true
    s.onConnection k fun c => c.pumpStep a.framing closed m
  | .task k => s.task a k
  | .watch monitor => s.watch monitor
  | .proceed stop => s.proceed a stop

inductive Steps (a : Application) : State → State → Prop
  | refl (s : State) : Steps a s s
  | tail {s t u : State} (l : Label) : Steps a s t → step a t l = some u → Steps a s u

end FrameServer.Server
