import FrameServer.Session.Sweep

namespace FrameServer

structure Exchange where
  notes : List Note
  ending : Hub.Ending (Outcome (Option Bytes))
  /-- How long it took, in milliseconds. -/
  elapsed : Nat
  /-- What came to the peers, by the ids of their sessions. -/
  received : List (SessionId × Bytes)
  ended : Bool
  closed : List SessionId

namespace Hub

/-- What the peer of session `k` has not read yet; then it has. -/
def collect (h : Hub) (k : SessionKey) : Bytes × Hub :=
  match h.session? k with
  | none => ([], h)
  | some s => (s.lane.wire.drop (h.pipe k).read, h.setPipe k { h.pipe k with read := s.lane.wire.length })

/-- What each of the peers has not read yet, as far as there is anything. -/
def collectAll (h : Hub) : List SessionKey → List (SessionId × Bytes) × Hub
  | [] => ([], h)
  | k :: ks =>
    let (bytes, h) := h.collect k
    let (rest, h) := h.collectAll ks
    match h.session? k with
    | some s => (if bytes.isEmpty then rest else (s.id, bytes) :: rest, h)
    | none => (rest, h)

/-- Hands a message of session `k` to a handler. -/
def exchange (h : Hub) (handler : Handler) (k : SessionKey) (m : Bytes) : Exchange × Hub :=
  let session := h.session? k
  let request : Request :=
    { session := (session.map (·.id)).getD "", message := m, attribute? := fun key => session.bind (·.attribute? key) }
  let start := h.clock
  let (ending, h, notes) := h.run k (handler request)
  let elapsed := h.clock - start
  let (received, h) := h.collectAll (List.range h.sessions.length)
  ({ notes, ending, elapsed, received
     ended := h.sessions.any (·.lane.released), closed := (h.sessions.filter (·.closed)).map (·.id) }, h)

end Hub

structure Watch where
  hub : Hub := {}
  /-- The monitors that may still sweep; the last one is the present one. -/
  monitors : List Monitor := []

namespace Watch

def withHub (w : Watch) (hub : Hub) : Watch := { w with hub }

/-- Lets every monitor act at the present time, each of them after the lanes have settled. -/
def actAll : List Monitor → Hub → List Monitor × Hub
  | [], h => ([], h)
  | m :: ms, h =>
    let (m, h) := m.act h.settleAll
    let (ms, h) := actAll ms h
    (m :: ms, h)

/-- Goes round the monitors, up to `fuel` times, until none of them has anything to do. -/
def settleWith : (fuel : Nat) → Watch → Watch
  | 0, w => w
  | fuel + 1, w =>
    let (monitors, hub) := actAll w.monitors w.hub.settleAll
    if monitors = w.monitors then { hub, monitors } else settleWith fuel { hub, monitors }

/-- Everything happens that can happen without time passing: a monitor begins a few sweeps at most, and
each of them comes to the end of its notices. -/
def settle (w : Watch) : Watch := w.settleWith (8 * (w.monitors.length + 1) * (w.hub.sessions.length + 1))

def nextTime? (w : Watch) : Option Nat :=
  w.monitors.foldl (fun acc m =>
    match acc, m.nextTime? with
    | none, t => t
    | some a, some t => some (min a t)
    | some a, none => some a) none

/-- Goes from one time at which a monitor acts to the next, up to `limit` or until `done` holds. Whoever
waits, in the state `s`, looks at what has happened when nothing more can happen at a time; but at the
limit it is the first to look. -/
def waitWith {σ : Type} (look : σ → Hub → σ × Hub) (done : σ → Hub → Bool) (limit : Nat) :
    (fuel : Nat) → σ → Watch → σ × Watch
  | 0, s, w => (s, w)
  | fuel + 1, s, w =>
    let w := w.settle
    let (s, hub) := look s w.hub
    if done s hub then (s, w.withHub hub)
    else
      let time := max hub.clock (min limit (w.nextTime?.getD limit))
      if time < limit then waitWith look done limit fuel s (w.withHub { hub with clock := time })
      else
        let (s, hub) := look s { hub with clock := time }
        (s, w.withHub hub)

/-- Every time at which a monitor acts is later than the one before. -/
def wait {σ : Type} (look : σ → Hub → σ × Hub) (done : σ → Hub → Bool) (limit : Nat) (s : σ) (w : Watch) :
    σ × Watch :=
  if done s w.hub then (s, w) else waitWith look done limit (limit - w.hub.clock + 1) s w

def waitUntil (w : Watch) (done : Hub → Bool) (limit : Nat) : Watch :=
  (wait (fun _ h => ((), h)) (fun _ => done) limit () w).2

/-- Time passes, and at the end of it also happens what is due then. -/
def pass (w : Watch) (ms : Nat) : Watch := (w.waitUntil (fun _ => false) (w.hub.clock + ms)).settle

/-- How long a send waits for a connection that takes nothing, in milliseconds. -/
def patience : Nat := 100000

def finished (ts : List (SessionKey × Ticket)) (h : Hub) : Bool := ts.all fun (k, t) => (h.result? k t).isSome

/-- Waits until the tickets are done, and gives up those that are not in the end. -/
def await (w : Watch) (ts : List (SessionKey × Ticket)) : Watch :=
  let w := w.waitUntil (finished ts) (w.hub.clock + patience)
  w.withHub (w.hub.abandonAll (ts.filter fun (k, t) => (w.hub.result? k t).isNone))

/-- A time at which all notices that are now being sent have been given up. -/
def horizon (w : Watch) : Nat :=
  w.monitors.foldl (fun t m => max t ((m.sweep.map (·.deadline)).getD 0 + 1)) w.hub.clock

def withRegistry (w : Watch) (registry : Registry) : Watch := w.withHub { w.hub with registry }

def move (w : Watch) (k : SessionKey) (m : Session.Move) : Watch := w.withHub (w.hub.move k m)

def monitor (w : Watch) : Monitor := w.monitors.getLast?.getD {}

def withMonitor (w : Watch) (m : Monitor) : Watch := { w with monitors := w.monitors.dropLast ++ [m] }

/-- Adds a monitor; of the others those stay that are running. -/
def addMonitor (w : Watch) (m : Monitor) : Watch := { w with monitors := w.monitors.filter (·.running) ++ [m] }

def startMonitor (w : Watch) : Watch := (w.withMonitor (w.monitor.start w.hub.clock)).settle

def stopMonitor (w : Watch) : Watch :=
  let (m, hub) := w.monitor.stop w.hub
  ((w.withHub hub).withMonitor m).settle

/-- The registry goes, and the monitors with it. -/
def dropRegistry (w : Watch) : Watch :=
  { hub := { w.monitors.foldl (fun h m => (m.stop h).2) w.hub with registry := {} } }

/-- Sends and waits; `none` if the connection did not take the frame in time. -/
def send (w : Watch) (k : SessionKey) (m : Bytes) : Option (Except SendError Unit) × Watch :=
  let (t, h) := w.hub.send k m
  let w := (w.withHub h).await [(k, t)]
  (w.hub.result? k t, w)

/-- Sends to every registered session and waits; how many got it, `none` if some did not in time. -/
def broadcast (w : Watch) (m : Bytes) : Option Nat × Watch :=
  let (ts, h) := w.hub.broadcast m
  let w := (w.withHub h).await ts
  let (n, delivered) := w.hub.tally ts
  (if n = ts.length then some delivered else none, w)

/-- Asks `n` times for a session to be closed and shut down; whether each of them closes it. -/
def requestClose (h : Hub) (k : SessionKey) : Nat → List Bool × List (SessionKey × Ticket) × Hub
  | 0 => ([], [], h)
  | n + 1 =>
    let first := ((h.session? k).map (·.alive)).getD false
    let (t, h) := h.request k .closeAsync
    let (more, ts, h) := requestClose h k n
    (first :: more, (k, t) :: ts, h)

/-- Closes a session and shuts its connection down, `n` times, and waits for as long as it takes. -/
def closeAsync (w : Watch) (k : SessionKey) (n : Nat) : List Bool × Watch :=
  let (firsts, ts, h) := requestClose w.hub k n
  let w := w.withHub h
  (firsts, w.waitUntil (finished ts) w.horizon)

/-- Sweeps once as the present monitor would; how many sessions were closed and how long it took. -/
def sweep (w : Watch) : Nat × Nat × Watch :=
  let start := w.hub.clock
  let (s, h) := Sweep.start w.hub w.monitor.idleLimit w.monitor.patience
  let (s, w) := wait Sweep.progress (fun s _ => s.isOver) s.deadline s (w.withHub h)
  (s.closed, w.hub.clock - start, w)

def dropPeer (w : Watch) (k : SessionKey) : Watch :=
  w.withHub (w.hub.setPipe k ((w.hub.pipe k).broken "broken pipe"))

/-- The peer reads, as long as there is anything, until the tickets are done. -/
def readUntil (ts : List (SessionKey × Ticket)) (k : SessionKey) : (fuel : Nat) → Watch → Watch
  | 0, w => w
  | fuel + 1, w =>
    if finished ts w.hub then w else readUntil ts k fuel (w.withHub (w.hub.collect k).2).settle

/-- Sends the messages at the same time while the peer reads; what came to it before or meanwhile. -/
def sendAll (w : Watch) (k : SessionKey) (ms : List Bytes) :
    List (Option (Except SendError Unit)) × Bytes × Watch :=
  let read := (w.hub.pipe k).read
  let size := idleNotice.length + ms.flatten.length + 4 * (ms.length + 2)
  let (ts, h) := ms.foldl (fun (ts, h) m => let (t, h) := h.send k m; (ts ++ [(k, t)], h)) ([], w.hub)
  let w := (readUntil ts k (size * (w.monitors.length + 1)) (w.withHub h)).await ts
  let (_, h) := w.hub.collect k
  let wire := ((h.session? k).map (·.lane.wire)).getD []
  (ts.map fun (_, t) => h.result? k t, if (h.pipe k).gone then [] else wire.drop read, w.withHub h)

end Watch
end FrameServer
