import FrameServer.Session.Hub

namespace FrameServer

namespace Hub

def abandon (h : Hub) (k : SessionKey) (t : Ticket) : Hub := h.move k (.lane (.abandon t))

def abandonAll (h : Hub) (ts : List (SessionKey × Ticket)) : Hub := ts.foldl (fun h (k, t) => h.abandon k t) h

/-- The registered sessions that are open and idle for more than `limit`. -/
def idleKeys (h : Hub) (limit : Nat) : List SessionKey :=
  h.registry.keys.filter fun k =>
    match h.session? k with
    | some s => s.alive && s.idleFor h.clock > limit
    | none => false

/-- Closes a session for being idle; whether this did it. -/
def closeIdle (h : Hub) (k : SessionKey) : Bool × Hub :=
  match h.session? k with
  | some s => (s.alive, h.move k .closeIdle)
  | none => (false, h)

end Hub

def idleNotice : Bytes := textBytes "KEEPALIVE_TIMEOUT"

/-- A sweep sends a notice to every session that was idle for longer than allowed and closes each of them as soon as its
notice is written, refused, or has taken too long. -/
structure Sweep where
  /-- When the notices that are not written by then are given up. -/
  deadline : Nat
  pending : List (SessionKey × Ticket)
  closed : Nat := 0
  deriving DecidableEq, Repr

namespace Sweep

/-- Closes the sessions whose notices are done or given up, and keeps the others. -/
def visit (deadline : Nat) : List (SessionKey × Ticket) → Hub → List (SessionKey × Ticket) × Nat × Hub
  | [], h => ([], 0, h)
  | (k, t) :: rest, h =>
    if (h.result? k t).isSome || h.clock ≥ deadline then
      let h := if (h.result? k t).isSome then h else h.abandon k t
      let (first, h) := h.closeIdle k
      let (kept, n, h) := visit deadline rest h
      (kept, n + first.toNat, h)
    else
      let (kept, n, h) := visit deadline rest h
      ((k, t) :: kept, n, h)

def progress (w : Sweep) (h : Hub) : Sweep × Hub :=
  let (pending, n, h) := visit w.deadline w.pending h
  ({ w with pending, closed := w.closed + n }, h)

/-- Begins a sweep: the notices go out at once, each with `patience` to be written. -/
def start (h : Hub) (limit patience : Nat) : Sweep × Hub :=
  let (tickets, h) := h.sendEach idleNotice (h.idleKeys limit)
  progress { deadline := h.clock + patience, pending := tickets } h

def isOver (w : Sweep) : Bool := w.pending.isEmpty

end Sweep

structure Monitor where
  idleLimit : Nat := 30000
  interval : Nat := 10000
  patience : Nat := 5000
  /-- Whether it was told to stop; then it never sweeps again. -/
  stopped : Bool := false
  /-- Whether it was started and not stopped since. -/
  started : Bool := false
  /-- When the next sweep is due, while it is running. -/
  due : Option Nat := none
  sweep : Option Sweep := none
  deriving DecidableEq, Repr

namespace Monitor

def running (m : Monitor) : Bool := m.due.isSome

/-- Starts the periodic sweep unless it was started before. Without an interval it dies at once. -/
def start (m : Monitor) (now : Nat) : Monitor :=
  if m.started then m
  else { m with started := true, due := if m.stopped || m.interval = 0 then none else some (now + m.interval) }

/-- Stops the periodic sweep and gives up the notices of a sweep in progress. -/
def stop (m : Monitor) (h : Hub) : Monitor × Hub :=
  let pending := (m.sweep.map (·.pending)).getD []
  ({ m with stopped := true, started := false, due := none, sweep := none }, h.abandonAll pending)

/-- A sweep that starts more than five milliseconds late moves the ones after it. -/
def dueAfter (interval due now : Nat) : Nat := if now > due + 5 then now + interval else due + interval

def nextTime? (m : Monitor) : Option Nat :=
  match m.sweep with
  | some w => some w.deadline
  | none => m.due

/-- What the monitor does at the present time: go on with its sweep, or begin one that is due. -/
def act (m : Monitor) (h : Hub) : Monitor × Hub :=
  let (m, h) := match m.sweep with
    | some w =>
      let (w, h) := w.progress h
      ({ m with sweep := if w.isOver then none else some w }, h)
    | none => (m, h)
  match m.sweep, m.due with
  | none, some due =>
    if due ≤ h.clock then
      let (w, h) := Sweep.start h m.idleLimit m.patience
      ({ m with due := some (dueAfter m.interval due h.clock), sweep := if w.isOver then none else some w }, h)
    else (m, h)
  | _, _ => (m, h)

end Monitor
end FrameServer
