import FrameServer.Keyed
import FrameServer.Param.Basic
import FrameServer.Session.Lane

namespace FrameServer

/-- What the server keeps of one connection. It is closed once, and keeps whether that was for being idle. -/
structure Session where
  id : SessionId
  address : Option String := none
  lane : Lane
  closed : Bool := false
  closedIdle : Bool := false
  /-- When the last message came in, in milliseconds. -/
  lastActivity : Nat := 0
  attributes : List (String × Typed) := []

namespace Session

inductive Move
  /-- A send asks for its turn, or fails at once if the session is closed. -/
  | send (t : Ticket) (m : Bytes)
  | close
  | closeIdle
  /-- Closes the session and asks for the turn to shut the connection down. -/
  | closeAsync (t : Ticket)
  | lane (m : Lane.Move)
  | touch (now : Nat)
  | setAttribute (key : String) (value : Typed)
  | removeAttribute (key : String)

inductive Call
  | send (m : Bytes)
  | close
  | closeIdle
  | closeAsync
  | setAttribute (key : String) (value : Typed)
  | removeAttribute (key : String)

/-- The move that a call makes; one that has to wait does so under a ticket. -/
def Call.move : Call → Ticket → Move
  | send m, t => .send t m
  | close, _ => .close
  | closeIdle, _ => .closeIdle
  | closeAsync, t => .closeAsync t
  | setAttribute key value, _ => .setAttribute key value
  | removeAttribute key, _ => .removeAttribute key

def alive (s : Session) : Bool := !s.closed

/-- Closing counts for the call that does it. -/
def close (s : Session) : Bool × Session := (s.alive, { s with closed := true })

def closeIdle (s : Session) : Bool × Session :=
  if s.closed then (false, s) else { s with closedIdle := true }.close

def attribute? (s : Session) (key : String) : Option Typed := s.attributes.lookup key

def attributeAs? (s : Session) (key : String) (shape : Shape) : Option Datum :=
  match s.attribute? key with
  | some v => if v.shape = shape then some v.datum else none
  | none => none

def hasAttribute (s : Session) (key : String) : Bool := (s.attribute? key).isSome

def idleFor (s : Session) (now : Nat) : Nat := now - s.lastActivity

def step (s : Session) : Move → Option Session
  | .send t m =>
    if s.closed then some { s with lane := s.lane.settleTicket t (.error .closed) }
    else (s.lane.step (.request t (.message m))).map ({ s with lane := · })
  | .close => some s.close.2
  | .closeIdle => some s.closeIdle.2
  | .closeAsync t => (s.lane.step (.request t .shutdown)).map ({ s.close.2 with lane := · })
  | .lane m => (s.lane.step m).map ({ s with lane := · })
  | .touch now => some { s with lastActivity := now }
  | .setAttribute key value => some { s with attributes := place key value s.attributes }
  | .removeAttribute key => some { s with attributes := s.attributes.filter (·.1 ≠ key) }

end Session

/-- Names one session among all that ever were. -/
abbrev SessionKey := Nat

/-- The registered sessions by id. An id names at most one of them. -/
structure Registry where
  entries : List (SessionId × SessionKey) := []
  deriving DecidableEq, Repr

namespace Registry

/-- Registers a session in place of any other of the same id. -/
def insert (r : Registry) (id : SessionId) (key : SessionKey) : Registry := ⟨place id key r.entries⟩

def remove (r : Registry) (id : SessionId) : Registry := ⟨r.entries.filter (·.1 ≠ id)⟩

def get? (r : Registry) (id : SessionId) : Option SessionKey := r.entries.lookup id

def contains (r : Registry) (id : SessionId) : Bool := (r.get? id).isSome

def size (r : Registry) : Nat := r.entries.length

def isEmpty (r : Registry) : Bool := r.entries.isEmpty

def keys (r : Registry) : List SessionKey := r.entries.map Prod.snd

def ids (r : Registry) : List SessionId := r.entries.map Prod.fst

end Registry
end FrameServer
