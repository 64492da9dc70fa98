import FrameServer.Failure
import FrameServer.Framing.Basic

namespace FrameServer

inductive SendError
  | closed
  | frame (e : FrameError)
  deriving DecidableEq, Repr

def SendError.message : SendError → String
  | .closed => "session is closed"
  | .frame e => e.message

/-- A failed send as a failure; behind an error of the connection stands its reason. -/
def SendError.failure : SendError → Failure
  | .frame (.io reason) => ⟨(FrameError.io reason).message, [reason]⟩
  | e => ⟨e.message, []⟩

/-- Names one send or one shutdown on its lane. -/
abbrev Ticket := Nat

inductive Lane.Job
  | message (m : Bytes)
  | shutdown
  deriving DecidableEq, Repr

/-- The outbound half of a connection. Sends wait for their turn in the order in which they asked for it; the one whose
turn it is writes its frame in as many parts as the connection takes. -/
structure Lane where
  framing : Framing
  /-- Whether the outbound half was taken for shutdown. -/
  released : Bool := false
  /-- The send whose turn it is, and what it still has to write. -/
  turn : Option (Ticket × Bytes) := none
  queue : List (Ticket × Lane.Job) := []
  /-- All bytes that the connection took. -/
  wire : Bytes := []
  /-- What became of the tickets that are done, the last one first. -/
  results : List (Ticket × Except SendError Unit) := []

namespace Lane

inductive Move
  | request (t : Ticket) (job : Job)
  | grant
  | accept (n : Nat)
  | finish
  | fail (reason : String)
  | abandon (t : Ticket)
  deriving DecidableEq, Repr

def settleTicket (l : Lane) (t : Ticket) (r : Except SendError Unit) : Lane :=
  { l with results := (t, r) :: l.results }

def start (l : Lane) (t : Ticket) : Job → Lane
  | .shutdown => { l with released := true }.settleTicket t (.ok ())
  | .message m =>
    if l.released then l.settleTicket t (.error .closed)
    else match l.framing.encode m with
      | .error e => l.settleTicket t (.error (.frame e))
      | .ok bytes => { l with turn := some (t, bytes) }

/-- One move of the lane; `none` if it cannot be made now. -/
def step (l : Lane) : Move → Option Lane
  | .request t job => some { l with queue := l.queue ++ [(t, job)] }
  | .grant =>
    match l.turn, l.queue with
    | none, (t, job) :: rest => some ({ l with queue := rest }.start t job)
    | _, _ => none
  | .accept n =>
    match l.turn with
    | some (t, rest) =>
      if 0 < n ∧ n ≤ rest.length then
        some { l with wire := l.wire ++ rest.take n, turn := some (t, rest.drop n) }
      else none
    | none => none
  | .finish =>
    match l.turn with
    | some (t, []) => some ({ l with turn := none }.settleTicket t (.ok ()))
    | _ => none
  | .fail reason =>
    match l.turn with
    | some (t, _ :: _) => some ({ l with turn := none }.settleTicket t (.error (.frame (.io reason))))
    | _ => none
  | .abandon t =>
    match l.turn with
    | some (u, _) =>
      if u = t then some { l with turn := none }
      else some { l with queue := l.queue.filter (·.1 ≠ t) }
    | none => some { l with queue := l.queue.filter (·.1 ≠ t) }

def result? (l : Lane) (t : Ticket) : Option (Except SendError Unit) := l.results.lookup t

end Lane
end FrameServer
