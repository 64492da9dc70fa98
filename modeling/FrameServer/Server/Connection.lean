import FrameServer.Application
import FrameServer.Event.Basic
import FrameServer.Event.Bus
import FrameServer.Server.Pump
import FrameServer.Server.Work

namespace FrameServer.Server

inductive CloseReason
  /-- The peer ended its side. -/
  | complete
  | timeout
  | error
  /-- The session was closed on this side. -/
  | cancel
  deriving DecidableEq, Repr

def CloseReason.name : CloseReason → String
  | complete => "complete"
  | timeout => "timeout"
  | error => "error"
  | cancel => "cancel"

inductive Record
  | hook (session : SessionId) (c : Middleware.Call)
  | event (e : Event)
  | note (n : Note)
  deriving Repr, BEq

inductive Phase
  /-- Admitted, and to be announced to the middleware. -/
  | opening
  | greeting
  | waiting
  | handling (w : Work)
  | responding (t : Ticket) (deadline : Nat)
  | pausing (time : Nat)
  /-- All messages are handled and the stream has ended. -/
  | joining
  | timingOut
  | failing (e : FrameError)
  /-- Ended, and to leave the registry. -/
  | leaving (reason : CloseReason)
  | parting (reason : CloseReason)
  | closing (reason : CloseReason)
  | shuttingDown (t : Ticket)
  | ended
  /-- Ended from outside, wherever it was. -/
  | aborted

namespace Phase

def isOver : Phase → Bool
  | ended | aborted => true
  | _ => false

end Phase

/-- A connection is greeted, served one message after the other, and taken leave of in a fixed order. Between two of
these steps everything else in the server may act. -/
structure Connection where
  phase : Phase := .opening
  pump : Pump := {}
  /-- Frames that are not handled yet. -/
  waiting : Ring Bytes

namespace Connection

def admitted (s : Settings) : Connection := { waiting := .ofCapacity (max s.backpressureCapacity 1) }

def eventOf (kind : Event.Kind) (id : SessionId) (properties : List (String × Json)) : Record :=
  let e : Event := ⟨kind, .session id, []⟩
  .event ((("session_id", Json.string id) :: properties).foldl (fun e (k, v) => e.set k v) e)

def errorEvent (id : SessionId) (reason : String) : Record :=
  eventOf .sessionError id [("error", .string reason)]

def messageEvent (id : SessionId) (m : Bytes) : Record :=
  eventOf .messageReceived id [("message", .string (lossyText m)), ("length", .int m.length)]

def hooks (a : Application) (id : SessionId) (h : Hook) : List Record := (a.chain.run h).map (.hook id)

/-- A step's outcome: the shared state, the connection, and what is seen of it. -/
abbrev Stepped := Option (Hub × Connection × List Record)

def enter (h : Hub) (c : Connection) (p : Phase) (records : List Record := []) : Stepped :=
  some (h, { c with phase := p }, records)

/-- Stops reading, as no more messages will be handled. -/
def conclude (h : Hub) (c : Connection) (reason : CloseReason) (records : List Record := []) : Stepped :=
  some (h, { c with phase := .leaving reason, pump := c.pump.abort }, records)

def cancelled (h : Hub) (s : Session) (c : Connection) : Stepped :=
  some (h, { c with phase := if s.closedIdle then .timingOut else .leaving .cancel, pump := c.pump.abort }, [])

def receive (a : Application) (k : SessionKey) (s : Session) (h : Hub) (c : Connection) (m : Bytes)
    (rest : Ring Bytes) : Stepped :=
  let request : Request := { session := s.id, message := m, attribute? := s.attribute? }
  some (h.move k (.touch h.clock),
    { c with phase := .handling ⟨a.handler request, none⟩, waiting := rest }, [messageEvent s.id m])

def pause (a : Application) (h : Hub) : Phase :=
  if a.settings.dispatchDelay = 0 then .waiting else .pausing (h.clock + a.settings.dispatchDelay)

/-- Goes on after the handler: a response is sent, anything else is left at that. -/
def respond (a : Application) (k : SessionKey) (h : Hub) (c : Connection) (o : Outcome (Option Bytes)) : Stepped :=
  match o with
  | .ok (some r) =>
    let (t, h) := h.send k r
    enter h c (.responding t (h.clock + a.settings.writeTimeout))
  | _ => enter h c (pause a h)

def responded (a : Application) (k : SessionKey) (s : Session) (h : Hub) (c : Connection) (t : Ticket)
    (deadline : Nat) : Stepped :=
  match h.result? k t with
  | some (.ok ()) => enter h c (pause a h)
  | some (.error .closed) => conclude h c .cancel
  | some (.error (.frame (.io reason))) => conclude h c .error [errorEvent s.id reason]
  | some (.error (.frame _)) => enter h c (pause a h)
  | none =>
    if deadline ≤ h.clock then
      conclude ((h.move k (.lane (.abandon t))).settle k) c .error [errorEvent s.id "write timed out"]
    else none

/-- The next step of the connection of session `k`; `none` if it has to wait. -/
def step (a : Application) (k : SessionKey) (s : Session) (h : Hub) (c : Connection) : Stepped :=
  match c.phase with
  | .opening => enter h c .greeting (hooks a s.id .connect)
  | .greeting =>
    enter h c .waiting [eventOf .sessionOpen s.id [("remote_address", .string (s.address.getD ""))]]
  | .waiting =>
    if s.closed then cancelled h s c
    else match c.waiting.pop? with
      | (some m, rest) => receive a k s h c m rest
      | (none, _) => if c.pump.isLive then none else enter h c .joining
  | .handling w =>
    match w.step h k with
    | .finished o => respond a k h c o
    | .goesOn h w notes => enter h c (.handling w) (notes.map .note)
    | .blocked => none
  | .responding t deadline => responded a k s h c t deadline
  | .pausing time => if time ≤ h.clock then enter h c .waiting else none
  | .joining =>
    match c.pump.status with
    | .ended (.ok ()) => if s.closed then cancelled h s c else conclude h c .complete
    | .ended (.error e) => enter h c (.failing e) (hooks a s.id (.protocolError e))
    | _ => none
  | .timingOut => conclude h c .timeout (hooks a s.id .timeout)
  | .failing e => conclude h c .error [errorEvent s.id e.message]
  | .leaving reason => enter { h with registry := h.registry.remove s.id } c (.parting reason)
  | .parting reason => enter h c (.closing reason) (hooks a s.id .disconnect)
  | .closing reason =>
    let (t, h) := h.request k .closeAsync
    enter h c (.shuttingDown t) [eventOf .sessionClose s.id [("reason", .string reason.name)]]
  | .shuttingDown t => if (h.result? k t).isSome then enter h c .ended else none
  | .ended | .aborted => none

/-- Ends a connection where it is, and gives up what it was waiting for. -/
def abort (k : SessionKey) (h : Hub) (c : Connection) : Hub × Connection :=
  if c.phase.isOver then (h, c)
  else
    let h := match c.phase with
      | .handling w => w.abandon h k
      | .responding t _ | .shuttingDown t => (h.move k (.lane (.abandon t))).settle k
      | _ => h
    (h, { c with phase := .aborted, pump := c.pump.abort })

/-- One move of the pump; a frame that it finds waits to be handled. The pump works from the greeting on,
and ends when the session is closed. -/
def pumpStep (f : Framing) (closed : Bool) (c : Connection) (m : Pump.Move) : Option Connection :=
  match c.phase with
  | .opening | .greeting => none
  | _ =>
    if closed then none
    else (c.pump.step f m).map fun (frame?, pump) =>
      { c with pump, waiting := frame?.elim c.waiting c.waiting.push }

end Connection
end FrameServer.Server
