import FrameServer.Middleware
import FrameServer.Session.Basic

namespace FrameServer

inductive Entry
  | call (c : Middleware.Call)
  | command (name : String) (args : List String)
  | structured (type command : String) (args : List Argument)
  | message (m : Bytes)
  | delivered (n : Nat)
  | closed (first : Bool)
  | closedIdle (first : Bool)
  | closedAsync (first : Bool)
  | counted (n : Nat)
  | failed (f : Failure)
  deriving Repr, BEq

structure Note where
  session : Option SessionId
  entry : Entry
  deriving Repr, BEq

inductive Action
  | send (m : Bytes)
  | broadcast (m : Bytes)
  | close
  | closeIdle
  | closeAsync
  | setAttribute (key : String) (value : Typed)
  | getAttribute (key : String)
  | sleep (ms : Nat)
  | note (n : Note)

abbrev Action.Reply : Action → Type
  | send _ => Except SendError Unit
  | broadcast _ => Nat
  | close => Bool
  | closeIdle => Bool
  | closeAsync => Bool
  | setAttribute _ _ => Unit
  | getAttribute _ => Option Typed
  | sleep _ => Unit
  | note _ => Unit

/-- What a handler does, as a script of actions on the session it was called for. Between two actions other parts of the
server may act. -/
inductive Script (α : Type) : Type
  | done (a : α)
  | act (a : Action) (next : a.Reply → Script α)

namespace Script

variable {α β : Type}

def bind (s : Script α) (f : α → Script β) : Script β :=
  match s with
  | done a => f a
  | act a next => act a fun r => (next r).bind f

instance : Monad Script where
  pure := done
  bind := bind

def perform (a : Action) : Script a.Reply := act a done

def note (session : Option SessionId) (e : Entry) : Script Unit := perform (.note ⟨session, e⟩)

/-- Writes down calls, as far as they are recorded. -/
def noteCalls (session : SessionId) : List Middleware.Call → Script Unit
  | [] => done ()
  | c :: cs =>
    if c.recorded then act (.note ⟨some session, .call c⟩) fun _ => noteCalls session cs
    else noteCalls session cs

end Script

structure Request where
  session : SessionId
  message : Bytes
  /-- The attributes of the session when the message is handled. -/
  attribute? : String → Option Typed := fun _ => none

/-- Turns a request into a script that may end with a response. -/
abbrev Handler := Request → Script (Outcome (Option Bytes))

end FrameServer
