import FrameServer.Failure
import FrameServer.Framing.Basic
import FrameServer.Json.Basic

namespace FrameServer

inductive Hook
  | beforeDispatch (payload : Json)
  | afterDispatch (payload : Json)
  | connect
  | disconnect
  | timeout
  | protocolError (error : FrameError)
  deriving Repr, BEq

namespace Hook

def name : Hook → String
  | beforeDispatch _ => "before_dispatch"
  | afterDispatch _ => "after_dispatch"
  | connect => "on_connect"
  | disconnect => "on_disconnect"
  | timeout => "on_timeout"
  | protocolError _ => "on_protocol_error"

def payload? : Hook → Option Json
  | beforeDispatch p | afterDispatch p => some p
  | _ => none

end Hook

structure Middleware where
  name : String
  /-- Whether calls are kept in the journal. -/
  recorded : Bool := true
  react : Hook → Outcome Unit := fun _ => .ok ()
  observe : Failure → Option Json → Outcome Unit := fun _ _ => .ok ()

namespace Middleware

def noop : Middleware := { name := "noop", recorded := false }
def logging : Middleware := { name := "logging", recorded := false }

inductive Occasion
  | hook (h : Hook)
  | failure (f : Failure) (payload : Option Json)
  deriving Repr, BEq

structure Call where
  name : String
  recorded : Bool
  occasion : Occasion
  deriving Repr, BEq

def told (m : Middleware) (f : Failure) (payload : Option Json) : Call :=
  ⟨m.name, m.recorded, .failure f payload⟩

/-- The calls of one hook on one member. What fails in being told of a failure is dropped. -/
def calls (m : Middleware) (h : Hook) : List Call :=
  let call : Call := ⟨m.name, m.recorded, .hook h⟩
  match (m.react h).contain h.name with
  | .ok () => [call]
  | .error f => [call, m.told f h.payload?]

end Middleware

/-- A chain calls a hook on all its members in order; a member whose hook fails is told of the failure at once, and the
others go on. -/
structure Chain where
  members : List Middleware
  nonempty : members ≠ [] := by simp

namespace Chain

/-- An empty list becomes a chain of one member that does nothing. -/
def ofList : List Middleware → Chain
  | [] => ⟨[.noop], by simp⟩
  | m :: ms => ⟨m :: ms, by simp⟩

def names (c : Chain) : List String := c.members.map (·.name)

def size (c : Chain) : Nat := c.members.length

def run (c : Chain) (h : Hook) : List Middleware.Call := c.members.flatMap (·.calls h)

def report (c : Chain) (f : Failure) (payload : Option Json) : List Middleware.Call :=
  c.members.map (·.told f payload)

end Chain
end FrameServer
