import FrameServer.Handler.Script
import FrameServer.Json.Parser
import FrameServer.Param.Resolver
import FrameServer.Text.Case

namespace FrameServer.Structured

structure Descriptor where
  type : String
  command : String
  params : List Param
  run : Args → Script (Outcome Unit)

abbrev Key := String × String

def key (type command : String) : Key := (lowerText type, lowerText command)

/-- Keys are in lower case and distinct; the order is that of first registration. -/
structure Table where
  entries : List (Key × Descriptor) := []

namespace Table

def register (t : Table) (d : Descriptor) : Table := ⟨place (key d.type d.command) d t.entries⟩

def find? (t : Table) (type command : String) : Option Descriptor := t.entries.lookup (key type command)

def size (t : Table) : Nat := t.entries.length

def ofList (ds : List Descriptor) : Table := ds.foldl register {}

end Table

structure Reply where
  message : String
  errors : List String := []
  deriving DecidableEq, Repr

namespace Reply

def kind : String := "validation_error"

/-- The errors are left out if there are none. -/
def members (r : Reply) : List (String × Json) :=
  [("type", .string kind), ("message", .string r.message)] ++
    if r.errors.isEmpty then [] else [("errors", Json.ofTexts r.errors)]

def render (r : Reply) : Bytes := Utf8.encode (Json.chars (.object r.members))

end Reply

/-- The parameters of a handler are resolved and validated before it is called; whatever fails on the way becomes one
reply. -/
structure Dispatcher where
  handlers : Table
  resolvers : Resolvers := .builtin
  validate : List Param → List Argument → List String := Param.allViolations
  chain : Chain

/-- A text that routes a request. Other values than texts count by their JSON text; `null` counts as missing. -/
def routingKey? (payload : Json) (key : String) : Option String :=
  match payload.get? key with
  | none | some .null => none
  | some (.string s) => some s
  | some v => some v.render

/-- Where a request goes, or the reply to one that goes nowhere. -/
def route (message : Bytes) : Except Reply (Json × String × String) :=
  match Json.parse message with
  | .error e => .error ⟨"Malformed payload: " ++ e.message, []⟩
  | .ok payload =>
    match payload with
    | .object _ =>
      match routingKey? payload "type", routingKey? payload "command" with
      | none, _ => .error ⟨"Missing 'type' field", []⟩
      | some _, none => .error ⟨"Missing 'command' field", []⟩
      | some type, some command => .ok (payload, type, command)
    | _ => .error ⟨"Malformed payload: expected a JSON object", []⟩

namespace Dispatcher

def invocationFailed (d : Dispatcher) (session : SessionId) (payload : Json) (f : Failure) :
    Script (Option Reply) := do
  Script.noteCalls session (d.chain.report f (some payload))
  return some ⟨"Invocation failed: " ++ f.trace, []⟩

/-- Resolves, validates and calls; the reply if the handler was not carried out. -/
def invoke (d : Dispatcher) (session : SessionId) (attribute? : String → Option Typed) (payload : Json)
    (h : Descriptor) : Script (Option Reply) := do
  Script.noteCalls session (d.chain.run (.beforeDispatch payload))
  match (d.resolvers.resolveAll ⟨payload, session, attribute?⟩ h.params).contain "resolver" with
  | .error f => d.invocationFailed session payload f
  | .ok args =>
    match d.validate h.params args with
    | [] =>
      match (← h.run ⟨args⟩).contain "handler" with
      | .ok () =>
        Script.noteCalls session (d.chain.run (.afterDispatch payload))
        return none
      | .error f => d.invocationFailed session payload f
    | violations => return some ⟨"Validation failed", violations⟩

/-- Carries out one message; the reply if it was not carried out. -/
def dispatch (d : Dispatcher) (session : SessionId) (attribute? : String → Option Typed)
    (message : Bytes) : Script (Option Reply) :=
  match route message with
  | .error reply => return some reply
  | .ok (payload, type, command) =>
    match d.handlers.find? type command with
    | some h => d.invoke session attribute? payload h
    | none => do
      let f : Failure := ⟨"No handler found for command: " ++ command, []⟩
      Script.noteCalls session (d.chain.report f (some payload))
      return some ⟨f.message, []⟩

def handler (d : Dispatcher) : Handler := fun r => do
  return .ok ((← d.dispatch r.session r.attribute? r.message).map Reply.render)

end Dispatcher
end FrameServer.Structured
