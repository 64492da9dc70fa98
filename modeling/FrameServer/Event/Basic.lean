import FrameServer.Param.Basic

namespace FrameServer

inductive Event.Kind
  | serverStart | serverStop | serverError
  | sessionOpen | sessionClose | sessionError
  | messageReceived | custom
  deriving DecidableEq, Repr

def Event.Kind.name : Event.Kind → String
  | serverStart => "server_start"
  | serverStop => "server_stop"
  | serverError => "server_error"
  | sessionOpen => "session_open"
  | sessionClose => "session_close"
  | sessionError => "session_error"
  | messageReceived => "message_received"
  | custom => "custom"

def Event.Kind.all : List Event.Kind :=
  [serverStart, serverStop, serverError, sessionOpen, sessionClose, sessionError, messageReceived, custom]

inductive Event.Source
  | server
  | session (id : SessionId)
  | custom (name : String)
  deriving DecidableEq, Repr

structure Event where
  kind : Event.Kind
  source : Event.Source
  /-- In ascending order of the keys, which are distinct. -/
  properties : List (String × Json) := []
  deriving Repr, BEq

namespace Event

/-- An event of the application, named by its source. -/
def ofName (name : String) : Event := ⟨.custom, .custom name, []⟩

def set (e : Event) (key : String) (value : Json) : Event :=
  { e with properties := Json.insert key value e.properties }

def property? (e : Event) (key : String) : Option Json := e.properties.lookup key

def propertyText? (e : Event) (key : String) : Option String := (e.property? key).bind Json.text?

end Event
end FrameServer

namespace FrameServer.Event

def Source.toJson : Source → Json
  | server => .string "server"
  | session id => Json.ofMembers [("session", .string id)]
  | custom name => Json.ofMembers [("custom", .string name)]

def toJson (e : Event) : Json :=
  Json.ofMembers
    [("kind", .string e.kind.name), ("source", e.source.toJson), ("properties", Json.ofMembers e.properties)]

end FrameServer.Event
