import FrameServer.Command
import FrameServer.Structured

namespace FrameServer.Chat

structure Message where
  kind : String := "message"
  sender : String := ""
  content : String
  deriving DecidableEq, Repr

def shape : Shape := .record "BroadcastMessage"
  [{ name := "type", scalar := .text, default? := some "message" },
   { name := "sender", scalar := .text, default? := some "" },
   { name := "content", scalar := .text }]

def check : Check := Constraint.check shape
  [⟨some "content", Constraint.notBlank, "content must not be blank"⟩,
   ⟨some "sender", Constraint.maxBytes 64, "sender must be at most 64 characters"⟩]

def Message.ofDatum? (d : Datum) : Option Message := do
  return ⟨← d.text? "type", ← d.text? "sender", ← d.text? "content"⟩

end FrameServer.Chat

namespace FrameServer.Builtin

def pong : Bytes := textBytes "PONG"

def keepAlive : Bytes := textBytes "\x7b\"type\":\"keep-alive\"\x7d"

def chatBytes (m : Chat.Message) : Bytes :=
  Utf8.encode (Json.chars (.object
    [("type", .string m.kind), ("sender", .string m.sender), ("content", .string m.content)]))

def sending (m : Bytes) : Script (Outcome Unit) :=
  .act (.send m) fun
    | .ok () => .done (.ok ())
    | .error e => .done (.failed e.failure)

def broadcasting (m : Bytes) : Script (Outcome Unit) := .act (.broadcast m) fun _ => .done (.ok ())

def pingCommand : Command.Procedure := fun _ _ => sending pong

def broadcastCommand : Command.Procedure := fun _ args =>
  match args with
  | [] => .done (.failed ⟨"BROADCAST needs a message", []⟩)
  | _ => broadcasting (textBytes (" ".intercalate args))

def commands : Command.Table Command.Procedure :=
  .ofList [("PING", pingCommand), ("BROADCAST", broadcastCommand)]

def commandDispatcher (chain : Chain) : Command.Dispatcher := ⟨commands, chain⟩

def pingHandler : Structured.Descriptor where
  type := "command"
  command := "PING"
  params := [.session]
  run args :=
    match args.session? 0 with
    | some _ => sending keepAlive
    | none => .done (.failed ⟨"PING needs a session", []⟩)

def broadcastHandler : Structured.Descriptor where
  type := "command"
  command := "BROADCAST"
  params := [((Param.field "message" Chat.shape).needed).checked Chat.check, .session]
  run args :=
    match (args.get? 0 Chat.shape).bind Chat.Message.ofDatum?, args.session? 1 with
    | none, _ => .done (.failed ⟨"BROADCAST needs a message", []⟩)
    | some _, none => .done (.failed ⟨"BROADCAST needs a session", []⟩)
    | some m, some _ => broadcasting (chatBytes m)

def structuredDispatcher (middleware : List Middleware) : Structured.Dispatcher where
  handlers := .ofList [pingHandler, broadcastHandler]
  chain := .ofList middleware

end FrameServer.Builtin
