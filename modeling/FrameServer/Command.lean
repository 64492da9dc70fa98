import FrameServer.Handler.Script
import FrameServer.Text.Case

namespace FrameServer.Command

structure Line where
  name : String
  args : List String
  deriving DecidableEq, Repr

/-- Reads a line; `none` if it is blank. -/
def Line.parse? (text : String) : Option Line :=
  match Text.words text.toList with
  | [] => none
  | name :: args => some ⟨String.ofList name, args.map String.ofList⟩

/-- Keys are in upper case and distinct; the order is that of first registration. -/
structure Table (α : Type) where
  entries : List (String × α) := []
  deriving Repr

namespace Table

variable {α : Type}

def register (t : Table α) (name : String) (value : α) : Table α :=
  ⟨place (upperText name) value t.entries⟩

def find? (t : Table α) (name : String) : Option α := t.entries.lookup (upperText name)

def size (t : Table α) : Nat := t.entries.length

def isEmpty (t : Table α) : Bool := t.entries.isEmpty

def names (t : Table α) : List String := (t.entries.map Prod.fst).mergeSort (· ≤ ·)

def ofList (entries : List (String × α)) : Table α :=
  entries.foldl (fun t (name, value) => t.register name value) {}

end Table

abbrev Procedure := SessionId → List String → Script (Outcome Unit)

structure Dispatcher where
  commands : Table Procedure
  chain : Chain

def Line.payload (l : Line) : Json :=
  Json.ofMembers [("command", .string l.name), ("args", Json.ofTexts l.args)]

namespace Dispatcher

/-- Runs one line. Blank lines and unknown names do nothing. -/
def dispatch (d : Dispatcher) (session : SessionId) (text : String) : Script Unit :=
  match Line.parse? text with
  | none => return ()
  | some line =>
    match d.commands.find? line.name with
    | none => return ()
    | some procedure => do
      Script.noteCalls session (d.chain.run (.beforeDispatch line.payload))
      match (← procedure session line.args).contain "handler" with
      | .ok () => Script.noteCalls session (d.chain.run (.afterDispatch line.payload))
      | .error f => Script.noteCalls session (d.chain.report f (some line.payload))

/-- Commands answer through the session, never with a response. -/
def handler (d : Dispatcher) : Handler := fun r => do
  d.dispatch r.session (lossyText r.message)
  return .ok none

end Dispatcher
end FrameServer.Command
