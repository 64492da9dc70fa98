import FrameServer.Shape.Decode
import FrameServer.Text.Character
import FrameServer.Text.Utf8

namespace FrameServer

abbrev SessionId := String

inductive Param.Kind
  | session
  | sessionId
  | field (key : String)
  | body
  | custom (tag : String)
  deriving DecidableEq, Repr

/-- A condition on a value of one shape; each violation is a text. -/
structure Check where
  shape : Shape
  violations : Datum → List String

structure Param where
  name : String
  kind : Param.Kind
  /-- The shape of the value; without one it stays plain JSON. -/
  shape? : Option Shape := none
  check? : Option Check := none
  required : Bool := false

inductive Argument
  | session (id : SessionId)
  | sessionId (id : SessionId)
  | value (typed : Typed)
  | absent
  deriving Repr, BEq

namespace Param

def session : Param := ⟨"session", .session, none, none, false⟩
def sessionId : Param := ⟨"session_id", .sessionId, none, none, false⟩
def field (name : String) (shape : Shape) : Param := ⟨name, .field name, some shape, none, false⟩
def body (shape : Shape) : Param := ⟨"body", .body, some shape, none, false⟩
def custom (tag : String) : Param := ⟨tag, .custom tag, none, none, false⟩

def needed (p : Param) : Param := { p with required := true }
def checked (p : Param) (check : Check) : Param := { p with check? := some check }

def convert (p : Param) (j : Json) : Except Mismatch Typed :=
  match p.shape? with
  | some shape => shape.decode j
  | none => .ok (.ofJson j)

def check (p : Param) (v : Typed) : List String :=
  match p.check? with
  | none => []
  | some c => if c.shape = v.shape then c.violations v.datum else ["has an unexpected type"]

def violations (p : Param) (a : Option Argument) : List String :=
  match a with
  | none | some .absent => if p.required then [p.name ++ ": must not be null"] else []
  | some (.value v) => (p.check v).map fun m => p.name ++ ": " ++ m
  | some (.session _) | some (.sessionId _) => []

/-- What is wrong with the arguments of a parameter list, in its order. -/
def allViolations : List Param → List Argument → List String
  | [], _ => []
  | p :: ps, args => p.violations args.head? ++ allViolations ps args.tail

end Param

/-- One condition on a text: the datum itself or a part of a record. -/
structure Constraint where
  part : Option String := none
  holds : String → Bool
  message : String

namespace Constraint

def notBlank (s : String) : Bool := !(Text.trim s.toList).isEmpty
def notEmpty (s : String) : Bool := !s.isEmpty
def maxBytes (n : Nat) (s : String) : Bool := s.utf8ByteSize ≤ n
def excludes (c : Char) (s : String) : Bool := !s.toList.contains c

def violation? (c : Constraint) (d : Datum) : Option String :=
  match d.text? c.part with
  | some s => if c.holds s then none else some c.message
  | none => none

def check (shape : Shape) (cs : List Constraint) : Check :=
  ⟨shape, fun d => cs.filterMap (·.violation? d)⟩

end Constraint

namespace Argument

def isAbsent : Argument → Bool
  | absent => true
  | _ => false

end Argument

structure Args where
  values : List Argument := []
  deriving Repr, BEq

namespace Args

def size (a : Args) : Nat := a.values.length
def isEmpty (a : Args) : Bool := a.values.isEmpty

def session? (a : Args) (i : Nat) : Option SessionId :=
  match a.values[i]? with
  | some (.session id) => some id
  | _ => none

def sessionId? (a : Args) (i : Nat) : Option SessionId :=
  match a.values[i]? with
  | some (.sessionId id) => some id
  | _ => none

def get? (a : Args) (i : Nat) (shape : Shape) : Option Datum :=
  match a.values[i]? with
  | some (.value v) => if v.shape = shape then some v.datum else none
  | _ => none

/-- Moves a value of the wanted shape out and leaves its place absent. -/
def take (a : Args) (i : Nat) (shape : Shape) : Option Datum × Args :=
  match a.get? i shape with
  | some d => (some d, ⟨a.values.set i .absent⟩)
  | none => (none, a)

end Args
end FrameServer
