import FrameServer.Json.Basic

namespace FrameServer

inductive Scalar
  | text | flag | char | float | json
  | unsigned (bits : Nat)
  | signed (bits : Nat)
  deriving DecidableEq, Repr

/-- A named part of a record. A part with a default may be missing. -/
structure Shape.Field where
  name : String
  scalar : Scalar
  default? : Option String := none
  deriving DecidableEq, Repr

inductive Shape
  | plain (scalar : Scalar)
  | list (item : Scalar)
  | optional (scalar : Scalar)
  | record (name : String) (fields : List Shape.Field)
  | wrapper (name : String) (scalar : Scalar)
  deriving DecidableEq, Repr

inductive Atom
  | text (s : String)
  | flag (b : Bool)
  | char (c : Char)
  | float (x : Binary64)
  | int (i : Int)
  | json (j : Json)
  deriving Repr, BEq

inductive Datum
  | plain (a : Atom)
  | list (items : List Atom)
  | optional (a : Option Atom)
  | record (fields : List (String × Atom))
  deriving Repr, BEq

structure Typed where
  shape : Shape
  datum : Datum
  deriving Repr, BEq

namespace Shape

def text : Shape := .plain .text
def json : Shape := .plain .json

end Shape

namespace Atom

def toJson : Atom → Json
  | text s => .string s
  | flag b => .bool b
  | char c => .string (String.singleton c)
  | float x => .float x
  | int i => .int i
  | json j => j

end Atom

namespace Datum

def ofText (s : String) : Datum := .plain (.text s)

def toJson : Datum → Json
  | plain a => a.toJson
  | list as => .array (as.map Atom.toJson)
  | optional none => .null
  | optional (some a) => a.toJson
  | record fields => Json.ofMembers (fields.map fun (k, a) => (k, a.toJson))

/-- The text of a datum that is one, or of the named part of a record. -/
def text? (d : Datum) (part : Option String := none) : Option String :=
  match d, part with
  | plain (.text s), none => some s
  | record fields, some name =>
    match fields.lookup name with
    | some (.text s) => some s
    | _ => none
  | _, _ => none

end Datum

namespace Typed

def ofText (s : String) : Typed := ⟨.text, .ofText s⟩
def ofJson (j : Json) : Typed := ⟨.json, .plain (.json j)⟩

end Typed
end FrameServer
