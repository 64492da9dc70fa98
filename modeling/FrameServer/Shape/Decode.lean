import FrameServer.Failure
import FrameServer.Json.Basic
import FrameServer.Shape.Basic

namespace FrameServer

inductive Mismatch
  | wrongType (found : Json) (expected : String)
  | wrongValue (found : Json) (expected : String)
  | missing (field : String)
  | tooFew (count : Nat) (record : String) (fields : Nat)
  | tooMany (count : Nat)
  deriving Repr, BEq

def Json.describe : Json → String
  | .null => "null"
  | .bool true => "boolean `true`"
  | .bool false => "boolean `false`"
  | .int i => s!"integer `{String.ofList (Json.intText i)}`"
  | .float x => s!"floating point `{String.ofList (Json.floatText x)}`"
  | .string s => "string " ++ quoteText s
  | .array _ => "sequence"
  | .object _ => "map"

def Mismatch.message : Mismatch → String
  | .wrongType found expected => s!"invalid type: {found.describe}, expected {expected}"
  | .wrongValue found expected => s!"invalid value: {found.describe}, expected {expected}"
  | .missing field => s!"missing field `{field}`"
  | .tooFew count record fields =>
    let unit := if fields = 1 then "element" else "elements"
    s!"invalid length {count}, expected struct {record} with {fields} {unit}"
  | .tooMany count => s!"invalid length {count}, expected fewer elements in array"

def Mismatch.failure (m : Mismatch) : Failure := ⟨m.message, []⟩

namespace Scalar

def expected : Scalar → String
  | text => "a string"
  | flag => "a boolean"
  | char => "a character"
  | float => "f64"
  | json => "any value"
  | unsigned bits => s!"u{bits}"
  | signed bits => s!"i{bits}"

def fits : Scalar → Int → Bool
  | unsigned bits, i => 0 ≤ i && i.natAbs < Nat.pow 2 bits
  | signed bits, i => -(Nat.pow 2 (bits - 1)) ≤ i && i < Nat.pow 2 (bits - 1)
  | _, _ => false

def decodeInt (s : Scalar) : Json → Except Mismatch Atom
  | .int i => if s.fits i then .ok (.int i) else .error (.wrongValue (.int i) s.expected)
  | j => .error (.wrongType j s.expected)

def decode (s : Scalar) (j : Json) : Except Mismatch Atom :=
  match s, j with
  | text, .string t => .ok (.text t)
  | flag, .bool b => .ok (.flag b)
  | char, .string t =>
    match t.toList with
    | [c] => .ok (.char c)
    | _ => .error (.wrongValue j s.expected)
  | float, .float x => .ok (.float x)
  | float, .int i => .ok (.float (Binary64.ofInt i))
  | json, _ => .ok (.json j)
  | unsigned _, _ => s.decodeInt j
  | signed _, _ => s.decodeInt j
  | _, _ => .error (.wrongType j s.expected)

end Scalar

namespace Shape

/-- The parts of a record from the items of a list; parts with a default may be missing at the end. -/
def decodeItems (record : String) (count : Nat) : Nat → List Field → List Json →
    Except Mismatch (List (String × Atom))
  | _, [], [] => .ok []
  | read, [], rest => .error (.tooMany (read + rest.length))
  | read, f :: fs, [] =>
    match f.default? with
    | some d => do return (f.name, .text d) :: (← decodeItems record count read fs [])
    | none => .error (.tooFew (count - (fs.length + 1)) record count)
  | read, f :: fs, j :: js => do
    let a ← f.scalar.decode j
    return (f.name, a) :: (← decodeItems record count (read + 1) fs js)

/-- Parts of a record among the members of an object, in the order of the members; others are ignored. -/
def decodeMembers (fields : List Field) : List (String × Json) → Except Mismatch (List (String × Atom))
  | [] => .ok []
  | (k, v) :: ms =>
    match fields.find? (·.name = k) with
    | none => decodeMembers fields ms
    | some f => do
      let a ← f.scalar.decode v
      return (k, a) :: (← decodeMembers fields ms)

/-- The parts in the order of the record; the first one that is missing without a default is named. -/
def complete (found : List (String × Atom)) : List Field → Except Mismatch (List (String × Atom))
  | [] => .ok []
  | f :: fs =>
    match found.lookup f.name, f.default? with
    | some a, _ => do return (f.name, a) :: (← complete found fs)
    | none, some d => do return (f.name, .text d) :: (← complete found fs)
    | none, none => .error (.missing f.name)

def decodeDatum (shape : Shape) (j : Json) : Except Mismatch Datum :=
  match shape with
  | .plain s => (s.decode j).map .plain
  | .wrapper _ s => (s.decode j).map .plain
  | .optional s =>
    match j with
    | .null => .ok (.optional none)
    | _ => (s.decode j).map fun a => .optional (some a)
  | .list s =>
    match j with
    | .array items => (items.mapM s.decode).map .list
    | _ => .error (.wrongType j "a sequence")
  | .record name fields =>
    match j with
    | .array items => (decodeItems name fields.length 0 fields items).map .record
    | .object members => do
      let found ← decodeMembers fields members
      return .record (← complete found fields)
    | _ => .error (.wrongType j ("struct " ++ name))

def decode (shape : Shape) (j : Json) : Except Mismatch Typed :=
  (shape.decodeDatum j).map (⟨shape, ·⟩)

end Shape
end FrameServer
