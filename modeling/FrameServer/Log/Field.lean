import FrameServer.Log.Pattern
import FrameServer.Number.Extended

namespace FrameServer.Log

def compareText (s t : List Char) : Ordering := compareOfLessAndEq s t

def natural? (cs : List Char) : Option Nat :=
  let ds := match cs with
    | '+' :: ds => ds
    | ds => ds
  if ds.isEmpty || !ds.all Char.isDigit then none else some (Extended64.digits ds)

def negative? : List Char → Option Int
  | '-' :: ds => do
    if ds.head? = some '+' then none
    let n ← natural? ds
    if n ≤ Nat.pow 2 63 then return -n
    none
  | _ => none

inductive FieldValue
  | flag (b : Bool)
  | float (x : Extended64)
  | natural (n : Nat)
  | integer (i : Int)
  | pattern (text : List Char)
  deriving DecidableEq, Repr

namespace FieldValue

/-- Reads a value of the first kind that the text fits, in the end a pattern. -/
def read? (cs : List Char) : Option FieldValue :=
  if cs = "true".toList then some (flag true)
  else if cs = "false".toList then some (flag false)
  else match (natural? cs).filter (· < Nat.pow 2 64), negative? cs, Extended64.read? cs with
    | some n, _, _ => some (natural n)
    | none, some i, _ => some (integer i)
    | none, none, some x => some (float x)
    | none, none, none => if Pattern.isPattern cs then some (pattern cs) else none

def chars : FieldValue → List Char
  | flag b => (toString b).toList
  | float x => x.chars
  | natural n => Nat.toDigits 10 n
  | integer i => (toString i).toList
  | pattern text => text

def rank : FieldValue → Nat
  | flag _ => 0
  | float .nan => 2
  | float _ => 1
  | natural _ => 3
  | integer _ => 4
  | pattern _ => 5

def place : FieldValue → Int
  | flag b => b.toNat
  | float x => x.units
  | natural n => n
  | integer i => i
  | pattern _ => 0

def text : FieldValue → List Char
  | pattern text => text
  | _ => []

def order (v w : FieldValue) : Ordering :=
  (compareOfLessAndEq v.rank w.rank).then
    ((compareOfLessAndEq v.place w.place).then (compareText v.text w.text))

end FieldValue

/-- A field that a record must have, and what is asked of its value. -/
structure FieldRule where
  name : List Char
  value : Option FieldValue := none
  deriving DecidableEq, Repr

namespace FieldRule

def breakAt (c : Char) (cs : List Char) : List Char × Option (List Char) :=
  match cs.dropWhile (· ≠ c) with
  | [] => (cs.takeWhile (· ≠ c), none)
  | _ :: rest => (cs.takeWhile (· ≠ c), some rest)

/-- A field and, between equals signs, its value. -/
def read? (cs : List Char) : Option FieldRule :=
  match breakAt '=' cs with
  | (name, none) => some { name }
  | (name, some rest) => (FieldValue.read? (breakAt '=' rest).1).map fun v => ⟨name, some v⟩

def chars (f : FieldRule) : List Char :=
  match f.value with
  | none => f.name
  | some v => f.name ++ '=' :: v.chars

/-- Rules with a value are greater than those without one, then the name counts, and then the value. -/
def order (f g : FieldRule) : Ordering :=
  (compareOfLessAndEq f.value.isSome.toNat g.value.isSome.toNat).then
    ((compareText f.name g.name).then
      (match f.value, g.value with
        | some v, some w => v.order w
        | _, _ => .eq))

/-- The order of the first rules that differ; the longer one of two lists is greater if none do. -/
def compareAll : List FieldRule → List FieldRule → Ordering
  | [], [] => .eq
  | [], _ => .lt
  | _, [] => .gt
  | f :: fs, g :: gs => (f.order g).then (compareAll fs gs)

end FieldRule
end FrameServer.Log
