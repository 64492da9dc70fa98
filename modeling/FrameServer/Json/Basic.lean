import FrameServer.Number.Binary64
import FrameServer.Text.Quoted
import FrameServer.Text.Utf8

namespace FrameServer

/-- A whole number is kept exactly as long as it fits 64 bits, with or without a sign. -/
inductive Json
  | null
  | bool (b : Bool)
  | int (i : Int)
  | float (x : Binary64)
  | string (s : String)
  | array (items : List Json)
  | object (members : List (String × Json))
  deriving Repr, BEq, Inhabited

namespace Json

def insert (key : String) (value : Json) : List (String × Json) → List (String × Json)
  | [] => [(key, value)]
  | (k, v) :: rest =>
    if key < k then (key, value) :: (k, v) :: rest
    else if key = k then (key, value) :: rest
    else (k, v) :: insert key value rest

/-- An object of the given members; of equal keys the last one counts. -/
def ofMembers (members : List (String × Json)) : Json :=
  .object (members.foldl (fun acc (k, v) => insert k v acc) [])

def get? : Json → String → Option Json
  | .object members, key => members.lookup key
  | _, _ => none

def text? : Json → Option String
  | .string s => some s
  | _ => none

def ofNat (n : Nat) : Json := .int n
def ofTexts (ss : List String) : Json := .array (ss.map .string)

end Json
end FrameServer

namespace FrameServer.Json

/-- A character inside a string: quotes, backslashes and controls are escaped. -/
def escapeChar (c : Char) : List Char :=
  if c = '"' then ['\\', '"']
  else if c = '\\' then ['\\', '\\']
  else if c = '\x08' then ['\\', 'b']
  else if c = '\x0c' then ['\\', 'f']
  else if c = '\n' then ['\\', 'n']
  else if c = '\r' then ['\\', 'r']
  else if c = '\t' then ['\\', 't']
  else if c.toNat < 0x20 then ['\\', 'u', '0', '0', Hex.digit (c.toNat / 16), Hex.digit c.toNat]
  else [c]

def quote (s : String) : List Char := '"' :: s.toList.flatMap escapeChar ++ ['"']

def withPoint (digits : List Char) (n : Nat) : List Char := digits.take n ++ '.' :: digits.drop n

/-- Numbers from `1e-5` up to below `1e16` are written out, with at least one digit after the point; the
others have an exponent with its sign. -/
def floatText (x : Binary64) : List Char :=
  let d := x.shortest
  let digits := Nat.toDigits 10 d.digits
  let place : Int := digits.length + d.exponent - 1
  let body :=
    if x.isZero then ['0', '.', '0']
    else if 0 ≤ d.exponent && place < 16 then
      digits ++ List.replicate d.exponent.natAbs '0' ++ ['.', '0']
    else if 0 ≤ place && place < 16 then withPoint digits (place.natAbs + 1)
    else if -5 ≤ place && place < 0 then
      ['0', '.'] ++ List.replicate (place.natAbs - 1) '0' ++ digits
    else
      let head := if digits.length = 1 then digits else withPoint digits 1
      head ++ ['e', if place < 0 then '-' else '+'] ++ Nat.toDigits 10 place.natAbs
  if x.negative then '-' :: body else body

def intText (i : Int) : List Char :=
  if i < 0 then '-' :: Nat.toDigits 10 i.natAbs else Nat.toDigits 10 i.natAbs

def commaSeparated : List (List Char) → List Char
  | [] => []
  | [x] => x
  | x :: xs => x ++ ',' :: commaSeparated xs

mutual

def chars : Json → List Char
  | .null => "null".toList
  | .bool true => "true".toList
  | .bool false => "false".toList
  | .int i => intText i
  | .float x => floatText x
  | .string s => quote s
  | .array items => '[' :: commaSeparated (itemChars items) ++ [']']
  | .object members => '\x7b' :: commaSeparated (memberChars members) ++ ['\x7d']

def itemChars : List Json → List (List Char)
  | [] => []
  | v :: vs => chars v :: itemChars vs

def memberChars : List (String × Json) → List (List Char)
  | [] => []
  | (k, v) :: ms => (quote k ++ ':' :: chars v) :: memberChars ms

end

def render (v : Json) : String := String.ofList (chars v)

end FrameServer.Json
