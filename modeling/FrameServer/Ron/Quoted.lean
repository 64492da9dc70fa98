import FrameServer.Ron.Basic
import FrameServer.Text.Quoted
import FrameServer.Text.Utf8

namespace FrameServer.Ron

def charOf? (n : Nat) : Option Char :=
  if n < 0xD800 ∨ (0xDFFF < n ∧ n < 0x110000) then some (Char.ofNat n) else none

def hexByte : Reader UInt8
  | a :: b :: cs => do
    let a ← Hex.value? a
    let b ← Hex.value? b
    return ((a * 16 + b).toUInt8, cs)
  | _ => none

/-- A character from the bytes so far and up to `more` others, each with its own escape. -/
def hexChar : (more : Nat) → Bytes → Reader Char
  | more, bytes, cs =>
    match Utf8.decode? bytes with
    | some [c] => some (c, cs)
    | _ =>
      match more, cs with
      | more + 1, '\\' :: 'x' :: cs => do
        let (b, cs) ← hexByte cs
        hexChar more (bytes ++ [b]) cs
      | _, _ => none

def codePoint : (limit : Nat) → Nat → Reader Nat
  | _, n, '\x7d' :: cs => some (n, cs)
  | limit + 1, n, c :: cs => do codePoint limit (n * 16 + (← Hex.value? c)) cs
  | _, _, _ => none

/-- What stands behind a backslash. A character of several bytes may be written byte by byte if `spread`. -/
def escaped (spread : Bool) : Reader Char
  | '\'' :: cs => some ('\'', cs)
  | '"' :: cs => some ('"', cs)
  | '\\' :: cs => some ('\\', cs)
  | 'n' :: cs => some ('\n', cs)
  | 'r' :: cs => some ('\r', cs)
  | 't' :: cs => some ('\t', cs)
  | '0' :: cs => some ('\x00', cs)
  | 'x' :: cs => do
    let (b, cs) ← hexByte cs
    hexChar (if spread then 3 else 0) [b] cs
  | 'u' :: '\x7b' :: c :: cs => do
    let (n, cs) ← codePoint 5 (← Hex.value? c) cs
    return (← charOf? n, cs)
  | _ => none

def escapedByte : Reader Unit
  | 'x' :: cs => (hexByte cs).map fun (_, cs) => ((), cs)
  | cs => (escaped false cs).map fun (_, cs) => ((), cs)

/-- What is left out of a string together with the end of a line that a backslash precedes. -/
def isIndent (c : Char) : Bool := c ∈ [' ', '\t', '\r', '\n']

/-- The rest of a string up to its quote, given how escapes are read. -/
def body {α : Type} (escape : Reader α) (plain : Char → α) : Nat → Reader (List α)
  | 0, _ => none
  | _, [] => none
  | _ + 1, '"' :: cs => some ([], cs)
  | fuel + 1, '\\' :: '\n' :: cs => body escape plain fuel (cs.dropWhile isIndent)
  | fuel + 1, '\\' :: '\r' :: '\n' :: cs => body escape plain fuel (cs.dropWhile isIndent)
  | fuel + 1, '\\' :: cs => do
    let (a, cs) ← escape cs
    let (as, cs) ← body escape plain fuel cs
    return (a :: as, cs)
  | fuel + 1, c :: cs => do
    let (as, cs) ← body escape plain fuel cs
    return (plain c :: as, cs)

def rawBody (ending : List Char) : Reader (List Char)
  | [] => none
  | c :: cs =>
    if c = '"' && startsWith ending cs then some ([], cs.drop ending.length)
    else (rawBody ending cs).map fun (as, rest) => (c :: as, rest)

def rawText : Reader (List Char) := fun cs => do
  let ending := cs.takeWhile (· = '#')
  rawBody ending (← expect '"' (cs.dropWhile (· = '#')))

def readText : Reader Value
  | '"' :: cs => (body (escaped true) id (cs.length + 1) cs).map fun (t, cs) => (.text (String.ofList t), cs)
  | 'r' :: cs => (rawText cs).map fun (t, cs) => (.text (String.ofList t), cs)
  | _ => none

def readBytes : Reader Value
  | 'b' :: '"' :: cs =>
    (body escapedByte (fun _ => ()) (cs.length + 1) cs).map fun (_, cs) => (.bytes, cs)
  | 'b' :: 'r' :: cs => (rawText cs).map fun (_, cs) => (.bytes, cs)
  | _ => none

def readChar : Reader Value
  | '\'' :: '\\' :: cs => do
    let (c, cs) ← escaped false cs
    return (.char c, ← expect '\'' cs)
  | '\'' :: c :: cs => do return (.char c, ← expect '\'' cs)
  | _ => none

/-- A string as it is written: both kinds of quotes are escaped. -/
def writeText (s : String) : List Char :=
  '"' :: s.toList.flatMap (fun c => if c = '\'' then ['\\', '\''] else Text.escapeChar '"' c) ++ ['"']

/-- A character as it is written: only a quote and a backslash are escaped. -/
def writeChar (c : Char) : List Char :=
  '\'' :: (if c = '\'' || c = '\\' then ['\\', c] else [c]) ++ ['\'']

end FrameServer.Ron
