import FrameServer.Json.Fault
import FrameServer.Text.Utf8

namespace FrameServer.Json

def hexValue? (b : UInt8) : Option Nat := Hex.value? (Char.ofNat b.toNat)

def readHex : Bytes → Parsed Nat
  | a :: b :: c :: d :: rest =>
    match hexValue? a, hexValue? b, hexValue? c, hexValue? d with
    | some a, some b, some c, some d => .ok (((a * 16 + b) * 16 + c) * 16 + d, rest)
    | _, _, _, _ => .error (.after .invalidEscape rest)
  | _ => .error (.after .eofString [])

def isHighSurrogate (n : Nat) : Bool := 0xD800 ≤ n && n ≤ 0xDBFF
def isLowSurrogate (n : Nat) : Bool := 0xDC00 ≤ n && n ≤ 0xDFFF

/-- Reads the byte `b` of an escape that a surrogate pair needs next. -/
def expectEscape (b : UInt8) : Bytes → Except Fault Bytes
  | [] => .error (.after .eofString [])
  | c :: rest => if c = b then .ok rest else .error (.after .endOfHexEscape rest)

/-- Reads a code point after `\u`: four digits, or two surrogates that form a pair. -/
def readCodePoint (bs : Bytes) : Except Fault (Char × Bytes) := do
  let (n, bs) ← readHex bs
  if isLowSurrogate n then throw (.after .loneSurrogate bs)
  if !isHighSurrogate n then return (Char.ofNat n, bs)
  let bs ← expectEscape 92 bs
  let bs ← expectEscape 117 bs
  let (m, bs) ← readHex bs
  if !isLowSurrogate m then throw (.after .loneSurrogate bs)
  return (Char.ofNat ((n - 0xD800) * 0x400 + (m - 0xDC00) + 0x10000), bs)

def readEscape : Bytes → Parsed Char
  | [] => .error (.after .eofString [])
  | b :: rest =>
    if b = 34 then .ok ('"', rest)
    else if b = 92 then .ok ('\\', rest)
    else if b = 47 then .ok ('/', rest)
    else if b = 98 then .ok ('\x08', rest)
    else if b = 102 then .ok ('\x0c', rest)
    else if b = 110 then .ok ('\n', rest)
    else if b = 114 then .ok ('\r', rest)
    else if b = 116 then .ok ('\t', rest)
    else if b = 117 then readCodePoint rest
    else .error (.after .invalidEscape rest)

/-- Reads a string after its opening quote. Characters are collected in reverse. Once there are bytes that
are no text, `broken` is the size of the string from there on. They count only if the string comes to its
end, and their place is counted back from it, an escape being as long as what it stands for. -/
def readString (acc : List Char) (broken : Option Nat) : Nat → Bytes → Parsed String
  | 0, _ => .error (.after .eofString [])
  | _, [] => .error (.after .eofString [])
  | fuel + 1, b :: rest =>
    if b = 34 then
      match broken with
      | some size => .error ⟨.invalidCodePoint, rest.length + size⟩
      | none => .ok (String.ofList acc.reverse, rest)
    else if b = 92 then
      match readEscape rest with
      | .ok (c, rest) => readString (c :: acc) (broken.map (· + c.utf8Size)) fuel rest
      | .error e => .error e
    else if b < 32 then .error (.after .controlCharacter rest)
    else
      match Utf8.next b rest with
      | (some c, rest) => readString (c :: acc) (broken.map (· + c.utf8Size)) fuel rest
      | (none, rest') =>
        readString acc (some (broken.getD 0 + (rest.length + 1 - rest'.length))) fuel rest'

end FrameServer.Json
