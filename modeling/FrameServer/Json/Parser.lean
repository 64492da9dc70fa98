import FrameServer.Json.Number
import FrameServer.Json.Text

namespace FrameServer.Json

def isSpace (b : UInt8) : Bool := b == 32 || b == 10 || b == 9 || b == 13

def skipSpace (bs : Bytes) : Bytes := bs.dropWhile isSpace

def expectLetters (v : Json) : Bytes → Bytes → Parsed Json
  | [], bs => .ok (v, bs)
  | _ :: _, [] => .error (.after .eofValue [])
  | l :: ls, b :: bs => if b = l then expectLetters v ls bs else .error (.after .expectedIdent bs)

def depthLimit : Nat := 127

mutual

/-- Reads a value that may open `depth` more brackets. -/
def readValue : Nat → Nat → Bytes → Parsed Json
  | 0, _, _ => .error (.after .eofValue [])
  | fuel + 1, depth, bs =>
    match skipSpace bs with
    | [] => .error (.at .eofValue [])
    | b :: rest =>
      if b = 110 then expectLetters .null [117, 108, 108] rest
      else if b = 116 then expectLetters (.bool true) [114, 117, 101] rest
      else if b = 102 then expectLetters (.bool false) [97, 108, 115, 101] rest
      else if b = 45 then readNumber true rest
      else if isDigit b then readNumber false (b :: rest)
      else if b = 34 then
        match readString [] none (rest.length + 1) rest with
        | .ok (s, rest) => .ok (.string s, rest)
        | .error e => .error e
      else if b = 91 then
        match depth with
        | 0 => .error (.at .tooDeep (b :: rest))
        | depth + 1 => readItems fuel depth true [] rest
      else if b = 123 then
        match depth with
        | 0 => .error (.at .tooDeep (b :: rest))
        | depth + 1 => readMembers fuel depth true [] rest
      else .error (.at .expectedValue (b :: rest))

def readItems : Nat → Nat → Bool → List Json → Bytes → Parsed Json
  | 0, _, _, _, _ => .error (.after .eofValue [])
  | fuel + 1, depth, first, acc, bs =>
    match skipSpace bs with
    | [] => .error (.at .eofList [])
    | b :: rest =>
      if b = 93 then .ok (.array acc.reverse, rest)
      else if first then readItem fuel depth acc (b :: rest)
      else if b = 44 then
        match skipSpace rest with
        | [] => .error (.at .eofValue [])
        | c :: rest' =>
          if c = 93 then .error (.at .trailingComma (c :: rest'))
          else readItem fuel depth acc (c :: rest')
      else .error (.at .expectedListComma (b :: rest))

def readItem : Nat → Nat → List Json → Bytes → Parsed Json
  | 0, _, _, _ => .error (.after .eofValue [])
  | fuel + 1, depth, acc, bs =>
    match readValue fuel depth bs with
    | .ok (v, rest) => readItems fuel depth false (v :: acc) rest
    | .error e => .error e

def readMembers : Nat → Nat → Bool → List (String × Json) → Bytes → Parsed Json
  | 0, _, _, _, _ => .error (.after .eofValue [])
  | fuel + 1, depth, first, acc, bs =>
    match skipSpace bs with
    | [] => .error (.at .eofObject [])
    | b :: rest =>
      if b = 125 then .ok (.object acc, rest)
      else if first then readMember fuel depth acc (b :: rest)
      else if b = 44 then readMember fuel depth acc (skipSpace rest)
      else .error (.at .expectedObjectComma (b :: rest))

def readMember : Nat → Nat → List (String × Json) → Bytes → Parsed Json
  | 0, _, _, _ => .error (.after .eofValue [])
  | _, _, _, [] => .error (.at .eofValue [])
  | fuel + 1, depth, acc, b :: rest =>
    if b = 125 then .error (.at .trailingComma (b :: rest))
    else if b ≠ 34 then .error (.at .keyNotString (b :: rest))
    else
      match readString [] none (rest.length + 1) rest with
      | .error e => .error e
      | .ok (key, rest) =>
        match skipSpace rest with
        | [] => .error (.at .eofObject [])
        | c :: rest =>
          if c ≠ 58 then .error (.at .expectedColon (c :: rest))
          else
            match readValue fuel depth rest with
            | .error e => .error e
            | .ok (v, rest) => readMembers fuel depth false (insert key v acc) rest

end

/-- Reads a whole text. Every step takes a byte or opens the reading of a value, so the fuel lasts. -/
def parse (text : Bytes) : Except SyntaxError Json :=
  let result : Except Fault Json :=
    match readValue (3 * text.length + 3) depthLimit text with
    | .error e => .error e
    | .ok (v, rest) =>
      match skipSpace rest with
      | [] => .ok v
      | b :: rest => .error (.at .trailingCharacters (b :: rest))
  result.mapError (·.locate text)

def parseText (s : String) : Except SyntaxError Json := parse (textBytes s)

end FrameServer.Json
