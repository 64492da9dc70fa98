import FrameServer.Framing.Basic

namespace FrameServer.Json

inductive Reason
  | eofValue | eofList | eofObject | eofString
  | expectedValue | expectedIdent | expectedColon | expectedListComma | expectedObjectComma
  | trailingComma | trailingCharacters | keyNotString
  | invalidNumber | numberOutOfRange | invalidEscape | invalidCodePoint | controlCharacter
  | loneSurrogate | endOfHexEscape | tooDeep
  deriving DecidableEq, Repr

def Reason.message : Reason → String
  | .eofValue => "EOF while parsing a value"
  | .eofList => "EOF while parsing a list"
  | .eofObject => "EOF while parsing an object"
  | .eofString => "EOF while parsing a string"
  | .expectedValue => "expected value"
  | .expectedIdent => "expected ident"
  | .expectedColon => "expected `:`"
  | .expectedListComma => "expected `,` or `]`"
  | .expectedObjectComma => "expected `,` or `\x7d`"
  | .trailingComma => "trailing comma"
  | .trailingCharacters => "trailing characters"
  | .keyNotString => "key must be a string"
  | .invalidNumber => "invalid number"
  | .numberOutOfRange => "number out of range"
  | .invalidEscape => "invalid escape"
  | .invalidCodePoint => "invalid unicode code point"
  | .controlCharacter => "control character (\\u0000-\\u001F) found while parsing a string"
  | .loneSurrogate => "lone leading surrogate in hex escape"
  | .endOfHexEscape => "unexpected end of hex escape"
  | .tooDeep => "recursion limit exceeded"

/-- A reason, and how many bytes of the text follow the byte it points at. -/
structure Fault where
  reason : Reason
  left : Nat
  deriving DecidableEq, Repr

/-- Points at the first byte of `rest`, or at the last byte of the text if nothing is left. -/
def Fault.at (reason : Reason) (rest : Bytes) : Fault := ⟨reason, rest.length - 1⟩

def Fault.after (reason : Reason) (rest : Bytes) : Fault := ⟨reason, rest.length⟩

abbrev Parsed (α : Type) := Except Fault (α × Bytes)

/-- Where a fault lies: lines count from one, columns count the bytes since the line began. -/
structure SyntaxError where
  reason : Reason
  line : Nat
  column : Nat
  deriving DecidableEq, Repr

def SyntaxError.message (e : SyntaxError) : String :=
  s!"{e.reason.message} at line {e.line} column {e.column}"

def position (line column : Nat) : Bytes → Nat × Nat
  | [] => (line, column)
  | b :: bs => if b = 10 then position (line + 1) 0 bs else position line (column + 1) bs

def Fault.locate (f : Fault) (text : Bytes) : SyntaxError :=
  let (line, column) := position 1 0 (text.take (text.length - f.left))
  ⟨f.reason, line, column⟩

end FrameServer.Json
