namespace FrameServer

abbrev Bytes := List UInt8

inductive Framing.Kind
  | line
  | delimiter (byte : UInt8)
  | lengthPrefixed
  deriving DecidableEq, Repr

/-- A rule for cutting a byte stream into messages of at most `max` bytes. -/
structure Framing where
  kind : Framing.Kind := .line
  max : Nat := 1048576
  deriving DecidableEq, Repr

inductive FrameError
  | tooLarge (size max : Nat)
  | truncated (expected received : Nat)
  | io (reason : String)
  deriving DecidableEq, Repr

def FrameError.message : FrameError → String
  | .tooLarge size max => s!"frame size {size} exceeds maximum {max}"
  | .truncated expected received => s!"stream ended after {received} of {expected} payload bytes"
  | .io reason => "I/O error: " ++ reason

namespace Framing

def lf : UInt8 := 10
def cr : UInt8 := 13

def Kind.name : Kind → String
  | .line => "line"
  | .delimiter _ => "delimiter"
  | .lengthPrefixed => "length_prefixed"

def name (f : Framing) : String := f.kind.name

def Kind.terminator? : Kind → Option UInt8
  | .line => some lf
  | .delimiter d => some d
  | .lengthPrefixed => none

/-- A length prefix is four bytes, most significant first. -/
def lengthPrefix (n : Nat) : Bytes :=
  [(n / 0x1000000).toUInt8, (n / 0x10000).toUInt8, (n / 0x100).toUInt8, n.toUInt8]

def prefixLength (a b c d : UInt8) : Nat :=
  ((a.toNat * 256 + b.toNat) * 256 + c.toNat) * 256 + d.toNat

def prefixMax : Nat := 0xFFFFFFFF

/-- The wire form of a message, refused if the message is longer than the limit. -/
def encode (f : Framing) (m : Bytes) : Except FrameError Bytes :=
  if m.length > f.max then .error (.tooLarge m.length f.max)
  else match f.kind with
    | .line => .ok (m ++ [lf])
    | .delimiter d => .ok (m ++ [d])
    | .lengthPrefixed =>
      if m.length > prefixMax then .error (.tooLarge m.length prefixMax)
      else .ok (lengthPrefix m.length ++ m)

def stripCr (m : Bytes) : Bytes := if m.getLast? = some cr then m.dropLast else m

end Framing
end FrameServer
