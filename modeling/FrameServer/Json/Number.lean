import FrameServer.Framing.Basic
import FrameServer.Json.Basic
import FrameServer.Json.Fault

namespace FrameServer.Json

def isDigit (b : UInt8) : Bool := 48 ≤ b && b ≤ 57
def digitOf (b : UInt8) : Nat := b.toNat - 48

def wordMax : Nat := 0xFFFFFFFFFFFFFFFF

/-- Digits read into a significand; once one does not fit, it and all after it are only counted. -/
structure Digits where
  significand : Nat
  used : Nat := 0
  skipped : Nat := 0
  deriving Repr

def Digits.push (d : Digits) (b : UInt8) : Digits :=
  let n := d.significand * 10 + digitOf b
  if d.skipped > 0 || n > wordMax then { d with skipped := d.skipped + 1 }
  else { d with significand := n, used := d.used + 1 }

def readDigits (d : Digits) : Bytes → Digits × Bytes
  | [] => (d, [])
  | b :: bs => if isDigit b then readDigits (d.push b) bs else (d, b :: bs)

def powerOfTen (k : Nat) : Binary64 := (Binary64.ofNat (Nat.pow 10 k)).getD .zero

/-- `x · 10 ^ e` in steps of at most `10 ^ 308`, each rounded; `none` if it is too large. -/
def scaleSteps (x : Binary64) (e : Int) : Nat → Option Binary64
  | 0 => some x
  | steps + 1 =>
    if e.natAbs ≤ 308 then
      if e ≥ 0 then x.mul (powerOfTen e.natAbs) else x.div (powerOfTen e.natAbs)
    else if x.isZero then some x
    else if e ≥ 0 then none
    else (x.div (powerOfTen 308)).bind (scaleSteps · (e + 308) steps)

def scaleTen (x : Binary64) (e : Int) : Option Binary64 := scaleSteps x e (e.natAbs / 308 + 1)

def ofParts (negative : Bool) (significand : Nat) (e : Int) (rest : Bytes) : Parsed Json :=
  match (Binary64.ofNat significand).bind (scaleTen · e) with
  | some x => .ok (.float (if negative then x.neg else x), rest)
  | none => .error (.after .numberOutOfRange rest)

/-- Reads the digits of an exponent; `none` as soon as they exceed 31 bits. -/
def readExponent (n : Nat) : Bytes → Option Nat × Bytes
  | [] => (some n, [])
  | b :: bs =>
    if isDigit b then
      let n := n * 10 + digitOf b
      if n > 0x7FFFFFFF then (none, bs) else readExponent n bs
    else (some n, b :: bs)

def readPower (negative : Bool) (significand : Nat) (e : Int) (bs : Bytes) : Parsed Json :=
  let (down, bs) := match bs with
    | 43 :: rest => (false, rest)
    | 45 :: rest => (true, rest)
    | _ => (false, bs)
  match bs with
  | [] => .error (.after .eofValue [])
  | b :: rest =>
    if !isDigit b then .error (.after .invalidNumber rest)
    else
      match readExponent (digitOf b) rest with
      | (some n, rest) => ofParts negative significand (if down then e - n else e + n) rest
      | (none, rest) =>
        if significand ≠ 0 && !down then .error (.after .numberOutOfRange rest)
        else .ok (.float (if negative then Binary64.zero.neg else .zero), rest.dropWhile isDigit)

def isExponentLetter (b : UInt8) : Bool := b == 101 || b == 69

def readFraction (negative : Bool) (significand : Nat) (e : Int) (bs : Bytes) : Parsed Json :=
  let (d, rest) := readDigits { significand } bs
  if d.used + d.skipped = 0 then
    .error (if rest.isEmpty then .at .eofValue rest else .at .invalidNumber rest)
  else
    match rest with
    | b :: rest' =>
      if isExponentLetter b then readPower negative d.significand (e - d.used) rest'
      else ofParts negative d.significand (e - d.used) rest
    | [] => ofParts negative d.significand (e - d.used) rest

def wholeNumber (negative : Bool) (significand : Nat) : Json :=
  if !negative then .int significand
  else if 1 ≤ significand && significand ≤ 0x8000000000000000 then .int (-(significand : Int))
  else .float (((Binary64.ofNat significand).getD .zero).neg)

def readTail (negative : Bool) (d : Digits) (bs : Bytes) : Parsed Json :=
  let plain : Parsed Json :=
    if d.skipped = 0 then .ok (wholeNumber negative d.significand, bs)
    else ofParts negative d.significand d.skipped bs
  match bs with
  | b :: rest =>
    if b = 46 then readFraction negative d.significand d.skipped rest
    else if isExponentLetter b then readPower negative d.significand d.skipped rest
    else plain
  | [] => plain

/-- Reads a number after its sign. No digit may follow a leading zero. -/
def readNumber (negative : Bool) : Bytes → Parsed Json
  | [] => .error (.after .eofValue [])
  | b :: bs =>
    if b = 48 then
      match bs with
      | c :: _ => if isDigit c then .error (.at .invalidNumber bs) else readTail negative { significand := 0 } bs
      | [] => readTail negative { significand := 0 } bs
    else if isDigit b then
      let (d, rest) := readDigits { significand := digitOf b } bs
      readTail negative d rest
    else .error (.after .invalidNumber bs)

end FrameServer.Json
