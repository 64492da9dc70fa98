import FrameServer.Number.Binary64

namespace FrameServer

/-- A number of the format, an infinity, or no number. -/
inductive Extended64
  | finite (x : Binary64)
  | infinite (negative : Bool)
  | nan
  deriving DecidableEq, Repr

namespace Extended64

def digits (ds : List Char) : Nat := ds.foldl (fun n c => n * 10 + (c.toNat - 48)) 0

/-- The number nearest to `n · 10 ^ e`, or infinity beyond the largest. Far outside of the range of the
format the power is not worked out. -/
def ofScientific (n : Nat) (e : Int) : Extended64 :=
  let place := e + (Nat.toDigits 10 n).length
  if n = 0 || place < -400 then finite .zero
  else if place > 400 then infinite false
  else
    let (num, den) := Binary64.scaledTen n 1 e
    match Binary64.ofRatio num den with
    | some x => finite x
    | none => infinite false

def neg : Extended64 → Extended64
  | finite x => finite x.neg
  | infinite negative => infinite !negative
  | nan => nan

def sign : List Char → Bool × List Char
  | '-' :: cs => (true, cs)
  | '+' :: cs => (false, cs)
  | cs => (false, cs)

def exponent? : List Char → Option Int
  | [] => some 0
  | e :: cs =>
    let (negative, ds) := sign cs
    if (e = 'e' || e = 'E') && !ds.isEmpty && ds.all Char.isDigit then
      some (if negative then -digits ds else digits ds)
    else none

def magnitude? (cs : List Char) : Option Extended64 := do
  let whole := cs.takeWhile Char.isDigit
  let (part, rest) := match cs.dropWhile Char.isDigit with
    | '.' :: rest => (rest.takeWhile Char.isDigit, rest.dropWhile Char.isDigit)
    | rest => ([], rest)
  if whole.isEmpty && part.isEmpty then none
  return ofScientific (digits (whole ++ part)) ((← exponent? rest) - part.length)

/-- A numeral with perhaps a sign, or the name of a value that is no number. -/
def read? (cs : List Char) : Option Extended64 :=
  let (negative, cs) := sign cs
  let name := cs.map Char.toLower
  let value :=
    if name = "inf".toList || name = "infinity".toList then some (infinite false)
    else if name = "nan".toList then some nan
    else magnitude? cs
  if negative then value.map neg else value

def positional (d : Binary64.Decimal) : List Char :=
  let ds := Nat.toDigits 10 d.digits
  if d.exponent ≥ 0 then if d.digits = 0 then ['0'] else ds ++ List.replicate d.exponent.toNat '0'
  else
    let places := d.exponent.natAbs
    let ds := List.replicate (places + 1 - ds.length) '0' ++ ds
    ds.take (ds.length - places) ++ '.' :: ds.drop (ds.length - places)

def signed (negative : Bool) (cs : List Char) : List Char := if negative then '-' :: cs else cs

def chars : Extended64 → List Char
  | finite x => signed x.negative (positional x.shortest)
  | infinite negative => signed negative "inf".toList
  | nan => "NaN".toList

/-- The value in units of the smallest positive number; an infinity lies beyond all numbers. -/
def units : Extended64 → Int
  | finite x =>
    let n : Int := (x.significand * Nat.pow 2 (x.exponent + 1074).toNat : Nat)
    if x.negative then -n else n
  | infinite negative =>
    let n : Int := (Nat.pow 2 2200 : Nat)
    if negative then -n else n
  | nan => 0

end Extended64
end FrameServer
