namespace FrameServer

/-- The number `± significand · 2 ^ exponent`. -/
structure Binary64 where
  negative : Bool
  significand : Nat
  exponent : Int
  deriving DecidableEq, Repr

namespace Binary64

def zero : Binary64 := ⟨false, 0, -1074⟩

def neg (x : Binary64) : Binary64 := { x with negative := !x.negative }

def isZero (x : Binary64) : Bool := x.significand == 0

/-- `num / den · 2 ^ (-e)` as a quotient of natural numbers. -/
def scaled (num den : Nat) (e : Int) : Nat × Nat :=
  if e ≤ 0 then (num * Nat.pow 2 e.natAbs, den) else (num, den * Nat.pow 2 e.natAbs)

/-- The quotient, with a half or more rounded up unless that makes a tie odd. -/
def roundQuotient (num den : Nat) : Nat :=
  let q := num / den
  let twice := 2 * (num % den)
  if twice > den || (twice == den && q % 2 == 1) then q + 1 else q

/-- The exponent with which the significand of `num / den` has 53 bits, or the least one. -/
def exponentOf (num den : Nat) : Int :=
  let e := (Nat.log2 num : Int) - Nat.log2 den - 53
  let (n, d) := scaled num den e
  max (-1074) (if n / d < Nat.pow 2 53 then e else e + 1)

/-- The number nearest to `num / den`; `none` if it is beyond the largest. -/
def ofRatio (num den : Nat) : Option Binary64 :=
  if num = 0 then some zero
  else
    let e := exponentOf num den
    let (n, d) := scaled num den e
    let s := roundQuotient n d
    let (s, e) := if s = Nat.pow 2 53 then (Nat.pow 2 52, e + 1) else (s, e)
    if e > 971 then none else some ⟨false, s, e⟩

def ratio (x : Binary64) : Nat × Nat :=
  if x.exponent ≤ 0 then (x.significand, Nat.pow 2 x.exponent.natAbs)
  else (x.significand * Nat.pow 2 x.exponent.natAbs, 1)

def ofNat (n : Nat) : Option Binary64 := ofRatio n 1

def ofInt (i : Int) : Binary64 :=
  let x := (ofNat i.natAbs).getD zero
  if i < 0 then x.neg else x

def mul (x y : Binary64) : Option Binary64 :=
  let (a, b) := x.ratio
  let (c, d) := y.ratio
  (ofRatio (a * c) (b * d)).map ({ · with negative := x.negative != y.negative })

/-- The quotient; `y` is not zero. -/
def div (x y : Binary64) : Option Binary64 :=
  let (a, b) := x.ratio
  let (c, d) := y.ratio
  (ofRatio (a * d) (b * c)).map ({ · with negative := x.negative != y.negative })

end Binary64
end FrameServer

namespace FrameServer.Binary64

/-- `digits · 10 ^ exponent`. -/
structure Decimal where
  digits : Nat
  exponent : Int
  deriving DecidableEq, Repr

/-- The least `j` from `i` on with `num · 10 ^ j ≥ den`. -/
def shiftToOne (num den : Nat) : Nat → Nat → Nat
  | 0, i => i
  | fuel + 1, i => if num * Nat.pow 10 i ≥ den then i else shiftToOne num den fuel (i + 1)

def firstPlace (num den : Nat) : Int :=
  if num ≥ den then ((Nat.toDigits 10 (num / den)).length : Int) - 1
  else -(shiftToOne num den 400 1 : Nat)

/-- `num / den · 10 ^ k` as a quotient of natural numbers. -/
def scaledTen (num den : Nat) (k : Int) : Nat × Nat :=
  if k ≥ 0 then (num * Nat.pow 10 k.natAbs, den) else (num, den * Nat.pow 10 k.natAbs)

def Decimal.read (d : Decimal) : Option Binary64 :=
  let (a, b) := scaledTen d.digits 1 d.exponent
  ofRatio a b

/-- The neighbour of `num / den` on the grid of `10 ^ (-k)` that reads back as `x`, the nearer of two. -/
def onGrid (x : Binary64) (num den : Nat) (k : Int) : Option Decimal :=
  let (n, d) := scaledTen num den k
  let low := n / d
  let below : Decimal := ⟨low, -k⟩
  let above : Decimal := ⟨low + 1, -k⟩
  let twice := 2 * (n % d)
  let belowFirst := twice < d || (twice == d && low % 2 == 0)
  let (near, far) := if belowFirst then (below, above) else (above, below)
  if near.read = some x then some near else if far.read = some x then some far else none

def shortestFrom (x : Binary64) (num den : Nat) (place : Int) : Nat → Nat → Decimal
  | 0, count => ⟨(scaledTen num den (count - 1 - place)).1, place + 1 - count⟩
  | fuel + 1, count =>
    match onGrid x num den (count - 1 - place) with
    | some d => d
    | none => shortestFrom x num den place fuel (count + 1)

def Decimal.trim (d : Decimal) : Nat → Decimal
  | 0 => d
  | fuel + 1 =>
    if d.digits ≠ 0 && d.digits % 10 = 0 then Decimal.trim ⟨d.digits / 10, d.exponent + 1⟩ fuel else d

/-- The shortest decimal form of the magnitude of `x`. Seventeen digits are always enough. -/
def shortest (x : Binary64) : Decimal :=
  if x.isZero then ⟨0, 0⟩
  else
    let (num, den) := x.ratio
    (shortestFrom { x with negative := false } num den (firstPlace num den) 17 1).trim 20

end FrameServer.Binary64
