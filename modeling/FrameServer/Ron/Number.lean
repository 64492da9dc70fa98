import FrameServer.Ron.Quoted

namespace FrameServer.Ron

def isWholeChar (c : Char) : Bool := c = '_' || (Hex.value? c).isSome
def isFractionChar (c : Char) : Bool := c.isDigit || c ∈ ['e', 'E', '.', '+', '-', '_']

def base : List Char → Nat × List Char
  | '0' :: 'b' :: cs => (2, cs)
  | '0' :: 'o' :: cs => (8, cs)
  | '0' :: 'x' :: cs => (16, cs)
  | cs => (10, cs)

/-- The value of digits, among which `_` does not count. -/
def digitsValue? (base : Nat) : Nat → List Char → Option Nat
  | n, [] => some n
  | n, c :: cs =>
    if c = '_' then digitsValue? base n cs
    else match Hex.value? c with
      | some d => if d < base then digitsValue? base (n * base + d) cs else none
      | none => none

def magnitude : Reader Nat := fun cs => do
  let (base, cs) := base cs
  match cs.takeWhile isWholeChar with
  | [] => none
  | '_' :: _ => none
  | ds => return (← digitsValue? base 0 ds, cs.dropWhile isWholeChar)

/-- The types that may stand behind a whole number: whether they have a sign, and their bits. -/
def wholeTypes : List (String × Bool × Nat) :=
  [("i8", true, 8), ("i16", true, 16), ("i32", true, 32), ("i64", true, 64),
   ("u8", false, 8), ("u16", false, 16), ("u32", false, 32), ("u64", false, 64)]

def fitsType (signed : Bool) (bits : Nat) (negative : Bool) (n : Nat) : Bool :=
  match signed, negative with
  | true, true => n ≤ Nat.pow 2 (bits - 1)
  | true, false => n < Nat.pow 2 (bits - 1)
  | false, true => n = 0
  | false, false => n < Nat.pow 2 bits

def wholeType? (cs : List Char) : Option (String × Bool × Nat) :=
  let rest := cs.dropWhile isWholeChar
  wholeTypes.find? fun (t, _) => (expectWord t rest).isSome

def sign : List Char → Bool × List Char
  | '+' :: cs => (false, cs)
  | '-' :: cs => (true, cs)
  | cs => (false, cs)

/-- A byte, written as the character of its code. -/
def byteNumeral : Reader Numeral
  | 'b' :: '\'' :: '\\' :: 'x' :: cs => do
    let (b, cs) ← hexByte cs
    return (.whole false b.toNat (some "u8"), ← expect '\'' cs)
  | 'b' :: '\'' :: '\\' :: cs => do
    let (c, rest) ← escaped false cs
    if startsWith ['u'] cs then none
    return (.whole false c.toNat (some "u8"), ← expect '\'' rest)
  | 'b' :: '\'' :: c :: cs => do
    if c.toNat ≥ 128 then none
    return (.whole false c.toNat (some "u8"), ← expect '\'' cs)
  | _ => none

def wholeNumeral : Reader Numeral := fun cs => do
  let (negative, cs) := sign cs
  match wholeType? cs with
  | some (type, signed, bits) =>
    let (n, rest) ← magnitude cs
    if fitsType signed bits negative n then
      return (.whole negative n (some type), ← expectWord type rest)
    none
  | none =>
    let (n, rest) ← magnitude cs
    if fitsType negative 64 negative n then return (.whole negative n none, rest)
    none

/-- Drops the `_` of a fraction, which may follow only a digit or the mark of the exponent. -/
def dropBars : Bool → List Char → Option (List Char)
  | _, [] => some []
  | ok, c :: cs =>
    if c = '_' then if ok then dropBars ok cs else none
    else
      let ok := if c = '.' then false else ok || c.isDigit || c = 'e' || c = 'E'
      (dropBars ok cs).map (c :: ·)

def isExponent : List Char → Bool
  | [] => true
  | e :: cs =>
    let (_, ds) := sign cs
    (e = 'e' || e = 'E') && !ds.isEmpty && ds.all Char.isDigit

def isFraction (cs : List Char) : Bool :=
  let (_, cs) := sign cs
  let front := cs.takeWhile Char.isDigit
  match cs.dropWhile Char.isDigit with
  | '.' :: cs => !(front.isEmpty && (cs.takeWhile Char.isDigit).isEmpty) && isExponent (cs.dropWhile Char.isDigit)
  | cs => !front.isEmpty && isExponent cs

def specialFractions : List String :=
  ["inf", "+inf", "-inf", "NaN", "+NaN", "-NaN"].flatMap fun w => [w, w ++ "f32", w ++ "f64"]

def fractionSpan : List Char → List Char × List Char
  | [] => ([], [])
  | '.' :: '.' :: cs => ([], '.' :: '.' :: cs)
  | c :: cs =>
    if isFractionChar c then
      let (taken, rest) := fractionSpan cs
      (c :: taken, rest)
    else ([], c :: cs)

def fraction : Reader Numeral := fun cs => do
  match specialFractions.findSome? (expectWord · cs) with
  | some rest => return (.fraction, rest)
  | none =>
    let (taken, rest) := fractionSpan cs
    if isFraction (← dropBars false taken) then
      return (.fraction, (["f32", "f64"].findSome? (expectWord · rest)).getD rest)
    none

def numeral : Reader Numeral := fun cs =>
  let (_, digits) := sign cs
  if (fractionSpan digits).1.length > (digits.takeWhile isWholeChar).length then fraction cs
  else if startsWith ['b'] cs then byteNumeral cs
  else (wholeNumeral cs).or (fraction cs)

/-- What stands behind the dots of a range: perhaps its last number, which `=` asks for. -/
def rangeEnd : List Char → Option (List Char)
  | '=' :: cs => (numeral cs).map (·.2)
  | cs => ((numeral cs).map (·.2)).or (some cs)

/-- A number that has been read, or the range that it begins. -/
def numberOrRange (n : Numeral) : Reader Value
  | '.' :: '.' :: cs => (rangeEnd cs).map fun rest => (.range, rest)
  | cs => some (.number n, cs)

def readNumber : Reader Value
  | '.' :: '.' :: cs => (rangeEnd cs).map fun rest => (.range, rest)
  | cs => (numeral cs).bind fun (n, rest) => numberOrRange n rest

end FrameServer.Ron
