import FrameServer.Text.Utf8

namespace FrameServer

inductive IpAddress
  | v4 (a b c d : UInt8)
  | v6 (groups : List UInt16)
  deriving DecidableEq, Repr

structure Address where
  ip : IpAddress
  port : UInt16
  /-- The network in which an address of the newer kind counts; zero if it need not be told. -/
  scope : UInt32 := 0
  deriving DecidableEq, Repr

namespace IpAddress

def digitValue? (base : Nat) (c : Char) : Option Nat := (Hex.value? c).filter (· < base)

/-- A number below `bound`, perhaps of at most `digits` digits. -/
def number? (base : Nat) (digits : Option Nat) (bound : Nat) (cs : List Char) : Option (Nat × List Char) := do
  let ds := cs.takeWhile fun c => (digitValue? base c).isSome
  let n := ds.foldl (fun n c => n * base + (digitValue? base c).getD 0) 0
  if ds.isEmpty || digits.any (ds.length > ·) || n ≥ bound then none
  return (n, cs.drop ds.length)

/-- A decimal number without needless zeros. -/
def octet? (cs : List Char) : Option (UInt8 × List Char) := do
  let (n, rest) ← number? 10 (some 3) 256 cs
  match cs with
  | '0' :: c :: _ => if c.isDigit then none
  | _ => pure ()
  return (n.toUInt8, rest)

def dot? : List Char → Option (List Char)
  | '.' :: cs => some cs
  | _ => none

def readV4? (cs : List Char) : Option ((UInt8 × UInt8 × UInt8 × UInt8) × List Char) := do
  let (a, cs) ← octet? cs
  let (b, cs) ← octet? (← dot? cs)
  let (c, cs) ← octet? (← dot? cs)
  let (d, cs) ← octet? (← dot? cs)
  return ((a, b, c, d), cs)

def pair (a b : UInt8) : UInt16 := a.toUInt16 * 256 + b.toUInt16

/-- What follows the separator before a group; the first one has none. -/
def afterColon? (first : Bool) (cs : List Char) : Option (List Char) :=
  if first then some cs
  else match cs with
    | ':' :: cs => some cs
    | _ => none

/-- Up to `limit` groups with colons between them, the last two of which may be dotted; whether they are,
and the rest. -/
def readGroups (first : Bool) : (limit : Nat) → List Char → List UInt16 × Bool × List Char
  | 0, cs => ([], false, cs)
  | limit + 1, cs =>
    match if limit = 0 then none else (afterColon? first cs).bind readV4? with
    | some ((a, b, c, d), rest) => ([pair a b, pair c d], true, rest)
    | none =>
      match (afterColon? first cs).bind (number? 16 (some 4) 0x10000) with
      | some (n, rest) =>
        let (gs, dotted, rest) := readGroups false limit rest
        (n.toUInt16 :: gs, dotted, rest)
      | none => ([], false, cs)

/-- Eight groups, of which one run of zeros may be left out. -/
def readV6? (cs : List Char) : Option (List UInt16 × List Char) :=
  match readGroups true 8 cs with
  | (front, dotted, rest) =>
    if front.length = 8 then some (front, rest)
    else if dotted then none
    else match rest with
      | ':' :: ':' :: rest =>
        let (back, _, rest) := readGroups true (7 - front.length) rest
        some (front ++ List.replicate (8 - front.length - back.length) 0 ++ back, rest)
      | _ => none

def parse? (s : String) : Option IpAddress :=
  match readV4? s.toList with
  | some ((a, b, c, d), []) => some (.v4 a b c d)
  | _ =>
    match readV6? s.toList with
    | some (groups, []) => some (.v6 groups)
    | _ => none

/-- The start and length of the first longest run of zeros in the groups from place `i` on. -/
def zeroRun : (i : Nat) → List UInt16 → Nat × Nat
  | _, [] => (0, 0)
  | i, g :: gs =>
    let run := ((g :: gs).takeWhile (· = 0)).length
    let later := zeroRun (i + 1) gs
    if run ≥ later.2 then (i, run) else later

def showGroups (gs : List UInt16) : String :=
  ":".intercalate (gs.map fun g => String.ofList (Nat.toDigits 16 g.toNat))

def showV4 (a b c d : UInt8) : String := ".".intercalate ([a, b, c, d].map fun n => toString n.toNat)

/-- Addresses of the older kind are shown as such also among those of the newer one. -/
def render : IpAddress → String
  | v4 a b c d => showV4 a b c d
  | v6 [0, 0, 0, 0, 0, 0xffff, g, h] =>
    "::ffff:" ++ showV4 (g >>> 8).toUInt8 g.toUInt8 (h >>> 8).toUInt8 h.toUInt8
  | v6 gs =>
    let (start, length) := zeroRun 0 gs
    if length > 1 then showGroups (gs.take start) ++ "::" ++ showGroups (gs.drop (start + length))
    else showGroups gs

def isV6 : IpAddress → Bool
  | v4 .. => false
  | v6 _ => true

end IpAddress

namespace Address

def render (a : Address) : String :=
  let port := toString a.port.toNat
  let scope := if a.scope = 0 then "" else s!"%{a.scope.toNat}"
  if a.ip.isV6 then s!"[{a.ip.render}{scope}]:{port}" else s!"{a.ip.render}:{port}"

/-- The port behind the last colon. -/
def port? (cs : List Char) : Option UInt16 :=
  match IpAddress.number? 10 none 65536 cs with
  | some (n, []) => some n.toUInt16
  | _ => none

def scope? : List Char → Option (UInt32 × List Char)
  | '%' :: cs => (IpAddress.number? 10 none 0x100000000 cs).map fun (n, rest) => (n.toUInt32, rest)
  | cs => some (0, cs)

/-- An address with a port; the newer kind stands in brackets, and may have a scope. -/
def parse? (s : String) : Option Address :=
  match s.toList with
  | '[' :: cs => do
    let (groups, cs) ← IpAddress.readV6? cs
    match ← scope? cs with
    | (scope, ']' :: ':' :: rest) => return ⟨.v6 groups, ← port? rest, scope⟩
    | _ => none
  | cs =>
    match IpAddress.readV4? cs with
    | some ((a, b, c, d), ':' :: rest) => (port? rest).map fun port => { ip := .v4 a b c d, port }
    | _ => none

end Address
end FrameServer
