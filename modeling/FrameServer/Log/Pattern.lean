import FrameServer.Text.Character
import FrameServer.Text.Utf8

namespace FrameServer.Log.Pattern

/-- How the characters of a pattern are taken; flags in the pattern change it up to the end of a group. -/
structure Mode where
  ignoresCase : Bool := false
  /-- Whether characters are compared, and not bytes. -/
  unicode : Bool := true
  /-- Whether white space and comments mean nothing. -/
  spaced : Bool := false
  deriving DecidableEq, Repr

def dropSpace (inComment : Bool) : List Char → List Char
  | [] => []
  | c :: cs =>
    if inComment then dropSpace (c ≠ '\n') cs
    else if Text.isBlank c then dropSpace false cs
    else if c = '#' then dropSpace true cs
    else c :: cs

namespace Mode

def skip (m : Mode) (cs : List Char) : List Char := if m.spaced then dropSpace false cs else cs

/-- The next character that means something; in a comment that is its first one which is no white space. -/
def peek? (m : Mode) (cs : List Char) : Option Char :=
  if !m.spaced then cs.head?
  else
    match cs.dropWhile Text.isBlank with
    | '#' :: comment => (comment.dropWhile Text.isBlank).head?.or cs.head?
    | rest => rest.head?.or cs.head?

def skipTo (m : Mode) (cs : List Char) : Option (List Char) :=
  match m.skip cs with
  | [] => none
  | rest => some rest

end Mode

/-- What one character stands for, or a backslash and what follows it. -/
inductive Atom
  /-- A character; whether it is given as the code of a byte. -/
  | literal (c : Char) (byte : Bool)
  | kind (negated : Bool)
  | edgeOfText
  | edgeOfWord
  deriving DecidableEq, Repr

namespace Atom

def isUsable (m : Mode) : Atom → Bool
  | literal c byte => if m.unicode then !m.ignoresCase else !(byte && c.toNat ≥ 128)
  | kind negated => !m.unicode && !negated
  | edgeOfText => true
  | edgeOfWord => !m.unicode

def isMember (m : Mode) : Atom → Bool
  | literal c _ => if m.unicode then !m.ignoresCase else c.toNat < 128
  | kind negated => !m.unicode && !negated
  | _ => false

end Atom

def code? (m : Mode) : (count : Nat) → Nat → List Char → Option (Nat × List Char)
  | 0, n, cs => some (n, cs)
  | count + 1, n, cs => do
    let c :: rest := m.skip cs | none
    code? m count (n * 16 + (← Hex.value? c)) rest

def character? (m : Mode) (count : Nat) (byte : Bool) (cs : List Char) : Option (Atom × List Char) := do
  let (n, rest) ← code? m count 0 cs
  if n.isValidChar then return (.literal (Char.ofNat n) byte, m.skip rest)
  none

def escape? (m : Mode) : List Char → Option (Atom × List Char)
  | [] => none
  | c :: cs =>
    match c with
    | 'x' => character? m 2 true cs
    | 'u' => character? m 4 false cs
    | 'U' => character? m 8 false cs
    | 'd' | 's' | 'w' => some (.kind false, cs)
    | 'D' | 'S' | 'W' => some (.kind true, cs)
    | 'A' | 'z' => some (.edgeOfText, cs)
    | 'b' | 'B' | '<' | '>' => some (.edgeOfWord, cs)
    | 'a' | 'f' | 't' | 'n' | 'r' | 'v' => some (.literal c false, cs)
    | _ => if c.toNat < 128 && !c.isAlphanum then some (.literal c false, cs) else none

def classNames : List String :=
  ["alnum", "alpha", "ascii", "blank", "cntrl", "digit", "graph", "lower", "print", "punct", "space",
   "upper", "word", "xdigit"]

/-- A class by its name, after a bracket: whether it is negated, and the rest. -/
def namedClass? : List Char → Option (Bool × List Char)
  | ':' :: cs =>
    let (negated, cs) := match cs with
      | '^' :: cs => (true, cs)
      | cs => (false, cs)
    match cs.dropWhile (· ≠ ':') with
    | ':' :: ']' :: rest =>
      if String.ofList (cs.takeWhile (· ≠ ':')) ∈ classNames then some (negated, rest) else none
    | _ => none
  | _ => none

/-- How deep things lie in one another when they stand side by side: the one more if there are several. -/
def depthOf (depths : List Nat) : Nat :=
  depths.foldl max 0 + if depths.length > 1 then 1 else 0

/-- The part of a class that has been read: the depth of the operations, and the depths of the members
since the last operator. -/
structure Members where
  before : Option Nat := none
  depths : List Nat := []

namespace Members

def depth (ms : Members) : Nat :=
  match ms.before with
  | some d => max d (depthOf ms.depths) + 1
  | none => depthOf ms.depths

def operator (ms : Members) : Members := { before := some ms.depth }

def add (ms : Members) (depth : Nat) : Members := { ms with depths := depth :: ms.depths }

end Members

def hyphens? (m : Mode) (count : Nat) : (fuel : Nat) → List Char → Option (Nat × List Char)
  | 0, _ => none
  | fuel + 1, '-' :: rest => do hyphens? m (count + 1) fuel (← m.skipTo rest)
  | _, cs => some (count, cs)

def classStart? (m : Mode) (cs : List Char) : Option (Members × List Char) := do
  let cs ← m.skipTo cs
  let (negated, cs) ← match cs with
    | '^' :: rest => (m.skipTo rest).map (true, ·)
    | _ => some (false, cs)
  if negated && !m.unicode then none
  let (count, cs) ← hyphens? m 0 (cs.length + 1) cs
  let (count, cs) ← match count, cs with
    | 0, ']' :: rest => (m.skipTo rest).map (1, ·)
    | _, _ => some (count, cs)
  if count > 0 && m.unicode && m.ignoresCase then none
  return ({ depths := List.replicate count 0 }, cs)

def atom? (m : Mode) : List Char → Option (Atom × List Char)
  | [] => none
  | '\\' :: cs => escape? m cs
  | c :: cs => some (.literal c false, cs)

/-- Reads a member of a class, or two with a hyphen between them and all that lies there. -/
def member? (m : Mode) (cs : List Char) : Option (List Char) := do
  let (a, cs) ← atom? m cs
  let cs ← m.skipTo cs
  if !a.isMember m then none
  match cs with
  | '-' :: rest =>
    let next := m.peek? rest
    if next = some ']' || next = some '-' then return cs
    let (b, rest) ← atom? m (← m.skipTo rest)
    match a, b with
    | .literal x _, .literal y _ => if x ≤ y && b.isMember m then return rest
    | _, _ => pure ()
    none
  | _ => return cs

/-- Whether `c` stands twice at the front. -/
def isOperator : List Char → Bool
  | c :: d :: _ => c = d && c ∈ ['&', '-', '~']
  | _ => false

/-- Reads a class up to its closing bracket; how deep things lie in it, and the rest. -/
def members? (m : Mode) : (fuel : Nat) → Members → List Char → Option (Nat × List Char)
  | 0, _, _ => none
  | fuel + 1, ms, cs => do
    let cs := m.skip cs
    match cs with
    | [] => none
    | ']' :: rest => return (ms.depth + 1, rest)
    | '[' :: rest =>
      match namedClass? rest with
      | some (negated, rest) =>
        if if m.unicode then m.ignoresCase else negated then none
        members? m fuel (ms.add 0) rest
      | none =>
        let (first, rest) ← classStart? m rest
        let (depth, rest) ← members? m fuel first rest
        members? m fuel (ms.add depth) rest
    | _ =>
      if isOperator cs then members? m fuel ms.operator (cs.drop 2)
      else members? m fuel (ms.add 0) (← member? m cs)

/-- Alternatives as far as they have been read: the depths of those that are complete, and of the parts of
the last one in reverse, each with whether it can be repeated. -/
structure Branches where
  complete : List Nat := []
  parts : List (Nat × Bool) := []

namespace Branches

def lastDepth (b : Branches) : Nat := depthOf (b.parts.map (·.1))
def depth (b : Branches) : Nat := depthOf (b.lastDepth :: b.complete)
def next (b : Branches) : Branches := { complete := b.lastDepth :: b.complete }

def add (b : Branches) (depth : Nat) (repeatable : Bool := true) : Branches :=
  { b with parts := (depth, repeatable) :: b.parts }

def repeat? (b : Branches) : Option Branches :=
  match b.parts with
  | (depth, true) :: parts => some { b with parts := (depth + 1, true) :: parts }
  | _ => none

end Branches

inductive Opening
  | mode (m : Mode)
  | group (m : Mode) (name : Option (List Char))

/-- Reads flags up to a colon or a closing parenthesis. Each may stand once, and one hyphen before those
that are turned off. -/
def flags? (seen : List Char) (m : Mode) : List Char → Option (Opening × List Char)
  | [] => none
  | c :: cs =>
    let on := '-' ∉ seen
    if c = ':' || c = ')' then
      if seen.head? = some '-' || (c = ')' && seen.isEmpty) then none
      else some (if c = ':' then .group m none else .mode m, cs)
    else if c ∈ seen then none
    else match c with
      | 'i' => flags? (c :: seen) { m with ignoresCase := on } cs
      | 'u' => flags? (c :: seen) { m with unicode := on } cs
      | 'x' => flags? (c :: seen) { m with spaced := on } cs
      | 'm' | 's' | 'U' | 'R' | '-' => flags? (c :: seen) m cs
      | _ => none

def startsName (c : Char) : Bool := c = '_' || Text.isLetter c
def goesOnName (c : Char) : Bool := c ∈ ['_', '.', '[', ']'] || Text.isLetterOrDigit c

def groupName? (cs : List Char) : Option (List Char × List Char) :=
  match cs.takeWhile (· ≠ '>'), cs.dropWhile (· ≠ '>') with
  | c :: name, _ :: rest => if startsName c && name.all goesOnName then some (c :: name, rest) else none
  | _, _ => none

def opening? (m : Mode) (cs : List Char) : Option (Opening × List Char) :=
  let named (cs : List Char) := (groupName? cs).map fun (name, rest) => (Opening.group m (some name), rest)
  match m.skip cs with
  | '?' :: 'P' :: '<' :: rest => named rest
  | '?' :: '<' :: rest => named rest
  | '?' :: rest => flags? [] m rest
  | rest => some (.group m none, rest)

def single? (m : Mode) (cs : List Char) : Option (List Char) := do
  match cs with
  | '.' :: rest => if m.unicode then return rest
  | '^' :: rest => return rest
  | '$' :: rest => return rest
  | _ =>
    let (a, rest) ← atom? m cs
    if a.isUsable m then return rest
  none

/-- Reads alternatives up to a closing parenthesis or the end, after groups with the given names. -/
def branches? : (fuel : Nat) → Mode → (names : List (List Char)) → Branches → List Char →
    Option (Branches × List (List Char) × List Char)
  | 0, _, _, _, _ => none
  | fuel + 1, m, names, b, cs => do
    let cs := m.skip cs
    match cs with
    | [] => return (b, names, [])
    | ')' :: _ => return (b, names, cs)
    | '|' :: rest => branches? fuel m names b.next rest
    | '[' :: rest =>
      let (first, rest) ← classStart? m rest
      let (depth, rest) ← members? m (rest.length + 1) first rest
      branches? fuel m names (b.add depth) rest
    | '(' :: rest =>
      match ← opening? m rest with
      | (.mode m, rest) => branches? fuel m names (b.add 0 false) rest
      | (.group inner name, rest) =>
        if name.any (· ∈ names) then none
        let (g, names, rest) ← branches? fuel inner (name.toList ++ names) {} rest
        match rest with
        | ')' :: rest => branches? fuel m names (b.add (g.depth + 1)) rest
        | _ => none
    | '{' :: _ => none
    | c :: rest =>
      if c ∈ ['?', '*', '+'] then
        let rest := match rest with
          | '?' :: rest => rest
          | _ => rest
        branches? fuel m names (← b.repeat?) rest
      else branches? fuel m names (b.add 0) (← single? m cs)

def depthLimit : Nat := 250

/-- What depends on the properties of characters beyond ASCII is no pattern here, nor is a number of repetitions in
braces. -/
def isPattern (cs : List Char) : Bool :=
  match branches? (cs.length + 1) {} [] {} cs with
  | some (b, _, []) => b.depth ≤ depthLimit
  | _ => false

end FrameServer.Log.Pattern
