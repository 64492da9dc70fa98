import FrameServer.Text.NameTable

namespace FrameServer.Ron

inductive Numeral
  /-- A whole number, with the type that is written behind it. -/
  | whole (negative : Bool) (magnitude : Nat) (type : Option String)
  /-- Any other number; its value is not kept. -/
  | fraction
  deriving DecidableEq, Repr

inductive Value
  | unit
  | flag (b : Bool)
  | char (c : Char)
  | text (s : String)
  | bytes
  | number (n : Numeral)
  /-- All numbers between two, or from or up to one; what it holds is not kept. -/
  | range
  | word (name : String)
  | absent
  | present (v : Value)
  | tuple (name : Option String) (items : List Value)
  | record (name : Option String) (fields : List (String × Value))
  | list (items : List Value)
  | table (entries : List (Value × Value))

structure Extensions where
  /-- The name of every record is written. -/
  namesRecords : Bool := false
  /-- What should be an option is one that is present. -/
  wrapsOptions : Bool := false
  /-- The parentheses of `Some` are also those of the record or tuple that it holds. -/
  unwrapsOptions : Bool := false
  deriving DecidableEq, Repr

structure Document where
  extensions : Extensions := {}
  value : Value

/-- Takes something off the front of a text. -/
abbrev Reader (α : Type) := List Char → Option (α × List Char)

def isSpace (c : Char) : Bool :=
  c.toNat ∈ [0x20, 0x9, 0xA, 0xD, 0xB, 0xC, 0x85, 0x200E, 0x200F, 0x2028, 0x2029]

inductive Gap
  | space
  | line
  /-- A comment in brackets, inside `depth` others. -/
  | block (depth : Nat)

/-- Passes over white space and comments; `none` if a comment has no end. -/
def Gap.skip : Gap → List Char → Option (List Char)
  | block _, [] => none
  | _, [] => some []
  | space, '/' :: '/' :: cs => line.skip cs
  | space, '/' :: '*' :: cs => (block 0).skip cs
  | space, c :: cs =>
    if isSpace c then space.skip cs else if c = '/' then none else some (c :: cs)
  | line, '\n' :: cs => space.skip cs
  | line, _ :: cs => line.skip cs
  | block depth, '/' :: '*' :: cs => (block (depth + 1)).skip cs
  | block 0, '*' :: '/' :: cs => space.skip cs
  | block (depth + 1), '*' :: '/' :: cs => (block depth).skip cs
  | block depth, _ :: cs => (block depth).skip cs

def skipGap (cs : List Char) : Option (List Char) := Gap.space.skip cs

def expect (c : Char) : List Char → Option (List Char)
  | d :: cs => if d = c then some cs else none
  | [] => none

def expectAll : List Char → List Char → Option (List Char)
  | [], cs => some cs
  | p :: ps, cs => (expect p cs).bind (expectAll ps)

def startsWith (p cs : List Char) : Bool := (expectAll p cs).isSome

def isNameStart (c : Char) : Bool := c = '_' || Text.inRanges c.toNat Text.nameStartRanges
def isNameChar (c : Char) : Bool := Text.inRanges c.toNat Text.nameRanges
def isRawNameChar (c : Char) : Bool := c ∈ ['.', '+', '-'] || isNameChar c

structure Name where
  /-- Whether it is marked as a name, so that it is no keyword and may hold more characters. -/
  raw : Bool := false
  text : String
  deriving DecidableEq, Repr

/-- How strings and bytes begin that might be taken for a name. -/
def quotedStarts : List String := ["b\"", "b'", "br#", "br\"", "r\"", "r#\"", "r##"]

def name? : Reader Name := fun cs =>
  if quotedStarts.any (startsWith ·.toList cs) then none
  else match cs with
  | 'r' :: '#' :: rest =>
    match rest.takeWhile isRawNameChar with
    | [] => none
    | n => some (⟨true, String.ofList n⟩, rest.dropWhile isRawNameChar)
  | c :: rest =>
    if isNameStart c then
      some (⟨false, String.ofList (c :: rest.takeWhile isNameChar)⟩, rest.dropWhile isNameChar)
    else none
  | [] => none

/-- Takes a given word that no other name character follows. -/
def expectWord (w : String) (cs : List Char) : Option (List Char) :=
  match expectAll w.toList cs with
  | some (c :: rest) => if isNameChar c then none else some (c :: rest)
  | r => r

end FrameServer.Ron
