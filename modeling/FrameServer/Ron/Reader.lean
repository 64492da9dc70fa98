import FrameServer.Ron.Number

namespace FrameServer.Ron

def comma (cs : List Char) : Option (Bool × List Char) := do
  let cs ← skipGap cs
  match expect ',' cs with
  | some cs => return (true, ← skipGap cs)
  | none => return (false, cs)

/-- Items with commas between them up to a closing bracket; a comma may follow the last one. -/
def items {α : Type} (close : Char) (item : Reader α) : (fuel : Nat) → (open? : Bool) → Reader (List α)
  | 0, _, _ => none
  | fuel + 1, open?, cs => do
    let cs ← skipGap cs
    match expect close cs with
    | some rest => return ([], rest)
    | none =>
      if !open? then none
      let (a, cs) ← item cs
      let (more, cs) ← comma cs
      let (as, cs) ← items close item fuel more cs
      return (a :: as, cs)

/-- Every item takes at least one character. -/
def itemsUpTo {α : Type} (close : Char) (item : Reader α) : Reader (List α) := fun cs =>
  items close item (cs.length + 1) true cs

def entry {α : Type} (key : Reader α) (value : Reader Value) : Reader (α × Value) := fun cs => do
  let (k, cs) ← key cs
  let cs ← expect ':' (← skipGap cs)
  let (v, cs) ← value (← skipGap cs)
  return ((k, v), cs)

def fieldName : Reader String := fun cs => (name? cs).map fun (n, rest) => (n.text, rest)

def startsWithField (cs : List Char) : Bool :=
  match (name? cs).bind fun (_, rest) => skipGap rest with
  | some rest => startsWith [':'] rest
  | none => false

def leaf : Reader Value
  | '"' :: cs => readText ('"' :: cs)
  | 'r' :: cs => readText ('r' :: cs)
  | '\'' :: cs => readChar ('\'' :: cs)
  | 'b' :: '\'' :: cs => readNumber ('b' :: '\'' :: cs)
  | 'b' :: cs => readBytes ('b' :: cs)
  | c :: cs => if c.isDigit || c ∈ ['+', '-', '.'] then readNumber (c :: cs) else none
  | [] => none

def keyword? (n : Name) : Option Value :=
  if n.raw then none
  else match n.text with
    | "true" => some (.flag true)
    | "false" => some (.flag false)
    | "None" => some .absent
    | "inf" | "inff32" | "inff64" | "NaN" | "NaNf32" | "NaNf64" => some (.number .fraction)
    | _ => none

/-- What follows an open parenthesis: fields if one comes first, else the items of a tuple. -/
def group (name : Option String) (item : Reader Value) : Reader Value := fun cs => do
  if startsWithField (← skipGap cs) then
    let (fields, rest) ← itemsUpTo ')' (entry fieldName item) cs
    return (.record name fields, rest)
  else
    let (values, rest) ← itemsUpTo ')' item cs
    return (.tuple name values, rest)

def afterQuotes (cs : List Char) : List Char :=
  let rest := ((readChar cs).map (·.2)).getD cs
  let rest := ((readText rest).map (·.2)).getD rest
  ((readBytes rest).map (·.2)).getD rest

/-- Whether a comma and another item come before the end of the parentheses, inside of which `depth`
brackets are open. -/
def hasMoreItems : (fuel depth : Nat) → List Char → Option Bool
  | 0, _, _ => none
  | fuel + 1, depth, cs => do
    match afterQuotes (← skipGap cs) with
    | [] => none
    | c :: rest =>
      if c ∈ ['(', '[', '\x7b'] then hasMoreItems fuel (depth + 1) rest
      else if c ∈ [')', ']', '\x7d'] then
        if depth = 0 then return false else hasMoreItems fuel (depth - 1) rest
      else if c = ',' && depth = 0 then return !startsWith [')'] (← skipGap rest)
      else hasMoreItems fuel depth rest

/-- What stands in parentheses that belong to a value and to the option around it, up to their end. -/
def unwrapped (value group : Reader Value) : Reader Value := fun cs => do
  if startsWith [')'] cs then return (.unit, cs)
  if startsWithField cs || (← hasMoreItems (cs.length + 1) 0 cs) then
    return (← group cs).map id (')' :: ·)
  value cs

/-- The value of an option behind `Some`, given how one is read where the parentheses are its own, and
where they belong to the option. -/
def wrapped (ext : Extensions) (own shared : Reader Value) : Reader Value := fun cs => do
  let cs ← skipGap cs
  match expect '(' cs with
  | some cs =>
    let (v, cs) ← (if ext.unwrapsOptions then shared else own) (← skipGap cs)
    let (_, cs) ← comma cs
    return (.present v, ← expect ')' cs)
  | none =>
    if ext.wrapsOptions then return (← own cs).map .present id
    none

/-- One value. It may hold others where the limit still allows that, which `inner` reads right inside it
and `item` inside the brackets of a container; `nested` is for containers one level further in. -/
def form (ext : Extensions) (inner item nested : Option (Reader Value)) : Reader Value := fun cs =>
  let whole (r : Option (Reader Value)) : Reader Value := r.getD fun _ => none
  let group' (name : Option String) : Reader Value := fun cs =>
    if inner.isSome then group name (whole item) cs else none
  match cs with
  | '(' :: ')' :: rest => some (.unit, rest)
  | _ =>
    match name? cs with
    | some (n, rest) =>
      match keyword? n with
      | some (.number n) => numberOrRange n rest
      | some v => some (v, rest)
      | none =>
        if n = ⟨false, "Some"⟩ then
          wrapped ext (whole inner)
            (unwrapped (whole inner) fun cs => if item.isSome then group none (whole nested) cs else none) rest
        else do
          let rest ← skipGap rest
          match expect '(' rest with
          | some rest => group' (some n.text) rest
          | none => return (.word n.text, rest)
    | none =>
      match cs with
      | '(' :: rest => group' none rest
      | '[' :: rest =>
        if inner.isSome then (itemsUpTo ']' (whole item) rest).map fun (vs, rest) => (.list vs, rest) else none
      | '\x7b' :: rest =>
        if inner.isSome then
          (itemsUpTo '\x7d' (entry (whole item) (whole item)) rest).map fun (es, rest) => (.table es, rest)
        else none
      | _ => leaf cs

/-- One value in which others lie; each container takes one from the limit, and each item in it another. -/
def readValue (ext : Extensions) : (limit : Nat) → Reader Value
  | 0 => form ext none none none
  | 1 => form ext (some (readValue ext 0)) none none
  | 2 => form ext (some (readValue ext 1)) (some (readValue ext 0)) none
  | limit + 3 =>
    form ext (some (readValue ext (limit + 2))) (some (readValue ext (limit + 1))) (some (readValue ext limit))

def depthLimit : Nat := 128

def extensionWords : List String :=
  ["unwrap_newtypes", "implicit_some", "unwrap_variant_newtypes", "explicit_struct_names"]

def Extensions.ofWords (ws : List String) : Extensions where
  namesRecords := ws.contains "explicit_struct_names"
  wrapsOptions := ws.contains "implicit_some"
  unwrapsOptions := ws.contains "unwrap_variant_newtypes"

def extensionNames : Nat → Reader (List String)
  | 0, _ => none
  | fuel + 1, cs => do
    let (n, cs) ← name? cs
    if n.text ∉ extensionWords then none
    let (more, cs) ← comma cs
    let goesOn := match cs with
      | c :: _ => isNameChar c
      | [] => false
    if goesOn then
      if !more then none
      let (ns, cs) ← extensionNames fuel cs
      return (n.text :: ns, cs)
    return ([n.text], cs)

def marks : List String → List Char → Option (List Char)
  | [], cs => some cs
  | m :: ms, cs => do marks ms (← skipGap (← expectAll m.toList cs))

/-- One note at the beginning of a file: what it asks for, or a text about it. -/
def note : Reader (List String) := fun cs => do
  let cs ← marks ["#", "!", "["] cs
  match marks ["enable", "("] cs with
  | some cs =>
    let (ns, cs) ← extensionNames (cs.length + 1) cs
    return (ns, ← marks [")", "]"] (← skipGap cs))
  | none =>
    let (_, cs) ← readText (← (marks ["type", "="] cs).or (marks ["schema", "="] cs))
    return ([], ← marks ["]"] (← skipGap cs))

def notes : Nat → Reader (List String)
  | 0, _ => none
  | fuel + 1, cs =>
    if startsWith ['#'] cs then do
      let (ns, cs) ← note cs
      let (more, cs) ← notes fuel (← skipGap cs)
      return (ns ++ more, cs)
    else some ([], cs)

def Document.ofChars? (cs : List Char) : Option Document := do
  let cs ← skipGap cs
  let (words, cs) ← notes (cs.length + 1) cs
  let extensions := Extensions.ofWords words
  let (value, cs) ← readValue extensions depthLimit cs
  if (← skipGap cs).isEmpty then return { extensions, value }
  none

def Document.parse? (s : String) : Option Document := Document.ofChars? s.toList

end FrameServer.Ron
