import FrameServer.Json.Basic
import FrameServer.Log.Field

namespace FrameServer.Log

inductive Level
  | off | error | warn | info | debug | trace
  deriving DecidableEq, Repr

namespace Level

def rank : Level → Nat
  | off => 0
  | error => 1
  | warn => 2
  | info => 3
  | debug => 4
  | trace => 5

def name : Level → String
  | off => "off"
  | error => "error"
  | warn => "warn"
  | info => "info"
  | debug => "debug"
  | trace => "trace"

def all : List Level := [off, error, warn, info, debug, trace]

def ofChars? (cs : List Char) : Option Level :=
  match natural? cs with
  | some n => all.find? (·.rank = n)
  | none =>
    if cs.isEmpty then some error
    else all.find? (·.name.toList = cs.map Char.toLower)

end Level

structure Directive where
  level : Level := .trace
  /-- How the targets begin that it applies to. -/
  target : Option (List Char) := none
  span : Option (List Char) := none
  fields : List FieldRule := []
  deriving DecidableEq, Repr

namespace Directive

def levelOrAll? (cs : List Char) : Option Level := if cs.isEmpty then some .trace else Level.ofChars? cs

/-- A text as it is looked at and as it is cut: what decides about a place, and what stands there. -/
abbrev Cut := List (Char × Char)

def breakBefore (stops : List Char) (ps : Cut) : List Char × Cut :=
  ((ps.takeWhile (·.1 ∉ stops)).map Prod.snd, ps.dropWhile (·.1 ∉ stops))

def afterSpan? (d : Directive) (rest : List Char) : Cut → Option Directive
  | [] => some d
  | ('=', _) :: ps => (levelOrAll? (ps.map Prod.snd ++ rest)).map ({ d with level := · })
  | _ => none

def span? (d : Directive) (rest : List Char) (ps : Cut) : Option Directive :=
  match breakBefore [']', '\x7b'] ps with
  | (name, (']', _) :: ps) => afterSpan? { d with span := some name } rest ps
  | (name, ('\x7b', _) :: ps) =>
    let d := { d with span := if name.isEmpty then none else some name }
    match breakBefore ['\x7d'] ps with
    | (field, _ :: (']', _) :: ps) =>
      if field.isEmpty then none
      else (FieldRule.read? field).bind fun f => afterSpan? { d with fields := [f] } rest ps
    | _ => none
  | _ => none

def begins (c : Char) : Bool := c ∈ ['-', ':', '_'] || Text.isLetterOrDigit c

/-- Reads one directive: a level, or a target with perhaps a span and a level. Its marks are looked for in
the text without the white space around it; its names are cut at the same places of the text as it stands. -/
def parse? (cs : List Char) : Option Directive :=
  let trimmed := Text.trim cs
  let ps := trimmed.zip cs
  let rest := cs.drop trimmed.length
  match trimmed with
  | [] => none
  | '[' :: _ => span? {} rest (ps.drop 1)
  | c :: _ =>
    if !begins c then none
    else match breakBefore ['=', '['] ps with
      | (target, ('=', _) :: level) =>
        (levelOrAll? (level.map Prod.snd ++ rest)).map fun l => { level := l, target := some target }
      | (target, _ :: ps) => span? { target := some target } rest ps
      | (_, []) =>
        match Level.ofChars? cs with
        | some l => some { level := l }
        | none => some { target := some cs }

def isNamed (d : Directive) : Bool := d.span.isSome || !d.fields.isEmpty

/-- Whether it can be decided from a record alone. -/
def isPlain (d : Directive) : Bool := d.span.isNone && d.fields.all (·.value.isNone)

def chars (d : Directive) : List Char :=
  let fields : List Char := match d.fields.map FieldRule.chars with
    | [] => []
    | f :: fs => '\x7b' :: f ++ fs.flatMap (',' :: ·) ++ ['\x7d']
  let span : List Char := if d.isNamed then '[' :: d.span.getD [] ++ fields ++ [']'] else []
  let head := d.target.getD [] ++ span
  (if d.target.isSome || d.isNamed then head ++ ['='] else []) ++ d.level.name.toList

/-- The order of specificity, then of the text: longer targets, spans, and more fields are greater. -/
def order (d e : Directive) : Ordering :=
  let size (d : Directive) : Nat := match d.target with
    | none => 0
    | some t => (String.ofList t).utf8ByteSize + 1
  (compareOfLessAndEq (size d) (size e)).then
    ((compareOfLessAndEq d.span.isSome.toNat e.span.isSome.toNat).then
      ((compareOfLessAndEq d.fields.length e.fields.length).then
        ((compareText (d.target.getD []) (e.target.getD [])).then
          ((compareText (d.span.getD []) (e.span.getD [])).then (FieldRule.compareAll d.fields e.fields)))))

/-- Puts a directive at its place, the greatest ones first, instead of one of the same place. -/
def insert (d : Directive) : List Directive → List Directive
  | [] => [d]
  | e :: es =>
    match order d e with
    | .eq => d :: es
    | .gt => d :: e :: es
    | .lt => e :: insert d es

def applies (d : Directive) (target : String) (fields : List String) : Bool :=
  (d.target.getD []).isPrefixOf target.toList && d.fields.all fun f => String.ofList f.name ∈ fields

end Directive

/-- Directives, the most specific ones first: those that a record alone decides, and those for spans. -/
structure Filter where
  plain : List Directive := []
  spans : List Directive := []
  deriving DecidableEq, Repr

namespace Filter

def ofDirectives (ds : List Directive) : Filter :=
  let (named, others) := ds.partition Directive.isNamed
  let order (ds : List Directive) := ds.foldl (fun acc d => Directive.insert d acc) []
  { plain := order (others ++ named.filter Directive.isPlain), spans := order named }

def parts : List Char → List (List Char)
  | [] => [[]]
  | c :: cs =>
    if c = ',' then [] :: parts cs
    else match parts cs with
      | [] => [[c]]
      | p :: ps => (c :: p) :: ps

def nonempty (s : String) : List (List Char) := (parts s.toList).filter (!·.isEmpty)

/-- Reads a filter all of whose directives must be readable. -/
def parse? (s : String) : Option Filter := ((nonempty s).mapM Directive.parse?).map ofDirectives

/-- Reads as many directives as can be read; without any, errors are kept. -/
def parseLenient (s : String) : Filter :=
  match (nonempty s).filterMap Directive.parse? with
  | [] => ofDirectives [{ level := .error }]
  | ds => ofDirectives ds

def render (f : Filter) : String :=
  ",".intercalate ((f.plain ++ f.spans).map fun d => String.ofList d.chars)

/-- Of the directives that apply to a record, the most specific one decides. -/
def keeps (f : Filter) (target : String) (level : Level) (fields : List String) : Bool :=
  match f.plain.find? (·.applies target fields) with
  | some d => level.rank ≤ d.level.rank
  | none => false

def fallback : String := "info"

/-- The filter of a server: that of the environment if it can be read, else the configured level. -/
def choose (environment level : Option String) : Filter :=
  match environment.bind parse? with
  | some f => f
  | none =>
    let level := String.ofList (Text.trim (level.getD "").toList)
    parseLenient (if level.isEmpty then fallback else level)

end Filter

structure Record where
  target : String
  level : Level
  message : String
  fields : List (String × Json) := []

namespace Record

/-- A record as it stands in the file, without its time. -/
def toJson (r : Record) : Json :=
  Json.ofMembers [
    ("level", .string (String.ofList (r.level.name.toList.map Char.toUpper))),
    ("target", .string r.target),
    ("fields", Json.ofMembers (("message", .string r.message) :: r.fields))]

def keptBy (r : Record) (f : Filter) : Bool := f.keeps r.target r.level ("message" :: r.fields.map Prod.fst)

end Record

inductive Place
  | folder
  | none
  | blocked
  deriving DecidableEq, Repr

/-- What the log file holds in the end, if there is one. -/
def written (wanted : Bool) (place : Place) (f : Filter) (rs : List Record) : Option (List Record) :=
  if wanted && place = .folder then some (rs.filter (·.keptBy f)) else Option.none

end FrameServer.Log
