import FrameServer.Param.Basic

namespace FrameServer

structure Resolver.Context where
  payload : Json
  session : SessionId
  attribute? : String → Option Typed := fun _ => none

structure Resolver where
  name : String
  supports : Param → Bool
  resolve : Param → Resolver.Context → Outcome Argument

namespace Resolver

def session : Resolver where
  name := "session"
  supports p := p.kind = .session
  resolve _ ctx := .ok (.session ctx.session)

def sessionId : Resolver where
  name := "session_id"
  supports p := p.kind = .sessionId
  resolve _ ctx := .ok (.sessionId ctx.session)

def converted (p : Param) (j : Json) (context : String) : Outcome Argument :=
  match p.convert j with
  | .ok v => .ok (.value v)
  | .error m => .failed (m.failure.within context)

/-- Gives a field of the payload; a missing field and `null` are absent. -/
def field : Resolver where
  name := "field"
  supports p := match p.kind with | .field _ => true | _ => false
  resolve p ctx :=
    match p.kind with
    | .field key =>
      match ctx.payload.get? key with
      | none | some .null => .ok .absent
      | some v => converted p v s!"field '{key}' has the wrong shape"
    | _ => .ok .absent

def body : Resolver where
  name := "body"
  supports p := p.kind = .body
  resolve p ctx := converted p ctx.payload "payload does not match the handler's body type"

end Resolver

/-- Resolvers are asked in order, and the first one that supports a parameter is taken; their names are distinct. -/
structure Resolvers where
  list : List Resolver := []

namespace Resolvers

def builtin : Resolvers := ⟨[.session, .field, .body, .sessionId]⟩

def names (rs : Resolvers) : List String := rs.list.map (·.name)

/-- Adds a resolver at the end, unless its name is taken. -/
def register (rs : Resolvers) (r : Resolver) : Bool × Resolvers :=
  if rs.names.contains r.name then (false, rs) else (true, ⟨rs.list ++ [r]⟩)

def registerAll (rs : Resolvers) : List Resolver → List Bool × Resolvers
  | [] => ([], rs)
  | r :: more =>
    let (added, rs) := rs.register r
    let (rest, rs) := rs.registerAll more
    (added :: rest, rs)

def resolve (rs : Resolvers) (ctx : Resolver.Context) (p : Param) : Outcome Argument :=
  match rs.list.find? (·.supports p) with
  | none => .ok .absent
  | some r =>
    match r.resolve p ctx with
    | .failed f => .failed (f.within s!"resolver '{r.name}' failed for parameter '{p.name}'")
    | o => o

/-- The arguments of a parameter list; the first parameter that fails ends it. -/
def resolveAll (rs : Resolvers) (ctx : Resolver.Context) : List Param → Outcome (List Argument)
  | [] => .ok []
  | p :: ps =>
    match rs.resolve ctx p with
    | .failed f => .failed f
    | .panicked c => .panicked c
    | .ok a => (rs.resolveAll ctx ps).map (a :: ·)

end Resolvers
end FrameServer

namespace FrameServer.Resolver

inductive Claim
  | any | session | sessionId | body | anyField
  | custom (tag : String)
  deriving DecidableEq, Repr

def Claim.covers (c : Claim) (p : Param) : Bool :=
  match c, p.kind with
  | any, _ => true
  | session, .session => true
  | sessionId, .sessionId => true
  | body, .body => true
  | anyField, .field _ => true
  | custom tag, .custom t => tag = t
  | _, _ => false

inductive Source
  | failing (f : Failure)
  | panicking (p : Panic)
  /-- A text attribute of the session; without it, nothing. -/
  | textAttribute (key : String)
  | payload
  | session
  | sessionId
  | value (v : Typed)
  | absent

def Source.give (s : Source) (p : Param) (ctx : Context) : Outcome Argument :=
  match s with
  | failing f => .failed f
  | panicking c => .panicked c
  | textAttribute key =>
    match ctx.attribute? key with
    | some v => if v.shape = .text then .ok (.value v) else .ok .absent
    | none => .ok .absent
  | payload =>
    match p.convert ctx.payload with
    | .ok v => .ok (.value v)
    | .error m => .failed m.failure
  | session => .ok (.session ctx.session)
  | sessionId => .ok (.sessionId ctx.session)
  | value v => .ok (.value v)
  | absent => .ok .absent

def chosen (name : String) (claim : Claim) (source : Source) : Resolver where
  name
  supports := claim.covers
  resolve := source.give

end FrameServer.Resolver
