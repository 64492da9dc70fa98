import FrameServer.Session.Hub

namespace FrameServer

namespace Work

/-- What has to happen before the first action of a script is done. -/
inductive Wait
  | send (t : Ticket)
  | broadcast (ts : List (SessionKey × Ticket))
  /-- Whether this closed the session. -/
  | closeAsync (t : Ticket) (first : Bool)
  | sleep (time : Nat)
  deriving DecidableEq, Repr

end Work

/-- A script of which one action at a time is under way. Between its actions, and while it waits for one to end,
everything else goes on. -/
structure Work where
  script : Script (Outcome (Option Bytes))
  wait : Option Work.Wait := none

namespace Work

inductive Progress
  | finished (o : Outcome (Option Bytes))
  | goesOn (h : Hub) (w : Work) (notes : List Note)
  | blocked

/-- Begins an action of session `k`: it is done at once, or has to be waited for. -/
def begin (h : Hub) (k : SessionKey) (a : Action) : Sum (a.Reply × Hub × List Note) (Hub × Wait) :=
  let alive := ((h.session? k).map (·.alive)).getD false
  match a with
  | .send m => let (t, h) := h.send k m; .inr (h, .send t)
  | .broadcast m => let (ts, h) := h.broadcast m; .inr (h, .broadcast ts)
  | .close => .inl (alive, h.move k .close, [])
  | .closeIdle => .inl (alive, h.move k .closeIdle, [])
  | .closeAsync => let (t, h) := h.request k .closeAsync; .inr (h, .closeAsync t alive)
  | .setAttribute key v => .inl ((), h.move k (.setAttribute key v), [])
  | .getAttribute key => .inl ((h.session? k).bind (·.attribute? key), h, [])
  | .sleep ms => .inr (h, .sleep (h.clock + ms))
  | .note n => .inl ((), h, [n])

/-- What an action that was waited for tells the script, once it is done. -/
def reply? (h : Hub) (k : SessionKey) (a : Action) (w : Wait) : Option a.Reply :=
  match a, w with
  | .send _, .send t => h.result? k t
  | .broadcast _, .broadcast ts =>
    let (finished, delivered) := h.tally ts
    if finished = ts.length then some delivered else none
  | .closeAsync, .closeAsync t first => (h.result? k t).map fun _ => first
  | .sleep _, .sleep t => if t ≤ h.clock then some () else none
  | _, _ => none

def step (h : Hub) (k : SessionKey) (w : Work) : Progress :=
  match w.script, w.wait with
  | .done o, _ => .finished o
  | .act a next, none =>
    match begin h k a with
    | .inl (r, h, notes) => .goesOn h ⟨next r, none⟩ notes
    | .inr (h, wait) => .goesOn h ⟨.act a next, some wait⟩ []
  | .act a next, some wait =>
    match reply? h k a wait with
    | some r => .goesOn h ⟨next r, none⟩ []
    | none => .blocked

def abandon (h : Hub) (k : SessionKey) (w : Work) : Hub :=
  match w.wait with
  | some (.send t) | some (.closeAsync t _) => (h.move k (.lane (.abandon t))).settle k
  | some (.broadcast ts) => ts.foldl (fun h (k, t) => (h.move k (.lane (.abandon t))).settle k) h
  | _ => h

end Work
end FrameServer
