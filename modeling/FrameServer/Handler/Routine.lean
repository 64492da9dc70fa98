import FrameServer.Handler.Script

namespace FrameServer.Routine

/-- A step of a handler that is written as a list of them. An error or a panic ends the list. -/
inductive Step
  | send (m : Bytes)
  | sendArgs
  | broadcast (m : Bytes)
  | close | closeIdle | closeAsync
  | count
  | sleep (ms : Nat)
  /-- Sets the response; the last one counts. -/
  | respond (m : Bytes)
  | fail (f : Failure)
  | panic (p : Panic)

def countShape : Shape := .plain (.unsigned 64)

def countOf : Option Typed → Nat
  | some ⟨shape, .plain (.int i)⟩ => if shape = countShape then i.toNat else 0
  | _ => 0

def noSession : Failure := ⟨"no session", []⟩

def Step.needsSession : Step → Bool
  | sleep _ | respond _ | fail _ | panic _ => false
  | _ => true

/-- The steps as a script that acts on `session`; `response` is what was set so far. -/
def script (session : Option SessionId) (args : List String) (response : Option Bytes) :
    List Step → Script (Outcome (Option Bytes))
  | [] => .done (.ok response)
  | s :: rest =>
    let go := script session args response rest
    if s.needsSession && session.isNone then .done (.failed noSession)
    else match s with
    | .send m => .act (.send m) fun
      | .ok () => go
      | .error e => .done (.failed e.failure)
    | .sendArgs => .act (.send (textBytes (" ".intercalate args))) fun
      | .ok () => go
      | .error e => .done (.failed e.failure)
    | .broadcast m => .act (.broadcast m) fun n => .act (.note ⟨session, .delivered n⟩) fun _ => go
    | .close => .act .close fun b => .act (.note ⟨session, .closed b⟩) fun _ => go
    | .closeIdle => .act .closeIdle fun b => .act (.note ⟨session, .closedIdle b⟩) fun _ => go
    | .closeAsync => .act .closeAsync fun b => .act (.note ⟨session, .closedAsync b⟩) fun _ => go
    | .count => .act (.getAttribute "count") fun v =>
      let n := countOf v + 1
      .act (.setAttribute "count" ⟨countShape, .plain (.int n)⟩) fun _ =>
      .act (.note ⟨session, .counted n⟩) fun _ => go
    | .sleep ms => .act (.sleep ms) fun _ => go
    | .respond m => script session args (some m) rest
    | .fail f => .done (.failed f)
    | .panic p => .done (.panicked p)

/-- A handler that looks up its steps by the text of the message, and echoes a text it does not know. -/
def handler (steps? : String → Option (List Step)) : Handler := fun r => do
  Script.note (some r.session) (.message r.message)
  let text := lossyText r.message
  match steps? text with
  | none => return .ok (some (textBytes ("echo " ++ text)))
  | some steps =>
    match ← script (some r.session) [] none steps with
    | .failed f =>
      Script.note (some r.session) (.failed f)
      return .ok none
    | o => return o

end FrameServer.Routine
