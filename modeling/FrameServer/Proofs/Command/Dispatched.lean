import FrameServer.Proofs.Command.Line
import FrameServer.Proofs.Handler.Course
import FrameServer.Proofs.Middleware.Containment
import FrameServer.Proofs.Naming

namespace FrameServer.Command

open Script (Answered noted course_done course_bind course_noteCalls course_of_answers)

/-- The payload that stands for a line: the name as it was typed, and the arguments. -/
def Line.asObject (l : Line) : Json := .object [("args", .array (l.args.map .string)), ("command", .string l.name)]

theorem Line.payload_eq (l : Line) : l.payload = l.asObject := rfl

/-- Where the way of a line ends. -/
inductive Stage
  | blank
  | unknown (line : Line)
  | called (line : Line) (run : Procedure)

/-- A line is blank, or its first token selects a handler up to case, or it selects none. -/
inductive Stage.Reached (entries : List (String × Procedure)) (message : Bytes) : Stage → Prop
  | blank (blank : ∀ c ∈ (lossyText message).toList, Text.isBlank c = true) : Reached entries message .blank
  | unknown (line : Line) (tokens : Tokens (lossyText message) (line.name :: line.args))
      (absent : ∀ e ∈ entries, upperText e.1 ≠ upperText line.name) : Reached entries message (.unknown line)
  | called (line : Line) (e : String × Procedure) (tokens : Tokens (lossyText message) (line.name :: line.args))
      (found : LastWith (fun e => upperText e.1) entries (upperText line.name) e) :
      Reached entries message (.called line e.2)

/-- The calls to a chain that follow a handler, by what became of it. -/
inductive Follows (c : Chain) (payload : Json) : Outcome Unit → List Middleware.Call → Prop
  | returned {calls : List Middleware.Call} (attends : c.Attends (.afterDispatch payload) calls) :
      Follows c payload (.ok ()) calls
  | failed (f : Failure) : Follows c payload (.failed f) (c.members.map (·.call (.failure f (some payload))))
  | panicked (p : Panic) : Follows c payload (.panicked p)
      (c.members.map (·.call (.failure ⟨"handler panicked: " ++ p.message, []⟩ (some payload))))

/-- What is done at the stage where a line ends. -/
inductive Tells (c : Chain) (session : SessionId) : Stage → List Answered → Prop
  | blank : Tells c session .blank []
  | unknown (line : Line) : Tells c session (.unknown line) []
  | called (line : Line) (run : Procedure) {first last : List Middleware.Call} {own : List Answered} {o : Outcome Unit}
      (attends : c.Attends (.beforeDispatch line.asObject) first) (ran : (run session line.args).Course own o)
      (follows : Follows c line.asObject o last) :
      Tells c session (.called line run) (noted session first ++ own ++ noted session last)

namespace Dispatcher

variable {d : Dispatcher} {session : SessionId} {text : String} {line : Line} {procedure : Procedure}
  {steps : List Answered} {o : Outcome (Option Bytes)}

/-- The calls that follow a command: the hooks after it, or the report of its failure. -/
def closing (d : Dispatcher) (line : Line) (o : Outcome Unit) : List Middleware.Call :=
  match o.contain "handler" with
  | .ok () => d.chain.run (.afterDispatch line.payload)
  | .error f => d.chain.report f (some line.payload)

theorem course_closing {o : Outcome Unit} {u : Unit} :
    (match o.contain "handler" with
      | .ok () => Script.noteCalls session (d.chain.run (.afterDispatch line.payload))
      | .error f => Script.noteCalls session (d.chain.report f (some line.payload))).Course steps u ↔
      steps = noted session (d.closing line o) := by
  unfold closing
  cases o.contain "handler" with
  | ok u => exact course_noteCalls
  | error f => exact course_noteCalls

/-- A line that names a command is carried out between the calls to the chain. -/
theorem course_dispatch (parsed : Line.parse? text = some line) (found : d.commands.find? line.name = some procedure) :
    (d.dispatch session text).Course steps () ↔ ∃ own o, (procedure session line.args).Course own o ∧
      steps = noted session (d.chain.run (.beforeDispatch line.payload)) ++ own ++
        noted session (d.closing line o) := by
  unfold dispatch
  simp only [parsed, found, Script.bind_eq, course_bind]
  constructor
  · rintro ⟨first, _, _, rfl, begun, own, last, o, rfl, ran, told⟩
    refine ⟨own, o, ran, ?_⟩
    rw [course_noteCalls.mp begun, course_closing.mp told, List.append_assoc]
  · rintro ⟨own, o, ran, rfl⟩
    exact ⟨_, _, (), List.append_assoc _ _ _, course_noteCalls.mpr rfl, own, _, o, rfl, ran, course_closing.mpr rfl⟩

/-- Whatever a line does, there is no response. -/
theorem course_handler {request : Request} : (d.handler request).Course steps o ↔
    o = .ok none ∧ (d.dispatch request.session (lossyText request.message)).Course steps () := by
  unfold handler
  rw [Script.bind_eq, course_bind]
  constructor
  · rintro ⟨before, after, u, rfl, ran, last⟩
    obtain ⟨rfl, rfl⟩ := course_done.mp last
    exact ⟨rfl, by rw [List.append_nil]; exact ran⟩
  · rintro ⟨rfl, ran⟩
    exact ⟨steps, [], (), (List.append_nil _).symm, ran, .done _⟩

theorem follows_iff {o : Outcome Unit} {last : List Middleware.Call} :
    Follows d.chain line.asObject o last ↔ last = d.closing line o := by
  unfold closing
  rw [line.payload_eq]
  cases o with
  | ok u =>
    constructor
    · rintro ⟨attends⟩
      exact Chain.attends_iff.mp attends
    · intro same
      exact .returned (Chain.attends_iff.mpr same)
  | failed f =>
    constructor
    · rintro ⟨⟩
      rfl
    · rintro rfl
      exact .failed f
  | panicked p =>
    constructor
    · rintro ⟨⟩
      rfl
    · rintro rfl
      exact .panicked p

theorem course_called (parsed : Line.parse? text = some line) (found : d.commands.find? line.name = some procedure) :
    (d.dispatch session text).Course steps () ↔ Tells d.chain session (.called line procedure) steps := by
  rw [course_dispatch parsed found, line.payload_eq]
  constructor
  · rintro ⟨own, o, ran, rfl⟩
    exact .called line procedure (Chain.attends_iff.mpr rfl) ran (follows_iff.mpr rfl)
  · intro told
    cases told with
    | called _ _ attends ran follows =>
      rw [Chain.attends_iff.mp attends, follows_iff.mp follows]
      exact ⟨_, _, ran, rfl⟩

end Dispatcher

variable {entries : List (String × Procedure)} {c : Chain} {session : SessionId} {message : Bytes} {stage : Stage}
  {steps : List Answered}

/-- The stage of a line, as the dispatcher finds it. -/
def stageOf (entries : List (String × Procedure)) (message : Bytes) : Stage :=
  match Line.parse? (lossyText message) with
  | none => .blank
  | some line =>
    match (Table.ofList entries).find? line.name with
    | none => .unknown line
    | some run => .called line run

theorem stageOf_eq (reached : stage.Reached entries message) : stageOf entries message = stage := by
  unfold stageOf
  cases reached with
  | blank blank => rw [Line.parse_eq_none.mpr blank]
  | unknown line tokens absent =>
    rw [Line.parse_eq_some.mpr tokens]
    dsimp only
    rw [Table.find_ofList_none.mpr absent]
  | called line e tokens found =>
    rw [Line.parse_eq_some.mpr tokens]
    dsimp only
    rw [Table.find_ofList_some.mpr ⟨e, found, rfl⟩]

theorem reached_stageOf (entries : List (String × Procedure)) (message : Bytes) :
    (stageOf entries message).Reached entries message := by
  unfold stageOf
  split
  next parsed => exact .blank (Line.parse_eq_none.mp parsed)
  next line parsed =>
    have tokens := Line.parse_eq_some.mp parsed
    split
    next absent => exact .unknown line tokens (Table.find_ofList_none.mp absent)
    next run there =>
      obtain ⟨e, found, rfl⟩ := Table.find_ofList_some.mp there
      exact .called line e tokens found

/-- A line that selects no handler does nothing. -/
theorem tells_uncalled (uncalled : stage = .blank ∨ ∃ line, stage = .unknown line) :
    Tells c session stage steps ↔ (Script.done ()).Course steps () := by
  have done : (Script.done ()).Course steps () ↔ steps = [] := course_done.trans (and_iff_left rfl)
  rw [done]
  rcases uncalled with rfl | ⟨line, rfl⟩
  · constructor
    · rintro ⟨⟩
      rfl
    · rintro rfl
      exact .blank
  · constructor
    · rintro ⟨⟩
      rfl
    · rintro rfl
      exact .unknown line

/-- A dispatched line does what is told at the stage where it ends. -/
theorem course_stageOf : (Dispatcher.dispatch ⟨.ofList entries, c⟩ session (lossyText message)).Course steps () ↔
    Tells c session (stageOf entries message) steps := by
  unfold stageOf
  cases parsed : Line.parse? (lossyText message) with
  | none =>
    rw [tells_uncalled (.inl rfl), Dispatcher.dispatch, parsed]
    rfl
  | some line =>
    dsimp only
    cases found : (Table.ofList entries).find? line.name with
    | none =>
      rw [tells_uncalled (.inr ⟨line, rfl⟩), Dispatcher.dispatch, parsed]
      dsimp only
      rw [found]
      rfl
    | some run => exact Dispatcher.course_called (d := ⟨.ofList entries, c⟩) parsed found

/-- After a handler that returned, all members hear of the end of dispatch; after another one, none hears of a hook. -/
theorem Follows.hooks {payload : Json} {o : Outcome Unit} {calls : List Middleware.Call}
    (follows : Follows c payload o calls) :
    (o = .ok () → ∀ m ∈ c.members, m.call (.hook (.afterDispatch payload)) ∈ calls) ∧
      (o ≠ .ok () → ∀ call ∈ calls, ∀ h, call.occasion ≠ .hook h) := by
  have reported : ∀ f, ∀ call ∈ c.members.map (·.call (.failure f (some payload))), ∀ h, call.occasion ≠ .hook h := by
    intro f call hcall h
    obtain ⟨m, -, rfl⟩ := List.mem_map.mp hcall
    simp [Middleware.call]
  cases follows with
  | returned attends => exact ⟨fun _ m there => attends.mem there, fun failed => absurd rfl failed⟩
  | failed f => exact ⟨fun returned => absurd returned (by simp), fun _ => reported f⟩
  | panicked p => exact ⟨fun returned => absurd returned (by simp), fun _ => reported _⟩

/-- What becomes of a request if the handlers are registered in this order, and its line ends at `stage`. -/
structure Dispatched (entries : List (String × Procedure)) (c : Chain) (request : Request) (stage : Stage) : Prop where
  reached : stage.Reached entries request.message
  only : ∀ s : Stage, s.Reached entries request.message → s = stage
  /-- Whatever its actions are answered, the dispatcher comes to an end. -/
  ends : ∀ answer : List Answered → (a : Action) → a.Reply, ∃ steps o,
    (Dispatcher.handler ⟨.ofList entries, c⟩ request).Course steps o ∧
      ∀ before step after, steps = before ++ step :: after → step.reply = answer before step.action
  /-- It ends normally and without a response, after having done just what belongs to the stage. -/
  course : ∀ steps o, (Dispatcher.handler ⟨.ofList entries, c⟩ request).Course steps o ↔
    o = .ok none ∧ Tells c request.session stage steps
  /-- A run holds the handler's part once: what it did, what became of it and what was told then are determined. -/
  once : ∀ line run, stage = .called line run → ∀ first own own' o o' rest rest',
    (run request.session line.args).Course own o → (run request.session line.args).Course own' o' →
      first ++ own ++ rest = first ++ own' ++ rest' → own = own' ∧ o = o' ∧ rest = rest'
  /-- One of two things follows: the hook after dispatch, if the handler returned, or else the report of a failure. -/
  either : ∀ payload o calls, Follows c payload o calls →
    (o = .ok () → ∀ m ∈ c.members, m.call (.hook (.afterDispatch payload)) ∈ calls) ∧
      (o ≠ .ok () → ∀ call ∈ calls, ∀ h, call.occasion ≠ .hook h)

/-- What becomes of a command line, for all messages, tables of commands, handlers and chains. -/
theorem dispatch_contract (entries : List (String × Procedure)) (c : Chain) (request : Request) :
    ∃ stage, Dispatched entries c request stage := by
  refine ⟨stageOf entries request.message, ?_⟩
  constructor
  · exact reached_stageOf entries request.message
  · intro s reached
    exact (stageOf_eq reached).symm
  · intro answer
    exact course_of_answers _ answer
  · intro steps o
    rw [Dispatcher.course_handler, course_stageOf]
  · intro line run _ first own own' o o' rest rest' ran ran' same
    rw [List.append_assoc, List.append_assoc, List.append_cancel_left_eq] at same
    obtain ⟨rfl, rfl⟩ := ran.unique ran' same
    exact ⟨rfl, rfl, List.append_cancel_left same⟩
  · intro payload o calls follows
    exact follows.hooks

end FrameServer.Command
