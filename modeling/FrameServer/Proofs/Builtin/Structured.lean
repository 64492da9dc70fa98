import FrameServer.Proofs.Builtin.Chat
import FrameServer.Proofs.Builtin.Command
import FrameServer.Proofs.Structured.Pipeline

namespace FrameServer.Builtin

open Chat (Carries Message Reads Sound faults)
open Script (Answered)
open Structured (Reply Routed Stage Table Tells closing complaint opening)

/-- What is told of a value that is no message. -/
def misfit (mismatch : Mismatch) : Failure :=
  (mismatch.failure.within "field 'message' has the wrong shape").within
    "resolver 'field' failed for parameter 'message'"

/-- What a script for a payload does, case by case, and that there is no other case. -/
structure Answers (chain : Chain) (session : SessionId) (payload : Json) (s : Script (Outcome (Option Bytes))) :
    Prop where
  /-- A sound message goes out, and there is no reply. -/
  sound : ∀ v m, payload.get? "message" = some v → Reads v m → Sound m → ∀ steps o, s.Course steps o ↔ o = .ok none ∧
    ∃ n, steps = opening chain session payload ++ [⟨.broadcast (chatBytes m), n⟩] ++ closing chain session payload
  /-- The reply to a message that is not sound tells everything that is wrong with it. -/
  faulty : ∀ v m, payload.get? "message" = some v → Reads v m → ¬ Sound m → ∀ steps o, s.Course steps o ↔
    o = .ok (some (Reply.render ⟨"Validation failed", (faults m).map ("message: " ++ ·)⟩)) ∧
      steps = opening chain session payload
  absent : (∀ v, payload.get? "message" = some v → v = .null) → ∀ steps o, s.Course steps o ↔
    o = .ok (some (Reply.render ⟨"Validation failed", ["message: must not be null"]⟩)) ∧
      steps = opening chain session payload
  unread : ∀ v, payload.get? "message" = some v → v ≠ .null → (∀ m, ¬ Reads v m) → ∃ mismatch,
    Chat.shape.decode v = .error mismatch ∧ ∀ steps o, s.Course steps o ↔
      o = .ok (some (Reply.render ⟨"Invocation failed: " ++ (misfit mismatch).trace, []⟩)) ∧
        steps = opening chain session payload ++ complaint chain session payload (misfit mismatch)
  /-- Without a sound message nothing is sent to anyone, and there is one reply. -/
  otherwise : (∀ v m, payload.get? "message" = some v → Reads v m → ¬ Sound m) → ∃ reply : Reply, ∀ steps o,
    s.Course steps o → o = .ok (some reply.render) ∧ ∀ step ∈ steps, ∃ note, step.action = .note note

variable {chain : Chain} {middleware : List Middleware} {request : Request}
  {session : SessionId} {attribute? : String → Option Typed} {payload v : Json} {type command : String} {m : Message}
  {mismatch : Mismatch} {steps : List Answered} {reply : Option Reply} {f : Failure} {violations : List String}

theorem tells_invalid : Tells chain session (.invalid payload violations) steps reply ↔
    steps = opening chain session payload ∧ reply = some ⟨"Validation failed", violations⟩ := by
  constructor
  · intro told
    cases told
    exact ⟨rfl, rfl⟩
  · rintro ⟨rfl, rfl⟩
    exact .invalid payload violations

theorem tells_unresolved : Tells chain session (.unresolved payload f) steps reply ↔
    steps = opening chain session payload ++ complaint chain session payload f ∧
      reply = some ⟨"Invocation failed: " ++ f.trace, []⟩ := by
  constructor
  · intro told
    cases told
    exact ⟨rfl, rfl⟩
  · rintro ⟨rfl, rfl⟩
    exact .unresolved payload f

/-- What the handler is called with. -/
def arguments (session : SessionId) (m : Message) : List Argument := [.value m.typed, .session session]

theorem tells_called : Tells chain session (.called payload broadcastHandler (arguments session m)) steps reply ↔
    (∃ n, steps = opening chain session payload ++ [⟨.broadcast (chatBytes m), n⟩] ++ closing chain session payload) ∧
      reply = none := by
  have runs : broadcastHandler.run ⟨arguments session m⟩ = broadcasting (chatBytes m) := rfl
  constructor
  · intro told
    cases told with
    | carriedOut _ _ _ own ran =>
      rw [runs] at ran
      obtain ⟨-, n, rfl⟩ := course_broadcasting.mp ran
      exact ⟨⟨n, rfl⟩, rfl⟩
    | failed _ _ _ own o f ran failure =>
      rw [runs] at ran
      obtain ⟨rfl, -⟩ := course_broadcasting.mp ran
      cases failure
  · rintro ⟨⟨n, rfl⟩, rfl⟩
    exact .carriedOut _ _ _ _ (course_broadcasting.mpr ⟨rfl, n, rfl⟩)

def messageParam : Param := ((Param.field "message" Chat.shape).needed).checked Chat.check

section Resolve

variable {ctx : Resolver.Context} {t : Typed}

theorem resolve_message : Resolvers.builtin.resolve ctx messageParam =
    match Resolver.field.resolve messageParam ctx with
    | .failed f => .failed (f.within "resolver 'field' failed for parameter 'message'")
    | o => o := rfl

theorem resolve_field : Resolver.field.resolve messageParam ctx =
    match ctx.payload.get? "message" with
    | none | some .null => .ok .absent
    | some v => Resolver.converted messageParam v "field 'message' has the wrong shape" := rfl

theorem field_of_some (there : ctx.payload.get? "message" = some v) (present : v ≠ .null) :
    Resolver.field.resolve messageParam ctx =
      match Chat.shape.decode v with
      | .ok t => .ok (.value t)
      | .error e => .failed (e.failure.within "field 'message' has the wrong shape") := by
  rw [resolve_field, there]
  cases v with
  | null => exact absurd rfl present
  | _ => rfl

theorem resolve_absent (absent : ∀ v, ctx.payload.get? "message" = some v → v = .null) :
    Resolvers.builtin.resolve ctx messageParam = .ok .absent := by
  have nothing : Resolver.field.resolve messageParam ctx = .ok .absent := by
    rw [resolve_field]
    cases there : ctx.payload.get? "message" with
    | none => rfl
    | some v =>
      obtain rfl := absent v there
      rfl
  rw [resolve_message, nothing]

theorem resolve_read (there : ctx.payload.get? "message" = some v) (reads : Reads v m) :
    Resolvers.builtin.resolve ctx messageParam = .ok (.value m.typed) := by
  have present : v ≠ .null := by
    rintro rfl
    cases reads
  rw [resolve_message, field_of_some there present, Chat.decode_iff.mpr ⟨m, reads, rfl⟩]

theorem resolve_unread (there : ctx.payload.get? "message" = some v) (present : v ≠ .null)
    (error : Chat.shape.decode v = .error mismatch) :
    Resolvers.builtin.resolve ctx messageParam = .failed (misfit mismatch) := by
  rw [resolve_message, field_of_some there present, error]
  rfl

end Resolve

theorem violations_absent : Param.allViolations broadcastHandler.params [.absent, .session session] =
    ["message: must not be null"] := rfl

theorem violations_arguments : Param.allViolations broadcastHandler.params (arguments session m) =
    (faults m).map ("message: " ++ ·) := by
  show ((Chat.check.violations m.typed.datum).map fun e => "message" ++ ": " ++ e) ++ [] = _
  rw [List.append_nil, Chat.check_violations]
  rfl

/-- A request is answered as its stage tells, which tells one thing only. -/
theorem course_of_reached {s : Stage} {o : Outcome (Option Bytes)} {p : List Answered → Prop}
    (reached : s.Reached (structuredDispatcher middleware) [pingHandler, broadcastHandler] request.session
      request.attribute? request.message)
    (told : ∀ steps r, Tells (.ofList middleware) request.session s steps r ↔ p steps ∧ r = reply) :
    ((structuredDispatcher middleware).handler request).Course steps o ↔
      o = .ok (reply.map Reply.render) ∧ p steps := by
  have course : ((structuredDispatcher middleware).handler request).Course steps o ↔
      ∃ r, o = .ok (r.map Reply.render) ∧ Tells (.ofList middleware) request.session
        ((structuredDispatcher middleware).stage request.session request.attribute? request.message) steps r :=
    Structured.Dispatcher.course_handler
  have stage : (structuredDispatcher middleware).stage request.session request.attribute? request.message = s :=
    Structured.Dispatcher.stage_of_reached reached
  rw [course, stage]
  constructor
  · rintro ⟨r, rfl, tells⟩
    obtain ⟨steps, rfl⟩ := (told _ _).mp tells
    exact ⟨rfl, steps⟩
  · rintro ⟨rfl, steps⟩
    exact ⟨reply, rfl, (told _ _).mpr ⟨steps, rfl⟩⟩

theorem last_broadcast (keyed : Structured.key type command = broadcastHandler.key) :
    LastWith Structured.Descriptor.key [pingHandler, broadcastHandler] (Structured.key type command) broadcastHandler := by
  refine ⟨keyed.symm, [pingHandler], [], rfl, fun d hd => ?_⟩
  cases hd

/-- The parameters resolve if the first one does. -/
theorem resolves_params {a : Argument}
    (first : Resolvers.builtin.resolve ⟨payload, session, attribute?⟩ messageParam = .ok a) :
    Resolvers.builtin.Resolves ⟨payload, session, attribute?⟩ broadcastHandler.params [a, .session session] :=
  .cons first (.cons rfl .nil)

section Course

variable {o : Outcome (Option Bytes)} (routed : Routed request.message payload type command)
  (keyed : Structured.key type command = broadcastHandler.key)
include routed keyed

theorem course_sound (there : payload.get? "message" = some v) (reads : Reads v m) (sound : Sound m) :
    ((structuredDispatcher middleware).handler request).Course steps o ↔ o = .ok none ∧ ∃ n, steps =
      opening (.ofList middleware) request.session payload ++ [⟨.broadcast (chatBytes m), n⟩] ++
        closing (.ofList middleware) request.session payload := by
  have resolves : Resolvers.builtin.Resolves ⟨payload, request.session, request.attribute?⟩ broadcastHandler.params
      (arguments request.session m) := resolves_params (resolve_read there reads)
  refine course_of_reached (.called payload type command _ _ routed (last_broadcast keyed) resolves ?_)
    fun _ _ => tells_called
  refine violations_arguments.trans ?_
  rw [Chat.faults_eq_nil.mpr sound, List.map_nil]

/-- What is wrong with the arguments is all that is replied. -/
theorem course_invalid {args : List Argument}
    (resolves : Resolvers.builtin.Resolves ⟨payload, request.session, request.attribute?⟩ broadcastHandler.params args)
    (reports : Param.allViolations broadcastHandler.params args = violations) (faulty : violations ≠ []) :
    ((structuredDispatcher middleware).handler request).Course steps o ↔
      o = .ok (some (Reply.render ⟨"Validation failed", violations⟩)) ∧
        steps = opening (.ofList middleware) request.session payload := by
  subst reports
  exact course_of_reached (.invalid payload type command _ _ routed (last_broadcast keyed) resolves faulty)
    fun _ _ => tells_invalid

theorem course_faulty (there : payload.get? "message" = some v) (reads : Reads v m) (faulty : ¬ Sound m) :
    ((structuredDispatcher middleware).handler request).Course steps o ↔
      o = .ok (some (Reply.render ⟨"Validation failed", (faults m).map ("message: " ++ ·)⟩)) ∧
        steps = opening (.ofList middleware) request.session payload := by
  refine course_invalid routed keyed (resolves_params (resolve_read there reads)) violations_arguments ?_
  rw [ne_eq, List.map_eq_nil_iff, Chat.faults_eq_nil]
  exact faulty

theorem course_absent (absent : ∀ v, payload.get? "message" = some v → v = .null) :
    ((structuredDispatcher middleware).handler request).Course steps o ↔
      o = .ok (some (Reply.render ⟨"Validation failed", ["message: must not be null"]⟩)) ∧
        steps = opening (.ofList middleware) request.session payload :=
  course_invalid routed keyed (resolves_params (resolve_absent absent)) violations_absent (List.cons_ne_nil _ _)

theorem course_unread (there : payload.get? "message" = some v) (present : v ≠ .null)
    (error : Chat.shape.decode v = .error mismatch) :
    ((structuredDispatcher middleware).handler request).Course steps o ↔
      o = .ok (some (Reply.render ⟨"Invocation failed: " ++ (misfit mismatch).trace, []⟩)) ∧
        steps = opening (.ofList middleware) request.session payload ++
          complaint (.ofList middleware) request.session payload (misfit mismatch) := by
  refine course_of_reached (.unresolved payload type command _ _ routed (last_broadcast keyed) ?_)
    fun _ _ => tells_unresolved
  refine ⟨[], messageParam, [.session], rfl, fun q hq => ?_, ?_⟩
  · cases hq
  · exact congrArg (Outcome.contain "resolver") (resolve_unread there present error)

end Course

theorem note_of_noted {calls : List Middleware.Call} :
    ∀ step ∈ Script.noted session calls, ∃ note, step.action = .note note := by
  intro step there
  obtain ⟨c, -, rfl⟩ := List.mem_map.mp there
  exact ⟨_, rfl⟩

/-- The structured `BROADCAST` sends a sound message to every registered session, as one line that gives it again. In
all other cases it sends nothing, and there is one reply. -/
theorem structured_broadcasts (routed : Routed request.message payload type command)
    (keyed : Structured.key type command = broadcastHandler.key) :
    Answers (.ofList middleware) request.session payload ((structuredDispatcher middleware).handler request) ∧
      ∀ m, Carries (chatBytes m) m ∧
        ∀ (f : Framing) (h : Hub), f.kind = .line → h.Orderly f → h.SpreadsLine f (chatBytes m) := by
  have quiet {r : Reply} {done : List Answered} (notes : ∀ step ∈ done, ∃ note, step.action = .note note)
      (course : ∀ steps o, ((structuredDispatcher middleware).handler request).Course steps o ↔
        o = .ok (some r.render) ∧ steps = done) :
      ∃ reply : Reply, ∀ steps o, ((structuredDispatcher middleware).handler request).Course steps o →
        o = .ok (some reply.render) ∧ ∀ step ∈ steps, ∃ note, step.action = .note note := by
    refine ⟨r, fun steps o ran => ?_⟩
    obtain ⟨rfl, rfl⟩ := (course steps o).mp ran
    exact ⟨rfl, notes⟩
  refine ⟨⟨?_, ?_, ?_, ?_, ?_⟩, fun m => ⟨Chat.carries_chatBytes m, fun f h lines orderly => ?_⟩⟩
  · intro v m there reads sound steps o
    exact course_sound routed keyed there reads sound
  · intro v m there reads faulty steps o
    exact course_faulty routed keyed there reads faulty
  · intro absent steps o
    exact course_absent routed keyed absent
  · intro v there present none
    obtain ⟨mismatch, error⟩ := Chat.decode_unread none
    exact ⟨mismatch, error, fun steps o => course_unread routed keyed there present error⟩
  · intro unsound
    by_cases absent : ∀ v, payload.get? "message" = some v → v = .null
    · exact quiet note_of_noted fun _ _ => course_absent routed keyed absent
    · obtain ⟨v, there, present⟩ : ∃ v, payload.get? "message" = some v ∧ v ≠ .null := by simpa using absent
      by_cases read : ∃ m, Reads v m
      · obtain ⟨m, reads⟩ := read
        exact quiet note_of_noted fun _ _ => course_faulty routed keyed there reads (unsound v m there reads)
      · obtain ⟨mismatch, error⟩ := Chat.decode_unread (not_exists.mp read)
        refine quiet (fun step hs => ?_) fun _ _ => course_unread routed keyed there present error
        rcases List.mem_append.mp hs with first | second
        · exact note_of_noted step first
        · exact note_of_noted step second
  · have whole := Chat.carries_chatBytes m
    exact orderly.spreads_line lines whole.unsplit whole.kept

def structuredServer : Application where
  framing := ⟨.line, 64⟩
  handler := (structuredDispatcher []).handler
  chain := .ofList []

/-- Only the content of the message is given, and a line ends in it. -/
def remark : Request where
  session := "a"
  message := textBytes
    "\x7b\"type\":\"Command\",\"command\":\"broadcast\",\"message\":\x7b\"content\":\"\\\"one\\\"\\ntwo\"\x7d\x7d"

def remarked : Message := { content := "\"one\"\ntwo" }

/-- The texts that route a payload, and its message. -/
def outline (payload : Json) : Option (String × String × Message) := do
  let type ← (← payload.get? "type").text?
  let command ← (← payload.get? "command").text?
  let typed ← (Chat.shape.decode (← payload.get? "message")).toOption
  return (type, command, ← Message.ofDatum? typed.datum)

theorem of_outline (seen : outline payload = some (type, command, m)) :
    payload.get? "type" = some (.string type) ∧ payload.get? "command" = some (.string command) ∧
      ∃ v, payload.get? "message" = some v ∧ Reads v m := by
  simp only [outline, Option.bind_eq_bind, Option.bind_eq_some_iff, Option.pure_def, Option.some.injEq,
    Prod.mk.injEq] at seen
  obtain ⟨j, htype, type, ht, k, hcommand, command, hc, v, there, t, decoded, m, same, rfl, rfl, rfl⟩ := seen
  obtain rfl := Json.text?_eq_some.mp ht
  obtain rfl := Json.text?_eq_some.mp hc
  cases read : Chat.shape.decode v with
  | error mismatch =>
    rw [read] at decoded
    cases decoded
  | ok t' =>
    rw [read] at decoded
    obtain rfl := Option.some.inj decoded
    obtain ⟨m', reads, rfl⟩ := Chat.decode_iff.mp read
    obtain rfl := Option.some.inj same
    exact ⟨htype, hcommand, v, there, reads⟩

theorem structured_broadcasts_remark : ∃ t payload v, Server.play structuredServer {} joining = some t ∧
    t.hub.registry.keys = [0, 1] ∧ Routed remark.message payload "Command" "broadcast" ∧
    Structured.key "Command" "broadcast" = broadcastHandler.key ∧ payload.get? "message" = some v ∧
    Reads v remarked ∧ (∀ steps o, ((structuredDispatcher []).handler remark).Course steps o ↔
      o = .ok none ∧ ∃ n, steps = [⟨.broadcast (chatBytes remarked), n⟩]) ∧
    Carries (chatBytes remarked) remarked ∧ t.hub.SpreadsLine ⟨.line, 64⟩ (chatBytes remarked) := by
  have keys : (Server.play structuredServer {} joining).map (·.hub.registry.keys) = some [0, 1] := by decide +kernel
  obtain ⟨t, run, keys⟩ := Option.map_eq_some_iff.mp keys
  have seen : (Json.parse remark.message).toOption.bind outline = some ("Command", "broadcast", remarked) := by
    decide +kernel
  obtain ⟨payload, parsed, seen⟩ := Option.bind_eq_some_iff.mp seen
  obtain ⟨htype, hcommand, v, there, reads⟩ := of_outline seen
  have object : ∃ members, payload = .object members := by
    cases payload with
    | object members => exact ⟨members, rfl⟩
    | _ => cases htype
  have text : Json.parse remark.message = .ok payload := by
    cases result : Json.parse remark.message with
    | error e =>
      rw [result] at parsed
      cases parsed
    | ok p =>
      rw [result] at parsed
      rw [Option.some.inj parsed]
  have routed : Routed remark.message payload "Command" "broadcast" :=
    ⟨text, object, .text _ htype, .text _ hcommand⟩
  have keyed : Structured.key "Command" "broadcast" = broadcastHandler.key :=
    Prod.ext (by decide +kernel) (by decide +kernel)
  have sound : Sound remarked := ⟨⟨'o', by decide +kernel, by decide +kernel⟩, by decide +kernel⟩
  obtain ⟨answers, spreads⟩ := @structured_broadcasts [] remark _ _ _ routed keyed
  obtain ⟨carries, spreads⟩ := spreads remarked
  refine ⟨t, payload, v, run, keys, routed, keyed, there, reads, fun steps o => ?_, carries,
    spreads _ _ rfl (Server.orderly_of_play run)⟩
  exact answers.sound v remarked there reads sound steps o

end FrameServer.Builtin
