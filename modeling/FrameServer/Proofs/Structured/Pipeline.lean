import FrameServer.Proofs.Handler.Course
import FrameServer.Proofs.Naming
import FrameServer.Proofs.Param.Resolution
import FrameServer.Structured

namespace FrameServer.Structured

open Script (Answered Course noted course_done course_bind course_noteCalls_bind course_noteCalls_done)

/-- A key that names `t`: as a text, or as another value than `null` with the JSON text `t`. -/
inductive Names (payload : Json) (key : String) : String → Prop
  | text (s : String) (value : payload.get? key = some (.string s)) : Names payload key s
  | other (v : Json) (value : payload.get? key = some v) (present : v ≠ .null) (noText : ∀ s, v ≠ .string s) :
      Names payload key v.render

theorem names_iff {payload : Json} {key t : String} : Names payload key t ↔ routingKey? payload key = some t := by
  constructor
  · intro h
    cases h with
    | text s value => simp [routingKey?, value]
    | other v value present noText =>
      cases v with
      | null => exact absurd rfl present
      | string s => exact absurd rfl (noText s)
      | _ => simp [routingKey?, value]
  · intro h
    unfold routingKey? at h
    split at h
    · cases h
    · cases h
    next s value =>
      obtain rfl := Option.some.inj h
      exact .text s value
    next v present noText value =>
      obtain rfl := Option.some.inj h
      exact .other v value present noText

theorem names_none {payload : Json} {key : String} : (∀ t, ¬ Names payload key t) ↔ routingKey? payload key = none := by
  simp only [names_iff, Option.eq_none_iff_forall_ne_some, ne_eq]

/-- A message that is a JSON object and names a type and a command. -/
structure Routed (message : Bytes) (payload : Json) (type command : String) : Prop where
  text : Json.parse message = .ok payload
  object : ∃ members, payload = .object members
  type : Names payload "type" type
  command : Names payload "command" command

/-- Where the way of a message ends. -/
inductive Stage
  | malformed (reason : String)
  | untyped
  | uncommanded
  | unknown (payload : Json) (command : String)
  | unresolved (payload : Json) (f : Failure)
  | invalid (payload : Json) (violations : List String)
  | called (payload : Json) (h : Descriptor) (args : List Argument)

/-- A message ends at the first stage that it does not pass; the last one calls the handler. -/
inductive Stage.Reached (d : Dispatcher) (hs : List Descriptor) (session : SessionId)
    (attribute? : String → Option Typed) (message : Bytes) : Stage → Prop
  | unparsed (e : Json.SyntaxError) (text : Json.parse message = .error e) :
      Reached d hs session attribute? message (.malformed e.message)
  | plain (v : Json) (text : Json.parse message = .ok v) (noObject : ∀ members, v ≠ .object members) :
      Reached d hs session attribute? message (.malformed "expected a JSON object")
  | untyped (members : List (String × Json)) (text : Json.parse message = .ok (.object members))
      (type : ∀ t, ¬ Names (.object members) "type" t) : Reached d hs session attribute? message .untyped
  | uncommanded (members : List (String × Json)) (t : String) (text : Json.parse message = .ok (.object members))
      (type : Names (.object members) "type" t) (command : ∀ c, ¬ Names (.object members) "command" c) :
      Reached d hs session attribute? message .uncommanded
  | unknown (payload : Json) (t c : String) (routed : Routed message payload t c)
      (absent : ∀ h ∈ hs, h.key ≠ key t c) : Reached d hs session attribute? message (.unknown payload c)
  | unresolved (payload : Json) (t c : String) (h : Descriptor) (f : Failure) (routed : Routed message payload t c)
      (found : LastWith Descriptor.key hs (key t c) h)
      (fails : d.resolvers.Fails ⟨payload, session, attribute?⟩ h.params f) :
      Reached d hs session attribute? message (.unresolved payload f)
  | invalid (payload : Json) (t c : String) (h : Descriptor) (args : List Argument)
      (routed : Routed message payload t c) (found : LastWith Descriptor.key hs (key t c) h)
      (resolves : d.resolvers.Resolves ⟨payload, session, attribute?⟩ h.params args)
      (faulty : d.validate h.params args ≠ []) :
      Reached d hs session attribute? message (.invalid payload (d.validate h.params args))
  | called (payload : Json) (t c : String) (h : Descriptor) (args : List Argument)
      (routed : Routed message payload t c) (found : LastWith Descriptor.key hs (key t c) h)
      (resolves : d.resolvers.Resolves ⟨payload, session, attribute?⟩ h.params args)
      (sound : d.validate h.params args = []) : Reached d hs session attribute? message (.called payload h args)

section Tells

variable (c : Chain) (session : SessionId)

/-- What is written down before a handler's arguments are resolved. -/
def opening (payload : Json) : List Answered := noted session (c.run (.beforeDispatch payload))

/-- What is written down of a handler that was carried out. -/
def closing (payload : Json) : List Answered := noted session (c.run (.afterDispatch payload))

/-- What is written down of a failure: all members of the chain are told of it. -/
def complaint (payload : Json) (f : Failure) : List Answered := noted session (c.report f (some payload))

/-- What is done and replied at the stage where a message ends. -/
inductive Tells : Stage → List Answered → Option Reply → Prop
  | malformed (reason : String) : Tells (.malformed reason) [] (some ⟨"Malformed payload: " ++ reason, []⟩)
  | untyped : Tells .untyped [] (some ⟨"Missing 'type' field", []⟩)
  | uncommanded : Tells .uncommanded [] (some ⟨"Missing 'command' field", []⟩)
  | unknown (payload : Json) (command : String) :
      Tells (.unknown payload command) (complaint c session payload ⟨"No handler found for command: " ++ command, []⟩)
        (some ⟨"No handler found for command: " ++ command, []⟩)
  | unresolved (payload : Json) (f : Failure) :
      Tells (.unresolved payload f) (opening c session payload ++ complaint c session payload f)
        (some ⟨"Invocation failed: " ++ f.trace, []⟩)
  | invalid (payload : Json) (violations : List String) :
      Tells (.invalid payload violations) (opening c session payload) (some ⟨"Validation failed", violations⟩)
  | carriedOut (payload : Json) (h : Descriptor) (args : List Argument) (own : List Answered)
      (ran : (h.run ⟨args⟩).Course own (.ok ())) :
      Tells (.called payload h args) (opening c session payload ++ own ++ closing c session payload) none
  | failed (payload : Json) (h : Descriptor) (args : List Argument) (own : List Answered) (o : Outcome Unit)
      (f : Failure) (ran : (h.run ⟨args⟩).Course own o) (failure : o.contain "handler" = .error f) :
      Tells (.called payload h args) (opening c session payload ++ own ++ complaint c session payload f)
        (some ⟨"Invocation failed: " ++ f.trace, []⟩)

end Tells

namespace Dispatcher

variable (d : Dispatcher) (session : SessionId) (attribute? : String → Option Typed)

/-- The dispatcher with these handlers, registered in this order. -/
def serving (hs : List Descriptor) : Dispatcher := { d with handlers := .ofList hs }

/-- The stage at which a request ends whose handler was found. -/
def gate (payload : Json) (h : Descriptor) : Stage :=
  match (d.resolvers.resolveAll ⟨payload, session, attribute?⟩ h.params).contain "resolver" with
  | .error f => .unresolved payload f
  | .ok args =>
    match d.validate h.params args with
    | [] => .called payload h args
    | violations => .invalid payload violations

def stage (message : Bytes) : Stage :=
  match Json.parse message with
  | .error e => .malformed e.message
  | .ok (.object members) =>
    match routingKey? (.object members) "type", routingKey? (.object members) "command" with
    | none, _ => .untyped
    | some _, none => .uncommanded
    | some type, some command =>
      match d.handlers.find? type command with
      | none => .unknown (.object members) command
      | some h => d.gate session attribute? (.object members) h
  | .ok _ => .malformed "expected a JSON object"

variable {d session attribute?} {hs : List Descriptor} {message : Bytes} {payload : Json} {h : Descriptor}
  {s : Stage} {steps : List Answered} {reply : Option Reply} {type command : String}

theorem stage_routed (routed : Routed message payload type command) : d.stage session attribute? message =
    match d.handlers.find? type command with
    | none => .unknown payload command
    | some h => d.gate session attribute? payload h := by
  obtain ⟨text, ⟨members, rfl⟩, htype, hcommand⟩ := routed
  simp only [stage, text, names_iff.mp htype, names_iff.mp hcommand]

theorem stage_of_reached (h : s.Reached d hs session attribute? message) :
    (d.serving hs).stage session attribute? message = s := by
  cases h with
  | unparsed e text => simp only [stage, text]
  | plain v text noObject =>
    cases v with
    | object members => exact absurd rfl (noObject members)
    | _ => simp only [stage, text]
  | untyped members text type => simp only [stage, text, names_none.mp type]
  | uncommanded members t text type command => simp only [stage, text, names_iff.mp type, names_none.mp command]
  | unknown payload t c routed absent =>
    rw [stage_routed routed, serving, Table.find_ofList_none.mpr absent]
  | unresolved payload t c h f routed found fails =>
    rw [stage_routed routed, serving, Table.find_ofList_some.mpr found]
    simp only [gate, Resolvers.contain_resolveAll_error.mpr fails]
  | invalid payload t c h args routed found resolves faulty =>
    rw [stage_routed routed, serving, Table.find_ofList_some.mpr found]
    simp only [gate, Resolvers.contain_resolveAll_ok.mpr resolves]
  | called payload t c h args routed found resolves sound =>
    rw [stage_routed routed, serving, Table.find_ofList_some.mpr found]
    simp only [gate, Resolvers.contain_resolveAll_ok.mpr resolves, sound]

theorem gate_reached (routed : Routed message payload type command)
    (found : LastWith Descriptor.key hs (key type command) h) :
    (d.gate session attribute? payload h).Reached d hs session attribute? message := by
  unfold gate
  cases hr : (d.resolvers.resolveAll ⟨payload, session, attribute?⟩ h.params).contain "resolver" with
  | error f => exact .unresolved payload type command h f routed found (Resolvers.contain_resolveAll_error.mp hr)
  | ok args =>
    have resolves := Resolvers.contain_resolveAll_ok.mp hr
    dsimp only
    split
    next sound => exact .called payload type command h args routed found resolves sound
    next faulty => exact .invalid payload type command h args routed found resolves faulty

theorem stage_reached (d : Dispatcher) (hs : List Descriptor) (session : SessionId)
    (attribute? : String → Option Typed) (message : Bytes) :
    ((d.serving hs).stage session attribute? message).Reached d hs session attribute? message := by
  cases hp : Json.parse message with
  | error e =>
    simp only [stage, hp]
    exact .unparsed e hp
  | ok v =>
    cases v with
    | object members =>
      cases ht : routingKey? (.object members) "type" with
      | none =>
        simp only [stage, hp, ht]
        exact .untyped members hp (names_none.mpr ht)
      | some type =>
        cases hc : routingKey? (.object members) "command" with
        | none =>
          simp only [stage, hp, ht, hc]
          exact .uncommanded members type hp (names_iff.mpr ht) (names_none.mpr hc)
        | some command =>
          have routed : Routed message (.object members) type command :=
            ⟨hp, ⟨members, rfl⟩, names_iff.mpr ht, names_iff.mpr hc⟩
          rw [stage_routed routed, serving]
          cases hf : (Table.ofList hs).find? type command with
          | none => exact .unknown (.object members) type command routed (Table.find_ofList_none.mp hf)
          | some h => exact gate_reached routed (Table.find_ofList_some.mp hf)
    | _ =>
      simp only [stage, hp]
      exact .plain _ hp (by simp)

/-- A failure is told to all members of the chain, and is the reply. -/
theorem course_invocationFailed {f : Failure} : (d.invocationFailed session payload f).Course steps reply ↔
    steps = complaint d.chain session payload f ∧ reply = some ⟨"Invocation failed: " ++ f.trace, []⟩ := by
  unfold invocationFailed complaint
  exact course_noteCalls_done

/-- What follows the call of a handler. -/
def conclude (d : Dispatcher) (session : SessionId) (payload : Json) (o : Outcome Unit) : Script (Option Reply) :=
  match o.contain "handler" with
  | .ok () => do
    Script.noteCalls session (d.chain.run (.afterDispatch payload))
    return none
  | .error f => d.invocationFailed session payload f

theorem course_conclude {o : Outcome Unit} : (d.conclude session payload o).Course steps reply ↔
    o = .ok () ∧ steps = closing d.chain session payload ∧ reply = none ∨
      ∃ f, o.contain "handler" = .error f ∧ steps = complaint d.chain session payload f ∧
        reply = some ⟨"Invocation failed: " ++ f.trace, []⟩ := by
  unfold conclude
  cases hc : o.contain "handler" with
  | ok u =>
    have finished : o = .ok () := Resolvers.contain_ok.mp hc
    simp only [finished, true_and, reduceCtorEq, false_and, exists_false, or_false]
    exact course_noteCalls_done
  | error f =>
    have unfinished : o ≠ .ok () := by
      rintro rfl
      cases hc
    simp only [unfinished, false_and, false_or, Except.error.injEq, exists_eq_left']
    exact course_invocationFailed

/-- What follows when the chain was told that a handler was found. -/
def carryOut (d : Dispatcher) (session : SessionId) (attribute? : String → Option Typed) (payload : Json)
    (h : Descriptor) : Script (Option Reply) :=
  match (d.resolvers.resolveAll ⟨payload, session, attribute?⟩ h.params).contain "resolver" with
  | .error f => d.invocationFailed session payload f
  | .ok args =>
    match d.validate h.params args with
    | [] => (h.run ⟨args⟩).bind (d.conclude session payload)
    | violations => .done (some ⟨"Validation failed", violations⟩)

theorem invoke_eq : d.invoke session attribute? payload h =
    (Script.noteCalls session (d.chain.run (.beforeDispatch payload))).bind fun _ =>
      d.carryOut session attribute? payload h := rfl

/-- A request whose handler was found is opened, and then does what its stage tells. -/
theorem course_invoke : (d.invoke session attribute? payload h).Course steps reply ↔
    Tells d.chain session (d.gate session attribute? payload h) steps reply := by
  rw [invoke_eq, course_noteCalls_bind]
  unfold carryOut gate
  cases (d.resolvers.resolveAll ⟨payload, session, attribute?⟩ h.params).contain "resolver" with
  | error f =>
    simp only [course_invocationFailed]
    constructor
    · rintro ⟨after, rfl, rfl, rfl⟩
      exact .unresolved payload f
    · rintro ⟨⟩
      exact ⟨_, rfl, rfl, rfl⟩
  | ok args =>
    dsimp only
    cases d.validate h.params args with
    | nil =>
      dsimp only
      constructor
      · rintro ⟨after, rfl, rest⟩
        obtain ⟨own, last, o, rfl, ran, concluded⟩ := course_bind.mp rest
        rw [← List.append_assoc]
        rcases course_conclude.mp concluded with ⟨rfl, rfl, rfl⟩ | ⟨f, failure, rfl, rfl⟩
        · exact .carriedOut payload h args own ran
        · exact .failed payload h args own o f ran failure
      · intro told
        cases told with
        | carriedOut _ _ _ own ran =>
          refine ⟨own ++ closing d.chain session payload, List.append_assoc _ _ _, ?_⟩
          exact course_bind.mpr ⟨own, _, .ok (), rfl, ran, course_conclude.mpr (.inl ⟨rfl, rfl, rfl⟩)⟩
        | failed _ _ _ own o f ran failure =>
          refine ⟨own ++ complaint d.chain session payload f, List.append_assoc _ _ _, ?_⟩
          exact course_bind.mpr ⟨own, _, o, rfl, ran, course_conclude.mpr (.inr ⟨f, failure, rfl, rfl⟩)⟩
    | cons v vs =>
      dsimp only
      constructor
      · rintro ⟨after, rfl, last⟩
        obtain ⟨rfl, rfl⟩ := course_done.mp last
        rw [List.append_nil]
        exact .invalid payload (v :: vs)
      · rintro ⟨⟩
        exact ⟨[], (List.append_nil _).symm, .done _⟩

theorem dispatch_found (routed : Routed message payload type command)
    (found : d.handlers.find? type command = some h) :
    d.dispatch session attribute? message = d.invoke session attribute? payload h := by
  obtain ⟨text, ⟨members, rfl⟩, htype, hcommand⟩ := routed
  simp only [dispatch, route, text, names_iff.mp htype, names_iff.mp hcommand, found]

/-- A message that is not routed is answered, and nothing else is done. -/
theorem course_refused {r : Reply} (tells : Tells d.chain session s [] (some r))
    (only : ∀ steps reply, Tells d.chain session s steps reply → steps = [] ∧ reply = some r) :
    (Script.done (some r)).Course steps reply ↔ Tells d.chain session s steps reply := by
  rw [course_done]
  constructor
  · rintro ⟨rfl, rfl⟩
    exact tells
  · exact only steps reply

theorem course_unknown {c : String} :
    ((Script.noteCalls session (d.chain.report ⟨"No handler found for command: " ++ c, []⟩ (some payload))).bind
      fun _ => .done (some ⟨"No handler found for command: " ++ c, []⟩)).Course steps reply ↔
      Tells d.chain session (.unknown payload c) steps reply := by
  rw [course_noteCalls_done]
  constructor
  · rintro ⟨rfl, rfl⟩
    exact .unknown payload c
  · rintro ⟨⟩
    exact ⟨rfl, rfl⟩

/-- A dispatched message does what is told at the stage where it ends. -/
theorem course_dispatch : (d.dispatch session attribute? message).Course steps reply ↔
    Tells d.chain session (d.stage session attribute? message) steps reply := by
  unfold dispatch stage route
  cases Json.parse message with
  | error e => exact course_refused (.malformed _) fun steps reply told => by cases told; exact ⟨rfl, rfl⟩
  | ok v =>
    cases v with
    | object members =>
      dsimp only
      cases routingKey? (.object members) "type" with
      | none => exact course_refused .untyped fun steps reply told => by cases told; exact ⟨rfl, rfl⟩
      | some type =>
        cases routingKey? (.object members) "command" with
        | none => exact course_refused .uncommanded fun steps reply told => by cases told; exact ⟨rfl, rfl⟩
        | some command =>
          dsimp only
          cases d.handlers.find? type command with
          | none => exact course_unknown
          | some h => exact course_invoke
    | _ => exact course_refused (.malformed _) fun steps reply told => by cases told; exact ⟨rfl, rfl⟩

theorem course_handler {o : Outcome (Option Bytes)} :
    (d.handler { session, message, attribute? }).Course steps o ↔
      ∃ reply, o = .ok (reply.map Reply.render) ∧
        Tells d.chain session (d.stage session attribute? message) steps reply := by
  unfold handler
  rw [Script.bind_eq, course_bind]
  constructor
  · rintro ⟨before, after, reply, rfl, ran, last⟩
    obtain ⟨rfl, rfl⟩ := course_done.mp last
    refine ⟨reply, rfl, ?_⟩
    rw [List.append_nil]
    exact course_dispatch.mp ran
  · rintro ⟨reply, rfl, told⟩
    exact ⟨steps, [], reply, (List.append_nil _).symm, course_dispatch.mpr told, .done _⟩

end Dispatcher
end FrameServer.Structured
